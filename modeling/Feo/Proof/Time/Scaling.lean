import Feo.Construction.Clock

namespace Feo

/-- The absolute value of a factor is an unsigned number. -/
theorem unsignedAbs_toNat (factor : Int32) :
    (UInt32.ofNat factor.toInt.natAbs).toNat = factor.toInt.natAbs := by
  have lower := factor.le_toInt
  have upper := factor.toInt_lt
  rw [UInt32.toNat_ofNat']
  omega

/-- A factor is zero, positive, or negative. -/
theorem factor_cases (factor : Int32) :
    factor = 0 ∨ 0 < factor ∧ factor ≠ 0 ∧ 0 < factor.toInt ∨
      ¬ 0 < factor ∧ factor ≠ 0 ∧ factor.toInt < 0 := by
  have order : 0 < factor ↔ 0 < factor.toInt := Int32.lt_iff_toInt_lt
  have zero : factor = 0 ↔ factor.toInt = 0 := Int32.toInt_inj.symm
  rw [order, ne_eq, zero]
  omega

/-- The FEO time of a real duration since the start, in nanoseconds. -/
def feoNanos (factor : Int32) (nanos : Nat) : Nat :=
  if factor = 0 then nanos
  else if 0 < factor then nanos * factor.toInt.natAbs
  else nanos / factor.toInt.natAbs

theorem feoNanos_mono (factor : Int32) {nanos later : Nat} (ordered : nanos ≤ later) :
    feoNanos factor nanos ≤ feoNanos factor later := by
  unfold feoNanos
  split
  · exact ordered
  · split
    · exact Nat.mul_le_mul_right _ ordered
    · exact Nat.div_le_div_right ordered

@[simp] theorem feoNanos_zero (factor : Int32) : feoNanos factor 0 = 0 := by
  unfold feoNanos
  split
  · rfl
  · split
    · exact Nat.zero_mul _
    · exact Nat.zero_div _

/-- The real time of a sleep, in nanoseconds. -/
def sleepNanos (factor : Int32) (nanos : Nat) : Nat :=
  if factor = 0 then nanos
  else if 0 < factor then nanos / factor.toInt.natAbs
  else nanos * factor.toInt.natAbs

theorem sleepNanos_mono (factor : Int32) {nanos longer : Nat} (ordered : nanos ≤ longer) :
    sleepNanos factor nanos ≤ sleepNanos factor longer := by
  unfold sleepNanos
  split
  · exact ordered
  · split
    · exact Nat.div_le_div_right ordered
    · exact Nat.mul_le_mul_right _ ordered

/-- The instant of a reading, in nanoseconds. -/
def nowNanos (state : Option Speed) (reading : Int) : Int :=
  match state with
  | none => reading
  | some speed =>
      if speed.factor = 0 then reading
      else speed.start.nanos + feoNanos speed.factor (reading - speed.start.nanos).toNat

/-- A reading since the start is converted with every factor. -/
theorem nowNanos_started {speed : Speed} {reading : Int} (started : speed.start.nanos ≤ reading) :
    nowNanos (some speed) reading =
      speed.start.nanos + feoNanos speed.factor (reading - speed.start.nanos).toNat := by
  by_cases zero : speed.factor = 0
  · rw [nowNanos, if_pos zero, feoNanos, if_pos zero]
    omega
  · rw [nowNanos, if_neg zero]

theorem mul_nanos {duration product : Duration} {factor : UInt32}
    (multiplied : duration.mul factor = .ok product) :
    product.nanos = duration.nanos * factor.toNat := by
  unfold Duration.mul at multiplied
  split at multiplied <;> cases multiplied
  rfl

theorem div_nanos {duration quotient : Duration} {factor : UInt32}
    (divided : duration.div factor = .ok quotient) :
    quotient.nanos = duration.nanos / factor.toNat := by
  unfold Duration.div at divided
  split at divided <;> cases divided
  rfl

theorem checkedAdd_nanos {reading later : Reading} {duration : Duration}
    (added : reading.checkedAdd duration = some later) :
    later.nanos = reading.nanos + duration.nanos := by
  unfold Reading.checkedAdd at added
  split at added <;> cases added
  rfl

theorem scaled_nanos {factor : Int32} {duration slept : Duration}
    (scaled : duration.scaled factor = .ok slept) :
    slept.nanos = sleepNanos factor duration.nanos := by
  unfold Duration.scaled at scaled
  unfold sleepNanos
  split at scaled
  · next zero =>
      cases scaled
      rw [if_pos zero]
  · next nonzero =>
      rw [if_neg nonzero]
      split at scaled
      · next positive =>
          cases scaled
          rw [if_pos positive]
      · next negative => rw [mul_nanos scaled, unsignedAbs_toNat, if_neg negative]

theorem feoElapsed_nanos {factor : Int32} {real elapsed : Duration} (nonzero : factor ≠ 0)
    (converted : feoElapsed factor real = .ok elapsed) :
    elapsed.nanos = feoNanos factor real.nanos := by
  rw [feoNanos, if_neg nonzero]
  unfold feoElapsed at converted
  dsimp only at converted
  split at converted
  · next positive => rw [if_pos positive, mul_nanos converted, unsignedAbs_toNat]
  · next negative => rw [if_neg negative, div_nanos converted, unsignedAbs_toNat]

/-- Without a factor the conversion divides by zero. -/
theorem factor_ne_zero_of_feoElapsed {factor : Int32} {real elapsed : Duration}
    (converted : feoElapsed factor real = .ok elapsed) : factor ≠ 0 := by
  rintro rfl
  cases converted

/-- The returned instant is the one of its reading. -/
theorem now_nanos {state : Option Speed} {reading instant : Instant}
    (read : Instant.now state reading = .ok instant) :
    instant.nanos = nowNanos state reading.nanos := by
  cases state with
  | none =>
      cases read
      rfl
  | some speed =>
      change _ = if speed.factor = 0 then _ else _
      unfold Instant.now at read
      dsimp only at read
      split at read
      · next nonzero =>
          rw [if_neg nonzero]
          obtain ⟨elapsed, converted, ends⟩ := bind_ok read
          have later : speed.start.checkedAdd elapsed = some instant := by
            split at ends
            · next added =>
                cases ends
                exact added
            · cases ends
          rw [checkedAdd_nanos later, feoElapsed_nanos nonzero converted]
          rfl
      · next zero =>
          cases read
          rw [if_pos (not_not.mp zero)]

/-- The FEO time behind an earlier time inverts the sleep, up to the rounding of a division. -/
theorem feoNanos_sleepNanos (factor : Int32) (earlier nanos : Nat) :
    if 0 < factor then
      feoNanos factor earlier + nanos <
          feoNanos factor (earlier + sleepNanos factor nanos) + factor.toInt.natAbs ∧
        feoNanos factor (earlier + sleepNanos factor nanos) ≤ feoNanos factor earlier + nanos
    else feoNanos factor (earlier + sleepNanos factor nanos) = feoNanos factor earlier + nanos := by
  unfold feoNanos sleepNanos
  rcases factor_cases factor with zero | ⟨positive, nonzero, above⟩ | ⟨negative, nonzero, below⟩
  · subst zero
    rfl
  · simp only [if_pos positive, if_neg nonzero]
    have split := Nat.div_add_mod' nanos factor.toInt.natAbs
    have rest := Nat.mod_lt nanos (show 0 < factor.toInt.natAbs by omega)
    rw [Nat.add_mul]
    omega
  · simp only [if_neg negative, if_neg nonzero]
    exact Nat.add_mul_div_right earlier nanos (by omega)

/-- The elapsed FEO time is the duration, up to the factor in nanoseconds when it is positive. -/
def Kept (factor : Int32) (duration elapsed : Duration) : Prop :=
  if 0 < factor then
    duration.nanos < elapsed.nanos + factor.toInt.natAbs ∧ elapsed.nanos ≤ duration.nanos
  else elapsed = duration

theorem kept_of_feoNanos {factor : Int32} {duration elapsed : Duration} (earlier : Nat)
    (measured : feoNanos factor (earlier + sleepNanos factor duration.nanos) =
      feoNanos factor earlier + elapsed.nanos) : Kept factor duration elapsed := by
  have inverse := feoNanos_sleepNanos factor earlier duration.nanos
  unfold Kept
  split at inverse
  · next positive =>
      rw [if_pos positive]
      omega
  · next negative =>
      rw [if_neg negative]
      have same : elapsed.nanos = duration.nanos := by omega
      cases elapsed
      cases duration
      cases same
      rfl

/-- A scaled sleep keeps its duration in FEO time, and a longer duration sleeps longer. -/
theorem scaled_kept (speed : Speed) (duration slept : Duration)
    (scaled : duration.scaled speed.factor = .ok slept) :
    (∀ elapsed, feoElapsed speed.factor slept = .ok elapsed →
      Kept speed.factor duration elapsed) ∧
    (∀ before after began woken : Instant, speed.start.nanos ≤ before.nanos →
      after.nanos = before.nanos + slept.nanos →
      Instant.now (some speed) before = .ok began →
      Instant.now (some speed) after = .ok woken →
        Kept speed.factor duration (woken.saturatingDurationSince began)) ∧
    ∀ longer later : Duration, duration.nanos ≤ longer.nanos →
      longer.scaled speed.factor = .ok later → slept.nanos ≤ later.nanos := by
  have slept_nanos := scaled_nanos scaled
  refine ⟨?_, ?_, ?_⟩
  · intro elapsed converted
    have nonzero := factor_ne_zero_of_feoElapsed converted
    apply kept_of_feoNanos 0
    rw [feoElapsed_nanos nonzero converted, slept_nanos, feoNanos_zero, Nat.zero_add, Nat.zero_add]
  · intro before after began woken started sleeps first last
    apply kept_of_feoNanos (before.nanos - speed.start.nanos).toNat
    have early := nowNanos_started started
    have late := nowNanos_started (show speed.start.nanos ≤ after.nanos by omega)
    rw [← now_nanos first] at early
    rw [← now_nanos last] at late
    have later : (after.nanos - speed.start.nanos).toNat =
        (before.nanos - speed.start.nanos).toNat + sleepNanos speed.factor duration.nanos := by
      omega
    have ordered := feoNanos_mono speed.factor (Nat.le_add_right
      (before.nanos - speed.start.nanos).toNat (sleepNanos speed.factor duration.nanos))
    rw [later] at late
    change _ = _ + (woken.nanos - began.nanos).toNat
    omega
  · intro longer later ordered other
    rw [slept_nanos, scaled_nanos other]
    exact sleepNanos_mono speed.factor ordered

/-- The smallest factor makes a sleep of three nanoseconds last more than six seconds. -/
theorem scaled_kept_smallest :
    Kept (-2147483648) (Duration.fromNanos 3) (Duration.fromNanos 3) :=
  (scaled_kept ⟨⟨0, by omega, by omega⟩, -2147483648⟩ (Duration.fromNanos 3)
    (Duration.fromNanos 6442450944) rfl).1 (Duration.fromNanos 3) rfl

end Feo
