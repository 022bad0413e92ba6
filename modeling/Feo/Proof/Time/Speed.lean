import Feo.Proof.Time.Scaling

namespace Feo

/-- The instants of a later reading are later. -/
theorem nowNanos_mono (state : Option Speed) {reading later : Int} (ordered : reading ≤ later) :
    nowNanos state reading ≤ nowNanos state later := by
  cases state with
  | none => exact ordered
  | some speed =>
      unfold nowNanos
      dsimp only
      split
      · exact ordered
      · have mono := feoNanos_mono speed.factor
          (show (reading - speed.start.nanos).toNat ≤ (later - speed.start.nanos).toNat by omega)
        omega

/-- The clock of a new speed starts at its own reading. -/
theorem nowNanos_start (start : Instant) (factor : Int32) :
    nowNanos (some ⟨start, factor⟩) start.nanos = start.nanos := by
  rw [nowNanos_started (Int.le_refl start.nanos)]
  simp

/-- The instants of later readings are not before the instant of an earlier one. -/
theorem instants_after {state : Option Speed} {calls : List ClockCall} {values : List Instant}
    {reading bound : Int} (held : bound ≤ nowNanos state reading)
    (later : ∀ call ∈ calls, reading ≤ call.reading.nanos)
    (ordered : calls.Pairwise fun call other => call.reading.nanos ≤ other.reading.nanos)
    (returned : instants state calls = .ok values) :
    ∀ value ∈ values, bound ≤ value.nanos := by
  induction calls generalizing state reading values with
  | nil =>
      cases returned
      exact List.forall_mem_nil _
  | cons call calls hypothesis =>
      obtain ⟨first, rest⟩ := List.forall_mem_cons.mp later
      obtain ⟨behind, sorted⟩ := List.pairwise_cons.mp ordered
      cases call with
      | now current =>
          obtain ⟨value, read, continued⟩ := bind_ok returned
          obtain ⟨others, recorded, same⟩ := bind_ok continued
          cases same
          refine List.forall_mem_cons.mpr ⟨?_, hypothesis held rest sorted recorded⟩
          rw [now_nanos read]
          exact Int.le_trans held (nowNanos_mono state first)
      | speed factor start =>
          obtain ⟨next, set, continued⟩ := bind_ok returned
          cases state with
          | some speed => cases set
          | none =>
              cases set
              apply hypothesis ?_ behind sorted continued
              rw [ClockCall.reading, nowNanos_start]
              exact Int.le_trans held first

/-- The returned instants never go back, before and after the speed is set. -/
theorem instants_monotone (calls : List ClockCall) (values : List Instant)
    (ordered : calls.Pairwise fun call other => call.reading.nanos ≤ other.reading.nanos)
    (returned : instants none calls = .ok values) :
    values.Pairwise fun value other => value.nanos ≤ other.nanos := by
  generalize (none : Option Speed) = state at returned
  induction calls generalizing state values with
  | nil =>
      cases returned
      exact List.Pairwise.nil
  | cons call calls hypothesis =>
      obtain ⟨behind, sorted⟩ := List.pairwise_cons.mp ordered
      cases call with
      | now current =>
          obtain ⟨value, read, continued⟩ := bind_ok returned
          obtain ⟨others, recorded, same⟩ := bind_ok continued
          cases same
          have held : value.nanos ≤ nowNanos state current.nanos := Int.le_of_eq (now_nanos read)
          exact .cons (instants_after held behind sorted recorded)
            (hypothesis others sorted state recorded)
      | speed factor start =>
          obtain ⟨next, set, continued⟩ := bind_ok returned
          exact hypothesis values sorted next continued

/-- The clock runs at the speed of the system until it is slowed down by three at 10 ns. -/
def slowedCalls : List ClockCall :=
  [.now ⟨7, by omega, by omega⟩, .speed (-3) ⟨10, by omega, by omega⟩,
    .now ⟨15, by omega, by omega⟩, .now ⟨26, by omega, by omega⟩]

def slowedInstants : List Instant :=
  [⟨7, by omega, by omega⟩, ⟨11, by omega, by omega⟩, ⟨15, by omega, by omega⟩]

theorem instants_monotone_slowed :
    instants none slowedCalls = .ok slowedInstants ∧
      slowedInstants.Pairwise fun value other => value.nanos ≤ other.nanos := by
  have early : Instant.now (some ⟨⟨10, by omega, by omega⟩, -3⟩) ⟨15, by omega, by omega⟩ =
      .ok ⟨11, by omega, by omega⟩ := rfl
  have late : Instant.now (some ⟨⟨10, by omega, by omega⟩, -3⟩) ⟨26, by omega, by omega⟩ =
      .ok ⟨15, by omega, by omega⟩ := rfl
  have returned : instants none slowedCalls = .ok slowedInstants := by
    simp only [slowedCalls, instants, speed, bind, Except.bind, early, late]
    rfl
  exact ⟨returned, instants_monotone slowedCalls slowedInstants (by decide) returned⟩

/-- The timestamp converts the real time since the startup like a sleep. -/
theorem timestamp_nanos {info : TimeInfo} {factor : Int32} {now : Instant} {stamp : Timestamp}
    (stamped : timestamp (some info) factor now = .ok stamp) :
    stamp.duration.nanos =
      sleepNanos factor (now.saturatingDurationSince info.instant).nanos := by
  obtain ⟨instant, started, continued⟩ := bind_ok stamped
  obtain ⟨duration, scaled, same⟩ := bind_ok continued
  cases started
  cases same
  exact scaled_nanos scaled

/-- A quotient is the product exactly when the divisor is one or the dividend is zero. -/
theorem div_eq_mul_iff {value divisor : Nat} (positive : 0 < divisor) :
    value / divisor = value * divisor ↔ divisor = 1 ∨ value = 0 := by
  constructor
  · intro same
    by_contra neither
    rw [not_or] at neither
    have smaller : value / divisor < value := Nat.div_lt_self (by omega) (by omega)
    have larger : value ≤ value * divisor := Nat.le_mul_of_pos_right value positive
    omega
  · rintro (rfl | rfl)
    · rw [Nat.div_one, Nat.mul_one]
    · rw [Nat.zero_div, Nat.zero_mul]

/-- A sleep and the clock convert a duration alike only where the factor has no effect. -/
theorem sleepNanos_eq_feoNanos_iff (factor : Int32) (nanos : Nat) :
    sleepNanos factor nanos = feoNanos factor nanos ↔
      factor = 0 ∨ factor = 1 ∨ factor = -1 ∨ nanos = 0 := by
  have one : factor = 1 ↔ factor.toInt = 1 := Int32.toInt_inj.symm
  have minusOne : factor = -1 ↔ factor.toInt = -1 := Int32.toInt_inj.symm
  unfold sleepNanos feoNanos
  rcases factor_cases factor with zero | ⟨positive, nonzero, above⟩ | ⟨negative, nonzero, below⟩
  · simp [zero]
  · simp only [nonzero, ↓reduceIte, if_pos positive, false_or, one, minusOne]
    rw [div_eq_mul_iff (by omega)]
    omega
  · simp only [nonzero, ↓reduceIte, if_neg negative, false_or, one, minusOne]
    rw [eq_comm, div_eq_mul_iff (by omega)]
    omega

/-- The timestamp is the FEO time since the startup exactly where the factor has no effect. -/
theorem timestamp_feoTime_iff (speed : Speed) (info : TimeInfo) (now : Instant)
    (stamp : Timestamp) (stamped : timestamp (some info) speed.factor now = .ok stamp) :
    (stamp.duration.nanos =
        feoNanos speed.factor (now.saturatingDurationSince info.instant).nanos ↔
      speed.factor = 0 ∨ speed.factor = 1 ∨ speed.factor = -1 ∨ now.nanos ≤ info.instant.nanos) ∧
    ∀ reading measured : Instant,
      reading.nanos = speed.start.nanos + (now.saturatingDurationSince info.instant).nanos →
      Instant.now (some speed) reading = .ok measured →
        (measured.saturatingDurationSince speed.start).nanos =
          feoNanos speed.factor (now.saturatingDurationSince info.instant).nanos := by
  constructor
  · rw [timestamp_nanos stamped, sleepNanos_eq_feoNanos_iff]
    have zero : (now.saturatingDurationSince info.instant).nanos = 0 ↔
        now.nanos ≤ info.instant.nanos := by
      change (now.nanos - info.instant.nanos).toNat = 0 ↔ _
      omega
    rw [zero]
  · intro reading measured same read
    have started : speed.start.nanos ≤ reading.nanos := by omega
    have converted := now_nanos read
    rw [nowNanos_started started] at converted
    have real : (reading.nanos - speed.start.nanos).toNat =
        (now.saturatingDurationSince info.instant).nanos := by omega
    rw [real] at converted
    change (measured.nanos - speed.start.nanos).toNat = _
    omega

/-- Both clocks read zero at the startup. -/
def startupAtZero : TimeInfo :=
  ⟨⟨0, Reading.zero_lower, Reading.zero_upper⟩, ⟨0, Reading.zero_lower, Reading.zero_upper⟩⟩

/-- A factor of two halves the timestamp of 1000 nanoseconds. -/
theorem timestamp_feoTime_halved :
    (Duration.fromNanos 500).nanos = feoNanos 2 1000 ↔
      (2 : Int32) = 0 ∨ (2 : Int32) = 1 ∨ (2 : Int32) = -1 ∨ (1000 : Int) ≤ 0 :=
  (timestamp_feoTime_iff ⟨startupAtZero.instant, 2⟩ startupAtZero ⟨1000, by omega, by omega⟩
    ⟨Duration.fromNanos 500⟩ rfl).1

/-- The timestamp is 500 nanoseconds where the clock with the factor two measures 2000. -/
theorem timestamp_twice :
    timestamp (some startupAtZero) 2 ⟨1000, by omega, by omega⟩ =
        .ok ⟨Duration.fromNanos 500⟩ ∧
      Instant.now (some ⟨startupAtZero.instant, 2⟩) ⟨1000, by omega, by omega⟩ =
        .ok ⟨2000, by omega, by omega⟩ ∧
      feoNanos 2 1000 = 2000 ∧ (Duration.fromNanos 500).nanos ≠ feoNanos 2 1000 :=
  ⟨rfl, rfl, rfl, by decide⟩

end Feo
