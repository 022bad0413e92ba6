import Feo.Proof.Guards.Exclusion

namespace Feo.ReadWriteAccessControlPtr

open Foundation

theorem lockReadLoop_ne_sendMandatory (state : UInt16) :
    lockReadLoop state ≠ .panicked .sendMandatory := by
  unfold lockReadLoop
  split
  · decide
  · split
    · decide
    · simp

theorem unlockReadLoop_ne_sendMandatory (state : UInt16) :
    unlockReadLoop state ≠ .panicked .sendMandatory := by
  unfold unlockReadLoop
  split
  · decide
  · split
    · decide
    · simp

/-- Only the check of a dropped write guard asks for its send. -/
theorem Point.step_sendMandatory {point : Point} {lockState next : UInt16}
    (stepped : point.step lockState = some (next, .panicked .sendMandatory)) :
    point = .drop ∧ lockState ≠ 0 := by
  cases point with
  | lockRead =>
      have answer := (Prod.mk.inj (Option.some.inj stepped)).2
      exact (lockReadLoop_ne_sendMandatory _ answer).elim
  | lockReadExchange state =>
      rw [Point.step] at stepped
      split at stepped
      · cases stepped
      · have answer := (Prod.mk.inj (Option.some.inj stepped)).2
        exact (lockReadLoop_ne_sendMandatory _ answer).elim
  | reading =>
      have answer := (Prod.mk.inj (Option.some.inj stepped)).2
      exact (unlockReadLoop_ne_sendMandatory _ answer).elim
  | unlockReadExchange state =>
      rw [Point.step] at stepped
      split at stepped
      · cases stepped
      · have answer := (Prod.mk.inj (Option.some.inj stepped)).2
        exact (unlockReadLoop_ne_sendMandatory _ answer).elim
  | lockWrite | writing =>
      rw [Point.step] at stepped
      split at stepped <;> cases stepped
  | drop =>
      refine ⟨rfl, ?_⟩
      rintro rfl
      cases stepped
  | released | panicked => cases stepped

namespace Guards

variable {Thread : Type}

/-- No thread holds a lock. -/
def Free (guards : Guards Thread) : Prop :=
  ∀ thread, (guards.guard thread).point.holdsRead = false ∧
    (guards.guard thread).holdsWrite = false

/-- No thread panics in its send, nor behind it when the guard is dropped. -/
def SendsNormally (guards : Guards Thread) : Prop :=
  ∀ thread, (guards.guard thread).point ≠ .panicked .invalidState ∧
    ((guards.guard thread).point = .panicked .sendMandatory →
      (guards.guard thread).unsent = true)

/-- The lock state is zero exactly when no thread holds a lock. -/
theorem Exclusive.free_iff [Fintype Thread] {guards : Guards Thread}
    (exclusive : guards.Exclusive) : guards.Free ↔ guards.lockState = 0 := by
  have free : guards.Free ↔ guards.readers.card = 0 ∧ guards.writers.card = 0 := by
    simp [Free, readers, writers, Finset.filter_eq_empty_iff, forall_and]
  have zero : guards.lockState = 0 ↔ guards.lockState.toNat = 0 := UInt16.toNat_inj.symm
  unfold Exclusive at exclusive
  rw [eq_maxState_iff] at exclusive
  rw [free, zero]
  omega

variable [DecidableEq Thread]

/-- The lock is free whenever a thread that has sent its guard drops it. -/
def FreeAtDrops (events : List (GuardEvent Thread)) : Prop :=
  ∀ before thread after (guards : Guards Thread), events = before ++ .access thread :: after →
    machine.run initial before = some guards → (guards.guard thread).point = .drop →
      (guards.guard thread).unsent = false → guards.Free

/-- A panicked thread performs no further event. -/
theorem step_panicked {guards next : Guards Thread} {event : GuardEvent Thread} {thread : Thread}
    {assertion : Assertion} (panicked : (guards.guard thread).point = .panicked assertion)
    (stepped : guards.step event = some next) : next.guard thread = guards.guard thread := by
  cases event with
  | get other | getMut other | dropUnsent other =>
      rw [step] at stepped
      split at stepped
      · next found =>
          cases stepped
          rw [put_guard, if_neg]
          rintro rfl
          rw [panicked] at found
          cases found
      · cases stepped
  | access other =>
      rw [step, Option.map_eq_some_iff] at stepped
      obtain ⟨⟨lockState, point⟩, accessed, same⟩ := stepped
      cases same
      rw [put_guard, if_neg]
      rintro rfl
      rw [panicked] at accessed
      cases accessed

/-- A panicked thread stays as it is. -/
theorem run_panicked {start final : Guards Thread} {events : List (GuardEvent Thread)}
    {thread : Thread} {assertion : Assertion}
    (panicked : (start.guard thread).point = .panicked assertion)
    (reached : machine.run start events = some final) :
    final.guard thread = start.guard thread := by
  apply machine.run_preserves (fun guards => guards.guard thread = start.guard thread)
    ?_ rfl reached
  intro guards event next same stepped
  rw [← same] at panicked ⊢
  exact step_panicked panicked stepped

/-- A step sends normally if the lock is free at the drop of a sent guard. -/
theorem SendsNormally.step [Fintype Thread] {guards next : Guards Thread}
    {event : GuardEvent Thread} (normal : guards.SendsNormally) (invariant : guards.Invariant)
    (stepped : guards.step event = some next)
    (free : ∀ thread, event = .access thread → (guards.guard thread).point = .drop →
      (guards.guard thread).unsent = false → guards.Free) : next.SendsNormally := by
  intro thread
  refine ⟨fun invalid => ?_, fun panicked => ?_⟩
  · have sound := (step_invariant invariant stepped).sound thread
    rw [invalid] at sound
    exact sound rfl
  · cases event with
    | get other | getMut other | dropUnsent other =>
        rw [Guards.step] at stepped
        split at stepped
        · cases stepped
          rw [put_guard] at panicked ⊢
          split at panicked
          · cases panicked
          · next different =>
              rw [if_neg different]
              exact (normal thread).2 panicked
        · cases stepped
    | access other =>
        rw [Guards.step, Option.map_eq_some_iff] at stepped
        obtain ⟨⟨lockState, point⟩, accessed, same⟩ := stepped
        cases same
        rw [put_guard] at panicked ⊢
        split at panicked
        · next same =>
            rw [if_pos same]
            change point = _ at panicked
            subst panicked
            obtain ⟨dropping, locked⟩ := Point.step_sendMandatory accessed
            by_contra sent
            exact locked (invariant.exclusive.free_iff.mp
              (free other rfl dropping (Bool.eq_false_iff.mpr sent)))
        · next different =>
            rw [if_neg different]
            exact (normal thread).2 panicked

/-- A thread that drops its sent guard while the lock is held panics. -/
theorem step_drop_held [Fintype Thread] {guards next : Guards Thread} {thread : Thread}
    (invariant : guards.Invariant) (held : ¬ guards.Free)
    (dropping : (guards.guard thread).point = .drop)
    (stepped : guards.step (.access thread) = some next) :
    next.guard thread = ⟨.panicked .sendMandatory, (guards.guard thread).unsent⟩ := by
  have locked : isLocked guards.lockState = true := by
    rw [invariant.exclusive.free_iff] at held
    simp [isLocked, held]
  rw [step, dropping, Point.step, locked] at stepped
  cases stepped
  rw [put_guard, if_pos rfl]
  rfl

/-- The sends are normal exactly when the lock is free at the drops behind them. -/
theorem run_sendsNormally_iff {Thread : Type} [Fintype Thread] [DecidableEq Thread]
    (events : List (GuardEvent Thread)) (final : Guards Thread)
    (reached : machine.run initial events = some final) :
    final.SendsNormally ↔ FreeAtDrops events := by
  constructor
  · intro normal before thread after guards split earlier dropping sent
    subst split
    obtain ⟨source, target, same, stepped, later⟩ := machine.run_split_iff.mp reached
    rw [earlier] at same
    cases same
    by_contra held
    have panics := step_drop_held (run_invariant earlier) held dropping stepped
    have stays := run_panicked (by rw [panics]) later
    have unsent := (normal thread).2 (by rw [stays, panics])
    rw [stays, panics, sent] at unsent
    cases unsent
  · intro free
    revert free
    apply machine.run_induction (fun history guards => FreeAtDrops history → guards.SendsNormally)
      ?_ ?_ reached
    · intro free thread
      exact ⟨fun impossible => (nomatch impossible), fun impossible => (nomatch impossible)⟩
    · intro history guards event next earlier normal stepped free
      have before : FreeAtDrops history := by
        intro front thread back middle split
        exact free front thread (back ++ [event]) middle (by rw [split]; simp)
      apply (normal before).step (run_invariant earlier) stepped
      intro thread same dropping sent
      exact free history thread [] guards (by rw [same]) earlier dropping sent

/-- A reader locks between the release of a sent guard and the check of its drop. -/
def overtaken : List (GuardEvent Bool) :=
  [.getMut true, .access true, .access true, .get false, .access false, .access false, .access true]

/-- The writer has sent its guard and panics because the reader holds the lock. -/
theorem overtaken_panics : ∃ final : Guards Bool,
    machine.run initial overtaken = some final ∧
      final.guard true = ⟨.panicked .sendMandatory, false⟩ ∧ ¬ final.SendsNormally := by
  refine ⟨(machine.run initial overtaken).get rfl, (Option.some_get _).symm, rfl, ?_⟩
  intro normal
  have unsent := (normal true).2 rfl
  cases unsent

/-- One thread sends its write guard and reads, and another one drops a write guard unsent. -/
def sentAndUnsent : List (GuardEvent Bool) :=
  [.getMut true, .access true, .access true, .access true, .getMut false, .access false,
    .dropUnsent false, .access false, .get true, .access true]

/-- The sent guard is released, the unsent one panics, and the lock is free at the drop. -/
theorem run_sendsNormally_sent : ∃ final : Guards Bool,
    machine.run initial sentAndUnsent = some final ∧
      final.guard false = ⟨.panicked .sendMandatory, true⟩ ∧
      final.SendsNormally ∧ FreeAtDrops sentAndUnsent := by
  refine ⟨(machine.run initial sentAndUnsent).get rfl, (Option.some_get _).symm, rfl, ?_⟩
  have normal : ((machine.run initial sentAndUnsent).get rfl).SendsNormally := by
    unfold SendsNormally
    decide
  exact ⟨normal, (run_sendsNormally_iff sentAndUnsent _ (Option.some_get rfl).symm).mp normal⟩

end Guards

end Feo.ReadWriteAccessControlPtr
