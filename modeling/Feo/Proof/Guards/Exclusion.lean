import Feo.Construction.Guards
import Feo.Foundation.Counting
import Feo.Proof.SharedMemory

namespace Feo.ReadWriteAccessControlPtr

open Foundation

/-- An atomic operation takes or releases one lock, or it changes no lock. -/
inductive Moves (lockState next : UInt16) (point after : Point) : Prop where
  | keeps (same : next = lockState) (reads : after.holdsRead = point.holdsRead)
      (writes : after = .writing ↔ point = .writing)
  | locksRead (room : lockState.toNat + 1 < 65535) (counted : next.toNat = lockState.toNat + 1)
      (point_eq : point.holdsRead = false ∧ point ≠ .writing)
      (after_eq : after = .reading)
  | unlocksRead (counted : next.toNat + 1 = lockState.toNat)
      (point_eq : point.holdsRead = true ∧ point ≠ .writing)
      (after_eq : after = .released)
  | locksWrite (free : lockState = 0) (marked : next = maxState)
      (point_eq : point = .lockWrite) (after_eq : after = .writing)
  | unlocksWrite (marked : lockState = maxState) (free : next = 0)
      (point_eq : point = .writing) (after_eq : after = .drop)

/-- No expected state wraps when it is incremented or decremented, and no release fails. -/
def Point.Sound : Point → Prop
  | .lockReadExchange state => state.toNat + 1 < 65535
  | .unlockReadExchange state => 0 < state.toNat
  | .panicked assertion => assertion ≠ .invalidState
  | _ => True

/-- A reader that has no lock yet goes on without one. -/
theorem lockReadLoop_moves {point : Point} (state : UInt16) (outside : point.holdsRead = false)
    (unwritten : point ≠ .writing) :
    (lockReadLoop state).Sound ∧ Moves state state point (lockReadLoop state) := by
  unfold lockReadLoop
  split
  · exact ⟨(fun impossible => nomatch impossible), .keeps rfl outside.symm (by simp [unwritten])⟩
  · next below =>
      split
      · exact ⟨(fun impossible => nomatch impossible),
          .keeps rfl outside.symm (by simp [unwritten])⟩
      · next unlocked =>
          have bound := state.toNat_lt
          have notMax : state.toNat ≠ 65535 := fun same => unlocked (UInt16.toNat_inj.mp same)
          have notBelow : state.toNat ≠ 65534 := fun same => below (UInt16.toNat_inj.mp same)
          have room : state.toNat + 1 < 65535 := by omega
          exact ⟨room, .keeps rfl outside.symm (by simp [unwritten])⟩

/-- A counted reader goes on with its lock. -/
theorem unlockReadLoop_moves {point : Point} {state : UInt16} (inside : point.holdsRead = true)
    (unwritten : point ≠ .writing) (counted : 0 < state.toNat)
    (bounded : state.toNat < maxState.toNat) :
    (unlockReadLoop state).Sound ∧ Moves state state point (unlockReadLoop state) := by
  rw [unlockReadLoop_eq counted bounded]
  exact ⟨counted, .keeps rfl inside.symm (by simp [unwritten])⟩

/-- An operation moves the lock state as its point tells. -/
theorem Point.step_moves {point after : Point} {lockState next : UInt16} (sound : point.Sound)
    (reads : point.holdsRead = true → 0 < lockState.toNat ∧ lockState.toNat < maxState.toNat)
    (writes : point = .writing → lockState = maxState)
    (stepped : point.step lockState = some (next, after)) :
    after.Sound ∧ Moves lockState next point after := by
  cases point with
  | lockRead =>
      cases stepped
      exact lockReadLoop_moves lockState rfl (by simp)
  | lockReadExchange state =>
      rw [Point.step] at stepped
      rcases compareExchange_cases lockState state (state + 1) with ⟨same, exchanged⟩ |
        ⟨differs, exchanged⟩
      · subst same
        rw [exchanged] at stepped
        cases stepped
        exact ⟨trivial, .locksRead sound (toNat_add_one sound) ⟨rfl, by simp⟩ rfl⟩
      · rw [exchanged] at stepped
        cases stepped
        exact lockReadLoop_moves lockState rfl (by simp)
  | reading =>
      cases stepped
      exact unlockReadLoop_moves rfl (by simp) (reads rfl).1 (reads rfl).2
  | unlockReadExchange state =>
      rw [Point.step] at stepped
      rcases compareExchange_cases lockState state (state - 1) with ⟨same, exchanged⟩ |
        ⟨differs, exchanged⟩
      · subst same
        rw [exchanged] at stepped
        cases stepped
        exact ⟨trivial, .unlocksRead (toNat_sub_one sound) ⟨rfl, by simp⟩ rfl⟩
      · rw [exchanged] at stepped
        cases stepped
        exact unlockReadLoop_moves rfl (by simp) (reads rfl).1 (reads rfl).2
  | lockWrite =>
      rw [Point.step] at stepped
      rcases compareExchange_cases lockState 0 maxState with ⟨same, exchanged⟩ |
        ⟨differs, exchanged⟩
      · rw [exchanged] at stepped
        cases stepped
        exact ⟨trivial, .locksWrite same rfl rfl rfl⟩
      · rw [exchanged] at stepped
        cases stepped
        exact ⟨by simp [Point.Sound], .keeps rfl rfl (by simp)⟩
  | writing =>
      have marked := writes rfl
      subst marked
      cases stepped
      exact ⟨trivial, .unlocksWrite rfl rfl rfl rfl⟩
  | drop =>
      cases stepped
      split
      · exact ⟨by simp [Point.Sound], .keeps rfl rfl (by simp)⟩
      · exact ⟨trivial, .keeps rfl rfl (by simp)⟩
  | released => cases stepped
  | panicked assertion => cases stepped

/-- The lock state is marked when it has the largest value. -/
theorem eq_maxState_iff (lockState : UInt16) : lockState = maxState ↔ lockState.toNat = 65535 :=
  UInt16.toNat_inj.symm

namespace Guards

variable {Thread : Type}

section Frame

variable [DecidableEq Thread]

@[simp] theorem put_lockState (guards : Guards Thread) (thread : Thread) (lockState : UInt16)
    (guard : Guard) : (guards.put thread lockState guard).lockState = lockState := rfl

theorem put_guard (guards : Guards Thread) (thread other : Thread) (lockState : UInt16)
    (guard : Guard) : (guards.put thread lockState guard).guard other =
      if other = thread then guard else guards.guard other :=
  Function.update_apply guards.guard thread guard other

end Frame

variable [Fintype Thread]

/-- Nobody writes and the lock state counts the readers, or one writer has locked it alone. -/
def Exclusive (guards : Guards Thread) : Prop :=
  guards.writers.card = 0 ∧ guards.lockState.toNat = guards.readers.card ∧
      guards.readers.card ≤ 65534 ∨
    guards.writers.card = 1 ∧ guards.readers.card = 0 ∧ guards.lockState = maxState

/-- The locks exclude each other, and each thread is at a sound point. -/
structure Invariant (guards : Guards Thread) : Prop where
  exclusive : Exclusive guards
  sound : ∀ thread, (guards.guard thread).point.Sound
  unsent : ∀ thread, (guards.guard thread).unsent = true →
    (guards.guard thread).point = .drop ∨ (guards.guard thread).point = .panicked .sendMandatory

/-- A writer has marked the lock state. -/
theorem Exclusive.marked {guards : Guards Thread} {thread : Thread} (exclusive : guards.Exclusive)
    (writes : (guards.guard thread).holdsWrite = true) : guards.lockState = maxState := by
  have positive : 0 < guards.writers.card := Finset.card_pos.mpr ⟨thread, by simp [writers, writes]⟩
  cases exclusive with
  | inl shared => omega
  | inr alone => exact alone.2.2

/-- A reader is counted by the lock state. -/
theorem Exclusive.counted {guards : Guards Thread} {thread : Thread} (exclusive : guards.Exclusive)
    (reads : (guards.guard thread).point.holdsRead = true) :
    0 < guards.lockState.toNat ∧ guards.lockState.toNat < maxState.toNat := by
  have positive : 0 < guards.readers.card := Finset.card_pos.mpr ⟨thread, by simp [readers, reads]⟩
  rw [maxState_toNat]
  cases exclusive with
  | inl shared => omega
  | inr alone => omega

/-- A guard at another point than its drop has not been dropped unsent. -/
theorem Invariant.sent {guards : Guards Thread} {thread : Thread} (invariant : guards.Invariant)
    (present : (guards.guard thread).point ≠ .drop)
    (running : (guards.guard thread).point ≠ .panicked .sendMandatory) :
    (guards.guard thread).unsent = false := by
  apply Bool.eq_false_iff.mpr
  intro unsent
  exact (invariant.unsent thread unsent).elim present running

theorem initial_invariant : (initial : Guards Thread).Invariant where
  exclusive := by
    have readers : (initial : Guards Thread).readers = ∅ := Finset.filter_false _
    have writers : (initial : Guards Thread).writers = ∅ := Finset.filter_false _
    rw [Exclusive, readers, writers]
    exact .inl ⟨rfl, rfl, Nat.zero_le _⟩
  sound _ := trivial
  unsent _ impossible := nomatch impossible

variable [DecidableEq Thread]

theorem readers_put (guards : Guards Thread) (thread : Thread) (lockState : UInt16)
    (guard : Guard) :
    (guards.put thread lockState guard).readers.card +
        (guards.guard thread).point.holdsRead.toNat =
      guards.readers.card + guard.point.holdsRead.toNat := by
  have change := card_filter_change (fun other => (guards.guard other).point.holdsRead)
    (fun other => ((guards.put thread lockState guard).guard other).point.holdsRead)
    thread fun other different => by rw [put_guard, if_neg different]
  rw [put_guard, if_pos rfl] at change
  exact change

theorem writers_put (guards : Guards Thread) (thread : Thread) (lockState : UInt16)
    (guard : Guard) :
    (guards.put thread lockState guard).writers.card + (guards.guard thread).holdsWrite.toNat =
      guards.writers.card + guard.holdsWrite.toNat := by
  have change := card_filter_change (fun other => (guards.guard other).holdsWrite)
    (fun other => ((guards.put thread lockState guard).guard other).holdsWrite)
    thread fun other different => by rw [put_guard, if_neg different]
  rw [put_guard, if_pos rfl] at change
  exact change

/-- A guard with the same locks keeps the exclusion. -/
theorem Exclusive.put {guards : Guards Thread} {thread : Thread} {guard : Guard}
    (exclusive : guards.Exclusive)
    (reads : guard.point.holdsRead = (guards.guard thread).point.holdsRead)
    (writes : guard.holdsWrite = (guards.guard thread).holdsWrite) :
    (guards.put thread guards.lockState guard).Exclusive := by
  have readers := readers_put guards thread guards.lockState guard
  have writers := writers_put guards thread guards.lockState guard
  rw [reads] at readers
  rw [writes] at writers
  rw [Exclusive, Nat.add_right_cancel readers, Nat.add_right_cancel writers]
  exact exclusive

/-- A move of one thread keeps the exclusion. -/
theorem Exclusive.moves {guards : Guards Thread} {thread : Thread} {next : UInt16} {after : Point}
    (exclusive : guards.Exclusive) (sent : (guards.guard thread).unsent = false)
    (moves : Moves guards.lockState next (guards.guard thread).point after) :
    (guards.put thread next ⟨after, false⟩).Exclusive := by
  have readers := readers_put guards thread next ⟨after, false⟩
  have writers := writers_put guards thread next ⟨after, false⟩
  have held : (guards.guard thread).holdsWrite =
      decide ((guards.guard thread).point = .writing) := by
    rw [Guard.holdsWrite, sent, Bool.or_false]
  rw [held] at writers
  unfold Exclusive at exclusive ⊢
  rw [eq_maxState_iff] at exclusive ⊢
  rw [put_lockState]
  cases moves with
  | keeps same reads writes =>
      have writing : (⟨after, false⟩ : Guard).holdsWrite =
          decide ((guards.guard thread).point = .writing) := by
        rw [Guard.holdsWrite, Bool.or_false]
        exact decide_eq_decide.mpr writes
      rw [reads] at readers
      rw [writing] at writers
      subst same
      omega
  | locksRead room counted outside entered =>
      subst entered
      rw [outside.1] at readers
      rw [decide_eq_false outside.2] at writers
      change _ + 0 = _ + 1 at readers
      change _ + 0 = _ + 0 at writers
      omega
  | unlocksRead counted inside left =>
      subst left
      rw [inside.1] at readers
      rw [decide_eq_false inside.2] at writers
      change _ + 1 = _ + 0 at readers
      change _ + 0 = _ + 0 at writers
      omega
  | locksWrite free marked outside entered =>
      subst entered
      subst marked
      rw [outside] at readers writers
      change _ + 0 = _ + 0 at readers
      change _ + 0 = _ + 1 at writers
      rw [free] at exclusive
      rw [maxState_toNat]
      change _ ∧ 0 = _ ∧ _ ∨ _ ∧ _ ∧ 0 = _ at exclusive
      omega
  | unlocksWrite marked free inside left =>
      subst left
      subst free
      rw [inside] at readers writers
      change _ + 0 = _ + 0 at readers
      change _ + 1 = _ + 0 at writers
      rw [marked, maxState_toNat] at exclusive
      change _ ∧ 0 = _ ∧ _ ∨ _ ∧ _ ∧ 0 = _
      omega

/-- A new guard that is sound replaces the guard of one thread. -/
theorem Invariant.put {guards : Guards Thread} {thread : Thread} {lockState : UInt16}
    {guard : Guard} (invariant : guards.Invariant)
    (exclusive : (guards.put thread lockState guard).Exclusive) (sound : guard.point.Sound)
    (unsent : guard.unsent = true →
      guard.point = .drop ∨ guard.point = .panicked .sendMandatory) :
    (guards.put thread lockState guard).Invariant where
  exclusive := exclusive
  sound other := by
    rw [put_guard]
    split
    · exact sound
    · exact invariant.sound other
  unsent other := by
    rw [put_guard]
    split
    · exact unsent
    · exact invariant.unsent other

/-- A released guard makes room for a new one. -/
theorem Invariant.create {guards : Guards Thread} {thread : Thread} {point : Point}
    (invariant : guards.Invariant) (released : (guards.guard thread).point = .released)
    (reads : point.holdsRead = false) (writes : (⟨point, false⟩ : Guard).holdsWrite = false)
    (sound : point.Sound) :
    (guards.put thread guards.lockState ⟨point, false⟩).Invariant := by
  have sent : (guards.guard thread).unsent = false :=
    invariant.sent (by rw [released]; decide) (by rw [released]; decide)
  have exclusive : (guards.put thread guards.lockState ⟨point, false⟩).Exclusive := by
    apply invariant.exclusive.put
    · rw [reads, released]
      rfl
    · rw [writes, Guard.holdsWrite, released, sent]
      rfl
  exact invariant.put exclusive sound (fun impossible => nomatch impossible)

/-- The next operation of a thread keeps the invariant. -/
theorem Invariant.access {guards : Guards Thread} {thread : Thread} {next : UInt16} {after : Point}
    (invariant : guards.Invariant)
    (accessed : (guards.guard thread).point.step guards.lockState = some (next, after)) :
    (guards.put thread next ⟨after, (guards.guard thread).unsent⟩).Invariant := by
  cases sent : (guards.guard thread).unsent with
  | false =>
      have writing : (guards.guard thread).point = .writing → guards.lockState = maxState := by
        intro writes
        have held : (guards.guard thread).holdsWrite = true := by
          rw [Guard.holdsWrite, writes]
          rfl
        exact invariant.exclusive.marked held
      obtain ⟨sound, moves⟩ := Point.step_moves (invariant.sound thread)
        (fun reads => invariant.exclusive.counted reads) writing accessed
      exact invariant.put (invariant.exclusive.moves sent moves) sound
        (fun impossible => nomatch impossible)
  | true =>
      have held : (guards.guard thread).holdsWrite = true := by
        rw [Guard.holdsWrite, sent, Bool.or_true]
      have marked := invariant.exclusive.marked held
      cases invariant.unsent thread sent with
      | inl dropping =>
          have panics : Point.drop.step maxState = some (maxState, .panicked .sendMandatory) := rfl
          rw [dropping, marked, panics] at accessed
          cases accessed
          have exclusive : (guards.put thread guards.lockState
              ⟨.panicked .sendMandatory, true⟩).Exclusive := by
            apply invariant.exclusive.put
            · rw [dropping]
              rfl
            · rw [Guard.holdsWrite, Guard.holdsWrite, sent, Bool.or_true, Bool.or_true]
          rw [marked] at exclusive
          exact invariant.put exclusive (fun impossible => nomatch impossible) fun _ => .inr rfl
      | inr panicked =>
          rw [panicked] at accessed
          cases accessed

/-- Each event keeps the invariant. -/
theorem step_invariant {guards next : Guards Thread} {event : GuardEvent Thread}
    (invariant : guards.Invariant) (stepped : guards.step event = some next) : next.Invariant := by
  cases event with
  | get thread | getMut thread =>
      rw [step] at stepped
      split at stepped
      · next released =>
          cases stepped
          exact invariant.create released rfl rfl trivial
      · cases stepped
  | access thread =>
      rw [step, Option.map_eq_some_iff] at stepped
      obtain ⟨⟨lockState, point⟩, accessed, same⟩ := stepped
      cases same
      exact invariant.access accessed
  | dropUnsent thread =>
      rw [step] at stepped
      split at stepped
      · next writing =>
          cases stepped
          have exclusive : (guards.put thread guards.lockState ⟨.drop, true⟩).Exclusive := by
            apply invariant.exclusive.put
            · rw [writing]
              rfl
            · rw [Guard.holdsWrite, Guard.holdsWrite, writing]
              rfl
          exact invariant.put exclusive trivial fun _ => .inl rfl
      · cases stepped

/-- Every run keeps the invariant. -/
theorem run_invariant {events : List (GuardEvent Thread)} {final : Guards Thread}
    (reached : machine.run initial events = some final) : final.Invariant :=
  machine.run_preserves Invariant (fun _ _ _ invariant stepped => step_invariant invariant stepped)
    initial_invariant reached

/-- The lock is shared by counted readers or owned by one writer, and its count never wraps. -/
theorem run_exclusive {Thread : Type} [Fintype Thread] [DecidableEq Thread]
    (events : List (GuardEvent Thread)) (final : Guards Thread)
    (reached : machine.run initial events = some final) :
    (final.writers.card = 0 ∧ final.lockState.toNat = final.readers.card ∧
        final.readers.card ≤ 65534 ∨
      final.writers.card = 1 ∧ final.readers.card = 0 ∧ final.lockState = maxState) ∧
    (∀ writer ∈ final.writers, final.readers = ∅ ∧ ∀ other ∈ final.writers, other = writer) ∧
    (∀ thread state, (final.guard thread).point = .lockReadExchange state →
      (state + 1).toNat = state.toNat + 1) ∧
    ∀ thread state, (final.guard thread).point = .unlockReadExchange state →
      (state - 1).toNat + 1 = state.toNat := by
  have invariant := run_invariant reached
  refine ⟨invariant.exclusive, ?_, ?_, ?_⟩
  · intro writer member
    have positive := Finset.card_pos.mpr ⟨writer, member⟩
    cases invariant.exclusive with
    | inl shared => omega
    | inr alone =>
        refine ⟨Finset.card_eq_zero.mp alone.2.1, ?_⟩
        intro other inside
        exact Finset.card_le_one.mp alone.1.le other inside writer member
  · intro thread state loaded
    have sound := invariant.sound thread
    rw [loaded] at sound
    exact toNat_add_one sound
  · intro thread state loaded
    have sound := invariant.sound thread
    rw [loaded] at sound
    exact toNat_sub_one sound

/-- Two threads hold a read lock each. -/
def twoReaders : List (GuardEvent Bool) :=
  [.get true, .get false, .access true, .access true, .access false, .access false]

/-- The first reader releases its lock, and the second one is about to release its own. -/
def readersLeave : List (GuardEvent Bool) :=
  twoReaders ++ [.access true, .access true, .access false]

/-- One thread writes. -/
def oneWriter : List (GuardEvent Bool) := [.getMut true, .access true]

/-- The count follows two readers, which exchange it without a wrap, and a writer holds the lock
alone. -/
theorem run_exclusive_pair :
    (∃ final : Guards Bool, machine.run initial twoReaders.dropLast = some final ∧
      (final.guard false).point = .lockReadExchange 1 ∧
      ((1 : UInt16) + 1).toNat = (1 : UInt16).toNat + 1) ∧
    (∃ final : Guards Bool, machine.run initial twoReaders = some final ∧
      final.readers = {true, false} ∧ final.lockState = 2 ∧
      final.lockState.toNat = final.readers.card ∧ final.readers.card ≤ 65534) ∧
    (∃ final : Guards Bool, machine.run initial readersLeave = some final ∧
      (final.guard false).point = .unlockReadExchange 1 ∧
      ((1 : UInt16) - 1).toNat + 1 = (1 : UInt16).toNat) ∧
    ∃ final : Guards Bool, machine.run initial oneWriter = some final ∧
      final.writers = {true} ∧ final.readers = ∅ ∧ final.lockState = maxState := by
  refine ⟨?_, ?_, ?_, ?_⟩
  · refine ⟨(machine.run initial twoReaders.dropLast).get rfl, (Option.some_get _).symm, rfl, ?_⟩
    exact (run_exclusive twoReaders.dropLast _ (Option.some_get rfl).symm).2.2.1 false 1 rfl
  · refine ⟨(machine.run initial twoReaders).get rfl, (Option.some_get _).symm, by decide, rfl, ?_⟩
    rcases (run_exclusive twoReaders _ (Option.some_get rfl).symm).1 with shared | alone
    · exact shared.2
    · exact absurd alone.1 (by decide)
  · refine ⟨(machine.run initial readersLeave).get rfl, (Option.some_get _).symm, rfl, ?_⟩
    exact (run_exclusive readersLeave _ (Option.some_get rfl).symm).2.2.2 false 1 rfl
  · refine ⟨(machine.run initial oneWriter).get rfl, (Option.some_get _).symm, by decide, ?_⟩
    rcases (run_exclusive oneWriter _ (Option.some_get rfl).symm).1 with shared | alone
    · exact absurd shared.1 (by decide)
    · exact ⟨Finset.card_eq_zero.mp alone.2.1, alone.2.2⟩

end Guards

end Feo.ReadWriteAccessControlPtr
