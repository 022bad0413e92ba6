import Feo.Construction.SharedMemory

namespace Feo.ReadWriteAccessControlPtr

/-- These are the points of a thread that takes and drops a read guard. -/
inductive Point.IsRead : Point → Prop where
  | lockRead : IsRead .lockRead
  | lockReadExchange (state : UInt16) : IsRead (.lockReadExchange state)
  | reading : IsRead .reading
  | unlockReadExchange (state : UInt16) : IsRead (.unlockReadExchange state)
  | released : IsRead .released

/-- These are the points of a thread that takes a write guard and sends it. -/
inductive Point.IsWrite : Point → Prop where
  | lockWrite : IsWrite .lockWrite
  | writing : IsWrite .writing
  | drop : IsWrite .drop
  | released : IsWrite .released

/-- These are the points of a writer that has sent its guard. -/
def Point.hasSent : Point → Bool
  | .drop => true
  | .released => true
  | _ => false

@[simp] theorem maxState_toNat : maxState.toNat = 65535 := rfl

theorem compareExchange_cases (lockState expected replacement : UInt16) :
    lockState = expected ∧
        compareExchange lockState expected replacement = (replacement, .ok lockState) ∨
      lockState ≠ expected ∧
        compareExchange lockState expected replacement = (lockState, .error lockState) := by
  unfold compareExchange
  by_cases same : lockState = expected
  · exact .inl ⟨same, if_pos same⟩
  · exact .inr ⟨same, if_neg same⟩

/-- With room for one more reader the loop goes on to its exchange. -/
theorem lockReadLoop_eq {state : UInt16} (room : state.toNat + 1 < maxState.toNat) :
    lockReadLoop state = .lockReadExchange state := by
  have below : state ≠ maxState - 1 := by
    rintro rfl
    exact absurd room (by decide)
  have unlocked : state ≠ maxState := by
    rintro rfl
    exact absurd room (by decide)
  rw [lockReadLoop, if_neg below, if_neg unlocked]

/-- A counted reader goes on to the exchange that removes it. -/
theorem unlockReadLoop_eq {state : UInt16} (counted : 0 < state.toNat)
    (bounded : state.toNat < maxState.toNat) :
    unlockReadLoop state = .unlockReadExchange state := by
  have unlocked : state ≠ maxState := by
    rintro rfl
    exact absurd bounded (by decide)
  have held : state ≠ 0 := by
    rintro rfl
    exact absurd counted (by decide)
  rw [unlockReadLoop, if_neg unlocked, if_neg held]

theorem toNat_add_one {state : UInt16} (room : state.toNat + 1 < maxState.toNat) :
    (state + 1).toNat = state.toNat + 1 := by
  rw [maxState_toNat] at room
  rw [UInt16.toNat_add]
  change (state.toNat + 1) % 65536 = state.toNat + 1
  omega

theorem toNat_sub_one {state : UInt16} (counted : 0 < state.toNat) :
    (state - 1).toNat + 1 = state.toNat := by
  have one : (1 : UInt16) ≤ state := UInt16.le_iff_toNat_le.mpr counted
  rw [UInt16.toNat_sub_of_le _ _ one]
  change state.toNat - 1 + 1 = state.toNat
  omega

/-- The lock state counts a reader exactly while the reader holds its guard. -/
theorem Point.IsRead.step {point after : Point} {lockState next : UInt16} (read : point.IsRead)
    (held : point.holdsRead.toNat ≤ lockState.toNat)
    (room : lockState.toNat + (!point.holdsRead).toNat < maxState.toNat)
    (stepped : point.step lockState = some (next, after)) :
    after.IsRead ∧
      next.toNat + point.holdsRead.toNat = lockState.toNat + after.holdsRead.toNat := by
  cases read with
  | lockRead =>
      rw [Point.step, lockReadLoop_eq room] at stepped
      cases stepped
      exact ⟨.lockReadExchange _, rfl⟩
  | lockReadExchange state =>
      rw [Point.step] at stepped
      rcases compareExchange_cases lockState state (state + 1) with ⟨same, exchanged⟩ |
        ⟨differs, exchanged⟩
      · subst same
        rw [exchanged] at stepped
        cases stepped
        exact ⟨.reading, toNat_add_one room⟩
      · rw [exchanged] at stepped
        dsimp only at stepped
        rw [lockReadLoop_eq room] at stepped
        cases stepped
        exact ⟨.lockReadExchange _, rfl⟩
  | reading =>
      rw [Point.step, unlockReadLoop_eq held room] at stepped
      cases stepped
      exact ⟨.unlockReadExchange _, rfl⟩
  | unlockReadExchange state =>
      rw [Point.step] at stepped
      rcases compareExchange_cases lockState state (state - 1) with ⟨same, exchanged⟩ |
        ⟨differs, exchanged⟩
      · subst same
        rw [exchanged] at stepped
        cases stepped
        exact ⟨.released, toNat_sub_one held⟩
      · rw [exchanged] at stepped
        dsimp only at stepped
        rw [unlockReadLoop_eq held room] at stepped
        cases stepped
        exact ⟨.unlockReadExchange _, rfl⟩
  | released => cases stepped

/-- A writer alone holds the lock from its creation to its send. -/
theorem Point.IsWrite.step {point after : Point} {lockState next : UInt16}
    (write : point.IsWrite)
    (alone : lockState = if point = .writing then maxState else 0)
    (stepped : point.step lockState = some (next, after)) :
    after.IsWrite ∧ (next = if after = .writing then maxState else 0) ∧
      if point = .writing then after = .drop
      else after ≠ .drop ∧ after.hasSent = point.hasSent := by
  subst alone
  cases write with
  | lockWrite =>
      cases stepped
      exact ⟨.writing, rfl, by decide⟩
  | writing =>
      cases stepped
      exact ⟨.drop, rfl, by decide⟩
  | drop =>
      cases stepped
      exact ⟨.released, rfl, by decide⟩
  | released => cases stepped

end Feo.ReadWriteAccessControlPtr
