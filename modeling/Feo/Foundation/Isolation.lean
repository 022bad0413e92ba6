import Feo.Foundation.Machine

namespace Feo.Foundation.Machine

variable {State Event Party : Type} [DecidableEq Party]

/-- The events of one party among others. -/
def eventsOf (party : Event → Party) (own : Party) (history : List Event) : List Event :=
  history.filter fun event => party event = own

theorem eventsOf_concat_own {party : Event → Party} {own : Party} {event : Event}
    (same : party event = own) (history : List Event) :
    eventsOf party own (history ++ [event]) = eventsOf party own history ++ [event] := by
  simp [eventsOf, same]

theorem eventsOf_concat_other {party : Event → Party} {own : Party} {event : Event}
    (other : party event ≠ own) (history : List Event) :
    eventsOf party own (history ++ [event]) = eventsOf party own history := by
  simp [eventsOf, other]

/-- Each party keeps its own view of the state, whatever the others do. -/
structure Isolated (machine : Machine State Event) (party : Event → Party)
    (relation : Party → State → State → Prop) : Prop where
  matched : ∀ state next alone event, relation (party event) state alone →
    machine.step state event = some next →
      ∃ after, machine.step alone event = some after ∧ relation (party event) next after
  kept : ∀ own state next alone event, relation own state alone → party event ≠ own →
    machine.step state event = some next → relation own next alone
  enabled : ∀ state alone event after, relation (party event) state alone →
    machine.step alone event = some after → ∃ next, machine.step state event = some next

variable {machine : Machine State Event} {party : Event → Party}
  {relation : Party → State → State → Prop} {start : State}

/-- A run of all parties contains the run of each one alone. -/
theorem Isolated.run (isolated : machine.Isolated party relation)
    (initial : ∀ own, relation own start start) {history : List Event} {final : State}
    (reached : machine.run start history = some final) (own : Party) :
    ∃ alone, machine.run start (eventsOf party own history) = some alone ∧
      relation own final alone := by
  refine machine.run_induction (fun history state => ∃ alone,
    machine.run start (eventsOf party own history) = some alone ∧ relation own state alone)
    ⟨start, rfl, initial own⟩ ?_ reached
  rintro history state event next - ⟨alone, before, related⟩ stepped
  by_cases same : party event = own
  · subst same
    obtain ⟨after, moved, extended⟩ := isolated.matched state next alone event related stepped
    refine ⟨after, ?_, extended⟩
    rw [eventsOf_concat_own rfl, Machine.run_concat_iff]
    exact ⟨alone, before, moved⟩
  · refine ⟨alone, ?_, isolated.kept own state next alone event related same stepped⟩
    rw [eventsOf_concat_other same]
    exact before

/-- All parties run together exactly if each one runs alone. -/
theorem Isolated.run_isSome_iff (isolated : machine.Isolated party relation)
    (initial : ∀ own, relation own start start) (history : List Event) :
    (∃ final, machine.run start history = some final) ↔
      ∀ own, ∃ alone, machine.run start (eventsOf party own history) = some alone := by
  constructor
  · rintro ⟨final, reached⟩ own
    obtain ⟨alone, before, -⟩ := isolated.run initial reached own
    exact ⟨alone, before⟩
  · intro each
    induction history using List.reverseRecOn with
    | nil => exact ⟨start, rfl⟩
    | append_singleton front event ih =>
        have shorter : ∀ own, ∃ alone,
            machine.run start (eventsOf party own front) = some alone := by
          intro own
          obtain ⟨alone, reached⟩ := each own
          by_cases same : party event = own
          · rw [eventsOf_concat_own same, Machine.run_concat_iff] at reached
            obtain ⟨middle, before, -⟩ := reached
            exact ⟨middle, before⟩
          · rw [eventsOf_concat_other same] at reached
            exact ⟨alone, reached⟩
        obtain ⟨state, reached⟩ := ih shorter
        obtain ⟨alone, before, related⟩ := isolated.run initial reached (party event)
        obtain ⟨after, whole⟩ := each (party event)
        rw [eventsOf_concat_own rfl, Machine.run_concat_iff] at whole
        obtain ⟨middle, front, stepped⟩ := whole
        rw [before] at front
        cases front
        obtain ⟨next, moved⟩ := isolated.enabled state alone event after related stepped
        exact ⟨next, machine.run_concat_iff.mpr ⟨state, reached, moved⟩⟩

end Feo.Foundation.Machine
