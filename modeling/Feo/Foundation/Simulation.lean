import Feo.Foundation.Machine

namespace Feo.Foundation.Machine

variable {State Event Item : Type} (machine : Machine State Event)
  (observe : State → Event → Option Item)

/-- The trace of a run lists what is observed of its events, from left to right. -/
def trace : State → List Event → List Item
  | _, [] => []
  | state, event :: rest =>
      (observe state event).toList ++
        match machine.step state event with
        | some next => trace next rest
        | none => []

variable {machine observe}

/-- The last event of a run is observed last. -/
theorem trace_concat {start state : State} {history : List Event}
    (reached : machine.run start history = some state) (event : Event) :
    machine.trace observe start (history ++ [event]) =
      machine.trace observe start history ++ (observe state event).toList := by
  induction history generalizing start with
  | nil =>
      cases reached
      simp only [trace, List.nil_append]
      cases machine.step state event <;> simp
  | cons first rest ih =>
      rw [run_cons, Option.bind_eq_some_iff] at reached
      obtain ⟨next, stepped, reached⟩ := reached
      rw [List.cons_append, trace, trace, stepped]
      dsimp only
      rw [ih reached, List.append_assoc]

variable {Abstract Action : Type} {abstract : Machine Abstract Action}

/-- A run is simulated if each of its steps is matched by at most one step. -/
theorem run_simulated {start : State} {origin : Abstract} (allowed : List Event → Prop)
    (relation : List Event → State → Abstract → Prop) (initial : relation [] start origin)
    (shorter : ∀ history event, allowed (history ++ [event]) → allowed history)
    (matched : ∀ history state event next mirrored, allowed (history ++ [event]) →
      machine.run start history = some state → machine.step state event = some next →
      abstract.Reaches origin mirrored → relation history state mirrored →
        ∃ after, (after = mirrored ∨ ∃ action, abstract.step mirrored action = some after) ∧
          relation (history ++ [event]) next after)
    {history : List Event} {state : State} (permitted : allowed history)
    (reached : machine.run start history = some state) :
    ∃ mirrored, abstract.Reaches origin mirrored ∧ relation history state mirrored := by
  refine machine.run_induction (fun history state => allowed history →
    ∃ mirrored, abstract.Reaches origin mirrored ∧ relation history state mirrored)
    (fun _ => ⟨origin, .refl origin, initial⟩) ?_ reached permitted
  intro history state event next before hypothesis stepped permitted
  obtain ⟨mirrored, path, related⟩ := hypothesis (shorter history event permitted)
  obtain ⟨after, moved, extended⟩ :=
    matched history state event next mirrored permitted before stepped path related
  refine ⟨after, ?_, extended⟩
  rcases moved with rfl | ⟨action, step⟩
  · exact path
  · exact path.trans (.head step (.refl after))

end Feo.Foundation.Machine
