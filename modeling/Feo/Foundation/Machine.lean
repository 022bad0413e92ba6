import Mathlib.Data.List.Induction

namespace Feo.Foundation

/-- A machine answers `none` to an event that its current state does not perform. -/
structure Machine (State Event : Type) where
  step : State → Event → Option State

namespace Machine

variable {State Event : Type} (machine : Machine State Event)

/-- A run performs its events from left to right. -/
def run : State → List Event → Option State
  | state, [] => some state
  | state, event :: rest => (machine.step state event).bind fun next => run next rest

@[simp] theorem run_nil (state : State) : machine.run state [] = some state := rfl

@[simp] theorem run_cons (state : State) (event : Event) (rest : List Event) :
    machine.run state (event :: rest) =
      (machine.step state event).bind fun next => machine.run next rest := rfl

theorem run_append (state : State) (first second : List Event) :
    machine.run state (first ++ second) =
      (machine.run state first).bind fun middle => machine.run middle second := by
  induction first generalizing state with
  | nil => rfl
  | cons event rest ih =>
      simp only [List.cons_append, run_cons, Option.bind_assoc]
      congr 1
      funext next
      exact ih next

/-- A run over a concatenation has a middle state. -/
theorem run_append_iff {state final : State} {first second : List Event} :
    machine.run state (first ++ second) = some final ↔
      ∃ middle, machine.run state first = some middle ∧ machine.run middle second = some final := by
  rw [run_append, Option.bind_eq_some_iff]

/-- The last event of a run is one step of the machine. -/
theorem run_concat_iff {state final : State} {history : List Event} {event : Event} :
    machine.run state (history ++ [event]) = some final ↔
      ∃ middle, machine.run state history = some middle ∧
        machine.step middle event = some final := by
  rw [run_append_iff]
  simp

/-- Each event of a run has a state before it and a state after it. -/
theorem run_split_iff {state final : State} {before after : List Event} {event : Event} :
    machine.run state (before ++ event :: after) = some final ↔
      ∃ source target, machine.run state before = some source ∧
        machine.step source event = some target ∧ machine.run target after = some final := by
  rw [run_append_iff]
  simp only [run_cons, Option.bind_eq_some_iff]
  constructor
  · rintro ⟨source, reached, target, stepped, rest⟩
    exact ⟨source, target, reached, stepped, rest⟩
  · rintro ⟨source, target, reached, stepped, rest⟩
    exact ⟨source, reached, target, stepped, rest⟩

/-- A property of the history and the state holds after every run that starts with it. -/
theorem run_induction {start : State} (invariant : List Event → State → Prop)
    (initial : invariant [] start)
    (preserved : ∀ history state event next, machine.run start history = some state →
      invariant history state → machine.step state event = some next →
        invariant (history ++ [event]) next)
    {history : List Event} {state : State} (reached : machine.run start history = some state) :
    invariant history state := by
  induction history using List.reverseRecOn generalizing state with
  | nil =>
      cases reached
      exact initial
  | append_singleton history event ih =>
      obtain ⟨middle, before, stepped⟩ := machine.run_concat_iff.mp reached
      exact preserved history middle event state before (ih before) stepped

/-- A property of the state that each step keeps holds after every run. -/
theorem run_preserves (invariant : State → Prop)
    (preserved : ∀ state event next, invariant state →
      machine.step state event = some next → invariant next)
    {start final : State} {history : List Event} (initial : invariant start)
    (reached : machine.run start history = some final) : invariant final :=
  machine.run_induction (fun _ state => invariant state) initial
    (fun _ state event next _ holds stepped => preserved state event next holds stepped) reached

/-- Some events lead from one state to the other. -/
def Reaches (source target : State) : Prop := ∃ events, machine.run source events = some target

variable {machine} {source middle target : State}

theorem Reaches.refl (state : State) : machine.Reaches state state := ⟨[], rfl⟩

theorem Reaches.trans (first : machine.Reaches source middle)
    (second : machine.Reaches middle target) : machine.Reaches source target := by
  obtain ⟨early, reached⟩ := first
  obtain ⟨late, rest⟩ := second
  exact ⟨early ++ late, machine.run_append_iff.mpr ⟨middle, reached, rest⟩⟩

theorem Reaches.head {event : Event} (stepped : machine.step source event = some middle)
    (rest : machine.Reaches middle target) : machine.Reaches source target := by
  obtain ⟨events, reached⟩ := rest
  exact ⟨event :: events, by rw [run_cons, stepped]; exact reached⟩

end Machine

end Feo.Foundation
