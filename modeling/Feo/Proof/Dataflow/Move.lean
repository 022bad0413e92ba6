import Feo.Construction.Dataflow
import Feo.Proof.System.Chains

namespace Feo.Dataflow

open Foundation

variable {deployment : Deployment} {Cell Value State : Type} [DecidableEq Cell]
  {application : Application ActivityId Cell Value State}
  {flow next : Dataflow deployment Cell Value State}

/-- An event moves the system or makes one access of a running step. -/
inductive Move (application : Application ActivityId Cell Value State)
    (flow : Dataflow deployment Cell Value State) :
    Dataflow deployment Cell Value State → Prop where
  | stayed {event : System.Event} {system : System deployment}
      (stepped : flow.system.step event = some system)
      (unreturned : ∀ worker result time, event = .worker worker (.returned result time) →
        ∀ id sent, flow.system.points worker ≠ .call (.step id sent)) :
      Move application flow { flow with system := system }
  | entered {worker : WorkerId} {result : Except Error (Option Signal)} {id : ActivityId}
      {time : Timestamp} {system : System deployment}
      (stepped : flow.system.step (.worker worker (.receive result)) = some system)
      (point : system.points worker = .call (.step id time)) :
      Move application flow { flow with
        system := system
        programs := Function.update flow.programs id
          (some (application.step id (flow.store.states id))) }
  | left {worker : WorkerId} {result : Except ActivityError Unit} {id : ActivityId}
      {time sent : Timestamp} {state : State} {system : System deployment}
      (stepped : flow.system.step (.worker worker (.returned result time)) = some system)
      (point : flow.system.points worker = .call (.step id sent))
      (finished : flow.programs id = some (.done state)) :
      Move application flow
        { system := system
          store := { flow.store with states := Function.update flow.store.states id state }
          programs := Function.update flow.programs id none }
  | loaded {id : ActivityId} {cell : Cell} {rest : Value → Program Cell Value State}
      (running : flow.programs id = some (.read cell rest)) :
      Move application flow { flow with
        programs := Function.update flow.programs id (some (rest (flow.store.cells cell))) }
  | stored {id : ActivityId} {cell : Cell} {value : Value} {rest : Program Cell Value State}
      (running : flow.programs id = some (.write cell value rest)) :
      Move application flow { flow with
        store := { flow.store with cells := Function.update flow.store.cells cell value }
        programs := Function.update flow.programs id (some rest) }

/-- A worker that received a signal calls a step or moves on its own. -/
theorem enter_move {worker : WorkerId} {result : Except Error (Option Signal)}
    {system : System deployment}
    (stepped : flow.system.step (.worker worker (.receive result)) = some system) :
    Move application flow (flow.enter application system worker) := by
  unfold enter
  split
  · next point => exact .entered stepped point
  · exact .stayed stepped (by simp)

/-- A worker leaves its step or returns from another function. -/
theorem leave_move {worker : WorkerId} {result : Except ActivityError Unit} {time : Timestamp}
    {system : System deployment}
    (stepped : flow.system.step (.worker worker (.returned result time)) = some system)
    (left : flow.leave system worker = some next) : Move application flow next := by
  unfold leave at left
  split at left
  · next point =>
      split at left
      · next finished =>
          cases left
          exact .left stepped point finished
      · cases left
  · next other =>
      cases left
      refine .stayed stepped ?_
      rintro _ _ _ same id sent point
      cases same
      exact other id sent point

/-- Each step is one of the moves. -/
theorem step_move {event : Event} (moved : flow.step application event = some next) :
    Move application flow next := by
  cases event with
  | system event =>
      simp only [step, systemStep] at moved
      split at moved
      · cases moved
      · next stepped =>
          cases moved
          exact enter_move stepped
      · next stepped => exact leave_move stepped moved
      · next other stepped =>
          cases moved
          refine .stayed stepped ?_
          rintro worker result time rfl
          exact (other worker result time rfl).elim
  | access id =>
      simp only [step, accessStep] at moved
      split at moved
      · next running =>
          cases moved
          exact .loaded running
      · next running =>
          cases moved
          exact .stored running
      · cases moved

/-- The accesses leave the system as it is. -/
theorem Move.system (move : Move application flow next) :
    next.system = flow.system ∨ ∃ event, flow.system.step event = some next.system := by
  cases move with
  | stayed stepped | entered stepped | left stepped => exact .inr ⟨_, stepped⟩
  | loaded | stored => exact .inl rfl

/-- The accesses hide in a run of the system. -/
theorem run_system {store : Store ActivityId Cell Value State} {events : List Event}
    (run : (machine deployment application).run (initial deployment store) events = some flow) :
    ∃ hidden, (System.machine deployment).run (System.initial deployment) hidden =
      some flow.system := by
  refine (machine deployment application).run_induction (fun _ flow => ∃ hidden,
    (System.machine deployment).run (System.initial deployment) hidden = some flow.system)
    ⟨[], rfl⟩ ?_ run
  rintro history flow event next - ⟨hidden, before⟩ stepped
  rcases (step_move stepped).system with same | ⟨event, moved⟩
  · exact ⟨hidden, by rw [same]; exact before⟩
  · exact ⟨hidden ++ [event],
      (System.machine deployment).run_concat_iff.mpr ⟨flow.system, before, moved⟩⟩

end Feo.Dataflow
