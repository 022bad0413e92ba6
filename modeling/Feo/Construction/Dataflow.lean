import Feo.Construction.System
import Feo.Foundation.Application

namespace Feo

open Foundation

variable {Cell Value State : Type} [DecidableEq Cell]

/-- The system runs together with the store and with what is left of each running step. -/
structure Dataflow (deployment : Deployment) (Cell Value State : Type) where
  system : System deployment
  store : Store ActivityId Cell Value State
  programs : ActivityId → Option (Program Cell Value State)

namespace Dataflow

variable {deployment : Deployment}

/-- The accesses of the steps interleave with the scheduler and the workers in any order. -/
inductive Event where
  | system (event : System.Event)
  | access (id : ActivityId)

/-- A worker that calls the step of an activity starts its program. -/
def enter (application : Application ActivityId Cell Value State)
    (flow : Dataflow deployment Cell Value State) (next : System deployment)
    (worker : WorkerId) : Dataflow deployment Cell Value State :=
  match next.points worker with
  | .call (.step id _) =>
      { flow with
        system := next
        programs := Function.update flow.programs id
          (some (application.step id (flow.store.states id))) }
  | _ => { flow with system := next }

/-- The step of an activity returns when its program is done. -/
def leave (flow : Dataflow deployment Cell Value State) (next : System deployment)
    (worker : WorkerId) : Option (Dataflow deployment Cell Value State) :=
  match flow.system.points worker with
  | .call (.step id _) =>
      match flow.programs id with
      | some (.done state) =>
          some
            { system := next
              store := { flow.store with states := Function.update flow.store.states id state }
              programs := Function.update flow.programs id none }
      | _ => none
  | _ => some { flow with system := next }

def systemStep (application : Application ActivityId Cell Value State)
    (flow : Dataflow deployment Cell Value State) (event : System.Event) :
    Option (Dataflow deployment Cell Value State) :=
  match flow.system.step event, event with
  | none, _ => none
  | some next, .worker worker (.receive _) => some (flow.enter application next worker)
  | some next, .worker worker (.returned _ _) => flow.leave next worker
  | some next, _ => some { flow with system := next }

/-- A running step reads or writes one cell. -/
def accessStep (flow : Dataflow deployment Cell Value State) (id : ActivityId) :
    Option (Dataflow deployment Cell Value State) :=
  match flow.programs id with
  | some (.read cell next) =>
      some { flow with
        programs := Function.update flow.programs id (some (next (flow.store.cells cell))) }
  | some (.write cell value next) =>
      some { flow with
        store := { flow.store with cells := Function.update flow.store.cells cell value }
        programs := Function.update flow.programs id (some next) }
  | _ => none

def step (application : Application ActivityId Cell Value State)
    (flow : Dataflow deployment Cell Value State) :
    Event → Option (Dataflow deployment Cell Value State)
  | .system event => flow.systemStep application event
  | .access id => flow.accessStep id

/-- No step runs when the scheduler calls `run`. -/
def initial (deployment : Deployment) (store : Store ActivityId Cell Value State) :
    Dataflow deployment Cell Value State where
  system := System.initial deployment
  store := store
  programs _ := none

def machine (deployment : Deployment) (application : Application ActivityId Cell Value State) :
    Machine (Dataflow deployment Cell Value State) Event where
  step := step application

end Dataflow

end Feo
