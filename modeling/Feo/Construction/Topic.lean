import Feo.Construction.SharedMemory
import Feo.Construction.System

namespace Feo

open Foundation
open ReadWriteAccessControlPtr (Point)

/-- One activity writes a topic, and the other activities read it. -/
structure Topic where
  writer : ActivityId
  readers : List ActivityId
  distinct : readers.Nodup
  bounded : readers.length < ReadWriteAccessControlPtr.maxState.toNat

/-- The mapped memory of a topic holds the bytes of its payload. -/
abbrev Payload (size : Nat) : Type := Fin size → UInt8

/-- An activity accesses the topic in its step of one task chain. -/
structure Access where
  cycle : Nat
  point : Point
deriving DecidableEq

/-- A reader loads one byte of the payload through its guard. -/
structure LoadedByte (size : Nat) where
  reader : ActivityId
  cycle : Nat
  offset : Fin size
  byte : UInt8
deriving DecidableEq

/-- The agents map one memory, and each agent keeps its own lock state for it. -/
structure Sharing (deployment : Deployment) (size : Nat) where
  system : System deployment
  accesses : ActivityId → Option Access
  lockStates : AgentId → UInt16
  memory : Payload size
  sent : List (Nat × Payload size)
  reads : List (LoadedByte size)

/-- The first call of a step creates the guard, and the other activities need none. -/
def Topic.first (topic : Topic) (id : ActivityId) : Point :=
  if id = topic.writer then .lockWrite
  else if id ∈ topic.readers then .lockRead
  else .released

/-- An activity runs in the process of its worker's agent. -/
def Deployment.agent (deployment : Deployment) (id : ActivityId) : AgentId :=
  (deployment.workers (deployment.route id)).agentId

namespace Sharing

variable {deployment : Deployment} {size : Nat}

/-- The accesses interleave with the scheduler and the workers in any order. -/
inductive Event (size : Nat) where
  | system (event : System.Event)
  | access (id : ActivityId)
  | store (offset : Fin size) (byte : UInt8)
  | load (reader : ActivityId) (offset : Fin size)

/-- A worker that calls the step of an activity starts its access. -/
def enter (topic : Topic) (sharing : Sharing deployment size) (next : System deployment)
    (worker : WorkerId) : Sharing deployment size :=
  match next.points worker, next.serving worker with
  | .call (.step id _), some request =>
      { sharing with
        system := next
        accesses := Function.update sharing.accesses id (some ⟨request.cycle, topic.first id⟩) }
  | _, _ => { sharing with system := next }

/-- The step of an activity returns after its guard has been released. -/
def leave (sharing : Sharing deployment size) (next : System deployment) (worker : WorkerId) :
    Option (Sharing deployment size) :=
  match sharing.system.points worker with
  | .call (.step id _) =>
      match sharing.accesses id with
      | some ⟨_, .released⟩ =>
          some { sharing with
            system := next
            accesses := Function.update sharing.accesses id none }
      | _ => none
  | _ => some { sharing with system := next }

def systemStep (topic : Topic) (sharing : Sharing deployment size) (event : System.Event) :
    Option (Sharing deployment size) :=
  match sharing.system.step event, event with
  | none, _ => none
  | some next, .worker worker (.receive _) => some (sharing.enter topic next worker)
  | some next, .worker worker (.returned _ _) => sharing.leave next worker
  | some next, _ => some { sharing with system := next }

/-- The exchange that unlocks the written memory sends its payload. -/
def accessStep (sharing : Sharing deployment size) (id : ActivityId) :
    Option (Sharing deployment size) :=
  match sharing.accesses id with
  | none => none
  | some ⟨cycle, point⟩ =>
      (point.step (sharing.lockStates (deployment.agent id))).map fun (lockState, next) =>
        { sharing with
          accesses := Function.update sharing.accesses id (some ⟨cycle, next⟩)
          lockStates := Function.update sharing.lockStates (deployment.agent id) lockState
          sent := if next = .drop then (cycle, sharing.memory) :: sharing.sent else sharing.sent }

/-- The holder of the write guard stores bytes, and the holders of read guards load them. -/
def step (topic : Topic) (sharing : Sharing deployment size) :
    Event size → Option (Sharing deployment size)
  | .system event => sharing.systemStep topic event
  | .access id => sharing.accessStep id
  | .store offset byte =>
      match sharing.accesses topic.writer with
      | some ⟨_, .writing⟩ =>
          some { sharing with memory := Function.update sharing.memory offset byte }
      | _ => none
  | .load reader offset =>
      match sharing.accesses reader with
      | some ⟨cycle, .reading⟩ =>
          some { sharing with
            reads := ⟨reader, cycle, offset, sharing.memory offset⟩ :: sharing.reads }
      | _ => none

/-- The memory starts with the default payload of its topic. -/
def initial (deployment : Deployment) (payload : Payload size) : Sharing deployment size where
  system := System.initial deployment
  accesses _ := none
  lockStates _ := 0
  memory := payload
  sent := []
  reads := []

def machine (deployment : Deployment) (size : Nat) (topic : Topic) :
    Machine (Sharing deployment size) (Event size) where
  step := step topic

end Sharing

end Feo
