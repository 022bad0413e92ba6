import Feo.Construction.Topic
import Feo.Proof.System.Stepping

namespace Feo.Sharing

open Foundation
open ReadWriteAccessControlPtr (Point)

variable {deployment : Deployment} {size : Nat} {topic : Topic}

/-- An event moves the system, the lock state of one agent, or the payload. -/
inductive Move (topic : Topic) (sharing : Sharing deployment size) :
    Sharing deployment size → Prop where
  | stayed {event : System.Event} {system : System deployment}
      (stepped : sharing.system.step event = some system)
      (unreturned : ∀ worker result time, event = .worker worker (.returned result time) →
        ∀ id sent, sharing.system.points worker ≠ .call (.step id sent)) :
      Move topic sharing { sharing with system := system }
  | entered {worker : WorkerId} {result : Except Error (Option Signal)} {id : ActivityId}
      {time : Timestamp} {request : Request} {system : System deployment}
      (stepped : sharing.system.step (.worker worker (.receive result)) = some system)
      (point : system.points worker = .call (.step id time))
      (serving : system.serving worker = some request) :
      Move topic sharing { sharing with
        system := system
        accesses := Function.update sharing.accesses id (some ⟨request.cycle, topic.first id⟩) }
  | left {worker : WorkerId} {result : Except ActivityError Unit} {id : ActivityId}
      {time sent : Timestamp} {cycle : Nat} {system : System deployment}
      (stepped : sharing.system.step (.worker worker (.returned result time)) = some system)
      (point : sharing.system.points worker = .call (.step id sent))
      (access : sharing.accesses id = some ⟨cycle, .released⟩) :
      Move topic sharing { sharing with
        system := system
        accesses := Function.update sharing.accesses id none }
  | accessed {id : ActivityId} {cycle : Nat} {point next : Point} {lockState : UInt16}
      (access : sharing.accesses id = some ⟨cycle, point⟩)
      (stepped : point.step (sharing.lockStates (deployment.agent id)) = some (lockState, next)) :
      Move topic sharing { sharing with
        accesses := Function.update sharing.accesses id (some ⟨cycle, next⟩)
        lockStates := Function.update sharing.lockStates (deployment.agent id) lockState
        sent := if next = .drop then (cycle, sharing.memory) :: sharing.sent else sharing.sent }
  | stored {cycle : Nat} {offset : Fin size} {byte : UInt8}
      (access : sharing.accesses topic.writer = some ⟨cycle, .writing⟩) :
      Move topic sharing { sharing with memory := Function.update sharing.memory offset byte }
  | loaded {reader : ActivityId} {cycle : Nat} {offset : Fin size}
      (access : sharing.accesses reader = some ⟨cycle, .reading⟩) :
      Move topic sharing { sharing with
        reads := ⟨reader, cycle, offset, sharing.memory offset⟩ :: sharing.reads }

/-- A worker that received a signal calls a step or moves on its own. -/
theorem enter_move {sharing : Sharing deployment size} {worker : WorkerId}
    {result : Except Error (Option Signal)} {system : System deployment}
    (stepped : sharing.system.step (.worker worker (.receive result)) = some system) :
    Move topic sharing (sharing.enter topic system worker) := by
  unfold enter
  split
  · next point serving => exact .entered stepped point serving
  · exact .stayed stepped (by simp)

/-- A worker leaves its step or returns from another function. -/
theorem leave_move {sharing next : Sharing deployment size} {worker : WorkerId}
    {result : Except ActivityError Unit} {time : Timestamp} {system : System deployment}
    (stepped : sharing.system.step (.worker worker (.returned result time)) = some system)
    (left : sharing.leave system worker = some next) : Move topic sharing next := by
  unfold leave at left
  split at left
  · next point =>
      split at left
      · next access =>
          cases left
          exact .left stepped point access
      · cases left
  · next other =>
      cases left
      refine .stayed stepped ?_
      rintro _ _ _ same id sent point
      cases same
      exact other id sent point

theorem systemStep_move {sharing next : Sharing deployment size} {event : System.Event}
    (moved : sharing.systemStep topic event = some next) : Move topic sharing next := by
  unfold systemStep at moved
  split at moved
  · cases moved
  · next stepped =>
      cases moved
      exact enter_move stepped
  · next stepped => exact leave_move stepped moved
  · next other stepped =>
      cases moved
      refine .stayed stepped ?_
      rintro worker result time rfl
      exact (other worker result time rfl).elim

/-- Each step is one of the moves. -/
theorem step_move {sharing next : Sharing deployment size} {event : Event size}
    (moved : sharing.step topic event = some next) : Move topic sharing next := by
  cases event with
  | system event => exact systemStep_move moved
  | access id =>
      simp only [step, accessStep] at moved
      split at moved
      · cases moved
      · next access =>
          obtain ⟨⟨lockState, point⟩, stepped, rfl⟩ := Option.map_eq_some_iff.mp moved
          exact .accessed access stepped
  | store offset byte =>
      simp only [step] at moved
      split at moved
      · next access =>
          cases moved
          exact .stored access
      · cases moved
  | load reader offset =>
      simp only [step] at moved
      split at moved
      · next access =>
          cases moved
          exact .loaded access
      · cases moved

/-- The accesses leave the system as it is. -/
theorem Move.system {sharing next : Sharing deployment size} (move : Move topic sharing next) :
    next.system = sharing.system ∨
      ∃ event, sharing.system.step event = some next.system := by
  cases move with
  | stayed stepped | entered stepped | left stepped => exact .inr ⟨_, stepped⟩
  | accessed | stored | loaded => exact .inl rfl

/-- The system has been reached by a run of its own. -/
def Reached (sharing : Sharing deployment size) : Prop :=
  ∃ events, (System.machine deployment).run (System.initial deployment) events =
    some sharing.system

theorem reached_initial (payload : Payload size) : Reached (initial deployment payload) :=
  ⟨[], rfl⟩

/-- The accesses hide in a run of the system. -/
theorem Move.reached {sharing next : Sharing deployment size} (move : Move topic sharing next)
    (reached : Reached sharing) : Reached next := by
  obtain ⟨events, run⟩ := reached
  rcases move.system with same | ⟨event, stepped⟩
  · exact ⟨events, by rw [same]; exact run⟩
  · exact ⟨events ++ [event],
      (System.machine deployment).run_concat_iff.mpr ⟨sharing.system, run, stepped⟩⟩

theorem Reached.inOrder {sharing : Sharing deployment size} (reached : Reached sharing) :
    System.InOrder sharing.system := by
  obtain ⟨events, run⟩ := reached
  exact System.run_inOrder run

theorem Reached.recorded {sharing : Sharing deployment size} (reached : Reached sharing) :
    System.Recorded sharing.system := by
  obtain ⟨events, run⟩ := reached
  exact System.run_recorded run

end Feo.Sharing
