import Feo.Construction.Scheduler
import Mathlib.Data.List.Dedup

namespace Feo.Scheduler

open Foundation

variable {scheduler : Scheduler}

/-- The agent has acknowledged its termination, or the acknowledgement timeout has passed. -/
def Settled (agent : AgentId) (timeout : Duration) (events : List Event) : Prop :=
  .receive (.ok (some (.terminateAck agent))) ∈ events ∨
    ∃ duration, .elapsed duration ∈ events ∧ duration.gt timeout = true

/-- The acknowledgement loop still waits for the agent. -/
def Point.Awaits (agent : AgentId) (timeout : Duration) (point : Point) : Prop :=
  ∃ pending, agent ∈ pending ∧
    (point = .ackElapsed pending timeout ∨ point = .ackReceive pending timeout)

theorem Settled.append {agent : AgentId} {timeout : Duration} {events : List Event}
    (settled : Settled agent timeout events) (more : List Event) :
    Settled agent timeout (events ++ more) := by
  rcases settled with acknowledged | ⟨duration, elapsed, late⟩
  · exact .inl (List.mem_append_left _ acknowledged)
  · exact .inr ⟨duration, List.mem_append_left _ elapsed, late⟩

/-- The loop waits for a pending agent. -/
theorem ackLoop_awaits (states : States scheduler) (cycle : Nat) (reason : Option String)
    (timeout : Duration) {pending : List AgentId} {agent : AgentId} (member : agent ∈ pending) :
    (ackLoop states cycle reason timeout pending).point.Awaits agent timeout := by
  cases pending with
  | nil => exact absurd member List.not_mem_nil
  | cons first rest => exact ⟨first :: rest, member, .inl rfl⟩

/-- Only its own acknowledgement removes an agent from the pending ones. -/
theorem confirmTerminate_keeps {pending : List AgentId} {agent : AgentId}
    (member : agent ∈ pending) (result : Except Error (Option Signal))
    (other : result ≠ .ok (some (.terminateAck agent))) :
    agent ∈ confirmTerminate pending result := by
  unfold confirmTerminate
  split
  · next id =>
      refine (List.mem_erase_of_ne ?_).mpr member
      rintro rfl
      exact other rfl
  · exact member

/-- Each step of the loop goes on waiting for the agent or settles it. -/
theorem step_awaits {execution next : Execution scheduler} {event : Event} {agent : AgentId}
    {timeout : Duration} (awaits : execution.point.Awaits agent timeout)
    (stepped : step execution event = some next) :
    next.point.Awaits agent timeout ∨ Settled agent timeout [event] := by
  obtain ⟨states, point, cycle, reason⟩ := execution
  obtain ⟨pending, member, rfl | rfl⟩ := awaits
  · cases event with
    | elapsed duration =>
        simp only [step] at stepped
        split at stepped
        · next late => exact .inr (.inr ⟨duration, List.mem_singleton_self _, late⟩)
        · cases stepped
          exact .inl ⟨pending, member, .inr rfl⟩
    | _ => cases stepped
  · cases event with
    | receive result =>
        simp only [step, Option.some.injEq] at stepped
        subst stepped
        by_cases acknowledged : result = .ok (some (.terminateAck agent))
        · exact .inr (.inl (by rw [acknowledged]; exact List.mem_singleton_self _))
        · have kept := confirmTerminate_keeps member result acknowledged
          exact .inl (ackLoop_awaits states cycle reason timeout kept)
    | _ => cases stepped

/-- A finished run of the loop has settled every agent that it waited for. -/
theorem run_settled {start final : Execution scheduler} {events : List Event} {agent : AgentId}
    {timeout : Duration} (awaits : start.point.Awaits agent timeout)
    (reached : scheduler.machine.run start events = some final)
    (finished : final.point = .finished) : Settled agent timeout events := by
  have either : final.point.Awaits agent timeout ∨ Settled agent timeout events := by
    refine scheduler.machine.run_induction
      (fun history state => state.point.Awaits agent timeout ∨ Settled agent timeout history)
      (.inl awaits) ?_ reached
    intro history state event next _ invariant stepped
    rcases invariant with waiting | settled
    · rcases step_awaits waiting stepped with still | now
      · exact .inl still
      · rcases now with acknowledged | ⟨duration, elapsed, late⟩
        · exact .inr (.inl (List.mem_append_right _ acknowledged))
        · exact .inr (.inr ⟨duration, List.mem_append_right _ elapsed, late⟩)
    · exact .inr (settled.append _)
  refine either.resolve_left ?_
  rintro ⟨pending, _, same | same⟩
  · rw [finished] at same
    exact nomatch same
  · rw [finished] at same
    exact nomatch same

/-- The call that follows the broadcast returns only after each other agent is settled. -/
theorem connectedAgents_settled {states : States scheduler} {cycle : Nat} {reason : Option String}
    {ids : List AgentId} {events : List Event} {final : Execution scheduler} {agent : AgentId}
    (member : agent ∈ ids) (foreign : agent ≠ scheduler.agentId)
    (reached : scheduler.machine.run ⟨states, .connectedAgents, cycle, reason⟩
      (.connectedAgents ids :: events) = some final)
    (finished : final.point = .finished) :
    ∃ timeout, scheduler.ackTimeout (scheduler.pendingAgents ids).length 4 = .ok timeout ∧
      Settled agent timeout events := by
  have pending : agent ∈ scheduler.pendingAgents ids := by
    simp [pendingAgents, member, foreign]
  change scheduler.machine.run (awaitAgents states cycle reason (scheduler.pendingAgents ids))
    events = some final at reached
  cases agents : scheduler.pendingAgents ids with
  | nil =>
      rw [agents] at pending
      exact absurd pending List.not_mem_nil
  | cons first rest =>
      rw [agents] at reached pending
      cases limit : scheduler.ackTimeout (first :: rest).length 4 with
      | ok timeout =>
          simp only [awaitAgents, limit] at reached
          exact ⟨timeout, rfl,
            run_settled (ackLoop_awaits states cycle reason timeout pending) reached finished⟩
      | error message =>
          simp only [awaitAgents, limit] at reached
          cases events with
          | nil =>
              cases reached
              exact nomatch finished
          | cons event rest => cases reached

end Feo.Scheduler
