import Feo.Proof.Scheduler.Shift
import Feo.Proof.System.Flow

namespace Feo.System

open Foundation
open Scheduler (States allReady clearFlags markReady)

/-- The channels and the log agree on the one request of the current round to an activity. -/
structure Tracked (ready : Bool) (requests : List Request) (log : List Entry)
    (request : Request) : Prop where
  pending : requests.Sublist [request]
  called : ∀ other, Entry.called other ∈ log → other.cycle = request.cycle →
    other.signal.target? = request.signal.target? → other = request
  settled : ready = true → requests = [] ∧ Entry.returned request (.ok ()) ∈ log ∧
    ∃ signal, Entry.answered ⟨signal, request⟩ ∈ log

/-- An activity without a request in the current round has no trace of one. -/
structure Untouched (ready : Bool) (requests : List Request) (log : List Entry)
    (id : ActivityId) (cycle : Nat) : Prop where
  pending : requests = []
  called : ∀ request, Entry.called request ∈ log → request.cycle = cycle →
    request.signal.target? ≠ some id
  unready : ready = false

/-- A round sends at most one request to each known activity. -/
structure Round {scheduler : Scheduler} (cycle : Nat) (signal : ActivityId → Timestamp → Signal)
    (asked : ActivityId → Prop) (states : States scheduler)
    (pending : ActivityId → List Request) (log : List Entry) : Prop where
  known : ∀ id, asked id → id ∈ scheduler.activityDepends.keys
  addressed : ∀ id time, (signal id time).target? = some id
  unasked : ∀ id, ¬ asked id →
    Untouched (states.val.value id).ready (pending id) log id cycle
  tracked : ∀ id, asked id → ∃ time,
    Tracked (states.val.value id).ready (pending id) log ⟨signal id time, cycle⟩

/-- The log grows without a call. -/
def Grows (log extended : List Entry) : Prop :=
  log ⊆ extended ∧ ∀ request, Entry.called request ∈ extended → Entry.called request ∈ log

theorem Grows.append (entries log : List Entry)
    (uncalled : ∀ request, Entry.called request ∉ entries) : Grows log (entries ++ log) :=
  ⟨List.subset_append_right _ _, fun request member =>
    (List.mem_append.mp member).resolve_left (uncalled request)⟩

theorem Grows.answered (reply : Reply) (log : List Entry) : Grows log (.answered reply :: log) :=
  Grows.append [.answered reply] log (by simp)

section Update

variable {scheduler : Scheduler} {cycle : Nat} {signal : ActivityId → Timestamp → Signal}
  {asked : ActivityId → Prop} {states : States scheduler} {pending : ActivityId → List Request}
  {log : List Entry}

theorem Tracked.mono {ready : Bool} {requests rest : List Request} {extended : List Entry}
    {request : Request} (tracked : Tracked ready requests log request)
    (shrinks : rest.Sublist requests) (grows : Grows log extended) :
    Tracked ready rest extended request where
  pending := shrinks.trans tracked.pending
  called other member := tracked.called other (grows.2 other member)
  settled settled := by
    obtain ⟨empty, returned, reply, answered⟩ := tracked.settled settled
    rw [empty] at shrinks
    exact ⟨List.sublist_nil.mp shrinks, grows.1 returned, reply, grows.1 answered⟩

/-- A round survives the loss of requests and the growth of the log. -/
theorem Round.mono (round : Round cycle signal asked states pending log)
    {rest : ActivityId → List Request} {extended : List Entry}
    (shrinks : ∀ id, (rest id).Sublist (pending id)) (grows : Grows log extended) :
    Round cycle signal asked states rest extended where
  known := round.known
  addressed := round.addressed
  unasked id idle := by
    have untouched := round.unasked id idle
    have empty := shrinks id
    rw [untouched.pending] at empty
    exact ⟨List.sublist_nil.mp empty,
      fun request member => untouched.called request (grows.2 request member), untouched.unready⟩
  tracked id busy := by
    obtain ⟨time, tracked⟩ := round.tracked id busy
    exact ⟨time, tracked.mono (shrinks id) grows⟩

/-- A pending request is the tracked one. -/
theorem Round.asked_of_mem (round : Round cycle signal asked states pending log)
    {id : ActivityId} {request : Request} (member : request ∈ pending id) : asked id := by
  by_contra idle
  rw [(round.unasked id idle).pending] at member
  cases member

theorem Round.request_eq (round : Round cycle signal asked states pending log)
    {id : ActivityId} {request : Request} (member : request ∈ pending id) :
    ∃ time, request = ⟨signal id time, cycle⟩ ∧
      Tracked (states.val.value id).ready (pending id) log request := by
  obtain ⟨time, tracked⟩ := round.tracked id (round.asked_of_mem member)
  have same := List.mem_singleton.mp (tracked.pending.subset member)
  exact ⟨time, same, by rw [same]; exact tracked⟩

/-- A pending request is called once. -/
theorem Round.call (round : Round cycle signal asked states pending log)
    {id : ActivityId} {request : Request} (addressed : request.signal.target? = some id)
    (member : request ∈ pending id) :
    Round cycle signal asked states pending (.called request :: log) where
  known := round.known
  addressed := round.addressed
  unasked other idle := by
    have untouched := round.unasked other idle
    refine ⟨untouched.pending, ?_, untouched.unready⟩
    intro called inside same target
    rcases List.mem_cons.mp inside with equal | earlier
    · cases equal
      cases addressed.symm.trans target
      exact idle (round.asked_of_mem member)
    · exact untouched.called called earlier same target
  tracked other busy := by
    obtain ⟨time, tracked⟩ := round.tracked other busy
    refine ⟨time, tracked.pending, ?_, ?_⟩
    · intro called inside same target
      rcases List.mem_cons.mp inside with equal | earlier
      · cases equal
        rw [addressed, round.addressed] at target
        cases target
        exact List.mem_singleton.mp (tracked.pending.subset member)
      · exact tracked.called called earlier same target
    · intro settled
      obtain ⟨empty, returned, reply, answered⟩ := tracked.settled settled
      exact ⟨empty, List.mem_cons_of_mem _ returned, reply, List.mem_cons_of_mem _ answered⟩

/-- A round asks one more activity. -/
theorem Round.ask (round : Round cycle signal asked states pending log)
    {id : ActivityId} (known : id ∈ scheduler.activityDepends.keys) (idle : ¬ asked id)
    (time : Timestamp) {extended : ActivityId → List Request}
    (sent : ∀ other, extended other =
      pending other ++ if other = id then [⟨signal id time, cycle⟩] else []) :
    Round cycle signal (fun other => asked other ∨ other = id) states extended log where
  known other busy := by
    rcases busy with earlier | rfl
    · exact round.known other earlier
    · exact known
  addressed := round.addressed
  unasked other untouched := by
    rw [not_or] at untouched
    rw [sent, if_neg untouched.2, List.append_nil]
    exact round.unasked other untouched.1
  tracked other busy := by
    by_cases same : other = id
    · subst same
      have untouched := round.unasked other idle
      refine ⟨time, ?_, ?_, ?_⟩
      · rw [sent, if_pos rfl, untouched.pending, List.nil_append]
      · intro called member equal target
        rw [round.addressed] at target
        exact absurd target (untouched.called called member equal)
      · intro ready
        rw [untouched.unready] at ready
        cases ready
    · rw [sent, if_neg same, List.append_nil]
      exact round.tracked other (busy.resolve_right same)

/-- The answer to the tracked request sets the ready flag of its activity. -/
theorem Round.answer (round : Round cycle signal asked states pending log)
    {id : ActivityId} {request : Request} {reply : Signal}
    {rest : ActivityId → List Request}
    (returned : Entry.returned request (.ok ()) ∈ log)
    (split : ∀ other, pending other = (if other = id then [request] else []) ++ rest other) :
    Round cycle signal asked (markReady states id) rest (.answered ⟨reply, request⟩ :: log) := by
  have first := split id
  rw [if_pos rfl, List.singleton_append] at first
  have member : request ∈ pending id := by
    rw [first]
    exact List.mem_cons_self
  have shrinks (other : ActivityId) : (rest other).Sublist (pending other) := by
    rw [split other]
    exact List.sublist_append_right _ _
  have moved := round.mono shrinks (Grows.answered ⟨reply, request⟩ log)
  refine ⟨round.known, round.addressed, ?_, ?_⟩
  · intro other idle
    rw [Scheduler.markReady_value, if_neg]
    · exact moved.unasked other idle
    · rintro rfl
      exact idle (round.asked_of_mem member)
  · intro other busy
    by_cases same : other = id
    · subst same
      obtain ⟨time, equal, tracked⟩ := round.request_eq member
      have empty : rest other = [] := by
        have short := tracked.pending.length_le
        rw [first, List.length_cons, List.length_singleton] at short
        exact List.eq_nil_of_length_eq_zero (by omega)
      rw [Scheduler.markReady_value, if_pos rfl, empty]
      refine ⟨time, List.nil_sublist _, ?_, ?_⟩
      · intro called inside
        rw [← equal]
        exact tracked.called called ((Grows.answered _ log).2 called inside)
      · intro _
        rw [← equal]
        exact ⟨rfl, List.mem_cons_of_mem _ returned, reply, List.mem_cons_self⟩
    · rw [Scheduler.markReady_value, if_neg same]
      exact moved.tracked other busy

/-- A complete round has no pending request and an answer to each call. -/
structure Completed (scheduler : Scheduler) (cycle : Nat)
    (signal : ActivityId → Timestamp → Signal) (pending : ActivityId → List Request)
    (log : List Entry) : Prop where
  empty : ∀ id, pending id = []
  returned : ∀ id ∈ scheduler.activityDepends.keys, ∃ time,
    Entry.returned ⟨signal id time, cycle⟩ (.ok ()) ∈ log
  answered : ∀ request, Entry.called request ∈ log → request.cycle = cycle →
    request.signal.target? ≠ none → ∃ reply, Entry.answered ⟨reply, request⟩ ∈ log

theorem Round.complete (round : Round cycle signal asked states pending log)
    (all : allReady states = true) : Completed scheduler cycle signal pending log := by
  have ready := (Scheduler.allReady_iff states).mp all
  have busy (id : ActivityId) (member : id ∈ scheduler.activityDepends.keys) : asked id := by
    by_contra idle
    have unready := (round.unasked id idle).unready
    rw [ready id member] at unready
    cases unready
  refine ⟨?_, ?_, ?_⟩
  · intro id
    by_cases asks : asked id
    · obtain ⟨time, tracked⟩ := round.tracked id asks
      exact (tracked.settled (ready id (round.known id asks))).1
    · exact (round.unasked id asks).pending
  · intro id member
    obtain ⟨time, tracked⟩ := round.tracked id (busy id member)
    exact ⟨time, (tracked.settled (ready id member)).2.1⟩
  · intro request member same targeted
    obtain ⟨id, target⟩ := Option.ne_none_iff_exists'.mp targeted
    have asks : asked id := by
      by_contra idle
      exact (round.unasked id idle).called request member same target
    obtain ⟨time, tracked⟩ := round.tracked id asks
    have equal := tracked.called request member same (by rw [target, round.addressed])
    rw [equal]
    exact (tracked.settled (ready id (round.known id asks))).2.2

/-- The next round begins when nothing is pending and nothing of it was called. -/
theorem round_begin {cycle : Nat} (addressed : ∀ id time, (signal id time).target? = some id)
    (empty : ∀ id, pending id = [])
    (uncalled : ∀ request, Entry.called request ∈ log → request.cycle ≠ cycle)
    (unready : ∀ id, (states.val.value id).ready = false)
    (idle : ∀ id, ¬ asked id) : Round cycle signal asked states pending log where
  known id busy := absurd busy (idle id)
  addressed := addressed
  unasked id _ := ⟨empty id, fun request member same => absurd same (uncalled request member),
    unready id⟩
  tracked id busy := absurd busy (idle id)

theorem Round.congr (round : Round cycle signal asked states pending log)
    {other : ActivityId → Prop} {changed : States scheduler}
    (same : ∀ id, other id ↔ asked id)
    (ready : ∀ id, (changed.val.value id).ready = (states.val.value id).ready) :
    Round cycle signal other changed pending log where
  known id busy := round.known id ((same id).mp busy)
  addressed := round.addressed
  unasked id idle := by
    rw [ready id]
    exact round.unasked id fun busy => idle ((same id).mpr busy)
  tracked id busy := by
    rw [ready id]
    exact round.tracked id ((same id).mp busy)

end Update

end Feo.System
