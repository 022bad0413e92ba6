import Feo.Proof.System.Pipeline

namespace Feo.System

open Foundation

variable {deployment : Deployment}

/-- A move of the system moves the requests to one activity in one of these ways. -/
inductive Flow (system next : System deployment) : Prop where
  | scheduled {event : Scheduler.Event} (isLocal : event.isLocal = true)
      (transition : Scheduler.Transition system.execution event next.execution)
      (pending : ∀ id, next.pending id = system.pending id)
      (queued : ∀ id, next.queued id = system.queued id) (log : next.log = system.log)
  | sent {id : ActivityId} {signal : Signal}
      (transition : Scheduler.Transition system.execution (.sendToActivity id signal (.ok ()))
        next.execution)
      (pending : ∀ other, next.pending other =
        system.pending other ++ if other = id then [⟨signal, system.execution.cycle⟩] else [])
      (queued : ∀ other, next.queued other =
        system.queued other ++ if other = id then [⟨signal, system.execution.cycle⟩] else [])
      (log : next.log = system.log)
  | answered {id : ActivityId} {time : Timestamp} {result : Except ActivityError Unit}
      {request : Request}
      (transition : Scheduler.Transition system.execution
        (.receive (.ok (some (Worker.response id time result)))) next.execution)
      (addressed : request.signal.target? = some id)
      (returned : Entry.returned request result ∈ system.log)
      (pending : ∀ other, system.pending other =
        (if other = id then [request] else []) ++ next.pending other)
      (queued : ∀ other, next.queued other = system.queued other)
      (log : next.log = .answered ⟨Worker.response id time result, request⟩ :: system.log)
  | acknowledged {agent : AgentId} {request : Request}
      (transition : Scheduler.Transition system.execution
        (.receive (.ok (some (.terminateAck agent)))) next.execution)
      (pending : ∀ id, next.pending id = system.pending id)
      (queued : ∀ id, next.queued id = system.queued id)
      (log : next.log = .answered ⟨.terminateAck agent, request⟩ :: system.log)
  | broadcast {signal : Signal} {result : Except Error Unit}
      (transition : Scheduler.Transition system.execution (.broadcastTerminate signal result)
        next.execution)
      (pending : ∀ id, next.pending id = system.pending id)
      (queued : ∀ id, next.queued id = system.queued id) (log : next.log = system.log)
  | called {id : ActivityId} {request : Request} (execution : next.execution = system.execution)
      (addressed : request.signal.target? = some id)
      (pending : ∀ other, next.pending other = system.pending other)
      (queued : ∀ other, system.queued other =
        (if other = id then [request] else []) ++ next.queued other)
      (log : next.log = .called request :: system.log)
  | worked (entries : List Entry) (execution : next.execution = system.execution)
      (pending : ∀ id, (next.pending id).Sublist (system.pending id))
      (queued : ∀ id, (next.queued id).Sublist (system.queued id))
      (log : next.log = entries ++ system.log)
      (uncalled : ∀ request, Entry.called request ∉ entries)

theorem filter_target (request : Request) (id : ActivityId) :
    [request].filter (fun request => request.signal.target? = some id) =
      if request.signal.target? = some id then [request] else [] := by
  rw [List.filter_singleton]
  simp

theorem queued_sublist_pending (system : System deployment) (id : ActivityId) :
    (system.queued id).Sublist (system.pending id) := by
  unfold queued pending pipeline
  apply List.Sublist.filter
  exact (List.sublist_append_right _ _).trans (List.sublist_append_right _ _)

theorem mem_pending_iff {system : System deployment} (coherent : Coherent system)
    {id : ActivityId} {request : Request} :
    request ∈ system.pending id ↔
      request.signal.target? = some id ∧ ∃ worker, request ∈ system.pipeline worker := by
  unfold pending
  rw [List.mem_filter, decide_eq_true_eq]
  constructor
  · exact fun both => ⟨both.2, _, both.1⟩
  · rintro ⟨addressed, worker, member⟩
    rw [coherent.routed worker request member id addressed]
    exact ⟨member, addressed⟩

/-- A request in the channels of its worker is addressed to one activity. -/
theorem filter_routed {id : ActivityId} {request : Request}
    (addressed : request.signal.target? = some id) (other : ActivityId) :
    (if deployment.route other = deployment.route id then [request] else []).filter
        (fun request => request.signal.target? = some other) =
      if other = id then [request] else [] := by
  by_cases same : other = id
  · subst same
    rw [if_pos rfl, if_pos rfl, filter_target, if_pos addressed]
  · rw [if_neg same]
    split
    · rw [filter_target, if_neg]
      rw [addressed]
      exact fun equal => same (Option.some.inj equal).symm
    · rfl

theorem filter_unaddressed {request : Request} (unaddressed : request.signal.target? = none)
    {condition : Prop} [Decidable condition] (id : ActivityId) :
    (if condition then [request] else []).filter
        (fun request => request.signal.target? = some id) = [] := by
  split
  · rw [filter_target, unaddressed, if_neg (fun impossible => nomatch impossible)]
  · rfl

theorem pending_sent (system : System deployment) {id : ActivityId} {signal : Signal}
    (addressed : signal.target? = some id)
    (execution : Scheduler.Execution deployment.scheduler) (other : ActivityId) :
    pending { system with execution := execution, requests := system.enqueue id signal } other =
      system.pending other ++
        if other = id then [⟨signal, system.execution.cycle⟩] else [] := by
  unfold pending
  rw [pipeline_sent, List.filter_append, filter_routed addressed]

theorem queued_sent (system : System deployment) {id : ActivityId} {signal : Signal}
    (addressed : signal.target? = some id)
    (execution : Scheduler.Execution deployment.scheduler) (other : ActivityId) :
    queued { system with execution := execution, requests := system.enqueue id signal } other =
      system.queued other ++ if other = id then [⟨signal, system.execution.cycle⟩] else [] := by
  have appended : system.enqueue id signal (deployment.route other) =
      system.requests (deployment.route other) ++
        if deployment.route other = deployment.route id then
          [⟨signal, system.execution.cycle⟩] else [] := update_concat_apply
  unfold queued
  dsimp only
  rw [appended, List.filter_append, filter_routed addressed]

theorem pending_received {system : System deployment} (coherent : Coherent system)
    {worker : WorkerId} {reply : Reply} {rest : List Reply}
    (head : system.replies worker = reply :: rest) {id : ActivityId}
    (addressed : reply.request.signal.target? = some id)
    (execution : Scheduler.Execution deployment.scheduler) (log : List Entry)
    (other : ActivityId) :
    system.pending other = (if other = id then [reply.request] else []) ++
      pending { system with
        execution := execution
        replies := Function.update system.replies worker rest
        log := log } other := by
  have member : reply.request ∈ system.pipeline worker := by
    rw [pipeline_received head execution log worker, if_pos rfl]
    exact List.mem_cons_self
  have routed := coherent.routed worker reply.request member id addressed
  unfold pending
  rw [pipeline_received head execution log, List.filter_append, ← routed,
    filter_routed addressed]

theorem pending_unaddressed {system : System deployment} {worker : WorkerId} {reply : Reply}
    {rest : List Reply} (head : system.replies worker = reply :: rest)
    (unaddressed : reply.request.signal.target? = none)
    (execution : Scheduler.Execution deployment.scheduler) (log : List Entry)
    (id : ActivityId) :
    pending { system with
        execution := execution
        replies := Function.update system.replies worker rest
        log := log } id = system.pending id := by
  unfold pending
  rw [pipeline_received head execution log, List.filter_append, filter_unaddressed unaddressed,
    List.nil_append]

/-- The broadcast signal is pending for no activity. -/
theorem filter_broadcast {requests : WorkerId → List Request} {signal : Signal} {cycle : Nat}
    (unaddressed : signal.target? = none) (reached : List WorkerId) (worker : WorkerId)
    (id : ActivityId) :
    (if worker ∈ reached then requests worker ++ [⟨signal, cycle⟩] else requests worker).filter
        (fun request => request.signal.target? = some id) =
      (requests worker).filter fun request => request.signal.target? = some id := by
  split
  · rw [List.filter_append, filter_target, unaddressed,
      if_neg (fun impossible => nomatch impossible), List.append_nil]
  · rfl

/-- A called request leaves the queue of its worker and stays pending. -/
theorem flow_accepted {system : System deployment} (coherent : Coherent system) {id : WorkerId}
    {request : Request} {rest : List Request} (point : system.points id = .receive)
    (head : system.requests id = request :: rest) :
    Flow system (system.accept id request rest
      ((deployment.workers id).handleSignal request.signal)) := by
  have unserved := (coherent.serves id).serving_eq_none (by rw [point]; rfl)
  have shrinks := pipeline_accepted unserved head
    ((deployment.workers id).handleSignal request.signal)
  have queues (worker : WorkerId) : system.requests worker =
      (if worker = id then [request] else []) ++
        Function.update system.requests id rest worker := by
    by_cases same : worker = id
    · subst same
      simp [head]
    · simp [same]
  by_cases calls : (deployment.workers id).handleSignal request.signal = .call request.signal
  · obtain ⟨target, addressed⟩ : ∃ target, request.signal.target? = some target := by
      rcases (deployment.workers id).handleSignal_cases request.signal with
        ⟨-, addressed⟩ | ⟨impossible, -⟩ | idle
      · exact addressed
      · cases impossible.symm.trans calls
      · rw [calls] at idle
        cases idle
    have member : request ∈ system.pipeline id := by
      unfold pipeline
      rw [head]
      simp
    have routed := coherent.routed id request member target addressed
    refine .called rfl addressed ?_ ?_ ?_
    · intro other
      unfold pending
      rw [pipeline_called unserved head (by rw [calls]; rfl)]
    · intro other
      unfold queued accept
      dsimp only
      rw [queues, List.filter_append, ← routed, filter_routed addressed]
    · unfold accept
      rw [if_pos calls]
  · refine Flow.worked [] rfl (fun other => (shrinks _).filter _) ?_ ?_
      (fun _ impossible => nomatch impossible)
    · intro other
      unfold queued accept
      dsimp only
      rw [queues (deployment.route other)]
      exact (List.sublist_append_right _ _).filter _
    · unfold accept
      rw [if_neg calls]
      rfl

/-- Each move is a flow of the requests. -/
theorem Move.flow {system next : System deployment} {event : Event}
    (move : Move system event next) (coherent : Coherent system) : Flow system next := by
  cases move with
  | scheduled isLocal transition =>
      exact .scheduled isLocal transition (fun _ => rfl) (fun _ => rfl) rfl
  | @sent id signal execution transition =>
      have addressed := target?_of_transition transition
      exact .sent transition (pending_sent system addressed execution)
        (queued_sent system addressed execution) rfl
  | @received worker reply rest execution head transition =>
      have genuine := coherent.replied worker reply (by rw [head]; exact List.mem_cons_self)
      obtain ⟨signal, request⟩ := reply
      rcases genuine with ⟨target, time, result, addressed, same, returned⟩ |
        ⟨agent, same, unaddressed⟩
      · change signal = _ at same
        subst same
        exact .answered transition addressed returned
          (pending_received coherent head addressed execution _) (fun _ => rfl) rfl
      · change signal = _ at same
        subst same
        exact .acknowledged transition (pending_unaddressed head unaddressed execution _)
          (fun _ => rfl) rfl
  | @broadcast signal result reached execution transition =>
      have unaddressed := target?_of_broadcast transition
      refine .broadcast transition ?_ ?_ rfl
      · intro id
        unfold pending pipeline
        rw [List.filter_append, List.filter_append, filter_broadcast unaddressed]
        rw [List.filter_append, List.filter_append]
      · intro id
        unfold queued
        exact filter_broadcast unaddressed reached _ id
  | accepted point head => exact flow_accepted coherent point head
  | idled =>
      exact Flow.worked [] rfl (fun _ => List.Sublist.refl _)
        (fun _ => List.Sublist.refl _) rfl (fun _ impossible => nomatch impossible)
  | @returned id signal target request result time =>
      refine Flow.worked [.returned request result] rfl
        (fun _ => List.Sublist.refl _) (fun _ => List.Sublist.refl _) rfl ?_
      simp
  | @responded id signal request result point source serving after =>
      have shrinks := pipeline_responded serving signal result point
      cases result with
      | error error =>
          exact Flow.worked [] rfl (fun other => (shrinks _).filter _)
            (fun _ => List.Sublist.refl _) rfl (fun _ impossible => nomatch impossible)
      | ok value =>
          refine Flow.worked [.replied ⟨signal, request⟩] rfl
            (fun other => (shrinks _).filter _) (fun _ => List.Sublist.refl _) rfl ?_
          simp

end Feo.System
