import Feo.Foundation.Channel
import Feo.Proof.System.Move

namespace Feo.System

open Foundation

variable {deployment : Deployment}

/-- The requests in the channels of a worker are replied, served, or queued. -/
def pipeline (system : System deployment) (worker : WorkerId) : List Request :=
  (system.replies worker).map Reply.request ++ ((system.serving worker).toList ++
    system.requests worker)

/-- The unanswered requests to an activity. -/
def pending (system : System deployment) (id : ActivityId) : List Request :=
  (system.pipeline (deployment.route id)).filter fun request => request.signal.target? = some id

/-- The requests to an activity that its worker has not yet received. -/
def queued (system : System deployment) (id : ActivityId) : List Request :=
  (system.requests (deployment.route id)).filter fun request => request.signal.target? = some id

/-- A reply reports the result of its request, or acknowledges the termination. -/
def Genuine (log : List Entry) (reply : Reply) : Prop :=
  (∃ target time result, reply.request.signal.target? = some target ∧
      reply.signal = Worker.response target time result ∧
      Entry.returned reply.request result ∈ log) ∨
    ∃ agent, reply.signal = .terminateAck agent ∧ reply.request.signal.target? = none

theorem Genuine.mono {log extended : List Entry} {reply : Reply} (genuine : Genuine log reply)
    (grows : log ⊆ extended) : Genuine extended reply := by
  rcases genuine with ⟨target, time, result, addressed, same, member⟩ | acknowledges
  · exact .inl ⟨target, time, result, addressed, same, grows member⟩
  · exact .inr acknowledges

/-- A worker owes an answer exactly to the request that it serves. -/
inductive Serves (log : List Entry) : Worker.Point → Option Request → Prop where
  | idle {point : Worker.Point} (idle : point.busy = false) : Serves log point none
  | calling {request : Request} : Serves log (.call request.signal) (some request)
  | responding {signal : Signal} {request : Request} (genuine : Genuine log ⟨signal, request⟩) :
      Serves log (.respond signal) (some request)
  | acknowledging {request : Request} (unaddressed : request.signal.target? = none) :
      Serves log .acknowledge (some request)

theorem Serves.mono {log extended : List Entry} {point : Worker.Point} {serving : Option Request}
    (serves : Serves log point serving) (grows : log ⊆ extended) :
    Serves extended point serving := by
  cases serves with
  | idle idle => exact .idle idle
  | calling => exact .calling
  | responding genuine => exact .responding (genuine.mono grows)
  | acknowledging unaddressed => exact .acknowledging unaddressed

theorem Serves.serving_eq_none {log : List Entry} {point : Worker.Point}
    {serving : Option Request} (serves : Serves log point serving) (idle : point.busy = false) :
    serving = none := by
  cases serves with
  | idle => rfl
  | _ => cases idle

/-- A worker that sends its answer owes it. -/
theorem Serves.genuine {log : List Entry} {point : Worker.Point} {request : Request}
    {signal : Signal} {agent : AgentId} (serves : Serves log point (some request))
    (source : point = .respond signal ∨ point = .acknowledge ∧ signal = .terminateAck agent) :
    Genuine log ⟨signal, request⟩ := by
  cases serves with
  | calling => rcases source with impossible | ⟨impossible, -⟩ <;> cases impossible
  | responding genuine =>
      rcases source with same | ⟨impossible, -⟩
      · cases same
        exact genuine
      · cases impossible
  | acknowledging unaddressed =>
      rcases source with impossible | ⟨-, rfl⟩
      · cases impossible
      · exact .inr ⟨agent, rfl, unaddressed⟩

/-- The workers serve their requests, the replies are genuine, and the requests are routed. -/
structure Coherent (system : System deployment) : Prop where
  serves : ∀ id, Serves system.log (system.points id) (system.serving id)
  replied : ∀ id, ∀ reply ∈ system.replies id, Genuine system.log reply
  routed : ∀ worker, ∀ request ∈ system.pipeline worker, ∀ id,
    request.signal.target? = some id → deployment.route id = worker

theorem coherent_initial : Coherent (initial deployment) where
  serves _ := .idle rfl
  replied _ _ impossible := nomatch impossible
  routed _ _ impossible := nomatch impossible

/-- A signal to an activity is addressed to it. -/
theorem target?_of_transition {execution next : Scheduler.Execution deployment.scheduler}
    {id : ActivityId} {signal : Signal} {result : Except Error Unit}
    (transition : Scheduler.Transition execution (.sendToActivity id signal result) next) :
    signal.target? = some id := by
  cases transition <;> rfl

/-- The broadcast signal is addressed to no activity. -/
theorem target?_of_broadcast {execution next : Scheduler.Execution deployment.scheduler}
    {signal : Signal} {result : Except Error Unit}
    (transition : Scheduler.Transition execution (.broadcastTerminate signal result) next) :
    signal.target? = none := by
  cases transition
  rfl

/-- A successful send appends to the channels of the activity's worker. -/
theorem pipeline_sent (system : System deployment) (id : ActivityId) (signal : Signal)
    (execution : Scheduler.Execution deployment.scheduler) (worker : WorkerId) :
    pipeline { system with execution := execution, requests := system.enqueue id signal } worker =
      system.pipeline worker ++
        if worker = deployment.route id then [⟨signal, system.execution.cycle⟩] else [] := by
  unfold pipeline enqueue
  by_cases same : worker = deployment.route id
  · subst same
    simp
  · simp [same]

/-- The received reply leaves the channels of its worker. -/
theorem pipeline_received {system : System deployment} {worker : WorkerId} {reply : Reply}
    {rest : List Reply} (head : system.replies worker = reply :: rest)
    (execution : Scheduler.Execution deployment.scheduler) (log : List Entry) (other : WorkerId) :
    system.pipeline other = (if other = worker then [reply.request] else []) ++
      pipeline { system with
        execution := execution
        replies := Function.update system.replies worker rest
        log := log } other := by
  unfold pipeline
  by_cases same : other = worker
  · subst same
    simp [head]
  · simp [same]

/-- The accepted request stays in the channels while the worker owes an answer. -/
theorem pipeline_accepted {system : System deployment} {id : WorkerId} {request : Request}
    {rest : List Request} (unserved : system.serving id = none)
    (head : system.requests id = request :: rest) (point : Worker.Point) (worker : WorkerId) :
    ((system.accept id request rest point).pipeline worker).Sublist (system.pipeline worker) := by
  unfold pipeline accept
  by_cases same : worker = id
  · subst same
    cases point.busy <;> simp [unserved, head]
  · simp [same]

theorem pipeline_called {system : System deployment} {id : WorkerId} {request : Request}
    {rest : List Request} (unserved : system.serving id = none)
    (head : system.requests id = request :: rest) {point : Worker.Point}
    (busy : point.busy = true) (worker : WorkerId) :
    (system.accept id request rest point).pipeline worker = system.pipeline worker := by
  unfold pipeline accept
  by_cases same : worker = id
  · subst same
    simp [unserved, head, busy]
  · simp [same]

/-- The answer of a worker stays in its channels or is lost. -/
theorem pipeline_responded {system : System deployment} {id : WorkerId} {request : Request}
    (serving : system.serving id = some request) (signal : Signal) (result : Except Error Unit)
    (point : Worker.Point) (worker : WorkerId) :
    ((system.respond id request signal result point).pipeline worker).Sublist
      (system.pipeline worker) := by
  unfold pipeline respond
  by_cases same : worker = id
  · subst same
    cases result <;> simp [serving]
  · cases result <;> simp [same]

/-- An update of one worker leaves the others as they are. -/
theorem serves_update {log extended : List Entry} {points : WorkerId → Worker.Point}
    {serving : WorkerId → Option Request} (serves : ∀ id, Serves log (points id) (serving id))
    (grows : log ⊆ extended) (id : WorkerId) {point : Worker.Point} {request : Option Request}
    (updated : Serves extended point request) (other : WorkerId) :
    Serves extended (Function.update points id point other)
      (Function.update serving id request other) := by
  by_cases same : other = id
  · subst same
    rw [Function.update_self, Function.update_self]
    exact updated
  · rw [Function.update_of_ne same, Function.update_of_ne same]
    exact (serves other).mono grows

/-- A move that adds no request to the channels keeps the routes. -/
theorem Coherent.routed_of_sublist {system next : System deployment} (coherent : Coherent system)
    (shrinks : ∀ worker, (next.pipeline worker).Sublist (system.pipeline worker)) :
    ∀ worker, ∀ request ∈ next.pipeline worker, ∀ id,
      request.signal.target? = some id → deployment.route id = worker :=
  fun worker request member => coherent.routed worker request ((shrinks worker).subset member)

/-- The sent signal goes to the worker of its activity. -/
theorem coherent_sent {system : System deployment} {id : ActivityId} {signal : Signal}
    {execution : Scheduler.Execution deployment.scheduler}
    (transition : Scheduler.Transition system.execution (.sendToActivity id signal (.ok ()))
      execution)
    (coherent : Coherent system) :
    Coherent { system with execution := execution, requests := system.enqueue id signal } := by
  refine ⟨coherent.serves, coherent.replied, ?_⟩
  intro worker request member target addressed
  rw [pipeline_sent, List.mem_append] at member
  rcases member with earlier | last
  · exact coherent.routed worker request earlier target addressed
  · split at last
    · next same =>
        rw [List.mem_singleton] at last
        subst last
        rw [same]
        cases (target?_of_transition transition).symm.trans addressed
        rfl
    · cases last

/-- The received reply leaves the channels. -/
theorem coherent_received {system : System deployment} {worker : WorkerId} {reply : Reply}
    {rest : List Reply} (head : system.replies worker = reply :: rest)
    (execution : Scheduler.Execution deployment.scheduler) (coherent : Coherent system) :
    Coherent { system with
      execution := execution
      replies := Function.update system.replies worker rest
      log := .answered reply :: system.log } := by
  have grows := List.subset_cons_self (Entry.answered reply) system.log
  refine ⟨fun id => (coherent.serves id).mono grows, ?_, ?_⟩
  · intro id other member
    exact (coherent.replied id other (mem_of_mem_update head member)).mono grows
  · apply coherent.routed_of_sublist
    intro other
    rw [pipeline_received head execution (.answered reply :: system.log) other]
    exact List.sublist_append_right _ _

/-- A broadcast adds no request to an activity. -/
theorem coherent_broadcast {system : System deployment} {signal : Signal}
    {result : Except Error Unit} {reached : List WorkerId}
    {execution : Scheduler.Execution deployment.scheduler}
    (transition : Scheduler.Transition system.execution (.broadcastTerminate signal result)
      execution)
    (coherent : Coherent system) :
    Coherent { system with
      execution := execution
      requests := fun worker =>
        if worker ∈ reached then
          system.requests worker ++ [⟨signal, system.execution.cycle⟩]
        else system.requests worker } := by
  refine ⟨coherent.serves, coherent.replied, ?_⟩
  intro worker request member target addressed
  have before : request ∈ system.pipeline worker ∨
      request = ⟨signal, system.execution.cycle⟩ := by
    unfold pipeline at member ⊢
    simp only [List.mem_append] at member ⊢
    rcases member with replied | served | queued
    · exact .inl (.inl replied)
    · exact .inl (.inr (.inl served))
    · split at queued
      · rw [List.mem_append, List.mem_singleton] at queued
        exact queued.imp (fun earlier => .inr (.inr earlier)) id
      · exact .inl (.inr (.inr queued))
  rcases before with earlier | rfl
  · exact coherent.routed worker request earlier target addressed
  · cases (target?_of_broadcast transition).symm.trans addressed

/-- The accepted request is served or rejected. -/
theorem coherent_accepted {system : System deployment} {id : WorkerId} {request : Request}
    {rest : List Request} (point : system.points id = .receive)
    (head : system.requests id = request :: rest) (coherent : Coherent system) :
    Coherent (system.accept id request rest
      ((deployment.workers id).handleSignal request.signal)) := by
  have unserved := (coherent.serves id).serving_eq_none (by rw [point]; rfl)
  have grows : system.log ⊆ (system.accept id request rest
      ((deployment.workers id).handleSignal request.signal)).log := by
    unfold accept
    dsimp only
    split
    · exact List.subset_cons_self _ _
    · exact fun _ member => member
  refine ⟨serves_update coherent.serves grows id ?_,
    fun other reply member => (coherent.replied other reply member).mono grows,
    coherent.routed_of_sublist (pipeline_accepted unserved head _)⟩
  rcases (deployment.workers id).handleSignal_cases request.signal with
    ⟨same, -⟩ | ⟨same, unaddressed⟩ | idle
  · rw [same]
    exact .calling
  · rw [same]
    exact .acknowledging unaddressed
  · rw [idle, if_neg Bool.false_ne_true]
    exact .idle idle

/-- A worker that owes no answer may move to an idle point. -/
theorem coherent_idled {system : System deployment} {id : WorkerId} {point : Worker.Point}
    (before : (system.points id).busy = false) (after : point.busy = false)
    (coherent : Coherent system) :
    Coherent { system with points := Function.update system.points id point } := by
  have unserved := (coherent.serves id).serving_eq_none before
  refine ⟨fun other => ?_, coherent.replied, coherent.routed⟩
  have updated := serves_update coherent.serves (fun _ member => member) id
    (Serves.idle after) other
  rwa [← unserved, Function.update_eq_self] at updated

/-- The returned function gives the worker its answer. -/
theorem coherent_returned {system : System deployment} {id : WorkerId} {signal : Signal}
    {target : ActivityId} {request : Request} (result : Except ActivityError Unit)
    (time : Timestamp) (point : system.points id = .call signal)
    (addressed : signal.target? = some target) (serving : system.serving id = some request)
    (coherent : Coherent system) :
    Coherent { system with
      points := Function.update system.points id (.respond (Worker.response target time result))
      log := .returned request result :: system.log } := by
  have grows := List.subset_cons_self (Entry.returned request result) system.log
  refine ⟨fun other => ?_, fun other reply member =>
    (coherent.replied other reply member).mono grows, coherent.routed⟩
  have served := coherent.serves id
  rw [point, serving] at served
  have genuine : Genuine (.returned request result :: system.log)
      ⟨Worker.response target time result, request⟩ := by
    cases served
    exact .inl ⟨target, time, result, addressed, rfl, List.mem_cons_self⟩
  have updated := serves_update coherent.serves grows id (Serves.responding genuine) other
  rwa [← serving, Function.update_eq_self] at updated

/-- The sent answer is genuine. -/
theorem coherent_responded {system : System deployment} {id : WorkerId} {signal : Signal}
    {request : Request} {agent : AgentId} (result : Except Error Unit) {point : Worker.Point}
    (source : system.points id = .respond signal ∨
      system.points id = .acknowledge ∧ signal = .terminateAck agent)
    (serving : system.serving id = some request) (after : point.busy = false)
    (coherent : Coherent system) :
    Coherent (system.respond id request signal result point) := by
  have served := coherent.serves id
  rw [serving] at served
  have genuine := served.genuine source
  have grows : system.log ⊆ (system.respond id request signal result point).log := by
    unfold respond
    cases result
    · exact fun _ member => member
    · exact List.subset_cons_self _ _
  refine ⟨?_, ?_, coherent.routed_of_sublist (pipeline_responded serving signal result point)⟩
  · have updated := serves_update coherent.serves grows id (Serves.idle after)
    cases result <;> exact updated
  · intro other reply member
    cases result with
    | error error => exact coherent.replied other reply member
    | ok value =>
        rcases mem_update_concat.mp member with earlier | ⟨-, rfl⟩
        · exact (coherent.replied other reply earlier).mono grows
        · exact genuine.mono grows

/-- Each move keeps the channels coherent. -/
theorem Move.coherent {system next : System deployment} {event : Event}
    (move : Move system event next) (coherent : Coherent system) : Coherent next := by
  cases move with
  | scheduled => exact ⟨coherent.serves, coherent.replied, coherent.routed⟩
  | sent transition => exact coherent_sent transition coherent
  | received head => exact coherent_received head _ coherent
  | broadcast transition => exact coherent_broadcast transition coherent
  | accepted point head => exact coherent_accepted point head coherent
  | idled before after => exact coherent_idled before after coherent
  | returned point addressed serving =>
      exact coherent_returned _ _ point addressed serving coherent
  | responded source serving after => exact coherent_responded _ source serving after coherent

/-- Every run keeps the channels coherent. -/
theorem run_coherent {events : List Event} {system : System deployment}
    (reached : (machine deployment).run (initial deployment) events = some system) :
    Coherent system :=
  (machine deployment).run_preserves Coherent
    (fun _ _ _ coherent stepped => (step_move stepped).coherent coherent) coherent_initial reached

end Feo.System
