import Feo.Foundation.Simulation
import Feo.Proof.Relayed.Network.Visible
import Feo.Proof.System.Act

namespace Feo.Relayed

open Foundation

/-- A core signal on its way to the scheduler has a worker as its origin. -/
def Named (origin : Origin) (core : Option Signal) : Prop := core ≠ none → origin ≠ none

theorem named_none (origin : Origin) : Named origin none := fun wrong => absurd rfl wrong

theorem named_some (worker : WorkerId) (core : Option Signal) : Named (some worker) core :=
  fun _ => Option.some_ne_none worker

namespace Network

variable {setup : Setup}

/-- All core signals on their way to the scheduler were sent by workers. -/
structure Sourced (network : Network setup) : Prop where
  inbox : ∀ entry ∈ network.inbox, Named entry.1 entry.2.core?
  outbox : ∀ agent, ∀ entry ∈ network.outbox agent, Named entry.1 entry.2.core?
  fromAgent : ∀ agent, ∀ entry ∈ network.fromAgent agent, Named entry.1 entry.2.core?
  holding : ∀ agent held, network.secondarySend agent = .relay (some held) → held.1 ≠ none
  relayed : ∀ held, network.primaryReceive = .relay (some held) → held.1 ≠ none

theorem sourced_initial : Sourced (initial setup) where
  inbox entry inside := by cases inside
  outbox agent entry inside := by cases inside
  fromAgent agent entry inside := by cases inside
  holding agent held thread := by cases thread
  relayed held same := by
    change (if setup.remoteAgents = [] then PrimaryReceiveThread.absent else _) = _ at same
    split at same <;> cases same

/-- What a worker emits carries its name. -/
theorem Sourced.emit {network : Network setup} (sourced : Sourced network) (here : WorkerId)
    (signal : Mpsc.ProtocolSignal) :
    (∀ entry ∈ (network.emit here signal).inbox, Named entry.1 entry.2.core?) ∧
      ∀ agent, ∀ entry ∈ (network.emit here signal).outbox agent,
        Named entry.1 entry.2.core? := by
  constructor
  · intro entry member
    change entry ∈ (if setup.isLocal here then network.inbox ++ [(some here, signal)]
      else network.inbox) at member
    split at member
    · rcases List.mem_append.mp member with earlier | last
      · exact sourced.inbox entry earlier
      · rw [List.mem_singleton.mp last]
        exact named_some here _
    · exact sourced.inbox entry member
  · intro agent entry member
    change entry ∈ (if setup.isLocal here then network.outbox else _) agent at member
    split at member
    · exact sourced.outbox agent entry member
    · rcases mem_update_concat.mp member with earlier | ⟨rfl, rfl⟩
      · exact sourced.outbox agent entry earlier
      · exact named_some here _

theorem Sourced.move_inbox {network next : Network setup} {event : Event}
    (sourced : Sourced network) (move : Move network event next) :
    ∀ entry ∈ next.inbox, Named entry.1 entry.2.core? := by
  cases move with
  | acceptedSender main head | received main head =>
      intro entry member
      apply sourced.inbox
      rw [head]
      exact List.mem_cons_of_mem _ member
  | primaryAnnounced =>
      intro entry member
      rcases List.mem_append.mp member with earlier | last
      · exact sourced.inbox entry earlier
      · rw [List.mem_singleton.mp last]
        exact named_none none
  | primaryForwarded thread =>
      intro entry member
      rcases List.mem_append.mp member with earlier | last
      · exact sourced.inbox entry earlier
      · rw [List.mem_singleton.mp last]
        exact fun _ => sourced.relayed _ thread
  | workerGreeted | workerSent => exact (sourced.emit _ _).1
  | _ => exact sourced.inbox

theorem Sourced.move_outbox {network next : Network setup} {event : Event}
    (sourced : Sourced network) (move : Move network event next) :
    ∀ agent, ∀ entry ∈ next.outbox agent, Named entry.1 entry.2.core? := by
  cases move with
  | secondaryCollected _ _ head | secondaryHeld _ _ head =>
      intro agent entry member
      exact sourced.outbox agent entry (mem_of_mem_update head member)
  | workerGreeted | workerSent => exact (sourced.emit _ _).2
  | _ => exact sourced.outbox

theorem Sourced.move_fromAgent {network next : Network setup} {event : Event}
    (sourced : Sourced network) (move : Move network event next) :
    ∀ agent, ∀ entry ∈ next.fromAgent agent, Named entry.1 entry.2.core? := by
  cases move with
  | primaryGreeted _ _ head | primaryTook _ _ head =>
      intro agent entry member
      exact sourced.fromAgent agent entry (mem_of_mem_update head member)
  | secondaryHello =>
      intro agent entry member
      rcases mem_update_concat.mp member with earlier | ⟨rfl, rfl⟩
      · exact sourced.fromAgent agent entry earlier
      · exact named_none none
  | secondaryForwarded _ thread =>
      intro agent entry member
      rcases mem_update_concat.mp member with earlier | ⟨rfl, rfl⟩
      · exact sourced.fromAgent agent entry earlier
      · exact fun _ => sourced.holding agent _ thread
  | _ => exact sourced.fromAgent

theorem Sourced.move_holding {network next : Network setup} {event : Event}
    (sourced : Sourced network) (move : Move network event next) :
    ∀ agent held, next.secondarySend agent = .relay (some held) → held.1 ≠ none := by
  have changed (here : AgentId) (thread : SecondarySendThread)
      (settled : ∀ held, thread = .relay (some held) → held.1 ≠ none) :
      ∀ agent held, Function.update network.secondarySend here thread agent = .relay (some held) →
        held.1 ≠ none := by
    intro agent held
    by_cases same : agent = here
    · subst same
      rw [Function.update_self]
      exact settled held
    · rw [Function.update_of_ne same]
      exact sourced.holding agent held
  cases move with
  | secondaryCollected => exact changed _ _ fun _ => nofun
  | secondaryHello => exact changed _ _ fun _ => nofun
  | secondaryForwarded => exact changed _ _ fun _ => nofun
  | secondaryEnded => exact changed _ _ fun _ => nofun
  | @secondaryHeld agent entry _ _ _ head =>
      apply changed
      intro held same
      rw [secondarySend_held, SecondarySendThread.relay.injEq, Option.map_eq_some_iff] at same
      obtain ⟨core, shown, rfl⟩ := same
      apply sourced.outbox agent entry (by rw [head]; exact List.mem_cons_self)
      rw [shown]
      exact Option.some_ne_none core
  | _ => exact sourced.holding

theorem Sourced.move_relayed {network next : Network setup} {event : Event}
    (sourced : Sourced network) (move : Move network event next) :
    ∀ held, next.primaryReceive = .relay (some held) → held.1 ≠ none := by
  cases move with
  | primaryGreeted | primaryPanicked | primaryAnnounced | primaryForwarded =>
      exact fun _ => nofun
  | @primaryTook agent entry _ _ _ head =>
      intro held same
      rw [primaryReceive_held, PrimaryReceiveThread.relay.injEq, Option.map_eq_some_iff] at same
      obtain ⟨core, shown, rfl⟩ := same
      apply sourced.fromAgent agent entry (by rw [head]; exact List.mem_cons_self)
      rw [shown]
      exact Option.some_ne_none core
  | _ => exact sourced.relayed

/-- Every run keeps the origins of the core signals. -/
theorem run_sourced {history : List Event} {network : Network setup}
    (reached : (machine setup).run (initial setup) history = some network) : Sourced network := by
  refine (machine setup).run_preserves Sourced ?_ sourced_initial reached
  intro network event next sourced stepped
  have move := step_move stepped
  exact ⟨sourced.move_inbox move, sourced.move_outbox move, sourced.move_fromAgent move,
    sourced.move_holding move, sourced.move_relayed move⟩

/-- The queues of the system hold the calls and the answers that are on their way or left behind. -/
structure Refines (network : Network setup) (system : System setup.deployment) : Prop where
  execution : system.execution = network.settled
  points : ∀ worker, system.points worker = threadPoint (network.threads worker)
  requests : ∀ worker, setup.hosts worker = true → network.called worker =
    network.received worker ++ (system.requests worker).map Request.signal
  replies : ∀ worker, network.sent worker =
    network.delivered worker ++ (system.replies worker).map Reply.signal

/-- The system matches an event with at most one step that shows the same observation. -/
def Matched (network : Network setup) (event : Event) (next : Network setup)
    (system : System setup.deployment) : Prop :=
  ∃ after, (after = system ∨ ∃ action, system.step action = some after) ∧ Refines next after ∧
    System.observations after.log =
      System.observations system.log ++ (network.observe event).toList

section Matching

variable {network next : Network setup} {system : System setup.deployment}

/-- The scheduler of the system is where the scheduler of the network has settled. -/
theorem Refines.scheduler (refines : Refines network system) {action : Scheduler.Event}
    {execution : Scheduler.Execution setup.scheduler}
    (stepped : Scheduler.step network.settled action = some execution) :
    Scheduler.step system.execution action = some execution := by
  rw [refines.execution]
  exact stepped

/-- A call that the scheduler makes on its own keeps the queues. -/
theorem Refines.scheduled (refines : Refines network system) (kept : Kept network next)
    {event : Event} (unobserved : network.observe event = none) {action : Scheduler.Event}
    (isLocal : action.isLocal = true)
    (stepped : Scheduler.step network.settled action = some next.settled) :
    Matched network event next system := by
  refine ⟨_, .inr ⟨_, System.act_scheduled isLocal (refines.scheduler stepped)⟩, ?_, ?_⟩
  · refine ⟨rfl, fun worker => ?_, fun worker hosted => ?_, fun worker => ?_⟩
    · exact (refines.points worker).trans (kept.points worker).symm
    · rw [kept.called, kept.received]
      exact refines.requests worker hosted
    · rw [kept.sent, kept.delivered]
      exact refines.replies worker
  · rw [unobserved, Option.toList_none, List.append_nil]

theorem Refines.hidden (refines : Refines network system) (kept : Kept network next)
    {event : Event} (unobserved : network.observe event = none)
    (settled : next.settled = network.settled) : Matched network event next system := by
  refine ⟨system, .inl rfl, ?_, ?_⟩
  · refine ⟨refines.execution.trans settled.symm, fun worker => ?_, fun worker hosted => ?_,
      fun worker => ?_⟩
    · exact (refines.points worker).trans (kept.points worker).symm
    · rw [kept.called, kept.received]
      exact refines.requests worker hosted
    · rw [kept.sent, kept.delivered]
      exact refines.replies worker
  · rw [unobserved, Option.toList_none, List.append_nil]

/-- A call of the scheduler enters the queues of the workers that it concerns. -/
theorem Refines.called (refines : Refines network system) {signal : Signal}
    (kept : Kept (network.call signal) next) {requests : WorkerId → List Request}
    (queued : ∀ worker, setup.hosts worker = true → (requests worker).map Request.signal =
      (system.requests worker).map Request.signal ++
        if setup.concerns worker signal then [signal] else []) :
    Refines next { system with execution := next.settled, requests := requests } where
  execution := rfl
  points worker := (refines.points worker).trans (kept.points worker).symm
  requests worker hosted := by
    rw [kept.called, kept.received, call_called, queued worker hosted, ← List.append_assoc]
    exact congrArg (· ++ _) (refines.requests worker hosted)
  replies worker := by
    rw [kept.sent, kept.delivered]
    exact refines.replies worker

/-- The system sends to the worker that the signal concerns. -/
theorem Refines.sent (refines : Refines network system) {id : ActivityId} {signal : Signal}
    {event : Event} (unobserved : network.observe event = none)
    (target : signal.target? = some id)
    (route : ∃ worker, setup.activityWorkerMap.get? id = some worker)
    (stepped : Scheduler.step network.settled (.sendToActivity id signal (.ok ())) =
      some next.settled)
    (kept : Kept (network.call signal) next) : Matched network event next system := by
  have shown : System.observations system.log =
      System.observations system.log ++ (network.observe event).toList := by
    rw [unobserved, Option.toList_none, List.append_nil]
  refine ⟨_, .inr ⟨_, System.act_send (refines.scheduler stepped)⟩, ?_, shown⟩
  apply refines.called kept
  intro worker _
  obtain ⟨routed, found⟩ := route
  have same : setup.deployment.route id = routed := ((HashMap.get?_eq_some_iff _ _ _).mp found).2
  unfold System.enqueue
  rw [same, Function.update_apply]
  by_cases equal : worker = routed
  · subst equal
    rw [if_pos rfl, if_pos ((setup.concerns_of_target worker target).mpr found), List.map_append]
    rfl
  · rw [if_neg equal, if_neg, List.append_nil]
    intro concerned
    have other := (setup.concerns_of_target worker target).mp concerned
    exact equal (Option.some.inj (other.symm.trans found))

/-- A refused signal concerns no worker that runs. -/
theorem Refines.refused (refines : Refines network system) {id : ActivityId} {signal : Signal}
    {error : Error} (target : signal.target? = some id)
    (route : setup.connector.sendToActivity id = .error error)
    (stepped : Scheduler.step network.settled (.sendToActivity id signal (.error error)) =
      some next.settled)
    (kept : Kept (network.call signal) next) :
    Matched network (.send id signal) next system := by
  refine ⟨_, .inr ⟨_, System.act_scheduled rfl (refines.scheduler stepped)⟩, ?_,
    (List.append_nil _).symm⟩
  apply refines.called kept
  intro worker hosted
  rw [if_neg, List.append_nil]
  intro concerned
  have found := (setup.concerns_of_target worker target).mp concerned
  rw [Setup.sendToActivity_error route found] at hosted
  cases hosted

/-- All hosted workers of a setup, at the primary and at the secondaries. -/
def hostedWorkers (setup : Setup) : List WorkerId :=
  setup.localWorkers ++ setup.remoteAgents.flatMap setup.secondaryWorkers

theorem mem_hostedWorkers {worker : WorkerId} (hosted : setup.hosts worker = true) :
    worker ∈ hostedWorkers setup := by
  rcases Setup.hosts_iff.mp hosted with here | ⟨remote, member⟩
  · exact List.mem_append_left _ (of_decide_eq_true here)
  · exact List.mem_append_right _ (List.mem_flatMap.mpr ⟨_, remote, member⟩)

/-- The broadcast reaches all hosted workers at once. -/
theorem Refines.broadcast (refines : Refines network system) {time : Timestamp}
    (stepped : Scheduler.step network.settled (.broadcastTerminate (.terminate time) (.ok ())) =
      some next.settled)
    (kept : Kept (network.call (.terminate time)) next) :
    Matched network (.broadcast time) next system := by
  refine ⟨_, .inr ⟨.broadcast (.terminate time) (.ok ()) (hostedWorkers setup),
    System.act_broadcast (refines.scheduler stepped)⟩, ?_, (List.append_nil _).symm⟩
  apply refines.called kept
  intro worker hosted
  rw [if_pos (mem_hostedWorkers hosted), List.map_append]
  rfl

/-- The head of a queue is the signal that is received next. -/
theorem head_of_prefix {Item : Type} (signal : Item → Signal) {before called : List Signal}
    {queue : List Item} {received : Signal} (same : called = before ++ queue.map signal)
    (first : before ++ [received] <+: called) :
    ∃ item rest, queue = item :: rest ∧ signal item = received := by
  rw [same, List.prefix_append_right_inj] at first
  cases queue with
  | nil => cases List.prefix_nil.mp first
  | cons item rest =>
      rw [List.map_cons, List.cons_prefix_cons] at first
      exact ⟨item, rest, rfl, first.1.symm⟩

/-- The scheduler receives the reply that the system delivers next. -/
theorem Refines.received (refines : Refines network system)
    {entry : Origin × Mpsc.ProtocolSignal} (named : Named entry.1 entry.2.core?)
    (stepped : Scheduler.step network.settled (.receive entry.2.received) = some next.settled)
    (kept : Kept (network.deliver entry) next)
    (delivered : ∀ worker, next.delivered worker <+: next.sent worker) :
    Matched network .receive next system := by
  obtain ⟨origin, signal⟩ := entry
  cases signal with
  | connect channel =>
      have same : (network.deliver (origin, .connect channel)).delivered = network.delivered := by
        cases origin <;> rfl
      refine refines.scheduled ⟨kept.points, kept.called, kept.received, kept.sent, ?_⟩ rfl rfl
        stepped
      exact kept.delivered.trans same
  | core core =>
      obtain ⟨worker, rfl⟩ := Option.ne_none_iff_exists'.mp
        (named (Option.some_ne_none core))
      have grown : next.delivered =
          Function.update network.delivered worker (network.delivered worker ++ [core]) :=
        kept.delivered
      have first := delivered worker
      rw [grown, Function.update_self, kept.sent] at first
      obtain ⟨reply, rest, head, same⟩ :=
        head_of_prefix Reply.signal (refines.replies worker) first
      subst same
      refine ⟨_, .inr ⟨_, System.act_receive head (refines.scheduler stepped)⟩, ?_, ?_⟩
      · refine ⟨rfl, fun other => ?_, fun other hosted => ?_, fun other => ?_⟩
        · exact (refines.points other).trans (kept.points other).symm
        · rw [kept.called, kept.received]
          exact refines.requests other hosted
        · rw [kept.sent, grown]
          refine (refines.replies other).trans ?_
          dsimp only
          by_cases equal : other = worker
          · subst equal
            rw [Function.update_self, Function.update_self, head, List.map_cons,
              List.append_assoc]
            rfl
          · rw [Function.update_of_ne equal, Function.update_of_ne equal]
      · dsimp only
        rw [System.observations_cons]
        rfl

theorem Refines.worked (refines : Refines network system) {worker : WorkerId}
    {event : Worker.Event} {point : Worker.Point} (worked : Worked network worker event point next)
    {after : System setup.deployment} (execution : after.execution = system.execution)
    (points : after.points = Function.update system.points worker point)
    (requests : ∀ other, (system.requests other).map Request.signal =
      (if other = worker then event.taken else []) ++ (after.requests other).map Request.signal)
    (replies : ∀ other, (after.replies other).map Reply.signal =
      (system.replies other).map Reply.signal ++ if other = worker then event.given else []) :
    Refines next after where
  execution := by rw [execution, worked.settled, refines.execution]
  points other := by
    rw [points, worked.points, Function.update_apply, refines.points]
  requests other hosted := by
    rw [worked.called, worked.received, refines.requests other hosted, requests, List.append_assoc]
  replies other := by
    rw [worked.sent, worked.delivered, refines.replies, replies, List.append_assoc]

/-- A worker receives the request that the system delivers next. -/
theorem Refines.accepted (refines : Refines network system) {worker : WorkerId} {signal : Signal}
    {point : Worker.Point} (hosted : setup.hosts worker = true)
    (stepped : (setup.workers worker).step (threadPoint (network.threads worker))
      (.receive (.ok (some signal))) = some point)
    (worked : Worked network worker (.receive (.ok (some signal))) point next)
    (received : next.received worker <+: next.called worker) :
    Matched network (.worker worker (.receive (.ok (some signal)))) next system := by
  obtain ⟨waits, rfl⟩ := Worker.step_receive_some stepped
  have first := received
  rw [worked.received, worked.called, if_pos rfl] at first
  obtain ⟨request, rest, head, rfl⟩ :=
    head_of_prefix Request.signal (refines.requests worker hosted) first
  refine ⟨_, .inr ⟨_, System.act_accept ((refines.points worker).trans waits) head⟩, ?_, ?_⟩
  · refine refines.worked worked rfl rfl (fun other => ?_) fun other => ?_
    · change _ = _ ++ (Function.update system.requests worker rest other).map _
      by_cases same : other = worker
      · subst same
        rw [if_pos rfl, Function.update_self, head]
        rfl
      · rw [if_neg same, Function.update_of_ne same]
        rfl
    · rw [show Worker.Event.given (.receive (.ok (some request.signal))) = [] from rfl, ite_self,
        List.append_nil]
      rfl
  · unfold System.accept observe
    dsimp only
    change System.observations (if (setup.workers worker).handleSignal request.signal = _ then _
      else _) = _
    split
    · rw [System.observations_cons]
      rfl
    · exact (List.append_nil _).symm

/-- An event of a worker that moves no signal leaves the queues as they are. -/
theorem Refines.moved (refines : Refines network system) {worker : WorkerId}
    {event : Worker.Event} {point : Worker.Point} (worked : Worked network worker event point next)
    (taken : event.taken = []) (given : event.given = []) {after : System setup.deployment}
    (execution : after.execution = system.execution)
    (points : after.points = Function.update system.points worker point)
    (requests : after.requests = system.requests) (replies : after.replies = system.replies) :
    Refines next after := by
  refine refines.worked worked execution points (fun other => ?_) fun other => ?_
  · rw [taken, ite_self, requests]
    rfl
  · rw [given, ite_self, replies, List.append_nil]

/-- A busy worker of the system serves a request. -/
theorem serving_of_busy (coherent : System.Coherent system) {worker : WorkerId}
    (busy : (system.points worker).busy = true) :
    ∃ request, system.serving worker = some request ∧
      ∀ signal, system.points worker = .call signal → request.signal = signal := by
  cases serving : system.serving worker with
  | none =>
      have served := coherent.serves worker
      rw [serving] at served
      generalize system.points worker = point at served busy
      cases served with
      | idle idle =>
          rw [idle] at busy
          cases busy
  | some request =>
      exact ⟨request, rfl, fun signal point => (coherent.calling point serving).1⟩

/-- Each call of a worker is a call of the same worker of the system. -/
theorem Refines.work (refines : Refines network system) (coherent : System.Coherent system)
    {worker : WorkerId} {event : Worker.Event} {point : Worker.Point}
    (hosted : setup.hosts worker = true)
    (stepped : (setup.workers worker).step (threadPoint (network.threads worker)) event =
      some point)
    (worked : Worked network worker event point next)
    (received : next.received worker <+: next.called worker) :
    Matched network (.worker worker event) next system := by
  have own : (setup.deployment.workers worker).step (system.points worker) event = some point := by
    rw [refines.points]
    exact stepped
  cases event with
  | receive result =>
      cases result with
      | error error =>
          exact ⟨_, .inr ⟨_, System.act_unreceived own nofun⟩,
            refines.moved worked rfl rfl rfl rfl rfl rfl, (List.append_nil _).symm⟩
      | ok signal =>
          cases signal with
          | none =>
              exact ⟨_, .inr ⟨_, System.act_unreceived own nofun⟩,
                refines.moved worked rfl rfl rfl rfl rfl rfl, (List.append_nil _).symm⟩
          | some signal => exact refines.accepted hosted stepped worked received
  | returned result time =>
      obtain ⟨signal, id, called, -, -⟩ := Worker.step_returned own
      obtain ⟨request, serving, same⟩ := serving_of_busy coherent (by rw [called]; rfl)
      refine ⟨_, .inr ⟨_, System.act_returned own serving⟩,
        refines.moved worked rfl rfl rfl rfl rfl rfl, ?_⟩
      dsimp only
      rw [System.observations_cons, observe, ← refines.points, called, ← same signal called]
      rfl
  | sendToScheduler signal result =>
      obtain ⟨responds, -⟩ := Worker.step_sendToScheduler own
      have busy : (system.points worker).busy = true := by
        rcases responds with same | ⟨same, -⟩ <;> rw [same] <;> rfl
      obtain ⟨request, serving, -⟩ := serving_of_busy coherent busy
      refine ⟨_, .inr ⟨_, System.act_respond own serving⟩, ?_, ?_⟩
      · cases result with
        | error error => exact refines.moved worked rfl rfl rfl rfl rfl rfl
        | ok value =>
            refine refines.worked worked rfl rfl (fun other => ?_) fun other => ?_
            · rw [show Worker.Event.taken (.sendToScheduler signal (.ok value)) = [] from rfl,
                ite_self]
              rfl
            · change (Function.update system.replies worker _ other).map _ = _
              by_cases same : other = worker
              · subst same
                rw [if_pos rfl, Function.update_self, List.map_append]
                rfl
              · rw [if_neg same, Function.update_of_ne same, List.append_nil]
      · cases result with
        | error error => exact (List.append_nil _).symm
        | ok value =>
            change System.observations (Entry.replied _ :: system.log) = _
            rw [System.observations_cons]
            rfl
  | lingered =>
      exact ⟨_, .inr ⟨_, System.act_lingered own⟩, refines.moved worked rfl rfl rfl rfl rfl rfl,
        (List.append_nil _).symm⟩

/-- Each step of the network is a step of the system, or the system stays as it is. -/
theorem Refines.matched (refines : Refines network system) (coherent : System.Coherent system)
    (sourced : Sourced network) {event : Event} (sustained : network.Sustained event)
    (stepped : network.step event = some next)
    (received : ∀ worker, setup.hosts worker = true →
      next.received worker <+: next.called worker)
    (delivered : ∀ worker, next.delivered worker <+: next.sent worker) :
    Matched network event next system := by
  cases step_visible sustained stepped with
  | hidden unobserved settled kept => exact refines.hidden kept unobserved settled
  | scheduled unobserved isLocal stepped kept =>
      exact refines.scheduled kept unobserved isLocal stepped
  | sent unobserved target route stepped kept =>
      exact refines.sent unobserved target route stepped kept
  | refused target route stepped kept => exact refines.refused target route stepped kept
  | received member stepped kept =>
      exact refines.received (sourced.inbox _ member) stepped kept delivered
  | broadcast stepped kept => exact refines.broadcast stepped kept
  | worked hosted moved worked =>
      exact refines.work coherent hosted moved worked (received _ hosted)

end Matching

theorem refines_initial (setup : Setup) :
    Refines (initial setup) (System.initial setup.deployment) where
  execution := rfl
  points _ := rfl
  requests _ _ := rfl
  replies _ := rfl

/-- The system mirrors the network and shows the same observations. -/
structure Mirrored (history : List Event) (network : Network setup)
    (system : System setup.deployment) : Prop where
  refines : Refines network system
  observations : System.observations system.log =
    (machine setup).trace observe (initial setup) history

/-- A reliable run is patient and unbroken, and no send of a `Startup` or a `Step` fails in it. -/
structure Reliable (setup : Setup) (history : List Event) : Prop where
  patient : Throughout setup Patient history
  unbroken : Throughout setup Unbroken history
  sustained : Throughout setup Sustained history

theorem Reliable.front {history : List Event} {event : Event}
    (reliable : Reliable setup (history ++ [event])) : Reliable setup history where
  patient := (throughout_concat.mp reliable.patient).1
  unbroken := (throughout_concat.mp reliable.unbroken).1
  sustained := (throughout_concat.mp reliable.sustained).1

/-- A reliable run is mirrored by a run of the system. -/
theorem mirrored_of_run {history : List Event} {final : Network setup}
    (reached : (machine setup).run (initial setup) history = some final)
    (reliable : Reliable setup history) :
    ∃ system, (System.machine setup.deployment).Reaches (System.initial setup.deployment) system ∧
      Mirrored history final system := by
  refine Machine.run_simulated (Reliable setup) Mirrored ⟨refines_initial setup, rfl⟩
    (fun _ _ => Reliable.front) ?_ reliable reached
  intro history network event next system reliable before stepped path mirrored
  obtain ⟨events, run⟩ := path
  have after := (machine setup).run_concat_iff.mpr ⟨network, before, stepped⟩
  have received (worker : WorkerId) (hosted : setup.hosts worker = true) :
      next.received worker <+: next.called worker := by
    rw [(run_complete after reliable.unbroken).2 worker hosted]
    exact List.prefix_append _ _
  have delivered (worker : WorkerId) : next.delivered worker <+: next.sent worker := by
    rw [(run_accounted after reliable.unbroken reliable.patient).2.2 worker]
    exact List.prefix_append _ _
  have sustained := (throughout_concat.mp reliable.sustained).2 network before
  obtain ⟨target, moved, refines, shown⟩ := mirrored.refines.matched
    (System.run_coherent run) (run_sourced before) sustained stepped received delivered
  refine ⟨target, moved, refines, ?_⟩
  rw [shown, mirrored.observations, Machine.trace_concat before]

/-- Activity 1 runs on agent 101, and activity 2, which depends on it, runs on agent 100. -/
def duo : Setup where
  scheduler :=
    { agentId := ⟨100⟩
      cycleTime := Duration.zero
      receiveTimeout := Duration.zero
      startupTimeout := Duration.zero
      activityDepends :=
        { keys := [⟨1⟩, ⟨2⟩]
          nodup := GenericId.nodup_two
          value := fun id => if id = ⟨2⟩ then [⟨1⟩] else [] } }
  workers id :=
    if id = ⟨41⟩ then ⟨⟨41⟩, ⟨101⟩, [⟨1⟩]⟩ else ⟨⟨40⟩, ⟨100⟩, [⟨2⟩]⟩
  timeout := trio.timeout
  workerAgentMap :=
    { keys := [⟨41⟩, ⟨40⟩]
      nodup := by decide
      value := fun worker => if worker = ⟨41⟩ then ⟨101⟩ else ⟨100⟩ }
  activityWorkerMap :=
    { keys := [⟨1⟩, ⟨2⟩]
      nodup := GenericId.nodup_two
      value := fun id => if id = ⟨1⟩ then ⟨41⟩ else ⟨40⟩ }

/-- Both agents connect, and the scheduler sends its startup signals. -/
def duoStarting : List Event :=
  [.secondaryReceive ⟨101⟩, .secondaryReceive ⟨101⟩, .connect ⟨40⟩, .acceptReceiver ⟨101⟩, .next]
    ++ trioHello ⟨41⟩ ⟨101⟩ ++
    [.primaryNext, .acceptSender, .acceptSender, .next, .next, .start ⟨Duration.zero⟩, .next,
      .next, .send ⟨1⟩ (.startup ⟨1⟩ trioTime), .send ⟨2⟩ (.startup ⟨2⟩ trioTime),
      .secondaryReceive ⟨101⟩, .connect ⟨41⟩, .connect ⟨40⟩]

/-- Worker 41 answers a signal, and the relays forward both. -/
def duoRemote (signal : Signal) : List Event :=
  [.secondaryReceive ⟨101⟩, .secondaryReceive ⟨101⟩,
    .worker ⟨41⟩ (.receive (.ok (some signal))), .worker ⟨41⟩ (.returned (.ok ()) trioTime),
    .worker ⟨41⟩ (.sendToScheduler (.ready ⟨1⟩ trioTime) (.ok ())),
    .secondaryTake ⟨101⟩, .secondaryNext ⟨101⟩, .primaryTake ⟨101⟩, .primaryNext]

/-- Both activities start up and step, one after the other, and the first `Shutdown` is torn. -/
def duoRun : List Event :=
  duoStarting ++ duoRemote (.startup ⟨1⟩ trioTime) ++
    [.worker ⟨40⟩ (.receive (.ok (some (.startup ⟨2⟩ trioTime)))),
      .worker ⟨40⟩ (.returned (.ok ()) trioTime),
      .worker ⟨40⟩ (.sendToScheduler (.ready ⟨2⟩ trioTime) (.ok ())),
      .scheduler (.elapsed Duration.zero), .receive, .scheduler (.elapsed Duration.zero), .receive,
      .send ⟨1⟩ (.step ⟨1⟩ trioTime)] ++
    duoRemote (.step ⟨1⟩ trioTime) ++
    [.receive, .send ⟨2⟩ (.step ⟨2⟩ trioTime),
      .worker ⟨40⟩ (.receive (.ok (some (.step ⟨2⟩ trioTime)))),
      .worker ⟨40⟩ (.returned (.ok ()) trioTime),
      .worker ⟨40⟩ (.sendToScheduler (.ready ⟨2⟩ trioTime) (.ok ())), .receive,
      .scheduler (.elapsed Duration.zero), .scheduler (.shutdownRequested true),
      .sendError ⟨1⟩ (.shutdown ⟨1⟩ trioTime) refusal true, .send ⟨2⟩ (.shutdown ⟨2⟩ trioTime)]

/-- The activities are called in this order before the second one steps. -/
def duoTrace : List Observation :=
  [.called (.startup ⟨1⟩ trioTime), .returned (.startup ⟨1⟩ trioTime) (.ok ()),
    .called (.startup ⟨2⟩ trioTime), .returned (.startup ⟨2⟩ trioTime) (.ok ()),
    .called (.step ⟨1⟩ trioTime), .returned (.step ⟨1⟩ trioTime) (.ok ())]

theorem duoRun_reliable : Reliable duo duoRun := by
  constructor <;> rw [Throughout, atEach_iff_getElem] <;> decide +kernel

theorem duoRun_trace : (machine duo).trace observe (initial duo) duoRun =
    duoTrace ++ [.called (.step ⟨2⟩ trioTime), .returned (.step ⟨2⟩ trioTime) (.ok ())] := by
  decide +kernel

theorem duoRun_reaches : ∃ final, (machine duo).run (initial duo) duoRun = some final := by
  have reaches : ((machine duo).run (initial duo) duoRun).isSome = true := by decide +kernel
  exact Option.isSome_iff_exists.mp reaches

/-- A reliable run of the relays and connections shows the calls and returns of a run in which each
worker has one queue of requests and one queue of replies. -/
theorem run_refines_system {history : List Event} {final : Network setup}
    (reached : (machine setup).run (initial setup) history = some final)
    (reliable : Reliable setup history) :
    ∃ events system, (System.machine setup.deployment).run (System.initial setup.deployment)
        events = some system ∧
      Refines final system ∧
      System.observations system.log =
        (machine setup).trace observe (initial setup) history := by
  obtain ⟨system, ⟨events, run⟩, mirrored⟩ := mirrored_of_run reached reliable
  exact ⟨events, system, run, mirrored.refines, mirrored.observations⟩

theorem duoRun_refines_system :
    ∃ final events system, (machine duo).run (initial duo) duoRun = some final ∧
      (System.machine duo.deployment).run (System.initial duo.deployment) events =
        some system ∧
      Refines final system ∧
      System.observations system.log =
        duoTrace ++ [.called (.step ⟨2⟩ trioTime), .returned (.step ⟨2⟩ trioTime) (.ok ())] := by
  obtain ⟨final, reached⟩ := duoRun_reaches
  obtain ⟨events, system, run, refines, shown⟩ := run_refines_system reached duoRun_reliable
  exact ⟨final, events, system, reached, run, refines, shown.trans duoRun_trace⟩

/-- Whenever an activity of a relayed setup is stepped, the activities that it depends on have
finished one step more than it has, and those that depend on it as many. -/
theorem run_steps_inLockStep {history : List Event} {final : Network setup}
    (reached : (machine setup).run (initial setup) history = some final)
    (reliable : Reliable setup history) {id : ActivityId} {time : Timestamp}
    {before after : List Observation}
    (split : (machine setup).trace observe (initial setup) history =
      before ++ .called (.step id time) :: after) :
    System.InLockStep setup.scheduler (fun other => before.countP (Observation.stepOf other))
      id := by
  obtain ⟨system, ⟨events, run⟩, mirrored⟩ := mirrored_of_run reached reliable
  exact System.run_lockStep run (mirrored.observations.trans split)

/-- Activity 2 begins its first step after activity 1 has finished its first step. -/
theorem duoRun_step_inLockStep :
    System.InLockStep duo.scheduler (fun other => duoTrace.countP (Observation.stepOf other))
      ⟨2⟩ := by
  obtain ⟨final, reached⟩ := duoRun_reaches
  exact run_steps_inLockStep reached duoRun_reliable duoRun_trace

end Network

end Feo.Relayed
