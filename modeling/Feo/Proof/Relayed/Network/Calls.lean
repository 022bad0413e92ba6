import Feo.Foundation.Split
import Feo.Proof.Relayed.Network.Sync

namespace Feo.Relayed

open Foundation

/-- A broadcast still has to reach the destination of the worker. -/
def Main.pending (destination : Destination) : Main → List Signal
  | .broadcastTerminate time remaining =>
      List.replicate (remaining.count destination) (.terminate time)
  | _ => []

/-- The relay of a secondary still has to send these signals to the worker. -/
def SecondaryReceiveThread.pending (worker : WorkerId) : SecondaryReceiveThread → List Signal
  | .relay held => held.filterMap fun entry => if entry.1 = worker then some entry.2 else none
  | _ => []

@[simp] theorem pending_nil (worker : WorkerId) :
    (SecondaryReceiveThread.relay []).pending worker = [] := rfl

@[simp] theorem pending_cons (worker other : WorkerId) (signal : Signal)
    (held : List (WorkerId × Signal)) :
    (SecondaryReceiveThread.relay ((other, signal) :: held)).pending worker =
      (if other = worker then [signal] else []) ++
        (SecondaryReceiveThread.relay held).pending worker := by
  by_cases same : other = worker <;> simp [SecondaryReceiveThread.pending, same]

/-- No signal is pending for the other workers. -/
theorem pending_eq_nil {workers : List WorkerId} {worker : WorkerId} (signal : Signal)
    (absent : worker ∉ workers) :
    (SecondaryReceiveThread.relay (workers.map fun other => (other, signal))).pending worker =
      [] := by
  induction workers with
  | nil => rfl
  | cons other rest hypothesis =>
      rw [List.mem_cons, not_or] at absent
      obtain ⟨differs, later⟩ := absent
      rw [List.map_cons, pending_cons, if_neg (Ne.symm differs), List.nil_append]
      exact hypothesis later

/-- A broadcast to distinct workers is pending once for each of them. -/
theorem pending_broadcast {workers : List WorkerId} {worker : WorkerId} (signal : Signal)
    (distinct : workers.Nodup) (member : worker ∈ workers) :
    (SecondaryReceiveThread.relay (workers.map fun other => (other, signal))).pending worker =
      [signal] := by
  induction workers with
  | nil => cases member
  | cons other rest hypothesis =>
      obtain ⟨fresh, later⟩ := List.nodup_cons.mp distinct
      rw [List.map_cons, pending_cons]
      by_cases same : other = worker
      · subst same
        rw [if_pos rfl, pending_eq_nil signal fresh, List.append_nil]
      · rw [if_neg same, List.nil_append]
        exact hypothesis later ((List.mem_cons.mp member).resolve_left (Ne.symm same))

namespace Setup

variable {setup : Setup}

/-- A targeted signal concerns the worker of its activity. -/
theorem concerns_of_target (setup : Setup) {signal : Signal} {id : ActivityId} (worker : WorkerId)
    (target : signal.target? = some id) :
    setup.concerns worker signal = true ↔ setup.activityWorkerMap.get? id = some worker := by
  cases signal with
  | startup other time | step other time | shutdown other time =>
      cases target
      exact decide_eq_true_iff
  | _ => cases target

/-- The relay of an agent sends a signal to exactly those of its workers that it concerns. -/
theorem pending_held {agent : AgentId} {worker : WorkerId} {signal : ProtocolSignal}
    (member : worker ∈ setup.secondaryWorkers agent)
    (other : ∀ info, signal ≠ .core (.startupSync info)) :
    (SecondaryReceiveThread.relay (setup.held agent
        (secondaryReceive (setup.secondaryMap agent) (.ok (some signal))))).pending worker =
      signal.core?.toList.filter (setup.concerns worker) := by
  have located : setup.workerAgentMap.get? worker = some agent :=
    (HashMap.get?_eq_some_iff _ _ _).mpr (home_of_mem member)
  have targeted (id : ActivityId) (core : Signal) (target : core.target? = some id) :
      (SecondaryReceiveThread.relay (setup.held agent
          (sendToWorker (setup.secondaryMap agent) id core))).pending worker =
        [core].filter (setup.concerns worker) := by
    have concerned := setup.concerns_of_target worker target
    unfold sendToWorker
    split
    · next missing =>
        have untouched : ¬ setup.concerns worker core = true := by
          intro found
          rw [secondaryMap_get?.mpr ⟨concerned.mp found, located⟩] at missing
          cases missing
        rw [List.filter_cons_of_neg untouched]
        rfl
    · next destined found =>
        have known := (secondaryMap_get?.mp found).1
        rw [held, pending_cons, pending_nil, List.append_nil]
        by_cases same : destined = worker
        · rw [if_pos same, List.filter_cons_of_pos (concerned.mpr (same ▸ known)),
            List.filter_nil]
        · have untouched : ¬ setup.concerns worker core = true := by
            intro found
            rw [concerned.mp found] at known
            exact same (Option.some.inj known).symm
          rw [if_neg same, List.filter_cons_of_neg untouched, List.filter_nil]
  have broadcast (core : Signal) (all : setup.concerns worker core = true) :
      (SecondaryReceiveThread.relay (setup.held agent (.broadcast core))).pending worker =
        [core].filter (setup.concerns worker) := by
    rw [List.filter_cons_of_pos all, List.filter_nil]
    exact pending_broadcast core (collect _).nodup member
  cases signal with
  | core core =>
      cases core with
      | startup id time | step id time | shutdown id time => exact targeted id _ rfl
      | terminate time => exact broadcast _ rfl
      | startupSync info => exact (other info rfl).elim
      | _ => rfl
  | _ => rfl

/-- A broadcast of the primary reaches the destination of each hosted worker once. -/
theorem count_destinations {worker : WorkerId} (hosted : setup.hosts worker = true) :
    setup.destinations.count (setup.destination worker) = 1 := by
  have agents : (setup.remoteAgents.map Destination.agent).Nodup :=
    (remoteAgentsOf _ _).nodup.map fun _ _ same => Destination.agent.inj same
  have workers : (setup.localWorkers.map Destination.worker).Nodup :=
    (localWorkersOf _ _).nodup.map fun _ _ same => Destination.worker.inj same
  have separate : (setup.remoteAgents.map Destination.agent).Disjoint
      (setup.localWorkers.map Destination.worker) := by
    intro target first second
    obtain ⟨_, _, rfl⟩ := List.mem_map.mp first
    obtain ⟨_, _, same⟩ := List.mem_map.mp second
    cases same
  apply List.count_eq_one_of_mem (agents.append workers separate)
  cases here : setup.isLocal worker with
  | true =>
      rw [destination_of_local here]
      exact List.mem_append_right _ (List.mem_map_of_mem (of_decide_eq_true here))
  | false =>
      rw [destination_of_remote here]
      have remote := (hosts_iff.mp hosted).resolve_left (by rw [here]; decide)
      exact List.mem_append_left _ (List.mem_map_of_mem remote.1)

end Setup

namespace Network

variable {setup : Setup}

/-- These signals for a worker have passed neither its connection nor the relay of its agent. -/
def remote (network : Network setup) (worker : WorkerId) : List Signal :=
  if setup.isLocal worker then []
  else
    (network.secondaryReceive (setup.home worker)).pending worker ++
      ((network.toAgent (setup.home worker)).filterMap ProtocolSignal.core?).filter
        (setup.concerns worker)

/-- The failed sends have left these signals for the worker behind. -/
def unreached (network : Network setup) (worker : WorkerId) : List Signal :=
  (network.lost (setup.destination worker)).filter (setup.concerns worker)

/-- These signals are on their way to the worker or left behind, the oldest first. -/
def down (network : Network setup) (worker : WorkerId) : List Signal :=
  (network.toWorker worker).filterMap Mpsc.ProtocolSignal.core? ++ network.remote worker ++
    network.unreached worker ++ network.main.pending (setup.destination worker)

theorem remote_of_local {network : Network setup} {worker : WorkerId}
    (here : setup.isLocal worker = true) : network.remote worker = [] := if_pos here

theorem remote_of_remote {network : Network setup} {worker : WorkerId}
    (there : setup.isLocal worker = false) :
    network.remote worker =
      (network.secondaryReceive (setup.home worker)).pending worker ++
        ((network.toAgent (setup.home worker)).filterMap ProtocolSignal.core?).filter
          (setup.concerns worker) := if_neg (by rw [there]; decide)

/-- The remote part depends only on the relay and the connection of the worker's agent. -/
theorem remote_congr {network next : Network setup} {worker : WorkerId}
    (same : setup.isLocal worker = false →
      (next.secondaryReceive (setup.home worker)).pending worker ++
          ((next.toAgent (setup.home worker)).filterMap ProtocolSignal.core?).filter
            (setup.concerns worker) =
        (network.secondaryReceive (setup.home worker)).pending worker ++
          ((network.toAgent (setup.home worker)).filterMap ProtocolSignal.core?).filter
            (setup.concerns worker)) : next.remote worker = network.remote worker := by
  cases here : setup.isLocal worker with
  | true => rw [remote_of_local here, remote_of_local here]
  | false => rw [remote_of_remote here, remote_of_remote here, same here]

theorem down_congr {network next : Network setup} {worker : WorkerId}
    (queue : (next.toWorker worker).filterMap Mpsc.ProtocolSignal.core? =
      (network.toWorker worker).filterMap Mpsc.ProtocolSignal.core?)
    (remote : next.remote worker = network.remote worker) (lost : next.lost = network.lost)
    (main : next.main.pending (setup.destination worker) =
      network.main.pending (setup.destination worker)) :
    next.down worker = network.down worker := by
  rw [down, down, unreached, unreached, queue, remote, lost, main]

/-- A pushed signal joins the signals on their way to the workers of its destination. -/
theorem push_arriving (network : Network setup) (worker : WorkerId) (signal : Signal)
    (target : Destination)
    (whole : ∀ agent, target = .agent agent → network.links agent = .whole)
    (aimed : target = .worker worker →
      setup.isLocal worker = true ∧ setup.concerns worker signal = true) :
    ((network.push signal target).toWorker worker).filterMap Mpsc.ProtocolSignal.core? ++
        (network.push signal target).remote worker =
      (network.toWorker worker).filterMap Mpsc.ProtocolSignal.core? ++ network.remote worker ++
        if target = setup.destination worker ∧ setup.concerns worker signal = true then [signal]
        else [] := by
  rw [push_toWorker, List.filterMap_append]
  cases here : setup.isLocal worker with
  | true =>
      rw [remote_of_local here, remote_of_local here, Setup.destination_of_local here]
      by_cases same : target = .worker worker
      · rw [if_pos same, if_pos ⟨same, (aimed same).2⟩]
        simp [Mpsc.ProtocolSignal.core?]
      · rw [if_neg same, if_neg (fun both => same both.1)]
        simp
  | false =>
      have differs : target ≠ .worker worker := by
        intro same
        rw [(aimed same).1] at here
        cases here
      rw [remote_of_remote here, remote_of_remote here, Setup.destination_of_remote here,
        push_toAgent _ _ _ whole, if_neg differs]
      have thread : (network.push signal target).secondaryReceive = network.secondaryReceive := rfl
      rw [thread, List.filterMap_append, List.filter_append]
      by_cases same : target = .agent (setup.home worker)
      · by_cases concerned : setup.concerns worker signal = true
        · simp [same, concerned, ProtocolSignal.core?]
        · simp [same, concerned, ProtocolSignal.core?]
      · simp [same]

/-- A received signal leaves the queue of its worker. -/
theorem toWorker_of_head {network : Network setup} {here : WorkerId}
    {first : Mpsc.ProtocolSignal} {rest : List Mpsc.ProtocolSignal}
    (head : network.toWorker here = first :: rest) (worker : WorkerId) :
    (network.toWorker worker).filterMap Mpsc.ProtocolSignal.core? =
      (if worker = here then first.core?.toList else []) ++
        (Function.update network.toWorker here rest worker).filterMap
          Mpsc.ProtocolSignal.core? := filterMap_of_head _ head

/-- The relay of an agent takes a signal for exactly the workers that it concerns. -/
theorem remote_took {network : Network setup} {here : AgentId} {signal : ProtocolSignal}
    {rest : List ProtocolSignal} {worker : WorkerId} (hosted : setup.hosts worker = true)
    (synchronizing : network.Synchronizing here)
    (thread : network.secondaryReceive here = .relay [])
    (head : network.toAgent here = signal :: rest) :
    remote { network with
      toAgent := Function.update network.toAgent here rest
      secondaryReceive := Function.update network.secondaryReceive here
        (.relay (setup.held here (Relayed.secondaryReceive (setup.secondaryMap here)
          (.ok (some signal))))) } worker = network.remote worker := by
  apply remote_congr
  intro there
  by_cases same : setup.home worker = here
  · have member : worker ∈ setup.secondaryWorkers here := by
      rw [← same]
      exact ((Setup.hosts_iff.mp hosted).resolve_left (by rw [there]; decide)).2
    have none := (synchronizing.relaying (by rw [thread]; rfl)).2
    have other : ∀ info, signal ≠ .core (.startupSync info) := by
      intro info equal
      exact none info (by rw [head, equal]; exact List.mem_cons_self)
    have split : (signal :: rest).filterMap ProtocolSignal.core? =
        signal.core?.toList ++ rest.filterMap ProtocolSignal.core? := by
      cases shown : signal.core? <;> simp [shown]
    change (Function.update network.secondaryReceive here _ (setup.home worker)).pending worker ++
      ((Function.update network.toAgent here rest (setup.home worker)).filterMap
        ProtocolSignal.core?).filter (setup.concerns worker) = _
    rw [same, Function.update_self, Function.update_self, Setup.pending_held member other, thread,
      head, pending_nil, List.nil_append, split, List.filter_append]
  · change (Function.update network.secondaryReceive here _ (setup.home worker)).pending worker ++
      ((Function.update network.toAgent here rest (setup.home worker)).filterMap
        ProtocolSignal.core?).filter (setup.concerns worker) = _
    rw [Function.update_of_ne same, Function.update_of_ne same]

/-- A change of a relay that holds no signal concerns no worker. -/
theorem remote_thread {network next : Network setup} {here : AgentId}
    {before after : SecondaryReceiveThread} {worker : WorkerId}
    (thread : network.secondaryReceive here = before)
    (changed : next.secondaryReceive = Function.update network.secondaryReceive here after)
    (queue : next.toAgent = network.toAgent)
    (same : after.pending worker = before.pending worker) :
    next.remote worker = network.remote worker := by
  apply remote_congr
  intro _
  rw [changed, queue]
  by_cases equal : setup.home worker = here
  · rw [equal, Function.update_self, thread, same]
  · rw [Function.update_of_ne equal]

theorem call_called (network : Network setup) (signal : Signal) (worker : WorkerId) :
    (network.call signal).called worker =
      network.called worker ++ if setup.concerns worker signal then [signal] else [] := rfl

/-- A connect signal is no signal on its way to the worker. -/
theorem pushWorker_connect (network : Network setup) (here : WorkerId) (channel : ChannelId)
    (worker : WorkerId) :
    ((network.pushWorker here (.connect channel)).toWorker worker).filterMap
        Mpsc.ProtocolSignal.core? =
      (network.toWorker worker).filterMap Mpsc.ProtocolSignal.core? := by
  refine (filterMap_update_concat _).trans ?_
  simp [Mpsc.ProtocolSignal.core?]

theorem pushWorker_core (network : Network setup) (here : WorkerId) (core : Signal)
    (worker : WorkerId) :
    ((network.pushWorker here (.core core)).toWorker worker).filterMap
        Mpsc.ProtocolSignal.core? =
      (network.toWorker worker).filterMap Mpsc.ProtocolSignal.core? ++
        if worker = here then [core] else [] := filterMap_update_concat _

/-- `StartupSync` concerns no worker when it is sent to an agent. -/
theorem remote_synchronized {network next : Network setup} {here : AgentId} {info : SyncInfo}
    {worker : WorkerId} (whole : network.links here = .whole)
    (thread : next.secondaryReceive = network.secondaryReceive)
    (queue : next.toAgent = (network.pushAgent here (.core (.startupSync info))).toAgent) :
    next.remote worker = network.remote worker := by
  apply remote_congr
  intro _
  rw [thread, queue, pushAgent_toAgent whole, filterMap_update_concat, List.filter_append]
  split
  · exact congrArg _ (List.append_nil _)
  · exact congrArg _ (List.append_nil _)

/-- `StartupSync` concerns no worker when its relay receives it. -/
theorem remote_synced {network next : Network setup} {here : AgentId} {info : SyncInfo}
    {rest : List ProtocolSignal} {worker : WorkerId}
    (thread : network.secondaryReceive here = .sync)
    (head : network.toAgent here = .core (.startupSync info) :: rest)
    (changed : next.secondaryReceive = Function.update network.secondaryReceive here (.relay []))
    (queue : next.toAgent = Function.update network.toAgent here rest) :
    next.remote worker = network.remote worker := by
  apply remote_congr
  intro _
  rw [changed, queue]
  by_cases same : setup.home worker = here
  · rw [same, Function.update_self, Function.update_self, thread, head]
    rfl
  · rw [Function.update_of_ne same, Function.update_of_ne same]

/-- No signal for the worker has been left behind. -/
theorem unreached_nil {network : Network setup} {worker : WorkerId}
    (unlost : network.lost (setup.destination worker) = []) : network.unreached worker = [] := by
  rw [unreached, unlost, List.filter_nil]

/-- A broadcast in progress is on its way to each destination that remains. -/
theorem down_terminated {network : Network setup} {time : Timestamp} {target : Destination}
    {rest : List Destination} {worker : WorkerId}
    (main : network.main = .broadcastTerminate time (target :: rest))
    (whole : ∀ agent, target = .agent agent → network.links agent = .whole)
    (aimed : target = .worker worker → setup.isLocal worker = true)
    (unlost : network.lost target = []) :
    down { network.push (.terminate time) target with
      main := .broadcastTerminate time rest } worker = network.down worker := by
  have pushed := push_arriving network worker (.terminate time) target whole
    fun same => ⟨aimed same, rfl⟩
  have pending : network.main.pending (setup.destination worker) =
      (if target = setup.destination worker then [.terminate time] else []) ++
        Main.pending (setup.destination worker) (.broadcastTerminate time rest) := by
    rw [main]
    by_cases same : target = setup.destination worker
    · subst same
      simp [Main.pending, List.replicate_succ]
    · simp [Main.pending, same, List.count_cons_of_ne]
  change (network.push (.terminate time) target |>.toWorker worker).filterMap
      Mpsc.ProtocolSignal.core? ++ (network.push (.terminate time) target).remote worker ++
    network.unreached worker ++
    Main.pending (setup.destination worker) (.broadcastTerminate time rest) = _
  rw [pushed, down, pending]
  by_cases same : target = setup.destination worker
  · rw [unreached_nil (same ▸ unlost), if_pos same, if_pos ⟨same, rfl⟩]
    simp only [List.append_nil, List.append_assoc]
  · rw [if_neg same, if_neg fun both => same both.1]
    simp only [List.append_nil, List.nil_append]

/-- An abandoned broadcast is left behind at each destination that remains. -/
theorem down_abandoned {network : Network setup} {time : Timestamp}
    {remaining : List Destination} {agent : AgentId} {part : Bool}
    {execution : Scheduler.Execution setup.scheduler}
    (main : network.main = .broadcastTerminate time remaining) (worker : WorkerId) :
    down { (network.lose (.terminate time) remaining).failAgent agent part with
      main := .run
      execution := execution } worker = network.down worker := by
  have concerned : setup.concerns worker (.terminate time) = true := rfl
  have left : unreached (network.lose (.terminate time) remaining) worker =
      network.unreached worker ++ network.main.pending (setup.destination worker) := by
    rw [unreached, lose_lost, List.filter_append, List.filter_replicate, if_pos concerned, main]
    rfl
  rw [down]
  change _ ++ _ ++ unreached (network.lose (.terminate time) remaining) worker ++ [] = _
  rw [left, List.append_nil, ← List.append_assoc]
  rfl

/-- A call of the scheduler is on its way to the worker that it concerns. -/
theorem down_sent {network : Network setup} {id : ActivityId} {signal : Signal}
    {host worker : WorkerId} {execution : Scheduler.Execution setup.scheduler}
    (main : network.main = .run) (addressed : signal.target? = some id)
    (found : setup.activityWorkerMap.get? id = some host)
    (whole : ∀ agent, setup.destination host = .agent agent → network.links agent = .whole)
    (unlost : network.lost (setup.destination host) = []) :
    down { (network.call signal).push signal (setup.destination host) with
      execution := execution } worker =
      network.down worker ++ if setup.concerns worker signal then [signal] else [] := by
  have concerned := setup.concerns_of_target worker addressed
  have pushed := push_arriving (network.call signal) worker signal
    (setup.destination host) whole fun same => by
      obtain ⟨here, rfl⟩ := Setup.destination_eq_worker_iff.mp same
      exact ⟨here, concerned.mpr found⟩
  have aimed : (setup.destination host = setup.destination worker ∧
      setup.concerns worker signal = true) ↔ setup.concerns worker signal = true := by
    refine and_iff_right_of_imp fun touched => ?_
    have same := concerned.mp touched
    rw [found] at same
    rw [Option.some.inj same]
  have idle : network.main.pending (setup.destination worker) = [] := by
    rw [main]
    rfl
  rw [down, down]
  change ((network.call signal).push signal (setup.destination host) |>.toWorker worker).filterMap
      Mpsc.ProtocolSignal.core? ++
    ((network.call signal).push signal (setup.destination host)).remote worker ++
    network.unreached worker ++ network.main.pending (setup.destination worker) = _
  rw [pushed, idle, List.append_nil, List.append_nil]
  simp only [aimed]
  by_cases touched : setup.concerns worker signal = true
  · have same := aimed.mpr touched
    rw [unreached_nil (same.1 ▸ unlost), List.append_nil, List.append_nil]
    rfl
  · rw [if_neg touched, List.append_nil, List.append_nil]
    rfl

/-- A failed call is left behind for the worker that it concerns. -/
theorem down_failed {network : Network setup} {id : ActivityId} {signal : Signal}
    {agent : AgentId} {host worker : WorkerId} {part : Bool}
    {execution : Scheduler.Execution setup.scheduler}
    (main : network.main = .run) (addressed : signal.target? = some id)
    (found : setup.activityWorkerMap.get? id = some host)
    (reaches : .agent agent = setup.destination host) :
    down { ((network.call signal).lose signal [.agent agent]).failAgent agent part with
      execution := execution } worker =
      network.down worker ++ if setup.concerns worker signal then [signal] else [] := by
  have concerned := setup.concerns_of_target worker addressed
  have idle : network.main.pending (setup.destination worker) = [] := by
    rw [main]
    rfl
  have left : unreached (network.lose signal [.agent agent]) worker =
      network.unreached worker ++ if setup.concerns worker signal then [signal] else [] := by
    rw [unreached, lose_lost, List.filter_append, List.filter_replicate]
    by_cases touched : setup.concerns worker signal = true
    · have same := concerned.mp touched
      rw [found] at same
      rw [if_pos touched, if_pos touched, reaches, Option.some.inj same, List.count_singleton_self]
      rfl
    · rw [if_neg touched, if_neg touched]
      rfl
  rw [down, down, idle, List.append_nil]
  change _ ++ _ ++ unreached (network.lose signal [.agent agent]) worker ++
    network.main.pending (setup.destination worker) = _
  rw [left, idle, List.append_nil, ← List.append_assoc]
  rfl

/-- A broadcast is on its way to each worker once. -/
theorem down_broadcast {network : Network setup} {time : Timestamp} {worker : WorkerId}
    (main : network.main = .run) (hosted : setup.hosts worker = true) :
    down { network.call (.terminate time) with
      main := .broadcastTerminate time setup.destinations } worker =
      network.down worker ++ [.terminate time] := by
  have idle : network.main.pending (setup.destination worker) = [] := by
    rw [main]
    rfl
  have pending : Main.pending (setup.destination worker)
      (.broadcastTerminate time setup.destinations) = [.terminate time] := by
    rw [Main.pending, Setup.count_destinations hosted]
    rfl
  rw [down, down, idle, List.append_nil]
  exact congrArg _ pending

/-- A signal that the relay of an agent forwards stays on its way to the worker. -/
theorem down_forwarded {network : Network setup} {here : AgentId} {other worker : WorkerId}
    {core : Signal} {rest : List (WorkerId × Signal)}
    (thread : network.secondaryReceive here = .relay ((other, core) :: rest))
    (held : setup.isLocal other = false ∧ setup.home other = here) :
    down { network.pushWorker other (.core core) with
      secondaryReceive := Function.update network.secondaryReceive here (.relay rest) } worker =
      network.down worker := by
  have queue := pushWorker_core network other core worker
  have remaining : network.remote worker =
      (if worker = other then [core] else []) ++
        remote { network.pushWorker other (.core core) with
          secondaryReceive :=
            Function.update network.secondaryReceive here (.relay rest) } worker := by
    cases local? : setup.isLocal worker with
    | true =>
        have differs : worker ≠ other := by
          rintro rfl
          rw [held.1] at local?
          cases local?
        rw [remote_of_local local?, remote_of_local local?, if_neg differs]
        rfl
    | false =>
        rw [remote_of_remote local?, remote_of_remote local?]
        change _ = _ ++ ((Function.update network.secondaryReceive here _
          (setup.home worker)).pending worker ++ _)
        by_cases same : setup.home worker = here
        · rw [same, Function.update_self, thread, pending_cons, List.append_assoc]
          simp only [eq_comm]
          rfl
        · have differs : worker ≠ other := by
            rintro rfl
            exact same held.2
          rw [Function.update_of_ne same, if_neg differs]
          rfl
  rw [down, down, remaining]
  change (network.pushWorker other (.core core) |>.toWorker worker).filterMap _ ++ _ ++ _ ++ _ = _
  rw [queue]
  simp only [List.append_assoc]
  rfl

/-- The first signal in its queue is the first one on its way to a worker. -/
theorem down_head {network : Network setup} {here : WorkerId}
    {first : Mpsc.ProtocolSignal} {rest : List Mpsc.ProtocolSignal}
    (head : network.toWorker here = first :: rest) (worker : WorkerId) :
    network.down worker =
      (if worker = here then first.core?.toList else []) ++
        down { network with toWorker := Function.update network.toWorker here rest } worker := by
  rw [down, down, toWorker_of_head head worker]
  simp only [List.append_assoc]
  rfl

/-- The signals that a worker received, those on their way and those left behind are the calls that
concern it. -/
def Complete (network : Network setup) : Prop :=
  ∀ worker, setup.hosts worker = true →
    network.called worker = network.received worker ++ network.down worker

theorem complete_initial : Complete (initial setup) := by
  intro worker _
  simp [initial, down, remote, unreached, SecondaryReceiveThread.pending, Main.pending]

/-- Nothing has been left behind at a destination to which the primary still writes. -/
theorem Downward.unlost {network : Network setup} (downward : Downward network)
    {destination : Destination}
    (whole : ∀ agent, destination = .agent agent → network.links agent = .whole)
    (goes : network.main = .run → ¬ network.execution.point.stage.Last) :
    network.lost destination = [] := by
  by_contra lost
  rcases downward.stranded destination lost with ⟨agent, same, broken⟩ | ⟨main, last⟩
  · exact broken (whole agent same)
  · exact goes main last

theorem Complete.move {network next : Network setup} {event : Event}
    (complete : Complete network) (downward : Downward network) (synced : Synced network)
    (unbroken : network.Unbroken event) (move : Move network event next) : Complete next := by
  intro worker hosted
  have before := complete worker hosted
  have kept (same : next.down worker = network.down worker) :
      network.called worker = network.received worker ++ next.down worker := by
    rw [same]
    exact before
  cases move with
  | acceptedReceiver main | acceptedSender main | started main | connectedSendRelay main
  | connectedSenders main | ran main | broadcasted main | unsynchronized main =>
      exact kept (down_congr rfl rfl rfl (by rw [main]; rfl))
  | connectedReceiver main =>
      exact kept (down_congr (pushWorker_connect _ _ _ _) rfl rfl (by rw [main]; rfl))
  | synchronized main =>
      exact kept (down_congr rfl (remote_synchronized (unbroken.synchronized main) rfl rfl) rfl
        (by rw [main]; rfl))
  | abandoned main => exact kept (down_abandoned main worker)
  | secondaryConnected _ thread =>
      exact kept (down_congr (pushWorker_connect _ _ _ _) (remote_thread thread rfl rfl rfl) rfl
        rfl)
  | secondaryGreeted _ thread =>
      exact kept (down_congr rfl (remote_thread thread rfl rfl rfl) rfl rfl)
  | secondarySynced _ thread head =>
      exact kept (down_congr rfl (remote_synced thread head rfl rfl) rfl rfl)
  | secondaryDropped known thread head other =>
      obtain ⟨_, ⟨info, first⟩, _⟩ := (synced.synchronizing _ known).first thread head
      exact (other info first).elim
  | secondaryTook known thread head =>
      exact kept (down_congr rfl
        (remote_took hosted (synced.synchronizing _ known) thread head) rfl rfl)
  | misread _ link => exact (synced.clear _ link).elim
  | @terminated time target rest main =>
      refine kept (down_terminated main (unbroken.terminated main) ?_ ?_)
      · intro same
        exact downward.terminating _ _ main worker (by rw [same]; exact List.mem_cons_self)
      · refine downward.unlost (unbroken.terminated main) fun run => ?_
        cases main.symm.trans run
  | @sent id signal target execution main addressed route stepped =>
      have whole := unbroken.sent route
      obtain ⟨host, found, _, rfl⟩ := Setup.sendToActivity_ok route
      have unlost : network.lost (setup.destination host) = [] := by
        refine downward.unlost whole fun _ last => ?_
        exact (Scheduler.step_last stepped last).2.1 _ _ _ rfl
      rw [down_sent main addressed found whole unlost, ← List.append_assoc]
      exact congrArg (· ++ _) before
  | @failed id signal agent _ part _ main addressed route =>
      obtain ⟨host, found, _, reaches⟩ := Setup.sendToActivity_ok route
      rw [down_failed main addressed found reaches, ← List.append_assoc]
      exact congrArg (· ++ _) before
  | @refused id signal _ _ main addressed route =>
      have unconcerned : ¬ setup.concerns worker signal = true := by
        intro concerned
        have found := (setup.concerns_of_target worker addressed).mp concerned
        rw [Setup.sendToActivity_error route found] at hosted
        cases hosted
      refine (call_called _ _ _).trans ?_
      rw [if_neg unconcerned, List.append_nil]
      exact before
  | broadcast main =>
      rw [down_broadcast main hosted, ← List.append_assoc]
      exact congrArg (· ++ _) before
  | @secondarySent here other core rest known thread =>
      have held := downward.held here known _ thread (other, core) List.mem_cons_self
      exact kept (down_forwarded thread held)
  | workerConnected _ _ head =>
      refine kept (Eq.symm ((down_head head worker).trans ?_))
      split <;> rfl
  | @workerDropped here _ _ unhosted thread head =>
      have connecting := downward.connecting here unhosted (by rw [thread]; exact fun _ => nofun)
      rcases connecting with ⟨_, _, first⟩ | ⟨empty, _⟩
      · rw [head] at first
        cases first
      · rw [head] at empty
        cases empty
  | @workerReceived here signal rest _ _ _ head =>
      rw [down_head head worker, ← List.append_assoc] at before
      refine before.trans (congrArg (· ++ _) ?_)
      change _ = Function.update network.received here _ worker
      by_cases same : worker = here
      · subst same
        rw [if_pos rfl, Function.update_self]
        rfl
      · rw [if_neg same, Function.update_of_ne same, List.append_nil]
  | _ => exact before

/-- Each step of the run meets the condition. -/
def Throughout (setup : Setup) (condition : Network setup → Event → Prop) (history : List Event) :
    Prop :=
  AtEach (fun before event => ∀ middle ∈ (machine setup).run (initial setup) before,
    condition middle event) history

theorem throughout_concat {condition : Network setup → Event → Prop} {history : List Event}
    {event : Event} : Throughout setup condition (history ++ [event]) ↔
      Throughout setup condition history ∧
        ∀ middle ∈ (machine setup).run (initial setup) history, condition middle event :=
  atEach_concat _ _ _

/-- An unbroken run synchronizes each agent first and leaves out no call of a worker. -/
theorem run_complete {history : List Event} {network : Network setup}
    (reached : (machine setup).run (initial setup) history = some network)
    (unbroken : Throughout setup Unbroken history) : Synced network ∧ Complete network := by
  refine (machine setup).run_induction
    (fun history network => Throughout setup Unbroken history → Synced network ∧ Complete network)
    (fun _ => ⟨synced_initial, complete_initial⟩) ?_ reached unbroken
  intro history network event next earlier before stepped all
  obtain ⟨front, last⟩ := throughout_concat.mp all
  obtain ⟨synced, complete⟩ := before front
  have downward := run_downward earlier
  have whole := last network earlier
  have move := step_move stepped
  exact ⟨synced.move downward whole move, complete.move downward synced whole move⟩

end Network

end Feo.Relayed
