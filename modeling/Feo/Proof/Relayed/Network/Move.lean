import Feo.Construction.Relayed.Network
import Feo.Proof.System.Move

namespace Feo.Relayed.Network

open Foundation

variable {setup : Setup}

/-- Each event is one of these calls. -/
inductive Move (network : Network setup) : Event → Network setup → Prop where
  | acceptedReceiver {agent : AgentId} {missingPeers : List AgentId}
      (main : network.main = .connectSendRelay missingPeers) :
      Move network (.acceptReceiver agent)
        { network with
          main := .connectSendRelay (missingPeers.erase agent)
          greetings := network.greetings.erase agent }
  | acceptedSender {missing : List ChannelId} {entry : Origin × Mpsc.ProtocolSignal}
      {rest : List (Origin × Mpsc.ProtocolSignal)}
      (main : network.main = .connectSenders missing) (head : network.inbox = entry :: rest) :
      Move network .acceptSender
        { network with
          main := .connectSenders (setup.connector.intraReceiver.remaining missing entry.2)
          inbox := rest }
  | started {info : SyncInfo} (main : network.main = .connectReceivers []) :
      Move network (.start info)
        { network with
          main := .syncTime info setup.remoteAgents
          startupTime := Function.update network.startupTime setup.scheduler.agentId true }
  | connectedSendRelay (main : network.main = .connectSendRelay []) :
      Move network .next
        { network with main := .connectSenders setup.connector.intraReceiver.channelIds.items }
  | connectedSenders {missing : List ChannelId} (main : network.main = .connectSenders missing) :
      Move network .next { network with main := .connectReceivers setup.localWorkers }
  | connectedReceiver {worker : WorkerId} {rest : List WorkerId}
      (main : network.main = .connectReceivers (worker :: rest)) :
      Move network .next
        { network.pushWorker worker (.connect (.worker worker)) with
          main := .connectReceivers rest }
  | synchronized {info : SyncInfo} {agent : AgentId} {rest : List AgentId}
      (main : network.main = .syncTime info (agent :: rest)) :
      Move network .next
        { network.pushAgent agent (.core (.startupSync info)) with main := .syncTime info rest }
  | ran {info : SyncInfo} (main : network.main = .syncTime info []) :
      Move network .next { network with main := .run }
  | terminated {time : Timestamp} {destination : Destination} {rest : List Destination}
      (main : network.main = .broadcastTerminate time (destination :: rest)) :
      Move network .next
        { network.push (.terminate time) destination with main := .broadcastTerminate time rest }
  | broadcasted {time : Timestamp} {execution : Scheduler.Execution setup.scheduler}
      (main : network.main = .broadcastTerminate time []) :
      Move network .next { network with main := .run, execution := execution }
  | unsynchronized {info : SyncInfo} {agent : AgentId} {rest : List AgentId} {error : Error}
      {part : Bool} (main : network.main = .syncTime info (agent :: rest)) :
      Move network (.nextError error part)
        { network.failAgent agent part with main := .failed (agent :: rest) }
  | abandoned {time : Timestamp} {agent : AgentId} {rest : List Destination} {error : Error}
      {part : Bool} {execution : Scheduler.Execution setup.scheduler}
      (main : network.main = .broadcastTerminate time (.agent agent :: rest))
      (stepped : Scheduler.step network.execution
        (.broadcastTerminate (.terminate time) (.error error)) = some execution) :
      Move network (.nextError error part)
        { (network.lose (.terminate time) (.agent agent :: rest)).failAgent agent part with
          main := .run
          execution := execution }
  | scheduled {event : Scheduler.Event} {execution : Scheduler.Execution setup.scheduler}
      (main : network.main = .run)
      (stepped : Scheduler.step network.execution event = some execution) :
      Move network (.scheduler event) { network with execution := execution }
  | sent {id : ActivityId} {signal : Signal} {destination : Destination}
      {execution : Scheduler.Execution setup.scheduler} (main : network.main = .run)
      (target : signal.target? = some id)
      (route : setup.connector.sendToActivity id = .ok destination)
      (stepped : Scheduler.step network.execution (.sendToActivity id signal (.ok ())) =
        some execution) :
      Move network (.send id signal)
        { (network.call signal).push signal destination with execution := execution }
  | refused {id : ActivityId} {signal : Signal} {error : Error}
      {execution : Scheduler.Execution setup.scheduler} (main : network.main = .run)
      (target : signal.target? = some id)
      (route : setup.connector.sendToActivity id = .error error)
      (stepped : Scheduler.step network.execution (.sendToActivity id signal (.error error)) =
        some execution) :
      Move network (.send id signal) { network.call signal with execution := execution }
  | failed {id : ActivityId} {signal : Signal} {agent : AgentId} {error : Error} {part : Bool}
      {execution : Scheduler.Execution setup.scheduler} (main : network.main = .run)
      (target : signal.target? = some id)
      (route : setup.connector.sendToActivity id = .ok (.agent agent))
      (stepped : Scheduler.step network.execution (.sendToActivity id signal (.error error)) =
        some execution) :
      Move network (.sendError id signal error part)
        { ((network.call signal).lose signal [.agent agent]).failAgent agent part with
          execution := execution }
  | received {entry : Origin × Mpsc.ProtocolSignal} {rest : List (Origin × Mpsc.ProtocolSignal)}
      {execution : Scheduler.Execution setup.scheduler} (main : network.main = .run)
      (head : network.inbox = entry :: rest)
      (stepped : Scheduler.step network.execution (.receive entry.2.received) =
        some execution) :
      Move network .receive { network.deliver entry with execution := execution, inbox := rest }
  | broadcast {time : Timestamp} {unconfirmed : List ActivityId} (main : network.main = .run)
      (point : network.execution.point = .broadcastTerminate unconfirmed) :
      Move network (.broadcast time)
        { network.call (.terminate time) with
          main := .broadcastTerminate time setup.destinations }
  | primaryGreeted {agent : AgentId} {entry : Origin × ProtocolSignal}
      {missingPeers : List ChannelId} {rest : List (Origin × ProtocolSignal)}
      (remote : agent ∈ setup.remoteAgents)
      (thread : network.primaryReceive = .connect missingPeers)
      (head : network.fromAgent agent = entry :: rest) :
      Move network (.primaryTake agent)
        { network with
          fromAgent := Function.update network.fromAgent agent rest
          primaryReceive := .connect (greet missingPeers entry.2) }
  | primaryTook {agent : AgentId} {entry : Origin × ProtocolSignal}
      {rest : List (Origin × ProtocolSignal)} (remote : agent ∈ setup.remoteAgents)
      (thread : network.primaryReceive = .relay none)
      (head : network.fromAgent agent = entry :: rest) :
      Move network (.primaryTake agent)
        { network with
          fromAgent := Function.update network.fromAgent agent rest
          primaryReceive :=
            .relay ((Relayed.primaryReceive (.ok (some entry.2))).held entry.1) }
  | primaryAnnounced (thread : network.primaryReceive = .connect []) :
      Move network .primaryNext
        { network with
          primaryReceive := .relay none
          inbox := network.inbox ++ [(none, .connect relayChannel)] }
  | primaryForwarded {origin : Origin} {core : Signal}
      (thread : network.primaryReceive = .relay (some (origin, core))) :
      Move network .primaryNext
        { network with
          primaryReceive := .relay none
          inbox := network.inbox ++ [(origin, .core core)] }
  | primaryPanicked {first : ChannelId} {missingPeers : List ChannelId}
      (thread : network.primaryReceive = .connect (first :: missingPeers)) :
      Move network .primaryExpired { network with primaryReceive := .panicked }
  | misread {agent : AgentId} {signal : ProtocolSignal} (remote : agent ∈ setup.remoteAgents)
      (link : network.links agent = .garbled) :
      Move network (.misread agent signal)
        { network with
          toAgent := Function.update network.toAgent agent (network.toAgent agent ++ [signal]) }
  | secondaryConnected {agent : AgentId} {worker : WorkerId} {rest : List WorkerId}
      (remote : agent ∈ setup.remoteAgents)
      (thread : network.secondaryReceive agent = .connectReceivers (worker :: rest)) :
      Move network (.secondaryReceive agent)
        { network.pushWorker worker (.connect (.worker worker)) with
          secondaryReceive :=
            Function.update network.secondaryReceive agent (.connectReceivers rest) }
  | secondaryGreeted {agent : AgentId} (remote : agent ∈ setup.remoteAgents)
      (thread : network.secondaryReceive agent = .connectReceivers []) :
      Move network (.secondaryReceive agent)
        { network with
          greetings := network.greetings ++ [agent]
          secondaryReceive := Function.update network.secondaryReceive agent .sync }
  | secondarySynced {agent : AgentId} {info : SyncInfo} {rest : List ProtocolSignal}
      (remote : agent ∈ setup.remoteAgents) (thread : network.secondaryReceive agent = .sync)
      (head : network.toAgent agent = .core (.startupSync info) :: rest) :
      Move network (.secondaryReceive agent)
        { network with
          toAgent := Function.update network.toAgent agent rest
          startupTime := Function.update network.startupTime agent true
          secondaryReceive := Function.update network.secondaryReceive agent (.relay []) }
  | secondaryDropped {agent : AgentId} {signal : ProtocolSignal} {rest : List ProtocolSignal}
      (remote : agent ∈ setup.remoteAgents) (thread : network.secondaryReceive agent = .sync)
      (head : network.toAgent agent = signal :: rest)
      (other : ∀ info, signal ≠ .core (.startupSync info)) :
      Move network (.secondaryReceive agent)
        { network with toAgent := Function.update network.toAgent agent rest }
  | secondaryTook {agent : AgentId} {signal : ProtocolSignal} {rest : List ProtocolSignal}
      (remote : agent ∈ setup.remoteAgents) (thread : network.secondaryReceive agent = .relay [])
      (head : network.toAgent agent = signal :: rest) :
      Move network (.secondaryReceive agent)
        { network with
          toAgent := Function.update network.toAgent agent rest
          secondaryReceive := Function.update network.secondaryReceive agent
            (.relay (setup.held agent (Relayed.secondaryReceive (setup.secondaryMap agent)
              (.ok (some signal))))) }
  | secondarySent {agent : AgentId} {worker : WorkerId} {core : Signal}
      {rest : List (WorkerId × Signal)} (remote : agent ∈ setup.remoteAgents)
      (thread : network.secondaryReceive agent = .relay ((worker, core) :: rest)) :
      Move network (.secondaryReceive agent)
        { network.pushWorker worker (.core core) with
          secondaryReceive := Function.update network.secondaryReceive agent (.relay rest) }
  | secondaryCollected {agent : AgentId} {entry : Origin × Mpsc.ProtocolSignal}
      {missing left : List ChannelId} {rest : List (Origin × Mpsc.ProtocolSignal)}
      (remote : agent ∈ setup.remoteAgents)
      (thread : network.secondarySend agent = .connectSenders missing)
      (head : network.outbox agent = entry :: rest) :
      Move network (.secondaryTake agent)
        { network with
          outbox := Function.update network.outbox agent rest
          secondarySend := Function.update network.secondarySend agent (.connectSenders left) }
  | secondaryHeld {agent : AgentId} {entry : Origin × Mpsc.ProtocolSignal}
      {rest : List (Origin × Mpsc.ProtocolSignal)} (remote : agent ∈ setup.remoteAgents)
      (thread : network.secondarySend agent = .relay none)
      (head : network.outbox agent = entry :: rest) :
      Move network (.secondaryTake agent)
        { network with
          outbox := Function.update network.outbox agent rest
          secondarySend := Function.update network.secondarySend agent
            (.relay ((Relayed.secondarySend (.ok (some entry.2))).held entry.1)) }
  | secondaryHello {agent : AgentId} {missing : List ChannelId}
      (remote : agent ∈ setup.remoteAgents)
      (thread : network.secondarySend agent = .connectSenders missing) :
      Move network (.secondaryNext agent)
        { network with
          secondarySend := Function.update network.secondarySend agent (.relay none)
          fromAgent := Function.update network.fromAgent agent
            (network.fromAgent agent ++ [(none, .channelHello (.agent agent))]) }
  | secondaryForwarded {agent : AgentId} {origin : Origin} {core : Signal}
      (remote : agent ∈ setup.remoteAgents)
      (thread : network.secondarySend agent = .relay (some (origin, core))) :
      Move network (.secondaryNext agent)
        { network with
          secondarySend := Function.update network.secondarySend agent (.relay none)
          fromAgent := Function.update network.fromAgent agent
            (network.fromAgent agent ++ [(origin, .core core)]) }
  | secondaryEnded {agent : AgentId} {held : Origin × Signal}
      (remote : agent ∈ setup.remoteAgents)
      (thread : network.secondarySend agent = .relay (some held)) :
      Move network (.secondaryError agent)
        { network with
          secondarySend := Function.update network.secondarySend agent (.ended held) }
  | workerGreeted {worker : WorkerId} (hosted : setup.hosts worker = true)
      (thread : network.threads worker = .connectReceiver) :
      Move network (.connect worker)
        { network.emit worker (.connect (.worker worker)) with
          threads := Function.update network.threads worker .connectSender }
  | workerConnected {worker : WorkerId} {channel : ChannelId}
      {rest : List Mpsc.ProtocolSignal} (hosted : setup.hosts worker = true)
      (thread : network.threads worker = .connectSender)
      (head : network.toWorker worker = .connect channel :: rest) :
      Move network (.connect worker)
        { network with
          toWorker := Function.update network.toWorker worker rest
          threads := Function.update network.threads worker (.running .receive) }
  | workerDropped {worker : WorkerId} {core : Signal} {rest : List Mpsc.ProtocolSignal}
      (hosted : setup.hosts worker = true) (thread : network.threads worker = .connectSender)
      (head : network.toWorker worker = .core core :: rest) :
      Move network (.connect worker)
        { network with toWorker := Function.update network.toWorker worker rest }
  | workerReceived {worker : WorkerId} {signal : Signal} {rest : List Mpsc.ProtocolSignal}
      {startupTime : AgentId → Bool} (hosted : setup.hosts worker = true)
      (thread : network.threads worker = .running .receive)
      (head : network.toWorker worker = .core signal :: rest)
      (grows : ∀ agent, network.startupTime agent = true → startupTime agent = true) :
      Move network (.worker worker (.receive (.ok (some signal))))
        { network with
          toWorker := Function.update network.toWorker worker rest
          received := Function.update network.received worker
            (network.received worker ++ [signal])
          threads := Function.update network.threads worker
            (.running ((setup.workers worker).handleSignal signal))
          startupTime := startupTime }
  | workerSent {worker : WorkerId} {signal : Signal} {value : Unit}
      {point next : Worker.Point} (hosted : setup.hosts worker = true)
      (thread : network.threads worker = .running point) (busy : point.busy = true)
      (idle : next.busy = false) :
      Move network (.worker worker (.sendToScheduler signal (.ok value)))
        { network.emit worker (.core signal) with
          threads := Function.update network.threads worker (.running next)
          sent := Function.update network.sent worker (network.sent worker ++ [signal]) }
  | workerMoved {worker : WorkerId} {event : Worker.Event} {point next : Worker.Point}
      (hosted : setup.hosts worker = true) (thread : network.threads worker = .running point)
      (worked : (setup.workers worker).step point event = some next)
      (busier : next.busy = true → point.busy = true) :
      Move network (.worker worker event)
        { network with threads := Function.update network.threads worker (.running next) }

/-- The scheduler addresses the activity to which it sends. -/
theorem target?_of_send {scheduler : Scheduler}
    {execution next : Scheduler.Execution scheduler} {id : ActivityId} {signal : Signal}
    {result : Except Error Unit}
    (stepped : Scheduler.step execution (.sendToActivity id signal result) = some next) :
    signal.target? = some id := by
  cases Scheduler.step_transition stepped <;> rfl

theorem mainNext_move {network next : Network setup} (stepped : network.mainNext = some next) :
    Move network .next next := by
  unfold mainNext at stepped
  split at stepped
  · next main =>
      cases stepped
      exact .connectedSendRelay main
  · next missing main =>
      cases stepped
      exact .connectedSenders main
  · next worker rest main =>
      cases stepped
      exact .connectedReceiver main
  · next info agent rest main =>
      cases stepped
      exact .synchronized main
  · next info main =>
      cases stepped
      exact .ran main
  · next time destination rest main =>
      cases stepped
      exact .terminated main
  · next time main =>
      obtain ⟨execution, _, rfl⟩ := Option.map_eq_some_iff.mp stepped
      exact .broadcasted main
  · cases stepped

theorem mainError_move {network next : Network setup} {error : Error} {part : Bool}
    (stepped : network.mainError error part = some next) :
    Move network (.nextError error part) next := by
  unfold mainError at stepped
  split at stepped
  · next info agent rest main =>
      cases stepped
      exact .unsynchronized main
  · next time agent rest main =>
      obtain ⟨execution, moved, rfl⟩ := Option.map_eq_some_iff.mp stepped
      exact .abandoned main moved
  · cases stepped

theorem mainStep_move {network next : Network setup} {event : Event}
    (stepped : network.mainStep event = some next) : Move network event next := by
  cases event with
  | acceptReceiver agent =>
      simp only [mainStep] at stepped
      split at stepped
      · next missingPeers main =>
          split at stepped
          · cases stepped
            exact .acceptedReceiver main
          · cases stepped
      · cases stepped
  | acceptSender =>
      simp only [mainStep] at stepped
      split at stepped
      · next missing origin signal rest main head =>
          cases stepped
          exact .acceptedSender main head
      · cases stepped
  | start info =>
      simp only [mainStep] at stepped
      split at stepped
      · next main =>
          cases stepped
          exact .started main
      · cases stepped
  | next => exact mainNext_move stepped
  | nextError error part => exact mainError_move stepped
  | _ => cases stepped

theorem schedulerStep_move {network next : Network setup} {event : Event}
    (main : network.main = .run) (stepped : network.schedulerStep event = some next) :
    Move network event next := by
  cases event with
  | scheduler event =>
      simp only [schedulerStep] at stepped
      split at stepped
      · obtain ⟨execution, moved, rfl⟩ := Option.map_eq_some_iff.mp stepped
        exact .scheduled main moved
      · cases stepped
  | send id signal =>
      simp only [schedulerStep] at stepped
      split at stepped
      · next destination route =>
          obtain ⟨execution, sent, rfl⟩ := Option.map_eq_some_iff.mp stepped
          exact .sent main (target?_of_send sent) route sent
      · next error route =>
          obtain ⟨execution, sent, rfl⟩ := Option.map_eq_some_iff.mp stepped
          exact .refused main (target?_of_send sent) route sent
  | sendError id signal error part =>
      simp only [schedulerStep] at stepped
      split at stepped
      · next agent route =>
          obtain ⟨execution, sent, rfl⟩ := Option.map_eq_some_iff.mp stepped
          exact .failed main (target?_of_send sent) route sent
      · cases stepped
  | receive =>
      simp only [schedulerStep] at stepped
      split at stepped
      · cases stepped
      · next origin signal rest head =>
          obtain ⟨execution, moved, rfl⟩ := Option.map_eq_some_iff.mp stepped
          exact .received main head moved
  | broadcast time =>
      simp only [schedulerStep] at stepped
      split at stepped
      · next point =>
          cases stepped
          exact .broadcast main point
      · cases stepped
  | _ => cases stepped

theorem primaryTake_move {network next : Network setup} {agent : AgentId}
    (remote : agent ∈ setup.remoteAgents) (stepped : network.primaryTake agent = some next) :
    Move network (.primaryTake agent) next := by
  unfold primaryTake at stepped
  split at stepped
  · next missingPeers origin signal rest thread head =>
      cases stepped
      exact .primaryGreeted remote thread head
  · next origin signal rest thread head =>
      cases stepped
      exact .primaryTook remote thread head
  · cases stepped

theorem primaryNext_move {network next : Network setup}
    (stepped : network.primaryNext = some next) : Move network .primaryNext next := by
  unfold primaryNext at stepped
  split at stepped
  · next thread =>
      cases stepped
      exact .primaryAnnounced thread
  · next origin core thread =>
      cases stepped
      exact .primaryForwarded thread
  · cases stepped

theorem primaryExpired_move {network next : Network setup}
    (stepped : network.primaryExpired = some next) : Move network .primaryExpired next := by
  unfold primaryExpired at stepped
  split at stepped
  · next thread =>
      cases stepped
      exact .primaryPanicked thread
  · cases stepped

theorem misread_move {network next : Network setup} {agent : AgentId} {signal : ProtocolSignal}
    (remote : agent ∈ setup.remoteAgents) (stepped : network.misread agent signal = some next) :
    Move network (.misread agent signal) next := by
  unfold misread at stepped
  split at stepped
  · next link =>
      cases stepped
      exact .misread remote link
  · cases stepped

/-- The relay of a secondary synchronizes with the signal `StartupSync` only. -/
theorem secondarySync_initializeFrom_iff {signal : ProtocolSignal} {info : SyncInfo} :
    secondarySync (.ok (some signal)) = .initializeFrom info ↔
      signal = .core (.startupSync info) := by
  constructor
  · intro synced
    cases signal with
    | core core =>
        cases core <;> cases synced
        rfl
    | _ => cases synced
  · rintro rfl
    rfl

theorem secondaryReceiveNext_move {network next : Network setup} {agent : AgentId}
    (remote : agent ∈ setup.remoteAgents)
    (stepped : network.secondaryReceiveNext agent = some next) :
    Move network (.secondaryReceive agent) next := by
  unfold secondaryReceiveNext at stepped
  dsimp only at stepped
  split at stepped
  · next _ worker rest thread =>
      cases stepped
      exact .secondaryConnected remote thread
  · next _ thread =>
      cases stepped
      exact .secondaryGreeted remote thread
  · next signal rest thread head =>
      split at stepped
      · next info synced =>
          cases stepped
          rw [secondarySync_initializeFrom_iff.mp synced] at head
          exact .secondarySynced remote thread head
      · next other =>
          cases stepped
          refine .secondaryDropped remote thread head ?_
          intro info same
          exact other info (secondarySync_initializeFrom_iff.mpr same)
  · next _ worker signal rest thread =>
      cases stepped
      exact .secondarySent remote thread
  · next signal rest thread head =>
      cases stepped
      exact .secondaryTook remote thread head
  · cases stepped

theorem secondaryTake_move {network next : Network setup} {agent : AgentId}
    (remote : agent ∈ setup.remoteAgents) (stepped : network.secondaryTake agent = some next) :
    Move network (.secondaryTake agent) next := by
  unfold secondaryTake at stepped
  dsimp only at stepped
  split at stepped
  · next missing origin signal rest thread head =>
      cases stepped
      exact .secondaryCollected remote thread head
  · next origin signal rest thread head =>
      cases stepped
      exact .secondaryHeld remote thread head
  · cases stepped

theorem secondaryNext_move {network next : Network setup} {agent : AgentId}
    (remote : agent ∈ setup.remoteAgents) (stepped : network.secondaryNext agent = some next) :
    Move network (.secondaryNext agent) next := by
  unfold secondaryNext at stepped
  dsimp only at stepped
  split at stepped
  · next missing thread =>
      cases stepped
      exact .secondaryHello remote thread
  · next origin core thread =>
      cases stepped
      exact .secondaryForwarded remote thread
  · cases stepped

theorem secondaryError_move {network next : Network setup} {agent : AgentId}
    (remote : agent ∈ setup.remoteAgents) (stepped : network.secondaryError agent = some next) :
    Move network (.secondaryError agent) next := by
  unfold secondaryError at stepped
  split at stepped
  · next held thread =>
      cases stepped
      exact .secondaryEnded remote thread
  · cases stepped

theorem connectStep_move {network next : Network setup} {worker : WorkerId}
    (hosted : setup.hosts worker = true) (stepped : network.connectStep worker = some next) :
    Move network (.connect worker) next := by
  unfold connectStep at stepped
  dsimp only at stepped
  split at stepped
  · next thread =>
      cases stepped
      exact .workerGreeted hosted thread
  · next signal rest thread head =>
      split at stepped
      · cases stepped
        exact .workerConnected hosted thread head
      · cases stepped
        exact .workerDropped hosted thread head
  · cases stepped

theorem workerStep_move {network next : Network setup} {worker : WorkerId}
    {event : Worker.Event} {point moved : Worker.Point} (hosted : setup.hosts worker = true)
    (thread : network.threads worker = .running point)
    (worked : (setup.workers worker).step point event = some moved)
    (stepped : network.workerStep worker event moved = some next) :
    Move network (.worker worker event) next := by
  unfold workerStep at stepped
  dsimp only at stepped
  split at stepped
  · next signal sent rest head =>
      split at stepped
      · next same =>
          subst same
          cases stepped
          obtain ⟨rfl, rfl⟩ := Worker.step_receive_some worked
          refine .workerReceived hosted thread head ?_
          intro agent set
          split
          · by_cases same : agent = setup.home worker
            · rw [same, Function.update_self]
            · rwa [Function.update_of_ne same]
          · exact set
      · cases stepped
  · cases stepped
  · next signal value _ =>
      cases stepped
      obtain ⟨responds, idle⟩ := Worker.step_sendToScheduler worked
      have busy : point.busy = true := by
        rcases responds with rfl | ⟨rfl, _⟩ <;> rfl
      exact .workerSent hosted thread busy idle
  · next unreceived _ _ =>
      cases stepped
      exact .workerMoved hosted thread worked (Worker.step_busy unreceived worked)

/-- Each step is one of the moves. -/
theorem step_move {network next : Network setup} {event : Event}
    (stepped : network.step event = some next) : Move network event next := by
  cases event with
  | primaryTake agent =>
      simp only [step] at stepped
      split at stepped
      · next remote => exact primaryTake_move remote stepped
      · cases stepped
  | primaryNext => exact primaryNext_move stepped
  | primaryExpired => exact primaryExpired_move stepped
  | misread agent signal =>
      simp only [step] at stepped
      split at stepped
      · next remote => exact misread_move remote stepped
      · cases stepped
  | secondaryReceive agent =>
      simp only [step] at stepped
      split at stepped
      · next remote => exact secondaryReceiveNext_move remote stepped
      · cases stepped
  | secondaryTake agent =>
      simp only [step] at stepped
      split at stepped
      · next remote => exact secondaryTake_move remote stepped
      · cases stepped
  | secondaryNext agent =>
      simp only [step] at stepped
      split at stepped
      · next remote => exact secondaryNext_move remote stepped
      · cases stepped
  | secondaryError agent =>
      simp only [step] at stepped
      split at stepped
      · next remote => exact secondaryError_move remote stepped
      · cases stepped
  | connect worker =>
      simp only [step] at stepped
      split at stepped
      · next hosted => exact connectStep_move hosted stepped
      · cases stepped
  | worker id event =>
      simp only [step] at stepped
      split at stepped
      · next point hosted thread =>
          obtain ⟨moved, worked, rest⟩ := Option.bind_eq_some_iff.mp stepped
          exact workerStep_move hosted thread worked rest
      · cases stepped
  | _ =>
      simp only [step] at stepped
      split at stepped
      · next main => exact schedulerStep_move main stepped
      · exact mainStep_move stepped

end Feo.Relayed.Network
