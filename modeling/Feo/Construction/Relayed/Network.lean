import Feo.Construction.Connector.Relayed
import Feo.Construction.Mpsc.Bounded
import Feo.Construction.Relayed.Relays

namespace Feo.Relayed

open Foundation

/-- The primary sends to the queue of a local worker or to the connection of a remote agent. -/
inductive Destination where
  | worker (id : WorkerId)
  | agent (id : AgentId)
deriving DecidableEq

namespace SchedulerConnector

def sendToAgent (connector : SchedulerConnector) (agent : AgentId) : Except Error Destination :=
  match connector.ipcSendRelay with
  | some _ => .ok (.agent agent)
  | none => .error (.channelNotFound (.agent agent))

/-- Forward signal to local worker or to remote agent. -/
def sendToWorker (connector : SchedulerConnector) (worker : WorkerId) : Except Error Destination :=
  if worker ∈ connector.localWorkers.items then .ok (.worker worker)
  else
    match connector.workerAgentMap.get? worker with
    | some agent => connector.sendToAgent agent
    | none => .error (.workerNotFound worker)

def sendToActivity (connector : SchedulerConnector) (id : ActivityId) :
    Except Error Destination :=
  match connector.activityWorkerMap.get? id with
  | some worker => connector.sendToWorker worker
  | none => .error (.activityNotFound id)

end SchedulerConnector

/-- A setup has one primary, which knows the worker of each activity and its agent. -/
structure Setup where
  scheduler : Scheduler
  workers : WorkerId → Worker
  timeout : Duration
  workerAgentMap : HashMap WorkerId AgentId
  activityWorkerMap : HashMap ActivityId WorkerId

namespace Setup

variable (setup : Setup)

def connector : SchedulerConnector :=
  .new setup.scheduler.agentId setup.timeout setup.workerAgentMap setup.activityWorkerMap

def localWorkers : List WorkerId :=
  (localWorkersOf setup.scheduler.agentId setup.workerAgentMap).items

def remoteAgents : List AgentId :=
  (remoteAgentsOf setup.scheduler.agentId setup.workerAgentMap).items

/-- The map of a secondary is the part of the primary's map that concerns its own workers. -/
def secondaryMap (agent : AgentId) : HashMap ActivityId WorkerId where
  keys := setup.activityWorkerMap.keys.filter fun id =>
    setup.workerAgentMap.get? (setup.activityWorkerMap.value id) = some agent
  nodup := setup.activityWorkerMap.nodup.filter _
  value := setup.activityWorkerMap.value

/-- A secondary creates a worker for each value of its map. -/
def secondaryWorkers (agent : AgentId) : List WorkerId :=
  (collect (setup.secondaryMap agent).values).items

def home (worker : WorkerId) : AgentId := setup.workerAgentMap.value worker

def isLocal (worker : WorkerId) : Bool := decide (worker ∈ setup.localWorkers)

/-- The primary or a secondary runs a thread for the worker. -/
def hosts (worker : WorkerId) : Bool :=
  setup.isLocal worker ||
    decide (setup.home worker ∈ setup.remoteAgents ∧
      worker ∈ setup.secondaryWorkers (setup.home worker))

/-- A signal concerns the worker of its activity, and `Terminate` concerns all workers. -/
def concerns (worker : WorkerId) : Signal → Bool
  | .startup id _ => setup.activityWorkerMap.get? id = some worker
  | .step id _ => setup.activityWorkerMap.get? id = some worker
  | .shutdown id _ => setup.activityWorkerMap.get? id = some worker
  | .terminate _ => true
  | _ => false

/-- A secondary sends a signal to one of its workers, to all of them, or to none. -/
def held (agent : AgentId) : Delivery → List (WorkerId × Signal)
  | .send worker signal => [(worker, signal)]
  | .broadcast signal => (setup.secondaryWorkers agent).map fun worker => (worker, signal)
  | _ => []

/-- The broadcast reaches the remote agents before the local workers. -/
def destinations : List Destination :=
  setup.remoteAgents.map .agent ++ setup.localWorkers.map .worker

end Setup

/-- The main thread of the primary connects, synchronizes the time, and runs the scheduler, or it
fails during the synchronization. -/
inductive Main where
  | connectSendRelay (missingPeers : List AgentId)
  | connectSenders (missing : List ChannelId)
  | connectReceivers (remaining : List WorkerId)
  | syncTime (info : SyncInfo) (remaining : List AgentId)
  | failed (unsynced : List AgentId)
  | run
  | broadcastTerminate (time : Timestamp) (remaining : List Destination)

/-- A signal in flight from a worker keeps its origin. -/
abbrev Origin := Option WorkerId

/-- A relay holds a signal between its receiver and its sender. -/
def Reaction.held (origin : Origin) : Reaction → Option (Origin × Signal)
  | .forward signal => some (origin, signal)
  | _ => none

/-- The thread of the `PrimaryReceiveRelay` exists only if there are remote agents, and it panics if
it is not connected at its deadline. -/
inductive PrimaryReceiveThread where
  | absent
  | connect (missingPeers : List ChannelId)
  | panicked
  | relay (held : Option (Origin × Signal))

/-- The thread of a `SecondaryReceiveRelay` sends a received signal to one worker or to all. -/
inductive SecondaryReceiveThread where
  | connectReceivers (remaining : List WorkerId)
  | sync
  | relay (held : List (WorkerId × Signal))

/-- The main thread of a secondary runs the `SecondarySendRelay`, which ends at its first failed
send. -/
inductive SecondarySendThread where
  | connectSenders (missing : List ChannelId)
  | relay (held : Option (Origin × Signal))
  | ended (unsent : Origin × Signal)

/-- The stream of a connection carries whole frames until a send on it fails, which may leave the
first bytes of a frame there, and then the bytes of a further frame garble it. -/
inductive Link where
  | whole
  | skipped
  | torn
  | garbled
deriving DecidableEq

namespace Link

/-- The receiver of such a stream decodes each whole frame. -/
def intact : Link → Bool
  | .whole => true
  | .skipped => true
  | _ => false

/-- The bytes of a whole frame are written. -/
def write : Link → Link
  | .torn => .garbled
  | link => link

/-- A failed send writes a part of its frame or nothing of it. -/
def fail (link : Link) (part : Bool) : Link :=
  match part, link with
  | false, .whole => .skipped
  | false, _ => link
  | true, .whole => .torn
  | true, .skipped => .torn
  | true, _ => .garbled

end Link

/-- The history of each worker lists the calls that concern it and its signals, and the history of
each destination lists the calls that did not reach it. -/
structure History where
  called : WorkerId → List Signal
  received : WorkerId → List Signal
  sent : WorkerId → List Signal
  delivered : WorkerId → List Signal
  lost : Destination → List Signal

/-- All threads and queues of the primary and its secondaries. -/
structure Network (setup : Setup) extends History where
  main : Main
  execution : Scheduler.Execution setup.scheduler
  primaryReceive : PrimaryReceiveThread
  secondaryReceive : AgentId → SecondaryReceiveThread
  secondarySend : AgentId → SecondarySendThread
  threads : WorkerId → Mpsc.Thread
  greetings : List AgentId
  toWorker : WorkerId → List Mpsc.ProtocolSignal
  toAgent : AgentId → List ProtocolSignal
  links : AgentId → Link
  inbox : List (Origin × Mpsc.ProtocolSignal)
  fromAgent : AgentId → List (Origin × ProtocolSignal)
  outbox : AgentId → List (Origin × Mpsc.ProtocolSignal)
  startupTime : AgentId → Bool

namespace Network

variable {setup : Setup}

/-- The events interleave the calls of all threads. -/
inductive Event where
  | acceptReceiver (agent : AgentId)
  | acceptSender
  | start (info : SyncInfo)
  | next
  | scheduler (event : Scheduler.Event)
  | send (id : ActivityId) (signal : Signal)
  | sendError (id : ActivityId) (signal : Signal) (error : Error) (part : Bool)
  | nextError (error : Error) (part : Bool)
  | misread (agent : AgentId) (signal : ProtocolSignal)
  | receive
  | broadcast (time : Timestamp)
  | primaryTake (agent : AgentId)
  | primaryNext
  | primaryExpired
  | secondaryReceive (agent : AgentId)
  | secondaryTake (agent : AgentId)
  | secondaryNext (agent : AgentId)
  | secondaryError (agent : AgentId)
  | connect (worker : WorkerId)
  | worker (id : WorkerId) (event : Worker.Event)

def pushWorker (network : Network setup) (worker : WorkerId) (signal : Mpsc.ProtocolSignal) :
    Network setup :=
  { network with
    toWorker := Function.update network.toWorker worker (network.toWorker worker ++ [signal]) }

/-- The relay of the agent decodes the frame unless the bytes before it are torn. -/
def pushAgent (network : Network setup) (agent : AgentId) (signal : ProtocolSignal) :
    Network setup :=
  { network with
    toAgent :=
      if (network.links agent).intact then
        Function.update network.toAgent agent (network.toAgent agent ++ [signal])
      else network.toAgent
    links := Function.update network.links agent (network.links agent).write }

/-- The primary converts the signal to the protocol of the channel. -/
def push (network : Network setup) (signal : Signal) (destination : Destination) :
    Network setup :=
  { network with
    toWorker := match destination with
      | .worker id => (network.pushWorker id (.core signal)).toWorker
      | .agent _ => network.toWorker
    toAgent := match destination with
      | .worker _ => network.toAgent
      | .agent id => (network.pushAgent id (.core signal)).toAgent
    links := match destination with
      | .worker _ => network.links
      | .agent id => (network.pushAgent id (.core signal)).links }

/-- A send to the agent fails and leaves a part of its frame or nothing of it. -/
def failAgent (network : Network setup) (agent : AgentId) (part : Bool) : Network setup :=
  { network with
    links := Function.update network.links agent ((network.links agent).fail part) }

/-- The signals do not reach their destinations. -/
def lose (network : Network setup) (signal : Signal) (destinations : List Destination) :
    Network setup :=
  { network with
    lost := fun destination =>
      network.lost destination ++ List.replicate (destinations.count destination) signal }

/-- A local worker sends to the scheduler, and a remote one to the relay of its agent. -/
def emit (network : Network setup) (worker : WorkerId) (signal : Mpsc.ProtocolSignal) :
    Network setup :=
  { network with
    inbox :=
      if setup.isLocal worker then network.inbox ++ [(some worker, signal)] else network.inbox
    outbox :=
      if setup.isLocal worker then network.outbox
      else
        Function.update network.outbox (setup.home worker)
          (network.outbox (setup.home worker) ++ [(some worker, signal)]) }

/-- A call of the scheduler belongs to the history of each worker that it concerns. -/
def call (network : Network setup) (signal : Signal) : Network setup :=
  { network with
    called := fun worker =>
      network.called worker ++ if setup.concerns worker signal then [signal] else [] }

/-- The scheduler receives a core signal of a worker or an unexpected signal. -/
def deliver (network : Network setup) (entry : Origin × Mpsc.ProtocolSignal) : Network setup :=
  { network with
    delivered := match entry with
      | (some worker, .core signal) =>
          Function.update network.delivered worker (network.delivered worker ++ [signal])
      | _ => network.delivered }

/-- These calls of the scheduler move no signal. -/
def isInternal : Scheduler.Event → Bool
  | .sendToActivity _ _ _ => false
  | .receive (.ok (some _)) => false
  | .broadcastTerminate _ _ => false
  | _ => true

/-- The main thread goes on with its only next call. -/
def mainNext (network : Network setup) : Option (Network setup) :=
  match network.main with
  | .connectSendRelay [] =>
      some { network with
        main := .connectSenders setup.connector.intraReceiver.channelIds.items }
  | .connectSenders _ => some { network with main := .connectReceivers setup.localWorkers }
  | .connectReceivers (worker :: rest) =>
      some { network.pushWorker worker (.connect (.worker worker)) with
        main := .connectReceivers rest }
  | .syncTime info (agent :: rest) =>
      some { network.pushAgent agent (.core (.startupSync info)) with main := .syncTime info rest }
  | .syncTime _ [] => some { network with main := .run }
  | .broadcastTerminate time (destination :: rest) =>
      some { network.push (.terminate time) destination with main := .broadcastTerminate time rest }
  | .broadcastTerminate time [] =>
      (Scheduler.step network.execution (.broadcastTerminate (.terminate time) (.ok ()))).map
        fun execution => { network with main := .run, execution := execution }
  | _ => none

/-- The first send that fails ends the synchronization with its error, and it ends the broadcast,
whose error the scheduler logs. -/
def mainError (network : Network setup) (error : Error) (part : Bool) : Option (Network setup) :=
  match network.main with
  | .syncTime _ (agent :: rest) =>
      some { network.failAgent agent part with main := .failed (agent :: rest) }
  | .broadcastTerminate time (.agent agent :: rest) =>
      (Scheduler.step network.execution (.broadcastTerminate (.terminate time) (.error error))).map
        fun execution =>
          { (network.lose (.terminate time) (.agent agent :: rest)).failAgent agent part with
            main := .run
            execution := execution }
  | _ => none

/-- Both connecting loops of the main thread end before the scheduler is created. -/
def mainStep (network : Network setup) : Event → Option (Network setup)
  | .acceptReceiver agent =>
      match network.main with
      | .connectSendRelay missingPeers =>
          if agent ∈ network.greetings then
            some { network with
              main := .connectSendRelay (missingPeers.erase agent)
              greetings := network.greetings.erase agent }
          else none
      | _ => none
  | .acceptSender =>
      match network.main, network.inbox with
      | .connectSenders missing, (_, signal) :: rest =>
          some { network with
            main := .connectSenders (setup.connector.intraReceiver.remaining missing signal)
            inbox := rest }
      | _, _ => none
  | .start info =>
      match network.main with
      | .connectReceivers [] =>
          some { network with
            main := .syncTime info setup.remoteAgents
            startupTime := Function.update network.startupTime setup.scheduler.agentId true }
      | _ => none
  | .next => network.mainNext
  | .nextError error part => network.mainError error part
  | _ => none

/-- The scheduler calls its connector only in `Scheduler::run`. -/
def schedulerStep (network : Network setup) : Event → Option (Network setup)
  | .scheduler event =>
      if isInternal event then
        (Scheduler.step network.execution event).map fun execution =>
          { network with execution := execution }
      else none
  | .send id signal =>
      match setup.connector.sendToActivity id with
      | .ok destination =>
          (Scheduler.step network.execution (.sendToActivity id signal (.ok ()))).map
            fun execution => { (network.call signal).push signal destination with
              execution := execution }
      | .error error =>
          (Scheduler.step network.execution (.sendToActivity id signal (.error error))).map
            fun execution => { network.call signal with execution := execution }
  | .sendError id signal error part =>
      match setup.connector.sendToActivity id with
      | .ok (.agent agent) =>
          (Scheduler.step network.execution (.sendToActivity id signal (.error error))).map
            fun execution =>
              { ((network.call signal).lose signal [.agent agent]).failAgent agent part with
                execution := execution }
      | _ => none
  | .receive =>
      match network.inbox with
      | [] => none
      | (origin, signal) :: rest =>
          (Scheduler.step network.execution (.receive signal.received)).map fun execution =>
            { network.deliver (origin, signal) with execution := execution, inbox := rest }
  | .broadcast time =>
      match network.execution.point with
      | .broadcastTerminate _ =>
          some { network.call (.terminate time) with
            main := .broadcastTerminate time setup.destinations }
      | _ => none
  | _ => none

/-- A hello connects its channel, and any other signal is dropped before that. -/
def greet (missingPeers : List ChannelId) : ProtocolSignal → List ChannelId
  | .channelHello channel => missingPeers.erase channel
  | _ => missingPeers

/-- The relay of the primary takes the next signal of one of its connections. -/
def primaryTake (network : Network setup) (agent : AgentId) : Option (Network setup) :=
  match network.primaryReceive, network.fromAgent agent with
  | .connect missingPeers, (_, signal) :: rest =>
      some { network with
        fromAgent := Function.update network.fromAgent agent rest
        primaryReceive := .connect (greet missingPeers signal) }
  | .relay none, (origin, signal) :: rest =>
      some { network with
        fromAgent := Function.update network.fromAgent agent rest
        primaryReceive := .relay ((Relayed.primaryReceive (.ok (some signal))).held origin) }
  | _, _ => none

/-- The relay announces itself once and then forwards the signals that it received. -/
def primaryNext (network : Network setup) : Option (Network setup) :=
  match network.primaryReceive with
  | .connect [] =>
      some { network with
        primaryReceive := .relay none
        inbox := network.inbox ++ [(none, .connect relayChannel)] }
  | .relay (some (origin, core)) =>
      some { network with
        primaryReceive := .relay none
        inbox := network.inbox ++ [(origin, .core core)] }
  | _ => none

/-- The connecting relay panics at its deadline while a peer is missing. -/
def primaryExpired (network : Network setup) : Option (Network setup) :=
  match network.primaryReceive with
  | .connect (_ :: _) => some { network with primaryReceive := .panicked }
  | _ => none

/-- The bytes of a garbled stream may decode to any signal. -/
def misread (network : Network setup) (agent : AgentId) (signal : ProtocolSignal) :
    Option (Network setup) :=
  if network.links agent = .garbled then
    some { network with
      toAgent := Function.update network.toAgent agent (network.toAgent agent ++ [signal]) }
  else none

/-- The receiving relay of a secondary goes on with its only next call. -/
def secondaryReceiveNext (network : Network setup) (agent : AgentId) : Option (Network setup) :=
  let proceed (network : Network setup) (thread : SecondaryReceiveThread) : Network setup :=
    { network with secondaryReceive := Function.update network.secondaryReceive agent thread }
  match network.secondaryReceive agent, network.toAgent agent with
  | .connectReceivers (worker :: rest), _ =>
      some (proceed (network.pushWorker worker (.connect (.worker worker)))
        (.connectReceivers rest))
  | .connectReceivers [], _ =>
      some (proceed { network with greetings := network.greetings ++ [agent] } .sync)
  | .sync, signal :: rest =>
      let taken := { network with toAgent := Function.update network.toAgent agent rest }
      match Relayed.secondarySync (.ok (some signal)) with
      | .initializeFrom _ =>
          some (proceed
            { taken with startupTime := Function.update network.startupTime agent true }
            (.relay []))
      | _ => some taken
  | .relay ((worker, signal) :: rest), _ =>
      some (proceed (network.pushWorker worker (.core signal)) (.relay rest))
  | .relay [], signal :: rest =>
      let delivery := Relayed.secondaryReceive (setup.secondaryMap agent) (.ok (some signal))
      some (proceed
        { network with toAgent := Function.update network.toAgent agent rest }
        (.relay (setup.held agent delivery)))
  | _, _ => none

/-- The sending relay of a secondary takes the next signal of its workers. -/
def secondaryTake (network : Network setup) (agent : AgentId) : Option (Network setup) :=
  let proceed (network : Network setup) (thread : SecondarySendThread) : Network setup :=
    { network with secondarySend := Function.update network.secondarySend agent thread }
  match network.secondarySend agent, network.outbox agent with
  | .connectSenders missing, (_, signal) :: rest =>
      let receiver : Mpsc.ProtocolMultiReceiver :=
        ⟨channels (collect (setup.secondaryMap agent).values).toHashSet .worker
          worker_injective⟩
      some (proceed { network with outbox := Function.update network.outbox agent rest }
        (.connectSenders (receiver.remaining missing signal)))
  | .relay none, (origin, signal) :: rest =>
      some (proceed { network with outbox := Function.update network.outbox agent rest }
        (.relay ((Relayed.secondarySend (.ok (some signal))).held origin)))
  | _, _ => none

/-- Its connecting loop may end at the timeout, and then it says hello to the primary. -/
def secondaryNext (network : Network setup) (agent : AgentId) : Option (Network setup) :=
  let proceed (signal : Origin × ProtocolSignal) : Network setup :=
    { network with
      secondarySend := Function.update network.secondarySend agent (.relay none)
      fromAgent := Function.update network.fromAgent agent (network.fromAgent agent ++ [signal]) }
  match network.secondarySend agent with
  | .connectSenders _ => some (proceed (none, .channelHello (.agent agent)))
  | .relay (some (origin, core)) => some (proceed (origin, .core core))
  | _ => none

/-- The sending relay ends when it fails to send the signal that it holds. -/
def secondaryError (network : Network setup) (agent : AgentId) : Option (Network setup) :=
  match network.secondarySend agent with
  | .relay (some held) =>
      some { network with
        secondarySend := Function.update network.secondarySend agent (.ended held) }
  | _ => none

/-- A worker sends its connect signal and awaits one before it runs. -/
def connectStep (network : Network setup) (worker : WorkerId) : Option (Network setup) :=
  let proceed (network : Network setup) (thread : Mpsc.Thread) : Network setup :=
    { network with threads := Function.update network.threads worker thread }
  match network.threads worker, network.toWorker worker with
  | .connectReceiver, _ =>
      some (proceed (network.emit worker (.connect (.worker worker))) .connectSender)
  | .connectSender, signal :: rest =>
      let taken := { network with toWorker := Function.update network.toWorker worker rest }
      match signal with
      | .connect _ => some (proceed taken (.running .receive))
      | .core _ => some taken
  | _, _ => none

/-- A worker takes from its own queue and sends to the scheduler. -/
def workerStep (network : Network setup) (id : WorkerId) (event : Worker.Event)
    (point : Worker.Point) : Option (Network setup) :=
  let moved : Network setup :=
    { network with threads := Function.update network.threads id (.running point) }
  match event, network.toWorker id with
  | .receive (.ok (some signal)), .core sent :: rest =>
      if sent = signal then
        some { moved with
          toWorker := Function.update network.toWorker id rest
          received := Function.update network.received id (network.received id ++ [signal])
          startupTime := match signal with
            | .startupSync _ => Function.update network.startupTime (setup.home id) true
            | _ => network.startupTime }
      else none
  | .receive (.ok (some _)), _ => none
  | .sendToScheduler signal (.ok _), _ =>
      some { moved.emit id (.core signal) with
        sent := Function.update network.sent id (network.sent id ++ [signal]) }
  | _, _ => some moved

/-- Each event is the next call of one thread. -/
def step (network : Network setup) (event : Event) : Option (Network setup) :=
  match event with
  | .primaryTake agent =>
      if agent ∈ setup.remoteAgents then network.primaryTake agent else none
  | .primaryNext => network.primaryNext
  | .primaryExpired => network.primaryExpired
  | .misread agent signal =>
      if agent ∈ setup.remoteAgents then network.misread agent signal else none
  | .secondaryReceive agent =>
      if agent ∈ setup.remoteAgents then network.secondaryReceiveNext agent else none
  | .secondaryTake agent =>
      if agent ∈ setup.remoteAgents then network.secondaryTake agent else none
  | .secondaryNext agent =>
      if agent ∈ setup.remoteAgents then network.secondaryNext agent else none
  | .secondaryError agent =>
      if agent ∈ setup.remoteAgents then network.secondaryError agent else none
  | .connect worker => if setup.hosts worker then network.connectStep worker else none
  | .worker id event =>
      match setup.hosts id, network.threads id with
      | true, .running point =>
          ((setup.workers id).step point event).bind fun next => network.workerStep id event next
      | _, _ => none
  | other =>
      match network.main with
      | .run => network.schedulerStep other
      | _ => network.mainStep other

/-- All processes have started, and no thread has made a call. -/
def initial (setup : Setup) : Network setup where
  called _ := []
  received _ := []
  sent _ := []
  delivered _ := []
  lost _ := []
  main := .connectSendRelay setup.remoteAgents
  execution := setup.scheduler.run
  primaryReceive :=
    if setup.remoteAgents = [] then .absent
    else .connect (setup.remoteAgents.map ChannelId.agent)
  secondaryReceive agent := .connectReceivers (setup.secondaryWorkers agent)
  secondarySend agent := .connectSenders ((setup.secondaryWorkers agent).map ChannelId.worker)
  threads _ := .connectReceiver
  greetings := []
  toWorker _ := []
  toAgent _ := []
  links _ := .whole
  inbox := []
  fromAgent _ := []
  outbox _ := []
  startupTime _ := false

def machine (setup : Setup) : Machine (Network setup) Event where
  step := step

end Network

end Feo.Relayed
