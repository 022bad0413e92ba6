import Feo.Construction.Connector.Direct
import Feo.Construction.Connector.Mpsc
import Feo.Construction.Connector.MwCom
import Feo.Construction.Scheduler
import Feo.Construction.Timestamp
import Feo.Construction.Worker

namespace Feo

open Foundation

/-- The modes of direct signalling differ in the connector of the scheduler. -/
inductive DirectMode where
  | sockets (host : Token → WorkerId) (activityAgentMap : HashMap ActivityId AgentId)
      (connectionTimeout : Duration)
  | mpsc (activityWorkerMap : HashMap ActivityId WorkerId)
      (channelIds : Collected (activityWorkerMap.values.map ChannelId.worker))
  | mwCom (agentAssignments : List (AgentId × List MwCom.WorkerWithActivities))

/-- The primary agent and the secondary agents of one direct mode. -/
structure DirectSetup where
  scheduler : Scheduler
  workers : WorkerId → Worker
  mode : DirectMode

/-- All workers of the MPSC mode are threads of the primary. -/
def DirectSetup.process (setup : DirectSetup) (worker : WorkerId) : AgentId :=
  match setup.mode with
  | .mpsc _ _ => setup.scheduler.agentId
  | _ => (setup.workers worker).agentId

/-- These signals go to a worker. -/
inductive Downlink where
  | connect (channel : ChannelId)
  | activityHelloAcquired
  | core (signal : Signal)
deriving DecidableEq

/-- A thread connects, runs its worker, or has ended. -/
inductive WorkerThread where
  | connectSender
  | hello (activityIds : List ActivityId)
  | running (point : Worker.Point)
  | ended
deriving DecidableEq

/-- The main thread connects, initializes and synchronizes the time, and runs the scheduler. -/
inductive MainThread where
  | connectHellos (missingActivities : List ActivityId)
  | connectSenders (missing : List ChannelId)
  | connectReceivers (remaining : List ChannelId)
  | initializeTime
  | syncTime (info : SyncInfo) (remaining : List WorkerId)
  | run
  | failed

/-- The readings of the clocks during one call. -/
structure ClockReadings where
  earliest : Int
  tries : Nat → ClockTry
  now : Instant
  speed : Int32

/-- All processes of a direct mode, each with its own startup time. -/
structure Agents (setup : DirectSetup) where
  main : MainThread
  activityIdTokenMap : HashMap ActivityId Token
  execution : Scheduler.Execution setup.scheduler
  threads : WorkerId → WorkerThread
  toWorker : WorkerId → List Downlink
  startupTime : AgentId → StartupTime

/-- Each call of the scheduler to an activity carries a timestamp. -/
def Scheduler.Point.request? : Scheduler.Point → Option (ActivityId × (Timestamp → Signal))
  | .startup activity _ => some (activity, .startup activity)
  | .step activity _ => some (activity, .step activity)
  | .shutdown activity _ _ => some (activity, .shutdown activity)
  | _ => none

namespace Agents

variable {setup : DirectSetup}

/-- The answers of the connectors to the main thread and to the workers are arbitrary. -/
inductive Event where
  | hello (token : Token) (id : ActivityId)
  | connected (signal : Mpsc.ProtocolSignal)
  | next (clock : ClockReadings)
  | fail
  | scheduler (event : Scheduler.Event)
  | send (clock : ClockReadings) (result : Except Error Unit)
  | broadcast (clock again : ClockReadings) (result : Except Error Unit) (reached : List WorkerId)
  | connect (worker : WorkerId)
  | receive (worker : WorkerId) (clock : ClockReadings)
  | returned (worker : WorkerId) (clock : ClockReadings) (result : Except ActivityError Unit)
  | worker (id : WorkerId) (event : Worker.Event)

/-- The thread of a process reads its startup time. -/
def timestampOf (agents : Agents setup) (process : AgentId) (clock : ClockReadings) :
    Panicking Timestamp := timestamp (agents.startupTime process) clock.speed clock.now

def socketConnector (agents : Agents setup) (activityAgentMap : HashMap ActivityId AgentId)
    (connectionTimeout : Duration) : Direct.SchedulerConnector :=
  { Direct.SchedulerConnector.new setup.scheduler.activityDepends.keys activityAgentMap
      connectionTimeout with activityIdTokenMap := agents.activityIdTokenMap }

/-- The MPSC mode supports a single agent only, so its `sync_time` sends nothing. -/
def syncTargets (agents : Agents setup) : List WorkerId :=
  match setup.mode with
  | .sockets host activityAgentMap connectionTimeout =>
      (agents.socketConnector activityAgentMap connectionTimeout).syncTime.map host
  | .mpsc _ _ => []
  | .mwCom agentAssignments => (MwCom.SchedulerConnector.new agentAssignments).syncTime

/-- The connector finds the worker of the activity, and its channel accepts the signal or not. -/
def sendToActivity (agents : Agents setup) (id : ActivityId) (result : Except Error Unit) :
    Panicking (Except Error WorkerId) :=
  match setup.mode with
  | .sockets host activityAgentMap connectionTimeout =>
      ((agents.socketConnector activityAgentMap connectionTimeout).sendToActivity id).map
        fun token => result.map fun _ => host token
  | .mpsc activityWorkerMap channelIds =>
      ((DirectMpsc.SchedulerConnector.new activityWorkerMap channelIds).sendToActivity id).map
        fun answer => answer.bind fun worker => result.map fun _ => worker
  | .mwCom agentAssignments =>
      ((MwCom.SchedulerConnector.new agentAssignments).sendToActivity id).bind fun worker =>
        match result with
        | .ok _ => .ok (.ok worker)
        | .error _ => .error "Failed sending event"

def push (agents : Agents setup) (worker : WorkerId) (signal : Downlink) : Agents setup :=
  { agents with
    toWorker := Function.update agents.toWorker worker (agents.toWorker worker ++ [signal]) }

/-- The main thread takes a hello of an activity while some activity is missing. -/
def helloStep (agents : Agents setup) (token : Token) (id : ActivityId) : Option (Agents setup) :=
  match agents.main, setup.mode with
  | .connectHellos (first :: rest), .sockets _ _ _ =>
      some { agents with
        main := .connectHellos ((first :: rest).erase id)
        activityIdTokenMap := agents.activityIdTokenMap.insert id token }
  | .connectHellos (first :: rest), .mwCom agentAssignments =>
      match (MwCom.SchedulerConnector.new agentAssignments).acquire id with
      | .ok worker =>
          some { agents.push worker .activityHelloAcquired with
            main := .connectHellos ((first :: rest).erase id) }
      | .error _ => some { agents with main := .failed }
  | _, _ => none

/-- The time is initialized before `sync_remotes`. -/
def initializeStep (agents : Agents setup) (clock : ClockReadings) : Agents setup :=
  match initializeStartupTime (agents.startupTime setup.scheduler.agentId) clock.tries with
  | .error _ => { agents with main := .failed }
  | .ok startup =>
      { agents with
        startupTime := Function.update agents.startupTime setup.scheduler.agentId startup
        main := match setup.mode, syncInfo startup with
          | .mpsc _ _, _ => .run
          | _, .ok info => .syncTime info agents.syncTargets
          | _, .error _ => .failed }

/-- The main thread goes on with its only next call. -/
def mainNext (agents : Agents setup) (clock : ClockReadings) : Option (Agents setup) :=
  match agents.main, setup.mode with
  | .connectHellos [], _ => some { agents with main := .initializeTime }
  | .connectSenders _, .mpsc activityWorkerMap channelIds =>
      some { agents with
        main := .connectReceivers
          (DirectMpsc.SchedulerConnector.new activityWorkerMap channelIds).sender.senders.items }
  | .connectReceivers (.worker worker :: rest), _ =>
      some { agents.push worker (.connect (.worker worker)) with main := .connectReceivers rest }
  | .connectReceivers [], _ => some { agents with main := .initializeTime }
  | .initializeTime, _ => some (agents.initializeStep clock)
  | .syncTime info (worker :: rest), _ =>
      some { agents.push worker (.core (.startupSync info)) with main := .syncTime info rest }
  | .syncTime _ [], _ => some { agents with main := .run }
  | _, _ => none

/-- An error of a connector before the run ends the primary. -/
def failStep (agents : Agents setup) : Option (Agents setup) :=
  match agents.main with
  | .connectHellos (_ :: _) => some { agents with main := .failed }
  | .connectSenders _ => some { agents with main := .failed }
  | .connectReceivers (_ :: _) => some { agents with main := .failed }
  | .syncTime _ (_ :: _) => some { agents with main := .failed }
  | _ => none

/-- The timestamp of a call is evaluated before the connector is called. -/
def sendStep (agents : Agents setup) (clock : ClockReadings) (result : Except Error Unit) :
    Option (Agents setup) :=
  match agents.execution.point.request? with
  | none => none
  | some (id, signal) =>
      match agents.timestampOf setup.scheduler.agentId clock with
      | .error _ => some { agents with main := .failed }
      | .ok time =>
          match agents.sendToActivity id result with
          | .error _ => some { agents with main := .failed }
          | .ok (.error error) =>
              (Scheduler.step agents.execution
                (.sendToActivity id (signal time) (.error error))).map fun execution =>
                  { agents with execution := execution }
          | .ok (.ok worker) =>
              (Scheduler.step agents.execution
                (.sendToActivity id (signal time) (.ok ()))).map fun execution =>
                  { agents.push worker (.core (signal time)) with execution := execution }

/-- Two of the connectors replace the signal by a new one with a timestamp of their own. -/
def broadcastTime (agents : Agents setup) (time : Timestamp) (again : ClockReadings) :
    Panicking Timestamp :=
  match setup.mode with
  | .sockets _ _ _ => .ok time
  | _ => agents.timestampOf setup.scheduler.agentId again

def broadcastStep (agents : Agents setup) (clock again : ClockReadings)
    (result : Except Error Unit) (reached : List WorkerId) : Option (Agents setup) :=
  match agents.execution.point with
  | .broadcastTerminate _ =>
      match (agents.timestampOf setup.scheduler.agentId clock).bind fun time =>
          (agents.broadcastTime time again).map fun sent => (time, sent) with
      | .error _ => some { agents with main := .failed }
      | .ok (time, sent) =>
          (Scheduler.step agents.execution (.broadcastTerminate (.terminate time) result)).map
            fun execution =>
              { agents with
                execution := execution
                toWorker := fun worker =>
                  if worker ∈ reached then agents.toWorker worker ++ [.core (.terminate sent)]
                  else agents.toWorker worker }
  | _ => none

/-- The scheduler runs only after the synchronization. -/
def runStep (agents : Agents setup) : Event → Option (Agents setup)
  | .send clock result => agents.sendStep clock result
  | .broadcast clock again result reached => agents.broadcastStep clock again result reached
  | .scheduler (.sendToActivity _ _ _) => none
  | .scheduler (.broadcastTerminate _ _) => none
  | .scheduler event =>
      (Scheduler.step agents.execution event).map fun execution =>
        { agents with execution := execution }
  | _ => none

/-- The thread takes the next signal and goes on. -/
def proceed (agents : Agents setup) (worker : WorkerId) (thread : WorkerThread)
    (rest : List Downlink) : Agents setup :=
  { agents with
    threads := Function.update agents.threads worker thread
    toWorker := Function.update agents.toWorker worker rest }

/-- A worker connects before it runs, and an unexpected signal to an MPSC worker is dropped. -/
def connectStep (agents : Agents setup) (worker : WorkerId) : Option (Agents setup) :=
  match agents.threads worker, agents.toWorker worker with
  | .connectSender, .connect _ :: rest => some (agents.proceed worker (.running .receive) rest)
  | .connectSender, _ :: rest => some (agents.proceed worker .connectSender rest)
  | .hello (_ :: remaining), .activityHelloAcquired :: rest =>
      some (agents.proceed worker (.hello remaining) rest)
  | .hello (_ :: _), _ :: rest => some (agents.proceed worker .ended rest)
  | .hello [], queue => some (agents.proceed worker (.running .receive) queue)
  | _, _ => none

/-- The worker initializes the time of its process when it receives `StartupSync`. -/
def receiveStep (agents : Agents setup) (worker : WorkerId) (clock : ClockReadings) :
    Option (Agents setup) :=
  match agents.threads worker, agents.toWorker worker with
  | .running .receive, .core (.startupSync info) :: rest =>
      match initializeFrom clock.earliest (agents.startupTime (setup.process worker)) info
          clock.tries with
      | .error _ => some (agents.proceed worker .ended rest)
      | .ok startup =>
          some { agents.proceed worker
              (.running ((setup.workers worker).handleSignal (.startupSync info))) rest with
            startupTime := Function.update agents.startupTime (setup.process worker) startup }
  | .running .receive, .core signal :: rest =>
      some (agents.proceed worker (.running ((setup.workers worker).handleSignal signal)) rest)
  | .running .receive, _ :: rest =>
      some (agents.proceed worker (.running (.exited (.error .unexpectedProtocolSignal))) rest)
  | _, _ => none

/-- The method of an activity has returned, and only a success is stamped. -/
def returnStep (agents : Agents setup) (worker : WorkerId) (clock : ClockReadings)
    (result : Except ActivityError Unit) : Option (Agents setup) :=
  let resume (event : Worker.Event) (point : Worker.Point) : Option (Agents setup) :=
    ((setup.workers worker).step point event).map fun next =>
      agents.proceed worker (.running next) (agents.toWorker worker)
  match agents.threads worker, result with
  | .running (.call signal), .ok _ =>
      match agents.timestampOf (setup.process worker) clock with
      | .error _ => some (agents.proceed worker .ended (agents.toWorker worker))
      | .ok time => resume (.returned result time) (.call signal)
  | .running (.call signal), .error _ => resume (.returned result ⟨Duration.zero⟩) (.call signal)
  | _, _ => none

/-- The other calls of a worker take nothing from its queue. -/
def workerStep (agents : Agents setup) (worker : WorkerId) (event : Worker.Event) :
    Option (Agents setup) :=
  match agents.threads worker, event with
  | .running _, .receive (.ok (some _)) => none
  | .running _, .returned _ _ => none
  | .running point, event =>
      ((setup.workers worker).step point event).map fun next =>
        agents.proceed worker (.running next) (agents.toWorker worker)
  | _, _ => none

/-- Each event is the next call of one thread. -/
def step (agents : Agents setup) (event : Event) : Option (Agents setup) :=
  match event with
  | .hello token id => agents.helloStep token id
  | .connected signal =>
      match agents.main, setup.mode with
      | .connectSenders missing, .mpsc activityWorkerMap channelIds =>
          let connector := DirectMpsc.SchedulerConnector.new activityWorkerMap channelIds
          some { agents with
            main := .connectSenders (connector.receiver.remaining missing signal) }
      | _, _ => none
  | .next clock => agents.mainNext clock
  | .fail => agents.failStep
  | .connect worker => agents.connectStep worker
  | .receive worker clock => agents.receiveStep worker clock
  | .returned worker clock result => agents.returnStep worker clock result
  | .worker worker event => agents.workerStep worker event
  | other =>
      match agents.main with
      | .run => agents.runStep other
      | _ => none

/-- The connectors of the three modes await different signals before the primary runs. -/
def initial (setup : DirectSetup) : Agents setup where
  main := match setup.mode with
    | .sockets _ _ _ => .connectHellos setup.scheduler.activityDepends.keys
    | .mpsc activityWorkerMap channelIds =>
        let connector := DirectMpsc.SchedulerConnector.new activityWorkerMap channelIds
        .connectSenders connector.receiver.channelIds.items
    | .mwCom agentAssignments =>
        .connectHellos (agentAssignments.flatMap fun agent =>
          agent.2.flatMap Prod.snd).dedup
  activityIdTokenMap := HashMap.empty
  execution := setup.scheduler.run
  threads worker := match setup.mode with
    | .sockets _ _ _ => .running .receive
    | .mpsc _ _ => .connectSender
    | .mwCom _ => .hello (setup.workers worker).activities
  toWorker _ := []
  startupTime _ := none

def machine (setup : DirectSetup) : Machine (Agents setup) Event where
  step := step

end Agents

end Feo
