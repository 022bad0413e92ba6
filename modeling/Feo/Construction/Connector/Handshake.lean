import Feo.Construction.Connector.MwCom
import Feo.Foundation.Machine

namespace Feo.MwCom

open Foundation

/-- The communication library offers a topic, subscribes to it, sends a sample and receives the
next one, and each of its calls may fail. -/
structure ComApi (Topic : Type) where
  offered : Topic
  subscribe : Topic → Nat → Option Topic
  send : Topic → MwComSignal → Option Topic
  next : Topic → Option (MwComSignal × Topic)

/-- The connector of a worker subscribes to its input. Then it sends the hello of one activity and
waits before it goes on. -/
inductive ConnectRemote where
  | creating (activityIds : List ActivityId)
  | hello (activityIds : List ActivityId)
  | waiting (activityId : ActivityId) (activityIds : List ActivityId)
  | panicked (message : String)
  | unexpected (signal : MwComSignal)
deriving DecidableEq

/-- The connector of the scheduler subscribes to the agents and misses activities. Then the
startup time is sent. -/
inductive ConnectRemotes where
  | creating (agents : List AgentId)
  | connecting (missingActivities : List ActivityId)
  | syncing (info : SyncInfo) (remaining : List WorkerId)
  | panicked (message : String)
deriving DecidableEq

/-- The producers of the workers exist as soon as all agents are subscribed. -/
def ConnectRemotes.offers : ConnectRemotes → Bool
  | connecting _ => true
  | syncing _ _ => true
  | _ => false

/-- The workers of an agent share its output, and each worker has an input of its own. -/
structure Handshake (Topic : Type) where
  scheduler : ConnectRemotes
  agentsInput : AgentId → Topic
  schedulerInput : WorkerId → Topic
  workers : WorkerId → ConnectRemote

variable (agentAssignments : List (AgentId × List WorkerWithActivities))

/-- A worker creates a consumer for the activities that its agent configures. -/
def starting (worker : WorkerId) : ConnectRemote :=
  match (agentAssignments.flatMap Prod.snd).find? fun entry => entry.1 = worker with
  | some entry => .creating entry.2
  | none => .hello []

/-- A worker runs in the agent that configures it. -/
def agentOf (worker : WorkerId) : Option AgentId :=
  (agentAssignments.find? fun agent => worker ∈ agent.2.map Prod.fst).map Prod.fst

def agentToScheduler (agent : AgentId) : String :=
  s!"/feo/com/AgentAgt{agent.id}ToScheduler"

def schedulerToWorker (worker : WorkerId) : String :=
  s!"/feo/com/SchedulerToWorkerW{worker.id}"

variable {Topic : Type} (api : ComApi Topic)

/-- A consumer searches for its topic for a limited time and then subscribes. -/
def createConsumer (name : String) (topic : Topic) (found : Bool) : Panicking Topic :=
  if found then
    match api.subscribe topic 10 with
    | some subscribed => .ok subscribed
    | none => .error "Failed to subscribe"
  else .error s!"Can't create consumer for {name} (timed out)"

namespace Handshake

/-- A search finds its topic or times out, and signals of different agents come in any order. -/
inductive Event where
  | subscribe (found : Bool)
  | offer
  | discover (worker : WorkerId) (found : Bool)
  | hello (worker : WorkerId)
  | next (agent : AgentId)
  | confirmation (worker : WorkerId)
  | syncTime (info : SyncInfo)
  | publish

/-- The connector of the scheduler subscribes to the next agent. -/
def subscribe (handshake : Handshake Topic) (agent : AgentId) (agents : List AgentId)
    (found : Bool) : Handshake Topic :=
  match createConsumer api (agentToScheduler agent) (handshake.agentsInput agent) found with
  | .ok topic =>
      { handshake with
        agentsInput := Function.update handshake.agentsInput agent topic
        scheduler := .creating agents }
  | .error message => { handshake with scheduler := .panicked message }

/-- The connector of a worker subscribes to its input. -/
def discover (handshake : Handshake Topic) (worker : WorkerId) (activityIds : List ActivityId)
    (found : Bool) : Handshake Topic :=
  match createConsumer api (schedulerToWorker worker) (handshake.schedulerInput worker) found with
  | .ok topic =>
      { handshake with
        schedulerInput := Function.update handshake.schedulerInput worker topic
        workers := Function.update handshake.workers worker (.hello activityIds) }
  | .error message =>
      { handshake with
        workers := Function.update handshake.workers worker (.panicked message) }

/-- A worker sends a hello to its agent's output and waits for the confirmation. -/
def sendHello (handshake : Handshake Topic) (agent : AgentId) (worker : WorkerId)
    (id : ActivityId) (activityIds : List ActivityId) : Handshake Topic :=
  match api.send (handshake.agentsInput agent) (.activityHello id) with
  | some topic =>
      { handshake with
        agentsInput := Function.update handshake.agentsInput agent topic
        workers := Function.update handshake.workers worker (.waiting id activityIds) }
  | none =>
      { handshake with
        workers := Function.update handshake.workers worker (.panicked "Failed sending event") }

/-- The scheduler sends a signal to a worker and goes on. -/
def push (handshake : Handshake Topic) (worker : WorkerId) (signal : MwComSignal)
    (scheduler : ConnectRemotes) : Handshake Topic :=
  match api.send (handshake.schedulerInput worker) signal with
  | some topic =>
      { handshake with
        schedulerInput := Function.update handshake.schedulerInput worker topic
        scheduler := scheduler }
  | none => { handshake with scheduler := .panicked "Failed sending event" }

/-- A hello is confirmed to its worker, and any other signal is ignored. -/
def connect (handshake : Handshake Topic) (missingActivities : List ActivityId) :
    MwComSignal → Handshake Topic
  | .activityHello id =>
      match (SchedulerConnector.new agentAssignments).acquire id with
      | .ok worker =>
          handshake.push api worker .activityHelloAcquired
            (.connecting (missingActivities.erase id))
      | .error message => { handshake with scheduler := .panicked message }
  | _ => handshake

/-- A worker panics on any signal but the confirmation. -/
def confirm (handshake : Handshake Topic) (worker : WorkerId) (activityIds : List ActivityId)
    (topic : Topic) (signal : MwComSignal) : Handshake Topic :=
  { handshake with
    schedulerInput := Function.update handshake.schedulerInput worker topic
    workers := Function.update handshake.workers worker
      (if signal = .activityHelloAcquired then .hello activityIds else .unexpected signal) }

def step (handshake : Handshake Topic) : Event → Option (Handshake Topic)
  | .subscribe found =>
      match handshake.scheduler with
      | .creating (agent :: agents) => some (handshake.subscribe api agent agents found)
      | _ => none
  | .offer =>
      match handshake.scheduler with
      | .creating [] =>
          some { handshake with
            scheduler := .connecting
              (agentAssignments.flatMap fun agent => agent.2.flatMap Prod.snd).dedup }
      | _ => none
  | .discover worker found =>
      match handshake.workers worker with
      | .creating activityIds =>
          if found && !handshake.scheduler.offers then none
          else some (handshake.discover api worker activityIds found)
      | _ => none
  | .hello worker =>
      match agentOf agentAssignments worker, handshake.workers worker with
      | some agent, .hello (id :: rest) => some (handshake.sendHello api agent worker id rest)
      | _, _ => none
  | .next agent =>
      match handshake.scheduler, api.next (handshake.agentsInput agent) with
      | .connecting (first :: missing), some (signal, topic) =>
          if agent ∈ agentAssignments.map Prod.fst then
            some (connect agentAssignments api
              { handshake with
                agentsInput := Function.update handshake.agentsInput agent topic }
              (first :: missing) signal)
          else none
      | _, _ => none
  | .confirmation worker =>
      match handshake.workers worker, api.next (handshake.schedulerInput worker) with
      | .waiting _ activityIds, some (signal, topic) =>
          some (handshake.confirm worker activityIds topic signal)
      | _, _ => none
  | .syncTime info =>
      match handshake.scheduler with
      | .connecting [] =>
          some { handshake with
            scheduler := .syncing info (SchedulerConnector.new agentAssignments).syncTime }
      | _ => none
  | .publish =>
      match handshake.scheduler with
      | .syncing info (worker :: remaining) =>
          some (handshake.push api worker (.core (.startupSync info)) (.syncing info remaining))
      | _ => none

def machine : Machine (Handshake Topic) Event where
  step := step agentAssignments api

/-- Each topic is offered, and no connector has a consumer. -/
def start : Handshake Topic where
  scheduler := .creating (agentAssignments.map Prod.fst)
  agentsInput _ := api.offered
  schedulerInput _ := api.offered
  workers := starting agentAssignments

end Handshake

end Feo.MwCom
