import Feo.Construction.Signals
import Feo.Foundation.HashMap
import Feo.Foundation.Links

namespace Feo.MwCom

open Foundation

/-- A worker comes with its activities. -/
abbrev WorkerWithActivities := WorkerId × List ActivityId

/-- The internal signals of this implementation. -/
inductive MwComSignal where
  | core (signal : Signal)
  | activityHello (id : ActivityId)
  | activityHelloAcquired
deriving DecidableEq

/-- The connector has one publisher for each worker of every agent. -/
structure SchedulerConnector where
  agentAssignments : List (AgentId × List WorkerWithActivities)
  activitiesWorkers : HashMap ActivityId WorkerId
  workerPublishers : HashMap WorkerId Unit

namespace SchedulerConnector

/-- Each worker of an assignment inserts its activities and its publisher. -/
def insertWorker (connector : SchedulerConnector) (worker : WorkerWithActivities) :
    SchedulerConnector :=
  { connector with
    activitiesWorkers := worker.2.foldl (fun map id => map.insert id worker.1)
      connector.activitiesWorkers
    workerPublishers := connector.workerPublishers.insert worker.1 () }

/-- Create a new instance. -/
def new (agentAssignments : List (AgentId × List WorkerWithActivities)) : SchedulerConnector :=
  (agentAssignments.flatMap Prod.snd).foldl insertWorker
    ⟨agentAssignments, HashMap.empty, HashMap.empty⟩

/-- The startup time goes to each publisher. -/
def syncTime (connector : SchedulerConnector) : List WorkerId := connector.workerPublishers.keys

/-- Both the connecting loop and each send look up the worker and then its publisher. -/
def publisher (connector : SchedulerConnector) (missing : String) (id : ActivityId) :
    Panicking WorkerId :=
  match connector.activitiesWorkers.get? id with
  | none => .error "No worker for activity"
  | some worker =>
      match connector.workerPublishers.get? worker with
      | none => .error missing
      | some _ => .ok worker

/-- The hello of an activity is confirmed to its worker. -/
def acquire (connector : SchedulerConnector) (id : ActivityId) : Panicking WorkerId :=
  connector.publisher "No skeleton for worker" id

def sendToActivity (connector : SchedulerConnector) (id : ActivityId) : Panicking WorkerId :=
  connector.publisher "No skeleton for activity" id

/-- In direct mode, there are no remote agents. -/
def getConnectedAgentIds (_ : SchedulerConnector) : List AgentId := []

/-- Each publisher must accept the signal. -/
def broadcastTerminate (connector : SchedulerConnector) (links : Links WorkerId MwComSignal)
    (_ : Signal) (timestamp : Timestamp) : Panicking (Links WorkerId MwComSignal) :=
  match links.trySendEach "Failed sending event" (fun _ => .core (.terminate timestamp))
    connector.workerPublishers.keys with
  | (.ok (), final) => .ok final
  | (.error message, _) => .error message

end SchedulerConnector

end Feo.MwCom
