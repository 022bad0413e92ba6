import Feo.Construction.Mpsc.Endpoint
import Feo.Foundation.HashMap

namespace Feo.DirectMpsc

open Foundation

/-- All workers of this connector are threads of the one process. -/
structure SchedulerConnector where
  receiver : Mpsc.ProtocolMultiReceiver
  sender : Mpsc.ProtocolMultiSender
  activityWorkerMap : HashMap ActivityId WorkerId

namespace SchedulerConnector

/-- Both multi-channels have one channel for each worker of an activity. -/
def new (activityWorkerMap : HashMap ActivityId WorkerId)
    (channelIds : Collected (activityWorkerMap.values.map ChannelId.worker)) :
    SchedulerConnector where
  receiver := ⟨channelIds.toHashSet⟩
  sender := ⟨channelIds.toHashSet⟩
  activityWorkerMap := activityWorkerMap

/-- The map must contain the activity, and its worker must have a channel. -/
def sendToActivity (connector : SchedulerConnector) (id : ActivityId) :
    Panicking (Except Error WorkerId) :=
  match connector.activityWorkerMap.get? id with
  | none => .error "no entry found for key"
  | some worker =>
      if .worker worker ∈ connector.sender.senders.items then .ok (.ok worker)
      else .ok (.error (.channelNotFound (.worker worker)))

/-- In direct MPSC mode, there are no remote agents. -/
def getConnectedAgentIds (_ : SchedulerConnector) : List AgentId := []

/-- The connector replaces the signal by a new one with the current timestamp. -/
def broadcastTerminate (connector : SchedulerConnector)
    (links : Links ChannelId Mpsc.ProtocolSignal) (_ : Signal) (timestamp : Timestamp) :
    Except Error Unit × Links ChannelId Mpsc.ProtocolSignal :=
  connector.sender.broadcast links (.core (.terminate timestamp))

end SchedulerConnector

end Feo.DirectMpsc
