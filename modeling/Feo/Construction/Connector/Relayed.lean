import Feo.Construction.Mpsc.Endpoint
import Feo.Construction.Socket.Endpoint

namespace Feo.Relayed

open Foundation

/-- Relay for the primary agent to send signals to secondary agents. -/
structure PrimarySendRelay where
  remoteAgents : HashSet AgentId
  interSender : ProtocolMultiEndpoint

namespace PrimarySendRelay

/-- A connected relay has a connection of its own to each remote agent. -/
structure Connected (relay : PrimarySendRelay) : Prop where
  known : ∀ agent ∈ relay.remoteAgents.items,
    ChannelId.agent agent ∈ relay.interSender.channelTokenMap.keys
  separate : ∀ first ∈ relay.remoteAgents.items, ∀ second ∈ relay.remoteAgents.items,
    relay.interSender.channelTokenMap.value (.agent first) =
      relay.interSender.channelTokenMap.value (.agent second) → first = second

/-- The sender finds the connection of an agent in its token map. -/
def token (relay : PrimarySendRelay) (agent : AgentId) : Token :=
  relay.interSender.channelTokenMap.value (.agent agent)

/-- Send the signal to all remote agents. -/
def broadcast (relay : PrimarySendRelay) (kind : IoErrorKind)
    (links : Links Token ProtocolSignal) (signal : ProtocolSignal) :
    Except Error Unit × Links Token ProtocolSignal :=
  links.trySendEach (SocketServer.toError kind) (fun _ => signal)
    (relay.remoteAgents.items.map relay.token)

end PrimarySendRelay

/-- Relay for the primary agent to receive signals from secondary agents. -/
structure PrimaryReceiveRelay where
  intraSender : ChannelId
  interReceiver : ProtocolMultiEndpoint

/-- The relay announces itself to the scheduler once every remote agent is connected. -/
def PrimaryReceiveRelay.connect (relay : PrimaryReceiveRelay) (rounds : List HelloRound) :
    List Mpsc.ProtocolSignal :=
  match relay.interReceiver.connect rounds with
  | some (.ok (), _) => [.connect relay.intraSender]
  | _ => []

/-- Each local worker owns the sender and the receiver of one channel. -/
structure SchedulerConnector where
  localWorkers : HashSet WorkerId
  intraReceiver : Mpsc.ProtocolMultiReceiver
  ipcReceiveRelay : Option PrimaryReceiveRelay
  ipcSendRelay : Option PrimarySendRelay
  workerSender : Mpsc.ProtocolMultiSender
  timeout : Duration
  workerConnectors : List ChannelId
  activityWorkerMap : HashMap ActivityId WorkerId
  workerAgentMap : HashMap WorkerId AgentId

/-- The relay has the only relay channel. -/
def relayChannel : ChannelId := .relay ⟨0⟩

/-- Determine local worker IDs. -/
def localWorkersOf (agentId : AgentId) (workerAgentMap : HashMap WorkerId AgentId) :
    HashSet WorkerId where
  items := workerAgentMap.keys.filter fun worker => workerAgentMap.value worker = agentId
  nodup := workerAgentMap.nodup.filter _

/-- Determine remote agent IDs. -/
def remoteAgentsOf (agentId : AgentId) (workerAgentMap : HashMap WorkerId AgentId) :
    HashSet AgentId :=
  (collect (workerAgentMap.values.filter fun agent => agent ≠ agentId)).toHashSet

/-- The channels of distinct identifiers are distinct. -/
def channels {Item : Type} (set : HashSet Item) (channel : Item → ChannelId)
    (injective : Function.Injective channel) : HashSet ChannelId :=
  ⟨set.items.map channel, set.nodup.map injective⟩

theorem worker_injective : Function.Injective ChannelId.worker := fun _ _ same =>
  ChannelId.worker.inj same

theorem agent_injective : Function.Injective ChannelId.agent := fun _ _ same =>
  ChannelId.agent.inj same

namespace SchedulerConnector

/-- The receiver awaits the local workers and the relay, which exists only for remote agents. -/
def new (agentId : AgentId) (timeout : Duration) (workerAgentMap : HashMap WorkerId AgentId)
    (activityWorkerMap : HashMap ActivityId WorkerId) : SchedulerConnector :=
  let workers := localWorkersOf agentId workerAgentMap
  let agents := remoteAgentsOf agentId workerAgentMap
  let localWorkerChannels := channels workers .worker worker_injective
  let localChannels : HashSet ChannelId :=
    ⟨localWorkerChannels.items ++ [relayChannel], by
      refine localWorkerChannels.nodup.append (List.nodup_singleton _) ?_
      simp [localWorkerChannels, channels, relayChannel]⟩
  let endpoint := ProtocolMultiEndpoint.new (channels agents .agent agent_injective)
  let remote := !agents.items.isEmpty
  { localWorkers := workers
    intraReceiver := ⟨localChannels⟩
    ipcReceiveRelay := if remote then some ⟨relayChannel, endpoint⟩ else none
    ipcSendRelay := if remote then some ⟨agents, endpoint⟩ else none
    workerSender := ⟨localWorkerChannels⟩
    timeout := timeout
    workerConnectors := localWorkerChannels.items
    activityWorkerMap := activityWorkerMap
    workerAgentMap := workerAgentMap }

/-- The agents are those of all workers and those of the relay. -/
def getConnectedAgentIds (connector : SchedulerConnector) : List AgentId :=
  sortIds (connector.workerAgentMap.values ++
    (connector.ipcSendRelay.map fun relay => relay.remoteAgents.items).getD []).dedup

/-- The remote agents come before the local workers. -/
def broadcastTerminate (connector : SchedulerConnector) (kind : IoErrorKind)
    (inter : Links Token ProtocolSignal) (intra : Links ChannelId Mpsc.ProtocolSignal)
    (signal : Signal) :
    Except Error Unit × Links Token ProtocolSignal × Links ChannelId Mpsc.ProtocolSignal :=
  match connector.ipcSendRelay with
  | none =>
      let (result, final) := connector.workerSender.broadcast intra (.core signal)
      (result, inter, final)
  | some relay =>
      match relay.broadcast kind inter (.core signal) with
      | (.error error, next) => (.error error, next, intra)
      | (.ok (), next) =>
          let (result, final) := connector.workerSender.broadcast intra (.core signal)
          (result, next, final)

/-- The send relay, if there is one, waits for the receivers of the remote agents. -/
def connectSendRelay (connector : SchedulerConnector) (receivers : List HelloRound) :
    Option (Except Error Unit) :=
  match connector.ipcSendRelay with
  | none => some (.ok ())
  | some relay => (relay.interSender.connect receivers).map Prod.fst

/-- No result means that a connecting loop still waits. -/
def runAndConnect (connector : SchedulerConnector) (receivers : List HelloRound)
    (senders : List Mpsc.Round) (intra : Links ChannelId Mpsc.ProtocolSignal) :
    Option (Except Error Unit) :=
  match connector.connectSendRelay receivers with
  | some (.ok ()) =>
      match connector.intraReceiver.connectSenders connector.timeout senders with
      | some (.ok ()) => some (connector.workerSender.connectReceivers intra).1
      | other => other
  | other => other

end SchedulerConnector

end Feo.Relayed
