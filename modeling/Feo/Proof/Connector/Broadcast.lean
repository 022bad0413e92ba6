import Feo.Construction.Connector.Direct
import Feo.Construction.Connector.Mpsc
import Feo.Construction.Connector.Relayed

namespace Feo

open Foundation

/-- This is one call of `broadcast_terminate` on the channels of a connected connector. -/
inductive Broadcast where
  | direct (connector : Direct.SchedulerConnector)
      (uniqueTokens : Collected connector.activityIdTokenMap.values) (kind : IoErrorKind)
      (links : Links Token ProtocolSignal)
  | mpsc (connector : DirectMpsc.SchedulerConnector)
      (links : Links ChannelId Mpsc.ProtocolSignal) (now : Timestamp)
  | relayed (connector : Relayed.SchedulerConnector)
      (connected : ∀ relay ∈ connector.ipcSendRelay, relay.Connected) (kind : IoErrorKind)
      (inter : Links Token ProtocolSignal) (intra : Links ChannelId Mpsc.ProtocolSignal)

namespace Broadcast

/-- Each destination whose channel works receives the signal exactly once. -/
def Reaches (timestamp : Timestamp) : Broadcast → Prop
  | direct connector uniqueTokens kind links =>
      ∀ token ∈ connector.activityIdTokenMap.values, links.working token = true →
        (connector.broadcastTerminate uniqueTokens kind links
            (.terminate timestamp)).2.delivered token =
          links.delivered token ++ [.core (.terminate timestamp)]
  | mpsc connector links now =>
      ∀ id ∈ connector.sender.senders.items, links.working id = true →
        (connector.broadcastTerminate links (.terminate timestamp) now).2.delivered id =
          links.delivered id ++ [.core (.terminate now)]
  | relayed connector _ kind inter intra =>
      let final := (connector.broadcastTerminate kind inter intra (.terminate timestamp)).2
      (∀ relay ∈ connector.ipcSendRelay, ∀ agent ∈ relay.remoteAgents.items,
        inter.working (relay.token agent) = true →
          final.1.delivered (relay.token agent) =
            inter.delivered (relay.token agent) ++ [.core (.terminate timestamp)]) ∧
      ∀ id ∈ connector.workerSender.senders.items, intra.working id = true →
        final.2.delivered id = intra.delivered id ++ [.core (.terminate timestamp)]

/-- The remote agents precede the local workers in the order of the relayed broadcast. -/
def relayedOrder (connector : Relayed.SchedulerConnector) : List (Token ⊕ ChannelId) :=
  (match connector.ipcSendRelay with
    | none => []
    | some relay => relay.remoteAgents.items.map fun agent => .inl (relay.token agent)) ++
  connector.workerSender.senders.items.map .inr

/-- A destination whose send fails precedes one whose channel works. -/
def Hides : Broadcast → Prop
  | direct _ uniqueTokens _ links => Links.Hides links.working uniqueTokens.items
  | mpsc connector links _ => Links.Hides links.working connector.sender.senders.items
  | relayed connector _ _ inter intra =>
      Links.Hides (Sum.elim inter.working intra.working) (relayedOrder connector)

theorem reaches_direct_iff (connector : Direct.SchedulerConnector)
    (uniqueTokens : Collected connector.activityIdTokenMap.values) (kind : IoErrorKind)
    (links : Links Token ProtocolSignal) (timestamp : Timestamp) :
    (direct connector uniqueTokens kind links).Reaches timestamp ↔
      ¬ (direct connector uniqueTokens kind links).Hides := by
  have loop := links.trySendEach_reaches_iff (SocketServer.toError kind)
    (fun _ => ProtocolSignal.core (.terminate timestamp)) uniqueTokens.nodup
  simp only [uniqueTokens.mem_iff] at loop
  exact loop

theorem reaches_mpsc_iff (connector : DirectMpsc.SchedulerConnector)
    (links : Links ChannelId Mpsc.ProtocolSignal) (now timestamp : Timestamp) :
    (mpsc connector links now).Reaches timestamp ↔ ¬ (mpsc connector links now).Hides :=
  links.trySendEach_reaches_iff _ (fun _ => Mpsc.ProtocolSignal.core (.terminate now))
    connector.sender.senders.nodup

/-- The send relay, if there is one, reaches all remote agents. -/
def RelayWorks (connector : Relayed.SchedulerConnector) (inter : Links Token ProtocolSignal) :
    Prop :=
  ∀ relay ∈ connector.ipcSendRelay, ∀ agent ∈ relay.remoteAgents.items,
    inter.working (relay.token agent) = true

theorem relay_broadcast_ok_iff (relay : Relayed.PrimarySendRelay) (kind : IoErrorKind)
    (inter : Links Token ProtocolSignal) (signal : ProtocolSignal) :
    (relay.broadcast kind inter signal).1 = .ok () ↔
      ∀ agent ∈ relay.remoteAgents.items, inter.working (relay.token agent) = true := by
  unfold Relayed.PrimarySendRelay.broadcast
  rw [Links.trySendEach_ok_iff]
  exact List.forall_mem_map

/-- The remote agents receive what the relay sends. -/
theorem broadcastTerminate_inter (connector : Relayed.SchedulerConnector) (kind : IoErrorKind)
    (inter : Links Token ProtocolSignal) (intra : Links ChannelId Mpsc.ProtocolSignal)
    (signal : Signal) {relay : Relayed.PrimarySendRelay}
    (present : connector.ipcSendRelay = some relay) :
    (connector.broadcastTerminate kind inter intra signal).2.1 =
      (relay.broadcast kind inter (.core signal)).2 := by
  simp only [Relayed.SchedulerConnector.broadcastTerminate, present]
  split
  · next error next sent => rw [sent]
  · next next sent => rw [sent]

/-- The local workers receive the broadcast unless the relay reports an error. -/
theorem broadcastTerminate_intra (connector : Relayed.SchedulerConnector) (kind : IoErrorKind)
    (inter : Links Token ProtocolSignal) (intra : Links ChannelId Mpsc.ProtocolSignal)
    (signal : Signal) :
    (RelayWorks connector inter ∧
        (connector.broadcastTerminate kind inter intra signal).2.2 =
          (connector.workerSender.broadcast intra (.core signal)).2) ∨
      ¬ RelayWorks connector inter ∧
        (connector.broadcastTerminate kind inter intra signal).2.2 = intra := by
  cases present : connector.ipcSendRelay with
  | none =>
      refine .inl ⟨?_, ?_⟩
      · intro relay some
        rw [present] at some
        exact nomatch some
      · simp only [Relayed.SchedulerConnector.broadcastTerminate, present]
  | some relay =>
      have ok := relay_broadcast_ok_iff relay kind inter (.core signal)
      have works : RelayWorks connector inter ↔
          ∀ agent ∈ relay.remoteAgents.items, inter.working (relay.token agent) = true := by
        simp [RelayWorks, present]
      rw [works, ← ok]
      simp only [Relayed.SchedulerConnector.broadcastTerminate, present]
      cases sent : relay.broadcast kind inter (.core signal) with
      | mk result next =>
          cases result with
          | ok value => exact .inl ⟨rfl, rfl⟩
          | error error => exact .inr ⟨nofun, rfl⟩

theorem relay_reaches_iff (relay : Relayed.PrimarySendRelay) (connected : relay.Connected)
    (kind : IoErrorKind) (inter : Links Token ProtocolSignal) (signal : ProtocolSignal) :
    (∀ agent ∈ relay.remoteAgents.items, inter.working (relay.token agent) = true →
      (relay.broadcast kind inter signal).2.delivered (relay.token agent) =
        inter.delivered (relay.token agent) ++ [signal]) ↔
      ¬ Links.Hides inter.working (relay.remoteAgents.items.map relay.token) := by
  have distinct : (relay.remoteAgents.items.map relay.token).Nodup :=
    List.Nodup.map_on (fun first member second other same =>
      connected.separate first member second other same) relay.remoteAgents.nodup
  have loop := inter.trySendEach_reaches_iff (SocketServer.toError kind) (fun _ => signal) distinct
  rw [← loop]
  simp only [List.forall_mem_map]
  rfl

/-- No local worker is hidden when none of them hides another and the relay works. -/
theorem workers_reached_iff (connector : Relayed.SchedulerConnector) (kind : IoErrorKind)
    (inter : Links Token ProtocolSignal) (intra : Links ChannelId Mpsc.ProtocolSignal)
    (signal : Signal) :
    (∀ id ∈ connector.workerSender.senders.items, intra.working id = true →
        (connector.broadcastTerminate kind inter intra signal).2.2.delivered id =
          intra.delivered id ++ [.core signal]) ↔
      ¬ Links.Hides intra.working connector.workerSender.senders.items ∧
        (RelayWorks connector inter ∨
          ∀ id ∈ connector.workerSender.senders.items, intra.working id = false) := by
  have loop := intra.trySendEach_reaches_iff
    (Error.channel "broadcast failed: a channel was closed")
    (fun _ => Mpsc.ProtocolSignal.core signal) connector.workerSender.senders.nodup
  rcases broadcastTerminate_intra connector kind inter intra signal with
    ⟨works, final⟩ | ⟨fails, final⟩
  · rw [final]
    simp only [works, true_or, and_true]
    exact loop
  · rw [final]
    constructor
    · intro reached
      have silent : ∀ id ∈ connector.workerSender.senders.items, intra.working id = false := by
        intro id member
        by_contra works
        have sent := reached id member (Bool.eq_true_of_not_eq_false works)
        exact absurd (congrArg List.length sent) (by simp)
      refine ⟨?_, .inr silent⟩
      rintro ⟨before, failing, middle, peer, after, split, _, works⟩
      rw [silent peer (by rw [split]; simp)] at works
      exact Bool.noConfusion works
    · rintro ⟨_, works | silent⟩ id member working
      · exact absurd works fails
      · rw [silent id member] at working
        exact Bool.noConfusion working

/-- The order of the relayed broadcast hides a peer in one of its parts or across them. -/
theorem hides_relayed_iff (connector : Relayed.SchedulerConnector)
    (inter : Links Token ProtocolSignal) (intra : Links ChannelId Mpsc.ProtocolSignal) :
    Links.Hides (Sum.elim inter.working intra.working) (relayedOrder connector) ↔
      (∃ relay ∈ connector.ipcSendRelay,
        Links.Hides inter.working (relay.remoteAgents.items.map relay.token)) ∨
      Links.Hides intra.working connector.workerSender.senders.items ∨
      ¬ RelayWorks connector inter ∧
        ∃ id ∈ connector.workerSender.senders.items, intra.working id = true := by
  unfold relayedOrder RelayWorks
  rw [Links.hides_append_iff]
  cases connector.ipcSendRelay with
  | none => simp [Links.not_hides_nil, Links.hides_map_iff]
  | some relay => simp [Links.hides_map_iff]

theorem reaches_relayed_iff (connector : Relayed.SchedulerConnector)
    (connected : ∀ relay ∈ connector.ipcSendRelay, relay.Connected) (kind : IoErrorKind)
    (inter : Links Token ProtocolSignal) (intra : Links ChannelId Mpsc.ProtocolSignal)
    (timestamp : Timestamp) :
    (relayed connector connected kind inter intra).Reaches timestamp ↔
      ¬ (relayed connector connected kind inter intra).Hides := by
  have workers := workers_reached_iff connector kind inter intra (.terminate timestamp)
  have agents : (∀ relay ∈ connector.ipcSendRelay, ∀ agent ∈ relay.remoteAgents.items,
      inter.working (relay.token agent) = true →
        (connector.broadcastTerminate kind inter intra (.terminate timestamp)).2.1.delivered
            (relay.token agent) =
          inter.delivered (relay.token agent) ++ [.core (.terminate timestamp)]) ↔
      ∀ relay ∈ connector.ipcSendRelay,
        ¬ Links.Hides inter.working (relay.remoteAgents.items.map relay.token) := by
    apply forall₂_congr
    intro relay present
    rw [broadcastTerminate_inter connector kind inter intra _ present]
    exact relay_reaches_iff relay (connected relay present) kind inter _
  unfold Reaches Hides
  simp only
  rw [agents, workers, hides_relayed_iff]
  constructor
  · rintro ⟨relays, locals, reachable⟩
      (⟨relay, present, hidden⟩ | hidden | ⟨fails, id, member, works⟩)
    · exact relays relay present hidden
    · exact locals hidden
    · rcases reachable with all | silent
      · exact fails all
      · rw [silent id member] at works
        exact Bool.noConfusion works
  · intro visible
    refine ⟨fun relay present hidden => visible (.inl ⟨relay, present, hidden⟩),
      fun hidden => visible (.inr (.inl hidden)), ?_⟩
    by_cases all : RelayWorks connector inter
    · exact .inl all
    · refine .inr fun id member => ?_
      by_contra works
      have working : intra.working id = true := Bool.eq_true_of_not_eq_false works
      exact visible (.inr (.inr ⟨all, id, member, working⟩))

/-- The broadcast reaches each working destination exactly when no failing one hides it. -/
theorem reaches_iff (broadcast : Broadcast) (timestamp : Timestamp) :
    broadcast.Reaches timestamp ↔ ¬ broadcast.Hides := by
  cases broadcast with
  | direct connector uniqueTokens kind links =>
      exact reaches_direct_iff connector uniqueTokens kind links timestamp
  | mpsc connector links now => exact reaches_mpsc_iff connector links now timestamp
  | relayed connector connected kind inter intra =>
      exact reaches_relayed_iff connector connected kind inter intra timestamp

theorem remoteAgents_nodup : [(⟨101⟩ : AgentId), ⟨102⟩].Nodup := by simp

theorem agentChannels_nodup : [ChannelId.agent ⟨101⟩, ChannelId.agent ⟨102⟩].Nodup := by simp

/-- Each of the agents 101 and 102 has a connection of its own. -/
def splitRelay : Relayed.PrimarySendRelay where
  remoteAgents := ⟨[⟨101⟩, ⟨102⟩], remoteAgents_nodup⟩
  interSender :=
    { channelIds := ⟨[.agent ⟨101⟩, .agent ⟨102⟩], agentChannels_nodup⟩
      channelTokenMap :=
        ⟨[.agent ⟨101⟩, .agent ⟨102⟩], agentChannels_nodup,
          fun channel => if channel = .agent ⟨101⟩ then 2 else 3⟩ }

theorem splitRelay_connected : splitRelay.Connected where
  known agent member := List.mem_map_of_mem member
  separate := by decide

/-- The worker 40 resides with the scheduler, and the other agents are remote. -/
def splitConnector : Relayed.SchedulerConnector :=
  { Relayed.SchedulerConnector.new ⟨100⟩ Duration.zero
      (HashMap.empty.insert ⟨40⟩ ⟨100⟩) HashMap.empty with
    ipcSendRelay := some splitRelay }

theorem splitConnector_connected : ∀ relay ∈ splitConnector.ipcSendRelay, relay.Connected := by
  intro relay present
  cases present
  exact splitRelay_connected

/-- Some of the connections to the remote agents work, and so do the channels of the workers. -/
def split (working : Token → Bool) : Broadcast :=
  relayed splitConnector splitConnector_connected .wouldBlock ⟨working, fun _ => []⟩
    ⟨fun _ => true, fun _ => []⟩

/-- A full stream to the last remote agent hides the local worker. -/
theorem split_reached : (split fun _ => true).Reaches ⟨Duration.zero⟩ ∧
    ¬ (split fun token => token ≠ 3).Reaches ⟨Duration.zero⟩ := by
  rw [reaches_iff, reaches_iff, not_not]
  constructor
  · rintro ⟨_, failing, _, _, _, _, fails, _⟩
    cases failing with
    | inl token => cases fails
    | inr channel => cases fails
  · exact ⟨[.inl 2], .inl 3, [], .inr (.worker ⟨40⟩), [], rfl, rfl, rfl⟩

/-- Activities 0 and 1 belong to the workers 40 and 41, and the thread of worker 40 is gone. -/
def halfClosed : Broadcast :=
  mpsc (.new ⟨[⟨0⟩, ⟨1⟩], by decide, fun id => ⟨id.id + 40⟩⟩ (collect _))
    ⟨fun id => decide (id ≠ .worker ⟨40⟩), fun _ => []⟩ ⟨Duration.zero⟩

/-- The error of the closed channel keeps the signal from worker 41. -/
theorem halfClosed_unreached : ¬ halfClosed.Reaches ⟨Duration.zero⟩ := by
  intro reaches
  have sent := reaches (.worker ⟨41⟩) (by decide) (by decide)
  exact absurd sent (by decide)

end Broadcast

end Feo
