import Feo.Construction.Connector.Relayed

namespace Feo

open Foundation

namespace Mpsc

/-- The signals arrive in time, and then the channel stays silent or is closed. -/
structure Timely (timeout : Duration) (arrivals : List ProtocolSignal) (rounds : List Round) :
    Prop where
  inTime : ∀ round ∈ rounds, timeout.gt round.elapsed = true
  silence : ∃ silent, (silent = .ok none ∨ silent = .error .channelClosed) ∧
    rounds.map Round.received = arrivals.map (fun signal => .ok (some signal)) ++ [silent]

namespace ProtocolMultiReceiver

theorem remaining_sublist (receiver : ProtocolMultiReceiver) (missing : List ChannelId)
    (signal : ProtocolSignal) : (receiver.remaining missing signal).Sublist missing := by
  unfold remaining
  split
  · split
    · exact List.erase_sublist
    · exact List.Sublist.refl _
  · exact List.Sublist.refl _

/-- A signal removes the channel that it connects. -/
theorem mem_remaining_iff (receiver : ProtocolMultiReceiver) {missing : List ChannelId}
    (distinct : missing.Nodup) (expected : missing ⊆ receiver.channelIds.items)
    (signal : ProtocolSignal) (id : ChannelId) :
    id ∈ receiver.remaining missing signal ↔ id ∈ missing ∧ signal ≠ .connect id := by
  cases signal with
  | core signal => simp [remaining]
  | connect other =>
      by_cases known : other ∈ receiver.channelIds.items
      · rw [remaining, if_pos known, distinct.mem_erase_iff, and_comm]
        simp [eq_comm]
      · rw [remaining, if_neg known]
        constructor
        · intro member
          refine ⟨member, ?_⟩
          rintro same
          cases same
          exact known (expected member)
        · exact And.left

/-- The loop succeeds exactly when every missing channel is among the arrivals. -/
theorem connectLoop_ok_iff (receiver : ProtocolMultiReceiver) {timeout : Duration}
    {arrivals : List ProtocolSignal} {rounds : List Round}
    (timely : Timely timeout arrivals rounds) {missing : List ChannelId}
    (distinct : missing.Nodup) (expected : missing ⊆ receiver.channelIds.items) :
    receiver.connectLoop timeout missing rounds = some (.ok ()) ↔
      ∀ id ∈ missing, .connect id ∈ arrivals := by
  obtain ⟨inTime, silent, quiet, received⟩ := timely
  induction rounds generalizing arrivals missing with
  | nil => simp at received
  | cons round rounds ih =>
      have early : timeout.gt round.elapsed = true := inTime round List.mem_cons_self
      by_cases done : missing = []
      · subst done
        simp [connectLoop]
      · have waits : ¬ (missing = [] ∨ ¬ timeout.gt round.elapsed = true) := by
          simp [done, early]
        rw [connectLoop, if_neg waits]
        cases arrivals with
        | nil =>
            rw [List.map_cons, List.map_nil, List.nil_append] at received
            obtain ⟨same, _⟩ := List.cons.inj received
            obtain ⟨id, member⟩ := List.exists_mem_of_ne_nil missing done
            refine iff_of_false ?_ fun all => List.not_mem_nil (all id member)
            rcases quiet with rfl | rfl <;> simp [same]
        | cons signal arrivals =>
            rw [List.map_cons, List.map_cons, List.cons_append] at received
            obtain ⟨same, rest⟩ := List.cons.inj received
            have kept := receiver.remaining_sublist missing signal
            rw [same]
            change receiver.connectLoop timeout (receiver.remaining missing signal) rounds = _ ↔ _
            rw [ih (kept.nodup distinct) (fun id member => expected (kept.subset member))
              (fun later member => inTime later (List.mem_cons_of_mem _ member)) rest]
            simp only [receiver.mem_remaining_iff distinct expected, List.mem_cons]
            constructor
            · intro others id member
              by_cases head : signal = .connect id
              · exact .inl head.symm
              · exact .inr (others id ⟨member, head⟩)
            · rintro all id ⟨member, different⟩
              exact (all id member).resolve_left fun head => different head.symm

end ProtocolMultiReceiver

end Mpsc

/-- The peers of the channels say hello before the deadline. -/
structure HelloTimely (channelIds : List ChannelId) (rounds : List HelloRound) : Prop where
  inTime : ∀ round ∈ rounds, round.timeLeft.isZero = false
  hello : ∀ id ∈ channelIds, ∃ round ∈ rounds, ∃ token,
    round.received = .ok (some (token, .channelHello id))

/-- The endpoint connects when all missing peers say hello in time. -/
theorem ProtocolMultiEndpoint.connectLoop_ok (endpoint : ProtocolMultiEndpoint)
    {missing : List ChannelId} {rounds : List HelloRound} (distinct : missing.Nodup)
    (timely : HelloTimely missing rounds) :
    ∃ connected, endpoint.connectLoop missing rounds = some (.ok (), connected) := by
  obtain ⟨inTime, hello⟩ := timely
  induction rounds generalizing endpoint missing with
  | nil =>
      have done : missing = [] := by
        apply List.eq_nil_iff_forall_not_mem.mpr
        intro id member
        obtain ⟨round, impossible, _⟩ := hello id member
        exact List.not_mem_nil impossible
      exact ⟨endpoint, by rw [connectLoop, if_pos done]⟩
  | cons round rounds ih =>
      by_cases done : missing = []
      · exact ⟨endpoint, by rw [connectLoop, if_pos done]⟩
      · have early : ¬ round.timeLeft.isZero = true := by
          rw [inTime round List.mem_cons_self]
          exact Bool.false_ne_true
        have later : ∀ other ∈ rounds, other.timeLeft.isZero = false := fun other member =>
          inTime other (List.mem_cons_of_mem _ member)
        rw [connectLoop, if_neg done, if_neg early]
        split
        · next token channel received =>
            refine ih _ (distinct.erase channel) later ?_
            intro id member
            obtain ⟨different, missed⟩ := distinct.mem_erase_iff.mp member
            obtain ⟨other, position, otherToken, heard⟩ := hello id missed
            rcases List.mem_cons.mp position with rfl | behind
            · rw [received] at heard
              cases heard
              exact absurd rfl different
            · exact ⟨other, behind, otherToken, heard⟩
        · next ignored =>
            refine ih _ distinct later ?_
            intro id member
            obtain ⟨other, position, token, heard⟩ := hello id member
            rcases List.mem_cons.mp position with rfl | behind
            · exact absurd heard (ignored token id)
            · exact ⟨other, behind, token, heard⟩

namespace Relayed.SchedulerConnector

/-- These connect signals are sent by the local workers and by the receive relay. -/
def connecting (connector : SchedulerConnector) (hellos : List HelloRound) :
    List Mpsc.ProtocolSignal :=
  connector.workerConnectors.map .connect ++
    (connector.ipcReceiveRelay.map fun relay => relay.connect hellos).getD []

/-- All peers of a connector connect within the timeout, and the queues of its workers work. -/
structure TimelyPeers (connector : SchedulerConnector) (receivers senders : List HelloRound)
    (rounds : List Mpsc.Round) (intra : Links ChannelId Mpsc.ProtocolSignal) : Prop where
  receiversInTime : ∀ relay ∈ connector.ipcSendRelay,
    HelloTimely relay.interSender.channelIds.items receivers
  sendersInTime : ∀ relay ∈ connector.ipcReceiveRelay,
    HelloTimely relay.interReceiver.channelIds.items senders
  connects : ∃ arrivals, arrivals.Perm (connector.connecting senders) ∧
    Mpsc.Timely connector.timeout arrivals rounds
  queues : ∀ id ∈ connector.workerSender.senders.items, intra.working id = true

/-- The set-up succeeds, and the receiver waits for exactly the parties that connect. -/
def Connects (connector : SchedulerConnector) (receivers senders : List HelloRound)
    (rounds : List Mpsc.Round) (intra : Links ChannelId Mpsc.ProtocolSignal) : Prop :=
  connector.runAndConnect receivers rounds intra = some (.ok ()) ∧
    ∀ id, id ∈ connector.intraReceiver.channelIds.items ↔
      .connect id ∈ connector.connecting senders

/-- The send relay connects when the receivers of the agents say hello. -/
theorem connectSendRelay_ok (connector : SchedulerConnector) {receivers : List HelloRound}
    (timely : ∀ relay ∈ connector.ipcSendRelay,
      HelloTimely relay.interSender.channelIds.items receivers) :
    connector.connectSendRelay receivers = some (.ok ()) := by
  unfold connectSendRelay
  split
  · rfl
  · next relay present =>
      obtain ⟨connected, result⟩ := relay.interSender.connectLoop_ok
        relay.interSender.channelIds.nodup (timely relay present)
      rw [ProtocolMultiEndpoint.connect, result]
      rfl

/-- With timely peers the set-up succeeds when every awaited channel connects. -/
theorem runAndConnect_ok_iff (connector : SchedulerConnector)
    {receivers senders : List HelloRound} {rounds : List Mpsc.Round}
    {intra : Links ChannelId Mpsc.ProtocolSignal}
    (timely : connector.TimelyPeers receivers senders rounds intra) :
    connector.runAndConnect receivers rounds intra = some (.ok ()) ↔
      ∀ id ∈ connector.intraReceiver.channelIds.items,
        .connect id ∈ connector.connecting senders := by
  obtain ⟨arrivals, same, inTime⟩ := timely.connects
  have relay := connector.connectSendRelay_ok timely.receiversInTime
  have loop := connector.intraReceiver.connectLoop_ok_iff inTime
    connector.intraReceiver.channelIds.nodup (List.Subset.refl _)
  have queues : (connector.workerSender.connectReceivers intra).1 = .ok () :=
    (intra.trySendEach_ok_iff _ _ _).mpr timely.queues
  simp only [same.mem_iff] at loop
  rw [← loop, runAndConnect, relay]
  change _ ↔ connector.intraReceiver.connectSenders connector.timeout rounds = some (.ok ())
  dsimp only
  rw [queues]
  split
  · next done => simp [done]
  · exact Iff.rfl

variable (agentId : AgentId) (timeout : Duration) (workerAgentMap : HashMap WorkerId AgentId)
  (activityWorkerMap : HashMap ActivityId WorkerId)

/-- The relays exist when a worker resides on another agent. -/
theorem remoteAgentsOf_eq_nil_iff :
    (remoteAgentsOf agentId workerAgentMap).items = [] ↔
      ∀ worker ∈ workerAgentMap.keys, workerAgentMap.value worker = agentId := by
  rw [List.eq_nil_iff_forall_not_mem]
  simp only [remoteAgentsOf, (collect _).mem_iff, HashMap.values, List.mem_filter, List.mem_map]
  constructor
  · intro none worker member
    by_contra different
    exact none _ ⟨⟨worker, member, rfl⟩, by simpa using different⟩
  · rintro all agent ⟨⟨worker, member, rfl⟩, different⟩
    exact absurd (all worker member) (by simpa using different)

/-- A local worker has a channel of its own, which is not the channel of the relay. -/
theorem relay_not_worker (set : HashSet WorkerId) :
    relayChannel ∉ set.items.map ChannelId.worker := by
  simp [relayChannel]

/-- The relay connects exactly when it exists. -/
theorem relay_connects_iff {senders : List HelloRound}
    (timely : ∀ relay ∈ (new agentId timeout workerAgentMap activityWorkerMap).ipcReceiveRelay,
      HelloTimely relay.interReceiver.channelIds.items senders) :
    .connect relayChannel ∈
        (new agentId timeout workerAgentMap activityWorkerMap).connecting senders ↔
      (remoteAgentsOf agentId workerAgentMap).items ≠ [] := by
  have absent := relay_not_worker (localWorkersOf agentId workerAgentMap)
  have workers : .connect relayChannel ∉
      (new agentId timeout workerAgentMap activityWorkerMap).workerConnectors.map
        Mpsc.ProtocolSignal.connect := by
    simpa [new, channels] using absent
  rw [connecting, List.mem_append, or_iff_right workers]
  cases agents : (remoteAgentsOf agentId workerAgentMap).items with
  | nil => simp [new, agents]
  | cons agent rest =>
      have present : (new agentId timeout workerAgentMap activityWorkerMap).ipcReceiveRelay =
          some ⟨relayChannel, ProtocolMultiEndpoint.new
            (channels (remoteAgentsOf agentId workerAgentMap) .agent agent_injective)⟩ := by
        simp [new, agents]
      obtain ⟨connected, result⟩ := ProtocolMultiEndpoint.connectLoop_ok _ (HashSet.nodup _)
        (timely _ present)
      rw [present, Option.map_some, Option.getD_some, PrimaryReceiveRelay.connect,
        ProtocolMultiEndpoint.connect, result]
      simp

/-- A local worker connects its own channel. -/
theorem worker_connects (senders : List HelloRound) {id : ChannelId}
    (member : id ∈ (localWorkersOf agentId workerAgentMap).items.map ChannelId.worker) :
    .connect id ∈ (new agentId timeout workerAgentMap activityWorkerMap).connecting senders :=
  List.mem_append_left _ (List.mem_map_of_mem member)

/-- Every party that connects is awaited. -/
theorem connecting_awaited (senders : List HelloRound) {id : ChannelId}
    (connects : .connect id ∈
      (new agentId timeout workerAgentMap activityWorkerMap).connecting senders) :
    id ∈ (new agentId timeout workerAgentMap activityWorkerMap).intraReceiver.channelIds.items := by
  rcases List.mem_append.mp connects with worker | relay
  · obtain ⟨other, member, same⟩ := List.mem_map.mp worker
    cases same
    exact List.mem_append_left _ member
  · refine List.mem_append_right _ ?_
    cases present : (new agentId timeout workerAgentMap activityWorkerMap).ipcReceiveRelay with
    | none =>
        rw [present] at relay
        exact absurd relay List.not_mem_nil
    | some party =>
        have channel : party.intraSender = relayChannel := by
          simp only [new] at present
          split at present
          · cases present
            rfl
          · exact nomatch present
        rw [present, Option.map_some, Option.getD_some, PrimaryReceiveRelay.connect,
          channel] at relay
        split at relay
        · simpa using relay
        · exact absurd relay List.not_mem_nil

/-- The set-up meets its purpose exactly when a worker resides on another agent. -/
theorem connects_iff {receivers senders : List HelloRound} {rounds : List Mpsc.Round}
    {intra : Links ChannelId Mpsc.ProtocolSignal}
    (timely : (new agentId timeout workerAgentMap activityWorkerMap).TimelyPeers
      receivers senders rounds intra) :
    (new agentId timeout workerAgentMap activityWorkerMap).Connects receivers senders rounds intra ↔
      ∃ worker ∈ workerAgentMap.keys, workerAgentMap.value worker ≠ agentId := by
  have relay := relay_connects_iff agentId timeout workerAgentMap activityWorkerMap
    timely.sendersInTime
  have remote : (∃ worker ∈ workerAgentMap.keys, workerAgentMap.value worker ≠ agentId) ↔
      (remoteAgentsOf agentId workerAgentMap).items ≠ [] := by
    rw [Ne, remoteAgentsOf_eq_nil_iff]
    simp only [not_forall, exists_prop]
  rw [remote, ← relay, Connects, runAndConnect_ok_iff _ timely]
  constructor
  · rintro ⟨complete, _⟩
    exact complete relayChannel (List.mem_append_right _ (List.mem_singleton.mpr rfl))
  · intro connected
    have complete : ∀ id ∈ (new agentId timeout workerAgentMap
        activityWorkerMap).intraReceiver.channelIds.items,
        .connect id ∈
          (new agentId timeout workerAgentMap activityWorkerMap).connecting senders := by
      intro id member
      rcases List.mem_append.mp member with worker | single
      · exact worker_connects agentId timeout workerAgentMap activityWorkerMap senders worker
      · rw [List.mem_singleton.mp single]
        exact connected
    exact ⟨complete, fun id => ⟨complete id,
      connecting_awaited agentId timeout workerAgentMap activityWorkerMap senders⟩⟩

/-- Every queue works, and nothing has been sent yet. -/
def freshQueues : Links ChannelId Mpsc.ProtocolSignal := ⟨fun _ => true, fun _ => []⟩

/-- The workers 40 and 42 reside on the primary agent 100 and on the agent 101. -/
def twoAgents : SchedulerConnector :=
  new ⟨100⟩ ⟨1, by decide⟩
    ⟨[⟨40⟩, ⟨42⟩], by decide, fun worker => if worker = ⟨40⟩ then ⟨100⟩ else ⟨101⟩⟩ HashMap.empty

/-- The agent 101 says hello in the first round. -/
def helloRounds : List HelloRound :=
  [⟨⟨1, by decide⟩, .ok (some (1, .channelHello (.agent ⟨101⟩)))⟩]

/-- The relay connects before the worker 40. -/
def connectRounds : List Mpsc.Round :=
  [⟨Duration.zero, .ok (some (.connect relayChannel))⟩,
    ⟨Duration.zero, .ok (some (.connect (.worker ⟨40⟩)))⟩, ⟨Duration.zero, .ok none⟩]

theorem twoAgents_timely :
    twoAgents.TimelyPeers helloRounds helloRounds connectRounds freshQueues where
  receiversInTime relay present := by
    cases present
    exact ⟨by decide, by simp [helloRounds]; decide⟩
  sendersInTime relay present := by
    cases present
    exact ⟨by decide, by simp [helloRounds]; decide⟩
  connects := by
    refine ⟨[.connect relayChannel, .connect (.worker ⟨40⟩)], by decide, by decide, ?_⟩
    exact ⟨.ok none, .inl rfl, rfl⟩
  queues _ _ := rfl

/-- With a remote agent the set-up succeeds. -/
theorem twoAgents_connects :
    twoAgents.Connects helloRounds helloRounds connectRounds freshQueues :=
  (connects_iff _ _ _ _ twoAgents_timely).mpr ⟨⟨42⟩, by decide, by decide⟩

/-- The workers 40 and 41 reside on the primary agent 100. -/
def singleAgent : SchedulerConnector :=
  new ⟨100⟩ ⟨1, by decide⟩ ⟨[⟨40⟩, ⟨41⟩], by decide, fun _ => ⟨100⟩⟩ HashMap.empty

/-- Both local workers connect, and then the channel stays silent. -/
def workerRounds : List Mpsc.Round :=
  [⟨Duration.zero, .ok (some (.connect (.worker ⟨40⟩)))⟩,
    ⟨Duration.zero, .ok (some (.connect (.worker ⟨41⟩)))⟩, ⟨Duration.zero, .ok none⟩]

/-- The receiver waits for the relay that does not exist until the timeout. -/
theorem singleAgent_times_out :
    singleAgent.TimelyPeers [] [] workerRounds freshQueues ∧
      singleAgent.runAndConnect [] workerRounds freshQueues =
        some (.error (.timeout (some ⟨1, by decide⟩) "connecting senders")) := by
  refine ⟨⟨nofun, nofun, ?_, fun _ _ => rfl⟩, rfl⟩
  refine ⟨[.connect (.worker ⟨40⟩), .connect (.worker ⟨41⟩)], by decide, by decide, ?_⟩
  exact ⟨.ok none, .inl rfl, rfl⟩

end Relayed.SchedulerConnector

end Feo
