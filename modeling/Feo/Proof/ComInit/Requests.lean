import Feo.Proof.ComInit.Primary

namespace Feo.Com

open Foundation

variable (agentAssignments : AgentAssignments) (primary : AgentId)
  (topicSpecs : List TopicSpecification)

/-- Each activity belongs to one agent at most. -/
def Exclusive (agentAssignments : AgentAssignments) : Prop :=
  ∀ first ∈ agentAssignments.keys, ∀ second ∈ agentAssignments.keys,
    ∀ activity ∈ (workerActivities (agentAssignments.value first)).items,
      activity ∈ (workerActivities (agentAssignments.value second)).items → first = second

instance (agentAssignments : AgentAssignments) : Decidable (Exclusive agentAssignments) :=
  inferInstanceAs (Decidable (∀ first ∈ agentAssignments.keys,
    ∀ second ∈ agentAssignments.keys,
    ∀ activity ∈ (workerActivities (agentAssignments.value first)).items,
      activity ∈ (workerActivities (agentAssignments.value second)).items → first = second))

/-- The agent runs an activity. -/
def runs (agentAssignments : AgentAssignments) (agent : AgentId) (activity : ActivityId) : Bool :=
  decide (activity ∈ (workerActivities (agentAssignments.value agent)).items)

/-- These peers of a topic run on the agent. -/
def peersOn (agentAssignments : AgentAssignments) (pair : TopicSpecification × AgentId) : Nat :=
  (pair.1.peers.map Prod.fst).countP (runs agentAssignments pair.2)

/-- Each secondary requests each topic. -/
def requestPairs (agentAssignments : AgentAssignments) (primary : AgentId)
    (topicSpecs : List TopicSpecification) : List (TopicSpecification × AgentId) :=
  topicSpecs ×ˢ secondaryAgents agentAssignments primary

theorem secondaryAgents_nodup : (secondaryAgents agentAssignments primary).Nodup :=
  agentAssignments.nodup.filter _

/-- The remote activities are those that some secondary runs. -/
theorem mem_remoteActivities (activity : ActivityId) :
    decide (activity ∈ (remoteActivities agentAssignments primary).items) =
      (secondaryAgents agentAssignments primary).any fun agent =>
        runs agentAssignments agent activity := by
  rw [Bool.eq_iff_iff, List.any_eq_true, decide_eq_true_iff]
  simp only [remoteActivities, (collect _).mem_iff, List.mem_flatMap, List.mem_filter,
    HashMap.iter, List.mem_map, secondaryAgents, runs, workerActivities, decide_eq_true_iff]
  constructor
  · rintro ⟨entry, ⟨⟨agent, member, rfl⟩, different⟩, workers⟩
    exact ⟨agent, ⟨member, different⟩, workers⟩
  · rintro ⟨agent, ⟨member, different⟩, workers⟩
    exact ⟨_, ⟨⟨agent, member, rfl⟩, different⟩, workers⟩

/-- The primary expects one request for each peer on each of the secondaries. -/
theorem peerRequests_remote (exclusive : Exclusive agentAssignments) :
    peerRequests (remoteActivities agentAssignments primary) topicSpecs =
      ((requestPairs agentAssignments primary topicSpecs).map (peersOn agentAssignments)).sum := by
  rw [requestPairs, sum_product, peerRequests, List.length_flatMap]
  congr 1
  apply List.map_congr_left
  intro spec _
  rw [← List.countP_eq_length_filter]
  simp only [mem_remoteActivities]
  apply countP_any_exclusive (runs agentAssignments) (secondaryAgents_nodup _ _)
  intro first inside second within activity runsFirst runsSecond
  exact exclusive first (List.mem_of_mem_filter inside) second (List.mem_of_mem_filter within)
    activity (of_decide_eq_true runsFirst) (of_decide_eq_true runsSecond)

/-- The secondaries issue one request for each pair. -/
theorem issuedRequests_length :
    (issuedRequests agentAssignments primary topicSpecs).length =
      (requestPairs agentAssignments primary topicSpecs).length := by
  have each : (secondaryAgents agentAssignments primary).map (fun agent =>
      ((secondaryTopics agentAssignments primary topicSpecs agent).map fun params =>
        (agent, params.topic)).length) =
      (secondaryAgents agentAssignments primary).map fun _ => topicSpecs.length := by
    apply List.map_congr_left
    intro agent member
    rw [List.length_map, secondaryTopics, if_pos member, initializeComSecondary, List.length_map]
  rw [issuedRequests, List.length_flatMap, each, requestPairs, List.length_product,
    List.map_const', List.sum_replicate_nat, Nat.mul_comm]

/-- The requests that are pending at the start are the issued ones. -/
theorem start_pendingRequests (com : ComRuntime) (served : Nat) :
    (Service.start com served
        (secondaryTopics agentAssignments primary topicSpecs)).pendingRequests
        (secondaryAgents agentAssignments primary) =
      (issuedRequests agentAssignments primary topicSpecs).length := by
  rw [issuedRequests, List.length_flatMap]
  simp only [List.length_map]
  rfl

variable {agentAssignments primary topicSpecs} {maxAdditionalReaders : UInt64} {com : ComRuntime}

/-- The service of an initialized primary knows the topics of all secondaries. -/
theorem start_answerable (served : Nat)
    (initialized : initializeComPrimary primary topicSpecs agentAssignments maxAdditionalReaders =
      .ok com) :
    (Service.start com served
      (secondaryTopics agentAssignments primary topicSpecs)).Answerable := by
  obtain ⟨⟨-, distinct, -⟩, -, keys⟩ := initializeComPrimary_spec initialized
  intro agent own pending initializing
  cases initializing
  unfold secondaryTopics
  split
  · rw [initializeComSecondary, List.map_map]
    apply And.intro distinct
    intro params inside
    obtain ⟨spec, member, rfl⟩ := List.mem_map.mp inside
    exact ⟨List.not_mem_nil, (keys spec.topic).mpr (List.mem_map_of_mem member)⟩
  · exact ⟨List.nodup_nil, fun params inside => by cases inside⟩

/-- The listener of an initialized primary stays open in every run exactly when the service
is told to serve the issued requests. -/
theorem start_outlives_iff (served : Nat)
    (initialized : initializeComPrimary primary topicSpecs agentAssignments maxAdditionalReaders =
      .ok com) :
    (∀ history service,
      Service.machine.run
        (.start com served (secondaryTopics agentAssignments primary topicSpecs)) history =
          some service → service.Open) ↔
      (issuedRequests agentAssignments primary topicSpecs).length ≤ served := by
  rw [Service.outlives_iff (secondaryAgents_nodup agentAssignments primary)
    (start_answerable served initialized), start_pendingRequests]
  · rfl
  · intro agent outside
    exact if_neg outside

/-- The service is told to serve the issued requests, and in every run it is open for each
secondary that has a topic to request. -/
def Outlives (agentAssignments : AgentAssignments) (primary : AgentId)
    (topicSpecs : List TopicSpecification) (maxAdditionalReaders : UInt64) : Prop :=
  ∃ com served,
    initializeComPrimary primary topicSpecs agentAssignments maxAdditionalReaders = .ok com ∧
    com.thread = some served ∧
    (issuedRequests agentAssignments primary topicSpecs).length ≤ served ∧
    ∀ history service,
      Service.machine.run
        (.start com served (secondaryTopics agentAssignments primary topicSpecs)) history =
          some service → service.Open

/-- The primary can start, and the further peers on the secondaries and the additional readers
make up for the secondaries without a peer. -/
structure Covered (agentAssignments : AgentAssignments) (primary : AgentId)
    (topicSpecs : List TopicSpecification) (maxAdditionalReaders : UInt64) : Prop where
  assigned : primary ∈ agentAssignments.keys
  distinct : (topicSpecs.map TopicSpecification.topic).Nodup
  readers : ∀ spec ∈ topicSpecs, ReadersFit maxAdditionalReaders spec
  fits : ((requestPairs agentAssignments primary topicSpecs).map
      (peersOn agentAssignments)).sum + topicSpecs.length * maxAdditionalReaders.toNat < 2 ^ 64
  covered : (requestPairs agentAssignments primary topicSpecs).countP
      (fun pair => peersOn agentAssignments pair == 0) ≤
    ((requestPairs agentAssignments primary topicSpecs).map fun pair =>
      peersOn agentAssignments pair - 1).sum + topicSpecs.length * maxAdditionalReaders.toNat

/-- The service outlives the requests exactly when the secondaries without a peer of a topic are
covered. -/
theorem service_outlives_iff (exclusive : Exclusive agentAssignments) :
    Outlives agentAssignments primary topicSpecs maxAdditionalReaders ↔
      Covered agentAssignments primary topicSpecs maxAdditionalReaders := by
  have balance := sum_add_countP_zero (requestPairs agentAssignments primary topicSpecs)
    (peersOn agentAssignments)
  have issued := issuedRequests_length agentAssignments primary topicSpecs
  have expected := peerRequests_remote agentAssignments primary topicSpecs exclusive
  constructor
  · rintro ⟨com, served, initialized, told, enough, -⟩
    obtain ⟨⟨member, distinct, fits⟩, ⟨remote, started, counted⟩, -⟩ :=
      initializeComPrimary_spec initialized
    obtain rfl := Option.some.inj (told.symm.trans started)
    obtain ⟨bounded, rfl⟩ := (remoteRequests_ok_iff served).mp counted
    rw [expected] at bounded enough
    exact ⟨member, distinct, fits, bounded, by omega⟩
  · intro covered
    have counted : remoteRequests agentAssignments primary topicSpecs maxAdditionalReaders =
        .ok _ := (remoteRequests_ok_iff _).mpr ⟨expected ▸ covered.fits, rfl⟩
    obtain ⟨com, initialized, told⟩ := initializeComPrimary_ok covered.assigned covered.distinct
      covered.readers counted
    have enough : (issuedRequests agentAssignments primary topicSpecs).length ≤
        peerRequests (remoteActivities agentAssignments primary) topicSpecs +
          topicSpecs.length * maxAdditionalReaders.toNat := by
      have gaps := covered.covered
      omega
    exact ⟨com, _, initialized, told, enough, (start_outlives_iff _ initialized).mpr enough⟩

/-- Two activities run on the first agent and one on the second. -/
def twoAgents : AgentAssignments :=
  ⟨[⟨1⟩, ⟨2⟩], by decide,
    fun agent => if agent = ⟨1⟩ then [(⟨1⟩, [⟨1⟩, ⟨2⟩])] else [(⟨2⟩, [⟨3⟩])]⟩

/-- A topic with a reader on the secondary is requested once and served once. -/
theorem service_outlives_remote_reader :
    Outlives twoAgents ⟨1⟩ [⟨"topic", [(⟨1⟩, .outgoing), (⟨3⟩, .incoming)]⟩] 0 :=
  (service_outlives_iff (by decide)).mpr
    ⟨by decide, by decide, by decide, by decide, by decide⟩

/-- A topic between two activities of the primary is requested once and never served. -/
theorem service_closed_for_local_topic :
    Exclusive twoAgents ∧
      remoteRequests twoAgents ⟨1⟩ [⟨"topic", [(⟨1⟩, .outgoing), (⟨2⟩, .incoming)]⟩] 0 = .ok 0 ∧
      issuedRequests twoAgents ⟨1⟩ [⟨"topic", [(⟨1⟩, .outgoing), (⟨2⟩, .incoming)]⟩] =
        [(⟨2⟩, "topic")] ∧
      ¬ Outlives twoAgents ⟨1⟩ [⟨"topic", [(⟨1⟩, .outgoing), (⟨2⟩, .incoming)]⟩] 0 := by
  refine ⟨by decide, by rfl, by decide, ?_⟩
  rintro ⟨com, served, initialized, told, enough, -⟩
  obtain ⟨-, ⟨remote, started, counted⟩, -⟩ := initializeComPrimary_spec initialized
  obtain rfl := Option.some.inj (told.symm.trans started)
  cases counted
  exact absurd enough (by decide)

end Feo.Com
