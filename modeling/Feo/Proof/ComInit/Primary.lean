import Feo.Proof.ComInit.Service

namespace Feo.Com

open Foundation

variable {agentAssignments : AgentAssignments} {agentId : AgentId} {com final : ComRuntime}
  {topicSpecs : List TopicSpecification} {maxAdditionalReaders : UInt64}

theorem localActivities_of_mem (member : agentId ∈ agentAssignments.keys) :
    localActivities agentAssignments agentId =
      .ok (workerActivities (agentAssignments.value agentId)) := by
  rw [localActivities, (agentAssignments.get?_eq_some_iff agentId _).mpr ⟨member, rfl⟩]

theorem mem_of_localActivities {activities : HashSet ActivityId}
    (found : localActivities agentAssignments agentId = .ok activities) :
    agentId ∈ agentAssignments.keys := by
  unfold localActivities at found
  split at found
  · next workers listed =>
      exact ((agentAssignments.get?_eq_some_iff agentId workers).mp listed).1
  · cases found

theorem isLocalWrite_of_mem (member : agentId ∈ agentAssignments.keys)
    (spec : TopicSpecification) :
    isLocalWrite agentAssignments agentId spec =
      .ok (isWrite (workerActivities (agentAssignments.value agentId)) spec) := by
  rw [isLocalWrite, localActivities_of_mem member]
  rfl

theorem usizeAdd_ok_iff (first second total : Nat) :
    usizeAdd first second = .ok total ↔ first + second < 2 ^ 64 ∧ total = first + second := by
  unfold usizeAdd
  split
  · next fits =>
      rw [Except.ok.injEq, eq_comm]
      exact (and_iff_right fits).symm
  · next exceeds => simp only [reduceCtorEq, exceeds, false_and]

theorem usizeMul_ok_iff (first second total : Nat) :
    usizeMul first second = .ok total ↔ first * second < 2 ^ 64 ∧ total = first * second := by
  unfold usizeMul
  split
  · next fits =>
      rw [Except.ok.injEq, eq_comm]
      exact (and_iff_right fits).symm
  · next exceeds => simp only [reduceCtorEq, exceeds, false_and]

/-- The service is told the number of the remote peers and the additional readers. -/
theorem remoteRequests_ok_iff (served : Nat) :
    remoteRequests agentAssignments agentId topicSpecs maxAdditionalReaders = .ok served ↔
      served < 2 ^ 64 ∧
        served = peerRequests (remoteActivities agentAssignments agentId) topicSpecs +
          topicSpecs.length * maxAdditionalReaders.toNat := by
  constructor
  · intro counted
    obtain ⟨additional, multiplied, added⟩ := bind_ok counted
    obtain ⟨-, rfl⟩ := (usizeMul_ok_iff _ _ _).mp multiplied
    obtain ⟨fits, rfl⟩ := (usizeAdd_ok_iff _ _ _).mp added
    exact ⟨fits, rfl⟩
  · rintro ⟨fits, rfl⟩
    have multiplied := (usizeMul_ok_iff topicSpecs.length maxAdditionalReaders.toNat _).mpr
      ⟨by omega, rfl⟩
    rw [remoteRequests, multiplied]
    exact (usizeAdd_ok_iff _ _ _).mpr ⟨fits, rfl⟩

/-- The readers of a topic and the additional ones fit into a counter. -/
def ReadersFit (maxAdditionalReaders : UInt64) (spec : TopicSpecification) : Prop :=
  (spec.peers.countP fun peer => decide (peer.2 = .incoming)) + maxAdditionalReaders.toNat <
    2 ^ 64

instance (maxAdditionalReaders : UInt64) (spec : TopicSpecification) :
    Decidable (ReadersFit maxAdditionalReaders spec) := inferInstanceAs (Decidable (_ < _))

/-- The primary maps the topics of its peers, and it writes those of its own writers. -/
def primaryMapping (agentAssignments : AgentAssignments) (agentId : AgentId)
    (activities : HashSet ActivityId) (spec : TopicSpecification) : TopicMapping where
  writable := isWrite (workerActivities (agentAssignments.value agentId)) spec
  mapped := spec.peers.any fun peer => decide (peer.1 ∈ activities.items)

theorem primaryInitialization_ok_iff (member : agentId ∈ agentAssignments.keys)
    (activities : HashSet ActivityId) (spec : TopicSpecification)
    (params : TopicPrimaryInitialization) :
    primaryInitialization agentAssignments agentId activities maxAdditionalReaders spec =
        .ok params ↔
      ReadersFit maxAdditionalReaders spec ∧
        params = ⟨spec.topic,
          (spec.peers.countP fun peer => decide (peer.2 = .incoming)) + maxAdditionalReaders.toNat,
          spec.peers.countP fun peer => decide (peer.2 = .outgoing),
          (primaryMapping agentAssignments agentId activities spec).mapped,
          (primaryMapping agentAssignments agentId activities spec).writable⟩ := by
  unfold primaryInitialization
  rw [isLocalWrite_of_mem member]
  constructor
  · intro initialized
    obtain ⟨readers, added, returned⟩ := bind_ok initialized
    obtain ⟨fits, rfl⟩ := (usizeAdd_ok_iff _ _ _).mp added
    exact ⟨fits, (Except.ok.inj returned).symm⟩
  · rintro ⟨fits, rfl⟩
    rw [(usizeAdd_ok_iff _ _ _).mpr ⟨fits, rfl⟩]
    rfl

/-- The primary initializes a topic exactly when the readers fit and the topic is new. -/
theorem initTopics_cons_iff (member : agentId ∈ agentAssignments.keys)
    (activities : HashSet ActivityId) (spec : TopicSpecification) :
    initTopics agentAssignments agentId activities maxAdditionalReaders (spec :: topicSpecs) com =
        .ok final ↔
      ReadersFit maxAdditionalReaders spec ∧ spec.topic ∉ com.topics.keys ∧
        initTopics agentAssignments agentId activities maxAdditionalReaders topicSpecs
          { com with
            topics := com.topics.insert spec.topic
              (primaryMapping agentAssignments agentId activities spec) } = .ok final := by
  rw [initTopics]
  constructor
  · intro initialized
    obtain ⟨params, computed, continued⟩ := bind_ok initialized
    obtain ⟨fits, rfl⟩ := (primaryInitialization_ok_iff member activities spec params).mp computed
    obtain ⟨next, registered, remaining⟩ := bind_ok continued
    obtain ⟨new, rfl⟩ := (register_ok_iff _ _ _ _).mp registered
    exact ⟨fits, new, remaining⟩
  · rintro ⟨fits, new, remaining⟩
    rw [(primaryInitialization_ok_iff member activities spec _).mpr ⟨fits, rfl⟩]
    show (com.register spec.topic _ >>= _) = _
    rw [(register_ok_iff _ _ _ _).mpr ⟨new, rfl⟩]
    exact remaining

/-- The initialization succeeds exactly when the readers fit and the topics are new and distinct. -/
theorem initTopics_ok_iff (member : agentId ∈ agentAssignments.keys)
    (activities : HashSet ActivityId) (com : ComRuntime) :
    (∃ final, initTopics agentAssignments agentId activities maxAdditionalReaders topicSpecs com =
        .ok final) ↔
      (∀ spec ∈ topicSpecs, ReadersFit maxAdditionalReaders spec) ∧
        (topicSpecs.map TopicSpecification.topic).Nodup ∧
        ∀ spec ∈ topicSpecs, spec.topic ∉ com.topics.keys := by
  induction topicSpecs generalizing com with
  | nil => simp [initTopics]
  | cons spec rest hypothesis =>
      simp only [initTopics_cons_iff member, exists_and_left, hypothesis, HashMap.mem_insert_keys,
        List.forall_mem_cons, List.map_cons, List.nodup_cons, List.mem_map]
      constructor
      · rintro ⟨fits, new, remaining, distinct, others⟩
        refine ⟨⟨fits, remaining⟩, ⟨?_, distinct⟩, new, ?_⟩
        · rintro ⟨other, member, same⟩
          exact others other member (Or.inl same)
        · intro other member present
          exact others other member (Or.inr present)
      · rintro ⟨⟨fits, remaining⟩, ⟨single, distinct⟩, new, others⟩
        refine ⟨fits, new, remaining, distinct, ?_⟩
        rintro other member (same | present)
        · exact single ⟨other, member, same⟩
        · exact others other member present

/-- The topics of the runtime are those of the specifications and those it had before. -/
theorem initTopics_keys (member : agentId ∈ agentAssignments.keys)
    (activities : HashSet ActivityId)
    (initialized : initTopics agentAssignments agentId activities maxAdditionalReaders topicSpecs
      com = .ok final) (topic : String) :
    topic ∈ final.topics.keys ↔
      topic ∈ com.topics.keys ∨ topic ∈ topicSpecs.map TopicSpecification.topic := by
  induction topicSpecs generalizing com with
  | nil =>
      cases initialized
      simp
  | cons spec rest hypothesis =>
      obtain ⟨-, -, remaining⟩ := (initTopics_cons_iff member activities spec).mp initialized
      rw [hypothesis remaining, HashMap.mem_insert_keys, List.map_cons, List.mem_cons]
      tauto

/-- An initialized primary has registered its topics and started its service. -/
theorem initializeComPrimary_spec
    (initialized : initializeComPrimary agentId topicSpecs agentAssignments maxAdditionalReaders =
      .ok com) :
    (agentId ∈ agentAssignments.keys ∧ (topicSpecs.map TopicSpecification.topic).Nodup ∧
      ∀ spec ∈ topicSpecs, ReadersFit maxAdditionalReaders spec) ∧
    (∃ served, com.thread = some served ∧
      remoteRequests agentAssignments agentId topicSpecs maxAdditionalReaders = .ok served) ∧
    ∀ topic, topic ∈ com.topics.keys ↔ topic ∈ topicSpecs.map TopicSpecification.topic := by
  obtain ⟨locals, -, initialized⟩ := bind_ok initialized
  obtain ⟨served, counted, initialized⟩ := bind_ok initialized
  obtain ⟨activities, found, initialized⟩ := bind_ok initialized
  obtain ⟨topics, registered, returned⟩ := bind_ok initialized
  cases returned
  have member := mem_of_localActivities found
  obtain ⟨fits, distinct, -⟩ := (initTopics_ok_iff member activities _).mp ⟨topics, registered⟩
  refine ⟨⟨member, distinct, fits⟩, ⟨served, rfl, counted⟩, ?_⟩
  intro topic
  show topic ∈ topics.topics.keys ↔ _
  rw [initTopics_keys member activities registered, ComRuntime.new, HashMap.empty]
  exact or_iff_right List.not_mem_nil

/-- The primary tells its service the number of remote requests. -/
theorem initializeComPrimary_ok {served : Nat} (member : agentId ∈ agentAssignments.keys)
    (distinct : (topicSpecs.map TopicSpecification.topic).Nodup)
    (fits : ∀ spec ∈ topicSpecs, ReadersFit maxAdditionalReaders spec)
    (counted : remoteRequests agentAssignments agentId topicSpecs maxAdditionalReaders =
      .ok served) :
    ∃ com, initializeComPrimary agentId topicSpecs agentAssignments maxAdditionalReaders =
      .ok com ∧ com.thread = some served := by
  obtain ⟨topics, registered⟩ := (initTopics_ok_iff member
    (workerActivities (agentAssignments.value agentId)) .new).mpr
      ⟨fits, distinct, fun _ _ present => by cases present⟩
  refine ⟨topics.runService served, ?_, rfl⟩
  rw [initializeComPrimary, localRequests, localActivities_of_mem member, counted]
  show (initTopics _ _ _ _ _ _ >>= _) = _
  rw [registered]
  rfl

end Feo.Com
