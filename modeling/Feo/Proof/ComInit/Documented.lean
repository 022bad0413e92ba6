import Feo.Proof.ComInit.Requests

namespace Feo.Com

open Foundation

namespace Service

variable {service next : Service} {pending : AgentId → List TopicSecondaryInitialization}

/-- The service writes its response. -/
def Event.Written : Event → Prop
  | .acceptFailed => True
  | .request _ written => written = true

/-- The runtime maps exactly these topics. -/
def Maps (com : ComRuntime) (done : List TopicSecondaryInitialization) : Prop :=
  ∀ topic mapping, com.topics.get? topic = some mapping ↔
    ∃ params ∈ done, params.topic = topic ∧ mapping = ⟨params.isLocalWrite, true⟩

/-- Each secondary has initialized a part of its topics and waits for the others. -/
def Progressed (pending : AgentId → List TopicSecondaryInitialization) (service : Service) :
    Prop :=
  ∀ agent, ∃ com done rest, service.secondaries agent = .initializing com rest ∧
    pending agent = done ++ rest ∧ Maps com done

theorem Maps.insert {com : ComRuntime} {done : List TopicSecondaryInitialization}
    (maps : Maps com done) (params : TopicSecondaryInitialization)
    (new : params.topic ∉ com.topics.keys) :
    Maps { com with topics := com.topics.insert params.topic ⟨params.isLocalWrite, true⟩ }
      (done ++ [params]) := by
  have absent : ∀ other ∈ done, other.topic ≠ params.topic := by
    intro other member same
    have found := (maps params.topic _).mpr ⟨other, member, same, rfl⟩
    exact new ((com.topics.get?_eq_some_iff _ _).mp found).1
  intro topic mapping
  show (com.topics.insert params.topic _).get? topic = _ ↔ _
  rw [HashMap.get?_insert]
  split
  · next same =>
      constructor
      · intro equal
        exact ⟨params, by simp, same.symm, (Option.some.inj equal).symm⟩
      · rintro ⟨other, member, equal, rfl⟩
        rcases List.mem_append.mp member with early | last
        · exact absurd (equal.trans same) (absent other early)
        · rw [List.mem_singleton.mp last]
  · next different =>
      rw [maps]
      constructor
      · rintro ⟨other, member, equal, rfl⟩
        exact ⟨other, List.mem_append_left _ member, equal, rfl⟩
      · rintro ⟨other, member, equal, rfl⟩
        rcases List.mem_append.mp member with early | last
        · exact ⟨other, early, equal, rfl⟩
        · rw [List.mem_singleton.mp last] at equal
          exact absurd equal.symm different

theorem progressed_start (com : ComRuntime) (requestsToServe : Nat)
    (pending : AgentId → List TopicSecondaryInitialization) :
    (start com requestsToServe pending).Progressed pending := by
  intro agent
  refine ⟨.new, [], pending agent, rfl, rfl, ?_⟩
  intro topic mapping
  simp [ComRuntime.new, HashMap.get?_empty]

/-- A written response gets a secondary on by one topic. -/
theorem progressed_step {agents : List AgentId} {event : Event} (written : event.Written)
    (sufficient : service.Sufficient agents) (answerable : service.Answerable)
    (progressed : service.Progressed pending) (stepped : service.step event = some next) :
    next.Answerable ∧ next.Progressed pending := by
  cases event with
  | acceptFailed =>
      simp only [step, Option.ite_none_left_eq_some, Option.some.injEq] at stepped
      rw [← stepped.2]
      exact ⟨answerable, progressed⟩
  | request agent flag =>
      obtain rfl : flag = true := written
      obtain ⟨com, done, rest, found, split, maps⟩ := progressed agent
      cases rest with
      | nil => simp [step, found] at stepped
      | cons params rest =>
          have serving := sufficient.isOpen agent (by rw [found]; exact List.cons_ne_nil _ _)
          have moved := (step_served answerable found serving).symm.trans stepped
          cases moved
          refine ⟨served_answerable answerable found, ?_⟩
          intro other
          by_cases same : other = agent
          · subst same
            have new := ((answerable other com _ found).2 params List.mem_cons_self).1
            refine ⟨_, done ++ [params], rest, served_self, ?_, maps.insert params new⟩
            rw [split, List.append_assoc, List.singleton_append]
          · rw [served_of_ne same]
            exact progressed other

/-- With written responses the secondaries make progress in every run of a sufficient service. -/
theorem progressed_run {agents : List AgentId} (distinct : agents.Nodup)
    (sufficient : service.Sufficient agents) (answerable : service.Answerable)
    (progressed : service.Progressed pending) {history : List Event}
    (written : ∀ event ∈ history, event.Written)
    (reached : machine.run service history = some next) :
    next.Sufficient agents ∧ next.Answerable ∧ next.Progressed pending := by
  refine machine.run_induction (fun history next => (∀ event ∈ history, event.Written) →
    next.Sufficient agents ∧ next.Answerable ∧ next.Progressed pending)
    (fun _ => ⟨sufficient, answerable, progressed⟩) ?_ reached written
  intro history middle event last _ hypothesis stepped all
  obtain ⟨enough, known, partly⟩ :=
    hypothesis fun other member => all other (List.mem_append_left _ member)
  obtain ⟨answers, further⟩ := progressed_step (all event (by simp)) enough known partly stepped
  exact ⟨sufficient_step distinct enough stepped, answers, further⟩

end Service

variable {agentAssignments : AgentAssignments} {primary : AgentId}
  {topicSpecs : List TopicSpecification} {maxAdditionalReaders : UInt64} {com : ComRuntime}
  {served : Nat}

/-- The topics of the list that the activities of the agent use. -/
def usedSpecs (agentAssignments : AgentAssignments) (topicSpecs : List TopicSpecification)
    (agent : AgentId) : List TopicSpecification :=
  topicSpecs.filter fun spec => decide (0 < peersOn agentAssignments (spec, agent))

/-- A secondary initializes the topics that it uses. -/
def usedTopics (agentAssignments : AgentAssignments) (primary : AgentId)
    (topicSpecs : List TopicSpecification) (agent : AgentId) :
    List TopicSecondaryInitialization :=
  if agent ∈ secondaryAgents agentAssignments primary then
    initializeComSecondary (usedSpecs agentAssignments topicSpecs agent)
      (workerActivities (agentAssignments.value agent))
  else []

/-- A topic is used once at least for each of the agents that use it. -/
theorem sum_usedSpecs_le (agentAssignments : AgentAssignments)
    (topicSpecs : List TopicSpecification) (agents : List AgentId) :
    (agents.map fun agent => (usedSpecs agentAssignments topicSpecs agent).length).sum ≤
      ((topicSpecs ×ˢ agents).map (peersOn agentAssignments)).sum := by
  rw [sum_product]
  induction topicSpecs with
  | nil => simp [usedSpecs]
  | cons spec rest ih =>
      have first (agent : AgentId) : (usedSpecs agentAssignments (spec :: rest) agent).length ≤
          peersOn agentAssignments (spec, agent) +
            (usedSpecs agentAssignments rest agent).length := by
        unfold usedSpecs
        rw [List.filter_cons]
        split
        · next uses =>
            have positive := of_decide_eq_true uses
            rw [List.length_cons]
            omega
        · exact Nat.le_add_left _ _
      have each : (agents.map fun agent =>
          (usedSpecs agentAssignments (spec :: rest) agent).length).sum ≤
          (agents.map fun agent => peersOn agentAssignments (spec, agent) +
            (usedSpecs agentAssignments rest agent).length).sum :=
        List.sum_le_sum fun agent _ => first agent
      rw [List.sum_map_add] at each
      rw [List.map_cons, List.sum_cons]
      omega

/-- The service of an initialized primary is sufficient for the topics that are used. -/
theorem usedTopics_sufficient (exclusive : Exclusive agentAssignments)
    (counted : remoteRequests agentAssignments primary topicSpecs maxAdditionalReaders =
      .ok served) :
    (Service.start com served (usedTopics agentAssignments primary topicSpecs)).Sufficient
      (secondaryAgents agentAssignments primary) where
  confined := fun agent outside => if_neg outside
  enough := by
    obtain ⟨-, rfl⟩ := (remoteRequests_ok_iff served).mp counted
    have expected := peerRequests_remote agentAssignments primary topicSpecs exclusive
    have lengths : (secondaryAgents agentAssignments primary).map (fun agent =>
        (usedTopics agentAssignments primary topicSpecs agent).length) =
        (secondaryAgents agentAssignments primary).map fun agent =>
          (usedSpecs agentAssignments topicSpecs agent).length := by
      apply List.map_congr_left
      intro agent member
      rw [usedTopics, if_pos member, initializeComSecondary, List.length_map]
    have bound := sum_usedSpecs_le agentAssignments topicSpecs
      (secondaryAgents agentAssignments primary)
    rw [requestPairs] at expected
    show ((secondaryAgents agentAssignments primary).map fun agent =>
      (usedTopics agentAssignments primary topicSpecs agent).length).sum ≤
        peerRequests (remoteActivities agentAssignments primary) topicSpecs +
          topicSpecs.length * maxAdditionalReaders.toNat
    rw [lengths, expected]
    omega

theorem usedTopics_answerable
    (initialized : initializeComPrimary primary topicSpecs agentAssignments maxAdditionalReaders =
      .ok com) (served : Nat) :
    (Service.start com served (usedTopics agentAssignments primary topicSpecs)).Answerable := by
  obtain ⟨⟨-, distinct, -⟩, -, keys⟩ := initializeComPrimary_spec initialized
  intro agent own pending initializing
  cases initializing
  unfold usedTopics
  split
  · rw [initializeComSecondary, List.map_map]
    have part : (usedSpecs agentAssignments topicSpecs agent).Sublist topicSpecs :=
      List.filter_sublist
    apply And.intro (distinct.sublist (part.map TopicSpecification.topic))
    intro params inside
    obtain ⟨spec, member, rfl⟩ := List.mem_map.mp inside
    exact ⟨List.not_mem_nil, (keys spec.topic).mpr (List.mem_map_of_mem (part.subset member))⟩
  · exact ⟨List.nodup_nil, fun params inside => by cases inside⟩

/-- If the secondaries initialize the topics that their activities use, then each one maps its
topics in order, no one panics, and the service serves each request that is still pending. -/
theorem usedTopics_initialized (exclusive : Exclusive agentAssignments)
    (initialized : initializeComPrimary primary topicSpecs agentAssignments maxAdditionalReaders =
      .ok com) (told : com.thread = some served) {history : List Service.Event} {service : Service}
    (written : ∀ event ∈ history, event.Written)
    (reached : Service.machine.run
      (.start com served (usedTopics agentAssignments primary topicSpecs)) history = some service)
    (agent : AgentId) :
    ∃ own done rest, service.secondaries agent = .initializing own rest ∧
      usedTopics agentAssignments primary topicSpecs agent = done ++ rest ∧
      Service.Maps own done ∧
      ∀ params later, rest = params :: later → ∃ next further,
        service.step (.request agent true) = some next ∧
          next.secondaries agent = .initializing further later := by
  obtain ⟨-, ⟨remote, started, counted⟩, -⟩ := initializeComPrimary_spec initialized
  obtain rfl := Option.some.inj (told.symm.trans started)
  obtain ⟨sufficient, answerable, progressed⟩ := Service.progressed_run
    (secondaryAgents_nodup agentAssignments primary) (usedTopics_sufficient exclusive counted)
    (usedTopics_answerable initialized served) (Service.progressed_start com served _) written
    reached
  obtain ⟨own, done, rest, found, split, maps⟩ := progressed agent
  refine ⟨own, done, rest, found, split, maps, ?_⟩
  rintro params later rfl
  have serving := sufficient.isOpen agent (by rw [found]; exact List.cons_ne_nil _ _)
  exact ⟨_, _, Service.step_served answerable found serving, Service.served_self⟩

/-- A topic from the first agent to the second. -/
def readerTopics : List TopicSpecification := [⟨"topic", [(⟨1⟩, .outgoing), (⟨3⟩, .incoming)]⟩]

def readerCom : ComRuntime := ⟨HashMap.empty.insert "topic" ⟨true, true⟩, some 1⟩

theorem readerCom_initialized :
    initializeComPrimary ⟨1⟩ readerTopics twoAgents 0 = .ok readerCom := rfl

/-- The secondary maps the one topic that it reads. -/
theorem usedTopics_initialized_reader :
    ∃ service own done rest,
      Service.machine.run (.start readerCom 1 (usedTopics twoAgents ⟨1⟩ readerTopics))
        [.acceptFailed, .request ⟨2⟩ true] = some service ∧
      service.secondaries ⟨2⟩ = .initializing own rest ∧
      usedTopics twoAgents ⟨1⟩ readerTopics ⟨2⟩ = done ++ rest ∧ Service.Maps own done ∧
      ∀ params later, rest = params :: later → ∃ next further,
        service.step (.request ⟨2⟩ true) = some next ∧
          next.secondaries ⟨2⟩ = .initializing further later := by
  obtain ⟨service, reached⟩ : ∃ service, Service.machine.run
      (.start readerCom 1 (usedTopics twoAgents ⟨1⟩ readerTopics))
      [.acceptFailed, .request ⟨2⟩ true] = some service := ⟨_, rfl⟩
  have written : ∀ event ∈ [Service.Event.acceptFailed, .request ⟨2⟩ true], event.Written := by
    simp [Service.Event.Written]
  obtain ⟨own, done, rest, found, split, maps, serves⟩ := usedTopics_initialized (by decide)
    readerCom_initialized rfl written reached ⟨2⟩
  exact ⟨service, own, done, rest, reached, found, split, maps, serves⟩

end Feo.Com
