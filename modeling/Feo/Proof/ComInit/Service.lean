import Feo.Construction.ComInit
import Feo.Foundation.Counting
import Mathlib.Algebra.Order.BigOperators.Group.List
import Mathlib.Algebra.Order.Group.Nat

namespace Feo.Com

open Foundation

/-- The topics that a secondary has left to request end with its panic. -/
def Secondary.pending : Secondary → List TopicSecondaryInitialization
  | initializing _ pending => pending
  | panicked _ => []

@[simp] theorem Secondary.pending_initializing (com : ComRuntime)
    (pending : List TopicSecondaryInitialization) :
    (Secondary.initializing com pending).pending = pending := rfl

/-- A runtime registers exactly the topics that are new to it. -/
theorem register_ok_iff (com : ComRuntime) (topic : String) (mapping : TopicMapping)
    (next : ComRuntime) :
    com.register topic mapping = .ok next ↔
      topic ∉ com.topics.keys ∧ next = { com with topics := com.topics.insert topic mapping } := by
  unfold ComRuntime.register
  by_cases present : topic ∈ com.topics.keys
  · simp [present]
  · rw [if_neg (by simpa using present), Except.ok.injEq, eq_comm]
    exact (and_iff_right present).symm

namespace Service

variable {agents : List AgentId} {service next : Service}

/-- The listener is open for each secondary that has a topic to request. -/
def Open (service : Service) : Prop :=
  ∀ agent, (service.secondaries agent).pending ≠ [] → 0 < service.requestsToServe

def pendingRequests (agents : List AgentId) (service : Service) : Nat :=
  (agents.map fun agent => (service.secondaries agent).pending.length).sum

/-- The service serves at least the pending requests of these agents, and the others have none. -/
structure Sufficient (agents : List AgentId) (service : Service) : Prop where
  confined : ∀ agent, agent ∉ agents → (service.secondaries agent).pending = []
  enough : service.pendingRequests agents ≤ service.requestsToServe

/-- A request takes its topic away, and it uses up one request at most. -/
theorem request_spec (agent : AgentId) (com : ComRuntime)
    (params : TopicSecondaryInitialization) (rest : List TopicSecondaryInitialization)
    (written : Bool) :
    ∃ secondary, (service.request agent com params rest written).secondaries =
        Function.update service.secondaries agent secondary ∧
      secondary.pending.length ≤ rest.length ∧
      service.requestsToServe ≤
        (service.request agent com params rest written).requestsToServe + 1 := by
  unfold request
  split
  · exact ⟨_, rfl, Nat.zero_le _, Nat.le_succ _⟩
  · generalize service.com.serveConnection params.topic written = answer
    obtain ⟨response, served⟩ := answer
    apply Exists.intro
    apply And.intro rfl
    apply And.intro
    · cases com.initTopicSecondary params response with
      | ok next => exact Nat.le_refl _
      | error message => exact Nat.zero_le _
    · cases served
      · exact Nat.le_succ _
      · simp only [if_true]
        omega

/-- A step leaves the service as it is, or one secondary gets fewer topics to request. -/
theorem step_spec {event : Event} (stepped : service.step event = some next) :
    next = service ∨ ∃ agent secondary,
      next.secondaries = Function.update service.secondaries agent secondary ∧
      secondary.pending.length < (service.secondaries agent).pending.length ∧
      service.requestsToServe ≤ next.requestsToServe + 1 := by
  cases event with
  | acceptFailed =>
      simp only [step, Option.ite_none_left_eq_some, Option.some.injEq] at stepped
      exact Or.inl stepped.2.symm
  | request agent written =>
      simp only [step] at stepped
      split at stepped
      · next com params rest found =>
          cases stepped
          obtain ⟨secondary, changed, fewer, counted⟩ :=
            service.request_spec agent com params rest written
          refine Or.inr ⟨agent, secondary, changed, ?_, counted⟩
          rw [found]
          exact Nat.lt_succ_of_le fewer
      · cases stepped

theorem sufficient_step (distinct : agents.Nodup) {event : Event}
    (sufficient : service.Sufficient agents) (stepped : service.step event = some next) :
    next.Sufficient agents := by
  rcases step_spec stepped with rfl | ⟨agent, secondary, changed, fewer, counted⟩
  · exact sufficient
  · have member : agent ∈ agents := by
      by_contra outside
      rw [sufficient.confined agent outside] at fewer
      exact Nat.not_lt_zero _ fewer
    have frame : ∀ other, other ≠ agent →
        next.secondaries other = service.secondaries other := by
      intro other different
      rw [changed, Function.update_of_ne different]
    constructor
    · intro other outside
      rw [frame other fun same => outside (same ▸ member)]
      exact sufficient.confined other outside
    · have balance := sum_change (fun agent => (service.secondaries agent).pending.length)
        (fun agent => (next.secondaries agent).pending.length) distinct member
        fun other different => by rw [frame other different]
      have enough := sufficient.enough
      rw [changed, Function.update_self] at balance
      unfold pendingRequests at enough ⊢
      rw [changed]
      omega

/-- A sufficient service is open for every secondary that has a topic to request. -/
theorem Sufficient.isOpen (sufficient : service.Sufficient agents) : service.Open := by
  intro agent waiting
  have member : agent ∈ agents := by
    by_contra outside
    exact waiting (sufficient.confined agent outside)
  have single : (service.secondaries agent).pending.length ≤ service.pendingRequests agents :=
    List.single_le_sum (fun _ _ => Nat.zero_le _) _ (List.mem_map_of_mem member)
  have positive := List.length_pos_iff.mpr waiting
  have enough := sufficient.enough
  omega

/-- The listener of a sufficient service stays open in every run. -/
theorem sufficient_run (distinct : agents.Nodup) (sufficient : service.Sufficient agents)
    {history : List Event} (reached : machine.run service history = some next) : next.Open :=
  (machine.run_preserves (Sufficient agents)
    (fun _ _ _ holds stepped => sufficient_step distinct holds stepped)
    sufficient reached).isOpen

/-- The service knows the pending topics of each secondary, and they are new to the secondary. -/
def Answerable (service : Service) : Prop :=
  ∀ agent com pending, service.secondaries agent = .initializing com pending →
    (pending.map TopicSecondaryInitialization.topic).Nodup ∧
      ∀ params ∈ pending, params.topic ∉ com.topics.keys ∧
        params.topic ∈ service.com.topics.keys

section Served

variable {agent : AgentId} {com : ComRuntime} {params : TopicSecondaryInitialization}
  {rest : List TopicSecondaryInitialization}

/-- A served request registers the topic in the runtime of the secondary. -/
def served (service : Service) (agent : AgentId) (com : ComRuntime)
    (params : TopicSecondaryInitialization) (rest : List TopicSecondaryInitialization) : Service :=
  { service with
    requestsToServe := service.requestsToServe - 1
    secondaries := Function.update service.secondaries agent
      (.initializing
        { com with topics := com.topics.insert params.topic ⟨params.isLocalWrite, true⟩ } rest) }

/-- An open service that writes its response serves the request for a known and new topic. -/
theorem request_served (serving : 0 < service.requestsToServe)
    (new : params.topic ∉ com.topics.keys) (known : params.topic ∈ service.com.topics.keys) :
    service.request agent com params rest true = service.served agent com params rest := by
  have found := (service.com.topics.get?_eq_some_iff params.topic _).mpr ⟨known, rfl⟩
  have answered : service.com.serveConnection params.topic true = (.ok, true) := by
    simp only [ComRuntime.serveConnection, found]
  have registered : com.initTopicSecondary params .ok = .ok _ :=
    (register_ok_iff com params.topic ⟨params.isLocalWrite, true⟩ _).mpr ⟨new, rfl⟩
  rw [request, if_neg (by omega), answered]
  simp only [registered, if_true, served]

@[simp] theorem served_self : (service.served agent com params rest).secondaries agent =
    .initializing
      { com with topics := com.topics.insert params.topic ⟨params.isLocalWrite, true⟩ } rest :=
  Function.update_self _ _ _

theorem served_of_ne {other : AgentId} (different : other ≠ agent) :
    (service.served agent com params rest).secondaries other = service.secondaries other :=
  Function.update_of_ne different _ _

theorem served_answerable (answerable : service.Answerable)
    (found : service.secondaries agent = .initializing com (params :: rest)) :
    (service.served agent com params rest).Answerable := by
  obtain ⟨distinct, topics⟩ := answerable agent com (params :: rest) found
  obtain ⟨single, distinct⟩ := List.nodup_cons.mp distinct
  intro other otherCom pending initializing
  by_cases same : other = agent
  · subst same
    rw [served_self] at initializing
    cases initializing
    apply And.intro distinct
    intro later inside
    obtain ⟨new, known⟩ := topics later (List.mem_cons_of_mem _ inside)
    refine ⟨?_, known⟩
    rw [HashMap.mem_insert_keys]
    rintro (equal | present)
    · exact single (equal ▸ List.mem_map_of_mem inside)
    · exact new present
  · rw [served_of_ne same] at initializing
    exact answerable other otherCom pending initializing

/-- The secondary may make its next request, and the service serves it. -/
theorem step_served (answerable : service.Answerable)
    (found : service.secondaries agent = .initializing com (params :: rest))
    (serving : 0 < service.requestsToServe) :
    machine.step service (.request agent true) =
      some (service.served agent com params rest) := by
  obtain ⟨new, known⟩ := (answerable agent com (params :: rest) found).2 params List.mem_cons_self
  show service.step (.request agent true) = _
  rw [← request_served serving new known, step, found]

theorem served_pendingRequests (distinct : agents.Nodup) (member : agent ∈ agents)
    (found : service.secondaries agent = .initializing com (params :: rest)) :
    (service.served agent com params rest).pendingRequests agents + 1 =
      service.pendingRequests agents := by
  have balance := sum_change (fun other => (service.secondaries other).pending.length)
    (fun other => ((service.served agent com params rest).secondaries other).pending.length)
    distinct member fun other different => by rw [served_of_ne different]
  rw [found, served_self] at balance
  rw [Secondary.pending_initializing, Secondary.pending_initializing, List.length_cons] at balance
  unfold pendingRequests
  omega

end Served

/-- Some secondary has a topic to request if any request is pending. -/
theorem exists_pending (positive : 0 < service.pendingRequests agents) :
    ∃ agent ∈ agents, ∃ com params rest,
      service.secondaries agent = .initializing com (params :: rest) := by
  obtain ⟨count, listed, positive⟩ := List.sum_pos_iff_exists_pos_nat.mp positive
  obtain ⟨agent, member, rfl⟩ := List.mem_map.mp listed
  refine ⟨agent, member, ?_⟩
  cases found : service.secondaries agent with
  | panicked message =>
      rw [found] at positive
      exact absurd positive (Nat.lt_irrefl 0)
  | initializing com pending =>
      cases pending with
      | nil =>
          rw [found] at positive
          exact absurd positive (Nat.lt_irrefl 0)
      | cons params rest => exact ⟨com, params, rest, rfl⟩

/-- A service with fewer requests to serve than pending ones closes its listener too early. -/
theorem closes_early (distinct : agents.Nodup) (answerable : service.Answerable)
    (short : service.requestsToServe < service.pendingRequests agents) :
    ∃ history next, machine.run service history = some next ∧ ¬ next.Open := by
  induction requests : service.requestsToServe generalizing service with
  | zero =>
      obtain ⟨agent, -, com, params, rest, found⟩ := exists_pending (Nat.zero_lt_of_lt short)
      refine ⟨[], service, rfl, ?_⟩
      intro isOpen
      have serving := isOpen agent (by rw [found]; exact List.cons_ne_nil _ _)
      omega
  | succ count hypothesis =>
      obtain ⟨agent, member, com, params, rest, found⟩ := exists_pending (Nat.zero_lt_of_lt short)
      have stepped := step_served answerable found (by omega)
      have fewer := served_pendingRequests distinct member found
      have left : (service.served agent com params rest).requestsToServe = count := by
        show service.requestsToServe - 1 = count
        omega
      obtain ⟨history, next, reached, closed⟩ :=
        hypothesis (served_answerable answerable found) (by omega) left
      refine ⟨.request agent true :: history, next, ?_, closed⟩
      rw [Machine.run_cons, stepped]
      exact reached

/-- The listener stays open in every run exactly when no more requests are pending than the
service serves. -/
theorem outlives_iff (distinct : agents.Nodup) (answerable : service.Answerable)
    (confined : ∀ agent, agent ∉ agents → (service.secondaries agent).pending = []) :
    (∀ history next, machine.run service history = some next → next.Open) ↔
      service.pendingRequests agents ≤ service.requestsToServe := by
  constructor
  · intro outlives
    by_contra short
    obtain ⟨history, next, reached, closed⟩ :=
      closes_early distinct answerable (Nat.lt_of_not_le short)
    exact closed (outlives history next reached)
  · intro enough history next reached
    exact sufficient_run distinct ⟨confined, enough⟩ reached

end Service

end Feo.Com
