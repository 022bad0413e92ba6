import Feo.Construction.Relayed.Network
import Feo.Proof.System.Move

namespace Feo.Relayed.Setup

open Foundation

variable (setup : Setup)

/-- The primary reaches a local worker directly and a remote one through its agent. -/
def destination (worker : WorkerId) : Destination :=
  if setup.isLocal worker then .worker worker else .agent (setup.home worker)

variable {setup}

theorem isLocal_iff {worker : WorkerId} :
    setup.isLocal worker = true ↔
      worker ∈ setup.workerAgentMap.keys ∧ setup.home worker = setup.scheduler.agentId := by
  simp [isLocal, localWorkers, localWorkersOf, home]

theorem mem_remoteAgents_iff {agent : AgentId} :
    agent ∈ setup.remoteAgents ↔
      agent ≠ setup.scheduler.agentId ∧
        ∃ worker ∈ setup.workerAgentMap.keys, setup.home worker = agent := by
  rw [remoteAgents, remoteAgentsOf, Collected.mem_iff]
  simp [HashMap.values, home, and_comm]

/-- No worker of a remote agent is local. -/
theorem isLocal_of_remote {worker : WorkerId} {agent : AgentId}
    (remote : agent ∈ setup.remoteAgents) (home : setup.home worker = agent) :
    setup.isLocal worker = false := by
  rw [Bool.eq_false_iff]
  intro here
  exact (mem_remoteAgents_iff.mp remote).1 (home ▸ (isLocal_iff.mp here).2)

theorem secondaryMap_get? {agent : AgentId} {id : ActivityId} {worker : WorkerId} :
    (setup.secondaryMap agent).get? id = some worker ↔
      setup.activityWorkerMap.get? id = some worker ∧
        setup.workerAgentMap.get? worker = some agent := by
  simp only [HashMap.get?_eq_some_iff, secondaryMap, List.mem_filter, decide_eq_true_eq]
  constructor
  · rintro ⟨⟨known, there⟩, rfl⟩
    exact ⟨⟨known, rfl⟩, there⟩
  · rintro ⟨⟨known, rfl⟩, there⟩
    exact ⟨⟨known, there⟩, rfl⟩

theorem mem_secondaryWorkers_iff {agent : AgentId} {worker : WorkerId} :
    worker ∈ setup.secondaryWorkers agent ↔
      ∃ id, (setup.secondaryMap agent).get? id = some worker := by
  rw [secondaryWorkers, Collected.mem_iff, HashMap.values, List.mem_map]
  simp only [HashMap.get?_eq_some_iff]

theorem home_of_mem {agent : AgentId} {worker : WorkerId}
    (member : worker ∈ setup.secondaryWorkers agent) :
    worker ∈ setup.workerAgentMap.keys ∧ setup.home worker = agent := by
  obtain ⟨id, found⟩ := mem_secondaryWorkers_iff.mp member
  exact (HashMap.get?_eq_some_iff _ _ _).mp (secondaryMap_get?.mp found).2

/-- A hosted worker is local or one of the workers of its remote agent. -/
theorem hosts_iff {worker : WorkerId} :
    setup.hosts worker = true ↔ setup.isLocal worker = true ∨
      setup.home worker ∈ setup.remoteAgents ∧
        worker ∈ setup.secondaryWorkers (setup.home worker) := by
  simp [hosts]

theorem hosts_of_mem {agent : AgentId} {worker : WorkerId}
    (remote : agent ∈ setup.remoteAgents) (member : worker ∈ setup.secondaryWorkers agent) :
    setup.hosts worker = true := by
  obtain ⟨_, rfl⟩ := home_of_mem member
  exact hosts_iff.mpr (.inr ⟨remote, member⟩)

theorem destination_of_local {worker : WorkerId} (here : setup.isLocal worker = true) :
    setup.destination worker = .worker worker := if_pos here

theorem destination_of_remote {worker : WorkerId} (there : setup.isLocal worker = false) :
    setup.destination worker = .agent (setup.home worker) :=
  if_neg (by rw [there]; decide)

/-- Only a local worker has a queue of its own at the primary. -/
theorem destination_eq_worker_iff {worker other : WorkerId} :
    setup.destination other = .worker worker ↔ setup.isLocal worker = true ∧ other = worker := by
  cases here : setup.isLocal other with
  | true =>
      rw [destination_of_local here, Destination.worker.injEq]
      constructor
      · rintro rfl
        exact ⟨here, rfl⟩
      · exact And.right
  | false =>
      rw [destination_of_remote here]
      constructor
      · exact nofun
      · rintro ⟨local?, rfl⟩
        rw [here] at local?
        cases local?

theorem mem_localWorkers_iff {worker : WorkerId} :
    worker ∈ setup.connector.localWorkers.items ↔ setup.isLocal worker = true := by
  rw [isLocal, decide_eq_true_eq]
  rfl

/-- The connector finds the destination of the worker of the activity. -/
theorem sendToActivity_ok {id : ActivityId} {target : Destination}
    (route : setup.connector.sendToActivity id = .ok target) :
    ∃ worker, setup.activityWorkerMap.get? id = some worker ∧ setup.hosts worker = true ∧
      target = setup.destination worker := by
  unfold SchedulerConnector.sendToActivity at route
  split at route
  · next worker found =>
      refine ⟨worker, found, ?_⟩
      unfold SchedulerConnector.sendToWorker at route
      split at route
      · next here =>
          cases route
          have here := mem_localWorkers_iff.mp here
          exact ⟨hosts_iff.mpr (.inl here), by rw [destination, if_pos here]⟩
      · next there =>
          rw [mem_localWorkers_iff] at there
          split at route
          · next agent located =>
              obtain ⟨known, home⟩ := (HashMap.get?_eq_some_iff _ _ _).mp located
              have away : agent ≠ setup.scheduler.agentId := fun same =>
                there (isLocal_iff.mpr ⟨known, home.trans same⟩)
              have remote : agent ∈ setup.remoteAgents :=
                mem_remoteAgents_iff.mpr ⟨away, worker, known, home⟩
              have member : worker ∈ setup.secondaryWorkers agent :=
                mem_secondaryWorkers_iff.mpr ⟨id, secondaryMap_get?.mpr ⟨found, located⟩⟩
              refine ⟨hosts_of_mem remote member, ?_⟩
              rw [destination, if_neg there, show setup.home worker = agent from home]
              unfold SchedulerConnector.sendToAgent at route
              split at route <;> cases route
              rfl
          · cases route
  · cases route

/-- The connector finds the destination of each hosted worker. -/
theorem sendToActivity_error {id : ActivityId} {error : Error} {worker : WorkerId}
    (route : setup.connector.sendToActivity id = .error error)
    (found : setup.activityWorkerMap.get? id = some worker) : setup.hosts worker = false := by
  rw [Bool.eq_false_iff]
  intro hosted
  have known : setup.connector.activityWorkerMap.get? id = some worker := found
  rw [SchedulerConnector.sendToActivity, known] at route
  dsimp only at route
  rw [SchedulerConnector.sendToWorker] at route
  split at route
  · cases route
  · next there =>
      have away : ¬ setup.isLocal worker = true := fun here =>
        there (mem_localWorkers_iff.mpr here)
      obtain ⟨remote, member⟩ := (hosts_iff.mp hosted).resolve_left away
      have located : setup.connector.workerAgentMap.get? worker = some (setup.home worker) :=
        (HashMap.get?_eq_some_iff _ _ _).mpr ⟨(home_of_mem member).1, rfl⟩
      rw [located] at route
      have relay : setup.connector.ipcSendRelay ≠ none := by
        have filled : setup.remoteAgents ≠ [] := List.ne_nil_of_mem remote
        simpa [connector, SchedulerConnector.new, remoteAgents] using filled
      obtain ⟨relay, present⟩ := Option.ne_none_iff_exists'.mp relay
      dsimp only at route
      rw [SchedulerConnector.sendToAgent, present] at route
      cases route

end Feo.Relayed.Setup
