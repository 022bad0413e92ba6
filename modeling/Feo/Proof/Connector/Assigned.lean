import Feo.Construction.Connector.Handshake
import Feo.Foundation.Partition
import Feo.Proof.Connector.Agents

namespace Feo.MwCom

open Foundation

/-- Agents, workers and activities are assigned once. -/
structure AssignedOnce (agentAssignments : List (AgentId × List WorkerWithActivities)) :
    Prop where
  agents : (agentAssignments.map Prod.fst).Nodup
  workers : ((agentAssignments.flatMap Prod.snd).map Prod.fst).Nodup
  activities : ((agentAssignments.flatMap Prod.snd).flatMap Prod.snd).Nodup

/-- The agent configures the worker with its activities. -/
def Hosts (agentAssignments : List (AgentId × List WorkerWithActivities)) (agent : AgentId)
    (worker : WorkerWithActivities) : Prop :=
  ∃ workers, (agent, workers) ∈ agentAssignments ∧ worker ∈ workers

variable {agentAssignments : List (AgentId × List WorkerWithActivities)} {agent : AgentId}
  {worker : WorkerWithActivities}

theorem Hosts.assigned (hosts : Hosts agentAssignments agent worker) :
    worker ∈ agentAssignments.flatMap Prod.snd := by
  obtain ⟨workers, entry, member⟩ := hosts
  exact List.mem_flatMap.mpr ⟨(agent, workers), entry, member⟩

theorem Hosts.agent_mem (hosts : Hosts agentAssignments agent worker) :
    agent ∈ agentAssignments.map Prod.fst := by
  obtain ⟨workers, entry, -⟩ := hosts
  exact List.mem_map_of_mem entry

theorem hosts_of_assigned (assigned : worker ∈ agentAssignments.flatMap Prod.snd) :
    ∃ agent, Hosts agentAssignments agent worker := by
  obtain ⟨⟨agent, workers⟩, entry, member⟩ := List.mem_flatMap.mp assigned
  exact ⟨agent, workers, entry, member⟩

namespace AssignedOnce

/-- The number of a worker names one entry. -/
theorem eq_of_id (once : AssignedOnce agentAssignments) {other : WorkerWithActivities}
    (first : worker ∈ agentAssignments.flatMap Prod.snd)
    (second : other ∈ agentAssignments.flatMap Prod.snd) (same : worker.1 = other.1) :
    worker = other :=
  List.inj_on_of_nodup_map once.workers first second same

/-- Different workers have different activities. -/
theorem eq_of_activity (once : AssignedOnce agentAssignments) {other : WorkerWithActivities}
    (first : worker ∈ agentAssignments.flatMap Prod.snd)
    (second : other ∈ agentAssignments.flatMap Prod.snd) {id : ActivityId}
    (own : id ∈ worker.2) (shared : id ∈ other.2) : worker = other :=
  eq_of_shared_part once.activities first second own shared

theorem own_nodup (once : AssignedOnce agentAssignments)
    (assigned : worker ∈ agentAssignments.flatMap Prod.snd) : worker.2.Nodup :=
  (List.nodup_flatMap.mp once.activities).1 worker assigned

/-- A worker starts with the activities of its entry. -/
theorem starting_eq (once : AssignedOnce agentAssignments)
    (assigned : worker ∈ agentAssignments.flatMap Prod.snd) :
    starting agentAssignments worker.1 = .creating worker.2 := by
  have numbers := once.workers
  rw [List.map_eq_flatMap] at numbers
  have found := find?_part numbers assigned (List.mem_singleton_self worker.1)
  simp only [List.mem_singleton, eq_comm (a := worker.1)] at found
  rw [starting, found]

/-- A worker runs in one agent. -/
theorem agentOf_eq (once : AssignedOnce agentAssignments)
    (hosts : Hosts agentAssignments agent worker) :
    agentOf agentAssignments worker.1 = some agent := by
  obtain ⟨workers, entry, member⟩ := hosts
  have numbers := once.workers
  rw [List.map_flatMap] at numbers
  rw [agentOf, find?_part numbers entry (List.mem_map_of_mem member)]
  rfl

end AssignedOnce

/-- Each of the activities is inserted with the same worker. -/
theorem get?_insertActivities (ids : List ActivityId) (map : HashMap ActivityId WorkerId)
    (number : WorkerId) (id : ActivityId) :
    (ids.foldl (fun map id => map.insert id number) map).get? id =
      if id ∈ ids then some number else map.get? id := by
  induction ids generalizing map with
  | nil => simp
  | cons first rest ih =>
      rw [List.foldl_cons, ih, HashMap.get?_insert]
      by_cases inside : id ∈ rest <;> simp [inside]

/-- The workers insert only their own activities. -/
theorem get?_insertWorkers_of_notMem {workers : List WorkerWithActivities} {id : ActivityId}
    (absent : id ∉ workers.flatMap Prod.snd) (connector : SchedulerConnector) :
    (workers.foldl SchedulerConnector.insertWorker connector).activitiesWorkers.get? id =
      connector.activitiesWorkers.get? id := by
  induction workers generalizing connector with
  | nil => rfl
  | cons first rest ih =>
      rw [List.flatMap_cons, List.mem_append, not_or] at absent
      rw [List.foldl_cons, ih absent.2, SchedulerConnector.insertWorker]
      simp only [get?_insertActivities, if_neg absent.1]

/-- The activity is found with its worker. -/
theorem get?_insertWorkers {workers : List WorkerWithActivities} {id : ActivityId}
    (distinct : (workers.flatMap Prod.snd).Nodup) (member : worker ∈ workers)
    (own : id ∈ worker.2) (connector : SchedulerConnector) :
    (workers.foldl SchedulerConnector.insertWorker connector).activitiesWorkers.get? id =
      some worker.1 := by
  induction workers generalizing connector with
  | nil => cases member
  | cons first rest ih =>
      rw [List.flatMap_cons] at distinct
      obtain ⟨-, others, disjoint⟩ := List.nodup_append'.mp distinct
      rw [List.foldl_cons]
      rcases List.mem_cons.mp member with rfl | later
      · rw [get?_insertWorkers_of_notMem (disjoint own), SchedulerConnector.insertWorker]
        simp only [get?_insertActivities, if_pos own]
      · exact ih others later _

/-- The hello of an activity is confirmed to the worker that has it. -/
theorem AssignedOnce.acquire_eq (once : AssignedOnce agentAssignments)
    (hosts : Hosts agentAssignments agent worker) {id : ActivityId} (own : id ∈ worker.2) :
    (SchedulerConnector.new agentAssignments).acquire id = .ok worker.1 := by
  have found : (SchedulerConnector.new agentAssignments).activitiesWorkers.get? id =
      some worker.1 := get?_insertWorkers once.activities hosts.assigned own _
  obtain ⟨workers, entry, member⟩ := hosts
  have publisher : (SchedulerConnector.new agentAssignments).workerPublishers.get? worker.1 =
      some () :=
    (HashMap.get?_eq_some_iff _ _ _).mpr ⟨Configured.new_publishers _ entry member, rfl⟩
  simp only [SchedulerConnector.acquire, SchedulerConnector.publisher, found, publisher]

/-- Each worker has one publisher. -/
theorem AssignedOnce.syncTime_perm (once : AssignedOnce agentAssignments) :
    (SchedulerConnector.new agentAssignments).syncTime.Perm
      ((agentAssignments.flatMap Prod.snd).map Prod.fst) := by
  apply (List.perm_ext_iff_of_nodup (HashMap.nodup _) once.workers).mpr
  intro number
  unfold SchedulerConnector.new
  rw [Configured.insertWorker_publishers]
  exact or_iff_left List.not_mem_nil

theorem AssignedOnce.syncTime_length (once : AssignedOnce agentAssignments) :
    (SchedulerConnector.new agentAssignments).syncTime.length =
      (agentAssignments.flatMap Prod.snd).length := by
  rw [once.syncTime_perm.length_eq, List.length_map]

end Feo.MwCom
