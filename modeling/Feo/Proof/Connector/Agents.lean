import Feo.Construction.Connector.Direct
import Feo.Construction.Connector.Mpsc
import Feo.Construction.Connector.MwCom
import Feo.Construction.Connector.Relayed
import Feo.Proof.Scheduler.Acknowledgement

namespace Feo

open Foundation

/-- Each activity resides on a worker, and each such worker resides on an agent. -/
structure Assignment where
  activityWorkerMap : HashMap ActivityId WorkerId
  workerAgentMap : HashMap WorkerId AgentId
  hosted : ∀ activity ∈ activityWorkerMap.keys,
    activityWorkerMap.value activity ∈ workerAgentMap.keys

/-- The map of all activities to agents composes both maps. -/
def Assignment.activityAgentMap (assignment : Assignment) : HashMap ActivityId AgentId :=
  assignment.activityWorkerMap.mapValues assignment.workerAgentMap.value

/-- The socket workers say hello on their own connection for activities of their own. -/
def Direct.HelloFrom (assignment : Assignment) (host : Token → WorkerId) (round : Direct.Round) :
    Prop :=
  ∀ token id, round.received = .ok (some (token, .activityHello id)) →
    id ∈ assignment.activityWorkerMap.keys ∧ assignment.activityWorkerMap.value id = host token

/-- A connector of one of the modes has connected its workers. -/
inductive Configured where
  | direct (assignment : Assignment) (activityIds : List ActivityId) (timeout : Duration)
      (host : Token → WorkerId) (rounds : List Direct.Round)
      (spoken : ∀ round ∈ rounds, Direct.HelloFrom assignment host round)
      (connector : Direct.SchedulerConnector)
      (connected : (Direct.SchedulerConnector.new activityIds assignment.activityAgentMap
        timeout).connectRemotes rounds = some (.ok (), connector))
  | mpsc (activityWorkerMap : HashMap ActivityId WorkerId)
      (channelIds : Collected (activityWorkerMap.values.map ChannelId.worker))
  | mwCom (agentAssignments : List (AgentId × List MwCom.WorkerWithActivities))
  | relayed (timeout : Duration) (workerAgentMap : HashMap WorkerId AgentId)
      (activityWorkerMap : HashMap ActivityId WorkerId)

namespace Configured

/-- The connector answers the scheduler of the given agent. -/
def connectedAgentIds (own : AgentId) : Configured → List AgentId
  | direct _ _ _ _ _ _ connector _ => connector.getConnectedAgentIds
  | mpsc activityWorkerMap channelIds =>
      (DirectMpsc.SchedulerConnector.new activityWorkerMap channelIds).getConnectedAgentIds
  | mwCom agentAssignments => (MwCom.SchedulerConnector.new agentAssignments).getConnectedAgentIds
  | relayed timeout workerAgentMap activityWorkerMap =>
      (Relayed.SchedulerConnector.new own timeout workerAgentMap
        activityWorkerMap).getConnectedAgentIds

/-- The agent hosts a worker to which the broadcast sends the termination. -/
def Terminated (own agent : AgentId) : Configured → Prop
  | direct assignment _ _ host _ _ connector _ =>
      ∃ token ∈ connector.activityIdTokenMap.values,
        assignment.workerAgentMap.value (host token) = agent
  | mpsc activityWorkerMap channelIds =>
      agent = own ∧ (DirectMpsc.SchedulerConnector.new activityWorkerMap
        channelIds).sender.senders.items ≠ []
  | mwCom agentAssignments =>
      ∃ workers, (agent, workers) ∈ agentAssignments ∧ ∃ worker ∈ workers,
        worker.1 ∈ (MwCom.SchedulerConnector.new agentAssignments).workerPublishers.keys
  | relayed timeout workerAgentMap activityWorkerMap =>
      let connector := Relayed.SchedulerConnector.new own timeout workerAgentMap activityWorkerMap
      (∃ relay ∈ connector.ipcSendRelay, agent ∈ relay.remoteAgents.items) ∨
        ∃ worker, .worker worker ∈ connector.workerSender.senders.items ∧
          workerAgentMap.value worker = agent

/-- A scheduler run returns from `terminate_all_agents` only after the agent is settled. -/
def Outlasts (own agent : AgentId) (ids : List AgentId) : Prop :=
  ∀ (scheduler : Scheduler) (states : Scheduler.States scheduler) (cycle : Nat)
    (reason : Option String) (events : List Scheduler.Event)
    (final : Scheduler.Execution scheduler), scheduler.agentId = own →
    scheduler.machine.run ⟨states, .connectedAgents, cycle, reason⟩
      (.connectedAgents ids :: events) = some final → final.point = .finished →
    ∃ timeout, scheduler.ackTimeout (scheduler.pendingAgents ids).length 4 = .ok timeout ∧
      Scheduler.Settled agent timeout events

/-- The scheduler waits for every other agent whose workers it terminates. -/
def Waits (own : AgentId) (configured : Configured) : Prop :=
  ∀ agent, configured.Terminated own agent → agent ≠ own →
    agent ∈ configured.connectedAgentIds own ∧
      Outlasts own agent (configured.connectedAgentIds own)

/-- No other agent has a worker that is reached through the publishers. -/
def NoForeignPublisher (own : AgentId) : Configured → Prop
  | mwCom agentAssignments => ∀ agent workers, (agent, workers) ∈ agentAssignments →
      workers ≠ [] → agent = own
  | _ => True

/-- A listed agent outlasts the run. -/
theorem outlasts_of_mem {own agent : AgentId} {ids : List AgentId} (member : agent ∈ ids)
    (foreign : agent ≠ own) : Outlasts own agent ids := by
  intro scheduler states cycle reason events final same reached finished
  subst same
  exact Scheduler.connectedAgents_settled member foreign reached finished

/-- Each stored token belongs to the worker of its activity. -/
structure Tokens (assignment : Assignment) (host : Token → WorkerId)
    (connector : Direct.SchedulerConnector) : Prop where
  agents : connector.activityAgentMap = assignment.activityAgentMap
  known : ∀ id ∈ connector.activityIdTokenMap.keys, id ∈ assignment.activityWorkerMap.keys
  worker : ∀ id ∈ connector.activityIdTokenMap.keys,
    assignment.activityWorkerMap.value id = host (connector.activityIdTokenMap.value id)

/-- A hello of a worker keeps the tokens. -/
theorem Tokens.insert {assignment : Assignment} {host : Token → WorkerId}
    {connector : Direct.SchedulerConnector} (tokens : Tokens assignment host connector)
    {token : Token} {id : ActivityId} (known : id ∈ assignment.activityWorkerMap.keys)
    (worker : assignment.activityWorkerMap.value id = host token) :
    Tokens assignment host
      { connector with activityIdTokenMap := connector.activityIdTokenMap.insert id token } where
  agents := tokens.agents
  known other member := by
    rcases (HashMap.mem_insert_keys _ _ _ _).mp member with rfl | earlier
    · exact known
    · exact tokens.known other earlier
  worker other member := by
    rw [HashMap.insert_value]
    by_cases same : other = id
    · subst same
      rw [Function.update_self, worker]
    · rw [Function.update_of_ne same]
      have earlier := ((HashMap.mem_insert_keys _ _ _ _).mp member).resolve_left same
      exact tokens.worker other earlier

/-- The connecting loop keeps the tokens. -/
theorem connectLoop_tokens {assignment : Assignment} {host : Token → WorkerId}
    {rounds : List Direct.Round}
    (spoken : ∀ round ∈ rounds, Direct.HelloFrom assignment host round)
    {connector final : Direct.SchedulerConnector} {missing : List ActivityId}
    {result : Except Error Unit} (tokens : Tokens assignment host connector)
    (done : connector.connectLoop missing rounds = some (result, final)) :
    Tokens assignment host final := by
  induction rounds generalizing connector missing with
  | nil =>
      rw [Direct.SchedulerConnector.connectLoop] at done
      split at done
      · cases done
        exact tokens
      · exact nomatch done
  | cons round rounds ih =>
      have others : ∀ other ∈ rounds, Direct.HelloFrom assignment host other :=
        fun other member => spoken other (List.mem_cons_of_mem _ member)
      rw [Direct.SchedulerConnector.connectLoop] at done
      split at done
      · cases done
        exact tokens
      · split at done
        · cases done
          exact tokens
        · split at done
          · next token id received =>
              obtain ⟨known, worker⟩ := spoken round List.mem_cons_self token id received
              exact ih others (tokens.insert known worker) done
          · exact ih others tokens done

/-- The agents of all tokens are connected. -/
theorem Tokens.connected {assignment : Assignment} {host : Token → WorkerId}
    {connector : Direct.SchedulerConnector} (tokens : Tokens assignment host connector)
    {token : Token} (member : token ∈ connector.activityIdTokenMap.values) :
    assignment.workerAgentMap.value (host token) ∈ connector.getConnectedAgentIds := by
  obtain ⟨id, key, rfl⟩ := List.mem_map.mp member
  unfold Direct.SchedulerConnector.getConnectedAgentIds
  rw [List.mem_dedup, List.mem_filterMap]
  refine ⟨id, key, ?_⟩
  rw [HashMap.get?_eq_some_iff, tokens.agents]
  refine ⟨tokens.known id key, ?_⟩
  rw [Assignment.activityAgentMap, HashMap.mapValues_value, tokens.worker id key]

/-- Each worker of the inserted ones has a publisher. -/
theorem insertWorker_publishers (workers : List MwCom.WorkerWithActivities)
    (connector : MwCom.SchedulerConnector) (id : WorkerId) :
    id ∈ (workers.foldl MwCom.SchedulerConnector.insertWorker connector).workerPublishers.keys ↔
      id ∈ workers.map Prod.fst ∨ id ∈ connector.workerPublishers.keys := by
  induction workers generalizing connector with
  | nil => simp
  | cons worker workers ih =>
      rw [List.foldl_cons, ih, MwCom.SchedulerConnector.insertWorker]
      simp only [HashMap.mem_insert_keys, List.map_cons, List.mem_cons]
      rw [or_left_comm, or_assoc]

/-- Every worker of every agent has a publisher. -/
theorem new_publishers (agentAssignments : List (AgentId × List MwCom.WorkerWithActivities))
    {agent : AgentId} {workers : List MwCom.WorkerWithActivities}
    (assigned : (agent, workers) ∈ agentAssignments) {worker : MwCom.WorkerWithActivities}
    (member : worker ∈ workers) :
    worker.1 ∈ (MwCom.SchedulerConnector.new agentAssignments).workerPublishers.keys := by
  unfold MwCom.SchedulerConnector.new
  rw [insertWorker_publishers]
  exact .inl (List.mem_map_of_mem (List.mem_flatMap.mpr ⟨_, assigned, member⟩))

/-- The broadcast of the publishers terminates the workers of an agent if all its sends succeed. -/
theorem terminated_mwCom_iff (own agent : AgentId) (signal : Signal) (timestamp : Timestamp)
    (agentAssignments : List (AgentId × List MwCom.WorkerWithActivities))
    (links : Links WorkerId MwCom.MwComSignal) (working : ∀ worker, links.working worker = true) :
    ∃ final, (MwCom.SchedulerConnector.new agentAssignments).broadcastTerminate links signal
        timestamp = .ok final ∧
      ((mwCom agentAssignments).Terminated own agent ↔
        ∃ workers, (agent, workers) ∈ agentAssignments ∧ ∃ worker ∈ workers,
          final.delivered worker.1 =
            links.delivered worker.1 ++ [.core (.terminate timestamp)]) := by
  have sent := (links.trySendEach_ok_iff "Failed sending event"
    (fun _ => MwCom.MwComSignal.core (.terminate timestamp))
    (MwCom.SchedulerConnector.new agentAssignments).workerPublishers.keys).mpr
      fun worker _ => working worker
  have reached := (links.trySendEach_reaches_iff "Failed sending event"
    (fun _ => MwCom.MwComSignal.core (.terminate timestamp))
    (MwCom.SchedulerConnector.new agentAssignments).workerPublishers.nodup).mpr (by
      rintro ⟨_, failing, _, _, _, _, fails, _⟩
      rw [working failing] at fails
      cases fails)
  rw [MwCom.SchedulerConnector.broadcastTerminate]
  generalize links.trySendEach "Failed sending event"
    (fun _ => MwCom.MwComSignal.core (.terminate timestamp))
    (MwCom.SchedulerConnector.new agentAssignments).workerPublishers.keys = answer at sent reached
  obtain ⟨result, final⟩ := answer
  obtain rfl : result = .ok () := sent
  refine ⟨final, rfl, ?_⟩
  constructor
  · rintro ⟨workers, assigned, worker, member, published⟩
    exact ⟨workers, assigned, worker, member, reached worker.1 published (working worker.1)⟩
  · rintro ⟨workers, assigned, worker, member, -⟩
    exact ⟨workers, assigned, worker, member, new_publishers agentAssignments assigned member⟩

/-- The relayed connector lists the agents of all workers. -/
theorem relayed_connected (own agent : AgentId) (timeout : Duration)
    (workerAgentMap : HashMap WorkerId AgentId) (activityWorkerMap : HashMap ActivityId WorkerId)
    (terminated : (relayed timeout workerAgentMap activityWorkerMap).Terminated own agent) :
    agent ∈ (relayed timeout workerAgentMap activityWorkerMap).connectedAgentIds own := by
  change agent ∈ sortIds _
  rw [mem_sortIds, List.mem_dedup, List.mem_append]
  rcases terminated with ⟨relay, present, remote⟩ | ⟨worker, member, rfl⟩
  · rw [present]
    exact .inr remote
  · refine .inl (List.mem_map_of_mem ?_)
    obtain ⟨other, here, same⟩ := List.mem_map.mp member
    cases same
    exact (List.mem_filter.mp here).1

/-- The scheduler waits for the other agents unless it reaches them through publishers. -/
theorem waits_iff (own : AgentId) (configured : Configured) :
    configured.Waits own ↔ configured.NoForeignPublisher own := by
  cases configured with
  | direct assignment activityIds timeout host rounds spoken connector connected =>
      refine iff_of_true ?_ trivial
      have initial : Tokens assignment host
          (.new activityIds assignment.activityAgentMap timeout) := ⟨rfl, nofun, nofun⟩
      have tokens := connectLoop_tokens spoken initial connected
      rintro agent ⟨token, member, rfl⟩ foreign
      exact ⟨tokens.connected member, outlasts_of_mem (tokens.connected member) foreign⟩
  | mpsc activityWorkerMap channelIds =>
      refine iff_of_true ?_ trivial
      rintro agent ⟨same, _⟩ foreign
      exact absurd same foreign
  | mwCom agentAssignments =>
      constructor
      · intro waits agent workers assigned some
        by_contra foreign
        obtain ⟨worker, member⟩ := List.exists_mem_of_ne_nil workers some
        have terminated : (mwCom agentAssignments).Terminated own agent :=
          ⟨workers, assigned, worker, member, new_publishers agentAssignments assigned member⟩
        exact List.not_mem_nil (waits agent terminated foreign).1
      · rintro closed agent ⟨workers, assigned, worker, member, _⟩ foreign
        exact absurd (closed agent workers assigned (List.ne_nil_of_mem member)) foreign
  | relayed timeout workerAgentMap activityWorkerMap =>
      refine iff_of_true ?_ trivial
      intro agent terminated foreign
      have listed := relayed_connected own agent timeout workerAgentMap activityWorkerMap terminated
      exact ⟨listed, outlasts_of_mem listed foreign⟩

/-- The worker 40 with the activity 0 resides on the agent 101, away from the scheduler. -/
def remotePublisher : Configured := mwCom [(⟨101⟩, [(⟨40⟩, [⟨0⟩])])]

/-- The scheduler of the agent 100 does not wait for the agent 101. -/
theorem remotePublisher_unawaited : ¬ remotePublisher.Waits ⟨100⟩ := by
  intro waits
  have listed := (waits ⟨101⟩ ⟨[(⟨40⟩, [⟨0⟩])], by decide, (⟨40⟩, [⟨0⟩]), by decide,
    by decide⟩ (by decide)).1
  exact List.not_mem_nil listed

theorem splitActivities_nodup : [(⟨0⟩ : ActivityId), ⟨1⟩].Nodup := by simp

theorem splitWorkers_nodup : [(⟨40⟩ : WorkerId), ⟨41⟩].Nodup := by simp

/-- The worker 40 resides with the scheduler, and the worker 41 on the agent 101. -/
def splitAssignment : Assignment where
  activityWorkerMap := ⟨[⟨0⟩, ⟨1⟩], splitActivities_nodup, fun id => ⟨id.id + 40⟩⟩
  workerAgentMap := ⟨[⟨40⟩, ⟨41⟩], splitWorkers_nodup, fun worker => ⟨worker.id + 60⟩⟩
  hosted := by decide

/-- Each worker has a connection of its own. -/
def splitHost (token : Token) : WorkerId := if token = 2 then ⟨40⟩ else ⟨41⟩

def splitRounds : List Direct.Round :=
  [⟨Duration.zero, .ok (some (3, .activityHello ⟨1⟩))⟩, ⟨Duration.zero, .ok none⟩,
    ⟨Duration.zero, .ok (some (2, .activityHello ⟨0⟩))⟩]

theorem splitRounds_spoken :
    ∀ round ∈ splitRounds, Direct.HelloFrom splitAssignment splitHost round := by
  intro round member token id received
  simp only [splitRounds, List.mem_cons, List.not_mem_nil, or_false] at member
  rcases member with rfl | rfl | rfl <;> cases received <;> decide

/-- Both workers have said hello. -/
def splitConnector : Direct.SchedulerConnector :=
  { Direct.SchedulerConnector.new [⟨0⟩, ⟨1⟩] splitAssignment.activityAgentMap
      (Duration.fromNanos 1) with
    activityIdTokenMap := (HashMap.empty.insert ⟨1⟩ 3).insert ⟨0⟩ 2 }

def splitDirect : Configured :=
  direct splitAssignment [⟨0⟩, ⟨1⟩] (Duration.fromNanos 1) splitHost splitRounds
    splitRounds_spoken splitConnector rfl

/-- The scheduler of the agent 100 terminates the agent 101 and waits for it. -/
theorem splitDirect_awaited : splitDirect.Terminated ⟨100⟩ ⟨101⟩ ∧ splitDirect.Waits ⟨100⟩ :=
  ⟨⟨3, by decide, by decide⟩, (waits_iff ⟨100⟩ splitDirect).mpr trivial⟩

end Configured

end Feo
