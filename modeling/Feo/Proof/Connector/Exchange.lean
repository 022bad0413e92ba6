import Feo.Foundation.Channel
import Feo.Foundation.Counting
import Feo.Proof.Connector.Assigned
import Mathlib.Algebra.BigOperators.Ring.List
import Mathlib.Data.List.Perm.Subperm

namespace Feo.MwCom

open Foundation

variable {agentAssignments : List (AgentId × List WorkerWithActivities)} {agent : AgentId}
  {worker : WorkerWithActivities}

namespace ConnectRemotes

/-- The set of missing activities is empty when the connector is connected. -/
def missing : ConnectRemotes → List ActivityId
  | connecting missingActivities => missingActivities
  | _ => []

/-- The startup time was sent to the workers that do not remain. -/
def synced (number : WorkerId) : ConnectRemotes → List MwComSignal
  | syncing info remaining => if number ∈ remaining then [] else [.core (.startupSync info)]
  | _ => []

/-- The scheduler misses each activity once, and it sends the startup time once to each worker. -/
def Sound (agentAssignments : List (AgentId × List WorkerWithActivities)) :
    ConnectRemotes → Prop
  | connecting missingActivities =>
      missingActivities.Nodup ∧
        missingActivities ⊆ (agentAssignments.flatMap Prod.snd).flatMap Prod.snd
  | syncing _ remaining =>
      remaining.Nodup ∧ remaining ⊆ (agentAssignments.flatMap Prod.snd).map Prod.fst
  | _ => False

/-- No startup time is sent while an activity is missing. -/
theorem synced_of_missing {scheduler : ConnectRemotes} {id : ActivityId}
    (missed : id ∈ scheduler.missing) (number : WorkerId) : scheduler.synced number = [] := by
  cases scheduler with
  | syncing info remaining => cases missed
  | _ => rfl

end ConnectRemotes

/-- The scheduler misses exactly the given ones of the activities of the worker. -/
def Misses (scheduler : ConnectRemotes) (worker : WorkerWithActivities)
    (rest : List ActivityId) : Prop :=
  ∀ id ∈ worker.2, id ∈ scheduler.missing ↔ id ∈ rest

/-- A worker sends a hello, or its hello or the confirmation of it is on its way. -/
def Stage (scheduler : ConnectRemotes) (input queue : List MwComSignal)
    (worker : WorkerWithActivities) : ConnectRemote → Prop
  | .hello rest =>
      rest <:+ worker.2 ∧ Misses scheduler worker rest ∧ queue = scheduler.synced worker.1
  | .waiting id rest =>
      id :: rest <:+ worker.2 ∧
        ((.activityHello id ∈ input ∧ Misses scheduler worker (id :: rest) ∧ queue = []) ∨
          (.activityHello id ∉ input ∧ Misses scheduler worker rest ∧
            queue = .activityHelloAcquired :: scheduler.synced worker.1))
  | _ => False

/-- The stage of a worker depends only on its own activities and signals. -/
theorem Stage.frame {scheduler next : ConnectRemotes} {input received queue : List MwComSignal}
    {connector : ConnectRemote} (stage : Stage scheduler input queue worker connector)
    (missing : ∀ id ∈ worker.2, id ∈ next.missing ↔ id ∈ scheduler.missing)
    (hellos : ∀ id ∈ worker.2, .activityHello id ∈ received ↔ .activityHello id ∈ input)
    (synced : next.synced worker.1 = scheduler.synced worker.1) :
    Stage next received queue worker connector := by
  have misses {rest : List ActivityId} (before : Misses scheduler worker rest) :
      Misses next worker rest := fun id own => (missing id own).trans (before id own)
  cases connector with
  | hello rest =>
      obtain ⟨suffix, misses', queued⟩ := stage
      exact ⟨suffix, misses misses', queued.trans synced.symm⟩
  | waiting id rest =>
      obtain ⟨suffix, either⟩ := stage
      have own : id ∈ worker.2 := suffix.subset List.mem_cons_self
      apply And.intro suffix
      rw [hellos id own, synced]
      rcases either with ⟨sent, misses', queued⟩ | ⟨taken, misses', queued⟩
      · exact .inl ⟨sent, misses misses', queued⟩
      · exact .inr ⟨taken, misses misses', queued⟩
  | _ => exact stage

/-- The signals on their way are what a handshake exchanges when all connectors are subscribed. -/
structure Exchange where
  scheduler : ConnectRemotes
  agentsInput : AgentId → List MwComSignal
  schedulerInput : WorkerId → List MwComSignal
  workers : WorkerId → ConnectRemote

namespace Exchange

inductive Event where
  | hello (worker : WorkerId)
  | next (agent : AgentId)
  | confirmation (worker : WorkerId)
  | syncTime (info : SyncInfo)
  | publish

def push (exchange : Exchange) (worker : WorkerId) (signal : MwComSignal) : Exchange :=
  { exchange with
    schedulerInput := Function.update exchange.schedulerInput worker
      (exchange.schedulerInput worker ++ [signal]) }

def connect (agentAssignments : List (AgentId × List WorkerWithActivities)) (exchange : Exchange)
    (missingActivities : List ActivityId) : MwComSignal → Exchange
  | .activityHello id =>
      match (SchedulerConnector.new agentAssignments).acquire id with
      | .ok worker =>
          { exchange.push worker .activityHelloAcquired with
            scheduler := .connecting (missingActivities.erase id) }
      | .error message => { exchange with scheduler := .panicked message }
  | _ => exchange

def confirm (exchange : Exchange) (worker : WorkerId) (activityIds : List ActivityId)
    (rest : List MwComSignal) (signal : MwComSignal) : Exchange :=
  { exchange with
    schedulerInput := Function.update exchange.schedulerInput worker rest
    workers := Function.update exchange.workers worker
      (if signal = .activityHelloAcquired then .hello activityIds else .unexpected signal) }

/-- Each send of an exchange succeeds, and signals stay in order. -/
def step (agentAssignments : List (AgentId × List WorkerWithActivities)) (exchange : Exchange) :
    Event → Option Exchange
  | .hello worker =>
      match agentOf agentAssignments worker, exchange.workers worker with
      | some agent, .hello (id :: rest) =>
          some { exchange with
            agentsInput := Function.update exchange.agentsInput agent
              (exchange.agentsInput agent ++ [.activityHello id])
            workers := Function.update exchange.workers worker (.waiting id rest) }
      | _, _ => none
  | .next agent =>
      match exchange.scheduler, exchange.agentsInput agent with
      | .connecting (first :: missing), signal :: rest =>
          some (connect agentAssignments
            { exchange with agentsInput := Function.update exchange.agentsInput agent rest }
            (first :: missing) signal)
      | _, _ => none
  | .confirmation worker =>
      match exchange.workers worker, exchange.schedulerInput worker with
      | .waiting _ activityIds, signal :: rest =>
          some (exchange.confirm worker activityIds rest signal)
      | _, _ => none
  | .syncTime info =>
      match exchange.scheduler with
      | .connecting [] =>
          some { exchange with
            scheduler := .syncing info (SchedulerConnector.new agentAssignments).syncTime }
      | _ => none
  | .publish =>
      match exchange.scheduler with
      | .syncing info (worker :: remaining) =>
          some { exchange.push worker (.core (.startupSync info)) with
            scheduler := .syncing info remaining }
      | _ => none

/-- Each signal of an agent is the hello of a worker that waits for its confirmation. -/
structure Orderly (agentAssignments : List (AgentId × List WorkerWithActivities))
    (exchange : Exchange) : Prop where
  sound : exchange.scheduler.Sound agentAssignments
  stage : ∀ agent worker, Hosts agentAssignments agent worker →
    Stage exchange.scheduler (exchange.agentsInput agent) (exchange.schedulerInput worker.1)
      worker (exchange.workers worker.1)
  distinct : ∀ agent, (exchange.agentsInput agent).Nodup
  sender : ∀ agent, ∀ signal ∈ exchange.agentsInput agent, ∃ worker id rest,
    Hosts agentAssignments agent worker ∧ exchange.workers worker.1 = .waiting id rest ∧
      signal = .activityHello id
  idle : ∀ number, number ∉ (agentAssignments.flatMap Prod.snd).map Prod.fst →
    exchange.workers number = .hello []

variable {exchange next : Exchange}

/-- Only the workers of the agents take part. -/
theorem Orderly.hosted (orderly : Orderly agentAssignments exchange) {number : WorkerId}
    (busy : exchange.workers number ≠ .hello []) :
    ∃ agent worker, Hosts agentAssignments agent worker ∧ worker.1 = number := by
  have assigned : number ∈ (agentAssignments.flatMap Prod.snd).map Prod.fst := by
    by_contra absent
    exact busy (orderly.idle number absent)
  obtain ⟨worker, member, same⟩ := List.mem_map.mp assigned
  obtain ⟨agent, hosts⟩ := hosts_of_assigned member
  exact ⟨agent, worker, hosts, same⟩

/-- The connector of a worker before its first hello. -/
def subscribed : ConnectRemote → ConnectRemote
  | .creating activityIds => .hello activityIds
  | connector => connector

/-- All activities are missing before the first hello. -/
def start (agentAssignments : List (AgentId × List WorkerWithActivities)) : Exchange where
  scheduler := .connecting
    (agentAssignments.flatMap fun agent => agent.2.flatMap Prod.snd).dedup
  agentsInput _ := []
  schedulerInput _ := []
  workers worker := subscribed (starting agentAssignments worker)

theorem start_workers (once : AssignedOnce agentAssignments)
    (assigned : worker ∈ agentAssignments.flatMap Prod.snd) :
    (start agentAssignments).workers worker.1 = .hello worker.2 := by
  show subscribed (starting agentAssignments worker.1) = .hello worker.2
  rw [once.starting_eq assigned]
  rfl

theorem start_orderly (once : AssignedOnce agentAssignments) :
    Orderly agentAssignments (start agentAssignments) where
  sound := by
    refine ⟨List.nodup_dedup _, ?_⟩
    intro id member
    rw [List.flatMap_assoc]
    exact List.mem_dedup.mp member
  stage := by
    intro agent worker hosts
    have assigned := hosts.assigned
    rw [start_workers once assigned]
    refine ⟨List.suffix_rfl, ?_, rfl⟩
    · intro id own
      refine iff_of_true (List.mem_dedup.mpr ?_) own
      rw [← List.flatMap_assoc]
      exact List.mem_flatMap.mpr ⟨worker, assigned, own⟩
  distinct _ := List.nodup_nil
  sender _ signal member := by cases member
  idle number absent := by
    show subscribed (starting agentAssignments number) = .hello []
    unfold starting
    split
    · next entry found =>
        have same : entry.1 = number := by simpa using List.find?_some found
        exact absurd (List.mem_map.mpr ⟨entry, List.mem_of_find?_eq_some found, same⟩) absent
    · rfl

/-- A worker sends the hello of its next activity. -/
theorem orderly_hello (once : AssignedOnce agentAssignments)
    (orderly : Orderly agentAssignments exchange) (hosts : Hosts agentAssignments agent worker)
    {id : ActivityId} {rest : List ActivityId}
    (sends : exchange.workers worker.1 = .hello (id :: rest)) :
    Orderly agentAssignments { exchange with
      agentsInput := Function.update exchange.agentsInput agent
        (exchange.agentsInput agent ++ [.activityHello id])
      workers := Function.update exchange.workers worker.1 (.waiting id rest) } := by
  have before := orderly.stage agent worker hosts
  rw [sends] at before
  obtain ⟨suffix, misses, queued⟩ := before
  have own : id ∈ worker.2 := suffix.subset List.mem_cons_self
  have missed : id ∈ exchange.scheduler.missing := (misses id own).mpr List.mem_cons_self
  -- a worker that waits for the same activity would be this worker
  have fresh : ∀ agent, .activityHello id ∉ exchange.agentsInput agent := by
    intro other member
    obtain ⟨sender, waited, later, elsewhere, waits, same⟩ := orderly.sender other _ member
    obtain rfl := MwComSignal.activityHello.inj same
    have stage := orderly.stage other sender elsewhere
    rw [waits] at stage
    have shared : id ∈ sender.2 := stage.1.subset List.mem_cons_self
    obtain rfl := once.eq_of_activity hosts.assigned elsewhere.assigned own shared
    rw [sends] at waits
    cases waits
  refine ⟨orderly.sound, ?_, ?_, ?_, ?_⟩
  · intro other sender elsewhere
    by_cases same : sender.1 = worker.1
    · obtain rfl := once.eq_of_id elsewhere.assigned hosts.assigned same
      obtain rfl := Option.some.inj ((once.agentOf_eq elsewhere).symm.trans (once.agentOf_eq hosts))
      simp only [Function.update_self]
      refine ⟨suffix, .inl ⟨by simp, misses, ?_⟩⟩
      rw [queued, ConnectRemotes.synced_of_missing missed]
    · simp only [Function.update_of_ne same]
      apply (orderly.stage other sender elsewhere).frame (fun _ _ => Iff.rfl) ?_ rfl
      intro part shared
      rw [mem_update_concat]
      apply or_iff_left
      rintro ⟨-, equal⟩
      obtain rfl := MwComSignal.activityHello.inj equal
      exact same (congrArg Prod.fst
        (once.eq_of_activity elsewhere.assigned hosts.assigned shared own))
  · intro other
    show (Function.update exchange.agentsInput agent
      (exchange.agentsInput agent ++ [.activityHello id]) other).Nodup
    rw [update_concat_apply]
    split
    · apply List.Nodup.append (orderly.distinct other) (List.nodup_singleton _)
      exact List.disjoint_singleton.mpr (fresh other)
    · rw [List.append_nil]
      exact orderly.distinct other
  · intro other signal member
    rcases mem_update_concat.mp member with earlier | ⟨rfl, rfl⟩
    · obtain ⟨sender, waited, later, elsewhere, waits, rfl⟩ := orderly.sender other signal earlier
      refine ⟨sender, waited, later, elsewhere, ?_, rfl⟩
      have different : sender.1 ≠ worker.1 := by
        intro same
        rw [same, sends] at waits
        cases waits
      simp only [Function.update_of_ne different, waits]
    · exact ⟨worker, id, rest, hosts, Function.update_self .., rfl⟩
  · intro number absent
    have different : number ≠ worker.1 := by
      rintro rfl
      exact absent (List.mem_map_of_mem hosts.assigned)
    simp only [Function.update_of_ne different, orderly.idle number absent]

/-- The next signal of an agent is a hello of a missing activity. -/
theorem Orderly.head (once : AssignedOnce agentAssignments)
    (orderly : Orderly agentAssignments exchange) {signal : MwComSignal}
    {rest : List MwComSignal} (first : exchange.agentsInput agent = signal :: rest) :
    ∃ worker id later, Hosts agentAssignments agent worker ∧
      exchange.workers worker.1 = .waiting id later ∧ signal = .activityHello id ∧
      id :: later <:+ worker.2 ∧ Misses exchange.scheduler worker (id :: later) ∧
      exchange.schedulerInput worker.1 = [] ∧
      (SchedulerConnector.new agentAssignments).acquire id = .ok worker.1 := by
  have inside : signal ∈ exchange.agentsInput agent := by
    rw [first]
    exact List.mem_cons_self
  obtain ⟨worker, id, later, hosts, waits, rfl⟩ := orderly.sender agent signal inside
  have stage := orderly.stage agent worker hosts
  rw [waits] at stage
  obtain ⟨suffix, either⟩ := stage
  rcases either with ⟨-, misses, empty⟩ | ⟨taken, -, -⟩
  · exact ⟨worker, id, later, hosts, waits, rfl, suffix, misses, empty,
      once.acquire_eq hosts (suffix.subset List.mem_cons_self)⟩
  · exact absurd inside taken

/-- The scheduler takes a hello and confirms it. -/
theorem orderly_next (once : AssignedOnce agentAssignments)
    (orderly : Orderly agentAssignments exchange) {missingActivities : List ActivityId}
    (connecting : exchange.scheduler = .connecting missingActivities)
    {signal : MwComSignal} {rest : List MwComSignal}
    (first : exchange.agentsInput agent = signal :: rest) :
    Orderly agentAssignments (connect agentAssignments
      { exchange with agentsInput := Function.update exchange.agentsInput agent rest }
      missingActivities signal) := by
  obtain ⟨worker, id, later, hosts, waits, rfl, suffix, misses, empty, acquired⟩ :=
    orderly.head once first
  have own : id ∈ worker.2 := suffix.subset List.mem_cons_self
  have sound := orderly.sound
  have unique := orderly.distinct agent
  rw [connecting] at sound misses
  rw [first] at unique
  obtain ⟨once', known⟩ := sound
  simp only [connect, acquired, push]
  refine ⟨⟨once'.erase id, List.Subset.trans List.erase_subset known⟩, ?_, ?_, ?_, orderly.idle⟩
  · intro other sender elsewhere
    by_cases same : sender.1 = worker.1
    · obtain rfl := once.eq_of_id elsewhere.assigned hosts.assigned same
      obtain rfl := Option.some.inj ((once.agentOf_eq elsewhere).symm.trans (once.agentOf_eq hosts))
      simp only [Function.update_self, waits, empty]
      refine ⟨suffix, .inr ⟨(List.nodup_cons.mp unique).1, ?_, rfl⟩⟩
      have absent := (List.nodup_cons.mp
        ((once.own_nodup hosts.assigned).sublist suffix.sublist)).1
      intro part inside
      have before := misses part inside
      simp only [ConnectRemotes.missing, List.mem_cons] at before ⊢
      rw [once'.mem_erase_iff, before]
      constructor
      · rintro ⟨different, either⟩
        exact either.resolve_left different
      · intro member
        exact ⟨fun equal => absent (equal ▸ member), .inr member⟩
    · have stage := orderly.stage other sender elsewhere
      have foreign : ∀ part ∈ sender.2, part ≠ id := by
        rintro part shared rfl
        exact same (congrArg Prod.fst
          (once.eq_of_activity elsewhere.assigned hosts.assigned shared own))
      rw [connecting] at stage
      simp only [Function.update_of_ne same]
      refine stage.frame ?_ ?_ rfl
      · intro part shared
        exact List.mem_erase_of_ne (foreign part shared)
      · intro part shared
        constructor
        · exact mem_of_mem_update first
        · intro member
          apply mem_update_of_ne first member
          intro equal
          exact foreign part shared (MwComSignal.activityHello.inj equal)
  · intro other
    exact (orderly.distinct other).sublist (update_sublist first other)
  · intro other signal member
    exact orderly.sender other signal (mem_of_mem_update first member)

/-- A worker that waits takes its confirmation. -/
theorem orderly_confirmation (once : AssignedOnce agentAssignments)
    (orderly : Orderly agentAssignments exchange) {number : WorkerId} {id : ActivityId}
    {later : List ActivityId} (waits : exchange.workers number = .waiting id later)
    {signal : MwComSignal} {rest : List MwComSignal}
    (first : exchange.schedulerInput number = signal :: rest) :
    Orderly agentAssignments (exchange.confirm number later rest signal) := by
  have busy : exchange.workers number ≠ .hello [] := by simp [waits]
  obtain ⟨agent, worker, hosts, rfl⟩ := orderly.hosted busy
  have before := orderly.stage agent worker hosts
  rw [waits, first] at before
  obtain ⟨suffix, ⟨-, -, empty⟩ | ⟨taken, misses, queued⟩⟩ := before
  · cases empty
  obtain ⟨rfl, rfl⟩ := List.cons.inj queued
  simp only [confirm, if_true]
  refine ⟨orderly.sound, ?_, orderly.distinct, ?_, ?_⟩
  · intro other sender elsewhere
    by_cases same : sender.1 = worker.1
    · obtain rfl := once.eq_of_id elsewhere.assigned hosts.assigned same
      simp only [Function.update_self]
      exact ⟨(List.suffix_cons id later).trans suffix, misses, rfl⟩
    · simp only [Function.update_of_ne same]
      exact orderly.stage other sender elsewhere
  · intro other signal member
    obtain ⟨sender, waited, after, elsewhere, pending, rfl⟩ := orderly.sender other signal member
    refine ⟨sender, waited, after, elsewhere, ?_, rfl⟩
    have different : sender.1 ≠ worker.1 := by
      intro same
      obtain rfl := once.eq_of_id elsewhere.assigned hosts.assigned same
      obtain rfl := Option.some.inj ((once.agentOf_eq elsewhere).symm.trans (once.agentOf_eq hosts))
      rw [waits] at pending
      obtain ⟨rfl, rfl⟩ := ConnectRemote.waiting.inj pending
      exact taken member
    simp only [Function.update_of_ne different, pending]
  · intro other absent
    have different : other ≠ worker.1 := by
      rintro rfl
      exact absent (List.mem_map_of_mem hosts.assigned)
    simp only [Function.update_of_ne different, orderly.idle other absent]

/-- The scheduler is connected and begins to send the startup time. -/
theorem orderly_syncTime (once : AssignedOnce agentAssignments)
    (orderly : Orderly agentAssignments exchange)
    (connected : exchange.scheduler = .connecting []) (info : SyncInfo) :
    Orderly agentAssignments { exchange with
      scheduler := .syncing info (SchedulerConnector.new agentAssignments).syncTime } := by
  refine ⟨⟨HashMap.nodup _, once.syncTime_perm.subset⟩, ?_, orderly.distinct, orderly.sender,
    orderly.idle⟩
  intro agent worker hosts
  have stage := orderly.stage agent worker hosts
  rw [connected] at stage
  refine stage.frame (fun _ _ => Iff.rfl) (fun _ _ => Iff.rfl) ?_
  obtain ⟨workers, entry, member⟩ := hosts
  exact if_pos (Configured.new_publishers _ entry member)

/-- The startup time follows the confirmations. -/
theorem orderly_publish (orderly : Orderly agentAssignments exchange) {info : SyncInfo}
    {number : WorkerId} {remaining : List WorkerId}
    (syncing : exchange.scheduler = .syncing info (number :: remaining)) :
    Orderly agentAssignments { exchange.push number (.core (.startupSync info)) with
      scheduler := .syncing info remaining } := by
  have sound := orderly.sound
  rw [syncing] at sound
  obtain ⟨unique, known⟩ := sound
  obtain ⟨absent, distinct⟩ := List.nodup_cons.mp unique
  refine ⟨⟨distinct, (List.cons_subset.mp known).2⟩, ?_, orderly.distinct, orderly.sender,
    orderly.idle⟩
  intro agent worker hosts
  have stage := orderly.stage agent worker hosts
  rw [syncing] at stage
  by_cases same : worker.1 = number
  · subst same
    have last : (ConnectRemotes.syncing info remaining).synced worker.1 =
        [.core (.startupSync info)] := if_neg absent
    have none : (ConnectRemotes.syncing info (worker.1 :: remaining)).synced worker.1 = [] :=
      if_pos List.mem_cons_self
    simp only [push, Function.update_self]
    cases connector : exchange.workers worker.1 with
    | hello rest =>
        rw [connector] at stage
        obtain ⟨suffix, misses, queued⟩ := stage
        rw [queued, none]
        exact ⟨suffix, misses, last.symm⟩
    | waiting id rest =>
        rw [connector] at stage
        obtain ⟨suffix, ⟨-, misses, -⟩ | ⟨taken, misses, queued⟩⟩ := stage
        · have missed := (misses id (suffix.subset List.mem_cons_self)).mpr List.mem_cons_self
          cases missed
        · rw [queued, none]
          exact ⟨suffix, .inr ⟨taken, misses, by rw [last]; rfl⟩⟩
    | _ =>
        rw [connector] at stage
        exact stage
  · simp only [push, Function.update_of_ne same]
    refine stage.frame (fun _ _ => Iff.rfl) (fun _ _ => Iff.rfl) ?_
    simp [ConnectRemotes.synced, same]

theorem orderly_step (once : AssignedOnce agentAssignments)
    (orderly : Orderly agentAssignments exchange) (event : Event)
    (stepped : step agentAssignments exchange event = some next) :
    Orderly agentAssignments next := by
  cases event with
  | hello number =>
      simp only [step] at stepped
      split at stepped
      · next agent id rest runs sends =>
          obtain rfl := Option.some.inj stepped
          have busy : exchange.workers number ≠ .hello [] := by simp [sends]
          obtain ⟨home, worker, hosts, rfl⟩ := orderly.hosted busy
          obtain rfl := Option.some.inj ((once.agentOf_eq hosts).symm.trans runs)
          exact orderly_hello once orderly hosts sends
      · cases stepped
  | next agent =>
      simp only [step] at stepped
      split at stepped
      · next connecting first =>
          obtain rfl := Option.some.inj stepped
          exact orderly_next once orderly connecting first
      · cases stepped
  | confirmation number =>
      simp only [step] at stepped
      split at stepped
      · next waits first =>
          obtain rfl := Option.some.inj stepped
          exact orderly_confirmation once orderly waits first
      · cases stepped
  | syncTime info =>
      simp only [step] at stepped
      split at stepped
      · next connected =>
          obtain rfl := Option.some.inj stepped
          exact orderly_syncTime once orderly connected info
      · cases stepped
  | publish =>
      simp only [step] at stepped
      split at stepped
      · next syncing =>
          obtain rfl := Option.some.inj stepped
          exact orderly_publish orderly syncing
      · cases stepped

end Exchange

/-- Each activity that is not confirmed yet takes a hello and a confirmation. -/
def ConnectRemote.pending : ConnectRemote → Nat
  | hello activityIds => 2 * activityIds.length
  | waiting _ activityIds => 2 * activityIds.length + 1
  | _ => 0

/-- The scheduler takes the hello of each missing activity and then publishes the startup time. -/
def ConnectRemotes.pending (publishers : Nat) : ConnectRemotes → Nat
  | connecting missingActivities => missingActivities.length + publishers + 1
  | syncing _ remaining => remaining.length
  | _ => 0

namespace Exchange

variable {exchange next : Exchange}

/-- The steps that are left of a exchange. -/
def pending (agentAssignments : List (AgentId × List WorkerWithActivities))
    (exchange : Exchange) : Nat :=
  (((agentAssignments.flatMap Prod.snd).map Prod.fst).map fun number =>
    (exchange.workers number).pending).sum +
      exchange.scheduler.pending (SchedulerConnector.new agentAssignments).syncTime.length

/-- One step of one worker is left less. -/
theorem pending_worker (once : AssignedOnce agentAssignments)
    (hosts : Hosts agentAssignments agent worker) (connector : ConnectRemote)
    (spent : connector.pending + 1 = (exchange.workers worker.1).pending)
    (workers : next.workers = Function.update exchange.workers worker.1 connector)
    (scheduler : next.scheduler = exchange.scheduler) :
    next.pending agentAssignments + 1 = exchange.pending agentAssignments := by
  have change := sum_change (fun number => (exchange.workers number).pending)
    (fun number => (next.workers number).pending) once.workers
    (List.mem_map_of_mem hosts.assigned) (by
      intro other different
      rw [workers, Function.update_of_ne different])
  have self : (next.workers worker.1).pending = connector.pending := by
    rw [workers, Function.update_self]
  simp only [self] at change
  unfold pending
  rw [scheduler]
  omega

/-- Each step leaves one step less. -/
theorem pending_step (once : AssignedOnce agentAssignments)
    (orderly : Orderly agentAssignments exchange) (event : Event)
    (stepped : step agentAssignments exchange event = some next) :
    next.pending agentAssignments + 1 = exchange.pending agentAssignments := by
  cases event with
  | hello number =>
      simp only [step] at stepped
      split at stepped
      · next home id rest runs sends =>
          obtain rfl := Option.some.inj stepped
          have busy : exchange.workers number ≠ .hello [] := by simp [sends]
          obtain ⟨agent, worker, hosts, rfl⟩ := orderly.hosted busy
          refine pending_worker once hosts (.waiting id rest) ?_ ?_ ?_
          · rw [sends]
            simp only [ConnectRemote.pending, List.length_cons]
            omega
          · rfl
          · rfl
      · cases stepped
  | next agent =>
      simp only [step] at stepped
      split at stepped
      · next first missing signal rest connecting head =>
          obtain rfl := Option.some.inj stepped
          obtain ⟨worker, id, later, hosts, waits, rfl, suffix, misses, empty, acquired⟩ :=
            orderly.head once head
          have missed : id ∈ exchange.scheduler.missing :=
            (misses id (suffix.subset List.mem_cons_self)).mpr List.mem_cons_self
          rw [connecting] at missed
          have less := List.length_erase_of_mem missed
          have some := List.length_pos_of_mem missed
          simp only [connect, acquired, pending, push, connecting, ConnectRemotes.pending]
          simp only [ConnectRemotes.missing] at less some
          omega
      · cases stepped
  | confirmation number =>
      simp only [step] at stepped
      split at stepped
      · next id later signal rest waits first =>
          obtain rfl := Option.some.inj stepped
          have busy : exchange.workers number ≠ .hello [] := by simp [waits]
          obtain ⟨agent, worker, hosts, rfl⟩ := orderly.hosted busy
          have stage := orderly.stage agent worker hosts
          rw [waits, first] at stage
          obtain ⟨-, ⟨-, -, empty⟩ | ⟨-, -, queued⟩⟩ := stage
          · cases empty
          obtain ⟨rfl, -⟩ := List.cons.inj queued
          refine pending_worker once hosts (.hello later) ?_ ?_ ?_
          · rw [waits]
            rfl
          · rfl
          · rfl
      · cases stepped
  | syncTime info =>
      simp only [step] at stepped
      split at stepped
      · next connected =>
          obtain rfl := Option.some.inj stepped
          simp only [pending, connected, ConnectRemotes.pending, List.length_nil]
          omega
      · cases stepped
  | publish =>
      simp only [step] at stepped
      split at stepped
      · next syncing =>
          obtain rfl := Option.some.inj stepped
          simp only [pending, push, syncing, ConnectRemotes.pending, List.length_cons]
          omega
      · cases stepped

/-- Every worker is connected, and the startup time is its next signal. -/
def Synchronized (agentAssignments : List (AgentId × List WorkerWithActivities)) (info : SyncInfo)
    (exchange : Exchange) : Prop :=
  exchange.scheduler = .syncing info [] ∧
    ∀ worker ∈ agentAssignments.flatMap Prod.snd, exchange.workers worker.1 = .hello [] ∧
      exchange.schedulerInput worker.1 = [.core (.startupSync info)]

/-- A worker that is not connected yet leaves a step. -/
theorem Orderly.worker_enabled (once : AssignedOnce agentAssignments)
    (orderly : Orderly agentAssignments exchange) (hosts : Hosts agentAssignments agent worker)
    (busy : exchange.workers worker.1 ≠ .hello []) :
    ∃ event next, step agentAssignments exchange event = some next := by
  have stage := orderly.stage agent worker hosts
  cases connector : exchange.workers worker.1 with
  | hello rest =>
      cases rest with
      | nil => exact absurd connector busy
      | cons id rest =>
          refine ⟨.hello worker.1, Option.isSome_iff_exists.mp ?_⟩
          simp only [step, once.agentOf_eq hosts, connector]
          rfl
  | waiting id rest =>
      rw [connector] at stage
      obtain ⟨suffix, ⟨sent, misses, -⟩ | ⟨-, -, queued⟩⟩ := stage
      · have missed := (misses id (suffix.subset List.mem_cons_self)).mpr List.mem_cons_self
        cases scheduler : exchange.scheduler with
        | connecting missingActivities =>
            rw [scheduler] at missed
            obtain ⟨first, missing, rfl⟩ := List.exists_cons_of_ne_nil (List.ne_nil_of_mem missed)
            obtain ⟨signal, signals, head⟩ := List.exists_cons_of_ne_nil (List.ne_nil_of_mem sent)
            refine ⟨.next agent, Option.isSome_iff_exists.mp ?_⟩
            simp only [step, scheduler, head]
            rfl
        | _ =>
            rw [scheduler] at missed
            cases missed
      · refine ⟨.confirmation worker.1, Option.isSome_iff_exists.mp ?_⟩
        simp only [step, connector, queued]
        rfl
  | _ =>
      rw [connector] at stage
      exact stage.elim

/-- The scheduler misses no activity when every worker is connected. -/
theorem Orderly.missing_eq_nil (orderly : Orderly agentAssignments exchange)
    (connected : ∀ worker ∈ agentAssignments.flatMap Prod.snd,
      exchange.workers worker.1 = .hello []) : exchange.scheduler.missing = [] := by
  apply List.eq_nil_iff_forall_not_mem.mpr
  intro id missed
  cases scheduler : exchange.scheduler with
  | connecting missingActivities =>
      have sound := orderly.sound
      rw [scheduler] at sound missed
      obtain ⟨worker, assigned, own⟩ := List.mem_flatMap.mp (sound.2 missed)
      obtain ⟨agent, hosts⟩ := hosts_of_assigned assigned
      have stage := orderly.stage agent worker hosts
      rw [connected worker assigned, scheduler] at stage
      cases (stage.2.1 id own).mp missed
  | _ =>
      rw [scheduler] at missed
      cases missed

/-- The exchange goes on until every worker is connected and synchronized. -/
theorem Orderly.progress (once : AssignedOnce agentAssignments)
    (orderly : Orderly agentAssignments exchange) :
    (∃ info, Synchronized agentAssignments info exchange) ∨
      ∃ event next, step agentAssignments exchange event = some next := by
  by_cases connected : ∀ worker ∈ agentAssignments.flatMap Prod.snd,
      exchange.workers worker.1 = .hello []
  · have none := orderly.missing_eq_nil connected
    have sound := orderly.sound
    cases scheduler : exchange.scheduler with
    | connecting missingActivities =>
        rw [scheduler] at none
        obtain rfl : missingActivities = [] := none
        refine .inr ⟨.syncTime ⟨Duration.zero⟩, Option.isSome_iff_exists.mp ?_⟩
        simp only [step, scheduler]
        rfl
    | syncing info remaining =>
        cases remaining with
        | nil =>
            refine .inl ⟨info, scheduler, ?_⟩
            intro worker assigned
            obtain ⟨agent, hosts⟩ := hosts_of_assigned assigned
            have stage := orderly.stage agent worker hosts
            rw [connected worker assigned, scheduler] at stage
            exact ⟨connected worker assigned, stage.2.2⟩
        | cons number remaining =>
            refine .inr ⟨.publish, Option.isSome_iff_exists.mp ?_⟩
            simp only [step, scheduler]
            rfl
    | _ =>
        rw [scheduler] at sound
        exact sound.elim
  · simp only [not_forall] at connected
    obtain ⟨worker, assigned, busy⟩ := connected
    obtain ⟨agent, hosts⟩ := hosts_of_assigned assigned
    exact .inr (orderly.worker_enabled once hosts busy)

/-- No worker panics. -/
theorem Orderly.calm (orderly : Orderly agentAssignments exchange) (number : WorkerId) :
    (∀ message, exchange.workers number ≠ .panicked message) ∧
      ∀ signal, exchange.workers number ≠ .unexpected signal := by
  constructor
  · intro message panicked
    have busy : exchange.workers number ≠ .hello [] := by simp [panicked]
    obtain ⟨agent, worker, hosts, rfl⟩ := orderly.hosted busy
    have stage := orderly.stage agent worker hosts
    rw [panicked] at stage
    exact stage
  · intro signal panicked
    have busy : exchange.workers number ≠ .hello [] := by simp [panicked]
    obtain ⟨agent, worker, hosts, rfl⟩ := orderly.hosted busy
    have stage := orderly.stage agent worker hosts
    rw [panicked] at stage
    exact stage

/-- The hello that a worker waits for. -/
def awaited : ConnectRemote → Option MwComSignal
  | .waiting id _ => some (.activityHello id)
  | _ => none

/-- An agent has at most one signal for each of its workers. -/
theorem Orderly.agentsInput_length (once : AssignedOnce agentAssignments)
    (orderly : Orderly agentAssignments exchange) {workers : List WorkerWithActivities}
    (entry : (agent, workers) ∈ agentAssignments) :
    (exchange.agentsInput agent).length ≤ workers.length := by
  have covered : exchange.agentsInput agent ⊆
      workers.filterMap fun worker => awaited (exchange.workers worker.1) := by
    intro signal member
    obtain ⟨worker, id, rest, ⟨others, listed, inside⟩, waits, rfl⟩ :=
      orderly.sender agent signal member
    have same : (agent, others) = (agent, workers) :=
      List.inj_on_of_nodup_map once.agents listed entry rfl
    obtain rfl := (Prod.mk.inj same).2
    exact List.mem_filterMap.mpr ⟨worker, inside, by rw [waits]; rfl⟩
  exact ((orderly.distinct agent).subperm covered).length_le.trans (List.length_filterMap_le _ _)

/-- A worker has at most its confirmation and the startup time. -/
theorem Orderly.schedulerInput_length (orderly : Orderly agentAssignments exchange)
    (hosts : Hosts agentAssignments agent worker) :
    (exchange.schedulerInput worker.1).length ≤ 2 := by
  have stage := orderly.stage agent worker hosts
  have synced : (exchange.scheduler.synced worker.1).length ≤ 1 := by
    cases exchange.scheduler with
    | syncing info remaining =>
        show (if worker.1 ∈ remaining then [] else [MwComSignal.core _]).length ≤ 1
        split
        · exact Nat.zero_le 1
        · exact Nat.le_refl 1
    | _ => exact Nat.zero_le 1
  cases connector : exchange.workers worker.1 with
  | hello rest =>
      rw [connector] at stage
      rw [stage.2.2]
      omega
  | waiting id rest =>
      rw [connector] at stage
      obtain ⟨-, ⟨-, -, queued⟩ | ⟨-, -, queued⟩⟩ := stage
      · rw [queued]
        exact Nat.zero_le 2
      · rw [queued, List.length_cons]
        omega
  | _ =>
      rw [connector] at stage
      exact stage.elim

theorem start_pending (once : AssignedOnce agentAssignments) :
    (start agentAssignments).pending agentAssignments =
      3 * ((agentAssignments.flatMap Prod.snd).flatMap Prod.snd).length +
        (agentAssignments.flatMap Prod.snd).length + 1 := by
  have hellos : (((agentAssignments.flatMap Prod.snd).map Prod.fst).map fun number =>
      ((start agentAssignments).workers number).pending).sum =
        2 * ((agentAssignments.flatMap Prod.snd).flatMap Prod.snd).length := by
    rw [List.length_flatMap, ← List.sum_map_mul_left, List.map_map]
    apply congrArg List.sum
    apply List.map_congr_left
    intro worker assigned
    simp only [Function.comp_apply, start_workers once assigned, ConnectRemote.pending]
  have distinct := once.activities
  rw [List.flatMap_assoc] at distinct
  unfold pending
  rw [hellos, once.syncTime_length]
  simp only [start, ConnectRemotes.pending, distinct.dedup, List.flatMap_assoc]
  omega

end Exchange

end Feo.MwCom
