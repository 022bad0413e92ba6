import Feo.Foundation.Amortized
import Feo.Foundation.Counting
import Feo.Proof.Scheduler.Progress
import Feo.Proof.System.Act
import Feo.Proof.System.Steady

namespace Feo

open Foundation

/-- A worker still moves this often, if its answer counts two moves of the scheduler. -/
def Worker.Point.effort : Worker.Point → Nat
  | .call _ => 4
  | .respond _ => 3
  | _ => 0

namespace Scheduler

open Feo.Scheduler (States)

variable {scheduler : Scheduler}

/-- The number of activities that the current chain has not triggered. -/
def untriggered (states : States scheduler) : Nat :=
  scheduler.activityDepends.keys.countP fun id => !(states.val.value id).triggered

/-- The scheduler and the workers still move this often before the next chain begins. -/
def Execution.effort (execution : Execution scheduler) : Nat :=
  match execution.point with
  | .startup _ remaining => 6 * (remaining.length + 1) + 1
  | .startupElapsed => 1
  | .step _ _ => 6 * untriggered execution.states + 3
  | .stepReceive => 6 * untriggered execution.states + 3
  | .chainElapsed => 3
  | .sleep _ => 2
  | .shutdownRequested => 1
  | _ => 0

/-- The moves of one task chain. -/
def chainMoves (scheduler : Scheduler) : Nat := 6 * scheduler.activityDepends.keys.length + 3

theorem untriggered_le (states : States scheduler) :
    untriggered states ≤ scheduler.activityDepends.keys.length := List.countP_le_length

theorem untriggered_markReady (states : States scheduler) (id : ActivityId) :
    untriggered (markReady states id) = untriggered states := by
  unfold untriggered
  congr 1
  funext other
  rw [markReady_value]
  split
  · next same => rw [same]
  · rfl

/-- A trigger leaves one activity less to trigger. -/
theorem untriggered_markTriggered {states : States scheduler} {id : ActivityId}
    (known : id ∈ scheduler.activityDepends.keys)
    (waiting : (states.val.value id).triggered = false) :
    untriggered (markTriggered states id) + 1 = untriggered states := by
  have change := countP_change (fun other => !(states.val.value other).triggered)
    (fun other => !((markTriggered states id).val.value other).triggered)
    scheduler.activityDepends.nodup known ?_
  · simp only [markTriggered_value, if_pos, waiting, Bool.not_false, Bool.not_true,
      Bool.toNat_true, Bool.toNat_false] at change
    unfold untriggered
    simp only [markTriggered_value]
    omega
  · intro other differs
    rw [markTriggered_value, if_neg differs]

theorem Scanned.effort {states : States scheduler} {cycle : Nat} {activities : List ActivityId}
    {next : Execution scheduler} (scanned : Scanned states cycle activities next) :
    next.effort = 6 * untriggered states + 3 := by
  cases scanned <;> rfl

theorem Chained.effort {states : States scheduler} {cycle : Nat} {next : Execution scheduler}
    (chained : Chained states cycle next) : next.effort ≤ 6 * untriggered states + 3 := by
  cases chained with
  | complete =>
      change 3 ≤ _
      omega
  | scanned _ scanned => rw [scanned.effort]

theorem taskChain_effort (states : States scheduler) (cycle : Nat) :
    (taskChain states cycle).effort ≤ scheduler.chainMoves := by
  have chained := (chainLoop_chained (clearFlags states) (cycle + 1)).effort
  have most := untriggered_le (clearFlags states)
  unfold taskChain chainMoves
  omega

/-- The startup loop waits for one more answer or begins the first chain. -/
theorem startupLoop_effort (states : States scheduler) :
    (startupLoop states).effort ≤ 1 + scheduler.chainMoves * (startupLoop states).cycle := by
  rcases startupLoop_cases states with ⟨-, same⟩ | ⟨-, same⟩
  · have most := taskChain_effort states 0
    rw [same, (taskChain_continues states 0).cycle_eq]
    omega
  · rw [same]
    exact Nat.le_add_right _ _

theorem startupActivities_effort (states : States scheduler) (remaining : List ActivityId) :
    (startupActivities states remaining).effort ≤ 6 * remaining.length + 1 +
      scheduler.chainMoves * (startupActivities states remaining).cycle := by
  cases remaining with
  | nil => exact startupLoop_effort states
  | cons activity rest => exact Nat.le_add_right _ _

/-- The moves that a signal of the scheduler leads to. -/
def Event.given : Event → Nat
  | .sendToActivity _ _ (.ok _) => 5
  | _ => 0

/-- The moves that a reply to the scheduler leads to. -/
def Event.taken : Event → Nat
  | .receive (.ok (some _)) => 2
  | _ => 0

theorem taken_of_again {result : Except Error (Option Signal)}
    (again : scheduler.waitNextReady result = .again) : (Event.receive result).taken = 2 := by
  cases result with
  | error error => cases again
  | ok received =>
      cases received with
      | none => cases again
      | some signal => rfl

/-- A call of the scheduler pays for itself, for its signal and for the chain that it begins with
its own effort and the reply that it takes. -/
theorem Transition.effort {execution next : Execution scheduler} {event : Event}
    (transition : Transition execution event next) (scanning : Scanning execution)
    (first : execution.point.stage = .starting ∨ execution.point.stage = .waiting →
      execution.cycle = 0) (active : next.point.stage.Active) :
    1 + event.given + next.effort + scheduler.chainMoves * execution.cycle ≤
      event.taken + execution.effort + scheduler.chainMoves * next.cycle := by
  have source := transition.shift.source_active active
  cases transition with
  | @startupSent states activity remaining cycle =>
      have bound := startupActivities_effort states remaining
      have zero : cycle = 0 := first (.inl rfl)
      subst zero
      change 1 + 5 + _ + _ * 0 ≤ 0 + (6 * (remaining.length + 1) + 1) + _
      omega
  | startupInTime =>
      simp only [Event.given, Event.taken, Execution.effort]
      omega
  | ignored waits again =>
      rw [taken_of_again again]
      simp only [Event.given]
      omega
  | @startupReady states cycle reason id =>
      have bound := startupLoop_effort (markReady states id)
      have zero : cycle = 0 := first (.inr rfl)
      subst zero
      change 1 + 0 + _ + _ * 0 ≤ 2 + 0 + _
      omega
  | @stepSent states activity remaining cycle =>
      obtain ⟨known, waiting, -⟩ := scanning.stepped
      have scanned := stepReadyActivities_scanned (markTriggered states activity) cycle remaining
      have fewer := untriggered_markTriggered known waiting
      rw [scanned.effort, scanned.continues.cycle_eq]
      change 1 + 5 + _ + _ ≤ 0 + (6 * untriggered states + 3) + _
      dsimp only
      omega
  | @stepReady states cycle reason id =>
      have chained := chainLoop_chained (markReady states id) cycle
      have bound := chained.effort
      rw [untriggered_markReady] at bound
      rw [chained.continues.cycle_eq]
      change 1 + 0 + _ + _ ≤ 2 + (6 * untriggered states + 3) + _
      dsimp only
      omega
  | chainLate | chainInTime | slept =>
      simp only [Event.given, Event.taken, Execution.effort]
      omega
  | @continued states cycle =>
      have bound := taskChain_effort states cycle
      rw [(taskChain_continues states cycle).cycle_eq, Nat.mul_succ]
      change 1 + 0 + _ + _ ≤ 0 + 1 + _
      dsimp only
      omega
  | startupFailed | unknown | stepFailed => exact absurd rfl active.ne_panicked
  | startupLate | failed | requested =>
      exact absurd active (shutdownGracefully_stopping _ _ _).not_active
  | _ => rcases source with wrong | wrong | wrong <;> cases wrong

end Scheduler

namespace System

variable {deployment : Deployment}

/-- Every event but the receive of a worker that yields no signal is a move. -/
def Event.moves : Event → Bool
  | .worker _ (.receive (.ok (some _))) => true
  | .worker _ (.receive _) => false
  | _ => true

/-- The moves that the signals in the channels of a worker still lead to. -/
def load (system : System deployment) (worker : WorkerId) : Nat :=
  5 * (system.requests worker).length + (system.points worker).effort +
    2 * (system.replies worker).length

/-- The workers of the known activities. -/
def staff (deployment : Deployment) : List WorkerId :=
  (deployment.scheduler.activityDepends.keys.map deployment.route).dedup

/-- The moves that the scheduler and all channels still lead to before the next chain begins. -/
def effort (system : System deployment) : Nat :=
  ((staff deployment).map system.load).sum + system.execution.effort

theorem mem_staff {worker : WorkerId} {id : ActivityId}
    (known : id ∈ deployment.scheduler.activityDepends.keys)
    (route : deployment.route id = worker) : worker ∈ staff deployment :=
  List.mem_dedup.mpr (List.mem_map.mpr ⟨id, known, route⟩)

/-- A step that changes the load of one worker changes the sum by as much. -/
theorem sum_load (system next : System deployment) {worker : WorkerId}
    (member : worker ∈ staff deployment)
    (frame : ∀ other, other ≠ worker → next.load other = system.load other) :
    ((staff deployment).map next.load).sum + system.load worker =
      ((staff deployment).map system.load).sum + next.load worker :=
  sum_change system.load next.load (List.nodup_dedup _) member frame

/-- A step of the scheduler keeps the loads apart from the signal that it moves. -/
theorem effort_of_scheduler {system next : System deployment} {event : Scheduler.Event}
    (transition : Scheduler.Transition system.execution event next.execution)
    (inOrder : InOrder system) (scanning : Scheduler.Scanning system.execution)
    (active : next.execution.point.stage.Active)
    (loads : ((staff deployment).map next.load).sum + event.taken =
      ((staff deployment).map system.load).sum + event.given) :
    1 + next.effort + deployment.scheduler.chainMoves * system.execution.cycle ≤
      system.effort + deployment.scheduler.chainMoves * next.execution.cycle := by
  have paid := transition.effort scanning ?_ active
  · unfold effort
    omega
  · rintro (starting | waiting)
    · cases point : system.execution.point with
      | startup activity remaining => exact (inOrder.working.starting _ _ point).1
      | _ =>
          rw [point] at starting
          cases starting
    · exact (inOrder.working.waiting waiting).1

/-- A step of a worker lightens its load, and nothing else changes. -/
theorem effort_of_worker {system next : System deployment} {worker : WorkerId}
    (member : worker ∈ staff deployment) (execution : next.execution = system.execution)
    (frame : ∀ other, other ≠ worker → next.load other = system.load other)
    (lighter : 1 + next.load worker ≤ system.load worker) :
    1 + next.effort + deployment.scheduler.chainMoves * system.execution.cycle ≤
      system.effort + deployment.scheduler.chainMoves * next.execution.cycle := by
  have change := sum_load system next member frame
  unfold effort
  rw [execution]
  omega

theorem Steady.mem_staff {system : System deployment} (steady : Steady system)
    {worker : WorkerId} {request : Request} (member : request ∈ system.pipeline worker) :
    worker ∈ staff deployment := by
  obtain ⟨id, known, -, route⟩ := steady.addressed worker request member
  exact System.mem_staff known route

theorem counts_of_local {event : Scheduler.Event} (isLocal : event.isLocal = true) :
    event.given = 0 ∧ event.taken = 0 := by
  cases event with
  | sendToActivity id signal result =>
      cases result with
      | error error => exact ⟨rfl, rfl⟩
      | ok value => cases isLocal
  | receive result =>
      cases result with
      | error error => exact ⟨rfl, rfl⟩
      | ok received =>
          cases received with
          | none => exact ⟨rfl, rfl⟩
          | some signal => cases isLocal
  | _ => exact ⟨rfl, rfl⟩

/-- The load counts the requests, the point and the replies of its worker only. -/
theorem load_congr {system next : System deployment} {worker : WorkerId}
    (points : next.points worker = system.points worker)
    (requests : next.requests worker = system.requests worker)
    (replies : next.replies worker = system.replies worker) :
    next.load worker = system.load worker := by
  unfold load
  rw [points, requests, replies]

/-- Each move is paid by the effort that it spends and by the chains that it begins. -/
theorem Advance.effort {system next : System deployment} {event : Event}
    (advance : Advance system event next) (steady : Steady system) {events : List Event}
    (reached : (machine deployment).run (initial deployment) events = some system)
    (active : next.execution.point.stage.Active) :
    event.moves.toNat + next.effort + deployment.scheduler.chainMoves * system.execution.cycle ≤
      system.effort + deployment.scheduler.chainMoves * next.execution.cycle := by
  have inOrder := run_inOrder reached
  have scanning := Scheduler.run_scanning (run_calls reached)
  cases advance with
  | waited =>
      change 0 + _ + _ ≤ _
      omega
  | scheduled isLocal transition =>
      obtain ⟨given, taken⟩ := counts_of_local isLocal
      apply effort_of_scheduler transition inOrder scanning active
      rw [given, taken]
      rfl
  | @sent id signal execution transition =>
      have member := System.mem_staff (known_of_send reached transition active) rfl
      apply effort_of_scheduler transition inOrder scanning active
      have heavier : ((staff deployment).map _).sum + system.load (deployment.route id) = _ :=
        sum_load system { system with execution := execution, requests := system.enqueue id signal }
          member fun other differs => load_congr rfl (Function.update_of_ne differs _ _) rfl
      have own : load { system with
          execution := execution, requests := system.enqueue id signal } (deployment.route id) =
          system.load (deployment.route id) + 5 := by
        simp only [load, enqueue, Function.update_self, List.length_append, List.length_singleton]
        omega
      rw [own] at heavier
      change _ + 0 = _ + 5
      omega
  | @answered worker reply rest id time execution head ready addressed transition =>
      have inside : reply.request ∈ system.pipeline worker := by simp [pipeline, head]
      apply effort_of_scheduler transition inOrder scanning active
      have lighter := sum_load { system with
          execution := execution
          replies := Function.update system.replies worker rest
          log := .answered reply :: system.log } system (steady.mem_staff inside)
        fun other differs => Eq.symm <| load_congr rfl rfl (Function.update_of_ne differs _ _)
      have own : system.load worker = load { system with
          execution := execution
          replies := Function.update system.replies worker rest
          log := .answered reply :: system.log } worker + 2 := by
        simp only [load, head, Function.update_self, List.length_cons]
        omega
      rw [own] at lighter
      change _ + 2 = _ + 0
      omega
  | @accepted worker request rest point head serving =>
      have inside : request ∈ system.pipeline worker := by simp [pipeline, head]
      change 1 + _ + _ ≤ _
      refine effort_of_worker (steady.mem_staff inside) ?_ ?_ ?_
      · rfl
      · intro other differs
        exact load_congr (Function.update_of_ne differs _ _) (Function.update_of_ne differs _ _) rfl
      · simp only [load, accept, point, head, Worker.Point.effort, Function.update_self,
          List.length_cons]
        omega
  | @returned worker signal request target time point serving =>
      have inside : request ∈ system.pipeline worker := by simp [pipeline, serving]
      change 1 + _ + _ ≤ _
      refine effort_of_worker (steady.mem_staff inside) ?_ ?_ ?_
      · rfl
      · intro other differs
        exact load_congr (Function.update_of_ne differs _ _) rfl rfl
      · simp only [load, point, Worker.Point.effort, Function.update_self]
        omega
  | @responded worker signal request point serving =>
      have inside : request ∈ system.pipeline worker := by simp [pipeline, serving]
      change 1 + _ + _ ≤ _
      refine effort_of_worker (steady.mem_staff inside) ?_ ?_ ?_
      · rfl
      · intro other differs
        exact load_congr (Function.update_of_ne differs _ _) rfl (Function.update_of_ne differs _ _)
      · simp only [load, respond, point, Worker.Point.effort, Function.update_self,
          List.length_append, List.length_singleton]
        omega

/-- The moves of a run without failures are bounded by its task chains. -/
theorem run_paced {events : List Event} {system : System deployment} (hosts : deployment.Hosts)
    (reached : (machine deployment).run (initial deployment) events = some system)
    (succeeds : ∀ event ∈ events, event.succeeds = true)
    (active : system.execution.point.stage.Active) :
    events.countP Event.moves ≤ deployment.scheduler.chainMoves * system.execution.cycle +
      (6 * deployment.scheduler.activityDepends.keys.length + 1) := by
  have paid := Machine.run_amortized Event.moves effort
    (fun system => deployment.scheduler.chainMoves * system.execution.cycle)
    (fun events system => (∀ event ∈ events, event.succeeds = true) ∧
      system.execution.point.stage.Active) ?_ ?_ reached ⟨succeeds, active⟩
  · have idle : ((staff deployment).map (initial deployment).load).sum = 0 := by
      apply List.sum_eq_zero
      intro number member
      obtain ⟨worker, -, rfl⟩ := List.mem_map.mp member
      rfl
    have bound := Scheduler.startupActivities_effort deployment.scheduler.newStates
      (sortIds deployment.scheduler.newStates.val.keys)
    rw [sortIds_length, Scheduler.states_keys] at bound
    have begins : (initial deployment).effort ≤
        6 * deployment.scheduler.activityDepends.keys.length + 1 +
          deployment.scheduler.chainMoves * (initial deployment).execution.cycle := by
      unfold effort
      rw [idle, Nat.zero_add]
      exact bound
    omega
  · rintro before event system next run stepped ⟨succeeds, active⟩
    exact ⟨(List.forall_mem_append.mp succeeds).1,
      active_of_step (run_coherent run) stepped active⟩
  · rintro before event system next run stepped ⟨succeeds, active⟩
    obtain ⟨earlier, last⟩ := List.forall_mem_append.mp succeeds
    have coherent := run_coherent run
    have steady := run_steady hosts run earlier (active_of_step coherent stepped active)
    exact (steady.advance coherent hosts (last event List.mem_cons_self) stepped active).effort
      steady run active

/-- A successful move leads to a state in which the scheduler is active. -/
def Continues (system : System deployment) : Prop :=
  ∃ event next, event.moves = true ∧ event.succeeds = true ∧ system.step event = some next ∧
    next.execution.point.stage.Active

/-- A call of the scheduler that moves no signal continues the run. -/
theorem continues_scheduled {system : System deployment} {event : Scheduler.Event}
    {execution : Scheduler.Execution deployment.scheduler} (isLocal : event.isLocal = true)
    (stepped : Scheduler.step system.execution event = some execution)
    (active : execution.point.stage.Active) : Continues system :=
  ⟨.scheduler event, _, rfl, rfl, act_scheduled isLocal stepped, active⟩

theorem continues_sent {system : System deployment} {id : ActivityId} {signal : Signal}
    {execution : Scheduler.Execution deployment.scheduler}
    (stepped : Scheduler.step system.execution (.sendToActivity id signal (.ok ())) =
      some execution)
    (active : execution.point.stage.Active) : Continues system :=
  ⟨.send id signal, _, rfl, rfl, act_send stepped, active⟩

/-- The scheduler that waits takes each ready signal of a known activity. -/
theorem receives_ready {scheduler : Scheduler} {execution : Scheduler.Execution scheduler}
    (waits : execution.point.Waits) {id : ActivityId}
    (known : id ∈ scheduler.activityDepends.keys) (time : Timestamp) :
    ∃ next, Scheduler.step execution (.receive (.ok (some (.ready id time)))) = some next ∧
      next.point.stage.Active := by
  obtain ⟨states, point, cycle, reason⟩ := execution
  have inside : id ∈ states.val.keys := by
    rw [Scheduler.states_keys]
    exact known
  rcases waits with same | same
  · cases same
    refine ⟨_, congrArg some (if_pos inside), ?_⟩
    exact .inr (Scheduler.startupLoop_stage _).1
  · cases same
    refine ⟨_, congrArg some (if_pos inside), ?_⟩
    exact .inr (.inr (Scheduler.chainLoop_continues _ _).stage_eq)

theorem returns (worker : Worker) {signal : Signal} {id : ActivityId}
    (target : signal.target? = some id) (time : Timestamp) :
    worker.step (.call signal) (.returned (.ok ()) time) = some (.respond (.ready id time)) := by
  cases signal with
  | startup other sent | step other sent | shutdown other sent =>
      cases target
      rfl
  | _ => cases target

/-- A worker with a request in its channels moves, or the scheduler that waits takes a reply. -/
theorem Steady.continues {system : System deployment} (steady : Steady system)
    (coherent : Coherent system) (waits : system.execution.point.Waits) {worker : WorkerId}
    (busy : system.pipeline worker ≠ []) : Continues system := by
  cases replies : system.replies worker with
  | cons reply rest =>
      obtain ⟨id, known, target, -⟩ :=
        steady.addressed worker reply.request (by simp [pipeline, replies])
      obtain ⟨time, ready⟩ := steady.ready
        (coherent.replied worker reply (by rw [replies]; exact List.mem_cons_self)) target
      obtain ⟨execution, stepped, active⟩ := receives_ready waits known time
      rw [← ready] at stepped
      exact ⟨_, _, rfl, rfl, act_receive replies stepped, active⟩
  | nil =>
      have served := coherent.serves worker
      cases serving : system.serving worker with
      | some request =>
          obtain ⟨id, -, target, -⟩ :=
            steady.addressed worker request (by simp [pipeline, serving])
          rw [serving] at served
          generalize source : system.points worker = point at served
          cases served with
          | calling =>
              have moved := returns (deployment.workers worker) target ⟨Duration.zero⟩
              rw [← source] at moved
              exact ⟨_, _, rfl, rfl, act_returned moved serving, waits.active⟩
          | @responding signal request genuine =>
              have moved : (deployment.workers worker).step (.respond signal)
                  (.sendToScheduler signal (.ok ())) = some .receive := if_pos rfl
              rw [← source] at moved
              exact ⟨_, _, rfl, rfl, act_respond moved serving, waits.active⟩
          | acknowledging unaddressed =>
              rw [unaddressed] at target
              cases target
      | none =>
          cases head : system.requests worker with
          | nil =>
              rw [pipeline, replies, serving, head] at busy
              exact absurd rfl busy
          | cons request rest =>
              rw [serving] at served
              have running := steady.running worker
              generalize source : system.points worker = point at served running
              cases served with
              | idle idle =>
                  cases point with
                  | receive => exact ⟨_, _, rfl, rfl, act_accept source head, waits.active⟩
                  | call | respond => cases idle
                  | _ => cases running

/-- An active scheduler waits for a reply, sends a signal, or makes a call on its own. -/
theorem acts {scheduler : Scheduler} {execution : Scheduler.Execution scheduler}
    (active : execution.point.stage.Active) :
    execution.point.Waits ∨
      (∃ event next, event.isLocal = true ∧ Scheduler.step execution event = some next ∧
        next.point.stage.Active) ∨
      ∃ id signal next, Scheduler.step execution (.sendToActivity id signal (.ok ())) = some next ∧
        next.point.stage.Active := by
  obtain ⟨states, point, cycle, reason⟩ := execution
  cases point with
  | startup activity remaining =>
      refine .inr (.inr ⟨activity, .startup activity ⟨Duration.zero⟩, _, if_pos ⟨rfl, rfl⟩, ?_⟩)
      exact (Scheduler.startupActivities_stage _ _).1
  | startupElapsed =>
      have early : ¬ Duration.zero.gt scheduler.startupTimeout = true := by
        simp [Duration.gt, Duration.zero]
      refine .inr (.inl ⟨.elapsed Duration.zero, ⟨states, .startupReceive, cycle, reason⟩, rfl, ?_,
        .inr (.inl rfl)⟩)
      simp only [Scheduler.step, if_neg early]
  | startupReceive => exact .inl (.inl rfl)
  | step activity remaining =>
      refine .inr (.inr ⟨activity, .step activity ⟨Duration.zero⟩, _, if_pos ⟨rfl, rfl⟩, ?_⟩)
      exact .inr (.inr (Scheduler.stepReadyActivities_continues _ _ _).stage_eq)
  | stepReceive => exact .inl (.inr rfl)
  | chainElapsed =>
      refine .inr (.inl ⟨.elapsed Duration.zero, ?_⟩)
      by_cases late : (scheduler.cycleTime.saturatingSub Duration.zero).isZero = true
      · exact ⟨_, rfl, if_pos late, .inr (.inr rfl)⟩
      · exact ⟨_, rfl, if_neg late, .inr (.inr rfl)⟩
  | sleep timeLeft => exact .inr (.inl ⟨.sleep timeLeft, _, rfl, if_pos rfl, .inr (.inr rfl)⟩)
  | shutdownRequested =>
      refine .inr (.inl ⟨.shutdownRequested false, _, rfl, rfl, ?_⟩)
      exact .inr (.inr (Scheduler.taskChain_continues _ _).stage_eq)
  | _ => rcases active with wrong | wrong | wrong <;> cases wrong

/-- A wait has an activity that owes an answer, if no dependency is cyclic. -/
theorem Steady.busy {system : System deployment} (steady : Steady system)
    (acyclic : ∀ id, ¬ Relation.TransGen deployment.scheduler.Depends id id)
    (scanning : Scheduler.Scanning system.execution) (waits : system.execution.point.Waits) :
    ∃ id, system.pending id ≠ [] := by
  rcases waits with startup | step
  · have stage : system.execution.point.stage = .waiting := by
      rw [startup]
      rfl
    have unready := steady.owing.unready stage
    rw [Bool.eq_false_iff, Ne, Scheduler.allReady_iff] at unready
    push Not at unready
    obtain ⟨id, known, unready⟩ := unready
    exact ⟨id, steady.owing.outstanding id (Scheduler.asked_of_waiting stage known)
      (Bool.eq_false_iff.mpr unready)⟩
  · obtain ⟨id, known, triggered, unready⟩ := scanning.outstanding acyclic step
    have stage : system.execution.point.stage = .chaining := by
      rw [step]
      rfl
    exact ⟨id, steady.owing.outstanding id
      (Scheduler.asked_of_chaining stage known triggered) unready⟩

/-- A steady system without cyclic dependencies always goes on. -/
theorem Steady.progress {system : System deployment} (steady : Steady system)
    (acyclic : ∀ id, ¬ Relation.TransGen deployment.scheduler.Depends id id)
    (coherent : Coherent system) (scanning : Scheduler.Scanning system.execution)
    (active : system.execution.point.stage.Active) : Continues system := by
  rcases acts active with waits | ⟨event, next, isLocal, stepped, goes⟩ |
    ⟨id, signal, next, stepped, goes⟩
  · obtain ⟨id, owes⟩ := steady.busy acyclic scanning waits
    have busy : system.pipeline (deployment.route id) ≠ [] := by
      intro empty
      rw [pending, empty] at owes
      exact owes rfl
    exact steady.continues coherent waits busy
  · exact continues_scheduled isLocal stepped goes
  · exact continues_sent stepped goes

/-- Without failures and cyclic dependencies the system never blocks, and each of its task chains
ends within six moves for each activity and three more. -/
theorem run_neverBlocks (deployment : Deployment) (hosts : deployment.Hosts)
    (acyclic : ∀ id, ¬ Relation.TransGen deployment.scheduler.Depends id id)
    (events : List Event) (system : System deployment)
    (reached : (machine deployment).run (initial deployment) events = some system)
    (succeeds : ∀ event ∈ events, event.succeeds = true)
    (active : system.execution.point.stage.Active) :
    events.countP Event.moves ≤
        (6 * deployment.scheduler.activityDepends.keys.length + 3) * system.execution.cycle +
          (6 * deployment.scheduler.activityDepends.keys.length + 1) ∧
      ∃ event next, event.moves = true ∧ event.succeeds = true ∧
        system.step event = some next ∧ next.execution.point.stage.Active := by
  have steady := run_steady hosts reached succeeds active
  exact ⟨run_paced hosts reached succeeds active, steady.progress acyclic (run_coherent reached)
    (Scheduler.run_scanning (run_calls reached)) active⟩

theorem pairChains_point : ((machine pair).run (initial pair) pairChains).map
    (fun system => (system.execution.point, system.execution.cycle)) = some (.stepReceive, 2) := by
  decide

/-- Activity 2 is called in the second task chain after 31 moves. -/
theorem run_neverBlocks_pair :
    ∃ system, (machine pair).run (initial pair) pairChains = some system ∧
      pairChains.countP Event.moves = 31 ∧ 31 ≤ (6 * 2 + 3) * 2 + (6 * 2 + 1) ∧
      ∃ event next, event.moves = true ∧ event.succeeds = true ∧
        system.step event = some next ∧ next.execution.point.stage.Active := by
  obtain ⟨system, reached, observed⟩ := Option.map_eq_some_iff.mp pairChains_point
  obtain ⟨point, cycle⟩ := Prod.mk.inj observed
  have hosts : pair.Hosts := by
    unfold Deployment.Hosts
    decide
  have active : system.execution.point.stage.Active := by
    rw [point]
    exact .inr (.inr rfl)
  have moves : pairChains.countP Event.moves = 31 := by decide
  obtain ⟨paced, progress⟩ := run_neverBlocks pair hosts Scheduler.pair_acyclic pairChains system
    reached (by decide) active
  rw [moves, cycle] at paced
  exact ⟨system, reached, moves, paced, progress⟩

end System

end Feo
