import Feo.Foundation.Split
import Feo.Proof.System.Order

namespace Feo

open Foundation

namespace Scheduler

variable {scheduler : Scheduler}

/-- These activities have not yet confirmed their shutdown. -/
def Point.unconfirmed? : Point → Option (List ActivityId)
  | .shutdown _ _ pending => some pending
  | .shutdownElapsed pending _ => some pending
  | .shutdownReceive pending _ => some pending
  | .broadcastTerminate unconfirmed => some unconfirmed
  | _ => none

theorem shutdownLoop_unconfirmed (states : States scheduler) (cycle : Nat)
    (reason : Option String) (timeout : Duration) (pending : List ActivityId) :
    (shutdownLoop states cycle reason timeout pending).point.unconfirmed? = some pending := by
  cases pending <;> rfl

theorem shutdownActivities_unconfirmed {states : States scheduler} {cycle : Nat}
    {reason : Option String} {pending remaining unconfirmed : List ActivityId}
    (same : (shutdownActivities states cycle reason pending remaining).point.unconfirmed? =
      some unconfirmed) : unconfirmed = pending := by
  rcases shutdownActivities_cases states cycle reason pending remaining with
    ⟨_, _, -, target⟩ | ⟨-, -, timeout, target⟩ | ⟨-, -, _, target⟩
  · rw [target] at same
    exact (Option.some.inj same).symm
  · rw [target, shutdownLoop_unconfirmed] at same
    exact (Option.some.inj same).symm
  · rw [target] at same
    cases same

theorem shutdownGracefully_unconfirmed {states : States scheduler} {cycle : Nat} {reason : String}
    {unconfirmed : List ActivityId}
    (same : (shutdownGracefully states cycle reason).point.unconfirmed? = some unconfirmed) :
    unconfirmed = startedActivities states := by
  rcases shutdownGracefully_cases states cycle reason with ⟨none, target⟩ | ⟨_, _, some, target⟩
  · rw [target] at same
    rw [none]
    exact (Option.some.inj same).symm
  · rw [target] at same
    rw [some]
    exact (Option.some.inj same).symm

/-- The confirmation loop starts with the started activities and drops the answered ones. -/
theorem Transition.unconfirmed {execution next : Execution scheduler} {event : Event}
    (transition : Transition execution event next) (stage : next.point.stage.Stopping)
    {unconfirmed : List ActivityId} (same : next.point.unconfirmed? = some unconfirmed) :
    (execution.point.stage.Active ∧ unconfirmed = startedActivities execution.states) ∨
      ∃ pending, execution.point.stage.Stopping ∧
        execution.point.unconfirmed? = some pending ∧
        (unconfirmed = pending ∨
          ∃ result, event = .receive result ∧ unconfirmed = confirmShutdown pending result) := by
  have active {target : Execution scheduler} (running : target.point.stage.Active)
      (stopping : target.point.stage.Stopping) : False := running.not_stopping stopping
  cases transition with
  | startupSent => exact (active (startupActivities_stage _ _).1 stage).elim
  | startupReady => exact (active (.inr (startupLoop_stage _).1) stage).elim
  | stepSent =>
      exact (active (.inr (.inr (stepReadyActivities_continues _ _ _).stage_eq)) stage).elim
  | stepReady => exact (active (.inr (.inr (chainLoop_continues _ _).stage_eq)) stage).elim
  | continued => exact (active (.inr (.inr (taskChain_continues _ _).stage_eq)) stage).elim
  | startupLate => exact .inl ⟨.inr (.inl rfl), shutdownGracefully_unconfirmed same⟩
  | requested => exact .inl ⟨.inr (.inr rfl), shutdownGracefully_unconfirmed same⟩
  | failed waits => exact .inl ⟨waits.active, shutdownGracefully_unconfirmed same⟩
  | ignored waits => exact (active waits.active stage).elim
  | @shutdownSent states activity remaining pending =>
      exact .inr ⟨pending, .inl rfl, rfl, .inl (shutdownActivities_unconfirmed same)⟩
  | shutdownLate | shutdownInTime =>
      cases same
      exact .inr ⟨_, .inr (.inl rfl), rfl, .inl rfl⟩
  | @shutdownReceived states pending timeout cycle reason result =>
      rw [shutdownLoop_unconfirmed] at same
      exact .inr ⟨pending, .inr (.inl rfl), rfl, .inr ⟨result, rfl, (Option.some.inj same).symm⟩⟩
  | connected => rcases awaitAgents_stage _ _ _ _ with other | other <;> rw [other] at stage <;>
      rcases stage with wrong | wrong | wrong <;> cases wrong
  | ackReceived =>
      rw [ackLoop_stage] at stage
      rcases stage with wrong | wrong | wrong <;> cases wrong
  | _ => cases same

theorem unconfirmed_of_stopping {point : Point} (stage : point.stage.Stopping) :
    ∃ unconfirmed, point.unconfirmed? = some unconfirmed := by
  cases point with
  | shutdown | shutdownElapsed | shutdownReceive | broadcastTerminate => exact ⟨_, rfl⟩
  | _ => rcases stage with wrong | wrong | wrong <;> cases wrong

/-- A run calls `shutdown_gracefully` from an active stage. -/
theorem Transition.source_of_stopping {execution next : Execution scheduler} {event : Event}
    (transition : Transition execution event next) (stage : next.point.stage.Stopping) :
    execution.point.stage.Active ∨ execution.point.stage.Stopping := by
  obtain ⟨unconfirmed, same⟩ := unconfirmed_of_stopping stage
  rcases transition.unconfirmed stage same with ⟨active, -⟩ | ⟨_, stopping, -⟩
  · exact .inl active
  · exact .inr stopping

end Scheduler

namespace System

open Scheduler (startedActivities)

variable {deployment : Deployment}

/-- The shutdown of an activity has returned. -/
def Finished (log : List Entry) (id : ActivityId) : Prop :=
  ∃ time cycle result, Entry.returned ⟨.shutdown id time, cycle⟩ result ∈ log

theorem Finished.mono {log extended : List Entry} {id : ActivityId} (finished : Finished log id)
    (grows : log ⊆ extended) : Finished extended id := by
  obtain ⟨time, cycle, result, returned⟩ := finished
  exact ⟨time, cycle, result, grows returned⟩

/-- Only shutdown requests of the started activities are pending, and each activity that is no
longer unconfirmed has finished. -/
structure Confirming {scheduler : Scheduler} (execution : Scheduler.Execution scheduler)
    (pending : ActivityId → List Request) (log : List Entry) : Prop where
  shutting : ∀ id ∈ startedActivities execution.states, ∀ request ∈ pending id,
    ∃ time, request.signal = .shutdown id time
  confirmed : ∀ unconfirmed, execution.point.unconfirmed? = some unconfirmed →
    ∀ id ∈ startedActivities execution.states, id ∈ unconfirmed ∨ Finished log id

section Update

variable {scheduler : Scheduler} {execution next : Scheduler.Execution scheduler}
  {pending rest : ActivityId → List Request} {log extended : List Entry}

theorem Confirming.mono (confirming : Confirming execution pending log)
    (shrinks : ∀ id, (rest id).Sublist (pending id)) (grows : log ⊆ extended) :
    Confirming execution rest extended where
  shutting id started request member :=
    confirming.shutting id started request ((shrinks id).subset member)
  confirmed unconfirmed same id started :=
    (confirming.confirmed unconfirmed same id started).imp (fun inside => inside)
      fun finished => finished.mono grows

/-- The call of `shutdown_gracefully` has confirmed nothing. -/
theorem confirming_entry {event : Scheduler.Event}
    (transition : Scheduler.Transition execution event next)
    (active : execution.point.stage.Active) (stage : next.point.stage.Stopping)
    (settled : ∀ id ∈ startedActivities next.states, pending id = []) :
    Confirming next pending log where
  shutting id started request member := by
    rw [settled id started] at member
    cases member
  confirmed unconfirmed same id started := by
    have states := transition.shift.states_of_passive stage.not_active
    rcases transition.unconfirmed stage same with ⟨-, equal⟩ | ⟨_, stopping, -⟩
    · rw [equal, ← states]
      exact .inl started
    · exact absurd stopping active.not_stopping

/-- A step of `shutdown_gracefully` drops only activities with a received answer. -/
theorem Confirming.step {event : Scheduler.Event}
    (transition : Scheduler.Transition execution event next)
    (stopping : execution.point.stage.Stopping) (stage : next.point.stage.Stopping)
    (shutting : ∀ id ∈ startedActivities execution.states, ∀ request ∈ rest id,
      ∃ time, request.signal = .shutdown id time)
    (grows : log ⊆ extended)
    (genuine : ∀ result unconfirmed id, event = .receive result →
      id ∈ startedActivities execution.states → id ∈ unconfirmed →
        id ∈ Scheduler.confirmShutdown unconfirmed result ∨ Finished extended id)
    (confirming : Confirming execution pending log) : Confirming next rest extended where
  shutting := by
    rw [transition.shift.states_of_passive stage.not_active]
    exact shutting
  confirmed unconfirmed same id started := by
    rw [transition.shift.states_of_passive stage.not_active] at started
    rcases transition.unconfirmed stage same with ⟨active, -⟩ | ⟨before, -, point, kept⟩
    · exact absurd stopping active.not_stopping
    · have earlier := (confirming.confirmed before point id started).imp
        (fun inside => inside) fun finished => finished.mono grows
      rcases kept with rfl | ⟨result, received, rfl⟩
      · exact earlier
      · exact earlier.elim (genuine result before id received started) .inr

end Update

/-- A confirmation drops only the activity that answered. -/
theorem confirmShutdown_cases {unconfirmed : List ActivityId} {id : ActivityId}
    (member : id ∈ unconfirmed) (result : Except Error (Option Signal)) :
    id ∈ Scheduler.confirmShutdown unconfirmed result ∨
      ∃ time answer, result = .ok (some (Worker.response id time answer)) := by
  unfold Scheduler.confirmShutdown
  split
  · next target time =>
      by_cases same : id = target
      · subst same
        exact .inr ⟨time, .ok (), rfl⟩
      · exact .inl ((List.mem_erase_of_ne same).mpr member)
  · next target error =>
      by_cases same : id = target
      · subst same
        exact .inr ⟨⟨Duration.zero⟩, .error error, rfl⟩
      · exact .inl ((List.mem_erase_of_ne same).mpr member)
  · exact .inl member

theorem response_target {first second : ActivityId} {firstTime secondTime : Timestamp}
    {firstResult secondResult : Except ActivityError Unit}
    (same : Worker.response first firstTime firstResult =
      Worker.response second secondTime secondResult) : first = second := by
  cases firstResult <;> cases secondResult <;> cases same <;> rfl

/-- The signals of `shutdown_gracefully` are shutdown signals. -/
theorem signal_of_stopping {scheduler : Scheduler} {execution next : Scheduler.Execution scheduler}
    {id : ActivityId} {signal : Signal} {result : Except Error Unit}
    (transition : Scheduler.Transition execution (.sendToActivity id signal result) next)
    (stopping : execution.point.stage.Stopping) : ∃ time, signal = .shutdown id time := by
  cases transition with
  | shutdownSent => exact ⟨_, rfl⟩
  | _ => rcases stopping with wrong | wrong | wrong <;> cases wrong

/-- Each flow within `shutdown_gracefully` keeps the confirmations genuine. -/
theorem Flow.confirming {system next : System deployment} (flow : Flow system next)
    (stopping : system.execution.point.stage.Stopping)
    (stage : next.execution.point.stage.Stopping)
    (confirming : Confirming system.execution system.pending system.log) :
    Confirming next.execution next.pending next.log := by
  cases flow with
  | @scheduled event isLocal transition pending queued log =>
      rw [funext pending, log]
      refine confirming.step transition stopping stage confirming.shutting
        (fun _ inside => inside) ?_
      rintro result unconfirmed id rfl started member
      rcases confirmShutdown_cases member result with kept | ⟨time, answer, rfl⟩
      · exact .inl kept
      · cases isLocal
  | @sent id signal transition pending queued log =>
      rw [log]
      refine confirming.step transition stopping stage ?_ (fun _ inside => inside)
        (fun _ _ _ wrong => nomatch wrong)
      intro other started request member
      rw [pending other, List.mem_append] at member
      rcases member with earlier | last
      · exact confirming.shutting other started request earlier
      · split at last
        · next same =>
            obtain ⟨time, rfl⟩ := signal_of_stopping transition stopping
            rw [List.mem_singleton.mp last, same]
            exact ⟨time, rfl⟩
        · cases last
  | @answered id time result request transition addressed returned pending queued log =>
      have drops (other : ActivityId) : (next.pending other).Sublist (system.pending other) := by
        rw [pending other]
        exact List.sublist_append_right _ _
      have grows := List.subset_cons_self
        (Entry.answered ⟨Worker.response id time result, request⟩) system.log
      rw [log]
      refine confirming.step transition stopping stage
        (fun other started request member =>
          confirming.shutting other started request ((drops other).subset member)) grows ?_
      intro received unconfirmed other event started member
      cases event
      rcases confirmShutdown_cases member _ with kept | ⟨otherTime, answer, same⟩
      · exact .inl kept
      · obtain rfl := response_target (Option.some.inj (Except.ok.inj same))
        have inside : request ∈ system.pending id := by
          rw [pending id, if_pos rfl]
          exact List.mem_cons_self
        obtain ⟨sent, shutdown⟩ := confirming.shutting id started request inside
        obtain ⟨signal, cycle⟩ := request
        cases shutdown
        exact .inr ⟨sent, cycle, result, grows returned⟩
  | @acknowledged agent request transition pending queued log =>
      rw [funext pending, log]
      refine confirming.step transition stopping stage confirming.shutting
        (List.subset_cons_self _ _) ?_
      intro received unconfirmed id event started member
      cases event
      exact .inl member
  | broadcast transition pending queued log =>
      rw [funext pending, log]
      exact confirming.step transition stopping stage confirming.shutting
        (fun _ inside => inside) (fun _ _ _ wrong => nomatch wrong)
  | called execution addressed pending queued log =>
      rw [execution, funext pending, log]
      exact confirming.mono (fun _ => List.Sublist.refl _) (List.subset_cons_self _ _)
  | worked entries execution pending queued log uncalled =>
      rw [execution, log]
      exact confirming.mono pending (List.subset_append_right _ _)

/-- A flow that begins the shutdown is a transition of the scheduler. -/
theorem Flow.stopping {system next : System deployment} (flow : Flow system next)
    (stage : next.execution.point.stage.Stopping) :
    system.execution.point.stage.Stopping ∨ system.execution.point.stage.Active ∧
      ∃ event, Scheduler.Transition system.execution event next.execution := by
  have source {event : Scheduler.Event}
      (transition : Scheduler.Transition system.execution event next.execution) :
      system.execution.point.stage.Stopping ∨ system.execution.point.stage.Active ∧
        ∃ event, Scheduler.Transition system.execution event next.execution :=
    (transition.source_of_stopping stage).elim (fun active => .inr ⟨active, event, transition⟩)
      .inl
  cases flow with
  | scheduled _ transition => exact source transition
  | sent transition => exact source transition
  | answered transition => exact source transition
  | acknowledged transition => exact source transition
  | broadcast transition => exact source transition
  | called execution => exact .inl (by rw [← execution]; exact stage)
  | worked _ execution => exact .inl (by rw [← execution]; exact stage)

/-- No started activity owes an answer when `shutdown_gracefully` is called. -/
def AlwaysSettled (deployment : Deployment) (events : List Event) : Prop :=
  AtEach (fun front event => ∀ source target : System deployment,
    (machine deployment).run (initial deployment) front = some source →
      source.step event = some target → source.execution.point.stage.Active →
        target.execution.point.stage.Stopping →
          ∀ id ∈ startedActivities target.execution.states, target.pending id = []) events

/-- Every run with settled calls of `shutdown_gracefully` confirms only finished shutdowns. -/
theorem run_confirming {events : List Event} {system : System deployment}
    (reached : (machine deployment).run (initial deployment) events = some system)
    (settled : AlwaysSettled deployment events)
    (stage : system.execution.point.stage.Stopping) :
    Confirming system.execution system.pending system.log := by
  refine (machine deployment).run_induction
    (fun history system => AlwaysSettled deployment history →
      system.execution.point.stage.Stopping →
        Confirming system.execution system.pending system.log) ?_ ?_ reached settled stage
  · intro _ stopping
    exact absurd stopping (Scheduler.startupActivities_stage _ _).1.not_stopping
  · intro history system event next before hypothesis stepped extended stopping
    obtain ⟨earlier, last⟩ := (atEach_concat _ _ _).mp extended
    have flow := (step_move stepped).flow (run_coherent before)
    rcases flow.stopping stopping with already | ⟨active, _, transition⟩
    · exact flow.confirming already stopping (hypothesis earlier already)
    · exact confirming_entry transition active stopping
        (last system next before stepped active stopping)

/-- The shutdown signal of a run goes to a started activity. -/
theorem started_of_shutdown {history : List Scheduler.Event} {scheduler : Scheduler}
    {execution : Scheduler.Execution scheduler}
    (lifecycle : Scheduler.Lifecycle history execution)
    (stage : execution.point.stage = .terminating) {id : ActivityId}
    (sent : Scheduler.Phase.shutdown ∈ Scheduler.sentTo id history) :
    id ∈ startedActivities execution.states := by
  obtain ⟨steps, same⟩ := lifecycle.closed (.inr (.inl stage)) id
  rw [same] at sent
  by_contra absent
  rw [if_neg absent, List.append_nil] at sent
  split at sent
  · unfold Scheduler.word at sent
    rcases List.mem_cons.mp sent with wrong | repeated
    · cases wrong
    · cases List.eq_of_mem_replicate repeated
  · cases sent

/-- A sent shutdown signal is a call of the scheduler. -/
theorem shutdown_of_send {events : List Event} {id : ActivityId} {time : Timestamp}
    (sent : Event.send id (.shutdown id time) ∈ events) :
    Scheduler.Phase.shutdown ∈ Scheduler.sentTo id (calls events) := by
  unfold Scheduler.sentTo calls
  rw [List.mem_filterMap]
  refine ⟨.sendToActivity id (.shutdown id time) (.ok ()), ?_, ?_⟩
  · exact List.mem_filterMap.mpr ⟨_, sent, rfl⟩
  · simp [Scheduler.Event.phaseTo?, Scheduler.Phase.of]

/-- Without owed answers at its call, `shutdown_gracefully` counts only answers to shutdowns, and
it leaves its wait loop when each activity that was sent one has finished. -/
theorem run_shutdown_confirmed (events : List Event) (system : System deployment)
    (reached : (machine deployment).run (initial deployment) events = some system)
    (settled : AlwaysSettled deployment events) :
    (system.execution.point = .broadcastTerminate [] →
      ∀ id time, Event.send id (.shutdown id time) ∈ events → Finished system.log id) ∧
      (system.execution.point.stage.Stopping →
        ∀ worker, ∀ reply ∈ system.replies worker,
          ∀ id ∈ startedActivities system.execution.states,
            reply.request.signal.target? = some id →
              ∃ time, reply.request.signal = .shutdown id time) := by
  constructor
  · intro point id time sent
    have stage : system.execution.point.stage = .terminating := by
      rw [point]
      rfl
    have confirming := run_confirming reached settled (.inr (.inr stage))
    have started := started_of_shutdown (Scheduler.run_lifecycle (run_calls reached)) stage
      (shutdown_of_send sent)
    have confirmed := confirming.confirmed [] (by rw [point]; rfl) id started
    exact confirmed.resolve_left List.not_mem_nil
  · intro stage worker reply member id started addressed
    have confirming := run_confirming reached settled stage
    apply confirming.shutting id started
    rw [mem_pending_iff (run_coherent reached)]
    refine ⟨addressed, worker, ?_⟩
    unfold pipeline
    exact List.mem_append_left _ (List.mem_map_of_mem member)

instance (stage : Scheduler.Stage) : Decidable stage.Active :=
  inferInstanceAs (Decidable (_ ∨ _ ∨ _))

instance (stage : Scheduler.Stage) : Decidable stage.Stopping :=
  inferInstanceAs (Decidable (_ ∨ _ ∨ _))

/-- This test follows a run and looks at each call of `shutdown_gracefully`. -/
def settles (system : System deployment) : List Event → Bool
  | [] => true
  | event :: rest =>
      match system.step event with
      | none => true
      | some next =>
          (!(decide system.execution.point.stage.Active &&
              decide next.execution.point.stage.Stopping) ||
            (startedActivities next.execution.states).all fun id => (next.pending id).isEmpty) &&
          settles next rest

theorem settled_of_settles {start : System deployment} {events front back : List Event}
    {event : Event} (test : start.settles events = true) (split : events = front ++ event :: back)
    {source target : System deployment}
    (reached : (machine deployment).run start front = some source)
    (stepped : source.step event = some target) (active : source.execution.point.stage.Active)
    (stopping : target.execution.point.stage.Stopping) :
    ∀ id ∈ startedActivities target.execution.states, target.pending id = [] := by
  subst split
  induction front generalizing start with
  | nil =>
      cases reached
      simp only [List.nil_append, settles, stepped, Bool.and_eq_true, Bool.or_eq_true] at test
      rcases test.1 with outside | empty
      · simp [active, stopping] at outside
      · intro id started
        exact List.isEmpty_iff.mp (List.all_eq_true.mp empty id started)
  | cons first rest hypothesis =>
      obtain ⟨middle, begun, continued⟩ := Option.bind_eq_some_iff.mp reached
      change start.step first = some middle at begun
      simp only [List.cons_append, settles, begun, Bool.and_eq_true] at test
      exact hypothesis continued test.2

theorem alwaysSettled_of_settles {events : List Event}
    (test : (initial deployment).settles events = true) : AlwaysSettled deployment events :=
  fun _ _ _ split _ _ reached stepped active stopping =>
    settled_of_settles test split reached stepped active stopping

/-- The step of the activity is answered, and then it is shut down on request. -/
def soloShutdown : List Event :=
  soloStep ++
    [.worker ⟨1⟩ (.returned (.ok ()) ⟨Duration.zero⟩),
      .worker ⟨1⟩ (.sendToScheduler (.ready ⟨1⟩ ⟨Duration.zero⟩) (.ok ())),
      .receive ⟨1⟩ (.ready ⟨1⟩ ⟨Duration.zero⟩),
      .scheduler (.elapsed Duration.zero),
      .scheduler (.shutdownRequested true),
      .send ⟨1⟩ (.shutdown ⟨1⟩ ⟨Duration.zero⟩),
      .worker ⟨1⟩ (.receive (.ok (some (.shutdown ⟨1⟩ ⟨Duration.zero⟩)))),
      .worker ⟨1⟩ (.returned (.ok ()) ⟨Duration.zero⟩),
      .worker ⟨1⟩ (.sendToScheduler (.ready ⟨1⟩ ⟨Duration.zero⟩) (.ok ())),
      .scheduler (.elapsed Duration.zero),
      .receive ⟨1⟩ (.ready ⟨1⟩ ⟨Duration.zero⟩)]

theorem run_shutdown_confirmed_solo :
    ∃ system, (machine solo).run (initial solo) soloShutdown = some system ∧
      system.execution.point = .broadcastTerminate [] ∧ Finished system.log ⟨1⟩ := by
  have run : ((machine solo).run (initial solo) soloShutdown).map
      (fun system => system.execution.point) = some (.broadcastTerminate []) := by decide
  obtain ⟨system, reached, point⟩ := Option.map_eq_some_iff.mp run
  have settled : AlwaysSettled solo soloShutdown := alwaysSettled_of_settles (by decide)
  exact ⟨system, reached, point, (run_shutdown_confirmed soloShutdown system reached settled).1
    point ⟨1⟩ ⟨Duration.zero⟩ (by simp [soloShutdown])⟩

/-- The step of the activity outlasts the receive timeout, and its answer is then counted as the
confirmation of the shutdown. -/
def soloStall : List Event :=
  soloStep ++
    [.scheduler (.receive (.ok none)),
      .send ⟨1⟩ (.shutdown ⟨1⟩ ⟨Duration.zero⟩),
      .worker ⟨1⟩ (.returned (.ok ()) ⟨Duration.zero⟩),
      .worker ⟨1⟩ (.sendToScheduler (.ready ⟨1⟩ ⟨Duration.zero⟩) (.ok ())),
      .scheduler (.elapsed Duration.zero),
      .receive ⟨1⟩ (.ready ⟨1⟩ ⟨Duration.zero⟩)]

theorem run_shutdown_unconfirmed_solo :
    ¬ ∀ events system, (machine solo).run (initial solo) events = some system →
      system.execution.point = .broadcastTerminate [] →
        ∀ id time, Event.send id (.shutdown id time) ∈ events → Finished system.log id := by
  intro confirmed
  have run : ((machine solo).run (initial solo) soloStall).map
      (fun system => (system.execution.point, system.log)) =
        some (.broadcastTerminate [],
          [.answered ⟨.ready ⟨1⟩ ⟨Duration.zero⟩, ⟨.step ⟨1⟩ ⟨Duration.zero⟩, 1⟩⟩,
            .replied ⟨.ready ⟨1⟩ ⟨Duration.zero⟩, ⟨.step ⟨1⟩ ⟨Duration.zero⟩, 1⟩⟩,
            .returned ⟨.step ⟨1⟩ ⟨Duration.zero⟩, 1⟩ (.ok ()),
            .called ⟨.step ⟨1⟩ ⟨Duration.zero⟩, 1⟩,
            .answered ⟨.ready ⟨1⟩ ⟨Duration.zero⟩, ⟨.startup ⟨1⟩ ⟨Duration.zero⟩, 0⟩⟩,
            .replied ⟨.ready ⟨1⟩ ⟨Duration.zero⟩, ⟨.startup ⟨1⟩ ⟨Duration.zero⟩, 0⟩⟩,
            .returned ⟨.startup ⟨1⟩ ⟨Duration.zero⟩, 0⟩ (.ok ()),
            .called ⟨.startup ⟨1⟩ ⟨Duration.zero⟩, 0⟩]) := by decide
  obtain ⟨system, reached, same⟩ := Option.map_eq_some_iff.mp run
  obtain ⟨point, log⟩ := Prod.mk.inj same
  have finished := confirmed soloStall system reached point ⟨1⟩ ⟨Duration.zero⟩
    (by simp [soloStall])
  rw [log] at finished
  simp [Finished] at finished

end System

end Feo
