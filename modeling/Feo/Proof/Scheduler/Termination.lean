import Feo.Foundation.Split
import Feo.Proof.Scheduler.Stage

namespace Feo.Scheduler

open Foundation

variable {scheduler : Scheduler}

/-- The answer of the environment leads to none of the panics. -/
def Benign (execution : Execution scheduler) (event : Event) : Prop :=
  match execution.point, event with
  | .startup _ _, .sendToActivity _ _ result => result = .ok ()
  | .step _ _, .sendToActivity _ _ result => result = .ok ()
  | .startupReceive, .receive (.ok (some (.ready id _))) => id ∈ scheduler.activityDepends.keys
  | .stepReceive, .receive (.ok (some (.ready id _))) => id ∈ scheduler.activityDepends.keys
  | .shutdown _ [] pending, .sendToActivity _ _ _ => scheduler.Fits pending.length 2
  | .connectedAgents, .connectedAgents ids =>
      scheduler.pendingAgents ids = [] ∨ scheduler.Fits (scheduler.pendingAgents ids).length 4
  | _, _ => True

/-- A result that is ignored or fails the wait is no ready signal. -/
theorem benign_receive {states : States scheduler} {point : Point} {cycle : Nat}
    {reason : Option String} {result : Except Error (Option Signal)}
    (noReady : ∀ id, scheduler.waitNextReady result ≠ .ready id) :
    Benign (⟨states, point, cycle, reason⟩ : Execution scheduler) (.receive result) := by
  unfold Benign
  split <;> first | trivial | skip
  · next id time _ same =>
      cases same
      exact absurd rfl (noReady id)
  · next id time _ same =>
      cases same
      exact absurd rfl (noReady id)

/-- A transition panics exactly on an answer that is not benign. -/
theorem Transition.panicked_iff {execution next : Execution scheduler} {event : Event}
    (transition : Transition execution event next) :
    next.point.stage = .panicked ↔ ¬ Benign execution event := by
  have safe {target : Execution scheduler} {Condition : Prop}
      (stage : target.point.stage ≠ .panicked) (condition : Condition) :
      target.point.stage = .panicked ↔ ¬ Condition :=
    iff_of_false stage (not_not_intro condition)
  have chains {target : Execution scheduler} {states : States scheduler} {cycle : Nat}
      {Condition : Prop} (continues : Continues states cycle .chaining target)
      (condition : Condition) : target.point.stage = .panicked ↔ ¬ Condition :=
    safe (by rw [continues.stage_eq]; decide) condition
  have stops {target : Execution scheduler} {Condition : Prop}
      (stage : target.point.stage.Stopping) (condition : Condition) :
      target.point.stage = .panicked ↔ ¬ Condition := safe stage.ne_panicked condition
  cases transition with
  | startupSent => exact safe (startupActivities_stage _ _).1.ne_panicked rfl
  | startupFailed => exact iff_of_true rfl (fun impossible => nomatch impossible)
  | startupLate => exact stops (shutdownGracefully_stopping _ _ _) trivial
  | startupInTime => exact safe (fun impossible => nomatch impossible) trivial
  | ignored waits again =>
      refine safe ?_ (benign_receive fun id ready => ?_)
      · rcases waits with rfl | rfl <;> exact fun impossible => nomatch impossible
      · rw [again] at ready
        cases ready
  | failed waits failed =>
      refine stops (shutdownGracefully_stopping _ _ _) (benign_receive fun id ready => ?_)
      rw [failed] at ready
      cases ready
  | unknown waits unknown =>
      refine iff_of_true rfl ?_
      rcases waits with rfl | rfl <;> exact unknown
  | startupReady known =>
      exact safe (Stage.Active.ne_panicked (.inr (startupLoop_stage _).1)) known
  | stepSent => exact chains (stepReadyActivities_continues _ _ _) rfl
  | stepFailed => exact iff_of_true rfl (fun impossible => nomatch impossible)
  | stepReady known => exact chains (chainLoop_continues _ _) known
  | chainLate => exact safe (fun impossible => nomatch impossible) trivial
  | chainInTime => exact safe (fun impossible => nomatch impossible) trivial
  | slept => exact safe (fun impossible => nomatch impossible) trivial
  | requested => exact stops (shutdownGracefully_stopping _ _ _) trivial
  | continued => exact chains (taskChain_continues _ _) trivial
  | @shutdownSent states activity remaining pending cycle reason =>
      rcases shutdownActivities_cases states cycle reason pending remaining with
        ⟨_, _, rfl, same⟩ | ⟨rfl, fits, timeout, same⟩ | ⟨rfl, large, _, same⟩
      · rw [same]
        exact safe (fun impossible => nomatch impossible) trivial
      · rw [same]
        exact stops (.inr (shutdownLoop_stage _ _ _ _ _).1) fits
      · rw [same]
        exact iff_of_true rfl large
  | shutdownLate => exact safe (fun impossible => nomatch impossible) trivial
  | shutdownInTime => exact safe (fun impossible => nomatch impossible) trivial
  | shutdownReceived => exact stops (.inr (shutdownLoop_stage _ _ _ _ _).1) trivial
  | terminated => exact safe (fun impossible => nomatch impossible) trivial
  | @connected states cycle reason ids =>
      rcases awaitAgents_cases states cycle reason (scheduler.pendingAgents ids) with
        ⟨fits, same | ⟨_, same⟩⟩ | ⟨large, _, same⟩
      · rw [same]
        exact safe (fun impossible => nomatch impossible) fits
      · rw [same]
        exact safe (fun impossible => nomatch impossible) fits
      · rw [same]
        exact iff_of_true rfl large
  | ackLate => exact safe (fun impossible => nomatch impossible) trivial
  | ackInTime => exact safe (fun impossible => nomatch impossible) trivial
  | @ackReceived states pending timeout cycle reason result =>
      rcases ackLoop_cases states cycle reason timeout (confirmTerminate pending result) with
        same | same
      · rw [same]
        exact safe (fun impossible => nomatch impossible) trivial
      · rw [same]
        exact safe (fun impossible => nomatch impossible) trivial

/-- A panicked run has no further call. -/
theorem Transition.source_ne_panicked {execution next : Execution scheduler} {event : Event}
    (transition : Transition execution event next) : execution.point.stage ≠ .panicked := by
  cases transition with
  | ignored waits | failed waits | unknown waits =>
      rcases waits with rfl | rfl <;> exact fun impossible => nomatch impossible
  | _ => exact fun impossible => nomatch impossible

/-- Every answer of the environment in the run is benign. -/
def AlwaysBenign (scheduler : Scheduler) (events : List Event) : Prop :=
  AtEach (fun front event => ∀ execution,
    scheduler.machine.run scheduler.run front = some execution → Benign execution event) events

/-- A run has panicked exactly when one of its answers was not benign. -/
theorem run_panicked_iff {events : List Event} {final : Execution scheduler}
    (reached : scheduler.machine.run scheduler.run events = some final) :
    final.point.stage = .panicked ↔ ¬ AlwaysBenign scheduler events := by
  refine scheduler.machine.run_induction
    (fun history execution => execution.point.stage = .panicked ↔ ¬ AlwaysBenign scheduler history)
    ?_ ?_ reached
  · refine iff_of_false (startupActivities_stage _ _).1.ne_panicked (not_not_intro ?_)
    exact (atEach_nil _)
  · intro history execution event next before hypothesis stepped
    have transition := step_transition stepped
    have benign : AlwaysBenign scheduler history := by
      by_contra harmful
      exact transition.source_ne_panicked (hypothesis.mpr harmful)
    rw [transition.panicked_iff, AlwaysBenign, atEach_concat, not_iff_not]
    constructor
    · intro last
      refine ⟨benign, ?_⟩
      intro other same
      cases before.symm.trans same
      exact last
    · exact fun each => each.2 execution before

/-- The reason tells the active stages from the later ones, and the agents are told to terminate. -/
structure Staged (history : List Event) (execution : Execution scheduler) : Prop where
  active : execution.point.stage.Active → execution.reason = none
  stopped : ¬ execution.point.stage.Active → execution.point.stage ≠ .panicked →
    execution.reason ≠ none
  acknowledged : execution.point.stage = .acknowledging →
    ∃ signal result, Event.broadcastTerminate signal result ∈ history

theorem Staged.of_active {history : List Event} {execution : Execution scheduler}
    (active : execution.point.stage.Active) (reason : execution.reason = none) :
    Staged history execution where
  active _ := reason
  stopped passive _ := absurd active passive
  acknowledged impossible := absurd impossible active.ne_acknowledging

theorem Staged.of_stopping {history : List Event} {execution : Execution scheduler}
    (stage : execution.point.stage.Stopping) (reason : execution.reason ≠ none) :
    Staged history execution where
  active active := absurd stage active.not_stopping
  stopped _ _ := reason
  acknowledged impossible := absurd impossible stage.ne_acknowledging

theorem Staged.of_panicked {history : List Event} {execution : Execution scheduler}
    (panicked : execution.point.stage = .panicked) : Staged history execution where
  active active := absurd panicked active.ne_panicked
  stopped _ alive := absurd panicked alive
  acknowledged impossible := by
    rw [panicked] at impossible
    cases impossible

theorem Staged.of_acknowledging {history : List Event} {execution : Execution scheduler}
    (stage : execution.point.stage = .acknowledging) (reason : execution.reason ≠ none)
    (broadcast : ∃ signal result, Event.broadcastTerminate signal result ∈ history) :
    Staged history execution where
  active active := absurd stage active.ne_acknowledging
  stopped _ _ := reason
  acknowledged _ := broadcast

/-- A source in a later stage has a reason. -/
theorem Staged.reason_ne_none {history : List Event} {states : States scheduler} {point : Point}
    {cycle : Nat} {reason : Option String}
    (staged : Staged history (⟨states, point, cycle, reason⟩ : Execution scheduler))
    (stage : point.stage.Stopping ∨ point.stage = .acknowledging) : reason ≠ none := by
  rcases stage with stopping | acknowledging
  · exact staged.stopped (fun active => active.not_stopping stopping) stopping.ne_panicked
  · refine staged.stopped (fun active => active.ne_acknowledging acknowledging) ?_
    intro panicked
    cases panicked.symm.trans acknowledging

/-- Each transition keeps the stages in order. -/
theorem Transition.staged {execution next : Execution scheduler} {event : Event}
    (transition : Transition execution event next) {history : List Event}
    (staged : Staged history execution) : Staged (history ++ [event]) next := by
  have later {target : Execution scheduler} (stage : target.point.stage = .acknowledging)
      (reason : target.reason ≠ none) (before : execution.point.stage = .acknowledging) :
      Staged (history ++ [event]) target := by
    obtain ⟨signal, result, member⟩ := staged.acknowledged before
    exact .of_acknowledging stage reason ⟨signal, result, List.mem_append_left _ member⟩
  have stops {states : States scheduler} {cycle : Nat} {text : String} :
      Staged (history ++ [event]) (shutdownGracefully states cycle text) := by
    refine .of_stopping (shutdownGracefully_stopping states cycle text) ?_
    rw [(shutdownGracefully_stage states cycle text).2]
    exact Option.some_ne_none _
  have chains {target : Execution scheduler} {states : States scheduler} {cycle : Nat}
      (continues : Continues states cycle .chaining target) :
      Staged (history ++ [event]) target :=
    .of_active (.inr (.inr continues.stage_eq)) continues.reason_eq
  cases transition with
  | startupSent =>
      obtain ⟨active, reason⟩ := startupActivities_stage _ _
      exact .of_active active reason
  | startupFailed | unknown | stepFailed => exact .of_panicked rfl
  | startupLate | failed | requested => exact stops
  | startupInTime => exact .of_active (.inr (.inl rfl)) (staged.active (.inr (.inl rfl)))
  | ignored waits =>
      rcases waits with rfl | rfl
      · exact .of_active (.inr (.inl rfl)) (staged.active (.inr (.inl rfl)))
      · exact .of_active (.inr (.inr rfl)) (staged.active (.inr (.inr rfl)))
  | startupReady =>
      obtain ⟨stage, reason⟩ := startupLoop_stage _
      exact .of_active (.inr stage) reason
  | stepSent => exact chains (stepReadyActivities_continues _ _ _)
  | stepReady => exact chains (chainLoop_continues _ _)
  | chainLate | chainInTime | slept =>
      exact .of_active (.inr (.inr rfl)) (staged.active (.inr (.inr rfl)))
  | continued => exact chains (taskChain_continues _ _)
  | @shutdownSent states activity remaining pending cycle reason =>
      have given := staged.reason_ne_none (.inl (.inl rfl))
      rcases shutdownActivities_cases states cycle reason pending remaining with
        ⟨_, _, -, same⟩ | ⟨-, -, timeout, same⟩ | ⟨-, -, _, same⟩
      · rw [same]
        exact .of_stopping (.inl rfl) given
      · rw [same]
        obtain ⟨stage, kept⟩ := shutdownLoop_stage states cycle reason timeout pending
        exact .of_stopping (.inr stage) (by rw [kept]; exact given)
      · rw [same]
        exact .of_panicked rfl
  | shutdownLate =>
      exact .of_stopping (.inr (.inr rfl)) (staged.reason_ne_none (.inl (.inr (.inl rfl))))
  | shutdownInTime =>
      exact .of_stopping (.inr (.inl rfl)) (staged.reason_ne_none (.inl (.inr (.inl rfl))))
  | shutdownReceived =>
      obtain ⟨stage, kept⟩ := shutdownLoop_stage _ _ _ _ _
      have given := staged.reason_ne_none (.inl (.inr (.inl rfl)))
      exact .of_stopping (.inr stage) (by rw [kept]; exact given)
  | terminated =>
      exact .of_acknowledging rfl (staged.reason_ne_none (.inl (.inr (.inr rfl))))
        ⟨_, _, List.mem_append_right _ (List.mem_singleton_self _)⟩
  | @connected states cycle reason ids =>
      have given := staged.reason_ne_none (.inr rfl)
      rcases awaitAgents_cases states cycle reason (scheduler.pendingAgents ids) with
        ⟨-, same | ⟨_, same⟩⟩ | ⟨-, _, same⟩
      · rw [same]
        exact later rfl given rfl
      · rw [same]
        exact later rfl given rfl
      · rw [same]
        exact .of_panicked rfl
  | ackLate | ackInTime => exact later rfl (staged.reason_ne_none (.inr rfl)) rfl
  | @ackReceived states pending timeout cycle reason result =>
      have given := staged.reason_ne_none (.inr rfl)
      rcases ackLoop_cases states cycle reason timeout (confirmTerminate pending result) with
        same | same <;>
      · rw [same]
        exact later rfl given rfl

/-- Every run goes through the stages in order. -/
theorem run_staged {events : List Event} {final : Execution scheduler}
    (reached : scheduler.machine.run scheduler.run events = some final) :
    Staged events final := by
  refine scheduler.machine.run_induction Staged ?_ ?_ reached
  · obtain ⟨active, reason⟩ := startupActivities_stage scheduler.newStates _
    exact .of_active active reason
  · intro history execution event next _ staged stepped
    exact (step_transition stepped).staged staged

/-- A run stops only through the graceful shutdown exactly when every answer is benign. -/
theorem run_terminates_iff (events : List Event) (final : Execution scheduler)
    (reached : scheduler.machine.run scheduler.run events = some final) :
    ((∀ panic, final.point ≠ .panicked panic) ∧
        (final.point = .finished → final.reason ≠ none ∧
          ∃ signal result, Event.broadcastTerminate signal result ∈ events)) ↔
      AlwaysBenign scheduler events := by
  have staged := run_staged reached
  have panics : (∀ panic, final.point ≠ .panicked panic) ↔ final.point.stage ≠ .panicked := by
    constructor
    · intro never panicked
      cases point : final.point with
      | panicked panic => exact never panic point
      | _ =>
          rw [point] at panicked
          cases panicked
    · intro alive panic same
      rw [same] at alive
      exact alive rfl
  have stops : final.point = .finished → final.reason ≠ none ∧
      ∃ signal result, Event.broadcastTerminate signal result ∈ events := by
    intro finished
    have stage : final.point.stage = .acknowledging := by
      rw [finished]
      rfl
    refine ⟨staged.stopped ?_ (by rw [stage]; decide), staged.acknowledged stage⟩
    exact fun active => active.ne_acknowledging stage
  rw [panics, Ne, run_panicked_iff reached, not_not]
  exact ⟨fun both => both.1, fun benign => ⟨benign, stops⟩⟩

/-- Two activities run and stop, and no event of the run is the cause of a panic. -/
theorem run_terminates_pair :
    ∃ final, pair.machine.run pair.run pairRun = some final ∧ final.point = .finished ∧
      final.reason ≠ none ∧ AlwaysBenign pair pairRun := by
  have evaluated : (pair.machine.run pair.run pairRun).map
      (fun execution => (execution.point, execution.reason.isSome)) = some (.finished, true) := by
    decide
  obtain ⟨final, reached, shown⟩ := Option.map_eq_some_iff.mp evaluated
  obtain ⟨point, stopped⟩ := Prod.mk.inj shown
  have reason : final.reason ≠ none := Option.isSome_iff_ne_none.mp stopped
  refine ⟨final, reached, point, reason, (run_terminates_iff pairRun final reached).mp ?_⟩
  constructor
  · intro panic
    rw [point]
    exact Point.noConfusion
  · intro _
    refine ⟨reason, .terminate ⟨Duration.zero⟩, .ok (), ?_⟩
    decide

/-- The failure of one startup signal is a panic. -/
theorem run_panics_solo :
    ¬ ∀ final, solo.machine.run solo.run
        [.sendToActivity ⟨1⟩ (.startup ⟨1⟩ ⟨Duration.zero⟩) (.error .channelClosed)] =
          some final →
      ∀ panic, final.point ≠ .panicked panic := by
  intro never
  exact never _ rfl _ rfl

end Feo.Scheduler
