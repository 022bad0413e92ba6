import Feo.Proof.Scheduler.Lifecycle

namespace Feo.Scheduler

open Foundation

variable {scheduler : Scheduler}

/-- The scheduler can reach the step signal of the activity. -/
def ReachesStep (execution : Execution scheduler) (activity : ActivityId) : Prop :=
  ∃ states remaining cycle,
    scheduler.machine.Reaches execution ⟨states, .step activity remaining, cycle, none⟩

theorem ReachesStep.of_reaches {execution middle : Execution scheduler} {activity : ActivityId}
    (first : scheduler.machine.Reaches execution middle) (rest : ReachesStep middle activity) :
    ReachesStep execution activity := by
  obtain ⟨states, remaining, cycle, reached⟩ := rest
  exact ⟨states, remaining, cycle, first.trans reached⟩

/-- All startup signals can be sent. -/
theorem startupActivities_reaches (states : States scheduler) (remaining : List ActivityId) :
    scheduler.machine.Reaches (startupActivities states remaining) (startupLoop states) := by
  induction remaining with
  | nil => exact .refl _
  | cons activity remaining hypothesis =>
      have sent : scheduler.machine.step (startupActivities states (activity :: remaining))
          (.sendToActivity activity (.startup activity ⟨Duration.zero⟩) (.ok ())) =
            some (startupActivities states remaining) := if_pos ⟨rfl, rfl⟩
      exact .head sent hypothesis

/-- The startup wait ends when the listed activities report ready and the others are ready. -/
theorem startupLoop_reaches (listed : List ActivityId)
    (known : ∀ id ∈ listed, id ∈ scheduler.activityDepends.keys) (states : States scheduler)
    (complete : ∀ id ∈ scheduler.activityDepends.keys,
      id ∈ listed ∨ (states.val.value id).ready = true) :
    ∃ started : States scheduler,
      scheduler.machine.Reaches (startupLoop states) (taskChain started 0) := by
  induction listed generalizing states with
  | nil =>
      have all : allReady states = true := (allReady_iff states).mpr fun id member =>
        (complete id member).resolve_left List.not_mem_nil
      refine ⟨states, ?_⟩
      rw [startupLoop, if_pos all]
      exact .refl _
  | cons first listed hypothesis =>
      obtain ⟨member, known⟩ := List.forall_mem_cons.mp known
      rcases startupLoop_cases states with ⟨-, same⟩ | ⟨-, same⟩
      · rw [same]
        exact ⟨states, .refl _⟩
      · have others : ∀ id ∈ scheduler.activityDepends.keys,
            id ∈ listed ∨ ((markReady states first).val.value id).ready = true := by
          intro id inside
          rw [markReady_value]
          split
          · exact .inr rfl
          · next different =>
              exact (complete id inside).imp_left fun found =>
                (List.mem_cons.mp found).resolve_left different
        obtain ⟨started, reached⟩ := hypothesis known (markReady states first) others
        refine ⟨started, ?_⟩
        have waited : scheduler.machine.step ⟨states, .startupElapsed, 0, none⟩
            (.elapsed Duration.zero) = some ⟨states, .startupReceive, 0, none⟩ := by
          have early : ¬ Duration.zero.gt scheduler.startupTimeout = true := by
            simp [Duration.gt, Duration.zero]
          simp [machine, Scheduler.step, early]
        have answered : scheduler.machine.step ⟨states, .startupReceive, 0, none⟩
            (.receive (.ok (some (.ready first ⟨Duration.zero⟩)))) =
              some (startupLoop (markReady states first)) := by
          change some (received _ _ _ _) = _
          rw [received]
          simp [waitNextReady, member]
        rw [same]
        exact .head waited (.head answered reached)

/-- The scan can go on until it steps the activity or waits with unchanged ready flags. -/
theorem stepReadyActivities_reaches (activity : ActivityId) (cycle : Nat)
    (remaining : List ActivityId) (states : States scheduler)
    (untriggered : (states.val.value activity).triggered = false) :
    ReachesStep (stepReadyActivities states cycle remaining) activity ∨
      ∃ later : States scheduler, (later.val.value activity).triggered = false ∧
        (∀ id, (later.val.value id).ready = (states.val.value id).ready) ∧
        scheduler.machine.Reaches (stepReadyActivities states cycle remaining)
          ⟨later, .stepReceive, cycle, none⟩ := by
  induction remaining generalizing states with
  | nil => exact .inr ⟨states, untriggered, fun _ => rfl, .refl _⟩
  | cons first remaining hypothesis =>
      by_cases eligible : Eligible states first
      · rw [stepReadyActivities_stops eligible]
        by_cases same : first = activity
        · subst same
          exact .inl ⟨states, remaining, cycle, .refl _⟩
        · have sent : scheduler.machine.step ⟨states, .step first remaining, cycle, none⟩
              (.sendToActivity first (.step first ⟨Duration.zero⟩) (.ok ())) =
                some (stepReadyActivities (markTriggered states first) cycle remaining) :=
            if_pos ⟨rfl, rfl⟩
          have still : ((markTriggered states first).val.value activity).triggered = false := by
            rw [markTriggered_value, if_neg (Ne.symm same)]
            exact untriggered
          rcases hypothesis (markTriggered states first) still with
            steps | ⟨later, left, flags, waits⟩
          · exact .inl (.of_reaches (.head sent (.refl _)) steps)
          · refine .inr ⟨later, left, fun id => ?_, .head sent waits⟩
            rw [flags, markTriggered_value]
            split
            · next found => rw [found]
            · rfl
      · rw [stepReadyActivities_skips eligible]
        exact hypothesis states untriggered

/-- The inner loop with an unready activity scans all activities. -/
theorem chainLoop_waits {activity free : ActivityId} (cycle : Nat) (states : States scheduler)
    (inside : free ∈ scheduler.activityDepends.keys)
    (unready : (states.val.value free).ready = false)
    (untriggered : (states.val.value activity).triggered = false) :
    ReachesStep (chainLoop states cycle) activity ∨
      ∃ later : States scheduler, (later.val.value activity).triggered = false ∧
        (∀ id, (later.val.value id).ready = (states.val.value id).ready) ∧
        scheduler.machine.Reaches (chainLoop states cycle) ⟨later, .stepReceive, cycle, none⟩ := by
  have partly : allReady states = false := by
    apply Bool.eq_false_iff.mpr
    intro all
    rw [(allReady_iff states).mp all free inside] at unready
    cases unready
  rw [chainLoop, partly]
  exact stepReadyActivities_reaches activity cycle scheduler.activityDepends.keys states untriggered

/-- The inner loop can go on until it steps an activity that does not wait for some other one. -/
theorem chainLoop_reaches {activity free : ActivityId} (cycle : Nat)
    (member : activity ∈ scheduler.activityDepends.keys)
    (inside : free ∈ scheduler.activityDepends.keys) (listed : List ActivityId)
    (known : ∀ id ∈ listed, id ∈ scheduler.activityDepends.keys) (absent : free ∉ listed)
    (states : States scheduler) (untriggered : (states.val.value activity).triggered = false)
    (unready : (states.val.value free).ready = false)
    (complete : ∀ id ∈ scheduler.activityDepends.keys,
      id ∈ scheduler.activityDepends.value activity →
        id ∈ listed ∨ (states.val.value id).ready = true) :
    ReachesStep (chainLoop states cycle) activity := by
  induction listed generalizing states with
  | nil =>
      rcases chainLoop_waits cycle states inside unready untriggered with
        steps | ⟨later, left, flags, events, reached⟩
      · exact steps
      · have scanning : Scanning (⟨later, .stepReceive, cycle, none⟩ : Execution scheduler) :=
          scheduler.machine.run_preserves Scanning
            (fun _ _ _ scanning stepped => (step_transition stepped).scanning scanning)
            (chainLoop_chained states cycle).scanning reached
        have fulfilled : dependenciesReady later (scheduler.activityDepends.value activity) =
            true := by
          rw [dependenciesReady_iff]
          intro id scheduled needed
          rw [flags]
          exact (complete id scheduled needed).resolve_left List.not_mem_nil
        exact ((scanning.waiting rfl).2 activity member ⟨left, fulfilled⟩).elim
  | cons first listed hypothesis =>
      obtain ⟨scheduled, known⟩ := List.forall_mem_cons.mp known
      rw [List.mem_cons, not_or] at absent
      rcases chainLoop_waits cycle states inside unready untriggered with
        steps | ⟨later, left, flags, waits⟩
      · exact steps
      · have answered : scheduler.machine.step ⟨later, .stepReceive, cycle, none⟩
            (.receive (.ok (some (.ready first ⟨Duration.zero⟩)))) =
              some (chainLoop (markReady later first) cycle) := by
          change some (received _ _ _ _) = _
          rw [received]
          simp [waitNextReady, scheduled]
        have rest := hypothesis known absent.2 (markReady later first)
          (by
            rw [markReady_value]
            split
            · next same => rw [← same]; exact left
            · exact left)
          (by rw [markReady_value, if_neg absent.1, flags, unready])
          (by
            intro id inside needed
            rw [markReady_value]
            split
            · exact .inr rfl
            · next different =>
                rw [flags]
                exact (complete id inside needed).imp_left fun found =>
                  (List.mem_cons.mp found).resolve_left different)
        exact .of_reaches (waits.trans (.head answered (.refl _))) rest

/-- An activity that does not wait for every activity can be stepped in the first chain. -/
theorem run_reachesStep {activity free : ActivityId}
    (member : activity ∈ scheduler.activityDepends.keys)
    (inside : free ∈ scheduler.activityDepends.keys)
    (unneeded : free ∉ scheduler.activityDepends.value activity) :
    ReachesStep scheduler.run activity := by
  obtain ⟨started, waited⟩ := startupLoop_reaches scheduler.activityDepends.keys
    (fun _ known => known) scheduler.newStates fun _ known => .inl known
  have begun : scheduler.machine.Reaches scheduler.run (taskChain started 0) :=
    (startupActivities_reaches _ _).trans waited
  let needed := scheduler.activityDepends.keys.filter fun id =>
    id ∈ scheduler.activityDepends.value activity
  have chain := chainLoop_reaches 1 member inside needed
    (fun id listed => (List.mem_filter.mp listed).1)
    (fun listed => unneeded (of_decide_eq_true (List.mem_filter.mp listed).2))
    (clearFlags started) rfl rfl
    (fun id known wanted => .inl (List.mem_filter.mpr ⟨known, decide_eq_true wanted⟩))
  exact .of_reaches begun chain

/-- The activity is never sent a step signal. -/
def NeverStepped (scheduler : Scheduler) (activity : ActivityId) : Prop :=
  ∀ events final, scheduler.machine.run scheduler.run events = some final →
    Phase.step ∉ sentTo activity events

/-- A step signal is sent to an eligible activity while some activity is not ready. -/
theorem sentTo_step_eligible {activity : ActivityId} {events : List Event}
    {final : Execution scheduler}
    (reached : scheduler.machine.run scheduler.run events = some final)
    (sent : Phase.step ∈ sentTo activity events) :
    ∃ states : States scheduler, allReady states = false ∧ Eligible states activity := by
  obtain ⟨event, member, phase⟩ := List.mem_filterMap.mp sent
  obtain ⟨before, after, rfl⟩ := List.append_of_mem member
  obtain ⟨source, target, earlier, stepped, -⟩ := scheduler.machine.run_split_iff.mp reached
  have scanning := run_scanning earlier
  have transition := step_transition stepped
  cases transition with
  | stepSent | stepFailed =>
      simp only [Event.phaseTo?, Option.ite_none_right_eq_some] at phase
      obtain ⟨rfl, -⟩ := phase
      have stepping := scanning.stepping _ _ rfl
      exact ⟨_, stepping.1, scanning.stepped.2⟩
  | _ => simp [Event.phaseTo?, Phase.of] at phase

/-- An unscheduled dependency holds an activity back exactly when it waits for all activities. -/
theorem run_neverStepped_iff (scheduler : Scheduler) :
    (∀ activity ∈ scheduler.activityDepends.keys,
      ∀ other ∈ scheduler.activityDepends.value activity,
        other ∉ scheduler.activityDepends.keys → scheduler.NeverStepped activity) ↔
      ∀ activity ∈ scheduler.activityDepends.keys,
        ∀ other ∈ scheduler.activityDepends.value activity,
          other ∉ scheduler.activityDepends.keys →
            scheduler.activityDepends.keys ⊆ scheduler.activityDepends.value activity := by
  constructor
  · intro never activity member other needed unscheduled free inside
    by_contra unneeded
    obtain ⟨states, remaining, cycle, events, reached⟩ :=
      run_reachesStep member inside unneeded
    have sent : scheduler.machine.run scheduler.run
        (events ++ [.sendToActivity activity (.step activity ⟨Duration.zero⟩) (.ok ())]) =
          some (stepReadyActivities (markTriggered states activity) cycle remaining) :=
      scheduler.machine.run_concat_iff.mpr ⟨_, reached, if_pos ⟨rfl, rfl⟩⟩
    apply never activity member other needed unscheduled _ _ sent
    rw [sentTo_concat]
    exact List.mem_append_right _ (by simp [Event.phaseTo?, Phase.of])
  · intro all activity member other needed unscheduled events final reached sent
    obtain ⟨states, partly, -, ready⟩ := sentTo_step_eligible reached sent
    have complete : allReady states = true := (allReady_iff states).mpr fun id known =>
      (dependenciesReady_iff states _).mp ready id known
        (all activity member other needed unscheduled known)
    rw [partly] at complete
    cases complete

/-- The only activity depends on an identifier that is not scheduled. -/
def mistyped : Scheduler where
  agentId := ⟨1⟩
  cycleTime := Duration.zero
  receiveTimeout := Duration.zero
  startupTimeout := Duration.zero
  activityDepends :=
    { keys := [⟨1⟩]
      nodup := GenericId.nodup_one
      value := fun _ => [⟨2⟩] }

/-- The activity starts, reports ready, and is sent a step signal. -/
def mistypedRun : List Event :=
  [.sendToActivity ⟨1⟩ (.startup ⟨1⟩ ⟨Duration.zero⟩) (.ok ()), .elapsed Duration.zero,
    .receive (.ok (some (.ready ⟨1⟩ ⟨Duration.zero⟩))),
    .sendToActivity ⟨1⟩ (.step ⟨1⟩ ⟨Duration.zero⟩) (.ok ())]

/-- The activity is stepped although its dependency is not scheduled. -/
theorem mistyped_stepped :
    (⟨1⟩ : ActivityId) ∈ mistyped.activityDepends.keys ∧
      (⟨2⟩ : ActivityId) ∈ mistyped.activityDepends.value ⟨1⟩ ∧
      (⟨2⟩ : ActivityId) ∉ mistyped.activityDepends.keys ∧
      ¬ mistyped.NeverStepped ⟨1⟩ := by
  refine ⟨by decide, by decide, by decide, ?_⟩
  intro never
  obtain ⟨final, reached⟩ : ∃ final, mistyped.machine.run mistyped.run mistypedRun = some final :=
    ⟨_, rfl⟩
  exact never mistypedRun final reached (by decide)

end Feo.Scheduler
