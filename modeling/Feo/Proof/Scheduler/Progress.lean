import Feo.Foundation.Dependency
import Feo.Proof.Scheduler.Balance

namespace Feo.Scheduler

open Foundation

variable {scheduler : Scheduler}

/-- The dependency relation among the keys. -/
def Depends (scheduler : Scheduler) (id other : ActivityId) : Prop :=
  id ∈ scheduler.activityDepends.keys ∧ other ∈ scheduler.activityDepends.keys ∧
    other ∈ scheduler.activityDepends.value id

/-- An activity is outstanding when it is triggered and not yet ready. -/
def Outstanding (states : States scheduler) (id : ActivityId) : Prop :=
  id ∈ scheduler.activityDepends.keys ∧ (states.val.value id).triggered = true ∧
    (states.val.value id).ready = false

/-- Without cyclic dependencies a wait has an outstanding activity. -/
theorem Scanning.outstanding {execution : Execution scheduler} (scanning : Scanning execution)
    (acyclic : ∀ id, ¬ Relation.TransGen scheduler.Depends id id)
    (waits : execution.point = .stepReceive) :
    ∃ id, Outstanding execution.states id := by
  obtain ⟨unready, blocked⟩ := scanning.waiting waits
  let missing := scheduler.activityDepends.keys.filter fun id =>
    !(execution.states.val.value id).ready
  have nonempty : missing ≠ [] := by
    intro empty
    have all : allReady execution.states = true := by
      rw [allReady_iff]
      intro id member
      have present := List.filter_eq_nil_iff.mp empty id member
      simpa using present
    rw [unready] at all
    cases all
  obtain ⟨id, inside, independent⟩ := exists_independent acyclic nonempty
  obtain ⟨member, unreadyId⟩ := List.mem_filter.mp inside
  have notReady : (execution.states.val.value id).ready = false := by simpa using unreadyId
  refine ⟨id, member, ?_, notReady⟩
  have fulfilled : dependenciesReady execution.states (scheduler.activityDepends.value id) =
      true := by
    rw [dependenciesReady_iff]
    intro other known depended
    by_contra missed
    have otherInside : other ∈ missing := List.mem_filter.mpr ⟨known, by simpa using missed⟩
    exact independent other otherInside ⟨member, known, depended⟩
  cases triggered : (execution.states.val.value id).triggered with
  | true => rfl
  | false => exact absurd ⟨triggered, fulfilled⟩ (blocked id member)

/-- The inner loop steps an activity or waits for the next ready signal. -/
def Point.InLoop (point : Point) : Prop :=
  point = .stepReceive ∨ ∃ activity remaining, point = .step activity remaining

/-- The loop runs while some activity is not ready. -/
theorem Scanning.allReady_iff_left {execution : Execution scheduler}
    (scanning : Scanning execution) (stage : execution.point.stage = .chaining) :
    execution.point.InLoop ↔ allReady execution.states = false := by
  constructor
  · rintro (waits | ⟨activity, remaining, steps⟩)
    · exact (scanning.waiting waits).1
    · exact (scanning.stepping activity remaining steps).1
  · intro unready
    rcases scanning.complete stage with waits | steps | all
    · exact .inl waits
    · exact .inr steps
    · rw [unready] at all
      cases all

/-- The ready signals of a chain come from the activities that are ready in it. -/
theorem chain_count {before chain : List Event} {states : States scheduler} {cycle : Nat}
    {final : Execution scheduler}
    (start : scheduler.machine.run scheduler.run before = some (taskChain states cycle))
    (reached : scheduler.machine.run scheduler.run (before ++ chain) = some final)
    (answers : AnswersEarlier (before ++ chain)) (stage : final.point.stage = .chaining)
    (same : final.cycle = cycle + 1) (id : ActivityId) :
    (readies chain).count id =
      if id ∈ scheduler.activityDepends.keys then (final.states.val.value id).ready.toNat
      else 0 := by
  have continues := taskChain_continues states cycle
  have early := run_balanced start answers.of_append
  have late := run_balanced reached answers
  have split : (readies (before ++ chain)).count id =
      (readies before).count id + (readies chain).count id := by
    rw [readies, List.filterMap_append, List.count_append]
    rfl
  by_cases member : id ∈ scheduler.activityDepends.keys
  · have first := (early.chaining continues.stage_eq id member).2
    have last := (late.chaining stage id member).2
    rw [continues.states_eq, continues.cycle_eq, clearFlags_value, Bool.toNat_false] at first
    rw [if_pos member]
    omega
  · have none : (readies (before ++ chain)).count id = 0 :=
      List.count_eq_zero.mpr fun inside => member (late.known (.inr (.inr stage)) id inside)
    rw [if_neg member]
    omega

/-- A chain leaves the inner loop exactly when each activity has reported ready once. -/
theorem chain_readies {before chain : List Event} {states : States scheduler} {cycle : Nat}
    {final : Execution scheduler}
    (start : scheduler.machine.run scheduler.run before = some (taskChain states cycle))
    (reached : scheduler.machine.run scheduler.run (before ++ chain) = some final)
    (answers : AnswersEarlier (before ++ chain)) (stage : final.point.stage = .chaining)
    (same : final.cycle = cycle + 1) :
    (final.point.InLoop → (readies chain).length < scheduler.activityDepends.keys.length) ∧
      (¬ final.point.InLoop → (readies chain).Perm scheduler.activityDepends.keys) := by
  have count := chain_count start reached answers stage same
  rw [(run_scanning reached).allReady_iff_left stage]
  constructor
  · intro unready
    obtain ⟨missing, member, notReady⟩ : ∃ id ∈ scheduler.activityDepends.keys,
        (final.states.val.value id).ready = false := by
      by_contra none
      have all : allReady final.states = true := by
        rw [allReady_iff]
        intro id member
        by_contra missed
        exact none ⟨id, member, by simpa using missed⟩
      rw [unready] at all
      cases all
    have distinct : (readies chain).Nodup := by
      rw [List.nodup_iff_count_le_one]
      intro id
      rw [count id]
      split
      · exact Bool.toNat_le _
      · exact Nat.zero_le _
    have inside : readies chain ⊆ scheduler.activityDepends.keys.erase missing := by
      intro id found
      have positive := List.count_pos_iff.mpr found
      rw [count id] at positive
      split at positive
      · next known =>
          refine (List.Nodup.mem_erase_iff scheduler.activityDepends.nodup).mpr ⟨?_, known⟩
          rintro rfl
          rw [notReady] at positive
          exact Nat.lt_irrefl _ positive
      · exact absurd positive (Nat.lt_irrefl _)
    have shorter := (List.subperm_of_subset distinct inside).length_le
    have size := List.length_erase_of_mem member
    have nonempty := List.length_pos_of_mem member
    omega
  · intro ready
    have all := (allReady_iff final.states).mp (Bool.eq_true_of_not_eq_false ready)
    rw [List.perm_iff_count]
    intro id
    rw [count id]
    split
    · next member =>
        rw [all id member, List.count_eq_one_of_mem scheduler.activityDepends.nodup member]
        rfl
    · next unknown => rw [List.count_eq_zero.mpr unknown]

/-- Each of the activities depends on another one of them. -/
def Blocked (scheduler : Scheduler) (blocked : ActivityId → Prop) : Prop :=
  ∀ id, blocked id → ∃ other, blocked other ∧ scheduler.Depends id other

/-- The activities that lead to a cycle are blocked. -/
theorem blocked_of_cycle (target : ActivityId)
    (cycle : Relation.TransGen scheduler.Depends target target) :
    scheduler.Blocked fun id => Relation.ReflTransGen scheduler.Depends id target := by
  intro id path
  obtain ⟨other, edge, rest⟩ := exists_dependency_of_cycle path cycle
  exact ⟨other, rest, edge⟩

/-- The blocked activities are neither triggered nor stepped. -/
structure Stuck (blocked : ActivityId → Prop) (history : List Event)
    (execution : Execution scheduler) : Prop where
  untriggered : execution.point.stage = .chaining → ∀ id, blocked id →
    (execution.states.val.value id).triggered = false
  unstepped : ∀ id, blocked id → Phase.step ∉ sentTo id history

theorem startupLoop_untriggered {states : States scheduler}
    (stage : (startupLoop states).point.stage = .chaining) (id : ActivityId) :
    ((startupLoop states).states.val.value id).triggered = false := by
  rcases startupLoop_cases states with ⟨-, same⟩ | ⟨-, same⟩
  · rw [same, (taskChain_continues states 0).states_eq, clearFlags_value]
  · rw [same] at stage
    cases stage

/-- A blocked activity is not eligible. -/
theorem Stuck.not_eligible {blocked : ActivityId → Prop} {history : List Event}
    {execution : Execution scheduler} (stuck : Stuck blocked history execution)
    (closed : scheduler.Blocked blocked) (balanced : Balanced history execution)
    (answers : AnswersEarlier history) (stage : execution.point.stage = .chaining)
    {id : ActivityId} (member : blocked id) : ¬ Eligible execution.states id := by
  rintro ⟨-, fulfilled⟩
  obtain ⟨other, inside, -, known, depended⟩ := closed id member
  have ready := (dependenciesReady_iff _ _).mp fulfilled other known depended
  have triggered := balanced.triggered_of_ready answers stage known ready
  rw [stuck.untriggered stage other inside] at triggered
  cases triggered

/-- A trigger of the current chain is an earlier one or the step of its activity. -/
theorem Shift.triggered {execution next : Execution scheduler} {event : Event}
    (shift : Shift execution event next) (stage : next.point.stage = .chaining)
    {id : ActivityId} (triggered : (next.states.val.value id).triggered = true) :
    execution.point.stage = .chaining ∧ ((execution.states.val.value id).triggered = true ∨
      ∃ remaining, execution.point = .step id remaining) := by
  have begins {states : States scheduler}
      (chaining : (startupLoop states).point.stage = .chaining) :
      ((startupLoop states).states.val.value id).triggered ≠ true := by
    rw [startupLoop_untriggered chaining]
    decide
  cases shift with
  | stops passive => exact absurd (.inr (.inr stage)) passive
  | stays _ same states =>
      rw [states] at triggered
      exact ⟨same.symm.trans stage, .inl triggered⟩
  | @startupSent states activity remaining =>
      cases remaining with
      | nil => exact absurd triggered (begins stage)
      | cons first rest => cases stage
  | startupReady => exact absurd triggered (begins stage)
  | @stepSent states activity remaining cycle =>
      have continues :=
        stepReadyActivities_continues (markTriggered states activity) cycle remaining
      rw [continues.states_eq, markTriggered_value] at triggered
      split at triggered
      · next same =>
          subst same
          exact ⟨rfl, .inr ⟨remaining, rfl⟩⟩
      · exact ⟨rfl, .inl triggered⟩
  | @stepReady states cycle reason other =>
      rw [(chainLoop_continues (markReady states other) cycle).states_eq,
        markReady_value] at triggered
      refine ⟨rfl, .inl ?_⟩
      split at triggered
      · next same =>
          rw [same]
          exact triggered
      · exact triggered
  | continued =>
      rw [(taskChain_continues _ _).states_eq] at triggered
      cases triggered

/-- A step signal goes to the activity of the point. -/
theorem Transition.step_target {execution next : Execution scheduler} {event : Event}
    (transition : Transition execution event next) {id : ActivityId}
    (sent : event.phaseTo? id = some .step) :
    ∃ remaining, execution.point = .step id remaining := by
  cases transition with
  | stepSent | stepFailed =>
      obtain ⟨rfl, -⟩ := phaseTo?_send sent
      exact ⟨_, rfl⟩
  | startupSent | startupFailed | shutdownSent => cases (phaseTo?_send sent).2
  | _ => cases sent

/-- Each transition leaves the blocked activities stuck. -/
theorem Transition.stuck {execution next : Execution scheduler} {event : Event}
    (transition : Transition execution event next) {blocked : ActivityId → Prop}
    {history : List Event} (closed : scheduler.Blocked blocked)
    (answers : AnswersEarlier history) (balanced : Balanced history execution)
    (scanning : Scanning execution) (stuck : Stuck blocked history execution) :
    Stuck blocked (history ++ [event]) next := by
  have unstepped (id : ActivityId) (member : blocked id) (remaining : List ActivityId) :
      execution.point ≠ .step id remaining := by
    intro point
    have stage : execution.point.stage = .chaining := by
      rw [point]
      rfl
    obtain ⟨-, _, -, -, eligible⟩ := scanning.stepping id remaining point
    exact stuck.not_eligible closed balanced answers stage member eligible
  constructor
  · intro stage id member
    by_contra triggered
    obtain ⟨before, earlier | ⟨remaining, point⟩⟩ :=
      transition.shift.triggered stage (Bool.eq_true_of_not_eq_false triggered)
    · rw [stuck.untriggered before id member] at earlier
      cases earlier
    · exact unstepped id member remaining point
  · intro id member inside
    rw [sentTo_concat, List.mem_append, Option.mem_toList] at inside
    rcases inside with earlier | last
    · exact stuck.unstepped id member earlier
    · obtain ⟨remaining, point⟩ := transition.step_target last
      exact unstepped id member remaining point

/-- Every run with answered signals leaves the blocked activities stuck. -/
theorem run_stuck {blocked : ActivityId → Prop} (closed : scheduler.Blocked blocked)
    {events : List Event} {final : Execution scheduler}
    (reached : scheduler.machine.run scheduler.run events = some final)
    (answers : AnswersEarlier events) : Stuck blocked events final := by
  refine scheduler.machine.run_induction
    (fun history execution => AnswersEarlier history → Stuck blocked history execution)
    ?_ ?_ reached answers
  · refine fun _ => ⟨fun stage id _ => ?_, fun _ _ wrong => nomatch wrong⟩
    rw [run] at stage ⊢
    cases sorted : sortIds scheduler.newStates.val.keys with
    | nil =>
        rw [sorted] at stage
        exact startupLoop_untriggered stage id
    | cons first rest =>
        rw [sorted] at stage
        cases stage
  · intro history execution event next before hypothesis stepped extended
    have answered : AnswersEarlier history := extended.of_append
    exact (step_transition stepped).stuck closed answered (run_balanced before answered)
      (run_scanning before) (hypothesis answered)

/-- The task chain makes progress without cycles, and a cycle is never stepped. -/
theorem run_progress (events : List Event) (final : Execution scheduler)
    (reached : scheduler.machine.run scheduler.run events = some final)
    (answers : AnswersEarlier events) :
    ((∀ id, ¬ Relation.TransGen scheduler.Depends id id) → final.point = .stepReceive →
        ∃ id, Outstanding final.states id) ∧
      (∀ before chain states cycle, events = before ++ chain →
        scheduler.machine.run scheduler.run before = some (taskChain states cycle) →
        final.point.stage = .chaining → final.cycle = cycle + 1 →
          (final.point.InLoop →
            (readies chain).length < scheduler.activityDepends.keys.length) ∧
          (¬ final.point.InLoop → (readies chain).Perm scheduler.activityDepends.keys)) ∧
      ∀ id target, Relation.ReflTransGen scheduler.Depends id target →
        Relation.TransGen scheduler.Depends target target → Phase.step ∉ sentTo id events := by
  refine ⟨fun acyclic waits => (run_scanning reached).outstanding acyclic waits, ?_, ?_⟩
  · intro before chain states cycle split start stage same
    subst split
    exact chain_readies start reached answers stage same
  · intro id target path cycle
    exact (run_stuck (blocked_of_cycle target cycle) reached answers).unstepped id path

theorem pair_depends {id other : ActivityId} (depends : pair.Depends id other) :
    id = ⟨2⟩ ∧ other = ⟨1⟩ := by
  have dependency : other ∈ if id = ⟨2⟩ then [(⟨1⟩ : ActivityId)] else [] := depends.2.2
  by_cases second : id = ⟨2⟩
  · rw [if_pos second] at dependency
    exact ⟨second, List.mem_singleton.mp dependency⟩
  · rw [if_neg second] at dependency
    cases dependency

theorem pair_acyclic (id : ActivityId) : ¬ Relation.TransGen pair.Depends id id := by
  intro path
  obtain ⟨later, first, -⟩ := Relation.TransGen.head'_iff.mp path
  obtain ⟨earlier, -, last⟩ := Relation.TransGen.tail'_iff.mp path
  obtain rfl := (pair_depends first).1
  cases (pair_depends last).2

theorem pairFirst_point : (pair.machine.run pair.run pairFirst).map
    (fun execution => (execution.point, execution.cycle)) = some (.shutdownRequested, 1) := by
  decide

theorem pairChains_point : (pair.machine.run pair.run pairChains).map
    (fun execution => (execution.point, execution.cycle)) = some (.stepReceive, 2) := by
  decide

theorem pairChains_ended : (pair.machine.run pair.run (pairChains ++ [readyFrom ⟨2⟩])).map
    (fun execution => (execution.point, execution.cycle)) = some (.chainElapsed, 2) := by
  decide

/-- The second task chain waits for activity 2 and ends with its answer. -/
theorem run_progress_pair :
    (∃ final, pair.machine.run pair.run pairChains = some final ∧
      (∃ id, Outstanding final.states id) ∧
      (readies pairSecond).length < pair.activityDepends.keys.length) ∧
    ∃ ended, pair.machine.run pair.run (pairChains ++ [readyFrom ⟨2⟩]) = some ended ∧
      (readies (pairSecond ++ [readyFrom ⟨2⟩])).Perm pair.activityDepends.keys := by
  obtain ⟨source, first, shown⟩ := Option.map_eq_some_iff.mp pairFirst_point
  obtain ⟨point, cycle⟩ := Prod.mk.inj shown
  have chain : pair.machine.run pair.run (pairFirst ++ [.shutdownRequested false]) =
      some (taskChain source.states 1) := by
    apply pair.machine.run_concat_iff.mpr
    refine ⟨source, first, ?_⟩
    obtain ⟨states, _, _, reason⟩ := source
    cases point
    cases cycle
    rfl
  have answers : AnswersEarlier (pairChains ++ [readyFrom ⟨2⟩]) :=
    Answers.of_append (show AnswersEarlier (_ ++ pairStop.tail) from pairRun_answers)
  constructor
  · obtain ⟨final, reached, shown⟩ := Option.map_eq_some_iff.mp pairChains_point
    obtain ⟨point, cycle⟩ := Prod.mk.inj shown
    have progress := run_progress pairChains final reached answers.of_append
    refine ⟨final, reached, progress.1 pair_acyclic point, ?_⟩
    refine (progress.2.1 _ _ _ _ rfl chain ?_ cycle).1 ?_
    · rw [point]
      rfl
    · exact .inl point
  · obtain ⟨ended, reached, shown⟩ := Option.map_eq_some_iff.mp pairChains_ended
    obtain ⟨point, cycle⟩ := Prod.mk.inj shown
    have progress := run_progress _ ended reached answers
    refine ⟨ended, reached, ?_⟩
    refine (progress.2.1 _ (pairSecond ++ [readyFrom ⟨2⟩]) _ _ rfl chain ?_ cycle).2 ?_
    · rw [point]
      rfl
    · rw [point]
      rintro (impossible | ⟨_, _, impossible⟩)
      · cases impossible
      · cases impossible

end Feo.Scheduler
