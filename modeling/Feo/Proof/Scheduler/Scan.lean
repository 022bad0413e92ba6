import Feo.Proof.Scheduler.Stage

namespace Feo.Scheduler

open Foundation

variable {scheduler : Scheduler}

/-- A trigger makes no activity eligible. -/
theorem Eligible.of_markTriggered {states : States scheduler} {activity id : ActivityId}
    (eligible : Eligible (markTriggered states activity) id) : Eligible states id := by
  obtain ⟨untriggered, ready⟩ := eligible
  rw [markTriggered_value] at untriggered
  split at untriggered
  · cases untriggered
  · refine ⟨untriggered, ?_⟩
    rw [dependenciesReady_iff] at ready ⊢
    intro other known member
    have holds := ready other known member
    rw [markTriggered_value] at holds
    split at holds
    · next same =>
        subst same
        exact holds
    · exact holds

theorem not_eligible_markTriggered (states : States scheduler) (activity : ActivityId) :
    ¬ Eligible (markTriggered states activity) activity := by
  rintro ⟨untriggered, -⟩
  rw [markTriggered_value, if_pos rfl] at untriggered
  cases untriggered

theorem allReady_markTriggered (states : States scheduler) (activity : ActivityId) :
    allReady (markTriggered states activity) = allReady states := by
  rw [Bool.eq_iff_iff, allReady_iff, allReady_iff]
  refine forall_congr' fun id => imp_congr_right fun _ => ?_
  rw [markTriggered_value]
  split
  · next same =>
      subst same
      rfl
  · rfl

/-- The scan has passed the activities in front of its point and left none of them eligible. -/
structure Scanning (execution : Execution scheduler) : Prop where
  stepping : ∀ activity remaining, execution.point = .step activity remaining →
    allReady execution.states = false ∧ ∃ done,
      scheduler.activityDepends.keys = done ++ activity :: remaining ∧
      (∀ id ∈ done, ¬ Eligible execution.states id) ∧ Eligible execution.states activity
  waiting : execution.point = .stepReceive → allReady execution.states = false ∧
    ∀ id ∈ scheduler.activityDepends.keys, ¬ Eligible execution.states id
  complete : execution.point.stage = .chaining → execution.point = .stepReceive ∨
    (∃ activity remaining, execution.point = .step activity remaining) ∨
      allReady execution.states = true

/-- The points outside the chain have no scan. -/
theorem Scanning.of_stage {execution : Execution scheduler}
    (stage : execution.point.stage ≠ .chaining) : Scanning execution where
  stepping activity remaining same := by
    rw [same] at stage
    exact absurd rfl stage
  waiting same := by
    rw [same] at stage
    exact absurd rfl stage
  complete impossible := absurd impossible stage

/-- The points after the inner loop have no scan. -/
theorem Scanning.of_allReady {execution : Execution scheduler}
    (all : allReady execution.states = true) (waits : execution.point ≠ .stepReceive)
    (steps : ∀ activity remaining, execution.point ≠ .step activity remaining) :
    Scanning execution where
  stepping activity remaining same := absurd same (steps activity remaining)
  waiting same := absurd same waits
  complete _ := .inr (.inr all)

/-- A scan of the rest of the activities extends the passed ones. -/
theorem Scanned.scanning {states : States scheduler} {cycle : Nat}
    {remaining : List ActivityId} {next : Execution scheduler}
    (scanned : Scanned states cycle remaining next) (done : List ActivityId)
    (unready : allReady states = false)
    (split : scheduler.activityDepends.keys = done ++ remaining)
    (passed : ∀ id ∈ done, ¬ Eligible states id) : Scanning next := by
  cases scanned with
  | waiting blocked =>
      refine ⟨fun _ _ impossible => (nomatch impossible), fun _ => ⟨unready, ?_⟩,
        fun _ => .inl rfl⟩
      rw [split]
      exact List.forall_mem_append.mpr ⟨passed, blocked⟩
  | @stepping skipped rest activity same blocked eligible =>
      refine ⟨?_, fun impossible => (nomatch impossible), fun _ => .inr (.inl ⟨_, _, rfl⟩)⟩
      intro other others point
      cases point
      refine ⟨unready, done ++ skipped, ?_, List.forall_mem_append.mpr ⟨passed, blocked⟩, eligible⟩
      rw [split, same, List.append_assoc]

theorem Chained.scanning {states : States scheduler} {cycle : Nat} {next : Execution scheduler}
    (chained : Chained states cycle next) : Scanning next := by
  cases chained with
  | complete all =>
      exact .of_allReady all (fun impossible => (nomatch impossible))
        (fun _ _ impossible => (nomatch impossible))
  | scanned unready scanned =>
      exact scanned.scanning [] unready rfl (List.forall_mem_nil _)

theorem startupLoop_scanning (states : States scheduler) : Scanning (startupLoop states) := by
  rcases startupLoop_cases states with ⟨-, same⟩ | ⟨-, same⟩
  · rw [same]
    exact (chainLoop_chained _ _).scanning
  · rw [same]
    exact .of_stage (fun impossible => nomatch impossible)

theorem startupActivities_scanning (states : States scheduler) (remaining : List ActivityId) :
    Scanning (startupActivities states remaining) := by
  cases remaining with
  | nil => exact startupLoop_scanning states
  | cons first rest => exact .of_stage (fun impossible => nomatch impossible)

/-- The scan steps an eligible activity of the scheduler. -/
theorem Scanning.stepped {states : States scheduler} {activity : ActivityId}
    {remaining : List ActivityId} {cycle : Nat} {reason : Option String}
    (scanning : Scanning
      (⟨states, .step activity remaining, cycle, reason⟩ : Execution scheduler)) :
    activity ∈ scheduler.activityDepends.keys ∧ Eligible states activity := by
  obtain ⟨-, done, split, -, eligible⟩ := scanning.stepping _ _ rfl
  refine ⟨?_, eligible⟩
  rw [split]
  exact List.mem_append_right _ List.mem_cons_self

/-- The inner loop has left no activity unready when the flag is read. -/
theorem Scanning.allReady_of_requested {states : States scheduler} {cycle : Nat}
    {reason : Option String}
    (scanning : Scanning
      (⟨states, .shutdownRequested, cycle, reason⟩ : Execution scheduler)) :
    allReady states = true := by
  rcases scanning.complete rfl with impossible | ⟨_, _, impossible⟩ | all
  · cases impossible
  · cases impossible
  · exact all

/-- Each transition keeps the scan. -/
theorem Transition.scanning {execution next : Execution scheduler} {event : Event}
    (transition : Transition execution event next) (scanning : Scanning execution) :
    Scanning next := by
  cases transition with
  | startupSent => exact startupActivities_scanning _ _
  | startupReady => exact startupLoop_scanning _
  | startupLate | failed | requested =>
      exact .of_stage (shutdownGracefully_stopping _ _ _).ne_chaining
  | ignored => exact scanning
  | @stepSent states activity remaining cycle reason =>
      obtain ⟨unready, done, split, passed, -⟩ := scanning.stepping _ _ rfl
      have scanned := stepReadyActivities_scanned (markTriggered states activity) cycle remaining
      refine scanned.scanning (done ++ [activity]) ?_ ?_ ?_
      · rw [allReady_markTriggered]
        exact unready
      · rw [split, List.append_assoc, List.singleton_append]
      · intro id member eligible
        rcases List.mem_append.mp member with earlier | last
        · exact passed id earlier eligible.of_markTriggered
        · rw [List.mem_singleton.mp last] at eligible
          exact not_eligible_markTriggered states activity eligible
  | stepReady => exact (chainLoop_chained _ _).scanning
  | chainLate | chainInTime | slept =>
      have all := (scanning.complete rfl).resolve_left (fun impossible => nomatch impossible)
      refine .of_allReady (all.resolve_left ?_) (fun impossible => nomatch impossible)
        (fun _ _ impossible => nomatch impossible)
      rintro ⟨_, _, impossible⟩
      cases impossible
  | continued => exact (chainLoop_chained _ _).scanning
  | shutdownSent =>
      rcases shutdownActivities_stage _ _ _ _ _ with stopping | panicked
      · exact .of_stage stopping.ne_chaining
      · exact .of_stage (by rw [panicked]; decide)
  | shutdownReceived =>
      exact .of_stage (Stage.Stopping.ne_chaining (.inr (shutdownLoop_stage _ _ _ _ _).1))
  | connected =>
      rcases awaitAgents_stage _ _ _ _ with stage | stage <;>
      · exact .of_stage (by rw [stage]; decide)
  | ackReceived => exact .of_stage (by rw [ackLoop_stage]; decide)
  | _ => exact .of_stage (fun impossible => nomatch impossible)

/-- Every run keeps the scan. -/
theorem run_scanning {events : List Event} {final : Execution scheduler}
    (reached : scheduler.machine.run scheduler.run events = some final) : Scanning final := by
  refine scheduler.machine.run_preserves Scanning
    (fun _ _ _ scanning stepped => (step_transition stepped).scanning scanning) ?_ reached
  exact startupActivities_scanning _ _

end Feo.Scheduler
