import Feo.Proof.Scheduler.Balance

namespace Feo.Scheduler

open Foundation

variable {scheduler : Scheduler}

/-- The numbers of step signals to any two activities differ by at most one. -/
def Even (scheduler : Scheduler) (history : List Event) : Prop :=
  ∃ base, ∀ id ∈ scheduler.activityDepends.keys,
    base ≤ (sentTo id history).count .step ∧ (sentTo id history).count .step ≤ base + 1

@[simp] theorem word_length (steps : Nat) : (word steps).length = steps + 1 := by
  simp [word]

@[simp] theorem word_count_step (steps : Nat) : (word steps).count .step = steps := by
  simp [word]

/-- The word of a running activity has one signal more than step signals. -/
theorem Sent.count_step {history : List Event} (sent : Sent scheduler history []) {id : ActivityId}
    (member : id ∈ scheduler.activityDepends.keys) :
    (sentTo id history).length = (sentTo id history).count .step + 1 := by
  obtain ⟨steps, same⟩ := sent id
  rw [same, if_pos member]
  simp

/-- The balance of the active stages makes the step signals even. -/
theorem Balanced.even {history : List Event} {execution : Execution scheduler}
    (balanced : Balanced history execution) (lifecycle : Lifecycle history execution)
    (active : execution.point.stage.Active) : Even scheduler history := by
  rcases active with starting | waiting | chaining
  · refine ⟨0, fun id _ => ?_⟩
    obtain ⟨states, point, cycle, reason⟩ := execution
    cases point with
    | startup activity remaining =>
        obtain ⟨done, -, sent⟩ := lifecycle.starting _ _ rfl
        rw [sent id]
        split <;> decide
    | _ => cases starting
  · refine ⟨0, fun id member => ?_⟩
    have length := (balanced.waiting waiting id member).1
    have steps := (lifecycle.running (.inl waiting)).count_step member
    omega
  · refine ⟨execution.cycle - 1, fun id member => ?_⟩
    have length := (balanced.chaining chaining id member).1
    have steps := (lifecycle.running (.inr chaining)).count_step member
    have flag := Bool.toNat_le (execution.states.val.value id).triggered
    omega

/-- A step signal keeps the run in the chain unless it panics. -/
theorem Transition.of_step {execution next : Execution scheduler} {event : Event}
    (transition : Transition execution event next) {id : ActivityId}
    (sent : event.phaseTo? id = some .step) :
    next.point.stage.Active ∨ next.point.stage = .panicked := by
  cases transition with
  | stepSent => exact .inl (.inr (.inr (stepReadyActivities_continues _ _ _).stage_eq))
  | stepFailed => exact .inr rfl
  | startupSent | startupFailed | shutdownSent => cases (phaseTo?_send sent).2
  | _ => cases sent

/-- The step signals stay even in every run with answered signals that has not panicked. -/
theorem run_even {events : List Event} {final : Execution scheduler}
    (reached : scheduler.machine.run scheduler.run events = some final)
    (answers : AnswersEarlier events) (alive : final.point.stage ≠ .panicked) :
    Even scheduler events := by
  refine scheduler.machine.run_induction (fun history execution =>
    AnswersEarlier history → execution.point.stage ≠ .panicked → Even scheduler history)
    ?_ ?_ reached answers alive
  · exact fun _ _ => ⟨0, fun _ _ => ⟨Nat.le_refl 0, Nat.zero_le _⟩⟩
  · intro history execution event next before hypothesis stepped extended unbroken
    have transition := step_transition stepped
    have after := scheduler.machine.run_concat_iff.mpr ⟨execution, before, stepped⟩
    by_cases active : next.point.stage.Active
    · exact (run_balanced after extended).even (run_lifecycle after) active
    · obtain ⟨base, even⟩ := hypothesis extended.of_append transition.source_ne_panicked
      refine ⟨base, fun id member => ?_⟩
      have silent : event.phaseTo? id ≠ some .step := fun sent =>
        (transition.of_step sent).elim active unbroken
      have same : (sentTo id (history ++ [event])).count .step =
          (sentTo id history).count .step := by
        rw [sentTo_concat, List.count_append]
        cases phase : event.phaseTo? id with
        | none => rfl
        | some sent =>
            have different : sent ≠ .step := fun equal => silent (by rw [phase, equal])
            simp [different]
      rw [same]
      exact even id member

/-- The sent word is empty before the startup of the activity and complete afterwards. -/
def Spoken (scheduler : Scheduler) (history : List Event) (stage : Stage) (id : ActivityId) :
    Prop :=
  sentTo id history = [] ∧ (id ∉ scheduler.activityDepends.keys ∨ stage = .starting) ∨
    ∃ steps, sentTo id history = word steps ∨ sentTo id history = word steps ++ [.shutdown]

theorem Sent.spoken {history : List Event} {closed : List ActivityId}
    (sent : Sent scheduler history closed) (stage : Stage) (id : ActivityId) :
    Spoken scheduler history stage id := by
  obtain ⟨steps, same⟩ := sent id
  by_cases member : id ∈ scheduler.activityDepends.keys
  · rw [if_pos member] at same
    refine .inr ⟨steps, ?_⟩
    by_cases shut : id ∈ closed
    · rw [if_pos shut] at same
      exact .inr same
    · rw [if_neg shut, List.append_nil] at same
      exact .inl same
  · rw [if_neg member] at same
    exact .inl ⟨same, .inl member⟩

/-- The sent phases form a word at every point of a run that has not panicked. -/
theorem Lifecycle.spoken {history : List Event} {execution : Execution scheduler}
    (lifecycle : Lifecycle history execution) (alive : execution.point.stage ≠ .panicked)
    (id : ActivityId) : Spoken scheduler history execution.point.stage id := by
  cases stage : execution.point.stage with
  | panicked => exact absurd stage alive
  | waiting => exact (lifecycle.running (.inl stage)).spoken _ id
  | chaining => exact (lifecycle.running (.inr stage)).spoken _ id
  | confirming => exact (lifecycle.closed (.inl stage)).spoken _ id
  | terminating => exact (lifecycle.closed (.inr (.inl stage))).spoken _ id
  | acknowledging => exact (lifecycle.closed (.inr (.inr stage))).spoken _ id
  | starting =>
      obtain ⟨states, point, cycle, reason⟩ := execution
      cases point with
      | startup activity remaining =>
          obtain ⟨done, -, sent⟩ := lifecycle.starting _ _ rfl
          by_cases member : id ∈ done
          · exact .inr ⟨0, .inl (by rw [sent id, if_pos member]; rfl)⟩
          · exact .inl ⟨by rw [sent id, if_neg member], .inr rfl⟩
      | _ => cases stage
  | closing =>
      obtain ⟨states, point, cycle, reason⟩ := execution
      cases point with
      | shutdown activity remaining pending =>
          obtain ⟨-, done, -, sent⟩ := lifecycle.closing _ _ _ rfl
          exact sent.spoken _ id
      | _ => cases stage

/-- Each run that does not panic follows the lifecycle protocol of its activities. -/
theorem run_protocol (events : List Event) (final : Execution scheduler)
    (reached : scheduler.machine.run scheduler.run events = some final)
    (alive : ∀ panic, final.point ≠ .panicked panic) :
    (∀ id, Spoken scheduler events final.point.stage id) ∧
      (∀ front event back execution, events = front ++ event :: back →
        scheduler.machine.run scheduler.run front = some execution → Aborts execution event →
          ∀ later ∈ back, ∀ id phase, later.phaseTo? id = some phase → phase = .shutdown) ∧
      (∀ id, id ∉ readies events →
        Phase.step ∉ sentTo id events ∧ Phase.shutdown ∉ sentTo id events) ∧
      (final.point = .finished → ∃ front signal result back,
        events = front ++ .broadcastTerminate signal result :: back ∧
          (∀ signal result, Event.broadcastTerminate signal result ∉ front) ∧
          ∀ event ∈ back, event.Quiet) ∧
      (AnswersEarlier events → ∀ first ∈ scheduler.activityDepends.keys,
        ∀ second ∈ scheduler.activityDepends.keys,
          (sentTo first events).count .step ≤ (sentTo second events).count .step + 1) := by
  have unbroken : final.point.stage ≠ .panicked := by
    intro panicked
    cases point : final.point with
    | panicked panic => exact alive panic point
    | _ =>
        rw [point] at panicked
        cases panicked
  refine ⟨(run_lifecycle reached).spoken unbroken, ?_, ?_, ?_, ?_⟩
  · intro front event back execution split before aborts
    rw [split] at reached
    obtain ⟨source, target, earlier, stepped, after⟩ := scheduler.machine.run_split_iff.mp reached
    cases before.symm.trans earlier
    exact run_passive (step_aborts stepped aborts) after
  · intro id silent
    have started := run_started reached
    exact ⟨fun sent => silent (started.earned id (.inl sent)),
      fun sent => silent (started.earned id (.inr sent))⟩
  · intro finished
    exact (run_broadcasts reached).after (by rw [finished]; rfl)
  · intro answers first firstMember second secondMember
    obtain ⟨base, even⟩ := run_even reached answers unbroken
    have low := (even second secondMember).1
    have high := (even first firstMember).2
    omega

theorem pairRun_point : (pair.machine.run pair.run pairRun).map
    (fun execution => (execution.point, execution.reason)) =
      some (.finished, some "Main loop concluded or external signal received.") := by
  decide

/-- Two activities start, are stepped twice, and are shut down before the broadcast. -/
theorem run_protocol_pair :
    ∃ final, pair.machine.run pair.run pairRun = some final ∧ final.point = .finished ∧
      (∀ id, Spoken pair pairRun final.point.stage id) ∧
      (∃ front signal result back, pairRun = front ++ .broadcastTerminate signal result :: back ∧
        (∀ signal result, Event.broadcastTerminate signal result ∉ front) ∧
        ∀ event ∈ back, event.Quiet) ∧
      ∀ first ∈ pair.activityDepends.keys, ∀ second ∈ pair.activityDepends.keys,
        (sentTo first pairRun).count .step ≤ (sentTo second pairRun).count .step + 1 := by
  obtain ⟨final, reached, shown⟩ := Option.map_eq_some_iff.mp pairRun_point
  have point := (Prod.mk.inj shown).1
  obtain ⟨spoken, -, -, finished, even⟩ := run_protocol pairRun final reached (by
    intro panic
    rw [point]
    exact Point.noConfusion)
  exact ⟨final, reached, point, spoken, finished point, even pairRun_answers⟩

end Feo.Scheduler
