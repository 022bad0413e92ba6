import Feo.Proof.Scheduler.Started

namespace Feo.Scheduler

open Foundation

variable {scheduler : Scheduler}

/-- An event that neither sends nor reports keeps the counts. -/
structure Event.Uncounted (event : Event) : Prop where
  silent : ∀ id, event.phaseTo? id = none
  unready : event.ready? = none

theorem waitNextReady_unready (scheduler : Scheduler) {result : Except Error (Option Signal)}
    (noReady : ∀ id, scheduler.waitNextReady result ≠ .ready id) :
    (Event.receive result).ready? = none := by
  unfold Event.ready?
  split
  · next id time same =>
      cases same
      exact absurd rfl (noReady id)
  · rfl

/-- A transition stops, stays in its stage, sends, receives an answer, or begins a chain. -/
inductive Shift : Execution scheduler → Event → Execution scheduler → Prop where
  | stops {execution next : Execution scheduler} {event : Event}
      (passive : ¬ next.point.stage.Active) (states : next.states = execution.states)
      (cycle : next.cycle = execution.cycle)
      (shutdown : ∀ id signal value, event = .sendToActivity id signal (.ok value) →
        Phase.of signal = .shutdown) : Shift execution event next
  | stays {execution next : Execution scheduler} {event : Event}
      (running : execution.point.stage = .waiting ∨ execution.point.stage = .chaining)
      (stage : next.point.stage = execution.point.stage)
      (states : next.states = execution.states) (cycle : next.cycle = execution.cycle)
      (quiet : event.Uncounted) : Shift execution event next
  | startupSent {states : States scheduler} {activity : ActivityId}
      {remaining : List ActivityId} {cycle : Nat} {reason : Option String} {time : Timestamp}
      {value : Unit} :
      Shift ⟨states, .startup activity remaining, cycle, reason⟩
        (.sendToActivity activity (.startup activity time) (.ok value))
        (startupActivities states remaining)
  | startupReady {states : States scheduler} {cycle : Nat} {reason : Option String}
      {id : ActivityId} {time : Timestamp} (known : id ∈ scheduler.activityDepends.keys) :
      Shift ⟨states, .startupReceive, cycle, reason⟩
        (.receive (.ok (some (.ready id time)))) (startupLoop (markReady states id))
  | stepSent {states : States scheduler} {activity : ActivityId}
      {remaining : List ActivityId} {cycle : Nat} {reason : Option String} {time : Timestamp}
      {value : Unit} :
      Shift ⟨states, .step activity remaining, cycle, reason⟩
        (.sendToActivity activity (.step activity time) (.ok value))
        (stepReadyActivities (markTriggered states activity) cycle remaining)
  | stepReady {states : States scheduler} {cycle : Nat} {reason : Option String}
      {id : ActivityId} {time : Timestamp} (known : id ∈ scheduler.activityDepends.keys) :
      Shift ⟨states, .stepReceive, cycle, reason⟩
        (.receive (.ok (some (.ready id time)))) (chainLoop (markReady states id) cycle)
  | continued {states : States scheduler} {cycle : Nat} {reason : Option String} :
      Shift ⟨states, .shutdownRequested, cycle, reason⟩ (.shutdownRequested false)
        (taskChain states cycle)

/-- Each transition is a shift. -/
theorem Transition.shift {execution next : Execution scheduler} {event : Event}
    (transition : Transition execution event next) : Shift execution event next := by
  cases transition with
  | startupSent => exact .startupSent
  | startupReady known => exact .startupReady known
  | stepSent => exact .stepSent
  | stepReady known => exact .stepReady known
  | continued => exact .continued
  | startupLate | failed | requested =>
      exact .stops (shutdownGracefully_stopping _ _ _).not_active (shutdownGracefully_states _ _ _)
        (shutdownGracefully_cycle _ _ _) (fun _ _ _ same => nomatch same)
  | startupInTime => exact .stays (.inl rfl) rfl rfl rfl ⟨fun _ => rfl, rfl⟩
  | ignored waits again =>
      have unready := waitNextReady_unready scheduler fun id ready => by
        cases again.symm.trans ready
      exact .stays (waits.imp (congrArg Point.stage) (congrArg Point.stage)) rfl rfl rfl
        ⟨fun _ => rfl, unready⟩
  | chainLate | chainInTime | slept =>
      exact .stays (.inr rfl) rfl rfl rfl ⟨fun _ => rfl, rfl⟩
  | @shutdownSent states activity remaining pending cycle reason =>
      refine .stops ?_ (shutdownActivities_states _ _ _ _ _) (shutdownActivities_cycle _ _ _ _ _)
        (fun _ _ _ same => by cases same; rfl)
      rcases shutdownActivities_stage states cycle reason pending remaining with
        stopping | panicked
      · exact stopping.not_active
      · exact fun active => active.ne_panicked panicked
  | shutdownReceived =>
      exact .stops (Stage.Stopping.not_active (.inr (shutdownLoop_stage _ _ _ _ _).1))
        (shutdownLoop_states _ _ _ _ _) (shutdownLoop_cycle _ _ _ _ _)
        (fun _ _ _ same => nomatch same)
  | connected =>
      refine .stops ?_ (awaitAgents_states _ _ _ _) (awaitAgents_cycle _ _ _ _)
        (fun _ _ _ same => nomatch same)
      rcases awaitAgents_stage _ _ _ _ with acknowledging | panicked
      · exact fun active => active.ne_acknowledging acknowledging
      · exact fun active => active.ne_panicked panicked
  | ackReceived =>
      exact .stops (fun active => active.ne_acknowledging (ackLoop_stage _ _ _ _ _))
        (ackLoop_states _ _ _ _ _) (ackLoop_cycle _ _ _ _ _) (fun _ _ _ same => nomatch same)
  | startupFailed | unknown | stepFailed =>
      exact .stops (fun active => active.ne_panicked rfl) rfl rfl (fun _ _ _ same => nomatch same)
  | shutdownLate =>
      exact .stops (Stage.Stopping.not_active (.inr (.inr rfl))) rfl rfl
        (fun _ _ _ same => nomatch same)
  | shutdownInTime =>
      exact .stops (Stage.Stopping.not_active (.inr (.inl rfl))) rfl rfl
        (fun _ _ _ same => nomatch same)
  | terminated | ackLate | ackInTime =>
      exact .stops (fun active => active.ne_acknowledging rfl) rfl rfl
        (fun _ _ _ same => nomatch same)

/-- Only the active stages change the states. -/
theorem Shift.states_of_passive {execution next : Execution scheduler} {event : Event}
    (shift : Shift execution event next) (passive : ¬ next.point.stage.Active) :
    next.states = execution.states := by
  cases shift with
  | stops _ states => exact states
  | stays _ _ states => exact states
  | startupSent => exact absurd (startupActivities_stage _ _).1 passive
  | startupReady => exact absurd (.inr (startupLoop_stage _).1) passive
  | stepSent =>
      exact absurd (.inr (.inr (stepReadyActivities_continues _ _ _).stage_eq)) passive
  | stepReady => exact absurd (.inr (.inr (chainLoop_continues _ _).stage_eq)) passive
  | continued => exact absurd (.inr (.inr (taskChain_continues _ _).stage_eq)) passive

/-- An active stage follows only an active one. -/
theorem Shift.source_active {execution next : Execution scheduler} {event : Event}
    (shift : Shift execution event next) (active : next.point.stage.Active) :
    execution.point.stage.Active := by
  cases shift with
  | stops passive => exact absurd active passive
  | stays running => exact .inr running
  | startupSent => exact .inl rfl
  | startupReady => exact .inr (.inl rfl)
  | stepSent | stepReady | continued => exact .inr (.inr rfl)

/-- A started activity stays started. -/
theorem Shift.ever {execution next : Execution scheduler} {event : Event}
    (shift : Shift execution event next) {id : ActivityId}
    (ever : (execution.states.val.value id).everReady = true) :
    (next.states.val.value id).everReady = true := by
  have marked {states : States scheduler} {other : ActivityId}
      (before : (states.val.value id).everReady = true) :
      ((markReady states other).val.value id).everReady = true := by
    rw [markReady_value]
    split
    · rfl
    · exact before
  cases shift with
  | stops _ states | stays _ _ states =>
      rw [states]
      exact ever
  | startupSent =>
      rw [(startupActivities_follows _ _).ever]
      exact ever
  | startupReady =>
      rw [(startupLoop_follows _).ever]
      exact marked ever
  | stepSent =>
      rw [(stepReadyActivities_continues _ _ _).states_eq, markTriggered_value]
      split
      · next same =>
          rw [← same]
          exact ever
      · exact ever
  | stepReady =>
      rw [(chainLoop_continues _ _).states_eq]
      exact marked ever
  | continued =>
      rw [(taskChain_continues _ _).states_eq, clearFlags_value]
      exact ever

/-- The started activities are known, and before the first chain they are the ready ones. -/
structure Reported (execution : Execution scheduler) : Prop where
  known : ∀ id, (execution.states.val.value id).everReady = true →
    id ∈ scheduler.activityDepends.keys
  ready : execution.point.stage = .starting ∨ execution.point.stage = .waiting →
    ∀ id, (execution.states.val.value id).everReady = true →
      (execution.states.val.value id).ready = true

theorem Reported.of_eq {execution next : Execution scheduler} (reported : Reported execution)
    (states : next.states = execution.states)
    (stage : next.point.stage = .starting ∨ next.point.stage = .waiting →
      execution.point.stage = .starting ∨ execution.point.stage = .waiting) : Reported next where
  known := by
    rw [states]
    exact reported.known
  ready early := by
    rw [states]
    exact reported.ready (stage early)

theorem Reported.of_chaining {execution : Execution scheduler}
    (stage : execution.point.stage = .chaining)
    (known : ∀ id, (execution.states.val.value id).everReady = true →
      id ∈ scheduler.activityDepends.keys) : Reported execution where
  known := known
  ready early := by
    rw [stage] at early
    rcases early with wrong | wrong <;> cases wrong

theorem startupLoop_reported {states : States scheduler}
    (known : ∀ id, (states.val.value id).everReady = true → id ∈ scheduler.activityDepends.keys)
    (ready : ∀ id, (states.val.value id).everReady = true → (states.val.value id).ready = true) :
    Reported (startupLoop states) := by
  rcases startupLoop_cases states with ⟨-, same⟩ | ⟨-, same⟩
  · have continues := taskChain_continues states 0
    rw [same]
    refine .of_chaining continues.stage_eq ?_
    rw [continues.states_eq]
    exact known
  · rw [same]
    exact ⟨known, fun _ => ready⟩

theorem startupActivities_reported {states : States scheduler} (remaining : List ActivityId)
    (known : ∀ id, (states.val.value id).everReady = true → id ∈ scheduler.activityDepends.keys)
    (ready : ∀ id, (states.val.value id).everReady = true → (states.val.value id).ready = true) :
    Reported (startupActivities states remaining) := by
  cases remaining with
  | nil => exact startupLoop_reported known ready
  | cons first rest => exact ⟨known, fun _ => ready⟩

/-- Each shift keeps the started activities reported. -/
theorem Shift.reported {execution next : Execution scheduler} {event : Event}
    (shift : Shift execution event next) (reported : Reported execution) : Reported next := by
  have marked {states : States scheduler} {id : ActivityId}
      (member : id ∈ scheduler.activityDepends.keys)
      (known : ∀ id, (states.val.value id).everReady = true →
        id ∈ scheduler.activityDepends.keys) (other : ActivityId)
      (ever : ((markReady states id).val.value other).everReady = true) :
      other ∈ scheduler.activityDepends.keys := by
    rw [markReady_value] at ever
    split at ever
    · next same =>
        rw [same]
        exact member
    · exact known other ever
  cases shift with
  | stops passive states =>
      refine reported.of_eq states fun early => absurd ?_ passive
      rcases early with starting | waiting
      · exact .inl starting
      · exact .inr (.inl waiting)
  | stays running stage states =>
      refine reported.of_eq states fun early => ?_
      rw [← stage]
      exact early
  | startupSent =>
      exact startupActivities_reported _ reported.known (reported.ready (.inl rfl))
  | @startupReady states cycle reason id time member =>
      apply startupLoop_reported (marked member reported.known)
      intro other ever
      rw [markReady_value] at ever ⊢
      split at ever
      · next same => rw [if_pos same]
      · next different =>
          rw [if_neg different]
          exact reported.ready (.inr rfl) other ever
  | @stepSent states activity remaining cycle =>
      have continues :=
        stepReadyActivities_continues (markTriggered states activity) cycle remaining
      refine .of_chaining continues.stage_eq ?_
      intro id ever
      rw [continues.states_eq, markTriggered_value] at ever
      split at ever
      · next same =>
          rw [same]
          exact reported.known activity ever
      · exact reported.known id ever
  | @stepReady states cycle reason id time member =>
      have continues := chainLoop_continues (markReady states id) cycle
      refine .of_chaining continues.stage_eq ?_
      rw [continues.states_eq]
      exact marked member reported.known
  | @continued states cycle =>
      have continues := taskChain_continues states cycle
      refine .of_chaining continues.stage_eq ?_
      rw [continues.states_eq]
      exact reported.known

/-- Every run keeps the started activities reported. -/
theorem run_reported {events : List Event} {final : Execution scheduler}
    (reached : scheduler.machine.run scheduler.run events = some final) : Reported final := by
  refine scheduler.machine.run_preserves Reported
    (fun _ _ _ reported stepped => (step_transition stepped).shift.reported reported) ?_ reached
  exact startupActivities_reported _ (fun _ wrong => nomatch wrong) (fun _ wrong => nomatch wrong)

end Feo.Scheduler
