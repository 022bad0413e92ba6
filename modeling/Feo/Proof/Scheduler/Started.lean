import Feo.Proof.Scheduler.Lifecycle

namespace Feo.Scheduler

open Foundation

variable {scheduler : Scheduler}

/-- An execution keeps the started activities and adds no ready flag. -/
structure Follows (states : States scheduler) (target : Execution scheduler) : Prop where
  ever : ∀ id, (target.states.val.value id).everReady = (states.val.value id).everReady
  ready : ∀ id, (target.states.val.value id).ready = true → (states.val.value id).ready = true

theorem Follows.of_eq {states : States scheduler} {target : Execution scheduler}
    (same : target.states = states) : Follows states target := by
  subst same
  exact ⟨fun _ => rfl, fun _ ready => ready⟩

theorem Follows.of_clear {states : States scheduler} {target : Execution scheduler}
    (same : target.states = clearFlags states) : Follows states target := by
  refine ⟨fun id => by rw [same, clearFlags_value], fun id ready => ?_⟩
  rw [same, clearFlags_value] at ready
  cases ready

theorem startupLoop_follows (states : States scheduler) : Follows states (startupLoop states) := by
  rcases startupLoop_cases states with ⟨-, same⟩ | ⟨-, same⟩
  · rw [same]
    exact .of_clear (taskChain_continues states 0).states_eq
  · rw [same]
    exact .of_eq rfl

theorem startupActivities_follows (states : States scheduler) (remaining : List ActivityId) :
    Follows states (startupActivities states remaining) := by
  cases remaining with
  | nil => exact startupLoop_follows states
  | cons activity rest => exact .of_eq rfl

/-- A flag is set only by a received ready signal. -/
structure Flagged (history : List Event) (states : States scheduler) : Prop where
  known : ∀ id ∈ scheduler.activityDepends.keys, (states.val.value id).everReady = true →
    id ∈ readies history
  marked : ∀ id, (states.val.value id).ready = true → (states.val.value id).everReady = true

theorem Flagged.follows {history : List Event} {states : States scheduler}
    {target : Execution scheduler} (flagged : Flagged history states)
    (follows : Follows states target) : Flagged history target.states where
  known id member ever := flagged.known id member (by rw [← follows.ever id, ever])
  marked id ready := by
    rw [follows.ever id]
    exact flagged.marked id (follows.ready id ready)

theorem Flagged.concat {history : List Event} {states : States scheduler}
    (flagged : Flagged history states) (event : Event) :
    Flagged (history ++ [event]) states where
  known id member ever := by
    rw [readies_concat]
    exact List.mem_append_left _ (flagged.known id member ever)
  marked := flagged.marked

theorem Flagged.markTriggered {history : List Event} {states : States scheduler}
    (flagged : Flagged history states) (activity : ActivityId) :
    Flagged history (markTriggered states activity) where
  known id member ever := by
    refine flagged.known id member ?_
    rw [markTriggered_value] at ever
    split at ever
    · next same =>
        rw [same]
        exact ever
    · exact ever
  marked id ready := by
    rw [markTriggered_value] at ready ⊢
    split at ready
    · next same =>
        rw [if_pos same]
        exact flagged.marked activity ready
    · next other =>
        rw [if_neg other]
        exact flagged.marked id ready

theorem Flagged.markReady {history : List Event} {states : States scheduler}
    (flagged : Flagged history states) (activity : ActivityId) (time : Timestamp) :
    Flagged (history ++ [.receive (.ok (some (.ready activity time)))])
      (markReady states activity) where
  known id member ever := by
    rw [readies_concat]
    rw [markReady_value] at ever
    split at ever
    · next same =>
        rw [same]
        exact List.mem_append_right _ (List.mem_singleton_self _)
    · exact List.mem_append_left _ (flagged.known id member ever)
  marked id ready := by
    rw [markReady_value] at ready ⊢
    split at ready
    · next same => rw [if_pos same]
    · next other =>
        rw [if_neg other]
        exact flagged.marked id ready

/-- The step and shutdown signals go to activities that reported ready. -/
structure Started (history : List Event) (execution : Execution scheduler) : Prop where
  flagged : Flagged history execution.states
  ever : execution.point.stage = .chaining → ∀ id ∈ scheduler.activityDepends.keys,
    (execution.states.val.value id).everReady = true
  earned : ∀ id, Phase.step ∈ sentTo id history ∨ Phase.shutdown ∈ sentTo id history →
    id ∈ readies history

/-- An event that sends no step or shutdown signal keeps what was earned. -/
theorem Started.earned_concat {history : List Event} {execution : Execution scheduler}
    (started : Started history execution) {event : Event}
    (earns : ∀ id phase, event.phaseTo? id = some phase → phase = .startup ∨ id ∈ readies history) :
    ∀ id, Phase.step ∈ sentTo id (history ++ [event]) ∨
        Phase.shutdown ∈ sentTo id (history ++ [event]) → id ∈ readies (history ++ [event]) := by
  intro id sent
  rw [readies_concat]
  apply List.mem_append_left
  simp only [sentTo_concat, List.mem_append, Option.mem_toList] at sent
  have last (phase : Phase) (other : phase ≠ .startup)
      (member : event.phaseTo? id = some phase) : id ∈ readies history :=
    (earns id phase member).resolve_left other
  rcases sent with (earlier | now) | (earlier | now)
  · exact started.earned id (.inl earlier)
  · exact last .step (by decide) now
  · exact started.earned id (.inr earlier)
  · exact last .shutdown (by decide) now

/-- An earned event with a following target keeps the started activities. -/
theorem Started.follow {history : List Event} {execution target : Execution scheduler}
    {event : Event} (started : Started history execution)
    (earns : ∀ id phase, event.phaseTo? id = some phase → phase = .startup ∨ id ∈ readies history)
    (follows : Follows execution.states target)
    (ever : target.point.stage = .chaining → execution.point.stage = .chaining) :
    Started (history ++ [event]) target where
  flagged := (started.flagged.concat event).follows follows
  ever chaining id member := by
    rw [follows.ever id]
    exact started.ever (ever chaining) id member
  earned := started.earned_concat earns

theorem phaseTo?_send {target id : ActivityId} {signal : Signal} {result : Except Error Unit}
    {phase : Phase}
    (sent : (Event.sendToActivity target signal result).phaseTo? id = some phase) :
    target = id ∧ Phase.of signal = phase := by
  rw [Event.phaseTo?] at sent
  split at sent
  · next same => exact ⟨same, Option.some.inj sent⟩
  · cases sent

/-- A signal to a started activity is earned. -/
theorem Flagged.earns {history : List Event} {states : States scheduler}
    (flagged : Flagged history states) {activity : ActivityId} {signal : Signal}
    {result : Except Error Unit} (known : activity ∈ scheduler.activityDepends.keys)
    (ever : (states.val.value activity).everReady = true) :
    ∀ id phase, (Event.sendToActivity activity signal result).phaseTo? id = some phase →
      phase = .startup ∨ id ∈ readies history := by
  intro id phase sent
  obtain ⟨rfl, -⟩ := phaseTo?_send sent
  exact .inr (flagged.known _ known ever)

/-- The start of the first chain follows a complete startup. -/
theorem startupLoop_ever {history : List Event} {states : States scheduler}
    (flagged : Flagged history states)
    (chaining : (startupLoop states).point.stage = .chaining) :
    ∀ id ∈ scheduler.activityDepends.keys,
      ((startupLoop states).states.val.value id).everReady = true := by
  intro id member
  rw [(startupLoop_follows states).ever id]
  rcases startupLoop_cases states with ⟨all, -⟩ | ⟨-, same⟩
  · exact flagged.marked id ((allReady_iff states).mp all id member)
  · rw [same] at chaining
    cases chaining

theorem startupActivities_ever {history : List Event} {states : States scheduler}
    (flagged : Flagged history states) (remaining : List ActivityId)
    (chaining : (startupActivities states remaining).point.stage = .chaining) :
    ∀ id ∈ scheduler.activityDepends.keys,
      ((startupActivities states remaining).states.val.value id).everReady = true := by
  cases remaining with
  | nil => exact startupLoop_ever flagged chaining
  | cons activity rest => cases chaining

/-- Each transition keeps the started activities. -/
theorem Transition.started {execution next : Execution scheduler} {event : Event}
    (transition : Transition execution event next) {history : List Event}
    (scanning : Scanning execution) (lifecycle : Lifecycle history execution)
    (started : Started history execution) : Started (history ++ [event]) next := by
  cases transition with
  | @startupSent states activity remaining cycle reason time value =>
      refine ⟨(started.flagged.concat _).follows (startupActivities_follows _ _),
        startupActivities_ever started.flagged remaining, started.earned_concat ?_⟩
      exact fun id phase sent => .inl (phaseTo?_send sent).2.symm
  | startupFailed =>
      exact started.follow (fun id phase sent => .inl (phaseTo?_send sent).2.symm) (.of_eq rfl)
        (fun impossible => nomatch impossible)
  | startupLate | failed | requested =>
      exact started.follow (fun _ _ impossible => nomatch impossible)
        (.of_eq (shutdownGracefully_states _ _ _)) (fun impossible =>
          absurd impossible (shutdownGracefully_stopping _ _ _).ne_chaining)
  | startupInTime | unknown =>
      exact started.follow (fun _ _ impossible => nomatch impossible) (.of_eq rfl)
        (fun impossible => nomatch impossible)
  | ignored =>
      exact started.follow (fun _ _ impossible => nomatch impossible) (.of_eq rfl) id
  | @startupReady states cycle reason id time known =>
      have flagged := started.flagged.markReady id time
      exact ⟨flagged.follows (startupLoop_follows _), startupLoop_ever flagged,
        started.earned_concat fun _ _ impossible => nomatch impossible⟩
  | @stepSent states activity remaining cycle reason time value =>
      have member := scanning.stepped.1
      have ever := started.ever rfl
      have continues :=
        stepReadyActivities_continues (markTriggered states activity) cycle remaining
      have flagged := (started.flagged.concat
        (.sendToActivity activity (.step activity time) (.ok value))).markTriggered activity
      refine ⟨flagged.follows (.of_eq continues.states_eq), ?_,
        started.earned_concat (started.flagged.earns member (ever _ member))⟩
      intro _ id known
      rw [continues.states_eq, markTriggered_value]
      split
      · exact ever activity member
      · exact ever id known
  | @stepFailed states activity remaining cycle reason time error =>
      have member := scanning.stepped.1
      exact started.follow (started.flagged.earns member (started.ever rfl _ member)) (.of_eq rfl)
        (fun impossible => nomatch impossible)
  | @stepReady states cycle reason id time known =>
      have continues := chainLoop_continues (markReady states id) cycle
      refine ⟨(started.flagged.markReady id time).follows (.of_eq continues.states_eq), ?_,
        started.earned_concat fun _ _ impossible => nomatch impossible⟩
      intro _ other member
      rw [continues.states_eq, markReady_value]
      split
      · rfl
      · exact started.ever rfl other member
  | chainLate | chainInTime | slept =>
      exact started.follow (fun _ _ impossible => nomatch impossible) (.of_eq rfl) (fun _ => rfl)
  | continued =>
      exact started.follow (fun _ _ impossible => nomatch impossible)
        (.of_clear (taskChain_continues _ _).states_eq) (fun _ => rfl)
  | @shutdownSent states activity remaining pending cycle reason time result =>
      obtain ⟨known, ever⟩ := (mem_startedActivities states activity).mp lifecycle.started
      refine started.follow (started.flagged.earns known ever)
        (.of_eq (shutdownActivities_states _ _ _ _ _)) (fun chaining => ?_)
      rcases shutdownActivities_stage states cycle reason pending remaining with stage | panicked
      · exact absurd chaining stage.ne_chaining
      · cases panicked.symm.trans chaining
  | shutdownLate | shutdownInTime | terminated | ackLate | ackInTime =>
      exact started.follow (fun _ _ impossible => nomatch impossible) (.of_eq rfl)
        (fun impossible => nomatch impossible)
  | shutdownReceived =>
      exact started.follow (fun _ _ impossible => nomatch impossible)
        (.of_eq (shutdownLoop_states _ _ _ _ _))
        (fun impossible => absurd impossible
          (Stage.Stopping.ne_chaining (.inr (shutdownLoop_stage _ _ _ _ _).1)))
  | connected =>
      refine started.follow (fun _ _ impossible => nomatch impossible)
        (.of_eq (awaitAgents_states _ _ _ _)) (fun chaining => ?_)
      rcases awaitAgents_stage _ _ _ _ with stage | stage <;> cases stage.symm.trans chaining
  | ackReceived =>
      refine started.follow (fun _ _ impossible => nomatch impossible)
        (.of_eq (ackLoop_states _ _ _ _ _)) (fun chaining => ?_)
      cases (ackLoop_stage _ _ _ _ _).symm.trans chaining

/-- Every run keeps the started activities. -/
theorem run_started {events : List Event} {final : Execution scheduler}
    (reached : scheduler.machine.run scheduler.run events = some final) :
    Started events final := by
  refine scheduler.machine.run_induction Started ?_ ?_ reached
  · have flagged : Flagged [] scheduler.newStates := by
      constructor
      · exact fun _ _ impossible => nomatch impossible
      · exact fun _ impossible => nomatch impossible
    refine ⟨flagged.follows (startupActivities_follows _ _), startupActivities_ever flagged _, ?_⟩
    rintro id (impossible | impossible) <;> cases impossible
  · intro history execution event next before started stepped
    exact (step_transition stepped).started (run_scanning before) (run_lifecycle before) started

end Feo.Scheduler
