import Feo.Proof.Scheduler.Scan
import Feo.Proof.Scheduler.Termination

namespace Feo.Scheduler

open Foundation

variable {scheduler : Scheduler}

/-- A signal to an activity belongs to a phase of its life. -/
inductive Phase where
  | startup
  | step
  | shutdown
  | other
deriving DecidableEq

/-- The phase of a signal. -/
def Phase.of : Signal → Phase
  | .startup _ _ => .startup
  | .step _ _ => .step
  | .shutdown _ _ => .shutdown
  | _ => .other

/-- The call of `send_to_activity` for the given activity. -/
def Event.phaseTo? (id : ActivityId) : Event → Option Phase
  | .sendToActivity target signal _ => if target = id then some (Phase.of signal) else none
  | _ => none

/-- The ready signal that the scheduler received. -/
def Event.ready? : Event → Option ActivityId
  | .receive (.ok (some (.ready id _))) => some id
  | _ => none

/-- These phases were sent to the activity. -/
def sentTo (id : ActivityId) (history : List Event) : List Phase :=
  history.filterMap (Event.phaseTo? id)

/-- These activities reported ready. -/
def readies (history : List Event) : List ActivityId := history.filterMap Event.ready?

theorem sentTo_concat (id : ActivityId) (history : List Event) (event : Event) :
    sentTo id (history ++ [event]) = sentTo id history ++ (event.phaseTo? id).toList := by
  rw [sentTo, List.filterMap_append]
  cases sent : event.phaseTo? id <;> simp [sentTo, sent]

theorem readies_concat (history : List Event) (event : Event) :
    readies (history ++ [event]) = readies history ++ event.ready?.toList := by
  rw [readies, List.filterMap_append]
  cases sent : event.ready? <;> simp [readies, sent]

/-- An event that is no send keeps the sent phases. -/
theorem sentTo_of_none {id : ActivityId} {history : List Event} {event : Event}
    (silent : event.phaseTo? id = none) : sentTo id (history ++ [event]) = sentTo id history := by
  rw [sentTo_concat, silent, Option.toList_none, List.append_nil]

/-- An activity receives one startup signal and then step signals. -/
def word (steps : Nat) : List Phase := .startup :: List.replicate steps .step

/-- Each activity has its word, and the given activities have their shutdown signal. -/
def Sent (scheduler : Scheduler) (history : List Event) (closed : List ActivityId) : Prop :=
  ∀ id, ∃ steps, sentTo id history =
    if id ∈ scheduler.activityDepends.keys then
      word steps ++ if id ∈ closed then [.shutdown] else []
    else []

/-- The sent phases agree with the point of the run. -/
structure Lifecycle (history : List Event) (execution : Execution scheduler) : Prop where
  starting : ∀ activity remaining, execution.point = .startup activity remaining →
    ∃ done, sortIds scheduler.activityDepends.keys = done ++ activity :: remaining ∧
      ∀ id, sentTo id history = if id ∈ done then [.startup] else []
  running : execution.point.stage = .waiting ∨ execution.point.stage = .chaining →
    Sent scheduler history []
  closing : ∀ activity remaining pending, execution.point = .shutdown activity remaining pending →
    pending = startedActivities execution.states ∧
      ∃ done, pending = done ++ activity :: remaining ∧ Sent scheduler history done
  closed : execution.point.stage = .confirming ∨ execution.point.stage = .terminating ∨
      execution.point.stage = .acknowledging →
    Sent scheduler history (startedActivities execution.states)

section Introduction

variable {history : List Event} {execution : Execution scheduler}

theorem Lifecycle.of_running
    (stage : execution.point.stage = .waiting ∨ execution.point.stage = .chaining)
    (sent : Sent scheduler history []) : Lifecycle history execution where
  starting activity remaining same := by
    rw [same] at stage
    rcases stage with wrong | wrong <;> cases wrong
  running _ := sent
  closing activity remaining pending same := by
    rw [same] at stage
    rcases stage with wrong | wrong <;> cases wrong
  closed other := by
    rcases other with other | other | other <;> rw [other] at stage <;>
      rcases stage with wrong | wrong <;> cases wrong

theorem Lifecycle.of_closed
    (stage : execution.point.stage = .confirming ∨ execution.point.stage = .terminating ∨
      execution.point.stage = .acknowledging)
    (sent : Sent scheduler history (startedActivities execution.states)) :
    Lifecycle history execution where
  starting activity remaining same := by
    rw [same] at stage
    rcases stage with wrong | wrong | wrong <;> cases wrong
  running other := by
    rcases other with other | other <;> rw [other] at stage <;>
      rcases stage with wrong | wrong | wrong <;> cases wrong
  closing activity remaining pending same := by
    rw [same] at stage
    rcases stage with wrong | wrong | wrong <;> cases wrong
  closed _ := sent

theorem Lifecycle.of_panicked (stage : execution.point.stage = .panicked) :
    Lifecycle history execution where
  starting activity remaining same := by
    rw [same] at stage
    cases stage
  running other := by
    rw [stage] at other
    rcases other with wrong | wrong <;> cases wrong
  closing activity remaining pending same := by
    rw [same] at stage
    cases stage
  closed other := by
    rw [stage] at other
    rcases other with wrong | wrong | wrong <;> cases wrong

end Introduction

theorem Lifecycle.of_closing {history : List Event} {states : States scheduler}
    {activity : ActivityId} {remaining : List ActivityId} {cycle : Nat}
    {reason : Option String} (done : List ActivityId)
    (split : startedActivities states = done ++ activity :: remaining)
    (sent : Sent scheduler history done) :
    Lifecycle history (⟨states, .shutdown activity remaining (startedActivities states), cycle,
      reason⟩ : Execution scheduler) where
  starting _ _ impossible := nomatch impossible
  running impossible := by rcases impossible with wrong | wrong <;> cases wrong
  closing _ _ _ same := by
    cases same
    exact ⟨rfl, done, split, sent⟩
  closed impossible := by rcases impossible with wrong | wrong | wrong <;> cases wrong

theorem Lifecycle.of_starting {history : List Event} {states : States scheduler}
    {activity : ActivityId} {remaining : List ActivityId} {cycle : Nat}
    {reason : Option String} (done : List ActivityId)
    (split : sortIds scheduler.activityDepends.keys = done ++ activity :: remaining)
    (sent : ∀ id, sentTo id history = if id ∈ done then [.startup] else []) :
    Lifecycle history (⟨states, .startup activity remaining, cycle, reason⟩ :
      Execution scheduler) where
  starting _ _ same := by
    cases same
    exact ⟨done, split, sent⟩
  running impossible := by rcases impossible with wrong | wrong <;> cases wrong
  closing _ _ _ impossible := nomatch impossible
  closed impossible := by rcases impossible with wrong | wrong | wrong <;> cases wrong

/-- A history whose last event is no send keeps the sent phases. -/
theorem Sent.of_silent {history : List Event} {closed : List ActivityId} {event : Event}
    (sent : Sent scheduler history closed) (silent : ∀ id, event.phaseTo? id = none) :
    Sent scheduler (history ++ [event]) closed := by
  intro id
  rw [sentTo_of_none (silent id)]
  exact sent id

/-- The startup signal opens the word of its activity. -/
theorem sentTo_startup {history : List Event} {done : List ActivityId} {activity : ActivityId}
    (time : Timestamp) (result : Except Error Unit)
    (sent : ∀ id, sentTo id history = if id ∈ done then [.startup] else [])
    (fresh : activity ∉ done) (id : ActivityId) :
    sentTo id (history ++ [.sendToActivity activity (.startup activity time) result]) =
      if id ∈ done ++ [activity] then [.startup] else [] := by
  rw [sentTo_concat, sent id]
  by_cases same : activity = id
  · subst same
    simp [Event.phaseTo?, Phase.of, fresh]
  · have other : id ≠ activity := fun equal => same equal.symm
    simp [Event.phaseTo?, same, other]

/-- The startup signals go to the sorted activities one after the other. -/
theorem Lifecycle.startup {history : List Event} {states : States scheduler}
    {activity : ActivityId} {remaining : List ActivityId} {cycle : Nat} {reason : Option String}
    (lifecycle : Lifecycle history
      (⟨states, .startup activity remaining, cycle, reason⟩ : Execution scheduler))
    (time : Timestamp) (result : Except Error Unit) :
    ∃ done, sortIds scheduler.activityDepends.keys = done ++ activity :: remaining ∧
      ∀ id, sentTo id (history ++ [.sendToActivity activity (.startup activity time) result]) =
        if id ∈ done ++ [activity] then [.startup] else [] := by
  obtain ⟨done, split, sent⟩ := lifecycle.starting _ _ rfl
  have distinct := sortIds_nodup scheduler.activityDepends.nodup
  rw [split] at distinct
  have fresh : activity ∉ done := fun member =>
    List.disjoint_of_nodup_append distinct member List.mem_cons_self
  exact ⟨done, split, sentTo_startup time result sent fresh⟩

/-- The step signal extends the word of its activity. -/
theorem Sent.step {history : List Event} {activity : ActivityId} (time : Timestamp)
    (result : Except Error Unit) (sent : Sent scheduler history [])
    (known : activity ∈ scheduler.activityDepends.keys) :
    Sent scheduler
      (history ++ [.sendToActivity activity (.step activity time) result]) [] := by
  intro id
  obtain ⟨steps, before⟩ := sent id
  rw [sentTo_concat, before]
  by_cases same : activity = id
  · subst same
    refine ⟨steps + 1, ?_⟩
    simp [Event.phaseTo?, Phase.of, known, word, List.replicate_succ']
  · exact ⟨steps, by simp [Event.phaseTo?, same]⟩

/-- The shutdown signal closes the word of its activity. -/
theorem Sent.shutdown {history : List Event} {done : List ActivityId} {activity : ActivityId}
    (time : Timestamp) (result : Except Error Unit) (sent : Sent scheduler history done)
    (known : activity ∈ scheduler.activityDepends.keys) (fresh : activity ∉ done) :
    Sent scheduler
      (history ++ [.sendToActivity activity (.shutdown activity time) result])
      (done ++ [activity]) := by
  intro id
  obtain ⟨steps, before⟩ := sent id
  refine ⟨steps, ?_⟩
  rw [sentTo_concat, before]
  by_cases same : activity = id
  · subst same
    simp [Event.phaseTo?, Phase.of, known, fresh]
  · have other : id ≠ activity := fun equal => same equal.symm
    simp [Event.phaseTo?, same, other]

/-- The shutdown signals go to the started activities. -/
theorem Lifecycle.started {history : List Event} {states : States scheduler}
    {activity : ActivityId} {remaining pending : List ActivityId} {cycle : Nat}
    {reason : Option String}
    (lifecycle : Lifecycle history
      (⟨states, .shutdown activity remaining pending, cycle, reason⟩ : Execution scheduler)) :
    activity ∈ startedActivities states := by
  obtain ⟨same, done, split, -⟩ := lifecycle.closing _ _ _ rfl
  change pending = startedActivities states at same
  rw [← same, split]
  exact List.mem_append_right _ List.mem_cons_self

/-- The shutdown signals go to the started activities one after the other. -/
theorem Lifecycle.shutdown {history : List Event} {states : States scheduler}
    {activity : ActivityId} {remaining pending : List ActivityId} {cycle : Nat}
    {reason : Option String}
    (lifecycle : Lifecycle history
      (⟨states, .shutdown activity remaining pending, cycle, reason⟩ : Execution scheduler))
    (time : Timestamp) (result : Except Error Unit) :
    pending = startedActivities states ∧ ∃ done,
      startedActivities states = done ++ activity :: remaining ∧
      Sent scheduler (history ++ [.sendToActivity activity (.shutdown activity time) result])
        (done ++ [activity]) := by
  have known := ((mem_startedActivities states activity).mp lifecycle.started).1
  obtain ⟨same, done, split, sent⟩ := lifecycle.closing _ _ _ rfl
  change pending = startedActivities states at same
  have distinct := startedActivities_nodup states
  rw [← same, split] at distinct
  have fresh : activity ∉ done := fun member =>
    List.disjoint_of_nodup_append distinct member List.mem_cons_self
  exact ⟨same, done, same.symm.trans split, sent.shutdown time result known fresh⟩

/-- The graceful shutdown begins before any shutdown signal. -/
theorem lifecycle_shutdownGracefully {history : List Event} (states : States scheduler)
    (cycle : Nat) (text : String) (sent : Sent scheduler history []) :
    Lifecycle history (shutdownGracefully states cycle text) := by
  rcases shutdownGracefully_cases states cycle text with ⟨none, same⟩ | ⟨_, _, some, same⟩
  · rw [same]
    exact .of_closed (.inr (.inl rfl)) (by rw [none]; exact sent)
  · rw [same, ← some]
    exact .of_closing [] some sent

/-- The transitions of the later stages send nothing. -/
theorem Lifecycle.of_later {history : List Event} {execution next : Execution scheduler}
    {event : Event} (lifecycle : Lifecycle history execution)
    (stage : execution.point.stage = .confirming ∨ execution.point.stage = .terminating ∨
      execution.point.stage = .acknowledging)
    (silent : ∀ id, event.phaseTo? id = none) (states : next.states = execution.states)
    (later : next.point.stage = .confirming ∨ next.point.stage = .terminating ∨
      next.point.stage = .acknowledging) : Lifecycle (history ++ [event]) next := by
  refine .of_closed later ?_
  rw [states]
  exact (lifecycle.closed stage).of_silent silent

/-- Each transition extends the words of the activities. -/
theorem Transition.lifecycle {execution next : Execution scheduler} {event : Event}
    (transition : Transition execution event next) {history : List Event}
    (scanning : Scanning execution) (lifecycle : Lifecycle history execution) :
    Lifecycle (history ++ [event]) next := by
  have chains {target : Execution scheduler} {states : States scheduler} {cycle : Nat}
      (continues : Continues states cycle .chaining target)
      (sent : Sent scheduler (history ++ [event]) []) : Lifecycle (history ++ [event]) target :=
    .of_running (.inr continues.stage_eq) sent
  cases transition with
  | @startupSent states activity remaining cycle reason time value =>
      obtain ⟨done, split, extended⟩ := lifecycle.startup time (.ok value)
      cases remaining with
      | cons first rest =>
          refine .of_starting (done ++ [activity]) ?_ extended
          rw [split, List.append_assoc, List.singleton_append]
      | nil =>
          refine .of_running (startupLoop_stage states).1 ?_
          intro id
          refine ⟨0, ?_⟩
          rw [extended id, ← split]
          simp [word]
  | startupFailed | unknown | stepFailed => exact .of_panicked rfl
  | startupLate =>
      exact lifecycle_shutdownGracefully _ _ _
        ((lifecycle.running (.inl rfl)).of_silent fun _ => rfl)
  | failed waits =>
      refine lifecycle_shutdownGracefully _ _ _ (.of_silent (lifecycle.running ?_) fun _ => rfl)
      exact waits.imp (congrArg Point.stage) (congrArg Point.stage)
  | requested =>
      exact lifecycle_shutdownGracefully _ _ _
        ((lifecycle.running (.inr rfl)).of_silent fun _ => rfl)
  | startupInTime =>
      exact .of_running (.inl rfl) ((lifecycle.running (.inl rfl)).of_silent fun _ => rfl)
  | ignored waits =>
      have stage := waits.imp (congrArg Point.stage) (congrArg Point.stage)
      exact .of_running stage ((lifecycle.running stage).of_silent fun _ => rfl)
  | startupReady =>
      exact .of_running (startupLoop_stage _).1
        ((lifecycle.running (.inl rfl)).of_silent fun _ => rfl)
  | @stepSent states activity remaining cycle reason time value =>
      exact chains (stepReadyActivities_continues _ _ _)
        ((lifecycle.running (.inr rfl)).step time (.ok value) scanning.stepped.1)
  | stepReady =>
      exact chains (chainLoop_continues _ _)
        ((lifecycle.running (.inr rfl)).of_silent fun _ => rfl)
  | chainLate | chainInTime | slept =>
      exact .of_running (.inr rfl) ((lifecycle.running (.inr rfl)).of_silent fun _ => rfl)
  | continued =>
      exact chains (taskChain_continues _ _)
        ((lifecycle.running (.inr rfl)).of_silent fun _ => rfl)
  | @shutdownSent states activity remaining pending cycle reason time result =>
      obtain ⟨rfl, done, split, extended⟩ := lifecycle.shutdown time result
      rcases shutdownActivities_cases states cycle reason (startedActivities states) remaining with
        ⟨first, rest, rfl, target⟩ | ⟨rfl, -, timeout, target⟩ | ⟨-, -, _, target⟩
      · rw [target]
        refine .of_closing (done ++ [activity]) ?_ extended
        rw [split, List.append_assoc, List.singleton_append]
      · rw [target]
        refine .of_closed ((shutdownLoop_stage _ _ _ _ _).1.imp id .inl) ?_
        rw [shutdownLoop_states, split]
        exact extended
      · rw [target]
        exact .of_panicked rfl
  | shutdownLate => exact lifecycle.of_later (.inl rfl) (fun _ => rfl) rfl (.inr (.inl rfl))
  | shutdownInTime => exact lifecycle.of_later (.inl rfl) (fun _ => rfl) rfl (.inl rfl)
  | shutdownReceived =>
      exact lifecycle.of_later (.inl rfl) (fun _ => rfl) (shutdownLoop_states _ _ _ _ _)
        ((shutdownLoop_stage _ _ _ _ _).1.imp id .inl)
  | terminated =>
      exact lifecycle.of_later (.inr (.inl rfl)) (fun _ => rfl) rfl (.inr (.inr rfl))
  | connected =>
      rcases awaitAgents_stage _ _ _ _ with stage | panicked
      · exact lifecycle.of_later (.inr (.inr rfl)) (fun _ => rfl) (awaitAgents_states _ _ _ _)
          (.inr (.inr stage))
      · exact .of_panicked panicked
  | ackLate | ackInTime =>
      exact lifecycle.of_later (.inr (.inr rfl)) (fun _ => rfl) rfl (.inr (.inr rfl))
  | ackReceived =>
      exact lifecycle.of_later (.inr (.inr rfl)) (fun _ => rfl) (ackLoop_states _ _ _ _ _)
        (.inr (.inr (ackLoop_stage _ _ _ _ _)))

/-- Every run sends the words. -/
theorem run_lifecycle {events : List Event} {final : Execution scheduler}
    (reached : scheduler.machine.run scheduler.run events = some final) :
    Lifecycle events final := by
  refine scheduler.machine.run_induction Lifecycle ?_ ?_ reached
  · have order : sortIds scheduler.newStates.val.keys = sortIds scheduler.activityDepends.keys := by
      rw [states_keys]
    rw [run, order]
    cases sorted : sortIds scheduler.activityDepends.keys with
    | cons first rest => exact .of_starting [] sorted (fun _ => rfl)
    | nil =>
        refine .of_running (startupLoop_stage _).1 ?_
        intro id
        have unknown : id ∉ scheduler.activityDepends.keys := by
          rw [← mem_sortIds, sorted]
          exact List.not_mem_nil
        exact ⟨0, by rw [if_neg unknown]; rfl⟩
  · intro history execution event next before lifecycle stepped
    exact (step_transition stepped).lifecycle (run_scanning before) lifecycle

end Feo.Scheduler
