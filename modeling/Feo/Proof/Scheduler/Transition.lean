import Feo.Construction.Scheduler

namespace Feo.Scheduler

open Foundation

variable {scheduler : Scheduler}

/-- The state map and the dependency map have the same keys. -/
@[simp] theorem states_keys (states : States scheduler) :
    states.val.keys = scheduler.activityDepends.keys := states.property

theorem allReady_iff (states : States scheduler) :
    allReady states = true ↔
      ∀ id ∈ scheduler.activityDepends.keys, (states.val.value id).ready = true := by
  rw [allReady, HashMap.all_values, states_keys]

/-- The dependencies of an activity are ready when those among the keys are. -/
theorem dependenciesReady_iff (states : States scheduler) (dependencies : List ActivityId) :
    dependenciesReady states dependencies = true ↔
      ∀ id ∈ scheduler.activityDepends.keys, id ∈ dependencies →
        (states.val.value id).ready = true := by
  simp [dependenciesReady, HashMap.iter, List.all_eq_true, imp_iff_not_or]

@[simp] theorem clearFlags_value (states : States scheduler) (id : ActivityId) :
    (clearFlags states).val.value id = ⟨false, false, (states.val.value id).everReady⟩ := rfl

theorem markTriggered_value (states : States scheduler) (id other : ActivityId) :
    (markTriggered states id).val.value other =
      if other = id then { states.val.value id with triggered := true }
      else states.val.value other := by
  rw [markTriggered, HashMap.modify_value]

theorem markReady_value (states : States scheduler) (id other : ActivityId) :
    (markReady states id).val.value other =
      if other = id then { states.val.value id with ready := true, everReady := true }
      else states.val.value other := by
  rw [markReady, HashMap.modify_value]

theorem mem_startedActivities (states : States scheduler) (id : ActivityId) :
    id ∈ startedActivities states ↔
      id ∈ scheduler.activityDepends.keys ∧ (states.val.value id).everReady = true := by
  simp [startedActivities]

theorem startedActivities_nodup (states : States scheduler) :
    (startedActivities states).Nodup := sortIds_nodup (states.val.nodup.filter _)

/-- An activity is eligible when it is not triggered and its dependencies are ready. -/
def Eligible (states : States scheduler) (id : ActivityId) : Prop :=
  (states.val.value id).triggered = false ∧
    dependenciesReady states (scheduler.activityDepends.value id) = true

/-- The iteration stops at an eligible activity. -/
theorem stepReadyActivities_stops {states : States scheduler} {cycle : Nat}
    {activity : ActivityId} {remaining : List ActivityId} (eligible : Eligible states activity) :
    stepReadyActivities states cycle (activity :: remaining) =
      ⟨states, .step activity remaining, cycle, none⟩ := by
  rw [stepReadyActivities, if_neg (by rw [eligible.1]; decide), if_pos eligible.2]

/-- The iteration passes an activity that is not eligible. -/
theorem stepReadyActivities_skips {states : States scheduler} {cycle : Nat}
    {activity : ActivityId} {remaining : List ActivityId} (blocked : ¬ Eligible states activity) :
    stepReadyActivities states cycle (activity :: remaining) =
      stepReadyActivities states cycle remaining := by
  rw [stepReadyActivities]
  split
  · rfl
  · next untriggered =>
      rw [if_neg fun ready => blocked ⟨Bool.eq_false_iff.mpr untriggered, ready⟩]

/-- The iteration waits after all activities or steps the next eligible one. -/
inductive Scanned (states : States scheduler) (cycle : Nat) (activities : List ActivityId) :
    Execution scheduler → Prop where
  | waiting (blocked : ∀ id ∈ activities, ¬ Eligible states id) :
      Scanned states cycle activities ⟨states, .stepReceive, cycle, none⟩
  | stepping {skipped remaining : List ActivityId} {activity : ActivityId}
      (split : activities = skipped ++ activity :: remaining)
      (blocked : ∀ id ∈ skipped, ¬ Eligible states id) (eligible : Eligible states activity) :
      Scanned states cycle activities ⟨states, .step activity remaining, cycle, none⟩

theorem stepReadyActivities_scanned (states : States scheduler) (cycle : Nat)
    (activities : List ActivityId) :
    Scanned states cycle activities (stepReadyActivities states cycle activities) := by
  induction activities with
  | nil => exact .waiting (List.forall_mem_nil _)
  | cons activity remaining hypothesis =>
      by_cases eligible : Eligible states activity
      · rw [stepReadyActivities_stops eligible]
        exact .stepping (List.nil_append _).symm (List.forall_mem_nil _) eligible
      · rw [stepReadyActivities_skips eligible]
        generalize stepReadyActivities states cycle remaining = result at hypothesis
        cases hypothesis with
        | waiting blocked => exact .waiting (List.forall_mem_cons.mpr ⟨eligible, blocked⟩)
        | stepping split blocked found =>
            exact .stepping (congrArg (activity :: ·) split)
              (List.forall_mem_cons.mpr ⟨eligible, blocked⟩) found

/-- These points wait for the next ready signal. -/
def Point.Waits (point : Point) : Prop := point = .startupReceive ∨ point = .stepReceive

/-- Each call of the scheduler leads to the next call. -/
inductive Transition : Execution scheduler → Event → Execution scheduler → Prop where
  | startupSent {states : States scheduler} {activity : ActivityId}
      {remaining : List ActivityId} {cycle : Nat} {reason : Option String} {time : Timestamp}
      {value : Unit} :
      Transition ⟨states, .startup activity remaining, cycle, reason⟩
        (.sendToActivity activity (.startup activity time) (.ok value))
        (startupActivities states remaining)
  | startupFailed {states : States scheduler} {activity : ActivityId}
      {remaining : List ActivityId} {cycle : Nat} {reason : Option String} {time : Timestamp}
      {error : Error} :
      Transition ⟨states, .startup activity remaining, cycle, reason⟩
        (.sendToActivity activity (.startup activity time) (.error error))
        ⟨states, .panicked (.startupSend error), cycle, reason⟩
  | startupLate {states : States scheduler} {cycle : Nat} {reason : Option String}
      {duration : Duration} (late : duration.gt scheduler.startupTimeout = true) :
      Transition ⟨states, .startupElapsed, cycle, reason⟩ (.elapsed duration)
        (shutdownGracefully states cycle "Startup timeout exceeded.")
  | startupInTime {states : States scheduler} {cycle : Nat} {reason : Option String}
      {duration : Duration} :
      Transition ⟨states, .startupElapsed, cycle, reason⟩ (.elapsed duration)
        ⟨states, .startupReceive, cycle, reason⟩
  | ignored {states : States scheduler} {point : Point} {cycle : Nat} {reason : Option String}
      {result : Except Error (Option Signal)} (waits : point.Waits)
      (again : scheduler.waitNextReady result = .again) :
      Transition ⟨states, point, cycle, reason⟩ (.receive result)
        ⟨states, point, cycle, reason⟩
  | failed {states : States scheduler} {point : Point} {cycle : Nat} {reason : Option String}
      {result : Except Error (Option Signal)} {error : Error} {text : String}
      (waits : point.Waits) (failed : scheduler.waitNextReady result = .failed error) :
      Transition ⟨states, point, cycle, reason⟩ (.receive result)
        (shutdownGracefully states cycle text)
  | unknown {states : States scheduler} {point : Point} {cycle : Nat} {reason : Option String}
      {id : ActivityId} {time : Timestamp} (waits : point.Waits)
      (unknown : id ∉ scheduler.activityDepends.keys) :
      Transition ⟨states, point, cycle, reason⟩ (.receive (.ok (some (.ready id time))))
        ⟨states, .panicked (.unknownActivity id), cycle, reason⟩
  | startupReady {states : States scheduler} {cycle : Nat} {reason : Option String}
      {id : ActivityId} {time : Timestamp} (known : id ∈ scheduler.activityDepends.keys) :
      Transition ⟨states, .startupReceive, cycle, reason⟩
        (.receive (.ok (some (.ready id time)))) (startupLoop (markReady states id))
  | stepSent {states : States scheduler} {activity : ActivityId}
      {remaining : List ActivityId} {cycle : Nat} {reason : Option String} {time : Timestamp}
      {value : Unit} :
      Transition ⟨states, .step activity remaining, cycle, reason⟩
        (.sendToActivity activity (.step activity time) (.ok value))
        (stepReadyActivities (markTriggered states activity) cycle remaining)
  | stepFailed {states : States scheduler} {activity : ActivityId}
      {remaining : List ActivityId} {cycle : Nat} {reason : Option String} {time : Timestamp}
      {error : Error} :
      Transition ⟨states, .step activity remaining, cycle, reason⟩
        (.sendToActivity activity (.step activity time) (.error error))
        ⟨states, .panicked (.stepSend error), cycle, reason⟩
  | stepReady {states : States scheduler} {cycle : Nat} {reason : Option String}
      {id : ActivityId} {time : Timestamp} (known : id ∈ scheduler.activityDepends.keys) :
      Transition ⟨states, .stepReceive, cycle, reason⟩
        (.receive (.ok (some (.ready id time)))) (chainLoop (markReady states id) cycle)
  | chainLate {states : States scheduler} {cycle : Nat} {reason : Option String}
      {duration : Duration} :
      Transition ⟨states, .chainElapsed, cycle, reason⟩ (.elapsed duration)
        ⟨states, .shutdownRequested, cycle, reason⟩
  | chainInTime {states : States scheduler} {cycle : Nat} {reason : Option String}
      {duration timeLeft : Duration} :
      Transition ⟨states, .chainElapsed, cycle, reason⟩ (.elapsed duration)
        ⟨states, .sleep timeLeft, cycle, reason⟩
  | slept {states : States scheduler} {cycle : Nat} {reason : Option String}
      {timeLeft : Duration} :
      Transition ⟨states, .sleep timeLeft, cycle, reason⟩ (.sleep timeLeft)
        ⟨states, .shutdownRequested, cycle, reason⟩
  | requested {states : States scheduler} {cycle : Nat} {reason : Option String} :
      Transition ⟨states, .shutdownRequested, cycle, reason⟩ (.shutdownRequested true)
        (shutdownGracefully states cycle "Main loop concluded or external signal received.")
  | continued {states : States scheduler} {cycle : Nat} {reason : Option String} :
      Transition ⟨states, .shutdownRequested, cycle, reason⟩ (.shutdownRequested false)
        (taskChain states cycle)
  | shutdownSent {states : States scheduler} {activity : ActivityId}
      {remaining pending : List ActivityId} {cycle : Nat} {reason : Option String}
      {time : Timestamp} {result : Except Error Unit} :
      Transition ⟨states, .shutdown activity remaining pending, cycle, reason⟩
        (.sendToActivity activity (.shutdown activity time) result)
        (shutdownActivities states cycle reason pending remaining)
  | shutdownLate {states : States scheduler} {pending : List ActivityId} {timeout : Duration}
      {cycle : Nat} {reason : Option String} {duration : Duration} :
      Transition ⟨states, .shutdownElapsed pending timeout, cycle, reason⟩ (.elapsed duration)
        (terminateAllAgents states cycle reason pending)
  | shutdownInTime {states : States scheduler} {pending : List ActivityId}
      {timeout : Duration} {cycle : Nat} {reason : Option String} {duration : Duration} :
      Transition ⟨states, .shutdownElapsed pending timeout, cycle, reason⟩ (.elapsed duration)
        ⟨states, .shutdownReceive pending timeout, cycle, reason⟩
  | shutdownReceived {states : States scheduler} {pending : List ActivityId}
      {timeout : Duration} {cycle : Nat} {reason : Option String}
      {result : Except Error (Option Signal)} :
      Transition ⟨states, .shutdownReceive pending timeout, cycle, reason⟩ (.receive result)
        (shutdownLoop states cycle reason timeout (confirmShutdown pending result))
  | terminated {states : States scheduler} {unconfirmed : List ActivityId} {cycle : Nat}
      {reason : Option String} {time : Timestamp} {result : Except Error Unit} :
      Transition ⟨states, .broadcastTerminate unconfirmed, cycle, reason⟩
        (.broadcastTerminate (.terminate time) result)
        ⟨states, .connectedAgents, cycle, reason⟩
  | connected {states : States scheduler} {cycle : Nat} {reason : Option String}
      {ids : List AgentId} :
      Transition ⟨states, .connectedAgents, cycle, reason⟩ (.connectedAgents ids)
        (awaitAgents states cycle reason (scheduler.pendingAgents ids))
  | ackLate {states : States scheduler} {pending : List AgentId} {timeout : Duration}
      {cycle : Nat} {reason : Option String} {duration : Duration} :
      Transition ⟨states, .ackElapsed pending timeout, cycle, reason⟩ (.elapsed duration)
        ⟨states, .finished, cycle, reason⟩
  | ackInTime {states : States scheduler} {pending : List AgentId} {timeout : Duration}
      {cycle : Nat} {reason : Option String} {duration : Duration} :
      Transition ⟨states, .ackElapsed pending timeout, cycle, reason⟩ (.elapsed duration)
        ⟨states, .ackReceive pending timeout, cycle, reason⟩
  | ackReceived {states : States scheduler} {pending : List AgentId} {timeout : Duration}
      {cycle : Nat} {reason : Option String} {result : Except Error (Option Signal)} :
      Transition ⟨states, .ackReceive pending timeout, cycle, reason⟩ (.receive result)
        (ackLoop states cycle reason timeout (confirmTerminate pending result))

/-- Only a ready signal sets a ready flag. -/
theorem waitNextReady_ready {result : Except Error (Option Signal)} {id : ActivityId}
    (waited : scheduler.waitNextReady result = .ready id) :
    ∃ time, result = .ok (some (.ready id time)) := by
  unfold waitNextReady at waited
  split at waited <;> cases waited
  exact ⟨_, rfl⟩

/-- The wait for a ready signal has one transition for each kind of received result. -/
theorem received_transition {states : States scheduler} {point : Point} {cycle : Nat}
    {reason : Option String} {text : String} (waits : point.Waits)
    {next : States scheduler → Execution scheduler}
    (ready : ∀ id time, id ∈ scheduler.activityDepends.keys →
      Transition ⟨states, point, cycle, reason⟩ (.receive (.ok (some (.ready id time))))
        (next (markReady states id)))
    (result : Except Error (Option Signal)) :
    Transition ⟨states, point, cycle, reason⟩ (.receive result)
      (received ⟨states, point, cycle, reason⟩ text next result) := by
  cases waited : scheduler.waitNextReady result with
  | again =>
      rw [received, waited]
      exact .ignored waits waited
  | failed error =>
      rw [received, waited]
      exact .failed waits waited
  | ready id =>
      obtain ⟨time, rfl⟩ := waitNextReady_ready waited
      rw [received, waited]
      by_cases known : id ∈ scheduler.activityDepends.keys
      · simp only [states_keys, if_pos known]
        exact ready id time known
      · simp only [states_keys, if_neg known]
        exact .unknown waits known

/-- Each step of the machine is a transition. -/
theorem step_transition {execution next : Execution scheduler} {event : Event}
    (stepped : step execution event = some next) : Transition execution event next := by
  obtain ⟨states, point, cycle, reason⟩ := execution
  unfold step at stepped
  dsimp only at stepped
  split at stepped
  · split at stepped
    · next same =>
        obtain ⟨rfl, rfl⟩ := same
        split at stepped
        · cases stepped
          exact .startupSent
        · cases stepped
          exact .startupFailed
    · cases stepped
  · split at stepped
    · next late =>
        cases stepped
        exact .startupLate late
    · cases stepped
      exact .startupInTime
  · cases stepped
    exact received_transition (.inl rfl) (fun _ _ known => .startupReady known) _
  · split at stepped
    · next same =>
        obtain ⟨rfl, rfl⟩ := same
        split at stepped
        · cases stepped
          exact .stepSent
        · cases stepped
          exact .stepFailed
    · cases stepped
  · cases stepped
    exact received_transition (.inr rfl) (fun _ _ known => .stepReady known) _
  · split at stepped
    · cases stepped
      exact .chainLate
    · cases stepped
      exact .chainInTime
  · split at stepped
    · next same =>
        subst same
        cases stepped
        exact .slept
    · cases stepped
  · split at stepped
    · next requested =>
        subst requested
        cases stepped
        exact .requested
    · next kept =>
        cases Bool.eq_false_iff.mpr kept
        cases stepped
        exact .continued
  · split at stepped
    · next same =>
        obtain ⟨rfl, rfl⟩ := same
        cases stepped
        exact .shutdownSent
    · cases stepped
  · split at stepped
    · cases stepped
      exact .shutdownLate
    · cases stepped
      exact .shutdownInTime
  · cases stepped
    exact .shutdownReceived
  · cases stepped
    exact .terminated
  · cases stepped
    exact .connected
  · split at stepped
    · cases stepped
      exact .ackLate
    · cases stepped
      exact .ackInTime
  · cases stepped
    exact .ackReceived
  · cases stepped

end Feo.Scheduler
