import Feo.Foundation.Matching
import Feo.Proof.Scheduler.Ending
import Feo.Proof.Scheduler.Shift

namespace Feo.Scheduler

open Foundation

variable {scheduler : Scheduler}

/-- The activity to which the scheduler sends. -/
def Event.target? : Event → Option ActivityId
  | .sendToActivity id _ _ => some id
  | _ => none

/-- Each received ready signal answers a distinct earlier signal to its activity. -/
def AnswersEarlier (history : List Event) : Prop := Answers Event.target? Event.ready? history

/-- The sent phases count the signals to the activity. -/
theorem sentTo_length (id : ActivityId) (history : List Event) :
    (sentTo id history).length = (history.filterMap Event.target?).count id := by
  induction history with
  | nil => rfl
  | cons event history hypothesis =>
      rw [sentTo] at hypothesis ⊢
      cases event with
      | sendToActivity target signal result =>
          by_cases same : target = id
          · simp [Event.phaseTo?, Event.target?, same, hypothesis]
          · simp [Event.phaseTo?, Event.target?, same, hypothesis]
      | _ => exact hypothesis

/-- An activity has at most as many ready signals as signals to it. -/
theorem AnswersEarlier.count_le {history : List Event} (answers : AnswersEarlier history)
    (id : ActivityId) : (readies history).count id ≤ (sentTo id history).length := by
  rw [sentTo_length]
  exact Answers.count_le answers id

/-- The flags count the signals of the current chain and the counter those of the earlier ones. -/
structure Balanced (history : List Event) (execution : Execution scheduler) : Prop where
  starting : execution.point.stage = .starting → readies history = [] ∧
    ∀ id, (execution.states.val.value id).ready = false ∧
      (execution.states.val.value id).triggered = false
  waiting : execution.point.stage = .waiting → ∀ id ∈ scheduler.activityDepends.keys,
    (sentTo id history).length = 1 ∧
      (readies history).count id = (execution.states.val.value id).ready.toNat
  chaining : execution.point.stage = .chaining → ∀ id ∈ scheduler.activityDepends.keys,
    (sentTo id history).length =
        execution.cycle + (execution.states.val.value id).triggered.toNat ∧
      (readies history).count id =
        execution.cycle + (execution.states.val.value id).ready.toNat
  known : execution.point.stage.Active → ∀ id ∈ readies history,
    id ∈ scheduler.activityDepends.keys

theorem Balanced.of_passive {history : List Event} {execution : Execution scheduler}
    (passive : ¬ execution.point.stage.Active) : Balanced history execution where
  starting stage := absurd (.inl stage) passive
  waiting stage := absurd (.inr (.inl stage)) passive
  chaining stage := absurd (.inr (.inr stage)) passive
  known active := absurd active passive

theorem Balanced.of_waiting {history : List Event} {execution : Execution scheduler}
    (stage : execution.point.stage = .waiting)
    (waiting : ∀ id ∈ scheduler.activityDepends.keys, (sentTo id history).length = 1 ∧
      (readies history).count id = (execution.states.val.value id).ready.toNat)
    (known : ∀ id ∈ readies history, id ∈ scheduler.activityDepends.keys) :
    Balanced history execution where
  starting other := by cases stage.symm.trans other
  waiting _ := waiting
  chaining other := by cases stage.symm.trans other
  known _ := known

theorem Balanced.of_chaining {history : List Event} {execution : Execution scheduler}
    (stage : execution.point.stage = .chaining)
    (chaining : ∀ id ∈ scheduler.activityDepends.keys,
      (sentTo id history).length =
          execution.cycle + (execution.states.val.value id).triggered.toNat ∧
        (readies history).count id =
          execution.cycle + (execution.states.val.value id).ready.toNat)
    (known : ∀ id ∈ readies history, id ∈ scheduler.activityDepends.keys) :
    Balanced history execution where
  starting other := by cases stage.symm.trans other
  waiting other := by cases stage.symm.trans other
  chaining _ := chaining
  known _ := known

/-- A ready activity of the current chain was triggered. -/
theorem Balanced.triggered_of_ready {history : List Event} {execution : Execution scheduler}
    (balanced : Balanced history execution) (answers : AnswersEarlier history)
    (stage : execution.point.stage = .chaining) {id : ActivityId}
    (member : id ∈ scheduler.activityDepends.keys)
    (ready : (execution.states.val.value id).ready = true) :
    (execution.states.val.value id).triggered = true := by
  obtain ⟨sent, received⟩ := balanced.chaining stage id member
  have bound := answers.count_le id
  rw [sent, received, ready] at bound
  cases triggered : (execution.states.val.value id).triggered with
  | true => rfl
  | false =>
      rw [triggered, Bool.toNat_true, Bool.toNat_false] at bound
      omega

theorem readies_of_none {history : List Event} {event : Event} (unready : event.ready? = none) :
    readies (history ++ [event]) = readies history := by
  rw [readies_concat, unready, Option.toList_none, List.append_nil]

/-- An uncounted event keeps the balance of an unchanged stage. -/
theorem Balanced.follow {history : List Event} {execution target : Execution scheduler}
    {event : Event} (balanced : Balanced history execution) (uncounted : event.Uncounted)
    (states : target.states = execution.states) (cycle : target.cycle = execution.cycle)
    (stage : target.point.stage = execution.point.stage) :
    Balanced (history ++ [event]) target where
  starting starting := by
    rw [readies_of_none uncounted.unready, states]
    exact balanced.starting (stage.symm.trans starting)
  waiting waiting id member := by
    rw [readies_of_none uncounted.unready, sentTo_of_none (uncounted.silent id), states]
    exact balanced.waiting (stage.symm.trans waiting) id member
  chaining chaining id member := by
    rw [readies_of_none uncounted.unready, sentTo_of_none (uncounted.silent id), states, cycle]
    exact balanced.chaining (stage.symm.trans chaining) id member
  known active := by
    rw [readies_of_none uncounted.unready]
    exact balanced.known (by rw [← stage]; exact active)

/-- A ready signal counts for its activity. -/
theorem readies_ready_count (history : List Event) (id other : ActivityId) (time : Timestamp) :
    (readies (history ++ [.receive (.ok (some (.ready id time)))])).count other =
      (readies history).count other + if id = other then 1 else 0 := by
  rw [readies_concat, List.count_append]
  simp [Event.ready?, List.count_singleton]

theorem readies_ready_known {history : List Event} {id : ActivityId} (time : Timestamp)
    (before : ∀ other ∈ readies history, other ∈ scheduler.activityDepends.keys)
    (known : id ∈ scheduler.activityDepends.keys) :
    ∀ other ∈ readies (history ++ [.receive (.ok (some (.ready id time)))]),
      other ∈ scheduler.activityDepends.keys := by
  rw [readies_concat]
  exact List.forall_mem_append.mpr ⟨before, List.forall_mem_singleton.mpr known⟩

/-- A ready signal sets the flag that it is counted by. -/
theorem markReady_count {history : List Event} {states : States scheduler} {id : ActivityId}
    {time : Timestamp} {sends : Nat} (base : Nat)
    (received : ∀ other ∈ scheduler.activityDepends.keys,
      (readies history).count other = base + (states.val.value other).ready.toNat)
    (known : id ∈ scheduler.activityDepends.keys)
    (bound : (readies (history ++ [.receive (.ok (some (.ready id time)))])).count id ≤ sends)
    (sent : sends ≤ base + 1) :
    ∀ other ∈ scheduler.activityDepends.keys,
      (readies (history ++ [.receive (.ok (some (.ready id time)))])).count other =
        base + ((markReady states id).val.value other).ready.toNat := by
  intro other member
  rw [readies_ready_count] at bound ⊢
  rw [received other member, markReady_value]
  rw [if_pos rfl, received id known] at bound
  by_cases same : other = id
  · subst same
    rw [if_pos rfl, if_pos rfl, Bool.toNat_true]
    omega
  · rw [if_neg same, if_neg fun equal => same equal.symm]
    rfl

theorem clearFlags_balanced {history : List Event} {states : States scheduler} {cycle : Nat}
    (sent : ∀ id ∈ scheduler.activityDepends.keys, (sentTo id history).length = cycle + 1)
    (received : ∀ id ∈ scheduler.activityDepends.keys, (readies history).count id = cycle + 1)
    (known : ∀ id ∈ readies history, id ∈ scheduler.activityDepends.keys) :
    Balanced history (taskChain states cycle) := by
  have continues := taskChain_continues states cycle
  refine .of_chaining continues.stage_eq ?_ known
  intro id member
  rw [continues.states_eq, continues.cycle_eq, clearFlags_value]
  exact ⟨sent id member, received id member⟩

/-- The startup wait begins the first chain with one signal of each activity. -/
theorem startupLoop_balanced {history : List Event} {states : States scheduler}
    (sent : ∀ id ∈ scheduler.activityDepends.keys, (sentTo id history).length = 1 ∧
      (readies history).count id = (states.val.value id).ready.toNat)
    (known : ∀ id ∈ readies history, id ∈ scheduler.activityDepends.keys) :
    Balanced history (startupLoop states) := by
  rcases startupLoop_cases states with ⟨all, same⟩ | ⟨-, same⟩
  · rw [same]
    refine clearFlags_balanced (fun id member => (sent id member).1) ?_ known
    intro id member
    rw [(sent id member).2, (allReady_iff states).mp all id member]
    rfl
  · rw [same]
    exact .of_waiting rfl sent known

/-- The startup signals are counted one by one. -/
theorem startupActivities_balanced {history : List Event} {states : States scheduler}
    {activity : ActivityId} {remaining : List ActivityId} {cycle : Nat} {reason : Option String}
    (time : Timestamp) (value : Unit)
    (lifecycle : Lifecycle history
      (⟨states, .startup activity remaining, cycle, reason⟩ : Execution scheduler))
    (balanced : Balanced history
      (⟨states, .startup activity remaining, cycle, reason⟩ : Execution scheduler)) :
    Balanced (history ++ [.sendToActivity activity (.startup activity time) (.ok value)])
      (startupActivities states remaining) := by
  obtain ⟨empty, clear⟩ := balanced.starting rfl
  have silent : readies (history ++
      [.sendToActivity activity (.startup activity time) (.ok value)]) = [] := by
    rw [readies_of_none rfl, empty]
  obtain ⟨done, split, extended⟩ := lifecycle.startup time (.ok value)
  cases remaining with
  | cons first rest =>
      refine ⟨fun _ => ⟨silent, clear⟩, fun wrong => (nomatch wrong),
        fun wrong => (nomatch wrong), fun _ => ?_⟩
      rw [silent]
      exact List.forall_mem_nil _
  | nil =>
      apply startupLoop_balanced
      · intro id member
        have sorted : id ∈ done ++ [activity] := by
          rw [← split]
          exact (mem_sortIds _ _).mpr member
        rw [extended id, if_pos sorted, silent, (clear id).1]
        exact ⟨rfl, rfl⟩
      · rw [silent]
        exact List.forall_mem_nil _

/-- The first ready signal of an activity is counted by its flag. -/
theorem startupReady_balanced {history : List Event} {states : States scheduler} {cycle : Nat}
    {reason : Option String} {id : ActivityId} {time : Timestamp}
    (known : id ∈ scheduler.activityDepends.keys)
    (answers : AnswersEarlier (history ++ [.receive (.ok (some (.ready id time)))]))
    (balanced : Balanced history
      (⟨states, .startupReceive, cycle, reason⟩ : Execution scheduler)) :
    Balanced (history ++ [.receive (.ok (some (.ready id time)))])
      (startupLoop (markReady states id)) := by
  have waiting := balanced.waiting rfl
  have bound := answers.count_le id
  have sent (other : ActivityId) : sentTo other
      (history ++ [.receive (.ok (some (.ready id time)))]) = sentTo other history :=
    sentTo_of_none rfl
  rw [sent, (waiting id known).1] at bound
  have counts := markReady_count 0
    (fun other member => by rw [(waiting other member).2, Nat.zero_add]) known bound
    (Nat.le_refl 1)
  apply startupLoop_balanced
  · intro other member
    rw [sent, counts other member, Nat.zero_add]
    exact ⟨(waiting other member).1, rfl⟩
  · exact readies_ready_known time (balanced.known (.inr (.inl rfl))) known

/-- The step signal is counted by the trigger of its activity. -/
theorem stepSent_balanced {history : List Event} {states : States scheduler}
    {activity : ActivityId} {remaining : List ActivityId} {cycle : Nat} {reason : Option String}
    (time : Timestamp) (value : Unit)
    (scanning : Scanning
      (⟨states, .step activity remaining, cycle, reason⟩ : Execution scheduler))
    (balanced : Balanced history
      (⟨states, .step activity remaining, cycle, reason⟩ : Execution scheduler)) :
    Balanced (history ++ [.sendToActivity activity (.step activity time) (.ok value)])
      (stepReadyActivities (markTriggered states activity) cycle remaining) := by
  have chaining := balanced.chaining rfl
  obtain ⟨-, eligible⟩ := scanning.stepped
  have continues :=
    stepReadyActivities_continues (markTriggered states activity) cycle remaining
  have unready : (Event.sendToActivity activity (.step activity time) (.ok value)).ready? =
      none := rfl
  apply Balanced.of_chaining continues.stage_eq
  · intro id member
    obtain ⟨sent, received⟩ := chaining id member
    rw [continues.states_eq, continues.cycle_eq, markTriggered_value,
      readies_of_none unready, sentTo_concat, List.length_append, sent]
    by_cases same : activity = id
    · subst same
      rw [if_pos rfl, eligible.1]
      exact ⟨by simp [Event.phaseTo?], received⟩
    · rw [if_neg fun equal => same equal.symm]
      exact ⟨by simp [Event.phaseTo?, same], received⟩
  · rw [readies_of_none unready]
    exact balanced.known (.inr (.inr rfl))

/-- The ready signal of a triggered activity is counted by its flag. -/
theorem stepReady_balanced {history : List Event} {states : States scheduler} {cycle : Nat}
    {reason : Option String} {id : ActivityId} {time : Timestamp}
    (known : id ∈ scheduler.activityDepends.keys)
    (answers : AnswersEarlier (history ++ [.receive (.ok (some (.ready id time)))]))
    (balanced : Balanced history
      (⟨states, .stepReceive, cycle, reason⟩ : Execution scheduler)) :
    Balanced (history ++ [.receive (.ok (some (.ready id time)))])
      (chainLoop (markReady states id) cycle) := by
  have chaining := balanced.chaining rfl
  have bound := answers.count_le id
  have sent (other : ActivityId) : sentTo other
      (history ++ [.receive (.ok (some (.ready id time)))]) = sentTo other history :=
    sentTo_of_none rfl
  rw [sent, (chaining id known).1] at bound
  have counts := markReady_count cycle (fun other member => (chaining other member).2) known bound
    (Nat.add_le_add_left (Bool.toNat_le _) _)
  have continues := chainLoop_continues (markReady states id) cycle
  apply Balanced.of_chaining continues.stage_eq
  · intro other member
    rw [continues.states_eq, continues.cycle_eq, sent, counts other member,
      (chaining other member).1, markReady_value]
    refine ⟨?_, rfl⟩
    split
    · next same => rw [same]
    · rfl
  · exact readies_ready_known time (balanced.known (.inr (.inr rfl))) known

/-- A complete chain has one answered signal to each activity. -/
theorem continued_balanced {history : List Event} {states : States scheduler} {cycle : Nat}
    {reason : Option String} (answers : AnswersEarlier history)
    (scanning : Scanning
      (⟨states, .shutdownRequested, cycle, reason⟩ : Execution scheduler))
    (balanced : Balanced history
      (⟨states, .shutdownRequested, cycle, reason⟩ : Execution scheduler)) :
    Balanced (history ++ [.shutdownRequested false]) (taskChain states cycle) := by
  have chaining := balanced.chaining rfl
  have ready := (allReady_iff states).mp scanning.allReady_of_requested
  have silent (id : ActivityId) : sentTo id (history ++ [.shutdownRequested false]) =
      sentTo id history := sentTo_of_none rfl
  have unready : readies (history ++ [.shutdownRequested false]) = readies history :=
    readies_of_none rfl
  apply clearFlags_balanced
  · intro id member
    rw [silent, (chaining id member).1,
      balanced.triggered_of_ready answers rfl member (ready id member)]
    rfl
  · intro id member
    rw [unready, (chaining id member).2, ready id member]
    rfl
  · rw [unready]
    exact balanced.known (.inr (.inr rfl))

/-- Each shift keeps the balance while the ready signals are answers. -/
theorem Shift.balanced {execution next : Execution scheduler} {event : Event}
    (shift : Shift execution event next) {history : List Event}
    (answers : AnswersEarlier (history ++ [event])) (scanning : Scanning execution)
    (lifecycle : Lifecycle history execution) (balanced : Balanced history execution) :
    Balanced (history ++ [event]) next := by
  cases shift with
  | stops passive => exact .of_passive passive
  | stays _ stage states cycle quiet => exact balanced.follow quiet states cycle stage
  | startupSent => exact startupActivities_balanced _ _ lifecycle balanced
  | startupReady known => exact startupReady_balanced known answers balanced
  | stepSent => exact stepSent_balanced _ _ scanning balanced
  | stepReady known => exact stepReady_balanced known answers balanced
  | continued => exact continued_balanced answers.of_append scanning balanced

/-- Every run with answered signals is balanced. -/
theorem run_balanced {events : List Event} {final : Execution scheduler}
    (reached : scheduler.machine.run scheduler.run events = some final)
    (answers : AnswersEarlier events) : Balanced events final := by
  refine scheduler.machine.run_induction
    (fun history execution => AnswersEarlier history → Balanced history execution) ?_ ?_
    reached answers
  · intro _
    have clear : ∀ id, (scheduler.newStates.val.value id).ready = false ∧
        (scheduler.newStates.val.value id).triggered = false := fun _ => ⟨rfl, rfl⟩
    rw [run]
    cases sorted : sortIds scheduler.newStates.val.keys with
    | cons first rest =>
        refine ⟨fun _ => ⟨rfl, clear⟩, ?_, ?_, fun _ => List.forall_mem_nil _⟩
        · intro wrong
          cases wrong
        · intro wrong
          cases wrong
    | nil =>
        refine startupLoop_balanced ?_ (List.forall_mem_nil _)
        intro id member
        rw [← states_keys scheduler.newStates, ← mem_sortIds, sorted] at member
        cases member
  · intro history execution event next before hypothesis stepped extended
    exact (step_transition stepped).shift.balanced extended (run_scanning before)
      (run_lifecycle before) (hypothesis extended.of_append)

theorem pairRun_answers : AnswersEarlier pairRun := by
  apply answers_of_request fun index =>
    if index = 3 then 1 else if index = 5 then 0 else if index = 21 then 19
      else if index = 23 then 18 else index - 1
  · decide
  · decide

end Feo.Scheduler
