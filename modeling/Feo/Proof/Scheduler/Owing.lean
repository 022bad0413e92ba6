import Feo.Proof.Scheduler.Shift

namespace Feo.Scheduler

open Foundation

variable {scheduler : Scheduler}

/-- The scheduler has asked an activity in the current round. -/
structure Asked (execution : Execution scheduler) (id : ActivityId) : Prop where
  known : id ∈ scheduler.activityDepends.keys
  sent : ∀ activity remaining, execution.point = .startup activity remaining →
    id ∉ activity :: remaining
  triggered : execution.point.stage = .chaining →
    (execution.states.val.value id).triggered = true

theorem asked_of_waiting {execution : Execution scheduler}
    (stage : execution.point.stage = .waiting) {id : ActivityId}
    (known : id ∈ scheduler.activityDepends.keys) : Asked execution id := by
  refine ⟨known, ?_, ?_⟩
  · intro activity remaining same
    rw [same] at stage
    cases stage
  · intro chaining
    rw [stage] at chaining
    cases chaining

theorem asked_of_chaining {execution : Execution scheduler}
    (stage : execution.point.stage = .chaining) {id : ActivityId}
    (known : id ∈ scheduler.activityDepends.keys)
    (triggered : (execution.states.val.value id).triggered = true) : Asked execution id := by
  refine ⟨known, ?_, fun _ => triggered⟩
  intro activity remaining same
  rw [same] at stage
  cases stage

/-- Each asked activity that is not ready owes an answer, and the startup wait needs one. -/
structure Owing (execution : Execution scheduler) (owes : ActivityId → Prop) : Prop where
  outstanding : ∀ id, Asked execution id → (execution.states.val.value id).ready = false → owes id
  unready : execution.point.stage = .waiting → allReady execution.states = false

section Introduction

variable {states : States scheduler} {cycle : Nat} {owes : ActivityId → Prop}

/-- A new task chain has asked no activity yet. -/
theorem owing_taskChain (states : States scheduler) (cycle : Nat) (owes : ActivityId → Prop) :
    Owing (taskChain states cycle) owes := by
  have continues := taskChain_continues states cycle
  constructor
  · intro id asked
    have triggered := asked.triggered continues.stage_eq
    rw [continues.states_eq, clearFlags_value] at triggered
    cases triggered
  · intro stage
    rw [continues.stage_eq] at stage
    cases stage

theorem owing_startupLoop (outstanding : ∀ id ∈ scheduler.activityDepends.keys,
      (states.val.value id).ready = false → owes id) : Owing (startupLoop states) owes := by
  rcases startupLoop_cases states with ⟨-, same⟩ | ⟨unready, same⟩
  · rw [same]
    exact owing_taskChain states 0 owes
  · rw [same]
    exact ⟨fun id asked => outstanding id asked.known, fun _ => unready⟩

theorem owing_startupActivities {remaining : List ActivityId}
    (outstanding : ∀ id ∈ scheduler.activityDepends.keys, id ∉ remaining →
      (states.val.value id).ready = false → owes id) :
    Owing (startupActivities states remaining) owes := by
  cases remaining with
  | nil => exact owing_startupLoop fun id known => outstanding id known List.not_mem_nil
  | cons activity rest =>
      refine ⟨fun id asked => outstanding id asked.known (asked.sent activity rest rfl), ?_⟩
      intro stage
      cases stage

/-- The scan and the loop of a chain keep what the activities owe. -/
theorem Continues.owing {next : Execution scheduler}
    (continues : Continues states cycle .chaining next)
    (outstanding : ∀ id ∈ scheduler.activityDepends.keys,
      (states.val.value id).triggered = true → (states.val.value id).ready = false → owes id) :
    Owing next owes := by
  constructor
  · intro id asked unready
    have triggered := asked.triggered continues.stage_eq
    rw [continues.states_eq] at triggered unready
    exact outstanding id asked.known triggered unready
  · intro stage
    rw [continues.stage_eq] at stage
    cases stage

end Introduction

theorem owing_initial (scheduler : Scheduler) (owes : ActivityId → Prop) :
    Owing scheduler.run owes := by
  apply owing_startupActivities
  intro id known absent
  exact absurd ((mem_sortIds _ _).mpr known) absent

/-- A shift keeps what the activities owe, if a send adds to it and only an answer removes it. -/
theorem Shift.owing {execution next : Execution scheduler} {event : Event}
    {owes owesNext : ActivityId → Prop} (shift : Shift execution event next)
    (owing : Owing execution owes) (active : next.point.stage.Active)
    (sent : ∀ id signal value, event = .sendToActivity id signal (.ok value) → owesNext id)
    (kept : ∀ id, owes id → event.ready? = some id ∨ owesNext id) : Owing next owesNext := by
  have carry (quiet : event.ready? = none) (id : ActivityId) (before : owes id) : owesNext id := by
    refine (kept id before).resolve_left ?_
    rw [quiet]
    exact Option.some_ne_none id ∘ Eq.symm
  have answered {states : States scheduler} {id : ActivityId} (shown : event.ready? = some id)
      (other : ActivityId) (unready : ((markReady states id).val.value other).ready = false)
      (before : (states.val.value other).ready = false → owes other) : owesNext other := by
    rw [markReady_value] at unready
    split at unready
    · cases unready
    · next differs =>
        refine (kept other (before unready)).resolve_left ?_
        rw [shown]
        exact fun same => differs (Option.some.inj same).symm
  cases shift with
  | stops passive => exact absurd active passive
  | stays running stage states cycle quiet =>
      constructor
      · intro id asked unready
        rw [states] at unready
        refine carry quiet.unready id (owing.outstanding id ?_ unready)
        rcases running with waiting | chaining
        · exact asked_of_waiting waiting asked.known
        · have triggered := asked.triggered (stage.trans chaining)
          rw [states] at triggered
          exact asked_of_chaining chaining asked.known triggered
      · intro waiting
        rw [states]
        exact owing.unready (stage.symm.trans waiting)
  | @startupSent states activity remaining cycle reason time value =>
      apply owing_startupActivities
      intro id known later unready
      by_cases same : id = activity
      · rw [same]
        exact sent activity _ _ rfl
      · apply carry rfl
        refine owing.outstanding id ⟨known, ?_, ?_⟩ unready
        · intro other rest point
          cases point
          exact fun inside => (List.mem_cons.mp inside).elim same later
        · intro stage
          cases stage
  | @startupReady states cycle reason id time member =>
      apply owing_startupLoop
      intro other known unready
      apply answered rfl other unready
      intro before
      exact owing.outstanding other (asked_of_waiting rfl known) before
  | @stepSent states activity remaining cycle reason time value =>
      apply (stepReadyActivities_continues _ _ _).owing
      intro id known triggered unready
      rw [markTriggered_value] at triggered unready
      by_cases same : id = activity
      · rw [same]
        exact sent activity _ _ rfl
      · rw [if_neg same] at triggered unready
        apply carry rfl
        exact owing.outstanding id (asked_of_chaining rfl known triggered) unready
  | @stepReady states cycle reason id time member =>
      apply (chainLoop_continues _ _).owing
      intro other known triggered unready
      apply answered rfl other unready
      intro before
      refine owing.outstanding other (asked_of_chaining rfl known ?_) before
      rw [markReady_value] at triggered
      split at triggered
      · next same =>
          rw [same]
          exact triggered
      · exact triggered
  | continued => exact owing_taskChain _ _ _

end Feo.Scheduler
