import Feo.Proof.System.Chains

namespace Feo

open Foundation

/-- The calls and the returns of functions are what an application observes of a run. -/
inductive Observation where
  | called (signal : Signal)
  | returned (signal : Signal) (result : Except ActivityError Unit)
deriving DecidableEq

/-- An observed return of an activity's step. -/
def Observation.stepOf (id : ActivityId) : Observation → Bool
  | .returned (.step target _) _ => target = id
  | _ => false

/-- The answers that travel between the threads are not observed. -/
def Entry.observation? : Entry → Option Observation
  | .called request => some (.called request.signal)
  | .returned request result => some (.returned request.signal result)
  | _ => none

namespace System

variable {deployment : Deployment}

/-- The observations of a log, the oldest first. -/
def observations (log : List Entry) : List Observation := (log.filterMap Entry.observation?).reverse

@[simp] theorem observations_nil : observations [] = [] := rfl

theorem observations_cons (entry : Entry) (log : List Entry) :
    observations (entry :: log) = observations log ++ entry.observation?.toList := by
  unfold observations
  rw [List.filterMap_cons]
  cases entry.observation? <;> simp

/-- The observed returns are those of the log. -/
theorem countP_observations (log : List Entry) (id : ActivityId) :
    (observations log).countP (Observation.stepOf id) = steps log id := by
  induction log with
  | nil => rfl
  | cons entry rest ih =>
      rw [observations_cons, List.countP_append, ih, steps_cons]
      congr 1
      cases entry with
      | returned request result =>
          obtain ⟨signal, cycle⟩ := request
          cases signal with
          | step target time => simp [Entry.observation?, Observation.stepOf, Entry.stepOf]
          | _ => rfl
      | _ => rfl

/-- A step of the system makes at most one entry. -/
theorem log_grows {system next : System deployment} {event : Event}
    (stepped : system.step event = some next) :
    next.log = system.log ∨ ∃ entry, next.log = entry :: system.log := by
  cases step_move stepped with
  | scheduled | sent | broadcast | idled => exact .inl rfl
  | received | returned => exact .inr ⟨_, rfl⟩
  | accepted =>
      unfold accept
      dsimp only
      split
      · exact .inr ⟨_, rfl⟩
      · exact .inl rfl
  | @responded worker signal request answer =>
      cases answer with
      | error => exact .inl rfl
      | ok => exact .inr ⟨_, rfl⟩

/-- Each part of the log was the whole log right after its newest entry was made. -/
theorem run_entry {events : List Event} {system : System deployment}
    (reached : (machine deployment).run (initial deployment) events = some system)
    {entry : Entry} {before : List Entry} (suffix : entry :: before <:+ system.log) :
    ∃ history source event target,
      (machine deployment).run (initial deployment) history = some source ∧
        source.step event = some target ∧ source.log = before ∧
          target.log = entry :: before := by
  induction events using List.reverseRecOn generalizing system with
  | nil =>
      cases reached
      exact absurd (List.suffix_nil.mp suffix) (List.cons_ne_nil _ _)
  | append_singleton history event ih =>
      obtain ⟨source, earlier, stepped⟩ := (machine deployment).run_concat_iff.mp reached
      change source.step event = some system at stepped
      rcases log_grows stepped with same | ⟨newest, same⟩
      · rw [same] at suffix
        exact ih earlier suffix
      · rw [same] at suffix
        rcases List.suffix_cons_iff.mp suffix with equal | older
        · injection equal with head tail
          exact ⟨history, source, event, system, earlier, stepped, tail.symm, by
            rw [same, head, tail]⟩
        · exact ih earlier older

/-- A recorded call runs its function. -/
theorem calling_of_called {system next : System deployment} {event : Event} {request : Request}
    (stepped : system.step event = some next) (log : next.log = .called request :: system.log) :
    ∃ worker, Calling next worker request := by
  have longer : next.log ≠ system.log := by
    rw [log]
    exact List.cons_ne_self _ _
  cases step_move stepped with
  | scheduled | sent | broadcast | idled => exact absurd rfl longer
  | received | returned => cases log
  | @accepted worker signal other rest source =>
      unfold accept at log longer ⊢
      dsimp only at log longer
      split at log
      · next calls =>
          injection log with same
          injection same with same
          subst same
          refine ⟨worker, ?_, ?_⟩
          · simp [calls]
          · simp [calls, Worker.Point.busy]
      · next other => rw [if_neg other] at longer; exact absurd rfl longer
  | @responded worker signal other answer =>
      cases answer with
      | error => exact absurd rfl longer
      | ok => cases log

/-- An activity begins its next step when the activities that it depends on have finished theirs,
the activities that depend on it have not begun theirs, and all others are at most one apart. -/
structure InLockStep (scheduler : Scheduler) (count : ActivityId → Nat) (id : ActivityId) :
    Prop where
  dependencies : ∀ other, Relation.TransGen scheduler.Depends id other →
    count other = count id + 1
  dependents : ∀ other, Relation.TransGen scheduler.Depends other id → count other = count id
  others : ∀ other ∈ scheduler.activityDepends.keys,
    count id ≤ count other ∧ count other ≤ count id + 1

/-- Each recorded call of a step is in lock step. -/
theorem run_entry_lockStep {events : List Event} {system : System deployment}
    (reached : (machine deployment).run (initial deployment) events = some system)
    {id : ActivityId} {time : Timestamp} {cycle : Nat} {before : List Entry}
    (suffix : .called ⟨.step id time, cycle⟩ :: before <:+ system.log) :
    InLockStep deployment.scheduler (steps before) id := by
  obtain ⟨history, source, event, target, earlier, stepped, rfl, log⟩ := run_entry reached suffix
  have after := reached_of_run ((machine deployment).run_concat_iff.mpr
    ⟨source, earlier, stepped⟩)
  obtain ⟨worker, calling⟩ := calling_of_called stepped log
  have route := after.inOrder.coherent.route_eq calling id rfl
  subst route
  have stepping : Stepping target id cycle := ⟨time, calling⟩
  have count (other : ActivityId) : steps target.log other = steps source.log other := by
    rw [log, steps_cons]
    rfl
  have own := stepping.steps_eq after.inOrder after.recorded after.chained after.numbered
  have current := stepping.cycle_eq after.inOrder
  rw [count] at own
  refine ⟨fun other path => ?_, fun other path => ?_, fun other known => ⟨?_, ?_⟩⟩
  · rw [own, ← count]
    exact after.steps_of_dependency stepping path
  · have same := after.steps_of_dependent stepping path
    rw [count] at same
    omega
  · rcases Nat.eq_zero_or_pos (steps source.log id) with none | positive
    · omega
    · obtain ⟨sent, returned⟩ :=
        after.chained.earlier (steps source.log id) positive (by omega) other known
      have bound := (after.numbered.bound other sent _ _ returned).2
      rw [count] at bound
      exact bound
  · have most := after.steps_le other
    rw [count] at most
    omega

/-- A split of the observations is a split of the log. -/
theorem observations_split {log : List Entry} {before after : List Observation}
    {observation : Observation} (split : observations log = before ++ observation :: after) :
    ∃ entry older, entry :: older <:+ log ∧ entry.observation? = some observation ∧
      observations older = before := by
  induction log generalizing after with
  | nil => simp at split
  | cons entry rest ih =>
      have longer : rest <:+ entry :: rest := List.suffix_cons _ _
      rw [observations_cons] at split
      cases seen : entry.observation? with
      | none =>
          rw [seen, Option.toList_none, List.append_nil] at split
          obtain ⟨found, older, suffix, same⟩ := ih split
          exact ⟨found, older, suffix.trans longer, same⟩
      | some newest =>
          rw [seen, Option.toList_some] at split
          rcases List.eq_nil_or_concat after with rfl | ⟨front, last, rfl⟩
          · obtain ⟨same, final⟩ := List.append_inj' split rfl
            injection final with equal
            exact ⟨entry, rest, List.suffix_refl _, by rw [seen, equal], same⟩
          · rw [List.concat_eq_append, ← List.cons_append, ← List.append_assoc] at split
            obtain ⟨found, older, suffix, same⟩ := ih (List.append_inj' split rfl).1
            exact ⟨found, older, suffix.trans longer, same⟩

/-- Each observed call of a step is in lock step. -/
theorem run_lockStep {events : List Event} {system : System deployment}
    (reached : (machine deployment).run (initial deployment) events = some system)
    {id : ActivityId} {time : Timestamp} {before after : List Observation}
    (split : observations system.log = before ++ .called (.step id time) :: after) :
    InLockStep deployment.scheduler (fun other => before.countP (Observation.stepOf other)) id := by
  obtain ⟨entry, older, suffix, seen, rfl⟩ := observations_split split
  have counted : (fun other => (observations older).countP (Observation.stepOf other)) =
      steps older := by
    funext other
    exact countP_observations older other
  rw [counted]
  cases entry with
  | called request =>
      obtain ⟨signal, cycle⟩ := request
      cases seen
      exact run_entry_lockStep reached suffix
  | _ => cases seen

end System

end Feo
