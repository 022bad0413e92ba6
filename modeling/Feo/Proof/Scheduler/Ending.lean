import Feo.Proof.Scheduler.Started

namespace Feo.Scheduler

open Foundation

variable {scheduler : Scheduler}

/-- The event neither sends to an activity nor broadcasts the termination. -/
def Event.Quiet : Event → Prop
  | .sendToActivity _ _ _ => False
  | .broadcastTerminate _ _ => False
  | _ => True

/-- A transition broadcasts, follows the broadcast quietly, or precedes it. -/
inductive Broadcasting (source target : Stage) (event : Event) : Prop where
  | broadcast {signal : Signal} {result : Except Error Unit} (before : source = .terminating)
      (same : event = .broadcastTerminate signal result) (after : target = .acknowledging)
  | follows (before : source = .acknowledging) (quiet : event.Quiet)
      (after : target = .acknowledging ∨ target = .panicked)
  | precedes (before : source ≠ .acknowledging)
      (other : ∀ signal result, event ≠ .broadcastTerminate signal result)
      (after : target ≠ .acknowledging)

theorem Stage.Active.precedes {source target : Stage} {event : Event} (active : target.Active)
    (before : source ≠ .acknowledging)
    (other : ∀ signal result, event ≠ .broadcastTerminate signal result) :
    Broadcasting source target event := .precedes before other active.ne_acknowledging

theorem Stage.Stopping.precedes {source target : Stage} {event : Event}
    (stopping : target.Stopping) (before : source ≠ .acknowledging)
    (other : ∀ signal result, event ≠ .broadcastTerminate signal result) :
    Broadcasting source target event := .precedes before other stopping.ne_acknowledging

/-- Only one transition broadcasts. -/
theorem Transition.broadcasting {execution next : Execution scheduler} {event : Event}
    (transition : Transition execution event next) :
    Broadcasting execution.point.stage next.point.stage event := by
  cases transition with
  | startupSent =>
      exact (startupActivities_stage _ _).1.precedes (fun wrong => nomatch wrong)
        (fun _ _ wrong => nomatch wrong)
  | startupFailed | stepFailed =>
      exact .precedes (fun wrong => nomatch wrong) (fun _ _ wrong => nomatch wrong)
        (fun wrong => nomatch wrong)
  | startupLate | requested =>
      exact (shutdownGracefully_stopping _ _ _).precedes (fun wrong => nomatch wrong)
        (fun _ _ wrong => nomatch wrong)
  | failed waits =>
      exact (shutdownGracefully_stopping _ _ _).precedes waits.active.ne_acknowledging
        (fun _ _ wrong => nomatch wrong)
  | ignored waits =>
      exact waits.active.precedes waits.active.ne_acknowledging (fun _ _ wrong => nomatch wrong)
  | unknown waits =>
      exact .precedes waits.active.ne_acknowledging (fun _ _ wrong => nomatch wrong)
        (fun wrong => nomatch wrong)
  | startupReady =>
      exact Stage.Active.precedes (.inr (startupLoop_stage _).1) (fun wrong => nomatch wrong)
        (fun _ _ wrong => nomatch wrong)
  | stepSent =>
      exact Stage.Active.precedes (.inr (.inr (stepReadyActivities_continues _ _ _).stage_eq))
        (fun wrong => nomatch wrong) (fun _ _ wrong => nomatch wrong)
  | stepReady =>
      exact Stage.Active.precedes (.inr (.inr (chainLoop_continues _ _).stage_eq))
        (fun wrong => nomatch wrong) (fun _ _ wrong => nomatch wrong)
  | continued =>
      exact Stage.Active.precedes (.inr (.inr (taskChain_continues _ _).stage_eq))
        (fun wrong => nomatch wrong) (fun _ _ wrong => nomatch wrong)
  | startupInTime | chainLate | chainInTime | slept | shutdownLate | shutdownInTime =>
      exact .precedes (fun wrong => nomatch wrong) (fun _ _ wrong => nomatch wrong)
        (fun wrong => nomatch wrong)
  | shutdownSent =>
      refine .precedes (fun wrong => nomatch wrong) (fun _ _ wrong => nomatch wrong) ?_
      rcases shutdownActivities_stage _ _ _ _ _ with stopping | panicked
      · exact stopping.ne_acknowledging
      · rw [panicked]
        decide
  | shutdownReceived =>
      exact Stage.Stopping.precedes (.inr (shutdownLoop_stage _ _ _ _ _).1)
        (fun wrong => nomatch wrong) (fun _ _ wrong => nomatch wrong)
  | terminated => exact .broadcast rfl rfl rfl
  | connected => exact .follows rfl trivial (awaitAgents_stage _ _ _ _)
  | ackLate | ackInTime => exact .follows rfl trivial (.inl rfl)
  | ackReceived => exact .follows rfl trivial (.inl (ackLoop_stage _ _ _ _ _))

/-- The history holds one broadcast after all sends once the agents are awaited. -/
structure Broadcasts (history : List Event) (execution : Execution scheduler) : Prop where
  before : execution.point.stage ≠ .acknowledging → execution.point.stage ≠ .panicked →
    ∀ signal result, Event.broadcastTerminate signal result ∉ history
  after : execution.point.stage = .acknowledging → ∃ front signal result back,
    history = front ++ .broadcastTerminate signal result :: back ∧
      (∀ signal result, Event.broadcastTerminate signal result ∉ front) ∧
      ∀ event ∈ back, event.Quiet

/-- Each transition keeps at most one broadcast. -/
theorem Transition.broadcasts {execution next : Execution scheduler} {event : Event}
    (transition : Transition execution event next) {history : List Event}
    (broadcasts : Broadcasts history execution) : Broadcasts (history ++ [event]) next := by
  cases transition.broadcasting with
  | broadcast before same after =>
      refine ⟨fun other => absurd after other, fun _ => ?_⟩
      have none := broadcasts.before (by rw [before]; decide) (by rw [before]; decide)
      exact ⟨history, _, _, [], by rw [same], none, List.forall_mem_nil _⟩
  | follows before quiet after =>
      obtain ⟨front, signal, result, back, split, none, silent⟩ := broadcasts.after before
      refine ⟨fun other alive => (after.elim other alive).elim, fun _ => ?_⟩
      refine ⟨front, signal, result, back ++ [event], ?_, none, ?_⟩
      · rw [split, List.append_assoc, List.cons_append]
      · exact List.forall_mem_append.mpr ⟨silent, List.forall_mem_singleton.mpr quiet⟩
  | precedes before other after =>
      refine ⟨fun _ _ signal result member => ?_, fun wrong => absurd wrong after⟩
      rcases List.mem_append.mp member with earlier | last
      · exact broadcasts.before before transition.source_ne_panicked signal result earlier
      · exact other signal result (List.mem_singleton.mp last).symm

/-- Every run broadcasts at most once. -/
theorem run_broadcasts {events : List Event} {final : Execution scheduler}
    (reached : scheduler.machine.run scheduler.run events = some final) :
    Broadcasts events final := by
  refine scheduler.machine.run_induction Broadcasts ?_ ?_ reached
  · refine ⟨fun _ _ _ _ member => (nomatch member), fun wrong => ?_⟩
    exact absurd wrong (startupActivities_stage _ _).1.ne_acknowledging
  · intro history execution event next _ broadcasts stepped
    exact (step_transition stepped).broadcasts broadcasts

/-- The event is the startup timeout or an error of the wait for the next ready signal. -/
def Aborts (execution : Execution scheduler) (event : Event) : Prop :=
  (∃ duration, execution.point = .startupElapsed ∧ event = .elapsed duration ∧
      duration.gt scheduler.startupTimeout = true) ∨
    execution.point.Waits ∧ ∃ result error, event = .receive result ∧
      scheduler.waitNextReady result = .failed error

/-- A run outside the active stages sends shutdown signals only. -/
theorem Transition.passive {execution next : Execution scheduler} {event : Event}
    (transition : Transition execution event next) (passive : ¬ execution.point.stage.Active) :
    ¬ next.point.stage.Active ∧
      ∀ id phase, event.phaseTo? id = some phase → phase = .shutdown := by
  have other {stage : Stage} (later : stage = .acknowledging ∨ stage = .panicked) :
      ¬ stage.Active := by
    rcases later with rfl | rfl
    · exact fun active => active.ne_acknowledging rfl
    · exact fun active => active.ne_panicked rfl
  cases transition with
  | startupSent | startupFailed => exact absurd (.inl rfl) passive
  | startupLate | startupInTime | startupReady => exact absurd (.inr (.inl rfl)) passive
  | ignored waits | failed waits | unknown waits => exact absurd waits.active passive
  | stepSent | stepFailed | stepReady | chainLate | chainInTime | slept | requested | continued =>
      exact absurd (.inr (.inr rfl)) passive
  | shutdownSent =>
      refine ⟨?_, fun id phase sent => (phaseTo?_send sent).2.symm⟩
      rcases shutdownActivities_stage _ _ _ _ _ with stopping | panicked
      · exact stopping.not_active
      · exact other (.inr panicked)
  | shutdownLate =>
      exact ⟨Stage.Stopping.not_active (.inr (.inr rfl)), fun _ _ wrong => nomatch wrong⟩
  | shutdownInTime =>
      exact ⟨Stage.Stopping.not_active (.inr (.inl rfl)), fun _ _ wrong => nomatch wrong⟩
  | shutdownReceived =>
      exact ⟨Stage.Stopping.not_active (.inr (shutdownLoop_stage _ _ _ _ _).1),
        fun _ _ wrong => nomatch wrong⟩
  | terminated | ackLate | ackInTime => exact ⟨other (.inl rfl), fun _ _ wrong => nomatch wrong⟩
  | connected => exact ⟨other (awaitAgents_stage _ _ _ _), fun _ _ wrong => nomatch wrong⟩
  | ackReceived =>
      exact ⟨other (.inl (ackLoop_stage _ _ _ _ _)), fun _ _ wrong => nomatch wrong⟩

/-- An abort leaves the active stages. -/
theorem step_aborts {execution next : Execution scheduler} {event : Event}
    (stepped : step execution event = some next) (aborts : Aborts execution event) :
    ¬ next.point.stage.Active := by
  obtain ⟨states, point, cycle, reason⟩ := execution
  rcases aborts with ⟨duration, rfl, rfl, late⟩ | ⟨rfl | rfl, result, error, rfl, failed⟩
  · change (if duration.gt scheduler.startupTimeout then _ else _) = some next at stepped
    rw [if_pos late] at stepped
    cases stepped
    exact (shutdownGracefully_stopping _ _ _).not_active
  · change some (received _ _ _ result) = some next at stepped
    rw [received, failed] at stepped
    cases stepped
    exact (shutdownGracefully_stopping _ _ _).not_active
  · change some (received _ _ _ result) = some next at stepped
    rw [received, failed] at stepped
    cases stepped
    exact (shutdownGracefully_stopping _ _ _).not_active

/-- Every run outside the active stages sends shutdown signals only. -/
theorem run_passive {start final : Execution scheduler} {events : List Event}
    (passive : ¬ start.point.stage.Active)
    (reached : scheduler.machine.run start events = some final) :
    ∀ event ∈ events, ∀ id phase, event.phaseTo? id = some phase → phase = .shutdown := by
  refine (scheduler.machine.run_induction
    (fun history execution => ¬ execution.point.stage.Active ∧
      ∀ event ∈ history, ∀ id phase, event.phaseTo? id = some phase → phase = .shutdown)
    ⟨passive, List.forall_mem_nil _⟩ ?_ reached).2
  rintro history execution event next - ⟨later, silent⟩ stepped
  obtain ⟨still, last⟩ := (step_transition stepped).passive later
  exact ⟨still, List.forall_mem_append.mpr ⟨silent, List.forall_mem_singleton.mpr last⟩⟩

end Feo.Scheduler
