import Feo.Construction.System
import Feo.Proof.Scheduler.Started

namespace Feo

open Foundation

/-- The activity to which a signal is addressed. -/
def Signal.target? : Signal → Option ActivityId
  | .startup id _ => some id
  | .step id _ => some id
  | .shutdown id _ => some id
  | _ => none

namespace Worker

theorem handleActivitySignal_cases (worker : Worker) (id : ActivityId) (signal : Signal) :
    worker.handleActivitySignal id signal = .call signal ∨
      worker.handleActivitySignal id signal = .exited (.error (.activityNotFound id)) := by
  unfold handleActivitySignal
  split
  · exact .inl rfl
  · exact .inr rfl

/-- A received signal leads to a call, to the acknowledgement, or to an idle point. -/
theorem handleSignal_cases (worker : Worker) (signal : Signal) :
    (worker.handleSignal signal = .call signal ∧ ∃ id, signal.target? = some id) ∨
      (worker.handleSignal signal = .acknowledge ∧ signal.target? = none) ∨
      (worker.handleSignal signal).busy = false := by
  have activity (id : ActivityId) (target : signal.target? = some id)
      (handled : worker.handleSignal signal = worker.handleActivitySignal id signal) :
      (worker.handleSignal signal = .call signal ∧ ∃ id, signal.target? = some id) ∨
        (worker.handleSignal signal = .acknowledge ∧ signal.target? = none) ∨
        (worker.handleSignal signal).busy = false := by
    rw [handled]
    rcases worker.handleActivitySignal_cases id signal with same | same
    · exact .inl ⟨same, id, target⟩
    · rw [same]
      exact .inr (.inr rfl)
  cases signal with
  | startup id time | step id time | shutdown id time => exact activity id rfl rfl
  | terminate time => exact .inr (.inl ⟨rfl, rfl⟩)
  | _ => exact .inr (.inr rfl)

/-- The returned method determines the response. -/
theorem step_returned {worker : Worker} {point next : Point} {result : Except ActivityError Unit}
    {time : Timestamp} (stepped : worker.step point (.returned result time) = some next) :
    ∃ signal id, point = .call signal ∧ signal.target? = some id ∧
      next = .respond (response id time result) := by
  cases point with
  | call signal =>
      cases signal with
      | startup id sent | step id sent | shutdown id sent =>
          cases stepped
          exact ⟨_, id, rfl, rfl, rfl⟩
      | _ => cases stepped
  | _ => cases stepped

/-- An answer leaves the loop or continues it. -/
theorem step_sendToScheduler {worker : Worker} {point next : Point} {signal : Signal}
    {result : Except Error Unit}
    (stepped : worker.step point (.sendToScheduler signal result) = some next) :
    (point = .respond signal ∨
        point = .acknowledge ∧ signal = .terminateAck worker.agentId) ∧ next.busy = false := by
  cases point with
  | respond response =>
      simp only [step] at stepped
      split at stepped
      · next same =>
          subst same
          split at stepped <;> cases stepped <;> exact ⟨.inl rfl, rfl⟩
      · cases stepped
  | acknowledge =>
      simp only [step] at stepped
      split at stepped
      · next same =>
          cases stepped
          exact ⟨.inr ⟨rfl, same⟩, rfl⟩
      · cases stepped
  | call signal => cases signal <;> cases stepped
  | _ => cases stepped

/-- A received signal is handled. -/
theorem step_receive_some {worker : Worker} {point next : Point} {signal : Signal}
    (stepped : worker.step point (.receive (.ok (some signal))) = some next) :
    point = .receive ∧ next = worker.handleSignal signal := by
  cases point with
  | receive =>
      cases stepped
      exact ⟨rfl, rfl⟩
  | call signal => cases signal <;> cases stepped
  | _ => cases stepped

/-- The worker stays idle when it receives no signal and when it has lingered. -/
theorem step_idle {worker : Worker} {point next : Point} {event : Event}
    (silent : event = .receive (.ok none) ∨ (∃ error, event = .receive (.error error)) ∨
      event = .lingered)
    (stepped : worker.step point event = some next) :
    point.busy = false ∧ next.busy = false := by
  cases point with
  | call signal =>
      rcases silent with rfl | ⟨error, rfl⟩ | rfl <;> cases signal <;> cases stepped
  | receive =>
      rcases silent with rfl | ⟨error, rfl⟩ | rfl
      · cases stepped
        exact ⟨rfl, rfl⟩
      · cases error <;> cases stepped <;> exact ⟨rfl, rfl⟩
      · cases stepped
  | linger =>
      rcases silent with rfl | ⟨error, rfl⟩ | rfl <;> cases stepped
      exact ⟨rfl, rfl⟩
  | _ => rcases silent with rfl | ⟨error, rfl⟩ | rfl <;> cases stepped

/-- Only a received signal makes a worker busy. -/
theorem step_busy {worker : Worker} {point next : Point} {event : Event}
    (silent : ∀ signal, event ≠ .receive (.ok (some signal)))
    (stepped : worker.step point event = some next) (busy : next.busy = true) :
    point.busy = true := by
  cases event with
  | receive result =>
      have idle : Event.receive result = .receive (.ok none) ∨
          (∃ error, Event.receive result = .receive (.error error)) ∨
            Event.receive result = .lingered := by
        cases result with
        | error error => exact .inr (.inl ⟨error, rfl⟩)
        | ok received =>
            cases received with
            | none => exact .inl rfl
            | some signal => exact (silent signal rfl).elim
      rw [(step_idle idle stepped).2] at busy
      cases busy
  | returned result time =>
      obtain ⟨signal, id, source, _, _⟩ := step_returned stepped
      rw [source]
      rfl
  | sendToScheduler signal result =>
      rw [(step_sendToScheduler stepped).2] at busy
      cases busy
  | lingered =>
      rw [(step_idle (.inr (.inr rfl)) stepped).2] at busy
      cases busy

/-- Only a received signal leads to the call of an activity. -/
theorem step_call {worker : Worker} {point : Point} {event : Event}
    {signal : Signal} (unreceived : ∀ received, event ≠ .receive (.ok (some received))) :
    worker.step point event ≠ some (.call signal) := by
  intro stepped
  unfold step at stepped
  split at stepped <;> try cases stepped
  · next received => exact unreceived received rfl
  · split at stepped
    · split at stepped <;> cases stepped
    · cases stepped
  · split at stepped <;> cases stepped

/-- A worker calls an activity only for a signal that addresses it. -/
theorem handleSignal_call {worker : Worker} {received signal : Signal}
    (calls : worker.handleSignal received = .call signal) : received.target?.isSome = true := by
  rcases worker.handleSignal_cases received with ⟨_, id, target⟩ | ⟨acknowledged, _⟩ | idle
  · rw [target]
    rfl
  · rw [calls] at acknowledged
    cases acknowledged
  · rw [calls] at idle
    cases idle

end Worker

namespace System

variable {deployment : Deployment}

/-- Each event moves the scheduler, a signal, or a worker. -/
inductive Move (system : System deployment) : Event → System deployment → Prop where
  | scheduled {event : Scheduler.Event} {execution : Scheduler.Execution deployment.scheduler}
      (isLocal : event.isLocal = true)
      (transition : Scheduler.Transition system.execution event execution) :
      Move system (.scheduler event) { system with execution := execution }
  | sent {id : ActivityId} {signal : Signal}
      {execution : Scheduler.Execution deployment.scheduler}
      (transition : Scheduler.Transition system.execution (.sendToActivity id signal (.ok ()))
        execution) :
      Move system (.send id signal)
        { system with execution := execution, requests := system.enqueue id signal }
  | received {worker : WorkerId} {reply : Reply} {rest : List Reply}
      {execution : Scheduler.Execution deployment.scheduler}
      (head : system.replies worker = reply :: rest)
      (transition : Scheduler.Transition system.execution (.receive (.ok (some reply.signal)))
        execution) :
      Move system (.receive worker reply.signal)
        { system with
          execution := execution
          replies := Function.update system.replies worker rest
          log := .answered reply :: system.log }
  | broadcast {signal : Signal} {result : Except Error Unit} {reached : List WorkerId}
      {execution : Scheduler.Execution deployment.scheduler}
      (transition : Scheduler.Transition system.execution (.broadcastTerminate signal result)
        execution) :
      Move system (.broadcast signal result reached)
        { system with
          execution := execution
          requests := fun worker =>
            if worker ∈ reached then
              system.requests worker ++ [⟨signal, system.execution.cycle⟩]
            else system.requests worker }
  | accepted {id : WorkerId} {request : Request} {rest : List Request}
      (point : system.points id = .receive) (head : system.requests id = request :: rest) :
      Move system (.worker id (.receive (.ok (some request.signal))))
        (system.accept id request rest ((deployment.workers id).handleSignal request.signal))
  | idled {id : WorkerId} {event : Worker.Event} {point : Worker.Point}
      (before : (system.points id).busy = false) (after : point.busy = false) :
      Move system (.worker id event)
        { system with points := Function.update system.points id point }
  | returned {id : WorkerId} {signal : Signal} {target : ActivityId} {request : Request}
      {result : Except ActivityError Unit} {time : Timestamp}
      (point : system.points id = .call signal) (addressed : signal.target? = some target)
      (serving : system.serving id = some request) :
      Move system (.worker id (.returned result time))
        { system with
          points := Function.update system.points id
            (.respond (Worker.response target time result))
          log := .returned request result :: system.log }
  | responded {id : WorkerId} {signal : Signal} {request : Request}
      {result : Except Error Unit} {point : Worker.Point}
      (source : system.points id = .respond signal ∨ system.points id = .acknowledge ∧
        signal = .terminateAck (deployment.workers id).agentId)
      (serving : system.serving id = some request) (after : point.busy = false) :
      Move system (.worker id (.sendToScheduler signal result))
        (system.respond id request signal result point)

theorem workerStep_move {system next : System deployment} {id : WorkerId} {event : Worker.Event}
    (stepped : system.workerStep id event = some next) : Move system (.worker id event) next := by
  unfold workerStep at stepped
  split at stepped
  · cases stepped
  · next point worked =>
      split at stepped
      · next signal request rest head =>
          obtain ⟨source, rfl⟩ := Worker.step_receive_some worked
          split at stepped
          · next same =>
              subst same
              cases stepped
              exact .accepted source head
          · cases stepped
      · cases stepped
      · next result unmatched empty =>
          cases stepped
          have silent : Worker.Event.receive result = .receive (.ok none) ∨
              (∃ error, Worker.Event.receive result = .receive (.error error)) ∨
                Worker.Event.receive result = .lingered := by
            cases result with
            | error error => exact .inr (.inl ⟨error, rfl⟩)
            | ok received =>
                cases received with
                | none => exact .inl rfl
                | some signal =>
                    cases head : system.requests id with
                    | nil => exact (empty signal head rfl).elim
                    | cons request rest => exact (unmatched signal request rest head rfl).elim
          obtain ⟨before, after⟩ := Worker.step_idle silent worked
          exact .idled before after
      · next result time _ request _ _ serving =>
          obtain ⟨signal, target, source, addressed, rfl⟩ := Worker.step_returned worked
          cases stepped
          exact .returned source addressed serving
      · next signal result _ request _ _ serving =>
          obtain ⟨source, after⟩ := Worker.step_sendToScheduler worked
          cases stepped
          exact .responded source serving after
      · cases stepped
        obtain ⟨before, after⟩ := Worker.step_idle (.inr (.inr rfl)) worked
        exact .idled before after
      · cases stepped

/-- Each step is one of the moves. -/
theorem step_move {system next : System deployment} {event : Event}
    (stepped : system.step event = some next) : Move system event next := by
  cases event with
  | scheduler event =>
      simp only [step] at stepped
      split at stepped
      · next isLocal =>
          obtain ⟨execution, moved, rfl⟩ := Option.map_eq_some_iff.mp stepped
          exact .scheduled isLocal (Scheduler.step_transition moved)
      · cases stepped
  | send id signal =>
      obtain ⟨execution, moved, rfl⟩ := Option.map_eq_some_iff.mp stepped
      exact .sent (Scheduler.step_transition moved)
  | receive worker signal =>
      simp only [step] at stepped
      split at stepped
      · cases stepped
      · next reply rest head =>
          split at stepped
          · next same =>
              subst same
              obtain ⟨execution, moved, rfl⟩ := Option.map_eq_some_iff.mp stepped
              exact .received head (Scheduler.step_transition moved)
          · cases stepped
  | broadcast signal result reached =>
      obtain ⟨execution, moved, rfl⟩ := Option.map_eq_some_iff.mp stepped
      exact .broadcast (Scheduler.step_transition moved)
  | worker id event => exact workerStep_move stepped

/-- The channels hide the steps of the workers from the scheduler. -/
theorem step_scheduler {system next : System deployment} {event : Event}
    (stepped : system.step event = some next) :
    (event.scheduler? = none ∧ next.execution = system.execution) ∨
      ∃ scheduled, event.scheduler? = some scheduled ∧
        Scheduler.step system.execution scheduled = some next.execution := by
  cases event with
  | scheduler event =>
      simp only [step] at stepped
      split at stepped
      · obtain ⟨execution, moved, rfl⟩ := Option.map_eq_some_iff.mp stepped
        exact .inr ⟨_, rfl, moved⟩
      · cases stepped
  | send id signal =>
      obtain ⟨execution, moved, rfl⟩ := Option.map_eq_some_iff.mp stepped
      exact .inr ⟨_, rfl, moved⟩
  | receive worker signal =>
      simp only [step] at stepped
      split at stepped
      · cases stepped
      · split at stepped
        · obtain ⟨execution, moved, rfl⟩ := Option.map_eq_some_iff.mp stepped
          exact .inr ⟨_, rfl, moved⟩
        · cases stepped
  | broadcast signal result reached =>
      obtain ⟨execution, moved, rfl⟩ := Option.map_eq_some_iff.mp stepped
      exact .inr ⟨_, rfl, moved⟩
  | worker id event =>
      refine .inl ⟨rfl, ?_⟩
      cases workerStep_move stepped with
      | responded =>
          unfold respond
          split <;> rfl
      | _ => rfl

/-- These are the calls of the scheduler in a run of the system. -/
def calls (events : List Event) : List Scheduler.Event := events.filterMap Event.scheduler?

theorem calls_concat (events : List Event) (event : Event) :
    calls (events ++ [event]) = calls events ++ event.scheduler?.toList := by
  rw [calls, List.filterMap_append]
  cases scheduled : event.scheduler? <;> simp [calls, scheduled]

/-- The scheduler of a run performs a run of its own machine. -/
theorem run_calls {events : List Event} {system : System deployment}
    (reached : (machine deployment).run (initial deployment) events = some system) :
    deployment.scheduler.machine.run deployment.scheduler.run (calls events) =
      some system.execution := by
  apply (machine deployment).run_induction
    (fun history system => deployment.scheduler.machine.run deployment.scheduler.run
      (calls history) = some system.execution) rfl ?_ reached
  intro history system event next _ hypothesis stepped
  rw [calls_concat]
  rcases step_scheduler stepped with ⟨hidden, same⟩ | ⟨scheduled, shown, moved⟩
  · rw [hidden, Option.toList_none, List.append_nil, same]
    exact hypothesis
  · rw [shown, Option.toList_some, Machine.run_concat_iff]
    exact ⟨system.execution, hypothesis, moved⟩

end System

end Feo
