import Feo.Proof.System.Move

namespace Feo.System

open Foundation

variable {deployment : Deployment} {system : System deployment}
  {execution : Scheduler.Execution deployment.scheduler}

/-- The scheduler performs a call that moves no signal. -/
theorem act_scheduled {event : Scheduler.Event} (isLocal : event.isLocal = true)
    (stepped : Scheduler.step system.execution event = some execution) :
    system.step (.scheduler event) = some { system with execution := execution } := by
  rw [step, if_pos isLocal, stepped]
  rfl

/-- The scheduler sends a signal to an activity. -/
theorem act_send {id : ActivityId} {signal : Signal}
    (stepped : Scheduler.step system.execution (.sendToActivity id signal (.ok ())) =
      some execution) :
    system.step (.send id signal) =
      some { system with execution := execution, requests := system.enqueue id signal } := by
  rw [step, stepped]
  rfl

/-- The scheduler receives the oldest reply of a worker. -/
theorem act_receive {worker : WorkerId} {reply : Reply} {rest : List Reply}
    (head : system.replies worker = reply :: rest)
    (stepped : Scheduler.step system.execution (.receive (.ok (some reply.signal))) =
      some execution) :
    system.step (.receive worker reply.signal) =
      some { system with
        execution := execution
        replies := Function.update system.replies worker rest
        log := .answered reply :: system.log } := by
  rw [step, head]
  dsimp only
  rw [if_pos rfl, stepped]
  rfl

/-- The scheduler broadcasts a signal to some workers. -/
theorem act_broadcast {signal : Signal} {result : Except Error Unit} {reached : List WorkerId}
    (stepped : Scheduler.step system.execution (.broadcastTerminate signal result) =
      some execution) :
    system.step (.broadcast signal result reached) =
      some { system with
        execution := execution
        requests := fun worker =>
          if worker ∈ reached then
            system.requests worker ++ [⟨signal, system.execution.cycle⟩]
          else system.requests worker } := by
  rw [step, stepped]
  rfl

/-- A worker that waits for a signal accepts the oldest request. -/
theorem act_accept {worker : WorkerId} {request : Request} {rest : List Request}
    (waits : system.points worker = .receive) (head : system.requests worker = request :: rest) :
    system.step (.worker worker (.receive (.ok (some request.signal)))) =
      some (system.accept worker request rest
        ((deployment.workers worker).handleSignal request.signal)) := by
  rw [step, workerStep, waits, head]
  exact if_pos rfl

/-- A worker whose call delivers nothing goes on. -/
theorem act_unreceived {worker : WorkerId} {result : Except Error (Option Signal)}
    {point : Worker.Point}
    (stepped : (deployment.workers worker).step (system.points worker) (.receive result) =
      some point) (nothing : ∀ signal, result ≠ .ok (some signal)) :
    system.step (.worker worker (.receive result)) =
      some { system with points := Function.update system.points worker point } := by
  rw [step, workerStep, stepped]
  cases result with
  | error error => rfl
  | ok received =>
      cases received with
      | none => rfl
      | some signal => exact absurd rfl (nothing signal)

/-- The called function of a worker returns. -/
theorem act_returned {worker : WorkerId} {request : Request}
    {result : Except ActivityError Unit} {time : Timestamp} {point : Worker.Point}
    (stepped : (deployment.workers worker).step (system.points worker) (.returned result time) =
      some point) (serving : system.serving worker = some request) :
    system.step (.worker worker (.returned result time)) =
      some { system with
        points := Function.update system.points worker point
        log := .returned request result :: system.log } := by
  rw [step, workerStep, stepped, serving]

/-- A worker answers the request that it serves. -/
theorem act_respond {worker : WorkerId} {request : Request} {signal : Signal}
    {result : Except Error Unit} {point : Worker.Point}
    (stepped : (deployment.workers worker).step (system.points worker)
      (.sendToScheduler signal result) = some point)
    (serving : system.serving worker = some request) :
    system.step (.worker worker (.sendToScheduler signal result)) =
      some (system.respond worker request signal result point) := by
  rw [step, workerStep, stepped, serving]

/-- A worker lingers before it exits. -/
theorem act_lingered {worker : WorkerId} {point : Worker.Point}
    (stepped : (deployment.workers worker).step (system.points worker) .lingered = some point) :
    system.step (.worker worker .lingered) =
      some { system with points := Function.update system.points worker point } := by
  rw [step, workerStep, stepped]

end Feo.System
