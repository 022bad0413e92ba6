import Feo.Construction.Scheduler
import Feo.Construction.Worker

namespace Feo

open Foundation

/-- A deployment assigns the activities to workers and the workers to agents. -/
structure Deployment where
  scheduler : Scheduler
  workers : WorkerId → Worker
  route : ActivityId → WorkerId

/-- A request is a signal to a worker together with the task chain that sent it. -/
structure Request where
  signal : Signal
  cycle : Nat
deriving DecidableEq

/-- A reply is a signal to the scheduler together with the request that it answers. -/
structure Reply where
  signal : Signal
  request : Request
deriving DecidableEq

/-- The log records what happened to each request. -/
inductive Entry where
  | called (request : Request)
  | returned (request : Request) (result : Except ActivityError Unit)
  | replied (reply : Reply)
  | answered (reply : Reply)
deriving DecidableEq

/-- The connectors keep one queue to each worker and one queue from each worker. -/
structure System (deployment : Deployment) where
  execution : Scheduler.Execution deployment.scheduler
  points : WorkerId → Worker.Point
  serving : WorkerId → Option Request
  requests : WorkerId → List Request
  replies : WorkerId → List Reply
  log : List Entry

/-- A local event moves no signal through a channel. -/
def Scheduler.Event.isLocal : Scheduler.Event → Bool
  | .sendToActivity _ _ (.ok _) => false
  | .receive (.ok (some _)) => false
  | .broadcastTerminate _ _ => false
  | _ => true

/-- A busy worker owes the answer to a request. -/
def Worker.Point.busy : Worker.Point → Bool
  | .call _ => true
  | .respond _ => true
  | .acknowledge => true
  | _ => false

namespace System

variable {deployment : Deployment}

/-- The events interleave the scheduler and the workers in any order. -/
inductive Event where
  | scheduler (event : Scheduler.Event)
  | send (id : ActivityId) (signal : Signal)
  | receive (worker : WorkerId) (signal : Signal)
  | broadcast (signal : Signal) (result : Except Error Unit) (reached : List WorkerId)
  | worker (id : WorkerId) (event : Worker.Event)

/-- The scheduler performs its part of an event. -/
def Event.scheduler? : Event → Option Scheduler.Event
  | .scheduler event => some event
  | .send id signal => some (.sendToActivity id signal (.ok ()))
  | .receive _ signal => some (.receive (.ok (some signal)))
  | .broadcast signal result _ => some (.broadcastTerminate signal result)
  | .worker _ _ => none

/-- A successful send appends the request to the queue of the activity's worker. -/
def enqueue (system : System deployment) (id : ActivityId) (signal : Signal) :
    WorkerId → List Request :=
  Function.update system.requests (deployment.route id)
    (system.requests (deployment.route id) ++ [⟨signal, system.execution.cycle⟩])

/-- A worker that received a signal serves its request while it owes an answer. -/
def accept (system : System deployment) (id : WorkerId) (request : Request)
    (rest : List Request) (point : Worker.Point) : System deployment :=
  { system with
    points := Function.update system.points id point
    serving := Function.update system.serving id (if point.busy then some request else none)
    requests := Function.update system.requests id rest
    log := if point = .call request.signal then .called request :: system.log else system.log }

/-- The answer of the worker enters its reply queue if the send succeeds. -/
def respond (system : System deployment) (id : WorkerId) (request : Request) (signal : Signal)
    (result : Except Error Unit) (point : Worker.Point) : System deployment :=
  let settled : System deployment :=
    { system with
      points := Function.update system.points id point
      serving := Function.update system.serving id none }
  match result with
  | .ok _ =>
      { settled with
        replies := Function.update system.replies id (system.replies id ++ [⟨signal, request⟩])
        log := .replied ⟨signal, request⟩ :: system.log }
  | .error _ => settled

/-- The channels of a worker take part in its step. -/
def workerStep (system : System deployment) (id : WorkerId) (event : Worker.Event) :
    Option (System deployment) :=
  match (deployment.workers id).step (system.points id) event with
  | none => none
  | some point =>
      match event, system.requests id, system.serving id with
      | .receive (.ok (some signal)), request :: rest, _ =>
          if request.signal = signal then some (system.accept id request rest point) else none
      | .receive (.ok (some _)), [], _ => none
      | .receive _, _, _ => some { system with points := Function.update system.points id point }
      | .returned result _, _, some request =>
          some { system with
            points := Function.update system.points id point
            log := .returned request result :: system.log }
      | .sendToScheduler signal result, _, some request =>
          some (system.respond id request signal result point)
      | .lingered, _, _ => some { system with points := Function.update system.points id point }
      | _, _, none => none

/-- Each event is one step of the scheduler or of one worker. -/
def step (system : System deployment) (event : Event) : Option (System deployment) :=
  match event with
  | .scheduler event =>
      if event.isLocal then
        (Scheduler.step system.execution event).map fun execution =>
          { system with execution := execution }
      else none
  | .send id signal =>
      (Scheduler.step system.execution (.sendToActivity id signal (.ok ()))).map fun execution =>
        { system with execution := execution, requests := system.enqueue id signal }
  | .receive worker signal =>
      match system.replies worker with
      | [] => none
      | reply :: rest =>
          if reply.signal = signal then
            (Scheduler.step system.execution (.receive (.ok (some signal)))).map fun execution =>
              { system with
                execution := execution
                replies := Function.update system.replies worker rest
                log := .answered reply :: system.log }
          else none
  | .broadcast signal result reached =>
      (Scheduler.step system.execution (.broadcastTerminate signal result)).map fun execution =>
        { system with
          execution := execution
          requests := fun worker =>
            if worker ∈ reached then
              system.requests worker ++ [⟨signal, system.execution.cycle⟩]
            else system.requests worker }
  | .worker id event => system.workerStep id event

/-- All channels are empty when the scheduler calls `run`. -/
def initial (deployment : Deployment) : System deployment where
  execution := deployment.scheduler.run
  points _ := .receive
  serving _ := none
  requests _ := []
  replies _ := []
  log := []

def machine (deployment : Deployment) : Machine (System deployment) Event where
  step := step

end System

end Feo
