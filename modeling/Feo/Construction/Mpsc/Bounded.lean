import Feo.Construction.Mpsc.Endpoint
import Feo.Construction.System

namespace Feo.Mpsc

open Foundation

/-- A channel stores at most this number of signals. -/
def mpscChannelBound : Nat := 128

/-- A send into a full channel blocks. -/
def push {Item : Type} (channel : List Item) (item : Item) : Option (List Item) :=
  if channel.length < mpscChannelBound then some (channel ++ [item]) else none

/-- Both connectors refuse a connect signal after the connection phase. -/
def ProtocolSignal.received : ProtocolSignal → Except Error (Option Signal)
  | .core signal => .ok (some signal)
  | .connect _ => .error .unexpectedProtocolSignal

/-- The thread of a worker sends a connect signal and awaits one before it calls `run`. -/
inductive Thread where
  | connectReceiver
  | connectSender
  | running (point : Worker.Point)
deriving DecidableEq

/-- All workers send into the one queue of the scheduler. -/
structure Bounded (deployment : Deployment) where
  execution : Scheduler.Execution deployment.scheduler
  unreached : List WorkerId
  threads : WorkerId → Thread
  requests : WorkerId → List ProtocolSignal
  inbox : List (WorkerId × ProtocolSignal)
  unanswered : List WorkerId

namespace Bounded

variable {deployment : Deployment}

/-- The broadcast of `Terminate` sends into one queue after the other. -/
inductive Event where
  | scheduler (event : Scheduler.Event)
  | send (id : ActivityId) (signal : Signal)
  | receive
  | terminate (worker : WorkerId) (signal : Signal)
  | broadcast (signal : Signal) (result : Except Error Unit)
  | connect (worker : WorkerId)
  | worker (id : WorkerId) (event : Worker.Event)

/-- A completed send stays unanswered until the scheduler receives from that worker. -/
def request (bounded : Bounded deployment) (worker : WorkerId) (queue : List ProtocolSignal) :
    Bounded deployment :=
  { bounded with
    requests := Function.update bounded.requests worker queue
    unanswered := bounded.unanswered ++ [worker] }

/-- The connect signal of a late worker also stays unanswered until it is received. -/
def connectStep (bounded : Bounded deployment) (worker : WorkerId) : Option (Bounded deployment) :=
  match bounded.threads worker, bounded.requests worker with
  | .connectReceiver, _ =>
      (push bounded.inbox (worker, .connect (.worker worker))).map fun inbox =>
        { bounded with
          threads := Function.update bounded.threads worker .connectSender
          inbox := inbox
          unanswered := bounded.unanswered ++ [worker] }
  | .connectSender, .connect _ :: rest =>
      some { bounded with
        threads := Function.update bounded.threads worker (.running .receive)
        requests := Function.update bounded.requests worker rest }
  | .connectSender, .core _ :: rest =>
      some { bounded with requests := Function.update bounded.requests worker rest }
  | _, _ => none

/-- A worker takes from its own queue and sends into the queue of the scheduler. -/
def workerStep (bounded : Bounded deployment) (id : WorkerId) (event : Worker.Event)
    (point : Worker.Point) : Option (Bounded deployment) :=
  let moved : Bounded deployment :=
    { bounded with threads := Function.update bounded.threads id (.running point) }
  match event, bounded.requests id with
  | .receive (.ok (some signal)), .core sent :: rest =>
      if sent = signal then
        some { moved with requests := Function.update bounded.requests id rest }
      else none
  | .receive (.ok (some _)), _ => none
  | .sendToScheduler signal (.ok _), _ =>
      (push bounded.inbox (id, .core signal)).map fun inbox => { moved with inbox := inbox }
  | _, _ => some moved

/-- The scheduler and the workers take their steps in any order. -/
def step (bounded : Bounded deployment) (event : Event) : Option (Bounded deployment) :=
  match event with
  | .scheduler event =>
      if event.isLocal then
        (Scheduler.step bounded.execution event).map fun execution =>
          { bounded with execution := execution }
      else none
  | .send id signal =>
      (push (bounded.requests (deployment.route id)) (.core signal)).bind fun queue =>
        (Scheduler.step bounded.execution (.sendToActivity id signal (.ok ()))).map
          fun execution =>
            { bounded.request (deployment.route id) queue with execution := execution }
  | .receive =>
      match bounded.inbox with
      | [] => none
      | (worker, signal) :: rest =>
          (Scheduler.step bounded.execution (.receive signal.received)).map fun execution =>
            { bounded with
              execution := execution
              inbox := rest
              unanswered := bounded.unanswered.erase worker }
  | .terminate worker signal =>
      match bounded.execution.point, signal with
      | .broadcastTerminate _, .terminate _ =>
          if worker ∈ bounded.unreached then
            (push (bounded.requests worker) (.core signal)).map fun queue =>
              { bounded.request worker queue with
                unreached := bounded.unreached.erase worker }
          else none
      | _, _ => none
  | .broadcast signal result =>
      if result = .ok () ∧ bounded.unreached ≠ [] then none
      else
        (Scheduler.step bounded.execution (.broadcastTerminate signal result)).map
          fun execution => { bounded with execution := execution }
  | .connect worker => bounded.connectStep worker
  | .worker id event =>
      match bounded.threads id with
      | .running point =>
          ((deployment.workers id).step point event).bind fun next =>
            bounded.workerStep id event next
      | _ => none

/-- When `connect_remotes` returned, the connect signals of the late workers are still missing. -/
def initial (deployment : Deployment) (late : List WorkerId) : Bounded deployment where
  execution := deployment.scheduler.run
  unreached := (deployment.scheduler.activityDepends.keys.map deployment.route).dedup
  threads worker := if worker ∈ late then .connectReceiver else .connectSender
  requests worker := [.connect (.worker worker)]
  inbox := []
  unanswered := []

def machine (deployment : Deployment) : Machine (Bounded deployment) Event where
  step := step

end Bounded

end Feo.Mpsc
