import Feo.Construction.Signals

namespace Feo

/-- The worker fields that stay as `Worker::new` stores them. -/
structure Worker where
  id : WorkerId
  agentId : AgentId
  activities : List ActivityId

namespace Worker

/-- Each point of a worker names its next call into the connector, an activity, or the clock. -/
inductive Point where
  | receive
  | call (signal : Signal)
  | respond (response : Signal)
  | acknowledge
  | linger
  | exited (result : Except Error Unit)
deriving DecidableEq

/-- An event is one call with its answer, and the timestamp is read after the activity returned. -/
inductive Event where
  | receive (result : Except Error (Option Signal))
  | returned (result : Except ActivityError Unit) (timestamp : Timestamp)
  | sendToScheduler (signal : Signal) (result : Except Error Unit)
  | lingered
deriving DecidableEq

/-- A signal for a present activity leads to the call of its method. -/
def handleActivitySignal (worker : Worker) (id : ActivityId) (signal : Signal) : Point :=
  if id ∈ worker.activities then .call signal else .exited (.error (.activityNotFound id))

/-- The received signal selects the next point of the loop. -/
def handleSignal (worker : Worker) (signal : Signal) : Point :=
  match signal with
  | .startup id _ => worker.handleActivitySignal id signal
  | .step id _ => worker.handleActivitySignal id signal
  | .shutdown id _ => worker.handleActivitySignal id signal
  | .startupSync _ => .receive
  | .terminate _ => .acknowledge
  | other => .exited (.error (.unexpectedSignal other))

/-- The response reports the result of the activity's method. -/
def response (id : ActivityId) (timestamp : Timestamp) : Except ActivityError Unit → Signal
  | .ok _ => .ready id timestamp
  | .error error => .activityFailed id error

/-- A step performs the next call and the code up to the call after it. -/
def step (worker : Worker) (point : Point) (event : Event) : Option Point :=
  match point, event with
  | .receive, .receive (.ok (some signal)) => some (worker.handleSignal signal)
  | .receive, .receive (.ok none) => some .receive
  | .receive, .receive (.error .channelClosed) => some (.exited (.ok ()))
  | .receive, .receive (.error error) => some (.exited (.error error))
  | .call (.startup id _), .returned result timestamp =>
      some (.respond (response id timestamp result))
  | .call (.step id _), .returned result timestamp =>
      some (.respond (response id timestamp result))
  | .call (.shutdown id _), .returned result timestamp =>
      some (.respond (response id timestamp result))
  | .respond response, .sendToScheduler signal result =>
      if signal = response then
        match result with
        | .ok _ => some .receive
        | .error error => some (.exited (.error error))
      else none
  | .acknowledge, .sendToScheduler signal _ =>
      if signal = .terminateAck worker.agentId then some .linger else none
  | .linger, .lingered => some (.exited (.ok ()))
  | _, _ => none

end Worker

end Feo
