import Feo.Construction.Connector.Direct
import Feo.Construction.Scheduler
import Feo.Construction.Timestamp

namespace Feo

open Direct (SchedulerConnector)

/-- A call of `receive` polls once between two readings of the clock. -/
structure ReceiveCall (Stream : Type) where
  poll : PollAnswer Stream
  begun : Instant
  ended : Instant

def ReceiveCall.elapsed {Stream : Type} (call : ReceiveCall Stream) : Duration :=
  call.ended.saturatingDurationSince call.begun

/-- The loop of `wait_next_ready` returns with its last call, or it still waits. -/
def Scheduler.waitNextReadyOn {Stream : Type} [Read Stream] (scheduler : Scheduler)
    (server : SocketServer Stream) :
    List (ReceiveCall Stream) → Panicking (Option (Except Error ActivityId × ReceiveCall Stream))
  | [] => .ok none
  | call :: calls => do
      let (result, next) ← SchedulerConnector.receive server call.poll
      match scheduler.waitNextReady result with
      | .again => scheduler.waitNextReadyOn next calls
      | .ready id => return some (.ok id, call)
      | .failed error => return some (.error error, call)

namespace ProtocolMultiEndpoint

/-- The loop of `receive` calls the server again until the timeout has elapsed. -/
def receiveLoop {Stream : Type} [Read Stream] (timeout : Duration) (server : SocketServer Stream)
    (elapsed : Duration) : List (PollAnswer Stream × Duration) →
      Panicking (Option (Except Error (Option ProtocolSignal) × Duration))
  | [] => if elapsed.gt timeout then .ok (some (.ok none, elapsed)) else .ok none
  | (poll, later) :: rounds =>
      if elapsed.gt timeout then .ok (some (.ok none, elapsed)) else do
        match ← server.receive poll with
        | (.ok (some (_, signal)), _) => return some (.ok (some signal), later)
        | (.ok none, next) => receiveLoop timeout next later rounds
        | (.error error, _) => return some (.error error, later)

/-- Each round polls the server and then reads the time since the beginning of the call. -/
def receive {Stream : Type} [Read Stream] (timeout : Duration) (server : SocketServer Stream)
    (rounds : List (PollAnswer Stream × Duration)) :
    Panicking (Option (Except Error (Option ProtocolSignal) × Duration)) :=
  receiveLoop timeout server Duration.zero rounds

end ProtocolMultiEndpoint

end Feo
