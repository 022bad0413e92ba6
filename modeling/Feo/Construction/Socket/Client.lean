import Feo.Construction.Socket.Send
import Feo.Construction.Socket.Server

namespace Feo

/-- The client has one connection to the server. -/
structure SocketClient (Stream : Type) where
  connection : Connection Stream

namespace SocketClient

/-- The signals are sent in order until one of them fails. -/
def sendAll (connection : Connection ByteSink) :
    List (ProtocolSignal × SendAnswers) → Except IoErrorKind Unit × Connection ByteSink
  | [] => (.ok (), connection)
  | (signal, answers) :: requests =>
      match connection.send signal answers with
      | (.ok (), next) => sendAll next requests
      | (.error kind, next) => (.error kind, next)

/-- Connect to the scheduler, announcing ourselves, where each announcement must succeed. -/
def connect (connectSignals : List (ProtocolSignal × SendAnswers)) :
    Panicking (SocketClient ByteSink) :=
  match sendAll (Connection.new ⟨[]⟩) connectSignals with
  | (.ok (), connection) => .ok ⟨connection⟩
  | (.error _, _) => .error "called `Result::unwrap()` on an `Err` value"

/-- Send a signal to the scheduler. -/
def send (client : SocketClient ByteSink) (signal : ProtocolSignal) (answers : SendAnswers) :
    Except Error Unit × SocketClient ByteSink :=
  match client.connection.send signal answers with
  | (.ok (), next) => (.ok (), ⟨next⟩)
  | (.error kind, next) => (.error (.io kind "failed to send on connection"), ⟨next⟩)

variable {Stream : Type} [Read Stream]

/-- The connection is read while it might be readable. -/
def readIfReadable (connection : Connection Stream) :
    Panicking (Except IoErrorKind (Option ProtocolSignal) × Connection Stream) :=
  if connection.isReadable then connection.read else .ok (.ok none, connection)

/-- Try to receive a signal from the connection before and after the poll. -/
def receive (client : SocketClient Stream) (poll : Except IoErrorKind Bool) :
    Panicking (Except Error (Option ProtocolSignal) × SocketClient Stream) := do
  match ← readIfReadable client.connection with
  | (.ok (some signal), next) => return (.ok (some signal), ⟨next⟩)
  | (.error kind, next) => return (.error (SocketServer.toError kind), ⟨next⟩)
  | (.ok none, next) =>
      match poll with
      | .error _ => .error "called `Result::unwrap()` on an `Err` value"
      | .ok event =>
          let (result, final) ←
            readIfReadable (if event then next.setStreamReadable else next)
          return (result.mapError SocketServer.toError, ⟨final⟩)

end SocketClient

namespace Direct.WorkerConnector

/-- The hello of each activity announces the worker. -/
def connectSignals (activityIds : List (ActivityId × SendAnswers)) :
    List (ProtocolSignal × SendAnswers) :=
  activityIds.map fun request => (.activityHello request.1, request.2)

def connectRemote (activityIds : List (ActivityId × SendAnswers)) :
    Panicking (SocketClient ByteSink) :=
  SocketClient.connect (connectSignals activityIds)

/-- Only a core signal is expected from the scheduler. -/
def receive {Stream : Type} [Read Stream] (client : SocketClient Stream)
    (poll : Except IoErrorKind Bool) :
    Panicking (Except Error (Option Signal) × SocketClient Stream) := do
  match ← client.receive poll with
  | (.ok (some (.core signal)), next) => return (.ok (some signal), next)
  | (.ok (some _), next) => return (.error .unexpectedProtocolSignal, next)
  | (.ok none, next) => return (.ok none, next)
  | (.error error, next) => return (.error error, next)

/-- The worker calls `receive` once for each answer of the poll. -/
def receives {Stream : Type} [Read Stream] (client : SocketClient Stream) :
    List (Except IoErrorKind Bool) →
      Panicking (List (Except Error (Option Signal)) × SocketClient Stream)
  | [] => .ok ([], client)
  | poll :: polls => do
      let (result, next) ← receive client poll
      let (results, final) ← receives next polls
      return (result :: results, final)

/-- Signals to the scheduler are core signals. -/
def sendToScheduler (client : SocketClient ByteSink) (signal : Signal) (answers : SendAnswers) :
    Except Error Unit × SocketClient ByteSink :=
  client.send (.core signal) answers

/-- A worker ends with the first signal that it cannot send. -/
def sendUntilError (client : SocketClient ByteSink) :
    List (Signal × SendAnswers) → Except Error Unit × SocketClient ByteSink
  | [] => (.ok (), client)
  | (signal, answers) :: requests =>
      match sendToScheduler client signal answers with
      | (.ok (), next) => sendUntilError next requests
      | (.error error, next) => (.error error, next)

end Direct.WorkerConnector

end Feo
