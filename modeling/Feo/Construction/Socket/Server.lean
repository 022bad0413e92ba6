import Feo.Construction.Socket.Connection

namespace Feo

/-- The poll identifies each accepted connection by a token. -/
abbrev Token := Nat

/-- One answer of the listener is a connection with the new iteration order, or an error. -/
inductive AcceptAnswer (Stream : Type) where
  | connection (stream : Stream) (registered : Bool) (order : List Token)
  | failed (kind : IoErrorKind)

/-- A readiness event concerns the listener or a token. -/
inductive ReadyEvent (Stream : Type) where
  | listener (answers : List (AcceptAnswer Stream))
  | readable (token : Token)

/-- The first answer of the poll that is no interruption. -/
abbrev PollAnswer (Stream : Type) := Except IoErrorKind (List (ReadyEvent Stream))

/-- The accepted connections appear in the iteration order of their map. -/
structure SocketServer (Stream : Type) where
  acceptedConnections : List (Token × Connection Stream)
  numAcceptedConnections : Nat

namespace SocketServer

variable {Stream : Type} [Read Stream]

/-- A new server has no connection. -/
def withListener : SocketServer Stream := ⟨[], 0⟩

/-- The insertion into a hash map may change the iteration order. -/
def rearrange (order : List Token) (connections : List (Token × Connection Stream)) :
    List (Token × Connection Stream) :=
  if order.Perm (connections.map Prod.fst) then
    order.filterMap fun token => connections.find? fun entry => entry.1 == token
  else connections

/-- Accept connections on the listener. -/
def acceptConnections (server : SocketServer Stream) :
    List (AcceptAnswer Stream) → Panicking (SocketServer Stream)
  | [] => .ok server
  | .connection stream registered order :: answers =>
      let token := server.numAcceptedConnections + 1
      if registered then
        acceptConnections
          { acceptedConnections :=
              rearrange order ((token, Connection.new stream) :: server.acceptedConnections)
            numAcceptedConnections := token } answers
      else .error "called `Result::unwrap()` on an `Err` value"
  | .failed .wouldBlock :: _ => .ok server
  | .failed _ :: _ => .error "failed to accept connection"

/-- The readiness of an unknown token changes nothing. -/
def setStreamReadable (server : SocketServer Stream) (token : Token) : SocketServer Stream :=
  { server with
    acceptedConnections := server.acceptedConnections.map fun entry =>
      if entry.1 = token then (entry.1, entry.2.setStreamReadable) else entry }

def handleEvents (server : SocketServer Stream) :
    List (ReadyEvent Stream) → Panicking (SocketServer Stream)
  | [] => .ok server
  | .listener answers :: events => do
      let accepted ← server.acceptConnections answers
      accepted.handleEvents events
  | .readable token :: events => (server.setStreamReadable token).handleEvents events

/-- Only the readable connections are read, and the first message or error ends the iteration. -/
def receiveOnReadable : List (Token × Connection Stream) →
    Panicking (Except IoErrorKind (Option (Token × ProtocolSignal)) ×
      List (Token × Connection Stream))
  | [] => .ok (.ok none, [])
  | (token, connection) :: rest =>
      if connection.isReadable then do
        match ← connection.read with
        | (.ok (some message), next) => return (.ok (some (token, message)), (token, next) :: rest)
        | (.ok none, next) =>
            let (result, others) ← receiveOnReadable rest
            return (result, (token, next) :: others)
        | (.error kind, next) => return (.error kind, (token, next) :: rest)
      else do
        let (result, others) ← receiveOnReadable rest
        return (result, (token, connection) :: others)

/-- Try to receive a message. -/
def receiveOnReadableConnections (server : SocketServer Stream) :
    Panicking (Except IoErrorKind (Option (Token × ProtocolSignal)) × SocketServer Stream) := do
  let (result, connections) ← receiveOnReadable server.acceptedConnections
  return (result, { server with acceptedConnections := connections })

/-- Any error becomes the input and output error of the connector. -/
def toError (kind : IoErrorKind) : Error := .io kind "failed"

/-- Try to receive a message or accept connections. -/
def receive (server : SocketServer Stream) (poll : PollAnswer Stream) :
    Panicking (Except Error (Option (Token × ProtocolSignal)) × SocketServer Stream) := do
  match ← server.receiveOnReadableConnections with
  | (.error kind, next) => return (.error (toError kind), next)
  | (.ok (some result), next) => return (.ok (some result), next)
  | (.ok none, next) =>
      match poll with
      | .error _ => .error "poll failed"
      | .ok events =>
          let ready ← next.handleEvents events
          let (result, final) ← ready.receiveOnReadableConnections
          return (result.mapError toError, final)

/-- The owner of the server calls `receive` once for each answer of the poll. -/
def receives (server : SocketServer Stream) : List (PollAnswer Stream) →
    Panicking (List (Except Error (Option (Token × ProtocolSignal))) × SocketServer Stream)
  | [] => .ok ([], server)
  | poll :: polls => do
      let (result, next) ← server.receive poll
      let (results, final) ← next.receives polls
      return (result :: results, final)

end SocketServer

end Feo
