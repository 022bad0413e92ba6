import Feo.Construction.Socket.Connection

namespace Feo

open Foundation

/-- A stream accepts some of the offered bytes, is interrupted, or fails. -/
inductive WriteAnswer where
  | accepted (count : Nat)
  | interrupted
  | failed (kind : IoErrorKind)
deriving DecidableEq

/-- The environment answers the writes of one `send` and then its flush. -/
structure SendAnswers where
  writes : List WriteAnswer
  flush : Except IoErrorKind Unit

/-- The peer receives the bytes that the stream accepted. -/
structure ByteSink where
  wire : List UInt8

namespace ByteSink

/-- The loop of `write_all` ends with the last byte, an empty write, or an error. -/
def writeAll (sink : ByteSink) (bytes : List UInt8) :
    List WriteAnswer → Except IoErrorKind Unit × ByteSink
  | [] => (.ok (), ⟨sink.wire ++ bytes⟩)
  | answer :: answers =>
      if bytes = [] then (.ok (), sink) else
        match answer with
        | .accepted 0 => (.error .other, sink)
        | .accepted count =>
            (⟨sink.wire ++ bytes.take count⟩ : ByteSink).writeAll (bytes.drop count) answers
        | .interrupted => sink.writeAll bytes answers
        | .failed kind => (.error kind, sink)

end ByteSink

namespace Connection

variable {M : Type} [EncodeDecode M]

/-- Send a message through the stream. -/
def send (connection : Connection ByteSink) (message : M) (answers : SendAnswers) :
    Except IoErrorKind Unit × Connection ByteSink :=
  let frame := EncodeDecode.encode message
  if frame.length ≤ bufferSize then
    match connection.stream.writeAll frame answers.writes with
    | (.error kind, stream) => (.error kind, { connection with stream := stream })
    | (.ok (), stream) => (answers.flush, { connection with stream := stream })
  else (.error .other, connection)

/-- The owner of the connection goes on after each result. -/
def sends (connection : Connection ByteSink) : List (M × SendAnswers) → Connection ByteSink
  | [] => connection
  | (message, answers) :: rest => (connection.send message answers).2.sends rest

end Connection

end Feo
