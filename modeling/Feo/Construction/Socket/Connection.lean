import Feo.Construction.Socket.Codec

namespace Feo

open Foundation

/-- Size of the buffer within a connection. -/
def bufferSize : Nat := 128

/-- A read fills a part of the offered space or fails. -/
inductive ReadAnswer (space : Nat) where
  | data (bytes : List UInt8) (fits : bytes.length ≤ space)
  | failed (kind : IoErrorKind)

/-- A stream answers one read into a slice of the given size. -/
class Read (Stream : Type) where
  read : Stream → (space : Nat) → ReadAnswer space × Stream

/-- Wrapper around a stream to facilitate reading messages. -/
structure Connection (Stream : Type) where
  stream : Stream
  recvBuffer : {bytes : List UInt8 // bytes.length = bufferSize}
  recvBegin : Nat
  recvEnd : Nat
  streamReadable : Bool
  bufferReadable : Bool

namespace Connection

variable {Stream M : Type} [Read Stream] [EncodeDecode M]

def new (stream : Stream) : Connection Stream where
  stream := stream
  recvBuffer := ⟨List.replicate bufferSize 0, List.length_replicate⟩
  recvBegin := 0
  recvEnd := 0
  streamReadable := false
  bufferReadable := false

/-- The poll reported a readable event for the stream. -/
def setStreamReadable (connection : Connection Stream) : Connection Stream :=
  { connection with streamReadable := true }

def isReadable (connection : Connection Stream) : Bool :=
  connection.streamReadable || connection.bufferReadable

/-- The bytes from one index up to another replace those of the buffer. -/
def overwrite (buffer : {bytes : List UInt8 // bytes.length = bufferSize}) (first : Nat)
    (bytes : List UInt8) (fits : first + bytes.length ≤ bufferSize) :
    {bytes : List UInt8 // bytes.length = bufferSize} :=
  ⟨buffer.val.take first ++ bytes ++ buffer.val.drop (first + bytes.length), by
    have size := buffer.property
    simp only [List.length_append, List.length_take, List.length_drop]
    omega⟩

/-- These are the received bytes that are not yet parsed. -/
def window (connection : Connection Stream) : List UInt8 :=
  (connection.recvBuffer.val.take connection.recvEnd).drop connection.recvBegin

/-- A slice of the unparsed bytes panics when the indices are out of order. -/
def slice (connection : Connection Stream) : Panicking (List UInt8) :=
  if connection.recvBegin ≤ connection.recvEnd ∧ connection.recvEnd ≤ bufferSize then
    .ok connection.window
  else
    .error "range out of bounds for slice"

/-- Copy the remaining, not yet parsed content to the beginning of the buffer. -/
def shiftBuffer (connection : Connection Stream) : Panicking (Connection Stream) := do
  let remaining ← connection.slice
  if fits : 0 + remaining.length ≤ bufferSize then
    return { connection with
      recvBuffer := overwrite connection.recvBuffer 0 remaining fits
      recvEnd := connection.recvEnd - connection.recvBegin
      recvBegin := 0 }
  else
    .error "range out of bounds for slice"

/-- Try to parse a message from the buffer. -/
def parseFromBuffer (connection : Connection Stream) :
    Panicking (Option M × Connection Stream) := do
  let source ← connection.slice
  match ← EncodeDecode.tryDecode (M := M) source with
  | some (message, consumedBytes) =>
      let consumed := { connection with recvBegin := connection.recvBegin + consumedBytes }
      if consumed.recvBegin > bufferSize / 2 then
        return (some message, ← consumed.shiftBuffer)
      else
        return (some message, consumed)
  | none => return (none, { connection with bufferReadable := false })

/-- The loop of `read_from_stream` ends after one round for each free byte of the buffer. -/
def readLoop (connection : Connection Stream) :
    Nat → Panicking (Except IoErrorKind Unit × Connection Stream)
  | 0 => .error "no round left"
  | rounds + 1 =>
      if inRange : connection.recvEnd ≤ bufferSize then
        match Read.read connection.stream (bufferSize - connection.recvEnd) with
        | (.data [] _, stream) =>
            .ok (.error .connectionReset, { connection with stream := stream })
        | (.data (byte :: rest) fits, stream) =>
            let filled : Connection Stream :=
              { connection with
                stream := stream
                recvBuffer := overwrite connection.recvBuffer connection.recvEnd (byte :: rest)
                  (by omega)
                recvEnd := connection.recvEnd + (byte :: rest).length
                bufferReadable := true }
            if filled.recvEnd = bufferSize then .ok (.ok (), filled) else filled.readLoop rounds
        | (.failed .wouldBlock, stream) =>
            .ok (.ok (), { connection with stream := stream, streamReadable := false })
        | (.failed kind, stream) => .ok (.error kind, { connection with stream := stream })
      else .error "range start index out of range for slice"

/-- Try to read from the stream. -/
def readFromStream (connection : Connection Stream) :
    Panicking (Except IoErrorKind Unit × Connection Stream) :=
  connection.readLoop (bufferSize - connection.recvEnd + 1)

/-- The buffer is parsed while it might contain a message. -/
def parseIfReadable (connection : Connection Stream) :
    Panicking (Option M × Connection Stream) :=
  if connection.bufferReadable then connection.parseFromBuffer else .ok (none, connection)

/-- The stream is read while it might be readable. -/
def readIfReadable (connection : Connection Stream) :
    Panicking (Except IoErrorKind Unit × Connection Stream) :=
  if connection.streamReadable then connection.readFromStream else .ok (.ok (), connection)

/-- Try to read from this connection. -/
def read (connection : Connection Stream) :
    Panicking (Except IoErrorKind (Option M) × Connection Stream) := do
  match ← connection.parseIfReadable (M := M) with
  | (some message, parsed) => return (.ok (some message), parsed)
  | (none, parsed) =>
      match ← parsed.readIfReadable with
      | (.error kind, failed) => return (.error kind, failed)
      | (.ok (), filled) =>
          let (message, final) ← filled.parseIfReadable (M := M)
          return (.ok message, final)

/-- A call of `read` follows the readiness event, if the poll reported one. -/
def call (connection : Connection Stream) (flag : Bool) :
    Panicking (Except IoErrorKind (Option M) × Connection Stream) :=
  (if flag then connection.setStreamReadable else connection).read

/-- The owner of a connection calls `read` once for each flag. -/
def calls (connection : Connection Stream) :
    List Bool → Panicking (List (Except IoErrorKind (Option M)) × Connection Stream)
  | [] => .ok ([], connection)
  | flag :: flags => do
      let (result, next) ← connection.call flag
      let (results, final) ← next.calls flags
      return (result :: results, final)

/-- These are the messages among the results. -/
def delivered (results : List (Except IoErrorKind (Option M))) : List M :=
  results.filterMap fun result => result.toOption.join

end Connection

/-- The next answer of a stream is a chunk of limited size or `WouldBlock`. -/
inductive Chunk where
  | upTo (limit : Nat)
  | wouldBlock
deriving DecidableEq

/-- A byte stream hands out its bytes in the scripted chunks and records how it was asked. -/
structure ByteStream where
  wire : List UInt8
  script : List Chunk
  closed : Bool
  offers : List Nat
  answered : Option Bool

namespace ByteStream

/-- The chunk has at least one byte, and without a script it fills the space. -/
def limit (stream : ByteStream) (space : Nat) : Option Nat :=
  match stream.script with
  | .wouldBlock :: _ => none
  | .upTo limit :: _ => some (limit + 1)
  | [] => some space

/-- The exhausted stream reports end of file if the peer closed it. -/
def read (stream : ByteStream) (space : Nat) : ReadAnswer space × ByteStream :=
  let asked := { stream with offers := space :: stream.offers, script := stream.script.tail }
  match stream.limit space with
  | none => (.failed .wouldBlock, { asked with answered := some false })
  | some limit =>
      if stream.wire = [] ∧ stream.closed = false then
        (.failed .wouldBlock, { asked with answered := some false })
      else
        (.data (stream.wire.take (min limit space))
            (le_trans (List.length_take_le _ _) (min_le_right _ _)),
          { asked with wire := stream.wire.drop (min limit space), answered := some true })

instance : Read ByteStream := ⟨read⟩

end ByteStream

end Feo
