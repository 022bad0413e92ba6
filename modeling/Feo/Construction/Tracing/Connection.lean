import Feo.Construction.Tracing.Record

namespace Feo.Tracing

open Foundation
open Data (ThreadNameCache TraceRecord decodePacket)

/-- Size of the buffer for deserializing incoming trace packets. -/
def readBufferSize : Nat := 32 * maxPacketSize

/-- The accumulator takes a part of the bytes that it is fed and returns the others. -/
inductive FeedResult where
  | consumed
  | overFull (remaining : List UInt8)
  | deserError (remaining : List UInt8)
  | success (data : TracePacket) (remaining : List UInt8)

/-- The loop goes on with the bytes behind a complete frame. -/
def FeedResult.remaining : FeedResult → List UInt8
  | .consumed => []
  | .overFull _ => []
  | .deserError remaining => remaining
  | .success _ remaining => remaining

/-- A complete frame gives a packet or an error. -/
def FeedResult.ofFrame (remaining : List UInt8) : Option TracePacket → FeedResult
  | some data => .success data remaining
  | none => .deserError remaining

theorem FeedResult.remaining_ofFrame (remaining : List UInt8) (decoded : Option TracePacket) :
    (FeedResult.ofFrame remaining decoded).remaining = remaining := by
  cases decoded <;> rfl

/-- The accumulator of the serialization library takes the bytes of a complete frame. -/
structure CobsAccumulator where
  Buffer : Type
  new : Buffer
  feedRef : Buffer → List UInt8 → FeedResult × Buffer
  takes : ∀ buffer input, input ≠ [] →
    (feedRef buffer input).1.remaining.length < input.length

/-- The bytes without a zero are held, and a zero completes the frame of a packet, as long as the
buffer has room. -/
structure CobsAccumulator.Documented (accumulator : CobsAccumulator)
    (held : accumulator.Buffer → List UInt8) (fromBytesCobs : List UInt8 → Option TracePacket) :
    Prop where
  new : held accumulator.new = []
  pending : ∀ buffer input, input ≠ [] → 0 ∉ input →
    (held buffer).length + input.length ≤ readBufferSize →
      ∃ next, accumulator.feedRef buffer input = (.consumed, next) ∧
        held next = held buffer ++ input
  complete : ∀ buffer chunk rest, 0 ∉ chunk →
    (held buffer).length + (chunk.length + 1) ≤ readBufferSize →
      ∃ next, accumulator.feedRef buffer (chunk ++ 0 :: rest) =
          (.ofFrame rest (fromBytesCobs (held buffer ++ chunk ++ [0])), next) ∧
        held next = []

/-- The peer of a connection has a process name and names for its threads. -/
structure Peer where
  pid : UInt32
  name : Option (List Char)
  comm : Nat → UInt32 → Option (List Char)

/-- The loop of a connection goes on, ends, or panics. -/
inductive Flow where
  | goOn
  | ended
  | panicked (message : String)

/-- The task of a connection has sent its records to the sink. -/
structure Connection (accumulator : CobsAccumulator) where
  cobsBuffer : accumulator.Buffer
  threadNameCache : ThreadNameCache
  sent : List TraceRecord

/-- The answers of the socket, where an end of file is a closed connection. -/
inductive ReadAnswer where
  | data (bytes : List UInt8)
  | closed
  | wouldBlock
  | failed

namespace Connection

variable {accumulator : CobsAccumulator}

/-- A packet is decoded, and its record is sent to the sink. -/
def process (peer : Peer) (connection : Connection accumulator) (packet : TracePacket) :
    Panicking (Except String (Connection accumulator)) := do
  let answer := packet.process.bind fun given => peer.comm connection.sent.length given.tid
  match ← decodePacket peer.pid packet connection.threadNameCache answer peer.name with
  | .error error => return .error error
  | .ok (record, threadNameCache) =>
      return .ok { connection with
        threadNameCache := threadNameCache
        sent := connection.sent ++ [record] }

/-- The inner loop feeds the accumulator until nothing remains of the read bytes. -/
def feed (peer : Peer) (connection : Connection accumulator) (remaining : List UInt8) :
    Connection accumulator × Flow :=
  if _empty : remaining = [] then (connection, .goOn)
  else
    match _fed : accumulator.feedRef connection.cobsBuffer remaining with
    | (.consumed, buffer) => ({ connection with cobsBuffer := buffer }, .goOn)
    | (.overFull _, buffer) => ({ connection with cobsBuffer := buffer }, .ended)
    | (.deserError rest, buffer) => feed peer { connection with cobsBuffer := buffer } rest
    | (.success packet rest, buffer) =>
        match process peer { connection with cobsBuffer := buffer } packet with
        | .error message => ({ connection with cobsBuffer := buffer }, .panicked message)
        | .ok (.error _) => ({ connection with cobsBuffer := buffer }, .ended)
        | .ok (.ok next) => feed peer next rest
termination_by remaining.length
decreasing_by
  all_goals
    have fewer := accumulator.takes connection.cobsBuffer remaining _empty
    rw [_fed] at fewer
    exact fewer

/-- The outer loop reads from the socket until the connection ends. -/
def readLoop (peer : Peer) (connection : Connection accumulator) :
    List ReadAnswer → Connection accumulator × Flow
  | [] => (connection, .goOn)
  | .closed :: _ => (connection, .ended)
  | .failed :: _ => (connection, .ended)
  | .wouldBlock :: answers => readLoop peer connection answers
  | .data bytes :: answers =>
      match connection.feed peer bytes with
      | (next, .goOn) => readLoop peer next answers
      | stopped => stopped

/-- The task sends a record for the start of the process before it reads. -/
def start (accumulator : CobsAccumulator) (peer : Peer) (now : SystemTime) :
    Connection accumulator where
  cobsBuffer := accumulator.new
  threadNameCache := ⟨peer.pid, HashMap.empty⟩
  sent := [⟨now, ⟨peer.pid, peer.name⟩, none, .exec⟩]

end Connection

/-- The task sends a record for the end of the process when its loop ends. -/
def connection (accumulator : CobsAccumulator) (peer : Peer) (started ended : SystemTime)
    (answers : List ReadAnswer) : List TraceRecord × Flow :=
  match (Connection.start accumulator peer started).readLoop peer answers with
  | (final, .ended) => (final.sent ++ [⟨ended, ⟨peer.pid, none⟩, none, .exit⟩], .ended)
  | (final, flow) => (final.sent, flow)

end Feo.Tracing
