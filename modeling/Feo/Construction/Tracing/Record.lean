import Feo.Construction.Tracing.Protocol
import Feo.Foundation.HashMap

namespace Feo.Tracing.Data

open Foundation

/-- A process identifier. -/
structure Process where
  id : UInt32
  name : Option (List Char)

/-- A thread identifier. -/
structure Thread where
  id : UInt32
  name : Option (List Char)

structure RecordEventInfo where
  name : Option (List Char)
  value : List Char

def RecordEventInfo.default : RecordEventInfo := ⟨none, []⟩

inductive RecordData where
  /-- Process spawned (connected). -/
  | exec
  /-- Process exited (disconnected). -/
  | exit
  /-- New span created. -/
  | newSpan (id : UInt64) (name : List Char) (info : RecordEventInfo)
  /-- Record added to span. -/
  | record (span : UInt64)
  /-- Event emitted. -/
  | event (parentSpan : Option UInt64) (name : List Char) (info : RecordEventInfo)
  /-- Span entered. -/
  | enterSpan (id : UInt64)
  /-- Span exited. -/
  | exitSpan (id : UInt64)

/-- A trace record to be stored in the trace output. -/
structure TraceRecord where
  timestamp : SystemTime
  process : Process
  thread : Option Thread
  data : RecordData

/-- The text in the first bytes of an array. -/
def lossyText (bytes : Bytes maxInfoSize) (len : UInt64) : Panicking (List Char) :=
  fromUtf8Lossy <$> sliceTo bytes.bytes len.toNat

namespace RecordEventInfo

def nameOf (info : EventInfo) : Panicking (Option (List Char)) :=
  match info.nameLen with
  | none => .ok none
  | some len => some <$> lossyText info.name len

def fromEventInfo (info : EventInfo) : Panicking RecordEventInfo := do
  let name ← nameOf info
  let value ← lossyText info.value info.valueLen
  return ⟨name, value⟩

end RecordEventInfo

/-- The info is converted before the name. -/
def RecordData.fromTraceData : TraceData → Panicking RecordData
  | .newSpan id name nameLen info => do
      let recordInfo ← RecordEventInfo.fromEventInfo info
      let text ← lossyText name nameLen
      return .newSpan id text recordInfo
  | .record span => .ok (.record span)
  | .event parentSpan name nameLen info => do
      let recordInfo ← RecordEventInfo.fromEventInfo info
      let text ← lossyText name nameLen
      return .event parentSpan text recordInfo
  | .enter span => .ok (.enterSpan span)
  | .exit span => .ok (.exitSpan span)

/-- The cache has the names of the threads of one process. -/
structure ThreadNameCache where
  pid : UInt32
  names : HashMap UInt32 (Option (List Char))

/-- Get the name of a thread or take the answer of the kernel if not cached. -/
def ThreadNameCache.get (cache : ThreadNameCache) (tid : UInt32) (answer : Option (List Char)) :
    Option (List Char) × ThreadNameCache :=
  match cache.names.get? tid with
  | some name => (name, cache)
  | none => (answer, { cache with names := cache.names.insert tid answer })

/-- Decode a trace packet. -/
def decodePacket (pid : UInt32) (packet : TracePacket) (threadCache : ThreadNameCache)
    (answer processName : Option (List Char)) :
    Panicking (Except String (TraceRecord × ThreadNameCache)) := do
  let timestamp ← Reading.unixEpoch.add (Duration.fromNanos packet.timestamp)
  let data ← RecordData.fromTraceData packet.data
  let process : Process := ⟨pid, processName⟩
  match packet.process with
  | none => return .ok (⟨timestamp, process, none, data⟩, threadCache)
  | some given =>
      let (name, cache) := threadCache.get given.tid answer
      return .ok (⟨timestamp, process, some ⟨given.tid, name⟩, data⟩, cache)

end Feo.Tracing.Data
