import Feo.Construction.Tracing.Record

namespace Feo.Tracing

open Foundation
open Data (Thread RecordEventInfo RecordData TraceRecord)

namespace Idl

/-- The types of track events. -/
inductive EventType where
  | sliceBegin
  | sliceEnd
  | instant
deriving DecidableEq

structure DebugAnnotation where
  nameField : Option (List Char)
  value : Option (List Char)

structure TrackEvent where
  type : Option EventType
  trackUuid : Option UInt64
  nameField : Option (List Char)
  debugAnnotations : List DebugAnnotation

structure ProcessDescriptor where
  pid : Option Int32
  processName : Option (List Char)

structure ThreadDescriptor where
  pid : Option Int32
  tid : Option Int32

structure TrackDescriptor where
  uuid : Option UInt64
  name : Option (List Char)
  process : Option ProcessDescriptor
  thread : Option ThreadDescriptor

inductive Data where
  | trackEvent (event : TrackEvent)
  | trackDescriptor (descriptor : TrackDescriptor)

structure TracePacket where
  data : Data
  timestamp : Option UInt64
  trustedPid : Option Int32
  trustedPacketSequenceId : Option UInt32

end Idl

def createProcessDescriptor (tgid : UInt32) (name : Option (List Char)) :
    Idl.ProcessDescriptor := ⟨some tgid.toInt32, name⟩

def createThreadDescriptor (tgid tid : UInt32) : Idl.ThreadDescriptor :=
  ⟨some tgid.toInt32, some tid.toInt32⟩

def createTrackDescriptor (uuid : Option UInt64) (name : Option (List Char))
    (process : Option Idl.ProcessDescriptor) (thread : Option Idl.ThreadDescriptor) :
    Idl.TrackDescriptor := ⟨uuid, name, process, thread⟩

def createEvent (trackUuid : UInt64) (name : Option (List Char))
    (debugAnnotations : Option (List Idl.DebugAnnotation)) (type : Option Idl.EventType) :
    Idl.TrackEvent := ⟨type, some trackUuid, name, debugAnnotations.getD []⟩

def debugAnnotation (name : Option (List Char)) (value : List Char) : Idl.DebugAnnotation :=
  ⟨name, some value⟩

/-- A span has the process and the thread that created it and its trace so far. -/
structure Span where
  pid : UInt32
  thread : Thread
  trace : List Idl.TracePacket
  name : List Char
  info : RecordEventInfo

instance : Inhabited Span := ⟨⟨0, ⟨0, none⟩, [], [], RecordEventInfo.default⟩⟩

/-- The packet goes to the end of the trace. -/
def Span.push (packet : Idl.TracePacket) (span : Span) : Span :=
  { span with trace := span.trace ++ [packet] }

/-- The writer has the packets of all traces that were appended. -/
structure Perfetto where
  written : List Idl.TracePacket
  spans : HashMap (UInt32 × UInt64) Span
  trackUuid : UInt64
  sequenceId : UInt32

namespace Perfetto

/-- The track and the sequence have random numbers. -/
def new (trackUuid : UInt64) (sequenceId : UInt32) : Perfetto :=
  ⟨[], HashMap.empty, trackUuid, sequenceId⟩

def processDescriptor (perfetto : Perfetto) (id : UInt32) (name : Option (List Char)) :
    Idl.TracePacket :=
  ⟨.trackDescriptor (createTrackDescriptor (some perfetto.trackUuid) name
    (some (createProcessDescriptor id name)) none), none, none, none⟩

def threadDescriptor (tgid tid : UInt32) (name : Option (List Char)) : Idl.TracePacket :=
  ⟨.trackDescriptor (createTrackDescriptor (some tid.toUInt64) name none
    (some (createThreadDescriptor tgid tid))), none, none, none⟩

/-- The packet of an event of some process. -/
def eventPacket (perfetto : Perfetto) (pid : UInt32) (timestamp : UInt64)
    (event : Idl.TrackEvent) : Idl.TracePacket :=
  ⟨.trackEvent event, some timestamp, some pid.toInt32, some perfetto.sequenceId⟩

/-- Append a trace to the writer, which accepts it or fails. -/
def append (perfetto : Perfetto) (accepts : Bool) (trace : List Idl.TracePacket) :
    Except String Perfetto :=
  if accepts then .ok { perfetto with written := perfetto.written ++ trace }
  else .error "failed to write"

/-- Remove all spans that belong to the process. -/
def exit (perfetto : Perfetto) (pid : UInt32) : Perfetto :=
  { perfetto with spans := perfetto.spans.retain fun _ span => decide (span.pid ≠ pid) }

/-- The trace of a new span starts with the process and the thread. -/
def newSpan (perfetto : Perfetto) (process : Data.Process) (thread : Option Thread) (id : UInt64)
    (name : List Char) (info : RecordEventInfo) : Panicking Perfetto :=
  if perfetto.spans.containsKey (process.id, id) then
    .error "assertion failed: !self.spans.contains_key(&key)"
  else
    match thread with
    | none => .error "missing thread info in new span"
    | some thread =>
        .ok { perfetto with
          spans := perfetto.spans.insert (process.id, id)
            ⟨process.id, thread, [perfetto.processDescriptor process.id process.name,
              threadDescriptor process.id thread.id thread.name], name, info⟩ }

/-- An unknown span is not entered. -/
def enterSpan (perfetto : Perfetto) (pid : UInt32) (timestamp : UInt64) (id : UInt64) :
    Perfetto :=
  match perfetto.spans.get? (pid, id) with
  | none => perfetto
  | some span =>
      let event := createEvent span.thread.id.toUInt64 (some span.name)
        (some [ debugAnnotation span.info.name span.info.value]) (some .sliceBegin)
      { perfetto with
        spans := perfetto.spans.modify (pid, id)
          (Span.push (perfetto.eventPacket pid timestamp event)) }

/-- The trace of an exited span is flushed. -/
def exitSpan (perfetto : Perfetto) (accepts : Bool) (pid : UInt32) (timestamp : UInt64)
    (id : UInt64) : Except String Perfetto :=
  match perfetto.spans.get? (pid, id) with
  | none => .ok perfetto
  | some span =>
      let event := createEvent span.thread.id.toUInt64 (some span.name) none (some .sliceEnd)
      { perfetto with spans := perfetto.spans.remove (pid, id) }.append accepts
        (span.push (perfetto.eventPacket pid timestamp event)).trace

/-- The event goes to its span, or it is written alone. -/
def event (perfetto : Perfetto) (accepts : Bool) (process : Data.Process)
    (thread : Option Thread) (timestamp : UInt64) (parentSpan : Option UInt64) (name : List Char)
    (info : RecordEventInfo) : Except String Perfetto :=
  match thread with
  | none => .error "missing thread info in exit span"
  | some thread =>
      let trackEvent := createEvent thread.id.toUInt64 (some name)
        (some [ debugAnnotation info.name info.value]) (some .instant)
      let packet := perfetto.eventPacket process.id timestamp trackEvent
      match parentSpan.filter fun id => perfetto.spans.containsKey (process.id, id) with
      | some id =>
          .ok { perfetto with
            spans := perfetto.spans.modify (process.id, id) (Span.push packet) }
      | none =>
          perfetto.append accepts [perfetto.processDescriptor process.id process.name,
            threadDescriptor process.id thread.id thread.name, packet]

/-- A record is an event without a name. -/
def asEvent : RecordData → RecordData
  | .record span => .event (some span) [] RecordEventInfo.default
  | data => data

/-- Each kind of data has its own arm. -/
def onData (perfetto : Perfetto) (accepts : Bool) (process : Data.Process)
    (thread : Option Thread) (timestampNanos : UInt64) :
    RecordData → Panicking (Except String Perfetto)
  | .exec => .ok (.ok perfetto)
  | .exit => .ok (.ok (perfetto.exit process.id))
  | .newSpan id name info => Except.ok <$> perfetto.newSpan process thread id name info
  | .enterSpan id => .ok (.ok (perfetto.enterSpan process.id timestampNanos id))
  | .exitSpan id => .ok (perfetto.exitSpan accepts process.id timestampNanos id)
  | .record _ => .error "internal error: entered unreachable code"
  | .event parentSpan name info =>
      .ok (perfetto.event accepts process thread timestampNanos parentSpan name info)

/-- The writer panics, fails, or goes on after the record. -/
def onPacket (perfetto : Perfetto) (accepts : Bool) (message : TraceRecord) :
    Panicking (Except String Perfetto) :=
  match message.timestamp.durationSince Reading.unixEpoch with
  | none => .ok (.error "second time provided was later than self")
  | some duration =>
      perfetto.onData accepts message.process message.thread (UInt64.ofNat duration.asNanos)
        (asEvent message.data)

end Perfetto

end Feo.Tracing
