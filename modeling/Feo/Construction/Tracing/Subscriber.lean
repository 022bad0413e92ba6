import Feo.Construction.Tracing.Protocol
import Feo.Foundation.Cobs
import Feo.Foundation.Varint

namespace Feo.Tracing

open Foundation

/-- An option has a tag byte before its value. -/
def serializeOption {Item : Type} (serialize : Item → List UInt8) : Option Item → List UInt8
  | none => [0]
  | some item => 1 :: serialize item

def serializeU32 (value : UInt32) : List UInt8 := toVarint value.toNat

def serializeU64 (value : UInt64) : List UInt8 := toVarint value.toNat

def Process.serialize (process : Process) : List UInt8 :=
  serializeU32 process.pid ++ serializeU32 process.tid

def EventInfo.serialize (info : EventInfo) : List UInt8 :=
  info.name.bytes ++ (serializeOption serializeU64 info.nameLen ++
    (info.value.bytes ++ serializeU64 info.valueLen))

/-- The variants are numbered in the order of their declaration. -/
def TraceData.serialize : TraceData → List UInt8
  | newSpan id name nameLen info =>
      0 :: serializeU64 id ++ (name.bytes ++ (serializeU64 nameLen ++ info.serialize))
  | record span => 1 :: serializeU64 span
  | event parentSpan name nameLen info =>
      2 :: serializeOption serializeU64 parentSpan ++
        (name.bytes ++ (serializeU64 nameLen ++ info.serialize))
  | enter span => 3 :: serializeU64 span
  | exit span => 4 :: serializeU64 span

def TracePacket.serialize (packet : TracePacket) : List UInt8 :=
  serializeU64 packet.timestamp ++
    (serializeOption Process.serialize packet.process ++ packet.data.serialize)

/-- The frame must fit into the buffer. -/
def toSliceCobs (packet : TracePacket) (size : Nat) : Except String (List UInt8) :=
  if (cobsFrame packet.serialize).length ≤ size then .ok (cobsFrame packet.serialize)
  else .error "SerializeBufferFull"

/-- The value of a field is a string or is recorded in its debug form. -/
inductive FieldValue where
  | str (value : List Char)
  | debug

/-- The visitor ignores all values but the strings. -/
def EventInfo.recordField (info : EventInfo) (field : List Char × FieldValue) :
    Panicking EventInfo :=
  match field.2 with
  | .str value => info.recordStr field.1 value
  | .debug => .ok info

/-- The visitor goes through the fields of a span or an event. -/
def EventInfo.visit (info : EventInfo) (fields : List (List Char × FieldValue)) :
    Panicking EventInfo := fields.foldlM EventInfo.recordField info

namespace Subscriber

def newSpan (timestamp : UInt64) (this : Process) (id : UInt64) (name : List Char)
    (fields : List (List Char × FieldValue)) : Panicking TracePacket := do
  let (nameLen, name) ← truncate name (Bytes.zero maxInfoSize)
  let info ← EventInfo.default.visit fields
  return .nowWithData timestamp this (.newSpan id name (UInt64.ofNat nameLen) info)

def record (timestamp : UInt64) (this : Process) (span : UInt64) : TracePacket :=
  .nowWithData timestamp this (.record span)

def event (timestamp : UInt64) (this : Process) (currentSpan : Option UInt64) (name : List Char)
    (fields : List (List Char × FieldValue)) : Panicking TracePacket := do
  let (nameLen, name) ← truncate name (Bytes.zero maxInfoSize)
  let info ← EventInfo.default.visit fields
  return .nowWithData timestamp this (.event currentSpan name (UInt64.ofNat nameLen) info)

def enter (timestamp : UInt64) (span : UInt64) : TracePacket :=
  .nowWithoutProcess timestamp (.enter span)

def exit (timestamp : UInt64) (span : UInt64) : TracePacket :=
  .nowWithoutProcess timestamp (.exit span)

/-- A call of the subscriber comes with what it is told. -/
inductive Call where
  | newSpan (id : UInt64) (name : List Char) (fields : List (List Char × FieldValue))
  | record (span : UInt64)
  | event (currentSpan : Option UInt64) (name : List Char)
      (fields : List (List Char × FieldValue))
  | enter (span : UInt64)
  | exit (span : UInt64)

/-- A thread makes the call at some time. -/
structure Request where
  timestamp : UInt64
  this : Process
  call : Call

/-- Each call builds one packet. -/
def build (request : Request) : Panicking TracePacket :=
  match request.call with
  | .newSpan id name fields => newSpan request.timestamp request.this id name fields
  | .record span => .ok (record request.timestamp request.this span)
  | .event currentSpan name fields =>
      event request.timestamp request.this currentSpan name fields
  | .enter span => .ok (enter request.timestamp span)
  | .exit span => .ok (exit request.timestamp span)

/-- The serializing thread writes a received packet or drops it with an error message. -/
inductive Handling where
  | written (serialized : List UInt8)
  | failed (serialized : List UInt8)
  | dropped (error : String)

/-- Each received packet comes with the answer of the socket, which ends the loop if negative. -/
def threadMain : List (TracePacket × Bool) → List Handling
  | [] => []
  | (packet, accepted) :: rest =>
      match toSliceCobs packet maxPacketSize with
      | .error error => .dropped error :: threadMain rest
      | .ok serialized =>
          if accepted then .written serialized :: threadMain rest else [.failed serialized]

end Subscriber

end Feo.Tracing
