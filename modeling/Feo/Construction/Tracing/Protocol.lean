import Feo.Construction.Timestamp
import Feo.Foundation.Utf8

namespace Feo.Tracing

open Foundation

def maxInfoSize : Nat := 30

/-- The maximal allowed size of serialized packet data. -/
def maxPacketSize : Nat := 148

/-- A byte array has a fixed size. -/
structure Bytes (size : Nat) where
  bytes : List UInt8
  length_eq : bytes.length = size

namespace Bytes

variable {size : Nat}

def zero (size : Nat) : Bytes size := ⟨List.replicate size 0, List.length_replicate⟩

/-- The source replaces the first bytes of the array. -/
def cloneFromSlice (buffer : Bytes size) (source : List UInt8) : Bytes size where
  bytes := source.take size ++ buffer.bytes.drop source.length
  length_eq := by
    rw [List.length_append, List.length_take, List.length_drop, buffer.length_eq]
    omega

theorem cloneFromSlice_bytes (buffer : Bytes size) {source : List UInt8}
    (fits : source.length ≤ size) :
    (buffer.cloneFromSlice source).bytes = source ++ buffer.bytes.drop source.length := by
  simp only [cloneFromSlice, List.take_of_length_le fits]

end Bytes

/-- The slice of the first bytes panics when there are fewer. -/
def sliceTo (bytes : List UInt8) (len : Nat) : Panicking (List UInt8) :=
  if len ≤ bytes.length then .ok (bytes.take len)
  else
    .error ("range end index " ++ toString len ++ " out of range for slice of length " ++
      toString bytes.length)

theorem sliceTo_ok {bytes : List UInt8} {len : Nat} (fits : len ≤ bytes.length) :
    sliceTo bytes len = .ok (bytes.take len) := if_pos fits

/-- The slice exists exactly when there are as many bytes. -/
theorem sliceTo_isOk_iff (bytes : List UInt8) (len : Nat) :
    (∃ slice, sliceTo bytes len = .ok slice) ↔ len ≤ bytes.length := by
  unfold sliceTo
  split <;> simp_all

/-- The loop goes through the positions of the characters up to the maximal length. -/
def truncLoop (maxByteLen : Nat) : List (Nat × Char) → Nat → Nat
  | [], len => len
  | (pos, _) :: rest, len =>
      if pos ≥ maxByteLen then len
      else truncLoop maxByteLen rest (if pos + 1 > len ∧ pos < maxByteLen then pos + 1 else len)

/-- Return the byte length of the text truncated to the maximal length in bytes. -/
def truncLen (slice : List Char) (maxByteLen : Nat) : Nat :=
  truncLoop maxByteLen (charIndices slice) 0

/-- Truncate the given string slice into the given output byte buffer. -/
def truncate {size : Nat} (slice : List Char) (buffer : Bytes size) :
    Panicking (Nat × Bytes size) := do
  let len := truncLen slice size
  let _ ← sliceTo buffer.bytes len
  let source ← sliceTo (utf8Bytes slice) len
  return (len, buffer.cloneFromSlice source)

/-- A packet names the process and the thread. -/
structure Process where
  pid : UInt32
  tid : UInt32

/-- Additional info that can be attached to an event. -/
structure EventInfo where
  name : Bytes maxInfoSize
  nameLen : Option UInt64
  value : Bytes maxInfoSize
  valueLen : UInt64

inductive TraceData where
  | newSpan (id : UInt64) (name : Bytes maxInfoSize) (nameLen : UInt64) (info : EventInfo)
  | record (span : UInt64)
  | event (parentSpan : Option UInt64) (name : Bytes maxInfoSize) (nameLen : UInt64)
      (info : EventInfo)
  | enter (span : UInt64)
  | exit (span : UInt64)

/-- A trace packet has a timestamp in nanoseconds. -/
structure TracePacket where
  timestamp : UInt64
  process : Option Process
  data : TraceData

namespace EventInfo

/-- This is the info of an event without fields. -/
def default : EventInfo := ⟨Bytes.zero maxInfoSize, none, Bytes.zero maxInfoSize, 0⟩

/-- Each string field replaces the lengths of the one before it. -/
def recordStr (info : EventInfo) (field value : List Char) : Panicking EventInfo := do
  let (nameLen, name) ← truncate field info.name
  let (valueLen, value) ← truncate value info.value
  return ⟨name, some (UInt64.ofNat nameLen), value, UInt64.ofNat valueLen⟩

end EventInfo

/-- Create trace packet with the process information. -/
def TracePacket.nowWithData (timestamp : UInt64) (this : Process) (data : TraceData) :
    TracePacket := ⟨timestamp, some this, data⟩

/-- Create trace packet without the process information, thus saving time of a syscall. -/
def TracePacket.nowWithoutProcess (timestamp : UInt64) (data : TraceData) : TracePacket :=
  ⟨timestamp, none, data⟩

end Feo.Tracing
