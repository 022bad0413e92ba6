import Feo.Construction.Tracing.Subscriber
import Feo.Foundation.PrefixFree

namespace Feo.Tracing

open Foundation

theorem serializeU32_prefixFree : PrefixFree serializeU32 :=
  toVarint_prefixFree.comp UInt32.toNat fun _ _ same => UInt32.toNat_inj.mp same

theorem serializeU64_prefixFree : PrefixFree serializeU64 :=
  toVarint_prefixFree.comp UInt64.toNat fun _ _ same => UInt64.toNat_inj.mp same

theorem serializeOption_prefixFree {Item : Type} {serialize : Item → List UInt8}
    (free : PrefixFree serialize) : PrefixFree (serializeOption serialize) := by
  intro first last after behind same
  cases first with
  | none =>
      cases last with
      | none => exact ⟨rfl, (List.cons.inj same).2⟩
      | some item => exact absurd (List.cons.inj same).1 (by decide)
  | some item =>
      cases last with
      | none => exact absurd (List.cons.inj same).1 (by decide)
      | some other =>
          obtain ⟨rfl, rest⟩ := free _ _ _ _ (List.cons.inj same).2
          exact ⟨rfl, rest⟩

theorem Bytes.ext {size : Nat} {first last : Bytes size} (same : first.bytes = last.bytes) :
    first = last := by
  cases first
  cases last
  cases same
  rfl

/-- The arrays have no length on the wire. -/
theorem Bytes.prefixFree (size : Nat) :
    PrefixFree fun array : Bytes size => array.bytes :=
  .of_length (fun _ _ same => Bytes.ext same)
    fun first last => first.length_eq.trans last.length_eq.symm

theorem Process.serialize_prefixFree : PrefixFree Process.serialize := by
  apply (serializeU32_prefixFree.append serializeU32_prefixFree).comp
    fun process : Process => (process.pid, process.tid)
  intro first last same
  cases first
  cases last
  cases same
  rfl

theorem EventInfo.serialize_prefixFree : PrefixFree EventInfo.serialize := by
  apply ((Bytes.prefixFree maxInfoSize).append
    ((serializeOption_prefixFree serializeU64_prefixFree).append
      ((Bytes.prefixFree maxInfoSize).append serializeU64_prefixFree))).comp
    fun info : EventInfo => (info.name, info.nameLen, info.value, info.valueLen)
  intro first last same
  cases first
  cases last
  cases same
  rfl

/-- The name of a span or an event stands before its info. -/
theorem named_prefixFree : PrefixFree fun given : Bytes maxInfoSize × UInt64 × EventInfo =>
    given.1.bytes ++ (serializeU64 given.2.1 ++ given.2.2.serialize) :=
  (Bytes.prefixFree maxInfoSize).append
    (serializeU64_prefixFree.append EventInfo.serialize_prefixFree)

/-- The first byte tells the variant. -/
theorem TraceData.serialize_prefixFree : PrefixFree TraceData.serialize := by
  intro first last after behind same
  cases first with
  | newSpan id name nameLen info =>
      cases last with
      | newSpan otherId otherName otherLen otherInfo =>
          obtain ⟨equal, rest⟩ := (serializeU64_prefixFree.append named_prefixFree)
            (id, name, nameLen, info) (otherId, otherName, otherLen, otherInfo) _ _
            (List.cons.inj same).2
          cases equal
          exact ⟨rfl, rest⟩
      | _ => exact absurd (List.cons.inj same).1 (by decide)
  | record span =>
      cases last with
      | record other =>
          obtain ⟨rfl, rest⟩ := serializeU64_prefixFree _ _ _ _ (List.cons.inj same).2
          exact ⟨rfl, rest⟩
      | _ => exact absurd (List.cons.inj same).1 (by decide)
  | event parentSpan name nameLen info =>
      cases last with
      | event otherSpan otherName otherLen otherInfo =>
          obtain ⟨equal, rest⟩ := ((serializeOption_prefixFree serializeU64_prefixFree).append
            named_prefixFree) (parentSpan, name, nameLen, info)
            (otherSpan, otherName, otherLen, otherInfo) _ _ (List.cons.inj same).2
          cases equal
          exact ⟨rfl, rest⟩
      | _ => exact absurd (List.cons.inj same).1 (by decide)
  | enter span =>
      cases last with
      | enter other =>
          obtain ⟨rfl, rest⟩ := serializeU64_prefixFree _ _ _ _ (List.cons.inj same).2
          exact ⟨rfl, rest⟩
      | _ => exact absurd (List.cons.inj same).1 (by decide)
  | exit span =>
      cases last with
      | exit other =>
          obtain ⟨rfl, rest⟩ := serializeU64_prefixFree _ _ _ _ (List.cons.inj same).2
          exact ⟨rfl, rest⟩
      | _ => exact absurd (List.cons.inj same).1 (by decide)

theorem TracePacket.serialize_prefixFree : PrefixFree TracePacket.serialize := by
  apply (serializeU64_prefixFree.append ((serializeOption_prefixFree
    Process.serialize_prefixFree).append TraceData.serialize_prefixFree)).comp
      fun packet : TracePacket => (packet.timestamp, packet.process, packet.data)
  intro first last same
  cases first
  cases last
  cases same
  rfl

/-- The frames of the packets tell the packets and where the next frame starts. -/
theorem frame_prefixFree : PrefixFree fun packet : TracePacket => cobsFrame packet.serialize :=
  cobsFrame_prefixFree.comp TracePacket.serialize TracePacket.serialize_prefixFree.injective

/-- The bytes on the wire tell the packets, however many of them have arrived. -/
theorem wire_prefix_iff (first second : List TracePacket) :
    (first.flatMap fun packet => cobsFrame packet.serialize) <+:
        (second.flatMap fun packet => cobsFrame packet.serialize) ↔ first <+: second :=
  frame_prefixFree.flatMap_prefix_iff (fun packet => by simp [cobsFrame]) first second

end Feo.Tracing
