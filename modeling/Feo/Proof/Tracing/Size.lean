import Feo.Construction.Tracing.Subscriber
import Feo.Proof.Tracing.Truncate

namespace Feo.Tracing

open Foundation

theorem serializeU32_length_le (value : UInt32) : (serializeU32 value).length ≤ 5 :=
  toVarint_length_le 4 _ (by have := value.toNat_lt; omega)

theorem serializeU64_length_le (value : UInt64) : (serializeU64 value).length ≤ 10 :=
  toVarint_length_le 9 _ (by have := value.toNat_lt; omega)

/-- A length of the name or the value has one byte. -/
theorem serializeU64_length_small {length : Nat} (small : length ≤ maxInfoSize) :
    (serializeU64 (UInt64.ofNat length)).length = 1 := by
  have value : (UInt64.ofNat length).toNat = length := by
    rw [UInt64.toNat_ofNat']
    unfold maxInfoSize at small
    omega
  rw [serializeU64, value, toVarint_small]
  · rfl
  · unfold maxInfoSize at small
    omega

theorem serializeOption_length_le {Item : Type} {serialize : Item → List UInt8} {bound : Nat}
    (item : Option Item) (bounded : ∀ value, (serialize value).length ≤ bound) :
    (serializeOption serialize item).length ≤ bound + 1 := by
  cases item with
  | none => simp [serializeOption]
  | some value => simpa [serializeOption] using bounded value

theorem Process.serialize_length_le (process : Process) : process.serialize.length ≤ 10 := by
  have pid := serializeU32_length_le process.pid
  have tid := serializeU32_length_le process.tid
  rw [serialize, List.length_append]
  omega

/-- The lengths of an info stay within its arrays. -/
structure EventInfo.Truncated (info : EventInfo) : Prop where
  name : ∀ length, info.nameLen = some length →
    ∃ small : Nat, small ≤ maxInfoSize ∧ length = UInt64.ofNat small
  value : ∃ small : Nat, small ≤ maxInfoSize ∧ info.valueLen = UInt64.ofNat small

theorem EventInfo.default_truncated : EventInfo.default.Truncated where
  name := by
    intro length some
    cases some
  value := ⟨0, Nat.zero_le _, rfl⟩

/-- A string field leaves two truncated lengths. -/
theorem EventInfo.recordStr_truncated (info : EventInfo) (field value : List Char) :
    ∃ next, info.recordStr field value = .ok next ∧ next.Truncated := by
  rw [recordStr, truncate_ok]
  simp only [bind, Except.bind, pure, Except.pure, truncate_ok]
  refine ⟨_, rfl, ?_, _, truncLen_le value maxInfoSize, rfl⟩
  intro length same
  cases same
  exact ⟨_, truncLen_le field maxInfoSize, rfl⟩

theorem EventInfo.recordField_truncated (info : EventInfo) (field : List Char × FieldValue)
    (truncated : info.Truncated) :
    ∃ next, info.recordField field = .ok next ∧ next.Truncated := by
  rw [recordField]
  cases field.2 with
  | str value => exact info.recordStr_truncated field.1 value
  | debug => exact ⟨info, rfl, truncated⟩

/-- Each visited field keeps the lengths truncated. -/
theorem EventInfo.visit_truncated (fields : List (List Char × FieldValue)) (info : EventInfo)
    (truncated : info.Truncated) : ∃ final, info.visit fields = .ok final ∧ final.Truncated := by
  induction fields generalizing info with
  | nil => exact ⟨info, rfl, truncated⟩
  | cons field rest ih =>
      obtain ⟨next, recorded, kept⟩ := info.recordField_truncated field truncated
      obtain ⟨final, visited, last⟩ := ih next kept
      refine ⟨final, ?_, last⟩
      rw [visit, List.foldlM_cons, recorded]
      exact visited

theorem EventInfo.serialize_length_le (info : EventInfo) (truncated : info.Truncated) :
    info.serialize.length ≤ 63 := by
  have name : (serializeOption serializeU64 info.nameLen).length ≤ 2 := by
    cases given : info.nameLen with
    | none => simp [serializeOption]
    | some length =>
        obtain ⟨small, within, rfl⟩ := truncated.name length given
        simp [serializeOption, serializeU64_length_small within]
  have value : (serializeU64 info.valueLen).length = 1 := by
    obtain ⟨small, within, same⟩ := truncated.value
    rw [same, serializeU64_length_small within]
  rw [serialize]
  simp only [List.length_append, info.name.length_eq, info.value.length_eq, value]
  unfold maxInfoSize
  omega

/-- A packet with the process information has the largest encoding if it is an event. -/
theorem TracePacket.serialize_length_le (packet : TracePacket)
    (data : packet.data.serialize.length ≤ 106) : packet.serialize.length ≤ 127 := by
  have timestamp := serializeU64_length_le packet.timestamp
  have process := serializeOption_length_le packet.process Process.serialize_length_le
  rw [serialize, List.length_append, List.length_append]
  omega

/-- A named packet with truncated lengths has the size of its identifier in addition. -/
theorem named_length_le (name : Bytes maxInfoSize) {length : Nat} (small : length ≤ maxInfoSize)
    (info : EventInfo) (truncated : info.Truncated) :
    (name.bytes ++ (serializeU64 (UInt64.ofNat length) ++ info.serialize)).length ≤ 94 := by
  have rest := info.serialize_length_le truncated
  simp only [List.length_append, name.length_eq, serializeU64_length_small small]
  unfold maxInfoSize
  omega

namespace Subscriber

/-- The fields of a call give truncated lengths, which keep its data short. -/
theorem visit_short (tag : UInt8) (front : List UInt8) (few : front.length ≤ 11)
    (name : List Char) (fields : List (List Char × FieldValue)) :
    ∃ info, EventInfo.default.visit fields = .ok info ∧
      (tag :: (front ++ (((Bytes.zero maxInfoSize).cloneFromSlice
        ((utf8Bytes name).take (truncLen name maxInfoSize))).bytes ++
          (serializeU64 (UInt64.ofNat (truncLen name maxInfoSize)) ++
            info.serialize)))).length ≤ 106 := by
  obtain ⟨info, visited, truncated⟩ :=
    EventInfo.visit_truncated fields _ EventInfo.default_truncated
  refine ⟨info, visited, ?_⟩
  have named := named_length_le ((Bytes.zero maxInfoSize).cloneFromSlice
    ((utf8Bytes name).take (truncLen name maxInfoSize))) (truncLen_le name maxInfoSize) info
    truncated
  rw [List.length_cons, List.length_append]
  omega

theorem newSpan_short (timestamp : UInt64) (this : Process) (id : UInt64) (name : List Char)
    (fields : List (List Char × FieldValue)) :
    ∃ packet, newSpan timestamp this id name fields = .ok packet ∧
      packet.data.serialize.length ≤ 106 := by
  have span := serializeU64_length_le id
  obtain ⟨info, visited, short⟩ := visit_short 0 (serializeU64 id) (by omega) name fields
  rw [newSpan, truncate_ok, visited]
  exact ⟨_, rfl, short⟩

theorem event_short (timestamp : UInt64) (this : Process) (currentSpan : Option UInt64)
    (name : List Char) (fields : List (List Char × FieldValue)) :
    ∃ packet, event timestamp this currentSpan name fields = .ok packet ∧
      packet.data.serialize.length ≤ 106 := by
  have span := serializeOption_length_le currentSpan serializeU64_length_le
  obtain ⟨info, visited, short⟩ := visit_short 2 (serializeOption serializeU64 currentSpan)
    (by omega) name fields
  rw [event, truncate_ok, visited]
  exact ⟨_, rfl, short⟩

/-- No call panics, and each one builds a packet with short data. -/
theorem build_short (request : Request) :
    ∃ packet, build request = .ok packet ∧ packet.data.serialize.length ≤ 106 := by
  have tagged (tag : UInt8) (span : UInt64) : (tag :: serializeU64 span).length ≤ 106 := by
    have bound := serializeU64_length_le span
    rw [List.length_cons]
    omega
  rw [build]
  cases request.call with
  | newSpan id name fields => exact newSpan_short _ _ id name fields
  | record span => exact ⟨_, rfl, tagged 1 span⟩
  | event currentSpan name fields => exact event_short _ _ currentSpan name fields
  | enter span => exact ⟨_, rfl, tagged 3 span⟩
  | exit span => exact ⟨_, rfl, tagged 4 span⟩

end Subscriber

/-- The frame of a packet with short data leaves some room in the buffer. -/
theorem toSliceCobs_ok (packet : TracePacket) (short : packet.data.serialize.length ≤ 106) :
    toSliceCobs packet maxPacketSize = .ok (cobsFrame packet.serialize) := by
  have size := packet.serialize_length_le short
  have framed := cobsFrame_length_le packet.serialize (by omega)
  apply if_pos
  unfold maxPacketSize
  omega

namespace Subscriber

/-- The frame of the packet is written, or the socket fails to take it. -/
def handled (entry : TracePacket × Bool) : Handling :=
  if entry.2 then .written (cobsFrame entry.1.serialize) else .failed (cobsFrame entry.1.serialize)

/-- The thread handles all packets with short data up to the first one that the socket refuses. -/
theorem threadMain_eq (received : List (TracePacket × Bool))
    (short : ∀ entry ∈ received, entry.1.data.serialize.length ≤ 106) :
    threadMain received =
      (received.take (received.findIdx (fun entry => !entry.2) + 1)).map handled := by
  induction received with
  | nil => rfl
  | cons entry rest ih =>
      obtain ⟨packet, accepted⟩ := entry
      have later := ih fun other member => short other (List.mem_cons_of_mem _ member)
      rw [threadMain, toSliceCobs_ok packet (short _ List.mem_cons_self), List.take_succ_cons,
        List.map_cons, List.findIdx_cons]
      cases accepted with
      | true => simp [later, handled]
      | false => simp [handled]

/-- Every packet that the subscriber builds is serialized into the buffer, and the frame of each
packet that the thread receives is written or refused by the socket. -/
theorem build_serializes (requests : List Request) :
    ∃ packets, requests.mapM build = .ok packets ∧
      (∀ packet ∈ packets,
        toSliceCobs packet maxPacketSize = .ok (cobsFrame packet.serialize)) ∧
      ∀ answers, (∀ error, Handling.dropped error ∉ threadMain (packets.zip answers)) ∧
        threadMain (packets.zip answers) = ((packets.zip answers).take
          ((packets.zip answers).findIdx (fun entry => !entry.2) + 1)).map handled := by
  have built : ∃ packets, requests.mapM build = .ok packets ∧
      ∀ packet ∈ packets, packet.data.serialize.length ≤ 106 := by
    induction requests with
    | nil => exact ⟨[], rfl, by simp⟩
    | cons request rest ih =>
        obtain ⟨packets, all, short⟩ := ih
        obtain ⟨packet, one, first⟩ := build_short request
        refine ⟨packet :: packets, ?_, ?_⟩
        · rw [List.mapM_cons, one, all]
          rfl
        · simpa using ⟨first, short⟩
  obtain ⟨packets, all, short⟩ := built
  refine ⟨packets, all, fun packet member => toSliceCobs_ok packet (short packet member), ?_⟩
  intro answers
  have handles := threadMain_eq (packets.zip answers) fun entry member =>
    short entry.1 (List.of_mem_zip member).1
  refine ⟨?_, handles⟩
  intro error member
  rw [handles] at member
  obtain ⟨entry, -, same⟩ := List.mem_map.mp member
  unfold handled at same
  split at same
  · cases same
  · cases same

end Subscriber

end Feo.Tracing
