import Feo.Foundation.Split
import Feo.Proof.Tracing.Live

namespace Feo.Tracing

open Foundation
open Data (Thread ThreadNameCache RecordEventInfo RecordData TraceRecord decodePacket lossyText)

/-- The lengths of an info stay within its arrays. -/
def EventInfo.LengthsFit (info : EventInfo) : Prop :=
  (∀ len, info.nameLen = some len → len.toNat ≤ maxInfoSize) ∧
    info.valueLen.toNat ≤ maxInfoSize

/-- The lengths of a packet stay within its arrays. -/
def TraceData.LengthsFit : TraceData → Prop
  | newSpan _ _ nameLen info => nameLen.toNat ≤ maxInfoSize ∧ info.LengthsFit
  | event _ _ nameLen info => nameLen.toNat ≤ maxInfoSize ∧ info.LengthsFit
  | _ => True

/-- These packets are not processed without the process information. -/
def TraceData.NeedsProcess : TraceData → Prop
  | newSpan .. => True
  | event .. => True
  | record _ => True
  | _ => False

namespace Message

/-- The packet of the message creates the span. -/
def Creates (pid : UInt32) (id : UInt64) : Message → Prop
  | packet own received _ _ _ =>
      own = pid ∧ ∃ name nameLen info, received.data = .newSpan id name nameLen info
  | _ => False

/-- The packet of the message exits the span, or the connection of its process is closed. -/
def Ends (pid : UInt32) (id : UInt64) : Message → Prop
  | exec _ _ => False
  | packet own received _ _ _ => own = pid ∧ received.data = .exit id
  | exit _ own => own = pid

/-- The span was created, and since then neither it nor its process has exited. -/
def LiveIn (history : List Message) (pid : UInt32) (id : UInt64) : Prop :=
  Since (fun _ => Creates pid id) (Ends pid id) history

/-- A message is harmless behind the messages before it. -/
def Harmless (front : List Message) : Message → Prop
  | exec now _ => 0 ≤ now.nanos
  | exit now _ => 0 ≤ now.nanos
  | packet pid received _ _ _ =>
      received.data.LengthsFit ∧ (received.data.NeedsProcess → received.process ≠ none) ∧
        ∀ id name nameLen info, received.data = .newSpan id name nameLen info →
          ¬ LiveIn front pid id

end Message

/-- The text exists exactly when the length stays within the array. -/
theorem lossyText_isOk_iff (bytes : Bytes maxInfoSize) (len : UInt64) :
    (∃ text, lossyText bytes len = .ok text) ↔ len.toNat ≤ maxInfoSize := by
  have slice := sliceTo_isOk_iff bytes.bytes len.toNat
  rw [bytes.length_eq] at slice
  rw [← slice, lossyText]
  cases sliceTo bytes.bytes len.toNat <;> simp [Functor.map, Except.map]

/-- A sequence of two computations succeeds exactly when both do. -/
theorem bind_isOk_iff {First Last : Type} (first : Panicking First)
    (next : First → Panicking Last) :
    (∃ last, (first >>= next) = .ok last) ↔
      ∃ value, first = .ok value ∧ ∃ last, next value = .ok last := by
  cases first <;> simp [bind, Except.bind]

theorem fromEventInfo_isOk_iff (info : EventInfo) :
    (∃ record, RecordEventInfo.fromEventInfo info = .ok record) ↔ info.LengthsFit := by
  have value := lossyText_isOk_iff info.value info.valueLen
  have name : (∃ name, RecordEventInfo.nameOf info = .ok name) ↔
      ∀ len, info.nameLen = some len → len.toNat ≤ maxInfoSize := by
    unfold RecordEventInfo.nameOf
    cases info.nameLen with
    | none => simp
    | some len =>
        simp only [Option.some.injEq, forall_eq', ← lossyText_isOk_iff info.name len]
        cases lossyText info.name len <;> simp [Functor.map, Except.map]
  unfold RecordEventInfo.fromEventInfo EventInfo.LengthsFit
  rw [bind_isOk_iff, ← name, ← value]
  simp only [bind_isOk_iff, pure, Except.pure, Except.ok.injEq, exists_eq', and_true,
    exists_and_right]

/-- The decoded data keep the kind of the packet and the identifiers in it. -/
inductive Decoded : TraceData → RecordData → Prop
  | newSpan (id : UInt64) (name : Bytes maxInfoSize) (nameLen : UInt64) (info : EventInfo)
      (text : List Char) (recordInfo : RecordEventInfo) :
      Decoded (.newSpan id name nameLen info) (.newSpan id text recordInfo)
  | record (span : UInt64) : Decoded (.record span) (.record span)
  | event (parentSpan : Option UInt64) (name : Bytes maxInfoSize) (nameLen : UInt64)
      (info : EventInfo) (text : List Char) (recordInfo : RecordEventInfo) :
      Decoded (.event parentSpan name nameLen info) (.event parentSpan text recordInfo)
  | enter (span : UInt64) : Decoded (.enter span) (.enterSpan span)
  | exit (span : UInt64) : Decoded (.exit span) (.exitSpan span)

/-- The conversion succeeds exactly when the lengths fit, and it keeps the kind of the packet. -/
theorem fromTraceData_isOk_iff (data : TraceData) :
    (∃ record, RecordData.fromTraceData data = .ok record) ↔ data.LengthsFit := by
  have named (name : Bytes maxInfoSize) (nameLen : UInt64) (info : EventInfo)
      (wrap : List Char → RecordEventInfo → RecordData) :
      (∃ record, (do
        let recordInfo ← RecordEventInfo.fromEventInfo info
        let text ← lossyText name nameLen
        return wrap text recordInfo : Panicking RecordData) = .ok record) ↔
        nameLen.toNat ≤ maxInfoSize ∧ info.LengthsFit := by
    rw [bind_isOk_iff, ← lossyText_isOk_iff name nameLen, ← fromEventInfo_isOk_iff info]
    simp only [bind_isOk_iff, pure, Except.pure, Except.ok.injEq, exists_eq', and_true,
      exists_and_right]
    exact and_comm
  cases data with
  | newSpan id name nameLen info => exact named name nameLen info fun text => .newSpan id text
  | record span => simp [RecordData.fromTraceData, TraceData.LengthsFit]
  | event parentSpan name nameLen info =>
      exact named name nameLen info fun text => .event parentSpan text
  | enter span => simp [RecordData.fromTraceData, TraceData.LengthsFit]
  | exit span => simp [RecordData.fromTraceData, TraceData.LengthsFit]

theorem decoded_of_ok {data : TraceData} {record : RecordData}
    (converted : RecordData.fromTraceData data = .ok record) : Decoded data record := by
  cases data with
  | newSpan id name nameLen info =>
      obtain ⟨recordInfo, -, rest⟩ := bind_ok converted
      obtain ⟨text, -, last⟩ := bind_ok rest
      cases last
      exact .newSpan ..
  | record span =>
      cases converted
      exact .record span
  | event parentSpan name nameLen info =>
      obtain ⟨recordInfo, -, rest⟩ := bind_ok converted
      obtain ⟨text, -, last⟩ := bind_ok rest
      cases last
      exact .event ..
  | enter span =>
      cases converted
      exact .enter span
  | exit span =>
      cases converted
      exact .exit span

/-- The nanoseconds of a packet are a system time. -/
theorem add_fromNanos (nanos : UInt64) :
    ∃ time, Reading.unixEpoch.add (Duration.fromNanos nanos) = .ok time ∧ 0 ≤ time.nanos := by
  have bound := nanos.toNat_lt
  have small : ¬ 9223372036854775808000000000 ≤
      Reading.unixEpoch.nanos + (Duration.fromNanos nanos).nanos := by
    simp only [Reading.unixEpoch, Duration.fromNanos]
    omega
  refine ⟨_, dif_neg small, ?_⟩
  simp only [Reading.unixEpoch, Duration.fromNanos]
  omega

/-- A record tells what its message tells. -/
structure Tells (message : Message) (record : TraceRecord) : Prop where
  creates : ∀ pid id, record.Creates pid id ↔ message.Creates pid id
  ends : ∀ pid id, record.Ends pid id ↔ message.Ends pid id

theorem Decoded.tells {pid : UInt32} {received : TracePacket} {threadCache : ThreadNameCache}
    {answer processName : Option (List Char)} {record : TraceRecord}
    (own : record.process.id = pid) (decoded : Decoded received.data record.data) :
    Tells (.packet pid received threadCache answer processName) record := by
  subst own
  refine ⟨?_, ?_⟩ <;> intro other id <;>
    simp only [TraceRecord.Creates, TraceRecord.Ends, Message.Creates, Message.Ends] <;>
    generalize received.data = data at decoded ⊢ <;>
    generalize record.data = result at decoded ⊢ <;>
    cases decoded <;> simp

/-- The events and the new spans of the wire need the process information. -/
theorem Decoded.needs {data : TraceData} {record : TraceRecord}
    (decoded : Decoded data record.data) :
    Perfetto.NeedsThread record ↔ data.NeedsProcess := by
  simp only [Perfetto.NeedsThread, TraceRecord.Creates, TraceRecord.EventIn]
  generalize record.data = result at decoded ⊢
  cases decoded <;> simp [Perfetto.asEvent, TraceData.NeedsProcess]

/-- A packet whose lengths fit has a record of its process. -/
theorem record_packet {received : TracePacket} (fits : received.data.LengthsFit) (pid : UInt32)
    (threadCache : ThreadNameCache) (answer processName : Option (List Char)) :
    ∃ record, (Message.packet pid received threadCache answer processName).record =
        .ok (.ok record) ∧
      record.AfterEpoch ∧ record.process.id = pid ∧
      (record.thread = none ↔ received.process = none) ∧ Decoded received.data record.data := by
  obtain ⟨time, summed, after⟩ := add_fromNanos received.timestamp
  obtain ⟨data, converted⟩ := (fromTraceData_isOk_iff received.data).mpr fits
  simp only [Message.record, decodePacket, summed, converted]
  cases received.process with
  | none => exact ⟨_, rfl, after, rfl, by simp, decoded_of_ok converted⟩
  | some given => exact ⟨_, rfl, after, rfl, by simp, decoded_of_ok converted⟩

/-- A packet with a length that does not fit panics. -/
theorem record_packet_panics {received : TracePacket} (large : ¬ received.data.LengthsFit)
    (pid : UInt32) (threadCache : ThreadNameCache) (answer processName : Option (List Char)) :
    ∃ panic, (Message.packet pid received threadCache answer processName).record =
      .error panic := by
  obtain ⟨time, summed, -⟩ := add_fromNanos received.timestamp
  have failed := (not_congr (fromTraceData_isOk_iff received.data)).mpr large
  cases converted : RecordData.fromTraceData received.data with
  | ok data => exact absurd ⟨data, converted⟩ failed
  | error panic =>
      simp only [Message.record, decodePacket, summed, converted]
      exact ⟨panic, rfl⟩

namespace Perfetto

/-- The events of this machine are the messages that do not fail. -/
def tracer : Machine Perfetto Message where
  step perfetto message := (perfetto.handle message).toOption.bind Except.toOption

theorem tracer_step_iff (perfetto next : Perfetto) (message : Message) :
    tracer.step perfetto message = some next ↔ perfetto.handle message = .ok (.ok next) :=
  toOption_bind_eq_some_iff _ _

/-- The loop ends without an error exactly when each message is processed. -/
theorem processPackets_ok_iff (messages : List Message) (perfetto final : Perfetto) :
    processPackets perfetto messages = .ok (.ok final) ↔
      tracer.run perfetto messages = some final := by
  induction messages generalizing perfetto with
  | nil => simp [processPackets]
  | cons message rest ih =>
      rw [processPackets, Machine.run_cons]
      show _ ↔ ((perfetto.handle message).toOption.bind Except.toOption).bind _ = _
      rcases perfetto.handle message with panic | error | next
      · simp [bind, Except.bind, Except.toOption]
      · simp [bind, Except.bind, pure, Except.pure, Except.toOption]
      · exact ih next

section Step

variable {perfetto next : Perfetto} {message : Message}

/-- A handled message has a record that is processed. -/
theorem handle_ok_iff : perfetto.handle message = .ok (.ok next) ↔
    ∃ record, message.record = .ok (.ok record) ∧
      perfetto.onPacket true record = .ok (.ok next) := by
  unfold handle
  rcases message.record with panic | error | record <;>
    simp [bind, Except.bind, pure, Except.pure]

/-- The record of a message tells what the message tells. -/
theorem record_tells {record : TraceRecord} (sent : message.record = .ok (.ok record)) :
    Tells message record := by
  cases message with
  | exec now process =>
      cases sent
      refine ⟨?_, ?_⟩ <;> intro pid id <;>
        simp [TraceRecord.Creates, TraceRecord.Ends, Message.Creates, Message.Ends]
  | packet pid received threadCache answer processName =>
      by_cases fits : received.data.LengthsFit
      · obtain ⟨other, sends, -, own, -, decoded⟩ :=
          record_packet fits pid threadCache answer processName
        rw [sends] at sent
        cases sent
        exact decoded.tells own
      · obtain ⟨panic, panics⟩ := record_packet_panics fits pid threadCache answer processName
        rw [panics] at sent
        cases sent
  | exit now pid =>
      cases sent
      refine ⟨?_, ?_⟩ <;> intro other id <;>
        simp [TraceRecord.Creates, TraceRecord.Ends, Message.Creates, Message.Ends]

/-- Each step keeps the spans live that were created and not ended. -/
theorem tracer_step_live (keyed : WellKeyed perfetto)
    (stepped : tracer.step perfetto message = some next) :
    WellKeyed next ∧ ∀ pid id, Live next pid id ↔
      message.Creates pid id ∨ Live perfetto pid id ∧ ¬ message.Ends pid id := by
  obtain ⟨record, sent, accepted⟩ :=
    handle_ok_iff.mp ((tracer_step_iff perfetto next message).mp stepped)
  have moved := (moved_of_ok accepted).2
  have tells := record_tells sent
  refine ⟨keyed.step moved, ?_⟩
  intro pid id
  rw [← tells.creates, ← tells.ends, live_step keyed moved]

/-- A record without a span and without an event is processed exactly when its time does not
precede the epoch. -/
theorem onPacket_isOk_iff_after {record : TraceRecord} (unneeded : ¬ NeedsThread record) :
    (∃ next, perfetto.onPacket true record = .ok (.ok next)) ↔ record.AfterEpoch := by
  rw [onPacket_isOk_iff]
  constructor
  · exact Acceptable.after
  · intro after
    exact .of_not_needsThread after unneeded

/-- A message is processed exactly when it is harmless behind the messages before it. -/
theorem tracer_step_isSome_iff {front : List Message}
    (live : ∀ pid id, Live perfetto pid id ↔ Message.LiveIn front pid id) :
    (∃ next, tracer.step perfetto message = some next) ↔ message.Harmless front := by
  simp only [tracer_step_iff, handle_ok_iff]
  cases message with
  | exec now process =>
      simp only [Message.record, Except.ok.injEq, exists_eq_left']
      exact onPacket_isOk_iff_after (not_needsThread (Or.inl (Or.inl rfl)))
  | packet pid received threadCache answer processName =>
      by_cases fits : received.data.LengthsFit
      · obtain ⟨record, sends, after, own, thread, decoded⟩ :=
          record_packet fits pid threadCache answer processName
        have tells : Tells (.packet pid received threadCache answer processName) record :=
          decoded.tells own
        have acceptable := onPacket_isOk_iff perfetto record
        simp only [sends, Except.ok.injEq, exists_eq_left', acceptable, Message.Harmless]
        constructor
        · rintro ⟨-, fresh, given⟩
          refine ⟨fits, ?_, ?_⟩
          · intro needs
            exact mt thread.mpr (given (decoded.needs.mpr needs))
          · intro id name nameLen info data
            have creates := (tells.creates pid id).mpr ⟨rfl, name, nameLen, info, data⟩
            rw [own] at fresh
            rw [← live, not_live_iff]
            exact fresh id creates
        · rintro ⟨-, process, fresh⟩
          refine ⟨after, ?_, ?_⟩
          · intro id creates
            rw [own] at creates ⊢
            obtain ⟨-, name, nameLen, info, data⟩ := (tells.creates pid id).mp creates
            rw [← not_live_iff, live]
            exact fresh id name nameLen info data
          · intro needs
            exact mt thread.mp (process (decoded.needs.mp needs))
      · obtain ⟨panic, panics⟩ := record_packet_panics fits pid threadCache answer processName
        simp [panics, Message.Harmless, fits]
  | exit now pid =>
      simp only [Message.record, Except.ok.injEq, exists_eq_left']
      exact onPacket_isOk_iff_after (not_needsThread (Or.inl (Or.inr rfl)))

end Step

/-- The spans of a run live since their creation. -/
theorem tracer_run_live {trackUuid : UInt64} {sequenceId : UInt32} {history : List Message}
    {perfetto : Perfetto}
    (reached : tracer.run (new trackUuid sequenceId) history = some perfetto) :
    WellKeyed perfetto ∧ ∀ pid id, Live perfetto pid id ↔ Message.LiveIn history pid id := by
  refine tracer.run_induction (fun history perfetto => WellKeyed perfetto ∧ ∀ pid id,
    Live perfetto pid id ↔ Message.LiveIn history pid id) ⟨wellKeyed_new _ _, ?_⟩ ?_ reached
  · intro pid id
    exact iff_of_false (not_live_new _ _ pid id) not_since_nil
  · rintro history perfetto message next - ⟨keyed, live⟩ stepped
    obtain ⟨kept, step⟩ := tracer_step_live keyed stepped
    refine ⟨kept, ?_⟩
    intro pid id
    rw [step, Message.LiveIn, since_concat, live pid id, Message.LiveIn]

/-- The tracer survives exactly the sequences in which each message is harmless. -/
theorem processPackets_survives_iff (trackUuid : UInt64) (sequenceId : UInt32)
    (messages : List Message) :
    (∃ final, processPackets (new trackUuid sequenceId) messages = .ok (.ok final)) ↔
      AtEach (fun front message => message.Harmless front) messages := by
  simp only [processPackets_ok_iff]
  induction messages using List.reverseRecOn with
  | nil => simp
  | append_singleton front message ih =>
      rw [atEach_concat, ← ih]
      simp only [Machine.run_concat_iff]
      constructor
      · rintro ⟨final, middle, reached, stepped⟩
        have live := (tracer_run_live reached).2
        exact ⟨⟨middle, reached⟩, (tracer_step_isSome_iff live).mp ⟨final, stepped⟩⟩
      · rintro ⟨⟨middle, reached⟩, harmless⟩
        have live := (tracer_run_live reached).2
        obtain ⟨final, stepped⟩ := (tracer_step_isSome_iff live).mpr harmless
        exact ⟨final, middle, reached, stepped⟩

/-- One event whose name has more bytes than its array panics. -/
theorem processPackets_panics :
    processPackets (new 0 0) [.packet 1 ⟨0, some ⟨1, 1⟩,
      .event none (Bytes.zero maxInfoSize) 31 EventInfo.default⟩ ⟨1, HashMap.empty⟩ none none] =
        .error "range end index 31 out of range for slice of length 30" := rfl

end Perfetto

end Feo.Tracing
