import Feo.Construction.Tracing.Connection
import Feo.Foundation.Delimited
import Feo.Proof.Tracing.Size
import Feo.Proof.Tracing.Survival

namespace Feo.Tracing

open Foundation
open Data (Thread ThreadNameCache RecordData TraceRecord decodePacket)

/-- A later cache keeps the names of an earlier one. -/
def Data.ThreadNameCache.Keeps (later earlier : ThreadNameCache) : Prop :=
  ∀ tid name, earlier.names.get? tid = some name → later.names.get? tid = some name

theorem Data.ThreadNameCache.Keeps.refl (cache : ThreadNameCache) : cache.Keeps cache :=
  fun _ _ found => found

theorem Data.ThreadNameCache.Keeps.trans {first second third : ThreadNameCache}
    (later : third.Keeps second) (earlier : second.Keeps first) : third.Keeps first :=
  fun tid name found => later tid name (earlier tid name found)

/-- The cache answers with the name that it keeps. -/
theorem Data.ThreadNameCache.get_keeps (cache : ThreadNameCache) (tid : UInt32)
    (answer : Option (List Char)) :
    (cache.get tid answer).2.Keeps cache ∧
      (cache.get tid answer).2.names.get? tid = some (cache.get tid answer).1 := by
  unfold Data.ThreadNameCache.get
  cases found : cache.names.get? tid with
  | some name => exact ⟨.refl cache, found⟩
  | none =>
      refine ⟨fun other name known => ?_, ?_⟩
      · dsimp only
        rw [HashMap.get?_insert, if_neg, known]
        rintro rfl
        rw [found] at known
        cases known
      · dsimp only
        rw [HashMap.get?_insert, if_pos rfl]

/-- A record reports its packet under the names of the cache. -/
structure Reports (peer : Peer) (cache : ThreadNameCache) (packet : TracePacket)
    (record : TraceRecord) : Prop where
  timestamp : record.timestamp.nanos = packet.timestamp.toNat
  process : record.process = ⟨peer.pid, peer.name⟩
  anonymous : packet.process = none → record.thread = none
  named : ∀ given, packet.process = some given →
    ∃ name, cache.names.get? given.tid = some name ∧ record.thread = some ⟨given.tid, name⟩
  data : RecordData.fromTraceData packet.data = .ok record.data

theorem Reports.mono {peer : Peer} {later cache : ThreadNameCache} {packet : TracePacket}
    {record : TraceRecord} (reports : Reports peer cache packet record)
    (keeps : later.Keeps cache) : Reports peer later packet record := by
  refine ⟨reports.timestamp, reports.process, reports.anonymous, ?_, reports.data⟩
  intro given same
  obtain ⟨name, found, thread⟩ := reports.named given same
  exact ⟨name, keeps given.tid name found, thread⟩

/-- The frame of a packet that is written ends with its only zero byte. -/
theorem delimited_frame {packet : TracePacket}
    (size : (cobsFrame packet.serialize).length ≤ maxPacketSize) :
    Delimited 0 maxPacketSize (cobsFrame packet.serialize) :=
  ⟨⟨cobsBlocks [] packet.serialize, rfl,
    cobsBlocks_ne_zero [] packet.serialize (Nat.zero_le 253) List.not_mem_nil⟩, size⟩

/-- The packets of a stream fit, and the decoder reads them back from their frames. -/
structure Readable (fromBytesCobs : List UInt8 → Option TracePacket) (packet : TracePacket) :
    Prop where
  size : (cobsFrame packet.serialize).length ≤ maxPacketSize
  fits : packet.data.LengthsFit
  decodes : fromBytesCobs (cobsFrame packet.serialize) = some packet

namespace Connection

variable {accumulator : CobsAccumulator} (peer : Peer) (connection : Connection accumulator)

/-- A packet whose lengths fit is reported. -/
theorem process_ok {packet : TracePacket} (fits : packet.data.LengthsFit) :
    ∃ record cache, connection.process peer packet = .ok (.ok { connection with
        threadNameCache := cache
        sent := connection.sent ++ [record] }) ∧
      cache.Keeps connection.threadNameCache ∧ Reports peer cache packet record := by
  have small : ¬ 9223372036854775808000000000 ≤
      Reading.unixEpoch.nanos + (Duration.fromNanos packet.timestamp).nanos := by
    have bound := packet.timestamp.toNat_lt
    simp only [Reading.unixEpoch, Duration.fromNanos]
    omega
  obtain ⟨data, converted⟩ := (fromTraceData_isOk_iff packet.data).mpr fits
  have summed : Reading.unixEpoch.add (Duration.fromNanos packet.timestamp) = .ok _ :=
    dif_neg small
  have epoch : Reading.unixEpoch.nanos + (Duration.fromNanos packet.timestamp).nanos =
      packet.timestamp.toNat := Int.zero_add _
  simp only [process, decodePacket, summed, converted]
  cases sender : packet.process with
  | none =>
      refine ⟨_, _, rfl, .refl _, epoch, rfl, fun _ => rfl, fun given same => ?_, converted⟩
      rw [sender] at same
      cases same
  | some given =>
      have keeps := connection.threadNameCache.get_keeps given.tid
        (peer.comm connection.sent.length given.tid)
      refine ⟨_, _, rfl, keeps.1, epoch, rfl, fun same => ?_, fun other same => ?_, converted⟩
      · rw [sender] at same
        cases same
      · rw [sender] at same
        cases same
        exact ⟨_, keeps.2, rfl⟩

variable {held : accumulator.Buffer → List UInt8}
  {fromBytesCobs : List UInt8 → Option TracePacket}

theorem feed_nil :
    connection.feed peer [] = (connection, .goOn) := by
  rw [feed, dif_pos rfl]

/-- The bytes of an unfinished frame are held. -/
theorem feed_unfinished (documented : accumulator.Documented held fromBytesCobs)
    {input piece : List UInt8} (split : held connection.cobsBuffer ++ input = piece)
    (unfinished : Unfinished 0 maxPacketSize piece) :
    ∃ buffer, connection.feed peer input = ({ connection with cobsBuffer := buffer }, .goOn) ∧
      held buffer = piece := by
  by_cases empty : input = []
  · rw [empty, List.append_nil] at split
    rw [empty, feed_nil]
    exact ⟨connection.cobsBuffer, rfl, split⟩
  · have absent : (0 : UInt8) ∉ input := by
      intro member
      rw [← split] at unfinished
      exact unfinished.absent (List.mem_append_right _ member)
    have room : (held connection.cobsBuffer).length + input.length ≤ readBufferSize := by
      rw [← List.length_append, split]
      have size := unfinished.bounded
      unfold readBufferSize
      omega
    obtain ⟨buffer, fed, holds⟩ := documented.pending connection.cobsBuffer input empty absent room
    refine ⟨buffer, ?_, holds.trans split⟩
    rw [feed, dif_neg empty, fed]

/-- The first frame of the bytes is a packet, and the others follow it. -/
theorem feed_frame (documented : accumulator.Documented held fromBytesCobs) {packet : TracePacket}
    (readable : Readable fromBytesCobs packet) {input later : List UInt8}
    (absent : (0 : UInt8) ∉ held connection.cobsBuffer)
    (split : held connection.cobsBuffer ++ input = cobsFrame packet.serialize ++ later) :
    ∃ buffer cache record, connection.feed peer input =
        feed peer ⟨buffer, cache, connection.sent ++ [record]⟩ later ∧
      held buffer = [] ∧ cache.Keeps connection.threadNameCache ∧
        Reports peer cache packet record := by
  obtain ⟨body, frame, clear⟩ := (delimited_frame readable.size).body
  have reads := split
  rw [frame, List.append_assoc, List.singleton_append] at reads
  obtain ⟨chunk, rfl, rfl⟩ := split_at_delimiter absent reads
  have size := readable.size
  have room : (held connection.cobsBuffer).length + (chunk.length + 1) ≤ readBufferSize := by
    rw [frame, List.length_append, List.length_append, List.length_singleton] at size
    unfold readBufferSize
    omega
  obtain ⟨buffer, fed, holds⟩ := documented.complete connection.cobsBuffer chunk later
    (fun member => clear (List.mem_append_right _ member)) room
  rw [← frame, readable.decodes, FeedResult.ofFrame] at fed
  obtain ⟨record, cache, processed, keeps, reports⟩ :=
    process_ok peer { connection with cobsBuffer := buffer } readable.fits
  refine ⟨buffer, cache, record, ?_, holds, keeps, reports⟩
  rw [feed, dif_neg (by simp), fed]
  dsimp only
  rw [processed]

/-- The bytes of some frames and an unfinished one are reported up to the last frame. -/
theorem feed_frames (documented : accumulator.Documented held fromBytesCobs)
    {packets : List TracePacket} (readable : ∀ packet ∈ packets, Readable fromBytesCobs packet)
    {input piece : List UInt8} (absent : (0 : UInt8) ∉ held connection.cobsBuffer)
    (unfinished : Unfinished 0 maxPacketSize piece)
    (split : held connection.cobsBuffer ++ input =
      packets.flatMap (fun packet => cobsFrame packet.serialize) ++ piece) :
    ∃ buffer cache records, connection.feed peer input =
        (⟨buffer, cache, connection.sent ++ records⟩, .goOn) ∧
      held buffer = piece ∧ cache.Keeps connection.threadNameCache ∧
        List.Forall₂ (Reports peer cache) packets records := by
  induction packets generalizing connection input with
  | nil =>
      obtain ⟨buffer, fed, holds⟩ := feed_unfinished peer connection documented split unfinished
      refine ⟨buffer, connection.threadNameCache, [], ?_, holds, .refl _, .nil⟩
      rw [fed, List.append_nil]
  | cons packet rest ih =>
      rw [List.flatMap_cons, List.append_assoc] at split
      obtain ⟨buffer, cache, record, fed, empty, keeps, reports⟩ :=
        feed_frame peer connection documented (readable packet List.mem_cons_self) absent split
      obtain ⟨last, final, records, later, holds, kept, reported⟩ :=
        ih ⟨buffer, cache, connection.sent ++ [record]⟩
          (fun other member => readable other (List.mem_cons_of_mem _ member))
          (by rw [empty]; exact List.not_mem_nil) (by rw [empty, List.nil_append])
      refine ⟨last, final, record :: records, ?_, holds, kept.trans keeps,
        .cons (reports.mono kept) reported⟩
      rw [fed, later, List.append_assoc]
      rfl

/-- The bytes that are read before the connection ends. -/
def received : List ReadAnswer → List UInt8
  | .data bytes :: answers => bytes ++ received answers
  | .wouldBlock :: answers => received answers
  | _ => []

/-- The loop ends at a closed connection or at an error. -/
def flowOf : List ReadAnswer → Flow
  | [] => .goOn
  | .data _ :: answers => flowOf answers
  | .wouldBlock :: answers => flowOf answers
  | _ => .ended

/-- The loop ends after the packets whose frames are read as a whole. -/
def ReadsFrames (peer : Peer) (connection : Connection accumulator) (answers : List ReadAnswer)
    (packets : List TracePacket) (ends : accumulator.Buffer → Prop) : Prop :=
  ∃ buffer cache records, connection.readLoop peer answers =
      (⟨buffer, cache, connection.sent ++ records⟩, flowOf answers) ∧
    ends buffer ∧ cache.Keeps connection.threadNameCache ∧
      List.Forall₂ (Reports peer cache) packets records

/-- Bytes without a zero are no frame. -/
theorem no_frames {packets : List TracePacket} {bytes piece : List UInt8}
    (readable : ∀ packet ∈ packets, Readable fromBytesCobs packet) (absent : (0 : UInt8) ∉ bytes)
    (split : bytes = packets.flatMap (fun packet => cobsFrame packet.serialize) ++ piece) :
    packets = [] ∧ bytes = piece := by
  cases packets with
  | nil => exact ⟨rfl, split⟩
  | cons packet rest =>
      obtain ⟨body, frame, -⟩ := (delimited_frame (readable packet List.mem_cons_self).size).body
      rw [split, List.flatMap_cons, frame] at absent
      simp at absent

/-- No packet is reported if nothing is read. -/
theorem readsFrames_none {packets : List TracePacket} {answers : List ReadAnswer}
    {part : List UInt8} (readable : ∀ packet ∈ packets, Readable fromBytesCobs packet)
    (absent : (0 : UInt8) ∉ held connection.cobsBuffer)
    (split : held connection.cobsBuffer ++ [] =
      packets.flatMap (fun packet => cobsFrame packet.serialize) ++ part)
    (stops : connection.readLoop peer answers = (connection, flowOf answers)) :
    ReadsFrames peer connection answers packets fun buffer => held buffer = part := by
  rw [List.append_nil] at split
  obtain ⟨rfl, holds⟩ := no_frames readable absent split
  refine ⟨connection.cobsBuffer, connection.threadNameCache, [], ?_, holds, .refl _, .nil⟩
  rw [stops, List.append_nil]

/-- The records do not depend on how the bytes are read. -/
theorem readLoop_frames (documented : accumulator.Documented held fromBytesCobs)
    {packets : List TracePacket} (readable : ∀ packet ∈ packets, Readable fromBytesCobs packet)
    {answers : List ReadAnswer} {part : List UInt8}
    (absent : (0 : UInt8) ∉ held connection.cobsBuffer)
    (unfinished : Unfinished 0 maxPacketSize part)
    (split : held connection.cobsBuffer ++ received answers =
      packets.flatMap (fun packet => cobsFrame packet.serialize) ++ part) :
    ReadsFrames peer connection answers packets fun buffer => held buffer = part := by
  induction answers generalizing connection packets with
  | nil => exact readsFrames_none peer connection readable absent split rfl
  | cons answer answers ih =>
      cases answer with
      | closed => exact readsFrames_none peer connection readable absent split rfl
      | failed => exact readsFrames_none peer connection readable absent split rfl
      | wouldBlock => exact ih connection readable absent split
      | data bytes =>
          rw [received, ← List.append_assoc] at split
          obtain ⟨done, others, piece, rfl, first, short, second⟩ := cut_frames
            (fun packet member => delimited_frame (readable packet member).size) unfinished split
          obtain ⟨buffer, cache, records, fed, holds, keeps, reports⟩ := feed_frames peer
            connection documented
              (fun packet member => readable packet (List.mem_append_left _ member))
            absent short first
          rw [← holds] at short second
          obtain ⟨last, final, others, looped, ends, kept, reported⟩ :=
            ih ⟨buffer, cache, connection.sent ++ records⟩
              (fun packet member => readable packet (List.mem_append_right _ member))
              short.absent second
          refine ⟨last, final, records ++ others, ?_, ends, kept.trans keeps, ?_⟩
          · rw [readLoop, fed]
            dsimp only
            rw [looped, List.append_assoc]
            rfl
          · exact List.rel_append (reports.imp fun packet record told => told.mono kept) reported

end Connection

/-- The record for the start of a process. -/
def Peer.exec (peer : Peer) (now : SystemTime) : TraceRecord :=
  ⟨now, ⟨peer.pid, peer.name⟩, none, .exec⟩

/-- The record for the end of a process. -/
def Peer.exit (peer : Peer) (now : SystemTime) : TraceRecord :=
  ⟨now, ⟨peer.pid, none⟩, none, .exit⟩

/-- The records of a connection stand between the start and the end of its process. -/
def Peer.report (peer : Peer) (started ended : SystemTime) (records : List TraceRecord) :
    Flow → List TraceRecord × Flow
  | .ended => (peer.exec started :: records ++ [peer.exit ended], .ended)
  | flow => (peer.exec started :: records, flow)

section Report

variable {accumulator : CobsAccumulator} {held : accumulator.Buffer → List UInt8}
  {fromBytesCobs : List UInt8 → Option TracePacket}

/-- The connection reports the packets whose frames have arrived as a whole. -/
theorem connection_frames (documented : accumulator.Documented held fromBytesCobs)
    {packets : List TracePacket} (readable : ∀ packet ∈ packets, Readable fromBytesCobs packet)
    {answers : List ReadAnswer}
    (arrived : Connection.received answers <+:
      packets.flatMap fun packet => cobsFrame packet.serialize)
    (peer : Peer) (started ended : SystemTime) :
    ∃ cache records,
      List.Forall₂ (Reports peer cache)
        (packets.take ((Connection.received answers).count 0)) records ∧
      connection accumulator peer started ended answers =
        peer.report started ended records (Connection.flowOf answers) := by
  obtain ⟨second, split⟩ := arrived
  have frames (packet : TracePacket) (member : packet ∈ packets) :=
    delimited_frame (readable packet member).size
  obtain ⟨done, rest, piece, rfl, first, short, -⟩ := cut_frames frames (.nil 0 maxPacketSize)
    (split.trans (List.append_nil _).symm)
  have whole : (done ++ rest).take ((Connection.received answers).count 0) = done := by
    rw [first, count_frames (fun packet member => frames packet (List.mem_append_left _ member))
      short, List.take_left]
  obtain ⟨buffer, cache, records, looped, -, -, reports⟩ := Connection.readLoop_frames
    peer (Connection.start accumulator peer started) documented
    (fun packet member => readable packet (List.mem_append_left _ member))
    (by rw [Connection.start, documented.new]; exact List.not_mem_nil) short
    (by rw [Connection.start, documented.new, List.nil_append, first])
  refine ⟨cache, records, ?_, ?_⟩
  · rw [whole]
    exact reports
  · rw [connection, looped]
    cases Connection.flowOf answers <;> rfl

end Report

end Feo.Tracing
