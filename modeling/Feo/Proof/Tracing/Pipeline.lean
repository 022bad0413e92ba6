import Feo.Proof.Tracing.Connection
import Feo.Proof.Tracing.Wire
import Mathlib.Data.List.TakeWhile

namespace Feo.Tracing

open Foundation
open Data (RecordEventInfo RecordData TraceRecord lossyText)

/-- A text is cut to the size of its array. -/
def shown (text : List Char) : List Char :=
  fromUtf8Lossy ((utf8Bytes text).take (truncLen text maxInfoSize))

/-- The last string field is shown with its name. -/
def shownField (info : RecordEventInfo) (field : List Char × FieldValue) : RecordEventInfo :=
  match field.2 with
  | .str value => ⟨some (shown field.1), shown value⟩
  | .debug => info

def shownInfo (fields : List (List Char × FieldValue)) : RecordEventInfo :=
  fields.foldl shownField .default

namespace Subscriber

/-- A call is shown with its identifiers and its texts. -/
def Call.shown : Call → RecordData
  | .newSpan id name fields => .newSpan id (Tracing.shown name) (shownInfo fields)
  | .record span => .record span
  | .event currentSpan name fields => .event currentSpan (Tracing.shown name) (shownInfo fields)
  | .enter span => .enterSpan span
  | .exit span => .exitSpan span

/-- The calls that enter and exit a span do not name their thread. -/
def Call.sender (this : Process) : Call → Option Process
  | .enter _ => none
  | .exit _ => none
  | _ => some this

end Subscriber

/-- The length of a text that is cut keeps its value on the wire. -/
theorem truncLen_toNat (text : List Char) :
    (UInt64.ofNat (truncLen text maxInfoSize)).toNat = truncLen text maxInfoSize := by
  have bound := truncLen_le text maxInfoSize
  unfold maxInfoSize at bound ⊢
  rw [UInt64.toNat_ofNat']
  omega

/-- The text that is read from an array is the text that was cut into it. -/
theorem lossyText_cloneFromSlice (text : List Char) (buffer : Bytes maxInfoSize) :
    lossyText (buffer.cloneFromSlice ((utf8Bytes text).take (truncLen text maxInfoSize)))
      (UInt64.ofNat (truncLen text maxInfoSize)) = .ok (shown text) := by
  have length : ((utf8Bytes text).take (truncLen text maxInfoSize)).length =
      truncLen text maxInfoSize := by
    rw [List.length_take, Nat.min_eq_left (truncLen_le_bytes text maxInfoSize)]
  have fits : ((utf8Bytes text).take (truncLen text maxInfoSize)).length ≤ maxInfoSize := by
    rw [length]
    exact truncLen_le text maxInfoSize
  rw [lossyText, truncLen_toNat, Bytes.cloneFromSlice_bytes buffer fits, sliceTo_ok, shown]
  · show Except.ok (fromUtf8Lossy _) = _
    rw [List.take_append_of_le_length (by rw [length]), List.take_take, Nat.min_self]
  · rw [List.length_append, length]
    omega

theorem shown_nil : shown [] = [] := rfl

/-- A wider character at the end of the array is shown as a replacement. -/
theorem shown_of_lastStarted {text front back : List Char} {last : Char}
    (found : LastStarted maxInfoSize text front last back) :
    shown text = front ++ [if last.utf8Size = 1 then last else Char.ofNat 0xFFFD] := by
  have positive := last.utf8Size_pos
  obtain ⟨first, rest, starts⟩ : ∃ first rest, String.utf8EncodeChar last = first :: rest := by
    apply List.exists_cons_of_ne_nil
    apply List.ne_nil_of_length_pos
    rw [String.length_utf8EncodeChar]
    exact positive
  have cut : (utf8Bytes text).take (truncLen text maxInfoSize) = utf8Bytes front ++ [first] := by
    rw [truncLen_of_lastStarted found, found.split, utf8Bytes_append, utf8Bytes_cons, starts,
      List.take_length_add_append]
    rfl
  rw [shown, cut]
  split
  · next narrow =>
      have alone : utf8Bytes [last] = [first] := by
        have size : (String.utf8EncodeChar last).length = 1 := by
          rw [String.length_utf8EncodeChar, narrow]
        rw [starts, List.length_cons, Nat.succ.injEq, List.length_eq_zero_iff] at size
        rw [utf8Bytes_cons, starts, size]
        rfl
      rw [← alone, ← utf8Bytes_append, fromUtf8Lossy_utf8Bytes]
  · next wide => exact fromUtf8Lossy_cut wide starts

/-- The tracer shows the characters before the last one that starts in the array, and this one or
a replacement. -/
theorem lossyText_truncate (text : List Char) (buffer : Bytes maxInfoSize) :
    ∃ len written shownText, truncate text buffer = .ok (len, written) ∧
      lossyText written (UInt64.ofNat len) = .ok shownText ∧ (text = [] → shownText = []) ∧
      ∀ front last back, LastStarted maxInfoSize text front last back →
        shownText = front ++ [if last.utf8Size = 1 then last else Char.ofNat 0xFFFD] := by
  refine ⟨_, _, shown text, truncate_ok text buffer, lossyText_cloneFromSlice text buffer, ?_, ?_⟩
  · rintro rfl
    exact shown_nil
  · intro front last back found
    exact shown_of_lastStarted found

theorem fromEventInfo_default : RecordEventInfo.fromEventInfo .default = .ok .default := rfl

/-- A string field replaces the name and the value. -/
theorem recordStr_shown (info : EventInfo) (field value : List Char) :
    ∃ next, info.recordStr field value = .ok next ∧
      RecordEventInfo.fromEventInfo next = .ok ⟨some (shown field), shown value⟩ := by
  rw [EventInfo.recordStr, truncate_ok]
  simp only [bind, Except.bind, pure, Except.pure, truncate_ok]
  refine ⟨_, rfl, ?_⟩
  rw [RecordEventInfo.fromEventInfo]
  simp only [RecordEventInfo.nameOf, lossyText_cloneFromSlice, Functor.map, Except.map, bind,
    Except.bind, pure, Except.pure]

theorem recordField_shown {info : EventInfo} {seen : RecordEventInfo}
    (sees : RecordEventInfo.fromEventInfo info = .ok seen) (field : List Char × FieldValue) :
    ∃ next, info.recordField field = .ok next ∧
      RecordEventInfo.fromEventInfo next = .ok (shownField seen field) := by
  rw [EventInfo.recordField, shownField]
  cases field.2 with
  | str value => exact recordStr_shown info field.1 value
  | debug => exact ⟨info, rfl, sees⟩

/-- The info that is visited is the info that is shown. -/
theorem visit_shown (fields : List (List Char × FieldValue)) {info : EventInfo}
    {seen : RecordEventInfo} (sees : RecordEventInfo.fromEventInfo info = .ok seen) :
    ∃ final, info.visit fields = .ok final ∧
      RecordEventInfo.fromEventInfo final = .ok (fields.foldl shownField seen) := by
  induction fields generalizing info seen with
  | nil => exact ⟨info, rfl, sees⟩
  | cons field rest ih =>
      obtain ⟨next, recorded, shows⟩ := recordField_shown sees field
      obtain ⟨final, visited, last⟩ := ih shows
      refine ⟨final, ?_, last⟩
      rw [EventInfo.visit, List.foldlM_cons, recorded]
      exact visited

namespace Subscriber

/-- A built packet tells its call. -/
structure Built (request : Request) (packet : TracePacket) : Prop where
  short : packet.data.serialize.length ≤ 106
  timestamp : packet.timestamp = request.timestamp
  process : packet.process = request.call.sender request.this
  data : RecordData.fromTraceData packet.data = .ok request.call.shown

/-- The name of a span or an event is cut into a fresh array. -/
def stored (name : List Char) : Bytes maxInfoSize :=
  (Bytes.zero maxInfoSize).cloneFromSlice ((utf8Bytes name).take (truncLen name maxInfoSize))

theorem build_shown (request : Request) : ∃ packet, build request = .ok packet ∧
    packet.timestamp = request.timestamp ∧
      packet.process = request.call.sender request.this ∧
        RecordData.fromTraceData packet.data = .ok request.call.shown := by
  obtain ⟨timestamp, this, call⟩ := request
  cases call with
  | newSpan id name fields =>
      obtain ⟨info, visited, shows⟩ := visit_shown fields fromEventInfo_default
      refine ⟨⟨timestamp, some this, .newSpan id (stored name)
        (UInt64.ofNat (truncLen name maxInfoSize)) info⟩, ?_, rfl, rfl, ?_⟩
      · show newSpan timestamp this id name fields = _
        rw [newSpan, truncate_ok, visited]
        rfl
      · rw [RecordData.fromTraceData, shows, stored, lossyText_cloneFromSlice]
        rfl
  | record span => exact ⟨_, rfl, rfl, rfl, rfl⟩
  | event currentSpan name fields =>
      obtain ⟨info, visited, shows⟩ := visit_shown fields fromEventInfo_default
      refine ⟨⟨timestamp, some this, .event currentSpan (stored name)
        (UInt64.ofNat (truncLen name maxInfoSize)) info⟩, ?_, rfl, rfl, ?_⟩
      · show event timestamp this currentSpan name fields = _
        rw [event, truncate_ok, visited]
        rfl
      · rw [RecordData.fromTraceData, shows, stored, lossyText_cloneFromSlice]
        rfl
  | enter span => exact ⟨_, rfl, rfl, rfl, rfl⟩
  | exit span => exact ⟨_, rfl, rfl, rfl, rfl⟩

theorem build_built (request : Request) :
    ∃ packet, build request = .ok packet ∧ Built request packet := by
  obtain ⟨packet, built, short⟩ := build_short request
  obtain ⟨other, same, timestamp, process, data⟩ := build_shown request
  rw [built] at same
  cases same
  exact ⟨packet, built, short, timestamp, process, data⟩

/-- The requests of a process build its packets in order. -/
theorem mapM_built (requests : List Request) :
    ∃ packets, requests.mapM build = .ok packets ∧ List.Forall₂ Built requests packets := by
  induction requests with
  | nil => exact ⟨[], rfl, .nil⟩
  | cons request rest ih =>
      obtain ⟨packets, all, tells⟩ := ih
      obtain ⟨packet, one, first⟩ := build_built request
      refine ⟨packet :: packets, ?_, .cons first tells⟩
      rw [List.mapM_cons, one, all]
      rfl

/-- The bytes that are handed to the socket. -/
def Handling.bytes : Handling → List UInt8
  | .written serialized => serialized
  | .failed serialized => serialized
  | .dropped _ => []

/-- The thread writes the frames of its packets up to the first failure. -/
theorem threadMain_bytes {received : List (TracePacket × Bool)}
    (short : ∀ entry ∈ received, entry.1.data.serialize.length ≤ 106) :
    (threadMain received).flatMap Handling.bytes <+:
      (received.map Prod.fst).flatMap fun packet => cobsFrame packet.serialize := by
  induction received with
  | nil => exact List.prefix_rfl
  | cons entry rest ih =>
      have later := ih fun other member => short other (List.mem_cons_of_mem _ member)
      rw [threadMain, toSliceCobs_ok entry.1 (short entry List.mem_cons_self), List.map_cons,
        List.flatMap_cons]
      cases entry.2 with
      | true => exact (List.prefix_append_right_inj _).mpr later
      | false => exact ⟨_, by simp [Handling.bytes]; rfl⟩

/-- A record shows what a thread has told the subscriber. -/
structure Shows (peer : Peer) (cache : Data.ThreadNameCache) (request : Request)
    (record : TraceRecord) : Prop where
  timestamp : record.timestamp.nanos = request.timestamp.toNat
  process : record.process = ⟨peer.pid, peer.name⟩
  anonymous : request.call.sender request.this = none → record.thread = none
  named : ∀ given, request.call.sender request.this = some given →
    ∃ name, cache.names.get? given.tid = some name ∧ record.thread = some ⟨given.tid, name⟩
  data : record.data = request.call.shown

variable {accumulator : CobsAccumulator} {held : accumulator.Buffer → List UInt8}
  {fromBytesCobs : List UInt8 → Option TracePacket}

theorem Built.readable {request : Request} {packet : TracePacket} (built : Built request packet)
    (decodes : fromBytesCobs (cobsFrame packet.serialize) = some packet) :
    Readable fromBytesCobs packet where
  size := by
    have sliced := toSliceCobs_ok packet built.short
    rw [toSliceCobs] at sliced
    by_contra large
    rw [if_neg large] at sliced
    cases sliced
  fits := (fromTraceData_isOk_iff packet.data).mp ⟨_, built.data⟩
  decodes := decodes

theorem Built.shows {peer : Peer} {cache : Data.ThreadNameCache} {request : Request}
    {packet : TracePacket} {record : TraceRecord} (built : Built request packet)
    (reports : Reports peer cache packet record) : Shows peer cache request record where
  timestamp := by rw [reports.timestamp, built.timestamp]
  process := reports.process
  anonymous := by
    rw [← built.process]
    exact reports.anonymous
  named := by
    rw [← built.process]
    exact reports.named
  data := by
    have converted := reports.data
    rw [built.data] at converted
    exact (Except.ok.inj converted).symm

/-- The reports of built packets show their requests. -/
theorem shows_of_reports {peer : Peer} {cache : Data.ThreadNameCache} {requests : List Request}
    {packets : List TracePacket} {records : List TraceRecord}
    (built : List.Forall₂ Built requests packets)
    (reports : List.Forall₂ (Reports peer cache) packets records) :
    List.Forall₂ (Shows peer cache) requests records := by
  induction built generalizing records with
  | nil =>
      cases reports
      exact .nil
  | cons first _ ih =>
      cases reports with
      | cons reported others => exact .cons (first.shows reported) (ih others)

theorem exists_built {requests : List Request} {packets : List TracePacket}
    (built : List.Forall₂ Built requests packets) :
    ∀ packet ∈ packets, ∃ request, Built request packet := by
  induction built with
  | nil => simp
  | cons first _ ih =>
      intro packet member
      rcases List.mem_cons.mp member with rfl | later
      · exact ⟨_, first⟩
      · exact ih packet later

/-- The packets of a process are readable, and their data are short. -/
theorem handled_readable {requests : List Request} {handled : List (TracePacket × Bool)}
    (built : requests.mapM build = .ok (handled.map Prod.fst))
    (decodes : ∀ entry ∈ handled, fromBytesCobs (cobsFrame entry.1.serialize) = some entry.1) :
    List.Forall₂ Built requests (handled.map Prod.fst) ∧
      (∀ packet ∈ handled.map Prod.fst, Readable fromBytesCobs packet) ∧
        ∀ entry ∈ handled, entry.1.data.serialize.length ≤ 106 := by
  obtain ⟨packets, same, tells⟩ := mapM_built requests
  rw [built] at same
  cases same
  have entries (entry : TracePacket × Bool) (member : entry ∈ handled) :
      ∃ request, Built request entry.1 :=
    exists_built tells entry.1 (List.mem_map_of_mem member)
  refine ⟨tells, ?_, ?_⟩
  · intro packet member
    obtain ⟨entry, inside, rfl⟩ := List.mem_map.mp member
    obtain ⟨request, tell⟩ := entries entry inside
    exact tell.readable (decodes entry inside)
  · intro entry member
    obtain ⟨request, tell⟩ := entries entry member
    exact tell.short

/-- The tracer shows the calls of a process in order, as far as their frames have arrived. -/
theorem pipeline_shows (documented : accumulator.Documented held fromBytesCobs)
    {requests : List Request} {handled : List (TracePacket × Bool)}
    (built : requests.mapM build = .ok (handled.map Prod.fst))
    (decodes : ∀ entry ∈ handled, fromBytesCobs (cobsFrame entry.1.serialize) = some entry.1)
    {answers : List ReadAnswer}
    (arrived : Connection.received answers <+: (threadMain handled).flatMap Handling.bytes)
    (peer : Peer) (started ended : SystemTime) :
    ∃ cache records,
      List.Forall₂ (Shows peer cache)
        (requests.take ((Connection.received answers).count 0)) records ∧
      connection accumulator peer started ended answers =
        peer.report started ended records (Connection.flowOf answers) := by
  obtain ⟨tells, readable, short⟩ := handled_readable built decodes
  obtain ⟨cache, records, reports, connected⟩ := connection_frames documented readable
    (arrived.trans (threadMain_bytes short)) peer started ended
  exact ⟨cache, records, shows_of_reports (List.forall₂_take _ tells) reports, connected⟩

end Subscriber

/-- The plain accumulator takes the bytes up to the first zero. -/
def plainFeed (fromBytesCobs : List UInt8 → Option TracePacket) (held input : List UInt8) :
    FeedResult × List UInt8 :=
  let chunk := input.takeWhile (· ≠ 0)
  match input.dropWhile (· ≠ 0) with
  | [] =>
      if held.length + chunk.length ≤ readBufferSize then (.consumed, held ++ chunk)
      else (.overFull [], [])
  | _ :: rest =>
      if held.length + (chunk.length + 1) ≤ readBufferSize then
        (.ofFrame rest (fromBytesCobs (held ++ chunk ++ [0])), [])
      else (.overFull rest, [])

theorem plainFeed_takes (fromBytesCobs : List UInt8 → Option TracePacket)
    (held input : List UInt8) (some : input ≠ []) :
    (plainFeed fromBytesCobs held input).1.remaining.length < input.length := by
  have positive := List.length_pos_iff.mpr some
  have parts := (List.dropWhile_suffix (l := input) (· ≠ 0)).length_le
  unfold plainFeed
  cases behind : input.dropWhile (· ≠ 0) with
  | nil =>
      dsimp only
      split <;> exact positive
  | cons first rest =>
      rw [behind, List.length_cons] at parts
      dsimp only
      split
      · rw [FeedResult.remaining_ofFrame]
        exact parts
      · exact positive

def plainAccumulator (fromBytesCobs : List UInt8 → Option TracePacket) : CobsAccumulator where
  Buffer := List UInt8
  new := []
  feedRef := plainFeed fromBytesCobs
  takes := plainFeed_takes fromBytesCobs

theorem plainAccumulator_documented (fromBytesCobs : List UInt8 → Option TracePacket) :
    (plainAccumulator fromBytesCobs).Documented id fromBytesCobs where
  new := rfl
  pending := by
    intro (buffer : List UInt8) input _ absent room
    have nonzero : ∀ byte ∈ input, decide (byte ≠ 0) = true := by
      intro byte member
      exact decide_eq_true fun zero => absent (zero ▸ member)
    refine ⟨buffer ++ input, ?_, rfl⟩
    show plainFeed fromBytesCobs buffer input = _
    rw [plainFeed, List.takeWhile_eq_self_iff.mpr nonzero, List.dropWhile_eq_nil_iff.mpr nonzero]
    exact if_pos room
  complete := by
    intro (buffer : List UInt8) chunk rest absent room
    have nonzero : ∀ byte ∈ chunk, decide (byte ≠ 0) = true := by
      intro byte member
      exact decide_eq_true fun zero => absent (zero ▸ member)
    refine ⟨[], ?_, rfl⟩
    show plainFeed fromBytesCobs buffer (chunk ++ 0 :: rest) = _
    have front : (chunk ++ 0 :: rest).takeWhile (· ≠ 0) = chunk := by
      rw [List.takeWhile_append_of_pos nonzero, List.takeWhile_cons_of_neg (by simp),
        List.append_nil]
    have behind : (chunk ++ 0 :: rest).dropWhile (· ≠ 0) = 0 :: rest := by
      rw [List.dropWhile_append_of_pos nonzero, List.dropWhile_cons_of_neg (by simp)]
    have fits : buffer.length + (chunk.length + 1) ≤ readBufferSize := room
    unfold plainFeed
    simp only [front, behind, if_pos fits]
    rfl

/-- The decoder knows the frames of some packets. -/
def decodeFrom (packets : List TracePacket) (bytes : List UInt8) : Option TracePacket :=
  packets.find? fun packet => cobsFrame packet.serialize == bytes

theorem decodeFrom_frame {packets : List TracePacket} {packet : TracePacket}
    (member : packet ∈ packets) :
    decodeFrom packets (cobsFrame packet.serialize) = some packet := by
  have present : (decodeFrom packets (cobsFrame packet.serialize)).isSome := by
    rw [decodeFrom, List.find?_isSome]
    exact ⟨packet, member, beq_self_eq_true _⟩
  obtain ⟨found, decoded⟩ := Option.isSome_iff_exists.mp present
  rw [decoded]
  unfold decodeFrom at decoded
  have same := List.find?_some decoded
  rw [beq_iff_eq] at same
  rw [frame_prefixFree.injective same]

namespace Subscriber

/-- A thread creates a span and enters it. -/
def spanRequests : List Request :=
  [⟨5, ⟨1, 2⟩, .newSpan 7 ['s', 't', 'e', 'p'] []⟩, ⟨6, ⟨1, 2⟩, .enter 7⟩]

def spanHandled : List (TracePacket × Bool) :=
  [(⟨5, some ⟨1, 2⟩, .newSpan 7 (stored ['s', 't', 'e', 'p'])
      (UInt64.ofNat (truncLen ['s', 't', 'e', 'p'] maxInfoSize)) EventInfo.default⟩, true),
    (⟨6, none, .enter 7⟩, true)]

def spanBytes : List UInt8 := (threadMain spanHandled).flatMap Handling.bytes

/-- The bytes arrive in two parts. -/
def spanAnswers : List ReadAnswer :=
  [.data (spanBytes.take 100), .wouldBlock, .data (spanBytes.drop 100), .closed]

theorem received_spanAnswers : Connection.received spanAnswers = spanBytes := by
  simp [spanAnswers, Connection.received]

def spanPeer : Peer := ⟨1, none, fun _ _ => none⟩

theorem pipeline_shows_span : ∃ cache records,
    List.Forall₂ (Shows spanPeer cache)
      (spanRequests.take ((Connection.received spanAnswers).count 0)) records ∧
    connection (plainAccumulator (decodeFrom (spanHandled.map Prod.fst))) spanPeer
        Reading.unixEpoch Reading.unixEpoch spanAnswers =
      spanPeer.report Reading.unixEpoch Reading.unixEpoch records
        (Connection.flowOf spanAnswers) :=
  pipeline_shows (plainAccumulator_documented _) rfl
    (fun _ member => decodeFrom_frame (List.mem_map_of_mem member))
    (by rw [received_spanAnswers]; exact List.prefix_rfl) spanPeer Reading.unixEpoch
    Reading.unixEpoch

end Subscriber

end Feo.Tracing
