import Feo.Foundation.Split
import Feo.Proof.Tracing.Live

namespace Feo.Tracing

open Foundation
open Data (Thread RecordEventInfo RecordData TraceRecord)

/-- A descriptor belongs to a process, to a thread of a process, or to neither. -/
def Idl.TrackDescriptor.owner (descriptor : Idl.TrackDescriptor) :
    Option (Option Int32) × Option (Option Int32 × Option Int32) :=
  (descriptor.process.map Idl.ProcessDescriptor.pid,
    descriptor.thread.map fun thread => (thread.pid, thread.tid))

def processOwner (pid : UInt32) : Option (Option Int32) × Option (Option Int32 × Option Int32) :=
  (some (some pid.toInt32), none)

def threadOwner (pid tid : UInt32) :
    Option (Option Int32) × Option (Option Int32 × Option Int32) :=
  (none, some (some pid.toInt32, some tid.toInt32))

/-- The packet declares a track of the owner. -/
def Idl.TracePacket.Declares (packet : Idl.TracePacket) (uuid : Option UInt64)
    (owner : Option (Option Int32) × Option (Option Int32 × Option Int32)) : Prop :=
  ∃ descriptor, packet.data = .trackDescriptor descriptor ∧ descriptor.uuid = uuid ∧
    descriptor.owner = owner

/-- The packet has an event on the track. -/
def Idl.TracePacket.EventOn (packet : Idl.TracePacket) (uuid : Option UInt64) : Prop :=
  ∃ event, packet.data = .trackEvent event ∧ event.trackUuid = uuid

/-- Some packet declares the track. -/
def DeclaredIn (packets : List Idl.TracePacket) (uuid : Option UInt64) : Prop :=
  ∃ packet ∈ packets, ∃ owner, packet.Declares uuid owner

/-- The tracks of an output are declared before their events and have one owner each. -/
structure Consistent (packets : List Idl.TracePacket) : Prop where
  preceded : AtEach (fun front packet => ∀ uuid, packet.EventOn uuid → DeclaredIn front uuid)
    packets
  unique : ∀ first ∈ packets, ∀ second ∈ packets, ∀ uuid owner other,
    first.Declares uuid owner → second.Declares uuid other → owner = other

/-- A chunk declares a process and a thread before its events. -/
structure Chunk (trackUuid : UInt64) (pid tid : UInt32) (events : List Idl.TracePacket)
    (packets : List Idl.TracePacket) : Prop where
  shape : ∃ process thread, packets = process :: thread :: events ∧
    (∀ uuid owner, process.Declares uuid owner ↔ uuid = some trackUuid ∧ owner = processOwner pid) ∧
    ∀ uuid owner, thread.Declares uuid owner ↔
      uuid = some tid.toUInt64 ∧ owner = threadOwner pid tid
  declaring : ∀ packet ∈ events, ∃ uuid, packet.EventOn uuid

section Chunk

variable {trackUuid : UInt64} {pid tid : UInt32} {events packets written : List Idl.TracePacket}

theorem not_declares_of_eventOn {packet : Idl.TracePacket} {uuid other : Option UInt64}
    {owner : Option (Option Int32) × Option (Option Int32 × Option Int32)}
    (event : packet.EventOn uuid) : ¬ packet.Declares other owner := by
  rintro ⟨descriptor, data, -⟩
  obtain ⟨event, same, -⟩ := event
  rw [same] at data
  cases data

theorem declares_of_descriptor {packet : Idl.TracePacket} {descriptor : Idl.TrackDescriptor}
    (data : packet.data = .trackDescriptor descriptor) (uuid : Option UInt64)
    (owner : Option (Option Int32) × Option (Option Int32 × Option Int32)) :
    packet.Declares uuid owner ↔ uuid = descriptor.uuid ∧ owner = descriptor.owner := by
  constructor
  · rintro ⟨other, same, rfl, rfl⟩
    rw [data] at same
    cases same
    exact ⟨rfl, rfl⟩
  · rintro ⟨rfl, rfl⟩
    exact ⟨descriptor, data, rfl, rfl⟩

/-- A chunk grows by an event. -/
theorem Chunk.concat {packet : Idl.TracePacket} (chunk : Chunk trackUuid pid tid events packets)
    (event : ∃ uuid, packet.EventOn uuid) :
    Chunk trackUuid pid tid (events ++ [packet]) (packets ++ [packet]) := by
  obtain ⟨process, thread, rfl, first, second⟩ := chunk.shape
  refine ⟨⟨process, thread, rfl, first, second⟩, ?_⟩
  intro other member
  rcases List.mem_append.mp member with inside | last
  · exact chunk.declaring other inside
  · rw [List.mem_singleton.mp last]
    exact event

/-- A chunk declares its process and its thread only. -/
theorem Chunk.declares_iff (chunk : Chunk trackUuid pid tid events packets)
    (uuid : Option UInt64)
    (owner : Option (Option Int32) × Option (Option Int32 × Option Int32)) :
    (∃ packet ∈ packets, packet.Declares uuid owner) ↔
      uuid = some trackUuid ∧ owner = processOwner pid ∨
        uuid = some tid.toUInt64 ∧ owner = threadOwner pid tid := by
  obtain ⟨process, thread, rfl, first, second⟩ := chunk.shape
  have silent : ¬ ∃ packet ∈ events, packet.Declares uuid owner := by
    rintro ⟨packet, member, declares⟩
    obtain ⟨other, event⟩ := chunk.declaring packet member
    exact not_declares_of_eventOn event declares
  simp only [List.mem_cons, or_and_right, exists_or, exists_eq_left, first, second, silent,
    or_false]

theorem declaredIn_append (first second : List Idl.TracePacket) (uuid : Option UInt64) :
    DeclaredIn (first ++ second) uuid ↔ DeclaredIn first uuid ∨ DeclaredIn second uuid := by
  simp only [DeclaredIn, List.mem_append, or_and_right, exists_or]

theorem Chunk.declaredIn_iff (chunk : Chunk trackUuid pid tid events packets)
    (uuid : Option UInt64) :
    DeclaredIn packets uuid ↔ uuid = some trackUuid ∨ uuid = some tid.toUInt64 := by
  have declares := chunk.declares_iff uuid
  constructor
  · rintro ⟨packet, member, owner, declared⟩
    rcases (declares owner).mp ⟨packet, member, declared⟩ with ⟨same, -⟩ | ⟨same, -⟩
    · exact Or.inl same
    · exact Or.inr same
  · rintro (same | same)
    · obtain ⟨packet, member, declared⟩ := (declares _).mpr (Or.inl ⟨same, rfl⟩)
      exact ⟨packet, member, _, declared⟩
    · obtain ⟨packet, member, declared⟩ := (declares _).mpr (Or.inr ⟨same, rfl⟩)
      exact ⟨packet, member, _, declared⟩

/-- The events of a chunk are no declarations. -/
theorem Chunk.mem_events (chunk : Chunk trackUuid pid tid events packets)
    {packet : Idl.TracePacket} {uuid : Option UInt64} (member : packet ∈ packets)
    (event : packet.EventOn uuid) : packet ∈ events := by
  obtain ⟨process, thread, rfl, first, second⟩ := chunk.shape
  rcases List.mem_cons.mp member with rfl | member
  · exact absurd ((first _ _).mpr ⟨rfl, rfl⟩) (not_declares_of_eventOn event)
  · rcases List.mem_cons.mp member with rfl | member
    · exact absurd ((second _ _).mpr ⟨rfl, rfl⟩) (not_declares_of_eventOn event)
    · exact member

/-- The events of an appended chunk are preceded by the declarations of the output or of the
chunk. -/
theorem Chunk.preceded_iff (chunk : Chunk trackUuid pid tid events packets) :
    AtEach (fun front packet => ∀ uuid, packet.EventOn uuid → DeclaredIn front uuid)
        (written ++ packets) ↔
      AtEach (fun front packet => ∀ uuid, packet.EventOn uuid → DeclaredIn front uuid) written ∧
        ∀ packet ∈ events, ∀ uuid, packet.EventOn uuid →
          DeclaredIn written uuid ∨ uuid = some trackUuid ∨ uuid = some tid.toUInt64 := by
  obtain ⟨process, thread, rfl, first, second⟩ := chunk.shape
  have quiet (packet : Idl.TracePacket) (uuid : Option UInt64)
      (owner : Option (Option Int32) × Option (Option Int32 × Option Int32))
      (declares : packet.Declares uuid owner) (front : List Idl.TracePacket) :
      ∀ uuid, packet.EventOn uuid → DeclaredIn front uuid := by
    intro other event
    exact absurd declares (not_declares_of_eventOn event)
  have process_quiet := quiet process _ _ ((first _ _).mpr ⟨rfl, rfl⟩)
  have thread_quiet := quiet thread _ _ ((second _ _).mpr ⟨rfl, rfl⟩)
  rw [atEach_append, atEach_cons, atEach_cons]
  apply and_congr_right
  intro before
  rw [and_iff_right (process_quiet _), and_iff_right (thread_quiet _)]
  have part (front : List Idl.TracePacket) (inside : ∀ packet ∈ front, packet ∈ events)
      (uuid : Option UInt64) : DeclaredIn (written ++ process :: thread :: front) uuid ↔
        DeclaredIn written uuid ∨ uuid = some trackUuid ∨ uuid = some tid.toUInt64 := by
    have smaller : Chunk trackUuid pid tid front (process :: thread :: front) :=
      ⟨⟨process, thread, rfl, first, second⟩,
        fun packet member => chunk.declaring packet (inside packet member)⟩
    rw [declaredIn_append, smaller.declaredIn_iff]
  constructor
  · intro each packet member uuid event
    obtain ⟨front, back, rfl⟩ := List.append_of_mem member
    have declared := each front packet back rfl uuid event
    rwa [part front (by simp +contextual)] at declared
  · rintro all front packet back rfl uuid event
    rw [part front (by simp +contextual)]
    exact all packet (by simp) uuid event

end Chunk

namespace Data.TraceRecord

/-- The record comes from the thread. -/
def OnThread (tid : UInt32) (message : TraceRecord) : Prop :=
  ∃ thread, message.thread = some thread ∧ thread.id = tid

/-- The span is live behind the history. -/
def LiveIn (history : List TraceRecord) (pid : UInt32) (id : UInt64) : Prop :=
  Since (fun _ => Creates pid id) (Ends pid id) history

/-- The span is live behind the history and was created on the thread. -/
def LiveOn (history : List TraceRecord) (pid : UInt32) (id : UInt64) (tid : UInt32) : Prop :=
  Since (fun _ message => message.Creates pid id ∧ message.OnThread tid) (Ends pid id) history

/-- The record is an event of the thread in the live span. -/
def Joins (front : List TraceRecord) (pid : UInt32) (id : UInt64) (tid : UInt32)
    (message : TraceRecord) : Prop :=
  LiveIn front pid id ∧ message.process.id = pid ∧ message.EventIn (some id) ∧
    message.OnThread tid

/-- Some event of the thread is buffered in the live span. -/
def JoinsIn (history : List TraceRecord) (pid : UInt32) (id : UInt64) (tid : UInt32) : Prop :=
  Since (fun front => Joins front pid id tid) (Ends pid id) history

/-- The record exits a live span of the thread, or it is an event of the thread alone. -/
def Writes (front : List TraceRecord) (pid tid : UInt32) (message : TraceRecord) : Prop :=
  message.process.id = pid ∧
    ((∃ id, message.data = .exitSpan id ∧ LiveOn front pid id tid) ∨
      ∃ parentSpan, message.EventIn parentSpan ∧ message.OnThread tid ∧
        ∀ id, parentSpan = some id → ¬ LiveIn front pid id)

/-- Some record of the history has written a chunk of the thread. -/
def WrittenIn (history : List TraceRecord) (pid tid : UInt32) : Prop :=
  Once (fun front => Writes front pid tid) history

/-- All chunks come from one process. -/
def OneProcess (history : List TraceRecord) : Prop :=
  ∀ pid tid other thread, WrittenIn history pid tid → WrittenIn history other thread →
    pid = other

/-- The events in an exited span come from its thread or from threads with an earlier chunk. -/
def KnownThreads (front : List TraceRecord) (message : TraceRecord) : Prop :=
  ∀ id own tid, message.data = .exitSpan id → LiveOn front message.process.id id own →
    JoinsIn front message.process.id id tid → tid = own ∨ ∃ pid, WrittenIn front pid tid

end Data.TraceRecord

namespace Perfetto

open Data.TraceRecord (OnThread LiveIn LiveOn Joins JoinsIn Writes WrittenIn OneProcess
  KnownThreads)

/-- The span has an event of the thread. -/
def HasInstant (tid : UInt32) (span : Span) : Prop :=
  ∃ packet ∈ span.trace, ∃ event, packet.data = .trackEvent event ∧
    event.type = some .instant ∧ event.trackUuid = some tid.toUInt64

theorem toUInt64_inj_iff (first second : UInt32) :
    first.toUInt64 = second.toUInt64 ↔ first = second := by
  rw [← UInt64.toNat_inj, ← UInt32.toNat_inj, UInt32.toNat_toUInt64, UInt32.toNat_toUInt64]

section Step

variable {perfetto next : Perfetto} {message : TraceRecord} {pid tid : UInt32} {id : UInt64}

/-- A span keeps the thread that created it. -/
theorem thread_step (keyed : WellKeyed perfetto) (moved : Moved perfetto message next) :
    (∃ span, next.spans.get? (pid, id) = some span ∧ span.thread.id = tid) ↔
      (message.Creates pid id ∧ message.OnThread tid) ∨
        (∃ span, perfetto.spans.get? (pid, id) = some span ∧ span.thread.id = tid) ∧
          ¬ message.Ends pid id := by
  apply holds_step (fun span => span.thread.id = tid) _ keyed moved
  · intro name info thread creates given
    simp [creates, OnThread, given]
  · intro span packet own pushes found
    have other := @Uses.not_other _ _ pid _ id pushes.uses
    simp [other.1, Span.push]
  · rintro fresh - - ⟨creates, -⟩
    exact fresh creates
  · rintro ends ⟨creates, -⟩
    exact not_ends_of_creates creates ends

theorem hasInstant_push {span : Span} {packet : Idl.TracePacket} :
    HasInstant tid (span.push packet) ↔ HasInstant tid span ∨
      ∃ event, packet.data = .trackEvent event ∧ event.type = some .instant ∧
        event.trackUuid = some tid.toUInt64 := by
  simp only [HasInstant, Span.push, List.mem_append, List.mem_singleton, or_and_right, exists_or,
    exists_eq_left]

/-- A span gets the events of the threads that join it. -/
theorem instant_step (keyed : WellKeyed perfetto) (moved : Moved perfetto message next) :
    (∃ span, next.spans.get? (pid, id) = some span ∧ HasInstant tid span) ↔
      (Live perfetto pid id ∧ message.process.id = pid ∧ message.EventIn (some id) ∧
        message.OnThread tid) ∨
        (∃ span, perfetto.spans.get? (pid, id) = some span ∧ HasInstant tid span) ∧
          ¬ message.Ends pid id := by
  apply holds_step (HasInstant tid) _ keyed moved
  · intro name info thread creates given
    apply iff_of_false
    · simp [HasInstant, header, processDescriptor, threadDescriptor]
    · rintro ⟨-, -, event, -⟩
      exact not_eventIn_of_creates creates event
  · intro span packet own pushes found
    have alive : Live perfetto pid id := ⟨span, found⟩
    rw [hasInstant_push, or_comm]
    apply or_congr_left
    rcases pushes with ⟨data, rfl⟩ | ⟨name, info, thread, data, given, rfl⟩
    · simp [beginPacket, eventPacket, createEvent, TraceRecord.EventIn, data, asEvent]
    · have event : message.EventIn (some id) := ⟨name, info, data⟩
      simp [alive, own, event, OnThread, given, instantPacket, eventPacket, createEvent,
        toUInt64_inj_iff]
  · rintro fresh stays unused ⟨alive, own, event, -⟩
    exact not_live_iff.mpr (unused ⟨own, Or.inr event⟩) alive
  · rintro ends ⟨-, own, event, -⟩
    have uses : Uses pid id message := ⟨own, Or.inr event⟩
    exact uses.not_other.2.1 ends

/-- The trace of a span is a chunk whose events are on its thread or instants. -/
def Shaped (perfetto : Perfetto) : Prop :=
  ∀ pid id span, perfetto.spans.get? (pid, id) = some span →
    ∃ events, Chunk perfetto.trackUuid pid span.thread.id events span.trace ∧
      ∀ packet ∈ events, ∀ uuid, packet.EventOn uuid → uuid = some span.thread.id.toUInt64 ∨
        ∃ tid, HasInstant tid span ∧ uuid = some tid.toUInt64

theorem header_chunk (thread : Thread) :
    Chunk perfetto.trackUuid message.process.id thread.id [] (perfetto.header message thread) where
  shape := by
    refine ⟨_, _, rfl, ?_, ?_⟩
    · exact declares_of_descriptor (rfl : (perfetto.processDescriptor message.process.id
        message.process.name).data = .trackDescriptor _)
    · exact declares_of_descriptor (rfl : (threadDescriptor message.process.id thread.id
        thread.name).data = .trackDescriptor _)
  declaring := by simp

/-- The packet of an event is on one track. -/
theorem eventPacket_eventOn_iff {timestamp uuid : UInt64} {name : Option (List Char)}
    {annotations : Option (List Idl.DebugAnnotation)} {type : Option Idl.EventType}
    {other : Option UInt64} :
    (perfetto.eventPacket pid timestamp (createEvent uuid name annotations type)).EventOn other ↔
      other = some uuid := by
  simp [Idl.TracePacket.EventOn, eventPacket, createEvent, eq_comm]

/-- A pushed packet is on the thread of the span, or it is an instant of its own thread. -/
theorem pushes_eventOn {span : Span} {packet : Idl.TracePacket}
    (pushes : Pushes perfetto message id span packet) :
    ∃ uuid, packet.EventOn uuid ∧ ∀ other, packet.EventOn other →
      other = some span.thread.id.toUInt64 ∨
        ∃ tid, HasInstant tid (span.push packet) ∧ other = some tid.toUInt64 := by
  rcases pushes with ⟨data, rfl⟩ | ⟨name, info, thread, data, given, rfl⟩
  · refine ⟨_, eventPacket_eventOn_iff.mpr rfl, ?_⟩
    intro other event
    exact Or.inl (eventPacket_eventOn_iff.mp event)
  · refine ⟨_, eventPacket_eventOn_iff.mpr rfl, ?_⟩
    intro other event
    refine Or.inr ⟨thread.id, hasInstant_push.mpr (Or.inr ⟨_, rfl, rfl, rfl⟩), ?_⟩
    exact eventPacket_eventOn_iff.mp event

theorem trackUuid_step (moved : Moved perfetto message next) :
    next.trackUuid = perfetto.trackUuid := by
  cases moved <;> rfl

/-- Each record keeps the traces in shape. -/
theorem Shaped.step (shaped : Shaped perfetto) (keyed : WellKeyed perfetto)
    (moved : Moved perfetto message next) : Shaped next := by
  intro pid id span found
  rw [trackUuid_step moved]
  cases moved.span keyed pid id with
  | created name info thread creates given absent present =>
      rw [present] at found
      cases found
      obtain ⟨rfl, -⟩ := creates
      exact ⟨[], header_chunk thread, by simp⟩
  | ended ends absent =>
      rw [absent] at found
      cases found
  | pushed old packet own pushes before present =>
      rw [present] at found
      cases found
      obtain ⟨events, chunk, tracks⟩ := shaped pid id old before
      obtain ⟨uuid, event, track⟩ := pushes_eventOn pushes
      refine ⟨events ++ [packet], chunk.concat ⟨uuid, event⟩, ?_⟩
      intro other member uuid event
      rcases List.mem_append.mp member with inside | last
      · rcases tracks other inside uuid event with own | ⟨tid, instant, same⟩
        · exact Or.inl own
        · exact Or.inr ⟨tid, hasInstant_push.mpr (Or.inl instant), same⟩
      · rw [List.mem_singleton.mp last] at event
        exact track uuid event
  | kept fresh stays unused same =>
      rw [same] at found
      exact shaped pid id span found

end Step

/-- The spans of a run know the history. -/
structure Known (trackUuid : UInt64) (history : List TraceRecord) (perfetto : Perfetto) : Prop where
  uuid : perfetto.trackUuid = trackUuid
  keyed : WellKeyed perfetto
  live : ∀ pid id, Live perfetto pid id ↔ LiveIn history pid id
  thread : ∀ pid id tid,
    (∃ span, perfetto.spans.get? (pid, id) = some span ∧ span.thread.id = tid) ↔
      LiveOn history pid id tid
  instants : ∀ pid id tid,
    (∃ span, perfetto.spans.get? (pid, id) = some span ∧ HasInstant tid span) ↔
      JoinsIn history pid id tid
  shaped : Shaped perfetto

theorem known_new (trackUuid : UInt64) (sequenceId : UInt32) :
    Known trackUuid [] (new trackUuid sequenceId) where
  uuid := rfl
  keyed := wellKeyed_new trackUuid sequenceId
  live pid id := iff_of_false (not_live_new trackUuid sequenceId pid id) not_since_nil
  thread pid id tid := iff_of_false (by simp [new_get?]) not_since_nil
  instants pid id tid := iff_of_false (by simp [new_get?]) not_since_nil
  shaped := by
    intro pid id span found
    rw [new_get?] at found
    cases found

section Known

variable {trackUuid : UInt64} {history : List TraceRecord} {perfetto next : Perfetto}
  {message : TraceRecord}

theorem Known.step (known : Known trackUuid history perfetto)
    (moved : Moved perfetto message next) : Known trackUuid (history ++ [message]) next where
  uuid := (trackUuid_step moved).trans known.uuid
  keyed := known.keyed.step moved
  live pid id := by
    rw [live_step known.keyed moved, LiveIn, since_concat, known.live, LiveIn]
  thread pid id tid := by
    rw [thread_step known.keyed moved, LiveOn, since_concat, known.thread, LiveOn]
  instants pid id tid := by
    rw [instant_step known.keyed moved, JoinsIn, since_concat, known.instants, JoinsIn, Joins,
      known.live]
  shaped := known.shaped.step known.keyed moved

/-- Each live span of a known thread comes from a record on this thread. -/
theorem onThread_of_liveOn {pid tid : UInt32} {id : UInt64}
    (live : LiveOn history pid id tid) : ∃ message ∈ history, message.OnThread tid := by
  obtain ⟨message, member, -, thread⟩ := once_const.mp live.once
  exact ⟨message, member, thread⟩

theorem onThread_of_joinsIn {pid tid : UInt32} {id : UInt64}
    (joined : JoinsIn history pid id tid) : ∃ message ∈ history, message.OnThread tid := by
  obtain ⟨before, message, after, rfl, -, -, -, thread⟩ := joined.once
  exact ⟨message, by simp, thread⟩

theorem onThread_of_writtenIn {pid tid : UInt32} (written : WrittenIn history pid tid) :
    ∃ message ∈ history, message.OnThread tid := by
  obtain ⟨before, message, after, rfl, -, ⟨id, -, live⟩ | ⟨parentSpan, -, thread, -⟩⟩ := written
  · obtain ⟨creator, member, thread⟩ := onThread_of_liveOn live
    exact ⟨creator, by simp [member], thread⟩
  · exact ⟨message, by simp, thread⟩

theorem process_of_writtenIn {pid tid : UInt32} (written : WrittenIn history pid tid) :
    ∃ message ∈ history, message.process.id = pid := by
  obtain ⟨before, message, after, rfl, own, -⟩ := written
  exact ⟨message, by simp, own⟩

/-- A record writes nothing, or it writes one chunk with the events of some other threads. -/
inductive Output (trackUuid : UInt64) (history : List TraceRecord) (perfetto : Perfetto)
    (message : TraceRecord) (next : Perfetto) : Prop
  | quiet (silent : ∀ pid tid, ¬ Writes history pid tid message)
      (threads : KnownThreads history message) (same : next.written = perfetto.written)
  | chunk (tid : UInt32) (events packets : List Idl.TracePacket) (others : UInt32 → Prop)
      (writes : ∀ pid thread, Writes history pid thread message ↔
        pid = message.process.id ∧ thread = tid)
      (chunk : Chunk trackUuid message.process.id tid events packets)
      (tracks : ∀ packet ∈ events, ∀ uuid, packet.EventOn uuid →
        uuid = some tid.toUInt64 ∨ ∃ other, others other ∧ uuid = some other.toUInt64)
      (present : ∀ other, others other →
        ∃ packet ∈ events, packet.EventOn (some other.toUInt64))
      (seen : ∀ other, others other → ∃ earlier ∈ history, earlier.OnThread other)
      (threads : KnownThreads history message ↔
        ∀ other, others other → other = tid ∨ ∃ pid, WrittenIn history pid other)
      (grown : next.written = perfetto.written ++ packets)

/-- A record that is neither an exit of a span nor an event writes nothing. -/
theorem Output.of_other (other : ∀ id, message.data ≠ .exitSpan id)
    (noEvent : ∀ parentSpan, ¬ message.EventIn parentSpan)
    (same : next.written = perfetto.written) :
    Output trackUuid history perfetto message next := by
  apply Output.quiet ?_ ?_ same
  · rintro pid tid ⟨-, ⟨id, data, -⟩ | ⟨parentSpan, event, -⟩⟩
    · exact other id data
    · exact noEvent parentSpan event
  · intro id own tid data
    exact absurd data (other id)

theorem not_exitSpan_of_eventIn {parentSpan : Option UInt64} (event : message.EventIn parentSpan)
    (id : UInt64) : message.data ≠ .exitSpan id := by
  intro data
  obtain ⟨name, info, same⟩ := event
  rw [data] at same
  cases same

/-- The exit of a live span writes its trace. -/
theorem Known.flush (known : Known trackUuid history perfetto) {id : UInt64} {span : Span}
    (data : message.data = .exitSpan id)
    (found : perfetto.spans.get? (message.process.id, id) = some span)
    (grown : next.written =
      perfetto.written ++ (span.trace ++ [perfetto.endPacket message span])) :
    Output trackUuid history perfetto message next := by
  have owner (tid : UInt32) : LiveOn history message.process.id id tid ↔ tid = span.thread.id := by
    rw [← known.thread]
    simp [found, eq_comm]
  have joined (tid : UInt32) : JoinsIn history message.process.id id tid ↔
      HasInstant tid span := by
    rw [← known.instants]
    simp [found]
  obtain ⟨events, chunk, tracks⟩ := known.shaped message.process.id id span found
  rw [known.uuid] at chunk
  have last : (perfetto.endPacket message span).EventOn (some span.thread.id.toUInt64) :=
    eventPacket_eventOn_iff.mpr rfl
  refine Output.chunk span.thread.id (events ++ [perfetto.endPacket message span])
    (span.trace ++ [perfetto.endPacket message span])
    (fun other => JoinsIn history message.process.id id other) ?_ (chunk.concat ⟨_, last⟩)
    ?_ ?_ (fun other => onThread_of_joinsIn) ?_ grown
  · intro pid tid
    constructor
    · rintro ⟨rfl, ⟨other, same, live⟩ | ⟨parentSpan, event, -⟩⟩
      · rw [data] at same
        cases same
        exact ⟨rfl, (owner tid).mp live⟩
      · exact absurd data (not_exitSpan_of_eventIn event id)
    · rintro ⟨rfl, same⟩
      exact ⟨rfl, Or.inl ⟨id, data, (owner tid).mpr same⟩⟩
  · intro packet member uuid event
    rcases List.mem_append.mp member with inside | final
    · simpa only [joined] using tracks packet inside uuid event
    · rw [List.mem_singleton.mp final] at event
      exact Or.inl (eventPacket_eventOn_iff.mp event)
  · intro other join
    obtain ⟨packet, member, event, same, -, uuid⟩ := (joined other).mp join
    have on : packet.EventOn (some other.toUInt64) := ⟨event, same, uuid⟩
    exact ⟨packet, List.mem_append_left _ (chunk.mem_events member on), on⟩
  · constructor
    · intro threads other join
      exact threads id span.thread.id other data ((owner _).mpr rfl) join
    · intro all other own tid same live join
      rw [data] at same
      cases same
      rw [(owner own).mp live]
      exact all tid join

/-- An event without a live span is written in a chunk of its own. -/
theorem Known.alone (known : Known trackUuid history perfetto) {parentSpan : Option UInt64}
    {name : List Char} {info : RecordEventInfo} {thread : Thread}
    (data : asEvent message.data = .event parentSpan name info)
    (given : message.thread = some thread)
    (absent : ∀ id, parentSpan = some id → perfetto.spans.get? (message.process.id, id) = none)
    (grown : next.written = perfetto.written ++
      (perfetto.header message thread ++ [perfetto.instantPacket message thread name info])) :
    Output trackUuid history perfetto message next := by
  have event : message.EventIn parentSpan := ⟨name, info, data⟩
  have last : (perfetto.instantPacket message thread name info).EventOn
      (some thread.id.toUInt64) := eventPacket_eventOn_iff.mpr rfl
  have header : Chunk perfetto.trackUuid message.process.id thread.id []
      (perfetto.header message thread) := header_chunk thread
  rw [known.uuid] at header
  refine Output.chunk thread.id [perfetto.instantPacket message thread name info]
    (perfetto.header message thread ++ [perfetto.instantPacket message thread name info])
    (fun _ => False) ?_ (header.concat ⟨_, last⟩) ?_ (by simp) (by simp) ?_ grown
  · intro pid tid
    constructor
    · rintro ⟨rfl, ⟨id, same, -⟩ | ⟨other, -, ⟨giver, same, rfl⟩, -⟩⟩
      · exact absurd same (not_exitSpan_of_eventIn event id)
      · rw [given] at same
        cases same
        exact ⟨rfl, rfl⟩
    · rintro ⟨rfl, rfl⟩
      refine ⟨rfl, Or.inr ⟨parentSpan, event, ⟨thread, given, rfl⟩, ?_⟩⟩
      intro id same
      rw [← known.live, not_live_iff]
      exact absent id same
  · intro packet member uuid on
    rw [List.mem_singleton.mp member] at on
    exact Or.inl (eventPacket_eventOn_iff.mp on)
  · apply iff_of_true
    · intro id own tid same
      exact absurd same (not_exitSpan_of_eventIn event id)
    · simp

/-- An event in a live span writes nothing. -/
theorem Known.join (known : Known trackUuid history perfetto) {id : UInt64}
    (event : message.EventIn (some id)) (live : Live perfetto message.process.id id)
    (same : next.written = perfetto.written) :
    Output trackUuid history perfetto message next := by
  apply Output.quiet ?_ ?_ same
  · rintro pid tid ⟨rfl, ⟨other, data, -⟩ | ⟨parentSpan, other, -, absent⟩⟩
    · exact not_exitSpan_of_eventIn event other data
    · obtain ⟨name, info, data⟩ := event
      obtain ⟨otherName, otherInfo, other⟩ := other
      rw [data] at other
      cases other
      exact absent id rfl ((known.live _ _).mp live)
  · intro other own tid data
    exact absurd data (not_exitSpan_of_eventIn event other)

/-- The exit of an unknown span writes nothing. -/
theorem Known.unknownExit (known : Known trackUuid history perfetto) {id : UInt64}
    (data : message.data = .exitSpan id)
    (absent : perfetto.spans.get? (message.process.id, id) = none)
    (same : next.written = perfetto.written) :
    Output trackUuid history perfetto message next := by
  have unowned (tid : UInt32) : ¬ LiveOn history message.process.id id tid := by
    rw [← known.thread]
    simp [absent]
  apply Output.quiet ?_ ?_ same
  · rintro pid tid ⟨rfl, ⟨other, exits, live⟩ | ⟨parentSpan, event, -⟩⟩
    · rw [data] at exits
      cases exits
      exact unowned tid live
    · exact not_exitSpan_of_eventIn event id data
  · intro other own tid exits live
    rw [data] at exits
    cases exits
    exact absurd live (unowned own)

/-- Each record writes nothing or one chunk. -/
theorem Known.output (known : Known trackUuid history perfetto)
    (moved : Moved perfetto message next) : Output trackUuid history perfetto message next := by
  cases moved with
  | exec data =>
      exact .of_other (by simp [data]) (by simp [TraceRecord.EventIn, data, asEvent]) rfl
  | exit data =>
      exact .of_other (by simp [data]) (by simp [TraceRecord.EventIn, data, asEvent]) rfl
  | newSpan id name info thread data given absent =>
      exact .of_other (by simp [data]) (by simp [TraceRecord.EventIn, data, asEvent]) rfl
  | unknownEnter id data absent =>
      exact .of_other (by simp [data]) (by simp [TraceRecord.EventIn, data, asEvent]) rfl
  | enter id span data found =>
      exact .of_other (by simp [data]) (by simp [TraceRecord.EventIn, data, asEvent]) rfl
  | unknownExit id data absent => exact known.unknownExit data absent rfl
  | flush id span data found => exact known.flush data found rfl
  | join id name info thread span data given found =>
      exact known.join ⟨name, info, data⟩ ⟨span, found⟩ rfl
  | alone parentSpan name info thread data given absent =>
      exact known.alone data given absent rfl

/-- The output knows the history. -/
structure Accounted (trackUuid : UInt64) (history : List TraceRecord)
    (written : List Idl.TracePacket) : Prop where
  declares : ∀ uuid owner, (∃ packet ∈ written, packet.Declares uuid owner) ↔
    ∃ pid tid, WrittenIn history pid tid ∧ (uuid = some trackUuid ∧ owner = processOwner pid ∨
      uuid = some tid.toUInt64 ∧ owner = threadOwner pid tid)
  preceded : AtEach (fun front packet => ∀ uuid, packet.EventOn uuid → DeclaredIn front uuid)
    written ↔ AtEach KnownThreads history

theorem Accounted.declaredIn_iff {written : List Idl.TracePacket}
    (accounted : Accounted trackUuid history written) (uuid : Option UInt64) :
    DeclaredIn written uuid ↔ ∃ pid tid, WrittenIn history pid tid ∧
      (uuid = some trackUuid ∨ uuid = some tid.toUInt64) := by
  constructor
  · rintro ⟨packet, member, owner, declared⟩
    obtain ⟨pid, tid, wrote, either⟩ :=
      (accounted.declares uuid owner).mp ⟨packet, member, declared⟩
    exact ⟨pid, tid, wrote, either.imp And.left And.left⟩
  · rintro ⟨pid, tid, wrote, same | same⟩
    · obtain ⟨packet, member, declared⟩ :=
        (accounted.declares uuid _).mpr ⟨pid, tid, wrote, Or.inl ⟨same, rfl⟩⟩
      exact ⟨packet, member, _, declared⟩
    · obtain ⟨packet, member, declared⟩ :=
        (accounted.declares uuid _).mpr ⟨pid, tid, wrote, Or.inr ⟨same, rfl⟩⟩
      exact ⟨packet, member, _, declared⟩

/-- Each record keeps the account of the output. -/
theorem Accounted.step (accounted : Accounted trackUuid history perfetto.written)
    (distinct : ∀ earlier ∈ history, ∀ tid, earlier.OnThread tid → trackUuid ≠ tid.toUInt64)
    (output : Output trackUuid history perfetto message next) :
    Accounted trackUuid (history ++ [message]) next.written := by
  cases output with
  | quiet silent threads same =>
      rw [same]
      refine ⟨?_, ?_⟩
      · intro uuid owner
        simp only [accounted.declares, WrittenIn, once_concat, silent, false_or]
      · rw [atEach_concat, accounted.preceded, and_iff_left threads]
  | chunk tid events packets others writes chunk tracks present seen threads grown =>
      rw [grown]
      refine ⟨?_, ?_⟩
      · intro uuid owner
        constructor
        · rintro ⟨packet, member, declared⟩
          rcases List.mem_append.mp member with early | late
          · obtain ⟨pid, writer, wrote, either⟩ :=
              (accounted.declares uuid owner).mp ⟨packet, early, declared⟩
            exact ⟨pid, writer, once_concat.mpr (Or.inr wrote), either⟩
          · have either := (chunk.declares_iff uuid owner).mp ⟨packet, late, declared⟩
            have now := (writes message.process.id tid).mpr ⟨rfl, rfl⟩
            exact ⟨message.process.id, tid, once_concat.mpr (Or.inl now), either⟩
        · rintro ⟨pid, writer, wrote, either⟩
          rcases once_concat.mp wrote with now | before
          · obtain ⟨rfl, rfl⟩ := (writes pid writer).mp now
            obtain ⟨packet, member, declared⟩ := (chunk.declares_iff uuid owner).mpr either
            exact ⟨packet, List.mem_append_right _ member, declared⟩
          · obtain ⟨packet, member, declared⟩ :=
              (accounted.declares uuid owner).mpr ⟨pid, writer, before, either⟩
            exact ⟨packet, List.mem_append_left _ member, declared⟩
      · rw [chunk.preceded_iff, atEach_concat, accounted.preceded, threads]
        apply and_congr_right
        intro before
        constructor
        · intro declared other join
          obtain ⟨packet, member, event⟩ := present other join
          obtain ⟨earlier, inside, thread⟩ := seen other join
          have apart := distinct earlier inside other thread
          rcases declared packet member _ event with wrote | track | same
          · obtain ⟨pid, writer, wrote, track | same⟩ := (accounted.declaredIn_iff _).mp wrote
            · exact absurd (Option.some.inj track).symm apart
            · obtain rfl := (toUInt64_inj_iff _ _).mp (Option.some.inj same)
              exact Or.inr ⟨pid, wrote⟩
          · exact absurd (Option.some.inj track).symm apart
          · exact Or.inl ((toUInt64_inj_iff _ _).mp (Option.some.inj same))
        · intro all packet member uuid event
          rcases tracks packet member uuid event with own | ⟨other, join, rfl⟩
          · exact Or.inr (Or.inr own)
          · rcases all other join with rfl | ⟨pid, wrote⟩
            · exact Or.inr (Or.inr rfl)
            · exact Or.inl ((accounted.declaredIn_iff _).mpr ⟨pid, other, wrote, Or.inr rfl⟩)

end Known

/-- Each run keeps the account of its output. -/
theorem run_accounted {trackUuid : UInt64} {sequenceId : UInt32} {history : List TraceRecord}
    {perfetto : Perfetto}
    (distinct : ∀ message ∈ history, ∀ tid, message.OnThread tid → trackUuid ≠ tid.toUInt64)
    (reached : machine.run (new trackUuid sequenceId) history = some perfetto) :
    Known trackUuid history perfetto ∧ Accounted trackUuid history perfetto.written := by
  induction history using List.reverseRecOn generalizing perfetto with
  | nil =>
      cases reached
      refine ⟨known_new trackUuid sequenceId, ?_, ?_⟩
      · intro uuid owner
        simp [new, WrittenIn, not_once_nil]
      · simp [new]
  | append_singleton front message ih =>
      obtain ⟨middle, before, stepped⟩ := machine.run_concat_iff.mp reached
      have earlier : ∀ other ∈ front, ∀ tid, other.OnThread tid → trackUuid ≠ tid.toUInt64 :=
        fun other member => distinct other (by simp [member])
      obtain ⟨known, accounted⟩ := ih earlier before
      have moved := (moved_of_step stepped).2
      exact ⟨known.step moved, accounted.step earlier (known.output moved)⟩

theorem processOwner_inj {pid other : UInt32} (same : processOwner pid = processOwner other) :
    pid = other := by
  have numbers : pid.toInt32 = other.toInt32 := by simpa [processOwner] using same
  rw [← UInt32.toUInt32_toInt32 pid, numbers, UInt32.toUInt32_toInt32]

/-- The owners of the tracks are unique exactly if one process writes. -/
theorem Accounted.unique_iff {trackUuid : UInt64} {history : List TraceRecord}
    {written : List Idl.TracePacket} (accounted : Accounted trackUuid history written)
    (distinct : ∀ message ∈ history, ∀ tid, message.OnThread tid → trackUuid ≠ tid.toUInt64) :
    (∀ first ∈ written, ∀ second ∈ written, ∀ uuid owner other,
      first.Declares uuid owner → second.Declares uuid other → owner = other) ↔
      OneProcess history := by
  have apart {pid tid : UInt32} (wrote : WrittenIn history pid tid) :
      some trackUuid ≠ some tid.toUInt64 := by
    obtain ⟨message, member, thread⟩ := onThread_of_writtenIn wrote
    intro same
    exact distinct message member tid thread (Option.some.inj same)
  constructor
  · intro unique pid tid other thread wrote writes
    obtain ⟨first, member, declares⟩ := (accounted.declares (some trackUuid) (processOwner pid)).mpr
      ⟨pid, tid, wrote, Or.inl ⟨rfl, rfl⟩⟩
    obtain ⟨second, inside, declared⟩ :=
      (accounted.declares (some trackUuid) (processOwner other)).mpr
        ⟨other, thread, writes, Or.inl ⟨rfl, rfl⟩⟩
    exact processOwner_inj (unique first member second inside _ _ _ declares declared)
  · intro one first member second inside uuid owner other declares declared
    obtain ⟨pid, tid, wrote, mine⟩ := (accounted.declares uuid owner).mp ⟨first, member, declares⟩
    obtain ⟨otherPid, thread, writes, yours⟩ :=
      (accounted.declares uuid other).mp ⟨second, inside, declared⟩
    obtain rfl := one pid tid otherPid thread wrote writes
    rcases mine with ⟨rfl, rfl⟩ | ⟨rfl, rfl⟩ <;> rcases yours with ⟨same, rfl⟩ | ⟨same, rfl⟩
    · rfl
    · exact absurd same (apart writes)
    · exact absurd same.symm (apart wrote)
    · rw [(toUInt64_inj_iff tid thread).mp (Option.some.inj same)]

/-- The tracks are declared consistently exactly if one process writes and the events in exited
spans come from known threads. -/
theorem run_consistent_iff (trackUuid : UInt64) (sequenceId : UInt32) (records : List TraceRecord)
    (final : Perfetto)
    (reached : machine.run (new trackUuid sequenceId) records = some final)
    (distinct : ∀ message ∈ records, ∀ thread, message.thread = some thread →
      trackUuid ≠ thread.id.toUInt64) :
    Consistent final.written ↔ OneProcess records ∧ AtEach KnownThreads records := by
  have apart : ∀ message ∈ records, ∀ tid, message.OnThread tid → trackUuid ≠ tid.toUInt64 := by
    rintro message member tid ⟨thread, given, rfl⟩
    exact distinct message member thread given
  have accounted := (run_accounted apart reached).2
  rw [← accounted.preceded, ← accounted.unique_iff apart]
  constructor
  · rintro ⟨preceded, unique⟩
    exact ⟨unique, preceded⟩
  · rintro ⟨unique, preceded⟩
    exact ⟨preceded, unique⟩

/-- One thread has an event in a span and an event alone. -/
def oneThread : List TraceRecord :=
  [atEpoch 7 (.newSpan 1 [] RecordEventInfo.default), atEpoch 7 (.enterSpan 1),
    atEpoch 7 (.event (some 1) [] RecordEventInfo.default), atEpoch 7 (.exitSpan 1),
    atEpoch 7 (.event none [] RecordEventInfo.default)]

/-- The tracks of one thread are declared consistently. -/
theorem oneThread_consistent :
    ∃ final, machine.run (new 100 0) oneThread = some final ∧ Consistent final.written := by
  have isSome : (machine.run (new 100 0) oneThread).isSome = true := rfl
  obtain ⟨final, reached⟩ := Option.isSome_iff_exists.mp isSome
  have process : ∀ message ∈ oneThread, message.process.id = 7 := by simp [oneThread, atEpoch]
  have thread : ∀ message ∈ oneThread, ∀ tid, message.OnThread tid → tid = 7 := by
    simp [oneThread, atEpoch, OnThread]
  refine ⟨final, reached, (run_consistent_iff 100 0 oneThread final reached ?_).mpr ⟨?_, ?_⟩⟩
  · simp [oneThread, atEpoch]
  · intro pid tid other writer wrote writes
    obtain ⟨first, member, rfl⟩ := process_of_writtenIn wrote
    obtain ⟨second, inside, rfl⟩ := process_of_writtenIn writes
    rw [process first member, process second inside]
  · intro front message back split id own tid data live joined
    obtain ⟨creator, before, created⟩ := onThread_of_liveOn live
    obtain ⟨joiner, earlier, joins⟩ := onThread_of_joinsIn joined
    rw [thread creator (by simp [split, before]) own created,
      thread joiner (by simp [split, earlier]) tid joins]
    exact Or.inl rfl

/-- Two processes declare the same track. -/
theorem two_processes_inconsistent : ∃ final, machine.run (new 100 0)
    [atEpoch 1 (.event none [] RecordEventInfo.default),
      atEpoch 2 (.event none [] RecordEventInfo.default)] = some final ∧
        ¬ Consistent final.written := by
  refine ⟨_, rfl, ?_⟩
  rintro ⟨-, unique⟩
  have same := unique _ (.head _) _ (.tail _ (.tail _ (.tail _ (.head _)))) _ _ _
    ⟨_, rfl, rfl, rfl⟩ ⟨_, rfl, rfl, rfl⟩
  revert same
  decide

end Perfetto

end Feo.Tracing
