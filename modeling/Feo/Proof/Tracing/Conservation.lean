import Feo.Foundation.Split
import Feo.Proof.Tracing.Live
import Mathlib.Algebra.Group.Int.Defs

namespace Feo.Tracing

open Foundation
open Data (Thread RecordEventInfo RecordData TraceRecord)

/-- A mark is a type of track events with a time in nanoseconds. -/
abbrev Mark := Idl.EventType × Int

/-- The mark of a packet is that of its track event. -/
def Idl.TracePacket.mark (packet : Idl.TracePacket) : Option Mark :=
  match packet.data, packet.timestamp with
  | .trackEvent event, some timestamp => event.type.map fun type => (type, timestamp.toNat)
  | _, _ => none

namespace Data.TraceRecord

/-- These are the types of the packets that a kind of record asks for. -/
def eventType (message : TraceRecord) : Option Idl.EventType :=
  match message.data with
  | .enterSpan _ => some .sliceBegin
  | .exitSpan _ => some .sliceEnd
  | .record _ => some .instant
  | .event _ _ _ => some .instant
  | _ => none

/-- Each entry, exit, event, and record asks for one packet with its time. -/
def mark (message : TraceRecord) : Option Mark :=
  message.eventType.map fun type => (type, message.timestamp.nanos)

/-- The record is about the span, which exists already. -/
def Mentions (id : UInt64) (message : TraceRecord) : Prop :=
  message.data = .enterSpan id ∨ message.data = .exitSpan id ∨ message.EventIn (some id)

/-- Some record of the history exits the span. -/
def ExitedIn (history : List TraceRecord) (id : UInt64) : Prop :=
  ∃ message ∈ history, message.data = .exitSpan id

def CreatedIn (history : List TraceRecord) (pid : UInt32) (id : UInt64) : Prop :=
  ∃ message ∈ history, message.Creates pid id

end Data.TraceRecord

open Data.TraceRecord (ExitedIn CreatedIn Mentions)

namespace Perfetto

/-- The records of one process create each span once before they mention it. -/
structure Regular (pid : UInt32) (body : List TraceRecord) : Prop where
  own : ∀ message ∈ body, message.process.id = pid
  running : ∀ message ∈ body, message.data ≠ .exit
  created : AtEach (fun front message => ∀ id, message.Creates pid id → ¬ CreatedIn front pid id)
    body
  mentioned : AtEach (fun front message => ∀ id, Mentions id message → CreatedIn front pid id) body

/-- The exit of the process is its last record. -/
structure Follows (pid : UInt32) (body : List TraceRecord) (last : TraceRecord) : Prop where
  regular : Regular pid body
  own : last.process.id = pid
  exit : last.data = .exit

/-- The output has exactly one packet for each record that asks for one. -/
def Conserves (trackUuid : UInt64) (sequenceId : UInt32) (records : List TraceRecord) : Prop :=
  ∃ final, machine.run (new trackUuid sequenceId) records = some final ∧
    (final.written.filterMap Idl.TracePacket.mark).Perm (records.filterMap TraceRecord.mark)

/-- No span is entered or exited after its exit. -/
def NotLate (front : List TraceRecord) (message : TraceRecord) : Prop :=
  ∀ id, message.data = .enterSpan id ∨ message.data = .exitSpan id → ¬ ExitedIn front id

/-- Each span that gets packets is exited once, and then it gets no more of its own. -/
structure Complete (pid : UInt32) (body : List TraceRecord) : Prop where
  notLate : AtEach NotLate body
  exited : ∀ id, (∃ message ∈ body, Uses pid id message) → ExitedIn body id

/-- The time of a record is one that the wire can transport. -/
def Stamped (message : TraceRecord) : Prop :=
  0 ≤ message.timestamp.nanos ∧
    (message.eventType ≠ none → message.timestamp.nanos < 2 ^ 64)

/-- A record can be processed if it has a time and the thread that it needs. -/
def Informed (message : TraceRecord) : Prop :=
  Stamped message ∧ (NeedsThread message → message.thread ≠ none)

section Regular

variable {pid : UInt32} {body : List TraceRecord} {message : TraceRecord}

theorem regular_concat : Regular pid (body ++ [message]) ↔
    Regular pid body ∧ message.process.id = pid ∧ message.data ≠ .exit ∧
      (∀ id, message.Creates pid id → ¬ CreatedIn body pid id) ∧
      ∀ id, Mentions id message → CreatedIn body pid id := by
  constructor
  · rintro ⟨own, running, created, mentioned⟩
    rw [atEach_concat] at created mentioned
    refine ⟨⟨fun other member => own other (by simp [member]),
      fun other member => running other (by simp [member]), created.1, mentioned.1⟩,
      own message (by simp), running message (by simp), created.2, mentioned.2⟩
  · rintro ⟨⟨own, running, created, mentioned⟩, mine, alive, fresh, known⟩
    refine ⟨?_, ?_, (atEach_concat _ _ _).mpr ⟨created, fresh⟩,
      (atEach_concat _ _ _).mpr ⟨mentioned, known⟩⟩
    · intro other member
      rcases List.mem_append.mp member with inside | final
      · exact own other inside
      · rw [List.mem_singleton.mp final]
        exact mine
    · intro other member
      rcases List.mem_append.mp member with inside | final
      · exact running other inside
      · rw [List.mem_singleton.mp final]
        exact alive

/-- A mentioned span was created in the same history. -/
theorem Regular.createdIn (regular : Regular pid body) {id : UInt64}
    (mentions : ∃ message ∈ body, Mentions id message) : CreatedIn body pid id := by
  obtain ⟨message, member, mentions⟩ := mentions
  obtain ⟨front, back, rfl⟩ := List.append_of_mem member
  obtain ⟨creator, earlier, creates⟩ := regular.mentioned front message back rfl id mentions
  exact ⟨creator, by simp [earlier], creates⟩

theorem Uses.mentions {id : UInt64} (uses : Uses pid id message) : Mentions id message := by
  rcases uses.2 with enters | event
  · exact Or.inl enters
  · exact Or.inr (Or.inr event)

theorem exitedIn_concat {id : UInt64} : ExitedIn (body ++ [message]) id ↔
    ExitedIn body id ∨ message.data = .exitSpan id := by
  simp only [ExitedIn, List.mem_append, List.mem_singleton, or_and_right, exists_or,
    exists_eq_left]

theorem createdIn_concat {id : UInt64} : CreatedIn (body ++ [message]) pid id ↔
    CreatedIn body pid id ∨ message.Creates pid id := by
  simp only [CreatedIn, List.mem_append, List.mem_singleton, or_and_right, exists_or,
    exists_eq_left]

end Regular

section Run

variable {trackUuid : UInt64} {sequenceId : UInt32} {pid : UInt32} {body : List TraceRecord}
  {perfetto : Perfetto}

/-- The live spans of a regular history are those that were created and not exited. -/
theorem live_regular (regular : Regular pid body)
    (reached : machine.run (new trackUuid sequenceId) body = some perfetto) (id : UInt64) :
    Live perfetto pid id ↔ CreatedIn body pid id ∧ ¬ ExitedIn body id := by
  rw [(run_live reached).2]
  clear reached
  induction body using List.reverseRecOn with
  | nil =>
      apply iff_of_false not_since_nil
      rintro ⟨⟨message, member, -⟩, -⟩
      cases member
  | append_singleton front message ih =>
      obtain ⟨before, own, running, fresh, known⟩ := regular_concat.mp regular
      have ends : message.Ends pid id ↔ message.data = .exitSpan id := by
        simp [TraceRecord.Ends, own, running]
      rw [since_concat, ih before, ends, createdIn_concat, exitedIn_concat]
      by_cases creates : message.Creates pid id
      · have unexited : ¬ ExitedIn front id := by
          rintro ⟨exit, member, data⟩
          exact fresh id creates (before.createdIn ⟨exit, member, Or.inr (Or.inl data)⟩)
        have other : message.data ≠ .exitSpan id := by
          obtain ⟨-, name, info, data⟩ := creates
          simp [data]
        simp [creates, unexited, other]
      · simp [creates, and_assoc]

end Run

/-- The marks of the packets in the trace of a span. -/
def spanMarks (_ : UInt32 × UInt64) (span : Span) : List Mark :=
  span.trace.filterMap Idl.TracePacket.mark

/-- The marks of the packets that were written or are still buffered. -/
def marks (perfetto : Perfetto) : List Mark :=
  perfetto.written.filterMap Idl.TracePacket.mark ++ perfetto.spans.gather spanMarks

/-- All marks are written, buffered, or lost, and they are lost exactly with late records. -/
def Balanced (history : List TraceRecord) (perfetto : Perfetto) : Prop :=
  ∃ lost, (history.filterMap TraceRecord.mark).Perm (perfetto.marks ++ lost) ∧
    (lost = [] ↔ AtEach NotLate history)

section Balance

variable {history : List TraceRecord} {message : TraceRecord} {perfetto next : Perfetto}

theorem filterMap_concat {Item Other : Type} (f : Item → Option Other) (items : List Item)
    (last : Item) : (items ++ [last]).filterMap f = items.filterMap f ++ (f last).toList := by
  rw [List.filterMap_append]
  cases found : f last <;> simp [found]

/-- A record whose mark is kept is not late. -/
theorem Balanced.keep (balanced : Balanced history perfetto)
    (kept : next.marks.Perm (perfetto.marks ++ message.mark.toList))
    (notLate : NotLate history message) : Balanced (history ++ [message]) next := by
  obtain ⟨lost, all, none⟩ := balanced
  refine ⟨lost, ?_, ?_⟩
  · rw [filterMap_concat]
    calc history.filterMap TraceRecord.mark ++ message.mark.toList
      _ |>.Perm ((perfetto.marks ++ lost) ++ message.mark.toList) := all.append_right _
      _ |>.Perm ((perfetto.marks ++ message.mark.toList) ++ lost) := by
          rw [List.append_assoc, List.append_assoc]
          exact List.Perm.append_left _ List.perm_append_comm
      _ |>.Perm (next.marks ++ lost) := kept.symm.append_right lost
  · rw [atEach_concat, none]
    simp [notLate]

/-- A late record loses its mark. -/
theorem Balanced.lose (balanced : Balanced history perfetto) (some : message.mark ≠ none)
    (late : ¬ NotLate history message) : Balanced (history ++ [message]) perfetto := by
  obtain ⟨lost, all, -⟩ := balanced
  refine ⟨lost ++ message.mark.toList, ?_, ?_⟩
  · rw [filterMap_concat, ← List.append_assoc]
    exact all.append_right _
  · rw [atEach_concat]
    simp [late, some]

theorem stamp_toNat (stamped : Stamped message) (timed : message.eventType ≠ none) :
    (message.stamp.toNat : Int) = message.timestamp.nanos := by
  have lower := stamped.1
  have upper := stamped.2 timed
  rw [TraceRecord.stamp, UInt64.toNat_ofNat']
  omega

/-- A packet with the stamp of a record has its mark. -/
theorem eventPacket_mark (stamped : Stamped message) {type : Idl.EventType}
    (asked : message.eventType = some type) (uuid : UInt64) (name : Option (List Char))
    (annotations : Option (List Idl.DebugAnnotation)) :
    (perfetto.eventPacket message.process.id message.stamp
      (createEvent uuid name annotations (some type))).mark = message.mark := by
  have time := stamp_toNat stamped (by simp [asked])
  rw [TraceRecord.mark, asked, Option.map_some, ← time]
  rfl

theorem header_marks (thread : Thread) :
    (perfetto.header message thread).filterMap Idl.TracePacket.mark = [] := rfl

theorem push_marks {key : UInt32 × UInt64} {span : Span} {packet : Idl.TracePacket}
    (found : perfetto.spans.get? key = some span) (marked : packet.mark = message.mark) :
    (perfetto.push key packet).marks.Perm (perfetto.marks ++ message.mark.toList) := by
  have grows : spanMarks key (span.push packet) = spanMarks key span ++ message.mark.toList := by
    rw [spanMarks, Span.push, filterMap_concat, marked]
    rfl
  have gathered := perfetto.spans.gather_modify_perm spanMarks (Span.push packet) _ found grows
  rw [marks, marks, List.append_assoc]
  exact gathered.append_left _

/-- A record that neither enters nor exits a span is not late. -/
theorem notLate_of_other (other : ∀ id, message.data ≠ .enterSpan id ∧
    message.data ≠ .exitSpan id) : NotLate history message := by
  rintro id (data | data)
  · exact absurd data (other id).1
  · exact absurd data (other id).2

theorem eventType_of_eventIn {parentSpan : Option UInt64} (event : message.EventIn parentSpan) :
    message.eventType = some .instant ∧
      ∀ id, message.data ≠ .enterSpan id ∧ message.data ≠ .exitSpan id := by
  obtain ⟨name, info, data⟩ := event
  unfold TraceRecord.eventType
  cases same : message.data <;> rw [same] at data <;> simp [asEvent] at data ⊢

/-- Each record of a regular history keeps the balance. -/
theorem Balanced.step {pid : UInt32} (balanced : Balanced history perfetto)
    (live : ∀ id, Live perfetto pid id ↔ CreatedIn history pid id ∧ ¬ ExitedIn history id)
    (own : message.process.id = pid) (running : message.data ≠ .exit)
    (known : ∀ id, Mentions id message → CreatedIn history pid id) (stamped : Stamped message)
    (moved : Moved perfetto message next) : Balanced (history ++ [message]) next := by
  subst own
  have lateOf (id : UInt64) (mentions : Mentions id message)
      (absent : perfetto.spans.get? (message.process.id, id) = none) : ExitedIn history id := by
    by_contra unexited
    exact not_live_iff.mpr absent ((live id).mpr ⟨known id mentions, unexited⟩)
  have unexited (id : UInt64) (span : Span)
      (found : perfetto.spans.get? (message.process.id, id) = some span) :
      ¬ ExitedIn history id := ((live id).mp ⟨span, found⟩).2
  cases moved with
  | exec data =>
      apply balanced.keep
      · simp [TraceRecord.mark, TraceRecord.eventType, data]
      · exact notLate_of_other (by simp [data])
  | exit data => exact absurd data running
  | newSpan id name info thread data given absent =>
      apply balanced.keep
      · have fresh := perfetto.spans.gather_insert spanMarks
          ⟨message.process.id, thread, perfetto.header message thread, name, info⟩ absent
        simp [marks, fresh, spanMarks, header_marks, TraceRecord.mark, TraceRecord.eventType, data]
      · exact notLate_of_other (by simp [data])
  | unknownEnter id data absent =>
      apply balanced.lose
      · simp [TraceRecord.mark, TraceRecord.eventType, data]
      · intro notLate
        exact notLate id (Or.inl data) (lateOf id (Or.inl data) absent)
  | enter id span data found =>
      apply balanced.keep
      · apply push_marks found
        exact eventPacket_mark stamped (by simp [TraceRecord.eventType, data]) ..
      · rintro other (same | same) <;> rw [data] at same <;> cases same
        exact unexited id span found
  | unknownExit id data absent =>
      apply balanced.lose
      · simp [TraceRecord.mark, TraceRecord.eventType, data]
      · intro notLate
        exact notLate id (Or.inr data) (lateOf id (Or.inr (Or.inl data)) absent)
  | flush id span data found =>
      apply balanced.keep
      · have marked : (perfetto.endPacket message span).mark = message.mark :=
          eventPacket_mark stamped (by simp [TraceRecord.eventType, data]) ..
        have gathered := perfetto.spans.gather_perm_remove spanMarks found
        rw [marks, marks, List.filterMap_append, filterMap_concat, marked]
        apply List.Perm.trans ?_ ((gathered.symm.append_left _).append_right _)
        simp only [List.append_assoc]
        exact List.Perm.append_left _ (List.Perm.append_left _ List.perm_append_comm)
      · rintro other (same | same) <;> rw [data] at same <;> cases same
        exact unexited id span found
  | join id name info thread span data given found =>
      have event : message.EventIn (some id) := ⟨name, info, data⟩
      obtain ⟨asked, other⟩ := eventType_of_eventIn event
      apply balanced.keep
      · apply push_marks found
        exact eventPacket_mark stamped asked ..
      · exact notLate_of_other other
  | alone parentSpan name info thread data given absent =>
      have event : message.EventIn parentSpan := ⟨name, info, data⟩
      obtain ⟨asked, other⟩ := eventType_of_eventIn event
      have marked : (perfetto.instantPacket message thread name info).mark = message.mark :=
        eventPacket_mark stamped asked ..
      apply balanced.keep
      · rw [marks, marks, List.filterMap_append, filterMap_concat, header_marks, marked]
        simp only [List.nil_append, List.append_assoc]
        exact List.Perm.append_left _ List.perm_append_comm
      · exact notLate_of_other other

theorem pushes_mark {id : UInt64} {span : Span} {packet : Idl.TracePacket}
    (stamped : Stamped message) (pushes : Pushes perfetto message id span packet) :
    packet.mark ≠ none := by
  rcases pushes with ⟨data, rfl⟩ | ⟨name, info, thread, data, -, rfl⟩
  · have asked : message.eventType = some .sliceBegin := by simp [TraceRecord.eventType, data]
    rw [beginPacket, eventPacket_mark stamped asked]
    simp [TraceRecord.mark, asked]
  · obtain ⟨asked, -⟩ := eventType_of_eventIn ⟨name, info, data⟩
    rw [instantPacket, eventPacket_mark stamped asked]
    simp [TraceRecord.mark, asked]

/-- A live span has marks exactly if some record used it. -/
def Marked (history : List TraceRecord) (pid : UInt32) (perfetto : Perfetto) : Prop :=
  ∀ id, (∃ span, perfetto.spans.get? (pid, id) = some span ∧ spanMarks (pid, id) span ≠ []) ↔
    Live perfetto pid id ∧ ∃ message ∈ history, Uses pid id message

/-- A record adds marks to a live span if it uses the span. -/
theorem marked_step {pid : UInt32} (keyed : WellKeyed perfetto) (stamped : Stamped message)
    (moved : Moved perfetto message next) (id : UInt64) :
    (∃ span, next.spans.get? (pid, id) = some span ∧ spanMarks (pid, id) span ≠ []) ↔
      (Live perfetto pid id ∧ Uses pid id message) ∨
        (∃ span, perfetto.spans.get? (pid, id) = some span ∧ spanMarks (pid, id) span ≠ []) ∧
          ¬ message.Ends pid id := by
  apply holds_step (fun span => spanMarks (pid, id) span ≠ []) _ keyed moved
  · intro name info thread creates given
    apply iff_of_false
    · simp [spanMarks, header_marks]
    · rintro ⟨-, uses⟩
      exact uses.not_other.1 creates
  · intro span packet own pushes found
    have marked := pushes_mark stamped pushes
    apply iff_of_true
    · simp [spanMarks, Span.push, marked]
    · rw [← own] at found ⊢
      exact Or.inl ⟨⟨span, found⟩, pushes.uses⟩
  · rintro fresh stays unused ⟨alive, uses⟩
    exact not_live_iff.mpr (unused uses) alive
  · rintro ends ⟨-, uses⟩
    exact uses.not_other.2.1 ends

theorem Marked.step {pid : UInt32} (marked : Marked history pid perfetto)
    (keyed : WellKeyed perfetto) (unused : ∀ id, message.Creates pid id →
      ¬ ∃ message ∈ history, Uses pid id message) (stamped : Stamped message)
    (moved : Moved perfetto message next) : Marked (history ++ [message]) pid next := by
  intro id
  have used : (∃ other ∈ history ++ [message], Uses pid id other) ↔
      (∃ other ∈ history, Uses pid id other) ∨ Uses pid id message := by
    simp only [List.mem_append, List.mem_singleton, or_and_right, exists_or, exists_eq_left]
  rw [marked_step keyed stamped moved, marked id, live_step keyed moved, used]
  by_cases creates : message.Creates pid id
  · have idle : ¬ Uses pid id message := fun uses => uses.not_other.1 creates
    simp only [creates, idle, unused id creates]
    simp
  · by_cases uses : Uses pid id message
    · have stays : ¬ message.Ends pid id := uses.not_other.2.1
      simp only [creates, uses, stays, not_false_eq_true, and_true, or_true, false_or]
      exact or_iff_left_of_imp And.left
    · simp [creates, uses, and_right_comm]

end Balance

section Run

variable {trackUuid : UInt64} {sequenceId : UInt32} {pid : UInt32} {body : List TraceRecord}

/-- After a regular history, the marks are balanced. -/
theorem run_balanced {perfetto : Perfetto} (regular : Regular pid body)
    (stamped : ∀ message ∈ body, Stamped message)
    (reached : machine.run (new trackUuid sequenceId) body = some perfetto) :
    Balanced body perfetto ∧ Marked body pid perfetto := by
  induction body using List.reverseRecOn generalizing perfetto with
  | nil =>
      cases reached
      refine ⟨⟨[], List.Perm.refl _, by simp⟩, ?_⟩
      intro id
      simp [new_get?, Live]
  | append_singleton front message ih =>
      obtain ⟨before, own, running, fresh, known⟩ := regular_concat.mp regular
      obtain ⟨middle, reached, stepped⟩ := machine.run_concat_iff.mp reached
      obtain ⟨balanced, marked⟩ :=
        ih before (fun other member => stamped other (by simp [member])) reached
      have timed := stamped message (by simp)
      have moved := (moved_of_step stepped).2
      refine ⟨balanced.step (live_regular before reached) own running known timed moved,
        marked.step (run_live reached).1 ?_ timed moved⟩
      rintro id creates ⟨other, member, uses⟩
      exact fresh id creates (before.createdIn ⟨other, member, uses.mentions⟩)

/-- A regular history is processed exactly if its records have times and threads. -/
theorem run_isSome_iff (regular : Regular pid body) :
    (∃ final, machine.run (new trackUuid sequenceId) body = some final) ↔
      ∀ message ∈ body, message.AfterEpoch ∧ (NeedsThread message → message.thread ≠ none) := by
  induction body using List.reverseRecOn with
  | nil => simp
  | append_singleton front message ih =>
      obtain ⟨before, own, running, fresh, known⟩ := regular_concat.mp regular
      simp only [Machine.run_concat_iff, machine_step_iff]
      constructor
      · rintro ⟨final, middle, reached, accepted⟩ other member
        rcases List.mem_append.mp member with inside | last
        · exact (ih before).mp ⟨middle, reached⟩ other inside
        · have acceptable := (onPacket_isOk_iff middle message).mp ⟨final, accepted⟩
          rw [List.mem_singleton.mp last]
          exact ⟨acceptable.after, acceptable.given⟩
      · intro all
        obtain ⟨middle, reached⟩ :=
          (ih before).mpr fun other member => all other (by simp [member])
        obtain ⟨after, given⟩ := all message (by simp)
        have acceptable : Acceptable middle message := by
          refine ⟨after, ?_, given⟩
          intro id creates
          rw [own] at creates ⊢
          rw [← not_live_iff, live_regular before reached]
          rintro ⟨created, -⟩
          exact fresh id creates created
        obtain ⟨final, accepted⟩ := acceptable.ok
        exact ⟨final, middle, reached, accepted⟩

/-- Nothing stays in a buffer exactly if each used span is exited. -/
theorem gather_eq_nil_iff_exited {perfetto : Perfetto} (regular : Regular pid body)
    (marked : Marked body pid perfetto)
    (reached : machine.run (new trackUuid sequenceId) body = some perfetto) :
    perfetto.spans.gather spanMarks = [] ↔
      ∀ id, (∃ message ∈ body, Uses pid id message) → ExitedIn body id := by
  rw [HashMap.gather_eq_nil_iff]
  constructor
  · rintro empty id ⟨message, member, uses⟩
    by_contra unexited
    have created := regular.createdIn ⟨message, member, uses.mentions⟩
    have alive := (live_regular regular reached id).mpr ⟨created, unexited⟩
    obtain ⟨span, found, some⟩ := (marked id).mpr ⟨alive, message, member, uses⟩
    exact some (empty _ span found)
  · rintro exited ⟨other, id⟩ span found
    by_contra some
    obtain ⟨before, creator, after, split, ⟨own, -⟩, -⟩ :=
      ((run_live reached).2 other id).mp ⟨span, found⟩
    have same : creator.process.id = pid := regular.own creator (by simp [split])
    obtain rfl : other = pid := own.symm.trans same
    obtain ⟨alive, used⟩ := (marked id).mp ⟨span, found, some⟩
    exact ((live_regular regular reached id).mp alive).2 (exited id used)

/-- The exit of the process drops its spans and writes nothing. -/
theorem moved_exit {perfetto next : Perfetto} {message : TraceRecord}
    (exit : message.data = .exit) (moved : Moved perfetto message next) :
    next = perfetto.exit message.process.id := by
  cases moved <;> simp_all [asEvent]

/-- A sequence with its exit is processed if the records before it are. -/
theorem follows_run_iff {last : TraceRecord} {final : Perfetto} (exit : last.data = .exit) :
    machine.run (new trackUuid sequenceId) (body ++ [last]) = some final ↔
      ∃ middle, machine.run (new trackUuid sequenceId) body = some middle ∧
        last.AfterEpoch ∧ final = middle.exit last.process.id := by
  rw [Machine.run_concat_iff]
  apply exists_congr
  intro middle
  apply and_congr_right
  intro reached
  constructor
  · intro stepped
    obtain ⟨after, moved⟩ := moved_of_step stepped
    exact ⟨after, moved_exit exit moved⟩
  · rintro ⟨after, rfl⟩
    have acceptable : Acceptable middle last :=
      .of_not_needsThread after (not_needsThread (Or.inl (Or.inr exit)))
    obtain ⟨next, accepted⟩ := acceptable.ok
    rw [machine_step_iff, accepted, moved_exit exit (moved_of_ok accepted).2]

/-- A packet has a time that fits into its field. -/
theorem mark_lt {packet : Idl.TracePacket} {mark : Mark} (marked : packet.mark = some mark) :
    mark.2 < 2 ^ 64 := by
  unfold Idl.TracePacket.mark at marked
  split at marked
  · next event timestamp data stamp =>
      obtain ⟨type, -, rfl⟩ := Option.map_eq_some_iff.mp marked
      have bound := timestamp.toNat_lt
      dsimp only
      omega
  · cases marked

/-- Each record is conserved exactly if all records have their times and threads and each span
that gets packets is exited once and for all. -/
theorem conserves_iff (trackUuid : UInt64) (sequenceId pid : UInt32) (body : List TraceRecord)
    (last : TraceRecord) (follows : Follows pid body last) :
    Conserves trackUuid sequenceId (body ++ [last]) ↔
      (∀ message ∈ body ++ [last], Informed message) ∧ Complete pid body := by
  obtain ⟨regular, own, exit⟩ := follows
  have unmarked : last.eventType = none := by simp [TraceRecord.eventType, exit]
  have asked : (body ++ [last]).filterMap TraceRecord.mark = body.filterMap TraceRecord.mark := by
    rw [filterMap_concat, TraceRecord.mark, unmarked]
    simp
  unfold Conserves
  rw [asked]
  constructor
  · rintro ⟨final, reached, conserved⟩
    obtain ⟨middle, before, after, rfl⟩ := (follows_run_iff exit).mp reached
    have informed := (run_isSome_iff regular).mp ⟨middle, before⟩
    have stamped : ∀ message ∈ body, Stamped message := by
      intro message member
      refine ⟨(informed message member).1, ?_⟩
      intro timed
      obtain ⟨type, asks⟩ := Option.ne_none_iff_exists'.mp timed
      have expected : (type, message.timestamp.nanos) ∈ body.filterMap TraceRecord.mark :=
        List.mem_filterMap.mpr ⟨message, member, by rw [TraceRecord.mark, asks]; rfl⟩
      obtain ⟨packet, -, marked⟩ := List.mem_filterMap.mp (conserved.mem_iff.mpr expected)
      exact mark_lt marked
    obtain ⟨⟨lost, all, none⟩, marked⟩ := run_balanced regular stamped before
    have counted : (middle.written.filterMap Idl.TracePacket.mark).length =
        (middle.marks ++ lost).length := conserved.length_eq.trans all.length_eq
    rw [marks, List.length_append, List.length_append] at counted
    have kept : lost = [] := List.eq_nil_of_length_eq_zero (by omega)
    have empty : middle.spans.gather spanMarks = [] :=
      List.eq_nil_of_length_eq_zero (by omega)
    refine ⟨?_, none.mp kept, (gather_eq_nil_iff_exited regular marked before).mp empty⟩
    intro message member
    rcases List.mem_append.mp member with inside | final
    · exact ⟨stamped message inside, (informed message inside).2⟩
    · rw [List.mem_singleton.mp final]
      refine ⟨⟨after, fun timed => absurd unmarked timed⟩, ?_⟩
      intro needs
      exact absurd needs (not_needsThread (Or.inl (Or.inr exit)))
  · rintro ⟨informed, notLate, exited⟩
    have inside : ∀ message ∈ body, Informed message :=
      fun message member => informed message (by simp [member])
    obtain ⟨middle, reached⟩ := (run_isSome_iff regular).mpr fun message member =>
      ⟨(inside message member).1.1, (inside message member).2⟩
    obtain ⟨⟨lost, all, none⟩, marked⟩ :=
      run_balanced regular (fun message member => (inside message member).1) reached
    have after := (informed last (by simp)).1.1
    refine ⟨_, (follows_run_iff exit).mpr ⟨middle, reached, after, rfl⟩, ?_⟩
    rw [marks, (gather_eq_nil_iff_exited regular marked reached).mpr exited, none.mpr notLate,
      List.append_nil, List.append_nil] at all
    exact all.symm

/-- A span that is entered once, has one event, and is exited is conserved. -/
theorem conserves_one_span : Conserves 0 0
    ([atEpoch 7 .exec, atEpoch 7 (.newSpan 1 [] RecordEventInfo.default), atEpoch 7 (.enterSpan 1),
      atEpoch 7 (.event (some 1) [] RecordEventInfo.default), atEpoch 7 (.exitSpan 1)] ++
        [atEpoch 7 .exit]) := by
  have follows : Follows 7 [atEpoch 7 .exec, atEpoch 7 (.newSpan 1 [] RecordEventInfo.default),
      atEpoch 7 (.enterSpan 1), atEpoch 7 (.event (some 1) [] RecordEventInfo.default),
      atEpoch 7 (.exitSpan 1)] (atEpoch 7 .exit) := by
    refine ⟨⟨?_, ?_, ?_, ?_⟩, rfl, rfl⟩
    · simp [atEpoch]
    · simp [atEpoch]
    · simp [atEach_cons, atEpoch, TraceRecord.Creates, CreatedIn]
    · simp [atEach_cons, atEpoch, TraceRecord.Creates, CreatedIn, Mentions, TraceRecord.EventIn,
        asEvent]
  apply (conserves_iff 0 0 7 _ _ follows).mpr
  refine ⟨?_, ?_, ?_⟩
  · simp [atEpoch, Informed, Stamped, Reading.unixEpoch]
  · simp [atEach_cons, atEpoch, NotLate, ExitedIn]
  · simp [atEpoch, Uses, ExitedIn, TraceRecord.EventIn, asEvent]

/-- The second entry into a span and the second exit from it are lost. -/
theorem reentry_not_conserved : ¬ Conserves 0 0
    [atEpoch 7 (.newSpan 1 [] RecordEventInfo.default), atEpoch 7 (.enterSpan 1),
      atEpoch 7 (.exitSpan 1), atEpoch 7 (.enterSpan 1), atEpoch 7 (.exitSpan 1), atEpoch 7 .exit] := by
  rintro ⟨final, reached, conserved⟩
  cases reached
  have counted := conserved.length_eq
  revert counted
  decide

end Run

end Perfetto

end Feo.Tracing
