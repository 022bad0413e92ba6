import Feo.Construction.Tracing.Tracer
import Feo.Foundation.Machine
import Feo.Foundation.Past

namespace Feo.Tracing

open Foundation
open Data (Thread RecordEventInfo RecordData TraceRecord)

namespace Data.TraceRecord

/-- The time of the record does not precede the epoch. -/
def AfterEpoch (message : TraceRecord) : Prop := 0 ≤ message.timestamp.nanos

/-- The time of the record in nanoseconds. -/
def stamp (message : TraceRecord) : UInt64 := UInt64.ofNat message.timestamp.nanos.toNat

/-- The record is an event or a record of the span. -/
def EventIn (message : TraceRecord) (parentSpan : Option UInt64) : Prop :=
  ∃ name info, Perfetto.asEvent message.data = .event parentSpan name info

/-- The record creates the span. -/
def Creates (pid : UInt32) (id : UInt64) (message : TraceRecord) : Prop :=
  message.process.id = pid ∧ ∃ name info, message.data = .newSpan id name info

/-- The record exits the span or its process. -/
def Ends (pid : UInt32) (id : UInt64) (message : TraceRecord) : Prop :=
  message.process.id = pid ∧ (message.data = .exitSpan id ∨ message.data = .exit)

end Data.TraceRecord

theorem ofNat_asNanos (message : TraceRecord) :
    UInt64.ofNat (message.timestamp.saturatingDurationSince Reading.unixEpoch).asNanos =
      message.stamp := by
  have same : message.timestamp.nanos - 0 = message.timestamp.nanos := Int.sub_zero _
  simp only [Data.TraceRecord.stamp, Reading.saturatingDurationSince, Duration.asNanos,
    Reading.unixEpoch, same]

namespace Perfetto

/-- The span gets the packet. -/
def push (perfetto : Perfetto) (key : UInt32 × UInt64) (packet : Idl.TracePacket) : Perfetto :=
  { perfetto with spans := perfetto.spans.modify key (Span.push packet) }

/-- The packet of the entry into a span. -/
def beginPacket (perfetto : Perfetto) (message : TraceRecord) (span : Span) : Idl.TracePacket :=
  perfetto.eventPacket message.process.id message.stamp
    (createEvent span.thread.id.toUInt64 (some span.name)
      (some [ debugAnnotation span.info.name span.info.value]) (some .sliceBegin))

/-- The packet of the exit from a span. -/
def endPacket (perfetto : Perfetto) (message : TraceRecord) (span : Span) : Idl.TracePacket :=
  perfetto.eventPacket message.process.id message.stamp
    (createEvent span.thread.id.toUInt64 (some span.name) none (some .sliceEnd))

/-- The packet of an event on a thread. -/
def instantPacket (perfetto : Perfetto) (message : TraceRecord) (thread : Thread)
    (name : List Char) (info : RecordEventInfo) : Idl.TracePacket :=
  perfetto.eventPacket message.process.id message.stamp
    (createEvent thread.id.toUInt64 (some name) (some [ debugAnnotation info.name info.value])
      (some .instant))

/-- The process and the thread of a trace come first. -/
def header (perfetto : Perfetto) (message : TraceRecord) (thread : Thread) :
    List Idl.TracePacket :=
  [perfetto.processDescriptor message.process.id message.process.name,
    threadDescriptor message.process.id thread.id thread.name]

/-- These are the states behind a record that does not fail. -/
inductive Moved (perfetto : Perfetto) (message : TraceRecord) : Perfetto → Prop
  | exec (data : message.data = .exec) : Moved perfetto message perfetto
  | exit (data : message.data = .exit) : Moved perfetto message (perfetto.exit message.process.id)
  | newSpan (id : UInt64) (name : List Char) (info : RecordEventInfo) (thread : Thread)
      (data : message.data = .newSpan id name info) (given : message.thread = some thread)
      (absent : perfetto.spans.get? (message.process.id, id) = none) :
      Moved perfetto message { perfetto with
        spans := perfetto.spans.insert (message.process.id, id)
          ⟨message.process.id, thread, perfetto.header message thread, name, info⟩ }
  | unknownEnter (id : UInt64) (data : message.data = .enterSpan id)
      (absent : perfetto.spans.get? (message.process.id, id) = none) :
      Moved perfetto message perfetto
  | enter (id : UInt64) (span : Span) (data : message.data = .enterSpan id)
      (found : perfetto.spans.get? (message.process.id, id) = some span) :
      Moved perfetto message
        (perfetto.push (message.process.id, id) (perfetto.beginPacket message span))
  | unknownExit (id : UInt64) (data : message.data = .exitSpan id)
      (absent : perfetto.spans.get? (message.process.id, id) = none) :
      Moved perfetto message perfetto
  | flush (id : UInt64) (span : Span) (data : message.data = .exitSpan id)
      (found : perfetto.spans.get? (message.process.id, id) = some span) :
      Moved perfetto message { perfetto with
        spans := perfetto.spans.remove (message.process.id, id)
        written := perfetto.written ++ (span.trace ++ [perfetto.endPacket message span]) }
  | join (id : UInt64) (name : List Char) (info : RecordEventInfo) (thread : Thread) (span : Span)
      (data : asEvent message.data = .event (some id) name info)
      (given : message.thread = some thread)
      (found : perfetto.spans.get? (message.process.id, id) = some span) :
      Moved perfetto message
        (perfetto.push (message.process.id, id) (perfetto.instantPacket message thread name info))
  | alone (parentSpan : Option UInt64) (name : List Char) (info : RecordEventInfo)
      (thread : Thread) (data : asEvent message.data = .event parentSpan name info)
      (given : message.thread = some thread)
      (absent : ∀ id, parentSpan = some id →
        perfetto.spans.get? (message.process.id, id) = none) :
      Moved perfetto message { perfetto with
        written := perfetto.written ++
          (perfetto.header message thread ++ [perfetto.instantPacket message thread name info]) }

theorem containsKey_false_iff {Key Value : Type} [DecidableEq Key] (map : HashMap Key Value)
    (key : Key) : map.containsKey key = false ↔ map.get? key = none := by
  simp [HashMap.containsKey, HashMap.get?]

theorem containsKey_true_iff {Key Value : Type} [DecidableEq Key] (map : HashMap Key Value)
    (key : Key) : map.containsKey key = true ↔ ∃ value, map.get? key = some value := by
  simp [HashMap.containsKey, HashMap.get?]

theorem onPacket_of_after (perfetto : Perfetto) {message : TraceRecord}
    (after : message.AfterEpoch) :
    perfetto.onPacket true message = perfetto.onData true message.process message.thread
      message.stamp (asEvent message.data) := by
  have duration : message.timestamp.durationSince Reading.unixEpoch =
      some (message.timestamp.saturatingDurationSince Reading.unixEpoch) := if_pos after
  rw [onPacket, duration]
  simp only [ofNat_asNanos]

theorem onPacket_of_before (perfetto : Perfetto) {message : TraceRecord}
    (before : ¬ message.AfterEpoch) :
    perfetto.onPacket true message = .ok (.error "second time provided was later than self") := by
  have duration : message.timestamp.durationSince Reading.unixEpoch = none := if_neg before
  rw [onPacket, duration]

/-- The event of a thread goes to its live span or is written alone. -/
theorem moved_of_event (perfetto next : Perfetto) (message : TraceRecord)
    (parentSpan : Option UInt64) (name : List Char) (info : RecordEventInfo)
    (data : asEvent message.data = .event parentSpan name info)
    (moved : perfetto.event true message.process message.thread message.stamp parentSpan name
      info = .ok next) : Moved perfetto message next := by
  unfold event at moved
  cases given : message.thread with
  | none =>
      rw [given] at moved
      cases moved
  | some thread =>
      rw [given] at moved
      dsimp only at moved
      cases live : parentSpan.filter fun id =>
          perfetto.spans.containsKey (message.process.id, id) with
      | none =>
          rw [live] at moved
          cases moved
          apply Moved.alone parentSpan name info thread data given
          intro id same
          subst same
          apply (containsKey_false_iff perfetto.spans _).mp
          exact Bool.eq_false_iff.mpr (Option.filter_eq_none_iff.mp live id rfl)
      | some id =>
          rw [live] at moved
          cases moved
          obtain ⟨rfl, present⟩ := Option.filter_eq_some_iff.mp live
          obtain ⟨span, found⟩ := (containsKey_true_iff perfetto.spans _).mp present
          exact Moved.join id name info thread span data given found

/-- A record that does not fail makes one of the moves. -/
theorem moved_of_ok {perfetto next : Perfetto} {message : TraceRecord}
    (accepted : perfetto.onPacket true message = .ok (.ok next)) :
    message.AfterEpoch ∧ Moved perfetto message next := by
  by_cases after : message.AfterEpoch
  · refine ⟨after, ?_⟩
    rw [onPacket_of_after perfetto after] at accepted
    cases data : message.data with
    | exec =>
        rw [data] at accepted
        cases accepted
        exact Moved.exec data
    | exit =>
        rw [data] at accepted
        cases accepted
        exact Moved.exit data
    | newSpan id name info =>
        rw [data] at accepted
        simp only [asEvent, onData, newSpan] at accepted
        split at accepted
        · cases accepted
        · next missing =>
            have absent := (containsKey_false_iff perfetto.spans _).mp
              (Bool.eq_false_iff.mpr missing)
            cases given : message.thread with
            | none =>
                rw [given] at accepted
                cases accepted
            | some thread =>
                rw [given] at accepted
                cases accepted
                exact Moved.newSpan id name info thread data given absent
    | record span =>
        rw [data] at accepted
        apply moved_of_event perfetto next message (some span) [] RecordEventInfo.default
        · rw [data]
          rfl
        · simpa [asEvent, onData] using accepted
    | event parentSpan name info =>
        rw [data] at accepted
        apply moved_of_event perfetto next message parentSpan name info
        · rw [data]
          rfl
        · simpa [asEvent, onData] using accepted
    | enterSpan id =>
        rw [data] at accepted
        simp only [asEvent, onData, enterSpan] at accepted
        cases found : perfetto.spans.get? (message.process.id, id) with
        | none =>
            rw [found] at accepted
            cases accepted
            exact Moved.unknownEnter id data found
        | some span =>
            rw [found] at accepted
            cases accepted
            exact Moved.enter id span data found
    | exitSpan id =>
        rw [data] at accepted
        simp only [asEvent, onData, exitSpan] at accepted
        cases found : perfetto.spans.get? (message.process.id, id) with
        | none =>
            rw [found] at accepted
            cases accepted
            exact Moved.unknownExit id data found
        | some span =>
            rw [found] at accepted
            cases accepted
            exact Moved.flush id span data found
  · rw [onPacket_of_before perfetto after] at accepted
    cases accepted

/-- A record that creates a span is no event. -/
theorem not_eventIn_of_creates {message : TraceRecord} {pid : UInt32} {id : UInt64}
    {parentSpan : Option UInt64} (creates : message.Creates pid id) :
    ¬ message.EventIn parentSpan := by
  obtain ⟨-, name, info, data⟩ := creates
  rintro ⟨otherName, otherInfo, other⟩
  rw [data] at other
  cases other

/-- A new span and an event need a thread. -/
def NeedsThread (message : TraceRecord) : Prop :=
  (∃ id, message.Creates message.process.id id) ∨ ∃ parentSpan, message.EventIn parentSpan

/-- The record is processed unless its time, its span, or its thread forbids it. -/
structure Acceptable (perfetto : Perfetto) (message : TraceRecord) : Prop where
  after : message.AfterEpoch
  fresh : ∀ id, message.Creates message.process.id id →
    perfetto.spans.get? (message.process.id, id) = none
  given : NeedsThread message → message.thread ≠ none

theorem not_needsThread {message : TraceRecord}
    (other : (message.data = .exec ∨ message.data = .exit) ∨
      ∃ id, message.data = .enterSpan id ∨ message.data = .exitSpan id) :
    ¬ NeedsThread message := by
  rintro (⟨id, -, name, info, data⟩ | ⟨parentSpan, name, info, data⟩) <;>
    rcases other with (same | same) | ⟨span, same | same⟩ <;> rw [same] at data <;> cases data

theorem not_creates {message : TraceRecord} {pid : UInt32} {id : UInt64}
    (unneeded : ¬ NeedsThread message) : ¬ message.Creates pid id := by
  intro creates
  exact unneeded (Or.inl ⟨id, rfl, creates.2⟩)

/-- A move without a new span and without an event has no conditions but the time. -/
theorem Acceptable.of_not_needsThread {perfetto : Perfetto} {message : TraceRecord}
    (after : message.AfterEpoch) (unneeded : ¬ NeedsThread message) :
    Acceptable perfetto message :=
  ⟨after, fun _ creates => absurd creates (not_creates unneeded),
    fun needs => absurd needs unneeded⟩

theorem Acceptable.of_eventIn {perfetto : Perfetto} {message : TraceRecord} {thread : Thread}
    {parentSpan : Option UInt64} (after : message.AfterEpoch) (event : message.EventIn parentSpan)
    (given : message.thread = some thread) : Acceptable perfetto message where
  after := after
  fresh _ creates := absurd event (not_eventIn_of_creates creates)
  given _ := by simp [given]

/-- Each move was acceptable. -/
theorem Moved.acceptable {perfetto next : Perfetto} {message : TraceRecord}
    (after : message.AfterEpoch) (moved : Moved perfetto message next) :
    Acceptable perfetto message := by
  cases moved with
  | exec data => exact .of_not_needsThread after (not_needsThread (Or.inl (Or.inl data)))
  | exit data => exact .of_not_needsThread after (not_needsThread (Or.inl (Or.inr data)))
  | newSpan id name info thread data given absent =>
      refine ⟨after, ?_, fun _ => by simp [given]⟩
      rintro other ⟨-, otherName, otherInfo, same⟩
      rw [data] at same
      cases same
      exact absent
  | unknownEnter id data absent =>
      exact .of_not_needsThread after (not_needsThread (Or.inr ⟨id, Or.inl data⟩))
  | enter id span data found =>
      exact .of_not_needsThread after (not_needsThread (Or.inr ⟨id, Or.inl data⟩))
  | unknownExit id data absent =>
      exact .of_not_needsThread after (not_needsThread (Or.inr ⟨id, Or.inr data⟩))
  | flush id span data found =>
      exact .of_not_needsThread after (not_needsThread (Or.inr ⟨id, Or.inr data⟩))
  | join id name info thread span data given found =>
      exact .of_eventIn after ⟨name, info, data⟩ given
  | alone parentSpan name info thread data given absent =>
      exact .of_eventIn after ⟨name, info, data⟩ given

theorem event_ok (perfetto : Perfetto) (process : Data.Process) (thread : Thread)
    (timestamp : UInt64) (parentSpan : Option UInt64) (name : List Char)
    (info : RecordEventInfo) :
    ∃ next, perfetto.event true process (some thread) timestamp parentSpan name info =
      .ok next := by
  unfold event
  dsimp only
  split
  · exact ⟨_, rfl⟩
  · exact ⟨_, rfl⟩

/-- An acceptable record does not fail. -/
theorem Acceptable.ok {perfetto : Perfetto} {message : TraceRecord}
    (acceptable : Acceptable perfetto message) :
    ∃ next, perfetto.onPacket true message = .ok (.ok next) := by
  rw [onPacket_of_after perfetto acceptable.after]
  cases data : message.data with
  | exec => exact ⟨_, rfl⟩
  | exit => exact ⟨_, rfl⟩
  | newSpan id name info =>
      have creates : message.Creates message.process.id id := ⟨rfl, name, info, data⟩
      have absent := (containsKey_false_iff perfetto.spans _).mpr (acceptable.fresh id creates)
      obtain ⟨thread, given⟩ :=
        Option.ne_none_iff_exists'.mp (acceptable.given (Or.inl ⟨id, creates⟩))
      simp [asEvent, onData, newSpan, absent, given]
  | record span =>
      have event : message.EventIn (some span) :=
        ⟨[], RecordEventInfo.default, by rw [data]; rfl⟩
      obtain ⟨thread, given⟩ :=
        Option.ne_none_iff_exists'.mp (acceptable.given (Or.inr ⟨_, event⟩))
      obtain ⟨next, moved⟩ := event_ok perfetto message.process thread message.stamp (some span) []
        RecordEventInfo.default
      exact ⟨next, by rw [given, asEvent, onData, moved]⟩
  | event parentSpan name info =>
      have event : message.EventIn parentSpan := ⟨name, info, by rw [data]; rfl⟩
      obtain ⟨thread, given⟩ :=
        Option.ne_none_iff_exists'.mp (acceptable.given (Or.inr ⟨_, event⟩))
      obtain ⟨next, moved⟩ := event_ok perfetto message.process thread message.stamp parentSpan
        name info
      exact ⟨next, by rw [given, asEvent, onData, moved]; intro span same; cases same⟩
  | enterSpan id => exact ⟨_, rfl⟩
  | exitSpan id =>
      simp only [asEvent, onData, exitSpan]
      split
      · exact ⟨_, rfl⟩
      · exact ⟨_, rfl⟩

theorem onPacket_isOk_iff (perfetto : Perfetto) (message : TraceRecord) :
    (∃ next, perfetto.onPacket true message = .ok (.ok next)) ↔ Acceptable perfetto message := by
  constructor
  · rintro ⟨next, accepted⟩
    obtain ⟨after, moved⟩ := moved_of_ok accepted
    exact moved.acceptable after
  · exact Acceptable.ok

end Perfetto

/-- A call succeeds if it neither panics nor fails. -/
theorem toOption_bind_eq_some_iff {Result : Type} (answer : Panicking (Except String Result))
    (result : Result) :
    answer.toOption.bind Except.toOption = some result ↔ answer = .ok (.ok result) := by
  rcases answer with panic | error | other <;> simp [Except.toOption]

/-- The events of this machine are the records that do not fail. -/
def Perfetto.machine : Machine Perfetto TraceRecord where
  step perfetto message := (perfetto.onPacket true message).toOption.bind Except.toOption

namespace Perfetto

theorem machine_step_iff (perfetto next : Perfetto) (message : TraceRecord) :
    machine.step perfetto message = some next ↔
      perfetto.onPacket true message = .ok (.ok next) := toOption_bind_eq_some_iff _ _

theorem moved_of_step {perfetto next : Perfetto} {message : TraceRecord}
    (stepped : machine.step perfetto message = some next) :
    message.AfterEpoch ∧ Moved perfetto message next :=
  moved_of_ok ((machine_step_iff perfetto next message).mp stepped)

/-- The live spans of a process carry its number. -/
def WellKeyed (perfetto : Perfetto) : Prop :=
  ∀ pid id span, perfetto.spans.get? (pid, id) = some span → span.pid = pid

/-- The record enters the span or is an event in it. -/
def Uses (pid : UInt32) (id : UInt64) (message : TraceRecord) : Prop :=
  message.process.id = pid ∧ (message.data = .enterSpan id ∨ message.EventIn (some id))

/-- A live span gets the packet of a record that uses it. -/
def Pushes (perfetto : Perfetto) (message : TraceRecord) (id : UInt64) (span : Span)
    (packet : Idl.TracePacket) : Prop :=
  message.data = .enterSpan id ∧ packet = perfetto.beginPacket message span ∨
    ∃ name info thread, asEvent message.data = .event (some id) name info ∧
      message.thread = some thread ∧ packet = perfetto.instantPacket message thread name info

/-- This is what a record does to one span. -/
inductive SpanMove (perfetto : Perfetto) (message : TraceRecord) (next : Perfetto) (pid : UInt32)
    (id : UInt64) : Prop
  | created (name : List Char) (info : RecordEventInfo) (thread : Thread)
      (creates : message.Creates pid id) (given : message.thread = some thread)
      (absent : perfetto.spans.get? (pid, id) = none)
      (present : next.spans.get? (pid, id) =
        some ⟨pid, thread, perfetto.header message thread, name, info⟩)
  | ended (ends : message.Ends pid id) (absent : next.spans.get? (pid, id) = none)
  | pushed (span : Span) (packet : Idl.TracePacket) (own : message.process.id = pid)
      (pushes : Pushes perfetto message id span packet)
      (found : perfetto.spans.get? (pid, id) = some span)
      (present : next.spans.get? (pid, id) = some (span.push packet))
  | kept (fresh : ¬ message.Creates pid id) (stays : ¬ message.Ends pid id)
      (unused : Uses pid id message → perfetto.spans.get? (pid, id) = none)
      (same : next.spans.get? (pid, id) = perfetto.spans.get? (pid, id))

theorem push_get? (perfetto : Perfetto) (key other : UInt32 × UInt64)
    (packet : Idl.TracePacket) :
    (perfetto.push key packet).spans.get? other =
      if other = key then (perfetto.spans.get? key).map (Span.push packet)
      else perfetto.spans.get? other := HashMap.get?_modify _ _ _ _

/-- A pushing record neither creates nor ends a span. -/
theorem Pushes.uses {perfetto : Perfetto} {message : TraceRecord} {id : UInt64} {span : Span}
    {packet : Idl.TracePacket} (pushes : Pushes perfetto message id span packet) :
    Uses message.process.id id message := by
  rcases pushes with ⟨data, -⟩ | ⟨name, info, thread, data, -, -⟩
  · exact ⟨rfl, Or.inl data⟩
  · exact ⟨rfl, Or.inr ⟨name, info, data⟩⟩

/-- The data of a record that uses a span determines the span. -/
theorem Uses.not_other {message : TraceRecord} {pid other : UInt32} {id span : UInt64}
    (uses : Uses pid id message) :
    ¬ message.Creates other span ∧ ¬ message.Ends other span ∧
      (Uses other span message → (other, span) = (pid, id)) := by
  obtain ⟨rfl, data | ⟨name, info, data⟩⟩ := uses
  · refine ⟨?_, ?_, ?_⟩
    · rintro ⟨-, name, info, same⟩
      rw [data] at same
      cases same
    · rintro ⟨-, same | same⟩ <;> rw [data] at same <;> cases same
    · rintro ⟨rfl, same | ⟨name, info, same⟩⟩ <;> rw [data] at same <;> cases same
      rfl
  · refine ⟨?_, ?_, ?_⟩
    · rintro ⟨-, otherName, otherInfo, same⟩
      rw [same] at data
      cases data
    · rintro ⟨-, same | same⟩ <;> rw [same] at data <;> cases data
    · rintro ⟨rfl, same | ⟨otherName, otherInfo, same⟩⟩
      · rw [same] at data
        cases data
      · rw [data] at same
        cases same
        rfl

/-- A push at one span keeps the other ones. -/
theorem SpanMove.of_push {perfetto : Perfetto} {message : TraceRecord} {span : Span}
    {packet : Idl.TracePacket} {own : UInt64}
    (pushes : Pushes perfetto message own span packet)
    (found : perfetto.spans.get? (message.process.id, own) = some span) (pid : UInt32)
    (id : UInt64) :
    SpanMove perfetto message (perfetto.push (message.process.id, own) packet) pid id := by
  by_cases same : (pid, id) = (message.process.id, own)
  · cases same
    apply SpanMove.pushed span packet rfl pushes found
    rw [push_get?, if_pos rfl, found]
    rfl
  · have others := @Uses.not_other _ _ pid _ id pushes.uses
    apply SpanMove.kept others.1 others.2.1
    · intro uses
      exact absurd (others.2.2 uses) same
    · rw [push_get?, if_neg same]

/-- A record that creates, ends, and uses no span keeps all spans. -/
theorem SpanMove.of_idle {perfetto next : Perfetto} {message : TraceRecord} {pid : UInt32}
    {id : UInt64} (unneeded : ¬ NeedsThread message) (stays : ¬ message.Ends pid id)
    (unused : Uses pid id message → perfetto.spans.get? (pid, id) = none)
    (same : next.spans = perfetto.spans) : SpanMove perfetto message next pid id :=
  .kept (not_creates unneeded) stays unused (by rw [same])

/-- Each move has one effect on each span. -/
theorem Moved.span {perfetto next : Perfetto} {message : TraceRecord} (keyed : WellKeyed perfetto)
    (moved : Moved perfetto message next) (pid : UInt32) (id : UInt64) :
    SpanMove perfetto message next pid id := by
  cases moved with
  | exec data =>
      apply SpanMove.of_idle (not_needsThread (Or.inl (Or.inl data))) ?_ ?_ rfl
      · simp [TraceRecord.Ends, data]
      · simp [Uses, TraceRecord.EventIn, asEvent, data]
  | exit data =>
      by_cases own : message.process.id = pid
      · apply SpanMove.ended ⟨own, Or.inr data⟩
        rw [Perfetto.exit, HashMap.get?_retain, own]
        cases found : perfetto.spans.get? (pid, id) with
        | none => rfl
        | some span => simp [Option.filter, keyed pid id span found]
      · apply SpanMove.kept
        · rintro ⟨same, -⟩
          exact own same
        · rintro ⟨same, -⟩
          exact own same
        · rintro ⟨same, -⟩
          exact absurd same own
        · rw [Perfetto.exit, HashMap.get?_retain]
          cases found : perfetto.spans.get? (pid, id) with
          | none => rfl
          | some span => simp [Option.filter, keyed pid id span found, Ne.symm own]
  | newSpan own name info thread data given absent =>
      by_cases same : (pid, id) = (message.process.id, own)
      · cases same
        apply SpanMove.created name info thread ⟨rfl, name, info, data⟩ given absent
        rw [HashMap.get?_insert, if_pos rfl]
      · apply SpanMove.kept
        · rintro ⟨rfl, otherName, otherInfo, other⟩
          rw [data] at other
          cases other
          exact same rfl
        · simp [TraceRecord.Ends, data]
        · simp [Uses, TraceRecord.EventIn, asEvent, data]
        · rw [HashMap.get?_insert, if_neg same]
  | unknownEnter own data absent =>
      apply SpanMove.of_idle (not_needsThread (Or.inr ⟨own, Or.inl data⟩)) ?_ ?_ rfl
      · simp [TraceRecord.Ends, data]
      · rintro ⟨rfl, same | ⟨name, info, same⟩⟩ <;> rw [data] at same <;> cases same
        exact absent
  | enter own span data found => exact .of_push (Or.inl ⟨data, rfl⟩) found pid id
  | unknownExit own data absent =>
      by_cases same : (pid, id) = (message.process.id, own)
      · cases same
        exact .ended ⟨rfl, Or.inl data⟩ absent
      · apply SpanMove.of_idle (not_needsThread (Or.inr ⟨own, Or.inr data⟩)) ?_ ?_ rfl
        · rintro ⟨rfl, other | other⟩ <;> rw [data] at other <;> cases other
          exact same rfl
        · simp [Uses, TraceRecord.EventIn, asEvent, data]
  | flush own span data found =>
      by_cases same : (pid, id) = (message.process.id, own)
      · cases same
        apply SpanMove.ended ⟨rfl, Or.inl data⟩
        rw [HashMap.get?_remove, if_pos rfl]
      · apply SpanMove.kept (not_creates (not_needsThread (Or.inr ⟨own, Or.inr data⟩)))
        · rintro ⟨rfl, other | other⟩ <;> rw [data] at other <;> cases other
          exact same rfl
        · simp [Uses, TraceRecord.EventIn, asEvent, data]
        · rw [HashMap.get?_remove, if_neg same]
  | join own name info thread span data given found =>
      exact .of_push (Or.inr ⟨name, info, thread, data, given, rfl⟩) found pid id
  | alone parentSpan name info thread data given absent =>
      have event : message.EventIn parentSpan := ⟨name, info, data⟩
      apply SpanMove.kept
      · intro creates
        exact not_eventIn_of_creates creates event
      · rintro ⟨-, same | same⟩ <;> rw [same] at data <;> cases data
      · rintro ⟨rfl, same | ⟨otherName, otherInfo, same⟩⟩ <;> rw [same] at data <;> cases data
        exact absent id rfl
      · rfl

end Perfetto

end Feo.Tracing
