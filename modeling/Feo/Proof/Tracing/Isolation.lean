import Feo.Foundation.Isolation
import Feo.Proof.Tracing.Live

namespace Feo.Tracing

open Foundation
open Data (Thread RecordEventInfo RecordData TraceRecord)

/-- A packet names the process that it belongs to. -/
def Idl.TracePacket.sender (packet : Idl.TracePacket) : Option Int32 :=
  match packet.data with
  | .trackEvent _ => packet.trustedPid
  | .trackDescriptor descriptor =>
      (descriptor.process.bind Idl.ProcessDescriptor.pid).or
        (descriptor.thread.bind Idl.ThreadDescriptor.pid)

namespace Perfetto

/-- All packets belong to the process. -/
def SentBy (pid : UInt32) (packets : List Idl.TracePacket) : Prop :=
  ∀ packet ∈ packets, packet.sender = some pid.toInt32

/-- The trace of a live span belongs to its process. -/
def Owned (perfetto : Perfetto) : Prop :=
  ∀ pid id span, perfetto.spans.get? (pid, id) = some span → SentBy pid span.trace

/-- The packets that are written for a process. -/
def writtenFor (pid : UInt32) (perfetto : Perfetto) : List Idl.TracePacket :=
  perfetto.written.filter fun packet => packet.sender = some pid.toInt32

section Step

variable {perfetto next : Perfetto} {message : TraceRecord}

theorem sentBy_header (perfetto : Perfetto) (message : TraceRecord) (thread : Thread) :
    SentBy message.process.id (perfetto.header message thread) := by
  intro packet member
  rw [header, List.mem_cons, List.mem_singleton] at member
  rcases member with rfl | rfl <;> rfl

theorem sentBy_append {pid : UInt32} {first second : List Idl.TracePacket}
    (front : SentBy pid first) (back : SentBy pid second) : SentBy pid (first ++ second) := by
  intro packet member
  exact (List.mem_append.mp member).elim (front packet) (back packet)

theorem sentBy_singleton {pid : UInt32} {packet : Idl.TracePacket}
    (sent : packet.sender = some pid.toInt32) : SentBy pid [packet] := by
  intro other member
  rw [List.mem_singleton.mp member]
  exact sent

theorem pushes_sender {id : UInt64} {span : Span} {packet : Idl.TracePacket}
    (pushes : Pushes perfetto message id span packet) :
    packet.sender = some message.process.id.toInt32 := by
  rcases pushes with ⟨-, rfl⟩ | ⟨name, info, thread, -, -, rfl⟩ <;> rfl

/-- The spans of each process get packets of their process only. -/
theorem Owned.step (owned : Owned perfetto) (keyed : WellKeyed perfetto)
    (moved : Moved perfetto message next) : Owned next := by
  intro pid id span found
  cases moved.span keyed pid id with
  | created name info thread creates given absent present =>
      rw [present] at found
      cases found
      rw [← creates.1]
      exact sentBy_header perfetto message thread
  | ended ends absent =>
      rw [absent] at found
      cases found
  | pushed old packet own pushes before present =>
      rw [present] at found
      cases found
      apply sentBy_append (owned pid id old before) (sentBy_singleton _)
      rw [← own]
      exact pushes_sender pushes
  | kept fresh stays unused same =>
      rw [same] at found
      exact owned pid id span found

/-- A record writes packets of its process only. -/
theorem Moved.writes (moved : Moved perfetto message next) (owned : Owned perfetto) :
    ∃ chunk, next.written = perfetto.written ++ chunk ∧ SentBy message.process.id chunk := by
  have nothing (same : next.written = perfetto.written) : ∃ chunk,
      next.written = perfetto.written ++ chunk ∧ SentBy message.process.id chunk :=
    ⟨[], by rw [same, List.append_nil], by simp [SentBy]⟩
  cases moved with
  | flush id span data found =>
      exact ⟨_, rfl, sentBy_append (owned _ id span found) (sentBy_singleton rfl)⟩
  | alone parentSpan name info thread data given absent =>
      exact ⟨_, rfl, sentBy_append (sentBy_header perfetto message thread) (sentBy_singleton rfl)⟩
  | _ => exact nothing rfl

/-- A move is what the writer does after the epoch. -/
theorem step_of_moved (after : message.AfterEpoch) (moved : Moved perfetto message next) :
    machine.step perfetto message = some next := by
  rw [machine_step_iff, onPacket_of_after perfetto after]
  cases moved with
  | exec data =>
      rw [data]
      rfl
  | exit data =>
      rw [data]
      rfl
  | newSpan id name info thread data given absent =>
      have missing := (containsKey_false_iff perfetto.spans _).mpr absent
      rw [data, given]
      simp only [asEvent, onData, newSpan, missing]
      rfl
  | unknownEnter id data absent =>
      rw [data]
      show Except.ok (Except.ok (perfetto.enterSpan message.process.id message.stamp id)) = _
      rw [enterSpan, absent]
  | enter id span data found =>
      rw [data]
      show Except.ok (Except.ok (perfetto.enterSpan message.process.id message.stamp id)) = _
      rw [enterSpan, found]
      rfl
  | unknownExit id data absent =>
      rw [data]
      show Except.ok (perfetto.exitSpan true message.process.id message.stamp id) = _
      rw [exitSpan, absent]
  | flush id span data found =>
      rw [data]
      show Except.ok (perfetto.exitSpan true message.process.id message.stamp id) = _
      rw [exitSpan, found]
      rfl
  | join id name info thread span data given found =>
      have present : (some id).filter (fun id =>
          perfetto.spans.containsKey (message.process.id, id)) = some id :=
        Option.filter_some_pos ((containsKey_true_iff perfetto.spans _).mpr ⟨span, found⟩)
      rw [data, given]
      show Except.ok (perfetto.event true message.process (some thread) message.stamp (some id) name
        info) = _
      rw [event, present]
      rfl
  | alone parentSpan name info thread data given absent =>
      have missing : (parentSpan.filter fun id =>
          perfetto.spans.containsKey (message.process.id, id)) = none := by
        apply Option.filter_eq_none_iff.mpr
        intro id same
        rw [(containsKey_false_iff perfetto.spans _).mpr (absent id same)]
        exact Bool.false_ne_true
      rw [data, given]
      show Except.ok (perfetto.event true message.process (some thread) message.stamp parentSpan name
        info) = _
      rw [event, missing]
      rfl

end Step

/-- A writer that gets the records of one process only has its spans and its packets. -/
structure Alone (pid : UInt32) (perfetto alone : Perfetto) : Prop where
  keyed : WellKeyed perfetto
  owned : Owned perfetto
  trackUuid : alone.trackUuid = perfetto.trackUuid
  sequenceId : alone.sequenceId = perfetto.sequenceId
  spans : ∀ id, alone.spans.get? (pid, id) = perfetto.spans.get? (pid, id)
  written : alone.written = perfetto.writtenFor pid

theorem alone_new (trackUuid : UInt64) (sequenceId pid : UInt32) :
    Alone pid (new trackUuid sequenceId) (new trackUuid sequenceId) where
  keyed := wellKeyed_new trackUuid sequenceId
  owned := by
    intro other id span found
    rw [new_get?] at found
    cases found
  trackUuid := rfl
  sequenceId := rfl
  spans _ := rfl
  written := rfl

section Alone

variable {pid : UInt32} {perfetto next alone after : Perfetto} {message : TraceRecord}

theorem toInt32_injective : Function.Injective UInt32.toInt32 := by
  intro first last same
  rw [← UInt32.toUInt32_toInt32 first, same, UInt32.toUInt32_toInt32]

/-- The packets of a process are written for it only. -/
theorem writtenFor_append (pid : UInt32) {chunk : List Idl.TracePacket} {own : UInt32}
    (written : next.written = perfetto.written ++ chunk) (sent : SentBy own chunk) :
    next.writtenFor pid = perfetto.writtenFor pid ++ if own = pid then chunk else [] := by
  rw [writtenFor, written, List.filter_append]
  congr 1
  split
  · next same =>
      apply List.filter_eq_self.mpr
      intro packet member
      rw [sent packet member, same]
      exact decide_eq_true rfl
  · next other =>
      apply List.filter_eq_nil_iff.mpr
      intro packet member same
      rw [sent packet member] at same
      have numbers := Option.some.inj (of_decide_eq_true same)
      exact other (toInt32_injective numbers)

/-- The records of other processes change nothing for a process. -/
theorem Alone.kept (related : Alone pid perfetto alone) (other : message.process.id ≠ pid)
    (moved : Moved perfetto message next) : Alone pid next alone where
  keyed := related.keyed.step moved
  owned := related.owned.step related.keyed moved
  trackUuid := by cases moved <;> exact related.trackUuid
  sequenceId := by cases moved <;> exact related.sequenceId
  spans := by
    intro id
    rw [related.spans]
    cases moved.span related.keyed pid id with
    | created name info thread creates given absent present => exact absurd creates.1 other
    | ended ends absent => exact absurd ends.1 other
    | pushed span packet own pushes found present => exact absurd own other
    | kept fresh stays unused same => exact same.symm
  written := by
    obtain ⟨chunk, written, sent⟩ := moved.writes related.owned
    rw [related.written, writtenFor_append pid written sent, if_neg other, List.append_nil]

/-- A record of the process is processed alone as among the others. -/
theorem Alone.matched (related : Alone message.process.id perfetto alone)
    (moved : Moved perfetto message next) :
    ∃ after, Moved alone message after ∧ Alone message.process.id next after := by
  have keyed := related.keyed.step moved
  have owned := related.owned.step related.keyed moved
  have spans := related.spans
  have written := related.written
  obtain ⟨aloneWritten, aloneSpans, trackUuid, sequenceId⟩ := alone
  obtain rfl : trackUuid = perfetto.trackUuid := related.trackUuid
  obtain rfl : sequenceId = perfetto.sequenceId := related.sequenceId
  dsimp only at spans written
  cases moved with
  | exec data => exact ⟨_, .exec data, keyed, owned, rfl, rfl, spans, written⟩
  | exit data =>
      refine ⟨_, .exit data, keyed, owned, rfl, rfl, ?_, written⟩
      intro id
      simp only [exit, HashMap.get?_retain, spans]
  | newSpan id name info thread data given absent =>
      refine ⟨_, .newSpan id name info thread data given ((spans id).trans absent), keyed, owned,
        rfl, rfl, ?_, written⟩
      intro other
      simp only [HashMap.get?_insert, spans]
      rfl
  | unknownEnter id data absent =>
      exact ⟨_, .unknownEnter id data ((spans id).trans absent), keyed, owned, rfl, rfl, spans,
        written⟩
  | enter id span data found =>
      refine ⟨_, .enter id span data ((spans id).trans found), keyed, owned, rfl, rfl, ?_, written⟩
      intro other
      simp only [push_get?, spans]
      rfl
  | unknownExit id data absent =>
      exact ⟨_, .unknownExit id data ((spans id).trans absent), keyed, owned, rfl, rfl, spans,
        written⟩
  | flush id span data found =>
      refine ⟨_, .flush id span data ((spans id).trans found), keyed, owned, rfl, rfl, ?_, ?_⟩
      · intro other
        simp only [HashMap.get?_remove, spans]
      · have sent := sentBy_append (related.owned _ id span found)
          (sentBy_singleton (rfl : (perfetto.endPacket message span).sender = _))
        rw [writtenFor_append message.process.id rfl sent, if_pos rfl, ← written]
        rfl
  | join id name info thread span data given found =>
      refine ⟨_, .join id name info thread span data given ((spans id).trans found), keyed, owned,
        rfl, rfl, ?_, written⟩
      intro other
      simp only [push_get?, spans]
      rfl
  | alone parentSpan name info thread data given absent =>
      refine ⟨_, .alone parentSpan name info thread data given
        (fun id same => (spans id).trans (absent id same)), keyed, owned, rfl, rfl, spans, ?_⟩
      have sent := sentBy_append (sentBy_header perfetto message thread)
        (sentBy_singleton (rfl : (perfetto.instantPacket message thread name info).sender = _))
      rw [writtenFor_append message.process.id rfl sent, if_pos rfl, ← written]
      rfl

end Alone

/-- The processes are isolated from each other. -/
theorem isolated : machine.Isolated (fun message => message.process.id) Alone where
  matched := by
    intro perfetto next alone message related stepped
    obtain ⟨after, moved⟩ := moved_of_step stepped
    obtain ⟨last, aloneMoved, kept⟩ := related.matched moved
    exact ⟨last, step_of_moved after aloneMoved, kept⟩
  kept := by
    intro pid perfetto next alone message related other stepped
    exact related.kept other (moved_of_step stepped).2
  enabled := by
    intro perfetto alone message last related stepped
    have acceptable := (onPacket_isOk_iff alone message).mp
      ⟨last, (machine_step_iff alone last message).mp stepped⟩
    have accepted : Acceptable perfetto message := by
      refine ⟨acceptable.after, ?_, acceptable.given⟩
      intro id creates
      exact (related.spans id).symm.trans (acceptable.fresh id creates)
    obtain ⟨next, moved⟩ := accepted.ok
    exact ⟨next, (machine_step_iff perfetto next message).mpr moved⟩

/-- The tracer survives the records of all processes exactly if it survives those of each one, and
then it writes for each process what it writes for the process alone. -/
theorem run_isolated (trackUuid : UInt64) (sequenceId : UInt32) (history : List TraceRecord) :
    ((∃ final, machine.run (new trackUuid sequenceId) history = some final) ↔
      ∀ pid, ∃ alone, machine.run (new trackUuid sequenceId)
        (history.filter fun message => message.process.id = pid) = some alone) ∧
    ∀ final, machine.run (new trackUuid sequenceId) history = some final →
      ∀ pid, ∃ alone, machine.run (new trackUuid sequenceId)
          (history.filter fun message => message.process.id = pid) = some alone ∧
        alone.written = final.writtenFor pid ∧
          ∀ id, alone.spans.get? (pid, id) = final.spans.get? (pid, id) := by
  constructor
  · exact isolated.run_isSome_iff (alone_new trackUuid sequenceId) history
  · intro final reached pid
    obtain ⟨alone, before, related⟩ :=
      isolated.run (alone_new trackUuid sequenceId) reached pid
    exact ⟨alone, before, related.written, related.spans⟩

end Perfetto

end Feo.Tracing
