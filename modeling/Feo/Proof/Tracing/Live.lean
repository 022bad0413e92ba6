import Feo.Proof.Tracing.Move

namespace Feo.Tracing.Perfetto

open Foundation
open Data (Thread RecordEventInfo RecordData TraceRecord)

/-- The span of a process is live. -/
def Live (perfetto : Perfetto) (pid : UInt32) (id : UInt64) : Prop :=
  ∃ span, perfetto.spans.get? (pid, id) = some span

/-- A record of the first thread of a process at the epoch. -/
def atEpoch (pid : UInt32) (data : RecordData) : TraceRecord :=
  ⟨Reading.unixEpoch, ⟨pid, none⟩, some ⟨pid, none⟩, data⟩

theorem new_get? (trackUuid : UInt64) (sequenceId : UInt32) (key : UInt32 × UInt64) :
    (new trackUuid sequenceId).spans.get? key = none := HashMap.get?_empty key

theorem wellKeyed_new (trackUuid : UInt64) (sequenceId : UInt32) :
    WellKeyed (new trackUuid sequenceId) := by
  intro pid id span found
  rw [new_get?] at found
  cases found

theorem not_live_new (trackUuid : UInt64) (sequenceId : UInt32) (pid : UInt32) (id : UInt64) :
    ¬ Live (new trackUuid sequenceId) pid id := by
  rintro ⟨span, found⟩
  rw [new_get?] at found
  cases found

section Step

variable {perfetto next : Perfetto} {message : TraceRecord} {pid : UInt32} {id : UInt64}

theorem not_live_iff : ¬ Live perfetto pid id ↔ perfetto.spans.get? (pid, id) = none := by
  simp [Live, Option.eq_none_iff_forall_ne_some]

/-- A record that creates a span does not end it. -/
theorem not_ends_of_creates {other : UInt32} {span : UInt64} (creates : message.Creates pid id) :
    ¬ message.Ends other span := by
  obtain ⟨-, name, info, data⟩ := creates
  simp [TraceRecord.Ends, data]

/-- Each span keeps the number of its process. -/
theorem WellKeyed.step (keyed : WellKeyed perfetto) (moved : Moved perfetto message next) :
    WellKeyed next := by
  intro pid id span found
  cases moved.span keyed pid id with
  | created name info thread creates given absent present =>
      rw [present] at found
      cases found
      rfl
  | ended ends absent =>
      rw [absent] at found
      cases found
  | pushed old packet own pushes before present =>
      rw [present] at found
      cases found
      exact keyed pid id old before
  | kept fresh stays unused same =>
      rw [same] at found
      exact keyed pid id span found

/-- A property that the pushed packets keep holds of a live span since a record. -/
theorem holds_step (holds : Span → Prop) (opens : Prop) (keyed : WellKeyed perfetto)
    (moved : Moved perfetto message next)
    (created : ∀ name info thread, message.Creates pid id → message.thread = some thread →
      (holds ⟨pid, thread, perfetto.header message thread, name, info⟩ ↔ opens))
    (pushed : ∀ span packet, message.process.id = pid → Pushes perfetto message id span packet →
      perfetto.spans.get? (pid, id) = some span →
        (holds (span.push packet) ↔ opens ∨ holds span))
    (kept : ¬ message.Creates pid id → ¬ message.Ends pid id →
      (Uses pid id message → perfetto.spans.get? (pid, id) = none) → ¬ opens)
    (ended : message.Ends pid id → ¬ opens) :
    (∃ span, next.spans.get? (pid, id) = some span ∧ holds span) ↔
      opens ∨ (∃ span, perfetto.spans.get? (pid, id) = some span ∧ holds span) ∧
        ¬ message.Ends pid id := by
  cases moved.span keyed pid id with
  | created name info thread creates given absent present =>
      simp [present, absent, created name info thread creates given]
  | ended ends absent => simp [absent, ends, ended ends]
  | pushed span packet own pushes found present =>
      have stays : ¬ message.Ends pid id := by
        rw [← own]
        exact pushes.uses.not_other.2.1
      simp [present, found, stays, pushed span packet own pushes found]
  | kept fresh stays unused same => simp [same, stays, kept fresh stays unused]

/-- A span is live since its creation. -/
theorem live_step (keyed : WellKeyed perfetto) (moved : Moved perfetto message next) :
    Live next pid id ↔
      message.Creates pid id ∨ Live perfetto pid id ∧ ¬ message.Ends pid id := by
  have step := holds_step (fun _ => True) (message.Creates pid id) keyed moved
    (by simp +contextual) ?_ (fun fresh _ _ => fresh)
    (fun ends creates => not_ends_of_creates creates ends)
  · simpa [Live] using step
  · intro span packet own pushes found
    simp

end Step

/-- The spans of a run are well keyed, and they live since their creation. -/
theorem run_live {trackUuid : UInt64} {sequenceId : UInt32} {history : List TraceRecord}
    {perfetto : Perfetto}
    (reached : machine.run (new trackUuid sequenceId) history = some perfetto) :
    WellKeyed perfetto ∧ ∀ pid id, Live perfetto pid id ↔
      Since (fun _ => TraceRecord.Creates pid id) (TraceRecord.Ends pid id) history := by
  refine machine.run_induction (fun history perfetto => WellKeyed perfetto ∧ ∀ pid id,
    Live perfetto pid id ↔
      Since (fun _ => TraceRecord.Creates pid id) (TraceRecord.Ends pid id) history)
    ⟨wellKeyed_new _ _, ?_⟩ ?_ reached
  · intro pid id
    exact iff_of_false (not_live_new _ _ pid id) not_since_nil
  · rintro history perfetto message next - ⟨keyed, live⟩ stepped
    have moved := (moved_of_step stepped).2
    refine ⟨keyed.step moved, ?_⟩
    intro pid id
    rw [live_step keyed moved, since_concat, live pid id]

end Feo.Tracing.Perfetto
