import Feo.Proof.Tracing.Isolation
import Feo.Proof.Tracing.Pipeline

namespace Feo.Tracing

open Foundation
open Data (ThreadNameCache TraceRecord)

/-- The span that a record creates. -/
def Data.TraceRecord.created? (message : TraceRecord) : Option (UInt32 × UInt64) :=
  match message.data with
  | .newSpan id _ _ => some (message.process.id, id)
  | _ => none

theorem Data.TraceRecord.creates_iff {message : TraceRecord} {pid : UInt32} {id : UInt64} :
    message.Creates pid id ↔ message.created? = some (pid, id) := by
  unfold Data.TraceRecord.Creates Data.TraceRecord.created?
  cases message.data <;> simp

namespace Perfetto

/-- The tracer survives the records that have their times and threads and create each span once. -/
theorem run_isSome_of_distinct (trackUuid : UInt64) (sequenceId : UInt32)
    {history : List TraceRecord}
    (informed : ∀ message ∈ history,
      message.AfterEpoch ∧ (NeedsThread message → message.thread ≠ none))
    (distinct : (history.filterMap TraceRecord.created?).Nodup) :
    ∃ final, machine.run (new trackUuid sequenceId) history = some final := by
  induction history using List.reverseRecOn with
  | nil => exact ⟨_, rfl⟩
  | append_singleton front message ih =>
      rw [List.filterMap_append, List.nodup_append] at distinct
      obtain ⟨middle, reached⟩ := ih (fun other member => informed other (by simp [member]))
        distinct.1
      obtain ⟨after, given⟩ := informed message (by simp)
      have acceptable : Acceptable middle message := by
        refine ⟨after, ?_, given⟩
        intro id creates
        rw [← not_live_iff, (run_live reached).2]
        rintro ⟨before, creator, behind, split, created, -⟩
        have inside : (message.process.id, id) ∈ front.filterMap TraceRecord.created? :=
          List.mem_filterMap.mpr
            ⟨creator, by simp [split], Data.TraceRecord.creates_iff.mp created⟩
        have again : (message.process.id, id) ∈ [message].filterMap TraceRecord.created? :=
          List.mem_filterMap.mpr
            ⟨message, List.mem_singleton_self _, Data.TraceRecord.creates_iff.mp creates⟩
        exact distinct.2.2 _ inside _ again rfl
      obtain ⟨final, accepted⟩ := acceptable.ok
      refine ⟨final, ?_⟩
      rw [Machine.run_concat_iff]
      exact ⟨middle, reached, (machine_step_iff middle final message).mpr accepted⟩

end Perfetto

namespace Subscriber

/-- The span that a call creates. -/
def Call.created? : Call → Option UInt64
  | .newSpan id _ _ => some id
  | _ => none

/-- A traced process makes its requests, and the tracer reads from its connection. -/
structure Client where
  peer : Peer
  requests : List Request
  handled : List (TracePacket × Bool)
  answers : List ReadAnswer
  started : SystemTime
  ended : SystemTime

variable {accumulator : CobsAccumulator} {held : accumulator.Buffer → List UInt8}
  {fromBytesCobs : List UInt8 → Option TracePacket}

/-- A client uses the subscriber, which counts its spans, and the clock is behind the epoch. -/
structure Client.Traced (fromBytesCobs : List UInt8 → Option TracePacket) (client : Client) :
    Prop where
  built : client.requests.mapM build = .ok (client.handled.map Prod.fst)
  decodes : ∀ entry ∈ client.handled,
    fromBytesCobs (cobsFrame entry.1.serialize) = some entry.1
  arrived : Connection.received client.answers <+:
    (threadMain client.handled).flatMap Handling.bytes
  distinct : (client.requests.filterMap fun request => request.call.created?).Nodup
  started : 0 ≤ client.started.nanos
  ended : 0 ≤ client.ended.nanos

/-- The records that the connection of the client sends to the sink. -/
def Client.records (accumulator : CobsAccumulator) (client : Client) : List TraceRecord :=
  (connection accumulator client.peer client.started client.ended client.answers).1

/-- A record that shows a request creates the span of the request. -/
theorem Shows.created {peer : Peer} {cache : ThreadNameCache} {request : Request}
    {record : TraceRecord} (shows : Shows peer cache request record) :
    record.created? = request.call.created?.map fun id => (peer.pid, id) := by
  have data := shows.data
  have process := shows.process
  unfold Data.TraceRecord.created?
  rw [data, process]
  cases request.call <;> rfl

theorem Shows.informed {peer : Peer} {cache : ThreadNameCache} {request : Request}
    {record : TraceRecord} (shows : Shows peer cache request record) :
    record.AfterEpoch ∧ (Perfetto.NeedsThread record → record.thread ≠ none) := by
  refine ⟨?_, ?_⟩
  · show 0 ≤ record.timestamp.nanos
    rw [shows.timestamp]
    exact Int.natCast_nonneg _
  · intro needs
    cases sender : request.call.sender request.this with
    | some given =>
        obtain ⟨name, -, thread⟩ := shows.named given sender
        rw [thread]
        exact Option.some_ne_none _
    | none =>
        have data := shows.data
        cases call : request.call with
        | enter span =>
            rw [call] at data
            exact absurd needs (Perfetto.not_needsThread (Or.inr ⟨span, Or.inl data⟩))
        | exit span =>
            rw [call] at data
            exact absurd needs (Perfetto.not_needsThread (Or.inr ⟨span, Or.inr data⟩))
        | _ =>
            rw [call] at sender
            cases sender

/-- The shown requests create their spans. -/
theorem created_of_shows {peer : Peer} {cache : ThreadNameCache} {requests : List Request}
    {records : List TraceRecord} (shows : List.Forall₂ (Shows peer cache) requests records) :
    records.filterMap TraceRecord.created? =
      (requests.filterMap fun request => request.call.created?).map fun id => (peer.pid, id) := by
  induction shows with
  | nil => rfl
  | cons first _ ih =>
      rename_i request record others rest _
      rw [List.filterMap_cons, List.filterMap_cons, first.created, ih]
      cases request.call.created? <;> rfl

theorem informed_of_shows {peer : Peer} {cache : ThreadNameCache} {requests : List Request}
    {records : List TraceRecord} (shows : List.Forall₂ (Shows peer cache) requests records) :
    ∀ record ∈ records,
      record.AfterEpoch ∧ (Perfetto.NeedsThread record → record.thread ≠ none) := by
  induction shows with
  | nil => simp
  | cons first _ ih =>
      intro record member
      rcases List.mem_cons.mp member with rfl | later
      · exact first.informed
      · exact ih record later

/-- A connection sends the record for the start of the process and maybe the one for its end. -/
theorem report_records (peer : Peer) (started ended : SystemTime) (records : List TraceRecord)
    (flow : Flow) : ∃ last, (peer.report started ended records flow).1 =
      peer.exec started :: (records ++ last) ∧ (last = [] ∨ last = [peer.exit ended]) := by
  cases flow with
  | ended => exact ⟨[peer.exit ended], rfl, Or.inr rfl⟩
  | _ => exact ⟨[], by rw [List.append_nil]; rfl, Or.inl rfl⟩

/-- The records of a client show its requests, as far as their frames have arrived. -/
theorem Client.Traced.shown {client : Client} (traced : client.Traced fromBytesCobs)
    (documented : accumulator.Documented held fromBytesCobs) :
    ∃ cache records last,
      List.Forall₂ (Shows client.peer cache)
        (client.requests.take ((Connection.received client.answers).count 0)) records ∧
      client.records accumulator = client.peer.exec client.started :: (records ++ last) ∧
      (last = [] ∨ last = [client.peer.exit client.ended]) := by
  obtain ⟨tells, readable, short⟩ := handled_readable traced.built traced.decodes
  obtain ⟨cache, records, reports, connected⟩ := connection_frames documented readable
    (traced.arrived.trans (threadMain_bytes short)) client.peer client.started client.ended
  obtain ⟨last, sent, ends⟩ := report_records client.peer client.started client.ended records
    (Connection.flowOf client.answers)
  refine ⟨cache, records, last, shows_of_reports (List.forall₂_take _ tells) reports, ?_, ends⟩
  rw [Client.records, connected, sent]

/-- The records of a client have their times and threads and create each span once. -/
theorem Client.Traced.records {client : Client} (traced : client.Traced fromBytesCobs)
    (documented : accumulator.Documented held fromBytesCobs) :
    (∀ record ∈ client.records accumulator,
      record.AfterEpoch ∧ (Perfetto.NeedsThread record → record.thread ≠ none)) ∧
      ((client.records accumulator).filterMap TraceRecord.created?).Nodup := by
  obtain ⟨cache, records, last, shows, sent, ends⟩ := traced.shown documented
  rw [sent]
  constructor
  · intro record member
    rcases List.mem_cons.mp member with rfl | later
    · exact ⟨traced.started, fun needs => absurd needs
        (Perfetto.not_needsThread (Or.inl (Or.inl rfl)))⟩
    · rcases List.mem_append.mp later with shown | final
      · exact informed_of_shows shows record shown
      · rcases ends with rfl | rfl
        · cases final
        · rw [List.mem_singleton.mp final]
          exact ⟨traced.ended, fun needs => absurd needs
            (Perfetto.not_needsThread (Or.inl (Or.inr rfl)))⟩
  · have silent : last.filterMap TraceRecord.created? = [] := by
      rcases ends with rfl | rfl <;> rfl
    have start : (client.peer.exec client.started).created? = none := rfl
    rw [List.filterMap_cons_none start, List.filterMap_append, silent, List.append_nil,
      created_of_shows shows]
    apply List.Nodup.map
    · intro first second same
      exact (Prod.mk.inj same).2
    · exact traced.distinct.sublist ((List.take_sublist _ _).filterMap _)

/-- The tracer survives all processes that use the subscriber, in whatever order it receives their
records. -/
theorem clients_survive (documented : accumulator.Documented held fromBytesCobs)
    (clients : UInt32 → Client) (traced : ∀ pid, (clients pid).Traced fromBytesCobs)
    (sink : List TraceRecord)
    (ordered : ∀ pid, (sink.filter fun record => record.process.id = pid) <+:
      (clients pid).records accumulator)
    (trackUuid : UInt64) (sequenceId : UInt32) :
    ∃ final, Perfetto.machine.run (Perfetto.new trackUuid sequenceId) sink = some final := by
  refine (Perfetto.isolated.run_isSome_iff (Perfetto.alone_new trackUuid sequenceId) sink).mpr ?_
  intro pid
  obtain ⟨informed, distinct⟩ := (traced pid).records documented
  apply Perfetto.run_isSome_of_distinct
  · exact fun record member => informed record ((ordered pid).subset member)
  · exact distinct.sublist ((ordered pid).sublist.filterMap _)

theorem process_of_shows {peer : Peer} {cache : ThreadNameCache} {requests : List Request}
    {records : List TraceRecord} (shows : List.Forall₂ (Shows peer cache) requests records) :
    ∀ record ∈ records, record.process.id = peer.pid := by
  induction shows with
  | nil => simp
  | cons first _ ih =>
      intro record member
      rcases List.mem_cons.mp member with rfl | later
      · rw [first.process]
      · exact ih record later

/-- The records of a client carry its number. -/
theorem Client.Traced.own {client : Client} (traced : client.Traced fromBytesCobs)
    (documented : accumulator.Documented held fromBytesCobs) :
    ∀ record ∈ client.records accumulator, record.process.id = client.peer.pid := by
  obtain ⟨cache, records, last, shows, sent, ends⟩ := traced.shown documented
  rw [sent]
  intro record member
  rcases List.mem_cons.mp member with rfl | later
  · rfl
  · rcases List.mem_append.mp later with shown | final
    · exact process_of_shows shows record shown
    · rcases ends with rfl | rfl
      · cases final
      · rw [List.mem_singleton.mp final]
        rfl

/-- Each process creates a span and enters it. -/
def spanClient (pid : UInt32) : Client where
  peer := ⟨pid, none, fun _ _ => none⟩
  requests := spanRequests
  handled := spanHandled
  answers := spanAnswers
  started := Reading.unixEpoch
  ended := Reading.unixEpoch

def spanAccumulator : CobsAccumulator := plainAccumulator (decodeFrom (spanHandled.map Prod.fst))

theorem spanClient_traced (pid : UInt32) :
    (spanClient pid).Traced (decodeFrom (spanHandled.map Prod.fst)) where
  built := rfl
  decodes := fun _ member => decodeFrom_frame (List.mem_map_of_mem member)
  arrived := by
    show Connection.received spanAnswers <+: spanBytes
    rw [received_spanAnswers]
  distinct := List.nodup_singleton _
  started := Int.le_refl 0
  ended := Int.le_refl 0

/-- The records of one process are kept as a whole or not at all. -/
theorem filter_of_own {records : List TraceRecord} {own : UInt32}
    (sent : ∀ record ∈ records, record.process.id = own) (pid : UInt32) :
    (records.filter fun record => record.process.id = pid) = if own = pid then records else [] := by
  split
  · next same =>
      apply List.filter_eq_self.mpr
      intro record member
      exact decide_eq_true ((sent record member).trans same)
  · next other =>
      apply List.filter_eq_nil_iff.mpr
      intro record member same
      exact other ((sent record member).symm.trans (of_decide_eq_true same))

theorem clients_survive_two : ∃ final, Perfetto.machine.run (Perfetto.new 0 0)
    ((spanClient 1).records spanAccumulator ++ (spanClient 2).records spanAccumulator) =
      some final := by
  refine clients_survive (plainAccumulator_documented _) spanClient spanClient_traced _ ?_ 0 0
  intro pid
  have own (other : UInt32) : ∀ record ∈ (spanClient other).records spanAccumulator,
      record.process.id = other :=
    (spanClient_traced other).own (plainAccumulator_documented _)
  rw [List.filter_append, filter_of_own (own 1), filter_of_own (own 2)]
  by_cases first : 1 = pid
  · subst first
    rw [if_pos rfl, if_neg (by decide), List.append_nil]
    exact List.prefix_rfl
  · rw [if_neg first, List.nil_append]
    split
    · next second =>
        subst second
        exact List.prefix_rfl
    · exact List.nil_prefix

end Subscriber

end Feo.Tracing
