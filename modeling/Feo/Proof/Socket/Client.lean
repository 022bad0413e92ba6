import Feo.Construction.Socket.Client
import Feo.Proof.Socket.Send
import Feo.Proof.Socket.Server

namespace Feo.SocketClient

open Foundation Connection SocketServer

variable {fragment : List UInt8} {connection : Connection ByteStream}
  {remaining : List ProtocolSignal}

/-- A client hears the next signal, or nothing when nothing is readable, or a reset. -/
inductive Heard (fragment : List UInt8) (next : Connection ByteStream) :
    List ProtocolSignal → Except IoErrorKind (Option ProtocolSignal) → Prop where
  | message {signal : ProtocolSignal} {rest : List ProtocolSignal}
      (owes : Owes Valid fragment next rest) :
      Heard fragment next (signal :: rest) (.ok (some signal))
  | nothing {remaining : List ProtocolSignal} (owes : Owes Valid fragment next remaining)
      (unreadable : next.isReadable = false) : Heard fragment next remaining (.ok none)
  | reset {remaining : List ProtocolSignal} (owes : Owes Valid fragment next remaining) :
      Heard fragment next remaining (.error .connectionReset)

theorem readIfReadable_heard (owes : Owes Valid fragment connection remaining) :
    ∃ result next, readIfReadable connection = .ok (result, next) ∧
      Heard fragment next remaining result := by
  cases readable : connection.isReadable with
  | false =>
      refine ⟨_, connection, ?_, .nothing owes readable⟩
      rw [readIfReadable, readable]
      rfl
  | true =>
      obtain ⟨result, next, read, -, served⟩ := read_cases owes
      refine ⟨result, next, ?_, ?_⟩
      · rw [readIfReadable, if_pos readable]
        exact read
      · cases served with
        | message debt _ => exact .message debt
        | nothing debt _ _ blocked unreadable _ =>
            refine .nothing debt ?_
            rw [Connection.isReadable, blocked, unreadable]
            rfl
        | reset debt _ _ _ => exact .reset debt

/-- A call of `receive` whose poll succeeds never panics. -/
theorem receive_heard (owes : Owes Valid fragment connection remaining) (event : Bool) :
    ∃ result next, (SocketClient.mk connection).receive (.ok event) =
        .ok (result.mapError toError, ⟨next⟩) ∧ Heard fragment next remaining result := by
  obtain ⟨result, next, read, heard⟩ := readIfReadable_heard owes
  cases heard with
  | message debt =>
      refine ⟨_, next, ?_, .message debt⟩
      simp only [receive, read, bind, Except.bind]
      rfl
  | reset debt =>
      refine ⟨_, next, ?_, .reset debt⟩
      simp only [receive, read, bind, Except.bind]
      rfl
  | nothing debt _ =>
      have flagged : Owes Valid fragment (if event then next.setStreamReadable else next)
          remaining := by
        cases event with
        | false => exact debt
        | true => exact debt.setStreamReadable
      obtain ⟨result, final, again, heard⟩ := readIfReadable_heard flagged
      refine ⟨result, final, ?_, heard⟩
      simp only [receive, read, bind, Except.bind, again]
      rfl

end Feo.SocketClient

namespace Feo.Direct.WorkerConnector

open Foundation Connection SocketServer SocketClient

/-- Core signals as requests to a connection. -/
def coreRequests (requests : List (Signal × SendAnswers)) :
    List (ProtocolSignal × SendAnswers) :=
  requests.map fun request => (.core request.1, request.2)

/-- The signals among the results of a worker. -/
def signals (results : List (Except Error (Option Signal))) : List Signal :=
  results.filterMap fun result => result.toOption.join

variable {fragment : List UInt8} {connection : Connection ByteStream}

/-- The worker has received some of the signals in order, and the connection owes the rest. -/
structure Listened (fragment : List UInt8) (sent : List Signal)
    (results : List (Except Error (Option Signal))) (final : SocketClient ByteStream) : Prop where
  paid : ∃ rest, signals results ++ rest = sent ∧
    Owes Valid fragment final.connection (rest.map .core)
  resets : ∀ error, .error error ∈ results → error = toError .connectionReset
  quiet : results.getLast? = some (.ok none) → final.connection.isReadable = false

/-- Each call of the worker returns the next signal, nothing, or a reset. -/
theorem receive_core {sent : List Signal} (owes : Owes Valid fragment connection (sent.map .core))
    (event : Bool) :
    ∃ result next, receive ⟨connection⟩ (.ok event) = .ok (result, next) ∧
      Listened fragment sent [result] next := by
  obtain ⟨result, next, received, heard⟩ := receive_heard owes event
  unfold receive
  rw [received]
  generalize owed : sent.map ProtocolSignal.core = remaining at heard
  cases heard with
  | @message signal rest debt =>
      obtain ⟨first, others, rfl, rfl, rfl⟩ := List.map_eq_cons_iff.mp owed
      refine ⟨_, _, rfl, ⟨others, rfl, debt⟩, ?_, ?_⟩
      · simp
      · simp
  | nothing debt unreadable =>
      refine ⟨_, _, rfl, ⟨sent, rfl, ?_⟩, ?_, fun _ => unreadable⟩
      · rw [owed]
        exact debt
      · simp
  | reset debt =>
      refine ⟨_, _, rfl, ⟨sent, rfl, ?_⟩, ?_, ?_⟩
      · rw [owed]
        exact debt
      · simp
      · simp

/-- Every run of calls returns the signals in order. -/
theorem receives_listened {sent : List Signal}
    (owes : Owes Valid fragment connection (sent.map .core)) (events : List Bool) :
    ∃ results final, receives ⟨connection⟩ (events.map .ok) = .ok (results, final) ∧
      results.length = events.length ∧ Listened fragment sent results final := by
  induction events generalizing connection sent with
  | nil =>
      refine ⟨[], ⟨connection⟩, rfl, rfl, ⟨sent, rfl, owes⟩, ?_, ?_⟩
      · simp
      · simp
  | cons event events ih =>
      obtain ⟨result, ⟨next⟩, received, first⟩ := receive_core owes event
      obtain ⟨rest, front, debt⟩ := first.paid
      obtain ⟨results, final, run, size, later⟩ := ih debt
      obtain ⟨last, back, owed⟩ := later.paid
      refine ⟨result :: results, final, ?_, congrArg (· + 1) size, ⟨last, ?_, owed⟩, ?_, ?_⟩
      · simp only [List.map_cons, receives, received, bind, Except.bind, run]
        rfl
      · rw [← front, ← back, ← List.append_assoc]
        exact congrArg (· ++ last) (List.filterMap_append (l := [result]))
      · intro error member
        rcases List.mem_cons.mp member with rfl | inside
        · exact first.resets error (List.mem_singleton_self _)
        · exact later.resets error inside
      · intro quiet
        cases results with
        | nil =>
            cases List.length_eq_zero_iff.mp size.symm
            cases run
            exact first.quiet quiet
        | cons second others => exact later.quiet (by simpa using quiet)

/-- The stream that the scheduler writes to a worker with these answers. -/
def requestStream (requests : List (Signal × SendAnswers)) (script : List Chunk) (closed : Bool) :
    ByteStream :=
  ⟨((Connection.new ⟨[]⟩).sends (coreRequests requests)).stream.wire, script, closed, [], none⟩

/-- These signals have their whole frames on the wire. -/
def wholeSignals (requests : List (Signal × SendAnswers)) : List Signal :=
  (requests.filter fun request => takesWhole (ProtocolSignal.core request.1, request.2)).map
    Prod.fst

theorem wholeMessages_coreRequests (requests : List (Signal × SendAnswers)) :
    wholeMessages (coreRequests requests) = (wholeSignals requests).map .core := by
  unfold wholeMessages wholeSignals coreRequests
  rw [List.filter_map, List.map_map, List.map_map]
  rfl

/-- The worker's connection owes the signals whose frames were taken as a whole. -/
theorem requestStream_owes {requests : List (Signal × SendAnswers)}
    (valid : ∀ request ∈ requests, Valid (.core request.1))
    (refuses : ¬ Resumes (coreRequests requests)) (script : List Chunk) (closed : Bool) :
    ∃ fragment, Owes Valid fragment (Connection.new (requestStream requests script closed))
      ((wholeSignals requests).map .core) := by
  obtain ⟨fragment, wire, ends⟩ := sends_taken (coreRequests requests) refuses
  rw [wholeMessages_coreRequests] at wire
  have known : ∀ request ∈ coreRequests requests, Valid request.1 := by
    intro request member
    obtain ⟨source, inside, rfl⟩ := List.mem_map.mp member
    exact valid source inside
  have fragmented : Fragment ProtocolSignal.encode Valid fragment := by
    rcases ends with none | ⟨torn, member, stops, same⟩
    · exact .inl none
    · obtain ⟨_, proper⟩ := taken_of_stopsInside stops
      exact .inr ⟨torn.1, known torn member, same ▸ List.take_prefix _ _, same ▸ proper⟩
  refine ⟨fragment, ?_⟩
  rw [requestStream, wire]
  apply new_owes ProtocolSignal.framing _ ?_ fragmented
  intro signal member
  obtain ⟨core, inside, rfl⟩ := List.mem_map.mp member
  obtain ⟨request, chosen, rfl⟩ := List.mem_map.mp inside
  exact valid request (List.mem_filter.mp chosen).1

/-- A worker receives the requests of the scheduler in order, and none of them twice. -/
theorem receives_requests_inOrder (requests : List (Signal × SendAnswers))
    (valid : ∀ request ∈ requests, Valid (.core request.1))
    (refuses : ¬ Resumes (coreRequests requests)) (script : List Chunk) (closed : Bool)
    (events : List Bool) :
    ∃ results final, receives ⟨Connection.new (requestStream requests script closed)⟩
        (events.map .ok) = .ok (results, final) ∧
      signals results <+: wholeSignals requests ∧
      (∀ error, .error error ∈ results → error = toError .connectionReset) ∧
      (results.getLast? = some (.ok none) → final.connection.stream.wire = [] →
        signals results = wholeSignals requests) := by
  obtain ⟨fragment, owes⟩ := requestStream_owes valid refuses script closed
  obtain ⟨results, final, run, -, listened⟩ := receives_listened owes events
  obtain ⟨rest, paid, owed⟩ := listened.paid
  refine ⟨results, final, run, ⟨rest, paid⟩, listened.resets, ?_⟩
  intro quiet arrived
  obtain ⟨_, unreadable⟩ := Bool.or_eq_false_iff.mp (listened.quiet quiet)
  have nothing := owed.paid ProtocolSignal.framing arrived (owed.parsed unreadable)
  rw [List.map_eq_nil_iff.mp nothing, List.append_nil] at paid
  exact paid

/-- The stream refuses one request, and later it stops inside another. -/
def tornRequests : List (Signal × SendAnswers) :=
  [(.startup ⟨5⟩ ⟨Duration.zero⟩, ⟨[.accepted 7, .interrupted], .ok ()⟩),
    (.step ⟨5⟩ ⟨Duration.zero⟩, ⟨[.failed .wouldBlock], .ok ()⟩),
    (.shutdown ⟨5⟩ ⟨Duration.zero⟩, ⟨[], .ok ()⟩),
    (.terminate ⟨Duration.zero⟩, ⟨[.accepted 3, .failed .wouldBlock], .ok ()⟩)]

/-- Only the last request is torn. -/
theorem tornRequests_refuse : ¬ Resumes (coreRequests tornRequests) := by
  rintro ⟨before, torn, middle, later, after, split, stops, -⟩
  have whole : ∀ request ∈ (coreRequests tornRequests).dropLast,
      ¬ (0 < takenOf request ∧ takenOf request < offered request.1) := by decide
  refine whole torn ?_ stops
  rw [split, List.dropLast_append_of_ne_nil (List.cons_ne_nil later after)]
  simp

/-- The worker receives the two whole requests although they come in parts. -/
theorem receives_requests_inOrder_torn :
    ∃ results final, receives ⟨Connection.new (requestStream tornRequests [.upTo 9, .wouldBlock]
        false)⟩ ([true, true, false, true].map .ok) = .ok (results, final) ∧
      signals results <+: wholeSignals tornRequests ∧
      signals results = [.startup ⟨5⟩ ⟨Duration.zero⟩, .shutdown ⟨5⟩ ⟨Duration.zero⟩] := by
  obtain ⟨results, final, run, inOrder, -⟩ := receives_requests_inOrder tornRequests
    (by simp [tornRequests, Valid, ProtocolSignal.Known, ProtocolSignal.Small,
      ProtocolSignal.duration?, Duration.zero])
    tornRequests_refuse [.upTo 9, .wouldBlock] false [true, true, false, true]
  have computed : (receives ⟨Connection.new (requestStream tornRequests [.upTo 9, .wouldBlock]
      false)⟩ ([true, true, false, true].map .ok)).map Prod.fst =
        .ok [.ok none, .ok (some (.startup ⟨5⟩ ⟨Duration.zero⟩)),
          .ok (some (.shutdown ⟨5⟩ ⟨Duration.zero⟩)), .ok none] := by rfl
  rw [run] at computed
  cases computed
  exact ⟨_, final, run, inOrder, rfl⟩

end Feo.Direct.WorkerConnector
