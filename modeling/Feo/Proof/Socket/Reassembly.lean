import Feo.Foundation.Split
import Feo.Proof.Socket.Connection
import Mathlib.Data.List.Induction

namespace Feo.Connection

open Foundation

variable {M : Type} [EncodeDecode M]

section Calls

variable {Stream : Type} [Read Stream]

/-- One more call extends the results. -/
theorem calls_snoc {connection middle final : Connection Stream} {flags : List Bool}
    {flag : Bool} {results : List (Except IoErrorKind (Option M))}
    {result : Except IoErrorKind (Option M)}
    (earlier : connection.calls flags = .ok (results, middle))
    (last : middle.call flag = .ok (result, final)) :
    connection.calls (flags ++ [flag]) = .ok (results ++ [result], final) := by
  induction flags generalizing connection results with
  | nil =>
      cases earlier
      simp only [List.nil_append, calls, last, bind, Except.bind]
      rfl
  | cons first rest hypothesis =>
      rw [calls] at earlier
      obtain ⟨⟨here, next⟩, called, earlier⟩ := bind_ok earlier
      obtain ⟨⟨others, ended⟩, continued, same⟩ := bind_ok earlier
      cases same
      simp only [List.cons_append, calls, called, hypothesis continued, bind, Except.bind]
      rfl

omit [EncodeDecode M] in
theorem delivered_append (first second : List (Except IoErrorKind (Option M))) :
    delivered (first ++ second) = delivered first ++ delivered second :=
  List.filterMap_append

end Calls

/-- The owner flags a blocked connection at the next call while there are bytes on the wire. -/
def Prompt (M : Type) [EncodeDecode M] (connection : Connection ByteStream)
    (flags : List Bool) : Prop :=
  AtEach (fun front flag => ∀ results middle,
    connection.calls (M := M) front = .ok (results, middle) →
      middle.streamReadable = false → middle.stream.wire ≠ [] → flag = true) flags

variable {Valid : M → Prop} {fragment : List UInt8} {bound : Nat}

/-- A connection without bytes on the wire owes nothing after a call that waits. -/
theorem Owes.paid (framing : Framing (EncodeDecode.tryDecode (M := M))
    EncodeDecode.encode Valid bound) {connection : Connection ByteStream}
    {remaining : List M} (owes : Owes Valid fragment connection remaining)
    (drained : connection.stream.wire = [])
    (waits : EncodeDecode.tryDecode (M := M) connection.window = .ok none) :
    remaining = [] := by
  cases remaining with
  | nil => rfl
  | cons message rest =>
      have bytes := owes.bytes
      rw [List.flatMap_cons, List.append_assoc] at bytes
      have decoded := framing.decode_complete (owes.valid message List.mem_cons_self) bytes (by
        rw [drained, List.append_nil] at bytes
        rw [bytes, List.length_append]
        exact Nat.le_add_right _ _)
      rw [waits] at decoded
      cases decoded.1

/-- A call keeps the debt, with or without a readiness event before it. -/
theorem Owes.call (framing : Framing (EncodeDecode.tryDecode (M := M))
    EncodeDecode.encode Valid bound) (roomy : bound + bufferSize / 2 < bufferSize)
    {connection : Connection ByteStream} {remaining : List M}
    (owes : Owes Valid fragment connection remaining) (flag : Bool) :
    ∃ result next, connection.call flag = .ok (result, next) ∧
      Advances (if flag then connection.setStreamReadable else connection) next ∧
      Served Valid fragment (if flag then connection.setStreamReadable else connection) next
        remaining result := by
  cases flag with
  | false => exact owes.read framing roomy
  | true => exact owes.setStreamReadable.read framing roomy

/-- An open connection does not report a reset. -/
theorem resets_open {connection : Connection ByteStream}
    (opened : connection.stream.closed = false) (flag : Bool) :
    ¬ (if flag then connection.setStreamReadable else connection).Fails M := by
  rintro ⟨-, resets, -⟩
  have same : (if flag then connection.setStreamReadable else connection).stream =
      connection.stream := by
    cases flag <;> rfl
  rw [Connection.resets, same, opened] at resets
  cases resets

/-- The calls on an open connection deliver what it owes in order, and each makes progress. -/
structure Reads (Valid : M → Prop) (fragment : List UInt8)
    (connection final : Connection ByteStream) (remaining rest : List M) (flags : List Bool)
    (results : List (Except IoErrorKind (Option M))) : Prop where
  run : connection.calls flags = .ok (results, final)
  size : results.length = flags.length
  succeeds : ∀ result ∈ results, ∃ message, result = .ok message
  order : remaining = delivered results ++ rest
  owes : Owes Valid fragment final rest
  opened : final.stream.closed = false
  waits : results.getLast? = some (.ok none) →
    EncodeDecode.tryDecode (M := M) final.window = .ok none ∧
      final.streamReadable = false
  progress : Prompt M connection flags → rest = [] ∨
    flags.length + rest.length + final.stream.script.length ≤
      remaining.length + connection.stream.script.length

/-- A call that delivers a message extends the reads. -/
theorem Reads.message {connection middle final : Connection ByteStream} {message : M}
    {remaining rest : List M} {flags : List Bool} {flag : Bool}
    {results : List (Except IoErrorKind (Option M))}
    (reads : Reads Valid fragment connection middle remaining (message :: rest) flags results)
    (called : middle.call flag = .ok (.ok (some message), final))
    (opened : final.stream.closed = false)
    (scripts : final.stream.script <:+ middle.stream.script)
    (owes : Owes Valid fragment final rest) :
    Reads Valid fragment connection final remaining rest (flags ++ [flag])
      (results ++ [.ok (some message)]) where
  run := calls_snoc reads.run called
  size := by simp [reads.size]
  succeeds result member := by
    rcases List.mem_append.mp member with earlier | last
    · exact reads.succeeds result earlier
    · exact ⟨some message, List.mem_singleton.mp last⟩
  order := by
    rw [reads.order, delivered_append, List.append_assoc]
    rfl
  owes := owes
  opened := opened
  waits impossible := by
    rw [List.getLast?_concat] at impossible
    cases impossible
  progress prompt := by
    have shorter := scripts.length_le
    rcases reads.progress ((atEach_concat _ _ _).mp prompt).1 with impossible | less
    · cases impossible
    · right
      simp only [List.length_append, List.length_cons, List.length_nil] at less ⊢
      omega

/-- A call that waits extends the reads. -/
theorem Reads.nothing (framing : Framing (EncodeDecode.tryDecode (M := M))
    EncodeDecode.encode Valid bound) {connection middle final : Connection ByteStream}
    {remaining rest : List M} {flags : List Bool} {flag : Bool}
    {results : List (Except IoErrorKind (Option M))}
    (reads : Reads Valid fragment connection middle remaining rest flags results)
    (called : middle.call (M := M) flag = .ok (.ok none, final))
    (opened : final.stream.closed = false) (owes : Owes Valid fragment final rest)
    (waits : EncodeDecode.tryDecode (M := M) final.window = .ok none)
    (blocked : final.streamReadable = false)
    (advance : (flag = false ∧ middle.streamReadable = false) ∧ final.stream = middle.stream ∨
      final.stream.wire = [] ∨ final.stream.script.length < middle.stream.script.length) :
    Reads Valid fragment connection final remaining rest (flags ++ [flag])
      (results ++ [.ok none]) where
  run := calls_snoc reads.run called
  size := by simp [reads.size]
  succeeds result member := by
    rcases List.mem_append.mp member with earlier | last
    · exact reads.succeeds result earlier
    · exact ⟨none, List.mem_singleton.mp last⟩
  order := by
    rw [reads.order, delivered_append]
    simp [delivered, Except.toOption]
  owes := owes
  opened := opened
  waits _ := ⟨waits, blocked⟩
  progress prompt := by
    by_cases drained : final.stream.wire = []
    · exact .inl (owes.paid framing drained waits)
    · rcases advance with ⟨⟨unflagged, asleep⟩, same⟩ | empty | shorter
      · have flagged := ((atEach_concat _ _ _).mp prompt).2 results middle reads.run asleep
          (by rw [← same]; exact drained)
        rw [unflagged] at flagged
        cases flagged
      · exact absurd empty drained
      · refine (reads.progress ((atEach_concat _ _ _).mp prompt).1).imp id ?_
        intro less
        rw [List.length_append, List.length_singleton]
        omega

/-- Every schedule of calls on an open connection reads what it owes. -/
theorem Owes.calls (framing : Framing (EncodeDecode.tryDecode (M := M))
    EncodeDecode.encode Valid bound) (roomy : bound + bufferSize / 2 < bufferSize)
    {connection : Connection ByteStream} {remaining : List M}
    (owes : Owes Valid fragment connection remaining) (opened : connection.stream.closed = false)
    (flags : List Bool) :
    ∃ results final rest, Reads Valid fragment connection final remaining rest flags results := by
  induction flags using List.reverseRecOn with
  | nil =>
      refine ⟨[], connection, remaining, ?_⟩
      exact {
        run := rfl
        size := rfl
        succeeds := fun _ member => nomatch member
        order := rfl
        owes := owes
        opened := opened
        waits := fun impossible => nomatch impossible
        progress := fun _ => .inr (by simp) }
  | append_singleton flags flag hypothesis =>
      obtain ⟨results, middle, rest, reads⟩ := hypothesis
      obtain ⟨result, final, called, advances, served⟩ := reads.owes.call framing roomy flag
      have same : (if flag then middle.setStreamReadable else middle).stream = middle.stream := by
        cases flag <;> rfl
      have still : final.stream.closed = false := by
        rw [advances.closed, same, reads.opened]
      have scripts := advances.scripts
      rw [same] at scripts
      cases served with
      | message debt => exact ⟨_, final, _, reads.message called still scripts debt⟩
      | nothing debt _ waits blocked _ advance =>
          refine ⟨_, final, rest, reads.nothing framing called still debt waits blocked ?_⟩
          cases flag with
          | false =>
              exact advance.imp (fun same => ⟨⟨rfl, same.1⟩, same.2⟩)
                (Or.imp_right fun blocked => blocked.2)
          | true =>
              exact advance.imp (fun impossible => nomatch impossible.1)
                (Or.imp_right fun blocked => blocked.2)
      | reset _ fails => exact absurd fails (resets_open reads.opened flag)

end Feo.Connection

namespace Feo.ProtocolSignal

open Connection

/-- The stream of a peer that sends the encoded signals. -/
def sentStream (signals : List ProtocolSignal) (script : List Chunk) (closed : Bool) :
    ByteStream where
  wire := signals.flatMap encode
  script := script
  closed := closed
  offers := []
  answered := none

theorem sentStream_owes (signals : List ProtocolSignal)
    (valid : ∀ signal ∈ signals, signal.Known ∧ signal.Small) (script : List Chunk)
    (closed : Bool) :
    Owes (fun signal : ProtocolSignal => signal.Known ∧ signal.Small) []
      (new (sentStream signals script closed)) signals := by
  have owes := new_owes framing signals valid (.inl rfl) script closed
  rw [List.append_nil] at owes
  exact owes

/-- A connection reassembles the sent signals for every chunking and every schedule of calls. -/
theorem connection_reassembles (signals : List ProtocolSignal)
    (valid : ∀ signal ∈ signals, signal.Known ∧ signal.Small) (script : List Chunk)
    (flags : List Bool) :
    ∃ results final,
      (new (sentStream signals script false)).calls flags = .ok (results, final) ∧
      results.length = flags.length ∧
      (∀ result ∈ results, ∃ message, result = .ok message) ∧
      delivered results <+: signals ∧
      (∀ offer ∈ final.stream.offers, 0 < offer) ∧
      (results.getLast? = some (.ok none) →
        tryDecode final.window = .ok none ∧ final.stream.answered ≠ some true ∧
          (final.stream.wire = [] → delivered results = signals)) ∧
      (Prompt ProtocolSignal (new (sentStream signals script false)) flags →
        signals.length + script.length ≤ flags.length → delivered results = signals) := by
  obtain ⟨results, final, rest, reads⟩ :=
    (sentStream_owes signals valid script false).calls framing (by decide) rfl flags
  have all (paid : rest = []) : delivered results = signals := by
    rw [reads.order, paid, List.append_nil]
  refine ⟨results, final, reads.run, reads.size, reads.succeeds, ⟨rest, reads.order.symm⟩,
    reads.owes.offered, ?_, ?_⟩
  · intro last
    obtain ⟨waits, blocked⟩ := reads.waits last
    exact ⟨waits, reads.owes.blocked blocked,
      fun drained => all (reads.owes.paid framing drained waits)⟩
  · intro prompt enough
    apply all
    rcases reads.progress prompt with paid | less
    · exact paid
    · change _ ≤ _ + script.length at less
      exact List.length_eq_zero_iff.mp (by omega)

/-- Two signals arrive in one chunk of three bytes, a pause, and the rest. -/
theorem connection_reassembles_two :
    ∃ results final,
      (new (sentStream [core (.terminateAck ⟨3⟩), activityHello ⟨5⟩] [.upTo 2, .wouldBlock]
        false)).calls [true, true, true, true] = .ok (results, final) ∧
      delivered results = [core (.terminateAck ⟨3⟩), activityHello ⟨5⟩] := by
  obtain ⟨results, final, run, -, -, -, -, -, complete⟩ := connection_reassembles
    [core (.terminateAck ⟨3⟩), activityHello ⟨5⟩]
    (by simp [Known, duration?, Small]) [.upTo 2, .wouldBlock] [true, true, true, true]
  refine ⟨results, final, run, complete ?_ (by decide)⟩
  intro front flag rest split _ _ _ _ _
  have member : flag ∈ [true, true, true, true] := by
    rw [split]
    simp
  simpa using member

end Feo.ProtocolSignal
