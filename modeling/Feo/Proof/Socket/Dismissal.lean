import Feo.Proof.Socket.Server

namespace Feo

namespace Connection

open Foundation

/-- These are the bytes that a call of `read` can see when the stream does not block. -/
def arrived (connection : Connection ByteStream) : List UInt8 :=
  connection.window ++ if connection.streamReadable then connection.stream.wire else []

/-- The stream is open and hands out all its bytes without a pause. -/
structure Steady (connection : Connection ByteStream) : Prop where
  opened : connection.stream.closed = false
  pauseless : Chunk.wouldBlock ∉ connection.stream.script

/-- A call of `read` returns the first frame of the arrived bytes, or it waits without one. -/
def ReadsFirst (M : Type) [EncodeDecode M] (connection : Connection ByteStream) : Prop :=
  (∃ next, connection.read (M := M) = .ok (.ok none, next)) ∧
      EncodeDecode.tryDecode (M := M) connection.arrived = .ok none ∨
    ∃ (message : M) (next : Connection ByteStream),
      connection.read = .ok (.ok (some message), next) ∧
        EncodeDecode.tryDecode connection.arrived =
          .ok (some (message, (EncodeDecode.encode message).length))

variable {M : Type} [EncodeDecode M] {Valid : M → Prop} {fragment : List UInt8} {bound : Nat}
  {connection : Connection ByteStream} {remaining : List M}

/-- A steady stream is read until a frame is complete or no byte is left. -/
theorem Owes.read_flagged (framing : Framing (EncodeDecode.tryDecode (M := M))
    EncodeDecode.encode Valid bound) (roomy : bound + bufferSize / 2 < bufferSize)
    (owes : Owes Valid fragment connection remaining) (steady : connection.Steady)
    (flagged : connection.streamReadable = true) :
    connection.ReadsFirst M := by
  have all : connection.arrived = connection.window ++ connection.stream.wire := by
    rw [arrived, if_pos flagged]
  have bytes := owes.bytes
  obtain ⟨result, next, read, -, served⟩ := owes.read framing roomy
  cases served with
  | @message message rest debt _ =>
      have split : connection.arrived ++ [] = EncodeDecode.encode message ++
          (rest.flatMap EncodeDecode.encode ++ fragment) := by
        rw [List.append_nil, all, bytes, List.flatMap_cons, List.append_assoc]
      have long : (EncodeDecode.encode message).length ≤ connection.arrived.length := by
        rw [List.append_nil] at split
        rw [split, List.length_append]
        exact Nat.le_add_right _ _
      have valid := owes.valid message List.mem_cons_self
      exact .inr ⟨message, next, read, (framing.decode_complete valid split long).1⟩
  | nothing debt _ waits _ _ progress =>
      apply Or.inl
      refine ⟨⟨next, read⟩, ?_⟩
      have drained : next.stream.wire = [] := by
        rcases progress with unflagged | drained | blocked
        · rw [flagged] at unflagged
          cases unflagged.1
        · exact drained
        · exact absurd blocked.1 steady.pauseless
      have same : next.window = connection.arrived := by
        rw [all, bytes, ← debt.bytes, drained, List.append_nil]
      rw [← same]
      exact waits
  | reset _ fails _ _ =>
      have resets := fails.2.1
      rw [Connection.resets, steady.opened] at resets
      cases resets

/-- An unflagged stream leaves the frames of the buffer. -/
theorem Owes.read_buffered (framing : Framing (EncodeDecode.tryDecode (M := M))
    EncodeDecode.encode Valid bound) (owes : Owes Valid fragment connection remaining)
    (unflagged : connection.streamReadable = false) :
    connection.ReadsFirst M := by
  have buffered : connection.arrived = connection.window := by
    rw [arrived, unflagged]
    exact List.append_nil _
  rw [ReadsFirst, buffered]
  rcases owes.parseIfReadable framing with
    ⟨parsed, parses, same, -, waits, -⟩ | ⟨message, rest, next, first, parses, -, -, -, decodes⟩
  · have asleep : parsed.streamReadable = false := by rw [same, unflagged]
    rw [same] at waits
    exact .inl ⟨⟨parsed, read_unflagged parses same asleep⟩, waits⟩
  · rcases framing.decode_window owes.valid owes.fragmented owes.bytes with
      ⟨waits, -, -⟩ | ⟨other, others, split, -, decoded, -⟩
    · exact absurd waits decodes
    · cases first.symm.trans split
      exact .inr ⟨message, next, read_parsed parses, decoded⟩

/-- A call of `read` on a steady stream returns the first frame of the arrived bytes. -/
theorem Owes.read_arrived (framing : Framing (EncodeDecode.tryDecode (M := M))
    EncodeDecode.encode Valid bound) (roomy : bound + bufferSize / 2 < bufferSize)
    (owes : Owes Valid fragment connection remaining) (steady : connection.Steady) :
    connection.ReadsFirst M := by
  cases flagged : connection.streamReadable with
  | true => exact owes.read_flagged framing roomy steady flagged
  | false => exact owes.read_buffered framing flagged

end Connection

variable {Stream : Type} [Read Stream]

namespace SocketServer

/-- The flagged connections among these hold no complete frame. -/
def Silent (connections : List (Token × Connection Stream)) : Prop :=
  ∀ entry ∈ connections, entry.2.isReadable = true →
    ∃ next, entry.2.read (M := ProtocolSignal) = .ok (.ok none, next)

/-- The first complete frame of the flagged connections is no core signal. -/
def Greets (connections : List (Token × Connection Stream)) : Prop :=
  ∃ front token connection back, connections = front ++ (token, connection) :: back ∧
    Silent front ∧ connection.isReadable = true ∧
      ∃ signal next, connection.read = .ok (.ok (some signal), next) ∧
        ∀ core, signal ≠ ProtocolSignal.core core

/-- Each flagged connection has been read once without a frame. -/
def settle (connections : List (Token × Connection Stream)) :
    List (Token × Connection Stream) :=
  connections.map fun entry =>
    if entry.2.isReadable then
      match entry.2.read (M := ProtocolSignal) with
      | .ok (_, next) => (entry.1, next)
      | .error _ => entry
    else entry

variable {token : Token} {connection next : Connection Stream}
  {connections : List (Token × Connection Stream)}

theorem receiveOnReadable_idle (idle : connection.isReadable = false) :
    receiveOnReadable ((token, connection) :: connections) =
      (receiveOnReadable connections).map fun (result, others) =>
        (result, (token, connection) :: others) := by
  rw [receiveOnReadable, idle]
  cases receiveOnReadable connections <;> rfl

theorem receiveOnReadable_waits (readable : connection.isReadable = true)
    (read : connection.read (M := ProtocolSignal) = .ok (.ok none, next)) :
    receiveOnReadable ((token, connection) :: connections) =
      (receiveOnReadable connections).map fun (result, others) =>
        (result, (token, next) :: others) := by
  rw [receiveOnReadable, readable, if_pos rfl, read]
  cases receiveOnReadable connections <;>
    simp [bind, Except.bind, pure, Except.pure, Except.map]

/-- A flagged connection with a frame or an error ends the iteration. -/
theorem receiveOnReadable_ends {result : Except IoErrorKind (Option ProtocolSignal)}
    (readable : connection.isReadable = true) (read : connection.read = .ok (result, next))
    (found : result ≠ .ok none) :
    receiveOnReadable ((token, connection) :: connections) =
      .ok (result.map fun message => message.map fun signal => (token, signal),
        (token, next) :: connections) := by
  rw [receiveOnReadable, readable, if_pos rfl, read]
  cases result with
  | error kind => rfl
  | ok message =>
      cases message with
      | none => exact (found rfl).elim
      | some signal => rfl

theorem silent_cons : Silent ((token, connection) :: connections) ↔
    (connection.isReadable = true →
      ∃ next, connection.read (M := ProtocolSignal) = .ok (.ok none, next)) ∧
      Silent connections := by
  unfold Silent
  rw [List.forall_mem_cons]

/-- The first frame comes from the first connection, or it stands behind it. -/
theorem greets_cons : Greets ((token, connection) :: connections) ↔
    (connection.isReadable = true ∧ ∃ signal next, connection.read = .ok (.ok (some signal), next) ∧
      ∀ core, signal ≠ ProtocolSignal.core core) ∨
    (connection.isReadable = true →
      ∃ next, connection.read (M := ProtocolSignal) = .ok (.ok none, next)) ∧
      Greets connections := by
  constructor
  · rintro ⟨front, source, found, back, split, silent, readable, signal, next, read, foreign⟩
    cases front with
    | nil =>
        cases split
        exact .inl ⟨readable, signal, next, read, foreign⟩
    | cons entry front =>
        cases split
        obtain ⟨waits, silent⟩ := silent_cons.mp silent
        exact .inr ⟨waits, front, source, found, back, rfl, silent, readable, signal, next, read,
          foreign⟩
  · rintro (⟨readable, signal, next, read, foreign⟩ | ⟨waits, front, source, found, back, split,
      silent, rest⟩)
    · exact ⟨[], token, connection, connections, rfl, List.forall_mem_nil _, readable, signal, next,
        read, foreign⟩
    · refine ⟨(token, connection) :: front, source, found, back, ?_,
        silent_cons.mpr ⟨waits, silent⟩, rest⟩
      rw [split, List.cons_append]

/-- The iteration ends with a core signal or an error, unless it is answered by a panic. -/
def Ends (connections : List (Token × Connection Stream)) : Prop :=
  ∀ result after, receiveOnReadable connections = .ok (result, after) →
    (∃ source signal, result = .ok (some (source, .core signal))) ∨ ∃ kind, result = .error kind

/-- The iteration waits, greets a foreign frame, or ends with a core signal or an error. -/
def Decided (connections : List (Token × Connection Stream)) : Prop :=
  Silent connections ∧ ¬ Greets connections ∧
      receiveOnReadable connections = .ok (.ok none, settle connections) ∨
    ¬ Silent connections ∧ Greets connections ∧ (∃ source signal after,
      receiveOnReadable connections = .ok (.ok (some (source, signal)), after) ∧
        ∀ core, signal ≠ .core core) ∨
    ¬ Silent connections ∧ ¬ Greets connections ∧ Ends connections

/-- A connection without a frame leaves the decision to the connections behind it. -/
theorem decided_passes (decided : Decided connections)
    (waits : connection.isReadable = true →
      ∃ next, connection.read (M := ProtocolSignal) = .ok (.ok none, next))
    (settled : settle ((token, connection) :: connections) = (token, next) :: settle connections)
    (scanned : receiveOnReadable ((token, connection) :: connections) =
      (receiveOnReadable connections).map fun (result, others) =>
        (result, (token, next) :: others)) :
    Decided ((token, connection) :: connections) := by
  have silence : Silent ((token, connection) :: connections) ↔ Silent connections := by
    rw [silent_cons, and_iff_right waits]
  have greeting : Greets ((token, connection) :: connections) ↔ Greets connections := by
    rw [greets_cons, and_iff_right waits, or_iff_right]
    intro ⟨readable, signal, other, read, _⟩
    obtain ⟨same, waiting⟩ := waits readable
    rw [waiting] at read
    cases read
  unfold Decided
  rw [silence, greeting, settled]
  cases decided with
  | inl silent =>
      obtain ⟨silent, ungreeted, rest⟩ := silent
      apply Or.inl
      rw [scanned, rest]
      exact ⟨silent, ungreeted, rfl⟩
  | inr loud =>
      apply Or.inr
      cases loud with
      | inl greeted =>
          obtain ⟨loud, greets, source, signal, after, rest, foreign⟩ := greeted
          apply Or.inl
          rw [scanned, rest]
          exact ⟨loud, greets, source, signal, _, rfl, foreign⟩
      | inr ended =>
          obtain ⟨loud, ungreeted, ends⟩ := ended
          apply Or.inr
          have endsHere : Ends ((token, connection) :: connections) := by
            intro result after same
            rw [scanned] at same
            cases rest : receiveOnReadable connections with
            | error message =>
                rw [rest] at same
                cases same
            | ok answer =>
                rw [rest] at same
                cases same
                exact ends answer.1 answer.2 rest
          exact ⟨loud, ungreeted, endsHere⟩

/-- A first frame or error is not silent, and it decides the iteration alone. -/
theorem decided_found {result : Except IoErrorKind (Option ProtocolSignal)}
    (readable : connection.isReadable = true) (read : connection.read = .ok (result, next))
    (found : result ≠ .ok none) : Decided ((token, connection) :: connections) := by
  have loud : ¬ Silent ((token, connection) :: connections) := by
    rw [silent_cons]
    intro ⟨waits, _⟩
    obtain ⟨other, waiting⟩ := waits readable
    rw [read] at waiting
    cases waiting
    exact found rfl
  have scanned : receiveOnReadable ((token, connection) :: connections) =
      .ok (result.map fun message => message.map fun signal => (token, signal),
        (token, next) :: connections) := receiveOnReadable_ends readable read found
  have first : Greets ((token, connection) :: connections) ↔
      ∃ signal, result = .ok (some signal) ∧ ∀ core, signal ≠ ProtocolSignal.core core := by
    rw [greets_cons]
    constructor
    · intro greets
      cases greets with
      | inl here =>
          obtain ⟨_, signal, other, same, foreign⟩ := here
          rw [read] at same
          cases same
          exact ⟨signal, rfl, foreign⟩
      | inr behind =>
          obtain ⟨other, waiting⟩ := behind.1 readable
          rw [read] at waiting
          cases waiting
          exact (found rfl).elim
    · intro ⟨signal, same, foreign⟩
      rw [same] at read
      exact .inl ⟨readable, signal, next, read, foreign⟩
  unfold Decided
  rw [first]
  apply Or.inr
  cases result with
  | error kind =>
      apply Or.inr
      have ends : Ends ((token, connection) :: connections) := by
        intro answer after same
        rw [scanned] at same
        cases same
        exact .inr ⟨kind, rfl⟩
      have ungreeted : ¬ ∃ signal, Except.error kind = .ok (some signal) ∧
          ∀ core, signal ≠ ProtocolSignal.core core := fun ⟨_, same, _⟩ => nomatch same
      exact ⟨loud, ungreeted, ends⟩
  | ok message =>
      cases message with
      | none => exact (found rfl).elim
      | some signal =>
          by_cases foreign : ∀ core, signal ≠ ProtocolSignal.core core
          · exact .inl ⟨loud, ⟨signal, rfl, foreign⟩, token, signal, _, scanned, foreign⟩
          · apply Or.inr
            have ends : Ends ((token, connection) :: connections) := by
              intro answer after same
              rw [scanned] at same
              cases same
              simp only [not_forall, not_not] at foreign
              obtain ⟨core, rfl⟩ := foreign
              exact .inl ⟨token, core, rfl⟩
            refine ⟨loud, ?_, ends⟩
            intro ⟨other, same, outside⟩
            cases same
            exact foreign outside

theorem decided_panics {message : String} (readable : connection.isReadable = true)
    (read : connection.read (M := ProtocolSignal) = .error message) :
    Decided ((token, connection) :: connections) := by
  have wordless : ∀ result next, connection.read (M := ProtocolSignal) ≠ .ok (result, next) := by
    intro result next same
    rw [read] at same
    cases same
  apply Or.inr
  apply Or.inr
  rw [silent_cons, greets_cons]
  have awake : ¬ (connection.isReadable = true →
      ∃ next, connection.read (M := ProtocolSignal) = .ok (.ok none, next)) := by
    intro waits
    obtain ⟨next, same⟩ := waits readable
    exact wordless _ next same
  refine ⟨fun silent => awake silent.1, ?_, ?_⟩
  · intro greets
    cases greets with
    | inl here =>
        obtain ⟨_, signal, next, same, _⟩ := here
        exact wordless _ next same
    | inr behind => exact awake behind.1
  · intro result after same
    rw [receiveOnReadable, readable, if_pos rfl, read] at same
    cases same

/-- The frames of the flagged connections decide the iteration. -/
theorem receiveOnReadable_decided (connections : List (Token × Connection Stream)) :
    Decided connections := by
  induction connections with
  | nil =>
      refine .inl ⟨List.forall_mem_nil _, ?_, rfl⟩
      intro ⟨front, token, connection, back, split, _⟩
      cases front <;> cases split
  | cons entry connections hypothesis =>
      obtain ⟨token, connection⟩ := entry
      by_cases readable : connection.isReadable = true
      · cases read : connection.read (M := ProtocolSignal) with
        | error message => exact decided_panics readable read
        | ok answer =>
            obtain ⟨result, next⟩ := answer
            by_cases waiting : result = .ok none
            · subst waiting
              apply decided_passes hypothesis (fun _ => ⟨next, read⟩) ?_
                (receiveOnReadable_waits readable read)
              rw [settle, List.map_cons, if_pos readable, read]
              rfl
            · exact decided_found readable read waiting
      · have idle : connection.isReadable = false := Bool.eq_false_iff.mpr readable
        apply decided_passes hypothesis (fun flagged => absurd flagged readable) ?_
          (receiveOnReadable_idle idle)
        rw [settle, List.map_cons, if_neg readable]
        rfl

section Arrived

open Connection

/-- Each connection has a peer that writes valid frames, and its stream is steady. -/
def Framed (connections : List (Token × Connection ByteStream)) : Prop :=
  ∀ entry ∈ connections, entry.2.Steady ∧
    ∃ fragment remaining, Owes Valid fragment entry.2 remaining

variable {connections : List (Token × Connection ByteStream)}

/-- A framed connection returns the first frame of its arrived bytes. -/
theorem Framed.readsFirst (framed : Framed connections)
    {entry : Token × Connection ByteStream} (member : entry ∈ connections) :
    entry.2.ReadsFirst ProtocolSignal := by
  obtain ⟨steady, fragment, remaining, owes⟩ := framed entry member
  exact owes.read_arrived ProtocolSignal.framing (by decide) steady

/-- An unreadable connection has no frame. -/
theorem Framed.unreadable (framed : Framed connections)
    {entry : Token × Connection ByteStream} (member : entry ∈ connections)
    (idle : entry.2.isReadable = false) :
    ProtocolSignal.tryDecode entry.2.arrived = .ok none := by
  obtain ⟨_, fragment, remaining, owes⟩ := framed entry member
  obtain ⟨unflagged, empty⟩ := Bool.or_eq_false_iff.mp idle
  have buffered : entry.2.arrived = entry.2.window := by
    rw [arrived, unflagged]
    exact List.append_nil _
  rw [buffered]
  exact owes.parsed empty

/-- A framed connection is passed exactly when no frame of it has arrived. -/
theorem Framed.passed_iff (framed : Framed connections)
    {entry : Token × Connection ByteStream} (member : entry ∈ connections) :
    (entry.2.isReadable = true →
        ∃ next, entry.2.read (M := ProtocolSignal) = .ok (.ok none, next)) ↔
      ProtocolSignal.tryDecode entry.2.arrived = .ok none := by
  cases readable : entry.2.isReadable with
  | false => exact iff_of_true (by simp) (framed.unreadable member readable)
  | true =>
      rcases framed.readsFirst member with ⟨reads, decodes⟩ | ⟨signal, next, reads, decodes⟩
      · exact iff_of_true (fun _ => reads) decodes
      · apply iff_of_false
        · simp [reads]
        · change ProtocolSignal.tryDecode _ = _ at decodes
          simp [decodes]

/-- A framed connection returns a foreign signal exactly when its first frame is one. -/
theorem Framed.foreign_iff (framed : Framed connections)
    {entry : Token × Connection ByteStream} (member : entry ∈ connections) :
    (entry.2.isReadable = true ∧ ∃ signal next, entry.2.read = .ok (.ok (some signal), next) ∧
        ∀ core, signal ≠ ProtocolSignal.core core) ↔
      ∃ signal size, ProtocolSignal.tryDecode entry.2.arrived = .ok (some (signal, size)) ∧
        ∀ core, signal ≠ .core core := by
  cases readable : entry.2.isReadable with
  | false => simp [framed.unreadable member readable]
  | true =>
      rcases framed.readsFirst member with ⟨⟨next, reads⟩, decodes⟩ | ⟨signal, next, reads, decodes⟩
      · change ProtocolSignal.tryDecode _ = _ at decodes
        simp [reads, decodes]
      · change ProtocolSignal.tryDecode _ = _ at decodes
        simp [reads, decodes]

/-- Framed connections are silent exactly when no complete frame has arrived. -/
theorem Framed.silent_iff (framed : Framed connections) :
    Silent connections ↔
      ∀ entry ∈ connections, ProtocolSignal.tryDecode entry.2.arrived = .ok none := by
  unfold Silent
  apply forall₂_congr
  intro entry member
  exact framed.passed_iff member

/-- Framed connections greet exactly when the first frame that has arrived is foreign. -/
theorem Framed.greets_iff (framed : Framed connections) :
    Greets connections ↔ ∃ front entry back, connections = front ++ entry :: back ∧
      (∀ earlier ∈ front, ProtocolSignal.tryDecode earlier.2.arrived = .ok none) ∧
      ∃ signal size, ProtocolSignal.tryDecode entry.2.arrived = .ok (some (signal, size)) ∧
        ∀ core, signal ≠ .core core := by
  have first {front back : List (Token × Connection ByteStream)}
      {entry : Token × Connection ByteStream} (split : connections = front ++ entry :: back) :
      Framed front ∧ entry ∈ connections := by
    rw [split]
    refine ⟨fun earlier member => framed earlier ?_, by simp⟩
    rw [split]
    exact List.mem_append_left _ member
  constructor
  · rintro ⟨front, token, connection, back, split, silent, readable, found⟩
    obtain ⟨earlier, member⟩ := first split
    exact ⟨front, (token, connection), back, split, earlier.silent_iff.mp silent,
      (framed.foreign_iff member).mp ⟨readable, found⟩⟩
  · rintro ⟨front, ⟨token, connection⟩, back, split, silent, found⟩
    obtain ⟨earlier, member⟩ := first split
    exact ⟨front, token, connection, back, split, earlier.silent_iff.mpr silent,
      (framed.foreign_iff member).mpr found⟩

end Arrived

/-- The server returns no core signal although it needs no time to find out. -/
def Dismisses (server : SocketServer Stream) (poll : PollAnswer Stream) : Prop :=
  Greets server.acceptedConnections ∨
    Silent server.acceptedConnections ∧ ∃ events ready, poll = .ok events ∧
      handleEvents { server with acceptedConnections := settle server.acceptedConnections }
        events = .ok ready ∧
      (Silent ready.acceptedConnections ∨ Greets ready.acceptedConnections)

/-- The connector reports this result as no signal. -/
def Dropped {Failure : Type} (result : Except Failure (Option (Token × ProtocolSignal))) : Prop :=
  result = .ok none ∨ ∃ source signal, result = .ok (some (source, signal)) ∧
    ∀ core, signal ≠ .core core

/-- A core signal or an error is not dropped. -/
theorem ended_undropped {Failure : Type} {result : Except Failure (Option (Token × ProtocolSignal))}
    (ended : (∃ source signal, result = .ok (some (source, .core signal))) ∨
      ∃ kind, result = .error kind) : ¬ Dropped result := by
  intro dropped
  cases dropped with
  | inl none =>
      subst none
      simp at ended
  | inr foreign =>
      obtain ⟨source, signal, rfl, foreign⟩ := foreign
      simp only [Except.ok.injEq, Option.some.injEq, Prod.mk.injEq, reduceCtorEq, exists_false,
        or_false] at ended
      obtain ⟨_, core, _, same⟩ := ended
      exact foreign core same

/-- The iteration is dropped exactly when no frame is there, or a foreign one is the first. -/
theorem scan_dropped_iff (connections : List (Token × Connection Stream)) :
    (∃ result after, receiveOnReadable connections = .ok (result, after) ∧ Dropped result) ↔
      Silent connections ∨ Greets connections := by
  cases receiveOnReadable_decided connections with
  | inl silent =>
      obtain ⟨silent, _, scan⟩ := silent
      exact iff_of_true ⟨_, _, scan, .inl rfl⟩ (.inl silent)
  | inr loud =>
      cases loud with
      | inl greeted =>
          obtain ⟨_, greets, source, signal, after, scan, foreign⟩ := greeted
          exact iff_of_true ⟨_, _, scan, .inr ⟨source, signal, rfl, foreign⟩⟩ (.inr greets)
      | inr ended =>
          obtain ⟨loud, ungreeted, ends⟩ := ended
          apply iff_of_false ?_ (not_or.mpr ⟨loud, ungreeted⟩)
          intro ⟨result, after, scan, dropped⟩
          exact ended_undropped (ends result after scan) dropped

theorem mapError_dropped_iff (result : Except IoErrorKind (Option (Token × ProtocolSignal))) :
    Dropped (result.mapError toError) ↔ Dropped result := by
  cases result with
  | error kind => simp [Dropped, Except.mapError]
  | ok message => simp [Dropped, Except.mapError]

/-- After the poll the flagged connections decide the result. -/
theorem poll_dropped_iff (server : SocketServer Stream) (events : List (ReadyEvent Stream)) :
    (∃ result next, (do
      let ready ← server.handleEvents events
      let (result, final) ← ready.receiveOnReadableConnections
      return (result.mapError toError, final)) = .ok (result, next) ∧ Dropped result) ↔
      ∃ ready, server.handleEvents events = .ok ready ∧
        (Silent ready.acceptedConnections ∨ Greets ready.acceptedConnections) := by
  cases handled : server.handleEvents events with
  | error message => simp [bind, Except.bind]
  | ok ready =>
      have decided := scan_dropped_iff ready.acceptedConnections
      simp only [Except.ok.injEq, exists_eq_left']
      rw [← decided]
      cases scan : receiveOnReadable ready.acceptedConnections with
      | error message => simp [bind, Except.bind, receiveOnReadableConnections, scan]
      | ok answer =>
          obtain ⟨result, after⟩ := answer
          have mapped := mapError_dropped_iff result
          simp [bind, Except.bind, pure, Except.pure, receiveOnReadableConnections, scan, mapped]

/-- The result of the server is dropped exactly when it dismisses the poll. -/
theorem receive_dropped_iff (server : SocketServer Stream) (poll : PollAnswer Stream) :
    (∃ result next, server.receive poll = .ok (result, next) ∧ Dropped result) ↔
      server.Dismisses poll := by
  unfold Dismisses
  cases receiveOnReadable_decided server.acceptedConnections with
  | inl silent =>
      obtain ⟨silent, ungreeted, scan⟩ := silent
      rw [or_iff_right ungreeted, and_iff_right silent, receive, receiveOnReadableConnections, scan]
      cases poll with
      | error kind => simp [bind, Except.bind, pure, Except.pure]
      | ok events =>
          have second := poll_dropped_iff
            { server with acceptedConnections := settle server.acceptedConnections } events
          simp only [Except.ok.injEq, exists_and_left, exists_eq_left']
          exact second
  | inr loud =>
      cases loud with
      | inl greeted =>
          obtain ⟨_, greets, source, signal, after, scan, foreign⟩ := greeted
          apply iff_of_true ?_ (.inl greets)
          refine ⟨.ok (some (source, signal)), { server with acceptedConnections := after }, ?_,
            .inr ⟨source, signal, rfl, foreign⟩⟩
          rw [receive, receiveOnReadableConnections, scan]
          rfl
      | inr ended =>
          obtain ⟨loud, ungreeted, ends⟩ := ended
          apply iff_of_false
          · rintro ⟨result, next, received, dropped⟩
            rw [receive] at received
            obtain ⟨_, scanned, received⟩ := bind_ok received
            rw [receiveOnReadableConnections] at scanned
            obtain ⟨⟨found, after⟩, scan, same⟩ := bind_ok scanned
            cases same
            cases ends found after scan with
            | inl core =>
                obtain ⟨source, signal, rfl⟩ := core
                cases received
                exact ended_undropped (.inl ⟨source, signal, rfl⟩) dropped
            | inr failed =>
                obtain ⟨kind, rfl⟩ := failed
                cases received
                exact ended_undropped (.inr ⟨_, rfl⟩) dropped
          · exact not_or.mpr ⟨ungreeted, fun both => loud both.1⟩

/-- An error of the server is one of the operating system. -/
theorem receive_error {server next : SocketServer Stream} {poll : PollAnswer Stream} {error : Error}
    (received : server.receive poll = .ok (.error error, next)) : ∃ kind, error = toError kind := by
  rw [receive] at received
  obtain ⟨⟨found, after⟩, _, received⟩ := bind_ok received
  rcases found with kind | _ | result
  · cases received
    exact ⟨kind, rfl⟩
  · cases poll with
    | error kind => cases received
    | ok events =>
        obtain ⟨ready, _, received⟩ := bind_ok received
        obtain ⟨⟨second, final⟩, _, received⟩ := bind_ok received
        cases second with
        | error kind =>
            cases received
            exact ⟨kind, rfl⟩
        | ok message => cases received
  · cases received

end SocketServer

end Feo
