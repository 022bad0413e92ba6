import Feo.Construction.Socket.Server
import Feo.Proof.Socket.Reassembly

namespace Feo.SocketServer

open Foundation Connection

/-- The valid signals are those with a round trip. -/
abbrev Valid (signal : ProtocolSignal) : Prop := signal.Known ∧ signal.Small

/-- A connection is reached from acceptance by readiness events and calls of `read`. -/
inductive Reached (fragment : List UInt8) :
    Connection ByteStream → List ProtocolSignal → Prop where
  | accepted (messages : List ProtocolSignal) (valid : ∀ message ∈ messages, Valid message)
      (fragmented : Fragment ProtocolSignal.encode Valid fragment) (script : List Chunk)
      (closed : Bool) :
      Reached fragment
        (new ⟨messages.flatMap ProtocolSignal.encode ++ fragment, script, closed, [], none⟩)
        messages
  | flagged {connection : Connection ByteStream} {messages : List ProtocolSignal}
      (earlier : Reached fragment connection messages) :
      Reached fragment connection.setStreamReadable messages
  | served {connection next : Connection ByteStream} {message : ProtocolSignal}
      {rest : List ProtocolSignal} (earlier : Reached fragment connection (message :: rest))
      (read : connection.read = .ok (.ok (some message), next)) : Reached fragment next rest
  | waited {connection next : Connection ByteStream} {messages : List ProtocolSignal}
      {result : Except IoErrorKind (Option ProtocolSignal)}
      (earlier : Reached fragment connection messages)
      (read : connection.read = .ok (result, next))
      (nothing : ∀ message, result ≠ .ok (some message)) : Reached fragment next messages

/-- The call of `read` on a connection that owes signals. -/
theorem read_cases {fragment : List UInt8} {connection : Connection ByteStream}
    {messages : List ProtocolSignal} (owes : Owes Valid fragment connection messages) :
    ∃ result next, connection.read = .ok (result, next) ∧ Advances connection next ∧
      Served Valid fragment connection next messages result :=
  owes.read ProtocolSignal.framing (by decide)

/-- A reached connection owes its messages. -/
theorem Reached.owes {fragment : List UInt8} {connection : Connection ByteStream}
    {messages : List ProtocolSignal} (reached : Reached fragment connection messages) :
    Owes Valid fragment connection messages := by
  induction reached with
  | accepted messages valid fragmented script closed =>
      exact new_owes ProtocolSignal.framing messages valid fragmented script closed
  | flagged _ owes => exact owes.setStreamReadable
  | served _ read owes =>
      obtain ⟨result, other, run, -, served⟩ := read_cases owes
      rw [read] at run
      cases run
      cases served with
      | message debt => exact debt
  | waited _ read nothing owes =>
      obtain ⟨result, other, run, -, served⟩ := read_cases owes
      rw [read] at run
      cases run
      cases served with
      | message _ => exact absurd rfl (nothing _)
      | nothing debt => exact debt
      | reset debt => exact debt

/-- An accepted connection with its token and the messages that its peer still has to see read. -/
structure Entry where
  token : Token
  connection : Connection ByteStream
  messages : List ProtocolSignal

/-- The server holds the token and the connection. -/
def Entry.accepted (entry : Entry) : Token × Connection ByteStream :=
  (entry.token, entry.connection)

/-- The connection is a reached one. -/
def Entry.Owed (entry : Entry) : Prop :=
  ∃ fragment, Owes Valid fragment entry.connection entry.messages

/-- The peer has closed and the connection is still flagged. -/
def Dead (connection : Connection ByteStream) : Prop :=
  connection.stream.closed = true ∧ connection.streamReadable = true

/-- These are the complete frames of some connections. -/
def frames (entries : List Entry) : Nat := (entries.map fun entry => entry.messages.length).sum

theorem frames_cons (entry : Entry) (entries : List Entry) :
    frames (entry :: entries) = entry.messages.length + frames entries := rfl

/-- The connections in front of the target neither fail nor block the iteration. -/
structure Harmless (entry : Entry) : Prop where
  owed : entry.Owed
  alive : ¬ Dead entry.connection

/-- A harmless connection returns a message or nothing and stays harmless. -/
theorem Harmless.read {entry : Entry} (harmless : Harmless entry) :
    (∃ message rest next, entry.messages = message :: rest ∧
      entry.connection.read = .ok (.ok (some message), next) ∧
      Harmless ⟨entry.token, next, rest⟩) ∨
    ∃ next, entry.connection.read (M := ProtocolSignal) = .ok (.ok none, next) ∧
      Harmless ⟨entry.token, next, entry.messages⟩ := by
  obtain ⟨token, connection, messages⟩ := entry
  obtain ⟨⟨fragment, owes⟩, alive⟩ := harmless
  obtain ⟨result, next, run, advances, served⟩ := read_cases owes
  have still : ¬ Dead next := by
    rintro ⟨closed, flagged⟩
    exact alive ⟨by rw [← advances.closed, closed], advances.sleeps flagged⟩
  cases served with
  | message debt _ => exact .inl ⟨_, _, next, rfl, run, ⟨fragment, debt⟩, still⟩
  | nothing debt _ => exact .inr ⟨next, run, ⟨fragment, debt⟩, still⟩
  | reset debt fails =>
      have closed : connection.stream.closed = true := by
        have resets := fails.2.1
        rw [Connection.resets, Bool.and_eq_true] at resets
        exact resets.1
      exact absurd ⟨closed, fails.1⟩ alive

theorem receiveOnReadable_message {token : Token} {connection next : Connection ByteStream}
    {message : ProtocolSignal} (readable : connection.isReadable = true)
    (read : connection.read = .ok (.ok (some message), next))
    (rest : List (Token × Connection ByteStream)) :
    receiveOnReadable ((token, connection) :: rest) =
      .ok (.ok (some (token, message)), (token, next) :: rest) := by
  rw [receiveOnReadable, if_pos readable, read]
  rfl

theorem receiveOnReadable_error {token : Token} {connection next : Connection ByteStream}
    {kind : IoErrorKind} (readable : connection.isReadable = true)
    (read : connection.read (M := ProtocolSignal) = .ok (.error kind, next))
    (rest : List (Token × Connection ByteStream)) :
    receiveOnReadable ((token, connection) :: rest) =
      .ok (.error kind, (token, next) :: rest) := by
  rw [receiveOnReadable, if_pos readable, read]
  rfl

/-- A connection without a message hands over to the connections behind it. -/
theorem receiveOnReadable_skip {token : Token} {connection next : Connection ByteStream}
    (skipped : connection.isReadable = true ∧
        connection.read (M := ProtocolSignal) = .ok (.ok none, next) ∨
      connection.isReadable = false ∧ next = connection)
    {rest others : List (Token × Connection ByteStream)}
    {result : Except IoErrorKind (Option (Token × ProtocolSignal))}
    (behind : receiveOnReadable rest = .ok (result, others)) :
    receiveOnReadable ((token, connection) :: rest) = .ok (result, (token, next) :: others) := by
  rcases skipped with ⟨readable, read⟩ | ⟨unreadable, rfl⟩
  · rw [receiveOnReadable, if_pos readable, read]
    simp only [bind, Except.bind, behind]
    rfl
  · rw [receiveOnReadable, if_neg (by rw [unreadable]; decide), behind]
    rfl

/-- The iteration returns a message of the front or hands over to the connections behind it. -/
inductive Passed (front : List Entry) (rest : List (Token × Connection ByteStream)) : Prop where
  | returned (result : Token × ProtocolSignal) (after : List Entry)
      (scan : receiveOnReadable (front.map Entry.accepted ++ rest) =
        .ok (.ok (some result), after.map Entry.accepted ++ rest))
      (harmless : ∀ entry ∈ after, Harmless entry) (fewer : frames after < frames front)
  | behind (after : List Entry)
      (scan : ∀ result others, receiveOnReadable rest = .ok (result, others) →
        receiveOnReadable (front.map Entry.accepted ++ rest) =
          .ok (result, after.map Entry.accepted ++ others))
      (harmless : ∀ entry ∈ after, Harmless entry) (same : frames after = frames front)

/-- A harmless connection without a message lets the iteration pass. -/
theorem Passed.skip {entry : Entry} {next : Connection ByteStream} {front : List Entry}
    {rest : List (Token × Connection ByteStream)} (passed : Passed front rest)
    (alive : Harmless ⟨entry.token, next, entry.messages⟩)
    (skipped : entry.connection.isReadable = true ∧
        entry.connection.read (M := ProtocolSignal) = .ok (.ok none, next) ∨
      entry.connection.isReadable = false ∧ next = entry.connection) :
    Passed (entry :: front) rest := by
  cases passed with
  | returned result after scan harmless fewer =>
      refine .returned result (⟨entry.token, next, entry.messages⟩ :: after)
        (receiveOnReadable_skip skipped scan) (List.forall_mem_cons.mpr ⟨alive, harmless⟩) ?_
      rw [frames_cons, frames_cons]
      exact Nat.add_lt_add_left fewer _
  | behind after scan harmless same =>
      refine .behind (⟨entry.token, next, entry.messages⟩ :: after) ?_
        (List.forall_mem_cons.mpr ⟨alive, harmless⟩) ?_
      · intro result others behind
        exact receiveOnReadable_skip skipped (scan result others behind)
      · rw [frames_cons, frames_cons, same]

/-- The iteration passes the harmless connections unless one of them returns a message. -/
theorem receiveOnReadable_harmless (front : List Entry)
    (harmless : ∀ entry ∈ front, Harmless entry) (rest : List (Token × Connection ByteStream)) :
    Passed front rest := by
  induction front with
  | nil =>
      refine .behind [] ?_ (fun _ member => nomatch member) rfl
      exact fun _ _ behind => behind
  | cons entry front hypothesis =>
      obtain ⟨first, others⟩ := List.forall_mem_cons.mp harmless
      have passed := hypothesis others
      cases readable : entry.connection.isReadable with
      | false => exact passed.skip first (.inr ⟨readable, rfl⟩)
      | true =>
          rcases first.read with ⟨message, left, next, same, read, alive⟩ | ⟨next, read, alive⟩
          · refine .returned (entry.token, message) (⟨entry.token, next, left⟩ :: front)
              (receiveOnReadable_message readable read _)
              (List.forall_mem_cons.mpr ⟨alive, others⟩) ?_
            rw [frames_cons, frames_cons, same]
            exact Nat.add_lt_add_right (Nat.lt_succ_self _) _
          · exact passed.skip alive (.inl ⟨readable, read⟩)

/-- The flagged sources of the connection hold the complete frame of its first message. -/
structure Available (connection : Connection ByteStream) (message : ProtocolSignal)
    (rest : List ProtocolSignal) : Prop where
  owed : ∃ fragment, Owes Valid fragment connection (message :: rest)
  arrived : Chunk.wouldBlock ∉ connection.stream.script
  flagged : connection.streamReadable = true ∨
    connection.bufferReadable = true ∧ message.encode.length ≤ connection.window.length

/-- The first message is in the buffer. -/
def Settled (connection : Connection ByteStream) : Prop :=
  ProtocolSignal.tryDecode connection.window ≠ .ok none

/-- A window over the whole first frame does not wait. -/
theorem settled_of_length {fragment : List UInt8} {connection : Connection ByteStream}
    {message : ProtocolSignal} {rest : List ProtocolSignal}
    (owes : Owes Valid fragment connection (message :: rest))
    (long : message.encode.length ≤ connection.window.length) : Settled connection := by
  have bytes := owes.bytes
  rw [List.flatMap_cons, List.append_assoc] at bytes
  have decoded := ProtocolSignal.framing.decode_complete
    (owes.valid message List.mem_cons_self) bytes long
  intro waits
  rw [waits] at decoded
  cases decoded.1

theorem settled_of_drained {fragment : List UInt8} {connection : Connection ByteStream}
    {message : ProtocolSignal} {rest : List ProtocolSignal}
    (owes : Owes Valid fragment connection (message :: rest))
    (drained : connection.stream.wire = []) : Settled connection := by
  intro waits
  cases owes.paid ProtocolSignal.framing drained waits

/-- An available message is returned at once, or it is in the buffer after one error. -/
theorem Available.read {connection : Connection ByteStream} {message : ProtocolSignal}
    {rest : List ProtocolSignal} (available : Available connection message rest) :
    (∃ next, connection.read = .ok (.ok (some message), next)) ∨
    ∃ kind next, connection.read (M := ProtocolSignal) = .ok (.error kind, next) ∧
      Available next message rest ∧ ¬ Settled connection ∧ Settled next := by
  obtain ⟨⟨fragment, owes⟩, arrived, flagged⟩ := available
  obtain ⟨result, next, run, advances, served⟩ := read_cases owes
  cases served with
  | message debt _ => exact .inl ⟨next, run⟩
  | nothing debt _ waits _ _ progress =>
      rcases progress with ⟨asleep, same⟩ | drained | ⟨blocked, -⟩
      · rw [asleep] at flagged
        obtain ⟨-, long⟩ := flagged.resolve_left (by decide)
        have sameWindow : next.window = connection.window := by
          have bytes := debt.bytes.trans owes.bytes.symm
          rw [same] at bytes
          exact List.append_cancel_right bytes
        rw [← sameWindow] at long
        exact absurd waits (settled_of_length debt long)
      · exact absurd waits (settled_of_drained debt drained)
      · exact absurd blocked arrived
  | reset debt fails awake drained =>
      refine .inr ⟨_, next, run, ⟨⟨fragment, debt⟩, ?_, .inl awake⟩, ?_,
        settled_of_drained debt drained⟩
      · exact fun member => arrived (advances.scripts.subset member)
      · exact fun settled => settled fails.2.2

theorem Available.isReadable {connection : Connection ByteStream} {message : ProtocolSignal}
    {rest : List ProtocolSignal} (available : Available connection message rest) :
    connection.isReadable = true := by
  rw [Connection.isReadable, Bool.or_eq_true]
  exact available.flagged.imp id And.left

/-- The iteration that ends with a result or an error makes the result of `receive`. -/
theorem receive_of_scan (number : Nat) {connections after : List (Token × Connection ByteStream)}
    {result : Except IoErrorKind (Option (Token × ProtocolSignal))}
    (scan : receiveOnReadable connections = .ok (result, after)) (ends : result ≠ .ok none)
    (poll : PollAnswer ByteStream) :
    receive ⟨connections, number⟩ poll = .ok (result.mapError toError, ⟨after, number⟩) := by
  simp only [receive, receiveOnReadableConnections, scan, bind, Except.bind]
  rcases result with kind | _ | message
  · rfl
  · exact absurd rfl ends
  · rfl

theorem receives_cons {server next final : SocketServer ByteStream}
    {poll : PollAnswer ByteStream} {polls : List (PollAnswer ByteStream)}
    {result : Except Error (Option (Token × ProtocolSignal))}
    {results : List (Except Error (Option (Token × ProtocolSignal)))}
    (first : server.receive poll = .ok (result, next))
    (others : next.receives polls = .ok (results, final)) :
    server.receives (poll :: polls) = .ok (result :: results, final) := by
  rw [receives, first]
  simp only [bind, Except.bind, others]
  rfl

/-- The message is among the results of the first calls of `receive`. -/
def ReturnedWithin (server : SocketServer ByteStream) (polls : List (PollAnswer ByteStream))
    (bound : Nat) (token : Token) (message : ProtocolSignal) : Prop :=
  ∃ count ≤ bound, ∃ results final, server.receives (polls.take count) = .ok (results, final) ∧
    .ok (some (token, message)) ∈ results

theorem ReturnedWithin.later {server next : SocketServer ByteStream}
    {poll : PollAnswer ByteStream} {polls : List (PollAnswer ByteStream)} {bound : Nat}
    {token : Token} {message : ProtocolSignal}
    {result : Except Error (Option (Token × ProtocolSignal))}
    (first : server.receive poll = .ok (result, next))
    (returned : ReturnedWithin next polls bound token message) :
    ReturnedWithin server (poll :: polls) (bound + 1) token message := by
  obtain ⟨count, within, results, final, run, member⟩ := returned
  exact ⟨count + 1, Nat.succ_le_succ within, result :: results, final, receives_cons first run,
    List.mem_cons_of_mem _ member⟩

/-- The harmless connections in front and one error of the target bound the calls before it. -/
def Waits (front : List Entry) (target : Connection ByteStream) (bound : Nat) : Prop :=
  frames front < bound ∨ frames front ≤ bound ∧ Settled target

/-- Behind harmless connections, an available message waits for one call each of their frames. -/
theorem returnedWithin_harmless (back : List (Token × Connection ByteStream))
    (number token : Nat) (message : ProtocolSignal) (rest : List ProtocolSignal)
    (polls : List (PollAnswer ByteStream)) :
    ∀ (front : List Entry) (target : Connection ByteStream) (bound : Nat),
      (∀ entry ∈ front, Harmless entry) → Available target message rest →
      Waits front target bound → bound < polls.length →
      ReturnedWithin ⟨front.map Entry.accepted ++ (token, target) :: back, number⟩ polls
        (bound + 1) token message := by
  induction polls with
  | nil =>
      intro _ _ bound _ _ _ enough
      exact absurd enough (Nat.not_lt_zero bound)
  | cons poll polls hypothesis =>
      intro front target bound harmless available waits enough
      rw [List.length_cons] at enough
      cases receiveOnReadable_harmless front harmless ((token, target) :: back) with
      | returned result after scan kept fewer =>
          have first := receive_of_scan number scan (by simp) poll
          have less : Waits after target (bound - 1) := by
            rcases waits with less | ⟨less, settled⟩
            · exact .inl (by omega)
            · exact .inr ⟨by omega, settled⟩
          have positive : bound - 1 + 1 = bound := by
            rcases waits with less | ⟨less, -⟩ <;> omega
          have later := hypothesis after target (bound - 1) kept available less (by omega)
          rw [positive] at later
          exact later.later first
      | behind after scan kept same =>
          rcases available.read with ⟨next, read⟩ | ⟨kind, next, read, still, unsettled, settled⟩
          · have reached := scan _ _
              (receiveOnReadable_message available.isReadable read back)
            have first := receive_of_scan number reached (by simp) poll
            refine ⟨1, by omega, [.ok (some (token, message))], _, receives_cons first rfl, ?_⟩
            exact List.mem_singleton_self _
          · have reached := scan _ _
              (receiveOnReadable_error available.isReadable read back)
            have first := receive_of_scan number reached (by simp) poll
            have less := waits.resolve_right fun settles => unsettled settles.2
            have positive : bound - 1 + 1 = bound := by omega
            have later := hypothesis after next (bound - 1) kept still
              (.inr ⟨by omega, settled⟩) (by omega)
            rw [positive] at later
            exact later.later first

/-- A dead connection stays dead and ends each iteration that gets to it. -/
structure Silencing (connection : Connection ByteStream) : Prop where
  owed : ∃ fragment messages, Owes Valid fragment connection messages
  dead : Dead connection
  arrived : Chunk.wouldBlock ∉ connection.stream.script

theorem Silencing.read {connection : Connection ByteStream} (silencing : Silencing connection) :
    ∃ result next, connection.read (M := ProtocolSignal) = .ok (result, next) ∧
      result ≠ .ok none ∧ Silencing next := by
  obtain ⟨⟨fragment, messages, owes⟩, ⟨closed, flagged⟩, arrived⟩ := silencing
  obtain ⟨result, next, run, advances, served⟩ := read_cases owes
  have awake := advances.awake flagged closed arrived
  have dead : Dead next := ⟨advances.closed.trans closed, awake⟩
  have still : Chunk.wouldBlock ∉ next.stream.script :=
    fun member => arrived (advances.scripts.subset member)
  cases served with
  | message debt _ => exact ⟨_, next, run, by simp, ⟨fragment, _, debt⟩, dead, still⟩
  | nothing debt _ _ blocked =>
      rw [awake] at blocked
      cases blocked
  | reset debt _ => exact ⟨_, next, run, by simp, ⟨fragment, _, debt⟩, dead, still⟩

/-- The iteration ends at a dead connection at the latest. -/
structure Ended (front : List Entry) (token : Token) (connection : Connection ByteStream)
    (back : List (Token × Connection ByteStream))
    (result : Except IoErrorKind (Option (Token × ProtocolSignal))) (after : List Entry)
    (next : Connection ByteStream) : Prop where
  scan : receiveOnReadable (front.map Entry.accepted ++ (token, connection) :: back) =
    .ok (result, after.map Entry.accepted ++ (token, next) :: back)
  ends : result ≠ .ok none
  owed : ∀ entry ∈ after, entry.Owed
  tokens : after.map Entry.token = front.map Entry.token
  silencing : Silencing next
  source : ∀ source message, result = .ok (some (source, message)) →
    source = token ∨ source ∈ front.map Entry.token

/-- An entry without a message passes the iteration on to a dead connection. -/
theorem Ended.skip {entry : Entry} {changed connection next : Connection ByteStream}
    {front after : List Entry} {token : Token}
    {back : List (Token × Connection ByteStream)}
    {result : Except IoErrorKind (Option (Token × ProtocolSignal))}
    (ended : Ended front token connection back result after next)
    (owed : Entry.Owed ⟨entry.token, changed, entry.messages⟩)
    (skipped : entry.connection.isReadable = true ∧
        entry.connection.read (M := ProtocolSignal) = .ok (.ok none, changed) ∨
      entry.connection.isReadable = false ∧ changed = entry.connection) :
    Ended (entry :: front) token connection back result
      (⟨entry.token, changed, entry.messages⟩ :: after) next where
  scan := receiveOnReadable_skip skipped ended.scan
  ends := ended.ends
  owed := List.forall_mem_cons.mpr ⟨owed, ended.owed⟩
  tokens := by
    rw [List.map_cons, List.map_cons, ended.tokens]
  silencing := ended.silencing
  source source message same :=
    (ended.source source message same).imp id (List.mem_cons_of_mem _)

theorem receiveOnReadable_silencing (token : Token) (connection : Connection ByteStream)
    (silencing : Silencing connection) (back : List (Token × Connection ByteStream))
    (front : List Entry) (owed : ∀ entry ∈ front, entry.Owed) :
    ∃ result after next, Ended front token connection back result after next := by
  induction front with
  | nil =>
      have readable : connection.isReadable = true := by
        rw [Connection.isReadable, silencing.dead.2, Bool.true_or]
      obtain ⟨result, next, read, ends, still⟩ := silencing.read
      rcases result with kind | _ | message
      · exact ⟨.error kind, [], next, receiveOnReadable_error readable read back, by simp,
          List.forall_mem_nil _, rfl, still, fun _ _ impossible => nomatch impossible⟩
      · exact absurd rfl ends
      · refine ⟨.ok (some (token, message)), [], next,
          receiveOnReadable_message readable read back, by simp, List.forall_mem_nil _, rfl,
          still, ?_⟩
        intro source other same
        cases same
        exact .inl rfl
  | cons entry front hypothesis =>
      obtain ⟨⟨fragment, owes⟩, others⟩ := List.forall_mem_cons.mp owed
      obtain ⟨result, after, next, ended⟩ := hypothesis others
      obtain ⟨name, other, messages⟩ := entry
      cases readable : other.isReadable with
      | false => exact ⟨result, _, next, ended.skip ⟨fragment, owes⟩ (.inr ⟨readable, rfl⟩)⟩
      | true =>
          obtain ⟨answer, changed, read, -, served⟩ := read_cases owes
          cases served with
          | nothing debt _ =>
              exact ⟨result, _, next, ended.skip ⟨fragment, debt⟩ (.inl ⟨readable, read⟩)⟩
          | reset debt _ =>
              exact ⟨.error .connectionReset, ⟨name, changed, messages⟩ :: front,
                connection, receiveOnReadable_error readable read _, by simp,
                List.forall_mem_cons.mpr ⟨⟨fragment, debt⟩, others⟩, rfl, silencing,
                fun _ _ impossible => nomatch impossible⟩
          | @message message rest debt _ =>
              refine ⟨.ok (some (name, message)), ⟨name, changed, rest⟩ :: front,
                connection, receiveOnReadable_message readable read _, by simp,
                List.forall_mem_cons.mpr ⟨⟨fragment, debt⟩, others⟩, rfl, silencing, ?_⟩
              intro source other same
              cases same
              exact .inr List.mem_cons_self

/-- A dead connection silences the connections behind it for every number of calls. -/
theorem receives_silencing (back : List (Token × Connection ByteStream)) (number token : Nat)
    (polls : List (PollAnswer ByteStream)) :
    ∀ (front : List Entry) (connection : Connection ByteStream), Silencing connection →
      (∀ entry ∈ front, entry.Owed) →
      ∃ results final,
        receives ⟨front.map Entry.accepted ++ (token, connection) :: back, number⟩ polls =
          .ok (results, final) ∧
        ∀ source message, .ok (some (source, message)) ∈ results →
          source = token ∨ source ∈ front.map Entry.token := by
  induction polls with
  | nil => exact fun _ _ _ _ => ⟨[], _, rfl, fun _ _ member => nomatch member⟩
  | cons poll polls hypothesis =>
      intro front connection silencing owed
      obtain ⟨result, after, next, ended⟩ :=
        receiveOnReadable_silencing token connection silencing back front owed
      obtain ⟨results, final, run, sources⟩ := hypothesis after next ended.silencing ended.owed
      rw [ended.tokens] at sources
      refine ⟨_, final,
        receives_cons (receive_of_scan number ended.scan ended.ends poll) run, ?_⟩
      intro source message member
      rcases List.mem_cons.mp member with same | later
      · refine ended.source source message ?_
        rcases result with kind | answer
        · cases same
        · cases same
          rfl
      · exact sources source message later

/-- The state of an accepted connection after all data have arrived. -/
structure Entry.Settles (entry : Entry) : Prop where
  reached : ∃ fragment, Reached fragment entry.connection entry.messages
  arrived : Chunk.wouldBlock ∉ entry.connection.stream.script

/-- The poll flagged an accepted connection with the given signals on its wire. -/
def flaggedEntry (token : Token) (messages : List ProtocolSignal) (closed : Bool) : Entry where
  token := token
  connection :=
    (new ⟨messages.flatMap ProtocolSignal.encode ++ [], [], closed, [], none⟩).setStreamReadable
  messages := messages

theorem flaggedEntry_settles (token : Token) (messages : List ProtocolSignal)
    (valid : ∀ message ∈ messages, Valid message) (closed : Bool) :
    (flaggedEntry token messages closed).Settles where
  reached := ⟨[], .flagged (.accepted messages valid (.inl rfl) [] closed)⟩
  arrived := List.not_mem_nil

theorem activityHello_valid (id : ActivityId) : Valid (.activityHello id) :=
  ⟨fun _ impossible => (nomatch impossible), fun _ impossible => (nomatch impossible)⟩

/-- A frame is returned in time exactly when no dead connection comes before its connection. -/
theorem receive_returns_iff (front back : List Entry) (target : Entry) (number : Nat)
    (settles : ∀ entry ∈ front ++ target :: back, entry.Settles)
    (distinct : ((front ++ target :: back).map Entry.token).Nodup)
    (message : ProtocolSignal) (rest : List ProtocolSignal)
    (queued : target.messages = message :: rest)
    (flagged : target.connection.streamReadable = true ∨
      target.connection.bufferReadable = true ∧
        message.encode.length ≤ target.connection.window.length)
    (polls : List (PollAnswer ByteStream))
    (enough : (front ++ target :: back).length + frames (front ++ target :: back) ≤
      polls.length) :
    ReturnedWithin ⟨(front ++ target :: back).map Entry.accepted, number⟩ polls
        ((front ++ target :: back).length + frames (front ++ target :: back))
        target.token message ↔
      ∀ entry ∈ front, ¬ (entry.connection.stream.closed = true ∧
        entry.connection.streamReadable = true) := by
  constructor
  · rintro ⟨count, -, results, final, run, member⟩ entry inFront ⟨closed, awake⟩
    obtain ⟨before, between, rfl⟩ := List.append_of_mem inFront
    have all := List.forall_mem_append.mp settles
    obtain ⟨⟨fragment, reached⟩, arrived⟩ := all.1 entry inFront
    have silencing : Silencing entry.connection :=
      ⟨⟨fragment, entry.messages, reached.owes⟩, ⟨closed, awake⟩, arrived⟩
    have owed : ∀ other ∈ before, other.Owed := by
      intro other earlier
      obtain ⟨part, path⟩ := (all.1 other (List.mem_append_left _ earlier)).reached
      exact ⟨part, path.owes⟩
    obtain ⟨others, last, same, sources⟩ := receives_silencing
      ((between ++ target :: back).map Entry.accepted) number entry.token (polls.take count)
      before entry.connection silencing owed
    have whole : (before ++ entry :: between ++ target :: back).map Entry.accepted =
        before.map Entry.accepted ++ (entry.token, entry.connection) ::
          (between ++ target :: back).map Entry.accepted := by
      simp [Entry.accepted]
    rw [whole, same] at run
    cases run
    have source := sources target.token message member
    rw [List.append_assoc, List.map_append, List.cons_append, List.map_cons] at distinct
    have inBack : target.token ∈ (between ++ target :: back).map Entry.token :=
      List.mem_map_of_mem (List.mem_append_right _ List.mem_cons_self)
    rcases source with sameToken | earlier
    · rw [sameToken] at inBack
      exact (List.nodup_cons.mp distinct.of_append_right).1 inBack
    · exact List.disjoint_of_nodup_append distinct earlier (List.mem_cons_of_mem _ inBack)
  · intro alive
    obtain ⟨inFront, inBack⟩ := List.forall_mem_append.mp settles
    have harmless : ∀ entry ∈ front, Harmless entry := by
      intro entry member
      obtain ⟨fragment, reached⟩ := (inFront entry member).reached
      exact ⟨⟨fragment, reached.owes⟩, alive entry member⟩
    obtain ⟨⟨fragment, reached⟩, arrived⟩ := inBack target List.mem_cons_self
    rw [queued] at reached
    have available : Available target.connection message rest :=
      ⟨⟨fragment, reached.owes⟩, arrived, flagged⟩
    have total : frames (front ++ target :: back) =
        frames front + (target.messages.length + frames back) := by
      simp [frames]
    rw [queued, List.length_cons] at total
    rw [List.length_append, List.length_cons] at enough ⊢
    have returned := returnedWithin_harmless (back.map Entry.accepted) number target.token
      message rest polls front target.connection (frames front + 1) harmless available
      (.inl (Nat.lt_succ_self _)) (by omega)
    obtain ⟨count, within, results, final, run, member⟩ := returned
    refine ⟨count, by omega, results, final, ?_, member⟩
    rw [List.map_append, List.map_cons]
    exact run

/-- A dead connection behind the target changes nothing. -/
theorem receive_returns_first :
    ReturnedWithin ⟨[flaggedEntry 2 [.activityHello ⟨5⟩] false, flaggedEntry 1 [] true].map
      Entry.accepted, 2⟩ [.ok [], .ok [], .ok []] 3 2 (.activityHello ⟨5⟩) :=
  (receive_returns_iff [] [flaggedEntry 1 [] true] (flaggedEntry 2 [.activityHello ⟨5⟩] false) 2
    (by
      intro entry member
      rcases List.mem_pair.mp member with rfl | rfl
      · exact flaggedEntry_settles _ _ (List.forall_mem_singleton.mpr (activityHello_valid _)) _
      · exact flaggedEntry_settles _ _ (List.forall_mem_nil _) _)
    (by decide) (.activityHello ⟨5⟩) [] rfl (.inl rfl) [.ok [], .ok [], .ok []]
    (by decide)).mpr (List.forall_mem_nil _)

/-- A dead connection in front of the target keeps its frame from every call. -/
theorem receive_silenced :
    (flaggedEntry 1 [] true).Settles ∧ (flaggedEntry 2 [.activityHello ⟨5⟩] false).Settles ∧
      (flaggedEntry 2 [.activityHello ⟨5⟩] false).connection.streamReadable = true ∧
      ¬ ReturnedWithin ⟨[flaggedEntry 1 [] true, flaggedEntry 2 [.activityHello ⟨5⟩] false].map
        Entry.accepted, 2⟩ [.ok [], .ok [], .ok []] 3 2 (.activityHello ⟨5⟩) := by
  have closed := flaggedEntry_settles 1 [] (List.forall_mem_nil _) true
  refine ⟨closed, flaggedEntry_settles _ _
    (List.forall_mem_singleton.mpr (activityHello_valid _)) _, rfl, ?_⟩
  rintro ⟨count, -, results, final, run, member⟩
  obtain ⟨fragment, reached⟩ := closed.reached
  obtain ⟨others, last, same, sources⟩ := receives_silencing
    ([flaggedEntry 2 [.activityHello ⟨5⟩] false].map Entry.accepted) 2 1
    (List.take count [.ok [], .ok [], .ok []]) [] (flaggedEntry 1 [] true).connection
    ⟨⟨fragment, [], reached.owes⟩, ⟨rfl, rfl⟩, closed.arrived⟩ (List.forall_mem_nil _)
  have run' := same.symm.trans run
  cases run'
  rcases sources 2 _ member with impossible | impossible
  · cases impossible
  · cases impossible

end Feo.SocketServer
