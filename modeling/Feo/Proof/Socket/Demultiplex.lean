import Feo.Proof.Socket.Server

namespace Feo.SocketServer

open Foundation Connection

/-- A peer writes the frames of its signals and perhaps a part of one more, and it may close. -/
structure Peer where
  signals : List ProtocolSignal
  fragment : List UInt8
  script : List Chunk
  closed : Bool
  valid : ∀ signal ∈ signals, Valid signal
  fragmented : Fragment ProtocolSignal.encode Valid fragment

/-- The script of the stream says when the bytes of the peer arrive. -/
def Peer.stream (peer : Peer) : ByteStream :=
  ⟨peer.signals.flatMap ProtocolSignal.encode ++ peer.fragment, peer.script, peer.closed, [], none⟩

/-- Each token has the stream of its peer. -/
def streams (peers : Token → Peer) (token : Token) : ByteStream := (peers token).stream

variable {peers : Token → Peer}

/-- The listener hands out the streams in the order of their tokens. -/
def Connects (handed : Token → ByteStream) : Nat → List (AcceptAnswer ByteStream) → Prop
  | _, [] => True
  | accepted, .connection stream registered _ :: answers =>
      registered = true ∧ stream = handed (accepted + 1) ∧ Connects handed (accepted + 1) answers
  | _, .failed kind :: _ => kind = .wouldBlock

/-- The listener hands out connections until it would block. -/
def connected : List (AcceptAnswer ByteStream) → Nat
  | .connection _ _ _ :: answers => connected answers + 1
  | _ => 0

/-- The events of a poll may concern the listener and any tokens. -/
def Arrives (handed : Token → ByteStream) : Nat → List (ReadyEvent ByteStream) → Prop
  | _, [] => True
  | accepted, .listener answers :: events =>
      Connects handed accepted answers ∧ Arrives handed (accepted + connected answers) events
  | accepted, .readable _ :: events => Arrives handed accepted events

/-- The poll succeeds, and its events accept the next streams. -/
def Listens (handed : Token → ByteStream) (accepted : Nat) (poll : PollAnswer ByteStream) :
    Prop :=
  ∃ events, poll = .ok events ∧ Arrives handed accepted events

/-- Every poll of a run hands out the next streams. -/
def Listening (handed : Token → ByteStream) (polls : List (PollAnswer ByteStream)) : Prop :=
  AtEach (fun front poll => ∀ results middle,
    (withListener : SocketServer ByteStream).receives front = .ok (results, middle) →
      Listens handed middle.numAcceptedConnections poll) polls

/-- Each connection owes the signals of its peer that remain. -/
def Keeps (peers : Token → Peer) (remaining : Token → List ProtocolSignal)
    (connections : List (Token × Connection ByteStream)) : Prop :=
  ∀ entry ∈ connections,
    Owes Valid (peers entry.1).fragment entry.2 (remaining entry.1)

/-- A scan returns the next signal of one connection or a reset, or leaves none readable. -/
inductive Scanned (peers : Token → Peer) (remaining : Token → List ProtocolSignal)
    (after : List (Token × Connection ByteStream)) :
    Except IoErrorKind (Option (Token × ProtocolSignal)) → Prop where
  | message {token : Token} {message : ProtocolSignal} {rest : List ProtocolSignal}
      (first : remaining token = message :: rest)
      (keeps : Keeps peers (Function.update remaining token rest) after) :
      Scanned peers remaining after (.ok (some (token, message)))
  | nothing (keeps : Keeps peers remaining after)
      (unreadable : ∀ entry ∈ after, entry.2.isReadable = false) :
      Scanned peers remaining after (.ok none)
  | reset (keeps : Keeps peers remaining after) :
      Scanned peers remaining after (.error .connectionReset)

/-- A connection in front that keeps its signals passes the result of the connections behind it. -/
theorem Scanned.cons {remaining : Token → List ProtocolSignal} {token : Token}
    {connection : Connection ByteStream} {after : List (Token × Connection ByteStream)}
    {result : Except IoErrorKind (Option (Token × ProtocolSignal))}
    (scanned : Scanned peers remaining after result)
    (absent : ∀ other message, result = .ok (some (other, message)) → other ≠ token)
    (unreadable : connection.isReadable = false)
    (owes : Owes Valid (peers token).fragment connection (remaining token)) :
    Scanned peers remaining ((token, connection) :: after) result := by
  cases scanned with
  | message first keeps =>
      refine .message first (List.forall_mem_cons.mpr ⟨?_, keeps⟩)
      have different := absent _ _ rfl
      simp only [Function.update_of_ne different.symm]
      exact owes
  | nothing keeps quiet =>
      exact .nothing (List.forall_mem_cons.mpr ⟨owes, keeps⟩)
        (List.forall_mem_cons.mpr ⟨unreadable, quiet⟩)
  | reset keeps => exact .reset (List.forall_mem_cons.mpr ⟨owes, keeps⟩)

/-- A scan of distinct connections never panics and keeps their order. -/
theorem receiveOnReadable_scanned {remaining : Token → List ProtocolSignal}
    {connections : List (Token × Connection ByteStream)}
    (distinct : (connections.map Prod.fst).Nodup) (keeps : Keeps peers remaining connections) :
    ∃ result after, receiveOnReadable connections = .ok (result, after) ∧
      after.map Prod.fst = connections.map Prod.fst ∧
      (∀ token message, result = .ok (some (token, message)) →
        token ∈ connections.map Prod.fst) ∧
      Scanned peers remaining after result := by
  induction connections with
  | nil =>
      refine ⟨.ok none, [], rfl, rfl, ?_, .nothing ?_ ?_⟩
      · intro token message same
        cases same
      · exact fun entry member => absurd member List.not_mem_nil
      · exact fun entry member => absurd member List.not_mem_nil
  | cons entry connections ih =>
      obtain ⟨token, connection⟩ := entry
      obtain ⟨owes, others⟩ := List.forall_mem_cons.mp keeps
      rw [List.map_cons, List.nodup_cons] at distinct
      obtain ⟨absent, distinct⟩ := distinct
      obtain ⟨result, after, scan, same, inside, scanned⟩ := ih distinct others
      have behind {next : Connection ByteStream} (unreadable : next.isReadable = false)
          (debt : Owes Valid (peers token).fragment next (remaining token))
          (skipped : connection.isReadable = true ∧
              connection.read (M := ProtocolSignal) = .ok (.ok none, next) ∨
            connection.isReadable = false ∧ next = connection) :
          ∃ result after, receiveOnReadable ((token, connection) :: connections) =
              .ok (result, after) ∧
            after.map Prod.fst = token :: connections.map Prod.fst ∧
            (∀ other message, result = .ok (some (other, message)) →
              other ∈ token :: connections.map Prod.fst) ∧
            Scanned peers remaining after result := by
        refine ⟨result, (token, next) :: after, receiveOnReadable_skip skipped scan, ?_, ?_, ?_⟩
        · rw [List.map_cons, same]
        · intro other message returned
          exact List.mem_cons_of_mem _ (inside other message returned)
        · refine scanned.cons ?_ unreadable debt
          rintro other message returned rfl
          exact absent (inside other message returned)
      cases readable : connection.isReadable with
      | false => exact behind readable owes (.inr ⟨readable, rfl⟩)
      | true =>
          obtain ⟨answer, next, read, -, served⟩ := read_cases owes
          have tokens : ((token, next) :: connections).map Prod.fst =
              token :: connections.map Prod.fst := rfl
          generalize remains : remaining token = owed at served
          cases served with
          | @message message rest debt _ =>
              refine ⟨_, _, receiveOnReadable_message readable read connections, tokens, ?_, ?_⟩
              · intro other found returned
                cases returned
                exact List.mem_cons_self
              · refine .message remains (List.forall_mem_cons.mpr ⟨?_, ?_⟩)
                · rw [Function.update_self]
                  exact debt
                · intro entry member
                  have different : entry.1 ≠ token := by
                    intro same
                    exact absent (List.mem_map.mpr ⟨entry, member, same⟩)
                  rw [Function.update_of_ne different]
                  exact others entry member
          | nothing debt _ _ blocked unreadable _ =>
              rw [← remains] at debt
              refine behind ?_ debt (.inl ⟨readable, read⟩)
              rw [Connection.isReadable, blocked, unreadable]
              rfl
          | reset debt _ _ _ =>
              rw [← remains] at debt
              refine ⟨_, _, receiveOnReadable_error readable read connections, tokens, ?_, ?_⟩
              · intro other found returned
                cases returned
              · exact .reset (List.forall_mem_cons.mpr ⟨debt, others⟩)

/-- A connection is found by its token. -/
theorem find?_connection {connections : List (Token × Connection ByteStream)} {token : Token}
    (member : token ∈ connections.map Prod.fst) :
    ∃ connection, (token, connection) ∈ connections ∧
      connections.find? (fun entry => entry.1 == token) = some (token, connection) := by
  obtain ⟨entry, inside, rfl⟩ := List.mem_map.mp member
  have found : (connections.find? fun other => other.1 == entry.1).isSome :=
    List.find?_isSome.mpr ⟨entry, inside, beq_self_eq_true _⟩
  obtain ⟨⟨token, connection⟩, same⟩ := Option.isSome_iff_exists.mp found
  have equal : token = entry.1 := by simpa using List.find?_some same
  subst equal
  exact ⟨connection, List.mem_of_find?_eq_some same, same⟩

/-- A new order keeps the tokens up to the order, and all entries are old ones. -/
theorem rearrange_spec (order : List Token) (connections : List (Token × Connection ByteStream)) :
    ((rearrange order connections).map Prod.fst).Perm (connections.map Prod.fst) ∧
      ∀ entry ∈ rearrange order connections, entry ∈ connections := by
  unfold rearrange
  split
  · next same =>
      have tokens : ∀ part : List Token, part ⊆ connections.map Prod.fst →
          (part.filterMap fun token =>
            connections.find? fun entry => entry.1 == token).map Prod.fst = part := by
        intro part known
        induction part with
        | nil => rfl
        | cons token part ih =>
            obtain ⟨first, others⟩ := List.cons_subset.mp known
            obtain ⟨connection, -, found⟩ := find?_connection first
            rw [List.filterMap_cons, found]
            simp only [List.map_cons, ih others]
      constructor
      · rw [tokens order same.subset]
        exact same
      · intro entry member
        obtain ⟨token, -, found⟩ := List.mem_filterMap.mp member
        exact List.mem_of_find?_eq_some found
  · exact ⟨List.Perm.refl _, fun entry member => member⟩

/-- The connections have the tokens up to the number of accepted ones, each one once. -/
structure Holds (peers : Token → Peer) (remaining : Token → List ProtocolSignal)
    (server : SocketServer ByteStream) : Prop where
  keeps : Keeps peers remaining server.acceptedConnections
  distinct : (server.acceptedConnections.map Prod.fst).Nodup
  known : ∀ token, token ∈ server.acceptedConnections.map Prod.fst ↔
    0 < token ∧ token ≤ server.numAcceptedConnections
  fresh : ∀ token, server.numAcceptedConnections < token →
    remaining token = (peers token).signals

variable {remaining : Token → List ProtocolSignal} {server : SocketServer ByteStream}

theorem holds_withListener (peers : Token → Peer) :
    Holds peers (fun token => (peers token).signals) withListener where
  keeps entry member := absurd member List.not_mem_nil
  distinct := List.nodup_nil
  known token := by
    refine iff_of_false List.not_mem_nil ?_
    rintro ⟨positive, bounded⟩
    exact absurd positive (Nat.not_lt.mpr bounded)
  fresh _ _ := rfl

/-- An accepted connection owes the signals of its peer. -/
theorem Holds.accept (holds : Holds peers remaining server) (order : List Token) :
    Holds peers remaining
      { acceptedConnections := rearrange order
          ((server.numAcceptedConnections + 1,
            Connection.new (peers (server.numAcceptedConnections + 1)).stream) ::
              server.acceptedConnections)
        numAcceptedConnections := server.numAcceptedConnections + 1 } := by
  obtain ⟨tokens, entries⟩ := rearrange_spec order
    ((server.numAcceptedConnections + 1,
      Connection.new (peers (server.numAcceptedConnections + 1)).stream) ::
        server.acceptedConnections)
  have unused : server.numAcceptedConnections + 1 ∉ server.acceptedConnections.map Prod.fst := by
    intro member
    exact absurd ((holds.known _).mp member).2 (Nat.not_succ_le_self _)
  refine ⟨?_, ?_, ?_, ?_⟩
  · intro entry member
    rcases List.mem_cons.mp (entries entry member) with rfl | old
    · show Owes Valid _ (Connection.new _) (remaining (server.numAcceptedConnections + 1))
      rw [holds.fresh _ (Nat.lt_succ_self _)]
      exact new_owes ProtocolSignal.framing _ (peers _).valid (peers _).fragmented _ _
    · exact holds.keeps entry old
  · exact tokens.nodup_iff.mpr (List.nodup_cons.mpr ⟨unused, holds.distinct⟩)
  · intro token
    rw [tokens.mem_iff, List.map_cons, List.mem_cons, holds.known]
    constructor
    · rintro (rfl | ⟨positive, bounded⟩)
      · exact ⟨Nat.succ_pos _, Nat.le_refl _⟩
      · exact ⟨positive, Nat.le_succ_of_le bounded⟩
    · rintro ⟨positive, bounded⟩
      rcases Nat.lt_or_eq_of_le bounded with earlier | same
      · exact .inr ⟨positive, Nat.le_of_lt_succ earlier⟩
      · exact .inl same
  · intro token later
    exact holds.fresh token (Nat.lt_of_succ_lt later)

/-- The listener never panics while it hands out the next peers. -/
theorem Holds.acceptConnections (holds : Holds peers remaining server)
    {answers : List (AcceptAnswer ByteStream)}
    (connects : Connects (streams peers) server.numAcceptedConnections answers) :
    ∃ next, server.acceptConnections answers = .ok next ∧
      next.numAcceptedConnections = server.numAcceptedConnections + connected answers ∧
      Holds peers remaining next := by
  induction answers generalizing server with
  | nil => exact ⟨server, rfl, rfl, holds⟩
  | cons answer answers ih =>
      cases answer with
      | failed kind =>
          obtain rfl : kind = .wouldBlock := connects
          exact ⟨server, rfl, rfl, holds⟩
      | connection stream registered order =>
          obtain ⟨rfl, rfl, connects⟩ := connects
          obtain ⟨next, accepts, number, kept⟩ := ih (holds.accept order) connects
          refine ⟨next, ?_, ?_, kept⟩
          · rw [SocketServer.acceptConnections]
            exact accepts
          · rw [number, connected]
            show server.numAcceptedConnections + 1 + connected answers = _
            omega

/-- A readiness event flags at most one connection. -/
theorem Holds.setStreamReadable (holds : Holds peers remaining server) (token : Token) :
    Holds peers remaining (server.setStreamReadable token) := by
  have tokens : (server.setStreamReadable token).acceptedConnections.map Prod.fst =
      server.acceptedConnections.map Prod.fst := by
    unfold SocketServer.setStreamReadable
    rw [List.map_map]
    apply List.map_congr_left
    intro entry member
    rw [Function.comp_apply]
    split <;> rfl
  refine ⟨?_, ?_, ?_, holds.fresh⟩
  · intro entry member
    obtain ⟨old, inside, rfl⟩ := List.mem_map.mp member
    have debt := holds.keeps old inside
    split
    · exact debt.setStreamReadable
    · exact debt
  · rw [tokens]
    exact holds.distinct
  · rw [tokens]
    exact holds.known

theorem Holds.handleEvents (holds : Holds peers remaining server)
    {events : List (ReadyEvent ByteStream)}
    (arrives : Arrives (streams peers) server.numAcceptedConnections events) :
    ∃ next, server.handleEvents events = .ok next ∧ Holds peers remaining next := by
  induction events generalizing server with
  | nil => exact ⟨server, rfl, holds⟩
  | cons event events ih =>
      cases event with
      | listener answers =>
          obtain ⟨connects, later⟩ := arrives
          obtain ⟨middle, accepts, number, kept⟩ := holds.acceptConnections connects
          rw [← number] at later
          obtain ⟨next, handles, final⟩ := ih kept later
          refine ⟨next, ?_, final⟩
          simp only [SocketServer.handleEvents, accepts, bind, Except.bind, handles]
      | readable token => exact ih (holds.setStreamReadable token) arrives

/-- A call returns the next signal of one peer, a reset, or nothing when nothing is readable. -/
inductive Received (peers : Token → Peer) (remaining : Token → List ProtocolSignal)
    (next : SocketServer ByteStream) :
    Except IoErrorKind (Option (Token × ProtocolSignal)) → Prop where
  | message {token : Token} {message : ProtocolSignal} {rest : List ProtocolSignal}
      (first : remaining token = message :: rest)
      (holds : Holds peers (Function.update remaining token rest) next) :
      Received peers remaining next (.ok (some (token, message)))
  | nothing (holds : Holds peers remaining next)
      (unreadable : ∀ entry ∈ next.acceptedConnections, entry.2.isReadable = false) :
      Received peers remaining next (.ok none)
  | reset (holds : Holds peers remaining next) :
      Received peers remaining next (.error .connectionReset)

/-- A scan of the connections keeps what the server holds. -/
theorem Holds.receiveOnReadableConnections (holds : Holds peers remaining server) :
    ∃ result next, server.receiveOnReadableConnections = .ok (result, next) ∧
      next.numAcceptedConnections = server.numAcceptedConnections ∧
      Received peers remaining next result := by
  obtain ⟨result, after, scan, tokens, inside, scanned⟩ :=
    receiveOnReadable_scanned holds.distinct holds.keeps
  refine ⟨result, { server with acceptedConnections := after }, ?_, rfl, ?_⟩
  · simp only [SocketServer.receiveOnReadableConnections, scan, bind, Except.bind]
    rfl
  · have kept {owed : Token → List ProtocolSignal} (keeps : Keeps peers owed after)
        (fresh : ∀ token, server.numAcceptedConnections < token →
          owed token = (peers token).signals) :
        Holds peers owed { server with acceptedConnections := after } := by
      refine ⟨keeps, ?_, ?_, fresh⟩
      · rw [tokens]
        exact holds.distinct
      · rw [tokens]
        exact holds.known
    cases scanned with
    | message first keeps =>
        refine .message first (kept keeps ?_)
        intro token later
        have accepted := ((holds.known _).mp (inside _ _ rfl)).2
        rw [Function.update_of_ne (Nat.ne_of_gt (Nat.lt_of_le_of_lt accepted later))]
        exact holds.fresh token later
    | nothing keeps quiet => exact .nothing (kept keeps holds.fresh) quiet
    | reset keeps => exact .reset (kept keeps holds.fresh)

/-- A call of `receive` never panics while the listener hands out the next peers. -/
theorem Holds.receive (holds : Holds peers remaining server) {poll : PollAnswer ByteStream}
    (listens : Listens (streams peers) server.numAcceptedConnections poll) :
    ∃ result next, server.receive poll = .ok (result.mapError toError, next) ∧
      Received peers remaining next result := by
  obtain ⟨events, rfl, arrives⟩ := listens
  obtain ⟨result, middle, scan, number, received⟩ := holds.receiveOnReadableConnections
  cases received with
  | message first kept =>
      refine ⟨_, middle, ?_, .message first kept⟩
      simp only [SocketServer.receive, scan, bind, Except.bind]
      rfl
  | reset kept =>
      refine ⟨_, middle, ?_, .reset kept⟩
      simp only [SocketServer.receive, scan, bind, Except.bind]
      rfl
  | nothing kept quiet =>
      rw [← number] at arrives
      obtain ⟨ready, handles, flagged⟩ := kept.handleEvents arrives
      obtain ⟨result, final, again, -, received⟩ := flagged.receiveOnReadableConnections
      refine ⟨result, final, ?_, received⟩
      simp only [SocketServer.receive, scan, bind, Except.bind, handles, again]
      rfl

/-- The result is a signal from the connection with the token. -/
def signalOf (token : Token) :
    Except Error (Option (Token × ProtocolSignal)) → Option ProtocolSignal
  | .ok (some (other, signal)) => if other = token then some signal else none
  | _ => none

/-- The signals of one token among the results. -/
def signalsOf (token : Token) (results : List (Except Error (Option (Token × ProtocolSignal)))) :
    List ProtocolSignal :=
  results.filterMap (signalOf token)

theorem signalsOf_concat (token : Token)
    (results : List (Except Error (Option (Token × ProtocolSignal))))
    (result : Except Error (Option (Token × ProtocolSignal))) :
    signalsOf token (results ++ [result]) =
      signalsOf token results ++ (signalOf token result).toList := by
  unfold signalsOf
  rw [List.filterMap_append]
  cases shown : signalOf token result <;> simp [shown]

/-- The last call stands behind the earlier calls. -/
theorem receives_concat {middle final : SocketServer ByteStream}
    {polls : List (PollAnswer ByteStream)} {poll : PollAnswer ByteStream}
    {results : List (Except Error (Option (Token × ProtocolSignal)))}
    {result : Except Error (Option (Token × ProtocolSignal))}
    (earlier : server.receives polls = .ok (results, middle))
    (last : middle.receive poll = .ok (result, final)) :
    server.receives (polls ++ [poll]) = .ok (results ++ [result], final) := by
  induction polls generalizing server results with
  | nil =>
      cases earlier
      exact receives_cons last rfl
  | cons first polls ih =>
      rw [receives] at earlier
      cases called : server.receive first with
      | error message =>
          rw [called] at earlier
          cases earlier
      | ok answer =>
          obtain ⟨head, next⟩ := answer
          rw [called] at earlier
          cases run : next.receives polls with
          | error message =>
              simp only [bind, Except.bind, run] at earlier
              cases earlier
          | ok tail =>
              obtain ⟨others, target⟩ := tail
              simp only [bind, Except.bind, run] at earlier
              cases earlier
              exact receives_cons called (ih run)

/-- The returned signals of each peer and the remaining ones are all its signals. -/
structure Ledger (peers : Token → Peer) (remaining : Token → List ProtocolSignal)
    (results : List (Except Error (Option (Token × ProtocolSignal))))
    (final : SocketServer ByteStream) : Prop where
  holds : Holds peers remaining final
  paid : ∀ token, signalsOf token results ++ remaining token = (peers token).signals
  resets : ∀ error, .error error ∈ results → error = toError .connectionReset
  quiet : results.getLast? = some (.ok none) →
    ∀ entry ∈ final.acceptedConnections, entry.2.isReadable = false

/-- Each call keeps the ledger. -/
theorem Ledger.receive {results : List (Except Error (Option (Token × ProtocolSignal)))}
    (ledger : Ledger peers remaining results server) {next : SocketServer ByteStream}
    {result : Except IoErrorKind (Option (Token × ProtocolSignal))}
    (received : Received peers remaining next result) :
    ∃ owed, Ledger peers owed (results ++ [result.mapError toError]) next := by
  have last : (results ++ [result.mapError toError]).getLast? = some (result.mapError toError) :=
    List.getLast?_concat
  -- a result without a signal leaves the ledger as it is
  have unchanged (holds : Holds peers remaining next)
      (silent : ∀ token, signalOf token (result.mapError toError) = none)
      (resets : ∀ error, result.mapError toError = .error error →
        error = toError .connectionReset)
      (quiet : result.mapError toError = .ok none →
        ∀ entry ∈ next.acceptedConnections, entry.2.isReadable = false) :
      Ledger peers remaining (results ++ [result.mapError toError]) next := by
    refine ⟨holds, ?_, ?_, ?_⟩
    · intro other
      rw [signalsOf_concat, silent, Option.toList_none, List.append_nil]
      exact ledger.paid other
    · intro error member
      rcases List.mem_append.mp member with earlier | new
      · exact ledger.resets error earlier
      · exact resets error (List.mem_singleton.mp new).symm
    · intro none
      exact quiet (Option.some.inj (last.symm.trans none))
  cases received with
  | @message token message rest first holds =>
      refine ⟨_, holds, ?_, ?_, ?_⟩
      · intro other
        rw [signalsOf_concat, ← ledger.paid other, List.append_assoc]
        apply congrArg (signalsOf other results ++ ·)
        by_cases same : token = other
        · subst same
          simp [signalOf, Except.mapError, first]
        · rw [Function.update_of_ne (Ne.symm same)]
          simp [signalOf, Except.mapError, same]
      · intro error member
        rcases List.mem_append.mp member with earlier | new
        · exact ledger.resets error earlier
        · cases List.mem_singleton.mp new
      · intro none
        rw [last] at none
        cases none
  | nothing holds quiet =>
      refine ⟨remaining, unchanged holds (fun _ => rfl) ?_ fun _ => quiet⟩
      intro error impossible
      cases impossible
  | reset holds =>
      refine ⟨remaining, unchanged holds (fun _ => rfl) ?_ ?_⟩
      · intro error same
        cases same
        rfl
      · intro impossible
        cases impossible

/-- Every run of calls has a ledger. -/
theorem receives_ledger {polls : List (PollAnswer ByteStream)}
    (listening : Listening (streams peers) polls) :
    ∃ results final remaining,
      (withListener : SocketServer ByteStream).receives polls = .ok (results, final) ∧
        Ledger peers remaining results final := by
  induction polls using List.reverseRecOn with
  | nil =>
      refine ⟨[], withListener, fun token => (peers token).signals, rfl,
        holds_withListener peers, fun _ => rfl, ?_, ?_⟩
      · exact fun error member => absurd member List.not_mem_nil
      · intro none
        cases none
  | append_singleton polls poll ih =>
      obtain ⟨early, late⟩ := (atEach_concat _ polls poll).mp listening
      obtain ⟨results, middle, remaining, run, ledger⟩ := ih early
      obtain ⟨result, next, called, received⟩ := ledger.holds.receive (late results middle run)
      obtain ⟨owed, more⟩ := ledger.receive received
      exact ⟨_, next, owed, receives_concat run called, more⟩

/-- A quiet server has returned every signal of a peer whose bytes have all arrived. -/
theorem Ledger.complete {results : List (Except Error (Option (Token × ProtocolSignal)))}
    (ledger : Ledger peers remaining results server)
    (quiet : results.getLast? = some (.ok none)) {token : Token}
    {connection : Connection ByteStream}
    (member : (token, connection) ∈ server.acceptedConnections)
    (arrived : connection.stream.wire = []) :
    signalsOf token results = (peers token).signals := by
  have owes := ledger.holds.keeps _ member
  have unreadable := ledger.quiet quiet _ member
  have empty : connection.bufferReadable = false := (Bool.or_eq_false_iff.mp unreadable).2
  have nothing : remaining token = [] :=
    owes.paid ProtocolSignal.framing arrived (owes.parsed empty)
  have paid := ledger.paid token
  rw [nothing, List.append_nil] at paid
  exact paid

end Feo.SocketServer
