import Feo.Proof.Socket.Client
import Feo.Proof.Socket.Demultiplex

namespace Feo

open Foundation

namespace SocketClient

/-- The stream takes the whole frame of a send that succeeds. -/
theorem takenOf_of_ok (connection : Connection ByteSink)
    (request : ProtocolSignal × SendAnswers)
    (sent : (connection.send request.1 request.2).1 = .ok ()) :
    Connection.takenOf request = request.1.encode.length := by
  by_cases fits : request.1.encode.length ≤ bufferSize
  · have size : Connection.offered request.1 = request.1.encode.length := if_pos fits
    rw [Connection.takenOf, size]
    apply (connection.stream.writeAll_spec request.1.encode request.2.writes).2.mp
    cases written : connection.stream.writeAll request.1.encode request.2.writes with
    | mk outcome stream =>
        cases outcome with
        | ok => rfl
        | error kind =>
            have failed : (connection.send request.1 request.2).1 = .error kind := by
              simp only [Connection.send, EncodeDecode.encode, if_pos fits, written]
            rw [failed] at sent
            cases sent
  · have failed : (connection.send request.1 request.2).1 = .error .other := by
      simp only [Connection.send, EncodeDecode.encode, if_neg fits]
    rw [failed] at sent
    cases sent

/-- The taken bytes of one frame are a whole frame or a part of it. -/
theorem taken_fragment {request : ProtocolSignal × SendAnswers}
    (valid : SocketServer.Valid request.1) :
    ∃ complete fragment, complete <+: [request.1] ∧
      Fragment ProtocolSignal.encode SocketServer.Valid fragment ∧
      request.1.encode.take (Connection.takenOf request) =
        complete.flatMap ProtocolSignal.encode ++ fragment := by
  rcases Connection.takenOf_cases request with none | all | stops
  · refine ⟨[], [], List.nil_prefix, .inl rfl, ?_⟩
    rw [none]
    rfl
  · refine ⟨[request.1], [], List.prefix_rfl, .inl rfl, ?_⟩
    rw [List.append_nil, List.flatMap_singleton]
    exact List.take_of_length_le all.ge
  · obtain ⟨-, proper⟩ := Connection.taken_of_stopsInside stops
    exact ⟨[], _, List.nil_prefix, .inr ⟨request.1, valid, List.take_prefix _ _, proper⟩, rfl⟩

/-- The requests until the first failure leave whole frames and perhaps a part of the last one. -/
theorem sendAll_wire (connection : Connection ByteSink)
    {requests : List (ProtocolSignal × SendAnswers)}
    (valid : ∀ request ∈ requests, SocketServer.Valid request.1) :
    ∃ complete fragment, complete <+: requests.map Prod.fst ∧
      Fragment ProtocolSignal.encode SocketServer.Valid fragment ∧
      (sendAll connection requests).2.stream.wire =
        connection.stream.wire ++ (complete.flatMap ProtocolSignal.encode ++ fragment) ∧
      ((sendAll connection requests).1 = .ok () → complete = requests.map Prod.fst) := by
  induction requests generalizing connection with
  | nil => exact ⟨[], [], List.prefix_rfl, .inl rfl, (List.append_nil _).symm, fun _ => rfl⟩
  | cons request requests ih =>
      obtain ⟨first, others⟩ := List.forall_mem_cons.mp valid
      have wire := connection.send_wire request
      have ok := takenOf_of_ok connection request
      cases result : connection.send request.1 request.2 with
      | mk outcome next =>
          rw [result] at wire ok
          cases outcome with
          | ok =>
              obtain ⟨complete, fragment, front, fragmented, same, all⟩ := ih next others
              have whole : next.stream.wire = connection.stream.wire ++ request.1.encode := by
                rw [wire, ok rfl]
                exact congrArg _ List.take_length
              refine ⟨request.1 :: complete, fragment, ?_, fragmented, ?_, ?_⟩
              · exact List.cons_prefix_cons.mpr ⟨rfl, front⟩
              · simp only [sendAll, result, same, whole, List.flatMap_cons, List.append_assoc]
              · intro sent
                simp only [sendAll, result] at sent
                rw [all sent, List.map_cons]
          | error kind =>
              obtain ⟨complete, fragment, front, fragmented, taken⟩ := taken_fragment first
              refine ⟨complete, fragment, ?_, fragmented, ?_, ?_⟩
              · exact front.trans (List.cons_prefix_cons.mpr ⟨rfl, List.nil_prefix⟩)
              · simp only [sendAll, result]
                rw [wire]
                exact congrArg _ taken
              · intro sent
                simp only [sendAll, result] at sent
                cases sent

/-- The requests after a success follow on its connection. -/
theorem sendAll_append (connection : Connection ByteSink)
    (first second : List (ProtocolSignal × SendAnswers)) :
    sendAll connection (first ++ second) =
      match sendAll connection first with
      | (.ok (), next) => sendAll next second
      | (.error kind, next) => (.error kind, next) := by
  induction first generalizing connection with
  | nil => rfl
  | cons request first ih =>
      obtain ⟨signal, answers⟩ := request
      rw [List.cons_append, sendAll, sendAll]
      cases connection.send signal answers with
      | mk outcome next =>
          cases outcome with
          | ok => exact ih next
          | error kind => rfl

end SocketClient

namespace Direct.WorkerConnector

open SocketClient

/-- A worker that sends until an error sends all its replies in this way. -/
theorem sendUntilError_sendAll (client : SocketClient ByteSink)
    (replies : List (Signal × SendAnswers)) :
    (sendUntilError client replies).2.connection =
        (sendAll client.connection (coreRequests replies)).2 ∧
      ((sendUntilError client replies).1 = .ok () ↔
        (sendAll client.connection (coreRequests replies)).1 = .ok ()) := by
  induction replies generalizing client with
  | nil => exact ⟨rfl, by simp [sendUntilError, sendAll, coreRequests]⟩
  | cons request replies ih =>
      obtain ⟨signal, answers⟩ := request
      simp only [coreRequests, List.map_cons, sendAll, sendUntilError, sendToScheduler,
        SocketClient.send]
      cases client.connection.send (ProtocolSignal.core signal) answers with
      | mk outcome next =>
          cases outcome with
          | ok => exact ih ⟨next⟩
          | error kind => simp

/-- A worker connects and replies until a send fails, and its bytes arrive by a script. -/
structure Session where
  activityIds : List (ActivityId × SendAnswers)
  replies : List (Signal × SendAnswers)
  valid : ∀ reply ∈ replies, SocketServer.Valid (.core reply.1)
  script : List Chunk
  closed : Bool

namespace Session

/-- The hellos stand before the replies. -/
def requests (session : Session) : List (ProtocolSignal × SendAnswers) :=
  connectSignals session.activityIds ++ coreRequests session.replies

/-- The worker replies once it is connected, and a failed hello ends it. -/
def wire (session : Session) : List UInt8 :=
  match connectRemote session.activityIds with
  | .ok client => (sendUntilError client session.replies).2.connection.stream.wire
  | .error _ => (sendAll (Connection.new ⟨[]⟩) (connectSignals session.activityIds)).2.stream.wire

def stream (session : Session) : ByteStream :=
  ⟨session.wire, session.script, session.closed, [], none⟩

/-- The worker connects and sends all its replies. -/
def Succeeds (session : Session) : Prop :=
  ∃ client final, connectRemote session.activityIds = .ok client ∧
    sendUntilError client session.replies = (.ok (), final)

theorem requests_valid (session : Session) :
    ∀ request ∈ session.requests, SocketServer.Valid request.1 := by
  intro request member
  rcases List.mem_append.mp member with hello | reply
  · obtain ⟨source, -, rfl⟩ := List.mem_map.mp hello
    simp [SocketServer.Valid, ProtocolSignal.Known, ProtocolSignal.Small, ProtocolSignal.duration?]
  · obtain ⟨source, inside, rfl⟩ := List.mem_map.mp reply
    exact session.valid source inside

/-- The bytes of a session are those of its requests until the first failure. -/
theorem wire_sendAll (session : Session) :
    session.wire = (sendAll (Connection.new ⟨[]⟩) session.requests).2.stream.wire ∧
      (session.Succeeds ↔ (sendAll (Connection.new ⟨[]⟩) session.requests).1 = .ok ()) := by
  unfold wire Succeeds requests connectRemote SocketClient.connect
  rw [sendAll_append]
  cases sendAll (Connection.new ⟨[]⟩) (connectSignals session.activityIds) with
  | mk outcome connection =>
      cases outcome with
      | error kind => simp
      | ok =>
          obtain ⟨same, succeeds⟩ := sendUntilError_sendAll ⟨connection⟩ session.replies
          refine ⟨congrArg (fun last => last.stream.wire) same, ?_⟩
          rw [← succeeds]
          constructor
          · rintro ⟨client, final, connected, sent⟩
            cases connected
            rw [sent]
          · intro sent
            exact ⟨_, _, rfl, Prod.ext sent rfl⟩

/-- A session writes whole frames and perhaps a part of one more. -/
theorem wire_frames (session : Session) :
    ∃ complete fragment, complete <+: session.requests.map Prod.fst ∧
      Fragment ProtocolSignal.encode SocketServer.Valid fragment ∧
      session.wire = complete.flatMap ProtocolSignal.encode ++ fragment ∧
      (session.Succeeds → complete = session.requests.map Prod.fst) := by
  obtain ⟨same, succeeds⟩ := session.wire_sendAll
  obtain ⟨complete, fragment, front, fragmented, wire, all⟩ :=
    sendAll_wire (Connection.new ⟨[]⟩) session.requests_valid
  exact ⟨complete, fragment, front, fragmented, same.trans wire, fun sent => all (succeeds.mp sent)⟩

/-- The server sees a peer with the complete frames of the session. -/
theorem exists_peer (session : Session) :
    ∃ peer : SocketServer.Peer, peer.stream = session.stream ∧
      peer.signals <+: session.requests.map Prod.fst ∧
      (session.Succeeds → peer.signals = session.requests.map Prod.fst) := by
  obtain ⟨complete, fragment, front, fragmented, wire, all⟩ := session.wire_frames
  refine ⟨⟨complete, fragment, session.script, session.closed, ?_, fragmented⟩, ?_, front, all⟩
  · intro signal member
    obtain ⟨request, inside, rfl⟩ := List.mem_map.mp (front.subset member)
    exact session.requests_valid request inside
  · rw [stream, wire]
    rfl

end Session

open SocketServer in
/-- The scheduler receives the signals of each worker in their order, and none of them twice. -/
theorem receives_inOrder (sessions : Token → Session) {polls : List (PollAnswer ByteStream)}
    (listening : Listening (fun token => (sessions token).stream) polls) :
    ∃ results final, (withListener : SocketServer ByteStream).receives polls =
        .ok (results, final) ∧
      (∀ token, signalsOf token results <+: (sessions token).requests.map Prod.fst) ∧
      (∀ error, .error error ∈ results → error = toError .connectionReset) ∧
      (results.getLast? = some (.ok none) → ∀ token connection,
        (token, connection) ∈ final.acceptedConnections → connection.stream.wire = [] →
          (sessions token).Succeeds →
            signalsOf token results = (sessions token).requests.map Prod.fst) := by
  choose peers same front all using fun token => (sessions token).exists_peer
  have handed : streams peers = fun token => (sessions token).stream := funext same
  rw [← handed] at listening
  obtain ⟨results, final, remaining, run, ledger⟩ := receives_ledger listening
  refine ⟨results, final, run, ?_, ledger.resets, ?_⟩
  · intro token
    exact List.IsPrefix.trans ⟨remaining token, ledger.paid token⟩ (front token)
  · intro quiet token connection member arrived succeeds
    rw [ledger.complete quiet member arrived]
    exact all token succeeds

theorem ready_valid (id : ActivityId) (replies : List (Signal × SendAnswers))
    (ready : ∀ reply ∈ replies, reply.1 = .ready id ⟨Duration.zero⟩) :
    ∀ reply ∈ replies, SocketServer.Valid (.core reply.1) := by
  intro reply member
  rw [ready reply member]
  simp [SocketServer.Valid, ProtocolSignal.Known, ProtocolSignal.Small, ProtocolSignal.duration?,
    Duration.zero]

/-- One session is complete, a reply of another is torn, and no other worker connects. -/
def pairSessions (token : Token) : Session :=
  if token = 1 then
    { activityIds := [(⟨5⟩, ⟨[], .ok ()⟩)]
      replies := [(.ready ⟨5⟩ ⟨Duration.zero⟩, ⟨[], .ok ()⟩)]
      valid := ready_valid ⟨5⟩ _ (by simp)
      script := [.upTo 2, .wouldBlock]
      closed := false }
  else
    { activityIds := [(⟨7⟩, ⟨[], .ok ()⟩)]
      replies := [(.ready ⟨7⟩ ⟨Duration.zero⟩, ⟨[.accepted 3, .failed .wouldBlock], .ok ()⟩)]
      valid := ready_valid ⟨7⟩ _ (by simp)
      script := []
      closed := false }

/-- The listener hands out both streams, and the bytes of the first one arrive in two parts. -/
def pairPolls : List (PollAnswer ByteStream) :=
  [.ok [.listener [.connection (pairSessions 1).stream true [1],
      .connection (pairSessions 2).stream true [1, 2], .failed .wouldBlock]],
    .ok [.readable 1, .readable 2], .ok [.readable 1], .ok [], .ok []]

open SocketServer

theorem pairPolls_listening :
    Listening (fun token => (pairSessions token).stream) pairPolls := by
  intro front poll back split results middle run
  cases front with
  | nil =>
      cases run
      cases split
      exact ⟨_, rfl, ⟨rfl, rfl, rfl, rfl, rfl⟩, trivial⟩
  | cons first front =>
      have quiet : ∀ later ∈ pairPolls.tail, ∃ events, later = .ok events ∧
          ∀ event ∈ events, ∃ token, event = .readable token := by
        simp [pairPolls]
      have member : poll ∈ pairPolls.tail := by
        rw [split]
        simp
      obtain ⟨events, rfl, readable⟩ := quiet poll member
      refine ⟨events, rfl, ?_⟩
      clear member split
      induction events with
      | nil => trivial
      | cons event events ih =>
          obtain ⟨⟨token, rfl⟩, others⟩ := List.forall_mem_cons.mp readable
          exact ih others

/-- The scheduler has both signals of the first worker and the whole one of the second. -/
theorem receives_inOrder_pair :
    ∃ results final, (withListener : SocketServer ByteStream).receives pairPolls =
        .ok (results, final) ∧
      (∀ token, signalsOf token results <+: (pairSessions token).requests.map Prod.fst) ∧
      signalsOf 1 results = [.activityHello ⟨5⟩, .core (.ready ⟨5⟩ ⟨Duration.zero⟩)] ∧
      signalsOf 2 results = [.activityHello ⟨7⟩] := by
  obtain ⟨results, final, run, inOrder, -⟩ := receives_inOrder pairSessions pairPolls_listening
  have computed : ((withListener : SocketServer ByteStream).receives pairPolls).map Prod.fst =
      .ok [.ok none, .ok (some (2, .activityHello ⟨7⟩)), .ok (some (1, .activityHello ⟨5⟩)),
        .ok (some (1, .core (.ready ⟨5⟩ ⟨Duration.zero⟩))), .ok none] := by rfl
  rw [run] at computed
  cases computed
  exact ⟨_, final, run, inOrder, rfl, rfl⟩

end Direct.WorkerConnector

end Feo
