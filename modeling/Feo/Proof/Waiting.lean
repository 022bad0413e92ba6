import Feo.Construction.Waiting
import Feo.Proof.Socket.Dismissal
import Feo.Proof.Socket.Reassembly

namespace Feo

open Direct (SchedulerConnector)

variable {Stream : Type} [Read Stream]

namespace Direct.SchedulerConnector

open SocketServer

/-- The connector reports no signal exactly when its server dismisses the poll. -/
theorem receive_none_iff (server : SocketServer Stream) (poll : PollAnswer Stream) :
    (∃ next, SchedulerConnector.receive server poll = .ok (.ok none, next)) ↔
      server.Dismisses poll := by
  rw [← receive_dropped_iff, SchedulerConnector.receive]
  cases received : server.receive poll with
  | error message => simp [bind, Except.bind]
  | ok answer =>
      obtain ⟨result, next⟩ := answer
      rcases result with error | _ | ⟨source, signal⟩
      · simp [bind, Except.bind, pure, Except.pure, Dropped]
      · simp [bind, Except.bind, pure, Except.pure, Dropped]
      · cases signal <;> simp [bind, Except.bind, pure, Except.pure, Dropped]

/-- An error of the connector is an error of the server. -/
theorem receive_error {server next : SocketServer Stream} {poll : PollAnswer Stream} {error : Error}
    (received : SchedulerConnector.receive server poll = .ok (.error error, next)) :
    ∃ kind, error = toError kind := by
  rw [SchedulerConnector.receive] at received
  obtain ⟨⟨result, after⟩, answered, received⟩ := bind_ok received
  rcases result with failure | _ | ⟨source, signal⟩
  · cases received
    exact SocketServer.receive_error answered
  · cases received
  · cases signal <;> cases received

end Direct.SchedulerConnector

namespace ProtocolMultiEndpoint

/-- The retry loop returns no signal only when its timeout has elapsed. -/
theorem receiveLoop_none_late {timeout elapsed last : Duration} {server : SocketServer Stream}
    {rounds : List (PollAnswer Stream × Duration)}
    (returned : receiveLoop timeout server elapsed rounds = .ok (some (.ok none, last))) :
    timeout.nanos < last.nanos := by
  induction rounds generalizing server elapsed with
  | nil =>
      rw [receiveLoop] at returned
      split at returned
      · next late =>
          cases returned
          exact of_decide_eq_true late
      · cases returned
  | cons round rounds hypothesis =>
      rw [receiveLoop] at returned
      split at returned
      · next late =>
          cases returned
          exact of_decide_eq_true late
      · obtain ⟨⟨result, next⟩, _, continued⟩ := bind_ok returned
        rcases result with failure | _ | signal
        · cases continued
        · exact hypothesis continued
        · cases continued

/-- The relayed endpoint returns no signal only when its timeout has elapsed. -/
theorem receive_none_late {timeout last : Duration} {server : SocketServer Stream}
    {rounds : List (PollAnswer Stream × Duration)}
    (returned : receive timeout server rounds = .ok (some (.ok none, last))) :
    timeout.nanos < last.nanos := receiveLoop_none_late returned

end ProtocolMultiEndpoint

namespace Scheduler

/-- The calls leave the loop waiting with this server. -/
def Awaits (scheduler : Scheduler) (server : SocketServer Stream) :
    List (ReceiveCall Stream) → SocketServer Stream → Prop
  | [], now => now = server
  | call :: calls, now => ∃ result next,
      SchedulerConnector.receive server call.poll = .ok (result, next) ∧
        scheduler.waitNextReady result = .again ∧ scheduler.Awaits next calls now

/-- Only a missing signal is a timeout. -/
theorem waitNextReady_timeout {scheduler : Scheduler} {timeout : Option Duration} {message : String}
    {server next : SocketServer Stream} {poll : PollAnswer Stream}
    {result : Except Error (Option Signal)}
    (received : SchedulerConnector.receive server poll = .ok (result, next))
    (failed : scheduler.waitNextReady result = .failed (.timeout timeout message)) :
    result = .ok none := by
  rcases result with error | _ | signal
  · obtain ⟨kind, rfl⟩ := SchedulerConnector.receive_error received
    cases failed
  · rfl
  · cases signal <;> cases failed

/-- The first call is dismissed at once, or the server that it leaves waiting meets a later one. -/
theorem dismissed_cons {scheduler : Scheduler} {server : SocketServer Stream}
    {first call : ReceiveCall Stream} {calls : List (ReceiveCall Stream)} :
    (∃ before after now, first :: calls = before ++ call :: after ∧
        scheduler.Awaits server before now ∧ now.Dismisses call.poll) ↔
      (first = call ∧ server.Dismisses first.poll) ∨
        ∃ result next, SchedulerConnector.receive server first.poll = .ok (result, next) ∧
          scheduler.waitNextReady result = .again ∧
            ∃ before after now, calls = before ++ call :: after ∧
              scheduler.Awaits next before now ∧ now.Dismisses call.poll := by
  constructor
  · intro ⟨before, after, now, split, awaits, dismisses⟩
    cases before with
    | nil =>
        cases split
        exact .inl ⟨rfl, awaits ▸ dismisses⟩
    | cons other before =>
        cases split
        obtain ⟨result, next, received, again, awaits⟩ := awaits
        exact .inr ⟨result, next, received, again, before, after, now, rfl, awaits, dismisses⟩
  · intro dismissed
    cases dismissed with
    | inl here => exact ⟨[], calls, server, by rw [here.1]; rfl, rfl, here.1 ▸ here.2⟩
    | inr later =>
        obtain ⟨result, next, received, again, before, after, now, split, awaits, dismisses⟩ :=
          later
        exact ⟨first :: before, after, now, by rw [split]; rfl,
          ⟨result, next, received, again, awaits⟩, dismisses⟩

/-- The wait times out in the call whose poll the waiting server dismisses. -/
theorem waitNextReadyOn_timeout_iff (scheduler : Scheduler) (server : SocketServer Stream)
    (calls : List (ReceiveCall Stream)) (call : ReceiveCall Stream) :
    (∃ timeout message, scheduler.waitNextReadyOn server calls =
        .ok (some (.error (.timeout timeout message), call))) ↔
      ∃ before after now, calls = before ++ call :: after ∧ scheduler.Awaits server before now ∧
        now.Dismisses call.poll := by
  induction calls generalizing server with
  | nil =>
      apply iff_of_false
      · rintro ⟨timeout, message, waited⟩
        cases waited
      · rintro ⟨before, after, now, split, -⟩
        cases before <;> cases split
  | cons first calls hypothesis =>
      have dismissing := SchedulerConnector.receive_none_iff server first.poll
      rw [waitNextReadyOn, dismissed_cons, ← dismissing]
      cases received : SchedulerConnector.receive server first.poll with
      | error message => simp [bind, Except.bind]
      | ok answer =>
          obtain ⟨result, next⟩ := answer
          simp only [bind, Except.bind, Except.ok.injEq, Prod.mk.injEq, exists_and_left]
          cases waited : scheduler.waitNextReady result with
          | again =>
              have signalled : result ≠ .ok none := by
                rintro rfl
                cases waited
              simp [signalled, waited, hypothesis]
          | ready id =>
              have signalled : result ≠ .ok none := by
                rintro rfl
                cases waited
              simp [signalled, waited, pure, Except.pure]
          | failed error =>
              have missing : (∃ timeout message, error = .timeout timeout message) ↔
                  result = .ok none := by
                constructor
                · rintro ⟨timeout, message, same⟩
                  rw [same] at waited
                  exact waitNextReady_timeout received waited
                · rintro rfl
                  cases waited
                  exact ⟨_, _, rfl⟩
              simp [waited, pure, Except.pure, missing, and_comm]

/-- A timeout is never reported early exactly when no call is dismissed before it. -/
theorem waitNextReadyOn_timesOutLate_iff (scheduler : Scheduler) (server : SocketServer Stream)
    (calls : List (ReceiveCall Stream)) :
    (∀ timeout message call, scheduler.waitNextReadyOn server calls =
        .ok (some (.error (.timeout timeout message), call)) →
          scheduler.receiveTimeout.nanos ≤ call.elapsed.nanos) ↔
      ∀ before call after now, calls = before ++ call :: after →
        scheduler.Awaits server before now → call.elapsed.nanos < scheduler.receiveTimeout.nanos →
          ¬ now.Dismisses call.poll := by
  constructor
  · intro late before call after now split awaits early dismisses
    obtain ⟨timeout, message, waited⟩ := (waitNextReadyOn_timeout_iff scheduler server calls
      call).mpr ⟨before, after, now, split, awaits, dismisses⟩
    have reached := late timeout message call waited
    omega
  · intro patient timeout message call waited
    obtain ⟨before, after, now, split, awaits, dismisses⟩ := (waitNextReadyOn_timeout_iff scheduler
      server calls call).mp ⟨timeout, message, waited⟩
    by_contra early
    exact patient before call after now split awaits (by omega) dismisses

/-- The scheduler of one activity waits one millisecond for a signal. -/
def patient : Scheduler where
  agentId := ⟨0⟩
  cycleTime := Duration.fromNanos 1000000
  receiveTimeout := Duration.fromNanos 1000000
  startupTimeout := Duration.fromNanos 1000000
  activityDepends := ⟨[⟨0⟩], List.nodup_singleton _, fun _ => []⟩

/-- The poll answers at once that a connection has come. -/
def accepting : ReceiveCall ByteStream where
  poll := .ok [.listener [.connection ⟨[], [], false, [], none⟩ true [1], .failed .wouldBlock]]
  begun := ⟨0, Reading.zero_lower, Reading.zero_upper⟩
  ended := ⟨0, Reading.zero_lower, Reading.zero_upper⟩

/-- A newly accepted connection is a timeout before any time has elapsed. -/
theorem waitNextReadyOn_accepting :
    patient.waitNextReadyOn ⟨[], 0⟩ [accepting] = .ok (some (.error
        (.timeout (some patient.receiveTimeout) "waiting for ready signal"), accepting)) ∧
      ¬ patient.receiveTimeout.nanos ≤ accepting.elapsed.nanos := by
  constructor
  · rfl
  · decide

/-- The poll reported the bytes of an acknowledgement. -/
def acknowledged : Connection ByteStream :=
  (Connection.new
    (ProtocolSignal.sentStream [.core (.terminateAck ⟨3⟩)] [] false)).setStreamReadable

theorem milli_lower : -9223372036854775808000000000 ≤ (1000000 : Int) := by omega

theorem milli_upper : (1000000 : Int) < 9223372036854775808000000000 := by omega

/-- The poll answers without an event after one millisecond. -/
def elapsing : ReceiveCall ByteStream where
  poll := .ok []
  begun := ⟨0, Reading.zero_lower, Reading.zero_upper⟩
  ended := ⟨1000000, milli_lower, milli_upper⟩

theorem acknowledged_framed : SocketServer.Framed [(1, acknowledged)] := by
  intro entry member
  cases List.mem_singleton.mp member
  have valid : ∀ signal ∈ [ProtocolSignal.core (.terminateAck ⟨3⟩)],
      signal.Known ∧ signal.Small := by
    simp [ProtocolSignal.Known, ProtocolSignal.Small, ProtocolSignal.duration?]
  refine ⟨⟨rfl, List.not_mem_nil⟩, [], [.core (.terminateAck ⟨3⟩)], ?_⟩
  exact (ProtocolSignal.sentStream_owes _ valid [] false).setStreamReadable

/-- The frame of the acknowledgement is neither missing nor foreign. -/
theorem acknowledged_undismissed (poll : PollAnswer ByteStream) :
    ¬ (SocketServer.mk [(1, acknowledged)] 1).Dismisses poll := by
  have arrived : ProtocolSignal.tryDecode acknowledged.arrived =
      .ok (some (.core (.terminateAck ⟨3⟩), 10)) := by decide
  rw [SocketServer.Dismisses, acknowledged_framed.greets_iff, acknowledged_framed.silent_iff]
  rintro (⟨front, entry, back, split, -, signal, size, decoded, foreign⟩ | ⟨silent, -⟩)
  · obtain ⟨rfl, rfl, rfl⟩ : front = [] ∧ entry = (1, acknowledged) ∧ back = [] := by
      simpa using (List.append_eq_cons_iff.mp split.symm)
    cases arrived.symm.trans decoded
    exact foreign _ rfl
  · cases arrived.symm.trans (silent _ (List.mem_singleton_self _))

/-- The first call returns a signal that is no readiness, and the timeout is not early. -/
theorem waitNextReadyOn_timesOutLate_elapsing :
    (∀ timeout message call, patient.waitNextReadyOn ⟨[(1, acknowledged)], 1⟩
        [accepting, elapsing] = .ok (some (.error (.timeout timeout message), call)) →
          patient.receiveTimeout.nanos ≤ call.elapsed.nanos) ∧
      patient.waitNextReadyOn ⟨[(1, acknowledged)], 1⟩ [accepting, elapsing] =
        .ok (some (.error (.timeout (some patient.receiveTimeout) "waiting for ready signal"),
          elapsing)) := by
  refine ⟨(waitNextReadyOn_timesOutLate_iff patient _ _).mpr ?_, by rfl⟩
  intro before call after now split awaits early
  cases before with
  | nil =>
      cases split
      rw [awaits]
      exact acknowledged_undismissed accepting.poll
  | cons first before =>
      cases before with
      | nil =>
          cases split
          exact absurd early (by decide)
      | cons second before => simp at split

end Scheduler

end Feo
