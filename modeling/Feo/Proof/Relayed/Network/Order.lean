import Feo.Foundation.Split
import Feo.Proof.Relayed.Network.Up

namespace Feo.Relayed.Network

open Foundation

variable {setup : Setup}

/-- No worker has received a signal before the scheduler runs. -/
theorem Complete.received_of_early {network : Network setup} (complete : Complete network)
    (downward : Downward network) (early : network.main.early = true) (worker : WorkerId) :
    network.received worker = [] := by
  cases hosted : setup.hosts worker with
  | true =>
      have called := complete worker hosted
      rw [downward.early early worker] at called
      exact (List.append_eq_nil_iff.mp called.symm).1
  | false => exact downward.idle worker hosted

/-- The receives of the relays lose at most the first signal of a queue. -/
theorem upstream_sublist {network next : Network setup} {worker : WorkerId}
    (held : (next.primaryReceive.pending worker).Sublist (network.primaryReceive.pending worker))
    (forwarded : ∀ agent, (next.fromAgent agent).Sublist (network.fromAgent agent))
    (holding : ∀ agent, ((next.secondarySend agent).pending worker).Sublist
      ((network.secondarySend agent).pending worker))
    (collected : ∀ agent, (next.outbox agent).Sublist (network.outbox agent)) :
    (next.upstream worker).Sublist (network.upstream worker) := by
  cases here : setup.isLocal worker with
  | true => rw [upstream_of_local here, upstream_of_local here]
  | false =>
      rw [upstream_of_remote here, upstream_of_remote here]
      exact held.append (((forwarded _).filterMap _).append
        ((holding _).append ((collected _).filterMap _)))

theorem delivered_deliver (network : Network setup) (entry : Origin × Mpsc.ProtocolSignal)
    (worker : WorkerId) :
    (network.deliver entry).delivered worker =
      network.delivered worker ++ (attributed worker entry.1 entry.2.core?).toList := by
  obtain ⟨origin, signal⟩ := entry
  cases signal with
  | connect channel =>
      change _ = _ ++ (attributed worker origin none).toList
      rw [attributed_none]
      cases origin <;> exact (List.append_nil _).symm
  | core core =>
      cases origin with
      | none => exact (List.append_nil _).symm
      | some here => exact update_attributed network.delivered here worker core

/-- A relay that panics has received no signal of a worker. -/
theorem upstream_panicked {network : Network setup} {missingPeers : List ChannelId}
    (thread : network.primaryReceive = .connect missingPeers) (worker : WorkerId) :
    upstream { network with primaryReceive := .panicked } worker = network.upstream worker := by
  apply upstream_congr
  intro _
  rw [thread]
  rfl

/-- The relay of an agent ends with the signal that it failed to send. -/
theorem upstream_ended {network : Network setup} {agent : AgentId} {held : Origin × Signal}
    (thread : network.secondarySend agent = .relay (some held)) (worker : WorkerId) :
    upstream { network with
      secondarySend := Function.update network.secondarySend agent (.ended held) } worker =
      network.upstream worker := by
  apply upstream_congr
  intro _
  change _ ++ (_ ++ ((Function.update network.secondarySend agent _ _).pending worker ++ _)) = _
  by_cases same : setup.home worker = agent
  · rw [same, Function.update_self, thread]
    rfl
  · rw [Function.update_of_ne same]

/-- The signals of each worker are those delivered and those on their way. -/
def Accounted (network : Network setup) : Prop :=
  ∀ worker, network.sent worker = network.delivered worker ++ network.up worker

theorem accounted_initial : Accounted (initial setup) := by
  intro worker
  change [] = (initial setup).upstream worker
  cases here : setup.isLocal worker with
  | true => rw [upstream_of_local here]
  | false =>
      rw [upstream_of_remote here]
      change [] = (if setup.remoteAgents = [] then PrimaryReceiveThread.absent
        else .connect _).pending worker ++ []
      split <;> rfl

theorem Accounted.move {network next : Network setup} {event : Event}
    (accounted : Accounted network) (downward : Downward network) (complete : Complete network)
    (upward : Upward network) (connected : Connected network) (move : Move network event next) :
    Accounted next := by
  intro worker
  have before := accounted worker
  have kept (same : next.up worker = network.up worker) :
      network.sent worker = network.delivered worker ++ next.up worker := by
    rw [same]
    exact before
  have dropped (early : network.main.early = true)
      (fewer : (next.up worker).Sublist (network.up worker)) :
      network.sent worker = network.delivered worker ++ next.up worker := by
    have silent := (upward.silent worker
      (complete.received_of_early downward early worker)).1
    rw [silent] at before ⊢
    obtain ⟨undelivered, empty⟩ := List.append_eq_nil_iff.mp before.symm
    rw [empty] at fewer
    rw [undelivered, List.sublist_nil.mp fewer]
    rfl
  cases move with
  | acceptedSender main head =>
      apply dropped (by rw [main]; rfl)
      rw [up, up, head, intraView_cons]
      exact (List.sublist_append_right _ _).append (.refl _)
  | @received entry rest _ _ head =>
      refine before.trans ?_
      change _ = (network.deliver entry).delivered worker ++
        (intraView worker rest ++ network.upstream worker)
      rw [delivered_deliver, up, head, intraView_cons]
      simp only [List.append_assoc]
  | @primaryGreeted agent entry _ _ _ thread head =>
      apply dropped (connected.awaited (by rw [thread]; rfl)).early
      exact .append (.refl _) (upstream_sublist (by rw [thread]; exact .refl _)
        (update_sublist head) (fun _ => .refl _) fun _ => .refl _)
  | @primaryTook agent entry rest _ thread head =>
      apply kept
      have homed := upward.forwarded agent entry (by rw [head]; exact List.mem_cons_self)
      exact congrArg _ (upstream_took homed thread head worker)
  | primaryPanicked thread => exact kept (congrArg _ (upstream_panicked thread worker))
  | secondaryEnded _ thread => exact kept (congrArg _ (upstream_ended thread worker))
  | primaryAnnounced thread =>
      apply kept
      have upstream : upstream { network with
          primaryReceive := .relay none
          inbox := network.inbox ++ [(none, .connect relayChannel)] } worker =
          network.upstream worker := by
        apply upstream_congr
        intro _
        rw [thread]
        rfl
      rw [up, up, upstream, intraView_append]
      exact congrArg (· ++ _) (List.append_nil _)
  | primaryForwarded thread =>
      obtain ⟨agent, homed⟩ := upward.relayed _ thread
      exact kept (up_forwarded homed thread worker)
  | @secondaryCollected agent _ _ _ _ remote thread head =>
      have misses := (connected.linked agent remote _ thread).2
      apply dropped (connected.awaited misses.connecting).early
      refine .append (.refl _) (upstream_sublist (.refl _) (fun _ => .refl _) ?_
        (update_sublist head))
      intro other
      change ((Function.update network.secondarySend agent _ other).pending worker).Sublist _
      by_cases same : other = agent
      · subst same
        rw [Function.update_self, thread]
        exact .refl _
      · rw [Function.update_of_ne same]
  | secondaryHeld _ thread head => exact kept (congrArg _ (upstream_held thread head worker))
  | @secondaryHello agent _ _ thread =>
      refine kept (congrArg _ (upstream_proceed (none, .channelHello (.agent agent)) worker
        thread ?_))
      exact congrArg Option.toList (attributed_none worker none).symm
  | @secondaryForwarded _ origin core _ thread =>
      exact kept (congrArg _ (upstream_proceed (origin, .core core) worker thread
        (heldView_some _ _ _)))
  | @workerGreeted here =>
      apply kept
      refine (up_emit network here worker (.connect (.worker here))).trans ?_
      change _ ++ (attributed worker (some here) none).toList = _
      rw [attributed_none, Option.toList_none, List.append_nil]
  | @workerSent here signal _ _ _ _ _ =>
      have emitted := up_emit network here worker (.core signal)
      change Function.update network.sent here _ worker = network.delivered worker ++
        (network.emit here (.core signal)).up worker
      rw [emitted, ← List.append_assoc, ← before]
      exact update_attributed network.sent here worker signal
  | _ => exact before

/-- In a patient and unbroken run no signal of a worker is received too early. -/
theorem run_accounted {history : List Event} {final : Network setup}
    (reached : (machine setup).run (initial setup) history = some final)
    (unbroken : Throughout setup Unbroken history) (patient : Throughout setup Patient history) :
    Upward final ∧ Connected final ∧ Accounted final := by
  refine (machine setup).run_induction
    (fun history network => Throughout setup Unbroken history → Throughout setup Patient history →
      Upward network ∧ Connected network ∧ Accounted network)
    (fun _ _ => ⟨upward_initial, connected_initial, accounted_initial⟩) ?_ reached unbroken patient
  intro history network event next earlier before stepped unbroken patient
  have whole := (throughout_concat.mp unbroken).1
  obtain ⟨front, last⟩ := throughout_concat.mp patient
  obtain ⟨upward, connected, accounted⟩ := before whole front
  have move := step_move stepped
  exact ⟨upward.move move, connected.move (last network earlier) move,
    accounted.move (run_downward earlier) (run_complete earlier whole).2 upward connected move⟩

/-- In an unbroken run a worker receives a prefix of the calls that concern it, and in a patient one
the scheduler receives a prefix of the signals that the worker sends. -/
theorem run_relays_inOrder {history : List Event} {final : Network setup}
    (reached : (machine setup).run (initial setup) history = some final)
    (unbroken : Throughout setup Unbroken history) (worker : WorkerId) :
    final.received worker <+: final.called worker ∧
      (∀ signal ∈ final.received worker, ∀ id, signal.target? = some id →
        setup.activityWorkerMap.get? id = some worker) ∧
      (Throughout setup Patient history → final.delivered worker <+: final.sent worker) := by
  have downward := run_downward reached
  have complete := (run_complete reached unbroken).2
  have received : final.received worker <+: final.called worker := by
    cases hosted : setup.hosts worker with
    | true =>
        rw [complete worker hosted]
        exact List.prefix_append _ _
    | false =>
        rw [downward.idle worker hosted]
        exact List.nil_prefix
  refine ⟨received, ?_, ?_⟩
  · intro signal member id target
    have concerned := downward.typed worker signal (received.subset member)
    exact (setup.concerns_of_target worker target).mp concerned
  · intro patient
    rw [(run_accounted reached unbroken patient).2.2 worker]
    exact List.prefix_append _ _

/-- Activities 1 and 3 run on agent 101, activity 2 on agent 102, and activity 4 on agent 100. -/
def trio : Setup where
  scheduler :=
    { agentId := ⟨100⟩
      cycleTime := Duration.zero
      receiveTimeout := Duration.zero
      startupTimeout := Duration.zero
      activityDepends :=
        { keys := [⟨1⟩, ⟨2⟩, ⟨3⟩, ⟨4⟩], nodup := by decide, value := fun _ => [] } }
  workers id :=
    if id = ⟨41⟩ then ⟨⟨41⟩, ⟨101⟩, [⟨1⟩, ⟨3⟩]⟩
    else if id = ⟨42⟩ then ⟨⟨42⟩, ⟨102⟩, [⟨2⟩]⟩
    else ⟨⟨40⟩, ⟨100⟩, [⟨4⟩]⟩
  timeout := ⟨10 ^ 10, by decide⟩
  workerAgentMap :=
    { keys := [⟨40⟩, ⟨41⟩, ⟨42⟩]
      nodup := by decide
      value := fun worker =>
        if worker = ⟨41⟩ then ⟨101⟩ else if worker = ⟨42⟩ then ⟨102⟩ else ⟨100⟩ }
  activityWorkerMap :=
    { keys := [⟨1⟩, ⟨2⟩, ⟨3⟩, ⟨4⟩]
      nodup := by decide
      value := fun id => if id = ⟨2⟩ then ⟨42⟩ else if id = ⟨4⟩ then ⟨40⟩ else ⟨41⟩ }

def trioTime : Timestamp := ⟨Duration.zero⟩

/-- The relays of both agents say hello, and the local worker sends its connect signal. -/
def trioConnecting : List Event :=
  [.secondaryReceive ⟨101⟩, .secondaryReceive ⟨101⟩, .secondaryReceive ⟨102⟩,
    .secondaryReceive ⟨102⟩, .connect ⟨40⟩, .acceptReceiver ⟨101⟩, .acceptReceiver ⟨102⟩, .next]

/-- The only worker of the agent connects, and its agent says hello to the primary. -/
def trioHello (worker : WorkerId) (agent : AgentId) : List Event :=
  [.connect worker, .secondaryTake agent, .secondaryNext agent, .primaryTake agent]

/-- The primary connects the local worker, sends `StartupSync`, and starts up all activities. -/
def trioStarting : List Event :=
  [.next, .next, .start ⟨Duration.zero⟩, .next, .next, .next,
    .send ⟨1⟩ (.startup ⟨1⟩ trioTime), .send ⟨2⟩ (.startup ⟨2⟩ trioTime),
    .send ⟨3⟩ (.startup ⟨3⟩ trioTime), .send ⟨4⟩ (.startup ⟨4⟩ trioTime),
    .secondaryReceive ⟨101⟩, .connect ⟨41⟩]

/-- Worker 41 starts up the activity, and the relay of the primary takes its `Ready`. -/
def trioReady (id : ActivityId) : List Event :=
  [.secondaryReceive ⟨101⟩, .secondaryReceive ⟨101⟩,
    .worker ⟨41⟩ (.receive (.ok (some (.startup id trioTime)))),
    .worker ⟨41⟩ (.returned (.ok ()) trioTime),
    .worker ⟨41⟩ (.sendToScheduler (.ready id trioTime) (.ok ())),
    .secondaryTake ⟨101⟩, .secondaryNext ⟨101⟩, .primaryTake ⟨101⟩]

/-- The connector awaits the relay, and the scheduler receives the first `Ready` before the startup
timeout. -/
def trioPatient : List Event :=
  trioConnecting ++ trioHello ⟨41⟩ ⟨101⟩ ++ trioHello ⟨42⟩ ⟨102⟩ ++
    [.primaryNext, .acceptSender, .acceptSender] ++ trioStarting ++ trioReady ⟨1⟩ ++
    [.primaryNext, .scheduler (.elapsed Duration.zero), .receive]

/-- The stream to an agent is full. -/
def refusal : Error := .io .wouldBlock "failed"

/-- The `Shutdown` for agent 101 is torn, and the broadcast ends at its first send. -/
def patientRun : List Event :=
  trioPatient ++
    [.scheduler (.elapsed (Duration.fromNanos 1)),
      .sendError ⟨1⟩ (.shutdown ⟨1⟩ trioTime) refusal true,
      .scheduler (.elapsed (Duration.fromNanos 1)), .broadcast trioTime, .nextError refusal false]

theorem patientRun_inOrder :
    ∃ final, (machine trio).run (initial trio) patientRun = some final ∧
      final.received ⟨41⟩ = [.startup ⟨1⟩ trioTime] ∧
      final.called ⟨41⟩ = [.startup ⟨1⟩ trioTime, .startup ⟨3⟩ trioTime, .shutdown ⟨1⟩ trioTime,
        .terminate trioTime] ∧
      final.delivered ⟨41⟩ = [.ready ⟨1⟩ trioTime] ∧
      final.received ⟨41⟩ <+: final.called ⟨41⟩ ∧
      final.delivered ⟨41⟩ <+: final.sent ⟨41⟩ := by
  have unbroken : Throughout trio Unbroken patientRun := by
    rw [Throughout, atEach_iff_getElem]
    decide +kernel
  have patient : Throughout trio Patient patientRun := by
    rw [Throughout, atEach_iff_getElem]
    decide +kernel
  have histories : ((machine trio).run (initial trio) patientRun).map
      (fun final => (final.received ⟨41⟩, final.called ⟨41⟩, final.delivered ⟨41⟩)) =
        some ([.startup ⟨1⟩ trioTime],
          [.startup ⟨1⟩ trioTime, .startup ⟨3⟩ trioTime, .shutdown ⟨1⟩ trioTime,
            .terminate trioTime], [.ready ⟨1⟩ trioTime]) := by
    decide +kernel
  obtain ⟨final, reached, same⟩ := Option.map_eq_some_iff.mp histories
  obtain ⟨received, rest⟩ := Prod.mk.inj same
  obtain ⟨called, delivered⟩ := Prod.mk.inj rest
  have ordered := run_relays_inOrder reached unbroken ⟨41⟩
  exact ⟨final, reached, received, called, delivered, ordered.1, ordered.2.2 patient⟩

/-- The connecting loop ends at its timeout while agent 102 has not said hello yet, and the thread
of the relay, which started after this loop, still connects. -/
def hastyRun : List Event :=
  trioConnecting ++ .acceptSender :: trioHello ⟨41⟩ ⟨101⟩ ++ trioStarting ++ trioReady ⟨1⟩ ++
    trioHello ⟨42⟩ ⟨102⟩ ++ .primaryNext :: trioReady ⟨3⟩ ++
    [.primaryNext, .scheduler (.elapsed Duration.zero), .receive, .broadcast trioTime,
      .next, .next, .next, .next, .scheduler (.connectedAgents [⟨101⟩, ⟨102⟩]),
      .scheduler (.elapsed Duration.zero), .receive]

/-- The full stream refuses the first `Shutdown` for worker 41 and takes the second. -/
def brokenRun : List Event :=
  trioPatient ++ trioReady ⟨3⟩ ++
    [.primaryNext, .scheduler (.elapsed Duration.zero), .receive,
      .scheduler (.elapsed (Duration.fromNanos 1)),
      .sendError ⟨1⟩ (.shutdown ⟨1⟩ trioTime) refusal false,
      .send ⟨3⟩ (.shutdown ⟨3⟩ trioTime), .secondaryReceive ⟨101⟩, .secondaryReceive ⟨101⟩,
      .worker ⟨41⟩ (.receive (.ok (some (.shutdown ⟨3⟩ trioTime))))]

/-- The relay of the primary drops the first `Ready` of worker 41 in the hasty run, and worker 41
never receives the first `Shutdown` in the broken run. -/
theorem trio_disordered :
    (∃ final, (machine trio).run (initial trio) hastyRun = some final ∧
      ¬ final.delivered ⟨41⟩ <+: final.sent ⟨41⟩) ∧
    ∃ final, (machine trio).run (initial trio) brokenRun = some final ∧
      ¬ final.received ⟨41⟩ <+: final.called ⟨41⟩ := by
  have hasty : ((machine trio).run (initial trio) hastyRun).map
      (fun final => (final.delivered ⟨41⟩, final.sent ⟨41⟩)) =
        some ([.ready ⟨3⟩ trioTime], [.ready ⟨1⟩ trioTime, .ready ⟨3⟩ trioTime]) := by
    decide +kernel
  have broken : ((machine trio).run (initial trio) brokenRun).map
      (fun final => (final.received ⟨41⟩, final.called ⟨41⟩)) =
        some ([.startup ⟨1⟩ trioTime, .startup ⟨3⟩ trioTime, .shutdown ⟨3⟩ trioTime],
          [.startup ⟨1⟩ trioTime, .startup ⟨3⟩ trioTime, .shutdown ⟨1⟩ trioTime,
            .shutdown ⟨3⟩ trioTime]) := by
    decide +kernel
  constructor
  · obtain ⟨final, reached, same⟩ := Option.map_eq_some_iff.mp hasty
    obtain ⟨delivered, sent⟩ := Prod.mk.inj same
    refine ⟨final, reached, ?_⟩
    rw [delivered, sent]
    decide
  · obtain ⟨final, reached, same⟩ := Option.map_eq_some_iff.mp broken
    obtain ⟨received, called⟩ := Prod.mk.inj same
    refine ⟨final, reached, ?_⟩
    rw [received, called]
    decide

end Feo.Relayed.Network
