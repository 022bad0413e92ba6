import Feo.Proof.Mpsc.Bounded
import Feo.Proof.System.Order

namespace Feo.Mpsc.Bounded

open Foundation

variable {deployment : Deployment}

/-- While no call overloads a worker, the scheduler and a worker never block each other. -/
theorem run_unblocked {late : List WorkerId} {front back : List Event}
    {bounded : Bounded deployment}
    (eased : AtEach (Eased deployment late) (front ++ back))
    (reached : (machine deployment).run (initial deployment late) front = some bounded) :
    ¬ bounded.Deadlocked := by
  intro deadlocked
  have overloaded := overloaded_of_deadlocked (run_countedAt reached) deadlocked
  rcases List.eq_nil_or_concat front with rfl | ⟨before, event, rfl⟩
  · cases reached
    obtain ⟨_, _, _, long⟩ := overloaded
    cases long
  · rw [List.concat_eq_append] at eased reached
    exact eased before event back (by simp) bounded reached overloaded

/-- A run of few events overloads no worker. -/
theorem eased_of_length {late : List WorkerId} {events : List Event}
    (short : events.length ≤ 2 * mpscChannelBound) :
    AtEach (Eased deployment late) events := by
  intro before event after split bounded reached overloaded
  obtain ⟨_, _, _, long⟩ := overloaded
  have counted := run_unanswered reached
  rw [split] at short
  simp only [List.length_append, List.length_cons, List.length_nil] at short counted
  omega

section Crowd

variable (deployment) (worker : WorkerId) (time : Timestamp)

/-- Only one worker takes part while the scheduler sends the startup signals. -/
def startingUp (remaining : List ActivityId) (point : Worker.Point)
    (queue : List ProtocolSignal) (inbox : List (WorkerId × ProtocolSignal))
    (unanswered : List WorkerId) : Bounded deployment where
  execution := Scheduler.startupActivities deployment.scheduler.newStates remaining
  unreached := (initial deployment []).unreached
  threads := Function.update (initial deployment []).threads worker (.running point)
  requests := Function.update (initial deployment []).requests worker queue
  inbox := inbox
  unanswered := unanswered

/-- The worker answers one startup signal before the next one is sent. -/
def startupRound (id : ActivityId) : List Event :=
  [.send id (.startup id time),
    .worker worker (.receive (.ok (some (.startup id time)))),
    .worker worker (.returned (.ok ()) time),
    .worker worker (.sendToScheduler (.ready id time) (.ok ()))]

variable {deployment worker}

theorem startingUp_connect (deployment : Deployment) (worker : WorkerId) :
    (initial deployment []).step (.connect worker) =
      some (startingUp deployment worker
        (sortIds deployment.scheduler.newStates.val.keys) .receive [] [] []) := by
  rfl

theorem startingUp_send {id : ActivityId} (remaining : List ActivityId) (point : Worker.Point)
    {queue : List ProtocolSignal} (inbox : List (WorkerId × ProtocolSignal))
    (unanswered : List WorkerId) (routed : deployment.route id = worker)
    (room : queue.length < mpscChannelBound) :
    (startingUp deployment worker (id :: remaining) point queue inbox unanswered).step
        (.send id (.startup id time)) =
      some (startingUp deployment worker remaining point (queue ++ [.core (.startup id time)])
        inbox (unanswered ++ [worker])) := by
  subst routed
  simp [step, startingUp, push, room, request, Scheduler.step, Scheduler.startupActivities]

theorem startingUp_receive {id : ActivityId} {remaining : List ActivityId}
    {queue : List ProtocolSignal} {inbox : List (WorkerId × ProtocolSignal)}
    {unanswered : List WorkerId} (hosted : id ∈ (deployment.workers worker).activities) :
    (startingUp deployment worker remaining .receive (.core (.startup id time) :: queue) inbox
        unanswered).step (.worker worker (.receive (.ok (some (.startup id time))))) =
      some (startingUp deployment worker remaining (.call (.startup id time)) queue inbox
        unanswered) := by
  simp [step, startingUp, workerStep, Worker.step, Worker.handleSignal,
    Worker.handleActivitySignal, hosted]

theorem startingUp_returned {id : ActivityId} {remaining : List ActivityId}
    {queue : List ProtocolSignal} {inbox : List (WorkerId × ProtocolSignal)}
    {unanswered : List WorkerId} :
    (startingUp deployment worker remaining (.call (.startup id time)) queue inbox
        unanswered).step (.worker worker (.returned (.ok ()) time)) =
      some (startingUp deployment worker remaining (.respond (.ready id time)) queue inbox
        unanswered) := by
  simp [step, startingUp, workerStep, Worker.step, Worker.response]

theorem startingUp_respond {id : ActivityId} {remaining : List ActivityId}
    {queue : List ProtocolSignal} {inbox : List (WorkerId × ProtocolSignal)}
    {unanswered : List WorkerId} (room : inbox.length < mpscChannelBound) :
    (startingUp deployment worker remaining (.respond (.ready id time)) queue inbox
        unanswered).step (.worker worker (.sendToScheduler (.ready id time) (.ok ()))) =
      some (startingUp deployment worker remaining .receive queue
        (inbox ++ [(worker, .core (.ready id time))]) unanswered) := by
  simp [step, startingUp, workerStep, Worker.step, push, room]

/-- A complete round stores one answer in the queue of the scheduler. -/
theorem startingUp_round {id : ActivityId} (remaining : List ActivityId)
    {inbox : List (WorkerId × ProtocolSignal)} (unanswered : List WorkerId)
    (routed : deployment.route id = worker)
    (hosted : id ∈ (deployment.workers worker).activities)
    (room : inbox.length < mpscChannelBound) :
    (machine deployment).run
        (startingUp deployment worker (id :: remaining) .receive [] inbox unanswered)
        (startupRound worker time id) =
      some (startingUp deployment worker remaining .receive []
        (inbox ++ [(worker, .core (.ready id time))]) (unanswered ++ [worker])) := by
  have sent := startingUp_send time remaining .receive inbox unanswered routed
    (show ([] : List ProtocolSignal).length < mpscChannelBound by decide)
  simp only [startupRound, Machine.run_cons, Machine.run_nil, machine, sent, List.nil_append,
    Option.bind_some, startingUp_receive time hosted, startingUp_returned,
    startingUp_respond time room]

/-- The rounds of several activities fill the queue of the scheduler. -/
theorem startingUp_rounds {ids : List ActivityId} (remaining : List ActivityId)
    (inbox : List (WorkerId × ProtocolSignal)) (unanswered : List WorkerId)
    (routed : ∀ id ∈ ids, deployment.route id = worker)
    (hosted : ∀ id ∈ ids, id ∈ (deployment.workers worker).activities)
    (room : inbox.length + ids.length ≤ mpscChannelBound) :
    ∃ stored waiting, stored.length = inbox.length + ids.length ∧
      (machine deployment).run
          (startingUp deployment worker (ids ++ remaining) .receive [] inbox unanswered)
          (ids.flatMap (startupRound worker time)) =
        some (startingUp deployment worker remaining .receive [] stored waiting) := by
  induction ids generalizing inbox unanswered with
  | nil => exact ⟨inbox, unanswered, rfl, rfl⟩
  | cons id rest hypothesis =>
      obtain ⟨here, there⟩ := List.forall_mem_cons.mp routed
      obtain ⟨hostedHere, hostedThere⟩ := List.forall_mem_cons.mp hosted
      rw [List.length_cons] at room
      have round := startingUp_round time (rest ++ remaining) unanswered here hostedHere
        (show inbox.length < mpscChannelBound by omega)
      obtain ⟨stored, waiting, size, reached⟩ := hypothesis
        (inbox ++ [(worker, .core (.ready id time))]) (unanswered ++ [worker]) there hostedThere
        (by
          rw [List.length_append, List.length_singleton]
          omega)
      refine ⟨stored, waiting, ?_, ?_⟩
      · rw [size, List.length_append, List.length_singleton, List.length_cons]
        omega
      · rw [List.flatMap_cons, Machine.run_append, List.cons_append, round, Option.bind_some,
          reached]

/-- The scheduler fills the queue of a worker that takes nothing from it. -/
theorem startingUp_sends {ids : List ActivityId} (remaining : List ActivityId)
    (point : Worker.Point) (queue : List ProtocolSignal)
    (inbox : List (WorkerId × ProtocolSignal)) (unanswered : List WorkerId)
    (routed : ∀ id ∈ ids, deployment.route id = worker)
    (room : queue.length + ids.length ≤ mpscChannelBound) :
    ∃ stored waiting, stored.length = queue.length + ids.length ∧
      (machine deployment).run
          (startingUp deployment worker (ids ++ remaining) point queue inbox unanswered)
          (ids.map fun id => .send id (.startup id time)) =
        some (startingUp deployment worker remaining point stored inbox waiting) := by
  induction ids generalizing queue unanswered with
  | nil => exact ⟨queue, unanswered, rfl, rfl⟩
  | cons id rest hypothesis =>
      obtain ⟨here, there⟩ := List.forall_mem_cons.mp routed
      rw [List.length_cons] at room
      have sent := startingUp_send time (rest ++ remaining) point inbox unanswered here
        (show queue.length < mpscChannelBound by omega)
      obtain ⟨stored, waiting, size, reached⟩ := hypothesis
        (queue ++ [.core (.startup id time)]) (unanswered ++ [worker]) there
        (by
          rw [List.length_append, List.length_singleton]
          omega)
      refine ⟨stored, waiting, ?_, ?_⟩
      · rw [size, List.length_append, List.length_singleton, List.length_cons]
        omega
      · rw [List.map_cons, List.cons_append, Machine.run_cons]
        change ((startingUp deployment worker (id :: (rest ++ remaining)) point queue inbox
          unanswered).step (.send id (.startup id time))).bind _ = _
        rw [sent, Option.bind_some, reached]

/-- The worker holds its answer while both channels are full. -/
theorem startingUp_deadlocks {first second rest : List ActivityId} {held last : ActivityId}
    (routed : ∀ id ∈ first ++ held :: (second ++ last :: rest), deployment.route id = worker)
    (hosted : ∀ id ∈ first ++ held :: (second ++ last :: rest),
      id ∈ (deployment.workers worker).activities)
    (answers : first.length = mpscChannelBound) (requests : second.length = mpscChannelBound) :
    ∃ events bounded, (machine deployment).run
        (startingUp deployment worker (first ++ held :: (second ++ last :: rest)) .receive [] [] [])
        events = some bounded ∧ bounded.Deadlocked := by
  obtain ⟨time⟩ : Nonempty Timestamp := ⟨⟨Duration.zero⟩⟩
  simp only [List.forall_mem_append, List.forall_mem_cons] at routed hosted
  obtain ⟨routedFirst, routedHeld, routedSecond, routedLast, _⟩ := routed
  obtain ⟨hostedFirst, hostedHeld, _⟩ := hosted
  obtain ⟨inbox, answered, full, rounds⟩ := startingUp_rounds time
    (held :: (second ++ last :: rest)) [] [] routedFirst hostedFirst
    (by rw [answers, List.length_nil, Nat.zero_add])
  have sent := startingUp_send time (second ++ last :: rest) .receive inbox answered routedHeld
    (show ([] : List ProtocolSignal).length < mpscChannelBound by decide)
  obtain ⟨queue, waiting, stored, sends⟩ := startingUp_sends time (last :: rest)
    (.respond (.ready held time)) [] inbox (answered ++ [worker]) routedSecond
    (by rw [requests, List.length_nil, Nat.zero_add])
  refine ⟨first.flatMap (startupRound worker time) ++
    ([.send held (.startup held time),
      .worker worker (.receive (.ok (some (.startup held time)))),
      .worker worker (.returned (.ok ()) time)] ++
    second.map fun id => .send id (.startup id time)),
    startingUp deployment worker (last :: rest) (.respond (.ready held time)) queue inbox waiting,
    ?_, ?_⟩
  · rw [Machine.run_append, rounds, Option.bind_some, Machine.run_append]
    simp only [Machine.run_cons, Machine.run_nil, machine, sent, Option.bind_some,
      List.nil_append, startingUp_receive time hostedHeld, startingUp_returned]
    exact sends
  · refine ⟨last, .ready held time, rfl, ?_, ?_, ?_⟩
    · rw [routedLast]
      exact Function.update_self _ _ _
    · rw [routedLast]
      change mpscChannelBound ≤
        (Function.update (initial deployment []).requests worker queue worker).length
      rw [Function.update_self, stored, requests]
      exact Nat.le_add_left _ _
    · change mpscChannelBound ≤ inbox.length
      rw [full, answers]
      exact Nat.le_add_left _ _

end Crowd

/-- A long list has a part for each channel and an element behind each part. -/
theorem exists_parts {Item : Type} {bound : Nat} {items : List Item}
    (long : 2 * bound + 1 < items.length) :
    ∃ first held second last rest, items = first ++ held :: (second ++ last :: rest) ∧
      first.length = bound ∧ second.length = bound := by
  cases tail : items.drop bound with
  | nil =>
      have short := List.drop_eq_nil_iff.mp tail
      omega
  | cons held later =>
      have counted := congrArg List.length tail
      rw [List.length_drop, List.length_cons] at counted
      cases final : later.drop bound with
      | nil =>
          have short := List.drop_eq_nil_iff.mp final
          omega
      | cons last rest =>
          refine ⟨items.take bound, held, later.take bound, last, rest, ?_, ?_, ?_⟩
          · rw [← final, List.take_append_drop, ← tail, List.take_append_drop]
          · rw [List.length_take]
            omega
          · rw [List.length_take]
            omega

/-- A worker with more activities than both channels store can block the startup. -/
theorem crowd_deadlocks (worker : WorkerId)
    (routed : ∀ id ∈ deployment.scheduler.activityDepends.keys, deployment.route id = worker)
    (hosted : ∀ id ∈ deployment.scheduler.activityDepends.keys,
      id ∈ (deployment.workers worker).activities)
    (many : 2 * mpscChannelBound + 1 < deployment.scheduler.activityDepends.keys.length) :
    ∃ events bounded, (machine deployment).run (initial deployment []) events = some bounded ∧
      bounded.Deadlocked := by
  have connected := startingUp_connect deployment worker
  have keyed : ∀ id ∈ sortIds deployment.scheduler.newStates.val.keys,
      id ∈ deployment.scheduler.activityDepends.keys :=
    fun id member => (mem_sortIds _ id).mp member
  have size : (sortIds deployment.scheduler.newStates.val.keys).length =
      deployment.scheduler.activityDepends.keys.length := sortIds_length _
  generalize sortIds deployment.scheduler.newStates.val.keys = ids at connected keyed size
  obtain ⟨first, held, second, last, rest, rfl, answers, requests⟩ :=
    exists_parts (show 2 * mpscChannelBound + 1 < ids.length by omega)
  obtain ⟨events, bounded, reached, deadlocked⟩ := startingUp_deadlocks
    (fun id member => routed id (keyed id member))
    (fun id member => hosted id (keyed id member)) answers requests
  refine ⟨.connect worker :: events, bounded, ?_, deadlocked⟩
  rw [Machine.run_cons]
  change ((initial deployment []).step (.connect worker)).bind _ = _
  rw [connected, Option.bind_some, reached]

/-- One worker hosts all 258 activities. -/
def crowd : Deployment where
  scheduler :=
    { agentId := ⟨1⟩
      cycleTime := Duration.zero
      receiveTimeout := Duration.zero
      startupTimeout := Duration.zero
      activityDepends :=
        { keys := (List.range 258).map fun number => ⟨UInt64.ofNat number⟩
          nodup := by
            apply List.Nodup.map_on ?_ List.nodup_range
            intro first below second above same
            have numbers := congrArg (fun id : ActivityId => id.id.toNat) same
            simp only [UInt64.toNat_ofNat'] at numbers
            rw [List.mem_range] at below above
            omega
          value := fun _ => [] } }
  workers id := ⟨id, ⟨1⟩, (List.range 258).map fun number => ⟨UInt64.ofNat number⟩⟩
  route _ := ⟨1⟩

/-- The queue of the worker is full after 128 startup signals, and the worker can still take one. -/
theorem run_unblocked_crowd :
    ∃ events bounded, (machine crowd).run (initial crowd []) events = some bounded ∧
      (bounded.requests ⟨1⟩).length = mpscChannelBound ∧ ¬ bounded.Deadlocked := by
  have connected := startingUp_connect crowd ⟨1⟩
  have size : (sortIds crowd.scheduler.newStates.val.keys).length = 258 := by
    rw [sortIds_length]
    change ((List.range 258).map _).length = 258
    rw [List.length_map, List.length_range]
  generalize sortIds crowd.scheduler.newStates.val.keys = ids at connected size
  have taken : (ids.take mpscChannelBound).length = mpscChannelBound := by
    rw [List.length_take, size]
    rfl
  have routed : ∀ id ∈ ids.take mpscChannelBound, crowd.route id = ⟨1⟩ := fun _ _ => rfl
  obtain ⟨queue, waiting, full, sends⟩ := startingUp_sends ⟨Duration.zero⟩
    (ids.drop mpscChannelBound) .receive [] [] [] routed
    (by rw [taken, List.length_nil, Nat.zero_add])
  rw [List.take_append_drop] at sends
  obtain ⟨events, short, reached⟩ : ∃ events, events.length ≤ 2 * mpscChannelBound ∧
      (machine crowd).run (initial crowd []) events =
        some (startingUp crowd ⟨1⟩ (ids.drop mpscChannelBound) .receive queue [] waiting) := by
    refine ⟨.connect ⟨1⟩ :: (ids.take mpscChannelBound).map fun id =>
      .send id (.startup id ⟨Duration.zero⟩), ?_, ?_⟩
    · rw [List.length_cons, List.length_map, taken]
      decide
    · rw [Machine.run_cons]
      change ((initial crowd []).step (.connect ⟨1⟩)).bind _ = _
      rw [connected, Option.bind_some, sends]
  have eased : AtEach (Eased crowd []) (events ++ []) :=
    eased_of_length (by rwa [List.append_nil])
  refine ⟨events, _, reached, ?_, run_unblocked eased reached⟩
  change (Function.update (initial crowd []).requests ⟨1⟩ queue ⟨1⟩).length = _
  rw [Function.update_self, full, taken, List.length_nil, Nat.zero_add]

theorem crowd_deadlocked :
    ∃ events bounded, (machine crowd).run (initial crowd []) events = some bounded ∧
      bounded.Deadlocked := by
  have many : crowd.scheduler.activityDepends.keys.length = 258 := by
    change ((List.range 258).map _).length = 258
    rw [List.length_map, List.length_range]
  exact crowd_deadlocks ⟨1⟩ (fun _ _ => rfl) (fun _ member => member) (by rw [many]; decide)

end Feo.Mpsc.Bounded
