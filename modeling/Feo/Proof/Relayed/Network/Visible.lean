import Feo.Proof.Relayed.Network.Order
import Feo.Proof.System.LockStep

namespace Feo

/-- The signal that a worker takes from its queue. -/
def Worker.Event.taken : Worker.Event → List Signal
  | .receive (.ok (some signal)) => [signal]
  | _ => []

/-- The signal that a worker gives to the connector. -/
def Worker.Event.given : Worker.Event → List Signal
  | .sendToScheduler signal (.ok _) => [signal]
  | _ => []

theorem Worker.Event.taken_eq_nil {event : Worker.Event}
    (unreceived : ∀ signal, event ≠ .receive (.ok (some signal))) : event.taken = [] := by
  unfold taken
  split
  · next signal => exact absurd rfl (unreceived signal)
  · rfl

theorem Worker.Event.given_eq_nil {event : Worker.Event}
    (unsent : ∀ signal value, event ≠ .sendToScheduler signal (.ok value)) :
    event.given = [] := by
  unfold given
  split
  · next signal value => exact absurd rfl (unsent signal value)
  · rfl

namespace Relayed

open Foundation

/-- The connections and relays of a setup stand in for one queue in each direction. -/
def Setup.deployment (setup : Setup) : Deployment where
  scheduler := setup.scheduler
  workers := setup.workers
  route := setup.activityWorkerMap.value

/-- A thread that connects has not begun to receive. -/
def threadPoint : Mpsc.Thread → Worker.Point
  | .running point => point
  | _ => .receive

/-- The main thread sends the signals of its broadcast one after the other. -/
def Main.broadcasts : Main → Bool
  | .broadcastTerminate _ _ => true
  | _ => false

namespace Network

variable {setup : Setup}

/-- No send of a `Startup` or a `Step` fails, as the scheduler panics then. -/
def Sustained (_ : Network setup) : Event → Prop
  | .sendError _ (.shutdown _ _) _ _ => True
  | .sendError _ _ _ _ => False
  | _ => True

instance (network : Network setup) (event : Event) : Decidable (network.Sustained event) := by
  unfold Sustained
  split <;> infer_instance

/-- The scheduler has made its broadcast when its first signal leaves. -/
def settled (network : Network setup) : Scheduler.Execution setup.scheduler :=
  match network.main with
  | .broadcastTerminate time _ =>
      (Scheduler.step network.execution (.broadcastTerminate (.terminate time) (.ok ()))).getD
        network.execution
  | _ => network.execution

/-- An event is observed if a worker calls a function or returns from it. -/
def observe (network : Network setup) : Event → Option Observation
  | .worker id (.receive (.ok (some signal))) =>
      if (setup.workers id).handleSignal signal = .call signal then some (.called signal) else none
  | .worker id (.returned result _) =>
      match threadPoint (network.threads id) with
      | .call signal => some (.returned signal result)
      | _ => none
  | _ => none

/-- The parts of the network that the refinement relates. -/
structure Kept (network next : Network setup) : Prop where
  points : ∀ worker, threadPoint (next.threads worker) = threadPoint (network.threads worker)
  called : next.called = network.called
  received : next.received = network.received
  sent : next.sent = network.sent
  delivered : next.delivered = network.delivered

/-- A worker of the network moves, and everything else stays as it is. -/
structure Worked (network : Network setup) (worker : WorkerId) (event : Worker.Event)
    (point : Worker.Point) (next : Network setup) : Prop where
  settled : next.settled = network.settled
  points : ∀ other, threadPoint (next.threads other) =
    if other = worker then point else threadPoint (network.threads other)
  called : next.called = network.called
  received : ∀ other, next.received other =
    network.received other ++ if other = worker then event.taken else []
  sent : ∀ other, next.sent other =
    network.sent other ++ if other = worker then event.given else []
  delivered : next.delivered = network.delivered

/-- An event is hidden, or it is a call of the scheduler or of a worker. -/
inductive Visible (network : Network setup) : Event → Network setup → Prop where
  | hidden {event : Event} {next : Network setup} (unobserved : network.observe event = none)
      (settled : next.settled = network.settled) (kept : Kept network next) :
      Visible network event next
  | scheduled {event : Scheduler.Event} {next : Network setup} {origin : Event}
      (unobserved : network.observe origin = none) (isLocal : event.isLocal = true)
      (stepped : Scheduler.step network.settled event = some next.settled)
      (kept : Kept network next) : Visible network origin next
  | sent {id : ActivityId} {signal : Signal} {next : Network setup} {origin : Event}
      (unobserved : network.observe origin = none) (target : signal.target? = some id)
      (route : ∃ worker, setup.activityWorkerMap.get? id = some worker)
      (stepped : Scheduler.step network.settled (.sendToActivity id signal (.ok ())) =
        some next.settled)
      (kept : Kept (network.call signal) next) : Visible network origin next
  | refused {id : ActivityId} {signal : Signal} {error : Error} {next : Network setup}
      (target : signal.target? = some id)
      (route : setup.connector.sendToActivity id = .error error)
      (stepped : Scheduler.step network.settled (.sendToActivity id signal (.error error)) =
        some next.settled)
      (kept : Kept (network.call signal) next) : Visible network (.send id signal) next
  | received {entry : Origin × Mpsc.ProtocolSignal} {next : Network setup}
      (member : entry ∈ network.inbox)
      (stepped : Scheduler.step network.settled (.receive entry.2.received) = some next.settled)
      (kept : Kept (network.deliver entry) next) : Visible network .receive next
  | broadcast {time : Timestamp} {next : Network setup}
      (stepped : Scheduler.step network.settled (.broadcastTerminate (.terminate time) (.ok ())) =
        some next.settled)
      (kept : Kept (network.call (.terminate time)) next) : Visible network (.broadcast time) next
  | worked {worker : WorkerId} {event : Worker.Event} {point : Worker.Point}
      {next : Network setup} (hosted : setup.hosts worker = true)
      (stepped : (setup.workers worker).step (threadPoint (network.threads worker)) event =
        some point)
      (worked : Worked network worker event point next) :
      Visible network (.worker worker event) next

theorem settled_of_main {network : Network setup} (main : network.main.broadcasts = false) :
    network.settled = network.execution := by
  unfold settled
  split
  · next same =>
      rw [same] at main
      cases main
  · rfl

theorem Kept.of_eq {network next : Network setup} (threads : next.threads = network.threads)
    (history : next.toHistory = network.toHistory) : Kept network next := by
  refine ⟨fun worker => by rw [threads], ?_, ?_, ?_, ?_⟩ <;> rw [history]

/-- The main thread is hidden while it does not broadcast. -/
theorem hidden_of_main {network next : Network setup} {event : Event}
    (unobserved : network.observe event = none) (before : network.main.broadcasts = false)
    (after : next.main.broadcasts = false) (execution : next.execution = network.execution)
    (kept : Kept network next) : Visible network event next := by
  refine .hidden unobserved ?_ kept
  rw [settled_of_main before, settled_of_main after, execution]

/-- The relays are hidden, as they neither call the scheduler nor run a worker. -/
theorem hidden_of_relay {network next : Network setup} {event : Event}
    (unobserved : network.observe event = none) (main : next.main = network.main)
    (execution : next.execution = network.execution) (kept : Kept network next) :
    Visible network event next := by
  refine .hidden unobserved ?_ kept
  unfold settled
  rw [main, execution]

/-- The scheduler goes on in the same way if a `Shutdown` or its broadcast fails. -/
theorem step_of_error {scheduler : Scheduler} {execution next : Scheduler.Execution scheduler}
    {id target : ActivityId} {time : Timestamp} {error : Error}
    (stepped : Scheduler.step execution
      (.sendToActivity id (.shutdown target time) (.error error)) = some next) :
    Scheduler.step execution (.sendToActivity id (.shutdown target time) (.ok ())) =
      some next := by
  obtain ⟨states, point, cycle, reason⟩ := execution
  cases point with
  | shutdown activity remaining pending => exact stepped
  | _ => cases stepped

theorem step_of_broadcastError {scheduler : Scheduler}
    {execution next : Scheduler.Execution scheduler} {time : Timestamp} {error : Error}
    (stepped : Scheduler.step execution
      (.broadcastTerminate (.terminate time) (.error error)) = some next) :
    Scheduler.step execution (.broadcastTerminate (.terminate time) (.ok ())) = some next := by
  obtain ⟨states, point, cycle, reason⟩ := execution
  cases point with
  | broadcastTerminate unconfirmed => exact stepped
  | _ => cases stepped

/-- The main thread ends its synchronization or its broadcast with a failed send. -/
theorem mainError_visible {network next : Network setup} {error : Error} {part : Bool}
    (stepped : network.mainError error part = some next) :
    Visible network (.nextError error part) next := by
  unfold mainError at stepped
  split at stepped
  · next main =>
      cases stepped
      exact hidden_of_main rfl (by rw [main]; rfl) rfl rfl (.of_eq rfl rfl)
  · next time agent rest main =>
      obtain ⟨execution, moved, rfl⟩ := Option.map_eq_some_iff.mp stepped
      refine .hidden rfl ?_ ⟨fun _ => rfl, rfl, rfl, rfl, rfl⟩
      unfold settled
      rw [main]
      dsimp only
      rw [step_of_broadcastError moved]
      rfl
  · cases stepped

/-- The main thread moves no signal that the scheduler calls for. -/
theorem mainNext_visible {network next : Network setup} (stepped : network.mainNext = some next) :
    Visible network .next next := by
  unfold mainNext at stepped
  split at stepped
  · next main =>
      cases stepped
      exact hidden_of_main rfl (by rw [main]; rfl) rfl rfl (.of_eq rfl rfl)
  · next main =>
      cases stepped
      exact hidden_of_main rfl (by rw [main]; rfl) rfl rfl (.of_eq rfl rfl)
  · next main =>
      cases stepped
      exact hidden_of_main rfl (by rw [main]; rfl) rfl rfl (.of_eq rfl rfl)
  · next main =>
      cases stepped
      exact hidden_of_main rfl (by rw [main]; rfl) rfl rfl (.of_eq rfl rfl)
  · next main =>
      cases stepped
      exact hidden_of_main rfl (by rw [main]; rfl) rfl rfl (.of_eq rfl rfl)
  · next main =>
      cases stepped
      refine .hidden rfl ?_ (.of_eq rfl rfl)
      unfold settled
      rw [main]
      rfl
  · next main =>
      obtain ⟨execution, moved, rfl⟩ := Option.map_eq_some_iff.mp stepped
      refine .hidden rfl ?_ (.of_eq rfl rfl)
      unfold settled
      rw [main]
      dsimp only
      rw [moved]
      rfl
  · cases stepped

/-- The other calls of the main thread end before the scheduler runs. -/
theorem mainStep_visible {network next : Network setup} {event : Event}
    (stepped : network.mainStep event = some next) : Visible network event next := by
  cases event with
  | next => exact mainNext_visible stepped
  | nextError error part => exact mainError_visible stepped
  | acceptReceiver agent =>
      cases mainStep_move stepped with
      | acceptedReceiver main =>
          exact hidden_of_main rfl (by rw [main]; rfl) rfl rfl (.of_eq rfl rfl)
  | acceptSender =>
      cases mainStep_move stepped with
      | acceptedSender main =>
          exact hidden_of_main rfl (by rw [main]; rfl) rfl rfl (.of_eq rfl rfl)
  | start info =>
      cases mainStep_move stepped with
      | started main => exact hidden_of_main rfl (by rw [main]; rfl) rfl rfl (.of_eq rfl rfl)
  | _ => cases stepped

theorem step_broadcastTerminate {scheduler : Scheduler}
    {execution : Scheduler.Execution scheduler} {unconfirmed : List ActivityId}
    (point : execution.point = .broadcastTerminate unconfirmed) (time : Timestamp) :
    ∃ next, Scheduler.step execution (.broadcastTerminate (.terminate time) (.ok ())) =
      some next := by
  obtain ⟨states, place, cycle, reason⟩ := execution
  cases point
  exact ⟨_, rfl⟩

/-- The connector performs the calls of the running scheduler. -/
theorem schedulerStep_visible {network next : Network setup} {event : Event}
    (main : network.main = .run) (sustained : network.Sustained event)
    (stepped : network.schedulerStep event = some next) : Visible network event next := by
  have quiet : network.main.broadcasts = false := by
    rw [main]
    rfl
  have before : network.settled = network.execution := settled_of_main quiet
  have goes {event : Scheduler.Event} {execution : Scheduler.Execution setup.scheduler}
      {other : Network setup} (same : other.main = network.main)
      (reaches : other.execution = execution)
      (moved : Scheduler.step network.execution event = some execution) :
      Scheduler.step network.settled event = some other.settled := by
    rw [before, settled_of_main (by rw [same]; exact quiet), reaches]
    exact moved
  cases event with
  | scheduler event =>
      simp only [schedulerStep] at stepped
      split at stepped
      · next internal =>
          obtain ⟨execution, moved, rfl⟩ := Option.map_eq_some_iff.mp stepped
          have isLocal : event.isLocal = true := by
            cases event with
            | sendToActivity id signal result => cases internal
            | broadcastTerminate signal result => cases internal
            | receive result =>
                cases result with
                | error error => rfl
                | ok signal =>
                    cases signal with
                    | none => rfl
                    | some signal => cases internal
            | _ => rfl
          refine .scheduled rfl isLocal ?_ (.of_eq rfl rfl)
          exact goes rfl rfl moved
      · cases stepped
  | send id signal =>
      simp only [schedulerStep] at stepped
      split at stepped
      · next destination route =>
          obtain ⟨execution, moved, rfl⟩ := Option.map_eq_some_iff.mp stepped
          obtain ⟨worker, found, -⟩ := Setup.sendToActivity_ok route
          refine .sent rfl (target?_of_send moved) ⟨worker, found⟩ ?_
            ⟨fun _ => rfl, rfl, rfl, rfl, rfl⟩
          exact goes rfl rfl moved
      · next error route =>
          obtain ⟨execution, moved, rfl⟩ := Option.map_eq_some_iff.mp stepped
          refine .refused (target?_of_send moved) route ?_ ⟨fun _ => rfl, rfl, rfl, rfl, rfl⟩
          exact goes rfl rfl moved
  | sendError id signal error part =>
      simp only [schedulerStep] at stepped
      split at stepped
      · next agent route =>
          obtain ⟨execution, moved, rfl⟩ := Option.map_eq_some_iff.mp stepped
          obtain ⟨worker, found, -⟩ := Setup.sendToActivity_ok route
          cases signal with
          | shutdown target time =>
              refine .sent rfl (target?_of_send moved) ⟨worker, found⟩ ?_
                ⟨fun _ => rfl, rfl, rfl, rfl, rfl⟩
              exact goes rfl rfl (step_of_error moved)
          | _ => exact sustained.elim
      · cases stepped
  | receive =>
      simp only [schedulerStep] at stepped
      split at stepped
      · cases stepped
      · next origin signal rest head =>
          obtain ⟨execution, moved, rfl⟩ := Option.map_eq_some_iff.mp stepped
          refine .received (by rw [head]; exact List.mem_cons_self) ?_
            ⟨fun _ => rfl, rfl, rfl, rfl, rfl⟩
          exact goes rfl rfl moved
  | broadcast time =>
      simp only [schedulerStep] at stepped
      split at stepped
      · next point =>
          cases stepped
          refine .broadcast ?_ ⟨fun _ => rfl, rfl, rfl, rfl, rfl⟩
          obtain ⟨next, moved⟩ := step_broadcastTerminate point time
          rw [before]
          unfold settled
          dsimp only
          rw [show (network.call (.terminate time)).execution = network.execution from rfl, moved]
          rfl
      · cases stepped
  | _ => cases stepped

/-- A worker performs one of its calls. -/
theorem workerStep_visible {network next : Network setup} {worker : WorkerId}
    {event : Worker.Event} {point moved : Worker.Point} (hosted : setup.hosts worker = true)
    (thread : network.threads worker = .running point)
    (worked : (setup.workers worker).step point event = some moved)
    (stepped : network.workerStep worker event moved = some next) :
    Visible network (.worker worker event) next := by
  have before : threadPoint (network.threads worker) = point := by
    rw [thread]
    rfl
  have points (other : WorkerId) :
      threadPoint (Function.update network.threads worker (.running moved) other) =
        if other = worker then moved else threadPoint (network.threads other) := by
    rw [Function.update_apply]
    split <;> rfl
  have grown (lists : WorkerId → List Signal) (signal : Signal) (other : WorkerId) :
      Function.update lists worker (lists worker ++ [signal]) other =
        lists other ++ if other = worker then [signal] else [] := by
    rw [Function.update_apply]
    split
    · next same => rw [same]
    · exact (List.append_nil _).symm
  have same (lists : WorkerId → List Signal) (other : WorkerId) :
      lists other = lists other ++ if other = worker then [] else [] := by
    rw [ite_self, List.append_nil]
  unfold workerStep at stepped
  dsimp only at stepped
  split at stepped
  · next signal sent rest head =>
      split at stepped
      · cases stepped
        exact .worked hosted (before ▸ worked) ⟨rfl, points, rfl, grown _ signal, same _, rfl⟩
      · cases stepped
  · cases stepped
  · next _ signal value =>
      cases stepped
      exact .worked hosted (before ▸ worked) ⟨rfl, points, rfl, same _, grown _ signal, rfl⟩
  · next unreceived unsent _ =>
      cases stepped
      refine .worked hosted (before ▸ worked) ⟨rfl, points, rfl, ?_, ?_, rfl⟩
      · rw [Worker.Event.taken_eq_nil unreceived]
        exact same _
      · rw [Worker.Event.given_eq_nil unsent]
        exact same _

/-- Each step is hidden, or it is a call of the scheduler or of a worker. -/
theorem step_visible {network next : Network setup} {event : Event}
    (sustained : network.Sustained event) (stepped : network.step event = some next) :
    Visible network event next := by
  have move := step_move stepped
  cases event with
  | worker id event =>
      simp only [step] at stepped
      split at stepped
      · next point hosted thread =>
          obtain ⟨moved, worked, rest⟩ := Option.bind_eq_some_iff.mp stepped
          exact workerStep_visible hosted thread worked rest
      · cases stepped
  | primaryTake agent | primaryNext | primaryExpired | misread agent signal
  | secondaryReceive agent | secondaryTake agent | secondaryNext agent | secondaryError agent =>
      cases move <;> exact hidden_of_relay rfl rfl rfl (.of_eq rfl rfl)
  | connect worker =>
      cases move with
      | workerDropped => exact hidden_of_relay rfl rfl rfl (.of_eq rfl rfl)
      | workerGreeted hosted thread | workerConnected hosted thread =>
          refine hidden_of_relay rfl rfl rfl ⟨fun other => ?_, rfl, rfl, rfl, rfl⟩
          change threadPoint (Function.update network.threads worker _ other) = _
          by_cases same : other = worker
          · subst same
            rw [Function.update_self, thread]
            rfl
          · rw [Function.update_of_ne same]
  | _ =>
      simp only [step] at stepped
      split at stepped
      · next main => exact schedulerStep_visible main sustained stepped
      · exact mainStep_visible stepped

end Network

end Relayed

end Feo
