import Feo.Construction.Mpsc.Bounded
import Feo.Foundation.Split
import Feo.Proof.System.Move

namespace Feo

open Foundation

/-- The scheduler sends `Startup`, `Step` or `Shutdown` to this activity. -/
def Scheduler.Point.sending? : Scheduler.Point → Option ActivityId
  | .startup activity _ => some activity
  | .step activity _ => some activity
  | .shutdown activity _ _ => some activity
  | _ => none

namespace Mpsc

theorem push_eq_some {Item : Type} {channel next : List Item} {item : Item}
    (pushed : push channel item = some next) :
    channel.length < mpscChannelBound ∧ next = channel ++ [item] := by
  unfold push at pushed
  split at pushed
  · next room =>
      cases pushed
      exact ⟨room, rfl⟩
  · cases pushed

/-- A worker owes one answer for each signal in its queue and one while it is busy. -/
def Thread.owed : Thread → List ProtocolSignal → Nat
  | .running point, queue => queue.length + if point.busy then 1 else 0
  | _, queue => queue.length - 1

namespace Bounded

variable {deployment : Deployment}

/-- The scheduler and a worker wait for room in the queue that the other one would empty. -/
def Deadlocked (bounded : Bounded deployment) : Prop :=
  ∃ id response, bounded.execution.point.sending? = some id ∧
    bounded.threads (deployment.route id) = .running (.respond response) ∧
    mpscChannelBound ≤ (bounded.requests (deployment.route id)).length ∧
    mpscChannelBound ≤ bounded.inbox.length

/-- The scheduler sends to a worker while the unanswered signals exceed the channels. -/
def Overloaded (bounded : Bounded deployment) : Prop :=
  ∃ id, bounded.execution.point.sending? = some id ∧
    mpscChannelBound < bounded.unanswered.count (deployment.route id) ∧
    2 * mpscChannelBound < bounded.unanswered.length

def owed (bounded : Bounded deployment) (worker : WorkerId) : Nat :=
  (bounded.threads worker).owed (bounded.requests worker)

/-- The received and the owed answers of a worker belong to its unanswered signals. -/
def CountedAt (bounded : Bounded deployment) (worker : WorkerId) : Prop :=
  (bounded.inbox.map Prod.fst).count worker + bounded.owed worker ≤
    bounded.unanswered.count worker

/-- A step changes the counts of one worker. -/
structure Change (source target : Bounded deployment) (id : WorkerId) : Prop where
  threads : ∀ worker, worker ≠ id → target.threads worker = source.threads worker
  requests : ∀ worker, worker ≠ id → target.requests worker = source.requests worker
  inbox : ∀ worker, worker ≠ id →
    (target.inbox.map Prod.fst).count worker = (source.inbox.map Prod.fst).count worker
  unanswered : ∀ worker, worker ≠ id →
    target.unanswered.count worker = source.unanswered.count worker
  length : target.unanswered.length ≤ source.unanswered.length + 1
  here : source.CountedAt id → target.CountedAt id

theorem Change.countedAt {source target : Bounded deployment} {id : WorkerId}
    (change : Change source target id) (counted : ∀ worker, source.CountedAt worker)
    (worker : WorkerId) : target.CountedAt worker := by
  by_cases same : worker = id
  · rw [same]
    exact change.here (counted id)
  · have before := counted worker
    rw [CountedAt, owed] at before ⊢
    rw [change.inbox worker same, change.unanswered worker same, change.threads worker same,
      change.requests worker same]
    exact before

theorem count_concat_self (workers : List WorkerId) (id : WorkerId) :
    (workers ++ [id]).count id = workers.count id + 1 := by
  rw [List.count_append, List.count_singleton_self]

theorem count_concat_of_ne {workers : List WorkerId} {worker id : WorkerId}
    (differs : worker ≠ id) : (workers ++ [id]).count worker = workers.count worker := by
  rw [List.count_append, List.count_singleton, if_neg (by simpa using differs.symm), Nat.add_zero]

theorem map_concat (inbox : List (WorkerId × ProtocolSignal)) (id : WorkerId)
    (signal : ProtocolSignal) :
    (inbox ++ [(id, signal)]).map Prod.fst = inbox.map Prod.fst ++ [id] := by
  rw [List.map_append, List.map_cons, List.map_nil]

/-- A longer queue makes the worker owe at most one more answer. -/
theorem owed_push (thread : Thread) (queue : List ProtocolSignal) (signal : ProtocolSignal) :
    thread.owed (queue ++ [signal]) ≤ thread.owed queue + 1 := by
  cases thread <;> simp only [Thread.owed, List.length_append, List.length_singleton] <;> omega

/-- The steps of the scheduler alone move no signal. -/
theorem execution_change (bounded : Bounded deployment)
    (execution : Scheduler.Execution deployment.scheduler) (id : WorkerId) :
    Change bounded { bounded with execution := execution } id where
  threads _ _ := rfl
  requests _ _ := rfl
  inbox _ _ := rfl
  unanswered _ _ := rfl
  length := Nat.le_succ _
  here counted := counted

/-- A request and its unanswered entry belong to the same worker. -/
theorem request_change (bounded target : Bounded deployment) (id : WorkerId)
    (signal : ProtocolSignal) (threads : target.threads = bounded.threads)
    (requests : target.requests =
      Function.update bounded.requests id (bounded.requests id ++ [signal]))
    (inbox : target.inbox = bounded.inbox)
    (unanswered : target.unanswered = bounded.unanswered ++ [id]) :
    Change bounded target id where
  threads worker _ := congrFun threads worker
  requests worker differs := by rw [requests, Function.update_of_ne differs]
  inbox worker _ := by rw [inbox]
  unanswered worker differs := by rw [unanswered, count_concat_of_ne differs]
  length := by rw [unanswered, List.length_append, List.length_singleton]
  here counted := by
    have grown := owed_push (bounded.threads id) (bounded.requests id) signal
    simp only [CountedAt, owed] at counted ⊢
    rw [threads, requests, inbox, unanswered, Function.update_self, count_concat_self]
    omega

/-- A worker that takes a signal changes neither the queue nor the account of the scheduler. -/
theorem take_change {bounded target : Bounded deployment} {id : WorkerId}
    (threads : ∀ worker, worker ≠ id → target.threads worker = bounded.threads worker)
    (requests : ∀ worker, worker ≠ id → target.requests worker = bounded.requests worker)
    (inbox : target.inbox = bounded.inbox) (unanswered : target.unanswered = bounded.unanswered)
    (here : bounded.CountedAt id → target.CountedAt id) : Change bounded target id where
  threads := threads
  requests := requests
  inbox worker _ := by rw [inbox]
  unanswered worker _ := by rw [unanswered]
  length := by
    rw [unanswered]
    exact Nat.le_succ _
  here := here

/-- A connecting worker owes the answers to the signals behind the connect signal. -/
theorem connectStep_change {source target : Bounded deployment} {id : WorkerId}
    (stepped : source.connectStep id = some target) : Change source target id := by
  unfold connectStep at stepped
  split at stepped
  · next thread =>
      obtain ⟨inbox, pushed, rfl⟩ := Option.map_eq_some_iff.mp stepped
      obtain ⟨room, rfl⟩ := push_eq_some pushed
      constructor
      · exact fun worker differs => Function.update_of_ne differs _ _
      · exact fun _ _ => rfl
      · intro worker differs
        rw [map_concat, count_concat_of_ne differs]
      · exact fun worker differs => count_concat_of_ne differs
      · rw [List.length_append, List.length_singleton]
      · intro counted
        simp only [CountedAt, owed, thread, Thread.owed] at counted
        simp only [CountedAt, owed, Function.update_self, map_concat, count_concat_self,
          Thread.owed]
        omega
  · next rest thread queue =>
      cases stepped
      apply take_change
      · exact fun worker differs => Function.update_of_ne differs _ _
      · exact fun worker differs => Function.update_of_ne differs _ _
      · rfl
      · rfl
      · intro counted
        simp only [CountedAt, owed, thread, queue, Thread.owed, List.length_cons] at counted
        simp only [CountedAt, owed, Function.update_self, Thread.owed, Worker.Point.busy]
        simpa using counted
  · next rest thread queue =>
      cases stepped
      apply take_change
      · exact fun _ _ => rfl
      · exact fun worker differs => Function.update_of_ne differs _ _
      · rfl
      · rfl
      · intro counted
        simp only [CountedAt, owed, thread, queue, Thread.owed, List.length_cons] at counted
        simp only [CountedAt, owed, Function.update_self, thread, Thread.owed]
        omega
  · cases stepped

/-- A worker owes one answer less after each answer. -/
theorem workerStep_change {source target : Bounded deployment} {id : WorkerId}
    {event : Worker.Event} {point next : Worker.Point}
    (thread : source.threads id = .running point)
    (worked : (deployment.workers id).step point event = some next)
    (stepped : source.workerStep id event next = some target) : Change source target id := by
  unfold workerStep at stepped
  dsimp only at stepped
  split at stepped
  · next signal sent rest queue =>
      split at stepped
      · cases stepped
        obtain ⟨rfl, _⟩ := Worker.step_receive_some worked
        apply take_change
        · exact fun worker differs => Function.update_of_ne differs _ _
        · exact fun worker differs => Function.update_of_ne differs _ _
        · rfl
        · rfl
        · intro counted
          simp only [CountedAt, owed, thread, queue, Thread.owed, List.length_cons] at counted
          simp only [CountedAt, owed, Function.update_self, Thread.owed]
          split <;> omega
      · cases stepped
  · cases stepped
  · next signal value _ =>
      obtain ⟨inbox, pushed, rfl⟩ := Option.map_eq_some_iff.mp stepped
      obtain ⟨room, rfl⟩ := push_eq_some pushed
      obtain ⟨responds, idle⟩ := Worker.step_sendToScheduler worked
      have busy : point.busy = true := by
        rcases responds with rfl | ⟨rfl, _⟩ <;> rfl
      constructor
      · exact fun worker differs => Function.update_of_ne differs _ _
      · exact fun _ _ => rfl
      · intro worker differs
        rw [map_concat, count_concat_of_ne differs]
      · exact fun _ _ => rfl
      · exact Nat.le_succ _
      · intro counted
        simp only [CountedAt, owed, thread, Thread.owed, busy, if_true] at counted
        simp only [CountedAt, owed, Function.update_self, map_concat, count_concat_self,
          Thread.owed, idle, Bool.false_eq_true, if_false]
        omega
  · next unreceived _ _ =>
      cases stepped
      apply take_change
      · exact fun worker differs => Function.update_of_ne differs _ _
      · exact fun _ _ => rfl
      · rfl
      · rfl
      · intro counted
        have busier := Worker.step_busy unreceived worked
        simp only [CountedAt, owed, thread, Thread.owed] at counted
        simp only [CountedAt, owed, Function.update_self, Thread.owed]
        cases after : next.busy with
        | false => simp only [Bool.false_eq_true, if_false]; omega
        | true =>
            rw [busier after] at counted
            exact counted

/-- Each step concerns one worker. -/
theorem step_change {source target : Bounded deployment} {event : Event}
    (stepped : source.step event = some target) : ∃ id, Change source target id := by
  cases event with
  | scheduler event =>
      simp only [step] at stepped
      split at stepped
      · obtain ⟨execution, _, rfl⟩ := Option.map_eq_some_iff.mp stepped
        exact ⟨default, execution_change source execution default⟩
      · cases stepped
  | send id signal =>
      obtain ⟨queue, pushed, moved⟩ := Option.bind_eq_some_iff.mp stepped
      obtain ⟨room, rfl⟩ := push_eq_some pushed
      obtain ⟨execution, _, rfl⟩ := Option.map_eq_some_iff.mp moved
      exact ⟨_, request_change source _ _ _ rfl rfl rfl rfl⟩
  | receive =>
      simp only [step] at stepped
      split at stepped
      · cases stepped
      · next sender signal rest head =>
          obtain ⟨execution, _, rfl⟩ := Option.map_eq_some_iff.mp stepped
          refine ⟨sender, ?_⟩
          constructor
          · exact fun _ _ => rfl
          · exact fun _ _ => rfl
          · intro worker differs
            rw [head, List.map_cons, List.count_cons_of_ne differs.symm]
          · exact fun worker differs => List.count_erase_of_ne differs
          · exact (List.length_erase_le).trans (Nat.le_succ _)
          · intro counted
            simp only [CountedAt, owed, head, List.map_cons, List.count_cons_self] at counted
            simp only [CountedAt, owed, List.count_erase_self]
            omega
  | terminate worker signal =>
      simp only [step] at stepped
      split at stepped
      · split at stepped
        · obtain ⟨queue, pushed, rfl⟩ := Option.map_eq_some_iff.mp stepped
          obtain ⟨room, rfl⟩ := push_eq_some pushed
          exact ⟨worker, request_change source _ _ _ rfl rfl rfl rfl⟩
        · cases stepped
      · cases stepped
  | broadcast signal result =>
      simp only [step] at stepped
      split at stepped
      · cases stepped
      · obtain ⟨execution, _, rfl⟩ := Option.map_eq_some_iff.mp stepped
        exact ⟨default, execution_change source execution default⟩
  | connect worker => exact ⟨worker, connectStep_change stepped⟩
  | worker id event =>
      simp only [step] at stepped
      split at stepped
      · next point thread =>
          obtain ⟨next, worked, moved⟩ := Option.bind_eq_some_iff.mp stepped
          exact ⟨id, workerStep_change thread worked moved⟩
      · cases stepped

theorem initial_countedAt (late : List WorkerId) (worker : WorkerId) :
    (initial deployment late).CountedAt worker := by
  by_cases missing : worker ∈ late <;> simp [CountedAt, owed, initial, missing, Thread.owed]

/-- The unanswered signals bound the answers in every reached state. -/
theorem run_countedAt {late : List WorkerId} {events : List Event} {bounded : Bounded deployment}
    (reached : (machine deployment).run (initial deployment late) events = some bounded)
    (worker : WorkerId) : bounded.CountedAt worker := by
  revert worker
  apply (machine deployment).run_preserves (fun bounded => ∀ worker, bounded.CountedAt worker)
    ?_ (initial_countedAt late) reached
  intro source event target counted stepped
  obtain ⟨id, change⟩ := step_change stepped
  exact change.countedAt counted

/-- Each event adds at most one unanswered signal. -/
theorem run_unanswered {late : List WorkerId} {events : List Event}
    {bounded : Bounded deployment}
    (reached : (machine deployment).run (initial deployment late) events = some bounded) :
    bounded.unanswered.length ≤ events.length := by
  apply (machine deployment).run_induction
    (fun history bounded => bounded.unanswered.length ≤ history.length) (Nat.zero_le _) ?_ reached
  intro history source event target _ shorter stepped
  obtain ⟨id, change⟩ := step_change stepped
  have grown := change.length
  rw [List.length_append, List.length_singleton]
  omega

/-- Two full channels and a busy worker need more unanswered signals than the channels store. -/
theorem overloaded_of_deadlocked {bounded : Bounded deployment}
    (counted : ∀ worker, bounded.CountedAt worker) (deadlocked : bounded.Deadlocked) :
    bounded.Overloaded := by
  obtain ⟨id, response, sending, thread, queue, inbox⟩ := deadlocked
  have owes : mpscChannelBound + 1 ≤ bounded.owed (deployment.route id) := by
    rw [owed, thread]
    simpa [Thread.owed, Worker.Point.busy] using queue
  have here := counted (deployment.route id)
  rw [CountedAt] at here
  have contained : (bounded.inbox.map Prod.fst ++
      List.replicate (mpscChannelBound + 1) (deployment.route id)).Subperm bounded.unanswered := by
    rw [List.subperm_ext_iff]
    intro worker _
    have there := counted worker
    rw [CountedAt] at there
    rw [List.count_append, List.count_replicate]
    split
    · next same =>
        rw [← eq_of_beq same]
        omega
    · omega
  have long := contained.length_le
  rw [List.length_append, List.length_map, List.length_replicate] at long
  exact ⟨id, sending, by omega, by omega⟩

/-- The event leads to no state in which the scheduler overloads a worker. -/
def Eased (deployment : Deployment) (late : List WorkerId) (before : List Event)
    (event : Event) : Prop :=
  ∀ bounded, (machine deployment).run (initial deployment late) (before ++ [event]) =
    some bounded → ¬ bounded.Overloaded

end Bounded

end Mpsc

end Feo
