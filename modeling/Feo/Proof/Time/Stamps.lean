import Feo.Construction.Agents
import Feo.Foundation.Split
import Feo.Proof.System.Move

namespace Feo

open Foundation

/-- A successful initialization leaves the startup time set. -/
theorem initializeStartupTime_set {startup result : StartupTime} {tries : Nat → ClockTry}
    (initialized : initializeStartupTime startup tries = .ok result) : result ≠ none := by
  cases startup with
  | some info =>
      cases initialized
      exact Option.some_ne_none info
  | none =>
      cases found : timeInfoNow tries with
      | error message =>
          rw [initializeStartupTime, found] at initialized
          cases initialized
      | ok info =>
          rw [initializeStartupTime, found] at initialized
          cases initialized
          exact Option.some_ne_none info

theorem initializeFrom_set {earliest : Int} {startup result : StartupTime} {info : SyncInfo}
    {tries : Nat → ClockTry}
    (initialized : initializeFrom earliest startup info tries = .ok result) : result ≠ none := by
  unfold initializeFrom at initialized
  split at initialized
  · next info =>
      cases initialized
      exact Option.some_ne_none info
  · split at initialized
    · cases initialized
    · next now _ =>
        cases started : startupFrom earliest info now with
        | error message =>
            rw [started] at initialized
            cases initialized
        | ok time =>
            rw [started] at initialized
            cases initialized
            exact Option.some_ne_none time

namespace Downlink

/-- A worker stamps its answer to a signal that addresses an activity. -/
def targeted : Downlink → Bool
  | .core signal => signal.target?.isSome
  | _ => false

theorem not_targeted {signal : Downlink} (greeting : ∀ core, signal ≠ .core core) :
    ¬ signal.targeted = true := by
  cases signal with
  | core core => exact (greeting core rfl).elim
  | _ => exact nofun

/-- Each such signal in a queue is behind the startup time. -/
def Guarded (queue : List Downlink) : Prop :=
  AtEach (fun front signal => signal.targeted = true →
    ∃ info, .core (.startupSync info) ∈ front) queue

theorem guarded_nil : Guarded [] := atEach_nil _

/-- A send keeps the guard if it carries no such signal or follows the startup time. -/
theorem Guarded.concat {queue : List Downlink} (guarded : Guarded queue) {last : Downlink}
    (behind : last.targeted = true → ∃ info, .core (.startupSync info) ∈ queue) :
    Guarded (queue ++ [last]) :=
  (atEach_concat _ _ _).mpr ⟨guarded, behind⟩

theorem Guarded.tail {first : Downlink} {rest : List Downlink} (guarded : Guarded (first :: rest))
    (other : ∀ info, first ≠ .core (.startupSync info)) : Guarded rest := by
  intro front signal back split targeted
  obtain ⟨info, member⟩ := guarded (first :: front) signal back (by rw [split]; rfl) targeted
  exact ⟨info, (List.mem_cons.mp member).resolve_left (Ne.symm (other info))⟩

theorem Guarded.head {first : Downlink} {rest : List Downlink} (guarded : Guarded (first :: rest)) :
    first.targeted = false := by
  rw [Bool.eq_false_iff]
  intro targeted
  obtain ⟨info, member⟩ := guarded [] first rest rfl targeted
  cases member

end Downlink

/-- The primary has initialized its time and has not failed. -/
def MainThread.Started : MainThread → Prop
  | .syncTime _ _ => True
  | .run => True
  | _ => False

namespace Agents

variable {setup : DirectSetup}

/-- Each event changes the threads and the queues in one of these ways. -/
inductive Move (agents : Agents setup) : Agents setup → Prop where
  | greeted {token : Token} {id : ActivityId} {main : MainThread} (after : ¬ main.Started) :
      Move agents
        { agents with
          main := main
          activityIdTokenMap := agents.activityIdTokenMap.insert id token }
  | advanced {main : MainThread} (after : ¬ main.Started) :
      Move agents { agents with main := main }
  | answered {worker : WorkerId} {signal : Downlink} {main : MainThread}
      (greeting : ∀ core, signal ≠ .core core) (after : ¬ main.Started) :
      Move agents { agents.push worker signal with main := main }
  | initialized {startup : StartupTime} {main : MainThread} (set : startup ≠ none)
      (after : main = .run ∧ agents.syncTargets = [] ∨
        (∃ info, main = .syncTime info agents.syncTargets) ∨ main = .failed) :
      Move agents
        { agents with
          startupTime := Function.update agents.startupTime setup.scheduler.agentId startup
          main := main }
  | synchronized {info : SyncInfo} {worker : WorkerId} {rest : List WorkerId}
      (main : agents.main = .syncTime info (worker :: rest)) :
      Move agents
        { agents.push worker (.core (.startupSync info)) with main := .syncTime info rest }
  | ran {info : SyncInfo} (main : agents.main = .syncTime info []) :
      Move agents { agents with main := .run }
  | scheduled {execution : Scheduler.Execution setup.scheduler} :
      Move agents { agents with execution := execution }
  | sent {id : ActivityId} {result : Except Error Unit} {worker : WorkerId} {signal : Signal}
      {execution : Scheduler.Execution setup.scheduler} (main : agents.main = .run)
      (route : agents.sendToActivity id result = .ok (.ok worker)) :
      Move agents { agents.push worker (.core signal) with execution := execution }
  | broadcast {time : Timestamp} {reached : List WorkerId}
      {execution : Scheduler.Execution setup.scheduler} (main : agents.main = .run) :
      Move agents
        { agents with
          execution := execution
          toWorker := fun worker =>
            if worker ∈ reached then agents.toWorker worker ++ [.core (.terminate time)]
            else agents.toWorker worker }
  | connected {worker : WorkerId} {first : Downlink} {rest : List Downlink}
      {thread : WorkerThread} (before : agents.threads worker = .connectSender)
      (head : agents.toWorker worker = first :: rest)
      (after : thread = .connectSender ∨ thread = .running .receive) :
      Move agents (agents.proceed worker thread rest)
  | acquired {worker : WorkerId} {remaining : List ActivityId} {rest : List Downlink}
      (alive : agents.threads worker ≠ .ended)
      (head : agents.toWorker worker = .activityHelloAcquired :: rest) :
      Move agents (agents.proceed worker (.hello remaining) rest)
  | ended {worker : WorkerId} {rest : List Downlink}
      (fewer : ∀ signal ∈ rest, signal ∈ agents.toWorker worker) :
      Move agents (agents.proceed worker .ended rest)
  | synced {worker : WorkerId} {info : SyncInfo} {startup : StartupTime} {rest : List Downlink}
      (head : agents.toWorker worker = .core (.startupSync info) :: rest)
      (set : startup ≠ none) :
      Move agents
        { agents.proceed worker
            (.running ((setup.workers worker).handleSignal (.startupSync info))) rest with
          startupTime := Function.update agents.startupTime (setup.process worker) startup }
  | received {worker : WorkerId} {signal : Signal} {rest : List Downlink}
      (running : agents.threads worker = .running .receive)
      (head : agents.toWorker worker = .core signal :: rest)
      (other : ∀ info, signal ≠ .startupSync info) :
      Move agents
        (agents.proceed worker (.running ((setup.workers worker).handleSignal signal)) rest)
  | refused {worker : WorkerId} {first : Downlink} {rest : List Downlink} {error : Error}
      (alive : agents.threads worker ≠ .ended)
      (head : agents.toWorker worker = first :: rest) (other : ∀ core, first ≠ .core core) :
      Move agents (agents.proceed worker (.running (.exited (.error error))) rest)
  | worked {worker : WorkerId} {point : Worker.Point} (quiet : ∀ signal, point ≠ .call signal)
      (alive : agents.threads worker ≠ .ended) :
      Move agents (agents.proceed worker (.running point) (agents.toWorker worker))

theorem helloStep_move {agents next : Agents setup} {token : Token} {id : ActivityId}
    (stepped : agents.helloStep token id = some next) : Move agents next := by
  unfold helloStep at stepped
  split at stepped
  · cases stepped
    exact .greeted not_false
  · split at stepped
    · cases stepped
      exact .answered (fun _ => nofun) not_false
    · cases stepped
      exact .advanced not_false
  · cases stepped

theorem initializeStep_move (agents : Agents setup) (clock : ClockReadings) :
    Move agents (agents.initializeStep clock) := by
  unfold initializeStep
  split
  · exact .advanced not_false
  · next startup initialized =>
      refine .initialized (initializeStartupTime_set initialized) ?_
      split
      · next mode =>
          refine .inl ⟨rfl, ?_⟩
          rw [syncTargets, mode]
      · next info _ _ => exact .inr (.inl ⟨info, rfl⟩)
      · exact .inr (.inr rfl)

theorem mainNext_move {agents next : Agents setup} {clock : ClockReadings}
    (stepped : agents.mainNext clock = some next) : Move agents next := by
  unfold mainNext at stepped
  split at stepped
  · cases stepped
    exact .advanced not_false
  · cases stepped
    exact .advanced not_false
  · cases stepped
    exact .answered (fun _ => nofun) not_false
  · cases stepped
    exact .advanced not_false
  · cases stepped
    exact initializeStep_move agents clock
  · next main =>
      cases stepped
      exact .synchronized main
  · next main =>
      cases stepped
      exact .ran main
  · cases stepped

theorem failStep_move {agents next : Agents setup} (stepped : agents.failStep = some next) :
    Move agents next := by
  unfold failStep at stepped
  split at stepped <;> cases stepped <;> exact .advanced not_false

theorem sendStep_move {agents next : Agents setup} {clock : ClockReadings}
    {result : Except Error Unit} (main : agents.main = .run)
    (stepped : agents.sendStep clock result = some next) : Move agents next := by
  unfold sendStep at stepped
  split at stepped
  · cases stepped
  · split at stepped
    · cases stepped
      exact .advanced not_false
    · split at stepped
      · cases stepped
        exact .advanced not_false
      · obtain ⟨execution, _, rfl⟩ := Option.map_eq_some_iff.mp stepped
        exact .scheduled
      · next route =>
          obtain ⟨execution, _, rfl⟩ := Option.map_eq_some_iff.mp stepped
          exact .sent main route

theorem broadcastStep_move {agents next : Agents setup} {clock again : ClockReadings}
    {result : Except Error Unit} {reached : List WorkerId} (main : agents.main = .run)
    (stepped : agents.broadcastStep clock again result reached = some next) :
    Move agents next := by
  unfold broadcastStep at stepped
  split at stepped
  · split at stepped
    · cases stepped
      exact .advanced not_false
    · obtain ⟨execution, _, rfl⟩ := Option.map_eq_some_iff.mp stepped
      exact .broadcast main
  · cases stepped

theorem runStep_move {agents next : Agents setup} {event : Event} (main : agents.main = .run)
    (stepped : agents.runStep event = some next) : Move agents next := by
  unfold runStep at stepped
  split at stepped
  · exact sendStep_move main stepped
  · exact broadcastStep_move main stepped
  · cases stepped
  · cases stepped
  · obtain ⟨execution, _, rfl⟩ := Option.map_eq_some_iff.mp stepped
    exact .scheduled
  · cases stepped

theorem connectStep_move {agents next : Agents setup} {worker : WorkerId}
    (stepped : agents.connectStep worker = some next) : Move agents next := by
  unfold connectStep at stepped
  split at stepped
  · next before head =>
      cases stepped
      exact .connected before head (.inr rfl)
  · next before head =>
      cases stepped
      exact .connected before head (.inl rfl)
  · next before head =>
      cases stepped
      exact .acquired (by rw [before]; nofun) head
  · next head =>
      cases stepped
      exact .ended fun _ member => by rw [head]; exact List.mem_cons_of_mem _ member
  · next queue before =>
      cases stepped
      exact .worked (fun _ => nofun) (by rw [before]; nofun)
  · cases stepped

theorem receiveStep_move {agents next : Agents setup} {worker : WorkerId}
    {clock : ClockReadings} (stepped : agents.receiveStep worker clock = some next) :
    Move agents next := by
  unfold receiveStep at stepped
  split at stepped
  · next head =>
      split at stepped
      · cases stepped
        exact .ended fun _ member => by rw [head]; exact List.mem_cons_of_mem _ member
      · next initialized =>
          cases stepped
          exact .synced head (initializeFrom_set initialized)
  · next signal rest other running head =>
      cases stepped
      refine .received running head ?_
      rintro info rfl
      exact other info rfl
  · next first rest _ other running head =>
      cases stepped
      exact .refused (by rw [running]; nofun) head other
  · cases stepped

theorem returnStep_move {agents next : Agents setup} {worker : WorkerId}
    {clock : ClockReadings} {result : Except ActivityError Unit}
    (stepped : agents.returnStep worker clock result = some next) : Move agents next := by
  unfold returnStep at stepped
  dsimp only at stepped
  have resumed {signal : Signal} {event : Worker.Event}
      (running : agents.threads worker = .running (.call signal))
      (unreceived : ∀ received, event ≠ .receive (.ok (some received)))
      (worked : ((setup.workers worker).step (.call signal) event).map (fun point =>
        agents.proceed worker (.running point) (agents.toWorker worker)) = some next) :
      Move agents next := by
    obtain ⟨point, called, rfl⟩ := Option.map_eq_some_iff.mp worked
    refine .worked ?_ (by rw [running]; nofun)
    rintro signal rfl
    exact Worker.step_call unreceived called
  split at stepped
  · next running =>
      split at stepped
      · cases stepped
        exact .ended fun _ member => member
      · exact resumed running (by intro received same; cases same) stepped
  · next running => exact resumed running (by intro received same; cases same) stepped
  · cases stepped

theorem workerStep_move {agents next : Agents setup} {worker : WorkerId} {event : Worker.Event}
    (stepped : agents.workerStep worker event = some next) : Move agents next := by
  unfold workerStep at stepped
  split at stepped
  · cases stepped
  · cases stepped
  · next running unreceived _ =>
      obtain ⟨moved, worked, rfl⟩ := Option.map_eq_some_iff.mp stepped
      refine .worked ?_ (by rw [running]; nofun)
      rintro called rfl
      exact Worker.step_call (fun received => unreceived received) worked
  · cases stepped

/-- Each step is one of the moves. -/
theorem step_move {agents next : Agents setup} {event : Event}
    (stepped : agents.step event = some next) : Move agents next := by
  unfold step at stepped
  split at stepped
  · exact helloStep_move stepped
  · split at stepped
    · cases stepped
      exact .advanced not_false
    · cases stepped
  · exact mainNext_move stepped
  · exact failStep_move stepped
  · exact connectStep_move stepped
  · exact receiveStep_move stepped
  · exact returnStep_move stepped
  · exact workerStep_move stepped
  · split at stepped
    · next main => exact runStep_move main stepped
    · cases stepped

end Agents

end Feo
