import Feo.Construction.Signals
import Feo.Foundation.HashMap
import Feo.Foundation.Machine

namespace Feo

open Foundation

/-- Current state of an activity. -/
structure ActivityState where
  triggered : Bool
  ready : Bool
  everReady : Bool
deriving DecidableEq

/-- The scheduler fields that stay as `Scheduler::new` stores them. -/
structure Scheduler where
  agentId : AgentId
  cycleTime : Duration
  receiveTimeout : Duration
  startupTimeout : Duration
  activityDepends : HashMap ActivityId (List ActivityId)

namespace Scheduler

/-- The state map has the keys of the dependency map throughout a run. -/
abbrev States (scheduler : Scheduler) :=
  {states : HashMap ActivityId ActivityState // states.keys = scheduler.activityDepends.keys}

/-- The constructor pre-allocates the state map. -/
def newStates (scheduler : Scheduler) : States scheduler :=
  ⟨scheduler.activityDepends.mapValues fun _ => ⟨false, false, false⟩, rfl⟩

/-- The scheduler panics at one of these expressions. -/
inductive Panic where
  | startupSend (error : Error)
  | stepSend (error : Error)
  | unknownActivity (id : ActivityId)
  | arithmetic (message : String)
deriving DecidableEq

/-- Each point of a run names the next call into the connector, the clock, or the flag. -/
inductive Point where
  | startup (activity : ActivityId) (remaining : List ActivityId)
  | startupElapsed
  | startupReceive
  | step (activity : ActivityId) (remaining : List ActivityId)
  | stepReceive
  | chainElapsed
  | sleep (timeLeft : Duration)
  | shutdownRequested
  | shutdown (activity : ActivityId) (remaining : List ActivityId) (pending : List ActivityId)
  | shutdownElapsed (pending : List ActivityId) (timeout : Duration)
  | shutdownReceive (pending : List ActivityId) (timeout : Duration)
  | broadcastTerminate (unconfirmed : List ActivityId)
  | connectedAgents
  | ackElapsed (pending : List AgentId) (timeout : Duration)
  | ackReceive (pending : List AgentId) (timeout : Duration)
  | finished
  | panicked (panic : Panic)
deriving DecidableEq

/-- An event is one call with the answer of the connector, the clock, or the flag. -/
inductive Event where
  | sendToActivity (id : ActivityId) (signal : Signal) (result : Except Error Unit)
  | receive (result : Except Error (Option Signal))
  | elapsed (duration : Duration)
  | sleep (duration : Duration)
  | shutdownRequested (flag : Bool)
  | broadcastTerminate (signal : Signal) (result : Except Error Unit)
  | connectedAgents (ids : List AgentId)
deriving DecidableEq

/-- The counter numbers the task chains, and the reason is the argument of `shutdown_gracefully`. -/
structure Execution (scheduler : Scheduler) where
  states : States scheduler
  point : Point
  cycle : Nat
  reason : Option String

variable {scheduler : Scheduler}

/-- Check if all activities have signalled ready. -/
def allReady (states : States scheduler) : Bool := states.val.values.all fun state => state.ready

/-- Each task chain clears the ready and triggered flags. -/
def clearFlags (states : States scheduler) : States scheduler :=
  ⟨states.val.mapValues fun state => { state with ready := false, triggered := false },
    states.property⟩

def markTriggered (states : States scheduler) (id : ActivityId) : States scheduler :=
  ⟨states.val.modify id fun state => { state with triggered := true }, states.property⟩

def markReady (states : States scheduler) (id : ActivityId) : States scheduler :=
  ⟨states.val.modify id fun state => { state with ready := true, everReady := true },
    states.property⟩

/-- The dependencies outside the state map do not count. -/
def dependenciesReady (states : States scheduler) (dependencies : List ActivityId) : Bool :=
  (states.val.iter.filter fun entry => dependencies.contains entry.1).all fun entry =>
    entry.2.ready

/-- The remaining iteration of `step_ready_activities` stops at the next activity to step. -/
def stepReadyActivities (states : States scheduler) (cycle : Nat) :
    List ActivityId → Execution scheduler
  | [] => ⟨states, .stepReceive, cycle, none⟩
  | activity :: remaining =>
      if (states.val.value activity).triggered then
        stepReadyActivities states cycle remaining
      else if dependenciesReady states (scheduler.activityDepends.value activity) then
        ⟨states, .step activity remaining, cycle, none⟩
      else
        stepReadyActivities states cycle remaining

/-- The inner loop runs while some activity is not ready. -/
def chainLoop (states : States scheduler) (cycle : Nat) : Execution scheduler :=
  if allReady states then ⟨states, .chainElapsed, cycle, none⟩
  else stepReadyActivities states cycle scheduler.activityDepends.keys

/-- The outer loop begins one task chain. -/
def taskChain (states : States scheduler) (cycle : Nat) : Execution scheduler :=
  chainLoop (clearFlags states) (cycle + 1)

/-- The startup wait runs while some activity is not ready. -/
def startupLoop (states : States scheduler) : Execution scheduler :=
  if allReady states then taskChain states 0 else ⟨states, .startupElapsed, 0, none⟩

/-- The startup signals go to the activities in the given order. -/
def startupActivities (states : States scheduler) : List ActivityId → Execution scheduler
  | [] => startupLoop states
  | activity :: remaining => ⟨states, .startup activity remaining, 0, none⟩

/-- Run the task lifecycle. -/
def run (scheduler : Scheduler) : Execution scheduler :=
  startupActivities scheduler.newStates (sortIds scheduler.newStates.val.keys)

/-- Both acknowledgement timeouts multiply the receive timeout by a checked `u32`. -/
def ackTimeout (scheduler : Scheduler) (pending reserve : Nat) : Panicking Duration :=
  let factor := (UInt32.ofNat pending).toNat + reserve
  if factor < 2 ^ 32 then scheduler.receiveTimeout.mul (UInt32.ofNat factor)
  else .error "attempt to add with overflow"

/-- The agents are terminated after the activities. -/
def terminateAllAgents (states : States scheduler) (cycle : Nat) (reason : Option String)
    (unconfirmed : List ActivityId) : Execution scheduler :=
  ⟨states, .broadcastTerminate unconfirmed, cycle, reason⟩

/-- The confirmation loop runs while some activity is pending. -/
def shutdownLoop (states : States scheduler) (cycle : Nat) (reason : Option String)
    (timeout : Duration) : List ActivityId → Execution scheduler
  | [] => terminateAllAgents states cycle reason []
  | activity :: rest => ⟨states, .shutdownElapsed (activity :: rest) timeout, cycle, reason⟩

/-- The shutdown signals precede the confirmation loop. -/
def shutdownActivities (states : States scheduler) (cycle : Nat) (reason : Option String)
    (pending : List ActivityId) : List ActivityId → Execution scheduler
  | [] =>
      match scheduler.ackTimeout pending.length 2 with
      | .ok timeout => shutdownLoop states cycle reason timeout pending
      | .error message => ⟨states, .panicked (.arithmetic message), cycle, reason⟩
  | activity :: remaining => ⟨states, .shutdown activity remaining pending, cycle, reason⟩

/-- An activity that has ever been ready counts as started. -/
def startedActivities (states : States scheduler) : List ActivityId :=
  sortIds (states.val.keys.filter fun id => (states.val.value id).everReady)

/-- Only the started activities are shut down. -/
def shutdownGracefully (states : States scheduler) (cycle : Nat) (reason : String) :
    Execution scheduler :=
  match startedActivities states with
  | [] => terminateAllAgents states cycle (some reason) []
  | activity :: rest =>
      shutdownActivities states cycle (some reason) (activity :: rest) (activity :: rest)

/-- One received result ends or continues the loop of `wait_next_ready`. -/
inductive Waited where
  | again
  | ready (id : ActivityId)
  | failed (error : Error)
deriving DecidableEq

def waitNextReady (scheduler : Scheduler) : Except Error (Option Signal) → Waited
  | .error error => .failed error
  | .ok none => .failed (.timeout (some scheduler.receiveTimeout) "waiting for ready signal")
  | .ok (some (.ready id _)) => .ready id
  | .ok (some (.activityFailed id error)) => .failed (.activityFailed id error)
  | .ok (some _) => .again

/-- The wait loop continues, fails, or sets the ready flag of a known activity. -/
def received (execution : Execution scheduler) (failure : String)
    (next : States scheduler → Execution scheduler) (result : Except Error (Option Signal)) :
    Execution scheduler :=
  match scheduler.waitNextReady result with
  | .again => execution
  | .failed _ => shutdownGracefully execution.states execution.cycle failure
  | .ready id =>
      if id ∈ execution.states.val.keys then next (markReady execution.states id)
      else { execution with point := .panicked (.unknownActivity id) }

/-- One received result may confirm one pending shutdown. -/
def confirmShutdown (pending : List ActivityId) : Except Error (Option Signal) → List ActivityId
  | .ok (some (.ready id _)) => pending.erase id
  | .ok (some (.activityFailed id _)) => pending.erase id
  | _ => pending

/-- One received result may acknowledge one pending termination. -/
def confirmTerminate (pending : List AgentId) : Except Error (Option Signal) → List AgentId
  | .ok (some (.terminateAck id)) => pending.erase id
  | _ => pending

/-- The acknowledgement loop runs while some agent is pending. -/
def ackLoop (states : States scheduler) (cycle : Nat) (reason : Option String)
    (timeout : Duration) : List AgentId → Execution scheduler
  | [] => ⟨states, .finished, cycle, reason⟩
  | agent :: rest => ⟨states, .ackElapsed (agent :: rest) timeout, cycle, reason⟩

/-- The agents to wait for are the connected agents other than the own agent. -/
def pendingAgents (scheduler : Scheduler) (ids : List AgentId) : List AgentId :=
  sortIds ((ids.filter fun id => id ≠ scheduler.agentId).dedup)

def awaitAgents (states : States scheduler) (cycle : Nat) (reason : Option String)
    (pending : List AgentId) : Execution scheduler :=
  match pending with
  | [] => ⟨states, .finished, cycle, reason⟩
  | agent :: rest =>
      match scheduler.ackTimeout (agent :: rest).length 4 with
      | .ok timeout => ackLoop states cycle reason timeout (agent :: rest)
      | .error message => ⟨states, .panicked (.arithmetic message), cycle, reason⟩

/-- A step performs the next call and the code up to the call after it. -/
def step (execution : Execution scheduler) (event : Event) : Option (Execution scheduler) :=
  let ⟨states, point, cycle, reason⟩ := execution
  match point, event with
  | .startup activity remaining, .sendToActivity id (.startup target _) result =>
      if id = activity ∧ target = activity then
        match result with
        | .ok _ => some (startupActivities states remaining)
        | .error error => some { execution with point := .panicked (.startupSend error) }
      else none
  | .startupElapsed, .elapsed duration =>
      if duration.gt scheduler.startupTimeout then
        some (shutdownGracefully states cycle "Startup timeout exceeded.")
      else some { execution with point := .startupReceive }
  | .startupReceive, .receive result =>
      some (received execution "Startup failed due to an activity error." startupLoop result)
  | .step activity remaining, .sendToActivity id (.step target _) result =>
      if id = activity ∧ target = activity then
        match result with
        | .ok _ => some (stepReadyActivities (markTriggered states activity) cycle remaining)
        | .error error => some { execution with point := .panicked (.stepSend error) }
      else none
  | .stepReceive, .receive result =>
      some (received execution "A failure occurred during step execution."
        (fun next => chainLoop next cycle) result)
  | .chainElapsed, .elapsed duration =>
      let timeLeft := scheduler.cycleTime.saturatingSub duration
      if timeLeft.isZero then some { execution with point := .shutdownRequested }
      else some { execution with point := .sleep timeLeft }
  | .sleep timeLeft, .sleep duration =>
      if duration = timeLeft then some { execution with point := .shutdownRequested } else none
  | .shutdownRequested, .shutdownRequested flag =>
      if flag then
        some (shutdownGracefully states cycle "Main loop concluded or external signal received.")
      else some (taskChain states cycle)
  | .shutdown activity remaining pending, .sendToActivity id (.shutdown target _) _ =>
      if id = activity ∧ target = activity then
        some (shutdownActivities states cycle reason pending remaining)
      else none
  | .shutdownElapsed pending timeout, .elapsed duration =>
      if duration.gt timeout then some (terminateAllAgents states cycle reason pending)
      else some { execution with point := .shutdownReceive pending timeout }
  | .shutdownReceive pending timeout, .receive result =>
      some (shutdownLoop states cycle reason timeout (confirmShutdown pending result))
  | .broadcastTerminate _, .broadcastTerminate (.terminate _) _ =>
      some { execution with point := .connectedAgents }
  | .connectedAgents, .connectedAgents ids =>
      some (awaitAgents states cycle reason (scheduler.pendingAgents ids))
  | .ackElapsed pending timeout, .elapsed duration =>
      if duration.gt timeout then some { execution with point := .finished }
      else some { execution with point := .ackReceive pending timeout }
  | .ackReceive pending timeout, .receive result =>
      some (ackLoop states cycle reason timeout (confirmTerminate pending result))
  | _, _ => none

/-- The scheduler machine starts with the call of `run`. -/
def machine (scheduler : Scheduler) : Machine (Execution scheduler) Event where
  step := step

end Scheduler

end Feo
