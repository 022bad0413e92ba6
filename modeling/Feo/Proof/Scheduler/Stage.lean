import Feo.Proof.Scheduler.Transition

namespace Feo.Scheduler

open Foundation

variable {scheduler : Scheduler}

/-- A run goes through these stages. -/
inductive Stage where
  | starting
  | waiting
  | chaining
  | closing
  | confirming
  | terminating
  | acknowledging
  | panicked
deriving DecidableEq

/-- Each point belongs to one stage. -/
def Point.stage : Point → Stage
  | .startup _ _ => .starting
  | .startupElapsed => .waiting
  | .startupReceive => .waiting
  | .step _ _ => .chaining
  | .stepReceive => .chaining
  | .chainElapsed => .chaining
  | .sleep _ => .chaining
  | .shutdownRequested => .chaining
  | .shutdown _ _ _ => .closing
  | .shutdownElapsed _ _ => .confirming
  | .shutdownReceive _ _ => .confirming
  | .broadcastTerminate _ => .terminating
  | .connectedAgents => .acknowledging
  | .ackElapsed _ _ => .acknowledging
  | .ackReceive _ _ => .acknowledging
  | .finished => .acknowledging
  | .panicked _ => .panicked

/-- An active stage precedes the call of `shutdown_gracefully`. -/
def Stage.Active (stage : Stage) : Prop :=
  stage = .starting ∨ stage = .waiting ∨ stage = .chaining

/-- A stopping stage belongs to `shutdown_gracefully` up to the broadcast. -/
def Stage.Stopping (stage : Stage) : Prop :=
  stage = .closing ∨ stage = .confirming ∨ stage = .terminating

/-- The scheduler neither sends to an activity nor broadcasts in the last stages. -/
def Stage.Last (stage : Stage) : Prop := stage = .acknowledging ∨ stage = .panicked

/-- The stages exclude each other. -/
theorem Stage.Active.not_stopping {stage : Stage} (active : stage.Active) : ¬ stage.Stopping := by
  rcases active with rfl | rfl | rfl <;> rintro (wrong | wrong | wrong) <;> cases wrong

theorem Stage.Active.ne_panicked {stage : Stage} (active : stage.Active) : stage ≠ .panicked := by
  rcases active with rfl | rfl | rfl <;> decide

theorem Stage.Active.ne_acknowledging {stage : Stage} (active : stage.Active) :
    stage ≠ .acknowledging := by
  rcases active with rfl | rfl | rfl <;> decide

theorem Stage.Stopping.not_active {stage : Stage} (stopping : stage.Stopping) :
    ¬ stage.Active := fun active => active.not_stopping stopping

theorem Stage.Stopping.ne_chaining {stage : Stage} (stopping : stage.Stopping) :
    stage ≠ .chaining := by
  rcases stopping with rfl | rfl | rfl <;> decide

theorem Stage.Stopping.ne_panicked {stage : Stage} (stopping : stage.Stopping) :
    stage ≠ .panicked := by
  rcases stopping with rfl | rfl | rfl <;> decide

theorem Stage.Stopping.ne_acknowledging {stage : Stage} (stopping : stage.Stopping) :
    stage ≠ .acknowledging := by
  rcases stopping with rfl | rfl | rfl <;> decide

theorem Stage.Stopping.not_last {stage : Stage} (stopping : stage.Stopping) : ¬ stage.Last := by
  rintro (last | last)
  · exact stopping.ne_acknowledging last
  · exact stopping.ne_panicked last

theorem Stage.Active.not_last {stage : Stage} (active : stage.Active) : ¬ stage.Last := by
  rintro (last | last)
  · exact active.ne_acknowledging last
  · exact active.ne_panicked last

/-- The point that waits belongs to an active stage. -/
theorem Point.Waits.active {point : Point} (waits : point.Waits) : point.stage.Active := by
  rcases waits with rfl | rfl
  · exact .inr (.inl rfl)
  · exact .inr (.inr rfl)

/-- The inner loop ends the chain or scans the activities. -/
inductive Chained (states : States scheduler) (cycle : Nat) : Execution scheduler → Prop where
  | complete (all : allReady states = true) :
      Chained states cycle ⟨states, .chainElapsed, cycle, none⟩
  | scanned {next : Execution scheduler} (unready : allReady states = false)
      (scanned : Scanned states cycle scheduler.activityDepends.keys next) :
      Chained states cycle next

theorem chainLoop_chained (states : States scheduler) (cycle : Nat) :
    Chained states cycle (chainLoop states cycle) := by
  cases all : allReady states with
  | true =>
      rw [chainLoop, if_pos all]
      exact .complete all
  | false =>
      rw [chainLoop, if_neg (by rw [all]; decide)]
      exact .scanned all (stepReadyActivities_scanned states cycle _)

/-- The scan and the chain keep the states and the counter, and give no reason. -/
structure Continues (states : States scheduler) (cycle : Nat) (stage : Stage)
    (next : Execution scheduler) : Prop where
  states_eq : next.states = states
  cycle_eq : next.cycle = cycle
  stage_eq : next.point.stage = stage
  reason_eq : next.reason = none

theorem Scanned.continues {states : States scheduler} {cycle : Nat}
    {activities : List ActivityId} {next : Execution scheduler}
    (scanned : Scanned states cycle activities next) : Continues states cycle .chaining next := by
  cases scanned <;> exact ⟨rfl, rfl, rfl, rfl⟩

theorem Chained.continues {states : States scheduler} {cycle : Nat}
    {next : Execution scheduler} (chained : Chained states cycle next) :
    Continues states cycle .chaining next := by
  cases chained with
  | complete => exact ⟨rfl, rfl, rfl, rfl⟩
  | scanned _ scanned => exact scanned.continues

theorem stepReadyActivities_continues (states : States scheduler) (cycle : Nat)
    (activities : List ActivityId) :
    Continues states cycle .chaining (stepReadyActivities states cycle activities) :=
  (stepReadyActivities_scanned states cycle activities).continues

theorem chainLoop_continues (states : States scheduler) (cycle : Nat) :
    Continues states cycle .chaining (chainLoop states cycle) :=
  (chainLoop_chained states cycle).continues

theorem taskChain_continues (states : States scheduler) (cycle : Nat) :
    Continues (clearFlags states) (cycle + 1) .chaining (taskChain states cycle) :=
  chainLoop_continues (clearFlags states) (cycle + 1)

/-- The startup wait begins the first chain when all activities are ready. -/
theorem startupLoop_cases (states : States scheduler) :
    allReady states = true ∧ startupLoop states = taskChain states 0 ∨
      allReady states = false ∧ startupLoop states = ⟨states, .startupElapsed, 0, none⟩ := by
  cases all : allReady states with
  | true => exact .inl ⟨rfl, by rw [startupLoop, if_pos all]⟩
  | false => exact .inr ⟨rfl, by rw [startupLoop, if_neg (by rw [all]; decide)]⟩

/-- The graceful shutdown sends to the started activities unless there is none. -/
theorem shutdownGracefully_cases (states : States scheduler) (cycle : Nat) (reason : String) :
    startedActivities states = [] ∧
        shutdownGracefully states cycle reason =
          ⟨states, .broadcastTerminate [], cycle, some reason⟩ ∨
      ∃ activity rest, startedActivities states = activity :: rest ∧
        shutdownGracefully states cycle reason =
          ⟨states, .shutdown activity rest (activity :: rest), cycle, some reason⟩ := by
  cases started : startedActivities states with
  | nil => exact .inl ⟨rfl, by rw [shutdownGracefully, started]; rfl⟩
  | cons activity rest => exact .inr ⟨activity, rest, rfl, by rw [shutdownGracefully, started]; rfl⟩

/-- The confirmation loop ends when nothing is pending. -/
theorem shutdownLoop_cases (states : States scheduler) (cycle : Nat) (reason : Option String)
    (timeout : Duration) (pending : List ActivityId) :
    pending = [] ∧ shutdownLoop states cycle reason timeout pending =
        ⟨states, .broadcastTerminate [], cycle, reason⟩ ∨
      pending ≠ [] ∧ shutdownLoop states cycle reason timeout pending =
        ⟨states, .shutdownElapsed pending timeout, cycle, reason⟩ := by
  cases pending with
  | nil => exact .inl ⟨rfl, rfl⟩
  | cons activity rest => exact .inr ⟨List.cons_ne_nil _ _, rfl⟩

/-- The product with the receive timeout is a duration, and the sum is a `u32`. -/
def Fits (scheduler : Scheduler) (count reserve : Nat) : Prop :=
  count % 2 ^ 32 + reserve < 2 ^ 32 ∧
    scheduler.receiveTimeout.nanos * (count % 2 ^ 32 + reserve) < 2 ^ 64 * 10 ^ 9

theorem ackTimeout_isOk_iff (scheduler : Scheduler) (count reserve : Nat) :
    (∃ timeout, scheduler.ackTimeout count reserve = .ok timeout) ↔
      scheduler.Fits count reserve := by
  have size : (UInt32.ofNat count).toNat = count % 2 ^ 32 := UInt32.toNat_ofNat'
  by_cases small : count % 2 ^ 32 + reserve < 2 ^ 32
  · have factor : (UInt32.ofNat (count % 2 ^ 32 + reserve)).toNat =
        count % 2 ^ 32 + reserve := by
      rw [UInt32.toNat_ofNat', Nat.mod_eq_of_lt small]
    have made : scheduler.ackTimeout count reserve =
        scheduler.receiveTimeout.mul (UInt32.ofNat (count % 2 ^ 32 + reserve)) := by
      simp only [ackTimeout, size, if_pos small]
    rw [made, Duration.mul_isOk_iff, factor]
    exact ⟨fun fits => ⟨small, fits⟩, fun fits => fits.2⟩
  · have made : scheduler.ackTimeout count reserve =
        .error "attempt to add with overflow" := by
      simp only [ackTimeout, size, if_neg small]
    rw [made]
    exact ⟨fun ⟨_, impossible⟩ => (nomatch impossible), fun fits => absurd fits.1 small⟩

/-- The shutdown sends continue, begin the confirmation loop, or panic on the timeout. -/
theorem shutdownActivities_cases (states : States scheduler) (cycle : Nat)
    (reason : Option String) (pending remaining : List ActivityId) :
    (∃ activity rest, remaining = activity :: rest ∧
        shutdownActivities states cycle reason pending remaining =
          ⟨states, .shutdown activity rest pending, cycle, reason⟩) ∨
      (remaining = [] ∧ scheduler.Fits pending.length 2 ∧ ∃ timeout,
        shutdownActivities states cycle reason pending remaining =
          shutdownLoop states cycle reason timeout pending) ∨
      remaining = [] ∧ ¬ scheduler.Fits pending.length 2 ∧ ∃ message,
        shutdownActivities states cycle reason pending remaining =
          ⟨states, .panicked (.arithmetic message), cycle, reason⟩ := by
  cases remaining with
  | cons activity rest => exact .inl ⟨activity, rest, rfl, rfl⟩
  | nil =>
      right
      rw [← ackTimeout_isOk_iff]
      cases made : scheduler.ackTimeout pending.length 2 with
      | ok timeout => exact .inl ⟨rfl, ⟨timeout, rfl⟩, timeout, by rw [shutdownActivities, made]⟩
      | error message =>
          refine .inr ⟨rfl, fun ⟨_, impossible⟩ => (nomatch impossible), message, ?_⟩
          rw [shutdownActivities, made]

/-- The wait for the agents ends, continues, or panics on the timeout. -/
theorem awaitAgents_cases (states : States scheduler) (cycle : Nat) (reason : Option String)
    (pending : List AgentId) :
    ((pending = [] ∨ scheduler.Fits pending.length 4) ∧
        (awaitAgents states cycle reason pending = ⟨states, .finished, cycle, reason⟩ ∨
          ∃ timeout, awaitAgents states cycle reason pending =
            ⟨states, .ackElapsed pending timeout, cycle, reason⟩)) ∨
      ¬ (pending = [] ∨ scheduler.Fits pending.length 4) ∧ ∃ message,
        awaitAgents states cycle reason pending =
          ⟨states, .panicked (.arithmetic message), cycle, reason⟩ := by
  cases pending with
  | nil => exact .inl ⟨.inl rfl, .inl rfl⟩
  | cons agent rest =>
      rw [← ackTimeout_isOk_iff]
      cases made : scheduler.ackTimeout (agent :: rest).length 4 with
      | ok timeout =>
          refine .inl ⟨.inr ⟨timeout, rfl⟩, .inr ⟨timeout, ?_⟩⟩
          simp only [awaitAgents, made, ackLoop]
      | error message =>
          refine .inr ⟨?_, message, by simp only [awaitAgents, made]⟩
          rintro (impossible | ⟨timeout, impossible⟩) <;> cases impossible

theorem ackLoop_cases (states : States scheduler) (cycle : Nat) (reason : Option String)
    (timeout : Duration) (pending : List AgentId) :
    ackLoop states cycle reason timeout pending = ⟨states, .finished, cycle, reason⟩ ∨
      ackLoop states cycle reason timeout pending =
        ⟨states, .ackElapsed pending timeout, cycle, reason⟩ := by
  cases pending with
  | nil => exact .inl rfl
  | cons agent rest => exact .inr rfl

theorem shutdownGracefully_stage (states : States scheduler) (cycle : Nat) (reason : String) :
    ((shutdownGracefully states cycle reason).point.stage = .closing ∨
        (shutdownGracefully states cycle reason).point.stage = .terminating) ∧
      (shutdownGracefully states cycle reason).reason = some reason := by
  rcases shutdownGracefully_cases states cycle reason with ⟨-, same⟩ | ⟨_, _, -, same⟩
  · rw [same]
    exact ⟨.inr rfl, rfl⟩
  · rw [same]
    exact ⟨.inl rfl, rfl⟩

theorem shutdownGracefully_stopping (states : States scheduler) (cycle : Nat) (reason : String) :
    (shutdownGracefully states cycle reason).point.stage.Stopping :=
  (shutdownGracefully_stage states cycle reason).1.imp (fun closing => closing) .inr

theorem startupLoop_stage (states : States scheduler) :
    ((startupLoop states).point.stage = .waiting ∨
        (startupLoop states).point.stage = .chaining) ∧ (startupLoop states).reason = none := by
  rcases startupLoop_cases states with ⟨-, same⟩ | ⟨-, same⟩
  · rw [same]
    have continues := taskChain_continues states 0
    exact ⟨.inr continues.stage_eq, continues.reason_eq⟩
  · rw [same]
    exact ⟨.inl rfl, rfl⟩

theorem startupActivities_stage (states : States scheduler) (remaining : List ActivityId) :
    (startupActivities states remaining).point.stage.Active ∧
      (startupActivities states remaining).reason = none := by
  cases remaining with
  | nil =>
      obtain ⟨stage, reason⟩ := startupLoop_stage states
      exact ⟨.inr stage, reason⟩
  | cons activity rest => exact ⟨.inl rfl, rfl⟩

theorem shutdownLoop_stage (states : States scheduler) (cycle : Nat) (reason : Option String)
    (timeout : Duration) (pending : List ActivityId) :
    ((shutdownLoop states cycle reason timeout pending).point.stage = .confirming ∨
        (shutdownLoop states cycle reason timeout pending).point.stage = .terminating) ∧
      (shutdownLoop states cycle reason timeout pending).reason = reason := by
  rcases shutdownLoop_cases states cycle reason timeout pending with ⟨-, same⟩ | ⟨-, same⟩
  · rw [same]
    exact ⟨.inr rfl, rfl⟩
  · rw [same]
    exact ⟨.inl rfl, rfl⟩

theorem shutdownActivities_stage (states : States scheduler) (cycle : Nat)
    (reason : Option String) (pending remaining : List ActivityId) :
    (shutdownActivities states cycle reason pending remaining).point.stage.Stopping ∨
      (shutdownActivities states cycle reason pending remaining).point.stage = .panicked := by
  rcases shutdownActivities_cases states cycle reason pending remaining with
    ⟨_, _, -, same⟩ | ⟨-, -, timeout, same⟩ | ⟨-, -, _, same⟩
  · rw [same]
    exact .inl (.inl rfl)
  · rw [same]
    exact .inl (.inr (shutdownLoop_stage _ _ _ _ _).1)
  · rw [same]
    exact .inr rfl

theorem awaitAgents_stage (states : States scheduler) (cycle : Nat) (reason : Option String)
    (pending : List AgentId) :
    (awaitAgents states cycle reason pending).point.stage = .acknowledging ∨
      (awaitAgents states cycle reason pending).point.stage = .panicked := by
  rcases awaitAgents_cases states cycle reason pending with ⟨-, same | ⟨_, same⟩⟩ | ⟨-, _, same⟩
  · rw [same]
    exact .inl rfl
  · rw [same]
    exact .inl rfl
  · rw [same]
    exact .inr rfl

theorem ackLoop_stage (states : States scheduler) (cycle : Nat) (reason : Option String)
    (timeout : Duration) (pending : List AgentId) :
    (ackLoop states cycle reason timeout pending).point.stage = .acknowledging := by
  cases pending <;> rfl

/-- A scheduler in a last stage stays there, and it only waits for acknowledgements. -/
theorem step_last {execution next : Execution scheduler} {event : Event}
    (stepped : step execution event = some next) (last : execution.point.stage.Last) :
    next.point.stage.Last ∧ (∀ id signal result, event ≠ .sendToActivity id signal result) ∧
      ∀ signal result, event ≠ .broadcastTerminate signal result := by
  have starting : ¬ Stage.Last .starting := Stage.Active.not_last (.inl rfl)
  have waiting : ¬ Stage.Last .waiting := Stage.Active.not_last (.inr (.inl rfl))
  have chaining : ¬ Stage.Last .chaining := Stage.Active.not_last (.inr (.inr rfl))
  have closing : ¬ Stage.Last .closing := Stage.Stopping.not_last (.inl rfl)
  have confirming : ¬ Stage.Last .confirming := Stage.Stopping.not_last (.inr (.inl rfl))
  have terminating : ¬ Stage.Last .terminating := Stage.Stopping.not_last (.inr (.inr rfl))
  cases step_transition stepped with
  | startupSent => exact absurd last starting
  | startupFailed => exact absurd last starting
  | startupLate => exact absurd last waiting
  | startupInTime => exact absurd last waiting
  | ignored waits => exact absurd last waits.active.not_last
  | failed waits => exact absurd last waits.active.not_last
  | unknown waits => exact absurd last waits.active.not_last
  | startupReady => exact absurd last waiting
  | stepSent => exact absurd last chaining
  | stepFailed => exact absurd last chaining
  | stepReady => exact absurd last chaining
  | chainLate => exact absurd last chaining
  | chainInTime => exact absurd last chaining
  | slept => exact absurd last chaining
  | requested => exact absurd last chaining
  | continued => exact absurd last chaining
  | shutdownSent => exact absurd last closing
  | shutdownLate => exact absurd last confirming
  | shutdownInTime => exact absurd last confirming
  | shutdownReceived => exact absurd last confirming
  | terminated => exact absurd last terminating
  | connected => exact ⟨awaitAgents_stage _ _ _ _, fun _ _ _ => by simp, fun _ _ => by simp⟩
  | ackLate => exact ⟨.inl rfl, fun _ _ _ => by simp, fun _ _ => by simp⟩
  | ackInTime => exact ⟨.inl rfl, fun _ _ _ => by simp, fun _ _ => by simp⟩
  | ackReceived => exact ⟨.inl (ackLoop_stage _ _ _ _ _), fun _ _ _ => by simp, fun _ _ => by simp⟩

@[simp] theorem shutdownGracefully_states (states : States scheduler) (cycle : Nat)
    (reason : String) : (shutdownGracefully states cycle reason).states = states := by
  rcases shutdownGracefully_cases states cycle reason with ⟨-, same⟩ | ⟨_, _, -, same⟩ <;> rw [same]

@[simp] theorem shutdownGracefully_cycle (states : States scheduler) (cycle : Nat)
    (reason : String) : (shutdownGracefully states cycle reason).cycle = cycle := by
  rcases shutdownGracefully_cases states cycle reason with ⟨-, same⟩ | ⟨_, _, -, same⟩ <;> rw [same]

@[simp] theorem shutdownLoop_states (states : States scheduler) (cycle : Nat)
    (reason : Option String) (timeout : Duration) (pending : List ActivityId) :
    (shutdownLoop states cycle reason timeout pending).states = states := by
  cases pending <;> rfl

@[simp] theorem shutdownLoop_cycle (states : States scheduler) (cycle : Nat)
    (reason : Option String) (timeout : Duration) (pending : List ActivityId) :
    (shutdownLoop states cycle reason timeout pending).cycle = cycle := by
  cases pending <;> rfl

@[simp] theorem shutdownActivities_states (states : States scheduler) (cycle : Nat)
    (reason : Option String) (pending remaining : List ActivityId) :
    (shutdownActivities states cycle reason pending remaining).states = states := by
  rcases shutdownActivities_cases states cycle reason pending remaining with
    ⟨_, _, -, same⟩ | ⟨-, -, timeout, same⟩ | ⟨-, -, _, same⟩ <;> simp [same]

@[simp] theorem shutdownActivities_cycle (states : States scheduler) (cycle : Nat)
    (reason : Option String) (pending remaining : List ActivityId) :
    (shutdownActivities states cycle reason pending remaining).cycle = cycle := by
  rcases shutdownActivities_cases states cycle reason pending remaining with
    ⟨_, _, -, same⟩ | ⟨-, -, timeout, same⟩ | ⟨-, -, _, same⟩ <;> simp [same]

@[simp] theorem awaitAgents_states (states : States scheduler) (cycle : Nat)
    (reason : Option String) (pending : List AgentId) :
    (awaitAgents states cycle reason pending).states = states := by
  rcases awaitAgents_cases states cycle reason pending with
    ⟨-, same | ⟨_, same⟩⟩ | ⟨-, _, same⟩ <;> rw [same]

@[simp] theorem awaitAgents_cycle (states : States scheduler) (cycle : Nat)
    (reason : Option String) (pending : List AgentId) :
    (awaitAgents states cycle reason pending).cycle = cycle := by
  rcases awaitAgents_cases states cycle reason pending with
    ⟨-, same | ⟨_, same⟩⟩ | ⟨-, _, same⟩ <;> rw [same]

@[simp] theorem ackLoop_states (states : States scheduler) (cycle : Nat)
    (reason : Option String) (timeout : Duration) (pending : List AgentId) :
    (ackLoop states cycle reason timeout pending).states = states := by
  cases pending <;> rfl

@[simp] theorem ackLoop_cycle (states : States scheduler) (cycle : Nat)
    (reason : Option String) (timeout : Duration) (pending : List AgentId) :
    (ackLoop states cycle reason timeout pending).cycle = cycle := by
  cases pending <;> rfl

/-- A scheduler of one activity without dependencies. -/
def solo : Scheduler where
  agentId := ⟨1⟩
  cycleTime := Duration.zero
  receiveTimeout := Duration.zero
  startupTimeout := Duration.zero
  activityDepends :=
    { keys := [⟨1⟩]
      nodup := GenericId.nodup_one
      value := fun _ => [] }

/-- A scheduler of two activities, of which the second depends on the first. -/
def pair : Scheduler where
  agentId := ⟨1⟩
  cycleTime := Duration.zero
  receiveTimeout := Duration.zero
  startupTimeout := Duration.zero
  activityDepends :=
    { keys := [⟨1⟩, ⟨2⟩]
      nodup := GenericId.nodup_two
      value := fun id => if id = ⟨2⟩ then [⟨1⟩] else [] }

/-- The scheduler receives the ready signal of the activity. -/
def readyFrom (id : ActivityId) : Event := .receive (.ok (some (.ready id ⟨Duration.zero⟩)))

def stepOf (id : ActivityId) : Event := .sendToActivity id (.step id ⟨Duration.zero⟩) (.ok ())

/-- Both activities start up, and one task chain ends. -/
def pairFirst : List Event :=
  [.sendToActivity ⟨1⟩ (.startup ⟨1⟩ ⟨Duration.zero⟩) (.ok ()),
    .sendToActivity ⟨2⟩ (.startup ⟨2⟩ ⟨Duration.zero⟩) (.ok ()),
    .elapsed Duration.zero, readyFrom ⟨2⟩, .elapsed Duration.zero, readyFrom ⟨1⟩,
    stepOf ⟨1⟩, readyFrom ⟨1⟩, stepOf ⟨2⟩, readyFrom ⟨2⟩, .elapsed Duration.zero]

/-- The second task chain waits for activity 2. -/
def pairSecond : List Event := [stepOf ⟨1⟩, readyFrom ⟨1⟩, stepOf ⟨2⟩]

def pairChains : List Event := pairFirst ++ [.shutdownRequested false] ++ pairSecond

/-- The second task chain ends, both activities are shut down, and the other agent terminates. -/
def pairStop : List Event :=
  [readyFrom ⟨2⟩, .elapsed Duration.zero, .shutdownRequested true,
    .sendToActivity ⟨1⟩ (.shutdown ⟨1⟩ ⟨Duration.zero⟩) (.ok ()),
    .sendToActivity ⟨2⟩ (.shutdown ⟨2⟩ ⟨Duration.zero⟩) (.ok ()),
    .elapsed Duration.zero, readyFrom ⟨2⟩, .elapsed Duration.zero, readyFrom ⟨1⟩,
    .broadcastTerminate (.terminate ⟨Duration.zero⟩) (.ok ()), .connectedAgents [⟨1⟩, ⟨2⟩],
    .elapsed Duration.zero, .receive (.ok (some (.terminateAck ⟨2⟩)))]

/-- Two task chains run before the scheduler stops. -/
def pairRun : List Event := pairChains ++ pairStop

end Feo.Scheduler
