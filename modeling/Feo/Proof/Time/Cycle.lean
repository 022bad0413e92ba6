import Feo.Construction.Scheduler
import Feo.Proof.Time.Speed

namespace Feo.Scheduler

/-- One iteration of the outer loop reads the clock around its task chain and after its sleep. -/
structure Iteration (scheduler : Scheduler) (speed : Speed) where
  begun : Instant
  finished : Instant
  woken : Instant
  taskChainStart : Instant
  taskChainDuration : Duration
  timeLeft : Duration
  next : Instant
  chained : Execution scheduler
  sleeping : Execution scheduler
  awake : Execution scheduler
  started : speed.start.nanos ≤ begun.nanos
  ordered : begun.nanos ≤ finished.nanos
  starts : Instant.now (some speed) begun = .ok taskChainStart
  elapses : Instant.elapsed (some speed) taskChainStart finished = .ok taskChainDuration
  short : taskChainDuration.nanos < scheduler.cycleTime.nanos
  point : chained.point = .chainElapsed
  measures : step chained (.elapsed taskChainDuration) = some sleeping
  sleeps : step sleeping (.sleep timeLeft) = some awake
  wakes : woken.nanos = finished.nanos + timeLeft.nanos
  restarts : Instant.now (some speed) woken = .ok next

namespace Iteration

variable {scheduler : Scheduler} {speed : Speed}

/-- The iteration lasts the cycle time, up to the factor in nanoseconds. -/
def KeepsCycleTime (iteration : Iteration scheduler speed) : Prop :=
  let lasted := (iteration.next.saturatingDurationSince iteration.taskChainStart).nanos
  scheduler.cycleTime.nanos ≤ lasted + speed.factor.toInt.natAbs ∧
    lasted ≤ scheduler.cycleTime.nanos + speed.factor.toInt.natAbs

/-- The scheduler sleeps for the cycle time that the task chain leaves. -/
theorem timeLeft_nanos (iteration : Iteration scheduler speed) :
    iteration.timeLeft.nanos =
      scheduler.cycleTime.nanos - iteration.taskChainDuration.nanos := by
  have short := iteration.short
  have measures := iteration.measures
  have sleeps := iteration.sleeps
  have point := iteration.point
  generalize iteration.chained = chained at measures point
  obtain ⟨states, _, cycle, reason⟩ := chained
  dsimp only at point
  subst point
  let left := scheduler.cycleTime.saturatingSub iteration.taskChainDuration
  have nonzero : ¬ left.isZero = true := by
    intro zero
    have none : scheduler.cycleTime.nanos - iteration.taskChainDuration.nanos = 0 :=
      of_decide_eq_true zero
    omega
  have sleeping : some ⟨states, .sleep left, cycle, reason⟩ = some iteration.sleeping :=
    (if_neg nonzero).symm.trans measures
  generalize iteration.sleeping = asleep at sleeps sleeping
  cases sleeping
  change (if iteration.timeLeft = left then _ else none) = _ at sleeps
  split at sleeps
  · next same => rw [same]; rfl
  · cases sleeps

/-- The iteration lasts its task chain and the FEO time of its sleep. -/
theorem lasted_nanos (iteration : Iteration scheduler speed) :
    (iteration.next.saturatingDurationSince iteration.taskChainStart).nanos +
        feoNanos speed.factor (iteration.finished.nanos - speed.start.nanos).toNat =
      iteration.taskChainDuration.nanos +
        feoNanos speed.factor ((iteration.finished.nanos - speed.start.nanos).toNat +
          iteration.timeLeft.nanos) := by
  have started := iteration.started
  have ordered := iteration.ordered
  have wakes := iteration.wakes
  obtain ⟨now, read, same⟩ := bind_ok iteration.elapses
  have chain : iteration.taskChainDuration.nanos =
      (now.nanos - iteration.taskChainStart.nanos).toNat := by
    rw [← Except.ok.inj same]
    rfl
  have first := now_nanos iteration.starts
  have middle := now_nanos read
  have last := now_nanos iteration.restarts
  have forward := nowNanos_mono (some speed) ordered
  have onward := nowNanos_mono (some speed)
    (show iteration.finished.nanos ≤ iteration.woken.nanos by omega)
  have finished := nowNanos_started (show speed.start.nanos ≤ iteration.finished.nanos by omega)
  have woken := nowNanos_started (show speed.start.nanos ≤ iteration.woken.nanos by omega)
  have later : (iteration.woken.nanos - speed.start.nanos).toNat =
      (iteration.finished.nanos - speed.start.nanos).toNat + iteration.timeLeft.nanos := by omega
  rw [later] at woken
  change (iteration.next.nanos - iteration.taskChainStart.nanos).toNat + _ = _
  omega

/-- A sleep on the clock of the operating system keeps the cycle time for these lengths only. -/
def Tolerable (iteration : Iteration scheduler speed) : Prop :=
  let left := scheduler.cycleTime.nanos - iteration.taskChainDuration.nanos
  let divisor := speed.factor.toInt.natAbs
  let rest := (iteration.finished.nanos - speed.start.nanos).toNat % divisor
  speed.factor = 0 ∨ speed.factor = 1 ∨ speed.factor = -1 ∨
    0 < speed.factor ∧ left * (divisor - 1) ≤ divisor ∨
    speed.factor < 0 ∧ (left ≤ divisor + 1 ∨ left = divisor + 2 ∧ divisor ≤ rest + 2 ∨
      left = 5 ∧ divisor = 2 ∧ rest = 1)

/-- The sum of a value and a sleep divides like the sum of the rest and the sleep. -/
theorem add_div_split (value left divisor : Nat) (positive : 0 < divisor) :
    (value + left) / divisor = value / divisor + (value % divisor + left) / divisor := by
  have whole := Nat.div_add_mod value divisor
  conv_lhs => rw [← whole, Nat.add_assoc]
  rw [Nat.mul_add_div positive]

/-- A slowed sleep loses at most its divisor only for these lengths. -/
theorem slowed_iff {left rest divisor : Nat} (slow : 2 ≤ divisor) (small : rest < divisor) :
    left ≤ (rest + left) / divisor + divisor ↔
      left ≤ divisor + 1 ∨ left = divisor + 2 ∧ divisor ≤ rest + 2 ∨
        left = 5 ∧ divisor = 2 ∧ rest = 1 := by
  by_cases short : left ≤ divisor
  · exact iff_of_true (Nat.le_add_left_of_le short) (.inl (by omega))
  · obtain ⟨extra, rfl⟩ := Nat.exists_eq_add_of_le (show divisor ≤ left by omega)
    have quotient : (rest + (divisor + extra)) / divisor = (rest + extra) / divisor + 1 := by
      rw [show rest + (divisor + extra) = rest + extra + divisor by omega,
        Nat.add_div_right _ (by omega)]
    have enough : extra - 1 ≤ (rest + extra) / divisor ↔ (extra - 1) * divisor ≤ rest + extra :=
      Nat.le_div_iff_mul_le (by omega)
    have reduced : divisor + extra ≤ (rest + (divisor + extra)) / divisor + divisor ↔
        (extra - 1) * divisor ≤ rest + extra := by
      rw [quotient, ← enough]
      omega
    rw [reduced]
    match extra with
    | 0 => omega
    | 1 => omega
    | 2 => omega
    | 3 => omega
    | extra + 4 =>
        have wide : (extra + 2) * 2 ≤ (extra + 2) * divisor := Nat.mul_le_mul_left _ slow
        have product : (extra + 4 - 1) * divisor = (extra + 2) * divisor + divisor := by
          rw [show extra + 4 - 1 = extra + 2 + 1 by omega, Nat.succ_mul]
        rw [product]
        omega

/-- A sleep that the clock multiplies is in time as long as it adds at most the factor. -/
theorem fast_iff {cycle chain left divisor total : Nat} (positive : 0 < divisor)
    (whole : cycle = chain + left) (lasted : total = chain + left * divisor) :
    cycle ≤ total + divisor ∧ total ≤ cycle + divisor ↔ left * (divisor - 1) ≤ divisor := by
  have grows := Nat.le_mul_of_pos_right left positive
  rw [Nat.mul_sub_one]
  omega

/-- A sleep that the clock divides is in time as long as it loses at most the divisor. -/
theorem slow_iff {cycle chain left rest divisor total : Nat} (slow : 2 ≤ divisor)
    (small : rest < divisor) (whole : cycle = chain + left)
    (lasted : total = chain + (rest + left) / divisor) :
    cycle ≤ total + divisor ∧ total ≤ cycle + divisor ↔
      left ≤ divisor + 1 ∨ left = divisor + 2 ∧ divisor ≤ rest + 2 ∨
        left = 5 ∧ divisor = 2 ∧ rest = 1 := by
  have shorter : (rest + left) / divisor < divisor + left := by
    have bound := Nat.div_le_self (rest + left) divisor
    omega
  rw [← slowed_iff slow small]
  omega

/-- The iteration keeps the cycle time exactly when its sleep is tolerable. -/
theorem keepsCycleTime_iff (iteration : Iteration scheduler speed) :
    iteration.KeepsCycleTime ↔ iteration.Tolerable := by
  have lasted := iteration.lasted_nanos
  have left := iteration.timeLeft_nanos
  have short := iteration.short
  have whole : scheduler.cycleTime.nanos =
      iteration.taskChainDuration.nanos + iteration.timeLeft.nanos := by omega
  unfold KeepsCycleTime Tolerable
  dsimp only
  rw [← left]
  generalize (iteration.finished.nanos - speed.start.nanos).toNat = before at lasted ⊢
  generalize (iteration.next.saturatingDurationSince iteration.taskChainStart).nanos = total
    at lasted ⊢
  have one : speed.factor = 1 ↔ speed.factor.toInt = 1 := Int32.toInt_inj.symm
  have minusOne : speed.factor = -1 ↔ speed.factor.toInt = -1 := Int32.toInt_inj.symm
  have below : speed.factor < 0 ↔ speed.factor.toInt < 0 := Int32.lt_iff_toInt_lt
  rcases factor_cases speed.factor with zero | ⟨positive, nonzero, above⟩ |
    ⟨negative, nonzero, under⟩
  · rw [feoNanos, feoNanos, if_pos zero, if_pos zero] at lasted
    exact iff_of_true (by omega) (.inl zero)
  · rw [feoNanos, feoNanos, if_neg nonzero, if_neg nonzero, if_pos positive, if_pos positive,
      Nat.add_mul] at lasted
    simp only [nonzero, false_or, one, minusOne, positive, true_and, below]
    rw [fast_iff (by omega) whole (by omega)]
    have unit : speed.factor.toInt = 1 →
        iteration.timeLeft.nanos * (speed.factor.toInt.natAbs - 1) = 0 := by
      intro same
      rw [same]
      exact Nat.mul_zero _
    omega
  · rw [feoNanos, feoNanos, if_neg nonzero, if_neg nonzero, if_neg negative, if_neg negative,
      add_div_split _ _ _ (by omega)] at lasted
    simp only [nonzero, false_or, one, minusOne, negative, false_and, below, under, true_and]
    by_cases unit : speed.factor.toInt = -1
    · rw [unit, Int.natAbs_neg, Int.natAbs_one, Nat.mod_one, Nat.zero_add, Nat.div_one,
        Nat.div_one] at lasted
      exact iff_of_true (by omega) (.inr (.inl unit))
    · have rest := Nat.mod_lt before (show 0 < speed.factor.toInt.natAbs by omega)
      rw [slow_iff (by omega) rest whole (by omega)]
      omega

/-- The scheduler has a cycle time of 1000 nanoseconds. -/
def periodic : Scheduler where
  agentId := ⟨1⟩
  cycleTime := Duration.fromNanos 1000
  receiveTimeout := Duration.zero
  startupTimeout := Duration.zero
  activityDepends := ⟨[⟨1⟩], GenericId.nodup_one, fun _ => []⟩

/-- The clock is twice as fast from its start on. -/
def twice : Speed := ⟨⟨0, Reading.zero_lower, Reading.zero_upper⟩, 2⟩

/-- The task chain takes 100 nanoseconds of real time on the fast clock. -/
def doubled : Iteration periodic twice where
  begun := ⟨0, Reading.zero_lower, Reading.zero_upper⟩
  finished := ⟨100, by omega, by omega⟩
  woken := ⟨900, by omega, by omega⟩
  taskChainStart := ⟨0, Reading.zero_lower, Reading.zero_upper⟩
  taskChainDuration := Duration.fromNanos 200
  timeLeft := Duration.fromNanos 800
  next := ⟨1800, by omega, by omega⟩
  chained := ⟨periodic.newStates, .chainElapsed, 1, none⟩
  sleeping := ⟨periodic.newStates, .sleep (Duration.fromNanos 800), 1, none⟩
  awake := ⟨periodic.newStates, .shutdownRequested, 1, none⟩
  started := by decide
  ordered := by decide
  starts := by rfl
  elapses := by rfl
  short := by decide
  point := rfl
  measures := rfl
  sleeps := rfl
  wakes := by decide
  restarts := by rfl

/-- The iteration lasts 1800 nanoseconds of FEO time instead of 1000. -/
theorem doubled_late :
    (doubled.next.saturatingDurationSince doubled.taskChainStart).nanos = 1800 ∧
      periodic.cycleTime.nanos = 1000 ∧ ¬ doubled.KeepsCycleTime := by
  refine ⟨rfl, rfl, ?_⟩
  intro kept
  have upper : 1800 ≤ 1000 + 2 := kept.2
  omega

end Iteration

end Feo.Scheduler
