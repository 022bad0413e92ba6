import Mathlib.Algebra.Group.Nat.Defs
import Mathlib.Data.List.Basic

namespace Feo

/-- A Rust computation returns a value or panics with a message. -/
abbrev Panicking := Except String

/-- A computation that continues with a result has a first result. -/
theorem bind_ok {First Last : Type} {first : Panicking First} {next : First → Panicking Last}
    {last : Last} (bound : (do next (← first)) = .ok last) :
    ∃ value, first = .ok value ∧ next value = .ok last := by
  cases first with
  | error message => cases bound
  | ok value => exact ⟨value, rfl, bound⟩

/-- A duration counts the nanoseconds of a `u64` number of seconds and a fraction. -/
structure Duration where
  nanos : Nat
  fits : nanos < 2 ^ 64 * 10 ^ 9
deriving DecidableEq

namespace Duration

def zero : Duration := ⟨0, by decide⟩

/-- The result fits into a `u128`. -/
def asNanos (duration : Duration) : Nat := duration.nanos

def fromNanos (nanos : UInt64) : Duration :=
  ⟨nanos.toNat, by have := nanos.toNat_lt; omega⟩

def isZero (duration : Duration) : Bool := decide (duration.nanos = 0)

def saturatingSub (duration rhs : Duration) : Duration :=
  ⟨duration.nanos - rhs.nanos, Nat.lt_of_le_of_lt (Nat.sub_le _ _) duration.fits⟩

/-- The comparison of two durations compares their nanoseconds. -/
def gt (duration other : Duration) : Bool := decide (other.nanos < duration.nanos)

/-- The product panics when it is not a duration. -/
def mul (duration : Duration) (rhs : UInt32) : Panicking Duration :=
  if fits : duration.nanos * rhs.toNat < 2 ^ 64 * 10 ^ 9 then
    .ok ⟨duration.nanos * rhs.toNat, fits⟩
  else
    .error "overflow when multiplying duration by scalar"

theorem mul_isOk_iff (duration : Duration) (rhs : UInt32) :
    (∃ product, duration.mul rhs = .ok product) ↔
      duration.nanos * rhs.toNat < 2 ^ 64 * 10 ^ 9 := by
  unfold mul
  split
  · next fits => exact ⟨fun _ => fits, fun _ => ⟨_, rfl⟩⟩
  · next large => exact ⟨fun ⟨_, made⟩ => (nomatch made), fun fits => absurd fits large⟩

end Duration

/-- A timestamp is the duration since system startup. -/
structure Timestamp where
  duration : Duration
deriving DecidableEq

/-- The synchronization information is the startup time of the primary agent since the epoch. -/
structure SyncInfo where
  sinceEpoch : Duration
deriving DecidableEq

/-- Both conversions from a `u128` assert the same bound. -/
def durationFromU128 (nanos : Nat) : Panicking Duration :=
  if nanos ≤ 2 ^ 64 - 1 then .ok (Duration.fromNanos (UInt64.ofNat nanos))
  else .error "input value too large"

def Timestamp.toU128 (timestamp : Timestamp) : Nat := timestamp.duration.asNanos

def Timestamp.fromU128 (nanos : Nat) : Panicking Timestamp :=
  Timestamp.mk <$> durationFromU128 nanos

def SyncInfo.toU128 (info : SyncInfo) : Nat := info.sinceEpoch.asNanos

def SyncInfo.fromU128 (nanos : Nat) : Panicking SyncInfo :=
  SyncInfo.mk <$> durationFromU128 nanos

/-- A duration that fits into a `u64` survives the conversion in both directions. -/
theorem durationFromU128_asNanos (duration : Duration) (small : duration.nanos ≤ 2 ^ 64 - 1) :
    durationFromU128 duration.asNanos = .ok duration := by
  have value : (UInt64.ofNat duration.nanos).toNat = duration.nanos := by
    rw [UInt64.toNat_ofNat']
    omega
  rw [durationFromU128, Duration.asNanos, if_pos small]
  simp only [Duration.fromNanos, value]

/-- A larger duration panics in the receiver. -/
theorem durationFromU128_large (nanos : Nat) (large : ¬ nanos ≤ 2 ^ 64 - 1) :
    durationFromU128 nanos = .error "input value too large" := by
  rw [durationFromU128, if_neg large]

end Feo
