import Feo.Construction.Time

namespace Feo

/-- A clock reading counts nanoseconds, and the number of its seconds is an `i64`. -/
structure Reading where
  nanos : Int
  lower : -9223372036854775808000000000 ≤ nanos
  upper : nanos < 9223372036854775808000000000

/-- A system time counts from the Unix epoch. -/
abbrev SystemTime := Reading

/-- An instant counts from the origin of the monotonic clock. -/
abbrev Instant := Reading

namespace Reading

/-- The difference of two readings is a duration, which is zero unless they are in order. -/
def saturatingDurationSince (reading earlier : Reading) : Duration where
  nanos := (reading.nanos - earlier.nanos).toNat
  fits := by
    have lower := earlier.lower
    have upper := reading.upper
    omega

/-- A later system time has no duration since it. -/
def durationSince (reading earlier : SystemTime) : Option Duration :=
  if earlier.nanos ≤ reading.nanos then some (reading.saturatingDurationSince earlier) else none

/-- The monotonic clock of a platform represents the nanoseconds from some earliest reading on. -/
def Representable (earliest nanos : Int) : Prop :=
  earliest ≤ nanos ∧ -9223372036854775808000000000 ≤ nanos

instance (earliest nanos : Int) : Decidable (Representable earliest nanos) :=
  inferInstanceAs (Decidable (_ ∧ _))

def checkedSub (earliest : Int) (reading : Instant) (duration : Duration) : Option Instant :=
  if inside : Representable earliest (reading.nanos - duration.nanos) then
    some ⟨reading.nanos - duration.nanos, inside.2, by have upper := reading.upper; omega⟩
  else none

/-- The sum panics when it is not a system time. -/
def add (reading : SystemTime) (duration : Duration) : Panicking SystemTime :=
  if large : 9223372036854775808000000000 ≤ reading.nanos + duration.nanos then
    .error "overflow when adding duration to instant"
  else
    .ok ⟨reading.nanos + duration.nanos, by have lower := reading.lower; omega, by omega⟩

theorem zero_lower : -9223372036854775808000000000 ≤ (0 : Int) := by omega

theorem zero_upper : (0 : Int) < 9223372036854775808000000000 := by omega

def unixEpoch : SystemTime := ⟨0, zero_lower, zero_upper⟩

end Reading

/-- Scale the duration based on the factor set by `speed`. -/
def Duration.scaled (duration : Duration) (factor : Int32) : Panicking Duration :=
  if factor = 0 then .ok duration
  else if 0 < factor then
    .ok ⟨duration.nanos / factor.toInt.natAbs,
      Nat.lt_of_le_of_lt (Nat.div_le_self _ _) duration.fits⟩
  else duration.mul (UInt32.ofNat factor.toInt.natAbs)

/-- Startup time info. -/
structure TimeInfo where
  systime : SystemTime
  instant : Instant

/-- Maximal acceptable tolerance when determining startup time info, in nanoseconds. -/
def maxDelay : Nat := 1000

/-- Maximal number of tries when determining startup time info. -/
def maxTries : Nat := 10

/-- One try reads the monotonic clock, the wall clock, and the monotonic clock again. -/
structure ClockTry where
  instant : Instant
  systime : SystemTime
  instant2 : Instant

/-- Each failed try is followed by another one until none remains. -/
def timeInfoNow (tries : Nat → ClockTry) : Panicking TimeInfo :=
  attempt maxTries 0
where
  attempt : Nat → Nat → Panicking TimeInfo
    | 0, _ => .error "failed to get synchronized time information"
    | triesRemaining + 1, index =>
        let reading := tries index
        if (reading.instant2.saturatingDurationSince reading.instant).nanos < maxDelay then
          .ok ⟨reading.systime, reading.instant⟩
        else attempt triesRemaining (index + 1)

/-- The startup time of the process is set at most once. -/
abbrev StartupTime := Option TimeInfo

/-- Initialize the instant of system startup, unless it is already set. -/
def initializeStartupTime (startup : StartupTime) (tries : Nat → ClockTry) :
    Panicking StartupTime :=
  match startup with
  | some info => .ok (some info)
  | none => do
      let info ← timeInfoNow tries
      return some info

/-- Calculate the startup time of the primary agent and its instant on the local clock. -/
def startupFrom (earliest : Int) (syncInfo : SyncInfo) (now : TimeInfo) : Panicking TimeInfo :=
  match Reading.unixEpoch.add syncInfo.sinceEpoch with
  | .error message => .error message
  | .ok startupTime =>
      match now.systime.durationSince startupTime with
      | none => .error "failed to synchronize startup time"
      | some elapsed =>
          match now.instant.checkedSub earliest elapsed with
          | none => .error "failed to synchronize startup time"
          | some startupInstant => .ok ⟨startupTime, startupInstant⟩

/-- Initialize the instant of system startup from a given one, unless it is already set. -/
def initializeFrom (earliest : Int) (startup : StartupTime) (syncInfo : SyncInfo)
    (tries : Nat → ClockTry) : Panicking StartupTime :=
  match startup with
  | some info => .ok (some info)
  | none =>
      match timeInfoNow tries with
      | .error message => .error message
      | .ok now => (startupFrom earliest syncInfo now).map some

/-- Return the startup instant. -/
def startupInstant (startup : StartupTime) : Panicking Instant :=
  match startup with
  | some info => .ok info.instant
  | none => .error "failed to get startup instant: not initialized"

/-- Return a SyncInfo object that can be used by another host. -/
def syncInfo (startup : StartupTime) : Panicking SyncInfo :=
  match startup with
  | none => .error "failed to get sync info: not initialized"
  | some info =>
      match info.systime.durationSince Reading.unixEpoch with
      | some sinceEpoch => .ok ⟨sinceEpoch⟩
      | none => .error "failed to obtain system time for synchronization"

/-- The duration since startup is scaled with the speed factor. -/
def timestamp (startup : StartupTime) (factor : Int32) (now : Instant) : Panicking Timestamp := do
  let instant ← startupInstant startup
  let duration ← (now.saturatingDurationSince instant).scaled factor
  return ⟨duration⟩

end Feo
