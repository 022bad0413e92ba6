import Feo.Construction.Timestamp

namespace Feo

/-- The quotient panics when the divisor is zero. -/
def Duration.div (duration : Duration) (rhs : UInt32) : Panicking Duration :=
  if rhs = 0 then .error "divide by zero error when dividing duration by scalar"
  else .ok ⟨duration.nanos / rhs.toNat,
    Nat.lt_of_le_of_lt (Nat.div_le_self _ _) duration.fits⟩

/-- The later reading exists if the number of its seconds is an `i64`. -/
def Reading.checkedAdd (reading : Reading) (duration : Duration) : Option Reading :=
  if inside : reading.nanos + duration.nanos < 9223372036854775808000000000 then
    some ⟨reading.nanos + duration.nanos, by have lower := reading.lower; omega, inside⟩
  else none

/-- The call of `speed` sets the start timestamp and the factor. -/
structure Speed where
  start : Instant
  factor : Int32

/-- Set a speedup or down factor, with the start timestamp that the call reads. -/
def speed (state : Option Speed) (factor : Int32) (start : Instant) : Panicking (Option Speed) :=
  match state with
  | some _ => .error "speed can be set only once"
  | none => .ok (some ⟨start, factor⟩)

/-- The time since the start is multiplied by a positive factor and divided by a negative one. -/
def feoElapsed (factor : Int32) (durationSinceStart : Duration) : Panicking Duration :=
  let unsigned := UInt32.ofNat factor.toInt.natAbs
  if 0 < factor then durationSinceStart.mul unsigned else durationSinceStart.div unsigned

/-- Return the instant that belongs to the reading of the operating system. -/
def Instant.now (state : Option Speed) (reading : Instant) : Panicking Instant :=
  match state with
  | none => .ok reading
  | some speed =>
      if speed.factor ≠ 0 then do
        let elapsed ← feoElapsed speed.factor (reading.saturatingDurationSince speed.start)
        match speed.start.checkedAdd elapsed with
        | some instant => return instant
        | none => .error "clock error"
      else .ok reading

/-- Return the amount of time elapsed since this instant. -/
def Instant.elapsed (state : Option Speed) (instant reading : Instant) : Panicking Duration := do
  let now ← Instant.now state reading
  return now.saturatingDurationSince instant

/-- A call of the clock module reads the clock of the operating system. -/
inductive ClockCall where
  | now (reading : Instant)
  | speed (factor : Int32) (reading : Instant)

def ClockCall.reading : ClockCall → Instant
  | now reading => reading
  | speed _ reading => reading

/-- The calls of a process return these instants. -/
def instants (state : Option Speed) : List ClockCall → Panicking (List Instant)
  | [] => .ok []
  | .now reading :: calls => do
      let instant ← Instant.now state reading
      let rest ← instants state calls
      return instant :: rest
  | .speed factor reading :: calls => do
      let next ← speed state factor reading
      instants next calls

end Feo
