namespace Feo.ReadWriteAccessControlPtr

/-- These are the assertions on the lock state. -/
inductive Assertion where
  | tooManyReaders
  | multipleExclusiveAccess
  | invalidState
  | sendMandatory
deriving DecidableEq

def Assertion.message : Assertion → String
  | .tooManyReaders => "too many readers"
  | .multipleExclusiveAccess => "multiple exclusive access attempts detected"
  | .invalidState => "invalid state"
  | .sendMandatory => "send call is mandatory for LinuxShm backend"

/-- Each point names the next atomic operation of a guard, or tells how its thread went on. -/
inductive Point where
  | lockRead
  | lockReadExchange (state : UInt16)
  | reading
  | unlockReadExchange (state : UInt16)
  | lockWrite
  | writing
  | drop
  | released
  | panicked (assertion : Assertion)
deriving DecidableEq

/-- This is `u16::MAX`, which marks a lock for writing. -/
def maxState : UInt16 := 65535

/-- The exchange answers the actual state, and it fails if this is not the expected one. -/
def compareExchange (lockState expected replacement : UInt16) : UInt16 × Except UInt16 UInt16 :=
  if lockState = expected then (replacement, .ok lockState) else (lockState, .error lockState)

/-- The loop of `lock_read` checks the state before it exchanges it. -/
def lockReadLoop (state : UInt16) : Point :=
  if state = maxState - 1 then .panicked .tooManyReaders
  else if state = maxState then .panicked .multipleExclusiveAccess
  else .lockReadExchange state

/-- The loop of `unlock_read` checks the state before it exchanges it. -/
def unlockReadLoop (state : UInt16) : Point :=
  if state = maxState then .panicked .multipleExclusiveAccess
  else if state = 0 then .panicked .invalidState
  else .unlockReadExchange state

def isLocked (lockState : UInt16) : Bool := lockState != 0

/-- A step is one atomic operation on the lock state and the code up to the next one. -/
def Point.step (lockState : UInt16) : Point → Option (UInt16 × Point)
  | .lockRead => some (lockState, lockReadLoop lockState)
  | .lockReadExchange state =>
      match compareExchange lockState state (state + 1) with
      | (next, .ok _) => some (next, .reading)
      | (next, .error actual) => some (next, lockReadLoop actual)
  | .reading => some (lockState, unlockReadLoop lockState)
  | .unlockReadExchange state =>
      match compareExchange lockState state (state - 1) with
      | (next, .ok _) => some (next, .released)
      | (next, .error actual) => some (next, unlockReadLoop actual)
  | .lockWrite =>
      match compareExchange lockState 0 maxState with
      | (next, .ok _) => some (next, .writing)
      | (next, .error _) => some (next, .panicked .multipleExclusiveAccess)
  | .writing =>
      match compareExchange lockState maxState 0 with
      | (next, .ok _) => some (next, .drop)
      | (next, .error _) => some (next, .panicked .invalidState)
  | .drop =>
      some (lockState, if isLocked lockState then .panicked .sendMandatory else .released)
  | .released => none
  | .panicked _ => none

/-- These points hold a read lock. -/
def Point.holdsRead : Point → Bool
  | .reading => true
  | .unlockReadExchange _ => true
  | _ => false

end Feo.ReadWriteAccessControlPtr
