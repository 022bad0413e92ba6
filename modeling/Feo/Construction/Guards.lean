import Feo.Construction.SharedMemory
import Feo.Foundation.Machine
import Mathlib.Data.Finset.Filter
import Mathlib.Data.Fintype.Defs
import Mathlib.Logic.Function.Basic

namespace Feo.ReadWriteAccessControlPtr

open Foundation

/-- A guard goes on from point to point, and a write guard may be dropped unsent. -/
structure Guard where
  point : Point
  unsent : Bool
deriving DecidableEq

/-- Each thread uses its own guard on the shared lock state. -/
structure Guards (Thread : Type) where
  lockState : UInt16
  guard : Thread → Guard

/-- A thread creates a guard, performs its next atomic operation, or drops it without a send. -/
inductive GuardEvent (Thread : Type) where
  | get (thread : Thread)
  | getMut (thread : Thread)
  | access (thread : Thread)
  | dropUnsent (thread : Thread)

namespace Guards

variable {Thread : Type} [DecidableEq Thread]

/-- The lock is free and no thread has a guard. -/
def initial : Guards Thread where
  lockState := 0
  guard := fun _ => ⟨.released, false⟩

/-- The thread replaces its guard, and the lock state may change. -/
def put (guards : Guards Thread) (thread : Thread) (lockState : UInt16) (guard : Guard) :
    Guards Thread where
  lockState := lockState
  guard := Function.update guards.guard thread guard

def step (guards : Guards Thread) : GuardEvent Thread → Option (Guards Thread)
  | .get thread =>
      if (guards.guard thread).point = .released then
        some (guards.put thread guards.lockState ⟨.lockRead, false⟩)
      else none
  | .getMut thread =>
      if (guards.guard thread).point = .released then
        some (guards.put thread guards.lockState ⟨.lockWrite, false⟩)
      else none
  | .access thread =>
      ((guards.guard thread).point.step guards.lockState).map fun (lockState, point) =>
        guards.put thread lockState ⟨point, (guards.guard thread).unsent⟩
  | .dropUnsent thread =>
      if (guards.guard thread).point = .writing then
        some (guards.put thread guards.lockState ⟨.drop, true⟩)
      else none

def machine : Machine (Guards Thread) (GuardEvent Thread) where
  step := step

end Guards

/-- A write lock is held from its exchange until the guard is sent. -/
def Guard.holdsWrite (guard : Guard) : Bool := guard.point = .writing || guard.unsent

variable {Thread : Type} [Fintype Thread]

/-- The threads that hold a read lock. -/
def Guards.readers (guards : Guards Thread) : Finset Thread :=
  Finset.univ.filter fun thread => (guards.guard thread).point.holdsRead

/-- The threads that hold a write lock. -/
def Guards.writers (guards : Guards Thread) : Finset Thread :=
  Finset.univ.filter fun thread => (guards.guard thread).holdsWrite

end Feo.ReadWriteAccessControlPtr
