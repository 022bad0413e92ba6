import Mathlib.Data.List.Basic
import Mathlib.Logic.Function.Iterate
import Mathlib.Logic.Relation

namespace Feo.Foundation

/-- A program reads and writes the cells of a memory until it returns a result. -/
inductive Program (Cell Value Result : Type) where
  | done (result : Result)
  | read (cell : Cell) (next : Value → Program Cell Value Result)
  | write (cell : Cell) (value : Value) (next : Program Cell Value Result)

namespace Program

variable {Cell Value Result : Type} [DecidableEq Cell]

/-- An uninterrupted program answers its result and the memory that it leaves. -/
def perform : Program Cell Value Result → (Cell → Value) → Result × (Cell → Value)
  | .done result, memory => (result, memory)
  | .read cell next, memory => (next (memory cell)).perform memory
  | .write cell value next, memory => next.perform (Function.update memory cell value)

omit [DecidableEq Cell] in
/-- A confined program reads and writes only the cells of its two sets. -/
inductive Confined (reads writes : Set Cell) : Program Cell Value Result → Prop where
  | done (result : Result) : Confined reads writes (.done result)
  | read {cell : Cell} {next : Value → Program Cell Value Result} (member : cell ∈ reads)
      (rest : ∀ value, Confined reads writes (next value)) :
      Confined reads writes (.read cell next)
  | write {cell : Cell} {value : Value} {next : Program Cell Value Result}
      (member : cell ∈ writes) (rest : Confined reads writes next) :
      Confined reads writes (.write cell value next)

/-- A program leaves the cells as they are that it does not write. -/
theorem Confined.frame {reads writes : Set Cell} {program : Program Cell Value Result}
    (confined : Confined reads writes program) (memory : Cell → Value) {cell : Cell}
    (outside : cell ∉ writes) : (program.perform memory).2 cell = memory cell := by
  induction confined generalizing memory with
  | done result => rfl
  | read member rest ih => exact ih _ memory
  | @write other value next member rest ih =>
      have differs : cell ≠ other := by
        rintro rfl
        exact outside member
      rw [perform, ih, Function.update_of_ne differs]

end Program

end Feo.Foundation
