import Mathlib.Data.List.Basic
import Mathlib.Logic.Function.Basic

namespace Feo.Foundation

variable {Key Item : Type} [DecidableEq Key] {channels : Key → List Item} {key other : Key}
  {item first last : Item} {rest : List Item}

/-- A send extends one of the channels. -/
theorem update_concat_apply : Function.update channels key (channels key ++ [last]) other =
    channels other ++ if other = key then [last] else [] := by
  by_cases same : other = key
  · subst same
    rw [Function.update_self, if_pos rfl]
  · rw [Function.update_of_ne same, if_neg same, List.append_nil]

/-- A send appends its item to one of the channels. -/
theorem mem_update_concat :
    item ∈ Function.update channels key (channels key ++ [last]) other ↔
      item ∈ channels other ∨ other = key ∧ item = last := by
  rw [update_concat_apply, List.mem_append]
  split <;> simp [*]

/-- A receive removes only the first item of its channel. -/
theorem mem_of_mem_update (head : channels key = first :: rest)
    (member : item ∈ Function.update channels key rest other) : item ∈ channels other := by
  by_cases same : other = key
  · subst same
    rw [Function.update_self] at member
    rw [head]
    exact List.mem_cons_of_mem _ member
  · rwa [Function.update_of_ne same] at member

/-- The other items stay in the channels. -/
theorem mem_update_of_ne (head : channels key = first :: rest) (member : item ∈ channels other)
    (differs : item ≠ first) : item ∈ Function.update channels key rest other := by
  by_cases same : other = key
  · subst same
    rw [head] at member
    rw [Function.update_self]
    exact (List.mem_cons.mp member).resolve_left differs
  · rwa [Function.update_of_ne same]

/-- A send appends to the view of one channel. -/
theorem filterMap_update_concat {View : Type} (view : Item → Option View) :
    (Function.update channels key (channels key ++ [last]) other).filterMap view =
      (channels other).filterMap view ++ if other = key then (view last).toList else [] := by
  rw [update_concat_apply, List.filterMap_append]
  split
  · cases shown : view last <;> simp [shown]
  · rfl

/-- A receive removes the first item from the view of one channel. -/
theorem filterMap_of_head {View : Type} (view : Item → Option View)
    (head : channels key = first :: rest) :
    (channels other).filterMap view =
      (if other = key then (view first).toList else []) ++
        (Function.update channels key rest other).filterMap view := by
  by_cases same : other = key
  · subst same
    rw [Function.update_self, if_pos rfl, head]
    cases shown : view first <;> simp [shown]
  · rw [Function.update_of_ne same, if_neg same, List.nil_append]

/-- A receive leaves the other items of each channel in order. -/
theorem update_sublist (head : channels key = first :: rest) (other : Key) :
    (Function.update channels key rest other).Sublist (channels other) := by
  by_cases same : other = key
  · subst same
    rw [Function.update_self, head]
    exact List.sublist_cons_self first rest
  · rw [Function.update_of_ne same]

/-- An updated function takes the new value at its key and the old values elsewhere. -/
theorem update_eq_cases {Value : Type} {function : Key → Value} {value result : Value}
    (same : Function.update function key value other = result) :
    other = key ∧ value = result ∨ other ≠ key ∧ function other = result := by
  by_cases equal : other = key
  · subst equal
    rw [Function.update_self] at same
    exact .inl ⟨rfl, same⟩
  · rw [Function.update_of_ne equal] at same
    exact .inr ⟨equal, same⟩

end Feo.Foundation
