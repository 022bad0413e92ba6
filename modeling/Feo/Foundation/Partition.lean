import Mathlib.Data.List.Nodup

namespace Feo.Foundation

variable {Item Part : Type} {items : List Item} {parts : Item → List Part} {item other : Item}
  {part : Part}

/-- A part belongs to one of the items if no part appears twice. -/
theorem eq_of_shared_part (distinct : (items.flatMap parts).Nodup) (first : item ∈ items)
    (second : other ∈ items) (own : part ∈ parts item) (shared : part ∈ parts other) :
    item = other := by
  induction items with
  | nil => cases first
  | cons head rest ih =>
      rw [List.flatMap_cons] at distinct
      obtain ⟨-, others, disjoint⟩ := List.nodup_append'.mp distinct
      have apart {left right : Item} (front : left = head) (behind : right ∈ rest)
          (here : part ∈ parts left) (there : part ∈ parts right) : False := by
        subst front
        exact disjoint here (List.mem_flatMap.mpr ⟨right, behind, there⟩)
      rcases List.mem_cons.mp first with here | first
      · rcases List.mem_cons.mp second with there | second
        · rw [here, there]
        · exact (apart here second own shared).elim
      · rcases List.mem_cons.mp second with there | second
        · exact (apart there first shared own).elim
        · exact ih others first second

/-- The search for a part ends at its item. -/
theorem find?_part [DecidableEq Part] (distinct : (items.flatMap parts).Nodup)
    (member : item ∈ items) (own : part ∈ parts item) :
    items.find? (fun other => part ∈ parts other) = some item := by
  have found : (items.find? fun other => part ∈ parts other).isSome :=
    List.find?_isSome.mpr ⟨item, member, decide_eq_true own⟩
  obtain ⟨owner, same⟩ := Option.isSome_iff_exists.mp found
  have shared : decide (part ∈ parts owner) = true := by
    simpa using List.find?_some same
  rw [same, eq_of_shared_part distinct (List.mem_of_find?_eq_some same) member
    (of_decide_eq_true shared) own]

end Feo.Foundation
