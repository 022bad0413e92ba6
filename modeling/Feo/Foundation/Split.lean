import Mathlib.Data.List.Basic

namespace Feo.Foundation

variable {Item : Type}

/-- The property holds of each item of a list together with the items before it. -/
def AtEach (property : List Item → Item → Prop) (items : List Item) : Prop :=
  ∀ front item back, items = front ++ item :: back → property front item

@[simp] theorem atEach_nil (property : List Item → Item → Prop) : AtEach property [] := by
  intro front item back split
  cases front <;> cases split

/-- The items of the second list stand behind all items of the first one. -/
theorem atEach_append (property : List Item → Item → Prop) (first second : List Item) :
    AtEach property (first ++ second) ↔
      AtEach property first ∧ AtEach (fun front => property (first ++ front)) second := by
  constructor
  · intro each
    constructor
    · rintro front item back rfl
      exact each front item (back ++ second) (by simp)
    · rintro front item back rfl
      exact each (first ++ front) item back (by simp)
  · rintro ⟨early, late⟩ front item back split
    rcases List.append_eq_append_iff.mp split with ⟨rest, rfl, rfl⟩ | ⟨rest, rfl, tail⟩
    · exact late rest item back rfl
    · rcases rest with rfl | ⟨head, rest⟩
      · simpa using late [] item back (by simpa using tail.symm)
      · obtain ⟨rfl, rfl⟩ := List.cons.inj tail
        exact early front item rest rfl

/-- A single item has no items before it. -/
theorem atEach_singleton (property : List Item → Item → Prop) (item : Item) :
    AtEach property [item] ↔ property [] item := by
  constructor
  · intro each
    exact each [] item [] rfl
  · intro holds front other back split
    cases front with
    | nil =>
        cases split
        exact holds
    | cons first front => cases front <;> cases split

/-- A property of each item of a longer list also concerns its last item. -/
theorem atEach_concat (property : List Item → Item → Prop) (items : List Item) (last : Item) :
    AtEach property (items ++ [last]) ↔ AtEach property items ∧ property items last := by
  rw [atEach_append, atEach_singleton, List.append_nil]

/-- The first item stands before all other items. -/
theorem atEach_cons (property : List Item → Item → Prop) (first : Item) (rest : List Item) :
    AtEach property (first :: rest) ↔
      property [] first ∧ AtEach (fun front => property (first :: front)) rest := by
  rw [← List.singleton_append, atEach_append, atEach_singleton]
  rfl

/-- Each item of a list stands at one index behind the items before it. -/
theorem atEach_iff_getElem (property : List Item → Item → Prop) (items : List Item) :
    AtEach property items ↔
      ∀ index, ∀ below : index < items.length, property (items.take index) items[index] := by
  constructor
  · intro each index below
    apply each _ _ (items.drop (index + 1))
    rw [List.getElem_cons_drop, List.take_append_drop]
  · rintro all front item back rfl
    have here := all front.length (by simp)
    rw [List.take_left, List.getElem_append_right (Nat.le_refl _)] at here
    simpa using here

end Feo.Foundation
