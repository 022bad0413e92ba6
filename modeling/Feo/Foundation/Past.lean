import Mathlib.Data.List.Basic

namespace Feo.Foundation

variable {Item : Type}

/-- Some item of the history opens behind the items before it, and no later item closes. -/
def Since (opens : List Item → Item → Prop) (closes : Item → Prop) (history : List Item) :
    Prop :=
  ∃ before item after, history = before ++ item :: after ∧ opens before item ∧
    ∀ later ∈ after, ¬ closes later

/-- Some item of the history opens behind the items before it. -/
def Once (opens : List Item → Item → Prop) (history : List Item) : Prop :=
  ∃ before item after, history = before ++ item :: after ∧ opens before item

variable {opens : List Item → Item → Prop} {closes : Item → Prop} {history : List Item}
  {last : Item}

theorem not_since_nil : ¬ Since opens closes [] := by
  rintro ⟨before, item, after, split, -⟩
  simp at split

/-- The last item opens, or it does not close what was open. -/
theorem since_concat : Since opens closes (history ++ [last]) ↔
    opens history last ∨ Since opens closes history ∧ ¬ closes last := by
  constructor
  · rintro ⟨before, item, after, split, opened, kept⟩
    rcases List.eq_nil_or_concat after with rfl | ⟨after, final, rfl⟩
    · obtain ⟨rfl, same⟩ := List.append_inj' split rfl
      cases same
      exact Or.inl opened
    · rw [List.concat_eq_append, ← List.cons_append, ← List.append_assoc] at split
      obtain ⟨rfl, same⟩ := List.append_inj' split rfl
      cases same
      refine Or.inr ⟨⟨before, item, after, rfl, opened, ?_⟩, kept last (by simp)⟩
      intro later member
      exact kept later (by simp [member])
  · rintro (opened | ⟨⟨before, item, after, rfl, opened, kept⟩, stays⟩)
    · exact ⟨history, last, [], rfl, opened, by simp⟩
    · refine ⟨before, item, after ++ [last], by simp, opened, ?_⟩
      intro later member
      rcases List.mem_append.mp member with inside | final
      · exact kept later inside
      · rw [List.mem_singleton.mp final]
        exact stays

theorem once_iff_since : Once opens history ↔ Since opens (fun _ => False) history := by
  simp [Once, Since]

theorem not_once_nil : ¬ Once opens [] := by
  rw [once_iff_since]
  exact not_since_nil

theorem once_concat : Once opens (history ++ [last]) ↔
    opens history last ∨ Once opens history := by
  simp [once_iff_since, since_concat]

/-- What is open was opened once. -/
theorem Since.once (since : Since opens closes history) : Once opens history := by
  obtain ⟨before, item, after, split, opened, -⟩ := since
  exact ⟨before, item, after, split, opened⟩

/-- An opening that ignores the items before it belongs to some item. -/
theorem once_const {opens : Item → Prop} :
    Once (fun _ => opens) history ↔ ∃ item ∈ history, opens item := by
  constructor
  · rintro ⟨before, item, after, rfl, opened⟩
    exact ⟨item, by simp, opened⟩
  · rintro ⟨item, member, opened⟩
    obtain ⟨before, after, rfl⟩ := List.append_of_mem member
    exact ⟨before, item, after, rfl, opened⟩

end Feo.Foundation
