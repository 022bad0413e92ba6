import Mathlib.Algebra.GroupWithZero.Nat
import Mathlib.Data.Finset.Card
import Mathlib.Data.Fintype.Basic
import Mathlib.Data.List.Count
import Mathlib.Data.List.ProdSigma

namespace Feo.Foundation

variable {Item : Type} {items : List Item} {item : Item}

/-- A change at one of some distinct items changes their sum as much as its own number. -/
theorem sum_change (before after : Item → Nat) (distinct : items.Nodup) (member : item ∈ items)
    (frame : ∀ other, other ≠ item → after other = before other) :
    (items.map after).sum + before item = (items.map before).sum + after item := by
  induction items with
  | nil => cases member
  | cons first rest hypothesis =>
      obtain ⟨absent, distinct⟩ := List.nodup_cons.mp distinct
      simp only [List.map_cons, List.sum_cons]
      rcases List.mem_cons.mp member with rfl | inside
      · have same : rest.map after = rest.map before := by
          apply List.map_congr_left
          intro other inside
          exact frame other fun same => absent (same ▸ inside)
        rw [same]
        omega
      · have differs : first ≠ item := fun same => absent (same ▸ inside)
        have rest := hypothesis distinct inside
        rw [frame first differs]
        omega

/-- Each item that passes the test counts one. -/
theorem countP_eq_sum (test : Item → Bool) :
    items.countP test = (items.map fun item => (test item).toNat).sum := by
  induction items with
  | nil => rfl
  | cons first rest hypothesis =>
      rw [List.countP_cons, hypothesis, List.map_cons, List.sum_cons, Nat.add_comm]
      cases test first <;> rfl

/-- A change at one of some distinct items changes their count by one at most. -/
theorem countP_change (before after : Item → Bool) (distinct : items.Nodup)
    (member : item ∈ items)
    (frame : ∀ other, other ≠ item → after other = before other) :
    items.countP after + (before item).toNat = items.countP before + (after item).toNat := by
  rw [countP_eq_sum, countP_eq_sum]
  apply sum_change (fun item => (before item).toNat) (fun item => (after item).toNat) distinct
    member
  intro other different
  rw [frame other different]

/-- The items of number zero fill up the sum, and the items of a higher number exceed it. -/
theorem sum_add_countP_zero (items : List Item) (number : Item → Nat) :
    (items.map number).sum + items.countP (fun item => number item == 0) =
      items.length + (items.map fun item => number item - 1).sum := by
  induction items with
  | nil => rfl
  | cons first rest hypothesis =>
      simp only [List.map_cons, List.sum_cons, List.countP_cons, List.length_cons, beq_iff_eq]
      split <;> omega

/-- A sum over the pairs of two lists adds up the second list for each item of the first. -/
theorem sum_product {Other : Type} (others : List Other) (number : Item × Other → Nat) :
    ((items ×ˢ others).map number).sum =
      (items.map fun item => (others.map fun other => number (item, other)).sum).sum := by
  induction items with
  | nil => rfl
  | cons item rest hypothesis =>
      rw [List.product_cons, List.map_append, List.sum_append, List.map_map, hypothesis,
        List.map_cons, List.sum_cons]
      rfl

/-- Two tests that no item passes both count the items that pass one of them. -/
theorem countP_or_exclusive (first second : Item → Bool)
    (exclusive : ∀ item, first item = true → second item = false) :
    items.countP (fun item => first item || second item) =
      items.countP first + items.countP second := by
  induction items with
  | nil => rfl
  | cons item rest hypothesis =>
      simp only [List.countP_cons, hypothesis]
      cases passes : first item with
      | true =>
          rw [exclusive item passes]
          simp only [Bool.or_false, if_true, Bool.false_eq_true, if_false]
          omega
      | false => simp [Nat.add_assoc]

/-- The tests of distinct groups that share no item count each item once. -/
theorem countP_any_exclusive {Group : Type} {groups : List Group} (test : Group → Item → Bool)
    (distinct : groups.Nodup)
    (exclusive : ∀ first ∈ groups, ∀ second ∈ groups, ∀ item, test first item = true →
      test second item = true → first = second) :
    items.countP (fun item => groups.any fun group => test group item) =
      (groups.map fun group => items.countP (test group)).sum := by
  induction groups with
  | nil => simp
  | cons group rest hypothesis =>
      obtain ⟨absent, distinct⟩ := List.nodup_cons.mp distinct
      have others := hypothesis distinct fun first inside second within =>
        exclusive first (List.mem_cons_of_mem group inside) second
          (List.mem_cons_of_mem group within)
      simp only [List.any_cons, List.map_cons, List.sum_cons, ← others]
      apply countP_or_exclusive
      intro item passes
      rw [List.any_eq_false]
      intro other inside both
      have same := exclusive group List.mem_cons_self other (List.mem_cons_of_mem group inside)
        item passes both
      exact absent (same ▸ inside)

/-- An item outside of the count leaves room for it. -/
theorem countP_room (counts : Item → Bool) (member : item ∈ items) :
    items.countP counts + (!counts item).toNat ≤ items.length := by
  cases counted : counts item with
  | true => exact List.countP_le_length
  | false => exact List.countP_lt_length_iff.mpr ⟨item, member, counted⟩

section Finite

variable [Fintype Item] [DecidableEq Item]

/-- An item counts if it passes the test. -/
theorem card_filter_erase (test : Item → Bool) (item : Item) :
    (Finset.univ.filter fun other => test other).card =
      ((Finset.univ.filter fun other => test other).erase item).card + (test item).toNat := by
  cases passes : test item with
  | false =>
      rw [Finset.erase_eq_of_notMem (by simp [passes])]
      rfl
  | true => exact (Finset.card_erase_add_one (by simp [passes])).symm

/-- A change at one item changes the number of the items that pass a test by one at most. -/
theorem card_filter_change (before after : Item → Bool) (item : Item)
    (frame : ∀ other, other ≠ item → after other = before other) :
    (Finset.univ.filter fun other => after other).card + (before item).toNat =
      (Finset.univ.filter fun other => before other).card + (after item).toNat := by
  have others : (Finset.univ.filter fun other => after other).erase item =
      (Finset.univ.filter fun other => before other).erase item := by
    ext other
    by_cases same : other = item
    · simp [same]
    · simp [same, frame other same]
  rw [card_filter_erase after item, card_filter_erase before item, others]
  omega

end Finite

end Feo.Foundation
