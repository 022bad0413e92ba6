import Mathlib.Data.Finset.Card
import Mathlib.Data.List.Count
import Mathlib.Data.List.Induction

namespace Feo.Foundation

variable {Item Key : Type}

/-- The item at the index has the key. -/
def KeyAt (key? : Item → Option Key) (items : List Item) (index : Nat) (key : Key) : Prop :=
  items[index]?.bind key? = some key

/-- Each answer of a list matches a distinct earlier request with the same key. -/
def Answers (request? answer? : Item → Option Key) (items : List Item) : Prop :=
  ∃ request : Nat → Nat,
    (∀ index key, KeyAt answer? items index key →
      request index < index ∧ KeyAt request? items (request index) key) ∧
    ∀ first second firstKey secondKey, KeyAt answer? items first firstKey →
      KeyAt answer? items second secondKey → request first = request second → first = second

theorem KeyAt.lt_length {key? : Item → Option Key} {items : List Item} {index : Nat} {key : Key}
    (found : KeyAt key? items index key) : index < items.length := by
  obtain ⟨item, present, -⟩ := Option.bind_eq_some_iff.mp found
  exact (List.getElem?_eq_some_iff.mp present).1

/-- The requests of a given list are matched by evaluation. -/
theorem answers_of_request {request? answer? : Item → Option Key} {items : List Item}
    (request : Nat → Nat)
    (earlier : ∀ index < items.length, ∀ key ∈ items[index]?.bind answer?,
      request index < index ∧ items[request index]?.bind request? = some key)
    (distinct : ∀ first < items.length, ∀ second < items.length,
      (items[first]?.bind answer?).isSome → (items[second]?.bind answer?).isSome →
        request first = request second → first = second) :
    Answers request? answer? items := by
  refine ⟨request, ?_, ?_⟩
  · intro index key found
    exact earlier index found.lt_length key found
  · intro first second firstKey secondKey found other same
    exact distinct first found.lt_length second other.lt_length
      (Option.isSome_of_mem found) (Option.isSome_of_mem other) same

theorem keyAt_append_left {key? : Item → Option Key} {front back : List Item} {index : Nat}
    (inside : index < front.length) (key : Key) :
    KeyAt key? (front ++ back) index key ↔ KeyAt key? front index key := by
  rw [KeyAt, KeyAt, List.getElem?_append_left inside]

/-- The matching of a longer list also matches its front. -/
theorem Answers.of_append {request? answer? : Item → Option Key} {front back : List Item}
    (answers : Answers request? answer? (front ++ back)) : Answers request? answer? front := by
  obtain ⟨request, earlier, distinct⟩ := answers
  refine ⟨request, ?_, ?_⟩
  · intro index key found
    have inside := found.lt_length
    obtain ⟨before, asked⟩ := earlier index key ((keyAt_append_left inside key).mpr found)
    exact ⟨before, (keyAt_append_left (before.trans inside) key).mp asked⟩
  · intro first second firstKey secondKey firstFound secondFound
    exact distinct first second firstKey secondKey
      ((keyAt_append_left firstFound.lt_length _).mpr firstFound)
      ((keyAt_append_left secondFound.lt_length _).mpr secondFound)

variable [DecidableEq Key]

/-- These are the indices of the items with the key. -/
def indices (key? : Item → Option Key) (items : List Item) (key : Key) : Finset Nat :=
  (Finset.range items.length).filter fun index => items[index]?.bind key? = some key

theorem mem_indices {key? : Item → Option Key} {items : List Item} {key : Key} {index : Nat} :
    index ∈ indices key? items key ↔ KeyAt key? items index key := by
  rw [indices, Finset.mem_filter, Finset.mem_range]
  exact ⟨fun both => both.2, fun found => ⟨found.lt_length, found⟩⟩

/-- The items with the key are counted by their indices. -/
theorem card_indices (key? : Item → Option Key) (items : List Item) (key : Key) :
    (indices key? items key).card = (items.filterMap key?).count key := by
  induction items using List.reverseRecOn with
  | nil => rfl
  | append_singleton items item hypothesis =>
      have front : (Finset.range items.length).filter
          (fun index => (items ++ [item])[index]?.bind key? = some key) =
            indices key? items key := by
        refine Finset.filter_congr fun index member => ?_
        rw [List.getElem?_append_left (Finset.mem_range.mp member)]
      rw [indices, List.length_append, List.length_singleton, Finset.range_add_one,
        Finset.filter_insert, front, List.getElem?_concat_length, List.filterMap_append,
        List.count_append, ← hypothesis]
      have fresh : items.length ∉ indices key? items key := fun member =>
        Nat.lt_irrefl _ (mem_indices.mp member).lt_length
      cases found : key? item with
      | none => simp [found]
      | some other =>
          by_cases same : other = key
          · simp [found, same, Finset.card_insert_of_notMem fresh]
          · simp [found, same]

/-- There are at most as many answers with a key as requests with this key. -/
theorem Answers.count_le {request? answer? : Item → Option Key} {items : List Item}
    (answers : Answers request? answer? items) (key : Key) :
    (items.filterMap answer?).count key ≤ (items.filterMap request?).count key := by
  obtain ⟨request, earlier, distinct⟩ := answers
  rw [← card_indices, ← card_indices]
  refine Finset.card_le_card_of_injOn request ?_ ?_
  · intro index member
    exact mem_indices.mpr (earlier index key (mem_indices.mp member)).2
  · intro first firstMember second secondMember same
    exact distinct first second key key (mem_indices.mp firstMember)
      (mem_indices.mp secondMember) same

end Feo.Foundation
