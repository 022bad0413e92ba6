import Mathlib.Data.List.Nodup
import Mathlib.Logic.Function.Basic

namespace Feo.Foundation

/-- A hash map is its keys in one iteration order and their values. -/
structure HashMap (Key Value : Type) where
  keys : List Key
  nodup : keys.Nodup
  value : Key → Value

namespace HashMap

variable {Key Value : Type}

/-- The empty map has a default value for the keys it lacks. -/
def empty [Inhabited Value] : HashMap Key Value := ⟨[], List.nodup_nil, fun _ => default⟩

/-- The entries appear in iteration order. -/
def iter (map : HashMap Key Value) : List (Key × Value) :=
  map.keys.map fun key => (key, map.value key)

def values (map : HashMap Key Value) : List Value := map.keys.map map.value

/-- The update of all values keeps the keys. -/
def mapValues {Other : Type} (map : HashMap Key Value) (f : Value → Other) : HashMap Key Other where
  keys := map.keys
  nodup := map.nodup
  value key := f (map.value key)

@[simp] theorem mapValues_keys {Other : Type} (map : HashMap Key Value) (f : Value → Other) :
    (map.mapValues f).keys = map.keys := rfl

@[simp] theorem mapValues_value {Other : Type} (map : HashMap Key Value) (f : Value → Other)
    (key : Key) : (map.mapValues f).value key = f (map.value key) := rfl

theorem all_values (map : HashMap Key Value) (test : Value → Bool) :
    map.values.all test = true ↔ ∀ key ∈ map.keys, test (map.value key) = true := by
  simp [values]

variable [DecidableEq Key]

def containsKey (map : HashMap Key Value) (key : Key) : Bool := decide (key ∈ map.keys)

/-- A lookup finds exactly the keys of the map. -/
def get? (map : HashMap Key Value) (key : Key) : Option Value :=
  if key ∈ map.keys then some (map.value key) else none

@[simp] theorem containsKey_iff (map : HashMap Key Value) (key : Key) :
    map.containsKey key = true ↔ key ∈ map.keys := by
  simp [containsKey]

theorem get?_eq_some_iff (map : HashMap Key Value) (key : Key) (value : Value) :
    map.get? key = some value ↔ key ∈ map.keys ∧ map.value key = value := by
  unfold get?
  split <;> simp_all

/-- An insertion replaces the value of a present key and appends an absent one. -/
def insert (map : HashMap Key Value) (key : Key) (value : Value) : HashMap Key Value :=
  if present : key ∈ map.keys then
    { map with value := Function.update map.value key value }
  else
    { keys := map.keys ++ [key]
      nodup := map.nodup.append (List.nodup_singleton key) (List.disjoint_singleton.mpr present)
      value := Function.update map.value key value }

@[simp] theorem insert_value (map : HashMap Key Value) (key : Key) (value : Value) :
    (map.insert key value).value = Function.update map.value key value := by
  unfold insert
  split <;> rfl

@[simp] theorem mem_insert_keys (map : HashMap Key Value) (key other : Key) (value : Value) :
    other ∈ (map.insert key value).keys ↔ other = key ∨ other ∈ map.keys := by
  unfold insert
  split
  · next present =>
      constructor
      · exact Or.inr
      · intro either
        rcases either with rfl | member
        · exact present
        · exact member
  · simp only [List.mem_append, List.mem_singleton]
    exact or_comm

/-- A mutable reference changes the value of one present key. -/
def modify (map : HashMap Key Value) (key : Key) (f : Value → Value) : HashMap Key Value where
  keys := map.keys
  nodup := map.nodup
  value := Function.update map.value key (f (map.value key))

@[simp] theorem modify_keys (map : HashMap Key Value) (key : Key) (f : Value → Value) :
    (map.modify key f).keys = map.keys := rfl

@[simp] theorem modify_value_self (map : HashMap Key Value) (key : Key) (f : Value → Value) :
    (map.modify key f).value key = f (map.value key) := by
  simp [modify]

theorem modify_value_of_ne (map : HashMap Key Value) {key other : Key} (f : Value → Value)
    (different : other ≠ key) : (map.modify key f).value other = map.value other := by
  simp [modify, different]

theorem modify_value (map : HashMap Key Value) (key other : Key) (f : Value → Value) :
    (map.modify key f).value other =
      if other = key then f (map.value key) else map.value other := by
  by_cases same : other = key
  · subst same
    simp
  · rw [modify_value_of_ne map f same, if_neg same]

/-- A removal drops the key. -/
def remove (map : HashMap Key Value) (key : Key) : HashMap Key Value where
  keys := map.keys.filter fun other => decide (other ≠ key)
  nodup := map.nodup.filter _
  value := map.value

/-- The retained entries are those that pass the test. -/
def retain (map : HashMap Key Value) (test : Key → Value → Bool) : HashMap Key Value where
  keys := map.keys.filter fun key => test key (map.value key)
  nodup := map.nodup.filter _
  value := map.value

theorem get?_empty [Inhabited Value] (key : Key) :
    (empty : HashMap Key Value).get? key = none := by
  simp [get?, empty]

theorem get?_insert (map : HashMap Key Value) (key other : Key) (value : Value) :
    (map.insert key value).get? other = if other = key then some value else map.get? other := by
  simp only [get?, mem_insert_keys, insert_value]
  by_cases same : other = key
  · subst same
    simp
  · simp [same]

theorem get?_modify (map : HashMap Key Value) (key other : Key) (f : Value → Value) :
    (map.modify key f).get? other =
      if other = key then (map.get? key).map f else map.get? other := by
  simp only [get?, modify_keys, modify_value]
  by_cases same : other = key
  · subst same
    split <;> simp_all
  · simp [same]

theorem get?_remove (map : HashMap Key Value) (key other : Key) :
    (map.remove key).get? other = if other = key then none else map.get? other := by
  simp only [get?, remove, List.mem_filter]
  by_cases same : other = key <;> simp [same]

theorem get?_retain (map : HashMap Key Value) (test : Key → Value → Bool) (key : Key) :
    (map.retain test).get? key = (map.get? key).filter (test key) := by
  simp only [get?, retain, List.mem_filter]
  by_cases present : key ∈ map.keys
  · cases passes : test key (map.value key) <;> simp [present, passes, Option.filter]
  · simp [present]

section Gather

variable {Item : Type} (map : HashMap Key Value) (items : Key → Value → List Item)

/-- The items of all entries are listed in iteration order. -/
def gather (map : HashMap Key Value) (items : Key → Value → List Item) : List Item :=
  map.keys.flatMap fun key => items key (map.value key)

/-- The items of a present key stand before those of the other keys in some order. -/
theorem gather_perm_remove {key : Key} {value : Value} (found : map.get? key = some value) :
    (map.gather items).Perm (items key value ++ (map.remove key).gather items) := by
  obtain ⟨present, rfl⟩ := (map.get?_eq_some_iff key value).mp found
  have others : map.keys.erase key = map.keys.filter fun other => decide (other ≠ key) := by
    rw [map.nodup.erase_eq_filter]
    simp [bne, beq_eq_decide]
  have front := (List.perm_cons_erase present).flatMap_right fun key => items key (map.value key)
  rwa [List.flatMap_cons, others] at front

/-- The absence of a key leaves the other values in place. -/
theorem gather_remove_congr (other : HashMap Key Value) (key : Key)
    (keys : other.keys = map.keys)
    (frame : ∀ kept, kept ≠ key → other.value kept = map.value kept) :
    (other.remove key).gather items = (map.remove key).gather items := by
  unfold gather remove
  simp only [keys]
  apply List.flatMap_congr
  intro kept member
  rw [frame kept (by simpa using (List.mem_filter.mp member).2)]

theorem gather_insert {key : Key} (value : Value) (absent : map.get? key = none) :
    (map.insert key value).gather items = map.gather items ++ items key value := by
  have missing : key ∉ map.keys := by
    intro present
    simp [get?, present] at absent
  have old : map.keys.flatMap (fun kept => items kept (Function.update map.value key value kept)) =
      map.gather items := by
    apply List.flatMap_congr
    intro kept member
    have different : kept ≠ key := by
      rintro rfl
      exact missing member
    rw [Function.update_of_ne different]
  rw [gather, insert_value, insert, dif_neg missing]
  simp only [List.flatMap_append, old]
  simp

/-- More items of one key are more items of the map. -/
theorem gather_modify_perm {key : Key} {value : Value} (f : Value → Value) (more : List Item)
    (found : map.get? key = some value) (grows : items key (f value) = items key value ++ more) :
    ((map.modify key f).gather items).Perm (map.gather items ++ more) := by
  have changed : (map.modify key f).get? key = some (f value) := by
    rw [get?_modify, if_pos rfl, found]
    rfl
  have same := map.gather_remove_congr items (map.modify key f) key rfl
    fun kept different => map.modify_value_of_ne f different
  calc (map.modify key f).gather items
    _ |>.Perm (items key (f value) ++ (map.modify key f |>.remove key).gather items) :=
        gather_perm_remove _ items changed
    _ |>.Perm ((items key value ++ (map.remove key).gather items) ++ more) := by
        rw [grows, same, List.append_assoc, List.append_assoc]
        exact List.Perm.append_left _ List.perm_append_comm
    _ |>.Perm (map.gather items ++ more) :=
        (map.gather_perm_remove items found).symm.append_right more

/-- There are no items exactly when no entry has any. -/
theorem gather_eq_nil_iff : map.gather items = [] ↔
    ∀ key value, map.get? key = some value → items key value = [] := by
  rw [gather, List.flatMap_eq_nil_iff]
  constructor
  · intro none key value found
    obtain ⟨present, rfl⟩ := (map.get?_eq_some_iff key value).mp found
    exact none key present
  · intro none key present
    exact none key _ ((map.get?_eq_some_iff key _).mpr ⟨present, rfl⟩)

end Gather

end HashMap

end Feo.Foundation
