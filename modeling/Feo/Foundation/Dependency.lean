import Mathlib.Data.Set.Finite.List
import Mathlib.Logic.Relation
import Mathlib.Order.WellFounded

namespace Feo.Foundation

variable {Item : Type} {depends : Item → Item → Prop}

/-- Among finitely many items without cyclic dependencies one depends on none of the others. -/
theorem exists_independent (acyclic : ∀ item, ¬ Relation.TransGen depends item item)
    {items : List Item} (nonempty : items ≠ []) :
    ∃ item ∈ items, ∀ other ∈ items, ¬ depends item other := by
  let below (first second : {item // item ∈ items}) : Prop :=
    Relation.TransGen depends second.val first.val
  have transitive : IsTrans _ below := ⟨fun _ _ _ first second => second.trans first⟩
  have irreflexive : Std.Irrefl below := ⟨fun item => acyclic item.val⟩
  have finite : Finite {item // item ∈ items} := List.finite_toSet items
  have wellFounded : WellFounded below := Finite.wellFounded_of_trans_of_irrefl below
  obtain ⟨first, member⟩ := List.exists_mem_of_ne_nil items nonempty
  obtain ⟨minimal, -, least⟩ := wellFounded.has_min Set.univ ⟨⟨first, member⟩, trivial⟩
  refine ⟨minimal.val, minimal.property, ?_⟩
  intro other inside edge
  exact least ⟨other, inside⟩ trivial (.single edge)

/-- An item that leads to a cycle depends on an item that leads to the same cycle. -/
theorem exists_dependency_of_cycle {item target : Item}
    (path : Relation.ReflTransGen depends item target)
    (cycle : Relation.TransGen depends target target) :
    ∃ other, depends item other ∧ Relation.ReflTransGen depends other target := by
  rcases path.cases_head with same | ⟨other, edge, rest⟩
  · subst same
    obtain ⟨other, edge, rest⟩ := Relation.TransGen.head'_iff.mp cycle
    exact ⟨other, edge, rest⟩
  · exact ⟨other, edge, rest⟩

/-- An order without repetitions has no item before one that it depends on. -/
structure Linear (depends : Item → Item → Prop) (order : List Item) : Prop where
  nodup : order.Nodup
  later : order.Pairwise fun first second => ¬ depends first second

/-- What an item depends on stands in front of it. -/
theorem Linear.front_of_path {front back : List Item} {item other : Item}
    (linear : Linear depends (front ++ item :: back))
    (closed : ∀ first second, depends first second → second ∈ front ++ item :: back)
    (path : Relation.TransGen depends item other) (differs : other ≠ item) : other ∈ front := by
  obtain ⟨-, own, across⟩ := List.pairwise_append.mp linear.later
  obtain ⟨behind, -⟩ := List.pairwise_cons.mp own
  have step {first second : Item} (edge : depends first second)
      (early : first = item ∨ first ∈ front) : second = item ∨ second ∈ front := by
    have member := closed first second edge
    rw [List.mem_append, List.mem_cons] at member
    rcases member with inside | same | late
    · exact .inr inside
    · exact .inl same
    · rcases early with rfl | early
      · exact absurd edge (behind second late)
      · exact absurd edge (across first early second (List.mem_cons_of_mem _ late))
  have reached : other = item ∨ other ∈ front := by
    clear differs
    induction path with
    | single edge => exact step edge (.inl rfl)
    | tail path edge hypothesis => exact step edge hypothesis
  exact reached.resolve_left differs

/-- An item in front of another one does not depend on it. -/
theorem Linear.not_front_of_path {front back : List Item} {item other : Item}
    (linear : Linear depends (front ++ item :: back))
    (closed : ∀ first second, depends first second → second ∈ front ++ item :: back)
    (path : Relation.TransGen depends other item) : other ∉ front := by
  intro inside
  obtain ⟨early, late, rfl⟩ := List.append_of_mem inside
  have split : early ++ other :: late ++ item :: back =
      early ++ other :: (late ++ item :: back) := by
    rw [List.append_assoc, List.cons_append]
  have distinct := linear.nodup
  rw [split] at linear closed distinct
  have apart := List.nodup_append.mp distinct
  have differs : item ≠ other := by
    rintro rfl
    exact (List.nodup_cons.mp apart.2.1).1 (List.mem_append_right _ List.mem_cons_self)
  have member := linear.front_of_path closed path differs
  apply apart.2.2 item member item _ rfl
  exact List.mem_cons_of_mem _ (List.mem_append_right _ List.mem_cons_self)

/-- Finitely many items without cyclic dependencies have a linear order. -/
theorem exists_linear (acyclic : ∀ item, ¬ Relation.TransGen depends item item)
    {items : List Item} (nodup : items.Nodup) :
    ∃ order, order.Perm items ∧ Linear depends order := by
  classical
  induction size : items.length generalizing items with
  | zero =>
      rw [List.length_eq_zero_iff] at size
      exact ⟨[], by rw [size], List.nodup_nil, List.Pairwise.nil⟩
  | succ count hypothesis =>
      have nonempty : items ≠ [] := by
        rintro rfl
        cases size
      obtain ⟨first, member, free⟩ := exists_independent acyclic nonempty
      have fewer : (items.erase first).length = count := by
        rw [List.length_erase_of_mem member, size, Nat.add_sub_cancel]
      obtain ⟨order, perm, linear⟩ := hypothesis (nodup.erase first) fewer
      have whole : (first :: order).Perm items :=
        (perm.cons first).trans (List.perm_cons_erase member).symm
      refine ⟨first :: order, whole, whole.nodup_iff.mpr nodup, ?_⟩
      refine List.pairwise_cons.mpr ⟨fun other inside => ?_, linear.later⟩
      exact free other (List.mem_of_mem_erase (perm.subset inside))

end Feo.Foundation
