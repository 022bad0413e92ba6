import Mathlib.Data.List.Dedup

namespace Feo.Foundation

/-- A hash set lists its items once in one iteration order. -/
structure HashSet (Item : Type) where
  items : List Item
  nodup : items.Nodup

/-- A set collected from a list has exactly its items in an order of its own. -/
structure Collected {Item : Type} (source : List Item) extends HashSet Item where
  mem_iff : ∀ item, item ∈ items ↔ item ∈ source

/-- One of these orders is that of the last occurrences. -/
def collect {Item : Type} [DecidableEq Item] (source : List Item) : Collected source where
  items := source.dedup
  nodup := source.nodup_dedup
  mem_iff _ := List.mem_dedup

end Feo.Foundation
