import Mathlib.Data.List.Sort

namespace Feo

/-- The marker makes distinct ID types not interchangeable. -/
@[ext] structure GenericId (Marker : Type) where
  id : UInt64

instance {Marker : Type} : DecidableEq (GenericId Marker) := fun first second =>
  decidable_of_iff (first.id = second.id) GenericId.ext_iff.symm

instance {Marker : Type} : LawfulBEq (GenericId Marker) := inferInstance

instance {Marker : Type} : Inhabited (GenericId Marker) := ⟨⟨0⟩⟩

theorem GenericId.nodup_one {Marker : Type} : [(⟨1⟩ : GenericId Marker)].Nodup :=
  List.nodup_singleton _

theorem GenericId.nodup_two {Marker : Type} : [(⟨1⟩ : GenericId Marker), ⟨2⟩].Nodup := by
  simp

inductive ActivityIdMarker
inductive AgentIdMarker
inductive WorkerIdMarker
inductive RelayIdMarker

/-- Identifies an activity. -/
abbrev ActivityId := GenericId ActivityIdMarker

/-- Identifies an agent, which is one process. -/
abbrev AgentId := GenericId AgentIdMarker

/-- Identifies a worker. -/
abbrev WorkerId := GenericId WorkerIdMarker

/-- Identifies a signalling relay. -/
abbrev RelayId := GenericId RelayIdMarker

/-- Identifies a communication channel peer. -/
inductive ChannelId where
  | activity (id : ActivityId)
  | agent (id : AgentId)
  | worker (id : WorkerId)
  | relay (id : RelayId)
deriving DecidableEq

/-- The derived order compares the numbers. -/
def GenericId.le {Marker : Type} (first second : GenericId Marker) : Bool :=
  decide (first.id ≤ second.id)

/-- This is the order in which a sorted vector or a `BTreeSet` lists identifiers. -/
def sortIds {Marker : Type} (ids : List (GenericId Marker)) : List (GenericId Marker) :=
  ids.insertionSort fun first second => first.le second = true

theorem sortIds_perm {Marker : Type} (ids : List (GenericId Marker)) :
    (sortIds ids).Perm ids := List.perm_insertionSort _ ids

@[simp] theorem mem_sortIds {Marker : Type} (ids : List (GenericId Marker))
    (id : GenericId Marker) : id ∈ sortIds ids ↔ id ∈ ids := (sortIds_perm ids).mem_iff

theorem sortIds_nodup {Marker : Type} {ids : List (GenericId Marker)} (distinct : ids.Nodup) :
    (sortIds ids).Nodup := (sortIds_perm ids).nodup_iff.mpr distinct

@[simp] theorem sortIds_length {Marker : Type} (ids : List (GenericId Marker)) :
    (sortIds ids).length = ids.length := (sortIds_perm ids).length_eq

end Feo
