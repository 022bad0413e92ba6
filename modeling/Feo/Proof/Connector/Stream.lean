import Feo.Construction.Connector.Stream

namespace Feo.MwCom

variable {Sample : Type}

/-- The answer delivers the samples of its batch. -/
def ReceiveAnswer.delivered : ReceiveAnswer Sample → List Sample
  | ready batch => batch
  | _ => []

/-- The poll returns its sample. -/
def Poll.returned : Poll Sample → List Sample
  | ready sample => [sample]
  | pending => []

namespace SubscriptionStream

/-- The empty container is either free or in the pending future. -/
structure Sound (stream : SubscriptionStream Sample) : Prop where
  container : stream.future = none ∧ stream.sampleContainer = some [] ∨
    stream.sampleContainer = none ∧ stream.future = some ⟨[], 1, stream.capacity⟩

/-- The container is in the pending future. -/
def held (stream : SubscriptionStream Sample) : SubscriptionStream Sample :=
  { stream with sampleContainer := none, future := some ⟨[], 1, stream.capacity⟩ }

@[simp] theorem held_capacity (stream : SubscriptionStream Sample) :
    stream.held.capacity = stream.capacity := rfl

/-- The container is free, and these samples are received. -/
def filled (stream : SubscriptionStream Sample) (received : List Sample) :
    SubscriptionStream Sample :=
  { stream with sampleContainer := some [], future := none, received := received }

end SubscriptionStream

end Feo.MwCom
