import Feo.Construction.Time

namespace Feo.MwCom

/-- A poll of the receiving future is pending, or it ends with a batch of samples or an error. -/
inductive ReceiveAnswer (Sample : Type) where
  | pending
  | ready (batch : List Sample)
  | failed (error : String)

/-- A poll of the stream is pending, or it is ready with a sample. -/
inductive Poll (Sample : Type) where
  | pending
  | ready (sample : Sample)

/-- The receiving future owns the sample container and the requested numbers of samples. -/
structure ReceiveFuture (Sample : Type) where
  container : List Sample
  newSamples : Nat
  maxSamples : Nat

/-- The capacity is that of the vector of the received samples. -/
structure SubscriptionStream (Sample : Type) where
  sampleContainer : Option (List Sample)
  future : Option (ReceiveFuture Sample)
  received : List Sample
  capacity : Nat

namespace SubscriptionStream

variable {Sample : Type}

/-- A new stream has an empty container, and the vector has at least the given capacity. -/
def new (capacity : Nat) : SubscriptionStream Sample := ⟨some [], none, [], capacity⟩

/-- Each sample is taken from the front of the container and inserted at the front. -/
def insertFront : Nat → List Sample → List Sample → Panicking (List Sample × List Sample)
  | 0, container, received => .ok (container, received)
  | _ + 1, [], _ => .error "called Option::unwrap() on a None value"
  | count + 1, sample :: container, received => insertFront count container (sample :: received)

/-- The samples of the container are received, and the container is free for the next call. -/
def receive (stream : SubscriptionStream Sample) (container : List Sample) :
    Panicking (SubscriptionStream Sample) :=
  if container.length = 0 then
    .error "assertion failed: sample_container.sample_count() > 0"
  else if stream.capacity < container.length + stream.received.length then
    .error "must not allocate, configuration error"
  else do
    let (rest, received) ← insertFront container.length container stream.received
    return { stream with sampleContainer := some rest, future := none, received := received }

end SubscriptionStream

end Feo.MwCom
