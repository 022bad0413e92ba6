import Feo.Foundation.Machine
import Mathlib.Data.List.Count

namespace Feo.Foundation.Machine

variable {State Event : Type} {machine : Machine State Event}

/-- The counted events of a run are paid by the potential that it spends and the credit that it
earns, if each state before an allowed one is allowed. -/
theorem run_amortized (counted : Event → Bool) (potential credit : State → Nat)
    (allowed : List Event → State → Prop) {start final : State} {history : List Event}
    (earlier : ∀ before event state next, machine.run start before = some state →
      machine.step state event = some next → allowed (before ++ [event]) next →
        allowed before state)
    (paid : ∀ before event state next, machine.run start before = some state →
      machine.step state event = some next → allowed (before ++ [event]) next →
        (counted event).toNat + potential next + credit state ≤ potential state + credit next)
    (reached : machine.run start history = some final) (permitted : allowed history final) :
    history.countP counted + potential final + credit start ≤ potential start + credit final := by
  refine machine.run_induction (fun history state => allowed history state →
    history.countP counted + potential state + credit start ≤ potential start + credit state)
    (fun _ => by simp) ?_ reached permitted
  intro before state event next run hypothesis stepped permitted
  have spent := hypothesis (earlier before event state next run stepped permitted)
  have step := paid before event state next run stepped permitted
  have last : [event].countP counted = (counted event).toNat := by
    rw [List.countP_singleton]
    cases counted event <;> rfl
  rw [List.countP_append, last]
  omega

end Feo.Foundation.Machine
