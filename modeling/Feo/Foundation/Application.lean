import Feo.Foundation.Program

namespace Feo.Foundation

variable {Member Cell Value State : Type}

/-- Each member brings its step, and each cell is written by one member. -/
structure Application (Member Cell Value State : Type) where
  owner : Cell → Member
  inputs : Member → Set Cell
  step : Member → State → Program Cell Value State
  confined : ∀ member state,
    (step member state).Confined (inputs member) {cell | owner cell = member}

/-- A store holds the state of each member and the value of each cell. -/
@[ext] structure Store (Member Cell Value State : Type) where
  states : Member → State
  cells : Cell → Value

namespace Application

variable {application : Application Member Cell Value State} {member : Member}
  {first second third : Store Member Cell Value State}

/-- Two stores agree on a member if they agree on its state and on its cells. -/
structure Agrees (application : Application Member Cell Value State) (member : Member)
    (first second : Store Member Cell Value State) : Prop where
  state : first.states member = second.states member
  cells : ∀ cell, application.owner cell = member → first.cells cell = second.cells cell

theorem Agrees.refl (store : Store Member Cell Value State) :
    application.Agrees member store store := ⟨rfl, fun _ _ => rfl⟩

theorem Agrees.symm (agrees : application.Agrees member first second) :
    application.Agrees member second first :=
  ⟨agrees.state.symm, fun cell owned => (agrees.cells cell owned).symm⟩

theorem Agrees.trans (left : application.Agrees member first second)
    (right : application.Agrees member second third) :
    application.Agrees member first third :=
  ⟨left.state.trans right.state,
    fun cell owned => (left.cells cell owned).trans (right.cells cell owned)⟩

/-- Stores that agree on all members are equal. -/
theorem eq_of_agrees (agrees : ∀ member, application.Agrees member first second) :
    first = second := by
  apply Store.ext
  · funext member
    exact (agrees member).state
  · funext cell
    exact (agrees (application.owner cell)).cells cell rfl

variable [DecidableEq Member] [DecidableEq Cell]

/-- A member performs its whole step without an interruption. -/
def perform (application : Application Member Cell Value State)
    (store : Store Member Cell Value State) (member : Member) :
    Store Member Cell Value State :=
  let outcome := (application.step member (store.states member)).perform store.cells
  ⟨Function.update store.states member outcome.1, outcome.2⟩

/-- The members perform their steps one after the other. -/
def performAll (application : Application Member Cell Value State) (order : List Member)
    (store : Store Member Cell Value State) : Store Member Cell Value State :=
  order.foldl application.perform store

/-- A step leaves the other members as they are. -/
theorem agrees_perform (store : Store Member Cell Value State) {other : Member}
    (differs : member ≠ other) :
    application.Agrees member (application.perform store other) store where
  state := Function.update_of_ne differs _ _
  cells cell owned := by
    apply (application.confined other (store.states other)).frame
    intro same
    exact differs (owned.symm.trans same)

/-- The steps of other members leave a member as it is. -/
theorem agrees_performAll {order : List Member} (absent : member ∉ order)
    (store : Store Member Cell Value State) :
    application.Agrees member (application.performAll order store) store := by
  induction order generalizing store with
  | nil => exact .refl store
  | cons other rest ih =>
      rw [List.mem_cons, not_or] at absent
      exact (ih absent.2 (application.perform store other)).trans
        (agrees_perform store absent.1)

theorem performAll_append (front back : List Member) (store : Store Member Cell Value State) :
    application.performAll (front ++ back) store =
      application.performAll back (application.performAll front store) :=
  List.foldl_append

theorem performAll_cons (member : Member) (rest : List Member)
    (store : Store Member Cell Value State) :
    application.performAll (member :: rest) store =
      application.performAll rest (application.perform store member) := rfl

/-- After all steps a member is as its own step left it. -/
theorem agrees_performAll_own {front back : List Member} (absent : member ∉ back)
    (store : Store Member Cell Value State) :
    application.Agrees member (application.performAll (front ++ member :: back) store)
      (application.perform (application.performAll front store) member) := by
  rw [performAll_append, performAll_cons]
  exact agrees_performAll absent _

/-- A member that has stepped is as after all steps. -/
theorem agrees_performAll_front {front back : List Member} (absent : member ∉ back)
    (store : Store Member Cell Value State) :
    application.Agrees member (application.performAll front store)
      (application.performAll (front ++ back) store) := by
  rw [performAll_append]
  exact (agrees_performAll absent _).symm

end Application

end Feo.Foundation
