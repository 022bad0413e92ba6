import Feo.Foundation.Dependency
import Feo.Proof.Dataflow.Move

namespace Feo.Dataflow

open Foundation
open Feo.System (Reached Stepping steps)

variable {deployment : Deployment} {Cell Value State : Type}
  {application : Application ActivityId Cell Value State} {order : List ActivityId}
  {start : Store ActivityId Cell Value State} {flow next : Dataflow deployment Cell Value State}

/-- A running step sees its own cells as they are and the others as in the sequential order. -/
def view (application : Application ActivityId Cell Value State) (id : ActivityId)
    (own others : Cell → Value) (cell : Cell) : Value :=
  if application.owner cell = id then own cell else others cell

theorem view_congr {id : ActivityId} {first second others : Cell → Value}
    (same : ∀ cell, application.owner cell = id → first cell = second cell) :
    view application id first others = view application id second others := by
  funext cell
  unfold view
  split
  · next owned => exact same cell owned
  · rfl

variable [DecidableEq Cell]

theorem view_update {id : ActivityId} {cell : Cell} (owned : application.owner cell = id)
    (own others : Cell → Value) (value : Value) :
    view application id (Function.update own cell value) others =
      Function.update (view application id own others) cell value := by
  funext other
  by_cases same : other = cell
  · subst same
    simp [view, owned]
  · simp [view, Function.update_of_ne same]

/-- The activities perform their steps in the given order, chain after chain. -/
def chains (application : Application ActivityId Cell Value State) (order : List ActivityId)
    (start : Store ActivityId Cell Value State) (count : Nat) :
    Store ActivityId Cell Value State :=
  (application.performAll order)^[count] start

theorem chains_succ (count : Nat) : chains application order start (count + 1) =
    application.performAll order (chains application order start count) :=
  Function.iterate_succ_apply' _ _ _

/-- An activity rests where the sequential order left it, or what is left of its step leads to
the outcome of the sequential step. -/
inductive Follows (application : Application ActivityId Cell Value State)
    (order : List ActivityId) (start : Store ActivityId Cell Value State) (count : Nat)
    (store : Store ActivityId Cell Value State) (id : ActivityId) :
    Option (Program Cell Value State) → Prop where
  | resting (agrees : application.Agrees id store (chains application order start count)) :
      Follows application order start count store id none
  | running {front back : List ActivityId} {program : Program Cell Value State}
      (split : order = front ++ id :: back)
      (confined : program.Confined (application.inputs id) {cell | application.owner cell = id})
      (outcome : program.perform (view application id store.cells
          (application.performAll front (chains application order start count)).cells) =
        (application.step id
          ((application.performAll front (chains application order start count)).states id)).perform
            (application.performAll front (chains application order start count)).cells) :
      Follows application order start count store id (some program)

theorem Follows.congr {count : Nat} {store other : Store ActivityId Cell Value State}
    {id : ActivityId} {program : Option (Program Cell Value State)}
    (follows : Follows application order start count store id program)
    (agrees : application.Agrees id other store) :
    Follows application order start count other id program := by
  cases follows with
  | resting rests => exact .resting (agrees.trans rests)
  | running split confined outcome =>
      refine .running split confined ?_
      rw [view_congr agrees.cells]
      exact outcome

/-- The concurrent steps follow the sequential order. -/
structure Sequential (application : Application ActivityId Cell Value State)
    (order : List ActivityId) (start : Store ActivityId Cell Value State)
    (flow : Dataflow deployment Cell Value State) : Prop where
  located : ∀ id program, flow.programs id = some program →
    ∃ cycle, Stepping flow.system id cycle
  follows : ∀ id, Follows application order start (steps flow.system.log id) flow.store id
    (flow.programs id)

/-- Each input of an activity is written by the activity itself, before its step, or after it. -/
def InputsOrdered (application : Application ActivityId Cell Value State)
    (scheduler : Scheduler) : Prop :=
  ∀ id cell, cell ∈ application.inputs id → application.owner cell = id ∨
    Relation.TransGen scheduler.Depends id (application.owner cell) ∨
    Relation.TransGen scheduler.Depends (application.owner cell) id

/-- The order lists all activities, each one behind those that it depends on. -/
structure Ordering (scheduler : Scheduler) (order : List ActivityId) : Prop where
  linear : Linear scheduler.Depends order
  complete : ∀ id, id ∈ order ↔ id ∈ scheduler.activityDepends.keys

theorem Ordering.closed {scheduler : Scheduler} (ordering : Ordering scheduler order)
    (first second : ActivityId) (edge : scheduler.Depends first second) : second ∈ order :=
  (ordering.complete second).mpr edge.2.1

/-- A running step reads what the sequential step reads. -/
theorem Sequential.input_eq (sequential : Sequential application order start flow)
    (reached : Reached flow.system) (ordering : Ordering deployment.scheduler order)
    (ordered : InputsOrdered application deployment.scheduler) {id : ActivityId}
    {program : Program Cell Value State} (running : flow.programs id = some program)
    {front back : List ActivityId} (split : order = front ++ id :: back) {cell : Cell}
    (member : cell ∈ application.inputs id) :
    view application id flow.store.cells (application.performAll front
      (chains application order start (steps flow.system.log id))).cells cell =
        flow.store.cells cell := by
  obtain ⟨cycle, stepping⟩ := sequential.located id program running
  have count := stepping.steps_eq reached.inOrder reached.recorded reached.chained
    reached.numbered
  have rests (other : ActivityId) (still : ∀ cycle, ¬ Stepping flow.system other cycle) :
      application.Agrees other flow.store
        (chains application order start (steps flow.system.log other)) := by
    have follows := sequential.follows other
    cases left : flow.programs other with
    | none =>
        rw [left] at follows
        cases follows with
        | resting agrees => exact agrees
    | some rest =>
        obtain ⟨later, steps⟩ := sequential.located other rest left
        exact absurd steps (still later)
  subst split
  have linear := ordering.linear
  have apart := (List.nodup_append.mp linear.nodup).2.2
  unfold view
  split
  · rfl
  · next differs =>
      rcases ordered id cell member with same | before | after
      · exact absurd same differs
      · have agrees := rests _ fun later running =>
          stepping.excludes reached.inOrder reached.recorded before running
        rw [reached.steps_of_dependency stepping before, ← count, chains_succ] at agrees
        have inside := linear.front_of_path ordering.closed before differs
        have absent : application.owner cell ∉ id :: back := fun later =>
          apart _ inside _ later rfl
        exact ((Application.agrees_performAll_front absent _).trans agrees.symm).cells cell rfl
      · have agrees := rests _ fun later running =>
          running.excludes reached.inOrder reached.recorded after stepping
        have same : steps flow.system.log (application.owner cell) = steps flow.system.log id := by
          have before := reached.steps_of_dependent stepping after
          omega
        rw [same] at agrees
        have absent := linear.not_front_of_path ordering.closed after
        exact ((Application.agrees_performAll absent _).trans agrees.symm).cells cell rfl

/-- A system step that returns from no step function keeps the sequential order. -/
theorem Sequential.stayed (sequential : Sequential application order start flow)
    (coherent : System.Coherent flow.system) {event : System.Event} {system : System deployment}
    (stepped : flow.system.step event = some system)
    (unreturned : ∀ worker result time, event = .worker worker (.returned result time) →
      ∀ id sent, flow.system.points worker ≠ .call (.step id sent)) :
    (∀ id program, flow.programs id = some program → ∃ cycle, Stepping system id cycle) ∧
      ∀ id, steps system.log id = steps flow.system.log id := by
  refine ⟨fun id program running => ?_, fun id => ?_⟩
  · obtain ⟨cycle, stepping⟩ := sequential.located id program running
    rcases stepping.step stepped with later | ⟨result, time, same⟩
    · exact ⟨cycle, later⟩
    · obtain ⟨sent, calling⟩ := stepping
      exact absurd calling.1 (unreturned _ _ _ same id sent)
  · rcases System.log_of_step coherent stepped with
      ⟨worker, request, result, time, same, calling, log⟩ | ⟨same, -⟩
    · obtain ⟨signal, cycle⟩ := request
      have other : (⟨signal, cycle⟩ : Request).isStep = false := by
        cases signal with
        | step target sent => exact absurd calling.1 (unreturned _ _ _ same target sent)
        | _ => rfl
      rw [log, System.steps_cons, System.stepOf_of_not_step other]
      rfl
    · exact same id

/-- The outcome of a finished program is the store after the sequential step. -/
theorem Follows.finished {count : Nat} {store : Store ActivityId Cell Value State}
    {id : ActivityId} {state : State} (nodup : order.Nodup)
    (follows : Follows application order start count store id (some (.done state))) :
    application.Agrees id { store with states := Function.update store.states id state }
      (chains application order start (count + 1)) := by
  cases follows with
  | @running front back program split confined outcome =>
      subst split
      have absent : id ∉ back := (List.nodup_cons.mp (List.nodup_append.mp nodup).2.1).1
      rw [chains_succ]
      refine Application.Agrees.trans ?_ (Application.agrees_performAll_own absent _).symm
      unfold Application.perform
      rw [← outcome, Program.perform]
      refine ⟨?_, ?_⟩
      · simp
      · exact fun cell owned => (if_pos owned).symm

/-- A program begins where its activity rests. -/
theorem Follows.begin {count : Nat} {store : Store ActivityId Cell Value State}
    {id : ActivityId} (nodup : order.Nodup) (member : id ∈ order)
    (follows : Follows application order start count store id none) :
    Follows application order start count store id
      (some (application.step id (store.states id))) := by
  cases follows with
  | resting agrees =>
      obtain ⟨front, back, split⟩ := List.append_of_mem member
      have absent : id ∉ front := by
        intro inside
        rw [split] at nodup
        exact (List.nodup_append.mp nodup).2.2 id inside id List.mem_cons_self rfl
      have same := agrees.trans
        (Application.agrees_performAll absent (chains application order start count)).symm
      refine .running split (application.confined id _) ?_
      rw [same.state]
      congr 1
      funext cell
      unfold view
      split
      · next owned => exact same.cells cell owned
      · rfl

/-- A program that reads goes on with what the sequential step reads. -/
theorem Follows.loaded {count : Nat} {store : Store ActivityId Cell Value State}
    {id : ActivityId} {cell : Cell} {rest : Value → Program Cell Value State}
    (follows : Follows application order start count store id (some (.read cell rest)))
    (same : ∀ front back, order = front ++ id :: back → cell ∈ application.inputs id →
      view application id store.cells (application.performAll front
        (chains application order start count)).cells cell = store.cells cell) :
    Follows application order start count store id (some (rest (store.cells cell))) := by
  cases follows with
  | @running front back program split confined outcome =>
      cases confined with
      | read member later =>
          refine .running split (later _) ?_
          rw [← outcome, Program.perform, same front back split member]

/-- A program that writes goes on with the cell that the sequential step has written. -/
theorem Follows.stored {count : Nat} {store : Store ActivityId Cell Value State}
    {id : ActivityId} {cell : Cell} {value : Value} {rest : Program Cell Value State}
    (follows : Follows application order start count store id (some (.write cell value rest))) :
    application.owner cell = id ∧
      Follows application order start count
        { store with cells := Function.update store.cells cell value } id (some rest) := by
  cases follows with
  | @running front back program split confined outcome =>
      cases confined with
      | write member later =>
          refine ⟨member, .running split later ?_⟩
          rw [← outcome, Program.perform]
          exact congrArg rest.perform (view_update member _ _ value)

/-- An event of one activity keeps the other activities in the sequential order. -/
theorem Sequential.update (sequential : Sequential application order start flow)
    {id : ActivityId} {program : Option (Program Cell Value State)}
    (programs : next.programs = Function.update flow.programs id program)
    (own : ∀ rest, program = some rest → ∃ cycle, Stepping next.system id cycle)
    (others : ∀ other rest, other ≠ id → flow.programs other = some rest →
      ∃ cycle, Stepping next.system other cycle)
    (count : ∀ other, other ≠ id → steps next.system.log other = steps flow.system.log other)
    (agrees : ∀ other, other ≠ id → application.Agrees other next.store flow.store)
    (follows : Follows application order start (steps next.system.log id) next.store id program) :
    Sequential application order start next where
  located other rest running := by
    rw [programs] at running
    by_cases same : other = id
    · subst same
      rw [Function.update_self] at running
      exact own rest running
    · rw [Function.update_of_ne same] at running
      exact others other rest same running
  follows other := by
    rw [programs]
    by_cases same : other = id
    · subst same
      rw [Function.update_self]
      exact follows
    · rw [Function.update_of_ne same, count other same]
      exact (sequential.follows other).congr (agrees other same)

/-- A called step begins its program. -/
theorem Sequential.entered (sequential : Sequential application order start flow)
    (reached : Reached flow.system) {worker : WorkerId} {result : Except Error (Option Signal)}
    {id : ActivityId} {time : Timestamp} {system : System deployment} (after : Reached system)
    (ordering : Ordering deployment.scheduler order)
    (stepped : flow.system.step (.worker worker (.receive result)) = some system)
    (point : system.points worker = .call (.step id time)) :
    Sequential application order start { flow with
      system := system
      programs := Function.update flow.programs id
        (some (application.step id (flow.store.states id))) } := by
  obtain ⟨located, same⟩ := sequential.stayed reached.inOrder.coherent stepped (by simp)
  obtain ⟨cycle, calling⟩ := after.inOrder.coherent.calling_of_point point
  have route := after.inOrder.coherent.route_eq calling id rfl
  subst route
  have idle : flow.programs id = none := by
    cases running : flow.programs id with
    | none => rfl
    | some program =>
        obtain ⟨earlier, stepping⟩ := sequential.located id program running
        exact absurd stepped stepping.unreceived
  have member : id ∈ order := by
    rw [ordering.complete]
    exact (after.chained.requested id time cycle
      (Stepping.mem_pending after.inOrder.coherent calling)).1
  have follows := sequential.follows id
  rw [idle] at follows
  refine sequential.update rfl (fun _ _ => ⟨cycle, time, calling⟩)
    (fun other rest _ running => located other rest running) (fun other _ => same other)
    (fun other _ => .refl _) ?_
  dsimp only
  rw [same]
  exact follows.begin ordering.linear.nodup member

/-- A finished step leaves the store as the sequential step does. -/
theorem Sequential.left (sequential : Sequential application order start flow)
    (reached : Reached flow.system) (nodup : order.Nodup) {worker : WorkerId}
    {result : Except ActivityError Unit} {id : ActivityId} {time sent : Timestamp} {state : State}
    {system : System deployment}
    (stepped : flow.system.step (.worker worker (.returned result time)) = some system)
    (point : flow.system.points worker = .call (.step id sent))
    (finished : flow.programs id = some (.done state)) :
    Sequential application order start
      { system := system
        store := { flow.store with states := Function.update flow.store.states id state }
        programs := Function.update flow.programs id none } := by
  obtain ⟨cycle, calling⟩ := reached.inOrder.coherent.calling_of_point point
  have log := System.log_of_returned calling stepped
  have count (other : ActivityId) : steps system.log other =
      steps flow.system.log other + if id = other then 1 else 0 := by
    rw [log, System.steps_cons]
    simp [Entry.stepOf]
  have follows := sequential.follows id
  rw [finished] at follows
  refine sequential.update rfl (by simp) ?_ ?_ ?_ ?_
  · intro other rest differs running
    obtain ⟨later, stepping⟩ := sequential.located other rest running
    rcases stepping.step stepped with still | ⟨_, _, same⟩
    · exact ⟨later, still⟩
    · injection same with same
      subst same
      obtain ⟨_, called, -⟩ := stepping
      cases point.symm.trans called
      exact absurd rfl differs
  · intro other differs
    dsimp only
    rw [count, if_neg (Ne.symm differs)]
    rfl
  · exact fun other differs => ⟨Function.update_of_ne differs _ _, fun _ _ => rfl⟩
  · dsimp only
    rw [count, if_pos rfl]
    exact .resting (follows.finished nodup)

/-- Each move follows the sequential order. -/
theorem Move.sequential (move : Move application flow next) (reached : Reached flow.system)
    (after : Reached next.system) (ordering : Ordering deployment.scheduler order)
    (ordered : InputsOrdered application deployment.scheduler)
    (sequential : Sequential application order start flow) :
    Sequential application order start next := by
  cases move with
  | stayed stepped unreturned =>
      obtain ⟨located, same⟩ :=
        sequential.stayed reached.inOrder.coherent stepped unreturned
      refine ⟨located, fun id => ?_⟩
      rw [same]
      exact sequential.follows id
  | entered stepped point => exact sequential.entered reached after ordering stepped point
  | left stepped point finished =>
      exact sequential.left reached ordering.linear.nodup stepped point finished
  | @loaded id cell rest running =>
      have own := sequential.follows id
      rw [running] at own
      refine sequential.update rfl (fun _ _ => sequential.located id _ running)
        (fun other rest _ still => sequential.located other rest still) (fun _ _ => rfl)
        (fun _ _ => .refl _) ?_
      exact own.loaded fun front back split member =>
        sequential.input_eq reached ordering ordered running split member
  | @stored id cell value rest running =>
      have own := sequential.follows id
      rw [running] at own
      obtain ⟨owned, later⟩ := own.stored
      refine sequential.update rfl (fun _ _ => sequential.located id _ running)
        (fun other rest _ still => sequential.located other rest still) (fun _ _ => rfl)
        (fun other differs => ⟨rfl, fun another theirs => ?_⟩) later
      apply Function.update_of_ne
      rintro rfl
      exact differs (theirs.symm.trans owned)

theorem sequential_initial :
    Sequential application order start (initial deployment start) where
  located id program running := by cases running
  follows id := .resting (.refl start)

/-- Every run follows the sequential order. -/
theorem run_follows {events : List Event} (ordering : Ordering deployment.scheduler order)
    (ordered : InputsOrdered application deployment.scheduler)
    (run : (machine deployment application).run (initial deployment start) events = some flow) :
    Sequential application order start flow := by
  refine (machine deployment application).run_induction
    (fun _ flow => Sequential application order start flow) sequential_initial ?_ run
  intro history flow event next before sequential stepped
  have later := (machine deployment application).run_concat_iff.mpr ⟨flow, before, stepped⟩
  obtain ⟨hidden, system⟩ := run_system before
  obtain ⟨extended, moved⟩ := run_system later
  exact (step_move stepped).sequential (System.reached_of_run system)
    (System.reached_of_run moved) ordering ordered sequential

end Feo.Dataflow
