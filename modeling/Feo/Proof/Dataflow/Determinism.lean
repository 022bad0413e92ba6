import Feo.Proof.Dataflow.Sequential

namespace Feo

open Foundation

namespace Dataflow

open Feo.System (Reached Stepping steps)

variable {deployment : Deployment} {Cell Value State : Type} [DecidableEq Cell]
  {application : Application ActivityId Cell Value State} {order : List ActivityId}
  {start : Store ActivityId Cell Value State} {flow : Dataflow deployment Cell Value State}

/-- The chains leave a member alone that is no activity. -/
theorem agrees_chains {id : ActivityId} (absent : id ∉ order) (count : Nat) :
    application.Agrees id (chains application order start count) start := by
  induction count with
  | zero => exact .refl start
  | succ count hypothesis =>
      rw [chains_succ]
      exact (Application.agrees_performAll absent _).trans hypothesis

/-- An activity rests where its number of sequential chains leaves it. -/
theorem Sequential.rests (sequential : Sequential application order start flow)
    {id : ActivityId} (resting : flow.programs id = none) :
    application.Agrees id flow.store
      (chains application order start (steps flow.system.log id)) := by
  have follows := sequential.follows id
  rw [resting] at follows
  cases follows with
  | resting agrees => exact agrees

/-- At the end of a chain the store is the one after as many sequential chains. -/
theorem Sequential.ended (sequential : Sequential application order start flow)
    (reached : Reached flow.system) (scanning : Scheduler.Scanning flow.system.execution)
    (ordering : Ordering deployment.scheduler order)
    (ended : flow.system.execution.point.chainEnded = true) :
    flow.store = chains application order start flow.system.execution.cycle := by
  obtain ⟨positive, idle, returned⟩ := reached.ended scanning ended
  apply Application.eq_of_agrees
  intro id
  have resting : flow.programs id = none := by
    cases running : flow.programs id with
    | none => rfl
    | some program =>
        obtain ⟨cycle, stepping⟩ := sequential.located id program running
        exact absurd stepping (idle id cycle)
  have agrees := sequential.rests resting
  by_cases known : id ∈ deployment.scheduler.activityDepends.keys
  · obtain ⟨time, stepped⟩ := returned id known
    have bound := (reached.numbered.bound id time _ _ stepped).2
    rw [Nat.le_antisymm (reached.steps_le id) bound] at agrees
    exact agrees
  · rw [← ordering.complete] at known
    exact agrees.trans ((agrees_chains known _).trans (agrees_chains known _).symm)

/-- Every run has the data of the sequential order: an activity that rests is as after its number
of sequential chains, and so is the whole store at the end of a task chain. -/
theorem run_sequential (deployment : Deployment)
    (application : Application ActivityId Cell Value State) (order : List ActivityId)
    (start : Store ActivityId Cell Value State) (ordering : Ordering deployment.scheduler order)
    (ordered : InputsOrdered application deployment.scheduler) (events : List Event)
    (flow : Dataflow deployment Cell Value State)
    (run : (machine deployment application).run (initial deployment start) events = some flow) :
    (∀ id, flow.programs id = none → application.Agrees id flow.store
      ((application.performAll order)^[steps flow.system.log id] start)) ∧
      (flow.system.execution.point.chainEnded = true →
        flow.store = (application.performAll order)^[flow.system.execution.cycle] start) := by
  obtain ⟨hidden, system⟩ := run_system run
  have sequential := run_follows ordering ordered run
  refine ⟨fun id resting => sequential.rests resting, fun ended => ?_⟩
  exact sequential.ended (System.reached_of_run system)
    (Scheduler.run_scanning (System.run_calls system)) ordering ended

/-- The second activity depends on the first one. -/
def doublingScheduler (keys : List ActivityId) (nodup : keys.Nodup) : Scheduler where
  agentId := ⟨1⟩
  cycleTime := Duration.zero
  receiveTimeout := Duration.zero
  startupTimeout := Duration.zero
  activityDepends :=
    { keys := keys, nodup := nodup, value := fun id => if id = ⟨2⟩ then [⟨1⟩] else [] }

/-- Each activity has a worker of its own. -/
def apart : Deployment where
  scheduler := doublingScheduler [⟨1⟩, ⟨2⟩] GenericId.nodup_two
  workers id := ⟨id, ⟨1⟩, [⟨id.id⟩]⟩
  route id := ⟨id.id⟩

/-- The first activity counts, and the second one doubles the count. -/
def doubling : Application ActivityId Bool Nat Unit where
  owner cell := if cell then ⟨2⟩ else ⟨1⟩
  inputs id := {cell | cell = false ∧ (id = ⟨1⟩ ∨ id = ⟨2⟩)}
  step id _ :=
    if id = ⟨1⟩ then .read false fun count => .write false (count + 1) (.done ())
    else if id = ⟨2⟩ then .read false fun count => .write true (2 * count) (.done ())
    else .done ()
  confined id _ := by
    split
    · next same => exact .read ⟨rfl, .inl same⟩ fun _ => .write same.symm (.done ())
    · split
      · next same => exact .read ⟨rfl, .inr same⟩ fun _ => .write same.symm (.done ())
      · exact .done ()

/-- The worker of an activity performs one request and its accesses. -/
def performed (worker : WorkerId) (id : ActivityId) (signal : Signal) (accesses : Nat) :
    List Event :=
  [.system (.send id signal), .system (.worker worker (.receive (.ok (some signal))))] ++
    List.replicate accesses (.access id) ++
  [.system (.worker worker (.returned (.ok ()) ⟨Duration.zero⟩)),
    .system (.worker worker (.sendToScheduler (.ready id ⟨Duration.zero⟩) (.ok ())))]

/-- The scheduler receives the answer of an activity. -/
def received (worker : WorkerId) (id : ActivityId) : List Event :=
  [.system (.receive worker (.ready id ⟨Duration.zero⟩))]

/-- Both activities start up and perform one task chain. -/
def doublingRun (worker : ActivityId → WorkerId) : List Event :=
  performed (worker ⟨1⟩) ⟨1⟩ (.startup ⟨1⟩ ⟨Duration.zero⟩) 0 ++
  performed (worker ⟨2⟩) ⟨2⟩ (.startup ⟨2⟩ ⟨Duration.zero⟩) 0 ++
  [.system (.scheduler (.elapsed Duration.zero))] ++ received (worker ⟨1⟩) ⟨1⟩ ++
  [.system (.scheduler (.elapsed Duration.zero))] ++ received (worker ⟨2⟩) ⟨2⟩ ++
  performed (worker ⟨1⟩) ⟨1⟩ (.step ⟨1⟩ ⟨Duration.zero⟩) 2 ++ received (worker ⟨1⟩) ⟨1⟩ ++
  performed (worker ⟨2⟩) ⟨2⟩ (.step ⟨2⟩ ⟨Duration.zero⟩) 2 ++ received (worker ⟨2⟩) ⟨2⟩

def doublingStart : Store ActivityId Bool Nat Unit := ⟨fun _ => (), fun _ => 4⟩

/-- What is observed of a run after one task chain. -/
def observe (flow : Dataflow deployment Bool Nat Unit) : Bool × Nat × Nat × Nat :=
  (flow.system.execution.point.chainEnded, flow.system.execution.cycle, flow.store.cells false,
    flow.store.cells true)

theorem apart_observed : ((machine apart doubling).run (initial apart doublingStart)
    (doublingRun fun id => ⟨id.id⟩)).map observe = some (true, 1, 5, 10) := by
  decide +kernel

theorem doubling_depends : apart.scheduler.Depends ⟨2⟩ ⟨1⟩ := by
  refine ⟨?_, ?_, ?_⟩ <;> decide

theorem doubling_ordered : InputsOrdered doubling apart.scheduler := by
  rintro id cell ⟨rfl, rfl | rfl⟩
  · exact .inl rfl
  · exact .inr (.inl (.single doubling_depends))

theorem apart_ordering : Ordering apart.scheduler [⟨1⟩, ⟨2⟩] := by
  refine ⟨⟨by decide, ?_⟩, fun _ => Iff.rfl⟩
  rw [List.pairwise_pair]
  exact fun edge => absurd edge.2.2 (by decide)

theorem run_sequential_apart :
    ∃ flow, (machine apart doubling).run (initial apart doublingStart)
        (doublingRun fun id => ⟨id.id⟩) = some flow ∧
      flow.store = (doubling.performAll [⟨1⟩, ⟨2⟩])^[1] doublingStart ∧
      flow.store.cells true = 10 := by
  obtain ⟨flow, run, observed⟩ := Option.map_eq_some_iff.mp apart_observed
  injection observed with ended rest
  injection rest with cycle cells
  have same := (run_sequential apart doubling _ doublingStart apart_ordering doubling_ordered _
    flow run).2 ended
  rw [cycle] at same
  exact ⟨flow, run, same, (Prod.mk.inj cells).2⟩

/-- A chain ends only without cyclic dependencies. -/
theorem acyclic_of_ended {system : System deployment} {events : List System.Event}
    (run : (System.machine deployment).run (System.initial deployment) events = some system)
    (ended : system.execution.point.chainEnded = true) (id : ActivityId) :
    ¬ Relation.TransGen deployment.scheduler.Depends id id := by
  intro cycle
  have reached := System.reached_of_run run
  have known : id ∈ deployment.scheduler.activityDepends.keys := by
    obtain ⟨other, edge, -⟩ := Relation.TransGen.head'_iff.mp cycle
    exact edge.1
  obtain ⟨-, -, returned⟩ :=
    reached.ended (Scheduler.run_scanning (System.run_calls run)) ended
  obtain ⟨time, stepped⟩ := returned id known
  exact System.uncalled_of_cycle reached.inOrder.ordered.logged (System.run_preceded run) .refl
    cycle time _ (reached.recorded.returned _ _ stepped)

/-- Two deployments of the same activities with the same dependencies compute the same data,
whatever their workers, iteration orders and interleavings are. -/
theorem run_deterministic (first second : Deployment)
    (application : Application ActivityId Cell Value State)
    (start : Store ActivityId Cell Value State)
    (known : ∀ id, id ∈ first.scheduler.activityDepends.keys ↔
      id ∈ second.scheduler.activityDepends.keys)
    (depends : ∀ id other, first.scheduler.Depends id other ↔ second.scheduler.Depends id other)
    (ordered : InputsOrdered application first.scheduler) (events others : List Event)
    (one : Dataflow first Cell Value State) (two : Dataflow second Cell Value State)
    (firstRun : (machine first application).run (initial first start) events = some one)
    (secondRun : (machine second application).run (initial second start) others = some two)
    (firstEnded : one.system.execution.point.chainEnded = true)
    (secondEnded : two.system.execution.point.chainEnded = true)
    (same : one.system.execution.cycle = two.system.execution.cycle) : one.store = two.store := by
  obtain ⟨hidden, firstSystem⟩ := run_system firstRun
  obtain ⟨later, secondSystem⟩ := run_system secondRun
  have equal : first.scheduler.Depends = second.scheduler.Depends := by
    funext id other
    exact propext (depends id other)
  obtain ⟨order, perm, linear⟩ := exists_linear (acyclic_of_ended firstSystem firstEnded)
    first.scheduler.activityDepends.nodup
  have firstOrdering : Ordering first.scheduler order := ⟨linear, fun id => perm.mem_iff⟩
  have secondOrdering : Ordering second.scheduler order :=
    ⟨equal ▸ linear, fun id => perm.mem_iff.trans (known id)⟩
  have secondOrdered : InputsOrdered application second.scheduler := by
    unfold InputsOrdered
    rw [← equal]
    exact ordered
  rw [(run_follows firstOrdering ordered firstRun).ended (System.reached_of_run firstSystem)
      (Scheduler.run_scanning (System.run_calls firstSystem)) firstOrdering firstEnded,
    (run_follows secondOrdering secondOrdered secondRun).ended (System.reached_of_run secondSystem)
      (Scheduler.run_scanning (System.run_calls secondSystem)) secondOrdering secondEnded, same]

/-- One worker runs both activities, and the map iterates in the other order. -/
def together : Deployment where
  scheduler := doublingScheduler [⟨2⟩, ⟨1⟩] (by decide)
  workers id := ⟨id, ⟨1⟩, [⟨1⟩, ⟨2⟩]⟩
  route _ := ⟨7⟩

theorem together_observed : ((machine together doubling).run (initial together doublingStart)
    (doublingRun fun _ => ⟨7⟩)).map observe = some (true, 1, 5, 10) := by
  decide +kernel

theorem together_known (id : ActivityId) : id ∈ apart.scheduler.activityDepends.keys ↔
    id ∈ together.scheduler.activityDepends.keys := by
  change id ∈ [⟨1⟩, ⟨2⟩] ↔ id ∈ [⟨2⟩, ⟨1⟩]
  simp [or_comm]

theorem together_depends (id other : ActivityId) :
    apart.scheduler.Depends id other ↔ together.scheduler.Depends id other :=
  and_congr (together_known id) (and_congr (together_known other) Iff.rfl)

theorem run_deterministic_doubling :
    ∃ one two, (machine apart doubling).run (initial apart doublingStart)
        (doublingRun fun id => ⟨id.id⟩) = some one ∧
      (machine together doubling).run (initial together doublingStart)
        (doublingRun fun _ => ⟨7⟩) = some two ∧ one.store = two.store := by
  obtain ⟨one, firstRun, first⟩ := Option.map_eq_some_iff.mp apart_observed
  obtain ⟨two, secondRun, second⟩ := Option.map_eq_some_iff.mp together_observed
  injection first with firstEnded rest
  injection second with secondEnded others
  injection rest with firstCycle _
  injection others with secondCycle _
  exact ⟨one, two, firstRun, secondRun,
    run_deterministic apart together doubling doublingStart together_known together_depends
      doubling_ordered _ _ one two firstRun secondRun firstEnded secondEnded
      (firstCycle.trans secondCycle.symm)⟩

end Dataflow

end Feo
