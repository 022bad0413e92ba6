import Feo.Proof.System.Stepping

namespace Feo

open Foundation

/-- An entry that records the return of an activity's step. -/
def Entry.stepOf (id : ActivityId) : Entry → Bool
  | .returned ⟨.step target _, _⟩ _ => target = id
  | _ => false

/-- All activities of the task chain are ready, and the next chain has not begun. -/
def Scheduler.Point.chainEnded : Scheduler.Point → Bool
  | .chainElapsed => true
  | .sleep _ => true
  | .shutdownRequested => true
  | _ => false

theorem Scheduler.Point.chainEnded_cases {point : Scheduler.Point}
    (ended : point.chainEnded = true) : point.stage = .chaining ∧ point ≠ .stepReceive ∧
      ∀ activity remaining, point ≠ .step activity remaining := by
  cases point <;> first | exact absurd ended Bool.false_ne_true | exact ⟨rfl, by simp, by simp⟩

namespace System

variable {deployment : Deployment}

/-- The number of steps of an activity that have returned. -/
def steps (log : List Entry) (id : ActivityId) : Nat := log.countP (Entry.stepOf id)

/-- Each chain steps all activities, and only the activities are stepped. -/
structure Chained {scheduler : Scheduler} (execution : Scheduler.Execution scheduler)
    (pending : ActivityId → List Request) (log : List Entry) : Prop where
  chaining : execution.point.stage = .chaining → 0 < execution.cycle
  requested : ∀ id time cycle, ⟨.step id time, cycle⟩ ∈ pending id →
    id ∈ scheduler.activityDepends.keys ∧ 0 < cycle
  earlier : ∀ cycle, 0 < cycle → cycle < execution.cycle →
    ∀ id ∈ scheduler.activityDepends.keys,
      ∃ time, Entry.returned ⟨.step id time, cycle⟩ (.ok ()) ∈ log

section Update

variable {scheduler : Scheduler} {execution next : Scheduler.Execution scheduler}
  {pending rest : ActivityId → List Request} {log extended : List Entry}

/-- The startup wait counts no chain, or it begins the first one. -/
theorem startupLoop_cycle (states : Scheduler.States scheduler) :
    (Scheduler.startupLoop states).cycle = 0 ∧
        (Scheduler.startupLoop states).point.stage = .waiting ∨
      (Scheduler.startupLoop states).cycle = 1 := by
  rcases Scheduler.startupLoop_cases states with ⟨-, same⟩ | ⟨-, same⟩
  · rw [same]
    exact .inr (Scheduler.taskChain_continues states 0).cycle_eq
  · rw [same]
    exact .inl ⟨rfl, rfl⟩

theorem startupActivities_cycle (states : Scheduler.States scheduler)
    (remaining : List ActivityId) :
    (Scheduler.startupActivities states remaining).cycle = 0 ∧
        (Scheduler.startupActivities states remaining).point.stage ≠ .chaining ∨
      (Scheduler.startupActivities states remaining).cycle = 1 := by
  cases remaining with
  | cons activity rest =>
      refine .inl ⟨rfl, fun wrong => ?_⟩
      cases wrong
  | nil =>
      rcases startupLoop_cycle states with ⟨none, stage⟩ | first
      · refine .inl ⟨none, fun wrong => ?_⟩
        cases stage.symm.trans wrong
      · exact .inr first

/-- A task chain keeps its number, and the next chain begins when all steps have returned. -/
theorem advanced_of_shift {event : Scheduler.Event}
    (shift : Scheduler.Shift execution event next) (scanning : Scheduler.Scanning execution)
    (working : Working execution pending log) :
    next.cycle = execution.cycle ∨ next.cycle = execution.cycle + 1 ∧
      (0 < execution.cycle → ∀ id ∈ scheduler.activityDepends.keys,
        ∃ time, Entry.returned ⟨.step id time, execution.cycle⟩ (.ok ()) ∈ log) := by
  cases shift with
  | stops passive states cycle => exact .inl cycle
  | stays running stage states cycle => exact .inl cycle
  | @startupSent states activity remaining cycle =>
      obtain ⟨first, -⟩ := working.starting _ _ rfl
      dsimp only at first ⊢
      rcases startupActivities_cycle states remaining with ⟨same, -⟩ | same <;> omega
  | @startupReady states cycle reason id =>
      obtain ⟨first, -⟩ := working.waiting rfl
      dsimp only at first ⊢
      rcases startupLoop_cycle (Scheduler.markReady states id) with ⟨same, -⟩ | same <;> omega
  | stepSent => exact .inl (Scheduler.stepReadyActivities_continues _ _ _).cycle_eq
  | stepReady => exact .inl (Scheduler.chainLoop_continues _ _).cycle_eq
  | continued =>
      obtain ⟨-, round⟩ := working.chaining rfl
      refine .inr ⟨(Scheduler.taskChain_continues _ _).cycle_eq, fun _ => ?_⟩
      exact (round.complete scanning.allReady_of_requested).returned

/-- A chain has a positive number. -/
theorem positive_of_shift {event : Scheduler.Event}
    (shift : Scheduler.Shift execution event next)
    (positive : execution.point.stage = .chaining → 0 < execution.cycle)
    (chaining : next.point.stage = .chaining) : 0 < next.cycle := by
  cases shift with
  | stops passive => exact absurd (chaining ▸ .inr (.inr rfl)) passive
  | stays running stage states cycle =>
      rw [cycle]
      exact positive (stage ▸ chaining)
  | @startupSent states activity remaining =>
      rcases startupActivities_cycle states remaining with ⟨-, wrong⟩ | first
      · exact absurd chaining wrong
      · omega
  | @startupReady states cycle reason id =>
      rcases startupLoop_cycle (Scheduler.markReady states id) with ⟨-, wrong⟩ | first
      · cases chaining.symm.trans wrong
      · omega
  | stepSent =>
      rw [(Scheduler.stepReadyActivities_continues _ _ _).cycle_eq]
      exact positive rfl
  | stepReady =>
      rw [(Scheduler.chainLoop_continues _ _).cycle_eq]
      exact positive rfl
  | continued =>
      rw [(Scheduler.taskChain_continues _ _).cycle_eq]
      exact Nat.succ_pos _

/-- A sent step belongs to an activity and to a chain. -/
theorem requested_of_shift {id target : ActivityId} {time : Timestamp}
    (shift : Scheduler.Shift execution (.sendToActivity id (.step target time) (.ok ())) next)
    (scanning : Scheduler.Scanning execution)
    (positive : execution.point.stage = .chaining → 0 < execution.cycle) :
    target ∈ scheduler.activityDepends.keys ∧ 0 < execution.cycle := by
  cases shift with
  | stops passive states cycle shutdown => cases shutdown _ _ _ rfl
  | stays running stage states cycle quiet =>
      have silent := quiet.silent id
      simp [Scheduler.Event.phaseTo?] at silent
  | stepSent => exact ⟨scanning.stepped.1, positive rfl⟩

/-- The chains go on with fewer requests, more entries, and a next chain after a complete one. -/
theorem Chained.mono (chained : Chained execution pending log)
    (chaining : next.point.stage = .chaining → 0 < next.cycle)
    (requested : ∀ id time cycle, ⟨.step id time, cycle⟩ ∈ rest id →
      ⟨.step id time, cycle⟩ ∈ pending id ∨ id ∈ scheduler.activityDepends.keys ∧ 0 < cycle)
    (grows : log ⊆ extended)
    (advanced : next.cycle = execution.cycle ∨ next.cycle = execution.cycle + 1 ∧
      (0 < execution.cycle → ∀ id ∈ scheduler.activityDepends.keys,
        ∃ time, Entry.returned ⟨.step id time, execution.cycle⟩ (.ok ()) ∈ extended)) :
    Chained next rest extended where
  chaining := chaining
  requested id time cycle member :=
    (requested id time cycle member).elim (chained.requested id time cycle) fun both => both
  earlier cycle positive below id known := by
    have before (less : cycle < execution.cycle) :
        ∃ time, Entry.returned ⟨.step id time, cycle⟩ (.ok ()) ∈ extended := by
      obtain ⟨time, returned⟩ := chained.earlier cycle positive less id known
      exact ⟨time, grows returned⟩
    rcases advanced with same | ⟨same, complete⟩
    · exact before (same ▸ below)
    · rcases Nat.lt_or_ge cycle execution.cycle with less | more
      · exact before less
      · have equal : cycle = execution.cycle := by omega
        rw [equal] at positive ⊢
        exact complete positive id known

end Update

/-- Each flow continues the chains. -/
theorem Flow.chained {system next : System deployment} (flow : Flow system next)
    (scanning : Scheduler.Scanning system.execution)
    (working : Working system.execution system.pending system.log)
    (chained : Chained system.execution system.pending system.log) :
    Chained next.execution next.pending next.log := by
  have known {other : ActivityId} {requests : List Request} (request : Request)
      (sublist : requests.Sublist (system.pending other)) (member : request ∈ requests) :
      request ∈ system.pending other := sublist.subset member
  have drawn {log : List Entry} {event : Scheduler.Event} {execution : Scheduler.Execution _}
      (shift : Scheduler.Shift system.execution event execution) (grows : system.log ⊆ log) :
      execution.cycle = system.execution.cycle ∨ execution.cycle = system.execution.cycle + 1 ∧
        (0 < system.execution.cycle → ∀ id ∈ deployment.scheduler.activityDepends.keys,
          ∃ time, Entry.returned ⟨.step id time, system.execution.cycle⟩ (.ok ()) ∈ log) := by
    refine (advanced_of_shift shift scanning working).imp_right ?_
    rintro ⟨same, complete⟩
    refine ⟨same, fun positive id member => ?_⟩
    obtain ⟨time, returned⟩ := complete positive id member
    exact ⟨time, grows returned⟩
  cases flow with
  | scheduled isLocal transition pending queued log | broadcast transition pending queued log =>
      rw [log, funext pending]
      exact chained.mono (positive_of_shift transition.shift chained.chaining)
        (fun _ _ _ member => .inl member) (fun _ member => member)
        (drawn transition.shift fun _ member => member)
  | @sent id signal transition pending queued log =>
      rw [log]
      refine chained.mono (positive_of_shift transition.shift chained.chaining) ?_
        (fun _ member => member) (drawn transition.shift fun _ member => member)
      intro other time cycle member
      rw [pending, List.mem_append] at member
      refine member.imp_right fun last => ?_
      split at last
      · cases List.mem_singleton.mp last
        exact requested_of_shift transition.shift scanning chained.chaining
      · cases last
  | answered transition addressed returned pending queued log =>
      rw [log]
      refine chained.mono (positive_of_shift transition.shift chained.chaining) ?_
        (List.subset_cons_self _ _) (drawn transition.shift (List.subset_cons_self _ _))
      intro other time cycle member
      refine .inl (known _ ?_ member)
      rw [pending other]
      exact List.sublist_append_right _ _
  | acknowledged transition pending queued log =>
      rw [log, funext pending]
      exact chained.mono (positive_of_shift transition.shift chained.chaining)
        (fun _ _ _ member => .inl member) (List.subset_cons_self _ _)
        (drawn transition.shift (List.subset_cons_self _ _))
  | called execution addressed pending queued log =>
      rw [execution, log, funext pending]
      exact chained.mono chained.chaining (fun _ _ _ member => .inl member)
        (List.subset_cons_self _ _) (.inl rfl)
  | worked entries execution pending queued log uncalled =>
      rw [execution, log]
      exact chained.mono chained.chaining
        (fun other _ _ member => .inl (known _ (pending other) member))
        (List.subset_append_right _ _) (.inl rfl)

theorem chained_initial : Chained (initial deployment).execution (initial deployment).pending
    (initial deployment).log := by
  have first := startupActivities_cycle deployment.scheduler.newStates
    (sortIds deployment.scheduler.newStates.val.keys)
  refine ⟨fun chaining => ?_, fun _ _ _ member => ?_, fun cycle positive below => ?_⟩
  · rcases first with ⟨-, wrong⟩ | same
    · exact absurd chaining wrong
    · exact same ▸ Nat.one_pos
  · cases member
  · change cycle < (Scheduler.startupActivities _ _).cycle at below
    omega

/-- Every run steps all activities in each chain. -/
theorem run_chained {events : List Event} {system : System deployment}
    (reached : (machine deployment).run (initial deployment) events = some system) :
    Chained system.execution system.pending system.log := by
  refine (machine deployment).run_induction
    (fun _ system => Chained system.execution system.pending system.log) chained_initial ?_ reached
  intro history system event next before chained stepped
  have inOrder := run_inOrder before
  exact ((step_move stepped).flow inOrder.coherent).chained
    (Scheduler.run_scanning (run_calls before)) inOrder.working chained

@[simp] theorem steps_nil (id : ActivityId) : steps [] id = 0 := rfl

/-- Only the return of its step counts for an activity. -/
theorem steps_cons (entry : Entry) (log : List Entry) (id : ActivityId) :
    steps (entry :: log) id = steps log id + if entry.stepOf id then 1 else 0 :=
  List.countP_cons

/-- A step of the system records the return of a function, or no function returns. -/
theorem log_of_step {system next : System deployment} {event : Event}
    (coherent : Coherent system) (stepped : system.step event = some next) :
    (∃ worker request result time, event = .worker worker (.returned result time) ∧
      Calling system worker request ∧ next.log = .returned request result :: system.log) ∨
      (∀ id, steps next.log id = steps system.log id) ∧
        ∀ request result, Entry.returned request result ∈ next.log →
          Entry.returned request result ∈ system.log := by
  cases step_move stepped with
  | scheduled | sent | broadcast | idled => exact .inr ⟨fun _ => rfl, fun _ _ member => member⟩
  | received =>
      refine .inr ⟨fun id => ?_, fun request result member => by simpa using member⟩
      rw [steps_cons]
      rfl
  | accepted =>
      unfold accept
      dsimp only
      split
      · refine .inr ⟨fun id => ?_, fun request result member => by simpa using member⟩
        rw [steps_cons]
        rfl
      · exact .inr ⟨fun _ => rfl, fun _ _ member => member⟩
  | @returned worker signal target request result time point addressed serving =>
      exact .inl ⟨worker, request, result, time, rfl, (coherent.calling point serving).2, rfl⟩
  | @responded worker signal request answer =>
      cases answer with
      | error => exact .inr ⟨fun _ => rfl, fun _ _ member => member⟩
      | ok =>
          refine .inr ⟨fun id => ?_, fun other result member => ?_⟩
          · change steps (Entry.replied _ :: system.log) id = _
            rw [steps_cons]
            rfl
          · change _ ∈ Entry.replied _ :: system.log at member
            simpa using member

/-- The steps of each activity are numbered by their chains from one upwards. -/
structure Numbered (log : List Entry) : Prop where
  bound : ∀ id time cycle result, Entry.returned ⟨.step id time, cycle⟩ result ∈ log →
    0 < cycle ∧ cycle ≤ steps log id
  recorded : ∀ id cycle, 0 < cycle → cycle ≤ steps log id →
    ∃ time result, Entry.returned ⟨.step id time, cycle⟩ result ∈ log

/-- A running step is the next one of its activity. -/
theorem Stepping.steps_eq {system : System deployment} (inOrder : InOrder system)
    (recorded : Recorded system)
    (chained : Chained system.execution system.pending system.log)
    (numbered : Numbered system.log) {id : ActivityId} {cycle : Nat}
    (stepping : Stepping system id cycle) : steps system.log id + 1 = cycle := by
  have current := stepping.cycle_eq inOrder
  obtain ⟨time, calling⟩ := stepping
  obtain ⟨known, positive⟩ := chained.requested id time cycle
    (mem_pending inOrder.coherent calling)
  apply Nat.le_antisymm
  · by_contra more
    obtain ⟨other, result, returned⟩ := numbered.recorded id cycle positive (by omega)
    have unique := inOrder.ordered.logged.called_unique (recorded.returned _ _ returned)
      (recorded.called _ _ calling)
    subst unique
    exact recorded.unreturned _ _ calling rfl _ returned
  · rcases Nat.eq_or_lt_of_le positive with first | later
    · omega
    · obtain ⟨earlier, returned⟩ := chained.earlier (cycle - 1) (by omega) (by omega) id known
      have bound := (numbered.bound id _ _ _ returned).2
      omega

/-- The return of a running step is numbered by its chain. -/
theorem Numbered.step {log : List Entry} (numbered : Numbered log) {id : ActivityId}
    {time : Timestamp} {cycle : Nat} {result : Except ActivityError Unit}
    (next : steps log id + 1 = cycle) :
    Numbered (.returned ⟨.step id time, cycle⟩ result :: log) := by
  have count (other : ActivityId) :
      steps (.returned ⟨.step id time, cycle⟩ result :: log) other =
        steps log other + if id = other then 1 else 0 := by
    rw [steps_cons]
    simp [Entry.stepOf]
  refine ⟨?_, ?_⟩
  · intro other sent earlier answer member
    rw [count]
    rcases List.mem_cons.mp member with same | before
    · cases same
      rw [if_pos rfl]
      omega
    · obtain ⟨positive, bound⟩ := numbered.bound other sent earlier answer before
      exact ⟨positive, Nat.le_add_right_of_le bound⟩
  · intro other earlier positive bound
    rw [count] at bound
    by_cases before : earlier ≤ steps log other
    · obtain ⟨sent, answer, returned⟩ := numbered.recorded other earlier positive before
      exact ⟨sent, answer, List.mem_cons_of_mem _ returned⟩
    · split at bound
      · next same =>
          subst same
          have equal : earlier = cycle := by omega
          subst equal
          exact ⟨time, result, List.mem_cons_self⟩
      · omega

/-- Entries that are no return of a step keep the numbers. -/
theorem Numbered.mono {log extended : List Entry} (numbered : Numbered log)
    (grows : log ⊆ extended) (same : ∀ id, steps extended id = steps log id)
    (returned : ∀ id time cycle result, Entry.returned ⟨.step id time, cycle⟩ result ∈ extended →
      Entry.returned ⟨.step id time, cycle⟩ result ∈ log) : Numbered extended where
  bound id time cycle result member := by
    rw [same]
    exact numbered.bound id time cycle result (returned id time cycle result member)
  recorded id cycle positive bound := by
    rw [same] at bound
    obtain ⟨time, result, member⟩ := numbered.recorded id cycle positive bound
    exact ⟨time, result, grows member⟩

theorem stepOf_of_not_step {request : Request} (other : request.isStep = false)
    (result : Except ActivityError Unit) (id : ActivityId) :
    (Entry.returned request result).stepOf id = false := by
  obtain ⟨signal, cycle⟩ := request
  cases signal <;> first | rfl | cases other

/-- Every run numbers the steps of each activity by their chains. -/
theorem run_numbered {events : List Event} {system : System deployment}
    (reached : (machine deployment).run (initial deployment) events = some system) :
    Numbered system.log := by
  refine (machine deployment).run_induction (fun _ system => Numbered system.log)
    ⟨fun _ _ _ _ member => absurd member List.not_mem_nil, fun _ cycle positive bound => ?_⟩ ?_
    reached
  · change cycle ≤ 0 at bound
    omega
  · intro history system event next before numbered stepped
    have inOrder := run_inOrder before
    have coherent := inOrder.coherent
    rcases log_of_step coherent stepped with
      ⟨worker, request, result, time, -, calling, log⟩ | ⟨same, returned⟩
    · rw [log]
      obtain ⟨signal, cycle⟩ := request
      by_cases stepSignal : (⟨signal, cycle⟩ : Request).isStep = true
      · cases signal with
        | step id sent =>
            have routed := coherent.route_eq calling id rfl
            refine numbered.step (Stepping.steps_eq inOrder (run_recorded before)
              (run_chained before) numbered ⟨sent, ?_⟩)
            rw [routed]
            exact calling
        | _ => cases stepSignal
      · have other := Bool.eq_false_iff.mpr stepSignal
        refine numbered.mono (List.subset_cons_self _ _) ?_ ?_
        · intro id
          rw [steps_cons, stepOf_of_not_step other]
          rfl
        · intro id time number answer member
          rcases List.mem_cons.mp member with equal | earlier
          · cases equal
            cases other
          · exact earlier
    · exact numbered.mono (log_subset_of_step stepped) same fun _ _ _ _ => returned _ _

/-- Each function was called before it returned. -/
def Preceded (log : List Entry) : Prop :=
  ∀ request result before, (Entry.returned request result :: before) <:+ log →
    Entry.called request ∈ before

/-- A new entry was preceded if it records the return of a called function. -/
theorem Preceded.cons {log : List Entry} {entry : Entry} (preceded : Preceded log)
    (called : ∀ request result, entry = .returned request result →
      Entry.called request ∈ log) : Preceded (entry :: log) := by
  intro request result before suffix
  rcases List.suffix_cons_iff.mp suffix with same | earlier
  · injection same with head tail
    rw [tail]
    exact called request result head.symm
  · exact preceded request result before earlier

theorem Move.preceded {system next : System deployment} {event : Event}
    (move : Move system event next) (coherent : Coherent system) (recorded : Recorded system)
    (preceded : Preceded system.log) : Preceded next.log := by
  cases move with
  | scheduled | sent | broadcast | idled => exact preceded
  | received => exact preceded.cons (by simp)
  | accepted =>
      unfold accept
      dsimp only
      split
      · exact preceded.cons (by simp)
      · exact preceded
  | returned point addressed serving =>
      apply preceded.cons
      intro request result same
      cases same
      exact recorded.called _ _ (coherent.calling point serving).2
  | @responded worker signal request answer =>
      cases answer with
      | error => exact preceded
      | ok => exact preceded.cons (by simp)

theorem run_preceded {events : List Event} {system : System deployment}
    (reached : (machine deployment).run (initial deployment) events = some system) :
    Preceded system.log := by
  refine (machine deployment).run_induction (fun _ system => Preceded system.log)
    (fun _ _ _ suffix => absurd (List.suffix_nil.mp suffix) (List.cons_ne_nil _ _)) ?_ reached
  intro history system event next before preceded stepped
  exact (step_move stepped).preceded (run_coherent before) (run_recorded before) preceded

/-- An activity that leads to a dependency cycle is never stepped. -/
theorem uncalled_of_cycle {scheduler : Scheduler} {log : List Entry}
    (logged : Logged scheduler log) (preceded : Preceded log) {id target : ActivityId}
    (path : Relation.ReflTransGen scheduler.Depends id target)
    (cycle : Relation.TransGen scheduler.Depends target target) (time : Timestamp)
    (number : Nat) : Entry.called ⟨.step id time, number⟩ ∉ log := by
  induction log generalizing id time with
  | nil => exact List.not_mem_nil
  | cons entry rest hypothesis =>
      have shorter : rest <:+ entry :: rest := List.suffix_cons _ _
      have earlier {other : ActivityId}
          (path : Relation.ReflTransGen scheduler.Depends other target) (sent : Timestamp) :=
        hypothesis (fun _ _ _ _ suffix => logged _ _ _ _ (suffix.trans shorter))
          (fun _ _ _ suffix => preceded _ _ _ (suffix.trans shorter)) path sent
      intro called
      rcases List.mem_cons.mp called with same | before
      · obtain ⟨other, edge, onward⟩ := exists_dependency_of_cycle path cycle
        have due := logged id time number rest (same ▸ List.suffix_refl _)
        obtain ⟨sent, returned⟩ := due.prepared.stepped other edge.2.1 edge.2.2
        obtain ⟨after, before, split⟩ := List.append_of_mem returned
        have suffix : Entry.returned ⟨.step other sent, number⟩ (.ok ()) :: before <:+ rest := by
          rw [split]
          exact List.suffix_append _ _
        have inside := preceded _ _ _ (suffix.trans shorter)
        exact earlier onward sent (suffix.subset (List.mem_cons_of_mem _ inside))
      · exact earlier path time before

/-- The system has been reached by a run of its own. -/
structure Reached (system : System deployment) : Prop where
  inOrder : InOrder system
  recorded : Recorded system
  chained : Chained system.execution system.pending system.log
  numbered : Numbered system.log

theorem reached_of_run {events : List Event} {system : System deployment}
    (run : (machine deployment).run (initial deployment) events = some system) :
    Reached system :=
  ⟨run_inOrder run, run_recorded run, run_chained run,
    run_numbered run⟩

section Reached

variable {system : System deployment}

/-- No activity has stepped more often than there were chains. -/
theorem Reached.steps_le (reached : Reached system) (id : ActivityId) :
    steps system.log id ≤ system.execution.cycle := by
  rcases Nat.eq_zero_or_pos (steps system.log id) with none | positive
  · omega
  · obtain ⟨time, result, returned⟩ :=
      reached.numbered.recorded id _ positive (Nat.le_refl _)
    exact (reached.inOrder.ordered.past _ (reached.recorded.returned _ _ returned)).2.1

/-- An activity that a running step depends on has finished its step of the chain. -/
theorem Reached.steps_of_dependency (reached : Reached system) {id other : ActivityId}
    {cycle : Nat} (stepping : Stepping system id cycle)
    (path : Relation.TransGen deployment.scheduler.Depends id other) :
    steps system.log other = cycle := by
  have current := stepping.cycle_eq reached.inOrder
  obtain ⟨time, returned⟩ := stepping.depends_returned reached.recorded
    reached.inOrder.ordered.logged path
  have bound := (reached.numbered.bound other time cycle _ returned).2
  have most := reached.steps_le other
  omega

/-- An activity that depends on a running step has not begun its step of the chain. -/
theorem Reached.steps_of_dependent (reached : Reached system) {id other : ActivityId}
    {cycle : Nat} (stepping : Stepping system id cycle)
    (path : Relation.TransGen deployment.scheduler.Depends other id) :
    steps system.log other + 1 = cycle := by
  have current := stepping.cycle_eq reached.inOrder
  have count := stepping.steps_eq reached.inOrder reached.recorded reached.chained
    reached.numbered
  have known : other ∈ deployment.scheduler.activityDepends.keys := by
    obtain ⟨middle, edge, -⟩ := Relation.TransGen.head'_iff.mp path
    exact edge.1
  have below : steps system.log other < cycle := by
    by_contra more
    obtain ⟨time, result, returned⟩ :=
      reached.numbered.recorded other cycle (by omega) (by omega)
    obtain ⟨earlier, finished⟩ := returned_of_depends reached.recorded
      reached.inOrder.ordered.logged path (reached.recorded.returned _ _ returned)
    have bound := (reached.numbered.bound id earlier cycle _ finished).2
    omega
  rcases Nat.lt_or_ge 1 cycle with later | first
  · obtain ⟨time, returned⟩ :=
      reached.chained.earlier (cycle - 1) (by omega) (by omega) other known
    have bound := (reached.numbered.bound other time _ _ returned).2
    omega
  · omega

/-- At the end of a chain all activities have stepped in it, and none runs. -/
theorem Reached.ended {system : System deployment} (reached : Reached system)
    (scanning : Scheduler.Scanning system.execution)
    (ended : system.execution.point.chainEnded = true) :
    0 < system.execution.cycle ∧ (∀ id cycle, ¬ Stepping system id cycle) ∧
      ∀ id ∈ deployment.scheduler.activityDepends.keys,
        ∃ time, Entry.returned ⟨.step id time, system.execution.cycle⟩ (.ok ()) ∈ system.log := by
  obtain ⟨stage, unreceived, unstepped⟩ := Scheduler.Point.chainEnded_cases ended
  have all : Scheduler.allReady system.execution.states = true := by
    rcases scanning.complete stage with wrong | ⟨activity, remaining, wrong⟩ | all
    · exact absurd wrong unreceived
    · exact absurd wrong (unstepped activity remaining)
    · exact all
  obtain ⟨-, round⟩ := reached.inOrder.working.chaining stage
  have completed := round.complete all
  refine ⟨reached.chained.chaining stage, ?_, completed.returned⟩
  rintro id cycle ⟨time, calling⟩
  have member := Stepping.mem_pending reached.inOrder.coherent calling
  rw [completed.empty id] at member
  cases member

end Reached

end System

end Feo
