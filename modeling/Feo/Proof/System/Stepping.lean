import Feo.Proof.Scheduler.Progress
import Feo.Proof.System.Order

namespace Feo.System

open Foundation

variable {deployment : Deployment}

/-- A worker runs the function that a request asks for. -/
def Calling (system : System deployment) (worker : WorkerId) (request : Request) : Prop :=
  system.points worker = .call request.signal ∧ system.serving worker = some request

/-- An activity runs its step function in one task chain. -/
def Stepping (system : System deployment) (id : ActivityId) (cycle : Nat) : Prop :=
  ∃ time, Calling system (deployment.route id) ⟨.step id time, cycle⟩

/-- A worker at a call runs the function that its served request asks for. -/
theorem Coherent.calling {system : System deployment} (coherent : Coherent system)
    {worker : WorkerId} {signal : Signal} {request : Request}
    (point : system.points worker = .call signal) (serving : system.serving worker = some request) :
    request.signal = signal ∧ Calling system worker request := by
  have served := coherent.serves worker
  rw [point, serving] at served
  cases served
  exact ⟨rfl, point, serving⟩

/-- A worker at a call serves the request for it. -/
theorem Coherent.calling_of_point {system : System deployment} (coherent : Coherent system)
    {worker : WorkerId} {signal : Signal} (point : system.points worker = .call signal) :
    ∃ cycle, Calling system worker ⟨signal, cycle⟩ := by
  cases serving : system.serving worker with
  | none =>
      have served := coherent.serves worker
      rw [point, serving] at served
      cases served with
      | idle idle => cases idle
  | some request =>
      obtain ⟨rfl, calling⟩ := coherent.calling point serving
      exact ⟨request.cycle, calling⟩

/-- A function runs on the worker of its activity. -/
theorem Coherent.route_eq {system : System deployment} (coherent : Coherent system)
    {worker : WorkerId} {request : Request} (calling : Calling system worker request)
    (id : ActivityId) (addressed : request.signal.target? = some id) :
    deployment.route id = worker := by
  apply coherent.routed worker request _ id addressed
  unfold pipeline
  rw [calling.2]
  simp

theorem Stepping.mem_pending {system : System deployment} (coherent : Coherent system)
    {id : ActivityId} {cycle : Nat} {time : Timestamp}
    (calling : Calling system (deployment.route id) ⟨.step id time, cycle⟩) :
    ⟨.step id time, cycle⟩ ∈ system.pending id := by
  refine (mem_pending_iff coherent).mpr ⟨rfl, deployment.route id, ?_⟩
  unfold pipeline
  rw [calling.2]
  simp

/-- A step runs in the current task chain. -/
theorem Stepping.cycle_eq {system : System deployment} (inOrder : InOrder system)
    {id : ActivityId} {cycle : Nat} (stepping : Stepping system id cycle) :
    cycle = system.execution.cycle := by
  obtain ⟨time, calling⟩ := stepping
  exact inOrder.ordered.current id _ (mem_pending inOrder.coherent calling)

/-- Each activity is called for one step in each chain. -/
theorem Logged.called_unique {scheduler : Scheduler} {log : List Entry}
    (logged : Logged scheduler log) {id : ActivityId} {cycle : Nat} {first second : Timestamp}
    (called : Entry.called ⟨.step id first, cycle⟩ ∈ log)
    (other : Entry.called ⟨.step id second, cycle⟩ ∈ log) : first = second := by
  have fresh {time later : Timestamp} {after before : List Entry}
      (split : log = after ++ .called ⟨.step id time, cycle⟩ :: before) :
      Entry.called ⟨.step id later, cycle⟩ ∉ before := by
    apply (logged id time cycle before _).fresh
    rw [split]
    exact List.suffix_append _ _
  obtain ⟨after, before, split⟩ := List.append_of_mem called
  rw [split, List.mem_append, List.mem_cons] at other
  rcases other with later | same | earlier
  · obtain ⟨newer, older, inside⟩ := List.append_of_mem later
    have repeated : log = newer ++ .called ⟨.step id second, cycle⟩ ::
        (older ++ .called ⟨.step id first, cycle⟩ :: before) := by
      rw [split, inside, List.append_assoc, List.cons_append]
    exact (fresh repeated (List.mem_append_right _ List.mem_cons_self)).elim
  · cases same
    rfl
  · exact (fresh split earlier).elim

/-- The log records each call before the function returns. -/
structure Recorded (system : System deployment) : Prop where
  called : ∀ worker request, Calling system worker request → .called request ∈ system.log
  returned : ∀ request result, .returned request result ∈ system.log →
    .called request ∈ system.log
  unreturned : ∀ worker request, Calling system worker request → request.isStep = true →
    ∀ result, .returned request result ∉ system.log

theorem recorded_initial : Recorded (initial deployment) :=
  ⟨fun _ _ wrong => (nomatch wrong.1), fun _ _ wrong => (nomatch wrong),
    fun _ _ wrong => (nomatch wrong.1)⟩

/-- A move that calls no function and returns from none keeps the record. -/
theorem Recorded.mono {system next : System deployment} (recorded : Recorded system)
    (calling : ∀ worker request, Calling next worker request → Calling system worker request)
    (grows : system.log ⊆ next.log)
    (returned : ∀ request result, Entry.returned request result ∈ next.log →
      Entry.returned request result ∈ system.log) : Recorded next where
  called worker request calls := grows (recorded.called worker request (calling _ _ calls))
  returned request result member :=
    grows (recorded.returned request result (returned _ _ member))
  unreturned worker request calls stepped result member :=
    recorded.unreturned worker request (calling _ _ calls) stepped result (returned _ _ member)

/-- A worker that leaves its call runs no function. -/
theorem calling_of_update (system : System deployment) {next : System deployment} {id : WorkerId}
    {point : Worker.Point} {worker : WorkerId} {request : Request}
    (calling : Calling next worker request)
    (points : next.points = Function.update system.points id point)
    (uncalled : ∀ signal, point ≠ .call signal)
    (serving : ∀ worker, worker ≠ id → next.serving worker = system.serving worker) :
    worker ≠ id ∧ Calling system worker request := by
  obtain ⟨called, served⟩ := calling
  rw [points] at called
  by_cases same : worker = id
  · subst same
    rw [Function.update_self] at called
    exact (uncalled _ called).elim
  · rw [Function.update_of_ne same] at called
    rw [serving worker same] at served
    exact ⟨same, called, served⟩

theorem uncalled_of_idle {point : Worker.Point} (idle : point.busy = false) (signal : Signal) :
    point ≠ .call signal := by
  rintro rfl
  cases idle

/-- The accepted step was not called before. -/
theorem recorded_accepted {system : System deployment} {id : WorkerId} {request : Request}
    {rest : List Request} (recorded : Recorded system)
    (logged : Logged deployment.scheduler (system.accept id request rest
      ((deployment.workers id).handleSignal request.signal)).log) :
    Recorded (system.accept id request rest
      ((deployment.workers id).handleSignal request.signal)) := by
  by_cases calls : (deployment.workers id).handleSignal request.signal = .call request.signal
  · rw [calls] at logged ⊢
    have log : (system.accept id request rest (.call request.signal)).log =
        .called request :: system.log := by
      unfold accept
      rw [if_pos rfl]
    rw [log] at logged
    have split {worker : WorkerId} {other : Request}
        (calling : Calling (system.accept id request rest (.call request.signal)) worker other) :
        worker = id ∧ other = request ∨ Calling system worker other := by
      by_cases same : worker = id
      · refine .inl ⟨same, ?_⟩
        have served := calling.2
        rw [same] at served
        change Function.update system.serving id (some request) id = some other at served
        rw [Function.update_self] at served
        exact (Option.some.inj served).symm
      · obtain ⟨called, served⟩ := calling
        change Function.update system.points id _ worker = _ at called
        change Function.update system.serving id _ worker = _ at served
        rw [Function.update_of_ne same] at called served
        exact .inr ⟨called, served⟩
    have before {other : Request} {result : Except ActivityError Unit}
        (returned : Entry.returned other result ∈ Entry.called request :: system.log) :
        Entry.returned other result ∈ system.log := by
      simpa using returned
    refine ⟨?_, ?_, ?_⟩
    · intro worker other calling
      rw [log]
      rcases split calling with ⟨-, rfl⟩ | earlier
      · exact List.mem_cons_self
      · exact List.mem_cons_of_mem _ (recorded.called worker other earlier)
    · intro other result returned
      rw [log] at returned ⊢
      exact List.mem_cons_of_mem _ (recorded.returned other result (before returned))
    · intro worker other calling stepped result returned
      rw [log] at returned
      rcases split calling with ⟨-, rfl⟩ | earlier
      · obtain ⟨signal, cycle⟩ := other
        cases signal with
        | step target time =>
            have due := logged target time cycle system.log (List.suffix_refl _)
            exact due.fresh time (recorded.returned _ _ (before returned))
        | _ => cases stepped
      · exact recorded.unreturned worker other earlier stepped result (before returned)
  · have log : (system.accept id request rest
        ((deployment.workers id).handleSignal request.signal)).log = system.log := by
      unfold accept
      rw [if_neg calls]
    have uncalled (signal : Signal) :
        (deployment.workers id).handleSignal request.signal ≠ .call signal := by
      intro called
      rcases (deployment.workers id).handleSignal_cases request.signal with
        ⟨same, -⟩ | ⟨same, -⟩ | idle
      · exact calls same
      · rw [called] at same
        cases same
      · exact uncalled_of_idle idle signal called
    refine recorded.mono ?_ ?_ ?_
    · intro worker other calling
      refine (calling_of_update system calling rfl uncalled ?_).2
      exact fun _ differs => Function.update_of_ne differs _ _
    · rw [log]
      exact fun _ member => member
    · rw [log]
      exact fun _ _ member => member

/-- The returned function is called no more. -/
theorem recorded_returned {system : System deployment} {id : WorkerId} {signal : Signal}
    {target : ActivityId} {request : Request} {result : Except ActivityError Unit}
    {time : Timestamp} (coherent : Coherent system) (recorded : Recorded system)
    (point : system.points id = .call signal) (serving : system.serving id = some request) :
    Recorded { system with
      points := Function.update system.points id (.respond (Worker.response target time result))
      log := .returned request result :: system.log } := by
  obtain ⟨-, calls⟩ := coherent.calling point serving
  have earlier {worker : WorkerId} {other : Request}
      (calling : Calling { system with
        points := Function.update system.points id (.respond (Worker.response target time result))
        log := .returned request result :: system.log } worker other) :
      worker ≠ id ∧ Calling system worker other :=
    calling_of_update system calling rfl (by simp) (fun _ _ => rfl)
  refine ⟨?_, ?_, ?_⟩
  · intro worker other calling
    exact List.mem_cons_of_mem _ (recorded.called worker other (earlier calling).2)
  · intro other answer returned
    apply List.mem_cons_of_mem
    rcases List.mem_cons.mp returned with same | before
    · cases same
      exact recorded.called id request calls
    · exact recorded.returned other answer before
  · intro worker other calling stepped answer returned
    obtain ⟨differs, calling⟩ := earlier calling
    rcases List.mem_cons.mp returned with same | before
    · cases same
      obtain ⟨signal, cycle⟩ := request
      cases signal with
      | step activity sent =>
          have first := coherent.route_eq calling activity rfl
          have second := coherent.route_eq calls activity rfl
          exact differs (first.symm.trans second)
      | _ => cases stepped
    · exact recorded.unreturned worker other calling stepped answer before

/-- Each move keeps the record of an ordered log. -/
theorem Move.recorded {system next : System deployment} {event : Event}
    (move : Move system event next) (coherent : Coherent system)
    (logged : Logged deployment.scheduler next.log) (recorded : Recorded system) :
    Recorded next := by
  cases move with
  | scheduled | sent | broadcast => exact ⟨recorded.called, recorded.returned, recorded.unreturned⟩
  | received =>
      refine recorded.mono (fun _ _ calling => calling) (List.subset_cons_self _ _) ?_
      intro request result returned
      simpa using returned
  | accepted => exact recorded_accepted recorded logged
  | idled before after =>
      refine recorded.mono ?_ (fun _ member => member) (fun _ _ member => member)
      intro worker request calling
      exact (calling_of_update system calling rfl (uncalled_of_idle after) (fun _ _ => rfl)).2
  | returned point addressed serving => exact recorded_returned coherent recorded point serving
  | @responded id signal request result point source serving after =>
      cases result with
      | error error =>
          refine recorded.mono ?_ (fun _ member => member) (fun _ _ member => member)
          intro worker other calling
          refine (calling_of_update system calling rfl (uncalled_of_idle after) ?_).2
          exact fun _ differs => Function.update_of_ne differs _ _
      | ok value =>
          refine recorded.mono ?_ (List.subset_cons_self _ _) ?_
          · intro worker other calling
            refine (calling_of_update system calling rfl (uncalled_of_idle after) ?_).2
            exact fun _ differs => Function.update_of_ne differs _ _
          · intro other answer returned
            change _ ∈ Entry.replied _ :: system.log at returned
            simpa using returned

/-- Every run records its calls. -/
theorem run_recorded {events : List Event} {system : System deployment}
    (reached : (machine deployment).run (initial deployment) events = some system) :
    Recorded system := by
  refine (machine deployment).run_induction (fun _ system => Recorded system) recorded_initial ?_
    reached
  intro history system event next before recorded stepped
  have after := (machine deployment).run_concat_iff.mpr ⟨system, before, stepped⟩
  exact (step_move stepped).recorded (run_coherent before) (run_inOrder after).ordered.logged
    recorded

/-- The task chains are counted upwards. -/
theorem cycle_le_of_step {events : List Event} {system next : System deployment} {event : Event}
    (reached : (machine deployment).run (initial deployment) events = some system)
    (stepped : system.step event = some next) :
    system.execution.cycle ≤ next.execution.cycle := by
  have inOrder := run_inOrder reached
  have calls := run_calls reached
  obtain ⟨-, advances⟩ := ((step_move stepped).flow inOrder.coherent).working
    (Scheduler.run_scanning calls) (Scheduler.run_lifecycle calls) inOrder.ordered.past.current
    inOrder.working
  rcases advances with same | ⟨same, -⟩ <;> omega

/-- A called step comes after the steps of all activities that it depends on. -/
theorem returned_of_depends {system : System deployment} (recorded : Recorded system)
    (logged : Logged deployment.scheduler system.log) {id other : ActivityId} {cycle : Nat}
    {time : Timestamp} (path : Relation.TransGen deployment.scheduler.Depends id other)
    (called : Entry.called ⟨.step id time, cycle⟩ ∈ system.log) :
    ∃ stepped, Entry.returned ⟨.step other stepped, cycle⟩ (.ok ()) ∈ system.log := by
  have direct {first second : ActivityId} {sent : Timestamp}
      (edge : deployment.scheduler.Depends first second)
      (called : Entry.called ⟨.step first sent, cycle⟩ ∈ system.log) :
      ∃ stepped, Entry.returned ⟨.step second stepped, cycle⟩ (.ok ()) ∈ system.log := by
    obtain ⟨after, before, split⟩ := List.append_of_mem called
    have suffix : Entry.called ⟨.step first sent, cycle⟩ :: before <:+ system.log := by
      rw [split]
      exact List.suffix_append _ _
    have due := logged first sent cycle before suffix
    obtain ⟨stepped, returned⟩ := due.prepared.stepped second edge.2.1 edge.2.2
    exact ⟨stepped, suffix.subset (List.mem_cons_of_mem _ returned)⟩
  induction path with
  | single edge => exact direct edge called
  | tail path edge hypothesis =>
      obtain ⟨stepped, returned⟩ := hypothesis
      exact direct edge (recorded.returned _ _ returned)

/-- The steps that a running step depends on have returned in its chain. -/
theorem Stepping.depends_returned {system : System deployment} (recorded : Recorded system)
    (logged : Logged deployment.scheduler system.log) {id other : ActivityId} {cycle : Nat}
    (path : Relation.TransGen deployment.scheduler.Depends id other)
    (stepping : Stepping system id cycle) :
    ∃ stepped, Entry.returned ⟨.step other stepped, cycle⟩ (.ok ()) ∈ system.log := by
  obtain ⟨time, calling⟩ := stepping
  exact returned_of_depends recorded logged path (recorded.called _ _ calling)

/-- An activity never runs its step together with an activity that it depends on. -/
theorem Stepping.excludes {system : System deployment} (inOrder : InOrder system)
    (recorded : Recorded system) {id other : ActivityId} {first second : Nat}
    (path : Relation.TransGen deployment.scheduler.Depends id other)
    (stepping : Stepping system id first) : ¬ Stepping system other second := by
  intro running
  have same : first = second :=
    (stepping.cycle_eq inOrder).trans (running.cycle_eq inOrder).symm
  subst same
  have logged := inOrder.ordered.logged
  obtain ⟨earlier, returned⟩ := stepping.depends_returned recorded logged path
  obtain ⟨time, calling⟩ := running
  have unique := logged.called_unique (recorded.returned _ _ returned)
    (recorded.called _ _ calling)
  subst unique
  exact recorded.unreturned _ _ calling rfl _ returned

/-- A running step goes on until it returns. -/
theorem Stepping.step {system next : System deployment} {event : Event}
    (stepped : system.step event = some next) {id : ActivityId} {cycle : Nat}
    (stepping : Stepping system id cycle) :
    Stepping next id cycle ∨
      ∃ result time, event = .worker (deployment.route id) (.returned result time) := by
  obtain ⟨time, point, serving⟩ := stepping
  have frame {worker : WorkerId} {other : Worker.Point} (request : Option Request)
      (differs : deployment.route id ≠ worker)
      (points : next.points = Function.update system.points worker other)
      (served : next.serving = Function.update system.serving worker request) :
      Stepping next id cycle := by
    refine ⟨time, ?_, ?_⟩
    · rw [points, Function.update_of_ne differs]
      exact point
    · rw [served, Function.update_of_ne differs]
      exact serving
  cases step_move stepped with
  | scheduled | sent | received | broadcast => exact .inl ⟨time, point, serving⟩
  | accepted source head =>
      refine .inl (frame _ ?_ rfl rfl)
      rintro rfl
      rw [point] at source
      cases source
  | @idled worker event target before after =>
      refine .inl (frame (system.serving worker) ?_ rfl ?_)
      · rintro rfl
        rw [point] at before
        cases before
      · exact (Function.update_eq_self worker system.serving).symm
  | @returned worker signal target request result later source addressed served =>
      by_cases same : deployment.route id = worker
      · subst same
        exact .inr ⟨result, later, rfl⟩
      · refine .inl (frame (system.serving worker) same rfl ?_)
        exact (Function.update_eq_self worker system.serving).symm
  | @responded worker signal request result target source served after =>
      have differs : deployment.route id ≠ worker := by
        rintro rfl
        rw [point] at source
        rcases source with wrong | ⟨wrong, -⟩ <;> cases wrong
      cases result <;> exact .inl (frame _ differs rfl rfl)

/-- A worker receives no signal while it runs a step. -/
theorem Stepping.unreceived {system next : System deployment} {id : ActivityId} {cycle : Nat}
    {result : Except Error (Option Signal)} (stepping : Stepping system id cycle) :
    system.step (.worker (deployment.route id) (.receive result)) ≠ some next := by
  intro stepped
  obtain ⟨time, point, -⟩ := stepping
  cases step_move stepped with
  | accepted source =>
      rw [point] at source
      cases source
  | idled before =>
      rw [point] at before
      cases before

/-- The log keeps its entries. -/
theorem log_subset_of_step {system next : System deployment} {event : Event}
    (stepped : system.step event = some next) : system.log ⊆ next.log := by
  cases step_move stepped with
  | scheduled | sent | broadcast | idled => exact fun _ member => member
  | received | returned => exact List.subset_cons_self _ _
  | accepted =>
      unfold accept
      dsimp only
      split
      · exact List.subset_cons_self _ _
      · exact fun _ member => member
  | @responded worker signal request answer =>
      cases answer with
      | error => exact fun _ member => member
      | ok => exact List.subset_cons_self _ _

/-- The log records the return of a running function. -/
theorem log_of_returned {system next : System deployment} {worker : WorkerId}
    {request : Request} {result : Except ActivityError Unit} {time : Timestamp}
    (calling : Calling system worker request)
    (stepped : system.step (.worker worker (.returned result time)) = some next) :
    next.log = .returned request result :: system.log := by
  obtain ⟨point, serving⟩ := calling
  cases step_move stepped with
  | idled before =>
      rw [point] at before
      cases before
  | returned source addressed served =>
      cases served.symm.trans serving
      rfl

/-- A function returns only when its worker reports this. -/
theorem returned_of_step {system next : System deployment} {event : Event}
    (coherent : Coherent system) (stepped : system.step event = some next) {request : Request}
    {result : Except ActivityError Unit} (returned : Entry.returned request result ∈ next.log) :
    Entry.returned request result ∈ system.log ∨
      ∃ worker time, event = .worker worker (.returned result time) ∧
        Calling system worker request := by
  cases step_move stepped with
  | scheduled | sent | broadcast | idled => exact .inl returned
  | received => exact .inl (by simpa using returned)
  | accepted =>
      unfold accept at returned
      dsimp only at returned
      split at returned
      · exact .inl (by simpa using returned)
      · exact .inl returned
  | @returned worker signal target other answer time point addressed serving =>
      rcases List.mem_cons.mp returned with same | before
      · cases same
        exact .inr ⟨worker, time, rfl, (coherent.calling point serving).2⟩
      · exact .inl before
  | @responded worker signal other answer =>
      cases answer with
      | error => exact .inl returned
      | ok =>
          change _ ∈ Entry.replied _ :: system.log at returned
          exact .inl (by simpa using returned)

end Feo.System
