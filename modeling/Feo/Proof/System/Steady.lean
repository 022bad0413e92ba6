import Feo.Proof.Scheduler.Owing
import Feo.Proof.System.Announcement

namespace Feo

open Foundation

/-- A worker that stays in its loop receives, calls an activity, or answers. -/
def Worker.Point.running : Worker.Point → Bool
  | .receive => true
  | .call _ => true
  | .respond _ => true
  | _ => false

/-- The worker of each activity has the activity. -/
def Deployment.Hosts (deployment : Deployment) : Prop :=
  ∀ id ∈ deployment.scheduler.activityDepends.keys,
    id ∈ (deployment.workers (deployment.route id)).activities

theorem Worker.handleSignal_hosted {worker : Worker} {signal : Signal} {id : ActivityId}
    (target : signal.target? = some id) (hosted : id ∈ worker.activities) :
    worker.handleSignal signal = .call signal := by
  cases signal with
  | startup other time | step other time | shutdown other time =>
      cases target
      exact if_pos hosted
  | _ => cases target

/-- A worker that receives nothing waits on. -/
theorem Worker.step_receive_none {worker : Worker} {point next : Point}
    (stepped : worker.step point (.receive (.ok none)) = some next) :
    point = .receive ∧ next = .receive := by
  cases point with
  | receive =>
      cases stepped
      exact ⟨rfl, rfl⟩
  | call signal => cases signal <;> cases stepped
  | _ => cases stepped

theorem Worker.step_lingered {worker : Worker} {point next : Point}
    (stepped : worker.step point .lingered = some next) : point = .linger := by
  cases point with
  | linger => rfl
  | call signal => cases signal <;> cases stepped
  | _ => cases stepped

theorem Scheduler.Transition.broadcast_stage {scheduler : Scheduler}
    {execution next : Execution scheduler} {signal : Signal} {result : Except Error Unit}
    (transition : Transition execution (.broadcastTerminate signal result) next) :
    next.point.stage = .acknowledging := by
  cases transition
  rfl

namespace System

variable {deployment : Deployment}

/-- No activity and no channel of a worker fails. -/
def Event.succeeds : Event → Bool
  | .worker _ (.receive (.error _)) => false
  | .worker _ (.returned (.error _) _) => false
  | .worker _ (.sendToScheduler _ (.error _)) => false
  | _ => true

/-- The workers run without failures, and their channels hold what the activities owe. -/
structure Steady (system : System deployment) : Prop where
  running : ∀ worker, (system.points worker).running = true
  addressed : ∀ worker, ∀ request ∈ system.pipeline worker,
    ∃ id ∈ deployment.scheduler.activityDepends.keys,
      request.signal.target? = some id ∧ deployment.route id = worker
  healthy : ∀ request error, Entry.returned request (.error error) ∉ system.log
  owing : Scheduler.Owing system.execution fun id => system.pending id ≠ []

theorem steady_initial (deployment : Deployment) : Steady (initial deployment) where
  running _ := rfl
  addressed _ _ member := by cases member
  healthy _ _ member := by cases member
  owing := Scheduler.owing_initial _ _

/-- A step without failures moves the scheduler, a signal, or a worker in its loop. -/
inductive Advance (system : System deployment) : Event → System deployment → Prop where
  | scheduled {event : Scheduler.Event} {execution : Scheduler.Execution deployment.scheduler}
      (isLocal : event.isLocal = true)
      (transition : Scheduler.Transition system.execution event execution) :
      Advance system (.scheduler event) { system with execution := execution }
  | sent {id : ActivityId} {signal : Signal}
      {execution : Scheduler.Execution deployment.scheduler}
      (transition : Scheduler.Transition system.execution (.sendToActivity id signal (.ok ()))
        execution) :
      Advance system (.send id signal)
        { system with execution := execution, requests := system.enqueue id signal }
  | answered {worker : WorkerId} {reply : Reply} {rest : List Reply} {id : ActivityId}
      {time : Timestamp} {execution : Scheduler.Execution deployment.scheduler}
      (head : system.replies worker = reply :: rest) (ready : reply.signal = .ready id time)
      (addressed : reply.request.signal.target? = some id)
      (transition : Scheduler.Transition system.execution (.receive (.ok (some reply.signal)))
        execution) :
      Advance system (.receive worker reply.signal)
        { system with
          execution := execution
          replies := Function.update system.replies worker rest
          log := .answered reply :: system.log }
  | waited {worker : WorkerId} : Advance system (.worker worker (.receive (.ok none))) system
  | accepted {worker : WorkerId} {request : Request} {rest : List Request}
      (point : system.points worker = .receive) (head : system.requests worker = request :: rest)
      (serving : system.serving worker = none) :
      Advance system (.worker worker (.receive (.ok (some request.signal))))
        (system.accept worker request rest (.call request.signal))
  | returned {worker : WorkerId} {signal : Signal} {request : Request} {target : ActivityId}
      {time : Timestamp} (point : system.points worker = .call signal)
      (serving : system.serving worker = some request) :
      Advance system (.worker worker (.returned (.ok ()) time))
        { system with
          points := Function.update system.points worker (.respond (.ready target time))
          log := .returned request (.ok ()) :: system.log }
  | responded {worker : WorkerId} {signal : Signal} {request : Request}
      (point : system.points worker = .respond signal)
      (serving : system.serving worker = some request) :
      Advance system (.worker worker (.sendToScheduler signal (.ok ())))
        (system.respond worker request signal (.ok ()) .receive)

/-- A reply without failures reports that its activity is ready. -/
theorem Steady.ready {system : System deployment} (steady : Steady system) {reply : Reply}
    (genuine : Genuine system.log reply) {id : ActivityId}
    (addressed : reply.request.signal.target? = some id) :
    ∃ time, reply.signal = .ready id time := by
  rcases genuine with ⟨target, time, result, known, same, returned⟩ | ⟨agent, -, unaddressed⟩
  · cases addressed.symm.trans known
    cases result with
    | ok value => exact ⟨time, same⟩
    | error error => exact absurd returned (steady.healthy _ _)
  · rw [unaddressed] at addressed
    cases addressed

/-- A worker of a steady system accepts each request with a call. -/
theorem Steady.accepts {system : System deployment} (steady : Steady system)
    (hosts : deployment.Hosts) {worker : WorkerId} {request : Request} {rest : List Request}
    (head : system.requests worker = request :: rest) :
    (deployment.workers worker).handleSignal request.signal = .call request.signal := by
  obtain ⟨id, known, target, route⟩ :=
    steady.addressed worker request (by simp [pipeline, head])
  have hosted := hosts id known
  rw [route] at hosted
  exact Worker.handleSignal_hosted target hosted

/-- Each successful step of a worker in its loop is an advance. -/
theorem Steady.advance_worker {system next : System deployment} (steady : Steady system)
    (coherent : Coherent system) (hosts : deployment.Hosts) {worker : WorkerId}
    {event : Worker.Event} (succeeds : Event.succeeds (.worker worker event) = true)
    (stepped : system.step (.worker worker event) = some next) :
    Advance system (.worker worker event) next := by
  have running := steady.running worker
  rw [step, workerStep] at stepped
  cases worked : (deployment.workers worker).step (system.points worker) event with
  | none =>
      rw [worked] at stepped
      cases stepped
  | some point =>
      rw [worked] at stepped
      cases event with
      | receive result =>
          cases result with
          | error error => cases succeeds
          | ok received =>
              cases received with
              | none =>
                  cases stepped
                  obtain ⟨waits, rfl⟩ := Worker.step_receive_none worked
                  rw [← waits, Function.update_eq_self]
                  exact .waited
              | some signal =>
                  cases head : system.requests worker with
                  | nil =>
                      rw [head] at stepped
                      cases stepped
                  | cons request rest =>
                      rw [head] at stepped
                      dsimp only at stepped
                      split at stepped
                      · next same =>
                          subst same
                          cases stepped
                          obtain ⟨source, rfl⟩ := Worker.step_receive_some worked
                          rw [steady.accepts hosts head]
                          have idle : (system.points worker).busy = false := by
                            rw [source]
                            rfl
                          exact .accepted source head
                            ((coherent.serves worker).serving_eq_none idle)
                      · cases stepped
      | returned result time =>
          obtain ⟨signal, target, source, -, rfl⟩ := Worker.step_returned worked
          cases result with
          | error error => cases succeeds
          | ok value =>
              cases serving : system.serving worker with
              | none =>
                  rw [serving] at stepped
                  cases stepped
              | some request =>
                  rw [serving] at stepped
                  cases stepped
                  exact .returned source serving
      | sendToScheduler signal result =>
          obtain ⟨source, -⟩ := Worker.step_sendToScheduler worked
          cases result with
          | error error => cases succeeds
          | ok value =>
              cases serving : system.serving worker with
              | none =>
                  rw [serving] at stepped
                  cases stepped
              | some request =>
                  rw [serving] at stepped
                  rcases source with source | ⟨source, -⟩
                  · rw [source, Worker.step, if_pos rfl] at worked
                    cases worked
                    cases stepped
                    exact .responded source serving
                  · rw [source] at running
                    cases running
      | lingered =>
          have lingers := Worker.step_lingered worked
          rw [lingers] at running
          cases running

/-- Each successful step of a steady system is an advance. -/
theorem Steady.advance {system next : System deployment} (steady : Steady system)
    (coherent : Coherent system) (hosts : deployment.Hosts) {event : Event}
    (succeeds : event.succeeds = true) (stepped : system.step event = some next)
    (active : next.execution.point.stage.Active) : Advance system event next := by
  cases event with
  | worker id event => exact steady.advance_worker coherent hosts succeeds stepped
  | scheduler event =>
      cases step_move stepped with
      | scheduled isLocal transition => exact .scheduled isLocal transition
  | send id signal =>
      cases step_move stepped with
      | sent transition => exact .sent transition
  | receive worker signal =>
      cases step_move stepped with
      | @received _ reply rest execution head transition =>
          obtain ⟨id, -, addressed, -⟩ :=
            steady.addressed worker reply.request (by simp [pipeline, head])
          have genuine := coherent.replied worker reply (by rw [head]; exact List.mem_cons_self)
          obtain ⟨time, ready⟩ := steady.ready genuine addressed
          exact .answered head ready addressed transition
  | broadcast signal result reached =>
      cases step_move stepped with
      | broadcast transition =>
          have passive := Scheduler.Transition.broadcast_stage transition
          exact absurd passive (Scheduler.Stage.Active.ne_acknowledging active)

/-- An accepted request and an answer stay in the channels of their worker. -/
theorem pipeline_answered {system : System deployment} {worker : WorkerId} {request : Request}
    (serving : system.serving worker = some request) (signal : Signal) (other : WorkerId) :
    (system.respond worker request signal (.ok ()) .receive).pipeline other =
      system.pipeline other := by
  unfold pipeline respond
  by_cases same : other = worker
  · subst same
    simp [serving]
  · simp [same]

theorem pending_congr {system next : System deployment}
    (same : ∀ worker, next.pipeline worker = system.pipeline worker) (id : ActivityId) :
    next.pending id = system.pending id := by
  unfold pending
  rw [same]

/-- A step of a worker keeps what the activities owe. -/
theorem Steady.worked {system next : System deployment} (steady : Steady system)
    (running : ∀ worker, (next.points worker).running = true)
    (pipeline : ∀ worker, next.pipeline worker = system.pipeline worker)
    (healthy : ∀ request error, Entry.returned request (.error error) ∉ next.log)
    (execution : next.execution = system.execution) : Steady next := by
  refine ⟨running, ?_, healthy, ?_⟩
  · intro worker request member
    rw [pipeline] at member
    exact steady.addressed worker request member
  · rw [execution]
    have owing := steady.owing
    refine ⟨fun id asked unready => ?_, owing.unready⟩
    rw [pending_congr pipeline]
    exact owing.outstanding id asked unready

theorem running_update {points : WorkerId → Worker.Point}
    (running : ∀ worker, (points worker).running = true) {worker : WorkerId}
    {point : Worker.Point} (goes : point.running = true) (other : WorkerId) :
    (Function.update points worker point other).running = true := by
  rw [Function.update_apply]
  split
  · exact goes
  · exact running other

/-- The scheduler sends only to its own activities. -/
theorem known_of_send {system : System deployment}
    {events : List Event} (reached : (machine deployment).run (initial deployment) events =
      some system) {id : ActivityId} {signal : Signal}
    {execution : Scheduler.Execution deployment.scheduler}
    (transition : Scheduler.Transition system.execution (.sendToActivity id signal (.ok ()))
      execution) (active : execution.point.stage.Active) :
    id ∈ deployment.scheduler.activityDepends.keys := by
  have scanning := Scheduler.run_scanning (run_calls reached)
  have lifecycle := Scheduler.run_lifecycle (run_calls reached)
  generalize system.execution = source at transition scanning lifecycle
  cases transition with
  | startupSent =>
      obtain ⟨done, split, -⟩ := lifecycle.starting _ _ rfl
      rw [← mem_sortIds, split]
      exact List.mem_append_right _ List.mem_cons_self
  | stepSent => exact scanning.stepped.1
  | shutdownSent =>
      rcases Scheduler.shutdownActivities_stage _ _ _ _ _ with stopping | panicked
      · exact absurd active stopping.not_active
      · exact absurd panicked active.ne_panicked

/-- Each advance keeps the system steady while the scheduler is active. -/
theorem Advance.steady {system next : System deployment} {event : Event}
    (advance : Advance system event next) (steady : Steady system) {events : List Event}
    (reached : (machine deployment).run (initial deployment) events = some system)
    (active : next.execution.point.stage.Active) : Steady next := by
  have coherent := run_coherent reached
  cases advance with
  | waited => exact steady
  | scheduled isLocal transition =>
      obtain ⟨unsent, -⟩ := unsent_of_local isLocal
      refine ⟨steady.running, steady.addressed, steady.healthy, ?_⟩
      exact transition.shift.owing steady.owing active
        (fun id signal value same => absurd same (unsent id signal value)) fun _ => .inr
  | @sent id signal execution transition =>
      have target := target?_of_transition transition
      have known := known_of_send reached transition active
      refine ⟨steady.running, ?_, steady.healthy, ?_⟩
      · intro worker request member
        rw [pipeline_sent, List.mem_append] at member
        rcases member with earlier | last
        · exact steady.addressed worker request earlier
        · split at last
          · next same =>
              rw [List.mem_singleton.mp last]
              exact ⟨id, known, target, same.symm⟩
          · cases last
      · refine transition.shift.owing steady.owing active ?_ ?_
        · intro other sent value same
          cases same
          rw [pending_sent system target, if_pos rfl]
          exact List.append_ne_nil_of_right_ne_nil _ (List.cons_ne_nil _ _)
        · intro other owes
          rw [pending_sent system target]
          exact .inr (List.append_ne_nil_of_left_ne_nil owes _)
  | @answered worker reply rest id time execution head ready addressed transition =>
      refine ⟨steady.running, ?_, ?_, ?_⟩
      · intro other request member
        apply steady.addressed other request
        rw [pipeline_received head execution (.answered reply :: system.log)]
        exact List.mem_append_right _ member
      · intro request error member
        rcases List.mem_cons.mp member with wrong | earlier
        · cases wrong
        · exact steady.healthy request error earlier
      · refine transition.shift.owing steady.owing active (fun _ _ _ wrong => by cases wrong) ?_
        intro other owes
        rw [pending_received coherent head addressed execution (.answered reply :: system.log)
          other] at owes
        by_cases same : other = id
        · rw [ready, same]
          exact .inl rfl
        · rw [if_neg same, List.nil_append] at owes
          exact .inr owes
  | @accepted worker request rest point head serving =>
      refine steady.worked (running_update steady.running rfl)
        (pipeline_called serving head rfl) ?_ rfl
      intro other error member
      rw [show (system.accept worker request rest (.call request.signal)).log =
        .called request :: system.log from if_pos rfl] at member
      rcases List.mem_cons.mp member with wrong | earlier
      · cases wrong
      · exact steady.healthy other error earlier
  | @returned worker signal request target time point serving =>
      refine steady.worked (running_update steady.running rfl) (fun _ => rfl) ?_ rfl
      intro other error member
      rcases List.mem_cons.mp member with wrong | earlier
      · cases wrong
      · exact steady.healthy other error earlier
  | @responded worker signal request point serving =>
      refine steady.worked (running_update steady.running rfl)
        (pipeline_answered serving signal) ?_ rfl
      intro other error member
      rcases List.mem_cons.mp member with wrong | earlier
      · cases wrong
      · exact steady.healthy other error earlier

/-- The scheduler was active before each step to an active point. -/
theorem active_of_step {system next : System deployment} {event : Event}
    (coherent : Coherent system) (stepped : system.step event = some next)
    (active : next.execution.point.stage.Active) : system.execution.point.stage.Active :=
  ((step_move stepped).flow coherent).source_active active

/-- A run without failures stays steady while the scheduler is active. -/
theorem run_steady {events : List Event} {system : System deployment} (hosts : deployment.Hosts)
    (reached : (machine deployment).run (initial deployment) events = some system)
    (succeeds : ∀ event ∈ events, event.succeeds = true)
    (active : system.execution.point.stage.Active) : Steady system := by
  refine (machine deployment).run_induction (fun events system =>
    (∀ event ∈ events, event.succeeds = true) → system.execution.point.stage.Active →
      Steady system) (fun _ _ => steady_initial deployment) ?_ reached succeeds active
  intro history system event next before hypothesis stepped succeeds active
  obtain ⟨earlier, last⟩ := List.forall_mem_append.mp succeeds
  have coherent := run_coherent before
  have steady := hypothesis earlier (active_of_step coherent stepped active)
  exact (steady.advance coherent hosts (last event List.mem_cons_self) stepped active).steady
    steady before active

end System

end Feo
