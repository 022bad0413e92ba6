import Feo.Foundation.Channel
import Feo.Proof.Time.Stamps

namespace Feo.Agents

open Foundation

variable {setup : DirectSetup}

/-- The worker's process is initialized, its thread has ended, or its queue has the property. -/
def Covered (agents : Agents setup) (property : List Downlink → Prop) (worker : WorkerId) : Prop :=
  agents.startupTime (setup.process worker) ≠ none ∨ agents.threads worker = .ended ∨
    property (agents.toWorker worker)

/-- The startup time is on its way to the worker. -/
def Syncs (queue : List Downlink) : Prop := ∃ info, .core (.startupSync info) ∈ queue

/-- A received signal other than the startup time keeps the property. -/
def Pops (property : List Downlink → Prop) : Prop :=
  ∀ first rest, (∀ info, first ≠ .core (.startupSync info)) → property (first :: rest) →
    property rest

theorem pops_syncs : Pops Syncs := by
  rintro first rest other ⟨info, member⟩
  exact ⟨info, (List.mem_cons.mp member).resolve_left (Ne.symm (other info))⟩

theorem pops_guarded : Pops Downlink.Guarded := fun _ _ other guarded => guarded.tail other

theorem Syncs.concat {queue : List Downlink} (syncs : Syncs queue) (last : Downlink) :
    Syncs (queue ++ [last]) := by
  obtain ⟨info, member⟩ := syncs
  exact ⟨info, List.mem_append_left _ member⟩

theorem Covered.push {agents : Agents setup} {property : List Downlink → Prop}
    {worker : WorkerId} (covered : agents.Covered property worker) (here : WorkerId)
    {signal : Downlink}
    (grows : worker = here → property (agents.toWorker here) →
      agents.Covered (fun queue => property (queue ++ [signal])) here) :
    (agents.push here signal).Covered property worker := by
  rcases covered with set | ended | queued
  · exact .inl set
  · exact .inr (.inl ended)
  · by_cases same : worker = here
    · subst same
      refine (grows rfl queued).imp_right fun later => later.imp_right fun grown => ?_
      change property (Function.update agents.toWorker worker _ worker)
      rw [Function.update_self]
      exact grown
    · refine .inr (.inr ?_)
      change property (Function.update agents.toWorker here _ worker)
      rw [Function.update_of_ne same]
      exact queued

theorem Covered.proceed {agents : Agents setup} {property : List Downlink → Prop}
    {worker here : WorkerId} {rest : List Downlink} (thread : WorkerThread)
    (covered : agents.Covered property worker) (alive : agents.threads here ≠ .ended)
    (kept : worker = here → property (agents.toWorker here) →
      agents.startupTime (setup.process here) ≠ none ∨ property rest) :
    (agents.proceed here thread rest).Covered property worker := by
  rcases covered with set | ended | queued
  · exact .inl set
  · have differs : worker ≠ here := by
      rintro rfl
      exact alive ended
    refine .inr (.inl ?_)
    exact (Function.update_of_ne differs _ _).trans ended
  · by_cases same : worker = here
    · subst same
      refine (kept rfl queued).imp_right fun left => .inr ?_
      change property (Function.update agents.toWorker worker _ worker)
      rw [Function.update_self]
      exact left
    · refine .inr (.inr ?_)
      change property (Function.update agents.toWorker here _ worker)
      rw [Function.update_of_ne same]
      exact queued

theorem Covered.ended {agents : Agents setup} {property : List Downlink → Prop}
    {worker : WorkerId} (covered : agents.Covered property worker) (here : WorkerId)
    (rest : List Downlink) : (agents.proceed here .ended rest).Covered property worker := by
  by_cases same : worker = here
  · subst same
    exact .inr (.inl (Function.update_self _ _ _))
  · refine covered.imp_right fun later => later.imp (fun ended => ?_) fun queued => ?_
    · exact (Function.update_of_ne same _ _).trans ended
    · change property (Function.update agents.toWorker here _ worker)
      rw [Function.update_of_ne same]
      exact queued

/-- The initialization of a process covers all of its workers. -/
theorem Covered.synced {agents : Agents setup} {property : List Downlink → Prop}
    {worker : WorkerId} (covered : agents.Covered property worker) (here : WorkerId)
    (thread : WorkerThread) (rest : List Downlink) {startup : StartupTime}
    (filled : startup ≠ none) :
    Covered { agents.proceed here thread rest with
      startupTime := Function.update agents.startupTime (setup.process here) startup }
      property worker := by
  by_cases shared : setup.process worker = setup.process here
  · refine .inl ?_
    change Function.update agents.startupTime (setup.process here) startup _ ≠ none
    rw [shared, Function.update_self]
    exact filled
  · have differs : worker ≠ here := fun same => shared (congrArg _ same)
    refine covered.imp (fun set => ?_) fun later => later.imp (fun ended => ?_) fun queued => ?_
    · change Function.update agents.startupTime (setup.process here) startup _ ≠ none
      rw [Function.update_of_ne shared]
      exact set
    · exact (Function.update_of_ne differs _ _).trans ended
    · change property (Function.update agents.toWorker here _ worker)
      rw [Function.update_of_ne differs]
      exact queued

/-- Each call of an activity comes after the initialization of its process. -/
structure Initialized (agents : Agents setup) : Prop where
  own : agents.main.Started → agents.startupTime setup.scheduler.agentId ≠ none
  silent : agents.startupTime setup.scheduler.agentId = none →
    ∀ worker core, .core core ∉ agents.toWorker worker
  home : ∀ worker, agents.threads worker = .connectSender →
    setup.process worker = setup.scheduler.agentId
  syncing : ∀ info remaining, agents.main = .syncTime info remaining →
    ∀ worker ∈ agents.syncTargets, worker ∈ remaining ∨ agents.Covered Syncs worker
  running : agents.main = .run → ∀ worker ∈ agents.syncTargets, agents.Covered Syncs worker
  guarded : ∀ worker, agents.Covered Downlink.Guarded worker
  calling : ∀ worker signal, agents.threads worker = .running (.call signal) →
    agents.startupTime (setup.process worker) ≠ none

theorem initialized_initial : Initialized (initial setup) where
  own started := by
    obtain ⟨scheduler, workers, mode⟩ := setup
    cases mode <;> cases started
  silent _ _ _ := List.not_mem_nil
  home worker thread := by
    obtain ⟨scheduler, workers, mode⟩ := setup
    cases mode with
    | mpsc => rfl
    | _ => cases thread
  syncing info remaining main := by
    obtain ⟨scheduler, workers, mode⟩ := setup
    cases mode <;> cases main
  running main := by
    obtain ⟨scheduler, workers, mode⟩ := setup
    cases mode <;> cases main
  guarded _ := .inr (.inr Downlink.guarded_nil)
  calling worker signal thread := by
    obtain ⟨scheduler, workers, mode⟩ := setup
    cases mode <;> cases thread

/-- A set startup time stays set. -/
theorem Move.set {agents next : Agents setup} (move : Move agents next) (process : AgentId)
    (set : agents.startupTime process ≠ none) : next.startupTime process ≠ none := by
  have updated (here : AgentId) {startup : StartupTime} (filled : startup ≠ none) :
      Function.update agents.startupTime here startup process ≠ none := by
    by_cases same : process = here
    · subst same
      rw [Function.update_self]
      exact filled
    · rw [Function.update_of_ne same]
      exact set
  cases move with
  | initialized filled => exact updated _ filled
  | synced _ filled => exact updated _ filled
  | _ => exact set

/-- A worker that loses the startup time while it connects belongs to the primary. -/
theorem Initialized.connecting_set {agents : Agents setup} (initialized : Initialized agents)
    {worker : WorkerId} (connecting : agents.threads worker = .connectSender) {core : Signal}
    (member : .core core ∈ agents.toWorker worker) :
    agents.startupTime (setup.process worker) ≠ none := by
  intro unset
  rw [initialized.home worker connecting] at unset
  exact initialized.silent unset worker core member

/-- The scheduler sends a signal for an activity of the worker. -/
def Routes (agents : Agents setup) (worker : WorkerId) : Prop :=
  agents.main = .run ∧ ∃ id result, agents.sendToActivity id result = .ok (.ok worker)

/-- The signals that a worker takes keep a property that only the startup time may change. -/
theorem Initialized.covered_move {agents next : Agents setup} {property : List Downlink → Prop}
    (initialized : Initialized agents) (move : Move agents next) (pops : Pops property)
    {worker : WorkerId} (covered : agents.Covered property worker)
    (grows : ∀ last, (last.targeted = true → agents.Routes worker) →
      property (agents.toWorker worker) →
      agents.Covered (fun queue => property (queue ++ [last])) worker) :
    next.Covered property worker := by
  have pushed (here : WorkerId) (signal : Downlink)
      (route : signal.targeted = true → agents.Routes here) :
      (agents.push here signal).Covered property worker := by
    refine covered.push here ?_
    rintro rfl queued
    exact grows signal route queued
  cases move with
  | answered greeting =>
      exact pushed _ _ fun targeted => (Downlink.not_targeted greeting targeted).elim
  | synchronized => exact pushed _ _ nofun
  | sent main route => exact pushed _ _ fun _ => ⟨main, _, _, route⟩
  | initialized filled => exact covered.imp_left ((Move.initialized filled (.inr (.inr rfl))).set _)
  | @broadcast time reached _ main =>
      by_cases member : worker ∈ reached
      · rcases covered with set | ended | queued
        · exact .inl set
        · exact .inr (.inl ended)
        · refine (grows (.core (.terminate time)) nofun queued).imp_right
            fun later => later.imp_right fun grown => ?_
          change property (if _ then _ else _)
          rw [if_pos member]
          exact grown
      · refine covered.imp_right fun later => later.imp_right fun queued => ?_
        change property (if _ then _ else _)
        rw [if_neg member]
        exact queued
  | @connected here first rest thread before head =>
      refine covered.proceed thread (by rw [before]; nofun) ?_
      rintro rfl queued
      by_cases sync : ∃ info, first = .core (.startupSync info)
      · obtain ⟨info, rfl⟩ := sync
        exact .inl (initialized.connecting_set before (by rw [head]; exact List.mem_cons_self))
      · rw [head] at queued
        exact .inr (pops first rest (fun info same => sync ⟨info, same⟩) queued)
  | acquired alive head =>
      refine covered.proceed _ alive fun _ queued => .inr ?_
      rw [head] at queued
      exact pops _ _ (fun info same => by cases same) queued
  | ended => exact covered.ended _ _
  | synced _ filled => exact covered.synced _ _ _ filled
  | received running head other =>
      refine covered.proceed _ (by rw [running]; nofun) fun _ queued => .inr ?_
      rw [head] at queued
      exact pops _ _ (fun info same => other info (Downlink.core.inj same)) queued
  | refused alive head other =>
      refine covered.proceed _ alive fun _ queued => .inr ?_
      rw [head] at queued
      exact pops _ _ (fun _ => other _) queued
  | worked _ alive => exact covered.proceed _ alive fun _ queued => .inr queued
  | _ => exact covered

/-- The startup time stays on its way until the worker receives it. -/
theorem Initialized.syncs_move {agents next : Agents setup} (initialized : Initialized agents)
    (move : Move agents next) {worker : WorkerId} (covered : agents.Covered Syncs worker) :
    next.Covered Syncs worker :=
  initialized.covered_move move pops_syncs covered fun last _ queued =>
    .inr (.inr (queued.concat last))

theorem Initialized.move_own {agents next : Agents setup} (initialized : Initialized agents)
    (move : Move agents next) :
    next.main.Started → next.startupTime setup.scheduler.agentId ≠ none := by
  intro started
  cases move with
  | greeted after | advanced after => exact (after started).elim
  | answered _ after => exact (after started).elim
  | initialized filled =>
      change Function.update agents.startupTime _ _ _ ≠ none
      rw [Function.update_self]
      exact filled
  | synchronized main | ran main => exact initialized.own (by rw [main]; exact trivial)
  | synced head filled => exact (Move.synced head filled).set _ (initialized.own started)
  | _ => exact initialized.own started

theorem Initialized.move_silent {agents next : Agents setup} (initialized : Initialized agents)
    (move : Move agents next) :
    next.startupTime setup.scheduler.agentId = none →
      ∀ worker core, .core core ∉ next.toWorker worker := by
  intro unset worker core member
  have before : agents.startupTime setup.scheduler.agentId = none := by
    by_contra set
    exact move.set _ set unset
  have absent := initialized.silent before worker core
  have unstarted (main : agents.main.Started) : False := initialized.own main before
  cases move with
  | answered greeting =>
      rcases mem_update_concat.mp member with earlier | ⟨rfl, same⟩
      · exact absent earlier
      · exact greeting core same.symm
  | synchronized main | ran main | sent main | broadcast main =>
      exact unstarted (by rw [main]; exact trivial)
  | connected _ head | acquired _ head | received _ head | refused _ head =>
      exact absent (mem_of_mem_update head member)
  | synced head =>
      exact initialized.silent before _ _ (by rw [head]; exact List.mem_cons_self)
  | @ended here rest fewer =>
      by_cases same : worker = here
      · subst same
        change _ ∈ Function.update agents.toWorker worker rest worker at member
        rw [Function.update_self] at member
        exact absent (fewer _ member)
      · change _ ∈ Function.update agents.toWorker here rest worker at member
        rw [Function.update_of_ne same] at member
        exact absent member
  | @worked here =>
      change _ ∈ Function.update agents.toWorker here (agents.toWorker here) worker at member
      rw [Function.update_eq_self] at member
      exact absent member
  | _ => exact absent member

theorem Initialized.move_home {agents next : Agents setup} (initialized : Initialized agents)
    (move : Move agents next) :
    ∀ worker, next.threads worker = .connectSender →
      setup.process worker = setup.scheduler.agentId := by
  intro worker
  have changed (here : WorkerId) (thread : WorkerThread)
      (settled : thread = .connectSender → agents.threads here = .connectSender)
      (connecting : Function.update agents.threads here thread worker = .connectSender) :
      setup.process worker = setup.scheduler.agentId := by
    by_cases same : worker = here
    · subst same
      rw [Function.update_self] at connecting
      exact initialized.home worker (settled connecting)
    · rw [Function.update_of_ne same] at connecting
      exact initialized.home worker connecting
  cases move with
  | connected before => exact changed _ _ fun _ => before
  | acquired => exact changed _ _ nofun
  | ended => exact changed _ _ nofun
  | synced => exact changed _ _ nofun
  | received => exact changed _ _ nofun
  | refused => exact changed _ _ nofun
  | worked => exact changed _ _ nofun
  | _ => exact initialized.home worker

/-- Only a hello changes the targets of the synchronization. -/
theorem Initialized.move_syncing {agents next : Agents setup} (initialized : Initialized agents)
    (move : Move agents next) :
    ∀ info remaining, next.main = .syncTime info remaining →
      ∀ worker ∈ next.syncTargets, worker ∈ remaining ∨ next.Covered Syncs worker := by
  intro info remaining syncing worker target
  have unstarted {main : MainThread} (after : ¬ main.Started)
      (same : main = .syncTime info remaining) : False := by
    rw [same] at after
    exact after trivial
  have later (before : worker ∈ remaining ∨ agents.Covered Syncs worker) :
      worker ∈ remaining ∨ next.Covered Syncs worker :=
    before.imp_right (initialized.syncs_move move)
  cases move with
  | greeted after | advanced after => exact (unstarted after syncing).elim
  | answered _ after => exact (unstarted after syncing).elim
  | initialized filled after =>
      rcases after with ⟨rfl, _⟩ | ⟨_, rfl⟩ | rfl
      · cases syncing
      · cases syncing
        exact .inl target
      · cases syncing
  | @synchronized _ here rest main =>
      cases syncing
      by_cases same : worker = here
      · subst same
        refine .inr (.inr (.inr ⟨info, ?_⟩))
        change _ ∈ Function.update agents.toWorker worker _ worker
        rw [Function.update_self]
        exact List.mem_append_right _ (List.mem_singleton_self _)
      · refine later ((initialized.syncing _ _ main worker target).imp_left fun waits => ?_)
        exact (List.mem_cons.mp waits).resolve_left same
  | ran => cases syncing
  | _ => exact later (initialized.syncing info remaining syncing worker target)

theorem Initialized.move_running {agents next : Agents setup} (initialized : Initialized agents)
    (move : Move agents next) :
    next.main = .run → ∀ worker ∈ next.syncTargets, next.Covered Syncs worker := by
  intro running worker target
  have unstarted {main : MainThread} (after : ¬ main.Started) (same : main = .run) : False := by
    rw [same] at after
    exact after trivial
  have later (before : agents.Covered Syncs worker) : next.Covered Syncs worker :=
    initialized.syncs_move move before
  cases move with
  | greeted after | advanced after => exact (unstarted after running).elim
  | answered _ after => exact (unstarted after running).elim
  | initialized filled after =>
      rcases after with ⟨rfl, empty⟩ | ⟨_, rfl⟩ | rfl
      · change worker ∈ agents.syncTargets at target
        rw [empty] at target
        cases target
      · cases running
      · cases running
  | synchronized => cases running
  | ran main =>
      exact later ((initialized.syncing _ _ main worker target).resolve_left List.not_mem_nil)
  | _ => exact later (initialized.running running worker target)

/-- The scheduler reaches a worker only after its startup time has been sent. -/
theorem sendToActivity_target {agents : Agents setup} {id : ActivityId}
    {result : Except Error Unit} {worker : WorkerId}
    (route : agents.sendToActivity id result = .ok (.ok worker)) :
    worker ∈ agents.syncTargets ∨ setup.process worker = setup.scheduler.agentId := by
  unfold sendToActivity at route
  unfold syncTargets DirectSetup.process
  split at route
  · next host activityAgentMap connectionTimeout mode =>
      rw [mode]
      refine .inl ?_
      unfold Direct.SchedulerConnector.sendToActivity at route
      split at route
      · next token found =>
          cases result with
          | error error => cases route
          | ok value =>
              cases route
              have stored := (HashMap.get?_eq_some_iff _ _ _).mp found
              refine List.mem_map_of_mem ?_
              exact List.mem_map.mpr ⟨id, stored⟩
      · cases route
  · next mode =>
      rw [mode]
      exact .inr rfl
  · next agentAssignments mode =>
      rw [mode]
      refine .inl ?_
      unfold MwCom.SchedulerConnector.sendToActivity MwCom.SchedulerConnector.publisher at route
      split at route
      · cases route
      · next destined _ =>
          split at route
          · cases route
          · next offered =>
              cases result with
              | error error => cases route
              | ok value =>
                  cases route
                  exact ((HashMap.get?_eq_some_iff _ _ _).mp offered).1

theorem Initialized.move_guarded {agents next : Agents setup} (initialized : Initialized agents)
    (move : Move agents next) : ∀ worker, next.Covered Downlink.Guarded worker := by
  intro worker
  refine initialized.covered_move move pops_guarded (initialized.guarded worker) ?_
  intro last routed guarded
  by_cases targeted : last.targeted = true
  · obtain ⟨running, id, result, route⟩ := routed targeted
    rcases sendToActivity_target route with target | here
    · refine (initialized.running running worker target).imp_right fun later =>
        later.imp_right fun syncs => ?_
      exact guarded.concat fun _ => syncs
    · exact .inl (by rw [here]; exact initialized.own (by rw [running]; exact trivial))
  · exact .inr (.inr (guarded.concat fun contrary => (targeted contrary).elim))

theorem Initialized.move_calling {agents next : Agents setup} (initialized : Initialized agents)
    (move : Move agents next) :
    ∀ worker signal, next.threads worker = .running (.call signal) →
      next.startupTime (setup.process worker) ≠ none := by
  intro worker signal calls
  have set := move.set (setup.process worker)
  have changed (here : WorkerId) (thread : WorkerThread)
      (calls : Function.update agents.threads here thread worker = .running (.call signal))
      (settled : thread = .running (.call signal) →
        agents.startupTime (setup.process here) ≠ none) :
      agents.startupTime (setup.process worker) ≠ none := by
    by_cases same : worker = here
    · subst same
      rw [Function.update_self] at calls
      exact settled calls
    · rw [Function.update_of_ne same] at calls
      exact initialized.calling worker signal calls
  cases move with
  | connected _ _ after =>
      refine set (changed _ _ calls ?_)
      rcases after with rfl | rfl <;> exact nofun
  | acquired => exact set (changed _ _ calls nofun)
  | ended => exact set (changed _ _ calls nofun)
  | synced => exact set (changed _ _ calls nofun)
  | @received here other rest running head =>
      refine set (changed _ _ calls ?_)
      intro same
      have targeted := Worker.handleSignal_call (WorkerThread.running.inj same)
      rcases initialized.guarded here with filled | ended | guarded
      · exact filled
      · rw [running] at ended
        cases ended
      · rw [head] at guarded
        have untargeted := guarded.head
        rw [Downlink.targeted, targeted] at untargeted
        cases untargeted
  | refused => exact set (changed _ _ calls nofun)
  | worked quiet =>
      refine set (changed _ _ calls ?_)
      intro same
      exact (quiet signal (WorkerThread.running.inj same)).elim
  | _ => exact set (initialized.calling worker signal calls)

theorem Initialized.move {agents next : Agents setup} (initialized : Initialized agents)
    (move : Move agents next) : Initialized next where
  own := initialized.move_own move
  silent := initialized.move_silent move
  home := initialized.move_home move
  syncing := initialized.move_syncing move
  running := initialized.move_running move
  guarded := initialized.move_guarded move
  calling := initialized.move_calling move

theorem run_initialized {history : List Event} {agents : Agents setup}
    (reached : (machine setup).run (initial setup) history = some agents) : Initialized agents :=
  (machine setup).run_preserves Initialized
    (fun _ _ _ initialized stepped => initialized.move (step_move stepped)) initialized_initial
    reached

end Feo.Agents
