import Feo.Proof.System.Round

namespace Feo.System

open Foundation
open Scheduler (States allReady clearFlags markReady markTriggered)

variable {deployment : Deployment}

/-- The startup activities are asked in the given order. -/
def startupAsked (scheduler : Scheduler) (rest : List ActivityId) (id : ActivityId) : Prop :=
  id ∈ scheduler.activityDepends.keys ∧ id ∉ rest

/-- The triggered activities are asked in the current chain. -/
def stepAsked {scheduler : Scheduler} (states : States scheduler) (id : ActivityId) : Prop :=
  id ∈ scheduler.activityDepends.keys ∧ (states.val.value id).triggered = true

/-- The startup of each activity has returned successfully. -/
def StartedUp (scheduler : Scheduler) (log : List Entry) : Prop :=
  ∀ id ∈ scheduler.activityDepends.keys, ∃ time,
    Entry.returned ⟨.startup id time, 0⟩ (.ok ()) ∈ log

/-- The channels carry the requests of the round in which the scheduler works. -/
structure Working {scheduler : Scheduler} (execution : Scheduler.Execution scheduler)
    (pending : ActivityId → List Request) (log : List Entry) : Prop where
  starting : ∀ activity remaining, execution.point = .startup activity remaining →
    execution.cycle = 0 ∧ Round 0 .startup (startupAsked scheduler (activity :: remaining))
      execution.states pending log
  waiting : execution.point.stage = .waiting →
    execution.cycle = 0 ∧ Round 0 .startup (startupAsked scheduler []) execution.states pending log
  chaining : execution.point.stage = .chaining → StartedUp scheduler log ∧
    Round execution.cycle .step (stepAsked execution.states) execution.states pending log

section Introduction

variable {scheduler : Scheduler} {execution : Scheduler.Execution scheduler}
  {pending : ActivityId → List Request} {log : List Entry}

theorem Working.of_passive (passive : ¬ execution.point.stage.Active) :
    Working execution pending log where
  starting activity remaining same := by
    rw [same] at passive
    exact absurd (.inl rfl) passive
  waiting stage := absurd (.inr (.inl stage)) passive
  chaining stage := absurd (.inr (.inr stage)) passive

theorem Working.of_waiting (stage : execution.point.stage = .waiting) (first : execution.cycle = 0)
    (round : Round 0 .startup (startupAsked scheduler []) execution.states pending log) :
    Working execution pending log where
  starting activity remaining same := by
    rw [same] at stage
    cases stage
  waiting _ := ⟨first, round⟩
  chaining other := by cases stage.symm.trans other

theorem Working.of_chaining (stage : execution.point.stage = .chaining)
    (started : StartedUp scheduler log)
    (round : Round execution.cycle .step (stepAsked execution.states) execution.states pending
      log) : Working execution pending log where
  starting activity remaining same := by
    rw [same] at stage
    cases stage
  waiting other := by cases stage.symm.trans other
  chaining _ := ⟨started, round⟩

theorem StartedUp.mono {extended : List Entry} (started : StartedUp scheduler log)
    (grows : log ⊆ extended) : StartedUp scheduler extended := by
  intro id member
  obtain ⟨time, returned⟩ := started id member
  exact ⟨time, grows returned⟩

/-- The work survives the loss of requests and the growth of the log. -/
theorem Working.mono (working : Working execution pending log)
    {rest : ActivityId → List Request} {extended : List Entry}
    (shrinks : ∀ id, (rest id).Sublist (pending id)) (grows : Grows log extended) :
    Working execution rest extended where
  starting activity remaining same := by
    obtain ⟨first, round⟩ := working.starting activity remaining same
    exact ⟨first, round.mono shrinks grows⟩
  waiting stage := by
    obtain ⟨first, round⟩ := working.waiting stage
    exact ⟨first, round.mono shrinks grows⟩
  chaining stage := by
    obtain ⟨started, round⟩ := working.chaining stage
    exact ⟨started.mono grows.1, round.mono shrinks grows⟩

theorem Working.call (working : Working execution pending log) {id : ActivityId}
    {request : Request} (addressed : request.signal.target? = some id)
    (member : request ∈ pending id) : Working execution pending (.called request :: log) where
  starting activity remaining same := by
    obtain ⟨first, round⟩ := working.starting activity remaining same
    exact ⟨first, round.call addressed member⟩
  waiting stage := by
    obtain ⟨first, round⟩ := working.waiting stage
    exact ⟨first, round.call addressed member⟩
  chaining stage := by
    obtain ⟨started, round⟩ := working.chaining stage
    exact ⟨started.mono (List.subset_cons_self _ _), round.call addressed member⟩

/-- The work does not depend on the point within a stage. -/
theorem Working.stay (working : Working execution pending log)
    {next : Scheduler.Execution scheduler}
    (running : execution.point.stage = .waiting ∨ execution.point.stage = .chaining)
    (stage : next.point.stage = execution.point.stage)
    (states : next.states = execution.states) (cycle : next.cycle = execution.cycle) :
    Working next pending log := by
  rcases running with waits | chains
  · obtain ⟨first, round⟩ := working.waiting waits
    exact .of_waiting (stage.trans waits) (cycle.trans first) (by rw [states]; exact round)
  · obtain ⟨started, round⟩ := working.chaining chains
    exact .of_chaining (stage.trans chains) started (by rw [cycle, states]; exact round)

end Introduction

/-- The counter stays, or the earlier round is complete. -/
def Advances {scheduler : Scheduler} (cycle : Nat) (next : Scheduler.Execution scheduler)
    (pending : ActivityId → List Request) (log : List Entry) : Prop :=
  next.cycle = cycle ∨ next.cycle = cycle + 1 ∧
    ∃ signal, Completed scheduler cycle signal pending log

/-- No request of a later chain was called. -/
def Current (cycle : Nat) (log : List Entry) : Prop :=
  ∀ request, Entry.called request ∈ log → request.cycle ≤ cycle

theorem Current.grows {cycle : Nat} {log extended : List Entry} (current : Current cycle log)
    (grows : Grows log extended) : Current cycle extended :=
  fun request member => current request (grows.2 request member)

section Chain

variable {scheduler : Scheduler} {states : States scheduler} {cycle : Nat}
  {pending : ActivityId → List Request} {log : List Entry}

/-- A complete round leads to the next task chain. -/
theorem working_taskChain {signal : ActivityId → Timestamp → Signal}
    (completed : Completed scheduler cycle signal pending log)
    (started : StartedUp scheduler log) (current : Current cycle log) :
    Working (Scheduler.taskChain states cycle) pending log ∧
      Advances cycle (Scheduler.taskChain states cycle) pending log := by
  have continues := Scheduler.taskChain_continues states cycle
  refine ⟨.of_chaining continues.stage_eq started ?_, .inr ⟨continues.cycle_eq, signal, completed⟩⟩
  rw [continues.states_eq, continues.cycle_eq]
  apply round_begin (fun _ _ => rfl) completed.empty
  · intro request member same
    have bound := current request member
    omega
  · intro id
    rfl
  · rintro id ⟨-, triggered⟩
    cases triggered

/-- The startup wait continues its round or begins the first task chain. -/
theorem working_startupLoop
    (round : Round 0 .startup (startupAsked scheduler []) states pending log)
    (current : Current 0 log) :
    Working (Scheduler.startupLoop states) pending log ∧
      Advances 0 (Scheduler.startupLoop states) pending log := by
  rcases Scheduler.startupLoop_cases states with ⟨all, same⟩ | ⟨-, same⟩
  · have completed := round.complete all
    rw [same]
    exact working_taskChain completed completed.returned current
  · rw [same]
    exact ⟨.of_waiting rfl rfl round, .inl rfl⟩

/-- The next startup signal extends the startup round. -/
theorem working_startupActivities {activity : ActivityId} {remaining : List ActivityId}
    {time : Timestamp} {extended : ActivityId → List Request}
    (round : Round 0 .startup (startupAsked scheduler (activity :: remaining)) states pending log)
    (known : activity ∈ scheduler.activityDepends.keys) (fresh : activity ∉ remaining)
    (sent : ∀ other, extended other =
      pending other ++ if other = activity then [⟨.startup activity time, 0⟩] else [])
    (current : Current 0 log) :
    Working (Scheduler.startupActivities states remaining) extended log ∧
      (Scheduler.startupActivities states remaining).cycle = 0 := by
  have asks : Round 0 .startup (startupAsked scheduler remaining) states extended log := by
    apply (round.ask known (fun asked => asked.2 List.mem_cons_self) time sent).congr ?_
      (fun _ => rfl)
    intro id
    constructor
    · rintro ⟨member, later⟩
      by_cases same : id = activity
      · exact .inr same
      · exact .inl ⟨member, fun inside => (List.mem_cons.mp inside).elim same later⟩
    · rintro (⟨member, later⟩ | rfl)
      · exact ⟨member, fun inside => later (List.mem_cons_of_mem _ inside)⟩
      · exact ⟨known, fresh⟩
  cases remaining with
  | cons first rest =>
      refine ⟨⟨?_, fun wrong => (nomatch wrong), fun wrong => (nomatch wrong)⟩, rfl⟩
      intro activity remaining same
      cases same
      exact ⟨rfl, asks⟩
  | nil =>
      obtain ⟨working, advances⟩ := working_startupLoop asks current
      refine ⟨working, advances.elim (fun same => same) ?_⟩
      rintro ⟨-, signal, completed⟩
      have empty := completed.empty activity
      rw [sent, if_pos rfl] at empty
      exact absurd empty (List.append_ne_nil_of_right_ne_nil _ (List.cons_ne_nil _ _))

/-- The step signal of an eligible activity extends the round of the task chain. -/
theorem working_stepSent {activity : ActivityId} {remaining : List ActivityId}
    {time : Timestamp} {extended : ActivityId → List Request} (started : StartedUp scheduler log)
    (round : Round cycle .step (stepAsked states) states pending log)
    (known : activity ∈ scheduler.activityDepends.keys)
    (eligible : Scheduler.Eligible states activity)
    (sent : ∀ other, extended other =
      pending other ++ if other = activity then [⟨.step activity time, cycle⟩] else []) :
    Working (Scheduler.stepReadyActivities (markTriggered states activity) cycle remaining)
      extended log := by
  have continues := Scheduler.stepReadyActivities_continues (markTriggered states activity) cycle
    remaining
  have idle : ¬ stepAsked states activity := by
    rintro ⟨-, triggered⟩
    rw [eligible.1] at triggered
    cases triggered
  refine .of_chaining continues.stage_eq started ?_
  rw [continues.cycle_eq, continues.states_eq]
  apply (round.ask known idle time sent).congr
  · intro id
    unfold stepAsked
    rw [Scheduler.markTriggered_value]
    by_cases same : id = activity
    · subst same
      simp [known]
    · simp [same]
  · intro id
    rw [Scheduler.markTriggered_value]
    split
    · next same => rw [same]
    · rfl

/-- The answer of an activity continues the task chain. -/
theorem working_chainLoop {id : ActivityId} (started : StartedUp scheduler log)
    (round : Round cycle .step (stepAsked states) (markReady states id) pending log) :
    Working (Scheduler.chainLoop (markReady states id) cycle) pending log := by
  have continues := Scheduler.chainLoop_continues (markReady states id) cycle
  refine .of_chaining continues.stage_eq started ?_
  rw [continues.cycle_eq, continues.states_eq]
  apply round.congr
  · intro other
    unfold stepAsked
    rw [Scheduler.markReady_value]
    split
    · next same => rw [same]
    · rfl
  · exact fun _ => rfl

end Chain

/-- A transition that moves no request of an activity keeps the work. -/
theorem working_quiet {scheduler : Scheduler} {execution next : Scheduler.Execution scheduler}
    {event : Scheduler.Event} {pending : ActivityId → List Request} {log : List Entry}
    (shift : Scheduler.Shift execution event next)
    (unsent : ∀ id signal value, event ≠ .sendToActivity id signal (.ok value))
    (unready : event.ready? = none) (scanning : Scheduler.Scanning execution)
    (current : Current execution.cycle log) (working : Working execution pending log) :
    Working next pending log ∧ Advances execution.cycle next pending log := by
  cases shift with
  | stops passive states cycle shutdown => exact ⟨.of_passive passive, .inl cycle⟩
  | stays running stage states cycle quiet =>
      exact ⟨working.stay running stage states cycle, .inl cycle⟩
  | startupSent | stepSent => exact absurd rfl (unsent _ _ _)
  | startupReady | stepReady => cases unready
  | continued =>
      obtain ⟨started, round⟩ := working.chaining rfl
      exact working_taskChain (round.complete scanning.allReady_of_requested) started current

/-- A transition that sends a signal extends the work. -/
theorem working_sent {scheduler : Scheduler} {execution next : Scheduler.Execution scheduler}
    {id : ActivityId} {signal : Signal} {pending extended : ActivityId → List Request}
    {log : List Entry} {history : List Scheduler.Event}
    (shift : Scheduler.Shift execution (.sendToActivity id signal (.ok ())) next)
    (scanning : Scheduler.Scanning execution)
    (lifecycle : Scheduler.Lifecycle history execution)
    (sent : ∀ other, extended other =
      pending other ++ if other = id then [⟨signal, execution.cycle⟩] else [])
    (current : Current execution.cycle log) (working : Working execution pending log) :
    Working next extended log ∧ next.cycle = execution.cycle := by
  cases shift with
  | stops passive states cycle shutdown => exact ⟨.of_passive passive, cycle⟩
  | stays running stage states cycle quiet =>
      have silent := quiet.silent id
      simp [Scheduler.Event.phaseTo?] at silent
  | startupSent =>
      obtain ⟨first, round⟩ := working.starting _ _ rfl
      obtain ⟨done, split, -⟩ := lifecycle.starting _ _ rfl
      have distinct := sortIds_nodup scheduler.activityDepends.nodup
      rw [split] at distinct
      have known : id ∈ scheduler.activityDepends.keys := by
        rw [← mem_sortIds, split]
        exact List.mem_append_right _ List.mem_cons_self
      have fresh := (List.nodup_cons.mp (List.nodup_append.mp distinct).2.1).1
      dsimp only at first current sent
      subst first
      exact working_startupActivities round known fresh sent current
  | stepSent =>
      obtain ⟨started, round⟩ := working.chaining rfl
      obtain ⟨known, eligible⟩ := scanning.stepped
      exact ⟨working_stepSent started round known eligible sent,
        (Scheduler.stepReadyActivities_continues _ _ _).cycle_eq⟩

/-- A received answer continues the work. -/
theorem working_answered {scheduler : Scheduler} {execution next : Scheduler.Execution scheduler}
    {id : ActivityId} {time : Timestamp} {result : Except ActivityError Unit} {request : Request}
    {pending rest : ActivityId → List Request} {log : List Entry}
    (shift : Scheduler.Shift execution
      (.receive (.ok (some (Worker.response id time result)))) next)
    (returned : Entry.returned request result ∈ log)
    (split : ∀ other, pending other = (if other = id then [request] else []) ++ rest other)
    (current : Current execution.cycle log) (working : Working execution pending log) :
    Working next rest (.answered ⟨Worker.response id time result, request⟩ :: log) ∧
      Advances execution.cycle next rest
        (.answered ⟨Worker.response id time result, request⟩ :: log) := by
  have shrinks (other : ActivityId) : (rest other).Sublist (pending other) := by
    rw [split other]
    exact List.sublist_append_right _ _
  have grows := Grows.answered ⟨Worker.response id time result, request⟩ log
  have moved := working.mono shrinks grows
  generalize response : Worker.response id time result = reply at shift grows moved ⊢
  cases shift with
  | stops passive states cycle shutdown => exact ⟨.of_passive passive, .inl cycle⟩
  | stays running stage states cycle quiet =>
      exact ⟨moved.stay running stage states cycle, .inl cycle⟩
  | startupReady =>
      cases result with
      | error error => cases response
      | ok value =>
          cases response
          obtain ⟨first, round⟩ := working.waiting rfl
          dsimp only at first current ⊢
          subst first
          exact working_startupLoop (round.answer returned split) (current.grows grows)
  | stepReady =>
      cases result with
      | error error => cases response
      | ok value =>
          cases response
          obtain ⟨started, round⟩ := working.chaining rfl
          exact ⟨working_chainLoop (started.mono grows.1) (round.answer returned split),
            .inl (Scheduler.chainLoop_continues _ _).cycle_eq⟩

/-- A local event neither sends a signal nor receives one. -/
theorem unsent_of_local {event : Scheduler.Event} (isLocal : event.isLocal = true) :
    (∀ id signal value, event ≠ .sendToActivity id signal (.ok value)) ∧ event.ready? = none := by
  constructor
  · rintro id signal value rfl
    cases isLocal
  · cases event with
    | receive result =>
        cases result with
        | error error => rfl
        | ok received =>
            cases received with
            | none => rfl
            | some signal => cases isLocal
    | _ => rfl

/-- Each flow continues the work of the scheduler. -/
theorem Flow.working {system next : System deployment} (flow : Flow system next)
    {history : List Scheduler.Event} (scanning : Scheduler.Scanning system.execution)
    (lifecycle : Scheduler.Lifecycle history system.execution)
    (current : Current system.execution.cycle system.log)
    (working : Working system.execution system.pending system.log) :
    Working next.execution next.pending next.log ∧
      Advances system.execution.cycle next.execution next.pending next.log := by
  cases flow with
  | scheduled isLocal transition pending queued log =>
      obtain ⟨unsent, unready⟩ := unsent_of_local isLocal
      rw [funext pending, log]
      exact working_quiet transition.shift unsent unready scanning current working
  | sent transition pending queued log =>
      rw [log]
      obtain ⟨extended, same⟩ :=
        working_sent transition.shift scanning lifecycle pending current working
      exact ⟨extended, .inl same⟩
  | answered transition addressed returned pending queued log =>
      rw [log]
      exact working_answered transition.shift returned pending current working
  | @acknowledged agent request transition pending queued log =>
      have grows := Grows.answered ⟨.terminateAck agent, request⟩ system.log
      rw [funext pending, log]
      exact working_quiet transition.shift (fun _ _ _ wrong => nomatch wrong) rfl scanning
        (current.grows grows) (working.mono (fun _ => List.Sublist.refl _) grows)
  | broadcast transition pending queued log =>
      rw [funext pending, log]
      exact working_quiet transition.shift (fun _ _ _ wrong => nomatch wrong) rfl scanning
        current working
  | @called id request execution addressed pending queued log =>
      have member : request ∈ system.pending id := by
        apply (queued_sublist_pending system id).subset
        rw [queued id, if_pos rfl]
        exact List.mem_cons_self
      rw [execution, funext pending, log]
      exact ⟨working.call addressed member, .inl rfl⟩
  | worked entries execution pending queued log uncalled =>
      rw [execution, log]
      exact ⟨working.mono pending (Grows.append entries _ uncalled), .inl rfl⟩

end Feo.System
