import Feo.Proof.System.Working

namespace Feo

open Foundation

def Request.isStep (request : Request) : Bool :=
  match request.signal with
  | .step _ _ => true
  | _ => false

namespace System

open Scheduler (States)

variable {deployment : Deployment}

/-- The startup of an activity and the steps of its dependencies have returned successfully. -/
structure Prepared (scheduler : Scheduler) (log : List Entry) (id : ActivityId) (cycle : Nat) :
    Prop where
  started : ∃ time, Entry.returned ⟨.startup id time, 0⟩ (.ok ()) ∈ log
  stepped : ∀ dependency ∈ scheduler.activityDepends.keys,
    dependency ∈ scheduler.activityDepends.value id →
      ∃ time, Entry.returned ⟨.step dependency time, cycle⟩ (.ok ()) ∈ log

theorem Prepared.mono {scheduler : Scheduler} {log extended : List Entry} {id : ActivityId}
    {cycle : Nat} (prepared : Prepared scheduler log id cycle) (grows : log ⊆ extended) :
    Prepared scheduler extended id cycle where
  started := by
    obtain ⟨time, returned⟩ := prepared.started
    exact ⟨time, grows returned⟩
  stepped dependency known depended := by
    obtain ⟨time, returned⟩ := prepared.stepped dependency known depended
    exact ⟨time, grows returned⟩

/-- The calls belong to chains up to the given one, and the earlier chains are answered. -/
def Past (cycle : Nat) (log : List Entry) : Prop :=
  ∀ request, Entry.called request ∈ log → request.signal.target? ≠ none ∧
    request.cycle ≤ cycle ∧ (request.cycle < cycle →
      ∃ reply, Entry.answered ⟨reply, request⟩ ∈ log)

theorem Past.current {cycle : Nat} {log : List Entry} (past : Past cycle log) :
    Current cycle log := fun request member => (past request member).2.1

theorem Past.grows {cycle : Nat} {log extended : List Entry} (past : Past cycle log)
    (grows : Grows log extended) : Past cycle extended := by
  intro request member
  obtain ⟨targeted, bound, answered⟩ := past request (grows.2 request member)
  refine ⟨targeted, bound, fun earlier => ?_⟩
  obtain ⟨reply, answer⟩ := answered earlier
  exact ⟨reply, grows.1 answer⟩

/-- A step may be called on this log. -/
structure Due (scheduler : Scheduler) (log : List Entry) (id : ActivityId) (cycle : Nat) :
    Prop where
  prepared : Prepared scheduler log id cycle
  fresh : ∀ time, Entry.called ⟨.step id time, cycle⟩ ∉ log
  past : Past cycle log

/-- Each step was due when it was called. -/
def Logged (scheduler : Scheduler) (log : List Entry) : Prop :=
  ∀ id time cycle before, (Entry.called ⟨.step id time, cycle⟩ :: before) <:+ log →
    Due scheduler before id cycle

theorem Logged.cons {scheduler : Scheduler} {log : List Entry} {entry : Entry}
    (logged : Logged scheduler log)
    (due : ∀ id time cycle, entry = .called ⟨.step id time, cycle⟩ → Due scheduler log id cycle) :
    Logged scheduler (entry :: log) := by
  intro id time cycle before suffix
  rcases List.suffix_cons_iff.mp suffix with same | earlier
  · injection same with head tail
    rw [tail]
    exact due id time cycle head.symm
  · exact logged id time cycle before earlier

theorem Logged.append {scheduler : Scheduler} {log : List Entry} (logged : Logged scheduler log)
    (entries : List Entry) (uncalled : ∀ request, Entry.called request ∉ entries) :
    Logged scheduler (entries ++ log) := by
  induction entries with
  | nil => exact logged
  | cons entry rest hypothesis =>
      apply Logged.cons
      · exact hypothesis fun request member => uncalled request (List.mem_cons_of_mem _ member)
      · rintro id time cycle rfl
        exact absurd List.mem_cons_self (uncalled _)

/-- The channels hold at most one step of each activity, and it is due. -/
structure Ordered (scheduler : Scheduler) (cycle : Nat) (pending queued : ActivityId → List Request)
    (log : List Entry) : Prop where
  current : ∀ id, ∀ request ∈ pending id, request.cycle = cycle
  prepared : ∀ id time earlier, ⟨.step id time, earlier⟩ ∈ pending id →
    Prepared scheduler log id earlier
  single : ∀ id, (pending id).countP Request.isStep ≤ 1
  fresh : ∀ id time earlier, ⟨.step id time, earlier⟩ ∈ queued id →
    ∀ other, Entry.called ⟨.step id other, earlier⟩ ∉ log
  past : Past cycle log
  logged : Logged scheduler log

section Update

variable {scheduler : Scheduler} {cycle : Nat} {pending queued : ActivityId → List Request}
  {log : List Entry}

/-- The order survives the loss of requests and entries without a call. -/
theorem Ordered.mono (ordered : Ordered scheduler cycle pending queued log)
    {rest later : ActivityId → List Request} (entries : List Entry)
    (shrinks : ∀ id, (rest id).Sublist (pending id))
    (drops : ∀ id, (later id).Sublist (queued id))
    (uncalled : ∀ request, Entry.called request ∉ entries) :
    Ordered scheduler cycle rest later (entries ++ log) where
  current id request member := ordered.current id request ((shrinks id).subset member)
  prepared id time earlier member :=
    (ordered.prepared id time earlier ((shrinks id).subset member)).mono
      (List.subset_append_right _ _)
  single id := ((shrinks id).countP_le).trans (ordered.single id)
  fresh id time earlier member other called :=
    ordered.fresh id time earlier ((drops id).subset member) other
      ((Grows.append entries log uncalled).2 _ called)
  past := ordered.past.grows (Grows.append entries log uncalled)
  logged := ordered.logged.append entries uncalled

/-- A queued step is due when it is called. -/
theorem Ordered.call (ordered : Ordered scheduler cycle pending queued log) {id : ActivityId}
    {request : Request} {later : ActivityId → List Request}
    (addressed : request.signal.target? = some id)
    (waits : ∀ id, (queued id).Sublist (pending id))
    (head : ∀ other, queued other = (if other = id then [request] else []) ++ later other) :
    Ordered scheduler cycle pending later (.called request :: log) := by
  have first := head id
  rw [if_pos rfl, List.singleton_append] at first
  have member : request ∈ pending id := by
    apply (waits id).subset
    rw [first]
    exact List.mem_cons_self
  have drops (other : ActivityId) : (later other).Sublist (queued other) := by
    rw [head other]
    exact List.sublist_append_right _ _
  have grows := List.subset_cons_self (Entry.called request) log
  refine ⟨ordered.current, ?_, ordered.single, ?_, ?_, ?_⟩
  · exact fun other time earlier inside => (ordered.prepared other time earlier inside).mono grows
  · intro other time earlier inside repeated called
    rcases List.mem_cons.mp called with same | before
    · cases same
      cases addressed
      have second : 0 < (later id).countP Request.isStep :=
        List.countP_pos_iff.mpr ⟨_, inside, rfl⟩
      have bound := (waits id).countP_le.trans (ordered.single id)
      rw [first, List.countP_cons_of_pos rfl] at bound
      omega
    · exact ordered.fresh other time earlier ((drops other).subset inside) repeated before
  · intro other called
    rcases List.mem_cons.mp called with same | before
    · cases same
      have same := ordered.current id request member
      refine ⟨by rw [addressed]; exact Option.some_ne_none _, same.le, fun earlier => ?_⟩
      omega
    · obtain ⟨targeted, bound, answered⟩ := ordered.past other before
      refine ⟨targeted, bound, fun earlier => ?_⟩
      obtain ⟨reply, answer⟩ := answered earlier
      exact ⟨reply, grows answer⟩
  · apply ordered.logged.cons
    rintro other time earlier same
    cases same
    cases addressed
    have same := ordered.current _ _ member
    dsimp only at same
    subst same
    refine ⟨ordered.prepared _ time _ member, ?_, ordered.past⟩
    apply ordered.fresh _ time
    rw [first]
    exact List.mem_cons_self

/-- A sent step is prepared and the first of its chain. -/
theorem Ordered.send (ordered : Ordered scheduler cycle pending queued log) {id : ActivityId}
    {signal : Signal} {extended later : ActivityId → List Request}
    (sent : ∀ other, extended other =
      pending other ++ if other = id then [⟨signal, cycle⟩] else [])
    (queues : ∀ other, later other =
      queued other ++ if other = id then [⟨signal, cycle⟩] else [])
    (step : ∀ target time, signal = .step target time → Prepared scheduler log target cycle ∧
      pending id = [] ∧ ∀ other, Entry.called ⟨.step target other, cycle⟩ ∉ log) :
    Ordered scheduler cycle extended later log := by
  have split {other : ActivityId} {request : Request} {requests : List Request}
      (inside : request ∈ requests ++ if other = id then [⟨signal, cycle⟩] else []) :
      request ∈ requests ∨ other = id ∧ request = ⟨signal, cycle⟩ := by
    rw [List.mem_append] at inside
    refine inside.imp (fun earlier => earlier) fun last => ?_
    split at last
    · next same => exact ⟨same, List.mem_singleton.mp last⟩
    · cases last
  refine ⟨?_, ?_, ?_, ?_, ordered.past, ordered.logged⟩
  · intro other request inside
    rw [sent] at inside
    rcases split inside with earlier | ⟨-, rfl⟩
    · exact ordered.current other request earlier
    · rfl
  · intro other time earlier inside
    rw [sent] at inside
    rcases split inside with before | ⟨-, same⟩
    · exact ordered.prepared other time earlier before
    · cases same
      exact (step other time rfl).1
  · intro other
    rw [sent, List.countP_append]
    by_cases same : other = id
    · subst same
      rw [if_pos rfl]
      cases signal with
      | step target time =>
          rw [(step target time rfl).2.1]
          exact Nat.le_refl 1
      | _ => exact ordered.single other
    · rw [if_neg same]
      exact ordered.single other
  · intro other time earlier inside
    rw [queues] at inside
    rcases split inside with before | ⟨-, same⟩
    · exact ordered.fresh other time earlier before
    · cases same
      exact (step other time rfl).2.2

/-- The next chain begins with empty channels. -/
theorem Ordered.advance (ordered : Ordered scheduler cycle pending queued log)
    {signal : ActivityId → Timestamp → Signal}
    (completed : Completed scheduler cycle signal pending log) :
    Ordered scheduler (cycle + 1) pending queued log where
  current id request member := by
    rw [completed.empty id] at member
    cases member
  prepared := ordered.prepared
  single := ordered.single
  fresh := ordered.fresh
  past request member := by
    obtain ⟨targeted, bound, answered⟩ := ordered.past request member
    refine ⟨targeted, Nat.le_succ_of_le bound, fun earlier => ?_⟩
    rcases Nat.lt_or_eq_of_le bound with before | same
    · exact answered before
    · exact completed.answered request member same targeted
  logged := ordered.logged

/-- The dependencies of an eligible activity have been stepped in the current chain. -/
theorem prepared_of_eligible {states : States scheduler} (started : StartedUp scheduler log)
    (round : Round cycle .step (stepAsked states) states pending log) {id : ActivityId}
    (known : id ∈ scheduler.activityDepends.keys) (eligible : Scheduler.Eligible states id) :
    Prepared scheduler log id cycle where
  started := started id known
  stepped dependency member depended := by
    have ready := (Scheduler.dependenciesReady_iff _ _).mp eligible.2 dependency member depended
    have asked : stepAsked states dependency := by
      by_contra idle
      rw [(round.unasked dependency idle).unready] at ready
      cases ready
    obtain ⟨time, tracked⟩ := round.tracked dependency asked
    exact ⟨time, (tracked.settled ready).2.1⟩

/-- A step signal is the first of its activity in the current chain. -/
theorem step_of_shift {execution next : Scheduler.Execution scheduler} {target id : ActivityId}
    {time : Timestamp}
    (shift : Scheduler.Shift execution (.sendToActivity id (.step target time) (.ok ())) next)
    (scanning : Scheduler.Scanning execution) (working : Working execution pending log) :
    Prepared scheduler log target execution.cycle ∧ pending id = [] ∧
      ∀ other, Entry.called ⟨.step target other, execution.cycle⟩ ∉ log := by
  cases shift with
  | stops passive states cycle shutdown => cases shutdown _ _ _ rfl
  | stays running stage states cycle quiet =>
      have silent := quiet.silent id
      simp [Scheduler.Event.phaseTo?] at silent
  | stepSent =>
      obtain ⟨started, round⟩ := working.chaining rfl
      obtain ⟨known, eligible⟩ := scanning.stepped
      have untouched := round.unasked target fun asked => by
        rw [stepAsked, eligible.1] at asked
        cases asked.2
      refine ⟨prepared_of_eligible started round known eligible, untouched.pending, ?_⟩
      exact fun other called => untouched.called _ called rfl rfl

end Update

/-- Each flow keeps the order. -/
theorem Flow.ordered {system next : System deployment} (flow : Flow system next)
    (scanning : Scheduler.Scanning system.execution)
    (advances : Advances system.execution.cycle next.execution next.pending next.log)
    (working : Working system.execution system.pending system.log)
    (ordered : Ordered deployment.scheduler system.execution.cycle system.pending system.queued
      system.log) :
    Ordered deployment.scheduler next.execution.cycle next.pending next.queued next.log := by
  have extended : Ordered deployment.scheduler system.execution.cycle next.pending next.queued
      next.log := by
    cases flow with
    | scheduled isLocal transition pending queued log | broadcast transition pending queued log =>
        rw [funext pending, funext queued, log]
        exact ordered
    | sent transition pending queued log =>
        rw [log]
        apply ordered.send pending queued
        rintro target time rfl
        exact step_of_shift transition.shift scanning working
    | @answered id time result request transition addressed returned pending queued log =>
        rw [funext queued, log]
        apply ordered.mono [.answered ⟨Worker.response id time result, request⟩]
        · intro other
          rw [pending other]
          exact List.sublist_append_right _ _
        · exact fun _ => List.Sublist.refl _
        · simp
    | @acknowledged agent request transition pending queued log =>
        rw [funext pending, funext queued, log]
        apply ordered.mono [.answered ⟨.terminateAck agent, request⟩]
        · exact fun _ => List.Sublist.refl _
        · exact fun _ => List.Sublist.refl _
        · simp
    | called execution addressed pending queued log =>
        rw [funext pending, log]
        exact ordered.call addressed (queued_sublist_pending system) queued
    | worked entries execution pending queued log uncalled =>
        rw [log]
        exact ordered.mono entries pending queued uncalled
  rcases advances with same | ⟨same, signal, completed⟩
  · rw [same]
    exact extended
  · rw [same]
    exact extended.advance completed

/-- The scheduler works in order at its state. -/
structure InOrder (system : System deployment) : Prop where
  coherent : Coherent system
  working : Working system.execution system.pending system.log
  ordered : Ordered deployment.scheduler system.execution.cycle system.pending system.queued
    system.log

theorem inOrder_initial : InOrder (initial deployment) := by
  have past : Past (initial deployment).execution.cycle [] :=
    fun _ wrong => absurd wrong List.not_mem_nil
  have untouched (id : ActivityId) (cycle : Nat) : Untouched
      (deployment.scheduler.newStates.val.value id).ready [] [] id cycle :=
    ⟨rfl, fun _ wrong => absurd wrong List.not_mem_nil, rfl⟩
  refine ⟨coherent_initial, ?_, ?_⟩
  · change Working deployment.scheduler.run (fun _ => []) []
    have order : sortIds deployment.scheduler.newStates.val.keys =
        sortIds deployment.scheduler.activityDepends.keys := by
      rw [Scheduler.states_keys]
    rw [Scheduler.run, order]
    cases sorted : sortIds deployment.scheduler.activityDepends.keys with
    | nil =>
        have none (id : ActivityId) : ¬ startupAsked deployment.scheduler [] id := by
          rintro ⟨member, -⟩
          rw [← mem_sortIds, sorted] at member
          cases member
        have current : Current 0 [] := fun _ wrong => absurd wrong List.not_mem_nil
        refine (working_startupLoop ?_ current).1
        exact round_begin (fun _ _ => rfl) (fun _ => rfl)
          (fun _ wrong => absurd wrong List.not_mem_nil) (fun _ => rfl) none
    | cons first rest =>
        refine ⟨?_, ?_, ?_⟩
        · intro activity remaining same
          cases same
          refine ⟨rfl, round_begin (fun _ _ => rfl) (fun _ => rfl)
            (fun _ wrong => absurd wrong List.not_mem_nil) (fun _ => rfl) ?_⟩
          rintro id ⟨member, absent⟩
          rw [← mem_sortIds, sorted] at member
          exact absent member
        · intro wrong
          cases wrong
        · intro wrong
          cases wrong
  · refine ⟨fun _ _ wrong => absurd wrong List.not_mem_nil,
      fun _ _ _ wrong => absurd wrong List.not_mem_nil, fun _ => Nat.zero_le 1,
      fun _ _ _ _ _ wrong => absurd wrong List.not_mem_nil, past, ?_⟩
    intro request before after _ suffix
    cases List.suffix_nil.mp suffix

/-- Every run of the system stays in order. -/
theorem run_inOrder {events : List Event} {system : System deployment}
    (reached : (machine deployment).run (initial deployment) events = some system) :
    InOrder system := by
  refine (machine deployment).run_induction (fun _ system => InOrder system) inOrder_initial ?_
    reached
  intro history system event next before inOrder stepped
  have move := step_move stepped
  have flow := move.flow inOrder.coherent
  have calls := run_calls before
  have scanning := Scheduler.run_scanning calls
  obtain ⟨working, advances⟩ := flow.working scanning (Scheduler.run_lifecycle calls)
    inOrder.ordered.past.current inOrder.working
  exact ⟨move.coherent inOrder.coherent, working,
    flow.ordered scanning advances inOrder.working inOrder.ordered⟩

/-- Every call of a step comes after the startup of its activity, the steps of its dependencies,
and all answers of the earlier chains, and it is the only one of its chain. -/
theorem run_step_order (events : List Event) (system : System deployment)
    (reached : (machine deployment).run (initial deployment) events = some system)
    (id : ActivityId) (time : Timestamp) (cycle : Nat) (after before : List Entry)
    (split : system.log = after ++ .called ⟨.step id time, cycle⟩ :: before) :
    (∃ started, Entry.returned ⟨.startup id started, 0⟩ (.ok ()) ∈ before) ∧
      (∀ dependency ∈ deployment.scheduler.activityDepends.keys,
        dependency ∈ deployment.scheduler.activityDepends.value id →
          ∃ stepped, Entry.returned ⟨.step dependency stepped, cycle⟩ (.ok ()) ∈ before) ∧
      (∀ other, Entry.called ⟨.step id other, cycle⟩ ∉ before ∧
        Entry.called ⟨.step id other, cycle⟩ ∉ after) ∧
      ∀ request, Entry.called request ∈ before → request.cycle ≤ cycle ∧
        (request.cycle < cycle → ∃ reply, Entry.answered ⟨reply, request⟩ ∈ before) := by
  have logged := (run_inOrder reached).ordered.logged
  have suffix : Entry.called ⟨.step id time, cycle⟩ :: before <:+ system.log := by
    rw [split]
    exact List.suffix_append _ _
  have due := logged id time cycle before suffix
  refine ⟨due.prepared.started, due.prepared.stepped, ?_, ?_⟩
  · refine fun other => ⟨due.fresh other, fun later => ?_⟩
    obtain ⟨newer, older, same⟩ := List.append_of_mem later
    have repeated : Entry.called ⟨.step id other, cycle⟩ ::
        (older ++ .called ⟨.step id time, cycle⟩ :: before) <:+ system.log := by
      rw [split, same, List.append_assoc, List.cons_append]
      exact List.suffix_append _ _
    exact (logged id other cycle _ repeated).fresh time
      (List.mem_append_right _ List.mem_cons_self)
  · intro request called
    obtain ⟨-, bound, answered⟩ := due.past request called
    exact ⟨bound, answered⟩

/-- One worker serves one activity. -/
def solo : Deployment where
  scheduler := Scheduler.solo
  workers id := ⟨id, ⟨1⟩, [⟨1⟩]⟩
  route _ := ⟨1⟩

/-- The only activity starts up, and its worker receives the first step. -/
def soloStep : List Event :=
  [.send ⟨1⟩ (.startup ⟨1⟩ ⟨Duration.zero⟩),
    .worker ⟨1⟩ (.receive (.ok (some (.startup ⟨1⟩ ⟨Duration.zero⟩)))),
    .worker ⟨1⟩ (.returned (.ok ()) ⟨Duration.zero⟩),
    .worker ⟨1⟩ (.sendToScheduler (.ready ⟨1⟩ ⟨Duration.zero⟩) (.ok ())),
    .scheduler (.elapsed Duration.zero),
    .receive ⟨1⟩ (.ready ⟨1⟩ ⟨Duration.zero⟩),
    .send ⟨1⟩ (.step ⟨1⟩ ⟨Duration.zero⟩),
    .worker ⟨1⟩ (.receive (.ok (some (.step ⟨1⟩ ⟨Duration.zero⟩))))]

/-- Each of the two activities has a worker of its own. -/
def pair : Deployment where
  scheduler := Scheduler.pair
  workers id := ⟨id, ⟨1⟩, if id = ⟨2⟩ then [⟨2⟩] else [⟨1⟩]⟩
  route id := if id = ⟨2⟩ then ⟨2⟩ else ⟨1⟩

/-- The worker takes the signal, calls its activity, and reports ready. -/
def pairRound (worker : WorkerId) (id : ActivityId) (signal : Signal) : List Event :=
  [.worker worker (.receive (.ok (some signal))),
    .worker worker (.returned (.ok ()) ⟨Duration.zero⟩),
    .worker worker (.sendToScheduler (.ready id ⟨Duration.zero⟩) (.ok ()))]

/-- Activity 2 is the first to start up. -/
def pairStartup : List Event :=
  [.send ⟨1⟩ (.startup ⟨1⟩ ⟨Duration.zero⟩), .send ⟨2⟩ (.startup ⟨2⟩ ⟨Duration.zero⟩)] ++
    pairRound ⟨2⟩ ⟨2⟩ (.startup ⟨2⟩ ⟨Duration.zero⟩) ++
    pairRound ⟨1⟩ ⟨1⟩ (.startup ⟨1⟩ ⟨Duration.zero⟩) ++
    [.scheduler (.elapsed Duration.zero), .receive ⟨2⟩ (.ready ⟨2⟩ ⟨Duration.zero⟩),
      .scheduler (.elapsed Duration.zero), .receive ⟨1⟩ (.ready ⟨1⟩ ⟨Duration.zero⟩)]

/-- The task chain steps activity 1, and then activity 2 is due. -/
def pairHalf : List Event :=
  .send ⟨1⟩ (.step ⟨1⟩ ⟨Duration.zero⟩) :: pairRound ⟨1⟩ ⟨1⟩ (.step ⟨1⟩ ⟨Duration.zero⟩) ++
    [.receive ⟨1⟩ (.ready ⟨1⟩ ⟨Duration.zero⟩), .send ⟨2⟩ (.step ⟨2⟩ ⟨Duration.zero⟩)]

/-- Activity 2 is called in the second task chain. -/
def pairChains : List Event :=
  pairStartup ++ pairHalf ++ pairRound ⟨2⟩ ⟨2⟩ (.step ⟨2⟩ ⟨Duration.zero⟩) ++
    [.receive ⟨2⟩ (.ready ⟨2⟩ ⟨Duration.zero⟩), .scheduler (.elapsed Duration.zero),
      .scheduler (.shutdownRequested false)] ++
    pairHalf ++ [.worker ⟨2⟩ (.receive (.ok (some (.step ⟨2⟩ ⟨Duration.zero⟩))))]

theorem pairChains_log : ((machine pair).run (initial pair) pairChains).map
    (fun system => system.log.head?) = some (some (.called ⟨.step ⟨2⟩ ⟨Duration.zero⟩, 2⟩)) := by
  decide

theorem run_step_order_pair :
    ∃ system before, (machine pair).run (initial pair) pairChains = some system ∧
      system.log = .called ⟨.step ⟨2⟩ ⟨Duration.zero⟩, 2⟩ :: before ∧
      (∃ started, Entry.returned ⟨.startup ⟨2⟩ started, 0⟩ (.ok ()) ∈ before) ∧
      (∃ stepped, Entry.returned ⟨.step ⟨1⟩ stepped, 2⟩ (.ok ()) ∈ before) ∧
      (∀ other, Entry.called ⟨.step ⟨2⟩ other, 2⟩ ∉ before) ∧
      ∀ request, Entry.called request ∈ before → request.cycle ≤ 2 ∧
        (request.cycle < 2 → ∃ reply, Entry.answered ⟨reply, request⟩ ∈ before) := by
  obtain ⟨system, reached, head⟩ := Option.map_eq_some_iff.mp pairChains_log
  obtain ⟨before, log⟩ := List.head?_eq_some_iff.mp head
  obtain ⟨started, stepped, fresh, past⟩ := run_step_order pairChains system reached _ _ _ [] _ log
  exact ⟨system, before, reached, log, started, stepped ⟨1⟩ (by decide) (by decide),
    fun other => (fresh other).1, past⟩

end System

end Feo
