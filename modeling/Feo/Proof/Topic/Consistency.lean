import Feo.Proof.Topic.Guard

namespace Feo

open Foundation
open ReadWriteAccessControlPtr

namespace Sharing

open Feo.System (Calling Stepping)

variable {deployment : Deployment} {size : Nat} {topic : Topic}
  {sharing next : Sharing deployment size}

/-- The memory holds the payload that was sent in the current chain. -/
structure Published (topic : Topic) (sharing : Sharing deployment size) : Prop where
  origin : ∀ cycle payload, (cycle, payload) ∈ sharing.sent →
    (∃ time result,
      Entry.returned ⟨.step topic.writer time, cycle⟩ result ∈ sharing.system.log) ∨
      ∃ point, sharing.accesses topic.writer = some ⟨cycle, point⟩
  sends : ∀ access, sharing.accesses topic.writer = some access →
    (access.point.hasSent = true ↔ ∃ payload, (access.cycle, payload) ∈ sharing.sent)
  returned : ∀ time cycle result,
    Entry.returned ⟨.step topic.writer time, cycle⟩ result ∈ sharing.system.log →
      ∃ payload, (cycle, payload) ∈ sharing.sent
  unique : ∀ cycle first second, (cycle, first) ∈ sharing.sent →
    (cycle, second) ∈ sharing.sent → first = second
  current : ∀ payload, (sharing.system.execution.cycle, payload) ∈ sharing.sent →
    payload = sharing.memory
  consistent : ∀ reading ∈ sharing.reads, ∃ payload,
    (reading.cycle, payload) ∈ sharing.sent ∧ reading.byte = payload reading.offset

theorem published_initial (payload : Payload size) :
    Published topic (initial deployment payload) :=
  ⟨fun _ _ wrong => (nomatch wrong), fun _ wrong => (nomatch wrong),
    fun _ _ _ wrong => (nomatch wrong), fun _ _ _ wrong => (nomatch wrong),
    fun _ wrong => (nomatch wrong), fun _ wrong => (nomatch wrong)⟩

/-- A sent payload belongs to a called step. -/
theorem Published.called (published : Published topic sharing) (located : Located sharing)
    (recorded : System.Recorded sharing.system) {cycle : Nat} {payload : Payload size}
    (member : (cycle, payload) ∈ sharing.sent) :
    ∃ time, Entry.called ⟨.step topic.writer time, cycle⟩ ∈ sharing.system.log := by
  rcases published.origin cycle payload member with ⟨time, result, returned⟩ | ⟨point, access⟩
  · exact ⟨time, recorded.returned _ _ returned⟩
  · obtain ⟨time, calling⟩ := located topic.writer _ access
    exact ⟨time, recorded.called _ _ calling⟩

/-- A new chain has sent no payload yet. -/
theorem Published.later (published : Published topic sharing) (located : Located sharing)
    (reached : Reached sharing) {cycle : Nat} (bound : sharing.system.execution.cycle ≤ cycle)
    {payload : Payload size} (member : (cycle, payload) ∈ sharing.sent) :
    payload = sharing.memory := by
  obtain ⟨time, called⟩ := published.called located reached.recorded member
  obtain ⟨-, past, -⟩ := reached.inOrder.ordered.past _ called
  cases Nat.le_antisymm past bound
  exact published.current payload member

/-- A step that begins has sent no payload yet. -/
theorem Published.fresh (published : Published topic sharing) (reached : Reached next)
    (grows : sharing.system.log ⊆ next.system.log)
    (absent : sharing.accesses topic.writer = none) {cycle : Nat}
    (stepping : Stepping next.system topic.writer cycle) (payload : Payload size) :
    (cycle, payload) ∉ sharing.sent := by
  intro member
  rcases published.origin cycle payload member with ⟨earlier, result, returned⟩ | ⟨_, access⟩
  · obtain ⟨time, calling⟩ := stepping
    have recorded := reached.recorded
    have unique := reached.inOrder.ordered.logged.called_unique
      (recorded.returned _ _ (grows returned)) (recorded.called _ _ calling)
    subst unique
    exact recorded.unreturned _ _ calling rfl _ (grows returned)
  · cases absent.symm.trans access

/-- A step of the system keeps what was sent while no step of the writer returns. -/
theorem Published.system (published : Published topic sharing) (located : Located sharing)
    (reached : Reached sharing) {event : System.Event} {system : System deployment}
    {accesses : ActivityId → Option Access}
    (stepped : sharing.system.step event = some system)
    (origin : ∀ cycle point, sharing.accesses topic.writer = some ⟨cycle, point⟩ →
      (∃ time result, Entry.returned ⟨.step topic.writer time, cycle⟩ result ∈ system.log) ∨
        accesses topic.writer = some ⟨cycle, point⟩)
    (sends : ∀ access, accesses topic.writer = some access →
      (access.point.hasSent = true ↔ ∃ payload, (access.cycle, payload) ∈ sharing.sent))
    (returned : ∀ worker result time sent cycle,
      event = .worker worker (.returned result time) →
        Calling sharing.system worker ⟨.step topic.writer sent, cycle⟩ →
          ∃ payload, (cycle, payload) ∈ sharing.sent) :
    Published topic { sharing with system := system, accesses := accesses } where
  origin cycle payload member := by
    rcases published.origin cycle payload member with ⟨time, result, before⟩ | ⟨point, access⟩
    · exact .inl ⟨time, result, System.log_subset_of_step stepped before⟩
    · exact (origin cycle point access).imp id fun kept => ⟨point, kept⟩
  sends := sends
  returned time cycle result member := by
    rcases System.returned_of_step reached.inOrder.coherent stepped member with
      before | ⟨worker, later, same, calling⟩
    · exact published.returned time cycle result before
    · exact returned worker result later time cycle same calling
  unique := published.unique
  current payload member := by
    obtain ⟨events, run⟩ := reached
    exact published.later located ⟨events, run⟩ (System.cycle_le_of_step run stepped) member
  consistent := published.consistent

/-- A step that begins keeps what was sent. -/
theorem published_entered (published : Published topic sharing) (located : Located sharing)
    (reached : Reached sharing) {worker : WorkerId} {result : Except Error (Option Signal)}
    {id : ActivityId} {cycle : Nat} {system : System deployment}
    (stepped : sharing.system.step (.worker worker (.receive result)) = some system)
    (absent : sharing.accesses id = none) (stepping : Stepping system id cycle)
    (after : Reached { sharing with
      system := system
      accesses := Function.update sharing.accesses id (some ⟨cycle, topic.first id⟩) }) :
    Published topic { sharing with
      system := system
      accesses := Function.update sharing.accesses id (some ⟨cycle, topic.first id⟩) } := by
  refine published.system located reached stepped ?_ ?_ (by simp)
  · intro other point access
    refine .inr ?_
    rw [Function.update_of_ne, access]
    rintro rfl
    cases absent.symm.trans access
  · intro access present
    rcases update_eq_cases present with ⟨rfl, same⟩ | ⟨-, before⟩
    · cases same
      have fresh := published.fresh after (System.log_subset_of_step stepped) absent stepping
      have point : topic.first topic.writer = .lockWrite := if_pos rfl
      dsimp only
      rw [point]
      constructor
      · intro sent
        cases sent
      · rintro ⟨payload, member⟩
        exact (fresh payload member).elim
    · exact published.sends access before

/-- A step of the writer returns after it has sent its payload. -/
theorem published_left (published : Published topic sharing) (located : Located sharing)
    (reached : Reached sharing) {worker : WorkerId} {result : Except ActivityError Unit}
    {id : ActivityId} {time sent : Timestamp} {cycle : Nat} {system : System deployment}
    (stepped : sharing.system.step (.worker worker (.returned result time)) = some system)
    (point : sharing.system.points worker = .call (.step id sent))
    (access : sharing.accesses id = some ⟨cycle, .released⟩) :
    Published topic { sharing with
      system := system
      accesses := Function.update sharing.accesses id none } := by
  have coherent := reached.inOrder.coherent
  obtain ⟨other, calling⟩ := coherent.calling_of_point point
  have route := coherent.route_eq calling id rfl
  subst route
  obtain ⟨began, running⟩ := located id _ access
  cases running.2.symm.trans calling.2
  refine published.system located reached stepped ?_ ?_ ?_
  · intro chain inner before
    by_cases writer : topic.writer = id
    · subst writer
      cases before.symm.trans access
      refine .inl ⟨sent, result, ?_⟩
      rw [System.log_of_returned calling stepped]
      exact List.mem_cons_self
    · exact .inr ((Function.update_of_ne writer _ _).trans before)
  · intro inner present
    rcases update_eq_cases present with ⟨-, wrong⟩ | ⟨-, before⟩
    · cases wrong
    · exact published.sends inner before
  · rintro other answer later called chain same calls
    cases same
    cases calls.2.symm.trans calling.2
    exact (published.sends _ access).mp rfl

/-- An access that sends no payload keeps what was sent. -/
theorem published_unsent (published : Published topic sharing)
    {accesses : ActivityId → Option Access} {lockStates : AgentId → UInt16}
    (origin : ∀ cycle point, sharing.accesses topic.writer = some ⟨cycle, point⟩ →
      ∃ point, accesses topic.writer = some ⟨cycle, point⟩)
    (sends : ∀ access, accesses topic.writer = some access →
      (access.point.hasSent = true ↔ ∃ payload, (access.cycle, payload) ∈ sharing.sent)) :
    Published topic { sharing with accesses := accesses, lockStates := lockStates } where
  origin cycle payload member :=
    (published.origin cycle payload member).imp id fun ⟨point, access⟩ =>
      origin cycle point access
  sends := sends
  returned := published.returned
  unique := published.unique
  current := published.current
  consistent := published.consistent

/-- The exchange that unlocks the memory sends the first payload of its chain. -/
theorem published_sent (published : Published topic sharing) {cycle : Nat}
    {lockStates : AgentId → UInt16}
    (access : sharing.accesses topic.writer = some ⟨cycle, .writing⟩) :
    Published topic { sharing with
      accesses := Function.update sharing.accesses topic.writer (some ⟨cycle, .drop⟩)
      lockStates := lockStates
      sent := (cycle, sharing.memory) :: sharing.sent } := by
  have unsent (payload : Payload size) : (cycle, payload) ∉ sharing.sent := by
    intro member
    cases (published.sends _ access).mpr ⟨payload, member⟩
  have own : Function.update sharing.accesses topic.writer (some ⟨cycle, .drop⟩) topic.writer =
      some ⟨cycle, .drop⟩ := Function.update_self _ _ _
  refine ⟨?_, ?_, ?_, ?_, ?_, ?_⟩
  · intro other payload member
    rcases List.mem_cons.mp member with same | before
    · cases same
      exact .inr ⟨.drop, own⟩
    · refine (published.origin other payload before).imp id ?_
      rintro ⟨point, present⟩
      cases present.symm.trans access
      exact ⟨.drop, own⟩
  · intro inner present
    cases own.symm.trans present
    exact ⟨fun _ => ⟨sharing.memory, List.mem_cons_self⟩, fun _ => rfl⟩
  · intro time other result returned
    obtain ⟨payload, member⟩ := published.returned time other result returned
    exact ⟨payload, List.mem_cons_of_mem _ member⟩
  · intro other first second member another
    rcases List.mem_cons.mp member with same | before
    · cases same
      rcases List.mem_cons.mp another with same | earlier
      · cases same
        rfl
      · exact (unsent second earlier).elim
    · rcases List.mem_cons.mp another with same | earlier
      · cases same
        exact (unsent first before).elim
      · exact published.unique other first second before earlier
  · intro payload member
    rcases List.mem_cons.mp member with same | before
    · exact (Prod.mk.inj same).2
    · exact published.current payload before
  · intro reading member
    obtain ⟨payload, sent, byte⟩ := published.consistent reading member
    exact ⟨payload, List.mem_cons_of_mem _ sent, byte⟩

/-- An access sends the payload of the writer at most. -/
theorem published_accessed (published : Published topic sharing) (guarded : Guarded topic sharing)
    (reached : Reached sharing)
    (dependent : ∀ reader ∈ topic.readers,
      Relation.TransGen deployment.scheduler.Depends reader topic.writer)
    {id : ActivityId} {cycle : Nat} {point after : Point} {lockState : UInt16}
    (access : sharing.accesses id = some ⟨cycle, point⟩)
    (stepped : point.step (sharing.lockStates (deployment.agent id)) = some (lockState, after)) :
    Published topic { sharing with
      accesses := Function.update sharing.accesses id (some ⟨cycle, after⟩)
      lockStates := Function.update sharing.lockStates (deployment.agent id) lockState
      sent := if after = .drop then (cycle, sharing.memory) :: sharing.sent
        else sharing.sent } := by
  by_cases writer : id = topic.writer
  · subst writer
    obtain ⟨-, -, sends⟩ := guarded.write_step access stepped
    by_cases writing : point = .writing
    · subst writing
      rw [if_pos rfl] at sends
      subst sends
      rw [if_pos rfl]
      exact published_sent published access
    · rw [if_neg writing] at sends
      obtain ⟨quiet, same⟩ := sends
      rw [if_neg quiet]
      apply published_unsent published
      · intro other inner present
        cases present.symm.trans access
        exact ⟨after, Function.update_self _ _ _⟩
      · intro inner present
        rw [Function.update_self] at present
        cases present
        dsimp only
        rw [same]
        exact published.sends _ access
  · have quiet : after ≠ .drop := by
      rcases (guarded.follows id _ access).released_or writer with ⟨reader, read⟩ | released
      · have absent := guarded.writer_absent reached dependent reader access
        obtain ⟨follows, -⟩ := guarded.read_step reader read absent access stepped
        rintro rfl
        cases follows
      · dsimp only at released
        subst released
        cases stepped
    have own : Function.update sharing.accesses id (some ⟨cycle, after⟩) topic.writer =
        sharing.accesses topic.writer := Function.update_of_ne (Ne.symm writer) _ _
    rw [if_neg quiet]
    apply published_unsent published
    · exact fun _ inner present => ⟨inner, own.trans present⟩
    · intro inner present
      exact published.sends inner (own.symm.trans present)

/-- The writer stores into the memory before it sends the payload of its chain. -/
theorem published_stored (published : Published topic sharing) (located : Located sharing)
    (reached : Reached sharing) {cycle : Nat} {memory : Payload size}
    (access : sharing.accesses topic.writer = some ⟨cycle, .writing⟩) :
    Published topic { sharing with memory := memory } where
  origin := published.origin
  sends := published.sends
  returned := published.returned
  unique := published.unique
  current payload member := by
    have same := (located topic.writer _ access).cycle_eq reached.inOrder
    dsimp only at same member
    rw [← same] at member
    cases (published.sends _ access).mpr ⟨payload, member⟩
  consistent := published.consistent

/-- A reader finds the payload of its own chain. -/
theorem published_loaded (published : Published topic sharing) (guarded : Guarded topic sharing)
    (reached : Reached sharing)
    (dependent : ∀ reader ∈ topic.readers,
      Relation.TransGen deployment.scheduler.Depends reader topic.writer)
    {reader : ActivityId} {cycle : Nat} {offset : Fin size}
    (access : sharing.accesses reader = some ⟨cycle, .reading⟩) :
    Published topic { sharing with
      reads := ⟨reader, cycle, offset, sharing.memory offset⟩ :: sharing.reads } where
  origin := published.origin
  sends := published.sends
  returned := published.returned
  unique := published.unique
  current := published.current
  consistent reading member := by
    rcases List.mem_cons.mp member with rfl | before
    · have follows := guarded.follows reader _ access
      have inside : reader ∈ topic.readers := by
        unfold Topic.Follows at follows
        split at follows
        · cases follows
        · split at follows
          · assumption
          · cases follows
      have inOrder := reached.inOrder
      have stepping := guarded.located reader _ access
      obtain ⟨time, returned⟩ := stepping.depends_returned reached.recorded
        inOrder.ordered.logged (dependent reader inside)
      obtain ⟨payload, sent⟩ := published.returned time cycle _ returned
      have same := stepping.cycle_eq inOrder
      dsimp only at same
      have current := published.current payload (same ▸ sent)
      exact ⟨payload, sent, by rw [current]⟩
    · exact published.consistent reading before

/-- Each move keeps what was sent. -/
theorem Move.published (move : Move topic sharing next) (reached : Reached sharing)
    (dependent : ∀ reader ∈ topic.readers,
      Relation.TransGen deployment.scheduler.Depends reader topic.writer)
    (guarded : Guarded topic sharing) (published : Published topic sharing) :
    Published topic next := by
  have after := move.reached reached
  have located := guarded.located
  cases move with
  | stayed stepped unreturned =>
      refine published.system located reached stepped (fun _ _ => .inr) published.sends ?_
      intro worker result time sent cycle same calling
      exact (unreturned worker result time same _ sent calling.1).elim
  | entered stepped point serving =>
      obtain ⟨route, stepping⟩ := stepping_of_point after.inOrder.coherent point serving
      have absent := accesses_of_entered located stepped route
      exact published_entered published located reached stepped absent stepping after
  | left stepped point access => exact published_left published located reached stepped point access
  | accessed access stepped =>
      exact published_accessed published guarded reached dependent access stepped
  | stored access => exact published_stored published located reached access
  | loaded access => exact published_loaded published guarded reached dependent access

/-- Every run keeps the lock states and what was sent. -/
theorem run_published {payload : Payload size} {events : List (Event size)}
    (dependent : ∀ reader ∈ topic.readers,
      Relation.TransGen deployment.scheduler.Depends reader topic.writer)
    (run : (machine deployment size topic).run (initial deployment payload) events =
      some sharing) : Guarded topic sharing ∧ Published topic sharing := by
  have kept : Reached sharing ∧ Guarded topic sharing ∧ Published topic sharing := by
    refine (machine deployment size topic).run_preserves
      (fun sharing => Reached sharing ∧ Guarded topic sharing ∧ Published topic sharing) ?_
      ⟨reached_initial payload, guarded_initial payload, published_initial payload⟩ run
    rintro sharing event next ⟨reached, guarded, published⟩ stepped
    have move := step_move stepped
    exact ⟨move.reached reached, move.guarded reached dependent guarded,
      move.published reached dependent guarded published⟩
  exact kept.2

/-- If all readers depend on the writer, no assertion fails, and every read in a task chain
returns the only payload that was sent in it. -/
theorem run_consistent (deployment : Deployment) (topic : Topic) (size : Nat)
    (payload : Payload size)
    (dependent : ∀ reader ∈ topic.readers,
      Relation.TransGen deployment.scheduler.Depends reader topic.writer)
    (events : List (Event size)) (sharing : Sharing deployment size)
    (run : (machine deployment size topic).run (initial deployment payload) events =
      some sharing) :
    (∀ id access, sharing.accesses id = some access →
      ∀ assertion, access.point ≠ .panicked assertion) ∧
      ∀ reading ∈ sharing.reads, ∃ payload,
        (∀ other, (reading.cycle, other) ∈ sharing.sent ↔ other = payload) ∧
          reading.byte = payload reading.offset := by
  obtain ⟨guarded, published⟩ := run_published dependent run
  refine ⟨?_, ?_⟩
  · intro id access present
    exact (guarded.follows id access present).unpanicked
  · intro reading member
    obtain ⟨payload, sent, byte⟩ := published.consistent reading member
    refine ⟨payload, fun other => ⟨fun inside => ?_, ?_⟩, byte⟩
    · exact published.unique _ _ _ inside sent
    · rintro rfl
      exact sent

/-- The second activity depends on the first, and each runs in its own agent. -/
def pair : Deployment where
  scheduler :=
    { agentId := ⟨1⟩
      cycleTime := Duration.zero
      receiveTimeout := Duration.zero
      startupTimeout := Duration.zero
      activityDepends :=
        { keys := [⟨1⟩, ⟨2⟩]
          nodup := by decide
          value := fun id => if id = ⟨2⟩ then [⟨1⟩] else [] } }
  workers id := ⟨id, ⟨id.id⟩, [⟨id.id⟩]⟩
  route id := ⟨id.id⟩

/-- The first activity writes the topic, and the second one reads it. -/
def counter : Topic where
  writer := ⟨1⟩
  readers := [⟨2⟩]
  distinct := by decide
  bounded := by decide

/-- A worker serves one startup. -/
def pairStartup (number : UInt64) : List (Event 1) :=
  [.system (.send ⟨number⟩ (.startup ⟨number⟩ ⟨Duration.zero⟩)),
    .system (.worker ⟨number⟩ (.receive (.ok (some (.startup ⟨number⟩ ⟨Duration.zero⟩))))),
    .system (.worker ⟨number⟩ (.returned (.ok ()) ⟨Duration.zero⟩)),
    .system (.worker ⟨number⟩ (.sendToScheduler (.ready ⟨number⟩ ⟨Duration.zero⟩) (.ok ())))]

/-- A worker performs the accesses of one step. -/
def pairStep (number : UInt64) (accesses : List (Event 1)) : List (Event 1) :=
  [.system (.send ⟨number⟩ (.step ⟨number⟩ ⟨Duration.zero⟩)),
    .system (.worker ⟨number⟩ (.receive (.ok (some (.step ⟨number⟩ ⟨Duration.zero⟩)))))] ++
  accesses ++
  [.system (.worker ⟨number⟩ (.returned (.ok ()) ⟨Duration.zero⟩)),
    .system (.worker ⟨number⟩ (.sendToScheduler (.ready ⟨number⟩ ⟨Duration.zero⟩) (.ok ()))),
    .system (.receive ⟨number⟩ (.ready ⟨number⟩ ⟨Duration.zero⟩))]

/-- The reader loads the byte that the writer has sent in the first task chain. -/
def pairRun : List (Event 1) :=
  pairStartup 1 ++ pairStartup 2 ++
  [.system (.scheduler (.elapsed Duration.zero)),
    .system (.receive ⟨1⟩ (.ready ⟨1⟩ ⟨Duration.zero⟩)),
    .system (.scheduler (.elapsed Duration.zero)),
    .system (.receive ⟨2⟩ (.ready ⟨2⟩ ⟨Duration.zero⟩))] ++
  pairStep 1 [.access ⟨1⟩, .store 0 7, .access ⟨1⟩, .access ⟨1⟩] ++
  pairStep 2 [.access ⟨2⟩, .access ⟨2⟩, .load ⟨2⟩ 0, .access ⟨2⟩, .access ⟨2⟩]

theorem pairRun_reads : ((machine pair 1 counter).run (initial pair fun _ => 0) pairRun).map
    (fun sharing => (sharing.reads, sharing.sent.map fun entry => (entry.1, entry.2 0))) =
      some ([⟨⟨2⟩, 1, 0, 7⟩], [(1, 7)]) := by
  decide

theorem pair_depends : ∀ reader ∈ counter.readers,
    Relation.TransGen pair.scheduler.Depends reader counter.writer := by
  intro reader member
  rw [List.mem_singleton.mp member]
  apply Relation.TransGen.single
  exact ⟨by decide, by decide, by decide⟩

theorem run_consistent_pair :
    ∃ sharing, (machine pair 1 counter).run (initial pair fun _ => 0) pairRun = some sharing ∧
      (∀ id access, sharing.accesses id = some access →
        ∀ assertion, access.point ≠ .panicked assertion) ∧
      sharing.reads = [⟨⟨2⟩, 1, 0, 7⟩] ∧
      ∃ payload, (∀ other, (1, other) ∈ sharing.sent ↔ other = payload) ∧ 7 = payload 0 := by
  obtain ⟨sharing, run, observed⟩ := Option.map_eq_some_iff.mp pairRun_reads
  have reads : sharing.reads = [⟨⟨2⟩, 1, 0, 7⟩] := (Prod.mk.inj observed).1
  obtain ⟨unpanicked, consistent⟩ :=
    run_consistent pair counter 1 _ pair_depends pairRun sharing run
  refine ⟨sharing, run, unpanicked, reads, ?_⟩
  exact consistent ⟨⟨2⟩, 1, 0, 7⟩ (by rw [reads]; exact List.mem_singleton_self _)

end Sharing

end Feo
