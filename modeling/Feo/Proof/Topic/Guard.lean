import Feo.Foundation.Channel
import Feo.Foundation.Counting
import Feo.Proof.SharedMemory
import Feo.Proof.Topic.Move

namespace Feo

open Foundation
open ReadWriteAccessControlPtr

variable {deployment : Deployment} {size : Nat}

/-- The writer takes a write guard, the readers take read guards, and the others take none. -/
def Topic.Follows (topic : Topic) (id : ActivityId) (point : Point) : Prop :=
  if id = topic.writer then point.IsWrite
  else if id ∈ topic.readers then point.IsRead
  else point = .released

theorem Topic.first_follows (topic : Topic) (id : ActivityId) :
    topic.Follows id (topic.first id) := by
  unfold Follows first
  by_cases writer : id = topic.writer
  · rw [if_pos writer, if_pos writer]
    exact .lockWrite
  · rw [if_neg writer, if_neg writer]
    by_cases reader : id ∈ topic.readers
    · rw [if_pos reader, if_pos reader]
      exact .lockRead
    · rw [if_neg reader, if_neg reader]

theorem Topic.Follows.released_or {topic : Topic} {id : ActivityId} {point : Point}
    (follows : topic.Follows id point) (other : id ≠ topic.writer) :
    id ∈ topic.readers ∧ point.IsRead ∨ point = .released := by
  unfold Follows at follows
  rw [if_neg other] at follows
  split at follows
  · next reader => exact .inl ⟨reader, follows⟩
  · exact .inr follows

theorem Topic.first_holdsRead (topic : Topic) (id : ActivityId) :
    (topic.first id).holdsRead = false := by
  unfold first
  split
  · rfl
  · split <;> rfl

/-- No access control assertion fails at these points. -/
theorem Topic.Follows.unpanicked {topic : Topic} {id : ActivityId} {point : Point}
    (follows : topic.Follows id point) (assertion : Assertion) : point ≠ .panicked assertion := by
  rintro rfl
  unfold Follows at follows
  split at follows
  · cases follows
  · split at follows <;> cases follows

def Access.holdsRead : Option Access → Bool
  | some access => access.point.holdsRead
  | none => false

/-- The number of readers in one agent that hold their guards. -/
def Topic.held (topic : Topic) (deployment : Deployment) (accesses : ActivityId → Option Access)
    (agent : AgentId) : Nat :=
  topic.readers.countP fun id =>
    decide (deployment.agent id = agent) && Access.holdsRead (accesses id)

theorem Topic.held_congr (topic : Topic) {accesses others : ActivityId → Option Access}
    (same : ∀ id, Access.holdsRead (others id) = Access.holdsRead (accesses id))
    (agent : AgentId) :
    topic.held deployment others agent = topic.held deployment accesses agent := by
  unfold held
  simp only [same]

theorem Topic.held_eq_zero (topic : Topic) {accesses : ActivityId → Option Access}
    (empty : ∀ reader ∈ topic.readers, accesses reader = none) (agent : AgentId) :
    topic.held deployment accesses agent = 0 := by
  rw [held, List.countP_eq_zero]
  intro reader member
  simp [empty reader member, Access.holdsRead]

/-- An access of one reader changes the count of its own agent. -/
theorem Topic.held_update (topic : Topic) (deployment : Deployment)
    (accesses : ActivityId → Option Access) {id : ActivityId} (reader : id ∈ topic.readers)
    (access : Option Access) (agent : AgentId) :
    topic.held deployment (Function.update accesses id access) agent +
        (decide (deployment.agent id = agent) && Access.holdsRead (accesses id)).toNat =
      topic.held deployment accesses agent +
        (decide (deployment.agent id = agent) && Access.holdsRead access).toNat := by
  have change := countP_change
    (fun other => decide (deployment.agent other = agent) && Access.holdsRead (accesses other))
    (fun other => decide (deployment.agent other = agent) &&
      Access.holdsRead (Function.update accesses id access other))
    topic.distinct reader (fun other differs => by rw [Function.update_of_ne differs])
  rw [Function.update_self] at change
  exact change

/-- The readers of an agent leave room in its lock state. -/
theorem Topic.held_room (topic : Topic) (deployment : Deployment)
    (accesses : ActivityId → Option Access) {id : ActivityId} (reader : id ∈ topic.readers) :
    topic.held deployment accesses (deployment.agent id) +
      (!Access.holdsRead (accesses id)).toNat < maxState.toNat := by
  have room := countP_room (fun other =>
    decide (deployment.agent other = deployment.agent id) && Access.holdsRead (accesses other))
    reader
  simp only [decide_true, Bool.true_and] at room
  exact Nat.lt_of_le_of_lt room topic.bounded

/-- A reader that holds its guard is counted. -/
theorem Topic.held_counts (topic : Topic) (deployment : Deployment)
    (accesses : ActivityId → Option Access) {id : ActivityId} (reader : id ∈ topic.readers) :
    (Access.holdsRead (accesses id)).toNat ≤
      topic.held deployment accesses (deployment.agent id) := by
  have change := topic.held_update deployment accesses reader none (deployment.agent id)
  simp only [decide_true, Bool.true_and] at change
  change _ = _ + 0 at change
  omega

namespace Sharing

open Feo.System (Calling Stepping)

variable {topic : Topic}

/-- The accesses belong to running steps. -/
def Located (sharing : Sharing deployment size) : Prop :=
  ∀ id access, sharing.accesses id = some access → Stepping sharing.system id access.cycle

/-- The lock states count the readers, or mark the writer. -/
structure Guarded (topic : Topic) (sharing : Sharing deployment size) : Prop where
  located : Located sharing
  follows : ∀ id access, sharing.accesses id = some access → topic.Follows id access.point
  counted : sharing.accesses topic.writer = none → ∀ agent,
    (sharing.lockStates agent).toNat = topic.held deployment sharing.accesses agent
  alone : ∀ access, sharing.accesses topic.writer = some access → ∀ agent,
    sharing.lockStates agent =
      if agent = deployment.agent topic.writer ∧ access.point = .writing then maxState else 0

theorem guarded_initial (payload : Payload size) :
    Guarded topic (initial deployment payload) where
  located _ _ wrong := nomatch wrong
  follows _ _ wrong := nomatch wrong
  counted _ agent := (topic.held_eq_zero (fun _ _ => rfl) agent).symm
  alone _ wrong := nomatch wrong

/-- The called step is the one that its worker serves. -/
theorem stepping_of_point {system : System deployment} (coherent : System.Coherent system)
    {worker : WorkerId} {id : ActivityId} {time : Timestamp} {request : Request}
    (point : system.points worker = .call (.step id time))
    (serving : system.serving worker = some request) :
    deployment.route id = worker ∧ Stepping system id request.cycle := by
  obtain ⟨same, calling⟩ := coherent.calling point serving
  have route := coherent.route_eq calling id (by rw [same]; rfl)
  obtain ⟨signal, cycle⟩ := request
  cases same
  subst route
  exact ⟨rfl, time, calling⟩

/-- Each move keeps the accesses at running steps. -/
theorem Move.located {sharing next : Sharing deployment size} (move : Move topic sharing next)
    (coherent : System.Coherent next.system) (located : Located sharing) : Located next := by
  have kept {event : System.Event} {system : System deployment} {other : ActivityId}
      {access : Access} (stepped : sharing.system.step event = some system)
      (before : sharing.accesses other = some access)
      (stays : ∀ result time, event ≠ .worker (deployment.route other) (.returned result time)) :
      Stepping system other access.cycle := by
    rcases (located other access before).step stepped with running | ⟨result, time, same⟩
    · exact running
    · exact (stays result time same).elim
  intro other access member
  cases move with
  | @stayed event system stepped unreturned =>
      apply kept stepped member
      intro result time same
      obtain ⟨sent, point, -⟩ := located other access member
      exact unreturned _ result time same other sent point
  | @entered worker result id time request system stepped point serving =>
      rcases update_eq_cases member with ⟨rfl, same⟩ | ⟨-, before⟩
      · cases same
        exact (stepping_of_point coherent point serving).2
      · exact kept stepped before (by simp)
  | @left worker result id time sent cycle system stepped point released =>
      rcases update_eq_cases member with ⟨-, same⟩ | ⟨differs, before⟩
      · cases same
      · apply kept stepped before
        rintro answer later route
        cases route
        obtain ⟨began, running, -⟩ := located other access before
        rw [point] at running
        cases running
        exact differs rfl
  | @accessed id cycle point after lockState before stepped =>
      rcases update_eq_cases member with ⟨rfl, same⟩ | ⟨-, earlier⟩
      · cases same
        have running := located other _ before
        exact running
      · exact located other access earlier
  | stored | loaded => exact located other access member

/-- No reader has an access while the writer has one. -/
theorem Located.excludes {sharing : Sharing deployment size} (located : Located sharing)
    (reached : Reached sharing)
    (dependent : ∀ reader ∈ topic.readers,
      Relation.TransGen deployment.scheduler.Depends reader topic.writer)
    {access : Access} (writer : sharing.accesses topic.writer = some access) :
    ∀ reader ∈ topic.readers, sharing.accesses reader = none := by
  intro reader member
  cases other : sharing.accesses reader with
  | none => rfl
  | some reading =>
      have running := located reader reading other
      exact (running.excludes reached.inOrder reached.recorded (dependent reader member)
        (located topic.writer access writer)).elim

/-- A step that begins had no access before. -/
theorem accesses_of_entered {sharing : Sharing deployment size} (located : Located sharing)
    {worker : WorkerId} {result : Except Error (Option Signal)} {id : ActivityId}
    {system : System deployment}
    (stepped : sharing.system.step (.worker worker (.receive result)) = some system)
    (route : deployment.route id = worker) : sharing.accesses id = none := by
  cases before : sharing.accesses id with
  | none => rfl
  | some access =>
      subst route
      exact ((located id access before).unreceived stepped).elim

section Guarded

variable {sharing : Sharing deployment size}

/-- A change that no reader and no writer notices keeps the lock states. -/
theorem Guarded.congr (guarded : Guarded topic sharing) {next : Sharing deployment size}
    (located : Located next)
    (follows : ∀ id access, next.accesses id = some access → topic.Follows id access.point)
    (held : ∀ id, Access.holdsRead (next.accesses id) = Access.holdsRead (sharing.accesses id))
    (writer : next.accesses topic.writer = sharing.accesses topic.writer)
    (lockStates : next.lockStates = sharing.lockStates) : Guarded topic next where
  located := located
  follows := follows
  counted absent agent := by
    rw [lockStates, topic.held_congr held agent]
    exact guarded.counted (writer.symm.trans absent) agent
  alone access present agent := by
    rw [lockStates]
    exact guarded.alone access (writer.symm.trans present) agent

/-- The next access of one activity follows the topic as the others do. -/
theorem Guarded.follows_update (guarded : Guarded topic sharing) (id : ActivityId)
    (access : Option Access)
    (follows : ∀ inner, access = some inner → topic.Follows id inner.point) :
    ∀ other inner, Function.update sharing.accesses id access other = some inner →
      topic.Follows other inner.point := by
  intro other inner member
  rcases update_eq_cases member with ⟨rfl, same⟩ | ⟨-, before⟩
  · exact follows inner same
  · exact guarded.follows other inner before

theorem holdsRead_update {accesses : ActivityId → Option Access} {id : ActivityId}
    {access : Option Access}
    (same : Access.holdsRead access = Access.holdsRead (accesses id)) (other : ActivityId) :
    Access.holdsRead (Function.update accesses id access other) =
      Access.holdsRead (accesses other) := by
  by_cases equal : other = id
  · subst equal
    rw [Function.update_self]
    exact same
  · rw [Function.update_of_ne equal]

/-- A step begins without a lock. -/
theorem guarded_entered (guarded : Guarded topic sharing) {id : ActivityId} {cycle : Nat}
    {system : System deployment} (absent : sharing.accesses id = none)
    (located : Located { sharing with
      system := system
      accesses := Function.update sharing.accesses id (some ⟨cycle, topic.first id⟩) })
    (empty : id = topic.writer → ∀ reader ∈ topic.readers, sharing.accesses reader = none) :
    Guarded topic { sharing with
      system := system
      accesses := Function.update sharing.accesses id (some ⟨cycle, topic.first id⟩) } := by
  have follows := guarded.follows_update id (some ⟨cycle, topic.first id⟩) <| by
    rintro inner same
    cases same
    exact topic.first_follows id
  by_cases writer : id = topic.writer
  · refine ⟨located, follows, ?_, ?_⟩
    · intro wrong
      dsimp only at wrong
      rw [← writer, Function.update_self] at wrong
      cases wrong
    · intro access present agent
      rcases update_eq_cases present with ⟨-, same⟩ | ⟨differs, -⟩
      · cases same
        have unlocked := guarded.counted (writer ▸ absent) agent
        rw [topic.held_eq_zero (empty writer) agent] at unlocked
        have point : topic.first id = .lockWrite := if_pos writer
        rw [if_neg]
        · exact UInt16.toNat_inj.mp unlocked
        · rintro ⟨-, wrong⟩
          rw [point] at wrong
          cases wrong
      · exact (differs writer.symm).elim
  · refine guarded.congr located follows ?_ ?_ rfl
    · apply holdsRead_update
      rw [absent]
      exact topic.first_holdsRead id
    · exact Function.update_of_ne (Ne.symm writer) _ _

/-- A step ends without a lock. -/
theorem guarded_left (guarded : Guarded topic sharing) {id : ActivityId} {cycle : Nat}
    {system : System deployment} (released : sharing.accesses id = some ⟨cycle, .released⟩)
    (located : Located { sharing with
      system := system
      accesses := Function.update sharing.accesses id none })
    (empty : id = topic.writer → ∀ reader ∈ topic.readers, sharing.accesses reader = none) :
    Guarded topic { sharing with
      system := system
      accesses := Function.update sharing.accesses id none } := by
  have follows := guarded.follows_update id none nofun
  have held (other : ActivityId) :
      Access.holdsRead (Function.update sharing.accesses id none other) =
        Access.holdsRead (sharing.accesses other) := by
    apply holdsRead_update
    rw [released]
    rfl
  by_cases writer : id = topic.writer
  · refine ⟨located, follows, ?_, ?_⟩
    · intro absent agent
      have unlocked := guarded.alone _ (writer ▸ released) agent
      rw [if_neg nofun] at unlocked
      dsimp only
      rw [unlocked, topic.held_congr held agent, topic.held_eq_zero (empty writer) agent]
      rfl
    · intro access present
      dsimp only at present
      rw [← writer, Function.update_self] at present
      cases present
  · exact guarded.congr located follows held (Function.update_of_ne (Ne.symm writer) _ _) rfl

/-- The writer is alone with the lock state of its agent. -/
theorem Guarded.write_step (guarded : Guarded topic sharing) {cycle : Nat} {point after : Point}
    {lockState : UInt16} (access : sharing.accesses topic.writer = some ⟨cycle, point⟩)
    (stepped : point.step (sharing.lockStates (deployment.agent topic.writer)) =
      some (lockState, after)) :
    after.IsWrite ∧ (lockState = if after = .writing then maxState else 0) ∧
      if point = .writing then after = .drop
      else after ≠ .drop ∧ after.hasSent = point.hasSent := by
  have follows := guarded.follows topic.writer _ access
  have own := guarded.alone _ access (deployment.agent topic.writer)
  unfold Topic.Follows at follows
  rw [if_pos rfl] at follows
  simp only [true_and] at own
  exact follows.step own stepped

/-- The writer changes only the lock state of its own agent. -/
theorem Guarded.written (guarded : Guarded topic sharing) {cycle : Nat} {point after : Point}
    {lockState : UInt16} (access : sharing.accesses topic.writer = some ⟨cycle, point⟩)
    (stepped : point.step (sharing.lockStates (deployment.agent topic.writer)) =
      some (lockState, after)) (agent : AgentId) :
    Function.update sharing.lockStates (deployment.agent topic.writer) lockState agent =
      if agent = deployment.agent topic.writer ∧ after = .writing then maxState else 0 := by
  obtain ⟨-, locked, -⟩ := guarded.write_step access stepped
  by_cases same : agent = deployment.agent topic.writer
  · subst same
    rw [Function.update_self, locked]
    simp only [true_and]
  · rw [Function.update_of_ne same, guarded.alone _ access agent, if_neg fun wrong => same wrong.1,
      if_neg fun wrong => same wrong.1]

/-- A reader changes only the count of its own agent. -/
theorem Guarded.read_step (guarded : Guarded topic sharing) {id : ActivityId} {cycle : Nat}
    {point after : Point} {lockState : UInt16} (reader : id ∈ topic.readers)
    (read : point.IsRead) (absent : sharing.accesses topic.writer = none)
    (access : sharing.accesses id = some ⟨cycle, point⟩)
    (stepped : point.step (sharing.lockStates (deployment.agent id)) = some (lockState, after)) :
    after.IsRead ∧
      ∀ agent, (Function.update sharing.lockStates (deployment.agent id) lockState agent).toNat =
        topic.held deployment (Function.update sharing.accesses id (some ⟨cycle, after⟩))
          agent := by
  have counted := guarded.counted absent
  have own := counted (deployment.agent id)
  have held := topic.held_counts deployment sharing.accesses reader
  have room := topic.held_room deployment sharing.accesses reader
  rw [← own, access] at held room
  obtain ⟨follows, balance⟩ := read.step held room stepped
  refine ⟨follows, fun agent => ?_⟩
  have change := topic.held_update deployment sharing.accesses reader (some ⟨cycle, after⟩) agent
  rw [access, ← counted agent] at change
  change _ + (_ && point.holdsRead).toNat = _ + (_ && after.holdsRead).toNat at change
  by_cases same : agent = deployment.agent id
  · subst same
    simp only [decide_true, Bool.true_and] at change
    rw [Function.update_self]
    omega
  · simp only [decide_eq_false (Ne.symm same), Bool.false_and, Bool.toNat_false] at change
    rw [Function.update_of_ne same]
    omega

/-- No access of the writer and of a reader meet. -/
theorem Guarded.writer_absent (guarded : Guarded topic sharing) (reached : Reached sharing)
    (dependent : ∀ reader ∈ topic.readers,
      Relation.TransGen deployment.scheduler.Depends reader topic.writer)
    {reader : ActivityId} {access : Access} (member : reader ∈ topic.readers)
    (present : sharing.accesses reader = some access) : sharing.accesses topic.writer = none := by
  cases writer : sharing.accesses topic.writer with
  | none => rfl
  | some writing =>
      have absent := guarded.located.excludes reached dependent writer reader member
      rw [present] at absent
      cases absent

/-- An access moves the lock state of its agent as the topic allows. -/
theorem guarded_accessed (guarded : Guarded topic sharing) (reached : Reached sharing)
    (dependent : ∀ reader ∈ topic.readers,
      Relation.TransGen deployment.scheduler.Depends reader topic.writer)
    {id : ActivityId} {cycle : Nat} {point after : Point} {lockState : UInt16}
    {sent : List (Nat × Payload size)} (access : sharing.accesses id = some ⟨cycle, point⟩)
    (stepped : point.step (sharing.lockStates (deployment.agent id)) = some (lockState, after))
    (located : Located { sharing with
      accesses := Function.update sharing.accesses id (some ⟨cycle, after⟩)
      lockStates := Function.update sharing.lockStates (deployment.agent id) lockState
      sent := sent }) :
    Guarded topic { sharing with
      accesses := Function.update sharing.accesses id (some ⟨cycle, after⟩)
      lockStates := Function.update sharing.lockStates (deployment.agent id) lockState
      sent := sent } := by
  by_cases writer : id = topic.writer
  · subst writer
    refine ⟨located, ?_, ?_, ?_⟩
    · apply guarded.follows_update
      intro inner same
      cases same
      unfold Topic.Follows
      rw [if_pos rfl]
      exact (guarded.write_step access stepped).1
    · intro wrong
      dsimp only at wrong
      rw [Function.update_self] at wrong
      cases wrong
    · intro inner present
      dsimp only at present
      rw [Function.update_self] at present
      cases present
      exact guarded.written access stepped
  · rcases (guarded.follows id _ access).released_or writer with ⟨reader, read⟩ | released
    · have absent := guarded.writer_absent reached dependent reader access
      obtain ⟨follows, counted⟩ := guarded.read_step reader read absent access stepped
      refine ⟨located, ?_, fun _ => counted, ?_⟩
      · apply guarded.follows_update
        intro inner same
        cases same
        unfold Topic.Follows
        rw [if_neg writer, if_pos reader]
        exact follows
      · intro inner present
        dsimp only at present
        rw [Function.update_of_ne (Ne.symm writer), absent] at present
        cases present
    · dsimp only at released
      subst released
      cases stepped

/-- Each move keeps the lock states. -/
theorem Move.guarded {next : Sharing deployment size} (move : Move topic sharing next)
    (reached : Reached sharing)
    (dependent : ∀ reader ∈ topic.readers,
      Relation.TransGen deployment.scheduler.Depends reader topic.writer)
    (guarded : Guarded topic sharing) : Guarded topic next := by
  have after := move.reached reached
  have coherent := after.inOrder.coherent
  have located := move.located coherent guarded.located
  cases move with
  | stayed | stored | loaded =>
      exact ⟨located, guarded.follows, guarded.counted, guarded.alone⟩
  | @entered worker result id time request system stepped point serving =>
      obtain ⟨route, -⟩ := stepping_of_point coherent point serving
      have absent := accesses_of_entered guarded.located stepped route
      refine guarded_entered guarded absent located ?_
      rintro rfl reader member
      have empty := located.excludes after dependent (Function.update_self _ _ _) reader member
      rcases update_eq_cases empty with ⟨-, wrong⟩ | ⟨-, before⟩
      · cases wrong
      · exact before
  | left stepped point released =>
      refine guarded_left guarded released located ?_
      rintro rfl
      exact guarded.located.excludes reached dependent released
  | accessed access stepped =>
      exact guarded_accessed guarded reached dependent access stepped located

end Guarded

end Sharing

end Feo
