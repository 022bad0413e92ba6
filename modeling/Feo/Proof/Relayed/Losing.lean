import Feo.Construction.Relayed.Losing
import Feo.Foundation.Channel
import Feo.Foundation.Split
import Mathlib.Data.List.Induction

namespace Feo.Relayed.Relaying

open Foundation

variable {agents : List AgentId}

/-- Every late packet of an agent with an open connection can still be forwarded. -/
def Served (agents : List AgentId) (relaying : Relaying) : Prop :=
  ∀ packet ∈ relaying.sent, packet.late = true → relaying.reset packet.agent = false →
    ∃ continuation final, (machine agents).run relaying continuation = some final ∧
      packet ∈ final.forwarded

/-- A reset is reported after all late packets, and nobody sends late to an ended relay. -/
def Undisturbed (agents : List AgentId) (relaying : Relaying) : Event → Prop
  | .report _ => ∀ packet ∈ relaying.sent, packet.late = true →
      relaying.reset packet.agent = false → packet ∉ relaying.pending packet.agent
  | .send agent _ => relaying.running = true ∨ lost agents relaying agent = false
  | _ => True

/-- Each packet waits in the connection of its agent or was forwarded, but not both. -/
structure Sorted (relaying : Relaying) : Prop where
  numbered : ∀ packet ∈ relaying.sent, packet.number < relaying.sent.length
  kept : ∀ packet ∈ relaying.sent,
    packet ∈ relaying.forwarded ∨ packet ∈ relaying.pending packet.agent
  known : ∀ packet ∈ relaying.forwarded, packet ∈ relaying.sent
  waiting : ∀ agent, ∀ packet ∈ relaying.pending agent,
    packet.agent = agent ∧ packet ∈ relaying.sent ∧ packet ∉ relaying.forwarded
  distinct : ∀ agent, (relaying.pending agent).Nodup

theorem sorted_initial : Sorted initial where
  numbered packet sent := by cases sent
  kept packet sent := by cases sent
  known packet forwarded := by cases forwarded
  waiting agent packet waits := by cases waits
  distinct _ := List.nodup_nil

/-- Each event changes the relay in one of these ways. -/
inductive Move (agents : List AgentId) (source : Relaying) : Event → Relaying → Prop where
  | send {agent : AgentId} {signal : Signal} (packet : Packet) (sender : packet.agent = agent)
      (flag : packet.late = lost agents source agent)
      (number : packet.number = source.sent.length) (isOpen : source.reset agent = false) :
      Move agents source (.send agent signal)
        { source with
          pending := Function.update source.pending agent (source.pending agent ++ [packet])
          sent := source.sent ++ [packet] }
  | reset {agent : AgentId} :
      Move agents source (.reset agent)
        { source with reset := Function.update source.reset agent true }
  | receive {agent : AgentId} (packet : Packet) (rest : List Packet)
      (running : source.running = true) (head : source.pending agent = packet :: rest) :
      Move agents source (.receive agent)
        { source with
          pending := Function.update source.pending agent rest
          forwarded := source.forwarded ++ [packet] }
  | timeout : Move agents source .timeout source
  | report {agent : AgentId} (running : source.running = true) :
      Move agents source (.report agent) { source with running := false }

theorem step_move {source target : Relaying} {event : Event}
    (stepped : step agents source event = some target) : Move agents source event target := by
  cases event with
  | send agent signal =>
      simp only [step] at stepped
      split at stepped
      · next allowed =>
          cases stepped
          exact .send _ rfl rfl rfl allowed.2
      · cases stepped
  | reset agent =>
      simp only [step] at stepped
      split at stepped
      · cases stepped
        exact .reset
      · cases stepped
  | receive agent =>
      simp only [step] at stepped
      split at stepped
      · next packet rest running head =>
          cases stepped
          exact .receive packet rest running head
      · cases stepped
  | timeout =>
      simp only [step] at stepped
      split at stepped
      · cases stepped
        exact .timeout
      · cases stepped
  | report agent =>
      simp only [step] at stepped
      split at stepped
      · next allowed =>
          cases stepped
          exact .report allowed.1
      · cases stepped

/-- A sent packet is new and waits in the connection of its agent. -/
theorem Sorted.send {source : Relaying} (sorted : Sorted source) {packet : Packet}
    {agent : AgentId} (sender : packet.agent = agent)
    (number : packet.number = source.sent.length) :
    Sorted { source with
      pending := Function.update source.pending agent (source.pending agent ++ [packet])
      sent := source.sent ++ [packet] } := by
  subst sender
  have fresh : packet ∉ source.sent := by
    intro member
    have below := sorted.numbered packet member
    omega
  refine ⟨?_, ?_, ?_, ?_, ?_⟩
  · intro other member
    rw [List.length_append, List.length_singleton]
    rcases List.mem_append.mp member with earlier | last
    · have below := sorted.numbered other earlier
      omega
    · rw [List.mem_singleton.mp last, number]
      exact Nat.lt_succ_self _
  · intro other member
    rcases List.mem_append.mp member with earlier | last
    · exact (sorted.kept other earlier).imp_right fun waits => mem_update_concat.mpr (.inl waits)
    · rw [List.mem_singleton.mp last]
      exact .inr (mem_update_concat.mpr (.inr ⟨rfl, rfl⟩))
  · exact fun other member => List.mem_append_left _ (sorted.known other member)
  · intro agent other member
    rcases mem_update_concat.mp member with earlier | ⟨rfl, rfl⟩
    · obtain ⟨sender, sent, unforwarded⟩ := sorted.waiting agent other earlier
      exact ⟨sender, List.mem_append_left _ sent, unforwarded⟩
    · refine ⟨rfl, List.mem_append_right _ (List.mem_singleton_self _), ?_⟩
      exact fun forwarded => fresh (sorted.known other forwarded)
  · intro agent
    by_cases same : agent = packet.agent
    · subst same
      simp only [Function.update_self]
      refine (sorted.distinct _).append (List.nodup_singleton packet) ?_
      rw [List.disjoint_singleton]
      exact fun member => fresh (sorted.waiting _ packet member).2.1
    · simp only [Function.update_of_ne same]
      exact sorted.distinct agent

/-- A received packet leaves the connection of its agent and is forwarded. -/
theorem Sorted.receive {source : Relaying} (sorted : Sorted source) {packet : Packet}
    {agent : AgentId} {rest : List Packet} (head : source.pending agent = packet :: rest) :
    Sorted { source with
      pending := Function.update source.pending agent rest
      forwarded := source.forwarded ++ [packet] } := by
  obtain ⟨sender, sent, _⟩ := sorted.waiting agent packet (by rw [head]; exact List.mem_cons_self)
  subst sender
  have distinct := sorted.distinct packet.agent
  rw [head] at distinct
  obtain ⟨absent, distinctRest⟩ := List.nodup_cons.mp distinct
  refine ⟨sorted.numbered, ?_, ?_, ?_, ?_⟩
  · intro other member
    rcases sorted.kept other member with forwarded | waits
    · exact .inl (List.mem_append_left _ forwarded)
    · by_cases same : other = packet
      · rw [same]
        exact .inl (List.mem_append_right _ (List.mem_singleton_self _))
      · exact .inr (mem_update_of_ne head waits same)
  · intro other member
    rcases List.mem_append.mp member with earlier | last
    · exact sorted.known other earlier
    · rw [List.mem_singleton.mp last]
      exact sent
  · intro agent other member
    obtain ⟨sender, known, unforwarded⟩ := sorted.waiting agent other
      (mem_of_mem_update head member)
    refine ⟨sender, known, ?_⟩
    intro forwarded
    rcases List.mem_append.mp forwarded with earlier | last
    · exact unforwarded earlier
    · have same := List.mem_singleton.mp last
      subst same
      subst sender
      simp only [Function.update_self] at member
      exact absent member
  · intro agent
    by_cases same : agent = packet.agent
    · subst same
      simp only [Function.update_self]
      exact distinctRest
    · simp only [Function.update_of_ne same]
      exact sorted.distinct agent

/-- Each event keeps the packets sorted. -/
theorem Move.sorted {source target : Relaying} {event : Event}
    (move : Move agents source event target) (sorted : Sorted source) : Sorted target := by
  cases move with
  | send packet sender _ number _ => exact sorted.send sender number
  | reset | timeout | report => exact ⟨sorted.1, sorted.2, sorted.3, sorted.4, sorted.5⟩
  | receive packet rest _ head => exact sorted.receive head

theorem run_sorted {history : List Event} {final : Relaying}
    (reached : (machine agents).run initial history = some final) : Sorted final :=
  (machine agents).run_preserves Sorted
    (fun _ _ _ sorted stepped => (step_move stepped).sorted sorted) sorted_initial reached

/-- An ended relay forwards nothing more. -/
theorem Move.ended {source target : Relaying} {event : Event}
    (move : Move agents source event target) (ended : source.running = false) :
    target.running = false ∧ target.forwarded = source.forwarded := by
  cases move with
  | send | reset | timeout => exact ⟨ended, rfl⟩
  | receive packet rest running | report running =>
      rw [ended] at running
      exact Bool.noConfusion running

theorem run_ended {start final : Relaying} {continuation : List Event}
    (ended : start.running = false)
    (reached : (machine agents).run start continuation = some final) :
    final.forwarded = start.forwarded := by
  have kept := (machine agents).run_preserves
    (fun state => state.running = false ∧ state.forwarded = start.forwarded)
    (fun _ _ _ invariant stepped => by
      obtain ⟨still, same⟩ := (step_move stepped).ended invariant.1
      exact ⟨still, same.trans invariant.2⟩) ⟨ended, rfl⟩ reached
  exact kept.2

/-- The relay forwards the first packet of an agent. -/
def forwardFirst (relaying : Relaying) (packet : Packet) (agent : AgentId)
    (rest : List Packet) : Relaying :=
  { relaying with
    pending := Function.update relaying.pending agent rest
    forwarded := relaying.forwarded ++ [packet] }

theorem step_forwardFirst (agents : List AgentId) {relaying : Relaying}
    (running : relaying.running = true) {packet : Packet} {agent : AgentId} {rest : List Packet}
    (head : relaying.pending agent = packet :: rest) :
    (machine agents).step relaying (.receive agent) =
      some (relaying.forwardFirst packet agent rest) := by
  simp [machine, step, running, head, react, primaryReceive, forwardFirst]

/-- A running relay can forward each waiting packet. -/
theorem run_forwards (start : Relaying) (running : start.running = true) {packet : Packet}
    {front back : List Packet} (waits : start.pending packet.agent = front ++ packet :: back) :
    ∃ continuation final, (machine agents).run start continuation = some final ∧
      packet ∈ final.forwarded := by
  induction front generalizing start with
  | nil =>
      have stepped := step_forwardFirst agents running waits
      refine ⟨[.receive packet.agent], start.forwardFirst packet packet.agent back, ?_, ?_⟩
      · rw [Machine.run_cons, stepped]
        rfl
      · exact List.mem_append_right _ (List.mem_singleton_self _)
  | cons first front ih =>
      have stepped := step_forwardFirst agents running waits
      obtain ⟨continuation, final, reached, forwarded⟩ :=
        ih (start.forwardFirst first packet.agent (front ++ packet :: back)) running
          (Function.update_self _ _ _)
      refine ⟨.receive packet.agent :: continuation, final, ?_, forwarded⟩
      rw [Machine.run_cons, stepped]
      exact reached

/-- The late packets are served while the relay runs and when all of them were forwarded. -/
theorem served_iff {relaying : Relaying} (sorted : Sorted relaying) :
    Served agents relaying ↔ (relaying.running = true ∨
      ∀ packet ∈ relaying.sent, packet.late = true → relaying.reset packet.agent = false →
        packet ∈ relaying.forwarded) := by
  constructor
  · intro served
    cases running : relaying.running with
    | true => exact .inl rfl
    | false =>
        refine .inr fun packet sent late isOpen => ?_
        obtain ⟨continuation, final, reached, forwarded⟩ := served packet sent late isOpen
        rw [run_ended running reached] at forwarded
        exact forwarded
  · intro either packet sent late isOpen
    rcases sorted.kept packet sent with forwarded | waits
    · exact ⟨[], relaying, rfl, forwarded⟩
    · rcases either with running | all
      · obtain ⟨front, back, split⟩ := List.append_of_mem waits
        exact run_forwards relaying running split
      · exact absurd (all packet sent late isOpen) (sorted.waiting _ packet waits).2.2

/-- A served relay stays served exactly by an undisturbed event. -/
theorem Move.served_iff {source target : Relaying} {event : Event}
    (move : Move agents source event target) (sorted : Sorted source)
    (served : Served agents source) :
    Served agents target ↔ Undisturbed agents source event := by
  rw [Relaying.served_iff (move.sorted sorted)]
  have before := (Relaying.served_iff sorted).mp served
  cases move with
  | send packet sender flag number isOpen =>
      subst sender
      have fresh : packet ∉ source.forwarded := by
        intro member
        have below := sorted.numbered packet (sorted.known packet member)
        omega
      change _ ↔ source.running = true ∨ lost agents source packet.agent = false
      rw [← flag]
      constructor
      · intro after
        refine after.imp_right fun all => ?_
        by_contra late
        have sent := List.mem_append_right source.sent (List.mem_singleton_self packet)
        exact fresh (all packet sent (Bool.eq_true_of_not_eq_false late) isOpen)
      · rintro (running | early)
        · exact .inl running
        · refine before.imp_right fun all other member late stillOpen => ?_
          rcases List.mem_append.mp member with earlier | last
          · exact all other earlier late stillOpen
          · rw [List.mem_singleton.mp last, early] at late
            exact Bool.noConfusion late
  | @reset agent =>
      refine iff_of_true (before.imp_right fun all other member late isOpen => ?_) trivial
      refine all other member late ?_
      by_cases same : other.agent = agent
      · simp [same] at isOpen
      · simpa [same] using isOpen
  | receive packet rest running head => exact iff_of_true (.inl running) trivial
  | timeout => exact iff_of_true before trivial
  | report running =>
      unfold Undisturbed
      constructor
      · intro after packet sent late isOpen waits
        have all := after.resolve_left Bool.false_ne_true
        exact (sorted.waiting _ packet waits).2.2 (all packet sent late isOpen)
      · intro handed
        refine .inr fun packet sent late isOpen => ?_
        exact (sorted.kept packet sent).resolve_right (handed packet sent late isOpen)

/-- Every late packet stays served exactly when no event of the run disturbs it. -/
theorem run_served_iff {history : List Event} {final : Relaying}
    (reached : (machine agents).run initial history = some final) :
    (∀ before after middle, history = before ++ after →
        (machine agents).run initial before = some middle → Served agents middle) ↔
      AtEach (fun before event => ∀ middle, (machine agents).run initial before = some middle →
        Undisturbed agents middle event) history := by
  induction history using List.reverseRecOn generalizing final with
  | nil =>
      refine iff_of_true ?_ (atEach_nil _)
      intro before after middle split started
      obtain ⟨rfl, rfl⟩ := List.append_eq_nil_iff.mp split.symm
      cases started
      intro packet sent
      cases sent
  | append_singleton history event ih =>
      obtain ⟨source, earlier, stepped⟩ := (machine agents).run_concat_iff.mp reached
      have move := step_move stepped
      have sorted := run_sorted earlier
      rw [atEach_concat, ← ih earlier]
      constructor
      · intro all
        have front : ∀ before after middle, history = before ++ after →
            (machine agents).run initial before = some middle → Served agents middle := by
          intro before after middle split started
          exact all before (after ++ [event]) middle (by rw [split, List.append_assoc]) started
        refine ⟨front, fun middle started => ?_⟩
        rw [earlier] at started
        cases started
        have served := front history [] source (List.append_nil _).symm earlier
        exact (move.served_iff sorted served).mp
          (all (history ++ [event]) [] final (List.append_nil _).symm reached)
      · rintro ⟨front, undisturbed⟩ before after middle split started
        rcases List.eq_nil_or_concat after with rfl | ⟨initialPart, last, rfl⟩
        · rw [List.append_nil] at split
          subst split
          rw [reached] at started
          cases started
          have served := front history [] source (List.append_nil _).symm earlier
          exact (move.served_iff sorted served).mpr (undisturbed source earlier)
        · rw [List.concat_eq_append, ← List.append_assoc] at split
          exact front before initialPart middle (List.append_inj' split rfl).1 started

/-- The acknowledgement of agent 102 is received before the reset of agent 101 is reported. -/
def patientRun : List Event :=
  [.reset ⟨101⟩, .send ⟨102⟩ (.terminateAck ⟨102⟩), .receive ⟨102⟩, .report ⟨101⟩]

theorem patientRun_served :
    ∃ final, (machine [⟨101⟩, ⟨102⟩]).run initial patientRun = some final ∧
      Served [⟨101⟩, ⟨102⟩] final := by
  refine ⟨_, rfl, (@run_served_iff [⟨101⟩, ⟨102⟩] patientRun _ rfl).mpr ?_
    patientRun [] _ rfl rfl⟩
  intro front event back split middle started
  match front, split with
  | [], same => cases same; trivial
  | [_], same => cases same; cases started; exact .inl rfl
  | [_, _], same => cases same; trivial
  | [_, _, _], same =>
      cases same
      cases started
      change ∀ packet ∈ _, _
      decide
  | _ :: _ :: _ :: _ :: rest, same => simp [patientRun] at same

/-- The reset of agent 101 is reported before agent 102 acknowledges its termination. -/
theorem hastyRun_unserved :
    ∃ final, (machine [⟨101⟩, ⟨102⟩]).run initial
        [.reset ⟨101⟩, .report ⟨101⟩, .send ⟨102⟩ (.terminateAck ⟨102⟩)] = some final ∧
      ¬ Served [⟨101⟩, ⟨102⟩] final := by
  refine ⟨_, rfl, fun served => ?_⟩
  obtain ⟨continuation, final, reached, forwarded⟩ :=
    served ⟨⟨102⟩, .terminateAck ⟨102⟩, true, 0⟩ (by decide) rfl rfl
  rw [run_ended rfl reached] at forwarded
  exact List.not_mem_nil forwarded

end Feo.Relayed.Relaying
