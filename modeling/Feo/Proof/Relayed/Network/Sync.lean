import Feo.Proof.Relayed.Network.Down

namespace Feo.Relayed

open Foundation

/-- The agent has not been sent `StartupSync` yet. -/
def Main.Unsynced (agent : AgentId) : Main → Prop
  | .syncTime _ remaining => agent ∈ remaining
  | .failed unsynced => agent ∈ unsynced
  | .run => False
  | .broadcastTerminate _ _ => False
  | _ => True

/-- The main thread writes to this agent next. -/
def Main.addressee : Main → Option AgentId
  | .syncTime _ (agent :: _) => some agent
  | .broadcastTerminate _ (.agent agent :: _) => some agent
  | _ => none

def Destination.agent? : Destination → Option AgentId
  | .agent id => some id
  | .worker _ => none

/-- The relay of a secondary forwards signals once it is synchronized. -/
def SecondaryReceiveThread.relaying : SecondaryReceiveThread → Bool
  | .relay _ => true
  | _ => false

/-- A send that writes nothing garbles no connection. -/
theorem Link.garbled_of_fail {link : Link} (garbled : link.fail false = .garbled) :
    link = .garbled := by
  cases link <;> cases garbled
  rfl

namespace Network

variable {setup : Setup}

/-- The event writes bytes of a frame to the connection of this agent. -/
def writes (network : Network setup) : Event → Option AgentId
  | .next => network.main.addressee
  | .nextError _ part => if part then network.main.addressee else none
  | .send id _ => (setup.connector.sendToActivity id).toOption.bind Destination.agent?
  | .sendError id _ _ part =>
      if part then (setup.connector.sendToActivity id).toOption.bind Destination.agent? else none
  | _ => none

/-- The primary writes nothing to an agent after a send to the agent has failed. -/
def Unbroken (network : Network setup) (event : Event) : Prop :=
  ∀ agent ∈ network.writes event, network.links agent = .whole

instance (network : Network setup) (event : Event) : Decidable (network.Unbroken event) :=
  inferInstanceAs (Decidable (∀ agent ∈ network.writes event, network.links agent = .whole))

section Unbroken

variable {network : Network setup}

theorem Unbroken.synchronized {info : SyncInfo} {agent : AgentId} {rest : List AgentId}
    (unbroken : network.Unbroken .next) (main : network.main = .syncTime info (agent :: rest)) :
    network.links agent = .whole := by
  apply unbroken
  rw [writes, main]
  rfl

theorem Unbroken.terminated {time : Timestamp} {target : Destination} {rest : List Destination}
    (unbroken : network.Unbroken .next)
    (main : network.main = .broadcastTerminate time (target :: rest)) :
    ∀ agent, target = .agent agent → network.links agent = .whole := by
  rintro agent rfl
  apply unbroken
  rw [writes, main]
  rfl

theorem Unbroken.sent {id : ActivityId} {signal : Signal} {target : Destination}
    (unbroken : network.Unbroken (.send id signal))
    (route : setup.connector.sendToActivity id = .ok target) :
    ∀ agent, target = .agent agent → network.links agent = .whole := by
  rintro agent rfl
  apply unbroken
  rw [writes, route]
  rfl

/-- A part of a frame is written only to a whole connection. -/
theorem Unbroken.clear_fail {event : Event} {agent here : AgentId} {part : Bool}
    (unbroken : network.Unbroken event)
    (writes : part = true → agent ∈ network.writes event)
    (clear : ∀ other, network.links other ≠ .garbled) :
    (network.failAgent agent part).links here ≠ .garbled := by
  intro garbled
  rcases update_eq_cases garbled with ⟨_, same⟩ | ⟨_, same⟩
  · cases part with
    | true =>
        rw [unbroken agent (writes rfl)] at same
        cases same
    | false =>
        exact clear agent (Link.garbled_of_fail same)
  · exact clear here same

end Unbroken

/-- Exactly the first signal of an unsynchronized connection is `StartupSync`. -/
def Unsynchronized (queue : List ProtocolSignal) : Prop :=
  ∃ info rest, queue = .core (.startupSync info) :: rest ∧
    ∀ other, .core (.startupSync other) ∉ rest

/-- Each relay of a secondary receives `StartupSync` before any other signal. -/
structure Synchronizing (network : Network setup) (agent : AgentId) : Prop where
  relaying : (network.secondaryReceive agent).relaying = true →
    ¬ network.main.Unsynced agent ∧ ∀ info, .core (.startupSync info) ∉ network.toAgent agent
  waiting : (network.secondaryReceive agent).relaying = false →
    network.main.Unsynced agent ∧ network.toAgent agent = [] ∨
      ¬ network.main.Unsynced agent ∧ Unsynchronized (network.toAgent agent)

/-- No connection is garbled, and each agent is synchronized once. -/
structure Synced (network : Network setup) : Prop where
  clear : ∀ agent, network.links agent ≠ .garbled
  synchronizing : ∀ agent ∈ setup.remoteAgents, network.Synchronizing agent

theorem synced_initial : Synced (initial setup) where
  clear _ := by
    change Link.whole ≠ .garbled
    decide
  synchronizing agent _ := by
    refine ⟨?_, fun _ => .inl ⟨trivial, rfl⟩⟩
    intro relaying
    cases relaying

/-- A signal for an agent whose connection is whole joins its queue. -/
theorem push_toAgent (network : Network setup) (signal : Signal) (target : Destination)
    (whole : ∀ here, target = .agent here → network.links here = .whole) (agent : AgentId) :
    (network.push signal target).toAgent agent =
      network.toAgent agent ++ if target = .agent agent then [.core signal] else [] := by
  cases target with
  | worker id => simp [push]
  | agent id =>
      have intact : (network.links id).intact = true := by rw [whole id rfl]; rfl
      by_cases same : id = agent
      · subst same
        simp [push, pushAgent, intact]
      · simp [push, pushAgent, intact, same, Function.update_of_ne (Ne.symm same)]

theorem pushAgent_toAgent {network : Network setup} {here : AgentId} {signal : ProtocolSignal}
    (whole : network.links here = .whole) :
    (network.pushAgent here signal).toAgent =
      Function.update network.toAgent here (network.toAgent here ++ [signal]) :=
  if_pos (by rw [whole]; rfl)

/-- The synchronization of an agent does not depend on the other threads. -/
theorem Synchronizing.congr {network next : Network setup} {agent : AgentId}
    (synchronizing : network.Synchronizing agent)
    (thread : (next.secondaryReceive agent).relaying =
      (network.secondaryReceive agent).relaying)
    (main : next.main.Unsynced agent ↔ network.main.Unsynced agent)
    (queue : next.toAgent agent = network.toAgent agent) : next.Synchronizing agent where
  relaying relays := by
    rw [main, queue]
    exact synchronizing.relaying (thread ▸ relays)
  waiting waits := by
    rw [main, queue]
    exact synchronizing.waiting (thread ▸ waits)

/-- The calls of the scheduler append no further `StartupSync`. -/
theorem Synchronizing.append {network next : Network setup} {agent : AgentId}
    (synchronizing : network.Synchronizing agent) (extra : List ProtocolSignal)
    (thread : next.secondaryReceive agent = network.secondaryReceive agent)
    (before : ¬ network.main.Unsynced agent) (after : ¬ next.main.Unsynced agent)
    (queue : next.toAgent agent = network.toAgent agent ++ extra)
    (other : ∀ info, .core (.startupSync info) ∉ extra) : next.Synchronizing agent where
  relaying relays := by
    refine ⟨after, ?_⟩
    intro info member
    rw [queue] at member
    rcases List.mem_append.mp member with earlier | last
    · exact (synchronizing.relaying (thread ▸ relays)).2 info earlier
    · exact other info last
  waiting waits := by
    rcases synchronizing.waiting (thread ▸ waits) with ⟨unsynced, _⟩ | ⟨_, first⟩
    · exact (before unsynced).elim
    · obtain ⟨info, rest, same, none⟩ := first
      refine .inr ⟨after, info, rest ++ extra, by rw [queue, same, List.cons_append], ?_⟩
      intro second member
      rcases List.mem_append.mp member with earlier | last
      · exact none second earlier
      · exact other second last

/-- The primary sends one `StartupSync` to each agent. -/
theorem Synchronizing.synchronized {network : Network setup} {agent here : AgentId}
    {info : SyncInfo} {rest : List AgentId} (synchronizing : network.Synchronizing agent)
    (main : network.main = .syncTime info (here :: rest)) (distinct : (here :: rest).Nodup)
    (whole : network.links here = .whole) :
    Synchronizing { network.pushAgent here (.core (.startupSync info)) with
      main := .syncTime info rest } agent := by
  have queue : (network.pushAgent here (.core (.startupSync info))).toAgent = _ :=
    pushAgent_toAgent whole
  by_cases same : agent = here
  · subst same
    have unsynced : network.main.Unsynced agent := by
      rw [main]
      exact List.mem_cons_self
    constructor
    · intro relays
      exact ((synchronizing.relaying relays).1 unsynced).elim
    · intro waits
      rcases synchronizing.waiting waits with ⟨_, empty⟩ | ⟨synced, _⟩
      · refine .inr ⟨(List.nodup_cons.mp distinct).1, info, [], ?_, fun _ => nofun⟩
        change (network.pushAgent agent _).toAgent agent = _
        rw [queue, Function.update_self, empty, List.nil_append]
      · exact (synced unsynced).elim
  · refine synchronizing.congr rfl ?_
      ((congrFun queue agent).trans (Function.update_of_ne same _ _))
    rw [main]
    change agent ∈ rest ↔ agent ∈ here :: rest
    rw [List.mem_cons, or_iff_right same]

/-- A thread that connects or forwards keeps doing so. -/
theorem relaying_update {network : Network setup} {here : AgentId}
    {before after : SecondaryReceiveThread} (thread : network.secondaryReceive here = before)
    (same : after.relaying = before.relaying) (agent : AgentId) :
    (Function.update network.secondaryReceive here after agent).relaying =
      (network.secondaryReceive agent).relaying := by
  by_cases equal : agent = here
  · subst equal
    rw [Function.update_self, thread, same]
  · rw [Function.update_of_ne equal]

/-- A relay that waits for the synchronization never drops a signal. -/
theorem Synchronizing.first {network : Network setup} {agent : AgentId} {signal : ProtocolSignal}
    {rest : List ProtocolSignal} (synchronizing : network.Synchronizing agent)
    (thread : network.secondaryReceive agent = .sync)
    (head : network.toAgent agent = signal :: rest) :
    ¬ network.main.Unsynced agent ∧ (∃ info, signal = .core (.startupSync info)) ∧
      ∀ info, .core (.startupSync info) ∉ rest := by
  rcases synchronizing.waiting (by rw [thread]; rfl) with ⟨_, empty⟩ | ⟨synced, first⟩
  · rw [empty] at head
    cases head
  · obtain ⟨info, queue, same, none⟩ := first
    rw [head] at same
    cases same
    exact ⟨synced, ⟨info, rfl⟩, none⟩

/-- A relaying thread finds no synchronization behind the one that it waited for. -/
theorem Synchronizing.relays {network : Network setup} {agent here : AgentId}
    {rest : List ProtocolSignal} {startupTime : AgentId → Bool}
    {held : List (WorkerId × Signal)} (synchronizing : network.Synchronizing agent)
    (calm : agent = here →
      ¬ network.main.Unsynced agent ∧ ∀ info, .core (.startupSync info) ∉ rest) :
    Synchronizing { network with
      toAgent := Function.update network.toAgent here rest
      startupTime := startupTime
      secondaryReceive := Function.update network.secondaryReceive here (.relay held) } agent := by
  by_cases same : agent = here
  · subst same
    obtain ⟨synced, none⟩ := calm rfl
    constructor
    · intro _
      refine ⟨synced, ?_⟩
      change ∀ info, _ ∉ Function.update network.toAgent agent rest agent
      rw [Function.update_self]
      exact none
    · intro waits
      change (Function.update network.secondaryReceive agent _ agent).relaying = false at waits
      rw [Function.update_self] at waits
      cases waits
  · exact synchronizing.congr (congrArg _ (Function.update_of_ne same _ _)) Iff.rfl
      (Function.update_of_ne same _ _)

theorem Synchronizing.synced {network : Network setup} {agent here : AgentId}
    {signal : ProtocolSignal} {rest : List ProtocolSignal} {startupTime : AgentId → Bool}
    (synchronizing : network.Synchronizing agent)
    (thread : network.secondaryReceive here = .sync)
    (head : network.toAgent here = signal :: rest) :
    Synchronizing { network with
      toAgent := Function.update network.toAgent here rest
      startupTime := startupTime
      secondaryReceive := Function.update network.secondaryReceive here (.relay []) } agent := by
  apply synchronizing.relays
  intro same
  subst same
  obtain ⟨synced, _, none⟩ := synchronizing.first thread head
  exact ⟨synced, none⟩

theorem Synchronizing.took {network : Network setup} {agent here : AgentId}
    {signal : ProtocolSignal} {rest : List ProtocolSignal} {held : List (WorkerId × Signal)}
    (synchronizing : network.Synchronizing agent)
    (thread : network.secondaryReceive here = .relay [])
    (head : network.toAgent here = signal :: rest) :
    Synchronizing { network with
      toAgent := Function.update network.toAgent here rest
      secondaryReceive := Function.update network.secondaryReceive here (.relay held) } agent := by
  apply synchronizing.relays
  intro same
  subst same
  obtain ⟨synced, none⟩ := synchronizing.relaying (by rw [thread]; rfl)
  refine ⟨synced, ?_⟩
  intro info member
  exact none info (by rw [head]; exact List.mem_cons_of_mem _ member)

theorem Synced.move_synchronizing {network next : Network setup} {event : Event}
    (synced : Synced network) (downward : Downward network) (unbroken : network.Unbroken event)
    (move : Move network event next) : ∀ agent ∈ setup.remoteAgents, next.Synchronizing agent := by
  intro agent remote
  have before := synced.synchronizing agent remote
  cases move with
  | acceptedReceiver main | acceptedSender main | connectedSendRelay main
  | connectedSenders main | connectedReceiver main | broadcasted main | broadcast main =>
      refine before.congr rfl ?_ rfl
      rw [main]
      exact Iff.rfl
  | started main =>
      refine before.congr rfl ?_ rfl
      rw [main]
      exact iff_of_true remote trivial
  | synchronized main =>
      exact before.synchronized main (downward.syncing _ _ main) (unbroken.synchronized main)
  | unsynchronized main =>
      refine before.congr rfl ?_ rfl
      rw [main]
      exact Iff.rfl
  | abandoned main =>
      refine before.congr rfl ?_ rfl
      rw [main]
      exact Iff.rfl
  | ran main =>
      refine before.congr rfl ?_ rfl
      rw [main]
      exact iff_of_false id List.not_mem_nil
  | terminated main =>
      refine before.append _ rfl ?_ id (push_toAgent _ _ _ (unbroken.terminated main) _) ?_
      · rw [main]
        exact id
      · intro info member
        split at member
        · cases List.mem_singleton.mp member
        · cases member
  | @sent _ signal _ _ main target route =>
      have running : ¬ network.main.Unsynced agent := by
        rw [main]
        exact id
      refine before.append _ rfl running running (push_toAgent _ _ _ (unbroken.sent route) _) ?_
      intro info member
      split at member
      · cases List.mem_singleton.mp member
        cases target
      · cases member
  | secondaryConnected _ thread =>
      exact before.congr (relaying_update thread (by rfl) agent) Iff.rfl rfl
  | secondaryGreeted _ thread =>
      exact before.congr (relaying_update thread (by rfl) agent) Iff.rfl rfl
  | secondarySent _ thread =>
      exact before.congr (relaying_update thread (by rfl) agent) Iff.rfl rfl
  | secondarySynced _ thread head => exact before.synced thread head
  | secondaryDropped known thread head other =>
      obtain ⟨_, ⟨info, first⟩, _⟩ := (synced.synchronizing _ known).first thread head
      exact (other info first).elim
  | secondaryTook _ thread head => exact before.took thread head
  | misread _ link => exact (synced.clear _ link).elim
  | _ => exact before.congr rfl Iff.rfl rfl

/-- A whole frame keeps a whole connection whole. -/
theorem clear_push {network : Network setup} (signal : Signal) {target : Destination}
    (whole : ∀ agent, target = .agent agent → network.links agent = .whole)
    (clear : ∀ agent, network.links agent ≠ .garbled) (agent : AgentId) :
    (network.push signal target).links agent ≠ .garbled := by
  cases target with
  | worker id => exact clear agent
  | agent here =>
      intro garbled
      rcases update_eq_cases garbled with ⟨_, same⟩ | ⟨_, same⟩
      · rw [whole here rfl] at same
        cases same
      · exact clear agent same

theorem Synced.move_clear {network next : Network setup} {event : Event}
    (synced : Synced network) (unbroken : network.Unbroken event)
    (move : Move network event next) : ∀ agent, next.links agent ≠ .garbled := by
  intro agent
  have clear := synced.clear
  cases move with
  | synchronized main =>
      intro garbled
      rcases update_eq_cases garbled with ⟨_, same⟩ | ⟨_, same⟩
      · rw [unbroken.synchronized main] at same
        cases same
      · exact clear agent same
  | terminated main => exact clear_push _ (unbroken.terminated main) clear agent
  | @sent _ signal _ _ _ _ route =>
      exact clear_push signal (unbroken.sent route) clear agent
  | @unsynchronized _ _ _ _ part main =>
      refine unbroken.clear_fail ?_ clear
      rintro rfl
      rw [writes, main]
      rfl
  | @abandoned _ _ _ _ part _ main =>
      refine unbroken.clear_fail ?_ clear
      rintro rfl
      rw [writes, main]
      rfl
  | @failed _ _ _ _ part _ _ _ route =>
      refine unbroken.clear_fail ?_ clear
      rintro rfl
      rw [writes, route]
      rfl
  | _ => exact clear agent

theorem Synced.move {network next : Network setup} {event : Event} (synced : Synced network)
    (downward : Downward network) (unbroken : network.Unbroken event)
    (move : Move network event next) : Synced next where
  clear := synced.move_clear unbroken move
  synchronizing := synced.move_synchronizing downward unbroken move

end Network

end Feo.Relayed
