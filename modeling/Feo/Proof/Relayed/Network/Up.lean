import Feo.Proof.Relayed.Network.Calls

namespace Feo.Relayed

open Foundation

/-- A core signal belongs to the worker from which it comes. -/
def attributed (worker : WorkerId) (origin : Origin) (core : Option Signal) : Option Signal :=
  if origin = some worker then core else none

theorem attributed_self (worker : WorkerId) (core : Option Signal) :
    attributed worker (some worker) core = core := if_pos rfl

theorem attributed_of_ne {worker : WorkerId} {origin : Origin} (core : Option Signal)
    (differs : origin ≠ some worker) : attributed worker origin core = none := if_neg differs

theorem attributed_none (worker : WorkerId) (origin : Origin) :
    attributed worker origin none = none := by
  rw [attributed, ite_self]

/-- A signal that joins the list of one worker is attributed to it. -/
theorem update_attributed (lists : WorkerId → List Signal) (here worker : WorkerId)
    (core : Signal) :
    Function.update lists here (lists here ++ [core]) worker =
      lists worker ++ (attributed worker (some here) (some core)).toList := by
  by_cases same : worker = here
  · subst same
    rw [Function.update_self, attributed_self]
    rfl
  · rw [Function.update_of_ne same, attributed_of_ne _ fun equal =>
      same (Option.some.inj equal).symm]
    exact (List.append_nil _).symm

/-- The core signals of the worker in a channel within a process. -/
def intraView (worker : WorkerId) (entries : List (Origin × Mpsc.ProtocolSignal)) : List Signal :=
  entries.filterMap fun entry => attributed worker entry.1 entry.2.core?

/-- The core signals of the worker in a channel between two processes. -/
def interView (worker : WorkerId) (entries : List (Origin × ProtocolSignal)) : List Signal :=
  entries.filterMap fun entry => attributed worker entry.1 entry.2.core?

/-- The core signals of the worker that a relay holds. -/
def heldView (worker : WorkerId) (held : Option (Origin × Signal)) : List Signal :=
  held.toList.filterMap fun entry => attributed worker entry.1 (some entry.2)

def PrimaryReceiveThread.pending (worker : WorkerId) : PrimaryReceiveThread → List Signal
  | .relay held => heldView worker held
  | _ => []

def SecondarySendThread.pending (worker : WorkerId) : SecondarySendThread → List Signal
  | .relay held => heldView worker held
  | .ended unsent => heldView worker (some unsent)
  | _ => []

/-- The relay of the primary has not announced itself yet. -/
def PrimaryReceiveThread.connecting : PrimaryReceiveThread → Bool
  | .connect _ => true
  | .panicked => true
  | _ => false

/-- The connecting relay misses the agent, and a relay that panicked misses all of them. -/
def PrimaryReceiveThread.Misses (agent : AgentId) : PrimaryReceiveThread → Prop
  | .connect missingPeers => .agent agent ∈ missingPeers
  | .panicked => True
  | _ => False

theorem PrimaryReceiveThread.Misses.connecting {thread : PrimaryReceiveThread} {agent : AgentId}
    (misses : thread.Misses agent) : thread.connecting = true := by
  cases thread with
  | connect => rfl
  | panicked => rfl
  | absent => cases misses
  | relay => cases misses

/-- A signal between an agent and the primary comes from one of the workers of the agent. -/
def Setup.Homed (setup : Setup) (agent : AgentId) (origin : Origin) : Prop :=
  ∀ worker, origin = some worker → setup.isLocal worker = false ∧ setup.home worker = agent

/-- The connector of the scheduler awaits the relay of the primary. -/
def Main.AwaitsRelay : Main → Prop
  | .connectSendRelay _ => True
  | .connectSenders missing => relayChannel ∈ missing
  | _ => False

theorem Main.AwaitsRelay.early {main : Main} (awaits : main.AwaitsRelay) : main.early = true := by
  cases main with
  | connectSendRelay => rfl
  | connectSenders => rfl
  | _ => cases awaits

theorem primaryReceive_held (origin : Origin) (signal : ProtocolSignal) :
    (primaryReceive (.ok (some signal))).held origin =
      signal.core?.map fun core => (origin, core) := by
  cases signal <;> rfl

theorem secondarySend_held (origin : Origin) (signal : Mpsc.ProtocolSignal) :
    (secondarySend (.ok (some signal))).held origin =
      signal.core?.map fun core => (origin, core) := by
  cases signal <;> rfl

theorem heldView_map (worker : WorkerId) (origin : Origin) (core : Option Signal) :
    heldView worker (core.map fun core => (origin, core)) =
      (attributed worker origin core).toList := by
  cases core with
  | none => simp [heldView, attributed]
  | some core =>
      by_cases same : origin = some worker <;> simp [heldView, attributed, same]

theorem heldView_some (worker : WorkerId) (origin : Origin) (core : Signal) :
    heldView worker (some (origin, core)) = (attributed worker origin (some core)).toList :=
  heldView_map worker origin (some core)

theorem intraView_append (worker : WorkerId) (first second : List (Origin × Mpsc.ProtocolSignal)) :
    intraView worker (first ++ second) = intraView worker first ++ intraView worker second :=
  List.filterMap_append

theorem intraView_cons (worker : WorkerId) (entry : Origin × Mpsc.ProtocolSignal)
    (rest : List (Origin × Mpsc.ProtocolSignal)) :
    intraView worker (entry :: rest) =
      (attributed worker entry.1 entry.2.core?).toList ++ intraView worker rest := by
  cases shown : attributed worker entry.1 entry.2.core? <;> simp [intraView, shown]

theorem interView_cons (worker : WorkerId) (entry : Origin × ProtocolSignal)
    (rest : List (Origin × ProtocolSignal)) :
    interView worker (entry :: rest) =
      (attributed worker entry.1 entry.2.core?).toList ++ interView worker rest := by
  cases shown : attributed worker entry.1 entry.2.core? <;> simp [interView, shown]

theorem interView_append (worker : WorkerId) (first second : List (Origin × ProtocolSignal)) :
    interView worker (first ++ second) = interView worker first ++ interView worker second :=
  List.filterMap_append

/-- The receiver awaits the relay until it receives the connect signal of the relay. -/
theorem relayChannel_mem_remaining {receiver : Mpsc.ProtocolMultiReceiver}
    {missing : List ChannelId} {signal : Mpsc.ProtocolSignal} (member : relayChannel ∈ missing)
    (other : signal ≠ .connect relayChannel) :
    relayChannel ∈ receiver.remaining missing signal := by
  cases signal with
  | core => exact member
  | connect channel =>
      rw [Mpsc.ProtocolMultiReceiver.remaining]
      split
      · refine (List.mem_erase_of_ne ?_).mpr member
        rintro rfl
        exact other rfl
      · exact member

namespace Network

variable {setup : Setup}

/-- These signals of a remote worker have not reached the scheduler's queue yet. -/
def upstream (network : Network setup) (worker : WorkerId) : List Signal :=
  if setup.isLocal worker then []
  else
    network.primaryReceive.pending worker ++
      (interView worker (network.fromAgent (setup.home worker)) ++
        ((network.secondarySend (setup.home worker)).pending worker ++
          intraView worker (network.outbox (setup.home worker))))

/-- These signals of the worker are on their way to the scheduler, the oldest first. -/
def up (network : Network setup) (worker : WorkerId) : List Signal :=
  intraView worker network.inbox ++ network.upstream worker

/-- A worker sends only after it received, and each channel carries the signals of its agent. -/
structure Upward (network : Network setup) : Prop where
  silent : ∀ worker, network.received worker = [] → network.sent worker = [] ∧
    ∀ point, network.threads worker = .running point → point.busy = false
  collected : ∀ agent, ∀ entry ∈ network.outbox agent, setup.Homed agent entry.1
  holding : ∀ agent held, network.secondarySend agent = .relay (some held) →
    setup.Homed agent held.1
  forwarded : ∀ agent, ∀ entry ∈ network.fromAgent agent, setup.Homed agent entry.1
  relayed : ∀ held, network.primaryReceive = .relay (some held) →
    ∃ agent, setup.Homed agent held.1

/-- A secondary says hello to the relay of the primary before the relay announces itself. -/
structure Connected (network : Network setup) : Prop where
  present : network.primaryReceive.connecting = true → setup.remoteAgents ≠ []
  awaited : network.primaryReceive.connecting = true → network.main.AwaitsRelay
  unannounced : network.primaryReceive.connecting = true →
    ∀ entry ∈ network.inbox, entry.2 ≠ .connect relayChannel
  greeting : ∀ agent, ∀ entry ∈ network.fromAgent agent, ∀ channel,
    entry.2 = .channelHello channel → channel = .agent agent
  linked : ∀ agent ∈ setup.remoteAgents, ∀ missing,
    network.secondarySend agent = .connectSenders missing →
      network.fromAgent agent = [] ∧ network.primaryReceive.Misses agent

/-- The connector does not give up on the relay while the relay still connects. -/
def Patient (network : Network setup) : Event → Prop
  | .next =>
      match network.main with
      | .connectSenders missing => relayChannel ∈ missing → setup.remoteAgents = []
      | _ => True
  | _ => True

instance (network : Network setup) (event : Event) : Decidable (network.Patient event) := by
  unfold Patient
  split
  · split <;> infer_instance
  · infer_instance

theorem upward_initial : Upward (initial setup) where
  silent worker _ := by
    refine ⟨rfl, ?_⟩
    intro point running
    cases running
  collected agent entry collected := by cases collected
  holding agent held thread := by cases thread
  forwarded agent entry forwarded := by cases forwarded
  relayed held same := by
    change (if setup.remoteAgents = [] then PrimaryReceiveThread.absent else _) = _ at same
    split at same <;> cases same

variable (setup) in
theorem primaryReceive_initial :
    (initial setup).primaryReceive = .absent ∧ setup.remoteAgents = [] ∨
      (initial setup).primaryReceive = .connect (setup.remoteAgents.map ChannelId.agent) ∧
        setup.remoteAgents ≠ [] := by
  by_cases remote : setup.remoteAgents = []
  · exact .inl ⟨if_pos remote, remote⟩
  · exact .inr ⟨if_neg remote, remote⟩

theorem connected_initial : Connected (initial setup) where
  present connecting := by
    rcases primaryReceive_initial setup with ⟨same, _⟩ | ⟨_, remote⟩
    · rw [same] at connecting
      cases connecting
    · exact remote
  awaited _ := trivial
  unannounced _ entry announced := by cases announced
  greeting agent entry greeted := by cases greeted
  linked agent member _ _ := by
    refine ⟨rfl, ?_⟩
    rcases primaryReceive_initial setup with ⟨_, none⟩ | ⟨same, _⟩
    · rw [none] at member
      cases member
    · rw [same]
      exact List.mem_map_of_mem member

theorem Upward.move_silent {network next : Network setup} {event : Event}
    (upward : Upward network) (move : Move network event next) :
    ∀ worker, next.received worker = [] → next.sent worker = [] ∧
      ∀ point, next.threads worker = .running point → point.busy = false := by
  intro worker quiet
  have changed (here : WorkerId) (thread : Mpsc.Thread) (before : network.received worker = [])
      (settled : worker = here → ∀ point, thread = .running point → point.busy = false) :
      ∀ point, Function.update network.threads here thread worker = .running point →
        point.busy = false := by
    intro point running
    by_cases same : worker = here
    · subst same
      rw [Function.update_self] at running
      exact settled rfl point running
    · rw [Function.update_of_ne same] at running
      exact (upward.silent worker before).2 point running
  cases move with
  | workerGreeted => exact ⟨(upward.silent worker quiet).1, changed _ _ quiet fun _ _ => nofun⟩
  | workerConnected =>
      refine ⟨(upward.silent worker quiet).1, changed _ _ quiet fun _ point running => ?_⟩
      cases running
      rfl
  | @workerReceived here =>
      change Function.update network.received here _ worker = [] at quiet
      by_cases same : worker = here
      · subst same
        rw [Function.update_self] at quiet
        exact (List.append_ne_nil_of_right_ne_nil _ (List.cons_ne_nil _ _) quiet).elim
      · rw [Function.update_of_ne same] at quiet
        exact ⟨(upward.silent worker quiet).1,
          changed _ _ quiet fun equal => (same equal).elim⟩
  | @workerSent here _ _ point _ _ thread busy =>
      have before : network.received worker = [] := quiet
      have differs : worker ≠ here := by
        rintro rfl
        have idle := (upward.silent worker before).2 point thread
        rw [busy] at idle
        cases idle
      refine ⟨?_, changed _ _ before fun equal => (differs equal).elim⟩
      exact (Function.update_of_ne differs _ _).trans (upward.silent worker before).1
  | @workerMoved here _ point moved _ thread _ busier =>
      refine ⟨(upward.silent worker quiet).1, changed _ _ quiet fun equal other running => ?_⟩
      cases running
      subst equal
      have idle := (upward.silent worker quiet).2 point thread
      rw [Bool.eq_false_iff] at idle ⊢
      exact fun busy => idle (busier busy)
  | _ => exact upward.silent worker quiet

/-- A worker that does not run as a local one sends to the channel of its own agent. -/
theorem homed_home (worker : WorkerId) (there : ¬ setup.isLocal worker = true) :
    setup.Homed (setup.home worker) (some worker) := by
  rintro other same
  cases same
  exact ⟨Bool.eq_false_iff.mpr there, rfl⟩

theorem homed_none (agent : AgentId) : setup.Homed agent none := nofun

theorem emit_outbox {network : Network setup} {here : WorkerId} {signal : Mpsc.ProtocolSignal}
    (collected : ∀ agent, ∀ entry ∈ network.outbox agent, setup.Homed agent entry.1) :
    ∀ agent, ∀ entry ∈ (network.emit here signal).outbox agent, setup.Homed agent entry.1 := by
  intro agent entry member
  change entry ∈ (if setup.isLocal here then network.outbox else _) agent at member
  split at member
  · exact collected agent entry member
  · next there =>
      rcases mem_update_concat.mp member with earlier | ⟨rfl, rfl⟩
      · exact collected agent entry earlier
      · exact homed_home here there

theorem Upward.move_collected {network next : Network setup} {event : Event}
    (upward : Upward network) (move : Move network event next) :
    ∀ agent, ∀ entry ∈ next.outbox agent, setup.Homed agent entry.1 := by
  cases move with
  | secondaryCollected _ _ head | secondaryHeld _ _ head =>
      intro agent entry member
      exact upward.collected agent entry (mem_of_mem_update head member)
  | workerGreeted => exact emit_outbox upward.collected
  | workerSent => exact emit_outbox upward.collected
  | _ => exact upward.collected

theorem Upward.move_holding {network next : Network setup} {event : Event}
    (upward : Upward network) (move : Move network event next) :
    ∀ agent held, next.secondarySend agent = .relay (some held) → setup.Homed agent held.1 := by
  have changed (here : AgentId) (thread : SecondarySendThread)
      (settled : ∀ held, thread = .relay (some held) → setup.Homed here held.1) :
      ∀ agent held, Function.update network.secondarySend here thread agent = .relay (some held) →
        setup.Homed agent held.1 := by
    intro agent held
    by_cases same : agent = here
    · subst same
      rw [Function.update_self]
      exact settled held
    · rw [Function.update_of_ne same]
      exact upward.holding agent held
  cases move with
  | secondaryCollected => exact changed _ _ fun _ => nofun
  | secondaryHello => exact changed _ _ fun _ => nofun
  | secondaryForwarded => exact changed _ _ fun _ => nofun
  | secondaryEnded => exact changed _ _ fun _ => nofun
  | @secondaryHeld agent entry _ _ _ head =>
      apply changed
      intro held same
      rw [secondarySend_held, SecondarySendThread.relay.injEq, Option.map_eq_some_iff] at same
      obtain ⟨core, _, rfl⟩ := same
      exact upward.collected agent entry (by rw [head]; exact List.mem_cons_self)
  | _ => exact upward.holding

theorem Upward.move_forwarded {network next : Network setup} {event : Event}
    (upward : Upward network) (move : Move network event next) :
    ∀ agent, ∀ entry ∈ next.fromAgent agent, setup.Homed agent entry.1 := by
  cases move with
  | primaryGreeted _ _ head | primaryTook _ _ head =>
      intro agent entry member
      exact upward.forwarded agent entry (mem_of_mem_update head member)
  | secondaryHello =>
      intro agent entry member
      rcases mem_update_concat.mp member with earlier | ⟨rfl, rfl⟩
      · exact upward.forwarded agent entry earlier
      · exact homed_none agent
  | secondaryForwarded _ thread =>
      intro agent entry member
      rcases mem_update_concat.mp member with earlier | ⟨rfl, rfl⟩
      · exact upward.forwarded agent entry earlier
      · exact upward.holding agent _ thread
  | _ => exact upward.forwarded

theorem Upward.move_relayed {network next : Network setup} {event : Event}
    (upward : Upward network) (move : Move network event next) :
    ∀ held, next.primaryReceive = .relay (some held) → ∃ agent, setup.Homed agent held.1 := by
  cases move with
  | primaryGreeted | primaryPanicked | primaryAnnounced | primaryForwarded =>
      exact fun _ => nofun
  | @primaryTook agent entry _ _ _ head =>
      intro held same
      rw [primaryReceive_held, PrimaryReceiveThread.relay.injEq, Option.map_eq_some_iff] at same
      obtain ⟨core, _, rfl⟩ := same
      exact ⟨agent, upward.forwarded agent entry (by rw [head]; exact List.mem_cons_self)⟩
  | _ => exact upward.relayed

theorem Upward.move {network next : Network setup} {event : Event}
    (upward : Upward network) (move : Move network event next) : Upward next where
  silent := upward.move_silent move
  collected := upward.move_collected move
  holding := upward.move_holding move
  forwarded := upward.move_forwarded move
  relayed := upward.move_relayed move

/-- No worker announces the relay. -/
theorem emit_inbox {network : Network setup} {here : WorkerId} {signal : Mpsc.ProtocolSignal}
    (unannounced : ∀ entry ∈ network.inbox, entry.2 ≠ .connect relayChannel)
    (other : signal ≠ .connect relayChannel) :
    ∀ entry ∈ (network.emit here signal).inbox, entry.2 ≠ .connect relayChannel := by
  intro entry member
  change entry ∈ (if setup.isLocal here then _ else network.inbox) at member
  split at member
  · rcases List.mem_append.mp member with earlier | last
    · exact unannounced entry earlier
    · rw [List.mem_singleton.mp last]
      exact other
  · exact unannounced entry member

theorem Connected.move_present {network next : Network setup} {event : Event}
    (connected : Connected network) (move : Move network event next) :
    next.primaryReceive.connecting = true → setup.remoteAgents ≠ [] := by
  cases move with
  | primaryGreeted _ thread | primaryPanicked thread =>
      intro _
      exact connected.present (by rw [thread]; rfl)
  | primaryTook | primaryAnnounced | primaryForwarded =>
      intro connecting
      cases connecting
  | _ => exact connected.present

theorem Connected.move_awaited {network next : Network setup} {event : Event}
    (connected : Connected network) (patient : network.Patient event)
    (move : Move network event next) :
    next.primaryReceive.connecting = true → next.main.AwaitsRelay := by
  have before := connected.awaited
  cases move with
  | acceptedReceiver => exact fun _ => trivial
  | acceptedSender main head =>
      intro connecting
      have member := before connecting
      rw [main] at member
      exact relayChannel_mem_remaining member
        (connected.unannounced connecting _ (by rw [head]; exact List.mem_cons_self))
  | connectedSendRelay main => exact fun _ => List.mem_append_right _ (List.mem_singleton_self _)
  | connectedSenders main =>
      intro connecting
      have member := before connecting
      rw [main] at member
      rw [Patient, main] at patient
      exact (connected.present connecting (patient member)).elim
  | started main | connectedReceiver main | synchronized main | unsynchronized main | ran main
  | terminated main | broadcasted main | abandoned main | broadcast main =>
      intro connecting
      have member := before connecting
      rw [main] at member
      cases member
  | primaryGreeted _ thread | primaryPanicked thread =>
      intro _
      exact before (by rw [thread]; rfl)
  | primaryTook | primaryAnnounced | primaryForwarded =>
      intro connecting
      cases connecting
  | _ => exact before

theorem Connected.move_unannounced {network next : Network setup} {event : Event}
    (connected : Connected network) (move : Move network event next) :
    next.primaryReceive.connecting = true →
      ∀ entry ∈ next.inbox, entry.2 ≠ .connect relayChannel := by
  have before := connected.unannounced
  cases move with
  | acceptedSender _ head | received _ head =>
      intro connecting entry member
      exact before connecting entry (by rw [head]; exact List.mem_cons_of_mem _ member)
  | primaryGreeted _ thread | primaryPanicked thread =>
      intro _
      exact before (by rw [thread]; rfl)
  | primaryTook | primaryAnnounced | primaryForwarded =>
      intro connecting
      cases connecting
  | workerGreeted => exact fun connecting => emit_inbox (before connecting) nofun
  | workerSent => exact fun connecting => emit_inbox (before connecting) nofun
  | _ => exact before

theorem Connected.move_greeting {network next : Network setup} {event : Event}
    (connected : Connected network) (move : Move network event next) :
    ∀ agent, ∀ entry ∈ next.fromAgent agent, ∀ channel,
      entry.2 = .channelHello channel → channel = .agent agent := by
  have before := connected.greeting
  cases move with
  | primaryGreeted _ _ head | primaryTook _ _ head =>
      intro agent entry member
      exact before agent entry (mem_of_mem_update head member)
  | secondaryHello =>
      intro agent entry member
      rcases mem_update_concat.mp member with earlier | ⟨rfl, rfl⟩
      · exact before agent entry earlier
      · intro channel same
        cases same
        rfl
  | secondaryForwarded =>
      intro agent entry member
      rcases mem_update_concat.mp member with earlier | ⟨rfl, rfl⟩
      · exact before agent entry earlier
      · exact fun _ => nofun
  | _ => exact before

theorem Connected.move_linked {network next : Network setup} {event : Event}
    (connected : Connected network) (move : Move network event next) :
    ∀ agent ∈ setup.remoteAgents, ∀ missing,
      next.secondarySend agent = .connectSenders missing →
        next.fromAgent agent = [] ∧ next.primaryReceive.Misses agent := by
  have before := connected.linked
  have relaying (here : AgentId) (held : Option (Origin × Signal))
      (last : Origin × ProtocolSignal) :
      ∀ agent ∈ setup.remoteAgents, ∀ missing,
        Function.update network.secondarySend here (.relay held) agent =
          .connectSenders missing →
        Function.update network.fromAgent here (network.fromAgent here ++ [last]) agent = [] ∧
          network.primaryReceive.Misses agent := by
    intro agent remote missing thread
    rcases update_eq_cases thread with ⟨_, same⟩ | ⟨differs, same⟩
    · cases same
    · rw [Function.update_of_ne differs]
      exact before agent remote missing same
  cases move with
  | @primaryGreeted here entry missingPeers rest _ thread head =>
      intro agent remote missing connecting
      obtain ⟨empty, misses⟩ := before agent remote missing connecting
      have differs : agent ≠ here := by
        rintro rfl
        rw [head] at empty
        cases empty
      rw [thread] at misses
      refine ⟨(Function.update_of_ne differs _ _).trans empty, ?_⟩
      change .agent agent ∈ greet missingPeers entry.2
      cases shown : entry.2 with
      | channelHello channel =>
          have named := connected.greeting here entry
            (by rw [head]; exact List.mem_cons_self) channel shown
          refine (List.mem_erase_of_ne ?_).mpr misses
          rw [named]
          exact fun equal => differs (ChannelId.agent.inj equal)
      | _ => exact misses
  | primaryPanicked =>
      intro agent remote missing connecting
      exact ⟨(before agent remote missing connecting).1, trivial⟩
  | primaryAnnounced thread =>
      intro agent remote missing connecting
      have misses := (before agent remote missing connecting).2
      rw [thread] at misses
      cases misses
  | primaryTook _ thread | primaryForwarded thread =>
      intro agent remote missing connecting
      have misses := (before agent remote missing connecting).2
      rw [thread] at misses
      cases misses
  | @secondaryCollected here _ _ _ _ _ thread =>
      intro agent remote missing connecting
      rcases update_eq_cases connecting with ⟨rfl, _⟩ | ⟨_, same⟩
      · exact before agent remote _ thread
      · exact before agent remote missing same
  | secondaryHeld | secondaryEnded =>
      intro agent remote missing connecting
      rcases update_eq_cases connecting with ⟨_, same⟩ | ⟨_, same⟩
      · cases same
      · exact before agent remote missing same
  | secondaryHello => exact relaying _ _ _
  | secondaryForwarded => exact relaying _ _ _
  | _ => exact before

theorem Connected.move {network next : Network setup} {event : Event}
    (connected : Connected network) (patient : network.Patient event)
    (move : Move network event next) : Connected next where
  present := connected.move_present move
  awaited := connected.move_awaited patient move
  unannounced := connected.move_unannounced move
  greeting := connected.move_greeting move
  linked := connected.move_linked move

theorem upstream_of_local {network : Network setup} {worker : WorkerId}
    (here : setup.isLocal worker = true) : network.upstream worker = [] := if_pos here

theorem upstream_of_remote {network : Network setup} {worker : WorkerId}
    (there : setup.isLocal worker = false) :
    network.upstream worker =
      network.primaryReceive.pending worker ++
        (interView worker (network.fromAgent (setup.home worker)) ++
          ((network.secondarySend (setup.home worker)).pending worker ++
            intraView worker (network.outbox (setup.home worker)))) :=
  if_neg (by rw [there]; decide)

/-- Only the queues behind the remote workers depend on the relays. -/
theorem upstream_congr {network next : Network setup} {worker : WorkerId}
    (same : setup.isLocal worker = false →
      next.primaryReceive.pending worker ++
          (interView worker (next.fromAgent (setup.home worker)) ++
            ((next.secondarySend (setup.home worker)).pending worker ++
              intraView worker (next.outbox (setup.home worker)))) =
        network.primaryReceive.pending worker ++
          (interView worker (network.fromAgent (setup.home worker)) ++
            ((network.secondarySend (setup.home worker)).pending worker ++
              intraView worker (network.outbox (setup.home worker))))) :
    next.upstream worker = network.upstream worker := by
  cases here : setup.isLocal worker with
  | true => rw [upstream_of_local here, upstream_of_local here]
  | false => rw [upstream_of_remote here, upstream_of_remote here, same here]

/-- The worker sends into the queue of its own process. -/
theorem up_emit (network : Network setup) (here worker : WorkerId)
    (signal : Mpsc.ProtocolSignal) :
    (network.emit here signal).up worker =
      network.up worker ++ (attributed worker (some here) signal.core?).toList := by
  have single : intraView worker [(some here, signal)] =
      (attributed worker (some here) signal.core?).toList := by
    rw [intraView_cons]
    exact List.append_nil _
  cases emits : setup.isLocal here with
  | true =>
      have inbox : (network.emit here signal).inbox = network.inbox ++ [(some here, signal)] :=
        if_pos emits
      have upstream : (network.emit here signal).upstream worker = network.upstream worker := by
        apply upstream_congr
        intro _
        have outbox : (network.emit here signal).outbox = network.outbox := if_pos emits
        rw [outbox]
        rfl
      rw [up, up, inbox, upstream, intraView_append, single]
      by_cases same : here = worker
      · subst same
        rw [upstream_of_local emits, List.append_nil, List.append_nil]
      · rw [attributed_of_ne _ fun equal => same (Option.some.inj equal)]
        simp only [Option.toList_none, List.append_nil]
  | false =>
      have away : ¬ setup.isLocal here = true := by rw [emits]; decide
      have inbox : (network.emit here signal).inbox = network.inbox := if_neg away
      have outbox : (network.emit here signal).outbox =
          Function.update network.outbox (setup.home here)
            (network.outbox (setup.home here) ++ [(some here, signal)]) := if_neg away
      have upstream : (network.emit here signal).upstream worker =
          network.upstream worker ++ (attributed worker (some here) signal.core?).toList := by
        cases local? : setup.isLocal worker with
        | true =>
            have differs : some here ≠ some worker := by
              rintro same
              cases same
              exact away local?
            rw [upstream_of_local local?, upstream_of_local local?, attributed_of_ne _ differs]
            rfl
        | false =>
            rw [upstream_of_remote local?, upstream_of_remote local?, outbox]
            by_cases same : setup.home worker = setup.home here
            · rw [same, Function.update_self, intraView_append, single]
              simp only [List.append_assoc]
              rfl
            · have differs : some here ≠ some worker := by
                rintro equal
                cases equal
                exact same rfl
              rw [Function.update_of_ne same, attributed_of_ne _ differs, Option.toList_none,
                List.append_nil]
              rfl
      rw [up, up, inbox, upstream, List.append_assoc]

/-- The relay of the primary holds the signal that it takes. -/
theorem upstream_took {network : Network setup} {agent : AgentId} {entry : Origin × ProtocolSignal}
    {rest : List (Origin × ProtocolSignal)} (homed : setup.Homed agent entry.1)
    (thread : network.primaryReceive = .relay none)
    (head : network.fromAgent agent = entry :: rest) (worker : WorkerId) :
    upstream { network with
      fromAgent := Function.update network.fromAgent agent rest
      primaryReceive :=
        .relay ((Relayed.primaryReceive (.ok (some entry.2))).held entry.1) } worker =
      network.upstream worker := by
  apply upstream_congr
  intro _
  change heldView worker _ ++
    (interView worker (Function.update network.fromAgent agent rest (setup.home worker)) ++ _) = _
  rw [primaryReceive_held, heldView_map, thread]
  by_cases same : setup.home worker = agent
  · rw [same, Function.update_self, head, interView_cons]
    simp only [List.append_assoc]
    rfl
  · have differs : entry.1 ≠ some worker := fun equal => same (homed worker equal).2
    rw [Function.update_of_ne same, attributed_of_ne _ differs]
    rfl

/-- The relay of the primary sends the signal that it holds to the scheduler. -/
theorem up_forwarded {network : Network setup} {agent : AgentId} {origin : Origin} {core : Signal}
    (homed : setup.Homed agent origin)
    (thread : network.primaryReceive = .relay (some (origin, core))) (worker : WorkerId) :
    up { network with
      primaryReceive := .relay none
      inbox := network.inbox ++ [(origin, .core core)] } worker = network.up worker := by
  have single : intraView worker [(origin, .core core)] =
      (attributed worker origin (some core)).toList := by
    rw [intraView_cons]
    exact List.append_nil _
  rw [up, up]
  change intraView worker (network.inbox ++ [_]) ++ _ = _
  rw [intraView_append, single, List.append_assoc]
  apply congrArg
  cases here : setup.isLocal worker with
  | true =>
      have differs : origin ≠ some worker := by
        intro equal
        have there := (homed worker equal).1
        rw [here] at there
        cases there
      rw [upstream_of_local here, upstream_of_local here, attributed_of_ne _ differs]
      rfl
  | false =>
      rw [upstream_of_remote here, upstream_of_remote here, thread]
      change _ = heldView worker (some (origin, core)) ++ _
      rw [heldView_some]
      rfl

/-- The relay of an agent holds the signal that it takes. -/
theorem upstream_held {network : Network setup} {agent : AgentId}
    {entry : Origin × Mpsc.ProtocolSignal} {rest : List (Origin × Mpsc.ProtocolSignal)}
    (thread : network.secondarySend agent = .relay none)
    (head : network.outbox agent = entry :: rest) (worker : WorkerId) :
    upstream { network with
      outbox := Function.update network.outbox agent rest
      secondarySend := Function.update network.secondarySend agent
        (.relay ((Relayed.secondarySend (.ok (some entry.2))).held entry.1)) } worker =
      network.upstream worker := by
  apply upstream_congr
  intro _
  change network.primaryReceive.pending worker ++
    (interView worker (network.fromAgent (setup.home worker)) ++
      ((Function.update network.secondarySend agent _ (setup.home worker)).pending worker ++
        intraView worker (Function.update network.outbox agent rest (setup.home worker)))) = _
  by_cases same : setup.home worker = agent
  · rw [same, Function.update_self, Function.update_self, secondarySend_held, thread, head,
      intraView_cons]
    change _ ++ (_ ++ (heldView worker _ ++ _)) = _
    rw [heldView_map]
    rfl
  · rw [Function.update_of_ne same, Function.update_of_ne same]

/-- The relay of an agent sends its hello and the signals that it holds to the primary. -/
theorem upstream_proceed {network : Network setup} {agent : AgentId}
    {thread : SecondarySendThread} (last : Origin × ProtocolSignal) (worker : WorkerId)
    (before : network.secondarySend agent = thread)
    (same : thread.pending worker = (attributed worker last.1 last.2.core?).toList) :
    upstream { network with
      secondarySend := Function.update network.secondarySend agent (.relay none)
      fromAgent := Function.update network.fromAgent agent
        (network.fromAgent agent ++ [last]) } worker = network.upstream worker := by
  apply upstream_congr
  intro _
  change _ ++ (interView worker (Function.update network.fromAgent agent _ (setup.home worker)) ++
    ((Function.update network.secondarySend agent _ (setup.home worker)).pending worker ++ _)) = _
  by_cases equal : setup.home worker = agent
  · rw [equal, Function.update_self, Function.update_self, interView_append, before, same,
      interView_cons]
    simp only [List.append_assoc]
    rfl
  · rw [Function.update_of_ne equal, Function.update_of_ne equal]

end Network

end Feo.Relayed
