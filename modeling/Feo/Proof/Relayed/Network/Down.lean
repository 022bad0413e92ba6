import Feo.Foundation.Channel
import Feo.Proof.Relayed.Network.Move
import Feo.Proof.Relayed.Network.Route

namespace Feo

/-- The conversion to a signal fails for every other protocol signal. -/
def Mpsc.ProtocolSignal.core? : Mpsc.ProtocolSignal → Option Signal
  | .core signal => some signal
  | .connect _ => none

def ProtocolSignal.core? : ProtocolSignal → Option Signal
  | .core signal => some signal
  | _ => none

namespace Relayed

open Foundation

theorem Link.write_whole_iff {link : Link} : link.write = .whole ↔ link = .whole := by
  cases link <;> decide

theorem Link.fail_ne_whole (link : Link) (part : Bool) : link.fail part ≠ .whole := by
  cases link <;> cases part <;> decide

/-- The calls of `Scheduler::run` come after the synchronization. -/
def Main.early : Main → Bool
  | .run => false
  | .broadcastTerminate _ _ => false
  | _ => true

/-- The main thread has not sent the connect signal of the local worker yet. -/
def Main.Greets (worker : WorkerId) : Main → Prop
  | .connectSendRelay _ => True
  | .connectSenders _ => True
  | .connectReceivers remaining => worker ∈ remaining
  | _ => False

/-- The relay of a secondary has not sent the connect signal of its worker yet. -/
def SecondaryReceiveThread.Greets (worker : WorkerId) : SecondaryReceiveThread → Prop
  | .connectReceivers remaining => worker ∈ remaining
  | _ => False

namespace Network

variable {setup : Setup}

/-- The connector of the worker has not sent its connect signal yet. -/
def Awaits (network : Network setup) (worker : WorkerId) : Prop :=
  if setup.isLocal worker then network.main.Greets worker
  else (network.secondaryReceive (setup.home worker)).Greets worker

/-- A connecting worker finds a connect signal before all core signals. -/
def Connecting (network : Network setup) (worker : WorkerId) : Prop :=
  (∃ channel rest, network.toWorker worker = .connect channel :: rest) ∨
    network.toWorker worker = [] ∧ network.Awaits worker

/-- Each lost call is behind a failed send, or the scheduler makes no further call. -/
def Stranded (network : Network setup) (destination : Destination) : Prop :=
  (∃ agent, destination = .agent agent ∧ network.links agent ≠ .whole) ∨
    network.main = .run ∧ network.execution.point.stage.Last

/-- Each signal goes to a worker that it concerns, a connecting worker finds its connect signal, and
a call is lost only by a failed send. -/
structure Downward (network : Network setup) : Prop where
  typed : ∀ worker, ∀ signal ∈ network.called worker, setup.concerns worker signal = true
  early : network.main.early = true → ∀ worker, network.called worker = []
  syncing : ∀ info remaining, network.main = .syncTime info remaining → remaining.Nodup
  terminating : ∀ time remaining, network.main = .broadcastTerminate time remaining →
    ∀ id, Destination.worker id ∈ remaining → setup.isLocal id = true
  held : ∀ agent ∈ setup.remoteAgents, ∀ held, network.secondaryReceive agent = .relay held →
    ∀ entry ∈ held, setup.isLocal entry.1 = false ∧ setup.home entry.1 = agent
  connecting : ∀ worker, setup.hosts worker = true →
    (∀ point, network.threads worker ≠ .running point) → network.Connecting worker
  idle : ∀ worker, setup.hosts worker = false → network.received worker = []
  stranded : ∀ destination, network.lost destination ≠ [] → network.Stranded destination

theorem downward_initial : Downward (initial setup) where
  typed worker signal called := by cases called
  early _ _ := rfl
  syncing info remaining main := by cases main
  terminating time remaining main := by cases main
  held agent _ held thread := by cases thread
  connecting worker hosted _ := by
    refine .inr ⟨rfl, ?_⟩
    rcases Setup.hosts_iff.mp hosted with here | ⟨_, member⟩
    · rw [Awaits, if_pos here]
      trivial
    · by_cases here : setup.isLocal worker = true
      · rw [Awaits, if_pos here]
        trivial
      · rw [Awaits, if_neg here]
        exact member
  idle _ _ := rfl
  stranded destination lost := (lost rfl).elim

theorem Downward.move_typed {network next : Network setup} {event : Event}
    (downward : Downward network) (move : Move network event next) :
    ∀ worker, ∀ signal ∈ next.called worker, setup.concerns worker signal = true := by
  have called (sent : Signal) (worker : WorkerId) (signal : Signal)
      (member : signal ∈ (network.call sent).called worker) :
      setup.concerns worker signal = true := by
    rcases List.mem_append.mp member with earlier | last
    · exact downward.typed worker signal earlier
    · split at last
      · next concerned =>
          rw [List.mem_singleton.mp last]
          exact concerned
      · cases last
  cases move with
  | sent => exact called _
  | refused => exact called _
  | failed => exact called _
  | broadcast => exact called _
  | _ => exact downward.typed

theorem Downward.move_early {network next : Network setup} {event : Event}
    (downward : Downward network) (move : Move network event next) :
    next.main.early = true → ∀ worker, next.called worker = [] := by
  intro early
  have before (isEarly : network.main.early = true) := downward.early isEarly
  cases move with
  | acceptedReceiver main | acceptedSender main | started main | connectedSendRelay main
  | connectedSenders main | connectedReceiver main | synchronized main | unsynchronized main =>
      exact before (by rw [main]; rfl)
  | ran | terminated | broadcasted | abandoned | broadcast => cases early
  | scheduled main | sent main | refused main | failed main | received main =>
      change network.main.early = true at early
      rw [main] at early
      cases early
  | _ => exact before early

theorem Downward.move_syncing {network next : Network setup} {event : Event}
    (downward : Downward network) (move : Move network event next) :
    ∀ info remaining, next.main = .syncTime info remaining → remaining.Nodup := by
  cases move with
  | acceptedReceiver | acceptedSender | connectedSendRelay | connectedSenders
  | connectedReceiver | ran | terminated | broadcasted | unsynchronized | abandoned | broadcast =>
      intro info remaining main
      cases main
  | started =>
      intro info remaining main
      cases main
      exact (remoteAgentsOf _ _).nodup
  | synchronized main =>
      intro info remaining same
      cases same
      exact (List.nodup_cons.mp (downward.syncing _ _ main)).2
  | _ => exact downward.syncing

theorem Downward.move_terminating {network next : Network setup} {event : Event}
    (downward : Downward network) (move : Move network event next) :
    ∀ time remaining, next.main = .broadcastTerminate time remaining →
      ∀ id, Destination.worker id ∈ remaining → setup.isLocal id = true := by
  cases move with
  | acceptedReceiver | acceptedSender | connectedSendRelay | connectedSenders
  | connectedReceiver | started | synchronized | ran | broadcasted | unsynchronized | abandoned =>
      intro time remaining main
      cases main
  | terminated main =>
      intro time remaining same id member
      cases same
      exact downward.terminating _ _ main id (List.mem_cons_of_mem _ member)
  | broadcast =>
      intro time remaining same id member
      cases same
      simpa [Setup.destinations, Setup.isLocal] using member
  | _ => exact downward.terminating

/-- The receiving relay sends only to the workers of its own agent. -/
theorem Setup.held_home {agent : AgentId} {signal : ProtocolSignal} {entry : WorkerId × Signal}
    (member : entry ∈ setup.held agent
      (Relayed.secondaryReceive (setup.secondaryMap agent) (.ok (some signal)))) :
    entry.1 ∈ setup.secondaryWorkers agent := by
  have targeted (id : ActivityId) (core : Signal)
      (inside : entry ∈ setup.held agent (sendToWorker (setup.secondaryMap agent) id core)) :
      entry.1 ∈ setup.secondaryWorkers agent := by
    unfold sendToWorker at inside
    split at inside
    · cases inside
    · next worker found =>
        rw [Setup.held, List.mem_singleton] at inside
        rw [inside]
        exact Setup.mem_secondaryWorkers_iff.mpr ⟨id, found⟩
  have broadcast (core : Signal)
      (inside : entry ∈ setup.held agent (.broadcast core)) :
      entry.1 ∈ setup.secondaryWorkers agent := by
    obtain ⟨worker, known, rfl⟩ := List.mem_map.mp inside
    exact known
  cases signal with
  | core core =>
      cases core with
      | startup id time | step id time | shutdown id time => exact targeted id _ member
      | terminate time => exact broadcast _ member
      | startupSync info => exact broadcast _ member
      | _ => cases member
  | _ => cases member

theorem Downward.move_held {network next : Network setup} {event : Event}
    (downward : Downward network) (move : Move network event next) :
    ∀ agent ∈ setup.remoteAgents, ∀ held, next.secondaryReceive agent = .relay held →
      ∀ entry ∈ held, setup.isLocal entry.1 = false ∧ setup.home entry.1 = agent := by
  have changed (here : AgentId) (thread : SecondaryReceiveThread)
      (settled : here ∈ setup.remoteAgents → ∀ held, thread = .relay held →
        ∀ entry ∈ held, setup.isLocal entry.1 = false ∧ setup.home entry.1 = here) :
      ∀ agent ∈ setup.remoteAgents, ∀ held,
        Function.update network.secondaryReceive here thread agent = .relay held →
        ∀ entry ∈ held, setup.isLocal entry.1 = false ∧ setup.home entry.1 = agent := by
    intro agent remote held
    by_cases same : agent = here
    · subst same
      rw [Function.update_self]
      exact settled remote held
    · rw [Function.update_of_ne same]
      exact downward.held agent remote held
  cases move with
  | secondaryConnected => exact changed _ _ fun _ => nofun
  | secondaryGreeted => exact changed _ _ fun _ => nofun
  | secondarySynced =>
      apply changed
      intro _ held same
      cases same
      exact List.forall_mem_nil _
  | secondaryTook =>
      apply changed
      intro remote held same entry member
      cases same
      obtain ⟨_, home⟩ := Setup.home_of_mem (Setup.held_home member)
      exact ⟨Setup.isLocal_of_remote remote home, home⟩
  | secondarySent _ thread =>
      apply changed
      intro remote held same entry member
      cases same
      exact downward.held _ remote _ thread entry (List.mem_cons_of_mem _ member)
  | _ => exact downward.held

theorem Downward.move_idle {network next : Network setup} {event : Event}
    (downward : Downward network) (move : Move network event next) :
    ∀ worker, setup.hosts worker = false → next.received worker = [] := by
  cases move with
  | @workerReceived here _ _ _ hosted =>
      intro worker unhosted
      have differs : worker ≠ here := by
        rintro rfl
        rw [hosted] at unhosted
        cases unhosted
      exact (Function.update_of_ne differs _ _).trans (downward.idle worker unhosted)
  | _ => exact downward.idle

/-- A broadcast is the last call that moves a signal to a worker. -/
theorem last_of_broadcast {scheduler : Scheduler}
    {execution next : Scheduler.Execution scheduler} {signal : Signal}
    {result : Except Error Unit}
    (stepped : Scheduler.step execution (.broadcastTerminate signal result) = some next) :
    next.point.stage.Last := by
  cases Scheduler.step_transition stepped
  exact .inl rfl

/-- No step mends a connection. -/
theorem Stranded.step {network next : Network setup} {destination : Destination}
    (stranded : network.Stranded destination)
    (links : ∀ agent, next.links agent = .whole → network.links agent = .whole)
    (last : network.main = .run → network.execution.point.stage.Last →
      next.main = .run ∧ next.execution.point.stage.Last) : next.Stranded destination := by
  rcases stranded with ⟨agent, same, broken⟩ | ⟨main, ended⟩
  · exact .inl ⟨agent, same, fun whole => broken (links agent whole)⟩
  · exact .inr (last main ended)

theorem whole_of_update {links : AgentId → Link} {here agent : AgentId} {link : Link}
    (settled : link = .whole → links here = .whole)
    (whole : Function.update links here link agent = .whole) : links agent = .whole := by
  rcases update_eq_cases whole with ⟨rfl, same⟩ | ⟨_, same⟩
  · exact settled same
  · exact same

theorem push_links {network : Network setup} {signal : Signal} {target : Destination}
    {agent : AgentId} (whole : (network.push signal target).links agent = .whole) :
    network.links agent = .whole := by
  cases target with
  | worker id => exact whole
  | agent here => exact whole_of_update Link.write_whole_iff.mp whole

theorem failAgent_links {network : Network setup} {here agent : AgentId} {part : Bool}
    (whole : (network.failAgent here part).links agent = .whole) :
    network.links agent = .whole :=
  whole_of_update (fun same => (Link.fail_ne_whole _ _ same).elim) whole

/-- A signal is lost at the destinations that the send names. -/
theorem lose_lost (network : Network setup) (signal : Signal) (destinations : List Destination)
    (destination : Destination) :
    (network.lose signal destinations).lost destination =
      network.lost destination ++
        List.replicate (destinations.count destination) signal := rfl

theorem Downward.move_stranded {network next : Network setup} {event : Event}
    (downward : Downward network) (move : Move network event next) :
    ∀ destination, next.lost destination ≠ [] → next.Stranded destination := by
  intro destination lost
  have before (same : network.lost destination ≠ []) : network.Stranded destination :=
    downward.stranded destination same
  cases move with
  | acceptedReceiver main | acceptedSender main | started main | connectedSendRelay main
  | connectedSenders main | connectedReceiver main | ran main | broadcasted main =>
      refine (before lost).step (fun _ => id) ?_
      intro run
      cases main.symm.trans run
  | synchronized main =>
      refine (before lost).step (fun _ => whole_of_update Link.write_whole_iff.mp) ?_
      intro run
      cases main.symm.trans run
  | terminated main =>
      refine (before lost).step (fun _ => push_links) ?_
      intro run
      cases main.symm.trans run
  | unsynchronized main =>
      refine (before lost).step (fun _ => failAgent_links) ?_
      intro run
      cases main.symm.trans run
  | abandoned main stepped => exact .inr ⟨rfl, last_of_broadcast stepped⟩
  | scheduled main stepped =>
      exact (before lost).step (fun _ => id) fun _ last =>
        ⟨main, (Scheduler.step_last stepped last).1⟩
  | sent main _ _ stepped =>
      exact (before lost).step (fun _ => push_links) fun _ last =>
        ⟨main, (Scheduler.step_last stepped last).1⟩
  | refused main _ _ stepped =>
      exact (before lost).step (fun _ => id) fun _ last =>
        ⟨main, (Scheduler.step_last stepped last).1⟩
  | @failed id signal agent _ part _ main _ _ stepped =>
      by_cases same : destination = .agent agent
      · refine .inl ⟨agent, same, ?_⟩
        intro whole
        exact Link.fail_ne_whole _ _ ((Function.update_self _ _ _).symm.trans whole)
      · have unlost : network.lost destination ≠ [] := by
          intro empty
          apply lost
          refine (lose_lost (network.call signal) signal [.agent agent] destination).trans ?_
          rw [List.count_singleton, if_neg (by simpa using Ne.symm same)]
          exact (List.append_nil _).trans empty
        exact (before unlost).step (fun _ => failAgent_links) fun _ last =>
          ⟨main, (Scheduler.step_last stepped last).1⟩
  | received main _ stepped =>
      exact (before lost).step (fun _ => id) fun _ last =>
        ⟨main, (Scheduler.step_last stepped last).1⟩
  | broadcast main point =>
      refine (before lost).step (fun _ => id) fun _ last => ?_
      rw [point] at last
      rcases last with same | same <;> cases same
  | _ => exact (before lost).step (fun _ => id) fun main last => ⟨main, last⟩

theorem push_toWorker (network : Network setup) (signal : Signal) (target : Destination)
    (worker : WorkerId) :
    (network.push signal target).toWorker worker =
      network.toWorker worker ++ if target = .worker worker then [.core signal] else [] := by
  cases target with
  | agent id => simp [push]
  | worker id =>
      by_cases same : id = worker
      · subst same
        simp [push, pushWorker]
      · simp [push, pushWorker, same, Function.update_of_ne (Ne.symm same)]

/-- The first signal in the queue of a connecting worker stays a connect signal. -/
theorem Connecting.append {network next : Network setup} {worker : WorkerId}
    (connecting : network.Connecting worker) (extra : List Mpsc.ProtocolSignal)
    (queue : next.toWorker worker = network.toWorker worker ++ extra)
    (awaits : network.Awaits worker →
      extra = [] ∧ next.Awaits worker ∨ ∃ channel rest, extra = .connect channel :: rest) :
    next.Connecting worker := by
  rcases connecting with ⟨channel, rest, same⟩ | ⟨empty, awaited⟩
  · exact .inl ⟨channel, rest ++ extra, by rw [queue, same, List.cons_append]⟩
  · rcases awaits awaited with ⟨none, still⟩ | ⟨channel, rest, first⟩
    · exact .inr ⟨by rw [queue, empty, none, List.nil_append], still⟩
    · exact .inl ⟨channel, rest, by rw [queue, empty, first, List.nil_append]⟩

/-- A thread that sends no connect signal keeps the queues of the connecting workers. -/
theorem Connecting.congr {network next : Network setup} {worker : WorkerId}
    (connecting : network.Connecting worker)
    (queue : next.toWorker worker = network.toWorker worker)
    (awaits : network.Awaits worker → next.Awaits worker) : next.Connecting worker :=
  connecting.append [] (by rw [queue, List.append_nil]) fun awaited =>
    .inl ⟨rfl, awaits awaited⟩

/-- The awaited connector of a local worker is the main thread. -/
theorem awaits_local {network : Network setup} {worker : WorkerId}
    (here : setup.isLocal worker = true) :
    network.Awaits worker ↔ network.main.Greets worker := by
  rw [Awaits, if_pos here]

/-- The awaited connector of a remote worker is the relay of its agent. -/
theorem awaits_remote {network : Network setup} {worker : WorkerId}
    (there : setup.isLocal worker = false) :
    network.Awaits worker ↔ (network.secondaryReceive (setup.home worker)).Greets worker := by
  rw [Awaits, if_neg (by rw [there]; decide)]

/-- A step of the main thread concerns the local workers only. -/
theorem awaits_of_main (network : Network setup) {next : Network setup} {worker : WorkerId}
    (secondary : next.secondaryReceive = network.secondaryReceive)
    (main : setup.isLocal worker = true → network.Awaits worker → next.Awaits worker)
    (awaits : network.Awaits worker) : next.Awaits worker := by
  cases here : setup.isLocal worker with
  | true => exact main here awaits
  | false =>
      rw [awaits_remote here] at awaits ⊢
      rw [secondary]
      exact awaits

/-- A step of the receiving relay of an agent concerns the workers of this agent only. -/
theorem awaits_of_secondary (network : Network setup) {next : Network setup}
    {worker : WorkerId} {here : AgentId} {thread : SecondaryReceiveThread}
    (main : next.main = network.main)
    (secondary : next.secondaryReceive =
      Function.update network.secondaryReceive here thread)
    (kept : setup.isLocal worker = false → setup.home worker = here →
      network.Awaits worker → next.Awaits worker)
    (awaits : network.Awaits worker) : next.Awaits worker := by
  cases local? : setup.isLocal worker with
  | true =>
      rw [awaits_local local?] at awaits ⊢
      rw [main]
      exact awaits
  | false =>
      by_cases same : setup.home worker = here
      · exact kept local? same awaits
      · rw [awaits_remote local?] at awaits ⊢
        rw [secondary, Function.update_of_ne same]
        exact awaits

/-- The main thread has sent all connect signals of the local workers. -/
theorem Connecting.of_main {network next : Network setup} {worker : WorkerId}
    (connecting : network.Connecting worker) (queue : next.toWorker = network.toWorker)
    (secondary : next.secondaryReceive = network.secondaryReceive)
    (greets : network.main.Greets worker → next.main.Greets worker) :
    next.Connecting worker := by
  apply connecting.congr (congrFun queue worker)
  apply awaits_of_main network secondary
  intro here awaits
  exact (awaits_local here).mpr (greets ((awaits_local here).mp awaits))

/-- The main thread sends the next connect signal. -/
theorem Connecting.connectedReceiver {network : Network setup} {worker here : WorkerId}
    {rest : List WorkerId} (connecting : network.Connecting worker)
    (main : network.main = .connectReceivers (here :: rest)) :
    Connecting { network.pushWorker here (.connect (.worker here)) with
      main := .connectReceivers rest } worker := by
  apply connecting.append (if worker = here then [.connect (.worker here)] else [])
    update_concat_apply
  intro awaits
  by_cases same : worker = here
  · exact .inr ⟨_, [], if_pos same⟩
  · refine .inl ⟨if_neg same, awaits_of_main network rfl ?_ awaits⟩
    intro local? awaited
    rw [awaits_local local?, main] at awaited
    exact (awaits_local local?).mpr ((List.mem_cons.mp awaited).resolve_left same)

/-- A signal for a local worker leaves after the connect signal of the worker. -/
theorem Connecting.pushed {network next : Network setup} {worker : WorkerId} {signal : Signal}
    {target : Destination} (connecting : network.Connecting worker)
    (queue : next.toWorker = (network.push signal target).toWorker)
    (secondary : next.secondaryReceive = network.secondaryReceive)
    (greeted : ∀ other, ¬ network.main.Greets other)
    (aimed : target = .worker worker → setup.isLocal worker = true) :
    next.Connecting worker := by
  apply connecting.append _ ((congrFun queue worker).trans (push_toWorker _ _ _ _))
  intro awaits
  by_cases same : target = .worker worker
  · exact (greeted worker ((awaits_local (aimed same)).mp awaits)).elim
  · refine .inl ⟨if_neg same, awaits_of_main network secondary ?_ awaits⟩
    intro here awaited
    exact (greeted worker ((awaits_local here).mp awaited)).elim

/-- The relay of an agent sends the next connect signal. -/
theorem Connecting.secondaryConnected {network : Network setup} {worker other : WorkerId}
    {here : AgentId} {rest : List WorkerId} (connecting : network.Connecting worker)
    (thread : network.secondaryReceive here = .connectReceivers (other :: rest)) :
    Connecting { network.pushWorker other (.connect (.worker other)) with
      secondaryReceive :=
        Function.update network.secondaryReceive here (.connectReceivers rest) } worker := by
  apply connecting.append (if worker = other then [.connect (.worker other)] else [])
    update_concat_apply
  intro awaits
  by_cases same : worker = other
  · exact .inr ⟨_, [], if_pos same⟩
  · refine .inl ⟨if_neg same, awaits_of_secondary network rfl rfl ?_ awaits⟩
    intro there home awaited
    rw [awaits_remote there, home, thread] at awaited
    rw [awaits_remote there, home]
    change (Function.update network.secondaryReceive here _ here).Greets worker
    rw [Function.update_self]
    exact (List.mem_cons.mp awaited).resolve_left same

/-- A relay that has sent all connect signals is not awaited. -/
theorem not_awaits_of_secondary {network : Network setup} {worker : WorkerId} {here : AgentId}
    {thread : SecondaryReceiveThread} (before : network.secondaryReceive here = thread)
    (greeted : ¬ thread.Greets worker) (there : setup.isLocal worker = false)
    (home : setup.home worker = here) : ¬ network.Awaits worker := by
  rw [awaits_remote there, home, before]
  exact greeted

/-- The relay of an agent has sent all connect signals of its workers. -/
theorem Connecting.of_secondary {network next : Network setup} {worker : WorkerId}
    {here : AgentId} {before after : SecondaryReceiveThread}
    (connecting : network.Connecting worker) (thread : network.secondaryReceive here = before)
    (greeted : ¬ before.Greets worker) (queue : next.toWorker = network.toWorker)
    (main : next.main = network.main)
    (changed : next.secondaryReceive = Function.update network.secondaryReceive here after) :
    next.Connecting worker := by
  apply connecting.congr (congrFun queue worker)
  apply awaits_of_secondary network main changed
  intro there home awaited
  exact (not_awaits_of_secondary thread greeted there home awaited).elim

/-- The relay of an agent forwards a signal to a worker after its connect signal. -/
theorem Connecting.secondarySent {network : Network setup} {worker other : WorkerId}
    {here : AgentId} {core : Signal} {rest : List (WorkerId × Signal)}
    (connecting : network.Connecting worker)
    (thread : network.secondaryReceive here = .relay ((other, core) :: rest))
    (held : setup.isLocal other = false ∧ setup.home other = here) :
    Connecting { network.pushWorker other (.core core) with
      secondaryReceive :=
        Function.update network.secondaryReceive here (.relay rest) } worker := by
  have unawaited (there : setup.isLocal worker = false) (home : setup.home worker = here) :
      ¬ network.Awaits worker := not_awaits_of_secondary thread id there home
  apply connecting.append (if worker = other then [.core core] else []) update_concat_apply
  intro awaits
  by_cases same : worker = other
  · rw [← same] at held
    exact (unawaited held.1 held.2 awaits).elim
  · exact .inl ⟨if_neg same, awaits_of_secondary network rfl rfl
      (fun there home awaited => (unawaited there home awaited).elim) awaits⟩

/-- A step of a running worker concerns no connecting worker. -/
theorem stopped_of_running {network next : Network setup} {worker here : WorkerId}
    {moved : Worker.Point}
    (threads : next.threads = Function.update network.threads here (.running moved))
    (stopped : ∀ point, next.threads worker ≠ .running point) :
    worker ≠ here ∧ ∀ point, network.threads worker ≠ .running point := by
  rw [threads] at stopped
  have differs : worker ≠ here := by
    rintro rfl
    exact stopped moved (Function.update_self _ _ _)
  refine ⟨differs, ?_⟩
  rwa [Function.update_of_ne differs] at stopped

theorem Downward.move_connecting {network next : Network setup} {event : Event}
    (downward : Downward network) (move : Move network event next) :
    ∀ worker, setup.hosts worker = true →
      (∀ point, next.threads worker ≠ .running point) → next.Connecting worker := by
  intro worker hosted stopped
  have before (waits : ∀ point, network.threads worker ≠ .running point) :
      network.Connecting worker := downward.connecting worker hosted waits
  cases move with
  | acceptedReceiver main | acceptedSender main | connectedSendRelay main =>
      exact (before stopped).of_main rfl rfl fun _ => trivial
  | connectedSenders main =>
      refine (before stopped).congr rfl (awaits_of_main network rfl ?_)
      intro here _
      have member : worker ∈ setup.localWorkers := of_decide_eq_true here
      exact (awaits_local here).mpr member
  | started main | synchronized main | unsynchronized main | ran main | broadcasted main
  | abandoned main | broadcast main =>
      refine (before stopped).of_main rfl rfl ?_
      intro greets
      rw [main] at greets
      cases greets
  | connectedReceiver main => exact (before stopped).connectedReceiver main
  | terminated main =>
      refine (before stopped).pushed rfl rfl ?_ ?_
      · intro other
        rw [main]
        exact id
      · rintro rfl
        exact downward.terminating _ _ main worker List.mem_cons_self
  | sent main _ route =>
      refine (before stopped).pushed rfl rfl ?_ ?_
      · intro other
        rw [main]
        exact id
      · intro aimed
        obtain ⟨other, _, _, found⟩ := Setup.sendToActivity_ok route
        exact (Setup.destination_eq_worker_iff.mp (found.symm.trans aimed)).1
  | secondaryConnected _ thread => exact (before stopped).secondaryConnected thread
  | secondaryGreeted _ thread =>
      exact (before stopped).of_secondary thread List.not_mem_nil rfl rfl rfl
  | secondarySynced _ thread => exact (before stopped).of_secondary thread id rfl rfl rfl
  | secondaryTook _ thread => exact (before stopped).of_secondary thread id rfl rfl rfl
  | secondarySent remote thread =>
      exact (before stopped).secondarySent thread
        (downward.held _ remote _ thread _ List.mem_cons_self)
  | @workerGreeted here _ thread =>
      have waits : ∀ point, network.threads worker ≠ .running point := by
        intro point running
        by_cases same : worker = here
        · rw [same, thread] at running
          cases running
        · exact stopped point ((Function.update_of_ne same _ _).trans running)
      exact (before waits).congr rfl id
  | @workerDropped here _ _ _ thread head =>
      by_cases same : worker = here
      · subst same
        rcases before (by simp [thread]) with ⟨_, _, first⟩ | ⟨empty, _⟩
        · rw [head] at first
          cases first
        · rw [head] at empty
          cases empty
      · exact (before stopped).congr (Function.update_of_ne same _ _) id
  | workerConnected | workerReceived =>
      obtain ⟨differs, waits⟩ := stopped_of_running rfl stopped
      exact (before waits).congr (Function.update_of_ne differs _ _) id
  | workerSent | workerMoved =>
      obtain ⟨_, waits⟩ := stopped_of_running rfl stopped
      exact (before waits).congr rfl id
  | _ => exact before stopped

theorem Downward.move {network next : Network setup} {event : Event}
    (downward : Downward network) (move : Move network event next) : Downward next where
  typed := downward.move_typed move
  early := downward.move_early move
  syncing := downward.move_syncing move
  terminating := downward.move_terminating move
  held := downward.move_held move
  connecting := downward.move_connecting move
  idle := downward.move_idle move
  stranded := downward.move_stranded move

theorem run_downward {history : List Event} {network : Network setup}
    (reached : (machine setup).run (initial setup) history = some network) : Downward network :=
  (machine setup).run_preserves Downward
    (fun _ _ _ downward stepped => downward.move (step_move stepped)) downward_initial reached

end Network

end Relayed

end Feo
