import Feo.Proof.Relayed.Network.Calls

namespace Feo.Relayed

open Foundation

/-- The primary has initialized its time. -/
def Main.Started : Main → Prop
  | .syncTime _ _ => True
  | .run => True
  | .broadcastTerminate _ _ => True
  | _ => False

namespace Network

variable {setup : Setup}

/-- Each core signal reaches only workers of initialized processes. -/
structure Timed (network : Network setup) : Prop where
  own : network.main.Started → network.startupTime setup.scheduler.agentId = true
  relaying : ∀ agent, (network.secondaryReceive agent).relaying = true →
    network.startupTime agent = true
  queued : ∀ worker signal, .core signal ∈ network.toWorker worker →
    network.startupTime (setup.home worker) = true
  calling : ∀ worker signal, network.threads worker = .running (.call signal) →
    network.startupTime (setup.home worker) = true

theorem timed_initial : Timed (initial setup) where
  own := nofun
  relaying _ := nofun
  queued _ _ := nofun
  calling _ _ := nofun

/-- A process stays initialized. -/
theorem Move.startupTime {network next : Network setup} {event : Event}
    (move : Move network event next) {agent : AgentId}
    (set : network.startupTime agent = true) : next.startupTime agent = true := by
  have updated (here : AgentId) : Function.update network.startupTime here true agent = true := by
    by_cases same : agent = here
    · subst same
      exact Function.update_self _ _ _
    · rw [Function.update_of_ne same]
      exact set
  cases move with
  | started => exact updated _
  | secondarySynced => exact updated _
  | workerReceived _ _ _ grows => exact grows agent set
  | _ => exact set

theorem Timed.move_own {network next : Network setup} {event : Event} (timed : Timed network)
    (move : Move network event next) :
    next.main.Started → next.startupTime setup.scheduler.agentId = true := by
  intro started
  have later (before : network.main.Started) :
      next.startupTime setup.scheduler.agentId = true := move.startupTime (timed.own before)
  cases move with
  | acceptedReceiver | acceptedSender | connectedSendRelay | connectedSenders
  | connectedReceiver | unsynchronized => cases started
  | started => exact Function.update_self _ _ _
  | synchronized main | ran main | terminated main | broadcasted main | abandoned main
  | broadcast main => exact later (by rw [main]; exact trivial)
  | _ => exact later started

theorem Timed.move_relaying {network next : Network setup} {event : Event}
    (timed : Timed network) (move : Move network event next) :
    ∀ agent, (next.secondaryReceive agent).relaying = true → next.startupTime agent = true := by
  intro agent relays
  have later (before : (network.secondaryReceive agent).relaying = true) :
      next.startupTime agent = true := move.startupTime (timed.relaying agent before)
  have changed (here : AgentId) (thread : SecondaryReceiveThread)
      (relays : (Function.update network.secondaryReceive here thread agent).relaying = true)
      (settled : thread.relaying = true → (network.secondaryReceive here).relaying = true) :
      next.startupTime agent = true := by
    by_cases same : agent = here
    · subst same
      rw [Function.update_self] at relays
      exact later (settled relays)
    · rw [Function.update_of_ne same] at relays
      exact later relays
  cases move with
  | secondaryConnected => exact changed _ _ relays nofun
  | secondaryGreeted => exact changed _ _ relays nofun
  | @secondarySynced here =>
      by_cases same : agent = here
      · subst same
        exact Function.update_self _ _ _
      · change (Function.update network.secondaryReceive here _ agent).relaying = true at relays
        rw [Function.update_of_ne same] at relays
        exact later relays
  | secondaryTook _ thread => exact changed _ _ relays fun _ => by rw [thread]; rfl
  | secondarySent _ thread => exact changed _ _ relays fun _ => by rw [thread]; rfl
  | _ => exact later relays

/-- The processes of the local workers and of the relayed ones are initialized. -/
theorem Timed.move_queued {network next : Network setup} {event : Event} (timed : Timed network)
    (downward : Downward network) (move : Move network event next) :
    ∀ worker signal, .core signal ∈ next.toWorker worker →
      next.startupTime (setup.home worker) = true := by
  intro worker core member
  have later (before : .core core ∈ network.toWorker worker) :
      next.startupTime (setup.home worker) = true :=
    move.startupTime (timed.queued worker core before)
  have here (started : network.main.Started) (local? : setup.isLocal worker = true) :
      next.startupTime (setup.home worker) = true := by
    rw [(Setup.isLocal_iff.mp local?).2]
    exact move.startupTime (timed.own started)
  cases move with
  | connectedReceiver | secondaryConnected =>
      rcases mem_update_concat.mp member with earlier | ⟨_, same⟩
      · exact later earlier
      · cases same
  | @terminated time target rest main =>
      rw [show _ = _ from push_toWorker network (.terminate time) target worker] at member
      rcases List.mem_append.mp member with earlier | last
      · exact later earlier
      · split at last
        · next same =>
            refine here (by rw [main]; exact trivial) (downward.terminating _ _ main worker ?_)
            rw [same]
            exact List.mem_cons_self
        · cases last
  | @sent id signal target execution main _ route =>
      rw [show _ = _ from push_toWorker (network.call signal) signal target worker] at member
      rcases List.mem_append.mp member with earlier | last
      · exact later earlier
      · split at last
        · next same =>
            obtain ⟨host, _, _, rfl⟩ := Setup.sendToActivity_ok route
            refine here (by rw [main]; exact trivial) ?_
            exact (Setup.destination_eq_worker_iff.mp same).1
        · cases last
  | @secondarySent agent other held rest remote thread =>
      rcases mem_update_concat.mp member with earlier | ⟨rfl, _⟩
      · exact later earlier
      · have home := (downward.held agent remote _ thread (worker, held) List.mem_cons_self).2
        rw [show setup.home worker = agent from home]
        exact timed.relaying agent (by rw [thread]; rfl)
  | workerConnected _ _ head | workerDropped _ _ head =>
      exact later (mem_of_mem_update head member)
  | workerReceived _ _ head => exact later (mem_of_mem_update head member)
  | _ => exact later member

theorem Timed.move_calling {network next : Network setup} {event : Event} (timed : Timed network)
    (move : Move network event next) :
    ∀ worker signal, next.threads worker = .running (.call signal) →
      next.startupTime (setup.home worker) = true := by
  intro worker signal calls
  have changed (here : WorkerId) (thread : Mpsc.Thread)
      (calls : Function.update network.threads here thread worker = .running (.call signal))
      (settled : thread = .running (.call signal) →
        network.startupTime (setup.home here) = true) :
      next.startupTime (setup.home worker) = true := by
    apply move.startupTime
    by_cases same : worker = here
    · subst same
      rw [Function.update_self] at calls
      exact settled calls
    · rw [Function.update_of_ne same] at calls
      exact timed.calling worker signal calls
  have later (before : network.threads worker = .running (.call signal)) :
      next.startupTime (setup.home worker) = true :=
    move.startupTime (timed.calling worker signal before)
  cases move with
  | workerGreeted => exact changed _ _ calls nofun
  | workerConnected => exact changed _ _ calls nofun
  | @workerReceived here received _ _ _ _ head =>
      refine changed _ _ calls fun _ => timed.queued here received ?_
      rw [head]
      exact List.mem_cons_self
  | workerSent _ _ _ idle =>
      refine changed _ _ calls ?_
      rintro same
      rw [Mpsc.Thread.running.inj same] at idle
      cases idle
  | @workerMoved here event point moved _ thread worked busier =>
      refine changed _ _ calls ?_
      rintro same
      cases same
      by_cases received : ∃ taken, event = .receive (.ok (some taken))
      · obtain ⟨taken, rfl⟩ := received
        have busy := busier rfl
        rw [(Worker.step_receive_some worked).1] at busy
        cases busy
      · exact (Worker.step_call (fun taken same => received ⟨taken, same⟩) worked).elim
  | _ => exact later calls

theorem run_timed {history : List Event} {network : Network setup}
    (reached : (machine setup).run (initial setup) history = some network) : Timed network := by
  refine (machine setup).run_induction (fun _ network => Timed network) timed_initial ?_ reached
  intro history network event next earlier timed stepped
  have move := step_move stepped
  exact {
    own := timed.move_own move
    relaying := timed.move_relaying move
    queued := timed.move_queued (run_downward earlier) move
    calling := timed.move_calling move }

end Network

end Feo.Relayed
