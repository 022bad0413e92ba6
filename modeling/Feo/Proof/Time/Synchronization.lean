import Feo.Proof.Relayed.Network.Clock
import Feo.Proof.Time.Initialized

namespace Feo

open Foundation

/-- The next call of the scheduler evaluates a timestamp. -/
def Scheduler.Point.stamps : Scheduler.Point → Bool
  | .broadcastTerminate _ => true
  | point => point.request?.isSome

/-- A thread of the process is about to evaluate a timestamp, unless its activity fails. -/
def Agents.Stamps {setup : DirectSetup} (agents : Agents setup) (process : AgentId) : Prop :=
  (process = setup.scheduler.agentId ∧ agents.main = .run ∧
      agents.execution.point.stamps = true) ∨
    ∃ worker signal, setup.process worker = process ∧
      agents.threads worker = .running (.call signal)

/-- The relays evaluate no timestamps. -/
def Relayed.Network.Stamps {setup : Relayed.Setup} (network : Relayed.Network setup)
    (process : AgentId) : Prop :=
  (process = setup.scheduler.agentId ∧ network.main = .run ∧
      network.execution.point.stamps = true) ∨
    ∃ worker signal, setup.home worker = process ∧
      network.threads worker = .running (.call signal)

/-- No thread evaluates a timestamp before the startup time of its process is set. -/
theorem run_stamps_initialized :
    (∀ (setup : DirectSetup) (history : List Agents.Event) (agents : Agents setup),
        (Agents.machine setup).run (Agents.initial setup) history = some agents →
        ∀ process, agents.Stamps process → agents.startupTime process ≠ none) ∧
      ∀ (setup : Relayed.Setup) (history : List Relayed.Network.Event)
        (network : Relayed.Network setup),
        (Relayed.Network.machine setup).run (Relayed.Network.initial setup) history =
          some network →
        ∀ process, network.Stamps process → network.startupTime process = true := by
  constructor
  · intro setup history agents reached process stamps
    have initialized := Agents.run_initialized reached
    rcases stamps with ⟨rfl, running, _⟩ | ⟨worker, signal, rfl, calls⟩
    · exact initialized.own (by rw [running]; exact trivial)
    · exact initialized.calling worker signal calls
  · intro setup history network reached process stamps
    have timed := Relayed.Network.run_timed reached
    rcases stamps with ⟨rfl, running, _⟩ | ⟨worker, signal, rfl, calls⟩
    · exact timed.own (by rw [running]; exact trivial)
    · exact timed.calling worker signal calls

namespace Stamped

/-- All clocks stand still. -/
def clock : ClockReadings where
  earliest := 0
  tries _ := ⟨⟨0, Reading.zero_lower, Reading.zero_upper⟩,
    ⟨0, Reading.zero_lower, Reading.zero_upper⟩, ⟨0, Reading.zero_lower, Reading.zero_upper⟩⟩
  now := ⟨0, Reading.zero_lower, Reading.zero_upper⟩
  speed := 0

def time : Timestamp := ⟨Duration.zero⟩

/-- The only activity runs on worker 41 of agent 101. -/
def scheduler : Scheduler where
  agentId := ⟨100⟩
  cycleTime := Duration.zero
  receiveTimeout := Duration.zero
  startupTimeout := Duration.zero
  activityDepends := { keys := [⟨1⟩], nodup := GenericId.nodup_one, value := fun _ => [] }

def sockets : DirectSetup where
  scheduler := scheduler
  workers id := ⟨id, ⟨101⟩, [⟨1⟩]⟩
  mode := .sockets (fun _ => ⟨41⟩) ⟨[⟨1⟩], GenericId.nodup_one, fun _ => ⟨101⟩⟩ Duration.zero

def socketsRun : List Agents.Event :=
  [.hello 1 ⟨1⟩, .next clock, .next clock, .next clock, .next clock, .send clock (.ok ()),
    .receive ⟨41⟩ clock, .receive ⟨41⟩ clock]

def relayed : Relayed.Setup where
  scheduler := scheduler
  workers id := ⟨id, ⟨101⟩, [⟨1⟩]⟩
  timeout := Duration.zero
  workerAgentMap := ⟨[⟨41⟩], by decide, fun _ => ⟨101⟩⟩
  activityWorkerMap := ⟨[⟨1⟩], GenericId.nodup_one, fun _ => ⟨41⟩⟩

def relayedRun : List Relayed.Network.Event :=
  [.secondaryReceive ⟨101⟩, .secondaryReceive ⟨101⟩, .acceptReceiver ⟨101⟩, .next,
    .connect ⟨41⟩, .connect ⟨41⟩, .secondaryTake ⟨101⟩, .secondaryNext ⟨101⟩,
    .primaryTake ⟨101⟩, .primaryNext, .acceptSender, .next, .start ⟨Duration.zero⟩, .next, .next,
    .send ⟨1⟩ (.startup ⟨1⟩ time), .secondaryReceive ⟨101⟩, .secondaryReceive ⟨101⟩,
    .secondaryReceive ⟨101⟩, .worker ⟨41⟩ (.receive (.ok (some (.startup ⟨1⟩ time))))]

end Stamped

/-- Worker 41 is about to stamp its startup in both modes. -/
theorem run_stamps_initialized_single :
    (∃ agents, (Agents.machine Stamped.sockets).run (Agents.initial Stamped.sockets)
        Stamped.socketsRun = some agents ∧ agents.Stamps ⟨101⟩ ∧
        agents.startupTime ⟨101⟩ ≠ none) ∧
      ∃ network, (Relayed.Network.machine Stamped.relayed).run
        (Relayed.Network.initial Stamped.relayed) Stamped.relayedRun = some network ∧
        network.Stamps ⟨101⟩ ∧ network.startupTime ⟨101⟩ = true := by
  constructor
  · have calls : ((Agents.machine Stamped.sockets).run (Agents.initial Stamped.sockets)
        Stamped.socketsRun).map (fun agents => agents.threads ⟨41⟩) =
          some (.running (.call (.startup ⟨1⟩ Stamped.time))) := by
      decide +kernel
    obtain ⟨agents, reached, thread⟩ := Option.map_eq_some_iff.mp calls
    have stamps : agents.Stamps ⟨101⟩ := .inr ⟨⟨41⟩, _, rfl, thread⟩
    exact ⟨agents, reached, stamps, run_stamps_initialized.1 _ _ _ reached _ stamps⟩
  · have calls : ((Relayed.Network.machine Stamped.relayed).run
        (Relayed.Network.initial Stamped.relayed) Stamped.relayedRun).map
          (fun network => network.threads ⟨41⟩) =
            some (.running (.call (.startup ⟨1⟩ Stamped.time))) := by
      decide +kernel
    obtain ⟨network, reached, thread⟩ := Option.map_eq_some_iff.mp calls
    have stamps : network.Stamps ⟨101⟩ := .inr ⟨⟨41⟩, _, rfl, thread⟩
    exact ⟨network, reached, stamps, run_stamps_initialized.2 _ _ _ reached _ stamps⟩

end Feo
