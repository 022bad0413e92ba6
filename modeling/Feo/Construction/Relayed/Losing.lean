import Feo.Construction.Relayed.Relays
import Feo.Foundation.Machine

namespace Feo.Relayed

open Foundation

/-- A signal is late when it is sent after the connection of another agent was reset. -/
structure Packet where
  agent : AgentId
  signal : Signal
  late : Bool
  number : Nat
deriving DecidableEq

/-- The relay serves the connections of all remote agents with one loop. -/
structure Relaying where
  running : Bool
  reset : AgentId → Bool
  pending : AgentId → List Packet
  sent : List Packet
  forwarded : List Packet

namespace Relaying

/-- An agent sends or loses its connection, and the relay receives, times out, or meets a reset. -/
inductive Event where
  | send (agent : AgentId) (signal : Signal)
  | reset (agent : AgentId)
  | receive (agent : AgentId)
  | timeout
  | report (agent : AgentId)
deriving DecidableEq

/-- All remote agents are connected. -/
def initial : Relaying := ⟨true, fun _ => false, fun _ => [], [], []⟩

/-- The relay forwards the received packet or ends. -/
def react (relaying : Relaying) (packet : Option Packet)
    (result : Except Error (Option ProtocolSignal)) : Relaying :=
  match primaryReceive result with
  | .again => relaying
  | .forward _ => { relaying with forwarded := relaying.forwarded ++ packet.toList }
  | .exit _ => { relaying with running := false }

/-- The connection of some agent other than the given one was reset. -/
def lost (agents : List AgentId) (relaying : Relaying) (agent : AgentId) : Bool :=
  agents.any fun other => other ≠ agent && relaying.reset other

/-- The server hands out the pending packets in any order of the agents. -/
def step (agents : List AgentId) (relaying : Relaying) : Event → Option Relaying
  | .send agent signal =>
      if agent ∈ agents ∧ relaying.reset agent = false then
        let packet : Packet :=
          ⟨agent, signal, lost agents relaying agent, relaying.sent.length⟩
        some { relaying with
          pending := Function.update relaying.pending agent (relaying.pending agent ++ [packet])
          sent := relaying.sent ++ [packet] }
      else none
  | .reset agent =>
      if agent ∈ agents then
        some { relaying with reset := Function.update relaying.reset agent true }
      else none
  | .receive agent =>
      match relaying.running, relaying.pending agent with
      | true, packet :: rest =>
          let taken := { relaying with pending := Function.update relaying.pending agent rest }
          some (taken.react (some packet) (.ok (some (.core packet.signal))))
      | _, _ => none
  | .timeout =>
      if relaying.running then some (relaying.react none (.ok none)) else none
  | .report agent =>
      if relaying.running ∧ agent ∈ agents ∧ relaying.reset agent = true then
        some (relaying.react none (.error (.io .connectionReset "failed")))
      else none

/-- The machine has the connections of the given agents. -/
def machine (agents : List AgentId) : Machine Relaying Event where
  step := step agents

end Relaying

end Feo.Relayed
