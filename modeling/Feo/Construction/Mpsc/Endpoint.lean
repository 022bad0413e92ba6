import Feo.Construction.Signals
import Feo.Foundation.HashSet
import Feo.Foundation.Links

namespace Feo.Mpsc

open Foundation

/-- Internal input signal specific to this signalling implementation. -/
inductive ProtocolSignal where
  | core (signal : Signal)
  | connect (id : ChannelId)
deriving DecidableEq

/-- One round of a connecting loop reads the clock and receives from the channel. -/
structure Round where
  elapsed : Duration
  received : Except Error (Option ProtocolSignal)

/-- The receiver knows the channels whose senders share its queue. -/
structure ProtocolMultiReceiver where
  channelIds : HashSet ChannelId

namespace ProtocolMultiReceiver

/-- A received signal may be the first connect signal of an expected channel. -/
def remaining (receiver : ProtocolMultiReceiver) (missing : List ChannelId) :
    ProtocolSignal → List ChannelId
  | .connect id => if id ∈ receiver.channelIds.items then missing.erase id else missing
  | .core _ => missing

/-- The loop also ends without an error once the clock reaches the timeout. -/
def connectLoop (receiver : ProtocolMultiReceiver) (timeout : Duration) (missing : List ChannelId) :
    List Round → Option (Except Error Unit)
  | [] => if missing = [] then some (.ok ()) else none
  | round :: rounds =>
      if missing = [] ∨ ¬ timeout.gt round.elapsed then some (.ok ()) else
        match round.received with
        | .error error => some (.error error)
        | .ok none => some (.error (.timeout (some timeout) "connecting senders"))
        | .ok (some signal) =>
            receiver.connectLoop timeout (receiver.remaining missing signal) rounds

/-- All channels are missing at first, and no result means that the loop still waits. -/
def connectSenders (receiver : ProtocolMultiReceiver) (timeout : Duration)
    (rounds : List Round) : Option (Except Error Unit) :=
  receiver.connectLoop timeout receiver.channelIds.items rounds

/-- The loop takes these signals from its channel before it returns. -/
def receivedSignals (receiver : ProtocolMultiReceiver) (timeout : Duration)
    (missing : List ChannelId) : List Round → List ProtocolSignal
  | [] => []
  | round :: rounds =>
      if missing = [] ∨ ¬ timeout.gt round.elapsed then [] else
        match round.received with
        | .ok (some signal) =>
            signal :: receiver.receivedSignals timeout (receiver.remaining missing signal) rounds
        | _ => []

/-- The flag `connected` is set behind the loop, and an error returns before it. -/
def connect (receiver : ProtocolMultiReceiver) (connected : Bool) (timeout : Duration)
    (rounds : List Round) : Option (Except Error Unit × Bool) :=
  (receiver.connectSenders timeout rounds).map fun
    | .ok () => (.ok (), true)
    | .error error => (.error error, connected)

end ProtocolMultiReceiver

/-- The sender has one queue for each of its channels. -/
structure ProtocolMultiSender where
  senders : HashSet ChannelId

namespace ProtocolMultiSender

def broadcast (sender : ProtocolMultiSender) (links : Links ChannelId ProtocolSignal)
    (signal : ProtocolSignal) : Except Error Unit × Links ChannelId ProtocolSignal :=
  links.trySendEach (.channel "broadcast failed: a channel was closed") (fun _ => signal)
    sender.senders.items

/-- Each queue receives the connect signal of its own channel. -/
def connectReceivers (sender : ProtocolMultiSender) (links : Links ChannelId ProtocolSignal) :
    Except Error Unit × Links ChannelId ProtocolSignal :=
  links.trySendEach .channelClosed .connect sender.senders.items

end ProtocolMultiSender

end Feo.Mpsc
