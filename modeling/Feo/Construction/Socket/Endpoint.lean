import Feo.Construction.Socket.Server
import Feo.Foundation.HashMap
import Feo.Foundation.HashSet
import Feo.Foundation.Links

namespace Feo

open Foundation

/-- One round of the connecting loop reads the time that is left and polls the server. -/
structure HelloRound where
  timeLeft : Duration
  received : Except Error (Option (Token × ProtocolSignal))

/-- A multi-channel sender or receiver acts as a server for the peers of its channels. -/
structure ProtocolMultiEndpoint where
  channelIds : HashSet ChannelId
  channelTokenMap : HashMap ChannelId Token

namespace ProtocolMultiEndpoint

def new (channelIds : HashSet ChannelId) : ProtocolMultiEndpoint := ⟨channelIds, HashMap.empty⟩

/-- Each hello stores the token of its channel, and errors of the server are ignored. -/
def connectLoop (endpoint : ProtocolMultiEndpoint) (missingPeers : List ChannelId) :
    List HelloRound → Option (Except Error Unit × ProtocolMultiEndpoint)
  | [] => if missingPeers = [] then some (.ok (), endpoint) else none
  | round :: rounds =>
      if missingPeers = [] then some (.ok (), endpoint)
      else if round.timeLeft.isZero then
        some (.error (.io .timedOut "CONNECTION_TIMEOUT"), endpoint)
      else
        match round.received with
        | .ok (some (token, .channelHello channel)) =>
            connectLoop
              { endpoint with channelTokenMap := endpoint.channelTokenMap.insert channel token }
              (missingPeers.erase channel) rounds
        | _ => endpoint.connectLoop missingPeers rounds

/-- All channels are missing at first, and no result means that the loop still waits. -/
def connect (endpoint : ProtocolMultiEndpoint) (rounds : List HelloRound) :
    Option (Except Error Unit × ProtocolMultiEndpoint) :=
  endpoint.connectLoop endpoint.channelIds.items rounds

end ProtocolMultiEndpoint

end Feo
