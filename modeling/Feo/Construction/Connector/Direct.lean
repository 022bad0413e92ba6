import Feo.Construction.Socket.Endpoint

namespace Feo.Direct

open Foundation

/-- Connector for the scheduler. -/
structure SchedulerConnector where
  activityIdTokenMap : HashMap ActivityId Token
  activityAgentMap : HashMap ActivityId AgentId
  allActivities : List ActivityId
  connectionTimeout : Duration

/-- One round of the connecting loop reads the clock and polls the server. -/
structure Round where
  elapsed : Duration
  received : Except Error (Option (Token × ProtocolSignal))

namespace SchedulerConnector

/-- Create a new instance. -/
def new (activityIds : List ActivityId) (activityAgentMap : HashMap ActivityId AgentId)
    (connectionTimeout : Duration) : SchedulerConnector where
  activityIdTokenMap := HashMap.empty
  activityAgentMap := activityAgentMap
  allActivities := activityIds
  connectionTimeout := connectionTimeout

/-- Each hello stores the token of its activity, and errors of the server are ignored. -/
def connectLoop (connector : SchedulerConnector) (missingActivities : List ActivityId) :
    List Round → Option (Except Error Unit × SchedulerConnector)
  | [] => if missingActivities = [] then some (.ok (), connector) else none
  | round :: rounds =>
      if missingActivities = [] then some (.ok (), connector)
      else if ¬ connector.connectionTimeout.gt round.elapsed then
        some (.error (.io .timedOut "CONNECTION_TIMEOUT"), connector)
      else
        match round.received with
        | .ok (some (token, .activityHello id)) =>
            connectLoop
              { connector with
                activityIdTokenMap := connector.activityIdTokenMap.insert id token }
              (missingActivities.erase id) rounds
        | _ => connector.connectLoop missingActivities rounds

/-- No result means that the loop still waits for an activity. -/
def connectRemotes (connector : SchedulerConnector) (rounds : List Round) :
    Option (Except Error Unit × SchedulerConnector) :=
  connector.connectLoop connector.allActivities.dedup rounds

/-- The agents are those of the activities that have said hello. -/
def getConnectedAgentIds (connector : SchedulerConnector) : List AgentId :=
  (connector.activityIdTokenMap.keys.filterMap connector.activityAgentMap.get?).dedup

/-- The startup time goes to the token of each activity. -/
def syncTime (connector : SchedulerConnector) : List Token := connector.activityIdTokenMap.values

/-- A protocol signal that is no core signal is reported as no signal. -/
def receive {Stream : Type} [Read Stream] (server : SocketServer Stream)
    (poll : PollAnswer Stream) :
    Panicking (Except Error (Option Signal) × SocketServer Stream) := do
  match ← server.receive poll with
  | (.ok (some (_, .core signal)), next) => return (.ok (some signal), next)
  | (.ok (some _), next) => return (.ok none, next)
  | (.ok none, next) => return (.ok none, next)
  | (.error error, next) => return (.error error, next)

def sendToActivity (connector : SchedulerConnector) (id : ActivityId) : Panicking Token :=
  match connector.activityIdTokenMap.get? id with
  | some token => .ok token
  | none => .error "failed to find token for activity ID"

/-- The unique tokens are one set collected from the values of the token map. -/
def broadcastTerminate (connector : SchedulerConnector)
    (uniqueTokens : Collected connector.activityIdTokenMap.values) (kind : IoErrorKind)
    (links : Links Token ProtocolSignal) (signal : Signal) :
    Except Error Unit × Links Token ProtocolSignal :=
  links.trySendEach (SocketServer.toError kind) (fun _ => .core signal) uniqueTokens.items

end SchedulerConnector

end Feo.Direct
