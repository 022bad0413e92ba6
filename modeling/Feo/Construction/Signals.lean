import Feo.Construction.Ids
import Feo.Construction.Time

namespace Feo

/-- An activity reports the method in which it failed. -/
inductive ActivityError where
  | startup
  | step
  | shutdown
deriving DecidableEq

/-- Signal types sent between threads or processes. -/
inductive Signal where
  | startupSync (info : SyncInfo)
  | startup (id : ActivityId) (timestamp : Timestamp)
  | shutdown (id : ActivityId) (timestamp : Timestamp)
  | step (id : ActivityId) (timestamp : Timestamp)
  | ready (id : ActivityId) (timestamp : Timestamp)
  | activityFailed (id : ActivityId) (error : ActivityError)
  | terminate (timestamp : Timestamp)
  | terminateAck (id : AgentId)
deriving DecidableEq

/-- The operating system reports these kinds of input and output errors. -/
inductive IoErrorKind where
  | wouldBlock
  | connectionReset
  | notFound
  | timedOut
  | other
deriving DecidableEq

/-- The error of a connector or of the scheduler. -/
inductive Error where
  | activityFailed (id : ActivityId) (error : ActivityError)
  | activityNotFound (id : ActivityId)
  | channel (description : String)
  | channelClosed
  | channelNotFound (id : ChannelId)
  | io (kind : IoErrorKind) (description : String)
  | timeout (duration : Option Duration) (action : String)
  | unexpectedProtocolSignal
  | unexpectedSignal (signal : Signal)
  | workerNotFound (id : WorkerId)
deriving DecidableEq

end Feo
