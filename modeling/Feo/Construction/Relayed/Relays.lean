import Feo.Construction.Mpsc.Endpoint
import Feo.Construction.Socket.Codec
import Feo.Foundation.HashMap

namespace Feo.Relayed

open Foundation

/-- The thread of a relay continues, forwards a core signal, or ends. -/
inductive Reaction where
  | again
  | forward (signal : Signal)
  | exit (result : Except Error Unit)
deriving DecidableEq

/-- One round of the `PrimaryReceiveRelay` reacts to the result of its receiver. -/
def primaryReceive : Except Error (Option ProtocolSignal) → Reaction
  | .ok (some (.core signal)) => .forward signal
  | .ok (some _) => .again
  | .ok none => .again
  | .error .channelClosed => .exit (.ok ())
  | .error (.io .connectionReset _) => .exit (.ok ())
  | .error error => .exit (.error error)

/-- One round of the `SecondarySendRelay` reacts to the result of its receiver. -/
def secondarySend : Except Error (Option Mpsc.ProtocolSignal) → Reaction
  | .ok (some (.core signal)) => .forward signal
  | .ok (some _) => .again
  | .ok none => .again
  | .error .channelClosed => .exit (.ok ())
  | .error _ => .again

/-- The thread of the `SecondaryReceiveRelay` waits for the startup time or ends. -/
inductive Synchronization where
  | again
  | initializeFrom (info : SyncInfo)
  | exit
deriving DecidableEq

def secondarySync : Except Error (Option ProtocolSignal) → Synchronization
  | .ok (some (.core (.startupSync info))) => .initializeFrom info
  | .ok _ => .again
  | .error _ => .exit

/-- After the synchronization the thread addresses one local worker, all of them, or none. -/
inductive Delivery where
  | again
  | send (worker : WorkerId) (signal : Signal)
  | broadcast (signal : Signal)
  | exit
deriving DecidableEq

/-- Lookup the worker of a targeted signal. -/
def sendToWorker (activityWorkerMap : HashMap ActivityId WorkerId) (id : ActivityId)
    (signal : Signal) : Delivery :=
  match activityWorkerMap.get? id with
  | none => .again
  | some worker => .send worker signal

/-- One round of the `SecondaryReceiveRelay` reacts to the result of its receiver. -/
def secondaryReceive (activityWorkerMap : HashMap ActivityId WorkerId) :
    Except Error (Option ProtocolSignal) → Delivery
  | .ok (some (.core (.startup id time))) =>
      sendToWorker activityWorkerMap id (.startup id time)
  | .ok (some (.core (.step id time))) => sendToWorker activityWorkerMap id (.step id time)
  | .ok (some (.core (.shutdown id time))) =>
      sendToWorker activityWorkerMap id (.shutdown id time)
  | .ok (some (.core (.terminate time))) => .broadcast (.terminate time)
  | .ok (some (.core (.startupSync info))) => .broadcast (.startupSync info)
  | .ok _ => .again
  | .error _ => .exit

end Feo.Relayed
