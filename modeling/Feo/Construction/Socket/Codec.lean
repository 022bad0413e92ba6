import Feo.Construction.Signals
import Feo.Foundation.Framing
import Feo.Foundation.LittleEndian

namespace Feo

open Foundation

/-- A message type has an encoder and a decoder. -/
class EncodeDecode (M : Type) where
  encode : M → List UInt8
  tryDecode : Decoder UInt8 M

/-- This type wraps the core signal and adds the signals of the socket implementation. -/
inductive ProtocolSignal where
  | core (signal : Signal)
  | activityHello (id : ActivityId)
  | channelHello (id : ChannelId)
deriving DecidableEq

/-- Tags for every signal to be used in encoding and decoding. -/
inductive SignalTag where
  | coreStartupSync
  | coreStartup
  | coreStep
  | coreShutdown
  | coreReady
  | coreActivityFailed
  | coreTerminate
  | coreTerminateAck
  | connectorActivityHello
  | connectorChannelActivityHello
  | connectorChannelWorkerHello
  | connectorChannelAgentHello
  | connectorChannelRelayHello
deriving DecidableEq

namespace SignalTag

def toByte : SignalTag → UInt8
  | coreStartupSync => 1
  | coreStartup => 21
  | coreStep => 22
  | coreShutdown => 23
  | coreReady => 24
  | coreActivityFailed => 27
  | coreTerminate => 25
  | coreTerminateAck => 26
  | connectorActivityHello => 31
  | connectorChannelActivityHello => 33
  | connectorChannelWorkerHello => 34
  | connectorChannelAgentHello => 35
  | connectorChannelRelayHello => 36

/-- The match has no arm for `connectorChannelRelayHello`. -/
def tryFrom (value : UInt8) : Except UInt8 SignalTag :=
  if value = coreStartupSync.toByte then .ok coreStartupSync
  else if value = coreStartup.toByte then .ok coreStartup
  else if value = coreStep.toByte then .ok coreStep
  else if value = coreShutdown.toByte then .ok coreShutdown
  else if value = coreReady.toByte then .ok coreReady
  else if value = coreActivityFailed.toByte then .ok coreActivityFailed
  else if value = coreTerminate.toByte then .ok coreTerminate
  else if value = coreTerminateAck.toByte then .ok coreTerminateAck
  else if value = connectorActivityHello.toByte then .ok connectorActivityHello
  else if value = connectorChannelActivityHello.toByte then .ok connectorChannelActivityHello
  else if value = connectorChannelWorkerHello.toByte then .ok connectorChannelWorkerHello
  else if value = connectorChannelAgentHello.toByte then .ok connectorChannelAgentHello
  else .error value

end SignalTag

/-- The error code on the wire. -/
def ActivityError.toU8 : ActivityError → Nat
  | startup => 0
  | step => 1
  | shutdown => 2

def ActivityError.fromU8 (value : Nat) : Panicking ActivityError :=
  match value with
  | 0 => .ok startup
  | 1 => .ok step
  | 2 => .ok shutdown
  | _ => .error "Invalid u8 value for ActivityError"

/-- The number of an identifier on the wire. -/
def GenericId.toU64 {Marker : Type} (id : GenericId Marker) : Nat := id.id.toNat

def GenericId.fromU64 {Marker : Type} (value : Nat) : Panicking (GenericId Marker) :=
  .ok ⟨UInt64.ofNat value⟩

/-- The number of bytes of a `u8`, a `u64`, and a `u128`. -/
def sizeOfU8 : Nat := 1
def sizeOfU64 : Nat := 8
def sizeOfU128 : Nat := 16

/-- A frame has one tag byte, one length byte, and the fields with their sizes. -/
def encodeData (tag : SignalTag) (fields : List (Nat × Nat)) : List UInt8 :=
  tag.toByte :: UInt8.ofNat (fields.map Prod.fst).sum ::
    fields.flatMap fun field => toLeBytes field.1 field.2

/-- The payload decoder of one wrapped item. -/
def decodeOne {Item : Type} (source : List UInt8) (size : Nat) (convert : Nat → Panicking Item)
    (wrap : Item → ProtocolSignal) : Panicking (Option (ProtocolSignal × Nat)) :=
  if source.length < size then .error "range end index out of range for slice" else do
    let value ← convert (fromLeBytes (source.take size))
    return some (wrap value, 2 + size)

/-- The payload decoder of a wrapped pair. -/
def decodeTwo {First Second : Type} (source : List UInt8) (firstSize : Nat)
    (convertFirst : Nat → Panicking First) (secondSize : Nat)
    (convertSecond : Nat → Panicking Second) (wrap : First → Second → ProtocolSignal) :
    Panicking (Option (ProtocolSignal × Nat)) :=
  if source.length < firstSize + secondSize then
    .error "range end index out of range for slice"
  else do
    let data := source.take (firstSize + secondSize)
    let first ← convertFirst (fromLeBytes (data.take firstSize))
    let second ← convertSecond (fromLeBytes (data.drop firstSize))
    return some (wrap first second, 2 + firstSize + secondSize)

namespace ProtocolSignal

/-- The writer receives these bytes. -/
def encode : ProtocolSignal → List UInt8
  | core (.startupSync info) => encodeData .coreStartupSync [(sizeOfU128, info.toU128)]
  | core (.startup id timestamp) =>
      encodeData .coreStartup [(sizeOfU64, id.toU64), (sizeOfU128, timestamp.toU128)]
  | core (.step id timestamp) =>
      encodeData .coreStep [(sizeOfU64, id.toU64), (sizeOfU128, timestamp.toU128)]
  | core (.shutdown id timestamp) =>
      encodeData .coreShutdown [(sizeOfU64, id.toU64), (sizeOfU128, timestamp.toU128)]
  | core (.ready id timestamp) =>
      encodeData .coreReady [(sizeOfU64, id.toU64), (sizeOfU128, timestamp.toU128)]
  | core (.activityFailed id error) =>
      encodeData .coreActivityFailed [(sizeOfU64, id.toU64), (sizeOfU8, error.toU8)]
  | core (.terminate timestamp) => encodeData .coreTerminate [(sizeOfU128, timestamp.toU128)]
  | core (.terminateAck id) => encodeData .coreTerminateAck [(sizeOfU64, id.toU64)]
  | activityHello id => encodeData .connectorActivityHello [(sizeOfU64, id.toU64)]
  | channelHello (.activity id) =>
      encodeData .connectorChannelActivityHello [(sizeOfU64, id.toU64)]
  | channelHello (.worker id) => encodeData .connectorChannelWorkerHello [(sizeOfU64, id.toU64)]
  | channelHello (.agent id) => encodeData .connectorChannelAgentHello [(sizeOfU64, id.toU64)]
  | channelHello (.relay id) => encodeData .connectorChannelRelayHello [(sizeOfU64, id.toU64)]

/-- Each tag selects the sizes, the conversions, and the wrapper of its payload. -/
def decodePayload (tag : SignalTag) (source : List UInt8) :
    Panicking (Option (ProtocolSignal × Nat)) :=
  match tag with
  | .coreStartupSync =>
      decodeOne source sizeOfU128 SyncInfo.fromU128 fun info => core (.startupSync info)
  | .coreStartup =>
      decodeTwo source sizeOfU64 GenericId.fromU64 sizeOfU128 Timestamp.fromU128
        fun id timestamp => core (.startup id timestamp)
  | .coreStep =>
      decodeTwo source sizeOfU64 GenericId.fromU64 sizeOfU128 Timestamp.fromU128
        fun id timestamp => core (.step id timestamp)
  | .coreShutdown =>
      decodeTwo source sizeOfU64 GenericId.fromU64 sizeOfU128 Timestamp.fromU128
        fun id timestamp => core (.shutdown id timestamp)
  | .coreReady =>
      decodeTwo source sizeOfU64 GenericId.fromU64 sizeOfU128 Timestamp.fromU128
        fun id timestamp => core (.ready id timestamp)
  | .coreActivityFailed =>
      decodeTwo source sizeOfU64 GenericId.fromU64 sizeOfU8 ActivityError.fromU8
        fun id error => core (.activityFailed id error)
  | .coreTerminate =>
      decodeOne source sizeOfU128 Timestamp.fromU128 fun timestamp => core (.terminate timestamp)
  | .coreTerminateAck =>
      decodeOne source sizeOfU64 GenericId.fromU64 fun id => core (.terminateAck id)
  | .connectorActivityHello => decodeOne source sizeOfU64 GenericId.fromU64 activityHello
  | .connectorChannelActivityHello =>
      decodeOne source sizeOfU64 GenericId.fromU64 fun id => channelHello (.activity id)
  | .connectorChannelWorkerHello =>
      decodeOne source sizeOfU64 GenericId.fromU64 fun id => channelHello (.worker id)
  | .connectorChannelAgentHello =>
      decodeOne source sizeOfU64 GenericId.fromU64 fun id => channelHello (.agent id)
  | .connectorChannelRelayHello =>
      decodeOne source sizeOfU64 GenericId.fromU64 fun id => channelHello (.relay id)

/-- The decoder waits for the header and for the declared length before it reads the tag. -/
def tryDecode : List UInt8 → Panicking (Option (ProtocolSignal × Nat))
  | typeId :: length :: payload =>
      if payload.length < length.toNat then .ok none else
        match SignalTag.tryFrom typeId with
        | .ok tag => decodePayload tag (payload.take length.toNat)
        | .error other => .error ("failed to parse unknown type ID " ++ toString other.toNat)
  | _ => .ok none

instance : EncodeDecode ProtocolSignal := ⟨encode, tryDecode⟩

end ProtocolSignal

end Feo
