import Feo.Construction.Tracing.Perfetto

namespace Feo.Tracing

open Data (ThreadNameCache TraceRecord decodePacket)

/-- The connections send their packets between the start and the end of their process. -/
inductive Message where
  | exec (now : SystemTime) (process : Data.Process)
  | packet (pid : UInt32) (received : TracePacket) (threadCache : ThreadNameCache)
      (answer processName : Option (List Char))
  | exit (now : SystemTime) (pid : UInt32)

/-- The record of a message goes to the sink. -/
def Message.record : Message → Panicking (Except String TraceRecord)
  | .exec now process => .ok (.ok ⟨now, process, none, .exec⟩)
  | .packet pid received threadCache answer processName => do
      match ← decodePacket pid received threadCache answer processName with
      | .ok (record, _) => return .ok record
      | .error error => return .error error
  | .exit now pid => .ok (.ok ⟨now, ⟨pid, none⟩, none, .exit⟩)

/-- One message is decoded and processed. -/
def Perfetto.handle (perfetto : Perfetto) (message : Message) :
    Panicking (Except String Perfetto) := do
  match ← message.record with
  | .error error => return .error error
  | .ok record => perfetto.onPacket true record

/-- Process messages as they arrive until one fails. -/
def processPackets (perfetto : Perfetto) : List Message → Panicking (Except String Perfetto)
  | [] => .ok (.ok perfetto)
  | message :: rest => do
      match ← perfetto.handle message with
      | .error error => return .error error
      | .ok next => processPackets next rest

end Feo.Tracing
