import Feo.Proof.Socket.Codec
import Feo.Proof.Socket.Reassembly
import Feo.Proof.Socket.Close
import Feo.Proof.Socket.Server
import Feo.Proof.Socket.Send
import Feo.Proof.Scheduler.Progress
import Feo.Proof.Scheduler.Protocol
import Feo.Proof.System.Announcement
import Feo.Proof.Connector.Broadcast
import Feo.Proof.Connector.Connect
import Feo.Proof.Connector.Agents
import Feo.Proof.Relayed.Losing
import Feo.Proof.Relayed.Network.Order
import Feo.Proof.Mpsc.Deadlock
import Feo.Proof.Time.Agreement
import Feo.Proof.Time.Synchronization
import Feo.Proof.Topic.Consistency
import Feo.Proof.Waiting
import Feo.Proof.Mpsc.Connect
import Feo.Proof.Socket.Acceptance
import Feo.Proof.Scheduler.Unscheduled
import Feo.Proof.Time.Cycle
import Feo.Proof.Guards.Sending
import Feo.Proof.Tracing.Truncate
import Feo.Proof.Tracing.Size
import Feo.Proof.Tracing.Survival
import Feo.Proof.Tracing.Conservation
import Feo.Proof.Tracing.Tracks
import Feo.Proof.Connector.Stream
import Feo.Proof.ComInit.Requests
import Feo.Proof.Dataflow.Determinism
import Feo.Proof.Relayed.Network.Refinement
import Feo.Proof.System.Liveness
import Feo.Proof.Tracing.Clients
import Feo.Proof.ComInit.Documented
import Feo.Proof.Connector.Handshake
import Feo.Proof.Socket.Link
