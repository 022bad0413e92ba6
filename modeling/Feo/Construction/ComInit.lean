import Feo.Construction.Ids
import Feo.Construction.Time
import Feo.Foundation.HashMap
import Feo.Foundation.HashSet
import Feo.Foundation.Machine

namespace Feo.Com

open Foundation

/-- Describes the direction of the data flow for one topic of one component. -/
inductive Direction where
  | incoming
  | outgoing
deriving DecidableEq

/-- The peers of a topic are activities with their directions. -/
structure TopicSpecification where
  topic : String
  peers : List (ActivityId × Direction)

/-- Map from agent ids to lists of workers with their activities. -/
abbrev AgentAssignments := HashMap AgentId (List (WorkerId × List ActivityId))

/-- The primary initializes a topic with the number of its readers and writers. -/
structure TopicPrimaryInitialization where
  topic : String
  readers : Nat
  writers : Nat
  mapLocally : Bool
  isLocalWrite : Bool

structure TopicSecondaryInitialization where
  topic : String
  isLocalWrite : Bool

/-- These are the activities of all workers of one agent. -/
def workerActivities (workers : List (WorkerId × List ActivityId)) : HashSet ActivityId :=
  (collect (workers.flatMap Prod.snd)).toHashSet

/-- Find local activities of the given agent. -/
def localActivities (agentAssignments : AgentAssignments) (agentId : AgentId) :
    Panicking (HashSet ActivityId) :=
  match agentAssignments.get? agentId with
  | some workers => .ok (workerActivities workers)
  | none => .error s!"agent id Agt-{agentId.id} not found"

/-- Find remote activities of the given agent. -/
def remoteActivities (agentAssignments : AgentAssignments) (agentId : AgentId) :
    HashSet ActivityId :=
  (collect ((agentAssignments.iter.filter fun entry => decide (entry.1 ≠ agentId)).flatMap
    fun entry => entry.2.flatMap Prod.snd)).toHashSet

/-- A request is expected for each peer among the activities. -/
def peerRequests (activities : HashSet ActivityId) (topicSpecs : List TopicSpecification) : Nat :=
  (topicSpecs.flatMap fun spec => (spec.peers.map Prod.fst).filter fun activity =>
    decide (activity ∈ activities.items)).length

/-- Find the number of local connection requests to be expected from the given configuration. -/
def localRequests (agentAssignments : AgentAssignments) (agentId : AgentId)
    (topicSpecs : List TopicSpecification) : Panicking Nat := do
  let activities ← localActivities agentAssignments agentId
  return peerRequests activities topicSpecs

def usizeAdd (first second : Nat) : Panicking Nat :=
  if first + second < 2 ^ 64 then .ok (first + second) else .error "attempt to add with overflow"

def usizeMul (first second : Nat) : Panicking Nat :=
  if first * second < 2 ^ 64 then .ok (first * second)
  else .error "attempt to multiply with overflow"

/-- Each topic adds the number of additional subscribers to that of the remote peers. -/
def remoteRequests (agentAssignments : AgentAssignments) (agentId : AgentId)
    (topicSpecs : List TopicSpecification) (maxAdditionalSubscribers : UInt64) :
    Panicking Nat := do
  let numRequests := peerRequests (remoteActivities agentAssignments agentId) topicSpecs
  let maxAdditionalRequests ← usizeMul topicSpecs.length maxAdditionalSubscribers.toNat
  usizeAdd numRequests maxAdditionalRequests

/-- Determine if one of the given activities needs write access to the specified topic. -/
def isWrite (activities : HashSet ActivityId) (spec : TopicSpecification) : Bool :=
  (spec.peers.filter fun peer => decide (peer.1 ∈ activities.items)).any fun peer =>
    decide (peer.2 = .outgoing)

/-- Determine if the given agent needs write access to the specified topic. -/
def isLocalWrite (agentAssignments : AgentAssignments) (agentId : AgentId)
    (spec : TopicSpecification) : Panicking Bool := do
  let activities ← localActivities agentAssignments agentId
  return isWrite activities spec

/-- A topic is mapped for reading or writing, and the primary does not map all of its topics. -/
structure TopicMapping where
  writable : Bool
  mapped : Bool
deriving DecidableEq, Inhabited

/-- The service thread of a primary runtime is told the number of requests to serve. -/
structure ComRuntime where
  topics : HashMap String TopicMapping
  thread : Option Nat

namespace ComRuntime

def new : ComRuntime := ⟨HashMap.empty, none⟩

/-- Both roles register a topic once. -/
def register (com : ComRuntime) (topic : String) (mapping : TopicMapping) :
    Panicking ComRuntime :=
  if com.topics.containsKey topic then .error "COM topic already initialized"
  else .ok { com with topics := com.topics.insert topic mapping }

def initTopicPrimary (com : ComRuntime) (params : TopicPrimaryInitialization) :
    Panicking ComRuntime :=
  com.register params.topic ⟨params.isLocalWrite, params.mapLocally⟩

def runService (com : ComRuntime) (requestsToServe : Nat) : ComRuntime :=
  { com with thread := some requestsToServe }

end ComRuntime

/-- The additional readers extend the readers of a topic. -/
def primaryInitialization (agentAssignments : AgentAssignments) (agentId : AgentId)
    (activities : HashSet ActivityId) (maxAdditionalReaders : UInt64)
    (spec : TopicSpecification) : Panicking TopicPrimaryInitialization := do
  let writers := spec.peers.countP fun peer => decide (peer.2 = .outgoing)
  let readers ← usizeAdd (spec.peers.countP fun peer => decide (peer.2 = .incoming))
    maxAdditionalReaders.toNat
  let isLocalWrite ← isLocalWrite agentAssignments agentId spec
  let mapLocally := spec.peers.any fun peer => decide (peer.1 ∈ activities.items)
  return ⟨spec.topic, readers, writers, mapLocally, isLocalWrite⟩

/-- The primary initializes one topic after the other. -/
def initTopics (agentAssignments : AgentAssignments) (agentId : AgentId)
    (activities : HashSet ActivityId) (maxAdditionalReaders : UInt64) :
    List TopicSpecification → ComRuntime → Panicking ComRuntime
  | [], com => .ok com
  | spec :: rest, com => do
      let params ← primaryInitialization agentAssignments agentId activities
        maxAdditionalReaders spec
      let next ← com.initTopicPrimary params
      initTopics agentAssignments agentId activities maxAdditionalReaders rest next

/-- The service starts after the topics are initialized, and no one uses the local requests. -/
def initializeComPrimary (agentId : AgentId) (topicSpecs : List TopicSpecification)
    (agentAssignments : AgentAssignments) (maxAdditionalReaders : UInt64) :
    Panicking ComRuntime := do
  let _ ← localRequests agentAssignments agentId topicSpecs
  let numRemoteRequests ← remoteRequests agentAssignments agentId topicSpecs maxAdditionalReaders
  let activities ← localActivities agentAssignments agentId
  let com ← initTopics agentAssignments agentId activities maxAdditionalReaders topicSpecs .new
  return com.runService numRemoteRequests

/-- A secondary initializes all topics of its list one after the other. -/
def initializeComSecondary (topicSpecs : List TopicSpecification)
    (activities : HashSet ActivityId) : List TopicSecondaryInitialization :=
  topicSpecs.map fun spec => ⟨spec.topic, isWrite activities spec⟩

/-- A response is lost if the service cannot write it. -/
inductive Response where
  | ok
  | error (message : String)
  | lost
deriving DecidableEq

/-- The flag tells whether the connection is served successfully. -/
def ComRuntime.serveConnection (com : ComRuntime) (topic : String) (written : Bool) :
    Response × Bool :=
  match com.topics.get? topic, written with
  | some _, true => (.ok, true)
  | some _, false => (.lost, false)
  | none, true => (.error "topic not found", false)
  | none, false => (.lost, false)

/-- Only a response with the three lines of a mapping is valid. -/
def Response.check : Response → Panicking Unit
  | ok => .ok ()
  | error _ => .error "invalid response"
  | lost => .error "invalid response"

/-- A secondary maps each topic that it requests. -/
def ComRuntime.initTopicSecondary (com : ComRuntime) (params : TopicSecondaryInitialization)
    (response : Response) : Panicking ComRuntime := do
  response.check
  com.register params.topic ⟨params.isLocalWrite, true⟩

/-- A secondary has some topics left to initialize, or its initialization has panicked. -/
inductive Secondary where
  | initializing (com : ComRuntime) (pending : List TopicSecondaryInitialization)
  | panicked (message : String)

/-- The listener is open as long as there are requests to serve. -/
structure Service where
  com : ComRuntime
  requestsToServe : Nat
  secondaries : AgentId → Secondary

namespace Service

/-- A connection to the service fails, or a secondary makes its next request. -/
inductive Event where
  | acceptFailed
  | request (agent : AgentId) (written : Bool)

/-- The operating system refuses a connection without a listener. -/
def cannotConnect (topic : String) : String :=
  s!"can't connect to socket /tmp/score_feo.socket for topic {topic}: " ++
    "Connection refused (os error 111)"

/-- A secondary cannot connect after the listener is closed. -/
def request (service : Service) (agent : AgentId) (com : ComRuntime)
    (params : TopicSecondaryInitialization) (rest : List TopicSecondaryInitialization)
    (written : Bool) : Service :=
  if service.requestsToServe < 1 then
    { service with
      secondaries := Function.update service.secondaries agent
        (.panicked (cannotConnect params.topic)) }
  else
    let (response, served) := service.com.serveConnection params.topic written
    { service with
      requestsToServe :=
        if served then service.requestsToServe - 1 else service.requestsToServe
      secondaries := Function.update service.secondaries agent
        (match com.initTopicSecondary params response with
        | .ok next => .initializing next rest
        | .error message => .panicked message) }

def step (service : Service) : Event → Option Service
  | .acceptFailed => if service.requestsToServe < 1 then none else some service
  | .request agent written =>
      match service.secondaries agent with
      | .initializing com (params :: rest) => some (service.request agent com params rest written)
      | _ => none

def machine : Machine Service Event where
  step := step

end Service

/-- All agents of the assignments but the primary are secondaries. -/
def secondaryAgents (agentAssignments : AgentAssignments) (primary : AgentId) : List AgentId :=
  agentAssignments.keys.filter fun agent => decide (agent ≠ primary)

/-- Each secondary initializes the topics of the same list. -/
def secondaryTopics (agentAssignments : AgentAssignments) (primary : AgentId)
    (topicSpecs : List TopicSpecification) (agent : AgentId) :
    List TopicSecondaryInitialization :=
  if agent ∈ secondaryAgents agentAssignments primary then
    initializeComSecondary topicSpecs (workerActivities (agentAssignments.value agent))
  else []

/-- The requests of all secondaries are those that they issue together. -/
def issuedRequests (agentAssignments : AgentAssignments) (primary : AgentId)
    (topicSpecs : List TopicSpecification) : List (AgentId × String) :=
  (secondaryAgents agentAssignments primary).flatMap fun agent =>
    (secondaryTopics agentAssignments primary topicSpecs agent).map fun params =>
      (agent, params.topic)

/-- The secondaries start with an empty runtime each. -/
def Service.start (com : ComRuntime) (requestsToServe : Nat)
    (pending : AgentId → List TopicSecondaryInitialization) : Service :=
  ⟨com, requestsToServe, fun agent => .initializing .new (pending agent)⟩

end Feo.Com
