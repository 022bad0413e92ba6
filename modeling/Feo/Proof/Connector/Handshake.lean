import Feo.Proof.Connector.Exchange

namespace Feo.MwCom

open Foundation

/-- A subscription keeps the samples that are not received yet. -/
structure Subscription where
  samples : Option Nat
  undelivered : List MwComSignal

variable {Topic : Type} {api : ComApi Topic} {view : Topic → Subscription} {topic rest : Topic}
  {capacity : Nat} {signal : MwComSignal}

/-- The library delivers the samples of a subscribed topic in order as long as they fit. -/
structure Documented (api : ComApi Topic) (view : Topic → Subscription) : Prop where
  offered : view api.offered = ⟨none, []⟩
  subscribe : ∀ topic samples, view topic = ⟨none, []⟩ → ∃ subscribed,
    api.subscribe topic samples = some subscribed ∧ view subscribed = ⟨some samples, []⟩
  send : ∀ topic signal samples undelivered, view topic = ⟨some samples, undelivered⟩ →
    undelivered.length < samples → ∃ sent,
      api.send topic signal = some sent ∧ view sent = ⟨some samples, undelivered ++ [signal]⟩
  deliver : ∀ topic signal samples undelivered,
    view topic = ⟨some samples, signal :: undelivered⟩ → ∃ rest,
      api.next topic = some (signal, rest) ∧ view rest = ⟨some samples, undelivered⟩
  wait : ∀ topic samples, view topic = ⟨some samples, []⟩ → api.next topic = none

namespace Documented

/-- A send to a subscribed topic with room succeeds. -/
theorem sent (documented : Documented api view) (subscribed : (view topic).samples = some capacity)
    (room : (view topic).undelivered.length < capacity) (signal : MwComSignal) : ∃ sent,
      api.send topic signal = some sent ∧
        view sent = ⟨some capacity, (view topic).undelivered ++ [signal]⟩ :=
  documented.send topic signal capacity _ (by rw [← subscribed]) room

/-- The received signal is the oldest one. -/
theorem received (documented : Documented api view)
    (subscribed : (view topic).samples = some capacity)
    (taken : api.next topic = some (signal, rest)) :
      (view topic).undelivered = signal :: (view rest).undelivered ∧
        (view rest).samples = some capacity := by
  have shown : view topic = ⟨some capacity, (view topic).undelivered⟩ := by rw [← subscribed]
  cases undelivered : (view topic).undelivered with
  | nil =>
      rw [undelivered] at shown
      rw [documented.wait topic capacity shown] at taken
      cases taken
  | cons first later =>
      rw [undelivered] at shown
      obtain ⟨next, delivered, kept⟩ := documented.deliver topic first capacity later shown
      obtain ⟨rfl, rfl⟩ := Prod.mk.inj (Option.some.inj (delivered.symm.trans taken))
      rw [kept]
      exact ⟨rfl, rfl⟩

end Documented

/-- The scheduler is not subscribed to these agents yet. -/
def ConnectRemotes.unsubscribed : ConnectRemotes → List AgentId
  | creating agents => agents
  | _ => []

/-- A worker is subscribed with ten samples as soon as it has a consumer. -/
def ConnectRemote.samples : ConnectRemote → Option Nat
  | creating _ => none
  | _ => some 10

/-- Each subscription takes a step, and so does the offer of the producers. -/
def ConnectRemotes.subscriptions : ConnectRemotes → Nat
  | creating agents => agents.length + 1
  | _ => 0

def ConnectRemote.subscriptions : ConnectRemote → Nat
  | creating _ => 1
  | _ => 0

theorem ConnectRemotes.unsubscribed_of_offers {scheduler : ConnectRemotes}
    (offers : scheduler.offers = true) :
    scheduler.unsubscribed = [] ∧ scheduler.subscriptions = 0 := by
  cases scheduler with
  | creating agents => cases offers
  | _ => exact ⟨rfl, rfl⟩

theorem ConnectRemote.subscriptions_of_samples {connector : ConnectRemote}
    (subscribed : connector.samples = some 10) : connector.subscriptions = 0 := by
  cases connector with
  | creating activityIds => cases subscribed
  | _ => rfl

/-- A worker without a consumer is the only one that is not subscribed. -/
theorem ConnectRemote.samples_eq {connector : ConnectRemote}
    (created : ∀ activityIds, connector ≠ .creating activityIds) : connector.samples = some 10 := by
  cases connector with
  | creating activityIds => exact absurd rfl (created activityIds)
  | _ => rfl

namespace Handshake

variable {agentAssignments : List (AgentId × List WorkerWithActivities)} {agent : AgentId}
  {worker : WorkerWithActivities} {handshake next : Handshake Topic}

/-- Each search for a topic finds it in time. -/
def Event.InTime : Event → Prop
  | subscribe found => found = true
  | discover _ found => found = true
  | _ => True

/-- All activities are missing until the producers are offered. -/
def misses (agentAssignments : List (AgentId × List WorkerWithActivities)) :
    ConnectRemotes → ConnectRemotes
  | .creating _ => (Exchange.start agentAssignments).scheduler
  | scheduler => scheduler

/-- The signals on their way are those that the subscriptions keep. -/
def exchange (agentAssignments : List (AgentId × List WorkerWithActivities))
    (view : Topic → Subscription) (handshake : Handshake Topic) : Exchange where
  scheduler := misses agentAssignments handshake.scheduler
  agentsInput := fun agent => (view (handshake.agentsInput agent)).undelivered
  schedulerInput := fun worker => (view (handshake.schedulerInput worker)).undelivered
  workers := fun worker => Exchange.subscribed (handshake.workers worker)

/-- No worker has a consumer before the scheduler is subscribed to every agent. -/
structure Prepared (agentAssignments : List (AgentId × List WorkerWithActivities))
    (view : Topic → Subscription) (handshake : Handshake Topic) : Prop where
  agents : ∀ agent ∈ agentAssignments.map Prod.fst,
    (view (handshake.agentsInput agent)).samples =
      if agent ∈ handshake.scheduler.unsubscribed then none else some 10
  workers : ∀ worker ∈ agentAssignments.flatMap Prod.snd,
    (view (handshake.schedulerInput worker.1)).samples = (handshake.workers worker.1).samples
  creating : ∀ number activityIds, handshake.workers number = .creating activityIds →
    (number, activityIds) ∈ agentAssignments.flatMap Prod.snd
  offers : ∀ agents, handshake.scheduler = .creating agents →
    agents <:+ agentAssignments.map Prod.fst ∧
      ∀ worker ∈ agentAssignments.flatMap Prod.snd,
        handshake.workers worker.1 = .creating worker.2

/-- The steps that are left of a handshake. -/
def pending (agentAssignments : List (AgentId × List WorkerWithActivities))
    (view : Topic → Subscription) (handshake : Handshake Topic) : Nat :=
  (handshake.exchange agentAssignments view).pending agentAssignments +
    ((((agentAssignments.flatMap Prod.snd).map Prod.fst).map fun number =>
      (handshake.workers number).subscriptions).sum + handshake.scheduler.subscriptions)

/-- A step keeps the order of the signals and leaves one step less. -/
structure Advance (agentAssignments : List (AgentId × List WorkerWithActivities))
    (view : Topic → Subscription) (handshake next : Handshake Topic) : Prop where
  prepared : Prepared agentAssignments view next
  orderly : (next.exchange agentAssignments view).Orderly agentAssignments
  pending : next.pending agentAssignments view + 1 = handshake.pending agentAssignments view

/-- A change of one topic changes the signals of one channel. -/
theorem undelivered_update {Key : Type} [DecidableEq Key] (topics : Key → Topic) (key : Key)
    (topic : Topic) :
    (fun other => (view (Function.update topics key topic other)).undelivered) =
      Function.update (fun other => (view (topics other)).undelivered) key
        (view topic).undelivered :=
  Function.comp_update (fun topic => (view topic).undelivered) topics key topic

theorem subscribed_update (workers : WorkerId → ConnectRemote) (number : WorkerId)
    (connector : ConnectRemote) :
    (fun other => Exchange.subscribed (Function.update workers number connector other)) =
      Function.update (fun other => Exchange.subscribed (workers other)) number
        (Exchange.subscribed connector) :=
  Function.comp_update Exchange.subscribed workers number connector

theorem samples_update {Key : Type} [DecidableEq Key] {topics : Key → Topic} {key : Key}
    (kept : (view topic).samples = (view (topics key)).samples) (other : Key) :
    (view (Function.update topics key topic other)).samples = (view (topics other)).samples := by
  by_cases same : other = key
  · subst same
    rw [Function.update_self, kept]
  · rw [Function.update_of_ne same]

theorem workers_update {workers : WorkerId → ConnectRemote} {number : WorkerId}
    {connector : ConnectRemote} (before : (workers number).samples = some 10)
    (after : connector.samples = some 10) (other : WorkerId) :
    Function.update workers number connector other = workers other ∨
      (Function.update workers number connector other).samples = some 10 ∧
        (workers other).samples = some 10 := by
  by_cases same : other = number
  · subst same
    rw [Function.update_self]
    exact .inr ⟨after, before⟩
  · exact .inl (Function.update_of_ne same ..)

/-- A step after the offer keeps all subscriptions. -/
structure Proceeds (view : Topic → Subscription) (handshake next : Handshake Topic) : Prop where
  offers : handshake.scheduler.offers = true
  offered : next.scheduler.offers = true
  agents : ∀ agent, (view (next.agentsInput agent)).samples =
    (view (handshake.agentsInput agent)).samples
  inputs : ∀ number, (view (next.schedulerInput number)).samples =
    (view (handshake.schedulerInput number)).samples
  workers : ∀ number, next.workers number = handshake.workers number ∨
    (next.workers number).samples = some 10 ∧ (handshake.workers number).samples = some 10

theorem Proceeds.subscriptions (proceeds : Proceeds view handshake next) (number : WorkerId) :
    (next.workers number).subscriptions = (handshake.workers number).subscriptions := by
  rcases proceeds.workers number with same | ⟨after, before⟩
  · rw [same]
  · rw [ConnectRemote.subscriptions_of_samples after, ConnectRemote.subscriptions_of_samples before]

theorem Proceeds.prepared (proceeds : Proceeds view handshake next)
    (prepared : Prepared agentAssignments view handshake) :
    Prepared agentAssignments view next where
  agents agent member := by
    rw [proceeds.agents agent, prepared.agents agent member,
      (ConnectRemotes.unsubscribed_of_offers proceeds.offers).1,
      (ConnectRemotes.unsubscribed_of_offers proceeds.offered).1]
  workers worker assigned := by
    rw [proceeds.inputs worker.1, prepared.workers worker assigned]
    rcases proceeds.workers worker.1 with same | ⟨after, before⟩
    · rw [same]
    · rw [after, before]
  creating number activityIds created := by
    rcases proceeds.workers number with same | ⟨after, -⟩
    · exact prepared.creating number activityIds (same ▸ created)
    · rw [created] at after
      cases after
  offers agents created := by
    have offered := proceeds.offered
    rw [created] at offered
    cases offered

/-- A step of the exchange is a step of the handshake. -/
theorem Proceeds.advance (once : AssignedOnce agentAssignments)
    (proceeds : Proceeds view handshake next)
    (prepared : Prepared agentAssignments view handshake)
    (orderly : (handshake.exchange agentAssignments view).Orderly agentAssignments)
    (event : Exchange.Event)
    (stepped : Exchange.step agentAssignments (handshake.exchange agentAssignments view) event =
      some (next.exchange agentAssignments view)) :
    Advance agentAssignments view handshake next where
  prepared := proceeds.prepared prepared
  orderly := Exchange.orderly_step once orderly event stepped
  pending := by
    have spent := Exchange.pending_step once orderly event stepped
    simp only [pending, proceeds.subscriptions,
      (ConnectRemotes.unsubscribed_of_offers proceeds.offers).2,
      (ConnectRemotes.unsubscribed_of_offers proceeds.offered).2]
    omega

/-- The scheduler offers the producers before a worker has a consumer. -/
theorem Prepared.offered (prepared : Prepared agentAssignments view handshake)
    (orderly : (handshake.exchange agentAssignments view).Orderly agentAssignments)
    (assigned : worker ∈ agentAssignments.flatMap Prod.snd)
    (subscribed : (handshake.workers worker.1).samples = some 10) :
    handshake.scheduler.offers = true := by
  have sound := orderly.sound
  cases scheduler : handshake.scheduler with
  | creating agents =>
      rw [(prepared.offers agents scheduler).2 worker assigned] at subscribed
      cases subscribed
  | panicked message =>
      simp only [exchange, scheduler] at sound
      exact sound.elim
  | _ => rfl

theorem Prepared.agent_samples (prepared : Prepared agentAssignments view handshake)
    (offers : handshake.scheduler.offers = true) (member : agent ∈ agentAssignments.map Prod.fst) :
    (view (handshake.agentsInput agent)).samples = some 10 := by
  rw [prepared.agents agent member, (ConnectRemotes.unsubscribed_of_offers offers).1]
  exact if_neg List.not_mem_nil

/-- A worker sends the hello of its next activity. -/
theorem advance_hello (once : AssignedOnce agentAssignments) (documented : Documented api view)
    (fits : ∀ agent workers, (agent, workers) ∈ agentAssignments → workers.length ≤ 10)
    (prepared : Prepared agentAssignments view handshake)
    (orderly : (handshake.exchange agentAssignments view).Orderly agentAssignments)
    (hosts : Hosts agentAssignments agent worker) {id : ActivityId} {later : List ActivityId}
    (sends : handshake.workers worker.1 = .hello (id :: later)) :
    Advance agentAssignments view handshake (handshake.sendHello api agent worker.1 id later) := by
  have subscribed : (handshake.workers worker.1).samples = some 10 := by rw [sends]; rfl
  have offers := prepared.offered orderly hosts.assigned subscribed
  have shown : (handshake.exchange agentAssignments view).workers worker.1 =
      .hello (id :: later) := congrArg Exchange.subscribed sends
  have hosted := hosts
  obtain ⟨workers, entry, member⟩ := hosted
  have after := (Exchange.orderly_hello once orderly hosts shown).agentsInput_length once entry
  simp only [Function.update_self, List.length_append, List.length_singleton] at after
  have room := after.trans (fits agent workers entry)
  obtain ⟨topic, sent, kept⟩ := documented.sent (prepared.agent_samples offers hosts.agent_mem)
    room (.activityHello id)
  rw [sendHello, sent]
  apply Proceeds.advance once ?_ prepared orderly (.hello worker.1)
  · simp only [Exchange.step, once.agentOf_eq hosts, shown]
    simp only [exchange, undelivered_update, subscribed_update, kept]
    rfl
  · refine ⟨offers, offers, ?_, fun _ => rfl, workers_update subscribed rfl⟩
    apply samples_update
    rw [kept, prepared.agent_samples offers hosts.agent_mem]

/-- A worker that waits has a consumer. -/
theorem waiting_of_exchange {number : WorkerId} {id : ActivityId} {later : List ActivityId}
    (waits : (handshake.exchange agentAssignments view).workers number = .waiting id later) :
    handshake.workers number = .waiting id later := by
  cases connector : handshake.workers number with
  | waiting other rest =>
      simp only [exchange, connector] at waits
      exact waits
  | _ =>
      simp only [exchange, connector] at waits
      cases waits

/-- A send of the scheduler to a subscribed worker succeeds. -/
theorem push_eq (documented : Documented api view) (handshake : Handshake Topic)
    {number : WorkerId}
    (subscribed : (view (handshake.schedulerInput number)).samples = some 10)
    (room : (view (handshake.schedulerInput number)).undelivered.length < 10)
    (signal : MwComSignal) (scheduler : ConnectRemotes) : ∃ topic,
      view topic = ⟨some 10, (view (handshake.schedulerInput number)).undelivered ++ [signal]⟩ ∧
        handshake.push api number signal scheduler =
          { handshake with
            schedulerInput := Function.update handshake.schedulerInput number topic
            scheduler := scheduler } := by
  obtain ⟨topic, sent, kept⟩ := documented.sent subscribed room signal
  exact ⟨topic, kept, by rw [push, sent]⟩

/-- The scheduler takes a hello and confirms it. -/
theorem advance_next (once : AssignedOnce agentAssignments) (documented : Documented api view)
    (prepared : Prepared agentAssignments view handshake)
    (orderly : (handshake.exchange agentAssignments view).Orderly agentAssignments)
    {first : ActivityId} {missing : List ActivityId}
    (connecting : handshake.scheduler = .connecting (first :: missing))
    (member : agent ∈ agentAssignments.map Prod.fst)
    (taken : api.next (handshake.agentsInput agent) = some (signal, topic)) :
    Advance agentAssignments view handshake (connect agentAssignments api
      { handshake with agentsInput := Function.update handshake.agentsInput agent topic }
      (first :: missing) signal) := by
  have offers : handshake.scheduler.offers = true := by rw [connecting]; rfl
  have subscribed := prepared.agent_samples offers member
  obtain ⟨head, kept⟩ := documented.received subscribed taken
  have shown : (handshake.exchange agentAssignments view).agentsInput agent =
      signal :: (view topic).undelivered := head
  obtain ⟨worker, id, later, hosts, waits, rfl, suffix, misses, empty, acquired⟩ :=
    orderly.head once shown
  have waiting := waiting_of_exchange waits
  have input : (view (handshake.schedulerInput worker.1)).samples = some 10 := by
    rw [prepared.workers worker hosts.assigned, waiting]
    rfl
  have vacant : (view (handshake.schedulerInput worker.1)).undelivered = [] := empty
  have room : (view (handshake.schedulerInput worker.1)).undelivered.length < 10 := by
    rw [vacant]
    exact Nat.zero_lt_succ 9
  obtain ⟨confirmed, held, pushed⟩ := push_eq documented
    { handshake with agentsInput := Function.update handshake.agentsInput agent topic } input room
    .activityHelloAcquired (.connecting ((first :: missing).erase id))
  rw [connect, acquired]
  dsimp only
  rw [pushed]
  apply Proceeds.advance once ?_ prepared orderly (.next agent)
  · have scheduler : (handshake.exchange agentAssignments view).scheduler =
        .connecting (first :: missing) := by
      simp only [exchange, connecting]
      rfl
    simp only [Exchange.step, scheduler, shown, Exchange.connect, acquired, Exchange.push]
    simp only [exchange, undelivered_update, held]
    rfl
  · refine ⟨offers, rfl, samples_update (kept.trans subscribed.symm), ?_, fun _ => .inl rfl⟩
    apply samples_update
    rw [held, input]

/-- A worker that waits takes its confirmation. -/
theorem advance_confirmation (once : AssignedOnce agentAssignments)
    (documented : Documented api view) (prepared : Prepared agentAssignments view handshake)
    (orderly : (handshake.exchange agentAssignments view).Orderly agentAssignments)
    {number : WorkerId} {id : ActivityId} {later : List ActivityId}
    (waits : handshake.workers number = .waiting id later)
    (taken : api.next (handshake.schedulerInput number) = some (signal, topic)) :
    Advance agentAssignments view handshake (handshake.confirm number later topic signal) := by
  have waiting : (handshake.exchange agentAssignments view).workers number = .waiting id later :=
    congrArg Exchange.subscribed waits
  have busy : (handshake.exchange agentAssignments view).workers number ≠ .hello [] := by
    simp [waiting]
  obtain ⟨agent, worker, hosts, rfl⟩ := orderly.hosted busy
  have consumer : (handshake.workers worker.1).samples = some 10 := by rw [waits]; rfl
  have subscribed : (view (handshake.schedulerInput worker.1)).samples = some 10 := by
    rw [prepared.workers worker hosts.assigned, consumer]
  obtain ⟨head, kept⟩ := documented.received subscribed taken
  have shown : (handshake.exchange agentAssignments view).schedulerInput worker.1 =
      signal :: (view topic).undelivered := head
  have offers := prepared.offered orderly hosts.assigned consumer
  have answered : Exchange.subscribed (if signal = .activityHelloAcquired then .hello later
      else .unexpected signal) = if signal = .activityHelloAcquired then .hello later
        else .unexpected signal := by
    split <;> rfl
  apply Proceeds.advance once ?_ prepared orderly (.confirmation worker.1)
  · simp only [Exchange.step, waiting, shown, Exchange.confirm]
    simp only [exchange, confirm, undelivered_update, subscribed_update, answered]
  · refine ⟨offers, offers, fun _ => rfl, samples_update (kept.trans subscribed.symm), ?_⟩
    apply workers_update consumer
    split <;> rfl

/-- The scheduler is connected and begins to send the startup time. -/
theorem advance_syncTime (once : AssignedOnce agentAssignments)
    (prepared : Prepared agentAssignments view handshake)
    (orderly : (handshake.exchange agentAssignments view).Orderly agentAssignments)
    (connected : handshake.scheduler = .connecting []) (info : SyncInfo) :
    Advance agentAssignments view handshake { handshake with
      scheduler := .syncing info (SchedulerConnector.new agentAssignments).syncTime } := by
  apply Proceeds.advance once ?_ prepared orderly (.syncTime info)
  · simp only [Exchange.step, exchange, connected]
    rfl
  · exact ⟨by rw [connected]; rfl, rfl, fun _ => rfl, fun _ => rfl, fun _ => .inl rfl⟩

/-- A worker without a consumer leaves its activities missing. -/
theorem Prepared.missed (prepared : Prepared agentAssignments view handshake)
    (orderly : (handshake.exchange agentAssignments view).Orderly agentAssignments)
    (active : ∀ worker ∈ agentAssignments.flatMap Prod.snd, worker.2 ≠ [])
    {number : WorkerId} {activityIds : List ActivityId}
    (created : handshake.workers number = .creating activityIds) :
    ∃ id, id ∈ (handshake.exchange agentAssignments view).scheduler.missing := by
  have assigned := prepared.creating number activityIds created
  obtain ⟨agent, hosts⟩ := hosts_of_assigned assigned
  have stage := orderly.stage agent _ hosts
  have shown : (handshake.exchange agentAssignments view).workers number = .hello activityIds :=
    congrArg Exchange.subscribed created
  rw [shown] at stage
  obtain ⟨id, own⟩ := List.exists_mem_of_ne_nil _ (active _ assigned)
  exact ⟨id, (stage.2.1 id own).mpr own⟩

/-- The startup time follows the confirmations. -/
theorem advance_publish (once : AssignedOnce agentAssignments) (documented : Documented api view)
    (active : ∀ worker ∈ agentAssignments.flatMap Prod.snd, worker.2 ≠ [])
    (prepared : Prepared agentAssignments view handshake)
    (orderly : (handshake.exchange agentAssignments view).Orderly agentAssignments)
    {info : SyncInfo} {number : WorkerId} {remaining : List WorkerId}
    (syncing : handshake.scheduler = .syncing info (number :: remaining)) :
    Advance agentAssignments view handshake (handshake.push api number
      (.core (.startupSync info)) (.syncing info remaining)) := by
  have shown : (handshake.exchange agentAssignments view).scheduler =
      .syncing info (number :: remaining) := by
    simp only [exchange, syncing]
    rfl
  have sound := orderly.sound
  rw [shown] at sound
  obtain ⟨worker, assigned, rfl⟩ := List.mem_map.mp (sound.2 List.mem_cons_self)
  obtain ⟨agent, hosts⟩ := hosts_of_assigned assigned
  have consumer : (handshake.workers worker.1).samples = some 10 := by
    apply ConnectRemote.samples_eq
    intro activityIds created
    obtain ⟨id, missed⟩ := prepared.missed orderly active created
    rw [shown] at missed
    cases missed
  have subscribed : (view (handshake.schedulerInput worker.1)).samples = some 10 := by
    rw [prepared.workers worker assigned, consumer]
  have after := (Exchange.orderly_publish orderly shown).schedulerInput_length hosts
  simp only [Exchange.push, Function.update_self, List.length_append,
    List.length_singleton] at after
  have room : (view (handshake.schedulerInput worker.1)).undelivered.length < 10 :=
    after.trans (by decide)
  obtain ⟨topic, held, pushed⟩ := push_eq documented handshake subscribed room
    (.core (.startupSync info)) (.syncing info remaining)
  rw [pushed]
  apply Proceeds.advance once ?_ prepared orderly .publish
  · simp only [Exchange.step, shown, Exchange.push]
    simp only [exchange, undelivered_update, held]
    rfl
  · refine ⟨by rw [syncing]; rfl, rfl, fun _ => rfl, ?_, fun _ => .inl rfl⟩
    apply samples_update
    rw [held, subscribed]

/-- A subscription leaves the signals as they are. -/
theorem advance_of_subscription
    (orderly : (handshake.exchange agentAssignments view).Orderly agentAssignments)
    (prepared : Prepared agentAssignments view next)
    (same : next.exchange agentAssignments view = handshake.exchange agentAssignments view)
    (subscribed : (((agentAssignments.flatMap Prod.snd).map Prod.fst).map fun number =>
        (next.workers number).subscriptions).sum + next.scheduler.subscriptions + 1 =
      (((agentAssignments.flatMap Prod.snd).map Prod.fst).map fun number =>
        (handshake.workers number).subscriptions).sum + handshake.scheduler.subscriptions) :
    Advance agentAssignments view handshake next where
  prepared := prepared
  orderly := by rw [same]; exact orderly
  pending := by
    simp only [pending, same]
    omega

/-- A subscribed topic keeps no signal at first. -/
theorem createConsumer_eq (documented : Documented api view)
    (unsubscribed : view topic = ⟨none, []⟩) (name : String) : ∃ subscribed,
      createConsumer api name topic true = .ok subscribed ∧ view subscribed = ⟨some 10, []⟩ := by
  obtain ⟨subscribed, found, empty⟩ := documented.subscribe topic 10 unsubscribed
  refine ⟨subscribed, ?_, empty⟩
  simp only [createConsumer, if_true, found]

/-- The scheduler subscribes to an agent. -/
theorem advance_subscribe (once : AssignedOnce agentAssignments)
    (documented : Documented api view) (prepared : Prepared agentAssignments view handshake)
    (orderly : (handshake.exchange agentAssignments view).Orderly agentAssignments)
    {agents : List AgentId} (creating : handshake.scheduler = .creating (agent :: agents)) :
    Advance agentAssignments view handshake (handshake.subscribe api agent agents true) := by
  obtain ⟨suffix, waiting⟩ := prepared.offers _ creating
  have member := suffix.subset List.mem_cons_self
  have samples := prepared.agents agent member
  rw [creating] at samples
  have unsent : (view (handshake.agentsInput agent)).undelivered = [] := by
    apply List.eq_nil_iff_forall_not_mem.mpr
    intro signal sent
    obtain ⟨worker, id, rest, hosts, waits, -⟩ := orderly.sender agent signal sent
    have created := waiting_of_exchange waits
    rw [waiting worker hosts.assigned] at created
    cases created
  have unsubscribed : view (handshake.agentsInput agent) = ⟨none, []⟩ := by
    rw [← unsent, ← samples.trans (if_pos List.mem_cons_self)]
  obtain ⟨topic, created, empty⟩ :=
    createConsumer_eq documented unsubscribed (agentToScheduler agent)
  rw [subscribe, created]
  dsimp only
  apply advance_of_subscription orderly
  · refine ⟨?_, prepared.workers, prepared.creating, ?_⟩
    · intro other known
      by_cases same : other = agent
      · subst same
        have distinct := once.agents.sublist suffix.sublist
        simp only [Function.update_self, empty]
        exact (if_neg (List.nodup_cons.mp distinct).1).symm
      · have before := prepared.agents other known
        rw [creating] at before
        simp only [Function.update_of_ne same]
        rw [before]
        exact if_congr (List.mem_cons.trans (or_iff_right same)) rfl rfl
    · intro others same
      cases same
      exact ⟨(List.suffix_cons agent agents).trans suffix, waiting⟩
  · simp only [exchange, undelivered_update, empty, creating]
    rw [Function.update_eq_self_iff.mpr unsent.symm]
    rfl
  · simp only [creating, ConnectRemotes.subscriptions, List.length_cons]
    omega

/-- The scheduler offers the producers of the workers. -/
theorem advance_offer (prepared : Prepared agentAssignments view handshake)
    (orderly : (handshake.exchange agentAssignments view).Orderly agentAssignments)
    (creating : handshake.scheduler = .creating []) :
    Advance agentAssignments view handshake { handshake with
      scheduler := .connecting
        (agentAssignments.flatMap fun agent => agent.2.flatMap Prod.snd).dedup } := by
  apply advance_of_subscription orderly
  · refine ⟨?_, prepared.workers, prepared.creating, ?_⟩
    · intro agent member
      have before := prepared.agents agent member
      rw [creating] at before
      exact before
    · intro agents same
      cases same
  · simp only [exchange, creating]
    rfl
  · simp only [creating, ConnectRemotes.subscriptions, List.length_nil]

/-- A worker subscribes to its input. -/
theorem advance_discover (once : AssignedOnce agentAssignments)
    (documented : Documented api view)
    (active : ∀ worker ∈ agentAssignments.flatMap Prod.snd, worker.2 ≠ [])
    (prepared : Prepared agentAssignments view handshake)
    (orderly : (handshake.exchange agentAssignments view).Orderly agentAssignments)
    {number : WorkerId} {activityIds : List ActivityId}
    (creating : handshake.workers number = .creating activityIds)
    (offers : handshake.scheduler.offers = true) :
    Advance agentAssignments view handshake (handshake.discover api number activityIds true) := by
  have assigned := prepared.creating number activityIds creating
  obtain ⟨agent, hosts⟩ := hosts_of_assigned assigned
  obtain ⟨id, missed⟩ := prepared.missed orderly active creating
  have shown : (handshake.exchange agentAssignments view).workers number = .hello activityIds :=
    congrArg Exchange.subscribed creating
  have stage := orderly.stage agent _ hosts
  rw [shown] at stage
  have unsent : (view (handshake.schedulerInput number)).undelivered = [] :=
    stage.2.2.trans (ConnectRemotes.synced_of_missing missed number)
  have samples : (view (handshake.schedulerInput number)).samples = none := by
    rw [prepared.workers _ assigned, creating]
    rfl
  have unsubscribed : view (handshake.schedulerInput number) = ⟨none, []⟩ := by
    rw [← unsent, ← samples]
  obtain ⟨topic, created, empty⟩ :=
    createConsumer_eq documented unsubscribed (schedulerToWorker number)
  rw [discover, created]
  dsimp only
  apply advance_of_subscription orderly
  · refine ⟨prepared.agents, ?_, ?_, ?_⟩
    · intro worker known
      by_cases same : worker.1 = number
      · simp only [same, Function.update_self, empty]
        rfl
      · simp only [Function.update_of_ne same]
        exact prepared.workers worker known
    · intro other ids same
      obtain ⟨-, impossible⟩ | ⟨-, before⟩ := update_eq_cases same
      · cases impossible
      · exact prepared.creating other ids before
    · intro agents same
      rw [same] at offers
      cases offers
  · simp only [exchange, undelivered_update, subscribed_update, empty]
    rw [Function.update_eq_self_iff.mpr unsent.symm,
      Function.update_eq_self_iff.mpr (congrArg Exchange.subscribed creating).symm]
  · have change := sum_change (fun other => (handshake.workers other).subscriptions)
      (fun other => (Function.update handshake.workers number (.hello activityIds)
        other).subscriptions) once.workers (List.mem_map_of_mem assigned) (by
        intro other different
        rw [Function.update_of_ne different])
    simp only [Function.update_self, creating] at change
    change _ + 1 = _ + 0 at change
    dsimp only
    omega

/-- Each step in time advances the handshake. -/
theorem advance_step (once : AssignedOnce agentAssignments) (documented : Documented api view)
    (fits : ∀ agent workers, (agent, workers) ∈ agentAssignments → workers.length ≤ 10)
    (active : ∀ worker ∈ agentAssignments.flatMap Prod.snd, worker.2 ≠ [])
    (prepared : Prepared agentAssignments view handshake)
    (orderly : (handshake.exchange agentAssignments view).Orderly agentAssignments)
    (event : Event) (inTime : event.InTime)
    (stepped : step agentAssignments api handshake event = some next) :
    Advance agentAssignments view handshake next := by
  cases event with
  | subscribe found =>
      obtain rfl : found = true := inTime
      simp only [step] at stepped
      split at stepped
      · next agent agents creating =>
          obtain rfl := Option.some.inj stepped
          exact advance_subscribe once documented prepared orderly creating
      · cases stepped
  | offer =>
      simp only [step] at stepped
      split at stepped
      · next creating =>
          obtain rfl := Option.some.inj stepped
          exact advance_offer prepared orderly creating
      · cases stepped
  | discover number found =>
      obtain rfl : found = true := inTime
      simp only [step] at stepped
      split at stepped
      · next activityIds creating =>
          split at stepped
          · cases stepped
          · next offers =>
              obtain rfl := Option.some.inj stepped
              exact advance_discover once documented active prepared orderly creating
                (by simpa using offers)
      · cases stepped
  | hello number =>
      simp only [step] at stepped
      split at stepped
      · next agent id rest runs sends =>
          obtain rfl := Option.some.inj stepped
          have busy : (handshake.exchange agentAssignments view).workers number ≠ .hello [] := by
            simp [exchange, sends, Exchange.subscribed]
          obtain ⟨home, worker, hosts, rfl⟩ := orderly.hosted busy
          obtain rfl := Option.some.inj ((once.agentOf_eq hosts).symm.trans runs)
          exact advance_hello once documented fits prepared orderly hosts sends
      · cases stepped
  | next agent =>
      simp only [step] at stepped
      split at stepped
      · next first missing signal topic connecting taken =>
          split at stepped
          · next member =>
              obtain rfl := Option.some.inj stepped
              exact advance_next once documented prepared orderly connecting member taken
          · cases stepped
      · cases stepped
  | confirmation number =>
      simp only [step] at stepped
      split at stepped
      · next waits taken =>
          obtain rfl := Option.some.inj stepped
          exact advance_confirmation once documented prepared orderly waits taken
      · cases stepped
  | syncTime info =>
      simp only [step] at stepped
      split at stepped
      · next connected =>
          obtain rfl := Option.some.inj stepped
          exact advance_syncTime once prepared orderly connected info
      · cases stepped
  | publish =>
      simp only [step] at stepped
      split at stepped
      · next syncing =>
          obtain rfl := Option.some.inj stepped
          exact advance_publish once documented active prepared orderly syncing
      · cases stepped

theorem start_exchange (documented : Documented api view) :
    (start agentAssignments api).exchange agentAssignments view =
      Exchange.start agentAssignments := by
  simp only [exchange, start, documented.offered]
  rfl

theorem start_prepared (once : AssignedOnce agentAssignments) (documented : Documented api view) :
    Prepared agentAssignments view (start agentAssignments api) where
  agents agent member := by
    simp only [start, documented.offered]
    exact (if_pos member).symm
  workers worker assigned := by
    simp only [start, documented.offered, once.starting_eq assigned]
    rfl
  creating number activityIds created := by
    simp only [start, starting] at created
    split at created
    · next entry found =>
        obtain rfl := ConnectRemote.creating.inj created
        have same : entry.1 = number := by simpa using List.find?_some found
        rw [← same]
        exact List.mem_of_find?_eq_some found
    · cases created
  offers agents created := by
    obtain rfl := ConnectRemotes.creating.inj created
    exact ⟨List.suffix_rfl, fun worker assigned => once.starting_eq assigned⟩

/-- Each connector subscribes once, each activity takes three steps, and each worker one more. -/
theorem start_pending (once : AssignedOnce agentAssignments) (documented : Documented api view) :
    (start agentAssignments api).pending agentAssignments view =
      agentAssignments.length + 2 * (agentAssignments.flatMap Prod.snd).length +
        3 * ((agentAssignments.flatMap Prod.snd).flatMap Prod.snd).length + 2 := by
  have subscriptions : (((agentAssignments.flatMap Prod.snd).map Prod.fst).map fun number =>
      ((start agentAssignments api).workers number).subscriptions).sum =
        (agentAssignments.flatMap Prod.snd).length := by
    rw [List.map_map, List.map_congr_left (g := fun _ => 1)]
    · simp
    · intro worker assigned
      simp only [Function.comp_apply, start, once.starting_eq assigned]
      rfl
  rw [pending, subscriptions, start_exchange documented, Exchange.start_pending once]
  simp only [start, ConnectRemotes.subscriptions, List.length_map]
  omega

/-- Every run keeps the order of the signals and takes as many steps as it leaves less. -/
theorem run_advance (once : AssignedOnce agentAssignments) (documented : Documented api view)
    (fits : ∀ agent workers, (agent, workers) ∈ agentAssignments → workers.length ≤ 10)
    (active : ∀ worker ∈ agentAssignments.flatMap Prod.snd, worker.2 ≠ [])
    {history : List Event} (inTime : ∀ event ∈ history, event.InTime)
    (reached : (machine agentAssignments api).run (start agentAssignments api) history =
      some handshake) :
    Prepared agentAssignments view handshake ∧
      (handshake.exchange agentAssignments view).Orderly agentAssignments ∧
      history.length + handshake.pending agentAssignments view =
        (start agentAssignments api).pending agentAssignments view := by
  refine (machine agentAssignments api).run_induction (fun history handshake =>
    (∀ event ∈ history, event.InTime) → Prepared agentAssignments view handshake ∧
      (handshake.exchange agentAssignments view).Orderly agentAssignments ∧
      history.length + handshake.pending agentAssignments view =
        (start agentAssignments api).pending agentAssignments view) ?_ ?_ reached inTime
  · intro _
    refine ⟨start_prepared once documented, ?_, by simp⟩
    rw [start_exchange documented]
    exact Exchange.start_orderly once
  · intro before state event next _ hypothesis stepped inTime
    obtain ⟨prepared, orderly, spent⟩ :=
      hypothesis fun event member => inTime event (List.mem_append_left _ member)
    have advance := advance_step once documented fits active prepared orderly event
      (inTime event (List.mem_append_right _ (List.mem_singleton_self event))) stepped
    refine ⟨advance.prepared, advance.orderly, ?_⟩
    have less := advance.pending
    rw [List.length_append, List.length_singleton]
    omega

/-- Every worker is connected, and the startup time is its next signal. -/
def Synchronized (agentAssignments : List (AgentId × List WorkerWithActivities))
    (view : Topic → Subscription) (info : SyncInfo) (handshake : Handshake Topic) : Prop :=
  handshake.scheduler = .syncing info [] ∧
    ∀ worker ∈ agentAssignments.flatMap Prod.snd, handshake.workers worker.1 = .hello [] ∧
      (view (handshake.schedulerInput worker.1)).undelivered = [.core (.startupSync info)]

theorem misses_of_offers {scheduler : ConnectRemotes} (offers : scheduler.offers = true) :
    misses agentAssignments scheduler = scheduler := by
  cases scheduler with
  | creating agents => cases offers
  | _ => rfl

/-- A worker that is subscribed is where the exchange says. -/
theorem Prepared.workers_eq (prepared : Prepared agentAssignments view handshake)
    (subscribed : ∀ worker ∈ agentAssignments.flatMap Prod.snd,
      ∀ activityIds, handshake.workers worker.1 ≠ .creating activityIds) (number : WorkerId) :
    (handshake.exchange agentAssignments view).workers number = handshake.workers number := by
  show Exchange.subscribed (handshake.workers number) = handshake.workers number
  cases connector : handshake.workers number with
  | creating activityIds =>
      exact absurd connector (subscribed _ (prepared.creating number activityIds connector) _)
  | _ => rfl

/-- A signal on its way is received next. -/
theorem next_isSome (documented : Documented api view)
    (subscribed : (view topic).samples = some 10) {later : List MwComSignal}
    (head : (view topic).undelivered = signal :: later) :
    ∃ rest, api.next topic = some (signal, rest) := by
  have shown : view topic = ⟨some 10, signal :: later⟩ := by rw [← subscribed, ← head]
  obtain ⟨rest, taken, -⟩ := documented.deliver topic signal 10 later shown
  exact ⟨rest, taken⟩

/-- A step of the exchange is open to the subscribed connectors. -/
theorem enabled_of_exchange (documented : Documented api view)
    (prepared : Prepared agentAssignments view handshake)
    (orderly : (handshake.exchange agentAssignments view).Orderly agentAssignments)
    (offers : handshake.scheduler.offers = true)
    (subscribed : ∀ worker ∈ agentAssignments.flatMap Prod.snd,
      ∀ activityIds, handshake.workers worker.1 ≠ .creating activityIds)
    {event : Exchange.Event} {after : Exchange}
    (stepped : Exchange.step agentAssignments (handshake.exchange agentAssignments view) event =
      some after) :
    ∃ event : Event, event.InTime ∧
      ∃ next, step agentAssignments api handshake event = some next := by
  have same := prepared.workers_eq subscribed
  have scheduled : (handshake.exchange agentAssignments view).scheduler = handshake.scheduler :=
    misses_of_offers offers
  cases event with
  | hello number =>
      simp only [Exchange.step, same] at stepped
      split at stepped
      · next agent id rest runs sends =>
          refine ⟨.hello number, trivial, Option.isSome_iff_exists.mp ?_⟩
          simp only [step, runs, sends]
          rfl
      · cases stepped
  | next agent =>
      simp only [Exchange.step, scheduled] at stepped
      split at stepped
      · next first missing signal rest connecting head =>
          have inside : signal ∈ (handshake.exchange agentAssignments view).agentsInput agent := by
            rw [head]
            exact List.mem_cons_self
          obtain ⟨worker, id, later, hosts, -, -⟩ := orderly.sender agent signal inside
          obtain ⟨topic, taken⟩ :=
            next_isSome documented (prepared.agent_samples offers hosts.agent_mem) head
          refine ⟨.next agent, trivial, Option.isSome_iff_exists.mp ?_⟩
          simp only [step, connecting, taken, if_pos hosts.agent_mem]
          rfl
      · cases stepped
  | confirmation number =>
      simp only [Exchange.step, same] at stepped
      split at stepped
      · next id later signal rest waits head =>
          have busy : (handshake.exchange agentAssignments view).workers number ≠ .hello [] := by
            simp [same, waits]
          obtain ⟨agent, worker, hosts, rfl⟩ := orderly.hosted busy
          have samples := prepared.workers worker hosts.assigned
          rw [waits] at samples
          obtain ⟨topic, taken⟩ := next_isSome documented samples head
          refine ⟨.confirmation worker.1, trivial, Option.isSome_iff_exists.mp ?_⟩
          simp only [step, waits, taken]
          rfl
      · cases stepped
  | syncTime info =>
      simp only [Exchange.step, scheduled] at stepped
      split at stepped
      · next connected =>
          refine ⟨.syncTime info, trivial, Option.isSome_iff_exists.mp ?_⟩
          simp only [step, connected]
          rfl
      · cases stepped
  | publish =>
      simp only [Exchange.step, scheduled] at stepped
      split at stepped
      · next syncing =>
          refine ⟨.publish, trivial, Option.isSome_iff_exists.mp ?_⟩
          simp only [step, syncing]
          rfl
      · cases stepped

/-- A worker without a consumer finds its topic after the offer. -/
theorem discover_enabled {number : WorkerId} {activityIds : List ActivityId}
    (offers : handshake.scheduler.offers = true)
    (creating : handshake.workers number = .creating activityIds) :
    ∃ next, step agentAssignments api handshake (.discover number true) = some next := by
  apply Option.isSome_iff_exists.mp
  simp only [step, creating, offers]
  rfl

/-- The handshake goes on until every worker is connected and synchronized. -/
theorem progress (once : AssignedOnce agentAssignments) (documented : Documented api view)
    (prepared : Prepared agentAssignments view handshake)
    (orderly : (handshake.exchange agentAssignments view).Orderly agentAssignments) :
    (∃ info, Synchronized agentAssignments view info handshake) ∨
      ∃ event : Event, event.InTime ∧
        ∃ next, step agentAssignments api handshake event = some next := by
  by_cases offers : handshake.scheduler.offers = true
  · by_cases subscribed : ∀ worker ∈ agentAssignments.flatMap Prod.snd,
        ∀ activityIds, handshake.workers worker.1 ≠ .creating activityIds
    · rcases orderly.progress once with ⟨info, synced, connected⟩ | ⟨event, after, stepped⟩
      · refine .inl ⟨info, (misses_of_offers offers).symm.trans synced, ?_⟩
        intro worker assigned
        obtain ⟨ended, input⟩ := connected worker assigned
        exact ⟨(prepared.workers_eq subscribed worker.1).symm.trans ended, input⟩
      · exact .inr (enabled_of_exchange documented prepared orderly offers subscribed stepped)
    · simp only [not_forall, not_not] at subscribed
      obtain ⟨worker, assigned, activityIds, creating⟩ := subscribed
      exact .inr ⟨.discover worker.1 true, rfl, discover_enabled offers creating⟩
  · have sound := orderly.sound
    cases scheduler : handshake.scheduler with
    | creating agents =>
        cases agents with
        | nil =>
            refine .inr ⟨.offer, trivial, Option.isSome_iff_exists.mp ?_⟩
            simp only [step, scheduler]
            rfl
        | cons agent agents =>
            refine .inr ⟨.subscribe true, rfl, Option.isSome_iff_exists.mp ?_⟩
            simp only [step, scheduler]
            rfl
    | panicked message =>
        simp only [exchange, scheduler] at sound
        exact sound.elim
    | _ =>
        rw [scheduler] at offers
        exact absurd rfl offers

/-- Agents, workers and activities are assigned once, an agent has at most ten workers, each
worker has an activity, the library delivers up to ten samples of a subscription in order, and no
search times out. Then no one panics, the subscriptions never overflow, and after a bounded number
of steps every worker is connected and finds the startup time next. -/
theorem run_connects (once : AssignedOnce agentAssignments) (documented : Documented api view)
    (fits : ∀ agent workers, (agent, workers) ∈ agentAssignments → workers.length ≤ 10)
    (active : ∀ worker ∈ agentAssignments.flatMap Prod.snd, worker.2 ≠ [])
    {history : List Event} (inTime : ∀ event ∈ history, event.InTime)
    (reached : (machine agentAssignments api).run (start agentAssignments api) history =
      some handshake) :
    (∀ message, handshake.scheduler ≠ .panicked message) ∧
      (∀ number, (∀ message, handshake.workers number ≠ .panicked message) ∧
        ∀ signal, handshake.workers number ≠ .unexpected signal) ∧
      (∀ agent workers, (agent, workers) ∈ agentAssignments →
        (view (handshake.agentsInput agent)).undelivered.length ≤ workers.length ∧
          ∀ worker ∈ workers,
            (view (handshake.schedulerInput worker.1)).undelivered.length ≤ 2) ∧
      history.length ≤ agentAssignments.length +
        2 * (agentAssignments.flatMap Prod.snd).length +
          3 * ((agentAssignments.flatMap Prod.snd).flatMap Prod.snd).length + 2 ∧
      ((∃ info, Synchronized agentAssignments view info handshake) ∨
        ∃ event : Event, event.InTime ∧
          ∃ next, step agentAssignments api handshake event = some next) := by
  obtain ⟨prepared, orderly, spent⟩ := run_advance once documented fits active inTime reached
  refine ⟨?_, ?_, ?_, ?_, progress once documented prepared orderly⟩
  · intro message panicked
    have sound := orderly.sound
    simp only [exchange, panicked] at sound
    exact sound
  · intro number
    obtain ⟨unpanicked, expected⟩ := orderly.calm number
    constructor
    · intro message panicked
      exact unpanicked message (congrArg Exchange.subscribed panicked)
    · intro signal panicked
      exact expected signal (congrArg Exchange.subscribed panicked)
  · intro agent workers entry
    apply And.intro (orderly.agentsInput_length once entry)
    intro worker member
    exact orderly.schedulerInput_length ⟨workers, entry, member⟩
  · rw [start_pending once documented] at spent
    omega

/-- A library that queues the samples of a subscription and drops those of no subscription. -/
def queues : ComApi Subscription where
  offered := ⟨none, []⟩
  subscribe _ samples := some ⟨some samples, []⟩
  send topic signal :=
    match topic.samples with
    | none => some topic
    | some samples =>
        if topic.undelivered.length < samples then
          some { topic with undelivered := topic.undelivered ++ [signal] }
        else none
  next topic :=
    match topic.undelivered with
    | [] => none
    | signal :: rest => some (signal, { topic with undelivered := rest })

theorem queues_documented : Documented queues id where
  offered := rfl
  subscribe _ samples _ := ⟨⟨some samples, []⟩, rfl, rfl⟩
  send topic signal samples undelivered shown room := by
    obtain rfl : topic = ⟨some samples, undelivered⟩ := shown
    exact ⟨⟨some samples, undelivered ++ [signal]⟩, if_pos room, rfl⟩
  deliver topic signal samples undelivered shown := by
    obtain rfl : topic = ⟨some samples, signal :: undelivered⟩ := shown
    exact ⟨⟨some samples, undelivered⟩, rfl, rfl⟩
  wait topic samples shown := by
    obtain rfl : topic = ⟨some samples, []⟩ := shown
    rfl

/-- Two agents with a worker each. -/
def twoWorkers : List (AgentId × List WorkerWithActivities) :=
  [(⟨1⟩, [(⟨10⟩, [⟨5⟩, ⟨6⟩])]), (⟨2⟩, [(⟨20⟩, [⟨7⟩])])]

/-- Both agents say hello at the same time, and every event of the handshake happens. -/
def twoWorkersRun : List Event :=
  [.subscribe true, .subscribe true, .offer, .discover ⟨20⟩ true, .discover ⟨10⟩ true,
    .hello ⟨20⟩, .hello ⟨10⟩, .next ⟨1⟩, .confirmation ⟨10⟩, .hello ⟨10⟩, .next ⟨2⟩, .next ⟨1⟩,
    .confirmation ⟨20⟩, .confirmation ⟨10⟩, .syncTime ⟨Duration.fromNanos 1⟩, .publish, .publish]

theorem run_connects_twoWorkers : ∃ handshake,
    (machine twoWorkers queues).run (start twoWorkers queues) twoWorkersRun = some handshake ∧
    handshake.scheduler = .syncing ⟨Duration.fromNanos 1⟩ [] ∧
    (handshake.schedulerInput ⟨10⟩).undelivered = [.core (.startupSync ⟨Duration.fromNanos 1⟩)] ∧
    (∀ message, handshake.scheduler ≠ .panicked message) ∧
      (∀ number, (∀ message, handshake.workers number ≠ .panicked message) ∧
        ∀ signal, handshake.workers number ≠ .unexpected signal) ∧
      (∀ agent workers, (agent, workers) ∈ twoWorkers →
        (handshake.agentsInput agent).undelivered.length ≤ workers.length ∧
          ∀ worker ∈ workers,
            (handshake.schedulerInput worker.1).undelivered.length ≤ 2) ∧
      17 ≤ twoWorkers.length + 2 * (twoWorkers.flatMap Prod.snd).length +
          3 * ((twoWorkers.flatMap Prod.snd).flatMap Prod.snd).length + 2 ∧
      ((∃ info, Synchronized twoWorkers id info handshake) ∨
        ∃ event : Event, event.InTime ∧
          ∃ next, step twoWorkers queues handshake event = some next) := by
  have once : AssignedOnce twoWorkers := ⟨by decide, by decide, by decide⟩
  have fits : ∀ agent workers, (agent, workers) ∈ twoWorkers → workers.length ≤ 10 := by
    intro agent workers entry
    simp only [twoWorkers, List.mem_cons, Prod.mk.injEq, List.not_mem_nil, or_false] at entry
    rcases entry with ⟨-, rfl⟩ | ⟨-, rfl⟩ <;> decide
  have active : ∀ worker ∈ twoWorkers.flatMap Prod.snd, worker.2 ≠ [] := by decide
  have inTime : ∀ event ∈ twoWorkersRun, event.InTime := by
    simp [twoWorkersRun, Event.InTime]
  obtain ⟨handshake, reached, ended, input⟩ : ∃ handshake,
      (machine twoWorkers queues).run (start twoWorkers queues) twoWorkersRun = some handshake ∧
      handshake.scheduler = .syncing ⟨Duration.fromNanos 1⟩ [] ∧
      (handshake.schedulerInput ⟨10⟩).undelivered = [.core (.startupSync ⟨Duration.fromNanos 1⟩)] :=
    ⟨_, rfl, rfl, rfl⟩
  exact ⟨handshake, reached, ended, input,
    run_connects once queues_documented fits active inTime reached⟩

end Handshake

end Feo.MwCom
