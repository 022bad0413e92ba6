import Feo.Foundation.Channel
import Feo.Proof.System.Confirmation

namespace Feo

open Foundation

namespace Scheduler

variable {scheduler : Scheduler}

/-- A received ready signal starts its activity, or it panics the scheduler. -/
theorem Transition.ever_of_ready {execution next : Execution scheduler} {id : ActivityId}
    {time : Timestamp}
    (transition : Transition execution (.receive (.ok (some (.ready id time)))) next)
    (active : execution.point.stage.Active) (alive : next.point.stage ≠ .panicked) :
    (next.states.val.value id).everReady = true := by
  have marked (states : States scheduler) :
      ((markReady states id).val.value id).everReady = true := by
    rw [markReady_value, if_pos rfl]
  cases transition with
  | ignored waits again => cases again
  | failed waits failed => cases failed
  | unknown => exact absurd rfl alive
  | startupReady =>
      rw [(startupLoop_follows _).ever]
      exact marked _
  | stepReady =>
      rw [(chainLoop_continues _ _).states_eq]
      exact marked _
  | shutdownReceived => rcases active with wrong | wrong | wrong <;> cases wrong
  | ackReceived => rcases active with wrong | wrong | wrong <;> cases wrong

end Scheduler

namespace System

open Scheduler (startedActivities)

variable {deployment : Deployment}

/-- The reply is the ready signal that answers the startup of an activity. -/
def Announces (reply : Reply) (id : ActivityId) : Prop :=
  ∃ time sent cycle, reply = ⟨.ready id time, ⟨.startup id sent, cycle⟩⟩

/-- Every queued reply has been logged. -/
def Replied (system : System deployment) : Prop :=
  ∀ worker, ∀ reply ∈ system.replies worker, Entry.replied reply ∈ system.log

/-- The ready signal of a startup waits for the scheduler or has started its activity. -/
def Announced (system : System deployment) : Prop :=
  ∀ reply id, Announces reply id → Entry.replied reply ∈ system.log →
    (∃ worker, reply ∈ system.replies worker) ∨
      (system.execution.states.val.value id).everReady = true

theorem Replied.mono {system next : System deployment} (replied : Replied system)
    (replies : ∀ worker, next.replies worker ⊆ system.replies worker)
    (grows : system.log ⊆ next.log) : Replied next :=
  fun worker reply member => grows (replied worker reply (replies worker member))

theorem accept_log (system : System deployment) (id : WorkerId) (request : Request)
    (rest : List Request) (point : Worker.Point) :
    (system.accept id request rest point).log = system.log ∨
      (system.accept id request rest point).log = .called request :: system.log := by
  unfold accept
  dsimp only
  split
  · exact .inr rfl
  · exact .inl rfl

/-- Each move logs the replies that it queues. -/
theorem Move.replied {system next : System deployment} {event : Event}
    (move : Move system event next) (replied : Replied system) : Replied next := by
  cases move with
  | scheduled | sent | broadcast | idled => exact replied
  | received head transition =>
      exact replied.mono (fun _ _ member => mem_of_mem_update head member)
        (List.subset_cons_self _ _)
  | accepted point head =>
      refine replied.mono (fun _ _ member => member) ?_
      rcases accept_log system _ _ _ _ with same | same <;> rw [same]
      · exact fun _ member => member
      · exact List.subset_cons_self _ _
  | returned => exact replied.mono (fun _ _ member => member) (List.subset_cons_self _ _)
  | @responded id signal request result =>
      cases result with
      | error error => exact replied
      | ok value =>
          intro worker reply member
          rcases mem_update_concat.mp member with earlier | ⟨-, rfl⟩
          · exact List.mem_cons_of_mem _ (replied worker reply earlier)
          · exact List.mem_cons_self

/-- Every run logs the replies that it queues. -/
theorem run_replied {events : List Event} {system : System deployment}
    (reached : (machine deployment).run (initial deployment) events = some system) :
    Replied system := by
  have start : Replied (initial deployment) := fun _ _ impossible => nomatch impossible
  exact (machine deployment).run_preserves Replied
    (fun _ _ _ replied stepped => (step_move stepped).replied replied) start reached

/-- A move that keeps the queued replies keeps the announcements. -/
theorem Announced.mono {system next : System deployment} (announced : Announced system)
    (replies : ∀ worker, system.replies worker ⊆ next.replies worker)
    (logged : ∀ reply, Entry.replied reply ∈ next.log → Entry.replied reply ∈ system.log)
    (ever : ∀ id, (system.execution.states.val.value id).everReady = true →
      (next.execution.states.val.value id).everReady = true) : Announced next := by
  intro reply id announces member
  rcases announced reply id announces (logged reply member) with ⟨worker, queued⟩ | started
  · exact .inl ⟨worker, replies worker queued⟩
  · exact .inr (ever id started)

/-- A received ready signal has started its activity. -/
theorem announced_received {system : System deployment} {worker : WorkerId} {first : Reply}
    {rest : List Reply} {execution : Scheduler.Execution deployment.scheduler}
    (head : system.replies worker = first :: rest)
    (transition : Scheduler.Transition system.execution (.receive (.ok (some first.signal)))
      execution)
    (active : system.execution.point.stage.Active) (alive : execution.point.stage ≠ .panicked)
    (announced : Announced system) :
    Announced { system with
      execution := execution
      replies := Function.update system.replies worker rest
      log := .answered first :: system.log } := by
  intro reply id announces member
  have before : Entry.replied reply ∈ system.log := by simpa using member
  rcases announced reply id announces before with ⟨other, queued⟩ | started
  · by_cases same : reply = first
    · subst same
      obtain ⟨time, sent, cycle, rfl⟩ := announces
      exact .inr (transition.ever_of_ready active alive)
    · exact .inl ⟨other, mem_update_of_ne head queued same⟩
  · exact .inr (transition.shift.ever started)

/-- A sent ready signal waits for the scheduler. -/
theorem announced_responded {system : System deployment} {id : WorkerId} {request : Request}
    {signal : Signal} {result : Except Error Unit} {point : Worker.Point}
    (announced : Announced system) :
    Announced (system.respond id request signal result point) := by
  cases result with
  | error error =>
      exact announced.mono (fun _ _ member => member) (fun _ member => member)
        (fun _ started => started)
  | ok value =>
      intro reply target announces member
      rcases List.mem_cons.mp member with same | before
      · cases same
        exact .inl ⟨id, mem_update_concat.mpr (.inr ⟨rfl, rfl⟩)⟩
      · rcases announced reply target announces before with ⟨worker, queued⟩ | started
        · exact .inl ⟨worker, mem_update_concat.mpr (.inl queued)⟩
        · exact .inr started

/-- Each move up to the call of `shutdown_gracefully` keeps the announcements. -/
theorem Move.announced {system next : System deployment} {event : Event}
    (move : Move system event next) (active : system.execution.point.stage.Active)
    (alive : next.execution.point.stage ≠ .panicked) (announced : Announced system) :
    Announced next := by
  cases move with
  | scheduled isLocal transition =>
      exact announced.mono (fun _ _ member => member) (fun _ member => member)
        (fun _ => transition.shift.ever)
  | sent transition =>
      exact announced.mono (fun _ _ member => member) (fun _ member => member)
        (fun _ => transition.shift.ever)
  | broadcast transition =>
      exact announced.mono (fun _ _ member => member) (fun _ member => member)
        (fun _ => transition.shift.ever)
  | received head transition => exact announced_received head transition active alive announced
  | accepted point head =>
      refine announced.mono (fun _ _ member => member) (fun reply member => ?_) (fun _ => id)
      rcases accept_log system _ _ _ _ with same | same <;> rw [same] at member
      · exact member
      · simpa using member
  | idled => exact announced.mono (fun _ _ member => member) (fun _ member => member) (fun _ => id)
  | returned =>
      exact announced.mono (fun _ _ member => member) (fun reply member => by simpa using member)
        (fun _ => id)
  | responded => exact announced_responded announced

/-- A move of the scheduler is a shift of its execution, and the workers keep it. -/
theorem Flow.shift {system next : System deployment} (flow : Flow system next) :
    next.execution = system.execution ∨
      ∃ event, Scheduler.Shift system.execution event next.execution := by
  cases flow with
  | scheduled _ transition => exact .inr ⟨_, transition.shift⟩
  | sent transition => exact .inr ⟨_, transition.shift⟩
  | answered transition => exact .inr ⟨_, transition.shift⟩
  | acknowledged transition => exact .inr ⟨_, transition.shift⟩
  | broadcast transition => exact .inr ⟨_, transition.shift⟩
  | called execution => exact .inl execution
  | worked _ execution => exact .inl execution

theorem Flow.source_active {system next : System deployment} (flow : Flow system next)
    (active : next.execution.point.stage.Active) : system.execution.point.stage.Active := by
  rcases flow.shift with same | ⟨event, shift⟩
  · rw [← same]
    exact active
  · exact shift.source_active active

/-- Every run keeps the announcements up to the call of `shutdown_gracefully`. -/
theorem run_announced {events : List Event} {system : System deployment}
    (reached : (machine deployment).run (initial deployment) events = some system)
    (active : system.execution.point.stage.Active) : Announced system := by
  refine (machine deployment).run_induction
    (fun _ system => system.execution.point.stage.Active → Announced system) ?_ ?_ reached active
  · exact fun _ _ _ _ impossible => nomatch impossible
  · intro history system event next before hypothesis stepped running
    have move := step_move stepped
    have source := (move.flow (run_coherent before)).source_active running
    exact move.announced source running.ne_panicked (hypothesis source)

/-- A waiting announcement has not started its activity. -/
theorem not_ever_of_announces {events : List Event} {system : System deployment}
    (reached : (machine deployment).run (initial deployment) events = some system)
    (active : system.execution.point.stage.Active) {worker : WorkerId} {reply : Reply}
    (queued : reply ∈ system.replies worker) {id : ActivityId} (announces : Announces reply id) :
    (system.execution.states.val.value id).everReady = false := by
  obtain ⟨time, sent, cycle, rfl⟩ := announces
  have inOrder := run_inOrder reached
  have member : (⟨.startup id sent, cycle⟩ : Request) ∈ system.pending id := by
    rw [mem_pending_iff inOrder.coherent]
    refine ⟨rfl, worker, ?_⟩
    unfold pipeline
    exact List.mem_append_left _ (List.mem_map.mpr ⟨_, queued, rfl⟩)
  have reported := Scheduler.run_reported (run_calls reached)
  have unready {asked : ActivityId → Prop}
      (round : Round 0 .startup asked system.execution.states system.pending system.log)
      (early : system.execution.point.stage = .starting ∨
        system.execution.point.stage = .waiting) :
      (system.execution.states.val.value id).everReady = false := by
    by_contra started
    have ready := reported.ready early id (Bool.eq_true_of_not_eq_false started)
    obtain ⟨_, -, tracked⟩ := round.request_eq member
    rw [(tracked.settled ready).1] at member
    cases member
  rcases active with starting | waiting | chaining
  · cases point : system.execution.point with
    | startup activity remaining =>
        exact unready (inOrder.working.starting activity remaining point).2 (.inl starting)
    | _ =>
        rw [point] at starting
        cases starting
  · exact unready (inOrder.working.waiting waiting).2 (.inr waiting)
  · obtain ⟨-, round⟩ := inOrder.working.chaining chaining
    obtain ⟨_, same, -⟩ := round.request_eq member
    cases same

/-- The states do not change after the call of `shutdown_gracefully`. -/
theorem states_of_passive {start final : System deployment} {events : List Event}
    (coherent : Coherent start) (passive : ¬ start.execution.point.stage.Active)
    (reached : (machine deployment).run start events = some final) :
    final.execution.states = start.execution.states := by
  have kept := (machine deployment).run_preserves
    (fun system => Coherent system ∧ ¬ system.execution.point.stage.Active ∧
      system.execution.states = start.execution.states) ?_ ⟨coherent, passive, rfl⟩ reached
  · exact kept.2.2
  · rintro system event next ⟨holds, outside, same⟩ stepped
    have move := step_move stepped
    have flow := move.flow holds
    have still : ¬ next.execution.point.stage.Active :=
      fun active => outside (flow.source_active active)
    refine ⟨move.coherent holds, still, ?_⟩
    rcases flow.shift with unchanged | ⟨event, shift⟩
    · rw [unchanged]
      exact same
    · rw [shift.states_of_passive still]
      exact same

/-- Only a worker queues a reply. -/
theorem Move.replies_subset {system next : System deployment} {event : Event}
    (move : Move system event next) : next.execution = system.execution ∨
      ∀ worker, next.replies worker ⊆ system.replies worker := by
  cases move with
  | scheduled | sent | broadcast => exact .inr fun _ _ member => member
  | received head => exact .inr fun _ _ member => mem_of_mem_update head member
  | accepted | idled | returned => exact .inl rfl
  | @responded id signal request result => cases result <;> exact .inl rfl

/-- The activities whose startup was announced before the call of `shutdown_gracefully` are all
shut down before the broadcast exactly when no announcement waits at the call. -/
theorem run_started_shutdown_iff (front back : List Event) (event : Event)
    (source target final : System deployment)
    (before : (machine deployment).run (initial deployment) front = some source)
    (stepped : source.step event = some target)
    (active : source.execution.point.stage.Active)
    (stopping : target.execution.point.stage.Stopping)
    (after : (machine deployment).run target back = some final)
    (stage : final.execution.point.stage = .terminating) :
    (∀ reply id, Announces reply id → Entry.replied reply ∈ target.log →
        Scheduler.Phase.shutdown ∈ Scheduler.sentTo id (calls (front ++ event :: back))) ↔
      ∀ worker, ∀ reply ∈ target.replies worker, ∀ id, ¬ Announces reply id := by
  have move := step_move stepped
  have flow := move.flow (run_coherent before)
  have called := (machine deployment).run_concat_iff.mpr ⟨source, before, stepped⟩
  have whole := (machine deployment).run_split_iff.mpr ⟨source, target, before, stepped, after⟩
  have entered : target.execution.states = source.execution.states := by
    rcases flow.shift with same | ⟨_, shift⟩
    · rw [same]
    · exact shift.states_of_passive stopping.not_active
  have kept := states_of_passive (run_coherent called) stopping.not_active after
  have lifecycle := Scheduler.run_lifecycle (run_calls whole)
  have shut (id : ActivityId) : Scheduler.Phase.shutdown ∈
      Scheduler.sentTo id (calls (front ++ event :: back)) ↔
        id ∈ startedActivities final.execution.states := by
    refine ⟨started_of_shutdown lifecycle stage, fun started => ?_⟩
    obtain ⟨steps, same⟩ := lifecycle.closed (.inr (.inl stage)) id
    rw [same, if_pos ((Scheduler.mem_startedActivities _ _).mp started).1, if_pos started]
    exact List.mem_append_right _ (List.mem_singleton_self _)
  constructor
  · intro property worker reply queued id announces
    have started := (shut id).mp
      (property reply id announces (run_replied called worker reply queued))
    have ever := ((Scheduler.mem_startedActivities _ _).mp started).2
    rw [kept, entered] at ever
    have earlier : reply ∈ source.replies worker := by
      rcases move.replies_subset with same | drops
      · rw [same] at stopping
        exact absurd stopping active.not_stopping
      · exact drops worker queued
    rw [not_ever_of_announces before active earlier announces] at ever
    cases ever
  · intro condition reply id announces logged
    have announced := move.announced active stopping.ne_panicked (run_announced before active)
    have ever := (announced reply id announces logged).resolve_left
      fun ⟨worker, queued⟩ => condition worker reply queued id announces
    rw [shut, Scheduler.mem_startedActivities, kept]
    rw [entered] at ever ⊢
    exact ⟨(Scheduler.run_reported (run_calls before)).known id ever, ever⟩

/-- The only activity starts up and reports ready. -/
def soloStartup : List Event :=
  [.send ⟨1⟩ (.startup ⟨1⟩ ⟨Duration.zero⟩),
    .worker ⟨1⟩ (.receive (.ok (some (.startup ⟨1⟩ ⟨Duration.zero⟩)))),
    .worker ⟨1⟩ (.returned (.ok ()) ⟨Duration.zero⟩),
    .worker ⟨1⟩ (.sendToScheduler (.ready ⟨1⟩ ⟨Duration.zero⟩) (.ok ()))]

/-- The startup timeout elapses while the ready signal waits. -/
def soloLate : Event := .scheduler (.elapsed (Duration.fromNanos 1))

theorem soloStartup_log : ((machine solo).run (initial solo) (soloStartup ++ [soloLate])).map
    (fun system => (system.execution.point, system.log)) = some (.broadcastTerminate [],
      [.replied ⟨.ready ⟨1⟩ ⟨Duration.zero⟩, ⟨.startup ⟨1⟩ ⟨Duration.zero⟩, 0⟩⟩,
        .returned ⟨.startup ⟨1⟩ ⟨Duration.zero⟩, 0⟩ (.ok ()),
        .called ⟨.startup ⟨1⟩ ⟨Duration.zero⟩, 0⟩]) := by decide

theorem soloStartup_stage : ((machine solo).run (initial solo) soloStartup).map
    (fun system => system.execution.point.stage) = some .waiting := by decide

/-- Both activities have started, and the step of activity 1 outlasts the receive timeout. -/
def pairFront : List Event := pairStartup ++ [.send ⟨1⟩ (.step ⟨1⟩ ⟨Duration.zero⟩)]

def pairTimeout : Event := .scheduler (.receive (.ok none))

/-- Both activities are sent a shutdown, and none confirms it in time. -/
def pairBack : List Event :=
  [.send ⟨1⟩ (.shutdown ⟨1⟩ ⟨Duration.zero⟩), .send ⟨2⟩ (.shutdown ⟨2⟩ ⟨Duration.zero⟩),
    .scheduler (.elapsed (Duration.fromNanos 1))]

theorem pairFront_point : ((machine pair).run (initial pair) pairFront).map
    (fun system => system.execution.point) = some .stepReceive := by decide

theorem pairTimeout_log : ((machine pair).run (initial pair) (pairFront ++ [pairTimeout])).map
    (fun system => (system.execution.point, system.log)) =
      some (.shutdown ⟨1⟩ [⟨2⟩] [⟨1⟩, ⟨2⟩],
        [.answered ⟨.ready ⟨1⟩ ⟨Duration.zero⟩, ⟨.startup ⟨1⟩ ⟨Duration.zero⟩, 0⟩⟩,
          .answered ⟨.ready ⟨2⟩ ⟨Duration.zero⟩, ⟨.startup ⟨2⟩ ⟨Duration.zero⟩, 0⟩⟩,
          .replied ⟨.ready ⟨1⟩ ⟨Duration.zero⟩, ⟨.startup ⟨1⟩ ⟨Duration.zero⟩, 0⟩⟩,
          .returned ⟨.startup ⟨1⟩ ⟨Duration.zero⟩, 0⟩ (.ok ()),
          .called ⟨.startup ⟨1⟩ ⟨Duration.zero⟩, 0⟩,
          .replied ⟨.ready ⟨2⟩ ⟨Duration.zero⟩, ⟨.startup ⟨2⟩ ⟨Duration.zero⟩, 0⟩⟩,
          .returned ⟨.startup ⟨2⟩ ⟨Duration.zero⟩, 0⟩ (.ok ()),
          .called ⟨.startup ⟨2⟩ ⟨Duration.zero⟩, 0⟩]) := by decide

theorem pairBack_stage :
    ((machine pair).run (initial pair) (pairFront ++ pairTimeout :: pairBack)).map
      (fun system => system.execution.point.stage) = some .terminating := by decide

/-- The announcements of two activities have arrived at the call, and that of one has not. -/
theorem run_started_shutdown_pair :
    (∃ source target, (machine solo).run (initial solo) soloStartup = some source ∧
      source.step soloLate = some target ∧
      ((∀ reply id, Announces reply id → Entry.replied reply ∈ target.log →
          Scheduler.Phase.shutdown ∈ Scheduler.sentTo id (calls (soloStartup ++ [soloLate]))) ↔
        ∀ worker, ∀ reply ∈ target.replies worker, ∀ id, ¬ Announces reply id)) ∧
    ∃ source target final, (machine pair).run (initial pair) pairFront = some source ∧
      source.step pairTimeout = some target ∧ (machine pair).run target pairBack = some final ∧
      (∀ reply id, Announces reply id → Entry.replied reply ∈ target.log →
        Scheduler.Phase.shutdown ∈
          Scheduler.sentTo id (calls (pairFront ++ pairTimeout :: pairBack))) ∧
      ∀ worker, ∀ reply ∈ target.replies worker, ∀ id, ¬ Announces reply id := by
  constructor
  · obtain ⟨target, whole, same⟩ := Option.map_eq_some_iff.mp soloStartup_log
    obtain ⟨source, before, stepped⟩ := (machine solo).run_concat_iff.mp whole
    obtain ⟨other, reached, stage⟩ := Option.map_eq_some_iff.mp soloStartup_stage
    cases before.symm.trans reached
    obtain ⟨point, -⟩ := Prod.mk.inj same
    have terminating : target.execution.point.stage = .terminating := by
      rw [point]
      rfl
    exact ⟨source, target, before, stepped, run_started_shutdown_iff soloStartup [] soloLate source
      target target before stepped (.inr (.inl stage)) (.inr (.inr terminating)) rfl terminating⟩
  · obtain ⟨target, called, same⟩ := Option.map_eq_some_iff.mp pairTimeout_log
    obtain ⟨point, log⟩ := Prod.mk.inj same
    obtain ⟨source, before, stepped⟩ := (machine pair).run_concat_iff.mp called
    obtain ⟨other, reached, shown⟩ := Option.map_eq_some_iff.mp pairFront_point
    cases before.symm.trans reached
    obtain ⟨final, whole, terminating⟩ := Option.map_eq_some_iff.mp pairBack_stage
    obtain ⟨_, _, again, moved, after⟩ := (machine pair).run_split_iff.mp whole
    cases before.symm.trans again
    cases stepped.symm.trans moved
    have shut : ∀ reply id, Announces reply id → Entry.replied reply ∈ target.log →
        Scheduler.Phase.shutdown ∈
          Scheduler.sentTo id (calls (pairFront ++ pairTimeout :: pairBack)) := by
      rintro _ id ⟨time, sent, cycle, rfl⟩ member
      rw [log] at member
      simp at member
      rcases member with ⟨⟨rfl, -⟩, -⟩ | ⟨⟨rfl, -⟩, -⟩ <;> decide
    refine ⟨source, target, final, before, stepped, after, shut, ?_⟩
    refine (run_started_shutdown_iff pairFront pairBack pairTimeout source target final before
      stepped ?_ ?_ after terminating).mp shut
    · rw [shown]
      exact .inr (.inr rfl)
    · rw [point]
      exact .inl rfl

/-- The activity has started and announced it, and it is never shut down. -/
theorem run_started_unshut_solo :
    ¬ ∀ front back event (source target final : System solo),
      (machine solo).run (initial solo) front = some source → source.step event = some target →
        source.execution.point.stage.Active → target.execution.point.stage.Stopping →
          (machine solo).run target back = some final →
            final.execution.point.stage = .terminating →
              ∀ reply id, Announces reply id → Entry.replied reply ∈ target.log →
                Scheduler.Phase.shutdown ∈
                  Scheduler.sentTo id (calls (front ++ event :: back)) := by
  intro property
  obtain ⟨target, whole, same⟩ := Option.map_eq_some_iff.mp soloStartup_log
  obtain ⟨source, before, stepped⟩ := (machine solo).run_concat_iff.mp whole
  obtain ⟨other, reached, stage⟩ := Option.map_eq_some_iff.mp soloStartup_stage
  cases before.symm.trans reached
  obtain ⟨point, log⟩ := Prod.mk.inj same
  have terminating : target.execution.point.stage = .terminating := by
    rw [point]
    rfl
  have shut := property soloStartup [] soloLate source target target before stepped
    (.inr (.inl stage)) (.inr (.inr terminating)) rfl terminating
    ⟨.ready ⟨1⟩ ⟨Duration.zero⟩, ⟨.startup ⟨1⟩ ⟨Duration.zero⟩, 0⟩⟩ ⟨1⟩ ⟨_, _, _, rfl⟩
    (by rw [log]; exact List.mem_cons_self)
  revert shut
  decide

end System

end Feo
