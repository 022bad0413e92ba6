import Feo.Proof.Connector.Connect

namespace Feo.Mpsc

namespace ProtocolMultiReceiver

/-- A signal has been received in each of these rounds. -/
def Signalled (rounds : List Round) : Prop :=
  ∀ round ∈ rounds, ∃ signal, round.received = .ok (some signal)

/-- The connect signal of the channel is received in one of these rounds. -/
def Connects (rounds : List Round) (id : ChannelId) : Prop :=
  ∃ round ∈ rounds, round.received = .ok (some (.connect id))

/-- The clock reaches the timeout when the signals before have not connected all channels. -/
def Expires (timeout : Duration) (missing : List ChannelId) (rounds : List Round) : Prop :=
  ∃ before round after, rounds = before ++ round :: after ∧ Signalled before ∧
    timeout.gt round.elapsed = false ∧ ∃ id ∈ missing, ¬ Connects before id

variable {receiver : ProtocolMultiReceiver} {timeout : Duration} {missing : List ChannelId}
  {round : Round} {rounds : List Round} {signal : ProtocolSignal} {id : ChannelId}

theorem connects_cons (received : round.received = .ok (some signal)) :
    Connects (round :: rounds) id ↔ signal = .connect id ∨ Connects rounds id := by
  simp [Connects, received]

/-- The signal before the other rounds does not connect a channel that stays missing. -/
theorem Expires.cons (distinct : missing.Nodup) (expected : missing ⊆ receiver.channelIds.items)
    (received : round.received = .ok (some signal))
    (expires : Expires timeout (receiver.remaining missing signal) rounds) :
    Expires timeout missing (round :: rounds) := by
  obtain ⟨before, late, after, split, signalled, expired, id, member, unconnected⟩ := expires
  have still := (receiver.mem_remaining_iff distinct expected signal id).mp member
  refine ⟨round :: before, late, after, ?_, ?_, expired, id, still.1, ?_⟩
  · rw [split, List.cons_append]
  · exact List.forall_mem_cons.mpr ⟨⟨signal, received⟩, signalled⟩
  · rw [connects_cons received]
    exact not_or.mpr ⟨still.2, unconnected⟩

/-- A loop that is already late expires with every channel that it misses. -/
theorem Expires.head (missed : missing ≠ []) (late : timeout.gt round.elapsed = false) :
    Expires timeout missing (round :: rounds) := by
  obtain ⟨id, member⟩ := List.exists_mem_of_ne_nil missing missed
  refine ⟨[], round, rounds, rfl, List.forall_mem_nil _, late, id, member, ?_⟩
  rintro ⟨_, impossible, _⟩
  exact List.not_mem_nil impossible

theorem connectLoop_signal (waits : ¬ (missing = [] ∨ ¬ timeout.gt round.elapsed = true))
    (received : round.received = .ok (some signal)) :
    receiver.connectLoop timeout missing (round :: rounds) =
      receiver.connectLoop timeout (receiver.remaining missing signal) rounds := by
  rw [connectLoop, if_neg waits, received]

theorem receivedSignals_signal (waits : ¬ (missing = [] ∨ ¬ timeout.gt round.elapsed = true))
    (received : round.received = .ok (some signal)) :
    receiver.receivedSignals timeout missing (round :: rounds) =
      signal :: receiver.receivedSignals timeout (receiver.remaining missing signal) rounds := by
  rw [receivedSignals, if_neg waits, received]

/-- The loop that ends without an error has connected all channels, or its time has expired. -/
theorem connectLoop_ok (distinct : missing.Nodup) (expected : missing ⊆ receiver.channelIds.items)
    (returned : receiver.connectLoop timeout missing rounds = some (.ok ())) :
    (∀ id ∈ missing, .connect id ∈ receiver.receivedSignals timeout missing rounds) ∨
      Expires timeout missing rounds := by
  induction rounds generalizing missing with
  | nil =>
      rw [connectLoop] at returned
      split at returned
      · next done =>
          rw [done]
          exact .inl (List.forall_mem_nil _)
      · cases returned
  | cons round rounds hypothesis =>
      by_cases done : missing = []
      · rw [done]
        exact .inl (List.forall_mem_nil _)
      · by_cases early : timeout.gt round.elapsed = true
        · have waits : ¬ (missing = [] ∨ ¬ timeout.gt round.elapsed = true) :=
            not_or.mpr ⟨done, not_not.mpr early⟩
          cases received : round.received with
          | error error =>
              rw [connectLoop, if_neg waits, received] at returned
              cases returned
          | ok message =>
              cases message with
              | none =>
                  rw [connectLoop, if_neg waits, received] at returned
                  cases returned
              | some signal =>
                  rw [connectLoop_signal waits received] at returned
                  have kept := receiver.remaining_sublist missing signal
                  have later := hypothesis (kept.nodup distinct)
                    (fun id member => expected (kept.subset member)) returned
                  rw [receivedSignals_signal waits received]
                  cases later with
                  | inl connected =>
                      apply Or.inl
                      intro id member
                      by_cases first : signal = .connect id
                      · exact List.mem_cons.mpr (.inl first.symm)
                      · have still := (receiver.mem_remaining_iff distinct expected signal id).mpr
                          ⟨member, first⟩
                        exact List.mem_cons_of_mem _ (connected id still)
                  | inr expires => exact .inr (expires.cons distinct expected received)
        · exact .inr (.head done (Bool.eq_false_iff.mpr early))

/-- The loop whose time expires ends without an error and without some channel. -/
theorem connectLoop_expires (distinct : missing.Nodup)
    (expected : missing ⊆ receiver.channelIds.items) (expires : Expires timeout missing rounds) :
    receiver.connectLoop timeout missing rounds = some (.ok ()) ∧
      ∃ id ∈ missing, .connect id ∉ receiver.receivedSignals timeout missing rounds := by
  obtain ⟨before, late, after, split, signalled, expired, id, member, unconnected⟩ := expires
  induction before generalizing missing rounds with
  | nil =>
      rw [List.nil_append] at split
      have ends : missing = [] ∨ ¬ timeout.gt late.elapsed = true :=
        .inr (Bool.eq_false_iff.mp expired)
      rw [split, connectLoop, if_pos ends, receivedSignals, if_pos ends]
      exact ⟨rfl, id, member, List.not_mem_nil⟩
  | cons round before hypothesis =>
      rw [List.cons_append] at split
      obtain ⟨⟨signal, received⟩, signalled⟩ := List.forall_mem_cons.mp signalled
      rw [connects_cons received, not_or] at unconnected
      obtain ⟨different, unconnected⟩ := unconnected
      by_cases early : timeout.gt round.elapsed = true
      · have waits : ¬ (missing = [] ∨ ¬ timeout.gt round.elapsed = true) :=
          not_or.mpr ⟨List.ne_nil_of_mem member, not_not.mpr early⟩
        have kept := receiver.remaining_sublist missing signal
        have still := (receiver.mem_remaining_iff distinct expected signal id).mpr
          ⟨member, different⟩
        obtain ⟨returned, other, remains, absent⟩ := hypothesis (kept.nodup distinct)
          (fun id member => expected (kept.subset member)) rfl signalled still unconnected
        rw [split, connectLoop_signal waits received, receivedSignals_signal waits received]
        refine ⟨returned, other, kept.subset remains, ?_⟩
        have first := ((receiver.mem_remaining_iff distinct expected signal other).mp remains).2
        exact fun found => (List.mem_cons.mp found).elim (fun same => first same.symm) absent
      · have ends : missing = [] ∨ ¬ timeout.gt round.elapsed = true := .inr early
        rw [split, connectLoop, if_pos ends, receivedSignals, if_pos ends]
        exact ⟨rfl, id, member, List.not_mem_nil⟩

/-- The call connects all channels and sets the flag, or it fails and leaves the flag unset. -/
def AllOrError (receiver : ProtocolMultiReceiver) (timeout : Duration) (rounds : List Round) :
    Prop :=
  ∀ result connected, receiver.connect false timeout rounds = some (result, connected) →
    (result = .ok () ∧ connected = true ∧ ∀ id ∈ receiver.channelIds.items, .connect id ∈
      receiver.receivedSignals timeout receiver.channelIds.items rounds) ∨
    (∃ error, result = .error error) ∧ connected = false

/-- The call is all or error exactly when the clock does not reach the timeout too early. -/
theorem connect_allOrError_iff (receiver : ProtocolMultiReceiver) (timeout : Duration)
    (rounds : List Round) :
    receiver.AllOrError timeout rounds ↔
      ∀ before round after, rounds = before ++ round :: after → Signalled before →
        timeout.gt round.elapsed = false → ∀ id ∈ receiver.channelIds.items, Connects before id := by
  have distinct := receiver.channelIds.nodup
  constructor
  · intro all before round after split signalled expired id member
    by_contra unconnected
    obtain ⟨returned, other, known, absent⟩ := connectLoop_expires distinct
      (List.Subset.refl receiver.channelIds.items)
      ⟨before, round, after, split, signalled, expired, id, member, unconnected⟩
    have set := all (.ok ()) true (by rw [connect, connectSenders, returned]; rfl)
    cases set with
    | inl connected => exact absent (connected.2.2 other known)
    | inr failed => cases failed.2
  · intro timely result connected returned
    rw [connect, Option.map_eq_some_iff] at returned
    obtain ⟨answer, returned, same⟩ := returned
    cases answer with
    | error error =>
        cases same
        exact .inr ⟨⟨error, rfl⟩, rfl⟩
    | ok =>
        cases same
        have ends := connectLoop_ok distinct (List.Subset.refl receiver.channelIds.items) returned
        cases ends with
        | inl all => exact .inl ⟨rfl, rfl, all⟩
        | inr expires =>
            obtain ⟨before, round, after, split, signalled, expired, id, member, unconnected⟩ :=
              expires
            exact (unconnected (timely before round after split signalled expired id member)).elim

/-- A receiver expects the agents one and two. -/
def ofTwoAgents : ProtocolMultiReceiver where
  channelIds := ⟨[.agent ⟨1⟩, .agent ⟨2⟩], by decide⟩

/-- The first connect signal uses up the timeout of five nanoseconds. -/
def slowRounds : List Round :=
  [⟨Duration.zero, .ok (some (.connect (.agent ⟨1⟩)))⟩, ⟨Duration.fromNanos 5, .ok none⟩]

/-- The call succeeds and sets the flag although agent two has never connected. -/
theorem connect_slowRounds :
    ofTwoAgents.connect false (Duration.fromNanos 5) slowRounds = some (.ok (), true) ∧
      ¬ ofTwoAgents.AllOrError (Duration.fromNanos 5) slowRounds := by
  have returned :
      ofTwoAgents.connect false (Duration.fromNanos 5) slowRounds = some (.ok (), true) := rfl
  refine ⟨returned, ?_⟩
  intro all
  cases all _ _ returned with
  | inl connected =>
      have heard := connected.2.2 (.agent ⟨2⟩) (by decide)
      revert heard
      decide
  | inr failed => cases failed.2

end ProtocolMultiReceiver

end Feo.Mpsc
