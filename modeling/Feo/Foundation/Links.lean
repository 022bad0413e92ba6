import Mathlib.Data.List.TakeWhile
import Mathlib.Data.List.Nodup
import Mathlib.Logic.Function.Basic

namespace Feo.Foundation

/-- A link either works and keeps what was sent on it, or every send on it fails. -/
structure Links (Peer Message : Type) where
  working : Peer → Bool
  delivered : Peer → List Message

namespace Links

variable {Peer Message Error : Type}

/-- A failing peer hides a working peer behind it. -/
def Hides (working : Peer → Bool) (peers : List Peer) : Prop :=
  ∃ before failing middle peer after, peers = before ++ failing :: (middle ++ peer :: after) ∧
    working failing = false ∧ working peer = true

/-- The first peer hides the working peers behind it, or the others hide one. -/
theorem hides_cons_iff (working : Peer → Bool) (first : Peer) (rest : List Peer) :
    Hides working (first :: rest) ↔
      (working first = false ∧ ∃ peer ∈ rest, working peer = true) ∨ Hides working rest := by
  constructor
  · rintro ⟨before, failing, middle, peer, after, split, fails, works⟩
    cases before with
    | nil =>
        obtain ⟨rfl, rfl⟩ := List.cons.inj split
        exact .inl ⟨fails, peer, by simp, works⟩
    | cons head before =>
        obtain ⟨rfl, rfl⟩ := List.cons.inj split
        exact .inr ⟨before, failing, middle, peer, after, rfl, fails, works⟩
  · intro either
    rcases either with ⟨fails, peer, member, works⟩ | hidden
    · obtain ⟨middle, after, rfl⟩ := List.append_of_mem member
      exact ⟨[], first, middle, peer, after, rfl, fails, works⟩
    · obtain ⟨before, failing, middle, peer, after, rfl, facts⟩ := hidden
      exact ⟨first :: before, failing, middle, peer, after, rfl, facts⟩

theorem not_hides_nil (working : Peer → Bool) : ¬ Hides working [] := by
  rintro ⟨before, failing, middle, peer, after, split, _⟩
  simp at split

/-- A failing peer of the first list hides the working peers of the second. -/
theorem hides_append_iff (working : Peer → Bool) (first second : List Peer) :
    Hides working (first ++ second) ↔ Hides working first ∨ Hides working second ∨
      (∃ failing ∈ first, working failing = false) ∧ ∃ peer ∈ second, working peer = true := by
  induction first with
  | nil => simp [not_hides_nil]
  | cons head rest ih =>
      simp only [List.cons_append, hides_cons_iff, ih, List.mem_append, List.mem_cons,
        or_and_right, exists_or, exists_eq_left]
      grind

/-- A map of the peers hides a peer when the mapped links do. -/
theorem hides_map_iff {Other : Type} (working : Other → Bool) (name : Peer → Other)
    (peers : List Peer) :
    Hides working (peers.map name) ↔ Hides (fun peer => working (name peer)) peers := by
  induction peers with
  | nil => simp [not_hides_nil]
  | cons head rest ih => simp [hides_cons_iff, ih]

/-- Nothing behind a failing peer is in front of the first failing one. -/
theorem takeWhile_stops (working : Peer → Bool) (before after : List Peer) {failing : Peer}
    (fails : working failing = false) :
    (before ++ failing :: after).takeWhile working <+: before := by
  induction before with
  | nil => simp [fails]
  | cons first rest ih =>
      simp only [List.cons_append, List.takeWhile_cons]
      split
      · exact List.cons_prefix_cons.mpr ⟨rfl, ih⟩
      · exact List.nil_prefix

/-- A failing peer is behind the peers in front of the first failing one. -/
theorem exists_failing (working : Peer → Bool) (peers : List Peer) {peer : Peer}
    (member : peer ∈ peers) (works : working peer = true)
    (missed : peer ∉ peers.takeWhile working) : Hides working peers := by
  induction peers with
  | nil => exact absurd member List.not_mem_nil
  | cons first rest ih =>
      cases fails : working first with
      | false =>
          have different : peer ≠ first := by
            rintro rfl
            rw [fails] at works
            exact Bool.noConfusion works
          have behind : peer ∈ rest := (List.mem_cons.mp member).resolve_left different
          obtain ⟨middle, after, rfl⟩ := List.append_of_mem behind
          exact ⟨[], first, middle, peer, after, rfl, fails, works⟩
      | true =>
          rw [List.takeWhile_cons, if_pos fails, List.mem_cons, not_or] at missed
          have behind : peer ∈ rest := (List.mem_cons.mp member).resolve_left missed.1
          obtain ⟨before, failing, middle, hidden, after, rfl, facts⟩ := ih behind missed.2
          exact ⟨first :: before, failing, middle, hidden, after, rfl, facts⟩

/-- Every working peer is in front of the first failing one exactly when none is hidden. -/
theorem takeWhile_complete_iff (working : Peer → Bool) {peers : List Peer}
    (distinct : peers.Nodup) :
    (∀ peer ∈ peers, working peer = true → peer ∈ peers.takeWhile working) ↔
      ¬ Hides working peers := by
  constructor
  · rintro complete ⟨before, failing, middle, peer, after, rfl, fails, works⟩
    have front := complete peer (by simp) works
    have early := (takeWhile_stops working before _ fails).subset front
    have disjoint := (List.nodup_append.mp distinct).2.2
    exact disjoint peer early peer (by simp) rfl
  · intro visible peer member works
    by_contra missed
    exact visible (exists_failing working peers member works missed)

variable [DecidableEq Peer]

def send (links : Links Peer Message) (failure : Error) (message : Message) (peer : Peer) :
    Except Error Unit × Links Peer Message :=
  if links.working peer then
    (.ok (), { links with
      delivered := Function.update links.delivered peer (links.delivered peer ++ [message]) })
  else (.error failure, links)

/-- The first error ends the loop that sends each peer its message. -/
def trySendEach (links : Links Peer Message) (failure : Error) (message : Peer → Message) :
    List Peer → Except Error Unit × Links Peer Message
  | [] => (.ok (), links)
  | peer :: rest =>
      match links.send failure (message peer) peer with
      | (.ok (), next) => next.trySendEach failure message rest
      | (.error error, next) => (.error error, next)

/-- The peers in front of the first failing one receive the message. -/
theorem trySendEach_delivered (links : Links Peer Message) (failure : Error)
    (message : Peer → Message) {peers : List Peer} (distinct : peers.Nodup) (peer : Peer) :
    (links.trySendEach failure message peers).2.delivered peer =
      if peer ∈ peers.takeWhile links.working then links.delivered peer ++ [message peer]
      else links.delivered peer := by
  induction peers generalizing links with
  | nil => simp [trySendEach]
  | cons first rest ih =>
      obtain ⟨fresh, distinctRest⟩ := List.nodup_cons.mp distinct
      by_cases works : links.working first = true
      · simp only [trySendEach, send, if_pos works, List.takeWhile_cons, List.mem_cons]
        rw [ih _ distinctRest]
        by_cases same : peer = first
        · subst same
          have absent : peer ∉ rest.takeWhile links.working := fun member =>
            fresh ((List.takeWhile_prefix _).subset member)
          simp [absent]
        · simp [same]
      · simp only [trySendEach, send, if_neg works, List.takeWhile_cons, List.not_mem_nil,
          if_false]

/-- The loop succeeds when no link fails. -/
theorem trySendEach_ok_iff (links : Links Peer Message) (failure : Error) (message : Peer → Message)
    (peers : List Peer) :
    (links.trySendEach failure message peers).1 = .ok () ↔
      ∀ peer ∈ peers, links.working peer = true := by
  induction peers generalizing links with
  | nil => simp [trySendEach]
  | cons first rest ih =>
      by_cases works : links.working first = true
      · simp only [trySendEach, send, if_pos works, ih, List.forall_mem_cons]
        simp only [works, true_and]
      · simp only [trySendEach, send, if_neg works, List.forall_mem_cons]
        exact ⟨fun sent => (nomatch sent), fun all => absurd all.1 works⟩

/-- The loop reaches every working peer exactly when no failing peer hides one. -/
theorem trySendEach_reaches_iff (links : Links Peer Message) (failure : Error)
    (message : Peer → Message) {peers : List Peer} (distinct : peers.Nodup) :
    (∀ peer ∈ peers, links.working peer = true →
      (links.trySendEach failure message peers).2.delivered peer =
        links.delivered peer ++ [message peer]) ↔
      ¬ Hides links.working peers := by
  rw [← takeWhile_complete_iff links.working distinct]
  constructor
  · intro reached peer member works
    have sent := reached peer member works
    rw [trySendEach_delivered links failure message distinct] at sent
    by_contra missed
    rw [if_neg missed] at sent
    exact absurd (congrArg List.length sent) (by simp)
  · intro complete peer member works
    rw [trySendEach_delivered links failure message distinct, if_pos (complete peer member works)]

end Links

end Feo.Foundation
