import Feo.Construction.Socket.Send
import Feo.Foundation.Delivery
import Mathlib.Data.List.Induction

namespace Feo

open Foundation

/-- A stream with these answers takes this many of the offered bytes. -/
def WriteAnswer.taken (size : Nat) : List WriteAnswer → Nat
  | [] => size
  | .accepted 0 :: _ => 0
  | .accepted count :: answers => min count size + taken (size - count) answers
  | .interrupted :: answers => taken size answers
  | .failed _ :: _ => 0

theorem WriteAnswer.taken_le (size : Nat) (answers : List WriteAnswer) :
    taken size answers ≤ size := by
  induction answers generalizing size with
  | nil => exact Nat.le_refl _
  | cons answer answers ih =>
      cases answer with
      | accepted count =>
          cases count with
          | zero => exact Nat.zero_le _
          | succ count =>
              have rest := ih (size - (count + 1))
              simp only [taken]
              omega
      | interrupted => exact ih size
      | failed kind => exact Nat.zero_le _

theorem WriteAnswer.taken_zero (answers : List WriteAnswer) : taken 0 answers = 0 :=
  Nat.le_zero.mp (taken_le 0 answers)

namespace ByteSink

/-- Nothing is left to write after the last byte. -/
theorem writeAll_empty (sink : ByteSink) (answers : List WriteAnswer) :
    sink.writeAll [] answers = (.ok (), sink) := by
  cases answers with
  | nil => simp only [writeAll, List.append_nil]
  | cons answer answers => simp only [writeAll, if_pos]

/-- The peer receives the taken bytes, and the write succeeds when all bytes are taken. -/
theorem writeAll_spec (sink : ByteSink) (bytes : List UInt8) (answers : List WriteAnswer) :
    (sink.writeAll bytes answers).2.wire =
        sink.wire ++ bytes.take (WriteAnswer.taken bytes.length answers) ∧
      ((sink.writeAll bytes answers).1 = .ok () ↔
        WriteAnswer.taken bytes.length answers = bytes.length) := by
  induction answers generalizing sink bytes with
  | nil =>
      simp only [writeAll, WriteAnswer.taken, List.take_length, true_and]
  | cons answer answers ih =>
      by_cases empty : bytes = []
      · subst empty
        rw [writeAll_empty, List.length_nil, WriteAnswer.taken_zero]
        simp
      · have positive : 0 < bytes.length := List.length_pos_iff.mpr empty
        cases answer with
        | accepted count =>
            cases count with
            | zero =>
                simp only [writeAll, if_neg empty, WriteAnswer.taken, List.take_zero,
                  List.append_nil, true_and, reduceCtorEq, false_iff]
                omega
            | succ count =>
                have rest := ih ⟨sink.wire ++ bytes.take (count + 1)⟩ (bytes.drop (count + 1))
                rw [List.length_drop] at rest
                simp only [writeAll, if_neg empty, WriteAnswer.taken]
                constructor
                · rw [rest.1, List.append_assoc]
                  congr 1
                  by_cases inside : count + 1 ≤ bytes.length
                  · rw [Nat.min_eq_left inside, ← List.take_add]
                  · have whole : bytes.length ≤ count + 1 := by omega
                    rw [Nat.min_eq_right whole, List.drop_of_length_le whole, List.take_nil,
                      List.append_nil, List.take_of_length_le whole, List.take_of_length_le]
                    omega
                · rw [rest.2]
                  have bounded := WriteAnswer.taken_le (bytes.length - (count + 1)) answers
                  omega
        | interrupted =>
            simp only [writeAll, if_neg empty, WriteAnswer.taken]
            exact ih sink bytes
        | failed kind =>
            simp only [writeAll, if_neg empty, WriteAnswer.taken, List.take_zero,
              List.append_nil, true_and, reduceCtorEq, false_iff]
            omega

end ByteSink

namespace Connection

variable {M : Type} [EncodeDecode M]

/-- A frame that exceeds the buffer is not offered to the stream. -/
def offered (message : M) : Nat :=
  if (EncodeDecode.encode message).length ≤ bufferSize then
    (EncodeDecode.encode message).length
  else 0

/-- The stream takes this many bytes of the frame of one `send`. -/
def takenOf (request : M × SendAnswers) : Nat :=
  WriteAnswer.taken (offered request.1) request.2.writes

/-- The stream stops inside the frame of this `send`. -/
def StopsInside (request : M × SendAnswers) : Prop :=
  0 < takenOf request ∧ takenOf request < offered request.1

/-- The stream takes bytes again after it stopped inside a frame. -/
def Resumes (requests : List (M × SendAnswers)) : Prop :=
  ∃ before torn middle later after, requests = before ++ torn :: middle ++ later :: after ∧
    StopsInside torn ∧ 0 < takenOf later

/-- The `send` returns an error after a part of its frame reached the peer. -/
def Tears (connection : Connection ByteSink) (request : M × SendAnswers) : Prop :=
  ∃ kind written, (connection.send request.1 request.2).1 = .error kind ∧
    (connection.send request.1 request.2).2.stream.wire = connection.stream.wire ++ written ∧
    written ≠ [] ∧ written <+: EncodeDecode.encode request.1 ∧
    written ≠ EncodeDecode.encode request.1

/-- The peer has whole frames at each moment, and no byte follows a torn frame. -/
def KeepsFrames (connection : Connection ByteSink) (requests : List (M × SendAnswers)) : Prop :=
  (∀ before after, requests = before ++ after →
    WholeFrames EncodeDecode.encode (before.map Prod.fst) (connection.sends before).stream.wire) ∧
  ∀ before torn middle later after, requests = before ++ torn :: middle ++ later :: after →
    Tears (connection.sends before) torn →
      (connection.sends (before ++ torn :: middle ++ [later])).stream.wire =
        (connection.sends (before ++ torn :: middle)).stream.wire

theorem sends_append (connection : Connection ByteSink)
    (first second : List (M × SendAnswers)) :
    connection.sends (first ++ second) = (connection.sends first).sends second := by
  induction first generalizing connection with
  | nil => rfl
  | cons request rest ih => exact ih (connection.send request.1 request.2).2

/-- A `send` adds the taken bytes of its frame. -/
theorem send_wire (connection : Connection ByteSink) (request : M × SendAnswers) :
    (connection.send request.1 request.2).2.stream.wire =
      connection.stream.wire ++ (EncodeDecode.encode request.1).take (takenOf request) := by
  unfold send takenOf offered
  by_cases fits : (EncodeDecode.encode request.1).length ≤ bufferSize
  · rw [if_pos fits, if_pos fits]
    have written := (connection.stream.writeAll_spec (EncodeDecode.encode request.1)
      request.2.writes).1
    rw [← written]
    split <;> simp_all
  · rw [if_neg fits, if_neg fits, WriteAnswer.taken_zero, List.take_zero, List.append_nil]

/-- The last `send` adds its taken bytes to those of the earlier ones. -/
theorem sends_concat_wire (connection : Connection ByteSink)
    (requests : List (M × SendAnswers)) (request : M × SendAnswers) :
    (connection.sends (requests ++ [request])).stream.wire =
      (connection.sends requests).stream.wire ++
        (EncodeDecode.encode request.1).take (takenOf request) := by
  rw [sends_append]
  exact send_wire (connection.sends requests) request

/-- A `send` fails when the stream stops inside its frame. -/
theorem send_fails (connection : Connection ByteSink) (request : M × SendAnswers)
    (stops : StopsInside request) :
    ∃ kind, (connection.send request.1 request.2).1 = .error kind := by
  obtain ⟨some, short⟩ := stops
  unfold takenOf offered at short some
  unfold send
  by_cases fits : (EncodeDecode.encode request.1).length ≤ bufferSize
  · rw [if_pos fits] at short some
    rw [if_pos fits]
    have result := (connection.stream.writeAll_spec (EncodeDecode.encode request.1)
      request.2.writes).2
    split
    · next kind stream wrote => exact ⟨kind, rfl⟩
    · next stream wrote =>
        rw [wrote] at result
        have all := result.mp rfl
        omega
  · rw [if_neg fits] at short
    omega

/-- A frame of which a byte is taken was offered as a whole. -/
theorem offered_of_taken {request : M × SendAnswers} (some : 0 < takenOf request) :
    offered request.1 = (EncodeDecode.encode request.1).length := by
  by_cases fits : (EncodeDecode.encode request.1).length ≤ bufferSize
  · exact if_pos fits
  · have bounded : takenOf request ≤ offered request.1 := WriteAnswer.taken_le _ _
    rw [offered, if_neg fits] at bounded
    omega

/-- The taken bytes of a frame are none, all, or a proper part of them. -/
theorem takenOf_cases (request : M × SendAnswers) :
    takenOf request = 0 ∨ takenOf request = (EncodeDecode.encode request.1).length ∨
      StopsInside request := by
  have bounded : takenOf request ≤ offered request.1 := WriteAnswer.taken_le _ _
  rcases Nat.eq_zero_or_pos (takenOf request) with none | some
  · exact .inl none
  · have size := offered_of_taken some
    unfold StopsInside
    omega

/-- The taken bytes of a torn frame are a nonempty and proper front of it. -/
theorem taken_of_stopsInside {request : M × SendAnswers} (stops : StopsInside request) :
    (EncodeDecode.encode request.1).take (takenOf request) ≠ [] ∧
      (EncodeDecode.encode request.1).take (takenOf request) ≠ EncodeDecode.encode request.1 := by
  have size := offered_of_taken stops.1
  have positive := stops.1
  have inside := stops.2
  constructor
  · intro none
    have short := congrArg List.length none
    rw [List.length_take, List.length_nil] at short
    omega
  · intro all
    have long := congrArg List.length all
    rw [List.length_take] at long
    omega

/-- The stream stops inside exactly the torn frames. -/
theorem tears_iff (connection : Connection ByteSink) (request : M × SendAnswers) :
    Tears connection request ↔ StopsInside request := by
  constructor
  · rintro ⟨kind, written, failed, wire, some, front, proper⟩
    rw [send_wire] at wire
    have same := List.append_cancel_left wire
    subst same
    rcases takenOf_cases request with none | all | stops
    · rw [none, List.take_zero] at some
      exact absurd rfl some
    · rw [all, List.take_length] at proper
      exact absurd rfl proper
    · exact stops
  · intro stops
    obtain ⟨kind, failed⟩ := send_fails connection request stops
    obtain ⟨some, proper⟩ := taken_of_stopsInside stops
    exact ⟨kind, _, failed, send_wire connection request, some, List.take_prefix _ _, proper⟩

/-- A part of a list does not resume when the list does not. -/
theorem Resumes.append {requests more : List (M × SendAnswers)} (resumes : Resumes requests) :
    Resumes (requests ++ more) := by
  obtain ⟨before, torn, middle, later, after, rfl, stops, some⟩ := resumes
  exact ⟨before, torn, middle, later, after ++ more, by simp, stops, some⟩

/-- Without a resumption the frames are aligned, or one frame is torn and all are whole. -/
theorem sends_whole (requests : List (M × SendAnswers)) (refuses : ¬ Resumes requests) :
    Aligned EncodeDecode.encode (requests.map Prod.fst)
        ((Connection.new ⟨[]⟩).sends requests).stream.wire ∨
      (∃ torn ∈ requests, StopsInside torn) ∧
        WholeFrames EncodeDecode.encode (requests.map Prod.fst)
          ((Connection.new ⟨[]⟩).sends requests).stream.wire := by
  induction requests using List.reverseRecOn with
  | nil => exact .inl Aligned.nil
  | append_singleton requests request ih =>
      have kept := ih fun resumes => refuses resumes.append
      rw [sends_concat_wire, List.map_append, List.map_singleton]
      cases kept with
      | inl aligned =>
          rcases takenOf_cases request with none | all | stops
          · rw [none, List.take_zero, List.append_nil]
            exact .inl (aligned.skip request.1)
          · rw [all, List.take_length]
            exact .inl (aligned.frame request.1)
          · obtain ⟨_, proper⟩ := taken_of_stopsInside stops
            refine .inr ⟨⟨request, by simp, stops⟩, ?_⟩
            exact aligned.fragment request.1 (List.take_prefix _ _) proper
      | inr broken =>
          obtain ⟨⟨torn, member, stops⟩, whole⟩ := broken
          have none : takenOf request = 0 := by
            by_contra some
            obtain ⟨before, middle, rfl⟩ := List.append_of_mem member
            exact refuses ⟨before, torn, middle, request, [], by simp, stops,
              Nat.pos_of_ne_zero some⟩
          rw [none, List.take_zero, List.append_nil]
          exact .inr ⟨⟨torn, List.mem_append_left _ member, stops⟩, whole.skip request.1⟩

/-- The stream takes the whole frame of this `send`. -/
def takesWhole (request : M × SendAnswers) : Bool :=
  takenOf request == (EncodeDecode.encode request.1).length

/-- These messages have their whole frames on the wire. -/
def wholeMessages (requests : List (M × SendAnswers)) : List M :=
  (requests.filter takesWhole).map Prod.fst

theorem wholeMessages_concat (requests : List (M × SendAnswers)) (request : M × SendAnswers) :
    wholeMessages (requests ++ [request]) = wholeMessages requests ++ wholeMessages [request] := by
  simp [wholeMessages]

theorem wholeMessages_singleton (request : M × SendAnswers) :
    wholeMessages [request] =
      if takenOf request = (EncodeDecode.encode request.1).length then [request.1] else [] := by
  unfold wholeMessages
  split
  · next whole => rw [List.filter_singleton, takesWhole, whole, beq_self_eq_true]; rfl
  · next partly =>
      have none : takesWhole request = false := beq_eq_false_iff_ne.mpr partly
      rw [List.filter_singleton, none]
      rfl

/-- The stream takes a whole frame or nothing when it does not stop inside the frame. -/
theorem take_of_not_stopsInside {request : M × SendAnswers} (goes : ¬ StopsInside request) :
    (EncodeDecode.encode request.1).take (takenOf request) =
      (wholeMessages [request]).flatMap EncodeDecode.encode := by
  rw [wholeMessages_singleton]
  split
  · next whole => rw [whole, List.take_length, List.flatMap_singleton]
  · next partly =>
      rcases takenOf_cases request with none | all | stops
      · rw [none, List.take_zero, List.flatMap_nil]
      · exact absurd all partly
      · exact absurd stops goes

theorem wholeMessages_of_stopsInside {request : M × SendAnswers} (stops : StopsInside request) :
    wholeMessages [request] = [] := by
  have size := offered_of_taken stops.1
  have short := stops.2
  rw [wholeMessages_singleton, if_neg (by omega)]

/-- Without a resumption the wire has the whole frames and perhaps a torn one behind them. -/
theorem sends_taken (requests : List (M × SendAnswers)) (refuses : ¬ Resumes requests) :
    ∃ fragment, ((Connection.new ⟨[]⟩).sends requests).stream.wire =
        (wholeMessages requests).flatMap EncodeDecode.encode ++ fragment ∧
      (fragment = [] ∨ ∃ torn ∈ requests, StopsInside torn ∧
        fragment = (EncodeDecode.encode torn.1).take (takenOf torn)) := by
  induction requests using List.reverseRecOn with
  | nil => exact ⟨[], rfl, .inl rfl⟩
  | append_singleton requests request ih =>
      obtain ⟨fragment, wire, ends⟩ := ih fun resumes => refuses resumes.append
      rw [sends_concat_wire, wire, wholeMessages_concat, List.flatMap_append]
      rcases ends with rfl | ⟨torn, member, stops, rfl⟩
      · rw [List.append_nil]
        by_cases stops : StopsInside request
        · refine ⟨_, ?_, .inr ⟨request, by simp, stops, rfl⟩⟩
          rw [wholeMessages_of_stopsInside stops, List.flatMap_nil, List.append_nil]
        · refine ⟨[], ?_, .inl rfl⟩
          rw [take_of_not_stopsInside stops, List.append_nil]
      · have none : takenOf request = 0 := by
          by_contra some
          obtain ⟨before, middle, rfl⟩ := List.append_of_mem member
          exact refuses ⟨before, torn, middle, request, [], by simp, stops,
            Nat.pos_of_ne_zero some⟩
        have goes : ¬ StopsInside request := fun inside => Nat.ne_of_gt inside.1 none
        refine ⟨_, ?_, .inr ⟨torn, List.mem_append_left _ member, stops, rfl⟩⟩
        rw [← take_of_not_stopsInside goes, none, List.take_zero, List.append_nil, List.append_nil]

/-- The peer keeps whole frames exactly when the stream never resumes after a torn frame. -/
theorem keepsFrames_iff (requests : List (M × SendAnswers)) :
    KeepsFrames (Connection.new ⟨[]⟩) requests ↔ ¬ Resumes requests := by
  constructor
  · rintro ⟨_, silent⟩ ⟨before, torn, middle, later, after, split, stops, some⟩
    have quiet := silent before torn middle later after split ((tears_iff _ torn).mpr stops)
    rw [sends_concat_wire] at quiet
    have empty := congrArg List.length quiet
    rw [List.length_append, List.length_take, ← offered_of_taken some] at empty
    have bounded : takenOf later ≤ offered later.1 := WriteAnswer.taken_le _ _
    omega
  · intro refuses
    constructor
    · intro before after split
      subst split
      rcases sends_whole before fun resumes => refuses resumes.append with aligned | torn
      · exact .inl aligned
      · exact torn.2
    · intro before torn middle later after split tears
      have stops := (tears_iff _ torn).mp tears
      rw [sends_concat_wire]
      have none : takenOf later = 0 := by
        by_contra some
        exact refuses ⟨before, torn, middle, later, after, split, stops, Nat.pos_of_ne_zero some⟩
      rw [none, List.take_zero, List.append_nil]

/-- The stream takes one byte of the first frame, then `WouldBlock`, then the second frame. -/
theorem keepsFrames_fails :
    ¬ KeepsFrames (Connection.new ⟨[]⟩)
      [(ProtocolSignal.core (.shutdown ⟨1⟩ ⟨Duration.zero⟩),
          ⟨[.accepted 1, .failed .wouldBlock], .ok ()⟩),
        (ProtocolSignal.core (.shutdown ⟨2⟩ ⟨Duration.zero⟩), ⟨[], .ok ()⟩)] := by
  intro keeps
  have quiet := keeps.2 [] (ProtocolSignal.core (.shutdown ⟨1⟩ ⟨Duration.zero⟩), _) []
    (ProtocolSignal.core (.shutdown ⟨2⟩ ⟨Duration.zero⟩), _) [] rfl
    ⟨.wouldBlock, [23], rfl, rfl, by decide, by decide, by decide⟩
  exact absurd (congrArg List.length quiet) (by decide)

end Connection

end Feo
