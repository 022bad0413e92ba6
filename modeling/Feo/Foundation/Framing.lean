import Mathlib.Data.List.Basic
import Mathlib.Order.Basic

namespace Feo.Foundation

/-- A decoder consumes one frame at the front of a buffer, waits for more bytes, or panics. -/
abbrev Decoder (Byte Message : Type) := List Byte → Except String (Option (Message × Nat))

variable {Byte Message : Type}

/-- A frame decodes before any rest, and its proper prefixes wait. -/
structure IsFrame (decode : Decoder Byte Message) (frame : List Byte) (message : Message) :
    Prop where
  complete : ∀ rest, decode (frame ++ rest) = .ok (some (message, frame.length))
  incomplete : ∀ front, front <+: frame → front ≠ frame → decode front = .ok none

/-- A framing has nonempty frames of bounded size for its valid messages. -/
structure Framing (decode : Decoder Byte Message) (encode : Message → List Byte)
    (Valid : Message → Prop) (bound : Nat) : Prop where
  empty : decode [] = .ok none
  frame : ∀ message, Valid message → IsFrame decode (encode message) message
  nonempty : ∀ message, Valid message → 0 < (encode message).length
  bounded : ∀ message, Valid message → (encode message).length ≤ bound

/-- A fragment is empty or a proper prefix of a valid frame. -/
def Fragment (encode : Message → List Byte) (Valid : Message → Prop) (bytes : List Byte) : Prop :=
  bytes = [] ∨ ∃ message, Valid message ∧ bytes <+: encode message ∧ bytes ≠ encode message

namespace Framing

variable {decode : Decoder Byte Message} {encode : Message → List Byte}
  {Valid : Message → Prop} {bound : Nat}

/-- A window over a complete first frame decodes to its message. -/
theorem decode_complete (framing : Framing decode encode Valid bound) {message : Message}
    (valid : Valid message) {window unread rest : List Byte}
    (split : window ++ unread = encode message ++ rest)
    (long : (encode message).length ≤ window.length) :
    decode window = .ok (some (message, (encode message).length)) ∧
      window.drop (encode message).length ++ unread = rest := by
  obtain ⟨tail, same⟩ : encode message <+: window := by
    have reads : window <+: encode message ++ rest := ⟨unread, split⟩
    exact List.prefix_of_prefix_length_le (List.prefix_append _ _) reads long
  subst same
  have rest_eq : tail ++ unread = rest := by
    rw [List.append_assoc] at split
    exact List.append_cancel_left split
  refine ⟨(framing.frame message valid).complete tail, ?_⟩
  rw [List.drop_left, rest_eq]

/-- A window over an incomplete first frame waits. -/
theorem decode_incomplete (framing : Framing decode encode Valid bound) {message : Message}
    (valid : Valid message) {window unread rest : List Byte}
    (split : window ++ unread = encode message ++ rest)
    (short : window.length < (encode message).length) : decode window = .ok none := by
  have front : window <+: encode message := by
    have reads : window <+: encode message ++ rest := ⟨unread, split⟩
    exact List.prefix_of_prefix_length_le reads (List.prefix_append _ _) (Nat.le_of_lt short)
  refine (framing.frame message valid).incomplete window front ?_
  intro same
  rw [same] at short
  exact Nat.lt_irrefl _ short

/-- A window over a fragment waits. -/
theorem decode_fragment (framing : Framing decode encode Valid bound)
    {fragment window unread : List Byte} (fragmented : Fragment encode Valid fragment)
    (split : window ++ unread = fragment) :
    decode window = .ok none ∧ window.length ≤ bound := by
  have front : window <+: fragment := ⟨unread, split⟩
  rcases fragmented with rfl | ⟨message, valid, isPrefix, proper⟩
  · rw [List.prefix_nil.mp front]
    exact ⟨framing.empty, Nat.zero_le _⟩
  · have size := framing.bounded message valid
    have shorter := front.length_le
    have less := isPrefix.length_le
    refine ⟨(framing.frame message valid).incomplete window (front.trans isPrefix) ?_, by omega⟩
    intro same
    subst same
    exact proper (isPrefix.eq_of_length_le shorter)

/-- A window over some frames and a fragment either decodes to the first message or waits. -/
theorem decode_window (framing : Framing decode encode Valid bound) {messages : List Message}
    (valid : ∀ message ∈ messages, Valid message) {fragment window unread : List Byte}
    (fragmented : Fragment encode Valid fragment)
    (split : window ++ unread = messages.flatMap encode ++ fragment) :
    (decode window = .ok none ∧ window.length ≤ bound ∧
        ∀ message rest, messages = message :: rest → window.length < (encode message).length) ∨
      ∃ message rest, messages = message :: rest ∧
        (encode message).length ≤ window.length ∧
        decode window = .ok (some (message, (encode message).length)) ∧
        window.drop (encode message).length ++ unread = rest.flatMap encode ++ fragment := by
  cases messages with
  | nil =>
      obtain ⟨waits, short⟩ := framing.decode_fragment fragmented split
      exact .inl ⟨waits, short, fun _ _ impossible => nomatch impossible⟩
  | cons message rest =>
      have validHead := valid message List.mem_cons_self
      rw [List.flatMap_cons, List.append_assoc] at split
      by_cases long : (encode message).length ≤ window.length
      · have decoded := framing.decode_complete validHead split long
        exact .inr ⟨message, rest, rfl, long, decoded.1, decoded.2⟩
      · have short : window.length < (encode message).length := Nat.lt_of_not_le long
        have size := framing.bounded message validHead
        refine .inl ⟨framing.decode_incomplete validHead split short, by omega, ?_⟩
        intro other tail same
        cases same
        exact short

end Framing

end Feo.Foundation
