import Mathlib.Data.List.Infix

namespace Feo.Foundation

/-- The bytes of a text in UTF-8. -/
def utf8Bytes (text : List Char) : List UInt8 := text.flatMap String.utf8EncodeChar

@[simp] theorem utf8Bytes_nil : utf8Bytes [] = [] := rfl

@[simp] theorem utf8Bytes_cons (char : Char) (rest : List Char) :
    utf8Bytes (char :: rest) = String.utf8EncodeChar char ++ utf8Bytes rest := rfl

@[simp] theorem utf8Bytes_append (first second : List Char) :
    utf8Bytes (first ++ second) = utf8Bytes first ++ utf8Bytes second := List.flatMap_append

/-- A prefix has no more bytes than the text. -/
theorem utf8Bytes_length_le {short long : List Char} (inside : short <+: long) :
    (utf8Bytes short).length ≤ (utf8Bytes long).length := by
  obtain ⟨rest, rfl⟩ := inside
  simp

/-- Each character is listed with the position of its first byte. -/
def charIndicesFrom : Nat → List Char → List (Nat × Char)
  | _, [] => []
  | pos, char :: rest => (pos, char) :: charIndicesFrom (pos + char.utf8Size) rest

def charIndices (text : List Char) : List (Nat × Char) := charIndicesFrom 0 text

/-- A limited text ends at the last whole character that still fits. -/
structure LongestPrefix (limit : Nat) (text kept : List Char) : Prop where
  inside : kept <+: text
  fits : (utf8Bytes kept).length ≤ limit
  longest : ∀ other, other <+: text → (utf8Bytes other).length ≤ limit → other <+: kept

/-- The character starts below the limit, and no later one does. -/
structure LastStarted (limit : Nat) (text front : List Char) (last : Char) (back : List Char) :
    Prop where
  split : text = front ++ last :: back
  started : (utf8Bytes front).length < limit
  final : back = [] ∨ limit ≤ (utf8Bytes front).length + last.utf8Size

/-- Some character starts last unless the text is empty or the limit is zero. -/
theorem exists_lastStarted (limit : Nat) (text : List Char) (nonempty : text ≠ [])
    (positive : 0 < limit) : ∃ front last back, LastStarted limit text front last back := by
  induction text generalizing limit with
  | nil => exact absurd rfl nonempty
  | cons char rest ih =>
      by_cases last : rest = [] ∨ limit ≤ char.utf8Size
      · exact ⟨[], char, rest, rfl, positive, by simpa using last⟩
      · rw [not_or, Nat.not_le] at last
        have room : 0 < limit - char.utf8Size := by omega
        obtain ⟨front, last, back, found⟩ := ih (limit - char.utf8Size) last.1 room
        have started := found.started
        have width : (utf8Bytes (char :: front)).length =
            char.utf8Size + (utf8Bytes front).length := by simp
        refine ⟨char :: front, last, back, by rw [found.split, List.cons_append], by omega, ?_⟩
        apply found.final.imp_right
        intro full
        omega

/-- A prefix ends before the split character or contains it. -/
theorem prefix_split {front back other : List Char} {last : Char}
    (inside : other <+: front ++ last :: back) :
    other <+: front ∨ front ++ [last] <+: other := by
  rcases List.prefix_or_prefix_of_prefix inside (List.prefix_append front (last :: back)) with
    shorter | longer
  · exact Or.inl shorter
  · obtain ⟨rest, rfl⟩ := longer
    rw [List.prefix_append_right_inj] at inside
    cases rest with
    | nil => exact Or.inl (by simp)
    | cons first rest =>
        obtain ⟨same, -⟩ := List.cons_prefix_cons.mp inside
        rw [same]
        exact Or.inr ⟨rest, by simp⟩

section LastStarted

variable {limit : Nat} {text front back kept : List Char} {last : Char}

/-- The prefix up to a last character of one byte is the longest one. -/
theorem LastStarted.longest_narrow (found : LastStarted limit text front last back)
    (narrow : last.utf8Size = 1) : LongestPrefix limit text (front ++ [last]) := by
  have started := found.started
  rw [found.split]
  refine ⟨⟨back, by simp⟩, ?_, ?_⟩
  · simp [narrow]
    omega
  · intro other inside fits
    rcases prefix_split inside with shorter | longer
    · exact shorter.trans (List.prefix_append front [last])
    · rcases found.final with rfl | full
      · exact inside
      · obtain ⟨rest, rfl⟩ := longer
        cases rest with
        | nil => simp
        | cons char rest =>
            have wide := char.utf8Size_pos
            simp at fits
            omega

/-- No prefix has one byte of a wider last character. -/
theorem LastStarted.length_ne_of_wide (found : LastStarted limit text front last back)
    (wide : last.utf8Size ≠ 1) (inside : kept <+: text) :
    (utf8Bytes kept).length ≠ (utf8Bytes front).length + 1 := by
  rw [found.split] at inside
  have positive := last.utf8Size_pos
  rcases prefix_split inside with shorter | longer
  · have bound := utf8Bytes_length_le shorter
    omega
  · have bound := utf8Bytes_length_le longer
    simp at bound
    omega

end LastStarted

/-- A continuation byte stands behind the first byte of a character. -/
def isContinuation (byte : UInt8) : Bool := decide (0x80 ≤ byte ∧ byte ≤ 0xBF)

/-- The first byte of three or four restricts the second one. -/
def secondFits (first second : UInt8) : Bool :=
  if first = 0xE0 then decide (0xA0 ≤ second ∧ second ≤ 0xBF)
  else if first = 0xED then decide (0x80 ≤ second ∧ second ≤ 0x9F)
  else if first = 0xF0 then decide (0x90 ≤ second ∧ second ≤ 0xBF)
  else if first = 0xF4 then decide (0x80 ≤ second ∧ second ≤ 0x8F)
  else decide (0xE0 ≤ first ∧ first ≤ 0xF4) && isContinuation second

/-- A broken character extends to the first byte that does not continue it. -/
def invalidLength : List UInt8 → Nat
  | first :: second :: rest =>
      if secondFits first second then
        if 0xF0 ≤ first ∧ rest.head?.any isContinuation then 3 else 2
      else 1
  | _ => 1

/-- The bytes start with a character or with a broken one, which is replaced. -/
def lossyChar (bytes : List UInt8) : Char × Nat :=
  match bytes.toByteArray.utf8DecodeChar? 0 with
  | some char => (char, char.utf8Size)
  | none => (Char.ofNat 0xFFFD, invalidLength bytes)

/-- Each character consumes at least one byte, so as many rounds as bytes are enough. -/
def lossyLoop : Nat → List UInt8 → List Char
  | 0, _ => []
  | _, [] => []
  | rounds + 1, bytes =>
      (lossyChar bytes).1 :: lossyLoop rounds (bytes.drop (lossyChar bytes).2)

/-- The conversion replaces the invalid bytes. -/
def fromUtf8Lossy (bytes : List UInt8) : List Char := lossyLoop bytes.length bytes

theorem lossyChar_encode (char : Char) (rest : List UInt8) :
    lossyChar (String.utf8EncodeChar char ++ rest) = (char, char.utf8Size) := by
  rw [lossyChar, List.toByteArray_append, ByteArray.utf8DecodeChar?_utf8EncodeChar_append]

/-- The bytes of a text are converted to the text before the bytes behind it. -/
theorem lossyLoop_utf8Bytes_append (rounds : Nat) (text : List Char) (tail : List UInt8) :
    lossyLoop (text.length + rounds) (utf8Bytes text ++ tail) = text ++ lossyLoop rounds tail := by
  induction text with
  | nil => rw [List.length_nil, Nat.zero_add, utf8Bytes_nil, List.nil_append, List.nil_append]
  | cons char text ih =>
      have more : (char :: text).length + rounds = text.length + rounds + 1 := by
        rw [List.length_cons]
        omega
      have step : lossyLoop (text.length + rounds + 1) (utf8Bytes (char :: text) ++ tail) =
          (lossyChar (utf8Bytes (char :: text) ++ tail)).1 ::
            lossyLoop (text.length + rounds) ((utf8Bytes (char :: text) ++ tail).drop
              (lossyChar (utf8Bytes (char :: text) ++ tail)).2) := by
        rw [lossyLoop]
        simp
      rw [more, step, utf8Bytes_cons, List.append_assoc, lossyChar_encode,
        List.drop_left' (String.length_utf8EncodeChar char), ih, List.cons_append]

/-- A text has no more characters than bytes. -/
theorem length_le_utf8Bytes (text : List Char) : text.length ≤ (utf8Bytes text).length := by
  induction text with
  | nil => exact Nat.le_refl _
  | cons char text ih =>
      have positive := char.utf8Size_pos
      rw [utf8Bytes_cons, List.length_append, String.length_utf8EncodeChar, List.length_cons]
      omega

/-- The bytes of a text survive the conversion. -/
theorem fromUtf8Lossy_utf8Bytes (text : List Char) : fromUtf8Lossy (utf8Bytes text) = text := by
  have enough := length_le_utf8Bytes text
  have converted := lossyLoop_utf8Bytes_append ((utf8Bytes text).length - text.length) text []
  rw [Nat.add_sub_cancel' enough, List.append_nil] at converted
  rw [fromUtf8Lossy, converted]
  cases (utf8Bytes text).length - text.length <;> exact List.append_nil text

theorem utf8EncodeChar_ascii :
    ∀ byte : Fin 256, byte.val < 128 →
      String.utf8EncodeChar (Char.ofNat byte.val) = [UInt8.ofFin byte] := by decide +kernel

theorem lossyChar_high :
    ∀ byte : Fin 256, ¬ byte.val < 128 →
      lossyChar [UInt8.ofFin byte] = (Char.ofNat 0xFFFD, 1) := by decide +kernel

/-- The first byte of a wider character is broken on its own. -/
theorem lossyChar_first {char : Char} {first : UInt8} {rest : List UInt8}
    (wide : char.utf8Size ≠ 1) (starts : String.utf8EncodeChar char = first :: rest) :
    lossyChar [first] = (Char.ofNat 0xFFFD, 1) := by
  apply lossyChar_high first.toFin
  intro low
  have ascii : String.utf8EncodeChar (Char.ofNat first.toNat) = [first] :=
    utf8EncodeChar_ascii first.toFin low
  have same : Char.ofNat first.toNat = char := by
    have encoded := lossyChar_encode (Char.ofNat first.toNat) rest
    have whole := lossyChar_encode char []
    rw [ascii, List.singleton_append, ← starts] at encoded
    rw [List.append_nil, encoded] at whole
    exact congrArg Prod.fst whole
  have size := congrArg List.length ascii
  rw [same, String.length_utf8EncodeChar] at size
  exact wide size

/-- A text with the first byte of a wider character ends in a replacement character. -/
theorem fromUtf8Lossy_cut {text : List Char} {char : Char} {first : UInt8} {rest : List UInt8}
    (wide : char.utf8Size ≠ 1) (starts : String.utf8EncodeChar char = first :: rest) :
    fromUtf8Lossy (utf8Bytes text ++ [first]) = text ++ [Char.ofNat 0xFFFD] := by
  have enough := length_le_utf8Bytes text
  have rounds : (utf8Bytes text ++ [first]).length =
      text.length + ((utf8Bytes text).length - text.length + 1) := by
    rw [List.length_append, List.length_singleton]
    omega
  rw [fromUtf8Lossy, rounds, lossyLoop_utf8Bytes_append, lossyLoop, lossyChar_first wide starts]
  · cases (utf8Bytes text).length - text.length <;> rfl
  · simp

end Feo.Foundation
