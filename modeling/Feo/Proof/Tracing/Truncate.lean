import Feo.Construction.Tracing.Record

namespace Feo.Tracing

open Foundation

variable {size : Nat}

/-- The text fills the front of the buffer up to the returned length. -/
def KeepsLongestPrefix (slice : List Char) (buffer : Bytes size) : Prop :=
  ∃ kept written, LongestPrefix size slice kept ∧
    truncate slice buffer = .ok ((utf8Bytes kept).length, written) ∧
      written.bytes = utf8Bytes kept ++ buffer.bytes.drop (utf8Bytes kept).length

/-- The last character that starts below the limit has one byte. -/
def NarrowEnd (limit : Nat) (slice : List Char) : Prop :=
  ∀ front last back, LastStarted limit slice front last back → last.utf8Size = 1

/-- The loop counts up to the first byte of the last character that it reaches. -/
theorem truncLoop_of_started (limit pos len : Nat) (front back : List Char) (last : Char)
    (behind : len ≤ pos) (started : pos + (utf8Bytes front).length < limit)
    (final : back = [] ∨ limit ≤ pos + (utf8Bytes front).length + last.utf8Size) :
    truncLoop limit (charIndicesFrom pos (front ++ last :: back)) len =
      pos + (utf8Bytes front).length + 1 := by
  induction front generalizing pos len with
  | nil =>
      rw [utf8Bytes_nil, List.length_nil, Nat.add_zero] at started final
      have next : pos + 1 > len ∧ pos < limit := ⟨by omega, started⟩
      rw [List.nil_append, charIndicesFrom, truncLoop, if_neg (by omega), if_pos next]
      rcases final with rfl | full
      · rfl
      · cases back with
        | nil => rfl
        | cons char back =>
            rw [charIndicesFrom, truncLoop, if_pos full]
            rfl
  | cons char front ih =>
      have width : (utf8Bytes (char :: front)).length =
          char.utf8Size + (utf8Bytes front).length := by simp
      have positive := char.utf8Size_pos
      rw [width] at started final ⊢
      have next : pos + 1 > len ∧ pos < limit := ⟨by omega, by omega⟩
      rw [List.cons_append, charIndicesFrom, truncLoop, if_neg (by omega), if_pos next,
        ih (pos + char.utf8Size) (pos + 1) (by omega) (by omega)]
      · omega
      · apply final.imp_right
        intro full
        omega

/-- The length ends one byte behind the start of the last started character. -/
theorem truncLen_of_lastStarted {limit : Nat} {slice front back : List Char} {last : Char}
    (found : LastStarted limit slice front last back) :
    truncLen slice limit = (utf8Bytes front).length + 1 := by
  have counted := truncLoop_of_started limit 0 0 front back last (Nat.le_refl 0)
    (by simpa using found.started) (by simpa using found.final)
  rw [truncLen, charIndices, found.split, counted, Nat.zero_add]

theorem truncLen_nil (limit : Nat) : truncLen [] limit = 0 := rfl

theorem truncLen_zero (slice : List Char) : truncLen slice 0 = 0 := by
  cases slice <;> rfl

/-- A text starts some character last, or its truncated length is zero. -/
theorem lastStarted_or_zero (limit : Nat) (slice : List Char) :
    (∃ front last back, LastStarted limit slice front last back) ∨
      (slice = [] ∨ limit = 0) ∧ truncLen slice limit = 0 := by
  by_cases empty : slice = []
  · subst empty
    exact Or.inr ⟨Or.inl rfl, truncLen_nil limit⟩
  · rcases Nat.eq_zero_or_pos limit with rfl | positive
    · exact Or.inr ⟨Or.inr rfl, truncLen_zero slice⟩
    · exact Or.inl (exists_lastStarted limit slice empty positive)

theorem truncLen_le (slice : List Char) (limit : Nat) : truncLen slice limit ≤ limit := by
  rcases lastStarted_or_zero limit slice with ⟨front, last, back, found⟩ | ⟨-, zero⟩
  · have started := found.started
    rw [truncLen_of_lastStarted found]
    omega
  · omega

theorem truncLen_le_bytes (slice : List Char) (limit : Nat) :
    truncLen slice limit ≤ (utf8Bytes slice).length := by
  rcases lastStarted_or_zero limit slice with ⟨front, last, back, found⟩ | ⟨-, zero⟩
  · have positive := last.utf8Size_pos
    rw [truncLen_of_lastStarted found, found.split]
    simp
    omega
  · omega

/-- The truncation never panics. -/
theorem truncate_ok (slice : List Char) (buffer : Bytes size) :
    truncate slice buffer = .ok (truncLen slice size,
      buffer.cloneFromSlice ((utf8Bytes slice).take (truncLen slice size))) := by
  have target : truncLen slice size ≤ buffer.bytes.length := by
    rw [buffer.length_eq]
    exact truncLen_le slice size
  rw [truncate, sliceTo_ok target, sliceTo_ok (truncLen_le_bytes slice size)]
  rfl

/-- A length of a whole prefix writes this prefix. -/
theorem cloneFromSlice_prefix {slice kept : List Char} (buffer : Bytes size)
    (inside : kept <+: slice) (fits : (utf8Bytes kept).length ≤ size) :
    (buffer.cloneFromSlice ((utf8Bytes slice).take (utf8Bytes kept).length)).bytes =
      utf8Bytes kept ++ buffer.bytes.drop (utf8Bytes kept).length := by
  obtain ⟨rest, rfl⟩ := inside
  rw [utf8Bytes_append, List.take_left, Bytes.cloneFromSlice_bytes buffer fits]

/-- The truncated length of a kept prefix makes the truncation keep it. -/
theorem keepsLongestPrefix_of_length {slice kept : List Char} (buffer : Bytes size)
    (keeps : LongestPrefix size slice kept)
    (length : truncLen slice size = (utf8Bytes kept).length) :
    KeepsLongestPrefix slice buffer := by
  refine ⟨kept, _, keeps, ?_, cloneFromSlice_prefix buffer keeps.inside keeps.fits⟩
  rw [truncate_ok, length]

theorem keepsLongestPrefix_of_zero {slice : List Char} (buffer : Bytes size)
    (none : slice = [] ∨ size = 0) (zero : truncLen slice size = 0) :
    KeepsLongestPrefix slice buffer := by
  have keeps : LongestPrefix size slice [] := by
    refine ⟨List.nil_prefix, Nat.zero_le _, ?_⟩
    intro other inside fits
    rcases none with rfl | rfl
    · exact inside
    · cases other with
      | nil => exact List.nil_prefix
      | cons char rest =>
          have positive := char.utf8Size_pos
          simp at fits
          omega
  exact keepsLongestPrefix_of_length buffer keeps zero

/-- A wide last character is cut behind its first byte. -/
theorem not_keepsLongestPrefix_of_wide {slice front back : List Char} {last : Char}
    (buffer : Bytes size) (found : LastStarted size slice front last back)
    (wide : last.utf8Size ≠ 1) : ¬ KeepsLongestPrefix slice buffer := by
  rintro ⟨kept, written, keeps, truncated, -⟩
  rw [truncate_ok, truncLen_of_lastStarted found] at truncated
  have length : (utf8Bytes front).length + 1 = (utf8Bytes kept).length :=
    congrArg Prod.fst (Except.ok.inj truncated)
  exact found.length_ne_of_wide wide keeps.inside length.symm

/-- The truncation keeps the longest prefix exactly when the last character that starts below
the limit has one byte. -/
theorem truncate_keepsLongestPrefix_iff (slice : List Char) (buffer : Bytes size) :
    KeepsLongestPrefix slice buffer ↔ NarrowEnd size slice := by
  constructor
  · intro keeps front last back found
    by_contra wide
    exact not_keepsLongestPrefix_of_wide buffer found wide keeps
  · intro narrow
    rcases lastStarted_or_zero size slice with ⟨front, last, back, found⟩ | ⟨none, zero⟩
    · have one := narrow front last back found
      apply keepsLongestPrefix_of_length buffer (found.longest_narrow one)
      rw [truncLen_of_lastStarted found]
      simp [one]
    · exact keepsLongestPrefix_of_zero buffer none zero

/-- One character of two bytes leaves its first byte alone in the buffer. -/
theorem truncate_wide_character :
    ¬ KeepsLongestPrefix [Char.ofNat 0xE9] (Bytes.zero maxInfoSize) := by
  have found : LastStarted maxInfoSize [Char.ofNat 0xE9] [] (Char.ofNat 0xE9) [] :=
    ⟨rfl, by decide, Or.inl rfl⟩
  exact not_keepsLongestPrefix_of_wide _ found (by decide)

end Feo.Tracing
