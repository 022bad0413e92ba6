import Feo.Foundation.Delimited

namespace Feo.Foundation

variable {Byte Message Item First Last : Type} {encode : Message → List Byte}

/-- A code is prefix-free if the bytes tell the message and where the next one starts. -/
def PrefixFree (encode : Message → List Byte) : Prop :=
  ∀ first last after behind,
    encode first ++ after = encode last ++ behind → first = last ∧ after = behind

namespace PrefixFree

theorem injective (free : PrefixFree encode) : Function.Injective encode := by
  intro first last same
  exact (free first last [] [] (congrArg (· ++ []) same)).1

/-- A prefix-free code also encodes the items that a message identifies. -/
theorem comp (free : PrefixFree encode) (field : Item → Message)
    (distinct : Function.Injective field) : PrefixFree fun item => encode (field item) := by
  intro first last after behind same
  obtain ⟨equal, rest⟩ := free _ _ _ _ same
  exact ⟨distinct equal, rest⟩

/-- Two codes in a row encode a pair. -/
theorem append {encodeFirst : First → List Byte} {encodeLast : Last → List Byte}
    (first : PrefixFree encodeFirst) (last : PrefixFree encodeLast) :
    PrefixFree fun pair : First × Last => encodeFirst pair.1 ++ encodeLast pair.2 := by
  intro left right after behind same
  rw [List.append_assoc, List.append_assoc] at same
  obtain ⟨firsts, rest⟩ := first _ _ _ _ same
  obtain ⟨lasts, ends⟩ := last _ _ _ _ rest
  exact ⟨Prod.ext firsts lasts, ends⟩

/-- Codes of one length are prefix-free. -/
theorem of_length (distinct : Function.Injective encode)
    (length : ∀ first last, (encode first).length = (encode last).length) :
    PrefixFree encode := by
  intro first last after behind same
  obtain ⟨equal, rest⟩ := List.append_inj same (length first last)
  exact ⟨distinct equal, rest⟩

/-- A delimiter behind each code that does not contain it makes the codes prefix-free. -/
theorem delimited {delimiter : Byte} (distinct : Function.Injective encode)
    (absent : ∀ message, delimiter ∉ encode message) :
    PrefixFree fun message => encode message ++ [delimiter] := by
  intro first last after behind same
  simp only [List.append_assoc, List.singleton_append] at same
  obtain ⟨chunk, body, rest⟩ := split_at_delimiter (absent first) same
  cases chunk with
  | nil =>
      rw [List.append_nil] at body
      exact ⟨(distinct body).symm, (List.cons.inj rest).2⟩
  | cons byte others =>
      have inside : delimiter ∈ encode last := by
        rw [body, (List.cons.inj rest).1]
        exact List.mem_append_right _ List.mem_cons_self
      exact absurd inside (absent last)

/-- The codes of some messages are the front of others exactly when the messages are. -/
theorem flatMap_prefix_iff (free : PrefixFree encode) (full : ∀ message, encode message ≠ [])
    (first second : List Message) :
    first.flatMap encode <+: second.flatMap encode ↔ first <+: second := by
  constructor
  · intro front
    induction first generalizing second with
    | nil => exact List.nil_prefix
    | cons message rest ih =>
        obtain ⟨behind, split⟩ := front
        rw [List.flatMap_cons, List.append_assoc] at split
        cases second with
        | nil => exact absurd (List.append_eq_nil_iff.mp split).1 (full message)
        | cons other others =>
            rw [List.flatMap_cons] at split
            obtain ⟨rfl, later⟩ := free _ _ _ _ split
            exact (List.prefix_cons_inj message).mpr (ih others ⟨behind, later⟩)
  · rintro ⟨behind, rfl⟩
    rw [List.flatMap_append]
    exact List.prefix_append _ _

end PrefixFree

end Feo.Foundation
