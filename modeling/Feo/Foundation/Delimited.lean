import Mathlib.Data.List.Basic

namespace Feo.Foundation

variable {Byte Message : Type} {delimiter : Byte} {bound : Nat}

/-- The only delimiter of a frame is its last byte. -/
structure Delimited (delimiter : Byte) (bound : Nat) (frame : List Byte) : Prop where
  body : ∃ body, frame = body ++ [delimiter] ∧ delimiter ∉ body
  bounded : frame.length ≤ bound

/-- An unfinished frame has no delimiter yet. -/
structure Unfinished (delimiter : Byte) (bound : Nat) (part : List Byte) : Prop where
  absent : delimiter ∉ part
  bounded : part.length ≤ bound

theorem Unfinished.nil (delimiter : Byte) (bound : Nat) : Unfinished delimiter bound [] :=
  ⟨List.not_mem_nil, Nat.zero_le _⟩

theorem Unfinished.of_prefix {part front : List Byte} (unfinished : Unfinished delimiter bound part)
    (shorter : front <+: part) : Unfinished delimiter bound front :=
  ⟨fun member => unfinished.absent (shorter.subset member),
    Nat.le_trans shorter.length_le unfinished.bounded⟩

/-- A proper prefix of a frame is unfinished. -/
theorem Delimited.unfinished {frame front : List Byte} (delimited : Delimited delimiter bound frame)
    (shorter : front <+: frame) (proper : front.length < frame.length) :
    Unfinished delimiter bound front := by
  obtain ⟨body, rfl, absent⟩ := delimited.body
  have inside : front <+: body := by
    apply List.prefix_of_prefix_length_le shorter (List.prefix_append _ _)
    rw [List.length_append, List.length_singleton] at proper
    omega
  exact ⟨fun member => absent (inside.subset member),
    Nat.le_trans shorter.length_le delimited.bounded⟩

/-- The bytes in front of the first delimiter complete the bytes that are held. -/
theorem split_at_delimiter {held input body rest : List Byte} (absent : delimiter ∉ held)
    (split : held ++ input = body ++ delimiter :: rest) :
    ∃ chunk, body = held ++ chunk ∧ input = chunk ++ delimiter :: rest := by
  rcases List.append_eq_append_iff.mp split with ⟨chunk, rfl, same⟩ | ⟨chunk, rfl, same⟩
  · exact ⟨chunk, rfl, same⟩
  · cases chunk with
    | nil => exact ⟨[], by simp, same.symm⟩
    | cons first others =>
        rw [List.cons_append, List.cons.injEq] at same
        rw [same.1] at absent
        exact absurd (List.mem_append_right _ List.mem_cons_self) absent

variable {encode : Message → List Byte}

/-- The front of some frames is a number of whole frames and an unfinished one. -/
theorem cut_frames {messages : List Message}
    (delimited : ∀ message ∈ messages, Delimited delimiter bound (encode message))
    {part first second : List Byte} (unfinished : Unfinished delimiter bound part)
    (split : first ++ second = messages.flatMap encode ++ part) :
    ∃ done rest piece, messages = done ++ rest ∧ first = done.flatMap encode ++ piece ∧
      Unfinished delimiter bound piece ∧ piece ++ second = rest.flatMap encode ++ part := by
  induction messages generalizing first with
  | nil => exact ⟨[], [], first, rfl, rfl, unfinished.of_prefix ⟨second, split⟩, split⟩
  | cons message others ih =>
      rw [List.flatMap_cons, List.append_assoc] at split
      have reads : first <+: encode message ++ (others.flatMap encode ++ part) := ⟨second, split⟩
      have frame : encode message <+: encode message ++ (others.flatMap encode ++ part) :=
        List.prefix_append _ _
      by_cases whole : (encode message).length ≤ first.length
      · obtain ⟨tail, rfl⟩ := List.prefix_of_prefix_length_le frame reads whole
        rw [List.append_assoc] at split
        obtain ⟨done, rest, piece, rfl, rfl, short, after⟩ :=
          ih (fun other member => delimited other (List.mem_cons_of_mem _ member))
            (List.append_cancel_left split)
        refine ⟨message :: done, rest, piece, rfl, ?_, short, after⟩
        rw [List.flatMap_cons, List.append_assoc]
      · have shorter := Nat.lt_of_not_le whole
        refine ⟨[], message :: others, first, rfl, rfl, ?_, ?_⟩
        · exact (delimited message List.mem_cons_self).unfinished
            (List.prefix_of_prefix_length_le reads frame (Nat.le_of_lt shorter)) shorter
        · rw [split, List.flatMap_cons, List.append_assoc]

/-- The delimiters of the bytes count the whole frames. -/
theorem count_frames [DecidableEq Byte] {messages : List Message}
    (delimited : ∀ message ∈ messages, Delimited delimiter bound (encode message))
    {part : List Byte} (unfinished : Unfinished delimiter bound part) :
    (messages.flatMap encode ++ part).count delimiter = messages.length := by
  induction messages with
  | nil => exact List.count_eq_zero.mpr unfinished.absent
  | cons message others ih =>
      obtain ⟨body, frame, absent⟩ := (delimited message List.mem_cons_self).body
      have one : (encode message).count delimiter = 1 := by
        rw [frame, List.count_append, List.count_eq_zero.mpr absent, List.count_singleton_self]
      have rest := ih fun other member => delimited other (List.mem_cons_of_mem _ member)
      rw [List.flatMap_cons, List.append_assoc, List.count_append, one, rest, List.length_cons,
        Nat.add_comm]

end Feo.Foundation
