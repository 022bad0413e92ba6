import Mathlib.Data.List.Basic

namespace Feo.Foundation

variable {Byte Message : Type} (encode : Message → List Byte)

/-- The bytes are the frames of some of the messages in their order. -/
def Aligned (messages : List Message) (bytes : List Byte) : Prop :=
  ∃ complete : List Message, complete.Sublist messages ∧ bytes = complete.flatMap encode

/-- A proper prefix of the frame of one further message may follow the complete frames. -/
def WholeFrames (messages : List Message) (bytes : List Byte) : Prop :=
  Aligned encode messages bytes ∨
    ∃ (complete : List Message) (last : Message) (fragment : List Byte),
      (complete ++ [last]).Sublist messages ∧
      fragment <+: encode last ∧ fragment ≠ encode last ∧
      bytes = complete.flatMap encode ++ fragment

variable {encode} {messages more : List Message} {bytes : List Byte}

theorem Aligned.nil : Aligned encode messages [] := ⟨[], List.nil_sublist _, rfl⟩

/-- A further message may leave no byte. -/
theorem Aligned.skip (aligned : Aligned encode messages bytes) (message : Message) :
    Aligned encode (messages ++ [message]) bytes := by
  obtain ⟨complete, inOrder, same⟩ := aligned
  exact ⟨complete, inOrder.trans (List.sublist_append_left _ _), same⟩

/-- A further message may leave its complete frame. -/
theorem Aligned.frame (aligned : Aligned encode messages bytes) (message : Message) :
    Aligned encode (messages ++ [message]) (bytes ++ encode message) := by
  obtain ⟨complete, inOrder, same⟩ := aligned
  refine ⟨complete ++ [message], inOrder.append (List.Sublist.refl _), ?_⟩
  rw [List.flatMap_append, List.flatMap_singleton, same]

/-- A further message may leave a part of its frame. -/
theorem Aligned.fragment (aligned : Aligned encode messages bytes) (message : Message)
    {fragment : List Byte} (front : fragment <+: encode message)
    (proper : fragment ≠ encode message) :
    WholeFrames encode (messages ++ [message]) (bytes ++ fragment) := by
  obtain ⟨complete, inOrder, same⟩ := aligned
  refine .inr ⟨complete, message, fragment, ?_, front, proper, ?_⟩
  · exact inOrder.append (List.Sublist.refl _)
  · rw [same]

/-- A message without a byte keeps the bytes whole. -/
theorem WholeFrames.skip (whole : WholeFrames encode messages bytes) (message : Message) :
    WholeFrames encode (messages ++ [message]) bytes := by
  cases whole with
  | inl aligned => exact .inl (aligned.skip message)
  | inr broken =>
      obtain ⟨complete, last, fragment, inOrder, front, proper, same⟩ := broken
      have longer := inOrder.trans (List.sublist_append_left messages [message])
      exact .inr ⟨complete, last, fragment, longer, front, proper, same⟩

end Feo.Foundation
