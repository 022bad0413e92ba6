import Feo.Foundation.PrefixFree

namespace Feo.Foundation

/-- Each block starts with the distance to the next zero or to the block behind a full one. -/
def cobsBlocks : List UInt8 → List UInt8 → List UInt8
  | block, [] => UInt8.ofNat (block.length + 1) :: block
  | block, byte :: rest =>
      if byte = 0 then UInt8.ofNat (block.length + 1) :: block ++ cobsBlocks [] rest
      else if block.length = 253 then 255 :: block ++ byte :: cobsBlocks [] rest
      else cobsBlocks (block ++ [byte]) rest

/-- A frame has no zero byte but its last one. -/
def cobsFrame (data : List UInt8) : List UInt8 := cobsBlocks [] data ++ [0]

/-- The blocks add one byte for each full block and one for the last block. -/
theorem cobsBlocks_length_le (block data : List UInt8) (short : block.length ≤ 253) :
    (cobsBlocks block data).length ≤
      block.length + data.length + (block.length + data.length) / 254 + 1 := by
  induction data generalizing block with
  | nil => simp [cobsBlocks]
  | cons byte rest ih =>
      have fresh := ih [] (Nat.zero_le 253)
      rw [cobsBlocks]
      split
      · simp at fresh ⊢
        omega
      · split
        · simp at fresh ⊢
          omega
        · have longer := ih (block ++ [byte]) (by simp; omega)
          simp at longer ⊢
          omega

/-- The frame of a short packet adds two bytes. -/
theorem cobsFrame_length_le (data : List UInt8) (short : data.length < 254) :
    (cobsFrame data).length ≤ data.length + 2 := by
  have bound := cobsBlocks_length_le [] data (Nat.zero_le 253)
  simp at bound
  rw [cobsFrame, List.length_append, List.length_singleton]
  omega

/-- The blocks replace the zero bytes of their data. -/
theorem cobsBlocks_ne_zero (block data : List UInt8) (short : block.length ≤ 253)
    (absent : 0 ∉ block) : 0 ∉ cobsBlocks block data := by
  have distance {front : List UInt8} (few : front.length ≤ 253) :
      (0 : UInt8) ≠ UInt8.ofNat (front.length + 1) := by
    intro same
    have equal := congrArg UInt8.toNat same
    rw [UInt8.toNat_ofNat'] at equal
    change 0 = _ at equal
    omega
  induction data generalizing block with
  | nil => exact List.not_mem_cons_of_ne_of_not_mem (distance short) absent
  | cons byte rest ih =>
      have fresh := ih [] (Nat.zero_le 253) List.not_mem_nil
      rw [cobsBlocks]
      split
      · rw [List.cons_append]
        refine List.not_mem_cons_of_ne_of_not_mem (distance short) fun member => ?_
        exact (List.mem_append.mp member).elim absent fresh
      · next nonzero =>
          split
          · refine List.not_mem_cons_of_ne_of_not_mem (by decide) fun member => ?_
            rcases List.mem_append.mp member with inside | later
            · exact absent inside
            · rcases List.mem_cons.mp later with same | after
              · exact nonzero same.symm
              · exact fresh after
          · apply ih
            · rw [List.length_append, List.length_singleton]
              omega
            · intro member
              rcases List.mem_append.mp member with inside | last
              · exact absent inside
              · exact nonzero (List.mem_singleton.mp last).symm

/-- The inverse reads a block and puts a zero behind it, unless the block is full or last. -/
def decodeBlocks : List UInt8 → List UInt8
  | [] => []
  | code :: rest =>
      let block := rest.take (code.toNat - 1)
      let later := rest.drop (code.toNat - 1)
      if later = [] then block
      else if code = 255 then block ++ decodeBlocks later
      else block ++ 0 :: decodeBlocks later
termination_by blocks => blocks.length
decreasing_by all_goals simp only [List.length_drop, List.length_cons]; omega

theorem decodeBlocks_last {code : UInt8} {block : List UInt8}
    (distance : code.toNat = block.length + 1) : decodeBlocks (code :: block) = block := by
  have length : code.toNat - 1 = block.length := by omega
  rw [decodeBlocks]
  simp only [length, List.take_length, List.drop_length, if_true]

/-- A block that is followed by others is read up to its distance. -/
theorem decodeBlocks_cons {code : UInt8} {block later : List UInt8}
    (distance : code.toNat = block.length + 1) (more : later ≠ []) :
    decodeBlocks (code :: (block ++ later)) =
      if code = 255 then block ++ decodeBlocks later else block ++ 0 :: decodeBlocks later := by
  have length : code.toNat - 1 = block.length := by omega
  rw [decodeBlocks]
  simp only [length, List.take_left, List.drop_left, if_neg more]

theorem cobsBlocks_ne_nil (block data : List UInt8) : cobsBlocks block data ≠ [] := by
  induction data generalizing block with
  | nil => simp [cobsBlocks]
  | cons byte rest ih =>
      rw [cobsBlocks]
      split
      · simp
      · split
        · simp
        · exact ih _

/-- The data are read back from their blocks. -/
theorem decodeBlocks_cobsBlocks (block data : List UInt8) (short : block.length ≤ 253) :
    decodeBlocks (cobsBlocks block data) = block ++ data := by
  have distance {front : List UInt8} (few : front.length ≤ 253) :
      (UInt8.ofNat (front.length + 1)).toNat = front.length + 1 := by
    rw [UInt8.toNat_ofNat']
    omega
  induction data generalizing block with
  | nil => rw [cobsBlocks, decodeBlocks_last (distance short), List.append_nil]
  | cons byte rest ih =>
      have fresh := ih [] (Nat.zero_le 253)
      rw [cobsBlocks]
      split
      · next zero =>
          have part : UInt8.ofNat (block.length + 1) ≠ 255 := by
            intro same
            have equal := congrArg UInt8.toNat same
            rw [distance short] at equal
            change _ = 255 at equal
            omega
          rw [List.cons_append, decodeBlocks_cons (distance short) (cobsBlocks_ne_nil [] rest),
            if_neg part, fresh, zero, List.nil_append]
      · split
        · next full =>
            have behind : block ++ byte :: cobsBlocks [] rest =
                (block ++ [byte]) ++ cobsBlocks [] rest := by simp
            rw [List.cons_append, behind, decodeBlocks_cons (by simp [full])
              (cobsBlocks_ne_nil [] rest), if_pos rfl, fresh, List.append_assoc]
            rfl
        · have longer : (block ++ [byte]).length ≤ 253 := by
            rw [List.length_append, List.length_singleton]
            omega
          rw [ih _ longer, List.append_assoc]
          rfl

theorem cobsBlocks_injective : Function.Injective (cobsBlocks []) := by
  intro first last same
  have decoded := congrArg decodeBlocks same
  rw [decodeBlocks_cobsBlocks [] first (Nat.zero_le 253),
    decodeBlocks_cobsBlocks [] last (Nat.zero_le 253)] at decoded
  exact decoded

/-- The zero at the end of a frame tells where the next one starts. -/
theorem cobsFrame_prefixFree : PrefixFree cobsFrame :=
  .delimited cobsBlocks_injective fun data =>
    cobsBlocks_ne_zero [] data (Nat.zero_le 253) List.not_mem_nil

end Feo.Foundation
