import Feo.Foundation.PrefixFree
import Mathlib.Algebra.Group.Nat.Defs

namespace Feo.Foundation

/-- The number has seven bits in each byte from the lowest group on. -/
def toVarint (value : Nat) : List UInt8 :=
  if value < 128 then [UInt8.ofNat value]
  else UInt8.ofNat (value % 128 + 128) :: toVarint (value / 128)
termination_by value
decreasing_by omega

theorem toVarint_small {value : Nat} (small : value < 128) :
    toVarint value = [UInt8.ofNat value] := by
  rw [toVarint, if_pos small]

theorem toVarint_large {value : Nat} (large : 128 ≤ value) :
    toVarint value = UInt8.ofNat (value % 128 + 128) :: toVarint (value / 128) := by
  rw [toVarint, if_neg (Nat.not_lt_of_le large)]

/-- A number of `count` groups has at most so many bytes. -/
theorem toVarint_length_le (count value : Nat) (small : value < 128 ^ (count + 1)) :
    (toVarint value).length ≤ count + 1 := by
  induction count generalizing value with
  | zero =>
      rw [toVarint_small (by simpa using small)]
      simp
  | succ count ih =>
      have tail : value / 128 < 128 ^ (count + 1) := by
        rw [Nat.div_lt_iff_lt_mul (by decide)]
        rwa [Nat.pow_succ] at small
      rw [toVarint]
      split
      · simp
      · simpa using ih _ tail

theorem ofNat_byte_inj {first last : Nat} (few : first < 256) (small : last < 256)
    (same : UInt8.ofNat first = UInt8.ofNat last) : first = last := by
  have equal := congrArg UInt8.toNat same
  rw [UInt8.toNat_ofNat', UInt8.toNat_ofNat'] at equal
  omega

/-- Only the last byte of a number has no continuation bit. -/
theorem toVarint_prefixFree : PrefixFree toVarint := by
  intro first
  induction first using Nat.strongRecOn with
  | ind first ih =>
      intro last after behind same
      rcases Nat.lt_or_ge first 128 with few | many
      · rw [toVarint_small few] at same
        rcases Nat.lt_or_ge last 128 with small | large
        · rw [toVarint_small small] at same
          obtain ⟨head, rest⟩ := List.cons.inj same
          exact ⟨ofNat_byte_inj (by omega) (by omega) head, rest⟩
        · rw [toVarint_large large] at same
          have bytes := ofNat_byte_inj (by omega) (by omega) (List.cons.inj same).1
          omega
      · rw [toVarint_large many] at same
        rcases Nat.lt_or_ge last 128 with small | large
        · rw [toVarint_small small] at same
          have bytes := ofNat_byte_inj (by omega) (by omega) (List.cons.inj same).1
          omega
        · rw [toVarint_large large] at same
          obtain ⟨head, rest⟩ := List.cons.inj same
          have bytes := ofNat_byte_inj (by omega) (by omega) head
          obtain ⟨groups, ends⟩ := ih (first / 128) (by omega) (last / 128) after behind rest
          exact ⟨by omega, ends⟩

end Feo.Foundation
