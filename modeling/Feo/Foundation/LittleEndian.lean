import Mathlib.Data.Nat.Digits.Defs
import Mathlib.Tactic.Ring

namespace Feo.Foundation

/-- These are the `width` low bytes of a number, from the lowest byte on. -/
def toLeBytes : Nat → Nat → List UInt8
  | 0, _ => []
  | width + 1, value => UInt8.ofNat value :: toLeBytes width (value / 256)

/-- The bytes are digits in base 256. -/
def fromLeBytes (bytes : List UInt8) : Nat := Nat.ofDigits 256 (bytes.map UInt8.toNat)

@[simp] theorem toLeBytes_length (width value : Nat) : (toLeBytes width value).length = width := by
  induction width generalizing value with
  | zero => rfl
  | succ width ih => simp [toLeBytes, ih]

@[simp] theorem fromLeBytes_nil : fromLeBytes [] = 0 := rfl

@[simp] theorem fromLeBytes_cons (byte : UInt8) (rest : List UInt8) :
    fromLeBytes (byte :: rest) = byte.toNat + 256 * fromLeBytes rest := by
  simp [fromLeBytes, Nat.ofDigits_cons]

/-- A number below `256 ^ width` survives the conversion in both directions. -/
theorem fromLeBytes_toLeBytes (width value : Nat) (small : value < 256 ^ width) :
    fromLeBytes (toLeBytes width value) = value := by
  induction width generalizing value with
  | zero =>
      have zero : value = 0 := by simpa using small
      simp [toLeBytes, zero]
  | succ width ih =>
      have tail : value / 256 < 256 ^ width := by
        rw [Nat.div_lt_iff_lt_mul (by decide)]
        rwa [Nat.pow_succ] at small
      have head : (UInt8.ofNat value).toNat = value % 256 := UInt8.toNat_ofNat'
      rw [toLeBytes, fromLeBytes_cons, ih _ tail, head]
      omega

theorem fromLeBytes_lt (bytes : List UInt8) : fromLeBytes bytes < 256 ^ bytes.length := by
  induction bytes with
  | nil => simp
  | cons byte rest ih =>
      have small := byte.toNat_lt
      rw [fromLeBytes_cons, List.length_cons, Nat.pow_succ]
      omega

/-- The bytes of a slice survive the conversion in both directions. -/
theorem toLeBytes_fromLeBytes (bytes : List UInt8) :
    toLeBytes bytes.length (fromLeBytes bytes) = bytes := by
  induction bytes with
  | nil => rfl
  | cons byte rest ih =>
      have small : byte.toNat < 256 := byte.toNat_lt
      have head : UInt8.ofNat (byte.toNat + 256 * fromLeBytes rest) = byte := by
        apply UInt8.toNat_inj.mp
        rw [UInt8.toNat_ofNat']
        omega
      have tail : (byte.toNat + 256 * fromLeBytes rest) / 256 = fromLeBytes rest := by omega
      rw [List.length_cons, fromLeBytes_cons, toLeBytes, head, tail, ih]

end Feo.Foundation
