import Mathlib.Algebra.Group.Int.Defs
import Mathlib.Algebra.Group.Nat.Defs

/-! Machine integers without a sign, read as ones with a sign. -/
namespace Signed

/-- A conversion keeps the bits, so that the value wraps. -/
theorem toInt_toInt32 (n : UInt32) : n.toInt32.toInt = (n.toNat : Int).bmod (2 ^ 32) :=
  BitVec.toInt_eq_toNat_bmod n.toBitVec

theorem toInt_toInt64 (n : UInt64) : n.toInt64.toInt = (n.toNat : Int).bmod (2 ^ 64) :=
  BitVec.toInt_eq_toNat_bmod n.toBitVec

/-- A number with a sign is what wraps from its own bits. -/
theorem toInt_bmod (n : Int32) : n.toInt = (n.toUInt32.toNat : Int).bmod (2 ^ 32) :=
  toInt_toInt32 n.toUInt32

/-- Small numbers do not wrap. -/
theorem toInt_toInt32_of_lt {n : UInt32} (h : n.toNat < 2 ^ 31) : n.toInt32.toInt = n.toNat := by
  rw [toInt_toInt32, Int.bmod_def]
  omega

theorem toInt_toInt64_of_lt {n : UInt64} (h : n.toNat < 2 ^ 63) : n.toInt64.toInt = n.toNat := by
  rw [toInt_toInt64, Int.bmod_def]
  omega

/-- What is not negative has not wrapped. -/
theorem toInt_toInt64_of_nonneg {n : UInt64} (h : 0 ≤ n.toInt64.toInt) :
    n.toInt64.toInt = n.toNat := by
  have hBound := n.toNat_lt
  rw [toInt_toInt64, Int.bmod_def] at h ⊢
  omega

/-- The least number of 64 bits is the only one without a positive counterpart. -/
theorem toInt_abs {n : Int64} (h : -2 ^ 63 < n.toInt) : n.abs.toInt = n.toInt.natAbs := by
  refine BitVec.toInt_abs_eq_natAbs_of_ne_intMin fun hMin => ?_
  have hSame : n.toInt = -2 ^ 63 := by
    rw [Int64.toInt, hMin, BitVec.toInt_intMin]
    rfl
  omega

end Signed
