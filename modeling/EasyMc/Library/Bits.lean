import Mathlib.Algebra.Ring.Int.Defs
import Mathlib.Data.Int.Basic

/-!
# JavaScript's bit operators

The operators take numbers as 32 bits (`toBits`) and give a signed number; only `>>>` gives an unsigned one.  A
computation with them is followed on the bits (`toBits_xor` and so on), where signs do not matter.
-/

namespace Bits

/-- The 32 bits of a whole number. -/
def toBits (n : Int) : BitVec 32 := BitVec.ofInt 32 n

/-- `a ^ b` -/
def xor (a b : Int) : Int := (toBits a ^^^ toBits b).toInt

/-- `a & b` -/
def and (a b : Int) : Int := (toBits a &&& toBits b).toInt

/-- `a >>> n` -/
def shiftRightUnsigned (a : Int) (n : Nat) : Int := (toBits a >>> n).toNat

@[simp] theorem toBits_xor (a b : Int) : toBits (xor a b) = toBits a ^^^ toBits b := BitVec.ofInt_toInt

@[simp] theorem toBits_and (a b : Int) : toBits (and a b) = toBits a &&& toBits b := BitVec.ofInt_toInt

@[simp] theorem toBits_shiftRightUnsigned (a : Int) (n : Nat) : toBits (shiftRightUnsigned a n) = toBits a >>> n := by
  rw [shiftRightUnsigned, toBits, BitVec.ofInt_natCast, BitVec.ofNat_toNat, BitVec.setWidth_eq]

theorem toBits_natCast (n : Nat) : toBits n = BitVec.ofNat 32 n := BitVec.ofInt_natCast 32 n

/-- The operators give zero exactly for zero bits. -/
theorem and_ne_zero_iff {a b : Int} : and a b ≠ 0 ↔ toBits a &&& toBits b ≠ 0 := by
  have hzero : (0 : BitVec 32).toInt = 0 := BitVec.toInt_zero
  rw [and, ne_eq, ne_eq, ← BitVec.toInt_inj, hzero]

/-- An unsigned result has 32 bits. -/
theorem shiftRightUnsigned_bounds (a : Int) (n : Nat) : 0 ≤ shiftRightUnsigned a n ∧ shiftRightUnsigned a n < 2 ^ 32 := by
  have hlt := (toBits a >>> n).isLt
  rw [shiftRightUnsigned]
  omega

end Bits
