import Mathlib.Logic.Function.Iterate

/-!
# Reflected cyclic redundancy checks

The remainder is shifted right a bit at a time, and the polynomial is added where a one drops out (`shift`).  A byte is added
to the low bits and then shifted out (`addByte`).  Shifting is linear (`shifts_xor`), so the remainder after eight shifts is
that of its low byte, which a table can hold, and the rest of it moved down (`addByte_eq_table`).
-/

namespace Crc

variable {w : Nat} (poly : BitVec w)

/-- One bit is shifted out of the remainder. -/
def shift (c : BitVec w) : BitVec w := if c.getLsbD 0 then poly ^^^ (c >>> 1) else c >>> 1

/-- So many bits are shifted out. -/
def shifts (n : Nat) (c : BitVec w) : BitVec w := (shift poly)^[n] c

/-- A byte is added, bit by bit. -/
def addByte (c : BitVec w) (byte : UInt8) : BitVec w := shifts poly 8 (c ^^^ byte.toBitVec.setWidth w)

/-- The remainder of some bytes, which starts with ones and is inverted at the end. -/
def checksum (bytes : List UInt8) : BitVec w := bytes.foldl (addByte poly) (BitVec.allOnes w) ^^^ BitVec.allOnes w

private theorem xor_swap (p a b : BitVec w) : a ^^^ (p ^^^ b) = p ^^^ (a ^^^ b) := by
  rw [← BitVec.xor_assoc, BitVec.xor_comm a p, BitVec.xor_assoc]

theorem shift_xor (a b : BitVec w) : shift poly (a ^^^ b) = shift poly a ^^^ shift poly b := by
  unfold shift
  rw [BitVec.getLsbD_xor, BitVec.ushiftRight_xor_distrib]
  cases a.getLsbD 0 with
  | false =>
    cases b.getLsbD 0 with
    | false => rfl
    | true => exact (xor_swap poly _ _).symm
  | true =>
    cases b.getLsbD 0 with
    | false => exact (BitVec.xor_assoc _ _ _).symm
    | true =>
      -- The polynomial is added twice.
      show (a >>> 1) ^^^ (b >>> 1) = poly ^^^ (a >>> 1) ^^^ (poly ^^^ (b >>> 1))
      rw [BitVec.xor_assoc, xor_swap poly, ← BitVec.xor_assoc poly poly, BitVec.xor_self, BitVec.zero_xor]

theorem shifts_succ (n : Nat) (c : BitVec w) : shifts poly (n + 1) c = shift poly (shifts poly n c) :=
  Function.iterate_succ_apply' _ n c

theorem shifts_xor (n : Nat) (a b : BitVec w) : shifts poly n (a ^^^ b) = shifts poly n a ^^^ shifts poly n b := by
  induction n with
  | zero => rfl
  | succ n ih => rw [shifts_succ, shifts_succ, shifts_succ, ih, shift_xor]

/-- Zeros drop out of a remainder whose low bits are clear. -/
theorem shifts_of_clear {c : BitVec w} {bits : Nat} (hclear : ∀ i < bits, c.getLsbD i = false) {n : Nat} (hn : n ≤ bits) :
    shifts poly n c = c >>> n := by
  induction n with
  | zero => rfl
  | succ n ih =>
    have hbit : (c >>> n).getLsbD 0 = false := by
      rw [BitVec.getLsbD_ushiftRight]
      exact hclear n (by omega)
    rw [shifts_succ, ih (by omega), shift, hbit, BitVec.shiftRight_add]
    rfl

/-- The low byte. -/
def lowByte (c : BitVec w) : BitVec w := c &&& BitVec.ofNat w 255

theorem getLsbD_ones {i : Nat} (hi : i < w) : (BitVec.ofNat w 255).getLsbD i = decide (i < 8) := by
  have hones : (255 : Nat).testBit i = decide (i < 8) := Nat.testBit_two_pow_sub_one 8 i
  rw [BitVec.getLsbD_ofNat, hones]
  simp [hi]

/-- Eight shifts: those of the low byte, and the rest of the remainder moved down. -/
theorem shifts_eight (c : BitVec w) : shifts poly 8 c = shifts poly 8 (lowByte c) ^^^ (c >>> 8) := by
  have hsplit : c = lowByte c ^^^ (c &&& ~~~BitVec.ofNat w 255) := by
    apply BitVec.eq_of_getLsbD_eq
    intro i hi
    rw [BitVec.getLsbD_xor, lowByte, BitVec.getLsbD_and, BitVec.getLsbD_and, BitVec.getLsbD_not]
    cases c.getLsbD i with
    | false => rfl
    | true => cases (BitVec.ofNat w 255).getLsbD i <;> simp [hi]
  have hclear : ∀ i < 8, (c &&& ~~~BitVec.ofNat w 255).getLsbD i = false := by
    intro i hi
    rw [BitVec.getLsbD_and, BitVec.getLsbD_not]
    by_cases hw : i < w
    · simp [getLsbD_ones hw, hi]
    · simp [hw]
  have hhigh : (c &&& ~~~BitVec.ofNat w 255) >>> 8 = c >>> 8 := by
    apply BitVec.eq_of_getLsbD_eq
    intro i hi
    rw [BitVec.getLsbD_ushiftRight, BitVec.getLsbD_ushiftRight, BitVec.getLsbD_and, BitVec.getLsbD_not]
    by_cases hw : 8 + i < w
    · rw [getLsbD_ones hw]
      simp [hw]
    · simp [BitVec.getLsbD_of_ge c (8 + i) (by omega)]
  have hshifts := shifts_xor poly 8 (lowByte c) (c &&& ~~~BitVec.ofNat w 255)
  rw [← hsplit] at hshifts
  rw [hshifts, shifts_of_clear poly hclear (Nat.le_refl 8), hhigh]

/-- A byte is added with one look at the table of the eight shifts of every byte. -/
theorem addByte_eq_table (c : BitVec w) (byte : UInt8) :
    addByte poly c byte = (c >>> 8) ^^^ shifts poly 8 (lowByte (c ^^^ byte.toBitVec.setWidth w)) := by
  have hbyte : byte.toBitVec.setWidth w >>> 8 = 0#w := by
    apply BitVec.eq_of_getLsbD_eq
    intro i hi
    rw [BitVec.getLsbD_ushiftRight, BitVec.getLsbD_setWidth, BitVec.getLsbD_of_ge byte.toBitVec (8 + i) (by omega)]
    simp
  rw [addByte, shifts_eight, BitVec.ushiftRight_xor_distrib, hbyte, BitVec.xor_zero, BitVec.xor_comm]

end Crc
