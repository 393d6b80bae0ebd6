import EasyMc.Library.Bits
import EasyMc.Library.Crc

/-!
# The checksums of archives (`packages/modpack-builder/src/mrpack.mjs`)

`crc32` goes through the bytes with a table of 256 numbers and with JavaScript's bit operators, whose results are signed.  On
the bits it is the reflected CRC-32 that goes bit by bit, and its last shift makes the result an unsigned number
(`crc32_eq_checksum`).
-/

namespace EasyMc.Packs

/-- The polynomial of CRC-32, reflected. -/
def polynomial : BitVec 32 := 0xEDB88320#32

/-- One pass of the loop over the bits of an index. -/
def shiftIndex (value : Int) : Int :=
  if Bits.and value 1 ≠ 0 then Bits.xor 0xEDB88320 (Bits.shiftRightUnsigned value 1) else Bits.shiftRightUnsigned value 1

def crcTable : List Int := (List.range 256).map fun index => Bits.shiftRightUnsigned (shiftIndex^[8] (Int.ofNat index)) 0

/-- The entry of the table, which is no number outside of it. -/
def crcEntry (index : Int) : Int := crcTable.getD index.toNat 0

/-- One pass of the loop over the bytes. -/
def crcByte (crc : Int) (byte : UInt8) : Int :=
  Bits.xor (Bits.shiftRightUnsigned crc 8) (crcEntry (Bits.and (Bits.xor crc byte.toNat) 0xFF))

def crc32 (buffer : List UInt8) : Int :=
  Bits.shiftRightUnsigned (Bits.xor (buffer.foldl crcByte 0xFFFFFFFF) 0xFFFFFFFF) 0

/-! ### The table -/

/-- On the bits a pass shifts one bit out. -/
theorem toBits_shiftIndex (value : Int) : Bits.toBits (shiftIndex value) = Crc.shift polynomial (Bits.toBits value) := by
  have hone : Bits.toBits 1 = 1#32 := rfl
  have hlow : Bits.toBits value &&& 1#32 = (BitVec.ofBool ((Bits.toBits value).getLsbD 0)).setWidth 32 :=
    BitVec.and_one_eq_setWidth_ofBool_getLsbD
  unfold shiftIndex Crc.shift
  by_cases hbit : (Bits.toBits value).getLsbD 0 = true
  · have hne : Bits.and value 1 ≠ 0 := by
      rw [Bits.and_ne_zero_iff, hone, hlow, hbit]
      decide
    rw [if_pos hne, if_pos hbit, Bits.toBits_xor, Bits.toBits_shiftRightUnsigned]
    rfl
  · rw [Bool.not_eq_true] at hbit
    have heq : ¬ Bits.and value 1 ≠ 0 := by
      rw [Bits.and_ne_zero_iff, hone, hlow, hbit]
      decide
    rw [if_neg heq, hbit, if_neg Bool.false_ne_true, Bits.toBits_shiftRightUnsigned]

theorem toBits_shiftIndex_iterate (n : Nat) (value : Int) :
    Bits.toBits (shiftIndex^[n] value) = Crc.shifts polynomial n (Bits.toBits value) := by
  induction n with
  | zero => rfl
  | succ n ih => rw [Function.iterate_succ_apply', toBits_shiftIndex, ih, Crc.shifts_succ]

/-- The table holds the eight shifts of every byte. -/
theorem toBits_crcEntry {index : Int} (hlow : 0 ≤ index) (hhigh : index < 256) :
    Bits.toBits (crcEntry index) = Crc.shifts polynomial 8 (Bits.toBits index) := by
  have hindex : index.toNat < (List.range 256).length := by
    rw [List.length_range]
    omega
  have hentry : crcEntry index = Bits.shiftRightUnsigned (shiftIndex^[8] index) 0 := by
    rw [crcEntry, crcTable, List.getD_eq_getElem?_getD, List.getElem?_map, List.getElem?_eq_getElem hindex,
      List.getElem_range]
    show Bits.shiftRightUnsigned (shiftIndex^[8] (index.toNat : Int)) 0 = _
    rw [Int.toNat_of_nonneg hlow]
  rw [hentry, Bits.toBits_shiftRightUnsigned, toBits_shiftIndex_iterate]
  rfl

/-! ### The loop -/

/-- A byte of the index is a number below 256. -/
theorem and_byte_bounds (value : Int) : 0 ≤ Bits.and value 0xFF ∧ Bits.and value 0xFF < 256 := by
  have hle : (Bits.toBits value &&& Bits.toBits 0xFF).toNat ≤ 255 := by
    rw [BitVec.toNat_and]
    exact Nat.and_le_right
  have hsigned : (Bits.toBits value &&& Bits.toBits 0xFF).toInt = (Bits.toBits value &&& Bits.toBits 0xFF).toNat := by
    apply BitVec.toInt_eq_toNat_of_lt
    omega
  rw [Bits.and, hsigned]
  omega

theorem toBits_crcByte (crc : Int) (byte : UInt8) :
    Bits.toBits (crcByte crc byte) = Crc.addByte polynomial (Bits.toBits crc) byte := by
  obtain ⟨hlow, hhigh⟩ := and_byte_bounds (Bits.xor crc byte.toNat)
  have hbyte : Bits.toBits byte.toNat = byte.toBitVec.setWidth 32 := by
    rw [Bits.toBits_natCast]
    exact BitVec.ofNat_toNat 32 byte.toBitVec
  have hindex : Bits.toBits (Bits.and (Bits.xor crc byte.toNat) 0xFF) =
      Crc.lowByte (Bits.toBits crc ^^^ byte.toBitVec.setWidth 32) := by
    rw [Bits.toBits_and, Bits.toBits_xor, hbyte]
    rfl
  rw [crcByte, Bits.toBits_xor, Bits.toBits_shiftRightUnsigned, toBits_crcEntry hlow hhigh, hindex, Crc.addByte_eq_table]

theorem toBits_foldl_crcByte (buffer : List UInt8) (crc : Int) :
    Bits.toBits (buffer.foldl crcByte crc) = buffer.foldl (Crc.addByte polynomial) (Bits.toBits crc) := by
  induction buffer generalizing crc with
  | nil => rfl
  | cons byte buffer ih => rw [List.foldl_cons, List.foldl_cons, ih, toBits_crcByte]

/-- The function with the table is the reflected CRC-32, which goes through the bytes bit by bit, as an unsigned number. -/
theorem crc32_eq_checksum (buffer : List UInt8) :
    crc32 buffer = (Crc.checksum polynomial buffer).toNat ∧ 0 ≤ crc32 buffer ∧ crc32 buffer < 2 ^ 32 := by
  refine ⟨?_, Bits.shiftRightUnsigned_bounds _ 0⟩
  have hones : Bits.toBits 0xFFFFFFFF = BitVec.allOnes 32 := by decide
  have hbits : Bits.toBits (Bits.xor (buffer.foldl crcByte 0xFFFFFFFF) 0xFFFFFFFF) = Crc.checksum polynomial buffer := by
    rw [Bits.toBits_xor, toBits_foldl_crcByte, hones]
    rfl
  rw [crc32, Bits.shiftRightUnsigned, hbits]
  rfl

example : crc32 "123456789".toUTF8.toList = 0xCBF43926 := by decide +kernel

end EasyMc.Packs
