import Mathlib.Algebra.GroupWithZero.Nat
import Mathlib.Algebra.Order.BigOperators.Group.List
import Mathlib.Algebra.Order.Group.Nat
import Mathlib.Data.List.Basic
import EasyMc.Library.Throwing

/-!
# Numbers in buffers

A buffer is a list of bytes.  Numbers are read from it and written into it with their lowest byte first; what would be out of
the buffer, or does not fit into the bytes, throws.

A record is a table of fields that are written into an empty buffer (`fill`).  When the fields follow each other
(`Consecutive`), the record is their bytes (`fill_eq_ok`), and each field can be read from wherever the record stands
(`read_field`).
-/

namespace Buffers

open Throwing (bind_eq_ok)

/-- The bytes of a number, the lowest first. -/
def littleEndian : Nat → Nat → List UInt8
  | 0, _ => []
  | width + 1, value => UInt8.ofNat value :: littleEndian width (value / 256)

/-- The number of some bytes, the lowest first. -/
def number : List UInt8 → Nat
  | [] => 0
  | byte :: bytes => byte.toNat + 256 * number bytes

@[simp] theorem length_littleEndian (width value : Nat) : (littleEndian width value).length = width := by
  induction width generalizing value with
  | zero => rfl
  | succ width ih => rw [littleEndian, List.length_cons, ih]

/-- A number that fits is read again. -/
theorem number_littleEndian {width value : Nat} (h : value < 256 ^ width) : number (littleEndian width value) = value := by
  induction width generalizing value with
  | zero =>
    rw [Nat.pow_zero] at h
    rw [littleEndian, number]
    omega
  | succ width ih =>
    rw [Nat.pow_succ] at h
    have hbyte : (UInt8.ofNat value).toNat = value % 256 := UInt8.toNat_ofNat'
    rw [littleEndian, number, hbyte, ih (by omega)]
    omega

variable {ε : Type} (outOfRange : ε)

/-- `buffer.readUIntLE(offset, width)` -/
def read (width : Nat) (buffer : List UInt8) (offset : Nat) : Except ε Nat :=
  if offset + width ≤ buffer.length then .ok (number ((buffer.drop offset).take width)) else .error outOfRange

/-- `buffer.writeUIntLE(value, offset, width)` -/
def write (width : Nat) (buffer : List UInt8) (value : Int) (offset : Nat) : Except ε (List UInt8) :=
  if 0 ≤ value ∧ value < 256 ^ width ∧ offset + width ≤ buffer.length then
    .ok (buffer.take offset ++ littleEndian width value.toNat ++ buffer.drop (offset + width))
  else .error outOfRange

/-- `Buffer.alloc(size)` -/
def alloc (size : Nat) : List UInt8 := List.replicate size 0

theorem read_of_le {width : Nat} {buffer : List UInt8} {offset : Nat} (h : offset + width ≤ buffer.length) :
    read outOfRange width buffer offset = .ok (number ((buffer.drop offset).take width)) := if_pos h

theorem read_eq_ok {width : Nat} {buffer : List UInt8} {offset value : Nat}
    (h : read outOfRange width buffer offset = .ok value) : value = number ((buffer.drop offset).take width) := by
  unfold read at h
  split_ifs at h
  exact (Except.ok.inj h).symm

/-- A number that has been written behind some bytes is read there. -/
theorem read_littleEndian {width value : Nat} (h : value < 256 ^ width) (before after : List UInt8) :
    read outOfRange width (before ++ (littleEndian width value ++ after)) before.length = .ok value := by
  have hlength : before.length + width ≤ (before ++ (littleEndian width value ++ after)).length := by
    simp only [List.length_append, length_littleEndian]
    omega
  have htake : (littleEndian width value ++ after).take width = littleEndian width value :=
    List.take_left' (length_littleEndian width value)
  rw [read_of_le outOfRange hlength, List.drop_left, htake, number_littleEndian h]

/-! ### Records -/

/-- A number of a record, with its width and its offset. -/
structure Field where
  width : Nat
  value : Int
  offset : Nat

def Field.bytes (field : Field) : List UInt8 := littleEndian field.width field.value.toNat

/-- The number fits into the field. -/
def Field.Fits (field : Field) : Prop := 0 ≤ field.value ∧ field.value < 256 ^ field.width

/-- The fields follow each other, from an offset on. -/
def Consecutive : Nat → List Field → Prop
  | _, [] => True
  | start, field :: fields => field.offset = start ∧ Consecutive (start + field.width) fields

def writeField (buffer : List UInt8) (field : Field) : Except ε (List UInt8) :=
  write outOfRange field.width buffer field.value field.offset

/-- A buffer of the size with the fields written into it. -/
def fill (size : Nat) (fields : List Field) : Except ε (List UInt8) := fields.foldlM (writeField outOfRange) (alloc size)

/-- A field is written where the zeros begin. -/
theorem writeField_eq_ok {done result : List UInt8} {field : Field} {rest : Nat} (hoffset : field.offset = done.length)
    (h : writeField outOfRange (done ++ alloc (field.width + rest)) field = .ok result) :
    field.Fits ∧ result = done ++ field.bytes ++ alloc rest := by
  unfold writeField write at h
  split_ifs at h with hfits
  refine ⟨⟨hfits.1, hfits.2.1⟩, ?_⟩
  have hdrop : (done ++ alloc (field.width + rest)).drop (done.length + field.width) = alloc rest := by
    rw [List.drop_length_add_append, alloc, List.drop_replicate, Nat.add_sub_cancel_left, alloc]
  rw [hoffset, List.take_left, hdrop] at h
  exact (Except.ok.inj h).symm

theorem foldlM_writeField {fields : List Field} (done : List UInt8) {result : List UInt8} (hconsecutive : Consecutive done.length fields)
    (h : fields.foldlM (writeField outOfRange) (done ++ alloc (fields.map Field.width).sum) = .ok result) :
    (∀ field ∈ fields, field.Fits) ∧ result = done ++ fields.flatMap Field.bytes := by
  induction fields generalizing done with
  | nil =>
    obtain rfl := Except.ok.inj h
    simp [alloc]
  | cons field fields ih =>
    rw [List.foldlM_cons] at h
    obtain ⟨next, hnext, h⟩ := bind_eq_ok.1 h
    rw [List.map_cons, List.sum_cons] at hnext
    obtain ⟨hfits, rfl⟩ := writeField_eq_ok outOfRange hconsecutive.1 hnext
    have hlength : (done ++ field.bytes).length = done.length + field.width := by
      rw [List.length_append, Field.bytes, length_littleEndian]
    obtain ⟨hall, rfl⟩ := ih (done ++ field.bytes) (hlength ▸ hconsecutive.2) h
    refine ⟨List.forall_mem_cons.2 ⟨hfits, hall⟩, ?_⟩
    rw [List.flatMap_cons, List.append_assoc]

/-- A buffer that has been filled holds the bytes of the fields, and every number fits. -/
theorem fill_eq_ok {size : Nat} {fields : List Field} {result : List UInt8} (hconsecutive : Consecutive 0 fields)
    (hsize : (fields.map Field.width).sum = size) (h : fill outOfRange size fields = .ok result) :
    (∀ field ∈ fields, field.Fits) ∧ result = fields.flatMap Field.bytes := by
  rw [fill, ← hsize] at h
  exact foldlM_writeField outOfRange [] hconsecutive h

theorem length_flatMap_bytes (fields : List Field) : (fields.flatMap Field.bytes).length = (fields.map Field.width).sum := by
  rw [List.length_flatMap]
  exact congrArg List.sum (List.map_congr_left fun field _ => length_littleEndian field.width field.value.toNat)

/-- Fields that follow each other stand behind their start. -/
theorem Consecutive.le_offset {fields : List Field} {start : Nat} (h : Consecutive start fields) :
    ∀ field ∈ fields, start ≤ field.offset := by
  induction fields generalizing start with
  | nil => simp
  | cons first fields ih =>
    rw [List.forall_mem_cons]
    refine ⟨Nat.le_of_eq h.1.symm, fun field hfield => ?_⟩
    have hle := ih h.2 field hfield
    omega

/-- Each field is read from the bytes of its record, wherever the record stands. -/
theorem read_field {fields : List Field} {field : Field} {start : Nat} (hconsecutive : Consecutive start fields)
    (hfield : field ∈ fields) (hfits : field.Fits) (before after : List UInt8) :
    read outOfRange field.width (before ++ (fields.flatMap Field.bytes ++ after)) (before.length + (field.offset - start)) =
      .ok field.value.toNat := by
  induction fields generalizing start before with
  | nil => cases hfield
  | cons first fields ih =>
    rw [List.flatMap_cons]
    rcases List.mem_cons.1 hfield with rfl | hfield
    · have hvalue : field.value.toNat < 256 ^ field.width := by
        rw [Int.toNat_lt hfits.1, Int.natCast_pow]
        exact hfits.2
      rw [hconsecutive.1, Nat.sub_self, Nat.add_zero, List.append_assoc]
      exact read_littleEndian outOfRange hvalue before _
    · have hrest := ih hconsecutive.2 hfield (before ++ first.bytes)
      have hle : start + first.width ≤ field.offset := hconsecutive.2.le_offset field hfield
      have hlength : (before ++ first.bytes).length + (field.offset - (start + first.width)) =
          before.length + (field.offset - start) := by
        rw [List.length_append, Field.bytes, length_littleEndian]
        omega
      rw [hlength, List.append_assoc] at hrest
      rw [List.append_assoc]
      exact hrest

end Buffers
