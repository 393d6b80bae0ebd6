import EasyMc.Library.Text

/-!
# Decoding UTF-8

The decoder reads a byte at a time.  Of a character that has begun it keeps the bits so far and the range that the next
byte has to be in (`Pending`).  A byte that is out of range begins anew, and U+FFFD stands for what has begun; so it does
at the end of the bytes.

A text that has been encoded is decoded again (`decode_utf8`).  Bytes that are decoded in parts give what they give as a
whole as long as no part ends inside a character that the next one goes on with (`decode_flatten`); otherwise there are more
replacement characters than in the whole (`count_decode_flatten_lt`).
-/

namespace Utf8

def replacement : Char := '\uFFFD'

/-- What has begun: the number of bytes that are needed, the range of the next one, and the bits so far. -/
structure Pending where
  needed : Nat
  low : Nat
  high : Nat
  bits : Nat
  continuation : 0x80 ≤ low ∧ high ≤ 0xBF

/-- The byte goes on with the character. -/
def Pending.accepts (p : Pending) (byte : Nat) : Bool := p.low ≤ byte && byte ≤ p.high

def Pending.next (p : Pending) (byte : Nat) : List Char × Option Pending :=
  let bits := p.bits * 64 + (byte - 0x80)
  if p.needed = 1 then ([Char.ofNat bits], none) else ([], some ⟨p.needed - 1, 0x80, 0xBF, bits, by decide⟩)

/-- The first byte of a character. -/
def first (byte : Nat) : List Char × Option Pending :=
  if byte < 0x80 then ([Char.ofNat byte], none)
  else if 0xC2 ≤ byte ∧ byte ≤ 0xDF then ([], some ⟨1, 0x80, 0xBF, byte - 0xC0, by decide⟩)
  -- Nothing that has a shorter encoding, no surrogate, and nothing above U+10FFFF.
  else if byte = 0xE0 then ([], some ⟨2, 0xA0, 0xBF, 0, by decide⟩)
  else if byte = 0xED then ([], some ⟨2, 0x80, 0x9F, 0xD, by decide⟩)
  else if 0xE1 ≤ byte ∧ byte ≤ 0xEF then ([], some ⟨2, 0x80, 0xBF, byte - 0xE0, by decide⟩)
  else if byte = 0xF0 then ([], some ⟨3, 0x90, 0xBF, 0, by decide⟩)
  else if byte = 0xF4 then ([], some ⟨3, 0x80, 0x8F, 4, by decide⟩)
  else if 0xF1 ≤ byte ∧ byte ≤ 0xF3 then ([], some ⟨3, 0x80, 0xBF, byte - 0xF0, by decide⟩)
  else ([replacement], none)

/-- Between characters there is nothing pending. -/
def step : Option Pending → Nat → List Char × Option Pending
  | none, byte => first byte
  | some p, byte => if p.accepts byte then p.next byte else (replacement :: (first byte).1, (first byte).2)

/-- The end of the bytes. -/
def finish : Option Pending → List Char
  | none => []
  | some _ => [replacement]

def decodeFrom : Option Pending → List UInt8 → List Char
  | state, [] => finish state
  | state, byte :: bytes => (step state byte.toNat).1 ++ decodeFrom (step state byte.toNat).2 bytes

def decode (bytes : List UInt8) : List Char := decodeFrom none bytes

/-- What is pending after the bytes. -/
def after : Option Pending → List UInt8 → Option Pending
  | state, [] => state
  | state, byte :: bytes => after (step state byte.toNat).2 bytes

/-- The bytes go on with the character that is pending. -/
def goesOn (state : Option Pending) (bytes : List UInt8) : Bool :=
  state.any fun p => bytes.head?.any fun byte => p.accepts byte.toNat

/-! ### Decoding in parts -/

variable {state : Option Pending} {bytes bytes' : List UInt8}

/-- Where the bytes do not go on with what is pending, they are decoded from the start. -/
theorem decodeFrom_of_not_goesOn (h : goesOn state bytes = false) : decodeFrom state bytes = finish state ++ decode bytes := by
  cases state with
  | none => rfl
  | some p =>
    cases bytes with
    | nil => rfl
    | cons byte bytes =>
      have haccepts : p.accepts byte.toNat = false := h
      have hstep : step (some p) byte.toNat = (replacement :: (first byte.toNat).1, (first byte.toNat).2) := by
        simp [step, haccepts]
      rw [decodeFrom, hstep, decode, decodeFrom]
      rfl

/-- A byte that goes on with a character begins none. -/
theorem first_of_accepts {p : Pending} {byte : Nat} (h : p.accepts byte = true) : first byte = ([replacement], none) := by
  obtain ⟨hlow, hhigh⟩ := p.continuation
  simp only [Pending.accepts, Bool.and_eq_true, decide_eq_true_eq] at h
  unfold first
  repeat rw [if_neg (by omega)]

theorem decodeFrom_of_accepts {p : Pending} {byte : UInt8} (h : p.accepts byte.toNat = true) (bytes : List UInt8) :
    decodeFrom (some p) (byte :: bytes) = (p.next byte.toNat).1 ++ decodeFrom (p.next byte.toNat).2 bytes := by
  have hstep : step (some p) byte.toNat = p.next byte.toNat := by simp [step, h]
  rw [decodeFrom, hstep]

theorem decode_of_accepts {p : Pending} {byte : UInt8} (h : p.accepts byte.toNat = true) (bytes : List UInt8) :
    decode (byte :: bytes) = replacement :: decode bytes := by
  have hstep : step none byte.toNat = ([replacement], none) := first_of_accepts h
  rw [decode, decodeFrom, hstep]
  rfl

theorem count_next_le (p : Pending) (byte : Nat) :
    ((p.next byte).1 ++ finish (p.next byte).2).count replacement ≤ 1 := by
  unfold Pending.next
  dsimp only
  split_ifs
  · exact List.count_le_length
  · simp [finish]

/-- With what is pending, there is at most one replacement character more. -/
theorem count_decodeFrom_le (state : Option Pending) (bytes : List UInt8) :
    (decodeFrom state bytes).count replacement ≤ (finish state ++ decode bytes).count replacement := by
  induction bytes generalizing state with
  | nil => simp [decode, decodeFrom, finish]
  | cons byte bytes ih =>
    by_cases hgoes : goesOn state (byte :: bytes) = true
    · cases state with
      | none => cases hgoes
      | some p =>
        have hnext := count_next_le p byte.toNat
        have hrest := ih (p.next byte.toNat).2
        rw [decodeFrom_of_accepts hgoes, decode_of_accepts hgoes]
        simp only [List.count_append, List.count_cons_self, finish] at hnext hrest ⊢
        omega
    · rw [decodeFrom_of_not_goesOn (by simpa using hgoes)]

/-- A character that is taken apart gives more of them. -/
theorem count_decodeFrom_lt (h : goesOn state bytes = true) :
    (decodeFrom state bytes).count replacement < (finish state ++ decode bytes).count replacement := by
  cases state with
  | none => cases h
  | some p =>
    cases bytes with
    | nil => cases h
    | cons byte bytes =>
      have hnext := count_next_le p byte.toNat
      have hrest := count_decodeFrom_le (p.next byte.toNat).2 bytes
      rw [decodeFrom_of_accepts h, decode_of_accepts h]
      simp only [List.count_append, List.count_cons_self, finish, List.count_nil] at hnext hrest ⊢
      omega

/-- What has been decoded before what is pending. -/
def output : Option Pending → List UInt8 → List Char
  | _, [] => []
  | state, byte :: bytes => (step state byte.toNat).1 ++ output (step state byte.toNat).2 bytes

theorem decodeFrom_append (state : Option Pending) (bytes bytes' : List UInt8) :
    decodeFrom state (bytes ++ bytes') = output state bytes ++ decodeFrom (after state bytes) bytes' := by
  induction bytes generalizing state with
  | nil => rfl
  | cons byte bytes ih => rw [List.cons_append, decodeFrom, output, after, ih, List.append_assoc]

theorem decode_eq (bytes : List UInt8) : decode bytes = output none bytes ++ finish (after none bytes) := by
  have happend := decodeFrom_append none bytes []
  rw [List.append_nil] at happend
  exact happend

theorem decode_append (h : goesOn (after none bytes) bytes' = false) : decode (bytes ++ bytes') = decode bytes ++ decode bytes' := by
  rw [decode_eq bytes, decode, decodeFrom_append, decodeFrom_of_not_goesOn h, List.append_assoc]

theorem count_decode_append_le (bytes bytes' : List UInt8) :
    (decode (bytes ++ bytes')).count replacement ≤ (decode bytes).count replacement + (decode bytes').count replacement := by
  have hle := count_decodeFrom_le (after none bytes) bytes'
  rw [decode_eq bytes, decode, decodeFrom_append]
  simp only [List.count_append] at hle ⊢
  omega

theorem count_decode_append_lt (h : goesOn (after none bytes) bytes' = true) :
    (decode (bytes ++ bytes')).count replacement < (decode bytes).count replacement + (decode bytes').count replacement := by
  have hlt := count_decodeFrom_lt h
  rw [decode_eq bytes, decode, decodeFrom_append]
  simp only [List.count_append] at hlt ⊢
  omega

/-- No part ends inside a character that the bytes after it go on with. -/
def KeepsCharacters : List (List UInt8) → Prop
  | [] => True
  | part :: parts => goesOn (after none part) parts.flatten = false ∧ KeepsCharacters parts

instance decidableKeepsCharacters : (parts : List (List UInt8)) → Decidable (KeepsCharacters parts)
  | [] => .isTrue trivial
  | _ :: parts =>
    have : Decidable (KeepsCharacters parts) := decidableKeepsCharacters parts
    inferInstanceAs (Decidable (_ ∧ _))

theorem decode_flatten {parts : List (List UInt8)} (h : KeepsCharacters parts) :
    decode parts.flatten = (parts.map decode).flatten := by
  induction parts with
  | nil => rfl
  | cons part parts ih =>
    rw [List.flatten_cons, decode_append h.1, ih h.2]
    rfl

theorem count_decode_flatten_le (parts : List (List UInt8)) :
    (decode parts.flatten).count replacement ≤ ((parts.map decode).flatten).count replacement := by
  induction parts with
  | nil => exact Nat.le_refl _
  | cons part parts ih =>
    have hle := count_decode_append_le part parts.flatten
    rw [List.flatten_cons, List.map_cons, List.flatten_cons, List.count_append]
    omega

theorem count_decode_flatten_lt {parts : List (List UInt8)} (h : ¬ KeepsCharacters parts) :
    (decode parts.flatten).count replacement < ((parts.map decode).flatten).count replacement := by
  induction parts with
  | nil => exact absurd trivial h
  | cons part parts ih =>
    rw [List.flatten_cons, List.map_cons, List.flatten_cons, List.count_append]
    by_cases hgoes : goesOn (after none part) parts.flatten = true
    · have hlt := count_decode_append_lt hgoes
      have hle := count_decode_flatten_le parts
      omega
    · have hle := count_decode_append_le part parts.flatten
      have hlt := ih fun hkeeps => h ⟨by simpa using hgoes, hkeeps⟩
      omega

/-! ### Decoding what has been encoded -/

theorem decodeFrom_last {p : Pending} {byte : UInt8} (hneeded : p.needed = 1) (hlow : p.low ≤ byte.toNat)
    (hhigh : byte.toNat ≤ p.high) (bytes : List UInt8) :
    decodeFrom (some p) (byte :: bytes) = Char.ofNat (p.bits * 64 + (byte.toNat - 0x80)) :: decode bytes := by
  have haccepts : p.accepts byte.toNat = true := by simp [Pending.accepts, hlow, hhigh]
  rw [decodeFrom_of_accepts haccepts, Pending.next]
  rw [if_pos hneeded]
  rfl

theorem decodeFrom_more {p : Pending} {byte : UInt8} (hneeded : p.needed ≠ 1) (hlow : p.low ≤ byte.toNat)
    (hhigh : byte.toNat ≤ p.high) (bytes : List UInt8) :
    decodeFrom (some p) (byte :: bytes) =
      decodeFrom (some ⟨p.needed - 1, 0x80, 0xBF, p.bits * 64 + (byte.toNat - 0x80), by decide⟩) bytes := by
  have haccepts : p.accepts byte.toNat = true := by simp [Pending.accepts, hlow, hhigh]
  rw [decodeFrom_of_accepts haccepts, Pending.next]
  rw [if_neg hneeded]
  rfl

theorem decode_first {byte : UInt8} {p : Pending} (h : first byte.toNat = ([], some p)) (bytes : List UInt8) :
    decode (byte :: bytes) = decodeFrom (some p) bytes := by
  rw [decode, decodeFrom, step, h]
  rfl

/-- The first byte of two. -/
theorem first_of_two (byte : Nat) (hlow : 0xC2 ≤ byte) (hhigh : byte ≤ 0xDF) :
    ∃ p, first byte = ([], some p) ∧ p.needed = 1 ∧ p.bits = byte - 0xC0 ∧ p.low = 0x80 ∧ p.high = 0xBF := by
  unfold first
  rw [if_neg (by omega), if_pos ⟨hlow, hhigh⟩]
  exact ⟨_, rfl, rfl, rfl, rfl, rfl⟩

/-- The first byte of three. -/
theorem first_of_three (byte : Nat) (hlow : 0xE0 ≤ byte) (hhigh : byte ≤ 0xEF) :
    ∃ p, first byte = ([], some p) ∧ p.needed = 2 ∧ p.bits = byte - 0xE0 ∧
      p.low = (if byte = 0xE0 then 0xA0 else 0x80) ∧ p.high = if byte = 0xED then 0x9F else 0xBF := by
  unfold first
  rw [if_neg (by omega), if_neg (by omega)]
  by_cases hE0 : byte = 0xE0
  · subst hE0
    exact ⟨_, rfl, rfl, rfl, rfl, rfl⟩
  · by_cases hED : byte = 0xED
    · subst hED
      exact ⟨_, rfl, rfl, rfl, rfl, rfl⟩
    · rw [if_neg hE0, if_neg hED, if_pos (by omega), if_neg hE0, if_neg hED]
      exact ⟨_, rfl, rfl, rfl, rfl, rfl⟩

/-- The first byte of four. -/
theorem first_of_four (byte : Nat) (hlow : 0xF0 ≤ byte) (hhigh : byte ≤ 0xF4) :
    ∃ p, first byte = ([], some p) ∧ p.needed = 3 ∧ p.bits = byte - 0xF0 ∧
      p.low = (if byte = 0xF0 then 0x90 else 0x80) ∧ p.high = if byte = 0xF4 then 0x8F else 0xBF := by
  unfold first
  rw [if_neg (by omega), if_neg (by omega), if_neg (by omega), if_neg (by omega), if_neg (by omega)]
  by_cases hF0 : byte = 0xF0
  · subst hF0
    exact ⟨_, rfl, rfl, rfl, rfl, rfl⟩
  · by_cases hF4 : byte = 0xF4
    · subst hF4
      exact ⟨_, rfl, rfl, rfl, rfl, rfl⟩
    · rw [if_neg hF0, if_neg hF4, if_pos (by omega), if_neg hF0, if_neg hF4]
      exact ⟨_, rfl, rfl, rfl, rfl, rfl⟩

theorem toNat_ofNat {n : Nat} (h : n < 256) : (UInt8.ofNat n).toNat = n := by
  rw [UInt8.toNat_ofNat']
  omega

theorem decode_encodeChar (c : Char) (bytes : List UInt8) :
    decode (String.utf8EncodeChar c ++ bytes) = c :: decode bytes := by
  have hvalid : c.val.toNat < 0xD800 ∨ (0xDFFF < c.val.toNat ∧ c.val.toNat < 0x110000) := c.valid
  have hc : Char.ofNat c.val.toNat = c := Char.ofNat_toNat c
  unfold String.utf8EncodeChar
  dsimp only
  generalize c.val.toNat = v at hvalid hc
  split_ifs with hone htwo hthree
  · have hbyte : (UInt8.ofNat v).toNat = v := toNat_ofNat (by omega)
    have hfirst : first v = ([c], none) := by
      rw [first, if_pos (by omega), hc]
    rw [List.singleton_append, decode, decodeFrom, hbyte, step, hfirst]
    rfl
  · have hbyte₀ : (UInt8.ofNat (v / 64 % 0x20 + 0xc0)).toNat = v / 64 % 0x20 + 0xc0 := toNat_ofNat (by omega)
    have hbyte₁ : (UInt8.ofNat (v % 0x40 + 0x80)).toNat = v % 0x40 + 0x80 := toNat_ofNat (by omega)
    obtain ⟨p, hfirst, hneeded, hbits, hlow, hhigh⟩ := first_of_two (v / 64 % 0x20 + 0xc0) (by omega) (by omega)
    rw [← hbyte₀] at hfirst
    rw [List.cons_append, List.singleton_append, decode_first hfirst,
      decodeFrom_last hneeded (by omega) (by omega), hbits, hbyte₁]
    have hv : (v / 64 % 0x20 + 0xc0 - 0xC0) * 64 + (v % 0x40 + 0x80 - 0x80) = v := by omega
    rw [hv, hc]
  · have hbyte₀ : (UInt8.ofNat (v / 4096 % 0x10 + 0xe0)).toNat = v / 4096 % 0x10 + 0xe0 := toNat_ofNat (by omega)
    have hbyte₁ : (UInt8.ofNat (v / 64 % 0x40 + 0x80)).toNat = v / 64 % 0x40 + 0x80 := toNat_ofNat (by omega)
    have hbyte₂ : (UInt8.ofNat (v % 0x40 + 0x80)).toNat = v % 0x40 + 0x80 := toNat_ofNat (by omega)
    obtain ⟨p, hfirst, hneeded, hbits, hlow, hhigh⟩ := first_of_three (v / 4096 % 0x10 + 0xe0) (by omega) (by omega)
    rw [← hbyte₀] at hfirst
    rw [List.cons_append, List.cons_append, List.singleton_append, decode_first hfirst,
      decodeFrom_more (by omega) (by split_ifs at hlow <;> omega) (by split_ifs at hhigh <;> omega),
      decodeFrom_last (by dsimp only; omega) (by dsimp only; omega) (by dsimp only; omega), hbits, hbyte₁, hbyte₂]
    have hv : ((v / 4096 % 0x10 + 0xe0 - 0xE0) * 64 + (v / 64 % 0x40 + 0x80 - 0x80)) * 64 + (v % 0x40 + 0x80 - 0x80) = v := by
      omega
    rw [hv, hc]
  · have hbyte₀ : (UInt8.ofNat (v / 262144 % 0x08 + 0xf0)).toNat = v / 262144 % 0x08 + 0xf0 := toNat_ofNat (by omega)
    have hbyte₁ : (UInt8.ofNat (v / 4096 % 0x40 + 0x80)).toNat = v / 4096 % 0x40 + 0x80 := toNat_ofNat (by omega)
    have hbyte₂ : (UInt8.ofNat (v / 64 % 0x40 + 0x80)).toNat = v / 64 % 0x40 + 0x80 := toNat_ofNat (by omega)
    have hbyte₃ : (UInt8.ofNat (v % 0x40 + 0x80)).toNat = v % 0x40 + 0x80 := toNat_ofNat (by omega)
    obtain ⟨p, hfirst, hneeded, hbits, hlow, hhigh⟩ := first_of_four (v / 262144 % 0x08 + 0xf0) (by omega) (by omega)
    rw [← hbyte₀] at hfirst
    rw [List.cons_append, List.cons_append, List.cons_append, List.singleton_append, decode_first hfirst,
      decodeFrom_more (by omega) (by split_ifs at hlow <;> omega) (by split_ifs at hhigh <;> omega),
      decodeFrom_more (by dsimp only; omega) (by dsimp only; omega) (by dsimp only; omega),
      decodeFrom_last (by dsimp only; omega) (by dsimp only; omega) (by dsimp only; omega), hbits, hbyte₁, hbyte₂, hbyte₃]
    have hv : (((v / 262144 % 0x08 + 0xf0 - 0xF0) * 64 + (v / 4096 % 0x40 + 0x80 - 0x80)) * 64 +
        (v / 64 % 0x40 + 0x80 - 0x80)) * 64 + (v % 0x40 + 0x80 - 0x80) = v := by
      omega
    rw [hv, hc]

/-- A text that has been encoded is decoded again. -/
theorem decode_utf8 (text : List Char) : decode (Text.utf8 text) = text := by
  induction text with
  | nil => rfl
  | cons c text ih =>
    have hcons : Text.utf8 (c :: text) = String.utf8EncodeChar c ++ Text.utf8 text := rfl
    rw [hcons, decode_encodeChar, ih]

end Utf8
