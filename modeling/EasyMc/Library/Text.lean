import Mathlib.Data.List.TakeWhile

/-!
# Lengths of texts and trimming

A text is a list of characters.  Its length depends on the encoding: `utf16Length` counts code units, `utf8Length`
counts bytes; on ASCII both count characters.  `trimBy` drops the characters with a property from both ends, and
two properties that agree on a text trim it alike (`trimBy_congr`).
-/

namespace Text

/-- The UTF-16 code units of a character. -/
def utf16Units (c : Char) : Nat := if c.toNat < 0x10000 then 1 else 2

/-- The UTF-8 bytes of a character. -/
def utf8Bytes (c : Char) : Nat :=
  if c.toNat < 0x80 then 1 else if c.toNat < 0x800 then 2 else if c.toNat < 0x10000 then 3 else 4

def utf16Length : List Char → Nat
  | [] => 0
  | c :: text => utf16Units c + utf16Length text

def utf8Length : List Char → Nat
  | [] => 0
  | c :: text => utf8Bytes c + utf8Length text

def trimBy (p : Char → Bool) (text : List Char) : List Char :=
  ((text.dropWhile p).reverse.dropWhile p).reverse

/-- The blanks of JavaScript. -/
def isBlank (c : Char) : Bool :=
  (9 ≤ c.toNat && c.toNat ≤ 13) || (0x2000 ≤ c.toNat && c.toNat ≤ 0x200A) ||
    [0x20, 0xA0, 0x1680, 0x2028, 0x2029, 0x202F, 0x205F, 0x3000, 0xFEFF].contains c.toNat

/-- `text.trim()`. -/
def trim (text : List Char) : List Char := trimBy isBlank text

/-- `part` stands somewhere in the text. -/
def contains (part : List Char) : List Char → Bool
  | [] => part.isEmpty
  | c :: text => part.isPrefixOf (c :: text) || contains part text

/-- `text.includes(part)`. -/
def includes (text part : String) : Bool := contains part.toList text.toList

/-- `text.startsWith(part)`. -/
def startsWith (text part : String) : Bool := part.toList.isPrefixOf text.toList

/-- `text.endsWith(part)`. -/
def endsWith (text part : String) : Bool := part.toList.isSuffixOf text.toList

def hexDigit (n : Nat) : Char := "0123456789ABCDEF".toList.getD n '0'

/-- The characters that `encodeURIComponent` leaves as they are. -/
def isUriUnreserved (c : Char) : Bool :=
  ('A' ≤ c && c ≤ 'Z') || ('a' ≤ c && c ≤ 'z') || ('0' ≤ c && c ≤ '9') || "-_.!~*'()".toList.contains c

/-- `encodeURIComponent`: the UTF-8 bytes of every other character, each as `%` and two digits. -/
def encodeURIComponent (text : String) : String :=
  String.ofList (text.toList.flatMap fun c =>
    if isUriUnreserved c then [c]
    else (String.utf8EncodeChar c).flatMap fun byte =>
      ['%', hexDigit (byte.toNat / 16), hexDigit (byte.toNat % 16)])

/-- The UTF-8 bytes of a text. -/
def utf8 (text : List Char) : List UInt8 := text.flatMap String.utf8EncodeChar

/-- Every character is ASCII. -/
def Ascii (text : List Char) : Prop := ∀ c ∈ text, c.toNat < 0x80

theorem utf16Length_ascii {text : List Char} (h : Ascii text) : utf16Length text = text.length := by
  induction text with
  | nil => rfl
  | cons c text ih =>
    have hc : c.toNat < 0x80 := h c (by simp)
    have hunits : utf16Units c = 1 := if_pos (by omega)
    rw [utf16Length, hunits, ih fun d hd => h d (by simp [hd]), List.length_cons, Nat.add_comm]

theorem utf8Length_ascii {text : List Char} (h : Ascii text) : utf8Length text = text.length := by
  induction text with
  | nil => rfl
  | cons c text ih =>
    have hbytes : utf8Bytes c = 1 := if_pos (h c (by simp))
    rw [utf8Length, hbytes, ih fun d hd => h d (by simp [hd]), List.length_cons, Nat.add_comm]

theorem utf8Length_append (text text' : List Char) :
    utf8Length (text ++ text') = utf8Length text + utf8Length text' := by
  induction text with
  | nil => simp [utf8Length]
  | cons c text ih =>
    rw [List.cons_append, utf8Length, utf8Length, ih]
    omega

theorem length_le_utf8Length (text : List Char) : text.length ≤ utf8Length text := by
  induction text with
  | nil => simp [utf8Length]
  | cons c text ih =>
    have hbytes : 1 ≤ utf8Bytes c := by
      unfold utf8Bytes
      split_ifs <;> omega
    rw [utf8Length, List.length_cons]
    omega

theorem mem_of_mem_trimBy {p : Char → Bool} {text : List Char} {c : Char} (h : c ∈ trimBy p text) : c ∈ text := by
  rw [trimBy, List.mem_reverse] at h
  have h₁ := (List.dropWhile_sublist p).mem h
  rw [List.mem_reverse] at h₁
  exact (List.dropWhile_sublist p).mem h₁

/-- Nothing is left of a text that consists of such characters only. -/
theorem trimBy_eq_nil {p : Char → Bool} {text : List Char} : trimBy p text = [] ↔ ∀ c ∈ text, p c = true := by
  rw [trimBy, List.reverse_eq_nil_iff, List.dropWhile_eq_nil_iff]
  constructor
  · intro h
    -- What the first pass leaves would start with another character.
    have hnil : text.dropWhile p = [] := by
      cases hrest : text.dropWhile p with
      | nil => rfl
      | cons c rest =>
        have hc : p c = true := h c (by simp [hrest])
        have hnot := List.head?_dropWhile_not p text
        rw [hrest] at hnot
        simp [hc] at hnot
    exact List.dropWhile_eq_nil_iff.1 hnil
  · intro h c hc
    rw [List.mem_reverse] at hc
    exact h c ((List.dropWhile_sublist p).mem hc)

theorem contains_iff {part text : List Char} : contains part text = true ↔ part <:+: text := by
  induction text with
  | nil => rw [contains, List.isEmpty_iff, List.infix_nil]
  | cons c text ih => rw [contains, Bool.or_eq_true, List.isPrefixOf_iff_prefix, ih, List.infix_cons_iff]

private theorem dropWhile_congr {p q : Char → Bool} {text : List Char} (h : ∀ c ∈ text, p c = q c) :
    text.dropWhile p = text.dropWhile q := by
  induction text with
  | nil => rfl
  | cons c text ih =>
    rw [List.dropWhile_cons, List.dropWhile_cons, h c (by simp), ih fun d hd => h d (by simp [hd])]

/-- Two properties that agree on the characters of a text trim it alike. -/
theorem trimBy_congr {p q : Char → Bool} {text : List Char} (h : ∀ c ∈ text, p c = q c) :
    trimBy p text = trimBy q text := by
  have h₁ : text.dropWhile p = text.dropWhile q := dropWhile_congr h
  have h₂ : ∀ c ∈ (text.dropWhile q).reverse, p c = q c := by
    intro c hc
    rw [List.mem_reverse] at hc
    exact h c ((List.dropWhile_sublist q).mem hc)
  rw [trimBy, trimBy, h₁, dropWhile_congr h₂]

private theorem count_dropWhile {p : Char → Bool} {c : Char} (hc : p c = false) (text : List Char) :
    (text.dropWhile p).count c = text.count c := by
  induction text with
  | nil => rfl
  | cons d text ih =>
    rw [List.dropWhile_cons]
    split
    · rename_i hd
      have hne : d ≠ c := by
        rintro rfl
        rw [hc] at hd
        cases hd
      rw [ih, List.count_cons_of_ne hne]
    · rfl

/-- Trimming drops none of the other characters. -/
theorem count_trimBy {p : Char → Bool} {c : Char} (hc : p c = false) (text : List Char) :
    (trimBy p text).count c = text.count c := by
  rw [trimBy, List.count_reverse, count_dropWhile hc, List.count_reverse, count_dropWhile hc]

/-- A text is what is left of it and the characters that have been trimmed. -/
theorem trimBy_split (p : Char → Bool) (text : List Char) :
    ∃ before after, text = before ++ trimBy p text ++ after ∧ (∀ c ∈ before, p c = true) ∧ ∀ c ∈ after, p c = true := by
  have hfront : text.takeWhile p ++ text.dropWhile p = text := List.takeWhile_append_dropWhile
  have hback : (text.dropWhile p).reverse.takeWhile p ++ (text.dropWhile p).reverse.dropWhile p =
      (text.dropWhile p).reverse := List.takeWhile_append_dropWhile
  have hrest := congrArg List.reverse hback
  rw [List.reverse_append, List.reverse_reverse] at hrest
  refine ⟨text.takeWhile p, ((text.dropWhile p).reverse.takeWhile p).reverse, ?_, ?_, ?_⟩
  · rw [trimBy, List.append_assoc, hrest, hfront]
  · intro c hc
    exact List.mem_takeWhile_imp hc
  · intro c hc
    rw [List.mem_reverse] at hc
    exact List.mem_takeWhile_imp hc

/-- What is left starts with another character. -/
theorem head_trimBy {p : Char → Bool} {text rest : List Char} {c : Char} (h : trimBy p text = c :: rest) : p c = false := by
  have hprefix : trimBy p text <+: text.dropWhile p := by
    rw [trimBy, ← List.reverse_suffix, List.reverse_reverse]
    exact List.dropWhile_suffix p
  rw [h] at hprefix
  obtain ⟨more, hmore⟩ := hprefix
  have hnot := List.head?_dropWhile_not p text
  rw [← hmore] at hnot
  exact hnot

end Text
