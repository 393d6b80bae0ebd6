import Mathlib.Data.List.Basic
import Mathlib.Tactic.SplitIfs

/-!
# Files of properties

How a reader of `.properties` files goes through a text of UTF-16 code units.  Natural lines end at the line ends; a backslash
at the end of a natural line joins it with the next one to a logical line; blank lines and comments are no logical lines.  The
key of a logical line ends at the first blank, `=` or `:` that no backslash precedes, and the escapes of the key and of the
value are replaced.  The reader throws at `\u` without four digits.

A value without backslashes that does not begin with a blank is read as it has been written (`load_store`).  Any other value
gets shorter (`unescape_eq_self_iff`), and one that ends with a backslash takes the next line in (`load_continued`).
-/

namespace Properties

/-! ### Code units -/

/-- The UTF-16 code units of a character. -/
def unitsOf (c : Char) : List Nat :=
  if c.toNat < 0x10000 then [c.toNat]
  else [0xD800 + (c.toNat - 0x10000) / 0x400, 0xDC00 + (c.toNat - 0x10000) % 0x400]

def units (text : List Char) : List Nat := text.flatMap unitsOf

def isBlank (unit : Nat) : Bool := unit == 0x20 || unit == 0x09 || unit == 0x0C

def isLineEnd (unit : Nat) : Bool := unit == 0x0A || unit == 0x0D

/-- `=` and `:`. -/
def isSeparator (unit : Nat) : Bool := unit == 0x3D || unit == 0x3A

/-- `#` and `!`. -/
def isComment (unit : Nat) : Bool := unit == 0x23 || unit == 0x21

def isBackslash (unit : Nat) : Bool := unit == 0x5C

/-! ### Lines -/

/-- The natural lines of a text, of which `current` has been read; a line feed after a return ends no line of its own. -/
def naturalLines (afterReturn : Bool) (current : List Nat) : List Nat → List (List Nat)
  | [] => if current.isEmpty then [] else [current]
  | unit :: text =>
    if afterReturn && unit == 0x0A then naturalLines false current text
    else if isLineEnd unit then current :: naturalLines (unit == 0x0D) [] text
    else naturalLines false (current ++ [unit]) text

/-- The line ends with a backslash that is not escaped itself. -/
def endsEscaped (line : List Nat) : Bool := (line.reverse.takeWhile isBackslash).length % 2 == 1

/-- The line has nothing but blanks, or is a comment. -/
def isIgnored (line : List Nat) : Bool := line.head?.all isComment

/-- The logical lines; `pending` has been joined so far. -/
def logicalLines (pending : List Nat) : List (List Nat) → List (List Nat)
  | [] => if pending.isEmpty then [] else [pending]
  | natural :: rest =>
    let trimmed := natural.dropWhile isBlank
    let line := pending ++ trimmed
    if pending.isEmpty && isIgnored trimmed then logicalLines [] rest
    else if endsEscaped line then
      if rest.isEmpty then [line.dropLast] else logicalLines line.dropLast rest
    else line :: logicalLines [] rest

/-! ### Keys and values -/

/-- The key of a line as it is written, and what stands behind it. -/
def splitKey (escaped : Bool) : List Nat → List Nat × List Nat
  | [] => ([], [])
  | unit :: line =>
    if !escaped && (isSeparator unit || isBlank unit) then ([], unit :: line)
    else
      let (key, rest) := splitKey (!escaped && isBackslash unit) line
      (unit :: key, rest)

/-- The value in what stands behind a key: blanks, and a separator between them, are no part of it. -/
def valueOf (rest : List Nat) : List Nat :=
  match rest.dropWhile isBlank with
  | [] => []
  | unit :: value => if isSeparator unit then value.dropWhile isBlank else unit :: value

def hexDigit (unit : Nat) : Option Nat :=
  if 0x30 ≤ unit ∧ unit ≤ 0x39 then some (unit - 0x30)
  else if 0x61 ≤ unit ∧ unit ≤ 0x66 then some (unit - 0x61 + 10)
  else if 0x41 ≤ unit ∧ unit ≤ 0x46 then some (unit - 0x41 + 10)
  else none

/-- The code unit behind `\u`. -/
def codeUnit (a b c d : Nat) : Option Nat := do
  let a ← hexDigit a
  let b ← hexDigit b
  let c ← hexDigit c
  let d ← hexDigit d
  some (((a * 16 + b) * 16 + c) * 16 + d)

/-- What stands for a unit behind a backslash: `\t`, `\r`, `\n` and `\f`, or the unit itself. -/
def escapeOf (unit : Nat) : Nat :=
  if unit = 0x74 then 0x09 else if unit = 0x72 then 0x0D else if unit = 0x6E then 0x0A else if unit = 0x66 then 0x0C else unit

/-- Replace the escapes, with `none` where the reader throws.  A backslash at the very end belongs to no logical line. -/
def unescape : List Nat → Option (List Nat)
  | [] => some []
  | [unit] => if isBackslash unit then some [] else some [unit]
  | first :: second :: text =>
    if !isBackslash first then (unescape (second :: text)).map (first :: ·)
    else if second = 0x75 then
      match text with
      | a :: b :: c :: d :: rest => do
        let unit ← codeUnit a b c d
        let text ← unescape rest
        some (unit :: text)
      | _ => none
    else (unescape text).map (escapeOf second :: ·)

/-- The key and the value of a logical line. -/
def entry (line : List Nat) : Option (List Nat × List Nat) := do
  let key ← unescape (splitKey false line).1
  let value ← unescape (valueOf (splitKey false line).2)
  some (key, value)

/-- The properties of a text in the order in which they are read. -/
def load (text : List Nat) : Option (List (List Nat × List Nat)) :=
  (logicalLines [] (naturalLines false [] text)).mapM entry

/-- The value of a key; a later one replaces an earlier one. -/
def get (key : List Nat) : List (List Nat × List Nat) → Option (List Nat)
  | [] => none
  | pair :: pairs => (get key pairs).or (if pair.1 = key then some pair.2 else none)

/-! ### Escapes -/

theorem unescape_cons {first : Nat} (h : isBackslash first = false) (text : List Nat) :
    unescape (first :: text) = (unescape text).map (first :: ·) := by
  cases text with
  | nil => simp [unescape, h]
  | cons second text =>
    rw [unescape.eq_def]
    simp [h]

theorem unescape_of_no_backslash {text : List Nat} (h : ∀ unit ∈ text, isBackslash unit = false) :
    unescape text = some text := by
  induction text with
  | nil => rfl
  | cons first text ih =>
    rw [List.forall_mem_cons] at h
    rw [unescape_cons h.1, ih h.2]
    rfl

/-- Every escape is longer than what stands for it. -/
theorem length_unescape {text result : List Nat} (h : unescape text = some result) :
    result.length ≤ text.length ∧ (text.any isBackslash = true → result.length < text.length) := by
  fun_induction unescape text generalizing result with
  | case1 =>
    obtain rfl := Option.some.inj h
    simp
  | case2 unit hbackslash =>
    obtain rfl := Option.some.inj h
    simp
  | case3 unit hbackslash =>
    obtain rfl := Option.some.inj h
    simpa using hbackslash
  | case4 first second text hfirst ih =>
    obtain ⟨rest, hrest, rfl⟩ := Option.map_eq_some_iff.1 h
    obtain ⟨hle, hlt⟩ := ih hrest
    simp only [Bool.not_eq_true'] at hfirst
    simp only [List.length_cons, List.any_cons, hfirst, Bool.false_or] at hle hlt ⊢
    exact ⟨by omega, fun hany => by have := hlt hany; omega⟩
  | case5 first hfirst a b c d rest ih =>
    obtain ⟨unit, -, h⟩ := Option.bind_eq_some_iff.1 h
    obtain ⟨tail, htail, h⟩ := Option.bind_eq_some_iff.1 h
    obtain rfl := Option.some.inj h
    have hle := (ih htail).1
    simp only [List.length_cons]
    exact ⟨by omega, fun _ => by omega⟩
  | case6 first text hfirst hshort => cases h
  | case7 first second text hfirst hsecond ih =>
    obtain ⟨rest, hrest, rfl⟩ := Option.map_eq_some_iff.1 h
    have hle := (ih hrest).1
    simp only [List.length_cons]
    exact ⟨by omega, fun _ => by omega⟩

/-- The text does not begin with a blank. -/
def startsPlain (text : List Nat) : Bool := text.head?.all fun unit => !isBlank unit

theorem dropWhile_isBlank_of_startsPlain {text : List Nat} (h : startsPlain text = true) : text.dropWhile isBlank = text := by
  cases text with
  | nil => rfl
  | cons unit text =>
    have hunit : isBlank unit = false := by simpa [startsPlain] using h
    rw [List.dropWhile_cons_of_neg (by rw [hunit]; exact Bool.false_ne_true)]

theorem length_dropWhile_isBlank_lt {text : List Nat} (h : startsPlain text = false) :
    (text.dropWhile isBlank).length < text.length := by
  cases text with
  | nil => cases h
  | cons unit text =>
    have hunit : isBlank unit = true := by simpa [startsPlain] using h
    rw [List.dropWhile_cons_of_pos hunit, List.length_cons]
    have hle := (List.dropWhile_sublist isBlank (l := text)).length_le
    omega

/-- A value is read as it is written. -/
def Survives (value : List Nat) : Prop := startsPlain value = true ∧ ∀ unit ∈ value, isBackslash unit = false

/-- What is read of a value is the value if and only if it has no backslash and does not begin with a blank. -/
theorem unescape_eq_self_iff (value : List Nat) : unescape (value.dropWhile isBlank) = some value ↔ Survives value := by
  constructor
  · intro h
    obtain ⟨hle, hlt⟩ := length_unescape h
    have hplain : startsPlain value = true := by
      by_contra hnot
      have hshort := length_dropWhile_isBlank_lt (Bool.eq_false_iff.2 hnot)
      omega
    rw [dropWhile_isBlank_of_startsPlain hplain] at hlt
    refine ⟨hplain, fun unit hunit => ?_⟩
    by_contra hbackslash
    have hany : value.any isBackslash = true := List.any_eq_true.2 ⟨unit, hunit, by simpa using hbackslash⟩
    have hshort := hlt hany
    omega
  · intro h
    rw [dropWhile_isBlank_of_startsPlain h.1, unescape_of_no_backslash h.2]

/-! ### Lines -/

/-- No unit of a key that means anything in a line. -/
def isPlain (unit : Nat) : Bool :=
  !isBlank unit && !isLineEnd unit && !isSeparator unit && !isComment unit && !isBackslash unit

def isPlainKey (key : List Nat) : Bool := !key.isEmpty && key.all isPlain

/-- The line of a property, without its line end. -/
def lineOf (key value : List Nat) : List Nat := key ++ 0x3D :: value

def noLineEnd (text : List Nat) : Bool := !text.any isLineEnd

section

variable {key value : List Nat}

theorem isPlain_of_mem (hkey : isPlainKey key = true) {unit : Nat} (hunit : unit ∈ key) : isPlain unit = true := by
  rw [isPlainKey, Bool.and_eq_true, List.all_eq_true] at hkey
  exact hkey.2 unit hunit

theorem isPlain_iff {unit : Nat} : isPlain unit = true ↔ isBlank unit = false ∧ isLineEnd unit = false ∧
    isSeparator unit = false ∧ isComment unit = false ∧ isBackslash unit = false := by
  simp only [isPlain, Bool.and_eq_true, Bool.not_eq_true', and_assoc]

theorem naturalLines_append {line : List Nat} (hline : noLineEnd line = true) (current rest : List Nat) :
    naturalLines false current (line ++ 0x0A :: rest) = (current ++ line) :: naturalLines false [] rest := by
  induction line generalizing current with
  | nil => simp [naturalLines, isLineEnd]
  | cons unit line ih =>
    simp only [noLineEnd, List.any_cons, Bool.not_or, Bool.and_eq_true, Bool.not_eq_true'] at hline ih
    rw [List.cons_append, naturalLines, Bool.false_and, if_neg Bool.false_ne_true, hline.1, if_neg Bool.false_ne_true,
      ih hline.2, List.append_assoc]
    rfl

/-- A line begins with its key. -/
theorem dropWhile_isBlank_lineOf (hkey : isPlainKey key = true) : (lineOf key value).dropWhile isBlank = lineOf key value := by
  cases key with
  | nil => cases hkey
  | cons unit key =>
    have hunit := isPlain_iff.1 (isPlain_of_mem hkey List.mem_cons_self)
    apply dropWhile_isBlank_of_startsPlain
    simp [lineOf, startsPlain, hunit.1]

theorem isIgnored_lineOf (hkey : isPlainKey key = true) : isIgnored (lineOf key value) = false := by
  cases key with
  | nil => cases hkey
  | cons unit key =>
    have hunit := isPlain_iff.1 (isPlain_of_mem hkey List.mem_cons_self)
    simp [lineOf, isIgnored, hunit.2.2.2.1]

/-- What stands before a unit that is no backslash does not matter for the end of a line. -/
theorem endsEscaped_append (before : List Nat) {unit : Nat} (hunit : isBackslash unit = false) (text : List Nat) :
    endsEscaped (before ++ unit :: text) = endsEscaped text := by
  have htake : ∀ reversed : List Nat, (reversed ++ unit :: before.reverse).takeWhile isBackslash =
      reversed.takeWhile isBackslash := by
    intro reversed
    induction reversed with
    | nil => simp [hunit]
    | cons first reversed ih =>
      rw [List.cons_append]
      by_cases hfirst : isBackslash first = true
      · rw [List.takeWhile_cons_of_pos hfirst, List.takeWhile_cons_of_pos hfirst, ih]
      · rw [List.takeWhile_cons_of_neg hfirst, List.takeWhile_cons_of_neg hfirst]
  rw [endsEscaped, endsEscaped, List.reverse_append, List.reverse_cons, List.append_assoc, List.singleton_append, htake]

theorem endsEscaped_lineOf : endsEscaped (lineOf key value) = endsEscaped value :=
  endsEscaped_append key (by decide) value

theorem endsEscaped_of_no_backslash (h : ∀ unit ∈ value, isBackslash unit = false) : endsEscaped value = false := by
  have htake : value.reverse.takeWhile isBackslash = [] := by
    cases hreverse : value.reverse with
    | nil => rfl
    | cons unit reversed =>
      have hmem : unit ∈ value := List.mem_reverse.1 (hreverse ▸ List.mem_cons_self)
      rw [List.takeWhile_cons_of_neg (by rw [h unit hmem]; exact Bool.false_ne_true)]
  rw [endsEscaped, htake]
  rfl

theorem ne_nil_of_endsEscaped (h : endsEscaped value = true) : value ≠ [] := by
  rintro rfl
  cases h

/-- A value that ends with a backslash has one. -/
theorem not_survives_of_endsEscaped (h : endsEscaped value = true) : ¬ Survives value := by
  intro hsurvives
  rw [endsEscaped_of_no_backslash hsurvives.2] at h
  cases h

theorem splitKey_lineOf (hkey : ∀ unit ∈ key, isPlain unit = true) :
    splitKey false (lineOf key value) = (key, 0x3D :: value) := by
  induction key with
  | nil => rfl
  | cons unit key ih =>
    rw [List.forall_mem_cons, isPlain_iff] at hkey
    obtain ⟨⟨hblank, -, hseparator, -, hbackslash⟩, hrest⟩ := hkey
    have hcons : lineOf (unit :: key) value = unit :: lineOf key value := rfl
    rw [hcons, splitKey, hblank, hseparator, hbackslash]
    show (unit :: (splitKey false (lineOf key value)).1, (splitKey false (lineOf key value)).2) = _
    rw [ih hrest]

theorem entry_lineOf (hkey : isPlainKey key = true) :
    entry (lineOf key value) = (unescape (value.dropWhile isBlank)).map (key, ·) := by
  have hplain : ∀ unit ∈ key, isPlain unit = true := fun unit hunit => isPlain_of_mem hkey hunit
  have hunescape : unescape key = some key :=
    unescape_of_no_backslash fun unit hunit => (isPlain_iff.1 (hplain unit hunit)).2.2.2.2
  have hvalue : valueOf (0x3D :: value) = value.dropWhile isBlank := rfl
  rw [entry, splitKey_lineOf hplain, hunescape, hvalue]
  cases unescape (value.dropWhile isBlank) with
  | none => rfl
  | some result => rfl

theorem noLineEnd_lineOf (hkey : isPlainKey key = true) (hvalue : noLineEnd value = true) : noLineEnd (lineOf key value) = true := by
  have hnone : key.any isLineEnd = false := by
    rw [List.any_eq_false]
    intro unit hunit
    rw [(isPlain_iff.1 (isPlain_of_mem hkey hunit)).2.1]
    exact Bool.false_ne_true
  simp only [noLineEnd, Bool.not_eq_true', lineOf, List.any_append, List.any_cons, hnone] at hvalue ⊢
  simpa [isLineEnd] using hvalue

/-! ### Properties -/

/-- A property whose line is its own is read as it is. -/
theorem load_line (hkey : isPlainKey key = true) (hvalue : noLineEnd value = true) (hends : endsEscaped value = false)
    (rest : List Nat) :
    load (lineOf key value ++ 0x0A :: rest) = (do
      let value ← unescape (value.dropWhile isBlank)
      let pairs ← load rest
      some ((key, value) :: pairs)) := by
  have hlogical : logicalLines [] (lineOf key value :: naturalLines false [] rest) =
      lineOf key value :: logicalLines [] (naturalLines false [] rest) := by
    rw [logicalLines]
    simp [dropWhile_isBlank_lineOf hkey, isIgnored_lineOf hkey, endsEscaped_lineOf, hends]
  rw [load, naturalLines_append (noLineEnd_lineOf hkey hvalue), List.nil_append, hlogical, List.mapM_cons, entry_lineOf hkey]
  cases unescape (value.dropWhile isBlank) with
  | none => rfl
  | some result => rfl

/-- A value that ends with a backslash takes the next line in, and its property is lost. -/
theorem load_continued (hkey : isPlainKey key = true) (hvalue : noLineEnd value = true) (hends : endsEscaped value = true)
    {key' value' : List Nat} (hkey' : isPlainKey key' = true) (hvalue' : noLineEnd value' = true)
    (hends' : endsEscaped value' = false) (rest : List Nat) :
    load (lineOf key value ++ 0x0A :: (lineOf key' value' ++ 0x0A :: rest)) = (do
      let value ← unescape ((value.dropLast ++ lineOf key' value').dropWhile isBlank)
      let pairs ← load rest
      some ((key, value) :: pairs)) := by
  have hne : value ≠ [] := ne_nil_of_endsEscaped hends
  have hlast : (lineOf key value).dropLast = lineOf key value.dropLast := by
    rw [lineOf, List.dropLast_append_of_ne_nil (List.cons_ne_nil _ _), List.dropLast_cons_of_ne_nil hne]
    rfl
  have hjoined : lineOf key value.dropLast ++ lineOf key' value' = lineOf key (value.dropLast ++ lineOf key' value') := by
    simp [lineOf]
  have hpending : (lineOf key value.dropLast).isEmpty = false := by
    simp [lineOf]
  have hescaped : endsEscaped (lineOf key (value.dropLast ++ lineOf key' value')) = false := by
    rw [endsEscaped_lineOf, lineOf, ← List.append_assoc, endsEscaped_append _ (by decide), hends']
  have hlogical : logicalLines [] (lineOf key value :: lineOf key' value' :: naturalLines false [] rest) =
      lineOf key (value.dropLast ++ lineOf key' value') :: logicalLines [] (naturalLines false [] rest) := by
    have hsecond : logicalLines (lineOf key value.dropLast) (lineOf key' value' :: naturalLines false [] rest) =
        lineOf key (value.dropLast ++ lineOf key' value') :: logicalLines [] (naturalLines false [] rest) := by
      rw [logicalLines]
      simp [dropWhile_isBlank_lineOf hkey', hpending, hjoined, hescaped]
    rw [logicalLines]
    simp [dropWhile_isBlank_lineOf hkey, isIgnored_lineOf hkey, endsEscaped_lineOf, hends, hlast, hsecond]
  rw [load, naturalLines_append (noLineEnd_lineOf hkey hvalue), List.nil_append,
    naturalLines_append (noLineEnd_lineOf hkey' hvalue'), List.nil_append, hlogical, List.mapM_cons, entry_lineOf hkey]
  cases unescape ((value.dropLast ++ lineOf key' value').dropWhile isBlank) with
  | none => rfl
  | some result => rfl

end

/-- The text of some properties, one a line. -/
def store (pairs : List (List Nat × List Nat)) : List Nat := pairs.flatMap fun pair => lineOf pair.1 pair.2 ++ [0x0A]

/-- A property that is read as it is written. -/
def IsPlainPair (pair : List Nat × List Nat) : Prop :=
  isPlainKey pair.1 = true ∧ noLineEnd pair.2 = true ∧ Survives pair.2

/-- Properties that are read as they are written. -/
theorem load_store {pairs : List (List Nat × List Nat)} (h : ∀ pair ∈ pairs, IsPlainPair pair) (rest : List Nat) :
    load (store pairs ++ rest) = (load rest).map (pairs ++ ·) := by
  induction pairs with
  | nil => simp [store]
  | cons pair pairs ih =>
    rw [List.forall_mem_cons] at h
    obtain ⟨⟨hkey, hvalue, hsurvives⟩, hrest⟩ := h
    have htext : store (pair :: pairs) ++ rest = lineOf pair.1 pair.2 ++ 0x0A :: (store pairs ++ rest) := by
      simp [store]
    rw [htext, load_line hkey hvalue (endsEscaped_of_no_backslash hsurvives.2), (unescape_eq_self_iff pair.2).2 hsurvives,
      ih hrest]
    cases load rest with
    | none => rfl
    | some loaded => rfl

/-! ### Values of keys -/

theorem get_append (key : List Nat) (pairs pairs' : List (List Nat × List Nat)) :
    get key (pairs ++ pairs') = (get key pairs').or (get key pairs) := by
  induction pairs with
  | nil => simp [get]
  | cons pair pairs ih => rw [List.cons_append, get, ih, get, Option.or_assoc]

theorem get_eq_none_iff {key : List Nat} {pairs : List (List Nat × List Nat)} :
    get key pairs = none ↔ ∀ pair ∈ pairs, pair.1 ≠ key := by
  induction pairs with
  | nil => simp [get]
  | cons pair pairs ih =>
    rw [get, Option.or_eq_none_iff, ih, List.forall_mem_cons, and_comm]
    refine and_congr ?_ Iff.rfl
    split_ifs with hkey
    · simp [hkey]
    · simp [hkey]

/-! ### Texts -/

theorem units_append (text text' : List Char) : units (text ++ text') = units text ++ units text' := List.flatMap_append

/-- A character below U+D800 stands for itself, and for nothing else. -/
theorem mem_units_iff {c : Char} (hc : c.toNat < 0xD800) {text : List Char} : c.toNat ∈ units text ↔ c ∈ text := by
  rw [units, List.mem_flatMap]
  constructor
  · rintro ⟨d, hd, hunit⟩
    unfold unitsOf at hunit
    split_ifs at hunit with hsmall
    · rw [List.mem_singleton] at hunit
      have hcd : c = d := Char.toNat_inj.1 hunit
      exact hcd ▸ hd
    · simp only [List.mem_cons, List.not_mem_nil, or_false] at hunit
      omega
  · intro hmem
    refine ⟨c, hmem, ?_⟩
    rw [unitsOf, if_pos (by omega)]
    exact List.mem_singleton.2 rfl

end Properties
