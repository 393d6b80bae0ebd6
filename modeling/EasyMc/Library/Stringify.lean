import Mathlib.Algebra.GroupWithZero.Nat
import Mathlib.Algebra.Order.BigOperators.Group.List
import Mathlib.Algebra.Order.Group.Nat
import Mathlib.Tactic.IntervalCases
import EasyMc.Library.Json
import EasyMc.Library.Text

/-!
# The text of a JSON value

`Json.stringify` is `JSON.stringify` without indentation, and `Json.bytes` counts the UTF-8 bytes of the text.  The
bytes of an array and of an object are sums over their parts: `itemsBytes` counts what stands between the brackets of
an array, and an object in which one field is replaced changes its bytes by those of that field's value
(`bytes_obj_field`).  `Json.pretty` is `JSON.stringify` with indentation.

A quoted text can be read back (`quote_append_inj`).  A part of a string without escaped characters is found in the text
of the whole value (`infix_stringify`).
-/

namespace Json

/-- A character inside a quoted text. -/
def escapeChar (c : Char) : List Char :=
  if c = '"' then ['\\', '"']
  else if c = '\\' then ['\\', '\\']
  else if c.toNat = 8 then ['\\', 'b']
  else if c.toNat = 9 then ['\\', 't']
  else if c.toNat = 10 then ['\\', 'n']
  else if c.toNat = 12 then ['\\', 'f']
  else if c.toNat = 13 then ['\\', 'r']
  else if c.toNat < 32 then
    ['\\', 'u', '0', '0', (Text.hexDigit (c.toNat / 16)).toLower, (Text.hexDigit (c.toNat % 16)).toLower]
  else [c]

/-- The character is written differently inside a quoted text. -/
def isEscaped (c : Char) : Bool := c = '"' || c = '\\' || c.toNat < 32

theorem escapeChar_of_not_escaped {c : Char} (h : isEscaped c = false) : escapeChar c = [c] := by
  simp only [isEscaped, Bool.or_eq_false_iff, decide_eq_false_iff_not] at h
  obtain ⟨⟨hquote, hbackslash⟩, hcontrol⟩ := h
  rw [escapeChar, if_neg hquote, if_neg hbackslash, if_neg (by omega), if_neg (by omega), if_neg (by omega),
    if_neg (by omega), if_neg (by omega), if_neg hcontrol]

def quote (text : String) : List Char := '"' :: (text.toList.flatMap escapeChar ++ ['"'])

mutual

def stringify : Json → List Char
  | .null => "null".toList
  | .bool value => if value then "true".toList else "false".toList
  | .num text => text.toList
  | .str text => quote text
  | .arr values => '[' :: (stringifyValues values ++ [']'])
  | .obj fields => '{' :: (stringifyFields fields ++ ['}'])

/-- The values of an array, with a comma before each but the first. -/
def stringifyValues : List Json → List Char
  | [] => []
  | value :: values => stringify value ++ stringifyNextValues values

def stringifyNextValues : List Json → List Char
  | [] => []
  | value :: values => ',' :: (stringify value ++ stringifyNextValues values)

/-- The fields of an object, with a comma before each but the first. -/
def stringifyFields : List (String × Json) → List Char
  | [] => []
  | (key, value) :: fields => quote key ++ ':' :: (stringify value ++ stringifyNextFields fields)

def stringifyNextFields : List (String × Json) → List Char
  | [] => []
  | (key, value) :: fields => ',' :: (quote key ++ ':' :: (stringify value ++ stringifyNextFields fields))

end

/-! ### With indentation -/

/-- A line break and the indentation of the next line. -/
def newline (indent : Nat) : List Char := '\n' :: List.replicate indent ' '

mutual

/-- The text of a value that stands in a line with the indentation `indent`. -/
def prettyAt (gap indent : Nat) : Json → List Char
  | .null => "null".toList
  | .bool value => if value then "true".toList else "false".toList
  | .num text => text.toList
  | .str text => quote text
  | .arr [] => ['[', ']']
  | .arr (value :: values) =>
    '[' :: (newline (indent + gap) ++ prettyAt gap (indent + gap) value ++
      prettyNextValues gap (indent + gap) values ++ newline indent ++ [']'])
  | .obj [] => ['{', '}']
  | .obj ((key, value) :: fields) =>
    '{' :: (newline (indent + gap) ++ quote key ++ [':', ' '] ++ prettyAt gap (indent + gap) value ++
      prettyNextFields gap (indent + gap) fields ++ newline indent ++ ['}'])

def prettyNextValues (gap indent : Nat) : List Json → List Char
  | [] => []
  | value :: values =>
    ',' :: (newline indent ++ prettyAt gap indent value ++ prettyNextValues gap indent values)

def prettyNextFields (gap indent : Nat) : List (String × Json) → List Char
  | [] => []
  | (key, value) :: fields =>
    ',' :: (newline indent ++ quote key ++ [':', ' '] ++ prettyAt gap indent value ++
      prettyNextFields gap indent fields)

end

/-- `JSON.stringify(value, null, gap)`. -/
def pretty (gap : Nat) (value : Json) : List Char := prettyAt gap 0 value

/-! ### Reading a quoted text -/

def hexValue (c : Char) : Nat := if c.toNat < 58 then c.toNat - 48 else c.toNat - 87

/-- The character that a quoted text begins with, and the rest of the text. -/
def unescape : List Char → Option (Char × List Char)
  | '"' :: _ => none
  | '\\' :: 'b' :: rest => some (Char.ofNat 8, rest)
  | '\\' :: 't' :: rest => some (Char.ofNat 9, rest)
  | '\\' :: 'n' :: rest => some (Char.ofNat 10, rest)
  | '\\' :: 'f' :: rest => some (Char.ofNat 12, rest)
  | '\\' :: 'r' :: rest => some (Char.ofNat 13, rest)
  | '\\' :: 'u' :: '0' :: '0' :: high :: low :: rest =>
    some (Char.ofNat (16 * hexValue high + hexValue low), rest)
  | '\\' :: c :: rest => some (c, rest)
  | c :: rest => some (c, rest)
  | [] => none

/-- A character below the blank is written so that it can be read back. -/
private theorem unescape_control : ∀ n < 32, ∀ rest : List Char,
    unescape (escapeChar (Char.ofNat n) ++ rest) = some (Char.ofNat n, rest) := by
  intro n hn rest
  interval_cases n <;> rfl

theorem unescape_escapeChar (c : Char) (rest : List Char) : unescape (escapeChar c ++ rest) = some (c, rest) := by
  by_cases hcontrol : c.toNat < 32
  · have hread := unescape_control c.toNat hcontrol rest
    rwa [Char.ofNat_toNat] at hread
  · by_cases hquote : c = '"'
    · subst hquote
      rfl
    · by_cases hbackslash : c = '\\'
      · subst hbackslash
        rfl
      · have hescape : escapeChar c = [c] :=
          escapeChar_of_not_escaped (by simp [isEscaped, hquote, hbackslash, hcontrol])
        rw [hescape, List.singleton_append]
        unfold unescape
        split <;> simp_all

private theorem escaped_append_inj {text text' rest rest' : List Char}
    (h : text.flatMap escapeChar ++ '"' :: rest = text'.flatMap escapeChar ++ '"' :: rest') :
    text = text' ∧ rest = rest' := by
  induction text generalizing text' with
  | nil =>
    cases text' with
    | nil => exact ⟨rfl, (List.cons.inj h).2⟩
    | cons d text' =>
      have hread := congrArg unescape h
      rw [List.flatMap_cons, List.append_assoc, unescape_escapeChar] at hread
      cases hread
  | cons c text ih =>
    have hread := congrArg unescape h
    rw [List.flatMap_cons, List.append_assoc, unescape_escapeChar] at hread
    cases text' with
    | nil => cases hread
    | cons d text' =>
      rw [List.flatMap_cons, List.append_assoc, unescape_escapeChar, Option.some.injEq, Prod.mk.injEq] at hread
      obtain ⟨rfl, htail⟩ := hread
      obtain ⟨rfl, hrest⟩ := ih htail
      exact ⟨rfl, hrest⟩

/-- What follows a quoted text tells where the quoted text ends. -/
theorem quote_append_inj {text text' : String} {rest rest' : List Char}
    (h : quote text ++ rest = quote text' ++ rest') : text = text' ∧ rest = rest' := by
  simp only [quote, List.cons_append, List.cons.injEq, true_and, List.append_assoc, List.nil_append] at h
  obtain ⟨htext, hrest⟩ := escaped_append_inj h
  exact ⟨String.toList_inj.1 htext, hrest⟩

/-! ### The strings of a value -/

mutual

/-- The strings in a value, at any depth; keys are not among them. -/
def strings : Json → List String
  | .str text => [text]
  | .arr values => stringsOfValues values
  | .obj fields => stringsOfFields fields
  | .null => []
  | .bool _ => []
  | .num _ => []

def stringsOfValues : List Json → List String
  | [] => []
  | value :: values => strings value ++ stringsOfValues values

def stringsOfFields : List (String × Json) → List String
  | [] => []
  | (_, value) :: fields => strings value ++ stringsOfFields fields

end

theorem flatMap_escapeChar {text : List Char} (h : ∀ c ∈ text, isEscaped c = false) : text.flatMap escapeChar = text := by
  induction text with
  | nil => rfl
  | cons c text ih =>
    rw [List.flatMap_cons, escapeChar_of_not_escaped (h c List.mem_cons_self), List.singleton_append,
      ih fun d hd => h d (List.mem_cons_of_mem _ hd)]

/-- A part of a text without escaped characters is a part of the quoted text. -/
theorem infix_quote {part : List Char} {text : String} (hpart : part <:+: text.toList)
    (hplain : ∀ c ∈ part, isEscaped c = false) : part <:+: quote text := by
  obtain ⟨before, after, htext⟩ := hpart
  refine ⟨'"' :: before.flatMap escapeChar, after.flatMap escapeChar ++ ['"'], ?_⟩
  simp only [quote, ← htext, List.flatMap_append, flatMap_escapeChar hplain, List.cons_append, List.append_assoc]

mutual

/-- Every string of a value stands in its text, quoted. -/
theorem quote_infix_stringify {text : String} : (value : Json) → text ∈ value.strings → quote text <:+: value.stringify
  | .str found, h => by
    rw [strings, List.mem_singleton] at h
    subst h
    exact List.infix_refl (quote text)
  | .arr values, h => by
    have hvalues := quote_infix_values values h
    rw [stringify]
    exact List.infix_cons (List.infix_append_of_infix_left hvalues.1)
  | .obj fields, h => by
    have hfields := quote_infix_fields fields h
    rw [stringify]
    exact List.infix_cons (List.infix_append_of_infix_left hfields.1)
  | .null, h => by cases h
  | .bool _, h => by cases h
  | .num _, h => by cases h

theorem quote_infix_values {text : String} : (values : List Json) → text ∈ stringsOfValues values →
    quote text <:+: stringifyValues values ∧ quote text <:+: stringifyNextValues values
  | [], h => by cases h
  | value :: values, h => by
    rw [stringifyValues, stringifyNextValues]
    have hboth : quote text <:+: stringify value ++ stringifyNextValues values := by
      rcases List.mem_append.1 h with h | h
      · exact List.infix_append_of_infix_left (quote_infix_stringify value h)
      · exact List.infix_append_of_infix_right (quote_infix_values values h).2
    exact ⟨hboth, List.infix_cons hboth⟩

theorem quote_infix_fields {text : String} : (fields : List (String × Json)) → text ∈ stringsOfFields fields →
    quote text <:+: stringifyFields fields ∧ quote text <:+: stringifyNextFields fields
  | [], h => by cases h
  | (key, value) :: fields, h => by
    rw [stringifyFields, stringifyNextFields]
    have hboth : quote text <:+: quote key ++ ':' :: (stringify value ++ stringifyNextFields fields) := by
      refine List.infix_append_of_infix_right (List.infix_cons ?_)
      rcases List.mem_append.1 h with h | h
      · exact List.infix_append_of_infix_left (quote_infix_stringify value h)
      · exact List.infix_append_of_infix_right (quote_infix_fields fields h).2
    exact ⟨hboth, List.infix_cons hboth⟩

end

/-- A part of a string of a value that has no escaped characters is a part of the text of the value. -/
theorem infix_stringify {value : Json} {text : String} {part : List Char} (htext : text ∈ value.strings)
    (hpart : part <:+: text.toList) (hplain : ∀ c ∈ part, isEscaped c = false) : part <:+: value.stringify :=
  (infix_quote hpart hplain).trans (quote_infix_stringify value htext)

/-! ### Bytes -/

/-- The UTF-8 bytes of the text of a value. -/
def bytes (value : Json) : Nat := Text.utf8Length value.stringify

def fieldBytes (field : String × Json) : Nat := Text.utf8Length (quote field.1) + 1 + field.2.bytes

/-- The bytes between the brackets of an array: its values and the commas between them. -/
def itemsBytes (values : List Json) : Nat := (values.map fun value => value.bytes + 1).sum - 1

private theorem utf8Length_cons_ascii {c : Char} (hc : c.toNat < 0x80) (text : List Char) :
    Text.utf8Length (c :: text) = 1 + Text.utf8Length text := by
  rw [Text.utf8Length, Text.utf8Bytes, if_pos hc]

private theorem utf8Length_nextValues (values : List Json) :
    Text.utf8Length (stringifyNextValues values) = (values.map fun value => value.bytes + 1).sum := by
  induction values with
  | nil => rfl
  | cons value values ih =>
    rw [stringifyNextValues, utf8Length_cons_ascii (by decide), Text.utf8Length_append, ih, List.map_cons,
      List.sum_cons, bytes]
    omega

private theorem utf8Length_nextFields (fields : List (String × Json)) :
    Text.utf8Length (stringifyNextFields fields) = (fields.map fun field => fieldBytes field + 1).sum := by
  induction fields with
  | nil => rfl
  | cons field fields ih =>
    obtain ⟨key, value⟩ := field
    rw [stringifyNextFields, utf8Length_cons_ascii (by decide), Text.utf8Length_append,
      utf8Length_cons_ascii (by decide), Text.utf8Length_append, ih, List.map_cons, List.sum_cons]
    simp only [fieldBytes, bytes]
    omega

theorem bytes_arr (values : List Json) : (arr values).bytes = 2 + itemsBytes values := by
  have hitems : Text.utf8Length (stringifyValues values) = itemsBytes values := by
    cases values with
    | nil => rfl
    | cons value values =>
      rw [stringifyValues, Text.utf8Length_append, utf8Length_nextValues, itemsBytes, List.map_cons, List.sum_cons,
        bytes]
      omega
  rw [bytes, stringify, utf8Length_cons_ascii (by decide), Text.utf8Length_append, hitems,
    utf8Length_cons_ascii (by decide), Text.utf8Length]
  omega

theorem bytes_obj (fields : List (String × Json)) :
    (obj fields).bytes = 2 + ((fields.map fun field => fieldBytes field + 1).sum - 1) := by
  have hfields : Text.utf8Length (stringifyFields fields) =
      (fields.map fun field => fieldBytes field + 1).sum - 1 := by
    cases fields with
    | nil => rfl
    | cons field fields =>
      obtain ⟨key, value⟩ := field
      rw [stringifyFields, Text.utf8Length_append, utf8Length_cons_ascii (by decide), Text.utf8Length_append,
        utf8Length_nextFields, List.map_cons, List.sum_cons]
      simp only [fieldBytes, bytes]
      omega
  rw [bytes, stringify, utf8Length_cons_ascii (by decide), Text.utf8Length_append, hfields,
    utf8Length_cons_ascii (by decide), Text.utf8Length]
  omega

/-- Two objects that differ in the value of one field. -/
theorem bytes_obj_field (start rest : List (String × Json)) (key : String) (value value' : Json) :
    (obj (start ++ (key, value) :: rest)).bytes + value'.bytes =
      (obj (start ++ (key, value') :: rest)).bytes + value.bytes := by
  rw [bytes_obj, bytes_obj]
  simp only [List.map_append, List.map_cons, List.sum_append, List.sum_cons, fieldBytes]
  omega

/-- A member of a value takes no more bytes than the value. -/
theorem bytes_member_le {key : String} {value member : Json} (h : value.member key = some member) :
    member.bytes ≤ value.bytes := by
  obtain ⟨fields, rfl⟩ := exists_fields_of_member h
  obtain ⟨start, rest, rfl, -⟩ := List.lookup_eq_some_iff.1 h
  rw [bytes_obj]
  simp only [List.map_append, List.map_cons, List.sum_append, List.sum_cons, fieldBytes]
  omega

/-- A value of an array takes no more bytes than all of them. -/
theorem bytes_le_itemsBytes {value : Json} {values : List Json} (h : value ∈ values) :
    value.bytes ≤ itemsBytes values := by
  obtain ⟨start, rest, rfl⟩ := List.append_of_mem h
  simp only [itemsBytes, List.map_append, List.map_cons, List.sum_append, List.sum_cons]
  omega

theorem itemsBytes_le_append (values values' : List Json) : itemsBytes values ≤ itemsBytes (values ++ values') := by
  simp only [itemsBytes, List.map_append, List.sum_append]
  omega

/-- A text takes at least as many bytes as it has characters. -/
theorem length_le_bytes_str (text : String) : text.toList.length ≤ (str text).bytes := by
  have hescape : ∀ chars : List Char, chars.length ≤ (chars.flatMap escapeChar).length := by
    intro chars
    induction chars with
    | nil => exact Nat.le_refl _
    | cons c chars ih =>
      have hc : 1 ≤ (escapeChar c).length := by
        unfold escapeChar
        split_ifs <;> simp
      rw [List.flatMap_cons, List.length_append, List.length_cons]
      omega
  have hquote := Text.length_le_utf8Length (quote text)
  have htext := hescape text.toList
  rw [quote, List.length_cons, List.length_append, List.length_singleton] at hquote
  rw [bytes, stringify]
  simp only [quote] at hquote ⊢
  omega

/-! ### Redaction of one field -/

theorem redactValues_eq_map (r : Redactor) (depth : Nat) (values : List Json) :
    redactValues r depth values = values.map (redact r "" depth) := by
  induction values with
  | nil => rfl
  | cons value values ih => rw [redactValues, ih, List.map_cons]

theorem redactFields_append (r : Redactor) (depth : Nat) (fields fields' : List (String × Json)) :
    redactFields r depth (fields ++ fields') = redactFields r depth fields ++ redactFields r depth fields' := by
  induction fields with
  | nil => rfl
  | cons field fields ih =>
    obtain ⟨key, value⟩ := field
    by_cases hdrop : r.drop key depth = true
    · rw [List.cons_append, redactFields, if_pos hdrop, ih, redactFields, if_pos hdrop]
    · rw [List.cons_append, redactFields, if_neg hdrop, ih, redactFields, if_neg hdrop, List.cons_append]

theorem redactFields_kept {r : Redactor} {depth : Nat} {key : String} (hkeep : r.drop key depth = false) (value : Json)
    (fields : List (String × Json)) :
    redactFields r depth ((key, value) :: fields) = (key, redact r key depth value) :: redactFields r depth fields := by
  rw [redactFields, if_neg (by simp [hkeep])]

theorem ofFields_append (fields fields' : List (String × Option Json)) :
    ofFields (fields ++ fields') = ofFields fields ++ ofFields fields' := by
  induction fields with
  | nil => rfl
  | cons field fields ih =>
    obtain ⟨key, value⟩ := field
    cases value with
    | none => rw [List.cons_append, ofFields, ofFields, ih]
    | some value => rw [List.cons_append, ofFields, ofFields, ih, List.cons_append]

end Json
