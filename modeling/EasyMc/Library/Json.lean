import Mathlib.Data.List.Basic

/-!
# JSON values

A JSON value as JavaScript sees it after `JSON.parse`: a number is given by its text, an object by its fields in
order.  `member` reads a field, with `none` for JavaScript's `undefined`, on any value.

`redact` walks a value and drops or rewrites what a redactor asks for: `drop` says which fields go, by their key and
by the depth of their value, and `text` rewrites a string, by the same.  The depth of an array's entries is that of
the array plus `step`.
-/

inductive Json
  | null
  | bool (value : Bool)
  | num (text : String)
  | str (text : String)
  | arr (values : List Json)
  | obj (fields : List (String × Json))

namespace Json

/-- The fields of an object; no other value has any. -/
def fields : Json → List (String × Json)
  | .obj fields => fields
  | _ => []

/-- `value?.key`. -/
def member (key : String) (value : Json) : Option Json := value.fields.lookup key

/-- `value?.key1?.key2...`, with `none` for `undefined`. -/
def path (value : Json) : List String → Option Json
  | [] => some value
  | key :: keys => (value.member key).bind fun value => value.path keys

/-- Whether JavaScript counts the value as true. -/
def truthy : Json → Bool
  | .null => false
  | .bool value => value
  | .num text => text != "0"
  | .str text => text != ""
  | .arr _ => true
  | .obj _ => true

/-- `value ?? undefined`: a missing value and `null` are both `none`. -/
def present : Option Json → Option Json
  | some .null => none
  | value => value

/-- The Boolean value of something that may be missing. -/
def holds (value : Option Json) : Bool := value.any truthy

/-- The entries of an array. -/
def asArr : Json → Option (List Json)
  | .arr values => some values
  | _ => none

/-- The text of a string. -/
def asStr : Json → Option String
  | .str text => some text
  | _ => none

/-- The text of a number. -/
def asNum : Json → Option String
  | .num text => some text
  | _ => none

@[simp] theorem asArr_eq_some {value : Json} {values : List Json} :
    value.asArr = some values ↔ value = .arr values := by
  cases value <;> simp [asArr]

@[simp] theorem asStr_eq_some {value : Json} {text : String} : value.asStr = some text ↔ value = .str text := by
  cases value <;> simp [asStr]

/-- Only an object has members. -/
theorem exists_fields_of_member {key : String} {value found : Json} (h : value.member key = some found) :
    ∃ fields, value = .obj fields := by
  cases value with
  | obj fields => exact ⟨fields, rfl⟩
  | null => cases h
  | bool => cases h
  | num => cases h
  | str => cases h
  | arr => cases h

/-- The value is `true`. -/
def isTrue : Json → Bool
  | .bool value => value
  | _ => false

/-- A string that may be `undefined`. -/
def ofStr (text : Option String) : Option Json := text.map .str

/-- An integer that may be `undefined`. -/
def ofInt (value : Option Int) : Option Json := value.map fun value => .num (toString value)

/-- An object literal; a field that is `undefined` is left out. -/
def ofFields : List (String × Option Json) → List (String × Json)
  | [] => []
  | (_, none) :: fields => ofFields fields
  | (key, some value) :: fields => (key, value) :: ofFields fields

def object (fields : List (String × Option Json)) : Json := .obj (ofFields fields)

private theorem lookup_ofFields_absent {key : String} {fields : List (String × Option Json)}
    (h : key ∉ fields.map Prod.fst) : (ofFields fields).lookup key = none := by
  induction fields with
  | nil => rfl
  | cons field fields ih =>
    obtain ⟨key', value⟩ := field
    rw [List.map_cons, List.mem_cons, not_or] at h
    cases value with
    | none => exact ih h.2
    | some value =>
      have hbeq : (key == key') = false := by simpa using h.1
      rw [ofFields, List.lookup_cons, hbeq, ih h.2]

/-- A member of an object literal whose keys are distinct. -/
theorem member_object {fields : List (String × Option Json)} (hkeys : (fields.map Prod.fst).Nodup) (key : String) :
    (object fields).member key = (fields.lookup key).join := by
  change (ofFields fields).lookup key = _
  induction fields with
  | nil => rfl
  | cons field fields ih =>
    obtain ⟨key', value⟩ := field
    rw [List.map_cons, List.nodup_cons] at hkeys
    by_cases hkey : key = key'
    · subst hkey
      rw [List.lookup_cons_self]
      cases value with
      | none =>
        rw [ofFields, lookup_ofFields_absent hkeys.1]
        rfl
      | some value => rw [ofFields, List.lookup_cons_self, Option.join_some]
    · have hbeq : (key == key') = false := by simpa using hkey
      rw [List.lookup_cons, hbeq]
      cases value with
      | none =>
        rw [ofFields]
        exact ih hkeys.2
      | some value =>
        rw [ofFields, List.lookup_cons, hbeq]
        exact ih hkeys.2

/-! ### Redaction -/

/-- What a redactor drops and how it rewrites strings. -/
structure Redactor where
  drop : String → Nat → Bool
  text : String → Nat → String → String
  step : Nat

mutual

/-- The redacted form of a value that stands under `key` at `depth`. -/
def redact (r : Redactor) (key : String) (depth : Nat) : Json → Json
  | .str text => .str (r.text key depth text)
  | .arr values => .arr (redactValues r (depth + r.step) values)
  | .obj fields => .obj (redactFields r (depth + 1) fields)
  | .null => .null
  | .bool value => .bool value
  | .num text => .num text

def redactValues (r : Redactor) (depth : Nat) : List Json → List Json
  | [] => []
  | value :: values => redact r "" depth value :: redactValues r depth values

def redactFields (r : Redactor) (depth : Nat) : List (String × Json) → List (String × Json)
  | [] => []
  | (key, value) :: fields =>
    if r.drop key depth then redactFields r depth fields
    else (key, redact r key depth value) :: redactFields r depth fields

end

/-- A field of a redacted object is dropped, or the redacted field. -/
theorem lookup_redactFields (r : Redactor) (depth : Nat) (key : String) (fields : List (String × Json)) :
    (redactFields r depth fields).lookup key =
      if r.drop key depth then none else (fields.lookup key).map (redact r key depth) := by
  induction fields with
  | nil => simp [redactFields]
  | cons field fields ih =>
    obtain ⟨key', value⟩ := field
    by_cases hkey : key = key'
    · subst hkey
      by_cases hdrop : r.drop key depth = true
      · rw [redactFields, if_pos hdrop, ih, if_pos hdrop, if_pos hdrop]
      · rw [redactFields, if_neg hdrop, if_neg hdrop, List.lookup_cons_self, List.lookup_cons_self, Option.map_some]
    · have hbeq : (key == key') = false := by simpa using hkey
      by_cases hdrop : r.drop key' depth = true
      · rw [redactFields, if_pos hdrop, ih, List.lookup_cons, hbeq]
      · rw [redactFields, if_neg hdrop, List.lookup_cons, hbeq, ih, List.lookup_cons, hbeq]

/-- A member of a redacted value is dropped, or the redacted member. -/
theorem member_redact (r : Redactor) (key key' : String) (depth : Nat) (value : Json) :
    (redact r key depth value).member key' =
      if r.drop key' (depth + 1) then none else (value.member key').map (redact r key' (depth + 1)) := by
  cases value with
  | obj fields =>
    rw [redact]
    exact lookup_redactFields r (depth + 1) key' fields
  | null => simp [redact, member, fields]
  | bool value => simp [redact, member, fields]
  | num text => simp [redact, member, fields]
  | str text => simp [redact, member, fields]
  | arr values => simp [redact, member, fields]

/-- A path into a redacted object literal, through a field that is kept. -/
theorem path_redact_object {r : Redactor} {key key' : String} {depth : Nat} {fields : List (String × Option Json)}
    (hkeys : (fields.map Prod.fst).Nodup) (hkept : ¬ r.drop key' (depth + 1) = true) (keys : List String) :
    (redact r key depth (object fields)).path (key' :: keys) =
      (fields.lookup key').join.bind fun value => (redact r key' (depth + 1) value).path keys := by
  rw [path, member_redact, if_neg hkept, member_object hkeys]
  cases (fields.lookup key').join with
  | none => rfl
  | some value => rfl

end Json
