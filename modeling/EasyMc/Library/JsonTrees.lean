import EasyMc.Library.JsMap
import EasyMc.Library.Json

/-!
# Walks over trees of JSON values

`tree_induction` is the induction over a value with one case for arrays and one for objects.  A part of a value is the
value itself or a part of an entry or of a member (`Within`), and what holds of every part (`Everywhere`) is proved by
it.  `AlikeBut hidden` relates two values that differ at most in what stands under the keys of `hidden`.

`rewrite` applies a function to the strings of a value, but puts given strings under some of the keys.  What holds of all
the strings it writes holds of those of the result (`str_within_rewrite`).

An object that is put together from entries keeps the last value of a key at the place of its first one
(`fromEntries`); `spread` is an object literal that starts with another object.
-/

namespace Json

/-! ### Induction -/

@[elab_as_elim]
theorem tree_induction {P : Json → Prop} (null : P .null) (bool : ∀ value, P (.bool value))
    (num : ∀ text, P (.num text)) (str : ∀ text, P (.str text))
    (arr : ∀ values, (∀ value ∈ values, P value) → P (.arr values))
    (obj : ∀ fields, (∀ field ∈ fields, P field.2) → P (.obj fields)) (value : Json) : P value := by
  refine @Json.rec P (fun values => ∀ value ∈ values, P value) (fun fields => ∀ field ∈ fields, P field.2)
    (fun field => P field.2) null bool num str arr obj ?_ ?_ ?_ ?_ ?_ value
  · simp
  · intro value values hvalue hvalues
    exact List.forall_mem_cons.2 ⟨hvalue, hvalues⟩
  · simp
  · intro field fields hfield hfields
    exact List.forall_mem_cons.2 ⟨hfield, hfields⟩
  · exact fun _ _ hvalue => hvalue

/-! ### Parts -/

/-- The first value stands somewhere within the second one. -/
inductive Within (part : Json) : Json → Prop
  | self : Within part part
  | entry {values : List Json} {value : Json} : value ∈ values → Within part value → Within part (.arr values)
  | field {fields : List (String × Json)} {field : String × Json} :
      field ∈ fields → Within part field.2 → Within part (.obj fields)

/-- Every part of the value meets `P`. -/
def Everywhere (P : Json → Prop) (value : Json) : Prop := ∀ part, Within part value → P part

variable {P : Json → Prop}

theorem Everywhere.self {value : Json} (h : Everywhere P value) : P value := h value .self

theorem everywhere_arr {values : List Json} :
    Everywhere P (.arr values) ↔ P (.arr values) ∧ ∀ value ∈ values, Everywhere P value := by
  constructor
  · intro h
    exact ⟨h.self, fun value hvalue part hpart => h part (.entry hvalue hpart)⟩
  · rintro ⟨hself, hvalues⟩ part hpart
    cases hpart with
    | self => exact hself
    | entry hvalue hpart => exact hvalues _ hvalue _ hpart

theorem everywhere_obj {fields : List (String × Json)} :
    Everywhere P (.obj fields) ↔ P (.obj fields) ∧ ∀ field ∈ fields, Everywhere P field.2 := by
  constructor
  · intro h
    exact ⟨h.self, fun field hfield part hpart => h part (.field hfield hpart)⟩
  · rintro ⟨hself, hfields⟩ part hpart
    cases hpart with
    | self => exact hself
    | field hfield hpart => exact hfields _ hfield _ hpart

@[simp] theorem everywhere_null : Everywhere P .null ↔ P .null :=
  ⟨Everywhere.self, fun h part hpart => by cases hpart; exact h⟩

@[simp] theorem everywhere_bool {value : Bool} : Everywhere P (.bool value) ↔ P (.bool value) :=
  ⟨Everywhere.self, fun h part hpart => by cases hpart; exact h⟩

@[simp] theorem everywhere_num {text : String} : Everywhere P (.num text) ↔ P (.num text) :=
  ⟨Everywhere.self, fun h part hpart => by cases hpart; exact h⟩

@[simp] theorem everywhere_str {text : String} : Everywhere P (.str text) ↔ P (.str text) :=
  ⟨Everywhere.self, fun h part hpart => by cases hpart; exact h⟩

/-! ### Values that are alike but for what is hidden -/

/-- The two values differ at most in what is not `null` under the keys of `hidden`, at any depth. -/
inductive AlikeBut (hidden : String → Bool) : Json → Json → Prop
  | null : AlikeBut hidden .null .null
  | bool (value : Bool) : AlikeBut hidden (.bool value) (.bool value)
  | num (text : String) : AlikeBut hidden (.num text) (.num text)
  | str (text : String) : AlikeBut hidden (.str text) (.str text)
  | noEntries : AlikeBut hidden (.arr []) (.arr [])
  | entry {value value' : Json} {values values' : List Json} :
      AlikeBut hidden value value' → AlikeBut hidden (.arr values) (.arr values') →
      AlikeBut hidden (.arr (value :: values)) (.arr (value' :: values'))
  | noFields : AlikeBut hidden (.obj []) (.obj [])
  | field (key : String) {value value' : Json} {fields fields' : List (String × Json)} :
      AlikeBut hidden value value' → AlikeBut hidden (.obj fields) (.obj fields') →
      AlikeBut hidden (.obj ((key, value) :: fields)) (.obj ((key, value') :: fields'))
  | hiddenField {key : String} {value value' : Json} {fields fields' : List (String × Json)} :
      hidden key = true → value ≠ .null → value' ≠ .null → AlikeBut hidden (.obj fields) (.obj fields') →
      AlikeBut hidden (.obj ((key, value) :: fields)) (.obj ((key, value') :: fields'))

/-! ### Rewriting the strings -/

mutual

/-- The value with `text` applied to its strings, and the string `shown key` under a key that has one. -/
def rewrite (shown : String → Option String) (text : String → String) : Json → Json
  | .str value => .str (text value)
  | .arr values => .arr (rewriteValues shown text values)
  | .obj fields => .obj (rewriteFields shown text fields)
  | .null => .null
  | .bool value => .bool value
  | .num value => .num value

def rewriteValues (shown : String → Option String) (text : String → String) : List Json → List Json
  | [] => []
  | value :: values => rewrite shown text value :: rewriteValues shown text values

def rewriteFields (shown : String → Option String) (text : String → String) :
    List (String × Json) → List (String × Json)
  | [] => []
  | (key, value) :: fields =>
    (key, ((shown key).map .str).getD (rewrite shown text value)) :: rewriteFields shown text fields

end

section Rewrite

variable {shown : String → Option String} {text : String → String}

theorem exists_of_mem_rewriteValues {values : List Json} {value' : Json} (h : value' ∈ rewriteValues shown text values) :
    ∃ value ∈ values, value' = rewrite shown text value := by
  induction values with
  | nil => cases h
  | cons value values ih =>
    rw [rewriteValues, List.mem_cons] at h
    rcases h with rfl | h
    · exact ⟨value, List.mem_cons_self, rfl⟩
    · obtain ⟨value, hvalue, heq⟩ := ih h
      exact ⟨value, List.mem_cons_of_mem _ hvalue, heq⟩

theorem exists_of_mem_rewriteFields {fields : List (String × Json)} {field' : String × Json}
    (h : field' ∈ rewriteFields shown text fields) :
    ∃ field ∈ fields, field' = (field.1, ((shown field.1).map .str).getD (rewrite shown text field.2)) := by
  induction fields with
  | nil => cases h
  | cons field fields ih =>
    rw [rewriteFields, List.mem_cons] at h
    rcases h with rfl | h
    · exact ⟨field, List.mem_cons_self, rfl⟩
    · obtain ⟨field, hfield, heq⟩ := ih h
      exact ⟨field, List.mem_cons_of_mem _ hfield, heq⟩

/-- Every string of a rewritten value has been written by `text` or for a key. -/
theorem str_within_rewrite {P : String → Prop} (htext : ∀ value, P (text value))
    (hshown : ∀ key value, shown key = some value → P value) (value : Json) :
    Everywhere (fun part => ∀ value, part = .str value → P value) (rewrite shown text value) := by
  induction value using tree_induction with
  | null => simp [rewrite]
  | bool value => simp [rewrite]
  | num value => simp [rewrite]
  | str value => simpa [rewrite] using htext value
  | arr values ih =>
    rw [rewrite, everywhere_arr]
    refine ⟨by simp, fun value' hvalue' => ?_⟩
    obtain ⟨value, hvalue, rfl⟩ := exists_of_mem_rewriteValues hvalue'
    exact ih value hvalue
  | obj fields ih =>
    rw [rewrite, everywhere_obj]
    refine ⟨by simp, fun field' hfield' => ?_⟩
    obtain ⟨field, hfield, rfl⟩ := exists_of_mem_rewriteFields hfield'
    dsimp only
    cases hkey : shown field.1 with
    | none => exact ih field hfield
    | some value => simpa using hshown field.1 value hkey

end Rewrite

/-! ### Objects from entries -/

/-- `Object.fromEntries(entries)`. -/
def fromEntries (entries : List (String × Json)) : List (String × Json) := (JsMap.ofEntries entries).entries

/-- `{ ...value, key: member, ... }`. -/
def spread (value : Json) (changes : List (String × Json)) : Json := .obj (fromEntries (value.fields ++ changes))

theorem nodup_fromEntries (entries : List (String × Json)) : ((fromEntries entries).map Prod.fst).Nodup :=
  (JsMap.ofEntries entries).nodupKeys

theorem mem_of_mem_fromEntries {entries : List (String × Json)} {entry : String × Json}
    (h : entry ∈ fromEntries entries) : entry ∈ entries := by
  have hget := JsMap.mem_entries_iff.1 h
  exact JsMap.get_ofEntries_of_forall (P := fun key value => (key, value) ∈ entries) (fun _ he => he) hget

/-- Entries whose keys are distinct are the fields of the object. -/
theorem fromEntries_of_nodup {entries : List (String × Json)} (h : (entries.map Prod.fst).Nodup) :
    fromEntries entries = entries :=
  JsMap.entries_ofEntries h

/-- A member that is not changed. -/
theorem member_spread {value : Json} {changes : List (String × Json)} (hvalue : (value.fields.map Prod.fst).Nodup)
    {key : String} (h : key ∉ changes.map Prod.fst) : (value.spread changes).member key = value.member key := by
  have hkept : (JsMap.ofEntries changes).get key = none := by
    by_contra hget
    exact h (JsMap.has_ofEntries.1 (Option.isSome_iff_ne_none.2 hget))
  have hfields : (JsMap.ofEntries value.fields).get key = value.fields.lookup key := by
    rw [← JsMap.lookup_entries, JsMap.entries_ofEntries hvalue]
  change (JsMap.ofEntries (value.fields ++ changes)).entries.lookup key = value.fields.lookup key
  rw [JsMap.lookup_entries, JsMap.get_ofEntries_append, hkept, hfields, Option.none_or]

end Json
