import Mathlib.Data.List.Induction
import EasyMc.Library.Json
import EasyMc.Library.Text
import EasyMc.Library.Throwing

/-!
# JavaScript's operators on JSON values

`undefined` is `none`.  An object or an array is the same as another one only if they are one and the same; two that
are read from different places never are, so `sameValueZero` tells only the other values apart.  `IdSet` and `IdMap`
are the sets and maps whose keys are compared by it.

`assign` is an object literal that starts with the fields of another value.
-/

namespace Json

open Throwing (JsError)

/-- `value ?? other`. -/
def coalesce (value other : Option Json) : Option Json :=
  match present value with
  | some value => some value
  | none => other

def isNull : Json → Bool
  | .null => true
  | _ => false

/-- `value?.key` of something that may be missing. -/
def get (key : String) (value : Option Json) : Option Json := value.bind (member key)

/-- `value === text`. -/
def isStr (text : String) (value : Option Json) : Bool :=
  match value with
  | some (.str text') => text' == text
  | _ => false

/-- `value === number` of a number that is given by its text. -/
def isNum (text : String) (value : Option Json) : Bool :=
  match value with
  | some (.num text') => text' == text
  | _ => false

theorem isStr_iff {text : String} {value : Option Json} : isStr text value = true ↔ value = some (.str text) := by
  cases value with
  | none => simp [isStr]
  | some value => cases value <;> simp [isStr]

theorem isNum_iff {text : String} {value : Option Json} : isNum text value = true ↔ value = some (.num text) := by
  cases value with
  | none => simp [isNum]
  | some value => cases value <;> simp [isNum]

/-- The fields of an object literal that starts with `...value`; the entries of an array and the characters of a text
are left out. -/
def assigned (value : Json) (fields : List (String × Option Json)) : List (String × Json) :=
  ofFields fields ++ value.fields.filter fun field => !(fields.map Prod.fst).contains field.1

/-- An object literal that starts with `...value`. -/
def assign (value : Json) (fields : List (String × Option Json)) : Json := .obj (assigned value fields)

/-! ### Texts -/

/-- Texts with commas between them. -/
def commaSeparated : List String → String
  | [] => ""
  | [text] => text
  | text :: texts => text ++ "," ++ commaSeparated texts

mutual

/-- `String(value)`.  An object whose own `toString` is not a function has no text. -/
def toText : Json → Except JsError String
  | .null => .ok "null"
  | .bool value => .ok (if value then "true" else "false")
  | .num text => .ok text
  | .str text => .ok text
  | .arr values => do
    let texts ← entryTexts values
    .ok (commaSeparated texts)
  | .obj fields => if (fields.lookup "toString").isSome then .error .typeError else .ok "[object Object]"

/-- The texts of the entries of an array, where that of `null` is empty. -/
def entryTexts : List Json → Except JsError (List String)
  | [] => .ok []
  | value :: values =>
    (if value.isNull then .ok "" else toText value) >>= fun text =>
      entryTexts values >>= fun texts => .ok (text :: texts)

end

/-- `String(value)` of something that may be `undefined`. -/
def textOf : Option Json → Except JsError String
  | none => .ok "undefined"
  | some value => value.toText

mutual

/-- The value has a text: no object whose text is asked for has a `toString` of its own. -/
def hasText : Json → Bool
  | .arr values => haveTexts values
  | .obj fields => (fields.lookup "toString").isNone
  | .null => true
  | .bool _ => true
  | .num _ => true
  | .str _ => true

def haveTexts : List Json → Bool
  | [] => true
  | value :: values => hasText value && haveTexts values

end

mutual

theorem returns_toText : (value : Json) → (Throwing.Returns value.toText ↔ value.hasText = true)
  | .null => by simp [toText, hasText]
  | .bool value => by simp [toText, hasText]
  | .num text => by simp [toText, hasText]
  | .str text => by simp [toText, hasText]
  | .arr values => by
    rw [toText, hasText, Throwing.returns_bind_ok]
    exact returns_entryTexts values
  | .obj fields => by
    rw [toText, hasText]
    cases fields.lookup "toString" <;> simp

theorem returns_entryTexts : (values : List Json) → (Throwing.Returns (entryTexts values) ↔ haveTexts values = true)
  | [] => by simp [entryTexts, haveTexts]
  | value :: values => by
    have hvalue := returns_toText value
    have hrest := returns_entryTexts values
    rw [entryTexts, Throwing.returns_bind_bind, haveTexts, Bool.and_eq_true, ← hvalue, ← hrest]
    cases value with
    | null => simp [toText, isNull]
    | bool => rfl
    | num => rfl
    | str => rfl
    | arr => rfl
    | obj => rfl

end

theorem returns_textOf {value : Option Json} : Throwing.Returns (textOf value) ↔ value.all hasText = true := by
  cases value with
  | none => simp [textOf]
  | some value => simp [textOf, returns_toText]

private theorem mem_commaSeparated {texts : List String} {text : String} {c : Char} (htext : text ∈ texts)
    (hc : c ∈ text.toList) : c ∈ (commaSeparated texts).toList := by
  induction texts with
  | nil => cases htext
  | cons first texts ih =>
    rcases List.mem_cons.1 htext with rfl | htext
    · cases texts with
      | nil => exact hc
      | cons second texts => simp [commaSeparated, hc]
    · cases texts with
      | nil => cases htext
      | cons second texts =>
        have hrest := ih htext
        simp [commaSeparated] at hrest ⊢
        tauto

private theorem mem_entryTexts {values : List Json} {part : String} {texts : List String} (hpart : .str part ∈ values)
    (h : entryTexts values = .ok texts) : part ∈ texts := by
  induction values generalizing texts with
  | nil => cases hpart
  | cons value values ih =>
    rw [entryTexts] at h
    obtain ⟨text, htext, h⟩ := Throwing.bind_eq_ok.1 h
    obtain ⟨rest, hrest, h⟩ := Throwing.bind_eq_ok.1 h
    cases h
    rcases List.mem_cons.1 hpart with hpart | hpart
    · subst hpart
      have heq : part = text := by simpa [toText, isNull] using htext
      simp [heq]
    · exact List.mem_cons_of_mem _ (ih hpart hrest)

/-- The text of an array has the characters of each text in it. -/
theorem mem_toText_arr {values : List Json} {part text : String} {c : Char} (hpart : .str part ∈ values)
    (hc : c ∈ part.toList) (h : (arr values).toText = .ok text) : c ∈ text.toList := by
  rw [toText] at h
  obtain ⟨texts, htexts, h⟩ := Throwing.bind_eq_ok.1 h
  cases h
  exact mem_commaSeparated (mem_entryTexts hpart htexts) hc

/-! ### Numbers -/

/-- The digits of a number's text, without the sign. -/
def magnitude (text : String) : List Char :=
  match text.toList with
  | '-' :: digits => digits
  | digits => digits

/-- A number's text is that of an integer: digits only, or an exponent that is written because the number is large. -/
def isIntegerText (text : String) : Bool :=
  (!(magnitude text).isEmpty && (magnitude text).all Char.isDigit) || Text.contains ['e', '+'] (magnitude text)

/-- `Number.isInteger(value)`. -/
def isInteger : Option Json → Bool
  | some (.num text) => isIntegerText text
  | _ => false

/-- `value > 0` of a number. -/
def isPositiveText (text : String) : Bool := text != "0" && !(['-'].isPrefixOf text.toList)

/-- `Number.isInteger(value) && value > 0`. -/
def isPositiveInteger : Option Json → Bool
  | some (.num text) => isIntegerText text && isPositiveText text
  | _ => false

/-! ### Sameness -/

def sameValueZero : Option Json → Option Json → Bool
  | none, none => true
  | some .null, some .null => true
  | some (.bool value), some (.bool value') => value == value'
  | some (.num text), some (.num text') => text == text'
  | some (.str text), some (.str text') => text == text'
  | _, _ => false

theorem sameValueZero_eq {value value' : Option Json} (h : sameValueZero value value' = true) : value = value' := by
  unfold sameValueZero at h
  split at h <;> simp_all

theorem sameValueZero_comm (value value' : Option Json) :
    sameValueZero value value' = sameValueZero value' value := by
  rw [Bool.eq_iff_iff]
  constructor
  · intro h
    have heq := sameValueZero_eq h
    subst heq
    exact h
  · intro h
    have heq := sameValueZero_eq h
    subst heq
    exact h

/-- `list.includes(item)`: an array has an entry that is the same, a text has the text of the item in it. -/
def includes (list item : Option Json) : Except JsError Bool :=
  match list with
  | some (.arr values) => .ok (values.any fun value => sameValueZero (some value) item)
  | some (.str text) => do
    let part ← textOf item
    .ok (Text.contains part.toList text.toList)
  | _ => .error .typeError

/-! ### Sets and maps -/

/-- A set, in the order in which its members were added. -/
abbrev IdSet := List (Option Json)

namespace IdSet

def has (ids : IdSet) (id : Option Json) : Bool := ids.any fun id' => sameValueZero id' id

def add (ids : IdSet) (id : Option Json) : IdSet := if has ids id then ids else ids ++ [id]

def ofList (ids : List (Option Json)) : IdSet := ids.foldl add []

theorem has_add {ids : IdSet} {id id' : Option Json} :
    has (add ids id) id' = true ↔ has ids id' = true ∨ sameValueZero id id' = true := by
  unfold add
  by_cases hid : has ids id = true
  · rw [if_pos hid]
    constructor
    · exact .inl
    · rintro (h | h)
      · exact h
      · have heq := sameValueZero_eq h
        subst heq
        exact hid
  · rw [if_neg hid]
    simp [has]

theorem has_ofList {ids : List (Option Json)} {id : Option Json} :
    has (ofList ids) id = true ↔ ∃ id' ∈ ids, sameValueZero id' id = true := by
  suffices ∀ (ids : List (Option Json)) (start : IdSet),
      has (ids.foldl add start) id = true ↔ has start id = true ∨ ∃ id' ∈ ids, sameValueZero id' id = true by
    simpa [ofList, has] using this ids []
  intro ids
  induction ids with
  | nil => simp
  | cons first ids ih =>
    intro start
    rw [List.foldl_cons, ih, has_add, or_assoc]
    simp

end IdSet

/-- A map, in the order in which its keys were first set. -/
structure IdMap (ν : Type) where
  entries : List (Option Json × ν)
  distinct : entries.Pairwise fun entry entry' => sameValueZero entry.1 entry'.1 = false

namespace IdMap

variable {ν : Type}

def setEntry (id : Option Json) (value : ν) : List (Option Json × ν) → List (Option Json × ν)
  | [] => [(id, value)]
  | (id', value') :: rest =>
    if sameValueZero id' id then (id', value) :: rest else (id', value') :: setEntry id value rest

private theorem mem_setEntry {id : Option Json} {value : ν} {entries : List (Option Json × ν)}
    {entry : Option Json × ν} (h : entry ∈ setEntry id value entries) : entry = (id, value) ∨ entry ∈ entries := by
  induction entries with
  | nil => exact .inl (List.mem_singleton.1 h)
  | cons first rest ih =>
    obtain ⟨id', value'⟩ := first
    unfold setEntry at h
    split at h
    · rename_i hsame
      have heq := sameValueZero_eq hsame
      subst heq
      rcases List.mem_cons.1 h with h | h
      · exact .inl h
      · exact .inr (List.mem_cons_of_mem _ h)
    · rcases List.mem_cons.1 h with rfl | h
      · exact .inr List.mem_cons_self
      · rcases ih h with h | h
        · exact .inl h
        · exact .inr (List.mem_cons_of_mem _ h)

private theorem distinct_setEntry {id : Option Json} {value : ν} {entries : List (Option Json × ν)}
    (h : entries.Pairwise fun entry entry' => sameValueZero entry.1 entry'.1 = false) :
    (setEntry id value entries).Pairwise fun entry entry' => sameValueZero entry.1 entry'.1 = false := by
  induction entries with
  | nil => simp [setEntry]
  | cons first rest ih =>
    obtain ⟨id', value'⟩ := first
    rw [List.pairwise_cons] at h
    unfold setEntry
    split
    · rw [List.pairwise_cons]
      exact h
    · rename_i hne
      rw [List.pairwise_cons]
      refine ⟨?_, ih h.2⟩
      intro entry hentry
      rcases mem_setEntry hentry with rfl | hentry
      · simpa using hne
      · exact h.1 entry hentry

def empty : IdMap ν := ⟨[], .nil⟩

def set (map : IdMap ν) (id : Option Json) (value : ν) : IdMap ν :=
  ⟨setEntry id value map.entries, distinct_setEntry map.distinct⟩

def get (map : IdMap ν) (id : Option Json) : Option ν :=
  (map.entries.find? fun entry => sameValueZero entry.1 id).map Prod.snd

def values (map : IdMap ν) : List ν := map.entries.map Prod.snd

def ofList (entries : List (Option Json × ν)) : IdMap ν := entries.foldl (fun map entry => map.set entry.1 entry.2) empty

theorem get_set {map : IdMap ν} {id id' : Option Json} {value : ν} :
    (map.set id value).get id' = if sameValueZero id id' then some value else map.get id' := by
  obtain ⟨entries, distinct⟩ := map
  unfold get set
  dsimp only
  clear distinct
  induction entries with
  | nil =>
    by_cases hid : sameValueZero id id' = true
    · simp [setEntry, hid]
    · simp [setEntry, hid]
  | cons entry rest ih =>
    obtain ⟨key, old⟩ := entry
    unfold setEntry
    by_cases hkey : sameValueZero key id = true
    · have heq := sameValueZero_eq hkey
      subst heq
      rw [if_pos hkey]
      by_cases hid : sameValueZero key id' = true
      · simp [hid]
      · simp [hid]
    · rw [if_neg hkey]
      by_cases hid : sameValueZero key id' = true
      · have heq := sameValueZero_eq hid
        subst heq
        have hne : ¬ sameValueZero id key = true := by rwa [sameValueZero_comm]
        simp [hid, hne]
      · rw [List.find?_cons_of_neg (by simpa using hid), List.find?_cons_of_neg (by simpa using hid), ih]

theorem mem_ofList {entries : List (Option Json × ν)} {entry : Option Json × ν}
    (h : entry ∈ (ofList entries).entries) : entry ∈ entries := by
  induction entries using List.reverseRecOn with
  | nil => cases h
  | append_singleton entries last ih =>
    have hlast : ofList (entries ++ [last]) = (ofList entries).set last.1 last.2 := by simp [ofList]
    rw [hlast] at h
    rw [List.mem_append, List.mem_singleton]
    rcases mem_setEntry h with h | h
    · exact .inr h
    · exact .inl (ih h)

/-- The last of the entries of a list with the same key. -/
theorem get_ofList {entries : List (Option Json × ν)} {id : Option Json} :
    (ofList entries).get id = (entries.reverse.find? fun entry => sameValueZero entry.1 id).map Prod.snd := by
  induction entries using List.reverseRecOn with
  | nil => rfl
  | append_singleton entries entry ih =>
    have hlast : ofList (entries ++ [entry]) = (ofList entries).set entry.1 entry.2 := by simp [ofList]
    rw [hlast, get_set, List.reverse_append, List.reverse_singleton, List.singleton_append, ih]
    by_cases hid : sameValueZero entry.1 id = true
    · simp [hid]
    · simp [hid]

private theorem find_reverse {entries : List (Option Json × ν)} {id : Option Json}
    (h : entries.Pairwise fun entry entry' => sameValueZero entry.1 entry'.1 = false) :
    entries.reverse.find? (fun entry => sameValueZero entry.1 id) =
      entries.find? fun entry => sameValueZero entry.1 id := by
  induction entries with
  | nil => rfl
  | cons entry entries ih =>
    rw [List.pairwise_cons] at h
    rw [List.reverse_cons, List.find?_append, ih h.2]
    by_cases hid : sameValueZero entry.1 id = true
    · have hnone : entries.find? (fun entry => sameValueZero entry.1 id) = none := by
        rw [List.find?_eq_none]
        intro entry' hentry' hid'
        have heq := sameValueZero_eq hid'
        have hne := h.1 entry' hentry'
        rw [heq, hid] at hne
        cases hne
      rw [hnone, List.find?_cons_of_pos (by simpa using hid), List.find?_cons_of_pos (by simpa using hid)]
      rfl
    · rw [List.find?_cons_of_neg (by simpa using hid), List.find?_cons_of_neg (by simpa using hid)]
      simp

/-- The values of a map, each under the key it had, and then others. -/
theorem get_ofList_values {map : IdMap ν} {key : ν → Option Json} {f : ν → ν}
    (hkey : ∀ entry ∈ map.entries, key (f entry.2) = entry.1) {others : List ν} {id : Option Json}
    (hothers : ∀ value ∈ others, ¬ sameValueZero (key value) id = true) :
    (ofList ((map.values.map f ++ others).map fun value => (key value, value))).get id = (map.get id).map f := by
  have hnone : (others.map fun value => (key value, value)).reverse.find?
      (fun entry => sameValueZero entry.1 id) = none := by
    rw [List.find?_eq_none]
    intro entry hentry
    rw [List.mem_reverse, List.mem_map] at hentry
    obtain ⟨value, hvalue, rfl⟩ := hentry
    exact hothers value hvalue
  have hentries : (map.values.map f).map (fun value => (key value, value)) =
      map.entries.map fun entry => (entry.1, f entry.2) := by
    rw [values, List.map_map, List.map_map]
    exact List.map_congr_left fun entry hentry => by simp [hkey entry hentry]
  rw [get_ofList, List.map_append, List.reverse_append, List.find?_append, hnone, Option.none_or, hentries,
    ← List.map_reverse, List.find?_map]
  have hfind : map.entries.reverse.find? (fun entry => sameValueZero entry.1 id) =
      map.entries.find? fun entry => sameValueZero entry.1 id := find_reverse map.distinct
  change Option.map Prod.snd (Option.map _ (map.entries.reverse.find? fun entry => sameValueZero entry.1 id)) = _
  rw [hfind, get, Option.map_map, Option.map_map]
  rfl

end IdMap

/-! ### Members -/

@[simp] theorem get_none (key : String) : get key none = none := rfl

@[simp] theorem get_some (key : String) (value : Json) : get key (some value) = value.member key := rfl

/-- A path of two keys. -/
theorem path_pair (value : Json) (key key' : String) : value.path [key, key'] = get key' (value.member key) := by
  have hlast : ∀ value : Json, value.path [key'] = value.member key' := by
    intro value
    rw [path]
    cases value.member key' <;> rfl
  rw [path]
  cases value.member key with
  | none => rfl
  | some field => exact hlast field

/-- A value that has been filled in is not filled in again. -/
@[simp] theorem coalesce_coalesce (value other : Option Json) :
    coalesce (coalesce value other) other = coalesce value other := by
  cases value with
  | none =>
    cases other with
    | none => rfl
    | some other => cases other <;> rfl
  | some value =>
    cases value with
    | null =>
      cases other with
      | none => rfl
      | some other => cases other <;> rfl
    | bool => rfl
    | num => rfl
    | str => rfl
    | arr => rfl
    | obj => rfl

private theorem lookup_filter_of_not {key : String} {p : String × Json → Bool} {fields : List (String × Json)}
    (h : ∀ value, p (key, value) = true) : (fields.filter p).lookup key = fields.lookup key := by
  induction fields with
  | nil => rfl
  | cons field fields ih =>
    obtain ⟨key', value⟩ := field
    by_cases hkey : key = key'
    · subst hkey
      rw [List.filter_cons_of_pos (h value), List.lookup_cons_self, List.lookup_cons_self]
    · have hbeq : (key == key') = false := by simpa using hkey
      rw [List.filter_cons]
      split
      · rw [List.lookup_cons, List.lookup_cons, hbeq, ih]
      · rw [List.lookup_cons, hbeq, ih]

private theorem lookup_filter_absent {key : String} {p : String × Json → Bool} {fields : List (String × Json)}
    (h : ∀ value, p (key, value) = false) : (fields.filter p).lookup key = none := by
  rw [List.lookup_eq_none_iff]
  intro field hfield
  have hp := (List.mem_filter.1 hfield).2
  obtain ⟨key', value⟩ := field
  have hne : key ≠ key' := by
    rintro rfl
    rw [h value] at hp
    cases hp
  simpa using hne

/-- A member of an object literal that starts with another value: the literal's own field, or the other value's. -/
theorem member_assign {value : Json} {fields : List (String × Option Json)}
    (hkeys : (fields.map Prod.fst).Nodup) (key : String) :
    (assign value fields).member key = match fields.lookup key with
      | some field => field
      | none => value.member key := by
  have hobject := member_object hkeys key
  unfold member at hobject ⊢
  change (assigned value fields).lookup key = _
  change (ofFields fields).lookup key = _ at hobject
  unfold assigned
  rw [List.lookup_append, hobject]
  cases hlookup : fields.lookup key with
  | none =>
    have habsent : key ∉ fields.map Prod.fst := by
      intro hmem
      obtain ⟨field, hfield, hkey⟩ := List.mem_map.1 hmem
      have hne := List.lookup_eq_none_iff.1 hlookup field hfield
      simp [hkey] at hne
    rw [Option.join_none, Option.none_or]
    exact lookup_filter_of_not fun _ => by simpa using habsent
  | some field =>
    have hmem : key ∈ fields.map Prod.fst := by
      obtain ⟨start, rest, hfields, -⟩ := List.lookup_eq_some_iff.1 hlookup
      rw [hfields]
      simp
    rw [lookup_filter_absent fun _ => by simpa using hmem]
    simp

/-- Fields that are set again hide the earlier ones. -/
theorem assigned_assign {value : Json} {fields fields' : List (String × Option Json)}
    (hkeys : fields.map Prod.fst = fields'.map Prod.fst) :
    assigned (assign value fields) fields' = assigned value fields' := by
  have hown : ∀ field ∈ ofFields fields, field.1 ∈ fields.map Prod.fst := by
    clear hkeys
    induction fields with
    | nil => simp [ofFields]
    | cons first fields ih =>
      obtain ⟨key, value⟩ := first
      cases value with
      | none => exact fun field hfield => List.mem_cons_of_mem _ (ih field hfield)
      | some value =>
        rw [ofFields, List.forall_mem_cons]
        exact ⟨List.mem_cons_self, fun field hfield => List.mem_cons_of_mem _ (ih field hfield)⟩
  have hnone : (ofFields fields).filter (fun field => !(fields'.map Prod.fst).contains field.1) = [] := by
    rw [List.filter_eq_nil_iff]
    intro field hfield
    simpa [hkeys] using hown field hfield
  have hrest : (assign value fields).fields = assigned value fields := rfl
  rw [assigned, hrest, assigned, List.filter_append, hnone, List.nil_append, List.filter_filter, hkeys, assigned]
  simp

end Json
