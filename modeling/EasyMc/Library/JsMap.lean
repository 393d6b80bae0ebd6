import Mathlib.Algebra.GroupWithZero.Nat
import Mathlib.Algebra.Order.BigOperators.Group.List
import Mathlib.Algebra.Order.Group.Nat
import Mathlib.Data.List.Induction
import Mathlib.Data.List.Nodup
import Mathlib.Data.Set.Insert

/-!
# Insertion-ordered maps

`JsMap κ ν` is a finite map that remembers the order in which its keys were first set: `set` on a present key
replaces the value in place, `set` on a new key appends it.  The keys are pairwise distinct by construction.

Sums over a map (`total`) are the means by which counters kept next to a map are compared with its contents: one
`set` changes a total by the new value minus the replaced one (`total_set`).
-/

/-- A finite map with its entries in insertion order. -/
structure JsMap (κ ν : Type*) where
  entries : List (κ × ν)
  nodupKeys : (entries.map Prod.fst).Nodup

namespace JsMap

variable {κ ν : Type*}

/-! ### Entry lists -/

section Entries

variable [DecidableEq κ]

/-- The value stored under `k` in a list of entries. -/
def getEntry (k : κ) : List (κ × ν) → Option ν
  | [] => none
  | (k', v) :: rest => if k' = k then some v else getEntry k rest

/-- Replace the value of `k` in place, or append the entry. -/
def setEntry (k : κ) (v : ν) : List (κ × ν) → List (κ × ν)
  | [] => [(k, v)]
  | (k', v') :: rest => if k' = k then (k, v) :: rest else (k', v') :: setEntry k v rest

private theorem mem_keys_setEntry {k a : κ} {v : ν} {l : List (κ × ν)} :
    a ∈ (setEntry k v l).map Prod.fst ↔ a = k ∨ a ∈ l.map Prod.fst := by
  induction l with
  | nil => simp [setEntry]
  | cons e l ih =>
    obtain ⟨k', v'⟩ := e
    unfold setEntry
    split
    · rename_i h; subst h; simp
    · rw [List.map_cons, List.mem_cons, ih, List.map_cons, List.mem_cons]
      exact or_left_comm

private theorem nodup_setEntry {k : κ} {v : ν} {l : List (κ × ν)} (h : (l.map Prod.fst).Nodup) :
    ((setEntry k v l).map Prod.fst).Nodup := by
  induction l with
  | nil => simp [setEntry]
  | cons e l ih =>
    obtain ⟨k', v'⟩ := e
    rw [List.map_cons, List.nodup_cons] at h
    unfold setEntry
    split
    · rename_i hk; subst hk
      rw [List.map_cons, List.nodup_cons]
      exact h
    · rename_i hk
      rw [List.map_cons, List.nodup_cons, mem_keys_setEntry]
      refine ⟨?_, ih h.2⟩
      rintro (he | hm)
      · exact hk he
      · exact h.1 hm

private theorem getEntry_setEntry {k a : κ} {v : ν} {l : List (κ × ν)} :
    getEntry a (setEntry k v l) = if k = a then some v else getEntry a l := by
  induction l with
  | nil => simp [setEntry, getEntry]
  | cons e l ih =>
    obtain ⟨k', v'⟩ := e
    unfold setEntry
    by_cases hk : k' = k
    · subst hk
      by_cases ha : k' = a <;> simp [getEntry, ha]
    · rw [if_neg hk]
      by_cases ha : k' = a
      · subst ha; simp [getEntry, Ne.symm hk]
      · simp [getEntry, ha, ih]

private theorem getEntry_eq_none {k : κ} {l : List (κ × ν)} (h : k ∉ l.map Prod.fst) : getEntry k l = none := by
  induction l with
  | nil => rfl
  | cons e l ih =>
    rw [List.map_cons, List.mem_cons, not_or] at h
    rw [getEntry, if_neg (Ne.symm h.1), ih h.2]

private theorem mem_iff_getEntry {k : κ} {v : ν} {l : List (κ × ν)} (h : (l.map Prod.fst).Nodup) :
    (k, v) ∈ l ↔ getEntry k l = some v := by
  induction l with
  | nil => simp [getEntry]
  | cons e l ih =>
    obtain ⟨k', v'⟩ := e
    rw [List.map_cons, List.nodup_cons] at h
    rw [List.mem_cons, ih h.2]
    by_cases hk : k' = k
    · subst hk
      have hnone : getEntry k' l = none := getEntry_eq_none h.1
      simp [getEntry, hnone, eq_comm]
    · simp [getEntry, hk, Ne.symm hk]

private theorem setEntry_new {k : κ} {v : ν} {l : List (κ × ν)} (h : k ∉ l.map Prod.fst) :
    setEntry k v l = l ++ [(k, v)] := by
  induction l with
  | nil => rfl
  | cons e l ih =>
    rw [List.map_cons, List.mem_cons, not_or] at h
    rw [setEntry, if_neg (Ne.symm h.1), ih h.2, List.cons_append]

private theorem lookup_eq_getEntry {k : κ} {l : List (κ × ν)} : l.lookup k = getEntry k l := by
  induction l with
  | nil => rfl
  | cons e l ih =>
    obtain ⟨k', v'⟩ := e
    by_cases hk : k' = k
    · subst hk
      simp [getEntry]
    · have hbeq : (k == k') = false := by simpa using Ne.symm hk
      rw [List.lookup_cons, hbeq, getEntry, if_neg hk, ih]

private theorem sum_setEntry (f : κ × ν → Nat) {k : κ} {v : ν} {l : List (κ × ν)} :
    ((setEntry k v l).map f).sum + (getEntry k l).elim 0 (fun old => f (k, old)) = (l.map f).sum + f (k, v) := by
  induction l with
  | nil => simp [setEntry, getEntry]
  | cons e l ih =>
    obtain ⟨k', v'⟩ := e
    by_cases hk : k' = k
    · subst hk
      simp [setEntry, getEntry]
      omega
    · simp only [setEntry, getEntry, if_neg hk, List.map_cons, List.sum_cons]
      omega

end Entries

/-! ### Maps -/

/-- The map without entries. -/
def empty : JsMap κ ν := ⟨[], List.nodup_nil⟩

/-- The values in insertion order. -/
def values (m : JsMap κ ν) : List ν := m.entries.map Prod.snd

/-- The keys in insertion order. -/
def keys (m : JsMap κ ν) : List κ := m.entries.map Prod.fst

/-- The sum of `f` over the entries. -/
def total (f : κ × ν → Nat) (m : JsMap κ ν) : Nat := (m.entries.map f).sum

variable [DecidableEq κ]

/-- The value stored under `k`. -/
def get (m : JsMap κ ν) (k : κ) : Option ν := getEntry k m.entries

/-- Store `v` under `k`. -/
def set (m : JsMap κ ν) (k : κ) (v : ν) : JsMap κ ν := ⟨setEntry k v m.entries, nodup_setEntry m.nodupKeys⟩

@[simp] theorem get_empty (k : κ) : (empty : JsMap κ ν).get k = none := rfl

theorem get_set (m : JsMap κ ν) (k a : κ) (v : ν) : (m.set k v).get a = if k = a then some v else m.get a :=
  getEntry_setEntry

@[simp] theorem get_set_self (m : JsMap κ ν) (k : κ) (v : ν) : (m.set k v).get k = some v := by
  rw [get_set, if_pos rfl]

theorem get_set_ne (m : JsMap κ ν) {k a : κ} (v : ν) (h : k ≠ a) : (m.set k v).get a = m.get a := by
  rw [get_set, if_neg h]

/-- A value read after a store is the one stored, or it was there before. -/
theorem get_set_cases {m : JsMap κ ν} {k a : κ} {v w : ν} (h : (m.set k v).get a = some w) :
    k = a ∧ v = w ∨ k ≠ a ∧ m.get a = some w := by
  rw [get_set] at h
  split at h
  · rename_i hk
    exact .inl ⟨hk, Option.some.inj h⟩
  · rename_i hk
    exact .inr ⟨hk, h⟩

theorem mem_entries_iff {m : JsMap κ ν} {k : κ} {v : ν} : (k, v) ∈ m.entries ↔ m.get k = some v :=
  mem_iff_getEntry m.nodupKeys

theorem mem_values_iff {m : JsMap κ ν} {v : ν} : v ∈ m.values ↔ ∃ k, m.get k = some v := by
  simp only [values, List.mem_map, Prod.exists, exists_eq_right]
  exact exists_congr fun k => mem_entries_iff

/-! ### Keys -/

/-- Something is stored under `k`. -/
def has (m : JsMap κ ν) (k : κ) : Bool := (m.get k).isSome

/-- Remove what is stored under `k`. -/
def erase (m : JsMap κ ν) (k : κ) : JsMap κ ν :=
  ⟨m.entries.filter fun e => e.1 ≠ k, m.nodupKeys.sublist (List.filter_sublist.map Prod.fst)⟩

/-- The entries of a list, the later ones first set aside the earlier ones with their key. -/
def ofEntries (entries : List (κ × ν)) : JsMap κ ν := entries.foldl (fun m e => m.set e.1 e.2) empty

@[simp] theorem has_empty (k : κ) : (empty : JsMap κ ν).has k = false := rfl

theorem has_iff {m : JsMap κ ν} {k : κ} : m.has k = true ↔ ∃ v, m.get k = some v := Option.isSome_iff_exists

theorem has_iff_mem_values {m : JsMap κ ν} {key : ν → κ} (hkey : ∀ k v, m.get k = some v → key v = k) {k : κ} :
    m.has k = true ↔ ∃ v ∈ m.values, key v = k := by
  rw [has_iff]
  constructor
  · rintro ⟨v, hv⟩
    exact ⟨v, mem_values_iff.2 ⟨k, hv⟩, hkey k v hv⟩
  · rintro ⟨v, hv, rfl⟩
    obtain ⟨k', hk'⟩ := mem_values_iff.1 hv
    have hk : key v = k' := hkey k' v hk'
    exact ⟨v, hk ▸ hk'⟩

theorem has_set {m : JsMap κ ν} {k a : κ} {v : ν} : (m.set k v).has a = true ↔ k = a ∨ m.has a = true := by
  rw [has, has, get_set]
  by_cases hk : k = a
  · simp [hk]
  · simp [hk]

theorem get_erase (m : JsMap κ ν) (k a : κ) : (m.erase k).get a = if k = a then none else m.get a := by
  by_cases hk : k = a
  · subst hk
    rw [if_pos rfl, Option.eq_none_iff_forall_ne_some]
    intro v hv
    have hmem := mem_entries_iff.2 hv
    simp [erase] at hmem
  · rw [if_neg hk]
    ext v
    rw [← mem_entries_iff, ← mem_entries_iff]
    simp [erase, Ne.symm hk]

theorem has_erase {m : JsMap κ ν} {k a : κ} : (m.erase k).has a = true ↔ k ≠ a ∧ m.has a = true := by
  rw [has, has, get_erase]
  by_cases hk : k = a
  · simp [hk]
  · simp [hk]

/-- The keys under which something is stored. -/
def keySet (m : JsMap κ ν) : Set κ := {k | m.has k = true}

theorem mem_keySet {m : JsMap κ ν} {k : κ} : k ∈ m.keySet ↔ m.has k = true := Iff.rfl

theorem has_eq_of_keySet_eq {m m' : JsMap κ ν} (h : m.keySet = m'.keySet) (k : κ) : m.has k = m'.has k := by
  have hmem : k ∈ m.keySet ↔ k ∈ m'.keySet := by rw [h]
  exact Bool.eq_iff_iff.2 hmem

@[simp] theorem keySet_set (m : JsMap κ ν) (k : κ) (v : ν) : (m.set k v).keySet = insert k m.keySet := by
  ext a
  rw [mem_keySet, has_set, Set.mem_insert_iff, mem_keySet, eq_comm]

@[simp] theorem keySet_erase (m : JsMap κ ν) (k : κ) : (m.erase k).keySet = m.keySet \ {k} := by
  ext a
  rw [mem_keySet, has_erase, Set.mem_sdiff, Set.mem_singleton_iff, mem_keySet, and_comm, ne_comm]

/-- What is stored in a map that is made from a list meets what every entry of the list meets. -/
theorem get_ofEntries_of_forall {P : κ → ν → Prop} {entries : List (κ × ν)} (h : ∀ e ∈ entries, P e.1 e.2) {k : κ}
    {v : ν} (hv : (ofEntries entries).get k = some v) : P k v := by
  suffices ∀ (entries : List (κ × ν)) (m : JsMap κ ν), (∀ e ∈ entries, P e.1 e.2) →
      (∀ k v, m.get k = some v → P k v) →
      ∀ k v, (entries.foldl (fun m e => m.set e.1 e.2) m).get k = some v → P k v from
    this entries empty h (by simp) k v hv
  intro entries
  induction entries with
  | nil => exact fun _ _ hm => hm
  | cons e entries ih =>
    intro m hall hm
    refine ih (m.set e.1 e.2) (fun e' he' => hall e' (List.mem_cons_of_mem e he')) ?_
    intro k v hget
    rcases get_set_cases hget with ⟨rfl, rfl⟩ | ⟨-, hget⟩
    · exact hall e List.mem_cons_self
    · exact hm k v hget

/-- What is stored in a map that is made from a list is in its last entry with the key. -/
theorem get_ofEntries {entries : List (κ × ν)} {k : κ} :
    (ofEntries entries).get k = (entries.reverse.find? fun e => e.1 = k).map Prod.snd := by
  induction entries using List.reverseRecOn with
  | nil => rfl
  | append_singleton entries e ih =>
    have hlast : ofEntries (entries ++ [e]) = (ofEntries entries).set e.1 e.2 := by simp [ofEntries]
    rw [hlast, get_set, List.reverse_append, List.reverse_singleton, List.singleton_append, ih]
    by_cases hk : e.1 = k
    · simp [hk]
    · simp [hk]

/-- Entries that are set after others. -/
theorem get_ofEntries_append {entries entries' : List (κ × ν)} {k : κ} :
    (ofEntries (entries ++ entries')).get k = ((ofEntries entries').get k).or ((ofEntries entries).get k) := by
  rw [get_ofEntries, get_ofEntries, get_ofEntries, List.reverse_append, List.find?_append]
  cases entries'.reverse.find? (fun e => e.1 = k) <;> rfl

theorem has_ofEntries {entries : List (κ × ν)} {k : κ} :
    (ofEntries entries).has k = true ↔ k ∈ entries.map Prod.fst := by
  suffices ∀ (entries : List (κ × ν)) (m : JsMap κ ν),
      (entries.foldl (fun m e => m.set e.1 e.2) m).has k = true ↔ m.has k = true ∨ k ∈ entries.map Prod.fst by
    simpa [ofEntries] using this entries empty
  intro entries
  induction entries with
  | nil => simp
  | cons e entries ih =>
    intro m
    rw [List.foldl_cons, ih, has_set, List.map_cons, List.mem_cons]
    constructor
    · rintro ((hk | hm) | he)
      · exact .inr (.inl hk.symm)
      · exact .inl hm
      · exact .inr (.inr he)
    · rintro (hm | hk | he)
      · exact .inl (.inr hm)
      · exact .inl (.inl hk.symm)
      · exact .inr he

theorem lookup_entries (m : JsMap κ ν) (k : κ) : m.entries.lookup k = m.get k := lookup_eq_getEntry

/-- A list whose keys are distinct is the entries of its map. -/
theorem entries_ofEntries {entries : List (κ × ν)} (h : (entries.map Prod.fst).Nodup) :
    (ofEntries entries).entries = entries := by
  induction entries using List.reverseRecOn with
  | nil => rfl
  | append_singleton entries e ih =>
    have hlast : ofEntries (entries ++ [e]) = (ofEntries entries).set e.1 e.2 := by simp [ofEntries]
    rw [List.map_append, List.nodup_append] at h
    have hnew : e.1 ∉ entries.map Prod.fst := fun hmem => h.2.2 e.1 hmem e.1 (by simp) rfl
    rw [hlast]
    change setEntry e.1 e.2 (ofEntries entries).entries = _
    rw [ih h.1, setEntry_new hnew]

/-! ### Maps that agree on some of their values -/

/-- The two maps hold the same values with `P`, under the same keys. -/
def AgreesOn (P : ν → Prop) (m m' : JsMap κ ν) : Prop := ∀ k v, P v → (m.get k = some v ↔ m'.get k = some v)

namespace AgreesOn

variable {P : ν → Prop} {m m' : JsMap κ ν}

theorem refl (P : ν → Prop) (m : JsMap κ ν) : AgreesOn P m m := fun _ _ _ => Iff.rfl

theorem exists_iff (h : AgreesOn P m m') (k : κ) :
    (∃ v, m.get k = some v ∧ P v) ↔ ∃ v, m'.get k = some v ∧ P v :=
  exists_congr fun v => and_congr_left fun hv => h k v hv

/-- A store of a value without `P`, where there was none with `P`, leaves the values with `P` as they are. -/
theorem set (h : AgreesOn P m m') {k : κ} {v : ν} (hv : ¬ P v) (hold : ∀ w, m.get k = some w → ¬ P w) :
    AgreesOn P m (m'.set k v) := by
  intro a w hw
  rw [get_set]
  by_cases hk : k = a
  · subst hk
    rw [if_pos rfl, Option.some.injEq]
    constructor
    · intro hget
      exact absurd hw (hold w hget)
    · rintro rfl
      exact absurd hw hv
  · rw [if_neg hk]
    exact h a w hw

end AgreesOn

/-! ### Another value for each key -/

section MapValues

variable {μ : Type*} (f : ν → μ)

omit [DecidableEq κ] in
private theorem map_fst_entries (entries : List (κ × ν)) :
    (entries.map fun e => (e.1, f e.2)).map Prod.fst = entries.map Prod.fst := by
  rw [List.map_map]
  rfl

omit [DecidableEq κ] in
/-- The map whose values are those of `m` under `f`. -/
def mapValues (m : JsMap κ ν) : JsMap κ μ :=
  ⟨m.entries.map fun e => (e.1, f e.2), by rw [map_fst_entries]; exact m.nodupKeys⟩

omit [DecidableEq κ] in
@[simp] theorem mapValues_empty : (empty : JsMap κ ν).mapValues f = empty := rfl

private theorem getEntry_map {k : κ} (entries : List (κ × ν)) :
    getEntry k (entries.map fun e => (e.1, f e.2)) = (getEntry k entries).map f := by
  induction entries with
  | nil => rfl
  | cons e entries ih =>
    obtain ⟨k', v⟩ := e
    by_cases hk : k' = k
    · simp [getEntry, hk]
    · simpa [getEntry, hk] using ih

private theorem setEntry_map {k : κ} {v : ν} (entries : List (κ × ν)) :
    setEntry k (f v) (entries.map fun e => (e.1, f e.2)) = (setEntry k v entries).map fun e => (e.1, f e.2) := by
  induction entries with
  | nil => rfl
  | cons e entries ih =>
    obtain ⟨k', v'⟩ := e
    by_cases hk : k' = k
    · simp [setEntry, hk]
    · simpa [setEntry, hk] using ih

@[simp] theorem get_mapValues (m : JsMap κ ν) (k : κ) : (m.mapValues f).get k = (m.get k).map f :=
  getEntry_map f m.entries

theorem mapValues_set (m : JsMap κ ν) (k : κ) (v : ν) : (m.set k v).mapValues f = (m.mapValues f).set k (f v) := by
  have hentries := setEntry_map f (k := k) (v := v) m.entries
  unfold mapValues set
  simp only [hentries]

omit [DecidableEq κ] in
@[simp] theorem values_mapValues (m : JsMap κ ν) : (m.mapValues f).values = m.values.map f := by
  unfold values mapValues
  rw [List.map_map, List.map_map]
  rfl

omit [DecidableEq κ] in
theorem mapValues_mapValues {ξ : Type*} (g : μ → ξ) (m : JsMap κ ν) :
    (m.mapValues f).mapValues g = m.mapValues fun v => g (f v) := by
  unfold mapValues
  simp only [List.map_map]
  rfl

end MapValues

/-! ### Totals -/

omit [DecidableEq κ] in
@[simp] theorem total_empty (f : κ × ν → Nat) : total f (empty : JsMap κ ν) = 0 := rfl

/-- A `set` changes a total by the new value minus the replaced one. -/
theorem total_set (f : κ × ν → Nat) (m : JsMap κ ν) (k : κ) (v : ν) :
    total f (m.set k v) + (m.get k).elim 0 (fun old => f (k, old)) = total f m + f (k, v) :=
  sum_setEntry f

theorem total_set_new (f : κ × ν → Nat) {m : JsMap κ ν} {k : κ} (v : ν) (h : m.get k = none) :
    total f (m.set k v) = total f m + f (k, v) := by
  have := total_set f m k v
  rw [h] at this
  simpa using this

theorem total_set_old (f : κ × ν → Nat) {m : JsMap κ ν} {k : κ} {old : ν} (v : ν) (h : m.get k = some old) :
    total f (m.set k v) + f (k, old) = total f m + f (k, v) := by
  have := total_set f m k v
  rw [h] at this
  simpa using this

theorem total_set_le (f : κ × ν → Nat) {m : JsMap κ ν} {k : κ} {old v : ν} (h : m.get k = some old)
    (hle : f (k, v) ≤ f (k, old)) : total f (m.set k v) ≤ total f m := by
  have := total_set_old f v h
  omega

omit [DecidableEq κ] in
theorem total_values (f : ν → Nat) (m : JsMap κ ν) : total (fun e => f e.2) m = (m.values.map f).sum := by
  unfold values total
  rw [List.map_map]
  rfl

omit [DecidableEq κ] in
/-- Counting the values with a property is a total. -/
theorem length_filter_values (p : ν → Bool) (m : JsMap κ ν) :
    (m.values.filter p).length = total (fun e => if p e.2 then 1 else 0) m := by
  unfold values total
  induction m.entries with
  | nil => rfl
  | cons e l ih =>
    by_cases h : p e.2
    · simp [h, ih, Nat.add_comm]
    · simp [h, ih]

end JsMap
