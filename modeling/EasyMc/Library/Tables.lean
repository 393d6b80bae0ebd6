import Mathlib.Data.List.Basic
import Mathlib.Data.List.Nodup

/-!
# Tables with constraints

A table is a list of rows.  `UniqueOn` is a key that no two rows share, `References` a foreign key, and `cascade`
what is left of the referring rows when the rows they refer to are deleted.  `upsert` is an insert that updates the
row with the same key instead, if there is one.
-/

namespace Relational

variable {ρ π κ : Type*}

/-- `UNIQUE (key)`. -/
def UniqueOn (key : ρ → κ) (rows : List ρ) : Prop := (rows.map key).Nodup

/-- `FOREIGN KEY (foreign) REFERENCES parents(key)`. -/
def References (foreign : ρ → κ) (key : π → κ) (rows : List ρ) (parents : List π) : Prop :=
  ∀ row ∈ rows, ∃ parent ∈ parents, key parent = foreign row

instance decidableUniqueOn [DecidableEq κ] (key : ρ → κ) (rows : List ρ) : Decidable (UniqueOn key rows) :=
  inferInstanceAs (Decidable (rows.map key).Nodup)

instance decidableReferences [DecidableEq κ] (foreign : ρ → κ) (key : π → κ) (rows : List ρ) (parents : List π) :
    Decidable (References foreign key rows parents) :=
  inferInstanceAs (Decidable (∀ row ∈ rows, ∃ parent ∈ parents, key parent = foreign row))

section Unique

variable {key : ρ → κ} {rows : List ρ}

theorem UniqueOn.filter (h : UniqueOn key rows) (p : ρ → Bool) : UniqueOn key (rows.filter p) :=
  h.sublist (List.filter_sublist.map key)

theorem UniqueOn.eq_of_mem (h : UniqueOn key rows) {a b : ρ} (ha : a ∈ rows) (hb : b ∈ rows)
    (hab : key a = key b) : a = b :=
  List.inj_on_of_nodup_map h ha hb hab

theorem UniqueOn.append (h : UniqueOn key rows) {row : ρ} (hrow : ∀ a ∈ rows, key a ≠ key row) :
    UniqueOn key (rows ++ [row]) := by
  unfold UniqueOn
  rw [List.map_append, List.nodup_append]
  refine ⟨h, List.nodup_singleton _, ?_⟩
  intro k hk k' hk' hkk
  obtain ⟨a, ha, rfl⟩ := List.mem_map.1 hk
  obtain rfl := List.mem_singleton.1 hk'
  exact hrow a ha hkk

/-- Rows that keep their keys stay unique. -/
theorem UniqueOn.map (h : UniqueOn key rows) {f : ρ → ρ} (hf : ∀ row ∈ rows, key (f row) = key row) :
    UniqueOn key (rows.map f) := by
  have : (rows.map f).map key = rows.map key := by
    rw [List.map_map]
    exact List.map_congr_left hf
  unfold UniqueOn
  rw [this]
  exact h

end Unique

section Select

variable [DecidableEq κ] (key : ρ → κ)

/-- `SELECT * FROM rows WHERE key = k`. -/
def select (k : κ) (rows : List ρ) : List ρ := rows.filter fun row => decide (key row = k)

variable {key} {rows : List ρ} {k : κ}

theorem mem_select {row : ρ} : row ∈ select key k rows ↔ row ∈ rows ∧ key row = k := by
  simp [select]

/-- A unique key selects at most one row. -/
theorem UniqueOn.length_select_le (h : UniqueOn key rows) (k : κ) : (select key k rows).length ≤ 1 := by
  have hnodup : (select key k rows).Nodup := List.Nodup.of_map key (h.filter _)
  match hrows : select key k rows with
  | [] => simp
  | [row] => simp
  | a :: b :: rest =>
    rw [hrows] at hnodup
    have ha : a ∈ select key k rows := by simp [hrows]
    have hb : b ∈ select key k rows := by simp [hrows]
    have hab : a = b :=
      h.eq_of_mem (mem_select.1 ha).1 (mem_select.1 hb).1 ((mem_select.1 ha).2.trans (mem_select.1 hb).2.symm)
    simp [hab] at hnodup

theorem select_filter (p : ρ → Bool) : select key k (rows.filter p) = (select key k rows).filter p := by
  unfold select
  rw [List.filter_filter, List.filter_filter]
  apply List.filter_congr
  intro row _
  exact Bool.and_comm _ _

/-- `INSERT .. ON CONFLICT (key) DO UPDATE`: the row with the key of `row` is updated, or `row` is added. -/
def upsert (key : ρ → κ) (row : ρ) (update : ρ → ρ) (rows : List ρ) : List ρ :=
  if rows.any fun old => decide (key old = key row) then
    rows.map fun old => if key old = key row then update old else old
  else rows ++ [row]

theorem select_upsert {row : ρ} {update : ρ → ρ} (hupdate : ∀ old, key (update old) = key old) :
    select key k (upsert key row update rows) =
      if key row = k then
        (if select key k rows = [] then [row] else (select key k rows).map update)
      else select key k rows := by
  have hany : (rows.any fun old => decide (key old = key row)) = true ↔ select key (key row) rows ≠ [] := by
    simp [select, List.filter_eq_nil_iff]
  unfold upsert
  by_cases hold : (rows.any fun old => decide (key old = key row)) = true
  · rw [if_pos hold]
    by_cases hk : key row = k
    · subst hk
      rw [if_pos rfl, if_neg (hany.1 hold)]
      clear hold hany
      induction rows with
      | nil => rfl
      | cons old rows ih =>
        unfold select at ih ⊢
        by_cases hkey : key old = key row
        · simp [hkey, hupdate, ih]
        · simp [hkey, ih]
    · rw [if_neg hk]
      clear hold hany
      induction rows with
      | nil => rfl
      | cons old rows ih =>
        unfold select at ih ⊢
        by_cases hkey : key old = key row
        · have hne : ¬ key old = k := fun h => hk (hkey.symm.trans h)
          simp [hkey, hk, hupdate, ih]
        · simp [hkey, ih, List.filter_cons]
  · rw [if_neg hold]
    have hnone : select key (key row) rows = [] := by
      by_contra h
      exact hold (hany.2 h)
    by_cases hk : key row = k
    · subst hk
      rw [if_pos rfl, if_pos hnone]
      unfold select at hnone ⊢
      rw [List.filter_append, hnone]
      simp
    · rw [if_neg hk]
      simp [select, List.filter_append, hk]

end Select

section Cascade

variable {foreign : ρ → κ} {key : π → κ} {rows : List ρ} {parents : List π}

/-- Fewer rows refer to the same parents. -/
theorem References.filter (h : References foreign key rows parents) (p : ρ → Bool) :
    References foreign key (rows.filter p) parents :=
  fun row hrow => h row (List.mem_of_mem_filter hrow)

variable [DecidableEq κ]

/-- The row refers to one of the deleted ones. -/
def refersTo (foreign : ρ → κ) (key : π → κ) (deleted : List π) (row : ρ) : Bool :=
  (deleted.map key).contains (foreign row)

/-- `ON DELETE CASCADE`: the rows that refer to none of the deleted ones. -/
def cascade (foreign : ρ → κ) (key : π → κ) (deleted : List π) (rows : List ρ) : List ρ :=
  rows.filter fun row => !refersTo foreign key deleted row

theorem refersTo_iff {deleted : List π} {row : ρ} :
    refersTo foreign key deleted row = true ↔ ∃ parent ∈ deleted, key parent = foreign row := by
  simp [refersTo]

/-- Nothing is left without its parent. -/
theorem References.cascade (h : References foreign key rows parents) (p : π → Bool) :
    References foreign key (cascade foreign key (parents.filter p) rows) (parents.filter fun parent => !p parent) := by
  intro row hrow
  obtain ⟨hrow, hleft⟩ := List.mem_filter.1 hrow
  obtain ⟨parent, hparent, hkey⟩ := h row hrow
  refine ⟨parent, List.mem_filter.2 ⟨hparent, ?_⟩, hkey⟩
  by_contra hp
  have hp : p parent = true := by simpa using hp
  have hrefers : refersTo foreign key (parents.filter p) row = true :=
    refersTo_iff.2 ⟨parent, List.mem_filter.2 ⟨hparent, hp⟩, hkey⟩
  rw [hrefers] at hleft
  cases hleft

/-- A row whose parent is not deleted is left. -/
theorem mem_cascade (hkey : UniqueOn key parents) {p : π → Bool} {row : ρ} (hrow : row ∈ rows) {parent : π}
    (hparent : parent ∈ parents) (hforeign : key parent = foreign row) (hp : p parent = false) :
    row ∈ cascade foreign key (parents.filter p) rows := by
  refine List.mem_filter.2 ⟨hrow, ?_⟩
  rw [Bool.not_eq_true', Bool.eq_false_iff]
  intro hrefers
  obtain ⟨other, hother, heq⟩ := refersTo_iff.1 hrefers
  obtain ⟨hother, hdeleted⟩ := List.mem_filter.1 hother
  obtain rfl := hkey.eq_of_mem hother hparent (heq.trans hforeign.symm)
  rw [hp] at hdeleted
  cases hdeleted

end Cascade

end Relational
