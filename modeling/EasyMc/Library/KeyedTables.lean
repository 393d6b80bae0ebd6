import EasyMc.Library.JsMap
import EasyMc.Library.Tables

/-!
# Tables and maps

A table whose rows are the values of an insertion-ordered map under their own key.  Selecting by the key is a lookup
(`KeyedBy.select`), an upsert is a `set` (`KeyedBy.upsert_new`, `KeyedBy.upsert_old`), and the key is unique
(`KeyedBy.uniqueOn`).
-/

namespace Relational

variable {ρ κ : Type*} [DecidableEq κ] {key : ρ → κ} {m : JsMap κ ρ}

/-- Every row is stored under its key. -/
def KeyedBy (key : ρ → κ) (m : JsMap κ ρ) : Prop := ∀ k row, m.get k = some row → key row = k

theorem KeyedBy.empty : KeyedBy key (JsMap.empty : JsMap κ ρ) := fun _ _ h => nomatch h

theorem KeyedBy.set (h : KeyedBy key m) (row : ρ) : KeyedBy key (m.set (key row) row) := by
  intro k r hk
  rcases JsMap.get_set_cases hk with ⟨hkey, rfl⟩ | ⟨-, hk⟩
  · exact hkey
  · exact h k r hk

theorem KeyedBy.of_mem (h : KeyedBy key m) {e : κ × ρ} (he : e ∈ m.entries) : key e.2 = e.1 :=
  h e.1 e.2 (JsMap.mem_entries_iff.1 he)

theorem KeyedBy.map_key (h : KeyedBy key m) : m.values.map key = m.keys := by
  unfold JsMap.values JsMap.keys
  rw [List.map_map]
  exact List.map_congr_left fun e he => h.of_mem he

theorem KeyedBy.uniqueOn (h : KeyedBy key m) : UniqueOn key m.values := by
  unfold UniqueOn
  rw [h.map_key]
  exact m.nodupKeys

theorem KeyedBy.mem_values (h : KeyedBy key m) {row : ρ} : row ∈ m.values ↔ m.get (key row) = some row := by
  rw [JsMap.mem_values_iff]
  constructor
  · rintro ⟨k, hk⟩
    rw [h k row hk]
    exact hk
  · intro hk
    exact ⟨key row, hk⟩

/-- Selecting by the key is a lookup. -/
theorem KeyedBy.select (h : KeyedBy key m) (k : κ) : select key k m.values = (m.get k).toList := by
  have hlength := h.uniqueOn.length_select_le k
  cases hk : m.get k with
  | none =>
    rw [Option.toList_none, List.eq_nil_iff_forall_not_mem]
    intro row hrow
    obtain ⟨hmem, rfl⟩ := mem_select.1 hrow
    rw [h.mem_values, hk] at hmem
    cases hmem
  | some row =>
    have hkey : key row = k := h k row hk
    have hrow : row ∈ Relational.select key k m.values := mem_select.2 ⟨h.mem_values.2 (hkey ▸ hk), hkey⟩
    match hrows : Relational.select key k m.values with
    | [] =>
      rw [hrows] at hrow
      cases hrow
    | [other] =>
      rw [hrows] at hrow
      obtain rfl := List.mem_singleton.1 hrow
      rfl
    | _ :: _ :: _ =>
      rw [hrows] at hlength
      simp at hlength

theorem KeyedBy.head_select (h : KeyedBy key m) (k : κ) : (Relational.select key k m.values).head? = m.get k := by
  rw [h.select k]
  cases m.get k <;> rfl

private theorem map_snd_setEntry_new {k : κ} {v : ρ} {entries : List (κ × ρ)} (hk : k ∉ entries.map Prod.fst) :
    (JsMap.setEntry k v entries).map Prod.snd = entries.map Prod.snd ++ [v] := by
  induction entries with
  | nil => rfl
  | cons e entries ih =>
    rw [List.map_cons, List.mem_cons, not_or] at hk
    rw [JsMap.setEntry, if_neg (Ne.symm hk.1), List.map_cons, ih hk.2]
    rfl

private theorem map_snd_setEntry_old {k : κ} {v : ρ} {entries : List (κ × ρ)} (hnodup : (entries.map Prod.fst).Nodup)
    (hkey : ∀ e ∈ entries, key e.2 = e.1) (hk : k ∈ entries.map Prod.fst) :
    (JsMap.setEntry k v entries).map Prod.snd = (entries.map Prod.snd).map fun old => if key old = k then v else old := by
  induction entries with
  | nil => cases hk
  | cons e entries ih =>
    obtain ⟨k', old⟩ := e
    rw [List.map_cons, List.nodup_cons] at hnodup
    have hold : key old = k' := hkey (k', old) List.mem_cons_self
    unfold JsMap.setEntry
    by_cases hkk : k' = k
    · subst hkk
      have hrest : ∀ row ∈ entries.map Prod.snd, (if key row = k' then v else row) = row := by
        intro row hrow
        obtain ⟨e, he, rfl⟩ := List.mem_map.1 hrow
        have hne : key e.2 ≠ k' := by
          rw [hkey e (List.mem_cons_of_mem _ he)]
          exact fun h => hnodup.1 (List.mem_map.2 ⟨e, he, h⟩)
        exact if_neg hne
      rw [if_pos rfl, List.map_cons, List.map_cons, List.map_cons, if_pos hold, List.map_congr_left hrest, List.map_id']
    · have hmem : k ∈ entries.map Prod.fst := by
        rcases List.mem_cons.1 hk with rfl | hmem
        · exact absurd rfl hkk
        · exact hmem
      rw [if_neg hkk, List.map_cons, List.map_cons, List.map_cons,
        if_neg (by rw [hold]; exact hkk), ih hnodup.2 (fun e he => hkey e (List.mem_cons_of_mem _ he)) hmem]

/-- A row with a new key is appended. -/
theorem KeyedBy.values_set_new {row : ρ} (hnew : m.get (key row) = none) :
    (m.set (key row) row).values = m.values ++ [row] := by
  refine map_snd_setEntry_new ?_
  intro hk
  obtain ⟨e, he, hkey⟩ := List.mem_map.1 hk
  have hget := JsMap.mem_entries_iff.1 (show (e.1, e.2) ∈ m.entries from he)
  rw [hkey, hnew] at hget
  cases hget

/-- A row that is stored again takes the place of the old one, as an update that makes it of the old one would. -/
theorem KeyedBy.values_set_old (h : KeyedBy key m) {row old : ρ} (hold : m.get (key row) = some old) {update : ρ → ρ}
    (hupdate : update old = row) : (m.set (key row) row).values = upsert key row update m.values := by
  have hmem : old ∈ m.values := JsMap.mem_values_iff.2 ⟨_, hold⟩
  have hkey : key old = key row := h _ _ hold
  have hany : (m.values.any fun r => decide (key r = key row)) = true :=
    List.any_eq_true.2 ⟨old, hmem, decide_eq_true hkey⟩
  unfold upsert
  rw [if_pos hany]
  refine (map_snd_setEntry_old m.nodupKeys (fun e he => h.of_mem he) ?_).trans ?_
  · exact List.mem_map.2 ⟨(key row, old), JsMap.mem_entries_iff.2 hold, rfl⟩
  · refine List.map_congr_left fun r hr => ?_
    split
    · rename_i hr'
      obtain rfl := h.uniqueOn.eq_of_mem hr hmem (hr'.trans hkey.symm)
      exact hupdate.symm
    · rfl

/-! ### A table of the values -/

/-- The rows of a table are the values of a map under their keys. -/
structure Lists (key : ρ → κ) (m : JsMap κ ρ) (rows : List ρ) : Prop where
  keyed : KeyedBy key m
  rows_eq : rows = m.values

namespace Lists

variable {rows : List ρ}

theorem empty : Lists key (JsMap.empty : JsMap κ ρ) [] := ⟨.empty, rfl⟩

theorem mem_iff (h : Lists key m rows) {row : ρ} : row ∈ rows ↔ m.get (key row) = some row := by
  rw [h.rows_eq]
  exact h.keyed.mem_values

theorem mem_of_get (h : Lists key m rows) {k : κ} {row : ρ} (hk : m.get k = some row) : row ∈ rows ∧ key row = k := by
  have hkey := h.keyed k row hk
  exact ⟨h.mem_iff.2 (hkey ▸ hk), hkey⟩

theorem head_select (h : Lists key m rows) (k : κ) : (Relational.select key k rows).head? = m.get k := by
  rw [h.rows_eq]
  exact h.keyed.head_select k

/-- A row with a new key is stored at the end. -/
theorem set_new (h : Lists key m rows) {row : ρ} (hnew : m.get (key row) = none) :
    Lists key (m.set (key row) row) (rows ++ [row]) := by
  refine ⟨h.keyed.set row, ?_⟩
  rw [h.rows_eq]
  exact (KeyedBy.values_set_new hnew).symm

/-- A row that is stored again takes the place of the old one. -/
theorem set_old (h : Lists key m rows) {row old : ρ} (hold : m.get (key row) = some old) {update : ρ → ρ}
    (hupdate : update old = row) : Lists key (m.set (key row) row) (upsert key row update rows) := by
  refine ⟨h.keyed.set row, ?_⟩
  rw [h.rows_eq, h.keyed.values_set_old hold hupdate]

end Lists

/-! ### What an upsert keeps -/

section Upsert

variable {π γ : Type*} {row : ρ} {update : ρ → ρ} {rows : List ρ}

theorem select_eq_nil {k : κ} : Relational.select key k rows = [] ↔ ∀ r ∈ rows, key r ≠ k := by
  simp [Relational.select, List.filter_eq_nil_iff]

theorem upsert_of_new (hnew : Relational.select key (key row) rows = []) :
    upsert key row update rows = rows ++ [row] := by
  have hany : ¬ (rows.any fun old => decide (key old = key row)) = true := by
    intro h
    obtain ⟨r, hr, hkey⟩ := List.any_eq_true.1 h
    exact select_eq_nil.1 hnew r hr (of_decide_eq_true hkey)
  unfold upsert
  rw [if_neg hany]

theorem upsert_of_old (hold : Relational.select key (key row) rows ≠ []) :
    upsert key row update rows = rows.map fun old => if key old = key row then update old else old := by
  have hany : (rows.any fun old => decide (key old = key row)) = true := by
    by_contra h
    refine hold (select_eq_nil.2 fun r hr hkey => h ?_)
    exact List.any_eq_true.2 ⟨r, hr, decide_eq_true hkey⟩
  unfold upsert
  rw [if_pos hany]

/-- A row after an upsert was added, or it was there before or is the update of one that was. -/
theorem mem_upsert {r : ρ} (hr : r ∈ upsert key row update rows) :
    r = row ∧ Relational.select key (key row) rows = [] ∨
      ∃ old ∈ rows, r = old ∨ key old = key row ∧ r = update old := by
  by_cases h : Relational.select key (key row) rows = []
  · rw [upsert_of_new h, List.mem_append, List.mem_singleton] at hr
    rcases hr with hr | rfl
    · exact .inr ⟨r, hr, .inl rfl⟩
    · exact .inl ⟨rfl, h⟩
  · rw [upsert_of_old h] at hr
    obtain ⟨old, hold, rfl⟩ := List.mem_map.1 hr
    refine .inr ⟨old, hold, ?_⟩
    split
    · rename_i hkey
      exact .inr ⟨hkey, rfl⟩
    · exact .inl rfl

/-- A row that was there is there after an upsert, or its update is. -/
theorem mem_upsert_of_mem {old : ρ} (hold : old ∈ rows) :
    (if key old = key row then update old else old) ∈ upsert key row update rows := by
  by_cases h : Relational.select key (key row) rows = []
  · rw [upsert_of_new h, if_neg (select_eq_nil.1 h old hold)]
    exact List.mem_append_left _ hold
  · rw [upsert_of_old h]
    exact List.mem_map_of_mem hold

/-- What an update keeps of a row is still there after an upsert. -/
theorem exists_mem_upsert (column : ρ → γ) (hcolumn : ∀ old, column (update old) = column old) {old : ρ}
    (hold : old ∈ rows) : ∃ r ∈ upsert key row update rows, column r = column old := by
  refine ⟨_, mem_upsert_of_mem hold, ?_⟩
  split
  · exact hcolumn old
  · rfl

/-- An upsert keeps a column unique that the update keeps and that a new row does not repeat. -/
theorem UniqueOn.upsert {column : ρ → γ} (h : UniqueOn column rows)
    (hupdate : ∀ old ∈ rows, key old = key row → column (update old) = column old)
    (hnew : Relational.select key (key row) rows = [] → ∀ old ∈ rows, column old ≠ column row) :
    UniqueOn column (Relational.upsert key row update rows) := by
  by_cases hrows : Relational.select key (key row) rows = []
  · rw [upsert_of_new hrows]
    exact h.append (hnew hrows)
  · rw [upsert_of_old hrows]
    refine h.map fun old hold => ?_
    split
    · rename_i hkey
      exact hupdate old hold hkey
    · rfl

/-- An upsert of the referring rows keeps a reference that the update keeps and that a new row has. -/
theorem References.upsert {foreign : ρ → γ} {parentKey : π → γ} {parents : List π}
    (h : References foreign parentKey rows parents)
    (hupdate : ∀ old ∈ rows, key old = key row → foreign (update old) = foreign old)
    (hnew : Relational.select key (key row) rows = [] → ∃ parent ∈ parents, parentKey parent = foreign row) :
    References foreign parentKey (Relational.upsert key row update rows) parents := by
  intro r hr
  rcases mem_upsert hr with ⟨rfl, hrows⟩ | ⟨old, hold, rfl | ⟨hkey, rfl⟩⟩
  · exact hnew hrows
  · exact h r hold
  · rw [hupdate old hold hkey]
    exact h old hold

/-- An upsert of the rows referred to keeps a reference whose key the update keeps. -/
theorem References.upsert_parents {children : List π} {foreign : π → γ} {column : ρ → γ}
    (h : References foreign column children rows)
    (hupdate : ∀ old ∈ rows, key old = key row → column (update old) = column old) :
    References foreign column children (Relational.upsert key row update rows) := by
  intro child hchild
  obtain ⟨parent, hparent, hkey⟩ := h child hchild
  refine ⟨_, mem_upsert_of_mem hparent, ?_⟩
  split
  · rename_i hsame
    rw [hupdate parent hparent hsame]
    exact hkey
  · exact hkey

/-! The same through a view of the rows. -/

section View

variable {δ : Type*} {view : ρ → π}

omit [DecidableEq κ] in
theorem uniqueOn_map {column : π → γ} : UniqueOn column (rows.map view) ↔ UniqueOn (fun row => column (view row)) rows := by
  unfold UniqueOn
  rw [List.map_map]
  rfl

omit [DecidableEq κ] in
theorem references_map_rows {foreign : π → γ} {parentKey : δ → γ} {parents : List δ} :
    References foreign parentKey (rows.map view) parents ↔
      References (fun row => foreign (view row)) parentKey rows parents := by
  unfold References
  rw [List.forall_mem_map]

omit [DecidableEq κ] in
theorem references_map_parents {foreign : δ → γ} {column : π → γ} {children : List δ} :
    References foreign column children (rows.map view) ↔
      References foreign (fun row => column (view row)) children rows := by
  unfold References
  simp only [List.mem_map, exists_exists_and_eq_and]

theorem UniqueOn.upsert_map {column : π → γ} (h : UniqueOn column (rows.map view))
    (hupdate : ∀ old ∈ rows, key old = key row → column (view (update old)) = column (view old))
    (hnew : Relational.select key (key row) rows = [] → ∀ old ∈ rows, column (view old) ≠ column (view row)) :
    UniqueOn column ((Relational.upsert key row update rows).map view) :=
  uniqueOn_map.2 ((uniqueOn_map.1 h).upsert hupdate hnew)

theorem References.upsert_map {foreign : π → γ} {parentKey : δ → γ} {parents : List δ}
    (h : References foreign parentKey (rows.map view) parents)
    (hupdate : ∀ old ∈ rows, key old = key row → foreign (view (update old)) = foreign (view old))
    (hnew : Relational.select key (key row) rows = [] → ∃ parent ∈ parents, parentKey parent = foreign (view row)) :
    References foreign parentKey ((Relational.upsert key row update rows).map view) parents :=
  references_map_rows.2 ((references_map_rows.1 h).upsert hupdate hnew)

theorem References.upsert_parents_map {foreign : δ → γ} {column : π → γ} {children : List δ}
    (h : References foreign column children (rows.map view))
    (hupdate : ∀ old ∈ rows, key old = key row → column (view (update old)) = column (view old)) :
    References foreign column children ((Relational.upsert key row update rows).map view) :=
  references_map_parents.2 ((references_map_parents.1 h).upsert_parents hupdate)

end View

end Upsert

end Relational
