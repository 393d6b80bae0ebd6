import Mathlib.Data.List.Dedup
import Mathlib.Data.List.DropRight

/-!
# Lists of what is recent

A list that keeps what is recent grows at its end, each value at most once (`addNew`), and is then cut to its last `n`
entries (`rtake`).  `news` are the values that are added, in their order: no two of them are the same and none has been
there (`nodup_news`, `mem_news`).

Adding the same values again to what has been cut changes nothing exactly if none of them has been cut off
(`rtake_addNew_again_iff`), which says something about the list before it has been cut: the new values are no more than
`n`, and the old ones stand near enough to its end (`forall_mem_rtake_addNew_iff`).
-/

namespace Recent

variable {α : Type*} {n : Nat}

/-! ### The last entries -/

theorem length_rtake (l : List α) (n : Nat) : (l.rtake n).length = min n l.length := by
  rw [List.rtake, List.length_drop]
  omega

theorem rtake_of_length_le {l : List α} (h : l.length ≤ n) : l.rtake n = l := by
  rw [List.rtake, Nat.sub_eq_zero_of_le h, List.drop_zero]

/-- The last entries of a list with another one after it. -/
theorem rtake_append (l l' : List α) (n : Nat) : (l ++ l').rtake n = l.rtake (n - l'.length) ++ l'.rtake n := by
  have hlast : l.length + l'.length - n - l.length = l'.length - n := by omega
  rw [List.rtake, List.length_append, List.drop_append, hlast, List.rtake, List.rtake]
  by_cases h : n ≤ l'.length
  · -- Nothing of the first list is left.
    rw [List.drop_eq_nil_of_le (by omega), Nat.sub_eq_zero_of_le h, Nat.sub_zero, List.drop_length]
  · have hfirst : l.length + l'.length - n = l.length - (n - l'.length) := by omega
    rw [hfirst]

theorem getLast?_rtake (l : List α) (hn : 0 < n) : (l.rtake n).getLast? = l.getLast? := by
  rcases List.eq_nil_or_concat' l with rfl | ⟨start, a, rfl⟩
  · rw [List.rtake_nil]
  · have hone : [a].rtake n = [a] := rtake_of_length_le hn
    rw [rtake_append, hone, List.getLast?_concat, List.getLast?_concat]

/-- Without repetitions, what is cut off is not left. -/
theorem head_not_mem_rtake {a : α} {l : List α} (hl : (a :: l).Nodup) (h : n < (a :: l).length) :
    a ∉ (a :: l).rtake n := by
  have hcut : (a :: l).length - n = l.length - n + 1 := by
    rw [List.length_cons] at h ⊢
    omega
  rw [List.rtake, hcut, List.drop_succ_cons]
  exact fun hmem => (List.nodup_cons.1 hl).1 (List.mem_of_mem_drop hmem)

/-! ### New values -/

variable [DecidableEq α] {existing next : List α}

/-- The values of `next` that are not there yet go to the end. -/
def addNew (existing next : List α) : List α :=
  next.foldl (fun merged a => if a ∈ merged then merged else merged ++ [a]) existing

/-- The values of `next` that are not there yet, each one once. -/
def news (existing : List α) : List α → List α
  | [] => []
  | a :: next => if a ∈ existing then news existing next else a :: news (existing ++ [a]) next

theorem addNew_eq (existing next : List α) : addNew existing next = existing ++ news existing next := by
  unfold addNew
  induction next generalizing existing with
  | nil => simp [news]
  | cons a next ih =>
    rw [List.foldl_cons, ih, news]
    split_ifs
    · rfl
    · simp

theorem mem_news {a : α} : a ∈ news existing next ↔ a ∈ next ∧ a ∉ existing := by
  induction next generalizing existing with
  | nil => simp [news]
  | cons b next ih =>
    rw [news, List.mem_cons]
    split_ifs with hb
    · rw [ih]
      constructor
      · exact fun h => ⟨.inr h.1, h.2⟩
      · rintro ⟨rfl | hnext, hnot⟩
        · exact absurd hb hnot
        · exact ⟨hnext, hnot⟩
    · rw [List.mem_cons, ih, List.mem_append, List.mem_singleton]
      by_cases hab : a = b
      · subst hab
        simp [hb]
      · simp [hab]

theorem nodup_news (existing next : List α) : (news existing next).Nodup := by
  induction next generalizing existing with
  | nil => exact .nil
  | cons a next ih =>
    rw [news]
    split_ifs
    · exact ih existing
    · refine List.nodup_cons.2 ⟨?_, ih _⟩
      rw [mem_news]
      simp

theorem length_news : (news existing next).length = (next.filter fun a => a ∉ existing).dedup.length := by
  apply List.Perm.length_eq
  rw [List.perm_ext_iff_of_nodup (nodup_news existing next) (List.nodup_dedup _)]
  intro a
  simp [mem_news]

/-- What is there already is not added. -/
theorem addNew_of_subset (h : ∀ a ∈ next, a ∈ existing) : addNew existing next = existing := by
  have hnone : news existing next = [] := by
    rw [List.eq_nil_iff_forall_not_mem]
    intro a ha
    rw [mem_news] at ha
    exact ha.2 (h a ha.1)
  rw [addNew_eq, hnone, List.append_nil]

theorem addNew_append (existing next next' : List α) :
    addNew existing (next ++ next') = addNew (addNew existing next) next' := List.foldl_append

/-! ### Adding the same values again -/

/-- The values are added again to what has been cut: nothing changes exactly if all of them are left there. -/
theorem rtake_addNew_again_iff (hn : 0 < n) :
    (addNew ((addNew existing next).rtake n) next).rtake n = (addNew existing next).rtake n ↔
      ∀ a ∈ next, a ∈ (addNew existing next).rtake n := by
  generalize hrecent : (addNew existing next).rtake n = recent
  have hshort : recent.length ≤ n := by
    rw [← hrecent, length_rtake]
    exact Nat.min_le_left _ _
  constructor
  · intro h
    by_contra hnot
    have hne : news recent next ≠ [] := by
      intro hnil
      refine hnot fun a ha => ?_
      by_contra hnew
      have hmem : a ∈ news recent next := mem_news.2 ⟨ha, hnew⟩
      rw [hnil] at hmem
      cases hmem
    -- The last value that is added stands at the end afterwards.
    have hlast : recent.getLast? = some ((news recent next).getLast hne) := by
      have hend := congrArg List.getLast? h
      rw [getLast?_rtake _ hn, addNew_eq, List.getLast?_append, List.getLast?_eq_some_getLast hne] at hend
      exact hend.symm
    exact (mem_news.1 (List.getLast_mem hne)).2 (List.mem_of_getLast? hlast)
  · intro h
    rw [addNew_of_subset h, rtake_of_length_le hshort]

/-- All values are left after the cut exactly if the new ones are no more than `n` and the old ones are near the end. -/
theorem forall_mem_rtake_addNew_iff :
    (∀ a ∈ next, a ∈ (addNew existing next).rtake n) ↔
      (news existing next).length ≤ n ∧
        ∀ a ∈ next, a ∈ existing → a ∈ existing.rtake (n - (news existing next).length) := by
  rw [addNew_eq, rtake_append]
  have hnodup := nodup_news existing next
  have hnews : ∀ {a}, a ∈ news existing next → a ∈ next ∧ a ∉ existing := mem_news.1
  have hmem : ∀ {a}, a ∈ next → a ∉ existing → a ∈ news existing next := fun ha hnot => mem_news.2 ⟨ha, hnot⟩
  generalize news existing next = added at hnodup hnews hmem ⊢
  constructor
  · intro h
    have hfits : added.length ≤ n := by
      by_contra hlong
      cases added with
      | nil => exact hlong (Nat.zero_le n)
      | cons a added =>
        obtain ⟨hnext, hnot⟩ := hnews List.mem_cons_self
        rcases List.mem_append.1 (h a hnext) with hold | hnew
        · exact hnot (List.mem_of_mem_drop hold)
        · exact head_not_mem_rtake hnodup (by omega) hnew
    refine ⟨hfits, fun a ha hold => ?_⟩
    rw [rtake_of_length_le hfits] at h
    rcases List.mem_append.1 (h a ha) with hleft | hnew
    · exact hleft
    · exact absurd hold (hnews hnew).2
  · rintro ⟨hfits, hold⟩ a ha
    rw [rtake_of_length_le hfits, List.mem_append]
    by_cases hexisting : a ∈ existing
    · exact .inl (hold a ha hexisting)
    · exact .inr (hmem ha hexisting)

end Recent
