import Mathlib.Data.List.Basic
import Mathlib.Order.Lattice

/-!
# What expires

A `Lifetime` says which things live at a time; what has expired stays expired.  `keep t` is what lives of a list at
time `t`.  Two lists are the same from `t` on (`SameFrom`) if the same lives of both, in the same order, at every
later time: to drop what has expired from one of them does not part them, so code that looks only at what lives
cannot tell when expired things are dropped.
-/

/-- Which things live at a time. -/
structure Lifetime (T α : Type*) [LinearOrder T] where
  live : T → α → Bool
  antitone : ∀ ⦃t u : T⦄ ⦃a : α⦄, t ≤ u → live u a = true → live t a = true

namespace Lifetime

variable {T α β : Type*} [LinearOrder T]

/-- What lives until its time has come. -/
def before (expiresAt : α → T) : Lifetime T α where
  live t a := decide (t < expiresAt a)
  antitone := by
    intro t u a htu h
    exact decide_eq_true (htu.trans_lt (of_decide_eq_true h))

variable (L : Lifetime T α)

def keep (t : T) (as : List α) : List α := as.filter (L.live t)

/-- The same lives of both lists at every time from `t` on. -/
def SameFrom (t : T) (as bs : List α) : Prop := ∀ u, t ≤ u → L.keep u as = L.keep u bs

variable {L} {t u : T} {as bs cs : List α}

theorem keep_append : L.keep t (as ++ bs) = L.keep t as ++ L.keep t bs := List.filter_append as bs

/-- Of at most one thing, what lives is that thing if it lives. -/
theorem head?_keep (h : as.length ≤ 1) : (L.keep t as).head? = as.head?.filter (L.live t) := by
  match as, h with
  | [], _ => rfl
  | [a], _ =>
    unfold keep
    cases hlive : L.live t a <;> simp [hlive, Option.filter]

namespace SameFrom

theorem refl (L : Lifetime T α) (t : T) (as : List α) : L.SameFrom t as as := fun _ _ => rfl

theorem mono (h : L.SameFrom t as bs) (htu : t ≤ u) : L.SameFrom u as bs := fun v hv => h v (htu.trans hv)

theorem append (h : L.SameFrom t as bs) (cs : List α) : L.SameFrom t (as ++ cs) (bs ++ cs) := by
  intro u hu
  rw [keep_append, keep_append, h u hu]

/-- Dropping what has expired is not seen later. -/
theorem filter_left (h : L.SameFrom t as bs) {p : α → Bool} (hp : ∀ a ∈ as, L.live t a = true → p a = true) :
    L.SameFrom t (as.filter p) bs := by
  intro u hu
  rw [← h u hu]
  unfold keep
  rw [List.filter_filter]
  apply List.filter_congr
  intro a ha
  cases hlive : L.live u a
  · rfl
  · rw [hp a ha (L.antitone hu hlive)]
    rfl

theorem keep_left (h : L.SameFrom t as bs) : L.SameFrom t (L.keep t as) bs := h.filter_left fun _ _ hlive => hlive

theorem keep_eq (h : L.SameFrom t as bs) : L.keep t as = L.keep t bs := h t le_rfl

end SameFrom

end Lifetime
