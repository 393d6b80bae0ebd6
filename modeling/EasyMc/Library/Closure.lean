import Mathlib.Data.Set.Insert

/-!
# Closing a set under a relation

`grow r s` adds to a set what its members are related to.  One round makes the set closed exactly if what it added is
related to nothing else (`closedUnder_grow_iff`).
-/

namespace Closure

variable {α : Type*} {r : α → α → Prop} {s : Set α}

/-- Whatever a member is related to is a member. -/
def ClosedUnder (r : α → α → Prop) (s : Set α) : Prop := ∀ a ∈ s, ∀ b, r a b → b ∈ s

/-- The members and what they are related to. -/
def grow (r : α → α → Prop) (s : Set α) : Set α := {b | b ∈ s ∨ ∃ a ∈ s, r a b}

theorem mem_grow {b : α} : b ∈ grow r s ↔ b ∈ s ∨ ∃ a ∈ s, r a b := Iff.rfl

theorem subset_grow : s ⊆ grow r s := fun _ h => .inl h

theorem closedUnder_grow_iff :
    ClosedUnder r (grow r s) ↔ ∀ a ∈ s, ∀ b, r a b → b ∉ s → ∀ c, r b c → c ∈ grow r s := by
  constructor
  · intro h a ha b hab _ c hbc
    exact h b (.inr ⟨a, ha, hab⟩) c hbc
  · intro h b hb c hbc
    by_cases hs : b ∈ s
    · exact .inr ⟨b, hs, hbc⟩
    · rcases hb with hb | ⟨a, ha, hab⟩
      · exact absurd hb hs
      · exact h a ha b hab hs c hbc

end Closure
