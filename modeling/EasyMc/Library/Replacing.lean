import Mathlib.Data.List.Infix
import EasyMc.Library.Text

/-!
# Replacing a part of a text

`replaceAll part replacement` goes through a text from left to right and puts `replacement` where it finds `part`.
`replaceGiven` does so for several parts that may be missing, one after the other.

A replacement in brackets joins nothing to what stands around it: a word without brackets that stands in the result stands
within the brackets of a replacement, or has stood in the text before, and then does not contain the part
(`infix_replaceAll`).  So a part that is replaced at its turn does not come back later (`includes_replaceGiven`).
-/

namespace Replacing

variable {α : Type*}

/-! ### Words and brackets -/

/-- A word that starts a text with an entry it does not have starts what stands before the entry. -/
theorem prefix_of_prefix_append_cons {word before after : List α} {stop : α} (hstop : stop ∉ word)
    (h : word <+: before ++ stop :: after) : word <+: before := by
  induction before generalizing word with
  | nil =>
    cases word with
    | nil => exact List.nil_prefix
    | cons a word =>
      rw [List.nil_append, List.cons_prefix_cons] at h
      exact absurd (h.1 ▸ List.mem_cons_self) hstop
  | cons b before ih =>
    cases word with
    | nil => exact List.nil_prefix
    | cons a word =>
      rw [List.cons_append, List.cons_prefix_cons] at h
      exact List.cons_prefix_cons.2 ⟨h.1, ih (fun hmem => hstop (List.mem_cons_of_mem a hmem)) h.2⟩

/-- A word stands before or after an entry it does not have. -/
theorem infix_append_cons {word before after : List α} {stop : α} (hstop : stop ∉ word)
    (h : word <:+: before ++ stop :: after) : word <:+: before ∨ word <:+: after := by
  induction before with
  | nil =>
    rcases List.infix_cons_iff.1 h with hstart | hafter
    · have hnil : word <+: [] ++ stop :: after := hstart
      exact .inl (prefix_of_prefix_append_cons hstop hnil).isInfix
    · exact .inr hafter
  | cons b before ih =>
    rw [List.cons_append, List.infix_cons_iff] at h
    rcases h with hstart | hlater
    · have hcons : word <+: (b :: before) ++ stop :: after := hstart
      exact .inl (prefix_of_prefix_append_cons hstop hcons).isInfix
    · exact (ih hlater).imp_left fun hbefore => List.infix_cons_iff.2 (.inr hbefore)

/-- A word without brackets in a text with brackets around it stands between them. -/
theorem infix_of_infix_brackets {word body : List α} {first last : α} (hword : word ≠ []) (hfirst : first ∉ word)
    (hlast : last ∉ word) (h : word <:+: first :: (body ++ [last])) : word <:+: body := by
  have hbrackets : word <:+: [] ++ first :: (body ++ [last]) := h
  rcases infix_append_cons hfirst hbrackets with hbefore | hrest
  · exact absurd (List.infix_nil.1 hbefore) hword
  · rcases infix_append_cons hlast hrest with hbody | hafter
    · exact hbody
    · exact absurd (List.infix_nil.1 hafter) hword

/-! ### Replacing -/

variable [DecidableEq α]

/-- The text from here on, when as many entries as `skipped` belong to a part that has been replaced. -/
def replaceFrom (part replacement : List α) : Nat → List α → List α
  | _, [] => []
  | skipped + 1, _ :: text => replaceFrom part replacement skipped text
  | 0, a :: text =>
    if part <+: a :: text then replacement ++ replaceFrom part replacement (part.length - 1) text
    else a :: replaceFrom part replacement 0 text

/-- The text with `replacement` for every occurrence of a part, which is not empty. -/
def replaceAll (part replacement text : List α) : List α := replaceFrom part replacement 0 text

variable {part body word : List α} {first last : α} {skipped : Nat} {text : List α}

/-- A word without the opening bracket that starts the result starts the text, and does not contain the part. -/
theorem prefix_replaceFrom (hpart : part ≠ []) (hfirst : first ∉ word)
    (h : word <+: replaceFrom part (first :: body) 0 text) : word <+: text ∧ ¬ part <:+: word := by
  induction text generalizing word with
  | nil =>
    rw [replaceFrom, List.prefix_nil] at h
    subst h
    exact ⟨List.nil_prefix, fun hempty => hpart (List.infix_nil.1 hempty)⟩
  | cons a text ih =>
    cases word with
    | nil => exact ⟨List.nil_prefix, fun hempty => hpart (List.infix_nil.1 hempty)⟩
    | cons b word =>
      rw [replaceFrom] at h
      split_ifs at h with hfound
      · rw [List.cons_append, List.cons_prefix_cons] at h
        exact absurd (h.1 ▸ List.mem_cons_self) hfirst
      · rw [List.cons_prefix_cons] at h
        obtain ⟨rfl, hrest⟩ := h
        obtain ⟨hstart, hnot⟩ := ih (fun hmem => hfirst (List.mem_cons_of_mem b hmem)) hrest
        have hword : b :: word <+: b :: text := List.cons_prefix_cons.2 ⟨rfl, hstart⟩
        refine ⟨hword, fun hstands => ?_⟩
        rcases List.infix_cons_iff.1 hstands with hhere | hlater
        · exact hfound (hhere.trans hword)
        · exact hnot hlater

theorem infix_replaceFrom (hpart : part ≠ []) (hfirst : first ∉ word) (hlast : last ∉ word)
    (h : word <:+: replaceFrom part (first :: (body ++ [last])) skipped text) :
    word <:+: body ∨ (word <:+: text ∧ ¬ part <:+: word) := by
  induction text generalizing skipped with
  | nil =>
    rw [replaceFrom, List.infix_nil] at h
    subst h
    exact .inr ⟨List.infix_rfl, fun hempty => hpart (List.infix_nil.1 hempty)⟩
  | cons a text ih =>
    have hlater : ∀ {n}, word <:+: replaceFrom part (first :: (body ++ [last])) n text →
        word <:+: body ∨ (word <:+: a :: text ∧ ¬ part <:+: word) := fun hstands =>
      (ih hstands).imp_right fun hrest => ⟨List.infix_cons_iff.2 (.inr hrest.1), hrest.2⟩
    cases skipped with
    | succ skipped => exact hlater h
    | zero =>
      by_cases hfound : part <+: a :: text
      · rw [replaceFrom, if_pos hfound, List.cons_append, List.append_assoc, List.singleton_append] at h
        -- The word stands before, within or after the brackets.
        have hbrackets : word <:+: [] ++ first :: (body ++ last :: replaceFrom part (first :: (body ++ [last]))
            (part.length - 1) text) := h
        rcases infix_append_cons hfirst hbrackets with hbefore | hrest
        · rw [List.infix_nil] at hbefore
          subst hbefore
          exact .inl (List.nil_infix)
        · rcases infix_append_cons hlast hrest with hbody | hafter
          · exact .inl hbody
          · exact hlater hafter
      · have hkept : replaceFrom part (first :: (body ++ [last])) 0 (a :: text) =
            a :: replaceFrom part (first :: (body ++ [last])) 0 text := by rw [replaceFrom, if_neg hfound]
        rcases List.infix_cons_iff.1 (hkept ▸ h) with hstart | hrest
        · obtain ⟨hhere, hnot⟩ := prefix_replaceFrom hpart hfirst (hkept ▸ hstart)
          exact .inr ⟨hhere.isInfix, hnot⟩
        · exact hlater hrest

/-- A word without brackets that stands in the result stands in the brackets of a replacement or in the text, and then
does not contain the part. -/
theorem infix_replaceAll (hpart : part ≠ []) (hfirst : first ∉ word) (hlast : last ∉ word)
    (h : word <:+: replaceAll part (first :: (body ++ [last])) text) :
    word <:+: body ∨ (word <:+: text ∧ ¬ part <:+: word) :=
  infix_replaceFrom hpart hfirst hlast h

/-! ### Several parts -/

/-- `text.replaceAll(part, replacement)`, if there is a part. -/
def replaceIfGiven (text : String) (part : Option String) (replacement : String) : String :=
  match part with
  | some part =>
    if part = "" then text else String.ofList (replaceAll part.toList replacement.toList text.toList)
  | none => text

/-- The parts that are given and their replacements, one after the other. -/
def replaceGiven (rules : List (Option String × String)) (text : String) : String :=
  rules.foldl (fun text rule => replaceIfGiven text rule.1 rule.2) text

/-- A word that stands in none of the brackets stands in the result only if it has stood in the text and is not the part
that is replaced. -/
theorem infix_replaceIfGiven {text replacement : String} {part : Option String} {word : List Char} {first last : Char}
    {body : List Char} (hword : word ≠ []) (hfirst : first ∉ word) (hlast : last ∉ word)
    (hreplacement : replacement.toList = first :: (body ++ [last])) (hbody : ¬ word <:+: body)
    (h : word <:+: (replaceIfGiven text part replacement).toList) :
    word <:+: text.toList ∧ part.map String.toList ≠ some word := by
  cases part with
  | none => exact ⟨h, by simp⟩
  | some part =>
    unfold replaceIfGiven at h
    dsimp only at h
    split_ifs at h with hempty
    · subst hempty
      refine ⟨h, fun heq => hword ?_⟩
      exact (Option.some.inj heq).symm
    · rw [String.toList_ofList, hreplacement] at h
      have hpart : part.toList ≠ [] := fun hnil => hempty (String.toList_eq_nil_iff.1 hnil)
      obtain ⟨htext, hnot⟩ := (infix_replaceAll hpart hfirst hlast h).resolve_left hbody
      refine ⟨htext, fun heq => hnot ?_⟩
      rw [Option.some.inj heq]

theorem infix_replaceGiven {rules : List (Option String × String)} {text : String} {word : List Char} {first last : Char}
    (hword : word ≠ []) (hfirst : first ∉ word) (hlast : last ∉ word)
    (hrules : ∀ rule ∈ rules, ∃ body, rule.2.toList = first :: (body ++ [last]) ∧ ¬ word <:+: body)
    (h : word <:+: (replaceGiven rules text).toList) :
    word <:+: text.toList ∧ ∀ rule ∈ rules, rule.1.map String.toList ≠ some word := by
  induction rules generalizing text with
  | nil => exact ⟨h, by simp⟩
  | cons rule rules ih =>
    rw [List.forall_mem_cons] at hrules
    obtain ⟨⟨body, hreplacement, hbody⟩, hlater⟩ := hrules
    obtain ⟨hstands, hothers⟩ := ih hlater (show word <:+: (replaceGiven rules (replaceIfGiven text rule.1 rule.2)).toList from h)
    obtain ⟨htext, hother⟩ := infix_replaceIfGiven hword hfirst hlast hreplacement hbody hstands
    exact ⟨htext, List.forall_mem_cons.2 ⟨hother, hothers⟩⟩

/-- No part that is given, without brackets and longer than what the replacements have in theirs, is left. -/
theorem includes_replaceGiven {rules : List (Option String × String)} {part : String} {first last : Char}
    (hpart : some part ∈ rules.map Prod.fst) (hne : part.toList ≠ []) (hfirst : first ∉ part.toList)
    (hlast : last ∉ part.toList)
    (hrules : ∀ rule ∈ rules, ∃ body, rule.2.toList = first :: (body ++ [last]) ∧ body.length < part.toList.length)
    (text : String) : Text.includes (replaceGiven rules text) part = false := by
  rw [Text.includes, ← Bool.not_eq_true, Text.contains_iff]
  intro h
  obtain ⟨rule, hrule, hgiven⟩ := List.mem_map.1 hpart
  have hbodies : ∀ rule ∈ rules, ∃ body, rule.2.toList = first :: (body ++ [last]) ∧ ¬ part.toList <:+: body := by
    intro rule hrule
    obtain ⟨body, hreplacement, hshort⟩ := hrules rule hrule
    exact ⟨body, hreplacement, fun hstands => Nat.not_le_of_lt hshort hstands.length_le⟩
  refine (infix_replaceGiven hne hfirst hlast hbodies h).2 rule hrule ?_
  rw [hgiven, Option.map_some]

end Replacing
