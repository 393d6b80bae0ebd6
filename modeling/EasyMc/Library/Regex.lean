import Mathlib.Data.List.Basic

/-!
# Regular expressions

A backtracking matcher in the style of ECMAScript.  `Regex.ends r p` lists the positions at which a match of `r`
from `p` can end, the preferred one first; a group remembers the last text it matched.  `replaceAll` rewrites the
matches of a text from left to right.

A text without the characters that a pattern must consume is left as it is (`replaceAll_of_not_needs`).
-/

/-- A position in a text: what has been read, last character first, what is left, and the groups matched so far. -/
structure Regex.Position where
  before : List Char
  after : List Char
  groups : List (Nat × List Char)

inductive Regex
  | empty
  | char (p : Char → Bool)
  | seq (r s : Regex)
  | alt (r s : Regex)
  /-- From `min` to `max` times, as often as possible. -/
  | rep (r : Regex) (min : Nat) (max : Option Nat)
  | wordBoundary
  | start
  /-- A test of what has been read, last character first, and of what is left. -/
  | look (test : List Char → List Char → Bool)
  | group (index : Nat) (r : Regex)

namespace Regex

/-- `\w`. -/
def isWord (c : Char) : Bool :=
  ('a' ≤ c && c ≤ 'z') || ('A' ≤ c && c ≤ 'Z') || ('0' ≤ c && c ≤ '9') || c = '_'

/-- Repeat a matcher at least `min` and at most `max` times; a repetition that reads nothing is not tried again. -/
def repeatEnds (m : Position → List Position) : Nat → Nat → Option Nat → Position → List Position
  | 0, min, _, p => if min = 0 then [p] else []
  | fuel + 1, min, max, p =>
    let more :=
      if max = some 0 then []
      else
        (m p).flatMap fun q =>
          if min = 0 ∧ q.after.length = p.after.length then []
          else repeatEnds m fuel (min - 1) (max.map (· - 1)) q
    more ++ if min = 0 then [p] else []

/-- The ends of the matches from a position, the preferred one first. -/
def ends (r : Regex) (p : Position) : List Position :=
  match r with
  | .empty => [p]
  | .char f =>
    match p.after with
    | [] => []
    | c :: rest => if f c then [{ p with before := c :: p.before, after := rest }] else []
  | .seq r s => (r.ends p).flatMap s.ends
  | .alt r s => r.ends p ++ s.ends p
  | .rep r min max => repeatEnds r.ends (p.after.length + min) min max p
  | .wordBoundary => if p.before.head?.any isWord = p.after.head?.any isWord then [] else [p]
  | .start => if p.before = [] then [p] else []
  | .look test => if test p.before p.after then [p] else []
  | .group index r =>
    (r.ends p).map fun q =>
      { q with groups := (index, (q.before.take (q.before.length - p.before.length)).reverse) :: q.groups }

/-- `regex.test(text)`. -/
def test (r : Regex) (text : List Char) : Bool := go [] text
where
  go (before : List Char) : List Char → Bool
    | [] => !(r.ends ⟨before, [], []⟩).isEmpty
    | c :: rest => !(r.ends ⟨before, c :: rest, []⟩).isEmpty || go (c :: before) rest

/-- A part of a replacement: a text, or what a group has matched. -/
inductive Part
  | text (text : String)
  | group (index : Nat)

def Part.fill (groups : List (Nat × List Char)) : Part → List Char
  | .text literal => literal.toList
  | .group index => (groups.lookup index).getD []

/-- The first match from a position, when it reads something. -/
def firstMatch (r : Regex) (before after : List Char) : Option Position :=
  (r.ends ⟨before, after, []⟩).head?.filter fun q => q.after.length < after.length

def replaceLoop (r : Regex) (replacement : List Part) : Nat → List Char → List Char → List Char
  | 0, _, after => after
  | _, _, [] => []
  | fuel + 1, before, c :: rest =>
    match r.firstMatch before (c :: rest) with
    | some q => replacement.flatMap (Part.fill q.groups) ++ replaceLoop r replacement fuel q.before q.after
    | none => c :: replaceLoop r replacement fuel (c :: before) rest

/-- Every match of a pattern that reads at least one character is replaced. -/
def replaceAll (r : Regex) (replacement : List Part) (text : List Char) : List Char :=
  replaceLoop r replacement text.length [] text

def replaceByLoop (r : Regex) (f : List Char → List (Nat × List Char) → List Char) :
    Nat → List Char → List Char → List Char
  | 0, _, after => after
  | _, _, [] => []
  | fuel + 1, before, c :: rest =>
    match r.firstMatch before (c :: rest) with
    | some q =>
      let matched := (q.before.take (q.before.length - before.length)).reverse
      f matched q.groups ++ replaceByLoop r f fuel q.before q.after
    | none => c :: replaceByLoop r f fuel (c :: before) rest

/-- Every match of a pattern that reads at least one character is replaced by what a function makes of it and of its
groups. -/
def replaceBy (r : Regex) (f : List Char → List (Nat × List Char) → List Char) (text : List Char) : List Char :=
  replaceByLoop r f text.length [] text

/-! ### Building patterns -/

/-- A character with the property, in any letter case. -/
def ignoreCase (p : Char → Bool) (c : Char) : Bool := p c || p c.toLower || p c.toUpper

def literal : List Char → Regex
  | [] => .empty
  | c :: text => .seq (.char (· = c)) (literal text)

/-- A text in any letter case. -/
def literalI : List Char → Regex
  | [] => .empty
  | c :: text => .seq (.char (ignoreCase (· = c))) (literalI text)

/-- One of several patterns, tried in order. -/
def oneOf : List Regex → Regex
  | [] => .char fun _ => false
  | [r] => r
  | r :: rs => .alt r (oneOf rs)

def all : List Regex → Regex
  | [] => .empty
  | [r] => r
  | r :: rs => .seq r (all rs)

def plus (p : Char → Bool) : Regex := .rep (.char p) 1 none

def star (p : Char → Bool) : Regex := .rep (.char p) 0 none

def optional (r : Regex) : Regex := .rep r 0 (some 1)

def times (p : Char → Bool) (n : Nat) : Regex := .rep (.char p) n (some n)

/-- `$`. -/
def finish : Regex := .look fun _ after => after.isEmpty

/-- `(?<!p)` for a character. -/
def notAfter (p : Char → Bool) : Regex := .look fun before _ => !before.head?.any p

/-- `(?!p)` for a character. -/
def notBefore (p : Char → Bool) : Regex := .look fun _ after => !after.head?.any p

/-! ### Texts that a pattern leaves alone -/

/-- Every match of the pattern reads a character with the property. -/
def Needs (p : Char → Bool) : Regex → Prop
  | .empty => False
  | .char f => ∀ c, f c = true → p c = true
  | .seq r s => r.Needs p ∨ s.Needs p
  | .alt r s => r.Needs p ∧ s.Needs p
  | .rep r min _ => 0 < min ∧ r.Needs p
  | .wordBoundary => False
  | .start => False
  | .look _ => False
  | .group _ r => r.Needs p

/-- What is left is a suffix of what was there. -/
theorem repeatEnds_suffix {m : Position → List Position}
    (hm : ∀ p q, q ∈ m p → q.after <:+ p.after) {fuel min : Nat} {max : Option Nat} {p q : Position}
    (h : q ∈ repeatEnds m fuel min max p) : q.after <:+ p.after := by
  induction fuel generalizing min max p with
  | zero =>
    unfold repeatEnds at h
    split at h
    · obtain rfl := List.mem_singleton.1 h
      exact List.suffix_refl _
    · cases h
  | succ fuel ih =>
    unfold repeatEnds at h
    rcases List.mem_append.1 h with h | h
    · split at h
      · cases h
      · obtain ⟨mid, hmid, h⟩ := List.mem_flatMap.1 h
        split at h
        · cases h
        · exact (ih h).trans (hm p mid hmid)
    · split at h
      · obtain rfl := List.mem_singleton.1 h
        exact List.suffix_refl _
      · cases h

theorem ends_suffix {r : Regex} {p q : Position} (h : q ∈ r.ends p) : q.after <:+ p.after := by
  induction r generalizing p q with
  | empty =>
    obtain rfl := List.mem_singleton.1 h
    exact List.suffix_refl _
  | char f =>
    unfold ends at h
    split at h
    · cases h
    · rename_i c rest hafter
      split at h
      · rw [List.mem_singleton.1 h, hafter]
        exact List.suffix_cons c rest
      · cases h
  | seq r s ihr ihs =>
    obtain ⟨mid, hmid, h⟩ := List.mem_flatMap.1 h
    exact (ihs h).trans (ihr hmid)
  | alt r s ihr ihs => exact (List.mem_append.1 h).elim (fun h => ihr h) (fun h => ihs h)
  | rep r min max ih => exact repeatEnds_suffix (fun p q h => ih h) h
  | wordBoundary =>
    unfold ends at h
    split at h
    · cases h
    · obtain rfl := List.mem_singleton.1 h
      exact List.suffix_refl _
  | start =>
    unfold ends at h
    split at h
    · obtain rfl := List.mem_singleton.1 h
      exact List.suffix_refl _
    · cases h
  | look test =>
    unfold ends at h
    split at h
    · obtain rfl := List.mem_singleton.1 h
      exact List.suffix_refl _
    · cases h
  | group index r ih =>
    obtain ⟨mid, hmid, rfl⟩ := List.mem_map.1 h
    exact ih (q := mid) hmid

theorem ends_eq_nil {r : Regex} {p : Char → Bool} (hneeds : r.Needs p) {pos : Position}
    (hnone : ∀ c ∈ pos.after, p c = false) : r.ends pos = [] := by
  induction r generalizing pos with
  | empty => cases hneeds
  | char f =>
    unfold ends
    split
    · rfl
    · rename_i c rest hafter
      rw [if_neg]
      intro hf
      have := hnone c (by simp [hafter])
      rw [hneeds c hf] at this
      cases this
  | seq r s ihr ihs =>
    rcases hneeds with hr | hs
    · rw [ends, ihr hr hnone, List.flatMap_nil]
    · rw [ends, List.flatMap_eq_nil_iff]
      intro mid hmid
      exact ihs hs fun c hc => hnone c ((ends_suffix hmid).mem hc)
  | alt r s ihr ihs => rw [ends, ihr hneeds.1 hnone, ihs hneeds.2 hnone, List.append_nil]
  | rep r min max ih =>
    have hends := ih hneeds.2 hnone
    have hmin : min ≠ 0 := Nat.pos_iff_ne_zero.1 hneeds.1
    rw [ends]
    cases hfuel : pos.after.length + min with
    | zero => rw [repeatEnds, if_neg hmin]
    | succ fuel => simp [repeatEnds, hends, hmin]
  | wordBoundary => cases hneeds
  | start => cases hneeds
  | look test => cases hneeds
  | group index r ih => rw [ends, ih hneeds hnone, List.map_nil]

/-- A text without the characters that the pattern needs is left alone. -/
theorem replaceAll_of_not_needs {r : Regex} {p : Char → Bool} (hneeds : r.Needs p) (replacement : List Part)
    {text : List Char} (hnone : ∀ c ∈ text, p c = false) : replaceAll r replacement text = text := by
  suffices ∀ fuel before after, (∀ c ∈ after, p c = false) → replaceLoop r replacement fuel before after = after from
    this _ _ _ hnone
  intro fuel
  induction fuel with
  | zero => intro before after _; rfl
  | succ fuel ih =>
    intro before after hafter
    cases after with
    | nil => rfl
    | cons c rest =>
      have hfirst : r.firstMatch before (c :: rest) = none := by
        rw [firstMatch, ends_eq_nil hneeds hafter]
        rfl
      rw [replaceLoop, hfirst, ih (c :: before) rest fun d hd => hafter d (by simp [hd])]

/-- A text without the characters that the pattern needs has no match. -/
theorem test_of_not_needs {r : Regex} {p : Char → Bool} (hneeds : r.Needs p) {text : List Char}
    (hnone : ∀ c ∈ text, p c = false) : r.test text = false := by
  suffices ∀ before after, (∀ c ∈ after, p c = false) → test.go r before after = false from this [] text hnone
  intro before after
  induction after generalizing before with
  | nil =>
    intro hafter
    rw [test.go, ends_eq_nil hneeds hafter]
    rfl
  | cons c rest ih =>
    intro hafter
    rw [test.go, ends_eq_nil hneeds hafter, ih (c :: before) fun d hd => hafter d (by simp [hd])]
    rfl

end Regex
