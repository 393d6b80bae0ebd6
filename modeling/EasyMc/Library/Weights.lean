import EasyMc.Library.JsonTrees
import EasyMc.Library.Regex
import EasyMc.Library.Stringify

/-!
# Weights of texts and values

Each character has a weight, and a text weighs what its characters do.  `Regex.Reads w r n` says that every match of `r`
reads a text of weight `n` at least, and is proved along the pattern.  A replacement pays (`Regex.Pays`) if it weighs no
more than the match that it stands for.  Then a text weighs no more after all of its matches have been replaced than before
(`weight_replaceAll`).  The characters may weigh less afterwards, so that a replacement can be longer than its match.

A JSON value weighs what its strings do, and the bytes of the rest of its text.  A redaction whose texts weigh no more than
before makes no value heavier (`weight_redact_le`).
-/

namespace Text

def weight (w : Char → Nat) (text : List Char) : Nat := (text.map w).sum

variable {w w' d : Char → Nat}

@[simp] theorem weight_nil : weight w [] = 0 := rfl

@[simp] theorem weight_cons (c : Char) (text : List Char) : weight w (c :: text) = w c + weight w text := by
  simp [weight]

@[simp] theorem weight_append (text text' : List Char) : weight w (text ++ text') = weight w text + weight w text' := by
  simp [weight]

theorem weight_le_weight (h : ∀ c, w' c ≤ w c) (text : List Char) : weight w' text ≤ weight w text := by
  induction text with
  | nil => exact Nat.le_refl _
  | cons c text ih =>
    have hc := h c
    rw [weight_cons, weight_cons]
    omega

/-- What a text loses in weight. -/
theorem weight_add_le (h : ∀ c, w' c + d c ≤ w c) (text : List Char) :
    weight w' text + weight d text ≤ weight w text := by
  induction text with
  | nil => exact Nat.le_refl _
  | cons c text ih =>
    have hc := h c
    simp only [weight_cons]
    omega

theorem weight_le_of_suffix {text text' : List Char} (h : text <:+ text') : weight w text ≤ weight w text' := by
  obtain ⟨before, rfl⟩ := h
  rw [weight_append]
  omega

end Text

namespace Regex

open Text (weight weight_nil weight_cons weight_append weight_le_weight weight_add_le weight_le_of_suffix)

variable {w w' d : Char → Nat} {r s : Regex} {a b m n : Nat}

/-! ### What a match reads -/

/-- The text that a match has read is taken from what was left and put before what had been read. -/
theorem repeatEnds_read {ends : Position → List Position}
    (hends : ∀ p q, q ∈ ends p → ∃ read, p.after = read ++ q.after ∧ q.before = read.reverse ++ p.before)
    {fuel min : Nat} {max : Option Nat} {p q : Position} (h : q ∈ repeatEnds ends fuel min max p) :
    ∃ read, p.after = read ++ q.after ∧ q.before = read.reverse ++ p.before := by
  induction fuel generalizing min max p with
  | zero =>
    unfold repeatEnds at h
    split at h
    · obtain rfl := List.mem_singleton.1 h
      exact ⟨[], rfl, rfl⟩
    · cases h
  | succ fuel ih =>
    unfold repeatEnds at h
    rcases List.mem_append.1 h with h | h
    · split at h
      · cases h
      · obtain ⟨mid, hmid, h⟩ := List.mem_flatMap.1 h
        split at h
        · cases h
        · obtain ⟨read, hafter, hbefore⟩ := hends p mid hmid
          obtain ⟨read', hafter', hbefore'⟩ := ih h
          exact ⟨read ++ read', by simp [hafter, hafter'], by simp [hbefore, hbefore']⟩
    · split at h
      · obtain rfl := List.mem_singleton.1 h
        exact ⟨[], rfl, rfl⟩
      · cases h

theorem ends_read {p q : Position} (h : q ∈ r.ends p) :
    ∃ read, p.after = read ++ q.after ∧ q.before = read.reverse ++ p.before := by
  induction r generalizing p q with
  | empty =>
    obtain rfl := List.mem_singleton.1 h
    exact ⟨[], rfl, rfl⟩
  | char f =>
    unfold ends at h
    split at h
    · cases h
    · rename_i c rest hafter
      split at h
      · obtain rfl := List.mem_singleton.1 h
        exact ⟨[c], hafter, rfl⟩
      · cases h
  | seq r s ihr ihs =>
    obtain ⟨mid, hmid, h⟩ := List.mem_flatMap.1 h
    obtain ⟨read, hafter, hbefore⟩ := ihr hmid
    obtain ⟨read', hafter', hbefore'⟩ := ihs h
    exact ⟨read ++ read', by simp [hafter, hafter'], by simp [hbefore, hbefore']⟩
  | alt r s ihr ihs => exact (List.mem_append.1 h).elim (fun h => ihr h) (fun h => ihs h)
  | rep r min max ih => exact repeatEnds_read (fun p q h => ih h) h
  | wordBoundary =>
    unfold ends at h
    split at h
    · cases h
    · obtain rfl := List.mem_singleton.1 h
      exact ⟨[], rfl, rfl⟩
  | start =>
    unfold ends at h
    split at h
    · obtain rfl := List.mem_singleton.1 h
      exact ⟨[], rfl, rfl⟩
    · cases h
  | look test =>
    unfold ends at h
    split at h
    · obtain rfl := List.mem_singleton.1 h
      exact ⟨[], rfl, rfl⟩
    · cases h
  | group index r ih =>
    obtain ⟨mid, hmid, rfl⟩ := List.mem_map.1 h
    exact ih (q := mid) hmid

/-! ### The weight of a match -/

/-- Every match reads a text that weighs `n` at least. -/
def Reads (w : Char → Nat) (r : Regex) (n : Nat) : Prop :=
  ∀ p q, q ∈ r.ends p → n + weight w q.after ≤ weight w p.after

theorem reads_zero : Reads w r 0 := by
  intro p q hq
  rw [Nat.zero_add]
  exact weight_le_of_suffix (ends_suffix hq)

theorem Reads.mono (h : Reads w r n) (hle : m ≤ n) : Reads w r m := by
  intro p q hq
  have := h p q hq
  omega

theorem reads_char {f : Char → Bool} (h : ∀ c, f c = true → n ≤ w c) : Reads w (.char f) n := by
  intro p q hq
  unfold ends at hq
  split at hq
  · cases hq
  · rename_i c rest hafter
    split at hq
    · rename_i hc
      obtain rfl := List.mem_singleton.1 hq
      rw [hafter, weight_cons]
      exact Nat.add_le_add_right (h c hc) _
    · cases hq

theorem Reads.seq (hr : Reads w r a) (hs : Reads w s b) : Reads w (.seq r s) (a + b) := by
  intro p q hq
  obtain ⟨mid, hmid, hq⟩ := List.mem_flatMap.1 hq
  have hfirst := hr p mid hmid
  have hsecond := hs mid q hq
  omega

theorem Reads.alt (hr : Reads w r n) (hs : Reads w s n) : Reads w (.alt r s) n := by
  intro p q hq
  exact (List.mem_append.1 hq).elim (hr p q) (hs p q)

private theorem repeatEnds_weight {ends : Position → List Position}
    (hends : ∀ p q, q ∈ ends p → a + weight w q.after ≤ weight w p.after) {fuel min : Nat} {max : Option Nat}
    {p q : Position} (h : q ∈ repeatEnds ends fuel min max p) : min * a + weight w q.after ≤ weight w p.after := by
  induction fuel generalizing min max p with
  | zero =>
    unfold repeatEnds at h
    split at h
    · rename_i hmin
      obtain rfl := List.mem_singleton.1 h
      rw [hmin, Nat.zero_mul, Nat.zero_add]
    · cases h
  | succ fuel ih =>
    unfold repeatEnds at h
    rcases List.mem_append.1 h with h | h
    · split at h
      · cases h
      · obtain ⟨mid, hmid, h⟩ := List.mem_flatMap.1 h
        split at h
        · cases h
        · have hfirst := hends p mid hmid
          have hrest := ih h
          cases min with
          | zero => omega
          | succ min =>
            rw [Nat.succ_mul]
            rw [Nat.add_sub_cancel] at hrest
            omega
    · split at h
      · rename_i hmin
        obtain rfl := List.mem_singleton.1 h
        rw [hmin, Nat.zero_mul, Nat.zero_add]
      · cases h

theorem Reads.rep (hr : Reads w r a) (min : Nat) (max : Option Nat) : Reads w (.rep r min max) (min * a) :=
  fun _ _ hq => repeatEnds_weight hr hq

theorem reads_plus {f : Char → Bool} (h : ∀ c, f c = true → n ≤ w c) : Reads w (plus f) n :=
  ((reads_char h).rep 1 none).mono (Nat.one_mul n).ge

theorem Reads.group (hr : Reads w r n) (index : Nat) : Reads w (.group index r) n := by
  intro p q hq
  obtain ⟨mid, hmid, rfl⟩ := List.mem_map.1 hq
  exact hr p mid hmid

theorem reads_oneOf {rs : List Regex} (h : ∀ r ∈ rs, Reads w r n) : Reads w (oneOf rs) n := by
  induction rs with
  | nil => exact reads_char fun c hc => by cases hc
  | cons r rs ih =>
    have hr : Reads w r n := h r List.mem_cons_self
    cases rs with
    | nil => exact hr
    | cons s rs => exact hr.alt (ih fun s hs => h s (List.mem_cons_of_mem _ hs))

theorem reads_literal (h : ∀ c, 1 ≤ w c) (text : List Char) : Reads w (literal text) text.length := by
  induction text with
  | nil => exact reads_zero
  | cons c text ih => exact ((reads_char fun d _ => h d).seq ih).mono (Nat.add_comm _ _).le

/-- A character in any letter case is the character itself, or a letter in the other case. -/
theorem ignoreCase_cases {c d : Char} (h : ignoreCase (· = d) c = true) :
    c.toNat = d.toNat ∨ c.toNat + 32 = d.toNat ∧ 97 ≤ d.toNat ∨ c.toNat = d.toNat + 32 ∧ 65 ≤ d.toNat ∧ d.toNat ≤ 90 := by
  simp only [ignoreCase, Bool.or_eq_true, decide_eq_true_eq] at h
  have hval (a b : UInt32) : a ≤ b ↔ a.toNat ≤ b.toNat := UInt32.le_iff_toNat_le
  rcases h with (rfl | rfl) | rfl
  · exact .inl rfl
  · unfold Char.toLower
    split
    · rename_i hc
      have hc : 65 ≤ c.toNat ∧ c.toNat ≤ 90 := by
        rw [ge_iff_le, hval, hval] at hc
        exact hc
      have hlower : (c.val + ('a'.val - 'A'.val)).toNat = c.toNat + 32 := by
        rw [UInt32.toNat_add]
        exact Nat.mod_eq_of_lt (by change c.toNat + 32 < _; omega)
      refine .inr (.inl ⟨hlower.symm, ?_⟩)
      change 97 ≤ (c.val + ('a'.val - 'A'.val)).toNat
      omega
    · exact .inl rfl
  · unfold Char.toUpper
    split
    · rename_i hc
      have hc : 97 ≤ c.toNat ∧ c.toNat ≤ 122 := by
        rw [hval, hval] at hc
        exact hc
      have hupper : (c.val + ('A'.val - 'a'.val)).toNat + 32 = c.toNat := by
        rw [UInt32.toNat_add]
        change (c.toNat + 4294967264) % 4294967296 + 32 = c.toNat
        omega
      refine .inr (.inr ⟨hupper.symm, ?_⟩)
      change 65 ≤ (c.val + ('A'.val - 'a'.val)).toNat ∧ (c.val + ('A'.val - 'a'.val)).toNat ≤ 90
      omega
    · exact .inl rfl
/-- A text in any letter case reads at least what one of its characters does. -/
theorem reads_literalI {text : List Char} {c : Char} (hc : c ∈ text) (h : ∀ e, ignoreCase (· = c) e = true → n ≤ w e) :
    Reads w (literalI text) n := by
  induction text with
  | nil => cases hc
  | cons e text ih =>
    by_cases hfirst : c = e
    · subst hfirst
      exact ((reads_char h).seq reads_zero).mono (Nat.le_add_right _ _)
    · exact ((reads_zero (r := .char _)).seq (ih ((List.mem_cons.1 hc).resolve_left hfirst))).mono (Nat.le_add_left _ _)

/-- A text with a match weighs what the match reads at least. -/
theorem Reads.le_of_test (h : Reads w r n) {text : List Char} (htest : r.test text = true) : n ≤ weight w text := by
  have hmatch {before after : List Char} (hends : (!(r.ends ⟨before, after, []⟩).isEmpty) = true) :
      n ≤ weight w after := by
    obtain ⟨q, hq⟩ := List.exists_mem_of_ne_nil _ (by simpa using hends)
    exact (Nat.le_add_right _ _).trans (h _ q hq)
  suffices ∀ before after, test.go r before after = true → n ≤ weight w after from this [] text htest
  intro before after
  induction after generalizing before with
  | nil => exact hmatch
  | cons c rest ih =>
    intro hgo
    rw [test.go, Bool.or_eq_true] at hgo
    rcases hgo with hends | hgo
    · exact hmatch hends
    · exact (ih (c :: before) hgo).trans (weight_le_of_suffix (List.suffix_cons c rest))

/-! ### Groups -/

/-- The groups that a match may set. -/
def groupsOf : Regex → List Nat
  | .seq r s | .alt r s => r.groupsOf ++ s.groupsOf
  | .rep r _ _ => r.groupsOf
  | .group index r => index :: r.groupsOf
  | .empty | .char _ | .wordBoundary | .start | .look _ => []

private theorem repeatEnds_lookup {ends : Position → List Position} {index : Nat}
    (hends : ∀ p q, q ∈ ends p → q.groups.lookup index = p.groups.lookup index) {fuel min : Nat} {max : Option Nat}
    {p q : Position} (h : q ∈ repeatEnds ends fuel min max p) : q.groups.lookup index = p.groups.lookup index := by
  induction fuel generalizing min max p with
  | zero =>
    unfold repeatEnds at h
    split at h
    · rw [List.mem_singleton.1 h]
    · cases h
  | succ fuel ih =>
    unfold repeatEnds at h
    rcases List.mem_append.1 h with h | h
    · split at h
      · cases h
      · obtain ⟨mid, hmid, h⟩ := List.mem_flatMap.1 h
        split at h
        · cases h
        · exact (ih h).trans (hends p mid hmid)
    · split at h
      · rw [List.mem_singleton.1 h]
      · cases h

/-- A group that no match sets is kept. -/
theorem lookup_ends {index : Nat} (hindex : index ∉ r.groupsOf) {p q : Position} (h : q ∈ r.ends p) :
    q.groups.lookup index = p.groups.lookup index := by
  induction r generalizing p q with
  | empty => rw [List.mem_singleton.1 h]
  | char f =>
    unfold ends at h
    split at h
    · cases h
    · split at h
      · rw [List.mem_singleton.1 h]
      · cases h
  | seq r s ihr ihs =>
    rw [groupsOf, List.mem_append, not_or] at hindex
    obtain ⟨mid, hmid, h⟩ := List.mem_flatMap.1 h
    exact (ihs hindex.2 h).trans (ihr hindex.1 hmid)
  | alt r s ihr ihs =>
    rw [groupsOf, List.mem_append, not_or] at hindex
    exact (List.mem_append.1 h).elim (ihr hindex.1) (ihs hindex.2)
  | rep r min max ih => exact repeatEnds_lookup (fun p q h => ih hindex h) h
  | wordBoundary =>
    unfold ends at h
    split at h
    · cases h
    · rw [List.mem_singleton.1 h]
  | start =>
    unfold ends at h
    split at h
    · rw [List.mem_singleton.1 h]
    · cases h
  | look test =>
    unfold ends at h
    split at h
    · rw [List.mem_singleton.1 h]
    · cases h
  | group index' r ih =>
    rw [groupsOf, List.mem_cons, not_or] at hindex
    obtain ⟨mid, hmid, rfl⟩ := List.mem_map.1 h
    have hbeq : (index == index') = false := by simpa using hindex.1
    rw [List.lookup_cons, hbeq]
    exact ih hindex.2 hmid

/-! ### Replacements -/

/-- What stands for a match afterwards weighs no more than the match. -/
def Pays (w w' : Char → Nat) (r : Regex) (replacement : List Part) : Prop :=
  ∀ p q, q ∈ r.ends p →
    weight w' (replacement.flatMap (Part.fill q.groups)) + weight w q.after ≤ weight w p.after

theorem Reads.pays (h : Reads w r n) {literal : String} (hliteral : weight w' literal.toList ≤ n) :
    Pays w w' r [.text literal] := by
  intro p q hq
  have hread := h p q hq
  simp only [List.flatMap_cons, List.flatMap_nil, List.append_nil, Part.fill]
  omega

/-- A group and a text for a match that begins with the group: the text is paid for by what the group loses in weight and
by the rest of the match. -/
theorem pays_group {index : Nat} {literal : String} (hlost : ∀ c, w' c + d c ≤ w c) (hr : Reads d r m)
    (hs : Reads w s n) (hindex : index ∉ s.groupsOf) (hliteral : weight w' literal.toList ≤ m + n) :
    Pays w w' (.seq (.group index r) s) [.group index, .text literal] := by
  intro p q hq
  obtain ⟨mid, hmid, hq⟩ := List.mem_flatMap.1 hq
  have hgroup := lookup_ends hindex hq
  have hrest := hs mid q hq
  obtain ⟨read, hread, rfl⟩ := List.mem_map.1 hmid
  obtain ⟨matched, hafter, hbefore⟩ := ends_read hread
  have hmatched : (read.before.take (read.before.length - p.before.length)).reverse = matched := by
    simp [hbefore]
  have hfill : [Part.group index, .text literal].flatMap (Part.fill q.groups) = matched ++ literal.toList := by
    simp [Part.fill, hgroup, hmatched]
  have hlosses := weight_add_le hlost matched
  have hloss := hr p read hread
  rw [hfill, hafter, weight_append, weight_append]
  rw [hafter, weight_append] at hloss
  dsimp only at hrest
  omega

theorem Pays.wordBoundary {replacement : List Part} (h : Pays w w' r replacement) :
    Pays w w' (.seq .wordBoundary r) replacement := by
  intro p q hq
  obtain ⟨mid, hmid, hend⟩ := List.mem_flatMap.1 hq
  unfold ends at hmid
  split at hmid
  · cases hmid
  · obtain rfl := List.mem_singleton.1 hmid
    exact h mid q hend

/-- Replacements that pay make no text heavier. -/
theorem weight_replaceAll {replacement : List Part} (hpays : Pays w w' r replacement) (hle : ∀ c, w' c ≤ w c)
    (text : List Char) : weight w' (replaceAll r replacement text) ≤ weight w text := by
  suffices ∀ fuel before after, weight w' (replaceLoop r replacement fuel before after) ≤ weight w after from
    this _ _ _
  intro fuel
  induction fuel with
  | zero => intro before after; exact weight_le_weight hle after
  | succ fuel ih =>
    intro before after
    cases after with
    | nil => exact Nat.le_refl _
    | cons c rest =>
      rw [replaceLoop]
      cases hfirst : r.firstMatch before (c :: rest) with
      | none =>
        have hc := hle c
        have hrest := ih (c :: before) rest
        simp only [weight_cons]
        omega
      | some q =>
        have hq : q ∈ r.ends ⟨before, c :: rest, []⟩ :=
          List.mem_of_mem_head? (Option.mem_filter_iff.1 hfirst).1
        have hmatch := hpays _ q hq
        dsimp only at hmatch
        have hrest := ih q.before q.after
        rw [weight_append]
        omega

end Regex

namespace Json

open Text (weight_cons weight_append)

variable {w w' : Char → Nat}

/-! ### The weight of a value -/

/-- The bytes of a key, its quotes, the colon and the comma. -/
def keyBytes (key : String) : Nat := Text.utf8Length (quote key) + 2

mutual

/-- The weight of the strings of a value, with the bytes of the rest of its text and one more for each comma. -/
def weight (w : Char → Nat) : Json → Nat
  | .null => 4
  | .bool _ => 5
  | .num text => Text.utf8Length text.toList
  | .str text => 2 + Text.weight w text.toList
  | .arr values => 2 + weightValues w values
  | .obj fields => 2 + weightFields w fields

def weightValues (w : Char → Nat) : List Json → Nat
  | [] => 0
  | value :: values => weight w value + 1 + weightValues w values

def weightFields (w : Char → Nat) : List (String × Json) → Nat
  | [] => 0
  | (key, value) :: fields => keyBytes key + weight w value + weightFields w fields

end

/-- A character inside a quoted text weighs its bytes at least. -/
def Covers (w : Char → Nat) : Prop := ∀ c, Text.utf8Length (escapeChar c) ≤ w c

theorem utf8Length_quote_le (hw : Covers w) (text : String) :
    Text.utf8Length (quote text) ≤ 2 + Text.weight w text.toList := by
  have hescaped (chars : List Char) : Text.utf8Length (chars.flatMap escapeChar) ≤ Text.weight w chars := by
    induction chars with
    | nil => exact Nat.le_refl _
    | cons c chars ih =>
      have hc := hw c
      rw [List.flatMap_cons, Text.utf8Length_append, weight_cons]
      omega
  have htext := hescaped text.toList
  have hquotes : Text.utf8Length (quote text) = 2 + Text.utf8Length (text.toList.flatMap escapeChar) := by
    have hmark : Text.utf8Bytes '"' = 1 := by decide
    rw [quote, Text.utf8Length, Text.utf8Length_append, Text.utf8Length, Text.utf8Length, hmark]
    omega
  omega

theorem weightValues_eq (values : List Json) :
    weightValues w values = (values.map fun value => weight w value + 1).sum := by
  induction values with
  | nil => rfl
  | cons value values ih => rw [weightValues, ih, List.map_cons, List.sum_cons]

theorem weightFields_eq (fields : List (String × Json)) :
    weightFields w fields = (fields.map fun field => keyBytes field.1 + weight w field.2).sum := by
  induction fields with
  | nil => rfl
  | cons field fields ih => rw [weightFields, ih, List.map_cons, List.sum_cons]

/-- A value takes no more bytes than it weighs. -/
theorem bytes_le_weight (hw : Covers w) (value : Json) : value.bytes ≤ weight w value := by
  induction value using tree_induction with
  | null => exact Nat.le_refl _
  | bool value => cases value <;> exact Nat.le_of_ble_eq_true rfl
  | num text => exact Nat.le_refl _
  | str text => exact utf8Length_quote_le hw text
  | arr values ih =>
    have hvalues : (values.map fun value => value.bytes + 1).sum ≤ (values.map fun value => weight w value + 1).sum :=
      List.sum_le_sum fun value hvalue => Nat.add_le_add_right (ih value hvalue) 1
    rw [bytes_arr, itemsBytes, weight, weightValues_eq]
    omega
  | obj fields ih =>
    have hfields : (fields.map fun field => fieldBytes field + 1).sum ≤
        (fields.map fun field => keyBytes field.1 + weight w field.2).sum := by
      refine List.sum_le_sum fun field hfield => ?_
      have hvalue := ih field hfield
      simp only [fieldBytes, keyBytes]
      omega
    rw [bytes_obj, weight, weightFields_eq]
    omega

theorem weight_le_weight (h : ∀ c, w' c ≤ w c) (value : Json) : weight w' value ≤ weight w value := by
  induction value using tree_induction with
  | null => exact Nat.le_refl _
  | bool value => exact Nat.le_refl _
  | num text => exact Nat.le_refl _
  | str text => exact Nat.add_le_add_left (Text.weight_le_weight h _) 2
  | arr values ih =>
    rw [weight, weight, weightValues_eq, weightValues_eq]
    exact Nat.add_le_add_left (List.sum_le_sum fun value hvalue => Nat.add_le_add_right (ih value hvalue) 1) 2
  | obj fields ih =>
    rw [weight, weight, weightFields_eq, weightFields_eq]
    exact Nat.add_le_add_left (List.sum_le_sum fun field hfield => Nat.add_le_add_left (ih field hfield) _) 2

mutual

/-- A redaction whose texts weigh no more than before makes no value heavier. -/
theorem weight_redact_le {r : Redactor}
    (htext : ∀ key depth text, Text.weight w' (r.text key depth text).toList ≤ Text.weight w text.toList) (key : String)
    (depth : Nat) : (value : Json) → weight w' (redact r key depth value) ≤ weight w value
  | .str text => by
    rw [redact, weight, weight]
    exact Nat.add_le_add_left (htext key depth text) 2
  | .arr values => by
    rw [redact, weight, weight]
    exact Nat.add_le_add_left (weight_redactValues_le htext _ values) 2
  | .obj fields => by
    rw [redact, weight, weight]
    exact Nat.add_le_add_left (weight_redactFields_le htext _ fields) 2
  | .null => Nat.le_refl _
  | .bool _ => Nat.le_refl _
  | .num _ => Nat.le_refl _

theorem weight_redactValues_le {r : Redactor}
    (htext : ∀ key depth text, Text.weight w' (r.text key depth text).toList ≤ Text.weight w text.toList)
    (depth : Nat) : (values : List Json) → weightValues w' (redactValues r depth values) ≤ weightValues w values
  | [] => Nat.le_refl _
  | value :: values => by
    have hvalue := weight_redact_le htext "" depth value
    have hvalues := weight_redactValues_le htext depth values
    rw [redactValues, weightValues, weightValues]
    omega

theorem weight_redactFields_le {r : Redactor}
    (htext : ∀ key depth text, Text.weight w' (r.text key depth text).toList ≤ Text.weight w text.toList)
    (depth : Nat) :
    (fields : List (String × Json)) → weightFields w' (redactFields r depth fields) ≤ weightFields w fields
  | [] => Nat.le_refl _
  | (key, value) :: fields => by
    have hvalue := weight_redact_le htext key depth value
    have hfields := weight_redactFields_le htext depth fields
    by_cases hdrop : r.drop key depth = true
    · rw [redactFields, if_pos hdrop, weightFields]
      omega
    · rw [redactFields, if_neg hdrop, weightFields, weightFields]
      omega

end

/-! ### The weight of a member -/

/-- The weight of a field of an object literal: nothing if it is left out. -/
def memberWeight (w : Char → Nat) (key : String) : Option Json → Nat
  | none => 0
  | some value => keyBytes key + weight w value

theorem weight_object (fields : List (String × Option Json)) :
    weight w (object fields) = 2 + (fields.map fun field => memberWeight w field.1 field.2).sum := by
  rw [object, weight]
  congr 1
  induction fields with
  | nil => rfl
  | cons field fields ih =>
    obtain ⟨key, value⟩ := field
    cases value with
    | none =>
      rw [ofFields, ih, List.map_cons, List.sum_cons]
      exact (Nat.zero_add _).symm
    | some value =>
      rw [ofFields, weightFields, ih, List.map_cons, List.sum_cons]
      rfl

/-- Different members of a value weigh no more than the value. -/
theorem sum_memberWeight_le (keys : List String) (hkeys : keys.Nodup) (value : Json) :
    (keys.map fun key => memberWeight w key (value.member key)).sum ≤ weight w value := by
  have hfields (fields : List (String × Json)) : ∀ {keys : List String}, keys.Nodup →
      (keys.map fun key => memberWeight w key (fields.lookup key)).sum ≤ weightFields w fields := by
    induction fields with
    | nil =>
      intro keys _
      have hnone : (keys.map fun key => memberWeight w key (([] : List (String × Json)).lookup key)).sum = 0 := by
        simp [memberWeight]
      exact hnone.le
    | cons field fields ih =>
      intro keys hkeys
      obtain ⟨name, found⟩ := field
      rw [weightFields]
      -- The field counts for its own key only.
      have hother {keys : List String} (hname : name ∉ keys) :
          (keys.map fun key => memberWeight w key (((name, found) :: fields).lookup key)) =
            keys.map fun key => memberWeight w key (fields.lookup key) := by
        refine List.map_congr_left fun key hkey => ?_
        have hbeq : (key == name) = false := by
          rw [beq_eq_false_iff_ne]
          rintro rfl
          exact hname hkey
        rw [List.lookup_cons, hbeq]
      by_cases hname : name ∈ keys
      · obtain ⟨before, after, rfl⟩ := List.append_of_mem hname
        have hsplit : name ∉ before ++ after ∧ (before ++ after).Nodup := by
          have hperm : (before ++ name :: after).Perm (name :: (before ++ after)) := List.perm_middle
          exact List.nodup_cons.1 (hperm.nodup_iff.1 hkeys)
        have hrest := ih hsplit.2
        rw [← hother hsplit.1] at hrest
        have hown : memberWeight w name (((name, found) :: fields).lookup name) = keyBytes name + weight w found := by
          rw [List.lookup_cons_self, memberWeight]
        simp only [List.map_append, List.map_cons, List.sum_append, List.sum_cons] at hrest ⊢
        omega
      · rw [hother hname]
        exact (ih hkeys).trans (Nat.le_add_left _ _)
  cases value with
  | obj fields => exact (hfields fields hkeys).trans (Nat.le_add_left _ _)
  | null | bool | num | str | arr => simp [member, fields, memberWeight]

end Json
