import Mathlib.Data.List.Infix
import Mathlib.Data.List.Induction

/-!
# Paths as texts

A path is a list of characters in which `/` and `\` both separate.  `normalize` makes every separator a single `/`;
it keeps the characters (`mem_normalize`), the last of them (`getLast?_normalize`) and the segments that are not empty
(`mem_segments_normalize`).  `absolute` is the way that a path takes from the top, by its names.

`Inside root path` is lexical containment: after normalisation the path is the root, or starts with the root and a
separator.  What is joined to a path inside the root is inside it, too (`Inside.join`); with segments like `..` in it
this says nothing about where a file system looks the path up, so `Contained` excludes them.
-/

namespace Paths

/-- Every `\` is a `/`. -/
def slashes (text : List Char) : List Char := text.map fun c => if c = '\\' then '/' else c

/-- A run of `/` is a single one. -/
def collapse : List Char → List Char
  | [] => []
  | c :: text => if c = '/' ∧ text.head? = some '/' then collapse text else c :: collapse text

def normalize (text : List Char) : List Char := collapse (slashes text)

def segments (text : List Char) : List (List Char) := text.splitOn '/'

/-- One of the segments is `..`. -/
def hasParentSegment (text : List Char) : Bool := (segments (slashes text)).contains ['.', '.']

/-- The text with a `/` at its end. -/
def withSlash (text : List Char) : List Char := if text.getLast? = some '/' then text else text ++ ['/']

/-- The path is the root or below it, by their texts. -/
def Inside (root path : List Char) : Prop :=
  normalize path = normalize root ∨ withSlash (normalize root) <+: normalize path

/-- The names on a path. -/
def names (text : List Char) : List String := ((segments (slashes text)).filter (!List.isEmpty ·)).map String.ofList

/-- Go on to a name. -/
def enter (path : List String) (name : String) : List String :=
  if name = "." then path else if name = ".." then path.dropLast else path ++ [name]

/-- The path starts with a separator or a drive letter. -/
def isAbsolute : List Char → Bool
  | '/' :: _ => true
  | '\\' :: _ => true
  | c :: ':' :: _ => c.isAlpha
  | _ => false

/-- The names from the top, a relative path being taken from the directory. -/
def absolute (directory : List String) (text : List Char) : List String :=
  (names text).foldl enter (if isAbsolute text then [] else directory)

/-- The path is inside the root and does not go up. -/
def Contained (root path : List Char) : Prop :=
  Inside root path ∧ ['.', '.'] ∉ segments (normalize path)

/-! ### Characters -/

@[simp] theorem slashes_append (x y : List Char) : slashes (x ++ y) = slashes x ++ slashes y := List.map_append

theorem mem_slashes {text : List Char} {c : Char} (hslash : c ≠ '/') (hbackslash : c ≠ '\\') :
    c ∈ slashes text ↔ c ∈ text := by
  unfold slashes
  rw [List.mem_map]
  constructor
  · rintro ⟨d, hd, hc⟩
    split_ifs at hc with h
    · exact absurd hc.symm hslash
    · exact hc ▸ hd
  · intro hc
    exact ⟨c, hc, if_neg hbackslash⟩

theorem backslash_not_mem_slashes (text : List Char) : '\\' ∉ slashes text := by
  unfold slashes
  rw [List.mem_map]
  rintro ⟨c, -, hc⟩
  split_ifs at hc with h
  · cases hc
  · exact h hc

theorem slashes_eq_self {text : List Char} (h : '\\' ∉ text) : slashes text = text := by
  unfold slashes
  have hsame : ∀ c ∈ text, (if c = '\\' then '/' else c) = c := by
    intro c hc
    have hne : c ≠ '\\' := by
      rintro rfl
      exact h hc
    exact if_neg hne
  rw [List.map_congr_left hsame, List.map_id']

theorem head?_collapse (text : List Char) : (collapse text).head? = text.head? := by
  induction text with
  | nil => rfl
  | cons c text ih =>
    unfold collapse
    split_ifs with h
    · rw [ih, h.2, List.head?_cons, h.1]
    · rfl

theorem mem_collapse {text : List Char} {c : Char} : c ∈ collapse text ↔ c ∈ text := by
  induction text with
  | nil => rfl
  | cons d text ih =>
    unfold collapse
    split_ifs with h
    · have hmem : d ∈ text := h.1 ▸ List.mem_of_mem_head? h.2
      rw [ih, List.mem_cons]
      constructor
      · exact .inr
      · rintro (rfl | hc)
        · exact hmem
        · exact hc
    · rw [List.mem_cons, List.mem_cons, ih]

theorem collapse_eq_nil {text : List Char} : collapse text = [] ↔ text = [] := by
  rw [← List.head?_eq_none_iff, head?_collapse, List.head?_eq_none_iff]

theorem mem_normalize {text : List Char} {c : Char} (hslash : c ≠ '/') (hbackslash : c ≠ '\\') :
    c ∈ normalize text ↔ c ∈ text := by
  rw [normalize, mem_collapse, mem_slashes hslash hbackslash]

/-- Where a character stands that is kept or made a separator, one of the kind stands in the normalised path. -/
theorem exists_mem_normalize {text : List Char} {p : Char → Bool} (hslash : p '/' = true) (hbackslash : p '\\' = true) :
    (∃ c ∈ normalize text, p c = true) ↔ ∃ c ∈ text, p c = true := by
  simp only [normalize, mem_collapse, slashes, List.mem_map]
  constructor
  · rintro ⟨c, ⟨d, hd, rfl⟩, hc⟩
    split_ifs at hc with h
    · exact ⟨d, hd, h ▸ hbackslash⟩
    · exact ⟨d, hd, hc⟩
  · rintro ⟨c, hc, hp⟩
    refine ⟨_, ⟨c, hc, rfl⟩, ?_⟩
    split_ifs
    · exact hslash
    · exact hp

theorem collapse_collapse (text : List Char) : collapse (collapse text) = collapse text := by
  induction text with
  | nil => rfl
  | cons c text ih =>
    rw [collapse]
    split_ifs with h
    · exact ih
    · rw [collapse, head?_collapse, if_neg h, ih]

theorem slashes_normalize (text : List Char) : slashes (normalize text) = normalize text := by
  apply slashes_eq_self
  rw [normalize, mem_collapse]
  exact backslash_not_mem_slashes text

theorem normalize_normalize (text : List Char) : normalize (normalize text) = normalize text := by
  rw [normalize, slashes_normalize, normalize, collapse_collapse]

theorem getLast?_collapse (text : List Char) : (collapse text).getLast? = text.getLast? := by
  induction text with
  | nil => rfl
  | cons c text ih =>
    cases text with
    | nil => simp [collapse]
    | cons d text =>
      rw [collapse]
      split_ifs with h
      · rw [ih, List.getLast?_cons_cons]
      · have hne : collapse (d :: text) ≠ [] := by simp [collapse_eq_nil]
        rw [List.getLast?_cons_cons, ← ih]
        obtain ⟨e, rest, hrest⟩ := List.exists_cons_of_ne_nil hne
        rw [hrest, List.getLast?_cons_cons]

/-- A normalised path ends with a separator if the path does. -/
theorem getLast?_normalize (text : List Char) :
    (normalize text).getLast? = some '/' ↔ text.getLast? = some '/' ∨ text.getLast? = some '\\' := by
  rw [normalize, getLast?_collapse, slashes, List.getLast?_map]
  cases text.getLast? with
  | none => simp
  | some c =>
    rw [Option.map_some, Option.some_inj, Option.some_inj, Option.some_inj]
    split_ifs with h
    · simp [h]
    · simp [h]

/-- No two separators stand side by side in a normalised path. -/
theorem not_infix_collapse (text : List Char) : ¬ ['/', '/'] <:+: collapse text := by
  induction text with
  | nil => simp [collapse]
  | cons c text ih =>
    rw [collapse]
    split_ifs with h
    · exact ih
    · rw [List.infix_cons_iff, not_or]
      refine ⟨?_, ih⟩
      intro hstarts
      rw [List.cons_prefix_cons, List.singleton_prefix_iff_head?_eq_some] at hstarts
      rw [head?_collapse] at hstarts
      exact h ⟨hstarts.1.symm, hstarts.2⟩

/-! ### Segments -/

private theorem segments_cons (c : Char) (text : List Char) :
    segments (c :: text) = if c = '/' then [] :: segments text else (segments text).modifyHead (c :: ·) := by
  unfold segments
  rw [List.splitOn_cons_eq_if_modifyHead]
  simp only [beq_iff_eq]

/-- The first segment stays as it is, and so do the others that are not empty. -/
private theorem segments_collapse (text : List Char) : ∃ first rest rest',
    segments (collapse text) = first :: rest ∧ segments text = first :: rest' ∧
      rest.filter (!List.isEmpty ·) = rest'.filter (!List.isEmpty ·) := by
  induction text with
  | nil => exact ⟨[], [], [], rfl, rfl, rfl⟩
  | cons c text ih =>
    obtain ⟨first, rest, rest', hcollapse, htext, hrest⟩ := ih
    by_cases hc : c = '/'
    · subst hc
      rw [collapse, segments_cons, if_pos rfl, htext]
      split_ifs with h
      · -- The run goes on: the text starts with an empty segment of its own.
        obtain ⟨text', rfl⟩ := List.head?_eq_some_iff.1 h.2
        rw [segments_cons, if_pos rfl, List.cons.injEq] at htext
        obtain ⟨rfl, -⟩ := htext
        exact ⟨[], rest, [] :: rest', hcollapse, rfl, by simpa using hrest⟩
      · rw [segments_cons, if_pos rfl, hcollapse]
        exact ⟨[], first :: rest, first :: rest', rfl, rfl, by rw [List.filter_cons, List.filter_cons, hrest]⟩
    · rw [collapse, if_neg fun h => hc h.1, segments_cons, segments_cons, if_neg hc, if_neg hc, hcollapse, htext]
      exact ⟨c :: first, rest, rest', rfl, rfl, hrest⟩

theorem mem_segments_collapse {text segment : List Char} (hsegment : segment ≠ []) :
    segment ∈ segments (collapse text) ↔ segment ∈ segments text := by
  obtain ⟨first, rest, rest', hcollapse, htext, hrest⟩ := segments_collapse text
  have hmem : segment ∈ rest ↔ segment ∈ rest' := by
    have hfilter : segment ∈ rest.filter (!List.isEmpty ·) ↔ segment ∈ rest'.filter (!List.isEmpty ·) := by rw [hrest]
    simpa [List.mem_filter, hsegment] using hfilter
  rw [hcollapse, htext, List.mem_cons, List.mem_cons, hmem]

theorem mem_segments_normalize {text : List Char} :
    ['.', '.'] ∈ segments (normalize text) ↔ hasParentSegment text = true := by
  rw [normalize, mem_segments_collapse (by simp), hasParentSegment, List.contains_iff_mem]

theorem hasParentSegment_normalize (text : List Char) : hasParentSegment (normalize text) = hasParentSegment text := by
  rw [Bool.eq_iff_iff, ← mem_segments_normalize, normalize_normalize, mem_segments_normalize]

/-- A separator ends a segment. -/
theorem hasParentSegment_join (x y : List Char) :
    hasParentSegment (x ++ '/' :: y) = (hasParentSegment x || hasParentSegment y) := by
  have hslashes : slashes (x ++ '/' :: y) = slashes x ++ '/' :: slashes y := by simp [slashes]
  rw [Bool.eq_iff_iff, Bool.or_eq_true]
  simp only [hasParentSegment, List.contains_iff_mem, hslashes]
  rw [segments, List.splitOn_append_cons_self, List.mem_append]
  rfl

/-- A text without separators is a segment. -/
theorem hasParentSegment_of_not_mem {text : List Char} (hslash : '/' ∉ text) (hbackslash : '\\' ∉ text)
    (h : text ≠ ['.', '.']) : hasParentSegment text = false := by
  rw [hasParentSegment, slashes_eq_self hbackslash, segments, List.splitOn_eq_singleton hslash]
  simp [h.symm]

/-! ### Names -/

/-- What a path ends with, as far as it has no separator, the last segment ends with. -/
private theorem segments_append (x : List Char) {y : List Char} (hy : '/' ∉ y) :
    ∃ start last, segments (x ++ y) = start ++ [last] ∧ y <:+ last := by
  induction x with
  | nil => exact ⟨[], y, List.splitOn_eq_singleton hy, List.suffix_rfl⟩
  | cons c x ih =>
    obtain ⟨start, last, hsegments, hlast⟩ := ih
    rw [List.cons_append, segments_cons, hsegments]
    split_ifs
    · exact ⟨[] :: start, last, rfl, hlast⟩
    · cases start with
      | nil => exact ⟨[], c :: last, rfl, hlast.trans (List.suffix_cons c last)⟩
      | cons first start => exact ⟨(c :: first) :: start, last, rfl, hlast⟩

theorem normalize_append (x : List Char) {y : List Char} (hslash : '/' ∉ y) (hbackslash : '\\' ∉ y) :
    normalize (x ++ y) = normalize x ++ y := by
  have hy : collapse y = y := by
    clear hbackslash
    induction y with
    | nil => rfl
    | cons c y ih =>
      rw [List.mem_cons, not_or] at hslash
      rw [collapse, if_neg fun h => hslash.1 h.1.symm, ih hslash.2]
  rw [normalize, slashes_append, slashes_eq_self hbackslash, normalize]
  induction slashes x with
  | nil => exact hy
  | cons c x ih =>
    cases x with
    | nil =>
      have hhead : ¬ (c = '/' ∧ y.head? = some '/') := fun h => hslash (List.mem_of_mem_head? h.2)
      rw [List.cons_append, List.nil_append, collapse, if_neg hhead, hy]
      simp [collapse]
    | cons d x =>
      have hhead : ((d :: x) ++ y).head? = (d :: x).head? := rfl
      rw [List.cons_append, collapse, collapse, hhead, ih]
      split_ifs
      · rfl
      · rfl

theorem enter_of_ne_dots {path : List String} {name : String} (h : ∃ c ∈ name.toList, c ≠ '.') :
    enter path name = path ++ [name] := by
  obtain ⟨c, hc, hdot⟩ := h
  have hself : name ≠ "." := by
    rintro rfl
    exact hdot (by simpa using hc)
  have hparent : name ≠ ".." := by
    rintro rfl
    exact hdot (by simpa using hc)
  rw [enter, if_neg hself, if_neg hparent]

/-- A path that ends like a file's name ends with such a name. -/
theorem absolute_append (directory : List String) (x : List Char) {y : List Char} (hslash : '/' ∉ y)
    (hbackslash : '\\' ∉ y) (hname : ∃ c ∈ y, c ≠ '.') :
    ∃ start name, absolute directory (x ++ y) = start ++ [name] ∧ y <:+ name.toList := by
  obtain ⟨start, last, hsegments, hlast⟩ := segments_append (slashes x) hslash
  obtain ⟨c, hc, hdot⟩ := hname
  have hne : last ≠ [] := List.ne_nil_of_mem (hlast.subset hc)
  have hnames : names (x ++ y) = (start.filter (!List.isEmpty ·)).map String.ofList ++ [String.ofList last] := by
    rw [names, slashes_append, slashes_eq_self hbackslash, hsegments]
    simp [hne]
  have hlast' : y <:+ (String.ofList last).toList := by rwa [String.toList_ofList]
  rw [absolute, hnames, List.foldl_append, List.foldl_cons, List.foldl_nil,
    enter_of_ne_dots ⟨c, hlast'.subset hc, hdot⟩]
  exact ⟨_, _, rfl, hlast'⟩

/-! ### Ways from the top -/

theorem names_normalize (text : List Char) : names (normalize text) = names text := by
  obtain ⟨first, rest, rest', hcollapse, htext, hrest⟩ := segments_collapse (slashes text)
  rw [names, names, slashes_normalize, normalize, hcollapse, htext, List.filter_cons, List.filter_cons, hrest]

/-- A separator ends a name. -/
theorem names_join (x y : List Char) : names (x ++ '/' :: y) = names x ++ names y := by
  have hslashes : slashes (x ++ '/' :: y) = slashes x ++ '/' :: slashes y := by simp [slashes]
  rw [names, hslashes, segments, List.splitOn_append_cons_self, List.filter_append, List.map_append]
  rfl

theorem names_of_not_mem {text : List Char} (hslash : '/' ∉ text) (hbackslash : '\\' ∉ text) (hne : text ≠ []) :
    names text = [String.ofList text] := by
  rw [names, slashes_eq_self hbackslash, segments, List.splitOn_eq_singleton hslash]
  simp [hne]

theorem parent_not_mem_names {text : List Char} (h : hasParentSegment text = false) : ".." ∉ names text := by
  intro hmem
  obtain ⟨segment, hsegment, hname⟩ := List.mem_map.1 hmem
  have hdots : segment = ['.', '.'] := by
    rw [← String.toList_inj, String.toList_ofList] at hname
    exact hname
  rw [hasParentSegment, List.contains_eq_mem, decide_eq_false_iff_not] at h
  exact h (hdots ▸ (List.mem_filter.1 hsegment).1)

private theorem isAbsolute_singleton (c : Char) : isAbsolute [c] = decide (c = '/' ∨ c = '\\') := by
  unfold isAbsolute
  split <;> simp_all

private theorem isAbsolute_cons_cons (c d : Char) (text : List Char) :
    isAbsolute (c :: d :: text) = (decide (c = '/' ∨ c = '\\') || (decide (d = ':') && c.isAlpha)) := by
  unfold isAbsolute
  split <;> simp_all

private theorem isAbsolute_slash (text : List Char) : isAbsolute ('/' :: text) = true := rfl

/-- Whether a path is absolute shows at its first two characters. -/
theorem isAbsolute_normalize (text : List Char) : isAbsolute (normalize text) = isAbsolute text := by
  cases text with
  | nil => rfl
  | cons c text =>
    by_cases hseparator : c = '/' ∨ c = '\\'
    · have hhead : (normalize (c :: text)).head? = some '/' := by
        rw [normalize, head?_collapse, slashes, List.map_cons, List.head?_cons]
        rcases hseparator with rfl | rfl
        · rfl
        · rfl
      obtain ⟨rest, hrest⟩ := List.head?_eq_some_iff.1 hhead
      rw [hrest, isAbsolute_slash]
      rcases hseparator with rfl | rfl
      · rfl
      · rfl
    · have hstays : normalize (c :: text) = c :: normalize text := by
        rw [not_or] at hseparator
        rw [normalize, slashes, List.map_cons, if_neg hseparator.2, collapse, if_neg fun h => hseparator.1 h.1]
        rfl
      rw [hstays]
      cases text with
      | nil => rfl
      | cons d text =>
        have hhead : (normalize (d :: text)).head? = some (if d = '\\' then '/' else d) := by
          rw [normalize, head?_collapse, slashes, List.map_cons, List.head?_cons]
        obtain ⟨rest, hrest⟩ := List.head?_eq_some_iff.1 hhead
        rw [hrest, isAbsolute_cons_cons, isAbsolute_cons_cons]
        by_cases hd : d = '\\'
        · subst hd
          rfl
        · rw [if_neg hd]

theorem isAbsolute_join {x : List Char} (hx : x ≠ []) (y : List Char) : isAbsolute (x ++ '/' :: y) = isAbsolute x := by
  obtain ⟨c, x, rfl⟩ := List.exists_cons_of_ne_nil hx
  cases x with
  | nil =>
    rw [List.cons_append, List.nil_append, isAbsolute_cons_cons, isAbsolute_singleton]
    simp
  | cons d x => rw [List.cons_append, List.cons_append, isAbsolute_cons_cons, isAbsolute_cons_cons]

theorem absolute_normalize (directory : List String) (text : List Char) :
    absolute directory (normalize text) = absolute directory text := by
  rw [absolute, names_normalize, isAbsolute_normalize, absolute]

/-- What is joined to a path goes on from where the path ends. -/
theorem absolute_join (directory : List String) {x : List Char} (hx : x ≠ []) (y : List Char) :
    absolute directory (normalize (x ++ '/' :: y)) = (names y).foldl enter (absolute directory x) := by
  rw [absolute_normalize, absolute, names_join, isAbsolute_join hx, List.foldl_append]
  rfl

/-- Names that do not go up lead further down. -/
theorem prefix_foldl_enter {names : List String} (h : ".." ∉ names) (start : List String) :
    start <+: names.foldl enter start := by
  induction names generalizing start with
  | nil => exact List.prefix_rfl
  | cons name names ih =>
    rw [List.mem_cons, not_or] at h
    have hstep : start <+: enter start name := by
      rw [enter, if_neg (Ne.symm h.1)]
      split_ifs
      · exact List.prefix_rfl
      · exact List.prefix_append _ _
    exact hstep.trans (ih h.2 _)

/-! ### Containment -/

theorem prefix_withSlash (text : List Char) : text <+: withSlash text := by
  unfold withSlash
  split_ifs
  · exact List.prefix_rfl
  · exact List.prefix_append _ _

theorem withSlash_prefix (text : List Char) : withSlash text <+: text ++ ['/'] := by
  unfold withSlash
  split_ifs
  · exact List.prefix_append _ _
  · exact List.prefix_rfl

private theorem withSlash_cons {c : Char} {text : List Char} (h : text ≠ []) :
    withSlash (c :: text) = c :: withSlash text := by
  obtain ⟨d, rest, rfl⟩ := List.exists_cons_of_ne_nil h
  unfold withSlash
  rw [List.getLast?_cons_cons]
  split_ifs
  · rfl
  · rfl

/-- What follows a separator does not change what stands before it. -/
private theorem withSlash_collapse_prefix (x y : List Char) : withSlash (collapse x) <+: collapse (x ++ '/' :: y) := by
  induction x with
  | nil =>
    have hhead : (collapse ('/' :: y)).head? = some '/' := head?_collapse _
    obtain ⟨rest, hrest⟩ := List.head?_eq_some_iff.1 hhead
    rw [List.nil_append, hrest]
    exact List.prefix_append ['/'] rest
  | cons c x ih =>
    cases x with
    | nil =>
      by_cases hc : c = '/'
      · subst hc
        exact ih
      · have hone : collapse [c] = [c] := by simp [collapse]
        rw [hone, List.cons_append, collapse, if_neg fun h => hc h.1, withSlash, if_neg (by simpa using hc)]
        exact List.cons_prefix_cons.2 ⟨rfl, ih⟩
    | cons d x =>
      by_cases h : c = '/' ∧ d = '/'
      · have hrun : ∀ text, collapse (c :: d :: text) = collapse (d :: text) := fun text => by simp [collapse, h]
        rw [hrun, List.cons_append, List.cons_append, hrun]
        exact ih
      · have hrun : ∀ text, collapse (c :: d :: text) = c :: collapse (d :: text) := by
          intro text
          have hhead : ¬ (c = '/' ∧ (d :: text).head? = some '/') := by simpa using h
          rw [collapse, if_neg hhead]
        rw [hrun, withSlash_cons (by simp [collapse_eq_nil]), List.cons_append, List.cons_append, hrun]
        exact List.cons_prefix_cons.2 ⟨rfl, ih⟩

theorem withSlash_normalize_prefix (x y : List Char) : withSlash (normalize x) <+: normalize (x ++ '/' :: y) := by
  have hslashes : slashes (x ++ '/' :: y) = slashes x ++ '/' :: slashes y := by simp [slashes]
  rw [normalize, normalize, hslashes]
  exact withSlash_collapse_prefix (slashes x) (slashes y)

variable {root path : List Char}

theorem inside_normalize : Inside root (normalize path) ↔ Inside root path := by
  rw [Inside, normalize_normalize, Inside]

theorem Inside.refl (root : List Char) : Inside root root := .inl rfl

/-- What is joined to a path stays where the path is. -/
theorem Inside.join (h : Inside root path) (name : List Char) : Inside root (path ++ '/' :: name) := by
  have hjoin := withSlash_normalize_prefix path name
  right
  rcases h with heq | hstarts
  · rw [← heq]
    exact hjoin
  · exact (hstarts.trans (prefix_withSlash _)).trans hjoin

/-- The check by a prefix: the root with one more separator. -/
theorem inside_of_prefix (h : normalize path = normalize root ∨ normalize root ++ ['/'] <+: normalize path) :
    Inside root path := by
  have hslash := withSlash_prefix (normalize root)
  exact h.imp_right hslash.trans

/-- For a root that does not end with a separator the check is containment. -/
theorem prefix_of_inside (hroot : (normalize root).getLast? ≠ some '/') (h : Inside root path) :
    normalize path = normalize root ∨ normalize root ++ ['/'] <+: normalize path := by
  rw [Inside, withSlash, if_neg hroot] at h
  exact h

/-- For a root that ends with a separator the check lets nothing below it through. -/
theorem not_prefix_of_slash (hroot : (normalize root).getLast? = some '/') :
    ¬ normalize root ++ ['/'] <+: normalize path := by
  intro hstarts
  obtain ⟨start, hstart⟩ := List.getLast?_eq_some_iff.1 hroot
  have hruns : ['/', '/'] <:+: normalize root ++ ['/'] := by
    rw [hstart]
    exact ⟨start, [], by simp⟩
  exact not_infix_collapse (slashes path) (hruns.trans hstarts.isInfix)

theorem contained_normalize : Contained root (normalize path) ↔ Contained root path := by
  rw [Contained, inside_normalize, normalize_normalize, Contained]

theorem contained_iff : Contained root path ↔ Inside root path ∧ hasParentSegment path = false := by
  rw [Contained, mem_segments_normalize, Bool.not_eq_true]

theorem Contained.join {name : List Char} (h : Contained root path) (hname : hasParentSegment name = false) :
    Contained root (path ++ '/' :: name) := by
  rw [contained_iff] at h ⊢
  rw [hasParentSegment_join, h.2, hname]
  exact ⟨h.1.join name, rfl⟩

end Paths
