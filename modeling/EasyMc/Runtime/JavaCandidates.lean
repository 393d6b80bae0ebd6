import EasyMc.Runtime.JavaDetection

/-!
# Which candidates for a Java there are

The path of a candidate is written in one way: with single slashes, below a drive or a share, and without a segment that
goes up (`Plain`).  It has an origin, in the options, in the environment or in the answers of the calls before it
(`Origin`), and no other candidate has a path with the same letters (`createWindowsJavaCandidates_ends`).
-/

namespace EasyMc.Runtime.JavaDetection

open Script (Answered Environment Session Ends ends_bind ends_pure)
open Paths (slashes collapse segments hasParentSegment)
open Text (isBlank trim)

variable {σ : Type} {env : Environment DetectOp DetectOp.Answer σ} {A : Answered DetectOp DetectOp.Answer → Prop}
  {s s' : Session DetectOp DetectOp.Answer Unit σ} {path value : List Char} {allowNetworkPaths : Bool}
  {toLowerCase : List Char → List Char} {options : DetectOptions}

/-! ### Paths -/

/-- A path that is written plainly, below a drive, or below a share where that is allowed. -/
structure Plain (allowNetworkPaths : Bool) (path : List Char) : Prop where
  anchored : isDrivePath path = true ∨ allowNetworkPaths = true ∧ ['/', '/'] <+: path
  noNul : '\x00' ∉ path
  noBackslash : '\\' ∉ path
  single : ¬ ['/', '/'] <:+: path.drop 2
  noParent : ['.', '.'] ∉ segments path

theorem isDrivePath_iff {path : List Char} : isDrivePath path = true ↔
    ∃ letter separator rest, path = letter :: ':' :: separator :: rest ∧ letter.isAlpha = true ∧
      (separator = '/' ∨ separator = '\\') := by
  constructor
  · intro h
    unfold isDrivePath at h
    split at h
    · rename_i letter separator rest
      rw [Bool.and_eq_true, Bool.or_eq_true, decide_eq_true_iff, decide_eq_true_iff] at h
      exact ⟨letter, separator, rest, rfl, h.1, h.2⟩
    · cases h
  · rintro ⟨letter, separator, rest, rfl, hletter, hseparator⟩
    rw [isDrivePath, hletter, Bool.true_and, Bool.or_eq_true, decide_eq_true_iff, decide_eq_true_iff]
    exact hseparator

theorem isSharePath_starts {separator : Char} {path : List Char} (h : isSharePath separator path = true) :
    ∃ rest, path = separator :: separator :: rest := by
  unfold isSharePath at h
  split at h
  · rename_i c c' rest
    simp only [Bool.and_eq_true, decide_eq_true_iff] at h
    obtain ⟨⟨rfl, rfl⟩, -⟩ := h
    exact ⟨rest, rfl⟩
  · cases h

theorem isSafeCandidatePath_iff : isSafeCandidatePath allowNetworkPaths (some value) = true ↔
    trim value ≠ [] ∧ '\x00' ∉ trim value ∧ hasParentSegment (trim value) = false ∧
      (isDrivePath (trim value) = true ∨
        allowNetworkPaths = true ∧ (isSharePath '\\' (trim value) = true ∨ isSharePath '/' (trim value) = true)) := by
  simp [isSafeCandidatePath, and_assoc]

theorem slash_slash_of_share {separator : Char} (hseparator : separator = '/' ∨ separator = '\\') (rest : List Char) :
    slashes (separator :: separator :: rest) = '/' :: '/' :: slashes rest := by
  rcases hseparator with rfl | rfl <;> rfl

theorem slashes_drive {letter separator : Char} (hletter : letter.isAlpha = true)
    (hseparator : separator = '/' ∨ separator = '\\') (rest : List Char) :
    slashes (letter :: ':' :: separator :: rest) = letter :: ':' :: '/' :: slashes rest := by
  have hne : letter ≠ '\\' := by
    rintro rfl
    exact absurd hletter (by decide)
  rcases hseparator with rfl | rfl <;> simp [slashes, hne]

/-- Below a drive, normalising is that of any path. -/
theorem normalizeWindows_drive {letter separator : Char} {rest : List Char}
    (htrim : trim value = letter :: ':' :: separator :: rest) (hletter : letter.isAlpha = true)
    (hseparator : separator = '/' ∨ separator = '\\') :
    normalizeWindows value = Paths.normalize (trim value) ∧
      ∃ rest, normalizeWindows value = letter :: ':' :: '/' :: rest := by
  have hne : letter ≠ '/' := by
    rintro rfl
    exact absurd hletter (by decide)
  have hslashes := slashes_drive hletter hseparator rest
  have hnormal : normalizeWindows value = collapse (letter :: ':' :: '/' :: slashes rest) := by
    rw [normalizeWindows, htrim, hslashes]
    split
    · rename_i heq
      exact absurd (List.cons.inj heq).1 hne
    · rfl
  refine ⟨by rw [hnormal, Paths.normalize, htrim, hslashes], ?_⟩
  have hhead : (collapse ('/' :: slashes rest)).head? = some '/' := Paths.head?_collapse _
  obtain ⟨rest', hrest'⟩ := List.head?_eq_some_iff.1 hhead
  refine ⟨rest', ?_⟩
  rw [hnormal, collapse, if_neg (by simp [hne]), collapse, if_neg (by simp), hrest']

theorem normalizeWindows_share {separator : Char} {rest : List Char} (htrim : trim value = separator :: separator :: rest)
    (hseparator : separator = '/' ∨ separator = '\\') :
    normalizeWindows value = '/' :: '/' :: Paths.normalize rest := by
  rw [normalizeWindows, htrim, slash_slash_of_share hseparator]
  rfl

theorem not_infix_drop {part text : List Char} (n : Nat) (h : ¬ part <:+: text) : ¬ part <:+: text.drop n :=
  fun hpart => h (hpart.trans (List.drop_suffix n text).isInfix)

/-- What is safe is written plainly once it is normalised. -/
theorem plain_normalizeWindows (h : isSafeCandidatePath allowNetworkPaths (some value) = true) :
    Plain allowNetworkPaths (normalizeWindows value) := by
  obtain ⟨-, hnul, hparent, hdrive | ⟨hallowed, hshare⟩⟩ := isSafeCandidatePath_iff.1 h
  · obtain ⟨letter, separator, rest, htrim, hletter, hseparator⟩ := isDrivePath_iff.1 hdrive
    obtain ⟨hnormal, rest', hstarts⟩ := normalizeWindows_drive htrim hletter hseparator
    refine ⟨.inl (isDrivePath_iff.2 ⟨letter, '/', rest', hstarts, hletter, .inl rfl⟩), ?_, ?_, ?_, ?_⟩
    · rw [hnormal, Paths.mem_normalize (by decide) (by decide)]
      exact hnul
    · rw [hnormal, Paths.normalize, Paths.mem_collapse]
      exact Paths.backslash_not_mem_slashes _
    · rw [hnormal]
      exact not_infix_drop 2 (Paths.not_infix_collapse _)
    · rw [hnormal, Paths.mem_segments_normalize, hparent]
      exact Bool.false_ne_true
  · have hstarts : ∃ separator rest, (separator = '/' ∨ separator = '\\') ∧ trim value = separator :: separator :: rest := by
      rcases hshare with hshare | hshare
      · obtain ⟨rest, hrest⟩ := isSharePath_starts hshare
        exact ⟨'\\', rest, .inr rfl, hrest⟩
      · obtain ⟨rest, hrest⟩ := isSharePath_starts hshare
        exact ⟨'/', rest, .inl rfl, hrest⟩
    obtain ⟨separator, rest, hseparator, htrim⟩ := hstarts
    have hnormal := normalizeWindows_share htrim hseparator
    rw [htrim] at hnul hparent
    have hcons : ∀ text, segments ('/' :: text) = [] :: segments text := by
      intro text
      rw [segments, List.splitOn_cons_eq_if_modifyHead, beq_self_eq_true, if_pos rfl, segments]
    have hsplit : ∀ text, segments ('/' :: '/' :: text) = [] :: [] :: segments text := fun text => by
      rw [hcons, hcons]
    refine ⟨.inr ⟨hallowed, by rw [hnormal]; exact List.prefix_append ['/', '/'] _⟩, ?_, ?_, ?_, ?_⟩
    · rw [hnormal, List.mem_cons, List.mem_cons, Paths.mem_normalize (by decide) (by decide)]
      simp only [List.mem_cons, not_or] at hnul
      simp [hnul.2.2]
    · rw [hnormal, List.mem_cons, List.mem_cons, Paths.normalize, Paths.mem_collapse]
      simp [Paths.backslash_not_mem_slashes]
    · rw [hnormal]
      exact Paths.not_infix_collapse _
    · rw [hasParentSegment, slash_slash_of_share hseparator, hsplit, ← Bool.not_eq_true, List.contains_iff_mem] at hparent
      simp only [List.mem_cons, not_or] at hparent
      rw [hnormal, hsplit, List.mem_cons, List.mem_cons, Paths.mem_segments_normalize, hasParentSegment,
        List.contains_iff_mem]
      simp [hparent.2.2]

/-! ### Paths below a drive -/

/-- A letter is not blank. -/
theorem not_isBlank_of_isAlpha {c : Char} (h : c.isAlpha = true) : isBlank c = false := by
  have hupper : 'A'.val.toNat = 65 ∧ 'Z'.val.toNat = 90 := ⟨rfl, rfl⟩
  have hlower : 'a'.val.toNat = 97 ∧ 'z'.val.toNat = 122 := ⟨rfl, rfl⟩
  have hcases : ('A'.val ≤ c.val ∧ c.val ≤ 'Z'.val) ∨ ('a'.val ≤ c.val ∧ c.val ≤ 'z'.val) := by
    rcases Bool.or_eq_true_iff.1 h with h | h
    · exact .inl (of_decide_eq_true h)
    · obtain ⟨hfirst, hlast⟩ := Bool.and_eq_true_iff.1 h
      exact .inr ⟨of_decide_eq_true hfirst, of_decide_eq_true hlast⟩
  have hbounds : 65 ≤ c.toNat ∧ c.toNat ≤ 122 := by
    simp only [UInt32.le_iff_toNat_le] at hcases
    change 65 ≤ c.val.toNat ∧ c.val.toNat ≤ 122
    omega
  simp only [isBlank, Bool.or_eq_false_iff, Bool.and_eq_false_iff, decide_eq_false_iff_not, List.contains_eq_mem,
    List.mem_cons, List.not_mem_nil, or_false, decide_eq_false_iff_not]
  omega

/-- A path below a drive stays one when blanks before and behind it are trimmed. -/
theorem isDrivePath_trim {blanks text : List Char} (hblanks : ∀ c ∈ blanks, isBlank c = true)
    (h : isDrivePath text = true) : isDrivePath (trim (blanks ++ text)) = true := by
  obtain ⟨letter, separator, rest, rfl, hletter, hseparator⟩ := isDrivePath_iff.1 h
  have hfront : (blanks ++ letter :: ':' :: separator :: rest).dropWhile isBlank = letter :: ':' :: separator :: rest := by
    rw [List.dropWhile_append_of_pos hblanks, List.dropWhile_cons, not_isBlank_of_isAlpha hletter,
      if_neg Bool.false_ne_true]
  have hstop : isBlank separator = false := by
    rcases hseparator with rfl | rfl <;> decide
  have hback : ∃ rest', (letter :: ':' :: separator :: rest).reverse.dropWhile isBlank =
      rest' ++ [separator, ':', letter] := by
    have hreverse : (letter :: ':' :: separator :: rest).reverse = rest.reverse ++ [separator, ':', letter] := by simp
    rw [hreverse, List.dropWhile_append]
    split
    · exact ⟨[], by rw [List.dropWhile_cons, hstop, if_neg Bool.false_ne_true]; rfl⟩
    · exact ⟨_, rfl⟩
  obtain ⟨rest', hrest'⟩ := hback
  rw [trim, Text.trimBy, hfront, hrest']
  exact isDrivePath_iff.2 ⟨letter, separator, rest'.reverse, by simp, hletter, hseparator⟩

theorem isDrivePath_normalizeWindows (h : isDrivePath (trim value) = true) :
    isDrivePath (normalizeWindows value) = true := by
  obtain ⟨letter, separator, rest, htrim, hletter, hseparator⟩ := isDrivePath_iff.1 h
  obtain ⟨-, rest', hstarts⟩ := normalizeWindows_drive htrim hletter hseparator
  exact isDrivePath_iff.2 ⟨letter, '/', rest', hstarts, hletter, .inl rfl⟩

theorem isDrivePath_append {text : List Char} (h : isDrivePath text = true) (more : List Char) :
    isDrivePath (text ++ more) = true := by
  obtain ⟨letter, separator, rest, rfl, hletter, hseparator⟩ := isDrivePath_iff.1 h
  exact isDrivePath_iff.2 ⟨letter, separator, rest ++ more, rfl, hletter, hseparator⟩

/-- What is joined to a path below a drive is below a drive. -/
theorem isDrivePath_joinWindows {root part : List Char} (parts : List (List Char)) (h : isDrivePath (trim root) = true)
    (hpart : part ≠ []) : isDrivePath (joinWindows (root :: part :: parts)) = true := by
  obtain ⟨before, after, hroot, hbefore, -⟩ := Text.trimBy_split isBlank root
  have hne : root ≠ [] := by
    rintro rfl
    cases h
  have hjoin : ∃ more, ['/'].intercalate ((root :: part :: parts).filter fun part => !part.isEmpty) = root ++ more := by
    rw [List.filter_cons_of_pos (by simpa using hne), List.filter_cons_of_pos (by simpa using hpart)]
    rw [List.intercalate_cons_cons, List.append_assoc]
    exact ⟨_, rfl⟩
  obtain ⟨more, hmore⟩ := hjoin
  have hsplit : root ++ more = before ++ (trim root ++ (after ++ more)) := by
    conv_lhs => rw [hroot]
    simp only [List.append_assoc]
    rfl
  rw [joinWindows, hmore]
  apply isDrivePath_normalizeWindows
  rw [hsplit]
  exact isDrivePath_trim hbefore (isDrivePath_append h _)

theorem isDrivePath_of_isSafe (h : isSafeCandidatePath false (some value) = true) : isDrivePath (trim value) = true := by
  obtain ⟨-, -, -, hdrive | ⟨hfalse, -⟩⟩ := isSafeCandidatePath_iff.1 h
  · exact hdrive
  · cases hfalse

/-! ### Origins -/

/-- The directories of the two vendors. -/
def vendors : List (NodeJavaDetectionSources × String) := [(.adoptium, "Eclipse Adoptium"), (.java, "Java")]

/-- The directory of a vendor, below a root that is named. -/
inductive VendorRoot (toLowerCase : List Char → List Char) (options : DetectOptions) :
    NodeJavaDetectionSources → List Char → Prop
  | below {root : List Char} {source : NodeJavaDetectionSources} {directory : String}
    (named : some root ∈ programFilesRoots toLowerCase options.env options.programFilesRoots)
    (safe : isSafeCandidatePath false (some root) = true) (ofVendor : (source, directory) ∈ vendors) :
    VendorRoot toLowerCase options source (joinWindows [root, directory.toList])

/-- Where a path comes from, after these calls. -/
inductive Origin (toLowerCase : List Char → List Char) (options : DetectOptions)
    (calls : List (Answered DetectOp DetectOp.Answer)) : NodeJavaDetectionSources → List Char → Prop
  | configured {path : List Char} (given : options.configuredPath = some path) :
    Origin toLowerCase options calls .configuredPath path
  | home {javaHome : String} (named : options.env.lookup "JAVA_HOME" = some javaHome)
    (safe : isSafeCandidatePath false (some javaHome.toList) = true) :
    Origin toLowerCase options calls .javaHome (joinWindows [javaHome.toList, "bin".toList, javaExe])
  | entry {pathEntry : List Char} (allowed : options.allowPathCandidates = true)
    (named : pathEntry ∈ options.pathCandidates.getD (pathCandidatesFromEnv (envValue toLowerCase options.env "PATH")))
    (safe : isSafeCandidatePath false (some pathEntry) = true) :
    Origin toLowerCase options calls .path (joinWindows [pathEntry, javaExe])
  | vendor {name vendorRoot javaPath : List Char} {names : List (List Char)} {source : NodeJavaDetectionSources}
    (below : VendorRoot toLowerCase options source vendorRoot) (listed : ⟨.readdir vendorRoot, some names⟩ ∈ calls)
    (mem : name ∈ names) (segment : isEntryName name = true)
    (inside : javaPath = joinWindows [vendorRoot, name, "bin".toList, javaExe])
    (present : ⟨.exists_ javaPath, true⟩ ∈ calls) :
    Origin toLowerCase options calls source javaPath

theorem Origin.mono {calls calls' : List (Answered DetectOp DetectOp.Answer)} {source : NodeJavaDetectionSources}
    (h : Origin toLowerCase options calls source path) (hcalls : calls ⊆ calls') :
    Origin toLowerCase options calls' source path := by
  cases h with
  | configured given => exact .configured given
  | home named safe => exact .home named safe
  | entry allowed named safe => exact .entry allowed named safe
  | vendor below listed mem segment inside present =>
    exact .vendor below (hcalls listed) mem segment inside (hcalls present)

theorem ne_nil_of_isEntryName {name : List Char} (h : isEntryName name = true) : name ≠ [] := by
  rintro rfl
  cases h

theorem vendors_ne_nil {source : NodeJavaDetectionSources} {directory : String} (h : (source, directory) ∈ vendors) :
    directory.toList ≠ [] := by
  rcases List.mem_cons.1 h with h | h
  · cases h
    decide
  · cases List.mem_singleton.1 h
    decide

/-- Only a configured path may lie elsewhere than below a drive. -/
theorem Origin.isDrivePath {calls : List (Answered DetectOp DetectOp.Answer)} {source : NodeJavaDetectionSources}
    (h : Origin toLowerCase options calls source path) (hsource : source ≠ .configuredPath) :
    isDrivePath (normalizeWindows path) = true := by
  have htrim : ∀ text, JavaDetection.isDrivePath text = true → JavaDetection.isDrivePath (trim text) = true :=
    fun text htext => isDrivePath_trim (List.forall_mem_nil _) htext
  apply isDrivePath_normalizeWindows
  apply htrim
  cases h with
  | configured given => exact absurd rfl hsource
  | home named safe => exact isDrivePath_joinWindows _ (isDrivePath_of_isSafe safe) (by decide)
  | entry allowed named safe => exact isDrivePath_joinWindows _ (isDrivePath_of_isSafe safe) (by decide)
  | vendor below listed mem segment inside present =>
    obtain ⟨named, safe, ofVendor⟩ := below
    subst inside
    have hroot := isDrivePath_joinWindows [] (isDrivePath_of_isSafe safe) (vendors_ne_nil ofVendor)
    exact isDrivePath_joinWindows _ (htrim _ hroot) (ne_nil_of_isEntryName segment)

/-! ### Collecting -/

/-- A call that runs no program. -/
def NoRun (called : Answered DetectOp DetectOp.Answer) : Prop :=
  ∀ path args, called.op ≠ .execFile path args

/-- What the loops over the directories have collected: nothing is run, every candidate has an origin, and every file
that exists is a candidate. -/
structure Collected (toLowerCase : List Char → List Char) (options : DetectOptions)
    (s s' : Session DetectOp DetectOp.Answer Unit σ) (candidates : List RawCandidate) : Prop where
  added : Script.Adds NoRun s s'
  origin : ∀ candidate ∈ candidates, ∃ path, candidate.path = some path ∧
    Origin toLowerCase options s'.history candidate.source path
  complete : ∀ path, ⟨.exists_ path, true⟩ ∈ s'.history →
    ⟨.exists_ path, true⟩ ∈ s.history ∨ ∃ candidate ∈ candidates, candidate.path = some path

theorem Collected.refl (s : Session DetectOp DetectOp.Answer Unit σ) : Collected toLowerCase options s s [] :=
  ⟨.refl s, List.forall_mem_nil _, fun _ h => .inl h⟩

theorem Collected.trans {s'' : Session DetectOp DetectOp.Answer Unit σ} {candidates candidates' : List RawCandidate}
    (h : Collected toLowerCase options s s' candidates) (h' : Collected toLowerCase options s' s'' candidates') :
    Collected toLowerCase options s s'' (candidates ++ candidates') := by
  refine ⟨h.added.trans h'.added, List.forall_mem_append.2 ⟨?_, h'.origin⟩, ?_⟩
  · intro candidate hmem
    obtain ⟨path, hpath, horigin⟩ := h.origin candidate hmem
    exact ⟨path, hpath, horigin.mono h'.added.extends_.subset⟩
  · intro path hpath
    rcases h'.complete path hpath with hpath | ⟨candidate, hmem, hcandidate⟩
    · rcases h.complete path hpath with hpath | ⟨candidate, hmem, hcandidate⟩
      · exact .inl hpath
      · exact .inr ⟨candidate, List.mem_append_left _ hmem, hcandidate⟩
    · exact .inr ⟨candidate, List.mem_append_right _ hmem, hcandidate⟩

/-- A loop over directories returns what it has collected. -/
def Collects (toLowerCase : List Char → List Char) (options : DetectOptions)
    (s : Session DetectOp DetectOp.Answer Unit σ) (out : Except Empty (List RawCandidate))
    (s' : Session DetectOp DetectOp.Answer Unit σ) : Prop :=
  ∃ candidates, out = .ok candidates ∧ Collected toLowerCase options s s' candidates

/-- One collection after another. -/
theorem Collects.then {p : Detection (List RawCandidate)} {f : List RawCandidate → Detection (List RawCandidate)}
    (hp : Ends env A p s (Collects toLowerCase options s))
    (hf : ∀ candidates s', Collected toLowerCase options s s' candidates →
      Ends env A (f candidates) s' (Collects toLowerCase options s)) :
    Ends env A (p >>= f) s (Collects toLowerCase options s) := by
  refine hp.bind ?_ fun e => nomatch e
  rintro candidates s' ⟨_, hout, hcollected⟩
  cases hout
  exact hf candidates s' hcollected

private theorem exists_eq {path javaPath : List Char} {answer : Bool}
    (h : (⟨.exists_ path, true⟩ : Answered DetectOp DetectOp.Answer) = ⟨.exists_ javaPath, answer⟩) :
    path = javaPath ∧ answer = true := by
  cases h
  exact ⟨rfl, rfl⟩

/-- The question whether a file exists. -/
theorem collected_exists {javaPath : List Char} {source : NodeJavaDetectionSources} (vendor : Option String)
    (horigin : ⟨.exists_ javaPath, true⟩ ∈ (s.answer env (.exists_ javaPath)).history →
      Origin toLowerCase options (s.answer env (.exists_ javaPath)).history source javaPath) :
    Collected toLowerCase options s (s.answer env (.exists_ javaPath))
      (if (env (.exists_ javaPath) s.world).1 = true then [⟨some javaPath, source, vendor⟩] else []) := by
  refine ⟨.answer fun _ _ => nofun, ?_, ?_⟩
  · intro candidate hmem
    split at hmem
    · rename_i hfound
      rw [List.mem_singleton] at hmem
      subst hmem
      exact ⟨javaPath, rfl, horigin (List.mem_append_right _ (by rw [hfound]; exact List.mem_singleton_self _))⟩
    · cases hmem
  · intro path hpath
    rcases List.mem_append.1 hpath with hpath | hpath
    · exact .inl hpath
    · right
      obtain ⟨rfl, hanswer⟩ := exists_eq (List.mem_singleton.1 hpath)
      rw [if_pos hanswer]
      exact ⟨_, List.mem_singleton_self _, rfl⟩

theorem entryCandidates_ends {vendorRoot : List Char} {source : NodeJavaDetectionSources} {listing : List (List Char)}
    (vendor : String) (below : VendorRoot toLowerCase options source vendorRoot) (names : List (List Char))
    (hnames : names ⊆ listing) (listed : ⟨.readdir vendorRoot, some listing⟩ ∈ s.history) :
    Ends env A (entryCandidates vendorRoot source vendor names) s (Collects toLowerCase options s) := by
  induction names generalizing s with
  | nil => exact ⟨[], rfl, .refl s⟩
  | cons name names ih =>
    obtain ⟨hname, hnames⟩ := List.cons_subset.1 hnames
    rw [entryCandidates]
    split
    · rename_i hsegment
      rw [ends_bind]
      intro _
      have hlisted : ⟨.readdir vendorRoot, some listing⟩ ∈
          (s.answer env (.exists_ (joinWindows [vendorRoot, name, "bin".toList, javaExe]))).history :=
        List.mem_append_left _ listed
      refine (ih hnames hlisted).bind ?_ fun e => nomatch e
      rintro candidates s' ⟨_, hout, hcollected⟩
      cases hout
      have hfirst := collected_exists (some vendor) fun present => .vendor below hlisted hname hsegment rfl present
      have happend := hfirst.trans hcollected
      refine ⟨_, rfl, ?_⟩
      split at happend <;> rename_i hfound
      · rw [if_pos hfound]
        exact happend
      · rw [if_neg hfound]
        exact happend
    · exact ih hnames listed

theorem collected_readdir (vendorRoot : List Char) :
    Collected toLowerCase options s (s.answer env (.readdir vendorRoot)) [] := by
  refine ⟨.answer fun _ _ => nofun, List.forall_mem_nil _, fun path hpath => .inl ?_⟩
  rcases List.mem_append.1 hpath with hpath | hpath
  · exact hpath
  · cases List.mem_singleton.1 hpath

theorem vendorCandidates_ends {vendorRoot : List Char} {source : NodeJavaDetectionSources} (vendor : String)
    (below : VendorRoot toLowerCase options source vendorRoot) :
    Ends env A (vendorCandidates vendorRoot source vendor) s (Collects toLowerCase options s) := by
  rw [vendorCandidates, ends_bind]
  intro _
  have hread : Collected toLowerCase options s (s.answer env (.readdir vendorRoot)) [] := collected_readdir vendorRoot
  have hentries : Ends env A
      (entryCandidates vendorRoot source vendor (Option.getD (env (.readdir vendorRoot) s.world).1 []))
      (s.answer env (.readdir vendorRoot)) (Collects toLowerCase options (s.answer env (.readdir vendorRoot))) := by
    cases hentries : (env (.readdir vendorRoot) s.world).1 with
    | none => exact ⟨[], rfl, .refl _⟩
    | some listing =>
      refine entryCandidates_ends vendor below listing (List.Subset.refl _) (List.mem_append_right _ ?_)
      rw [← hentries]
      exact List.mem_singleton_self _
  refine hentries.mono ?_
  rintro out s' ⟨candidates, hout, hcollected⟩
  exact ⟨candidates, hout, hread.trans hcollected⟩

theorem programFilesJavaCandidates_ends {root : Option (List Char)}
    (named : root ∈ programFilesRoots toLowerCase options.env options.programFilesRoots) :
    Ends env A (programFilesJavaCandidates root) s (Collects toLowerCase options s) := by
  rw [programFilesJavaCandidates]
  split
  · rename_i safe
    obtain ⟨root, rfl⟩ : ∃ text, root = some text := by
      cases root with
      | none => cases safe
      | some text => exact ⟨text, rfl⟩
    have hadoptium : VendorRoot toLowerCase options .adoptium (joinWindows [root, "Eclipse Adoptium".toList]) :=
      .below named safe (by simp [vendors])
    have hjava : VendorRoot toLowerCase options .java (joinWindows [root, "Java".toList]) :=
      .below named safe (by simp [vendors])
    refine Collects.then (vendorCandidates_ends "Eclipse Adoptium" hadoptium) fun adoptium s₁ h₁ => ?_
    refine (vendorCandidates_ends "Oracle" hjava).bind ?_ fun e => nomatch e
    rintro java s₂ ⟨_, hout, h₂⟩
    cases hout
    exact ⟨_, rfl, h₁.trans h₂⟩
  · exact ⟨[], rfl, .refl s⟩

theorem rootsCandidates_ends {roots : List (Option (List Char))}
    (named : roots ⊆ programFilesRoots toLowerCase options.env options.programFilesRoots) :
    Ends env A (rootsCandidates roots) s (Collects toLowerCase options s) := by
  induction roots generalizing s with
  | nil => exact ⟨[], rfl, .refl s⟩
  | cons root roots ih =>
    obtain ⟨hroot, hroots⟩ := List.cons_subset.1 named
    refine Collects.then (programFilesJavaCandidates_ends hroot) fun candidates s₁ h₁ => ?_
    refine (ih hroots).bind ?_ fun e => nomatch e
    rintro rest s₂ ⟨_, hout, h₂⟩
    cases hout
    exact ⟨_, rfl, h₁.trans h₂⟩

/-! ### One candidate for every path -/

/-- A candidate is what has been made of a safe raw candidate. -/
def MadeOf (allowNetworkPaths : Bool) (candidate : Candidate) (raw : RawCandidate) : Prop :=
  ∃ path, raw.path = some path ∧ isSafeCandidatePath allowNetworkPaths (some path) = true ∧
    candidate = ⟨normalizeWindows path, raw.source, raw.vendor⟩

theorem mem_dedupeFrom {candidate : Candidate} {raws : List RawCandidate} {seen : List (List Char)}
    (h : candidate ∈ dedupeFrom toLowerCase allowNetworkPaths seen raws) :
    toLowerCase candidate.path ∉ seen ∧ ∃ raw ∈ raws, MadeOf allowNetworkPaths candidate raw := by
  induction raws generalizing seen with
  | nil => cases h
  | cons raw raws ih =>
    have hlater : ∀ {seen'}, seen ⊆ seen' → candidate ∈ dedupeFrom toLowerCase allowNetworkPaths seen' raws →
        toLowerCase candidate.path ∉ seen ∧ ∃ raw' ∈ raw :: raws, MadeOf allowNetworkPaths candidate raw' := by
      intro seen' hsubset hmem
      obtain ⟨hseen, raw', hraw', hmade⟩ := ih hmem
      exact ⟨fun hin => hseen (hsubset hin), raw', List.mem_cons_of_mem _ hraw', hmade⟩
    rw [dedupeFrom] at h
    split at h
    · rename_i hsafe
      obtain ⟨path, hpath⟩ : ∃ path, raw.path = some path := by
        cases hpath : raw.path with
        | none =>
          rw [hpath] at hsafe
          cases hsafe
        | some path => exact ⟨path, rfl⟩
      rw [hpath] at hsafe h
      dsimp only [Option.getD_some] at h
      split at h
      · exact hlater (List.Subset.refl _) h
      · rename_i hseen
        rcases List.mem_cons.1 h with rfl | h
        · exact ⟨fun hin => hseen (List.contains_iff_mem.2 hin), raw, List.mem_cons_self, path, hpath, hsafe, rfl⟩
        · exact hlater (List.subset_cons_self _ _) h
    · exact hlater (List.Subset.refl _) h

theorem nodup_dedupeFrom (seen : List (List Char)) (raws : List RawCandidate) :
    ((dedupeFrom toLowerCase allowNetworkPaths seen raws).map fun candidate => toLowerCase candidate.path).Nodup := by
  induction raws generalizing seen with
  | nil => exact List.nodup_nil
  | cons raw raws ih =>
    rw [dedupeFrom]
    dsimp only
    split
    · split
      · exact ih seen
      · refine List.nodup_cons.2 ⟨?_, ih _⟩
        intro hin
        obtain ⟨candidate, hmem, hkey⟩ := List.mem_map.1 hin
        exact (mem_dedupeFrom hmem).1 (List.mem_cons.2 (.inl hkey))
    · exact ih seen

/-- A safe path has its candidate, unless its key has been seen. -/
theorem dedupeFrom_complete {raw : RawCandidate} {raws : List RawCandidate} (seen : List (List Char))
    (hmem : raw ∈ raws) (hpath : raw.path = some path) (hsafe : isSafeCandidatePath allowNetworkPaths (some path) = true) :
    toLowerCase (normalizeWindows path) ∈ seen ∨
      ∃ candidate ∈ dedupeFrom toLowerCase allowNetworkPaths seen raws,
        toLowerCase candidate.path = toLowerCase (normalizeWindows path) := by
  induction raws generalizing seen with
  | nil => cases hmem
  | cons raw' raws ih =>
    rw [dedupeFrom]
    dsimp only
    rcases List.mem_cons.1 hmem with rfl | hmem
    · rw [hpath, if_pos hsafe, Option.getD_some]
      split
      · rename_i hseen
        exact .inl (List.contains_iff_mem.1 hseen)
      · exact .inr ⟨_, List.mem_cons_self, rfl⟩
    · split
      · split
        · exact ih seen hmem
        · rcases ih _ hmem with hseen | ⟨candidate, hcandidate, hkey⟩
          · rcases List.mem_cons.1 hseen with hkey | hseen
            · exact .inr ⟨_, List.mem_cons_self, hkey.symm⟩
            · exact .inl hseen
          · exact .inr ⟨candidate, List.mem_cons_of_mem _ hcandidate, hkey⟩
      · exact ih seen hmem

/-! ### The candidates -/

/-- What the candidates are, after the calls that have been made for them. -/
structure Candidates (toLowerCase : List Char → List Char) (options : DetectOptions)
    (calls : List (Answered DetectOp DetectOp.Answer)) (candidates : List Candidate) : Prop where
  origin : ∀ candidate ∈ candidates, ∃ path, Origin toLowerCase options calls candidate.source path ∧
    isSafeCandidatePath options.allowNetworkPaths (some path) = true ∧ candidate.path = normalizeWindows path
  distinct : (candidates.map fun candidate => toLowerCase candidate.path).Nodup
  complete : ∀ source path, Origin toLowerCase options calls source path →
    isSafeCandidatePath options.allowNetworkPaths (some path) = true →
    ∃ candidate ∈ candidates, toLowerCase candidate.path = toLowerCase (normalizeWindows path)

theorem origin_of_given {calls : List (Answered DetectOp DetectOp.Answer)} {raw : RawCandidate}
    (hraw : raw ∈ givenCandidates toLowerCase options) (hpath : raw.path = some path) :
    Origin toLowerCase options calls raw.source path := by
  rcases List.mem_append.1 hraw with hraw | hraw
  · rcases List.mem_cons.1 hraw with rfl | hraw
    · exact .configured hpath
    · obtain rfl := List.mem_singleton.1 hraw
      change javaExeFromHome _ = some path at hpath
      rw [javaExeFromHome] at hpath
      split at hpath
      · rename_i hsafe
        cases hhome : options.env.lookup "JAVA_HOME" with
        | none =>
          rw [hhome] at hsafe
          cases hsafe
        | some javaHome =>
          rw [hhome] at hsafe hpath
          cases hpath
          exact .home hhome hsafe
      · cases hpath
  · split at hraw
    · rename_i hallowed
      obtain ⟨pathEntry, hentry, rfl⟩ := List.mem_map.1 hraw
      change javaExeFromPathEntry _ = some path at hpath
      rw [javaExeFromPathEntry] at hpath
      split at hpath
      · rename_i hsafe
        cases hpath
        exact .entry hallowed hentry hsafe
      · cases hpath
    · cases hraw

theorem raw_of_origin {calls : List (Answered DetectOp DetectOp.Answer)} {source : NodeJavaDetectionSources}
    {found : List RawCandidate} (h : Origin toLowerCase options calls source path)
    (hfound : ⟨.exists_ path, true⟩ ∈ calls → ∃ raw ∈ found, raw.path = some path) :
    ∃ raw ∈ givenCandidates toLowerCase options ++ found, raw.path = some path := by
  cases h with
  | configured given => exact ⟨⟨options.configuredPath, .configuredPath, none⟩, by simp [givenCandidates], given⟩
  | home named safe =>
    refine ⟨⟨javaExeFromHome ((options.env.lookup "JAVA_HOME").map String.toList), .javaHome, none⟩,
      by simp [givenCandidates], ?_⟩
    rw [named, Option.map_some, javaExeFromHome, if_pos safe]
    rfl
  | @entry pathEntry allowed named safe =>
    refine ⟨⟨javaExeFromPathEntry pathEntry, .path, none⟩, ?_, ?_⟩
    · rw [givenCandidates, if_pos allowed]
      exact List.mem_append_left _ (List.mem_append_right _ (List.mem_map.2 ⟨pathEntry, named, rfl⟩))
    · change javaExeFromPathEntry pathEntry = _
      rw [javaExeFromPathEntry, if_pos safe]
  | vendor below listed mem segment inside present =>
    obtain ⟨raw, hraw, hpath⟩ := hfound present
    exact ⟨raw, List.mem_append_right _ hraw, hpath⟩

/-- The calls that collect the candidates run nothing; the candidates are those that have an origin. -/
theorem createWindowsJavaCandidates_ends (hempty : s.history = []) :
    Ends env A (createWindowsJavaCandidates toLowerCase options) s fun out s' =>
      ∃ candidates, out = .ok candidates ∧ Script.Adds NoRun s s' ∧
        Candidates toLowerCase options s'.history candidates := by
  rw [createWindowsJavaCandidates]
  refine (rootsCandidates_ends (List.Subset.refl _)).bind ?_ fun e => nomatch e
  rintro found s' ⟨_, hout, hcollected⟩
  cases hout
  refine ⟨_, rfl, hcollected.added, ?_, nodup_dedupeFrom _ _, ?_⟩
  · intro candidate hmem
    obtain ⟨-, raw, hraw, path, hpath, hsafe, rfl⟩ := mem_dedupeFrom hmem
    refine ⟨path, ?_, hsafe, rfl⟩
    rcases List.mem_append.1 hraw with hraw | hraw
    · exact origin_of_given hraw hpath
    · obtain ⟨path', hpath', horigin⟩ := hcollected.origin raw hraw
      cases hpath.symm.trans hpath'
      exact horigin
  · intro source path horigin hsafe
    have hfound : ⟨.exists_ path, true⟩ ∈ s'.history → ∃ raw ∈ found, raw.path = some path := by
      intro hmem
      rcases hcollected.complete path hmem with hbefore | hfound
      · rw [hempty] at hbefore
        cases hbefore
      · exact hfound
    obtain ⟨raw, hraw, hpath⟩ := raw_of_origin horigin hfound
    rcases dedupeFrom_complete [] hraw hpath hsafe with hseen | hcandidate
    · cases hseen
    · exact hcandidate

end EasyMc.Runtime.JavaDetection
