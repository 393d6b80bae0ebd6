import EasyMc.Packs.Mrpack

/-!
# When a template can be judged at all

`validateMrpackTemplate` and `buildMrpackManifest` are meant to answer for any JSON.  They throw where a value is read
that has no such member: the template or a file is `null`, a path is no text, a path names a property of every
object, or a value whose text is tested has a `toString` of its own.  `returns_iff` says that these are all the cases.
-/

namespace EasyMc.Packs

open Json (coalesce get isStr textOf)
open Throwing (Returns bind_eq_ok returns_bind_iff returns_bind_ok returns_mapM_iff)

variable {builtins : Builtins} {template file artifact : Json} {firstPartyArtifacts : Option Json}
  {approvedFiles : JsMap String Lock}

/-! ### Hashes -/

/-- The hashes can be tested; the second is tested only if the first is one. -/
structure HashesReadable (hashes : Option Json) : Prop where
  sha1 : (get "sha1" hashes).all Json.hasText = true
  sha512 : isSha1 (get "sha1" hashes) = .ok true → (get "sha512" hashes).all Json.hasText = true

theorem returns_testHash {length : Nat} {value : Option Json} :
    Returns (testHash length value) ↔ value.all Json.hasText = true := by
  rw [testHash, returns_bind_ok, Json.returns_textOf]
  cases value with
  | none => exact ⟨fun _ => rfl, fun _ => rfl⟩
  | some value => cases value <;> exact Iff.rfl

theorem returns_hasHashes {hashes : Option Json} : Returns (hasHashes hashes) ↔ HashesReadable hashes := by
  have hsha1 : Returns (isSha1 (get "sha1" hashes)) ↔ (get "sha1" hashes).all Json.hasText = true := returns_testHash
  have hsha512 : Returns (isSha512 (get "sha512" hashes)) ↔ (get "sha512" hashes).all Json.hasText = true :=
    returns_testHash
  rw [hasHashes, returns_bind_iff]
  constructor
  · rintro ⟨answer, hanswer, hrest⟩
    refine ⟨hsha1.1 ⟨answer, hanswer⟩, fun htrue => ?_⟩
    have heq : answer = true := Except.ok.inj (hanswer.symm.trans htrue)
    subst heq
    exact hsha512.1 hrest
  · intro h
    obtain ⟨answer, hanswer⟩ := hsha1.2 h.sha1
    refine ⟨answer, hanswer, ?_⟩
    cases answer with
    | true => exact hsha512.2 (h.sha512 hanswer)
    | false => exact Throwing.returns_ok false

/-! ### Supplied locks -/

/-- A supplied lock can be judged. -/
structure ArtifactReadable (artifact : Json) : Prop where
  path : (artifact.member "path").all Json.hasText = true
  hashes : HashesReadable (artifact.member "hashes")

theorem returns_pathIssues {path : Option Json} : Returns (pathIssues path) ↔ path.all Json.hasText = true := by
  unfold pathIssues
  split
  · rename_i hfirstParty
    unfold isFirstPartyPath at hfirstParty
    split at hfirstParty
    · simp [Json.hasText]
    · cases hfirstParty
  · rw [returns_bind_ok, Json.returns_textOf]
    cases path with
    | none => exact ⟨fun _ => rfl, fun _ => rfl⟩
    | some path => cases path <;> exact Iff.rfl

theorem returns_validateSingle :
    Returns (validateSingleFirstPartyArtifactLock builtins artifact) ↔ ArtifactReadable artifact := by
  rw [validateSingleFirstPartyArtifactLock, Throwing.returns_bind_bind, returns_pathIssues, returns_hasHashes]
  exact ⟨fun h => ⟨h.1, h.2⟩, fun h => ⟨h.path, h.hashes⟩⟩

/-- The supplied locks. -/
def suppliedLocks (firstPartyArtifacts : Option Json) : List Json :=
  match firstPartyArtifacts with
  | some (.arr artifacts) => artifacts
  | _ => []

theorem returns_collect : Returns (collectFirstPartyArtifactLockIssues builtins firstPartyArtifacts) ↔
    ∀ artifact ∈ suppliedLocks firstPartyArtifacts, ArtifactReadable artifact := by
  have hissues : ∀ artifact, Returns (artifactIssues builtins artifact) ↔ ArtifactReadable artifact := by
    intro artifact
    rw [artifactIssues, returns_bind_ok, returns_validateSingle]
  unfold collectFirstPartyArtifactLockIssues
  split
  · simp [suppliedLocks]
  · rw [returns_bind_ok, returns_mapM_iff]
    exact forall_congr' fun artifact => imp_congr_right fun _ => hissues artifact
  · rename_i value hvalue
    have hnone : suppliedLocks (some value) = [] := by
      unfold suppliedLocks
      split
      · rename_i artifacts heq
        exact absurd (Option.some.inj heq) (hvalue artifacts)
      · rfl
    simp [hnone]

theorem returns_createApproved (h : ∀ artifact ∈ suppliedLocks firstPartyArtifacts, ArtifactReadable artifact) :
    Returns (createApprovedFileLock builtins firstPartyArtifacts) := by
  have hlock : ∀ artifact ∈ suppliedLocks firstPartyArtifacts, Returns (normalizedLock builtins artifact) := by
    intro artifact hartifact
    obtain ⟨issues, hissues⟩ := returns_validateSingle.2 (h artifact hartifact)
    rw [normalizedLock, returns_bind_iff]
    refine ⟨issues, hissues, ?_⟩
    split <;> exact Throwing.returns_ok _
  rw [createApprovedFileLock, returns_bind_ok]
  unfold normalizeFirstPartyArtifactLocks
  split
  · rw [returns_bind_ok, returns_mapM_iff]
    exact hlock
  · exact Throwing.returns_ok _

/-! ### The table of the approved files -/

/-- The paths that something can be approved for. -/
def knownPaths : List String := mvp0ApprovedFiles.map Prod.fst ++ firstPartyArtifactPaths

theorem isFirstPartyPath_of_pathIssues {path : Option Json} (h : pathIssues path = .ok []) :
    isFirstPartyPath path = true := by
  unfold pathIssues at h
  split at h
  · assumption
  · obtain ⟨text, -, h⟩ := bind_eq_ok.1 h
    cases h

/-- A supplied lock without issues. -/
theorem pathIssues_of_no_issues (h : validateSingleFirstPartyArtifactLock builtins artifact = .ok []) :
    pathIssues (artifact.member "path") = .ok [] := by
  obtain ⟨path, hpath, h⟩ := bind_eq_ok.1 h
  obtain ⟨hashes, -, h⟩ := bind_eq_ok.1 h
  have hnil := Except.ok.inj h
  simp only [List.append_eq_nil_iff] at hnil
  rw [hpath, hnil.1.1.1]

/-- What is put into the table for a supplied lock. -/
theorem normalizedLock_some {path : String} {lock : Lock}
    (h : normalizedLock builtins artifact = .ok (some (path, lock))) :
    validateSingleFirstPartyArtifactLock builtins artifact = .ok [] ∧ artifact.member "path" = some (.str path) ∧
      lock = lockOf artifact := by
  obtain ⟨issues, hissues, h⟩ := bind_eq_ok.1 h
  split at h
  · rename_i text hpath
    have heq := Option.some.inj (Except.ok.inj h)
    obtain ⟨rfl, rfl⟩ := Prod.mk.inj heq
    exact ⟨hissues, hpath, rfl⟩
  · cases h

/-- A path that is approved is a known one. -/
theorem mem_knownPaths_of_get (h : createApprovedFileLock builtins firstPartyArtifacts = .ok approvedFiles)
    {path : String} {lock : Lock} (hget : approvedFiles.get path = some lock) : path ∈ knownPaths := by
  obtain ⟨locks, hlocks, h⟩ := bind_eq_ok.1 h
  cases h
  refine JsMap.get_ofEntries_of_forall (P := fun path _ => path ∈ knownPaths) ?_ hget
  intro entry hentry
  rcases List.mem_append.1 hentry with hbuiltin | hsupplied
  · exact List.mem_append_left _ (List.mem_map_of_mem hbuiltin)
  · unfold normalizeFirstPartyArtifactLocks at hlocks
    split at hlocks
    · obtain ⟨found, hfound, hlocks⟩ := bind_eq_ok.1 hlocks
      cases hlocks
      obtain ⟨normalized, hnormalized, heq⟩ := List.mem_filterMap.1 hsupplied
      obtain ⟨artifact, -, hlock⟩ := Throwing.exists_of_mem_mapM hfound hnormalized
      have hentry : normalized = some entry := heq
      subst hentry
      obtain ⟨hissues, hpath, -⟩ := normalizedLock_some hlock
      have hknown := isFirstPartyPath_of_pathIssues (pathIssues_of_no_issues hissues)
      rw [hpath] at hknown
      refine List.mem_append_right _ ?_
      simpa [isFirstPartyPath] using hknown
    · cases hlocks
      cases hsupplied

/-! ### Files -/

/-- The path of a file can be read: it is not true of anything, a text, or an array with `".."` in it that has a text;
and a file without downloads has no path that names a property of every object. -/
structure PathReadable (file : Json) : Prop where
  shape : ∀ path, file.member "path" = some path → path.truthy = true → (∃ text, path = .str text) ∨
    ∃ values, path = .arr values ∧ .str ".." ∈ values ∧ path.hasText = true
  named : ∀ text ∈ objectPrototypeNames, file.member "path" = some (.str text) →
    file.member "downloads" ≠ none ∧ file.member "downloads" ≠ some (.arr [])

structure FileReadable (file : Json) : Prop where
  notNull : file.isNull = false
  path : PathReadable file
  hashes : HashesReadable (file.member "hashes")

theorem mem_of_any_isStr {values : List Json} {text : String} (h : (values.any fun value => isStr text (some value)) = true) :
    .str text ∈ values := by
  obtain ⟨value, hvalue, htext⟩ := List.any_eq_true.1 h
  unfold isStr at htext
  split at htext
  · rename_i found heq
    have hvalue' : value = .str text := by
      rw [Option.some.inj heq]
      simpa using htext
    exact hvalue' ▸ hvalue
  · cases htext

theorem any_isStr_of_mem {values : List Json} {text : String} (h : .str text ∈ values) :
    (values.any fun value => isStr text (some value)) = true :=
  List.any_eq_true.2 ⟨.str text, h, by simp [isStr]⟩

theorem returns_isUnsafePath {path : Option Json} :
    Returns (isUnsafePath path) ↔ ∀ value, path = some value → value.truthy = true →
      (∃ text, value = .str text) ∨ ∃ values, value = .arr values ∧ .str ".." ∈ values := by
  cases path with
  | none => simp [isUnsafePath]
  | some value =>
    simp only [isUnsafePath, Option.some.injEq, forall_eq']
    by_cases htruthy : value.truthy = true
    · rw [if_neg (by simp [htruthy])]
      simp only [htruthy, forall_const]
      cases value with
      | str text => simp
      | arr values =>
        by_cases hdots : (values.any fun value => isStr ".." (some value)) = true
        · have hmem := mem_of_any_isStr hdots
          simp [hdots, hmem]
        · have hnot : Json.str ".." ∉ values := fun hmem => hdots (any_isStr_of_mem hmem)
          simp [hdots, hnot]
      | null => simp
      | bool => simp
      | num => simp
      | obj => simp
    · rw [if_pos (by simp [htruthy])]
      simp [htruthy]

theorem sameArray_nil {value : Option Json} : sameArray value [] = true ↔ value = none ∨ value = some (.arr []) := by
  unfold sameArray
  split
  · simp
  · rename_i values
    cases values <;> simp
  · rename_i other hother
    simp only [reduceCtorEq, Option.some.injEq, false_or, Bool.false_eq_true, false_iff]
    exact hother []

private theorem no_dot_in_names : ∀ name ∈ objectPrototypeNames, '.' ∉ name.toList := by decide

private theorem names_unknown : ∀ name ∈ objectPrototypeNames, name ∉ knownPaths := by decide

/-- The path that names a property of every object is a text. -/
theorem path_of_text_mem_names {path : Option Json} {text : String}
    (hshape : ∀ value, path = some value → value.truthy = true → (∃ text, value = .str text) ∨
      ∃ values, value = .arr values ∧ .str ".." ∈ values)
    (htext : textOf path = .ok text) (hname : text ∈ objectPrototypeNames) : path = some (.str text) := by
  cases path with
  | none =>
    cases htext
    exact absurd hname (by decide)
  | some value =>
    by_cases htruthy : value.truthy = true
    · rcases hshape value rfl htruthy with ⟨part, rfl⟩ | ⟨values, rfl, hdots⟩
      · cases htext
        rfl
      · -- The text of the array has the dots of its entry, and none of the names has a dot.
        have hdot : '.' ∈ text.toList := Json.mem_toText_arr hdots (by decide) htext
        exact absurd hdot (no_dot_in_names text hname)
    · cases value with
      | null =>
        cases htext
        exact absurd hname (by decide)
      | bool answer =>
        have heq : answer = false := by simpa [Json.truthy] using htruthy
        subst heq
        cases htext
        exact absurd hname (by decide)
      | num number =>
        have heq : number = "0" := by simpa [Json.truthy] using htruthy
        subst heq
        cases htext
        exact absurd hname (by decide)
      | str part =>
        cases htext
        rfl
      | arr => exact absurd rfl htruthy
      | obj => exact absurd rfl htruthy

/-- A file whose path has a safe shape can be compared with the approved ones unless it names a property of every object
and has no downloads. -/
theorem returns_matchesApprovedFileLock (hknown : ∀ path lock, approvedFiles.get path = some lock → path ∈ knownPaths)
    (hshape : ∀ value, file.member "path" = some value → value.truthy = true → (∃ text, value = .str text) ∨
      ∃ values, value = .arr values ∧ .str ".." ∈ values) :
    Returns (matchesApprovedFileLock file approvedFiles) ↔
      (file.member "path").all Json.hasText = true ∧
        ∀ text ∈ objectPrototypeNames, file.member "path" = some (.str text) →
          file.member "downloads" ≠ none ∧ file.member "downloads" ≠ some (.arr []) := by
  rw [matchesApprovedFileLock, returns_bind_iff, ← Json.returns_textOf]
  constructor
  · rintro ⟨text, htext, hrest⟩
    refine ⟨⟨text, htext⟩, fun name hname hpath => ?_⟩
    rw [hpath] at htext
    have heq : name = text := Except.ok.inj htext
    subst heq
    have hnone : approvedFiles.get name = none := by
      rw [Option.eq_none_iff_forall_ne_some]
      exact fun lock hlock => names_unknown name hname (hknown name lock hlock)
    -- The table has no such path, so that the name is looked up in the prototype of the table.
    have hcontains : objectPrototypeNames.contains name = true := by simpa using hname
    rw [hnone, hcontains, Bool.true_and] at hrest
    rw [← not_or, ← sameArray_nil]
    intro hsame
    rw [hsame] at hrest
    exact Throwing.not_returns_error _ hrest
  · rintro ⟨⟨text, htext⟩, hnamed⟩
    refine ⟨text, htext, ?_⟩
    cases approvedFiles.get text with
    | some approved => exact Throwing.returns_ok _
    | none =>
      by_cases hname : text ∈ objectPrototypeNames
      · have hdownloads := hnamed text hname (path_of_text_mem_names hshape htext hname)
        rw [← not_or, ← sameArray_nil] at hdownloads
        simp [hdownloads]
      · simp [hname]

theorem pathReadable_iff : PathReadable file ↔
    Returns (isUnsafePath (file.member "path")) ∧ (file.member "path").all Json.hasText = true ∧
      ∀ text ∈ objectPrototypeNames, file.member "path" = some (.str text) →
        file.member "downloads" ≠ none ∧ file.member "downloads" ≠ some (.arr []) := by
  rw [returns_isUnsafePath]
  constructor
  · intro h
    refine ⟨?_, ?_, h.named⟩
    · intro path hpath htruthy
      rcases h.shape path hpath htruthy with htext | ⟨values, hvalues, hdots, -⟩
      · exact .inl htext
      · exact .inr ⟨values, hvalues, hdots⟩
    · cases hpath : file.member "path" with
      | none => rfl
      | some path =>
        rw [Option.all_some]
        by_cases htruthy : path.truthy = true
        · rcases h.shape path hpath htruthy with ⟨text, rfl⟩ | ⟨values, -, -, htext⟩
          · rfl
          · exact htext
        · cases path with
          | arr => exact absurd rfl htruthy
          | obj => exact absurd rfl htruthy
          | null => rfl
          | bool => rfl
          | num => rfl
          | str => rfl
  · rintro ⟨hshape, htext, hnamed⟩
    refine ⟨fun path hpath htruthy => ?_, hnamed⟩
    rcases hshape path hpath htruthy with hstr | ⟨values, hvalues, hdots⟩
    · exact .inl hstr
    · rw [hpath, Option.all_some] at htext
      exact .inr ⟨values, hvalues, hdots, htext⟩

theorem returns_validateFileMetadata
    (hknown : ∀ path lock, approvedFiles.get path = some lock → path ∈ knownPaths) :
    Returns (validateFileMetadata file approvedFiles) ↔ FileReadable file := by
  unfold validateFileMetadata
  cases hnull : file.isNull with
  | true =>
    simp only [if_true, Throwing.not_returns_error, false_iff]
    intro h
    simp [h.notNull] at hnull
  | false =>
    rw [if_neg (by simp), Throwing.returns_bind_bind_bind, returns_hasHashes]
    constructor
    · rintro ⟨hpath, hhashes, happroved⟩
      have hmatches := (returns_matchesApprovedFileLock hknown (returns_isUnsafePath.1 hpath)).1 happroved
      exact ⟨hnull, pathReadable_iff.2 ⟨hpath, hmatches.1, hmatches.2⟩, hhashes⟩
    · intro h
      obtain ⟨hpath, htext, hnamed⟩ := pathReadable_iff.1 h.path
      exact ⟨hpath, h.hashes,
        (returns_matchesApprovedFileLock hknown (returns_isUnsafePath.1 hpath)).2 ⟨htext, hnamed⟩⟩

/-! ### Templates -/

/-- A template and the supplied locks can be judged. -/
structure TemplateReadable (template : Json) (firstPartyArtifacts : Option Json) : Prop where
  notNull : template.isNull = false
  artifacts : ∀ artifact ∈ suppliedLocks firstPartyArtifacts, ArtifactReadable artifact
  files : ∀ file ∈ filesOf template, FileReadable file

theorem returns_validateMrpackTemplate : Returns (validateMrpackTemplate builtins template firstPartyArtifacts) ↔
    TemplateReadable template firstPartyArtifacts := by
  have hfiles : ∀ approvedFiles, createApprovedFileLock builtins firstPartyArtifacts = .ok approvedFiles →
      (Returns ((filesOf template).mapM (fileBlockers approvedFiles)) ↔ ∀ file ∈ filesOf template, FileReadable file) := by
    intro approvedFiles happroved
    rw [returns_mapM_iff]
    refine forall_congr' fun file => imp_congr_right fun _ => ?_
    rw [fileBlockers, returns_bind_ok]
    exact returns_validateFileMetadata fun path lock hget => mem_knownPaths_of_get happroved hget
  rw [validateMrpackTemplate, returns_bind_iff]
  constructor
  · rintro ⟨issues, hissues, hrest⟩
    have hartifacts := returns_collect.1 ⟨issues, hissues⟩
    obtain ⟨approvedFiles, happroved, hrest⟩ := returns_bind_iff.1 hrest
    cases hnull : template.isNull with
    | true => simp [hnull] at hrest
    | false =>
      rw [hnull, if_neg (by simp), returns_bind_ok] at hrest
      exact ⟨hnull, hartifacts, (hfiles approvedFiles happroved).1 hrest⟩
  · intro h
    obtain ⟨issues, hissues⟩ := returns_collect.2 h.artifacts
    have hreturns : Returns (createApprovedFileLock builtins firstPartyArtifacts) := returns_createApproved h.artifacts
    obtain ⟨approvedFiles, happroved⟩ := hreturns
    refine ⟨issues, hissues, returns_bind_iff.2 ⟨approvedFiles, happroved, ?_⟩⟩
    rw [h.notNull, if_neg (by simp), returns_bind_ok]
    exact (hfiles approvedFiles happroved).2 h.files

theorem returns_buildMrpackManifest : Returns (buildMrpackManifest builtins template firstPartyArtifacts) ↔
    Returns (validateMrpackTemplate builtins template firstPartyArtifacts) := by
  rw [buildMrpackManifest, returns_bind_iff]
  constructor
  · rintro ⟨validation, hvalidation, -⟩
    exact ⟨validation, hvalidation⟩
  · rintro ⟨validation, hvalidation⟩
    refine ⟨validation, hvalidation, ?_⟩
    split <;> exact Throwing.returns_ok _

/-- Both functions answer exactly if the template and the supplied locks can be judged. -/
theorem returns_iff (builtins : Builtins) (template : Json) (firstPartyArtifacts : Option Json) :
    (Returns (validateMrpackTemplate builtins template firstPartyArtifacts) ∧
        Returns (buildMrpackManifest builtins template firstPartyArtifacts)) ↔
      TemplateReadable template firstPartyArtifacts := by
  rw [returns_buildMrpackManifest, and_self]
  exact returns_validateMrpackTemplate

/-- A file that is `null`, and one whose path names a property of every object. -/
theorem unreadable_templates :
    ¬ Returns (validateMrpackTemplate ⟨fun _ => none, fun _ => 0⟩ (.obj [("files", .arr [.null])]) (some (.arr []))) ∧
      ¬ Returns (buildMrpackManifest ⟨fun _ => none, fun _ => 0⟩
        (.obj [("files", .arr [.obj [("path", .str "constructor")]])]) (some (.arr []))) := by
  decide +kernel

end EasyMc.Packs
