import Mathlib.Data.List.Find
import EasyMc.Packs.Totality

/-!
# The locks of a manifest

What a manifest that is built vouches for.  Each of its files is the one that is locked for its path (`lockFor`): by a
built-in lock, or by the last supplied lock of an artifact of this repository.  The supplied locks are valid,
with one exception: a hash is tested by its text, and an array with one hash in it has the same text.  So they
are valid exactly if their hashes are texts (`manifest_sound_iff`).
-/

namespace EasyMc.Packs

open Json (coalesce get isStr sameValueZero textOf)
open Throwing (Returns bind_eq_ok)

variable {builtins : Builtins} {template file artifact : Json} {firstPartyArtifacts : Option Json}
  {approvedFiles : JsMap String Lock} {manifest : Manifest}

/-! ### Valid locks -/

/-- A download from a host that is not set aside, over HTTPS and without credentials. -/
def IsPublicDownload (builtins : Builtins) (download : Json) : Prop :=
  ∃ text url, download = .str text ∧ builtins.parseUrl text = some url ∧ url.protocol = "https:" ∧
    url.username = "" ∧ url.password = "" ∧ isReservedArtifactHost builtins url.hostname = false

/-- A text of so many hexadecimal digits. -/
def IsHex (length : Nat) (value : Option Json) : Prop :=
  ∃ text, value = some (.str text) ∧ isHexText length text = true

structure ValidLock (builtins : Builtins) (artifact : Json) : Prop where
  path : ∃ path ∈ firstPartyArtifactPaths, artifact.member "path" = some (.str path)
  downloads : ∃ downloads, artifact.member "downloads" = some (.arr downloads) ∧ downloads ≠ [] ∧
    ∀ download ∈ downloads, IsPublicDownload builtins download
  sha1 : IsHex 40 (artifact.path ["hashes", "sha1"])
  sha512 : IsHex 128 (artifact.path ["hashes", "sha512"])
  size : Json.isPositiveInteger (artifact.member "fileSize") = true

/-- The hashes of a supplied lock are texts. -/
structure HashesAreTexts (artifact : Json) : Prop where
  sha1 : ∃ text, artifact.path ["hashes", "sha1"] = some (.str text)
  sha512 : ∃ text, artifact.path ["hashes", "sha512"] = some (.str text)

/-! ### Sound manifests -/

/-- What is locked for a path: the built-in lock, or the last supplied one of an artifact of this repository. -/
def lockFor (firstPartyArtifacts : Option Json) (path : String) : Option Lock :=
  match (JsMap.ofEntries mvp0ApprovedFiles).get path with
  | some lock => some lock
  | none =>
    if firstPartyArtifactPaths.contains path then
      ((suppliedLocks firstPartyArtifacts).reverse.find? fun artifact => isStr path (artifact.member "path")).map lockOf
    else none

/-- The file is the one that is locked. -/
structure IsLocked (file : Json) (lock : Lock) : Prop where
  downloads : file.member "downloads" = some (.arr lock.downloads)
  sha1 : file.path ["hashes", "sha1"] = some lock.sha1
  sha512 : file.path ["hashes", "sha512"] = some lock.sha512
  fileSize : file.member "fileSize" = lock.fileSize

structure SoundManifest (builtins : Builtins) (firstPartyArtifacts : Option Json) (manifest : Manifest) : Prop where
  files : ∃ files, manifest.files = some (.arr files) ∧ files ≠ [] ∧ ∀ file ∈ files, ∃ path lock,
    file.member "path" = some (.str path) ∧ lockFor firstPartyArtifacts path = some lock ∧ IsLocked file lock
  locks : ∀ artifact ∈ suppliedLocks firstPartyArtifacts, ValidLock builtins artifact

/-! ### Supplied locks without issues -/

theorem isPublicDownload_of_ready {download : Json}
    (h : (validateFirstPartyArtifactDownloadUrl builtins download).message? = none) :
    IsPublicDownload builtins download := by
  unfold validateFirstPartyArtifactDownloadUrl at h
  split at h
  · rename_i text
    split at h
    · cases h
    · cases hparse : builtins.parseUrl text with
      | none =>
        rw [hparse] at h
        cases h
      | some parsed =>
        rw [hparse] at h
        dsimp only at h
        split at h
        · cases h
        · rename_i hcredentials
          split at h
          · cases h
          · split at h
            · cases h
            · rename_i hreserved
              simp only [Bool.or_eq_true, bne_iff_ne, ne_eq, not_or, not_not] at hcredentials
              exact ⟨text, parsed, rfl, hparse, hcredentials.1.1, hcredentials.1.2, hcredentials.2,
                by simpa using hreserved⟩
  · cases h

theorem downloads_of_no_issues {downloads : Option Json} (h : downloadIssues builtins downloads = []) :
    ∃ values, downloads = some (.arr values) ∧ values ≠ [] ∧ ∀ download ∈ values, IsPublicDownload builtins download := by
  unfold downloadIssues at h
  split at h
  · rename_i download rest
    refine ⟨download :: rest, rfl, by simp, fun value hvalue => ?_⟩
    rw [List.filterMap_eq_nil_iff] at h
    exact isPublicDownload_of_ready (h value hvalue)
  · cases h

/-- What the test of a hash says of its text. -/
theorem hexText_of_testHash {length : Nat} {value : Option Json} (h : testHash length value = .ok true) :
    ∃ text, textOf (coalesce value (some (.str ""))) = .ok text ∧ isHexText length text = true := by
  obtain ⟨text, htext, h⟩ := bind_eq_ok.1 h
  exact ⟨text, htext, Except.ok.inj h⟩

/-- A text that passes the test of a hash is one. -/
theorem isHex_of_testHash {length : Nat} {text : String} (h : testHash length (some (.str text)) = .ok true) :
    IsHex length (some (.str text)) := by
  obtain ⟨text', htext, hhex⟩ := hexText_of_testHash h
  have heq : text = text' := Except.ok.inj htext
  exact ⟨text, rfl, heq ▸ hhex⟩

theorem hasHashes_true {hashes : Option Json} (h : hasHashes hashes = .ok true) :
    isSha1 (get "sha1" hashes) = .ok true ∧ isSha512 (get "sha512" hashes) = .ok true := by
  obtain ⟨sha1, hsha1, h⟩ := bind_eq_ok.1 h
  cases sha1 with
  | true => exact ⟨hsha1, h⟩
  | false => cases h

theorem firstPartyPath_of_isFirstPartyPath {path : Option Json} (h : isFirstPartyPath path = true) :
    ∃ text ∈ firstPartyArtifactPaths, path = some (.str text) := by
  unfold isFirstPartyPath at h
  split at h
  · rename_i text
    exact ⟨text, by simpa using h, rfl⟩
  · cases h

/-- What a supplied lock without issues is like. -/
theorem validateSingle_nil (h : validateSingleFirstPartyArtifactLock builtins artifact = .ok []) :
    isFirstPartyPath (artifact.member "path") = true ∧ downloadIssues builtins (artifact.member "downloads") = [] ∧
      hasHashes (artifact.member "hashes") = .ok true ∧
      Json.isPositiveInteger (artifact.member "fileSize") = true := by
  have hpath := isFirstPartyPath_of_pathIssues (pathIssues_of_no_issues h)
  obtain ⟨path, -, h⟩ := bind_eq_ok.1 h
  obtain ⟨hashes, hhashes, h⟩ := bind_eq_ok.1 h
  have hnil := Except.ok.inj h
  simp only [List.append_eq_nil_iff, ite_eq_left_iff, List.cons_ne_nil, imp_false, not_not] at hnil
  obtain ⟨⟨⟨-, hdownloads⟩, hhashesTrue⟩, hsize⟩ := hnil
  subst hhashesTrue
  exact ⟨hpath, hdownloads, hhashes, hsize⟩

/-- A supplied lock without issues is valid exactly if its hashes are texts. -/
theorem validLock_iff (h : validateSingleFirstPartyArtifactLock builtins artifact = .ok []) :
    ValidLock builtins artifact ↔ HashesAreTexts artifact := by
  obtain ⟨hpath, hdownloads, hhashes, hsize⟩ := validateSingle_nil h
  constructor
  · intro hvalid
    obtain ⟨sha1, hsha1, -⟩ := hvalid.sha1
    obtain ⟨sha512, hsha512, -⟩ := hvalid.sha512
    exact ⟨⟨sha1, hsha1⟩, ⟨sha512, hsha512⟩⟩
  · rintro ⟨⟨sha1, hsha1⟩, ⟨sha512, hsha512⟩⟩
    obtain ⟨htest1, htest512⟩ := hasHashes_true hhashes
    rw [← Json.path_pair, hsha1] at htest1
    rw [← Json.path_pair, hsha512] at htest512
    exact {
      path := firstPartyPath_of_isFirstPartyPath hpath
      downloads := downloads_of_no_issues hdownloads
      sha1 := hsha1 ▸ isHex_of_testHash htest1
      sha512 := hsha512 ▸ isHex_of_testHash htest512
      size := hsize }

/-! ### The table -/

/-- The path of a supplied lock, as a text. -/
def pathText (artifact : Json) : String := ((artifact.member "path").bind Json.asStr).getD ""

private theorem builtin_not_firstParty : ∀ path ∈ mvp0ApprovedFiles.map Prod.fst, path ∉ firstPartyArtifactPaths := by
  decide

/-- The locks that are made of supplied ones without issues. -/
theorem normalizedLocks_eq
    (hissues : ∀ artifact ∈ suppliedLocks firstPartyArtifacts,
      validateSingleFirstPartyArtifactLock builtins artifact = .ok []) :
    normalizeFirstPartyArtifactLocks builtins firstPartyArtifacts =
      .ok ((suppliedLocks firstPartyArtifacts).map fun artifact => (pathText artifact, lockOf artifact)) := by
  have hlock : ∀ artifact ∈ suppliedLocks firstPartyArtifacts,
      normalizedLock builtins artifact = .ok (some (pathText artifact, lockOf artifact)) := by
    intro artifact hartifact
    have hnone := hissues artifact hartifact
    obtain ⟨path, -, hpath⟩ := firstPartyPath_of_isFirstPartyPath (validateSingle_nil hnone).1
    rw [normalizedLock, hnone, Throwing.ok_bind, pathText, hpath]
    rfl
  unfold normalizeFirstPartyArtifactLocks
  split
  · rename_i artifacts
    have hall : artifacts.mapM (normalizedLock builtins) =
        .ok (artifacts.map fun artifact => some (pathText artifact, lockOf artifact)) :=
      Throwing.mapM_ok_of_forall hlock
    rw [hall, Throwing.ok_bind, List.filterMap_map]
    have hsome : (id ∘ fun artifact => some (pathText artifact, lockOf artifact)) =
        some ∘ fun artifact => (pathText artifact, lockOf artifact) := rfl
    rw [hsome, List.filterMap_eq_map]
    rfl
  · rename_i hnot
    have hnone : suppliedLocks firstPartyArtifacts = [] := by
      unfold suppliedLocks
      split
      · rename_i artifacts
        exact absurd rfl (hnot artifacts)
      · rfl
    rw [hnone, List.map_nil]

/-- The table holds for each path what is locked for it. -/
theorem get_approved
    (hissues : ∀ artifact ∈ suppliedLocks firstPartyArtifacts,
      validateSingleFirstPartyArtifactLock builtins artifact = .ok [])
    (h : createApprovedFileLock builtins firstPartyArtifacts = .ok approvedFiles) (path : String) :
    approvedFiles.get path = lockFor firstPartyArtifacts path := by
  rw [createApprovedFileLock, normalizedLocks_eq hissues, Throwing.ok_bind] at h
  cases h
  have hsupplied : (JsMap.ofEntries ((suppliedLocks firstPartyArtifacts).map fun artifact =>
      (pathText artifact, lockOf artifact))).get path =
      if firstPartyArtifactPaths.contains path then
        ((suppliedLocks firstPartyArtifacts).reverse.find? fun artifact =>
          isStr path (artifact.member "path")).map lockOf
      else none := by
    have hpath : ∀ artifact ∈ suppliedLocks firstPartyArtifacts,
        decide (pathText artifact = path) = isStr path (artifact.member "path") ∧
          pathText artifact ∈ firstPartyArtifactPaths := by
      intro artifact hartifact
      obtain ⟨text, hmem, htext⟩ :=
        firstPartyPath_of_isFirstPartyPath (validateSingle_nil (hissues artifact hartifact)).1
      rw [pathText, htext]
      have hsame : decide (text = path) = (text == path) := by
        rw [Bool.eq_iff_iff, decide_eq_true_iff, beq_iff_eq]
      exact ⟨hsame, hmem⟩
    have hfind : (suppliedLocks firstPartyArtifacts).reverse.find? (fun artifact => decide (pathText artifact = path)) =
        (suppliedLocks firstPartyArtifacts).reverse.find? fun artifact => isStr path (artifact.member "path") := by
      exact List.find?_congr fun artifact hartifact => (hpath artifact (List.mem_reverse.1 hartifact)).1
    rw [JsMap.get_ofEntries, ← List.map_reverse, List.find?_map, Option.map_map]
    change Option.map lockOf ((suppliedLocks firstPartyArtifacts).reverse.find?
      fun artifact => decide (pathText artifact = path)) = _
    -- A supplied lock can be found only under a path of this repository.
    by_cases hfirst : path ∈ firstPartyArtifactPaths
    · rw [hfind, if_pos (by simpa using hfirst)]
    · rw [if_neg (by simpa using hfirst), Option.map_eq_none_iff, List.find?_eq_none]
      intro artifact hartifact heq
      have hmem := (hpath artifact (List.mem_reverse.1 hartifact)).2
      exact hfirst (of_decide_eq_true heq ▸ hmem)
  rw [JsMap.get_ofEntries_append, hsupplied, lockFor]
  cases hbuiltin : (JsMap.ofEntries mvp0ApprovedFiles).get path with
  | none => simp
  | some lock =>
    -- A built-in path is none of this repository, so that no supplied lock stands over it.
    have hmem : path ∈ mvp0ApprovedFiles.map Prod.fst :=
      JsMap.has_ofEntries.1 (JsMap.has_iff.2 ⟨lock, hbuiltin⟩)
    have hnot := builtin_not_firstParty path hmem
    simp [hnot]

/-! ### Files without issues -/

theorem eq_of_sameArray {value : Option Json} {values : List Json} (h : sameArray value values = true) :
    value = none ∧ values = [] ∨ value = some (.arr values) := by
  unfold sameArray at h
  split at h
  · exact .inl ⟨rfl, by simpa using h⟩
  · rename_i found
    right
    rw [Bool.and_eq_true, beq_iff_eq, List.all_eq_true] at h
    obtain ⟨hlength, hsame⟩ := h
    have heq : found = values := by
      refine List.ext_getElem hlength fun i hi hi' => ?_
      have hmem : (found[i], values[i]) ∈ found.zip values := by
        rw [List.mem_iff_getElem]
        exact ⟨i, by simp [hlength, hi'], by simp⟩
      exact Option.some.inj (Json.sameValueZero_eq (hsame _ hmem))
    rw [heq]
  · cases h

theorem text_of_safePath {path : Option Json} (h : isUnsafePath path = .ok false) : ∃ text, path = some (.str text) := by
  unfold isUnsafePath at h
  split at h
  · cases h
  · split at h
    · cases h
    · split at h
      · rename_i text _
        exact ⟨text, rfl⟩
      · split at h <;> cases h
      · cases h

theorem issueUnless_nil {condition : Bool} {message : String} : issueUnless condition message = [] ↔ condition = true := by
  cases condition <;> simp [issueUnless]

/-- A file without issues is the one that is locked for its path. -/
theorem isLocked_of_no_issues (h : validateFileMetadata file approvedFiles = .ok []) :
    ∃ path lock, file.member "path" = some (.str path) ∧ approvedFiles.get path = some lock ∧ IsLocked file lock := by
  unfold validateFileMetadata at h
  split at h
  · cases h
  · obtain ⟨isUnsafe, hunsafe, h⟩ := bind_eq_ok.1 h
    obtain ⟨hashes, -, h⟩ := bind_eq_ok.1 h
    obtain ⟨approved, happroved, h⟩ := bind_eq_ok.1 h
    have hnil := Except.ok.inj h
    simp only [List.append_eq_nil_iff, issueUnless_nil, Bool.not_eq_true'] at hnil
    obtain ⟨⟨⟨⟨hsafe, hdownloads⟩, -⟩, -⟩, htrue⟩ := hnil
    subst hsafe htrue
    obtain ⟨path, hpath⟩ := text_of_safePath hunsafe
    rw [matchesApprovedFileLock, hpath] at happroved
    change (match approvedFiles.get path with
      | some approved => _
      | none => _) = Except.ok true at happroved
    cases hget : approvedFiles.get path with
    | none =>
      rw [hget] at happroved
      dsimp only at happroved
      split at happroved <;> cases happroved
    | some lock =>
      rw [hget] at happroved
      have hsame := Except.ok.inj happroved
      simp only [Bool.and_eq_true] at hsame
      obtain ⟨⟨⟨harray, hsha1⟩, hsha512⟩, hsize⟩ := hsame
      refine ⟨path, lock, hpath, hget, ?_, Json.sameValueZero_eq hsha1, Json.sameValueZero_eq hsha512,
        Json.sameValueZero_eq hsize⟩
      rcases eq_of_sameArray harray with ⟨hnone, -⟩ | harray
      · -- A file without downloads has an issue of its own.
        rw [hnone] at hdownloads
        cases hdownloads
      · exact harray

/-! ### Manifests that are built -/

/-- A template that a manifest is built of has no blockers. -/
theorem validation_of_built (h : buildMrpackManifest builtins template firstPartyArtifacts = .ok (.built manifest)) :
    ∃ validation, validateMrpackTemplate builtins template firstPartyArtifacts = .ok validation ∧
      validation.blockers = [] ∧ manifest = normalizeManifest template := by
  obtain ⟨validation, hvalidation, h⟩ := bind_eq_ok.1 h
  split at h
  · rename_i hblockers
    cases h
    exact ⟨validation, hvalidation, hblockers, rfl⟩
  · cases h

/-- What has been looked at before a template has no blockers. -/
theorem checks_of_no_blockers {validation : Validation}
    (h : validateMrpackTemplate builtins template firstPartyArtifacts = .ok validation)
    (hblockers : validation.blockers = []) :
    collectFirstPartyArtifactLockIssues builtins firstPartyArtifacts = .ok [] ∧ filesOf template ≠ [] ∧
      ∃ approvedFiles, createApprovedFileLock builtins firstPartyArtifacts = .ok approvedFiles ∧
        ∀ file ∈ filesOf template, fileBlockers approvedFiles file = .ok [] := by
  obtain ⟨issues, hissues, h⟩ := bind_eq_ok.1 h
  obtain ⟨approvedFiles, happroved, h⟩ := bind_eq_ok.1 h
  split at h
  · cases h
  · obtain ⟨blockers, hfiles, h⟩ := bind_eq_ok.1 h
    cases h
    simp only [List.append_eq_nil_iff, List.map_eq_nil_iff, List.flatten_eq_nil_iff] at hblockers
    obtain ⟨⟨⟨-, hnoFiles⟩, hnoIssues⟩, hnoBlockers⟩ := hblockers
    subst hnoIssues
    refine ⟨hissues, ?_, approvedFiles, happroved, fun file hfile => ?_⟩
    · intro hnil
      rw [noFilesBlockers, hnil] at hnoFiles
      cases hnoFiles
    · obtain ⟨found, hfound, hfile⟩ := Throwing.exists_of_mapM_eq_ok hfiles hfile
      rw [hfile, hnoBlockers found hfound]

/-- Supplied locks that nothing is said of have no issues. -/
theorem noIssues_of_collect (h : collectFirstPartyArtifactLockIssues builtins firstPartyArtifacts = .ok []) :
    ∀ artifact ∈ suppliedLocks firstPartyArtifacts, validateSingleFirstPartyArtifactLock builtins artifact = .ok [] := by
  intro artifact hartifact
  unfold collectFirstPartyArtifactLockIssues at h
  split at h
  · cases hartifact
  · obtain ⟨issues, hissues, h⟩ := bind_eq_ok.1 h
    have hnil := Except.ok.inj h
    rw [List.flatten_eq_nil_iff] at hnil
    obtain ⟨found, hfound, hartifactIssues⟩ := Throwing.exists_of_mapM_eq_ok hissues hartifact
    rw [hnil found hfound] at hartifactIssues
    obtain ⟨messages, hmessages, hmap⟩ := bind_eq_ok.1 hartifactIssues
    have hmessagesNil := List.map_eq_nil_iff.1 (Except.ok.inj hmap)
    rw [hmessages, hmessagesNil]
  · cases h

theorem metadata_of_no_blockers (h : fileBlockers approvedFiles file = .ok []) :
    validateFileMetadata file approvedFiles = .ok [] := by
  obtain ⟨issues, hissues, h⟩ := bind_eq_ok.1 h
  have hnil := Except.ok.inj h
  rw [List.append_eq_nil_iff, List.map_eq_nil_iff] at hnil
  rw [hissues, hnil.1]

theorem member_files (h : filesOf template ≠ []) : template.member "files" = some (.arr (filesOf template)) := by
  unfold filesOf at h ⊢
  split at h
  · rename_i files hfiles
    rw [hfiles]
  · exact absurd rfl h

/-- A manifest that is built vouches for its files and for the supplied locks exactly if the hashes of these are
texts. -/
theorem manifest_sound_iff (builtins : Builtins) (template : Json) (firstPartyArtifacts : Option Json)
    (manifest : Manifest) (h : buildMrpackManifest builtins template firstPartyArtifacts = .ok (.built manifest)) :
    SoundManifest builtins firstPartyArtifacts manifest ↔
      ∀ artifact ∈ suppliedLocks firstPartyArtifacts, HashesAreTexts artifact := by
  obtain ⟨validation, hvalidation, hblockers, rfl⟩ := validation_of_built h
  obtain ⟨hcollect, hfiles, approvedFiles, happroved, hall⟩ := checks_of_no_blockers hvalidation hblockers
  have hissues := noIssues_of_collect hcollect
  constructor
  · intro hsound artifact hartifact
    exact (validLock_iff (hissues artifact hartifact)).1 (hsound.locks artifact hartifact)
  · intro htexts
    refine ⟨?_, fun artifact hartifact => (validLock_iff (hissues artifact hartifact)).2 (htexts artifact hartifact)⟩
    have hmember := member_files hfiles
    refine ⟨filesOf template, hmember, hfiles, fun file hfile => ?_⟩
    obtain ⟨path, lock, hpath, hget, hlocked⟩ := isLocked_of_no_issues (metadata_of_no_blockers (hall file hfile))
    rw [get_approved hissues happroved] at hget
    exact ⟨path, lock, hpath, hget, hlocked⟩

/-! ### A hash in an array -/

/-- The parts of the address of an artifact of this repository. -/
def releaseBuiltins : Builtins where
  parseUrl text :=
    if text == "https://artifacts.localroom.dev/releases/local-room-client-connection-0.1.0-alpha.jar" then
      some ⟨"https:", "", "", "artifacts.localroom.dev", text⟩
    else none
  isIP _ := 0

def lithiumTemplate : Json :=
  .obj [("formatVersion", .num "1"), ("game", .str "minecraft"),
    ("dependencies", .obj [("minecraft", .str "1.21.1"), ("fabric-loader", .str "0.16.10")]),
    ("files", .arr [.obj [("path", .str "mods/lithium-fabric-0.15.3+mc1.21.1.jar"),
      ("downloads", .arr
        [.str "https://cdn.modrinth.com/data/gvQqBUqZ/versions/XQJtuOTA/lithium-fabric-0.15.3%2Bmc1.21.1.jar"]),
      ("hashes", .obj [("sha1", .str "c4a1c2b6de9915ac77ae46a005509d4acf09535d"),
        ("sha512", .str ("8c576d519121b0c2521101d2209eccd85d560b097fcb847aa54c51cd0d3f3947" ++
          "676f01c8d99913f514487c8e0972a1cf5f3da0c9ef0ec9bacdf2baeb4eb7d1a7"))]),
      ("fileSize", .num "797398")]])]

/-- A supplied lock for the client's artifact. -/
def clientLock (sha1 : Json) : Json :=
  .obj [("path", .str "mods/local-room-client-connection-0.1.0-alpha.jar"),
    ("downloads", .arr
      [.str "https://artifacts.localroom.dev/releases/local-room-client-connection-0.1.0-alpha.jar"]),
    ("hashes", .obj [("sha1", sha1),
      ("sha512", .str ("8c576d519121b0c2521101d2209eccd85d560b097fcb847aa54c51cd0d3f3947" ++
        "676f01c8d99913f514487c8e0972a1cf5f3da0c9ef0ec9bacdf2baeb4eb7d1a7"))]),
    ("fileSize", .num "40")]

def BuildResult.isBuilt : BuildResult → Bool
  | .built _ => true
  | .failed _ _ _ => false

/-- A template that a manifest is built of, found by running it. -/
theorem built_of_test
    (h : Throwing.answersTrue
      ((buildMrpackManifest builtins template firstPartyArtifacts).map BuildResult.isBuilt) = true) :
    buildMrpackManifest builtins template firstPartyArtifacts = .ok (.built (normalizeManifest template)) := by
  cases hresult : buildMrpackManifest builtins template firstPartyArtifacts with
  | error e =>
    rw [hresult] at h
    cases h
  | ok result =>
    rw [hresult] at h
    cases result with
    | built manifest =>
      obtain ⟨-, -, -, hmanifest⟩ := validation_of_built hresult
      rw [hmanifest]
    | failed => cases h

theorem sound_of_lithium :
    SoundManifest releaseBuiltins (some (.arr [clientLock (.str "2858c62aa7259c7880a8a4a9bff57d613256e63d")]))
      (normalizeManifest lithiumTemplate) := by
  refine (manifest_sound_iff releaseBuiltins lithiumTemplate
    (some (.arr [clientLock (.str "2858c62aa7259c7880a8a4a9bff57d613256e63d")])) _
    (built_of_test (by decide +kernel))).2 fun artifact hartifact => ?_
  have heq : artifact = clientLock (.str "2858c62aa7259c7880a8a4a9bff57d613256e63d") := List.mem_singleton.1 hartifact
  subst heq
  exact ⟨⟨_, rfl⟩, ⟨_, rfl⟩⟩

/-- The same lock with its hash in an array is no valid one, and the manifest is built as well. -/
theorem lithium_with_hash_in_array :
    buildMrpackManifest releaseBuiltins lithiumTemplate
        (some (.arr [clientLock (.arr [.str "2858c62aa7259c7880a8a4a9bff57d613256e63d"])])) =
      .ok (.built (normalizeManifest lithiumTemplate)) ∧
    ¬ SoundManifest releaseBuiltins
        (some (.arr [clientLock (.arr [.str "2858c62aa7259c7880a8a4a9bff57d613256e63d"])]))
        (normalizeManifest lithiumTemplate) := by
  refine ⟨built_of_test (by decide +kernel), fun hsound => ?_⟩
  obtain ⟨text, htext, -⟩ := (hsound.locks _ List.mem_cons_self).sha1
  cases htext

end EasyMc.Packs
