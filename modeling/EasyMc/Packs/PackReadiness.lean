import EasyMc.Packs.PackVouching

/-!
# The readiness of the private pack (`scripts/check-m1-mrpack-readiness.mjs`)

`checkM1MrpackReadiness` looks for a built jar and an address for every file of the template that this repository
builds itself, locks the jars, and judges the template that they complete.  It writes nothing; its report tells a
maintainer to run the build script next.

What it reports ready, that script writes, when it is given the jars and the addresses of the report on its command
line (`ready_pack_builds`): the two scripts look at the same locks, and the command line is read as it was written,
if no address has a comma in it.
-/

namespace EasyMc.Packs

open Script (evaluate evaluate_bind)
open Json (isStr coalesce)
open Throwing (JsError bind_eq_ok ok_bind mapError_eq_ok)

/-! ### The check -/

structure ReadinessOptions where
  templatePath : Option String
  artifactManifestPath : Option String
  publishUrls : JsMap String String

structure ReadinessBlocker where
  path : String
  message : String

inductive ReadinessReport
  | blocked (blockers : List ReadinessBlocker)
  | notReady (blockers : List MrpackBlocker)
  | ready (requiredPaths : List String) (templatePath : String) (fileCount : Nat) (minecraft fabricLoader : Json)
    (firstPartyArtifacts : List Json)

def listRequiredFirstPartyArtifactPaths (template : Json) : Except JsError (List String) :=
  if template.isNull then .error .typeError
  else
    .ok (((filesOf template).filterMap fun file => (file.member "path").bind Json.asStr).filter
      firstPartyArtifactPaths.contains)

def templateBlockers (requiredPaths : List String) : List ReadinessBlocker :=
  if requiredPaths.isEmpty then
    [⟨"<template>", "M1 template does not reference any known first-party room connection artifacts."⟩]
  else []

/-- The manifest, or `null` with a blocker. -/
def readArtifactManifest (tools : Tools) (artifactManifestPath : String) : PackScript (Json × List ReadinessBlocker) := do
  let manifest ← Script.attempt (readJson tools artifactManifestPath)
  match manifest with
  | .ok manifest => pure (manifest, [])
  | .error _ =>
    pure (.null, [⟨artifactManifestPath,
      "First-party artifact manifest is missing. Run npm.cmd run m1:artifacts first."⟩])

def findManifestArtifactForMrpackPath (manifest : Json) (mrpackPath : String) : Option Json :=
  (((manifest.member "artifacts").bind Json.asArr).getD []).find? fun artifact =>
    isStr mrpackPath (artifact.member "mrpackPath")

def downloadUrlOf (publishUrls : JsMap String String) (artifact : Json) (requiredPath : String) : Option Json :=
  coalesce ((publishUrls.get requiredPath).map .str) (artifact.member "publishUrl")

def artifactLocalPathForReport (tools : Tools) (artifact : Json) (fallbackPath : String) : String :=
  match artifact.member "artifactPath" with
  | some (.str text) => if text == "" then fallbackPath else tools.resolveFromRepo text
  | _ => fallbackPath

/-- What is tried with an artifact of the manifest. -/
def lockPublished (tools : Tools) (artifact : Json) (requiredPath downloadUrl : String) : PackScript Json :=
  match artifact.member "artifactPath" with
  | some (.str text) => do
    let artifactPath := tools.resolveFromRepo text
    access artifactPath
    createFirstPartyArtifactLockFromFile tools ⟨requiredPath, artifactPath, downloadUrl⟩
  | _ => throw (.js .typeError)

/-- One pass of the loop over the required paths. -/
def collectLock (tools : Tools) (manifest : Json) (publishUrls : JsMap String String) (requiredPath : String) :
    PackScript (Except ReadinessBlocker Json) :=
  match findManifestArtifactForMrpackPath manifest requiredPath with
  | none =>
    pure (.error ⟨requiredPath, "Built first-party artifact is missing from the local artifact manifest."⟩)
  | some artifact =>
    match downloadUrlOf publishUrls artifact requiredPath with
    | none => pure (.error ⟨requiredPath,
        "Signed HTTPS publish URL is not set. Provide --publish-url after the artifact is published."⟩)
    | some downloadUrl =>
      if !downloadUrl.truthy then pure (.error ⟨requiredPath,
        "Signed HTTPS publish URL is not set. Provide --publish-url after the artifact is published."⟩)
      else
        match validateFirstPartyArtifactDownloadUrl tools.builtins downloadUrl with
        | .notReady message => pure (.error ⟨requiredPath, message⟩)
        | .ready _ => do
          -- Only a text is ready.
          let lock ← Script.attempt (lockPublished tools artifact requiredPath (downloadUrl.asStr.getD ""))
          pure (lock.mapError fun error => ⟨artifactLocalPathForReport tools artifact requiredPath, tools.messageOf error⟩)

/-- The locks, and the blockers of the paths that have none. -/
def collectFirstPartyArtifactLocks (tools : Tools) (manifest : Json) (publishUrls : JsMap String String) :
    List String → PackScript (List Json × List ReadinessBlocker)
  | [] => pure ([], [])
  | requiredPath :: requiredPaths => do
    let result ← collectLock tools manifest publishUrls requiredPath
    let (locks, blockers) ← collectFirstPartyArtifactLocks tools manifest publishUrls requiredPaths
    match result with
    | .ok lock => pure (lock :: locks, blockers)
    | .error blocker => pure (locks, blocker :: blockers)

/-- The locks, if there is a manifest. -/
def locksOfManifest (tools : Tools) (manifest : Json) (publishUrls : JsMap String String) (requiredPaths : List String) :
    PackScript (List Json × List ReadinessBlocker) :=
  if manifest.truthy then collectFirstPartyArtifactLocks tools manifest publishUrls requiredPaths else pure ([], [])

def checkM1MrpackReadiness (tools : Tools) (options : ReadinessOptions) : PackScript ReadinessReport := do
  let templatePath := tools.resolveFromRepo (options.templatePath.getD defaultArguments.templatePath)
  let artifactManifestPath :=
    tools.resolveFromRepo (options.artifactManifestPath.getD ".omc/artifacts/fabric-mods/manifest.json")
  let template ← readMrpackTemplate tools templatePath
  let requiredPaths ← orThrow ((listRequiredFirstPartyArtifactPaths template).mapError .js)
  let (manifest, manifestBlockers) ← readArtifactManifest tools artifactManifestPath
  let (locks, lockBlockers) ← locksOfManifest tools manifest options.publishUrls requiredPaths
  let blockers := templateBlockers requiredPaths ++ manifestBlockers ++ lockBlockers
  if !blockers.isEmpty then pure (.blocked blockers)
  else do
    let completed ← orThrow ((applyFirstPartyArtifactLocks tools.builtins template (some (.arr locks))).mapError .js)
    let readiness ←
      orThrow ((validateMrpackTemplate tools.builtins completed.toJson (some (.arr locks))).mapError .js)
    if !readiness.ok then pure (.notReady readiness.blockers)
    else
      pure (.ready requiredPaths templatePath readiness.fileCount readiness.minecraft readiness.fabricLoader locks)

/-! ### Results -/

variable {answers : (op : FileOp) → op.Answer} {tools : Tools} {α β : Type}

/-- What a script ends with when every call has its answer. -/
def result (answers : (op : FileOp) → op.Answer) (p : PackScript α) : Except Thrown α := (evaluate answers p ()).1

theorem result_bind (p : PackScript α) (f : α → PackScript β) :
    result answers (p >>= f) = result answers p >>= fun a => result answers (f a) := by
  rw [result, evaluate_bind, result]
  rcases evaluate answers p () with ⟨e | a, vars⟩
  · rfl
  · rfl

@[simp] theorem result_pure (a : α) : result answers (pure a) = .ok a := rfl

@[simp] theorem result_throw (e : Thrown) : result answers (throw e : PackScript α) = .error e := rfl

@[simp] theorem result_orThrow (a : Except Thrown α) : result answers (orThrow a) = a := by
  cases a <;> rfl

theorem result_attempt (p : PackScript α) :
    result answers (Script.attempt p : PackScript (Except Thrown α)) = .ok (result answers p) := by
  rw [result, Script.evaluate_attempt, result]

variable (answers) in
theorem result_call (op : FileOp) : result answers (call op) = (answers op).mapError .error := by
  rw [call, result_bind]
  exact result_orThrow _

/-! ### The locks of a report -/

variable {manifest : Json} {publishUrls : JsMap String String} {requiredPath : String} {lock : Json}
  {requiredPaths : List String} {locks : List Json} {artifacts : List ArtifactArgument}

/-- What the manifest and the options say of a required path: its jar and its address. -/
def publishedArtifact (tools : Tools) (manifest : Json) (publishUrls : JsMap String String) (requiredPath : String) :
    Option ArtifactArgument :=
  (findManifestArtifactForMrpackPath manifest requiredPath).bind fun artifact =>
    ((artifact.member "artifactPath").bind Json.asStr).bind fun artifactPath =>
      ((downloadUrlOf publishUrls artifact requiredPath).bind Json.asStr).map fun downloadUrl =>
        ⟨requiredPath, tools.resolveFromRepo artifactPath, downloadUrl⟩

theorem text_of_ready {builtins : Builtins} {value : Json} {href : String}
    (h : validateFirstPartyArtifactDownloadUrl builtins value = .ready href) : ∃ text, value = .str text := by
  unfold validateFirstPartyArtifactDownloadUrl at h
  split at h
  · rename_i text
    exact ⟨text, rfl⟩
  · cases h

theorem lockPublished_eq_ok {artifact : Json} {downloadUrl : String}
    (h : result answers (lockPublished tools artifact requiredPath downloadUrl) = .ok lock) :
    ∃ artifactPath, artifact.member "artifactPath" = some (.str artifactPath) ∧
      result answers (createFirstPartyArtifactLockFromFile tools
        ⟨requiredPath, tools.resolveFromRepo artifactPath, downloadUrl⟩) = .ok lock := by
  unfold lockPublished at h
  split at h
  · rename_i text htext
    rw [result_bind] at h
    obtain ⟨-, -, h⟩ := bind_eq_ok.1 h
    exact ⟨text, htext, h⟩
  · cases h

/-- A lock of the report is that of the published artifact. -/
theorem collectLock_eq_ok (h : result answers (collectLock tools manifest publishUrls requiredPath) = .ok (.ok lock)) :
    ∃ artifact, publishedArtifact tools manifest publishUrls requiredPath = some artifact ∧
      result answers (createFirstPartyArtifactLockFromFile tools artifact) = .ok lock := by
  unfold collectLock at h
  split at h
  · cases h
  · rename_i artifact hartifact
    split at h
    · cases h
    · rename_i downloadUrl hurl
      split at h
      · cases h
      · split at h
        · cases h
        · rename_i href hready
          obtain ⟨text, rfl⟩ := text_of_ready hready
          rw [result_bind, result_attempt, ok_bind, result_pure] at h
          have hlock := mapError_eq_ok.1 (Except.ok.inj h)
          obtain ⟨artifactPath, hpath, hcreated⟩ := lockPublished_eq_ok hlock
          refine ⟨_, ?_, hcreated⟩
          rw [publishedArtifact, hartifact, Option.bind_some, hpath, hurl]
          rfl

/-- Where no path is left without a lock, the locks are those of the published artifacts. -/
theorem collectFirstPartyArtifactLocks_eq_ok
    (h : result answers (collectFirstPartyArtifactLocks tools manifest publishUrls requiredPaths) = .ok (locks, [])) :
    ∃ artifacts, List.Forall₂ (fun path artifact => publishedArtifact tools manifest publishUrls path = some artifact)
        requiredPaths artifacts ∧ result answers (createLocks tools artifacts) = .ok locks := by
  induction requiredPaths generalizing locks with
  | nil =>
    cases h
    exact ⟨[], .nil, rfl⟩
  | cons requiredPath requiredPaths ih =>
    rw [collectFirstPartyArtifactLocks, result_bind] at h
    obtain ⟨found, hfound, h⟩ := bind_eq_ok.1 h
    rw [result_bind] at h
    obtain ⟨⟨locks', blockers⟩, hrest, h⟩ := bind_eq_ok.1 h
    dsimp only at h
    cases found with
    | error blocker => cases h
    | ok lock =>
      cases h
      obtain ⟨artifact, hpublished, hcreated⟩ := collectLock_eq_ok hfound
      obtain ⟨artifacts, hall, hlocks⟩ := ih hrest
      refine ⟨artifact :: artifacts, .cons hpublished hall, ?_⟩
      rw [createLocks, result_bind, hcreated, ok_bind, result_bind, hlocks]
      rfl

/-! ### Command lines -/

/-- How an artifact is written on the command line. -/
def ArtifactArgument.spec (artifact : ArtifactArgument) : String :=
  artifact.mrpackPath ++ "=" ++ artifact.localJarPath ++ "," ++ artifact.downloadUrl

/-- The command line of the build script. -/
def commandLine (templatePath outputPath : String) (artifacts : List ArtifactArgument) : List String :=
  "--template" :: templatePath :: "--output" :: outputPath ::
    artifacts.flatMap fun artifact => ["--artifact", artifact.spec]

theorem splitFirst_append {c : Char} {before : List Char} (h : c ∉ before) (after : List Char) :
    splitFirst c (before ++ c :: after) = some (before, after) := by
  induction before with
  | nil => simp [splitFirst]
  | cons c' before ih =>
    rw [List.mem_cons, not_or] at h
    rw [List.cons_append, splitFirst, if_neg (Ne.symm h.1), ih h.2]
    rfl

theorem splitLast_append {c : Char} {after : List Char} (h : c ∉ after) (before : List Char) :
    splitLast c (before ++ c :: after) = some (before, after) := by
  have hreverse : (before ++ c :: after).reverse = after.reverse ++ c :: before.reverse := by simp
  rw [splitLast, hreverse, splitFirst_append (by simpa using h)]
  simp

/-- What can be read back from a command line. -/
structure Readable (artifact : ArtifactArgument) : Prop where
  path : artifact.mrpackPath ≠ "" ∧ '=' ∉ artifact.mrpackPath.toList
  jar : artifact.localJarPath ≠ ""
  url : artifact.downloadUrl ≠ "" ∧ ',' ∉ artifact.downloadUrl.toList

theorem exists_cons_of_ne {text : String} (h : text ≠ "") : ∃ char chars, text.toList = char :: chars := by
  cases htext : text.toList with
  | nil => exact absurd (String.toList_eq_nil_iff.1 htext) h
  | cons char chars => exact ⟨char, chars, rfl⟩

theorem parseArtifact_spec {artifact : ArtifactArgument} (h : Readable artifact) :
    parseArtifact artifact.spec = .ok artifact := by
  have hspec : artifact.spec.toList = artifact.mrpackPath.toList ++ '=' ::
      (artifact.localJarPath.toList ++ ',' :: artifact.downloadUrl.toList) := by
    simp [ArtifactArgument.spec]
  obtain ⟨char, mrpackPath, hpath⟩ := exists_cons_of_ne h.path.1
  obtain ⟨jar, localJarPath, hjar⟩ := exists_cons_of_ne h.jar
  obtain ⟨url, downloadUrl, hurl⟩ := exists_cons_of_ne h.url.1
  have hfirst := splitFirst_append h.path.2 (artifact.localJarPath.toList ++ ',' :: artifact.downloadUrl.toList)
  have hlast := splitLast_append h.url.2 artifact.localJarPath.toList
  rw [hpath] at hfirst
  rw [hjar, hurl] at hlast
  rw [parseArtifact, hspec, hpath, hfirst]
  dsimp only
  rw [hjar, hurl, hlast]
  dsimp only
  rw [← hpath, ← hjar, ← hurl, String.ofList_toList, String.ofList_toList, String.ofList_toList]

theorem firstParty_plain :
    ∀ path ∈ firstPartyArtifactPaths, path ≠ "" ∧ '=' ∉ path.toList ∧ path.toList.head? = some 'm' := by
  decide +kernel

theorem isValue_spec {artifact : ArtifactArgument} (h : artifact.mrpackPath ∈ firstPartyArtifactPaths) :
    isValue artifact.spec = true := by
  obtain ⟨rest, hrest⟩ := List.head?_eq_some_iff.1 (firstParty_plain _ h).2.2
  have hspec : artifact.spec.toList = 'm' :: (rest ++ '=' :: (artifact.localJarPath.toList ++
      ',' :: artifact.downloadUrl.toList)) := by
    simp [ArtifactArgument.spec, hrest]
  have hne : artifact.spec ≠ "" := by
    intro heq
    rw [heq] at hspec
    cases hspec
  rw [isValue, Text.startsWith, hspec, bne_iff_ne.2 hne]
  rfl

/-- The artifacts of a command line are read in their order. -/
theorem parseArgsFrom_artifacts (parsed : BuildArguments)
    (h : ∀ artifact ∈ artifacts, Readable artifact ∧ artifact.mrpackPath ∈ firstPartyArtifactPaths) :
    parseArgsFrom parsed (artifacts.flatMap fun artifact => ["--artifact", artifact.spec]) =
      .ok { parsed with artifacts := parsed.artifacts ++ artifacts } := by
  induction artifacts generalizing parsed with
  | nil =>
    rw [List.append_nil]
    rfl
  | cons artifact artifacts ih =>
    obtain ⟨⟨hreadable, hfirst⟩, hrest⟩ := List.forall_mem_cons.1 h
    have hpass : parseArgsFrom parsed ((artifact :: artifacts).flatMap fun artifact => ["--artifact", artifact.spec]) =
        if isValue artifact.spec then
          (parseArtifact artifact.spec >>= fun artifact =>
            .ok { parsed with artifacts := parsed.artifacts ++ [artifact] }) >>= fun parsed =>
            parseArgsFrom parsed (artifacts.flatMap fun artifact => ["--artifact", artifact.spec])
        else .error (.error ("--artifact" ++ " requires a value.")) := rfl
    rw [hpass, if_pos (isValue_spec hfirst), parseArtifact_spec hreadable, ok_bind, ok_bind, ih _ hrest]
    simp

theorem parseArgs_commandLine {templatePath outputPath : String} (htemplate : isValue templatePath = true)
    (houtput : isValue outputPath = true)
    (h : ∀ artifact ∈ artifacts, Readable artifact ∧ artifact.mrpackPath ∈ firstPartyArtifactPaths) :
    parseArgs (commandLine templatePath outputPath artifacts) = .ok ⟨false, templatePath, some outputPath, artifacts⟩ := by
  have hfirst : parseArgs (commandLine templatePath outputPath artifacts) =
      if isValue templatePath then
        if isValue outputPath then
          parseArgsFrom ⟨false, templatePath, some outputPath, []⟩
            (artifacts.flatMap fun artifact => ["--artifact", artifact.spec])
        else .error (.error ("--output" ++ " requires a value."))
      else .error (.error ("--template" ++ " requires a value.")) := rfl
  rw [hfirst, if_pos htemplate, if_pos houtput, parseArgsFrom_artifacts _ h]
  rfl

/-! ### Completed templates -/

variable {completed : CompletedTemplate} {template : Json}

theorem member_files_completed (completed : CompletedTemplate) :
    completed.toJson.member "files" = some (.arr (completed.files.map CompletedFile.file)) := by
  rw [CompletedTemplate.toJson, Json.member_assign (by simp)]
  rfl

theorem filesOf_completed (completed : CompletedTemplate) :
    filesOf completed.toJson = completed.files.map CompletedFile.file := by
  rw [filesOf, member_files_completed]

theorem completedFile_without_locks {file : Json} {entry : CompletedFile}
    (h : completedFile (JsMap.ofEntries []) file = .ok entry) : entry.file = file := by
  obtain ⟨text, -, h⟩ := bind_eq_ok.1 h
  rw [JsMap.get_ofEntries] at h
  dsimp only [List.reverse_nil, List.find?_nil, Option.map_none] at h
  split at h
  · cases h
  · cases h
    rfl

theorem map_file_without_locks {files : List Json} {entries : List CompletedFile}
    (h : List.Forall₂ (fun file entry => completedFile (JsMap.ofEntries []) file = .ok entry) files entries) :
    entries.map CompletedFile.file = files := by
  induction h with
  | nil => rfl
  | cons hfile _ ih => rw [List.map_cons, completedFile_without_locks hfile, ih]

/-- Without locks the files stay as they are. -/
theorem files_without_locks {builtins : Builtins}
    (h : applyFirstPartyArtifactLocks builtins template (some (.arr [])) = .ok completed) :
    filesOf completed.toJson = filesOf template := by
  obtain ⟨locks, hlocks, h⟩ := bind_eq_ok.1 h
  cases hlocks
  split at h
  · obtain ⟨files, hfiles, h⟩ := bind_eq_ok.1 h
    cases h
    rw [filesOf_completed]
    exact map_file_without_locks (Throwing.mapM_eq_ok.1 hfiles)
  · cases h

/-- A template with a file of this repository is not ready without locks. -/
theorem requiredPaths_without_locks {builtins : Builtins} {validation : Validation}
    (hcompleted : applyFirstPartyArtifactLocks builtins template (some (.arr [])) = .ok completed)
    (hvalidation : validateMrpackTemplate builtins completed.toJson (some (.arr [])) = .ok validation)
    (hblockers : validation.blockers = [])
    (hpaths : listRequiredFirstPartyArtifactPaths template = .ok requiredPaths) : requiredPaths = [] := by
  obtain ⟨hcollect, -, approvedFiles, happroved, hall⟩ := checks_of_no_blockers hvalidation hblockers
  rw [files_without_locks hcompleted] at hall
  unfold listRequiredFirstPartyArtifactPaths at hpaths
  split at hpaths
  · cases hpaths
  · cases hpaths
    rw [List.filter_eq_nil_iff]
    intro path hpath hfirst
    obtain ⟨file, hfile, hnamed⟩ := List.mem_filterMap.1 hpath
    obtain ⟨value, hvalue, hstr⟩ := Option.bind_eq_some_iff.1 hnamed
    rw [Json.asStr_eq_some] at hstr
    obtain ⟨path', lock, hpath', hget, -⟩ := isLocked_of_no_issues (metadata_of_no_blockers (hall file hfile))
    have heq : path' = path := by
      have h := hpath'.symm.trans (hvalue.trans (congrArg some hstr))
      simpa using h
    subst heq
    rw [get_approved (noIssues_of_collect hcollect) happroved, lockFor] at hget
    have hnone : (JsMap.ofEntries mvp0ApprovedFiles).get path' = none := by
      have hall : ∀ path ∈ firstPartyArtifactPaths, (JsMap.ofEntries mvp0ApprovedFiles).has path = false := by
        decide
      have hnot := hall path' (by simpa using hfirst)
      cases hbuiltIn : (JsMap.ofEntries mvp0ApprovedFiles).get path' with
      | none => rfl
      | some lock =>
        rw [JsMap.has_iff.2 ⟨lock, hbuiltIn⟩] at hnot
        cases hnot
    rw [hnone, if_pos hfirst] at hget
    cases hget

/-! ### What is ready is built -/

variable {options : ReadinessOptions} {templatePath outputPath : String} {fileCount : Nat} {minecraft fabricLoader : Json}

/-- The path of the manifest of the built jars. -/
def ReadinessOptions.manifestPath (tools : Tools) (options : ReadinessOptions) : String :=
  tools.resolveFromRepo (options.artifactManifestPath.getD ".omc/artifacts/fabric-mods/manifest.json")

/-- What both scripts look at: the locks and the template that they complete, with nothing to block it. -/
structure Completes (answers : (op : FileOp) → op.Answer) (tools : Tools) (templatePath : String) (locks : List Json)
    (completed : CompletedTemplate) (validation : Validation) : Prop where
  applies : ∃ template, result answers (readMrpackTemplate tools templatePath) = .ok template ∧
    applyFirstPartyArtifactLocks tools.builtins template (some (.arr locks)) = .ok completed
  validates : validateMrpackTemplate tools.builtins completed.toJson (some (.arr locks)) = .ok validation
  blockers : validation.blockers = []

theorem ok_iff_blockers {builtins : Builtins} {template : Json} {firstPartyArtifacts : Option Json} {validation : Validation}
    (h : validateMrpackTemplate builtins template firstPartyArtifacts = .ok validation) :
    validation.ok = validation.blockers.isEmpty ∧ validation.fileCount = (filesOf template).length := by
  obtain ⟨issues, -, h⟩ := bind_eq_ok.1 h
  obtain ⟨approvedFiles, -, h⟩ := bind_eq_ok.1 h
  split at h
  · cases h
  · obtain ⟨files, -, h⟩ := bind_eq_ok.1 h
    cases h
    exact ⟨rfl, rfl⟩

/-- What has been found when the report says that the pack is ready. -/
theorem ready_eq_ok
    (h : result answers (checkM1MrpackReadiness tools options) =
      .ok (.ready requiredPaths templatePath fileCount minecraft fabricLoader locks)) :
    ∃ manifest completed validation, result answers (readJson tools (options.manifestPath tools)) = .ok manifest ∧
      result answers (collectFirstPartyArtifactLocks tools manifest options.publishUrls requiredPaths) = .ok (locks, []) ∧
      Completes answers tools templatePath locks completed validation ∧ requiredPaths ≠ [] ∧
      fileCount = validation.fileCount := by
  unfold checkM1MrpackReadiness at h
  dsimp only at h
  rw [result_bind] at h
  obtain ⟨template, htemplate, h⟩ := bind_eq_ok.1 h
  rw [result_bind, result_orThrow] at h
  obtain ⟨paths, hpaths, h⟩ := bind_eq_ok.1 h
  have hpaths := mapError_eq_ok.1 hpaths
  rw [result_bind] at h
  obtain ⟨⟨manifest, manifestBlockers⟩, hmanifest, h⟩ := bind_eq_ok.1 h
  dsimp only at h
  rw [result_bind] at h
  obtain ⟨⟨found, lockBlockers⟩, hfound, h⟩ := bind_eq_ok.1 h
  dsimp only at h
  have hnone : templateBlockers paths ++ manifestBlockers ++ lockBlockers = [] := by
    by_contra hne
    rw [if_pos (by simpa using hne)] at h
    cases h
  rw [if_neg (by simp [hnone])] at h
  rw [List.append_eq_nil_iff, List.append_eq_nil_iff] at hnone
  obtain ⟨⟨hrequired, hmanifestBlockers⟩, hlockBlockers⟩ := hnone
  rw [result_bind, result_orThrow] at h
  obtain ⟨completed, hcompleted, h⟩ := bind_eq_ok.1 h
  have hcompleted := mapError_eq_ok.1 hcompleted
  rw [result_bind, result_orThrow] at h
  obtain ⟨validation, hvalidation, h⟩ := bind_eq_ok.1 h
  have hvalidation := mapError_eq_ok.1 hvalidation
  have hok : validation.blockers = [] := by
    by_contra hne
    rw [if_pos (by simpa [(ok_iff_blockers hvalidation).1] using hne)] at h
    cases h
  rw [if_neg (by simp [(ok_iff_blockers hvalidation).1, hok])] at h
  have hne : paths ≠ [] := by
    rintro rfl
    cases hrequired
  cases h
  rw [hmanifestBlockers] at hmanifest
  rw [hlockBlockers] at hfound
  refine ⟨manifest, completed, validation, ?_, ?_, ⟨⟨template, htemplate, hcompleted⟩, hvalidation, hok⟩, hne, rfl⟩
  · rw [readArtifactManifest, result_bind, result_attempt, ok_bind] at hmanifest
    unfold ReadinessOptions.manifestPath
    split at hmanifest
    · rename_i value hvalue
      cases hmanifest
      exact hvalue
    · cases hmanifest
  · unfold locksOfManifest at hfound
    split at hfound
    · exact hfound
    · -- Without a manifest there are no locks, and without locks no required path is ready.
      cases hfound
      exact absurd (requiredPaths_without_locks hcompleted hvalidation hok hpaths) hne

theorem built_of_completes {completed : CompletedTemplate} {validation : Validation}
    (h : Completes answers tools templatePath locks completed validation) :
    buildMrpackManifest tools.builtins completed.toJson (some (.arr locks)) =
      .ok (.built (normalizeManifest completed.toJson)) := by
  rw [buildMrpackManifest, h.validates, ok_bind, h.blockers]

theorem fileCount_normalizeManifest (template : Json) :
    (normalizeManifest template).fileCount = (filesOf template).length := by
  rw [Manifest.fileCount, filesOf, normalizeManifest]
  dsimp only
  split <;> simp_all

/-- The calls by which the pack is written return. -/
structure Writable (answers : (op : FileOp) → op.Answer) : Prop where
  mkdir : ∀ path, answers (.mkdir path) = .ok ()
  writeFile : ∀ path contents, answers (.writeFile path contents) = .ok ()

/-- With these locks the script writes the pack, if there is an archive of its manifest. -/
theorem result_buildPack {args : BuildArguments} {completed : CompletedTemplate} {validation : Validation}
    (hlocks : result answers (createLocks tools args.artifacts) = .ok locks)
    (h : Completes answers tools args.templatePath locks completed validation) (hwritable : Writable answers) :
    result answers (buildPack tools args outputPath) =
      (createMrpackArchive tools (normalizeManifest completed.toJson)).mapError .archive >>= fun _ =>
        .ok (.wrote (tools.resolve outputPath) validation.fileCount) := by
  obtain ⟨template, htemplate, hcompleted⟩ := h.applies
  have hok : validation.ok = true := by rw [(ok_iff_blockers h.validates).1, h.blockers, List.isEmpty_nil]
  have hcount : (normalizeManifest completed.toJson).fileCount = validation.fileCount := by
    rw [fileCount_normalizeManifest, (ok_iff_blockers h.validates).2]
  have hmkdir : ∀ path, result answers (mkdir path) = .ok () := by
    intro path
    have hcall := result_call answers (.mkdir path)
    rw [hwritable.mkdir] at hcall
    exact hcall
  have hwriteFile : ∀ path contents, result answers (writeFile path contents) = .ok () := by
    intro path contents
    have hcall := result_call answers (.writeFile path contents)
    rw [hwritable.writeFile] at hcall
    exact hcall
  have happlies : (applyFirstPartyArtifactLocks tools.builtins template (some (.arr locks))).mapError Thrown.js =
      .ok completed := by
    rw [hcompleted]
    rfl
  have hvalidates : (validateMrpackTemplate tools.builtins completed.toJson (some (.arr locks))).mapError Thrown.js =
      .ok validation := by
    rw [h.validates]
    rfl
  have hbuilds : (buildMrpackManifest tools.builtins completed.toJson (some (.arr locks))).mapError Thrown.js =
      .ok (.built (normalizeManifest completed.toJson)) := by
    rw [built_of_completes h]
    rfl
  rw [buildPack, result_bind, hlocks, ok_bind, result_bind, htemplate, ok_bind, result_bind, result_orThrow, happlies,
    ok_bind, result_bind, result_orThrow, hvalidates, ok_bind, hok, Bool.not_true, if_neg Bool.false_ne_true]
  dsimp only
  rw [result_bind, hmkdir, ok_bind, result_bind, writeMrpack, result_bind, result_orThrow, hbuilds, ok_bind]
  dsimp only
  rw [result_bind, result_orThrow]
  cases (createMrpackArchive tools (normalizeManifest completed.toJson)).mapError Thrown.archive with
  | error e => rfl
  | ok archive =>
    rw [ok_bind, result_bind, hwriteFile, ok_bind, result_pure, ok_bind, hcount]
    rfl

/-- What a jar is locked with can be written on a command line, but for a comma in its address. -/
theorem readable_of_locked {artifact : ArtifactArgument}
    (h : result answers (createFirstPartyArtifactLockFromFile tools artifact) = .ok lock) :
    artifact.mrpackPath ∈ firstPartyArtifactPaths ∧ artifact.localJarPath ≠ "" ∧ artifact.downloadUrl ≠ "" := by
  unfold createFirstPartyArtifactLockFromFile at h
  split at h
  · cases h
  · rename_i hfirst
    split at h
    · cases h
    · rename_i hjar
      split at h
      · cases h
      · rename_i href hready
        refine ⟨by simpa using hfirst, ?_, ?_⟩
        · rintro heq
          simp [heq] at hjar
        · rintro heq
          rw [heq] at hready
          cases hready

theorem readable_of_createLocks (h : result answers (createLocks tools artifacts) = .ok locks) :
    ∀ artifact ∈ artifacts, artifact.mrpackPath ∈ firstPartyArtifactPaths ∧ artifact.localJarPath ≠ "" ∧
      artifact.downloadUrl ≠ "" := by
  induction artifacts generalizing locks with
  | nil => rintro artifact ⟨⟩
  | cons artifact artifacts ih =>
    rw [createLocks, result_bind] at h
    obtain ⟨lock, hlock, h⟩ := bind_eq_ok.1 h
    rw [result_bind] at h
    obtain ⟨rest, hrest, -⟩ := bind_eq_ok.1 h
    exact List.forall_mem_cons.2 ⟨readable_of_locked hlock, ih hrest⟩

/-- What the check reports ready, the build script writes: the artifacts that the manifest and the options name for the
required paths are locked alike from its command line, so the template is judged alike, and only the archive can still be
refused. -/
theorem ready_pack_builds {σ : Type} {env : Script.Environment FileOp FileOp.Answer σ}
    (henv : ∀ op world, (env op world).1 = answers op) (hwritable : Writable answers) {world world' : σ}
    (hready : (Script.perform env (checkM1MrpackReadiness tools options) (started world)).1 =
      .ok (.ready requiredPaths templatePath fileCount minecraft fabricLoader locks))
    (htemplate : isValue templatePath = true) (houtput : isValue outputPath = true) :
    ∃ manifest artifacts packManifest, result answers (readJson tools (options.manifestPath tools)) = .ok manifest ∧
      List.Forall₂ (fun path artifact => publishedArtifact tools manifest options.publishUrls path = some artifact)
        requiredPaths artifacts ∧
      ((∀ artifact ∈ artifacts, ',' ∉ artifact.downloadUrl.toList) →
        (Script.perform env (main tools (commandLine templatePath outputPath artifacts)) (started world')).1 =
          (createMrpackArchive tools packManifest).mapError .archive >>= fun _ =>
            .ok (.wrote (tools.resolve outputPath) fileCount)) := by
  rw [Script.perform_evaluate answers henv] at hready
  obtain ⟨manifest, completed, validation, hmanifest, hcollect, hcompletes, hrequired, rfl⟩ := ready_eq_ok hready
  obtain ⟨artifacts, hpublished, hlocks⟩ := collectFirstPartyArtifactLocks_eq_ok hcollect
  refine ⟨manifest, artifacts, normalizeManifest completed.toJson, hmanifest, hpublished, fun hcommas => ?_⟩
  have hreadable : ∀ artifact ∈ artifacts, Readable artifact ∧ artifact.mrpackPath ∈ firstPartyArtifactPaths := by
    intro artifact hartifact
    obtain ⟨hfirst, hjar, hurl⟩ := readable_of_createLocks hlocks artifact hartifact
    obtain ⟨hne, hequals, -⟩ := firstParty_plain _ hfirst
    exact ⟨⟨⟨hne, hequals⟩, hjar, hurl, hcommas artifact hartifact⟩, hfirst⟩
  have hartifacts : artifacts.isEmpty = false := by
    rw [List.isEmpty_eq_false_iff]
    rintro rfl
    cases hpublished
    exact hrequired rfl
  rw [Script.perform_evaluate answers henv]
  change result answers (main tools (commandLine templatePath outputPath artifacts)) = _
  rw [main, result_bind, result_orThrow, parseArgs_commandLine htemplate houtput hreadable, ok_bind]
  dsimp only
  rw [if_neg Bool.false_ne_true, hartifacts, if_neg Bool.false_ne_true]
  exact result_buildPack hlocks hcompletes hwritable

/-! ### A pack with the client's artifact -/

def releaseUrl : String := "https://artifacts.localroom.dev/releases/local-room-client-connection-0.1.0-alpha.jar"

/-- A template with the client's artifact alone. -/
def sampleTemplate : Json :=
  .obj [("formatVersion", .num "1"), ("game", .str "minecraft"),
    ("dependencies", .obj [("minecraft", .str "1.21.1"), ("fabric-loader", .str "0.16.10")]),
    ("files", .arr [clientPlaceholder])]

def sampleManifest : Json :=
  .obj [("artifacts", .arr [.obj [("mrpackPath", .str "mods/local-room-client-connection-0.1.0-alpha.jar"),
    ("artifactPath", .str "client.jar"), ("publishUrl", .str releaseUrl)]])]

/-- The two JSON files are told apart by their first byte. -/
def sampleTools : Tools where
  builtins := releaseBuiltins
  sha1 _ := "2858c62aa7259c7880a8a4a9bff57d613256e63d"
  sha512 _ := "8c576d519121b0c2521101d2209eccd85d560b097fcb847aa54c51cd0d3f3947" ++
    "676f01c8d99913f514487c8e0972a1cf5f3da0c9ef0ec9bacdf2baeb4eb7d1a7"
  deflateRawSync _ := .ok [3, 0]
  parseJson text := if text = ['t'] then .ok sampleTemplate else if text = ['m'] then .ok sampleManifest else .error ""
  resolve path := path
  resolveFromRepo path := path
  dirname _ := "dist"
  archiveMessage _ := ""
  typeErrorMessage := ""

def sampleAnswers : (op : FileOp) → op.Answer
  | .readFile path =>
    if path == "template.json" then .ok [116]
    else if path == "manifest.json" then .ok [109]
    else if path == "client.jar" then .ok (sampleArchive 154)
    else .error "ENOENT"
  | .access _ => .ok ()
  | .mkdir _ => .ok ()
  | .writeFile _ _ => .ok ()

def sampleOptions : ReadinessOptions := ⟨some "template.json", some "manifest.json", JsMap.empty⟩

def sampleEnvironment : Script.Environment FileOp FileOp.Answer Unit := fun op world => (sampleAnswers op, world)

/-- The template of a report that says that the pack is ready. -/
def ReadinessReport.readyTemplate : ReadinessReport → Option String
  | .ready _ templatePath _ _ _ _ => some templatePath
  | _ => none

theorem ready_sample : ∃ requiredPaths fileCount minecraft fabricLoader locks,
    (Script.perform sampleEnvironment (checkM1MrpackReadiness sampleTools sampleOptions) (started ())).1 =
      .ok (.ready requiredPaths "template.json" fileCount minecraft fabricLoader locks) := by
  have htest : Throwing.answersTrue ((Script.perform sampleEnvironment (checkM1MrpackReadiness sampleTools sampleOptions)
      (started ())).1.map fun report => decide (report.readyTemplate = some "template.json")) = true := by
    decide +kernel
  obtain ⟨report, hreport, hready⟩ := Throwing.exists_ok_of_test htest
  cases report with
  | ready requiredPaths templatePath fileCount minecraft fabricLoader locks =>
    cases hready
    exact ⟨_, _, _, _, _, hreport⟩
  | _ => cases hready

theorem ready_pack_builds_sample :
    ∃ requiredPaths fileCount manifest artifacts packManifest,
      result sampleAnswers (readJson sampleTools (sampleOptions.manifestPath sampleTools)) = .ok manifest ∧
      List.Forall₂ (fun path artifact =>
        publishedArtifact sampleTools manifest sampleOptions.publishUrls path = some artifact) requiredPaths artifacts ∧
      ((∀ artifact ∈ artifacts, ',' ∉ artifact.downloadUrl.toList) →
        (Script.perform sampleEnvironment (main sampleTools (commandLine "template.json" "room.mrpack" artifacts))
            (started ())).1 =
          (createMrpackArchive sampleTools packManifest).mapError .archive >>= fun _ =>
            .ok (.wrote "room.mrpack" fileCount)) := by
  obtain ⟨requiredPaths, fileCount, minecraft, fabricLoader, locks, hready⟩ := ready_sample
  have hsample : ∀ op world, (sampleEnvironment op world).1 = sampleAnswers op := fun _ _ => rfl
  have hwritable : Writable sampleAnswers := ⟨fun _ => rfl, fun _ _ => rfl⟩
  exact ⟨requiredPaths, fileCount, ready_pack_builds hsample hwritable hready (by decide) (by decide)⟩

end EasyMc.Packs
