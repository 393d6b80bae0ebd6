import EasyMc.Packs.Locks

/-!
# The files that locks are put into

`applyFirstPartyArtifactLocks` puts the supplied locks into the files of a template, and the files that come of it
are judged by `validateFileMetadata`.  A supplied lock without issues has been judged before, by other means: its
downloads were parsed as addresses, where a file's are compared as texts.  So the file of such a lock passes exactly if
every download is also spelled as `isOriginalHttpsDownloadUrl` wants it, and the path in the template is a text
(`completedFile_passes_iff`).

A file that a lock was put into has the values of the lock, not copies of them.  An array is the same as another one
only if they are one, so it has to be kept which files these are (`CompletedFile.isLocked`).
-/

namespace EasyMc.Packs

open Json (get sameValueZero textOf)
open Throwing (JsError bind_eq_ok)

/-! ### Sameness of shared values -/

/-- An array or an object. -/
def isReference : Option Json → Bool
  | some (.arr _) => true
  | some (.obj _) => true
  | _ => false

/-- `value === value'`, where an array or an object is the other one exactly if the two are `shared`. -/
def strictEquals (shared : Bool) (value value' : Option Json) : Bool :=
  sameValueZero value value' || (shared && isReference value && isReference value')

/-- A value is the same as itself. -/
theorem strictEquals_self (value : Option Json) : strictEquals true value value = true := by
  cases value with
  | none => rfl
  | some value => cases value <;> simp [strictEquals, sameValueZero, isReference]

/-! ### Files of a completed template -/

/-- A file, and whether its downloads, hashes and size are those of the lock for its path. -/
structure CompletedFile where
  file : Json
  isLocked : Bool

/-- The fields of a file that are those of its lock. -/
def lockFields (lock : Lock) : List (String × Option Json) :=
  [("downloads", some (.arr lock.downloads)), ("hashes", some (.obj [("sha1", lock.sha1), ("sha512", lock.sha512)])),
    ("fileSize", lock.fileSize)]

/-- What is made of a file of the template.  What every object has is found as well, and has no hashes. -/
def completedFile (locks : JsMap String Lock) (file : Json) : Except JsError CompletedFile := do
  let path ← textOf (file.member "path")
  match locks.get path with
  | some lock => .ok ⟨file.assign (lockFields lock), true⟩
  | none => if objectPrototypeNames.contains path then .error .typeError else .ok ⟨file, false⟩

/-- A copy of a template whose `files` are set to `files`. -/
structure CompletedTemplate where
  template : Json
  files : List CompletedFile

/-- Only an object or an array can have its `files` set. -/
def applyFirstPartyArtifactLocks (builtins : Builtins) (template : Json) (firstPartyArtifacts : Option Json) :
    Except JsError CompletedTemplate := do
  let locks ← normalizeFirstPartyArtifactLocks builtins firstPartyArtifacts
  if isReference (some template) then do
    let files ← (filesOf template).mapM (completedFile (JsMap.ofEntries locks))
    .ok ⟨template, files⟩
  else .error .typeError

/-! ### Judging a file, whatever `===` is -/

section By

variable (same : Option Json → Option Json → Bool)

def sameArrayBy (left : Option Json) (right : List Json) : Bool :=
  match left with
  | none => right.isEmpty
  | some (.arr values) =>
    values.length == right.length && (values.zip right).all fun pair => same (some pair.1) (some pair.2)
  | some _ => false

def matchesApprovedFileLockBy (file : Json) (approvedFiles : JsMap String Lock) : Except JsError Bool := do
  let path ← textOf (file.member "path")
  match approvedFiles.get path with
  | some approved =>
    .ok (sameArrayBy same (file.member "downloads") approved.downloads
      && same (file.path ["hashes", "sha1"]) (some approved.sha1)
      && same (file.path ["hashes", "sha512"]) (some approved.sha512)
      && same (file.member "fileSize") approved.fileSize)
  | none =>
    if objectPrototypeNames.contains path && sameArrayBy same (file.member "downloads") [] then .error .typeError
    else .ok false

/-- `validateFileMetadata` with `===` as a parameter. -/
def validateFileMetadataBy (file : Json) (approvedFiles : JsMap String Lock) : Except JsError (List String) :=
  if file.isNull then .error .typeError
  else do
    let isUnsafe ← isUnsafePath (file.member "path")
    let hashes ← hasHashes (file.member "hashes")
    let approved ← matchesApprovedFileLockBy same file approvedFiles
    .ok (issueUnless (!isUnsafe) "Pack file path must be a safe relative path."
      ++ issueUnless (hasOriginalHttpsDownloads (file.member "downloads"))
        "Pack file must use original HTTPS download URLs."
      ++ issueUnless hashes "Pack file must include SHA1 and SHA512 hashes."
      ++ issueUnless (Json.isPositiveInteger (file.member "fileSize")) "Pack file must include a positive file size."
      ++ issueUnless approved "Pack file must match the MVP-0 approved source URL, hashes, and file size lock.")

end By

/-- `validateFileMetadata` of a file of a completed template, where the approved files are made of the locks that the
template was completed with. -/
def validateCompletedFile (file : CompletedFile) (approvedFiles : JsMap String Lock) : Except JsError (List String) :=
  validateFileMetadataBy (strictEquals file.isLocked) file.file approvedFiles

/-! ### Files without issues -/

variable {builtins : Builtins} {template file artifact : Json} {approvedFiles : JsMap String Lock}
  {completed : CompletedTemplate} {entry : CompletedFile} {same : Option Json → Option Json → Bool}

/-- A file has no issues exactly if each of the five tests says so. -/
theorem validateFileMetadataBy_nil : validateFileMetadataBy same file approvedFiles = .ok [] ↔
    file.isNull = false ∧ isUnsafePath (file.member "path") = .ok false ∧
      hasOriginalHttpsDownloads (file.member "downloads") = true ∧ hasHashes (file.member "hashes") = .ok true ∧
      Json.isPositiveInteger (file.member "fileSize") = true ∧
      matchesApprovedFileLockBy same file approvedFiles = .ok true := by
  unfold validateFileMetadataBy
  by_cases hnull : file.isNull = true
  · simp [hnull]
  · have hnull : file.isNull = false := by simpa using hnull
    rw [if_neg (by simp [hnull])]
    constructor
    · intro h
      obtain ⟨isUnsafe, hpath, h⟩ := bind_eq_ok.1 h
      obtain ⟨hashes, hhashes, h⟩ := bind_eq_ok.1 h
      obtain ⟨approved, happroved, h⟩ := bind_eq_ok.1 h
      have hnil := Except.ok.inj h
      simp only [List.append_eq_nil_iff, issueUnless_nil, Bool.not_eq_true'] at hnil
      obtain ⟨⟨⟨⟨hsafe, hdownloads⟩, htrue⟩, hsize⟩, hlocked⟩ := hnil
      exact ⟨hnull, hsafe ▸ hpath, hdownloads, htrue ▸ hhashes, hsize, hlocked ▸ happroved⟩
    · rintro ⟨-, hpath, hdownloads, hhashes, hsize, happroved⟩
      rw [hpath, hhashes, happroved]
      simp [issueUnless, hdownloads, hsize]

/-- The path of an artifact of this repository is a safe one. -/
private theorem safe_of_firstPartyPath : ∀ path ∈ firstPartyArtifactPaths, isUnsafePath (some (.str path)) = .ok false := by
  intro path hpath
  have hall : firstPartyArtifactPaths.all (fun path =>
      path != "" && !(Text.includes path ".." || Text.startsWith path "/" || Text.includes path "\\")) = true := by
    decide +kernel
  have hsafe := List.all_eq_true.1 hall path hpath
  rw [Bool.and_eq_true, bne_iff_ne, Bool.not_eq_true'] at hsafe
  simp [isUnsafePath, Json.truthy, hsafe.1, hsafe.2]

/-! ### A lock without issues -/

/-- The table that is made of a single lock without issues. -/
theorem normalizedLocks_singleton (h : validateSingleFirstPartyArtifactLock builtins artifact = .ok []) :
    normalizeFirstPartyArtifactLocks builtins (some (.arr [artifact])) = .ok [(pathText artifact, lockOf artifact)] := by
  have hissues : ∀ other ∈ suppliedLocks (some (.arr [artifact])),
      validateSingleFirstPartyArtifactLock builtins other = .ok [] := by
    intro other hother
    have heq : other = artifact := List.mem_singleton.1 hother
    rw [heq, h]
  exact normalizedLocks_eq hissues

/-- The hash that is put into the table is tested like the supplied one. -/
theorem testHash_present (length : Nat) (value : Option Json) :
    testHash length (some ((Json.present value).getD (.str ""))) = testHash length value := by
  have hcoalesce : Json.coalesce (some ((Json.present value).getD (.str ""))) (some (.str "")) =
      Json.coalesce value (some (.str "")) := by
    cases value with
    | none => rfl
    | some value => cases value <;> rfl
  rw [testHash, hcoalesce, testHash]

theorem hasHashes_lockOf (artifact : Json) :
    hasHashes (some (.obj [("sha1", (lockOf artifact).sha1), ("sha512", (lockOf artifact).sha512)])) =
      hasHashes (artifact.member "hashes") := by
  have hsha1 : isSha1 (some (lockOf artifact).sha1) = isSha1 (get "sha1" (artifact.member "hashes")) := by
    rw [← Json.path_pair]
    exact testHash_present 40 _
  have hsha512 : isSha512 (some (lockOf artifact).sha512) = isSha512 (get "sha512" (artifact.member "hashes")) := by
    rw [← Json.path_pair]
    exact testHash_present 128 _
  rw [hasHashes, hasHashes, ← hsha1, ← hsha512]
  rfl

/-! ### A file that a lock was put into -/

/-- What is known of a file that the lock was put into. -/
structure HoldsLock (lock : Lock) (file entry : Json) : Prop where
  isNull : entry.isNull = false
  path : entry.member "path" = file.member "path"
  downloads : entry.member "downloads" = some (.arr lock.downloads)
  hashes : entry.member "hashes" = some (.obj [("sha1", lock.sha1), ("sha512", lock.sha512)])
  fileSize : entry.member "fileSize" = lock.fileSize

/-- What is made of a file where there is one lock: it is put into the file whose path has the text under which the
lock is. -/
theorem completedFile_eq_ok {path : String} {lock : Lock} :
    completedFile (JsMap.ofEntries [(path, lock)]) file = .ok entry ↔ ∃ text, textOf (file.member "path") = .ok text ∧
      (path = text ∧ entry = ⟨file.assign (lockFields lock), true⟩ ∨
        path ≠ text ∧ text ∉ objectPrototypeNames ∧ entry = ⟨file, false⟩) := by
  rw [completedFile, bind_eq_ok]
  refine exists_congr fun text => and_congr_right fun _ => ?_
  rw [JsMap.get_ofEntries, List.reverse_singleton]
  by_cases hpath : path = text
  · rw [List.find?_cons_of_pos (by simpa using hpath)]
    simp [hpath, eq_comm]
  · rw [List.find?_cons_of_neg (by simpa using hpath), List.find?_nil, Option.map_none]
    by_cases hname : text ∈ objectPrototypeNames
    · simp [hpath, hname]
    · simp [hpath, hname, eq_comm]

theorem holdsLock_of_isLocked {path : String} {lock : Lock}
    (h : completedFile (JsMap.ofEntries [(path, lock)]) file = .ok entry) (hlocked : entry.isLocked = true) :
    textOf (file.member "path") = .ok path ∧ HoldsLock lock file entry.file := by
  obtain ⟨text, htext, ⟨rfl, rfl⟩ | ⟨-, -, rfl⟩⟩ := completedFile_eq_ok.1 h
  · have hkeys : ((lockFields lock).map Prod.fst).Nodup := by simp [lockFields]
    exact ⟨htext, rfl, Json.member_assign hkeys "path", Json.member_assign hkeys "downloads",
      Json.member_assign hkeys "hashes", Json.member_assign hkeys "fileSize"⟩
  · cases hlocked

theorem sameArrayBy_self (values : List Json) :
    sameArrayBy (strictEquals true) (some (.arr values)) values = true := by
  rw [sameArrayBy, beq_self_eq_true, Bool.true_and, List.all_eq_true]
  intro pair hpair
  have heq : pair.1 = pair.2 := by
    obtain ⟨i, hi, rfl⟩ := List.mem_iff_getElem.1 hpair
    rw [List.getElem_zip]
  rw [heq]
  exact strictEquals_self _

/-- A file that a lock was put into matches it. -/
theorem matches_of_holdsLock {path : String} {lock : Lock} (hpath : textOf (file.member "path") = .ok path)
    (hlock : approvedFiles.get path = some lock) {result : Json} (h : HoldsLock lock file result) :
    matchesApprovedFileLockBy (strictEquals true) result approvedFiles = .ok true := by
  rw [matchesApprovedFileLockBy, h.path, hpath, Throwing.ok_bind, hlock]
  have hsha1 : result.path ["hashes", "sha1"] = some lock.sha1 := by
    rw [Json.path_pair, h.hashes]
    rfl
  have hsha512 : result.path ["hashes", "sha512"] = some lock.sha512 := by
    rw [Json.path_pair, h.hashes]
    rfl
  simp only [h.downloads, hsha1, hsha512, h.fileSize, sameArrayBy_self, strictEquals_self, Bool.and_self]

/-! ### The two judgements -/

/-- The file has no issues under the approved files that are made of the lock alone. -/
def PassesUnder (builtins : Builtins) (artifact : Json) (entry : CompletedFile) : Prop :=
  ∃ approvedFiles, createApprovedFileLock builtins (some (.arr [artifact])) = .ok approvedFiles ∧
    validateCompletedFile entry approvedFiles = .ok []

/-- The spelling by which a file is judged: the path in the template and the downloads of the lock. -/
structure SpelledPlainly (artifact file : Json) : Prop where
  path : ∃ path, file.member "path" = some (.str path)
  downloads : ∀ downloads, artifact.member "downloads" = some (.arr downloads) → ∀ text, .str text ∈ downloads →
    Text.startsWith text "https://" = true ∧ Text.includes text "example.invalid" = false

/-- The downloads of a lock without issues are texts, and there are some, so that they are judged one by one. -/
theorem hasOriginalHttpsDownloads_lockOf (h : validateSingleFirstPartyArtifactLock builtins artifact = .ok []) :
    hasOriginalHttpsDownloads (some (.arr (lockOf artifact).downloads)) = true ↔
      ∀ downloads, artifact.member "downloads" = some (.arr downloads) → ∀ text, .str text ∈ downloads →
        Text.startsWith text "https://" = true ∧ Text.includes text "example.invalid" = false := by
  obtain ⟨values, hvalues, hne, hpublic⟩ := downloads_of_no_issues (validateSingle_nil h).2.1
  have heq : (lockOf artifact).downloads = values := by
    unfold lockOf
    rw [hvalues]
  have hall : hasOriginalHttpsDownloads (some (.arr values)) = true ↔
      ∀ download ∈ values, isOriginalHttpsDownloadUrl download = true := by
    cases values with
    | nil => exact absurd rfl hne
    | cons download downloads => rw [hasOriginalHttpsDownloads, List.all_eq_true]
  have htext : ∀ text, isOriginalHttpsDownloadUrl (.str text) = true ↔
      Text.startsWith text "https://" = true ∧ Text.includes text "example.invalid" = false := by
    intro text
    rw [isOriginalHttpsDownloadUrl, Bool.and_eq_true, Bool.not_eq_true']
  rw [heq, hall]
  constructor
  · intro horiginal downloads hdownloads text hmem
    have hsame : values = downloads := by simpa [hvalues] using hdownloads
    exact (htext text).1 (horiginal _ (hsame ▸ hmem))
  · intro hplain download hmem
    obtain ⟨text, -, rfl, -⟩ := hpublic download hmem
    exact (htext text).2 (hplain values hvalues text hmem)

/-- Four of the five tests are passed by every file that a lock without issues was put into; the spelling of the
downloads and the path of the file are left. -/
theorem passesUnder_iff (haccepted : validateSingleFirstPartyArtifactLock builtins artifact = .ok [])
    (htext : textOf (file.member "path") = .ok (pathText artifact)) (hholds : HoldsLock (lockOf artifact) file entry.file)
    (hlocked : entry.isLocked = true) :
    PassesUnder builtins artifact entry ↔ isUnsafePath (file.member "path") = .ok false ∧
      hasOriginalHttpsDownloads (some (.arr (lockOf artifact).downloads)) = true := by
  obtain ⟨-, -, hhashes, hsize⟩ := validateSingle_nil haccepted
  have hsize : Json.isPositiveInteger (lockOf artifact).fileSize = true := hsize
  have happroved : createApprovedFileLock builtins (some (.arr [artifact])) =
      .ok (JsMap.ofEntries (mvp0ApprovedFiles ++ [(pathText artifact, lockOf artifact)])) := by
    rw [createApprovedFileLock, normalizedLocks_singleton haccepted, Throwing.ok_bind]
  have hget : (JsMap.ofEntries (mvp0ApprovedFiles ++ [(pathText artifact, lockOf artifact)])).get
      (pathText artifact) = some (lockOf artifact) := by
    rw [JsMap.get_ofEntries, List.reverse_append, List.reverse_singleton, List.singleton_append,
      List.find?_cons_of_pos (by simp)]
    rfl
  have hvalidate : validateCompletedFile entry
      (JsMap.ofEntries (mvp0ApprovedFiles ++ [(pathText artifact, lockOf artifact)])) = .ok [] ↔
        isUnsafePath (file.member "path") = .ok false ∧
          hasOriginalHttpsDownloads (some (.arr (lockOf artifact).downloads)) = true := by
    rw [validateCompletedFile, hlocked, validateFileMetadataBy_nil, hholds.path, hholds.downloads, hholds.hashes,
      hholds.fileSize, hasHashes_lockOf, matches_of_holdsLock htext hget hholds]
    simp only [hholds.isNull, hhashes, hsize, true_and, and_true]
  rw [← hvalidate]
  constructor
  · rintro ⟨approvedFiles, h, hnil⟩
    have heq := Except.ok.inj (happroved.symm.trans h)
    rw [heq, hnil]
  · intro hnil
    exact ⟨_, happroved, hnil⟩

/-- A path with the text of an artifact's path is safe exactly if it is a text. -/
theorem safe_iff_text {path : Option Json} {text : String} (htext : textOf path = .ok text)
    (hmem : text ∈ firstPartyArtifactPaths) : isUnsafePath path = .ok false ↔ ∃ text, path = some (.str text) := by
  constructor
  · exact text_of_safePath
  · rintro ⟨text', rfl⟩
    have heq : text' = text := Except.ok.inj htext
    exact safe_of_firstPartyPath text' (heq ▸ hmem)

theorem pathText_mem (haccepted : validateSingleFirstPartyArtifactLock builtins artifact = .ok []) :
    pathText artifact ∈ firstPartyArtifactPaths := by
  obtain ⟨path, hmem, hpath⟩ := firstPartyPath_of_isFirstPartyPath (validateSingle_nil haccepted).1
  rw [pathText, hpath]
  exact hmem

/-- A file that a lock without issues was put into passes exactly if its path and the downloads are spelled plainly. -/
theorem completedFile_passes_iff (builtins : Builtins) (artifact template file : Json) (completed : CompletedTemplate)
    (entry : CompletedFile) (haccepted : validateSingleFirstPartyArtifactLock builtins artifact = .ok [])
    (hcompleted : applyFirstPartyArtifactLocks builtins template (some (.arr [artifact])) = .ok completed)
    (hentry : (file, entry) ∈ (filesOf template).zip completed.files) (hlocked : entry.isLocked = true) :
    PassesUnder builtins artifact entry ↔ SpelledPlainly artifact file := by
  rw [applyFirstPartyArtifactLocks, normalizedLocks_singleton haccepted, Throwing.ok_bind] at hcompleted
  split at hcompleted
  · obtain ⟨files, hfiles, hcompleted⟩ := bind_eq_ok.1 hcompleted
    cases hcompleted
    have hfile := (List.forall₂_iff_zip.1 (Throwing.mapM_eq_ok.1 hfiles)).2 hentry
    obtain ⟨htext, hholds⟩ := holdsLock_of_isLocked hfile hlocked
    rw [passesUnder_iff haccepted htext hholds hlocked, safe_iff_text htext (pathText_mem haccepted),
      hasOriginalHttpsDownloads_lockOf haccepted]
    constructor
    · rintro ⟨hpath, hdownloads⟩
      exact ⟨hpath, hdownloads⟩
    · intro hplain
      exact ⟨hplain.path, hplain.downloads⟩
  · cases hcompleted

/-! ### A scheme in capital letters -/

/-- A template with the file of the client's artifact alone, whose values are still placeholders. -/
def clientPlaceholder : Json :=
  .obj [("path", .str "mods/local-room-client-connection-0.1.0-alpha.jar"),
    ("hashes", .obj [("sha1", .str "REPLACE_WITH_FIRST_PARTY_CLIENT_MOD_SHA1"),
      ("sha512", .str "REPLACE_WITH_FIRST_PARTY_CLIENT_MOD_SHA512")]),
    ("downloads", .arr [.str "https://example.invalid/releases/local-room-client-connection-0.1.0-alpha.jar"]),
    ("fileSize", .num "0")]

def clientTemplate : Json := .obj [("files", .arr [clientPlaceholder])]

def clientFile (lock : Json) : CompletedFile := ⟨clientPlaceholder.assign (lockFields (lockOf lock)), true⟩

/-- A lock without issues, found by judging it. -/
theorem accepted_of_test
    (h : Throwing.answersTrue ((validateSingleFirstPartyArtifactLock builtins artifact).map List.isEmpty) = true) :
    validateSingleFirstPartyArtifactLock builtins artifact = .ok [] := by
  cases hissues : validateSingleFirstPartyArtifactLock builtins artifact with
  | error e =>
    rw [hissues] at h
    cases h
  | ok issues =>
    rw [hissues] at h
    have hnil : issues = [] := List.isEmpty_iff.1 h
    rw [hnil]

theorem apply_clientTemplate (haccepted : validateSingleFirstPartyArtifactLock builtins artifact = .ok [])
    (hpath : pathText artifact = "mods/local-room-client-connection-0.1.0-alpha.jar") :
    applyFirstPartyArtifactLocks builtins clientTemplate (some (.arr [artifact])) =
      .ok ⟨clientTemplate, [clientFile artifact]⟩ := by
  have hfile : completedFile (JsMap.ofEntries [(pathText artifact, lockOf artifact)]) clientPlaceholder =
      .ok (clientFile artifact) :=
    completedFile_eq_ok.2 ⟨pathText artifact, by rw [hpath]; rfl, .inl ⟨rfl, rfl⟩⟩
  have hfiles : (filesOf clientTemplate).mapM
      (completedFile (JsMap.ofEntries [(pathText artifact, lockOf artifact)])) = .ok [clientFile artifact] :=
    Throwing.mapM_eq_ok.2 (.cons hfile .nil)
  rw [applyFirstPartyArtifactLocks, normalizedLocks_singleton haccepted, Throwing.ok_bind, hfiles]
  rfl

theorem clientFile_passes :
    PassesUnder releaseBuiltins (clientLock (.str "2858c62aa7259c7880a8a4a9bff57d613256e63d"))
      (clientFile (clientLock (.str "2858c62aa7259c7880a8a4a9bff57d613256e63d"))) := by
  have haccepted : validateSingleFirstPartyArtifactLock releaseBuiltins
      (clientLock (.str "2858c62aa7259c7880a8a4a9bff57d613256e63d")) = .ok [] :=
    accepted_of_test (by decide +kernel)
  refine (completedFile_passes_iff releaseBuiltins (clientLock (.str "2858c62aa7259c7880a8a4a9bff57d613256e63d"))
    clientTemplate clientPlaceholder _ _ haccepted (apply_clientTemplate haccepted rfl) List.mem_cons_self rfl).2 ?_
  refine ⟨⟨_, rfl⟩, fun downloads hdownloads text hmem => ?_⟩
  cases hdownloads
  cases List.mem_singleton.1 hmem
  decide +kernel

/-- The address of the client's artifact with its scheme in capital letters, which a parser of addresses lowers. -/
def capitalBuiltins : Builtins where
  parseUrl text :=
    if text == "HTTPS://artifacts.localroom.dev/releases/local-room-client-connection-0.1.0-alpha.jar" then
      some ⟨"https:", "", "", "artifacts.localroom.dev",
        "https://artifacts.localroom.dev/releases/local-room-client-connection-0.1.0-alpha.jar"⟩
    else none
  isIP _ := 0

def capitalLock : Json :=
  (clientLock (.str "2858c62aa7259c7880a8a4a9bff57d613256e63d")).assign [("downloads", some (.arr
    [.str "HTTPS://artifacts.localroom.dev/releases/local-room-client-connection-0.1.0-alpha.jar"]))]

/-- A lock that is accepted, and whose file does not pass. -/
theorem not_completedFile_passes :
    validateSingleFirstPartyArtifactLock capitalBuiltins capitalLock = .ok [] ∧
      applyFirstPartyArtifactLocks capitalBuiltins clientTemplate (some (.arr [capitalLock])) =
        .ok ⟨clientTemplate, [clientFile capitalLock]⟩ ∧
      ¬ PassesUnder capitalBuiltins capitalLock (clientFile capitalLock) := by
  have haccepted : validateSingleFirstPartyArtifactLock capitalBuiltins capitalLock = .ok [] :=
    accepted_of_test (by decide +kernel)
  refine ⟨haccepted, apply_clientTemplate haccepted rfl, ?_⟩
  rintro ⟨approvedFiles, -, hnil⟩
  have hdownloads := (validateFileMetadataBy_nil.1 hnil).2.2.1
  have hnot : hasOriginalHttpsDownloads ((clientFile capitalLock).file.member "downloads") = false := by
    decide +kernel
  rw [hnot] at hdownloads
  cases hdownloads

end EasyMc.Packs
