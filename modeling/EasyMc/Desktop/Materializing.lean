import EasyMc.Desktop.ManagedFiles
import EasyMc.Desktop.Materialization
import EasyMc.Desktop.RuntimeBridge

/-!
# Materializing a room (`apps/desktop/src/runtime/node-local-runtime.mjs`)

`materializeRoom` makes the directories and files of a plan, removes the mods that the plan does not know, and copies
the plan's mods to where they belong, each after its checksum has been compared.  A mod whose source is not a path is
left for later, and so is a missing one if the options say so; these are listed as pending.

So a file in the mods directory is verified unless it is the target of a pending operation (`materializeRoom_verified`):
what is there under such a name stays, whatever its bytes are (`not_materializeRoom_verified`).

How a URL is read, and what `fetch` answers, are parameters.
-/

namespace EasyMc.Desktop.Materializing

open Files (FileSystem Path FsError Node Call OnlyDirs Wrote Anchored Extends Plain)
open Json (get holds textOf)
open LocalAdapter (createRoomMaterializationPlan MaterializationPlan FileWrite ModOperation isPathLikeText)
open ManagedFiles
open Throwing (JsError bind_eq_ok)

/-! ### Failures -/

inductive FailureReason
  | invalidRuntimePlan
  | modChecksumMismatch
  | modDownloadFailed
  | modDownloadUntrusted
  | modSourceMissing
  deriving DecidableEq

def FailureReason.text : FailureReason → String
  | .invalidRuntimePlan => "invalid_runtime_plan"
  | .modChecksumMismatch => "mod_checksum_mismatch"
  | .modDownloadFailed => "mod_download_failed"
  | .modDownloadUntrusted => "mod_download_untrusted"
  | .modSourceMissing => "mod_source_missing"

def FailureReason.message : FailureReason → String
  | .invalidRuntimePlan => "방 실행 계획을 먼저 준비해야 합니다."
  | .modChecksumMismatch => "고정팩 파일이 검증된 해시와 일치하지 않습니다."
  | .modDownloadFailed => "추천 모드 파일을 내려받지 못했습니다."
  | .modDownloadUntrusted => "추천 모드 파일 주소가 검증된 원본이 아닙니다."
  | .modSourceMissing => "고정팩 파일을 찾을 수 없습니다."

/-- The detail of a failure. -/
inductive Detail
  | plan (reason : LocalAdapter.FailureReason)
  | boundary (reason : BoundaryReason) (path : String)
  | unverifiedMod (modId : Option Json)
  | download (modId : Option Json) (reason : String)
  | source (modId source : Option Json)
  | mismatch (modId expectedSha256 : Option Json) (actualSha256 : String)

structure Failure where
  reason : FailureReason
  detail : Detail

/-- How the room ends up if it is not materialized. -/
inductive Stop
  | failed (failure : Failure)
  | threw (error : JsError)
  | threwFile (error : FsError)
  | pending

def fail {α : Type} (reason : FailureReason) (detail : Detail) : Call Stop α := Call.leave (.failed ⟨reason, detail⟩)

/-- A computation that may throw. -/
def orThrow {α : Type} : Except JsError α → Call Stop α
  | .ok a => pure a
  | .error e => Call.leave (.threw e)

/-- A call that may throw. -/
def orThrowFile {α : Type} (call : Call FsError α) : Call Stop α := call.mapError .threwFile

/-! ### Paths -/

/-- A path as it is written. -/
def nativeText (path : Path) : String := "/" ++ String.intercalate "/" path

def redacted (text : String) : String := String.ofList (RuntimeBridge.redactHostLogLine text.toList)

/-- `verifyManagedPath(root, path, options)`, where the path is shown by the text. -/
def verifyManagedPath (platform : Platform) (root : Option Json) (path : Path) (shown : String) (allowMissingTarget : Bool)
    (fs : FileSystem) : Except JsError (Option Detail) :=
  if !holds root then .ok none
  else do
    let rootText ← textOf root
    let rootPath := toNativePath platform rootText
    if relationEscapes rootPath path then .ok (some (.boundary .pathOutsideAppDataRoot (redacted shown)))
    else if !(safeLstat fs rootPath).any (!FileSystem.isLink ·) then
      .ok (some (.boundary .unsafeAppDataRoot (redacted rootText)))
    else
      match findExistingSymlinkSegment fs rootPath path with
      | some symlink => .ok (some (.boundary .managedPathReparsePoint (redacted (nativeText symlink))))
      | none =>
        let existingPath := if allowMissingTarget then nearestExistingPath fs.exists_ path else path
        match safeRealpath fs existingPath, safeRealpath fs rootPath with
        | some existingReal, some rootReal =>
          if isSubPath rootReal existingReal then .ok none
          else .ok (some (.boundary .managedPathEscape (redacted shown)))
        | _, _ => .ok (some (.boundary .managedPathEscape (redacted shown)))

/-- Go on if the path is managed. -/
def requireManaged (platform : Platform) (root : Option Json) (path : Path) (shown : String) (allowMissingTarget : Bool) :
    Call Stop Unit := do
  match ← orThrow (← Call.ask (verifyManagedPath platform root path shown allowMissingTarget)) with
  | some detail => fail .invalidRuntimePlan detail
  | none => pure ()

/-! ### Directories and files -/

def makeRoomDirectory (platform : Platform) (root directory : Option Json) : Call Stop Unit := do
  let text ← orThrow (textOf directory)
  let path := toNativePath platform text
  requireManaged platform root (dirname path) (nativeText (dirname path)) true
  orThrowFile (FileSystem.makeDirectories path)
  requireManaged platform root path text false

inductive FileOutcome
  | written (path : Option Json)
  | preserved (path : Option Json)
  | skipped

def writeRoomFile (platform : Platform) (root : Option Json) (file : FileWrite) : Call Stop FileOutcome := do
  let text ← orThrow (textOf file.path)
  let target := toNativePath platform text
  requireManaged platform root (dirname target) (nativeText (dirname target)) true
  orThrowFile (FileSystem.makeDirectories (dirname target))
  if !file.overwrite && (← Call.ask (FileSystem.exists_ · target)) then do
    requireManaged platform root target (nativeText target) false
    pure (.preserved file.path)
  else
    match file.contents.bind Json.asStr with
    | some contents => do
      requireManaged platform root (dirname target) (nativeText (dirname target)) false
      orThrowFile (FileSystem.writeFile target (Text.utf8 contents.toList))
      pure (.written file.path)
    | none => pure .skipped

/-! ### Mods that the plan does not know -/

def isFile : Node → Bool
  | .file _ => true
  | _ => false

def basename (path : Path) : String := path.getLast?.getD ""

/-- Remove the file that the entry of the mods directory stands for, if its name is not expected. -/
def removeStaleMod (platform : Platform) (root : Option Json) (expectedModFiles : List String) (modsDirectory : Path)
    (entry : String × Node) : Call Stop (Option String) :=
  if !isFile entry.2 || expectedModFiles.contains entry.1 then pure none
  else do
    let stalePath := modsDirectory ++ [entry.1]
    requireManaged platform root stalePath (nativeText stalePath) false
    orThrowFile (FileSystem.removeFile stalePath)
    pure (some entry.1)

def safeReadDirectory (fs : FileSystem) (path : Path) : List (String × Node) := (fs.readdir path).toOption.getD []

def removeStaleMods (platform : Platform) (plan : MaterializationPlan) (modsDirectory : Path) : Call Stop (List String) := do
  let targets ← orThrow (plan.modOperations.mapM fun operation => textOf operation.target)
  let expectedModFiles := targets.map fun target => basename (toNativePath platform target)
  requireManaged platform plan.appDataRoot modsDirectory (nativeText modsDirectory) false
  let entries ← Call.ask (safeReadDirectory · modsDirectory)
  let removed ← Call.each (removeStaleMod platform plan.appDataRoot expectedModFiles modsDirectory) entries
  pure (removed.filterMap id)

def removeUnknownMods (platform : Platform) (plan : MaterializationPlan) (modsDirectory : Path) :
    Call Stop (List String) :=
  if plan.safety.removeUnknownMods then removeStaleMods platform plan modsDirectory else pure []

/-! ### Downloads -/

structure Url where
  protocol : String
  hostname : String
  username : String
  password : String

/-- A process that can read URLs. -/
structure Process extends Platform where
  parseUrl : String → Option Url

structure Options where
  fetch : Option (Option Json → Settled (Option Response))
  allowMissingModSources : Option Json

/-- Why the address is not that of a mod. -/
def validateModDownloadUrl (process : Process) (value : Option Json) : Option String :=
  match textOf value with
  | .error _ => some "invalid_url"
  | .ok text =>
    match process.parseUrl text with
    | none => some "invalid_url"
    | some url =>
      if url.protocol ≠ "https:" || url.hostname ≠ "cdn.modrinth.com" || url.username ≠ "" || url.password ≠ "" then
        some "untrusted_url"
      else none

/-- `isSha256(expected) && actual === expected`. -/
def checksumMatches (expected : Option Json) (actual : String) : Bool :=
  match expected with
  | some (.str text) => isSha256Text text && actual == text
  | _ => false

/-- The bytes of a response, or the failure. -/
def downloadedBytes (process : Process) (operation : ModOperation) (response : Option Response) :
    Except Stop (List UInt8) :=
  let failed := fun (reason : FailureReason) (detail : Detail) =>
    (.error (.failed ⟨reason, detail⟩) : Except Stop (List UInt8))
  match response with
  | none => failed .modDownloadUntrusted (.download operation.modId "response_not_ok_or_redirected")
  | some response =>
    let url := if holds response.url then response.url else operation.downloadUrl
    if !response.ok || (validateModDownloadUrl process url).isSome then
      failed .modDownloadUntrusted (.download operation.modId "response_not_ok_or_redirected")
    else
      match response.arrayBuffer with
      | none => failed .modDownloadFailed (.download operation.modId "response.arrayBuffer is not a function")
      | some .pending => .error .pending
      | some (.thrown message) => failed .modDownloadFailed (.download operation.modId message)
      | some (.value bytes) =>
        let actualSha256 := process.sha256 bytes
        if Json.isPositiveInteger operation.expectedFileSize &&
            !Json.isNum (toString bytes.length) operation.expectedFileSize then
          failed .modDownloadFailed (.download operation.modId "file_size_mismatch")
        else if !checksumMatches operation.expectedSha256 actualSha256 then
          failed .modChecksumMismatch (.mismatch operation.modId operation.expectedSha256 actualSha256)
        else .ok bytes

def downloadVerifiedModSource (process : Process) (options : Options) (operation : ModOperation) (source : Path) :
    Call Stop Unit :=
  match validateModDownloadUrl process operation.downloadUrl with
  | some reason => fail .modDownloadUntrusted (.download operation.modId reason)
  | none =>
    match options.fetch with
    | none => fail .modDownloadFailed (.download operation.modId "fetch_unavailable")
    | some fetch =>
      match fetch operation.downloadUrl with
      | .pending => Call.leave .pending
      | .thrown message => fail .modDownloadFailed (.download operation.modId message)
      | .value response => do
        let bytes ← Call.ofExcept (downloadedBytes process operation response)
        orThrowFile (FileSystem.makeDirectories (dirname source))
        orThrowFile (FileSystem.writeFile source bytes)

/-! ### The plan's mods -/

/-- A mod in one of the result's lists. -/
structure ModRecord where
  modId : Option Json
  source : Option Json
  target : Option Json

def recordOf (operation : ModOperation) : ModRecord := ⟨operation.modId, operation.source, operation.target⟩

inductive ModOutcome
  | copied (mod : ModRecord)
  | pending (mod : ModRecord)

/-- Download the source if it is missing and there is an address for it. -/
def fetchMissingSource (process : Process) (options : Options) (operation : ModOperation) (source : Path) :
    Call Stop Unit := do
  if !(← Call.ask (FileSystem.exists_ · source)) && holds operation.downloadUrl then
    downloadVerifiedModSource process options operation source
  else pure ()

/-- Copy a source that is there to the mod's target, if the checksum is right. -/
def copyVerifiedMod (process : Process) (root : Option Json) (operation : ModOperation) (source : Path) :
    Call Stop ModOutcome := do
  let bytes ← orThrowFile (Call.ofExcept (← Call.ask (FileSystem.readFile · source)))
  let actualSha256 := process.sha256 bytes
  if !checksumMatches operation.expectedSha256 actualSha256 then
    fail .modChecksumMismatch (.mismatch operation.modId operation.expectedSha256 actualSha256)
  else do
    let targetText ← orThrow (textOf operation.target)
    let target := toNativePath process.toPlatform targetText
    requireManaged process.toPlatform root (dirname target) (nativeText (dirname target)) true
    orThrowFile (FileSystem.makeDirectories (dirname target))
    requireManaged process.toPlatform root (dirname target) (nativeText (dirname target)) false
    orThrowFile (FileSystem.copyFile source target)
    pure (.copied (recordOf operation))

def materializeMod (process : Process) (options : Options) (root : Option Json) (operation : ModOperation) :
    Call Stop ModOutcome :=
  if !operation.verified.any Json.isTrue then fail .invalidRuntimePlan (.unverifiedMod operation.modId)
  else if !isPathLikeText operation.source then pure (.pending (recordOf operation))
  else do
    let sourceText ← orThrow (textOf operation.source)
    let source := toNativePath process.toPlatform sourceText
    requireManaged process.toPlatform root source (nativeText source) true
    fetchMissingSource process options operation source
    if ← Call.ask (FileSystem.exists_ · source) then copyVerifiedMod process root operation source
    else if options.allowMissingModSources.any Json.isTrue then pure (.pending (recordOf operation))
    else fail .modSourceMissing (.source operation.modId operation.source)

/-! ### The room -/

structure MaterializeResult where
  roomId : Option Json
  root : Option Json
  writtenFiles : List (Option Json)
  preservedFiles : List (Option Json)
  copiedMods : List ModRecord
  pendingMods : List ModRecord
  removedMods : List String

def writtenFiles (outcomes : List FileOutcome) : List (Option Json) :=
  outcomes.filterMap fun
    | .written path => some path
    | _ => none

def preservedFiles (outcomes : List FileOutcome) : List (Option Json) :=
  outcomes.filterMap fun
    | .preserved path => some path
    | _ => none

def copiedMods (outcomes : List ModOutcome) : List ModRecord :=
  outcomes.filterMap fun
    | .copied mod => some mod
    | _ => none

def pendingMods (outcomes : List ModOutcome) : List ModRecord :=
  outcomes.filterMap fun
    | .pending mod => some mod
    | _ => none

def makeAppDataRoot (platform : Platform) (root : Option Json) : Call Stop Unit :=
  if holds root then do
    let text ← orThrow (textOf root)
    orThrowFile (FileSystem.makeDirectories (toNativePath platform text))
    requireManaged platform root (toNativePath platform text) text false
  else pure ()

/-- The steps for a plan that has been made. -/
def materializeWith (process : Process) (options : Options) (runtime : Json) (plan : MaterializationPlan) :
    Call Stop MaterializeResult := do
  makeAppDataRoot process.toPlatform plan.appDataRoot
  let _ ← Call.each (makeRoomDirectory process.toPlatform plan.appDataRoot) plan.directories
  let files ← Call.each (writeRoomFile process.toPlatform plan.appDataRoot) plan.files
  let modsText ← orThrow (textOf (runtime.path ["files", "mods"]))
  let removedMods ← removeUnknownMods process.toPlatform plan (toNativePath process.toPlatform modsText)
  let mods ← Call.each (materializeMod process options plan.appDataRoot) plan.modOperations
  pure {
    roomId := plan.roomId
    root := runtime.path ["files", "root"]
    writtenFiles := writtenFiles files
    preservedFiles := preservedFiles files
    copiedMods := copiedMods mods
    pendingMods := pendingMods mods
    removedMods := removedMods }

def materializeRoom (process : Process) (runtimePlan : Option Json) (options : Options) : Call Stop MaterializeResult := do
  match ← orThrow (createRoomMaterializationPlan runtimePlan) with
  | .error reason => fail .invalidRuntimePlan (.plan reason)
  | .ok plan => materializeWith process options (runtimePlan.getD (.obj [])) plan

/-! ### Managed paths -/

theorem orThrow_bind_eq_ok {α β : Type} {x : Except JsError α} {f : α → Call Stop β} {b : β} {fs fs' : FileSystem} :
    (orThrow x >>= f) fs = (.ok b, fs') ↔ ∃ a, x = .ok a ∧ f a fs = (.ok b, fs') := by
  cases x with
  | ok a =>
    show f a fs = _ ↔ _
    simp
  | error e =>
    show ((.error (.threw e), fs) : Except Stop β × FileSystem) = _ ↔ _
    simp

/-- A managed path is below the root, and no link stands on the way; where the target has to be there, it is. -/
theorem verifyManagedPath_eq_none {platform : Platform} {root shown : String} {path : Path} {allowMissing : Bool}
    {fs : FileSystem} (hroot : root ≠ "")
    (h : verifyManagedPath platform (some (.str root)) path shown allowMissing fs = .ok none) :
    ∃ base rest, fs.lookup (toNativePath platform root) = .found base ∧ path = toNativePath platform root ++ rest ∧
      Plain fs base rest ∧ (allowMissing = false → ∃ real, fs.lookup path = .found real) := by
  have hholds : holds (some (.str root)) = true := by simpa [holds, Json.truthy] using hroot
  rw [verifyManagedPath, hholds, Bool.not_true, if_neg Bool.false_ne_true] at h
  obtain ⟨rootText, htext, h⟩ := bind_eq_ok.1 h
  obtain rfl : root = rootText := Except.ok.inj htext
  dsimp only at h
  split at h
  · cases h
  · rename_i hescapes
    rw [Bool.not_eq_true] at hescapes
    obtain ⟨rest, rfl⟩ := relationEscapes_eq_false hescapes
    split at h
    · cases h
    · split at h
      · cases h
      · rename_i hsymlink
        rw [findExistingSymlinkSegment, List.drop_left] at hsymlink
        split at h
        · rename_i existingReal base hexisting hbase
          have hbase := safeRealpath_eq_some.1 hbase
          refine ⟨base, rest, hbase, rfl, plain_of_findSymlinkBelow hbase hsymlink, ?_⟩
          rintro rfl
          rw [if_neg Bool.false_ne_true] at hexisting
          exact ⟨existingReal, safeRealpath_eq_some.1 hexisting⟩
        · cases h

variable {platform : Platform} {process : Process} {options : Options} {root : String} {base : Path} {fs fs' : FileSystem}

/-- Going on means that the path is managed, and changes nothing. -/
theorem requireManaged_eq_ok {path : Path} {shown : String} {allowMissing : Bool} (hne : root ≠ "")
    (hroot : Anchored fs (toNativePath platform root) base [])
    (h : requireManaged platform (some (.str root)) path shown allowMissing fs = (.ok (), fs')) :
    fs' = fs ∧ ∃ rest, path = toNativePath platform root ++ rest ∧ Anchored fs (toNativePath platform root) base rest ∧
      (allowMissing = false → ∃ real, fs.lookup path = .found real) := by
  rw [requireManaged, Call.ask_bind] at h
  obtain ⟨detail, hdetail, h⟩ := orThrow_bind_eq_ok.1 h
  cases detail with
  | some detail => cases h
  | none =>
    cases h
    obtain ⟨base', rest, hbase, hpath, hplain, hfound⟩ := verifyManagedPath_eq_none hne hdetail
    obtain rfl : base = base' := Files.Lookup.found.inj (hroot.found.symm.trans hbase)
    exact ⟨rfl, rest, hpath, ⟨hroot.found, hroot.dir, hplain⟩, hfound⟩

theorem requireManaged_bind_eq_ok {β : Type} {path : Path} {shown : String} {allowMissing : Bool} {f : Unit → Call Stop β}
    {b : β} (hne : root ≠ "") (hroot : Anchored fs (toNativePath platform root) base [])
    (h : (requireManaged platform (some (.str root)) path shown allowMissing >>= f) fs = (.ok b, fs')) :
    (∃ rest, path = toNativePath platform root ++ rest ∧ Anchored fs (toNativePath platform root) base rest ∧
      (allowMissing = false → ∃ real, fs.lookup path = .found real)) ∧ f () fs = (.ok b, fs') := by
  obtain ⟨_, fs₁, hmanaged, hrest⟩ := Call.bind_eq_ok.1 h
  obtain ⟨rfl, hpath⟩ := requireManaged_eq_ok hne hroot hmanaged
  exact ⟨hpath, hrest⟩

theorem makeDirectories_bind_eq_ok {β : Type} {path : Path} {f : Unit → Call Stop β} {b : β}
    (h : (orThrowFile (FileSystem.makeDirectories path) >>= f) fs = (.ok b, fs')) :
    ∃ fs₁, OnlyDirs fs fs₁ ∧ f () fs₁ = (.ok b, fs') := by
  obtain ⟨_, fs₁, hdirs, h⟩ := Call.mapError_bind_eq_ok.1 h
  exact ⟨fs₁, Files.onlyDirs_makeDirectories hdirs, h⟩

/-! ### What the steps keep -/

theorem makeRoomDirectory_extends {directory : Option Json} (hne : root ≠ "")
    (hroot : Anchored fs (toNativePath platform root) base [])
    (h : makeRoomDirectory platform (some (.str root)) directory fs = (.ok (), fs')) : Extends fs fs' := by
  obtain ⟨text, -, h⟩ := orThrow_bind_eq_ok.1 h
  obtain ⟨-, h⟩ := requireManaged_bind_eq_ok hne hroot h
  obtain ⟨fs₁, hdirs, h⟩ := makeDirectories_bind_eq_ok h
  obtain ⟨rfl, -⟩ := requireManaged_eq_ok hne (hroot.extends_ hdirs.extends_) h
  exact hdirs.extends_

theorem writeRoomFile_extends {file : FileWrite} {outcome : FileOutcome} (hne : root ≠ "")
    (hroot : Anchored fs (toNativePath platform root) base [])
    (h : writeRoomFile platform (some (.str root)) file fs = (.ok outcome, fs')) : Extends fs fs' := by
  obtain ⟨text, -, h⟩ := orThrow_bind_eq_ok.1 h
  obtain ⟨-, h⟩ := requireManaged_bind_eq_ok hne hroot h
  obtain ⟨fs₁, hdirs, h⟩ := makeDirectories_bind_eq_ok h
  have hroot₁ := hroot.extends_ hdirs.extends_
  rw [Call.ask_bind] at h
  split_ifs at h
  · obtain ⟨-, h⟩ := requireManaged_bind_eq_ok hne hroot₁ h
    cases h
    exact hdirs.extends_
  · cases hcontents : file.contents.bind Json.asStr with
    | none =>
      rw [hcontents] at h
      cases h
      exact hdirs.extends_
    | some contents =>
      rw [hcontents] at h
      obtain ⟨-, h⟩ := requireManaged_bind_eq_ok hne hroot₁ h
      obtain ⟨_, fs₂, hwrite, h⟩ := Call.mapError_bind_eq_ok.1 h
      obtain ⟨real, -, hwrote⟩ := FileSystem.writeFile_eq_ok hwrite
      cases h
      exact hdirs.extends_.trans hwrote.extends_

/-- A stale mod is removed from where it stands. -/
theorem removeStaleMod_eq_ok {expectedModFiles : List String} {rest : List String} {entry : String × Node}
    {outcome : Option String} (hne : root ≠ "") (hroot : Anchored fs (toNativePath platform root) base [])
    (h : removeStaleMod platform (some (.str root)) expectedModFiles (toNativePath platform root ++ rest) entry fs =
      (.ok outcome, fs')) :
    Extends fs fs' ∧ (∀ path node, fs'.get path = some node → fs.get path = some node) ∧
      (isFile entry.2 = true → entry.1 ∉ expectedModFiles → fs'.get (base ++ (rest ++ [entry.1])) = none) := by
  unfold removeStaleMod at h
  split_ifs at h with hkept
  · cases h
    refine ⟨Extends.refl _, fun _ _ => id, fun hfile hunexpected => ?_⟩
    simp [hfile, hunexpected] at hkept
  · obtain ⟨⟨rest', hpath, hanchored, hfound⟩, h⟩ := requireManaged_bind_eq_ok hne hroot h
    obtain ⟨real, hreal⟩ := hfound rfl
    rw [List.append_assoc, List.append_cancel_left_eq] at hpath
    subst hpath
    obtain ⟨_, fs₁, hremove, h⟩ := Call.mapError_bind_eq_ok.1 h
    cases h
    rw [List.append_assoc] at hreal hremove
    obtain ⟨place, hplace, hnotDir, rfl⟩ := FileSystem.removeFile_eq_ok hreal hremove
    obtain rfl := hanchored.locate (by simp) hplace
    have hnotLink := hanchored.plain (rest ++ [entry.1]) (by simp) List.prefix_rfl
    refine ⟨Extends.remove hnotDir hnotLink, ?_, ?_⟩
    · intro path node hnode
      rw [FileSystem.get_remove hnotDir] at hnode
      split_ifs at hnode
      exact hnode
    · intro _ _
      rw [FileSystem.get_remove hnotDir, if_pos rfl]

theorem each_removeStaleMod {expectedModFiles : List String} {rest : List String} {entries : List (String × Node)}
    {removed : List (Option String)} (hne : root ≠ "") (hroot : Anchored fs (toNativePath platform root) base [])
    (h : Call.each (removeStaleMod platform (some (.str root)) expectedModFiles (toNativePath platform root ++ rest)) entries
      fs = (.ok removed, fs')) :
    Extends fs fs' ∧ (∀ path node, fs'.get path = some node → fs.get path = some node) ∧
      ∀ entry ∈ entries, isFile entry.2 = true → entry.1 ∉ expectedModFiles →
        fs'.get (base ++ (rest ++ [entry.1])) = none := by
  induction entries generalizing fs removed with
  | nil =>
    cases h
    exact ⟨Extends.refl _, fun _ _ => id, by simp⟩
  | cons entry entries ih =>
    obtain ⟨first, others, fs₁, hfirst, hothers, -⟩ := Call.each_cons_eq_ok.1 h
    obtain ⟨hextends, hshrinks, hgone⟩ := removeStaleMod_eq_ok hne hroot hfirst
    obtain ⟨hextends', hshrinks', hgone'⟩ := ih (hroot.extends_ hextends) hothers
    refine ⟨hextends.trans hextends', fun path node hnode => hshrinks path node (hshrinks' path node hnode), ?_⟩
    rw [List.forall_mem_cons]
    refine ⟨fun hfile hunexpected => ?_, hgone'⟩
    -- What is gone does not come back.
    have hnone := hgone hfile hunexpected
    cases hnode : fs'.get (base ++ (rest ++ [entry.1])) with
    | none => rfl
    | some node =>
      rw [hshrinks' _ node hnode] at hnone
      cases hnone

/-- The operation's target is the path. -/
def Targets (platform : Platform) (operation : ModOperation) (path : Path) : Prop :=
  ∃ text, textOf operation.target = .ok text ∧ toNativePath platform text = path

theorem Targets.unique {operation : ModOperation} {path path' : Path} (h : Targets platform operation path)
    (h' : Targets platform operation path') : path = path' := by
  obtain ⟨text, htext, rfl⟩ := h
  obtain ⟨text', htext', rfl⟩ := h'
  rw [Except.ok.inj (htext.symm.trans htext')]

/-- After the unknown mods have been removed, every file in the mods directory has the name of a target. -/
theorem removeUnknownMods_eq_ok {plan : MaterializationPlan} {modsDirectory : Path} {removed : List String} (hne : root ≠ "")
    (hplan : plan.appDataRoot = some (.str root)) (hremove : plan.safety.removeUnknownMods = true)
    (hroot : Anchored fs (toNativePath platform root) base [])
    (h : removeUnknownMods platform plan modsDirectory fs = (.ok removed, fs')) :
    Extends fs fs' ∧ ∃ rest, modsDirectory = toNativePath platform root ++ rest ∧ Plain fs base rest ∧
      ∀ name bytes, fs'.get (base ++ (rest ++ [name])) = some (.file bytes) →
        ∃ operation ∈ plan.modOperations, ∃ path, Targets platform operation path ∧ basename path = name := by
  rw [removeUnknownMods, if_pos hremove] at h
  obtain ⟨targets, htargets, h⟩ := orThrow_bind_eq_ok.1 h
  rw [hplan] at h
  obtain ⟨⟨rest, rfl, hanchored, hfound⟩, h⟩ := requireManaged_bind_eq_ok hne hroot h
  rw [Call.ask_bind] at h
  obtain ⟨results, fs₁, heach, h⟩ := Call.bind_eq_ok.1 h
  cases h
  obtain ⟨hextends, hshrinks, hgone⟩ := each_removeStaleMod hne hroot heach
  refine ⟨hextends, rest, rfl, hanchored.plain, fun name bytes hfile => ?_⟩
  have hbefore := hshrinks _ _ hfile
  rw [← List.append_assoc] at hbefore
  have hsome : fs.get (base ++ rest ++ [name]) ≠ none := by
    rw [hbefore]
    simp
  -- The directory has been read, and the file was among its entries.
  have hdir := fs.get_parent hsome
  have hlookup := hanchored.lookup_of_get (by simp [hdir])
  have hentries : safeReadDirectory fs (toNativePath platform root ++ rest) = fs.children (base ++ rest) := by
    rw [safeReadDirectory, FileSystem.readdir, hlookup]
    dsimp only
    rw [if_pos hdir]
    rfl
  by_contra hunknown
  have hunexpected : name ∉ targets.map fun target => basename (toNativePath platform target) := by
    intro hmem
    obtain ⟨text, htext, hname⟩ := List.mem_map.1 hmem
    obtain ⟨operation, hoperation, htarget⟩ := Throwing.exists_of_mem_mapM htargets htext
    exact hunknown ⟨operation, hoperation, _, ⟨text, htarget, rfl⟩, hname⟩
  have hnone := hgone (name, .file bytes) (by rw [hentries]; exact FileSystem.mem_children.2 hbefore) rfl hunexpected
  rw [hfile] at hnone
  cases hnone

/-! ### The plan's mods -/

/-- The operation's source is the path. -/
def Sources (platform : Platform) (operation : ModOperation) (path : Path) : Prop :=
  ∃ text, textOf operation.source = .ok text ∧ toNativePath platform text = path

theorem checksumMatches_eq_true {expected : Option Json} {actual : String} (h : checksumMatches expected actual = true) :
    expected = some (.str actual) := by
  unfold checksumMatches at h
  split at h
  · rw [Bool.and_eq_true, beq_iff_eq] at h
    rw [h.2]
  · cases h

/-- A source that is fetched is written where its path is, and nowhere else. -/
theorem fetchMissingSource_eq_ok {operation : ModOperation} {rest : List String}
    (hanchored : Anchored fs (toNativePath process.toPlatform root) base rest)
    (h : fetchMissingSource process options operation (toNativePath process.toPlatform root ++ rest) fs = (.ok (), fs')) :
    fs' = fs ∨ holds operation.downloadUrl = true ∧ ∃ bytes, Wrote fs fs' (base ++ rest) bytes := by
  rw [fetchMissingSource, Call.ask_bind] at h
  split_ifs at h with hfetch
  · rw [Bool.and_eq_true] at hfetch
    refine .inr ⟨hfetch.2, ?_⟩
    unfold downloadVerifiedModSource at h
    cases hproblem : validateModDownloadUrl process operation.downloadUrl with
    | some reason =>
      rw [hproblem] at h
      cases h
    | none =>
      rw [hproblem] at h
      cases himpl : options.fetch with
      | none =>
        rw [himpl] at h
        cases h
      | some fetch =>
        rw [himpl] at h
        dsimp only at h
        cases hresponse : fetch operation.downloadUrl with
        | pending =>
          rw [hresponse] at h
          cases h
        | thrown message =>
          rw [hresponse] at h
          cases h
        | value response =>
          rw [hresponse] at h
          obtain ⟨bytes, -, h⟩ := Call.ofExcept_bind_eq_ok.1 h
          obtain ⟨fs₁, hdirs, h⟩ := makeDirectories_bind_eq_ok h
          have hwrote := (hanchored.extends_ hdirs.extends_).writeFile (Call.mapError_eq_ok.1 h)
          exact ⟨bytes, Wrote.after hdirs hwrote⟩
  · cases h
    exact .inl rfl

/-- A mod that is copied has the expected checksum. -/
theorem copyVerifiedMod_eq_ok {operation : ModOperation} {source : Path} {rest : List String} {name : String}
    {outcome : ModOutcome} (hne : root ≠ "") (hroot : Anchored fs (toNativePath process.toPlatform root) base [])
    (htarget : Targets process.toPlatform operation (toNativePath process.toPlatform root ++ (rest ++ [name])))
    (hlink : ∀ target, fs.get (base ++ (rest ++ [name])) ≠ some (.link target))
    (h : copyVerifiedMod process (some (.str root)) operation source fs = (.ok outcome, fs')) :
    ∃ bytes, operation.expectedSha256 = some (.str (process.sha256 bytes)) ∧
      Wrote fs fs' (base ++ (rest ++ [name])) bytes := by
  rw [copyVerifiedMod, Call.ask_bind] at h
  obtain ⟨bytes, fs₁, hcall, h⟩ := Call.mapError_bind_eq_ok.1 h
  obtain ⟨hread, rfl⟩ := Call.ofExcept_eq_ok.1 hcall
  dsimp only at h
  split_ifs at h with hmismatch
  · cases h
  · rw [Bool.not_eq_true', Bool.not_eq_false] at hmismatch
    obtain ⟨text, htext, h⟩ := orThrow_bind_eq_ok.1 h
    obtain hpath := htarget.unique ⟨text, htext, rfl⟩
    rw [← hpath] at h
    obtain ⟨-, h⟩ := requireManaged_bind_eq_ok hne hroot h
    obtain ⟨fs₁, hdirs, h⟩ := makeDirectories_bind_eq_ok h
    have hroot₁ := hroot.extends_ hdirs.extends_
    obtain ⟨⟨rest', hdirectory, hanchored, -⟩, h⟩ := requireManaged_bind_eq_ok hne hroot₁ h
    obtain ⟨_, fs₂, hcopy, h⟩ := Call.mapError_bind_eq_ok.1 h
    cases h
    rw [dirname, ← List.append_assoc, List.dropLast_concat, List.append_cancel_left_eq] at hdirectory
    subst hdirectory
    have hlink₁ : ∀ target, fs₁.get (base ++ (rest ++ [name])) ≠ some (.link target) := fun target hnode =>
      hlink target ((hdirs.get_iff (by simp)).1 hnode)
    obtain ⟨copied, hcopied, hwrote⟩ := (hanchored.concat hlink₁).copyFile hcopy
    -- The source is read a second time, after directories have been made.
    obtain rfl := Except.ok.inj ((hdirs.readFile hread).symm.trans hcopied)
    exact ⟨bytes, checksumMatches_eq_true hmismatch, Wrote.after hdirs hwrote⟩

/-- What is known of a mod's operation: it is for a name in the mods directory where no link stands, and it does not
download into that directory. -/
structure Orderly (platform : Platform) (operation : ModOperation) (modsDirectory base : Path) (name : String)
    (fs : FileSystem) : Prop where
  target : Targets platform operation (modsDirectory ++ [name])
  noLink : ∀ target, fs.get (base ++ [name]) ≠ some (.link target)
  source : holds operation.downloadUrl = true → ∀ name, ¬ Sources platform operation (modsDirectory ++ [name])

/-- Fetching a source leaves the mods directory alone. -/
theorem fetchMissingSource_mods {operation : ModOperation} {rest source : List String} {name : String}
    (hanchored : Anchored fs (toNativePath process.toPlatform root) base source)
    (hsource : Sources process.toPlatform operation (toNativePath process.toPlatform root ++ source))
    (hop : Orderly process.toPlatform operation (toNativePath process.toPlatform root ++ rest) (base ++ rest) name fs)
    (h : fetchMissingSource process options operation (toNativePath process.toPlatform root ++ source) fs = (.ok (), fs')) :
    Extends fs fs' ∧ ∀ other bytes, fs'.get (base ++ rest ++ [other]) = some (.file bytes) →
      fs.get (base ++ rest ++ [other]) = some (.file bytes) := by
  rcases fetchMissingSource_eq_ok hanchored h with rfl | ⟨hdownload, written, hwrote⟩
  · exact ⟨Extends.refl _, fun _ _ => id⟩
  · refine ⟨hwrote.extends_, fun other bytes hfile => ?_⟩
    rcases hwrote.get_file hfile with ⟨hplace, -⟩ | ⟨-, hbefore⟩
    · -- The source would be in the mods directory.
      rw [List.append_assoc, List.append_cancel_left_eq] at hplace
      subst hplace
      rw [← List.append_assoc] at hsource
      exact absurd hsource (hop.source hdownload other)
    · exact hbefore

/-- After an operation, a file in the mods directory is the one that has been copied, or has been there: the operation is
for another name or pending. -/
theorem materializeMod_eq_ok {operation : ModOperation} {rest : List String} {name : String} {outcome : ModOutcome}
    (hne : root ≠ "") (hroot : Anchored fs (toNativePath process.toPlatform root) base [])
    (hop : Orderly process.toPlatform operation (toNativePath process.toPlatform root ++ rest) (base ++ rest) name fs)
    (h : materializeMod process options (some (.str root)) operation fs = (.ok outcome, fs')) :
    Extends fs fs' ∧ ∀ other bytes, fs'.get (base ++ rest ++ [other]) = some (.file bytes) →
      (other = name ∧ operation.expectedSha256 = some (.str (process.sha256 bytes))) ∨
        (fs.get (base ++ rest ++ [other]) = some (.file bytes) ∧
          (other = name → outcome = .pending (recordOf operation))) := by
  unfold materializeMod at h
  by_cases hverified : (!operation.verified.any Json.isTrue) = true
  · rw [if_pos hverified] at h
    cases h
  rw [if_neg hverified] at h
  by_cases hlike : (!isPathLikeText operation.source) = true
  · rw [if_pos hlike] at h
    cases h
    exact ⟨Extends.refl _, fun other bytes hfile => .inr ⟨hfile, fun _ => rfl⟩⟩
  · rw [if_neg hlike] at h
    obtain ⟨sourceText, hsource, h⟩ := orThrow_bind_eq_ok.1 h
    obtain ⟨⟨source, hpath, hanchored, -⟩, h⟩ := requireManaged_bind_eq_ok hne hroot h
    obtain ⟨_, fs₁, hfetch, h⟩ := Call.bind_eq_ok.1 h
    rw [hpath] at hfetch
    obtain ⟨hextends, hmods⟩ := fetchMissingSource_mods hanchored ⟨sourceText, hsource, hpath⟩ hop hfetch
    rw [Call.ask_bind] at h
    split_ifs at h
    · have htarget := hop.target
      rw [List.append_assoc] at htarget
      have hlink : ∀ target, fs₁.get (base ++ (rest ++ [name])) ≠ some (.link target) := by
        intro target hnode
        rw [← List.append_assoc, hextends.links] at hnode
        exact hop.noLink target hnode
      obtain ⟨copied, hchecksum, hwrote⟩ := copyVerifiedMod_eq_ok hne (hroot.extends_ hextends) htarget hlink h
      refine ⟨hextends.trans hwrote.extends_, fun other bytes hfile => ?_⟩
      rcases hwrote.get_file hfile with ⟨hplace, rfl⟩ | ⟨hother, hbefore⟩
      · rw [List.append_assoc, List.append_cancel_left_eq, List.append_cancel_left_eq, List.cons.injEq] at hplace
        exact .inl ⟨hplace.1, hchecksum⟩
      · refine .inr ⟨hmods other bytes hbefore, ?_⟩
        rintro rfl
        exact absurd (List.append_assoc _ _ _) hother
    · cases h
      exact ⟨hextends, fun other bytes hfile => .inr ⟨hmods other bytes hfile, fun _ => rfl⟩⟩
    · cases h

theorem Orderly.extends_ {operation : ModOperation} {modsDirectory place : Path} {name : String}
    (h : Orderly platform operation modsDirectory place name fs) (hextends : Extends fs fs') :
    Orderly platform operation modsDirectory place name fs' :=
  ⟨h.target, fun target hnode => h.noLink target ((hextends.links _ _).1 hnode), h.source⟩

/-- After all operations, a file in the mods directory has been copied by one of them, or has been there before and is the
target of pending operations only. -/
theorem each_materializeMod {operations : List ModOperation} {outcomes : List ModOutcome} {rest : List String}
    (hne : root ≠ "") (hroot : Anchored fs (toNativePath process.toPlatform root) base [])
    (hops : ∀ operation ∈ operations, ∃ name,
      Orderly process.toPlatform operation (toNativePath process.toPlatform root ++ rest) (base ++ rest) name fs)
    (h : Call.each (materializeMod process options (some (.str root))) operations fs = (.ok outcomes, fs')) :
    Extends fs fs' ∧ ∀ other bytes, fs'.get (base ++ rest ++ [other]) = some (.file bytes) →
      (∃ operation ∈ operations,
        Targets process.toPlatform operation (toNativePath process.toPlatform root ++ rest ++ [other]) ∧
          operation.expectedSha256 = some (.str (process.sha256 bytes))) ∨
        (fs.get (base ++ rest ++ [other]) = some (.file bytes) ∧ ∀ operation ∈ operations,
          Targets process.toPlatform operation (toNativePath process.toPlatform root ++ rest ++ [other]) →
            recordOf operation ∈ pendingMods outcomes) := by
  induction operations generalizing fs outcomes with
  | nil =>
    cases h
    exact ⟨Extends.refl _, fun other bytes hfile => .inr ⟨hfile, by simp⟩⟩
  | cons operation operations ih =>
    rw [List.forall_mem_cons] at hops
    obtain ⟨⟨name, hop⟩, hops⟩ := hops
    obtain ⟨outcome, others, fs₁, hfirst, hothers, rfl⟩ := Call.each_cons_eq_ok.1 h
    obtain ⟨hextends, hstep⟩ := materializeMod_eq_ok hne hroot hop hfirst
    have hops₁ : ∀ operation ∈ operations, ∃ name, Orderly process.toPlatform operation
        (toNativePath process.toPlatform root ++ rest) (base ++ rest) name fs₁ := by
      intro operation hoperation
      obtain ⟨name, hop⟩ := hops operation hoperation
      exact ⟨name, hop.extends_ hextends⟩
    obtain ⟨hextends', hrun⟩ := ih (hroot.extends_ hextends) hops₁ hothers
    refine ⟨hextends.trans hextends', fun other bytes hfile => ?_⟩
    have hpending : ∀ mod ∈ pendingMods others, mod ∈ pendingMods (outcome :: others) := by
      intro mod hmod
      rw [pendingMods, List.filterMap_cons]
      split
      · exact hmod
      · exact List.mem_cons_of_mem _ hmod
    rcases hrun other bytes hfile with ⟨operation', hoperation', htarget, hchecksum⟩ | ⟨hbefore, hlater⟩
    · exact .inl ⟨operation', List.mem_cons_of_mem _ hoperation', htarget, hchecksum⟩
    · rcases hstep other bytes hbefore with ⟨rfl, hchecksum⟩ | ⟨hbefore, hname⟩
      · exact .inl ⟨operation, List.mem_cons_self, hop.target, hchecksum⟩
      · refine .inr ⟨hbefore, ?_⟩
        rw [List.forall_mem_cons]
        refine ⟨fun htarget => ?_, fun operation' hoperation' htarget => hpending _ (hlater operation' hoperation' htarget)⟩
        have hsame := htarget.unique hop.target
        rw [List.append_cancel_left_eq, List.cons.injEq] at hsame
        rw [hname hsame.1]
        exact List.mem_cons_self

/-! ### The mods directory of a room -/

def modsDirectory (platform : Platform) (runtimePlan : Option Json) : Path :=
  toNativePath platform ((textOf ((runtimePlan.getD (.obj [])).path ["files", "mods"])).toOption.getD "")

/-- Every file in the directory is the target of an operation with the property. -/
def EachFile (platform : Platform) (plan : MaterializationPlan) (directory : Path) (fs : FileSystem)
    (P : ModOperation → List UInt8 → Prop) : Prop :=
  ∀ entries, fs.readdir directory = .ok entries → ∀ name bytes, (name, Node.file bytes) ∈ entries →
    ∃ operation ∈ plan.modOperations, Targets platform operation (directory ++ [name]) ∧ P operation bytes

/-- The plan removes unknown mods, and its operations keep to the mods directory: each has its target there, not at a
link, and none downloads into it. -/
structure KeepsToMods (platform : Platform) (plan : MaterializationPlan) (directory : Path) (fs : FileSystem) : Prop where
  removes : plan.safety.removeUnknownMods = true
  targets : ∀ operation ∈ plan.modOperations, ∃ name, Targets platform operation (directory ++ [name]) ∧
    fs.isLinkAt (directory ++ [name]) = false
  sources : ∀ operation ∈ plan.modOperations, holds operation.downloadUrl = true →
    ∀ name, ¬ Sources platform operation (directory ++ [name])

/-- Once the root has been made it is a directory, and a way without links below it has been one before. -/
theorem makeAppDataRoot_eq_ok (hne : root ≠ "") (h : makeAppDataRoot platform (some (.str root)) fs = (.ok (), fs')) :
    Extends fs fs' ∧ ∃ base, Anchored fs' (toNativePath platform root) base [] ∧
      ∀ rest name, Plain fs' base rest →
        (∃ target, fs'.get (base ++ rest ++ [name]) = some (.link target)) →
        fs.isLinkAt (toNativePath platform root ++ rest ++ [name]) = true := by
  have hholds : holds (some (.str root)) = true := by simpa [holds, Json.truthy] using hne
  rw [makeAppDataRoot, if_pos hholds] at h
  obtain ⟨text, htext, h⟩ := orThrow_bind_eq_ok.1 h
  obtain rfl : root = text := Except.ok.inj htext
  obtain ⟨_, fs₁, hmade, hmanaged⟩ := Call.mapError_bind_eq_ok.1 h
  have hdirs := Files.onlyDirs_makeDirectories hmade
  obtain ⟨base, hfound, hdir⟩ := Files.makeDirectories_found hmade
  have hroot : Anchored fs₁ (toNativePath platform root) base [] := ⟨hfound, hdir, fun start hstart hprefix =>
    absurd (List.prefix_nil.1 hprefix) hstart⟩
  obtain ⟨rfl, -⟩ := requireManaged_eq_ok hne hroot hmanaged
  refine ⟨hdirs.extends_, base, hroot, ?_⟩
  rintro rest name hplain ⟨target, hlink⟩
  -- The link has been there from the start, and so have the directories above it.
  have hbefore := (hdirs.get_iff (by simp)).1 hlink
  have hbase : fs.get base ≠ none := by
    have hbelow : fs.get (base ++ (rest ++ [name])) ≠ none := by
      rw [← List.append_assoc, hbefore]
      simp
    rw [fs.get_of_below (by simp) hbelow]
    simp
  have hstart : fs.lookup [] = .found [] := rfl
  obtain rfl := Files.makeDirectoriesFrom_kept hstart fs.get_nil hmade hfound hbase
  rw [FileSystem.isLinkAt, Anchored.lstat_of_get ⟨hfound, hdir, hplain⟩ hlink]
  rfl

/-- What a room's plan leaves in the mods directory: a file that an operation has copied, or one that was there under the
name of a pending operation's target. -/
theorem materializeWith_verified {runtime : Json} {plan : MaterializationPlan} {result : MaterializeResult}
    (hne : root ≠ "") (hplan : plan.appDataRoot = some (.str root))
    (hkeeps : KeepsToMods process.toPlatform plan (modsDirectory process.toPlatform (some runtime)) fs)
    (h : materializeWith process options runtime plan fs = (.ok result, fs')) :
    EachFile process.toPlatform plan (modsDirectory process.toPlatform (some runtime)) fs' fun operation bytes =>
      operation.expectedSha256 = some (.str (process.sha256 bytes)) ∨ recordOf operation ∈ result.pendingMods := by
  obtain ⟨_, fs₁, hmakes, h⟩ := Call.bind_eq_ok.1 h
  obtain ⟨_, fs₂, hdirectories, h⟩ := Call.bind_eq_ok.1 h
  obtain ⟨files, fs₃, hfiles, h⟩ := Call.bind_eq_ok.1 h
  obtain ⟨modsText, hmodsText, h⟩ := orThrow_bind_eq_ok.1 h
  obtain ⟨removed, fs₄, hremoved, h⟩ := Call.bind_eq_ok.1 h
  obtain ⟨mods, fs₅, hmods, h⟩ := Call.bind_eq_ok.1 h
  cases h
  rw [hplan] at hmakes hdirectories hfiles hmods
  obtain ⟨hextends₁, base, hroot, hlinks⟩ := makeAppDataRoot_eq_ok hne hmakes
  -- The root stays where it is, whatever the steps make.
  have hextends₂ : Extends fs₁ fs₂ := Call.each_related
    (fun fs fs' => Anchored fs (toNativePath process.toPlatform root) base [] → Extends fs fs')
    (fun fs _ => Extends.refl fs) (fun h h' hroot => (h hroot).trans (h' (hroot.extends_ (h hroot))))
    (fun _ _ _ _ _ hstep hroot => makeRoomDirectory_extends hne hroot hstep) hdirectories hroot
  have hroot₂ := hroot.extends_ hextends₂
  have hextends₃ : Extends fs₂ fs₃ := Call.each_related
    (fun fs fs' => Anchored fs (toNativePath process.toPlatform root) base [] → Extends fs fs')
    (fun fs _ => Extends.refl fs) (fun h h' hroot => (h hroot).trans (h' (hroot.extends_ (h hroot))))
    (fun _ _ _ _ _ hstep hroot => writeRoomFile_extends hne hroot hstep) hfiles hroot₂
  have hroot₃ := hroot₂.extends_ hextends₃
  have hdirectory : toNativePath process.toPlatform modsText = modsDirectory process.toPlatform (some runtime) := by
    rw [modsDirectory, Option.getD_some, hmodsText]
    rfl
  rw [hdirectory] at hremoved
  obtain ⟨hextends₄, rest, hrest, hplain, hnames⟩ := removeUnknownMods_eq_ok hne hplan hkeeps.removes hroot₃ hremoved
  have hbefore := (hextends₂.trans hextends₃).trans hextends₄
  have hops : ∀ operation ∈ plan.modOperations, ∃ name, Orderly process.toPlatform operation
      (toNativePath process.toPlatform root ++ rest) (base ++ rest) name fs₄ := by
    intro operation hoperation
    obtain ⟨name, htarget, hlink⟩ := hkeeps.targets operation hoperation
    have hsource := hkeeps.sources operation hoperation
    rw [hrest] at htarget hlink hsource
    refine ⟨name, htarget, fun target hnode => ?_, hsource⟩
    have hplain₁ := (hplain.of_extends (hextends₂.trans hextends₃))
    rw [hlinks rest name hplain₁ ⟨target, (hbefore.links _ _).1 hnode⟩] at hlink
    cases hlink
  have hroot₄ := hroot₃.extends_ hextends₄
  obtain ⟨hextends₅, hrun⟩ := each_materializeMod hne hroot₄ hops hmods
  have hroot₅ : Anchored fs' (toNativePath process.toPlatform root) base rest :=
    ⟨hextends₅.lookup_found hroot₄.found ((hextends₅.dirs _ hroot₄.dir).trans hroot₄.dir.symm),
      hextends₅.dirs _ hroot₄.dir, (hplain.extends_ hextends₄).extends_ hextends₅⟩
  intro entries hentries name bytes hentry
  rw [hrest] at hentries ⊢
  have hfile : fs'.get (base ++ rest ++ [name]) = some (.file bytes) := by
    unfold FileSystem.readdir at hentries
    split at hentries
    · rename_i real hreal
      split_ifs at hentries
      cases hentries
      rw [hroot₅.lookup_found hreal] at hentry
      exact FileSystem.mem_children.1 hentry
    · cases hentries
    · cases hentries
  rcases hrun name bytes hfile with ⟨operation, hoperation, htarget, hchecksum⟩ | ⟨hkept, hpending⟩
  · exact ⟨operation, hoperation, htarget, .inl hchecksum⟩
  · -- A file from before has a target's name, and the target is in the mods directory.
    rw [List.append_assoc] at hkept
    obtain ⟨operation, hoperation, path, hpath, hname⟩ := hnames name bytes hkept
    obtain ⟨name', htarget, -⟩ := hkeeps.targets operation hoperation
    rw [hpath.unique htarget, basename, List.getLast?_concat, Option.getD_some] at hname
    rw [hname, hrest] at htarget
    exact ⟨operation, hoperation, htarget, .inr (hpending operation hoperation htarget)⟩

/-- When a room has been materialized, every file in its mods directory is the target of one of the plan's operations and
has the checksum that the operation expects, or else the operation is listed as pending.  The plan removes unknown mods and
its operations keep to the mods directory. -/
theorem materializeRoom_verified (process : Process) (options : Options) {runtimePlan : Option Json}
    {plan : MaterializationPlan} (hplan : createRoomMaterializationPlan runtimePlan = .ok (.ok plan))
    {result : MaterializeResult} {fs fs' : FileSystem}
    (hkeeps : KeepsToMods process.toPlatform plan (modsDirectory process.toPlatform runtimePlan) fs)
    (h : materializeRoom process runtimePlan options fs = (.ok result, fs')) :
    EachFile process.toPlatform plan (modsDirectory process.toPlatform runtimePlan) fs' fun operation bytes =>
      operation.expectedSha256 = some (.str (process.sha256 bytes)) ∨ recordOf operation ∈ result.pendingMods := by
  obtain ⟨root, entries, haccepted, hroot⟩ := LocalAdapter.createRoomMaterializationPlan_accepted hplan
  obtain ⟨made, hmade, h⟩ := orThrow_bind_eq_ok.1 h
  obtain rfl := Except.ok.inj (hplan.symm.trans hmade)
  exact materializeWith_verified haccepted.root_ne hroot hkeeps h

/-- Whether the operations keep to the mods directory. -/
def keepsToMods (platform : Platform) (plan : MaterializationPlan) (directory : Path) (fs : FileSystem) : Bool :=
  plan.safety.removeUnknownMods && plan.modOperations.all fun operation =>
    (match textOf operation.target with
      | .ok text =>
        let path := toNativePath platform text
        path == directory ++ [basename path] && !fs.isLinkAt path
      | .error _ => false) && !holds operation.downloadUrl

theorem KeepsToMods.of_check {plan : MaterializationPlan} {directory : Path}
    (h : keepsToMods platform plan directory fs = true) : KeepsToMods platform plan directory fs := by
  rw [keepsToMods, Bool.and_eq_true, List.all_eq_true] at h
  obtain ⟨hremoves, hoperations⟩ := h
  refine ⟨hremoves, fun operation hoperation => ?_, fun operation hoperation hdownload => ?_⟩
  · have hcheck := (Bool.and_eq_true _ _ ▸ hoperations operation hoperation).1
    split at hcheck
    · rename_i text htext
      simp only [Bool.and_eq_true, beq_iff_eq, Bool.not_eq_true'] at hcheck
      obtain ⟨hpath, hlink⟩ := hcheck
      rw [hpath] at hlink
      exact ⟨_, ⟨text, htext, hpath⟩, hlink⟩
    · cases hcheck
  · have hcheck := (Bool.and_eq_true _ _ ▸ hoperations operation hoperation).2
    rw [hdownload] at hcheck
    cases hcheck

/-- The checksum of no bytes. -/
def emptySha256 : String := "e3b0c44298fc1c149afbf4c8996fb92427ae41e4649b934ca495991b7852b855"

/-- The checksum of the text `a`. -/
def letterSha256 : String := "ca978112ca1bbdcafac231b39a23dc4da786eff8147c4e72b9807785afee48bb"

def sampleProcess : Process where
  directory := []
  sha256 := fun bytes => if bytes.isEmpty then emptySha256 else letterSha256
  parseUrl := fun _ => none

def sampleOptions : Options := ⟨none, none⟩

/-- A room with one mod from the cache and one that comes with the pack. -/
def samplePlan : Json :=
  .obj [("room", .obj [("id", .str "r")]),
    ("files", .obj [("root", .str "A/r"), ("mods", .str "A/r/m"), ("world", .str "A/r/w")]),
    ("layout", .obj [("appDataRoot", .str "A"), ("runtime", .str "A/r/j"), ("logs", .str "A/r/l"), ("cache", .str "A/c"),
      ("downloads", .str "A/c/d"), ("metadata", .str "A/c/m")]),
    ("fabric", .obj [("launcherJar", .str "A/r/j/f")]), ("cache", .obj [("checksumAlgorithm", .str "sha256")]),
    ("eula", .obj [("path", .str "A/r/e"), ("accepted", .bool true), ("writeText", .str "eula=true")]),
    ("serverProperties", .obj [("path", .str "A/r/p"), ("values", .obj [])]),
    ("mods", .obj [("entries", .arr [
        .obj [("id", .str "a"), ("source", .str "A/c/a"), ("target", .str "A/r/m/a"), ("sha256", .str emptySha256),
          ("verified", .bool true)],
        .obj [("id", .str "b"), ("source", .str "bundled"), ("target", .str "A/r/m/b"), ("sha256", .str emptySha256),
          ("verified", .bool true)]]),
      ("removeUnknownMods", .bool true)]),
    ("pack", .obj [("id", .str "p")]), ("bridge", .obj [("approvalSource", .str "server_observed_uuid")]),
    ("command", .arr [.str "java"])]

/-- The source is in the cache; in the mods directory there are a file under the bundled mod's name, and an unknown one. -/
def sampleFiles : FileSystem :=
  let dirs := [["A"], ["A", "c"], ["A", "r"], ["A", "r", "m"]]
  let files := [(["A", "c", "a"], []), (["A", "r", "m", "b"], [97]), (["A", "r", "m", "x"], [97])]
  files.foldl (fun fs file => fs.put file.1 (.file file.2)) (dirs.foldl (fun fs dir => fs.put dir .dir) .empty)

/-- The plan is kept to, every operation expects the checksum, and this is what is in the mods directory afterwards. -/
def leaves (process : Process) (runtimePlan : Option Json) (options : Options) (fs : FileSystem) (checksum : String)
    (entries : List (String × Node)) : Bool :=
  match createRoomMaterializationPlan runtimePlan, materializeRoom process runtimePlan options fs with
  | .ok (.ok plan), (.ok _, fs') =>
    keepsToMods process.toPlatform plan (modsDirectory process.toPlatform runtimePlan) fs &&
      plan.modOperations.all (fun operation => operation.expectedSha256.bind Json.asStr == some checksum) &&
      (fs'.readdir (modsDirectory process.toPlatform runtimePlan)).toOption == some entries
  | _, _ => false

private theorem exists_of_leaves {runtimePlan : Option Json} {checksum : String} {entries : List (String × Node)}
    (h : leaves process runtimePlan options fs checksum entries = true) :
    ∃ plan result fs', createRoomMaterializationPlan runtimePlan = .ok (.ok plan) ∧
      materializeRoom process runtimePlan options fs = (.ok result, fs') ∧
      KeepsToMods process.toPlatform plan (modsDirectory process.toPlatform runtimePlan) fs ∧
      (∀ operation ∈ plan.modOperations, operation.expectedSha256.bind Json.asStr = some checksum) ∧
      fs'.readdir (modsDirectory process.toPlatform runtimePlan) = .ok entries := by
  unfold leaves at h
  split at h
  · rename_i plan result fs' hplan hresult
    simp only [Bool.and_eq_true, List.all_eq_true, beq_iff_eq] at h
    obtain ⟨⟨hkeeps, hchecksums⟩, hentries⟩ := h
    refine ⟨plan, result, fs', hplan, hresult, .of_check hkeeps, hchecksums, ?_⟩
    cases hread : fs'.readdir (modsDirectory process.toPlatform runtimePlan) with
    | ok found =>
      rw [hread] at hentries
      rw [Option.some_inj.1 hentries]
    | error e =>
      rw [hread] at hentries
      cases hentries
  · cases h

private theorem sample_leaves : leaves sampleProcess (some samplePlan) sampleOptions sampleFiles emptySha256
    [("b", .file [97]), ("a", .file [])] = true := by decide +kernel

theorem materializeRoom_verified_sample : ∃ plan result fs',
    createRoomMaterializationPlan (some samplePlan) = .ok (.ok plan) ∧
      materializeRoom sampleProcess (some samplePlan) sampleOptions sampleFiles = (.ok result, fs') ∧
      EachFile sampleProcess.toPlatform plan (modsDirectory sampleProcess.toPlatform (some samplePlan)) fs'
        fun operation bytes => operation.expectedSha256 = some (.str (sampleProcess.sha256 bytes)) ∨
          recordOf operation ∈ result.pendingMods := by
  obtain ⟨plan, result, fs', hplan, hresult, hkeeps, -, -⟩ := exists_of_leaves sample_leaves
  exact ⟨plan, result, fs', hplan, hresult, materializeRoom_verified sampleProcess sampleOptions hplan hkeeps hresult⟩

/-- What stands under the name of a mod that is pending has not been verified. -/
theorem not_materializeRoom_verified : ¬ ∀ (process : Process) (options : Options) (runtimePlan : Option Json)
    (plan : MaterializationPlan) (result : MaterializeResult) (fs fs' : FileSystem),
    createRoomMaterializationPlan runtimePlan = .ok (.ok plan) →
      materializeRoom process runtimePlan options fs = (.ok result, fs') →
      EachFile process.toPlatform plan (modsDirectory process.toPlatform runtimePlan) fs' fun operation bytes =>
        operation.expectedSha256 = some (.str (process.sha256 bytes)) := by
  intro hall
  obtain ⟨plan, result, fs', hplan, hresult, -, hchecksums, hentries⟩ := exists_of_leaves sample_leaves
  obtain ⟨operation, hoperation, -, hchecksum⟩ :=
    hall sampleProcess sampleOptions (some samplePlan) plan result sampleFiles fs' hplan hresult _ hentries "b" [97]
      List.mem_cons_self
  have hexpected := hchecksums operation hoperation
  rw [hchecksum] at hexpected
  revert hexpected
  decide

end EasyMc.Desktop.Materializing
