import EasyMc.Desktop.ManagedFiles
import EasyMc.Desktop.PlanAgreement

/-!
# The server's jar (`apps/desktop/src/runtime/node-fabric-bootstrap.mjs`)

`bootstrapFabricServer` installs the jar of a room's server: it takes it from where the launcher has it, from the cache
or from the approved source, compares its checksum with the pinned one, and writes it to the cache and to the launcher,
with a record of where it is from.

Each file is written beside its place and moved there (`writeFileAtomic`).  Everything that may turn the request down
comes before the first directory is made, so a request that is turned down changes nothing; when it returns, both jars
hold the pinned bytes (`bootstrapFabricServer_all_or_nothing`).

What `fetch` answers is an oracle.  Whether it answers in time is part of it: a fetch that is pending has not settled
when the timer runs out.
-/

namespace EasyMc.Desktop.FabricBootstrap

open Files (FileSystem Path FsError Node Call OnlyDirs Wrote Anchored)
open HostPlan (createHostRuntimePlan Parts Planned)
open Json (coalesce get holds isStr textOf)
open LocalAdapter (createFabricServerDownloadPlan DownloadPlan serializeJson)
open ManagedFiles
open Throwing (JsError bind_eq_ok)

/-! ### Failures -/

inductive FailureReason
  | invalidDownloadPlan
  | fetchMissing
  | downloadFailed
  | checksumMismatch
  deriving DecidableEq

def FailureReason.text : FailureReason → String
  | .invalidDownloadPlan => "invalid_download_plan"
  | .fetchMissing => "fetch_missing"
  | .downloadFailed => "download_failed"
  | .checksumMismatch => "checksum_mismatch"

def FailureReason.message : FailureReason → String
  | .invalidDownloadPlan => "방 실행 파일 다운로드 계획을 먼저 검증해야 합니다."
  | .fetchMissing => "검증된 다운로드 어댑터가 필요합니다."
  | .downloadFailed => "방 실행 파일을 내려받지 못했습니다."
  | .checksumMismatch => "방 실행 파일 검증에 실패했습니다."

/-- What is thrown. -/
inductive Thrown
  | js (error : JsError)
  | file (error : FsError)
  | invalidTime
  | downloadTooLarge (size : JsNumber) (maxBytes : Json)
  | noBody
  | downloadTimeout (timeoutMs : Json)
  | oracle (message : String)

/-- The detail of a failure. -/
inductive Detail
  | plan (reason : LocalAdapter.FailureReason)
  | checksumRequired (roomId : Option Json) (sourceUrl : String) (target : Option Json)
  | boundary (reason : BoundaryReason)
  | source (sourceUrl : String)
  | error (sourceUrl : String) (error : Thrown)
  | status (sourceUrl : String) (status statusText : Json)
  | unapprovedRedirectTarget (sourceUrl : String) (responseUrl : Json)
  | mismatch (sourceUrl : String) (expectedSha256 : Json) (actualSha256 : String)

structure Failure where
  reason : FailureReason
  detail : Detail

/-- How the request ends if it does not return `ok: true`. -/
inductive Stop
  | failed (failure : Failure)
  | threw (error : Thrown)
  | pending

def fail {α : Type} (reason : FailureReason) (detail : Detail) : Except Stop α := .error (.failed ⟨reason, detail⟩)

/-- A computation that may throw. -/
def orThrow {α : Type} : Except JsError α → Except Stop α
  | .ok a => .ok a
  | .error e => .error (.threw (.js e))

/-! ### Options -/

structure FetchInit where
  method : String
  redirect : String
  accept : String

def fetchInit : FetchInit := ⟨"GET", "error", "application/java-archive, application/octet-stream"⟩

structure Options where
  sources : Option Json
  fetch : Option (String → FetchInit → Settled (Option Response))
  -- The text of a date, if it is a valid one.
  now : Option (Option String)
  maxBytes : Option Json
  maxDownloadBytes : Option Json
  timeoutMs : Option Json
  downloadTimeoutMs : Option Json

/-- The process that installs the jar.  No name ends with an id that has just been drawn. -/
structure Process extends Platform where
  pid : Nat
  now : String
  randomUUID : FileSystem → String
  fresh : ∀ fs path name, fs.get (path ++ [name]) ≠ none → ¬ (randomUUID fs).toList <:+ name.toList

def defaultDownloadTimeoutMs : Json := .num "30000"

def defaultMaxDownloadBytes : Json := .num "268435456"

def fabricMetaBaseUrl : String := "https://meta.fabricmc.net/"

/-! ### The response -/

def hasTimer (timeoutMs : Json) : Bool :=
  match timeoutMs with
  | .num text => (JsNumber.ofText text).isFinite && !(JsNumber.ofText text).isBelow 0
  | _ => false

def fetchWithTimeout (options : Options) (fetch : String → FetchInit → Settled (Option Response)) (url : String) :
    Except Stop (Option Response) :=
  let timeoutMs := (coalesce options.timeoutMs options.downloadTimeoutMs).getD defaultDownloadTimeoutMs
  match fetch url fetchInit with
  | .value response => .ok response
  | .thrown message => fail .downloadFailed (.error url (.oracle message))
  | .pending =>
    if hasTimer timeoutMs then fail .downloadFailed (.error url (.downloadTimeout timeoutMs)) else .error .pending

/-- `size > maxBytes`. -/
def isOver (size : Nat) (maxBytes : Json) : Except Thrown Bool :=
  match maxBytes.toNumber with
  | .ok number => .ok (number.isBelow size)
  | .error e => .error (.js e)

def ensureMaxBytes (bytes : List UInt8) (maxBytes : Json) : Except Thrown (List UInt8) := do
  if ← isOver bytes.length maxBytes then .error (.downloadTooLarge (.finite bytes.length 0) maxBytes) else .ok bytes

/-- `contentLength > maxBytes`, where `Number.isFinite(contentLength)`. -/
def announcesTooMany (contentLength : JsNumber) (maxBytes : Json) : Except Thrown Bool :=
  if contentLength.isFinite then
    match maxBytes.toNumber with
    | .ok number => .ok (number.lt contentLength)
    | .error e => .error (.js e)
  else .ok false

def contentLengthOf (response : Response) : Except Thrown JsNumber :=
  match Json.present response.contentLength with
  | some value =>
    match value.toNumber with
    | .ok number => .ok number
    | .error e => .error (.js e)
  | none => .ok .nan

/-- The bytes, or what is thrown; `none` if the body never ends. -/
def responseBytes (response : Response) (maxBytes : Json) : Except Thrown (Option (List UInt8)) := do
  let contentLength ← contentLengthOf response
  if ← announcesTooMany contentLength maxBytes then .error (.downloadTooLarge contentLength maxBytes)
  else
    match response.arrayBuffer.orElse fun _ => response.bytes with
    | none => .error .noBody
    | some .pending => .ok none
    | some (.thrown message) => .error (.oracle message)
    | some (.value bytes) => some <$> ensureMaxBytes bytes maxBytes

/-- The bytes that the approved source has for the plan. -/
def download (platform : Platform) (plan : DownloadPlan) (options : Options) (maxBytes : Json) :
    Except Stop (List UInt8) := do
  match options.fetch with
  | none => fail .fetchMissing (.source plan.url)
  | some fetch =>
    match ← fetchWithTimeout options fetch plan.url with
    | none => fail .downloadFailed (.status plan.url .null (.str ""))
    | some response =>
      if !response.ok then
        fail .downloadFailed (.status plan.url ((Json.present response.status).getD .null)
          ((Json.present response.statusText).getD (.str "")))
      else do
        let responseUrl ← orThrow (textOf response.url)
        if holds response.url && !Text.startsWith responseUrl fabricMetaBaseUrl then
          fail .downloadFailed (.unapprovedRedirectTarget plan.url (response.url.getD .null))
        else
          match responseBytes response maxBytes with
          | .error thrown => fail .downloadFailed (.error plan.url thrown)
          | .ok none => .error .pending
          | .ok (some bytes) =>
            let actualSha256 := platform.sha256 bytes
            if !isStr actualSha256 (some plan.expectedSha256) then
              fail .checksumMismatch (.mismatch plan.url plan.expectedSha256 actualSha256)
            else .ok bytes

/-! ### Reading the files -/

/-- What is known of a file. -/
structure Artifact where
  ok : Bool
  bytes : List UInt8

private def readArtifact (platform : Platform) (path : Path) (expectedSha256 maxBytes : Json) (fs : FileSystem) :
    Except Thrown Artifact := do
  match fs.lstat path with
  | .error e => .error (.file e)
  | .ok (.file contents) =>
    if ← isOver contents.length maxBytes then .ok ⟨false, []⟩
    else
      match fs.readFile path with
      | .error e => .error (.file e)
      | .ok bytes =>
        let bytes ← ensureMaxBytes bytes maxBytes
        .ok ⟨isStr (platform.sha256 bytes) (some expectedSha256), bytes⟩
  | .ok _ => .ok ⟨false, []⟩

def readVerifiedArtifact (platform : Platform) (path : Path) (expectedSha256 maxBytes : Json) (fs : FileSystem) :
    Except Thrown Artifact :=
  match readArtifact platform path expectedSha256 maxBytes fs with
  | .error (.file .notFound) => .ok ⟨false, []⟩
  | .error (.file .notDirectory) => .ok ⟨false, []⟩
  | result => result

/-- A path that must not be written to. -/
def checkPath (fs : FileSystem) (rootPath rootReal path : Path) : Option BoundaryReason :=
  if relationEscapes rootPath path then some .pathOutsideAppDataRoot
  else if (findExistingSymlinkSegment fs rootPath path).isSome then some .managedPathReparsePoint
  else
    match safeRealpath fs (nearestExistingPath (fun current => (safeLstat fs current).isSome) (dirname path)) with
    | some parentReal => if isSubPath rootReal parentReal then none else some .managedPathEscape
    | none => some .managedPathEscape

def verifyWriteBoundary (platform : Platform) (root : Option Json) (paths : List Path) (fs : FileSystem) :
    Except JsError (Option BoundaryReason) :=
  if !holds root then .ok none
  else do
    let rootText ← textOf root
    let rootPath := toNativePath platform rootText
    match safeLstat fs rootPath, safeRealpath fs rootPath with
    | some node, some rootReal =>
      if FileSystem.isLink node then .ok (some .unsafeAppDataRoot)
      else .ok (paths.findSome? (checkPath fs rootPath rootReal))
    | _, _ => .ok (some .unsafeAppDataRoot)

/-! ### Writing the files -/

/-- `${path}.tmp-${process.pid}-${id}`. -/
def temporaryPath (process : Process) (path : Path) (id : String) : Path :=
  dirname path ++ [path.getLast?.getD "" ++ ".tmp-" ++ toString process.pid ++ "-" ++ id]

def writeFileAtomic (process : Process) (path : Path) (contents : List UInt8) : Call FsError Unit := do
  FileSystem.makeDirectories (dirname path)
  let id ← Call.ask process.randomUUID
  let tempPath := temporaryPath process path id
  Call.onError (do
    FileSystem.writeFile tempPath contents
    FileSystem.rename tempPath path) (FileSystem.removeFile tempPath)

/-- The places of the files. -/
structure Places where
  cachePath : Path
  launcherJarPath : Path
  metadataPath : Path

def placesOf (platform : Platform) (cachePath launcherJar metadataPath : String) : Places where
  cachePath := toNativePath platform cachePath
  launcherJarPath := toNativePath platform launcherJar
  metadataPath := toNativePath platform metadataPath

@[simp] theorem placesOf_cachePath (platform : Platform) (cachePath launcherJar metadataPath : String) :
    (placesOf platform cachePath launcherJar metadataPath).cachePath = toNativePath platform cachePath := rfl

@[simp] theorem placesOf_launcherJarPath (platform : Platform) (cachePath launcherJar metadataPath : String) :
    (placesOf platform cachePath launcherJar metadataPath).launcherJarPath = toNativePath platform launcherJar := rfl

def metadataOf (plan : DownloadPlan) (installedAt : String) (actualSha256 : Json) : Json :=
  Json.object [("roomId", plan.roomId), ("provider", some plan.provider), ("sourceUrl", some (.str plan.url)),
    ("cachePath", some (.str plan.cachePath)), ("launcherJar", plan.installTarget), ("sha256", some actualSha256),
    ("installedAt", some (.str installedAt))]

def installFabricArtifact (process : Process) (plan : DownloadPlan) (places : Places) (installedAt : String)
    (actualSha256 : Json) (bytes : List UInt8) : Call FsError Unit := do
  FileSystem.makeDirectories (dirname places.cachePath)
  FileSystem.makeDirectories (dirname places.launcherJarPath)
  FileSystem.makeDirectories (dirname places.metadataPath)
  writeFileAtomic process places.cachePath bytes
  writeFileAtomic process places.launcherJarPath bytes
  writeFileAtomic process places.metadataPath
    (Text.utf8 (serializeJson (metadataOf plan installedAt actualSha256)).toList)

inductive ArtifactSource
  | launcher
  | cache
  | download
  deriving DecidableEq

structure BootstrapResult where
  roomId : Option Json
  sourceUrl : String
  cachePath : String
  launcherJar : Option Json
  metadataPath : String
  sha256 : Json
  reused : Bool
  artifactSource : ArtifactSource

/-- Install the bytes and say what has been done. -/
def installed (process : Process) (plan : DownloadPlan) (places : Places) (installedAt metadataPath : String)
    (source : ArtifactSource) (bytes : List UInt8) : Call Stop BootstrapResult := do
  -- The bytes have the pinned checksum.
  (installFabricArtifact process plan places installedAt plan.expectedSha256 bytes).mapError fun e => .threw (.file e)
  pure {
    roomId := plan.roomId
    sourceUrl := plan.url
    cachePath := plan.cachePath
    launcherJar := plan.installTarget
    metadataPath := metadataPath
    sha256 := plan.expectedSha256
    reused := source ≠ .download
    artifactSource := source }

/-- `installedAt`. -/
def installedAtOf (process : Process) (options : Options) : Except Stop String :=
  match options.now with
  | some (some text) => .ok text
  | some none => .error (.threw .invalidTime)
  | none => .ok process.now

/-- A file that cannot be read ends the request. -/
def orFail {α : Type} (plan : DownloadPlan) : Except Thrown α → Except Stop α
  | .ok a => .ok a
  | .error thrown => fail .downloadFailed (.error plan.url thrown)

/-- The plan, once its checksum is known to be one. -/
def bootstrapWith (process : Process) (runtime : Json) (plan : DownloadPlan) (options : Options) :
    Call Stop BootstrapResult := do
  let target ← Call.ofExcept (orThrow (textOf plan.installTarget))
  let metadata ← Call.ofExcept (orThrow (textOf (runtime.path ["layout", "metadata"])))
  let metadataPath := metadata ++ "/fabric-server-bootstrap.json"
  let places := placesOf process.toPlatform plan.cachePath target metadataPath
  let installedAt ← Call.ofExcept (installedAtOf process options)
  let maxBytes := (coalesce options.maxBytes options.maxDownloadBytes).getD defaultMaxDownloadBytes
  let boundary ← Call.ask (verifyWriteBoundary process.toPlatform (runtime.path ["layout", "appDataRoot"])
    [places.cachePath, places.launcherJarPath, places.metadataPath])
  match ← Call.ofExcept (orThrow boundary) with
  | some reason => Call.ofExcept (fail .invalidDownloadPlan (.boundary reason))
  | none =>
    let launcherFound ← Call.ask (readVerifiedArtifact process.toPlatform places.launcherJarPath plan.expectedSha256 maxBytes)
    let launcher ← Call.ofExcept (orFail plan launcherFound)
    let cacheFound ← Call.ask (readVerifiedArtifact process.toPlatform places.cachePath plan.expectedSha256 maxBytes)
    let cache ← Call.ofExcept (orFail plan cacheFound)
    if launcher.ok then installed process plan places installedAt metadataPath .launcher launcher.bytes
    else if cache.ok then installed process plan places installedAt metadataPath .cache cache.bytes
    else
      let bytes ← Call.ofExcept (download process.toPlatform plan options maxBytes)
      installed process plan places installedAt metadataPath .download bytes

/-- `isSha256(value)`. -/
def isSha256 (value : Json) : Except JsError Bool :=
  if value.isNull then .ok false
  else do
    let text ← value.toText
    .ok (isSha256Text text)

def bootstrapFabricServer (process : Process) (runtimePlan : Option Json) (options : Options) :
    Call Stop BootstrapResult := do
  match ← Call.ofExcept (orThrow (createFabricServerDownloadPlan runtimePlan options.sources)) with
  | .error reason => Call.ofExcept (fail .invalidDownloadPlan (.plan reason))
  | .ok plan =>
    let checked ← Call.ofExcept (orThrow (isSha256 plan.expectedSha256))
    if !checked || !isStr "sha256" plan.algorithm || !plan.requiredBeforeInstall then
      Call.ofExcept (fail .invalidDownloadPlan (.checksumRequired plan.roomId plan.url plan.installTarget))
    else bootstrapWith process (runtimePlan.getD (.obj [])) plan options

/-! ### Requests that are turned down -/

/-- The request returns `ok: false`. -/
def TurnedDown (stop : Stop) : Prop := ∃ failure, stop = .failed failure

theorem installed_stays (process : Process) (plan : DownloadPlan) (places : Places) (installedAt metadataPath : String)
    (source : ArtifactSource) (bytes : List UInt8) :
    Call.Stays TurnedDown (installed process plan places installedAt metadataPath source bytes) := by
  apply Call.Stays.map_mapError
  rintro e ⟨failure, h⟩
  cases h

theorem bootstrapWith_stays (process : Process) (runtime : Json) (plan : DownloadPlan) (options : Options) :
    Call.Stays TurnedDown (bootstrapWith process runtime plan options) := by
  unfold bootstrapWith
  refine Call.Stays.bind_reads (Call.reads_ofExcept _) fun target => ?_
  refine Call.Stays.bind_reads (Call.reads_ofExcept _) fun metadata => ?_
  refine Call.Stays.bind_reads (Call.reads_ofExcept _) fun installedAt => ?_
  refine Call.Stays.bind_reads (Call.reads_ask _) fun boundary => ?_
  refine Call.Stays.bind_reads (Call.reads_ofExcept _) fun reason => ?_
  cases reason with
  | some reason => exact Call.Stays.leave _
  | none =>
    refine Call.Stays.bind_reads (Call.reads_ask _) fun launcherFound => ?_
    refine Call.Stays.bind_reads (Call.reads_ofExcept _) fun launcher => ?_
    refine Call.Stays.bind_reads (Call.reads_ask _) fun cacheFound => ?_
    refine Call.Stays.bind_reads (Call.reads_ofExcept _) fun cache => ?_
    split_ifs
    · exact installed_stays _ _ _ _ _ _ _
    · exact installed_stays _ _ _ _ _ _ _
    · exact Call.Stays.bind_reads (Call.reads_ofExcept _) fun bytes => installed_stays _ _ _ _ _ _ _

/-- A request that is turned down leaves the files as they are. -/
theorem bootstrapFabricServer_stays (process : Process) (runtimePlan : Option Json) (options : Options) :
    Call.Stays TurnedDown (bootstrapFabricServer process runtimePlan options) := by
  refine Call.Stays.bind_reads (Call.reads_ofExcept _) fun plan => ?_
  cases plan with
  | error reason => exact Call.Stays.leave _
  | ok plan =>
    refine Call.Stays.bind_reads (Call.reads_ofExcept _) fun checked => ?_
    split_ifs
    · exact Call.Stays.leave _
    · exact bootstrapWith_stays _ _ _ _

/-! ### The pinned checksum -/

/-- A file that is verified has the pinned checksum. -/
theorem readVerifiedArtifact_pinned {platform : Platform} {path : Path} {expectedSha256 maxBytes : Json} {fs : FileSystem}
    {artifact : Artifact} (h : readVerifiedArtifact platform path expectedSha256 maxBytes fs = .ok artifact)
    (hok : artifact.ok = true) : expectedSha256 = .str (platform.sha256 artifact.bytes) := by
  have hread : readArtifact platform path expectedSha256 maxBytes fs = .ok artifact := by
    unfold readVerifiedArtifact at h
    split at h
    · cases h
      cases hok
    · cases h
      cases hok
    · exact h
  unfold readArtifact at hread
  split at hread
  · cases hread
  · obtain ⟨isOver, -, hread⟩ := bind_eq_ok.1 hread
    split_ifs at hread
    · cases hread
      cases hok
    · split at hread
      · cases hread
      · obtain ⟨bytes, -, hread⟩ := bind_eq_ok.1 hread
        obtain rfl := Except.ok.inj hread
        exact Option.some_inj.1 (Json.isStr_iff.1 hok)
  · cases hread
    cases hok

/-- Bytes that are downloaded have the pinned checksum. -/
theorem download_pinned {platform : Platform} {plan : DownloadPlan} {options : Options} {maxBytes : Json}
    {bytes : List UInt8} (h : download platform plan options maxBytes = .ok bytes) :
    plan.expectedSha256 = .str (platform.sha256 bytes) := by
  unfold download at h
  split at h
  · cases h
  · obtain ⟨response, -, h⟩ := bind_eq_ok.1 h
    split at h
    · cases h
    · split_ifs at h
      · cases h
      · obtain ⟨responseUrl, -, h⟩ := bind_eq_ok.1 h
        split_ifs at h
        · cases h
        · split at h
          · cases h
          · cases h
          · rename_i bytes' _
            dsimp only at h
            split_ifs at h with hsame
            · cases h
            · obtain rfl := Except.ok.inj h
              rw [Bool.not_eq_true', Bool.not_eq_false] at hsame
              exact Option.some_inj.1 (Json.isStr_iff.1 hsame)

/-! ### Where the files are written -/

theorem checkPath_eq_none {fs : FileSystem} {top base path : Path} {node : Node} (htop : fs.lookup top = .found base)
    (hnode : fs.lstat top = .ok node) (hlink : FileSystem.isLink node = false) (hpath : path ≠ [])
    (h : checkPath fs top base path = none) : ∃ rest, path = top ++ rest ∧ rest ≠ [] ∧ Files.Plain fs base rest := by
  unfold checkPath at h
  split_ifs at h with hescapes hsymlink
  rw [Bool.not_eq_true] at hescapes
  rw [Bool.not_eq_true, Option.isSome_eq_false_iff, Option.isNone_iff_eq_none] at hsymlink
  obtain ⟨rest, rfl⟩ := relationEscapes_eq_false hescapes
  rw [findExistingSymlinkSegment, List.drop_left] at hsymlink
  refine ⟨rest, rfl, ?_, plain_of_findSymlinkBelow htop hsymlink⟩
  rintro rfl
  -- The root itself is above its real directory.
  rw [List.append_nil] at h hpath
  obtain ⟨start, name, rfl⟩ := (List.eq_nil_or_concat' top).resolve_left hpath
  obtain ⟨parent, hparent, hroot⟩ := FileSystem.lookup_of_lstat hnode hlink
  obtain rfl : base = parent ++ [name] := by
    rw [htop] at hroot
    exact Files.Lookup.found.inj hroot
  obtain ⟨found, hfound⟩ := FileSystem.exists_lstat hparent
  have hexists : (safeLstat fs start).isSome = true := by
    rw [safeLstat, hfound]
    rfl
  rw [dirname, List.dropLast_concat, nearestExistingPath_of_exists hexists, safeRealpath_eq_some.2 hparent] at h
  dsimp only at h
  rw [isSubPath_parent] at h
  cases h

/-- Where a request may write, the root leads somewhere, and from there on no link stands on the way. -/
theorem verifyWriteBoundary_eq_none {platform : Platform} {root : String} {paths : List Path} {fs : FileSystem}
    (hroot : root ≠ "") (hpaths : ∀ path ∈ paths, path ≠ [])
    (h : verifyWriteBoundary platform (some (.str root)) paths fs = .ok none) :
    ∃ base, fs.lookup (toNativePath platform root) = .found base ∧
      ∀ path ∈ paths, ∃ rest, path = toNativePath platform root ++ rest ∧ rest ≠ [] ∧ Files.Plain fs base rest := by
  have hholds : holds (some (.str root)) = true := by simpa [holds, Json.truthy] using hroot
  rw [verifyWriteBoundary, hholds, Bool.not_true, if_neg Bool.false_ne_true] at h
  obtain ⟨rootText, htext, h⟩ := bind_eq_ok.1 h
  obtain rfl : root = rootText := Except.ok.inj htext
  dsimp only at h
  split at h
  · rename_i node base hnode hbase
    split_ifs at h with hlink
    · cases h
    rw [Bool.not_eq_true] at hlink
    have hlstat : fs.lstat (toNativePath platform root) = .ok node := by
      rw [safeLstat] at hnode
      cases hfound : fs.lstat (toNativePath platform root) with
      | error e =>
        rw [hfound] at hnode
        cases hnode
      | ok found =>
        rw [hfound] at hnode
        rw [Option.some_inj.1 hnode]
    have hfound := safeRealpath_eq_some.1 hbase
    refine ⟨base, hfound, fun path hpath => ?_⟩
    exact checkPath_eq_none hfound hlstat hlink (hpaths path hpath) (List.findSome?_eq_none_iff.1 (Except.ok.inj h) path hpath)
  · cases h

variable {process : Process} {fs fs' : FileSystem} {top base : Path} {bytes contents : List UInt8}

/-- The file is written where the path leads, if no link stands on the way. -/
theorem writeFileAtomic_wrote {rest : List String} (htop : fs.lookup top = .found base) (hplain : Files.Plain fs base rest)
    (hrest : rest ≠ []) (h : writeFileAtomic process (top ++ rest) contents fs = (.ok (), fs')) :
    fs.get base = some .dir ∧ Wrote fs fs' (base ++ rest) contents := by
  obtain ⟨directory, name, rfl⟩ := (List.eq_nil_or_concat' rest).resolve_left hrest
  obtain ⟨_, fs₁, hdirs, h⟩ := Call.bind_eq_ok.1 h
  rw [Call.ask_bind, Call.onError_eq_ok] at h
  obtain ⟨_, fs₂, hwrite, hrename⟩ := Call.bind_eq_ok.1 h
  have hdirs := Files.onlyDirs_makeDirectories hdirs
  have htemporary : temporaryPath process (top ++ (directory ++ [name])) (process.randomUUID fs₁) =
      top ++ (directory ++ [name ++ ".tmp-" ++ toString process.pid ++ "-" ++ process.randomUUID fs₁]) := by
    rw [temporaryPath, dirname, ← List.append_assoc, List.dropLast_concat, List.getLast?_concat, Option.getD_some,
      List.append_assoc]
  rw [htemporary] at hwrite hrename
  have hkept := hdirs.get_eq (FileSystem.lookupAt_found _ htop)
  have htop₁ := hdirs.extends_.lookup_found htop hkept
  have hdir := Anchored.dir_of_writeFile htop₁ (by simp) hwrite
  have hanchored : Anchored fs₁ top base (directory ++ [name]) := ⟨htop₁, hdir, hplain.extends_ hdirs.extends_⟩
  have hfresh : fs₁.get (base ++ (directory ++ [name ++ ".tmp-" ++ toString process.pid ++ "-" ++ process.randomUUID fs₁])) =
      none := by
    by_contra hsome
    rw [← List.append_assoc] at hsome
    refine process.fresh fs₁ _ _ hsome ?_
    rw [String.toList_append]
    exact List.suffix_append _ _
  rw [hkept] at hdir
  exact ⟨hdir, Wrote.after hdirs (hanchored.replace hfresh hwrite hrename)⟩

/-- The places of the two jars and the record: ways without links below the root's real directory, where the record is
neither of the jars. -/
structure Writable (fs : FileSystem) (top base : Path) (places : Places) (cache launcher metadata : List String) : Prop where
  found : fs.lookup top = .found base
  cache_eq : places.cachePath = top ++ cache
  launcher_eq : places.launcherJarPath = top ++ launcher
  metadata_eq : places.metadataPath = top ++ metadata
  cache_ne : cache ≠ []
  launcher_ne : launcher ≠ []
  metadata_ne : metadata ≠ []
  cache_plain : Files.Plain fs base cache
  launcher_plain : Files.Plain fs base launcher
  metadata_plain : Files.Plain fs base metadata
  cache_apart : cache ≠ metadata
  launcher_apart : launcher ≠ metadata

/-- Once everything is installed, both jars hold the bytes. -/
theorem installFabricArtifact_installed {plan : DownloadPlan} {places : Places} {installedAt : String}
    {actualSha256 : Json} {cache launcher metadata : List String}
    (hplaces : Writable fs top base places cache launcher metadata)
    (h : installFabricArtifact process plan places installedAt actualSha256 bytes fs = (.ok (), fs')) :
    fs'.readFile places.cachePath = .ok bytes ∧ fs'.readFile places.launcherJarPath = .ok bytes := by
  obtain ⟨_, fs₁, h₁, h⟩ := Call.bind_eq_ok.1 h
  obtain ⟨_, fs₂, h₂, h⟩ := Call.bind_eq_ok.1 h
  obtain ⟨_, fs₃, h₃, h⟩ := Call.bind_eq_ok.1 h
  obtain ⟨_, fs₄, h₄, h⟩ := Call.bind_eq_ok.1 h
  obtain ⟨_, fs₅, h₅, h₆⟩ := Call.bind_eq_ok.1 h
  rw [hplaces.cache_eq] at h₄ ⊢
  rw [hplaces.launcher_eq] at h₅ ⊢
  rw [hplaces.metadata_eq] at h₆
  -- The directories are made first.
  have hdirs : OnlyDirs fs fs₃ := ((Files.onlyDirs_makeDirectories h₁).trans (Files.onlyDirs_makeDirectories h₂)).trans
    (Files.onlyDirs_makeDirectories h₃)
  have hfound := hdirs.extends_.lookup_found hplaces.found (hdirs.get_eq (FileSystem.lookupAt_found _ hplaces.found))
  obtain ⟨hdir, hwrote₄⟩ := writeFileAtomic_wrote hfound (hplaces.cache_plain.extends_ hdirs.extends_) hplaces.cache_ne h₄
  have hanchored : ∀ {rest}, Files.Plain fs base rest → Anchored fs₄ top base rest := fun hplain =>
    Anchored.extends_ ⟨hfound, hdir, hplain.extends_ hdirs.extends_⟩ hwrote₄.extends_
  have hlauncher := hanchored hplaces.launcher_plain
  obtain ⟨-, hwrote₅⟩ := writeFileAtomic_wrote hlauncher.found hlauncher.plain hplaces.launcher_ne h₅
  have hmetadata := (hanchored hplaces.metadata_plain).extends_ hwrote₅.extends_
  obtain ⟨-, hwrote₆⟩ := writeFileAtomic_wrote hmetadata.found hmetadata.plain hplaces.metadata_ne h₆
  have hextends := hwrote₅.extends_.trans hwrote₆.extends_
  -- The record is neither of the jars.
  have hcacheApart : base ++ cache ≠ base ++ metadata := fun heq => hplaces.cache_apart (List.append_cancel_left heq)
  have hlauncherApart : base ++ launcher ≠ base ++ metadata := fun heq =>
    hplaces.launcher_apart (List.append_cancel_left heq)
  constructor
  · apply ((hanchored hplaces.cache_plain).extends_ hextends).readFile
    apply hwrote₆.kept hcacheApart
    by_cases hsame : base ++ cache = base ++ launcher
    · rw [hsame]
      exact hwrote₅.written
    · exact hwrote₅.kept hsame hwrote₄.written
  · apply (hlauncher.extends_ hextends).readFile
    exact hwrote₆.kept hlauncherApart hwrote₅.written

/-! ### All or nothing -/

/-- The file at the path holds bytes whose checksum is the one that is pinned in the plan. -/
def HoldsPinned (process : Process) (plan : Json) (fs : FileSystem) (path : String) : Prop :=
  ∃ bytes, fs.readFile (toNativePath process.toPlatform path) = .ok bytes ∧
    plan.path ["fabric", "serverJarSha256"] = some (.str (process.sha256 bytes))

theorem launcherJar_end {input : Json} {p : Parts} (h : Planned input p) : ".jar".toList <:+ p.launcherJar.toList := by
  have hruntime : p.layout.runtime ≠ "" := h.layout_below.runtime.ne
  have hpath : p.launcherJar.toList = Paths.normalize (p.layout.runtime.toList ++ '/' :: p.jar.toList) := by
    rw [Parts.launcherJar, HostPlan.joinPath_pair hruntime (HostPlan.isSafePathSegment_text h.jar_safe).1,
      String.toList_ofList]
  have hend : ".jar".toList <:+ p.jar.toList := List.isSuffixOf_iff_suffix.1 h.jar_named
  obtain ⟨start, hstart⟩ := hend
  have hnormal : Paths.normalize ((p.layout.runtime.toList ++ '/' :: start) ++ ".jar".toList) =
      Paths.normalize (p.layout.runtime.toList ++ '/' :: start) ++ ".jar".toList :=
    Paths.normalize_append _ (by decide) (by decide)
  rw [List.append_assoc, List.cons_append, hstart] at hnormal
  rw [hpath, hnormal]
  exact List.suffix_append (Paths.normalize _) _

private theorem apart {top rest rest' start start' : List String} {name name' : String} (h : top ++ rest = start ++ [name])
    (h' : top ++ rest' = start' ++ [name']) (hname : ".jar".toList <:+ name.toList)
    (hname' : ".json".toList <:+ name'.toList) : rest ≠ rest' := by
  rintro rfl
  have hlast := congrArg List.getLast? (h.symm.trans h')
  rw [List.getLast?_concat, List.getLast?_concat, Option.some_inj] at hlast
  subst hlast
  have hsuffixes := List.suffix_or_suffix_of_suffix hname hname'
  revert hsuffixes
  decide

/-- Where the boundary lets a request write, for jars and a record that is named like one. -/
theorem exists_writable {platform : Platform} {root cachePath launcherJar metadataPath : String} (hroot : root ≠ "")
    (hcache : ".jar".toList <:+ cachePath.toList) (hlauncher : ".jar".toList <:+ launcherJar.toList)
    (hmetadata : ".json".toList <:+ metadataPath.toList)
    (h : verifyWriteBoundary platform (some (.str root)) [toNativePath platform cachePath, toNativePath platform launcherJar,
      toNativePath platform metadataPath] fs = .ok none) :
    ∃ top base cache launcher metadata,
      Writable fs top base (placesOf platform cachePath launcherJar metadataPath) cache launcher metadata := by
  obtain ⟨start, name, hcachePath, hcacheName⟩ := toNativePath_end platform hcache (by decide) (by decide)
    ⟨'j', by decide, by decide⟩
  obtain ⟨start', name', hlauncherPath, hlauncherName⟩ := toNativePath_end platform hlauncher (by decide) (by decide)
    ⟨'j', by decide, by decide⟩
  obtain ⟨start'', name'', hmetadataPath, hmetadataName⟩ := toNativePath_end platform hmetadata (by decide) (by decide)
    ⟨'j', by decide, by decide⟩
  obtain ⟨base, hfound, hpaths⟩ :=
    verifyWriteBoundary_eq_none hroot (by simp [hcachePath, hlauncherPath, hmetadataPath]) h
  simp only [List.forall_mem_cons] at hpaths
  obtain ⟨⟨cache, hcacheBelow, hcacheNe, hcachePlain⟩, ⟨launcher, hlauncherBelow, hlauncherNe, hlauncherPlain⟩,
    ⟨metadata, hmetadataBelow, hmetadataNe, hmetadataPlain⟩, -⟩ := hpaths
  exact ⟨_, base, cache, launcher, metadata, {
    found := hfound
    cache_eq := hcacheBelow
    launcher_eq := hlauncherBelow
    metadata_eq := hmetadataBelow
    cache_ne := hcacheNe
    launcher_ne := hlauncherNe
    metadata_ne := hmetadataNe
    cache_plain := hcachePlain
    launcher_plain := hlauncherPlain
    metadata_plain := hmetadataPlain
    cache_apart := apart (hcacheBelow.symm.trans hcachePath) (hmetadataBelow.symm.trans hmetadataPath) hcacheName hmetadataName
    launcher_apart :=
      apart (hlauncherBelow.symm.trans hlauncherPath) (hmetadataBelow.symm.trans hmetadataPath) hlauncherName hmetadataName }⟩

theorem orThrow_eq_ok {α : Type} {x : Except JsError α} {a : α} : orThrow x = .ok a ↔ x = .ok a := by
  cases x with
  | ok b => simp [orThrow]
  | error e => simp [orThrow]

theorem orFail_eq_ok {α : Type} {plan : DownloadPlan} {x : Except Thrown α} {a : α} :
    orFail plan x = .ok a ↔ x = .ok a := by
  cases x with
  | ok b => simp [orFail]
  | error e => simp [orFail, fail]

/-- The bytes that are installed have the pinned checksum. -/
structure Installed (process : Process) (plan : DownloadPlan) (places : Places) (result : BootstrapResult)
    (fs : FileSystem) (bytes : List UInt8) : Prop where
  cachePath : result.cachePath = plan.cachePath
  pinned : plan.expectedSha256 = .str (process.sha256 bytes)
  cache : fs.readFile places.cachePath = .ok bytes
  launcher : fs.readFile places.launcherJarPath = .ok bytes

theorem installed_installed {plan : DownloadPlan} {places : Places} {installedAt metadataPath : String}
    {source : ArtifactSource} {result : BootstrapResult} {cache launcher metadata : List String}
    (hplaces : Writable fs top base places cache launcher metadata)
    (hpinned : plan.expectedSha256 = .str (process.sha256 bytes))
    (h : installed process plan places installedAt metadataPath source bytes fs = (.ok result, fs')) :
    Installed process plan places result fs' bytes := by
  obtain ⟨_, _, hinstall, h⟩ := Call.mapError_bind_eq_ok.1 h
  obtain ⟨rfl, rfl⟩ := Call.pure_eq_ok.1 h
  obtain ⟨hcache, hlauncher⟩ := installFabricArtifact_installed hplaces hinstall
  exact ⟨rfl, hpinned, hcache, hlauncher⟩

theorem bootstrapWith_installed {runtime : Json} {plan : DownloadPlan} {options : Options} {root jar : String}
    {result : BootstrapResult} (hroot : runtime.path ["layout", "appDataRoot"] = some (.str root)) (hne : root ≠ "")
    (hjar : plan.installTarget = some (.str jar)) (hjarEnd : ".jar".toList <:+ jar.toList)
    (hcacheEnd : ".jar".toList <:+ plan.cachePath.toList)
    (h : bootstrapWith process runtime plan options fs = (.ok result, fs')) :
    ∃ metadataPath bytes,
      Installed process plan (placesOf process.toPlatform plan.cachePath jar metadataPath) result fs' bytes := by
  obtain ⟨target, htarget, h⟩ := Call.ofExcept_bind_eq_ok.1 h
  obtain ⟨metadata, -, h⟩ := Call.ofExcept_bind_eq_ok.1 h
  obtain ⟨installedAt, -, h⟩ := Call.ofExcept_bind_eq_ok.1 h
  rw [Call.ask_bind] at h
  obtain ⟨reason, hreason, h⟩ := Call.ofExcept_bind_eq_ok.1 h
  rw [orThrow_eq_ok] at htarget hreason
  rw [hjar] at htarget
  obtain rfl := Except.ok.inj htarget
  cases reason with
  | some reason => cases h
  | none =>
    rw [hroot] at hreason
    have hmetadataEnd : ".json".toList <:+ (metadata ++ "/fabric-server-bootstrap.json").toList := by
      rw [String.toList_append]
      exact (show ".json".toList <:+ "/fabric-server-bootstrap.json".toList by decide).trans (List.suffix_append _ _)
    obtain ⟨top, base, cache, launcher, record, hplaces⟩ := exists_writable hne hcacheEnd hjarEnd hmetadataEnd hreason
    dsimp only at h
    rw [Call.ask_bind] at h
    obtain ⟨launcherArtifact, hlauncher, h⟩ := Call.ofExcept_bind_eq_ok.1 h
    rw [Call.ask_bind] at h
    obtain ⟨cacheArtifact, hcache, h⟩ := Call.ofExcept_bind_eq_ok.1 h
    rw [orFail_eq_ok] at hlauncher hcache
    refine ⟨metadata ++ "/fabric-server-bootstrap.json", ?_⟩
    split_ifs at h with hlauncherOk hcacheOk
    · exact ⟨_, installed_installed hplaces (readVerifiedArtifact_pinned hlauncher hlauncherOk) h⟩
    · exact ⟨_, installed_installed hplaces (readVerifiedArtifact_pinned hcache hcacheOk) h⟩
    · obtain ⟨bytes, hdownload, h⟩ := Call.ofExcept_bind_eq_ok.1 h
      exact ⟨bytes, installed_installed hplaces (download_pinned hdownload) h⟩

theorem bootstrapFabricServer_installed {input : Option Json} {plan : Json}
    (hplan : createHostRuntimePlan input = .ok (.ok plan)) {options : Options} {result : BootstrapResult}
    (h : bootstrapFabricServer process (some plan) options fs = (.ok result, fs')) :
    ∃ jar, plan.path ["fabric", "launcherJar"] = some (.str jar) ∧ HoldsPinned process plan fs' result.cachePath ∧
      HoldsPinned process plan fs' jar := by
  obtain ⟨p, hplanned, rfl⟩ := HostPlan.createHostRuntimePlan_planned hplan
  obtain ⟨downloadPlan, hdownload, h⟩ := Call.ofExcept_bind_eq_ok.1 h
  rw [orThrow_eq_ok] at hdownload
  cases downloadPlan with
  | error reason => cases h
  | ok downloadPlan =>
    obtain ⟨⟨root, entries, haccepted⟩, hpinned, htarget, hcacheEnd⟩ :=
      LocalAdapter.createFabricServerDownloadPlan_eq_ok hdownload
    obtain ⟨checked, -, h⟩ := Call.ofExcept_bind_eq_ok.1 h
    split_ifs at h
    · cases h
    · have hjar : (p.plan (input.getD (.obj []))).path ["fabric", "launcherJar"] = some (.str p.launcherJar) :=
        HostPlan.plan_launcherJar
      obtain ⟨metadataPath, bytes, hinstalled⟩ := bootstrapWith_installed haccepted.root_eq haccepted.root_ne
        (htarget.trans hjar) (launcherJar_end hplanned) hcacheEnd h
      rw [hinstalled.pinned] at hpinned
      have hcache := hinstalled.cache
      have hlauncher := hinstalled.launcher
      rw [placesOf_cachePath, ← hinstalled.cachePath] at hcache
      rw [placesOf_launcherJarPath] at hlauncher
      exact ⟨p.launcherJar, hjar, ⟨bytes, hcache, hpinned⟩, bytes, hlauncher, hpinned⟩

/-- A bootstrap of a plan that the planner has made is all or nothing: when it returns `ok: true`, the cached jar and the
launcher's jar hold bytes with the pinned checksum, and when it returns `ok: false`, the files are as they were. -/
theorem bootstrapFabricServer_all_or_nothing (process : Process) {input : Option Json} {plan : Json}
    (hplan : createHostRuntimePlan input = .ok (.ok plan)) (options : Options) (fs : FileSystem) :
    (∀ result fs', bootstrapFabricServer process (some plan) options fs = (.ok result, fs') →
      ∃ jar, plan.path ["fabric", "launcherJar"] = some (.str jar) ∧ HoldsPinned process plan fs' result.cachePath ∧
        HoldsPinned process plan fs' jar) ∧
      ∀ failure fs', bootstrapFabricServer process (some plan) options fs = (.error (.failed failure), fs') → fs' = fs := by
  constructor
  · intro result fs' h
    exact bootstrapFabricServer_installed hplan h
  · intro failure fs' h
    exact bootstrapFabricServer_stays process (some plan) options fs _ fs' h ⟨failure, rfl⟩

/-- The checksum of no bytes. -/
def emptySha256 : String := "e3b0c44298fc1c149afbf4c8996fb92427ae41e4649b934ca495991b7852b855"

def sampleProcess : Process where
  directory := []
  sha256 := fun _ => emptySha256
  pid := 1
  now := "2026-04-30T00:00:00.000Z"
  randomUUID := FileSystem.freshName
  fresh := FileSystem.freshName_fresh

/-- A room whose server's jar is pinned to be empty. -/
def sampleInput : Json :=
  .obj [("minecraft", .obj [("version", .str "1"), ("supportedVersions", .arr [.str "1"])]),
    ("java", .obj [("path", .str "java"), ("majorVersion", .num "21")]), ("eula", .obj [("accepted", .bool true)]),
    ("fabric", .obj [("expectedInstallerSha256", .str "f00d"), ("installerSha256", .str "f00d"),
      ("loaders", .arr [.obj [("minecraftVersion", .str "1"), ("version", .str "1"),
        ("serverJarSha256", .str emptySha256)]])]),
    ("pack", .obj [("id", .str "p"), ("fixed", .bool true), ("expectedSha256", .str "beef"), ("sha256", .str "beef"),
      ("mods", .arr [])]),
    ("runtime", .obj [("state", .str "stopped")]), ("room", .obj [("id", .str "r"), ("appDataRoot", .str "A")])]

/-- The source answers with an empty jar. -/
def sampleOptions : Options where
  sources := none
  fetch := some fun _ _ => .value (some ⟨true, none, none, none, none, some (.value []), none⟩)
  now := none
  maxBytes := none
  maxDownloadBytes := none
  timeoutMs := none
  downloadTimeoutMs := none

def sampleFiles : FileSystem := FileSystem.empty.put ["A"] .dir

/-- The plan for the input is made and its jar installed. -/
def installs (process : Process) (input : Option Json) (options : Options) (fs : FileSystem) : Bool :=
  match createHostRuntimePlan input with
  | .ok (.ok plan) =>
    match (bootstrapFabricServer process (some plan) options fs).1 with
    | .ok _ => true
    | .error _ => false
  | _ => false

private theorem exists_of_installs {input : Option Json} {options : Options}
    (h : installs process input options fs = true) :
    ∃ plan result fs', createHostRuntimePlan input = .ok (.ok plan) ∧
      bootstrapFabricServer process (some plan) options fs = (.ok result, fs') := by
  unfold installs at h
  split at h
  · rename_i plan hplan
    split at h
    · rename_i result hresult
      exact ⟨plan, result, _, hplan, Prod.ext hresult rfl⟩
    · cases h
  · cases h

theorem bootstrapFabricServer_all_or_nothing_sample : ∃ plan result fs',
    createHostRuntimePlan (some sampleInput) = .ok (.ok plan) ∧
      bootstrapFabricServer sampleProcess (some plan) sampleOptions sampleFiles = (.ok result, fs') ∧
      HoldsPinned sampleProcess plan fs' result.cachePath := by
  have hinstalls : installs sampleProcess (some sampleInput) sampleOptions sampleFiles = true := by decide +kernel
  obtain ⟨plan, result, fs', hplan, hresult⟩ := exists_of_installs hinstalls
  have hall := (bootstrapFabricServer_all_or_nothing sampleProcess hplan sampleOptions sampleFiles).1
  obtain ⟨jar, -, hcache, -⟩ := hall result fs' hresult
  exact ⟨plan, result, fs', hplan, hresult, hcache⟩

end EasyMc.Desktop.FabricBootstrap
