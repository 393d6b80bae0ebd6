import EasyMc.Library.Paths
import EasyMc.Library.Reading

/-!
# The plan of a room's server (`apps/desktop/src/runtime/host-runtime.mjs`)

`createHostRuntimePlan` checks what the caller gives it, resolves the Minecraft version and the Fabric loader, and lays
out the room's directories under the app data root.  The input is a JSON value of any shape and so is the plan, which
other functions read as they read any value.

`Number(text)` is exact here: the last digits of a number with more than seventeen of them are not rounded.
-/

namespace EasyMc.Desktop.HostPlan

open Json (coalesce get holds isStr isInteger sameValueZero textOf read listOf anyThrows findThrows firstFailure)
open Throwing (JsError)

/-! ### Failures -/

inductive FailureReason
  | unsupportedVersion
  | javaMissing
  | javaIncompatible
  | eulaRequired
  | fabricChecksumFailed
  | fabricBootstrapFailed
  | packNotFixed
  | packChecksumFailed
  | modChecksumFailed
  | roomCrashed
  | loaderUnavailable
  | cacheLayoutInvalid
  deriving DecidableEq

def FailureReason.text : FailureReason → String
  | .unsupportedVersion => "unsupported_version"
  | .javaMissing => "java_missing"
  | .javaIncompatible => "java_incompatible"
  | .eulaRequired => "eula_required"
  | .fabricChecksumFailed => "fabric_checksum_failed"
  | .fabricBootstrapFailed => "fabric_bootstrap_failed"
  | .packNotFixed => "pack_not_fixed"
  | .packChecksumFailed => "pack_checksum_failed"
  | .modChecksumFailed => "mod_checksum_failed"
  | .roomCrashed => "room_crashed"
  | .loaderUnavailable => "loader_unavailable"
  | .cacheLayoutInvalid => "cache_layout_invalid"

def FailureReason.message : FailureReason → String
  | .unsupportedVersion => "Choose a supported Minecraft version before opening this room."
  | .javaMissing => "Install Java 21 or newer before opening this room."
  | .javaIncompatible => "Update Java before opening this room."
  | .eulaRequired => "Accept the Minecraft EULA before opening this room."
  | .fabricChecksumFailed => "Room setup files did not match the expected download."
  | .fabricBootstrapFailed => "Finish room setup before opening this room."
  | .packNotFixed => "Use the fixed room pack before opening this room."
  | .packChecksumFailed => "The selected room pack did not match the expected download."
  | .modChecksumFailed => "One of the room setup files did not match the expected download."
  | .roomCrashed => "The room stopped unexpectedly. Try opening it again."
  | .loaderUnavailable => "Use a supported room version before opening this room."
  | .cacheLayoutInvalid => "Choose a room folder the app can use for setup files."

/-! ### Paths -/

/-- `joinPath(...parts)` of texts. -/
def joinPath (parts : List String) : String :=
  -- The last replacement of the source puts back the drive letter it finds, as it is.
  String.ofList (Paths.normalize (List.intercalate ['/'] ((parts.filter (· ≠ "")).map String.toList)))

/-- `joinPath(path, part)` of a part of any kind. -/
def joinPart (path : String) (part : Option Json) : Except JsError String :=
  if holds part then do
    let text ← textOf part
    .ok (String.ofList (Paths.normalize (path.toList ++ '/' :: text.toList)))
  else .ok (joinPath [path])

def normalizePath (path : String) : String := joinPath [path]

def hasParentPathSegment (path : String) : Bool := Paths.hasParentSegment path.toList

/-- `text.trim().length > 0`. -/
def notBlank (text : String) : Bool := !(Text.trim text.toList).isEmpty

/-- A text that is not blank, without a zero character and without `..` as a segment. -/
def isSafeText (path : String) : Bool := notBlank path && !path.toList.contains '\x00' && !hasParentPathSegment path

def isSafeAppDataRoot : Option Json → Bool
  | some (.str path) => isSafeText path
  | _ => false

/-- The characters of `[A-Za-z0-9]`. -/
def isNameStart (c : Char) : Bool := ('A' ≤ c && c ≤ 'Z') || ('a' ≤ c && c ≤ 'z') || ('0' ≤ c && c ≤ '9')

/-- The characters of `[A-Za-z0-9._-]`. -/
def isNameChar (c : Char) : Bool := isNameStart c || c == '.' || c == '_' || c == '-'

/-- `/^[A-Za-z0-9][A-Za-z0-9._-]*$/`. -/
def isNameText (text : List Char) : Bool := text.head?.any isNameStart && text.all isNameChar

def isSafePathSegment : Option Json → Bool
  | some (.str value) =>
    value ≠ "" && value ≠ "." && value ≠ ".." && isNameText value.toList && !value.toList.contains '/' &&
      !value.toList.contains '\\' && !value.toList.contains ':'
  | _ => false

def isSafeFileName : Option Json → Bool
  | some (.str value) => isSafePathSegment (some (.str value)) && Text.endsWith value ".jar"
  | _ => false

/-! ### Versions and loaders -/

def minimumJavaMajor : Json := .num "21"

/-- The version that is selected. -/
structure SelectedMinecraft where
  version : Option Json
  channel : Json
  javaMajor : Option Json

def selectSupportedMinecraftVersion (minecraft : Option Json) : Except JsError (Except FailureReason SelectedMinecraft) := do
  let minecraft := some (minecraft.getD (.obj []))
  let supportedVersions ← read "supportedVersions" minecraft
  let candidates ← listOf supportedVersions
  let version := get "version" minecraft
  let selected ← findThrows (fun candidate => do
    let candidateVersion ← read "version" (some candidate)
    .ok (sameValueZero candidateVersion version || sameValueZero (some candidate) version)) candidates
  if !holds selected then .ok (.error .unsupportedVersion)
  else
    match selected with
    | some (.str text) => .ok (.ok ⟨some (.str text), .str "stable", none⟩)
    | selected =>
      .ok (.ok ⟨get "version" selected, (Json.present (get "channel" selected)).getD (.str "stable"),
        coalesce (get "javaMajor" selected) (some minimumJavaMajor)⟩)

/-- A loader that is resolved. -/
structure Loader where
  minecraftVersion : Option Json
  version : Option Json
  installerVersion : Option Json
  installerSha256 : Option Json
  serverJarSha256 : Option Json
  launcherJar : Option Json

/-- The loader of a list, or the one that is made of the default version. -/
def findLoader (minecraftVersion defaultLoaderVersion : Option Json) (loaders : List Json) :
    Except JsError (Option Json) := do
  let same := fun key value loader => do
    let found ← read key (some loader)
    .ok (sameValueZero found value)
  match ← findThrows (same "minecraftVersion" minecraftVersion) loaders with
  | some loader => .ok (some loader)
  | none =>
    match ← findThrows (same "version" defaultLoaderVersion) loaders with
    | some loader => .ok (some loader)
    | none =>
      .ok (if holds defaultLoaderVersion then
        some (Json.object [("minecraftVersion", minecraftVersion), ("version", defaultLoaderVersion),
          ("launcherJar", some (.str "fabric-server-launch.jar"))])
      else none)

def launcherJarOf (minecraftVersion : Option Json) (loader : Json) : Except JsError (Option Json) :=
  match Json.present (loader.member "launcherJar") with
  | some launcherJar => .ok (some launcherJar)
  | none => do
    let minecraftText ← textOf minecraftVersion
    let versionText ← textOf (loader.member "version")
    .ok (some (.str ("fabric-server-" ++ minecraftText ++ "-" ++ versionText ++ ".jar")))

def resolveFabricLoader (minecraftVersion loaders defaultLoaderVersion : Option Json) :
    Except JsError (Except FailureReason Loader) := do
  let loaders ← listOf loaders
  match ← findLoader minecraftVersion defaultLoaderVersion loaders with
  | none => .ok (.error .loaderUnavailable)
  | some loader =>
    if !loader.truthy then .ok (.error .loaderUnavailable)
    else do
      let launcherJar ← launcherJarOf minecraftVersion loader
      if !isSafeFileName launcherJar then .ok (.error .cacheLayoutInvalid)
      else
        .ok (.ok {
          minecraftVersion := coalesce (loader.member "minecraftVersion") minecraftVersion
          version := loader.member "version"
          installerVersion := if holds (loader.member "installerVersion") then loader.member "installerVersion" else none
          installerSha256 := loader.member "installerSha256"
          serverJarSha256 := loader.member "serverJarSha256"
          launcherJar := launcherJar })

/-! ### The layout -/

structure AppDataLayout where
  appDataRoot : String
  roomRoot : String
  runtime : String
  cache : String
  downloads : String
  metadata : String
  serverProperties : String
  eula : String
  mods : String
  world : String
  logs : String

def AppDataLayout.json (layout : AppDataLayout) : Json :=
  Json.object [("appDataRoot", some (.str layout.appDataRoot)), ("roomRoot", some (.str layout.roomRoot)),
    ("runtime", some (.str layout.runtime)), ("cache", some (.str layout.cache)),
    ("downloads", some (.str layout.downloads)), ("metadata", some (.str layout.metadata)),
    ("serverProperties", some (.str layout.serverProperties)), ("eula", some (.str layout.eula)),
    ("mods", some (.str layout.mods)), ("world", some (.str layout.world)), ("logs", some (.str layout.logs))]

/-- The layout of a room with a safe id under a safe root. -/
def layoutOf (appDataRoot id : String) : AppDataLayout :=
  let roomRoot := joinPath [appDataRoot, "rooms", id]
  { appDataRoot := normalizePath appDataRoot
    roomRoot := roomRoot
    runtime := joinPath [roomRoot, "runtime"]
    cache := joinPath [appDataRoot, "cache"]
    downloads := joinPath [appDataRoot, "cache", "downloads"]
    metadata := joinPath [appDataRoot, "cache", "metadata"]
    serverProperties := joinPath [roomRoot, "server.properties"]
    eula := joinPath [roomRoot, "eula.txt"]
    mods := joinPath [roomRoot, "mods"]
    world := joinPath [roomRoot, "world"]
    logs := joinPath [roomRoot, "logs"] }

/-- `room.appDataRoot ?? room.dataRoot`. -/
def appDataRootOf (room : Option Json) : Option Json := coalesce (get "appDataRoot" room) (get "dataRoot" room)

def createAppDataLayout (room : Option Json) : Except JsError AppDataLayout := do
  let room := some (room.getD (.obj []))
  let id ← read "id" room
  let appDataRoot := appDataRootOf room
  if !isSafeAppDataRoot appDataRoot || !isSafePathSegment id then .error .typeError
  else
    match appDataRoot, id with
    | some (.str appDataRoot), some (.str id) => .ok (layoutOf appDataRoot id)
    | _, _ => .error .typeError

/-! ### The parts of a plan -/

def createWindowsJavaDetectionPlan (java : Option Json) : List (String × Option Json) :=
  let path := get "path" java
  [("platform", some (.str "windows")), ("minimumMajorVersion", some minimumJavaMajor),
    ("searchOrder", some (.arr [.str "configuredPath", .str "JAVA_HOME", .str "PATH",
      .str "ProgramFiles/Eclipse Adoptium", .str "ProgramFiles/Java"])),
    ("adapterContract", some (Json.object [("command", some (.str "detectJava")),
      ("returns", some (.arr [.str "path", .str "majorVersion", .str "vendor", .str "source"]))])),
    ("detected", some (.bool (holds path && isInteger (get "majorVersion" java)))),
    ("source", coalesce (get "source" java) (some (if holds path then .str "configuredPath" else .null))),
    ("vendor", coalesce (get "vendor" java) (some .null))]

def isFalse : Option Json → Bool
  | some (.bool value) => !value
  | _ => false

def createCachePlan (cache : Option Json) (layout : AppDataLayout) : Except JsError Json := do
  let reuseVerifiedDownloads ← read "reuseVerifiedDownloads" (some (cache.getD (.obj [])))
  .ok (Json.object [("root", some (.str layout.cache)), ("downloads", some (.str layout.downloads)),
    ("metadata", some (.str layout.metadata)), ("checksumAlgorithm", some (.str "sha256")),
    ("reuseVerifiedDownloads", some (.bool !isFalse reuseVerifiedDownloads)),
    ("requireChecksumBeforeInstall", some (.bool true))])

/-- `eula.accepted === true`. -/
def isAccepted (eula : Option Json) : Bool := (get "accepted" eula).any Json.isTrue

def createEulaPlan (eula : Option Json) (layout : AppDataLayout) : Except JsError Json := do
  let eula := some (eula.getD (.obj []))
  let _ ← read "accepted" eula
  .ok (Json.object [("path", some (.str layout.eula)), ("accepted", some (.bool (isAccepted eula))),
    ("writeText", some (if isAccepted eula then .str "eula=true\n" else .null)),
    ("requiresExplicitHostConsent", some (.bool true))])

def safeInteger (value : Option Json) (min max fallback : Int) : Except JsError Int := do
  let number ← match value with
    | none => .ok .nan
    | some value => value.toNumber
  .ok (match number.toWhole with
    | some whole => if whole < min || max < whole then fallback else whole
    | none => fallback)

/-- `text.slice(0, length)`; half of a pair that is cut apart stands here as U+FFFD, as it does in a file. -/
def sliceStart : Nat → List Char → List Char
  | _, [] => []
  | 0, _ => []
  | length + 1, c :: text =>
    if Text.utf16Units c = 1 then c :: sliceStart length text
    else
      match length with
      | 0 => ['\uFFFD']
      | length + 1 => c :: sliceStart length text

def safePropertyText (value : Option Json) (fallback : String) (maxLength : Nat) : Except JsError String := do
  let text ← textOf (coalesce value (some (.str fallback)))
  .ok (if text.toList.any fun c => c == '\r' || c == '\n' || c == '\x00' then fallback
    else String.ofList (sliceStart maxLength text.toList))

/-- The properties of the server. -/
def propertyValues (maxPlayers port : Int) (motd : String) : Json :=
  Json.object [("enable-command-block", some (.str "false")), ("enforce-secure-profile", some (.str "true")),
    ("max-players", some (.str (toString maxPlayers))), ("motd", some (.str motd)),
    ("online-mode", some (.str "true")), ("server-ip", some (.str "")),
    ("server-port", some (.str (toString port))), ("white-list", some (.str "true"))]

def createServerPropertiesPlan (serverProperties : Option Json) (layout : AppDataLayout) : Except JsError Json := do
  let serverProperties := some (serverProperties.getD (.obj []))
  let maxPlayersValue ← read "maxPlayers" serverProperties
  let maxPlayers ← safeInteger maxPlayersValue 1 10 10
  let port ← safeInteger (get "port" serverProperties) 1024 65535 25565
  let motd ← safePropertyText (get "motd" serverProperties) "Cozy Performance Room" 80
  .ok (Json.object [("path", some (.str layout.serverProperties)), ("values", some (propertyValues maxPlayers port motd)),
    ("advancedDiagnostics", some (Json.object [("port", some (.str (toString port))),
      ("bindAddress", some (.str "default"))]))])

def checksumsMatch (expected actual : Option Json) : Bool :=
  holds expected && holds actual && sameValueZero expected actual

/-- `checksumsMatch(mod.expectedSha256 ?? mod.sha256, mod.sha256)`. -/
def modChecksumMatches (mod : Option Json) : Bool :=
  match Json.present (get "expectedSha256" mod) with
  | some expected => checksumsMatch (some expected) (get "sha256" mod)
  -- One and the same value on both sides.
  | none => holds (get "sha256" mod)

/-- `mod.source ?? joinPath(layout.downloads, mod.sourceFileName ?? mod.fileName)`. -/
def modSource (mod : Option Json) (layout : AppDataLayout) : Except JsError Json :=
  match Json.present (get "source" mod) with
  | some source => .ok source
  | none => do
    let path ← joinPart layout.downloads (coalesce (get "sourceFileName" mod) (get "fileName" mod))
    .ok (.str path)

def modEntry (layout : AppDataLayout) (mod : Json) : Except JsError Json := do
  let id ← read "id" (some mod)
  let source ← modSource (some mod) layout
  let target ← joinPart layout.mods (mod.member "fileName")
  .ok (Json.object [("id", id), ("fileName", mod.member "fileName"), ("sha256", mod.member "sha256"),
    ("source", some source), ("downloadUrl", mod.member "downloadUrl"), ("provider", mod.member "provider"),
    ("expectedFileSize", mod.member "fileSize"), ("target", some (.str target)),
    ("verified", some (.bool (modChecksumMatches (some mod))))])

def createModInstallPlan (pack : Option Json) (layout : AppDataLayout) : Except JsError Json := do
  let packMods ← read "mods" (some (pack.getD (.obj [])))
  let mods ← listOf packMods
  let entries ← mods.mapM (modEntry layout)
  .ok (Json.object [("directory", some (.str layout.mods)), ("strategy", some (.str "replace-with-fixed-pack")),
    ("removeUnknownMods", some (.bool true)), ("entries", some (.arr entries))])

/-! ### The plan -/

def check (fails : Bool) (reason : FailureReason) : Except JsError (Option FailureReason) :=
  .ok (if fails then some reason else none)

/-- `input.java.majorVersion < (selectedMinecraft.javaMajor ?? MINIMUM_JAVA_MAJOR)`. -/
def isOlderJava (majorVersion javaMajor : Option Json) : Except JsError Bool := do
  let required ← ((Json.present javaMajor).getD minimumJavaMajor).toNumber
  .ok (match majorVersion with
    | some (.num text) => (JsNumber.ofText text).lt required
    | _ => false)

/-- `(input.pack?.mods ?? []).some(...)`. -/
def anyMod (test : Option Json → Bool) (input : Json) : Except JsError Bool := do
  let mods ← listOf (get "mods" (input.member "pack"))
  anyThrows (fun mod => do
    let _ ← read "sha256" (some mod)
    .ok (test (some mod))) mods

def hostChecks (input : Json) (selected : SelectedMinecraft) : List (Except JsError (Option FailureReason)) :=
  let java := input.member "java"
  let fabric := input.member "fabric"
  let pack := input.member "pack"
  let state := get "state" (input.member "runtime")
  let room := input.member "room"
  [check (!holds (get "path" java) || !isInteger (get "majorVersion" java)) .javaMissing,
    (isOlderJava (get "majorVersion" java) selected.javaMajor) >>= fun older => check older .javaIncompatible,
    check (!holds (get "accepted" (input.member "eula"))) .eulaRequired,
    check (isStr "failed" (get "bootstrapState" fabric)) .fabricBootstrapFailed,
    check (!checksumsMatch (get "expectedInstallerSha256" fabric) (get "installerSha256" fabric)) .fabricChecksumFailed,
    check (!holds (get "fixed" pack)) .packNotFixed,
    check (!checksumsMatch (get "expectedSha256" pack) (get "sha256" pack)) .packChecksumFailed,
    anyMod (fun mod => !modChecksumMatches mod) input >>= fun found => check found .modChecksumFailed,
    check (isStr "crashed" state || isStr "failed" state) .roomCrashed,
    check (!holds (get "id" room) || !holds (appDataRootOf room)) .cacheLayoutInvalid,
    check (!isSafeAppDataRoot (appDataRootOf room) || !isSafePathSegment (get "id" room)) .cacheLayoutInvalid,
    anyMod (fun mod => !isSafeFileName (get "fileName" mod)) input >>= fun found => check found .cacheLayoutInvalid]

def validateHostRuntime (input : Json) : Except JsError (Option FailureReason) := do
  let minecraft ← read "minecraft" (some input)
  match ← selectSupportedMinecraftVersion minecraft with
  | .error reason => .ok (some reason)
  | .ok selected => firstFailure (hostChecks input selected)

def fabricOf (loader : Loader) (launcherJar metadataPath : String) : Json :=
  Json.object [("loaderVersion", loader.version), ("installerVersion", loader.installerVersion),
    ("installerVerified", some (.bool true)), ("installerSha256", loader.installerSha256),
    ("serverJarSha256", loader.serverJarSha256), ("launcherJar", some (.str launcherJar)),
    ("metadataPath", some (.str metadataPath))]

/-- The plan for an input that has passed the checks, of the parts that are made for it. -/
def planOf (input : Json) (selected : SelectedMinecraft) (loader : Loader) (layout : AppDataLayout)
    (launcherJar metadataPath : String) (state : Option Json) (cache eula serverProperties mods : Json) : Json :=
  let room := input.member "room"
  let java := input.member "java"
  Json.object [
    ("room", some (Json.object [("id", get "id" room), ("hostId", get "hostId" room), ("name", get "name" room),
      ("minecraftVersion", selected.version), ("channel", some selected.channel)])),
    ("lifecycle", some (Json.object [("current", state), ("next", some (.str "ready")),
      ("adapter", some (.str "simulated-process"))])),
    ("files", some (Json.object [("root", some (.str layout.roomRoot)),
      ("serverProperties", some (.str layout.serverProperties)), ("eula", some (.str layout.eula)),
      ("mods", some (.str layout.mods)), ("world", some (.str layout.world))])),
    ("layout", some layout.json),
    ("java", some (Json.object (createWindowsJavaDetectionPlan java ++
      [("path", get "path" java), ("majorVersion", get "majorVersion" java)]))),
    ("fabric", some (fabricOf loader launcherJar metadataPath)),
    ("cache", some cache),
    ("eula", some eula),
    ("serverProperties", some serverProperties),
    ("mods", some mods),
    ("pack", some (Json.object [("id", get "id" (input.member "pack")), ("fixed", some (.bool true)),
      ("checksumVerified", some (.bool true))])),
    ("bridge", some (Json.object [("approvalSource", some (.str "server_observed_uuid")),
      ("claimedIdentityCanApprove", some (.bool false))])),
    ("command", some (.arr [(get "path" java).getD .null, .str "-jar", .str launcherJar, .str "nogui"]))]

def createHostRuntimePlan (input : Option Json) : Except JsError (Except FailureReason Json) := do
  let input := input.getD (.obj [])
  match ← validateHostRuntime input with
  | some reason => .ok (.error reason)
  | none =>
    match ← selectSupportedMinecraftVersion (input.member "minecraft") with
    -- The checks have selected a version, so there is one.
    | .error reason => .ok (.error reason)
    | .ok selected =>
      let fabric := input.member "fabric"
      match ← resolveFabricLoader selected.version (get "loaders" fabric) (get "loaderVersion" fabric) with
      | .error reason => .ok (.error reason)
      | .ok loader =>
        if !isSafeFileName loader.launcherJar then .ok (.error .cacheLayoutInvalid)
        else do
          let layout ← createAppDataLayout (input.member "room")
          let mods ← createModInstallPlan (input.member "pack") layout
          let state ← read "state" (input.member "runtime")
          let launcherJar ← joinPart layout.runtime loader.launcherJar
          let versionText ← textOf selected.version
          let metadataPath := joinPath [layout.metadata, "fabric-" ++ versionText ++ ".json"]
          let cache ← createCachePlan (input.member "cache") layout
          let eula ← createEulaPlan (input.member "eula") layout
          let serverProperties ← createServerPropertiesPlan (input.member "serverProperties") layout
          .ok (.ok (planOf input selected loader layout launcherJar metadataPath state cache eula serverProperties mods))

end EasyMc.Desktop.HostPlan
