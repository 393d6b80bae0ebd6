import EasyMc.Desktop.HostPlan
import EasyMc.Library.Stringify

/-!
# What a room's files should be (`apps/desktop/src/runtime/local-runtime-adapter.mjs`)

`createRoomMaterializationPlan` and `createFabricServerDownloadPlan` take a runtime plan of any shape, check it
(`validateRuntimePlan`), and say which directories, files and mods a room needs.  A path is managed if it starts with
the app data root (`isManagedPath`); the paths that are put together afterwards start with managed ones.

So everything a materialization plan names is contained in the app data root (`createRoomMaterializationPlan_contained`).

The source has its own `normalizePath`, `joinPath` and `hasParentPathSegment`, which are those of `HostPlan`.
-/

namespace EasyMc.Desktop.LocalAdapter

open HostPlan (joinPath normalizePath isSafeText notBlank)
open Json (coalesce get holds read listOf textOf IdSet)
open Throwing (JsError bind_eq_ok)

inductive FailureReason
  | invalidRuntimePlan
  | fabricChecksumMissing
  | unknownFabricSource
  deriving DecidableEq

def FailureReason.text : FailureReason → String
  | .invalidRuntimePlan => "invalid_runtime_plan"
  | .fabricChecksumMissing => "fabric_checksum_missing"
  | .unknownFabricSource => "unknown_fabric_source"

def FailureReason.message : FailureReason → String
  | .invalidRuntimePlan => "Prepare the room before opening it."
  | .fabricChecksumMissing => "Room setup files need a verified checksum before use."
  | .unknownFabricSource => "Use the app-approved Fabric setup source."

/-! ### Checking a plan -/

def isSafeRoot (path : String) : Bool := isSafeText path

def isManagedPath (root : String) : Option Json → Bool
  | some (.str path) =>
    isSafeText path &&
      (normalizePath path == normalizePath root || Text.startsWith (normalizePath path) (normalizePath root ++ "/"))
  | _ => false

/-- A separator, or a drive letter at the start. -/
def isPathLike (value : String) : Bool :=
  value.toList.contains '/' || value.toList.contains '\\' ||
    (value.toList.head?.any (fun c => ('A' ≤ c && c ≤ 'Z') || ('a' ≤ c && c ≤ 'z')) && value.toList[1]? == some ':')

def isPathLikeText : Option Json → Bool
  | some (.str value) => isPathLike value
  | _ => false

/-- The paths that have to be there. -/
def requiredPaths : List (List String) :=
  [["room", "id"], ["files", "root"], ["layout", "runtime"], ["layout", "downloads"], ["layout", "metadata"],
    ["fabric", "launcherJar"], ["serverProperties", "values"], ["eula", "accepted"]]

def hasCommand (plan : Json) : Bool :=
  match plan.member "command" with
  | some (.arr command) => !command.isEmpty
  | _ => false

/-- The paths of a plan, its mods apart. -/
def managedPaths : List (List String) :=
  [["files", "root"], ["files", "mods"], ["files", "world"], ["layout", "runtime"], ["layout", "logs"],
    ["layout", "cache"], ["layout", "downloads"], ["layout", "metadata"], ["fabric", "launcherJar"], ["eula", "path"],
    ["serverProperties", "path"]]

/-- `runtimePlan.mods?.entries ?? []`, as `map` needs it. -/
def modEntries (plan : Json) : Except JsError (List Json) :=
  match plan.member "mods" with
  -- `entries` of an array is a function.
  | some (.arr _) => .error .typeError
  | mods => listOf (get "entries" mods)

/-- The checks of the paths, for a plan with these entries. -/
def hasManagedPaths (plan : Json) (entries : List Json) : Bool :=
  match plan.path ["layout", "appDataRoot"] with
  | some (.str root) =>
    isSafeRoot root && managedPaths.all (fun keys => isManagedPath root (plan.path keys)) &&
      entries.all (fun entry => isManagedPath root (entry.member "target")) &&
      entries.all (fun entry => !isPathLikeText (entry.member "source") || isManagedPath root (entry.member "source"))
  | _ => false

def validateRuntimePlan (plan : Json) : Except JsError (Option FailureReason) :=
  if !requiredPaths.all (fun keys => holds (plan.path keys)) || !hasCommand plan then .ok (some .invalidRuntimePlan)
  else do
    let entries ← modEntries plan
    if entries.any Json.isNull then .error .typeError
    else .ok (if hasManagedPaths plan entries then none else some .invalidRuntimePlan)

/-! ### The files of a room -/

/-- `joinPath(directory, name)`, where the directory may be of any kind. -/
def joinName (directory : Option Json) (name : String) : Except JsError String :=
  if holds directory then do
    let text ← textOf directory
    .ok (String.ofList (Paths.normalize (text.toList ++ '/' :: name.toList)))
  else .ok (joinPath [name])

/-- `Object.entries(value)`. -/
def entriesOf : Json → List (String × Json)
  | .obj fields => fields
  | .arr values => values.zipIdx.map fun (value, i) => (toString i, value)
  | .str text =>
    -- One entry a code unit: the halves of a pair stand alone.
    let units := text.toList.flatMap fun c => if Text.utf16Units c = 1 then [c] else ['\uFFFD', '\uFFFD']
    units.zipIdx.map fun (c, i) => (toString i, .str (String.ofList [c]))
  | _ => []

def serializeServerProperties (values : Json) : Except JsError String := do
  let lines ← (entriesOf values).mapM fun (key, value) => do
    let text ← value.toText
    .ok (key ++ "=" ++ text)
  .ok (String.intercalate "\n" lines ++ "\n")

def serializeJson (value : Json) : String := String.ofList (value.pretty 2) ++ "\n"

def uniquePaths (paths : List (Option Json)) : List (Option Json) := IdSet.ofList (paths.filter holds)

inductive FileKind
  | eula
  | serverProperties
  | minecraftWhitelist
  | serverBridgeConfig
  | runtimeManifest
  deriving DecidableEq

structure FileWrite where
  kind : FileKind
  path : Option Json
  contents : Option Json
  overwrite : Bool
  requiresExplicitHostConsent : Option Json

structure ModOperation where
  modId : Option Json
  fileName : Option Json
  source : Option Json
  downloadUrl : Option Json
  provider : Option Json
  target : Option Json
  expectedSha256 : Option Json
  expectedFileSize : Option Json
  verified : Option Json

structure Safety where
  removeUnknownMods : Bool
  preserveAllowlist : Bool
  requireVerifiedMods : Bool

structure MaterializationPlan where
  roomId : Option Json
  appDataRoot : Option Json
  directories : List (Option Json)
  files : List FileWrite
  modOperations : List ModOperation
  safety : Safety

def modOperation (entry : Json) : ModOperation where
  modId := entry.member "id"
  fileName := entry.member "fileName"
  source := entry.member "source"
  downloadUrl := entry.member "downloadUrl"
  provider := entry.member "provider"
  target := entry.member "target"
  expectedSha256 := entry.member "sha256"
  expectedFileSize := entry.member "expectedFileSize"
  verified := entry.member "verified"

def directoryPaths : List (List String) :=
  [["files", "root"], ["layout", "runtime"], ["files", "mods"], ["files", "world"], ["layout", "logs"],
    ["layout", "cache"], ["layout", "downloads"], ["layout", "metadata"]]

/-- The files, at the paths that are put together. -/
def filesOf (plan : Json) (entries : List Json) (allowlistPath bridgeConfigPath manifestPath properties : String) :
    List FileWrite :=
  let text := fun text => some (Json.str text)
  [⟨.eula, plan.path ["eula", "path"], plan.path ["eula", "writeText"], true,
      plan.path ["eula", "requiresExplicitHostConsent"]⟩,
    ⟨.serverProperties, plan.path ["serverProperties", "path"], text properties, true, none⟩,
    ⟨.minecraftWhitelist, text allowlistPath, text "[]\n", false, none⟩,
    ⟨.serverBridgeConfig, text bridgeConfigPath,
      text (serializeJson (Json.object [("roomId", plan.path ["room", "id"]),
        ("approvalSource", plan.path ["bridge", "approvalSource"]),
        ("claimedIdentityCanApprove", plan.path ["bridge", "claimedIdentityCanApprove"]),
        ("allowlistPath", text allowlistPath), ("healthEvent", text "bridge.health")])), true, none⟩,
    ⟨.runtimeManifest, text manifestPath,
      text (serializeJson (Json.object [("roomId", plan.path ["room", "id"]),
        ("minecraftVersion", plan.path ["room", "minecraftVersion"]),
        ("fabricLoaderVersion", plan.path ["fabric", "loaderVersion"]),
        ("launcherJar", plan.path ["fabric", "launcherJar"]), ("packId", plan.path ["pack", "id"]),
        ("modCount", some (.num (toString entries.length)))])), true, none⟩]

def materializationOf (plan : Json) (entries : List Json) (files : List FileWrite) : MaterializationPlan where
  roomId := plan.path ["room", "id"]
  appDataRoot := plan.path ["layout", "appDataRoot"]
  directories := uniquePaths (directoryPaths.map plan.path)
  files := files
  modOperations := entries.map modOperation
  safety := ⟨(plan.path ["mods", "removeUnknownMods"]).any Json.isTrue, true, true⟩

def createRoomMaterializationPlan (runtimePlan : Option Json) :
    Except JsError (Except FailureReason MaterializationPlan) := do
  let plan := runtimePlan.getD (.obj [])
  match ← validateRuntimePlan plan with
  | some reason => .ok (.error reason)
  | none =>
    let allowlistPath ← joinName (plan.path ["files", "root"]) "whitelist.json"
    let bridgeConfigPath ← joinName (plan.path ["layout", "runtime"]) "server-bridge.json"
    let manifestPath ← joinName (plan.path ["layout", "runtime"]) "room-runtime-manifest.json"
    let properties ← serializeServerProperties ((plan.path ["serverProperties", "values"]).getD .null)
    let _ ← read "approvalSource" (plan.member "bridge")
    let _ ← read "id" (plan.member "pack")
    match ← read "entries" (plan.member "mods") with
    | some (.arr entries) =>
      .ok (.ok (materializationOf plan entries
        (filesOf plan entries allowlistPath bridgeConfigPath manifestPath properties)))
    | _ => .error .typeError

/-! ### Containment -/

/-- The value is a path that is contained in the root. -/
def IsContained (root : String) (value : Option Json) : Prop :=
  ∃ path, value = some (.str path) ∧ Paths.Contained root.toList path.toList

theorem startsWith_iff {text part : String} : Text.startsWith text part = true ↔ part.toList <+: text.toList := by
  rw [Text.startsWith, List.isPrefixOf_iff_prefix]

theorem normalizePath_toList {path : String} (h : path ≠ "") :
    (normalizePath path).toList = Paths.normalize path.toList := by
  simp [normalizePath, joinPath, h]

theorem ne_empty_of_isSafeText {path : String} (h : isSafeText path = true) : path ≠ "" := by
  rintro rfl
  simp [isSafeText, notBlank, Text.trim, Text.trimBy] at h

theorem hasParentSegment_of_isSafeText {path : String} (h : isSafeText path = true) :
    Paths.hasParentSegment path.toList = false := by
  simp only [isSafeText, HostPlan.hasParentPathSegment, Bool.and_eq_true, Bool.not_eq_true'] at h
  exact h.2

/-- The check on texts. -/
theorem isManagedPath_iff {root path : String} (hroot : root ≠ "") :
    isManagedPath root (some (.str path)) = true ↔
      isSafeText path = true ∧ (Paths.normalize path.toList = Paths.normalize root.toList ∨
        Paths.normalize root.toList ++ ['/'] <+: Paths.normalize path.toList) := by
  rw [isManagedPath, Bool.and_eq_true, and_congr_right_iff]
  intro hsafe
  have hpath := normalizePath_toList (ne_empty_of_isSafeText hsafe)
  have hroot := normalizePath_toList hroot
  rw [Bool.or_eq_true, beq_iff_eq, startsWith_iff, String.toList_append, hpath, hroot, ← String.toList_inj, hpath, hroot]
  rfl

theorem isContained_of_isManagedPath {root : String} {value : Option Json} (hroot : root ≠ "")
    (h : isManagedPath root value = true) : IsContained root value := by
  match value, h with
  | some (.str path), h =>
    obtain ⟨hsafe, hstarts⟩ := (isManagedPath_iff hroot).1 h
    exact ⟨path, rfl, Paths.contained_iff.2 ⟨Paths.inside_of_prefix hstarts, hasParentSegment_of_isSafeText hsafe⟩⟩

theorem holds_of_isManagedPath {root : String} {value : Option Json} (h : isManagedPath root value = true) :
    holds value = true := by
  match value, h with
  | some (.str path), h =>
    rw [isManagedPath, Bool.and_eq_true] at h
    have hne := ne_empty_of_isSafeText h.1
    simpa [holds, Json.truthy] using hne

/-- What is put under a managed directory is contained. -/
theorem joinName_contained {root name path : String} {directory : Option Json} (hroot : root ≠ "")
    (hdirectory : isManagedPath root directory = true) (hname : Paths.hasParentSegment name.toList = false)
    (h : joinName directory name = .ok path) : Paths.Contained root.toList path.toList := by
  obtain ⟨text, rfl, hcontained⟩ := isContained_of_isManagedPath hroot hdirectory
  rw [joinName, if_pos (holds_of_isManagedPath hdirectory)] at h
  obtain ⟨text', htext, h⟩ := bind_eq_ok.1 h
  cases htext
  cases h
  rw [String.toList_ofList, Paths.contained_normalize]
  exact hcontained.join hname

/-- What a plan that is accepted has passed. -/
structure Accepted (plan : Json) (root : String) (entries : List Json) : Prop where
  required : ∀ keys ∈ requiredPaths, holds (plan.path keys) = true
  command : hasCommand plan = true
  entries_eq : modEntries plan = .ok entries
  entries_read : ∀ entry ∈ entries, entry.isNull = false
  root_eq : plan.path ["layout", "appDataRoot"] = some (.str root)
  root_safe : isSafeText root = true
  managed : ∀ keys ∈ managedPaths, isManagedPath root (plan.path keys) = true
  targets : ∀ entry ∈ entries, isManagedPath root (entry.member "target") = true
  sources : ∀ entry ∈ entries, isPathLikeText (entry.member "source") = true →
    isManagedPath root (entry.member "source") = true

theorem hasManagedPaths_iff {plan : Json} {entries : List Json} : hasManagedPaths plan entries = true ↔
    ∃ root, plan.path ["layout", "appDataRoot"] = some (.str root) ∧ isSafeText root = true ∧
      (∀ keys ∈ managedPaths, isManagedPath root (plan.path keys) = true) ∧
      (∀ entry ∈ entries, isManagedPath root (entry.member "target") = true) ∧
      ∀ entry ∈ entries, isPathLikeText (entry.member "source") = true →
        isManagedPath root (entry.member "source") = true := by
  unfold hasManagedPaths
  split
  · rename_i root hroot
    simp only [Bool.and_eq_true, List.all_eq_true, Bool.or_eq_true, Bool.not_eq_true', isSafeRoot]
    constructor
    · rintro ⟨⟨⟨hsafe, hmanaged⟩, htargets⟩, hsources⟩
      refine ⟨root, hroot, hsafe, hmanaged, htargets, fun entry hentry hlike => ?_⟩
      rcases hsources entry hentry with h | h
      · rw [hlike] at h
        cases h
      · exact h
    · rintro ⟨root', hroot', hsafe, hmanaged, htargets, hsources⟩
      obtain rfl : root = root' := by
        rw [hroot] at hroot'
        simpa using hroot'
      refine ⟨⟨⟨hsafe, hmanaged⟩, htargets⟩, fun entry hentry => ?_⟩
      cases hlike : isPathLikeText (entry.member "source") with
      | false => exact .inl rfl
      | true => exact .inr (hsources entry hentry hlike)
  · rename_i hnone
    constructor
    · rintro ⟨⟩
    · rintro ⟨root, hroot, -⟩
      exact absurd hroot (hnone root)

theorem validateRuntimePlan_eq_none {plan : Json} :
    validateRuntimePlan plan = .ok none ↔ ∃ root entries, Accepted plan root entries := by
  constructor
  · intro h
    unfold validateRuntimePlan at h
    split_ifs at h with hincomplete
    · cases h
    rw [Bool.or_eq_true, not_or, Bool.not_eq_true', Bool.not_eq_true', Bool.not_eq_false, Bool.not_eq_false,
      List.all_eq_true] at hincomplete
    obtain ⟨entries, hentries, h⟩ := bind_eq_ok.1 h
    split_ifs at h with hnull hmanaged
    · obtain ⟨root, hroot, hsafe, hpaths, htargets, hsources⟩ := hasManagedPaths_iff.1 hmanaged
      have hread : ∀ entry ∈ entries, entry.isNull = false := by simpa using hnull
      exact ⟨root, entries, hincomplete.1, hincomplete.2, hentries, hread, hroot, hsafe, hpaths, htargets, hsources⟩
    · cases h
  · rintro ⟨root, entries, haccepted⟩
    have hcomplete : requiredPaths.all (fun keys => holds (plan.path keys)) = true :=
      List.all_eq_true.2 haccepted.required
    have hread : entries.any Json.isNull = false := by simpa using haccepted.entries_read
    have hmanaged : hasManagedPaths plan entries = true :=
      hasManagedPaths_iff.2 ⟨root, haccepted.root_eq, haccepted.root_safe, haccepted.managed, haccepted.targets,
        haccepted.sources⟩
    rw [validateRuntimePlan, hcomplete, haccepted.command, haccepted.entries_eq]
    simp only [Bool.not_true, Bool.or_false, Bool.false_eq_true, if_false, Throwing.ok_bind, hread, hmanaged, if_true]

theorem Accepted.root_ne {plan : Json} {root : String} {entries : List Json} (h : Accepted plan root entries) :
    root ≠ "" := ne_empty_of_isSafeText h.root_safe

/-- The entries that are read are those that have been checked. -/
theorem entries_eq_of_read {plan : Json} {entries entries' : List Json} (h : modEntries plan = .ok entries)
    (hread : read "entries" (plan.member "mods") = .ok (some (.arr entries'))) : entries' = entries := by
  have hget := Json.read_eq_ok hread
  unfold modEntries at h
  split at h
  · cases h
  · rw [← hget] at h
    exact Except.ok.inj h

/-- A plan is made for what has been accepted, with the paths that are put together under the room's and the runtime's. -/
theorem createRoomMaterializationPlan_eq_ok {runtimePlan : Option Json} {result : MaterializationPlan}
    (h : createRoomMaterializationPlan runtimePlan = .ok (.ok result)) :
    ∃ root entries allowlistPath bridgeConfigPath manifestPath properties,
      Accepted (runtimePlan.getD (.obj [])) root entries ∧
      joinName ((runtimePlan.getD (.obj [])).path ["files", "root"]) "whitelist.json" = .ok allowlistPath ∧
      joinName ((runtimePlan.getD (.obj [])).path ["layout", "runtime"]) "server-bridge.json" = .ok bridgeConfigPath ∧
      joinName ((runtimePlan.getD (.obj [])).path ["layout", "runtime"]) "room-runtime-manifest.json" = .ok manifestPath ∧
      result = materializationOf (runtimePlan.getD (.obj [])) entries
        (filesOf (runtimePlan.getD (.obj [])) entries allowlistPath bridgeConfigPath manifestPath properties) := by
  unfold createRoomMaterializationPlan at h
  dsimp only at h
  generalize runtimePlan.getD (.obj []) = plan at h ⊢
  obtain ⟨failure, hvalid, h⟩ := bind_eq_ok.1 h
  cases failure with
  | some reason => cases h
  | none =>
    obtain ⟨root, entries, haccepted⟩ := validateRuntimePlan_eq_none.1 hvalid
    obtain ⟨allowlistPath, hallowlist, h⟩ := bind_eq_ok.1 h
    obtain ⟨bridgeConfigPath, hbridge, h⟩ := bind_eq_ok.1 h
    obtain ⟨manifestPath, hmanifest, h⟩ := bind_eq_ok.1 h
    obtain ⟨properties, -, h⟩ := bind_eq_ok.1 h
    obtain ⟨approvalSource, -, h⟩ := bind_eq_ok.1 h
    obtain ⟨packId, -, h⟩ := bind_eq_ok.1 h
    obtain ⟨found, hfound, h⟩ := bind_eq_ok.1 h
    split at h
    · rename_i entries'
      obtain rfl := entries_eq_of_read haccepted.entries_eq hfound
      exact ⟨root, _, allowlistPath, bridgeConfigPath, manifestPath, properties, haccepted, hallowlist, hbridge,
        hmanifest, (Except.ok.inj (Except.ok.inj h)).symm⟩
    · cases h

/-- Whatever an accepted plan names is contained in its app data root: the directories, the files, the targets of the
mods, and their sources as far as these are paths. -/
theorem createRoomMaterializationPlan_contained {runtimePlan : Option Json} {result : MaterializationPlan}
    (h : createRoomMaterializationPlan runtimePlan = .ok (.ok result)) :
    ∃ root, (runtimePlan.getD (.obj [])).path ["layout", "appDataRoot"] = some (.str root) ∧
      result.appDataRoot = some (.str root) ∧
      (∀ directory ∈ result.directories, IsContained root directory) ∧
      (∀ file ∈ result.files, IsContained root file.path) ∧
      ∀ operation ∈ result.modOperations, IsContained root operation.target ∧
        (isPathLikeText operation.source = true → IsContained root operation.source) := by
  obtain ⟨root, entries, allowlistPath, bridgeConfigPath, manifestPath, properties, haccepted, hallowlist, hbridge,
    hmanifest, rfl⟩ := createRoomMaterializationPlan_eq_ok h
  generalize runtimePlan.getD (.obj []) = plan at haccepted hallowlist hbridge hmanifest ⊢
  have hroot := haccepted.root_ne
  have hmanaged : ∀ keys ∈ managedPaths, IsContained root (plan.path keys) := fun keys hkeys =>
    isContained_of_isManagedPath hroot (haccepted.managed keys hkeys)
  have hallowlist := joinName_contained hroot (haccepted.managed _ (by decide)) (by decide) hallowlist
  have hbridge := joinName_contained hroot (haccepted.managed _ (by decide)) (by decide) hbridge
  have hmanifest := joinName_contained hroot (haccepted.managed _ (by decide)) (by decide) hmanifest
  refine ⟨root, haccepted.root_eq, haccepted.root_eq, ?directories, ?files, ?operations⟩
  case directories =>
    intro directory hdirectory
    have hmem := IdSet.mem_of_mem_ofList hdirectory
    obtain ⟨keys, hkeys, rfl⟩ := List.mem_map.1 (List.mem_filter.1 hmem).1
    have hsub : directoryPaths ⊆ managedPaths := by decide
    exact hmanaged keys (hsub hkeys)
  case files =>
    simp only [materializationOf, filesOf, List.forall_mem_cons]
    exact ⟨hmanaged _ (by decide), hmanaged _ (by decide), ⟨_, rfl, hallowlist⟩, ⟨_, rfl, hbridge⟩,
      ⟨_, rfl, hmanifest⟩, by simp⟩
  case operations =>
    intro operation hoperation
    obtain ⟨entry, hentry, rfl⟩ := List.mem_map.1 hoperation
    exact ⟨isContained_of_isManagedPath hroot (haccepted.targets entry hentry), fun hlike =>
      isContained_of_isManagedPath hroot (haccepted.sources entry hentry hlike)⟩

theorem createRoomMaterializationPlan_accepted {runtimePlan : Option Json} {result : MaterializationPlan}
    (h : createRoomMaterializationPlan runtimePlan = .ok (.ok result)) :
    ∃ root entries, Accepted (runtimePlan.getD (.obj [])) root entries ∧ result.appDataRoot = some (.str root) := by
  obtain ⟨root, entries, _, _, _, _, haccepted, -, -, -, rfl⟩ := createRoomMaterializationPlan_eq_ok h
  exact ⟨root, entries, haccepted, haccepted.root_eq⟩

/-- The plan is accepted. -/
def accepts (runtimePlan : Option Json) : Bool :=
  match createRoomMaterializationPlan runtimePlan with
  | .ok (.ok _) => true
  | _ => false

theorem exists_of_accepts {runtimePlan : Option Json} (h : accepts runtimePlan = true) :
    ∃ result, createRoomMaterializationPlan runtimePlan = .ok (.ok result) := by
  unfold accepts at h
  split at h
  · rename_i result hresult
    exact ⟨result, hresult⟩
  · cases h

/-- A plan for a room with these mods under `C:\\App`. -/
def samplePlan (entries : List Json) : Json :=
  let text := fun text => some (Json.str text)
  Json.object [("room", some (Json.object [("id", text "room-1")])),
    ("files", some (Json.object [("root", text "C:/App/rooms/room-1"), ("mods", text "C:/App/rooms/room-1/mods"),
      ("world", text "C:/App/rooms/room-1/world")])),
    ("layout", some (Json.object [("appDataRoot", text "C:\\App"), ("runtime", text "C:/App/rooms/room-1/runtime"),
      ("logs", text "C:/App/rooms/room-1/logs"), ("cache", text "C:/App/cache"),
      ("downloads", text "C:/App/cache/downloads"), ("metadata", text "C:/App/cache/metadata")])),
    ("fabric", some (Json.object [("launcherJar", text "C:/App/rooms/room-1/runtime/fabric.jar")])),
    ("cache", some (Json.object [("checksumAlgorithm", text "sha256")])),
    ("eula", some (Json.object [("path", text "C:/App/rooms/room-1/eula.txt"), ("accepted", some (.bool true)),
      ("writeText", text "eula=true\n")])),
    ("serverProperties", some (Json.object [("path", text "C:/App/rooms/room-1/server.properties"),
      ("values", some (Json.object [("motd", text "Room")]))])),
    ("mods", some (Json.object [("entries", some (.arr entries)), ("removeUnknownMods", some (.bool true))])),
    ("pack", some (Json.object [("id", text "pack-1")])),
    ("bridge", some (Json.object [("approvalSource", text "server_observed_uuid")])),
    ("command", some (.arr [.str "java"]))]

/-- A mod at a source that is written with both separators. -/
def sampleEntry : Json :=
  .obj [("id", .str "lithium"), ("source", .str "C:\\App//cache/downloads/lithium.jar"),
    ("target", .str "C:/App/rooms/room-1/mods/lithium.jar"), ("verified", .bool true)]

theorem createRoomMaterializationPlan_contained_sample :
    ∃ result root, createRoomMaterializationPlan (some (samplePlan [sampleEntry])) = .ok (.ok result) ∧
      result.appDataRoot = some (.str root) ∧ ∀ operation ∈ result.modOperations, IsContained root operation.target := by
  have haccepts : accepts (some (samplePlan [sampleEntry])) = true := by decide +kernel
  obtain ⟨result, hresult⟩ := exists_of_accepts haccepts
  obtain ⟨root, -, hroot, -, -, hoperations⟩ := createRoomMaterializationPlan_contained hresult
  exact ⟨result, root, hresult, hroot, fun operation hoperation => (hoperations operation hoperation).1⟩

/-! ### The download of the server -/

structure DownloadPlan where
  roomId : Option Json
  provider : Json
  url : String
  cachePath : String
  reuseVerifiedDownloads : Option Json
  installTarget : Option Json
  algorithm : Option Json
  expectedSha256 : Json
  requiredBeforeInstall : Bool

def fabricMetaBaseUrl : String := "https://meta.fabricmc.net/"

/-- The address of the server's file at the source that is approved. -/
def fabricMetaUrl (plan : Json) (installerVersion : Option Json) : Except JsError String := do
  let minecraftVersion ← textOf (plan.path ["room", "minecraftVersion"])
  let loaderVersion ← textOf (plan.path ["fabric", "loaderVersion"])
  let start := fabricMetaBaseUrl ++ "v2/versions/loader/" ++ minecraftVersion ++ "/" ++ loaderVersion
  if holds installerVersion then do
    let installerText ← textOf installerVersion
    .ok (start ++ "/" ++ installerText ++ "/server/jar")
  else .ok (start ++ "/server/jar")

/-- `sources.fabricServerJarUrl`, or else the address at the source that is approved. -/
def sourceUrlOf (plan : Json) (fabricServerJarUrl installerVersion : Option Json) : Except JsError String :=
  match Json.present fabricServerJarUrl with
  | some (.str url) => .ok url
  -- Only a text has `startsWith`.
  | some _ => .error .typeError
  | none => fabricMetaUrl plan installerVersion

def createFabricServerDownloadPlan (runtimePlan sources : Option Json) :
    Except JsError (Except FailureReason DownloadPlan) := do
  let plan := runtimePlan.getD (.obj [])
  match ← validateRuntimePlan plan with
  | some reason => .ok (.error reason)
  | none =>
    match plan.path ["fabric", "serverJarSha256"] with
    | none => .ok (.error .fabricChecksumMissing)
    | some expectedSha256 =>
      if !expectedSha256.truthy then .ok (.error .fabricChecksumMissing)
      else do
        let sources := some (sources.getD (.obj []))
        let sourceInstaller ← read "fabricInstallerVersion" sources
        let installerVersion := coalesce sourceInstaller (plan.path ["fabric", "installerVersion"])
        let sourceUrl ← sourceUrlOf plan (get "fabricServerJarUrl" sources) installerVersion
        if !Text.startsWith sourceUrl fabricMetaBaseUrl then .ok (.error .unknownFabricSource)
        else do
          let minecraftVersion ← textOf (plan.path ["room", "minecraftVersion"])
          let loaderVersion ← textOf (plan.path ["fabric", "loaderVersion"])
          let shaText ← expectedSha256.toText
          let cachePath ← joinName (plan.path ["layout", "downloads"])
            ("fabric-server-" ++ minecraftVersion ++ "-" ++ loaderVersion ++ "-" ++ shaText ++ ".jar")
          let reuseVerifiedDownloads ← read "reuseVerifiedDownloads" (plan.member "cache")
          .ok (.ok {
            roomId := plan.path ["room", "id"]
            provider := (Json.present (get "provider" sources)).getD (.str "Fabric Meta")
            url := sourceUrl
            cachePath := cachePath
            reuseVerifiedDownloads := reuseVerifiedDownloads
            installTarget := plan.path ["fabric", "launcherJar"]
            algorithm := plan.path ["cache", "checksumAlgorithm"]
            expectedSha256 := expectedSha256
            requiredBeforeInstall := true })

/-- What is joined to a directory stays the end of the path, if it is a name. -/
theorem joinName_end {directory : Option Json} {name path : String} {last : List Char} (hname : last <:+ name.toList)
    (hlast : last ≠ []) (hslash : '/' ∉ last) (hbackslash : '\\' ∉ last) (h : joinName directory name = .ok path) :
    last <:+ path.toList := by
  obtain ⟨start, hstart⟩ := hname
  have hne : name ≠ "" := by
    rintro rfl
    exact hlast (List.append_eq_nil_iff.1 hstart).2
  have hnormal : ∀ text, last <:+ Paths.normalize (text ++ name.toList) := by
    intro text
    rw [← hstart, ← List.append_assoc, Paths.normalize_append _ hslash hbackslash]
    exact List.suffix_append _ _
  unfold joinName at h
  split_ifs at h
  · obtain ⟨text, -, h⟩ := bind_eq_ok.1 h
    rw [← Except.ok.inj h, String.toList_ofList]
    simpa using hnormal (text.toList ++ ['/'])
  · rw [← Except.ok.inj h]
    simpa [joinPath, hne] using hnormal []

/-- A plan for the download is made of an accepted plan; the file in the cache is a jar. -/
theorem createFabricServerDownloadPlan_eq_ok {plan : Json} {sources : Option Json} {result : DownloadPlan}
    (h : createFabricServerDownloadPlan (some plan) sources = .ok (.ok result)) :
    (∃ root entries, Accepted plan root entries) ∧
      plan.path ["fabric", "serverJarSha256"] = some result.expectedSha256 ∧
      result.installTarget = plan.path ["fabric", "launcherJar"] ∧ ".jar".toList <:+ result.cachePath.toList := by
  obtain ⟨failure, hvalid, h⟩ := bind_eq_ok.1 h
  cases failure with
  | some reason => cases h
  | none =>
    have haccepted := validateRuntimePlan_eq_none.1 hvalid
    dsimp only [Option.getD_some] at h haccepted
    cases hsha : plan.path ["fabric", "serverJarSha256"] with
    | none =>
      rw [hsha] at h
      cases h
    | some expectedSha256 =>
      rw [hsha] at h
      dsimp only at h
      split_ifs at h
      · cases h
      · obtain ⟨sourceInstaller, -, h⟩ := bind_eq_ok.1 h
        obtain ⟨sourceUrl, -, h⟩ := bind_eq_ok.1 h
        split_ifs at h
        · cases h
        · obtain ⟨minecraftVersion, -, h⟩ := bind_eq_ok.1 h
          obtain ⟨loaderVersion, -, h⟩ := bind_eq_ok.1 h
          obtain ⟨shaText, -, h⟩ := bind_eq_ok.1 h
          obtain ⟨cachePath, hcache, h⟩ := bind_eq_ok.1 h
          obtain ⟨reuse, -, h⟩ := bind_eq_ok.1 h
          obtain rfl := Except.ok.inj (Except.ok.inj h)
          refine ⟨haccepted, rfl, rfl, joinName_end ?_ (by decide) (by decide) (by decide) hcache⟩
          rw [String.toList_append]
          exact List.suffix_append _ _

end EasyMc.Desktop.LocalAdapter
