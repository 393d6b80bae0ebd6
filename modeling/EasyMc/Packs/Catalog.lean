import EasyMc.Packs.Verdict

/-!
# The mod catalog (`packages/mod-catalog/src/index.mjs`)

A catalog entry is checked by `evaluateCatalogEntryMetadata` before it is recommended or put into a pack, with rules of
its own beside those of the compatibility engine.  What passes them is an entry that is complete in the engine's sense
as well, and still is in the shape that the engine is given (`compatibilityInput_complete`).

A pack copies the metadata of an entry from certain places.  The check looks for the address of the source in three
places and the pack in one of them only, so a pack is complete exactly if its entries have the address there
(`curatedPack_complete_iff`).
-/

namespace EasyMc.Packs

open Json (coalesce get isStr textOf)
open Throwing (JsError bind_eq_ok)

/-! ### The metadata of an entry -/

inductive MetadataState
  | complete
  | incomplete
  deriving DecidableEq

def MetadataState.text : MetadataState → String
  | .complete => "complete"
  | .incomplete => "incomplete"

inductive RecommendationState
  | ready
  | blocked
  deriving DecidableEq

def RecommendationState.text : RecommendationState → String
  | .ready => "ready"
  | .blocked => "blocked"

structure CatalogMetadata where
  state : MetadataState
  complete : Bool
  recommendationState : RecommendationState
  missing : List MissingField

def missingOfCatalogFile (file : Json) (index : Nat) : List MissingField :=
  missingUnless (Json.holds (file.member "filename")) s!"files[{index}].filename"
    "Catalog file must include a filename."
  ++ missingUnless (Json.holds (file.member "url")) s!"files[{index}].url"
    "Catalog file must keep the original download URL."
  ++ missingUnless (Json.holds (file.path ["hashes", "sha1"])) s!"files[{index}].hashes.sha1"
    "Catalog file must include a pinned sha1 hash."
  ++ missingUnless (Json.holds (file.path ["hashes", "sha512"])) s!"files[{index}].hashes.sha512"
    "Catalog file must include a pinned sha512 hash."
  ++ missingUnless (Json.isPositiveInteger (file.member "size")) s!"files[{index}].size"
    "Catalog file must include a positive integer size."

def missingOfCatalogFiles (files : Option Json) : List MissingField :=
  match files with
  | some (.arr (file :: files)) =>
    ((file :: files).zipIdx.map fun entry => missingOfCatalogFile entry.1 entry.2).flatten
  | _ => [⟨"files", "Catalog entry must include at least one downloadable file."⟩]

def missingOfEntry (entry : Json) : List MissingField :=
  requireField "projectId" (projectIdOf entry) "Catalog entry must have a stable project id."
  ++ requireField "source.provider" (sourceProvider entry) "Catalog entry must identify the source provider."
  ++ requireField "sourceUrl" (sourceUrl entry) "Catalog entry must keep the original source URL."
  ++ requireField "license" (entry.member "license") "Catalog entry must include license metadata."
  ++ requireField "permission" (entry.member "permission")
    "Catalog entry must include redistribution permission metadata."
  ++ missingUnless (hasCompleteSideMetadata (entry.member "side")) "side"
    "Catalog entry must include explicit client and server side support."
  ++ missingUnless (isNonEmptyArray (entry.path ["version", "gameVersions"])) "version.gameVersions"
    "Catalog entry must list supported Minecraft versions."
  ++ missingUnless (isNonEmptyArray (entry.path ["version", "loaders"])) "version.loaders"
    "Catalog entry must list supported loaders."
  ++ missingUnless (isArray (entry.path ["version", "dependencies"])) "version.dependencies"
    "Catalog entry must include a dependency list, even when empty."
  ++ missingOfCatalogFiles (entry.member "files")

def evaluateCatalogEntryMetadata (entry : Json) : CatalogMetadata :=
  let missing := missingOfEntry entry
  let complete := missing.isEmpty
  { state := if complete then .complete else .incomplete
    complete
    recommendationState := if complete then .ready else .blocked
    missing }

def catalogEntryHasRequiredMetadata (entry : Json) : Bool := (evaluateCatalogEntryMetadata entry).complete

/-! ### Recommendations -/

def MissingField.toJson (missing : MissingField) : Json :=
  .obj [("field", .str missing.field), ("reason", .str missing.reason)]

def CatalogMetadata.toJson (metadata : CatalogMetadata) : Json :=
  .obj [("state", .str metadata.state.text), ("complete", .bool metadata.complete),
    ("recommendationState", .str metadata.recommendationState.text),
    ("missing", .arr (metadata.missing.map MissingField.toJson))]

/-- `toCompatibilityInput(entry)` of an entry that is not `null`. -/
def toCompatibilityInput (entry : Json) : Json :=
  Json.object [("projectId", projectIdOf entry), ("title", titleOf entry), ("slug", entry.member "slug"),
    ("source", entry.member "source"), ("sourceUrl", entry.member "sourceUrl"),
    ("metadataSource", entry.member "metadataSource"), ("license", entry.member "license"),
    ("permission", entry.member "permission"), ("side", entry.member "side"), ("version", entry.member "version"),
    ("files", entry.member "files"), ("metadataCompleteness", some (evaluateCatalogEntryMetadata entry).toJson)]

structure Recommendation where
  state : RecommendationState
  canRecommend : Bool
  userLabel : String

structure CatalogRecommendation where
  projectId : Option Json
  title : Option Json
  slug : Option Json
  category : Json
  rank : Json
  reason : Json
  source : Option Json
  metadataCompleteness : CatalogMetadata
  recommendation : Recommendation
  compatibilityInput : Json

def createCatalogRecommendation (entry : Json) (category : Json := .str "recommended") (rank : Json := .null)
    (reason : Json := .str "") : Except JsError CatalogRecommendation :=
  if entry.isNull then .error .typeError
  else
    let metadataCompleteness := evaluateCatalogEntryMetadata entry
    let complete := metadataCompleteness.complete
    .ok {
      projectId := projectIdOf entry
      title := titleOf entry
      slug := entry.member "slug"
      category
      rank
      reason
      source := coalesce (entry.member "source") (some (Json.object
        [("provider", entry.member "metadataSource"), ("projectUrl", entry.member "sourceUrl")]))
      metadataCompleteness
      recommendation := {
        state := if complete then .ready else .blocked
        canRecommend := complete
        userLabel := if complete then "검증 가능" else "검증 불가" }
      compatibilityInput := toCompatibilityInput entry }

/-! ### Packs -/

structure Env where
  client : Option Json
  server : Option Json

def sideToEnv (side : Option Json) : Env where
  client := coalesce (get "client" side) (some (.str "optional"))
  server := coalesce (get "server" side) (some (.str "optional"))

structure PackFileMetadata where
  projectId : Option Json
  sourceUrl : Option Json
  license : Option Json
  permission : Option Json

structure PackFile where
  path : String
  hashes : Json
  env : Env
  downloads : List (Option Json)
  fileSize : Option Json
  metadata : PackFileMetadata

structure CuratedPack where
  formatVersion : Nat
  game : String
  versionId : Option Json
  name : Option Json
  summary : Option Json
  files : List PackFile
  minecraft : Option Json
  fabricLoader : Option Json

structure CuratedPackInput where
  name : Option Json
  versionId : Option Json
  summary : Option Json
  minecraftVersion : Option Json
  fabricLoaderVersion : Option Json
  mods : Option Json

/-- `message` is a `TypeError` that the code makes itself. -/
inductive PackError
  | message (text : String)
  | thrown (error : JsError)
  deriving DecidableEq

/-- A file of the pack, from a file of an entry. -/
def packFile (mod file : Json) : Except JsError PackFile := do
  let filename ← textOf (file.member "filename")
  .ok {
    path := "mods/" ++ filename
    hashes := Json.assign ((file.member "hashes").getD .null) []
    env := sideToEnv (mod.member "side")
    downloads := [file.member "url"]
    fileSize := file.member "size"
    metadata := {
      projectId := mod.member "projectId"
      sourceUrl := mod.member "sourceUrl"
      license := mod.member "license"
      permission := mod.member "permission" } }

/-- The files of an entry in a pack; an entry that is checked has an array of files. -/
def packFiles (mod : Json) : Except JsError (List PackFile) :=
  match mod.member "files" with
  | some (.arr files) => files.mapM (packFile mod)
  | _ => .error .typeError

/-- How an entry with incomplete metadata is named. -/
def unsafeModName (mod : Json) : Except JsError String :=
  if mod.isNull then .error .typeError else textOf (coalesce (projectIdOf mod) (some (.str "unknown")))

def createCuratedPack (input : CuratedPackInput) : Except PackError CuratedPack :=
  match input.mods with
  | some (.arr (first :: rest)) =>
    let mods := first :: rest
    let unsafeMods := mods.filter fun mod => !catalogEntryHasRequiredMetadata mod
    if !unsafeMods.isEmpty then
      (unsafeMods.mapM unsafeModName).mapError .thrown >>= fun names =>
        .error (.message ("mods include entries with incomplete metadata: " ++ ", ".intercalate names))
    else
      (mods.mapM packFiles).mapError .thrown >>= fun files =>
        .ok {
          formatVersion := 1
          game := "minecraft"
          versionId := input.versionId
          name := input.name
          summary := input.summary
          files := files.flatten
          minecraft := input.minecraftVersion
          fabricLoader := input.fabricLoaderVersion }
  | _ => .error (.message "mods must include at least one normalized catalog entry")

/-! ### Complete entries -/

variable {entry file mod : Json}

/-- A file with a name, an address, both hashes and a size. -/
structure CatalogFile (file : Json) : Prop where
  filename : Json.holds (file.member "filename") = true
  pinned : PinnedFile file

/-- An entry that the catalog's check passes. -/
structure CompleteEntry (entry : Json) : Prop where
  projectId : Given (projectIdOf entry)
  provider : Given (sourceProvider entry)
  sourceUrl : Given (sourceUrl entry)
  license : Given (entry.member "license")
  permission : Given (entry.member "permission")
  side : hasCompleteSideMetadata (entry.member "side") = true
  gameVersions : ∃ versions, entry.path ["version", "gameVersions"] = some (.arr versions) ∧ versions ≠ []
  loaders : ∃ loaders, entry.path ["version", "loaders"] = some (.arr loaders) ∧ loaders ≠ []
  dependencies : ∃ dependencies, entry.path ["version", "dependencies"] = some (.arr dependencies)
  files : ∃ files, entry.member "files" = some (.arr files) ∧ files ≠ [] ∧ ∀ file ∈ files, CatalogFile file

theorem missingOfCatalogFile_eq_nil_iff {index : Nat} : missingOfCatalogFile file index = [] ↔ CatalogFile file := by
  unfold missingOfCatalogFile
  simp only [List.append_eq_nil_iff, missingUnless_eq_nil_iff]
  constructor
  · rintro ⟨⟨⟨⟨hfilename, hurl⟩, hsha1⟩, hsha512⟩, hsize⟩
    exact ⟨hfilename, hurl, hsha1, hsha512, hsize⟩
  · intro h
    exact ⟨⟨⟨⟨h.filename, h.pinned.url⟩, h.pinned.sha1⟩, h.pinned.sha512⟩, h.pinned.size⟩

theorem missingOfCatalogFiles_eq_nil_iff {files : Option Json} : missingOfCatalogFiles files = [] ↔
    ∃ values, files = some (.arr values) ∧ values ≠ [] ∧ ∀ file ∈ values, CatalogFile file := by
  unfold missingOfCatalogFiles
  split
  · rename_i file rest
    rw [@flatten_missing_eq_nil_iff missingOfCatalogFile CatalogFile fun _ _ => missingOfCatalogFile_eq_nil_iff]
    simp
  · rename_i hfiles
    simp only [reduceCtorEq, false_iff, not_exists, not_and]
    rintro values rfl hne
    obtain ⟨file, rest, rfl⟩ := List.exists_cons_of_ne_nil hne
    exact absurd rfl (hfiles file rest)

/-- Nothing is missing of an entry exactly if it is complete. -/
theorem missingOfEntry_eq_nil_iff : missingOfEntry entry = [] ↔ CompleteEntry entry := by
  unfold missingOfEntry
  simp only [List.append_eq_nil_iff, requireField_eq_nil_iff, missingUnless_eq_nil_iff, isNonEmptyArray_iff,
    isArray_iff, missingOfCatalogFiles_eq_nil_iff]
  constructor
  · rintro ⟨⟨⟨⟨⟨⟨⟨⟨⟨hid, hprovider⟩, hurl⟩, hlicense⟩, hpermission⟩, hside⟩, hversions⟩, hloaders⟩, hdependencies⟩, hfiles⟩
    exact ⟨hid, hprovider, hurl, hlicense, hpermission, hside, hversions, hloaders, hdependencies, hfiles⟩
  · intro h
    exact ⟨⟨⟨⟨⟨⟨⟨⟨⟨h.projectId, h.provider⟩, h.sourceUrl⟩, h.license⟩, h.permission⟩, h.side⟩, h.gameVersions⟩,
      h.loaders⟩, h.dependencies⟩, h.files⟩

theorem catalogEntryHasRequiredMetadata_iff : catalogEntryHasRequiredMetadata entry = true ↔ CompleteEntry entry := by
  rw [← missingOfEntry_eq_nil_iff, ← List.isEmpty_iff]
  rfl

/-! ### The engine agrees with the catalog -/

/-- The fields of an entry that the engine is given as they are. -/
def keptKeys : List String :=
  ["slug", "source", "sourceUrl", "metadataSource", "license", "permission", "side", "version", "files"]

theorem member_toCompatibilityInput {key : String} (h : key ∈ keptKeys) :
    (toCompatibilityInput entry).member key = entry.member key := by
  have hmember : (toCompatibilityInput entry).member key = _ := Json.member_object (by simp) key
  simp only [keptKeys, List.mem_cons, List.not_mem_nil, or_false] at h
  rcases h with rfl | rfl | rfl | rfl | rfl | rfl | rfl | rfl | rfl
  all_goals exact hmember.trans (Option.join_some)

theorem path_toCompatibilityInput {key : String} (h : key ∈ keptKeys) (key' : String) :
    (toCompatibilityInput entry).path [key, key'] = entry.path [key, key'] := by
  rw [Json.path_pair, Json.path_pair, member_toCompatibilityInput h]

/-- A list of the version that the entry has is the one that the engine reads. -/
theorem versionList_toCompatibilityInput {key : String} {values : List Json}
    (h : entry.path ["version", key] = some (.arr values)) :
    versionList key (toCompatibilityInput entry) = some (.arr values) := by
  rw [versionList, path_toCompatibilityInput (by simp [keptKeys]), h]
  rfl

/-- A complete entry is complete for the engine, in the shape that the engine is given. -/
theorem compatibilityInput_complete (h : CompleteEntry entry) : CompleteMetadata (toCompatibilityInput entry) := by
  have hprovider : sourceProvider (toCompatibilityInput entry) = sourceProvider entry := by
    rw [sourceProvider, sourceProvider, path_toCompatibilityInput (by simp [keptKeys]),
      member_toCompatibilityInput (by simp [keptKeys])]
  have hurl : sourceUrl (toCompatibilityInput entry) = sourceUrl entry := by
    rw [sourceUrl, sourceUrl, path_toCompatibilityInput (by simp [keptKeys]),
      path_toCompatibilityInput (by simp [keptKeys]), member_toCompatibilityInput (by simp [keptKeys])]
  have hmember : ∀ key ∈ ["license", "permission", "side", "files"],
      (toCompatibilityInput entry).member key = entry.member key := by
    intro key hkey
    apply member_toCompatibilityInput
    simp only [List.mem_cons, List.not_mem_nil, or_false] at hkey
    rcases hkey with rfl | rfl | rfl | rfl <;> simp [keptKeys]
  obtain ⟨versions, hversions, hsomeVersions⟩ := h.gameVersions
  obtain ⟨loaders, hloaders, hsomeLoaders⟩ := h.loaders
  obtain ⟨dependencies, hdependencies⟩ := h.dependencies
  obtain ⟨files, hfiles, hsomeFiles, hpinned⟩ := h.files
  constructor
  · rw [hprovider]
    exact h.provider
  · rw [hurl]
    exact h.sourceUrl
  · rw [hmember "license" (by simp)]
    exact h.license
  · rw [hmember "permission" (by simp)]
    exact h.permission
  · rw [hmember "side" (by simp)]
    exact h.side
  · exact ⟨versions, versionList_toCompatibilityInput hversions, hsomeVersions⟩
  · exact ⟨loaders, versionList_toCompatibilityInput hloaders, hsomeLoaders⟩
  · exact ⟨dependencies, versionList_toCompatibilityInput hdependencies⟩
  · rw [hmember "files" (by simp)]
    exact ⟨files, hfiles, hsomeFiles, fun file hfile => (hpinned file hfile).pinned⟩

/-- The metadata issues of some records. -/
def metadataIssuesOf (records : List Json) : List ModMetadata :=
  (records.map fun record => evaluateModMetadata (normalized record)).filter fun issue => !issue.complete

theorem metadataIssues_eq {selectedMods catalog knownConflicts : List Json} {minecraftVersion : Option Json}
    {loader : Json} {report : Report}
    (h : evaluateCompatibility selectedMods catalog minecraftVersion loader knownConflicts = .ok report) :
    report.metadataIssues = metadataIssuesOf selectedMods := by
  unfold evaluateCompatibility at h
  obtain ⟨mods, hmods, h⟩ := bind_eq_ok.1 h
  obtain ⟨found, -, h⟩ := bind_eq_ok.1 h
  obtain ⟨unsupported, -, h⟩ := bind_eq_ok.1 h
  obtain ⟨plan, -, h⟩ := bind_eq_ok.1 h
  obtain ⟨conflicts, -, h⟩ := bind_eq_ok.1 h
  obtain ⟨sides, -, h⟩ := bind_eq_ok.1 h
  obtain ⟨reports, -, hreport⟩ := bind_eq_ok.1 h
  have hselected := mapM_normalize_ok hmods
  subst hselected
  cases hreport
  unfold metadataIssuesOf
  rw [List.map_map]
  rfl

/-- A complete record adds no issue, wherever it stands. -/
theorem metadataIssuesOf_append {record : Json} (h : CompleteMetadata record) (before after : List Json) :
    metadataIssuesOf (before ++ record :: after) = metadataIssuesOf (before ++ after) := by
  have hcomplete : (evaluateModMetadata (normalized record)).complete = true :=
    List.isEmpty_iff.2 (missingOfMod_eq_nil_iff.2 h)
  unfold metadataIssuesOf
  simp [hcomplete]

/-- The lists of a complete record can be read. -/
theorem returns_supportsTarget {record : Json} (h : CompleteMetadata record) (minecraftVersion : Option Json)
    (loader : Json) : Throwing.Returns (supportsTarget (normalized record) minecraftVersion loader) := by
  obtain ⟨versions, hversions, -⟩ := h.gameVersions
  obtain ⟨loaders, hloaders, -⟩ := h.loaders
  rw [normalized_eq]
  apply returns_supportsTarget_of_lists
  · rw [versionList_normalizedWith (by simp), hversions]
  · rw [versionList_normalizedWith (by simp), hloaders]

/-- Every dependency record of the entry is an object. -/
def ObjectDependencies (entry : Json) : Prop :=
  ∀ dependencies, entry.path ["version", "dependencies"] = some (.arr dependencies) →
    ∀ dependency ∈ dependencies, ∃ fields, dependency = .obj fields

/-- An entry that can be recommended has no metadata issue in the engine's report on any selection that it is in; the
issues of the report are those of the other records.  Its dependencies and its support of a target can be read. -/
theorem recommended_without_issues (entry category rank reason : Json) (recommendation : CatalogRecommendation)
    (hcreated : createCatalogRecommendation entry category rank reason = .ok recommendation)
    (hcan : recommendation.recommendation.canRecommend = true) (hobjects : ObjectDependencies entry) :
    (∀ before after catalog minecraftVersion loader knownConflicts report,
      evaluateCompatibility (before ++ recommendation.compatibilityInput :: after) catalog minecraftVersion loader
        knownConflicts = .ok report → report.metadataIssues = metadataIssuesOf (before ++ after)) ∧
    Throwing.Returns (requiredDependencies (normalized recommendation.compatibilityInput)) ∧
    ∀ minecraftVersion loader,
      Throwing.Returns (supportsTarget (normalized recommendation.compatibilityInput) minecraftVersion loader) := by
  have hcomplete : CompleteEntry entry := by
    unfold createCatalogRecommendation at hcreated
    split_ifs at hcreated with hnull
    cases hcreated
    exact catalogEntryHasRequiredMetadata_iff.1 hcan
  have hinput : recommendation.compatibilityInput = toCompatibilityInput entry := by
    unfold createCatalogRecommendation at hcreated
    split_ifs at hcreated with hnull
    cases hcreated
    rfl
  have hmetadata := compatibilityInput_complete hcomplete
  obtain ⟨dependencies, hdependencies⟩ := hcomplete.dependencies
  rw [hinput]
  refine ⟨?_, ?_, ?_⟩
  · intro before after catalog minecraftVersion loader knownConflicts report hreport
    rw [metadataIssues_eq hreport, metadataIssuesOf_append hmetadata]
  · apply returns_requiredDependencies (versionList_toCompatibilityInput hdependencies)
    intro dependency hdependency
    obtain ⟨fields, rfl⟩ := hobjects dependencies hdependencies dependency hdependency
    rfl
  · exact returns_supportsTarget hmetadata

/-- An entry of the catalog, with the address of its source. -/
def catalogEntry (address : String × Json) : Json :=
  .obj [("id", .str "lithium"), address,
    ("metadataSource", .str "modrinth"), ("license", .str "LGPL-3.0-only"),
    ("permission", .obj [("redistribution", .str "original_url_only")]),
    ("side", .obj [("client", .str "optional"), ("server", .str "required")]),
    ("version", .obj [("gameVersions", .arr [.str "1.20.1"]), ("loaders", .arr [.str "fabric"]),
      ("dependencies", .arr [.obj [("projectId", .str "fabric-api"), ("type", .str "required")]])]),
    ("files", .arr [.obj [("filename", .str "lithium.jar"), ("url", .str "https://cdn.modrinth.com/lithium.jar"),
      ("hashes", .obj [("sha1", .str "a1"), ("sha512", .str "a5")]), ("size", .num "1024")]])]

/-- Lithium as `normalizeModrinthVersion` makes it. -/
def lithium : Json := catalogEntry ("sourceUrl", .str "https://modrinth.com/mod/lithium")

theorem recommended_without_issues_lithium :
    (∀ before after catalog minecraftVersion loader knownConflicts report,
      evaluateCompatibility (before ++ toCompatibilityInput lithium :: after) catalog minecraftVersion
        loader knownConflicts = .ok report → report.metadataIssues = metadataIssuesOf (before ++ after)) ∧
    Throwing.Returns (requiredDependencies (normalized (toCompatibilityInput lithium))) ∧
    ∀ minecraftVersion loader,
      Throwing.Returns (supportsTarget (normalized (toCompatibilityInput lithium)) minecraftVersion
        loader) :=
  recommended_without_issues lithium (.str "recommended") .null (.str "") _ rfl (by decide +kernel)
    (by
      intro dependencies hdependencies dependency hdependency
      cases hdependencies
      obtain rfl := List.mem_singleton.1 hdependency
      exact ⟨_, rfl⟩)

/-! ### Packs carry the metadata -/

/-- What every file of a pack should carry. -/
structure CarriesMetadata (file : PackFile) : Prop where
  sourceUrl : Given file.metadata.sourceUrl
  license : Given file.metadata.license
  permission : Given file.metadata.permission
  sha1 : Json.holds (file.hashes.member "sha1") = true
  sha512 : Json.holds (file.hashes.member "sha512") = true
  downloads : ∃ url, file.downloads = [some url] ∧ url.truthy = true
  fileSize : Json.isPositiveInteger file.fileSize = true

/-- A pack that is created has the files of complete entries. -/
theorem createCuratedPack_ok {input : CuratedPackInput} {pack : CuratedPack} (h : createCuratedPack input = .ok pack) :
    ∃ mods files, input.mods = some (.arr mods) ∧ (∀ mod ∈ mods, CompleteEntry mod) ∧
      mods.mapM packFiles = .ok files ∧ pack.files = files.flatten := by
  unfold createCuratedPack at h
  split at h
  · rename_i first rest hmods
    by_cases hincomplete : ((first :: rest).filter fun mod => !catalogEntryHasRequiredMetadata mod).isEmpty = true
    · simp only [hincomplete, Bool.not_true, Bool.false_eq_true, if_false] at h
      obtain ⟨files, hfiles, hpack⟩ := bind_eq_ok.1 h
      cases hpack
      refine ⟨first :: rest, files, hmods, ?_, Throwing.mapError_eq_ok.1 hfiles, rfl⟩
      intro mod hmod
      have hnone := List.filter_eq_nil_iff.1 (List.isEmpty_iff.1 hincomplete) mod hmod
      apply catalogEntryHasRequiredMetadata_iff.1
      simpa using hnone
    · simp only [hincomplete, Bool.not_false, if_true] at h
      obtain ⟨names, -, hthrown⟩ := bind_eq_ok.1 h
      cases hthrown
  · cases h

/-- The address of the source that the entry has of its own is the one that is checked. -/
theorem given_sourceUrl_iff (h : CompleteEntry mod) :
    Given (mod.member "sourceUrl") ↔ Json.present (mod.member "sourceUrl") ≠ none := by
  have hurl := h.sourceUrl
  unfold sourceUrl coalesce at hurl
  cases hpresent : Json.present (mod.member "sourceUrl") with
  | none =>
    simp only [ne_eq, not_true, iff_false]
    rintro ⟨hsome, hnull, -⟩
    unfold Json.present at hpresent
    split at hpresent <;> simp_all
  | some value =>
    simp only [ne_eq, reduceCtorEq, not_false_eq_true, iff_true]
    rw [hpresent] at hurl
    have hmember : mod.member "sourceUrl" = some value := by
      unfold Json.present at hpresent
      split at hpresent <;> simp_all
    rw [hmember]
    exact hurl

/-- The file of a pack carries what is checked, and the address of the source if the entry has it of its own. -/
theorem carriesMetadata_packFile {packed : PackFile} (hmod : CompleteEntry mod) (hfile : CatalogFile file)
    (h : packFile mod file = .ok packed) : CarriesMetadata packed ↔ Json.present (mod.member "sourceUrl") ≠ none := by
  obtain ⟨filename, -, hpacked⟩ := bind_eq_ok.1 h
  cases hpacked
  rw [← given_sourceUrl_iff hmod]
  constructor
  · intro hcarries
    exact hcarries.sourceUrl
  · intro hurl
    have hhash : ∀ key, (Json.assign ((file.member "hashes").getD .null) []).member key = file.path ["hashes", key] := by
      intro key
      rw [Json.member_assign (by simp), Json.path_pair]
      cases file.member "hashes" with
      | none => rfl
      | some hashes => rfl
    have hdownload : ∃ url, file.member "url" = some url ∧ url.truthy = true := (Option.any_eq_true _ _).1 hfile.pinned.url
    obtain ⟨url, hsome, htruthy⟩ := hdownload
    constructor
    · exact hurl
    · exact hmod.license
    · exact hmod.permission
    · rw [hhash]
      exact hfile.pinned.sha1
    · rw [hhash]
      exact hfile.pinned.sha512
    · exact ⟨url, congrArg (fun value => [value]) hsome, htruthy⟩
    · exact hfile.pinned.size

/-- Every file of a created pack carries its metadata exactly if every entry has the address of its source in
`sourceUrl`. -/
theorem curatedPack_complete_iff (input : CuratedPackInput) (mods : List Json) (hmods : input.mods = some (.arr mods))
    (pack : CuratedPack) (h : createCuratedPack input = .ok pack) :
    (∀ file ∈ pack.files, CarriesMetadata file) ↔ ∀ mod ∈ mods, Json.present (mod.member "sourceUrl") ≠ none := by
  obtain ⟨mods', fileLists, hmods', hcomplete, hpacked, hfiles⟩ := createCuratedPack_ok h
  rw [hmods] at hmods'
  cases hmods'
  rw [hfiles]
  constructor
  · intro hall mod hmod
    -- an entry has a file, and what the pack writes for it is the address that the entry has of its own
    obtain ⟨files, hmember, hsome, hchecked⟩ := (hcomplete mod hmod).files
    obtain ⟨file, rest, rfl⟩ := List.exists_cons_of_ne_nil hsome
    obtain ⟨packedFiles, hlist, hpackFiles⟩ := Throwing.exists_of_mapM_eq_ok hpacked hmod
    rw [packFiles, hmember] at hpackFiles
    obtain ⟨packed, hin, hpack⟩ := Throwing.exists_of_mapM_eq_ok hpackFiles List.mem_cons_self
    have hcarries := hall packed (List.mem_flatten.2 ⟨packedFiles, hlist, hin⟩)
    exact (carriesMetadata_packFile (hcomplete mod hmod) (hchecked file List.mem_cons_self) hpack).1 hcarries
  · intro haddressed packed hin
    obtain ⟨packedFiles, hlist, hpacked'⟩ := List.mem_flatten.1 hin
    obtain ⟨mod, hmod, hpackFiles⟩ := Throwing.exists_of_mem_mapM hpacked hlist
    obtain ⟨files, hmember, -, hchecked⟩ := (hcomplete mod hmod).files
    rw [packFiles, hmember] at hpackFiles
    obtain ⟨file, hfile, hpack⟩ := Throwing.exists_of_mem_mapM hpackFiles hpacked'
    exact (carriesMetadata_packFile (hcomplete mod hmod) (hchecked file hfile) hpack).2 (haddressed mod hmod)

def packInput (mod : Json) : CuratedPackInput where
  name := some (.str "Lithium pack")
  versionId := some (.str "0.1.0")
  summary := some (.str "One mod")
  minecraftVersion := some (.str "1.20.1")
  fabricLoaderVersion := some (.str "0.15.11")
  mods := some (.arr [mod])

theorem curatedPack_complete_iff_lithium : ∃ pack, createCuratedPack (packInput lithium) = .ok pack ∧
    ((∀ file ∈ pack.files, CarriesMetadata file) ↔
      ∀ mod ∈ [lithium], Json.present (mod.member "sourceUrl") ≠ none) := by
  obtain ⟨pack, hpack, -⟩ : ∃ pack, createCuratedPack (packInput lithium) = .ok pack ∧ pack.files.length = 1 :=
    Throwing.exists_ok_of_test (by decide +kernel)
  exact ⟨pack, hpack, curatedPack_complete_iff (packInput lithium) [lithium] rfl pack hpack⟩

/-- An entry that has the address of its project, which the check takes for the address of the source. -/
def projectOnly : Json :=
  catalogEntry ("source", .obj [("provider", .str "modrinth"), ("projectUrl", .str "https://modrinth.com/mod/lithium")])

theorem projectOnly_pack_incomplete :
    ∃ pack, createCuratedPack (packInput projectOnly) = .ok pack ∧ ¬ ∀ file ∈ pack.files, CarriesMetadata file := by
  obtain ⟨pack, hpack, htest⟩ : ∃ pack, createCuratedPack (packInput projectOnly) = .ok pack ∧
      ∃ file ∈ pack.files, file.metadata.sourceUrl.isNone = true :=
    Throwing.exists_ok_of_test (by decide +kernel)
  refine ⟨pack, hpack, fun hall => ?_⟩
  obtain ⟨file, hfile, hnone⟩ := htest
  exact (hall file hfile).sourceUrl.1 (Option.isNone_iff_eq_none.1 hnone)

end EasyMc.Packs
