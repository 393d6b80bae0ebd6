import EasyMc.Library.Values

/-!
# Compatibility of a selection

The functions that judge a selection of mods: `resolveDependencyPlan` adds what the selected mods require from a
catalog, and `evaluateCompatibility` gives the verdict.  The mods of a selection and of a catalog are JSON values of any
shape.  Both functions start by normalising them (`normalizeSelectedMod`): a `Mod` is a record that has been through
this, so that its `side` and its `version` are objects.

A record is normalised again wherever it is read, and `evaluateCompatibility` hands normalised records to
`resolveDependencyPlan` as if they were raw.
-/

namespace EasyMc.Packs

open Json (coalesce get isStr sameValueZero textOf includes IdSet IdMap)
open Throwing (JsError filterThrows)

/-! ### Risks -/

inductive RiskLabel
  | highConfidence
  | caution
  | likelyFail
  deriving DecidableEq

def RiskLabel.text : RiskLabel → String
  | .highConfidence => "high_confidence"
  | .caution => "caution"
  | .likelyFail => "likely_fail"

def RiskLabel.display : RiskLabel → String
  | .highConfidence => "높은 신뢰"
  | .caution => "주의"
  | .likelyFail => "실패 가능"

/-! ### Normalising -/

def isKnownSideValue (value : Option Json) : Bool :=
  isStr "required" value || isStr "optional" value || isStr "unsupported" value

def hasCompleteSideMetadata (side : Option Json) : Bool :=
  isKnownSideValue (get "client" side) && isKnownSideValue (get "server" side)

/-- A normalised record. -/
structure Mod where
  fields : List (String × Json)

def Mod.record (mod : Mod) : Json := .obj mod.fields

def projectIdOf (mod : Json) : Option Json := coalesce (mod.member "projectId") (mod.member "id")

def titleOf (mod : Json) : Option Json :=
  coalesce (mod.member "title") (coalesce (mod.member "slug") (projectIdOf mod))

/-- `mod.side`, with what is missing filled in. -/
def sideOf (mod : Json) : Json :=
  Json.object [("client", coalesce (mod.path ["side", "client"]) (some (.str "optional"))),
    ("server", coalesce (mod.path ["side", "server"]) (some (.str "optional")))]

/-- A list of the version, of the mod, or the empty one. -/
def versionList (key : String) (mod : Json) : Option Json :=
  coalesce (mod.path ["version", key]) (coalesce (mod.member key) (some (.arr [])))

def versionOf (mod : Json) : Json :=
  Json.assign ((Json.present (mod.member "version")).getD (.obj []))
    [("gameVersions", versionList "gameVersions" mod), ("loaders", versionList "loaders" mod),
      ("dependencies", versionList "dependencies" mod)]

def normalized (mod : Json) : Mod :=
  ⟨Json.assigned mod [("projectId", projectIdOf mod), ("title", titleOf mod), ("side", some (sideOf mod)),
    ("sideMetadataComplete", some (.bool (hasCompleteSideMetadata (mod.member "side")))),
    ("version", some (versionOf mod))]⟩

def normalizeSelectedMod (mod : Json) : Except JsError Mod :=
  if mod.isNull then .error .typeError else .ok (normalized mod)

def Mod.projectId (mod : Mod) : Option Json := mod.record.member "projectId"

def Mod.title (mod : Mod) : Option Json := mod.record.member "title"

/-- A list of the version of a record, which is normalised again before it is read. -/
def Mod.versionList (mod : Mod) (key : String) : Option Json :=
  (normalized mod.record).record.path ["version", key]

inductive Side
  | serverOnly
  | clientOnly
  | bothSides
  | unknown
  deriving DecidableEq

/-- The side of the record is given, and was so before what was missing was filled in. -/
def hasExplicitSide (mod : Json) : Bool :=
  !(match mod.member "sideMetadataComplete" with
    | some (.bool false) => true
    | _ => false) && hasCompleteSideMetadata (mod.member "side")

def classifySide (mod : Json) : Side :=
  if !hasExplicitSide mod then .unknown
  else
    let side := (normalized mod).record.member "side"
    let client := get "client" side
    let server := get "server" side
    if isStr "unsupported" client && !isStr "unsupported" server then .serverOnly
    else if isStr "unsupported" server && !isStr "unsupported" client then .clientOnly
    else if isStr "unsupported" client && isStr "unsupported" server then .unknown
    else if Json.holds client && Json.holds server then .bothSides
    else .unknown

def supportsTarget (mod : Mod) (minecraftVersion : Option Json) (loader : Json) : Except JsError Bool := do
  let versions ← includes (mod.versionList "gameVersions") minecraftVersion
  if versions then includes (mod.versionList "loaders") (some loader) else .ok false

def isRequired (dependency : Json) : Bool :=
  isStr "required" (dependency.member "type") && Json.holds (dependency.member "projectId")

def requiredDependencies (mod : Mod) : Except JsError (List Json) :=
  match mod.versionList "dependencies" with
  | some (.arr dependencies) =>
    filterThrows (fun dependency => if dependency.isNull then .error .typeError else .ok (isRequired dependency))
      dependencies
  | _ => .error .typeError

def buildCatalog (catalog : List Json) (selected : List Mod) : Except JsError (IdMap Mod) := do
  let entries ← (catalog ++ selected.map Mod.record).mapM normalizeSelectedMod
  .ok (IdMap.ofList (entries.map fun normalized => (normalized.projectId, normalized)))

/-! ### Metadata -/

structure MissingField where
  field : String
  reason : String
  deriving DecidableEq

structure ModMetadata where
  projectId : Option Json
  title : Option Json
  complete : Bool
  missing : List MissingField

def requireField (field : String) (value : Option Json) (reason : String) : List MissingField :=
  match value with
  | none => [⟨field, reason⟩]
  | some .null => [⟨field, reason⟩]
  | some (.str "") => [⟨field, reason⟩]
  | _ => []

def missingUnless (condition : Bool) (field reason : String) : List MissingField :=
  if condition then [] else [⟨field, reason⟩]

def isNonEmptyArray : Option Json → Bool
  | some (.arr values) => !values.isEmpty
  | _ => false

def isArray : Option Json → Bool
  | some (.arr _) => true
  | _ => false

def sourceProvider (mod : Json) : Option Json :=
  coalesce (mod.path ["source", "provider"]) (mod.member "metadataSource")

def sourceUrl (mod : Json) : Option Json :=
  coalesce (mod.member "sourceUrl") (coalesce (mod.path ["source", "projectUrl"]) (mod.path ["source", "url"]))

def missingOfFile (file : Json) (index : Nat) : List MissingField :=
  missingUnless (Json.holds (file.member "url")) s!"files[{index}].url" "Mod file must keep the original download URL."
  ++ missingUnless (Json.holds (file.path ["hashes", "sha1"])) s!"files[{index}].hashes.sha1"
    "Mod file must include a pinned sha1 hash."
  ++ missingUnless (Json.holds (file.path ["hashes", "sha512"])) s!"files[{index}].hashes.sha512"
    "Mod file must include a pinned sha512 hash."
  ++ missingUnless (Json.isPositiveInteger (file.member "size")) s!"files[{index}].size"
    "Mod file must include a positive integer size."

def missingOfFiles (files : Option Json) : List MissingField :=
  match files with
  | some (.arr (file :: files)) => ((file :: files).zipIdx.map fun entry => missingOfFile entry.1 entry.2).flatten
  | _ => [⟨"files", "Mod metadata must include at least one downloadable file."⟩]

def missingOfMod (mod : Mod) : List MissingField :=
  requireField "source.provider" (sourceProvider mod.record) "Mod metadata must identify the source provider."
  ++ requireField "sourceUrl" (sourceUrl mod.record) "Mod metadata must keep the original source URL."
  ++ requireField "license" (mod.record.member "license") "Mod metadata must include license metadata."
  ++ requireField "permission" (mod.record.member "permission")
    "Mod metadata must include redistribution permission metadata."
  ++ missingUnless (hasExplicitSide mod.record) "side"
    "Mod metadata must include explicit client and server side support."
  ++ missingUnless (isNonEmptyArray (mod.versionList "gameVersions")) "version.gameVersions"
    "Mod metadata must list supported Minecraft versions."
  ++ missingUnless (isNonEmptyArray (mod.versionList "loaders")) "version.loaders"
    "Mod metadata must list supported loaders."
  ++ missingUnless (isArray (mod.versionList "dependencies")) "version.dependencies"
    "Mod metadata must include a dependency list, even when empty."
  ++ missingOfFiles (mod.record.member "files")

def evaluateModMetadata (mod : Mod) : ModMetadata where
  projectId := (normalized mod.record).projectId
  title := (normalized mod.record).title
  complete := (missingOfMod mod).isEmpty
  missing := missingOfMod mod

/-! ### The plan -/

structure Suggestion where
  projectId : Option Json
  title : Option Json
  requiredBy : Option Json
  reason : String

structure MissingDependency where
  projectId : Option Json
  requiredBy : Option Json
  reason : String
  metadataIssues : Option (List MissingField) := none

/-- What the loop of a plan has gathered. -/
structure Progress where
  selectedIds : IdSet
  automaticAddSuggestions : List Suggestion
  missingDependencies : List MissingDependency

structure DependencyPlan where
  resolvedMods : List Mod
  automaticAddSuggestions : List Suggestion
  missingDependencies : List MissingDependency

section Plan

variable (catalogById : IdMap Mod) (minecraftVersion : Option Json) (loader : Json)

/-- The mod of the catalog with an id, if it supports the target. -/
def supportedCandidate (id : Option Json) : Except JsError (Option Mod) :=
  match catalogById.get id with
  | none => .ok none
  | some candidate => do
    let supported ← supportsTarget candidate minecraftVersion loader
    .ok (if supported then some candidate else none)

def resolveDependency (mod : Mod) (progress : Progress) (dependency : Json) : Except JsError Progress := do
  let id := dependency.member "projectId"
  if progress.selectedIds.has id then .ok progress
  else
    match ← supportedCandidate catalogById minecraftVersion loader id with
    | some candidate =>
      let metadata := evaluateModMetadata candidate
      if !metadata.complete then
        let title ← textOf candidate.title
        .ok { progress with
          missingDependencies := progress.missingDependencies ++ [{
            projectId := id
            requiredBy := mod.projectId
            reason := title ++ " is present in the catalog, but its metadata is incomplete."
            metadataIssues := some metadata.missing }] }
      else
        let title ← textOf mod.title
        let candidateTitle ← textOf candidate.title
        .ok { progress with
          automaticAddSuggestions := progress.automaticAddSuggestions ++ [{
            projectId := candidate.projectId
            title := candidate.title
            requiredBy := mod.projectId
            reason := title ++ " requires " ++ candidateTitle ++ "." }]
          selectedIds := progress.selectedIds.add candidate.projectId }
    | none =>
      let title ← textOf mod.title
      .ok { progress with
        missingDependencies := progress.missingDependencies ++ [{
          projectId := id
          requiredBy := mod.projectId
          reason := title ++ " has a required dependency that is not in the curated catalog." }] }

def resolveMod (progress : Progress) (mod : Mod) : Except JsError Progress := do
  let dependencies ← requiredDependencies mod
  dependencies.foldlM (resolveDependency catalogById minecraftVersion loader mod) progress

end Plan

def selectedIdsOf (selected : List Mod) : IdSet := IdSet.ofList (selected.map Mod.projectId)

/-- The mods of the catalog that are suggested; each of them is there (`get_suggested`). -/
def suggestedMods (catalogById : IdMap Mod) (suggestions : List Suggestion) : List Mod :=
  suggestions.filterMap fun suggestion => catalogById.get suggestion.projectId

def resolveDependencyPlan (selectedMods catalog : List Json) (minecraftVersion : Option Json)
    (loader : Json := .str "fabric") : Except JsError DependencyPlan := do
  let selected ← selectedMods.mapM normalizeSelectedMod
  let catalogById ← buildCatalog catalog selected
  let progress ← selected.foldlM (resolveMod catalogById minecraftVersion loader)
    { selectedIds := selectedIdsOf selected, automaticAddSuggestions := [], missingDependencies := [] }
  .ok {
    resolvedMods := selected ++ suggestedMods catalogById progress.automaticAddSuggestions
    automaticAddSuggestions := progress.automaticAddSuggestions
    missingDependencies := progress.missingDependencies }

/-! ### The verdict -/

structure Conflict where
  mods : List (Option Json)
  advice : Json

/-- A known conflict; where its mods are no array, the test of all of them throws. -/
def readConflict (conflict : Json) : Except JsError Conflict :=
  if conflict.isNull then .error .typeError
  else
    let advice := (Json.present (conflict.member "advice")).getD (.str "Use only one of these mods in this pack.")
    match Json.present (conflict.member "mods") with
    | none => .ok ⟨[conflict.member "a", conflict.member "b"], advice⟩
    | some (.arr mods) => .ok ⟨mods.map some, advice⟩
    | some _ => .error .typeError

def findKnownConflicts (selectedIds : IdSet) (knownConflicts : List Json) : Except JsError (List Conflict) := do
  let conflicts ← knownConflicts.mapM readConflict
  .ok (conflicts.filter fun conflict => conflict.mods.all fun modId => selectedIds.has modId)

structure Unsupported where
  projectId : Option Json
  title : Option Json
  reason : String

def readUnsupported (minecraftVersion : Option Json) (loader : Json) (mod : Mod) : Except JsError Unsupported := do
  let version ← textOf minecraftVersion
  let loader ← loader.toText
  .ok ⟨mod.projectId, mod.title, "Not marked compatible with Minecraft " ++ version ++ " and " ++ loader ++ "."⟩

def buildAdvice (label : RiskLabel) (metadataIssues : List ModMetadata) (unsupported : List Mod)
    (dependencyPlan : DependencyPlan) (conflicts : List Conflict) : Json :=
  if label = .highConfidence then
    .str "This set is marked compatible for the selected Minecraft and Fabric version."
  else if !metadataIssues.isEmpty then
    .str "Some selected mods are missing metadata needed for a safe recommendation."
  else if !unsupported.isEmpty then
    .str "Choose versions that list the selected Minecraft version and Fabric loader before generating the pack."
  else if !dependencyPlan.missingDependencies.isEmpty then
    .str "Add the required dependencies or choose another mod before generating the pack."
  else
    match conflicts with
    | conflict :: _ => conflict.advice
    | [] => .str "Review this combination before recommending it."

structure Report where
  label : RiskLabel
  userLabel : String
  canRecommend : Bool
  canGeneratePack : Bool
  selectedModIds : List (Option Json)
  sideClassifications : List (String × Side)
  metadataIssues : List ModMetadata
  unsupported : List Unsupported
  missingDependencies : List MissingDependency
  automaticAddSuggestions : List Suggestion
  resolvedModIds : List (Option Json)
  conflicts : List Conflict
  advice : Json

/-- The label of a selection whose issues have been gathered. -/
def riskLabel (metadataIssues : List ModMetadata) (unsupported : List Mod) (dependencyPlan : DependencyPlan)
    (conflicts : List Conflict) (selected : List Mod) : RiskLabel :=
  if !metadataIssues.isEmpty || !unsupported.isEmpty || !dependencyPlan.missingDependencies.isEmpty
      || !dependencyPlan.automaticAddSuggestions.isEmpty then .likelyFail
  else if !conflicts.isEmpty || selected.any (fun mod => classifySide mod.record == .unknown) then .caution
  else .highConfidence

def sideClassification (mod : Mod) : Except JsError (String × Side) := do
  let key ← textOf mod.projectId
  .ok (key, classifySide mod.record)

def evaluateCompatibility (selectedMods : List Json) (catalog : List Json := []) (minecraftVersion : Option Json)
    (loader : Json := .str "fabric") (knownConflicts : List Json := []) : Except JsError Report := do
  let selected ← selectedMods.mapM normalizeSelectedMod
  let catalogById ← buildCatalog catalog selected
  let selectedIds := selectedIdsOf selected
  let metadataIssues := (selected.map evaluateModMetadata).filter fun issue => !issue.complete
  let unsupported ← filterThrows (fun mod => do
    let supported ← supportsTarget mod minecraftVersion loader
    .ok !supported) selected
  let dependencyPlan ← resolveDependencyPlan (selected.map Mod.record) (catalogById.values.map Mod.record)
    minecraftVersion loader
  let conflicts ← findKnownConflicts selectedIds knownConflicts
  let label := riskLabel metadataIssues unsupported dependencyPlan conflicts selected
  let sideClassifications ← selected.mapM sideClassification
  let unsupportedReports ← unsupported.mapM (readUnsupported minecraftVersion loader)
  .ok {
    label := label
    userLabel := label.display
    canRecommend := label != .likelyFail
    canGeneratePack := label != .likelyFail
    selectedModIds := selectedIds
    sideClassifications := sideClassifications
    metadataIssues := metadataIssues
    unsupported := unsupportedReports
    missingDependencies := dependencyPlan.missingDependencies
    automaticAddSuggestions := dependencyPlan.automaticAddSuggestions
    resolvedModIds := dependencyPlan.resolvedMods.map Mod.projectId
    conflicts := conflicts
    advice := buildAdvice label metadataIssues unsupported dependencyPlan conflicts }

end EasyMc.Packs
