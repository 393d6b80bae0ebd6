import EasyMc.Packs.Agreement

/-!
# The verdict on a selection

What `evaluateCompatibility` vouches for.  Its verdict is derived from lists of issues: the metadata of the selected mods,
those that do not support the target, the dependencies that are missing or would be added, and the known conflicts.
Each list is empty exactly if nothing is wrong of its kind, and a pack can be generated only if the first
three are (`verdict_sound`).
-/

namespace EasyMc.Packs

open Json (coalesce get isStr sameValueZero includes IdSet)
open Throwing (bind_eq_ok filterThrows_eq_ok)

variable {selectedMods catalog knownConflicts : List Json} {minecraftVersion : Option Json} {loader : Json}
  {report : Report} {mod : Json}

/-! ### Complete metadata -/

/-- A value is given: it is not missing, not `null` and not the empty text. -/
def Given (value : Option Json) : Prop := value ≠ none ∧ value ≠ some .null ∧ value ≠ some (.str "")

/-- A file with an address, both hashes and a size. -/
structure PinnedFile (file : Json) : Prop where
  url : Json.holds (file.member "url") = true
  sha1 : Json.holds (file.path ["hashes", "sha1"]) = true
  sha512 : Json.holds (file.path ["hashes", "sha512"]) = true
  size : Json.isPositiveInteger (file.member "size") = true

structure CompleteMetadata (mod : Json) : Prop where
  provider : Given (sourceProvider mod)
  sourceUrl : Given (sourceUrl mod)
  license : Given (mod.member "license")
  permission : Given (mod.member "permission")
  side : hasCompleteSideMetadata (mod.member "side") = true
  gameVersions : ∃ versions, versionList "gameVersions" mod = some (.arr versions) ∧ versions ≠ []
  loaders : ∃ loaders, versionList "loaders" mod = some (.arr loaders) ∧ loaders ≠ []
  dependencies : ∃ dependencies, versionList "dependencies" mod = some (.arr dependencies)
  files : ∃ files, mod.member "files" = some (.arr files) ∧ files ≠ [] ∧ ∀ file ∈ files, PinnedFile file

theorem requireField_eq_nil_iff {field reason : String} {value : Option Json} :
    requireField field value reason = [] ↔ Given value := by
  unfold requireField Given
  split <;> simp_all

theorem missingUnless_eq_nil_iff {condition : Bool} {field reason : String} :
    missingUnless condition field reason = [] ↔ condition = true := by
  cases condition <;> simp [missingUnless]

theorem isArray_iff {value : Option Json} : isArray value = true ↔ ∃ values, value = some (.arr values) := by
  unfold isArray
  split <;> simp_all

theorem isNonEmptyArray_iff {value : Option Json} :
    isNonEmptyArray value = true ↔ ∃ values, value = some (.arr values) ∧ values ≠ [] := by
  unfold isNonEmptyArray
  split <;> simp_all

theorem missingOfFile_eq_nil_iff {file : Json} {index : Nat} : missingOfFile file index = [] ↔ PinnedFile file := by
  unfold missingOfFile
  simp only [List.append_eq_nil_iff, missingUnless_eq_nil_iff]
  constructor
  · rintro ⟨⟨⟨hurl, hsha1⟩, hsha512⟩, hsize⟩
    exact ⟨hurl, hsha1, hsha512, hsize⟩
  · intro h
    exact ⟨⟨⟨h.url, h.sha1⟩, h.sha512⟩, h.size⟩

/-- Nothing is missing of some files exactly if nothing is missing of each. -/
theorem flatten_missing_eq_nil_iff {missingOf : Json → Nat → List MissingField} {P : Json → Prop}
    (h : ∀ file index, missingOf file index = [] ↔ P file) {files : List Json} :
    (files.zipIdx.map fun entry => missingOf entry.1 entry.2).flatten = [] ↔ ∀ file ∈ files, P file := by
  rw [List.flatten_eq_nil_iff]
  constructor
  · intro hall file hfile
    obtain ⟨index, hindex⟩ := List.mem_iff_getElem?.1 hfile
    have hentry := List.mk_mem_zipIdx_iff_getElem?.2 hindex
    exact (h file index).1 (hall _ (List.mem_map_of_mem hentry))
  · intro hall missing hmissing
    obtain ⟨entry, hentry, rfl⟩ := List.mem_map.1 hmissing
    exact (h _ _).2 (hall _ (List.fst_mem_of_mem_zipIdx hentry))

theorem missingOfFiles_eq_nil_iff {files : Option Json} :
    missingOfFiles files = [] ↔ ∃ values, files = some (.arr values) ∧ values ≠ [] ∧ ∀ file ∈ values, PinnedFile file := by
  unfold missingOfFiles
  split
  · rename_i file rest
    rw [@flatten_missing_eq_nil_iff missingOfFile PinnedFile fun _ _ => missingOfFile_eq_nil_iff]
    simp
  · rename_i hfiles
    simp only [reduceCtorEq, false_iff, not_exists, not_and]
    rintro values rfl hne
    obtain ⟨file, rest, rfl⟩ := List.exists_cons_of_ne_nil hne
    exact absurd rfl (hfiles file rest)

/-- Nothing is missing of a record exactly if its metadata is complete. -/
theorem missingOfMod_eq_nil_iff : missingOfMod (normalized mod) = [] ↔ CompleteMetadata mod := by
  have hside : (hasCompleteSideMetadata (mod.member "side") && hasCompleteSideMetadata (some (sideOf mod))) = true ↔
      hasCompleteSideMetadata (mod.member "side") = true := by
    rw [Bool.and_eq_true]
    exact ⟨fun h => h.1, fun h => ⟨h, hasCompleteSideMetadata_sideOf h⟩⟩
  rw [normalized_eq, missingOfMod_normalizedWith, missingBeforeSide, missingAfterSide]
  simp only [List.append_eq_nil_iff, requireField_eq_nil_iff, missingUnless_eq_nil_iff, hside, isNonEmptyArray_iff,
    isArray_iff, missingOfFiles_eq_nil_iff]
  constructor
  · rintro ⟨⟨⟨⟨⟨hprovider, hurl⟩, hlicense⟩, hpermission⟩, hside⟩, ⟨⟨hversions, hloaders⟩, hdependencies⟩, hfiles⟩
    exact ⟨hprovider, hurl, hlicense, hpermission, hside, hversions, hloaders, hdependencies, hfiles⟩
  · intro h
    exact ⟨⟨⟨⟨⟨h.provider, h.sourceUrl⟩, h.license⟩, h.permission⟩, h.side⟩,
      ⟨⟨h.gameVersions, h.loaders⟩, h.dependencies⟩, h.files⟩

/-! ### Supporting the target -/

/-- The value is an array that has the item in it. -/
def Lists (list item : Option Json) : Prop :=
  ∃ values, list = some (.arr values) ∧ ∃ value ∈ values, sameValueZero (some value) item = true

structure SupportsTarget (mod : Json) (minecraftVersion : Option Json) (loader : Json) : Prop where
  gameVersions : Lists (versionList "gameVersions" mod) minecraftVersion
  loaders : Lists (versionList "loaders" mod) (some loader)

theorem lists_of_includes {list item : Option Json} (harray : ∃ values, list = some (.arr values))
    (h : includes list item = .ok true) : Lists list item := by
  obtain ⟨values, rfl⟩ := harray
  have hany : (values.any fun value => sameValueZero (some value) item) = true := Except.ok.inj h
  obtain ⟨value, hvalue, hsame⟩ := List.any_eq_true.1 hany
  exact ⟨values, rfl, value, hvalue, hsame⟩

theorem supportsTarget_sound (hcomplete : CompleteMetadata mod)
    (h : supportsTarget (normalized mod) minecraftVersion loader = .ok true) :
    SupportsTarget mod minecraftVersion loader := by
  obtain ⟨versions, hversions, -⟩ := hcomplete.gameVersions
  obtain ⟨loaders, hloaders, -⟩ := hcomplete.loaders
  rw [supportsTarget, normalized_eq, versionList_normalizedWith (by simp), versionList_normalizedWith (by simp)] at h
  obtain ⟨supported, hincludes, hrest⟩ := bind_eq_ok.1 h
  by_cases hsupported : supported = true
  · subst hsupported
    exact ⟨lists_of_includes ⟨versions, hversions⟩ hincludes, lists_of_includes ⟨loaders, hloaders⟩ hrest⟩
  · simp [hsupported] at hrest

/-- With lists to look into, whether a mod supports the target can be told. -/
theorem returns_supportsTarget_of_lists {mod : Mod} {versions loaders : List Json}
    (hversions : mod.versionList "gameVersions" = some (.arr versions))
    (hloaders : mod.versionList "loaders" = some (.arr loaders)) :
    Throwing.Returns (supportsTarget mod minecraftVersion loader) := by
  rw [supportsTarget, hversions, hloaders, Throwing.returns_bind_iff]
  refine ⟨_, rfl, ?_⟩
  split
  · exact Throwing.returns_ok _
  · exact Throwing.returns_ok _

/-- Dependencies that are not `null` can be read. -/
theorem returns_requiredDependencies {dependencies : List Json}
    (hlist : versionList "dependencies" mod = some (.arr dependencies))
    (hread : ∀ dependency ∈ dependencies, dependency.isNull = false) :
    Throwing.Returns (requiredDependencies (normalized mod)) := by
  rw [requiredDependencies, normalized_eq, versionList_normalizedWith (by simp), hlist]
  refine ⟨_, filterThrows_eq_ok.2 ⟨fun dependency hdependency => ?_, rfl⟩⟩
  rw [hread dependency hdependency]
  exact Throwing.returns_ok _

/-! ### Sides and conflicts -/

/-- Both sides are given, and one of them runs the mod. -/
structure SideDecided (mod : Json) : Prop where
  given : hasCompleteSideMetadata (mod.member "side") = true
  runs : ¬ (isStr "unsupported" (mod.path ["side", "client"]) = true ∧
    isStr "unsupported" (mod.path ["side", "server"]) = true)

/-- A mod whose side is classified has it decided. -/
theorem sideDecided_of_classifySide (hgiven : hasCompleteSideMetadata (mod.member "side") = true)
    (h : classifySide (normalized mod).record ≠ .unknown) : SideDecided mod := by
  refine ⟨hgiven, ?_⟩
  rintro ⟨hclient, hserver⟩
  apply h
  have hside : (normalized (normalized mod).record).record.member "side" = some (sideOf mod) := by
    rw [normalized_eq mod, normalized_record, side_normalizedWith]
  have hclientText : mod.path ["side", "client"] = some (.str "unsupported") := by
    unfold isStr at hclient
    split at hclient <;> simp_all
  have hserverText : mod.path ["side", "server"] = some (.str "unsupported") := by
    unfold isStr at hserver
    split at hserver <;> simp_all
  unfold classifySide
  split
  · rfl
  · have hclientOf : (sideOf mod).member "client" = some (.str "unsupported") := by
      rw [member_sideOf_client, hclientText]
      rfl
    have hserverOf : (sideOf mod).member "server" = some (.str "unsupported") := by
      rw [member_sideOf_server, hserverText]
      rfl
    rw [hside]
    simp only [Json.get_some, hclientOf, hserverOf]
    rfl

/-- What is known to be in conflict does not lie inside the selection. -/
def ConflictsOutside (knownConflicts : List Json) (selected : List Mod) : Prop :=
  ∀ known ∈ knownConflicts, ∃ conflict, readConflict known = .ok conflict ∧
    ∃ modId ∈ conflict.mods, ¬ HasId selected modId

theorem conflictsOutside_of_findKnownConflicts {selected : List Mod}
    (h : findKnownConflicts (selectedIdsOf selected) knownConflicts = .ok []) :
    ConflictsOutside knownConflicts selected := by
  obtain ⟨conflicts, hconflicts, hnone⟩ := bind_eq_ok.1 h
  have hfilter := List.filter_eq_nil_iff.1 (Except.ok.inj hnone)
  intro known hknown
  obtain ⟨conflict, hconflict, hread⟩ := Throwing.exists_of_mapM_eq_ok hconflicts hknown
  refine ⟨conflict, hread, ?_⟩
  have hnot := hfilter conflict hconflict
  rw [List.all_eq_true] at hnot
  simp only [not_forall] at hnot
  obtain ⟨modId, hmodId, hhas⟩ := hnot
  exact ⟨modId, hmodId, fun hid => hhas (has_selectedIdsOf.2 hid)⟩

/-! ### The verdict -/

/-- A selection that a pack can be generated from. -/
structure Admissible (selectedMods : List Json) (minecraftVersion : Option Json) (loader : Json) : Prop where
  complete : ∀ mod ∈ selectedMods, CompleteMetadata mod
  supported : ∀ mod ∈ selectedMods, SupportsTarget mod minecraftVersion loader
  dependencies : ∀ mod ∈ selectedMods, ∀ id, Requires (normalized mod) id → HasId (selectedMods.map normalized) id

/-- What the selected mods require is selected, if the plan of a report has nothing missing and adds nothing. -/
theorem hasId_of_requires {selected : List Mod} {plan : DependencyPlan} (hnormal : ∀ mod ∈ selected, Normal mod)
    (hplan : resolveDependencyPlan (selected.map Mod.record) catalog minecraftVersion loader = .ok plan)
    (hmissing : plan.missingDependencies = []) (hadded : plan.automaticAddSuggestions = []) :
    ∀ mod ∈ selected, ∀ id, Requires mod id → HasId selected id := by
  obtain ⟨progress, hloop, -, -, hsuggestions, hnone⟩ := resolveDependencyPlan_ok hplan
  have hgathered := gathered_requirements hloop
  rintro mod hmod id ⟨dependency, hdependency, rfl⟩
  have hrequirement : (renormalized mod, dependency) ∈ requirements (reselected selected) := by
    rw [mem_requirements, reselected_eq, (hnormal mod hmod).requiredOf]
    exact ⟨List.mem_map_of_mem hmod, hdependency⟩
  have hhas := hgathered.handled (by rw [← hnone, hmissing]) _ hrequirement
  rw [hgathered.ids, ← hsuggestions, hadded] at hhas
  rcases hhas with hselected | ⟨suggestion, hsuggestion, -⟩
  · change (selectedIdsOf (reselected selected)).has _ = true at hselected
    rw [selectedIdsOf_reselected hnormal] at hselected
    exact has_selectedIdsOf.1 hselected
  · cases hsuggestion

theorem riskLabel_ne_likelyFail {metadataIssues : List ModMetadata} {unsupported selected : List Mod}
    {plan : DependencyPlan} {conflicts : List Conflict}
    (h : riskLabel metadataIssues unsupported plan conflicts selected ≠ .likelyFail) :
    metadataIssues = [] ∧ unsupported = [] ∧ plan.missingDependencies = [] ∧ plan.automaticAddSuggestions = [] := by
  unfold riskLabel at h
  split at h
  · exact absurd rfl h
  · rename_i hnone
    simpa [and_assoc] using hnone

theorem riskLabel_eq_highConfidence {metadataIssues : List ModMetadata} {unsupported selected : List Mod}
    {plan : DependencyPlan} {conflicts : List Conflict}
    (h : riskLabel metadataIssues unsupported plan conflicts selected = .highConfidence) :
    conflicts = [] ∧ ∀ mod ∈ selected, classifySide mod.record ≠ .unknown := by
  unfold riskLabel at h
  split at h
  · cases h
  · split at h
    · cases h
    · rename_i hnone
      simpa using hnone

/-- A selection that a report does not expect to fail. -/
theorem admissible_of_label
    (h : evaluateCompatibility selectedMods catalog minecraftVersion loader knownConflicts = .ok report)
    (hlabel : report.label ≠ .likelyFail) : Admissible selectedMods minecraftVersion loader := by
  obtain ⟨plan, unsupported, conflicts, hreport⟩ := evaluateCompatibility_ok h
  rw [hreport.label] at hlabel
  obtain ⟨hissues, hunsupported, hmissing, hadded⟩ := riskLabel_ne_likelyFail hlabel
  have hcomplete : ∀ mod ∈ selectedMods, CompleteMetadata mod := by
    intro mod hmod
    rw [List.filter_eq_nil_iff] at hissues
    have hnone := hissues _ (List.mem_map_of_mem (List.mem_map_of_mem (f := normalized) hmod))
    have hnil : missingOfMod (normalized mod) = [] := by simpa [evaluateModMetadata] using hnone
    exact missingOfMod_eq_nil_iff.1 hnil
  refine ⟨hcomplete, ?_, ?_⟩
  · intro mod hmod
    obtain ⟨hreturns, hkept⟩ := filterThrows_eq_ok.1 hreport.unsupportedRead
    have hmem : normalized mod ∈ selectedMods.map normalized := List.mem_map_of_mem hmod
    obtain ⟨answer, hanswer⟩ := hreturns _ hmem
    obtain ⟨supported, hsupports, hnot⟩ := bind_eq_ok.1 hanswer
    -- The filter that looks for unsupported mods has kept none.
    rw [hunsupported] at hkept
    have hfilter := List.filter_eq_nil_iff.1 hkept.symm _ hmem
    rw [hsupports] at hfilter
    have htrue : supported = true := by simpa [Throwing.answersTrue] using hfilter
    subst htrue
    exact supportsTarget_sound (hcomplete mod hmod) hsupports
  · intro mod hmod id hrequires
    have hnormal : ∀ mod ∈ selectedMods.map normalized, Normal mod := by
      intro mod hmod
      obtain ⟨record, -, rfl⟩ := List.mem_map.1 hmod
      exact normal_normalized record
    exact hasId_of_requires hnormal hreport.planRead hmissing hadded (normalized mod) (List.mem_map_of_mem hmod) id
      hrequires

/-- A pack can be generated from a selection only if it is admissible, and the confidence is high only if, moreover,
every side is decided and no known conflict lies inside. -/
theorem verdict_sound
    (h : evaluateCompatibility selectedMods catalog minecraftVersion loader knownConflicts = .ok report) :
    (report.canGeneratePack = true → Admissible selectedMods minecraftVersion loader) ∧
      (report.label = .highConfidence →
        Admissible selectedMods minecraftVersion loader ∧ (∀ mod ∈ selectedMods, SideDecided mod) ∧
          ConflictsOutside knownConflicts (selectedMods.map normalized)) := by
  obtain ⟨plan, unsupported, conflicts, hreport⟩ := evaluateCompatibility_ok h
  constructor
  · intro hcan
    rw [hreport.canGeneratePack] at hcan
    exact admissible_of_label h (by simpa using hcan)
  · intro hlabel
    have hadmissible := admissible_of_label h (by simp [hlabel])
    rw [hreport.label] at hlabel
    obtain ⟨hconflicts, hsides⟩ := riskLabel_eq_highConfidence hlabel
    refine ⟨hadmissible, ?_, ?_⟩
    · intro mod hmod
      exact sideDecided_of_classifySide (hadmissible.complete mod hmod).side
        (hsides (normalized mod) (List.mem_map_of_mem hmod))
    · have hread := hreport.conflictsRead
      rw [hconflicts] at hread
      exact conflictsOutside_of_findKnownConflicts hread

/-- Two mods that are complete, one of which requires the other. -/
theorem verdict_sound_lithium :
    ∃ report, evaluateCompatibility [curatedMod "lithium" ["fabric-api"], curatedMod "fabric-api" []] []
        (some (.str "1.20.1")) (.str "fabric") [.obj [("a", .str "lithium"), ("b", .str "sodium")]] = .ok report ∧
      report.label = .highConfidence ∧
      Admissible [curatedMod "lithium" ["fabric-api"], curatedMod "fabric-api" []] (some (.str "1.20.1"))
        (.str "fabric") := by
  obtain ⟨report, hreport, hlabel⟩ := Throwing.exists_ok_of_test
    (p := fun report : Report => report.label = .highConfidence)
    (x := evaluateCompatibility [curatedMod "lithium" ["fabric-api"], curatedMod "fabric-api" []] []
      (some (.str "1.20.1")) (.str "fabric") [.obj [("a", .str "lithium"), ("b", .str "sodium")]]) (by decide +kernel)
  exact ⟨report, hreport, hlabel, ((verdict_sound hreport).2 hlabel).1⟩

end EasyMc.Packs
