import EasyMc.Packs.DependencyPlan
import EasyMc.Packs.Renormalizing

/-!
# One plan and the plan in a report

`evaluateCompatibility` asks `resolveDependencyPlan` about records that are normalised already.  There the catalog
holds, under every id that is not selected, the normalised record of the catalog of a direct call
(`get_renormalized`).  The two runs stay in step as long as normalising again does not make an incomplete side
complete; where it does, a direct call reports the mod as incomplete and the report does not.  They
agree exactly if this happens to no mod that is asked for (`reports_agree_iff`).
-/

namespace EasyMc.Packs

open Json (sameValueZero textOf IdSet IdMap)
open Throwing (JsError Returns bind_eq_ok foldlM_invariant)

variable {selectedMods catalog : List Json} {minecraftVersion : Option Json} {loader : Json}
  {selected : List Mod} {mod candidate : Mod} {progress progress' : Progress} {id : Option Json}

/-! ### Normalised records -/

/-- A record that normalising gives. -/
def Normal (mod : Mod) : Prop := ∃ complete record, mod = normalizedWith complete record

def renormalized (mod : Mod) : Mod := normalized mod.record

theorem normal_normalized (record : Json) : Normal (normalized record) := ⟨_, record, normalized_eq record⟩

theorem Normal.projectId (h : Normal mod) : (renormalized mod).projectId = mod.projectId := by
  obtain ⟨complete, record, rfl⟩ := h
  rw [renormalized, normalized_record, projectId_normalizedWith, projectId_normalizedWith]

theorem Normal.title (h : Normal mod) : (renormalized mod).title = mod.title := by
  obtain ⟨complete, record, rfl⟩ := h
  rw [renormalized, normalized_record, title_normalizedWith, title_normalizedWith]

theorem Normal.versionList (h : Normal mod) {key : String} (hkey : key ∈ ["gameVersions", "loaders", "dependencies"]) :
    (renormalized mod).versionList key = mod.versionList key := by
  obtain ⟨complete, record, rfl⟩ := h
  rw [renormalized, normalized_record, versionList_normalizedWith hkey, versionList_normalizedWith hkey]

theorem normal_renormalized (mod : Mod) : Normal (renormalized mod) := normal_normalized _

theorem Normal.requiredDependencies (h : Normal mod) :
    requiredDependencies (renormalized mod) = requiredDependencies mod := by
  rw [Packs.requiredDependencies, h.versionList (by simp), Packs.requiredDependencies]

theorem Normal.requiredOf (h : Normal mod) : requiredOf (renormalized mod) = requiredOf mod := by
  rw [Packs.requiredOf, h.versionList (by simp), Packs.requiredOf]

theorem Normal.supportsTarget (h : Normal mod) :
    supportsTarget (renormalized mod) minecraftVersion loader = supportsTarget mod minecraftVersion loader := by
  rw [Packs.supportsTarget, h.versionList (by simp), h.versionList (by simp), Packs.supportsTarget]

/-- Normalising the record again makes its incomplete side complete. -/
def SideFilledIn (mod : Mod) : Prop :=
  hasExplicitSide mod.record = false ∧ Packs.hasCompleteSideMetadata (mod.record.member "side") = true

instance (mod : Mod) : Decidable (SideFilledIn mod) := inferInstanceAs (Decidable (_ ∧ _))

/-- A record whose side is not filled in stays as it is. -/
theorem renormalized_of_not_sideFilledIn {record : Json} (h : ¬ SideFilledIn (normalized record)) :
    renormalized (normalized record) = normalized record := by
  rw [renormalized, normalized_eq record, normalized_record]
  congr 1
  rw [SideFilledIn, normalized_eq, side_normalizedWith, hasExplicitSide_normalizedWith] at h
  cases hcomplete : hasCompleteSideMetadata (record.member "side") with
  | true => exact hasCompleteSideMetadata_sideOf hcomplete
  | false =>
    rw [hcomplete] at h
    simpa using h

/-- A record whose side is filled in has one issue fewer. -/
theorem missingOfMod_of_sideFilledIn (h : Normal mod) (hfilled : SideFilledIn mod) :
    (missingOfMod mod).length = (missingOfMod (renormalized mod)).length + 1 := by
  obtain ⟨complete, record, rfl⟩ := h
  rw [SideFilledIn, hasExplicitSide_normalizedWith, side_normalizedWith] at hfilled
  rw [renormalized, normalized_record, missingOfMod_normalizedWith, missingOfMod_normalizedWith, hfilled.1, hfilled.2]
  simp [missingUnless]
  omega

theorem missingOfMod_renormalized_of_nil {record : Json} (h : missingOfMod (normalized record) = []) :
    missingOfMod (renormalized (normalized record)) = [] := by
  by_cases hfilled : SideFilledIn (normalized record)
  · have hlength := missingOfMod_of_sideFilledIn (normal_normalized record) hfilled
    rw [h] at hlength
    simp at hlength
  · rw [renormalized_of_not_sideFilledIn hfilled, h]

/-! ### The two catalogs -/

/-- The selected mods as they stand in the plan of a report. -/
def reselected (selected : List Mod) : List Mod := (selected.map Mod.record).map normalized

theorem reselected_eq (selected : List Mod) : reselected selected = selected.map renormalized := List.map_map

/-- The catalog as it stands in the plan of a report. -/
def recatalogOf (catalog : List Json) (selected : List Mod) : IdMap Mod :=
  catalogOf ((catalogOf catalog selected).values.map Mod.record) (reselected selected)

/-- What stands in a catalog is a normalised record, under its id. -/
theorem mem_catalogOf {entry : Option Json × Mod} (h : entry ∈ (catalogOf catalog selected).entries) :
    entry.1 = entry.2.projectId ∧ ∃ record, entry.2 = normalized record := by
  have hmem := IdMap.mem_ofList h
  rw [List.mem_map] at hmem
  obtain ⟨found, hfound, rfl⟩ := hmem
  obtain ⟨record, -, rfl⟩ := List.mem_map.1 hfound
  exact ⟨rfl, record, rfl⟩

theorem get_catalogOf_normalized (h : (catalogOf catalog selected).get id = some candidate) :
    ∃ record, candidate = normalized record := by
  obtain ⟨entry, hfind, rfl⟩ := Option.map_eq_some_iff.1 h
  exact (mem_catalogOf (List.mem_of_find?_eq_some hfind)).2

/-- Under an id that is not selected, the catalog of a report holds the record of the catalog, normalised again. -/
theorem get_renormalized (hnormal : ∀ mod ∈ selected, Normal mod) (hid : ¬ HasId selected id) :
    (recatalogOf catalog selected).get id = ((catalogOf catalog selected).get id).map renormalized := by
  have hvalues : ((catalogOf catalog selected).values.map Mod.record ++ (reselected selected).map Mod.record).map
      normalized = (catalogOf catalog selected).values.map renormalized ++ (reselected selected).map renormalized := by
    rw [List.map_append, List.map_map, List.map_map]
    rfl
  have hkey : ∀ entry ∈ (catalogOf catalog selected).entries, (renormalized entry.2).projectId = entry.1 := by
    intro entry hentry
    obtain ⟨hid, record, hrecord⟩ := mem_catalogOf hentry
    rw [hid, hrecord]
    exact (normal_normalized record).projectId
  have hothers : ∀ mod ∈ (reselected selected).map renormalized, ¬ sameValueZero mod.projectId id = true := by
    intro mod hmod hsame
    rw [reselected_eq, List.map_map] at hmod
    obtain ⟨original, horiginal, rfl⟩ := List.mem_map.1 hmod
    have hnormal := hnormal original horiginal
    rw [Function.comp_apply, (normal_renormalized original).projectId, hnormal.projectId] at hsame
    exact hid ⟨original, horiginal, hsame⟩
  rw [recatalogOf, catalogOf, hvalues]
  exact IdMap.get_ofList_values hkey hothers

theorem supportedCandidate_renormalized (hnormal : ∀ mod ∈ selected, Normal mod) (hid : ¬ HasId selected id) :
    supportedCandidate (recatalogOf catalog selected) minecraftVersion loader id =
      (supportedCandidate (catalogOf catalog selected) minecraftVersion loader id).map (Option.map renormalized) := by
  unfold supportedCandidate
  rw [get_renormalized hnormal hid]
  cases hget : (catalogOf catalog selected).get id with
  | none => rfl
  | some candidate =>
    obtain ⟨record, rfl⟩ := get_catalogOf_normalized hget
    dsimp only [Option.map_some]
    rw [(normal_normalized record).supportsTarget]
    cases supportsTarget (normalized record) minecraftVersion loader with
    | error e => rfl
    | ok supported => cases supported <;> rfl

theorem supportedCandidate_of_renormalized (hnormal : ∀ mod ∈ selected, Normal mod) (hid : ¬ HasId selected id)
    {found : Option Mod}
    (h : supportedCandidate (recatalogOf catalog selected) minecraftVersion loader id = .ok found) :
    ∃ original, supportedCandidate (catalogOf catalog selected) minecraftVersion loader id = .ok original ∧
      found = original.map renormalized := by
  rw [supportedCandidate_renormalized hnormal hid] at h
  cases horiginal : supportedCandidate (catalogOf catalog selected) minecraftVersion loader id with
  | error e => simp [horiginal, Except.map] at h
  | ok original =>
    rw [horiginal] at h
    exact ⟨original, rfl, (Except.ok.inj h).symm⟩

/-! ### The two runs -/

theorem selectedIdsOf_reselected (hnormal : ∀ mod ∈ selected, Normal mod) :
    selectedIdsOf (reselected selected) = selectedIdsOf selected := by
  rw [selectedIdsOf, reselected_eq, List.map_map, selectedIdsOf]
  congr 1
  exact List.map_congr_left fun mod hmod => (hnormal mod hmod).projectId

theorem requirements_reselected (hnormal : ∀ mod ∈ selected, Normal mod) :
    requirements (reselected selected) = (requirements selected).map fun r => (renormalized r.1, r.2) := by
  rw [reselected_eq]
  induction selected with
  | nil => rfl
  | cons mod selected ih =>
    have hrest := ih fun mod hmod => hnormal mod (by simp [hmod])
    rw [requirements] at hrest ⊢
    rw [List.map_cons, List.flatMap_cons, hrest, requirements, requirements, List.flatMap_cons, List.map_append,
      (hnormal mod (by simp)).requiredOf, List.map_map]
    rfl

/-- The run of a report is ahead of that of a direct call by mods whose side it has filled in. -/
structure InStep (catalog : List Json) (selected : List Mod) (minecraftVersion : Option Json) (loader : Json)
    (progress progress' : Progress) : Prop where
  chosen : ∀ id, HasId selected id → progress.selectedIds.has id = true
  le : ∀ id, progress.selectedIds.has id = true → progress'.selectedIds.has id = true
  ahead : ∀ id, progress'.selectedIds.has id = true → ¬ progress.selectedIds.has id = true →
    ∃ candidate, supportedCandidate (catalogOf catalog selected) minecraftVersion loader id = .ok (some candidate) ∧
      missingOfMod candidate ≠ [] ∧ Returns (textOf candidate.title)

section InStep

variable {report report' : Progress} {dependency : Json}

/-- Missing dependencies do not matter to how far the runs are. -/
theorem InStep.congr {progress₁ report₁ : Progress} (h : InStep catalog selected minecraftVersion loader progress report)
    (hids : progress₁.selectedIds = progress.selectedIds) (hids' : report₁.selectedIds = report.selectedIds) :
    InStep catalog selected minecraftVersion loader progress₁ report₁ := by
  constructor
  · rw [hids]
    exact h.chosen
  · rw [hids, hids']
    exact h.le
  · rw [hids, hids']
    exact h.ahead

/-- The mod of a requirement is added in both runs. -/
theorem InStep.add_both (h : InStep catalog selected minecraftVersion loader progress report) (id : Option Json)
    (suggestions suggestions' : List Suggestion) :
    InStep catalog selected minecraftVersion loader
      { progress with automaticAddSuggestions := suggestions, selectedIds := progress.selectedIds.add id }
      { report with automaticAddSuggestions := suggestions', selectedIds := report.selectedIds.add id } := by
  constructor
  · intro id' hid'
    exact IdSet.has_add.2 (.inl (h.chosen id' hid'))
  · intro id' hid'
    rcases IdSet.has_add.1 hid' with hid' | hsame
    · exact IdSet.has_add.2 (.inl (h.le id' hid'))
    · exact IdSet.has_add.2 (.inr hsame)
  · intro id' hid' hnot
    rw [IdSet.has_add, not_or] at hnot
    rcases IdSet.has_add.1 hid' with hid' | hsame
    · exact h.ahead id' hid' hnot.1
    · exact absurd hsame hnot.2

/-- The mod of a requirement is added in the run of the report only. -/
theorem InStep.add_report (h : InStep catalog selected minecraftVersion loader progress report) {id : Option Json}
    (hcandidate : supportedCandidate (catalogOf catalog selected) minecraftVersion loader id = .ok (some candidate))
    (hincomplete : missingOfMod candidate ≠ []) (htext : Returns (textOf candidate.title))
    (hsame : ∀ id', sameValueZero candidate.projectId id' = true → id' = id)
    (missing : List MissingDependency) (suggestions : List Suggestion) :
    InStep catalog selected minecraftVersion loader { progress with missingDependencies := missing }
      { report with
        automaticAddSuggestions := suggestions, selectedIds := report.selectedIds.add candidate.projectId } := by
  refine ⟨h.chosen, ?_, ?_⟩
  · intro id' hid'
    exact IdSet.has_add.2 (.inl (h.le id' hid'))
  · intro id' hid' hnot
    rcases IdSet.has_add.1 hid' with hid' | hid'
    · exact h.ahead id' hid' hnot
    · obtain rfl := hsame id' hid'
      exact ⟨candidate, hcandidate, hincomplete, htext⟩

theorem InStep.step (hnormal : ∀ mod ∈ selected, Normal mod) (hmod : Normal mod)
    (h : InStep catalog selected minecraftVersion loader progress report)
    (hstep : resolveDependency (recatalogOf catalog selected) minecraftVersion loader (renormalized mod) report dependency =
      .ok report') :
    ∃ progress', resolveDependency (catalogOf catalog selected) minecraftVersion loader mod progress dependency =
      .ok progress' ∧ InStep catalog selected minecraftVersion loader progress' report' := by
  by_cases hhas : progress.selectedIds.has (dependency.member "projectId") = true
  · -- The direct call skips the requirement, and so does the report.
    rw [resolveDependency_present (h.le _ hhas)] at hstep
    cases hstep
    exact ⟨progress, resolveDependency_present hhas, h⟩
  · have hunselected : ¬ HasId selected (dependency.member "projectId") := fun hid => hhas (h.chosen _ hid)
    have hresolved := resolveDependency_resolved hstep
    rw [hmod.title] at hresolved
    cases hresolved with
    | present hreport =>
      -- The report has filled in the side of a mod that the direct call finds incomplete once more.
      obtain ⟨candidate, hcandidate, hincomplete, htext⟩ := h.ahead _ hreport hhas
      obtain ⟨missing, hdirect⟩ := resolveDependency_incomplete hhas hcandidate hincomplete htext
      exact ⟨_, hdirect, h.congr rfl rfl⟩
    | absent _ hfound htitle =>
      obtain ⟨original, horiginal, hnone⟩ := supportedCandidate_of_renormalized hnormal hunselected hfound
      have heq : original = none := Option.map_eq_none_iff.1 hnone.symm
      subst heq
      obtain ⟨missing, hdirect⟩ := resolveDependency_absent hhas horiginal htitle
      exact ⟨_, hdirect, h.congr rfl rfl⟩
    | incomplete _ hfound hincomplete htext =>
      obtain ⟨original, horiginal, hsome⟩ := supportedCandidate_of_renormalized hnormal hunselected hfound
      obtain ⟨candidate, rfl, rfl⟩ := Option.map_eq_some_iff.1 hsome.symm
      obtain ⟨record, rfl⟩ := get_catalogOf_normalized (supportedCandidate_some horiginal).1
      have hmissing : missingOfMod (normalized record) ≠ [] :=
        fun hnil => hincomplete (missingOfMod_renormalized_of_nil hnil)
      rw [(normal_normalized record).title] at htext
      obtain ⟨missing, hdirect⟩ := resolveDependency_incomplete hhas horiginal hmissing htext
      exact ⟨_, hdirect, h.congr rfl rfl⟩
    | added _ hfound hcomplete htitle htext =>
      obtain ⟨original, horiginal, hsome⟩ := supportedCandidate_of_renormalized hnormal hunselected hfound
      obtain ⟨candidate, rfl, rfl⟩ := Option.map_eq_some_iff.1 hsome.symm
      have hget := (supportedCandidate_some horiginal).1
      obtain ⟨record, rfl⟩ := get_catalogOf_normalized hget
      rw [(normal_normalized record).title] at htext
      rw [(normal_normalized record).projectId]
      -- The report adds the mod; the direct call does too, unless the mod was complete only after the filling in.
      by_cases hmissing : missingOfMod (normalized record) = []
      · obtain ⟨suggestion, hdirect⟩ := resolveDependency_added hhas horiginal hmissing htitle htext
        exact ⟨_, hdirect, h.add_both _ _ _⟩
      · obtain ⟨missing, hdirect⟩ := resolveDependency_incomplete hhas horiginal hmissing htext
        have hid := Json.sameValueZero_eq (get_catalogOf hget)
        refine ⟨_, hdirect, h.add_report horiginal hmissing htext ?_ _ _⟩
        intro id' hsame
        rw [← Json.sameValueZero_eq hsame, hid]

end InStep

/-- One pass of the loop of a report, over the requirements of a direct call. -/
def reportStep (catalog : List Json) (selected : List Mod) (minecraftVersion : Option Json) (loader : Json)
    (progress : Progress) (requirement : Mod × Json) : Except JsError Progress :=
  resolveDependency (recatalogOf catalog selected) minecraftVersion loader (renormalized requirement.1) progress
    requirement.2

/-- The loop of a report, over the requirements of a direct call. -/
theorem resolveAll_reselected (hnormal : ∀ mod ∈ selected, Normal mod) :
    resolveAll (recatalogOf catalog selected) minecraftVersion loader (startOf (reselected selected))
        (requirements (reselected selected)) =
      (requirements selected).foldlM (reportStep catalog selected minecraftVersion loader) (startOf selected) := by
  rw [resolveAll, requirements_reselected hnormal, List.foldlM_map, startOf, selectedIdsOf_reselected hnormal]
  rfl

theorem normal_of_mem_requirements (hnormal : ∀ mod ∈ selected, Normal mod) {requirement : Mod × Json}
    (h : requirement ∈ requirements selected) : Normal requirement.1 :=
  hnormal requirement.1 (mem_requirements.1 h).1

/-- A direct call returns whenever the plan of a report does. -/
theorem resolveAll_returns (hnormal : ∀ mod ∈ selected, Normal mod)
    (h : (requirements selected).foldlM (reportStep catalog selected minecraftVersion loader) (startOf selected) =
      .ok progress) :
    ∃ progress', resolveAll (catalogOf catalog selected) minecraftVersion loader (startOf selected)
      (requirements selected) = .ok progress' := by
  have hstart : InStep catalog selected minecraftVersion loader (startOf selected) (startOf selected) :=
    ⟨fun _ hid => has_selectedIdsOf.2 hid, fun _ hid => hid, fun _ hid hnot => absurd hid hnot⟩
  obtain ⟨progress', hprogress', -⟩ := Throwing.foldlM_simulation
    (f := fun progress requirement =>
      resolveDependency (catalogOf catalog selected) minecraftVersion loader requirement.1 progress requirement.2)
    (InStep catalog selected minecraftVersion loader)
    (fun requirement hrequirement _ _ _ hR hstep =>
      hR.step hnormal (normal_of_mem_requirements hnormal hrequirement) hstep) hstart h
  exact ⟨progress', hprogress'⟩

/-! ### In step -/

/-- No mod that is asked for has its side filled in. -/
def SidesStand (catalog : List Json) (selected : List Mod) (minecraftVersion : Option Json) (loader : Json) : Prop :=
  ∀ mod ∈ selected, ∀ id, Requires mod id → ¬ HasId selected id →
    ∀ candidate, supportedCandidate (catalogOf catalog selected) minecraftVersion loader id = .ok (some candidate) →
      ¬ SideFilledIn candidate

theorem supportedCandidate_eq (hnormal : ∀ mod ∈ selected, Normal mod) (hid : ¬ HasId selected id)
    (hstands : ∀ candidate, supportedCandidate (catalogOf catalog selected) minecraftVersion loader id =
      .ok (some candidate) → ¬ SideFilledIn candidate) :
    supportedCandidate (recatalogOf catalog selected) minecraftVersion loader id =
      supportedCandidate (catalogOf catalog selected) minecraftVersion loader id := by
  rw [supportedCandidate_renormalized hnormal hid]
  cases hfound : supportedCandidate (catalogOf catalog selected) minecraftVersion loader id with
  | error e => rfl
  | ok found =>
    cases found with
    | none => rfl
    | some candidate =>
      have hnot := hstands candidate hfound
      obtain ⟨record, rfl⟩ := get_catalogOf_normalized (supportedCandidate_some hfound).1
      rw [Except.map, Option.map_some, renormalized_of_not_sideFilledIn hnot]

/-- The selected mods stay selected. -/
theorem chosen_step {catalogById : IdMap Mod} {title : Option Json}
    (hchosen : ∀ id, HasId selected id → progress.selectedIds.has id = true)
    (hstep : Resolved catalogById minecraftVersion loader title id progress progress') :
    ∀ id, HasId selected id → progress'.selectedIds.has id = true := by
  intro id' hid'
  cases hstep with
  | present => exact hchosen id' hid'
  | incomplete => exact hchosen id' hid'
  | absent => exact hchosen id' hid'
  | added => exact IdSet.has_add.2 (.inl (hchosen id' hid'))

/-- With no side filled in, the two runs are one. -/
theorem resolveAll_eq (hnormal : ∀ mod ∈ selected, Normal mod)
    (hstands : SidesStand catalog selected minecraftVersion loader) :
    resolveAll (catalogOf catalog selected) minecraftVersion loader (startOf selected) (requirements selected) =
      (requirements selected).foldlM (reportStep catalog selected minecraftVersion loader) (startOf selected) := by
  refine Throwing.foldlM_congr (fun progress => ∀ id, HasId selected id → progress.selectedIds.has id = true) ?_ ?_ ?_
  · intro progress progress' requirement hchosen hstep
    exact chosen_step hchosen (resolveDependency_resolved hstep)
  · exact fun _ hid => has_selectedIdsOf.2 hid
  · intro progress hchosen requirement hrequirement
    obtain ⟨mod, dependency⟩ := requirement
    have hmem := mem_requirements.1 hrequirement
    have hmod := hnormal mod hmem.1
    unfold reportStep
    dsimp only
    by_cases hhas : progress.selectedIds.has (dependency.member "projectId") = true
    · rw [resolveDependency_present hhas, resolveDependency_present hhas]
    · have hunselected : ¬ HasId selected (dependency.member "projectId") := fun hid => hhas (hchosen _ hid)
      have hcandidate := supportedCandidate_eq hnormal hunselected
        (hstands mod hmem.1 _ ⟨dependency, hmem.2, rfl⟩ hunselected)
      rw [resolveDependency_of_not_has hhas, resolveDependency_of_not_has hhas, hcandidate, hmod.title, hmod.projectId]

/-! ### Out of step -/

section OutOfStep

variable (hid : ¬ HasId selected id)
  (hcandidate : supportedCandidate (catalogOf catalog selected) minecraftVersion loader id = .ok (some candidate))

/-- A direct call reports an incomplete mod whenever it is asked for. -/
structure ReportsIncomplete (candidate : Mod) (id : Option Json) (done : List (Mod × Json)) (progress : Progress) :
    Prop where
  unadded : ¬ progress.selectedIds.has id = true
  reported : ∀ requirement ∈ done, requirement.2.member "projectId" = id →
    ∃ missing ∈ progress.missingDependencies,
      missing.projectId = id ∧ missing.metadataIssues = some (missingOfMod candidate)

include hcandidate in
theorem ReportsIncomplete.step (hincomplete : missingOfMod candidate ≠ []) {done : List (Mod × Json)}
    {requirement : Mod × Json} (h : ReportsIncomplete candidate id done progress)
    (hstep : Resolved (catalogOf catalog selected) minecraftVersion loader requirement.1.title
      (requirement.2.member "projectId") progress progress') :
    ReportsIncomplete candidate id (done ++ [requirement]) progress' := by
  have hdone : ∀ missing, requirement.2.member "projectId" ≠ id → ReportsIncomplete candidate id (done ++ [requirement])
      { progress with missingDependencies := progress.missingDependencies ++ missing } := by
    intro missing hne
    refine ⟨h.unadded, fun asked hasked heq => ?_⟩
    rcases List.mem_append.1 hasked with hasked | hasked
    · obtain ⟨old, hold, hissues⟩ := h.reported asked hasked heq
      exact ⟨old, List.mem_append_left _ hold, hissues⟩
    · obtain rfl := List.mem_singleton.1 hasked
      exact absurd heq hne
  by_cases heq : requirement.2.member "projectId" = id
  · rw [heq] at hstep
    cases hstep with
    | present hhas => exact absurd hhas h.unadded
    | absent _ hfound => simp [hcandidate] at hfound
    | added _ hfound hcomplete =>
      rw [hcandidate] at hfound
      cases hfound
      exact absurd hcomplete hincomplete
    | @incomplete found missing _ hfound _ _ hmissing hissues =>
      rw [hcandidate] at hfound
      cases hfound
      refine ⟨h.unadded, fun _ _ _ => ⟨missing, by simp, hmissing, hissues⟩⟩
  · cases hstep with
    | present => simpa using hdone [] heq
    | absent => exact hdone _ heq
    | incomplete => exact hdone _ heq
    | @added found suggestion _ hfound _ _ _ hsuggestion =>
      have hsame := Json.sameValueZero_eq (get_catalogOf (supportedCandidate_some hfound).1)
      have hnone := hdone [] heq
      refine ⟨?_, by simpa using hnone.reported⟩
      intro hhas
      rcases IdSet.has_add.1 hhas with hhas | hhas
      · exact h.unadded hhas
      · exact heq (hsame.symm.trans (Json.sameValueZero_eq hhas))

/-- The run of a report does not report the mod with these issues. -/
def NotReported (candidate : Mod) (id : Option Json) (progress : Progress) : Prop :=
  ∀ missing ∈ progress.missingDependencies, missing.projectId = id →
    missing.metadataIssues ≠ some (missingOfMod candidate)

include hid hcandidate in
theorem NotReported.step (hnormal : ∀ mod ∈ selected, Normal mod) (hfilled : SideFilledIn candidate)
    {title dependencyId : Option Json} (h : NotReported candidate id progress)
    (hstep : Resolved (recatalogOf catalog selected) minecraftVersion loader title dependencyId progress progress') :
    NotReported candidate id progress' := by
  have hnew : ∀ missing : MissingDependency,
      (missing.projectId = id → missing.metadataIssues ≠ some (missingOfMod candidate)) →
      NotReported candidate id
        { progress with missingDependencies := progress.missingDependencies ++ [missing] } := by
    intro missing hmissing old hold
    rcases List.mem_append.1 hold with hold | hold
    · exact h old hold
    · obtain rfl := List.mem_singleton.1 hold
      exact hmissing
  cases hstep with
  | present => exact h
  | added => exact h
  | absent _ _ _ _ hissues => exact hnew _ fun _ => by simp [hissues]
  | incomplete _ hfound _ _ hmissing hissues =>
    refine hnew _ fun heq => ?_
    rw [hmissing] at heq
    subst heq
    rw [supportedCandidate_renormalized hnormal hid, hcandidate] at hfound
    cases hfound
    obtain ⟨record, rfl⟩ := get_catalogOf_normalized (supportedCandidate_some hcandidate).1
    have hlength := missingOfMod_of_sideFilledIn (normal_normalized record) hfilled
    rw [hissues]
    intro heq
    rw [Option.some.inj heq] at hlength
    omega

end OutOfStep

/-! ### Reports -/

/-- The ids of the mods that a run suggests. -/
theorem projectIds_suggestedMods {suggestions : List Suggestion}
    (h : ∀ suggestion ∈ suggestions, ∃ candidate, (catalogOf catalog selected).get suggestion.projectId = some candidate) :
    (suggestedMods (catalogOf catalog selected) suggestions).map Mod.projectId = suggestions.map Suggestion.projectId := by
  induction suggestions with
  | nil => rfl
  | cons suggestion suggestions ih =>
    rw [List.forall_mem_cons] at h
    obtain ⟨⟨candidate, hget⟩, hrest⟩ := h
    have hid := Json.sameValueZero_eq (get_catalogOf hget)
    unfold suggestedMods at ih ⊢
    simp only [List.filterMap_cons, hget]
    rw [List.map_cons, List.map_cons, ih hrest, hid]

/-- The ids of the mods of a plan. -/
theorem resolvedIds_eq {plan : DependencyPlan}
    (hloop : resolveAll (catalogOf catalog selected) minecraftVersion loader (startOf selected) (requirements selected) =
      .ok progress)
    (hplan : plan.resolvedMods = selected ++
      suggestedMods (catalogOf catalog selected) progress.automaticAddSuggestions) :
    plan.resolvedMods.map Mod.projectId =
      selected.map Mod.projectId ++ progress.automaticAddSuggestions.map Suggestion.projectId := by
  rw [hplan, List.map_append, projectIds_suggestedMods (gathered_requirements hloop).found]

theorem projectIds_reselected (hnormal : ∀ mod ∈ selected, Normal mod) :
    (reselected selected).map Mod.projectId = selected.map Mod.projectId := by
  rw [reselected_eq, List.map_map]
  exact List.map_congr_left fun mod hmod => (hnormal mod hmod).projectId

/-- A mod whose side is filled in is reported as incomplete by a direct call, and not by the run of a report. -/
theorem missing_ne_of_sideFilledIn (hnormal : ∀ mod ∈ selected, Normal mod) (hmod : mod ∈ selected)
    (hrequires : Requires mod id) (hid : ¬ HasId selected id)
    (hcandidate : supportedCandidate (catalogOf catalog selected) minecraftVersion loader id = .ok (some candidate))
    (hfilled : SideFilledIn candidate)
    (hdirect : resolveAll (catalogOf catalog selected) minecraftVersion loader (startOf selected)
      (requirements selected) = .ok progress)
    (hreport : resolveAll (recatalogOf catalog selected) minecraftVersion loader (startOf (reselected selected))
      (requirements (reselected selected)) = .ok progress') :
    progress'.missingDependencies ≠ progress.missingDependencies := by
  obtain ⟨record, rfl⟩ := get_catalogOf_normalized (supportedCandidate_some hcandidate).1
  have hincomplete : missingOfMod (normalized record) ≠ [] := by
    intro hnil
    have hlength := missingOfMod_of_sideFilledIn (normal_normalized record) hfilled
    simp [hnil] at hlength
  have hreported : ReportsIncomplete (normalized record) id (requirements selected) progress := by
    refine foldlM_invariant (ReportsIncomplete (normalized record) id) ?_ ?_ hdirect
    · intro done requirement state state' h hstep
      exact h.step hcandidate hincomplete (resolveDependency_resolved hstep)
    · exact ⟨fun hhas => hid (has_selectedIdsOf.1 hhas), by simp⟩
  have hnot : NotReported (normalized record) id progress' := by
    refine foldlM_invariant (fun _ => NotReported (normalized record) id) ?_ ?_ hreport
    · intro done requirement state state' h hstep
      exact h.step hid hcandidate hnormal hfilled (resolveDependency_resolved hstep)
    · simp [NotReported, startOf]
  obtain ⟨dependency, hdependency, heq⟩ := hrequires
  obtain ⟨missing, hmissing, hmissingId, hissues⟩ :=
    hreported.reported (mod, dependency) (mem_requirements.2 ⟨hmod, hdependency⟩) heq
  intro hsame
  exact hnot missing (hsame ▸ hmissing) hmissingId hissues

/-- The dependencies of a report are those of a direct call exactly if no mod that is asked for has its side filled
in on the way. -/
theorem reports_agree_iff {knownConflicts : List Json} {report : Report}
    (h : evaluateCompatibility selectedMods catalog minecraftVersion loader knownConflicts = .ok report) :
    ∃ plan, resolveDependencyPlan selectedMods catalog minecraftVersion loader = .ok plan ∧
      ((report.missingDependencies = plan.missingDependencies ∧
          report.automaticAddSuggestions = plan.automaticAddSuggestions ∧
          report.resolvedModIds = plan.resolvedMods.map Mod.projectId) ↔
        SidesStand catalog (selectedMods.map normalized) minecraftVersion loader) := by
  obtain ⟨replan, unsupported, conflicts, hreport⟩ := evaluateCompatibility_ok h
  obtain ⟨reprogress, hreloop, hrerequired, hreresolved, hresuggestions, hremissing⟩ :=
    resolveDependencyPlan_ok hreport.planRead
  have hnormal : ∀ mod ∈ selectedMods.map normalized, Normal mod := by
    intro mod hmod
    obtain ⟨record, -, rfl⟩ := List.mem_map.1 hmod
    exact normal_normalized record
  have hrequired : ∀ mod ∈ selectedMods.map normalized, requiredDependencies mod = .ok (requiredOf mod) := by
    intro mod hmod
    have hmem : renormalized mod ∈ reselected (selectedMods.map normalized) := by
      rw [reselected_eq]
      exact List.mem_map_of_mem hmod
    have hread := hrerequired (renormalized mod) hmem
    rwa [(hnormal mod hmod).requiredDependencies, (hnormal mod hmod).requiredOf] at hread
  have hstep := (resolveAll_reselected hnormal).symm.trans hreloop
  obtain ⟨progress, hloop⟩ := resolveAll_returns hnormal hstep
  obtain ⟨plan, hplan⟩ := resolveDependencyPlan_of hreport.selectedRead hreport.catalogRead hrequired hloop
  obtain ⟨progress', hloop', -, hresolved, hsuggestions, hmissing⟩ := resolveDependencyPlan_ok hplan
  refine ⟨plan, hplan, ?_, ?_⟩
  · rintro ⟨hagree, -, -⟩ mod hmod id hrequires hid candidate hcandidate hfilled
    have hne := missing_ne_of_sideFilledIn hnormal hmod hrequires hid hcandidate hfilled hloop' hreloop
    rw [hreport.missingDependencies, hremissing, hmissing] at hagree
    exact hne hagree
  · intro hstands
    have hsame : reprogress = progress' := by
      have hrun := (resolveAll_eq hnormal hstands).symm.trans hloop'
      exact Except.ok.inj (hstep.symm.trans hrun)
    subst hsame
    refine ⟨?_, ?_, ?_⟩
    · rw [hreport.missingDependencies, hremissing, hmissing]
    · rw [hreport.automaticAddSuggestions, hresuggestions, hsuggestions]
    · rw [hreport.resolvedModIds, resolvedIds_eq hreloop hreresolved, resolvedIds_eq hloop' hresolved]
      exact congrArg (· ++ _) (projectIds_reselected hnormal)

theorem reports_agree_iff_lithium :
    ∃ report, evaluateCompatibility [curatedMod "lithium" ["fabric-api"]] [curatedMod "fabric-api" []]
        (some (.str "1.20.1")) = .ok report ∧
      ∃ plan, resolveDependencyPlan [curatedMod "lithium" ["fabric-api"]] [curatedMod "fabric-api" []]
          (some (.str "1.20.1")) = .ok plan ∧
        ((report.missingDependencies = plan.missingDependencies ∧
            report.automaticAddSuggestions = plan.automaticAddSuggestions ∧
            report.resolvedModIds = plan.resolvedMods.map Mod.projectId) ↔
          SidesStand [curatedMod "fabric-api" []] ([curatedMod "lithium" ["fabric-api"]].map normalized)
            (some (.str "1.20.1")) (.str "fabric")) := by
  obtain ⟨report, hreport⟩ : Returns (evaluateCompatibility [curatedMod "lithium" ["fabric-api"]]
      [curatedMod "fabric-api" []] (some (.str "1.20.1"))) := by decide +kernel
  exact ⟨report, hreport, reports_agree_iff hreport⟩

/-- A record whose side is not given. -/
def withoutSide (mod : Json) : Json := .obj (mod.fields.filter fun field => field.1 != "side")

/-- A direct call finds the metadata of the required mod incomplete; the report suggests the mod. -/
theorem required_mod_without_side :
    ∃ report plan, evaluateCompatibility [curatedMod "lithium" ["fabric-api"]]
        [withoutSide (curatedMod "fabric-api" [])] (some (.str "1.20.1")) = .ok report ∧
      resolveDependencyPlan [curatedMod "lithium" ["fabric-api"]] [withoutSide (curatedMod "fabric-api" [])]
        (some (.str "1.20.1")) = .ok plan ∧
      report.missingDependencies ≠ plan.missingDependencies ∧
      report.automaticAddSuggestions ≠ plan.automaticAddSuggestions := by
  obtain ⟨report, hreport, hnone, hone⟩ := Throwing.exists_ok_of_test
    (p := fun report : Report => report.missingDependencies.length = 0 ∧ report.automaticAddSuggestions.length = 1)
    (x := evaluateCompatibility [curatedMod "lithium" ["fabric-api"]] [withoutSide (curatedMod "fabric-api" [])]
      (some (.str "1.20.1"))) (by decide +kernel)
  obtain ⟨plan, hplan, hone', hnone'⟩ := Throwing.exists_ok_of_test
    (p := fun plan : DependencyPlan => plan.missingDependencies.length = 1 ∧ plan.automaticAddSuggestions.length = 0)
    (x := resolveDependencyPlan [curatedMod "lithium" ["fabric-api"]] [withoutSide (curatedMod "fabric-api" [])]
      (some (.str "1.20.1"))) (by decide +kernel)
  refine ⟨report, plan, hreport, hplan, ?_, ?_⟩
  · intro heq
    rw [heq] at hnone
    omega
  · intro heq
    rw [heq] at hone
    omega

end EasyMc.Packs
