import EasyMc.Library.Closure
import EasyMc.Packs.Compatibility

/-!
# The dependencies of a plan

`resolveDependencyPlan` walks over what the selected mods require (`requirements`) and adds the mods of the catalog
that are required and not selected.  What the mods it adds require themselves it does not look at.

With nothing missing, the plan is one round of adding requirements to the selection (`resolved_eq_grow`).  So it holds
what its mods require exactly if the added mods require nothing that is neither selected nor required by the selection
(`dependencyClosed_iff`).
-/

namespace EasyMc.Packs

open Json (sameValueZero textOf IdSet IdMap)
open Throwing (JsError Returns bind_eq_ok filterThrows_eq_ok foldlM_invariant)
open Closure (ClosedUnder grow)

variable {selectedMods catalog : List Json} {minecraftVersion : Option Json} {loader : Json}
  {selected : List Mod} {catalogById : IdMap Mod} {mod : Mod} {progress progress' : Progress} {id : Option Json}
  {plan : DependencyPlan}

/-! ### What is required -/

/-- The required dependencies of a mod. -/
def requiredOf (mod : Mod) : List Json :=
  match mod.versionList "dependencies" with
  | some (.arr dependencies) => dependencies.filter isRequired
  | _ => []

def Requires (mod : Mod) (id : Option Json) : Prop :=
  ∃ dependency ∈ requiredOf mod, dependency.member "projectId" = id

theorem requiredDependencies_ok {dependencies : List Json} (h : requiredDependencies mod = .ok dependencies) :
    dependencies = requiredOf mod := by
  unfold requiredDependencies at h
  split at h
  · rename_i all hall
    obtain ⟨hreturns, rfl⟩ := filterThrows_eq_ok.1 h
    rw [requiredOf, hall]
    apply List.filter_congr
    intro dependency hdependency
    obtain ⟨answer, hanswer⟩ := hreturns dependency hdependency
    by_cases hnull : dependency.isNull = true
    · simp [hnull] at hanswer
    · simp [hnull, Throwing.answersTrue]
  · cases h

/-- What the selected mods require, in the order of the loops. -/
def requirements (selected : List Mod) : List (Mod × Json) :=
  selected.flatMap fun mod => (requiredOf mod).map fun dependency => (mod, dependency)

theorem mem_requirements {dependency : Json} :
    (mod, dependency) ∈ requirements selected ↔ mod ∈ selected ∧ dependency ∈ requiredOf mod := by
  simp [requirements]

/-- The loop of a plan over requirements. -/
def resolveAll (catalogById : IdMap Mod) (minecraftVersion : Option Json) (loader : Json) (progress : Progress)
    (requirements : List (Mod × Json)) : Except JsError Progress :=
  requirements.foldlM (fun progress requirement =>
    resolveDependency catalogById minecraftVersion loader requirement.1 progress requirement.2) progress

/-- The two loops of a plan are one over the requirements, if the dependencies of each mod can be read. -/
theorem loops_eq (h : ∀ mod ∈ selected, requiredDependencies mod = .ok (requiredOf mod)) :
    selected.foldlM (resolveMod catalogById minecraftVersion loader) progress =
      resolveAll catalogById minecraftVersion loader progress (requirements selected) := by
  rw [resolveAll, requirements, ← Throwing.foldlM_nested
    (fun progress mod dependency => resolveDependency catalogById minecraftVersion loader mod progress dependency)]
  induction selected generalizing progress with
  | nil => rfl
  | cons mod selected ih =>
    rw [List.foldlM_cons, List.foldlM_cons, resolveMod, h mod (by simp), Throwing.ok_bind]
    exact congrArg _ (funext fun next => ih fun mod hmod => h mod (by simp [hmod]))

theorem requiredDependencies_of_loops
    (h : selected.foldlM (resolveMod catalogById minecraftVersion loader) progress = .ok progress') :
    ∀ mod ∈ selected, requiredDependencies mod = .ok (requiredOf mod) := by
  induction selected generalizing progress with
  | nil => simp
  | cons mod selected ih =>
    rw [List.foldlM_cons, bind_eq_ok] at h
    obtain ⟨next, hnext, hrest⟩ := h
    obtain ⟨dependencies, hdependencies, -⟩ := bind_eq_ok.1 hnext
    have hrequired := requiredDependencies_ok hdependencies
    subst hrequired
    rw [List.forall_mem_cons]
    exact ⟨hdependencies, ih hrest⟩

/-! ### Normalised lists -/

theorem normalizeSelectedMod_ok {record : Json} (h : normalizeSelectedMod record = .ok mod) :
    mod = normalized record := by
  unfold normalizeSelectedMod at h
  split at h
  · cases h
  · cases h
    rfl

theorem mapM_normalize_ok {records : List Json} {mods : List Mod} (h : records.mapM normalizeSelectedMod = .ok mods) :
    mods = records.map normalized := by
  have hall := Throwing.mapM_eq_ok.1 h
  clear h
  induction hall with
  | nil => rfl
  | cons hfirst _ ih => rw [List.map_cons, normalizeSelectedMod_ok hfirst, ih]

/-- The catalog of a plan, with the selected mods in it. -/
def catalogOf (catalog : List Json) (selected : List Mod) : IdMap Mod :=
  IdMap.ofList (((catalog ++ selected.map Mod.record).map normalized).map fun normalized =>
    (normalized.projectId, normalized))

theorem buildCatalog_ok (h : buildCatalog catalog selected = .ok catalogById) :
    catalogById = catalogOf catalog selected := by
  obtain ⟨entries, hentries, hmap⟩ := bind_eq_ok.1 h
  have heq := mapM_normalize_ok hentries
  subst heq
  cases hmap
  rfl

/-- A mod of the catalog is found under its own id. -/
theorem get_catalogOf (h : (catalogOf catalog selected).get id = some mod) : sameValueZero mod.projectId id = true := by
  unfold catalogOf at h
  rw [IdMap.get_ofList, Option.map_eq_some_iff] at h
  obtain ⟨entry, hfind, rfl⟩ := h
  have hmem := List.mem_of_find?_eq_some hfind
  rw [List.mem_reverse, List.mem_map] at hmem
  obtain ⟨found, -, rfl⟩ := hmem
  exact List.find?_some (p := fun entry : Option Json × Mod => sameValueZero entry.1 id) hfind

/-- What a plan starts with. -/
def startOf (selected : List Mod) : Progress :=
  { selectedIds := selectedIdsOf selected, automaticAddSuggestions := [], missingDependencies := [] }

/-- What a plan that is returned consists of. -/
theorem resolveDependencyPlan_ok (h : resolveDependencyPlan selectedMods catalog minecraftVersion loader = .ok plan) :
    ∃ progress, resolveAll (catalogOf catalog (selectedMods.map normalized)) minecraftVersion loader
        (startOf (selectedMods.map normalized)) (requirements (selectedMods.map normalized)) = .ok progress ∧
      (∀ mod ∈ selectedMods.map normalized, requiredDependencies mod = .ok (requiredOf mod)) ∧
      plan.resolvedMods = selectedMods.map normalized ++
        suggestedMods (catalogOf catalog (selectedMods.map normalized)) progress.automaticAddSuggestions ∧
      plan.automaticAddSuggestions = progress.automaticAddSuggestions ∧
      plan.missingDependencies = progress.missingDependencies := by
  unfold resolveDependencyPlan at h
  obtain ⟨mods, hmods, h⟩ := bind_eq_ok.1 h
  obtain ⟨found, hfound, h⟩ := bind_eq_ok.1 h
  obtain ⟨progress, hloops, h⟩ := bind_eq_ok.1 h
  have hselected := mapM_normalize_ok hmods
  subst hselected
  have hcatalog := buildCatalog_ok hfound
  subst hcatalog
  cases h
  have hrequired := requiredDependencies_of_loops hloops
  rw [loops_eq hrequired] at hloops
  exact ⟨progress, hloops, hrequired, rfl, rfl, rfl⟩

/-- A plan is returned when each of its parts is. -/
theorem resolveDependencyPlan_of
    (hselected : selectedMods.mapM normalizeSelectedMod = .ok (selectedMods.map normalized))
    (hcatalog : buildCatalog catalog (selectedMods.map normalized) =
      .ok (catalogOf catalog (selectedMods.map normalized)))
    (hrequired : ∀ mod ∈ selectedMods.map normalized, requiredDependencies mod = .ok (requiredOf mod))
    (hloop : resolveAll (catalogOf catalog (selectedMods.map normalized)) minecraftVersion loader
      (startOf (selectedMods.map normalized)) (requirements (selectedMods.map normalized)) = .ok progress) :
    ∃ plan, resolveDependencyPlan selectedMods catalog minecraftVersion loader = .ok plan := by
  have hloops := (loops_eq hrequired).trans hloop
  unfold startOf at hloops
  unfold resolveDependencyPlan
  rw [hselected, Throwing.ok_bind, hcatalog, Throwing.ok_bind, hloops]
  exact ⟨_, rfl⟩

/-! ### One requirement -/

theorem supportedCandidate_some {candidate : Mod}
    (h : supportedCandidate catalogById minecraftVersion loader id = .ok (some candidate)) :
    catalogById.get id = some candidate ∧ supportsTarget candidate minecraftVersion loader = .ok true := by
  unfold supportedCandidate at h
  cases hget : catalogById.get id with
  | none => simp [hget] at h
  | some found =>
    rw [hget] at h
    obtain ⟨supported, hsupports, hfound⟩ := bind_eq_ok.1 h
    by_cases hsupported : supported = true
    · subst hsupported
      have heq : found = candidate := by simpa using hfound
      subst heq
      exact ⟨rfl, hsupports⟩
    · simp [hsupported] at hfound

/-- What can become of a requirement of a mod with a title: it is there already, its mod is incomplete, its mod is
added, or there is none. -/
inductive Resolved (catalogById : IdMap Mod) (minecraftVersion : Option Json) (loader : Json) (title id : Option Json)
    (progress : Progress) : Progress → Prop
  | present (h : progress.selectedIds.has id = true) :
      Resolved catalogById minecraftVersion loader title id progress progress
  | incomplete {candidate : Mod} {missing : MissingDependency} (h : ¬ progress.selectedIds.has id = true)
      (hcandidate : supportedCandidate catalogById minecraftVersion loader id = .ok (some candidate))
      (hincomplete : missingOfMod candidate ≠ []) (htext : Returns (textOf candidate.title))
      (hid : missing.projectId = id) (hissues : missing.metadataIssues = some (missingOfMod candidate)) :
      Resolved catalogById minecraftVersion loader title id progress
        { progress with missingDependencies := progress.missingDependencies ++ [missing] }
  | added {candidate : Mod} {suggestion : Suggestion} (h : ¬ progress.selectedIds.has id = true)
      (hcandidate : supportedCandidate catalogById minecraftVersion loader id = .ok (some candidate))
      (hcomplete : missingOfMod candidate = []) (htitle : Returns (textOf title))
      (htext : Returns (textOf candidate.title)) (hid : suggestion.projectId = candidate.projectId) :
      Resolved catalogById minecraftVersion loader title id progress
        { progress with
          automaticAddSuggestions := progress.automaticAddSuggestions ++ [suggestion]
          selectedIds := progress.selectedIds.add candidate.projectId }
  | absent {missing : MissingDependency} (h : ¬ progress.selectedIds.has id = true)
      (hcandidate : supportedCandidate catalogById minecraftVersion loader id = .ok none)
      (htitle : Returns (textOf title)) (hid : missing.projectId = id) (hissues : missing.metadataIssues = none) :
      Resolved catalogById minecraftVersion loader title id progress
        { progress with missingDependencies := progress.missingDependencies ++ [missing] }

section Dependency

variable {dependency : Json} {candidate : Mod}

theorem resolveDependency_present (h : progress.selectedIds.has (dependency.member "projectId") = true) :
    resolveDependency catalogById minecraftVersion loader mod progress dependency = .ok progress :=
  if_pos h

/-- A requirement that is not there yet. -/
theorem resolveDependency_of_not_has (h : ¬ progress.selectedIds.has (dependency.member "projectId") = true) :
    resolveDependency catalogById minecraftVersion loader mod progress dependency =
      (supportedCandidate catalogById minecraftVersion loader (dependency.member "projectId") >>= fun found =>
        match found with
        | none => textOf mod.title >>= fun title => .ok { progress with
            missingDependencies := progress.missingDependencies ++ [{
              projectId := dependency.member "projectId"
              requiredBy := mod.projectId
              reason := title ++ " has a required dependency that is not in the curated catalog." }] }
        | some candidate =>
          if missingOfMod candidate = [] then
            textOf mod.title >>= fun title => textOf candidate.title >>= fun candidateTitle => .ok { progress with
              automaticAddSuggestions := progress.automaticAddSuggestions ++ [{
                projectId := candidate.projectId
                title := candidate.title
                requiredBy := mod.projectId
                reason := title ++ " requires " ++ candidateTitle ++ "." }]
              selectedIds := progress.selectedIds.add candidate.projectId }
          else textOf candidate.title >>= fun title => .ok { progress with
            missingDependencies := progress.missingDependencies ++ [{
              projectId := dependency.member "projectId"
              requiredBy := mod.projectId
              reason := title ++ " is present in the catalog, but its metadata is incomplete."
              metadataIssues := some (missingOfMod candidate) }] }) := by
  unfold resolveDependency
  dsimp only
  rw [if_neg h]
  congr 1
  funext found
  cases found with
  | none => rfl
  | some candidate =>
    by_cases hcomplete : missingOfMod candidate = []
    · have hempty : ¬ (!(evaluateModMetadata candidate).complete) = true := by simp [evaluateModMetadata, hcomplete]
      exact (if_neg hempty).trans (if_pos hcomplete).symm
    · have hempty : (!(evaluateModMetadata candidate).complete) = true := by simp [evaluateModMetadata, hcomplete]
      exact (if_pos hempty).trans (if_neg hcomplete).symm

/-- A requirement of an incomplete mod returns if that has a text for a title. -/
theorem resolveDependency_incomplete (h : ¬ progress.selectedIds.has (dependency.member "projectId") = true)
    (hcandidate : supportedCandidate catalogById minecraftVersion loader (dependency.member "projectId") =
      .ok (some candidate)) (hincomplete : missingOfMod candidate ≠ []) (htext : Returns (textOf candidate.title)) :
    ∃ missing, resolveDependency catalogById minecraftVersion loader mod progress dependency =
      .ok { progress with missingDependencies := progress.missingDependencies ++ [missing] } := by
  obtain ⟨title, htitle⟩ := htext
  rw [resolveDependency_of_not_has h, hcandidate, Throwing.ok_bind]
  dsimp only
  rw [if_neg hincomplete, htitle]
  exact ⟨_, rfl⟩

theorem resolveDependency_added (h : ¬ progress.selectedIds.has (dependency.member "projectId") = true)
    (hcandidate : supportedCandidate catalogById minecraftVersion loader (dependency.member "projectId") =
      .ok (some candidate)) (hcomplete : missingOfMod candidate = []) (htitle : Returns (textOf mod.title))
    (htext : Returns (textOf candidate.title)) :
    ∃ suggestion, resolveDependency catalogById minecraftVersion loader mod progress dependency =
      .ok { progress with
        automaticAddSuggestions := progress.automaticAddSuggestions ++ [suggestion]
        selectedIds := progress.selectedIds.add candidate.projectId } := by
  obtain ⟨title, htitle⟩ := htitle
  obtain ⟨candidateTitle, htext⟩ := htext
  rw [resolveDependency_of_not_has h, hcandidate, Throwing.ok_bind]
  dsimp only
  rw [if_pos hcomplete, htitle, htext]
  exact ⟨_, rfl⟩

theorem resolveDependency_absent (h : ¬ progress.selectedIds.has (dependency.member "projectId") = true)
    (hcandidate : supportedCandidate catalogById minecraftVersion loader (dependency.member "projectId") = .ok none)
    (htitle : Returns (textOf mod.title)) :
    ∃ missing, resolveDependency catalogById minecraftVersion loader mod progress dependency =
      .ok { progress with missingDependencies := progress.missingDependencies ++ [missing] } := by
  obtain ⟨title, htitle⟩ := htitle
  rw [resolveDependency_of_not_has h, hcandidate, Throwing.ok_bind]
  dsimp only
  rw [htitle]
  exact ⟨_, rfl⟩

theorem resolveDependency_resolved
    (h : resolveDependency catalogById minecraftVersion loader mod progress dependency = .ok progress') :
    Resolved catalogById minecraftVersion loader mod.title (dependency.member "projectId") progress progress' := by
  by_cases hhas : progress.selectedIds.has (dependency.member "projectId") = true
  · rw [resolveDependency_present hhas] at h
    cases h
    exact .present hhas
  · rw [resolveDependency_of_not_has hhas] at h
    obtain ⟨found, hfound, h⟩ := bind_eq_ok.1 h
    cases found with
    | none =>
      obtain ⟨title, htitle, h⟩ := bind_eq_ok.1 h
      cases h
      exact .absent hhas hfound ⟨title, htitle⟩ rfl rfl
    | some candidate =>
      dsimp only at h
      by_cases hcomplete : missingOfMod candidate = []
      · rw [if_pos hcomplete] at h
        obtain ⟨title, htitle, h⟩ := bind_eq_ok.1 h
        obtain ⟨candidateTitle, htext, h⟩ := bind_eq_ok.1 h
        cases h
        exact .added hhas hfound hcomplete ⟨title, htitle⟩ ⟨candidateTitle, htext⟩ rfl
      · rw [if_neg hcomplete] at h
        obtain ⟨title, htext, h⟩ := bind_eq_ok.1 h
        cases h
        exact .incomplete hhas hfound hcomplete ⟨title, htext⟩ rfl rfl

end Dependency

/-! ### All requirements -/

/-- What the loop has gathered after some requirements. -/
structure Gathered (catalogById : IdMap Mod) (selected : List Mod) (done : List (Mod × Json))
    (progress : Progress) : Prop where
  ids : ∀ id, progress.selectedIds.has id = true ↔ (selectedIdsOf selected).has id = true ∨
    ∃ suggestion ∈ progress.automaticAddSuggestions, sameValueZero suggestion.projectId id = true
  asked : ∀ suggestion ∈ progress.automaticAddSuggestions,
    ∃ requirement ∈ done, requirement.2.member "projectId" = suggestion.projectId
  unselected : ∀ suggestion ∈ progress.automaticAddSuggestions, ¬ (selectedIdsOf selected).has suggestion.projectId = true
  found : ∀ suggestion ∈ progress.automaticAddSuggestions,
    ∃ candidate, catalogById.get suggestion.projectId = some candidate
  handled : progress.missingDependencies = [] →
    ∀ requirement ∈ done, progress.selectedIds.has (requirement.2.member "projectId") = true

/-- A requirement whose mod is there. -/
theorem Gathered.present {done : List (Mod × Json)} {requirement : Mod × Json}
    (h : Gathered catalogById selected done progress)
    (hhas : progress.selectedIds.has (requirement.2.member "projectId") = true) :
    Gathered catalogById selected (done ++ [requirement]) progress := by
  refine { h with asked := ?_, handled := ?_ }
  · intro suggestion hsuggestion
    obtain ⟨asked, hasked, hid⟩ := h.asked suggestion hsuggestion
    exact ⟨asked, List.mem_append_left _ hasked, hid⟩
  · intro hmissing asked hasked
    rcases List.mem_append.1 hasked with hasked | hasked
    · exact h.handled hmissing asked hasked
    · obtain rfl := List.mem_singleton.1 hasked
      exact hhas

/-- A requirement that is reported as missing. -/
theorem Gathered.miss {done : List (Mod × Json)} (h : Gathered catalogById selected done progress)
    (requirement : Mod × Json) (missing : MissingDependency) :
    Gathered catalogById selected (done ++ [requirement])
      { progress with missingDependencies := progress.missingDependencies ++ [missing] } := by
  refine { h with asked := ?_, handled := ?_ }
  · intro suggestion hsuggestion
    obtain ⟨asked, hasked, hid⟩ := h.asked suggestion hsuggestion
    exact ⟨asked, List.mem_append_left _ hasked, hid⟩
  · intro hmissing
    simp at hmissing

/-- A requirement whose mod is added. -/
theorem Gathered.add {done : List (Mod × Json)} {requirement : Mod × Json} {suggestion : Suggestion} {candidate : Mod}
    (h : Gathered catalogById selected done progress)
    (hhas : ¬ progress.selectedIds.has (requirement.2.member "projectId") = true)
    (hget : catalogById.get (requirement.2.member "projectId") = some candidate)
    (hsame : sameValueZero candidate.projectId (requirement.2.member "projectId") = true)
    (hid : suggestion.projectId = candidate.projectId) :
    Gathered catalogById selected (done ++ [requirement])
      { progress with
        automaticAddSuggestions := progress.automaticAddSuggestions ++ [suggestion]
        selectedIds := progress.selectedIds.add candidate.projectId } := by
  have heq := Json.sameValueZero_eq hsame
  have hids : ∀ id, (progress.selectedIds.add candidate.projectId).has id = true ↔
      progress.selectedIds.has id = true ∨ sameValueZero suggestion.projectId id = true := by
    intro id
    rw [IdSet.has_add, hid]
  have hnew : ∀ {P : Suggestion → Prop}, (∀ old ∈ progress.automaticAddSuggestions, P old) → P suggestion →
      ∀ s ∈ progress.automaticAddSuggestions ++ [suggestion], P s := by
    intro P hold hlast s hs
    rcases List.mem_append.1 hs with hs | hs
    · exact hold s hs
    · rwa [List.mem_singleton.1 hs]
  -- The project that is added is the one that was asked for.
  constructor
  · intro id
    rw [hids, h.ids, or_assoc]
    simp only [List.mem_append, List.mem_singleton, or_and_right, exists_or, exists_eq_left]
  · refine hnew ?_ ⟨requirement, by simp, by rw [hid, heq]⟩
    intro old hold
    obtain ⟨asked, hasked, hid⟩ := h.asked old hold
    exact ⟨asked, List.mem_append_left _ hasked, hid⟩
  · refine hnew h.unselected ?_
    intro hselected
    rw [hid, heq] at hselected
    exact hhas ((h.ids _).2 (.inl hselected))
  · refine hnew h.found ⟨candidate, ?_⟩
    rw [hid, heq]
    exact hget
  · -- Requirements before this one were handled before it; this one is handled by the addition.
    intro hmissing asked hasked
    rw [hids]
    rcases List.mem_append.1 hasked with hasked | hasked
    · exact .inl (h.handled hmissing asked hasked)
    · obtain rfl := List.mem_singleton.1 hasked
      right
      rw [hid]
      exact hsame

theorem Gathered.step {done : List (Mod × Json)} {requirement : Mod × Json}
    (h : Gathered (catalogOf catalog selected) selected done progress)
    (hstep : Resolved (catalogOf catalog selected) minecraftVersion loader requirement.1.title
      (requirement.2.member "projectId") progress progress') :
    Gathered (catalogOf catalog selected) selected (done ++ [requirement]) progress' := by
  cases hstep with
  | present hhas => exact h.present hhas
  | incomplete => exact h.miss requirement _
  | absent => exact h.miss requirement _
  | added hhas hcandidate _ _ _ hid =>
    have hget := (supportedCandidate_some hcandidate).1
    exact h.add hhas hget (get_catalogOf hget) hid

/-- What the loop of a plan has gathered at its end. -/
theorem gathered_requirements
    (h : resolveAll (catalogOf catalog selected) minecraftVersion loader (startOf selected) (requirements selected) =
      .ok progress) :
    Gathered (catalogOf catalog selected) selected (requirements selected) progress := by
  refine foldlM_invariant (Gathered (catalogOf catalog selected) selected) ?_ ?_ h
  · intro done requirement state state' hgathered hstep
    exact hgathered.step (resolveDependency_resolved hstep)
  · exact ⟨by simp [startOf], by simp [startOf], by simp [startOf], by simp [startOf], by simp⟩

/-! ### One round of adding -/

/-- The selection as a whole, or a project. -/
inductive Node
  | selection
  | project (id : Option Json)

/-- What the selection requires, and what a project of the catalog that is not selected requires. -/
def NodeRequires (catalogById : IdMap Mod) (selected : List Mod) : Node → Node → Prop
  | .selection, .project id => ∃ mod ∈ selected, Requires mod id
  | .project id, .project id' =>
    ¬ (selectedIdsOf selected).has id = true ∧ ∃ entry, catalogById.get id = some entry ∧ Requires entry id'
  | _, .selection => False

/-- The selection and some of the projects. -/
def nodesWith (ids : Option Json → Prop) : Set Node := {node | match node with
  | .selection => True
  | .project id => ids id}

/-- The id is that of one of the mods. -/
def HasId (mods : List Mod) (id : Option Json) : Prop := ∃ mod ∈ mods, sameValueZero mod.projectId id = true

/-- The mods hold what each of them requires. -/
def DependencyClosed (mods : List Mod) : Prop := ∀ mod ∈ mods, ∀ id, Requires mod id → HasId mods id

instance (mods : List Mod) (id : Option Json) : Decidable (HasId mods id) := List.decidableBEx _ mods

instance (mods : List Mod) : Decidable (DependencyClosed mods) :=
  decidable_of_iff (∀ mod ∈ mods, ∀ dependency ∈ requiredOf mod, HasId mods (dependency.member "projectId")) <| by
    constructor
    · rintro h mod hmod id ⟨dependency, hdependency, rfl⟩
      exact h mod hmod dependency hdependency
    · intro h mod hmod dependency hdependency
      exact h mod hmod _ ⟨dependency, hdependency, rfl⟩

theorem has_selectedIdsOf : (selectedIdsOf selected).has id = true ↔ HasId selected id := by
  rw [selectedIdsOf, IdSet.has_ofList]
  simp [HasId]

theorem mem_suggestedMods {suggestions : List Suggestion} :
    mod ∈ suggestedMods catalogById suggestions ↔
      ∃ suggestion ∈ suggestions, catalogById.get suggestion.projectId = some mod :=
  List.mem_filterMap

/-- The mods of a plan, given what its loop has gathered. -/
def resolvedOf (catalog : List Json) (selected : List Mod) (progress : Progress) : List Mod :=
  selected ++ suggestedMods (catalogOf catalog selected) progress.automaticAddSuggestions

theorem hasId_resolvedOf (h : Gathered (catalogOf catalog selected) selected (requirements selected) progress) :
    HasId (resolvedOf catalog selected progress) id ↔ progress.selectedIds.has id = true := by
  rw [h.ids, has_selectedIdsOf]
  constructor
  · rintro ⟨mod, hmod, hid⟩
    rcases List.mem_append.1 hmod with hmod | hmod
    · exact .inl ⟨mod, hmod, hid⟩
    · obtain ⟨suggestion, hsuggestion, hget⟩ := mem_suggestedMods.1 hmod
      have heq := Json.sameValueZero_eq (get_catalogOf hget)
      exact .inr ⟨suggestion, hsuggestion, heq ▸ hid⟩
  · rintro (⟨mod, hmod, hid⟩ | ⟨suggestion, hsuggestion, hid⟩)
    · exact ⟨mod, List.mem_append_left _ hmod, hid⟩
    · obtain ⟨candidate, hget⟩ := h.found suggestion hsuggestion
      have heq := Json.sameValueZero_eq (get_catalogOf hget)
      exact ⟨candidate, List.mem_append_right _ (mem_suggestedMods.2 ⟨suggestion, hsuggestion, hget⟩), heq ▸ hid⟩

/-- With nothing missing, a plan is one round of adding requirements to the selection. -/
theorem resolved_eq_grow (h : Gathered (catalogOf catalog selected) selected (requirements selected) progress)
    (hmissing : progress.missingDependencies = []) :
    nodesWith (HasId (resolvedOf catalog selected progress)) =
      grow (NodeRequires (catalogOf catalog selected) selected) (nodesWith (HasId selected)) := by
  ext node
  cases node with
  | selection => exact ⟨fun _ => Closure.subset_grow (a := Node.selection) trivial, fun _ => trivial⟩
  | project id =>
    change HasId (resolvedOf catalog selected progress) id ↔ _
    rw [hasId_resolvedOf h, Closure.mem_grow]
    constructor
    · intro hhas
      rcases (h.ids id).1 hhas with hselected | ⟨suggestion, hsuggestion, hid⟩
      · exact .inl (has_selectedIdsOf.1 hselected)
      · obtain ⟨⟨mod, dependency⟩, hrequirement, hdependency⟩ := h.asked suggestion hsuggestion
        have hmem := mem_requirements.1 hrequirement
        have heq := Json.sameValueZero_eq hid
        exact .inr ⟨.selection, trivial, mod, hmem.1, dependency, hmem.2, hdependency.trans heq⟩
    · rintro (hselected | ⟨node, hnode, hrequires⟩)
      · exact (h.ids id).2 (.inl (has_selectedIdsOf.2 hselected))
      · cases node with
        | selection =>
          obtain ⟨mod, hmod, dependency, hdependency, rfl⟩ := hrequires
          exact h.handled hmissing (mod, dependency) (mem_requirements.2 ⟨hmod, hdependency⟩)
        | project id' => exact absurd (has_selectedIdsOf.2 hnode) hrequires.1

theorem dependencyClosed_iff_closedUnder
    (h : Gathered (catalogOf catalog selected) selected (requirements selected) progress) :
    DependencyClosed (resolvedOf catalog selected progress) ↔
      ClosedUnder (NodeRequires (catalogOf catalog selected) selected)
        (nodesWith (HasId (resolvedOf catalog selected progress))) := by
  constructor
  · intro hclosed node hnode node' hrequires
    cases node' with
    | selection => trivial
    | project id' =>
      cases node with
      | selection =>
        obtain ⟨mod, hmod, hrequires⟩ := hrequires
        exact hclosed mod (List.mem_append_left _ hmod) id' hrequires
      | project id =>
        obtain ⟨hunselected, entry, hget, hrequires⟩ := hrequires
        have hhas := (hasId_resolvedOf h).1 hnode
        rcases (h.ids id).1 hhas with hselected | ⟨suggestion, hsuggestion, hid⟩
        · exact absurd hselected hunselected
        · have heq := Json.sameValueZero_eq hid
          have hentry : entry ∈ suggestedMods (catalogOf catalog selected) progress.automaticAddSuggestions :=
            mem_suggestedMods.2 ⟨suggestion, hsuggestion, heq ▸ hget⟩
          exact hclosed entry (List.mem_append_right _ hentry) id' hrequires
  · intro hclosed mod hmod id hrequires
    rcases List.mem_append.1 hmod with hselected | hsuggested
    · exact hclosed .selection trivial (.project id) ⟨mod, hselected, hrequires⟩
    · obtain ⟨suggestion, hsuggestion, hget⟩ := mem_suggestedMods.1 hsuggested
      have hnode : HasId (resolvedOf catalog selected progress) suggestion.projectId := ⟨mod, hmod, get_catalogOf hget⟩
      exact hclosed (.project suggestion.projectId) hnode (.project id)
        ⟨h.unselected suggestion hsuggestion, mod, hget, hrequires⟩

/-- What a mod requires that the selection requires and does not hold, the selection holds or requires. -/
def AdditionsCovered (selectedMods catalog : List Json) : Prop :=
  ∀ mod ∈ selectedMods.map normalized, ∀ id, Requires mod id → ¬ HasId (selectedMods.map normalized) id →
    ∀ addition, (catalogOf catalog (selectedMods.map normalized)).get id = some addition →
      ∀ id', Requires addition id' →
        HasId (selectedMods.map normalized) id' ∨ ∃ mod' ∈ selectedMods.map normalized, Requires mod' id'

theorem closedUnder_grow_selection_iff :
    ClosedUnder (NodeRequires (catalogOf catalog (selectedMods.map normalized)) (selectedMods.map normalized))
        (grow (NodeRequires (catalogOf catalog (selectedMods.map normalized)) (selectedMods.map normalized))
          (nodesWith (HasId (selectedMods.map normalized)))) ↔ AdditionsCovered selectedMods catalog := by
  rw [Closure.closedUnder_grow_iff]
  constructor
  · intro h mod hmod id hrequires hunselected addition hget id' hrequires'
    have hnode := h .selection trivial (.project id) ⟨mod, hmod, hrequires⟩ hunselected (.project id')
      ⟨fun hhas => hunselected (has_selectedIdsOf.1 hhas), addition, hget, hrequires'⟩
    rcases hnode with hselected | ⟨node, hnode, hrequires''⟩
    · exact .inl hselected
    · cases node with
      | selection => exact .inr hrequires''
      | project id'' => exact absurd (has_selectedIdsOf.2 hnode) hrequires''.1
  · intro h node hnode node' hrequires hunselected node'' hrequires'
    cases node with
    | project id =>
      cases node' with
      | selection => exact hrequires.elim
      | project id' => exact absurd (has_selectedIdsOf.2 hnode) hrequires.1
    | selection =>
      cases node' with
      | selection => exact hrequires.elim
      | project id =>
        cases node'' with
        | selection => exact hrequires'.elim
        | project id' =>
          obtain ⟨mod, hmod, hrequires⟩ := hrequires
          obtain ⟨-, addition, hget, hrequires'⟩ := hrequires'
          rcases h mod hmod id hrequires hunselected addition hget id' hrequires' with hselected | hrequired
          · exact .inl hselected
          · exact .inr ⟨.selection, trivial, hrequired⟩

/-- A plan that reports nothing missing holds what its mods require exactly if the mods it adds require nothing that
the selection neither holds nor requires. -/
theorem dependencyClosed_iff (h : resolveDependencyPlan selectedMods catalog minecraftVersion loader = .ok plan)
    (hmissing : plan.missingDependencies = []) :
    DependencyClosed plan.resolvedMods ↔ AdditionsCovered selectedMods catalog := by
  obtain ⟨progress, hloop, -, hresolved, -, hplan⟩ := resolveDependencyPlan_ok h
  have hgathered := gathered_requirements hloop
  have hnone : progress.missingDependencies = [] := by rw [← hplan, hmissing]
  rw [hresolved, ← closedUnder_grow_selection_iff, ← resolved_eq_grow hgathered hnone]
  exact dependencyClosed_iff_closedUnder hgathered

/-! ### Reports -/

/-- What a report that is returned consists of. -/
structure Evaluated (selectedMods catalog : List Json) (minecraftVersion : Option Json) (loader : Json)
    (knownConflicts : List Json) (report : Report) (plan : DependencyPlan) (unsupported : List Mod)
    (conflicts : List Conflict) : Prop where
  selectedRead : selectedMods.mapM normalizeSelectedMod = .ok (selectedMods.map normalized)
  catalogRead : buildCatalog catalog (selectedMods.map normalized) = .ok (catalogOf catalog (selectedMods.map normalized))
  unsupportedRead : Throwing.filterThrows (fun mod => do
    let supported ← supportsTarget mod minecraftVersion loader
    .ok !supported) (selectedMods.map normalized) = .ok unsupported
  planRead : resolveDependencyPlan ((selectedMods.map normalized).map Mod.record)
    ((catalogOf catalog (selectedMods.map normalized)).values.map Mod.record) minecraftVersion loader = .ok plan
  conflictsRead : findKnownConflicts (selectedIdsOf (selectedMods.map normalized)) knownConflicts = .ok conflicts
  label : report.label = riskLabel
    (((selectedMods.map normalized).map evaluateModMetadata).filter fun issue => !issue.complete) unsupported plan
    conflicts (selectedMods.map normalized)
  canGeneratePack : report.canGeneratePack = (report.label != .likelyFail)
  missingDependencies : report.missingDependencies = plan.missingDependencies
  automaticAddSuggestions : report.automaticAddSuggestions = plan.automaticAddSuggestions
  resolvedModIds : report.resolvedModIds = plan.resolvedMods.map Mod.projectId

theorem evaluateCompatibility_ok {knownConflicts : List Json} {report : Report}
    (h : evaluateCompatibility selectedMods catalog minecraftVersion loader knownConflicts = .ok report) :
    ∃ plan unsupported conflicts,
      Evaluated selectedMods catalog minecraftVersion loader knownConflicts report plan unsupported conflicts := by
  unfold evaluateCompatibility at h
  obtain ⟨mods, hmods, h⟩ := bind_eq_ok.1 h
  obtain ⟨found, hfound, h⟩ := bind_eq_ok.1 h
  obtain ⟨unsupported, hunsupported, h⟩ := bind_eq_ok.1 h
  obtain ⟨plan, hplan, h⟩ := bind_eq_ok.1 h
  obtain ⟨conflicts, hconflicts, h⟩ := bind_eq_ok.1 h
  obtain ⟨sides, -, h⟩ := bind_eq_ok.1 h
  obtain ⟨reports, -, hreport⟩ := bind_eq_ok.1 h
  have hselected := mapM_normalize_ok hmods
  subst hselected
  have hcatalog := buildCatalog_ok hfound
  subst hcatalog
  cases hreport
  exact ⟨plan, unsupported, conflicts, hmods, hfound, hunsupported, hplan, hconflicts, rfl, rfl, rfl, rfl, rfl⟩

/-! ### A chain of requirements -/

/-- A mod of version 1.20.1 that requires some others. -/
def curatedMod (id : String) (requires : List String) : Json :=
  Json.object [("projectId", some (.str id)), ("title", some (.str id)),
    ("source", some (Json.object [("provider", some (.str "modrinth"))])),
    ("sourceUrl", some (.str ("https://modrinth.com/mod/" ++ id))), ("license", some (.str "MIT")),
    ("permission", some (.str "allowed")),
    ("side", some (Json.object [("client", some (.str "required")), ("server", some (.str "required"))])),
    ("gameVersions", some (.arr [.str "1.20.1"])), ("loaders", some (.arr [.str "fabric"])),
    ("dependencies", some (.arr (requires.map fun required =>
      Json.object [("type", some (.str "required")), ("projectId", some (.str required))]))),
    ("files", some (.arr [Json.object [("url", some (.str ("https://cdn.modrinth.com/" ++ id ++ ".jar"))),
      ("hashes", some (Json.object [("sha1", some (.str "a")), ("sha512", some (.str "b"))])),
      ("size", some (.num "1024"))]]))]

/-- What the mod that is added requires is selected. -/
theorem dependencyClosed_iff_lithium :
    ∃ plan, resolveDependencyPlan [curatedMod "lithium" ["fabric-api"], curatedMod "sodium" []]
        [curatedMod "fabric-api" ["sodium"]] (some (.str "1.20.1")) = .ok plan ∧
      (DependencyClosed plan.resolvedMods ↔
        AdditionsCovered [curatedMod "lithium" ["fabric-api"], curatedMod "sodium" []]
          [curatedMod "fabric-api" ["sodium"]]) := by
  obtain ⟨plan, hplan, hmissing⟩ := Throwing.exists_ok_of_test (p := fun plan => plan.missingDependencies.isEmpty = true)
    (x := resolveDependencyPlan [curatedMod "lithium" ["fabric-api"], curatedMod "sodium" []]
      [curatedMod "fabric-api" ["sodium"]] (some (.str "1.20.1"))) (by decide +kernel)
  exact ⟨plan, hplan, dependencyClosed_iff hplan (List.isEmpty_iff.1 hmissing)⟩

/-- What the mod that is added requires is in the catalog, and not in the plan. -/
theorem chained_dependency_left_out :
    ∃ plan, resolveDependencyPlan [curatedMod "lithium" ["fabric-api"]]
        [curatedMod "fabric-api" ["base-library"], curatedMod "base-library" []] (some (.str "1.20.1")) = .ok plan ∧
      plan.missingDependencies.isEmpty = true ∧ ¬ DependencyClosed plan.resolvedMods :=
  Throwing.exists_ok_of_test
    (p := fun plan : DependencyPlan => plan.missingDependencies.isEmpty = true ∧ ¬ DependencyClosed plan.resolvedMods)
    (by decide +kernel)

end EasyMc.Packs
