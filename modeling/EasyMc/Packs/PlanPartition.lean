import EasyMc.Packs.Verdict

/-!
# What a plan does with each requirement

The loop of `resolveDependencyPlan` sorts what the selected mods require and the selection does not hold.  A mod that the
catalog offers, which is complete and supports the target, is suggested, once; every requirement of another mod is
reported.  `sorted_requirements` is the invariant of the loop at its end, from which the plan is read off
(`plan_partition`).
-/

namespace EasyMc.Packs

open Json (sameValueZero textOf IdSet IdMap includes)
open Throwing (JsError Returns bind_eq_ok)

variable {selectedMods catalog : List Json} {minecraftVersion : Option Json} {loader : Json}
  {selected : List Mod} {mod : Mod} {progress progress' : Progress} {id : Option Json} {plan : DependencyPlan}

/-! ### What the catalog offers -/

/-- The record of the catalog with an id; the last one if there are several. -/
def lastEntry (catalog : List Json) (id : Option Json) : Option Json :=
  catalog.reverse.find? fun record => sameValueZero (projectIdOf record) id

/-- The catalog's record with the id is complete and supports the target. -/
def Offered (catalog : List Json) (minecraftVersion : Option Json) (loader : Json) (id : Option Json) : Prop :=
  ∃ record, lastEntry catalog id = some record ∧ SupportsTarget record minecraftVersion loader ∧ CompleteMetadata record

theorem Offered.same (h : Offered catalog minecraftVersion loader id) : sameValueZero id id = true := by
  obtain ⟨record, hlast, -⟩ := h
  have hsame : sameValueZero (projectIdOf record) id = true :=
    List.find?_some (p := fun record => sameValueZero (projectIdOf record) id) hlast
  have heq := Json.sameValueZero_eq hsame
  rwa [heq] at hsame

/-- Under an id that is not selected, a plan finds the last record of the catalog. -/
theorem get_catalogOf_eq (hnormal : ∀ mod ∈ selected, Normal mod) (hid : ¬ HasId selected id) :
    (catalogOf catalog selected).get id = (lastEntry catalog id).map normalized := by
  have hnone : ((selected.map Mod.record).map normalized).reverse.find?
      (fun mod => sameValueZero mod.projectId id) = none := by
    rw [List.find?_eq_none]
    intro found hfound hsame
    rw [List.mem_reverse, List.map_map, List.mem_map] at hfound
    obtain ⟨original, horiginal, rfl⟩ := hfound
    have hkept : (normalized original.record).projectId = original.projectId := (hnormal original horiginal).projectId
    rw [Function.comp_apply, hkept] at hsame
    exact hid ⟨original, horiginal, hsame⟩
  have hkey : ((fun mod : Mod => sameValueZero mod.projectId id) ∘ normalized) =
      fun record => sameValueZero (projectIdOf record) id := by
    funext record
    rw [Function.comp_apply, normalized_eq, projectId_normalizedWith]
  rw [catalogOf, IdMap.get_ofList, ← List.map_reverse, List.find?_map, Option.map_map, List.map_append, List.reverse_append,
    List.find?_append]
  change Option.map _ ((List.find? (fun mod : Mod => sameValueZero mod.projectId id) _).or
    (List.find? (fun mod : Mod => sameValueZero mod.projectId id) _)) = _
  rw [hnone, Option.none_or, ← List.map_reverse, List.find?_map, hkey, Option.map_map]
  rfl

theorem supportsTarget_of {record : Json} (h : SupportsTarget record minecraftVersion loader) :
    supportsTarget (normalized record) minecraftVersion loader = .ok true := by
  have hincludes : ∀ {list item : Option Json}, Lists list item → includes list item = .ok true := by
    rintro _ item ⟨values, rfl, value, hvalue, hsame⟩
    exact congrArg Except.ok (List.any_eq_true.2 ⟨value, hvalue, hsame⟩)
  rw [supportsTarget, normalized_eq, versionList_normalizedWith (by simp), versionList_normalizedWith (by simp),
    hincludes h.gameVersions, Throwing.ok_bind, if_pos rfl, hincludes h.loaders]

/-- What is offered is what the loop finds and finds complete. -/
theorem offered_iff (hnormal : ∀ mod ∈ selected, Normal mod) (hid : ¬ HasId selected id) :
    Offered catalog minecraftVersion loader id ↔
      ∃ candidate, supportedCandidate (catalogOf catalog selected) minecraftVersion loader id = .ok (some candidate) ∧
        missingOfMod candidate = [] := by
  have hget : (catalogOf catalog selected).get id = (lastEntry catalog id).map normalized := get_catalogOf_eq hnormal hid
  constructor
  · rintro ⟨record, hlast, hsupports, hcomplete⟩
    rw [hlast, Option.map_some] at hget
    refine ⟨normalized record, ?_, missingOfMod_eq_nil_iff.2 hcomplete⟩
    unfold supportedCandidate
    rw [hget]
    dsimp only
    rw [supportsTarget_of hsupports]
    rfl
  · rintro ⟨candidate, hcandidate, hnone⟩
    obtain ⟨hfound, hsupports⟩ := supportedCandidate_some hcandidate
    rw [hget] at hfound
    obtain ⟨record, hlast, rfl⟩ := Option.map_eq_some_iff.1 hfound
    have hcomplete := missingOfMod_eq_nil_iff.1 hnone
    exact ⟨record, hlast, supportsTarget_sound hcomplete hsupports, hcomplete⟩

/-! ### One requirement -/

/-- A requirement that is not there yet is added if the catalog offers it, and reported otherwise. -/
inductive Sorts (offered : Prop) (requiredBy id : Option Json) (progress : Progress) : Progress → Prop
  | suggested {suggestion : Suggestion} (h : offered) (hid : suggestion.projectId = id) :
      Sorts offered requiredBy id progress
        { progress with
          automaticAddSuggestions := progress.automaticAddSuggestions ++ [suggestion]
          selectedIds := progress.selectedIds.add id }
  | reported {missing : MissingDependency} (h : ¬ offered) (hid : missing.projectId = id)
      (hrequiredBy : missing.requiredBy = requiredBy) :
      Sorts offered requiredBy id progress
        { progress with missingDependencies := progress.missingDependencies ++ [missing] }

theorem resolveDependency_sorts {dependency : Json} (hnormal : ∀ mod ∈ selected, Normal mod)
    (hid : ¬ HasId selected (dependency.member "projectId"))
    (hhas : ¬ progress.selectedIds.has (dependency.member "projectId") = true)
    (h : resolveDependency (catalogOf catalog selected) minecraftVersion loader mod progress dependency = .ok progress') :
    Sorts (Offered catalog minecraftVersion loader (dependency.member "projectId")) mod.projectId
      (dependency.member "projectId") progress progress' := by
  have hoffered : Offered catalog minecraftVersion loader (dependency.member "projectId") ↔ _ := offered_iff hnormal hid
  rw [resolveDependency_of_not_has hhas] at h
  obtain ⟨found, hfound, h⟩ := bind_eq_ok.1 h
  cases found with
  | none =>
    obtain ⟨title, -, h⟩ := bind_eq_ok.1 h
    cases h
    refine .reported ?_ rfl rfl
    rw [hoffered]
    rintro ⟨candidate, hcandidate, -⟩
    rw [hfound] at hcandidate
    cases hcandidate
  | some candidate =>
    dsimp only at h
    by_cases hcomplete : missingOfMod candidate = []
    · rw [if_pos hcomplete] at h
      obtain ⟨title, -, h⟩ := bind_eq_ok.1 h
      obtain ⟨candidateTitle, -, h⟩ := bind_eq_ok.1 h
      cases h
      have hsame : candidate.projectId = dependency.member "projectId" :=
        Json.sameValueZero_eq (get_catalogOf (supportedCandidate_some hfound).1)
      rw [hsame]
      exact .suggested (hoffered.2 ⟨candidate, hfound, hcomplete⟩) rfl
    · rw [if_neg hcomplete] at h
      obtain ⟨title, -, h⟩ := bind_eq_ok.1 h
      cases h
      refine .reported ?_ rfl rfl
      rw [hoffered]
      rintro ⟨candidate', hcandidate, hnone⟩
      rw [hfound] at hcandidate
      cases hcandidate
      exact hcomplete hnone

/-! ### All requirements -/

/-- What a requirement asks for is neither selected nor offered. -/
def Lacking (catalog : List Json) (selected : List Mod) (minecraftVersion : Option Json) (loader : Json)
    (id : Option Json) : Prop :=
  ¬ HasId selected id ∧ ¬ Offered catalog minecraftVersion loader id

/-- The requirements of some that ask for what is lacking, as they are reported. -/
noncomputable def lackingOf (catalog : List Json) (selected : List Mod) (minecraftVersion : Option Json) (loader : Json)
    (requirements : List (Mod × Json)) : List (Option Json × Option Json) :=
  open Classical in
  (requirements.filter fun requirement =>
      decide (Lacking catalog selected minecraftVersion loader (requirement.2.member "projectId"))).map fun requirement =>
    (requirement.2.member "projectId", requirement.1.projectId)

/-- The requirements that are done are sorted. -/
structure Sorted (catalog : List Json) (selected : List Mod) (minecraftVersion : Option Json) (loader : Json)
    (done : List (Mod × Json)) (progress : Progress) : Prop where
  ids : ∀ id, progress.selectedIds.has id = true ↔
    HasId selected id ∨ id ∈ progress.automaticAddSuggestions.map Suggestion.projectId
  suggested : ∀ id, id ∈ progress.automaticAddSuggestions.map Suggestion.projectId ↔
    (∃ requirement ∈ done, requirement.2.member "projectId" = id) ∧ ¬ HasId selected id ∧
      Offered catalog minecraftVersion loader id
  once : (progress.automaticAddSuggestions.map Suggestion.projectId).Nodup
  reported : progress.missingDependencies.map (fun missing => (missing.projectId, missing.requiredBy)) =
    lackingOf catalog selected minecraftVersion loader done

section Loop

variable {done : List (Mod × Json)} {requirement : Mod × Json}

theorem lackingOf_append : lackingOf catalog selected minecraftVersion loader (done ++ [requirement]) =
    lackingOf catalog selected minecraftVersion loader done ++
      lackingOf catalog selected minecraftVersion loader [requirement] := by
  unfold lackingOf
  rw [List.filter_append, List.map_append]

theorem lackingOf_singleton_pos
    (h : Lacking catalog selected minecraftVersion loader (requirement.2.member "projectId")) :
    lackingOf catalog selected minecraftVersion loader [requirement] =
      [(requirement.2.member "projectId", requirement.1.projectId)] := by
  simp [lackingOf, h]

theorem lackingOf_singleton_neg
    (h : ¬ Lacking catalog selected minecraftVersion loader (requirement.2.member "projectId")) :
    lackingOf catalog selected minecraftVersion loader [requirement] = [] := by
  simp [lackingOf, h]

/-- A project that is asked for is one that was, or the one of the last requirement. -/
theorem asked_append : (∃ asked ∈ done ++ [requirement], asked.2.member "projectId" = id) ↔
    (∃ asked ∈ done, asked.2.member "projectId" = id) ∨ requirement.2.member "projectId" = id := by
  simp only [List.mem_append, List.mem_singleton, or_and_right, exists_or, exists_eq_left]

/-- A requirement that adds nothing asks for what is selected, suggested or not offered. -/
theorem Sorted.suggested_append (h : Sorted catalog selected minecraftVersion loader done progress)
    (hnothing : ¬ HasId selected (requirement.2.member "projectId") →
      Offered catalog minecraftVersion loader (requirement.2.member "projectId") →
        requirement.2.member "projectId" ∈ progress.automaticAddSuggestions.map Suggestion.projectId)
    (id : Option Json) : id ∈ progress.automaticAddSuggestions.map Suggestion.projectId ↔
      (∃ asked ∈ done ++ [requirement], asked.2.member "projectId" = id) ∧ ¬ HasId selected id ∧
        Offered catalog minecraftVersion loader id := by
  rw [asked_append]
  constructor
  · intro hsuggested
    obtain ⟨hasked, hrest⟩ := (h.suggested id).1 hsuggested
    exact ⟨.inl hasked, hrest⟩
  · rintro ⟨hasked | rfl, hunselected, hoffered⟩
    · exact (h.suggested id).2 ⟨hasked, hunselected, hoffered⟩
    · exact hnothing hunselected hoffered

theorem Sorted.present (h : Sorted catalog selected minecraftVersion loader done progress)
    (hhas : progress.selectedIds.has (requirement.2.member "projectId") = true) :
    Sorted catalog selected minecraftVersion loader (done ++ [requirement]) progress := by
  have hthere := (h.ids _).1 hhas
  have hnot : ¬ Lacking catalog selected minecraftVersion loader (requirement.2.member "projectId") := by
    rintro ⟨hunselected, hunoffered⟩
    exact hunoffered ((h.suggested _).1 (hthere.resolve_left hunselected)).2.2
  refine { h with suggested := ?_, reported := ?_ }
  · exact h.suggested_append fun hunselected _ => hthere.resolve_left hunselected
  · rw [lackingOf_append, lackingOf_singleton_neg hnot, List.append_nil, h.reported]

theorem Sorted.sorts (h : Sorted catalog selected minecraftVersion loader done progress)
    (hhas : ¬ progress.selectedIds.has (requirement.2.member "projectId") = true)
    (hstep : Sorts (Offered catalog minecraftVersion loader (requirement.2.member "projectId")) requirement.1.projectId
      (requirement.2.member "projectId") progress progress') :
    Sorted catalog selected minecraftVersion loader (done ++ [requirement]) progress' := by
  have hunselected : ¬ HasId selected (requirement.2.member "projectId") := fun hid => hhas ((h.ids _).2 (.inl hid))
  have hnew : requirement.2.member "projectId" ∉ progress.automaticAddSuggestions.map Suggestion.projectId :=
    fun hmem => hhas ((h.ids _).2 (.inr hmem))
  cases hstep with
  | @suggested suggestion hoffered hid =>
    have hids : ∀ id, id ∈ (progress.automaticAddSuggestions ++ [suggestion]).map Suggestion.projectId ↔
        id ∈ progress.automaticAddSuggestions.map Suggestion.projectId ∨ requirement.2.member "projectId" = id := by
      intro id
      rw [List.map_append, List.mem_append, List.map_singleton, List.mem_singleton, hid]
      exact or_congr_right eq_comm
    refine ⟨?_, ?_, ?_, ?_⟩
    · intro id
      have hsame : sameValueZero (requirement.2.member "projectId") id = true ↔ requirement.2.member "projectId" = id :=
        ⟨Json.sameValueZero_eq, fun heq => heq ▸ hoffered.same⟩
      rw [IdSet.has_add, hids, h.ids, hsame, or_assoc]
    · intro id
      rw [hids, h.suggested, asked_append]
      constructor
      · rintro (⟨hasked, hrest⟩ | rfl)
        · exact ⟨.inl hasked, hrest⟩
        · exact ⟨.inr rfl, hunselected, hoffered⟩
      · rintro ⟨hasked | rfl, hrest⟩
        · exact .inl ⟨hasked, hrest⟩
        · exact .inr rfl
    · rw [List.map_append, List.map_singleton, hid]
      refine List.nodup_append.2 ⟨h.once, by simp, fun old hold last hlast => ?_⟩
      obtain rfl := List.mem_singleton.1 hlast
      rintro rfl
      exact hnew hold
    · rw [lackingOf_append, lackingOf_singleton_neg fun hlacking => hlacking.2 hoffered, List.append_nil]
      exact h.reported
  | @reported missing hunoffered hid hrequiredBy =>
    refine { h with suggested := ?_, reported := ?_ }
    · exact h.suggested_append fun _ hoffered => absurd hoffered hunoffered
    · rw [lackingOf_append, lackingOf_singleton_pos ⟨hunselected, hunoffered⟩, List.map_append, h.reported,
        List.map_singleton, hid, hrequiredBy]

end Loop

/-- The loop of a plan sorts what the selection requires. -/
theorem sorted_requirements (hnormal : ∀ mod ∈ selected, Normal mod)
    (h : resolveAll (catalogOf catalog selected) minecraftVersion loader (startOf selected) (requirements selected) =
      .ok progress) :
    Sorted catalog selected minecraftVersion loader (requirements selected) progress := by
  refine Throwing.foldlM_invariant (Sorted catalog selected minecraftVersion loader) ?_ ?_ h
  · intro done requirement state state' hsorted hstep
    by_cases hhas : state.selectedIds.has (requirement.2.member "projectId") = true
    · rw [resolveDependency_present hhas] at hstep
      cases hstep
      exact hsorted.present hhas
    · have hunselected : ¬ HasId selected (requirement.2.member "projectId") :=
        fun hid => hhas ((hsorted.ids _).2 (.inl hid))
      exact hsorted.sorts hhas (resolveDependency_sorts hnormal hunselected hhas hstep)
  · exact ⟨by simp [startOf, has_selectedIdsOf], by simp [startOf], by simp [startOf], by simp [startOf, lackingOf]⟩

/-! ### The plan -/

/-- A selected mod requires the project, which is not selected. -/
def Wanted (selectedMods : List Json) (id : Option Json) : Prop :=
  (∃ mod ∈ selectedMods, Requires (normalized mod) id) ∧ ¬ HasId (selectedMods.map normalized) id

/-- The project is suggested once. -/
def SuggestedOnce (suggestions : List Suggestion) (id : Option Json) : Prop :=
  ∃ before suggestion after, suggestions = before ++ suggestion :: after ∧ suggestion.projectId = id ∧
    ∀ other ∈ before ++ after, other.projectId ≠ id

/-- A plan partitions what is wanted, and has the selection and the suggested records of the catalog for its mods. -/
structure Partitions (selectedMods catalog : List Json) (minecraftVersion : Option Json) (loader : Json)
    (plan : DependencyPlan) : Prop where
  offered : ∀ id, Wanted selectedMods id → Offered catalog minecraftVersion loader id →
    SuggestedOnce plan.automaticAddSuggestions id ∧ ∀ missing ∈ plan.missingDependencies, missing.projectId ≠ id
  lacking : ∀ id, Wanted selectedMods id → ¬ Offered catalog minecraftVersion loader id →
    (∀ suggestion ∈ plan.automaticAddSuggestions, suggestion.projectId ≠ id) ∧
      ∀ mod ∈ selectedMods, Requires (normalized mod) id →
        ∃ missing ∈ plan.missingDependencies, missing.projectId = id ∧ missing.requiredBy = projectIdOf mod
  resolved : ∃ entries : List Json, plan.resolvedMods = (selectedMods ++ entries).map normalized ∧
    plan.automaticAddSuggestions.map (fun suggestion => lastEntry catalog suggestion.projectId) = entries.map some
  distinct : (plan.automaticAddSuggestions.map Suggestion.projectId).Nodup
  unselected : ∀ suggestion ∈ plan.automaticAddSuggestions, ¬ HasId (selectedMods.map normalized) suggestion.projectId

theorem suggestedOnce_of_mem {suggestions : List Suggestion} (hnodup : (suggestions.map Suggestion.projectId).Nodup)
    (h : id ∈ suggestions.map Suggestion.projectId) : SuggestedOnce suggestions id := by
  obtain ⟨suggestion, hsuggestion, rfl⟩ := List.mem_map.1 h
  obtain ⟨before, after, rfl⟩ := List.append_of_mem hsuggestion
  refine ⟨before, suggestion, after, rfl, rfl, fun other hother heq => ?_⟩
  -- the id of the suggestion stands in front of those of the others
  have hperm : (before ++ suggestion :: after).Perm (suggestion :: (before ++ after)) := List.perm_middle
  have hcons := (hperm.map Suggestion.projectId).nodup_iff.1 hnodup
  rw [List.map_cons, List.nodup_cons] at hcons
  exact hcons.1 (List.mem_map.2 ⟨other, hother, heq⟩)

theorem mem_lackingOf {requirements : List (Mod × Json)} {requiredBy : Option Json} :
    (id, requiredBy) ∈ lackingOf catalog selected minecraftVersion loader requirements ↔
      Lacking catalog selected minecraftVersion loader id ∧
        ∃ requirement ∈ requirements, requirement.2.member "projectId" = id ∧ requirement.1.projectId = requiredBy := by
  unfold lackingOf
  simp only [List.mem_map, List.mem_filter, decide_eq_true_eq, Prod.mk.injEq]
  constructor
  · rintro ⟨requirement, ⟨hrequirement, hlacking⟩, rfl, rfl⟩
    exact ⟨hlacking, requirement, hrequirement, rfl, rfl⟩
  · rintro ⟨hlacking, requirement, hrequirement, rfl, rfl⟩
    exact ⟨requirement, ⟨hrequirement, hlacking⟩, rfl, rfl⟩

/-- The suggested mods are the records of the catalog that are suggested, and none of them is missing. -/
theorem suggestedMods_eq {suggestions : List Suggestion} (hnormal : ∀ mod ∈ selected, Normal mod)
    (h : ∀ suggestion ∈ suggestions, ¬ HasId selected suggestion.projectId ∧
      Offered catalog minecraftVersion loader suggestion.projectId) :
    ∃ entries : List Json, suggestedMods (catalogOf catalog selected) suggestions = entries.map normalized ∧
      suggestions.map (fun suggestion => lastEntry catalog suggestion.projectId) = entries.map some := by
  induction suggestions with
  | nil => exact ⟨[], rfl, rfl⟩
  | cons suggestion suggestions ih =>
    rw [List.forall_mem_cons] at h
    obtain ⟨⟨hunselected, record, hlast, -⟩, hrest⟩ := h
    obtain ⟨entries, hmods, hentries⟩ := ih hrest
    have hget : (catalogOf catalog selected).get suggestion.projectId = some (normalized record) := by
      rw [get_catalogOf_eq hnormal hunselected, hlast, Option.map_some]
    refine ⟨record :: entries, ?_, ?_⟩
    · unfold suggestedMods at hmods ⊢
      rw [List.filterMap_cons, hget, hmods, List.map_cons]
    · rw [List.map_cons, List.map_cons, hlast, hentries]

/-- What a selected mod requires is one of the requirements. -/
theorem exists_requirement {record : Json} (hrecord : record ∈ selectedMods) (h : Requires (normalized record) id) :
    ∃ requirement ∈ requirements (selectedMods.map normalized), requirement.2.member "projectId" = id ∧
      requirement.1.projectId = projectIdOf record := by
  obtain ⟨dependency, hdependency, hid⟩ := h
  refine ⟨(normalized record, dependency), mem_requirements.2 ⟨List.mem_map_of_mem hrecord, hdependency⟩, hid, ?_⟩
  rw [normalized_eq, projectId_normalizedWith]

theorem partitions_of_sorted
    (h : Sorted catalog (selectedMods.map normalized) minecraftVersion loader
      (requirements (selectedMods.map normalized)) progress)
    (hnormal : ∀ mod ∈ selectedMods.map normalized, Normal mod)
    (hresolved : plan.resolvedMods = selectedMods.map normalized ++
      suggestedMods (catalogOf catalog (selectedMods.map normalized)) progress.automaticAddSuggestions)
    (hsuggestions : plan.automaticAddSuggestions = progress.automaticAddSuggestions)
    (hmissing : plan.missingDependencies = progress.missingDependencies) :
    Partitions selectedMods catalog minecraftVersion loader plan := by
  have hof : ∀ suggestion ∈ progress.automaticAddSuggestions,
      (∃ requirement ∈ requirements (selectedMods.map normalized),
        requirement.2.member "projectId" = suggestion.projectId) ∧
      ¬ HasId (selectedMods.map normalized) suggestion.projectId ∧
      Offered catalog minecraftVersion loader suggestion.projectId :=
    fun suggestion hsuggestion => (h.suggested _).1 (List.mem_map_of_mem hsuggestion)
  have hmem : ∀ missing ∈ progress.missingDependencies,
      (missing.projectId, missing.requiredBy) ∈ lackingOf catalog (selectedMods.map normalized) minecraftVersion loader
        (requirements (selectedMods.map normalized)) :=
    fun missing hin => h.reported ▸ List.mem_map_of_mem hin
  constructor
  · rintro id ⟨⟨mod, hmod, hrequires⟩, hunselected⟩ hoffered
    rw [hsuggestions, hmissing]
    obtain ⟨requirement, hrequirement, hid, -⟩ := exists_requirement hmod hrequires
    refine ⟨suggestedOnce_of_mem h.once ?_, ?_⟩
    · exact (h.suggested id).2 ⟨⟨requirement, hrequirement, hid⟩, hunselected, hoffered⟩
    · rintro missing hin rfl
      exact (mem_lackingOf.1 (hmem missing hin)).1.2 hoffered
  · rintro id ⟨-, hunselected⟩ hunoffered
    rw [hsuggestions, hmissing]
    refine ⟨?_, ?_⟩
    · rintro suggestion hsuggestion rfl
      exact hunoffered (hof suggestion hsuggestion).2.2
    · intro mod hmod hrequires
      have hlacking : (id, projectIdOf mod) ∈ lackingOf catalog (selectedMods.map normalized) minecraftVersion loader
          (requirements (selectedMods.map normalized)) :=
        mem_lackingOf.2 ⟨⟨hunselected, hunoffered⟩, exists_requirement hmod hrequires⟩
      rw [← h.reported] at hlacking
      obtain ⟨missing, hin, heq⟩ := List.mem_map.1 hlacking
      exact ⟨missing, hin, congrArg Prod.fst heq, congrArg Prod.snd heq⟩
  · have hsuggested := suggestedMods_eq hnormal fun suggestion hsuggestion => (hof suggestion hsuggestion).2
    obtain ⟨entries, hmods, hentries⟩ := hsuggested
    refine ⟨entries, ?_, ?_⟩
    · rw [hresolved, hmods, List.map_append]
    · rw [hsuggestions, hentries]
  · rw [hsuggestions]
    exact h.once
  · rw [hsuggestions]
    exact fun suggestion hsuggestion => (hof suggestion hsuggestion).2.1

theorem partitions_of_ok (h : resolveDependencyPlan selectedMods catalog minecraftVersion loader = .ok plan) :
    Partitions selectedMods catalog minecraftVersion loader plan := by
  have hnormal : ∀ mod ∈ selectedMods.map normalized, Normal mod := by
    intro mod hmod
    obtain ⟨record, -, rfl⟩ := List.mem_map.1 hmod
    exact normal_normalized record
  obtain ⟨progress, hloop, -, hresolved, hsuggestions, hmissing⟩ := resolveDependencyPlan_ok h
  exact partitions_of_sorted (sorted_requirements hnormal hloop) hnormal hresolved hsuggestions hmissing

/-! ### When there is a plan -/

/-- The records can be read: none is `null`, their lists are lists and their titles have a text. -/
structure RecordsReadable (records : List Json) : Prop where
  given : ∀ record ∈ records, record.isNull = false
  lists : ∀ record ∈ records, ∀ key ∈ ["gameVersions", "loaders", "dependencies"],
    ∃ values, versionList key record = some (.arr values)
  titles : ∀ record ∈ records, (titleOf record).all Json.hasText = true

/-- No dependency of the records is `null`. -/
def DependenciesReadable (records : List Json) : Prop :=
  ∀ record ∈ records, ∀ dependencies, versionList "dependencies" record = some (.arr dependencies) →
    ∀ dependency ∈ dependencies, dependency.isNull = false

/-- What a plan finds in its catalog is one of the records. -/
theorem get_catalogOf_record {candidate : Mod}
    (h : (catalogOf catalog (selectedMods.map normalized)).get id = some candidate) :
    ∃ record ∈ selectedMods ++ catalog, candidate.title = titleOf record ∧
      ∀ key ∈ ["gameVersions", "loaders", "dependencies"], candidate.versionList key = versionList key record := by
  have hread : ∀ record : Json, (normalized record).title = titleOf record ∧
      ∀ key ∈ ["gameVersions", "loaders", "dependencies"],
        (normalized record).versionList key = versionList key record := by
    intro record
    rw [normalized_eq]
    exact ⟨title_normalizedWith, fun key hkey => versionList_normalizedWith hkey⟩
  unfold catalogOf at h
  rw [IdMap.get_ofList, Option.map_eq_some_iff] at h
  obtain ⟨entry, hfind, rfl⟩ := h
  have hmem := List.mem_of_find?_eq_some hfind
  rw [List.mem_reverse, List.mem_map] at hmem
  obtain ⟨found, hfound, rfl⟩ := hmem
  obtain ⟨record, hrecord, rfl⟩ := List.mem_map.1 hfound
  rcases List.mem_append.1 hrecord with hcatalog | hselected
  · exact ⟨record, List.mem_append_right _ hcatalog, hread record⟩
  · rw [List.map_map] at hselected
    obtain ⟨original, horiginal, rfl⟩ := List.mem_map.1 hselected
    have hnormal := normal_normalized original
    refine ⟨original, List.mem_append_left _ horiginal, ?_, fun key hkey => ?_⟩
    · exact hnormal.title.trans (hread original).1
    · exact (hnormal.versionList hkey).trans ((hread original).2 key hkey)

theorem returns_supportedCandidate (h : RecordsReadable (selectedMods ++ catalog)) :
    Returns (supportedCandidate (catalogOf catalog (selectedMods.map normalized)) minecraftVersion loader id) := by
  unfold supportedCandidate
  cases hget : (catalogOf catalog (selectedMods.map normalized)).get id with
  | none => exact Throwing.returns_ok _
  | some candidate =>
    obtain ⟨record, hrecord, -, hlists⟩ := get_catalogOf_record hget
    obtain ⟨versions, hversions⟩ := h.lists record hrecord "gameVersions" (by simp)
    obtain ⟨loaders, hloaders⟩ := h.lists record hrecord "loaders" (by simp)
    dsimp only
    rw [Throwing.returns_bind_ok]
    apply returns_supportsTarget_of_lists
    · rw [hlists "gameVersions" (by simp), hversions]
    · rw [hlists "loaders" (by simp), hloaders]

theorem returns_resolveDependency {dependency : Json} (h : RecordsReadable (selectedMods ++ catalog))
    (hmod : Returns (textOf mod.title)) :
    Returns (resolveDependency (catalogOf catalog (selectedMods.map normalized)) minecraftVersion loader mod progress
      dependency) := by
  by_cases hhas : progress.selectedIds.has (dependency.member "projectId") = true
  · rw [resolveDependency_present hhas]
    exact Throwing.returns_ok progress
  · obtain ⟨found, hfound⟩ : Returns (supportedCandidate (catalogOf catalog (selectedMods.map normalized))
        minecraftVersion loader (dependency.member "projectId")) := returns_supportedCandidate h
    cases found with
    | none =>
      obtain ⟨missing, hmissing⟩ := resolveDependency_absent hhas hfound hmod
      exact ⟨_, hmissing⟩
    | some candidate =>
      obtain ⟨record, hrecord, htitle, -⟩ := get_catalogOf_record (supportedCandidate_some hfound).1
      have htext : Returns (textOf candidate.title) := by
        rw [htitle, Json.returns_textOf]
        exact h.titles record hrecord
      by_cases hcomplete : missingOfMod candidate = []
      · obtain ⟨suggestion, hsuggestion⟩ := resolveDependency_added hhas hfound hcomplete hmod htext
        exact ⟨_, hsuggestion⟩
      · obtain ⟨missing, hmissing⟩ := resolveDependency_incomplete hhas hfound hcomplete htext
        exact ⟨_, hmissing⟩

theorem returns_resolveDependencyPlan (h : RecordsReadable (selectedMods ++ catalog))
    (hdependencies : DependenciesReadable selectedMods) :
    Returns (resolveDependencyPlan selectedMods catalog minecraftVersion loader) := by
  have hselected : selectedMods.mapM normalizeSelectedMod = .ok (selectedMods.map normalized) :=
    Throwing.mapM_ok_of_forall fun record hrecord => by
      rw [normalizeSelectedMod, h.given record (List.mem_append_left _ hrecord)]
      rfl
  have hcatalog : buildCatalog catalog (selectedMods.map normalized) =
      .ok (catalogOf catalog (selectedMods.map normalized)) := by
    unfold buildCatalog
    rw [Throwing.mapM_ok_of_forall (g := normalized)]
    · rfl
    · intro record hrecord
      rcases List.mem_append.1 hrecord with hrecord | hrecord
      · rw [normalizeSelectedMod, h.given record (List.mem_append_right _ hrecord)]
        rfl
      · obtain ⟨mod, -, rfl⟩ := List.mem_map.1 hrecord
        rfl
  have hrequired : ∀ mod ∈ selectedMods.map normalized, requiredDependencies mod = .ok (requiredOf mod) := by
    intro mod hmod
    obtain ⟨record, hrecord, rfl⟩ := List.mem_map.1 hmod
    obtain ⟨dependencies, hlist⟩ := h.lists record (List.mem_append_left _ hrecord) "dependencies" (by simp)
    obtain ⟨required, hrequired⟩ := returns_requiredDependencies hlist (hdependencies record hrecord dependencies hlist)
    rw [hrequired, requiredDependencies_ok hrequired]
  have hloop : Returns (resolveAll (catalogOf catalog (selectedMods.map normalized)) minecraftVersion loader
      (startOf (selectedMods.map normalized)) (requirements (selectedMods.map normalized))) := by
    apply Throwing.returns_foldlM
    intro requirement hrequirement progress
    obtain ⟨record, hrecord, hmod⟩ := List.mem_map.1 (mem_requirements.1 hrequirement).1
    apply returns_resolveDependency h
    rw [← hmod, normalized_eq, title_normalizedWith, Json.returns_textOf]
    exact h.titles record (List.mem_append_left _ hrecord)
  obtain ⟨progress, hloop⟩ := hloop
  exact resolveDependencyPlan_of hselected hcatalog hrequired hloop

/-- Every plan partitions what is required and not selected, and there is a plan whenever the records can be read. -/
theorem plan_partition (selectedMods catalog : List Json) (minecraftVersion : Option Json) (loader : Json) :
    (∀ plan, resolveDependencyPlan selectedMods catalog minecraftVersion loader = .ok plan →
      Partitions selectedMods catalog minecraftVersion loader plan) ∧
    (RecordsReadable (selectedMods ++ catalog) → DependenciesReadable selectedMods →
      Returns (resolveDependencyPlan selectedMods catalog minecraftVersion loader)) :=
  ⟨fun _ h => partitions_of_ok h, returns_resolveDependencyPlan⟩

/-- Two mods that require one that is offered, and one of them another that is not there. -/
def lithiumAndSodium : List Json := [curatedMod "lithium" ["fabric-api"], curatedMod "sodium" ["fabric-api", "indium"]]

theorem plan_partition_lithium :
    ∃ plan, resolveDependencyPlan lithiumAndSodium [curatedMod "fabric-api" []] (some (.str "1.20.1")) = .ok plan ∧
      Partitions lithiumAndSodium [curatedMod "fabric-api" []] (some (.str "1.20.1")) (.str "fabric") plan := by
  have hpartition := plan_partition lithiumAndSodium [curatedMod "fabric-api" []] (some (.str "1.20.1")) (.str "fabric")
  have hlists : ∀ record ∈ lithiumAndSodium ++ [curatedMod "fabric-api" []],
      ∀ key ∈ ["gameVersions", "loaders", "dependencies"], isArray (versionList key record) = true := by decide +kernel
  have hreadable : RecordsReadable (lithiumAndSodium ++ [curatedMod "fabric-api" []]) :=
    ⟨by decide +kernel, fun record hrecord key hkey => isArray_iff.1 (hlists record hrecord key hkey), by decide +kernel⟩
  have hdependencies : DependenciesReadable lithiumAndSodium := by
    intro record hrecord dependencies hlist dependency hdependency
    have hall : ∀ record ∈ lithiumAndSodium,
        ((versionList "dependencies" record).bind Json.asArr).all
          (fun dependencies => dependencies.all fun dependency => !dependency.isNull) = true := by decide +kernel
    have hrecord := hall record hrecord
    rw [hlist] at hrecord
    simpa using List.all_eq_true.1 hrecord dependency hdependency
  obtain ⟨plan, hplan⟩ := hpartition.2 hreadable hdependencies
  exact ⟨plan, hplan, hpartition.1 plan hplan⟩

end EasyMc.Packs
