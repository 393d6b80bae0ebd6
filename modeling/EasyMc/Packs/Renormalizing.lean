import EasyMc.Packs.Compatibility

/-!
# Normalising again

A normalised record that is normalised again stays as it is, but for one field: `sideMetadataComplete` says whether the
side was complete, and the second time it is the side that has been filled in (`normalized_record`).  So the
metadata of a record that has been normalised twice has the same issues, or one fewer (`missingOfMod_normalizedWith`).
-/

namespace EasyMc.Packs

open Json (coalesce get)

variable {mod : Json} {complete : Bool}

/-- A normalised record with a given answer to whether its side is complete. -/
def normalizedWith (complete : Bool) (mod : Json) : Mod :=
  ⟨Json.assigned mod [("projectId", projectIdOf mod), ("title", titleOf mod), ("side", some (sideOf mod)),
    ("sideMetadataComplete", some (.bool complete)), ("version", some (versionOf mod))]⟩

theorem normalized_eq (mod : Json) : normalized mod = normalizedWith (hasCompleteSideMetadata (mod.member "side")) mod :=
  rfl

/-! ### The fields of a normalised record -/

theorem member_normalizedWith (key : String) :
    (normalizedWith complete mod).record.member key = match
      List.lookup key [("projectId", projectIdOf mod), ("title", titleOf mod), ("side", some (sideOf mod)),
        ("sideMetadataComplete", some (.bool complete)), ("version", some (versionOf mod))] with
      | some field => field
      | none => mod.member key :=
  Json.member_assign (by simp) key

/-- The fields that normalising leaves as they are. -/
theorem member_normalizedWith_other {key : String}
    (h : key ∉ ["projectId", "title", "side", "sideMetadataComplete", "version"]) :
    (normalizedWith complete mod).record.member key = mod.member key := by
  simp only [List.mem_cons, List.not_mem_nil, or_false, not_or] at h
  have hne : ∀ {name : String}, ¬ key = name → (key == name) = false := fun h => by simpa using h
  rw [member_normalizedWith]
  simp only [List.lookup_cons, List.lookup_nil, hne h.1, hne h.2.1, hne h.2.2.1, hne h.2.2.2.1, hne h.2.2.2.2]

@[simp] theorem projectId_normalizedWith : (normalizedWith complete mod).projectId = projectIdOf mod :=
  member_normalizedWith "projectId"

@[simp] theorem title_normalizedWith : (normalizedWith complete mod).title = titleOf mod :=
  member_normalizedWith "title"

theorem side_normalizedWith : (normalizedWith complete mod).record.member "side" = some (sideOf mod) :=
  member_normalizedWith "side"

theorem sideMetadataComplete_normalizedWith :
    (normalizedWith complete mod).record.member "sideMetadataComplete" = some (.bool complete) :=
  member_normalizedWith "sideMetadataComplete"

theorem version_normalizedWith : (normalizedWith complete mod).record.member "version" = some (versionOf mod) :=
  member_normalizedWith "version"

/-- The lists of a normalised version. -/
theorem member_versionOf {key : String} (h : key ∈ ["gameVersions", "loaders", "dependencies"]) :
    (versionOf mod).member key = versionList key mod := by
  have hassign : (versionOf mod).member key = _ := Json.member_assign (by simp) key
  simp only [List.mem_cons, List.not_mem_nil, or_false] at h
  rcases h with rfl | rfl | rfl
  · exact hassign
  · exact hassign
  · exact hassign

/-! ### The second time -/

theorem path_side (key : String) :
    (normalizedWith complete mod).record.path ["side", key] = (sideOf mod).member key := by
  rw [Json.path_pair, side_normalizedWith, Json.get_some]

theorem path_version (key : String) :
    (normalizedWith complete mod).record.path ["version", key] = (versionOf mod).member key := by
  rw [Json.path_pair, version_normalizedWith, Json.get_some]

@[simp] theorem projectIdOf_record : projectIdOf (normalizedWith complete mod).record = projectIdOf mod := by
  have hid : (normalizedWith complete mod).record.member "id" = mod.member "id" :=
    member_normalizedWith_other (by decide)
  have hprojectId : (normalizedWith complete mod).record.member "projectId" = projectIdOf mod :=
    projectId_normalizedWith
  unfold projectIdOf at hprojectId ⊢
  rw [hprojectId, hid, Json.coalesce_coalesce]

@[simp] theorem titleOf_record : titleOf (normalizedWith complete mod).record = titleOf mod := by
  have hslug : (normalizedWith complete mod).record.member "slug" = mod.member "slug" :=
    member_normalizedWith_other (by decide)
  have htitle : (normalizedWith complete mod).record.member "title" = titleOf mod := title_normalizedWith
  unfold titleOf at htitle ⊢
  rw [htitle, hslug, projectIdOf_record, Json.coalesce_coalesce]

theorem member_sideOf_client :
    (sideOf mod).member "client" = coalesce (mod.path ["side", "client"]) (some (.str "optional")) :=
  (Json.member_object (by simp) "client").trans rfl

theorem member_sideOf_server :
    (sideOf mod).member "server" = coalesce (mod.path ["side", "server"]) (some (.str "optional")) :=
  (Json.member_object (by simp) "server").trans rfl

@[simp] theorem sideOf_record : sideOf (normalizedWith complete mod).record = sideOf mod := by
  unfold sideOf
  rw [path_side, path_side, member_sideOf_client, member_sideOf_server, Json.coalesce_coalesce, Json.coalesce_coalesce]

theorem versionList_record {key : String} (h : key ∈ ["gameVersions", "loaders", "dependencies"]) :
    versionList key (normalizedWith complete mod).record = versionList key mod := by
  have hkey : (normalizedWith complete mod).record.member key = mod.member key := by
    refine member_normalizedWith_other ?_
    simp only [List.mem_cons, List.not_mem_nil, or_false] at h
    rcases h with rfl | rfl | rfl <;> decide
  have hversion : (normalizedWith complete mod).record.path ["version", key] = (versionOf mod).member key :=
    path_version key
  rw [member_versionOf h] at hversion
  unfold versionList at hversion ⊢
  rw [hversion, hkey, Json.coalesce_coalesce]

@[simp] theorem versionOf_record : versionOf (normalizedWith complete mod).record = versionOf mod := by
  have hpresent : (Json.present ((normalizedWith complete mod).record.member "version")).getD (.obj []) =
      versionOf mod := by
    rw [version_normalizedWith]
    rfl
  rw [versionOf, hpresent, versionList_record (by decide), versionList_record (by decide),
    versionList_record (by decide)]
  unfold versionOf
  exact congrArg Json.obj (Json.assigned_assign rfl)

/-- A normalised record that is normalised again: only `sideMetadataComplete` may change. -/
theorem normalized_record : normalized (normalizedWith complete mod).record =
    normalizedWith (hasCompleteSideMetadata (some (sideOf mod))) mod := by
  rw [normalized_eq, side_normalizedWith]
  unfold normalizedWith
  have hid : projectIdOf (normalizedWith complete mod).record = projectIdOf mod := projectIdOf_record
  have htitle : titleOf (normalizedWith complete mod).record = titleOf mod := titleOf_record
  have hside : sideOf (normalizedWith complete mod).record = sideOf mod := sideOf_record
  have hversion : versionOf (normalizedWith complete mod).record = versionOf mod := versionOf_record
  unfold normalizedWith at hid htitle hside hversion
  rw [hid, htitle, hside, hversion]
  -- The first normalisation set the same keys, so that its fields are all replaced.
  exact congrArg Mod.mk (Json.assigned_assign rfl)

/-! ### What is read of a record -/

/-- A list of the version, read from a normalised record. -/
theorem versionList_normalizedWith {key : String} (h : key ∈ ["gameVersions", "loaders", "dependencies"]) :
    (normalizedWith complete mod).versionList key = versionList key mod := by
  rw [Mod.versionList, normalized_record, path_version, member_versionOf h]

private theorem coalesce_known {value : Option Json} (h : isKnownSideValue value = true) (other : Option Json) :
    coalesce value other = value := by
  unfold isKnownSideValue Json.isStr at h
  cases value with
  | none => simp at h
  | some value =>
    cases value with
    | str => rfl
    | null => simp at h
    | bool => simp at h
    | num => simp at h
    | arr => simp at h
    | obj => simp at h

/-- A side that is complete has nothing to be filled in. -/
theorem hasCompleteSideMetadata_sideOf (h : hasCompleteSideMetadata (mod.member "side") = true) :
    hasCompleteSideMetadata (some (sideOf mod)) = true := by
  unfold hasCompleteSideMetadata at h ⊢
  rw [Bool.and_eq_true, ← Json.path_pair, ← Json.path_pair] at h
  rw [Json.get_some, Json.get_some, member_sideOf_client, member_sideOf_server, coalesce_known h.1, coalesce_known h.2,
    h.1, h.2]
  rfl

theorem hasExplicitSide_normalizedWith : hasExplicitSide (normalizedWith complete mod).record =
    (complete && hasCompleteSideMetadata (some (sideOf mod))) := by
  rw [hasExplicitSide, side_normalizedWith, sideMetadataComplete_normalizedWith]
  cases complete <;> rfl

/-- What is missing of a record, up to its side. -/
def missingBeforeSide (mod : Json) : List MissingField :=
  requireField "source.provider" (sourceProvider mod) "Mod metadata must identify the source provider."
  ++ requireField "sourceUrl" (sourceUrl mod) "Mod metadata must keep the original source URL."
  ++ requireField "license" (mod.member "license") "Mod metadata must include license metadata."
  ++ requireField "permission" (mod.member "permission") "Mod metadata must include redistribution permission metadata."

/-- What is missing of a record, after its side. -/
def missingAfterSide (mod : Json) : List MissingField :=
  missingUnless (isNonEmptyArray (versionList "gameVersions" mod)) "version.gameVersions"
    "Mod metadata must list supported Minecraft versions."
  ++ missingUnless (isNonEmptyArray (versionList "loaders" mod)) "version.loaders"
    "Mod metadata must list supported loaders."
  ++ missingUnless (isArray (versionList "dependencies" mod)) "version.dependencies"
    "Mod metadata must include a dependency list, even when empty."
  ++ missingOfFiles (mod.member "files")

/-- What is missing of a normalised record: only its side depends on `sideMetadataComplete`. -/
theorem missingOfMod_normalizedWith (complete : Bool) (mod : Json) : missingOfMod (normalizedWith complete mod) =
    missingBeforeSide mod ++ missingUnless (complete && hasCompleteSideMetadata (some (sideOf mod))) "side"
      "Mod metadata must include explicit client and server side support." ++ missingAfterSide mod := by
  have hother : ∀ key ∈ ["source", "metadataSource", "sourceUrl", "license", "permission", "files"],
      (normalizedWith complete mod).record.member key = mod.member key := by
    intro key hkey
    refine member_normalizedWith_other ?_
    simp only [List.mem_cons, List.not_mem_nil, or_false] at hkey
    rcases hkey with rfl | rfl | rfl | rfl | rfl | rfl <;> decide
  have hprovider : sourceProvider (normalizedWith complete mod).record = sourceProvider mod := by
    rw [sourceProvider, sourceProvider, Json.path_pair, Json.path_pair, hother "source" (by simp),
      hother "metadataSource" (by simp)]
  have hurl : sourceUrl (normalizedWith complete mod).record = sourceUrl mod := by
    rw [sourceUrl, sourceUrl, Json.path_pair, Json.path_pair, Json.path_pair, Json.path_pair, hother "source" (by simp),
      hother "sourceUrl" (by simp)]
  rw [missingOfMod, hprovider, hurl, hother "license" (by simp), hother "permission" (by simp),
    hother "files" (by simp), hasExplicitSide_normalizedWith, versionList_normalizedWith (by simp),
    versionList_normalizedWith (by simp), versionList_normalizedWith (by simp), missingBeforeSide, missingAfterSide]
  simp only [List.append_assoc]

end EasyMc.Packs
