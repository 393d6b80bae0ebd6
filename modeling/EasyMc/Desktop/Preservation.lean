import EasyMc.Desktop.Materializing
import EasyMc.Desktop.PlanAgreement
import EasyMc.Library.Sparing

/-!
# What materializing leaves alone (`apps/desktop/src/runtime/node-local-runtime.mjs`)

Every step of `materializeRoom` spares the paths that the plan avoids (`Avoids`), however it ends.  A plan that
`createHostRuntimePlan` has made, of mods without a source of their own, names paths in the room and in the cache, which
are put together of safe names.  So it avoids the room's world, and a `whitelist.json` that is there
(`materializeRoom_preserves`).
-/

namespace EasyMc.Desktop.Materializing

open Files (FileSystem Path FsError Node Call NoLinks)
open HostPlan (createHostRuntimePlan packMods Parts Planned AppDataLayout layoutOf isSafePathSegment joinPart modEntry)
open Json (holds textOf)
open LocalAdapter (createRoomMaterializationPlan MaterializationPlan FileWrite ModOperation isPathLikeText joinName)
open ManagedFiles
open Throwing (JsError bind_eq_ok)

/-- The path that the value stands for, if it is a text or can be made one, has the property. -/
def Leads (platform : Platform) (value : Option Json) (P : Path → Prop) : Prop :=
  ∀ text, textOf value = .ok text → P (toNativePath platform text)

theorem Leads.mono {platform : Platform} {value : Option Json} {P Q : Path → Prop} (h : Leads platform value P)
    (himp : ∀ path, P path → Q path) : Leads platform value Q := fun text htext => himp _ (h text htext)

theorem leads_text {platform : Platform} {text : String} {P : Path → Prop} (h : P (toNativePath platform text)) :
    Leads platform (some (.str text)) P := by
  intro text' htext
  obtain rfl := Except.ok.inj htext
  exact h

/-! ### The steps -/

theorem reads_orThrow {α : Type} (x : Except JsError α) : Call.Reads (orThrow x) := by
  cases x with
  | ok a => exact Call.reads_pure a
  | error e => exact Call.reads_leave _

theorem reads_requireManaged (platform : Platform) (root : Option Json) (path : Path) (shown : String)
    (allowMissing : Bool) : Call.Reads (requireManaged platform root path shown allowMissing) := by
  have hask : Call.Reads (Call.ask (verifyManagedPath platform root path shown allowMissing) : Call Stop _) :=
    Call.reads_ask _
  apply hask.bind
  intro verdict
  apply (reads_orThrow verdict).bind
  intro detail
  cases detail with
  | some detail => exact Call.reads_leave _
  | none => exact Call.reads_pure ()

section

variable {kept closed : Path → Prop} {platform : Platform} {process : Process} {options : Options} {root : Option Json}

theorem spares_requireManaged {path : Path} {shown : String} {allowMissing : Bool} :
    (requireManaged platform root path shown allowMissing).Spares kept closed :=
  .of_reads (reads_requireManaged platform root path shown allowMissing)

theorem spares_orThrow_bind {α β : Type} {x : Except JsError α} {f : α → Call Stop β}
    (hf : ∀ a, x = .ok a → (f a).Spares kept closed) : (orThrow x >>= f).Spares kept closed := by
  cases x with
  | ok a => exact hf a rfl
  | error e => exact .leave _

theorem spares_makeDirectories {path : Path} : (orThrowFile (FileSystem.makeDirectories path)).Spares kept closed :=
  (Call.Spares.makeDirectories path).mapError _

theorem spares_makeAppDataRoot : (makeAppDataRoot platform root).Spares kept closed := by
  unfold makeAppDataRoot
  split_ifs
  · exact spares_orThrow_bind fun _ _ => spares_makeDirectories.bind fun _ => spares_requireManaged
  · exact .pure ()

theorem spares_makeRoomDirectory {directory : Option Json} :
    (makeRoomDirectory platform root directory).Spares kept closed :=
  spares_orThrow_bind fun _ _ => spares_requireManaged.bind fun _ => spares_makeDirectories.bind fun _ =>
    spares_requireManaged

/-- A file is written where nothing is kept, or only if nothing is there. -/
theorem spares_writeRoomFile {file : FileWrite}
    (h : Leads platform file.path fun path => ¬ closed path ∧ (kept path → file.overwrite = false)) :
    (writeRoomFile platform root file).Spares kept closed := by
  apply spares_orThrow_bind
  intro text htext
  obtain ⟨hclosed, hkept⟩ := h text htext
  apply spares_requireManaged.bind
  intro _
  apply spares_makeDirectories.bind
  intro _ fs hlinks
  rw [Call.ask_bind]
  split_ifs with hexists
  · exact (spares_requireManaged.bind fun _ => .pure _) fs hlinks
  · cases hcontents : file.contents.bind Json.asStr with
    | none => exact .refl fs
    | some contents =>
      -- What is written here is a file that may be overwritten, or one that is not there.
      have hnothing : kept (toNativePath platform text) → fs.get (toNativePath platform text) = none := by
        intro hpath
        apply hlinks.get_of_not_exists
        simpa [hkept hpath] using hexists
      apply Files.Spares.reads_bind (reads_requireManaged platform root _ _ _)
      intro _
      apply Files.Spares.bind
      · exact (Files.Spares.writeFile hlinks hnothing hclosed).mapError
      · intro _ fs' _
        exact .refl fs'

theorem spares_removeUnknownMods {plan : MaterializationPlan} {directory : Path} (h : ∀ name, ¬ kept (directory ++ [name])) :
    (removeUnknownMods platform plan directory).Spares kept closed := by
  have hstale : ∀ expected entry,
      (removeStaleMod platform plan.appDataRoot expected directory entry).Spares kept closed := by
    intro expected entry
    unfold removeStaleMod
    split_ifs
    · exact .pure none
    · exact spares_requireManaged.bind fun _ => ((Call.Spares.removeFile (h entry.1)).mapError _).bind fun _ => .pure _
  unfold removeUnknownMods
  split_ifs
  · apply spares_orThrow_bind
    intro targets _
    apply spares_requireManaged.bind
    intro _
    apply (Call.Spares.of_reads (Call.reads_ask _)).bind
    intro entries
    exact (Call.Spares.each fun entry _ => hstale _ entry).bind fun removed => .pure _
  · exact .pure []

theorem spares_downloadVerifiedModSource {operation : ModOperation} {source : Path} (hkept : ¬ kept source)
    (hclosed : ¬ closed source) : (downloadVerifiedModSource process options operation source).Spares kept closed := by
  unfold downloadVerifiedModSource
  split
  · exact .leave _
  · split
    · exact .leave _
    · split
      · exact .leave _
      · exact .leave _
      · exact (Call.Spares.ofExcept _).bind fun bytes => spares_makeDirectories.bind fun _ =>
          (Call.Spares.writeFile hkept hclosed bytes).mapError _

theorem spares_fetchMissingSource {operation : ModOperation} {source : Path} (hkept : ¬ kept source)
    (hclosed : ¬ closed source) : (fetchMissingSource process options operation source).Spares kept closed := by
  apply (Call.Spares.of_reads (Call.reads_ask _)).bind
  intro exists_
  split_ifs
  · exact spares_downloadVerifiedModSource hkept hclosed
  · exact .pure ()

theorem spares_copyVerifiedMod {operation : ModOperation} {source : Path}
    (h : Leads process.toPlatform operation.target fun path => ¬ kept path ∧ ¬ closed path) :
    (copyVerifiedMod process root operation source).Spares kept closed := by
  apply (Call.Spares.of_reads (Call.reads_ask _)).bind
  intro contents
  apply ((Call.Spares.ofExcept contents).mapError _).bind
  intro bytes
  dsimp only
  split_ifs
  · exact .leave _
  · apply spares_orThrow_bind
    intro text htext
    obtain ⟨hkept, hclosed⟩ := h text htext
    exact spares_requireManaged.bind fun _ => spares_makeDirectories.bind fun _ => spares_requireManaged.bind fun _ =>
      ((Call.Spares.copyFile hkept hclosed source).mapError _).bind fun _ => .pure _

theorem spares_materializeMod {operation : ModOperation}
    (htarget : Leads process.toPlatform operation.target fun path => ¬ kept path ∧ ¬ closed path)
    (hsource : isPathLikeText operation.source = true →
      Leads process.toPlatform operation.source fun path => ¬ kept path ∧ ¬ closed path) :
    (materializeMod process options root operation).Spares kept closed := by
  unfold materializeMod
  split
  · exact .leave _
  · split
    · exact .pure _
    · rename_i hlike
      rw [Bool.not_eq_true', Bool.not_eq_false] at hlike
      apply spares_orThrow_bind
      intro text htext
      obtain ⟨hkept, hclosed⟩ := hsource hlike text htext
      apply spares_requireManaged.bind
      intro _
      apply (spares_fetchMissingSource hkept hclosed).bind
      intro _
      apply (Call.Spares.of_reads (Call.reads_ask _)).bind
      intro exists_
      split_ifs
      · exact spares_copyVerifiedMod htarget
      · exact .pure _
      · exact .leave _

/-- The plan writes no closed path and removes or overwrites no kept one. -/
structure Avoids (platform : Platform) (kept closed : Path → Prop) (runtime : Json) (plan : MaterializationPlan) : Prop where
  files : ∀ file ∈ plan.files, Leads platform file.path fun path => ¬ closed path ∧ (kept path → file.overwrite = false)
  mods : Leads platform (runtime.path ["files", "mods"]) fun path => ∀ name, ¬ kept (path ++ [name])
  targets : ∀ operation ∈ plan.modOperations, Leads platform operation.target fun path => ¬ kept path ∧ ¬ closed path
  sources : ∀ operation ∈ plan.modOperations, isPathLikeText operation.source = true →
    Leads platform operation.source fun path => ¬ kept path ∧ ¬ closed path

theorem spares_materializeWith {runtime : Json} {plan : MaterializationPlan}
    (h : Avoids process.toPlatform kept closed runtime plan) :
    (materializeWith process options runtime plan).Spares kept closed := by
  apply spares_makeAppDataRoot.bind
  intro _
  apply (Call.Spares.each fun _ _ => spares_makeRoomDirectory).bind
  intro _
  apply (Call.Spares.each fun file hfile => spares_writeRoomFile (h.files file hfile)).bind
  intro files
  apply spares_orThrow_bind
  intro modsText hmodsText
  apply (spares_removeUnknownMods (h.mods modsText hmodsText)).bind
  intro removedMods
  apply (Call.Spares.each fun operation hoperation =>
    spares_materializeMod (h.targets operation hoperation) (h.sources operation hoperation)).bind
  intro mods
  exact .pure _

/-- Materializing spares whatever its plan avoids, also if it fails, at any step. -/
theorem spares_materializeRoom {runtimePlan : Option Json}
    (h : ∀ plan, createRoomMaterializationPlan runtimePlan = .ok (.ok plan) →
      Avoids process.toPlatform kept closed (runtimePlan.getD (.obj [])) plan) :
    (materializeRoom process runtimePlan options).Spares kept closed := by
  apply spares_orThrow_bind
  intro made hmade
  cases made with
  | error reason => exact .leave _
  | ok plan => exact spares_materializeWith (h plan hmade)

end

/-! ### The paths of a room -/

section

variable {platform : Platform} {path name result : String}

theorem foldl_enter_segment (h : isSafePathSegment (some (.str name)) = true) (start : Path) :
    (Paths.names name.toList).foldl Paths.enter start = start ++ [name] := by
  obtain ⟨hne, hparent, -⟩ := HostPlan.isSafePathSegment_text h
  have hself : name ≠ "." := by
    rintro rfl
    revert h
    decide
  have hslash := HostPlan.not_mem_of_isSafePathSegment h (c := '/') (by decide)
  have hbackslash := HostPlan.not_mem_of_isSafePathSegment h (c := '\\') (by decide)
  rw [Paths.names_of_not_mem hslash hbackslash (by simpa using hne), String.ofList_toList, List.foldl_cons,
    List.foldl_nil, Paths.enter, if_neg hself, if_neg hparent]

theorem toNativePath_normalize (text : List Char) :
    toNativePath platform (String.ofList (Paths.normalize text)) = toNativePath platform (String.ofList text) := by
  rw [toNativePath, toNativePath, String.toList_ofList, String.toList_ofList, Paths.absolute_normalize]

theorem toNativePath_join (hpath : path ≠ "") (rest : List Char) :
    toNativePath platform (String.ofList (Paths.normalize (path.toList ++ '/' :: rest))) =
      (Paths.names rest).foldl Paths.enter (toNativePath platform path) := by
  have htext : path.toList ≠ [] := by simpa using hpath
  rw [toNativePath, String.toList_ofList, Paths.absolute_join _ htext]
  rfl

theorem toNativePath_joinPath (hpath : path ≠ "") (hname : isSafePathSegment (some (.str name)) = true) :
    toNativePath platform (HostPlan.joinPath [path, name]) = toNativePath platform path ++ [name] := by
  rw [HostPlan.joinPath_pair hpath (HostPlan.isSafePathSegment_text hname).1, toNativePath_join hpath,
    foldl_enter_segment hname]

theorem toNativePath_joinPath_three {name' : String} (hpath : path ≠ "")
    (hname : isSafePathSegment (some (.str name)) = true) (hname' : isSafePathSegment (some (.str name')) = true) :
    toNativePath platform (HostPlan.joinPath [path, name, name']) = toNativePath platform path ++ [name, name'] := by
  rw [HostPlan.joinPath_three hpath (HostPlan.isSafePathSegment_text hname).1 (HostPlan.isSafePathSegment_text hname').1,
    toNativePath_join hpath, Paths.names_join, List.foldl_append, foldl_enter_segment hname, foldl_enter_segment hname',
    List.append_assoc]
  rfl

theorem toNativePath_joinName (hpath : path ≠ "") (hname : isSafePathSegment (some (.str name)) = true)
    (h : joinName (some (.str path)) name = .ok result) :
    toNativePath platform result = toNativePath platform path ++ [name] := by
  have hholds : holds (some (.str path)) = true := by simpa [holds, Json.truthy] using hpath
  rw [joinName, if_pos hholds] at h
  obtain ⟨text, htext, h⟩ := bind_eq_ok.1 h
  obtain rfl := Except.ok.inj htext
  rw [← Except.ok.inj h, toNativePath_join hpath, foldl_enter_segment hname]

/-- What is joined to a path without going up is below it. -/
theorem prefix_of_joinPart {part : Option Json} (hpath : path ≠ "") (h : joinPart path part = .ok result)
    (hparent : Paths.hasParentSegment result.toList = false) :
    toNativePath platform path <+: toNativePath platform result := by
  unfold joinPart at h
  split_ifs at h
  · obtain ⟨text, -, h⟩ := bind_eq_ok.1 h
    rw [← Except.ok.inj h, String.toList_ofList, Paths.hasParentSegment_normalize, Paths.hasParentSegment_join,
      Bool.or_eq_false_iff] at hparent
    rw [← Except.ok.inj h, toNativePath_join hpath]
    exact Paths.prefix_foldl_enter (Paths.parent_not_mem_names hparent.2) _
  · have hself : HostPlan.joinPath [path] = String.ofList (Paths.normalize path.toList) := by
      simp [HostPlan.joinPath, hpath]
    rw [← Except.ok.inj h, hself, toNativePath_normalize, String.ofList_toList]

end

/-! ### What a plan avoids -/

/-- The path is in the world of the room. -/
def InWorld (room path : Path) : Prop := room ++ ["world"] <+: path

/-- The path is the whitelist of the room, or in its world. -/
def IsPreserved (room path : Path) : Prop := path = room ++ ["whitelist.json"] ∨ InWorld room path

theorem not_inWorld {room rest : Path} {name : String} (h : name ≠ "world") : ¬ InWorld room (room ++ name :: rest) := by
  intro hworld
  rw [InWorld, List.prefix_append_right_inj, List.cons_prefix_cons] at hworld
  exact h hworld.1.symm

theorem not_isPreserved {room rest : Path} {name : String} (hlist : name ≠ "whitelist.json") (hworld : name ≠ "world") :
    ¬ IsPreserved room (room ++ name :: rest) := by
  rintro (heq | hbelow)
  · rw [List.append_right_inj, List.cons.injEq] at heq
    exact hlist heq.1
  · exact not_inWorld hworld hbelow

/-- What is beside the rooms is neither. -/
theorem not_isPreserved_beside {base path : Path} {id name : String} (hname : name ≠ "rooms")
    (h : base ++ [name] <+: path) : ¬ IsPreserved (base ++ ["rooms", id]) path := by
  have hbeside : ∀ rest, ¬ base ++ "rooms" :: rest <+: path := by
    intro rest hrooms
    obtain ⟨below, rfl⟩ := h
    rw [List.append_assoc, List.prefix_append_right_inj, List.singleton_append, List.cons_prefix_cons] at hrooms
    exact hname hrooms.1.symm
  rintro (rfl | hworld)
  · apply hbeside [id, "whitelist.json"]
    simp
  · apply hbeside [id, "world"]
    simpa [InWorld] using hworld

/-! ### The planner's plans -/

section

variable {platform : Platform} {input : Json} {p : Parts}

theorem toNativePath_roomRoot (h : Planned input p) :
    toNativePath platform p.layout.roomRoot = toNativePath platform p.root ++ ["rooms", p.id] :=
  toNativePath_joinPath_three (LocalAdapter.ne_empty_of_isSafeText h.root_safe) (by decide) h.id_safe

theorem toNativePath_in_room (h : Planned input p) {name : String}
    (hname : isSafePathSegment (some (.str name)) = true) :
    toNativePath platform (HostPlan.joinPath [p.layout.roomRoot, name]) =
      toNativePath platform p.layout.roomRoot ++ [name] := toNativePath_joinPath h.layout_below.roomRoot.ne hname

/-- A path in the room that is none of the two. -/
theorem leads_in_room {room rest : Path} {name path : String} {value : Option Json} (hvalue : value = some (.str path))
    (hpath : toNativePath platform path = room ++ name :: rest) (hlist : name ≠ "whitelist.json") (hworld : name ≠ "world") :
    Leads platform value fun path => ¬ IsPreserved room path ∧ ¬ InWorld room path := by
  rw [hvalue]
  apply leads_text
  rw [hpath]
  exact ⟨not_isPreserved hlist hworld, not_inWorld hworld⟩

theorem toNativePath_mods (h : Planned input p) :
    toNativePath platform p.layout.mods = toNativePath platform p.layout.roomRoot ++ ["mods"] :=
  toNativePath_in_room h (by decide)

/-- The targets of the mods are in the room's mods directory. -/
theorem leads_target (h : Planned input p) {mod entry : Json} (hmod : mod ∈ packMods input)
    (hentry : modEntry p.layout mod = .ok entry) :
    Leads platform (entry.member "target") fun path => ¬ IsPreserved (toNativePath platform p.layout.roomRoot) path ∧
      ¬ InWorld (toNativePath platform p.layout.roomRoot) path := by
  obtain ⟨source, target, -, htarget, -, -, hentryTarget⟩ := HostPlan.modEntry_eq_ok hentry
  have hname := HostPlan.isSafePathSegment_of_isSafeFileName (h.fileNames_safe mod hmod)
  obtain ⟨name, hnameText⟩ := HostPlan.exists_text_of_isSafePathSegment hname
  rw [hnameText] at hname htarget
  have hmods := h.layout_below.mods.ne
  rw [HostPlan.joinPart_text hmods (HostPlan.isSafePathSegment_text hname).1] at htarget
  have hpath : toNativePath platform target = toNativePath platform p.layout.roomRoot ++ ["mods", name] := by
    rw [← Except.ok.inj htarget, toNativePath_joinPath hmods hname, toNativePath_mods h, List.append_assoc]
    rfl
  exact leads_in_room hentryTarget hpath (by decide) (by decide)

/-- The source of a mod without one of its own is in the cache, if it has been checked. -/
theorem leads_source (h : Planned input p) {mod entry : Json} {root : String}
    (hsource : Json.present (mod.member "source") = none) (hentry : modEntry p.layout mod = .ok entry)
    (hmanaged : LocalAdapter.isManagedPath root (entry.member "source") = true) :
    Leads platform (entry.member "source") fun path => ¬ IsPreserved (toNativePath platform p.layout.roomRoot) path ∧
      ¬ InWorld (toNativePath platform p.layout.roomRoot) path := by
  obtain ⟨found, target, hmodSource, -, -, hentrySource, -⟩ := HostPlan.modEntry_eq_ok hentry
  have hget : Json.present (Json.get "source" (some mod)) = none := hsource
  rw [HostPlan.modSource, hget] at hmodSource
  obtain ⟨path, hpath, hmodSource⟩ := bind_eq_ok.1 hmodSource
  rw [← Except.ok.inj hmodSource] at hentrySource
  rw [hentrySource, LocalAdapter.isManagedPath, Bool.and_eq_true] at hmanaged
  have hparent := LocalAdapter.hasParentSegment_of_isSafeText hmanaged.1
  have hdownloads : toNativePath platform p.layout.downloads = toNativePath platform p.root ++ ["cache", "downloads"] :=
    toNativePath_joinPath_three (LocalAdapter.ne_empty_of_isSafeText h.root_safe) (by decide) (by decide)
  have hbelow : toNativePath platform p.layout.downloads <+: toNativePath platform path :=
    prefix_of_joinPart h.layout_below.downloads.ne hpath hparent
  have hcache : toNativePath platform p.root ++ ["cache"] <+: toNativePath platform p.layout.downloads := by
    rw [hdownloads, List.prefix_append_right_inj]
    simp
  have hbeside : ¬ IsPreserved (toNativePath platform p.layout.roomRoot) (toNativePath platform path) := by
    rw [toNativePath_roomRoot h]
    exact not_isPreserved_beside (by decide) (hcache.trans hbelow)
  rw [hentrySource]
  exact leads_text ⟨hbeside, fun hworld => hbeside (.inr hworld)⟩

/-- What is in the room's runtime directory. -/
theorem toNativePath_in_runtime (h : Planned input p) {name result : String}
    (hname : isSafePathSegment (some (.str name)) = true)
    (hresult : joinName ((p.plan input).path ["layout", "runtime"]) name = .ok result) :
    toNativePath platform result = toNativePath platform p.layout.roomRoot ++ ["runtime", name] := by
  have hdirectory : toNativePath platform p.layout.runtime = toNativePath platform p.layout.roomRoot ++ ["runtime"] :=
    toNativePath_in_room h (by decide)
  rw [toNativePath_joinName h.layout_below.runtime.ne hname hresult, hdirectory, List.append_assoc]
  rfl

/-- The files of the room are written beside its world, and its whitelist is not overwritten. -/
theorem files_avoid (h : Planned input p) {entries : List Json}
    {allowlistPath bridgeConfigPath manifestPath properties : String}
    (hallowlist : joinName ((p.plan input).path ["files", "root"]) "whitelist.json" = .ok allowlistPath)
    (hbridge : joinName ((p.plan input).path ["layout", "runtime"]) "server-bridge.json" = .ok bridgeConfigPath)
    (hmanifest : joinName ((p.plan input).path ["layout", "runtime"]) "room-runtime-manifest.json" = .ok manifestPath) :
    ∀ file ∈ LocalAdapter.filesOf (p.plan input) entries allowlistPath bridgeConfigPath manifestPath properties,
      Leads platform file.path fun path => ¬ InWorld (toNativePath platform p.layout.roomRoot) path ∧
        (IsPreserved (toNativePath platform p.layout.roomRoot) path → file.overwrite = false) := by
  have hbeside : ∀ file : FileWrite,
      Leads platform file.path (fun path => ¬ IsPreserved (toNativePath platform p.layout.roomRoot) path ∧
        ¬ InWorld (toNativePath platform p.layout.roomRoot) path) →
      Leads platform file.path fun path => ¬ InWorld (toNativePath platform p.layout.roomRoot) path ∧
        (IsPreserved (toNativePath platform p.layout.roomRoot) path → file.overwrite = false) :=
    fun file hleads => hleads.mono fun path havoided => ⟨havoided.2, fun hkept => absurd hkept havoided.1⟩
  refine List.forall_mem_cons.2 ⟨?eula, List.forall_mem_cons.2 ⟨?serverProperties, List.forall_mem_cons.2 ⟨?whitelist,
    List.forall_mem_cons.2 ⟨?bridgeConfig, List.forall_mem_cons.2 ⟨?manifest, by simp⟩⟩⟩⟩⟩
  case eula =>
    have hpath : toNativePath platform p.layout.eula = toNativePath platform p.layout.roomRoot ++ ["eula.txt"] :=
      toNativePath_in_room h (by decide)
    exact hbeside _ (leads_in_room (HostPlan.plan_eulaPath h) hpath (by decide) (by decide))
  case serverProperties =>
    have hpath : toNativePath platform p.layout.serverProperties =
        toNativePath platform p.layout.roomRoot ++ ["server.properties"] := toNativePath_in_room h (by decide)
    exact hbeside _ (leads_in_room (HostPlan.plan_propertiesPath h) hpath (by decide) (by decide))
  case whitelist =>
    have hpath : toNativePath platform allowlistPath = toNativePath platform p.layout.roomRoot ++ ["whitelist.json"] :=
      toNativePath_joinName h.layout_below.roomRoot.ne (by decide) hallowlist
    apply leads_text
    rw [hpath]
    exact ⟨not_inWorld (by decide), fun _ => rfl⟩
  case bridgeConfig =>
    exact hbeside _ (leads_in_room rfl (toNativePath_in_runtime h (by decide) hbridge) (by decide) (by decide))
  case manifest =>
    exact hbeside _ (leads_in_room rfl (toNativePath_in_runtime h (by decide) hmanifest) (by decide) (by decide))

/-- What the adapter makes of the planner's plan avoids the room's whitelist and world. -/
theorem avoids_of_planned (h : Planned input p)
    (hsources : ∀ mod ∈ packMods input, Json.present (mod.member "source") = none) {plan : MaterializationPlan}
    (hplan : createRoomMaterializationPlan (some (p.plan input)) = .ok (.ok plan)) :
    Avoids platform (IsPreserved (toNativePath platform p.layout.roomRoot))
      (InWorld (toNativePath platform p.layout.roomRoot)) (p.plan input) plan := by
  obtain ⟨root, entries, allowlistPath, bridgeConfigPath, manifestPath, properties, haccepted, hallowlist, hbridge,
    hmanifest, rfl⟩ := LocalAdapter.createRoomMaterializationPlan_eq_ok hplan
  rw [Option.getD_some] at haccepted hallowlist hbridge hmanifest ⊢
  obtain ⟨modEntries, hmods, hmodEntries⟩ := HostPlan.plan_modEntries h
  obtain rfl : modEntries = entries := Except.ok.inj (hmodEntries.symm.trans haccepted.entries_eq)
  have hentry : ∀ operation ∈ modEntries.map LocalAdapter.modOperation, ∃ entry ∈ modEntries,
      LocalAdapter.modOperation entry = operation ∧ ∃ mod ∈ packMods input, modEntry p.layout mod = .ok entry := by
    intro operation hoperation
    obtain ⟨entry, hmem, heq⟩ := List.mem_map.1 hoperation
    exact ⟨entry, hmem, heq, Throwing.exists_of_mem_mapM hmods hmem⟩
  refine ⟨files_avoid h hallowlist hbridge hmanifest, ?mods, ?targets, ?sources⟩
  case mods =>
    have hmodsPath : (p.plan input).path ["files", "mods"] = some (.str p.layout.mods) := rfl
    rw [hmodsPath]
    apply leads_text
    intro name
    rw [toNativePath_mods h, List.append_assoc]
    exact not_isPreserved (by decide) (by decide)
  case targets =>
    intro operation hoperation
    obtain ⟨entry, -, rfl, mod, hmod, hentry⟩ := hentry operation hoperation
    exact leads_target h hmod hentry
  case sources =>
    intro operation hoperation hlike
    obtain ⟨entry, hmem, rfl, mod, hmod, hentry⟩ := hentry operation hoperation
    exact leads_source h (hsources mod hmod) hentry (haccepted.sources entry hmem hlike)

end

/-! ### The room's whitelist and world -/

/-- Where a path of the plan is. -/
def planPath (platform : Platform) (plan : Json) (keys : List String) : Path :=
  toNativePath platform ((textOf (plan.path keys)).toOption.getD "")

def whitelistPath (platform : Platform) (plan : Json) : Path := planPath platform plan ["files", "root"] ++ ["whitelist.json"]

def worldDirectory (platform : Platform) (plan : Json) : Path := planPath platform plan ["files", "world"]

theorem planPath_eq {platform : Platform} {plan : Json} {keys : List String} {text : String}
    (h : plan.path keys = some (.str text)) : planPath platform plan keys = toNativePath platform text := by
  rw [planPath, h]
  rfl

theorem whitelistPath_eq {platform : Platform} {input : Json} {p : Parts} :
    whitelistPath platform (p.plan input) = toNativePath platform p.layout.roomRoot ++ ["whitelist.json"] := by
  have hroot : (p.plan input).path ["files", "root"] = some (.str p.layout.roomRoot) := rfl
  rw [whitelistPath, planPath_eq hroot]

theorem worldDirectory_eq {platform : Platform} {input : Json} {p : Parts} (h : Planned input p) :
    worldDirectory platform (p.plan input) = toNativePath platform p.layout.roomRoot ++ ["world"] := by
  have hworld : (p.plan input).path ["files", "world"] = some (.str p.layout.world) := rfl
  rw [worldDirectory, planPath_eq hworld]
  exact toNativePath_in_room h (by decide)

/-- Whether it succeeds or fails, at whatever step, materializing a plan that has been made of mods without a source of
their own leaves a whitelist that is there as it is, and every file in the world; nor does a file come up there. -/
theorem materializeRoom_preserves (process : Process) (options : Options) {input : Option Json} {plan : Json}
    (hplan : createHostRuntimePlan input = .ok (.ok plan))
    (hsources : ∀ mod ∈ packMods (input.getD (.obj [])), Json.present (mod.member "source") = none)
    {fs fs' : FileSystem} (hlinks : NoLinks fs) {result : Except Stop MaterializeResult}
    (h : materializeRoom process (some plan) options fs = (result, fs')) :
    (fs.get (whitelistPath process.toPlatform plan) ≠ none →
      fs'.get (whitelistPath process.toPlatform plan) = fs.get (whitelistPath process.toPlatform plan)) ∧
    ∀ path bytes, worldDirectory process.toPlatform plan <+: path →
      (fs'.get path = some (.file bytes) ↔ fs.get path = some (.file bytes)) := by
  obtain ⟨p, hplanned, rfl⟩ := HostPlan.createHostRuntimePlan_planned hplan
  have hspares : (materializeRoom process (some (p.plan (input.getD (.obj [])))) options).Spares
      (IsPreserved (toNativePath process.toPlatform p.layout.roomRoot))
      (InWorld (toNativePath process.toPlatform p.layout.roomRoot)) :=
    spares_materializeRoom fun plan hmade => avoids_of_planned hplanned hsources hmade
  have hspares := hspares fs hlinks
  rw [h] at hspares
  rw [whitelistPath_eq, worldDirectory_eq hplanned]
  refine ⟨fun hsome => hspares.stays _ (.inl rfl) hsome, ?_⟩
  intro path bytes hpath
  constructor
  · exact hspares.no_file path hpath bytes
  · intro hfile
    rw [hspares.stays path (.inr hpath) (by simp [hfile]), hfile]

/-- A room that has been opened before. -/
def sampleNodes : List (Path × Node) :=
  let room := ["C:", "App", "rooms", "room-1"]
  [(["C:"], .dir), (["C:", "App"], .dir), (["C:", "App", "rooms"], .dir), (room, .dir),
    (room ++ ["whitelist.json"], .file [91, 93]), (room ++ ["world"], .dir), (room ++ ["world", "level.dat"], .file [10])]

def sampleRoom : FileSystem := sampleNodes.foldl (fun fs entry => fs.put entry.1 entry.2) .empty

theorem sampleRoom_noLinks : NoLinks sampleRoom := by
  have hnodes : ∀ entry ∈ sampleNodes, FileSystem.isLink entry.2 = false := by decide
  exact List.foldlRecOn sampleNodes _ NoLinks.empty fun fs h entry hentry => h.put (hnodes entry hentry) entry.1

/-- The paths of the room are those in the plan that is made for the input. -/
def isRoomOf (platform : Platform) (input : Option Json) (room : Path) : Bool :=
  match createHostRuntimePlan input with
  | .ok (.ok plan) =>
    whitelistPath platform plan == room ++ ["whitelist.json"] && worldDirectory platform plan == room ++ ["world"]
  | _ => false

private theorem exists_of_isRoomOf {platform : Platform} {input : Option Json} {room : Path}
    (h : isRoomOf platform input room = true) : ∃ plan, createHostRuntimePlan input = .ok (.ok plan) ∧
      whitelistPath platform plan = room ++ ["whitelist.json"] ∧ worldDirectory platform plan = room ++ ["world"] := by
  unfold isRoomOf at h
  split at h
  · rename_i plan hplan
    rw [Bool.and_eq_true, beq_iff_eq, beq_iff_eq] at h
    exact ⟨plan, hplan, h⟩
  · cases h

theorem materializeRoom_preserves_sample : ∃ plan result fs',
    createHostRuntimePlan (some (HostPlan.sampleInput "C:\\App")) = .ok (.ok plan) ∧
      materializeRoom sampleProcess (some plan) sampleOptions sampleRoom = (result, fs') ∧
      fs'.get ["C:", "App", "rooms", "room-1", "whitelist.json"] = some (.file [91, 93]) ∧
      fs'.get ["C:", "App", "rooms", "room-1", "world", "level.dat"] = some (.file [10]) := by
  have hroom : isRoomOf sampleProcess.toPlatform (some (HostPlan.sampleInput "C:\\App"))
      ["C:", "App", "rooms", "room-1"] = true := by decide +kernel
  obtain ⟨plan, hplan, hwhitelist, hworld⟩ := exists_of_isRoomOf hroom
  have hlist : sampleRoom.get ["C:", "App", "rooms", "room-1", "whitelist.json"] = some (.file [91, 93]) := by
    decide +kernel
  have hlevel : sampleRoom.get ["C:", "App", "rooms", "room-1", "world", "level.dat"] = some (.file [10]) := by
    decide +kernel
  obtain ⟨hkept, hfiles⟩ := materializeRoom_preserves sampleProcess sampleOptions hplan
    (HostPlan.sampleInput_sources _) sampleRoom_noLinks Prod.mk.eta.symm
  rw [hwhitelist] at hkept
  rw [hworld] at hfiles
  have hsome : sampleRoom.get ["C:", "App", "rooms", "room-1", "whitelist.json"] ≠ none := by simp [hlist]
  exact ⟨plan, _, _, hplan, Prod.mk.eta.symm, (hkept hsome).trans hlist, (hfiles _ [10] (by decide)).2 hlevel⟩

end EasyMc.Desktop.Materializing
