import EasyMc.Desktop.Materialization

/-!
# The planner and the adapter

`createHostRuntimePlan` makes a plan and `createRoomMaterializationPlan` checks it again.  The two do not ask for the
same: a plan whose mods have no source of their own is accepted exactly if the consent to the EULA is `true` itself, the
app data root does not end with a separator, and no name of a mod's download goes up (`accepts_iff`).

The paths of a plan are made by joining safe names to the root (`Below`), so that they pass the checks of the adapter
with any root but one that ends with a separator.
-/

namespace EasyMc.Desktop.HostPlan

open Json (coalesce get holds read listOf textOf firstFailure)
open LocalAdapter (isManagedPath accepts Accepted)
open Throwing (JsError bind_eq_ok)

/-! ### Safe texts -/

theorem isSafeText_iff {path : String} : isSafeText path = true ↔
    (∃ c ∈ path.toList, (!Text.isBlank c) = true) ∧ '\x00' ∉ path.toList ∧
      Paths.hasParentSegment path.toList = false := by
  have hblank : notBlank path = true ↔ ∃ c ∈ path.toList, (!Text.isBlank c) = true := by
    rw [notBlank, Bool.not_eq_true', ← Bool.not_eq_true, List.isEmpty_iff, Text.trim, Text.trimBy_eq_nil]
    simp
  rw [isSafeText, Bool.and_eq_true, Bool.and_eq_true, hblank, and_assoc]
  simp [hasParentPathSegment]

theorem isSafeText_normalize {text : List Char} :
    isSafeText (String.ofList (Paths.normalize text)) = true ↔ isSafeText (String.ofList text) = true := by
  rw [isSafeText_iff, isSafeText_iff, String.toList_ofList, String.toList_ofList,
    Paths.exists_mem_normalize (by decide) (by decide), Paths.mem_normalize (by decide) (by decide),
    Paths.hasParentSegment_normalize]

/-- A text without the zero character that does not go up. -/
def isSafeName (name : String) : Bool := !name.toList.contains '\x00' && !hasParentPathSegment name

theorem isSafeName_iff {name : String} :
    isSafeName name = true ↔ '\x00' ∉ name.toList ∧ Paths.hasParentSegment name.toList = false := by
  simp [isSafeName, hasParentPathSegment]

theorem isSafeText_join {path name : String} (hpath : isSafeText path = true) :
    isSafeText (String.ofList (path.toList ++ '/' :: name.toList)) = true ↔ isSafeName name = true := by
  obtain ⟨⟨c, hc, hblank⟩, hzero, hparent⟩ := isSafeText_iff.1 hpath
  rw [isSafeText_iff, isSafeName_iff, String.toList_ofList, Paths.hasParentSegment_join, hparent, Bool.false_or]
  constructor
  · rintro ⟨-, hzero', hparent'⟩
    refine ⟨fun hmem => hzero' ?_, hparent'⟩
    simp [hmem]
  · rintro ⟨hzero', hparent'⟩
    refine ⟨⟨c, List.mem_append_left _ hc, hblank⟩, ?_, hparent'⟩
    simp [hzero, hzero']

/-- What a name that is a path segment is made of. -/
theorem isSafePathSegment_text {value : String} (h : isSafePathSegment (some (.str value)) = true) :
    value ≠ "" ∧ value ≠ ".." ∧ ∀ c ∈ value.toList, isNameChar c = true := by
  simp only [isSafePathSegment, isNameText, Bool.and_eq_true, decide_eq_true_eq, List.all_eq_true] at h
  obtain ⟨⟨⟨⟨⟨⟨hne, -⟩, hdots⟩, -, hchars⟩, -⟩, -⟩, -⟩ := h
  exact ⟨hne, hdots, hchars⟩

/-- What is no character of a name does not occur in one. -/
theorem not_mem_of_isSafePathSegment {value : String} (h : isSafePathSegment (some (.str value)) = true) {c : Char}
    (hc : isNameChar c = false) : c ∉ value.toList := by
  obtain ⟨-, -, hchars⟩ := isSafePathSegment_text h
  intro hmem
  rw [hchars c hmem] at hc
  cases hc

theorem isSafeName_of_isSafePathSegment {value : String} (h : isSafePathSegment (some (.str value)) = true) :
    isSafeName value = true := by
  obtain ⟨-, hdots, -⟩ := isSafePathSegment_text h
  have hne : value.toList ≠ ['.', '.'] := by
    intro heq
    exact hdots (String.toList_inj.1 heq)
  exact isSafeName_iff.2 ⟨not_mem_of_isSafePathSegment h (by decide), Paths.hasParentSegment_of_not_mem
    (not_mem_of_isSafePathSegment h (by decide)) (not_mem_of_isSafePathSegment h (by decide)) hne⟩

/-! ### Paths below the root -/

theorem joinPath_pair {path name : String} (hpath : path ≠ "") (hname : name ≠ "") :
    joinPath [path, name] = String.ofList (Paths.normalize (path.toList ++ '/' :: name.toList)) := by
  simp [joinPath, hpath, hname, List.intercalate]

theorem joinPath_three {path name name' : String} (hpath : path ≠ "") (hname : name ≠ "") (hname' : name' ≠ "") :
    joinPath [path, name, name'] =
      String.ofList (Paths.normalize (path.toList ++ '/' :: (name.toList ++ '/' :: name'.toList))) := by
  simp [joinPath, hpath, hname, hname', List.intercalate]

/-- A safe path that is inside the root. -/
structure Below (root path : String) : Prop where
  inside : Paths.Inside root.toList path.toList
  safe : isSafeText path = true

theorem Below.refl {root : String} (h : isSafeText root = true) : Below root root := ⟨Paths.Inside.refl _, h⟩

theorem Below.ne {root path : String} (h : Below root path) : path ≠ "" := LocalAdapter.ne_empty_of_isSafeText h.safe

theorem Below.normalize {root : String} {text : List Char} :
    Below root (String.ofList (Paths.normalize text)) ↔ Below root (String.ofList text) := by
  constructor
  · rintro ⟨hinside, hsafe⟩
    rw [String.toList_ofList, Paths.inside_normalize] at hinside
    exact ⟨by rwa [String.toList_ofList], isSafeText_normalize.1 hsafe⟩
  · rintro ⟨hinside, hsafe⟩
    rw [String.toList_ofList] at hinside
    exact ⟨by rwa [String.toList_ofList, Paths.inside_normalize], isSafeText_normalize.2 hsafe⟩

theorem Below.join {root path name : String} (h : Below root path) (hname : isSafeName name = true) :
    Below root (String.ofList (path.toList ++ '/' :: name.toList)) := by
  refine ⟨?_, (isSafeText_join h.safe).2 hname⟩
  rw [String.toList_ofList]
  exact h.inside.join name.toList

theorem Below.joinPath {root path name : String} (h : Below root path) (hne : name ≠ "") (hname : isSafeName name = true) :
    Below root (HostPlan.joinPath [path, name]) := by
  rw [joinPath_pair h.ne hne]
  exact Below.normalize.2 (h.join hname)

theorem Below.joinPath_three {root path name name' : String} (h : Below root path) (hne : name ≠ "")
    (hname : isSafeName name = true) (hne' : name' ≠ "") (hname' : isSafeName name' = true) :
    Below root (HostPlan.joinPath [path, name, name']) := by
  rw [HostPlan.joinPath_three h.ne hne hne']
  have hjoined := (h.join hname).join hname'
  rw [String.toList_ofList, List.append_assoc, List.cons_append] at hjoined
  exact Below.normalize.2 hjoined

/-- The root ends with a separator. -/
def endsWithSeparator (root : String) : Bool :=
  root.toList.getLast? == some '/' || root.toList.getLast? == some '\\'

theorem endsWithSeparator_iff {root : String} :
    endsWithSeparator root = true ↔ (Paths.normalize root.toList).getLast? = some '/' := by
  rw [Paths.getLast?_normalize, endsWithSeparator, Bool.or_eq_true, beq_iff_eq, beq_iff_eq]

/-- What is below a root that does not end with a separator is managed. -/
theorem Below.isManagedPath {root path : String} (h : Below root path) (hroot : isSafeText root = true)
    (hend : endsWithSeparator root = false) :
    LocalAdapter.isManagedPath (normalizePath root) (some (.str path)) = true := by
  have hne := LocalAdapter.ne_empty_of_isSafeText hroot
  have htext := LocalAdapter.normalizePath_toList hne
  have hsafe : isSafeText (normalizePath root) = true := by
    have heq : normalizePath root = String.ofList (Paths.normalize root.toList) := by
      rw [← String.toList_inj, htext, String.toList_ofList]
    rw [heq, isSafeText_normalize, String.ofList_toList]
    exact hroot
  have hlast : (Paths.normalize root.toList).getLast? ≠ some '/' := by
    rw [Ne, ← endsWithSeparator_iff, hend]
    simp
  rw [LocalAdapter.isManagedPath_iff (LocalAdapter.ne_empty_of_isSafeText hsafe), htext, Paths.normalize_normalize]
  exact ⟨h.safe, Paths.prefix_of_inside hlast h.inside⟩

/-- Below a root that ends with a separator nothing is managed that ends without one. -/
theorem not_isManagedPath {root path : String} (hroot : root ≠ "") (hend : endsWithSeparator root = true)
    (hpath : endsWithSeparator path = false) :
    LocalAdapter.isManagedPath (normalizePath root) (some (.str path)) = false := by
  have htext := LocalAdapter.normalizePath_toList hroot
  have hlast := endsWithSeparator_iff.1 hend
  have hne : normalizePath root ≠ "" := by
    intro hempty
    rw [hempty] at htext
    rw [← htext] at hlast
    cases hlast
  rw [← Bool.not_eq_true, LocalAdapter.isManagedPath_iff hne, htext, Paths.normalize_normalize]
  rintro ⟨-, heq | hstarts⟩
  · rw [← heq, ← endsWithSeparator_iff, hpath] at hlast
    cases hlast
  · exact Paths.not_prefix_of_slash hlast hstarts

/-- The paths of a layout are below the root. -/
structure LayoutBelow (root : String) (layout : AppDataLayout) : Prop where
  roomRoot : Below root layout.roomRoot
  runtime : Below root layout.runtime
  cache : Below root layout.cache
  downloads : Below root layout.downloads
  metadata : Below root layout.metadata
  serverProperties : Below root layout.serverProperties
  eula : Below root layout.eula
  mods : Below root layout.mods
  world : Below root layout.world
  logs : Below root layout.logs

theorem layoutOf_below {root id : String} (hroot : isSafeText root = true)
    (hid : isSafePathSegment (some (.str id)) = true) : LayoutBelow root (layoutOf root id) := by
  have hself := Below.refl hroot
  have hroom : Below root (layoutOf root id).roomRoot := hself.joinPath_three (by decide) (by decide)
    (isSafePathSegment_text hid).1 (isSafeName_of_isSafePathSegment hid)
  exact {
    roomRoot := hroom
    runtime := hroom.joinPath (by decide) (by decide)
    cache := hself.joinPath (by decide) (by decide)
    downloads := hself.joinPath_three (by decide) (by decide) (by decide) (by decide)
    metadata := hself.joinPath_three (by decide) (by decide) (by decide) (by decide)
    serverProperties := hroom.joinPath (by decide) (by decide)
    eula := hroom.joinPath (by decide) (by decide)
    mods := hroom.joinPath (by decide) (by decide)
    world := hroom.joinPath (by decide) (by decide)
    logs := hroom.joinPath (by decide) (by decide) }

/-! ### What the planner makes -/

/-- The parts of a plan. -/
structure Parts where
  root : String
  id : String
  selected : SelectedMinecraft
  loader : Loader
  jar : String
  metadataPath : String
  state : Option Json
  cache : Json
  eula : Json
  serverProperties : Json
  mods : Json

namespace Parts

def layout (p : Parts) : AppDataLayout := layoutOf p.root p.id

def launcherJar (p : Parts) : String := joinPath [p.layout.runtime, p.jar]

def plan (p : Parts) (input : Json) : Json :=
  planOf input p.selected p.loader p.layout p.launcherJar p.metadataPath p.state p.cache p.eula p.serverProperties p.mods

end Parts

/-- The mods of the pack. -/
def packMods (input : Json) : List Json := (listOf (get "mods" (input.member "pack"))).toOption.getD []

/-- The parts have been made for the input, which has passed the checks. -/
structure Planned (input : Json) (p : Parts) : Prop where
  root_eq : appDataRootOf (input.member "room") = some (.str p.root)
  root_safe : isSafeText p.root = true
  id_eq : get "id" (input.member "room") = some (.str p.id)
  id_safe : isSafePathSegment (some (.str p.id)) = true
  jar_safe : isSafePathSegment (some (.str p.jar)) = true
  jar_named : Text.endsWith p.jar ".jar" = true
  fileNames_safe : ∀ mod ∈ packMods input, isSafeFileName (mod.member "fileName") = true
  eula_eq : createEulaPlan (input.member "eula") p.layout = .ok p.eula
  serverProperties_eq : createServerPropertiesPlan (input.member "serverProperties") p.layout = .ok p.serverProperties
  cache_eq : createCachePlan (input.member "cache") p.layout = .ok p.cache
  mods_eq : createModInstallPlan (input.member "pack") p.layout = .ok p.mods

theorem Planned.layout_below {input : Json} {p : Parts} (h : Planned input p) : LayoutBelow p.root p.layout :=
  layoutOf_below h.root_safe h.id_safe

theorem exists_text_of_isSafePathSegment {value : Option Json} (h : isSafePathSegment value = true) :
    ∃ text, value = some (.str text) := by
  unfold isSafePathSegment at h
  split at h
  · exact ⟨_, rfl⟩
  · cases h

theorem isSafePathSegment_of_isSafeFileName {value : Option Json} (h : isSafeFileName value = true) :
    isSafePathSegment value = true := by
  unfold isSafeFileName at h
  split at h
  · exact (Bool.and_eq_true _ _ ▸ h).1
  · cases h

theorem joinPart_text {path name : String} (hpath : path ≠ "") (hname : name ≠ "") :
    joinPart path (some (.str name)) = .ok (joinPath [path, name]) := by
  have hholds : holds (some (.str name)) = true := by simpa [holds, Json.truthy] using hname
  rw [joinPart, if_pos hholds, joinPath_pair hpath hname]
  rfl

private theorem check_eq_none {fails : Bool} {reason : FailureReason} :
    check fails reason = .ok none ↔ fails = false := by
  cases fails <;> simp [check]

/-- The checks that the plan of an input rests on. -/
theorem hostChecks_passed {input : Json} {selected : SelectedMinecraft}
    (h : firstFailure (hostChecks input selected) = .ok none) :
    isSafeAppDataRoot (appDataRootOf (input.member "room")) = true ∧
      isSafePathSegment (get "id" (input.member "room")) = true ∧
      ∀ mod ∈ packMods input, isSafeFileName (mod.member "fileName") = true := by
  rw [Json.firstFailure_eq_none] at h
  simp only [hostChecks, List.forall_mem_cons, check_eq_none] at h
  obtain ⟨-, -, -, -, -, -, -, -, -, -, hroot, hnames, -⟩ := h
  rw [Bool.or_eq_false_iff, Bool.not_eq_false', Bool.not_eq_false'] at hroot
  refine ⟨hroot.1, hroot.2, fun mod hmod => ?_⟩
  obtain ⟨found, hfound, hcheck⟩ := bind_eq_ok.1 hnames
  rw [check_eq_none] at hcheck
  subst hcheck
  obtain ⟨mods, hmods, hany⟩ := bind_eq_ok.1 hfound
  have heq : packMods input = mods := by
    rw [packMods, hmods]
    rfl
  rw [heq] at hmod
  obtain ⟨-, -, htest⟩ := bind_eq_ok.1 (Json.anyThrows_eq_false.1 hany mod hmod)
  simpa [Json.get] using Except.ok.inj htest

/-- A layout is that of the room's root and id. -/
theorem createAppDataLayout_eq_ok {room : Option Json} {layout : AppDataLayout} {root id : String}
    (hroot : appDataRootOf room = some (.str root)) (hid : get "id" room = some (.str id))
    (h : createAppDataLayout room = .ok layout) : layout = layoutOf root id := by
  cases room with
  | none => cases hid
  | some room =>
    unfold createAppDataLayout at h
    dsimp only [Option.getD_some] at h
    obtain ⟨found, hfound, h⟩ := bind_eq_ok.1 h
    obtain rfl := Json.read_eq_ok hfound
    rw [hroot, hid] at h
    split_ifs at h
    exact (Except.ok.inj h).symm

/-- The launcher's file name is a text. -/
theorem createHostRuntimePlan_planned {input : Option Json} {plan : Json}
    (h : createHostRuntimePlan input = .ok (.ok plan)) :
    ∃ p, Planned (input.getD (.obj [])) p ∧ plan = p.plan (input.getD (.obj [])) := by
  unfold createHostRuntimePlan at h
  dsimp only at h
  generalize input.getD (.obj []) = input at h ⊢
  obtain ⟨failure, hvalid, h⟩ := bind_eq_ok.1 h
  cases failure with
  | some reason => cases h
  | none =>
    obtain ⟨selected, hselected, h⟩ := bind_eq_ok.1 h
    cases selected with
    | error reason => cases h
    | ok selected =>
      obtain ⟨loader, hloader, h⟩ := bind_eq_ok.1 h
      cases loader with
      | error reason => cases h
      | ok loader =>
        dsimp only at h
        split_ifs at h with hjar
        · cases h
        rw [Bool.not_eq_true', Bool.not_eq_false] at hjar
        -- The checks are those for the version that is selected here.
        obtain ⟨minecraft, hminecraft, hvalid⟩ := bind_eq_ok.1 hvalid
        obtain rfl := Json.read_eq_ok hminecraft
        obtain ⟨selected', hselected', hchecks⟩ := bind_eq_ok.1 hvalid
        cases selected' with
        | error reason => cases hchecks
        | ok selected' =>
          obtain ⟨hroot, hid, hnames⟩ := hostChecks_passed hchecks
          obtain ⟨jar, hjarText⟩ := exists_text_of_isSafePathSegment (isSafePathSegment_of_isSafeFileName hjar)
          obtain ⟨id, hidText⟩ := exists_text_of_isSafePathSegment hid
          obtain ⟨root, hrootText⟩ : ∃ root, appDataRootOf (input.member "room") = some (.str root) := by
            unfold isSafeAppDataRoot at hroot
            split at hroot
            · exact ⟨_, ‹_›⟩
            · cases hroot
          rw [hrootText] at hroot
          rw [hidText] at hid
          rw [hjarText, isSafeFileName, Bool.and_eq_true] at hjar
          obtain ⟨hjar, hnamed⟩ := hjar
          obtain ⟨layout, hlayout, h⟩ := bind_eq_ok.1 h
          obtain rfl := createAppDataLayout_eq_ok hrootText hidText hlayout
          obtain ⟨mods, hmods, h⟩ := bind_eq_ok.1 h
          obtain ⟨state, hstate, h⟩ := bind_eq_ok.1 h
          obtain ⟨launcherJar, hlauncher, h⟩ := bind_eq_ok.1 h
          obtain ⟨versionText, hversion, h⟩ := bind_eq_ok.1 h
          obtain ⟨cache, hcache, h⟩ := bind_eq_ok.1 h
          obtain ⟨eula, heula, h⟩ := bind_eq_ok.1 h
          obtain ⟨serverProperties, hproperties, h⟩ := bind_eq_ok.1 h
          have hruntime := (layoutOf_below hroot hid).runtime.ne
          rw [hjarText, joinPart_text hruntime (isSafePathSegment_text hjar).1] at hlauncher
          have hjarPath := Except.ok.inj hlauncher
          have hplan := Except.ok.inj (Except.ok.inj h)
          subst hjarPath
          subst hplan
          exact ⟨⟨root, id, selected, loader, jar, _, state, cache, eula, serverProperties, mods⟩,
            ⟨hrootText, hroot, hidText, hid, hjar, hnamed, hnames, heula, hproperties, hcache, hmods⟩, rfl⟩

/-! ### What the adapter reads -/

/-- The name of a mod's download does not go up. -/
def isSafeDownloadName (mod : Json) : Bool :=
  let name := coalesce (mod.member "sourceFileName") (mod.member "fileName")
  !holds name ||
    match textOf name with
    | .ok text => isSafeName text
    | .error _ => false

private theorem getD_isAccepted (eula : Option Json) : isAccepted (some (eula.getD (.obj []))) = isAccepted eula := by
  cases eula with
  | none => rfl
  | some eula => rfl

theorem createEulaPlan_eq_ok {eula : Option Json} {layout : AppDataLayout} {eulaPlan : Json}
    (h : createEulaPlan eula layout = .ok eulaPlan) :
    ∃ writeText, eulaPlan = Json.object [("path", some (.str layout.eula)), ("accepted", some (.bool (isAccepted eula))),
      ("writeText", some writeText), ("requiresExplicitHostConsent", some (.bool true))] := by
  unfold createEulaPlan at h
  dsimp only at h
  obtain ⟨accepted, -, h⟩ := bind_eq_ok.1 h
  have hplan := Except.ok.inj h
  rw [getD_isAccepted] at hplan
  exact ⟨_, hplan.symm⟩

theorem createServerPropertiesPlan_eq_ok {properties : Option Json} {layout : AppDataLayout} {propertiesPlan : Json}
    (h : createServerPropertiesPlan properties layout = .ok propertiesPlan) :
    ∃ maxPlayers port motd diagnostics, propertiesPlan = Json.object [("path", some (.str layout.serverProperties)),
      ("values", some (propertyValues maxPlayers port motd)), ("advancedDiagnostics", some diagnostics)] := by
  unfold createServerPropertiesPlan at h
  dsimp only at h
  obtain ⟨maxPlayersValue, -, h⟩ := bind_eq_ok.1 h
  obtain ⟨maxPlayers, -, h⟩ := bind_eq_ok.1 h
  obtain ⟨port, -, h⟩ := bind_eq_ok.1 h
  obtain ⟨motd, -, h⟩ := bind_eq_ok.1 h
  exact ⟨maxPlayers, port, motd, _, (Except.ok.inj h).symm⟩

/-- The entries of a plan are those of the pack's mods, one by one. -/
theorem createModInstallPlan_eq_ok {input modsPlan : Json} {layout : AppDataLayout}
    (h : createModInstallPlan (input.member "pack") layout = .ok modsPlan) :
    ∃ entries, (packMods input).mapM (modEntry layout) = .ok entries ∧
      modsPlan = Json.object [("directory", some (.str layout.mods)), ("strategy", some (.str "replace-with-fixed-pack")),
        ("removeUnknownMods", some (.bool true)), ("entries", some (.arr entries))] := by
  obtain ⟨found, hfound, h⟩ := bind_eq_ok.1 h
  obtain ⟨mods, hmods, h⟩ := bind_eq_ok.1 h
  obtain ⟨entries, hentries, h⟩ := bind_eq_ok.1 h
  have hget : found = get "mods" (input.member "pack") := by
    rw [Json.read_eq_ok hfound]
    cases input.member "pack" with
    | none => rfl
    | some pack => rfl
  have heq : packMods input = mods := by
    rw [packMods, ← hget, hmods]
    rfl
  exact ⟨entries, heq ▸ hentries, (Except.ok.inj h).symm⟩

private theorem entryKeys_nodup : ["id", "fileName", "sha256", "source", "downloadUrl", "provider", "expectedFileSize",
    "target", "verified"].Nodup := by decide

/-- What the adapter reads of an entry. -/
theorem modEntry_eq_ok {layout : AppDataLayout} {mod entry : Json} (h : modEntry layout mod = .ok entry) :
    ∃ source target, modSource (some mod) layout = .ok source ∧
      joinPart layout.mods (mod.member "fileName") = .ok target ∧ entry.isNull = false ∧
      entry.member "source" = some source ∧ entry.member "target" = some (.str target) := by
  obtain ⟨id, -, h⟩ := bind_eq_ok.1 h
  obtain ⟨source, hsource, h⟩ := bind_eq_ok.1 h
  obtain ⟨target, htarget, h⟩ := bind_eq_ok.1 h
  have hentry := Except.ok.inj h
  refine ⟨source, target, hsource, htarget, ?_, ?_, ?_⟩
  · rw [← hentry]
    rfl
  · rw [← hentry, Json.member_object]
    · rfl
    · exact entryKeys_nodup
  · rw [← hentry, Json.member_object]
    · rfl
    · exact entryKeys_nodup

/-- What is joined is managed if the part is safe, for a root that does not end with a separator. -/
theorem joinPart_isManagedPath {root directory path : String} {part : Option Json} (hroot : isSafeText root = true)
    (hend : endsWithSeparator root = false) (hdirectory : Below root directory) (h : joinPart directory part = .ok path) :
    isManagedPath (normalizePath root) (some (.str path)) = true ↔
      holds part = false ∨ ∃ text, textOf part = .ok text ∧ isSafeName text = true := by
  unfold joinPart at h
  split_ifs at h with hpart
  · obtain ⟨text, htext, h⟩ := bind_eq_ok.1 h
    have hpath := Except.ok.inj h
    subst hpath
    constructor
    · intro hmanaged
      have hne := LocalAdapter.ne_empty_of_isSafeText hroot
      rw [LocalAdapter.isManagedPath, Bool.and_eq_true, isSafeText_normalize, isSafeText_join hdirectory.safe] at hmanaged
      exact .inr ⟨text, htext, hmanaged.1⟩
    · rintro (hfalse | ⟨text', htext', hsafe⟩)
      · rw [hfalse] at hpart
        cases hpart
      · obtain rfl : text' = text := Except.ok.inj (htext'.symm.trans htext)
        exact (Below.normalize.2 (hdirectory.join hsafe)).isManagedPath hroot hend
  · have hpath := Except.ok.inj h
    have hne := hdirectory.ne
    have hself : joinPath [directory] = String.ofList (Paths.normalize directory.toList) := by
      simp [joinPath, hne]
    rw [← hpath, hself]
    have hbelow : Below root (String.ofList (Paths.normalize directory.toList)) := by
      rw [Below.normalize, String.ofList_toList]
      exact hdirectory
    simp only [hbelow.isManagedPath hroot hend, true_iff]
    exact .inl (by simpa using hpart)

/-- The condition under which the adapter accepts what the planner makes. -/
structure AdapterAdmits (input : Json) : Prop where
  accepted : isAccepted (input.member "eula") = true
  root : ∀ root, appDataRootOf (input.member "room") = some (.str root) → endsWithSeparator root = false
  downloads : ∀ mod ∈ packMods input, isSafeDownloadName mod = true

variable {input : Json} {p : Parts}

private theorem plan_roomId (h : Planned input p) : (p.plan input).path ["room", "id"] = some (.str p.id) := by
  have hroom : (p.plan input).path ["room", "id"] =
      (Json.object [("id", get "id" (input.member "room")), ("hostId", get "hostId" (input.member "room")),
        ("name", get "name" (input.member "room")), ("minecraftVersion", p.selected.version),
        ("channel", some p.selected.channel)]).path ["id"] := rfl
  have hkeys : ["id", "hostId", "name", "minecraftVersion", "channel"].Nodup := by decide
  rw [hroom, Json.path_object, h.id_eq]
  · rfl
  · exact hkeys

theorem plan_launcherJar : (p.plan input).path ["fabric", "launcherJar"] = some (.str p.launcherJar) := by
  have hfabric : (p.plan input).path ["fabric", "launcherJar"] =
      (fabricOf p.loader p.launcherJar p.metadataPath).path ["launcherJar"] := rfl
  have hkeys : ["loaderVersion", "installerVersion", "installerVerified", "installerSha256", "serverJarSha256",
    "launcherJar", "metadataPath"].Nodup := by decide
  rw [hfabric, fabricOf, Json.path_object]
  · rfl
  · exact hkeys

/-- The paths that the adapter checks, in its order. -/
def Parts.managedPaths (p : Parts) : List String :=
  [p.layout.roomRoot, p.layout.mods, p.layout.world, p.layout.runtime, p.layout.logs, p.layout.cache,
    p.layout.downloads, p.layout.metadata, p.launcherJar, p.layout.eula, p.layout.serverProperties]

theorem plan_eulaPath (h : Planned input p) : (p.plan input).path ["eula", "path"] = some (.str p.layout.eula) := by
  obtain ⟨writeText, heula⟩ := createEulaPlan_eq_ok h.eula_eq
  have hpath : (p.plan input).path ["eula", "path"] = p.eula.path ["path"] := rfl
  rw [hpath, heula]
  rfl

theorem plan_propertiesPath (h : Planned input p) :
    (p.plan input).path ["serverProperties", "path"] = some (.str p.layout.serverProperties) := by
  obtain ⟨maxPlayers, port, motd, diagnostics, hproperties⟩ := createServerPropertiesPlan_eq_ok h.serverProperties_eq
  have hpath : (p.plan input).path ["serverProperties", "path"] = p.serverProperties.path ["path"] := rfl
  rw [hpath, hproperties]
  rfl

private theorem plan_managedPaths (h : Planned input p) :
    LocalAdapter.managedPaths.map (p.plan input).path = p.managedPaths.map fun path => some (.str path) := by
  simp only [LocalAdapter.managedPaths, Parts.managedPaths, List.map_cons, List.map_nil, plan_launcherJar, plan_eulaPath h,
    plan_propertiesPath h]
  rfl

theorem managedPaths_below (h : Planned input p) : ∀ path ∈ p.managedPaths, Below p.root path := by
  have hlayout := h.layout_below
  have hjar : Below p.root p.launcherJar := hlayout.runtime.joinPath (isSafePathSegment_text h.jar_safe).1
    (isSafeName_of_isSafePathSegment h.jar_safe)
  simp only [Parts.managedPaths, List.forall_mem_cons]
  exact ⟨hlayout.roomRoot, hlayout.mods, hlayout.world, hlayout.runtime, hlayout.logs, hlayout.cache,
    hlayout.downloads, hlayout.metadata, hjar, hlayout.eula, hlayout.serverProperties, by simp⟩

/-- The entries that the adapter reads are those of the pack's mods. -/
theorem plan_modEntries (h : Planned input p) : ∃ entries, (packMods input).mapM (modEntry p.layout) = .ok entries ∧
    LocalAdapter.modEntries (p.plan input) = .ok entries := by
  obtain ⟨entries, hentries, hmods⟩ := createModInstallPlan_eq_ok h.mods_eq
  have hmember : (p.plan input).member "mods" = some p.mods := rfl
  refine ⟨entries, hentries, ?_⟩
  rw [LocalAdapter.modEntries, hmember, hmods]
  rfl

/-- The room's directory ends with the room's id. -/
theorem roomRoot_end (h : Planned input p) : endsWithSeparator p.layout.roomRoot = false := by
  obtain ⟨hne, -, -⟩ := isSafePathSegment_text h.id_safe
  have hroot := LocalAdapter.ne_empty_of_isSafeText h.root_safe
  have hid : p.id.toList ≠ [] := by simpa using hne
  have hpath : p.layout.roomRoot = String.ofList (Paths.normalize
      (p.root.toList ++ '/' :: ("rooms".toList ++ '/' :: p.id.toList))) := joinPath_three hroot (by decide) hne
  have hlast : (p.root.toList ++ '/' :: ("rooms".toList ++ '/' :: p.id.toList)).getLast? = p.id.toList.getLast? := by
    obtain ⟨c, rest, hcons⟩ := List.exists_cons_of_ne_nil hid
    rw [hcons]
    simp [List.getLast?_cons]
  rw [← Bool.not_eq_true, endsWithSeparator_iff, hpath, String.toList_ofList, Paths.normalize_normalize,
    Paths.getLast?_normalize, hlast]
  rintro (hslash | hbackslash)
  · exact not_mem_of_isSafePathSegment h.id_safe (by decide) (List.mem_of_getLast? hslash)
  · exact not_mem_of_isSafePathSegment h.id_safe (by decide) (List.mem_of_getLast? hbackslash)

/-- An accepted plan has been checked. -/
theorem accepted_of_accepts {plan : Json} (h : accepts (some plan) = true) : ∃ root entries, Accepted plan root entries := by
  obtain ⟨result, hresult⟩ := LocalAdapter.exists_of_accepts h
  obtain ⟨failure, hvalid, hresult⟩ := bind_eq_ok.1 hresult
  cases failure with
  | some reason => cases hresult
  | none => exact LocalAdapter.validateRuntimePlan_eq_none.1 hvalid

/-- Once the planner's plan has been checked, nothing throws. -/
theorem accepts_of_accepted (h : Planned input p) {root : String} {entries : List Json}
    (haccepted : Accepted (p.plan input) root entries) : accepts (some (p.plan input)) = true := by
  obtain ⟨maxPlayers, port, motd, diagnostics, hproperties⟩ := createServerPropertiesPlan_eq_ok h.serverProperties_eq
  obtain ⟨modEntries, -, hmods⟩ := createModInstallPlan_eq_ok h.mods_eq
  have hvalid := LocalAdapter.validateRuntimePlan_eq_none.2 ⟨root, entries, haccepted⟩
  have hname : ∀ directory name, ∃ path, LocalAdapter.joinName (some (.str directory)) name = .ok path := by
    intro directory name
    unfold LocalAdapter.joinName
    split_ifs
    · exact ⟨_, rfl⟩
    · exact ⟨_, rfl⟩
  have hroot : (p.plan input).path ["files", "root"] = some (.str p.layout.roomRoot) := rfl
  have hruntime : (p.plan input).path ["layout", "runtime"] = some (.str p.layout.runtime) := rfl
  have hvalues : (p.plan input).path ["serverProperties", "values"] = some (propertyValues maxPlayers port motd) := by
    have hpath : (p.plan input).path ["serverProperties", "values"] = p.serverProperties.path ["values"] := rfl
    rw [hpath, hproperties]
    rfl
  have hentries : read "entries" ((p.plan input).member "mods") = .ok (some (.arr modEntries)) := by
    have hmember : (p.plan input).member "mods" = some p.mods := rfl
    rw [hmember, hmods]
    rfl
  obtain ⟨allowlistPath, hallowlist⟩ := hname p.layout.roomRoot "whitelist.json"
  obtain ⟨bridgePath, hbridge⟩ := hname p.layout.runtime "server-bridge.json"
  obtain ⟨manifestPath, hmanifest⟩ := hname p.layout.runtime "room-runtime-manifest.json"
  obtain ⟨properties, hserialized⟩ : ∃ properties,
      LocalAdapter.serializeServerProperties (propertyValues maxPlayers port motd) = .ok properties := ⟨_, rfl⟩
  have happroval : read "approvalSource" ((p.plan input).member "bridge") = .ok (some (.str "server_observed_uuid")) :=
    rfl
  obtain ⟨packId, hpack⟩ : ∃ packId, read "id" ((p.plan input).member "pack") = .ok packId := ⟨_, rfl⟩
  unfold LocalAdapter.accepts LocalAdapter.createRoomMaterializationPlan
  simp only [Option.getD_some, hvalid, Throwing.ok_bind, hroot, hruntime, hvalues, hallowlist, hbridge, hmanifest,
    hserialized, happroval, hpack, hentries]

theorem Below.holds {root path : String} (h : Below root path) : Json.holds (some (.str path)) = true := by
  simpa [Json.holds, Json.truthy] using h.ne

/-- The fields that the adapter requires are there, but for the consent, which has to be `true` itself. -/
private theorem required_iff (h : Planned input p) :
    (∀ keys ∈ LocalAdapter.requiredPaths, holds ((p.plan input).path keys) = true) ↔
      isAccepted (input.member "eula") = true := by
  obtain ⟨writeText, heula⟩ := createEulaPlan_eq_ok h.eula_eq
  obtain ⟨maxPlayers, port, motd, diagnostics, hproperties⟩ := createServerPropertiesPlan_eq_ok h.serverProperties_eq
  have hbelow := managedPaths_below h
  have hlayout := h.layout_below
  have hid : holds (some (.str p.id)) = true := by
    simpa [holds, Json.truthy] using (isSafePathSegment_text h.id_safe).1
  have haccepted : (p.plan input).path ["eula", "accepted"] = some (.bool (isAccepted (input.member "eula"))) := by
    have hpath : (p.plan input).path ["eula", "accepted"] = p.eula.path ["accepted"] := rfl
    rw [hpath, heula]
    rfl
  have hvalues : holds ((p.plan input).path ["serverProperties", "values"]) = true := by
    have hpath : (p.plan input).path ["serverProperties", "values"] = p.serverProperties.path ["values"] := rfl
    rw [hpath, hproperties]
    rfl
  have hroot : holds ((p.plan input).path ["files", "root"]) = true := hlayout.roomRoot.holds
  have hruntime : holds ((p.plan input).path ["layout", "runtime"]) = true := hlayout.runtime.holds
  have hdownloads : holds ((p.plan input).path ["layout", "downloads"]) = true := hlayout.downloads.holds
  have hmetadata : holds ((p.plan input).path ["layout", "metadata"]) = true := hlayout.metadata.holds
  have hjar : holds (some (.str p.launcherJar)) = true :=
    (hbelow p.launcherJar (by simp [Parts.managedPaths])).holds
  simp only [LocalAdapter.requiredPaths, List.forall_mem_cons, plan_roomId h, plan_launcherJar, haccepted, hid, hroot,
    hruntime, hdownloads, hmetadata, hjar, hvalues, true_and]
  simp [holds, Json.truthy]

/-- The entry of a mod without a source of its own is managed if its download's name is safe. -/
private theorem entry_isManagedPath (h : Planned input p) (hend : endsWithSeparator p.root = false) {mod entry : Json}
    (hmod : mod ∈ packMods input) (hsource : Json.present (mod.member "source") = none)
    (hentry : modEntry p.layout mod = .ok entry) :
    isManagedPath (normalizePath p.root) (entry.member "target") = true ∧
      (isManagedPath (normalizePath p.root) (entry.member "source") = true ↔ isSafeDownloadName mod = true) := by
  have hlayout := h.layout_below
  obtain ⟨source, target, hmodSource, htarget, -, hentrySource, hentryTarget⟩ := modEntry_eq_ok hentry
  have hname := isSafePathSegment_of_isSafeFileName (h.fileNames_safe mod hmod)
  obtain ⟨name, hnameText⟩ := exists_text_of_isSafePathSegment hname
  rw [hentryTarget, hentrySource]
  constructor
  · rw [joinPart_isManagedPath h.root_safe hend hlayout.mods htarget, hnameText]
    rw [hnameText] at hname
    exact .inr ⟨name, rfl, isSafeName_of_isSafePathSegment hname⟩
  · have hget : Json.present (get "source" (some mod)) = none := hsource
    rw [modSource, hget] at hmodSource
    obtain ⟨path, hpath, hmodSource⟩ := bind_eq_ok.1 hmodSource
    have hsourcePath := Except.ok.inj hmodSource
    subst hsourcePath
    rw [joinPart_isManagedPath h.root_safe hend hlayout.downloads hpath, isSafeDownloadName]
    have hsame : coalesce (get "sourceFileName" (some mod)) (get "fileName" (some mod)) =
        coalesce (mod.member "sourceFileName") (mod.member "fileName") := rfl
    rw [hsame, Bool.or_eq_true, Bool.not_eq_true']
    cases textOf (coalesce (mod.member "sourceFileName") (mod.member "fileName")) with
    | error e => simp
    | ok text => simp

/-- The path of a download has a separator in it. -/
private theorem source_isPathLike {layout : AppDataLayout} {mod entry : Json}
    (hsource : Json.present (mod.member "source") = none) (hentry : modEntry layout mod = .ok entry)
    (hname : holds (coalesce (mod.member "sourceFileName") (mod.member "fileName")) = true) :
    LocalAdapter.isPathLikeText (entry.member "source") = true := by
  obtain ⟨source, target, hmodSource, -, -, hentrySource, -⟩ := modEntry_eq_ok hentry
  have hget : Json.present (get "source" (some mod)) = none := hsource
  rw [modSource, hget] at hmodSource
  obtain ⟨path, hpath, hmodSource⟩ := bind_eq_ok.1 hmodSource
  have hsourcePath := Except.ok.inj hmodSource
  subst hsourcePath
  unfold joinPart at hpath
  rw [if_pos] at hpath
  · obtain ⟨text, -, hpath⟩ := bind_eq_ok.1 hpath
    have hpath := Except.ok.inj hpath
    subst hpath
    have hslash : '/' ∈ Paths.normalize (layout.downloads.toList ++ '/' :: text.toList) := by
      rw [Paths.normalize, Paths.mem_collapse]
      simp [Paths.slashes]
    rw [hentrySource]
    simp [LocalAdapter.isPathLikeText, LocalAdapter.isPathLike, hslash]
  · exact hname

/-- The adapter accepts a plan of the planner, for mods without a source of their own, exactly if the consent is `true`,
the root does not end with a separator, and the names of the downloads are safe. -/
theorem accepts_iff {input : Option Json} {plan : Json} (hplan : createHostRuntimePlan input = .ok (.ok plan))
    (hsource : ∀ mod ∈ packMods (input.getD (.obj [])), Json.present (mod.member "source") = none) :
    accepts (some plan) = true ↔ AdapterAdmits (input.getD (.obj [])) := by
  obtain ⟨p, h, rfl⟩ := createHostRuntimePlan_planned hplan
  generalize input.getD (.obj []) = input at h hsource ⊢
  obtain ⟨entries, hentries, hmodEntries⟩ := plan_modEntries h
  have hroot : (p.plan input).path ["layout", "appDataRoot"] = some (.str (normalizePath p.root)) := rfl
  constructor
  · intro haccepts
    obtain ⟨root, entries', haccepted⟩ := accepted_of_accepts haccepts
    obtain rfl : normalizePath p.root = root := by
      have hsame := hroot.symm.trans haccepted.root_eq
      simpa using hsame
    obtain rfl : entries = entries' := Except.ok.inj (hmodEntries.symm.trans haccepted.entries_eq)
    have hend : endsWithSeparator p.root = false := by
      rw [← Bool.not_eq_true]
      intro hend
      have hmanaged := haccepted.managed ["files", "root"] (by decide)
      have hpath : (p.plan input).path ["files", "root"] = some (.str p.layout.roomRoot) := rfl
      rw [hpath, not_isManagedPath (LocalAdapter.ne_empty_of_isSafeText h.root_safe) hend (roomRoot_end h)] at hmanaged
      cases hmanaged
    refine ⟨(required_iff h).1 haccepted.required, ?_, ?_⟩
    · intro root hrootText
      obtain rfl : p.root = root := by
        have hsame := h.root_eq.symm.trans hrootText
        simpa using hsame
      exact hend
    · intro mod hmod
      by_cases hname : holds (coalesce (mod.member "sourceFileName") (mod.member "fileName")) = true
      · obtain ⟨entry, hmem, hentry⟩ := Throwing.exists_of_mapM_eq_ok hentries hmod
        have hlike := source_isPathLike (hsource mod hmod) hentry hname
        exact (entry_isManagedPath h hend hmod (hsource mod hmod) hentry).2.1 (haccepted.sources entry hmem hlike)
      · simp [isSafeDownloadName, hname]
  · intro hadmits
    have hend := hadmits.root p.root h.root_eq
    have hbelow := managedPaths_below h
    have hmanaged : ∀ keys ∈ LocalAdapter.managedPaths,
        isManagedPath (normalizePath p.root) ((p.plan input).path keys) = true := by
      intro keys hkeys
      have hmem : (p.plan input).path keys ∈ LocalAdapter.managedPaths.map (p.plan input).path :=
        List.mem_map_of_mem hkeys
      rw [plan_managedPaths h] at hmem
      obtain ⟨path, hpath, hsame⟩ := List.mem_map.1 hmem
      rw [← hsame]
      exact (hbelow path hpath).isManagedPath h.root_safe hend
    have hentry : ∀ entry ∈ entries, entry.isNull = false ∧
        isManagedPath (normalizePath p.root) (entry.member "target") = true ∧
        isManagedPath (normalizePath p.root) (entry.member "source") = true := by
      intro entry hmem
      obtain ⟨mod, hmod, hentry⟩ := Throwing.exists_of_mem_mapM hentries hmem
      obtain ⟨-, -, -, -, hnull, -, -⟩ := modEntry_eq_ok hentry
      have hpaths := entry_isManagedPath h hend hmod (hsource mod hmod) hentry
      exact ⟨hnull, hpaths.1, hpaths.2.2 (hadmits.downloads mod hmod)⟩
    have hsafe : isSafeText (normalizePath p.root) = true := by
      have hne := LocalAdapter.ne_empty_of_isSafeText h.root_safe
      have hself : normalizePath p.root = String.ofList (Paths.normalize p.root.toList) := by
        simp [normalizePath, joinPath, hne]
      rw [hself, isSafeText_normalize, String.ofList_toList]
      exact h.root_safe
    have haccepted : Accepted (p.plan input) (normalizePath p.root) entries := {
      required := (required_iff h).2 hadmits.accepted
      command := rfl
      entries_eq := hmodEntries
      entries_read := fun entry hmem => (hentry entry hmem).1
      root_eq := hroot
      root_safe := hsafe
      managed := hmanaged
      targets := fun entry hmem => (hentry entry hmem).2.1
      sources := fun entry hmem _ => (hentry entry hmem).2.2 }
    exact accepts_of_accepted h haccepted

/-- An input for a room with one mod under the root. -/
def sampleInput (root : String) : Json :=
  .obj [("minecraft", .obj [("version", .str "1.21.1"), ("supportedVersions", .arr [.str "1.21.1"])]),
    ("java", .obj [("path", .str "java"), ("majorVersion", .num "21")]),
    ("eula", .obj [("accepted", .bool true)]),
    ("fabric", .obj [("expectedInstallerSha256", .str "f00d"), ("installerSha256", .str "f00d"),
      ("loaders", .arr [.obj [("minecraftVersion", .str "1.21.1"), ("version", .str "0.16.0")]])]),
    ("pack", .obj [("id", .str "pack-1"), ("fixed", .bool true), ("expectedSha256", .str "beef"), ("sha256", .str "beef"),
      ("mods", .arr [.obj [("id", .str "lithium"), ("fileName", .str "lithium.jar"), ("sha256", .str "cafe")]])]),
    ("runtime", .obj [("state", .str "stopped")]),
    ("room", .obj [("id", .str "room-1"), ("appDataRoot", .str root)])]

def isPlanned (input : Option Json) : Bool :=
  match createHostRuntimePlan input with
  | .ok (.ok _) => true
  | _ => false

private theorem exists_of_isPlanned {input : Option Json} (h : isPlanned input = true) :
    ∃ plan, createHostRuntimePlan input = .ok (.ok plan) := by
  unfold isPlanned at h
  split at h
  · rename_i plan hplan
    exact ⟨plan, hplan⟩
  · cases h

/-- What the adapter says to the plan for an input, if there is one. -/
def adapterVerdict (input : Option Json) : Option Bool :=
  match createHostRuntimePlan input with
  | .ok (.ok plan) => some (accepts (some plan))
  | _ => none

private theorem exists_of_adapterVerdict {input : Option Json} {verdict : Bool} (h : adapterVerdict input = some verdict) :
    ∃ plan, createHostRuntimePlan input = .ok (.ok plan) ∧ accepts (some plan) = verdict := by
  unfold adapterVerdict at h
  split at h
  · rename_i plan hplan
    exact ⟨plan, hplan, Option.some.inj h⟩
  · cases h

theorem sampleInput_sources (root : String) : ∀ mod ∈ packMods (sampleInput root),
    Json.present (mod.member "source") = none := by
  have hmods : packMods (sampleInput root) =
      [.obj [("id", .str "lithium"), ("fileName", .str "lithium.jar"), ("sha256", .str "cafe")]] := rfl
  rw [hmods]
  simp only [List.forall_mem_singleton]
  rfl

theorem accepts_iff_sample : ∃ plan, createHostRuntimePlan (some (sampleInput "C:\\App")) = .ok (.ok plan) ∧
    accepts (some plan) = true := by
  have hplanned : isPlanned (some (sampleInput "C:\\App")) = true := by decide +kernel
  obtain ⟨plan, hplan⟩ := exists_of_isPlanned hplanned
  have hadmits : AdapterAdmits (sampleInput "C:\\App") := by
    refine ⟨rfl, ?_, by decide +kernel⟩
    intro root hroot
    cases hroot
    decide
  exact ⟨plan, hplan, (accepts_iff hplan (sampleInput_sources _)).2 hadmits⟩

/-- With a separator at the end of the root the planner makes a plan that the adapter turns down. -/
theorem not_accepts_trailing_separator : ¬ ∀ input plan, createHostRuntimePlan input = .ok (.ok plan) →
    (∀ mod ∈ packMods (input.getD (.obj [])), Json.present (mod.member "source") = none) →
    accepts (some plan) = true := by
  intro hall
  have hverdict : adapterVerdict (some (sampleInput "C:\\App\\")) = some false := by decide +kernel
  obtain ⟨plan, hplan, hrejected⟩ := exists_of_adapterVerdict hverdict
  have haccepted := hall _ plan hplan (sampleInput_sources _)
  rw [hrejected] at haccepted
  cases haccepted

end EasyMc.Desktop.HostPlan
