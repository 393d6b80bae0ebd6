import EasyMc.Library.Values
import EasyMc.Runtime.Manager

/-!
# The permission gate

Every entry of a pack needs a source, a licence, a permission, and files that are downloaded from where they come
from (`validateModPermissionMetadata`).  A pack may list its entries as `mods` or as `files`, be a list itself, or be a
single entry; `packEntries` decides which of these is looked at.  It looks at no `files` next to a list of `mods`, so
the gate vouches for both lists exactly if the files pass whenever the mods do (`gate_sound_iff`).
-/

namespace EasyMc.Safety

open Json (coalesce get isStr isNum textOf)
open Throwing (JsError bind_eq_ok)

/-! ### Entries -/

def isHttpsUrl (value : Option Json) : Bool :=
  match value with
  | some (.str text) => Text.startsWith text "https://"
  | _ => false

def normalizeLicense (license : Option Json) : Option Json :=
  if !Json.holds license then none
  else
    match license with
    | some (.str text) =>
      let trimmed := String.ofList (Text.trim text.toList)
      if trimmed = "" then none else some (.str trimmed)
    | license => Json.present (coalesce (get "id" license) (get "name" license))

def hasPermissionRecord (permission : Option Json) : Bool :=
  if !Json.holds permission then false
  else
    match permission with
    | some (.str text) => !(Text.trim text.toList).isEmpty
    | permission =>
      Json.holds (get "redistribution" permission) && Json.holds (get "use" permission)
        && !isStr "rehost" (get "redistribution" permission)

def isRehostedByApp (value : Json) : Bool :=
  Json.holds (value.member "rehostedByApp")
    || Json.holds (value.member "hostedByApp")
    || isStr "app_service" (value.member "hostedBy")
    || isStr "app_rehost" (value.member "distribution")
    || isStr "app_service" (value.member "downloadHost")

/-- What is missing, and why the entry does not pass. -/
structure Findings where
  missing : List String
  reasons : List String

def Findings.append (first second : Findings) : Findings :=
  ⟨first.missing ++ second.missing, first.reasons ++ second.reasons⟩

def noFindings : Findings := ⟨[], []⟩

def findingUnless (condition : Bool) (missing : List String) (reason : String) : Findings :=
  if condition then noFindings else ⟨missing, [reason]⟩

/-- `downloads.length === 0 || !downloads.every(isHttpsUrl)`.  Only arrays have an `every`. -/
def lacksDownloads (downloads : Option Json) : Except JsError Bool :=
  match downloads with
  | some (.arr values) => .ok (values.isEmpty || !values.all fun value => isHttpsUrl (some value))
  | some (.str text) => if text = "" then .ok true else .error .typeError
  | downloads => if isNum "0" (get "length" downloads) then .ok true else .error .typeError

def downloadsOf (file : Json) : Option Json :=
  coalesce (file.member "downloads")
    (if Json.holds (file.member "downloadUrl") || Json.holds (file.member "url") then
      some (.arr (coalesce (file.member "downloadUrl") (file.member "url")).toList)
    else some (.arr []))

def fileFindings (entry file : Json) (index : Nat) : Except JsError Findings := do
  let fileLabel := coalesce (coalesce (file.member "filename") (file.member "path"))
    (some (.str ("file " ++ toString (index + 1))))
  let place := "files[" ++ toString index ++ "]"
  let lacking ← lacksDownloads (downloadsOf file)
  let rehosted := isRehostedByApp file || isRehostedByApp entry
  let pinned := Json.holds (file.path ["hashes", "sha1"]) && Json.holds (file.path ["hashes", "sha512"])
  -- The label is only asked for its text if there is something to say.
  let label ← if lacking || rehosted || !pinned then textOf fileLabel else .ok ""
  .ok (((findingUnless (!lacking) [place ++ ".downloads"] (label ++ " must keep an original HTTPS download URL")).append
    (findingUnless (!rehosted) [place ++ ".rehosting"] (label ++ " must not be rehosted by the app service"))).append
    (findingUnless pinned [place ++ ".hashes"] (label ++ " must include pinned SHA1 and SHA512 hashes")))

structure PermissionResult where
  ok : Bool
  entryId : Json
  missing : List String
  reasons : List String

def sourceUrlOf (entry : Json) : Option Json :=
  coalesce (coalesce (entry.member "sourceUrl") (entry.path ["source", "url"])) (entry.member "projectUrl")

def filesOf (entry : Json) : List Json :=
  match entry.member "files" with
  | some (.arr (file :: files)) => file :: files
  | _ => [entry]

/-- What is found about the source, the licence and the permission. -/
def entryFindings (entry : Json) : Findings :=
  let source :=
    if !Json.holds (sourceUrlOf entry) then ⟨["source"], ["source metadata is required"]⟩
    else findingUnless (isHttpsUrl (sourceUrlOf entry)) [] "source URL must use HTTPS"
  let license := findingUnless (Json.holds (normalizeLicense (entry.member "license"))) ["license"]
    "license metadata is required"
  let permission := findingUnless (hasPermissionRecord (coalesce (entry.member "permission") (entry.member "permissions")))
    ["permission"] "redistribution and use permission metadata is required"
  (source.append license).append permission

def validateModPermissionMetadata (entry : Json) : Except JsError PermissionResult := do
  let files ← (filesOf entry).zipIdx.mapM fun file => fileFindings entry file.1 file.2
  let findings := files.foldl Findings.append (entryFindings entry)
  .ok {
    ok := findings.reasons.isEmpty
    entryId := (Json.present
      (coalesce (coalesce (entry.member "id") (entry.member "projectId")) (entry.member "slug"))).getD .null
    missing := findings.missing.eraseDups
    reasons := findings.reasons }

/-! ### Packs -/

/-- A file with what it lacks taken from its metadata. -/
def withMetadata (file : Json) : Except JsError Json :=
  if file.isNull then .error .typeError
  else .ok (file.assign
    [("sourceUrl", coalesce (file.member "sourceUrl") (file.path ["metadata", "sourceUrl"])),
      ("license", coalesce (file.member "license") (file.path ["metadata", "license"])),
      ("permission", coalesce (file.member "permission") (file.path ["metadata", "permission"]))])

def packEntries (pack : Option Json) : Except JsError (List Json) :=
  match pack with
  | none => .ok []
  | some pack =>
    if !pack.truthy then .ok []
    else
      match pack, pack.member "mods", pack.member "files" with
      | .arr entries, _, _ => .ok entries
      -- A list of mods is taken, whatever the files are.
      | _, some (.arr mods), _ => .ok mods
      | _, _, some (.arr files) => files.mapM withMetadata
      | pack, _, _ => .ok [pack]

structure PolicyResult where
  ok : Bool
  checkedCount : Nat
  failures : List PermissionResult

def validatePackPolicy (pack : Option Json) : Except JsError PolicyResult := do
  let entries ← packEntries pack
  let results ← entries.mapM validateModPermissionMetadata
  let failures := results.filter fun result => !result.ok
  .ok { ok := failures.isEmpty, checkedCount := entries.length, failures := failures }

def validateGeneratedPackPermissionGate (pack : Option Json) : Except JsError PolicyResult := validatePackPolicy pack

/-! ### What a pack that passes has been looked at for -/

/-- The entry passes the check of its metadata. -/
def EntryPasses (entry : Json) : Prop := ∃ result, validateModPermissionMetadata entry = .ok result ∧ result.ok = true

/-- The file passes with what it lacks taken from its metadata. -/
def FilePasses (file : Json) : Prop := ∃ entry, withMetadata file = .ok entry ∧ EntryPasses entry

def GatePasses (pack : Option Json) : Prop :=
  ∃ result, validateGeneratedPackPermissionGate pack = .ok result ∧ result.ok = true

/-- The list under a key of a pack, if there is one. -/
def listUnder (key : String) (pack : Option Json) : Option (List Json) := (get key pack).bind Json.asArr

/-- Everything that a pack lists passes. -/
structure EntriesPass (pack : Option Json) : Prop where
  mods : ∀ mods, listUnder "mods" pack = some mods → ∀ entry ∈ mods, EntryPasses entry
  files : ∀ files, listUnder "files" pack = some files → ∀ file ∈ files, FilePasses file

/-- A pack passes exactly if every entry that is looked at does. -/
theorem gatePasses_iff {pack : Option Json} :
    GatePasses pack ↔ ∃ entries, packEntries pack = .ok entries ∧ ∀ entry ∈ entries, EntryPasses entry := by
  have hnone : ∀ results : List PermissionResult,
      (results.filter fun result => !result.ok).isEmpty = true ↔ ∀ result ∈ results, result.ok = true := by
    intro results
    rw [List.isEmpty_iff, List.filter_eq_nil_iff]
    simp
  unfold GatePasses validateGeneratedPackPermissionGate validatePackPolicy
  constructor
  · rintro ⟨result, hresult, hok⟩
    obtain ⟨entries, hentries, hresult⟩ := bind_eq_ok.1 hresult
    obtain ⟨results, hresults, hresult⟩ := bind_eq_ok.1 hresult
    cases hresult
    exact ⟨entries, hentries, Throwing.mapM_forall_iff.1 ⟨results, hresults, (hnone results).1 hok⟩⟩
  · rintro ⟨entries, hentries, hall⟩
    obtain ⟨results, hresults, hok⟩ := Throwing.mapM_forall_iff.2 hall
    exact ⟨_, bind_eq_ok.2 ⟨entries, hentries, bind_eq_ok.2 ⟨results, hresults, rfl⟩⟩, (hnone results).2 hok⟩

/-- A list under a key, read off the value there. -/
theorem listUnder_eq_some {key : String} {pack : Json} {values : List Json} :
    listUnder key (some pack) = some values ↔ pack.member key = some (.arr values) := by
  change (pack.member key).bind Json.asArr = some values ↔ _
  simp only [Option.bind_eq_some_iff, Json.asArr_eq_some, exists_eq_right]

theorem fields_of_listUnder {key : String} {pack : Json} {values : List Json}
    (h : listUnder key (some pack) = some values) : ∃ fields, pack = .obj fields :=
  Json.exists_fields_of_member (listUnder_eq_some.1 h)

theorem packEntries_of_mods {pack : Option Json} {mods : List Json} (h : listUnder "mods" pack = some mods) :
    packEntries pack = .ok mods := by
  cases pack with
  | none => cases h
  | some pack =>
    obtain ⟨fields, rfl⟩ := fields_of_listUnder h
    rw [listUnder_eq_some] at h
    simp [packEntries, Json.truthy, h]

theorem packEntries_of_files {pack : Option Json} {files : List Json} (hmods : listUnder "mods" pack = none)
    (h : listUnder "files" pack = some files) : packEntries pack = files.mapM withMetadata := by
  cases pack with
  | none => cases h
  | some pack =>
    obtain ⟨fields, rfl⟩ := fields_of_listUnder h
    have hnone : ∀ mods, (Json.obj fields).member "mods" ≠ some (.arr mods) := by
      intro mods heq
      rw [← listUnder_eq_some, hmods] at heq
      cases heq
    rw [listUnder_eq_some] at h
    cases hmember : (Json.obj fields).member "mods" with
    | none => simp [packEntries, Json.truthy, hmember, h]
    | some value =>
      cases value with
      | arr mods => exact absurd hmember (hnone mods)
      | null => simp [packEntries, Json.truthy, hmember, h]
      | bool => simp [packEntries, Json.truthy, hmember, h]
      | num => simp [packEntries, Json.truthy, hmember, h]
      | str => simp [packEntries, Json.truthy, hmember, h]
      | obj => simp [packEntries, Json.truthy, hmember, h]

/-- The gate vouches for everything that a pack lists exactly if the files next to a list of mods pass whenever all of
the mods do. -/
theorem gate_sound_iff (pack : Option Json) :
    (GatePasses pack → EntriesPass pack) ↔
      ∀ mods files, listUnder "mods" pack = some mods → listUnder "files" pack = some files →
        (∀ entry ∈ mods, EntryPasses entry) → ∀ file ∈ files, FilePasses file := by
  rw [gatePasses_iff]
  constructor
  · intro hsound mods files hmods hfiles hall
    exact (hsound ⟨mods, packEntries_of_mods hmods, hall⟩).files files hfiles
  · rintro hboth ⟨entries, hentries, hall⟩
    have hmodsPass : ∀ mods, listUnder "mods" pack = some mods → ∀ entry ∈ mods, EntryPasses entry := by
      intro mods hmods
      rw [packEntries_of_mods hmods] at hentries
      cases hentries
      exact hall
    refine ⟨hmodsPass, fun files hfiles => ?_⟩
    cases hmods : listUnder "mods" pack with
    | some mods => exact hboth mods files hmods hfiles (hmodsPass mods hmods)
    | none =>
      -- Without a list of mods the files are the entries that were looked at.
      rw [packEntries_of_files hmods hfiles] at hentries
      exact Throwing.mapM_forall_iff.1 ⟨entries, hentries, hall⟩

/-- A file without a source, a licence or a permission, next to an empty list of mods. -/
def unlistedFile : Json := .obj [("path", .str "mods/unknown.jar")]

theorem empty_mods_hide_files :
    ¬ (GatePasses (some (.obj [("mods", .arr []), ("files", .arr [unlistedFile])])) →
      EntriesPass (some (.obj [("mods", .arr []), ("files", .arr [unlistedFile])]))) := by
  intro hsound
  have hgate : GatePasses (some (.obj [("mods", .arr []), ("files", .arr [unlistedFile])])) :=
    gatePasses_iff.2 ⟨[], rfl, by simp⟩
  obtain ⟨entry, hentry, result, hresult, hok⟩ := (hsound hgate).files [unlistedFile] rfl unlistedFile List.mem_cons_self
  have hfails : Throwing.answersTrue
      ((withMetadata unlistedFile >>= validateModPermissionMetadata).map PermissionResult.ok) = false := by
    decide +kernel
  rw [hentry, Throwing.ok_bind, hresult] at hfails
  exact Bool.noConfusion (hok.symm.trans hfails)

end EasyMc.Safety
