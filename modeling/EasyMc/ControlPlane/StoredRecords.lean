import EasyMc.Library.JsonTrees
import EasyMc.Library.Machine
import EasyMc.Library.Numbers
import EasyMc.ControlPlane.PostgresRepository

/-!
# What the stores keep of a record (`services/control-plane/src/persistence/memory-store.mjs`)

Before a record is saved, `sanitizeRecord` renames every sensitive key and replaces what stands under it by a digest; the
repository of `persistence/postgres/repository.mjs` has the same function.  Here records are JSON values as the callers
give them, and `RecordStore` is the memory store's maps of such records.

A sanitized record has no sensitive key at any depth (`Settled`), and such a record is left alone by the next save: so a
record that is read, changed in some of its fields and saved again keeps the others.
-/

namespace EasyMc.ControlPlane.Stored

open Json (Everywhere Within tree_induction)
open Throwing (JsError bind_eq_ok)

/-! ### Sanitizing -/

def SENSITIVE_KEY_NAMES : List String :=
  ["accesstoken", "authorization", "cookie", "credential", "devicesignal", "ip", "ipaddress", "inviteurl",
    "invitetoken", "minecraftaccesstoken", "password", "rawtoken", "refreshtoken", "secret", "sessioncredential",
    "sessionid", "sessionkey", "sessiontoken", "token"]

/-- What `key.toLowerCase().replace(/[^a-z0-9]/g, "")` leaves of a character.  Of the characters that are not ASCII only
two have a lower case with an ASCII letter in it. -/
def normalizedChar (c : Char) : List Char :=
  if c = '\u212A' then ['k']
  else if c = '\u0130' then ['i']
  else if ('a' ≤ c.toLower && c.toLower ≤ 'z') || c.isDigit then [c.toLower]
  else []

def normalizedKey (key : String) : String := String.ofList (key.toList.flatMap normalizedChar)

def isSensitiveKey (key : String) : Bool :=
  !Text.endsWith (normalizedKey key) "hash" && SENSITIVE_KEY_NAMES.contains (normalizedKey key)

def hashKeyFor (key : String) : String := key ++ "Hash"

/-- `hashSensitiveValue(value)`: the digest of `String(value)`. -/
def hashSensitiveValue (sha256 : String → String) (value : Option Json) : Except JsError String := do
  let text ← Json.textOf value
  .ok (sha256 text)

mutual

def sanitizeRecord (sha256 : String → String) : Json → Except JsError Json
  | .arr values => do
    let values ← sanitizeValues sha256 values
    .ok (.arr values)
  | .obj fields => do
    let entries ← sanitizeEntries sha256 fields
    .ok (.obj (Json.fromEntries entries))
  | .null => .ok .null
  | .bool value => .ok (.bool value)
  | .num text => .ok (.num text)
  | .str text => .ok (.str text)

def sanitizeValues (sha256 : String → String) : List Json → Except JsError (List Json)
  | [] => .ok []
  | value :: values => do
    let value ← sanitizeRecord sha256 value
    let values ← sanitizeValues sha256 values
    .ok (value :: values)

def sanitizeEntries (sha256 : String → String) : List (String × Json) → Except JsError (List (String × Json))
  | [] => .ok []
  | (key, nested) :: fields =>
    (if isSensitiveKey key then (hashSensitiveValue sha256 (some nested)).map fun digest => (hashKeyFor key, .str digest)
      else (sanitizeRecord sha256 nested).map fun nested => (key, nested)) >>= fun entry =>
        sanitizeEntries sha256 fields >>= fun entries => .ok (entry :: entries)

end

/-! ### Sanitized records -/

variable {sha256 : String → String}

/-- Sanitizing changes nothing of the value itself: no key is sensitive, and the keys are distinct. -/
def Plain : Json → Prop
  | .obj fields => (fields.map Prod.fst).Nodup ∧ ∀ field ∈ fields, isSensitiveKey field.1 = false
  | _ => True

/-- Sanitizing changes nothing at any depth. -/
abbrev Settled (record : Json) : Prop := Everywhere Plain record

/-- The key of a digest is not sensitive. -/
theorem isSensitiveKey_hashKeyFor (key : String) : isSensitiveKey (hashKeyFor key) = false := by
  have hhash : "Hash".toList.flatMap normalizedChar = "hash".toList := by decide
  have hnormalized : (normalizedKey (hashKeyFor key)).toList = (normalizedKey key).toList ++ "hash".toList := by
    simp only [normalizedKey, hashKeyFor, String.toList_ofList, String.toList_append, List.flatMap_append, hhash]
  have hends : Text.endsWith (normalizedKey (hashKeyFor key)) "hash" = true := by
    unfold Text.endsWith
    rw [hnormalized, List.isSuffixOf_iff_suffix]
    exact List.suffix_append _ _
  unfold isSensitiveKey
  rw [hends]
  rfl

theorem mem_sanitizeValues {values values' : List Json} (h : sanitizeValues sha256 values = .ok values') :
    ∀ value' ∈ values', ∃ value ∈ values, sanitizeRecord sha256 value = .ok value' := by
  induction values generalizing values' with
  | nil =>
    cases h
    simp
  | cons value values ih =>
    obtain ⟨first, hfirst, hrest⟩ := bind_eq_ok.1 h
    obtain ⟨rest, hvalues, hlist⟩ := bind_eq_ok.1 hrest
    cases hlist
    refine List.forall_mem_cons.2 ⟨⟨value, List.mem_cons_self, hfirst⟩, fun value' hvalue' => ?_⟩
    obtain ⟨found, hfound, hsanitized⟩ := ih hvalues value' hvalue'
    exact ⟨found, List.mem_cons_of_mem _ hfound, hsanitized⟩

/-- An entry that sanitizing gives is a digest, or stands under a key that is not sensitive. -/
theorem mem_sanitizeEntries {fields entries : List (String × Json)} (h : sanitizeEntries sha256 fields = .ok entries) :
    ∀ entry ∈ entries, (∃ key digest, entry = (hashKeyFor key, .str digest)) ∨
      isSensitiveKey entry.1 = false ∧ ∃ field ∈ fields, sanitizeRecord sha256 field.2 = .ok entry.2 := by
  induction fields generalizing entries with
  | nil =>
    cases h
    simp
  | cons field fields ih =>
    obtain ⟨key, nested⟩ := field
    rw [sanitizeEntries, bind_eq_ok] at h
    obtain ⟨first, hfirst, hrest⟩ := h
    obtain ⟨rest, hentries, hlist⟩ := bind_eq_ok.1 hrest
    cases hlist
    refine List.forall_mem_cons.2 ⟨?_, fun entry hentry => ?_⟩
    · by_cases hkey : isSensitiveKey key = true
      · rw [if_pos hkey] at hfirst
        obtain ⟨digest, -, rfl⟩ := Throwing.map_eq_ok.1 hfirst
        exact .inl ⟨key, digest, rfl⟩
      · rw [if_neg hkey] at hfirst
        obtain ⟨value, hvalue, rfl⟩ := Throwing.map_eq_ok.1 hfirst
        exact .inr ⟨by simpa using hkey, _, List.mem_cons_self, hvalue⟩
    · rcases ih hentries entry hentry with hdigest | ⟨hkey, found, hfound, hsanitized⟩
      · exact .inl hdigest
      · exact .inr ⟨hkey, found, List.mem_cons_of_mem _ hfound, hsanitized⟩

/-- What sanitizing leaves needs no more sanitizing. -/
theorem settled_of_sanitizeRecord {record stored : Json} (h : sanitizeRecord sha256 record = .ok stored) :
    Settled stored := by
  induction record using tree_induction generalizing stored with
  | null =>
    cases h
    simp [Plain]
  | bool value =>
    cases h
    simp [Plain]
  | num text =>
    cases h
    simp [Plain]
  | str text =>
    cases h
    simp [Plain]
  | arr values ih =>
    obtain ⟨values', hvalues, hlist⟩ := bind_eq_ok.1 h
    cases hlist
    refine Json.everywhere_arr.2 ⟨trivial, fun value' hvalue' => ?_⟩
    obtain ⟨value, hvalue, hsanitized⟩ := mem_sanitizeValues hvalues value' hvalue'
    exact ih value hvalue hsanitized
  | obj fields ih =>
    obtain ⟨entries, hentries, hobject⟩ := bind_eq_ok.1 h
    cases hobject
    have hmem : ∀ field ∈ Json.fromEntries entries, field ∈ entries := fun _ => Json.mem_of_mem_fromEntries
    refine Json.everywhere_obj.2 ⟨⟨Json.nodup_fromEntries entries, fun field hfield => ?_⟩, fun field hfield => ?_⟩
    · rcases mem_sanitizeEntries hentries field (hmem field hfield) with ⟨key, digest, rfl⟩ | ⟨hkey, -⟩
      · exact isSensitiveKey_hashKeyFor key
      · exact hkey
    · rcases mem_sanitizeEntries hentries field (hmem field hfield) with ⟨key, digest, rfl⟩ | ⟨-, found, hfound, hvalue⟩
      · simp [Plain]
      · exact ih found hfound hvalue

theorem sanitizeValues_settled {values : List Json} (h : ∀ value ∈ values, sanitizeRecord sha256 value = .ok value) :
    sanitizeValues sha256 values = .ok values := by
  induction values with
  | nil => rfl
  | cons value values ih =>
    obtain ⟨hvalue, hvalues⟩ := List.forall_mem_cons.1 h
    rw [sanitizeValues, hvalue, ih hvalues]
    rfl

/-- Settled fields are left as they are, whatever stands after them. -/
theorem sanitizeEntries_append {fields : List (String × Json)} (hkeys : ∀ field ∈ fields, isSensitiveKey field.1 = false)
    (h : ∀ field ∈ fields, sanitizeRecord sha256 field.2 = .ok field.2) (rest : List (String × Json)) :
    sanitizeEntries sha256 (fields ++ rest) = (sanitizeEntries sha256 rest).map fun entries => fields ++ entries := by
  induction fields with
  | nil =>
    rw [List.nil_append]
    cases sanitizeEntries sha256 rest <;> rfl
  | cons field fields ih =>
    obtain ⟨hkey, hkeys⟩ := List.forall_mem_cons.1 hkeys
    obtain ⟨hfield, hfields⟩ := List.forall_mem_cons.1 h
    rw [List.cons_append, sanitizeEntries, if_neg (by simp [hkey]), hfield, ih hkeys hfields]
    cases sanitizeEntries sha256 rest <;> rfl

/-- A settled record is left as it is. -/
theorem sanitizeRecord_settled {record : Json} (h : Settled record) : sanitizeRecord sha256 record = .ok record := by
  induction record using tree_induction with
  | null => rfl
  | bool value => rfl
  | num text => rfl
  | str text => rfl
  | arr values ih =>
    have hvalues := (Json.everywhere_arr.1 h).2
    rw [sanitizeRecord, sanitizeValues_settled fun value hvalue => ih value hvalue (hvalues value hvalue)]
    rfl
  | obj fields ih =>
    obtain ⟨⟨hnodup, hkeys⟩, hfields⟩ := Json.everywhere_obj.1 h
    have hentries := sanitizeEntries_append hkeys (fun field hfield => ih field hfield (hfields field hfield)) []
    rw [List.append_nil, sanitizeEntries, Except.map, List.append_nil] at hentries
    rw [sanitizeRecord, hentries, Throwing.ok_bind, Json.fromEntries_of_nodup hnodup]

/-! ### The records of the service -/

def stateText : InviteState → String
  | .active => "active"
  | .expired => "expired"
  | .revoked => "revoked"
  | .unavailable => "unavailable"

/-- A settled record with other values for some of its fields. -/
theorem settled_spread {record : Json} (h : Settled record) {changes : List (String × Json)}
    (hchanges : ∀ change ∈ changes, isSensitiveKey change.1 = false ∧ Settled change.2) :
    Settled (record.spread changes) := by
  have hfields : ∀ field ∈ record.fields, isSensitiveKey field.1 = false ∧ Settled field.2 := by
    cases record with
    | obj fields =>
      obtain ⟨⟨-, hkeys⟩, hvalues⟩ := Json.everywhere_obj.1 h
      exact fun field hfield => ⟨hkeys field hfield, hvalues field hfield⟩
    | null => simp [Json.fields]
    | bool value => simp [Json.fields]
    | num text => simp [Json.fields]
    | str text => simp [Json.fields]
    | arr values => simp [Json.fields]
  have hall : ∀ field ∈ Json.fromEntries (record.fields ++ changes), isSensitiveKey field.1 = false ∧ Settled field.2 := by
    intro field hfield
    rcases List.mem_append.1 (Json.mem_of_mem_fromEntries hfield) with hold | hnew
    · exact hfields field hold
    · exact hchanges field hnew
  exact Json.everywhere_obj.2
    ⟨⟨Json.nodup_fromEntries _, fun field hfield => (hall field hfield).1⟩, fun field hfield => (hall field hfield).2⟩

theorem nodup_of_settled {record : Json} (h : Settled record) : (record.fields.map Prod.fst).Nodup := by
  cases record with
  | obj fields => exact (Json.everywhere_obj.1 h).1.1
  | null => exact .nil
  | bool value => exact .nil
  | num text => exact .nil
  | str text => exact .nil
  | arr values => exact .nil

/-- A settled record has nothing under a sensitive key. -/
theorem member_of_settled {record : Json} (h : Settled record) {key : String} (hkey : isSensitiveKey key = true) :
    record.member key = none := by
  cases record with
  | obj fields =>
    refine List.lookup_eq_none_iff.2 fun field hfield => ?_
    have hplain := (Json.everywhere_obj.1 h).1.2 field hfield
    rw [bne_iff_ne]
    rintro rfl
    rw [hkey] at hplain
    cases hplain
  | null => rfl
  | bool value => rfl
  | num text => rfl
  | str text => rfl
  | arr values => rfl

/-! ### The memory store's maps -/

inductive SaveError
  | missingId (message : String)
  | thrown (error : JsError)
  deriving DecidableEq

inductive Kind
  | room | invite | approval | session
  deriving DecidableEq, Repr

def Kind.text : Kind → String
  | .room => "room"
  | .invite => "invite"
  | .approval => "approval"
  | .session => "session"

/-- The memory store, with the records as JSON values.  The index has the ids of the invites under their hashes. -/
structure RecordStore where
  rooms : Json.IdMap Json
  invites : Json.IdMap Json
  inviteTokenIndex : Json.IdMap (Option Json)
  approvals : Json.IdMap Json
  sessions : Json.IdMap Json

def createMemoryControlPlaneStore : RecordStore :=
  { rooms := .empty, invites := .empty, inviteTokenIndex := .empty, approvals := .empty, sessions := .empty }

namespace RecordStore

def records (store : RecordStore) : Kind → Json.IdMap Json
  | .room => store.rooms
  | .invite => store.invites
  | .approval => store.approvals
  | .session => store.sessions

/-- The store with a record under its id. -/
def withRecord (store : RecordStore) (stored : Json) : Kind → RecordStore
  | .room => { store with rooms := store.rooms.set (stored.member "id") stored }
  | .invite => { store with invites := store.invites.set (stored.member "id") stored }
  | .approval => { store with approvals := store.approvals.set (stored.member "id") stored }
  | .session => { store with sessions := store.sessions.set (stored.member "id") stored }

/-- The store with an invite under its id and its id under its hash, if that is not empty. -/
def withInvite (store : RecordStore) (stored : Json) : RecordStore :=
  { store.withRecord stored .invite with
    inviteTokenIndex :=
      if Json.holds (stored.member "tokenHash") then
        store.inviteTokenIndex.set (stored.member "tokenHash") (stored.member "id")
      else store.inviteTokenIndex }

end RecordStore

def requireRecordId (kind : Kind) (record : Json) : Except SaveError Json :=
  if Json.holds (record.member "id") then .ok record
  else .error (.missingId (kind.text ++ " records require an id"))

/-- `sanitizeRecord(requireRecordId(record, kind))`. -/
def storedRecord (sha256 : String → String) (kind : Kind) (record : Json) : Except SaveError Json := do
  let record ← requireRecordId kind record
  (sanitizeRecord sha256 record).mapError .thrown

/-- A save of a room, an approval or a session. -/
def saveRecord (sha256 : String → String) (kind : Kind) (record : Json) (store : RecordStore) :
    Except SaveError Json × RecordStore :=
  match storedRecord sha256 kind record with
  | .error error => (.error error, store)
  | .ok stored => (.ok stored, store.withRecord stored kind)

def saveRoom (sha256 : String → String) := saveRecord sha256 .room

def saveApproval (sha256 : String → String) := saveRecord sha256 .approval

def saveSession (sha256 : String → String) := saveRecord sha256 .session

/-- What is stored for an invite: the sanitized record, with the hash of its token if it has none. -/
def storedInvite (sha256 : String → String) (record : Json) : Except SaveError Json := do
  let stored ← storedRecord sha256 .invite record
  if Json.holds (record.member "token") && !Json.holds (stored.member "tokenHash") then
    (hashSensitiveValue sha256 (record.member "token")).mapError .thrown >>= fun tokenHash =>
      .ok (stored.spread [("tokenHash", .str tokenHash)])
  else .ok stored

def saveInvite (sha256 : String → String) (record : Json) (store : RecordStore) : Except SaveError Json × RecordStore :=
  match storedInvite sha256 record with
  | .error error => (.error error, store)
  | .ok stored => (.ok stored, store.withInvite stored)

def save (sha256 : String → String) : Kind → Json → RecordStore → Except SaveError Json × RecordStore
  | .room => saveRoom sha256
  | .invite => saveInvite sha256
  | .approval => saveApproval sha256
  | .session => saveSession sha256

/-- One save of a run. -/
def step (sha256 : String → String) (store : RecordStore) (call : Kind × Json) : Except SaveError Json × RecordStore :=
  save sha256 call.1 call.2 store

/-- The store after some saves. -/
def savedStore (sha256 : String → String) (saves : List (Kind × Json)) : RecordStore :=
  Machine.run (step sha256) createMemoryControlPlaneStore saves

/-! ### Saves -/

theorem records_withRecord (store : RecordStore) (stored : Json) (kind kind' : Kind) :
    (store.withRecord stored kind).records kind' =
      if kind = kind' then (store.records kind').set (stored.member "id") stored else store.records kind' := by
  cases kind <;> cases kind' <;> rfl

theorem records_withInvite (store : RecordStore) (stored : Json) (kind : Kind) :
    (store.withInvite stored).records kind = (store.withRecord stored .invite).records kind := by
  cases kind <;> rfl

theorem saveInvite_ok {record stored : Json} (h : storedInvite sha256 record = .ok stored) (store : RecordStore) :
    save sha256 .invite record store = (.ok stored, store.withInvite stored) := by
  change saveInvite sha256 record store = _
  rw [saveInvite, h]

theorem saveInvite_error {record : Json} {error : SaveError} (h : storedInvite sha256 record = .error error)
    (store : RecordStore) : save sha256 .invite record store = (.error error, store) := by
  change saveInvite sha256 record store = _
  rw [saveInvite, h]

theorem storedRecord_eq_ok {kind : Kind} {record stored : Json} : storedRecord sha256 kind record = .ok stored ↔
    Json.holds (record.member "id") = true ∧ sanitizeRecord sha256 record = .ok stored := by
  unfold storedRecord requireRecordId
  by_cases hid : Json.holds (record.member "id") = true
  · rw [if_pos hid, Throwing.ok_bind, Throwing.mapError_eq_ok]
    simp [hid]
  · rw [if_neg hid]
    simp [hid]

theorem isSensitiveKey_tokenHash : isSensitiveKey "tokenHash" = false := isSensitiveKey_hashKeyFor "token"

theorem settled_storedInvite {record stored : Json} (h : storedInvite sha256 record = .ok stored) : Settled stored := by
  obtain ⟨sanitized, hsanitized, hrest⟩ := bind_eq_ok.1 h
  have hsettled := settled_of_sanitizeRecord (storedRecord_eq_ok.1 hsanitized).2
  split_ifs at hrest with htoken
  · obtain ⟨tokenHash, -, hstored⟩ := bind_eq_ok.1 hrest
    cases hstored
    refine settled_spread hsettled fun change hchange => ?_
    obtain rfl := List.mem_singleton.1 hchange
    exact ⟨isSensitiveKey_tokenHash, by simp [Plain]⟩
  · cases hrest
    exact hsettled

/-- A save refuses the record, or puts a settled record under its id and changes no other map of records. -/
theorem save_cases (sha256 : String → String) (kind : Kind) (record : Json) (store : RecordStore) :
    (∃ error, save sha256 kind record store = (.error error, store)) ∨
    ∃ stored, (save sha256 kind record store).1 = .ok stored ∧ Settled stored ∧
      ∀ kind', (save sha256 kind record store).2.records kind' =
        if kind = kind' then (store.records kind').set (stored.member "id") stored else store.records kind' := by
  have hrecord : ∀ kind : Kind, (∃ error, saveRecord sha256 kind record store = (.error error, store)) ∨
      ∃ stored, (saveRecord sha256 kind record store).1 = .ok stored ∧ Settled stored ∧
        ∀ kind', (saveRecord sha256 kind record store).2.records kind' =
          if kind = kind' then (store.records kind').set (stored.member "id") stored else store.records kind' := by
    intro kind
    unfold saveRecord
    cases hstored : storedRecord sha256 kind record with
    | error error => exact .inl ⟨error, rfl⟩
    | ok stored =>
      have hsettled := settled_of_sanitizeRecord (storedRecord_eq_ok.1 hstored).2
      exact .inr ⟨stored, rfl, hsettled, records_withRecord store stored kind⟩
  cases kind with
  | room => exact hrecord .room
  | approval => exact hrecord .approval
  | session => exact hrecord .session
  | invite =>
    cases hstored : storedInvite sha256 record with
    | error error => exact .inl ⟨error, saveInvite_error hstored store⟩
    | ok stored =>
      rw [saveInvite_ok hstored]
      refine .inr ⟨stored, rfl, settled_storedInvite hstored, fun kind' => ?_⟩
      rw [records_withInvite, records_withRecord]

/-- Every record is settled and stands under its id. -/
def Kept (store : RecordStore) : Prop :=
  ∀ kind id stored, (store.records kind).get id = some stored →
    Settled stored ∧ Json.sameValueZero (stored.member "id") id = true

theorem Kept.step {store : RecordStore} (h : Kept store) (call : Kind × Json) : Kept (step sha256 store call).2 := by
  rcases save_cases sha256 call.1 call.2 store with ⟨error, hrefused⟩ | ⟨stored, -, hsettled, hrecords⟩
  · unfold Stored.step
    rw [hrefused]
    exact h
  · intro kind id found hfound
    change ((save sha256 call.1 call.2 store).2.records kind).get id = some found at hfound
    rw [hrecords] at hfound
    by_cases hkind : call.1 = kind
    · rw [if_pos hkind, Json.IdMap.get_set] at hfound
      split at hfound
      · rename_i hid
        cases hfound
        exact ⟨hsettled, hid⟩
      · exact h kind id found hfound
    · rw [if_neg hkind] at hfound
      exact h kind id found hfound

theorem kept_savedStore (sha256 : String → String) (saves : List (Kind × Json)) : Kept (savedStore sha256 saves) := by
  refine Machine.run_invariant (I := Kept) (P := fun _ _ => True) (fun store call h _ => h.step call) ?_
    (Machine.Along.of_forall (fun _ _ => trivial) _)
  intro kind id stored h
  cases kind <;> cases h

/-! ### Reading, changing and saving again -/

/-- Fields whose change leaves the record settled and under its id. -/
def Harmless (changes : List (String × Json)) : Prop :=
  ∀ change ∈ changes, change.1 ≠ "id" ∧ isSensitiveKey change.1 = false ∧ Settled change.2

/-- A settled record is stored as it is. -/
theorem save_settled (sha256 : String → String) (kind : Kind) {record : Json} (hid : Json.holds (record.member "id") = true)
    (hsettled : Settled record) (store : RecordStore) :
    (save sha256 kind record store).1 = .ok record ∧
      (save sha256 kind record store).2.records kind = (store.records kind).set (record.member "id") record := by
  have hstored : ∀ kind, storedRecord sha256 kind record = .ok record := fun kind =>
    storedRecord_eq_ok.2 ⟨hid, sanitizeRecord_settled hsettled⟩
  have hrecord : ∀ kind, (saveRecord sha256 kind record store).1 = .ok record ∧
      (saveRecord sha256 kind record store).2.records kind = (store.records kind).set (record.member "id") record := by
    intro kind
    unfold saveRecord
    rw [hstored]
    exact ⟨rfl, by rw [records_withRecord, if_pos rfl]⟩
  cases kind with
  | room => exact hrecord .room
  | approval => exact hrecord .approval
  | session => exact hrecord .session
  | invite =>
    -- There is no token left that would have to be hashed.
    have htoken : Json.holds (record.member "token") = false := by
      rw [member_of_settled hsettled (by decide)]
      rfl
    have hinvite : storedInvite sha256 record = .ok record := by
      unfold storedInvite
      rw [hstored, Throwing.ok_bind, htoken]
      rfl
    rw [saveInvite_ok hinvite]
    exact ⟨rfl, by rw [records_withInvite, records_withRecord, if_pos rfl]⟩

/-- Sanitizing twice is sanitizing once; a sanitized record has no sensitive key at any depth; and a record that is read
from the store, changed in some of its fields and saved again is stored as it was changed, with the other fields as they
were. -/
theorem sanitizeRecord_stable (sha256 : String → String) :
    (∀ record, (sanitizeRecord sha256 record >>= sanitizeRecord sha256) = sanitizeRecord sha256 record) ∧
    (∀ record stored, sanitizeRecord sha256 record = .ok stored →
      ∀ fields, Within (.obj fields) stored → ∀ field ∈ fields, isSensitiveKey field.1 = false) ∧
    ∀ saves kind id stored changes, ((savedStore sha256 saves).records kind).get id = some stored →
      Json.holds id = true → Harmless changes →
      (save sha256 kind (stored.spread changes) (savedStore sha256 saves)).1 = .ok (stored.spread changes) ∧
        ((savedStore sha256 (saves ++ [(kind, stored.spread changes)])).records kind).get id =
          some (stored.spread changes) ∧
        ∀ key, key ∉ changes.map Prod.fst → (stored.spread changes).member key = stored.member key := by
  refine ⟨?_, ?_, ?_⟩
  · intro record
    cases hstored : sanitizeRecord sha256 record with
    | error error => rfl
    | ok stored => exact sanitizeRecord_settled (settled_of_sanitizeRecord hstored)
  · intro record stored hstored fields hwithin
    exact (settled_of_sanitizeRecord hstored _ hwithin).2
  · intro saves kind id stored changes hstored htruthy hharmless
    obtain ⟨hsettled, hid⟩ := kept_savedStore sha256 saves kind id stored hstored
    have hother : ∀ key, key ∉ changes.map Prod.fst → (stored.spread changes).member key = stored.member key :=
      fun key hkey => Json.member_spread (nodup_of_settled hsettled) hkey
    have hchanged := settled_spread hsettled fun change hchange => (hharmless change hchange).2
    have hsameId : (stored.spread changes).member "id" = id := by
      rw [← Json.sameValueZero_eq hid]
      refine hother "id" fun hmem => ?_
      obtain ⟨change, hchange, hkey⟩ := List.mem_map.1 hmem
      exact (hharmless change hchange).1 hkey
    have hsaved := save_settled sha256 kind (by rw [hsameId]; exact htruthy) hchanged (savedStore sha256 saves)
    have hself : Json.sameValueZero id id = true := by
      rw [Json.sameValueZero_eq hid] at hid
      exact hid
    refine ⟨hsaved.1, ?_, hother⟩
    have hafter : savedStore sha256 (saves ++ [(kind, stored.spread changes)]) =
        (save sha256 kind (stored.spread changes) (savedStore sha256 saves)).2 := Machine.run_append _ _ _
    rw [hafter, hsaved.2, hsameId, Json.IdMap.get_set, if_pos hself]

/-- An invite as the service creates it, and as it is stored. -/
def newInvite : Json :=
  .obj [("id", .str "invite-1"), ("roomId", .str "room-1"), ("token", .str "a"), ("state", .str "active"),
    ("createdAt", .num "1"), ("expiresAt", .num "100"), ("revokedAt", .null)]

def keptInvite : Json :=
  .obj [("id", .str "invite-1"), ("roomId", .str "room-1"), ("tokenHash", .str (digestOfA "a")),
    ("state", .str "active"), ("createdAt", .num "1"), ("expiresAt", .num "100"), ("revokedAt", .null)]

/-- What `revokeInvite` changes. -/
def revoked : List (String × Json) := [("state", .str "revoked"), ("revokedAt", .num "5")]

theorem harmless_revoked : Harmless revoked := by
  intro change hchange
  simp only [revoked, List.mem_cons, List.not_mem_nil, or_false] at hchange
  rcases hchange with rfl | rfl
  · exact ⟨by decide, by decide, by simp [Plain]⟩
  · exact ⟨by decide, by decide, by simp [Plain]⟩

theorem sanitizeRecord_stable_revoked :
    (save digestOfA .invite (keptInvite.spread revoked) (savedStore digestOfA [(.invite, newInvite)])).1 =
        .ok (keptInvite.spread revoked) ∧
      ((savedStore digestOfA [(.invite, newInvite), (.invite, keptInvite.spread revoked)]).records .invite).get
        (some (.str "invite-1")) = some (keptInvite.spread revoked) ∧
      ∀ key, key ∉ revoked.map Prod.fst → (keptInvite.spread revoked).member key = keptInvite.member key :=
  (sanitizeRecord_stable digestOfA).2.2 [(.invite, newInvite)] .invite (some (.str "invite-1")) keptInvite revoked
    rfl rfl harmless_revoked

end EasyMc.ControlPlane.Stored
