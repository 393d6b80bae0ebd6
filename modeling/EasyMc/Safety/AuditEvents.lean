import EasyMc.Library.JsonTrees
import EasyMc.Safety.Redaction

/-!
# Audit events and the redactor (`packages/safety/src/index.mjs`)

`createAuditEvent` refuses a payload in which `findSensitivePaths` finds a sensitive key or a string that the redactor
would rewrite.  The two walks look for the same thing (`Plain`): what the one accepts, the other leaves as it is.  And
what the redactor leaves of a value does not depend on what stands under its sensitive keys.
-/

namespace EasyMc.Safety

open Json (AlikeBut Everywhere tree_induction)

/-! ### Audit events -/

namespace AuditEventTypes

def ROOM_CREATED : String := "room_created"

def INVITE_CREATED : String := "invite_created"

def INVITE_REVOKED : String := "invite_revoked"

def APPROVAL_DECISION : String := "approval_decision"

def JOIN_RATE_LIMITED : String := "join_rate_limited"

def USER_BLOCKED : String := "user_blocked"

def RELAY_USAGE : String := "relay_usage"

end AuditEventTypes

open AuditEventTypes in
/-- The fields that a payload must have, by the type of the event. -/
def auditRequirements : List (String × List String) :=
  [(ROOM_CREATED, ["roomId", "actorId"]),
    (INVITE_CREATED, ["roomId", "actorId", "inviteId"]),
    (INVITE_REVOKED, ["roomId", "actorId", "inviteId", "reason"]),
    (APPROVAL_DECISION, ["roomId", "actorId", "requestId", "decision"]),
    (JOIN_RATE_LIMITED, ["roomId", "inviteId", "limitKey", "reason"]),
    (USER_BLOCKED, ["roomId", "actorId", "minecraftUuid", "reason"]),
    (RELAY_USAGE, ["roomId", "sessionIdHash", "byteCount"])]

/-- The path of what stands under `key`. -/
def pathUnder (basePath key : String) : String := if basePath = "" then key else basePath ++ "." ++ key

mutual

/-- `findSensitivePaths(value, basePath)`, with the redactor of strings as a parameter. -/
def findSensitivePaths (redactString : String → String) (basePath : String) : Json → List String
  | .null => []
  | .str text =>
    if redactString text = text then [] else [if basePath = "" then "<value>" else basePath]
  | .bool _ => []
  | .num _ => []
  | .arr values => pathsOfValues redactString basePath 0 values
  | .obj fields => pathsOfFields redactString basePath fields

/-- The entries of an array, from the one at `index` on. -/
def pathsOfValues (redactString : String → String) (basePath : String) (index : Nat) : List Json → List String
  | [] => []
  | value :: values =>
    (if isSensitiveKey (toString index) then [pathUnder basePath (toString index)]
      else findSensitivePaths redactString (pathUnder basePath (toString index)) value) ++
      pathsOfValues redactString basePath (index + 1) values

def pathsOfFields (redactString : String → String) (basePath : String) : List (String × Json) → List String
  | [] => []
  | (key, value) :: fields =>
    (if isSensitiveKey key then [pathUnder basePath key]
      else findSensitivePaths redactString (pathUnder basePath key) value) ++
      pathsOfFields redactString basePath fields

end

structure AuditEvent where
  type : String
  occurredAt : String
  payload : Json

/-- `createAuditEvent(type, payload, { occurredAt })`; the error is the message of the `TypeError`. -/
def createAuditEvent (redactString : String → String) (type : String) (payload : Json) (occurredAt : Option String) :
    Except String AuditEvent :=
  match auditRequirements.lookup type with
  | none => .error ("Unknown audit event type: " ++ type)
  | some requiredFields =>
    let missing := requiredFields.filter fun field => (Json.present (payload.member field)).isNone
    if missing ≠ [] then
      .error ("Audit event " ++ type ++ " is missing required fields: " ++ ", ".intercalate missing)
    else
      let sensitivePaths := findSensitivePaths redactString "" payload
      if sensitivePaths ≠ [] then
        .error ("Audit event " ++ type ++ " cannot include sensitive fields: " ++ ", ".intercalate sensitivePaths)
      else
        .ok { type, occurredAt := occurredAt.getD "1970-01-01T00:00:00.000Z", payload }

/-! ### What both walks look for -/

/-- There is nothing to redact in the value itself: a string stays as it is, and no key is sensitive. -/
def Plain (redactString : String → String) : Json → Prop
  | .str text => redactString text = text
  | .obj fields => ∀ field ∈ fields, isSensitiveKey field.1 = false
  | _ => True

theorem redactValues_eq_map (redactString : String → String) (values : List Json) :
    redactValues redactString values = values.map (redactValue redactString "") := by
  induction values with
  | nil => rfl
  | cons value values ih => rw [redactValues, ih, List.map_cons]

theorem redactFields_eq_map (redactString : String → String) (fields : List (String × Json)) :
    redactFields redactString fields =
      fields.map fun field => (field.1, redactValue redactString field.1 field.2) := by
  induction fields with
  | nil => rfl
  | cons field fields ih => rw [redactFields, ih, List.map_cons]

theorem unlessSensitive_of_not {key : String} (h : isSensitiveKey key = false) (redacted : Json) :
    unlessSensitive key redacted = redacted := by
  simp [unlessSensitive, h]

theorem isSensitiveKey_empty : isSensitiveKey "" = false := by decide +kernel

theorem map_of_unchanged {α : Type} {f : α → α} {l : List α} (h : ∀ a ∈ l, f a = a) : l.map f = l := by
  rw [List.map_congr_left h, List.map_id']

/-- The redactor leaves a value without anything to redact as it is. -/
theorem redactValue_plain {redactString : String → String} {value : Json}
    (h : Everywhere (Plain redactString) value) {key : String} (hkey : isSensitiveKey key = false) :
    redactValue redactString key value = value := by
  induction value using tree_induction generalizing key with
  | null => rfl
  | bool value => exact unlessSensitive_of_not hkey _
  | num text => exact unlessSensitive_of_not hkey _
  | str text =>
    have hplain : redactString text = text := h.self
    rw [redactValue, hplain, unlessSensitive_of_not hkey]
  | arr values ih =>
    obtain ⟨-, hvalues⟩ := Json.everywhere_arr.1 h
    have hentries : values.map (redactValue redactString "") = values :=
      map_of_unchanged fun value hvalue => ih value hvalue (hvalues value hvalue) isSensitiveKey_empty
    rw [redactValue, redactValues_eq_map, hentries, unlessSensitive_of_not hkey]
  | obj fields ih =>
    obtain ⟨hkeys, hfields⟩ := Json.everywhere_obj.1 h
    have hmembers : (fields.map fun field => (field.1, redactValue redactString field.1 field.2)) = fields := by
      refine map_of_unchanged fun field hfield => ?_
      rw [ih field hfield (hfields field hfield) (hkeys field hfield)]
    rw [redactValue, redactFields_eq_map, hmembers, unlessSensitive_of_not hkey]

/-- Where no path is found in an array, none is found in an entry. -/
theorem pathsOfValues_eq_nil {redactString : String → String} {basePath : String} {index : Nat} {values : List Json}
    (h : pathsOfValues redactString basePath index values = []) :
    ∀ value ∈ values, ∃ path, findSensitivePaths redactString path value = [] := by
  induction values generalizing index with
  | nil => simp
  | cons value values ih =>
    rw [pathsOfValues, List.append_eq_nil_iff] at h
    obtain ⟨hvalue, hvalues⟩ := h
    refine List.forall_mem_cons.2 ⟨?_, ih hvalues⟩
    by_cases hkey : isSensitiveKey (toString index) = true
    · rw [if_pos hkey] at hvalue
      cases hvalue
    · rw [if_neg hkey] at hvalue
      exact ⟨_, hvalue⟩

/-- Where no path is found in an object, no key is sensitive and none is found in a member. -/
theorem pathsOfFields_eq_nil {redactString : String → String} {basePath : String} {fields : List (String × Json)}
    (h : pathsOfFields redactString basePath fields = []) :
    ∀ field ∈ fields, isSensitiveKey field.1 = false ∧
      ∃ path, findSensitivePaths redactString path field.2 = [] := by
  induction fields with
  | nil => simp
  | cons field fields ih =>
    rw [pathsOfFields, List.append_eq_nil_iff] at h
    obtain ⟨hfield, hfields⟩ := h
    refine List.forall_mem_cons.2 ⟨?_, ih hfields⟩
    by_cases hkey : isSensitiveKey field.1 = true
    · rw [if_pos hkey] at hfield
      cases hfield
    · rw [if_neg hkey] at hfield
      exact ⟨by simpa using hkey, _, hfield⟩

/-- Where the detector finds no path, there is nothing to redact at any depth. -/
theorem plain_of_findSensitivePaths {redactString : String → String} {basePath : String} {value : Json}
    (h : findSensitivePaths redactString basePath value = []) : Everywhere (Plain redactString) value := by
  induction value using tree_induction generalizing basePath with
  | null => simp [Plain]
  | bool value => simp [Plain]
  | num text => simp [Plain]
  | str text =>
    rw [Json.everywhere_str, Plain]
    by_contra hchanged
    simp [findSensitivePaths, hchanged] at h
  | arr values ih =>
    refine Json.everywhere_arr.2 ⟨trivial, fun value hvalue => ?_⟩
    obtain ⟨path, hpath⟩ := pathsOfValues_eq_nil h value hvalue
    exact ih value hvalue hpath
  | obj fields ih =>
    have hfields := pathsOfFields_eq_nil h
    refine Json.everywhere_obj.2 ⟨fun field hfield => (hfields field hfield).1, fun field hfield => ?_⟩
    obtain ⟨-, path, hpath⟩ := hfields field hfield
    exact ih field hfield hpath

/-! ### The redactor leaves accepted payloads alone -/

/-- A payload is accepted if its type is known, no required field is missing and no path is found. -/
theorem createAuditEvent_ok_iff {redactString : String → String} {type : String} {payload : Json}
    {occurredAt : Option String} {event : AuditEvent} :
    createAuditEvent redactString type payload occurredAt = .ok event ↔
      (∃ requiredFields, auditRequirements.lookup type = some requiredFields ∧
        (requiredFields.filter fun field => (Json.present (payload.member field)).isNone) = []) ∧
      findSensitivePaths redactString "" payload = [] ∧
      event = { type, occurredAt := occurredAt.getD "1970-01-01T00:00:00.000Z", payload } := by
  unfold createAuditEvent
  cases auditRequirements.lookup type with
  | none => simp
  | some requiredFields =>
    simp only [Option.some.injEq, exists_eq_left']
    generalize (requiredFields.filter fun field => (Json.present (payload.member field)).isNone) = missing
    generalize findSensitivePaths redactString "" payload = sensitivePaths
    by_cases hmissing : missing = []
    · by_cases hpaths : sensitivePaths = []
      · rw [if_neg (not_not.2 hmissing), if_neg (not_not.2 hpaths), Except.ok.injEq]
        exact ⟨fun h => ⟨hmissing, hpaths, h.symm⟩, fun h => h.2.2.symm⟩
      · simp [hmissing, hpaths]
    · simp [hmissing]

/-- The redactor changes neither a payload that `createAuditEvent` accepts nor the payload of the event. -/
theorem redactValue_of_accepted (redactString : String → String) (type : String) (payload : Json)
    (occurredAt : Option String) (event : AuditEvent)
    (h : createAuditEvent redactString type payload occurredAt = .ok event) :
    redactValue redactString "" payload = payload ∧ redactValue redactString "" event.payload = event.payload := by
  obtain ⟨-, hpaths, rfl⟩ := createAuditEvent_ok_iff.1 h
  have hplain := redactValue_plain (plain_of_findSensitivePaths hpaths) isSensitiveKey_empty
  exact ⟨hplain, hplain⟩

/-- The payload of a relay's usage, with a list in it. -/
def usagePayload : Json :=
  .obj [("roomId", .str "room-a"), ("sessionIdHash", .str "digest"), ("byteCount", .num "512"),
    ("samples", .arr [.num "256", .obj [("direction", .str "host")], .null])]

/-- A redactor that knows one address. -/
def redactOneAddress (text : String) : String := if text = "203.0.113.7" then REDACTED_IP else text

theorem redactValue_of_accepted_usage :
    redactValue redactOneAddress "" usagePayload = usagePayload ∧
      redactValue redactOneAddress "" usagePayload = usagePayload :=
  redactValue_of_accepted redactOneAddress AuditEventTypes.RELAY_USAGE usagePayload none
    ⟨AuditEventTypes.RELAY_USAGE, "1970-01-01T00:00:00.000Z", usagePayload⟩
    (createAuditEvent_ok_iff.2 ⟨⟨_, rfl, by decide +kernel⟩, by decide +kernel, rfl⟩)

/-! ### Nothing shows of what is under a sensitive key -/

theorem redactValue_sensitive {redactString : String → String} {key : String} {value : Json}
    (hkey : isSensitiveKey key = true) (hvalue : value ≠ .null) : redactValue redactString key value = .str REDACTED := by
  cases value with
  | null => exact absurd rfl hvalue
  | bool value => simp [redactValue, unlessSensitive, hkey]
  | num text => simp [redactValue, unlessSensitive, hkey]
  | str text => simp [redactValue, unlessSensitive, hkey]
  | arr values => simp [redactValue, unlessSensitive, hkey]
  | obj fields => simp [redactValue, unlessSensitive, hkey]

/-- Two bundles that differ at most in what is not `null` under sensitive keys, at any depth, are redacted alike. -/
theorem redactValue_alike (redactString : String → String) (key : String) (bundle bundle' : Json)
    (h : AlikeBut isSensitiveKey bundle bundle') :
    redactValue redactString key bundle = redactValue redactString key bundle' := by
  induction h generalizing key with
  | null => rfl
  | bool value => rfl
  | num text => rfl
  | str text => rfl
  | noEntries => rfl
  | entry _ _ ihValue ihValues =>
    have hvalues := ihValues ""
    simp only [redactValue, unlessSensitive_of_not isSensitiveKey_empty, Json.arr.injEq] at hvalues
    rw [redactValue, redactValue, redactValues, redactValues, ihValue, hvalues]
  | noFields => rfl
  | field key' _ _ ihValue ihFields =>
    have hfields := ihFields ""
    simp only [redactValue, unlessSensitive_of_not isSensitiveKey_empty, Json.obj.injEq] at hfields
    rw [redactValue, redactValue, redactFields, redactFields, ihValue, hfields]
  | hiddenField hkey hvalue hvalue' _ ihFields =>
    have hfields := ihFields ""
    simp only [redactValue, unlessSensitive_of_not isSensitiveKey_empty, Json.obj.injEq] at hfields
    rw [redactValue, redactValue, redactFields, redactFields, redactValue_sensitive hkey hvalue,
      redactValue_sensitive hkey hvalue', hfields]

/-- A friend of a bundle, with what stands under the key `token`. -/
def friendWith (token : Json) : Json := .obj [("name", .str "Alex"), ("token", token)]

/-- A text in place of a list with an object. -/
theorem redactValue_alike_friend :
    redactValue redactOneAddress "" (.arr [friendWith (.str "abc")]) =
      redactValue redactOneAddress "" (.arr [friendWith (.arr [.obj [("token", .num "1")]])]) :=
  redactValue_alike redactOneAddress "" _ _
    (.entry (.field "name" (.str "Alex") (.hiddenField (by decide +kernel) (by simp) (by simp) .noFields)) .noEntries)

end EasyMc.Safety
