import EasyMc.Library.Json
import EasyMc.Library.Text
import EasyMc.Runtime.Manager

/-!
# The two request validators

A renderer request is checked by the Rust broker (`apps/desktop/src-tauri/src/main.rs`, `sanitize_request`) and again
by the Node command host (`apps/desktop/src/runtime/desktop-command-host.mjs`, `sanitizeRendererRequest`).  The host's
schema has a validator for each field of a command; the broker has the field names of each command and a grammar for
each name.  Strings are lists of characters where they are measured: JavaScript counts UTF-16 units, Rust bytes.
-/

namespace EasyMc.Desktop

open Text

inductive DesktopRuntimeCommand
  | prepareRoom | openRoom | closeRoom | restartRoom | sendServerCommand | statusRoom | resetRoom
  deriving DecidableEq, Repr

/-- A blocked result, `{ state: "blocked", failure: { reason, message } }`. -/
structure BlockedDto where
  reason : String
  message : String
  deriving DecidableEq, Repr

def isDigit (c : Char) : Bool := '0' ≤ c && c ≤ '9'

def isAlphanumeric (c : Char) : Bool := isDigit c || ('A' ≤ c && c ≤ 'Z') || ('a' ≤ c && c ≤ 'z')

/-! ### The command host -/

/-- `first` for the first character and `rest` for the others, `/^[first][rest]*$/`. -/
def matchesPattern (first rest : Char → Bool) : List Char → Bool
  | [] => false
  | c :: text => first c && text.all rest

/-- A string of 1 to `limit` units of the pattern `/^[first][rest]*$/`. -/
def validatePattern (limit : Nat) (first rest : Char → Bool) (value : Json) : Bool :=
  match value with
  | .str text =>
    decide (0 < utf16Length text.toList) && decide (utf16Length text.toList ≤ limit) &&
      matchesPattern first rest text.toList
  | _ => false

def validateVersionString : Json → Bool :=
  validatePattern 32 isDigit fun c => isAlphanumeric c || ['.', '+', '_', '-'].contains c

def validateIdentifierString : Json → Bool :=
  validatePattern 64 isAlphanumeric fun c => isAlphanumeric c || ['.', '_', '-'].contains c

/-- The characters of `/[\x00-\x08\x0B\x0C\x0E-\x1F\x7F]/`. -/
def isHostControl (c : Char) : Bool :=
  c.toNat ≤ 8 || c.toNat = 0x0B || c.toNat = 0x0C || (0x0E ≤ c.toNat && c.toNat ≤ 0x1F) || c.toNat = 0x7F

def validateConsoleCommand (value : Json) : Bool :=
  match value with
  | .str text =>
    let trimmed := Text.trim text.toList
    decide (0 < utf16Length trimmed) && decide (utf16Length trimmed ≤ 256) &&
      !(text.toList.any fun c => c = '\r' || c = '\n') && !(text.toList.any isHostControl)
  | _ => false

/-- The validators of a command's fields. -/
def commandSchemas : DesktopRuntimeCommand → List (String × (Json → Bool))
  | .prepareRoom | .openRoom | .restartRoom =>
    [("minecraftVersion", validateVersionString), ("pack", validateIdentifierString),
      ("catalogModId", validateIdentifierString)]
  | .sendServerCommand => [("command", validateConsoleCommand)]
  | .closeRoom | .statusRoom | .resetRoom => []

def dangerousKeys : List String := ["__proto__", "prototype", "constructor"]

/-- An object without a dangerous key; a JSON object always has a plain prototype. -/
def isPlainRequestObject (value : Json) : Bool :=
  match value with
  | .obj fields => !(fields.any fun field => dangerousKeys.contains field.1)
  | _ => false

def isSupportedRequestField (schema : List (String × (Json → Bool))) (key : String) : Bool :=
  (schema.lookup key).isSome

def isValidRequestEntry (schema : List (String × (Json → Bool))) (key : String) (value : Json) : Bool :=
  (schema.lookup key).any fun validate => validate value

/-- The request that is passed on, or the message of a blocked result. -/
def sanitizeRendererRequest (command : DesktopRuntimeCommand) (request : Json) : Except String Json :=
  if !isPlainRequestObject request then .error "Desktop command request must be an object."
  else
    let schema := commandSchemas command
    if request.fields.any fun entry => !isSupportedRequestField schema entry.1 then
      .error "Desktop command request contains unsupported fields."
    else if request.fields.any fun entry => !isValidRequestEntry schema entry.1 entry.2 then
      .error "Desktop command request contains invalid values."
    else .ok (.obj request.fields)

/-! ### The broker -/

/-- The fields of a command, as the broker lists them. -/
def allowedFieldsForCommand : DesktopRuntimeCommand → List String
  | .prepareRoom | .openRoom | .restartRoom => ["minecraftVersion", "pack", "catalogModId"]
  | .sendServerCommand => ["command"]
  | .closeRoom | .statusRoom | .resetRoom => []

def isDangerousKey (key : String) : Bool := key = "__proto__" || key = "prototype" || key = "constructor"

/-- Rust's `char::is_whitespace`. -/
def isWhitespace (c : Char) : Bool :=
  (9 ≤ c.toNat && c.toNat ≤ 13) || (0x2000 ≤ c.toNat && c.toNat ≤ 0x200A) ||
    [0x20, 0x85, 0xA0, 0x1680, 0x2028, 0x2029, 0x202F, 0x205F, 0x3000].contains c.toNat

/-- Rust's `char::is_control`. -/
def isControl (c : Char) : Bool := c.toNat ≤ 0x1F || (0x7F ≤ c.toNat && c.toNat ≤ 0x9F)

def isSafeConsoleCommand (value : List Char) : Bool :=
  let trimmed := trimBy isWhitespace value
  trimmed ≠ [] && decide (utf8Length trimmed ≤ 256) &&
    !(value.any fun c => (c = '\r' || c = '\n') || isControl c)

def isSafeText (value : List Char) (maxLen : Nat) (allowPlus : Bool) : Bool :=
  value ≠ [] && decide (utf8Length value ≤ maxLen) &&
    (value.all fun c => isAlphanumeric c || ['.', '_', '-'].contains c || (allowPlus && c = '+')) &&
    value.head?.any isAlphanumeric

/-- There is no grammar for `catalogModId`. -/
def isValidRequestValue (key : String) (value : Json) : Bool :=
  match value with
  | .str text =>
    if key = "minecraftVersion" then isSafeText text.toList 32 true
    else if key = "pack" then isSafeText text.toList 64 false
    else if key = "command" then isSafeConsoleCommand text.toList
    else false
  | _ => false

/-- The request that is sent to the host, or a blocked result. -/
def sanitizeRequest (command : DesktopRuntimeCommand) (request : Option Json) : Except BlockedDto Json :=
  match request.getD (.obj []) with
  | .obj object =>
    if object.any fun field => !(allowedFieldsForCommand command).contains field.1 || isDangerousKey field.1 then
      .error ⟨"invalid_request", "Desktop command request contains unsupported fields."⟩
    else if object.any fun field => !isValidRequestValue field.1 field.2 then
      .error ⟨"invalid_request", "Desktop command request contains invalid values."⟩
    else .ok (.obj object)
  | _ => .error ⟨"invalid_request", "Desktop command request must be an object."⟩

/-! ### Agreement of the value grammars -/

/-- Printable ASCII. -/
def Printable (text : List Char) : Prop := ∀ c ∈ text, 0x20 ≤ c.toNat ∧ c.toNat ≤ 0x7E

instance (text : List Char) : Decidable (Printable text) :=
  List.decidableBAll _ text

theorem Printable.ascii {text : List Char} (h : Printable text) : Ascii text := by
  intro c hc
  have := h c hc
  omega

/-- On printable text JavaScript and Rust trim the same characters. -/
theorem trim_printable {text : List Char} (h : Printable text) : Text.trim text = trimBy isWhitespace text := by
  change trimBy isBlank text = trimBy isWhitespace text
  apply trimBy_congr
  intro c hc
  have hc := h c hc
  have hblank : isBlank c = decide (c.toNat = 0x20) := by
    simp only [isBlank, List.contains_cons, List.contains_nil, Bool.or_false]
    grind
  have hspace : isWhitespace c = decide (c.toNat = 0x20) := by
    simp only [isWhitespace, List.contains_cons, List.contains_nil, Bool.or_false]
    grind
  rw [hblank, hspace]

/-- A text of the host's pattern is safe for the broker when its characters are. -/
theorem isSafeText_of_pattern {limit : Nat} {first rest : Char → Bool} {allowPlus : Bool} {text : List Char}
    (hfirst : ∀ c, first c = true → isAlphanumeric c = true)
    (hrest : ∀ c, rest c = true →
      (isAlphanumeric c || ['.', '_', '-'].contains c || (allowPlus && c = '+')) = true)
    (hprintable : Printable text) (hlength : utf16Length text ≤ limit)
    (hmatches : matchesPattern first rest text = true) : isSafeText text limit allowPlus = true := by
  cases text with
  | nil => cases hmatches
  | cons c text =>
    rw [matchesPattern, Bool.and_eq_true, List.all_eq_true] at hmatches
    have hhead := hfirst c hmatches.1
    have hbytes : utf8Length (c :: text) ≤ limit := by
      rw [utf8Length_ascii hprintable.ascii, ← utf16Length_ascii hprintable.ascii]
      exact hlength
    have hall : ((c :: text).all fun c =>
        isAlphanumeric c || ['.', '_', '-'].contains c || (allowPlus && c = '+')) = true := by
      rw [List.all_eq_true]
      intro d hd
      rcases List.mem_cons.1 hd with rfl | hd
      · rw [hhead]
        rfl
      · exact hrest d (hmatches.2 d hd)
    simp only [isSafeText, hall, hbytes, hhead, List.head?_cons, Option.any_some, Bool.and_true, decide_true, ne_eq,
      reduceCtorEq, not_false_eq_true]

/-- A printable text of the host's console grammar is safe for the broker. -/
theorem isSafeConsoleCommand_of_valid {text : String} (hprintable : Printable text.toList)
    (hvalid : validateConsoleCommand (.str text) = true) : isSafeConsoleCommand text.toList = true := by
  simp only [validateConsoleCommand, Bool.and_eq_true, decide_eq_true_eq, Bool.not_eq_true', List.any_eq_false] at hvalid
  obtain ⟨⟨⟨hnonempty, hlength⟩, -⟩, -⟩ := hvalid
  rw [trim_printable hprintable] at hnonempty hlength
  have htrimmed : Ascii (trimBy isWhitespace text.toList) := fun c hc => hprintable.ascii c (mem_of_mem_trimBy hc)
  have hbytes : utf8Length (trimBy isWhitespace text.toList) ≤ 256 := by
    rw [utf8Length_ascii htrimmed, ← utf16Length_ascii htrimmed]
    exact hlength
  have hne : trimBy isWhitespace text.toList ≠ [] := by
    intro hnil
    rw [hnil] at hnonempty
    exact absurd hnonempty (Nat.lt_irrefl 0)
  have hcontrol : (text.toList.any fun c => (c = '\r' || c = '\n') || isControl c) = false := by
    rw [List.any_eq_false]
    intro c hc
    have hc := hprintable c hc
    have hr : c ≠ '\r' := by
      rintro rfl
      exact absurd hc.1 (by decide)
    have hn : c ≠ '\n' := by
      rintro rfl
      exact absurd hc.1 (by decide)
    simp only [isControl, hr, hn, decide_false, Bool.or_self, Bool.false_or, Bool.or_eq_true, decide_eq_true_eq,
      Bool.and_eq_true]
    omega
  simp only [isSafeConsoleCommand, hne, hbytes, hcontrol, ne_eq, not_false_eq_true, decide_true, Bool.not_false,
    Bool.and_self]

/-! ### Agreement of the validators -/

/-- The fields of a schema are the ones the broker allows, and none of them is dangerous. -/
theorem supported_allowed {command : DesktopRuntimeCommand} {key : String}
    (h : isSupportedRequestField (commandSchemas command) key = true) :
    key ∈ allowedFieldsForCommand command ∧ isDangerousKey key = false := by
  have hkey : key ∈ allowedFieldsForCommand command := by
    cases command <;>
      simp only [isSupportedRequestField, commandSchemas, allowedFieldsForCommand, List.lookup_cons, List.lookup_nil,
        List.mem_cons, List.not_mem_nil, or_false] at h ⊢ <;> grind
  refine ⟨hkey, ?_⟩
  cases command <;> simp only [allowedFieldsForCommand, List.mem_cons, List.not_mem_nil, or_false] at hkey <;>
    rcases hkey with rfl | rfl | rfl <;> decide

/-- The broker's grammar of a field accepts the printable values that the host accepts, unless it has none. -/
theorem validRequestValue_iff {command : DesktopRuntimeCommand} {key : String} {value : Json}
    (hvalid : isValidRequestEntry (commandSchemas command) key value = true)
    (hprintable : ∀ text, value = .str text → Printable text.toList) :
    isValidRequestValue key value = true ↔ key ≠ "catalogModId" := by
  have hcases : key = "minecraftVersion" ∧ validateVersionString value = true ∨
      key = "pack" ∧ validateIdentifierString value = true ∨ key = "catalogModId" ∨
      key = "command" ∧ validateConsoleCommand value = true := by
    cases command <;>
      simp only [isValidRequestEntry, commandSchemas, List.lookup_cons, List.lookup_nil, Option.any_none,
        Bool.false_eq_true] at hvalid <;>
      grind
  rcases hcases with ⟨rfl, hvalue⟩ | ⟨rfl, hvalue⟩ | rfl | ⟨rfl, hvalue⟩
  · cases value with
    | str text =>
      simp only [validateVersionString, validatePattern, Bool.and_eq_true, decide_eq_true_eq] at hvalue
      have hsafe : isSafeText text.toList 32 true = true := by
        apply isSafeText_of_pattern _ _ (hprintable text rfl) hvalue.1.2 hvalue.2
        · intro c hc
          simp [isAlphanumeric, hc]
        · intro c hc
          simp only [List.contains_cons, List.contains_nil, Bool.or_false, Bool.true_and] at hc ⊢
          grind
      simp [isValidRequestValue, hsafe]
    | _ => cases hvalue
  · cases value with
    | str text =>
      simp only [validateIdentifierString, validatePattern, Bool.and_eq_true, decide_eq_true_eq] at hvalue
      have hsafe : isSafeText text.toList 64 false = true := by
        apply isSafeText_of_pattern _ _ (hprintable text rfl) hvalue.1.2 hvalue.2
        · exact fun c hc => hc
        · intro c hc
          simpa using hc
      simp [isValidRequestValue, hsafe]
    | _ => cases hvalue
  · cases value <;> simp [isValidRequestValue]
  · cases value with
    | str text =>
      have hsafe := isSafeConsoleCommand_of_valid (hprintable text rfl) hvalue
      simp [isValidRequestValue, hsafe]
    | _ => cases hvalue

/-- The string values of a request are printable ASCII. -/
def PrintableStrings (request : Json) : Prop :=
  ∀ field ∈ request.fields, ∀ text, field.2 = .str text → Printable text.toList

/-- What the host accepts: an object of supported fields with valid values, passed on as it is. -/
theorem sanitizeRendererRequest_ok {command : DesktopRuntimeCommand} {request sanitized : Json}
    (h : sanitizeRendererRequest command request = .ok sanitized) :
    ∃ fields, request = .obj fields ∧ sanitized = .obj fields ∧
      ∀ field ∈ fields, isSupportedRequestField (commandSchemas command) field.1 = true ∧
        isValidRequestEntry (commandSchemas command) field.1 field.2 = true := by
  cases request with
  | obj fields =>
    by_cases hplain : isPlainRequestObject (.obj fields) = true
    · by_cases hunknown : (fields.any fun entry => !isSupportedRequestField (commandSchemas command) entry.1) = true
      · simp [sanitizeRendererRequest, hplain, Json.fields, hunknown] at h
      · by_cases hinvalid : (fields.any fun entry =>
            !isValidRequestEntry (commandSchemas command) entry.1 entry.2) = true
        · simp [sanitizeRendererRequest, hplain, Json.fields, hunknown, hinvalid] at h
        · simp only [sanitizeRendererRequest, hplain, Json.fields, hunknown, hinvalid, Bool.not_true,
            Bool.false_eq_true, if_false] at h
          refine ⟨fields, rfl, (Except.ok.inj h).symm, fun field hfield => ⟨?_, ?_⟩⟩
          · by_contra hfalse
            exact hunknown (List.any_eq_true.2 ⟨field, hfield, by simpa using hfalse⟩)
          · by_contra hfalse
            exact hinvalid (List.any_eq_true.2 ⟨field, hfield, by simpa using hfalse⟩)
    · simp [sanitizeRendererRequest, hplain] at h
  | null => cases h
  | bool value => cases h
  | num text => cases h
  | str text => cases h
  | arr values => cases h

/-- A request of printable strings that the host accepts is accepted by the broker exactly when it has no
`catalogModId`. -/
theorem broker_accepts_iff (command : DesktopRuntimeCommand) (request sanitized : Json)
    (hhost : sanitizeRendererRequest command request = .ok sanitized) (hprintable : PrintableStrings request) :
    (∃ sent, sanitizeRequest command (some request) = .ok sent) ↔
      ∀ field ∈ request.fields, field.1 ≠ "catalogModId" := by
  obtain ⟨fields, rfl, -, hfields⟩ := sanitizeRendererRequest_ok hhost
  have hallowed : (fields.any fun field =>
      !(allowedFieldsForCommand command).contains field.1 || isDangerousKey field.1) = false := by
    rw [List.any_eq_false]
    intro field hfield
    obtain ⟨hmem, hdangerous⟩ := supported_allowed (hfields field hfield).1
    simp [hmem, hdangerous]
  have hvalue : ∀ field ∈ fields, isValidRequestValue field.1 field.2 = true ↔ field.1 ≠ "catalogModId" :=
    fun field hfield => validRequestValue_iff (hfields field hfield).2 (hprintable field hfield)
  simp only [sanitizeRequest, Option.getD_some, hallowed, Bool.false_eq_true, if_false, Json.fields]
  by_cases hinvalid : (fields.any fun field => !isValidRequestValue field.1 field.2) = true
  · simp only [hinvalid, if_true, reduceCtorEq, exists_false, false_iff]
    intro hall
    obtain ⟨field, hfield, hvalid⟩ := List.any_eq_true.1 hinvalid
    rw [(hvalue field hfield).2 (hall field hfield)] at hvalid
    cases hvalid
  · simp only [hinvalid, Bool.false_eq_true, if_false, Except.ok.injEq, exists_eq', true_iff]
    intro field hfield
    apply (hvalue field hfield).1
    by_contra hfalse
    exact hinvalid (List.any_eq_true.2 ⟨field, hfield, by simpa using hfalse⟩)

/-- The request of a room without a choice of mods. -/
def versionRequest : Json := .obj [("minecraftVersion", .str "1.21.1"), ("pack", .str "vanilla-plus")]

theorem broker_accepts_iff_version : ∃ sent, sanitizeRequest .prepareRoom (some versionRequest) = .ok sent :=
  (broker_accepts_iff .prepareRoom versionRequest versionRequest rfl (by
    intro field hfield text htext
    simp only [versionRequest, Json.fields, List.mem_cons, List.not_mem_nil, or_false] at hfield
    rcases hfield with rfl | rfl <;> cases htext <;> decide)).2 (by
      intro field hfield
      simp only [versionRequest, Json.fields, List.mem_cons, List.not_mem_nil, or_false] at hfield
      rcases hfield with rfl | rfl <;> decide)

/-- The choice of a mod that the host accepts and the broker refuses. -/
def catalogRequest : Json := .obj [("catalogModId", .str "lithium")]

theorem catalog_choice_refused :
    sanitizeRendererRequest .prepareRoom catalogRequest = .ok catalogRequest ∧ PrintableStrings catalogRequest ∧
      ¬ ∃ sent, sanitizeRequest .prepareRoom (some catalogRequest) = .ok sent := by
  refine ⟨rfl, ?_, ?_⟩
  · intro field hfield text htext
    obtain rfl := List.mem_singleton.1 hfield
    cases htext
    decide
  · rintro ⟨sent, hsent⟩
    cases hsent

end EasyMc.Desktop
