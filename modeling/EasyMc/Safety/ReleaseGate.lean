import EasyMc.Library.Numbers
import EasyMc.Library.Stringify
import EasyMc.Safety.Redaction

/-!
# The release gate

`evaluateClosedAlphaReleaseGate` lists what keeps a release from going out.  One of its probes redacts a support bundle
and looks for forbidden strings in the text of the result.  In that text a quotation mark, a backslash and a control
character are written differently than in the strings of the bundle, so a forbidden string with one of them may stand in
the bundle and not be found.  The others are found wherever they stand (`probe_sound_iff`).  A string is one of Unicode
scalar values: a lone surrogate, which is written differently as well, is not in the model.
-/

namespace EasyMc.Safety

open Json (get isStr holds textOf strings)
open Throwing (JsError bind_eq_ok)

/-! ### Accessibility -/

inductive AccessibilityFailure
  | viewportMetaMissing
  | visibleFocusStyleMissing
  | mobileBreakpointTooWide
  | mobileActionsNotFullWidth
  | textOverflowRisk
  | actionsMissing
  | actionAccessibleNameMissing
  | actionKeyboardFocusMissing
  | actionTargetTooSmall
  deriving DecidableEq

def AccessibilityFailure.text : AccessibilityFailure → String
  | .viewportMetaMissing => "viewport_meta_missing"
  | .visibleFocusStyleMissing => "visible_focus_style_missing"
  | .mobileBreakpointTooWide => "mobile_breakpoint_too_wide"
  | .mobileActionsNotFullWidth => "mobile_actions_not_full_width"
  | .textOverflowRisk => "text_overflow_risk"
  | .actionsMissing => "actions_missing"
  | .actionAccessibleNameMissing => "action_accessible_name_missing"
  | .actionKeyboardFocusMissing => "action_keyboard_focus_missing"
  | .actionTargetTooSmall => "action_target_too_small"

def minInteractiveTargetPx : Int := 44

def mobileMaxWidthPx : Int := 520

/-- `value === true`. -/
def isTrue (value : Option Json) : Bool := value.any Json.isTrue

/-- `value === false`. -/
def isFalse (value : Option Json) : Bool :=
  match value with
  | some (.bool value) => !value
  | _ => false

def failureIf {α : Type} (condition : Bool) (failure : α) : List α := if condition then [failure] else []

/-- `!Number.isFinite(value) || value < bound`. -/
def isTooSmall (value : Option Json) : Bool :=
  match value with
  | some (.num text) => !(JsNumber.ofText text).isFinite || (JsNumber.ofText text).isBelow minInteractiveTargetPx
  | _ => true

def actionFailures (action : Json) : List AccessibilityFailure :=
  failureIf (!holds (action.member "accessibleName")) .actionAccessibleNameMissing
    ++ failureIf (!isTrue (action.member "keyboardFocusable")) .actionKeyboardFocusMissing
    ++ failureIf (isTooSmall (action.member "minHeightPx")) .actionTargetTooSmall

/-- `breakpoint !== undefined && breakpoint > mobileMaxWidthPx`. -/
def isTooWide (breakpoint : Option Json) : Except JsError Bool :=
  match breakpoint with
  | none => .ok false
  | some breakpoint => do
    let number ← breakpoint.toNumber
    .ok (number.exceeds mobileMaxWidthPx)

structure AccessibilityResult where
  ok : Bool
  failures : List AccessibilityFailure
  checkedActions : Nat

def validateInviteAccessibilitySnapshot (snapshot : Json) : Except JsError AccessibilityResult :=
  if snapshot.isNull then .error .typeError
  else do
    let actions := ((snapshot.member "actions").bind Json.asArr).getD []
    let tooWide ← isTooWide (snapshot.member "mobileBreakpointPx")
    let failures := failureIf (!isTrue (snapshot.member "hasViewportMeta")) .viewportMetaMissing
      ++ failureIf (!isTrue (snapshot.member "hasVisibleFocusStyle")) .visibleFocusStyleMissing
      ++ failureIf tooWide .mobileBreakpointTooWide
      ++ failureIf (!isTrue (snapshot.member "mobileActionsFullWidth")) .mobileActionsNotFullWidth
      ++ failureIf (!isTrue (snapshot.member "textWraps")) .textOverflowRisk
      ++ failureIf actions.isEmpty .actionsMissing
      ++ actions.flatMap actionFailures
    .ok { ok := failures.isEmpty, failures := failures.eraseDups, checkedActions := actions.length }

/-! ### The gate -/

inductive ReleaseFailure
  | inviteRobotsMissing
  | inviteXRobotsTagMissing
  | publicDiscoveryEnabled
  | unavailableRoomDetailsExposed
  | inviteDiscoveryRouteExposed
  | inviteUnofficialWordingMissing
  | desktopUnofficialWordingMissing
  | inviteAccessibilityContractFailed
  | supportBundleProbeMissing
  | supportBundleUnredactedSecret
  deriving DecidableEq

def ReleaseFailure.text : ReleaseFailure → String
  | .inviteRobotsMissing => "invite_robots_missing"
  | .inviteXRobotsTagMissing => "invite_x_robots_tag_missing"
  | .publicDiscoveryEnabled => "public_discovery_enabled"
  | .unavailableRoomDetailsExposed => "unavailable_room_details_exposed"
  | .inviteDiscoveryRouteExposed => "invite_discovery_route_exposed"
  | .inviteUnofficialWordingMissing => "invite_unofficial_wording_missing"
  | .desktopUnofficialWordingMissing => "desktop_unofficial_wording_missing"
  | .inviteAccessibilityContractFailed => "invite_accessibility_contract_failed"
  | .supportBundleProbeMissing => "support_bundle_probe_missing"
  | .supportBundleUnredactedSecret => "support_bundle_unredacted_secret"

def robots : String := "noindex,nofollow"

def discoveryFailures (input : Json) : List ReleaseFailure :=
  failureIf (!isStr robots (input.path ["discovery", "robots"])) .inviteRobotsMissing
    ++ failureIf (!isStr robots (input.path ["discovery", "xRobotsTag"])) .inviteXRobotsTagMissing
    ++ failureIf (!isFalse (input.path ["discovery", "publicDiscovery"])) .publicDiscoveryEnabled
    ++ failureIf (!isFalse (input.path ["discovery", "exposesUnavailableRoomDetails"])) .unavailableRoomDetailsExposed
    ++ failureIf (isTrue (input.path ["discovery", "sitemapExposesInvites"])
        || isTrue (input.path ["discovery", "listingRoute"])
        || isTrue (input.path ["discovery", "searchRoute"])) .inviteDiscoveryRouteExposed

def surfaceFailures (input : Json) : List ReleaseFailure :=
  failureIf (!isTrue (input.path ["surfaces", "invitePage", "includesUnofficialProductWording"]))
      .inviteUnofficialWordingMissing
    ++ failureIf (!isTrue (input.path ["surfaces", "desktopApp", "includesUnofficialProductWording"]))
      .desktopUnofficialWordingMissing

/-- The values that a loop over `forbiddenStrings ?? []` goes through: those of an array, or the characters of a
text. -/
def forbiddenValues (forbidden : Option Json) : Except JsError (List Json) :=
  match Json.present forbidden with
  | none => .ok []
  | some (.arr values) => .ok values
  | some (.str text) => .ok (text.toList.map fun c => .str (String.singleton c))
  | some _ => .error .typeError

/-- `value && serialized.includes(value)`.  The text of a bundle that is missing is missing too. -/
def isIncluded (serialized : Option (List Char)) (value : Json) : Except JsError Bool :=
  if !value.truthy then .ok false
  else
    match serialized with
    | none => .error .typeError
    | some serialized => do
      let part ← value.toText
      .ok (Text.contains part.toList serialized)

/-- The loop ends at the first value that is included. -/
def anyIncluded (serialized : Option (List Char)) : List Json → Except JsError Bool
  | [] => .ok false
  | value :: values => do
    let included ← isIncluded serialized value
    if included then .ok true else anyIncluded serialized values

def probeFailures (isIP : String → Nat) (probe : Option Json) : Except JsError (List ReleaseFailure) :=
  if !holds probe then .ok [.supportBundleProbeMissing]
  else do
    let redacted := (get "bundle" probe).map (redactSupportBundle isIP)
    let serialized := redacted.map Json.stringify
    let forbidden ← forbiddenValues (get "forbiddenStrings" probe)
    let unredacted ← anyIncluded serialized forbidden
    .ok (failureIf unredacted .supportBundleUnredactedSecret)

structure ReleaseResult where
  ok : Bool
  failures : List ReleaseFailure
  accessibility : AccessibilityResult

def evaluateClosedAlphaReleaseGate (isIP : String → Nat) (input : Json) : Except JsError ReleaseResult :=
  if input.isNull then .error .typeError
  else do
    let accessibility ← validateInviteAccessibilitySnapshot ((input.member "inviteAccessibility").getD (.obj []))
    let probe ← probeFailures isIP (input.member "supportBundleProbe")
    let failures := discoveryFailures input ++ surfaceFailures input
      ++ failureIf (!accessibility.ok) .inviteAccessibilityContractFailed ++ probe
    .ok { ok := failures.isEmpty, failures := failures.eraseDups, accessibility := accessibility }

/-! ### What the probe finds -/

variable {isIP : String → Nat} {input : Json} {result : ReleaseResult} {forbidden : String}

/-- The strings that must not stand in the redacted bundle. -/
def forbiddenStrings (input : Json) : List String :=
  match forbiddenValues (input.path ["supportBundleProbe", "forbiddenStrings"]) with
  | .ok values => values.filterMap Json.asStr
  | .error _ => []

/-- The strings in the redacted bundle, at any depth. -/
def redactedStrings (isIP : String → Nat) (input : Json) : List String :=
  ((input.path ["supportBundleProbe", "bundle"]).map fun bundle => strings (redactSupportBundle isIP bundle)).getD []

/-- The string stands in a string of the redacted bundle. -/
def Leaks (isIP : String → Nat) (input : Json) (forbidden : String) : Prop :=
  ∃ text ∈ redactedStrings isIP input, Text.includes text forbidden = true

/-- The string has a quotation mark, a backslash or a control character. -/
def HasEscaped (forbidden : String) : Prop := ∃ c ∈ forbidden.toList, Json.isEscaped c = true

theorem anyIncluded_false {serialized : Option (List Char)} {values : List Json}
    (h : anyIncluded serialized values = .ok false) {value : Json} (hvalue : value ∈ values) :
    isIncluded serialized value = .ok false := by
  induction values with
  | nil => cases hvalue
  | cons first values ih =>
    obtain ⟨included, hfirst, hrest⟩ := bind_eq_ok.1 h
    cases included with
    | true => cases hrest
    | false =>
      rcases List.mem_cons.1 hvalue with rfl | hvalue
      · exact hfirst
      · exact ih hrest hvalue

/-- A probe that counts as false has no members. -/
theorem get_of_not_holds {probe : Option Json} (h : ¬ holds probe = true) (key : String) : get key probe = none := by
  cases probe with
  | none => rfl
  | some probe =>
    cases probe with
    | obj => exact absurd rfl h
    | null => rfl
    | bool => rfl
    | num => rfl
    | str => rfl
    | arr => rfl

/-- What the text of the redacted bundle has been searched for when the gate does not report a secret. -/
theorem searched_of_not_reported (h : evaluateClosedAlphaReleaseGate isIP input = .ok result)
    (hnot : ReleaseFailure.supportBundleUnredactedSecret ∉ result.failures)
    (hprobe : holds (input.member "supportBundleProbe") = true) :
    ∃ values, forbiddenValues (input.path ["supportBundleProbe", "forbiddenStrings"]) = .ok values ∧
      anyIncluded (((input.path ["supportBundleProbe", "bundle"]).map (redactSupportBundle isIP)).map Json.stringify)
        values = .ok false := by
  unfold evaluateClosedAlphaReleaseGate at h
  split at h
  · cases h
  · obtain ⟨accessibility, -, h⟩ := bind_eq_ok.1 h
    obtain ⟨probe, hfailures, h⟩ := bind_eq_ok.1 h
    have hresult := Except.ok.inj h
    have hnotProbe : ReleaseFailure.supportBundleUnredactedSecret ∉ probe := by
      intro hmem
      refine hnot ?_
      rw [← hresult, List.mem_eraseDups]
      exact List.mem_append_right _ hmem
    rw [probeFailures, if_neg (by simp [hprobe])] at hfailures
    obtain ⟨values, hvalues, hfailures⟩ := bind_eq_ok.1 hfailures
    obtain ⟨unredacted, hsearch, hfound⟩ := bind_eq_ok.1 hfailures
    cases unredacted with
    | true =>
      have heq : [ReleaseFailure.supportBundleUnredactedSecret] = probe := Except.ok.inj hfound
      exact absurd (heq ▸ List.mem_singleton_self _) hnotProbe
    | false =>
      rw [← Json.path_pair] at hvalues hsearch
      exact ⟨values, hvalues, hsearch⟩

/-- A string without escaped characters that stands in a string of the redacted bundle stands in its text. -/
theorem contains_of_leaks (hplain : ¬ HasEscaped forbidden) (hleaks : Leaks isIP input forbidden) :
    ∃ bundle, input.path ["supportBundleProbe", "bundle"] = some bundle ∧
      Text.contains forbidden.toList (redactSupportBundle isIP bundle).stringify = true := by
  obtain ⟨text, htext, hincludes⟩ := hleaks
  unfold redactedStrings at htext
  cases hbundle : input.path ["supportBundleProbe", "bundle"] with
  | none =>
    rw [hbundle] at htext
    cases htext
  | some bundle =>
    rw [hbundle] at htext
    refine ⟨bundle, rfl, Text.contains_iff.2 ?_⟩
    have hescaped : ∀ c ∈ forbidden.toList, Json.isEscaped c = false := by
      intro c hc
      cases hc' : Json.isEscaped c with
      | false => rfl
      | true => exact absurd ⟨c, hc, hc'⟩ hplain
    exact Json.infix_stringify htext (Text.contains_iff.1 hincludes) hescaped

/-- The gate that reports no secret vouches for all forbidden strings exactly if those with an escaped character do not
stand in the redacted bundle. -/
theorem probe_sound_iff (isIP : String → Nat) (input : Json) (result : ReleaseResult)
    (h : evaluateClosedAlphaReleaseGate isIP input = .ok result)
    (hnot : ReleaseFailure.supportBundleUnredactedSecret ∉ result.failures) :
    (∀ forbidden ∈ forbiddenStrings input, forbidden ≠ "" → ¬ Leaks isIP input forbidden) ↔
      ∀ forbidden ∈ forbiddenStrings input, HasEscaped forbidden → ¬ Leaks isIP input forbidden := by
  constructor
  · intro hall forbidden hmem hescaped
    refine hall forbidden hmem ?_
    rintro rfl
    obtain ⟨c, hc, -⟩ := hescaped
    cases hc
  · intro hescapedOnly forbidden hmem hnonempty hleaks
    -- Without an escaped character the string would have been found in the text of the redacted bundle.
    by_cases hescaped : HasEscaped forbidden
    · exact hescapedOnly forbidden hmem hescaped hleaks
    · obtain ⟨bundle, hbundle, hcontains⟩ := contains_of_leaks hescaped hleaks
      by_cases hprobe : holds (input.member "supportBundleProbe") = true
      · obtain ⟨values, hvalues, hsearch⟩ := searched_of_not_reported h hnot hprobe
        rw [forbiddenStrings, hvalues] at hmem
        obtain ⟨value, hvalue, hstr⟩ := List.mem_filterMap.1 hmem
        have hnotIncluded := anyIncluded_false hsearch hvalue
        have heq : value = .str forbidden := Json.asStr_eq_some.1 hstr
        have hfound : Text.contains forbidden.toList (redactSupportBundle isIP bundle).stringify = false := by
          rw [heq, hbundle] at hnotIncluded
          unfold isIncluded at hnotIncluded
          rw [if_neg (by simp [Json.truthy, hnonempty])] at hnotIncluded
          exact Except.ok.inj hnotIncluded
        rw [hfound] at hcontains
        cases hcontains
      · -- Without a probe there is no bundle.
        rw [Json.path_pair, get_of_not_holds hprobe] at hbundle
        cases hbundle

/-- A bundle with one string, and a string that must not stand in it. -/
def probeInput (note forbidden : String) : Json :=
  .obj [("supportBundleProbe",
    .obj [("bundle", .obj [("note", .str note)]), ("forbiddenStrings", .arr [.str forbidden])])]

theorem sound_for_token : ∃ result,
    evaluateClosedAlphaReleaseGate (fun _ => 0) (probeInput "token=s3cret" "s3cret") = .ok result ∧
    ((∀ forbidden ∈ forbiddenStrings (probeInput "token=s3cret" "s3cret"), forbidden ≠ "" →
        ¬ Leaks (fun _ => 0) (probeInput "token=s3cret" "s3cret") forbidden) ↔
      ∀ forbidden ∈ forbiddenStrings (probeInput "token=s3cret" "s3cret"), HasEscaped forbidden →
        ¬ Leaks (fun _ => 0) (probeInput "token=s3cret" "s3cret") forbidden) := by
  obtain ⟨result, h, hnot⟩ : ∃ result,
      evaluateClosedAlphaReleaseGate (fun _ => 0) (probeInput "token=s3cret" "s3cret") = .ok result ∧
        ReleaseFailure.supportBundleUnredactedSecret ∉ result.failures :=
    Throwing.exists_ok_of_test (by decide +kernel)
  exact ⟨result, h, probe_sound_iff _ _ result h hnot⟩

/-- A quotation mark hides a forbidden string that stands in the bundle as it is. -/
theorem quotation_mark_hides :
    (∃ result, evaluateClosedAlphaReleaseGate (fun _ => 0) (probeInput "a\"b" "a\"b") = .ok result ∧
      ReleaseFailure.supportBundleUnredactedSecret ∉ result.failures) ∧
      "a\"b" ∈ forbiddenStrings (probeInput "a\"b" "a\"b") ∧
      Leaks (fun _ => 0) (probeInput "a\"b" "a\"b") "a\"b" := by
  refine ⟨Throwing.exists_ok_of_test (by decide +kernel), by decide +kernel, "a\"b", ?_, by decide +kernel⟩
  decide +kernel

end EasyMc.Safety
