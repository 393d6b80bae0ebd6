import EasyMc.Desktop.Redaction

/-!
# Redaction of support bundles

`redactValue` of the safety package replaces what stands under a sensitive key and rewrites every string by
`redactString`: first by the rules for invite links, credentials and addresses of version 4, then by the patterns for
addresses of version 6, of which only those that `isIP` accepts are replaced.
-/

namespace EasyMc.Safety

open Regex
open Desktop (chr isDigit isLetter isAlphanumeric isHex isSpace isPathChar isValueChar octet secretAssignment Rule
  applyRules)

def REDACTED : String := "[REDACTED]"

def REDACTED_IP : String := "[REDACTED_IP]"

def REDACTED_INVITE_URL : String := "[REDACTED_INVITE_URL]"

def REDACTED_CREDENTIAL : String := "[REDACTED_CREDENTIAL]"

/-! ### Sensitive keys -/

def normalizedSensitiveKeys : List String :=
  ["accesstoken", "authorization", "authtoken", "cookie", "credential", "devicesignal", "ip", "ipaddress", "invitelink",
    "inviteurl", "invitetoken", "minecraftaccesstoken", "password", "rawtoken", "refreshtoken", "secret",
    "sessioncredential", "sessionid", "sessionkey", "sessiontoken", "token"]

/-- One of the names, in any letter case. -/
def nameOf (names : List String) : Regex := oneOf (names.map fun name => literalI name.toList)

/-- `(^|_)(name|...)(_|$)`, in any letter case. -/
def sensitiveKeyPattern : Regex :=
  all [.group 1 (.alt .start (chr '_')),
    .group 2 (nameOf ["accessToken", "authorization", "cookie", "credential", "deviceSignal", "ip", "ipAddress",
      "inviteToken", "minecraftAccessToken", "password", "refreshToken", "secret", "sessionCredential", "sessionKey",
      "sessionToken", "token"]),
    .group 3 (.alt (chr '_') finish)]

def isSensitiveKey (key : String) : Bool :=
  let normalized := String.ofList ((key.toList.filter isAlphanumeric).map Char.toLower)
  sensitiveKeyPattern.test key.toList || normalizedSensitiveKeys.contains normalized
    || Text.endsWith normalized "token"

/-! ### The rules -/

/-- `https?:\/\/[^\s"'<>]*(?:\/invite(?:[/?#]|$)|...)[^\s"'<>]*`, in any letter case. -/
def inviteUrl : Regex :=
  let route (path : String) : Regex :=
    .seq (literalI path.toList) (.alt (.char fun c => ['/', '?', '#'].contains c) finish)
  all [literalI "http".toList, optional (.char (ignoreCase (· = 's'))), literal "://".toList, star isPathChar,
    oneOf [route "/invite", route "/invites", route "/friend/invites"], star isPathChar]

/-- `\b(Bearer|Basic)\s+[A-Za-z0-9._~+/=-]+`, in any letter case. -/
def authorizationText : Regex :=
  all [.wordBoundary, .group 1 (nameOf ["Bearer", "Basic"]), plus isSpace,
    plus fun c => isAlphanumeric c || ['.', '_', '~', '+', '/', '=', '-'].contains c]

/-- `\b(name|...)\s*[:=]\s*["']?[^"',}\s]+`, in any letter case. -/
def spacedAssignment : Regex :=
  all [.wordBoundary,
    .group 1 (nameOf ["invite token", "session key", "session credential", "access token", "password", "credential",
      "secret"]),
    star isSpace, .char fun c => c = ':' || c = '=', star isSpace, optional (.char fun c => c = '"' || c = '\''),
    plus fun c => !isSpace c && !(['"', '\'', ',', '}'].contains c)]

/-- `\b(?:\d{1,3}\.){3}\d{1,3}(?::\d+)?\b`. -/
def ipv4Address : Regex :=
  all [.wordBoundary, .rep (.seq octet (chr '.')) 3 (some 3), octet, optional (.seq (chr ':') (plus isDigit)),
    .wordBoundary]

def redactionRules : List Rule :=
  [⟨inviteUrl, [.text REDACTED_INVITE_URL]⟩,
    ⟨authorizationText, [.group 1, .text (" " ++ REDACTED_CREDENTIAL)]⟩,
    ⟨secretAssignment ["invite", "inviteToken", "token", "sessionKey", "session", "access_token", "refresh_token",
      "password", "credential", "secret"], [.group 1, .text ("=" ++ REDACTED_CREDENTIAL)]⟩,
    ⟨spacedAssignment, [.group 1, .text (": " ++ REDACTED_CREDENTIAL)]⟩,
    ⟨ipv4Address, [.text REDACTED_IP]⟩]

def applyRedactionRules (value : List Char) : List Char := applyRules redactionRules value

/-! ### Addresses of version 6 -/

def isHexDigit (c : Char) : Bool := ignoreCase isHex c

/-- `[A-Fa-f0-9]{1,4}:`. -/
def hexGroup : Regex := .seq (.rep (.char isHexDigit) 1 (some 4)) (chr ':')

/-- `\[([A-Fa-f0-9:.]+)\](?::\d+)?`. -/
def bracketedAddress : Regex :=
  all [chr '[', .group 1 (plus fun c => isHexDigit c || c = ':' || c = '.'), chr ']',
    optional (.seq (chr ':') (plus isDigit))]

/-- A pattern that stands between no letters and digits. -/
def standingAlone (r : Regex) : Regex := all [notAfter isAlphanumeric, r, notBefore isAlphanumeric]

/-- `::ffff:(?:\d{1,3}\.){3}\d{1,3}` on its own, in any letter case. -/
def mappedAddress : Regex :=
  standingAlone (all [literalI "::ffff:".toList, .rep (.seq octet (chr '.')) 3 (some 3), octet])

/-- `::(?:[A-Fa-f0-9]{1,4}:){0,6}[A-Fa-f0-9]{0,4}` on its own. -/
def shortenedStart : Regex :=
  standingAlone (all [literal "::".toList, .rep hexGroup 0 (some 6), .rep (.char isHexDigit) 0 (some 4)])

/-- `(?:[A-Fa-f0-9]{1,4}:){1,7}:[A-Fa-f0-9]{0,4}` on its own. -/
def shortenedEnd : Regex :=
  standingAlone (all [.rep hexGroup 1 (some 7), chr ':', .rep (.char isHexDigit) 0 (some 4)])

/-- `\b(?:[A-Fa-f0-9]{1,4}:){7}[A-Fa-f0-9]{1,4}\b`. -/
def fullAddress : Regex :=
  all [.wordBoundary, .rep hexGroup 7 (some 7), .rep (.char isHexDigit) 1 (some 4), .wordBoundary]

def redactIpCandidate (isIP : String → Nat) (candidate : List Char) : List Char :=
  if isIP (String.ofList candidate) ≠ 0 then REDACTED_IP.toList else candidate

def redactIpLiterals (isIP : String → Nat) (value : List Char) : List Char :=
  -- The address of the first pattern is its group, without the brackets.
  let bracketed := replaceBy bracketedAddress (fun found groups =>
    if isIP (String.ofList ((groups.lookup 1).getD [])) ≠ 0 then REDACTED_IP.toList else found) value
  [mappedAddress, shortenedStart, shortenedEnd, fullAddress].foldl
    (fun value pattern => replaceBy pattern (fun found _ => redactIpCandidate isIP found) value) bracketed

def redactString (isIP : String → Nat) (value : String) : String :=
  String.ofList (redactIpLiterals isIP (applyRedactionRules value.toList))

/-! ### Values -/

/-- What stands for a value that is not `null` under a key. -/
def unlessSensitive (key : String) (redacted : Json) : Json := if isSensitiveKey key then .str REDACTED else redacted

mutual

/-- `redactValue(value, key)`, with the redactor of strings as a parameter. -/
def redactValue (redactString : String → String) (key : String) : Json → Json
  | .null => .null
  | .str text => unlessSensitive key (.str (redactString text))
  | .arr values => unlessSensitive key (.arr (redactValues redactString values))
  | .obj fields => unlessSensitive key (.obj (redactFields redactString fields))
  | .bool value => unlessSensitive key (.bool value)
  | .num text => unlessSensitive key (.num text)

def redactValues (redactString : String → String) : List Json → List Json
  | [] => []
  | value :: values => redactValue redactString "" value :: redactValues redactString values

def redactFields (redactString : String → String) : List (String × Json) → List (String × Json)
  | [] => []
  | (key, value) :: fields => (key, redactValue redactString key value) :: redactFields redactString fields

end

def redactSupportBundle (isIP : String → Nat) (bundle : Json) : Json := redactValue (redactString isIP) "" bundle

end EasyMc.Safety
