import EasyMc.Desktop.Requests
import EasyMc.Library.Regex

/-!
# Redaction in the desktop app

The patterns that the redactors of `apps/desktop` share, and the redactors of three components: the room controller
(`desktop-room-controller.mjs`, `sanitizeValue`), the command host (`desktop-command-host.mjs`,
`sanitizeCommandResult`) and the Rust broker (`src-tauri/src/main.rs`, `sanitize_response`).  Each drops the fields
with a private key and rewrites the strings, except the invite link of the result itself.
-/

namespace EasyMc.Desktop

open Regex

/-! ### Patterns -/

def isLetter (c : Char) : Bool := ('a' ≤ c && c ≤ 'z') || ('A' ≤ c && c ≤ 'Z')

def isHex (c : Char) : Bool := isDigit c || ('a' ≤ c && c ≤ 'f')

/-- `\s`. -/
def isSpace (c : Char) : Bool := Text.isBlank c

/-- `[^\s"'<>]`. -/
def isPathChar (c : Char) : Bool := !isSpace c && !(['"', '\'', '<', '>'].contains c)

/-- `[^&\s"'<>]`. -/
def isValueChar (c : Char) : Bool := isPathChar c && c ≠ '&'

def chr (c : Char) : Regex := .char (· = c)

/-- `\d{1,3}`. -/
def octet : Regex := .rep (.char isDigit) 1 (some 3)

/-- `(?::\d{1,5})?`. -/
def portSuffix : Regex := optional (.seq (chr ':') (.rep (.char isDigit) 1 (some 5)))

/-- `\b(?:\d{1,3}\.){3}\d{1,3}(?::\d{1,5})?\b`. -/
def networkAddress : Regex :=
  all [.wordBoundary, .rep (.seq octet (chr '.')) 3 (some 3), octet, portSuffix, .wordBoundary]

/-- `\[(?:[0-9a-f]{0,4}:){2,}[0-9a-f:]{0,}\](?::\d{1,5})?`, in any letter case. -/
def ipv6Address : Regex :=
  all [chr '[', .rep (.seq (.rep (.char (ignoreCase isHex)) 0 (some 4)) (chr ':')) 2 none,
    star fun c => ignoreCase isHex c || c = ':', chr ']', portSuffix]

/-- `\b[A-Za-z]:[\\/][^\s"'<>]+`. -/
def windowsPath : Regex :=
  all [.wordBoundary, .char isLetter, chr ':', .char fun c => c = '\\' || c = '/', plus isPathChar]

/-- `(^|\s)\/(?:Users|home|var|tmp|opt)\/[^\s"'<>]+`. -/
def unixPath : Regex :=
  all [.group 1 (.alt .start (.char isSpace)), chr '/',
    oneOf (["Users", "home", "var", "tmp", "opt"].map fun name => literal name.toList), chr '/', plus isPathChar]

/-- `\b(name|...)=([^&\s"'<>]+)`, in any letter case. -/
def secretAssignment (names : List String) : Regex :=
  all [.wordBoundary, .group 1 (oneOf (names.map fun name => literalI name.toList)), chr '=',
    .group 2 (plus isValueChar)]

/-- `\b(Bearer|Basic)\s+[^&\s"'<>]+`, in any letter case. -/
def authorizationValue : Regex :=
  all [.wordBoundary, .group 1 (oneOf (["Bearer", "Basic"].map fun name => literalI name.toList)), plus isSpace,
    plus isValueChar]

/-- `\b([0-9a-f]{8}-[0-9a-f]{4}-[1-5][0-9a-f]{3}-[89ab][0-9a-f]{3}-[0-9a-f]{12})\b`, in any letter case. -/
def uuidText : Regex :=
  let hex (n : Nat) := times (ignoreCase isHex) n
  all [.wordBoundary,
    .group 1 (all [hex 8, chr '-', hex 4, chr '-', .char fun c => '1' ≤ c && c ≤ '5', hex 3, chr '-',
      .char fun c => ['8', '9', 'a', 'b', 'A', 'B'].contains c, hex 3, chr '-', hex 12]),
    .wordBoundary]

/-- `\b[A-Z0-9._%+-]+@[A-Z0-9.-]+\.[A-Z]{2,}\b`, in any letter case. -/
def emailAddress : Regex :=
  all [.wordBoundary, plus fun c => isAlphanumeric c || ['.', '_', '%', '+', '-'].contains c, chr '@',
    plus fun c => isAlphanumeric c || ['.', '-'].contains c, chr '.', .rep (.char isLetter) 2 none, .wordBoundary]

/-- A pattern with its replacement. -/
structure Rule where
  pattern : Regex
  replacement : List Part

def addressRules : List Rule :=
  [⟨networkAddress, [.text "[redacted]"]⟩, ⟨ipv6Address, [.text "[redacted]"]⟩,
    ⟨windowsPath, [.text "[redacted-path]"]⟩, ⟨unixPath, [.group 1, .text "[redacted-path]"]⟩]

def credentialRules (names : List String) : List Rule :=
  [⟨secretAssignment names, [.group 1, .text "=[redacted]"]⟩,
    ⟨authorizationValue, [.group 1, .text " [redacted]"]⟩]

/-- Apply the rules one after the other. -/
def applyRules (rules : List Rule) (text : List Char) : List Char :=
  rules.foldl (fun text rule => replaceAll rule.pattern rule.replacement text) text

/-- Private words inside a key, in any letter case. -/
def keyContains (words : List String) (key : String) : Bool :=
  words.any fun word => Text.contains (word.toList.map Char.toLower) (key.toList.map Char.toLower)

/-! ### The room controller -/

namespace RoomController

def secretNames : List String :=
  ["invite", "inviteToken", "token", "secret", "password", "credential", "authorization", "cookie"]

def redactSecretString (value : String) : String :=
  String.ofList (applyRules (addressRules ++ credentialRules secretNames) value.toList)

def isSecretKey (key : String) : Bool :=
  keyContains ["inviteLink", "inviteUrl", "inviteToken", "rawInvite", "token", "secret", "password", "credential",
    "authorization", "cookie"] key

def isTopLevelInviteLink (key : String) (depth : Nat) : Bool := key = "inviteLink" && depth = 1

def redactor : Json.Redactor :=
  { drop := fun key depth => !isTopLevelInviteLink key depth && isSecretKey key
    text := fun key depth value => if isTopLevelInviteLink key depth then value else redactSecretString value
    step := 1 }

def sanitizeValue (value : Json) : Json := Json.redact redactor "" 0 value

end RoomController

/-! ### The command host -/

namespace CommandHost

def privateEgressKeys : List String :=
  ["inviteLink", "inviteUrl", "inviteToken", "rawInvite", "token", "secret", "password", "credential",
    "authorization", "cookie", "session", "email", "uuid", "path"]

def isPrivateEgressKey (key : String) : Bool := keyContains privateEgressKeys key

def redactSecretString (value : String) : String :=
  if Regex.test (all [.start, .char isLetter, chr ':', .char fun c => c = '\\' || c = '/']) value.toList then
    "[redacted-path]"
  else
    String.ofList (applyRules
      (addressRules ++ credentialRules RoomController.secretNames ++
        [⟨uuidText, [.text "[redacted]"]⟩, ⟨emailAddress, [.text "[redacted]"]⟩]) value.toList)

def isTopLevelInviteLink (key : String) (depth : Nat) : Bool := key = "inviteLink" && depth = 1

def redactor : Json.Redactor :=
  { drop := fun key depth => !isTopLevelInviteLink key depth && isPrivateEgressKey key
    text := fun key depth value => if isTopLevelInviteLink key depth then value else redactSecretString value
    step := 1 }

def sanitizeCommandResult (value : Json) : Json := Json.redact redactor "" 0 value

end CommandHost

/-! ### The broker -/

namespace Broker

def isPrivateResponseKey (key : String) : Bool :=
  keyContains ["token", "secret", "password", "credential", "authorization", "cookie", "session", "uuid", "email",
    "path"] key

def looksLikeLocalPath (value : List Char) : Bool :=
  3 < Text.utf8Length value &&
    match value with
    | a :: ':' :: c :: _ => a.toNat < 0x80 && (c = '\\' || c = '/')
    | _ => false

def looksLikeEmbeddedLocalPath (value : List Char) : Bool :=
  (value.splitOnP fun c => c = '"' || c = '\'' || c = '<' || c = '>').any fun part =>
    looksLikeLocalPath part || Text.contains ":\\Users\\".toList part || Text.contains ":/Users/".toList part ||
      ["/Users/", "/home/", "/tmp/", "/var/"].any fun start => start.toList.isPrefixOf part

/-- A part of at most three digits that fits a byte. -/
def isOctet (part : List Char) : Bool :=
  part ≠ [] && decide (part.length ≤ 3) && part.all isDigit &&
    decide (part.foldl (fun n c => 10 * n + (c.toNat - 48)) 0 ≤ 255)

def looksLikeNetworkAddress (value : List Char) : Bool :=
  -- what follows the last `=`
  let raw := (value.reverse.takeWhile (· ≠ '=')).reverse
  let trimmed := Text.trimBy (fun c => ['[', ']', '(', ')', ',', ';'].contains c) raw
  if 2 ≤ trimmed.count ':' then true
  else
    let parts := (trimmed.takeWhile (· ≠ ':')).splitOn '.'
    parts.length = 4 && parts.all isOctet

def looksLikeUuid (value : List Char) : Bool :=
  Text.utf8Length value = 36 &&
    value.zipIdx.all fun (c, index) =>
      if [8, 13, 18, 23].contains index then c = '-' else ignoreCase isHex c

def redactPart (part : List Char) : List Char :=
  if Text.contains "token=".toList part || Text.contains "invite=".toList part ||
      Text.contains "secret=".toList part || part.contains '@' || looksLikeUuid part ||
      looksLikeNetworkAddress part then
    "[redacted]".toList
  else if looksLikeEmbeddedLocalPath part then "[redacted-path]".toList
  else part

def redactSecretString (value : String) : String :=
  if looksLikeLocalPath value.toList then "[redacted-path]"
  else
    String.ofList ([' '].intercalate
      (((value.toList.splitOnP isWhitespace).filter (· ≠ [])).map redactPart))

/-- The broker counts the depth of an object from 0, so that the values of the result itself stand at 1; the entries
of an array stand at the depth of the array. -/
def redactor : Json.Redactor :=
  { drop := fun key depth => (key = "inviteLink" && depth ≠ 1) || (key ≠ "inviteLink" && isPrivateResponseKey key)
    text := fun key depth value => if key = "inviteLink" ∧ depth = 1 then value else redactSecretString value
    step := 0 }

def sanitizeResponse (value : Json) : Json := Json.redact redactor "" 0 value

end Broker

end EasyMc.Desktop
