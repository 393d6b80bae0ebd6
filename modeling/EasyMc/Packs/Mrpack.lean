import EasyMc.Library.JsMap
import EasyMc.Library.Stringify
import EasyMc.Library.Values

/-!
# Modrinth packs

A pack is generated from a template and from locks of the artifacts that this repository builds itself.  Both are JSON
of any shape.  `validateMrpackTemplate` compares every file of the template with the lock for its path, which is
built in or supplied, and gathers the blockers; `buildMrpackManifest` gives the manifest if there are none.

The table of the locks is an object, so a path that names a property of every object is found in it too
(`objectPrototypeNames`).
-/

namespace EasyMc.Packs

open Json (coalesce get isStr isNum sameValueZero textOf)
open Throwing (JsError)

/-- A parsed URL. -/
structure Url where
  protocol : String
  username : String
  password : String
  hostname : String
  href : String

/-- `new URL(text)`, with `none` where it throws, and `isIP(text)`. -/
structure Builtins where
  parseUrl : String → Option Url
  isIP : String → Nat

inductive MrpackFailureReasons
  | invalidTemplate
  | firstPartyArtifactPending
  | unsafeDownloadMetadata
  deriving DecidableEq

def MrpackFailureReasons.text : MrpackFailureReasons → String
  | .invalidTemplate => "invalid_template"
  | .firstPartyArtifactPending => "first_party_artifact_pending"
  | .unsafeDownloadMetadata => "unsafe_download_metadata"

def failureMessages : MrpackFailureReasons → String
  | .invalidTemplate => "Modrinth pack template is not complete."
  | .firstPartyArtifactPending => "First-party connection mod artifact metadata is still pending."
  | .unsafeDownloadMetadata => "Pack files must keep original HTTPS downloads, hashes, and file sizes."

/-! ### Locks -/

/-- What is approved for a path; the hashes of a supplied lock are what was supplied. -/
structure Lock where
  downloads : List Json
  sha1 : Json
  sha512 : Json
  fileSize : Option Json

def mvp0ApprovedFiles : List (String × Lock) :=
  [("mods/fabric-api-0.116.11+1.21.1.jar", {
      downloads := [.str "https://cdn.modrinth.com/data/P7dR8mSH/versions/IpaMcBLh/fabric-api-0.116.11%2B1.21.1.jar"]
      sha1 := .str "65f4e8b9dcbad6697b2fb32fa0bb937ec5efcd84"
      sha512 := .str ("756b8c086f4c911d012f2eb70ca792aef0439503b31bc52026b82830870a94d4" ++
        "72de30d61a6a0a9988c02b8462d9c47aa6baa6cd84da1eaf00edb77249b3c413")
      fileSize := some (.num "2426356") }),
    ("mods/lithium-fabric-0.15.3+mc1.21.1.jar", {
      downloads :=
        [.str "https://cdn.modrinth.com/data/gvQqBUqZ/versions/XQJtuOTA/lithium-fabric-0.15.3%2Bmc1.21.1.jar"]
      sha1 := .str "c4a1c2b6de9915ac77ae46a005509d4acf09535d"
      sha512 := .str ("8c576d519121b0c2521101d2209eccd85d560b097fcb847aa54c51cd0d3f3947" ++
        "676f01c8d99913f514487c8e0972a1cf5f3da0c9ef0ec9bacdf2baeb4eb7d1a7")
      fileSize := some (.num "797398") }),
    ("mods/ferritecore-7.0.3-fabric.jar", {
      downloads := [.str "https://cdn.modrinth.com/data/uXXizFIs/versions/sOzRw3CG/ferritecore-7.0.3-fabric.jar"]
      sha1 := .str "a8a6a34fcda177da2828cedef44e0e538cf78aad"
      sha512 := .str ("3ad31620fac4ff44327dc7dedbe162b2d978f3f246dc16255a6e400ce9592a0d" ++
        "326fe36a626f3c1bf30a11f813093cbb4dcc107af039cff724d0cdf648541fdf")
      fileSize := some (.num "123450") })]

def firstPartyArtifactPaths : List String :=
  ["mods/local-room-client-connection-0.1.0-alpha.jar", "mods/local-room-server-bridge-0.1.0-alpha.jar"]

/-- `firstPartyArtifactPaths.has(path)`. -/
def isFirstPartyPath (path : Option Json) : Bool :=
  match path with
  | some (.str text) => firstPartyArtifactPaths.contains text
  | _ => false

/-- The properties that an object has without having them itself.  None of them has a `downloads` or a `hashes`. -/
def objectPrototypeNames : List String :=
  ["constructor", "toString", "toLocaleString", "valueOf", "hasOwnProperty", "isPrototypeOf", "propertyIsEnumerable",
    "__proto__", "__defineGetter__", "__defineSetter__", "__lookupGetter__", "__lookupSetter__"]

/-! ### Hashes and hosts -/

def isHexDigit (c : Char) : Bool := ('0' ≤ c && c ≤ '9') || ('a' ≤ c && c ≤ 'f') || ('A' ≤ c && c ≤ 'F')

def isHexText (length : Nat) (text : String) : Bool :=
  text.toList.length == length && text.toList.all isHexDigit

/-- A test of the text of a value by a regular expression for hexadecimal digits. -/
def testHash (length : Nat) (value : Option Json) : Except JsError Bool := do
  let text ← textOf (coalesce value (some (.str "")))
  .ok (isHexText length text)

def isSha1 (value : Option Json) : Except JsError Bool := testHash 40 value

def isSha512 (value : Option Json) : Except JsError Bool := testHash 128 value

/-- `isSha1(hashes?.sha1) && isSha512(hashes?.sha512)`. -/
def hasHashes (hashes : Option Json) : Except JsError Bool := do
  let sha1 ← isSha1 (get "sha1" hashes)
  if sha1 then isSha512 (get "sha512" hashes) else .ok false

/-- `Number.parseInt(part, 10)` of a part of an address. -/
def parseInt (part : List Char) : Option Nat :=
  match part.takeWhile Char.isDigit with
  | [] => none
  | digits => some (digits.foldl (fun value digit => 10 * value + (digit.toNat - '0'.toNat)) 0)

def isBetween (low high : Nat) (value : Option Nat) : Bool :=
  match value with
  | some value => low ≤ value && value ≤ high
  | none => false

/-- The addresses of version 4 that are private or set aside, by their first two parts. -/
def isReservedIPv4 (first second : Option Nat) : Bool :=
  first == some 10
    || first == some 127
    || first == some 0
    || (first == some 172 && isBetween 16 31 second)
    || (first == some 192 && second == some 168)
    || (first == some 169 && second == some 254)
    || (first == some 100 && isBetween 64 127 second)
    || (first == some 192 && second == some 0)
    || (first == some 198 && (second == some 18 || second == some 19))
    || (first == some 198 && second == some 51)
    || (first == some 203 && second == some 0)
    || (match first with
      | some first => 224 ≤ first
      | none => false)

def isReservedIPv6 (host : String) : Bool :=
  host == "::1"
    || host == "::"
    || Text.startsWith host "::ffff:"
    || Text.startsWith host "fc"
    || Text.startsWith host "fd"
    || Text.startsWith host "fe80"
    || Text.startsWith host "2001:db8"

/-- The host without the brackets of an address of version 6. -/
def unbracketed (hostname : String) : String :=
  let host := match hostname.toLower.toList with
    | '[' :: host => host
    | host => host
  match host.reverse with
  | ']' :: host => String.ofList host.reverse
  | _ => String.ofList host

def isReservedArtifactHost (builtins : Builtins) (hostname : String) : Bool :=
  let host := unbracketed hostname
  let ipVersion := builtins.isIP host
  if host == "localhost"
      || Text.endsWith host ".localhost"
      || host == "example.com"
      || host == "example.net"
      || host == "example.org"
      || host == "example.test"
      || Text.endsWith host ".example"
      || Text.endsWith host ".invalid"
      || Text.endsWith host ".test"
      || Text.endsWith host ".local"
      || Text.endsWith host ".lan" then true
  else if ipVersion == 4 then
    let parts := (host.toList.splitOn '.').map parseInt
    isReservedIPv4 (parts[0]?.join) (parts[1]?.join)
  else if ipVersion == 6 then isReservedIPv6 host
  else false

inductive UrlReadiness
  | ready (href : String)
  | notReady (message : String)

def UrlReadiness.message? : UrlReadiness → Option String
  | .ready _ => none
  | .notReady message => some message

def validateFirstPartyArtifactDownloadUrl (builtins : Builtins) (value : Json) : UrlReadiness :=
  match value with
  | .str text =>
    if text == "" then .notReady "First-party artifact download URL is required."
    else
      match builtins.parseUrl text with
      | none => .notReady "First-party artifact download URL must be an absolute HTTPS URL."
      | some parsed =>
        if parsed.protocol != "https:" || parsed.username != "" || parsed.password != "" then
          .notReady "First-party artifact download URL must be a credential-free HTTPS URL."
        else if Text.includes text "REPLACE_WITH_" || Text.includes text "<signed-https-artifact-url>" then
          .notReady "First-party artifact download URL must not contain placeholder values."
        else if isReservedArtifactHost builtins parsed.hostname then
          .notReady ("First-party artifact download URL must not use localhost, private IPs, or reserved " ++
            "example/test hosts.")
        else .ready parsed.href
  | _ => .notReady "First-party artifact download URL is required."

/-! ### Supplied locks -/

def downloadIssues (builtins : Builtins) (downloads : Option Json) : List String :=
  match downloads with
  | some (.arr (download :: downloads)) =>
    (download :: downloads).filterMap fun download =>
      (validateFirstPartyArtifactDownloadUrl builtins download).message?
  | _ => ["First-party artifact download URL is required."]

def pathIssues (path : Option Json) : Except JsError (List String) :=
  if isFirstPartyPath path then .ok []
  else do
    let text ← textOf (coalesce path (some (.str "<missing>")))
    .ok ["Unknown first-party artifact path: " ++ text]

def validateSingleFirstPartyArtifactLock (builtins : Builtins) (artifact : Json) : Except JsError (List String) := do
  let path ← pathIssues (artifact.member "path")
  let hashes ← hasHashes (artifact.member "hashes")
  .ok (path
    ++ downloadIssues builtins (artifact.member "downloads")
    ++ (if hashes then [] else ["First-party artifact lock must include SHA1 and SHA512 hashes."])
    ++ (if Json.isPositiveInteger (artifact.member "fileSize") then []
      else ["First-party artifact lock must include a positive file size."]))

/-- An issue, with the path it is about. -/
structure Issue where
  path : Json
  message : String

def artifactIssues (builtins : Builtins) (artifact : Json) : Except JsError (List Issue) := do
  let issues ← validateSingleFirstPartyArtifactLock builtins artifact
  let path := (Json.present (artifact.member "path")).getD (.str "<first-party-artifact>")
  .ok (issues.map fun message => ⟨path, message⟩)

def collectFirstPartyArtifactLockIssues (builtins : Builtins) (firstPartyArtifacts : Option Json) :
    Except JsError (List Issue) :=
  match firstPartyArtifacts with
  | none => .ok []
  | some (.arr artifacts) => do
    let issues ← artifacts.mapM (artifactIssues builtins)
    .ok issues.flatten
  | some _ => .ok [⟨.str "<first-party-artifacts>", "First-party artifact locks must be provided as a list."⟩]

/-- The lock that is made of a supplied one. -/
def lockOf (artifact : Json) : Lock where
  downloads := match artifact.member "downloads" with
    | some (.arr downloads) => downloads
    | _ => []
  sha1 := (Json.present (artifact.path ["hashes", "sha1"])).getD (.str "")
  sha512 := (Json.present (artifact.path ["hashes", "sha512"])).getD (.str "")
  fileSize := artifact.member "fileSize"

/-- The lock of a supplied one without issues, under its path. -/
def normalizedLock (builtins : Builtins) (artifact : Json) : Except JsError (Option (String × Lock)) := do
  let issues ← validateSingleFirstPartyArtifactLock builtins artifact
  match issues, artifact.member "path" with
  | [], some (.str path) => .ok (some (path, lockOf artifact))
  | _, _ => .ok none

def normalizeFirstPartyArtifactLocks (builtins : Builtins) (firstPartyArtifacts : Option Json) :
    Except JsError (List (String × Lock)) :=
  match firstPartyArtifacts with
  | some (.arr artifacts) => do
    let locks ← artifacts.mapM (normalizedLock builtins)
    .ok (locks.filterMap id)
  | _ => .ok []

/-- The table of the approved files: the built-in locks, and the supplied ones set over them. -/
def createApprovedFileLock (builtins : Builtins) (firstPartyArtifacts : Option Json) :
    Except JsError (JsMap String Lock) := do
  let locks ← normalizeFirstPartyArtifactLocks builtins firstPartyArtifacts
  .ok (JsMap.ofEntries (mvp0ApprovedFiles ++ locks))

/-! ### Files -/

/-- Whether a path is no safe relative path.  Only arrays and texts have an `includes`, and only texts a
`startsWith`. -/
def isUnsafePath (path : Option Json) : Except JsError Bool :=
  match path with
  | none => .ok true
  | some path =>
    if !path.truthy then .ok true
    else
      match path with
      | .str text => .ok (Text.includes text ".." || Text.startsWith text "/" || Text.includes text "\\")
      | .arr values => if values.any fun value => isStr ".." (some value) then .ok true else .error .typeError
      | _ => .error .typeError

def isOriginalHttpsDownloadUrl : Json → Bool
  | .str text => Text.startsWith text "https://" && !Text.includes text "example.invalid"
  | _ => false

def hasOriginalHttpsDownloads (downloads : Option Json) : Bool :=
  match downloads with
  | some (.arr (download :: downloads)) => (download :: downloads).all isOriginalHttpsDownloadUrl
  | _ => false

def sameArray (left : Option Json) (right : List Json) : Bool :=
  match left with
  | none => right.isEmpty
  | some (.arr values) =>
    values.length == right.length &&
      (values.zip right).all fun pair => sameValueZero (some pair.1) (some pair.2)
  | some _ => false

def matchesApprovedFileLock (file : Json) (approvedFiles : JsMap String Lock) : Except JsError Bool := do
  let path ← textOf (file.member "path")
  match approvedFiles.get path with
  | some approved =>
    .ok (sameArray (file.member "downloads") approved.downloads
      && sameValueZero (file.path ["hashes", "sha1"]) (some approved.sha1)
      && sameValueZero (file.path ["hashes", "sha512"]) (some approved.sha512)
      && sameValueZero (file.member "fileSize") approved.fileSize)
  | none =>
    -- What every object has is found, and has no hashes to be compared with.
    if objectPrototypeNames.contains path && sameArray (file.member "downloads") [] then .error .typeError
    else .ok false

def issueUnless (condition : Bool) (message : String) : List String := if condition then [] else [message]

def validateFileMetadata (file : Json) (approvedFiles : JsMap String Lock) : Except JsError (List String) :=
  if file.isNull then .error .typeError
  else do
    let isUnsafe ← isUnsafePath (file.member "path")
    let hashes ← hasHashes (file.member "hashes")
    let approved ← matchesApprovedFileLock file approvedFiles
    .ok (issueUnless (!isUnsafe) "Pack file path must be a safe relative path."
      ++ issueUnless (hasOriginalHttpsDownloads (file.member "downloads"))
        "Pack file must use original HTTPS download URLs."
      ++ issueUnless hashes "Pack file must include SHA1 and SHA512 hashes."
      ++ issueUnless (Json.isPositiveInteger (file.member "fileSize")) "Pack file must include a positive file size."
      ++ issueUnless approved "Pack file must match the MVP-0 approved source URL, hashes, and file size lock.")

def isFirstPartyPlaceholder (file : Json) : Bool :=
  let haystack := file.stringify
  isFirstPartyPath (file.member "path")
    && (Text.contains "REPLACE_WITH_".toList haystack
      || Text.contains "example.invalid".toList haystack
      || isNum "0" (file.member "fileSize"))

/-! ### Templates -/

structure MrpackBlocker where
  reason : MrpackFailureReasons
  path : Json
  message : String

def metadataBlocker (path : Json) (message : String) : MrpackBlocker := ⟨.unsafeDownloadMetadata, path, message⟩

def fileBlockers (approvedFiles : JsMap String Lock) (file : Json) : Except JsError (List MrpackBlocker) := do
  let path := (Json.present (file.member "path")).getD (.str "<unknown>")
  let metadataIssues ← validateFileMetadata file approvedFiles
  .ok (metadataIssues.map (metadataBlocker path) ++
    if isFirstPartyPlaceholder file then
      [⟨.firstPartyArtifactPending, path, failureMessages .firstPartyArtifactPending⟩]
    else [])

/-- The entries of `template.files`. -/
def filesOf (template : Json) : List Json :=
  match template.member "files" with
  | some (.arr files) => files
  | _ => []

def manifestBlockers (template : Json) : List MrpackBlocker :=
  if !isNum "1" (template.member "formatVersion")
      || !isStr "minecraft" (template.member "game")
      || !Json.holds (template.path ["dependencies", "minecraft"])
      || !Json.holds (template.path ["dependencies", "fabric-loader"]) then
    [⟨.invalidTemplate, .str "<manifest>", failureMessages .invalidTemplate⟩]
  else []

def noFilesBlockers (template : Json) : List MrpackBlocker :=
  if (filesOf template).isEmpty then [⟨.invalidTemplate, .str "<files>", "Pack must include at least one file."⟩]
  else []

structure Validation where
  ok : Bool
  blockers : List MrpackBlocker
  fileCount : Nat
  minecraft : Json
  fabricLoader : Json

def validateMrpackTemplate (builtins : Builtins) (template : Json) (firstPartyArtifacts : Option Json) :
    Except JsError Validation := do
  let firstPartyArtifactIssues ← collectFirstPartyArtifactLockIssues builtins firstPartyArtifacts
  let approvedFiles ← createApprovedFileLock builtins firstPartyArtifacts
  if template.isNull then .error .typeError
  else do
    let files ← (filesOf template).mapM (fileBlockers approvedFiles)
    let blockers := manifestBlockers template
      ++ noFilesBlockers template
      ++ firstPartyArtifactIssues.map (fun issue => metadataBlocker issue.path issue.message)
      ++ files.flatten
    .ok {
      ok := blockers.isEmpty
      blockers := blockers
      fileCount := (filesOf template).length
      minecraft := (Json.present (template.path ["dependencies", "minecraft"])).getD .null
      fabricLoader := (Json.present (template.path ["dependencies", "fabric-loader"])).getD .null }

structure Manifest where
  formatVersion : Option Json
  game : Option Json
  versionId : Option Json
  name : Option Json
  summary : Option Json
  files : Option Json
  dependencies : Option Json

def normalizeManifest (template : Json) : Manifest where
  formatVersion := template.member "formatVersion"
  game := template.member "game"
  versionId := template.member "versionId"
  name := template.member "name"
  summary := template.member "summary"
  files := template.member "files"
  dependencies := template.member "dependencies"

inductive BuildResult
  | built (manifest : Manifest)
  | failed (reason : MrpackFailureReasons) (message : String) (blockers : List MrpackBlocker)

def buildMrpackManifest (builtins : Builtins) (template : Json) (firstPartyArtifacts : Option Json) :
    Except JsError BuildResult := do
  let validation ← validateMrpackTemplate builtins template firstPartyArtifacts
  match validation.blockers with
  | [] => .ok (.built (normalizeManifest template))
  | blocker :: _ => .ok (.failed blocker.reason (failureMessages blocker.reason) validation.blockers)

end EasyMc.Packs
