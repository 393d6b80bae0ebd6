import EasyMc.Library.Script
import EasyMc.Packs.AppliedLocks
import EasyMc.Packs.ArchiveRoundTrip

/-!
# The private pack (`scripts/build-private-mrpack.mjs`)

The script locks every jar that it is given: `createFirstPartyArtifactLockFromFile` reads the jar, looks into it, and
makes a lock of its hashes.  The locks complete the template, and `writeMrpack` writes the manifest of the completed
template as the only entry of an archive.

Whatever the files hold and whatever the arguments are, a pack that is written has nothing in its manifest but files of
the built-in locks, and jars that have been read in this run, under their own hashes and sizes
(`written_pack_vouched`).
-/

namespace EasyMc.Packs

open Throwing (JsError bind_eq_ok ok_bind)

/-! ### Files and errors -/

/-- The calls of the scripts. -/
inductive FileOp
  | readFile (path : String)
  | access (path : String)
  | mkdir (path : String)
  | writeFile (path : String) (contents : List UInt8)

/-- What a call returns. -/
def FileOp.Result : FileOp → Type
  | .readFile _ => List UInt8
  | .access _ => Unit
  | .mkdir _ => Unit
  | .writeFile _ _ => Unit

/-- What a call returns, or the message of its error. -/
abbrev FileOp.Answer (op : FileOp) : Type := Except String op.Result

/-- What is thrown: an error with a message, or one of the language or of a buffer. -/
inductive Thrown
  | error (message : String)
  | js (error : JsError)
  | archive (error : ArchiveError)

/-- What the scripts take from the language and its library. -/
structure Tools where
  builtins : Builtins
  sha1 : List UInt8 → String
  sha512 : List UInt8 → String
  deflateRawSync : List UInt8 → Except ArchiveError (List UInt8)
  /-- `JSON.parse`, with the message of its error. -/
  parseJson : List Char → Except String Json
  resolve : String → String
  /-- `resolve(repoRoot, path)` -/
  resolveFromRepo : String → String
  dirname : String → String
  archiveMessage : ArchiveError → String
  typeErrorMessage : String

/-- `error.message` -/
def Tools.messageOf (tools : Tools) : Thrown → String
  | .error message => message
  | .js _ => tools.typeErrorMessage
  | .archive error => tools.archiveMessage error

abbrev PackScript (α : Type) : Type := Script FileOp FileOp.Answer Unit Thrown α

/-- What has been computed, or else what is thrown. -/
def orThrow {α : Type} : Except Thrown α → PackScript α
  | .ok a => pure a
  | .error e => throw e

/-- A call whose error is thrown. -/
def call (op : FileOp) : PackScript op.Result := do
  let answer ← Script.ask op
  orThrow (answer.mapError .error)

def readFile (path : String) : PackScript (List UInt8) := call (.readFile path)

def access (path : String) : PackScript Unit := call (.access path)

def mkdir (path : String) : PackScript Unit := call (.mkdir path)

def writeFile (path : String) (contents : List UInt8) : PackScript Unit := call (.writeFile path contents)

/-- `JSON.parse(await readFile(path, "utf8"))` -/
def readJson (tools : Tools) (path : String) : PackScript Json := do
  let bytes ← readFile path
  orThrow ((tools.parseJson (Utf8.decode bytes)).mapError .error)

def readMrpackTemplate (tools : Tools) (path : String) : PackScript Json := readJson tools path

/-! ### The lock of a jar -/

/-- The lock of an artifact with the hashes and the size of its bytes. -/
def artifactLock (tools : Tools) (path : String) (downloads : List Json) (bytes : List UInt8) : Json :=
  .obj [("path", .str path), ("downloads", .arr downloads),
    ("hashes", .obj [("sha1", .str (tools.sha1 bytes)), ("sha512", .str (tools.sha512 bytes))]),
    ("fileSize", .num (toString bytes.length))]

def createFirstPartyArtifactLock (tools : Tools) (path : String) (downloads : List Json) (bytes : List UInt8) :
    Except Thrown Json := do
  let lock := artifactLock tools path downloads bytes
  let issues ← (validateSingleFirstPartyArtifactLock tools.builtins lock).mapError .js
  match issues with
  | issue :: _ => .error (.error issue)
  | [] => .ok lock

/-- What is to be put into the pack: a path in it, the local jar, and where friends download the jar from. -/
structure ArtifactArgument where
  mrpackPath : String
  localJarPath : String
  downloadUrl : String

def createFirstPartyArtifactLockFromFile (tools : Tools) (artifact : ArtifactArgument) : PackScript Json :=
  if !firstPartyArtifactPaths.contains artifact.mrpackPath then
    throw (.error ("Unknown first-party artifact path: " ++ artifact.mrpackPath))
  else if artifact.localJarPath == "" || Text.startsWith artifact.localJarPath "file:" then
    throw (.error "First-party artifact bytes must come from an explicit local jar path.")
  else
    match validateFirstPartyArtifactDownloadUrl tools.builtins (.str artifact.downloadUrl) with
    | .notReady message => throw (.error message)
    | .ready _ => do
      let bytes ← readFile artifact.localJarPath
      match validateFirstPartyArtifactJarBytes tools.archiveMessage (some artifact.mrpackPath) bytes with
      | .error message => throw (.error message)
      | .ok _ => orThrow (createFirstPartyArtifactLock tools artifact.mrpackPath [.str artifact.downloadUrl] bytes)

/-! ### Writing the pack -/

/-- A template with its completed files. -/
def CompletedTemplate.toJson (completed : CompletedTemplate) : Json :=
  completed.template.assign [("files", some (.arr (completed.files.map CompletedFile.file)))]

def Manifest.toJson (manifest : Manifest) : Json :=
  Json.object [("formatVersion", manifest.formatVersion), ("game", manifest.game), ("versionId", manifest.versionId),
    ("name", manifest.name), ("summary", manifest.summary), ("files", manifest.files),
    ("dependencies", manifest.dependencies)]

/-- The text of `modrinth.index.json`. -/
def Manifest.text (manifest : Manifest) : List Char := (normalizeManifest manifest.toJson).toJson.pretty 2 ++ ['\n']

/-- The only entry of the archive. -/
def Manifest.entry (manifest : Manifest) : ZipEntry := ⟨"modrinth.index.json".toList, Text.utf8 manifest.text⟩

def createMrpackArchive (tools : Tools) (manifest : Manifest) : Except ArchiveError (List UInt8) :=
  createZipArchive tools.deflateRawSync [manifest.entry]

/-- `manifest.files.length` -/
def Manifest.fileCount (manifest : Manifest) : Nat :=
  match manifest.files with
  | some (.arr files) => files.length
  | _ => 0

inductive WriteResult
  | wrote (outputPath : String) (byteLength fileCount : Nat)
  | failed (message : String)

def writeMrpack (tools : Tools) (template : Json) (outputPath : String) (firstPartyArtifacts : Option Json) :
    PackScript WriteResult := do
  let result ← orThrow ((buildMrpackManifest tools.builtins template firstPartyArtifacts).mapError .js)
  match result with
  | .failed _ message _ => pure (.failed message)
  | .built manifest => do
    let archive ← orThrow ((createMrpackArchive tools manifest).mapError .archive)
    writeFile outputPath archive
    pure (.wrote outputPath archive.length manifest.fileCount)

/-! ### Arguments -/

structure BuildArguments where
  help : Bool
  templatePath : String
  outputPath : Option String
  artifacts : List ArtifactArgument

def defaultArguments : BuildArguments where
  help := false
  templatePath := "packages/modpack-builder/m1/mvp0-performance-room-1.21.1/modrinth.index.template.json"
  outputPath := none
  artifacts := []

/-- The texts before and after the first `c`. -/
def splitFirst (c : Char) : List Char → Option (List Char × List Char)
  | [] => none
  | c' :: text => if c' = c then some ([], text) else (splitFirst c text).map fun parts => (c' :: parts.1, parts.2)

/-- The texts before and after the last `c`. -/
def splitLast (c : Char) (text : List Char) : Option (List Char × List Char) :=
  (splitFirst c text.reverse).map fun parts => (parts.2.reverse, parts.1.reverse)

def parseArtifact (value : String) : Except Thrown ArtifactArgument :=
  match splitFirst '=' value.toList with
  | some (char :: mrpackPath, rest) =>
    match splitLast ',' rest with
    | some (jar :: localJarPath, url :: downloadUrl) =>
      .ok ⟨String.ofList (char :: mrpackPath), String.ofList (jar :: localJarPath), String.ofList (url :: downloadUrl)⟩
    | _ => .error (.error "--artifact must include both a local jar path and HTTPS download URL.")
  | _ => .error (.error "--artifact must use <mrpack-path>=<local-jar-path>,<https-download-url>")

/-- `requireValue`, of what stands behind the flag. -/
def isValue (value : String) : Bool := value != "" && !Text.startsWith value "--"

/-- What a flag does with its value. -/
def setArgument (flag : String) : Option (BuildArguments → String → Except Thrown BuildArguments) :=
  if flag == "--template" then some fun parsed value => .ok { parsed with templatePath := value }
  else if flag == "--output" then some fun parsed value => .ok { parsed with outputPath := some value }
  else if flag == "--artifact" then
    some fun parsed value => do
      let artifact ← parseArtifact value
      .ok { parsed with artifacts := parsed.artifacts ++ [artifact] }
  else none

def parseArgsFrom (parsed : BuildArguments) : List String → Except Thrown BuildArguments
  | [] => .ok parsed
  | arg :: argv =>
    if arg == "--help" || arg == "-h" then parseArgsFrom { parsed with help := true } argv
    else
      match setArgument arg, argv with
      | none, _ => .error (.error ("Unknown argument: " ++ arg))
      | some _, [] => .error (.error (arg ++ " requires a value."))
      | some set, value :: argv =>
        if isValue value then do
          let parsed ← set parsed value
          parseArgsFrom parsed argv
        else .error (.error (arg ++ " requires a value."))

def parseArgs (argv : List String) : Except Thrown BuildArguments := parseArgsFrom defaultArguments argv

/-! ### The script -/

/-- How the script ends, but for an error. -/
inductive BuildOutcome
  | usage (exitCode : Nat)
  | blocked (blockers : List MrpackBlocker)
  | failed (message : String)
  | wrote (outputPath : String) (fileCount : Nat)

def createLocks (tools : Tools) : List ArtifactArgument → PackScript (List Json)
  | [] => pure []
  | artifact :: artifacts => do
    let lock ← createFirstPartyArtifactLockFromFile tools artifact
    let locks ← createLocks tools artifacts
    pure (lock :: locks)

/-- What is done when the arguments are there. -/
def buildPack (tools : Tools) (args : BuildArguments) (outputPath : String) : PackScript BuildOutcome := do
  let locks ← createLocks tools args.artifacts
  let template ← readMrpackTemplate tools args.templatePath
  let completed ← orThrow ((applyFirstPartyArtifactLocks tools.builtins template (some (.arr locks))).mapError .js)
  let readiness ←
    orThrow ((validateMrpackTemplate tools.builtins completed.toJson (some (.arr locks))).mapError .js)
  if !readiness.ok then pure (.blocked readiness.blockers)
  else do
    let outputPath := tools.resolve outputPath
    mkdir (tools.dirname outputPath)
    let result ← writeMrpack tools completed.toJson outputPath (some (.arr locks))
    match result with
    | .failed message => pure (.failed message)
    | .wrote outputPath _ fileCount => pure (.wrote outputPath fileCount)

def main (tools : Tools) (argv : List String) : PackScript BuildOutcome := do
  let args ← orThrow (parseArgs argv)
  if args.help then pure (.usage 0)
  else
    match args.outputPath with
    | none => pure (.usage 1)
    | some outputPath => if args.artifacts.isEmpty then pure (.usage 1) else buildPack tools args outputPath

end EasyMc.Packs
