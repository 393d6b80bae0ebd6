import EasyMc.Library.Paths
import EasyMc.Library.Regex
import EasyMc.Library.Script
import EasyMc.Runtime.Manager

/-!
# Looking for Java (`apps/desktop/src/runtime/node-java-detection.mjs`)

`detectWindowsJava` collects paths under which a Java may be: a configured one, those that the environment names, and
those that it finds in the directories of two vendors.  It runs one after the other with `-version`, until one answers
with a version that is new enough.

What a directory holds, whether a file exists and what a program prints are the answers of an environment.
-/

namespace EasyMc.Runtime.JavaDetection

open Text (isBlank trim)

/-! ### Calls -/

inductive DetectOp
  | readdir (path : List Char)
  | exists_ (path : List Char)
  | execFile (path : List Char) (args : List String)

/-- What a program has printed, whether it has succeeded or not. -/
structure ProcessOutput where
  stdout : List Char
  stderr : List Char

/-- The names in a directory, if it can be read; whether a file exists; what a program has printed. -/
abbrev DetectOp.Answer : DetectOp → Type
  | .readdir _ => Option (List (List Char))
  | .exists_ _ => Bool
  | .execFile _ _ => ProcessOutput

abbrev Detection (α : Type) : Type := Script DetectOp DetectOp.Answer Unit Empty α

inductive NodeJavaDetectionSources
  | configuredPath
  | javaHome
  | path
  | adoptium
  | java
  deriving DecidableEq

def NodeJavaDetectionSources.text : NodeJavaDetectionSources → String
  | .configuredPath => "configuredPath"
  | .javaHome => "JAVA_HOME"
  | .path => "PATH"
  | .adoptium => "ProgramFiles/Eclipse Adoptium"
  | .java => "ProgramFiles/Java"

structure DetectOptions where
  minimumMajorVersion : Option Int
  env : List (String × String)
  configuredPath : Option (List Char)
  pathCandidates : Option (List (List Char))
  programFilesRoots : Option (List (Option (List Char)))
  allowPathCandidates : Bool
  allowNetworkPaths : Bool
  trustedSources : Option (List NodeJavaDetectionSources)

structure RawCandidate where
  path : Option (List Char)
  source : NodeJavaDetectionSources
  vendor : Option String

structure Candidate where
  path : List Char
  source : NodeJavaDetectionSources
  vendor : Option String

/-! ### Paths -/

/-- `/^[A-Za-z]:[\\/]/` -/
def isDrivePath : List Char → Bool
  | letter :: ':' :: separator :: _ => letter.isAlpha && (separator = '/' || separator = '\\')
  | _ => false

/-- `/^\\\\[^\\]+\\[^\\]+/`, or the same with slashes. -/
def isSharePath (separator : Char) : List Char → Bool
  | c :: c' :: rest =>
    c = separator && c' = separator &&
      match rest.span (· ≠ separator) with
      | (_ :: _, _ :: d :: _) => d ≠ separator
      | _ => false
  | _ => false

def isSafeCandidatePath (allowNetworkPaths : Bool) (value : Option (List Char)) : Bool :=
  match value with
  | none => false
  | some value =>
    let path := trim value
    path ≠ [] && !path.contains '\x00' && !Paths.hasParentSegment path &&
      (isDrivePath path || (allowNetworkPaths && (isSharePath '\\' path || isSharePath '/' path)))

/-- The last replacement of the source puts a drive letter in its own place. -/
def normalizeWindows (path : List Char) : List Char :=
  match Paths.slashes (trim path) with
  | '/' :: '/' :: body => '/' :: '/' :: Paths.collapse body
  | normalized => Paths.collapse normalized

def joinWindows (parts : List (List Char)) : List Char :=
  normalizeWindows (['/'].intercalate (parts.filter fun part => !part.isEmpty))

def javaExe : List Char := "java.exe".toList

def javaExeFromHome (javaHome : Option (List Char)) : Option (List Char) :=
  if isSafeCandidatePath false javaHome then some (joinWindows [javaHome.getD [], "bin".toList, javaExe]) else none

def javaExeFromPathEntry (pathEntry : List Char) : Option (List Char) :=
  if isSafeCandidatePath false (some pathEntry) then some (joinWindows [pathEntry, javaExe]) else none

/-! ### The environment -/

variable (toLowerCase : List Char → List Char)

def envValue (env : List (String × String)) (key : String) : Option (List Char) :=
  match env.lookup key with
  | some value => some value.toList
  | none =>
    (env.find? fun entry => toLowerCase entry.1.toList = toLowerCase key.toList).map fun entry => entry.2.toList

def pathCandidatesFromEnv (pathValue : Option (List Char)) : List (List Char) :=
  (((pathValue.getD []).splitOn ';').map trim).filter fun entry => !entry.isEmpty

def programFilesRoots (env : List (String × String)) (explicitRoots : Option (List (Option (List Char)))) :
    List (Option (List Char)) :=
  explicitRoots.getD [envValue toLowerCase env "ProgramFiles", envValue toLowerCase env "ProgramFiles(x86)"]

/-! ### Candidates -/

/-- A name that is one segment of a path. -/
def isEntryName (name : List Char) : Bool :=
  name ≠ [] && name ≠ ['.'] && name ≠ ['.', '.'] && !name.contains '/' && !name.contains '\\' && !name.contains '\x00'

/-- The loop over the names of a directory of a vendor. -/
def entryCandidates (vendorRoot : List Char) (source : NodeJavaDetectionSources) (vendor : String) :
    List (List Char) → Detection (List RawCandidate)
  | [] => pure []
  | name :: names =>
    if isEntryName name then do
      let javaPath := joinWindows [vendorRoot, name, "bin".toList, javaExe]
      let found ← Script.ask (.exists_ javaPath)
      let candidates ← entryCandidates vendorRoot source vendor names
      pure (if found = true then ⟨some javaPath, source, some vendor⟩ :: candidates else candidates)
    else entryCandidates vendorRoot source vendor names

def vendorCandidates (vendorRoot : List Char) (source : NodeJavaDetectionSources) (vendor : String) :
    Detection (List RawCandidate) := do
  let entries ← Script.ask (.readdir vendorRoot)
  entryCandidates vendorRoot source vendor (Option.getD entries [])

def programFilesJavaCandidates (root : Option (List Char)) : Detection (List RawCandidate) :=
  if isSafeCandidatePath false root then do
    let adoptium ← vendorCandidates (joinWindows [root.getD [], "Eclipse Adoptium".toList]) .adoptium "Eclipse Adoptium"
    let java ← vendorCandidates (joinWindows [root.getD [], "Java".toList]) .java "Oracle"
    pure (adoptium ++ java)
  else pure []

def rootsCandidates : List (Option (List Char)) → Detection (List RawCandidate)
  | [] => pure []
  | root :: roots => do
    let candidates ← programFilesJavaCandidates root
    let rest ← rootsCandidates roots
    pure (candidates ++ rest)

/-- The loop over the raw candidates, with the keys that have been seen. -/
def dedupeFrom (allowNetworkPaths : Bool) (seen : List (List Char)) : List RawCandidate → List Candidate
  | [] => []
  | candidate :: candidates =>
    if isSafeCandidatePath allowNetworkPaths candidate.path then
      let path := normalizeWindows (candidate.path.getD [])
      let key := toLowerCase path
      if seen.contains key then dedupeFrom allowNetworkPaths seen candidates
      else ⟨path, candidate.source, candidate.vendor⟩ :: dedupeFrom allowNetworkPaths (key :: seen) candidates
    else dedupeFrom allowNetworkPaths seen candidates

def dedupeCandidates (allowNetworkPaths : Bool) (candidates : List RawCandidate) : List Candidate :=
  dedupeFrom toLowerCase allowNetworkPaths [] candidates

/-- The candidates that no directory is read for. -/
def givenCandidates (options : DetectOptions) : List RawCandidate :=
  [⟨options.configuredPath, .configuredPath, none⟩,
    ⟨javaExeFromHome ((options.env.lookup "JAVA_HOME").map String.toList), .javaHome, none⟩] ++
  if options.allowPathCandidates then
    (options.pathCandidates.getD (pathCandidatesFromEnv (envValue toLowerCase options.env "PATH"))).map
      fun entry => ⟨javaExeFromPathEntry entry, .path, none⟩
  else []

def createWindowsJavaCandidates (options : DetectOptions) : Detection (List Candidate) := do
  let found ← rootsCandidates (programFilesRoots toLowerCase options.env options.programFilesRoots)
  pure (dedupeCandidates toLowerCase options.allowNetworkPaths (givenCandidates toLowerCase options ++ found))

/-! ### Versions -/

structure JavaVersion where
  version : List Char
  majorVersion : Int

/-- `Number.parseInt(text, 10)`, exactly: the source rounds a number from 2^53 on, and one of more than some 308 digits
is `Infinity`, which it takes for no version. -/
def parseInt (text : List Char) : Option Int :=
  let number (digits : List Char) : Option Int :=
    match digits.takeWhile Char.isDigit with
    | [] => none
    | digits => some (Nat.ofDigitChars 10 digits 0)
  match text.dropWhile isBlank with
  | '-' :: digits => (number digits).map (- ·)
  | '+' :: digits => number digits
  | digits => number digits

def majorVersionFromJavaVersion (version : List Char) : Option Int :=
  match version.splitOn '.' with
  | [] => none
  | part :: parts =>
    match parseInt part, parts with
    | some 1, legacy :: _ => parseInt legacy
    | first, _ => first

/-- `text.match(regex)?.[1]` -/
def matchGroup (regex : Regex) (text : List Char) : Option (List Char) := go [] text
where
  go (before : List Char) : List Char → Option (List Char)
    | [] => none
    | c :: rest =>
      match regex.firstMatch before (c :: rest) with
      | some matched => matched.groups.lookup 1
      | none => go (c :: before) rest

/-- `/version\s+"([^"]+)"/i` -/
def quotedVersion : Regex :=
  .all [.literalI "version".toList, .plus isBlank, .char (· = '"'), .group 1 (.plus (· ≠ '"')), .char (· = '"')]

/-- `/openjdk\s+([0-9][^\s]*)/i` -/
def openJdkVersion : Regex :=
  .all [.literalI "openjdk".toList, .plus isBlank, .group 1 (.seq (.char Char.isDigit) (.star fun c => !isBlank c))]

def parseJavaVersionOutput (text : List Char) : Option JavaVersion :=
  match (matchGroup quotedVersion text).or (matchGroup openJdkVersion text) with
  | none => none
  | some version => (majorVersionFromJavaVersion version).map fun majorVersion => ⟨version, majorVersion⟩

/-! ### Detection -/

inductive DetectResult
  | found (path : List Char) (version : JavaVersion) (vendor : Option String) (source : NodeJavaDetectionSources)
  | incompatible (path : List Char) (majorVersion minimumMajorVersion : Int) (source : NodeJavaDetectionSources)
  | missing (minimumMajorVersion : Int) (searchedCandidates : List (List Char))

/-- What is made of what the program has printed. -/
def versionOf (output : ProcessOutput) : Option JavaVersion :=
  parseJavaVersionOutput (output.stdout ++ '\n' :: output.stderr)

def probeJavaCandidate (candidate : Candidate) : Detection (Option JavaVersion) := do
  let output ← Script.ask (.execFile candidate.path ["-version"])
  pure (versionOf output)

/-- How the loop over the candidates ends: with one that is new enough, or with the first that is not. -/
inductive Probed
  | compatible (candidate : Candidate) (version : JavaVersion)
  | none_ (bestIncompatible : Option (Candidate × JavaVersion))

def probeCandidates (minimumMajorVersion : Int) (bestIncompatible : Option (Candidate × JavaVersion)) :
    List Candidate → Detection Probed
  | [] => pure (.none_ bestIncompatible)
  | candidate :: candidates => do
    let probe ← probeJavaCandidate candidate
    match probe with
    | none => probeCandidates minimumMajorVersion bestIncompatible candidates
    | some version =>
      if minimumMajorVersion ≤ version.majorVersion then pure (.compatible candidate version)
      else probeCandidates minimumMajorVersion (bestIncompatible.or (some (candidate, version))) candidates

/-- The candidates of the sources that are trusted. -/
def candidatesToProbe (trustedSources : Option (List NodeJavaDetectionSources)) (candidates : List Candidate) :
    List Candidate :=
  match trustedSources with
  | some sources => candidates.filter fun candidate => sources.contains candidate.source
  | none => candidates

def detectWindowsJava (options : DetectOptions) : Detection DetectResult := do
  let minimumMajorVersion := options.minimumMajorVersion.getD 21
  let candidates ← createWindowsJavaCandidates toLowerCase options
  let candidates := candidatesToProbe options.trustedSources candidates
  let probed ← probeCandidates minimumMajorVersion none candidates
  match probed with
  | .compatible candidate version => pure (.found candidate.path version candidate.vendor candidate.source)
  | .none_ (some (candidate, version)) =>
    pure (.incompatible candidate.path version.majorVersion minimumMajorVersion candidate.source)
  | .none_ none => pure (.missing minimumMajorVersion (candidates.map Candidate.path))

end EasyMc.Runtime.JavaDetection
