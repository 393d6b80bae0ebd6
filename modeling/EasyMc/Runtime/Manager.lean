import Mathlib.Data.List.Basic
import EasyMc.Library.Machine
import EasyMc.Library.Text

/-!
# The local server lifecycle manager (`apps/desktop/src/runtime/node-local-runtime.mjs`)

`createLocalServerLifecycleManager` with the processes it has spawned, the calls that wait, and the events of the
processes.  A call that waits goes on in a later step: when the launch it waits for has ended (`launched`), when the
exit or the hard timeout it waits for has come (`resume`), or when its command is written (`written`).  A launch hands
its process over and the manager stores and observes it in one step, since no event of a process can come in between.

Texts are lists of characters.  Sampling the metrics of a process is left out.
-/

namespace EasyMc.Runtime

abbrev Text := List Char

inductive HostRuntimeState
  | stopped | ready | starting | running | stopping | restarting | crashed | failed
  deriving DecidableEq, Repr

inductive OutputStream
  | stdout | stderr
  deriving DecidableEq, Repr

/-- The failures the manager returns or reports, with their details. -/
inductive Failure
  | launch (reason : String)
  | invalidRuntimePlan
  | unsupportedLaunchMode (mode : Option String)
  | processAlreadyRunning (state : HostRuntimeState)
  | processError (error : String)
  | processNotRunning (state : HostRuntimeState)
  | processStopTimeout (killed : Bool)
  | serverCommandInvalid (reason : String)
  | serverCommandWriteFailed (error : String)
  deriving DecidableEq, Repr

/-- The events `runtime.failure`, `runtime.log`, `runtime.ready` and so on. -/
inductive EventType
  | failure (failure : Failure)
  | log (stream : OutputStream) (line : Text) (sequence : Nat)
  | ready
  | crashed (stream : OutputStream) (line : Text)
  | exit (code : Option Int) (signal : Option String) (state : HostRuntimeState)
  | command (line : Text) (sequence : Nat)
  deriving DecidableEq, Repr

structure RuntimeEvent where
  roomId : Option String
  type : EventType
  deriving DecidableEq, Repr

/-- The patterns of the intent's health check. -/
structure Intent where
  readyLogPattern : Option String
  crashLogPattern : Option String
  deriving DecidableEq, Repr

/-- The intent of `createLocalServerProcessIntent` for a start. -/
def localServerIntent : Intent :=
  { readyLogPattern := some "Done"
    crashLogPattern :=
      some "\\bERROR\\b|\\bException\\b|\\bFailed\\b|Crash report|crashed|Caused by:" }

/-- The plan of the room and the functions that the manager uses: `regexTest` is the case-insensitive test of a
regular expression, and `planIsValid` tells whether the plan gives a stop intent. -/
structure Options where
  roomId : Option String
  planIsValid : Bool
  regexTest : String → Text → Bool
  redactHostLogLine : Text → Text
  normalizeServerCommand : Text → Except String Text

/-! ### Lines -/

/-- The complete lines of a text, which end in `\n` or `\r\n`, and what follows the last of them. -/
def splitLines : Text → List Text × Text
  | [] => ([], [])
  | '\r' :: '\n' :: rest => ([] :: (splitLines rest).1, (splitLines rest).2)
  | c :: rest =>
    if c = '\n' then
      ([] :: (splitLines rest).1, (splitLines rest).2)
    else
      match splitLines rest with
      | ([], last) => ([], c :: last)
      | (line :: lines, last) => ((c :: line) :: lines, last)

/-- The lines that `emitLine` passes on. -/
def emittedLines (lines : List Text) : List Text := (lines.map Text.trim).filter (· ≠ [])

/-- `push` of a line buffer: the lines it emits and the new buffer. -/
def pushChunk (buffer chunk : Text) : List Text × Text :=
  let (lines, rest) := splitLines (buffer ++ chunk)
  (emittedLines lines, rest)

/-- `flush` of a line buffer. -/
def flushBuffer (buffer : Text) : List Text := emittedLines [buffer]

/-! ### Processes and calls -/

/-- What an exit promise is resolved with. -/
inductive ExitResult
  | exit (code : Option Int) (signal : Option String)
  | error (error : String)
  deriving DecidableEq, Repr

/-- A spawned process.  `alive` says that it runs; the rest is what `observeProcess` keeps. -/
structure Child where
  alive : Bool
  errorHandled : Bool
  settled : Option ExitResult
  stdout : Text
  stderr : Text
  stdin : List Text
  deriving DecidableEq, Repr

/-- A call that waits: for its launch, for the exit of a process (as a stop or as the stop of a restart), to start
again after that, or for its command to be written. -/
inductive Call
  | launching
  | stopping (child : Nat) (restart didKill timedOut : Bool)
  | restarting
  | writing (command : Text)
  | ended
  deriving DecidableEq, Repr

structure Manager where
  state : HostRuntimeState
  processRef : Option Nat
  processExited : Bool
  startIntent : Option Intent
  logSequence : Nat
  lastExit : Option (Option Int × Option String)
  exitPromise : Option Nat
  events : List RuntimeEvent
  children : List Child
  calls : List Call

def createLocalServerLifecycleManager : Manager :=
  { state := .stopped, processRef := none, processExited := true, startIntent := none, logSequence := 0,
    lastExit := none, exitPromise := none, events := [], children := [], calls := [] }

inductive Output
  | started (state : HostRuntimeState) (intent : Intent)
  | stopped (state : HostRuntimeState) (killed : Bool) (exit : Option ExitResult)
  | sent (state : HostRuntimeState) (command : Text)
  | fail (failure : Failure)
  | threw
  | waiting (call : Nat)
  | none
  deriving DecidableEq, Repr

/-- The `hasProcess` of `status`. -/
def hasProcess (m : Manager) : Bool := m.processRef.isSome && !m.processExited

def emit (options : Options) (m : Manager) (type : EventType) : Manager :=
  { m with events := m.events ++ [⟨options.roomId, type⟩] }

def setCall (m : Manager) (call : Nat) (next : Call) : Manager := { m with calls := m.calls.set call next }

/-! ### Observing a process -/

def matchesPattern (options : Options) (line : Text) (pattern : Option String) : Bool :=
  match pattern with
  | some pattern => pattern != "" && options.regexTest pattern line
  | none => false

/-- The line says that the server is ready, while the manager waits for that. -/
def marksReady (options : Options) (m : Manager) (line : Text) : Bool :=
  m.state == .starting && matchesPattern options line (m.startIntent.bind Intent.readyLogPattern)

/-- The line says that the server has crashed, which the manager does not know. -/
def marksCrashed (options : Options) (m : Manager) (line : Text) : Bool :=
  m.state != .crashed && matchesPattern options line (m.startIntent.bind Intent.crashLogPattern)

def onLog (options : Options) (m : Manager) (stream : OutputStream) (line : Text) : Manager :=
  let redacted := options.redactHostLogLine line
  let m := emit options { m with logSequence := m.logSequence + 1 } (.log stream redacted (m.logSequence + 1))
  let m := if marksReady options m line then emit options { m with state := .running } .ready else m
  if marksCrashed options m line then emit options { m with state := .crashed } (.crashed stream redacted) else m

def onLogs (options : Options) (m : Manager) (lines : List (OutputStream × Text)) : Manager :=
  lines.foldl (fun m line => onLog options m line.1 line.2) m

/-- The state after an exit. -/
def exitState (state : HostRuntimeState) (code : Option Int) : HostRuntimeState :=
  if state = .stopping ∨ state = .restarting then .stopped
  else if state = .crashed ∨ code.getD 0 ≠ 0 then .crashed
  else .stopped

def onExit (options : Options) (m : Manager) (code : Option Int) (signal : Option String) : Manager :=
  -- The reference is cleared whichever process it is to; so it is in `onError`.
  let nextState := exitState m.state code
  emit options
    { m with processExited := true, lastExit := some (code, signal), processRef := none, state := nextState }
    (.exit code signal nextState)

def onError (options : Options) (m : Manager) (error : String) : Manager :=
  emit options { m with processExited := true, processRef := none, state := .failed } (.failure (.processError error))

/-- What the buffers of a process still hold. -/
def Child.flushed (child : Child) : List (OutputStream × Text) :=
  (flushBuffer child.stdout).map (OutputStream.stdout, ·) ++ (flushBuffer child.stderr).map (OutputStream.stderr, ·)

/-- Resolve the exit promise of a process, once, after flushing its output. -/
def settle (options : Options) (m : Manager) (child : Nat) (result : ExitResult) : Manager :=
  match m.children[child]? with
  | some process =>
    if process.settled.isSome then
      -- An exit after an error, or an error after an exit.
      m
    else
      onLogs options
        { m with children :=
            m.children.set child { process with settled := some result, stdout := [], stderr := [] } }
        process.flushed
  | none => m

/-- A process writes to one of its streams. -/
def onData (options : Options) (m : Manager) (child : Nat) (stream : OutputStream) (chunk : Text) : Manager :=
  match m.children[child]? with
  | some process =>
    match stream with
    | .stdout =>
      let (lines, rest) := pushChunk process.stdout chunk
      onLogs options { m with children := m.children.set child { process with stdout := rest } }
        (lines.map (OutputStream.stdout, ·))
    | .stderr =>
      let (lines, rest) := pushChunk process.stderr chunk
      onLogs options { m with children := m.children.set child { process with stderr := rest } }
        (lines.map (OutputStream.stderr, ·))
  | none => m

/-- A process that runs exits. -/
def exited (options : Options) (m : Manager) (child : Nat) (code : Option Int) (signal : Option String) : Manager :=
  match m.children[child]? with
  | some process =>
    if process.alive then
      settle options
        (onExit options { m with children := m.children.set child { process with alive := false } } code signal)
        child (.exit code signal)
    else
      m
  | none => m

/-- A process reports an error, of which the first is handled. -/
def errored (options : Options) (m : Manager) (child : Nat) (error : String) : Manager :=
  match m.children[child]? with
  | some process =>
    if process.errorHandled then
      m
    else
      settle options
        (onError options { m with children := m.children.set child { process with errorHandled := true } } error)
        child (.error error)
  | none => m

/-! ### Calls -/

/-- How a launch ends.  A process that could not be spawned is handed over like one that runs. -/
inductive LaunchResult
  | failed (reason : String)
  | notLaunched (mode : Option String)
  | threw
  | spawned (intent : Intent) (alive : Bool)
  deriving DecidableEq, Repr

/-- The check of `start`: the call may go on to its launch. -/
def mayStart (m : Manager) : Bool := !hasProcess m

def start (m : Manager) : Output × Manager :=
  if mayStart m then
    (.waiting m.calls.length, { m with calls := m.calls ++ [.launching] })
  else
    (.fail (.processAlreadyRunning m.state), m)

/-- Store and observe the process that a launch hands over. -/
def storeProcess (m : Manager) (intent : Intent) (alive : Bool) : Manager :=
  { m with
    processRef := some m.children.length
    processExited := false
    startIntent := some intent
    state := .starting
    exitPromise := some m.children.length
    children := m.children ++
      [{ alive := alive, errorHandled := false, settled := none, stdout := [], stderr := [], stdin := [] }] }

def launched (options : Options) (m : Manager) (call : Nat) (result : LaunchResult) : Output × Manager :=
  match m.calls[call]? with
  | some .launching =>
    let m := setCall m call .ended
    match result with
    | .failed reason =>
      (.fail (.launch reason), emit options { m with state := .failed } (.failure (.launch reason)))
    | .notLaunched mode =>
      (.fail (.unsupportedLaunchMode mode),
        emit options { m with state := .failed } (.failure (.unsupportedLaunchMode mode)))
    | .threw => (.threw, m)
    -- The check of `start` is not made again here.
    | .spawned intent alive => (.started .starting intent, storeProcess m intent alive)
  | _ => (.none, m)

/-- Write to the process's standard input. -/
def writeStdin (m : Manager) (child : Nat) (text : Text) : Manager :=
  { m with children := m.children.modify child fun process => { process with stdin := process.stdin ++ [text] } }

def gracefulCommand : Text := ['s', 't', 'o', 'p', '\n']

/-- `stop`, also as the first part of a restart. -/
def stopProcess (options : Options) (m : Manager) (restart : Bool) : Output × Manager :=
  match m.processRef, m.processExited with
  | some child, false =>
    if !options.planIsValid then
      (.fail .invalidRuntimePlan, { m with state := .failed })
    else
      let m := writeStdin { m with state := .stopping } child gracefulCommand
      (.waiting m.calls.length,
        { m with calls := m.calls ++ [.stopping (m.exitPromise.getD child) restart false false] })
  | _, _ =>
    let m := { m with state := .stopped }
    if restart then
      (.waiting m.calls.length, { m with calls := m.calls ++ [.restarting] })
    else
      (.stopped .stopped false none, m)

def stop (options : Options) (m : Manager) : Output × Manager := stopProcess options m false

def restart (options : Options) (m : Manager) : Output × Manager :=
  stopProcess options { m with state := .restarting } true

/-- The soft timeout of a stop: the current process, if any, is asked to end. -/
def softTimeout (m : Manager) (call : Nat) : Manager :=
  match m.calls[call]? with
  | some (.stopping child restart _ timedOut) => setCall m call (.stopping child restart true timedOut)
  | _ => m

/-- The hard timeout of a stop, which wins the race unless the process has settled. -/
def hardTimeout (m : Manager) (call : Nat) : Manager :=
  match m.calls[call]? with
  | some (.stopping child restart didKill _) =>
    if (m.children[child]?.bind Child.settled).isSome then m
    else setCall m call (.stopping child restart didKill true)
  | _ => m

/-- A stop goes on after its race, or a restart goes on to its start. -/
def resume (m : Manager) (call : Nat) : Output × Manager :=
  match m.calls[call]? with
  | some (.stopping child restart didKill timedOut) =>
    if timedOut then
      (.fail (.processStopTimeout didKill), setCall { m with state := .failed } call .ended)
    else
      match m.children[child]?.bind Child.settled with
      | none => (.none, m)
      | some (.error error) => (.fail (.processError error), setCall { m with state := .failed } call .ended)
      | some (.exit code signal) =>
        -- The exit has cleared the reference already, but another start may have set it since.
        let m := { m with processRef := none, processExited := true, state := .stopped }
        if restart then
          (.none, setCall m call .restarting)
        else
          (.stopped .stopped didKill (some (.exit code signal)), setCall m call .ended)
  | some .restarting =>
    if mayStart m then
      (.waiting call, setCall m call .launching)
    else
      (.fail (.processAlreadyRunning m.state), setCall m call .ended)
  | _ => (.none, m)

/-- `command` is `none` for a value that is no string. -/
def sendCommand (options : Options) (m : Manager) (command : Option Text) : Output × Manager :=
  match command with
  | none => (.fail (.serverCommandInvalid "not_string"), m)
  | some command =>
    match options.normalizeServerCommand command with
    | .error reason => (.fail (.serverCommandInvalid reason), m)
    | .ok command =>
      match m.processRef, m.processExited with
      | some child, false =>
        let m := writeStdin m child (command ++ ['\n'])
        (.waiting m.calls.length, { m with calls := m.calls ++ [.writing command] })
      | _, _ => (.fail (.processNotRunning m.state), m)

/-- The command has been written, or could not be. -/
def written (options : Options) (m : Manager) (call : Nat) (error : Option String) : Output × Manager :=
  match m.calls[call]? with
  | some (.writing command) =>
    let m := setCall m call .ended
    match error with
    | some error => (.fail (.serverCommandWriteFailed error), m)
    | none =>
      (.sent m.state command,
        emit options { m with logSequence := m.logSequence + 1 }
          (.command (options.redactHostLogLine command) (m.logSequence + 1)))
  | _ => (.none, m)

/-! ### Runs -/

inductive Label
  | start
  | stop
  | restart
  | sendCommand (command : Option Text)
  | launched (call : Nat) (result : LaunchResult)
  | softTimeout (call : Nat)
  | hardTimeout (call : Nat)
  | resume (call : Nat)
  | written (call : Nat) (error : Option String)
  | data (child : Nat) (stream : OutputStream) (chunk : Text)
  | exit (child : Nat) (code : Option Int) (signal : Option String)
  | error (child : Nat) (error : String)
  deriving DecidableEq, Repr

def step (options : Options) (m : Manager) : Label → Output × Manager
  | .start => start m
  | .stop => stop options m
  | .restart => restart options m
  | .sendCommand command => sendCommand options m command
  | .launched call result => launched options m call result
  | .softTimeout call => (.none, softTimeout m call)
  | .hardTimeout call => (.none, hardTimeout m call)
  | .resume call => resume m call
  | .written call error => written options m call error
  | .data child stream chunk => (.none, onData options m child stream chunk)
  | .exit child code signal => (.none, exited options m child code signal)
  | .error child error => (.none, errored options m child error)

/-- The manager after a list of steps. -/
abbrev run (options : Options) (labels : List Label) : Manager :=
  Machine.run (step options) createLocalServerLifecycleManager labels

/-- A room whose patterns are tested on the lines `Done` and `ERROR` only. -/
def sampleOptions : Options :=
  { roomId := some "room", planIsValid := true
    regexTest := fun pattern line =>
      (some pattern == localServerIntent.readyLogPattern && line == ['D', 'o', 'n', 'e']) ||
        (some pattern == localServerIntent.crashLogPattern && line == ['E', 'R', 'R', 'O', 'R'])
    redactHostLogLine := id
    normalizeServerCommand := .ok }

end EasyMc.Runtime
