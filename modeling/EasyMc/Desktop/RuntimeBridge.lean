import EasyMc.Desktop.Dto
import EasyMc.Library.Stringify
import EasyMc.Runtime.Manager

/-!
# The runtime bridge (`apps/desktop/src/runtime/desktop-runtime-bridge.mjs`)

The answers of `createDesktopRuntimeBridge` to a status poll and to a server command, and the events it keeps.  The
lifecycle manager reports its events to the bridge and keeps none itself; the bridge sanitizes them, appends them to
its list and returns the whole list with every status.  Of the manager's metrics the last sample is kept here.
-/

namespace EasyMc.Desktop.RuntimeBridge

open Regex
open EasyMc.Runtime (Manager RuntimeEvent)

/-! ### Redaction (`host-runtime.mjs`) -/

/-- `^[A-Za-z]:[\\/]` or `^\/(?:Users|home|var|tmp|opt)\/`. -/
def startsAsPath : Regex :=
  .alt (all [.start, .char isLetter, chr ':', .char fun c => c = '\\' || c = '/'])
    (all [.start, chr '/', oneOf (["Users", "home", "var", "tmp", "opt"].map fun name => literal name.toList), chr '/'])

/-- `(name=)[^\s&]+`, in any letter case. -/
def assignment (name : String) : Regex :=
  all [.group 1 (literalI (name.toList ++ ['='])), plus fun c => !isSpace c && c ≠ '&']

/-- `([A-Z0-9._%+-]+)@([A-Z0-9.-]+\.[A-Z]{2,})`, in any letter case. -/
def emailText : Regex :=
  all [plus fun c => isAlphanumeric c || ['.', '_', '%', '+', '-'].contains c, chr '@',
    plus fun c => isAlphanumeric c || ['.', '-'].contains c, chr '.', .rep (.char isLetter) 2 none]

def hostLogRules : List Rule :=
  [⟨networkAddress, [.text "[redacted]"]⟩, ⟨ipv6Address, [.text "[redacted]"]⟩,
    ⟨windowsPath, [.text "[redacted-path]"]⟩, ⟨unixPath, [.text " [redacted-path]"]⟩,
    ⟨assignment "token", [.group 1, .text "[redacted]"]⟩, ⟨assignment "invite", [.group 1, .text "[redacted]"]⟩,
    ⟨assignment "secret", [.group 1, .text "[redacted]"]⟩, ⟨emailText, [.text "[redacted]"]⟩,
    ⟨uuidText, [.text "[redacted]"]⟩]

def redactHostLogLine (line : List Char) : List Char :=
  if Regex.test startsAsPath line then "[redacted-path]".toList else applyRules hostLogRules line

def isSecretKey (key : String) : Bool :=
  keyContains ["token", "secret", "password", "credential", "authorization", "cookie", "invite"] key

def redactor : Json.Redactor :=
  { drop := fun key _ => isSecretKey key
    text := fun _ _ value => String.ofList (redactHostLogLine value.toList)
    step := 1 }

def sanitizeValue (value : Json) : Json := Json.redact redactor "" 0 value

def sanitizeEvent (event : Json) : Json := sanitizeValue event

def sanitizeEvents (events : List Json) : List Json := events.map sanitizeEvent

def sanitizeFailure (failure : Failure) : Failure :=
  { failure with
    message := String.ofList (redactHostLogLine failure.message.toList)
    detail := (failure.detail.filter Json.truthy).map sanitizeValue }

/-! ### Failures and events of the lifecycle manager (`node-local-runtime.mjs`) -/

/-- The runtime's options, and the failures of functions that the manager calls: of a launch that fails, by its reason,
and of a stop intent that the plan does not give. -/
structure Options where
  runtime : Runtime.Options
  launchFailure : String → Failure
  stopIntentFailure : Json

def fail (reason message : String) (detail : Json) : Failure := { reason, message, detail := some detail }

def stateName : Runtime.HostRuntimeState → RuntimeState
  | .stopped => .stopped
  | .ready => .ready
  | .starting => .starting
  | .running => .running
  | .stopping => .stopping
  | .restarting => .restarting
  | .crashed => .crashed
  | .failed => .failed

def failure (options : Options) : Runtime.Failure → Failure
  | .launch reason => options.launchFailure reason
  | .invalidRuntimePlan =>
    fail "invalid_runtime_plan" "방 실행 계획을 먼저 준비해야 합니다." options.stopIntentFailure
  | .unsupportedLaunchMode mode =>
    fail "unsupported_launch_mode" "지원하지 않는 실행 방식입니다." (Json.object [("mode", Json.ofStr mode)])
  | .processAlreadyRunning state =>
    fail "process_already_running" "방이 이미 열리고 있습니다."
      (Json.object [("state", some (.str (stateName state).name))])
  | .processError error =>
    fail "process_error" "방 실행 프로세스에서 오류가 발생했습니다." (Json.object [("error", some (.str error))])
  | .processNotRunning state =>
    fail "process_not_running" "방을 연 뒤 서버 명령을 보낼 수 있습니다."
      (Json.object [("state", some (.str (stateName state).name))])
  | .processStopTimeout killed =>
    fail "process_stop_timeout" "방을 닫는 데 시간이 너무 오래 걸렸습니다."
      (Json.object [("killed", some (.bool killed))])
  | .serverCommandInvalid reason =>
    fail "server_command_invalid" "서버 명령은 한 줄 텍스트로 입력해야 합니다."
      (Json.object [("reason", some (.str reason)),
        ("maxLength", if reason = "invalid_line" then some (.num "256") else none)])
  | .serverCommandWriteFailed error =>
    fail "server_command_write_failed" "서버 명령을 전달하지 못했습니다." (Json.object [("error", some (.str error))])

def streamName : Runtime.OutputStream → String
  | .stdout => "stdout"
  | .stderr => "stderr"

def text (chars : List Char) : Json := .str (String.ofList chars)

/-- The fields of an event after its type and its room. -/
def eventFields (options : Options) : Runtime.EventType → List (String × Option Json)
  | .failure f => [("failure", some (failure options f).toJson)]
  | .log stream line sequence =>
    [("level", some (.str "info")), ("stream", some (.str (streamName stream))), ("line", some (text line)),
      ("sequence", some (.num (toString sequence)))]
  | .ready => []
  | .crashed stream line => [("stream", some (.str (streamName stream))), ("line", some (text line))]
  | .exit code signal state =>
    [("code", some (code.elim .null fun code => .num (toString code))), ("signal", some (signal.elim .null .str)),
      ("state", some (.str (stateName state).name))]
  | .command line sequence => [("line", some (text line)), ("sequence", some (.num (toString sequence)))]

def eventName : Runtime.EventType → String
  | .failure _ => "runtime.failure"
  | .log _ _ _ => "runtime.log"
  | .ready => "runtime.ready"
  | .crashed _ _ => "runtime.crashed"
  | .exit _ _ _ => "runtime.exit"
  | .command _ _ => "runtime.command"

def eventJson (options : Options) (event : RuntimeEvent) : Json :=
  Json.object ([("type", some (.str (eventName event.type))), ("roomId", Json.ofStr event.roomId)] ++
    eventFields options event.type)

/-- What the manager reports when it cannot sample its process. -/
def metricsUnavailable (options : Options) (message : List Char) : Json :=
  Json.object [("type", some (.str "runtime.metrics_unavailable")), ("roomId", Json.ofStr options.runtime.roomId),
    ("source", some (.str "process")), ("message", some (text (redactHostLogLine message)))]

/-! ### The bridge -/

structure Bridge where
  activePlan : Json
  lifecycleManager : Option Manager
  lastMetrics : Option Json
  events : List Json
  lastState : RuntimeState
  lastFailure : Option Failure

def recordLifecycleEvent (b : Bridge) (event : Json) : Bridge := { b with events := b.events ++ [sanitizeEvent event] }

def recordLifecycleEvents (b : Bridge) (events : List Json) : Bridge := events.foldl recordLifecycleEvent b

theorem recordLifecycleEvents_eq (b : Bridge) (events : List Json) :
    recordLifecycleEvents b events = { b with events := b.events ++ sanitizeEvents events } := by
  unfold recordLifecycleEvents
  induction events generalizing b with
  | nil => simp [sanitizeEvents]
  | cons event events ih =>
    rw [List.foldl_cons, ih]
    simp [recordLifecycleEvent, sanitizeEvents]

/-- The manager takes a step and reports the events of the step. -/
def lifecycleStep (options : Options) (b : Bridge) (label : Runtime.Label) : Runtime.Output × Bridge :=
  match b.lifecycleManager with
  | none => (.none, b)
  | some manager =>
    let next := Runtime.step options.runtime manager label
    (next.1,
      recordLifecycleEvents { b with lifecycleManager := some next.2 }
        ((next.2.events.drop manager.events.length).map (eventJson options)))

/-- The manager keeps no events of its own, so that the recorded ones are all there are. -/
def mergedLifecycleEvents (b : Bridge) : List Json := b.events ++ sanitizeEvents []

def summaryForState (state : RuntimeState) (failure : Option Failure) : String :=
  match failure with
  | some failure => failure.message
  | none =>
    match state with
    | .blocked => "The room is blocked."
    | .preparing => "Preparing room files."
    | .opening => "Room is opening."
    | .closing => "Room is closing."
    | .ready => "Room files are ready."
    | .starting => "Room is opening."
    | .running => "Room is open."
    | .stopping => "Room is closing."
    | .restarting => "Room is restarting."
    | .crashed => "The room stopped unexpectedly."
    | .failed => "The room action failed."
    | .stopped => "Room is closed."

/-- A part of the plan, `null` for one that is missing. -/
def planPart (plan : Json) (key : String) (fields : Json → List (String × Option Json)) : String × Option Json :=
  (key, some (match (plan.member key).filter Json.truthy with
    | some part => Json.object (fields part)
    | none => .null))

/-- `value ?? null`. -/
def orNull (value : Option Json) : Option Json := some ((Json.present value).getD .null)

def isTrueField (value : Json) (key : String) : Option Json := some (.bool ((value.member key).any Json.isTrue))

def holdsField (value : Json) (key : String) : Bool := Json.holds (value.member key)

def summarizeRuntimePlan (plan : Json) : Json :=
  sanitizeValue (Json.object
    [planPart plan "room" fun room =>
        [("id", room.member "id"), ("name", room.member "name"), ("minecraftVersion", room.member "minecraftVersion"),
          ("channel", room.member "channel")],
      planPart plan "lifecycle" fun lifecycle =>
        [("current", lifecycle.member "current"), ("next", lifecycle.member "next"),
          ("adapter", lifecycle.member "adapter")],
      planPart plan "java" fun java =>
        [("detected", some (.bool (holdsField java "detected" || holdsField java "path"))),
          ("majorVersion", java.member "majorVersion"), ("vendor", orNull (java.member "vendor")),
          ("source", orNull (java.member "source"))],
      planPart plan "fabric" fun fabric =>
        [("loaderVersion", fabric.member "loaderVersion"), ("installerVerified", isTrueField fabric "installerVerified"),
          ("hasLauncherJar", some (.bool (holdsField fabric "launcherJar"))),
          ("checksumRequired", some (.bool (holdsField fabric "serverJarSha256")))],
      planPart plan "pack" fun pack =>
        [("id", pack.member "id"), ("fixed", isTrueField pack "fixed"),
          ("checksumVerified", isTrueField pack "checksumVerified")]])

/-- `dto` of an answer that gives its events. -/
def dto (b : Bridge) (state : RuntimeState) (summary : String) (failure : Option Failure) (metrics : Option Json) :
    RuntimeDto :=
  { state := some state
    summary := some summary
    failure := failure.map sanitizeFailure
    runtimePlan := some (summarizeRuntimePlan b.activePlan)
    metrics := (metrics.filter Json.truthy).map sanitizeValue
    events := some (.arr (sanitizeEvents (mergedLifecycleEvents b)))
    detail := none }

/-- `lifecycleStatus?.state ?? lastState`. -/
def currentState (b : Bridge) : RuntimeState := (b.lifecycleManager.map fun m => stateName m.state).getD b.lastState

/-- `lifecycleStatus?.metrics`. -/
def currentMetrics (b : Bridge) : Option Json :=
  b.lifecycleManager.bind fun m => if Runtime.hasProcess m then b.lastMetrics else none

def status (b : Bridge) : RuntimeDto :=
  dto b (currentState b) (summaryForState (currentState b) b.lastFailure) b.lastFailure (currentMetrics b)

/-! ### Server commands -/

def canAcceptServerCommandState (state : Runtime.HostRuntimeState) : Bool :=
  [.starting, .running, .restarting].contains state

def canSendServerCommand (b : Bridge) : Bool :=
  b.lifecycleManager.any fun m => Runtime.hasProcess m && canAcceptServerCommandState m.state

/-- The failure that a room answers with while it takes no commands. -/
def unavailableFailure (b : Bridge) : Failure :=
  fail "server_command_unavailable" "Open the room before sending server commands."
    (Json.object [("state", some (.str (currentState b).name))])

def serverCommandUnavailable (b : Bridge) : RuntimeDto :=
  dto b (currentState b) (unavailableFailure b).message (some (unavailableFailure b)) (currentMetrics b)

/-- The answer to a command that the manager has refused, or could not write. -/
def serverCommandFailed (b : Bridge) (failure : Failure) : RuntimeDto :=
  dto b (currentState b) failure.message (some failure) (currentMetrics b)

/-- The answer to a command that has been written. -/
def serverCommandSent (b : Bridge) : RuntimeDto :=
  dto b (currentState b) "Server command sent." none (currentMetrics b)

end EasyMc.Desktop.RuntimeBridge
