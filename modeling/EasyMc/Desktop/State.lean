import EasyMc.Library.Json
import EasyMc.Library.Text

/-!
# The room state of the window (`apps/desktop/state.js`)

`reduceRoomState` and what it is made of.  Results, events and the other payloads of an action are JSON values, and a
payload that is missing is `none`.  The texts of the catalog, which only the page shows, are left out; of a catalog
assessment the id of the selected candidate remains.
-/

namespace EasyMc.Desktop

/-- What `new URL(link)` gives, with the first value of the query parameter `invite`. -/
structure Url where
  protocol : String
  username : String
  password : String
  hostname : String
  invite : Option String
  deriving DecidableEq, Repr

/-- The metrics that the page shows, with their numbers as texts. -/
structure Metrics where
  pid : Option String
  source : String
  measuredAt : String
  basisProcess : String
  basisCpu : String
  basisMemory : String
  cpuPercent : Option String
  workingSetBytes : String
  totalBytes : String
  memoryPercent : String
  deriving DecidableEq, Repr

/-- The functions of JavaScript that the reducer rests on: `String(value)` of arrays and objects, `JSON.stringify`,
`Number(part)` when it is an integer, `new URL(link)`, which has no base and rejects the empty text, the
floating-point part of `normalizeMetrics`, and the regular-expression replacements of `redactUiText`. -/
structure Builtins where
  string : Json → String
  stringify : Json → String
  integer : String → Option Int
  parseUrl : String → Option Url
  parseUrl_empty : parseUrl "" = none
  normalizeMetrics : Json → Option Metrics
  redactUiText : String → String

structure Row where
  label : String
  value : String
  deriving DecidableEq, Repr

structure Blocker where
  title : String
  message : String
  deriving DecidableEq, Repr

/-- `opened` is the source's `open`; `catalog` is the id of the selected candidate. -/
structure RoomState where
  prepared : Bool
  opened : Bool
  previewOpen : Bool
  bridgeStatus : Json
  commandPending : Option Json
  inviteLink : Option String
  blocker : Option Blocker
  diagnostics : List Row
  runtimeRows : List Row
  consoleLines : List String
  metrics : Option Metrics
  metricsProblem : Option String
  catalog : String
  request : String
  message : Option String

def catalogCandidates : List String := ["performance-core", "lithium", "ferritecore"]

/-- The selected candidate, the first one for an id that is missing or unknown. -/
def createCatalogAssessment (selectedId : Option Json) : String :=
  match selectedId with
  | some (.str id) => if catalogCandidates.contains id then id else "performance-core"
  | _ => "performance-core"

def initialRoomState : RoomState :=
  { prepared := false, opened := false, previewOpen := false, bridgeStatus := .str "idle", commandPending := none,
    inviteLink := none, blocker := none, diagnostics := [], runtimeRows := [], consoleLines := [], metrics := none,
    metricsProblem := none, catalog := createCatalogAssessment none, request := "empty", message := none }

def publicInviteHosts : List String := ["join.easymc.gg"]

def openRoomStatuses : List String := ["running", "open", "preview-open"]

def preparedRoomStatuses : List String := ["ready", "starting", "running"]

def consoleFailureStatusPreserve : List String := ["blocked", "failed"]

/-- `set.has(value)` for a set of strings. -/
def setHas (set : List String) (value : Json) : Bool := value.asStr.any set.contains

variable (builtins : Builtins)

/-- `String(value)`. -/
def jsString (value : Json) : String :=
  match value with
  | .null => "null"
  | .bool value => if value then "true" else "false"
  | .num text => text
  | .str text => text
  | value => builtins.string value

/-- `redactUiText` of a value that may be missing. -/
def redactUiValue (value : Option Json) : String :=
  builtins.redactUiText (((Json.present value).map (jsString builtins)).getD "")

/-! ### Rows and blockers -/

def normalizeRow (row : Json) : Row :=
  match row with
  | .arr values =>
    { label := redactUiValue builtins values[0]?, value := redactUiValue builtins values[1]? }
  | row =>
    { label := redactUiValue builtins ((Json.present (row.member "label")).or (row.member "name"))
      value := redactUiValue builtins ((Json.present (row.member "value")).or (row.member "message")) }

def normalizeRows (rows : Option Json) : List Row :=
  match rows with
  | some (.arr rows) => (rows.map (normalizeRow builtins)).filter fun row => row.label ≠ "" || row.value ≠ ""
  | _ => []

def defaultBlockerTitle : String := "방을 열 수 없습니다"

def defaultBlockerMessage : String := "준비가 더 필요합니다."

def normalizeBlocker (blocker : Option Json) : Option Blocker :=
  if !Json.holds blocker then none
  else
    match blocker with
    | some (.str text) => some { title := defaultBlockerTitle, message := builtins.redactUiText text }
    | blocker =>
      let member (key : String) := Json.present (blocker.bind (Json.member key))
      some
        { title := redactUiValue builtins ((member "title").or (some (.str defaultBlockerTitle)))
          message :=
            redactUiValue builtins (((member "message").or (member "detail")).or (some (.str defaultBlockerMessage))) }

/-- `text.toLowerCase().includes(word)` for a lower-case ASCII word. -/
def includesWord (text word : String) : Bool := Text.contains word.toList (text.toList.map Char.toLower)

def failureBlockerTitle (failure : Json) : String :=
  let reason := ((Json.present (failure.member "reason")).map (jsString builtins)).getD ""
  if includesWord reason "command" then "명령을 보낼 수 없습니다"
  else if includesWord reason "java" then "실행 환경을 확인해야 합니다"
  else "방을 열 수 없습니다"

def blockerFromFailure (failure summary : Option Json) : Option Blocker :=
  match failure.filter Json.truthy with
  | none => none
  | some failure =>
    normalizeBlocker builtins (some (.obj
      [("title", .str (failureBlockerTitle builtins failure)),
        ("message", ((Json.present (failure.member "message")).or (Json.present summary)).getD
          (.str defaultBlockerMessage))]))

/-! ### Status, diagnostics and console lines -/

def normalizeStatus (result : Json) (state : RoomState) : String :=
  let rawStatus := (Json.present (result.member "status")).or (result.member "state")
  match rawStatus.filter Json.truthy with
  | some rawStatus => jsString builtins rawStatus
  | none =>
    if (result.member "open").any Json.isTrue then "running" else if state.prepared then "ready" else "idle"

/-- The text of a value in a template, with `unknown` for a missing one. -/
def textOr (value : Option Json) (default : String) : String :=
  ((Json.present value).map (jsString builtins)).getD default

def diagnosticsFromBridgeResult (result : Json) : Json :=
  match (result.member "diagnostics").bind Json.asArr with
  | some rows => .arr rows
  | none =>
    let row (label text : String) : Json := .arr [.str label, .str text]
    let failure := match result.path ["failure", "reason"] with
      | some reason => if reason.truthy then [Json.arr [.str "Failure", reason]] else []
      | none => []
    let detail := match result.path ["failure", "detail"] with
      | some detail => if detail.truthy then [row "Detail" (builtins.stringify detail)] else []
      | none => []
    let events := match (result.member "events").bind Json.asArr with
      | some (event :: events) => [row "Recent events" (toString (event :: events).length)]
      | _ => []
    let java := match (result.path ["runtimePlan", "java"]).filter Json.truthy with
      | some java =>
        [row "Java" ("detected=" ++ (if Json.holds (java.member "detected") then "true" else "false") ++ " major=" ++
          textOr builtins (java.member "majorVersion") "unknown")]
      | none => []
    let fabric := match (result.path ["runtimePlan", "fabric"]).filter Json.truthy with
      | some fabric => [row "Fabric" ("loader=" ++ textOr builtins (fabric.member "loaderVersion") "unknown")]
      | none => []
    .arr (failure ++ detail ++ events ++ java ++ fabric)

/-- `String(event?.type ?? "")`. -/
def eventType (event : Json) : String := textOr builtins (event.member "type") ""

/-- The console line of an event, if it has one. -/
def formatConsoleEvent (event : Json) : Option String :=
  let type := eventType builtins event
  if type = "runtime.log" ∧ Json.holds (event.member "line") then
    some ("[" ++ redactUiValue builtins ((Json.present (event.member "stream")).or (some (.str "server"))) ++ "] " ++
      redactUiValue builtins (event.member "line"))
  else if type = "runtime.ready" then some "[system] 서버가 열렸습니다."
  else if type = "runtime.command" ∧ Json.holds (event.member "line") then none
  else if type = "runtime.crashed" then
    some ("[system] 서버가 비정상 종료되었습니다" ++
      if Json.holds (event.member "line") then ": " ++ redactUiValue builtins (event.member "line") else ".")
  else if type = "runtime.exit" then
    some ("[system] 서버 프로세스 종료: " ++
      redactUiValue builtins ((Json.present (event.member "state")).or (some (.str "unknown"))))
  else if type = "runtime.failure" ∧ Json.holds (event.path ["failure", "message"]) then
    some ("[오류] " ++ redactUiValue builtins (event.path ["failure", "message"]))
  else if type = "runtime.metrics_unavailable" then
    some (if Json.holds (event.member "message") then
      "[system] 서버 자원 사용률을 아직 읽지 못했습니다: " ++ redactUiValue builtins (event.member "message")
      else "[system] 서버 자원 사용률을 아직 읽지 못했습니다.")
  else none

/-- The lines of `next` that are not empty and not there yet go to the end. -/
def mergeConsoleLines (existing next : List String) : List String :=
  next.foldl (fun merged line => if line ≠ "" ∧ line ∉ merged then merged ++ [line] else merged) existing

/-- `lines.slice(-240)`. -/
def lastConsoleLines (lines : List String) : List String := lines.drop (lines.length - 240)

def consoleLinesFromBridgeResult (result : Json) (state : RoomState) : List String :=
  let lines := match (result.member "events").bind Json.asArr with
    | some events =>
      mergeConsoleLines state.consoleLines
        ((events.filterMap (formatConsoleEvent builtins)).filter fun line => line ≠ "")
    | none => state.consoleLines
  let lines := if Json.holds (result.path ["failure", "message"]) then
      mergeConsoleLines lines ["[오류] " ++ redactUiValue builtins (result.path ["failure", "message"])]
    else lines
  lastConsoleLines lines

/-- `normalizeMetrics` of a value that may be missing. -/
def normalizeMetrics (metrics : Option Json) : Option Metrics :=
  match metrics with
  | some (.obj fields) => builtins.normalizeMetrics (.obj fields)
  | some (.arr values) => builtins.normalizeMetrics (.arr values)
  | _ => none

/-- The message of the last `runtime.metrics_unavailable` event. -/
def metricsProblemFromEvents (events : Option Json) : Option String :=
  match events with
  | some (.arr events) =>
    (events.reverse.find? fun event => eventType builtins event == "runtime.metrics_unavailable").map fun event =>
      if Json.holds (event.member "message") then
        "서버 자원 사용률을 아직 읽지 못했습니다: " ++ redactUiValue builtins (event.member "message")
      else "서버 자원 사용률을 아직 읽지 못했습니다."
  | _ => none

/-! ### Invite links -/

def isReservedInviteHost (host : String) : Bool :=
  ["localhost", "example.com", "example.net", "example.org", "example.test"].contains host ||
    [".localhost", ".example", ".invalid", ".test", ".local", ".lan"].any (Text.endsWith host)

def isPrivateIpv4 (host : String) : Bool :=
  match ((host.toList.splitOn '.').map fun part => builtins.integer (String.ofList part)) with
  | [some a, some b, some c, some d] =>
    if [a, b, c, d].any fun part => part < 0 || 255 < part then false
    else
      a = 10 || a = 127 || a = 0 || (a = 172 && 16 ≤ b && b ≤ 31) || (a = 192 && b = 168) || (a = 169 && b = 254)
  | _ => false

def isPrivateIpv6 (host : String) : Bool :=
  host = "::" || host = "::1" || Text.startsWith host "fc" || Text.startsWith host "fd" || Text.startsWith host "fe80"

/-- The host in lower case, without the brackets of an IPv6 address. -/
def inviteHost (hostname : String) : String :=
  let host := hostname.toList.map Char.toLower
  let host := if host.head? = some '[' then host.tail else host
  String.ofList (if host.getLast? = some ']' then host.dropLast else host)

def isShareableInviteLink (link : String) : Bool :=
  match builtins.parseUrl link with
  | none => false
  | some url =>
    let host := inviteHost url.hostname
    url.protocol = "https:" && url.username = "" && url.password = "" && url.invite.isSome && url.invite.any (· ≠ "") &&
      publicInviteHosts.contains host && !isReservedInviteHost host && !isPrivateIpv4 builtins host &&
      !isPrivateIpv6 host

/-! ### Bridge results -/

def isConsoleCommandFailure (command : Option Json) (result : Json) : Bool :=
  command.bind Json.asStr == some "server-command" && Json.holds (result.member "failure")

def effectiveBridgeStatus (status : String) (state : RoomState) (preserveCurrentStatus : Bool) : Json :=
  if preserveCurrentStatus && consoleFailureStatusPreserve.contains status then state.bridgeStatus else .str status

def roomOpenFromResult (result effectiveStatus : Json) (preserveCurrentOpen : Bool) (state : RoomState) : Bool :=
  if preserveCurrentOpen then state.opened
  else setHas openRoomStatuses effectiveStatus || (result.member "open").any Json.isTrue

def roomPreparedFromResult (result : Json) (state : RoomState) (opened : Bool) (effectiveStatus : Json) : Bool :=
  match Json.present (result.member "prepared") with
  | some prepared => prepared.truthy
  | none => state.prepared || opened || setHas preparedRoomStatuses effectiveStatus

def inviteReadinessComplete (result : Json) (opened : Bool) : Bool :=
  opened && ((result.member "inviteLink").bind Json.asStr).any (· ≠ "") &&
    (result.path ["controlPlane", "ready"]).any Json.isTrue &&
    (result.path ["controlPlane", "invite", "ready"]).any Json.isTrue &&
    (result.path ["relay", "ready"]).any Json.isTrue && (result.path ["relay", "session", "ready"]).any Json.isTrue

def applyBridgeResult (state : RoomState) (result : Json) (command : Option Json) : RoomState :=
  let status := normalizeStatus builtins result state
  let preserveConsoleState := isConsoleCommandFailure command result
  let effectiveStatus := effectiveBridgeStatus status state preserveConsoleState
  let opened := roomOpenFromResult result effectiveStatus preserveConsoleState state
  let prepared := roomPreparedFromResult result state opened effectiveStatus
  let blocker := (normalizeBlocker builtins (result.member "blocker")).or
    (blockerFromFailure builtins (result.member "failure") (result.member "summary"))
  let metrics := normalizeMetrics builtins (result.member "metrics")
  let metricsProblem := if metrics.isSome then none
    else (metricsProblemFromEvents builtins (result.member "events")).or
      (if preserveConsoleState then state.metricsProblem else none)
  let inviteReady := inviteReadinessComplete result opened
  { state with
    prepared := prepared
    opened := opened
    previewOpen := if preserveConsoleState then state.previewOpen
      else effectiveStatus.asStr == some "preview-open" || (result.member "previewOpen").any Json.isTrue
    bridgeStatus := effectiveStatus
    commandPending := none
    inviteLink := if inviteReady then
        ((result.member "inviteLink").bind Json.asStr).filter (isShareableInviteLink builtins)
      else none
    blocker := blocker
    diagnostics := normalizeRows builtins (some (diagnosticsFromBridgeResult builtins result))
    runtimeRows := normalizeRows builtins (result.member "runtimeRows")
    consoleLines := consoleLinesFromBridgeResult builtins result state
    metrics := metrics.or (if preserveConsoleState then state.metrics else none)
    metricsProblem := metricsProblem
    message := if Json.holds (result.member "message") || Json.holds (result.member "summary") then
        some (redactUiValue builtins ((Json.present (result.member "message")).or (result.member "summary")))
      else none }

/-! ### Actions -/

inductive Action
  | bridgePending (command status : Option Json)
  | consoleAppend (line : Option Json)
  | runtimeEvent (event : Option Json)
  | catalogSelect (modId : Option Json)
  | bridgeResult (result command : Option Json)
  | bridgeError (command message diagnostics : Option Json)
  | approve
  | deny
  | reset
  | other

def applyRuntimeEvent (state : RoomState) (event : Json) : RoomState :=
  let line := formatConsoleEvent builtins event
  let type := eventType builtins event
  let patched :=
    if type = "runtime.ready" then
      { state with bridgeStatus := .str "running", opened := true, prepared := true, blocker := none }
    else if type = "runtime.crashed" then
      { state with
        bridgeStatus := .str "crashed", opened := false, inviteLink := none
        blocker := normalizeBlocker builtins (some (.obj
          [("title", .str "서버가 비정상 종료되었습니다"),
            ("message", (Json.present (event.member "line")).getD (.str "서버 로그를 확인해 주세요."))])) }
    else if type = "runtime.failure" then
      { state with
        bridgeStatus := .str "failed", opened := false, inviteLink := none
        blocker := blockerFromFailure builtins (event.member "failure") (event.path ["failure", "message"]) }
    else if type = "runtime.exit" then
      let nextStatus := textOr builtins (event.member "state") "stopped"
      let opened := nextStatus = "running" || nextStatus = "open"
      { state with
        bridgeStatus := .str nextStatus, opened := opened
        inviteLink := if opened then state.inviteLink else none
        metricsProblem := none }
    else if type = "runtime.metrics_unavailable" then
      { state with metricsProblem := metricsProblemFromEvents builtins (some (.arr [event])) }
    else state
  { patched with
    consoleLines := match line.filter (· ≠ "") with
      | some line => lastConsoleLines (mergeConsoleLines state.consoleLines [line])
      | none => state.consoleLines }

def reduceRoomState (state : RoomState) (action : Action) : RoomState :=
  match action with
  | .bridgePending command status =>
    let isConsolePending := command.bind Json.asStr == some "server-command"
    { state with
      commandPending := command
      bridgeStatus := if isConsolePending then state.bridgeStatus else (Json.present status).getD state.bridgeStatus
      blocker := none
      metricsProblem := if isConsolePending then state.metricsProblem else none
      message := none }
  | .consoleAppend line =>
    { state with
      consoleLines := lastConsoleLines
        ((state.consoleLines ++ [redactUiValue builtins line]).filter fun line => line ≠ "") }
  | .runtimeEvent event => applyRuntimeEvent builtins state ((Json.present event).getD (.obj []))
  | .catalogSelect modId => { state with catalog := createCatalogAssessment modId }
  | .bridgeResult result command => applyBridgeResult builtins state ((Json.present result).getD (.obj [])) command
  | .bridgeError command message diagnostics =>
    let isConsoleCommand := command.bind Json.asStr == some "server-command"
    let text := redactUiValue builtins ((Json.present message).or (some (.str "요청을 처리하지 못했습니다.")))
    { state with
      opened := if isConsoleCommand then state.opened else false
      previewOpen := if isConsoleCommand then state.previewOpen else false
      commandPending := none
      bridgeStatus := if isConsoleCommand then state.bridgeStatus else .str "blocked"
      inviteLink := if isConsoleCommand then state.inviteLink else none
      blocker := some
        { title := if isConsoleCommand then "명령을 보낼 수 없습니다" else "방을 열 수 없습니다", message := text }
      diagnostics := normalizeRows builtins diagnostics
      consoleLines := mergeConsoleLines state.consoleLines ["[오류] " ++ text]
      metrics := if isConsoleCommand then state.metrics else none
      metricsProblem := if isConsoleCommand then state.metricsProblem else none }
  | .approve => { state with request := "approved" }
  | .deny => { state with request := "denied" }
  | .reset => initialRoomState
  | .other => state

end EasyMc.Desktop
