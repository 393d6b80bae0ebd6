import EasyMc.Desktop.CommandFrames
import EasyMc.Desktop.ResponseSize
import EasyMc.Library.Machine

/-!
# The command broker (`apps/desktop/src-tauri/src/main.rs`)

The commands of the window are answered by a process, the command host.  The broker starts it when there is none,
writes a frame with a fresh id to its standard input and waits for the line that answers it; a thread for each process
reads its lines and passes each on to the window, as an event, or to the command that waits under its id.  A command
that has failed for want of a route is sent once more, to a new process.  While a command waits, the others wait for
the lock.

A step of the model is one of a command, of the thread that reads a process, or of a process.  What a process prints is
arbitrary, and so is when it exits, whether a process can be started and whether it accepts a frame.
-/

namespace EasyMc.Desktop.Broker

open CommandHostProcess (Call Outcome handleCommandFrame maxResponseBytes)

def maxRequestBytes : Nat := 16 * 1024

def blockedDto (reason message : String) : Json :=
  .obj [("state", .str "blocked"), ("summary", .str message),
    ("failure", .obj [("reason", .str reason), ("message", .str message)])]

/-! ### The state -/

structure Frame where
  id : Nat
  command : DesktopRuntimeCommand
  request : Json

def Frame.line (f : Frame) : Line := .ofJson (frame f.id f.command f.request)

/-- A process, with all that has been written to it and all that it has printed; `handled` and `routed` count the lines
that have been read of the two.  `pending` are the ids that its reader has a channel for, `calls` those of its
controller. -/
structure Child where
  running : Bool
  stdin : List Frame
  handled : Nat
  calls : List Call
  stdout : List Line
  routed : Nat
  pending : List Nat

def Child.spawned : Child :=
  { running := true, stdin := [], handled := 0, calls := [], stdout := [], routed := 0, pending := [] }

/-- A command that waits for the answer of process `host`; `inbox` is what has been sent to its channel. -/
structure Waiting where
  host : Nat
  id : Nat
  command : DesktopRuntimeCommand
  request : Json
  retried : Bool
  inbox : Option Line

def Waiting.frame (w : Waiting) : Frame := ⟨w.id, w.command, w.request⟩

/-- The state of the broker, with every process it has talked to; `child` stands for the process, its standard input and
its pending responses, which come and go together. -/
structure State where
  child : Option Nat
  -- A `u64` of the source, which no run counts through.
  nextId : Nat
  waiting : Option Waiting
  children : List Child

/-- The channel of a frame is registered, and its line is written. -/
def Child.write (frame : Frame) (c : Child) : Child :=
  { c with stdin := c.stdin ++ [frame], pending := c.pending.insert frame.id }

/-- A process prints as long as it runs. -/
def Child.print (line : Line) (c : Child) : Child :=
  if c.running then { c with stdout := c.stdout ++ [line] } else c

def Child.removePendingResponse (id : Nat) (c : Child) : Child := { c with pending := c.pending.filter (· ≠ id) }

def State.initial : State := { child := none, nextId := 0, waiting := none, children := [] }

def State.update (s : State) (k : Nat) (change : Child → Child) : State :=
  { s with children := s.children.modify k change }

/-- What comes of starting a process. -/
inductive Spawn
  | scriptMissing
  | failed
  | withoutStdin
  | withoutStdout
  | spawned

/-- What the system answers while a frame is sent: whether `try_wait` fails, what comes of starting a process, and
whether the frame can be written.  A frame that cannot be written reaches nobody. -/
structure Attempt where
  waitFails : Bool
  spawn : Spawn
  accepts : Bool

/-! ### Sending a frame -/

def clearNodeHost (s : State) : State :=
  match s.child with
  | none => s
  | some k => { s.update k fun c => { c with running := false } with child := none }

/-- A new process; one without its pipes is let go before anything is written to it or read from it. -/
def spawnHost (s : State) : Spawn → Option Json × State
  | .scriptMissing => (some (blockedDto "node_host_missing" "Desktop command host script is missing."), s)
  | .failed => (some (blockedDto "node_host_missing" "Node.js is required for this desktop dev bridge."), s)
  | .withoutStdin =>
    (some (blockedDto "node_host_unavailable" "Desktop command host stdin is unavailable."), s)
  | .withoutStdout =>
    (some (blockedDto "node_host_unavailable" "Desktop command host stdout is unavailable."), s)
  | .spawned => (none, { s with child := some s.children.length, children := s.children ++ [.spawned] })

/-- The answer of `try_wait` is that the process runs. -/
def hostRuns (s : State) (k : Nat) (attempt : Attempt) : Bool :=
  !attempt.waitFails && s.children[k]?.any Child.running

def ensureNodeHost (s : State) (attempt : Attempt) : Option Json × State :=
  match s.child with
  | none => spawnHost s attempt.spawn
  | some k => if hostRuns s k attempt then (none, s) else spawnHost (clearNodeHost s) attempt.spawn

/-- A frame is sent and waited for, unless there is a failure to return. -/
def sendNodeHostFrame (s : State) (command : DesktopRuntimeCommand) (request : Json) (retried : Bool)
    (attempt : Attempt) : Option Json × State :=
  match ensureNodeHost s attempt with
  | (some error, s) => (some error, s)
  | (none, s) =>
    let frame : Frame := ⟨s.nextId + 1, command, request⟩
    let s := { s with nextId := frame.id }
    if maxRequestBytes < frame.line.bytes then
      (some (blockedDto "request_too_large" "Desktop command request is too large."), s)
    else
      match s.child with
      | none => (some (blockedDto "node_host_unavailable" "Desktop command host is unavailable."), s)
      | some k =>
        if attempt.accepts then
          (none, { s.update k (Child.write frame) with
            waiting := some ⟨k, frame.id, command, request, retried, none⟩ })
        else
          -- The channel that was registered is removed again.
          (some (blockedDto "node_host_write_failed" "Desktop command host did not accept the request."),
            clearNodeHost (s.update k (Child.removePendingResponse frame.id)))

/-! ### The answer -/

/-- The reader of a process: a line is dropped, passed on to the window, or sent to the channel of its id. -/
inductive Routing
  | dropped
  | event (payload : Json)
  | response (id : Nat)

def routeNodeHostStdoutLine (line : Line) : Routing :=
  if maxResponseBytes < line.bytes then .dropped
  else
    match line.parsed with
    | none => .dropped
    | some parsed =>
      if (parsed.member "event").bind Json.asStr = some "desktop_runtime_event" then
        .event (sanitizeResponse ((parsed.member "payload").getD (.obj [])))
      else
        match idOf parsed with
        | none => .dropped
        | some id => .response id

/-- The result of a line. -/
def resultOf (value : Json) : Json :=
  (value.member "result").getD
    (blockedDto "empty_node_response" "Desktop command host returned an empty response.")

def parseHostResponse (expectedId : Nat) (line : Line) : Json :=
  match line.parsed with
  | none => blockedDto "invalid_node_response" "Desktop command host returned invalid JSON."
  | some parsed =>
    if idOf parsed ≠ some expectedId then
      blockedDto "node_response_mismatch" "Desktop command host returned an unexpected response."
    else sanitizeResponse (resultOf parsed)

def shouldRetryAfterStaleHostResponse (response : Json) : Bool :=
  ((response.path ["failure", "reason"]).bind Json.asStr).any fun reason =>
    reason = "unknown_command" || reason = "command_unavailable"

/-! ### The steps -/

inductive Label
  | invoke (command : DesktopRuntimeCommand) (request : Option Json) (first second : Attempt)
  | receive (second : Attempt)
  | timeout (second : Attempt)
  | disconnected (second : Attempt)
  | route (child : Nat)
  | prints (child : Nat) (line : Line)
  | handles (child : Nat) (outcome : Outcome)
  | exits (child : Nat)

inductive Output
  | nothing
  | refused (response : Json)
  | returned (command : DesktopRuntimeCommand) (request response : Json)
  | emitted (child : Nat) (payload : Json)

/-- The response is returned, or the command is sent once more. -/
def conclude (s : State) (command : DesktopRuntimeCommand) (request : Json) (retried : Bool) (response : Json)
    (second : Attempt) : Output × State :=
  if !retried && shouldRetryAfterStaleHostResponse response then
    match sendNodeHostFrame (clearNodeHost s) command request true second with
    | (some response, s) => (.returned command request response, s)
    | (none, s) => (.nothing, s)
  else (.returned command request response, s)

/-- A line that has been sent to the channel of a command. -/
def receiveLine (s : State) (id : Nat) (line : Line) : Json × State :=
  if maxResponseBytes < line.bytes then
    (blockedDto "node_response_too_large" "Desktop command response is too large.", clearNodeHost s)
  else (parseHostResponse id line, s)

/-- A command waits no more, and the process is given up. -/
def giveUp (s : State) (w : Waiting) : State :=
  clearNodeHost { s.update w.host (Child.removePendingResponse w.id) with waiting := none }

/-- A line is sent to the channel of `id`, if process `k` still has it. -/
def deliver (s : State) (k : Nat) (id : Nat) (line : Line) : State :=
  if s.children[k]?.any fun c => c.pending.contains id then
    { s.update k (Child.removePendingResponse id) with
      waiting := s.waiting.map fun w => if w.id = id then { w with inbox := some line } else w }
  else s

/-- The reader of process `k` reads its next line. -/
def route (s : State) (k : Nat) : Output × State :=
  match s.children[k]? with
  | none => (.nothing, s)
  | some c =>
    match c.stdout[c.routed]? with
    | none => (.nothing, s)
    | some line =>
      let s := s.update k fun c => { c with routed := c.routed + 1 }
      match routeNodeHostStdoutLine line with
      | .dropped => (.nothing, s)
      | .event payload => (.emitted k payload, s)
      | .response id => (.nothing, deliver s k id line)

/-- A running process that is the command host answers its next line. -/
def handle (methods : List String) (outcome : Outcome) (c : Child) : Child :=
  match c.running, c.stdin[c.handled]? with
  | true, some frame =>
    let (call, answer) := handleCommandFrame methods frame.line outcome
    { c with handled := c.handled + 1, calls := c.calls ++ call.toList, stdout := c.stdout ++ [.ofJson answer] }
  | _, _ => c

def step (methods : List String) (s : State) : Label → Output × State
  | .invoke command request first second =>
    match sanitizeRequest command request with
    | .error dto => (.refused (blockedDto dto.reason dto.message), s)
    | .ok request =>
      match s.waiting with
      -- The lock is held.
      | some _ => (.nothing, s)
      | none =>
        match sendNodeHostFrame s command request false first with
        | (some response, s) => conclude s command request false response second
        | (none, s) => (.nothing, s)
  | .receive second =>
    match s.waiting with
    | some ⟨_, id, command, request, retried, some line⟩ =>
      let (response, s) := receiveLine { s with waiting := none } id line
      conclude s command request retried response second
    | _ => (.nothing, s)
  | .timeout second =>
    match s.waiting with
    | some ⟨host, id, command, request, retried, none⟩ =>
      conclude (giveUp s ⟨host, id, command, request, retried, none⟩) command request retried
        (blockedDto "node_runner_timeout" "Desktop command host timed out.") second
    | _ => (.nothing, s)
  | .disconnected second =>
    match s.waiting with
    | some ⟨host, id, command, request, retried, none⟩ =>
      -- Its sender is dropped only with the entry of the reader.
      if s.children[host]?.any fun c => c.pending.contains id then (.nothing, s)
      else
        conclude (giveUp s ⟨host, id, command, request, retried, none⟩) command request retried
          (blockedDto "node_host_closed" "Desktop command host closed unexpectedly.") second
    | _ => (.nothing, s)
  | .route k => route s k
  | .prints k line => (.nothing, s.update k (Child.print line))
  | .handles k outcome => (.nothing, s.update k (handle methods outcome))
  | .exits k => (.nothing, s.update k fun c => { c with running := false })

end EasyMc.Desktop.Broker
