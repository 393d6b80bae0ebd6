import EasyMc.Desktop.Redaction
import EasyMc.Desktop.Requests
import EasyMc.Library.Stringify

/-!
# The frames of the command host

The broker (`src-tauri/src/main.rs`) writes one frame for each command to the standard input of the command host
(`desktop-command-host-process.mjs`).  The host answers each line with one line: `handleCommandFrame` checks the line,
has the request checked by `invoke` (`desktop-command-host.mjs`), and awaits a method of the controller.  What the
controller answers is an input of the model.

A frame of the broker is answered under its id (`handleCommandFrame_id`).
-/

namespace EasyMc.Desktop

/-- A line of a pipe: its bytes, and the value that it parses to. -/
structure Line where
  bytes : Nat
  parsed : Option Json

/-- A value written as one line. -/
def Line.ofJson (value : Json) : Line := ⟨value.bytes, some value⟩

def DesktopRuntimeCommand.name : DesktopRuntimeCommand → String
  | .prepareRoom => "desktop_prepare_room"
  | .openRoom => "desktop_open_room"
  | .closeRoom => "desktop_close_room"
  | .restartRoom => "desktop_restart_room"
  | .sendServerCommand => "desktop_send_server_command"
  | .statusRoom => "desktop_status_room"
  | .resetRoom => "desktop_reset_room"

def DesktopRuntimeCommand.all : List DesktopRuntimeCommand :=
  [.prepareRoom, .openRoom, .closeRoom, .restartRoom, .sendServerCommand, .statusRoom, .resetRoom]

/-- The command of a name. -/
def DesktopRuntimeCommand.ofName (name : String) : Option DesktopRuntimeCommand :=
  all.find? fun command => command.name = name

theorem DesktopRuntimeCommand.ofName_name (command : DesktopRuntimeCommand) : ofName command.name = some command := by
  cases command <;> rfl

/-! ### The command host -/

namespace CommandHost

def blockedDto (reason message : String) : Json :=
  .obj [("state", .str "blocked"), ("failure", .obj [("reason", .str reason), ("message", .str message)])]

/-- The methods that answer a command; the first one that the controller has is called. -/
def commandRoutes : DesktopRuntimeCommand → List String
  | .prepareRoom => ["prepareRoom"]
  | .openRoom => ["openRoom"]
  | .closeRoom => ["closeRoom"]
  | .restartRoom => ["restartRoom"]
  | .sendServerCommand => ["sendServerCommand"]
  | .statusRoom => ["statusRoom", "status"]
  | .resetRoom => ["resetRoom"]

def fallbackIdleDto : Json := .obj [("state", .str "idle"), ("summary", .str "Room command host is idle.")]

/-- What `invoke` does before it awaits anything: it answers, or calls a method of the controller. -/
inductive Invocation
  | answer (result : Json)
  | call (method : String) (request : Json)

/-- `invoke` for a controller with these methods. -/
def invoke (methods : List String) (command : String) (request : Json) : Invocation :=
  match DesktopRuntimeCommand.ofName command with
  | none => .answer (blockedDto "unknown_command" "Unknown desktop command.")
  | some command =>
    match sanitizeRendererRequest command request with
    | .error message => .answer (blockedDto "invalid_request" message)
    | .ok request =>
      if command = .resetRoom ∧ "resetRoom" ∉ methods then .answer fallbackIdleDto
      else
        match (commandRoutes command).find? fun method => methods.contains method with
        | none =>
          .answer (blockedDto "command_unavailable" ("Desktop command is unavailable: " ++ command.name))
        | some method => .call method request

end CommandHost

/-! ### The process -/

namespace CommandHostProcess

open CommandHost (Invocation blockedDto invoke sanitizeCommandResult)

def maxFrameBytes : Nat := 16 * 1024

def maxSafeInteger : Nat := 2 ^ 53 - 1

/-- The methods of the controller of `createDesktopCommandHostForDevRuntime`. -/
def controllerMethods : List String :=
  ["prepareRoom", "openRoom", "closeRoom", "restartRoom", "sendServerCommand", "status", "statusRoom", "resetRoom"]

/-- What a method of the controller has come to: an exception, or the value it has returned. -/
inductive Outcome
  | threw
  | returned (value : Option Json)

/-- A call of the controller: the id of the frame, the method, the request, and the outcome. -/
structure Call where
  id : Json
  method : String
  request : Json
  outcome : Outcome

/-- A line that the host writes; a member that is `undefined` is left out. -/
def answerFrame (id : Json) (ok : Bool) (result : Option Json) : Json :=
  Json.object [("id", some id), ("ok", some (.bool ok)), ("result", result)]

/-- `Number.isSafeInteger` of a number that is given by its text. -/
def isSafeInteger (text : String) : Bool :=
  let digits := match text.toList with
    | '-' :: digits => digits
    | digits => digits
  !digits.isEmpty && digits.all Char.isDigit && Nat.ofDigitChars 10 digits 0 ≤ maxSafeInteger

/-- `frame?.id` if it is a safe integer. -/
def frameId (frame : Json) : Json :=
  match frame.member "id" with
  | some (.num text) => if isSafeInteger text then .num text else .null
  | _ => .null

def frameCommand (frame : Json) : String := ((frame.member "command").bind Json.asStr).getD ""

def frameRequest (frame : Json) : Json :=
  match frame.member "request" with
  | some (.obj fields) => .obj fields
  | _ => .obj []

/-- The result of a call. -/
def outcomeFrame (id : Json) : Outcome → Json
  | .returned value => answerFrame id true (value.map sanitizeCommandResult)
  | .threw => answerFrame id false (some (blockedDto "command_failed" "Desktop command failed."))

/-- The line that answers a line, and the call of the controller that has been made for it. -/
def handleCommandFrame (methods : List String) (line : Line) (outcome : Outcome) : Option Call × Json :=
  if maxFrameBytes < line.bytes then
    (none, answerFrame .null false (some (blockedDto "frame_too_large" "Desktop command request is too large.")))
  else
    match line.parsed with
    | none =>
      (none,
        answerFrame .null false (some (blockedDto "invalid_frame" "Desktop command frame must be valid JSON.")))
    | some frame =>
      match invoke methods (frameCommand frame) (frameRequest frame) with
      | .answer result => (none, answerFrame (frameId frame) true (some result))
      | .call method request =>
        (some ⟨frameId frame, method, request, outcome⟩, outcomeFrame (frameId frame) outcome)

end CommandHostProcess

/-! ### The frames of the broker -/

namespace Broker

open CommandHostProcess

/-- The frame of a command. -/
def frame (id : Nat) (command : DesktopRuntimeCommand) (request : Json) : Json :=
  .obj [("id", .num (toString id)), ("command", .str command.name), ("request", request)]

/-- `Value::as_u64`: a number without a sign, a fraction or an exponent. -/
def asU64 : Json → Option Nat
  | .num text =>
    let digits := text.toList
    let value := Nat.ofDigitChars 10 digits 0
    if digits ≠ [] ∧ digits.all Char.isDigit ∧ value < 2 ^ 64 then some value else none
  | _ => none

/-- The id of a line's value. -/
def idOf (value : Json) : Option Nat := (value.member "id").bind asU64

end Broker

namespace CommandHostProcess

open Broker (frame idOf asU64)
open CommandHost (Invocation invoke)

theorem answerFrame_keys (id : Json) (ok : Bool) (result : Option Json) :
    ([("id", some id), ("ok", some (.bool ok)), ("result", result)].map Prod.fst).Nodup := by
  change ["id", "ok", "result"].Nodup
  decide

theorem member_answerFrame_id (id : Json) (ok : Bool) (result : Option Json) :
    (answerFrame id ok result).member "id" = some id := by
  rw [answerFrame, Json.member_object (answerFrame_keys id ok result)]
  rfl

theorem member_answerFrame_result (id : Json) (ok : Bool) (result : Option Json) :
    (answerFrame id ok result).member "result" = result := by
  rw [answerFrame, Json.member_object (answerFrame_keys id ok result)]
  cases result <;> rfl

variable {methods : List String}

/-- An id that the host gives back is that of the frame. -/
theorem frameId_frame {id : Nat} {command : DesktopRuntimeCommand} {request : Json} {n : Nat}
    (h : asU64 (frameId (frame id command request)) = some n) : n = id := by
  have hmember : (frame id command request).member "id" = some (.num (toString id)) := rfl
  rw [frameId, hmember] at h
  dsimp only at h
  split_ifs at h
  · rw [asU64] at h
    split_ifs at h
    have hdigits : Nat.ofDigitChars 10 (toString id).toList 0 = id := by
      rw [Nat.toString_eq_repr, Nat.toList_repr, Nat.ofDigitChars_ten_toDigits]
    exact (Option.some.inj h).symm.trans hdigits
  · cases h

/-- The id of the line that answers a line is null, or that of the line. -/
theorem handleCommandFrame_member_id (line : Line) (outcome : Outcome) :
    (handleCommandFrame methods line outcome).2.member "id" = some .null ∨
      ∃ value, line.parsed = some value ∧
        (handleCommandFrame methods line outcome).2.member "id" = some (frameId value) := by
  unfold handleCommandFrame
  split_ifs with hbytes
  · exact .inl (member_answerFrame_id ..)
  · cases hparsed : line.parsed with
    | none => exact .inl (member_answerFrame_id ..)
    | some value =>
      refine .inr ⟨value, rfl, ?_⟩
      dsimp only
      split
      · exact member_answerFrame_id ..
      · cases outcome with
        | threw => exact member_answerFrame_id ..
        | returned value => exact member_answerFrame_id ..

/-- The line that answers a frame of the broker has no id but that of the frame. -/
theorem handleCommandFrame_id {id : Nat} {command : DesktopRuntimeCommand} {request : Json} {outcome : Outcome}
    {n : Nat} (h : idOf (handleCommandFrame methods (.ofJson (frame id command request)) outcome).2 = some n) :
    n = id := by
  rcases handleCommandFrame_member_id (.ofJson (frame id command request)) outcome with
    hnull | ⟨value, hvalue, hid⟩
  · rw [idOf, hnull] at h
    cases h
  · cases hvalue
    rw [idOf, hid] at h
    exact frameId_frame h

end CommandHostProcess

end EasyMc.Desktop
