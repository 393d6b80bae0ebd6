import EasyMc.Desktop.Redaction

/-!
# Results of the runtime bridge and of the room controller

`RuntimeDto` is what `dto` of `apps/desktop/src/runtime/desktop-runtime-bridge.mjs` returns, `RoomDto` what
`withRoomReadiness` of `desktop-room-controller.mjs` assembles from it: the runtime's fields, the invite link and the
snapshots of the control plane and of the relay.  The result that leaves the controller is `RoomDto.response`, the
assembled object after `sanitizeValue`.  A field that is `undefined` is `none`.
-/

namespace EasyMc.Desktop

/-- The states of `DesktopRuntimeBridgeStates` and `HostRuntimeStates`. -/
inductive RuntimeState
  | blocked | preparing | opening | closing | stopped | ready | starting | running | stopping | restarting | crashed
  | failed
  deriving DecidableEq, Repr

def RuntimeState.name : RuntimeState → String
  | .blocked => "blocked"
  | .preparing => "preparing"
  | .opening => "opening"
  | .closing => "closing"
  | .stopped => "stopped"
  | .ready => "ready"
  | .starting => "starting"
  | .running => "running"
  | .stopping => "stopping"
  | .restarting => "restarting"
  | .crashed => "crashed"
  | .failed => "failed"

structure Failure where
  reason : String
  message : String
  detail : Option Json

structure RuntimeDto where
  state : Option RuntimeState
  summary : Option String
  failure : Option Failure
  runtimePlan : Option Json
  metrics : Option Json
  events : Option Json
  detail : Option Json

/-- The spread of nothing, `{ ...undefined }`. -/
def RuntimeDto.empty : RuntimeDto :=
  { state := none, summary := none, failure := none, runtimePlan := none, metrics := none, events := none,
    detail := none }

structure ControlPlaneRoom where
  ready : Bool
  id : Option String
  state : Option String
  deriving DecidableEq, Repr

structure ControlPlaneInvite where
  ready : Bool
  expiresAt : Option Int
  deriving DecidableEq, Repr

structure ControlPlaneSnapshot where
  ready : Bool
  room : ControlPlaneRoom
  invite : ControlPlaneInvite
  deriving DecidableEq, Repr

/-- The fields of a tunnel as a relay gives them, its id by a number. -/
structure TunnelRecord where
  id : Option Nat
  hostId : Option String
  roomId : Option String
  state : Option String
  deriving DecidableEq, Repr

structure TunnelSnapshot where
  ready : Bool
  tunnel : TunnelRecord
  deriving DecidableEq, Repr

structure RelaySession where
  ready : Bool
  closed : Bool
  deriving DecidableEq, Repr

structure RelaySnapshot where
  ready : Bool
  closed : Bool
  session : RelaySession
  tunnel : Option TunnelSnapshot
  failure : Option Json

structure RoomDto where
  runtime : RuntimeDto
  inviteLink : Option String
  controlPlane : ControlPlaneSnapshot
  relay : RelaySnapshot

/-! ### As JSON -/

def Failure.toJson (failure : Failure) : Json :=
  Json.object [("reason", some (.str failure.reason)), ("message", some (.str failure.message)),
    ("detail", failure.detail)]

def ControlPlaneSnapshot.toJson (snapshot : ControlPlaneSnapshot) : Json :=
  Json.object [("ready", some (.bool snapshot.ready)),
    ("room", some (Json.object [("ready", some (.bool snapshot.room.ready)), ("id", Json.ofStr snapshot.room.id),
      ("state", Json.ofStr snapshot.room.state)])),
    ("invite", some (Json.object [("ready", some (.bool snapshot.invite.ready)),
      ("expiresAt", Json.ofInt snapshot.invite.expiresAt)]))]

def TunnelSnapshot.toJson (snapshot : TunnelSnapshot) : Json :=
  Json.object [("ready", some (.bool snapshot.ready)),
    ("id", snapshot.tunnel.id.map fun id => .num (toString id)), ("hostId", Json.ofStr snapshot.tunnel.hostId),
    ("roomId", Json.ofStr snapshot.tunnel.roomId), ("state", Json.ofStr snapshot.tunnel.state)]

def RelaySnapshot.toJson (snapshot : RelaySnapshot) : Json :=
  Json.object [("ready", some (.bool snapshot.ready)), ("closed", some (.bool snapshot.closed)),
    ("session", some (Json.object [("ready", some (.bool snapshot.session.ready)),
      ("closed", some (.bool snapshot.session.closed))])),
    ("tunnel", snapshot.tunnel.map TunnelSnapshot.toJson), ("failure", snapshot.failure)]

def RuntimeDto.fields (dto : RuntimeDto) : List (String × Option Json) :=
  [("state", Json.ofStr (dto.state.map RuntimeState.name)), ("summary", Json.ofStr dto.summary),
    ("failure", dto.failure.map Failure.toJson), ("runtimePlan", dto.runtimePlan), ("metrics", dto.metrics),
    ("events", dto.events), ("detail", dto.detail)]

def RuntimeDto.toJson (dto : RuntimeDto) : Json := Json.object dto.fields

def RoomDto.fields (dto : RoomDto) : List (String × Option Json) :=
  dto.runtime.fields ++
    [("inviteLink", Json.ofStr dto.inviteLink), ("controlPlane", some dto.controlPlane.toJson),
      ("relay", some dto.relay.toJson)]

def RoomDto.toJson (dto : RoomDto) : Json := Json.object dto.fields

/-- The result as it leaves the controller. -/
def RoomDto.response (dto : RoomDto) : Json := RoomController.sanitizeValue dto.toJson

/-! ### The fields of a result -/

namespace RoomDto

variable (dto : RoomDto)

theorem member_toJson (key : String) : dto.toJson.member key = (dto.fields.lookup key).join :=
  Json.member_object (by simp [fields, RuntimeDto.fields]) key

/-- A member of a result is dropped, or the sanitized member of the assembled object. -/
theorem member_response (key : String) :
    dto.response.member key =
      if RoomController.redactor.drop key 1 then none
      else ((dto.fields.lookup key).join).map (Json.redact RoomController.redactor key 1) := by
  rw [← member_toJson]
  exact Json.member_redact _ _ _ _ _

/-- The names of the states are left as they are. -/
theorem redact_name (state : RuntimeState) : RoomController.redactSecretString state.name = state.name := by
  cases state <;> decide

theorem response_state : dto.response.member "state" = dto.runtime.state.map fun state => .str state.name := by
  rw [member_response, if_neg (by decide)]
  cases hstate : dto.runtime.state with
  | none => simp [fields, RuntimeDto.fields, hstate, Json.ofStr]
  | some state =>
    have hname : (if RoomController.isTopLevelInviteLink "state" 1 then state.name
        else RoomController.redactSecretString state.name) = state.name := by
      rw [if_neg (by decide), redact_name]
    simp [fields, RuntimeDto.fields, hstate, Json.ofStr, Json.redact, RoomController.redactor, hname]

theorem response_failure :
    (dto.response.member "failure").isSome = dto.runtime.failure.isSome := by
  rw [member_response, if_neg (by decide)]
  cases hfailure : dto.runtime.failure <;> simp [fields, RuntimeDto.fields, hfailure, List.lookup_cons]

theorem response_inviteLink : dto.response.member "inviteLink" = Json.ofStr dto.inviteLink := by
  rw [member_response, if_neg (by decide)]
  cases hlink : dto.inviteLink <;>
    simp [fields, RuntimeDto.fields, hlink, List.lookup_cons, Json.ofStr, Json.redact, RoomController.redactor,
      RoomController.isTopLevelInviteLink]

/-- A result has no other fields. -/
theorem response_absent {key : String} (hkey : dto.fields.lookup key = none) : dto.response.member key = none := by
  rw [member_response, hkey]
  split <;> rfl

theorem response_controlPlane :
    dto.response.member "controlPlane" =
      some (Json.redact RoomController.redactor "controlPlane" 1 dto.controlPlane.toJson) := by
  rw [member_response, if_neg (by decide)]
  rfl

theorem response_relay :
    dto.response.member "relay" = some (Json.redact RoomController.redactor "relay" 1 dto.relay.toJson) := by
  rw [member_response, if_neg (by decide)]
  rfl

end RoomDto

/-- The flags of a sanitized snapshot of the control plane. -/
theorem ControlPlaneSnapshot.sanitized_ready (snapshot : ControlPlaneSnapshot) (key : String) :
    (Json.redact RoomController.redactor key 1 snapshot.toJson).path ["ready"] = some (.bool snapshot.ready) ∧
      (Json.redact RoomController.redactor key 1 snapshot.toJson).path ["invite", "ready"] =
        some (.bool snapshot.invite.ready) := by
  constructor
  · rw [ControlPlaneSnapshot.toJson, Json.path_redact_object (by simp) (by decide)]
    rfl
  · rw [ControlPlaneSnapshot.toJson, Json.path_redact_object (by simp) (by decide)]
    change Option.bind (some (Json.object _)) _ = _
    rw [Option.bind_some, Json.path_redact_object (by simp) (by decide)]
    rfl

/-- The flags of a sanitized snapshot of the relay. -/
theorem RelaySnapshot.sanitized_ready (snapshot : RelaySnapshot) (key : String) :
    (Json.redact RoomController.redactor key 1 snapshot.toJson).path ["ready"] = some (.bool snapshot.ready) ∧
      (Json.redact RoomController.redactor key 1 snapshot.toJson).path ["session", "ready"] =
        some (.bool snapshot.session.ready) := by
  constructor
  · rw [RelaySnapshot.toJson, Json.path_redact_object (by simp) (by decide)]
    rfl
  · rw [RelaySnapshot.toJson, Json.path_redact_object (by simp) (by decide)]
    change Option.bind (some (Json.object _)) _ = _
    rw [Option.bind_some, Json.path_redact_object (by simp) (by decide)]
    rfl

end EasyMc.Desktop
