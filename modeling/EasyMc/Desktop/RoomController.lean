import EasyMc.Desktop.Dto
import EasyMc.Library.Script
import EasyMc.Relay.Simulation

/-!
# The room controller (`apps/desktop/src/runtime/desktop-room-controller.mjs`)

`createDesktopRoomController` as scripts over the variables `active`, `lastRelaySnapshot`, `lastControlPlaneSnapshot`
and `cleanupPending`.  The calls are those of the runtime bridge, of the control plane, of `createHostTunnelToken`, of
the relay factory and of the relays, which are named by numbers; each is answered by a value, by a promise that
rejects, or by an exception thrown before there is a promise.  An optional method that is missing is one that answers
`undefined` at once.  Room ids, invite ids and tokens are strings; of an answer that is kept only in the detail of a
failure, `raw` is the whole.
-/

namespace EasyMc.Desktop.RoomController

/-- A thrown value: its `message`, and what `Object.entries` sees of it. -/
structure JsError where
  message : Option String
  value : Json

/-- How a call ends. -/
inductive Outcome (α : Type) : Type
  | fulfilled (value : α)
  | rejected (error : JsError)
  | threw (error : JsError)

inductive FailureReason
  | controlPlaneRoomFailed | controlPlaneInviteFailed | relayOpenFailed | relayCloseFailed | cleanupPending
  deriving DecidableEq, Repr

def FailureReason.name : FailureReason → String
  | .controlPlaneRoomFailed => "control_plane_room_failed"
  | .controlPlaneInviteFailed => "control_plane_invite_failed"
  | .relayOpenFailed => "relay_open_failed"
  | .relayCloseFailed => "relay_close_failed"
  | .cleanupPending => "cleanup_pending"

def failureSummary : FailureReason → String
  | .controlPlaneRoomFailed => "The room could not be registered."
  | .controlPlaneInviteFailed => "The invite could not be created."
  | .relayOpenFailed => "The relay tunnel could not be opened."
  | .relayCloseFailed => "The relay tunnel could not be closed."
  | .cleanupPending => "Finish closing the previous room before opening a new one."

def minecraftTarget : Relay.Target := { kind := some "minecraft", host := some "127.0.0.1", port := some 25565 }

/-- The arguments of `createDesktopRoomController` that are no functions.  `setInvite base token` is the text of
`new URL(base)` after `searchParams.set("invite", token)`, `none` where the constructor throws. -/
structure Options where
  runtimePlan : Option Json
  hostId : Option String
  inviteBaseUrl : String
  setInvite : String → String → Option String

/-! ### Requests and answers -/

structure CreateRoomRequest where
  hostId : Option String
  alias_ : Option Json
  minecraftVersion : Option Json
  packProfileName : Option Json

structure RoomRef where
  id : Option String
  state : Option String

/-- What `createRoom` answers: an object with a room, or the room itself. -/
structure RoomResult where
  ok : Option Bool
  room : Option RoomRef
  self : RoomRef
  raw : Json

/-- The arguments of `createInvite` and of `heartbeatHost`. -/
structure ActorRequest where
  actorId : Option String
  roomId : Option String

structure InviteRef where
  id : Option String
  publicHandle : Option String
  handle : Option String
  expiresAt : Option Int

/-- What `createInvite` answers: an object with an invite, or the invite itself. -/
structure InviteResult where
  ok : Option Bool
  invite : Option InviteRef
  self : InviteRef
  inviteId : Option String
  inviteHandle : Option String
  raw : Json

structure RevokeRequest where
  actorId : Option String
  inviteId : Option String

structure TokenRequest where
  hostId : Option String
  roomId : Option String
  runtimePlan : Option Json
  target : Relay.Target

structure RelayRequest where
  hostId : Option String
  roomId : Option String
  hostToken : Option String
  runtimePlan : Option Json
  target : Relay.Target
  options : Json

/-- What opening or closing a tunnel answers. -/
structure RelayResult where
  ok : Bool
  tunnel : Option TunnelRecord
  raw : Json

/-- The calls of the controller. -/
inductive Call
  | prepareRoom (options : Json)
  | openRoom (options : Json)
  | closeRoom (options : Option Json)
  | restartRoom (options : Json)
  | status
  | createRoom (request : CreateRoomRequest)
  | createInvite (request : ActorRequest)
  | revokeInvite (request : RevokeRequest)
  | heartbeatHost (request : ActorRequest)
  | createHostTunnelToken (request : TokenRequest)
  | relayFactory (request : RelayRequest)
  | openHostTunnel (relay : Nat) (request : Relay.OpenTunnelRequest)
  | closeHostTunnel (relay : Nat) (request : Relay.CloseTunnelRequest)

/-- The value of an answer, `none` for `undefined`.  Of a revocation's answer it is the `ok`, which only tells whether
the invite is revoked: the controller does not read it. -/
abbrev Call.Value : Call → Type
  | .prepareRoom _ | .openRoom _ | .closeRoom _ | .restartRoom _ | .status => Option RuntimeDto
  | .createRoom _ => Option RoomResult
  | .createInvite _ => Option InviteResult
  | .revokeInvite _ => Option Bool
  | .heartbeatHost _ => Unit
  | .createHostTunnelToken _ => Option String
  | .relayFactory _ => Option Nat
  | .openHostTunnel _ _ | .closeHostTunnel _ _ => Option RelayResult

abbrev Call.Answer (call : Call) : Type := Outcome call.Value

/-! ### Variables -/

/-- The room in use.  `tunnelId` is `none` for `null`; an opening sets it to the tunnel's id, which may be missing. -/
structure ActiveRoom where
  roomId : Option String
  inviteId : Option String
  inviteLink : Option String
  hostToken : Option String
  relay : Option Nat
  tunnelId : Option (Option Nat)

def emptyActiveRoom : ActiveRoom :=
  { roomId := none, inviteId := none, inviteLink := none, hostToken := none, relay := none, tunnelId := none }

def emptyRelaySnapshot : RelaySnapshot :=
  { ready := false, closed := true, session := { ready := false, closed := true }, tunnel := none, failure := none }

def emptyControlPlaneSnapshot : ControlPlaneSnapshot :=
  { ready := false, room := { ready := false, id := none, state := none },
    invite := { ready := false, expiresAt := none } }

structure Variables where
  active : ActiveRoom
  lastRelaySnapshot : RelaySnapshot
  lastControlPlaneSnapshot : ControlPlaneSnapshot
  cleanupPending : Bool

def initialVariables : Variables :=
  { active := emptyActiveRoom, lastRelaySnapshot := emptyRelaySnapshot,
    lastControlPlaneSnapshot := emptyControlPlaneSnapshot, cleanupPending := false }

/-- Whether a string that may be missing counts as true. -/
def isSet (text : Option String) : Bool := text.any (· ≠ "")

/-! ### Snapshots -/

/-- `sanitizeValue` of a tunnel. -/
def sanitizeTunnel (tunnel : TunnelRecord) : TunnelRecord :=
  { tunnel with hostId := tunnel.hostId.map redactSecretString, roomId := tunnel.roomId.map redactSecretString,
                state := tunnel.state.map redactSecretString }

def relaySnapshot (tunnel : Option TunnelRecord) : RelaySnapshot :=
  let publicTunnel := sanitizeTunnel (tunnel.getD { id := none, hostId := none, roomId := none, state := none })
  let closed := publicTunnel.state == some "closed"
  let ready := publicTunnel.state == some "open"
  { ready, closed, session := { ready, closed }, tunnel := some { ready, tunnel := publicTunnel }, failure := none }

def closedRelaySnapshot (previous : RelaySnapshot) : RelaySnapshot :=
  match previous.tunnel with
  | some snapshot =>
    { previous with
      ready := false
      closed := true
      session := { ready := false, closed := true }
      tunnel := some
        { ready := false
          tunnel := { snapshot.tunnel with
                      state := if snapshot.tunnel.state = some "open" then some "closed" else snapshot.tunnel.state } } }
  | none => emptyRelaySnapshot

def relayIsReady (relay : RelaySnapshot) : Bool := relay.ready && relay.session.ready

/-- `!relay.failure` holds of a missing failure and of one that is not truthy. -/
def relayCloseSucceeded (relay : RelaySnapshot) : Bool := relay.closed && !Json.holds relay.failure

def isRuntimeReadyForInvite (state : Option RuntimeState) : Bool := state == some .running

/-! ### Results -/

structure Overrides where
  inviteLink : Option (Option String)
  controlPlane : Option ControlPlaneSnapshot
  relay : Option RelaySnapshot

def noOverrides : Overrides := { inviteLink := none, controlPlane := none, relay := none }

def withRoomReadiness (vars : Variables) (runtimeDto : Option RuntimeDto) (overrides : Overrides) : RoomDto :=
  let inviteLink := overrides.inviteLink.getD vars.active.inviteLink
  { runtime := runtimeDto.getD .empty
    inviteLink := if isSet inviteLink then inviteLink else none
    controlPlane := overrides.controlPlane.getD vars.lastControlPlaneSnapshot
    relay := overrides.relay.getD vars.lastRelaySnapshot }

/-- `relay` is the override of the caller, if it gives one. -/
def withoutInviteReadiness (vars : Variables) (runtimeDto : Option RuntimeDto) (relay : Option RelaySnapshot) :
    RoomDto :=
  withRoomReadiness vars runtimeDto
    { inviteLink := some none
      controlPlane := some emptyControlPlaneSnapshot
      relay := relay.or (some vars.lastRelaySnapshot) }

def blockedRuntimeDto (reason : FailureReason) : RuntimeDto :=
  { RuntimeDto.empty with
    state := some .blocked
    summary := some (failureSummary reason)
    failure := some { reason := reason.name, message := failureSummary reason, detail := none } }

/-! ### Answers of the control plane -/

def normalizeRoomResult (result : Option RoomResult) : Option RoomRef :=
  result.bind fun result => if result.ok = some false then none else some (result.room.getD result.self)

structure NormalizedInvite where
  ok : Bool
  id : Option String
  publicHandle : Option String
  expiresAt : Option Int

def normalizeInviteResult (result : Option InviteResult) : Option NormalizedInvite :=
  match result with
  | none => some { ok := false, id := none, publicHandle := none, expiresAt := none }
  | some result =>
    if result.ok = some false then
      some { ok := false, id := result.self.id, publicHandle := result.self.publicHandle,
             expiresAt := result.self.expiresAt }
    else
      let invite := result.invite.getD result.self
      let publicHandle := ((invite.publicHandle.or invite.handle).or result.inviteHandle).or result.self.handle
      some { ok := result.ok.getD (isSet publicHandle), id := (invite.id.or result.inviteId).or publicHandle,
             publicHandle, expiresAt := invite.expiresAt.or result.self.expiresAt }

def createInviteLink (options : Options) (token : String) : String :=
  match options.setInvite options.inviteBaseUrl token with
  | some link => link
  | none =>
    let separator := if options.inviteBaseUrl.toList.contains '?' then "&" else "?"
    options.inviteBaseUrl ++ separator ++ "invite=" ++ Text.encodeURIComponent token

/-! ### The controller -/

abbrev Controller (α : Type) : Type := Script Call Call.Answer Variables JsError α

/-- `await call`. -/
def await (call : Call) : Controller call.Value := do
  match ← Script.ask call with
  | .fulfilled value => pure value
  | .rejected error => throw error
  | .threw error => throw error

/-- `await Promise.resolve(call).catch(f)`, which catches rejections only. -/
def awaitCatch (call : Call) (f : JsError → call.Value) : Controller call.Value := do
  match ← Script.ask call with
  | .fulfilled value => pure value
  | .rejected error => pure (f error)
  | .threw error => throw error

/-- What the active room asks of its relay when its tunnel is closed. -/
abbrev closeRequest (options : Options) (active : ActiveRoom) (reason : String) : Relay.CloseTunnelRequest :=
  { tunnelId := active.tunnelId.join, roomId := active.roomId, hostId := options.hostId,
    hostToken := active.hostToken, reason := some reason }

abbrev closeCall (options : Options) (active : ActiveRoom) (reason : String) (relay : Nat) : Call :=
  .closeHostTunnel relay (closeRequest options active reason)

/-- A rejected close, as a result that is not ok. -/
def closeRejected (error : JsError) : Option RelayResult :=
  some { ok := false, tunnel := none,
         raw := Json.object [("ok", some (.bool false)),
           ("reason", some (.str (error.message.getD "relay_close_failed")))] }

def closeSnapshot (closed : Option RelayResult) : RelaySnapshot :=
  match closed with
  | some { ok := true, tunnel, .. } => relaySnapshot tunnel
  | _ =>
    { ready := false, closed := false, session := { ready := false, closed := false }, tunnel := none,
      failure := closed.map fun closed => sanitizeValue closed.raw }

/-- The relay and the room of the active room, if there is a tunnel to close. -/
def closableRelay (active : ActiveRoom) : Option Nat := active.relay.filter fun _ => isSet active.roomId

def closeRelayTunnel (options : Options) (reason : String) : Controller RelaySnapshot := do
  let vars ← Script.read
  match closableRelay vars.active with
  | none =>
    let snapshot := closedRelaySnapshot vars.lastRelaySnapshot
    Script.write fun vars => { vars with lastRelaySnapshot := snapshot }
    pure snapshot
  | some relay =>
    let closed ← awaitCatch (closeCall options vars.active reason relay) closeRejected
    let snapshot := closeSnapshot closed
    Script.write fun vars => { vars with lastRelaySnapshot := snapshot }
    pure snapshot

def revokeInvite (options : Options) : Controller Unit := do
  let vars ← Script.read
  if isSet vars.active.inviteId && isSet vars.active.roomId then
    let _ ← awaitCatch (.revokeInvite { actorId := options.hostId, inviteId := vars.active.inviteId }) fun _ => none
    pure ()
  else
    pure ()

/-- `active.inviteId = null; active.inviteLink = null`. -/
def forgetInvite : Controller Unit :=
  Script.write fun vars => { vars with active := { vars.active with inviteId := none, inviteLink := none } }

def clearOpenRoomSideEffects (options : Options) : Controller RelaySnapshot := do
  let relayClosed ← closeRelayTunnel options "controller_fail_closed"
  revokeInvite options
  forgetInvite
  if relayCloseSucceeded relayClosed then
    Script.write fun vars => { vars with cleanupPending := false, active := emptyActiveRoom }
    pure relayClosed
  else
    Script.write fun vars => { vars with cleanupPending := true }
    pure relayClosed

/-- The result of a failed opening. -/
def failedDto (vars : Variables) (runtimeDto : Option RuntimeDto) (reason : FailureReason) (cause : Option Json) :
    RoomDto :=
  let snapshot := vars.lastControlPlaneSnapshot
  withRoomReadiness vars
    (some
      { runtimeDto.getD .empty with
        state := some .blocked
        summary := some (failureSummary reason)
        failure := some { reason := reason.name, message := failureSummary reason,
                          detail := cause.map sanitizeValue } })
    { inviteLink := some none
      controlPlane := some (if snapshot.ready then snapshot else { snapshot with ready := false })
      relay := some vars.lastRelaySnapshot }

def failClosed (options : Options) (runtimeDto : Option RuntimeDto) (reason : FailureReason) (cause : Option Json) :
    Controller RoomDto := do
  let _ ← clearOpenRoomSideEffects options
  let closedRuntime ← awaitCatch (.closeRoom none) fun _ => none
  let vars ← Script.read
  pure (failedDto vars (closedRuntime.or runtimeDto) reason cause)

/-! `provisionOpenRoom` in three parts, one for each value that `failureReason` takes inside its `try`: a part catches
the errors of its calls and goes on with the next part when they succeed. -/

def controlPlaneSnapshot (room : RoomRef) (invite : Option NormalizedInvite) : ControlPlaneSnapshot :=
  { ready := invite.isSome
    room := { ready := true, id := room.id, state := room.state }
    invite := { ready := invite.isSome, expiresAt := invite.bind NormalizedInvite.expiresAt } }

/-- An invite that can be used has an id and a public handle. -/
def usableInvite (invite : Option NormalizedInvite) : Option NormalizedInvite :=
  invite.filter fun invite => invite.ok && isSet invite.id && isSet invite.publicHandle

def provisionInvite (options : Options) (runtimeDto : Option RuntimeDto) (room : RoomRef) : Controller RoomDto := do
  match ← Script.attempt (await (.createInvite { actorId := options.hostId, roomId := room.id })) with
  | .error error => failClosed options runtimeDto .controlPlaneInviteFailed (some error.value)
  | .ok inviteResult =>
    match usableInvite (normalizeInviteResult inviteResult) with
    | none => failClosed options runtimeDto .controlPlaneInviteFailed (inviteResult.map InviteResult.raw)
    | some invite =>
      Script.write fun vars =>
        { vars with
          active := { vars.active with
                      inviteId := invite.id
                      inviteLink := invite.publicHandle.map (createInviteLink options) }
          lastControlPlaneSnapshot := controlPlaneSnapshot room (some invite) }
      match ← Script.attempt (await (.heartbeatHost { actorId := options.hostId, roomId := room.id })) with
      | .error error => failClosed options runtimeDto .controlPlaneInviteFailed (some error.value)
      | .ok _ =>
        let vars ← Script.read
        pure (withRoomReadiness vars runtimeDto noOverrides)

/-- Open a tunnel in the relay that the factory makes. -/
def openTunnel (options : Options) (room : RoomRef) (commandOptions : Json) : Controller (Option RelayResult) := do
  let hostToken ← await (.createHostTunnelToken
    { hostId := options.hostId, roomId := room.id, runtimePlan := options.runtimePlan, target := minecraftTarget })
  Script.write fun vars => { vars with active := { vars.active with hostToken } }
  let relay ← await (.relayFactory
    { hostId := options.hostId, roomId := room.id, hostToken, runtimePlan := options.runtimePlan,
      target := minecraftTarget, options := commandOptions })
  Script.write fun vars => { vars with active := { vars.active with relay } }
  match relay with
  | none => throw { message := some "Cannot read properties of undefined", value := .obj [] }
  | some relay =>
    await (.openHostTunnel relay
      { hostId := options.hostId, roomId := room.id, target := some minecraftTarget, hostToken })

def provisionRelay (options : Options) (runtimeDto : Option RuntimeDto) (room : RoomRef) (commandOptions : Json) :
    Controller RoomDto := do
  match ← Script.attempt (openTunnel options room commandOptions) with
  | .error error => failClosed options runtimeDto .relayOpenFailed (some error.value)
  | .ok relayOpened =>
    match relayOpened.filter RelayResult.ok with
    | none => failClosed options runtimeDto .relayOpenFailed (relayOpened.map RelayResult.raw)
    | some relayOpened =>
      Script.write fun vars =>
        { vars with
          active := { vars.active with tunnelId := some (relayOpened.tunnel.bind TunnelRecord.id) }
          lastRelaySnapshot := relaySnapshot relayOpened.tunnel }
      provisionInvite options runtimeDto room

def createRoomRequest (options : Options) : CreateRoomRequest :=
  let read (keys : List String) : Option Json := options.runtimePlan.bind fun plan => plan.path keys
  { hostId := options.hostId, alias_ := (Json.present (read ["room", "name"])).or (read ["room", "id"]),
    minecraftVersion := read ["room", "minecraftVersion"], packProfileName := read ["pack", "id"] }

def provisionOpenRoom (options : Options) (runtimeDto : Option RuntimeDto) (commandOptions : Json) :
    Controller RoomDto := do
  match ← Script.attempt (await (.createRoom (createRoomRequest options))) with
  | .error error => failClosed options runtimeDto .controlPlaneRoomFailed (some error.value)
  | .ok roomResult =>
    match (normalizeRoomResult roomResult).filter fun room => isSet room.id with
    | none => failClosed options runtimeDto .controlPlaneRoomFailed (roomResult.map RoomResult.raw)
    | some room =>
      Script.write fun vars =>
        { vars with
          active := { vars.active with roomId := room.id }
          lastControlPlaneSnapshot := controlPlaneSnapshot room none }
      provisionRelay options runtimeDto room commandOptions

/-! ### Commands -/

/-- Whether a runtime result lets the room be shared. -/
def reportsRunning (runtimeDto : Option RuntimeDto) : Bool :=
  isRuntimeReadyForInvite (runtimeDto.bind RuntimeDto.state)

/-- The room is shared and its relay ready. -/
def isShared (vars : Variables) : Bool := isSet vars.active.inviteLink && relayIsReady vars.lastRelaySnapshot

def cleanupPendingDto (vars : Variables) : RoomDto :=
  withRoomReadiness vars (some (blockedRuntimeDto .cleanupPending)) { noOverrides with inviteLink := some none }

def prepareRoom (prepareOptions : Json) : Controller RoomDto := do
  let prepared ← await (.prepareRoom prepareOptions)
  let vars ← Script.read
  pure (withRoomReadiness vars prepared noOverrides)

def openRoom (options : Options) (openOptions : Json) : Controller RoomDto := do
  let vars ← Script.read
  if vars.cleanupPending then
    pure (cleanupPendingDto vars)
  else
    let opened ← await (.openRoom openOptions)
    if reportsRunning opened then
      provisionOpenRoom options opened openOptions
    else
      let vars ← Script.read
      pure (withoutInviteReadiness vars opened (some emptyRelaySnapshot))

/-- `closeOptions.reason ?? "host_closed"`, where a reason is a string. -/
def closeReason (closeOptions : Json) : String := ((closeOptions.member "reason").bind Json.asStr).getD "host_closed"

def relayCloseFailedDto (vars : Variables) (closed : Option RuntimeDto) (relayClosed : RelaySnapshot) : RoomDto :=
  withRoomReadiness vars
    (some
      { closed.getD .empty with
        state := some .blocked
        summary := some (failureSummary .relayCloseFailed)
        failure := some { reason := FailureReason.relayCloseFailed.name,
                          message := failureSummary .relayCloseFailed, detail := none } })
    { inviteLink := some none, controlPlane := some emptyControlPlaneSnapshot, relay := some relayClosed }

def closeRoom (options : Options) (closeOptions : Json) : Controller RoomDto := do
  let relayClosed ← closeRelayTunnel options (closeReason closeOptions)
  revokeInvite options
  forgetInvite
  let closed ← await (.closeRoom (some closeOptions))
  if relayCloseSucceeded relayClosed then
    Script.write fun vars => { vars with cleanupPending := false, active := emptyActiveRoom }
    let vars ← Script.read
    pure (withRoomReadiness vars closed
      { inviteLink := some none, controlPlane := some emptyControlPlaneSnapshot, relay := some relayClosed })
  else
    Script.write fun vars => { vars with cleanupPending := true }
    let vars ← Script.read
    pure (relayCloseFailedDto vars closed relayClosed)

def restartRoom (options : Options) (restartOptions : Json) : Controller RoomDto := do
  let vars ← Script.read
  if vars.cleanupPending then
    pure (cleanupPendingDto vars)
  else
    let restarted ← await (.restartRoom restartOptions)
    if reportsRunning restarted then
      let vars ← Script.read
      if isShared vars then
        pure (withRoomReadiness vars restarted noOverrides)
      else
        provisionOpenRoom options restarted restartOptions
    else
      let _ ← clearOpenRoomSideEffects options
      let vars ← Script.read
      pure (withoutInviteReadiness vars restarted none)

def status : Controller RoomDto := do
  let runtimeStatus ← await .status
  let vars ← Script.read
  if reportsRunning runtimeStatus then
    pure (withRoomReadiness vars runtimeStatus noOverrides)
  else
    pure (withoutInviteReadiness vars runtimeStatus none)

def statusRoom (options : Options) : Controller RoomDto := do
  let runtimeStatus ← await .status
  let vars ← Script.read
  if reportsRunning runtimeStatus then
    if isShared vars then
      pure (withRoomReadiness vars runtimeStatus noOverrides)
    else
      provisionOpenRoom options runtimeStatus (.obj [])
  else
    pure (withoutInviteReadiness vars runtimeStatus none)

inductive Command
  | prepareRoom (options : Json)
  | openRoom (options : Json)
  | closeRoom (options : Json)
  | restartRoom (options : Json)
  | status
  | statusRoom

def Command.script (options : Options) : Command → Controller RoomDto
  | .prepareRoom prepareOptions => RoomController.prepareRoom prepareOptions
  | .openRoom openOptions => RoomController.openRoom options openOptions
  | .closeRoom closeOptions => RoomController.closeRoom options closeOptions
  | .restartRoom restartOptions => RoomController.restartRoom options restartOptions
  | .status => RoomController.status
  | .statusRoom => RoomController.statusRoom options

abbrev Environment (σ : Type) : Type := Script.Environment Call Call.Answer σ

abbrev Session (σ : Type) : Type := Script.Session Call Call.Answer Variables σ

/-- A controller in a new session. -/
def Session.initial {σ : Type} (world : σ) : Session σ := ⟨⟨world, []⟩, initialVariables⟩

/-- One command of a session. -/
abbrev step {σ : Type} (env : Environment σ) (options : Options) (s : Session σ) (command : Command) :
    Except JsError RoomDto × Session σ :=
  Script.step env (Command.script options) s command

/-! ### Rules -/

section Rules

variable {σ : Type} {env : Environment σ} {A : Script.Answered Call Call.Answer → Prop} {s : Session σ}
  {options : Options}

/-- An awaited call returns a value, or throws the error of its answer. -/
theorem ends_await {call : Call} {post : Except JsError call.Value → Session σ → Prop}
    (hok : ∀ value, (env call s.world).1 = .fulfilled value → A ⟨call, .fulfilled value⟩ →
      post (.ok value) (s.answer env call))
    (hrejected : ∀ error, (env call s.world).1 = .rejected error → A ⟨call, .rejected error⟩ →
      post (.error error) (s.answer env call))
    (hthrew : ∀ error, (env call s.world).1 = .threw error → A ⟨call, .threw error⟩ →
      post (.error error) (s.answer env call)) :
    Script.Ends env A (await call) s post := by
  unfold await
  rw [Script.ends_bind, Script.ends_ask]
  intro hA
  rcases hanswer : (env call s.world).1 with value | error | error
  · rw [hanswer] at hA
    exact hok value hanswer hA
  · rw [hanswer] at hA
    exact hrejected error hanswer hA
  · rw [hanswer] at hA
    exact hthrew error hanswer hA

/-- A call with a caught rejection returns a value in any case but the exception. -/
theorem ends_awaitCatch {call : Call} {f : JsError → call.Value} {post : Except JsError call.Value → Session σ → Prop}
    (hok : ∀ value, (env call s.world).1 = .fulfilled value → A ⟨call, .fulfilled value⟩ →
      post (.ok value) (s.answer env call))
    (hrejected : ∀ error, (env call s.world).1 = .rejected error → A ⟨call, .rejected error⟩ →
      post (.ok (f error)) (s.answer env call))
    (hthrew : ∀ error, (env call s.world).1 = .threw error → A ⟨call, .threw error⟩ →
      post (.error error) (s.answer env call)) :
    Script.Ends env A (awaitCatch call f) s post := by
  unfold awaitCatch
  rw [Script.ends_bind, Script.ends_ask]
  intro hA
  rcases hanswer : (env call s.world).1 with value | error | error
  · rw [hanswer] at hA
    exact hok value hanswer hA
  · rw [hanswer] at hA
    exact hrejected error hanswer hA
  · rw [hanswer] at hA
    exact hthrew error hanswer hA

/-- What an awaited call leaves: its answer is recorded, and it returns the value of that answer or throws its error. -/
theorem ends_await_answer {call : Call} :
    Script.Ends env A (await call) s fun out s' =>
      s' = s.answer env call ∧ A ⟨call, (env call s.world).1⟩ ∧
        (∀ value, out = .ok value → (env call s.world).1 = .fulfilled value) ∧
        ∀ error, out = .error error →
          (env call s.world).1 = .rejected error ∨ (env call s.world).1 = .threw error := by
  refine ends_await ?_ ?_ ?_
  · intro value hanswer hA
    rw [hanswer]
    exact ⟨rfl, hA, fun _ hout => by rw [Except.ok.inj hout], fun _ hout => nomatch hout⟩
  · intro error hanswer hA
    rw [hanswer]
    exact ⟨rfl, hA, fun _ hout => (nomatch hout), fun _ hout => .inl (by rw [Except.error.inj hout])⟩
  · intro error hanswer hA
    rw [hanswer]
    exact ⟨rfl, hA, fun _ hout => (nomatch hout), fun _ hout => .inr (by rw [Except.error.inj hout])⟩

theorem ends_awaitCatch_answer {call : Call} {f : JsError → call.Value} :
    Script.Ends env A (awaitCatch call f) s fun _ s' => s' = s.answer env call :=
  ends_awaitCatch (fun _ _ _ => rfl) (fun _ _ _ => rfl) fun _ _ _ => rfl

/-- Closing the tunnel of the active room: there may be none, and the relay may answer, reject or throw. -/
theorem ends_closeRelayTunnel {reason : String} {post : Except JsError RelaySnapshot → Session σ → Prop}
    (hskip : closableRelay s.vars.active = none → ∀ snapshot, snapshot = closedRelaySnapshot s.vars.lastRelaySnapshot →
      post (.ok snapshot) { s with vars := { s.vars with lastRelaySnapshot := snapshot } })
    (hclosed : ∀ relay closed, closableRelay s.vars.active = some relay →
      (env (closeCall options s.vars.active reason relay) s.world).1 = .fulfilled closed →
      A ⟨closeCall options s.vars.active reason relay, .fulfilled closed⟩ →
      post (.ok (closeSnapshot closed))
        { s.answer env (closeCall options s.vars.active reason relay) with
          vars := { s.vars with lastRelaySnapshot := closeSnapshot closed } })
    (hrejected : ∀ relay error, closableRelay s.vars.active = some relay →
      (env (closeCall options s.vars.active reason relay) s.world).1 = .rejected error →
      post (.ok (closeSnapshot (closeRejected error)))
        { s.answer env (closeCall options s.vars.active reason relay) with
          vars := { s.vars with lastRelaySnapshot := closeSnapshot (closeRejected error) } })
    (hthrew : ∀ relay error, closableRelay s.vars.active = some relay →
      (env (closeCall options s.vars.active reason relay) s.world).1 = .threw error →
      A ⟨closeCall options s.vars.active reason relay, .threw error⟩ →
      post (.error error) (s.answer env (closeCall options s.vars.active reason relay))) :
    Script.Ends env A (closeRelayTunnel options reason) s post := by
  unfold closeRelayTunnel
  rw [Script.ends_bind, Script.ends_read]
  dsimp only
  rcases hactive : closableRelay s.vars.active with _ | relay
  · exact hskip hactive _ rfl
  · dsimp only
    rw [Script.ends_bind]
    refine ends_awaitCatch ?_ ?_ ?_
    · intro closed hanswer hA
      exact hclosed relay closed hactive hanswer hA
    · intro error hanswer _
      exact hrejected relay error hactive hanswer
    · intro error hanswer hA
      exact hthrew relay error hactive hanswer hA

end Rules

end EasyMc.Desktop.RoomController
