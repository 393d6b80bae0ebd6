import EasyMc.ControlPlane.Records

/-!
# The room service (`services/control-plane/src/services/room-service.mjs`)

The six operations of `createRoomService` as programs that wait for their calls.  A call is a waiting point; the
clock and the id generators are calls too, so that every reading has its own moment.
-/

namespace EasyMc.ControlPlane

open Await (Prog)

def defaultInviteTtlMs : Int := 24 * 60 * 60 * 1000

def defaultSessionTtlMs : Int := 15 * 60 * 1000

def defaultJoinRequestLimit : Int := 5

def defaultJoinRequestWindowMs : Int := 60 * 1000

def hostDecisions : List ApprovalState := [.approved, .denied, .blocked]

/-- The options of `createRoomService`, and which optional functions its hooks and its repository have.
`redactAuditText` stands for the five regular-expression replacements of the source's function. -/
structure ServiceOptions where
  inviteTtlMs : Int
  sessionTtlMs : Int
  joinRequestLimit : Int
  joinRequestWindowMs : Int
  hasCheckRoomQuota : Bool
  hasCheckSessionQuota : Bool
  hasReadPresence : Bool
  hasRecordAuditEvent : Bool
  hasWithTransaction : Bool
  redactAuditText : String → String

def failWith {α : Type} (state : ErrorState) : Reply α := .fail (.error state)

/-! ### Requests and responses -/

structure CreateRoom where
  actorId : String
  roomAlias : Option String
  minecraftVersion : Option String
  packProfileName : Option String
  deriving DecidableEq, Repr

structure CreateInvite where
  actorId : String
  roomId : String
  deriving DecidableEq, Repr

structure RevokeInvite where
  actorId : String
  inviteId : String
  reason : Option String
  deriving DecidableEq, Repr

structure RegenerateInvite where
  actorId : String
  inviteId : String
  deriving DecidableEq, Repr

structure CreateJoinRequest where
  inviteToken : String
  friendId : Option String
  minecraftUuid : Option String
  displayName : Option String
  ipAddress : Option String
  deviceSignal : Option String
  deriving DecidableEq, Repr

structure DecideJoinRequest where
  actorId : String
  requestId : String
  decision : ApprovalState
  minecraftUuid : Option String
  sessionCredential : Option String
  deriving DecidableEq, Repr

inductive Request
  | createRoom (args : CreateRoom)
  | createInvite (args : CreateInvite)
  | revokeInvite (args : RevokeInvite)
  | regenerateInvite (args : RegenerateInvite)
  | createJoinRequest (args : CreateJoinRequest)
  | decideJoinRequest (args : DecideJoinRequest)
  deriving DecidableEq, Repr

structure PublicRoom where
  id : String
  roomAlias : Option String
  minecraftVersion : Option String
  packProfileName : Option String
  state : RoomState
  deriving DecidableEq, Repr

structure IssuedInvite where
  id : String
  token : String
  expiresAt : Int
  deriving DecidableEq, Repr

structure InviteStatus where
  id : String
  state : InviteState
  deriving DecidableEq, Repr

structure RequestStatus where
  id : String
  state : ApprovalState
  deriving DecidableEq, Repr

structure IssuedSession where
  id : String
  expiresAt : Int
  deriving DecidableEq, Repr

inductive Response
  | room (room : PublicRoom)
  | invite (invite : IssuedInvite)
  | revoked (invite : InviteStatus)
  | regenerated (invite : IssuedInvite) (revokedInvite : InviteStatus)
  | request (request : RequestStatus)
  | decided (request : RequestStatus) (session : Option IssuedSession)
  deriving DecidableEq, Repr

/-! ### Checks -/

def publicRoom (room : Room) : PublicRoom :=
  { id := room.id, roomAlias := room.roomAlias, minecraftVersion := room.minecraftVersion,
    packProfileName := room.packProfileName, state := room.state }

def isRoomOpen (room : Room) : Bool := room.state == .opened

/-- `!expiresAt || expiresAt > now`: a missing expiry and the number `0` both mean that there is none. -/
def notExpired (expiresAt : Option Int) (now : Int) : Bool :=
  match expiresAt with
  | none => true
  | some t => t == 0 || t > now

def isInviteActive (invite : Invite) (now : Int) : Bool := invite.state == .active && notExpired invite.expiresAt now

/-- `none` is the source's `"unknown"`. -/
def actionForDecision : ApprovalState → Option Action
  | .approved => some .approveJoin
  | .denied => some .denyJoin
  | .blocked => some .blockJoin
  | _ => none

/-! ### Shared steps of the operations -/

/-- `redactAuditValue` on the events of this service: no key of theirs is a sensitive one, so every string is
redacted as text and everything else is kept. -/
def redactAuditValue (redactAuditText : String → String) (event : AuditEvent) : AuditEvent :=
  { type := redactAuditText event.type
    actorId := redactAuditText event.actorId
    roomId := redactAuditText event.roomId
    inviteId := event.inviteId.map redactAuditText
    requestId := event.requestId.map redactAuditText
    metadata :=
      match event.metadata with
      | .roomCreated version profile => .roomCreated (version.map redactAuditText) (profile.map redactAuditText)
      | .inviteRevoked reason revokedAt => .inviteRevoked (redactAuditText reason) revokedAt
      | .inviteRegenerated revoked expiresAt => .inviteRegenerated (redactAuditText revoked) expiresAt
      | metadata => metadata }

def audit (options : ServiceOptions) (event : AuditEvent) : Service (Reply Unit) :=
  if options.hasRecordAuditEvent then
    Service.recordAuditEvent (redactAuditValue options.redactAuditText event)
  else
    return .ok ()

def callHook (installed : Bool) (hook : Service HookResult) : Service (Reply Unit) :=
  if installed then do
    match ← hook with
    | .refused => return failWith .sessionUnavailable
    | .fail reason => return .fail reason
    | .other => return .ok ()
  else
    return .ok ()

def isRoomAvailable (options : ServiceOptions) (room : Room) : Service Bool :=
  if !isRoomOpen room then
    return false
  else if !options.hasReadPresence then
    return true
  else do
    let presence ← Service.readPresence room.id
    return presence.isOk

def readAuthorizedInvite (actorId inviteId : String) (action : Action) : Service (Reply Invite) := do
  match ← Service.readInvite inviteId with
  | .fail _ => return failWith .inviteUnavailable
  | .ok invite =>
    match ← Service.readRoom invite.roomId with
    | .fail _ => return failWith .inviteUnavailable
    | .ok room =>
      if !canActorPerform .host (some action) (hostContext actorId room.hostId) then
        return failWith .inviteUnavailable
      else
        return .ok invite

/-! ### Rooms and invites -/

def createRoom (options : ServiceOptions) (args : CreateRoom) : Service (Reply Response) :=
  if args.actorId == "" then
    .throw "createRoom requires actorId"
  else do
    let quotaNow ← Service.now
    match ← callHook options.hasCheckRoomQuota (Service.checkRoomQuota ⟨args.actorId, quotaNow⟩) with
    | .fail reason => return .fail reason
    | .ok _ =>
      let now ← Service.now
      let id ← Service.newRoomId
      let room : Room :=
        { id := id, hostId := args.actorId, roomAlias := args.roomAlias, minecraftVersion := args.minecraftVersion,
          packProfileName := args.packProfileName, state := .opened, createdAt := now, updatedAt := now }
      match ← Service.saveRoom room with
      | .fail reason => return .fail reason
      | .ok saved =>
        let _ ← audit options
          { type := "room_created", actorId := args.actorId, roomId := room.id, inviteId := none, requestId := none,
            metadata := .roomCreated args.minecraftVersion args.packProfileName }
        return .ok (.room (publicRoom (saved.getD room)))

def createInvite (options : ServiceOptions) (args : CreateInvite) : Service (Reply Response) := do
  match ← Service.readRoom args.roomId with
  | .fail _ => return failWith .sessionUnavailable
  | .ok room =>
    if !canActorPerform .host (some .createInvite) (hostContext args.actorId room.hostId) then
      return failWith .sessionUnavailable
    else do
      let now ← Service.now
      let token ← Service.issueInviteToken
      let id ← Service.newInviteId
      let invite : Invite :=
        { id := id, roomId := args.roomId, token := .raw (some token), state := .active, createdAt := now,
          expiresAt := some (now + options.inviteTtlMs), revokedAt := none }
      match ← Service.saveInvite invite with
      | .fail reason => return .fail reason
      | .ok saved =>
        let savedId := (saved.map Invite.id).getD invite.id
        let _ ← audit options
          { type := "invite_created", actorId := args.actorId, roomId := args.roomId, inviteId := some savedId,
            requestId := none, metadata := .inviteCreated (now + options.inviteTtlMs) }
        return .ok (.invite ⟨savedId, token, now + options.inviteTtlMs⟩)

def revokeInvite (options : ServiceOptions) (args : RevokeInvite) : Service (Reply Response) := do
  match ← readAuthorizedInvite args.actorId args.inviteId .revokeInvite with
  | .fail reason => return .fail reason
  | .ok authorized =>
    let now ← Service.now
    let invite : Invite := { authorized with state := .revoked, revokedAt := some now }
    match ← Service.saveInvite invite with
    | .fail reason => return .fail reason
    | .ok _ =>
      let _ ← audit options
        { type := "invite_revoked", actorId := args.actorId, roomId := invite.roomId, inviteId := some args.inviteId,
          requestId := none, metadata := .inviteRevoked (args.reason.getD "host_revoked") now }
      return .ok (.revoked ⟨args.inviteId, .revoked⟩)

def regenerateInvite (options : ServiceOptions) (args : RegenerateInvite) : Service (Reply Response) := do
  match ← readAuthorizedInvite args.actorId args.inviteId .revokeInvite with
  | .fail reason => return .fail reason
  | .ok authorized =>
    let now ← Service.now
    let oldInvite : Invite := { authorized with state := .revoked, revokedAt := some now }
    match ← Service.saveInvite oldInvite with
    | .fail reason => return .fail reason
    | .ok _ =>
      -- The old invite is stored as revoked; a refusal from here on leaves it so.
      let token ← Service.issueInviteToken
      let id ← Service.newInviteId
      let nextInvite : Invite :=
        { id := id, roomId := oldInvite.roomId, token := .raw (some token), state := .active, createdAt := now,
          expiresAt := some (now + options.inviteTtlMs), revokedAt := none }
      match ← Service.saveInvite nextInvite with
      | .fail reason => return .fail reason
      | .ok saved =>
        let savedId := (saved.map Invite.id).getD nextInvite.id
        let _ ← audit options
          { type := "invite_regenerated", actorId := args.actorId, roomId := oldInvite.roomId,
            inviteId := some savedId, requestId := none,
            metadata := .inviteRegenerated oldInvite.id (now + options.inviteTtlMs) }
        return .ok (.regenerated ⟨savedId, token, now + options.inviteTtlMs⟩ ⟨oldInvite.id, .revoked⟩)

/-! ### Join requests -/

/-- The rate-limit signals of a join request; a missing or empty signal is not counted. -/
def joinRequestSignals (inviteId : String) (args : CreateJoinRequest) : List (String × String) :=
  [("join_request.invite", inviteId),
    ("join_request.ip_device",
      String.intercalate "|" (([args.ipAddress, args.deviceSignal].filter truthy).filterMap id)),
    ("join_request.minecraft_identity", args.minecraftUuid.getD "")].filter fun signal => signal.2 != ""

def applyJoinRequestRateLimits (options : ServiceOptions) : List (String × String) → Service (Reply Unit)
  | [] => return .ok ()
  | (scope, signal) :: rest => do
    let result ← Service.incrementRateLimitCounter
      { scope := scope, signal := signal, limit := options.joinRequestLimit,
        windowMs := options.joinRequestWindowMs }
    match result.outcome with
    -- The counters up to here stay incremented.
    | .fail reason => return .fail reason
    | .ok _ => applyJoinRequestRateLimits options rest

def createJoinRequest (options : ServiceOptions) (args : CreateJoinRequest) : Service (Reply Response) := do
  match ← Service.readInviteByToken args.inviteToken with
  | .fail _ => return failWith .inviteUnavailable
  | .ok invite =>
    match ← Service.readRoom invite.roomId with
    | .fail _ => return failWith .roomClosed
    | .ok room =>
      if !(← isRoomAvailable options room) then
        return failWith .roomClosed
      else
        match ← applyJoinRequestRateLimits options (joinRequestSignals invite.id args) with
        | .fail reason => return .fail reason
        | .ok _ =>
          let id ← Service.newApprovalId
          let createdAt ← Service.now
          let approval : Approval :=
            { id := id, roomId := invite.roomId, inviteId := invite.id, friendId := args.friendId,
              minecraftUuid := args.minecraftUuid, displayName := args.displayName, state := .pending,
              createdAt := createdAt, decidedAt := none }
          match ← Service.saveApproval approval with
          | .fail reason => return .fail reason
          | .ok saved => return .ok (.request ⟨(saved.map Approval.id).getD approval.id, .pending⟩)

/-! ### Decisions -/

structure PreparedSession where
  sessionRecord : Session
  session : IssuedSession

def prepareSessionForApproval (options : ServiceOptions) (approval : Approval) (room : Room)
    (minecraftUuid sessionCredential : Option String) : Service (Reply PreparedSession) :=
  if approval.minecraftUuid != minecraftUuid then
    return failWith .sessionUnavailable
  else do
    match ← Service.readInvite approval.inviteId with
    | .fail _ => return failWith .sessionUnavailable
    | .ok invite =>
      let checkedAt ← Service.now
      if !isInviteActive invite checkedAt then
        return failWith .sessionUnavailable
      else if !(← isRoomAvailable options room) then
        return failWith .roomClosed
      else if !canActorPerform .service (some .issueSession)
          { actorId := none, roomHostId := none, validInvite := false, authorizedApproval := true,
            breakGlass := false } then
        return failWith .sessionUnavailable
      else
        let quotaNow ← Service.now
        match ← callHook options.hasCheckSessionQuota
            (Service.checkSessionQuota ⟨approval.roomId, approval.id, approval.inviteId, minecraftUuid, quotaNow⟩) with
        | .fail reason => return .fail reason
        | .ok _ =>
          -- A later reading of the clock than the one the invite was checked at.
          let now ← Service.now
          let id ← Service.newSessionId
          let session : Session :=
            { id := id, roomId := approval.roomId, inviteId := approval.inviteId, requestId := approval.id,
              minecraftUuid := minecraftUuid, sessionCredential := .raw sessionCredential, state := .issued,
              issuedAt := now, expiresAt := some (now + options.sessionTtlMs) }
          return .ok ⟨session, session.id, now + options.sessionTtlMs⟩

/-- The prepared session of an approving decision, and nothing for another one. -/
def prepareIfApproved (options : ServiceOptions) (decidedApproval : Approval) (room : Room)
    (args : DecideJoinRequest) : Service (Reply (Option PreparedSession)) :=
  if args.decision = .approved then do
    let prepared ← prepareSessionForApproval options decidedApproval room args.minecraftUuid args.sessionCredential
    return prepared.map some
  else
    return .ok none

def savePreparedSession (prepared : PreparedSession) : Service (Reply IssuedSession) := do
  match ← Service.saveSession prepared.sessionRecord with
  | .fail reason => return .fail reason
  | .ok saved => return .ok ⟨(saved.map Session.id).getD prepared.session.id, prepared.session.expiresAt⟩

def decideJoinRequest (options : ServiceOptions) (args : DecideJoinRequest) : Service (Reply Response) :=
  if !hostDecisions.contains args.decision then
    return failWith .approvalRequired
  else do
    match ← Service.readApproval args.requestId with
    | .fail _ => return failWith .sessionUnavailable
    | .ok approval =>
      match ← Service.readRoom approval.roomId with
      | .fail _ => return failWith .sessionUnavailable
      | .ok room =>
        if !canActorPerform .host (actionForDecision args.decision) (hostContext args.actorId room.hostId) then
          return failWith .sessionUnavailable
        else if approval.state != .pending then
          return failWith .approvalRequired
        else
          let decidedAt ← Service.now
          let decidedApproval : Approval := { approval with state := args.decision, decidedAt := some decidedAt }
          match ← prepareIfApproved options decidedApproval room args with
          | .fail reason => return .fail reason
          | .ok prepared =>
            -- The stored approval may have been decided since it was read, which nothing checks here.
            match ← Service.saveApproval decidedApproval with
            | .fail reason => return .fail reason
            | .ok _ =>
              let _ ← audit options
                { type := "approval_decided", actorId := args.actorId, roomId := approval.roomId,
                  inviteId := some approval.inviteId, requestId := some args.requestId,
                  metadata := .approvalDecided args.decision decidedAt }
              match prepared with
              | none => return .ok (.decided ⟨args.requestId, args.decision⟩ none)
              | some prepared =>
                match ← savePreparedSession prepared with
                | .fail reason => return .fail reason
                | .ok session => return .ok (.decided ⟨args.requestId, .approved⟩ (some session))

/-! ### The service -/

/-- The operation a request asks for. -/
def operation (options : ServiceOptions) : Request → Service (Reply Response)
  | .createRoom args => createRoom options args
  | .createInvite args => createInvite options args
  | .revokeInvite args => revokeInvite options args
  | .regenerateInvite args => regenerateInvite options args
  | .createJoinRequest args => createJoinRequest options args
  | .decideJoinRequest args => decideJoinRequest options args

/-- `serviceTransaction`.  A repository with `withTransaction` keeps what the operation wrote whenever the operation
returns, whatever it returns, and rolls back when it throws; `rollback before after` is the state then. -/
def serviceTransaction {α σ : Type} (hasWithTransaction : Bool) (rollback : σ → σ → σ)
    (h : Prog.Handler Call Call.Answer σ) (p : Service α) (s : σ) : Except String α × σ :=
  match p.exec h s with
  | (.ok a, s') => (.ok a, s')
  | (.error m, s') => (.error m, if hasWithTransaction then rollback s s' else s')

end EasyMc.ControlPlane
