import EasyMc.ControlPlane.Records
import EasyMc.Library.JsMap
import EasyMc.Library.Machine
import Mathlib.Logic.Function.Basic

/-!
# The control-plane simulation (`services/control-plane/src/domain/simulation.mjs`)

`createControlPlaneSimulation` as a state and one function for each of its operations.  The memory clock is the field
`now`: an operation runs at one moment, and time passes between operations.  JavaScript's `undefined` is `none`.

`Random` gives the values that the source draws at random or computes with `node:crypto`; the state counts the draws.
-/

namespace EasyMc.Domain

open ControlPlane (Reply)

/-- The random values of the source, by the number of the draw, and SHA-256. -/
structure Random where
  randomUUID : Nat → String
  createInviteToken : Nat → String
  hashInviteToken : String → String

/-- The options of `createControlPlaneSimulation`, with the random values it uses. -/
structure Options where
  inviteTtlMs : Int
  presenceTtlMs : Int
  sessionTtlMs : Int
  random : Random

def defaultInviteTtlMs : Int := 24 * 60 * 60 * 1000

def defaultPresenceTtlMs : Int := 90 * 1000

def defaultSessionTtlMs : Int := 15 * 60 * 1000

structure Room where
  id : String
  hostId : Option String
  roomAlias : Option String
  minecraftVersion : Option String
  packProfileName : Option String
  state : RoomState
  createdAt : Int
  hostLastSeenAt : Int
  deriving DecidableEq, Repr

structure Invite where
  id : String
  roomId : String
  tokenHash : String
  state : InviteState
  createdAt : Int
  expiresAt : Int
  deriving DecidableEq, Repr

structure Approval where
  id : String
  roomId : String
  inviteId : String
  friendId : Option String
  minecraftUuid : Option String
  displayName : Option String
  state : ApprovalState
  createdAt : Int
  sessionIssued : Bool
  deriving DecidableEq, Repr

structure Session where
  id : String
  roomId : Option String
  inviteId : Option String
  requestId : String
  minecraftUuid : Option String
  state : SessionState
  issuedAt : Int
  expiresAt : Int
  deriving DecidableEq, Repr

structure Simulation where
  now : Int
  draws : Nat
  rooms : JsMap String Room
  invites : JsMap String Invite
  approvals : JsMap String Approval
  sessions : JsMap String Session
  rawTokens : JsMap String String

def createControlPlaneSimulation (initialNow : Int) : Simulation :=
  { now := initialNow, draws := 0, rooms := .empty, invites := .empty, approvals := .empty, sessions := .empty,
    rawTokens := .empty }

/-! ### What the operations return -/

structure IssuedInvite where
  inviteId : String
  handle : String
  token : String
  expiresAt : Int
  deriving DecidableEq, Repr

structure RequestStatus where
  requestId : String
  state : ApprovalState
  deriving DecidableEq, Repr

structure IssuedSession where
  sessionId : String
  expiresAt : Int
  deriving DecidableEq, Repr

/-- A request as the host's approval queue shows it. -/
structure QueuedRequest where
  id : String
  displayName : Option String
  minecraftUuid : Option String
  state : ApprovalState
  deriving DecidableEq, Repr

structure SafeInvite where
  roomAlias : Option String
  minecraftVersion : Option String
  packProfileName : Option String
  trustCopy : String
  deriving DecidableEq, Repr

/-- The answer of `redactInviteStatus`. -/
inductive InviteStatus
  | unavailable (reason : ErrorState)
  | available (invite : SafeInvite)
  deriving DecidableEq, Repr

structure ReadSession where
  roomId : Option String
  minecraftUuid : Option String
  expiresAt : Int
  deriving DecidableEq, Repr

def fail {α : Type} (reason : ErrorState) : Reply α := .fail (.error reason)

def redactInviteStatus (status : Option (InviteState × SafeInvite)) : InviteStatus :=
  match status with
  | some (.active, invite) => .available invite
  | _ => .unavailable .inviteUnavailable

/-! ### Checks -/

variable (options : Options)

/-- The context in which a host acts on a room. -/
def roomContext (actorId : Option String) (room : Room) : PermissionContext :=
  { actorId := actorId, roomHostId := room.hostId, validInvite := false, authorizedApproval := false,
    breakGlass := false }

def isHostOnline (now : Int) (room : Room) : Bool :=
  room.state == .opened && decide (now - room.hostLastSeenAt ≤ options.presenceTtlMs)

def isInviteActive (now : Int) (invite : Invite) : Bool :=
  invite.state == .active && decide (invite.expiresAt > now)

def resolveInviteByToken (s : Simulation) (token : Option String) : Option Invite :=
  match token with
  | none => none
  | some token =>
    if token = "" then none
    else (s.rawTokens.get (options.random.hashInviteToken token)).bind s.invites.get

/-- `none` is an action that the protocol does not know. -/
def actionForDecision (decision : ApprovalState) : Option Action :=
  match decision with
  | .approved => some .approveJoin
  | .denied => some .denyJoin
  | .blocked => some .blockJoin
  | _ => none

/-! ### Operations -/

def createRoom (s : Simulation) (hostId roomAlias minecraftVersion packProfileName : Option String) :
    Room × Simulation :=
  let roomId := "room_" ++ options.random.randomUUID s.draws
  let room : Room :=
    { id := roomId, hostId := hostId, roomAlias := roomAlias, minecraftVersion := minecraftVersion,
      packProfileName := packProfileName, state := .opened, createdAt := s.now, hostLastSeenAt := s.now }
  (room, { s with draws := s.draws + 1, rooms := s.rooms.set roomId room })

def heartbeatHost (s : Simulation) (actorId : Option String) (roomId : String) : Bool × Simulation :=
  match s.rooms.get roomId with
  | none => (false, s)
  | some room =>
    if room.hostId ≠ actorId then (false, s)
    else (true, { s with rooms := s.rooms.set roomId { room with hostLastSeenAt := s.now, state := .opened } })

def createInviteRecord (s : Simulation) (actorId : Option String) (roomId token : String) :
    Reply IssuedInvite × Simulation :=
  match s.rooms.get roomId with
  | none => (fail .sessionUnavailable, s)
  | some room =>
    if !canActorPerform .host (some .createInvite) (roomContext actorId room) then (fail .sessionUnavailable, s)
    else
      let inviteId := "invite_" ++ options.random.randomUUID s.draws
      let tokenHash := options.random.hashInviteToken token
      let invite : Invite :=
        { id := inviteId, roomId := roomId, tokenHash := tokenHash, state := .active, createdAt := s.now,
          expiresAt := s.now + options.inviteTtlMs }
      (.ok
        { inviteId := inviteId, handle := "invite_handle_" ++ options.random.randomUUID (s.draws + 1), token := token,
          expiresAt := invite.expiresAt },
        { s with
          draws := s.draws + 2, invites := s.invites.set inviteId invite,
          rawTokens := s.rawTokens.set tokenHash inviteId })

/-- The token is drawn first, also when the invite is then refused. -/
def createInvite (s : Simulation) (actorId : Option String) (roomId : String) : Reply IssuedInvite × Simulation :=
  createInviteRecord options { s with draws := s.draws + 1 } actorId roomId (options.random.createInviteToken s.draws)

def revokeInvite (s : Simulation) (actorId inviteId : Option String) : Reply Unit × Simulation :=
  match inviteId with
  | none => (fail .inviteUnavailable, s)
  | some inviteId =>
    match s.invites.get inviteId with
    | none => (fail .inviteUnavailable, s)
    | some invite =>
      match s.rooms.get invite.roomId with
      | none => (fail .inviteUnavailable, s)
      | some room =>
        if !canActorPerform .host (some .revokeInvite) (roomContext actorId room) then (fail .inviteUnavailable, s)
        else (.ok (), { s with invites := s.invites.set inviteId { invite with state := .revoked } })

def trustCopy : String := "No Microsoft or Minecraft password is required."

def readSafeInviteStatus (s : Simulation) (token : Option String) : InviteStatus :=
  match (resolveInviteByToken options s token).filter (isInviteActive s.now) with
  | none => redactInviteStatus none
  | some invite =>
    match s.rooms.get invite.roomId with
    | none => redactInviteStatus none
    | some room =>
      redactInviteStatus (some (.active,
        { roomAlias := room.roomAlias, minecraftVersion := room.minecraftVersion,
          packProfileName := room.packProfileName, trustCopy := trustCopy }))

def createJoinRequest (s : Simulation) (token friendId minecraftUuid displayName : Option String) :
    Reply RequestStatus × Simulation :=
  match (resolveInviteByToken options s token).filter (isInviteActive s.now) with
  | none => (fail .inviteUnavailable, s)
  | some invite =>
    match (s.rooms.get invite.roomId).filter (isHostOnline options s.now) with
    | none => (fail .roomClosed, s)
    | some room =>
      if !canActorPerform .friend (some .createJoinRequest)
          { actorId := none, roomHostId := none, validInvite := true, authorizedApproval := false,
            breakGlass := false } then
        (fail .approvalRequired, s)
      else
        let requestId := "approval_" ++ options.random.randomUUID s.draws
        let request : Approval :=
          { id := requestId, roomId := room.id, inviteId := invite.id, friendId := friendId,
            minecraftUuid := minecraftUuid, displayName := displayName, state := .pending, createdAt := s.now,
            sessionIssued := false }
        (.ok { requestId := requestId, state := request.state },
          { s with draws := s.draws + 1, approvals := s.approvals.set requestId request })

def readApprovalQueue (s : Simulation) (actorId : Option String) (roomId : String) : Reply (List QueuedRequest) :=
  match s.rooms.get roomId with
  | none => fail .sessionUnavailable
  | some room =>
    if !canActorPerform .host (some .readApprovalQueue) (roomContext actorId room) then fail .sessionUnavailable
    else
      .ok ((s.approvals.values.filter fun request => request.roomId == roomId && request.state == .pending).map
        fun request =>
          { id := request.id, displayName := request.displayName, minecraftUuid := request.minecraftUuid,
            state := request.state })

def decideJoinRequest (s : Simulation) (actorId : Option String) (requestId : String)
    (decision : Option ApprovalState) : Reply ApprovalState × Simulation :=
  match s.approvals.get requestId, decision with
  | some request, some decision =>
    match s.rooms.get request.roomId with
    | none => (fail .sessionUnavailable, s)
    | some room =>
      if !canActorPerform .host (actionForDecision decision) (roomContext actorId room) then
        (fail .sessionUnavailable, s)
      else if request.state ≠ .pending then (fail .approvalRequired, s)
      else (.ok decision, { s with approvals := s.approvals.set requestId { request with state := decision } })
  | _, _ => (fail .sessionUnavailable, s)

/-- `identityBound`: the request is approved, unused and the one described, and its invite is active. -/
def identityBound (now : Int) (request : Approval) (invite : Invite) (roomId inviteId minecraftUuid : Option String) :
    Bool :=
  request.state == .approved && some request.roomId == roomId && some request.inviteId == inviteId &&
    request.minecraftUuid == minecraftUuid && !request.sessionIssued && isInviteActive now invite

/-- The permission `ISSUE_SESSION` asks for nothing but `authorized`. -/
def issueSession (s : Simulation) (requestId : String) (roomId inviteId minecraftUuid : Option String) :
    Reply IssuedSession × Simulation :=
  match s.approvals.get requestId with
  | none => (fail .sessionUnavailable, s)
  | some request =>
    match s.rooms.get request.roomId, s.invites.get request.inviteId with
    | some room, some invite =>
      let bound := identityBound s.now request invite roomId inviteId minecraftUuid
      if bound && !isHostOnline options s.now room then (fail .roomClosed, s)
      else
        let authorized := bound && isHostOnline options s.now room
        if !canActorPerform .service (some .issueSession)
            { actorId := none, roomHostId := none, validInvite := false, authorizedApproval := authorized,
              breakGlass := false } then
          (fail .sessionUnavailable, s)
        else
          let sessionId := "session_" ++ options.random.randomUUID s.draws
          let session : Session :=
            { id := sessionId, roomId := roomId, inviteId := inviteId, requestId := requestId,
              minecraftUuid := minecraftUuid, state := .issued, issuedAt := s.now,
              expiresAt := s.now + options.sessionTtlMs }
          (.ok { sessionId := sessionId, expiresAt := session.expiresAt },
            { s with
              draws := s.draws + 1, approvals := s.approvals.set requestId { request with sessionIssued := true },
              sessions := s.sessions.set sessionId session })
    | _, _ => (fail .sessionUnavailable, s)

def readSession (s : Simulation) (sessionId : String) : Reply ReadSession :=
  match s.sessions.get sessionId with
  | none => fail .sessionUnavailable
  | some session =>
    if session.expiresAt ≤ s.now || session.state != .issued then fail .sessionUnavailable
    else .ok { roomId := session.roomId, minecraftUuid := session.minecraftUuid, expiresAt := session.expiresAt }

/-- The clock's `advance`, forward. -/
def advance (s : Simulation) (ms : Nat) : Simulation := { s with now := s.now + ms }

/-! ### Runs -/

inductive Operation
  | createRoom (hostId roomAlias minecraftVersion packProfileName : Option String)
  | heartbeatHost (actorId : Option String) (roomId : String)
  | createInvite (actorId : Option String) (roomId : String)
  | revokeInvite (actorId inviteId : Option String)
  | createJoinRequest (token friendId minecraftUuid displayName : Option String)
  | decideJoinRequest (actorId : Option String) (requestId : String) (decision : Option ApprovalState)
  | issueSession (requestId : String) (roomId inviteId minecraftUuid : Option String)
  | advance (ms : Nat)
  deriving DecidableEq, Repr

inductive Outcome
  | room (room : Room)
  | heartbeat (ok : Bool)
  | invite (reply : Reply IssuedInvite)
  | revoked (reply : Reply Unit)
  | request (reply : Reply RequestStatus)
  | decided (reply : Reply ApprovalState)
  | session (reply : Reply IssuedSession)
  | advanced
  deriving DecidableEq, Repr

def Simulation.step (s : Simulation) : Operation → Outcome × Simulation
  | .createRoom hostId roomAlias minecraftVersion packProfileName =>
    let (room, s) := createRoom options s hostId roomAlias minecraftVersion packProfileName
    (.room room, s)
  | .heartbeatHost actorId roomId =>
    let (ok, s) := heartbeatHost s actorId roomId
    (.heartbeat ok, s)
  | .createInvite actorId roomId =>
    let (reply, s) := createInvite options s actorId roomId
    (.invite reply, s)
  | .revokeInvite actorId inviteId =>
    let (reply, s) := revokeInvite s actorId inviteId
    (.revoked reply, s)
  | .createJoinRequest token friendId minecraftUuid displayName =>
    let (reply, s) := createJoinRequest options s token friendId minecraftUuid displayName
    (.request reply, s)
  | .decideJoinRequest actorId requestId decision =>
    let (reply, s) := decideJoinRequest s actorId requestId decision
    (.decided reply, s)
  | .issueSession requestId roomId inviteId minecraftUuid =>
    let (reply, s) := issueSession options s requestId roomId inviteId minecraftUuid
    (.session reply, s)
  | .advance ms => (.advanced, advance s ms)

/-- Random values that count in unary, with the token itself for its hash. -/
def countedRandom : Random :=
  { randomUUID := fun n => String.ofList (List.replicate n '0')
    createInviteToken := fun n => String.ofList ('t' :: List.replicate n '0')
    hashInviteToken := id }

theorem countedRandom_injective : Function.Injective countedRandom.randomUUID := by
  intro m n h
  have := congrArg String.length h
  simpa [countedRandom] using this

theorem countedRandom_tokens :
    Function.Injective (countedRandom.hashInviteToken ∘ countedRandom.createInviteToken) := by
  intro m n h
  have := congrArg String.length h
  simpa [countedRandom] using this

def countedOptions : Options :=
  { inviteTtlMs := defaultInviteTtlMs, presenceTtlMs := defaultPresenceTtlMs, sessionTtlMs := defaultSessionTtlMs,
    random := countedRandom }

end EasyMc.Domain
