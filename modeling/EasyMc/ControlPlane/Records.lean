import EasyMc.Library.Await
import EasyMc.Protocol

/-!
# Records and calls of the control plane

The records kept by the control plane, and the calls the room service makes on its repository, its hooks, its
clock and its id generators.  Each call is a waiting point of the service's asynchronous functions.
-/

namespace EasyMc.ControlPlane

/-- Why a request failed: an error state of the protocol, or a reason made up by a hook or a repository. -/
inductive Reason
  | error (state : ErrorState)
  | other (text : String)
  deriving DecidableEq, Repr

/-- `{ ok: true, .. }` or `{ ok: false, reason }`. -/
inductive Reply (α : Type)
  | ok (value : α)
  | fail (reason : Reason)
  deriving DecidableEq, Repr

namespace Reply

variable {α : Type}

def isOk : Reply α → Bool
  | .ok _ => true
  | .fail _ => false

def map {β : Type} (f : α → β) : Reply α → Reply β
  | .ok a => .ok (f a)
  | .fail r => .fail r

@[simp] theorem isOk_ok (a : α) : (Reply.ok a).isOk = true := rfl

@[simp] theorem isOk_fail (r : Reason) : (Reply.fail r : Reply α).isOk = false := rfl

@[simp] theorem map_ok {β : Type} (f : α → β) (a : α) : (Reply.ok a).map f = .ok (f a) := rfl

@[simp] theorem map_fail {β : Type} (f : α → β) (r : Reason) : (Reply.fail r).map f = .fail r := rfl

end Reply

/-- A field that holds a secret as given (`token`, `sessionCredential`), or its hash after a record has been
sanitized (`tokenHash`, `sessionCredentialHash`), or neither. -/
inductive Secret
  | raw (value : Option String)
  | hash (digest : String)
  | absent
  deriving DecidableEq, Repr

structure Room where
  id : String
  hostId : String
  roomAlias : Option String
  minecraftVersion : Option String
  packProfileName : Option String
  state : RoomState
  createdAt : Int
  updatedAt : Int
  deriving DecidableEq, Repr

structure Invite where
  id : String
  roomId : String
  token : Secret
  state : InviteState
  createdAt : Int
  expiresAt : Option Int
  revokedAt : Option Int
  deriving DecidableEq, Repr

structure Approval where
  id : String
  roomId : String
  inviteId : String
  friendId : Option String
  minecraftUuid : Option String
  displayName : Option String
  state : ApprovalState
  createdAt : Int
  decidedAt : Option Int
  deriving DecidableEq, Repr

structure Session where
  id : String
  roomId : String
  inviteId : String
  requestId : String
  minecraftUuid : Option String
  sessionCredential : Secret
  state : SessionState
  issuedAt : Int
  expiresAt : Option Int
  deriving DecidableEq, Repr

/-- The `metadata` object of an audit event, by the operation that records it. -/
inductive AuditMetadata
  | roomCreated (minecraftVersion packProfileName : Option String)
  | inviteCreated (expiresAt : Int)
  | inviteRevoked (reason : String) (revokedAt : Int)
  | inviteRegenerated (revokedInviteId : String) (expiresAt : Int)
  | approvalDecided (decision : ApprovalState) (decidedAt : Int)
  deriving DecidableEq, Repr

structure AuditEvent where
  type : String
  actorId : String
  roomId : String
  inviteId : Option String
  requestId : Option String
  metadata : AuditMetadata
  deriving DecidableEq, Repr

/-- An audit event as the store keeps it. -/
structure StoredAuditEvent where
  id : String
  occurredAt : Int
  event : AuditEvent
  deriving DecidableEq, Repr

structure RateLimitRequest where
  scope : String
  signal : String
  limit : Int
  windowMs : Int
  deriving DecidableEq, Repr

structure RateLimitResult where
  outcome : Reply Unit
  scope : String
  signalHash : String
  count : Nat
  limit : Int
  remaining : Int
  resetAt : Int
  deriving DecidableEq, Repr

structure RoomQuotaContext where
  actorId : String
  now : Int
  deriving DecidableEq, Repr

structure SessionQuotaContext where
  roomId : String
  requestId : String
  inviteId : String
  minecraftUuid : Option String
  now : Int
  deriving DecidableEq, Repr

/-- What a quota hook returns: `false`, `{ ok: false, reason }`, or anything else. -/
inductive HookResult
  | refused
  | fail (reason : Reason)
  | other
  deriving DecidableEq, Repr

/-- The calls of the room service. -/
inductive Call
  | saveRoom (record : Room)
  | readRoom (roomId : String)
  | saveInvite (record : Invite)
  | readInvite (inviteId : String)
  | readInviteByToken (token : String)
  | saveApproval (record : Approval)
  | readApproval (approvalId : String)
  | saveSession (record : Session)
  | readPresence (roomId : String)
  | incrementRateLimitCounter (request : RateLimitRequest)
  | recordAuditEvent (event : AuditEvent)
  | checkRoomQuota (context : RoomQuotaContext)
  | checkSessionQuota (context : SessionQuotaContext)
  | now
  | roomId
  | inviteId
  | approvalId
  | sessionId
  | createInviteToken
  deriving DecidableEq, Repr

/-- The saves, the only calls that write rooms, invites, approvals or sessions. -/
def Call.isSave : Call → Bool
  | .saveRoom _ | .saveInvite _ | .saveApproval _ | .saveSession _ => true
  | _ => false

/-- The answer to a call.  A save answers with the stored record, which a repository may leave out. -/
abbrev Call.Answer : Call → Type
  | .saveRoom _ => Reply (Option Room)
  | .readRoom _ => Reply Room
  | .saveInvite _ => Reply (Option Invite)
  | .readInvite _ => Reply Invite
  | .readInviteByToken _ => Reply Invite
  | .saveApproval _ => Reply (Option Approval)
  | .readApproval _ => Reply Approval
  | .saveSession _ => Reply (Option Session)
  | .readPresence _ => Reply Unit
  | .incrementRateLimitCounter _ => RateLimitResult
  | .recordAuditEvent _ => Reply Unit
  | .checkRoomQuota _ => HookResult
  | .checkSessionQuota _ => HookResult
  | .now => Int
  | .roomId => String
  | .inviteId => String
  | .approvalId => String
  | .sessionId => String
  | .createInviteToken => String

/-- An asynchronous function of the room service. -/
abbrev Service (α : Type) : Type := Await.Prog Call Call.Answer α

namespace Service

abbrev saveRoom (record : Room) : Service (Reply (Option Room)) := .perform (Call.saveRoom record)

abbrev readRoom (roomId : String) : Service (Reply Room) := .perform (Call.readRoom roomId)

abbrev saveInvite (record : Invite) : Service (Reply (Option Invite)) := .perform (Call.saveInvite record)

abbrev readInvite (inviteId : String) : Service (Reply Invite) := .perform (Call.readInvite inviteId)

abbrev readInviteByToken (token : String) : Service (Reply Invite) := .perform (Call.readInviteByToken token)

abbrev saveApproval (record : Approval) : Service (Reply (Option Approval)) := .perform (Call.saveApproval record)

abbrev readApproval (approvalId : String) : Service (Reply Approval) := .perform (Call.readApproval approvalId)

abbrev saveSession (record : Session) : Service (Reply (Option Session)) := .perform (Call.saveSession record)

abbrev readPresence (roomId : String) : Service (Reply Unit) := .perform (Call.readPresence roomId)

abbrev incrementRateLimitCounter (request : RateLimitRequest) : Service RateLimitResult :=
  .perform (Call.incrementRateLimitCounter request)

abbrev recordAuditEvent (event : AuditEvent) : Service (Reply Unit) := .perform (Call.recordAuditEvent event)

abbrev checkRoomQuota (context : RoomQuotaContext) : Service HookResult := .perform (Call.checkRoomQuota context)

abbrev checkSessionQuota (context : SessionQuotaContext) : Service HookResult := .perform (Call.checkSessionQuota context)

abbrev now : Service Int := .perform Call.now

abbrev newRoomId : Service String := .perform Call.roomId

abbrev newInviteId : Service String := .perform Call.inviteId

abbrev newApprovalId : Service String := .perform Call.approvalId

abbrev newSessionId : Service String := .perform Call.sessionId

abbrev issueInviteToken : Service String := .perform Call.createInviteToken

end Service

end EasyMc.ControlPlane
