import EasyMc.ControlPlane.ExpiryCleanup
import EasyMc.ControlPlane.StoredRecords

/-!
# The writes of the Postgres repository (`services/control-plane/src/persistence/postgres`)

The tables of `schema.sql` with all their columns, and the saves of `repository.mjs` on them.  Each save is one
`INSERT .. ON CONFLICT (..) DO UPDATE .. WHERE ..`: a new row is checked against the constraints of the schema, an old
one only changes if the columns that identify it stay as they are.  Seen as the tables of `PostgresRepository`
(`PostgresTables.database`) they keep the constraints over every run of transactions and cleanups.
-/

namespace EasyMc.ControlPlane

open Relational (UniqueOn References select upsert)

/-! ### Tables -/

/-- The tables with all their columns.  A record stands for its row, with the hash of a secret in its place. -/
structure PostgresTables where
  rooms : List Room
  invites : List Invite
  approvalRequests : List Approval
  sessions : List Session
  presence : List PresenceRow
  rateLimitCounters : List RateLimitCounterRow
  auditEvents : List StoredAuditEvent

def PostgresTables.empty : PostgresTables := ⟨[], [], [], [], [], [], []⟩

def sessionStateText : SessionState → String
  | .issued => "issued"
  | .expired => "expired"
  | .revoked => "revoked"

/-- The column of a secret. -/
def Secret.column : Secret → Option String
  | .hash digest => some digest
  | _ => none

def Room.row (room : Room) : RoomRow := ⟨room.id, room.hostId⟩

def Invite.row (invite : Invite) : InviteRow :=
  { id := invite.id, roomId := invite.roomId, tokenHash := invite.token.column.getD "",
    state := Stored.stateText invite.state, createdAt := invite.createdAt, expiresAt := invite.expiresAt,
    revokedAt := invite.revokedAt }

def Approval.row (approval : Approval) : ApprovalRequestRow := ⟨approval.id, approval.roomId, approval.inviteId⟩

def Session.row (session : Session) : SessionRow :=
  { id := session.id, roomId := session.roomId, inviteId := session.inviteId, requestId := session.requestId,
    minecraftUuid := session.minecraftUuid.getD "", sessionCredentialHash := session.sessionCredential.column,
    state := sessionStateText session.state, issuedAt := session.issuedAt, expiresAt := session.expiresAt }

/-- The columns that the reads of what expires, the counting and the cleanup go by. -/
def PostgresTables.database (t : PostgresTables) : Database :=
  { rooms := t.rooms.map Room.row, invites := t.invites.map Invite.row,
    approvalRequests := t.approvalRequests.map Approval.row, sessions := t.sessions.map Session.row,
    presence := t.presence, rateLimitCounters := t.rateLimitCounters }

/-! ### Saves -/

/-- Why a write throws.  `unfit` stands for what Postgres reports of a value that its column does not hold, an integer
out of range or a text with U+0000, and of a key that is too long for an index. -/
inductive WriteError
  | withoutId (kind : String)
  | withoutRoomAndHost
  | withoutType
  | nullValue (column : String)
  | unfit
  | duplicateKey (key : String)
  | missingParent (foreign : String)
  | identityConflict (kind : String)
  | counter (error : RepositoryError)
  deriving DecidableEq, Repr

def WriteError.message : WriteError → String
  | .withoutId kind => kind ++ " records require an id"
  | .withoutRoomAndHost => "presence records require roomId and hostId"
  | .withoutType => "audit events require a type"
  | .nullValue column => "null value in column \"" ++ column ++ "\" violates not-null constraint"
  | .unfit => "value does not fit its column"
  | .duplicateKey key => "duplicate key value violates unique constraint \"" ++ key ++ "\""
  | .missingParent foreign => "insert or update violates foreign key constraint \"" ++ foreign ++ "\""
  | .identityConflict kind => kind ++ " identity conflict"
  | .counter (.typeError message) => message
  | .counter .unfit => "counter does not fit its columns"
  | .counter .duplicateId => "duplicate key value violates unique constraint \"rate_limit_counters_pkey\""

/-- `INSERT .. ON CONFLICT (key) DO UPDATE SET .. WHERE same`, with `assertMutationSucceeded`: the row with the key of
`row` is updated if it is the same thing, and without one the row is checked and added. -/
def saveRow {ρ : Type} (kind : String) (key : ρ → String) (same : ρ → ρ → Bool) (update : ρ → ρ → ρ)
    (check : Except WriteError Unit) (row : ρ) (rows : List ρ) : Except WriteError (List ρ) :=
  match (select key (key row) rows).head? with
  | some old => if same old row then .ok (upsert key row (update row) rows) else .error (.identityConflict kind)
  | none =>
    match check with
    | .ok () => .ok (rows ++ [row])
    | .error error => .error error

/-- A statement is refused unless the condition holds. -/
def demand (holds : Bool) (error : WriteError) : Except WriteError Unit := if holds then .ok () else .error error

/-- `DO UPDATE SET` of each table, of the row that was to be inserted and the one that is stored. -/
def Room.update (excluded old : Room) : Room :=
  { old with
    roomAlias := excluded.roomAlias, minecraftVersion := excluded.minecraftVersion,
    packProfileName := excluded.packProfileName, state := excluded.state, updatedAt := excluded.updatedAt }

def Invite.update (excluded old : Invite) : Invite :=
  { old with state := excluded.state, expiresAt := excluded.expiresAt, revokedAt := excluded.revokedAt }

def Approval.update (excluded old : Approval) : Approval :=
  { old with displayName := excluded.displayName, state := excluded.state, decidedAt := excluded.decidedAt }

def Session.update (excluded old : Session) : Session :=
  { old with state := excluded.state, expiresAt := excluded.expiresAt }

def PresenceRow.update (excluded old : PresenceRow) : PresenceRow :=
  { old with state := excluded.state, lastSeenAt := excluded.lastSeenAt, expiresAt := excluded.expiresAt }

/-- `WHERE` of each update: the columns by which a row is the same thing as before. -/
def Room.same (old excluded : Room) : Bool := old.hostId == excluded.hostId

def Invite.same (old excluded : Invite) : Bool := old.roomId == excluded.roomId && old.token == excluded.token

def Approval.same (old excluded : Approval) : Bool :=
  old.roomId == excluded.roomId && old.inviteId == excluded.inviteId && old.minecraftUuid == excluded.minecraftUuid &&
    old.friendId.getD "" == excluded.friendId.getD ""

def Session.same (old excluded : Session) : Bool :=
  old.roomId == excluded.roomId && old.inviteId == excluded.inviteId && old.requestId == excluded.requestId &&
    old.minecraftUuid == excluded.minecraftUuid &&
    old.sessionCredential.column.getD "" == excluded.sessionCredential.column.getD ""

def PresenceRow.same (old excluded : PresenceRow) : Bool := old.hostId == excluded.hostId

namespace PostgresTables

variable (columns : ColumnTypes) (sha256 : String → String)

/-- The texts and the times of a row fit their columns, and the texts of its `key` are indexed together.  Its state is
a word of the protocol and fits. -/
def rowFits (texts : List (Option String)) (key : List String) (times : List (Option Int)) : Bool :=
  (texts.all fun text => text.all columns.text) && columns.index key && times.all fun time => time.all columns.bigint

def saveRoom (record : Room) (t : PostgresTables) : Except WriteError PostgresTables := do
  demand (record.id != "") (.withoutId "room")
  demand (rowFits columns
    [some record.id, some record.hostId, record.roomAlias, record.minecraftVersion, record.packProfileName]
    [record.id, record.hostId] [some record.createdAt, some record.updatedAt]) .unfit
  let rooms ← saveRow "room" Room.id Room.same Room.update (.ok ()) record t.rooms
  return { t with rooms := rooms }

/-- What a new invite must meet: no other invite has its token, and its room is there. -/
def checkInvite (stored : Invite) (t : PostgresTables) : Except WriteError Unit := do
  demand (!t.invites.any fun invite => invite.token == stored.token) (.duplicateKey "invites_token_hash_key")
  demand (t.rooms.any fun room => room.id == stored.roomId) (.missingParent "invites_room_id_fkey")

def saveInvite (record : Invite) (t : PostgresTables) : Except WriteError PostgresTables := do
  let stored := record.sanitize sha256
  demand (record.id != "") (.withoutId "invite")
  demand (rowFits columns [some stored.id, some stored.roomId, stored.token.column]
    ([stored.id, stored.roomId] ++ stored.token.column.toList)
    [some stored.createdAt, stored.expiresAt, stored.revokedAt]) .unfit
  demand stored.token.column.isSome (.nullValue "token_hash")
  let invites ← saveRow "invite" Invite.id Invite.same Invite.update (checkInvite stored t) stored t.invites
  return { t with invites := invites }

def checkApproval (stored : Approval) (t : PostgresTables) : Except WriteError Unit := do
  demand (t.rooms.any fun room => room.id == stored.roomId) (.missingParent "approval_requests_room_id_fkey")
  demand (t.invites.any fun invite => invite.id == stored.inviteId && invite.roomId == stored.roomId)
    (.missingParent "approval_requests_invite_room_fk")

def saveApproval (record : Approval) (t : PostgresTables) : Except WriteError PostgresTables := do
  demand (record.id != "") (.withoutId "approval")
  demand (rowFits columns
    [some record.id, some record.roomId, some record.inviteId, record.friendId, record.minecraftUuid,
      record.displayName]
    [record.id, record.roomId, record.inviteId] [some record.createdAt, record.decidedAt]) .unfit
  demand record.minecraftUuid.isSome (.nullValue "minecraft_uuid")
  let approvals ←
    saveRow "approval" Approval.id Approval.same Approval.update (checkApproval record t) record t.approvalRequests
  return { t with approvalRequests := approvals }

def checkSession (stored : Session) (t : PostgresTables) : Except WriteError Unit := do
  demand (!t.sessions.any fun session => session.requestId == stored.requestId)
    (.duplicateKey "sessions_request_id_key")
  demand (t.rooms.any fun room => room.id == stored.roomId) (.missingParent "sessions_room_id_fkey")
  demand (t.approvalRequests.any fun approval => approval.id == stored.requestId &&
      approval.roomId == stored.roomId && approval.inviteId == stored.inviteId)
    (.missingParent "sessions_request_room_invite_fk")

def saveSession (record : Session) (t : PostgresTables) : Except WriteError PostgresTables := do
  let stored := record.sanitize sha256
  demand (record.id != "") (.withoutId "session")
  demand (rowFits columns
    [some stored.id, some stored.roomId, some stored.inviteId, some stored.requestId, stored.minecraftUuid,
      stored.sessionCredential.column]
    [stored.id, stored.roomId, stored.inviteId, stored.requestId] [some stored.issuedAt, stored.expiresAt]) .unfit
  demand stored.minecraftUuid.isSome (.nullValue "minecraft_uuid")
  let sessions ← saveRow "session" Session.id Session.same Session.update (checkSession stored t) stored t.sessions
  return { t with sessions := sessions }

def checkPresence (record : PresenceRow) (t : PostgresTables) : Except WriteError Unit :=
  demand (t.rooms.any fun room => room.id == record.roomId && room.hostId == record.hostId)
    (.missingParent "presence_room_host_fk")

def savePresence (record : PresenceRow) (t : PostgresTables) : Except WriteError PostgresTables := do
  demand (record.roomId != "" && record.hostId != "") .withoutRoomAndHost
  demand (rowFits columns [some record.roomId, some record.hostId, some record.state] [record.roomId]
    [some record.lastSeenAt, some record.expiresAt]) .unfit
  let presence ←
    saveRow "presence" PresenceRow.roomId PresenceRow.same PresenceRow.update (checkPresence record t) record t.presence
  return { t with presence := presence }

/-- The texts in the metadata of an event, which are stored as JSON. -/
def metadataTexts : AuditMetadata → List (Option String)
  | .roomCreated version profile => [version, profile]
  | .inviteCreated _ => []
  | .inviteRevoked reason _ => [some reason]
  | .inviteRegenerated revoked _ => [some revoked]
  | .approvalDecided _ _ => []

/-- The id of an event is one that was drawn at random, so the primary key stands for a value drawn twice. -/
def recordAuditEvent (stored : StoredAuditEvent) (t : PostgresTables) : Except WriteError PostgresTables := do
  demand (stored.event.type != "") .withoutType
  demand (rowFits columns
    ([some stored.id, some stored.event.type, some stored.event.actorId, some stored.event.roomId,
      stored.event.inviteId, stored.event.requestId] ++ metadataTexts stored.event.metadata)
    [stored.id, stored.event.type, stored.event.roomId] [some stored.occurredAt]) .unfit
  demand (!t.auditEvents.any fun event => event.id == stored.id) (.duplicateKey "audit_events_pkey")
  return { t with auditEvents := t.auditEvents ++ [stored] }

def incrementRateLimitCounter (now : Int) (request : RateLimitRequest) (t : PostgresTables) :
    Except WriteError (RateLimitAnswer × PostgresTables) :=
  match t.database.incrementRateLimitCounter columns sha256 now request with
  | (.ok answer, db) => .ok (answer, { t with rateLimitCounters := db.rateLimitCounters })
  | (.error error, _) => .error (.counter error)

/-! ### Reads -/

def readRoom (roomId : String) (t : PostgresTables) : Option Room := (select Room.id roomId t.rooms).head?

def readInvite (inviteId : String) (t : PostgresTables) : Option Invite := (select Invite.id inviteId t.invites).head?

def readApproval (approvalId : String) (t : PostgresTables) : Option Approval :=
  (select Approval.id approvalId t.approvalRequests).head?

def readInviteByToken (now : Int) (token : String) (t : PostgresTables) : Reply Invite :=
  if token == "" then failWith .inviteUnavailable
  else
    match (select Invite.token (.hash (hashSensitiveValue sha256 (some token))) t.invites).head? with
    | none => failWith .inviteUnavailable
    | some invite => if isInviteActive invite now then .ok invite else failWith .inviteUnavailable

end PostgresTables

/-! ### Cleaning up -/

namespace PostgresTables

/-- `cleanupExpiredState` on all the columns: what is left is given by the rows that the cleanup leaves. -/
def cleanupExpiredState (now : Int) (t : PostgresTables) : PostgresTables :=
  let sessions := t.sessions.filter fun session => !Database.isExpired now session.expiresAt
  let isAbandoned (invite : Invite) : Bool :=
    Database.isExpired now invite.expiresAt && !sessions.any fun session => session.inviteId == invite.id
  let invites := t.invites.filter isAbandoned
  let isOrphaned (approval : Approval) : Bool :=
    invites.any fun invite => invite.id == approval.inviteId && invite.roomId == approval.roomId
  let approvals := t.approvalRequests.filter isOrphaned
  { t with
    sessions := sessions.filter fun session => !approvals.any fun approval => approval.id == session.requestId &&
      approval.roomId == session.roomId && approval.inviteId == session.inviteId
    invites := t.invites.filter fun invite => !isAbandoned invite
    approvalRequests := t.approvalRequests.filter fun approval => !isOrphaned approval
    presence := t.presence.filter fun row => !decide (row.expiresAt ≤ now)
    rateLimitCounters := t.rateLimitCounters.filter fun row => !decide (row.resetAt ≤ now) }

end PostgresTables

/-! ### Transactions -/

/-- A write of a transaction. -/
inductive Write
  | saveRoom (record : Room)
  | saveInvite (record : Invite)
  | saveApproval (record : Approval)
  | saveSession (record : Session)
  | savePresence (record : PresenceRow)
  | incrementRateLimitCounter (now : Int) (request : RateLimitRequest)
  | recordAuditEvent (stored : StoredAuditEvent)
  deriving DecidableEq, Repr

def Write.apply (columns : ColumnTypes) (sha256 : String → String) (t : PostgresTables) :
    Write → Except WriteError PostgresTables
  | .saveRoom record => t.saveRoom columns record
  | .saveInvite record => t.saveInvite columns sha256 record
  | .saveApproval record => t.saveApproval columns record
  | .saveSession record => t.saveSession columns sha256 record
  | .savePresence record => t.savePresence columns record
  | .incrementRateLimitCounter now request => (t.incrementRateLimitCounter columns sha256 now request).map Prod.snd
  | .recordAuditEvent stored => t.recordAuditEvent columns stored

/-- The writes of a transaction (`withPgTransaction`): committed together, or rolled back when one of them throws. -/
def commit (columns : ColumnTypes) (sha256 : String → String) (t : PostgresTables) (writes : List Write) :
    Except WriteError PostgresTables :=
  writes.foldlM (Write.apply columns sha256) t

/-- What the repository is used for: transactions of any writes, and cleanups. -/
inductive PostgresInput
  | transaction (writes : List Write)
  | cleanup (now : Int)
  deriving DecidableEq, Repr

def PostgresTables.step (columns : ColumnTypes) (sha256 : String → String) (t : PostgresTables) :
    PostgresInput → Option WriteError × PostgresTables
  | .transaction writes =>
    match commit columns sha256 t writes with
    | .ok t' => (none, t')
    | .error error => (some error, t)
  | .cleanup now => (none, t.cleanupExpiredState now)

end EasyMc.ControlPlane
