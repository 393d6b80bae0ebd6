import EasyMc.Library.Expiry
import EasyMc.Library.Machine
import EasyMc.Library.Tables
import EasyMc.ControlPlane.MemoryStore

/-!
# The Postgres repository (`services/control-plane/src/persistence/postgres`)

The tables of `schema.sql` as lists of rows, and the calls of `repository.mjs` that read what expires, count for the
rate limits and clean up.  Of a row the columns are kept that are read, compared or referred to.  A column type is
given by the values it holds: the integers of Postgres are bounded, and its texts are without U+0000
(`postgresColumns`).  A `String` has no lone surrogates.  The ids that the reads of this module are asked for are
without U+0000, and so are the scopes that are counted over `unboundedColumns`.
-/

namespace EasyMc.ControlPlane

/-! ### Tables -/

structure RoomRow where
  id : String
  hostId : String
  deriving DecidableEq, Repr

structure InviteRow where
  id : String
  roomId : String
  tokenHash : String
  state : String
  createdAt : Int
  expiresAt : Option Int
  revokedAt : Option Int
  deriving DecidableEq, Repr

structure ApprovalRequestRow where
  id : String
  roomId : String
  inviteId : String
  deriving DecidableEq, Repr

structure SessionRow where
  id : String
  roomId : String
  inviteId : String
  requestId : String
  minecraftUuid : String
  sessionCredentialHash : Option String
  state : String
  issuedAt : Int
  expiresAt : Option Int
  deriving DecidableEq, Repr

structure PresenceRow where
  roomId : String
  hostId : String
  state : String
  lastSeenAt : Int
  expiresAt : Int
  deriving DecidableEq, Repr

structure RateLimitCounterRow where
  id : String
  scope : String
  signalHash : String
  count : Int
  limitValue : Int
  windowMs : Int
  resetAt : Int
  updatedAt : Int
  deriving DecidableEq, Repr

structure Database where
  rooms : List RoomRow
  invites : List InviteRow
  approvalRequests : List ApprovalRequestRow
  sessions : List SessionRow
  presence : List PresenceRow
  rateLimitCounters : List RateLimitCounterRow

/-- The keys that foreign keys refer to, and the columns that refer to them. -/
def RoomRow.idHost (row : RoomRow) : String × String := (row.id, row.hostId)

def InviteRow.idRoom (row : InviteRow) : String × String := (row.id, row.roomId)

def ApprovalRequestRow.inviteRoom (row : ApprovalRequestRow) : String × String := (row.inviteId, row.roomId)

def ApprovalRequestRow.idRoomInvite (row : ApprovalRequestRow) : String × String × String :=
  (row.id, row.roomId, row.inviteId)

def SessionRow.requestRoomInvite (row : SessionRow) : String × String × String :=
  (row.requestId, row.roomId, row.inviteId)

def PresenceRow.roomHost (row : PresenceRow) : String × String := (row.roomId, row.hostId)

def RateLimitCounterRow.scopeSignal (row : RateLimitCounterRow) : String × String := (row.scope, row.signalHash)

open Relational (UniqueOn References select upsert cascade refersTo)

/-- The constraints of `schema.sql`. -/
structure Schema (db : Database) : Prop where
  rooms_id : UniqueOn RoomRow.id db.rooms
  rooms_idHost : UniqueOn RoomRow.idHost db.rooms
  invites_id : UniqueOn InviteRow.id db.invites
  invites_tokenHash : UniqueOn InviteRow.tokenHash db.invites
  invites_idRoom : UniqueOn InviteRow.idRoom db.invites
  invites_room : References InviteRow.roomId RoomRow.id db.invites db.rooms
  approvals_id : UniqueOn ApprovalRequestRow.id db.approvalRequests
  approvals_idRoomInvite : UniqueOn ApprovalRequestRow.idRoomInvite db.approvalRequests
  approvals_room : References ApprovalRequestRow.roomId RoomRow.id db.approvalRequests db.rooms
  approvals_invite : References ApprovalRequestRow.inviteRoom InviteRow.idRoom db.approvalRequests db.invites
  sessions_id : UniqueOn SessionRow.id db.sessions
  sessions_request : UniqueOn SessionRow.requestId db.sessions
  sessions_room : References SessionRow.roomId RoomRow.id db.sessions db.rooms
  sessions_approval : References SessionRow.requestRoomInvite ApprovalRequestRow.idRoomInvite db.sessions
    db.approvalRequests
  presence_room : UniqueOn PresenceRow.roomId db.presence
  presence_roomHost : References PresenceRow.roomHost RoomRow.idHost db.presence db.rooms
  counters_id : UniqueOn RateLimitCounterRow.id db.rateLimitCounters
  counters_scopeSignal : UniqueOn RateLimitCounterRow.scopeSignal db.rateLimitCounters

/-- Times of expiry are positive. -/
structure PositiveTimestamps (db : Database) : Prop where
  invites : ∀ invite ∈ db.invites, ∀ expiresAt, invite.expiresAt = some expiresAt → 0 < expiresAt
  sessions : ∀ session ∈ db.sessions, ∀ expiresAt, session.expiresAt = some expiresAt → 0 < expiresAt

/-! ### Reads -/

/-- `!expiresAt || expiresAt > now`, where `0` counts as no time. -/
def isOpenAt (now : Int) (expiresAt : Option Int) : Bool :=
  match expiresAt with
  | none => true
  | some expiresAt => expiresAt == 0 || now < expiresAt

def InviteRow.isInviteUsable (now : Int) (invite : InviteRow) : Bool :=
  invite.state == "active" && isOpenAt now invite.expiresAt

def SessionRow.isSessionUsable (now : Int) (session : SessionRow) : Bool :=
  session.state == "issued" && isOpenAt now session.expiresAt

namespace Database

/-- `selectInviteBy("tokenHash", tokenHash)`. -/
def selectInviteByTokenHash (tokenHash : String) (db : Database) : Option InviteRow :=
  (select InviteRow.tokenHash tokenHash db.invites).head?

def readInviteByToken (sha256 : String → String) (now : Int) (token : String) (db : Database) : Reply InviteRow :=
  if token == "" then failWith .inviteUnavailable
  else
    match db.selectInviteByTokenHash (hashSensitiveValue sha256 (some token)) with
    | none => failWith .inviteUnavailable
    | some invite => if invite.isInviteUsable now then .ok invite else failWith .inviteUnavailable

def readSession (now : Int) (sessionId : String) (db : Database) : Reply SessionRow :=
  match (select SessionRow.id sessionId db.sessions).head? with
  | none => failWith .sessionUnavailable
  | some session => if session.isSessionUsable now then .ok session else failWith .sessionUnavailable

def readPresence (now : Int) (roomId : String) (db : Database) : Reply PresenceRow :=
  match ((select PresenceRow.roomId roomId db.presence).filter fun row => now < row.expiresAt).head? with
  | none => failWith .roomClosed
  | some presence => .ok presence

end Database

/-! ### Rate limits -/

/-- The values that the column types hold, and the texts that fit in the indexes of a row. -/
structure ColumnTypes where
  integer : Int → Bool
  bigint : Int → Bool
  text : String → Bool
  index : List String → Bool

/-- Those of Postgres, for keys that are short enough to be indexed. -/
def postgresColumns : ColumnTypes where
  integer n := -2 ^ 31 ≤ n && n < 2 ^ 31
  bigint n := -2 ^ 63 ≤ n && n < 2 ^ 63
  text s := !s.toList.contains '\x00'
  index _ := true

def unboundedColumns : ColumnTypes := ⟨fun _ => true, fun _ => true, fun _ => true, fun _ => true⟩

/-- Why a call of the repository throws: refused arguments, a value that does not fit its column, or an id that is in
use. -/
inductive RepositoryError
  | typeError (message : String)
  | unfit
  | duplicateId
  deriving DecidableEq, Repr

/-- The message for arguments that are refused. -/
def rateLimitRefusal : String := "rate limit counters require scope, signal, positive integer limit, and windowMs"

/-- What `incrementRateLimitCounter` returns. -/
structure RateLimitAnswer where
  outcome : Reply Unit
  scope : String
  signalHash : String
  count : Int
  limit : Int
  remaining : Int
  resetAt : Int
  deriving DecidableEq, Repr

/-- `${scope}:${signalHash}`. -/
def counterId (sha256 : String → String) (scope signal : String) : String :=
  scope ++ ":" ++ hashSensitiveValue sha256 (some signal)

/-- The row that is to be inserted for a request. -/
def newCounter (sha256 : String → String) (now : Int) (request : RateLimitRequest) : RateLimitCounterRow :=
  { id := counterId sha256 request.scope request.signal, scope := request.scope,
    signalHash := hashSensitiveValue sha256 (some request.signal), count := 1, limitValue := request.limit,
    windowMs := request.windowMs, resetAt := now + request.windowMs, updatedAt := now }

/-- The digest of `a`, for runs in which no other signal or token is used. -/
def digestOfA (_ : String) : String := "ca978112ca1bbdcafac231b39a23dc4da786eff8147c4e72b9807785afee48bb"

theorem length_digestOfA (text : String) : (digestOfA text).length = 64 := by
  have hlength : (digestOfA "a").length = 64 := by decide
  exact hlength

/-- `DO UPDATE SET` of the counter that is stored, with `excluded` as the row that was to be inserted. -/
def RateLimitCounterRow.update (excluded old : RateLimitCounterRow) : RateLimitCounterRow :=
  { old with
    count := if old.resetAt ≤ excluded.updatedAt then 1 else old.count + 1
    limitValue := excluded.limitValue
    windowMs := excluded.windowMs
    resetAt := if old.resetAt ≤ excluded.updatedAt then excluded.resetAt else old.resetAt
    updatedAt := excluded.updatedAt }

/-- The values of a row that is to be inserted fit their columns. -/
def ColumnTypes.fits (columns : ColumnTypes) (excluded : RateLimitCounterRow) : Bool :=
  columns.integer excluded.count && columns.integer excluded.limitValue && columns.integer excluded.windowMs &&
    columns.bigint excluded.resetAt && columns.bigint excluded.updatedAt &&
    [excluded.id, excluded.scope, excluded.signalHash].all columns.text &&
    columns.index [excluded.id, excluded.scope, excluded.signalHash]

/-- The insert of a counter, with the row that it returns. -/
def upsertCounter (columns : ColumnTypes) (excluded : RateLimitCounterRow) (rows : List RateLimitCounterRow) :
    Except RepositoryError (RateLimitCounterRow × List RateLimitCounterRow) :=
  if !columns.fits excluded then .error .unfit
  else
    match (select RateLimitCounterRow.scopeSignal excluded.scopeSignal rows).head? with
    | some old =>
      if !columns.integer (excluded.update old).count then .error .unfit
      else .ok (excluded.update old, upsert RateLimitCounterRow.scopeSignal excluded excluded.update rows)
    | none =>
      -- `ON CONFLICT` names the other key, so a row with the same id is an error.
      if rows.any fun row => row.id == excluded.id then .error .duplicateId
      else .ok (excluded, upsert RateLimitCounterRow.scopeSignal excluded excluded.update rows)

namespace Database

def incrementRateLimitCounter (columns : ColumnTypes) (sha256 : String → String) (now : Int)
    (request : RateLimitRequest) (db : Database) : Except RepositoryError RateLimitAnswer × Database :=
  if request.scope == "" || request.signal == "" || request.limit < 1 || request.windowMs < 1 then
    (.error (.typeError rateLimitRefusal), db)
  else
    let signalHash := hashSensitiveValue sha256 (some request.signal)
    match upsertCounter columns (newCounter sha256 now request) db.rateLimitCounters with
    | .error error => (.error error, db)
    | .ok (stored, rows) =>
      let outcome : Reply Unit := if stored.count > request.limit then failWith .rateLimited else .ok ()
      (.ok { outcome := outcome, scope := request.scope, signalHash := signalHash, count := stored.count,
             limit := request.limit, remaining := max (request.limit - stored.count) 0, resetAt := stored.resetAt },
        { db with rateLimitCounters := rows })

/-! ### Cleaning up -/

/-- The rows that each statement of a cleanup deletes by itself. -/
structure Cleaned where
  sessions : Nat
  invites : Nat
  presence : Nat
  rateLimits : Nat
  deriving DecidableEq, Repr

/-- `DELETE FROM invites`, with the approvals that refer to them and the sessions that refer to those. -/
def deleteInvites (p : InviteRow → Bool) (db : Database) : Database :=
  let invites := db.invites.filter p
  let approvals := db.approvalRequests.filter (refersTo ApprovalRequestRow.inviteRoom InviteRow.idRoom invites)
  { db with
    invites := db.invites.filter fun invite => !p invite
    approvalRequests := cascade ApprovalRequestRow.inviteRoom InviteRow.idRoom invites db.approvalRequests
    sessions := cascade SessionRow.requestRoomInvite ApprovalRequestRow.idRoomInvite approvals db.sessions }

/-- `expires_at IS NOT NULL AND expires_at <= now`. -/
def isExpired (now : Int) (expiresAt : Option Int) : Bool := expiresAt.any fun expiresAt => decide (expiresAt ≤ now)

/-- The invites that a cleanup deletes once the expired sessions are gone. -/
def isAbandoned (now : Int) (sessions : List SessionRow) (invite : InviteRow) : Bool :=
  isExpired now invite.expiresAt && !sessions.any fun session => session.inviteId == invite.id

def cleanupExpiredState (now : Int) (db : Database) : Cleaned × Database :=
  let sessions := db.sessions.filter fun session => isExpired now session.expiresAt
  let db := { db with sessions := db.sessions.filter fun session => !isExpired now session.expiresAt }
  let invites := db.invites.filter (isAbandoned now db.sessions)
  let db := db.deleteInvites (isAbandoned now db.sessions)
  let presence := db.presence.filter fun row => row.expiresAt ≤ now
  let rateLimits := db.rateLimitCounters.filter fun row => row.resetAt ≤ now
  ({ sessions := sessions.length, invites := invites.length, presence := presence.length,
     rateLimits := rateLimits.length },
    { db with
      presence := db.presence.filter fun row => !decide (row.expiresAt ≤ now)
      rateLimitCounters := db.rateLimitCounters.filter fun row => !decide (row.resetAt ≤ now) })

end Database

/-! ### Runs -/

inductive RepositoryRequest
  | readInviteByToken (token : String)
  | readSession (sessionId : String)
  | readPresence (roomId : String)
  | incrementRateLimitCounter (request : RateLimitRequest)
  | cleanupExpiredState
  deriving DecidableEq, Repr

inductive RepositoryResult
  | invite (reply : Reply InviteRow)
  | session (reply : Reply SessionRow)
  | presence (reply : Reply PresenceRow)
  | counted (result : Except RepositoryError RateLimitAnswer)
  | cleaned (deleted : Database.Cleaned)

/-- A request at the time the clock shows. -/
structure RepositoryCall where
  now : Int
  request : RepositoryRequest
  deriving DecidableEq, Repr

def RepositoryCall.isCleanup (call : RepositoryCall) : Bool := call.request == .cleanupExpiredState

def Database.step (columns : ColumnTypes) (sha256 : String → String) (db : Database) (call : RepositoryCall) :
    RepositoryResult × Database :=
  match call.request with
  | .readInviteByToken token => (.invite (db.readInviteByToken sha256 call.now token), db)
  | .readSession sessionId => (.session (db.readSession call.now sessionId), db)
  | .readPresence roomId => (.presence (db.readPresence call.now roomId), db)
  | .incrementRateLimitCounter request =>
    let (result, db) := db.incrementRateLimitCounter columns sha256 call.now request
    (.counted result, db)
  | .cleanupExpiredState =>
    let (deleted, db) := db.cleanupExpiredState call.now
    (.cleaned deleted, db)

/-- What the calls of a run return, without the cleanups. -/
def Database.results (columns : ColumnTypes) (sha256 : String → String) (db : Database)
    (calls : List RepositoryCall) : List RepositoryResult :=
  ((Machine.trace (Database.step columns sha256) db calls).filter fun fired => !fired.input.isCleanup).map
    Machine.Fired.output

/-! ### Counting in windows -/

/-- How often a signal was counted, and when the count starts again. -/
structure Window where
  count : Int
  resetAt : Int
  deriving DecidableEq, Repr

/-- A window lives until its reset. -/
abbrev Window.lifetime : Lifetime Int Window := .before Window.resetAt

/-- The window after one more is counted: the current one while it lives, else a new one. -/
def Window.next (now windowMs : Int) (current : Option Window) : Window :=
  match current.filter (Window.lifetime.live now) with
  | some window => { window with count := window.count + 1 }
  | none => ⟨1, now + windowMs⟩

def RateLimitCounterRow.window (row : RateLimitCounterRow) : Window := ⟨row.count, row.resetAt⟩

/-- What a request is told when its window is `window`. -/
def answerOf (sha256 : String → String) (request : RateLimitRequest) (window : Window) : RateLimitAnswer :=
  { outcome := if window.count > request.limit then failWith .rateLimited else .ok (), scope := request.scope,
    signalHash := hashSensitiveValue sha256 (some request.signal), count := window.count, limit := request.limit,
    remaining := max (request.limit - window.count) 0, resetAt := window.resetAt }

/-- The scope and the hashed signal that a request is counted under. -/
def RateLimitRequest.scopeSignal (sha256 : String → String) (request : RateLimitRequest) : String × String :=
  (request.scope, hashSensitiveValue sha256 (some request.signal))

/-- The arguments are not refused. -/
def RateLimitRequest.isValid (request : RateLimitRequest) : Bool :=
  !(request.scope == "" || request.signal == "" || request.limit < 1 || request.windowMs < 1)

/-- The windows stored under a scope and a hashed signal, of which there is at most one. -/
def Database.windows (scopeSignal : String × String) (db : Database) : List Window :=
  (select RateLimitCounterRow.scopeSignal scopeSignal db.rateLimitCounters).map RateLimitCounterRow.window

/-- No counter has the id of another scope and signal. -/
def OwnIds (sha256 : String → String) (db : Database) : Prop :=
  ∀ row ∈ db.rateLimitCounters, ∀ scope signal, row.id = counterId sha256 scope signal →
    row.scopeSignal = (scope, hashSensitiveValue sha256 (some signal))

/-- The keys of the counters: no two have the same, and ids are their own. -/
structure CountersKeyed (sha256 : String → String) (db : Database) : Prop where
  scopeSignal : UniqueOn RateLimitCounterRow.scopeSignal db.rateLimitCounters
  id : UniqueOn RateLimitCounterRow.id db.rateLimitCounters
  ownIds : OwnIds sha256 db

variable {columns : ColumnTypes} {sha256 : String → String}

/-- A digest has 64 characters, so what stands before it can be read off. -/
theorem counterId_inj (hdigest : ∀ text, (sha256 text).length = 64) {scope scope' signal signal' : String}
    (h : counterId sha256 scope signal = counterId sha256 scope' signal') :
    scope = scope' ∧ hashSensitiveValue sha256 (some signal) = hashSensitiveValue sha256 (some signal') := by
  have hlist := congrArg String.toList h
  simp only [counterId, String.toList_append] at hlist
  have hlength : (hashSensitiveValue sha256 (some signal)).toList.length =
      (hashSensitiveValue sha256 (some signal')).toList.length := by
    simp only [String.length_toList, hashSensitiveValue, hdigest]
  obtain ⟨hscope, hhash⟩ := List.append_inj' hlist hlength
  exact ⟨String.toList_inj.1 (List.append_cancel_right hscope), String.toList_inj.1 hhash⟩

/-- Ids tell the scope and the hashed signal they were made of. -/
def ReadableIds (sha256 : String → String) : Prop := ∀ scope scope' signal signal',
  counterId sha256 scope signal = counterId sha256 scope' signal' →
    scope = scope' ∧ hashSensitiveValue sha256 (some signal) = hashSensitiveValue sha256 (some signal')

@[simp] theorem update_scopeSignal (excluded old : RateLimitCounterRow) :
    (excluded.update old).scopeSignal = old.scopeSignal := rfl

@[simp] theorem update_id (excluded old : RateLimitCounterRow) : (excluded.update old).id = old.id := rfl

theorem Window.next_some (now windowMs : Int) (window : Window) :
    Window.next now windowMs (some window) =
      if window.resetAt ≤ now then ⟨1, now + windowMs⟩ else { window with count := window.count + 1 } := by
  unfold Window.next
  by_cases h : window.resetAt ≤ now
  · have hdead : ¬ Window.lifetime.live now window = true := by simpa [Lifetime.before] using h
    rw [Option.filter_some, if_neg hdead, if_pos h]
  · have hlive : Window.lifetime.live now window = true := by simpa [Lifetime.before] using h
    rw [Option.filter_some, if_pos hlive, if_neg h]

theorem update_window (now : Int) (request : RateLimitRequest) (old : RateLimitCounterRow) :
    ((newCounter sha256 now request).update old).window = Window.next now request.windowMs (some old.window) := by
  rw [Window.next_some]
  unfold RateLimitCounterRow.window RateLimitCounterRow.update newCounter
  dsimp only
  split <;> rfl

/-- The values that counting at `now` stores fit their columns. -/
def ColumnTypes.counts (columns : ColumnTypes) (sha256 : String → String) (now : Int) (request : RateLimitRequest)
    (current : Option Window) : Bool :=
  columns.fits (newCounter sha256 now request) && columns.integer (Window.next now request.windowMs current).count

/-- An insert fails because a value does not fit, or counts one more in the window of its key. -/
theorem upsertCounter_spec (columns : ColumnTypes) {db : Database} (hdb : CountersKeyed sha256 db) (now : Int)
    (request : RateLimitRequest) :
    let current := (db.windows (request.scopeSignal sha256)).head?
    let excluded := newCounter sha256 now request
    (columns.counts sha256 now request current = false ∧
        upsertCounter columns excluded db.rateLimitCounters = .error .unfit) ∨
      (columns.counts sha256 now request current = true ∧
        ∃ stored, stored.window = Window.next now request.windowMs current ∧
          upsertCounter columns excluded db.rateLimitCounters =
            .ok (stored, upsert RateLimitCounterRow.scopeSignal excluded excluded.update db.rateLimitCounters)) := by
  intro current excluded
  have hcurrent : current =
      (select RateLimitCounterRow.scopeSignal excluded.scopeSignal db.rateLimitCounters).head?.map
        RateLimitCounterRow.window := List.head?_map
  unfold upsertCounter ColumnTypes.counts
  cases hfits : columns.fits excluded with
  | false => exact .inl ⟨rfl, rfl⟩
  | true =>
    rw [hcurrent]
    cases hold : (select RateLimitCounterRow.scopeSignal excluded.scopeSignal db.rateLimitCounters).head? with
    | some old =>
      have hwindow : (excluded.update old).window = Window.next now request.windowMs (some old.window) :=
        update_window now request old
      have hcount : (excluded.update old).count = (Window.next now request.windowMs (some old.window)).count :=
        congrArg Window.count hwindow
      dsimp only [Option.map_some]
      rw [hcount]
      cases hinteger : columns.integer (Window.next now request.windowMs (some old.window)).count with
      | false => exact .inl ⟨rfl, rfl⟩
      | true => exact .inr ⟨rfl, excluded.update old, hwindow, rfl⟩
    | none =>
      have hinteger : columns.integer 1 = true := by
        simp only [ColumnTypes.fits, Bool.and_eq_true] at hfits
        exact hfits.1.1.1.1.1.1
      -- No row has the key, and a row with the id would have it.
      have hfree : (db.rateLimitCounters.any fun row => row.id == excluded.id) = false := by
        rw [List.any_eq_false]
        intro row hrow hid
        have hid : row.id = excluded.id := by simpa using hid
        have hkey := hdb.ownIds row hrow request.scope request.signal hid
        have hmem : row ∈ select RateLimitCounterRow.scopeSignal excluded.scopeSignal db.rateLimitCounters :=
          Relational.mem_select.2 ⟨hrow, hkey⟩
        rw [List.head?_eq_none_iff.1 hold] at hmem
        cases hmem
      refine .inr ⟨by simpa [Window.next] using hinteger, excluded, rfl, ?_⟩
      dsimp only
      rw [hfree]
      rfl

theorem windows_length_le {db : Database} (hdb : CountersKeyed sha256 db) (scopeSignal : String × String) :
    (db.windows scopeSignal).length ≤ 1 := by
  unfold Database.windows
  rw [List.length_map]
  exact hdb.scopeSignal.length_select_le scopeSignal

/-- What counting changes: the window of its key. -/
theorem windows_upsert {db : Database} (hdb : CountersKeyed sha256 db) (now : Int) (request : RateLimitRequest)
    (scopeSignal : String × String) :
    let excluded := newCounter sha256 now request
    (select RateLimitCounterRow.scopeSignal scopeSignal
        (upsert RateLimitCounterRow.scopeSignal excluded excluded.update db.rateLimitCounters)).map
          RateLimitCounterRow.window =
      if request.scopeSignal sha256 = scopeSignal then
        [Window.next now request.windowMs (db.windows (request.scopeSignal sha256)).head?]
      else db.windows scopeSignal := by
  intro excluded
  have hkey : excluded.scopeSignal = request.scopeSignal sha256 := rfl
  rw [Relational.select_upsert (update_scopeSignal excluded), hkey]
  by_cases h : request.scopeSignal sha256 = scopeSignal
  · subst h
    rw [if_pos rfl, if_pos rfl]
    have hlength := hdb.scopeSignal.length_select_le (request.scopeSignal sha256)
    unfold Database.windows
    match hrows : select RateLimitCounterRow.scopeSignal (request.scopeSignal sha256) db.rateLimitCounters with
    | [] => rfl
    | [old] =>
      rw [if_neg (by simp)]
      exact congrArg (fun window => [window]) (update_window now request old)
    | _ :: _ :: _ =>
      rw [hrows] at hlength
      simp at hlength
  · rw [if_neg h, if_neg h]
    rfl

/-- Counting keeps the keys of the counters apart. -/
theorem CountersKeyed.upsert (hreadable : ReadableIds sha256) {db : Database}
    (hdb : CountersKeyed sha256 db) (now : Int) (request : RateLimitRequest) :
    CountersKeyed sha256
      { db with
        rateLimitCounters :=
          Relational.upsert RateLimitCounterRow.scopeSignal (newCounter sha256 now request)
            (newCounter sha256 now request).update db.rateLimitCounters } := by
  unfold Relational.upsert
  split
  · have hkeep : ∀ row : RateLimitCounterRow,
        let row' := if row.scopeSignal = (newCounter sha256 now request).scopeSignal then
          (newCounter sha256 now request).update row else row
        row'.id = row.id ∧ row'.scopeSignal = row.scopeSignal := by
      intro row
      dsimp only
      split <;> exact ⟨rfl, rfl⟩
    refine ⟨hdb.scopeSignal.map fun row _ => (hkeep row).2, hdb.id.map fun row _ => (hkeep row).1, ?_⟩
    intro row hrow scope signal hid
    obtain ⟨old, hold, rfl⟩ := List.mem_map.1 hrow
    rw [(hkeep old).1] at hid
    rw [(hkeep old).2]
    exact hdb.ownIds old hold scope signal hid
  · rename_i hnew
    have hkeys : ∀ row ∈ db.rateLimitCounters,
        row.scopeSignal ≠ (newCounter sha256 now request).scopeSignal := by
      intro row hrow hkey
      exact hnew (List.any_eq_true.2 ⟨row, hrow, decide_eq_true hkey⟩)
    have hids : ∀ row ∈ db.rateLimitCounters, row.id ≠ (newCounter sha256 now request).id := by
      intro row hrow hid
      exact hkeys row hrow (hdb.ownIds row hrow request.scope request.signal hid)
    refine ⟨hdb.scopeSignal.append hkeys, hdb.id.append hids, ?_⟩
    intro row hrow scope signal hid
    rcases List.mem_append.1 hrow with hrow | hrow
    · exact hdb.ownIds row hrow scope signal hid
    · obtain rfl := List.mem_singleton.1 hrow
      obtain ⟨hscope, hhash⟩ := hreadable _ _ _ _ hid
      exact Prod.ext hscope hhash

/-- What a call that counts returns and stores: refused arguments and values that do not fit leave everything as it is,
and otherwise one more is counted in the window of its scope and signal. -/
inductive Counts (columns : ColumnTypes) (sha256 : String → String) (now : Int) (request : RateLimitRequest)
    (db : Database) : Except RepositoryError RateLimitAnswer × Database → Prop
  | refused (hvalid : request.isValid = false) :
      Counts columns sha256 now request db (.error (.typeError rateLimitRefusal), db)
  | unfit (hvalid : request.isValid = true)
      (hcounts : columns.counts sha256 now request (db.windows (request.scopeSignal sha256)).head? = false) :
      Counts columns sha256 now request db (.error .unfit, db)
  | counted (hvalid : request.isValid = true)
      (hcounts : columns.counts sha256 now request (db.windows (request.scopeSignal sha256)).head? = true)
      (rows : List RateLimitCounterRow)
      (hrows : ∀ scopeSignal, ({ db with rateLimitCounters := rows } : Database).windows scopeSignal =
        if request.scopeSignal sha256 = scopeSignal then
          [Window.next now request.windowMs (db.windows (request.scopeSignal sha256)).head?]
        else db.windows scopeSignal)
      (hkeyed : CountersKeyed sha256 { db with rateLimitCounters := rows }) :
      Counts columns sha256 now request db
        (.ok (answerOf sha256 request
            (Window.next now request.windowMs (db.windows (request.scopeSignal sha256)).head?)),
          { db with rateLimitCounters := rows })

theorem counts_of_readableIds (columns : ColumnTypes) (hreadable : ReadableIds sha256) {db : Database}
    (hdb : CountersKeyed sha256 db) (now : Int) (request : RateLimitRequest) :
    Counts columns sha256 now request db (db.incrementRateLimitCounter columns sha256 now request) := by
  unfold Database.incrementRateLimitCounter
  split
  · rename_i hinvalid
    apply Counts.refused
    unfold RateLimitRequest.isValid
    rw [hinvalid]
    rfl
  · rename_i hvalid
    have hvalid : request.isValid = true := by
      unfold RateLimitRequest.isValid
      simpa using hvalid
    dsimp only
    rcases upsertCounter_spec columns hdb now request with
      ⟨hcounts, herror⟩ | ⟨hcounts, stored, hwindow, hok⟩
    · rw [herror]
      exact .unfit hvalid hcounts
    · rw [hok]
      have hcount : stored.count = _ := congrArg Window.count hwindow
      have hreset : stored.resetAt = _ := congrArg Window.resetAt hwindow
      dsimp only
      rw [hcount, hreset]
      exact .counted hvalid hcounts _ (windows_upsert hdb now request) (hdb.upsert hreadable now request)

theorem incrementRateLimitCounter_counts (columns : ColumnTypes) (hdigest : ∀ text, (sha256 text).length = 64)
    {db : Database} (hdb : CountersKeyed sha256 db) (now : Int) (request : RateLimitRequest) :
    Counts columns sha256 now request db (db.incrementRateLimitCounter columns sha256 now request) :=
  counts_of_readableIds columns (fun _ _ _ _ => counterId_inj hdigest) hdb now request

end EasyMc.ControlPlane
