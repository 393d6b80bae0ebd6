import EasyMc.Library.JsMap
import EasyMc.ControlPlane.RoomService

/-!
# The memory store (`services/control-plane/src/persistence/memory-store.mjs`)

`createMemoryControlPlaneStore` as functions on its maps, and the room service over it.  A `World` is a store and
the number of calls answered so far, its moment; the clock, the id generators and the hooks of an `Environment`
answer by moment, so an environment stands for every nondecreasing clock, every supply of fresh ids and tokens
and every behaviour of the hooks.
-/

namespace EasyMc.ControlPlane

open Await (Prog)

structure RateLimitCounter where
  id : String
  scope : String
  signalHash : String
  count : Nat
  limit : Int
  windowMs : Int
  resetAt : Int
  updatedAt : Int
  deriving DecidableEq, Repr

structure MemoryStore where
  rooms : JsMap String Room
  invites : JsMap String Invite
  inviteTokenIndex : JsMap String String
  approvals : JsMap String Approval
  sessions : JsMap String Session
  rateLimits : JsMap String RateLimitCounter
  auditEvents : List StoredAuditEvent

def createMemoryControlPlaneStore : MemoryStore :=
  { rooms := .empty, invites := .empty, inviteTokenIndex := .empty, approvals := .empty, sessions := .empty,
    rateLimits := .empty, auditEvents := [] }

/-- What the service and the store are given: a nondecreasing clock, a digest, and generators whose values are
never repeated. -/
structure Environment where
  options : ServiceOptions
  clock : Nat → Int
  sha256 : String → String
  roomId : Nat → String
  inviteId : Nat → String
  approvalId : Nat → String
  sessionId : Nat → String
  auditId : Nat → String
  createInviteToken : Nat → String
  checkRoomQuota : Nat → RoomQuotaContext → HookResult
  checkSessionQuota : Nat → SessionQuotaContext → HookResult
  clock_mono : ∀ ⦃m n : Nat⦄, m ≤ n → clock m ≤ clock n
  roomId_fresh : Function.Injective roomId
  inviteId_fresh : Function.Injective inviteId
  approvalId_fresh : Function.Injective approvalId
  sessionId_fresh : Function.Injective sessionId
  tokenHash_fresh : Function.Injective fun n => sha256 (createInviteToken n)

/-- `hashSensitiveValue`: the digest of `String(value)`. -/
def hashSensitiveValue (sha256 : String → String) (value : Option String) : String :=
  sha256 (value.getD "undefined")

/-- `sanitizeRecord` on the only sensitive keys of the stored records, `token` and `sessionCredential`. -/
def Secret.sanitize (sha256 : String → String) : Secret → Secret
  | .raw value => .hash (hashSensitiveValue sha256 value)
  | .hash digest => .hash digest
  | .absent => .absent

def Invite.sanitize (sha256 : String → String) (invite : Invite) : Invite :=
  { invite with token := invite.token.sanitize sha256 }

def Session.sanitize (sha256 : String → String) (session : Session) : Session :=
  { session with sessionCredential := session.sessionCredential.sanitize sha256 }

namespace MemoryStore

def saveRoom (store : MemoryStore) (record : Room) : MemoryStore :=
  { store with rooms := store.rooms.set record.id record }

/-- The index entry is written under the hash that sanitizing left in the record, if it is not empty. -/
def saveInvite (sha256 : String → String) (store : MemoryStore) (record : Invite) : MemoryStore :=
  let stored := record.sanitize sha256
  { store with
    inviteTokenIndex :=
      match stored.token with
      | .hash digest => if digest = "" then store.inviteTokenIndex else store.inviteTokenIndex.set digest stored.id
      | _ => store.inviteTokenIndex
    invites := store.invites.set stored.id stored }

def isInviteUsable (invite : Invite) (now : Int) : Bool := isInviteActive invite now

def readInviteByToken (sha256 : String → String) (now : Int) (store : MemoryStore) (token : String) :
    Reply Invite :=
  if token == "" then
    failWith .inviteUnavailable
  else
    match store.inviteTokenIndex.get (hashSensitiveValue sha256 (some token)) with
    | none => failWith .inviteUnavailable
    | some inviteId =>
      match store.invites.get inviteId with
      | none => failWith .inviteUnavailable
      | some invite => if isInviteUsable invite now then .ok invite else failWith .inviteUnavailable

def saveApproval (store : MemoryStore) (record : Approval) : MemoryStore :=
  { store with approvals := store.approvals.set record.id record }

def saveSession (sha256 : String → String) (store : MemoryStore) (record : Session) : MemoryStore :=
  { store with sessions := store.sessions.set record.id (record.sanitize sha256) }

/-- The counter of `request` at `now`: the stored one, or a new one once its window has passed. -/
def currentCounter (sha256 : String → String) (now : Int) (store : MemoryStore) (request : RateLimitRequest) :
    RateLimitCounter :=
  let signalHash := hashSensitiveValue sha256 (some request.signal)
  let id := request.scope ++ ":" ++ signalHash
  let fresh : RateLimitCounter :=
    { id := id, scope := request.scope, signalHash := signalHash, count := 0, limit := request.limit,
      windowMs := request.windowMs, resetAt := now + request.windowMs, updatedAt := now }
  match store.rateLimits.get id with
  | none => fresh
  | some counter => if counter.resetAt ≤ now then fresh else counter

def incrementRateLimitCounter (sha256 : String → String) (now : Int) (store : MemoryStore)
    (request : RateLimitRequest) : Except String RateLimitResult × MemoryStore :=
  if request.scope == "" || request.signal == "" || request.limit < 1 || request.windowMs < 1 then
    (.error "rate limit counters require scope, signal, positive integer limit, and windowMs", store)
  else
    let current := currentCounter sha256 now store request
    let counter : RateLimitCounter :=
      { current with count := current.count + 1, limit := request.limit, windowMs := request.windowMs,
                     updatedAt := now }
    let outcome : Reply Unit := if (counter.count : Int) > request.limit then failWith .rateLimited else .ok ()
    (.ok { outcome := outcome, scope := request.scope, signalHash := counter.signalHash, count := counter.count,
           limit := request.limit, remaining := max (request.limit - counter.count) 0, resetAt := counter.resetAt },
      { store with rateLimits := store.rateLimits.set counter.id counter })

def recordAuditEvent (id : String) (now : Int) (store : MemoryStore) (event : AuditEvent) : MemoryStore :=
  { store with auditEvents := store.auditEvents ++ [⟨id, now, event⟩] }

end MemoryStore

/-- A store and the number of calls answered so far. -/
structure World where
  store : MemoryStore
  moment : Nat

namespace World

def start : World := ⟨createMemoryControlPlaneStore, 0⟩

/-- The world after an answered call that writes nothing. -/
def tick (w : World) : World := ⟨w.store, w.moment + 1⟩

/-- The world after an answered call that leaves `store`. -/
def write (w : World) (store : MemoryStore) : World := ⟨store, w.moment + 1⟩

@[simp] theorem tick_store (w : World) : w.tick.store = w.store := rfl

@[simp] theorem tick_moment (w : World) : w.tick.moment = w.moment + 1 := rfl

@[simp] theorem write_store (w : World) (store : MemoryStore) : (w.write store).store = store := rfl

@[simp] theorem write_moment (w : World) (store : MemoryStore) : (w.write store).moment = w.moment + 1 := rfl

end World

namespace Environment

/-- The options of a service over the memory store, which has no `readPresence` and no `withTransaction`. -/
def service (env : Environment) : ServiceOptions :=
  { env.options with hasReadPresence := false, hasRecordAuditEvent := true, hasWithTransaction := false }

/-- A save is stored unless the record has no id (`requireRecordId`). -/
def saved {α : Type} (id kind : String) (answer : α) (w : World) (store : MemoryStore) : Except String α × World :=
  if id == "" then (.error (kind ++ " records require an id"), w.tick) else (.ok answer, w.write store)

/-- The answer of a read from one of the maps. -/
def found {α : Type} (record : Option α) (state : ErrorState) (w : World) : Except String (Reply α) × World :=
  match record with
  | some record => (.ok (.ok record), w.tick)
  | none => (.ok (failWith state), w.tick)

/-- How the memory store, the hooks, the clock and the generators answer a call. -/
def handler (env : Environment) : Prog.Handler Call Call.Answer World
  | .saveRoom record, w => saved record.id "room" (.ok (some record)) w (w.store.saveRoom record)
  | .readRoom roomId, w => found (w.store.rooms.get roomId) .sessionUnavailable w
  | .saveInvite record, w =>
    saved record.id "invite" (.ok (some (record.sanitize env.sha256))) w (w.store.saveInvite env.sha256 record)
  | .readInvite inviteId, w => found (w.store.invites.get inviteId) .inviteUnavailable w
  | .readInviteByToken token, w =>
    (.ok (w.store.readInviteByToken env.sha256 (env.clock w.moment) token), w.tick)
  | .saveApproval record, w => saved record.id "approval" (.ok (some record)) w (w.store.saveApproval record)
  | .readApproval approvalId, w => found (w.store.approvals.get approvalId) .sessionUnavailable w
  | .saveSession record, w =>
    saved record.id "session" (.ok (some (record.sanitize env.sha256))) w (w.store.saveSession env.sha256 record)
  | .readPresence _, w => (.error "readPresence is not a function", w.tick)
  | .incrementRateLimitCounter request, w =>
    let (result, store) := w.store.incrementRateLimitCounter env.sha256 (env.clock w.moment) request
    (result, w.write store)
  | .recordAuditEvent event, w =>
    if event.type == "" then
      (.error "audit events require a type", w.tick)
    else
      (.ok (.ok ()), w.write (w.store.recordAuditEvent (env.auditId w.moment) (env.clock w.moment) event))
  | .checkRoomQuota context, w => (.ok (env.checkRoomQuota w.moment context), w.tick)
  | .checkSessionQuota context, w => (.ok (env.checkSessionQuota w.moment context), w.tick)
  | .now, w => (.ok (env.clock w.moment), w.tick)
  | .roomId, w => (.ok (env.roomId w.moment), w.tick)
  | .inviteId, w => (.ok (env.inviteId w.moment), w.tick)
  | .approvalId, w => (.ok (env.approvalId w.moment), w.tick)
  | .sessionId, w => (.ok (env.sessionId w.moment), w.tick)
  | .createInviteToken, w => (.ok (env.createInviteToken w.moment), w.tick)

/-- One request of the service over the memory store, run with nothing else running. -/
def perform (env : Environment) (w : World) (request : Request) : Except String (Reply Response) × World :=
  serviceTransaction env.service.hasWithTransaction (fun before _ => before) env.handler
    (operation env.service request) w

/-- The world after a list of requests, one at a time. -/
abbrev run (env : Environment) (requests : List Request) : World := Machine.run env.perform World.start requests

/-- A world that some list of requests leads to. -/
def Reachable (env : Environment) (w : World) : Prop := ∃ requests, w = env.run requests

end Environment

end EasyMc.ControlPlane
