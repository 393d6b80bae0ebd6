import EasyMc.Library.Following
import EasyMc.Library.KeyedTables
import EasyMc.ControlPlane.PostgresChains
import EasyMc.ControlPlane.RateLimits
import EasyMc.ControlPlane.Sessions

/-!
# The room service over the Postgres repository

The room service as it runs over `createPostgresControlPlaneRepository`: every request is one transaction, rolled back
when it throws, and a room is available only while its host is present.  `Mirrors` relates the tables to a memory store
with the same records, and each call that the service makes keeps it (`follows_saveRoom` and so on).
-/

namespace EasyMc.ControlPlane

open Await (Prog)
open Relational (UniqueOn KeyedBy Lists select upsert)

/-- What the service over the repository is given besides: the column types, and the times at which it is asked whether
a host is present. -/
structure PostgresEnvironment extends Environment where
  columns : ColumnTypes
  presenceNow : Nat → Int

/-- The tables and the number of calls answered so far. -/
structure PostgresWorld where
  tables : PostgresTables
  moment : Nat

namespace PostgresWorld

def start : PostgresWorld := ⟨.empty, 0⟩

/-- The world after an answered call that writes nothing. -/
def tick (w : PostgresWorld) : PostgresWorld := ⟨w.tables, w.moment + 1⟩

/-- The world after an answered call that leaves `tables`. -/
def write (w : PostgresWorld) (tables : PostgresTables) : PostgresWorld := ⟨tables, w.moment + 1⟩

@[simp] theorem tick_tables (w : PostgresWorld) : w.tick.tables = w.tables := rfl

@[simp] theorem tick_moment (w : PostgresWorld) : w.tick.moment = w.moment + 1 := rfl

@[simp] theorem write_tables (w : PostgresWorld) (tables : PostgresTables) : (w.write tables).tables = tables := rfl

@[simp] theorem write_moment (w : PostgresWorld) (tables : PostgresTables) :
    (w.write tables).moment = w.moment + 1 := rfl

end PostgresWorld

/-! ### The service -/

/-- What the service is told of a counter. -/
def RateLimitAnswer.result (answer : RateLimitAnswer) : RateLimitResult :=
  { outcome := answer.outcome, scope := answer.scope, signalHash := answer.signalHash, count := answer.count.toNat,
    limit := answer.limit, remaining := answer.remaining, resetAt := answer.resetAt }

namespace PostgresEnvironment

/-- The options of a service over the repository, which has all the optional functions. -/
def service (pg : PostgresEnvironment) : ServiceOptions :=
  { pg.options with hasReadPresence := true, hasRecordAuditEvent := true, hasWithTransaction := true }

/-- The answer of a write, which throws when the write is refused. -/
def written {α : Type} (answer : α) (w : PostgresWorld) : Except WriteError PostgresTables →
    Except String α × PostgresWorld
  | .ok tables => (.ok answer, w.write tables)
  | .error error => (.error error.message, w.tick)

/-- The answer of a read from one of the tables. -/
def found {α : Type} (record : Option α) (state : ErrorState) (w : PostgresWorld) :
    Except String (Reply α) × PostgresWorld :=
  match record with
  | some record => (.ok (.ok record), w.tick)
  | none => (.ok (failWith state), w.tick)

/-- The answer of a read, which throws when what it asks for does not fit its column. -/
def asked {α : Type} (fits : Bool) (w : PostgresWorld) (answer : Except String α × PostgresWorld) :
    Except String α × PostgresWorld :=
  if fits then answer else (.error WriteError.unfit.message, w)

/-- How the repository, the hooks, the clock and the generators answer a call. -/
def handler (pg : PostgresEnvironment) : Prog.Handler Call Call.Answer PostgresWorld
  | .saveRoom record, w => written (.ok (some record)) w (w.tables.saveRoom pg.columns record)
  | .readRoom roomId, w =>
    asked (pg.columns.text roomId) w.tick (found (w.tables.readRoom roomId) .sessionUnavailable w)
  | .saveInvite record, w =>
    written (.ok (some (record.sanitize pg.sha256))) w (w.tables.saveInvite pg.columns pg.sha256 record)
  | .readInvite inviteId, w =>
    asked (pg.columns.text inviteId) w.tick (found (w.tables.readInvite inviteId) .inviteUnavailable w)
  | .readInviteByToken token, w =>
    asked (token == "" || pg.columns.text (hashSensitiveValue pg.sha256 (some token))) w.tick
      (.ok (w.tables.readInviteByToken pg.sha256 (pg.clock w.moment) token), w.tick)
  | .saveApproval record, w => written (.ok (some record)) w (w.tables.saveApproval pg.columns record)
  | .readApproval approvalId, w =>
    asked (pg.columns.text approvalId) w.tick (found (w.tables.readApproval approvalId) .sessionUnavailable w)
  | .saveSession record, w =>
    written (.ok (some (record.sanitize pg.sha256))) w (w.tables.saveSession pg.columns pg.sha256 record)
  | .readPresence roomId, w =>
    asked (pg.columns.text roomId) w
      (.ok ((w.tables.database.readPresence (pg.presenceNow w.moment) roomId).map fun _ => ()), w)
  | .incrementRateLimitCounter request, w =>
    match w.tables.incrementRateLimitCounter pg.columns pg.sha256 (pg.clock w.moment) request with
    | .ok (answer, tables) => (.ok answer.result, w.write tables)
    | .error error => (.error error.message, w.tick)
  | .recordAuditEvent event, w =>
    written (.ok ()) w (w.tables.recordAuditEvent pg.columns ⟨pg.auditId w.moment, pg.clock w.moment, event⟩)
  | .checkRoomQuota context, w => (.ok (pg.checkRoomQuota w.moment context), w.tick)
  | .checkSessionQuota context, w => (.ok (pg.checkSessionQuota w.moment context), w.tick)
  | .now, w => (.ok (pg.clock w.moment), w.tick)
  | .roomId, w => (.ok (pg.roomId w.moment), w.tick)
  | .inviteId, w => (.ok (pg.inviteId w.moment), w.tick)
  | .approvalId, w => (.ok (pg.approvalId w.moment), w.tick)
  | .sessionId, w => (.ok (pg.sessionId w.moment), w.tick)
  | .createInviteToken, w => (.ok (pg.createInviteToken w.moment), w.tick)

/-- One request.  A transaction that is rolled back leaves the tables as they were, but its calls were made. -/
def perform (pg : PostgresEnvironment) (w : PostgresWorld) (request : Request) :
    Except String (Reply Response) × PostgresWorld :=
  serviceTransaction pg.service.hasWithTransaction (fun before after => ⟨before.tables, after.moment⟩) pg.handler
    (operation pg.service request) w

end PostgresEnvironment

/-! ### The same records -/

/-- The tables hold the records of the store. -/
structure Mirrors (pg : PostgresEnvironment) (s : PostgresWorld) (t : World) : Prop where
  moment : s.moment = t.moment
  rooms : Lists Room.id t.store.rooms s.tables.rooms
  invites : Lists Invite.id t.store.invites s.tables.invites
  approvals : Lists Approval.id t.store.approvals s.tables.approvalRequests
  sessions : Lists Session.id t.store.sessions s.tables.sessions
  index : ∀ digest id, t.store.inviteTokenIndex.get digest = some id ↔
    ∃ invite, t.store.invites.get id = some invite ∧ invite.token = .hash digest
  uuid : ∀ approval ∈ s.tables.approvalRequests, approval.minecraftUuid.isSome = true
  counters : SameWindows pg.sha256 t.store s.tables.database
  auditEvents : s.tables.auditEvents = t.store.auditEvents
  auditIds : ∀ event ∈ t.store.auditEvents, ∃ m < t.moment, event.id = pg.auditId m

/-- Nothing is in the way of a request: no id is empty, the ids of events differ, redacting an event keeps its type, and
the rate limits can be counted. -/
structure PostgresEnvironment.Regular (pg : PostgresEnvironment) : Prop where
  roomId : ∀ n, pg.roomId n ≠ ""
  inviteId : ∀ n, pg.inviteId n ≠ ""
  approvalId : ∀ n, pg.approvalId n ≠ ""
  sessionId : ∀ n, pg.sessionId n ≠ ""
  auditId : Function.Injective pg.auditId
  redacts : ∀ type, type ≠ "" → pg.options.redactAuditText type ≠ ""
  limit : 1 ≤ pg.options.joinRequestLimit
  window : 1 ≤ pg.options.joinRequestWindowMs

/-- A request to join says which player it is for. -/
def Request.namesPlayer : Request → Bool
  | .createJoinRequest args => args.minecraftUuid.isSome
  | _ => true

/-- Digests are hexadecimal texts. -/
structure HexDigests (sha256 : String → String) : Prop where
  given : ∀ text, sha256 text ≠ ""
  hex : ∀ text, ∀ c ∈ (sha256 text).toList, c.isDigit ∨ 'a' ≤ c ∧ c ≤ 'f'

private theorem append_colon_inj {l l' r r' : List Char} (hr : ':' ∉ r) (hr' : ':' ∉ r')
    (h : l ++ ':' :: r = l' ++ ':' :: r') : l = l' ∧ r = r' := by
  rcases List.append_eq_append_iff.1 h with ⟨c, rfl, hc⟩ | ⟨c, rfl, hc⟩
  · cases c with
    | nil => exact ⟨(List.append_nil l).symm, (List.cons.inj hc).2⟩
    | cons d c => exact absurd (by rw [(List.cons.inj hc).2]; simp) hr
  · cases c with
    | nil => exact ⟨List.append_nil l', (List.cons.inj hc).2.symm⟩
    | cons d c => exact absurd (by rw [(List.cons.inj hc).2]; simp) hr'

/-- A digest has no colon, so the id of a counter ends with what stands after its last one. -/
theorem HexDigests.readableIds {sha256 : String → String} (h : HexDigests sha256) : ReadableIds sha256 := by
  intro scope scope' signal signal' hid
  have hcolon : ∀ signal, ':' ∉ (hashSensitiveValue sha256 (some signal)).toList := by
    intro signal hmem
    rcases h.hex _ _ hmem with hdigit | ⟨hle, -⟩
    · cases hdigit
    · exact absurd hle (by decide)
  have hlist := congrArg String.toList hid
  simp only [counterId, String.toList_append, List.append_assoc] at hlist
  obtain ⟨hscope, hhash⟩ := append_colon_inj (hcolon signal) (hcolon signal') hlist
  exact ⟨String.toList_inj.1 hscope, String.toList_inj.1 hhash⟩

/-- What a request may still throw: that no actor is given, or that a value does not fit its column. -/
def expectedErrors : List String :=
  ["createRoom requires actorId", WriteError.unfit.message, (WriteError.counter .unfit).message]

/-- The error is an expected one, unless something is in the way. -/
def PostgresEnvironment.Excused (pg : PostgresEnvironment) (namesPlayer : Bool) (m : String) : Prop :=
  pg.Regular → namesPlayer = true → m ∈ expectedErrors

variable {pg : PostgresEnvironment} {s : PostgresWorld} {t : World}

theorem SameWindows.congr {sha256 : String → String} {store store' : MemoryStore} {db db' : Database}
    (h : SameWindows sha256 store db) (hstore : store'.rateLimits = store.rateLimits)
    (hdb : db'.rateLimitCounters = db.rateLimitCounters) : SameWindows sha256 store' db' := by
  obtain ⟨hkeyed, ⟨hscope, hid, hown⟩, hwindows⟩ := h
  refine ⟨?_, ⟨?_, ?_, ?_⟩, fun scope signal => ?_⟩
  · unfold MemoryStore.CountersKeyed
    rw [hstore]
    exact hkeyed
  · rw [hdb]
    exact hscope
  · rw [hdb]
    exact hid
  · unfold OwnIds
    rw [hdb]
    exact hown
  · have hwindow := hwindows scope signal
    unfold MemoryStore.window Database.windows at hwindow ⊢
    rw [hstore, hdb]
    exact hwindow

namespace Mirrors

theorem start (pg : PostgresEnvironment) : Mirrors pg .start .start where
  moment := rfl
  rooms := .empty
  invites := .empty
  approvals := .empty
  sessions := .empty
  index digest id := by simp [World.start, createMemoryControlPlaneStore]
  uuid := nofun
  counters := .start pg.sha256 rfl
  auditEvents := rfl
  auditIds := nofun

/-- Some more calls are answered that write nothing. -/
theorem later (h : Mirrors pg s t) {s' : PostgresWorld} {t' : World} (htables : s'.tables = s.tables)
    (hstore : t'.store = t.store) (hmoment : s'.moment = t'.moment) (hlater : t.moment ≤ t'.moment) :
    Mirrors pg s' t' := by
  obtain ⟨tables, m⟩ := s'
  obtain ⟨store, m'⟩ := t'
  obtain rfl : tables = s.tables := htables
  obtain rfl : store = t.store := hstore
  refine { h with moment := hmoment, auditIds := fun event hevent => ?_ }
  obtain ⟨n, hn, hid⟩ := h.auditIds event hevent
  exact ⟨n, hn.trans_le hlater, hid⟩

theorem tick (h : Mirrors pg s t) : Mirrors pg s.tick t.tick :=
  h.later rfl rfl (congrArg (· + 1) h.moment) (Nat.le_succ _)

/-! ### Reads -/

theorem readRoom (h : Mirrors pg s t) (roomId : String) : s.tables.readRoom roomId = t.store.rooms.get roomId :=
  h.rooms.head_select roomId

theorem readInvite (h : Mirrors pg s t) (inviteId : String) :
    s.tables.readInvite inviteId = t.store.invites.get inviteId :=
  h.invites.head_select inviteId

theorem readApproval (h : Mirrors pg s t) (approvalId : String) :
    s.tables.readApproval approvalId = t.store.approvals.get approvalId :=
  h.approvals.head_select approvalId

/-- Selecting by the hash of a token is what the index of tokens is for. -/
theorem select_token (h : Mirrors pg s t) (digest : String) :
    (select Invite.token (.hash digest) s.tables.invites).head? =
      (t.store.inviteTokenIndex.get digest).bind t.store.invites.get := by
  have hmem : ∀ invite ∈ select Invite.token (.hash digest) s.tables.invites,
      t.store.inviteTokenIndex.get digest = some invite.id ∧ t.store.invites.get invite.id = some invite := by
    intro invite hinvite
    obtain ⟨hrow, htoken⟩ := Relational.mem_select.1 hinvite
    have hget := h.invites.mem_iff.1 hrow
    exact ⟨(h.index digest invite.id).2 ⟨invite, hget, htoken⟩, hget⟩
  cases hindex : t.store.inviteTokenIndex.get digest with
  | none =>
    refine List.head?_eq_none_iff.2 (List.eq_nil_iff_forall_not_mem.2 fun invite hinvite => ?_)
    obtain ⟨hget, -⟩ := hmem invite hinvite
    rw [hindex] at hget
    cases hget
  | some id =>
    obtain ⟨invite, hget, htoken⟩ := (h.index digest id).1 hindex
    rw [Option.bind_some, hget]
    cases hselect : select Invite.token (.hash digest) s.tables.invites with
    | nil =>
      refine absurd hselect (List.ne_nil_of_mem (Relational.mem_select.2 ⟨?_, htoken⟩))
      exact (h.invites.mem_of_get hget).1
    | cons first rest =>
      obtain ⟨hid, hfirst⟩ := hmem first (hselect ▸ List.mem_cons_self)
      rw [hindex] at hid
      obtain rfl := Option.some.inj hid
      rw [hget] at hfirst
      exact hfirst.symm

theorem readInviteByToken (h : Mirrors pg s t) (now : Int) (token : String) :
    s.tables.readInviteByToken pg.sha256 now token = t.store.readInviteByToken pg.sha256 now token := by
  unfold PostgresTables.readInviteByToken MemoryStore.readInviteByToken
  rw [h.select_token]
  split
  · rfl
  · cases t.store.inviteTokenIndex.get (hashSensitiveValue pg.sha256 (some token)) with
    | none => rfl
    | some id =>
      dsimp only [Option.bind_some]
      cases t.store.invites.get id <;> rfl

end Mirrors

/-! ### Writes -/

/-- A write is made, or refused because a value does not fit, or something that is `needed` is missing. -/
def Writes (needed : Prop) (made : PostgresTables → Prop) : Except WriteError PostgresTables → Prop
  | .ok tables => made tables
  | .error error => needed → error = .unfit

namespace Writes

variable {needed : Prop} {made : PostgresTables → Prop}

theorem demand {holds : Bool} {error : WriteError} {rest : Except WriteError PostgresTables}
    (hholds : needed → holds = true) (hrest : holds = true → Writes needed made rest) :
    Writes needed made (ControlPlane.demand holds error >>= fun _ => rest) := by
  cases holds with
  | true => exact hrest rfl
  | false => exact fun hneeded => nomatch hholds hneeded

/-- The values may not fit, which is always a reason. -/
theorem fits {holds : Bool} {rest : Except WriteError PostgresTables} (hrest : Writes needed made rest) :
    Writes needed made (ControlPlane.demand holds .unfit >>= fun _ => rest) := by
  cases holds with
  | true => exact hrest
  | false => exact fun _ => rfl

section Row

variable {ρ : Type} {kind : String} {key : ρ → String} {same : ρ → ρ → Bool} {update : ρ → ρ → ρ}
  {check : Except WriteError Unit} {row : ρ} {rows : List ρ} {m : JsMap String ρ}
  {f : List ρ → Except WriteError PostgresTables}

/-- A row with a new key that meets the constraints is added. -/
theorem row_new (h : Lists key m rows) (hnew : m.get (key row) = none) (hcheck : check = .ok ())
    (hf : Lists key (m.set (key row) row) (rows ++ [row]) → Writes needed made (f (rows ++ [row]))) :
    Writes needed made (saveRow kind key same update check row rows >>= f) := by
  have hselect : (select key (key row) rows).head? = none := (h.head_select _).trans hnew
  have hsaved : saveRow kind key same update check row rows = .ok (rows ++ [row]) := by
    unfold saveRow
    rw [hselect, hcheck]
  rw [hsaved]
  exact hf (h.set_new hnew)

/-- A row that is the same thing as the one stored is updated. -/
theorem row_old {old : ρ} (h : Lists key m rows) (hold : m.get (key row) = some old) (hsame : same old row = true)
    (hupdate : update row old = row)
    (hf : ∀ rows', Lists key (m.set (key row) row) rows' → Writes needed made (f rows')) :
    Writes needed made (saveRow kind key same update check row rows >>= f) := by
  have hselect : (select key (key row) rows).head? = some old := (h.head_select _).trans hold
  have hsaved : saveRow kind key same update check row rows = .ok (upsert key row (update row) rows) := by
    unfold saveRow
    rw [hselect]
    exact if_pos hsame
  rw [hsaved]
  exact hf _ (h.set_old hold hupdate)

end Row

end Writes

namespace Mirrors

theorem saveRoom (h : Mirrors pg s t) {record : Room} (hnew : t.store.rooms.get record.id = none) :
    Writes (record.id ≠ "")
      (fun tables => record.id ≠ "" ∧ Mirrors pg (s.write tables) (t.write (t.store.saveRoom record)))
      (s.tables.saveRoom pg.columns record) := by
  unfold PostgresTables.saveRoom
  refine .demand (fun hid => by simpa using hid) fun hid => .fits (.row_new h.rooms hnew rfl fun hrooms => ?_)
  exact ⟨by simpa using hid, { h.tick with rooms := hrooms, counters := h.counters.congr rfl rfl }⟩

/-- The index after an invite is saved leads to the invites that are then stored. -/
private theorem index_set {index : JsMap String String} {invites : JsMap String Invite} (stored : Invite)
    {hash : String} (htoken : stored.token = .hash hash)
    (hindex : ∀ digest id, index.get digest = some id ↔ ∃ invite, invites.get id = some invite ∧ invite.token = .hash digest)
    (hold : ∀ id invite, invites.get id = some invite → (invite.token = .hash hash ↔ id = stored.id)) (digest id : String) :
    (index.set hash stored.id).get digest = some id ↔
      ∃ invite, (invites.set stored.id stored).get id = some invite ∧ invite.token = .hash digest := by
  rw [JsMap.get_set, JsMap.get_set]
  by_cases hd : hash = digest <;> by_cases hid : stored.id = id
  · subst hd hid
    rw [if_pos rfl, if_pos rfl]
    exact iff_of_true rfl ⟨stored, rfl, htoken⟩
  · subst hd
    rw [if_pos rfl, if_neg hid]
    refine iff_of_false (fun h => hid (Option.some.inj h)) ?_
    rintro ⟨invite, hget, htok⟩
    exact hid ((hold id invite hget).1 htok).symm
  · subst hid
    rw [if_neg hd, if_pos rfl]
    constructor
    · intro hget
      obtain ⟨invite, hinvite, htok⟩ := (hindex digest stored.id).1 hget
      exact absurd (Secret.hash.inj (((hold _ invite hinvite).2 rfl).symm.trans htok)) hd
    · rintro ⟨invite, hinvite, htok⟩
      obtain rfl := Option.some.inj hinvite
      exact absurd (Secret.hash.inj (htoken.symm.trans htok)) hd
  · rw [if_neg hd, if_neg hid]
    exact hindex digest id

private theorem saveInvite_store {store : MemoryStore} {sha256 : String → String} {record : Invite} {hash : String}
    (htoken : (record.sanitize sha256).token = .hash hash) (hhash : hash ≠ "") :
    store.saveInvite sha256 record =
      { store with
        inviteTokenIndex := store.inviteTokenIndex.set hash record.id
        invites := store.invites.set record.id (record.sanitize sha256) } := by
  unfold MemoryStore.saveInvite
  dsimp only
  rw [htoken]
  dsimp only
  rw [if_neg hhash]
  rfl

/-- An invite with a new id and a new token for a room that is there. -/
theorem saveInvite (h : Mirrors pg s t) {record : Invite} {hash : String}
    (hnew : t.store.invites.get record.id = none) (htoken : (record.sanitize pg.sha256).token = .hash hash)
    (hhash : hash ≠ "") (hfresh : ∀ id invite, t.store.invites.get id = some invite → invite.token ≠ .hash hash)
    (hroom : ∃ room ∈ s.tables.rooms, room.id = record.roomId) :
    Writes (record.id ≠ "")
      (fun tables => record.id ≠ "" ∧ Mirrors pg (s.write tables) (t.write (t.store.saveInvite pg.sha256 record)))
      (s.tables.saveInvite pg.columns pg.sha256 record) := by
  have hcheck : s.tables.checkInvite (record.sanitize pg.sha256) = .ok () := by
    refine checkInvite_eq_ok.2 ⟨fun invite hinvite => ?_, hroom⟩
    rw [htoken]
    exact hfresh invite.id invite (h.invites.mem_iff.1 hinvite)
  unfold PostgresTables.saveInvite
  refine .demand (fun hid => by simpa using hid) fun hid => .fits (.demand (fun _ => by rw [htoken]; rfl) fun _ =>
    .row_new h.invites hnew hcheck fun hinvites => ?_)
  refine ⟨by simpa using hid, ?_⟩
  rw [saveInvite_store htoken hhash]
  refine { h.tick with invites := hinvites, index := ?_, counters := h.counters.congr rfl rfl }
  refine index_set (record.sanitize pg.sha256) htoken h.index fun id invite hget => ?_
  refine iff_of_false (hfresh id invite hget) ?_
  rintro rfl
  cases hnew.symm.trans hget

/-- An invite that is stored is revoked. -/
theorem revokeInvite (h : Mirrors pg s t) {invite : Invite} {hash : String}
    (hstored : t.store.invites.get invite.id = some invite) (htoken : invite.token = .hash hash) (hhash : hash ≠ "")
    (revokedAt : Int) :
    Writes (invite.id ≠ "")
      (fun tables => invite.id ≠ "" ∧
        Mirrors pg (s.write tables) (t.write (t.store.saveInvite pg.sha256 (invite.revoke revokedAt))))
      (s.tables.saveInvite pg.columns pg.sha256 (invite.revoke revokedAt)) := by
  have hsanitize : (invite.revoke revokedAt).sanitize pg.sha256 = invite.revoke revokedAt := by
    unfold Invite.sanitize Invite.revoke
    rw [htoken]
    rfl
  have hsame : Invite.same invite (invite.revoke revokedAt) = true := by simp [Invite.same, Invite.revoke]
  unfold PostgresTables.saveInvite
  rw [hsanitize]
  refine .demand (fun hid => by simpa [Invite.revoke] using hid) fun hid =>
    .fits (.demand (fun _ => by simp [Invite.revoke, htoken, Secret.column]) fun _ =>
      .row_old h.invites hstored hsame rfl fun rows hinvites => ?_)
  refine ⟨by simpa [Invite.revoke] using hid, ?_⟩
  rw [saveInvite_store (by rw [hsanitize]; exact htoken) hhash, hsanitize]
  refine { h.tick with invites := hinvites, index := ?_, counters := h.counters.congr rfl rfl }
  refine index_set (invite.revoke revokedAt) htoken h.index fun id other hget => ?_
  constructor
  · intro htok
    exact Option.some.inj (((h.index hash id).2 ⟨other, hget, htok⟩).symm.trans
      ((h.index hash invite.id).2 ⟨invite, hstored, htoken⟩))
  · rintro rfl
    obtain rfl := Option.some.inj (hget.symm.trans hstored)
    exact htoken

/-- A request with a new id, through an invite that is there to a room that is there. -/
theorem saveApproval (h : Mirrors pg s t) {record : Approval} (hnew : t.store.approvals.get record.id = none)
    (hroom : ∃ room ∈ s.tables.rooms, room.id = record.roomId)
    (hinvite : ∃ invite ∈ s.tables.invites, invite.id = record.inviteId ∧ invite.roomId = record.roomId) :
    Writes (record.id ≠ "" ∧ record.minecraftUuid.isSome = true)
      (fun tables => record.id ≠ "" ∧ Mirrors pg (s.write tables) (t.write (t.store.saveApproval record)))
      (s.tables.saveApproval pg.columns record) := by
  unfold PostgresTables.saveApproval
  refine .demand (fun hneeded => by simpa using hneeded.1) fun hid => .fits (.demand (fun hneeded => hneeded.2) fun huuid =>
    .row_new h.approvals hnew (checkApproval_eq_ok.2 ⟨hroom, hinvite⟩) fun happrovals => ?_)
  refine ⟨by simpa using hid,
    { h.tick with approvals := happrovals, uuid := ?_, counters := h.counters.congr rfl rfl }⟩
  intro approval happroval
  rcases List.mem_append.1 happroval with hold | hnew
  · exact h.uuid approval hold
  · obtain rfl := List.mem_singleton.1 hnew
    exact huuid

/-- A request that is stored is decided. -/
theorem decideApproval (h : Mirrors pg s t) {approval : Approval}
    (hstored : t.store.approvals.get approval.id = some approval) (decision : ApprovalState) (decidedAt : Int) :
    Writes (approval.id ≠ "")
      (fun tables => approval.id ≠ "" ∧
        Mirrors pg (s.write tables) (t.write (t.store.saveApproval (approval.decide decision decidedAt))))
      (s.tables.saveApproval pg.columns (approval.decide decision decidedAt)) := by
  have huuid : (approval.decide decision decidedAt).minecraftUuid.isSome = true :=
    h.uuid approval (h.approvals.mem_of_get hstored).1
  have hsame : Approval.same approval (approval.decide decision decidedAt) = true := by
    simp [Approval.same, Approval.decide]
  unfold PostgresTables.saveApproval
  refine .demand (fun hid => by simpa [Approval.decide] using hid) fun hid => .fits (.demand (fun _ => huuid) fun _ =>
    .row_old h.approvals hstored hsame rfl fun rows happrovals => ?_)
  refine ⟨by simpa [Approval.decide] using hid,
    { h.tick with approvals := happrovals, uuid := ?_, counters := h.counters.congr rfl rfl }⟩
  intro other hother
  rcases JsMap.get_set_cases (happrovals.mem_iff.1 hother) with ⟨-, rfl⟩ | ⟨-, hget⟩
  · exact huuid
  · exact h.uuid other (h.approvals.mem_of_get hget).1

/-- A session with a new id, for a request that is there and has none. -/
theorem saveSession (h : Mirrors pg s t) {record : Session} (hnew : t.store.sessions.get record.id = none)
    (hrequest : ∀ id session, t.store.sessions.get id = some session → session.requestId ≠ record.requestId)
    (hroom : ∃ room ∈ s.tables.rooms, room.id = record.roomId)
    (happroval : ∃ approval ∈ s.tables.approvalRequests, approval.id = record.requestId ∧
      approval.roomId = record.roomId ∧ approval.inviteId = record.inviteId)
    (huuid : record.minecraftUuid.isSome = true) :
    Writes (record.id ≠ "")
      (fun tables => record.id ≠ "" ∧ Mirrors pg (s.write tables) (t.write (t.store.saveSession pg.sha256 record)))
      (s.tables.saveSession pg.columns pg.sha256 record) := by
  have hcheck : s.tables.checkSession (record.sanitize pg.sha256) = .ok () := by
    refine checkSession_eq_ok.2 ⟨fun session hsession => ?_, hroom, happroval⟩
    exact hrequest session.id session (h.sessions.mem_iff.1 hsession)
  unfold PostgresTables.saveSession
  refine .demand (fun hid => by simpa using hid) fun hid => .fits (.demand (fun _ => huuid) fun _ =>
    .row_new h.sessions hnew hcheck fun hsessions => ?_)
  exact ⟨by simpa using hid, { h.tick with sessions := hsessions, counters := h.counters.congr rfl rfl }⟩

theorem recordAuditEvent (h : Mirrors pg s t) {event : AuditEvent} (now : Int) :
    Writes (event.type ≠ "" ∧ Function.Injective pg.auditId)
      (fun tables => event.type ≠ "" ∧
        Mirrors pg (s.write tables) (t.write (t.store.recordAuditEvent (pg.auditId t.moment) now event)))
      (s.tables.recordAuditEvent pg.columns ⟨pg.auditId s.moment, now, event⟩) := by
  unfold PostgresTables.recordAuditEvent
  refine .demand (fun hneeded => by simpa using hneeded.1) fun htype => .fits (.demand (fun hneeded => ?_) fun _ => ?_)
  · rw [Bool.not_eq_true', List.any_eq_false]
    intro other hother
    obtain ⟨m, hm, hid⟩ := h.auditIds other (h.auditEvents ▸ hother)
    have hne : m ≠ s.moment := by
      have := h.moment
      omega
    simpa [hid] using fun heq => hne (hneeded.2 heq)
  · refine ⟨by simpa using htype, { h.tick with auditEvents := ?_, auditIds := ?_, counters := h.counters.congr rfl rfl }⟩
    · show s.tables.auditEvents ++ _ = t.store.auditEvents ++ _
      rw [h.auditEvents, h.moment]
    · intro other hother
      rcases List.mem_append.1 hother with hold | hnew
      · exact h.tick.auditIds other hold
      · obtain rfl := List.mem_singleton.1 hnew
        exact ⟨t.moment, Nat.lt_succ_self _, rfl⟩

end Mirrors

/-! ### Counting -/

/-- Columns that are large enough might as well hold everything. -/
theorem incrementRateLimitCounter_unbounded {columns : ColumnTypes} {sha256 : String → String} {now : Int}
    {request : RateLimitRequest} {db db' : Database} {answer : RateLimitAnswer}
    (h : db.incrementRateLimitCounter columns sha256 now request = (.ok answer, db')) :
    db.incrementRateLimitCounter unboundedColumns sha256 now request = (.ok answer, db') := by
  have hupsert : ∀ {excluded : RateLimitCounterRow} {reply : RateLimitCounterRow × List RateLimitCounterRow},
      upsertCounter columns excluded db.rateLimitCounters = .ok reply →
        upsertCounter unboundedColumns excluded db.rateLimitCounters = .ok reply := by
    intro excluded reply hreply
    unfold upsertCounter at hreply ⊢
    rw [if_neg (show ¬ (!unboundedColumns.fits excluded) = true from Bool.false_ne_true)]
    split at hreply
    · cases hreply
    · cases hold : (select RateLimitCounterRow.scopeSignal excluded.scopeSignal db.rateLimitCounters).head? with
      | some old =>
        rw [hold] at hreply
        dsimp only at hreply ⊢
        split at hreply
        · cases hreply
        · exact hreply
      | none =>
        rw [hold] at hreply
        exact hreply
  unfold Database.incrementRateLimitCounter at h ⊢
  split
  · rename_i hrefused
    rw [if_pos hrefused] at h
    cases h
  · rename_i hvalid
    rw [if_neg hvalid] at h
    dsimp only at h ⊢
    cases hreply : upsertCounter columns (newCounter sha256 now request) db.rateLimitCounters with
    | error error =>
      rw [hreply] at h
      cases h
    | ok reply =>
      rw [hreply] at h
      rw [hupsert hreply]
      exact h

/-- What a caller is told depends on the count. -/
theorem outcome_of_answer {columns : ColumnTypes} {sha256 : String → String} {now : Int} {request : RateLimitRequest}
    {db db' : Database} {answer : RateLimitAnswer}
    (h : db.incrementRateLimitCounter columns sha256 now request = (.ok answer, db')) :
    answer.outcome = if answer.count > request.limit then failWith .rateLimited else .ok () := by
  unfold Database.incrementRateLimitCounter at h
  split at h
  · cases h
  · dsimp only at h
    split at h
    · cases h
    · cases h
      rfl

theorem outcome_of_result {sha256 : String → String} {now : Int} {request : RateLimitRequest}
    {store store' : MemoryStore} {result : RateLimitResult}
    (h : store.incrementRateLimitCounter sha256 now request = (.ok result, store')) :
    result.outcome = if (result.count : Int) > request.limit then failWith .rateLimited else .ok () := by
  unfold MemoryStore.incrementRateLimitCounter at h
  split at h
  · cases h
  · cases h
    rfl

/-- A count is made and answered alike, or refused because a value does not fit. -/
theorem Mirrors.incrementRateLimitCounter (hdigest : HexDigests pg.sha256) (h : Mirrors pg s t)
    (now : Int) (request : RateLimitRequest) :
    match s.tables.incrementRateLimitCounter pg.columns pg.sha256 now request with
    | .ok (answer, tables) => ∃ result store,
        t.store.incrementRateLimitCounter pg.sha256 now request = (.ok result, store) ∧
          result.outcome = answer.outcome ∧ Mirrors pg (s.write tables) (t.write store)
    | .error error => request.isValid = true → error = .counter .unfit := by
  have hcounts := counts_of_readableIds pg.columns hdigest.readableIds h.counters.db_keyed now request
  obtain ⟨hview, hwindows⟩ := h.counters.step_of_readableIds hdigest.readableIds ⟨now, request⟩
  unfold PostgresTables.incrementRateLimitCounter
  generalize hreply : s.tables.database.incrementRateLimitCounter pg.columns pg.sha256 now request = reply at hcounts ⊢
  cases hcounts with
  | refused hvalid =>
    intro hvalid'
    rw [hvalid] at hvalid'
    cases hvalid'
  | unfit hvalid hrange => exact fun _ => rfl
  | counted hvalid hrange rows hrows hkeyed =>
    have hpostgres : postgresLimiter pg.sha256 s.tables.database ⟨now, request⟩ = _ :=
      congrArg (fun reply : Except RepositoryError RateLimitAnswer × Database =>
        (reply.1.toOption.map RateLimitAnswer.view, reply.2)) (incrementRateLimitCounter_unbounded hreply)
    rw [hpostgres] at hview hwindows
    rcases hmemory : t.store.incrementRateLimitCounter pg.sha256 now request with ⟨result, store⟩
    have hlimiter : memoryLimiter pg.sha256 t.store ⟨now, request⟩ =
        (result.toOption.map RateLimitResult.view, store) := by
      unfold memoryLimiter
      rw [hmemory]
    have htables := MemoryStore.incrementRateLimitCounter_tables pg.sha256 now request t.store
    rw [hlimiter] at hview hwindows
    rw [hmemory] at htables
    cases result with
    | error message => cases hview
    | ok result =>
      have hsame : result.view = _ := Option.some.inj hview
      have hcount : (result.count : Int) = _ := congrArg RateLimitView.count hsame
      refine ⟨result, store, rfl, ?_, ?_⟩
      · rw [outcome_of_result hmemory, outcome_of_answer hreply, hcount]
        rfl
      · have hevents : store.auditEvents = t.store.auditEvents := by
          have hstore := congrArg (fun reply => reply.2.auditEvents) hmemory
          unfold MemoryStore.incrementRateLimitCounter at hstore
          dsimp only at hstore
          split at hstore <;> exact hstore.symm
        simp only [MemoryStore.tables, Tables.mk.injEq] at htables
        obtain ⟨hrooms, hinvites, hindex, happrovals, hsessions⟩ := htables
        exact
          { moment := h.tick.moment
            rooms := hrooms ▸ h.rooms
            invites := hinvites ▸ h.invites
            approvals := happrovals ▸ h.approvals
            sessions := hsessions ▸ h.sessions
            index := hindex ▸ hinvites ▸ h.index
            uuid := h.uuid
            counters := hwindows.congr rfl rfl
            auditEvents := h.auditEvents.trans hevents.symm
            auditIds := hevents ▸ h.tick.auditIds }

end EasyMc.ControlPlane
