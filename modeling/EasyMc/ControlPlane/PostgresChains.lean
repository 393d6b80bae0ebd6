import EasyMc.Library.KeyedTables
import EasyMc.Library.Throwing
import EasyMc.ControlPlane.PostgresWrites

/-!
# What a session hangs on

A session refers to an approval request, that to an invite, that to a room with its host.  Whatever is written to the
Postgres tables and whatever is cleaned up, the constraints of `schema.sql` hold (`Valid.run`), and no save changes
the columns that say what a row is (`Keeps.step`).  So as long as a session stays stored, the request, the invite, the
room and the host behind it are the ones it was issued for (`session_chain_kept`).
-/

namespace EasyMc.ControlPlane

open Relational (UniqueOn References select upsert)
open Throwing (bind_eq_ok)

variable {columns : ColumnTypes} {sha256 : String → String} {t t' : PostgresTables}

/-! ### What a write does -/

theorem demand_eq_ok {holds : Bool} {error : WriteError} : demand holds error = .ok () ↔ holds = true := by
  cases holds <;> simp [demand]

/-- The next statement after one that holds. -/
theorem demand_bind_eq_ok {α : Type} {holds : Bool} {error : WriteError} {f : Unit → Except WriteError α} {a : α} :
    (demand holds error >>= f) = .ok a ↔ holds = true ∧ f () = .ok a := by
  rw [bind_eq_ok]
  constructor
  · rintro ⟨⟨⟩, hholds, hf⟩
    exact ⟨demand_eq_ok.1 hholds, hf⟩
  · rintro ⟨hholds, hf⟩
    exact ⟨(), demand_eq_ok.2 hholds, hf⟩

/-- A row may be saved: the one that is stored is the same thing, or none is and the row meets the constraints. -/
def Admits {ρ : Type} (key : ρ → String) (same : ρ → ρ → Bool) (check : Prop) (row : ρ) (rows : List ρ) : Prop :=
  match (select key (key row) rows).head? with
  | some old => same old row = true
  | none => check

theorem Admits.new {ρ : Type} {key : ρ → String} {same : ρ → ρ → Bool} {check : Prop} {row : ρ} {rows : List ρ}
    (h : Admits key same check row rows) (hnew : select key (key row) rows = []) : check := by
  unfold Admits at h
  rw [hnew] at h
  exact h

theorem saveRow_eq_ok {ρ : Type} {kind : String} {key : ρ → String} {same : ρ → ρ → Bool} {update : ρ → ρ → ρ}
    {check : Except WriteError Unit} {row : ρ} {rows rows' : List ρ} :
    saveRow kind key same update check row rows = .ok rows' ↔
      Admits key same (check = .ok ()) row rows ∧ rows' = upsert key row (update row) rows := by
  unfold saveRow Admits
  cases hhead : (select key (key row) rows).head? with
  | some old =>
    dsimp only
    cases same old row <;> simp [eq_comm]
  | none =>
    have hnew : upsert key row (update row) rows = rows ++ [row] :=
      Relational.upsert_of_new (List.head?_eq_none_iff.1 hhead)
    rw [hnew]
    dsimp only
    cases check <;> simp [eq_comm]

/-- What a new row of each table meets. -/
structure InviteFits (t : PostgresTables) (stored : Invite) : Prop where
  token : ∀ invite ∈ t.invites, invite.token ≠ stored.token
  room : ∃ room ∈ t.rooms, room.id = stored.roomId

structure ApprovalFits (t : PostgresTables) (record : Approval) : Prop where
  room : ∃ room ∈ t.rooms, room.id = record.roomId
  invite : ∃ invite ∈ t.invites, invite.id = record.inviteId ∧ invite.roomId = record.roomId

structure SessionFits (t : PostgresTables) (stored : Session) : Prop where
  request : ∀ session ∈ t.sessions, session.requestId ≠ stored.requestId
  room : ∃ room ∈ t.rooms, room.id = stored.roomId
  approval : ∃ approval ∈ t.approvalRequests, approval.id = stored.requestId ∧ approval.roomId = stored.roomId ∧
    approval.inviteId = stored.inviteId

theorem checkInvite_eq_ok {stored : Invite} : PostgresTables.checkInvite stored t = .ok () ↔ InviteFits t stored := by
  unfold PostgresTables.checkInvite
  rw [demand_bind_eq_ok, demand_eq_ok]
  simp only [Bool.not_eq_true', List.any_eq_false, List.any_eq_true, beq_iff_eq]
  exact ⟨fun h => ⟨h.1, h.2⟩, fun h => ⟨h.token, h.room⟩⟩

theorem checkApproval_eq_ok {record : Approval} :
    PostgresTables.checkApproval record t = .ok () ↔ ApprovalFits t record := by
  unfold PostgresTables.checkApproval
  rw [demand_bind_eq_ok, demand_eq_ok]
  simp only [List.any_eq_true, beq_iff_eq, Bool.and_eq_true]
  exact ⟨fun h => ⟨h.1, h.2⟩, fun h => ⟨h.room, h.invite⟩⟩

theorem checkSession_eq_ok {stored : Session} :
    PostgresTables.checkSession stored t = .ok () ↔ SessionFits t stored := by
  unfold PostgresTables.checkSession
  rw [demand_bind_eq_ok, demand_bind_eq_ok, demand_eq_ok]
  simp only [Bool.not_eq_true', List.any_eq_false, List.any_eq_true, beq_iff_eq, Bool.and_eq_true, and_assoc]
  exact ⟨fun h => ⟨h.1, h.2.1, h.2.2⟩, fun h => ⟨h.request, h.room, h.approval⟩⟩

theorem checkPresence_eq_ok {record : PresenceRow} : PostgresTables.checkPresence record t = .ok () ↔
    ∃ room ∈ t.rooms, room.id = record.roomId ∧ room.hostId = record.hostId := by
  unfold PostgresTables.checkPresence
  rw [demand_eq_ok]
  simp only [List.any_eq_true, beq_iff_eq, Bool.and_eq_true]

/-- What a write that goes through has done to the tables. -/
inductive Wrote (sha256 : String → String) (t : PostgresTables) : Write → PostgresTables → Prop
  | room (record : Room) (given : record.id ≠ "") (admits : Admits Room.id Room.same True record t.rooms) :
      Wrote sha256 t (.saveRoom record) { t with rooms := upsert Room.id record record.update t.rooms }
  | invite (record : Invite) (given : record.id ≠ "") (digest : String)
      (token : (record.sanitize sha256).token = .hash digest)
      (admits : Admits Invite.id Invite.same (InviteFits t (record.sanitize sha256)) (record.sanitize sha256)
        t.invites) :
      Wrote sha256 t (.saveInvite record)
        { t with
          invites := upsert Invite.id (record.sanitize sha256) (record.sanitize sha256).update t.invites }
  | approval (record : Approval) (given : record.id ≠ "") (uuid : record.minecraftUuid.isSome = true)
      (admits : Admits Approval.id Approval.same (ApprovalFits t record) record t.approvalRequests) :
      Wrote sha256 t (.saveApproval record)
        { t with approvalRequests := upsert Approval.id record record.update t.approvalRequests }
  | session (record : Session) (given : record.id ≠ "") (uuid : record.minecraftUuid.isSome = true)
      (admits : Admits Session.id Session.same (SessionFits t (record.sanitize sha256)) (record.sanitize sha256)
        t.sessions) :
      Wrote sha256 t (.saveSession record)
        { t with
          sessions := upsert Session.id (record.sanitize sha256) (record.sanitize sha256).update t.sessions }
  | presence (record : PresenceRow)
      (admits : Admits PresenceRow.roomId PresenceRow.same
        (∃ room ∈ t.rooms, room.id = record.roomId ∧ room.hostId = record.hostId) record t.presence) :
      Wrote sha256 t (.savePresence record)
        { t with presence := upsert PresenceRow.roomId record record.update t.presence }
  | counter (now : Int) (request : RateLimitRequest) (counters : List RateLimitCounterRow)
      (id : UniqueOn RateLimitCounterRow.id t.rateLimitCounters → UniqueOn RateLimitCounterRow.id counters)
      (scopeSignal : UniqueOn RateLimitCounterRow.scopeSignal t.rateLimitCounters →
        UniqueOn RateLimitCounterRow.scopeSignal counters) :
      Wrote sha256 t (.incrementRateLimitCounter now request) { t with rateLimitCounters := counters }
  | audit (stored : StoredAuditEvent) (fresh : ∀ event ∈ t.auditEvents, event.id ≠ stored.id) :
      Wrote sha256 t (.recordAuditEvent stored) { t with auditEvents := t.auditEvents ++ [stored] }

theorem upsertCounter_unique {excluded stored : RateLimitCounterRow} {rows rows' : List RateLimitCounterRow}
    (h : upsertCounter columns excluded rows = .ok (stored, rows')) :
    (UniqueOn RateLimitCounterRow.id rows → UniqueOn RateLimitCounterRow.id rows') ∧
      (UniqueOn RateLimitCounterRow.scopeSignal rows → UniqueOn RateLimitCounterRow.scopeSignal rows') := by
  have hkeys : UniqueOn RateLimitCounterRow.scopeSignal rows → UniqueOn RateLimitCounterRow.scopeSignal
      (upsert RateLimitCounterRow.scopeSignal excluded excluded.update rows) := fun hunique =>
    hunique.upsert (fun old _ _ => update_scopeSignal excluded old) Relational.select_eq_nil.1
  unfold upsertCounter at h
  split at h
  · cases h
  · split at h
    · rename_i old hold
      split at h
      · cases h
      · obtain ⟨-, rfl⟩ := Prod.mk.inj (Except.ok.inj h)
        refine ⟨fun hunique => hunique.upsert (fun old _ _ => update_id excluded old) fun hnew => ?_, hkeys⟩
        rw [hnew] at hold
        cases hold
    · split at h
      · cases h
      · rename_i hfree
        obtain ⟨-, rfl⟩ := Prod.mk.inj (Except.ok.inj h)
        refine ⟨fun hunique => hunique.upsert (fun old _ _ => update_id excluded old) fun _ old hold hid => ?_, hkeys⟩
        exact hfree (List.any_eq_true.2 ⟨old, hold, by simpa using hid⟩)

theorem incrementRateLimitCounter_wrote {now : Int} {request : RateLimitRequest} {answer : RateLimitAnswer}
    (h : t.incrementRateLimitCounter columns sha256 now request = .ok (answer, t')) :
    Wrote sha256 t (.incrementRateLimitCounter now request) t' := by
  unfold PostgresTables.incrementRateLimitCounter at h
  split at h
  · rename_i answer' db hdb
    obtain ⟨-, rfl⟩ := Prod.mk.inj (Except.ok.inj h)
    unfold Database.incrementRateLimitCounter at hdb
    split at hdb
    · cases hdb
    · dsimp only at hdb
      split at hdb
      · cases hdb
      · rename_i stored rows hrows
        obtain ⟨-, rfl⟩ := Prod.mk.inj hdb
        obtain ⟨hid, hkeys⟩ := upsertCounter_unique hrows
        exact .counter now request rows hid hkeys
  · cases h

/-- A write that goes through has done what `Wrote` says. -/
theorem apply_wrote {write : Write} (h : write.apply columns sha256 t = .ok t') : Wrote sha256 t write t' := by
  cases write with
  | saveRoom record =>
    unfold Write.apply PostgresTables.saveRoom at h
    rw [demand_bind_eq_ok, demand_bind_eq_ok, bind_eq_ok] at h
    obtain ⟨hid, -, rooms, hrooms, h⟩ := h
    obtain ⟨hadmits, rfl⟩ := saveRow_eq_ok.1 hrooms
    cases h
    exact .room record (by simpa using hid) (by simpa using hadmits)
  | saveInvite record =>
    unfold Write.apply PostgresTables.saveInvite at h
    rw [demand_bind_eq_ok, demand_bind_eq_ok, demand_bind_eq_ok, bind_eq_ok] at h
    obtain ⟨hid, -, htoken, invites, hinvites, h⟩ := h
    obtain ⟨hadmits, rfl⟩ := saveRow_eq_ok.1 hinvites
    rw [checkInvite_eq_ok] at hadmits
    cases h
    obtain ⟨digest, hdigest⟩ : ∃ digest, (record.sanitize sha256).token = .hash digest := by
      cases htoken' : (record.sanitize sha256).token <;> simp [htoken', Secret.column] at htoken ⊢
    exact .invite record (by simpa using hid) digest hdigest hadmits
  | saveApproval record =>
    unfold Write.apply PostgresTables.saveApproval at h
    rw [demand_bind_eq_ok, demand_bind_eq_ok, demand_bind_eq_ok, bind_eq_ok] at h
    obtain ⟨hid, -, huuid, approvals, happrovals, h⟩ := h
    obtain ⟨hadmits, rfl⟩ := saveRow_eq_ok.1 happrovals
    rw [checkApproval_eq_ok] at hadmits
    cases h
    exact .approval record (by simpa using hid) huuid hadmits
  | saveSession record =>
    unfold Write.apply PostgresTables.saveSession at h
    rw [demand_bind_eq_ok, demand_bind_eq_ok, demand_bind_eq_ok, bind_eq_ok] at h
    obtain ⟨hid, -, huuid, sessions, hsessions, h⟩ := h
    obtain ⟨hadmits, rfl⟩ := saveRow_eq_ok.1 hsessions
    rw [checkSession_eq_ok] at hadmits
    cases h
    exact .session record (by simpa using hid) huuid hadmits
  | savePresence record =>
    unfold Write.apply PostgresTables.savePresence at h
    rw [demand_bind_eq_ok, demand_bind_eq_ok, bind_eq_ok] at h
    obtain ⟨-, -, presence, hpresence, h⟩ := h
    obtain ⟨hadmits, rfl⟩ := saveRow_eq_ok.1 hpresence
    rw [checkPresence_eq_ok] at hadmits
    cases h
    exact .presence record hadmits
  | incrementRateLimitCounter now request =>
    obtain ⟨⟨answer, t₁⟩, hcounted, rfl⟩ := Throwing.map_eq_ok.1 h
    exact incrementRateLimitCounter_wrote hcounted
  | recordAuditEvent stored =>
    unfold Write.apply PostgresTables.recordAuditEvent at h
    rw [demand_bind_eq_ok, demand_bind_eq_ok, demand_bind_eq_ok] at h
    obtain ⟨-, -, hfresh, h⟩ := h
    cases h
    exact .audit stored (by simpa using hfresh)

/-! ### The constraints -/

/-- The constraints of `schema.sql`, with the columns that are never null. -/
structure Valid (t : PostgresTables) : Prop where
  schema : Schema t.database
  token : ∀ invite ∈ t.invites, ∃ digest, invite.token = .hash digest
  approvalUuid : ∀ approval ∈ t.approvalRequests, approval.minecraftUuid.isSome = true
  sessionUuid : ∀ session ∈ t.sessions, session.minecraftUuid.isSome = true

namespace Valid

theorem empty : Valid .empty where
  schema := by constructor <;> simp [PostgresTables.empty, PostgresTables.database, UniqueOn, References]
  token := nofun
  approvalUuid := nofun
  sessionUuid := nofun

theorem rooms_id (h : Valid t) : UniqueOn Room.id t.rooms := by
  have hrows : UniqueOn RoomRow.id (t.rooms.map Room.row) := h.schema.rooms_id
  exact (Relational.uniqueOn_map.1 hrows :)

theorem invites_id (h : Valid t) : UniqueOn Invite.id t.invites := by
  have hrows : UniqueOn InviteRow.id (t.invites.map Invite.row) := h.schema.invites_id
  exact (Relational.uniqueOn_map.1 hrows :)

theorem approvals_id (h : Valid t) : UniqueOn Approval.id t.approvalRequests := by
  have hrows : UniqueOn ApprovalRequestRow.id (t.approvalRequests.map Approval.row) := h.schema.approvals_id
  exact (Relational.uniqueOn_map.1 hrows :)

theorem sessions_id (h : Valid t) : UniqueOn Session.id t.sessions := by
  have hrows : UniqueOn SessionRow.id (t.sessions.map Session.row) := h.schema.sessions_id
  exact (Relational.uniqueOn_map.1 hrows :)

theorem saveRoom (h : Valid t) (record : Room) :
    Valid { t with rooms := upsert Room.id record record.update t.rooms } where
  schema :=
    { h.schema with
      rooms_id := h.schema.rooms_id.upsert_map (fun _ _ _ => rfl) Relational.select_eq_nil.1
      rooms_idHost := h.schema.rooms_idHost.upsert_map (fun _ _ _ => rfl) fun hnew old hold heq =>
        Relational.select_eq_nil.1 hnew old hold (congrArg Prod.fst heq)
      invites_room := h.schema.invites_room.upsert_parents_map fun _ _ _ => rfl
      approvals_room := h.schema.approvals_room.upsert_parents_map fun _ _ _ => rfl
      sessions_room := h.schema.sessions_room.upsert_parents_map fun _ _ _ => rfl
      presence_roomHost := h.schema.presence_roomHost.upsert_parents_map fun _ _ _ => rfl }
  token := h.token
  approvalUuid := h.approvalUuid
  sessionUuid := h.sessionUuid

theorem saveInvite (h : Valid t) {stored : Invite} {digest : String} (htoken : stored.token = .hash digest)
    (hnew : select Invite.id stored.id t.invites = [] → InviteFits t stored) :
    Valid { t with invites := upsert Invite.id stored stored.update t.invites } where
  schema :=
    { h.schema with
      invites_id := h.schema.invites_id.upsert_map (fun _ _ _ => rfl) Relational.select_eq_nil.1
      invites_tokenHash := by
        refine h.schema.invites_tokenHash.upsert_map (fun _ _ _ => rfl) fun hfresh old hold heq => ?_
        obtain ⟨d, hd⟩ := h.token old hold
        refine (hnew hfresh).token old hold ?_
        have hcolumns : d = digest := by simpa [Invite.row, hd, htoken, Secret.column] using heq
        rw [hd, htoken, hcolumns]
      invites_idRoom := h.schema.invites_idRoom.upsert_map (fun _ _ _ => rfl) fun hfresh old hold heq =>
        Relational.select_eq_nil.1 hfresh old hold (congrArg Prod.fst heq)
      invites_room := by
        refine h.schema.invites_room.upsert_map (fun _ _ _ => rfl) fun hfresh => ?_
        obtain ⟨room, hroom, hid⟩ := (hnew hfresh).room
        exact ⟨room.row, List.mem_map_of_mem hroom, hid⟩
      approvals_invite := h.schema.approvals_invite.upsert_parents_map fun _ _ _ => rfl }
  token := by
    intro invite hinvite
    rcases Relational.mem_upsert hinvite with ⟨rfl, -⟩ | ⟨old, hold, rfl | ⟨-, rfl⟩⟩
    · exact ⟨digest, htoken⟩
    · exact h.token _ hold
    · exact h.token old hold
  approvalUuid := h.approvalUuid
  sessionUuid := h.sessionUuid

theorem saveApproval (h : Valid t) {record : Approval} (huuid : record.minecraftUuid.isSome = true)
    (hnew : select Approval.id record.id t.approvalRequests = [] → ApprovalFits t record) :
    Valid { t with approvalRequests := upsert Approval.id record record.update t.approvalRequests } where
  schema :=
    { h.schema with
      approvals_id := h.schema.approvals_id.upsert_map (fun _ _ _ => rfl) Relational.select_eq_nil.1
      approvals_idRoomInvite := h.schema.approvals_idRoomInvite.upsert_map (fun _ _ _ => rfl) fun hfresh old hold heq =>
        Relational.select_eq_nil.1 hfresh old hold (congrArg Prod.fst heq)
      approvals_room := by
        refine h.schema.approvals_room.upsert_map (fun _ _ _ => rfl) fun hfresh => ?_
        obtain ⟨room, hroom, hid⟩ := (hnew hfresh).room
        exact ⟨room.row, List.mem_map_of_mem hroom, hid⟩
      approvals_invite := by
        refine h.schema.approvals_invite.upsert_map (fun _ _ _ => rfl) fun hfresh => ?_
        obtain ⟨invite, hinvite, hid, hroom⟩ := (hnew hfresh).invite
        exact ⟨invite.row, List.mem_map_of_mem hinvite, Prod.ext hid hroom⟩
      sessions_approval := h.schema.sessions_approval.upsert_parents_map fun _ _ _ => rfl }
  token := h.token
  approvalUuid := by
    intro approval happroval
    rcases Relational.mem_upsert happroval with ⟨rfl, -⟩ | ⟨old, hold, rfl | ⟨-, rfl⟩⟩
    · exact huuid
    · exact h.approvalUuid _ hold
    · exact h.approvalUuid old hold
  sessionUuid := h.sessionUuid

theorem saveSession (h : Valid t) {stored : Session} (huuid : stored.minecraftUuid.isSome = true)
    (hnew : select Session.id stored.id t.sessions = [] → SessionFits t stored) :
    Valid { t with sessions := upsert Session.id stored stored.update t.sessions } where
  schema :=
    { h.schema with
      sessions_id := h.schema.sessions_id.upsert_map (fun _ _ _ => rfl) Relational.select_eq_nil.1
      sessions_request := h.schema.sessions_request.upsert_map (fun _ _ _ => rfl) fun hfresh => (hnew hfresh).request
      sessions_room := by
        refine h.schema.sessions_room.upsert_map (fun _ _ _ => rfl) fun hfresh => ?_
        obtain ⟨room, hroom, hid⟩ := (hnew hfresh).room
        exact ⟨room.row, List.mem_map_of_mem hroom, hid⟩
      sessions_approval := by
        refine h.schema.sessions_approval.upsert_map (fun _ _ _ => rfl) fun hfresh => ?_
        obtain ⟨approval, happroval, hid, hroom, hinvite⟩ := (hnew hfresh).approval
        exact ⟨approval.row, List.mem_map_of_mem happroval, Prod.ext hid (Prod.ext hroom hinvite)⟩ }
  token := h.token
  approvalUuid := h.approvalUuid
  sessionUuid := by
    intro session hsession
    rcases Relational.mem_upsert hsession with ⟨rfl, -⟩ | ⟨old, hold, rfl | ⟨-, rfl⟩⟩
    · exact huuid
    · exact h.sessionUuid _ hold
    · exact h.sessionUuid old hold

theorem savePresence (h : Valid t) {record : PresenceRow}
    (hnew : select PresenceRow.roomId record.roomId t.presence = [] →
      ∃ room ∈ t.rooms, room.id = record.roomId ∧ room.hostId = record.hostId) :
    Valid { t with presence := upsert PresenceRow.roomId record record.update t.presence } where
  schema :=
    { h.schema with
      presence_room := h.schema.presence_room.upsert (fun _ _ _ => rfl) Relational.select_eq_nil.1
      presence_roomHost := by
        refine h.schema.presence_roomHost.upsert (fun _ _ _ => rfl) fun hfresh => ?_
        obtain ⟨room, hroom, hid, hhost⟩ := hnew hfresh
        exact ⟨room.row, List.mem_map_of_mem hroom, Prod.ext hid hhost⟩ }
  token := h.token
  approvalUuid := h.approvalUuid
  sessionUuid := h.sessionUuid

theorem write (h : Valid t) {write : Write} (hwrote : Wrote sha256 t write t') : Valid t' := by
  cases hwrote with
  | room record given admits => exact h.saveRoom record
  | invite record given digest token admits => exact h.saveInvite token admits.new
  | approval record given uuid admits => exact h.saveApproval uuid admits.new
  | session record given uuid admits => exact h.saveSession uuid admits.new
  | presence record admits => exact h.savePresence admits.new
  | counter now request counters id scopeSignal =>
    exact ⟨{ h.schema with
      counters_id := id h.schema.counters_id
      counters_scopeSignal := scopeSignal h.schema.counters_scopeSignal }, h.token, h.approvalUuid, h.sessionUuid⟩
  | audit stored fresh => exact ⟨h.schema, h.token, h.approvalUuid, h.sessionUuid⟩

end Valid

/-! ### Cleaning up -/

private theorem any_map_beq {ρ κ : Type} [DecidableEq κ] (rows : List ρ) (f : ρ → κ) (k : κ) :
    (rows.map f).contains k = rows.any fun row => f row == k := by
  induction rows with
  | nil => rfl
  | cons row rows ih =>
    rw [List.map_cons, List.contains_cons, List.any_cons, ih, Bool.beq_comm]

theorem refersTo_invites (invites : List Invite) (approval : Approval) :
    Relational.refersTo ApprovalRequestRow.inviteRoom InviteRow.idRoom (invites.map Invite.row) approval.row =
      invites.any fun invite => invite.id == approval.inviteId && invite.roomId == approval.roomId := by
  unfold Relational.refersTo
  rw [List.map_map, any_map_beq]
  refine List.any_congr rfl fun invite => ?_
  rw [Bool.eq_iff_iff]
  simp [InviteRow.idRoom, ApprovalRequestRow.inviteRoom, Invite.row, Approval.row]

theorem refersTo_approvals (approvals : List Approval) (session : Session) :
    Relational.refersTo SessionRow.requestRoomInvite ApprovalRequestRow.idRoomInvite (approvals.map Approval.row)
      session.row =
        approvals.any fun approval => approval.id == session.requestId && approval.roomId == session.roomId &&
          approval.inviteId == session.inviteId := by
  unfold Relational.refersTo
  rw [List.map_map, any_map_beq]
  refine List.any_congr rfl fun approval => ?_
  rw [Bool.eq_iff_iff]
  simp [ApprovalRequestRow.idRoomInvite, SessionRow.requestRoomInvite, Approval.row, Session.row, and_assoc]

attribute [ext] Database

/-- A cleanup of all the columns is the cleanup of those it goes by. -/
theorem database_cleanupExpiredState (now : Int) (t : PostgresTables) :
    (t.cleanupExpiredState now).database = t.database.cleaned now := by
  have hlive : t.database.liveSessions now =
      (t.sessions.filter fun session => !Database.isExpired now session.expiresAt).map Session.row := List.filter_map
  have habandoned : (Database.isAbandoned now (t.database.liveSessions now)) ∘ Invite.row =
      fun invite => Database.isExpired now invite.expiresAt &&
        !(t.sessions.filter fun session => !Database.isExpired now session.expiresAt).any fun session =>
          session.inviteId == invite.id := by
    funext invite
    rw [hlive]
    unfold Database.isAbandoned
    simp only [Function.comp_apply, List.any_map]
    rfl
  have hinvites : t.database.invites.filter (Database.isAbandoned now (t.database.liveSessions now)) =
      (t.invites.filter fun invite => Database.isExpired now invite.expiresAt &&
        !(t.sessions.filter fun session => !Database.isExpired now session.expiresAt).any fun session =>
          session.inviteId == invite.id).map Invite.row := by
    rw [← habandoned]
    exact List.filter_map
  have horphaned : (t.database.isOrphaned now) ∘ Approval.row = fun approval =>
      (t.invites.filter fun invite => Database.isExpired now invite.expiresAt &&
        !(t.sessions.filter fun session => !Database.isExpired now session.expiresAt).any fun session =>
          session.inviteId == invite.id).any fun invite =>
            invite.id == approval.inviteId && invite.roomId == approval.roomId := by
    funext approval
    unfold Database.isOrphaned
    rw [Function.comp_apply, hinvites, refersTo_invites]
  have happrovals : t.database.approvalRequests.filter (t.database.isOrphaned now) =
      (t.approvalRequests.filter fun approval =>
        (t.invites.filter fun invite => Database.isExpired now invite.expiresAt &&
          !(t.sessions.filter fun session => !Database.isExpired now session.expiresAt).any fun session =>
            session.inviteId == invite.id).any fun invite =>
              invite.id == approval.inviteId && invite.roomId == approval.roomId).map Approval.row := by
    rw [← horphaned]
    exact List.filter_map
  refine Database.ext rfl ?_ ?_ ?_ rfl rfl
  · rw [cleaned_invites]
    refine Eq.trans ?_ List.filter_map.symm
    exact congrArg _ (List.filter_congr fun invite _ => congrArg (!·) (congrFun habandoned invite).symm)
  · rw [cleaned_approvalRequests]
    refine Eq.trans ?_ List.filter_map.symm
    exact congrArg _ (List.filter_congr fun approval _ => congrArg (!·) (congrFun horphaned approval).symm)
  · change _ = Relational.cascade SessionRow.requestRoomInvite ApprovalRequestRow.idRoomInvite
      (t.database.approvalRequests.filter (t.database.isOrphaned now)) (t.database.liveSessions now)
    rw [happrovals, hlive]
    refine Eq.trans ?_ List.filter_map.symm
    exact congrArg _ (List.filter_congr fun session _ => congrArg (!·) (refersTo_approvals _ session).symm)

/-- A step commits some writes, cleans up, or leaves everything as it is. -/
theorem step_cases (columns : ColumnTypes) (sha256 : String → String) (t : PostgresTables) (input : PostgresInput) :
    (t.step columns sha256 input).2 = t ∨
      (∃ writes, commit columns sha256 t writes = .ok (t.step columns sha256 input).2) ∨
      ∃ now, (t.step columns sha256 input).2 = t.cleanupExpiredState now := by
  cases input with
  | transaction writes =>
    unfold PostgresTables.step
    dsimp only
    split
    · rename_i t' hcommit
      exact .inr (.inl ⟨writes, hcommit⟩)
    · exact .inl rfl
  | cleanup now => exact .inr (.inr ⟨now, rfl⟩)

namespace Valid

theorem cleanup (h : Valid t) (now : Int) : Valid (t.cleanupExpiredState now) where
  schema := by
    rw [database_cleanupExpiredState]
    exact h.schema.cleaned now
  token invite hinvite := h.token invite (List.mem_of_mem_filter hinvite)
  approvalUuid approval happroval := h.approvalUuid approval (List.mem_of_mem_filter happroval)
  sessionUuid session hsession := h.sessionUuid session (List.mem_of_mem_filter (List.mem_of_mem_filter hsession))

theorem commit (h : Valid t) {writes : List Write} (hcommit : commit columns sha256 t writes = .ok t') : Valid t' :=
  Throwing.foldlM_invariant (fun _ => Valid) (fun _ _ _ _ hvalid happly => hvalid.write (apply_wrote happly)) h hcommit

theorem step (h : Valid t) (input : PostgresInput) : Valid (t.step columns sha256 input).2 := by
  rcases step_cases columns sha256 t input with hsame | ⟨writes, hcommit⟩ | ⟨now, hcleanup⟩
  · rw [hsame]
    exact h
  · exact h.commit hcommit
  · rw [hcleanup]
    exact h.cleanup now

/-- The constraints hold after every run of transactions and cleanups. -/
theorem run (h : Valid t) (inputs : List PostgresInput) :
    Valid (Machine.run (PostgresTables.step columns sha256) t inputs) :=
  Machine.run_invariant (I := Valid) (P := fun _ _ => True) (fun _ input h _ => h.step input) h
    (.of_forall (fun _ _ => trivial) _)

end Valid

/-! ### What a row is -/

/-- The columns that say what a row is. -/
def Room.identity (room : Room) : String × String × Int := (room.id, room.hostId, room.createdAt)

def Invite.identity (invite : Invite) : String × String × Secret × Int :=
  (invite.id, invite.roomId, invite.token, invite.createdAt)

def Approval.identity (approval : Approval) : String × String × String × Option String × Option String × Int :=
  (approval.id, approval.roomId, approval.inviteId, approval.friendId, approval.minecraftUuid, approval.createdAt)

def Session.identity (session : Session) : String × String × String × String × Option String × Secret × Int :=
  (session.id, session.roomId, session.inviteId, session.requestId, session.minecraftUuid, session.sessionCredential,
    session.issuedAt)

/-- Every row is still there, perhaps with other contents. -/
structure Carries (t t' : PostgresTables) : Prop where
  rooms : ∀ room ∈ t.rooms, ∃ room' ∈ t'.rooms, room'.identity = room.identity
  invites : ∀ invite ∈ t.invites, ∃ invite' ∈ t'.invites, invite'.identity = invite.identity
  approvals : ∀ approval ∈ t.approvalRequests, ∃ approval' ∈ t'.approvalRequests,
    approval'.identity = approval.identity
  sessions : ∀ session ∈ t.sessions, ∃ session' ∈ t'.sessions, session'.identity = session.identity

private theorem exists_trans {ρ γ : Type} {f : ρ → γ} {rows₁ rows₂ rows₃ : List ρ}
    (h : ∀ row ∈ rows₁, ∃ row' ∈ rows₂, f row' = f row) (h' : ∀ row ∈ rows₂, ∃ row' ∈ rows₃, f row' = f row) :
    ∀ row ∈ rows₁, ∃ row' ∈ rows₃, f row' = f row := by
  intro row hrow
  obtain ⟨row₂, hrow₂, hf⟩ := h row hrow
  obtain ⟨row₃, hrow₃, hf'⟩ := h' row₂ hrow₂
  exact ⟨row₃, hrow₃, hf'.trans hf⟩

theorem Carries.refl (t : PostgresTables) : Carries t t :=
  ⟨fun row h => ⟨row, h, rfl⟩, fun row h => ⟨row, h, rfl⟩, fun row h => ⟨row, h, rfl⟩, fun row h => ⟨row, h, rfl⟩⟩

theorem Carries.trans {t₁ t₂ t₃ : PostgresTables} (h : Carries t₁ t₂) (h' : Carries t₂ t₃) : Carries t₁ t₃ :=
  ⟨exists_trans h.rooms h'.rooms, exists_trans h.invites h'.invites, exists_trans h.approvals h'.approvals,
    exists_trans h.sessions h'.sessions⟩

theorem Carries.write {write : Write} (hwrote : Wrote sha256 t write t') : Carries t t' := by
  cases hwrote with
  | room record given admits =>
    have hkept (old : Room) : (record.update old).identity = old.identity := rfl
    exact { Carries.refl t with rooms := fun _ h => Relational.exists_mem_upsert Room.identity hkept h }
  | invite record given digest token admits =>
    have hkept (old : Invite) : ((record.sanitize sha256).update old).identity = old.identity := rfl
    exact { Carries.refl t with invites := fun _ h => Relational.exists_mem_upsert Invite.identity hkept h }
  | approval record given uuid admits =>
    have hkept (old : Approval) : (record.update old).identity = old.identity := rfl
    exact { Carries.refl t with approvals := fun _ h => Relational.exists_mem_upsert Approval.identity hkept h }
  | session record given uuid admits =>
    have hkept (old : Session) : ((record.sanitize sha256).update old).identity = old.identity := rfl
    exact { Carries.refl t with sessions := fun _ h => Relational.exists_mem_upsert Session.identity hkept h }
  | presence record admits => exact { Carries.refl t with }
  | counter now request counters id scopeSignal => exact { Carries.refl t with }
  | audit stored fresh => exact { Carries.refl t with }

theorem Carries.commit {writes : List Write} (hcommit : commit columns sha256 t writes = .ok t') : Carries t t' :=
  Throwing.foldlM_invariant (fun _ => Carries t)
    (fun _ _ _ _ hcarries happly => hcarries.trans (.write (apply_wrote happly))) (.refl t) hcommit

/-- A row that is there again after a step is the one that was there before it. -/
structure Keeps (t t' : PostgresTables) : Prop where
  rooms : ∀ room ∈ t.rooms, ∀ room' ∈ t'.rooms, room'.id = room.id → room'.identity = room.identity
  invites : ∀ invite ∈ t.invites, ∀ invite' ∈ t'.invites, invite'.id = invite.id → invite'.identity = invite.identity
  approvals : ∀ approval ∈ t.approvalRequests, ∀ approval' ∈ t'.approvalRequests, approval'.id = approval.id →
    approval'.identity = approval.identity
  sessions : ∀ session ∈ t.sessions, ∀ session' ∈ t'.sessions, session'.id = session.id →
    session'.identity = session.identity

/-- A carried row is the only one with its id. -/
private theorem identity_of_carried {ρ γ : Type} {id : ρ → String} {f : ρ → γ} {rows rows' : List ρ}
    (hid : ∀ row row', f row = f row' → id row = id row') (hunique : UniqueOn id rows')
    (hcarries : ∀ row ∈ rows, ∃ row' ∈ rows', f row' = f row) :
    ∀ row ∈ rows, ∀ row' ∈ rows', id row' = id row → f row' = f row := by
  intro row hrow row' hrow' hsame
  obtain ⟨carried, hcarried, hf⟩ := hcarries row hrow
  rw [hunique.eq_of_mem hrow' hcarried (hsame.trans (hid _ _ hf).symm), hf]

theorem Carries.keeps (h : Carries t t') (hvalid : Valid t') : Keeps t t' :=
  ⟨identity_of_carried (fun _ _ h => congrArg Prod.fst h) hvalid.rooms_id h.rooms,
    identity_of_carried (fun _ _ h => congrArg Prod.fst h) hvalid.invites_id h.invites,
    identity_of_carried (fun _ _ h => congrArg Prod.fst h) hvalid.approvals_id h.approvals,
    identity_of_carried (fun _ _ h => congrArg Prod.fst h) hvalid.sessions_id h.sessions⟩

theorem Keeps.step (hvalid : Valid t) (input : PostgresInput) : Keeps t (t.step columns sha256 input).2 := by
  rcases step_cases columns sha256 t input with hsame | ⟨writes, hcommit⟩ | ⟨now, hcleanup⟩
  · rw [hsame]
    exact (Carries.refl t).keeps hvalid
  · exact (Carries.commit hcommit).keeps (hvalid.commit hcommit)
  · -- What is left was there before.
    rw [hcleanup]
    refine ⟨?_, ?_, ?_, ?_⟩
    · intro room hroom room' hroom' hid
      rw [hvalid.rooms_id.eq_of_mem hroom' hroom hid]
    · intro invite hinvite invite' hinvite' hid
      rw [hvalid.invites_id.eq_of_mem (List.mem_of_mem_filter hinvite') hinvite hid]
    · intro approval happroval approval' happroval' hid
      rw [hvalid.approvals_id.eq_of_mem (List.mem_of_mem_filter happroval') happroval hid]
    · intro session hsession session' hsession' hid
      rw [hvalid.sessions_id.eq_of_mem (List.mem_of_mem_filter (List.mem_of_mem_filter hsession')) hsession hid]

/-! ### Behind a session -/

/-- The request, the invite and the room that a stored session was issued for. -/
structure Behind (t : PostgresTables) (session : Session) (approval : Approval) (invite : Invite) (room : Room) :
    Prop where
  session_mem : session ∈ t.sessions
  approval_mem : approval ∈ t.approvalRequests
  invite_mem : invite ∈ t.invites
  room_mem : room ∈ t.rooms
  request : approval.id = session.requestId
  sessionInvite : approval.inviteId = session.inviteId
  sessionRoom : approval.roomId = session.roomId
  invite_id : invite.id = session.inviteId
  invite_room : invite.roomId = session.roomId
  room_id : room.id = session.roomId

/-- The same four things, whatever else their rows say. -/
structure SameChain (session session' : Session) (approval approval' : Approval) (invite invite' : Invite)
    (room room' : Room) : Prop where
  session : session'.identity = session.identity
  approval : approval'.identity = approval.identity
  invite : invite'.identity = invite.identity
  room : room'.identity = room.identity

/-- No stored session is without them. -/
theorem Valid.behind (h : Valid t) {session : Session} (hsession : session ∈ t.sessions) :
    ∃ approval invite room, Behind t session approval invite room := by
  obtain ⟨row, hrow, hrequest⟩ := h.schema.sessions_approval session.row (List.mem_map_of_mem hsession)
  obtain ⟨approval, happroval, rfl⟩ := List.mem_map.1 hrow
  obtain ⟨row, hrow, hinvite⟩ := h.schema.approvals_invite approval.row (List.mem_map_of_mem happroval)
  obtain ⟨invite, hmem, rfl⟩ := List.mem_map.1 hrow
  obtain ⟨row, hrow, hroom⟩ := h.schema.invites_room invite.row (List.mem_map_of_mem hmem)
  obtain ⟨room, hmem', rfl⟩ := List.mem_map.1 hrow
  obtain ⟨hid, hroomId, hinviteId⟩ : approval.id = session.requestId ∧ approval.roomId = session.roomId ∧
      approval.inviteId = session.inviteId := by
    obtain ⟨hid, hrest⟩ := Prod.mk.inj hrequest
    exact ⟨hid, Prod.mk.inj hrest⟩
  obtain ⟨hinviteId', hroomId'⟩ : invite.id = approval.inviteId ∧ invite.roomId = approval.roomId :=
    Prod.mk.inj hinvite
  have hroom : room.id = invite.roomId := hroom
  exact ⟨approval, invite, room, hsession, happroval, hmem, hmem', hid, hinviteId, hroomId,
    hinviteId'.trans hinviteId, hroomId'.trans hroomId, hroom.trans (hroomId'.trans hroomId)⟩

/-- A session that is still there after a step has the same request, invite and room behind it. -/
theorem Behind.step {session : Session} {approval : Approval} {invite : Invite} {room : Room}
    (h : Behind t session approval invite room) (hkeeps : Keeps t t') (hvalid : Valid t') {session' : Session}
    (hsession' : session' ∈ t'.sessions) (hid : session'.id = session.id) :
    ∃ approval' invite' room', Behind t' session' approval' invite' room' ∧
      SameChain session session' approval approval' invite invite' room room' := by
  obtain ⟨approval', invite', room', hbehind⟩ := hvalid.behind hsession'
  have hsession := hkeeps.sessions session h.session_mem session' hsession' hid
  have hrequest : session'.requestId = session.requestId := congrArg (fun key => key.2.2.2.1) hsession
  have hinvite : session'.inviteId = session.inviteId := congrArg (fun key => key.2.2.1) hsession
  have hroom : session'.roomId = session.roomId := congrArg (fun key => key.2.1) hsession
  refine ⟨approval', invite', room', hbehind, hsession, ?_, ?_, ?_⟩
  · exact hkeeps.approvals approval h.approval_mem approval' hbehind.approval_mem
      (hbehind.request.trans (hrequest.trans h.request.symm))
  · exact hkeeps.invites invite h.invite_mem invite' hbehind.invite_mem
      (hbehind.invite_id.trans (hinvite.trans h.invite_id.symm))
  · exact hkeeps.rooms room h.room_mem room' hbehind.room_mem (hbehind.room_id.trans (hroom.trans h.room_id.symm))

theorem SameChain.trans {s₁ s₂ s₃ : Session} {a₁ a₂ a₃ : Approval} {i₁ i₂ i₃ : Invite} {r₁ r₂ r₃ : Room}
    (h : SameChain s₁ s₂ a₁ a₂ i₁ i₂ r₁ r₂) (h' : SameChain s₂ s₃ a₂ a₃ i₂ i₃ r₂ r₃) :
    SameChain s₁ s₃ a₁ a₃ i₁ i₃ r₁ r₃ :=
  ⟨h'.session.trans h.session, h'.approval.trans h.approval, h'.invite.trans h.invite, h'.room.trans h.room⟩

theorem Behind.run {session : Session} {approval : Approval} {invite : Invite} {room : Room}
    (h : Behind t session approval invite room) (hvalid : Valid t) {inputs : List PostgresInput}
    (hstays : ∀ earlier, earlier <+: inputs →
      ∃ session' ∈ (Machine.run (PostgresTables.step columns sha256) t earlier).sessions, session'.id = session.id) :
    ∃ session' approval' invite' room',
      Behind (Machine.run (PostgresTables.step columns sha256) t inputs) session' approval' invite' room' ∧
        SameChain session session' approval approval' invite invite' room room' := by
  induction inputs generalizing t session approval invite room with
  | nil => exact ⟨session, approval, invite, room, h, rfl, rfl, rfl, rfl⟩
  | cons input inputs ih =>
    obtain ⟨session₁, hsession₁, hid⟩ := hstays [input] (by simp)
    obtain ⟨approval₁, invite₁, room₁, hbehind, hsame⟩ :=
      h.step (Keeps.step hvalid input) (hvalid.step input) hsession₁ hid
    obtain ⟨session', approval', invite', room', hbehind', hsame'⟩ := ih hbehind (hvalid.step input) (by
      intro earlier hearlier
      obtain ⟨session₂, hsession₂, hid₂⟩ := hstays (input :: earlier) (List.cons_prefix_cons.2 ⟨rfl, hearlier⟩)
      exact ⟨session₂, hsession₂, hid₂.trans hid.symm⟩)
    exact ⟨session', approval', invite', room', hbehind', hsame.trans hsame'⟩

/-- In every run of the repository, from the empty tables, every stored session has a request, an invite and a room
behind it, and for as long as it stays stored they are the same ones: no write and no cleanup changes the player, the
friend, the invite's token or the room's host behind a session. -/
theorem session_chain_kept (columns : ColumnTypes) (sha256 : String → String) (before after : List PostgresInput) :
    let t := Machine.run (PostgresTables.step columns sha256) .empty before
    let run := Machine.run (PostgresTables.step columns sha256) t
    Schema t.database ∧ ∀ session ∈ t.sessions, ∃ approval invite room, Behind t session approval invite room ∧
      ((∀ earlier, earlier <+: after → ∃ session' ∈ (run earlier).sessions, session'.id = session.id) →
        ∃ session' approval' invite' room', Behind (run after) session' approval' invite' room' ∧
          SameChain session session' approval approval' invite invite' room room') := by
  intro t run
  have hvalid : Valid t := Valid.empty.run before
  refine ⟨hvalid.schema, fun session hsession => ?_⟩
  obtain ⟨approval, invite, room, hbehind⟩ := hvalid.behind hsession
  exact ⟨approval, invite, room, hbehind, hbehind.run hvalid⟩

end EasyMc.ControlPlane
