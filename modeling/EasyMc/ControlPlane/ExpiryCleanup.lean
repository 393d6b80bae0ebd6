import EasyMc.ControlPlane.PostgresRepository

/-!
# Cleaning up is not seen

A cleanup of the Postgres repository deletes what has expired, and with an invite the approvals that refer to it and
the sessions that refer to those.  Nothing goes that has not expired (`cleanup_frame`), so whatever else the repository
is asked it answers the same, whenever it is cleaned up (`cleanup_invisible`).
-/

namespace EasyMc.ControlPlane

open Relational (UniqueOn References select cascade)

variable {columns : ColumnTypes} {sha256 : String → String} {db db' : Database} {now t : Int}

/-- The time of expiry, if there is one, is still to come. -/
def Unexpired (now : Int) (expiresAt : Option Int) : Prop := ∀ time, expiresAt = some time → now < time

theorem isExpired_eq_false {expiresAt : Option Int} :
    Database.isExpired now expiresAt = false ↔ Unexpired now expiresAt := by
  cases expiresAt with
  | none => simp [Database.isExpired, Unexpired]
  | some time => simp [Database.isExpired, Unexpired]

/-! ### What a cleanup deletes -/

/-- The database after a cleanup. -/
abbrev Database.cleaned (now : Int) (db : Database) : Database := (db.cleanupExpiredState now).2

/-- The sessions that have not expired. -/
def Database.liveSessions (now : Int) (db : Database) : List SessionRow :=
  db.sessions.filter fun session => !Database.isExpired now session.expiresAt

/-- An approval of one of the invites that a cleanup deletes. -/
def Database.isOrphaned (now : Int) (db : Database) (approval : ApprovalRequestRow) : Bool :=
  Relational.refersTo ApprovalRequestRow.inviteRoom InviteRow.idRoom
    (db.invites.filter (Database.isAbandoned now (db.liveSessions now))) approval

theorem cleaned_invites (now : Int) (db : Database) : (db.cleaned now).invites =
    db.invites.filter fun invite => !Database.isAbandoned now (db.liveSessions now) invite := rfl

theorem cleaned_approvalRequests (now : Int) (db : Database) : (db.cleaned now).approvalRequests =
    cascade ApprovalRequestRow.inviteRoom InviteRow.idRoom
      (db.invites.filter (Database.isAbandoned now (db.liveSessions now))) db.approvalRequests := rfl

theorem cleaned_presence (now : Int) (db : Database) :
    (db.cleaned now).presence = db.presence.filter fun row => !decide (row.expiresAt ≤ now) := rfl

theorem cleaned_rateLimitCounters (now : Int) (db : Database) : (db.cleaned now).rateLimitCounters =
    db.rateLimitCounters.filter fun row => !decide (row.resetAt ≤ now) := rfl

/-- With the invites no session goes: one that has not expired keeps its invite. -/
theorem cleaned_sessions (hschema : Schema db) (now : Int) : (db.cleaned now).sessions = db.liveSessions now := by
  change cascade SessionRow.requestRoomInvite ApprovalRequestRow.idRoomInvite
    (db.approvalRequests.filter (db.isOrphaned now)) (db.liveSessions now) = db.liveSessions now
  apply List.filter_eq_self.2
  intro session hsession
  obtain ⟨approval, happroval, hrefers⟩ := hschema.sessions_approval session (List.mem_of_mem_filter hsession)
  have hinvite : approval.inviteId = session.inviteId := congrArg (fun key => key.2.2) hrefers
  have horphaned : db.isOrphaned now approval = false := by
    by_contra h
    have h : db.isOrphaned now approval = true := by simpa using h
    obtain ⟨invite, hdeleted, hkey⟩ := Relational.refersTo_iff.1 h
    obtain ⟨-, habandoned⟩ := List.mem_filter.1 hdeleted
    have hid : invite.id = session.inviteId := (congrArg Prod.fst hkey).trans hinvite
    -- The session itself is one that refers to the invite.
    have hrefers : (db.liveSessions now).any (fun session => session.inviteId == invite.id) = true :=
      List.any_eq_true.2 ⟨session, hsession, by simp [hid]⟩
    unfold Database.isAbandoned at habandoned
    rw [hrefers, Bool.not_true, Bool.and_false] at habandoned
    cases habandoned
  have hkept := Relational.mem_cascade hschema.approvals_idRoomInvite hsession happroval hrefers horphaned
  exact (List.mem_filter.1 hkept).2

/-- What a cleanup leaves of a database. -/
structure Spares (now : Int) (db db' : Database) : Prop where
  sessions : ∀ session ∈ db.sessions, Unexpired now session.expiresAt → session ∈ db'.sessions
  invites : ∀ invite ∈ db.invites, Unexpired now invite.expiresAt → invite ∈ db'.invites
  presence : ∀ presence ∈ db.presence, now < presence.expiresAt → presence ∈ db'.presence
  rateLimitCounters : ∀ counter ∈ db.rateLimitCounters, now < counter.resetAt → counter ∈ db'.rateLimitCounters
  approvalRequests : ∀ approval ∈ db.approvalRequests, ∀ invite ∈ db.invites, invite.id = approval.inviteId →
    Unexpired now invite.expiresAt → approval ∈ db'.approvalRequests

theorem isAbandoned_of_unexpired {sessions : List SessionRow} {invite : InviteRow}
    (h : Unexpired now invite.expiresAt) : Database.isAbandoned now sessions invite = false := by
  unfold Database.isAbandoned
  rw [isExpired_eq_false.2 h, Bool.false_and]

theorem cleanup_frame (hschema : Schema db) (now : Int) : Spares now db (db.cleaned now) where
  sessions := by
    intro session hsession hunexpired
    rw [cleaned_sessions hschema]
    exact List.mem_filter.2 ⟨hsession, by rw [isExpired_eq_false.2 hunexpired]; rfl⟩
  invites := by
    intro invite hinvite hunexpired
    rw [cleaned_invites]
    exact List.mem_filter.2 ⟨hinvite, by rw [isAbandoned_of_unexpired hunexpired]; rfl⟩
  presence := by
    intro presence hpresence hunexpired
    rw [cleaned_presence]
    exact List.mem_filter.2 ⟨hpresence, by simpa using hunexpired⟩
  rateLimitCounters := by
    intro counter hcounter hunexpired
    rw [cleaned_rateLimitCounters]
    exact List.mem_filter.2 ⟨hcounter, by simpa using hunexpired⟩
  approvalRequests := by
    intro approval happroval invite hinvite hid hunexpired
    rw [cleaned_approvalRequests]
    -- The invite with this id is the one that the approval refers to, room and all.
    obtain ⟨parent, hparent, hrefers⟩ := hschema.approvals_invite approval happroval
    have hsame : parent = invite :=
      hschema.invites_id.eq_of_mem hparent hinvite ((congrArg Prod.fst hrefers).trans hid.symm)
    subst hsame
    exact Relational.mem_cascade hschema.invites_idRoom happroval hparent hrefers (isAbandoned_of_unexpired hunexpired)

/-- The constraints hold after a cleanup. -/
theorem Schema.cleaned (h : Schema db) (now : Int) : Schema (db.cleaned now) where
  rooms_id := h.rooms_id
  rooms_idHost := h.rooms_idHost
  invites_id := h.invites_id.filter _
  invites_tokenHash := h.invites_tokenHash.filter _
  invites_idRoom := h.invites_idRoom.filter _
  invites_room := h.invites_room.filter _
  approvals_id := h.approvals_id.filter _
  approvals_idRoomInvite := h.approvals_idRoomInvite.filter _
  approvals_room := h.approvals_room.filter _
  approvals_invite := h.approvals_invite.cascade _
  sessions_id := (h.sessions_id.filter _).filter _
  sessions_request := (h.sessions_request.filter _).filter _
  sessions_room := (h.sessions_room.filter _).filter _
  sessions_approval := by
    have hlive : References SessionRow.requestRoomInvite ApprovalRequestRow.idRoomInvite (db.liveSessions now)
        db.approvalRequests := h.sessions_approval.filter _
    exact hlive.cascade (db.isOrphaned now)
  presence_room := h.presence_room.filter _
  presence_roomHost := h.presence_roomHost.filter _
  counters_id := h.counters_id.filter _
  counters_scopeSignal := h.counters_scopeSignal.filter _

theorem PositiveTimestamps.cleaned (h : PositiveTimestamps db) (hschema : Schema db) (now : Int) :
    PositiveTimestamps (db.cleaned now) where
  invites := fun invite hinvite => h.invites invite (List.mem_of_mem_filter hinvite)
  sessions := by
    intro session hsession
    rw [cleaned_sessions hschema] at hsession
    exact h.sessions session (List.mem_of_mem_filter hsession)

theorem CountersKeyed.cleaned (h : CountersKeyed sha256 db) (now : Int) : CountersKeyed sha256 (db.cleaned now) where
  scopeSignal := h.scopeSignal.filter _
  id := h.id.filter _
  ownIds := fun row hrow => h.ownIds row (List.mem_of_mem_filter hrow)

/-! ### Two databases that are read alike -/

theorem isOpenAt_antitone {t u : Int} (htu : t ≤ u) {expiresAt : Option Int} (h : isOpenAt u expiresAt = true) :
    isOpenAt t expiresAt = true := by
  cases expiresAt with
  | none => rfl
  | some time =>
    simp only [isOpenAt, Bool.or_eq_true, beq_iff_eq, decide_eq_true_eq] at h ⊢
    omega

/-- Invites live while they are usable, sessions too, and presence until it expires. -/
def InviteRow.lifetime : Lifetime Int InviteRow where
  live now invite := invite.isInviteUsable now
  antitone := by
    intro t u invite htu h
    unfold InviteRow.isInviteUsable at h ⊢
    rw [Bool.and_eq_true] at h ⊢
    exact ⟨h.1, isOpenAt_antitone htu h.2⟩

def SessionRow.lifetime : Lifetime Int SessionRow where
  live now session := session.isSessionUsable now
  antitone := by
    intro t u session htu h
    unfold SessionRow.isSessionUsable at h ⊢
    rw [Bool.and_eq_true] at h ⊢
    exact ⟨h.1, isOpenAt_antitone htu h.2⟩

abbrev PresenceRow.lifetime : Lifetime Int PresenceRow := .before PresenceRow.expiresAt

/-- From `t` on the same lives in both databases under every key that is read. -/
structure ReadAlike (t : Int) (db db' : Database) : Prop where
  invites : ∀ tokenHash, InviteRow.lifetime.SameFrom t (select InviteRow.tokenHash tokenHash db.invites)
    (select InviteRow.tokenHash tokenHash db'.invites)
  sessions : ∀ sessionId, SessionRow.lifetime.SameFrom t (select SessionRow.id sessionId db.sessions)
    (select SessionRow.id sessionId db'.sessions)
  presence : ∀ roomId, PresenceRow.lifetime.SameFrom t (select PresenceRow.roomId roomId db.presence)
    (select PresenceRow.roomId roomId db'.presence)
  windows : ∀ scopeSignal, Window.lifetime.SameFrom t (db.windows scopeSignal) (db'.windows scopeSignal)

/-- What is assumed of a database. -/
structure Kept (sha256 : String → String) (db : Database) : Prop where
  schema : Schema db
  positive : PositiveTimestamps db
  ownIds : OwnIds sha256 db

theorem Kept.counters (h : Kept sha256 db) : CountersKeyed sha256 db :=
  ⟨h.schema.counters_scopeSignal, h.schema.counters_id, h.ownIds⟩

theorem Kept.cleaned (h : Kept sha256 db) (now : Int) : Kept sha256 (db.cleaned now) :=
  ⟨h.schema.cleaned now, h.positive.cleaned h.schema now, (h.counters.cleaned now).ownIds⟩

/-- To store other counters, with their keys apart, is all right. -/
theorem Kept.counted (h : Kept sha256 db) {rows : List RateLimitCounterRow}
    (hrows : CountersKeyed sha256 { db with rateLimitCounters := rows }) :
    Kept sha256 { db with rateLimitCounters := rows } :=
  ⟨{ h.schema with counters_id := hrows.id, counters_scopeSignal := hrows.scopeSignal }, ⟨h.positive.1, h.positive.2⟩,
    hrows.ownIds⟩

namespace ReadAlike

theorem refl (t : Int) (db : Database) : ReadAlike t db db :=
  ⟨fun _ => .refl _ _ _, fun _ => .refl _ _ _, fun _ => .refl _ _ _, fun _ => .refl _ _ _⟩

theorem mono {u : Int} (h : ReadAlike t db db') (htu : t ≤ u) : ReadAlike u db db' :=
  ⟨fun k => (h.invites k).mono htu, fun k => (h.sessions k).mono htu, fun k => (h.presence k).mono htu,
    fun k => (h.windows k).mono htu⟩

/-- A time of expiry that is positive and has passed is not open. -/
private theorem isExpired_of_isOpenAt {expiresAt : Option Int} (hpositive : ∀ time, expiresAt = some time → 0 < time)
    (h : isOpenAt now expiresAt = true) : Database.isExpired now expiresAt = false := by
  rw [isExpired_eq_false]
  intro time htime
  have hpositive := hpositive time htime
  subst htime
  simp only [isOpenAt, Bool.or_eq_true, beq_iff_eq, decide_eq_true_eq] at h
  omega

/-- A cleanup is not seen from its time on. -/
theorem cleaned (h : ReadAlike now db db') (hdb : Kept sha256 db) : ReadAlike now (db.cleaned now) db' where
  invites := by
    intro tokenHash
    rw [cleaned_invites, Relational.select_filter]
    apply (h.invites tokenHash).filter_left
    intro invite hinvite hlive
    have hopen : isOpenAt now invite.expiresAt = true := (Bool.and_eq_true_iff.1 hlive).2
    have hmem := (Relational.mem_select.1 hinvite).1
    have hexpired := isExpired_of_isOpenAt (hdb.positive.invites invite hmem) hopen
    rw [isAbandoned_of_unexpired (isExpired_eq_false.1 hexpired)]
    rfl
  sessions := by
    intro sessionId
    rw [cleaned_sessions hdb.schema, Database.liveSessions, Relational.select_filter]
    apply (h.sessions sessionId).filter_left
    intro session hsession hlive
    have hopen : isOpenAt now session.expiresAt = true := (Bool.and_eq_true_iff.1 hlive).2
    have hmem := (Relational.mem_select.1 hsession).1
    rw [isExpired_of_isOpenAt (hdb.positive.sessions session hmem) hopen]
    rfl
  presence := by
    intro roomId
    rw [cleaned_presence, Relational.select_filter]
    apply (h.presence roomId).filter_left
    intro presence _ hlive
    simpa [Lifetime.before] using hlive
  windows := by
    intro scopeSignal
    have hwindows : (db.cleaned now).windows scopeSignal =
        (db.windows scopeSignal).filter fun window => !decide (window.resetAt ≤ now) := by
      unfold Database.windows
      rw [cleaned_rateLimitCounters, Relational.select_filter, List.filter_map]
      rfl
    rw [hwindows]
    apply (h.windows scopeSignal).filter_left
    intro window _ hlive
    simpa [Lifetime.before] using hlive

/-- Of at most one row each, the same lives. -/
private theorem head_eq {α : Type} {L : Lifetime Int α} {rows rows' : List α} (h : L.SameFrom now rows rows')
    (hrows : rows.length ≤ 1) (hrows' : rows'.length ≤ 1) :
    rows.head?.filter (L.live now) = rows'.head?.filter (L.live now) := by
  rw [← Lifetime.head?_keep hrows, ← Lifetime.head?_keep hrows', h.keep_eq]

/-- The reply with a row that was found. -/
def replyWith {α : Type} (state : ErrorState) (row : Option α) : Reply α :=
  match row with
  | none => failWith state
  | some row => .ok row

theorem readInviteByToken (h : ReadAlike now db db') (hdb : Schema db) (hdb' : Schema db') (token : String) :
    db.readInviteByToken sha256 now token = db'.readInviteByToken sha256 now token := by
  have hreply : ∀ db : Database, db.readInviteByToken sha256 now token =
      if token == "" then failWith .inviteUnavailable
      else replyWith .inviteUnavailable
        ((select InviteRow.tokenHash (hashSensitiveValue sha256 (some token)) db.invites).head?.filter
          (InviteRow.lifetime.live now)) := by
    intro db
    unfold Database.readInviteByToken Database.selectInviteByTokenHash
    cases (select InviteRow.tokenHash (hashSensitiveValue sha256 (some token)) db.invites).head? with
    | none => rfl
    | some invite =>
      dsimp only
      rw [Option.filter_some]
      split
      · rfl
      · cases hlive : invite.isInviteUsable now <;> simp [InviteRow.lifetime, hlive, replyWith]
  rw [hreply, hreply, head_eq (h.invites _) (hdb.invites_tokenHash.length_select_le _)
    (hdb'.invites_tokenHash.length_select_le _)]

theorem readSession (h : ReadAlike now db db') (hdb : Schema db) (hdb' : Schema db') (sessionId : String) :
    db.readSession now sessionId = db'.readSession now sessionId := by
  have hreply : ∀ db : Database, db.readSession now sessionId =
      replyWith .sessionUnavailable
        ((select SessionRow.id sessionId db.sessions).head?.filter (SessionRow.lifetime.live now)) := by
    intro db
    unfold Database.readSession
    cases (select SessionRow.id sessionId db.sessions).head? with
    | none => rfl
    | some session =>
      dsimp only
      rw [Option.filter_some]
      cases hlive : session.isSessionUsable now <;> simp [SessionRow.lifetime, hlive, replyWith]
  rw [hreply, hreply, head_eq (h.sessions _) (hdb.sessions_id.length_select_le _)
    (hdb'.sessions_id.length_select_le _)]

theorem readPresence (h : ReadAlike now db db') (roomId : String) :
    db.readPresence now roomId = db'.readPresence now roomId := by
  have hkeep : (select PresenceRow.roomId roomId db.presence).filter (fun row => decide (now < row.expiresAt)) =
      (select PresenceRow.roomId roomId db'.presence).filter fun row => decide (now < row.expiresAt) :=
    (h.presence roomId).keep_eq
  unfold Database.readPresence
  rw [hkeep]

theorem next_eq (h : ReadAlike now db db') (hdb : CountersKeyed sha256 db) (hdb' : CountersKeyed sha256 db')
    (windowMs : Int) (scopeSignal : String × String) :
    Window.next now windowMs (db.windows scopeSignal).head? =
      Window.next now windowMs (db'.windows scopeSignal).head? := by
  unfold Window.next
  rw [head_eq (h.windows scopeSignal) (windows_length_le hdb _) (windows_length_le hdb' _)]

/-- The same is counted in both. -/
theorem incrementRateLimitCounter (columns : ColumnTypes) (hdigest : ∀ text, (sha256 text).length = 64)
    (h : ReadAlike now db db') (hdb : Kept sha256 db) (hdb' : Kept sha256 db') (request : RateLimitRequest) :
    (db.incrementRateLimitCounter columns sha256 now request).1 =
        (db'.incrementRateLimitCounter columns sha256 now request).1 ∧
      ReadAlike now (db.incrementRateLimitCounter columns sha256 now request).2
          (db'.incrementRateLimitCounter columns sha256 now request).2 ∧
        Kept sha256 (db.incrementRateLimitCounter columns sha256 now request).2 ∧
          Kept sha256 (db'.incrementRateLimitCounter columns sha256 now request).2 := by
  have hcounts := incrementRateLimitCounter_counts columns hdigest hdb.counters now request
  have hcounts' := incrementRateLimitCounter_counts columns hdigest hdb'.counters now request
  have hnext := h.next_eq hdb.counters hdb'.counters request.windowMs (request.scopeSignal sha256)
  have hrange : columns.counts sha256 now request (db.windows (request.scopeSignal sha256)).head? =
      columns.counts sha256 now request (db'.windows (request.scopeSignal sha256)).head? := by
    unfold ColumnTypes.counts
    rw [hnext]
  generalize db.incrementRateLimitCounter columns sha256 now request = reply at hcounts ⊢
  generalize db'.incrementRateLimitCounter columns sha256 now request = reply' at hcounts' ⊢
  cases hcounts with
  | refused hvalid =>
    cases hcounts' with
    | refused => exact ⟨rfl, h, hdb, hdb'⟩
    | unfit hvalid' => simp [hvalid] at hvalid'
    | counted hvalid' => simp [hvalid] at hvalid'
  | unfit hvalid hout =>
    cases hcounts' with
    | refused hvalid' => simp [hvalid] at hvalid'
    | unfit => exact ⟨rfl, h, hdb, hdb'⟩
    | counted _ hin => simp [← hrange, hout] at hin
  | counted hvalid hin rows hrows hkeyed =>
    cases hcounts' with
    | refused hvalid' => simp [hvalid] at hvalid'
    | unfit _ hout => simp [← hrange, hin] at hout
    | counted _ _ rows' hrows' hkeyed' =>
      refine ⟨by rw [hnext], ⟨h.invites, h.sessions, h.presence, ?_⟩, hdb.counted hkeyed, hdb'.counted hkeyed'⟩
      intro scopeSignal
      rw [hrows, hrows', hnext]
      split
      · exact .refl _ _ _
      · exact h.windows scopeSignal

end ReadAlike

/-! ### Runs -/

/-- What holds of two runs of which one is without cleanups. -/
structure RunAlike (sha256 : String → String) (t : Int) (db db' : Database) : Prop where
  alike : ReadAlike t db db'
  kept : Kept sha256 db
  kept' : Kept sha256 db'

theorem RunAlike.cleanup {call : RepositoryCall} (h : RunAlike sha256 t db db') (ht : t ≤ call.now)
    (hcleanup : call.isCleanup = true) : RunAlike sha256 call.now (db.step columns sha256 call).2 db' := by
  obtain ⟨now, request⟩ := call
  obtain rfl : request = .cleanupExpiredState := by simpa [RepositoryCall.isCleanup] using hcleanup
  exact ⟨(h.alike.mono ht).cleaned h.kept, h.kept.cleaned now, h.kept'⟩

theorem RunAlike.call (hdigest : ∀ text, (sha256 text).length = 64) {call : RepositoryCall}
    (h : RunAlike sha256 t db db') (ht : t ≤ call.now) (hcleanup : call.isCleanup = false) :
    (db.step columns sha256 call).1 = (db'.step columns sha256 call).1 ∧
      RunAlike sha256 call.now (db.step columns sha256 call).2 (db'.step columns sha256 call).2 := by
  have halike := h.alike.mono ht
  obtain ⟨now, request⟩ := call
  cases request with
  | readInviteByToken token =>
    exact ⟨congrArg RepositoryResult.invite (halike.readInviteByToken h.kept.schema h.kept'.schema token),
      halike, h.kept, h.kept'⟩
  | readSession sessionId =>
    exact ⟨congrArg RepositoryResult.session (halike.readSession h.kept.schema h.kept'.schema sessionId),
      halike, h.kept, h.kept'⟩
  | readPresence roomId =>
    exact ⟨congrArg RepositoryResult.presence (halike.readPresence roomId), halike, h.kept, h.kept'⟩
  | incrementRateLimitCounter request =>
    obtain ⟨hresult, hnext, hkept, hkept'⟩ := halike.incrementRateLimitCounter columns hdigest h.kept h.kept' request
    exact ⟨congrArg RepositoryResult.counted hresult, hnext, hkept, hkept'⟩
  | cleanupExpiredState => cases hcleanup

/-- A cleanup deletes nothing that has not expired, and if no counter has the id of another scope and signal, calls
whose clock never goes back return the same with any cleanups among them as without. -/
theorem cleanup_invisible (hdigest : ∀ text, (sha256 text).length = 64) (hschema : Schema db)
    (hpositive : PositiveTimestamps db) :
    (∀ now, Spares now db (db.cleaned now)) ∧
      (OwnIds sha256 db → ∀ calls : List RepositoryCall, (calls.map RepositoryCall.now).Pairwise (· ≤ ·) →
        db.results columns sha256 calls = db.results columns sha256 (calls.filter fun call => !call.isCleanup)) := by
  refine ⟨cleanup_frame hschema, ?_⟩
  intro hids calls hclock
  -- Without cleanups no result is left out.
  have hall : db.results columns sha256 (calls.filter fun call => !call.isCleanup) =
      (Machine.trace (Database.step columns sha256) db (calls.filter fun call => !call.isCleanup)).map
        Machine.Fired.output := by
    unfold Database.results
    rw [List.filter_eq_self.2]
    intro fired hfired
    have hinput : fired.input ∈ calls.filter fun call => !call.isCleanup := by
      have hinputs : (Machine.trace (Database.step columns sha256) db (calls.filter fun call => !call.isCleanup)).map
          Machine.Fired.input = calls.filter fun call => !call.isCleanup := Machine.trace_inputs db _
      rw [← hinputs]
      exact List.mem_map_of_mem hfired
    exact (List.mem_filter.1 hinput).2
  rw [hall]
  have hkept : Kept sha256 db := ⟨hschema, hpositive, hids⟩
  cases calls with
  | nil => rfl
  | cons call calls =>
    have hstart : RunAlike sha256 call.now db db := ⟨.refl _ _, hkept, hkept⟩
    have hcleanup : ∀ t db db' call, RunAlike sha256 t db db' → t ≤ RepositoryCall.now call →
        RepositoryCall.isCleanup call = true → RunAlike sha256 call.now (db.step columns sha256 call).2 db' :=
      fun _ _ _ _ h ht hcleanup => h.cleanup ht hcleanup
    have hcall : ∀ t db db' call, RunAlike sha256 t db db' → t ≤ RepositoryCall.now call →
        RepositoryCall.isCleanup call = false → (db.step columns sha256 call).1 = (db'.step columns sha256 call).1 ∧
          RunAlike sha256 call.now (db.step columns sha256 call).2 (db'.step columns sha256 call).2 :=
      fun _ _ _ _ h ht hcleanup => h.call hdigest ht hcleanup
    exact Machine.outputs_of_skip hcleanup hcall hstart (Machine.clocked_cons hclock)

/-- A counter that has expired, with an id that another scope and signal make. -/
def foreignIdDatabase : Database :=
  { rooms := [], invites := [], approvalRequests := [], sessions := [], presence := [],
    rateLimitCounters := [⟨counterId digestOfA "join" "a", "status", "b", 1, 1, 5, 5, 0⟩] }

def RepositoryResult.isCounted : RepositoryResult → Bool
  | .counted (.ok _) => true
  | _ => false

/-- The signal is counted after a cleanup, and is an error without it. -/
theorem not_cleanup_invisible :
    ¬ ∀ db : Database, Schema db → PositiveTimestamps db →
      ∀ calls : List RepositoryCall, (calls.map RepositoryCall.now).Pairwise (· ≤ ·) →
        db.results postgresColumns digestOfA calls =
          db.results postgresColumns digestOfA (calls.filter fun call => !call.isCleanup) := by
  intro h
  have hschema : Schema foreignIdDatabase := by constructor <;> decide
  have hpositive : PositiveTimestamps foreignIdDatabase :=
    ⟨fun row hrow => (List.not_mem_nil hrow).elim, fun row hrow => (List.not_mem_nil hrow).elim⟩
  have hsame := h foreignIdDatabase hschema hpositive
    [⟨10, .cleanupExpiredState⟩, ⟨10, .incrementRateLimitCounter ⟨"join", "a", 1, 10⟩⟩] (by decide)
  have hcounted := congrArg (List.map RepositoryResult.isCounted) hsame
  revert hcounted
  decide

/-- A room with an invite that expired but has a session that has not, another whose approval has no session, and
presence and a counter that have expired. -/
def expiringDatabase : Database :=
  { rooms := [⟨"room", "host"⟩]
    invites := [⟨"invite-1", "room", "hash-1", "active", 1, some 5, none⟩,
      ⟨"invite-2", "room", "hash-2", "active", 1, some 5, none⟩]
    approvalRequests := [⟨"request-1", "room", "invite-1"⟩, ⟨"request-2", "room", "invite-2"⟩]
    sessions := [⟨"session-1", "room", "invite-1", "request-1", "uuid", none, "issued", 2, some 20⟩]
    presence := [⟨"room", "host", "open", 2, 6⟩]
    rateLimitCounters := [⟨counterId digestOfA "join" "a", "join", digestOfA "a", 1, 1, 5, 6, 1⟩] }

theorem cleanup_invisible_expiring :
    Spares 6 expiringDatabase (expiringDatabase.cleaned 6) ∧
      expiringDatabase.results postgresColumns digestOfA
          [⟨6, .cleanupExpiredState⟩, ⟨6, .readSession "session-1"⟩, ⟨7, .readPresence "room"⟩,
            ⟨8, .incrementRateLimitCounter ⟨"join", "a", 1, 10⟩⟩, ⟨18, .cleanupExpiredState⟩,
            ⟨18, .incrementRateLimitCounter ⟨"join", "a", 1, 10⟩⟩] =
        expiringDatabase.results postgresColumns digestOfA
          [⟨6, .readSession "session-1"⟩, ⟨7, .readPresence "room"⟩,
            ⟨8, .incrementRateLimitCounter ⟨"join", "a", 1, 10⟩⟩,
            ⟨18, .incrementRateLimitCounter ⟨"join", "a", 1, 10⟩⟩] := by
  have hschema : Schema expiringDatabase := by constructor <;> decide
  have hpositive : PositiveTimestamps expiringDatabase := by
    constructor
    · intro invite hinvite time htime
      have hfive : ∀ invite ∈ expiringDatabase.invites, invite.expiresAt = some 5 := by decide
      have h := (hfive invite hinvite).symm.trans htime
      cases h
      decide
    · intro session hsession time htime
      have htwenty : ∀ session ∈ expiringDatabase.sessions, session.expiresAt = some 20 := by decide
      have h := (htwenty session hsession).symm.trans htime
      cases h
      decide
  have hids : OwnIds digestOfA expiringDatabase := by
    intro row hrow scope signal hid
    obtain rfl := List.mem_singleton.1 hrow
    obtain ⟨hscope, hhash⟩ := counterId_inj length_digestOfA hid
    exact Prod.ext hscope hhash
  obtain ⟨hframe, hruns⟩ := cleanup_invisible length_digestOfA hschema hpositive
  exact ⟨hframe 6, hruns hids _ (by decide)⟩

end EasyMc.ControlPlane
