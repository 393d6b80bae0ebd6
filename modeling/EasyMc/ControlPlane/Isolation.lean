import EasyMc.ControlPlane.Sessions

/-!
# One host cannot see or touch the rooms of another

A host's operations read records by room, invite and request ids, some of which may belong to another host.  Here
they run over two repositories that agree on the rooms of one host and on the records of these rooms, and may
differ in everything else.  Either the record the host names is of a room of its own, and then both runs make the
same calls and get the same answers (`Reading`, `Lockstep`); or it is not, and then both runs fail with the one error
that a missing record gives.  In either case the records of other rooms stay as they are (`ForeignKept`).
-/

namespace EasyMc.ControlPlane

open Await (Prog)

/-- The room is stored and its host is the actor. -/
def MemoryStore.Hosts (store : MemoryStore) (actorId roomId : String) : Prop :=
  ∃ room, store.rooms.get roomId = some room ∧ room.hostId = actorId

/-- A repository with presence: its records stand under their own ids, and the invite of an approval belongs to the
approval's room.  `presence` answers a read of a room's presence at a moment. -/
structure RepositoryState where
  store : MemoryStore
  presence : String → Nat → Except String (Reply Unit)
  room_id : ∀ k room, store.rooms.get k = some room → room.id = k
  invite_id : ∀ k invite, store.invites.get k = some invite → invite.id = k
  approval_id : ∀ k approval, store.approvals.get k = some approval → approval.id = k
  approval_invite : ∀ k approval invite, store.approvals.get k = some approval →
    store.invites.get approval.inviteId = some invite → invite.roomId = approval.roomId

/-- The two repositories agree on the actor's rooms and on the presence, invites, approvals and sessions of these
rooms. -/
structure AgreeFor (actorId : String) (s t : RepositoryState) : Prop where
  rooms : s.store.rooms.AgreesOn (fun room => room.hostId = actorId) t.store.rooms
  presence : ∀ roomId, s.store.Hosts actorId roomId → s.presence roomId = t.presence roomId
  invites : s.store.invites.AgreesOn (fun invite => s.store.Hosts actorId invite.roomId) t.store.invites
  approvals : s.store.approvals.AgreesOn (fun approval => s.store.Hosts actorId approval.roomId) t.store.approvals
  sessions : s.store.sessions.AgreesOn (fun session => s.store.Hosts actorId session.roomId) t.store.sessions

/-- No room has changed, and no invite, approval or session of a room that is not the actor's has been added,
changed or removed. -/
structure ForeignKept (actorId : String) (before after : MemoryStore) : Prop where
  rooms : after.rooms = before.rooms
  invites : before.invites.AgreesOn (fun invite => ¬ before.Hosts actorId invite.roomId) after.invites
  approvals : before.approvals.AgreesOn (fun approval => ¬ before.Hosts actorId approval.roomId) after.approvals
  sessions : before.sessions.AgreesOn (fun session => ¬ before.Hosts actorId session.roomId) after.sessions

/-- The ids generated from this moment on name no stored invite and no stored session. -/
structure FreshIds (env : Environment) (moment : Nat) (store : MemoryStore) : Prop where
  invite : ∀ n, moment ≤ n → store.invites.get (env.inviteId n) = none
  session : ∀ n, moment ≤ n → store.sessions.get (env.sessionId n) = none

/-- In a reachable store every generated id is fresh. -/
theorem FreshIds.of_reachable {env : Environment} {w : World} (h : env.Reachable w) :
    FreshIds env w.moment w.store where
  invite n hn := by
    cases hget : w.store.invites.get (env.inviteId n) with
    | none => rfl
    | some invite =>
      obtain ⟨-, m, hm, hid, -⟩ := (Tables.Wf.of_reachable h).invite _ _ hget
      have hnm : n = m + 1 := env.inviteId_fresh hid
      omega
  session n hn := by
    cases hget : w.store.sessions.get (env.sessionId n) with
    | none => rfl
    | some session =>
      obtain ⟨⟨m, hm, hid⟩, -⟩ := (Tables.Wf.of_reachable h).session _ _ hget
      have hnm : n = m := env.sessionId_fresh hid
      omega

/-- The host that calls, if the request is one of the four a host makes on its rooms. -/
def Request.hostCaller : Request → Option String
  | .createInvite args => some args.actorId
  | .revokeInvite args => some args.actorId
  | .regenerateInvite args => some args.actorId
  | .decideJoinRequest args => some args.actorId
  | .createRoom _ | .createJoinRequest _ => none

/-- The calls are answered as over the memory store, and presence is read from `presence`. -/
def Environment.repositoryHandler (env : Environment) (presence : String → Nat → Except String (Reply Unit)) :
    Prog.Handler Call Call.Answer World
  | .readPresence roomId, w => (presence roomId w.moment, w.tick)
  | op, w => env.handler op w

/-- One request of the service over the repository, begun at `moment`. -/
def RepositoryState.perform (env : Environment) (s : RepositoryState) (moment : Nat) (request : Request) :
    Except String (Reply Response) × World :=
  serviceTransaction env.options.hasWithTransaction (fun before _ => before) (env.repositoryHandler s.presence)
    (operation env.options request) ⟨s.store, moment⟩

/-- A transaction changes no outcome. -/
theorem serviceTransaction_outcome {α σ : Type} (hasWithTransaction : Bool) (rollback : σ → σ → σ)
    (h : Prog.Handler Call Call.Answer σ) (p : Service α) (s : σ) :
    (serviceTransaction hasWithTransaction rollback h p s).1 = (p.exec h s).1 := by
  unfold serviceTransaction
  split
  · rename_i hexec
    rw [hexec]
  · rename_i hexec
    rw [hexec]

/-! ### Which rooms are the actor's -/

theorem AgreeFor.hosts_iff {actorId : String} {s t : RepositoryState} (h : AgreeFor actorId s t) (roomId : String) :
    s.store.Hosts actorId roomId ↔ t.store.Hosts actorId roomId := by
  constructor
  · rintro ⟨room, hroom, hhost⟩
    exact ⟨room, (h.rooms roomId room hhost).1 hroom, hhost⟩
  · rintro ⟨room, hroom, hhost⟩
    exact ⟨room, (h.rooms roomId room hhost).2 hroom, hhost⟩

/-- A host may act on a stored room only if it hosts it. -/
theorem not_canActorPerform {actorId : String} {room : Room} {action : Option Action} (h : room.hostId ≠ actorId) :
    canActorPerform .host action (hostContext actorId room.hostId) = false := by
  cases action with
  | none => rfl
  | some action =>
    have hne : (some room.hostId == some actorId) = false := by simpa using h
    simp only [canActorPerform, hostContext, hne, Bool.and_false]

namespace ForeignKept

variable {actorId : String} {store : MemoryStore} {w w' : World}

theorem of_tables (h : w.store.tables = store.tables) : ForeignKept actorId store w.store where
  rooms := congrArg Tables.rooms h
  invites := by
    rw [show w.store.invites = store.invites from congrArg Tables.invites h]
    exact .refl _ _
  approvals := by
    rw [show w.store.approvals = store.approvals from congrArg Tables.approvals h]
    exact .refl _ _
  sessions := by
    rw [show w.store.sessions = store.sessions from congrArg Tables.sessions h]
    exact .refl _ _

theorem later (h : ForeignKept actorId store w.store) (hlater : Later w w') : ForeignKept actorId store w'.store where
  rooms := hlater.rooms.trans h.rooms
  invites := hlater.invites ▸ h.invites
  approvals := hlater.approvals ▸ h.approvals
  sessions := hlater.sessions ▸ h.sessions

end ForeignKept

/-- The call saves no room, and whatever it saves is of a room of the actor's, as is the record it replaces. -/
def MayCall (actorId : String) (store : MemoryStore) : Call → Prop
  | .saveRoom _ => False
  | .saveInvite record => store.Hosts actorId record.roomId ∧
      ∀ old, store.invites.get record.id = some old → store.Hosts actorId old.roomId
  | .saveApproval record => store.Hosts actorId record.roomId ∧
      ∀ old, store.approvals.get record.id = some old → store.Hosts actorId old.roomId
  | .saveSession record => store.Hosts actorId record.roomId ∧
      ∀ old, store.sessions.get record.id = some old → store.Hosts actorId old.roomId
  | _ => True

/-! ### The answers of the repository -/

/-- The calls whose answer depends on what is stored. -/
def Call.readsRepository : Call → Bool
  | .readRoom _ | .readInvite _ | .readInviteByToken _ | .readApproval _ | .readPresence _
  | .incrementRateLimitCounter _ => true
  | _ => false

namespace Environment

variable {env : Environment} {presence presence' : String → Nat → Except String (Reply Unit)} {w w' : World}

theorem saved_moment {α : Type} (id kind : String) (answer : α) (w : World) (store : MemoryStore) :
    (saved id kind answer w store).2.moment = w.moment + 1 := by
  unfold saved
  split <;> rfl

theorem found_moment {α : Type} (record : Option α) (state : ErrorState) (w : World) :
    (found record state w).2.moment = w.moment + 1 := by
  unfold found
  split <;> rfl

theorem found_some {α : Type} {record : Option α} {state : ErrorState} {a : α} (h : record = some a) :
    found record state w = (.ok (.ok a), w.tick) := by
  subst h
  rfl

theorem found_none {α : Type} {record : Option α} {state : ErrorState} (h : record = none) :
    found record state w = (.ok (failWith state), w.tick) := by
  subst h
  rfl

theorem repositoryHandler_moment (op : Call) (w : World) :
    (env.repositoryHandler presence op w).2.moment = w.moment + 1 := by
  cases op
  case saveRoom | saveInvite | saveApproval | saveSession => exact saved_moment _ _ _ _ _
  case readRoom | readInvite | readApproval => exact found_moment _ _ _
  case recordAuditEvent event =>
    simp only [repositoryHandler, handler]
    split <;> rfl
  all_goals rfl

/-- At one moment, a call that reads nothing stored is answered alike over every repository. -/
theorem repositoryHandler_alike {op : Call} (hop : op.readsRepository = false) (hmoment : w'.moment = w.moment) :
    (env.repositoryHandler presence op w).1 = (env.repositoryHandler presence' op w').1 := by
  cases op <;> simp only [Call.readsRepository, Bool.true_eq_false] at hop
  case saveRoom | saveInvite | saveApproval | saveSession =>
    simp only [repositoryHandler, handler, saved]
    split <;> rfl
  case recordAuditEvent event =>
    simp only [repositoryHandler, handler]
    split <;> rfl
  all_goals simp only [repositoryHandler, handler, hmoment]

/-- A call that is not a save changes no table. -/
theorem repositoryHandler_later {op : Call} (hop : op.isSave = false) :
    Later w (env.repositoryHandler presence op w).2 := by
  cases op
  case readPresence roomId => exact Later.tick w
  all_goals exact handler_later (show env.handler _ w = (_, _) from rfl) hop

theorem saved_kept {α : Type} {actorId id kind : String} {answer : α} {before store : MemoryStore}
    (hw : ForeignKept actorId before w.store) (hstore : ForeignKept actorId before store) :
    ForeignKept actorId before (saved id kind answer w store).2.store := by
  unfold saved
  split
  · exact hw
  · exact hstore

theorem repositoryHandler_kept {actorId : String} {before : MemoryStore} {op : Call}
    (h : ForeignKept actorId before w.store) (hop : MayCall actorId before op) :
    ForeignKept actorId before (env.repositoryHandler presence op w).2.store := by
  cases op
  case saveRoom => exact hop.elim
  case saveInvite record =>
    refine saved_kept h { h with invites := h.invites.set (not_not_intro hop.1) ?_ }
    exact fun old hold => not_not_intro (hop.2 old hold)
  case saveApproval record =>
    refine saved_kept h { h with approvals := h.approvals.set (not_not_intro hop.1) ?_ }
    exact fun old hold => not_not_intro (hop.2 old hold)
  case saveSession record =>
    refine saved_kept h { h with sessions := h.sessions.set (not_not_intro hop.1) ?_ }
    exact fun old hold => not_not_intro (hop.2 old hold)
  all_goals exact h.later (repositoryHandler_later rfl)

end Environment

/-! ### Two runs in step -/

section TwoRuns

variable {env : Environment} {actorId : String} {s t : RepositoryState} {started : Nat} {w w' : World} {α : Type}

/-- The two runs have made the same number of calls and have touched records of the actor's rooms only. -/
structure Lockstep (actorId : String) (s t : RepositoryState) (started : Nat) (w w' : World) : Prop where
  moment : w'.moment = w.moment
  started : started ≤ w.moment
  left : ForeignKept actorId s.store w.store
  right : ForeignKept actorId t.store w'.store

/-- The two runs have made the same number of calls and have saved nothing. -/
structure Reading (s t : RepositoryState) (started : Nat) (w w' : World) : Prop where
  moment : w'.moment = w.moment
  started : started ≤ w.moment
  left : w.store.tables = s.store.tables
  right : w'.store.tables = t.store.tables

/-- Both runs have touched records of the actor's rooms only. -/
def Untouched (actorId : String) (s t : RepositoryState) (w w' : World) : Prop :=
  ForeignKept actorId s.store w.store ∧ ForeignKept actorId t.store w'.store

theorem Lockstep.untouched (h : Lockstep actorId s t started w w') : Untouched actorId s t w w' := ⟨h.left, h.right⟩

theorem Reading.lockstep (h : Reading s t started w w') : Lockstep actorId s t started w w' where
  moment := h.moment
  started := h.started
  left := .of_tables h.left
  right := .of_tables h.right

theorem Reading.untouched (h : Reading s t started w w') : Untouched actorId s t w w' := h.lockstep.untouched

theorem Reading.tick (h : Reading s t started w w') : Reading s t started w.tick w'.tick where
  moment := congrArg (· + 1) h.moment
  started := Nat.le_succ_of_le h.started
  left := h.left
  right := h.right

/-- The program runs alike over the two repositories. -/
abbrev Alike (env : Environment) (s t : RepositoryState) (p : Service α) (w w' : World)
    (post : Except String α → World → World → Prop) : Prop :=
  Prog.EndsAlike (env.repositoryHandler s.presence) (env.repositoryHandler t.presence) p w w' post

/-- A call that reads nothing stored, after which both runs go on. -/
theorem Lockstep.call {op : Call} {f : Call.Answer op → Service α} {post : Except String α → World → World → Prop}
    (h : Lockstep actorId s t started w w') (hop : op.readsRepository = false)
    (hs : MayCall actorId s.store op) (ht : MayCall actorId t.store op)
    (hok : ∀ r v v', (env.repositoryHandler s.presence op w).1 = .ok r → Lockstep actorId s t started v v' →
      Alike env s t (f r) v v' post)
    (herror : ∀ m v v', Lockstep actorId s t started v v' → post (.error m) v v') :
    Alike env s t (Prog.perform op >>= f) w w' post := by
  have hnext : Lockstep actorId s t started (env.repositoryHandler s.presence op w).2
      (env.repositoryHandler t.presence op w').2 := by
    refine ⟨?_, ?_, Environment.repositoryHandler_kept h.left hs, Environment.repositoryHandler_kept h.right ht⟩
    · rw [Environment.repositoryHandler_moment, Environment.repositoryHandler_moment, h.moment]
    · rw [Environment.repositoryHandler_moment]
      exact Nat.le_succ_of_le h.started
  refine .perform_bind (Environment.repositoryHandler_alike hop h.moment) ?_ ?_
  · exact fun r hr => hok r _ _ hr hnext
  · exact fun m _ => herror m _ _ hnext

/-- A call that neither reads nor saves anything stored, while nothing has been saved. -/
theorem Reading.call {op : Call} {f : Call.Answer op → Service α} {post : Except String α → World → World → Prop}
    (h : Reading s t started w w') (hop : op.readsRepository = false) (hsave : op.isSave = false)
    (hok : ∀ r v v', (env.repositoryHandler s.presence op w).1 = .ok r → Reading s t started v v' →
      Alike env s t (f r) v v' post)
    (herror : ∀ m v v', Reading s t started v v' → post (.error m) v v') :
    Alike env s t (Prog.perform op >>= f) w w' post := by
  have hnext : Reading s t started (env.repositoryHandler s.presence op w).2
      (env.repositoryHandler t.presence op w').2 := by
    refine ⟨?_, ?_, ?_, ?_⟩
    · rw [Environment.repositoryHandler_moment, Environment.repositoryHandler_moment, h.moment]
    · rw [Environment.repositoryHandler_moment]
      exact Nat.le_succ_of_le h.started
    · exact (Environment.repositoryHandler_later hsave).tables.trans h.left
    · exact (Environment.repositoryHandler_later hsave).tables.trans h.right
  refine .perform_bind (Environment.repositoryHandler_alike hop h.moment) ?_ ?_
  · exact fun r hr => hok r _ _ hr hnext
  · exact fun m _ => herror m _ _ hnext

/-- A read that is answered alike in both runs. -/
theorem Reading.read {op : Call} {f : Call.Answer op → Service α} {post : Except String α → World → World → Prop}
    {r : Call.Answer op} (h : Reading s t started w w')
    (hs : env.repositoryHandler s.presence op w = (.ok r, w.tick))
    (ht : env.repositoryHandler t.presence op w' = (.ok r, w'.tick))
    (hok : Reading s t started w.tick w'.tick → Alike env s t (f r) w.tick w'.tick post) :
    Alike env s t (Prog.perform op >>= f) w w' post := by
  refine .perform_bind (by rw [hs, ht]) ?_ ?_
  · intro r' hr'
    rw [hs] at hr'
    obtain rfl := Except.ok.inj hr'
    rw [hs, ht]
    exact hok h.tick
  · intro m hm
    rw [hs] at hm
    cases hm

/-! ### Reads of the actor's own records -/

variable {f : Reply Room → Service α} {post : Except String α → World → World → Prop}

theorem Reading.readRoom {roomId : String} {room : Room} (h : Reading s t started w w')
    (hagree : AgreeFor actorId s t) (hroom : s.store.rooms.get roomId = some room) (hhost : room.hostId = actorId)
    (hok : Reading s t started w.tick w'.tick → Alike env s t (f (.ok room)) w.tick w'.tick post) :
    Alike env s t (Service.readRoom roomId >>= f) w w' post := by
  have hleft : w.store.rooms.get roomId = some room := (congrArg (·.rooms.get roomId) h.left).trans hroom
  have hright : w'.store.rooms.get roomId = some room :=
    (congrArg (·.rooms.get roomId) h.right).trans ((hagree.rooms roomId room hhost).1 hroom)
  exact h.read (Environment.found_some hleft) (Environment.found_some hright) hok

theorem Reading.readInvite {f : Reply Invite → Service α} {inviteId : String} {invite : Invite}
    (h : Reading s t started w w') (hagree : AgreeFor actorId s t)
    (hinvite : s.store.invites.get inviteId = some invite) (hhost : s.store.Hosts actorId invite.roomId)
    (hok : Reading s t started w.tick w'.tick → Alike env s t (f (.ok invite)) w.tick w'.tick post) :
    Alike env s t (Service.readInvite inviteId >>= f) w w' post := by
  have hleft : w.store.invites.get inviteId = some invite :=
    (congrArg (·.invites.get inviteId) h.left).trans hinvite
  have hright : w'.store.invites.get inviteId = some invite :=
    (congrArg (·.invites.get inviteId) h.right).trans ((hagree.invites inviteId invite hhost).1 hinvite)
  exact h.read (Environment.found_some hleft) (Environment.found_some hright) hok

theorem Reading.readApproval {f : Reply Approval → Service α} {requestId : String} {approval : Approval}
    (h : Reading s t started w w') (hagree : AgreeFor actorId s t)
    (happroval : s.store.approvals.get requestId = some approval)
    (hhost : s.store.Hosts actorId approval.roomId)
    (hok : Reading s t started w.tick w'.tick → Alike env s t (f (.ok approval)) w.tick w'.tick post) :
    Alike env s t (Service.readApproval requestId >>= f) w w' post := by
  have hleft : w.store.approvals.get requestId = some approval :=
    (congrArg (·.approvals.get requestId) h.left).trans happroval
  have hright : w'.store.approvals.get requestId = some approval :=
    (congrArg (·.approvals.get requestId) h.right).trans ((hagree.approvals requestId approval hhost).1 happroval)
  exact h.read (Environment.found_some hleft) (Environment.found_some hright) hok

/-- The invite of an approval of the actor's room, which may be missing from both repositories. -/
theorem Reading.readApprovalInvite {f : Reply Invite → Service α} {requestId : String} {approval : Approval}
    (h : Reading s t started w w') (hagree : AgreeFor actorId s t)
    (happroval : s.store.approvals.get requestId = some approval)
    (hhost : s.store.Hosts actorId approval.roomId)
    (hok : ∀ reply, Reading s t started w.tick w'.tick → Alike env s t (f reply) w.tick w'.tick post) :
    Alike env s t (Service.readInvite approval.inviteId >>= f) w w' post := by
  have hhost' : t.store.Hosts actorId approval.roomId := (hagree.hosts_iff _).1 hhost
  have happroval' : t.store.approvals.get requestId = some approval :=
    (hagree.approvals requestId approval hhost).1 happroval
  cases hinvite : s.store.invites.get approval.inviteId with
  | some invite =>
    have hroom : invite.roomId = approval.roomId := s.approval_invite _ _ _ happroval hinvite
    exact h.readInvite hagree hinvite (hroom ▸ hhost) (hok _)
  | none =>
    have hinvite' : t.store.invites.get approval.inviteId = none := by
      cases hfound : t.store.invites.get approval.inviteId with
      | none => rfl
      | some invite =>
        have hroom : invite.roomId = approval.roomId := t.approval_invite _ _ _ happroval' hfound
        have hinviteHost : s.store.Hosts actorId invite.roomId := hroom ▸ hhost
        have hstored := (hagree.invites approval.inviteId invite hinviteHost).2 hfound
        rw [hinvite] at hstored
        cases hstored
    have hleft : w.store.invites.get approval.inviteId = none :=
      (congrArg (·.invites.get approval.inviteId) h.left).trans hinvite
    have hright : w'.store.invites.get approval.inviteId = none :=
      (congrArg (·.invites.get approval.inviteId) h.right).trans hinvite'
    exact h.read (Environment.found_none hleft) (Environment.found_none hright) (hok _)

/-! ### The shared steps, over two repositories -/

variable {options : ServiceOptions}

theorem Lockstep.audit (h : Lockstep actorId s t started w w') (event : AuditEvent) :
    Alike env s t (audit options event) w w' fun _ => Lockstep actorId s t started := by
  unfold ControlPlane.audit
  split
  · change Alike env s t (Prog.perform _ >>= Prog.ret) w w' _
    exact h.call rfl trivial trivial (fun _ v v' _ hv => .ret hv) fun _ _ _ hv => hv
  · exact .ret h

/-- The audit of an operation that has saved what it saves, and its response. -/
theorem Lockstep.auditAndReturn (h : Lockstep actorId s t started w w') (event : AuditEvent) (a : α) :
    Alike env s t (do let _ ← ControlPlane.audit options event; return a) w w' fun _ => Untouched actorId s t := by
  refine .bind (h.audit event) ?_ fun m v v' hv => hv.untouched
  exact fun _ v v' hv => .ret hv.untouched

theorem Reading.checkSessionQuota (h : Reading s t started w w') (context : SessionQuotaContext) :
    Alike env s t (callHook options.hasCheckSessionQuota (Service.checkSessionQuota context)) w w'
      fun _ => Reading s t started := by
  unfold callHook
  split
  · refine h.call rfl rfl ?_ fun _ v v' hv => hv
    intro result v v' _ hv
    cases result <;> exact .ret hv
  · exact .ret h

theorem Reading.isRoomAvailable (h : Reading s t started w w') (hagree : AgreeFor actorId s t) {room : Room}
    (hhost : s.store.Hosts actorId room.id) :
    Alike env s t (isRoomAvailable options room) w w' fun _ => Reading s t started := by
  unfold ControlPlane.isRoomAvailable
  split
  · exact .ret h
  · split
    · exact .ret h
    · refine .perform_bind ?_ (fun r _ => .ret h.tick) fun m _ => h.tick
      change s.presence room.id w.moment = t.presence room.id w'.moment
      rw [hagree.presence _ hhost, h.moment]

/-! ### The operations on the actor's own records -/

theorem Lockstep.newInviteId {f : String → Service α} {post : Except String α → World → World → Prop}
    (h : Lockstep actorId s t started w w') (hs : FreshIds env started s.store) (ht : FreshIds env started t.store)
    (hok : ∀ id v v', s.store.invites.get id = none → t.store.invites.get id = none →
      Lockstep actorId s t started v v' → Alike env s t (f id) v v' post)
    (herror : ∀ m v v', Lockstep actorId s t started v v' → post (.error m) v v') :
    Alike env s t (Service.newInviteId >>= f) w w' post := by
  refine h.call rfl trivial trivial ?_ herror
  intro id v v' hid hv
  obtain rfl : env.inviteId w.moment = id := Except.ok.inj hid
  exact hok _ v v' (hs.invite _ h.started) (ht.invite _ h.started) hv

/-- A save of an invite of the actor's room under an id that no invite of another room has. -/
theorem Lockstep.saveInvite {f : Reply (Option Invite) → Service α} {post : Except String α → World → World → Prop}
    {invite : Invite} (h : Lockstep actorId s t started w w') (hagree : AgreeFor actorId s t)
    (hhost : s.store.Hosts actorId invite.roomId)
    (hs : ∀ old, s.store.invites.get invite.id = some old → s.store.Hosts actorId old.roomId)
    (ht : ∀ old, t.store.invites.get invite.id = some old → t.store.Hosts actorId old.roomId)
    (hok : ∀ r v v', Lockstep actorId s t started v v' → Alike env s t (f r) v v' post)
    (herror : ∀ m v v', Lockstep actorId s t started v v' → post (.error m) v v') :
    Alike env s t (Service.saveInvite invite >>= f) w w' post :=
  h.call rfl ⟨hhost, hs⟩ ⟨(hagree.hosts_iff _).1 hhost, ht⟩ (fun r v v' _ hv => hok r v v' hv) herror

theorem createInvite_alike (hagree : AgreeFor actorId s t) (hs : FreshIds env started s.store)
    (ht : FreshIds env started t.store) {args : CreateInvite} {room : Room}
    (hroom : s.store.rooms.get args.roomId = some room) (hhost : room.hostId = actorId)
    (h : Reading s t started w w') :
    Alike env s t (createInvite options args) w w' fun _ => Untouched actorId s t := by
  unfold createInvite
  refine h.readRoom hagree hroom hhost fun h => ?_
  dsimp only
  split
  · exact .ret h.untouched
  · refine h.call rfl rfl (fun now v v' _ h => ?_) fun m v v' h => h.untouched
    refine h.call rfl rfl (fun token v v' _ h => ?_) fun m v v' h => h.untouched
    refine h.lockstep.newInviteId hs ht (fun id v v' hids hidt h => ?_) fun m v v' h => h.untouched
    refine h.saveInvite hagree ⟨room, hroom, hhost⟩ ?_ ?_ ?_ fun m v v' h => h.untouched
    · intro old hold
      rw [hids] at hold
      cases hold
    · intro old hold
      rw [hidt] at hold
      cases hold
    · intro reply v v' h
      cases reply with
      | fail reason => exact .ret h.untouched
      | ok saved => exact h.auditAndReturn _ _

theorem Reading.readAuthorizedInvite (hagree : AgreeFor actorId s t) {callerId inviteId : String} {action : Action}
    {invite : Invite} (hinvite : s.store.invites.get inviteId = some invite)
    (hhost : s.store.Hosts actorId invite.roomId) (h : Reading s t started w w') :
    Alike env s t (readAuthorizedInvite callerId inviteId action) w w' fun out v v' =>
      Reading s t started v v' ∧ ∀ found, out = .ok (.ok found) → found = invite := by
  unfold ControlPlane.readAuthorizedInvite
  refine h.readInvite hagree hinvite hhost fun h => ?_
  obtain ⟨room, hroom, hactor⟩ := hhost
  refine h.readRoom hagree hroom hactor fun h => ?_
  dsimp only
  split
  · exact .ret ⟨h, fun _ hfound => nomatch hfound⟩
  · refine .ret ⟨h, fun found hfound => ?_⟩
    obtain rfl : invite = found := by simpa using hfound
    rfl

/-- The save of an own invite under the id it stands under. -/
theorem Lockstep.saveOwnInvite {f : Reply (Option Invite) → Service α} {inviteId : String} {invite record : Invite}
    (h : Lockstep actorId s t started w w') (hagree : AgreeFor actorId s t)
    (hinvite : s.store.invites.get inviteId = some invite) (hhost : s.store.Hosts actorId invite.roomId)
    (hid : record.id = invite.id) (hroom : record.roomId = invite.roomId)
    (hok : ∀ r v v', Lockstep actorId s t started v v' → Alike env s t (f r) v v' post)
    (herror : ∀ m v v', Lockstep actorId s t started v v' → post (.error m) v v') :
    Alike env s t (Service.saveInvite record >>= f) w w' post := by
  have hkey : record.id = inviteId := hid.trans (s.invite_id _ _ hinvite)
  have hright : t.store.invites.get inviteId = some invite := (hagree.invites _ _ hhost).1 hinvite
  refine h.saveInvite hagree (hroom ▸ hhost) ?_ ?_ hok herror
  · intro old hold
    rw [hkey, hinvite] at hold
    exact Option.some.inj hold ▸ hhost
  · intro old hold
    rw [hkey, hright] at hold
    exact Option.some.inj hold ▸ (hagree.hosts_iff _).1 hhost

theorem revokeInvite_alike (hagree : AgreeFor actorId s t) {args : RevokeInvite} {invite : Invite}
    (hinvite : s.store.invites.get args.inviteId = some invite) (hhost : s.store.Hosts actorId invite.roomId)
    (h : Reading s t started w w') :
    Alike env s t (revokeInvite options args) w w' fun _ => Untouched actorId s t := by
  unfold revokeInvite
  refine .bind (h.readAuthorizedInvite hagree hinvite hhost) ?_ fun m v v' h => h.1.untouched
  rintro (found | reason) v v' ⟨h, hfound⟩
  · obtain rfl := hfound found rfl
    refine h.call rfl rfl (fun now v v' _ h => ?_) fun m v v' h => h.untouched
    refine h.lockstep.saveOwnInvite hagree hinvite hhost rfl rfl ?_ fun m v v' h => h.untouched
    intro reply v v' h
    cases reply with
    | fail reason => exact .ret h.untouched
    | ok _ => exact h.auditAndReturn _ _
  · exact .ret h.untouched

theorem regenerateInvite_alike (hagree : AgreeFor actorId s t) (hs : FreshIds env started s.store)
    (ht : FreshIds env started t.store) {args : RegenerateInvite} {invite : Invite}
    (hinvite : s.store.invites.get args.inviteId = some invite) (hhost : s.store.Hosts actorId invite.roomId)
    (h : Reading s t started w w') :
    Alike env s t (regenerateInvite options args) w w' fun _ => Untouched actorId s t := by
  unfold regenerateInvite
  refine .bind (h.readAuthorizedInvite hagree hinvite hhost) ?_ fun m v v' h => h.1.untouched
  rintro (found | reason) v v' ⟨h, hfound⟩
  · obtain rfl := hfound found rfl
    refine h.call rfl rfl (fun now v v' _ h => ?_) fun m v v' h => h.untouched
    refine h.lockstep.saveOwnInvite hagree hinvite hhost rfl rfl ?_ fun m v v' h => h.untouched
    intro reply v v' h
    cases reply with
    | fail reason => exact .ret h.untouched
    | ok _ =>
      refine h.call rfl trivial trivial (fun token v v' _ h => ?_) fun m v v' h => h.untouched
      refine h.newInviteId hs ht (fun id v v' hids hidt h => ?_) fun m v v' h => h.untouched
      refine h.saveInvite hagree hhost ?_ ?_ ?_ fun m v v' h => h.untouched
      · intro old hold
        rw [hids] at hold
        cases hold
      · intro old hold
        rw [hidt] at hold
        cases hold
      · intro reply v v' h
        cases reply with
        | fail reason => exact .ret h.untouched
        | ok saved => exact h.auditAndReturn _ _
  · exact .ret h.untouched

/-- The prepared session is of the approval's room, and no session is stored under its id. -/
structure Prepares (s t : RepositoryState) (approval : Approval) (prepared : PreparedSession) : Prop where
  roomId : prepared.sessionRecord.roomId = approval.roomId
  left : s.store.sessions.get prepared.sessionRecord.id = none
  right : t.store.sessions.get prepared.sessionRecord.id = none

/-- Nothing has been saved, and a session that has been prepared is as `Prepares` says. -/
def Preparing (s t : RepositoryState) (started : Nat) (approval : Approval)
    (out : Except String (Reply PreparedSession)) (w w' : World) : Prop :=
  Reading s t started w w' ∧ ∀ prepared, out = .ok (.ok prepared) → Prepares s t approval prepared

theorem Reading.newSessionId {f : String → Service α} {post : Except String α → World → World → Prop}
    (h : Reading s t started w w') (hs : FreshIds env started s.store) (ht : FreshIds env started t.store)
    (hok : ∀ id v v', s.store.sessions.get id = none → t.store.sessions.get id = none → Reading s t started v v' →
      Alike env s t (f id) v v' post)
    (herror : ∀ m v v', Reading s t started v v' → post (.error m) v v') :
    Alike env s t (Service.newSessionId >>= f) w w' post := by
  refine h.call rfl rfl ?_ herror
  intro id v v' hid hv
  obtain rfl : env.sessionId w.moment = id := Except.ok.inj hid
  exact hok _ v v' (hs.session _ h.started) (ht.session _ h.started) hv

theorem prepareSessionForApproval_alike (hagree : AgreeFor actorId s t) (hs : FreshIds env started s.store)
    (ht : FreshIds env started t.store) {requestId : String} {approval decided : Approval} {room : Room}
    {minecraftUuid sessionCredential : Option String}
    (happroval : s.store.approvals.get requestId = some approval)
    (hhost : s.store.Hosts actorId approval.roomId) (hroom : s.store.Hosts actorId room.id)
    (hdecided : decided.roomId = approval.roomId ∧ decided.inviteId = approval.inviteId)
    (h : Reading s t started w w') :
    Alike env s t (prepareSessionForApproval options decided room minecraftUuid sessionCredential) w w'
      (Preparing s t started approval) := by
  have hthrown : ∀ (m : String) (v v' : World), Reading s t started v v' →
      Preparing s t started approval (.error m) v v' := fun _ _ _ h => ⟨h, fun _ hout => nomatch hout⟩
  have hrefused : ∀ {reason : Reason} {v v' : World}, Reading s t started v v' →
      Preparing s t started approval (.ok (.fail reason)) v v' := fun h => ⟨h, fun _ hout => nomatch hout⟩
  unfold prepareSessionForApproval
  split
  · exact .ret (hrefused h)
  · rw [hdecided.2]
    refine h.readApprovalInvite hagree happroval hhost fun reply h => ?_
    cases reply with
    | fail reason => exact .ret (hrefused h)
    | ok invite =>
      refine h.call rfl rfl (fun checkedAt v v' _ h => ?_) hthrown
      split
      · exact .ret (hrefused h)
      · refine .bind (h.isRoomAvailable hagree hroom) ?_ hthrown
        intro available v v' h
        split
        · exact .ret (hrefused h)
        · split
          · exact .ret (hrefused h)
          · refine h.call rfl rfl (fun quotaNow v v' _ h => ?_) hthrown
            refine .bind (h.checkSessionQuota _) ?_ hthrown
            intro quota v v' h
            cases quota with
            | fail reason => exact .ret (hrefused h)
            | ok _ =>
              refine h.call rfl rfl (fun now v v' _ h => ?_) hthrown
              refine h.newSessionId hs ht (fun id v v' hids hidt h => ?_) hthrown
              refine .ret ⟨h, fun prepared hprepared => ?_⟩
              obtain rfl := Reply.ok.inj (Except.ok.inj hprepared)
              exact ⟨hdecided.1, hids, hidt⟩

theorem savePreparedSession_alike (hagree : AgreeFor actorId s t) {approval : Approval} {prepared : PreparedSession}
    (hhost : s.store.Hosts actorId approval.roomId) (hprepared : Prepares s t approval prepared)
    (h : Lockstep actorId s t started w w') :
    Alike env s t (savePreparedSession prepared) w w' fun _ => Lockstep actorId s t started := by
  unfold savePreparedSession
  have hroom : s.store.Hosts actorId prepared.sessionRecord.roomId := hprepared.roomId ▸ hhost
  refine h.call rfl ⟨hroom, ?_⟩ ⟨(hagree.hosts_iff _).1 hroom, ?_⟩ ?_ fun m v v' h => h
  · intro old hold
    rw [hprepared.left] at hold
    cases hold
  · intro old hold
    rw [hprepared.right] at hold
    cases hold
  · intro reply v v' _ h
    cases reply <;> exact .ret h

theorem prepareIfApproved_alike (hagree : AgreeFor actorId s t) (hs : FreshIds env started s.store)
    (ht : FreshIds env started t.store) {requestId : String} {approval decided : Approval} {room : Room}
    {args : DecideJoinRequest} (happroval : s.store.approvals.get requestId = some approval)
    (hhost : s.store.Hosts actorId approval.roomId) (hroom : s.store.Hosts actorId room.id)
    (hdecided : decided.roomId = approval.roomId ∧ decided.inviteId = approval.inviteId)
    (h : Reading s t started w w') :
    Alike env s t (prepareIfApproved options decided room args) w w' fun out v v' => Reading s t started v v' ∧
      ∀ prepared, out = .ok (.ok (some prepared)) → Prepares s t approval prepared := by
  unfold prepareIfApproved
  split
  · refine .bind (prepareSessionForApproval_alike hagree hs ht happroval hhost hroom hdecided h) ?_
      fun m v v' h => ⟨h.1, fun _ hout => nomatch hout⟩
    rintro (prepared | reason) v v' ⟨h, hprepared⟩
    · refine .ret ⟨h, fun prepared' hout => ?_⟩
      obtain rfl : prepared = prepared' := by simpa using hout
      exact hprepared prepared rfl
    · exact .ret ⟨h, fun _ hout => nomatch hout⟩
  · exact .ret ⟨h, fun _ hout => nomatch hout⟩

theorem decideJoinRequest_alike (hagree : AgreeFor actorId s t) (hs : FreshIds env started s.store)
    (ht : FreshIds env started t.store) {args : DecideJoinRequest} {approval : Approval}
    (happroval : s.store.approvals.get args.requestId = some approval)
    (hhost : s.store.Hosts actorId approval.roomId) (h : Reading s t started w w') :
    Alike env s t (decideJoinRequest options args) w w' fun _ => Untouched actorId s t := by
  have happroval' : t.store.approvals.get args.requestId = some approval := (hagree.approvals _ _ hhost).1 happroval
  unfold decideJoinRequest
  split
  · exact .ret h.untouched
  · refine h.readApproval hagree happroval hhost fun h => ?_
    obtain ⟨room, hroom, hactor⟩ := id hhost
    have hroomId : s.store.Hosts actorId room.id := s.room_id _ _ hroom ▸ hhost
    refine h.readRoom hagree hroom hactor fun h => ?_
    dsimp only
    split
    · exact .ret h.untouched
    · split
      · exact .ret h.untouched
      · refine h.call rfl rfl (fun decidedAt v v' _ h => ?_) fun m v v' h => h.untouched
        refine .bind (prepareIfApproved_alike hagree hs ht happroval hhost hroomId ⟨rfl, rfl⟩ h) ?_
          fun m v v' h => h.1.untouched
        rintro (prepared | reason) v v' ⟨h, hprepared⟩
        · -- The approval is saved under the id it stands under, which is its own in both repositories.
          have hkey : approval.id = args.requestId := s.approval_id _ _ happroval
          refine h.lockstep.call rfl ⟨hhost, ?_⟩ ⟨(hagree.hosts_iff _).1 hhost, ?_⟩ ?_ fun m v v' h => h.untouched
          · intro old hold
            rw [hkey, happroval] at hold
            exact Option.some.inj hold ▸ hhost
          · intro old hold
            rw [hkey, happroval'] at hold
            exact Option.some.inj hold ▸ (hagree.hosts_iff _).1 hhost
          · intro reply v v' _ h
            cases reply with
            | fail reason => exact .ret h.untouched
            | ok _ =>
              refine .bind (h.audit _) ?_ fun m v v' h => h.untouched
              intro _ v v' h
              cases prepared with
              | none => exact .ret h.untouched
              | some prepared =>
                refine .bind (savePreparedSession_alike hagree hhost (hprepared prepared rfl) h) ?_
                  fun m v v' h => h.untouched
                intro reply v v' h
                cases reply <;> exact .ret h.untouched
        · exact .ret h.untouched

end TwoRuns

/-! ### Records that are not the actor's -/

section Refused

variable {env : Environment} {presence : String → Nat → Except String (Reply Unit)} {options : ServiceOptions}
  {actorId : String} {w : World} {α : Type}

/-- The program fails with `state` and saves nothing. -/
def Refuses (env : Environment) (presence : String → Nat → Except String (Reply Unit)) (p : Service (Reply α))
    (w : World) (state : ErrorState) : Prop :=
  Prog.Ends (env.repositoryHandler presence) p w fun out w' => out = .ok (failWith state) ∧ w'.store = w.store

/-- A room that is missing and a room of another host are refused alike. -/
theorem refuses_readRoom {f : Reply Room → Service (Reply α)} {roomId : String} {state : ErrorState}
    (hforeign : ¬ w.store.Hosts actorId roomId)
    (hmissing : f (failWith .sessionUnavailable) = .ret (failWith state))
    (hother : ∀ room, room.hostId ≠ actorId → f (.ok room) = .ret (failWith state)) :
    Refuses env presence (Service.readRoom roomId >>= f) w state := by
  cases hroom : w.store.rooms.get roomId with
  | none =>
    refine .answered (Environment.found_none hroom) ?_
    rw [hmissing]
    exact .ret ⟨rfl, rfl⟩
  | some room =>
    refine .answered (Environment.found_some hroom) ?_
    rw [hother room fun hhost => hforeign ⟨room, hroom, hhost⟩]
    exact .ret ⟨rfl, rfl⟩

theorem createInvite_refuses {args : CreateInvite} (hforeign : ¬ w.store.Hosts args.actorId args.roomId) :
    Refuses env presence (createInvite options args) w .sessionUnavailable := by
  refine refuses_readRoom hforeign rfl fun room hhost => ?_
  simp only [not_canActorPerform hhost]
  rfl

theorem readAuthorizedInvite_refuses {inviteId : String} {action : Action}
    (hforeign : ¬ ∃ invite, w.store.invites.get inviteId = some invite ∧ w.store.Hosts actorId invite.roomId) :
    Refuses env presence (readAuthorizedInvite actorId inviteId action) w .inviteUnavailable := by
  cases hinvite : w.store.invites.get inviteId with
  | none => exact .answered (Environment.found_none hinvite) (.ret ⟨rfl, rfl⟩)
  | some invite =>
    refine .answered (Environment.found_some hinvite) ?_
    refine refuses_readRoom (w := w.tick) (fun hhost => hforeign ⟨invite, hinvite, hhost⟩) rfl fun room hhost => ?_
    simp only [not_canActorPerform hhost]
    rfl

/-- An operation that hands on a refusal is refused with it. -/
theorem Refuses.bind {β : Type} {p : Service (Reply β)} {f : Reply β → Service (Reply α)} {state : ErrorState}
    (hp : Refuses env presence p w state) (hf : f (failWith state) = .ret (failWith state)) :
    Refuses env presence (p >>= f) w state := by
  refine Prog.Ends.bind hp ?_ ?_
  · rintro b w' ⟨hb, hstore⟩
    rw [Except.ok.inj hb, hf]
    exact .ret ⟨rfl, hstore⟩
  · rintro m w' ⟨hm, -⟩
    cases hm

theorem decideJoinRequest_refuses {args : DecideJoinRequest}
    (hforeign : ¬ ∃ approval, w.store.approvals.get args.requestId = some approval ∧
      w.store.Hosts args.actorId approval.roomId) :
    Refuses env presence (decideJoinRequest options args) w
      (if hostDecisions.contains args.decision then .sessionUnavailable else .approvalRequired) := by
  unfold decideJoinRequest
  cases hdecision : hostDecisions.contains args.decision with
  | false => exact .ret ⟨rfl, rfl⟩
  | true =>
    simp only [Bool.not_true, Bool.false_eq_true, if_false, if_true]
    cases happroval : w.store.approvals.get args.requestId with
    | none => exact .answered (Environment.found_none happroval) (.ret ⟨rfl, rfl⟩)
    | some approval =>
      refine .answered (Environment.found_some happroval) ?_
      refine refuses_readRoom (w := w.tick) (fun hhost => hforeign ⟨approval, happroval, hhost⟩) rfl
        fun room hhost => ?_
      simp only [not_canActorPerform hhost]
      rfl

end Refused

/-! ### Isolation -/

section Isolation

variable {env : Environment} {actorId : String} {s t : RepositoryState} {moment : Nat}

theorem AgreeFor.invite_iff (h : AgreeFor actorId s t) (inviteId : String) :
    (∃ invite, s.store.invites.get inviteId = some invite ∧ s.store.Hosts actorId invite.roomId) ↔
      ∃ invite, t.store.invites.get inviteId = some invite ∧ t.store.Hosts actorId invite.roomId := by
  simpa only [h.hosts_iff] using h.invites.exists_iff inviteId

theorem AgreeFor.approval_iff (h : AgreeFor actorId s t) (requestId : String) :
    (∃ approval, s.store.approvals.get requestId = some approval ∧ s.store.Hosts actorId approval.roomId) ↔
      ∃ approval, t.store.approvals.get requestId = some approval ∧ t.store.Hosts actorId approval.roomId := by
  simpa only [h.hosts_iff] using h.approvals.exists_iff requestId

/-- Two refusals with one error. -/
theorem Refuses.alike {p : Service (Reply Response)} {state : ErrorState}
    (hs : Refuses env s.presence p ⟨s.store, moment⟩ state) (ht : Refuses env t.presence p ⟨t.store, moment⟩ state) :
    Alike env s t p ⟨s.store, moment⟩ ⟨t.store, moment⟩ fun _ => Untouched actorId s t := by
  refine (Prog.Ends.alike hs ht).mono ?_
  rintro out w w' ⟨hw, hw'⟩
  exact ⟨.of_tables (congrArg MemoryStore.tables hw), .of_tables (congrArg MemoryStore.tables hw')⟩

/-- A host's request runs alike over two repositories that agree on its rooms. -/
theorem operation_alike (hagree : AgreeFor actorId s t) (hs : FreshIds env moment s.store)
    (ht : FreshIds env moment t.store) {request : Request} (hcaller : request.hostCaller = some actorId) :
    Alike env s t (operation env.options request) ⟨s.store, moment⟩ ⟨t.store, moment⟩
      fun _ => Untouched actorId s t := by
  have hreading : Reading s t moment ⟨s.store, moment⟩ ⟨t.store, moment⟩ := ⟨rfl, le_rfl, rfl, rfl⟩
  cases request with
  | createRoom args => cases hcaller
  | createJoinRequest args => cases hcaller
  | createInvite args =>
    obtain rfl := Option.some.inj hcaller
    by_cases hown : s.store.Hosts args.actorId args.roomId
    · obtain ⟨room, hroom, hhost⟩ := hown
      exact createInvite_alike hagree hs ht hroom hhost hreading
    · have hown' : ¬ t.store.Hosts args.actorId args.roomId := fun h => hown ((hagree.hosts_iff _).2 h)
      exact Refuses.alike (createInvite_refuses hown) (createInvite_refuses hown')
  | revokeInvite args =>
    obtain rfl := Option.some.inj hcaller
    by_cases hown : ∃ invite, s.store.invites.get args.inviteId = some invite ∧
        s.store.Hosts args.actorId invite.roomId
    · obtain ⟨invite, hinvite, hhost⟩ := hown
      exact revokeInvite_alike hagree hinvite hhost hreading
    · have hown' := fun h => hown ((hagree.invite_iff args.inviteId).2 h)
      exact Refuses.alike ((readAuthorizedInvite_refuses hown).bind rfl) ((readAuthorizedInvite_refuses hown').bind rfl)
  | regenerateInvite args =>
    obtain rfl := Option.some.inj hcaller
    by_cases hown : ∃ invite, s.store.invites.get args.inviteId = some invite ∧
        s.store.Hosts args.actorId invite.roomId
    · obtain ⟨invite, hinvite, hhost⟩ := hown
      exact regenerateInvite_alike hagree hs ht hinvite hhost hreading
    · have hown' := fun h => hown ((hagree.invite_iff args.inviteId).2 h)
      exact Refuses.alike ((readAuthorizedInvite_refuses hown).bind rfl) ((readAuthorizedInvite_refuses hown').bind rfl)
  | decideJoinRequest args =>
    obtain rfl := Option.some.inj hcaller
    by_cases hown : ∃ approval, s.store.approvals.get args.requestId = some approval ∧
        s.store.Hosts args.actorId approval.roomId
    · obtain ⟨approval, happroval, hhost⟩ := hown
      exact decideJoinRequest_alike hagree hs ht happroval hhost hreading
    · have hown' := fun h => hown ((hagree.approval_iff args.requestId).2 h)
      exact Refuses.alike (decideJoinRequest_refuses hown) (decideJoinRequest_refuses hown')

theorem ForeignKept.serviceTransaction {hasWithTransaction : Bool}
    {presence : String → Nat → Except String (Reply Unit)} {p : Service (Reply Response)} {w : World}
    (h : ForeignKept actorId w.store (p.exec (env.repositoryHandler presence) w).2.store) :
    ForeignKept actorId w.store
      (serviceTransaction hasWithTransaction (fun before _ => before) (env.repositoryHandler presence) p w).2.store := by
  unfold ControlPlane.serviceTransaction
  split
  · rename_i hexec
    rwa [hexec] at h
  · rename_i hexec
    rw [hexec] at h
    dsimp only
    split
    · exact .of_tables rfl
    · exact h

/-- A host's request has one result over every two repositories that agree on its rooms and their records, and it
changes no record of any other room. -/
theorem host_isolation (env : Environment) (actorId : String) (s t : RepositoryState) (moment : Nat)
    (hagree : AgreeFor actorId s t) (hs : FreshIds env moment s.store) (ht : FreshIds env moment t.store)
    (request : Request) (hcaller : request.hostCaller = some actorId) :
    (s.perform env moment request).1 = (t.perform env moment request).1 ∧
      ForeignKept actorId s.store (s.perform env moment request).2.store ∧
      ForeignKept actorId t.store (t.perform env moment request).2.store := by
  obtain ⟨hout, hleft, hright⟩ := operation_alike hagree hs ht hcaller
  refine ⟨?_, .serviceTransaction (w := ⟨s.store, moment⟩) hleft, .serviceTransaction (w := ⟨t.store, moment⟩) hright⟩
  simp only [RepositoryState.perform, serviceTransaction_outcome]
  exact hout

/-! ### A foreign invite and a missing one -/

/-- An open room of `hostId`. -/
def openRoom (id hostId : String) : Room :=
  { id := id, hostId := hostId, roomAlias := none, minecraftVersion := none, packProfileName := none,
    state := .opened, createdAt := 0, updatedAt := 0 }

/-- An active invite into a room. -/
def activeInvite (id roomId : String) : Invite :=
  { id := id, roomId := roomId, token := .hash id, state := .active, createdAt := 0, expiresAt := none,
    revokedAt := none }

/-- A repository that holds one room of `"host"`. -/
def ownRoomOnly : RepositoryState where
  store := { createMemoryControlPlaneStore with
    rooms := JsMap.empty.set "home" (openRoom "home" "host")
    invites := JsMap.empty.set "key" (activeInvite "key" "home") }
  presence _ _ := .ok (.ok ())
  room_id k room hroom := by
    rcases JsMap.get_set_cases hroom with ⟨rfl, rfl⟩ | ⟨-, h⟩
    · rfl
    · cases h
  invite_id k invite hinvite := by
    rcases JsMap.get_set_cases hinvite with ⟨rfl, rfl⟩ | ⟨-, h⟩
    · rfl
    · cases h
  approval_id _ _ h := nomatch h
  approval_invite _ _ _ h := nomatch h

/-- A repository that also holds a room of another host. -/
def withOtherRoom : RepositoryState where
  store := { ownRoomOnly.store with
    rooms := ownRoomOnly.store.rooms.set "away" (openRoom "away" "other")
    invites := ownRoomOnly.store.invites.set "lock" (activeInvite "lock" "away") }
  presence _ _ := .ok (.ok ())
  room_id k room hroom := by
    rcases JsMap.get_set_cases hroom with ⟨rfl, rfl⟩ | ⟨-, h⟩
    · rfl
    · exact ownRoomOnly.room_id k room h
  invite_id k invite hinvite := by
    rcases JsMap.get_set_cases hinvite with ⟨rfl, rfl⟩ | ⟨-, h⟩
    · rfl
    · exact ownRoomOnly.invite_id k invite h
  approval_id _ _ h := nomatch h
  approval_invite _ _ _ h := nomatch h

theorem hosts_home {roomId : String} (h : ownRoomOnly.store.Hosts "host" roomId) : roomId = "home" := by
  obtain ⟨room, hroom, -⟩ := h
  rcases JsMap.get_set_cases hroom with ⟨rfl, -⟩ | ⟨-, h⟩
  · rfl
  · cases h

/-- The other room is none of the host's. -/
theorem ownRoomOnly_agrees : AgreeFor "host" ownRoomOnly withOtherRoom where
  rooms :=
    (JsMap.AgreesOn.refl _ _).set (by decide)
      (by simp [ownRoomOnly, JsMap.get_set, createMemoryControlPlaneStore])
  presence _ _ := rfl
  invites := by
    refine (JsMap.AgreesOn.refl _ _).set ?_ ?_
    · intro h
      exact absurd (hosts_home h) (by decide)
    · intro old hold
      rcases JsMap.get_set_cases hold with ⟨h, -⟩ | ⟨-, h⟩
      · exact absurd h (by decide)
      · cases h
  approvals := .refl _ _
  sessions := .refl _ _

/-- A generated invite id is no word that starts with another letter. -/
theorem countingEnvironment_fresh {s : RepositoryState} {moment : Nat} (hsessions : s.store.sessions = .empty)
    (hinvites : ∀ k invite, s.store.invites.get k = some invite → k = "key" ∨ k = "lock") :
    FreshIds (countingEnvironment 60000) moment s.store where
  invite n _ := by
    cases hget : s.store.invites.get ((countingEnvironment 60000).inviteId n) with
    | none => rfl
    | some invite =>
      rcases hinvites _ _ hget with h | h <;>
        simpa [countingEnvironment, countingName, List.replicate_succ] using congrArg String.toList h
  session n _ := by
    rw [hsessions]
    rfl

/-- The host is told the same about the other host's invite as about one that does not exist. -/
theorem host_isolation_foreign :
    (ownRoomOnly.perform (countingEnvironment 60000) 0 (.revokeInvite ⟨"host", "lock", none⟩)).1 =
        (withOtherRoom.perform (countingEnvironment 60000) 0 (.revokeInvite ⟨"host", "lock", none⟩)).1 ∧
      ForeignKept "host" ownRoomOnly.store
        (ownRoomOnly.perform (countingEnvironment 60000) 0 (.revokeInvite ⟨"host", "lock", none⟩)).2.store ∧
      ForeignKept "host" withOtherRoom.store
        (withOtherRoom.perform (countingEnvironment 60000) 0 (.revokeInvite ⟨"host", "lock", none⟩)).2.store := by
  refine host_isolation _ "host" _ _ 0 ownRoomOnly_agrees ?_ ?_ _ rfl
  · refine countingEnvironment_fresh rfl fun k invite h => ?_
    rcases JsMap.get_set_cases h with ⟨rfl, -⟩ | ⟨-, h⟩
    · exact .inl rfl
    · cases h
  · refine countingEnvironment_fresh rfl fun k invite h => ?_
    rcases JsMap.get_set_cases h with ⟨rfl, -⟩ | ⟨-, h⟩
    · exact .inr rfl
    · rcases JsMap.get_set_cases h with ⟨rfl, -⟩ | ⟨-, h⟩
      · exact .inl rfl
      · cases h

end Isolation

end EasyMc.ControlPlane
