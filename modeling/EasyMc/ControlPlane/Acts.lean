import Mathlib.Logic.Relation
import EasyMc.ControlPlane.Operations

/-!
# The acts of a request

`Act` lists the changes one request can make to the stored rooms, invites, approvals and sessions, each with
everything that was true when it was made.  A request run with nothing else running makes a chain of acts, whatever
it returns or throws (`perform_chain`); the invariants of the store are proved from the acts alone.
-/

namespace EasyMc.ControlPlane

open Await (Prog)

/-- The stored approval after a decision. -/
def Approval.decide (approval : Approval) (decision : ApprovalState) (decidedAt : Int) : Approval :=
  { approval with state := decision, decidedAt := some decidedAt }

/-- The stored invite after a revocation. -/
def Invite.revoke (invite : Invite) (revokedAt : Int) : Invite :=
  { invite with state := .revoked, revokedAt := some revokedAt }

/-- One change of the tables by a request, an approval aside. -/
inductive Act (env : Environment) : World → World → Prop
  | idle {w w' : World} (later : Later w w') : Act env w w'
  | room {w w' : World} (room : Room) (m : Nat) (opened : room.state = .opened) (id : room.id = env.roomId m)
      (fresh : w.moment ≤ m) (used : m < w'.moment)
      (tables : w'.store.tables = (w.store.saveRoom room).tables) : Act env w w'
  | invite {w w' : World} (invite : Invite) (m : Nat) (active : invite.state = .active)
      (id : invite.id = env.inviteId (m + 1)) (token : invite.token = .raw (some (env.createInviteToken m)))
      (fresh : w.moment ≤ m) (used : m + 1 < w'.moment)
      (tables : w'.store.tables = (w.store.saveInvite env.sha256 invite).tables) : Act env w w'
  | revoke {w w' : World} (inviteId : String) (invite : Invite) (revokedAt : Int)
      (stored : w.store.invites.get inviteId = some invite) (moment : w.moment ≤ w'.moment)
      (tables : w'.store.tables = (w.store.saveInvite env.sha256 (invite.revoke revokedAt)).tables) : Act env w w'
  | ask {w w' : World} (approval : Approval) (m : Nat) (pending : approval.state = .pending)
      (id : approval.id = env.approvalId m) (fresh : w.moment ≤ m) (used : m < w'.moment)
      (tables : w'.store.tables = (w.store.saveApproval approval).tables) : Act env w w'
  | decide {w w' : World} (requestId : String) (approval : Approval) (decision : ApprovalState) (decidedAt : Int)
      (stored : w.store.approvals.get requestId = some approval) (pending : approval.state = .pending)
      (moment : w.moment ≤ w'.moment)
      (tables : w'.store.tables = (w.store.saveApproval (approval.decide decision decidedAt)).tables) : Act env w w'

/-- A sequence of acts. -/
abbrev Chain (env : Environment) : World → World → Prop := Relation.ReflTransGen (Act env)

/-- The session `decideJoinRequest` stores when it approves `approval`. -/
def Approval.session (env : Environment) (approval : Approval) (args : DecideJoinRequest) (issued : Nat) : Session :=
  { id := env.sessionId (issued + 1), roomId := approval.roomId, inviteId := approval.inviteId,
    requestId := approval.id, minecraftUuid := args.minecraftUuid,
    sessionCredential := .hash (hashSensitiveValue env.sha256 args.sessionCredential), state := .issued,
    issuedAt := env.clock issued, expiresAt := some (env.clock issued + env.options.sessionTtlMs) }

/-- An approval with its session.  `checked` and `issued` are the moments (counted in answered calls) at which the
invite was checked and the session was stamped. -/
structure Approving (env : Environment) (args : DecideJoinRequest) (w w' : World) where
  approval : Approval
  room : Room
  invite : Invite
  decidedAt : Int
  checked : Nat
  issued : Nat
  decision : args.decision = .approved
  approval_stored : w.store.approvals.get args.requestId = some approval
  room_stored : w.store.rooms.get approval.roomId = some room
  invite_stored : w.store.invites.get approval.inviteId = some invite
  pending : approval.state = .pending
  host : room.hostId = args.actorId
  sameUuid : approval.minecraftUuid = args.minecraftUuid
  opened : room.state = .opened
  active : isInviteActive invite (env.clock checked) = true
  start_le : w.moment ≤ checked
  checked_le : checked ≤ issued
  used : issued + 1 < w'.moment
  tables : w'.store.tables =
    { w.store.tables with
      approvals := w.store.approvals.set approval.id (approval.decide .approved decidedAt)
      sessions := w.store.sessions.set (env.sessionId (issued + 1)) (approval.session env args issued) }

namespace Environment

variable {env : Environment} {w : World}

theorem Chain.later {w' : World} (h : Later w w') : Chain env w w' := .single (.idle h)

theorem createRoom_ends (args : CreateRoom) (w : World) :
    Prog.Ends env.handler (createRoom env.service args) w fun _ w' =>
      Chain env w w' := by
  unfold createRoom
  split
  · exact .refl
  · refine ends_tick rfl ?_
    refine .bind (checkRoomQuota_ends _ _) ?_ fun m w' h => Chain.later ((Later.tick w).trans h)
    intro quota w₁ h₁
    replace h₁ : Later w w₁ := (Later.tick w).trans h₁
    cases quota with
    | fail _ => exact .ret (Chain.later h₁)
    | ok _ =>
      refine ends_tick rfl (ends_tick rfl ?_)
      have h₂ : Later w w₁.tick.tick := h₁.trans ((Later.tick _).trans (Later.tick _))
      refine ends_call ?_ fun m w' h => Chain.later (h₂.trans h)
      intro reply w₃ h₃
      obtain ⟨rfl, rfl⟩ := saved_ok h₃
      refine .bind (M := fun _ => Chain env w)
        ((audit_ends _ _).mono fun _ w' h' => ?_) (fun _ _ h => h) fun _ _ h => h
      refine .single (.room _ w₁.tick.moment ?_ ?_ (h₁.moment.trans (Nat.le_succ _))
        (Nat.lt_of_lt_of_le ?_ h'.moment) (h'.tables.trans (MemoryStore.saveRoom_tables h₂.tables _)))
      · rfl
      · rfl
      · simp

theorem createInvite_ends (args : CreateInvite) (w : World) :
    Prog.Ends env.handler (createInvite env.service args) w fun _ w' =>
      Chain env w w' := by
  unfold createInvite
  refine ends_call ?_ fun m w' h => Chain.later h
  intro reply w₁ h₁
  obtain ⟨rfl, -⟩ := found_ok h₁
  cases reply with
  | fail _ => exact .ret (Chain.later (Later.tick w))
  | ok room =>
    dsimp only
    split
    · exact .ret (Chain.later (Later.tick w))
    · refine ends_tick rfl (ends_tick rfl (ends_tick rfl ?_))
      have h₂ : Later w w.tick.tick.tick.tick := ⟨rfl, by simp; omega⟩
      refine ends_call ?_ fun m w' h => Chain.later (h₂.trans h)
      intro reply w₃ h₃
      obtain ⟨rfl, rfl⟩ := saved_ok h₃
      refine .bind (M := fun _ => Chain env w)
        ((audit_ends _ _).mono fun _ w' h' => ?_) (fun _ _ h => h) fun _ _ h => h
      refine .single (.invite _ w.tick.tick.moment ?_ ?_ ?_ ?_ (Nat.lt_of_lt_of_le ?_ h'.moment)
        (h'.tables.trans (MemoryStore.saveInvite_tables h₂.tables _ _)))
      · rfl
      · rfl
      · rfl
      · simp; omega
      · simp

/-- Between `w` and `w'` the invite stored under `inviteId` was revoked. -/
def Revokes (env : Environment) (inviteId : String) (w w' : World) : Prop :=
  ∃ invite revokedAt w₁, w.store.invites.get inviteId = some invite ∧ w.moment ≤ w₁.moment ∧
    w₁.store.tables = (w.store.saveInvite env.sha256 (invite.revoke revokedAt)).tables ∧
    Chain env w₁ w'

theorem Revokes.chain {inviteId : String} {w w' : World} (h : Revokes env inviteId w w') :
    Chain env w w' := by
  obtain ⟨invite, revokedAt, w₁, hstored, hmoment, htables, hchain⟩ := h
  exact .head (.revoke inviteId invite revokedAt hstored hmoment htables) hchain

theorem revokeInvite_ends (args : RevokeInvite) (w : World) :
    Prog.Ends env.handler (revokeInvite env.service args) w fun out w' =>
      Chain env w w' ∧
        ∀ response, out = .ok (.ok response) → Revokes env args.inviteId w w' := by
  unfold revokeInvite
  refine .bind (readAuthorizedInvite_ends _ _ _) ?_ fun m w' h => ⟨Chain.later h.1, fun _ h => nomatch h⟩
  rintro authorized w₁ ⟨h₁, hstored⟩
  cases authorized with
  | fail _ => exact .ret ⟨Chain.later h₁, fun _ h => nomatch h⟩
  | ok invite =>
    refine ends_tick rfl ?_
    have h₂ : Later w w₁.tick := h₁.trans (Later.tick _)
    refine ends_call ?_ fun m w' h => ⟨Chain.later (h₂.trans h), fun _ h => nomatch h⟩
    intro reply w₃ h₃
    obtain ⟨rfl, rfl⟩ := saved_ok h₃
    have hrevokes : ∀ w', Later (w₁.tick.write (w₁.tick.store.saveInvite env.sha256
        (invite.revoke (env.clock w₁.moment)))) w' →
        Revokes env args.inviteId w w' := fun w' h' =>
      ⟨invite, env.clock w₁.moment, w', hstored invite rfl, h₂.moment.trans ((Nat.le_succ _).trans h'.moment),
        h'.tables.trans (MemoryStore.saveInvite_tables h₂.tables _ _), .refl⟩
    exact .bind (audit_ends _ _) (fun _ w' h' => ⟨(hrevokes w' h').chain, fun _ _ => hrevokes w' h'⟩)
      fun _ w' h' => ⟨(hrevokes w' h').chain, fun _ h => nomatch h⟩

theorem regenerateInvite_ends (args : RegenerateInvite) (w : World) :
    Prog.Ends env.handler (regenerateInvite env.service args) w fun out w' =>
      Chain env w w' ∧
        ∀ response, out = .ok (.ok response) →
          Revokes env args.inviteId w w' := by
  unfold regenerateInvite
  refine .bind (readAuthorizedInvite_ends _ _ _) ?_ fun m w' h => ⟨Chain.later h.1, fun _ h => nomatch h⟩
  rintro authorized w₁ ⟨h₁, hstored⟩
  cases authorized with
  | fail _ => exact .ret ⟨Chain.later h₁, fun _ h => nomatch h⟩
  | ok invite =>
    refine ends_tick rfl ?_
    have h₂ : Later w w₁.tick := h₁.trans (Later.tick _)
    refine ends_call ?_ fun m w' h => ⟨Chain.later (h₂.trans h), fun _ h => nomatch h⟩
    intro reply w₃ h₃
    obtain ⟨rfl, hw₃⟩ := saved_ok h₃
    have hrevokes : ∀ w', Chain env w₃ w' →
        Revokes env args.inviteId w w' := by
      subst hw₃
      exact fun w' h' => ⟨invite, env.clock w₁.moment, _, hstored invite rfl, h₂.moment.trans (Nat.le_succ _),
        MemoryStore.saveInvite_tables h₂.tables _ _, h'⟩
    refine ends_tick rfl (ends_tick rfl ?_)
    have h₄ : Later w₃ w₃.tick.tick := (Later.tick _).trans (Later.tick _)
    refine ends_call ?_ fun m w' h =>
      ⟨(hrevokes w' (Chain.later (h₄.trans h))).chain, fun _ h => nomatch h⟩
    intro reply w₅ h₅
    obtain ⟨rfl, rfl⟩ := saved_ok h₅
    refine .bind (M := fun _ => Chain env w₃)
      ((audit_ends _ _).mono fun _ w' h' => ?_)
      (fun _ w' h' => ⟨(hrevokes w' h').chain, fun _ _ => hrevokes w' h'⟩)
      fun _ w' h' => ⟨(hrevokes w' h').chain, fun _ h => nomatch h⟩
    refine .single (.invite _ w₃.moment ?_ ?_ ?_ le_rfl (Nat.lt_of_lt_of_le ?_ h'.moment)
      (h'.tables.trans (MemoryStore.saveInvite_tables h₄.tables _ _)))
    · rfl
    · rfl
    · rfl
    · simp

theorem createJoinRequest_ends (args : CreateJoinRequest) (w : World) :
    Prog.Ends env.handler (createJoinRequest env.service args) w fun out w' =>
      Chain env w w' ∧
        ∀ response, out = .ok (.ok response) → ∃ invite,
          w.store.readInviteByToken env.sha256 (env.clock w.moment) args.inviteToken = .ok invite := by
  unfold createJoinRequest
  refine ends_tick rfl ?_
  rcases hread : w.store.readInviteByToken env.sha256 (env.clock w.moment) args.inviteToken with invite | reason
  case fail => exact ⟨Chain.later (Later.tick w), fun _ h => nomatch h⟩
  refine ends_call ?_ fun m w' h => ⟨Chain.later ((Later.tick w).trans h), fun _ h => nomatch h⟩
  intro reply w₁ h₁
  obtain ⟨rfl, -⟩ := found_ok h₁
  have hlater : Later w w.tick.tick := (Later.tick w).trans (Later.tick _)
  cases reply with
  | fail _ => exact .ret ⟨Chain.later hlater, fun _ h => nomatch h⟩
  | ok room =>
    refine .bind (isRoomAvailable_ends room _) ?_ ?_
    · rintro available w₂ ⟨rfl, -⟩
      dsimp only
      split
      · exact .ret ⟨Chain.later hlater, fun _ h => nomatch h⟩
      · refine .bind (applyJoinRequestRateLimits_ends _ _) ?_ fun m w' h =>
          ⟨Chain.later (hlater.trans h), fun _ h => nomatch h⟩
        intro limits w₃ h₃
        replace h₃ := hlater.trans h₃
        cases limits with
        | fail _ => exact .ret ⟨Chain.later h₃, fun _ h => nomatch h⟩
        | ok _ =>
          refine ends_tick rfl (ends_tick rfl ?_)
          have h₄ : Later w w₃.tick.tick := h₃.trans ((Later.tick _).trans (Later.tick _))
          refine ends_call ?_ fun m w' h => ⟨Chain.later (h₄.trans h), fun _ h => nomatch h⟩
          intro reply w₅ h₅
          obtain ⟨rfl, rfl⟩ := saved_ok h₅
          refine ⟨.single (.ask _ w₃.moment rfl rfl h₃.moment ?_ (MemoryStore.saveApproval_tables h₄.tables _)),
            fun _ _ => ⟨invite, rfl⟩⟩
          simp; omega
    · rintro m w₂ ⟨-, h⟩
      simp at h

/-- What a prepared session was prepared from. -/
structure Prepares (env : Environment) (approval : Approval) (room : Room) (args : DecideJoinRequest)
    (w w' : World) (prepared : PreparedSession) where
  invite : Invite
  checked : Nat
  issued : Nat
  invite_stored : w.store.invites.get approval.inviteId = some invite
  sameUuid : approval.minecraftUuid = args.minecraftUuid
  opened : room.state = .opened
  active : isInviteActive invite (env.clock checked) = true
  start_le : w.moment ≤ checked
  checked_le : checked ≤ issued
  used : issued + 1 < w'.moment
  sessionRecord : prepared.sessionRecord =
    { id := env.sessionId (issued + 1), roomId := approval.roomId, inviteId := approval.inviteId,
      requestId := approval.id, minecraftUuid := args.minecraftUuid, sessionCredential := .raw args.sessionCredential,
      state := .issued, issuedAt := env.clock issued,
      expiresAt := some (env.clock issued + env.options.sessionTtlMs) }

theorem prepareSessionForApproval_ends (approval : Approval) (room : Room) (args : DecideJoinRequest) (w : World) :
    Prog.Ends env.handler
      (prepareSessionForApproval env.service approval room args.minecraftUuid args.sessionCredential) w
      fun out w' => Later w w' ∧
        ∀ prepared, out = .ok (.ok prepared) → Nonempty (Prepares env approval room args w w' prepared) := by
  unfold prepareSessionForApproval
  split
  · exact .ret ⟨Later.refl w, fun _ h => nomatch h⟩
  · rename_i huuid
    refine ends_call ?_ fun m w' h => ⟨h, fun _ h => nomatch h⟩
    intro reply w₁ h₁
    obtain ⟨rfl, hinvite⟩ := found_ok h₁
    cases reply with
    | fail _ => exact .ret ⟨Later.tick w, fun _ h => nomatch h⟩
    | ok invite =>
      -- The clock is read to check the invite, at moment `w.moment + 1`.
      refine ends_tick rfl ?_
      have hlater : Later w w.tick.tick := (Later.tick w).trans (Later.tick _)
      split
      · exact .ret ⟨hlater, fun _ h => nomatch h⟩
      · rename_i hactive
        refine .bind (isRoomAvailable_ends room _) ?_ ?_
        · rintro available w₂ ⟨rfl, havailable⟩
          obtain rfl : available = isRoomOpen room := by simpa using havailable
          dsimp only
          split
          · exact .ret ⟨hlater, fun _ h => nomatch h⟩
          · rename_i hopen
            split
            · exact .ret ⟨hlater, fun _ h => nomatch h⟩
            · refine ends_tick rfl ?_
              refine .bind (checkSessionQuota_ends _ _) ?_ fun m w' h =>
                ⟨hlater.trans ((Later.tick _).trans h), fun _ h => nomatch h⟩
              intro quota w₃ h₃
              replace h₃ : Later w.tick.tick w₃ := (Later.tick _).trans h₃
              cases quota with
              | fail _ => exact .ret ⟨hlater.trans h₃, fun _ h => nomatch h⟩
              | ok _ =>
                -- The clock is read for `issuedAt`, and the id of the session is made.
                refine ends_tick rfl (ends_tick rfl ?_)
                refine ⟨hlater.trans (h₃.trans ((Later.tick _).trans (Later.tick _))), ?_⟩
                intro prepared hprepared
                obtain rfl := by simpa using hprepared
                have hmoment := h₃.moment
                exact ⟨{ invite := invite, checked := w.moment + 1, issued := w₃.moment
                         invite_stored := hinvite invite rfl
                         sameUuid := by simpa using huuid
                         opened := by simpa [isRoomOpen] using hopen
                         active := by simpa using hactive
                         start_le := Nat.le_succ _
                         checked_le := by simp at hmoment; omega
                         used := by simp
                         sessionRecord := rfl }⟩
        · rintro m w₂ ⟨-, h⟩
          simp at h

theorem prepareIfApproved_ends (approval : Approval) (room : Room) (args : DecideJoinRequest) (w : World) :
    Prog.Ends env.handler (prepareIfApproved env.service approval room args) w fun out w' => Later w w' ∧
      ∀ prepared, out = .ok (.ok (some prepared)) →
        args.decision = .approved ∧ Nonempty (Prepares env approval room args w w' prepared) := by
  unfold prepareIfApproved
  split
  · rename_i hdecision
    refine .bind (prepareSessionForApproval_ends _ _ _ _) ?_ fun m w' h => ⟨h.1, fun _ h => nomatch h⟩
    rintro reply w' ⟨hlater, hprepares⟩
    refine ⟨hlater, fun prepared hprepared => ⟨hdecision, hprepares prepared ?_⟩⟩
    cases reply <;> simp_all
  · exact .ret ⟨Later.refl w, fun _ h => nomatch h⟩

/-- Only the host of a room may decide its requests. -/
theorem host_of_actionForDecision {decision : ApprovalState} {actorId roomHostId : String}
    (h : canActorPerform .host (actionForDecision decision) (hostContext actorId roomHostId) = true) :
    roomHostId = actorId := by
  rcases haction : actionForDecision decision with _ | action
  · rw [haction] at h
    simp [canActorPerform] at h
  · have hmem : action ∈ ownRoomHostActions := by
      cases decision <;> cases haction <;> decide
    rw [haction] at h
    exact ((canActorPerform_host hmem _ _).1 h).1

/-- The world after a decision: the request was approved with its session, or one act was made. -/
def Decides (env : Environment) (args : DecideJoinRequest) (w w' : World) : Prop :=
  Act env w w' ∨ Nonempty (Approving env args w w')

theorem Decides.later {args : DecideJoinRequest} {w' : World} (h : Later w w') : Decides env args w w' :=
  .inl (.idle h)

/-- Saving the prepared session completes an approval; when the save throws, the decision alone is stored. -/
theorem savePreparedSession_ends {args : DecideJoinRequest} {approval : Approval} {room : Room} {decidedAt : Int}
    {prepared : PreparedSession} {w w₃ w₅ : World} (hdecision : args.decision = .approved)
    (happroval : w.store.approvals.get args.requestId = some approval) (hpending : approval.state = .pending)
    (hroom : w.store.rooms.get approval.roomId = some room) (hhost : room.hostId = args.actorId)
    (hlater : Later w w₃)
    (p : Prepares env (approval.decide .approved decidedAt) room args w₃ w₅ prepared)
    (hsaved : w₅.store.tables = (w.store.saveApproval (approval.decide .approved decidedAt)).tables) :
    Prog.Ends env.handler (savePreparedSession prepared) w₅ fun _ w' => Decides env args w w' := by
  have hstart : w.moment ≤ p.checked := hlater.moment.trans p.start_le
  have hchecked := p.checked_le
  have hused := p.used
  unfold savePreparedSession
  refine ends_call ?_ ?_
  · intro reply w₆ h₆
    obtain ⟨rfl, rfl⟩ := saved_ok h₆
    refine .inr ⟨{ approval := approval, room := room, invite := p.invite, decidedAt := decidedAt
                   checked := p.checked, issued := p.issued, decision := hdecision
                   approval_stored := happroval
                   room_stored := hroom
                   invite_stored := hlater.invites ▸ p.invite_stored
                   pending := hpending
                   host := hhost
                   sameUuid := p.sameUuid
                   opened := p.opened
                   active := p.active
                   start_le := hstart
                   checked_le := hchecked
                   used := hused.trans (Nat.lt_succ_self _)
                   tables := ?_ }⟩
    refine (MemoryStore.saveSession_tables hsaved _ _).trans ?_
    rw [p.sessionRecord]
    rfl
  · intro m w' h
    exact .inl (.decide args.requestId approval .approved decidedAt happroval hpending
      (by have := h.moment; omega) (h.tables.trans hsaved))

theorem decideJoinRequest_ends (args : DecideJoinRequest) (w : World) :
    Prog.Ends env.handler (decideJoinRequest env.service args) w fun _ w' => Decides env args w w' := by
  unfold decideJoinRequest
  split
  · exact .ret (Decides.later (Later.refl w))
  · refine ends_call ?_ fun m w' h => Decides.later h
    intro reply w₁ h₁
    obtain ⟨rfl, happroval⟩ := found_ok h₁
    cases reply with
    | fail _ => exact .ret (Decides.later (Later.tick w))
    | ok approval =>
      refine ends_call ?_ fun m w' h => Decides.later ((Later.tick w).trans h)
      intro reply w₂ h₂
      obtain ⟨rfl, hroom⟩ := found_ok h₂
      have hlater : Later w w.tick.tick := (Later.tick w).trans (Later.tick _)
      cases reply with
      | fail _ => exact .ret (Decides.later hlater)
      | ok room =>
        dsimp only
        split
        · exact .ret (Decides.later hlater)
        · rename_i hhost
          split
          · exact .ret (Decides.later hlater)
          · rename_i hpending
            replace happroval := happroval approval rfl
            replace hpending : approval.state = .pending := by simpa using hpending
            replace hhost := host_of_actionForDecision (by simpa using hhost)
            refine ends_tick rfl ?_
            replace hlater : Later w w.tick.tick.tick := hlater.trans (Later.tick _)
            -- Up to the save the tables are left alone, so the request may end anywhere.
            refine .bind (prepareIfApproved_ends _ _ _ _) ?_ fun m w' h => Decides.later (hlater.trans h.1)
            rintro reply w₃ ⟨h₃, hprepares⟩
            replace h₃ : Later w w₃ := hlater.trans h₃
            cases reply with
            | fail _ => exact .ret (Decides.later h₃)
            | ok prepared =>
              refine ends_call ?_ fun m w' h => Decides.later (h₃.trans h)
              intro reply w₄ h₄
              obtain ⟨rfl, hw₄⟩ := saved_ok h₄
              have hsaved : w₄.store.tables =
                  (w.store.saveApproval (approval.decide args.decision (env.clock (w.moment + 2)))).tables := by
                rw [hw₄]
                exact MemoryStore.saveApproval_tables h₃.tables _
              have hmoment : w₃.moment ≤ w₄.moment := by rw [hw₄]; exact Nat.le_succ _
              -- The decision is stored; if nothing else is, the request has made the act `decide`.
              have hdecide : ∀ w', Later w₄ w' → Decides env args w w' := fun w' h =>
                .inl (.decide args.requestId approval _ _ happroval hpending
                  (h₃.moment.trans (hmoment.trans h.moment)) (h.tables.trans hsaved))
              refine .bind (audit_ends _ _) ?_ fun m w' h => hdecide w' h
              intro _ w₅ h₅
              cases prepared with
              | none => exact .ret (hdecide w₅ h₅)
              | some prepared =>
                obtain ⟨hdecision, ⟨p⟩⟩ := hprepares prepared rfl
                rw [hdecision] at hsaved
                refine .bind (M := fun _ => Decides env args w)
                  (savePreparedSession_ends hdecision happroval hpending (hroom room rfl) hhost hlater
                    { p with used := p.used.trans_le (hmoment.trans h₅.moment) } (h₅.tables.trans hsaved)) ?_
                  fun _ _ h => h
                intro session w₆ h₆
                cases session <;> exact h₆

/-! ### Requests -/

theorem perform_eq (w : World) (request : Request) :
    env.perform w request = (operation env.service request).exec env.handler w := by
  unfold perform serviceTransaction
  split <;> simp_all [Environment.service]

/-- A request makes a chain of acts, or it approves a request and issues its session. -/
theorem perform_spec (w : World) (request : Request) :
    Chain env w (env.perform w request).2 ∨
      ∃ args, request = .decideJoinRequest args ∧ Nonempty (Approving env args w (env.perform w request).2) := by
  rw [perform_eq]
  cases request with
  | createRoom args => exact .inl (createRoom_ends args w)
  | createInvite args => exact .inl (createInvite_ends args w)
  | revokeInvite args => exact .inl (revokeInvite_ends args w).1
  | regenerateInvite args => exact .inl (regenerateInvite_ends args w).1
  | createJoinRequest args => exact .inl (createJoinRequest_ends args w).1
  | decideJoinRequest args =>
    rcases decideJoinRequest_ends args w with hact | happroves
    · exact .inl (.single hact)
    · exact .inr ⟨args, rfl, happroves⟩

end Environment

end EasyMc.ControlPlane
