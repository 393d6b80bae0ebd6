import EasyMc.ControlPlane.Sessions

/-!
# Failed requests

A `Repository` is anything that answers the calls of the room service by the interface the service checks for: a
save may be refused without writing, reads write nothing, and a transaction is rolled back when its callback throws.
A request that returns a failure leaves the committed records as they were exactly when no save was refused after
another one had already changed a record (`failure_atomic_iff`).
-/

namespace EasyMc.ControlPlane

open Await (Prog Protocol Conforms)

/-- The committed records, with approvals stored under their own ids. -/
structure Committed where
  rooms : String → Option Room
  invites : String → Option Invite
  approvals : String → Option Approval
  sessions : String → Option Session
  auditEvents : List StoredAuditEvent
  approval_id : ∀ k approval, approvals k = some approval → approval.id = k

/-- The save has been accepted. -/
def Call.accepts : (op : Call) → op.Answer → Bool
  | .saveRoom _, reply => reply.isOk
  | .saveInvite _, reply => reply.isOk
  | .saveApproval _, reply => reply.isOk
  | .saveSession _, reply => reply.isOk
  | _, _ => false

/-- The save has been refused. -/
def Call.refuses : (op : Call) → op.Answer → Bool
  | .saveRoom _, reply => !reply.isOk
  | .saveInvite _, reply => !reply.isOk
  | .saveApproval _, reply => !reply.isOk
  | .saveSession _, reply => !reply.isOk
  | _, _ => false

def Call.isAudit : Call → Bool
  | .recordAuditEvent _ => true
  | _ => false

/-- A repository with the hooks, the clock and the generators of a room service. -/
structure Repository (σ : Type) where
  handler : Prog.Handler Call Call.Answer σ
  rollback : σ → σ → σ
  committed : σ → Committed
  rollback_committed : ∀ before after, committed (rollback before after) = committed before
  other_committed : ∀ {op s out s'}, handler op s = (out, s') → op.isSave = false → op.isAudit = false →
    committed s' = committed s
  refused_committed : ∀ {op s answer s'}, handler op s = (.ok answer, s') → op.refuses answer = true →
    committed s' = committed s
  readApproval_committed : ∀ {id s approval s'}, handler (.readApproval id) s = (.ok (.ok approval), s') →
    (committed s).approvals id = some approval
  saveApproval_committed : ∀ {record s saved s'}, handler (.saveApproval record) s = (.ok (.ok saved), s') →
    ∃ stored, (committed s').approvals record.id = some stored ∧ stored.state = record.state
  audit_approvals : ∀ {event s out s'}, handler (.recordAuditEvent event) s = (out, s') →
    (committed s').approvals = (committed s).approvals

/-- How far a request has come with its saves: nothing is saved (with the approval it read), one save was accepted,
a decision was accepted, the first save was refused, a save was refused after an accepted one, or no save is left. -/
inductive Progress
  | clean (read : Option Approval)
  | written
  | decided
  | refused
  | torn
  | closed

namespace Progress

/-- No save of the request was accepted, or a later one was refused. -/
def Settled : Progress → Prop
  | .clean _ | .refused | .torn => True
  | _ => False

/-- A request returns a failure only when it is settled. -/
def final {α : Type} (q : Progress) (reply : Reply α) : Prop := reply.isOk = false → q.Settled

end Progress

/-- The saves of the operations: an operation that has read a pending approval decides it, one that has saved an
approval goes on to the session, and one that has saved an invite may save another one. -/
def savesProtocol : Protocol Call Call.Answer Progress where
  allows q op :=
    match q, op with
    | .clean none, .saveApproval _ => True
    | .clean (some read), .saveApproval record =>
      read.state = .pending ∧ record.id = read.id ∧ record.state ≠ .pending
    | .clean _, op => op.isAudit = false
    | .written, .recordAuditEvent _ | .written, .createInviteToken | .written, .inviteId
    | .written, .saveInvite _ => True
    | .decided, .recordAuditEvent _ | .decided, .saveSession _ => True
    | .closed, .recordAuditEvent _ => True
    | _, _ => False
  next q op answer :=
    match q, op, answer with
    | .clean none, .readApproval _, .ok approval => .clean (some approval)
    | .clean (some _), .saveApproval _, .ok _ => .decided
    | .clean _, op, answer => if op.accepts answer then .written else if op.refuses answer then .refused else q
    | .written, .recordAuditEvent _, _ => .closed
    | .written, .saveInvite _, .ok _ => .closed
    | .written, .saveInvite _, .fail _ => .torn
    | .decided, .saveSession _, .ok _ => .closed
    | .decided, .saveSession _, .fail _ => .torn
    | q, _, _ => q

/-! ### The operations follow the protocol -/

section Conforms

variable {options : ServiceOptions} {read : Option Approval}

theorem isRoomAvailable_reads (room : Room) :
    Conforms savesProtocol (fun q _ => q = .clean read) (.clean read) (isRoomAvailable options room) := by
  unfold isRoomAvailable
  split
  · rfl
  · split
    · rfl
    · cases read <;> exact .perform_bind rfl fun presence => rfl

theorem checkRoomQuota_reads (context : RoomQuotaContext) :
    Conforms savesProtocol (fun q _ => q = .clean read) (.clean read)
      (callHook options.hasCheckRoomQuota (Service.checkRoomQuota context)) := by
  unfold callHook
  split
  · cases read <;> exact .perform_bind rfl fun result => by cases result <;> rfl
  · rfl

theorem checkSessionQuota_reads (context : SessionQuotaContext) :
    Conforms savesProtocol (fun q _ => q = .clean read) (.clean read)
      (callHook options.hasCheckSessionQuota (Service.checkSessionQuota context)) := by
  unfold callHook
  split
  · cases read <;> exact .perform_bind rfl fun result => by cases result <;> rfl
  · rfl

theorem readAuthorizedInvite_reads (actorId inviteId : String) (action : Action) :
    Conforms savesProtocol (fun q _ => q = .clean none) (.clean none)
      (readAuthorizedInvite actorId inviteId action) := by
  refine .perform_bind rfl fun reply => ?_
  cases reply with
  | fail _ => rfl
  | ok invite =>
    refine .perform_bind rfl fun reply => ?_
    cases reply with
    | fail _ => rfl
    | ok room =>
      dsimp only
      split <;> rfl

theorem applyJoinRequestRateLimits_reads (signals : List (String × String)) :
    Conforms savesProtocol (fun q _ => q = .clean none) (.clean none)
      (applyJoinRequestRateLimits options signals) := by
  induction signals with
  | nil => rfl
  | cons signal signals ih =>
    refine .perform_bind rfl fun result => ?_
    cases result.outcome with
    | fail _ => rfl
    | ok _ => exact ih

theorem Progress.final_clean {α : Type} (reply : Reply α) : (Progress.clean read).final reply := fun _ => trivial

theorem Progress.final_refused {α : Type} (reply : Reply α) : Progress.refused.final reply := fun _ => trivial

theorem Progress.final_torn {α : Type} (reply : Reply α) : Progress.torn.final reply := fun _ => trivial

theorem Progress.final_ok {α : Type} (q : Progress) (a : α) : q.final (.ok a) := nofun

/-- After the last save only the audit event is left. -/
theorem audit_closes {q : Progress} (hq : q = .written ∨ q = .closed) (event : AuditEvent) :
    Conforms savesProtocol (fun _ _ => True) q (audit options event) := by
  unfold audit
  split
  · rcases hq with rfl | rfl <;> exact .perform_bind trivial fun reply => trivial
  · trivial

theorem createRoom_saves (args : CreateRoom) :
    Conforms savesProtocol Progress.final (.clean none) (createRoom options args) := by
  unfold createRoom
  split
  · exact .throw _ _
  · refine .perform_bind rfl fun quotaNow => .bind ((checkRoomQuota_reads _).mono ?_)
    rintro q quota rfl
    cases quota with
    | fail _ => exact Progress.final_clean _
    | ok _ =>
      refine .perform_bind rfl fun now => .perform_bind rfl fun id => .perform_bind rfl fun reply => ?_
      cases reply with
      | fail _ => exact Progress.final_refused _
      | ok saved => exact .bind ((audit_closes (.inl rfl) _).mono fun q _ _ => Progress.final_ok q _)

theorem createInvite_saves (args : CreateInvite) :
    Conforms savesProtocol Progress.final (.clean none) (createInvite options args) := by
  refine .perform_bind rfl fun reply => ?_
  cases reply with
  | fail _ => exact Progress.final_clean _
  | ok room =>
    dsimp only
    split
    · exact Progress.final_clean _
    · refine .perform_bind rfl fun now => .perform_bind rfl fun token => .perform_bind rfl fun id =>
        .perform_bind rfl fun reply => ?_
      cases reply with
      | fail _ => exact Progress.final_refused _
      | ok saved => exact .bind ((audit_closes (.inl rfl) _).mono fun q _ _ => Progress.final_ok q _)

theorem revokeInvite_saves (args : RevokeInvite) :
    Conforms savesProtocol Progress.final (.clean none) (revokeInvite options args) := by
  refine .bind ((readAuthorizedInvite_reads _ _ _).mono ?_)
  rintro q authorized rfl
  cases authorized with
  | fail _ => exact Progress.final_clean _
  | ok invite =>
    refine .perform_bind rfl fun now => .perform_bind rfl fun reply => ?_
    cases reply with
    | fail _ => exact Progress.final_refused _
    | ok saved => exact .bind ((audit_closes (.inl rfl) _).mono fun q _ _ => Progress.final_ok q _)

theorem regenerateInvite_saves (args : RegenerateInvite) :
    Conforms savesProtocol Progress.final (.clean none) (regenerateInvite options args) := by
  refine .bind ((readAuthorizedInvite_reads _ _ _).mono ?_)
  rintro q authorized rfl
  cases authorized with
  | fail _ => exact Progress.final_clean _
  | ok invite =>
    refine .perform_bind rfl fun now => .perform_bind rfl fun reply => ?_
    cases reply with
    | fail _ => exact Progress.final_refused _
    | ok revoked =>
      refine .perform_bind trivial fun token => .perform_bind trivial fun id => .perform_bind trivial fun reply => ?_
      cases reply with
      | fail _ => exact Progress.final_torn _
      | ok saved =>
        exact .bind ((audit_closes (.inr rfl) _).mono fun q _ _ => Progress.final_ok q _)

theorem createJoinRequest_saves (args : CreateJoinRequest) :
    Conforms savesProtocol Progress.final (.clean none) (createJoinRequest options args) := by
  refine .perform_bind rfl fun reply => ?_
  cases reply with
  | fail _ => exact Progress.final_clean _
  | ok invite =>
    refine .perform_bind rfl fun reply => ?_
    cases reply with
    | fail _ => exact Progress.final_clean _
    | ok room =>
      refine .bind ((isRoomAvailable_reads _).mono ?_)
      rintro q available rfl
      split
      · exact Progress.final_clean _
      · refine .bind ((applyJoinRequestRateLimits_reads _).mono ?_)
        rintro q limits rfl
        cases limits with
        | fail _ => exact Progress.final_clean _
        | ok _ =>
          refine .perform_bind rfl fun id => .perform_bind rfl fun createdAt => .perform_bind trivial fun reply => ?_
          cases reply with
          | fail _ => exact Progress.final_refused _
          | ok saved => exact Progress.final_ok _ _

theorem prepareIfApproved_reads (decided : Approval) (room : Room) (args : DecideJoinRequest) (approval : Approval) :
    Conforms savesProtocol (fun q _ => q = .clean (some approval)) (.clean (some approval))
      (prepareIfApproved options decided room args) := by
  unfold prepareIfApproved
  split
  · unfold prepareSessionForApproval
    split
    · rfl
    · refine .bind (.perform_bind rfl fun reply => ?_)
      cases reply with
      | fail _ => rfl
      | ok invite =>
        refine .perform_bind rfl fun checkedAt => ?_
        split
        · rfl
        · refine .bind ((isRoomAvailable_reads _).mono ?_)
          rintro q available rfl
          split
          · rfl
          · split
            · rfl
            · refine .perform_bind rfl fun quotaNow => .bind ((checkSessionQuota_reads _).mono ?_)
              rintro q quota rfl
              cases quota with
              | fail _ => rfl
              | ok _ => exact .perform_bind rfl fun now => .perform_bind rfl fun id => rfl
  · rfl

theorem audit_decided (event : AuditEvent) :
    Conforms savesProtocol (fun q _ => q = .decided) .decided (audit options event) := by
  unfold audit
  split
  · exact .perform_bind trivial fun reply => rfl
  · rfl

theorem decideJoinRequest_saves (args : DecideJoinRequest) :
    Conforms savesProtocol Progress.final (.clean none) (decideJoinRequest options args) := by
  unfold decideJoinRequest
  split
  · exact Progress.final_clean _
  · rename_i hhost
    refine .perform_bind rfl fun reply => ?_
    cases reply with
    | fail _ => exact Progress.final_clean _
    | ok approval =>
      refine .perform_bind rfl fun reply => ?_
      cases reply with
      | fail _ => exact Progress.final_clean _
      | ok room =>
        dsimp only
        split
        · exact Progress.final_clean _
        · split
          · exact Progress.final_clean _
          · rename_i hpending
            refine .perform_bind rfl fun decidedAt => .bind ((prepareIfApproved_reads _ _ _ _).mono ?_)
            rintro q prepared rfl
            cases prepared with
            | fail _ => exact Progress.final_clean _
            | ok prepared =>
              have hdecision : args.decision ≠ .pending := by
                intro h
                simp [h, hostDecisions] at hhost
              refine .perform_bind ⟨by simpa using hpending, rfl, hdecision⟩ fun reply => ?_
              cases reply with
              | fail _ => exact Progress.final_refused _
              | ok saved =>
                refine .bind ((audit_decided _).mono ?_)
                rintro q audited rfl
                cases prepared with
                | none => exact Progress.final_ok _ _
                | some prepared =>
                  refine .bind (.perform_bind trivial fun reply => ?_)
                  cases reply with
                  | fail _ => exact Progress.final_torn _
                  | ok session => exact Progress.final_ok _ _

theorem operation_saves (request : Request) :
    Conforms savesProtocol Progress.final (.clean none) (operation options request) := by
  cases request with
  | createRoom args => exact createRoom_saves args
  | createInvite args => exact createInvite_saves args
  | revokeInvite args => exact revokeInvite_saves args
  | regenerateInvite args => exact regenerateInvite_saves args
  | createJoinRequest args => exact createJoinRequest_saves args
  | decideJoinRequest args => exact decideJoinRequest_saves args

end Conforms

/-! ### What a request leaves -/

namespace Repository

variable {σ : Type} (repo : Repository σ)

/-- One request over the repository. -/
def perform (options : ServiceOptions) (request : Request) (s : σ) : Except String (Reply Response) × σ :=
  serviceTransaction options.hasWithTransaction repo.rollback repo.handler (operation options request) s

/-- An accepted save. -/
def Accepted (c : Prog.Called Call Call.Answer σ) : Prop := ∃ r, c.outcome = .ok r ∧ c.op.accepts r = true

/-- A refused save. -/
def Refused (c : Prog.Called Call Call.Answer σ) : Prop := ∃ r, c.outcome = .ok r ∧ c.op.refuses r = true

/-- One of the calls is an accepted save that changed a committed record. -/
def Wrote (past : List (Prog.Called Call Call.Answer σ)) : Prop :=
  ∃ c ∈ past, Accepted c ∧ repo.committed c.after ≠ repo.committed c.before

/-- A save is refused after an accepted one that changed a committed record. -/
def RefusesAfterWrite (past : List (Prog.Called Call Call.Answer σ)) : Prop :=
  ∃ before c later, past = before ++ c :: later ∧ Refused c ∧ repo.Wrote before

variable {repo} {past : List (Prog.Called Call Call.Answer σ)} {c : Prog.Called Call Call.Answer σ}

theorem wrote_concat : repo.Wrote (past ++ [c]) ↔
    repo.Wrote past ∨ (Accepted c ∧ repo.committed c.after ≠ repo.committed c.before) := by
  constructor
  · rintro ⟨d, hd, hwrote⟩
    rcases List.mem_append.1 hd with hd | hd
    · exact .inl ⟨d, hd, hwrote⟩
    · obtain rfl := List.mem_singleton.1 hd
      exact .inr hwrote
  · rintro (⟨d, hd, hwrote⟩ | hwrote)
    · exact ⟨d, List.mem_append_left _ hd, hwrote⟩
    · exact ⟨c, by simp, hwrote⟩

theorem refusesAfterWrite_concat (hc : Refused c) : repo.RefusesAfterWrite (past ++ [c]) ↔ repo.Wrote past := by
  constructor
  · rintro ⟨before, d, later, hpast, -, e, he, hwrote⟩
    refine ⟨e, ?_, hwrote⟩
    rcases List.eq_nil_or_concat later with rfl | ⟨later, last, rfl⟩
    · rw [List.append_inj_left' hpast rfl]
      exact he
    · have hpast' : past ++ [c] = (before ++ d :: later) ++ [last] := by simpa using hpast
      rw [List.append_inj_left' hpast' rfl]
      exact List.mem_append_left _ he
  · intro hwrote
    exact ⟨past, c, [], by simp, hc, hwrote⟩

theorem not_refusesAfterWrite (h : ∀ c ∈ past, ¬ Accepted c) : ¬ repo.RefusesAfterWrite past := by
  rintro ⟨before, d, later, rfl, -, e, he, haccepted, -⟩
  exact h e (List.mem_append_left _ he) haccepted

variable (repo) in
/-- What is committed, compared with the state `s₀` before the request. -/
def Inv (s₀ : σ) : Progress → List (Prog.Called Call Call.Answer σ) → σ → Prop
  | .clean read, past, s => repo.committed s = repo.committed s₀ ∧ (∀ c ∈ past, ¬ Accepted c) ∧
      ∀ approval, read = some approval → (repo.committed s).approvals approval.id = some approval
  | .written, past, s => repo.Wrote past ↔ repo.committed s ≠ repo.committed s₀
  | .decided, past, s => repo.Wrote past ∧ (repo.committed s).approvals ≠ (repo.committed s₀).approvals
  | .refused, past, s => repo.committed s = repo.committed s₀ ∧ ∀ c ∈ past, ¬ Accepted c
  | .torn, past, s => repo.RefusesAfterWrite past ↔ repo.committed s ≠ repo.committed s₀
  | .closed, _, _ => True

theorem inv_settled {s₀ s : σ} {q : Progress} (h : repo.Inv s₀ q past s) (hq : q.Settled) :
    repo.RefusesAfterWrite past ↔ repo.committed s ≠ repo.committed s₀ := by
  cases q with
  | clean read => exact iff_of_false (not_refusesAfterWrite h.2.1) (not_not.2 h.1)
  | refused => exact iff_of_false (not_refusesAfterWrite h.2) (not_not.2 h.1)
  | torn => exact h
  | written | decided | closed => exact absurd hq id

theorem not_accepted_concat (h : ∀ c ∈ past, ¬ Accepted c) (hc : ¬ Accepted c) : ∀ d ∈ past ++ [c], ¬ Accepted d := by
  intro d hd
  rcases List.mem_append.1 hd with hd | hd
  · exact h d hd
  · obtain rfl := List.mem_singleton.1 hd
    exact hc

/-- Before anything is saved: a call that is no save leaves the records as they are. -/
theorem inv_clean_other {s₀ s s' : σ} {read : Option Approval} {op : Call} {answer : op.Answer}
    (h : repo.Inv s₀ (.clean read) past s) (hr : repo.handler op s = (.ok answer, s')) (hsave : op.isSave = false)
    (haudit : op.isAudit = false) : repo.Inv s₀ (.clean read) (past ++ [⟨op, .ok answer, s, s'⟩]) s' := by
  have hsame := repo.other_committed hr hsave haudit
  refine ⟨hsame.trans h.1, not_accepted_concat h.2.1 ?_, hsame ▸ h.2.2⟩
  rintro ⟨r, -, haccepts⟩
  cases op <;> simp [Call.accepts, Call.isSave] at haccepts hsave

theorem inv_clean_refused {s₀ s s' : σ} {read : Option Approval} {op : Call} {answer : op.Answer}
    (h : repo.Inv s₀ (.clean read) past s) (hr : repo.handler op s = (.ok answer, s'))
    (hrefused : op.refuses answer = true) : repo.Inv s₀ .refused (past ++ [⟨op, .ok answer, s, s'⟩]) s' := by
  refine ⟨(repo.refused_committed hr hrefused).trans h.1, not_accepted_concat h.2.1 ?_⟩
  rintro ⟨r, hr', haccepts⟩
  obtain rfl : answer = r := by simpa using hr'
  cases op <;> simp_all [Call.accepts, Call.refuses]

theorem inv_clean_accepted {s₀ s s' : σ} {read : Option Approval} {op : Call} {answer : op.Answer}
    (h : repo.Inv s₀ (.clean read) past s) (haccepts : op.accepts answer = true) :
    repo.Inv s₀ .written (past ++ [⟨op, .ok answer, s, s'⟩]) s' := by
  show repo.Wrote _ ↔ _
  rw [wrote_concat, ← h.1]
  constructor
  · rintro (⟨d, hd, haccepted, -⟩ | ⟨-, hchanged⟩)
    · exact absurd haccepted (h.2.1 d hd)
    · exact hchanged
  · exact fun hchanged => .inr ⟨⟨answer, rfl, haccepts⟩, hchanged⟩

/-- A decision changes the stored approval. -/
theorem inv_decided {s₀ s s' : σ} {read record : Approval} {saved : Option Approval}
    (h : repo.Inv s₀ (.clean (some read)) past s) (hpending : read.state = .pending) (hid : record.id = read.id)
    (hfinal : record.state ≠ .pending)
    (hr : repo.handler (.saveApproval record) s = (.ok (.ok saved), s')) :
    repo.Inv s₀ .decided (past ++ [⟨.saveApproval record, .ok (.ok saved), s, s'⟩]) s' := by
  obtain ⟨stored, hstored, hstate⟩ := repo.saveApproval_committed hr
  have hchanged : (repo.committed s').approvals ≠ (repo.committed s).approvals := by
    intro hsame
    have hread := h.2.2 read rfl
    rw [← hsame, ← hid, hstored] at hread
    obtain rfl := Option.some.inj hread
    exact hfinal (hstate.symm.trans hpending)
  refine ⟨wrote_concat.2 (.inr ⟨⟨_, rfl, rfl⟩, fun hsame => hchanged (congrArg _ hsame)⟩), ?_⟩
  rw [← h.1]
  exact hchanged

theorem inv_torn {s₀ s s' : σ} {op : Call} {answer : op.Answer}
    (h : repo.Wrote past ↔ repo.committed s ≠ repo.committed s₀) (hr : repo.handler op s = (.ok answer, s'))
    (hrefused : op.refuses answer = true) : repo.Inv s₀ .torn (past ++ [⟨op, .ok answer, s, s'⟩]) s' := by
  show repo.RefusesAfterWrite _ ↔ _
  rw [refusesAfterWrite_concat ⟨answer, rfl, hrefused⟩, h, repo.refused_committed hr hrefused]

theorem inv_written_other {s₀ s s' : σ} {op : Call} {answer : op.Answer} (h : repo.Inv s₀ .written past s)
    (hr : repo.handler op s = (.ok answer, s')) (hsave : op.isSave = false) (haudit : op.isAudit = false) :
    repo.Inv s₀ .written (past ++ [⟨op, .ok answer, s, s'⟩]) s' := by
  have hsame := repo.other_committed hr hsave haudit
  show repo.Wrote _ ↔ _
  rw [wrote_concat, or_iff_left fun hc => hc.2 hsame, hsame]
  exact h

/-- One answered call of a request. -/
theorem inv_step {s₀ s s' : σ} {q : Progress} {op : Call} {answer : op.Answer} (h : repo.Inv s₀ q past s)
    (hallows : savesProtocol.allows q op) (hr : repo.handler op s = (.ok answer, s')) :
    repo.Inv s₀ (savesProtocol.next q op answer) (past ++ [⟨op, .ok answer, s, s'⟩]) s' := by
  cases q with
  | clean read =>
    cases op
    case saveRoom | saveInvite | saveSession =>
      cases answer with
      | ok saved => cases read <;> exact inv_clean_accepted h rfl
      | fail reason => cases read <;> exact inv_clean_refused h hr rfl
    case saveApproval record =>
      cases answer with
      | fail reason => cases read <;> exact inv_clean_refused h hr rfl
      | ok saved =>
        cases read with
        | none => exact inv_clean_accepted h rfl
        | some read => exact inv_decided h hallows.1 hallows.2.1 hallows.2.2 hr
    case readApproval id =>
      -- The approval that is read is remembered: a decision saves it back with another state.
      have hother := inv_clean_other h hr rfl rfl
      cases read with
      | some read => exact hother
      | none =>
        cases answer with
        | fail reason => exact hother
        | ok approval =>
          refine ⟨hother.1, hother.2.1, ?_⟩
          rintro a ha
          obtain rfl := Option.some.inj ha
          have hstored := repo.readApproval_committed hr
          rw [repo.other_committed hr rfl rfl, (repo.committed s).approval_id id approval hstored]
          exact hstored
    case recordAuditEvent event => cases read <;> cases hallows
    all_goals cases read <;> exact inv_clean_other h hr rfl rfl
  | written =>
    -- An invite has been saved; `regenerateInvite` saves a second one.
    cases op <;> simp only [savesProtocol] at hallows
    case saveInvite invite =>
      cases answer with
      | ok saved => trivial
      | fail reason => exact inv_torn h hr rfl
    case recordAuditEvent event => trivial
    all_goals exact inv_written_other h hr rfl rfl
  | decided =>
    -- The decided approval has been saved, and an approval goes on to its session.
    cases op <;> simp only [savesProtocol] at hallows
    case saveSession session =>
      cases answer with
      | ok saved => trivial
      | fail reason =>
        exact inv_torn (iff_of_true h.1 fun hsame => h.2 (congrArg _ hsame)) hr rfl
    case recordAuditEvent event =>
      refine ⟨wrote_concat.2 (.inl h.1), ?_⟩
      rw [repo.audit_approvals hr]
      exact h.2
  | closed =>
    cases op <;> simp only [savesProtocol] at hallows
    trivial
  | refused | torn => cases op <;> simp only [savesProtocol] at hallows

/-- A request that returns a failure is settled. -/
theorem exists_settled (repo : Repository σ) (options : ServiceOptions) (request : Request) (s : σ) {reason : Reason}
    (hfail : (repo.perform options request s).1 = .ok (.fail reason)) : ∃ q : Progress, q.Settled ∧
      repo.Inv s q ((operation options request).calls repo.handler s) (repo.perform options request s).2 := by
  unfold perform serviceTransaction at hfail ⊢
  rcases hrun : (operation options request).exec repo.handler s with ⟨m | reply, s'⟩
  · rw [hrun] at hfail
    cases hfail
  · rw [hrun] at hfail
    obtain rfl : reply = .fail reason := by simpa using hfail
    have hstart : repo.Inv s (.clean none) [] s := ⟨rfl, by simp, by simp⟩
    obtain ⟨q, hfinal, hinv⟩ := (operation_saves request).exec
      (fun q past op s₁ answer s₂ h hallows hr => inv_step h hallows hr) hstart hrun
    exact ⟨q, hfinal rfl, by simpa using hinv⟩

end Repository

/-! ### The memory store as a repository -/

/-- Approvals are stored under their own ids. -/
def Keyed (w : World) : Prop := ∀ k approval, w.store.approvals.get k = some approval → approval.id = k

theorem keyed_of_reachable {env : Environment} {w : World} (h : env.Reachable w) : Keyed w :=
  fun k approval hk => ((Tables.Wf.of_reachable h).approval k approval hk).1

/-- The answer of a save that is refused. -/
def Call.refusal : (op : Call) → Option op.Answer
  | .saveRoom _ => some (failWith .sessionUnavailable)
  | .saveInvite _ => some (failWith .inviteUnavailable)
  | .saveApproval _ => some (failWith .sessionUnavailable)
  | .saveSession _ => some (failWith .sessionUnavailable)
  | _ => none

namespace Environment

variable {env : Environment} {w w' : World}

theorem handler_keyed {op : Call} {out : Except String op.Answer} (h : env.handler op w = (out, w')) (hw : Keyed w) :
    Keyed w' := by
  have hlater : Later w w' → Keyed w' := fun hlater k approval => hlater.approvals ▸ hw k approval
  rcases out with m | answer
  · exact hlater (handler_error h)
  · cases op
    case saveApproval record =>
      obtain ⟨-, rfl⟩ := saved_ok h
      intro k approval hk
      change (w.store.approvals.set record.id record).get k = some approval at hk
      rcases JsMap.get_set_cases hk with ⟨hid, rfl⟩ | ⟨-, hk⟩
      · exact hid
      · exact hw k approval hk
    case saveRoom | saveInvite | saveSession =>
      obtain ⟨-, rfl⟩ := saved_ok h
      exact hw
    all_goals exact hlater (handler_later h rfl)

/-- Only audit calls add audit events. -/
theorem handler_auditEvents {op : Call} {out : Except String op.Answer} (h : env.handler op w = (out, w'))
    (hop : op.isAudit = false) : w'.store.auditEvents = w.store.auditEvents := by
  obtain rfl := congrArg Prod.snd h
  cases op <;> simp only [Call.isAudit, Bool.true_eq_false] at hop
  case incrementRateLimitCounter request =>
    show (w.store.incrementRateLimitCounter env.sha256 (env.clock w.moment) request).2.auditEvents = _
    unfold MemoryStore.incrementRateLimitCounter
    split <;> rfl
  all_goals
    simp only [handler, saved, found]
    try split
    all_goals rfl

/-- The memory store refuses no save. -/
theorem handler_refuses {op : Call} {answer : op.Answer} (h : env.handler op w = (.ok answer, w')) :
    op.refuses answer = false := by
  cases op
  case saveRoom | saveInvite | saveApproval | saveSession =>
    obtain ⟨rfl, -⟩ := saved_ok h
    rfl
  all_goals rfl

end Environment

/-- The memory store, except that it refuses the saves that `refuses` picks. -/
def memoryHandler (env : Environment) (refuses : Call → Bool) (op : Call) (w : { w : World // Keyed w }) :
    Except String op.Answer × { w : World // Keyed w } :=
  match if refuses op then op.refusal else none with
  | some answer => (.ok answer, ⟨w.1.tick, w.2⟩)
  | none => ((env.handler op w.1).1, ⟨(env.handler op w.1).2, Environment.handler_keyed rfl w.2⟩)

theorem refusal_refuses {op : Call} {answer : op.Answer} (h : op.refusal = some answer) :
    op.isSave = true ∧ op.refuses answer = true := by
  cases op <;> cases h <;> exact ⟨rfl, rfl⟩

theorem memoryHandler_cases {env : Environment} {refuses : Call → Bool} {op : Call} {w w' : { w : World // Keyed w }}
    {out : Except String op.Answer} (h : memoryHandler env refuses op w = (out, w')) :
    (∃ answer, op.refusal = some answer ∧ out = .ok answer ∧ w'.1 = w.1.tick) ∨
      env.handler op w.1 = (out, w'.1) := by
  unfold memoryHandler at h
  split at h
  · rename_i answer hanswer
    obtain ⟨rfl, rfl⟩ := Prod.mk.inj h
    refine .inl ⟨answer, ?_, rfl, rfl⟩
    split at hanswer
    · exact hanswer
    · cases hanswer
  · obtain ⟨rfl, rfl⟩ := Prod.mk.inj h
    exact .inr rfl

/-- What the store has committed. -/
def committedRecords (w : { w : World // Keyed w }) : Committed where
  rooms := w.1.store.rooms.get
  invites := w.1.store.invites.get
  approvals := w.1.store.approvals.get
  sessions := w.1.store.sessions.get
  auditEvents := w.1.store.auditEvents
  approval_id := w.2

theorem committedRecords_congr {w w' : { w : World // Keyed w }} (h : Later w.1 w'.1)
    (haudit : w'.1.store.auditEvents = w.1.store.auditEvents) : committedRecords w' = committedRecords w := by
  simp only [committedRecords, h.rooms, h.invites, h.approvals, h.sessions, haudit]

def memoryRepository (env : Environment) (refuses : Call → Bool) : Repository { w : World // Keyed w } where
  handler := memoryHandler env refuses
  rollback before _ := before
  committed := committedRecords
  rollback_committed _ _ := rfl
  other_committed := by
    intro op w out w' h hsave haudit
    rcases memoryHandler_cases h with ⟨answer, hrefusal, -, -⟩ | h
    · rw [(refusal_refuses hrefusal).1] at hsave
      cases hsave
    · exact committedRecords_congr (Environment.handler_later h hsave) (Environment.handler_auditEvents h haudit)
  refused_committed := by
    intro op w answer w' h hrefused
    rcases memoryHandler_cases h with ⟨_, -, -, hw⟩ | h
    · exact committedRecords_congr (hw ▸ Later.tick w.1) (hw ▸ rfl)
    · rw [Environment.handler_refuses h] at hrefused
      cases hrefused
  readApproval_committed := by
    intro id w approval w' h
    rcases memoryHandler_cases h with ⟨_, hrefusal, -, -⟩ | h
    · cases hrefusal
    · exact (Environment.found_ok h).2 approval rfl
  saveApproval_committed := by
    intro record w saved w' h
    rcases memoryHandler_cases h with ⟨answer, hrefusal, hok, -⟩ | h
    · cases hrefusal
      cases hok
    · refine ⟨record, ?_, rfl⟩
      show w'.1.store.approvals.get record.id = some record
      rw [(Environment.saved_ok h).2]
      exact JsMap.get_set_self _ _ _
  audit_approvals := by
    intro event w out w' h
    rcases memoryHandler_cases h with ⟨_, hrefusal, -, -⟩ | h
    · cases hrefusal
    · exact congrArg JsMap.get (Environment.handler_later h rfl).approvals

/-! ### When a failed request changes nothing -/

/-- A request that returns a failure leaves the committed records exactly as they were, if and only if the repository
does not refuse a save after it has accepted one that changed a record. -/
theorem failure_atomic_iff {σ : Type} (repo : Repository σ) (options : ServiceOptions) (request : Request) (s : σ)
    {reason : Reason} (hfail : (repo.perform options request s).1 = .ok (.fail reason)) :
    repo.committed (repo.perform options request s).2 = repo.committed s ↔
      ¬ repo.RefusesAfterWrite ((operation options request).calls repo.handler s) := by
  obtain ⟨q, hsettled, hinv⟩ := repo.exists_settled options request s hfail
  rw [Repository.inv_settled hinv hsettled, not_not]

/-- The memory store after `askedJoin`, refusing every session. -/
def refusesSessions : Call → Bool
  | .saveSession _ => true
  | _ => false

def askedStore : { w : World // Keyed w } :=
  ⟨(countingEnvironment 1000).run askedJoin, keyed_of_reachable ⟨askedJoin, rfl⟩⟩

/-- The host approves the request, and the session is refused. -/
theorem failure_atomic_iff_refused_session :
    let env := countingEnvironment 1000
    let repo := memoryRepository env refusesSessions
    let request := Request.decideJoinRequest (hostDecision .approved)
    repo.committed (repo.perform env.service request askedStore).2 = repo.committed askedStore ↔
      ¬ repo.RefusesAfterWrite ((operation env.service request).calls repo.handler askedStore) :=
  failure_atomic_iff (memoryRepository (countingEnvironment 1000) refusesSessions) _ _ askedStore
    (show _ = Except.ok (Reply.fail (.error .sessionUnavailable)) by decide)

/-- The decided approval and its audit event stay behind when the session is refused. -/
theorem approval_kept_after_failure :
    ¬ ∀ (σ : Type) (repo : Repository σ) (options : ServiceOptions) (request : Request) (s : σ) (reason : Reason),
      (repo.perform options request s).1 = .ok (.fail reason) →
      repo.committed (repo.perform options request s).2 = repo.committed s := by
  intro h
  have hsame := h _ (memoryRepository (countingEnvironment 1000) refusesSessions) (countingEnvironment 1000).service
    (.decideJoinRequest (hostDecision .approved)) askedStore (.error .sessionUnavailable) (by decide)
  have hstate := congrArg (fun c => (c.approvals (countingName 'a' 15)).map Approval.state) hsame
  exact absurd hstate (by decide)

end EasyMc.ControlPlane
