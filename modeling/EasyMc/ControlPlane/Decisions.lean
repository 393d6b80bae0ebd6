import EasyMc.ControlPlane.Sessions

/-!
# Overlapping decisions

Several `decideJoinRequest` calls for one pending request share the memory store and take turns at their waiting
points.  Each call follows `decisionProtocol`: it reads the request, checks, saves the decided approval, and then
saves the session if it approved.  Nothing is read again before the save, so the calls exclude each other exactly
as long as every save of an approval still finds the stored request pending.
-/

namespace EasyMc.ControlPlane

open Await (Prog Protocol Conforms Pool)

/-- How far a decision has come, with the approval it read. -/
inductive Phase
  | reading
  | checking (approval : Approval)
  | decided (approval : Approval)
  | issued (approval : Approval)

/-- The approval read at the start. -/
def Phase.read : Phase → Option Approval
  | .reading => none
  | .checking approval | .decided approval | .issued approval => some approval

structure Decision where
  decision : ApprovalState
  phase : Phase

namespace Decision

/-- The call has saved its decision. -/
def Saved (q : Decision) : Prop := ∃ approval, q.phase = .decided approval ∨ q.phase = .issued approval

@[simp] theorem not_saved_reading (decision : ApprovalState) : ¬ Saved ⟨decision, .reading⟩ := by simp [Saved]

@[simp] theorem not_saved_checking (decision : ApprovalState) (read : Approval) :
    ¬ Saved ⟨decision, .checking read⟩ := by simp [Saved]

/-- A call returns `ok` only after it has saved its decision. -/
def final (q : Decision) (reply : Reply Response) : Prop := reply.isOk = true → q.Saved

theorem final_fail (q : Decision) (reason : Reason) : q.final (.fail reason) := nofun

theorem final_failWith (q : Decision) (state : ErrorState) : q.final (failWith state) := nofun

end Decision

def decisionProtocol (requestId : String) : Protocol Call Call.Answer Decision where
  allows q op :=
    match q.phase, op with
    | .reading, .readApproval id => id = requestId
    | .checking approval, .saveApproval record =>
      approval.state = .pending ∧ q.decision ∈ hostDecisions ∧ record.id = approval.id ∧ record.state = q.decision
    | .checking _, .readRoom _ | .checking _, .readInvite _ | .checking _, .readPresence _ | .checking _, .now
    | .checking _, .checkSessionQuota _ | .checking _, .sessionId => True
    | .decided _, .recordAuditEvent _ => True
    | .decided approval, .saveSession record => q.decision = .approved ∧ record.requestId = approval.id
    | _, _ => False
  next q op answer :=
    match q.phase, op, answer with
    | .reading, .readApproval _, .ok approval => { q with phase := .checking approval }
    | .checking approval, .saveApproval _, .ok _ => { q with phase := .decided approval }
    | .decided approval, .saveSession _, .ok _ => { q with phase := .issued approval }
    | _, _, _ => q

/-! ### The calls follow the protocol -/

section Conforms

variable {options : ServiceOptions} {requestId : String}

theorem isRoomAvailable_conforms (room : Room) (decision : ApprovalState) (approval : Approval) :
    Conforms (decisionProtocol requestId) (fun q _ => q = ⟨decision, .checking approval⟩)
      ⟨decision, .checking approval⟩ (isRoomAvailable options room) := by
  unfold isRoomAvailable
  split
  · rfl
  · split
    · rfl
    · exact .perform_bind trivial fun presence => rfl

theorem checkSessionQuota_conforms (context : SessionQuotaContext) (decision : ApprovalState) (approval : Approval) :
    Conforms (decisionProtocol requestId) (fun q _ => q = ⟨decision, .checking approval⟩)
      ⟨decision, .checking approval⟩
      (callHook options.hasCheckSessionQuota (Service.checkSessionQuota context)) := by
  unfold callHook
  split
  · exact .perform_bind trivial fun result => by cases result <;> rfl
  · rfl

theorem audit_conforms (event : AuditEvent) (decision : ApprovalState) (approval : Approval) :
    Conforms (decisionProtocol requestId) (fun q _ => q = ⟨decision, .decided approval⟩)
      ⟨decision, .decided approval⟩ (audit options event) := by
  unfold audit
  split
  · exact .perform_bind trivial fun reply => rfl
  · rfl

/-- Preparing a session only reads. -/
theorem prepareIfApproved_conforms (decided : Approval) (room : Room) (args : DecideJoinRequest)
    (approval : Approval) :
    Conforms (decisionProtocol requestId)
      (fun q reply => q = ⟨args.decision, .checking approval⟩ ∧ ∀ prepared, reply = .ok (some prepared) →
        args.decision = .approved ∧ prepared.sessionRecord.requestId = decided.id)
      ⟨args.decision, .checking approval⟩ (prepareIfApproved options decided room args) := by
  unfold prepareIfApproved
  split
  · rename_i hdecision
    unfold prepareSessionForApproval
    split
    · exact ⟨rfl, fun _ h => nomatch h⟩
    · refine .bind (.perform_bind trivial fun reply => ?_)
      cases reply with
      | fail _ => exact ⟨rfl, fun _ h => nomatch h⟩
      | ok invite =>
        refine .perform_bind trivial fun checkedAt => ?_
        split
        · exact ⟨rfl, fun _ h => nomatch h⟩
        · refine .bind ((isRoomAvailable_conforms _ _ _).mono ?_)
          rintro q available rfl
          split
          · exact ⟨rfl, fun _ h => nomatch h⟩
          · split
            · exact ⟨rfl, fun _ h => nomatch h⟩
            · refine .perform_bind trivial fun quotaNow => .bind ((checkSessionQuota_conforms _ _ _).mono ?_)
              rintro q quota rfl
              cases quota with
              | fail _ => exact ⟨rfl, fun _ h => nomatch h⟩
              | ok _ =>
                refine .perform_bind trivial fun now => .perform_bind trivial fun id => ⟨rfl, fun prepared h => ?_⟩
                obtain rfl := by simpa using h
                exact ⟨hdecision, rfl⟩
  · exact ⟨rfl, fun _ h => nomatch h⟩

theorem savePreparedSession_conforms {decision : ApprovalState} (approval : Approval) {prepared : PreparedSession}
    (hdecision : decision = .approved) (hrequest : prepared.sessionRecord.requestId = approval.id) :
    Conforms (decisionProtocol requestId) (fun q reply => reply.isOk = true → q.Saved)
      ⟨decision, .decided approval⟩ (savePreparedSession prepared) := by
  refine .perform_bind ⟨hdecision, hrequest⟩ fun reply => ?_
  cases reply with
  | fail _ => exact fun h => nomatch h
  | ok saved => exact fun _ => ⟨approval, .inr rfl⟩

theorem decideJoinRequest_conforms (args : DecideJoinRequest) :
    Conforms (decisionProtocol args.requestId) Decision.final ⟨args.decision, .reading⟩
      (decideJoinRequest options args) := by
  unfold decideJoinRequest
  split
  · exact Decision.final_failWith _ _
  · rename_i hhost
    refine .perform_bind rfl fun reply => ?_
    cases reply with
    | fail _ => exact Decision.final_failWith _ _
    | ok approval =>
      refine .perform_bind trivial fun reply => ?_
      cases reply with
      | fail _ => exact Decision.final_failWith _ _
      | ok room =>
        dsimp only
        split
        · exact Decision.final_failWith _ _
        · split
          · exact Decision.final_failWith _ _
          · rename_i hpending
            refine .perform_bind trivial fun decidedAt => ?_
            refine .bind ((prepareIfApproved_conforms _ _ _ _).mono ?_)
            rintro q reply ⟨rfl, hprepared⟩
            cases reply with
            | fail _ => exact Decision.final_fail _ _
            | ok prepared =>
              refine .perform_bind ⟨by simpa using hpending, by simpa using hhost, rfl, rfl⟩ fun reply => ?_
              cases reply with
              | fail _ => exact Decision.final_fail _ _
              | ok saved =>
                refine .bind ((audit_conforms _ _ _).mono ?_)
                rintro q audited rfl
                cases prepared with
                | none => exact fun _ => ⟨approval, .inl rfl⟩
                | some prepared =>
                  obtain ⟨hdecision, hrequest⟩ := hprepared prepared rfl
                  refine .bind ((savePreparedSession_conforms approval hdecision hrequest).mono ?_)
                  intro q reply hsaved
                  cases reply with
                  | fail _ => exact Decision.final_fail _ _
                  | ok session => exact fun _ => hsaved rfl

end Conforms

/-! ### What the calls leave -/

/-- The sessions stored for the request. -/
def IsSession (requestId : String) (w : World) (key : String) : Prop :=
  ∃ session, w.store.sessions.get key = some session ∧ session.requestId = requestId

/-- While the request is pending, no call has saved its decision and no session is stored; once it is decided,
exactly one call has, and a session is stored only after that call approved. -/
inductive Exclusive (requestId : String) (qs : List Decision) (w : World) : Prop
  | undecided (approval : Approval) (stored : w.store.approvals.get requestId = some approval)
      (pending : approval.state = .pending) (unsaved : ∀ q ∈ qs, ¬ q.Saved)
      (sessions : ∀ key, ¬ IsSession requestId w key)
  | decided (approval : Approval) (stored : w.store.approvals.get requestId = some approval)
      (final : approval.state ≠ .pending) (writer : Nat) (q : Decision) (at_writer : qs[writer]? = some q)
      (saved : q.Saved) (decision : q.decision = approval.state) (only : ∀ j q', qs[j]? = some q' → q'.Saved → j = writer)
      (sessions : ∀ key, IsSession requestId w key →
        q.decision = .approved ∧ ∃ read, q.phase = .issued read)
      (unique : ∀ key key', IsSession requestId w key → IsSession requestId w key' → key = key')

theorem isSession_congr {requestId : String} {w w' : World} (h : w'.store.sessions = w.store.sessions)
    (key : String) : IsSession requestId w' key ↔ IsSession requestId w key := by
  unfold IsSession
  rw [h]

variable {requestId : String} {qs : List Decision} {w w' : World}

theorem Exclusive.congr (h : Exclusive requestId qs w) (happrovals : w'.store.approvals = w.store.approvals)
    (hsessions : w'.store.sessions = w.store.sessions) : Exclusive requestId qs w' := by
  cases h with
  | undecided approval stored pending unsaved sessions =>
    refine .undecided approval (happrovals ▸ stored) pending unsaved fun key => ?_
    rw [isSession_congr hsessions]
    exact sessions key
  | decided approval stored final writer q at_writer saved decision only sessions unique =>
    refine .decided approval (happrovals ▸ stored) final writer q at_writer saved decision only (fun key => ?_)
      fun key key' => ?_
    · rw [isSession_congr hsessions]
      exact sessions key
    · rw [isSession_congr hsessions, isSession_congr hsessions]
      exact unique key key'

/-- A call that has not saved its decision may move on, as long as it saves nothing. -/
theorem Exclusive.move (h : Exclusive requestId qs w) {i : Nat} {q q' : Decision} (hi : qs[i]? = some q)
    (hq : ¬ q.Saved) (hq' : ¬ q'.Saved) : Exclusive requestId (qs.set i q') w := by
  cases h with
  | undecided approval stored pending unsaved sessions =>
    refine .undecided approval stored pending (fun p hp => ?_) sessions
    rcases List.mem_or_eq_of_mem_set hp with hp | rfl
    · exact unsaved p hp
    · exact hq'
  | decided approval stored final writer p at_writer saved decision only sessions unique =>
    have hne : i ≠ writer := by
      rintro rfl
      obtain rfl := Option.some.inj (hi.symm.trans at_writer)
      exact hq saved
    refine .decided approval stored final writer p ?_ saved decision (fun j p' hj hp' => ?_) sessions unique
    · rw [List.getElem?_set_ne hne]
      exact at_writer
    · by_cases hij : i = j
      · subst hij
        rw [List.getElem?_set_self (List.getElem?_eq_some_iff.1 hi).1] at hj
        obtain rfl := Option.some.inj hj
        exact absurd hp' hq'
      · rw [List.getElem?_set_ne hij] at hj
        exact only j p' hj hp'

/-- The first call that saves its decision, while the stored request is pending. -/
theorem Exclusive.save (h : Exclusive requestId qs w) {i : Nat} {q : Decision} {read record approval : Approval}
    (hi : qs[i]? = some q) (hpending : w.store.approvals.get requestId = some approval)
    (hstate : approval.state = .pending) (hrecord : record.state = q.decision) (hfinal : q.decision ≠ .pending)
    (happrovals : w'.store.approvals = w.store.approvals.set requestId record)
    (hsessions : w'.store.sessions = w.store.sessions) :
    Exclusive requestId (qs.set i { q with phase := .decided read }) w' := by
  cases h with
  | decided approval' stored final writer p at_writer saved decision only sessions unique =>
    obtain rfl := Option.some.inj (hpending.symm.trans stored)
    exact absurd hstate final
  | undecided approval' stored pending unsaved sessions =>
    have hlt := (List.getElem?_eq_some_iff.1 hi).1
    refine .decided record (by rw [happrovals, JsMap.get_set_self]) (by rw [hrecord]; exact hfinal) i
      { q with phase := .decided read } (List.getElem?_set_self hlt) ⟨read, .inl rfl⟩ hrecord.symm
      (fun j p hj hp => ?_) (fun key hkey => ?_) fun key key' hkey _ => ?_
    · by_contra hij
      rw [List.getElem?_set_ne (Ne.symm hij)] at hj
      exact unsaved p (List.mem_of_getElem? hj) hp
    · exact absurd ((isSession_congr hsessions key).1 hkey) (sessions key)
    · exact absurd ((isSession_congr hsessions key).1 hkey) (sessions key)

/-- The call that saved its decision saves the session. -/
theorem Exclusive.issue (h : Exclusive requestId qs w) {i : Nat} {q : Decision} {read : Approval} {session : Session}
    {key : String} (hi : qs[i]? = some q) (hphase : q.phase = .decided read) (happroved : q.decision = .approved)
    (happrovals : w'.store.approvals = w.store.approvals)
    (hsessions : w'.store.sessions = w.store.sessions.set key session) :
    Exclusive requestId (qs.set i { q with phase := .issued read }) w' := by
  have hsaved : q.Saved := ⟨read, .inl hphase⟩
  cases h with
  | undecided approval stored pending unsaved sessions =>
    exact absurd hsaved (unsaved q (List.mem_of_getElem? hi))
  | decided approval stored final writer p at_writer saved decision only sessions unique =>
    obtain rfl := only i q hi hsaved
    obtain rfl := Option.some.inj (hi.symm.trans at_writer)
    have hlt := (List.getElem?_eq_some_iff.1 hi).1
    have hnone : ∀ k, ¬ IsSession requestId w k := by
      intro k hk
      obtain ⟨-, read', hread⟩ := sessions k hk
      rw [hphase] at hread
      cases hread
    have hkey : ∀ k, IsSession requestId w' k → k = key := by
      rintro k ⟨s, hs, hrequest⟩
      by_contra hk
      rw [hsessions, JsMap.get_set_ne _ _ (Ne.symm hk)] at hs
      exact hnone k ⟨s, hs, hrequest⟩
    refine .decided approval (happrovals ▸ stored) final i { q with phase := .issued read }
      (List.getElem?_set_self hlt) ⟨read, .inr rfl⟩ decision (fun j p hj hp => ?_)
      (fun k _ => ⟨happroved, read, rfl⟩) fun k k' hk hk' => (hkey k hk).trans (hkey k' hk').symm
    by_contra hij
    rw [List.getElem?_set_ne (Ne.symm hij)] at hj
    exact hij (only j p hj hp)

/-- The invariant of overlapping decisions: they exclude each other, and every approval read has the request's id. -/
structure Deciding (requestId : String) (qs : List Decision) (w : World) : Prop where
  exclusive : Exclusive requestId qs w
  read : ∀ q ∈ qs, ∀ approval, q.phase.read = some approval → approval.id = requestId
  stored : ∀ approval, w.store.approvals.get requestId = some approval → approval.id = requestId

theorem Deciding.congr (h : Deciding requestId qs w) (hlater : Later w w') : Deciding requestId qs w' :=
  ⟨h.exclusive.congr hlater.approvals hlater.sessions, h.read, hlater.approvals ▸ h.stored⟩

theorem Deciding.read_set (h : Deciding requestId qs w) {i : Nat} {q : Decision}
    (hq : ∀ approval, q.phase.read = some approval → approval.id = requestId) :
    ∀ p ∈ qs.set i q, ∀ approval, p.phase.read = some approval → approval.id = requestId := by
  intro p hp
  rcases List.mem_or_eq_of_mem_set hp with hp | rfl
  · exact h.read p hp
  · exact hq

/-- One answered call of one of the decisions. -/
theorem Deciding.step {env : Environment} (h : Deciding requestId qs w) {i : Nat} {q : Decision} {op : Call}
    {answer : Call.Answer op} (hi : qs[i]? = some q) (hallows : (decisionProtocol requestId).allows q op)
    (hpending : ∀ record, op = .saveApproval record →
      ∃ approval, w.store.approvals.get requestId = some approval ∧ approval.state = .pending)
    (hr : env.handler op w = (.ok answer, w')) :
    Deciding requestId (qs.set i ((decisionProtocol requestId).next q op answer)) w' := by
  have hquiet : op.isSave = false → Deciding requestId (qs.set i q) w' := by
    intro hop
    obtain ⟨hlt, rfl⟩ := List.getElem?_eq_some_iff.1 hi
    rw [List.set_getElem_self hlt]
    exact h.congr (Environment.handler_later hr hop)
  have hread := h.read q (List.mem_of_getElem? hi)
  obtain ⟨decision, phase⟩ := q
  cases phase <;> cases op <;> simp only [decisionProtocol] at hallows
  case reading.readApproval id =>
    -- The answer is the stored approval, whose id is the request's.
    subst hallows
    have hlater := Environment.handler_later hr rfl
    obtain ⟨-, happroval⟩ := Environment.found_ok hr
    cases answer with
    | fail _ => exact hquiet rfl
    | ok approval =>
      refine (Deciding.congr ?_ hlater)
      exact ⟨h.exclusive.move hi (by simp) (by simp [decisionProtocol]),
        h.read_set fun a ha => Option.some.inj ha ▸ h.stored approval (happroval approval rfl), h.stored⟩
  case checking.saveApproval read record =>
    -- The stored request is pending, so no call has saved a decision, and this one is the writer from now on.
    obtain ⟨-, hdecision, hid, hrecord⟩ := hallows
    obtain ⟨rfl, rfl⟩ := Environment.saved_ok hr
    obtain ⟨approval, hstored, hstate⟩ := hpending record rfl
    have hread' : read.id = requestId := hread read rfl
    refine ⟨h.exclusive.save hi hstored hstate hrecord ?_ ?_ rfl, h.read_set hread, ?_⟩
    · rintro rfl
      simp [hostDecisions] at hdecision
    · rw [← hread', ← hid]
      rfl
    · intro a ha
      have hkey : record.id = requestId := hid.trans hread'
      change (w.store.approvals.set record.id record).get requestId = some a at ha
      rw [hkey, JsMap.get_set_self] at ha
      exact Option.some.inj ha ▸ hkey
  case decided.saveSession read record =>
    -- Only the writer is in this phase.
    obtain ⟨hdecision, -⟩ := hallows
    obtain ⟨rfl, rfl⟩ := Environment.saved_ok hr
    exact ⟨h.exclusive.issue hi rfl hdecision rfl rfl, h.read_set hread, h.stored⟩
  all_goals exact hquiet rfl

/-! ### Every schedule -/

/-- The calls before any of them has started. -/
def overlapping (env : Environment) (calls : List DecideJoinRequest) (w : World) :
    Pool Call Call.Answer (Reply Response) World :=
  ⟨calls.map (decideJoinRequest env.service), w⟩

/-- A call that is about to save its decision finds the stored request pending. -/
def SavesPending (requestId : String) (c : Pool Call Call.Answer (Reply Response) World) (i : Nat) : Prop :=
  ∀ record, c.Calls i (.saveApproval record) →
    ∃ approval, c.state.store.approvals.get requestId = some approval ∧ approval.state = .pending

theorem savesPending_iff {c : Pool Call Call.Answer (Reply Response) World} {i : Nat} :
    (match c.threads[i]? with
      | some (.call (.saveApproval _) _) => (c.state.store.approvals.get requestId).any (·.state = .pending)
      | _ => true) = true ↔ SavesPending requestId c i := by
  unfold SavesPending Pool.Calls
  split
  · rename_i record k ht
    constructor
    · intro h _ _
      simpa [Option.any_eq_true] using h
    · intro h
      simpa [Option.any_eq_true] using h record ⟨k, ht⟩
  · rename_i ht
    simp only [true_iff]
    rintro record ⟨k, hk⟩
    exact absurd hk (ht record k)

instance (c : Pool Call Call.Answer (Reply Response) World) (i : Nat) : Decidable (SavesPending requestId c i) :=
  decidable_of_iff _ savesPending_iff

theorem Deciding.start {env : Environment} (hwf : Tables.Wf env w.moment w.store.tables) {approval : Approval}
    (hstored : w.store.approvals.get requestId = some approval) (hpending : approval.state = .pending)
    (calls : List DecideJoinRequest) :
    Deciding requestId (calls.map fun args => ⟨args.decision, .reading⟩) w := by
  refine ⟨.undecided approval hstored hpending ?_ ?_, ?_, fun a ha => (hwf.approval requestId a ha).1⟩
  · intro q hq
    obtain ⟨args, -, rfl⟩ := List.mem_map.1 hq
    simp
  · rintro key ⟨session, hsession, rfl⟩
    obtain ⟨-, a, ha, hstate, -⟩ := hwf.session key session hsession
    obtain rfl := Option.some.inj (hstored.symm.trans ha)
    rw [hpending] at hstate
    cases hstate
  · intro q hq a ha
    obtain ⟨args, -, rfl⟩ := List.mem_map.1 hq
    cases ha

theorem overlapping_deciding {env : Environment} (hwf : Tables.Wf env w.moment w.store.tables) {approval : Approval}
    (hstored : w.store.approvals.get requestId = some approval) (hpending : approval.state = .pending)
    {calls : List DecideJoinRequest} (hcalls : ∀ args ∈ calls, args.requestId = requestId) {schedule : List Nat}
    (hsaves : Machine.Along (Pool.step env.handler) (SavesPending requestId) (overlapping env calls w) schedule) :
    ∃ qs, Pool.Tracks (decisionProtocol requestId) Decision.final qs
        (Pool.run env.handler (overlapping env calls w) schedule) ∧
      Deciding requestId qs (Pool.run env.handler (overlapping env calls w) schedule).state := by
  refine Pool.invariant ?_ ?_ ?_ (Deciding.start hwf hstored hpending calls) hsaves
  · intro qs c i q op answer w' h hC hcall hi hallows hr
    exact h.step hi hallows (fun record hop => hC record (hop ▸ hcall)) hr
  · intro qs c i q op m w' h _ _ _ _ hr
    exact h.congr (Environment.handler_error hr)
  · unfold Pool.Tracks overlapping
    rw [List.forall₂_map_left_iff, List.forall₂_map_right_iff, List.forall₂_same]
    intro args hargs
    rw [← hcalls args hargs]
    exact decideJoinRequest_conforms args

/-- Overlapping decisions of one pending request, in every schedule in which each save of a decision still finds the
request pending: at most one call returns `ok`, at most one session is stored for the request, and one is stored
only if the request's stored state is approved. -/
theorem overlapping_exclusive {env : Environment} {w : World} (hw : env.Reachable w) {requestId : String}
    {approval : Approval} (hstored : w.store.approvals.get requestId = some approval)
    (hpending : approval.state = .pending) {calls : List DecideJoinRequest}
    (hcalls : ∀ args ∈ calls, args.requestId = requestId) {schedule : List Nat}
    (hsaves : Machine.Along (Pool.step env.handler) (SavesPending requestId) (overlapping env calls w) schedule) :
    let c := Pool.run env.handler (overlapping env calls w) schedule
    (∀ i j r r', c.returned i = some (.ok r) → c.returned j = some (.ok r') → i = j) ∧
      (∀ key key', IsSession requestId c.state key → IsSession requestId c.state key' → key = key') ∧
      (∀ key, IsSession requestId c.state key → ∃ decided,
        c.state.store.approvals.get requestId = some decided ∧ decided.state = .approved) := by
  obtain ⟨qs, htracks, h⟩ := overlapping_deciding (Tables.Wf.of_reachable hw) hstored hpending hcalls hsaves
  have hreturned : ∀ i r, (Pool.run env.handler (overlapping env calls w) schedule).returned i = some (.ok r) →
      ∃ q, qs[i]? = some q ∧ q.Saved := by
    intro i r hi
    obtain ⟨q, hq, hfinal⟩ := htracks.protocolState (Pool.returned_eq_some.1 hi)
    exact ⟨q, hq, hfinal rfl⟩
  rcases h.exclusive with ⟨a, hstored', hpending', hunsaved, hsessions⟩ |
    ⟨a, hstored', hfinal, writer, q, hwriter, hsaved, hdecision, honly, hsessions, hunique⟩
  · refine ⟨fun i j r r' hi _ => ?_, fun key _ hkey _ => absurd hkey (hsessions key),
      fun key hkey => absurd hkey (hsessions key)⟩
    obtain ⟨q, hq, hsaved⟩ := hreturned i r hi
    exact absurd hsaved (hunsaved q (List.mem_of_getElem? hq))
  · refine ⟨fun i j r r' hi hj => ?_, hunique, fun key hkey => ⟨a, hstored', ?_⟩⟩
    · obtain ⟨p, hp, hpsaved⟩ := hreturned i r hi
      obtain ⟨p', hp', hpsaved'⟩ := hreturned j r' hj
      exact (honly i p hp hpsaved).trans (honly j p' hp' hpsaved').symm
    · rw [← hdecision]
      exact (hsessions key hkey).1

/-- The request of `askedJoin` as it is stored. -/
def askedApproval : Approval :=
  { id := countingName 'a' 15, roomId := countingName 'r' 2, inviteId := countingName 'i' 8, friendId := none,
    minecraftUuid := some "uuid", displayName := none, state := .pending, createdAt := 16, decidedAt := none }

theorem askedApproval_stored :
    ((countingEnvironment 1000).run askedJoin).store.approvals.get askedApproval.id = some askedApproval := by
  decide

/-- An approval and, after it, a denial. -/
theorem overlapping_exclusive_one_after_other :
    let calls := [hostDecision .approved, hostDecision .denied]
    let schedule := List.replicate 11 0 ++ List.replicate 2 1
    let c := Pool.run (countingEnvironment 1000).handler
      (overlapping (countingEnvironment 1000) calls ((countingEnvironment 1000).run askedJoin)) schedule
    (∀ i j r r', c.returned i = some (.ok r) → c.returned j = some (.ok r') → i = j) ∧
      (∀ key key', IsSession askedApproval.id c.state key → IsSession askedApproval.id c.state key' → key = key') ∧
      (∀ key, IsSession askedApproval.id c.state key → ∃ decided,
        c.state.store.approvals.get askedApproval.id = some decided ∧ decided.state = .approved) :=
  overlapping_exclusive ⟨askedJoin, rfl⟩ askedApproval_stored rfl (by decide) (by decide)

/-- Two approvals that both read the request before either has saved its decision. -/
theorem overlapping_approvals :
    ¬ ∀ (env : Environment) (w : World) (approval : Approval) (room : Room) (calls : List DecideJoinRequest)
      (schedule : List Nat), env.Reachable w → w.store.approvals.get approval.id = some approval →
      approval.state = .pending → w.store.rooms.get approval.roomId = some room →
      (∀ args ∈ calls, args.requestId = approval.id ∧ args.actorId = room.hostId ∧ args.decision ∈ hostDecisions) →
      let c := Pool.run env.handler (overlapping env calls w) schedule
      (∀ i j r r', c.returned i = some (.ok r) → c.returned j = some (.ok r') → i = j) ∧
        (∀ key key', IsSession approval.id c.state key → IsSession approval.id c.state key' → key = key') ∧
        (∀ key, IsSession approval.id c.state key → ∃ decided,
          c.state.store.approvals.get approval.id = some decided ∧ decided.state = .approved) := by
  intro h
  have hall := h (countingEnvironment 1000) ((countingEnvironment 1000).run askedJoin) askedApproval
    { id := countingName 'r' 2, hostId := "host", roomAlias := none, minecraftVersion := none, packProfileName := none,
      state := .opened, createdAt := 1, updatedAt := 1 }
    [hostDecision .approved, hostDecision .approved]
    (List.replicate 8 0 ++ List.replicate 11 1 ++ List.replicate 3 0) ⟨askedJoin, rfl⟩ askedApproval_stored rfl
    (by decide) (by decide)
  have hsame := hall.1 0 1 (.decided ⟨countingName 'a' 15, .approved⟩ (some ⟨countingName 's' 25, 900024⟩))
    (.decided ⟨countingName 'a' 15, .approved⟩ (some ⟨countingName 's' 33, 900032⟩)) (by decide) (by decide)
  exact absurd hsame (by decide)

end EasyMc.ControlPlane
