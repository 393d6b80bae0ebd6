import EasyMc.ControlPlane.Simulation
import Mathlib.Logic.ExistsUnique

/-!
# Sessions of the control-plane simulation

Deciding a request and issuing its session are two operations, with expiry, revocation and loss of presence possible
between them.  `Change` lists what one operation does to the approvals and sessions (`step_change`); from it follow
the correspondence of sessions and served requests, what held when a session was issued, and that a decision is
final (`sessions_correspond`).
-/

namespace EasyMc.Domain

open Machine

variable {options : Options} {s : Simulation}

/-! ### What an operation changes -/

/-- A request whose session can be issued now, with its room and its invite. -/
structure Issuable (options : Options) (s : Simulation) (requestId : String)
    (roomId inviteId minecraftUuid : Option String) where
  request : Approval
  room : Room
  invite : Invite
  request_stored : s.approvals.get requestId = some request
  room_stored : s.rooms.get request.roomId = some room
  invite_stored : s.invites.get request.inviteId = some invite
  approved : request.state = .approved
  unused : request.sessionIssued = false
  sameRoom : roomId = some request.roomId
  sameInvite : inviteId = some request.inviteId
  sameUuid : minecraftUuid = request.minecraftUuid
  active : isInviteActive s.now invite = true
  online : isHostOnline options s.now room = true

/-- The session that `issueSession` stores. -/
def issuedSession (options : Options) (s : Simulation) (requestId : String)
    (roomId inviteId minecraftUuid : Option String) : Session :=
  { id := "session_" ++ options.random.randomUUID s.draws, roomId := roomId, inviteId := inviteId,
    requestId := requestId, minecraftUuid := minecraftUuid, state := .issued, issuedAt := s.now,
    expiresAt := s.now + options.sessionTtlMs }

/-- What one operation does to the approvals and the sessions. -/
inductive Change (options : Options) (s : Simulation) (operation : Operation) (outcome : Outcome) (s' : Simulation) :
    Prop
  | idle (approvals : s'.approvals = s.approvals) (sessions : s'.sessions = s.sessions) (draws : s.draws ≤ s'.draws)
  | ask (request : Approval) (id : request.id = "approval_" ++ options.random.randomUUID s.draws)
      (pending : request.state = .pending) (unused : request.sessionIssued = false)
      (approvals : s'.approvals = s.approvals.set request.id request) (sessions : s'.sessions = s.sessions)
      (draws : s'.draws = s.draws + 1)
  | decide (requestId : String) (request : Approval) (decision : ApprovalState)
      (stored : s.approvals.get requestId = some request) (pending : request.state = .pending)
      (decided : decision ≠ .pending)
      (approvals : s'.approvals = s.approvals.set requestId { request with state := decision })
      (sessions : s'.sessions = s.sessions) (draws : s'.draws = s.draws)
  | issue (requestId : String) (roomId inviteId minecraftUuid : Option String)
      (issuable : Issuable options s requestId roomId inviteId minecraftUuid)
      (operation_eq : operation = .issueSession requestId roomId inviteId minecraftUuid)
      (outcome_eq : outcome = .session (.ok
        { sessionId := "session_" ++ options.random.randomUUID s.draws, expiresAt := s.now + options.sessionTtlMs }))
      (approvals : s'.approvals = s.approvals.set requestId { issuable.request with sessionIssued := true })
      (sessions : s'.sessions = s.sessions.set ("session_" ++ options.random.randomUUID s.draws)
        (issuedSession options s requestId roomId inviteId minecraftUuid))
      (draws : s'.draws = s.draws + 1)

theorem createInvite_frame (options : Options) (s : Simulation) (actorId : Option String) (roomId : String) :
    (createInvite options s actorId roomId).2.approvals = s.approvals ∧
      (createInvite options s actorId roomId).2.sessions = s.sessions ∧
      s.draws ≤ (createInvite options s actorId roomId).2.draws := by
  unfold createInvite createInviteRecord
  split
  · exact ⟨rfl, rfl, Nat.le_succ _⟩
  · split
    · exact ⟨rfl, rfl, Nat.le_succ _⟩
    · refine ⟨rfl, rfl, ?_⟩
      change s.draws ≤ s.draws + 1 + 2
      omega

theorem revokeInvite_frame (s : Simulation) (actorId inviteId : Option String) :
    (revokeInvite s actorId inviteId).2.approvals = s.approvals ∧
      (revokeInvite s actorId inviteId).2.sessions = s.sessions ∧
      (revokeInvite s actorId inviteId).2.draws = s.draws := by
  unfold revokeInvite
  split
  · exact ⟨rfl, rfl, rfl⟩
  · split
    · exact ⟨rfl, rfl, rfl⟩
    · split
      · exact ⟨rfl, rfl, rfl⟩
      · split <;> exact ⟨rfl, rfl, rfl⟩

/-- A decision that is an action of the host is not `pending`. -/
theorem decision_ne_pending {decision : ApprovalState} {context : PermissionContext}
    (h : canActorPerform .host (actionForDecision decision) context = true) : decision ≠ .pending := by
  rintro rfl
  exact Bool.false_ne_true h

theorem createJoinRequest_change (s : Simulation) (token friendId minecraftUuid displayName : Option String) :
    Change options s (.createJoinRequest token friendId minecraftUuid displayName)
      (.request (createJoinRequest options s token friendId minecraftUuid displayName).1)
      (createJoinRequest options s token friendId minecraftUuid displayName).2 := by
  unfold createJoinRequest
  split
  · exact .idle rfl rfl (Nat.le_refl _)
  · rename_i invite _
    split
    · exact .idle rfl rfl (Nat.le_refl _)
    · rename_i room _
      split
      · exact .idle rfl rfl (Nat.le_refl _)
      · exact .ask
          { id := "approval_" ++ options.random.randomUUID s.draws, roomId := room.id, inviteId := invite.id,
            friendId := friendId, minecraftUuid := minecraftUuid, displayName := displayName, state := .pending,
            createdAt := s.now, sessionIssued := false }
          rfl rfl rfl rfl rfl rfl

theorem decideJoinRequest_change (s : Simulation) (actorId : Option String) (requestId : String)
    (decision : Option ApprovalState) :
    Change options s (.decideJoinRequest actorId requestId decision)
      (.decided (decideJoinRequest s actorId requestId decision).1)
      (decideJoinRequest s actorId requestId decision).2 := by
  unfold decideJoinRequest
  split
  · rename_i request decision hrequest
    split
    · exact .idle rfl rfl (Nat.le_refl _)
    · rename_i room _
      by_cases hallowed : canActorPerform .host (actionForDecision decision) (roomContext actorId room) = true
      · by_cases hpending : request.state = .pending
        · simp only [hallowed, hpending, Bool.not_true, Bool.false_eq_true, if_false, ne_eq, not_true]
          exact .decide requestId request decision hrequest hpending (decision_ne_pending hallowed) rfl rfl rfl
        · simp only [hallowed, hpending, Bool.not_true, Bool.false_eq_true, if_false, ne_eq, not_false_eq_true,
            if_true]
          exact .idle rfl rfl (Nat.le_refl _)
      · simp only [hallowed, Bool.not_false, if_true]
        exact .idle rfl rfl (Nat.le_refl _)
  · exact .idle rfl rfl (Nat.le_refl _)

theorem issueSession_change (s : Simulation) (requestId : String) (roomId inviteId minecraftUuid : Option String) :
    Change options s (.issueSession requestId roomId inviteId minecraftUuid)
      (.session (issueSession options s requestId roomId inviteId minecraftUuid).1)
      (issueSession options s requestId roomId inviteId minecraftUuid).2 := by
  unfold issueSession
  split
  · exact .idle rfl rfl (Nat.le_refl _)
  · rename_i request hrequest
    split
    · rename_i room invite hroom hinvite
      by_cases hbound : identityBound s.now request invite roomId inviteId minecraftUuid = true
      · by_cases honline : isHostOnline options s.now room = true
        · have hservice : canActorPerform .service (some .issueSession)
              { actorId := none, roomHostId := none, validInvite := false, authorizedApproval := true,
                breakGlass := false } = true := by
            decide
          simp only [hbound, honline, Bool.not_true, Bool.and_false, Bool.and_true, Bool.false_eq_true, if_false,
            hservice]
          simp only [identityBound, Bool.and_eq_true, beq_iff_eq, Bool.not_eq_true'] at hbound
          obtain ⟨⟨⟨⟨⟨happroved, hroomId⟩, hinviteId⟩, huuid⟩, hunused⟩, hactive⟩ := hbound
          exact .issue requestId roomId inviteId minecraftUuid
            { request := request, room := room, invite := invite, request_stored := hrequest, room_stored := hroom,
              invite_stored := hinvite, approved := happroved, unused := hunused, sameRoom := hroomId.symm,
              sameInvite := hinviteId.symm, sameUuid := huuid.symm, active := hactive, online := honline }
            rfl rfl rfl rfl rfl
        · simp only [hbound, honline, Bool.not_false, Bool.and_self, if_true]
          exact .idle rfl rfl (Nat.le_refl _)
      · have hservice : canActorPerform .service (some .issueSession)
            { actorId := none, roomHostId := none, validInvite := false, authorizedApproval := false,
              breakGlass := false } = false := by
          decide
        simp only [hbound, Bool.false_and, Bool.false_eq_true, if_false, hservice, Bool.not_false, if_true]
        exact .idle rfl rfl (Nat.le_refl _)
    · exact .idle rfl rfl (Nat.le_refl _)

/-- Every operation makes one of the listed changes. -/
theorem step_change (options : Options) (s : Simulation) (operation : Operation) :
    Change options s operation (s.step options operation).1 (s.step options operation).2 := by
  cases operation with
  | createRoom hostId roomAlias minecraftVersion packProfileName => exact .idle rfl rfl (Nat.le_succ _)
  | heartbeatHost actorId roomId =>
    simp only [Simulation.step, heartbeatHost]
    split
    · exact .idle rfl rfl (Nat.le_refl _)
    · split <;> exact .idle rfl rfl (Nat.le_refl _)
  | createInvite actorId roomId =>
    obtain ⟨happrovals, hsessions, hdraws⟩ := createInvite_frame options s actorId roomId
    exact .idle happrovals hsessions hdraws
  | revokeInvite actorId inviteId =>
    obtain ⟨happrovals, hsessions, hdraws⟩ := revokeInvite_frame s actorId inviteId
    exact .idle happrovals hsessions hdraws.ge
  | createJoinRequest token friendId minecraftUuid displayName =>
    exact createJoinRequest_change s token friendId minecraftUuid displayName
  | decideJoinRequest actorId requestId decision => exact decideJoinRequest_change s actorId requestId decision
  | issueSession requestId roomId inviteId minecraftUuid =>
    exact issueSession_change s requestId roomId inviteId minecraftUuid
  | advance ms => exact .idle rfl rfl (Nat.le_refl _)

/-! ### Sessions and served requests -/

/-- The session was made for this request. -/
structure Serves (session : Session) (request : Approval) : Prop where
  approved : request.state = .approved
  issued : request.sessionIssued = true
  room : session.roomId = some request.roomId
  invite : session.inviteId = some request.inviteId
  uuid : session.minecraftUuid = request.minecraftUuid

/-- Sessions and served requests (approved and marked `sessionIssued`) are in one-to-one correspondence. -/
structure Corresponding (s : Simulation) : Prop where
  request_of_session : ∀ sessionId session, s.sessions.get sessionId = some session →
    ∃ request, s.approvals.get session.requestId = some request ∧ Serves session request
  session_of_request : ∀ requestId request, s.approvals.get requestId = some request → request.state = .approved →
    request.sessionIssued = true → ∃! sessionId, ∃ session, s.sessions.get sessionId = some session ∧
      session.requestId = requestId

/-- What holds of the approvals and sessions of every reachable state. -/
structure Accounted (random : Random) (s : Simulation) : Prop where
  approvals_drawn : ∀ id request, s.approvals.get id = some request →
    ∃ n < s.draws, id = "approval_" ++ random.randomUUID n
  sessions_drawn : ∀ id session, s.sessions.get id = some session →
    ∃ n < s.draws, id = "session_" ++ random.randomUUID n
  served : ∀ sessionId session, s.sessions.get sessionId = some session →
    ∃ request, s.approvals.get session.requestId = some request ∧ Serves session request
  issued : ∀ requestId request, s.approvals.get requestId = some request → request.sessionIssued = true →
    request.state = .approved ∧
      ∃ sessionId session, s.sessions.get sessionId = some session ∧ session.requestId = requestId
  once : ∀ id₁ id₂ session₁ session₂, s.sessions.get id₁ = some session₁ → s.sessions.get id₂ = some session₂ →
    session₁.requestId = session₂.requestId → id₁ = id₂

theorem Accounted.start (random : Random) (now : Int) : Accounted random (createControlPlaneSimulation now) where
  approvals_drawn := fun _ _ h => nomatch h
  sessions_drawn := fun _ _ h => nomatch h
  served := fun _ _ h => nomatch h
  issued := fun _ _ h => nomatch h
  once := fun _ _ _ _ h => nomatch h

theorem Accounted.corresponding {random : Random} (h : Accounted random s) : Corresponding s where
  request_of_session := h.served
  session_of_request := by
    intro requestId request hrequest _ hissued
    obtain ⟨-, sessionId, session, hsession, hid⟩ := h.issued requestId request hrequest hissued
    refine ⟨sessionId, ⟨session, hsession, hid⟩, ?_⟩
    rintro other ⟨session', hsession', hid'⟩
    exact h.once other sessionId session' session hsession' hsession (hid'.trans hid.symm)

/-- An id that is drawn now is not the key of a record. -/
theorem drawn_fresh {random : Random} (hrandom : Function.Injective random.randomUUID) {ν : Type} {m : JsMap String ν}
    {kind : String} {draws : Nat}
    (hdrawn : ∀ id v, m.get id = some v → ∃ n < draws, id = kind ++ random.randomUUID n) :
    m.get (kind ++ random.randomUUID draws) = none := by
  cases hget : m.get (kind ++ random.randomUUID draws) with
  | none => rfl
  | some v =>
    obtain ⟨n, hn, hid⟩ := hdrawn _ v hget
    have : draws = n := hrandom ((String.append_right_inj kind).1 hid)
    omega

/-- Ids that have been drawn stay drawn. -/
theorem drawn_mono {random : Random} {ν : Type} {m : JsMap String ν} {kind : String} {draws draws' : Nat}
    (hdrawn : ∀ id v, m.get id = some v → ∃ n < draws, id = kind ++ random.randomUUID n) (hle : draws ≤ draws') :
    ∀ id v, m.get id = some v → ∃ n < draws', id = kind ++ random.randomUUID n := by
  intro id v hget
  obtain ⟨n, hn, hid⟩ := hdrawn id v hget
  exact ⟨n, by omega, hid⟩

/-- A record is stored under an id that has been drawn. -/
theorem drawn_set {random : Random} {ν : Type} {m : JsMap String ν} {kind id : String} {v : ν} {draws draws' : Nat}
    (hdrawn : ∀ id v, m.get id = some v → ∃ n < draws, id = kind ++ random.randomUUID n) (hle : draws ≤ draws')
    (hid : ∃ n < draws', id = kind ++ random.randomUUID n) :
    ∀ id' v', (m.set id v).get id' = some v' → ∃ n < draws', id' = kind ++ random.randomUUID n := by
  intro id' v' hget
  rcases JsMap.get_set_cases hget with ⟨rfl, -⟩ | ⟨-, hget⟩
  · exact hid
  · exact drawn_mono hdrawn hle id' v' hget

/-- A request that is not marked has no session. -/
theorem Accounted.requestId_ne {random : Random} (h : Accounted random s) {requestId : String}
    (hunused : ∀ request, s.approvals.get requestId = some request → request.sessionIssued = false) :
    ∀ id session, s.sessions.get id = some session → requestId ≠ session.requestId := by
  rintro id session hget rfl
  obtain ⟨request, hrequest, hserves⟩ := h.served id session hget
  have hnot := hunused request hrequest
  rw [hserves.issued] at hnot
  cases hnot

/-- The sessions still have their requests after a change of another one. -/
theorem Accounted.served_set {random : Random} (h : Accounted random s) {requestId : String} {request : Approval}
    (hne : ∀ id session, s.sessions.get id = some session → requestId ≠ session.requestId) :
    ∀ id session, s.sessions.get id = some session →
      ∃ request', (s.approvals.set requestId request).get session.requestId = some request' ∧
        Serves session request' := by
  intro id session hget
  obtain ⟨request', hrequest, hserves⟩ := h.served id session hget
  refine ⟨request', ?_, hserves⟩
  rw [JsMap.get_set_ne _ _ (hne id session hget)]
  exact hrequest

/-- The marked requests still have their sessions after a change of one that is not marked. -/
theorem Accounted.issued_set {random : Random} (h : Accounted random s) {requestId : String} {request : Approval}
    (hunused : request.sessionIssued = false) :
    ∀ id request', (s.approvals.set requestId request).get id = some request' → request'.sessionIssued = true →
      request'.state = .approved ∧
        ∃ sessionId session, s.sessions.get sessionId = some session ∧ session.requestId = id := by
  intro id request' hget hissued
  rcases JsMap.get_set_cases hget with ⟨-, rfl⟩ | ⟨-, hget⟩
  · rw [hunused] at hissued
    cases hissued
  · exact h.issued id request' hget hissued

/-- One session per request, also after a session of a request that has none. -/
theorem Accounted.once_set {random : Random} (h : Accounted random s) {sessionId : String} {session : Session}
    (hnone : ∀ id old, s.sessions.get id = some old → session.requestId ≠ old.requestId) :
    ∀ id₁ id₂ session₁ session₂, (s.sessions.set sessionId session).get id₁ = some session₁ →
      (s.sessions.set sessionId session).get id₂ = some session₂ → session₁.requestId = session₂.requestId →
        id₁ = id₂ := by
  intro id₁ id₂ session₁ session₂ hget₁ hget₂ hsame
  rcases JsMap.get_set_cases hget₁ with ⟨rfl, rfl⟩ | ⟨-, hold₁⟩
  · rcases JsMap.get_set_cases hget₂ with ⟨rfl, -⟩ | ⟨-, hold₂⟩
    · rfl
    · exact absurd hsame (hnone id₂ session₂ hold₂)
  · rcases JsMap.get_set_cases hget₂ with ⟨-, rfl⟩ | ⟨-, hold₂⟩
    · exact absurd hsame.symm (hnone id₁ session₁ hold₁)
    · exact h.once id₁ id₂ session₁ session₂ hold₁ hold₂ hsame

section Issue

variable {requestId : String} {roomId inviteId minecraftUuid : Option String}

/-- A request whose session can be issued has none yet. -/
theorem Accounted.unserved {random : Random} (h : Accounted random s)
    (issuable : Issuable options s requestId roomId inviteId minecraftUuid) :
    ∀ id session, s.sessions.get id = some session → requestId ≠ session.requestId :=
  h.requestId_ne fun old hold => by
    rw [issuable.request_stored] at hold
    cases hold
    exact issuable.unused

/-- The issued session has its request, and the others keep theirs. -/
theorem Accounted.served_issue {random : Random} (h : Accounted random s)
    (issuable : Issuable options s requestId roomId inviteId minecraftUuid) (sessionId : String) :
    ∀ id session, (s.sessions.set sessionId
        (issuedSession options s requestId roomId inviteId minecraftUuid)).get id = some session →
      ∃ request, (s.approvals.set requestId { issuable.request with sessionIssued := true }).get session.requestId =
        some request ∧ Serves session request := by
  intro id session hget
  rcases JsMap.get_set_cases hget with ⟨-, rfl⟩ | ⟨-, hget⟩
  · refine ⟨{ issuable.request with sessionIssued := true }, JsMap.get_set_self _ _ _, ?_⟩
    exact { approved := issuable.approved, issued := rfl, room := issuable.sameRoom, invite := issuable.sameInvite,
            uuid := issuable.sameUuid }
  · exact h.served_set (h.unserved issuable) id session hget

/-- The request that is marked has the issued session, and the others keep theirs. -/
theorem Accounted.issued_issue {random : Random} (h : Accounted random s)
    (issuable : Issuable options s requestId roomId inviteId minecraftUuid) {sessionId : String}
    (hfresh : s.sessions.get sessionId = none) :
    ∀ id request, (s.approvals.set requestId { issuable.request with sessionIssued := true }).get id = some request →
      request.sessionIssued = true → request.state = .approved ∧
        ∃ sessionId' session, (s.sessions.set sessionId
          (issuedSession options s requestId roomId inviteId minecraftUuid)).get sessionId' = some session ∧
            session.requestId = id := by
  intro id request hget hissued
  rcases JsMap.get_set_cases hget with ⟨rfl, rfl⟩ | ⟨-, hget⟩
  · exact ⟨issuable.approved, sessionId, issuedSession options s requestId roomId inviteId minecraftUuid,
      JsMap.get_set_self _ _ _, rfl⟩
  · obtain ⟨happroved, old, session, hsession, hid⟩ := h.issued id request hget hissued
    refine ⟨happroved, old, session, ?_, hid⟩
    rw [JsMap.get_set_ne _ _ ?_]
    · exact hsession
    · rintro rfl
      rw [hfresh] at hsession
      cases hsession

end Issue

section Step

variable {operation : Operation} {outcome : Outcome} {s' : Simulation}

/-- Every change keeps the invariant. -/
theorem Accounted.change (hrandom : Function.Injective options.random.randomUUID) (h : Accounted options.random s)
    (hchange : Change options s operation outcome s') : Accounted options.random s' := by
  cases hchange with
  | idle happrovals hsessions hdraws =>
    constructor
    · rw [happrovals]
      exact drawn_mono h.approvals_drawn hdraws
    · rw [hsessions]
      exact drawn_mono h.sessions_drawn hdraws
    · rw [happrovals, hsessions]
      exact h.served
    · rw [happrovals, hsessions]
      exact h.issued
    · rw [hsessions]
      exact h.once
  | ask request hid hpending hunused happrovals hsessions hdraws =>
    have hfresh : s.approvals.get request.id = none := hid ▸ drawn_fresh hrandom h.approvals_drawn
    have hne := h.requestId_ne fun old hold => by
      rw [hfresh] at hold
      cases hold
    constructor
    · rw [happrovals]
      exact drawn_set h.approvals_drawn (by omega) ⟨s.draws, by omega, hid⟩
    · rw [hsessions]
      exact drawn_mono h.sessions_drawn (by omega)
    · rw [happrovals, hsessions]
      exact h.served_set hne
    · rw [happrovals, hsessions]
      exact h.issued_set hunused
    · rw [hsessions]
      exact h.once
  | decide requestId request decision hstored hpending hdecided happrovals hsessions hdraws =>
    -- a pending request has no session, so the record that changes is no served one
    have hunused : request.sessionIssued = false := by
      by_contra hissued
      have hstate := (h.issued requestId request hstored (by simpa using hissued)).1
      rw [hpending] at hstate
      cases hstate
    have hne := h.requestId_ne fun old hold => by
      rw [hstored] at hold
      cases hold
      exact hunused
    constructor
    · rw [happrovals, hdraws]
      exact drawn_set h.approvals_drawn (Nat.le_refl _) (h.approvals_drawn requestId request hstored)
    · rw [hsessions, hdraws]
      exact h.sessions_drawn
    · rw [happrovals, hsessions]
      exact h.served_set hne
    · rw [happrovals, hsessions]
      exact h.issued_set hunused
    · rw [hsessions]
      exact h.once
  | issue requestId roomId inviteId minecraftUuid issuable _ _ happrovals hsessions hdraws =>
    have hfresh := drawn_fresh hrandom h.sessions_drawn
    have hdrawn := drawn_mono h.approvals_drawn (Nat.le_succ _)
    constructor
    · rw [happrovals, hdraws]
      exact drawn_set hdrawn (Nat.le_refl _) (hdrawn requestId issuable.request issuable.request_stored)
    · rw [hsessions]
      exact drawn_set h.sessions_drawn (by omega) ⟨s.draws, by omega, rfl⟩
    · rw [happrovals, hsessions]
      exact h.served_issue issuable _
    · rw [happrovals, hsessions]
      exact h.issued_issue issuable hfresh
    · rw [hsessions]
      exact h.once_set (h.unserved issuable)

/-- A decided request keeps its state. -/
theorem Accounted.decided_change (hrandom : Function.Injective options.random.randomUUID)
    (h : Accounted options.random s) (hchange : Change options s operation outcome s') {requestId : String}
    {request : Approval} (hget : s.approvals.get requestId = some request) (hdecided : request.state ≠ .pending) :
    ∃ request', s'.approvals.get requestId = some request' ∧ request'.state = request.state := by
  cases hchange with
  | idle happrovals _ _ => exact ⟨request, happrovals ▸ hget, rfl⟩
  | ask new hid _ _ happrovals _ _ =>
    have hfresh : s.approvals.get new.id = none := hid ▸ drawn_fresh hrandom h.approvals_drawn
    have hne : new.id ≠ requestId := by
      rintro rfl
      rw [hget] at hfresh
      cases hfresh
    exact ⟨request, by rw [happrovals, JsMap.get_set_ne _ _ hne, hget], rfl⟩
  | decide id old decision hstored hpending _ happrovals _ _ =>
    have hne : id ≠ requestId := by
      rintro rfl
      rw [hget] at hstored
      cases hstored
      exact hdecided hpending
    exact ⟨request, by rw [happrovals, JsMap.get_set_ne _ _ hne, hget], rfl⟩
  | issue id _ _ _ issuable _ _ happrovals _ _ =>
    by_cases hid : id = requestId
    · subst hid
      have hsame : issuable.request = request := Option.some.inj (issuable.request_stored.symm.trans hget)
      refine ⟨{ issuable.request with sessionIssued := true }, ?_, by rw [← hsame]⟩
      rw [happrovals]
      exact JsMap.get_set_self _ _ _
    · exact ⟨request, by rw [happrovals, JsMap.get_set_ne _ _ hid, hget], rfl⟩

end Step

/-! ### Runs -/

/-- At this step the session was issued: its request's invite was active and unexpired, and the host of its room was
seen no longer than the presence TTL ago. -/
structure IssuedBy (options : Options) (sessionId : String) (session : Session)
    (fired : Fired Simulation Operation Outcome) : Prop where
  asked : fired.input = .issueSession session.requestId session.roomId session.inviteId session.minecraftUuid
  answered : fired.output = .session (.ok { sessionId := sessionId, expiresAt := session.expiresAt })
  moment : session.issuedAt = fired.before.now
  invite : ∃ inviteId invite, session.inviteId = some inviteId ∧ fired.before.invites.get inviteId = some invite ∧
    invite.state = .active ∧ fired.before.now < invite.expiresAt
  host : ∃ roomId room, session.roomId = some roomId ∧ fired.before.rooms.get roomId = some room ∧
    fired.before.now - room.hostLastSeenAt ≤ options.presenceTtlMs

theorem issuedBy_of_change {sessionId : String} {session : Session} {operation : Operation}
    (hbefore : s.sessions.get sessionId ≠ some session)
    (hafter : (s.step options operation).2.sessions.get sessionId = some session) :
    IssuedBy options sessionId session (fire (Simulation.step options) s operation) := by
  cases step_change options s operation with
  | idle _ hsessions _ => exact absurd (hsessions ▸ hafter) hbefore
  | ask _ _ _ _ _ hsessions _ => exact absurd (hsessions ▸ hafter) hbefore
  | decide _ _ _ _ _ _ _ hsessions _ => exact absurd (hsessions ▸ hafter) hbefore
  | issue requestId roomId inviteId minecraftUuid issuable hoperation houtcome _ hsessions _ =>
    rw [hsessions] at hafter
    rcases JsMap.get_set_cases hafter with ⟨rfl, rfl⟩ | ⟨-, hold⟩
    · have hactive := issuable.active
      have honline := issuable.online
      simp only [isInviteActive, isHostOnline, Bool.and_eq_true, beq_iff_eq, decide_eq_true_eq] at hactive honline
      exact
        { asked := hoperation
          answered := houtcome
          moment := rfl
          invite := ⟨_, issuable.invite, issuable.sameInvite, issuable.invite_stored, hactive⟩
          host := ⟨_, issuable.room, issuable.sameRoom, issuable.room_stored, honline.2⟩ }
    · exact absurd hold hbefore

theorem accounted_run (hrandom : Function.Injective options.random.randomUUID) (h : Accounted options.random s)
    (operations : List Operation) : Accounted options.random (run (Simulation.step options) s operations) := by
  induction operations generalizing s with
  | nil => exact h
  | cons operation operations ih => exact ih (h.change hrandom (step_change options s operation))

/-- A decision is final over a run. -/
theorem decided_run (hrandom : Function.Injective options.random.randomUUID) (h : Accounted options.random s)
    (operations : List Operation) {requestId : String} {request : Approval}
    (hget : s.approvals.get requestId = some request) (hdecided : request.state ≠ .pending) :
    ∃ request', (run (Simulation.step options) s operations).approvals.get requestId = some request' ∧
      request'.state = request.state := by
  induction operations generalizing s request with
  | nil => exact ⟨request, hget, rfl⟩
  | cons operation operations ih =>
    have hchange := step_change options s operation
    obtain ⟨mid, hmid, hstate⟩ := h.decided_change hrandom hchange hget hdecided
    obtain ⟨last, hlast, hstate'⟩ := ih (h.change hrandom hchange) hmid (by rwa [hstate])
    exact ⟨last, hlast, hstate'.trans hstate⟩

/-- Every session was stored by a step of the run. -/
theorem issued_run (now : Int) (operations : List Operation) :
    let start := createControlPlaneSimulation now
    ∀ sessionId session, (run (Simulation.step options) start operations).sessions.get sessionId = some session →
      ∃ fired ∈ trace (Simulation.step options) start operations, IssuedBy options sessionId session fired := by
  apply trace_invariant (P := fun _ _ => True) (H := fun tr s => ∀ sessionId session,
    s.sessions.get sessionId = some session → ∃ fired ∈ tr, IssuedBy options sessionId session fired)
  · intro tr s operation h _ sessionId session hget
    by_cases hbefore : s.sessions.get sessionId = some session
    · obtain ⟨fired, hfired, hissued⟩ := h sessionId session hbefore
      exact ⟨fired, List.mem_append_left _ hfired, hissued⟩
    · exact ⟨_, List.mem_append_right _ (by simp), issuedBy_of_change hbefore hget⟩
  · exact fun _ _ h => nomatch h
  · exact Along.of_forall (P := fun _ => True) (fun _ _ => trivial) _

/-- In every reachable state sessions and served requests correspond one to one, each session was issued while its
invite was active and its host online, and a decided request never changes its state. -/
theorem sessions_correspond (options : Options) (hrandom : Function.Injective options.random.randomUUID) (now : Int)
    (operations : List Operation) :
    let start := createControlPlaneSimulation now
    let s := run (Simulation.step options) start operations
    Corresponding s ∧
      (∀ sessionId session, s.sessions.get sessionId = some session →
        ∃ fired ∈ trace (Simulation.step options) start operations, IssuedBy options sessionId session fired) ∧
      ∀ later requestId request, s.approvals.get requestId = some request → request.state ≠ .pending →
        ∃ request', (run (Simulation.step options) s later).approvals.get requestId = some request' ∧
          request'.state = request.state := by
  intro start s
  have h : Accounted options.random s := accounted_run hrandom (.start options.random now) operations
  refine ⟨h.corresponding, issued_run now operations, ?_⟩
  intro later requestId request hget hdecided
  exact decided_run hrandom h later hget hdecided

/-- A run in which a friend asks, the host approves, and the session is asked for twice. -/
def approvedRun : List Operation :=
  [.createRoom (some "host") (some "room") (some "1.21") (some "pack"), .createInvite (some "host") "room_",
    .createJoinRequest (some "t0") (some "friend") (some "uuid") (some "name"), .advance 1000,
    .decideJoinRequest (some "host") "approval_0000" (some .approved),
    .issueSession "approval_0000" (some "room_") (some "invite_00") (some "uuid"),
    .issueSession "approval_0000" (some "room_") (some "invite_00") (some "uuid")]

theorem sessions_correspond_approved :
    let s := run (Simulation.step countedOptions) (createControlPlaneSimulation 0) approvedRun
    s.sessions.keys = ["session_00000"] ∧ Corresponding s :=
  ⟨by decide, (sessions_correspond countedOptions countedRandom_injective 0 approvedRun).1⟩

end EasyMc.Domain
