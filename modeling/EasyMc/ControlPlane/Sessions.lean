import EasyMc.ControlPlane.Acts

/-!
# Sessions, approvals and invites

`Tables.Wf` ties the four kinds of records together: ids are keys and come from the generators, a token hash leads
to the invite that carries it, and a session names an approved request, one session a request.  `Tables.Extends`
says what later requests may change: a decided request, a session and a room stay as they are, and an invite can
only be revoked.  Both hold along every run of requests that are executed one at a time.
-/

namespace EasyMc.ControlPlane

namespace Tables

/-- The records of a store that has answered `moment` calls. -/
structure Wf (env : Environment) (moment : Nat) (t : Tables) : Prop where
  room : ∀ k room, t.rooms.get k = some room → room.state = .opened ∧ ∃ m < moment, k = env.roomId m
  invite : ∀ k invite, t.invites.get k = some invite → invite.id = k ∧ ∃ m, m + 1 < moment ∧
    k = env.inviteId (m + 1) ∧ invite.token = .hash (hashSensitiveValue env.sha256 (some (env.createInviteToken m)))
  index : ∀ d k, t.inviteTokenIndex.get d = some k → ∃ invite, t.invites.get k = some invite ∧ invite.token = .hash d
  approval : ∀ k approval, t.approvals.get k = some approval → approval.id = k ∧ ∃ m < moment, k = env.approvalId m
  session : ∀ k session, t.sessions.get k = some session → (∃ m < moment, k = env.sessionId m) ∧
    ∃ approval, t.approvals.get session.requestId = some approval ∧ approval.state = .approved ∧
      approval.roomId = session.roomId ∧ approval.inviteId = session.inviteId ∧
      approval.minecraftUuid = session.minecraftUuid
  oneSession : ∀ k k' session session', t.sessions.get k = some session → t.sessions.get k' = some session' →
    session.requestId = session'.requestId → k = k'

/-- What later requests may change. -/
structure Extends (t t' : Tables) : Prop where
  room : ∀ k room, t.rooms.get k = some room → t'.rooms.get k = some room
  invite : ∀ k invite, t.invites.get k = some invite →
    t'.invites.get k = some invite ∨ ∃ revokedAt, t'.invites.get k = some (invite.revoke revokedAt)
  approval : ∀ k approval, t.approvals.get k = some approval → approval.state ≠ .pending →
    t'.approvals.get k = some approval
  session : ∀ k session, t.sessions.get k = some session → t'.sessions.get k = some session

theorem Extends.refl (t : Tables) : Extends t t :=
  ⟨fun _ _ h => h, fun _ _ h => .inl h, fun _ _ h _ => h, fun _ _ h => h⟩

theorem Extends.trans {t₁ t₂ t₃ : Tables} (h : Extends t₁ t₂) (h' : Extends t₂ t₃) : Extends t₁ t₃ := by
  refine ⟨fun k r hr => h'.room k r (h.room k r hr), ?_, fun k a ha hs => h'.approval k a (h.approval k a ha hs) hs,
    fun k s hs => h'.session k s (h.session k s hs)⟩
  intro k i hi
  rcases h.invite k i hi with h₂ | ⟨at₂, h₂⟩
  · exact h'.invite k i h₂
  · rcases h'.invite k _ h₂ with h₃ | ⟨at₃, h₃⟩
    · exact .inr ⟨at₂, h₃⟩
    · exact .inr ⟨at₃, h₃⟩

variable {env : Environment}

theorem Wf.start : Wf env World.start.moment World.start.store.tables := by
  constructor <;> simp [World.start, createMemoryControlPlaneStore, MemoryStore.tables]

theorem Wf.mono {m m' : Nat} {t : Tables} (h : Wf env m t) (hm : m ≤ m') : Wf env m' t where
  room k room hk := by
    obtain ⟨hopened, n, hn, hid⟩ := h.room k room hk
    exact ⟨hopened, n, hn.trans_le hm, hid⟩
  invite k invite hk := by
    obtain ⟨hid, n, hn, hrest⟩ := h.invite k invite hk
    exact ⟨hid, n, hn.trans_le hm, hrest⟩
  index := h.index
  approval k approval hk := by
    obtain ⟨hid, n, hn, hrest⟩ := h.approval k approval hk
    exact ⟨hid, n, hn.trans_le hm, hrest⟩
  session k session hk := by
    obtain ⟨⟨n, hn, hid⟩, hrest⟩ := h.session k session hk
    exact ⟨⟨n, hn.trans_le hm, hid⟩, hrest⟩
  oneSession := h.oneSession

/-! ### One change at a time -/

/-- A record stored under a key the generator has not made yet. -/
private theorem fresh_ne {id : Nat → String} (hfresh : Function.Injective id) {n m : Nat} (h : n < m) :
    id m ≠ id n :=
  fun he => absurd (hfresh he) (by omega)

theorem Wf.saveRoom {m n : Nat} {w : World} (h : Wf env m w.store.tables) (room : Room) (hm : m ≤ n)
    (hopened : room.state = .opened) (hid : room.id = env.roomId n) :
    Wf env (n + 1) (w.store.saveRoom room).tables ∧ Extends w.store.tables (w.store.saveRoom room).tables := by
  have hnew : ∀ k old, w.store.tables.rooms.get k = some old → room.id ≠ k := by
    intro k old hk
    obtain ⟨-, n', hn', rfl⟩ := h.room k old hk
    rw [hid]
    exact fresh_ne env.roomId_fresh (by omega)
  refine ⟨{ h.mono (hm.trans (Nat.le_succ n)) with room := ?_ }, { Extends.refl _ with room := ?_ }⟩
  · intro k r hk
    rcases JsMap.get_set_cases hk with ⟨hk', rfl⟩ | ⟨-, hk⟩
    · exact ⟨hopened, n, Nat.lt_succ_self n, by rw [← hk', hid]⟩
    · obtain ⟨hr, n', hn', hk'⟩ := h.room k r hk
      exact ⟨hr, n', by omega, hk'⟩
  · intro k r hk
    simpa [MemoryStore.tables, MemoryStore.saveRoom, JsMap.get_set, hnew k r hk] using hk

/-- An invite may be stored under a new id, or in place of the invite that it revokes. -/
theorem Wf.saveInvite {m n : Nat} {w : World} (h : Wf env m w.store.tables) (invite : Invite) (hm : m ≤ n)
    (hid : ∃ n', n' + 1 < n ∧ invite.id = env.inviteId (n' + 1) ∧ invite.token.sanitize env.sha256 =
      .hash (hashSensitiveValue env.sha256 (some (env.createInviteToken n'))))
    (hrevokes : ∀ old, w.store.invites.get invite.id = some old →
      ∃ revokedAt, invite.sanitize env.sha256 = old.revoke revokedAt) :
    Wf env n (w.store.saveInvite env.sha256 invite).tables ∧
      Extends w.store.tables (w.store.saveInvite env.sha256 invite).tables := by
  obtain ⟨n', hn', hid', htoken⟩ := hid
  have hsame : ∀ old, w.store.invites.get invite.id = some old → old.token = invite.token.sanitize env.sha256 := by
    intro old hold
    obtain ⟨revokedAt, he⟩ := hrevokes old hold
    exact (congrArg Invite.token he).symm
  refine ⟨{ h.mono hm with invite := ?_, index := ?_ }, { Extends.refl _ with invite := ?_ }⟩
  · intro k i hk
    simp only [MemoryStore.tables, MemoryStore.saveInvite, JsMap.get_set, Invite.sanitize] at hk
    split at hk
    · rename_i hk'
      obtain rfl := Option.some.inj hk
      exact ⟨hk', n', hn', by rw [← hk', hid'], htoken⟩
    · obtain ⟨hi, n'', hn'', hrest⟩ := h.invite k i hk
      exact ⟨hi, n'', by omega, hrest⟩
  · -- The index names the invite of a token, be it the one saved now or another.
    intro d k hd
    simp only [MemoryStore.tables, MemoryStore.saveInvite, Invite.sanitize, htoken] at hd ⊢
    by_cases hk : invite.id = k
    · subst hk
      refine ⟨_, JsMap.get_set_self _ _ _, ?_⟩
      have hold : w.store.inviteTokenIndex.get d = some invite.id →
          Secret.hash (hashSensitiveValue env.sha256 (some (env.createInviteToken n'))) = .hash d := by
        intro hd'
        obtain ⟨old, hold, htok⟩ := h.index d _ hd'
        rw [← htok, hsame old hold, htoken]
      split at hd
      · exact hold hd
      · rcases JsMap.get_set_cases hd with ⟨hd', -⟩ | ⟨-, hd⟩
        · exact congrArg _ hd'
        · exact hold hd
    · have hold : w.store.inviteTokenIndex.get d = some k := by
        split at hd
        · exact hd
        · rcases JsMap.get_set_cases hd with ⟨-, hid⟩ | ⟨-, hd⟩
          · exact absurd hid hk
          · exact hd
      rw [JsMap.get_set_ne _ _ hk]
      exact h.index d k hold
  · intro k i hi
    by_cases hk : invite.id = k
    · subst hk
      obtain ⟨revokedAt, he⟩ := hrevokes i hi
      exact .inr ⟨revokedAt, (JsMap.get_set_self _ _ _).trans (congrArg some he)⟩
    · exact .inl ((JsMap.get_set_ne _ _ hk).trans hi)

/-- An approval may be stored under a new id, or in place of a pending one: no session names it yet. -/
theorem Wf.saveApproval {m n : Nat} {w : World} (h : Wf env m w.store.tables) (approval : Approval) (hm : m ≤ n)
    (hid : ∃ n' < n, approval.id = env.approvalId n')
    (hpending : ∀ old, w.store.approvals.get approval.id = some old → old.state = .pending) :
    Wf env n (w.store.saveApproval approval).tables ∧
      Extends w.store.tables (w.store.saveApproval approval).tables := by
  refine ⟨{ h.mono hm with approval := ?_, session := ?_ }, { Extends.refl _ with approval := ?_ }⟩
  · intro k a hk
    rcases JsMap.get_set_cases hk with ⟨hk', rfl⟩ | ⟨-, hk⟩
    · obtain ⟨n', hn', hid⟩ := hid
      exact ⟨hk', n', hn', by rw [← hk', hid]⟩
    · obtain ⟨ha, n', hn', hk'⟩ := h.approval k a hk
      exact ⟨ha, n', by omega, hk'⟩
  · intro k session hk
    obtain ⟨⟨n', hn', hk'⟩, a, ha, hstate, hrest⟩ := h.session k session hk
    refine ⟨⟨n', by omega, hk'⟩, a, ?_, hstate, hrest⟩
    have hne : approval.id ≠ session.requestId := by
      intro he
      rw [hpending a (he ▸ ha)] at hstate
      cases hstate
    exact (JsMap.get_set_ne _ _ hne).trans ha
  · intro k a ha hstate
    have hne : approval.id ≠ k := fun he => hstate (hpending a (he ▸ ha))
    exact (JsMap.get_set_ne _ _ hne).trans ha

/-- A session may be stored under a new id for an approved request that has none. -/
theorem Wf.saveSession {m n : Nat} {t : Tables} (h : Wf env m t) {s : Session} (hm : m ≤ n)
    {approval : Approval} (happroval : t.approvals.get s.requestId = some approval)
    (hstate : approval.state = .approved)
    (hsame : approval.roomId = s.roomId ∧ approval.inviteId = s.inviteId ∧
      approval.minecraftUuid = s.minecraftUuid)
    (hnone : ∀ k old, t.sessions.get k = some old → old.requestId ≠ s.requestId) :
    Wf env (n + 1) { t with sessions := t.sessions.set (env.sessionId n) s } := by
  have hnew : ∀ k old, t.sessions.get k = some old → env.sessionId n ≠ k := by
    intro k old hk
    obtain ⟨⟨n', hn', rfl⟩, -⟩ := h.session k old hk
    exact fresh_ne env.sessionId_fresh (by omega)
  refine { h.mono (hm.trans (Nat.le_succ n)) with session := ?_, oneSession := ?_ }
  · intro k old hk
    rcases JsMap.get_set_cases hk with ⟨hk', rfl⟩ | ⟨-, hk⟩
    · exact ⟨⟨n, Nat.lt_succ_self n, hk'.symm⟩, approval, happroval, hstate, hsame⟩
    · obtain ⟨⟨n', hn', hk'⟩, hrest⟩ := h.session k old hk
      exact ⟨⟨n', by omega, hk'⟩, hrest⟩
  · intro k k' r r' hk hk' hrequest
    -- The request had no session before, so a second one of the two is not older.
    rcases JsMap.get_set_cases hk with ⟨rfl, rfl⟩ | ⟨-, hk⟩ <;>
      rcases JsMap.get_set_cases hk' with ⟨hkey, rfl⟩ | ⟨-, hk'⟩
    · exact hkey
    · exact absurd hrequest.symm (hnone k' r' hk')
    · exact absurd hrequest (hnone k r hk)
    · exact h.oneSession k k' r r' hk hk' hrequest

/-! ### Requests one at a time -/

/-- What a request leaves of well-formed tables: they are well formed and extend the ones before. -/
structure Step (env : Environment) (w w' : World) : Prop where
  moment : w.moment ≤ w'.moment
  wf : Wf env w'.moment w'.store.tables
  extends_ : Extends w.store.tables w'.store.tables

theorem Step.trans {w₁ w₂ w₃ : World} (h : Step env w₁ w₂) (h' : Step env w₂ w₃) : Step env w₁ w₃ :=
  ⟨h.moment.trans h'.moment, h'.wf, h.extends_.trans h'.extends_⟩

theorem Wf.act {w w' : World} (h : Wf env w.moment w.store.tables) (hact : Act env w w') :
    Step env w w' ∧ w'.store.sessions = w.store.sessions := by
  cases hact with
  | idle later =>
    refine ⟨⟨later.moment, ?_, ?_⟩, later.sessions⟩
    · rw [later.tables]
      exact h.mono later.moment
    · rw [later.tables]
      exact Extends.refl _
  | room room m opened id fresh used tables =>
    obtain ⟨hwf, hext⟩ := h.saveRoom room fresh opened id
    rw [← tables] at hwf hext
    exact ⟨⟨by omega, hwf.mono used, hext⟩, congrArg Tables.sessions tables⟩
  | invite invite m active id token fresh used tables =>
    obtain ⟨hwf, hext⟩ := h.saveInvite (n := w'.moment) invite (by omega)
      ⟨m, used, id, by rw [token]; rfl⟩ (by
        intro old hold
        obtain ⟨-, n', hn', he, -⟩ := h.invite _ old hold
        rw [id] at he
        exact absurd he (fresh_ne env.inviteId_fresh (by omega)))
    rw [← tables] at hwf hext
    exact ⟨⟨by omega, hwf, hext⟩, congrArg Tables.sessions tables⟩
  | revoke inviteId invite revokedAt stored moment tables =>
    -- The stored token is a hash already, which saving it again keeps.
    obtain ⟨hid, n', hn', he, htoken⟩ := h.invite inviteId invite stored
    have hsanitize : (invite.revoke revokedAt).sanitize env.sha256 = invite.revoke revokedAt := by
      simp [Invite.sanitize, Invite.revoke, htoken, Secret.sanitize]
    obtain ⟨hwf, hext⟩ := h.saveInvite (n := w'.moment) (invite.revoke revokedAt) moment
      ⟨n', by omega, hid.trans he, by rw [show (invite.revoke revokedAt).token = invite.token from rfl, htoken]; rfl⟩
      (by
        intro old hold
        rw [show (invite.revoke revokedAt).id = inviteId from hid, stored] at hold
        obtain rfl := Option.some.inj hold
        exact ⟨revokedAt, hsanitize⟩)
    rw [← tables] at hwf hext
    exact ⟨⟨moment, hwf, hext⟩, congrArg Tables.sessions tables⟩
  | ask approval m pending id fresh used tables =>
    obtain ⟨hwf, hext⟩ := h.saveApproval (n := w'.moment) approval (by omega) ⟨m, used, id⟩ (by
      intro old hold
      obtain ⟨-, n', hn', he⟩ := h.approval _ old hold
      rw [id] at he
      exact absurd he (fresh_ne env.approvalId_fresh (by omega)))
    rw [← tables] at hwf hext
    exact ⟨⟨by omega, hwf, hext⟩, congrArg Tables.sessions tables⟩
  | decide requestId approval decision decidedAt stored pending moment tables =>
    obtain ⟨hid, n', hn', he⟩ := h.approval requestId approval stored
    obtain ⟨hwf, hext⟩ := h.saveApproval (n := w'.moment) (approval.decide decision decidedAt) moment
      ⟨n', by omega, hid.trans he⟩ (by
        intro old hold
        rw [show (approval.decide decision decidedAt).id = requestId from hid, stored] at hold
        obtain rfl := Option.some.inj hold
        exact pending)
    rw [← tables] at hwf hext
    exact ⟨⟨moment, hwf, hext⟩, congrArg Tables.sessions tables⟩

theorem Wf.chain {w w' : World} (h : Wf env w.moment w.store.tables) (hchain : Chain env w w') :
    Step env w w' ∧ w'.store.sessions = w.store.sessions := by
  induction hchain with
  | refl => exact ⟨⟨le_rfl, h, Extends.refl _⟩, rfl⟩
  | tail _ hact ih =>
    obtain ⟨hstep, hsessions⟩ := ih.1.wf.act hact
    exact ⟨ih.1.trans hstep, hsessions.trans ih.2⟩

theorem Wf.approving {args : DecideJoinRequest} {w w' : World} (h : Wf env w.moment w.store.tables)
    (a : Approving env args w w') :
    Step env w w' ∧ (∀ k session, w.store.sessions.get k = some session → k ≠ env.sessionId (a.issued + 1)) ∧
      w'.store.sessions =
        w.store.sessions.set (env.sessionId (a.issued + 1)) (a.approval.session env args a.issued) := by
  obtain ⟨hid, n', hn', he⟩ := h.approval _ _ a.approval_stored
  have hstored : w.store.approvals.get a.approval.id = some a.approval := by rw [hid]; exact a.approval_stored
  have hstart := a.start_le
  have hchecked := a.checked_le
  have hused := a.used
  have hnone : ∀ k s, w.store.sessions.get k = some s → s.requestId ≠ a.approval.id := by
    intro k s hk hs
    obtain ⟨-, approval, happroval, hstate, -⟩ := h.session k s hk
    rw [hs] at happroval
    obtain rfl : approval = a.approval := Option.some.inj (happroval.symm.trans hstored)
    rw [a.pending] at hstate
    cases hstate
  obtain ⟨hwf, hext⟩ := h.saveApproval (n := a.issued) (a.approval.decide .approved a.decidedAt) (by omega)
    ⟨n', by omega, hid.trans he⟩ (by
      intro old hold
      obtain rfl := Option.some.inj (hold.symm.trans hstored)
      exact a.pending)
  have hwf' := hwf.saveSession (s := a.approval.session env args a.issued) (Nat.le_succ a.issued)
    (JsMap.get_set_self _ _ _) rfl ⟨rfl, rfl, a.sameUuid⟩ hnone
  have hnew : ∀ k session, w.store.sessions.get k = some session → k ≠ env.sessionId (a.issued + 1) := by
    intro k session hk hke
    obtain ⟨⟨n, hn, rfl⟩, -⟩ := h.session k session hk
    exact fresh_ne env.sessionId_fresh (by omega : n < a.issued + 1) hke.symm
  refine ⟨⟨by omega, ?_, ?_⟩, hnew, congrArg Tables.sessions a.tables⟩
  · rw [a.tables]
    exact hwf'.mono hused
  · rw [a.tables]
    refine hext.trans { Extends.refl _ with session := ?_ }
    intro k session hk
    exact (JsMap.get_set_ne _ _ (hnew k session hk).symm).trans hk

/-- A request, executed alone. -/
theorem Wf.perform {w : World} (h : Wf env w.moment w.store.tables) (request : Request) :
    Step env w (env.perform w request).2 := by
  rcases Environment.perform_spec w request with hchain | ⟨args, -, ⟨a⟩⟩
  · exact (h.chain hchain).1
  · exact (h.approving a).1

/-- A request changes the sessions only by approving. -/
theorem Wf.perform_sessions {w : World} (h : Wf env w.moment w.store.tables) (request : Request) :
    (env.perform w request).2.store.sessions = w.store.sessions ∨
      ∃ args, request = .decideJoinRequest args ∧ Nonempty (Approving env args w (env.perform w request).2) := by
  rcases Environment.perform_spec w request with hchain | happroving
  · exact .inl (h.chain hchain).2
  · exact .inr happroving

/-- The records of every reachable store are well formed. -/
theorem Wf.run (requests : List Request) :
    Wf env (env.run requests).moment (env.run requests).store.tables :=
  Machine.run_invariant (I := fun w : World => Wf env w.moment w.store.tables) (P := fun _ _ => True)
    (fun _ request h _ => (h.perform request).wf) Wf.start (.of_forall (fun _ _ => trivial) _)

theorem Wf.of_reachable {w : World} (h : env.Reachable w) : Wf env w.moment w.store.tables := by
  obtain ⟨requests, rfl⟩ := h
  exact Wf.run requests

/-- Later requests only extend the records. -/
theorem Wf.extends_run {w : World} (h : Wf env w.moment w.store.tables) (requests : List Request) :
    Step env w (Machine.run env.perform w requests) := by
  induction requests generalizing w with
  | nil => exact ⟨le_rfl, h, Extends.refl _⟩
  | cons request requests ih => exact (h.perform request).trans (ih (h.perform request).wf)

/-! ### Revoked invites -/

/-- The invite stored under `inviteId` carries the token with this digest and has been revoked. -/
def Revoked (t : Tables) (inviteId digest : String) : Prop :=
  ∃ invite, t.invites.get inviteId = some invite ∧ invite.state = .revoked ∧ invite.token = .hash digest

theorem Extends.revoked {t t' : Tables} (h : Extends t t') {inviteId digest : String}
    (hr : Revoked t inviteId digest) : Revoked t' inviteId digest := by
  obtain ⟨invite, hget, hstate, htoken⟩ := hr
  rcases h.invite inviteId invite hget with h' | ⟨revokedAt, h'⟩
  · exact ⟨invite, h', hstate, htoken⟩
  · exact ⟨_, h', rfl, htoken⟩

theorem Revoked.not_active {t : Tables} {inviteId digest : String} (h : Revoked t inviteId digest)
    {invite : Invite} (hget : t.invites.get inviteId = some invite) (now : Int) :
    isInviteActive invite now = false := by
  obtain ⟨invite', hget', hstate, -⟩ := h
  obtain rfl := Option.some.inj (hget.symm.trans hget')
  simp [isInviteActive, hstate]

/-- Tokens are never repeated, so a token leads to one invite only. -/
theorem Wf.token_unique {m : Nat} {t : Tables} (h : Wf env m t) {k k' digest : String} {invite invite' : Invite}
    (hk : t.invites.get k = some invite) (hk' : t.invites.get k' = some invite')
    (htoken : invite.token = .hash digest) (htoken' : invite'.token = .hash digest) : k = k' := by
  obtain ⟨-, n, -, rfl, hn⟩ := h.invite k invite hk
  obtain ⟨-, n', -, rfl, hn'⟩ := h.invite k' invite' hk'
  have he : hashSensitiveValue env.sha256 (some (env.createInviteToken n)) =
      hashSensitiveValue env.sha256 (some (env.createInviteToken n')) :=
    Secret.hash.inj (hn.symm.trans (htoken.trans (htoken'.symm.trans hn')))
  rw [env.tokenHash_fresh he]

/-- The token of a revoked invite is refused. -/
theorem Wf.readInviteByToken_revoked {w : World} (h : Wf env w.moment w.store.tables) {inviteId token : String}
    (hr : Revoked w.store.tables inviteId (hashSensitiveValue env.sha256 (some token))) (now : Int)
    (invite : Invite) : w.store.readInviteByToken env.sha256 now token ≠ .ok invite := by
  intro hread
  unfold MemoryStore.readInviteByToken at hread
  split at hread
  · cases hread
  · rcases hindex : w.store.inviteTokenIndex.get (hashSensitiveValue env.sha256 (some token)) with _ | k
    · rw [hindex] at hread
      cases hread
    · obtain ⟨invite', hget, htoken⟩ := h.index _ _ hindex
      obtain ⟨revoked, hgetr, hstate, htokenr⟩ := id hr
      obtain rfl : k = inviteId := h.token_unique hget hgetr htoken htokenr
      have hactive := hr.not_active hget now
      change w.store.invites.get k = some invite' at hget
      rw [hindex] at hread
      simp [hget, MemoryStore.isInviteUsable, hactive, failWith] at hread

theorem Wf.createJoinRequest_revoked {w : World} (h : Wf env w.moment w.store.tables) {inviteId : String}
    {args : CreateJoinRequest}
    (hr : Revoked w.store.tables inviteId (hashSensitiveValue env.sha256 (some args.inviteToken)))
    (response : Response) : (env.perform w (.createJoinRequest args)).1 ≠ .ok (.ok response) := by
  intro hok
  rw [Environment.perform_eq] at hok
  obtain ⟨invite, hread⟩ := (@Environment.createJoinRequest_ends env args w).2 response hok
  exact h.readInviteByToken_revoked hr _ invite hread

/-- A session issued by a request names an invite that was not revoked before. -/
theorem Wf.perform_revoked {w : World} (h : Wf env w.moment w.store.tables) {inviteId digest : String}
    (hr : Revoked w.store.tables inviteId digest) (request : Request) {key : String} {session : Session}
    (hsession : (env.perform w request).2.store.sessions.get key = some session) (hinvite : session.inviteId = inviteId) :
    w.store.sessions.get key = some session := by
  rcases h.perform_sessions request with hsame | ⟨args, -, ⟨a⟩⟩
  · rw [hsame] at hsession
    exact hsession
  · rw [(h.approving a).2.2] at hsession
    rcases JsMap.get_set_cases hsession with ⟨-, rfl⟩ | ⟨-, hsession⟩
    · -- The invite was found active when the request was approved.
      have hid : a.approval.inviteId = inviteId := hinvite
      have hactive := hr.not_active (hid ▸ a.invite_stored) (env.clock a.checked)
      rw [a.active] at hactive
      cases hactive
    · exact hsession

/-- After a successful `revokeInvite` or `regenerateInvite` the invite is stored as revoked, with its token. -/
theorem Wf.revokes {w w' : World} (h : Wf env w.moment w.store.tables) {inviteId : String}
    (hrevokes : Environment.Revokes env inviteId w w') : ∃ invite digest,
      w.store.invites.get inviteId = some invite ∧ invite.token = .hash digest ∧
        Revoked w'.store.tables inviteId digest := by
  obtain ⟨invite, revokedAt, w₁, hstored, hmoment, htables, hchain⟩ := hrevokes
  obtain ⟨hid, n, -, -, htoken⟩ := h.invite inviteId invite hstored
  have hwf := (h.act (.revoke inviteId invite revokedAt hstored hmoment htables)).1.wf
  have hrevoked : Revoked w₁.store.tables inviteId
      (hashSensitiveValue env.sha256 (some (env.createInviteToken n))) := by
    refine ⟨(invite.revoke revokedAt).sanitize env.sha256, ?_, rfl, ?_⟩
    · rw [htables]
      show (w.store.invites.set invite.id _).get inviteId = _
      rw [hid, JsMap.get_set_self]
    · show invite.token.sanitize env.sha256 = _
      rw [htoken]
      rfl
  exact ⟨invite, _, hstored, htoken, (hwf.chain hchain).1.extends_.revoked hrevoked⟩

end Tables

/-! ### Where sessions come from -/

/-- One request of a run. -/
abbrev Performed := Machine.Fired World Request (Except String (Reply Response))

/-- The request is a `decideJoinRequest` of the room's host that approved a pending request and issued the session
for it: the room was open and the invite active, unexpired at a reading of the clock during the request and not
after the session's `issuedAt`. -/
def Issues (env : Environment) (x : Performed) (key : String) (session : Session) : Prop :=
  ∃ args approval room invite m,
    x.input = .decideJoinRequest args ∧ args.decision = .approved ∧ args.requestId = session.requestId ∧
    x.before.store.approvals.get session.requestId = some approval ∧ approval.state = .pending ∧
    x.before.store.rooms.get session.roomId = some room ∧ room.hostId = args.actorId ∧ room.state = .opened ∧
    x.before.store.invites.get session.inviteId = some invite ∧ isInviteActive invite (env.clock m) = true ∧
    x.before.moment ≤ m ∧ m < x.after.moment ∧ env.clock m ≤ session.issuedAt ∧
    x.before.store.sessions.get key = none ∧ x.after.store.sessions.get key = some session

/-- The invite a request revokes when it succeeds. -/
def Request.revokedInvite : Request → Option String
  | .revokeInvite args => some args.inviteId
  | .regenerateInvite args => some args.inviteId
  | _ => none

open Tables in
theorem issues_of_approving {env : Environment} {w : World} (h : Wf env w.moment w.store.tables)
    {args : DecideJoinRequest} (a : Approving env args w (env.perform w (.decideJoinRequest args)).2) :
    Issues env (Machine.fire env.perform w (.decideJoinRequest args)) (env.sessionId (a.issued + 1))
      (a.approval.session env args a.issued) := by
  obtain ⟨-, hnew, hsessions⟩ := h.approving a
  obtain ⟨hid, -⟩ := h.approval _ _ a.approval_stored
  have hstored : w.store.approvals.get a.approval.id = some a.approval := by rw [hid]; exact a.approval_stored
  have hused := a.used
  have hchecked := a.checked_le
  refine ⟨args, a.approval, a.room, a.invite, a.checked, rfl, a.decision, hid.symm, hstored, a.pending,
    a.room_stored, a.host, a.opened, a.invite_stored, a.active, a.start_le, ?_, env.clock_mono hchecked, ?_, ?_⟩
  · show a.checked < (env.perform w (.decideJoinRequest args)).2.moment
    omega
  · by_contra hsome
    obtain ⟨session, hsession⟩ := Option.ne_none_iff_exists'.1 hsome
    exact hnew _ _ hsession rfl
  · show (env.perform w (.decideJoinRequest args)).2.store.sessions.get _ = _
    rw [hsessions, JsMap.get_set_self]

open Tables in
/-- Every stored session was issued by some request of the run. -/
theorem exists_issues (env : Environment) (requests : List Request) {key : String} {session : Session}
    (hsession : (env.run requests).store.sessions.get key = some session) :
    ∃ x ∈ Machine.trace env.perform World.start requests, Issues env x key session := by
  suffices Wf env (env.run requests).moment (env.run requests).store.tables ∧
      ∀ key session, (env.run requests).store.sessions.get key = some session →
        ∃ x ∈ Machine.trace env.perform World.start requests, Issues env x key session from this.2 _ _ hsession
  refine Machine.trace_invariant (P := fun _ _ => True)
    (H := fun (tr : List Performed) (w : World) => Wf env w.moment w.store.tables ∧
      ∀ key session, w.store.sessions.get key = some session → ∃ x ∈ tr, Issues env x key session)
    ?_ ⟨Wf.start, fun _ _ h => nomatch h⟩ (.of_forall (fun _ _ => trivial) _)
  rintro tr w request ⟨hwf, hissues⟩ -
  refine ⟨(hwf.perform request).wf, fun key session hkey => ?_⟩
  rcases hwf.perform_sessions request with hsame | ⟨args, rfl, ⟨a⟩⟩
  · rw [hsame] at hkey
    obtain ⟨x, hx, hxi⟩ := hissues key session hkey
    exact ⟨x, List.mem_append_left _ hx, hxi⟩
  · rw [(hwf.approving a).2.2] at hkey
    rcases JsMap.get_set_cases hkey with ⟨hke, rfl⟩ | ⟨-, hkey⟩
    · exact ⟨_, by simp, hke ▸ issues_of_approving hwf a⟩
    · obtain ⟨x, hx, hxi⟩ := hissues key session hkey
      exact ⟨x, List.mem_append_left _ hx, hxi⟩

open Tables in
/-- No session for a revoked invite is issued later. -/
theorem sessions_of_revoked {env : Environment} {w : World} (h : Wf env w.moment w.store.tables)
    {inviteId digest : String} (hr : Revoked w.store.tables inviteId digest) (later : List Request)
    {key : String} {session : Session}
    (hsession : (Machine.run env.perform w later).store.sessions.get key = some session)
    (hinvite : session.inviteId = inviteId) : w.store.sessions.get key = some session := by
  induction later generalizing w with
  | nil => exact hsession
  | cons request later ih =>
    have hstep := h.perform request
    exact h.perform_revoked hr request (ih hstep.wf (hstep.extends_.revoked hr) hsession) hinvite

open Tables in
/-- No later join request through the token of a revoked invite succeeds. -/
theorem joinRequests_of_revoked {env : Environment} {w : World} (h : Wf env w.moment w.store.tables)
    {inviteId digest : String} (hr : Revoked w.store.tables inviteId digest) (later : List Request) {x : Performed}
    (hx : x ∈ Machine.trace env.perform w later) {args : CreateJoinRequest}
    (hinput : x.input = .createJoinRequest args)
    (htoken : hashSensitiveValue env.sha256 (some args.inviteToken) = digest) (response : Response) :
    x.output ≠ .ok (.ok response) := by
  obtain ⟨pre, post, -, hfire⟩ := Machine.mem_trace hx
  have hstep := h.extends_run pre
  rw [hinput] at hfire
  rw [hfire]
  have hr' := hstep.extends_.revoked hr
  rw [← htoken] at hr'
  exact hstep.wf.createJoinRequest_revoked hr' response

open Tables in
/-- A successful revocation or regeneration stores the invite as revoked. -/
theorem revoked_of_success {env : Environment} {w : World} (h : Wf env w.moment w.store.tables) {request : Request}
    {inviteId : String} (hrequest : request.revokedInvite = some inviteId) {response : Response}
    (hok : (env.perform w request).1 = .ok (.ok response)) : ∃ invite digest,
      w.store.invites.get inviteId = some invite ∧ invite.token = .hash digest ∧
        Revoked (env.perform w request).2.store.tables inviteId digest := by
  refine h.revokes ?_
  rw [Environment.perform_eq] at hok ⊢
  cases request with
  | revokeInvite args =>
    obtain rfl : args.inviteId = inviteId := by simpa [Request.revokedInvite] using hrequest
    exact (Environment.revokeInvite_ends args w).2 response hok
  | regenerateInvite args =>
    obtain rfl : args.inviteId = inviteId := by simpa [Request.revokedInvite] using hrequest
    exact (Environment.regenerateInvite_ends args w).2 response hok
  | _ => simp [Request.revokedInvite] at hrequest

open Tables in
/-- Every stored session belongs to an approved request of the same room, invite and Minecraft UUID and was issued
by the host's decision, no request has two sessions, and an invite that has been revoked or regenerated is used by
no later join request and no later session. -/
theorem sessions_sound (env : Environment) (requests : List Request) :
    (∀ key session, (env.run requests).store.sessions.get key = some session →
      (∃ approval, (env.run requests).store.approvals.get session.requestId = some approval ∧
        approval.state = .approved ∧ approval.roomId = session.roomId ∧ approval.inviteId = session.inviteId ∧
        approval.minecraftUuid = session.minecraftUuid) ∧
      ∃ x ∈ Machine.trace env.perform World.start requests, Issues env x key session) ∧
    (∀ key key' session session', (env.run requests).store.sessions.get key = some session →
      (env.run requests).store.sessions.get key' = some session' → session.requestId = session'.requestId →
      key = key') ∧
    (∀ x ∈ Machine.trace env.perform World.start requests, ∀ inviteId response,
      x.input.revokedInvite = some inviteId → x.output = .ok (.ok response) → ∃ invite digest,
        x.before.store.invites.get inviteId = some invite ∧ invite.token = .hash digest ∧
          Revoked x.after.store.tables inviteId digest) ∧
    (∀ inviteId digest, Revoked (env.run requests).store.tables inviteId digest → ∀ later : List Request,
      (∀ x ∈ Machine.trace env.perform (env.run requests) later, ∀ args response,
        x.input = .createJoinRequest args → hashSensitiveValue env.sha256 (some args.inviteToken) = digest →
        x.output ≠ .ok (.ok response)) ∧
      ∀ key session, (env.run (requests ++ later)).store.sessions.get key = some session →
        session.inviteId = inviteId → (env.run requests).store.sessions.get key = some session) := by
  have hwf : Wf env (env.run requests).moment (env.run requests).store.tables := Wf.run requests
  refine ⟨fun key session hsession => ⟨(hwf.session key session hsession).2, exists_issues env requests hsession⟩,
    hwf.oneSession, ?_, ?_⟩
  · intro x hx inviteId response hrequest hok
    obtain ⟨pre, post, -, hfire⟩ := Machine.mem_trace hx
    rw [hfire] at hok ⊢
    exact revoked_of_success (Wf.run pre) hrequest hok
  · intro inviteId digest hr later
    refine ⟨fun x hx args response hinput htoken => joinRequests_of_revoked hwf hr later hx hinput htoken response,
      fun key session hsession hinvite => ?_⟩
    rw [Environment.run, Machine.run_append] at hsession
    exact sessions_of_revoked hwf hr later hsession hinvite

/-! ### A clock that advances within a request -/

/-- The name made at moment `n`. -/
def countingName (kind : Char) (n : Nat) : String := String.ofList (List.replicate (n + 1) kind)

theorem countingName_injective (kind : Char) : Function.Injective (countingName kind) := by
  intro n m h
  have h' := congrArg String.length h
  simpa [countingName] using h'

/-- An environment whose clock ticks once a call and whose generators count. -/
def countingEnvironment (inviteTtlMs : Int) : Environment where
  options :=
    { inviteTtlMs := inviteTtlMs, sessionTtlMs := defaultSessionTtlMs, joinRequestLimit := defaultJoinRequestLimit,
      joinRequestWindowMs := defaultJoinRequestWindowMs, hasCheckRoomQuota := false, hasCheckSessionQuota := false,
      hasReadPresence := false, hasRecordAuditEvent := true, hasWithTransaction := false, redactAuditText := id }
  clock n := n
  sha256 := id
  roomId := countingName 'r'
  inviteId := countingName 'i'
  approvalId := countingName 'a'
  sessionId := countingName 's'
  auditId := countingName 'e'
  createInviteToken := countingName 't'
  checkRoomQuota _ _ := .other
  checkSessionQuota _ _ := .other
  clock_mono _ _ h := Int.ofNat_le.2 h
  roomId_fresh := countingName_injective 'r'
  inviteId_fresh := countingName_injective 'i'
  approvalId_fresh := countingName_injective 'a'
  sessionId_fresh := countingName_injective 's'
  tokenHash_fresh := countingName_injective 't'

/-- A host opens a room and an invite, and a friend asks to join. -/
def askedJoin : List Request :=
  [.createRoom { actorId := "host", roomAlias := none, minecraftVersion := none, packProfileName := none },
    .createInvite { actorId := "host", roomId := countingName 'r' 2 },
    .createJoinRequest { inviteToken := countingName 't' 7, friendId := none, minecraftUuid := some "uuid",
                         displayName := none, ipAddress := none, deviceSignal := none }]

/-- The host's answer to that request. -/
def hostDecision (decision : ApprovalState) : DecideJoinRequest :=
  { actorId := "host", requestId := countingName 'a' 15, decision := decision, minecraftUuid := some "uuid",
    sessionCredential := none }

/-- The invite is checked at one reading of the clock and the session stamped with a later one, so a session can be
issued at the moment its invite expires. -/
theorem session_issued_after_expiry :
    ¬ ∀ (env : Environment) (requests : List Request) (key : String) (session : Session),
      (env.run requests).store.sessions.get key = some session →
      ∃ invite, (env.run requests).store.invites.get session.inviteId = some invite ∧
        notExpired invite.expiresAt session.issuedAt = true := by
  intro h
  let approvedJoin := askedJoin ++ [.decideJoinRequest (hostDecision .approved)]
  have hsession : ((countingEnvironment 17).run approvedJoin).store.sessions.get (countingName 's' 25) = some
      { id := countingName 's' 25, roomId := countingName 'r' 2, inviteId := countingName 'i' 8,
        requestId := countingName 'a' 15, minecraftUuid := some "uuid", sessionCredential := .hash "undefined",
        state := .issued, issuedAt := 24, expiresAt := some (24 + defaultSessionTtlMs) } := by decide
  have hinvite : ((countingEnvironment 17).run approvedJoin).store.invites.get (countingName 'i' 8) = some
      { id := countingName 'i' 8, roomId := countingName 'r' 2, token := .hash (countingName 't' 7),
        state := .active, createdAt := 6, expiresAt := some 23, revokedAt := none } := by decide
  obtain ⟨invite, hstored, hunexpired⟩ := h _ _ _ _ hsession
  obtain rfl := Option.some.inj (hstored.symm.trans hinvite)
  exact absurd hunexpired (by decide)

end EasyMc.ControlPlane
