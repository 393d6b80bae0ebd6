import EasyMc.ControlPlane.PostgresService

/-!
# The two repositories agree

What a request does over the Postgres repository it does over the memory store as well, from the same records: it is
answered the same and leaves the same records (`operation_agrees`).  Only a host who is away closes the room over the
repository alone, and whenever the room is closed nothing is written.  So every run of the service over the repository
is a run over the memory store of the requests that were answered, with some calls of the clock and the generators in
between (`postgres_follows_memory`), and what the constraints of the schema refuse never happens (`postgres_throws`).
-/

namespace EasyMc.ControlPlane

open Await (Prog)
open Await.Prog (Follows)
open PostgresEnvironment (written found asked)

/-! ### Calls -/

/-- The room is closed, and nothing has been written since `s₀`. -/
def Closed {α : Type} (s₀ : PostgresWorld) (reply : Reply α) (s : PostgresWorld) : Prop :=
  reply = failWith .roomClosed ∧ s.tables = s₀.tables

/-- A program over the repository and over the memory store. -/
abbrev PostgresEnvironment.Follows {α : Type} (pg : PostgresEnvironment) (namesPlayer : Bool)
    (quits : α → PostgresWorld → Prop) (post : α → PostgresWorld → World → Prop) (p p' : Service α) (s : PostgresWorld)
    (t : World) : Prop :=
  Prog.Follows pg.handler pg.toEnvironment.handler (pg.Excused namesPlayer) quits post p p' s t

/-- Nothing has been written in either since `s₀` and `t₀`. -/
structure Idle (pg : PostgresEnvironment) (s₀ : PostgresWorld) (t₀ : World) (s : PostgresWorld) (t : World) : Prop where
  mirrors : Mirrors pg s t
  tables : s.tables = s₀.tables
  store : t.store = t₀.store
  moment : t₀.moment ≤ t.moment

variable {pg : PostgresEnvironment} {s₀ s : PostgresWorld} {t₀ t : World} {namesPlayer : Bool} {α : Type}
  {quits : α → PostgresWorld → Prop} {post : α → PostgresWorld → World → Prop}

namespace Idle

theorem refl (h : Mirrors pg s t) : Idle pg s t s t := ⟨h, rfl, rfl, le_rfl⟩

theorem tick (h : Idle pg s₀ t₀ s t) : Idle pg s₀ t₀ s.tick t.tick :=
  ⟨h.mirrors.tick, h.tables, h.store, h.moment.trans (Nat.le_succ _)⟩

theorem later (h : Idle pg s₀ t₀ s t) : Later t₀ t := ⟨congrArg MemoryStore.tables h.store, h.moment⟩

end Idle

/-- A read that may be asked for. -/
theorem follows_asked {op : Call} {f : Call.Answer op → Service α} {p' : Service α} {fits : Bool} {w : PostgresWorld}
    {answer : Except String (Call.Answer op) × PostgresWorld} (hs : pg.handler op s = asked fits w answer)
    (hf : pg.handler op s = answer → pg.Follows namesPlayer quits post (Prog.perform op >>= f) p' s t) :
    pg.Follows namesPlayer quits post (Prog.perform op >>= f) p' s t := by
  cases fits with
  | true => exact hf hs
  | false => exact .thrown hs fun _ _ => by simp [expectedErrors]

/-- The clock, the generators and the hooks. -/
theorem follows_given (op : Call) (g : Nat → Call.Answer op) {f f' : Call.Answer op → Service α}
    (hs : ∀ s, pg.handler op s = (.ok (g s.moment), s.tick))
    (ht : ∀ t, pg.toEnvironment.handler op t = (.ok (g t.moment), t.tick)) (h : Idle pg s₀ t₀ s t)
    (hf : Idle pg s₀ t₀ s.tick t.tick → pg.Follows namesPlayer quits post (f (g t.moment)) (f' (g t.moment)) s.tick t.tick) :
    pg.Follows namesPlayer quits post (Prog.perform op >>= f) (Prog.perform op >>= f') s t := by
  have hs' := hs s
  rw [h.mirrors.moment] at hs'
  exact .answered hs' (ht t) (hf h.tick)

theorem follows_now {f f' : Int → Service α} (h : Idle pg s₀ t₀ s t)
    (hf : Idle pg s₀ t₀ s.tick t.tick →
      pg.Follows namesPlayer quits post (f (pg.clock t.moment)) (f' (pg.clock t.moment)) s.tick t.tick) :
    pg.Follows namesPlayer quits post (Service.now >>= f) (Service.now >>= f') s t :=
  follows_given .now pg.clock (fun _ => rfl) (fun _ => rfl) h hf

/-- What is found is answered alike. -/
theorem found_alike {β : Type} (record : Option β) (state : ErrorState) (s : PostgresWorld) (t : World) :
    ∃ reply, found record state s = (.ok reply, s.tick) ∧ Environment.found record state t = (.ok reply, t.tick) ∧
      ∀ a, reply = .ok a → record = some a := by
  cases record with
  | none => exact ⟨failWith state, rfl, rfl, fun _ h => nomatch h⟩
  | some record => exact ⟨.ok record, rfl, rfl, fun _ h => by cases h; rfl⟩

theorem follows_readRoom {f f' : Reply Room → Service α} (h : Idle pg s₀ t₀ s t) (roomId : String)
    (hf : ∀ reply, (∀ room, reply = .ok room → t₀.store.rooms.get roomId = some room) → Idle pg s₀ t₀ s.tick t.tick →
      pg.Follows namesPlayer quits post (f reply) (f' reply) s.tick t.tick) :
    pg.Follows namesPlayer quits post (Service.readRoom roomId >>= f) (Service.readRoom roomId >>= f') s t := by
  obtain ⟨reply, hs, ht, hfound⟩ := found_alike (t.store.rooms.get roomId) .sessionUnavailable s t
  rw [← h.mirrors.readRoom] at hs
  rw [h.store] at hfound
  exact follows_asked rfl fun hread => .answered (hread.trans hs) ht (hf reply hfound h.tick)

theorem follows_readInvite {f f' : Reply Invite → Service α} (h : Idle pg s₀ t₀ s t) (inviteId : String)
    (hf : ∀ reply, (∀ invite, reply = .ok invite → t₀.store.invites.get inviteId = some invite) →
      Idle pg s₀ t₀ s.tick t.tick → pg.Follows namesPlayer quits post (f reply) (f' reply) s.tick t.tick) :
    pg.Follows namesPlayer quits post (Service.readInvite inviteId >>= f) (Service.readInvite inviteId >>= f') s t := by
  obtain ⟨reply, hs, ht, hfound⟩ := found_alike (t.store.invites.get inviteId) .inviteUnavailable s t
  rw [← h.mirrors.readInvite] at hs
  rw [h.store] at hfound
  exact follows_asked rfl fun hread => .answered (hread.trans hs) ht (hf reply hfound h.tick)

theorem follows_readApproval {f f' : Reply Approval → Service α} (h : Idle pg s₀ t₀ s t) (approvalId : String)
    (hf : ∀ reply, (∀ approval, reply = .ok approval → t₀.store.approvals.get approvalId = some approval) →
      Idle pg s₀ t₀ s.tick t.tick → pg.Follows namesPlayer quits post (f reply) (f' reply) s.tick t.tick) :
    pg.Follows namesPlayer quits post (Service.readApproval approvalId >>= f) (Service.readApproval approvalId >>= f')
      s t := by
  obtain ⟨reply, hs, ht, hfound⟩ := found_alike (t.store.approvals.get approvalId) .sessionUnavailable s t
  rw [← h.mirrors.readApproval] at hs
  rw [h.store] at hfound
  exact follows_asked rfl fun hread => .answered (hread.trans hs) ht (hf reply hfound h.tick)

/-- An invite that is found by its token is stored. -/
theorem stored_of_readInviteByToken (h : Mirrors pg s t) {now : Int} {token : String} {invite : Invite}
    (hread : t.store.readInviteByToken pg.sha256 now token = .ok invite) :
    t.store.invites.get invite.id = some invite := by
  unfold MemoryStore.readInviteByToken at hread
  split at hread
  · cases hread
  · split at hread
    · cases hread
    · split at hread
      · cases hread
      · rename_i id _ _ found hget
        split at hread
        · cases hread
          rw [h.invites.keyed id _ hget]
          exact hget
        · cases hread

theorem follows_readInviteByToken {f f' : Reply Invite → Service α} (h : Idle pg s₀ t₀ s t) (token : String)
    (hf : ∀ reply, (∀ invite, reply = .ok invite → t₀.store.invites.get invite.id = some invite) →
      Idle pg s₀ t₀ s.tick t.tick → pg.Follows namesPlayer quits post (f reply) (f' reply) s.tick t.tick) :
    pg.Follows namesPlayer quits post (Service.readInviteByToken token >>= f) (Service.readInviteByToken token >>= f')
      s t := by
  have hs : s.tables.readInviteByToken pg.sha256 (pg.clock s.moment) token =
      t.store.readInviteByToken pg.sha256 (pg.clock t.moment) token := by
    rw [h.mirrors.readInviteByToken, h.mirrors.moment]
  refine follows_asked rfl fun hasked => .answered (hasked.trans ?_) rfl (hf _ (fun invite hread => ?_) h.tick)
  · rw [hs]
  · rw [← h.store]
    exact stored_of_readInviteByToken h.mirrors hread

/-- A write over the repository that goes through is made over the memory store as well. -/
theorem follows_written (op : Call) {answer : Call.Answer op} {f f' : Call.Answer op → Service α}
    {result : Except WriteError PostgresTables} {store : MemoryStore} {given needed : Prop}
    (hs : pg.handler op s = written answer s result)
    (ht : given → pg.toEnvironment.handler op t = (.ok answer, t.write store))
    (hwrites : Writes needed (fun tables => given ∧ Mirrors pg (s.write tables) (t.write store)) result)
    (hneeded : pg.Regular → namesPlayer = true → needed)
    (hf : ∀ tables, Mirrors pg (s.write tables) (t.write store) →
      pg.Follows namesPlayer quits post (f answer) (f' answer) (s.write tables) (t.write store)) :
    pg.Follows namesPlayer quits post (Prog.perform op >>= f) (Prog.perform op >>= f') s t := by
  cases result with
  | ok tables =>
    obtain ⟨hgiven, hmirrors⟩ := hwrites
    exact .answered hs (ht hgiven) (hf tables hmirrors)
  | error error =>
    refine .thrown hs fun hregular hplayer => ?_
    rw [hwrites (hneeded hregular hplayer)]
    simp [expectedErrors]

theorem saved_of_ne {β : Type} {id kind : String} {answer : β} {store : MemoryStore} (hid : id ≠ "") :
    Environment.saved id kind answer t store = (.ok answer, t.write store) := by
  unfold Environment.saved
  rw [if_neg (by simpa using hid)]

/-! ### The shared steps -/

theorem follows_audit {f f' : Reply Unit → Service α} (h : Mirrors pg s t) {event : AuditEvent} (htype : event.type ≠ "")
    (hf : ∀ s' t', Mirrors pg s' t' → Later t t' → pg.Follows namesPlayer quits post (f (.ok ())) (f' (.ok ())) s' t') :
    pg.Follows namesPlayer quits post (audit pg.service event >>= f) (audit pg.toEnvironment.service event >>= f') s t := by
  refine follows_written (.recordAuditEvent _) rfl (fun hgiven => ?_)
    (h.recordAuditEvent (pg.clock s.moment)) (fun hregular _ => ⟨hregular.redacts _ htype, hregular.auditId⟩)
    fun tables hmirrors => hf _ _ hmirrors ⟨rfl, Nat.le_succ _⟩
  show (if _ then _ else _) = _
  rw [if_neg (by simpa using hgiven), ← h.moment]

theorem follows_checkRoomQuota {f f' : Reply Unit → Service α} (h : Idle pg s₀ t₀ s t) (context : RoomQuotaContext)
    (hf : ∀ reply s' t', Idle pg s₀ t₀ s' t' → pg.Follows namesPlayer quits post (f reply) (f' reply) s' t') :
    pg.Follows namesPlayer quits post
      (callHook pg.service.hasCheckRoomQuota (Service.checkRoomQuota context) >>= f)
      (callHook pg.toEnvironment.service.hasCheckRoomQuota (Service.checkRoomQuota context) >>= f') s t := by
  have hoption : pg.toEnvironment.service.hasCheckRoomQuota = pg.service.hasCheckRoomQuota := rfl
  rw [hoption]
  unfold callHook
  cases pg.service.hasCheckRoomQuota with
  | false => exact hf (.ok ()) s t h
  | true =>
    refine follows_given (.checkRoomQuota context) (fun m => pg.checkRoomQuota m context) (fun _ => rfl)
      (fun _ => rfl) h fun hnext => ?_
    cases pg.checkRoomQuota t.moment context with
    | refused => exact hf _ _ _ hnext
    | fail reason => exact hf _ _ _ hnext
    | other => exact hf _ _ _ hnext

theorem follows_checkSessionQuota {f f' : Reply Unit → Service α} (h : Idle pg s₀ t₀ s t)
    (context : SessionQuotaContext)
    (hf : ∀ reply s' t', Idle pg s₀ t₀ s' t' → pg.Follows namesPlayer quits post (f reply) (f' reply) s' t') :
    pg.Follows namesPlayer quits post
      (callHook pg.service.hasCheckSessionQuota (Service.checkSessionQuota context) >>= f)
      (callHook pg.toEnvironment.service.hasCheckSessionQuota (Service.checkSessionQuota context) >>= f') s t := by
  have hoption : pg.toEnvironment.service.hasCheckSessionQuota = pg.service.hasCheckSessionQuota := rfl
  rw [hoption]
  unfold callHook
  cases pg.service.hasCheckSessionQuota with
  | false => exact hf (.ok ()) s t h
  | true =>
    refine follows_given (.checkSessionQuota context) (fun m => pg.checkSessionQuota m context) (fun _ => rfl)
      (fun _ => rfl) h fun hnext => ?_
    cases pg.checkSessionQuota t.moment context with
    | refused => exact hf _ _ _ hnext
    | fail reason => exact hf _ _ _ hnext
    | other => exact hf _ _ _ hnext

/-- Over the repository an open room is closed while its host is away. -/
theorem follows_isRoomAvailable {f f' : Bool → Service (Reply α)} {post : Reply α → PostgresWorld → World → Prop}
    (h : Idle pg s₀ t₀ s t) (room : Room) (hclosed : f false = .ret (failWith .roomClosed))
    (hf : isRoomOpen room = true → pg.Follows namesPlayer (Closed s₀) post (f true) (f' true) s t) :
    pg.Follows namesPlayer (Closed s₀) post (isRoomAvailable pg.service room >>= f)
      (isRoomAvailable pg.toEnvironment.service room >>= f') s t := by
  have hquit : ∀ p', pg.Follows namesPlayer (Closed s₀) post (f false) p' s t := by
    intro p'
    rw [hclosed]
    exact .quit ⟨rfl, h.tables⟩
  unfold isRoomAvailable
  by_cases hopen : isRoomOpen room = true
  · have hclosed : ¬ (!isRoomOpen room) = true := by simp [hopen]
    rw [if_neg hclosed, if_neg hclosed]
    refine follows_asked rfl fun hread => Follows.left_bind hread ?_
    cases hpresence : ((s.tables.database.readPresence (pg.presenceNow s.moment) room.id).map fun _ => ()).isOk with
    | false => exact hquit _
    | true => exact hf hopen
  · have hclosed : (!isRoomOpen room) = true := by simpa using hopen
    rw [if_pos hclosed, if_pos hclosed]
    exact hquit _

theorem follows_incrementRateLimitCounter (hdigest : HexDigests pg.sha256) (h : Mirrors pg s t)
    (request : RateLimitRequest) (hvalid : pg.Regular → request.isValid = true) {f f' : RateLimitResult → Service α}
    (hf : ∀ r r' s' t', r.outcome = r'.outcome → r'.outcome ≠ failWith .roomClosed → Mirrors pg s' t' → Later t t' →
      pg.Follows namesPlayer quits post (f r) (f' r') s' t') :
    pg.Follows namesPlayer quits post (Service.incrementRateLimitCounter request >>= f)
      (Service.incrementRateLimitCounter request >>= f') s t := by
  have hcounted := h.incrementRateLimitCounter hdigest (pg.clock s.moment) request
  cases hreply : s.tables.incrementRateLimitCounter pg.columns pg.sha256 (pg.clock s.moment) request with
  | error error =>
    rw [hreply] at hcounted
    have hs : pg.handler (.incrementRateLimitCounter request) s = (.error error.message, s.tick) := by
      simp only [PostgresEnvironment.handler, hreply]
    refine .thrown hs fun hregular _ => ?_
    rw [hcounted (hvalid hregular)]
    simp [expectedErrors]
  | ok reply =>
    obtain ⟨answer, tables⟩ := reply
    rw [hreply] at hcounted
    obtain ⟨result, store, hmemory, houtcome, hmirrors⟩ := hcounted
    have hs : pg.handler (.incrementRateLimitCounter request) s = (.ok answer.result, s.write tables) := by
      simp only [PostgresEnvironment.handler, hreply]
    rw [h.moment] at hmemory
    have ht : pg.toEnvironment.handler (.incrementRateLimitCounter request) t = (.ok result, t.write store) := by
      simp only [Environment.handler, hmemory]
    have htables := MemoryStore.incrementRateLimitCounter_tables pg.sha256 (pg.clock t.moment) request t.store
    rw [hmemory] at htables
    have hopen : result.outcome ≠ failWith .roomClosed := by
      rw [outcome_of_result hmemory]
      intro heq
      split at heq <;> cases heq
    exact .answered hs ht (hf _ _ _ _ houtcome.symm hopen hmirrors ⟨htables, Nat.le_succ _⟩)

/-- Whatever is counted is counted alike, nothing else changes, and no count closes a room. -/
theorem applyJoinRequestRateLimits_follows (hdigest : HexDigests pg.sha256) (h : Mirrors pg s t)
    {signals : List (String × String)} (hsignals : ∀ signal ∈ signals, signal.1 ≠ "" ∧ signal.2 ≠ "") :
    pg.Follows namesPlayer (fun _ _ => False)
      (fun reply s' t' => Mirrors pg s' t' ∧ Later t t' ∧ reply ≠ failWith .roomClosed)
      (applyJoinRequestRateLimits pg.service signals) (applyJoinRequestRateLimits pg.toEnvironment.service signals)
      s t := by
  induction signals generalizing s t with
  | nil => exact .ret ⟨h, Later.refl t, fun heq => nomatch heq⟩
  | cons signal signals ih =>
    obtain ⟨scope, signal⟩ := signal
    obtain ⟨⟨hscope, hsignal⟩, hrest⟩ := List.forall_mem_cons.1 hsignals
    refine follows_incrementRateLimitCounter hdigest h _ (fun hregular => ?_)
      fun r r' s' t' hsame hopen hmirrors hlater => ?_
    · have hlimit : 1 ≤ pg.service.joinRequestLimit := hregular.limit
      have hwindow : 1 ≤ pg.service.joinRequestWindowMs := hregular.window
      simp only [RateLimitRequest.isValid, beq_eq_false_iff_ne.2 hscope, beq_eq_false_iff_ne.2 hsignal,
        decide_eq_false (Int.not_lt.2 hlimit), decide_eq_false (Int.not_lt.2 hwindow)]
      rfl
    · rw [hsame]
      cases houtcome : r'.outcome with
      | fail reason => exact .ret ⟨hmirrors, hlater, houtcome ▸ hopen⟩
      | ok _ =>
        refine (ih hmirrors hrest).mono fun reply s' t' hnext => ?_
        obtain ⟨hmirrors', hlater', hopen'⟩ := hnext
        exact ⟨hmirrors', hlater.trans hlater', hopen'⟩

/-! ### The operations -/

/-- What an answered request leaves: the same records in both, and those there were when the room is closed. -/
structure Answered (pg : PostgresEnvironment) (s₀ : PostgresWorld) (reply : Reply Response) (s : PostgresWorld)
    (t : World) : Prop where
  mirrors : Mirrors pg s t
  closed : reply = failWith .roomClosed → s.tables = s₀.tables

theorem Answered.ok (h : Mirrors pg s t) (response : Response) : Answered pg s₀ (.ok response) s t :=
  ⟨h, fun heq => nomatch heq⟩

theorem Idle.answered (h : Idle pg s₀ t₀ s t) (reply : Reply Response) : Answered pg s₀ reply s t :=
  ⟨h.mirrors, fun _ => h.tables⟩

/-- A request over the repository and over the memory store, from the same records. -/
abbrev PostgresEnvironment.Agrees (pg : PostgresEnvironment) (namesPlayer : Bool) (s : PostgresWorld) (t : World)
    (p p' : Service (Reply Response)) : Prop :=
  pg.Follows namesPlayer (Closed s) (Answered pg s) p p' s t

/-- A name that is made now is not in use. -/
theorem get_fresh {ρ : Type} {name : Nat → String} (hfresh : Function.Injective name) {m : JsMap String ρ} {moment n : Nat}
    (hused : ∀ k row, m.get k = some row → ∃ n' < moment, k = name n') (hn : moment ≤ n) : m.get (name n) = none := by
  cases hget : m.get (name n) with
  | none => rfl
  | some row =>
    obtain ⟨n', hn', hname⟩ := hused _ row hget
    have := hfresh hname
    omega

theorem createRoom_agrees (h : Mirrors pg s t) (hwf : Tables.Wf pg.toEnvironment t.moment t.store.tables)
    (args : CreateRoom) :
    pg.Agrees namesPlayer s t (createRoom pg.service args) (createRoom pg.toEnvironment.service args) := by
  unfold createRoom
  by_cases hactor : (args.actorId == "") = true
  · rw [if_pos hactor, if_pos hactor]
    refine .throw fun _ _ => ?_
    simp [expectedErrors]
  · rw [if_neg hactor, if_neg hactor]
    refine follows_now (Idle.refl h) fun h₁ => follows_checkRoomQuota h₁ _ fun reply s₂ t₂ h₂ => ?_
    cases reply with
    | fail reason => exact .ret (h₂.answered _)
    | ok _ =>
      refine follows_now h₂ fun h₃ => ?_
      refine follows_given .roomId pg.roomId (fun _ => rfl) (fun _ => rfl) h₃ fun h₄ => ?_
      have hnew : t₂.tick.tick.store.rooms.get (pg.roomId t₂.tick.moment) = none := by
        rw [h₄.store]
        exact get_fresh pg.roomId_fresh (fun k row hk => (hwf.room k row hk).2) h₃.moment
      refine follows_written (.saveRoom _) rfl (fun hid => saved_of_ne hid) (h₄.mirrors.saveRoom hnew)
        (fun hregular _ => hregular.roomId _) fun tables hmirrors => ?_
      exact follows_audit hmirrors (by simp) fun s' t' hnext _ => .ret (.ok hnext _)

/-- An invite with a name and a token that were made after all others. -/
theorem follows_saveInvite (hdigest : HexDigests pg.sha256) (h : Mirrors pg s t) {m n : Nat}
    (hwf : Tables.Wf pg.toEnvironment m t.store.tables) (hn : m ≤ n) {record : Invite}
    (hid : record.id = pg.inviteId (n + 1)) (htoken : record.token = .raw (some (pg.createInviteToken n)))
    (hroom : ∃ room, t.store.rooms.get record.roomId = some room) {f f' : Reply (Option Invite) → Service α}
    (hf : ∀ tables, Mirrors pg (s.write tables) (t.write (t.store.saveInvite pg.sha256 record)) →
      pg.Follows namesPlayer quits post (f (.ok (some (record.sanitize pg.sha256))))
        (f' (.ok (some (record.sanitize pg.sha256)))) (s.write tables)
        (t.write (t.store.saveInvite pg.sha256 record))) :
    pg.Follows namesPlayer quits post (Service.saveInvite record >>= f) (Service.saveInvite record >>= f') s t := by
  have hstored : (record.sanitize pg.sha256).token =
      .hash (hashSensitiveValue pg.sha256 (some (pg.createInviteToken n))) := by
    unfold Invite.sanitize
    rw [htoken]
    rfl
  have hnew : t.store.invites.get record.id = none := by
    rw [hid]
    refine get_fresh pg.inviteId_fresh (fun k row hk => ?_) (hn.trans (Nat.le_succ n))
    obtain ⟨-, n', hn', hname, -⟩ := hwf.invite k row hk
    exact ⟨n' + 1, hn', hname⟩
  have hfresh : ∀ id invite, t.store.invites.get id = some invite →
      invite.token ≠ .hash (hashSensitiveValue pg.sha256 (some (pg.createInviteToken n))) := by
    intro id invite hinvite htoken'
    obtain ⟨-, n', hn', -, hhash⟩ := hwf.invite id invite hinvite
    have := pg.tokenHash_fresh (Secret.hash.inj (hhash.symm.trans htoken'))
    omega
  obtain ⟨room, hroom⟩ := hroom
  have hparent := h.rooms.mem_of_get hroom
  refine follows_written (.saveInvite _) rfl (fun hid => saved_of_ne hid)
    (h.saveInvite hnew hstored (hdigest.given _) hfresh ⟨room, hparent⟩) (fun hregular _ => ?_) hf
  rw [hid]
  exact hregular.inviteId _

theorem createInvite_agrees (hdigest : HexDigests pg.sha256) (h : Mirrors pg s t)
    (hwf : Tables.Wf pg.toEnvironment t.moment t.store.tables) (args : CreateInvite) :
    pg.Agrees namesPlayer s t (createInvite pg.service args) (createInvite pg.toEnvironment.service args) := by
  unfold createInvite
  refine follows_readRoom (Idle.refl h) args.roomId fun reply hroom h₁ => ?_
  cases reply with
  | fail reason => exact .ret (h₁.answered _)
  | ok room =>
    dsimp only
    split
    · exact .ret (h₁.answered _)
    · refine follows_now h₁ fun h₂ => ?_
      refine follows_given .createInviteToken pg.createInviteToken (fun _ => rfl) (fun _ => rfl) h₂
        fun h₃ => ?_
      refine follows_given .inviteId pg.inviteId (fun _ => rfl) (fun _ => rfl) h₃ fun h₄ => ?_
      refine follows_saveInvite hdigest h₄.mirrors hwf h₂.moment ?_ ?_ ?_ fun tables hmirrors => ?_
      · rfl
      · rfl
      · exact ⟨room, hroom room rfl⟩
      · exact follows_audit hmirrors (by simp) fun s' t' hnext _ => .ret (.ok hnext _)

/-- An invite that the actor may revoke is stored. -/
theorem follows_readAuthorizedInvite (actorId inviteId : String) (h : Mirrors pg s t)
    {f f' : Reply Invite → Service α}
    (hf : ∀ reply s' t', (∀ invite, reply = .ok invite → t.store.invites.get inviteId = some invite ∧
        ∃ room, t.store.rooms.get invite.roomId = some room) →
      Idle pg s t s' t' → pg.Follows namesPlayer quits post (f reply) (f' reply) s' t') :
    pg.Follows namesPlayer quits post (readAuthorizedInvite actorId inviteId .revokeInvite >>= f)
      (readAuthorizedInvite actorId inviteId .revokeInvite >>= f') s t := by
  unfold readAuthorizedInvite
  refine follows_readInvite (Idle.refl h) inviteId fun reply hinvite h₁ => ?_
  cases reply with
  | fail reason => exact hf _ _ _ (fun _ h => nomatch h) h₁
  | ok invite =>
    refine follows_readRoom h₁ invite.roomId fun reply hroom h₂ => ?_
    cases reply with
    | fail reason => exact hf _ _ _ (fun _ h => nomatch h) h₂
    | ok room =>
      by_cases hactor : (!canActorPerform .host (some .revokeInvite) (hostContext actorId room.hostId)) = true
      · simp only [Prog.bind, if_pos hactor]
        exact hf _ _ _ (fun _ h => nomatch h) h₂
      · simp only [Prog.bind, if_neg hactor]
        refine hf _ _ _ (fun other hother => ?_) h₂
        obtain rfl := by simpa using hother
        exact ⟨hinvite _ rfl, room, hroom room rfl⟩

/-- The invite that is stored is revoked. -/
theorem follows_revokeInvite (hdigest : HexDigests pg.sha256) (h : Mirrors pg s t) {m : Nat}
    (hwf : Tables.Wf pg.toEnvironment m t.store.tables) {inviteId : String} {invite : Invite}
    (hstored : t.store.invites.get inviteId = some invite) (revokedAt : Int) {f f' : Reply (Option Invite) → Service α}
    (hf : ∀ reply tables, Mirrors pg (s.write tables) (t.write (t.store.saveInvite pg.sha256 (invite.revoke revokedAt))) →
      pg.Follows namesPlayer quits post (f (.ok reply)) (f' (.ok reply)) (s.write tables)
        (t.write (t.store.saveInvite pg.sha256 (invite.revoke revokedAt)))) :
    pg.Follows namesPlayer quits post (Service.saveInvite (invite.revoke revokedAt) >>= f)
      (Service.saveInvite (invite.revoke revokedAt) >>= f') s t := by
  obtain ⟨hid, n, -, hname, htoken⟩ := hwf.invite inviteId invite hstored
  rw [← hid] at hstored hname
  refine follows_written (.saveInvite _) rfl (fun hid => saved_of_ne hid)
    (h.revokeInvite hstored htoken (hdigest.given _) revokedAt) (fun hregular _ => ?_)
    fun tables hmirrors => hf _ tables hmirrors
  rw [hname]
  exact hregular.inviteId _

theorem revokeInvite_agrees (hdigest : HexDigests pg.sha256) (h : Mirrors pg s t)
    (hwf : Tables.Wf pg.toEnvironment t.moment t.store.tables) (args : RevokeInvite) :
    pg.Agrees namesPlayer s t (revokeInvite pg.service args) (revokeInvite pg.toEnvironment.service args) := by
  unfold revokeInvite
  refine follows_readAuthorizedInvite _ _ h fun reply s₁ t₁ hinvite h₁ => ?_
  cases reply with
  | fail reason => exact .ret (h₁.answered _)
  | ok invite =>
    refine follows_now h₁ fun h₂ => ?_
    obtain ⟨hstored, -⟩ := hinvite invite rfl
    rw [← h₂.store] at hstored hwf
    refine follows_revokeInvite hdigest h₂.mirrors hwf hstored _ fun reply tables hmirrors => ?_
    exact follows_audit hmirrors (by simp) fun s' t' hnext _ => .ret (.ok hnext _)

theorem regenerateInvite_agrees (hdigest : HexDigests pg.sha256) (h : Mirrors pg s t)
    (hwf : Tables.Wf pg.toEnvironment t.moment t.store.tables) (args : RegenerateInvite) :
    pg.Agrees namesPlayer s t (regenerateInvite pg.service args) (regenerateInvite pg.toEnvironment.service args) := by
  unfold regenerateInvite
  refine follows_readAuthorizedInvite _ _ h fun reply s₁ t₁ hinvite h₁ => ?_
  cases reply with
  | fail reason => exact .ret (h₁.answered _)
  | ok invite =>
    refine follows_now h₁ fun h₂ => ?_
    obtain ⟨hstored, room, hroom⟩ := hinvite invite rfl
    rw [← h₂.store] at hstored hwf hroom
    refine follows_revokeInvite hdigest h₂.mirrors hwf hstored _ fun reply tables hmirrors => ?_
    -- The records are well formed with the old invite revoked, so a new one may be added to them.
    have hact : Act pg.toEnvironment t₁.tick
        (t₁.tick.write (t₁.tick.store.saveInvite pg.sha256 (invite.revoke (pg.clock t₁.moment)))) :=
      .revoke args.inviteId invite (pg.clock t₁.moment) hstored (Nat.le_succ _) rfl
    have hrevoked := (hwf.mono h₂.moment).act hact
    have h₃ := Idle.refl hmirrors
    refine follows_given .createInviteToken pg.createInviteToken (fun _ => rfl) (fun _ => rfl) h₃
      fun h₄ => ?_
    refine follows_given .inviteId pg.inviteId (fun _ => rfl) (fun _ => rfl) h₄ fun h₅ => ?_
    refine follows_saveInvite hdigest h₅.mirrors hrevoked.1.wf h₃.moment ?_ ?_ ?_ fun tables hmirrors => ?_
    · rfl
    · rfl
    · exact ⟨room, hroom⟩
    · exact follows_audit hmirrors (by simp) fun s' t' hnext _ => .ret (.ok hnext _)

theorem joinRequestSignals_given (inviteId : String) (args : CreateJoinRequest) :
    ∀ signal ∈ joinRequestSignals inviteId args, signal.1 ≠ "" ∧ signal.2 ≠ "" := by
  intro signal hsignal
  obtain ⟨hmem, hgiven⟩ := List.mem_filter.1 hsignal
  refine ⟨?_, by simpa using hgiven⟩
  simp only [List.mem_cons, List.not_mem_nil, or_false] at hmem
  rcases hmem with rfl | rfl | rfl <;> simp

theorem createJoinRequest_agrees (hdigest : HexDigests pg.sha256) (h : Mirrors pg s t)
    (hwf : Tables.Wf pg.toEnvironment t.moment t.store.tables) (args : CreateJoinRequest) :
    pg.Agrees args.minecraftUuid.isSome s t (createJoinRequest pg.service args)
      (createJoinRequest pg.toEnvironment.service args) := by
  unfold createJoinRequest
  refine follows_readInviteByToken (Idle.refl h) args.inviteToken fun reply hinvite h₁ => ?_
  cases reply with
  | fail reason => exact .ret (h₁.answered _)
  | ok invite =>
    refine follows_readRoom h₁ invite.roomId fun reply hroom h₂ => ?_
    cases reply with
    | fail reason => exact .quit ⟨rfl, h₂.tables⟩
    | ok room =>
      refine follows_isRoomAvailable h₂ room rfl fun _ => ?_
      refine Follows.bind (applyJoinRequestRateLimits_follows hdigest h₂.mirrors (joinRequestSignals_given _ _)) ?_
      rintro reply s₃ t₃ ⟨h₃, hlater, hopen⟩
      cases reply with
      | fail reason => exact .ret ⟨h₃, fun hclosed => absurd (by cases hclosed; rfl) hopen⟩
      | ok _ =>
        refine follows_given .approvalId pg.approvalId (fun _ => rfl) (fun _ => rfl) (Idle.refl h₃)
          fun h₄ => follows_now h₄ fun h₅ => ?_
        have hsince := h₂.later.trans (hlater.trans h₅.later)
        have hnew : t₃.tick.tick.store.approvals.get (pg.approvalId t₃.moment) = none := by
          rw [hsince.approvals]
          exact get_fresh pg.approvalId_fresh (fun k approval hk => (hwf.approval k approval hk).2)
            (h₂.later.trans hlater).moment
        have hroom' := hroom room rfl
        have hinvite' := hinvite invite rfl
        rw [← hsince.rooms] at hroom'
        rw [← hsince.invites] at hinvite'
        refine follows_written (.saveApproval _) rfl (fun hid => saved_of_ne hid)
          (h₅.mirrors.saveApproval hnew ?_ ?_) (fun hregular hplayer => ⟨hregular.approvalId _, hplayer⟩)
          fun tables hmirrors => .ret (.ok hmirrors _)
        · exact ⟨room, h₅.mirrors.rooms.mem_of_get hroom'⟩
        · exact ⟨invite, (h₅.mirrors.invites.mem_of_get hinvite').1, rfl, rfl⟩

/-- A session that was prepared for a request, under a name made since moment `m`. -/
structure PreparedFor (pg : PostgresEnvironment) (m : Nat) (approval : Approval) (session : Session) : Prop where
  id : ∃ n, m ≤ n ∧ session.id = pg.sessionId n
  request : session.requestId = approval.id
  room : session.roomId = approval.roomId
  invite : session.inviteId = approval.inviteId
  player : session.minecraftUuid = approval.minecraftUuid

theorem prepareSessionForApproval_follows (h : Idle pg s₀ t₀ s t) (approval : Approval) (room : Room)
    (minecraftUuid sessionCredential : Option String) :
    pg.Follows namesPlayer (Closed s₀)
      (fun reply s' t' => Idle pg s₀ t₀ s' t' ∧
        ∀ prepared, reply = .ok prepared → PreparedFor pg t₀.moment approval prepared.sessionRecord)
      (prepareSessionForApproval pg.service approval room minecraftUuid sessionCredential)
      (prepareSessionForApproval pg.toEnvironment.service approval room minecraftUuid sessionCredential) s t := by
  unfold prepareSessionForApproval
  by_cases huuid : (approval.minecraftUuid != minecraftUuid) = true
  · rw [if_pos huuid, if_pos huuid]
    exact .ret ⟨h, fun _ h => nomatch h⟩
  · rw [if_neg huuid, if_neg huuid]
    refine follows_readInvite h approval.inviteId fun reply _ h₁ => ?_
    cases reply with
    | fail reason => exact .ret ⟨h₁, fun _ h => nomatch h⟩
    | ok invite =>
      refine follows_now h₁ fun h₂ => ?_
      by_cases hactive : (!isInviteActive invite (pg.clock t.tick.moment)) = true
      · rw [if_pos hactive, if_pos hactive]
        exact .ret ⟨h₂, fun _ h => nomatch h⟩
      · rw [if_neg hactive, if_neg hactive]
        refine follows_isRoomAvailable h₂ room rfl fun _ => ?_
        refine follows_now h₂ fun h₃ => follows_checkSessionQuota h₃ _ fun reply s₄ t₄ h₄ => ?_
        cases reply with
        | fail reason => exact .ret ⟨h₄, fun _ h => nomatch h⟩
        | ok _ =>
          refine follows_now h₄ fun h₅ => ?_
          refine follows_given .sessionId pg.sessionId (fun _ => rfl) (fun _ => rfl) h₅ fun h₆ => ?_
          refine .ret ⟨h₆, fun prepared hprepared => ?_⟩
          cases hprepared
          exact ⟨⟨_, h₅.moment, rfl⟩, rfl, rfl, rfl, (by simpa using huuid : approval.minecraftUuid = _).symm⟩

theorem prepareIfApproved_follows (h : Idle pg s₀ t₀ s t) (approval : Approval) (room : Room)
    (args : DecideJoinRequest) :
    pg.Follows namesPlayer (Closed s₀)
      (fun reply s' t' => Idle pg s₀ t₀ s' t' ∧
        ∀ prepared, reply = .ok (some prepared) → PreparedFor pg t₀.moment approval prepared.sessionRecord)
      (prepareIfApproved pg.service approval room args) (prepareIfApproved pg.toEnvironment.service approval room args)
      s t := by
  unfold prepareIfApproved
  split
  · refine Follows.bind_quits (prepareSessionForApproval_follows h approval room _ _) ?_ ?_
    · rintro reply s' ⟨rfl, htables⟩
      exact ⟨_, rfl, rfl, htables⟩
    · rintro reply s' t' ⟨hidle, hprepared⟩
      refine .ret ⟨hidle, fun prepared hreply => hprepared prepared ?_⟩
      cases reply with
      | fail reason => cases hreply
      | ok prepared' =>
        obtain rfl : prepared' = prepared := by simpa using hreply
        rfl
  · exact .ret ⟨h, fun _ h => nomatch h⟩

/-- A session for a request that was decided and had none. -/
theorem follows_saveSession {approval : Approval} (decision : ApprovalState) (decidedAt : Int)
    (hwf : Tables.Wf pg.toEnvironment t₀.moment t₀.store.tables)
    (happroval : t₀.store.approvals.get approval.id = some approval) (hpending : approval.state = .pending)
    (h : Mirrors pg s t) (hsessions : t.store.sessions = t₀.store.sessions)
    (hroom : ∃ room, t.store.rooms.get approval.roomId = some room)
    (hdecided : t.store.approvals.get approval.id = some (approval.decide decision decidedAt)) {session : Session}
    (hprepared : PreparedFor pg t₀.moment approval session) {f f' : Reply (Option Session) → Service α}
    (hf : ∀ reply s' t', Mirrors pg s' t' → pg.Follows namesPlayer quits post (f (.ok reply)) (f' (.ok reply)) s' t') :
    pg.Follows namesPlayer quits post (Service.saveSession session >>= f) (Service.saveSession session >>= f') s t := by
  obtain ⟨n, hn, hid⟩ := hprepared.id
  have hnew : t.store.sessions.get session.id = none := by
    rw [hsessions, hid]
    exact get_fresh pg.sessionId_fresh (fun k session hk => (hwf.session k session hk).1) hn
  have hrequest : ∀ id other, t.store.sessions.get id = some other → other.requestId ≠ session.requestId := by
    intro id other hother hsame
    rw [hsessions] at hother
    obtain ⟨-, approved, happroved, hstate, -⟩ := hwf.session id other hother
    rw [hsame, hprepared.request] at happroved
    cases happroval.symm.trans happroved
    rw [hpending] at hstate
    cases hstate
  obtain ⟨room, hroom⟩ := hroom
  obtain ⟨hmem, -⟩ := h.approvals.mem_of_get hdecided
  have huuid : session.minecraftUuid.isSome = true := by
    rw [hprepared.player]
    exact h.uuid (approval.decide decision decidedAt) hmem
  refine follows_written (.saveSession _) rfl (fun hid => saved_of_ne hid)
    (h.saveSession hnew hrequest ?_ ?_ huuid) (fun hregular _ => ?_) fun tables hmirrors => hf _ _ _ hmirrors
  · rw [hprepared.room]
    exact ⟨room, h.rooms.mem_of_get hroom⟩
  · rw [hprepared.request, hprepared.room, hprepared.invite]
    exact ⟨_, hmem, rfl, rfl, rfl⟩
  · rw [hid]
    exact hregular.sessionId _

theorem decideJoinRequest_agrees (h : Mirrors pg s t) (hwf : Tables.Wf pg.toEnvironment t.moment t.store.tables)
    (args : DecideJoinRequest) :
    pg.Agrees namesPlayer s t (decideJoinRequest pg.service args)
      (decideJoinRequest pg.toEnvironment.service args) := by
  unfold decideJoinRequest
  by_cases hdecision : (!hostDecisions.contains args.decision) = true
  · rw [if_pos hdecision, if_pos hdecision]
    exact .ret ((Idle.refl h).answered _)
  rw [if_neg hdecision, if_neg hdecision]
  refine follows_readApproval (Idle.refl h) args.requestId fun reply happroval h₁ => ?_
  cases reply with
  | fail reason => exact .ret (h₁.answered _)
  | ok approval =>
    refine follows_readRoom h₁ approval.roomId fun reply hroom h₂ => ?_
    cases reply with
    | fail reason => exact .ret (h₂.answered _)
    | ok room =>
      dsimp only
      split
      · exact .ret (h₂.answered _)
      split
      · exact .ret (h₂.answered _)
      rename_i hpending
      have hpending : approval.state = .pending := by simpa using hpending
      refine follows_now h₂ fun h₃ => ?_
      refine Follows.bind_quits (prepareIfApproved_follows h₃ _ room args) ?_ ?_
      · rintro reply s' ⟨rfl, htables⟩
        exact ⟨_, rfl, rfl, htables⟩
      rintro reply s₄ t₄ ⟨h₄, hprepared⟩
      cases reply with
      | fail reason => exact .ret (h₄.answered _)
      | ok prepared =>
        have hstored := happroval approval rfl
        obtain ⟨hid, n, -, hname⟩ := hwf.approval args.requestId approval hstored
        rw [← hid] at hstored hname
        have hstored₄ := hstored
        rw [← h₄.store] at hstored₄
        refine follows_written (.saveApproval _) rfl (fun hid => saved_of_ne hid)
          (h₄.mirrors.decideApproval hstored₄ args.decision (pg.clock t.tick.tick.moment)) (fun hregular _ => ?_)
          fun tables hmirrors => ?_
        · rw [hname]
          exact hregular.approvalId _
        refine follows_audit hmirrors (by simp) fun s₅ t₅ h₅ hlater => ?_
        cases prepared with
        | none => exact .ret (.ok h₅ _)
        | some prepared =>
          obtain ⟨hname', hrequest, hroom', hinvite, hplayer⟩ := hprepared prepared rfl
          refine Follows.bind (M := fun reply s' t' => Mirrors pg s' t' ∧ reply.isOk = true) ?_
            fun reply s' t' hnext => ?_
          · unfold savePreparedSession
            have hsessions : t₅.store.sessions = t.store.sessions :=
              hlater.sessions.trans (congrArg MemoryStore.sessions h₄.store :)
            refine follows_saveSession args.decision (pg.clock t.tick.tick.moment) hwf hstored hpending h₅ hsessions ?_ ?_
              ⟨hname', hrequest, hroom', hinvite, hplayer⟩ fun reply s' t' hnext => .ret ⟨hnext, rfl⟩
            · refine ⟨room, ?_⟩
              rw [hlater.rooms]
              exact (congrArg (fun store => store.rooms.get approval.roomId) h₄.store).trans (hroom room rfl)
            · rw [hlater.approvals]
              exact JsMap.get_set_self _ _ _
          · obtain ⟨hmirrors', hok⟩ := hnext
            cases reply with
            | fail reason => cases hok
            | ok session => exact .ret (.ok hmirrors' _)

/-- Every operation agrees. -/
theorem operation_agrees (hdigest : HexDigests pg.sha256) (h : Mirrors pg s t)
    (hwf : Tables.Wf pg.toEnvironment t.moment t.store.tables) (request : Request) :
    pg.Agrees request.namesPlayer s t (operation pg.service request) (operation pg.toEnvironment.service request) := by
  cases request with
  | createRoom args => exact createRoom_agrees h hwf args
  | createInvite args => exact createInvite_agrees hdigest h hwf args
  | revokeInvite args => exact revokeInvite_agrees hdigest h hwf args
  | regenerateInvite args => exact regenerateInvite_agrees hdigest h hwf args
  | createJoinRequest args => exact createJoinRequest_agrees hdigest h hwf args
  | decideJoinRequest args => exact decideJoinRequest_agrees h hwf args

/-! ### Requests -/

namespace PostgresEnvironment

theorem moment_le_written {β : Type} (answer : β) (w : PostgresWorld) (result : Except WriteError PostgresTables) :
    w.moment ≤ (written answer w result).2.moment := by
  cases result <;> exact Nat.le_succ _

theorem moment_le_found {β : Type} (record : Option β) (state : ErrorState) (w : PostgresWorld) :
    w.moment ≤ (found record state w).2.moment := by
  cases record <;> exact Nat.le_succ _

theorem moment_le_asked {β : Type} (fits : Bool) {w w' : PostgresWorld} {answer : Except String β × PostgresWorld}
    (hw : w.moment ≤ w'.moment) (hanswer : w.moment ≤ answer.2.moment) :
    w.moment ≤ (asked fits w' answer).2.moment := by
  cases fits with
  | true => exact hanswer
  | false => exact hw

theorem moment_le_handler (pg : PostgresEnvironment) (op : Call) (w : PostgresWorld) :
    w.moment ≤ (pg.handler op w).2.moment := by
  cases op with
  | saveRoom record => exact moment_le_written _ _ _
  | saveInvite record => exact moment_le_written _ _ _
  | saveApproval record => exact moment_le_written _ _ _
  | saveSession record => exact moment_le_written _ _ _
  | recordAuditEvent event => exact moment_le_written _ _ _
  | readRoom roomId => exact moment_le_asked _ (Nat.le_succ _) (moment_le_found _ _ _)
  | readInvite inviteId => exact moment_le_asked _ (Nat.le_succ _) (moment_le_found _ _ _)
  | readInviteByToken token => exact moment_le_asked _ (Nat.le_succ _) (Nat.le_succ _)
  | readApproval approvalId => exact moment_le_asked _ (Nat.le_succ _) (moment_le_found _ _ _)
  | readPresence roomId => exact moment_le_asked _ le_rfl le_rfl
  | incrementRateLimitCounter request =>
    unfold handler
    dsimp only
    split <;> exact Nat.le_succ _
  | _ => exact Nat.le_succ _

theorem moment_le_exec (pg : PostgresEnvironment) (p : Service α) (w : PostgresWorld) :
    w.moment ≤ (p.exec pg.handler w).2.moment := by
  induction p generalizing w with
  | ret a => exact le_rfl
  | throw m => exact le_rfl
  | call op k ih =>
    have hop := moment_le_handler pg op w
    rcases hr : pg.handler op w with ⟨m | r, w'⟩
    · rw [hr] at hop
      rw [Prog.exec_call_error hr]
      exact hop
    · rw [hr] at hop
      rw [Prog.exec_call_ok hr]
      exact hop.trans (ih r w')

end PostgresEnvironment

/-- How a request over the repository ends: as it does over the memory store, or with nothing written. -/
inductive EndsOver (pg : PostgresEnvironment) (request : Request) (s : PostgresWorld) (t : World) :
    Except String (Reply Response) × PostgresWorld → Prop
  | answered (reply : Reply Response) (s' : PostgresWorld) (t' : World) (opened : reply ≠ failWith .roomClosed)
      (memory : pg.toEnvironment.perform t request = (.ok reply, t')) (mirrors : Mirrors pg s' t') :
      EndsOver pg request s t (.ok reply, s')
  | closed (s' : PostgresWorld) (tables : s'.tables = s.tables) (moment : s.moment ≤ s'.moment) :
      EndsOver pg request s t (.ok (failWith .roomClosed), s')
  | thrown (m : String) (s' : PostgresWorld) (tables : s'.tables = s.tables) (moment : s.moment ≤ s'.moment)
      (excused : pg.Excused request.namesPlayer m) : EndsOver pg request s t (.error m, s')

theorem perform_over (hdigest : HexDigests pg.sha256) (h : Mirrors pg s t)
    (hwf : Tables.Wf pg.toEnvironment t.moment t.store.tables) (request : Request) :
    EndsOver pg request s t (pg.perform s request) := by
  have hagrees := operation_agrees hdigest h hwf request
  have hmoment := PostgresEnvironment.moment_le_exec pg (operation pg.service request) s
  unfold PostgresEnvironment.perform serviceTransaction
  rcases hrun : (operation pg.service request).exec pg.handler s with ⟨m | reply, s'⟩
  · rw [hrun] at hmoment
    exact .thrown m _ rfl hmoment (hagrees.excused_of_exec hrun)
  · rw [hrun] at hmoment
    rcases hagrees.of_exec hrun with ⟨rfl, htables⟩ | ⟨t', hmemory, hmirrors, hclosed⟩
    · exact .closed s' htables hmoment
    · by_cases hreply : reply = failWith .roomClosed
      · subst hreply
        exact .closed s' (hclosed rfl) hmoment
      · refine .answered reply s' t' hreply ?_ hmirrors
        rw [Environment.perform_eq]
        exact hmemory

/-! ### Runs -/

/-- What the service is used for: requests, and the presence of hosts. -/
inductive ServiceInput
  | request (request : Request)
  | savePresence (record : PresenceRow)
  deriving DecidableEq, Repr

def PostgresEnvironment.step (pg : PostgresEnvironment) (w : PostgresWorld) :
    ServiceInput → Option (Except String (Reply Response)) × PostgresWorld
  | .request request =>
    let (out, w') := pg.perform w request
    (some out, w')
  | .savePresence record =>
    match w.tables.savePresence pg.columns record with
    | .ok tables => (none, ⟨tables, w.moment⟩)
    | .error _ => (none, w)

/-- A request over the memory store, or some calls of the clock and the generators that come to nothing. -/
inductive Turn
  | request (request : Request)
  | pause (calls : Nat)
  deriving DecidableEq, Repr

def Environment.turn (env : Environment) (w : World) : Turn → Option (Except String (Reply Response)) × World
  | .request request =>
    let (out, w') := env.perform w request
    (some out, w')
  | .pause calls => (none, ⟨w.store, w.moment + calls⟩)

/-- A request of a run over the repository that is answered, other than by a closed room, with its answer. -/
def answeredRequest (fired : Machine.Fired PostgresWorld ServiceInput (Option (Except String (Reply Response)))) :
    Option (Request × Except String (Reply Response)) :=
  match fired.input, fired.output with
  | .request request, some (.ok reply) => if reply = failWith .roomClosed then none else some (request, .ok reply)
  | _, _ => none

/-- A request of a run over the memory store, with how it ends. -/
def performedRequest (fired : Machine.Fired World Turn (Option (Except String (Reply Response)))) :
    Option (Request × Except String (Reply Response)) :=
  match fired.input, fired.output with
  | .request request, some out => some (request, out)
  | _, _ => none

/-- Presence is kept by the repository only. -/
theorem savePresence_mirrors (h : Mirrors pg s t) {record : PresenceRow} {tables : PostgresTables}
    (hsaved : s.tables.savePresence pg.columns record = .ok tables) : Mirrors pg ⟨tables, s.moment⟩ t := by
  unfold PostgresTables.savePresence at hsaved
  rw [demand_bind_eq_ok, demand_bind_eq_ok, Throwing.bind_eq_ok] at hsaved
  obtain ⟨-, -, presence, -, hsaved⟩ := hsaved
  cases hsaved
  exact { h with counters := h.counters.congr rfl rfl }

theorem run_follows (hdigest : HexDigests pg.sha256) (h : Mirrors pg s t)
    (hwf : Tables.Wf pg.toEnvironment t.moment t.store.tables) (inputs : List ServiceInput) :
    ∃ turns, (Machine.trace pg.step s inputs).filterMap answeredRequest =
        (Machine.trace pg.toEnvironment.turn t turns).filterMap performedRequest ∧
      Mirrors pg (Machine.run pg.step s inputs) (Machine.run pg.toEnvironment.turn t turns) ∧
      Tables.Wf pg.toEnvironment (Machine.run pg.toEnvironment.turn t turns).moment
        (Machine.run pg.toEnvironment.turn t turns).store.tables := by
  induction inputs generalizing s t with
  | nil => exact ⟨[], rfl, h, hwf⟩
  | cons input inputs ih =>
    -- A step that writes nothing and is not answered is a pause.
    have hpause : ∀ out s', pg.step s input = (out, s') → s'.tables = s.tables → s.moment ≤ s'.moment →
        answeredRequest ⟨s, input, out, s'⟩ = none →
        ∃ turns, (Machine.trace pg.step s (input :: inputs)).filterMap answeredRequest =
            (Machine.trace pg.toEnvironment.turn t turns).filterMap performedRequest ∧
          Mirrors pg (Machine.run pg.step s (input :: inputs)) (Machine.run pg.toEnvironment.turn t turns) ∧
          Tables.Wf pg.toEnvironment (Machine.run pg.toEnvironment.turn t turns).moment
            (Machine.run pg.toEnvironment.turn t turns).store.tables := by
      intro out s' hstep htables hmoment hnone
      have hmirrors : Mirrors pg s' ⟨t.store, t.moment + (s'.moment - s.moment)⟩ := by
        refine h.later htables rfl ?_ (Nat.le_add_right _ _)
        have := h.moment
        dsimp only
        omega
      obtain ⟨turns, hlog, hrun⟩ := ih hmirrors (hwf.mono (Nat.le_add_right _ _))
      refine ⟨.pause (s'.moment - s.moment) :: turns, ?_, ?_⟩
      · have hfire : answeredRequest (Machine.fire pg.step s input) = none := by
          unfold Machine.fire
          rw [hstep]
          exact hnone
        rw [Machine.trace, List.filterMap_cons_none hfire, hstep, hlog]
        rfl
      · rw [Machine.run_cons, hstep]
        exact hrun
    cases input with
    | savePresence record =>
      cases hsaved : s.tables.savePresence pg.columns record with
      | error error =>
        have hstep : pg.step s (.savePresence record) = (none, s) := by
          simp only [PostgresEnvironment.step, hsaved]
        exact hpause _ _ hstep rfl le_rfl rfl
      | ok tables =>
        have hstep : pg.step s (.savePresence record) = (none, ⟨tables, s.moment⟩) := by
          simp only [PostgresEnvironment.step, hsaved]
        obtain ⟨turns, hlog, hrun⟩ := ih (savePresence_mirrors h hsaved) hwf
        refine ⟨turns, ?_, ?_⟩
        · rw [Machine.trace, List.filterMap_cons_none rfl, hstep]
          exact hlog
        · rw [Machine.run_cons, hstep]
          exact hrun
    | request request =>
      have hends := perform_over hdigest h hwf request
      have hstep : pg.step s (.request request) = (some (pg.perform s request).1, (pg.perform s request).2) := rfl
      generalize pg.perform s request = performed at hends hstep
      cases hends with
      | closed s' tables moment => exact hpause _ _ hstep tables moment (by simp [answeredRequest])
      | thrown m s' tables moment excused => exact hpause _ _ hstep tables moment rfl
      | answered reply s' t' opened memory mirrors =>
        have hturn : pg.toEnvironment.turn t (.request request) = (some (.ok reply), t') := by
          simp only [Environment.turn, memory]
        have hwf' := (hwf.perform request).wf
        rw [memory] at hwf'
        obtain ⟨turns, hlog, hrun⟩ := ih mirrors hwf'
        refine ⟨.request request :: turns, ?_, ?_⟩
        · have hanswered : answeredRequest (Machine.fire pg.step s (.request request)) =
              performedRequest (Machine.fire pg.toEnvironment.turn t (.request request)) := by
            unfold Machine.fire answeredRequest performedRequest
            rw [hstep, hturn]
            exact if_neg opened
          rw [Machine.trace, Machine.trace, List.filterMap_cons, List.filterMap_cons, hanswered, hstep, hturn, hlog]
        · rw [Machine.run_cons, Machine.run_cons, hstep, hturn]
          exact hrun

/-- A request that throws, or finds the room closed, leaves the tables as they were. -/
theorem unanswered_tables (hdigest : HexDigests pg.sha256) (h : Mirrors pg s t)
    (hwf : Tables.Wf pg.toEnvironment t.moment t.store.tables) (request : Request)
    (hnone : answeredRequest (Machine.fire pg.step s (.request request)) = none) :
    (pg.step s (.request request)).2.tables = s.tables := by
  have hends := perform_over hdigest h hwf request
  have hstep : pg.step s (.request request) = (some (pg.perform s request).1, (pg.perform s request).2) := rfl
  unfold Machine.fire at hnone
  generalize pg.perform s request = performed at hends hstep
  rw [hstep] at hnone ⊢
  cases hends with
  | answered reply s' t' opened memory mirrors => cases (if_neg opened).symm.trans hnone
  | closed s' tables moment => exact tables
  | thrown m s' tables moment excused => exact tables

/-- The service over Postgres is the service over the memory store: from the empty tables, whatever requests come and
whatever hosts are present, the requests that are answered, other than by a closed room, are answered as they are over a
memory store that is asked for these and no others, one after the other, and the tables then hold the records of that
store.  The other requests leave the tables as they were. -/
theorem postgres_follows_memory (pg : PostgresEnvironment) (hdigest : HexDigests pg.sha256)
    (inputs : List ServiceInput) :
    (∃ turns, (Machine.trace pg.step .start inputs).filterMap answeredRequest =
        (Machine.trace pg.toEnvironment.turn .start turns).filterMap performedRequest ∧
      Mirrors pg (Machine.run pg.step .start inputs) (Machine.run pg.toEnvironment.turn .start turns)) ∧
    ∀ fired ∈ Machine.trace pg.step .start inputs, ∀ request, fired.input = .request request →
      answeredRequest fired = none → fired.after.tables = fired.before.tables := by
  constructor
  · obtain ⟨turns, hlog, hmirrors, -⟩ := run_follows hdigest (.start pg) .start inputs
    exact ⟨turns, hlog, hmirrors⟩
  · intro fired hfired request hinput hnone
    obtain ⟨earlier, later, -, hfire⟩ := Machine.mem_trace hfired
    obtain ⟨turns, -, hmirrors, hwf⟩ := run_follows hdigest (.start pg) .start earlier
    rw [hinput] at hfire
    rw [hfire] at hnone ⊢
    exact unanswered_tables hdigest hmirrors hwf request hnone

/-- A digest that counts the characters. -/
def countingDigest (text : String) : String := String.ofList (List.replicate (text.length + 1) 'a')

theorem countingDigest_hex : HexDigests countingDigest where
  given text h := by simpa [countingDigest] using congrArg String.length h
  hex text c hc := by
    rw [countingDigest, String.toList_ofList] at hc
    rw [List.eq_of_mem_replicate hc]
    decide

/-- The generators and the clock of `countingEnvironment`, over the repository. -/
def countingPostgres : PostgresEnvironment where
  toEnvironment :=
    { countingEnvironment defaultInviteTtlMs with
      sha256 := countingDigest
      tokenHash_fresh := fun n n' h => by simpa [countingDigest, countingEnvironment, countingName] using congrArg String.length h }
  columns := postgresColumns
  presenceNow n := n

/-- A host opens a room and an invite, shows up, and lets a friend in. -/
def hostedJoin : List ServiceInput :=
  (askedJoin.take 2).map .request ++ [.savePresence ⟨countingName 'r' 2, "host", "online", 0, 1000⟩] ++
    (askedJoin.drop 2).map .request ++ [.request (.decideJoinRequest (hostDecision .approved))]

theorem postgres_follows_memory_join :
    ((Machine.trace countingPostgres.step .start hostedJoin).filterMap answeredRequest).length = 4 ∧
      (∃ turns, (Machine.trace countingPostgres.step .start hostedJoin).filterMap answeredRequest =
          (Machine.trace countingPostgres.toEnvironment.turn .start turns).filterMap performedRequest ∧
        Mirrors countingPostgres (Machine.run countingPostgres.step .start hostedJoin)
          (Machine.run countingPostgres.toEnvironment.turn .start turns)) ∧
      ∀ fired ∈ Machine.trace countingPostgres.step .start hostedJoin, ∀ request, fired.input = .request request →
        answeredRequest fired = none → fired.after.tables = fired.before.tables :=
  ⟨by decide, postgres_follows_memory countingPostgres countingDigest_hex hostedJoin⟩

/-- No constraint of the schema refuses what the service writes: a request that names its player throws at most because
no actor is given or a value does not fit its column. -/
theorem postgres_throws (pg : PostgresEnvironment) (hdigest : HexDigests pg.sha256) (hregular : pg.Regular)
    (inputs : List ServiceInput) :
    ∀ fired ∈ Machine.trace pg.step .start inputs, ∀ request m, fired.input = .request request →
      request.namesPlayer = true → fired.output = some (.error m) → m ∈ expectedErrors := by
  intro fired hfired request m hinput hplayer houtput
  obtain ⟨earlier, later, -, hfire⟩ := Machine.mem_trace hfired
  obtain ⟨turns, -, hmirrors, hwf⟩ := run_follows hdigest (.start pg) .start earlier
  have hends := perform_over hdigest hmirrors hwf request
  have hthrown : (pg.perform (Machine.run pg.step .start earlier) request).1 = .error m := by
    rw [hfire, hinput] at houtput
    exact Option.some.inj houtput
  generalize pg.perform (Machine.run pg.step .start earlier) request = performed at hends hthrown
  cases hends with
  | answered reply s' t' opened memory mirrors => cases hthrown
  | closed s' tables moment => cases hthrown
  | thrown m' s' tables moment excused =>
    cases hthrown
    exact excused hregular hplayer

theorem countingPostgres_regular : countingPostgres.Regular where
  roomId n h := by simpa [countingPostgres, countingEnvironment, countingName] using congrArg String.length h
  inviteId n h := by simpa [countingPostgres, countingEnvironment, countingName] using congrArg String.length h
  approvalId n h := by simpa [countingPostgres, countingEnvironment, countingName] using congrArg String.length h
  sessionId n h := by simpa [countingPostgres, countingEnvironment, countingName] using congrArg String.length h
  auditId := countingName_injective 'e'
  redacts type h := h
  limit := by decide
  window := by decide

theorem postgres_throws_actor : "createRoom requires actorId" ∈ expectedErrors :=
  postgres_throws countingPostgres countingDigest_hex countingPostgres_regular
    [.request (.createRoom ⟨"", none, none, none⟩)] _ List.mem_cons_self _ _ rfl rfl rfl

end EasyMc.ControlPlane
