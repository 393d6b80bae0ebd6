import EasyMc.ControlPlane.MemoryStore

/-!
# The shared steps of the operations over the memory store

`Tables` holds the stored rooms, invites, approvals and sessions, and `Later` says that a step has left them alone.
A call of the handler that is no save is such a step, and so are the steps that the operations share: the audit, the
quota checks, the availability of the room and the rate limits (`audit_ends`, `isRoomAvailable_ends` and so on).
-/

namespace EasyMc.ControlPlane

open Await (Prog)

/-- The maps that hold rooms, invites, approvals and sessions. -/
structure Tables where
  rooms : JsMap String Room
  invites : JsMap String Invite
  inviteTokenIndex : JsMap String String
  approvals : JsMap String Approval
  sessions : JsMap String Session

def MemoryStore.tables (store : MemoryStore) : Tables :=
  ⟨store.rooms, store.invites, store.inviteTokenIndex, store.approvals, store.sessions⟩

/-- Nothing but rate-limit counters and audit events changed from `w` to `w'`. -/
structure Later (w w' : World) : Prop where
  tables : w'.store.tables = w.store.tables
  moment : w.moment ≤ w'.moment

namespace Later

theorem refl (w : World) : Later w w := ⟨rfl, le_rfl⟩

theorem trans {w₁ w₂ w₃ : World} (h : Later w₁ w₂) (h' : Later w₂ w₃) : Later w₁ w₃ :=
  ⟨h'.tables.trans h.tables, h.moment.trans h'.moment⟩

theorem tick (w : World) : Later w w.tick := ⟨rfl, Nat.le_succ _⟩

variable {w w' : World}

theorem rooms (h : Later w w') : w'.store.rooms = w.store.rooms := congrArg Tables.rooms h.tables

theorem invites (h : Later w w') : w'.store.invites = w.store.invites := congrArg Tables.invites h.tables

theorem approvals (h : Later w w') : w'.store.approvals = w.store.approvals := congrArg Tables.approvals h.tables

theorem sessions (h : Later w w') : w'.store.sessions = w.store.sessions := congrArg Tables.sessions h.tables

end Later

/-! ### Saves depend on the tables only -/

namespace MemoryStore

variable {s t : MemoryStore}

theorem saveRoom_tables (h : s.tables = t.tables) (record : Room) :
    (s.saveRoom record).tables = (t.saveRoom record).tables := by
  simp only [tables, Tables.mk.injEq] at h
  simp only [tables, saveRoom, h]

theorem saveInvite_tables (h : s.tables = t.tables) (sha256 : String → String) (record : Invite) :
    (s.saveInvite sha256 record).tables = (t.saveInvite sha256 record).tables := by
  simp only [tables, Tables.mk.injEq] at h
  simp only [tables, saveInvite, h]

theorem saveApproval_tables (h : s.tables = t.tables) (record : Approval) :
    (s.saveApproval record).tables = (t.saveApproval record).tables := by
  simp only [tables, Tables.mk.injEq] at h
  simp only [tables, saveApproval, h]

theorem saveSession_tables (h : s.tables = t.tables) (sha256 : String → String) (record : Session) :
    (s.saveSession sha256 record).tables = (t.saveSession sha256 record).tables := by
  simp only [tables, Tables.mk.injEq] at h
  simp only [tables, saveSession, h]

theorem incrementRateLimitCounter_tables (sha256 : String → String) (now : Int) (request : RateLimitRequest)
    (s : MemoryStore) : (s.incrementRateLimitCounter sha256 now request).2.tables = s.tables := by
  unfold incrementRateLimitCounter
  split <;> rfl

end MemoryStore

/-! ### The answers of the handler -/

namespace Environment

variable {env : Environment} {w w' : World}

theorem found_ok {α : Type} {record : Option α} {state : ErrorState} {reply : Reply α}
    (h : found record state w = (.ok reply, w')) : w' = w.tick ∧ ∀ a, reply = .ok a → record = some a := by
  unfold found at h
  split at h
  · obtain ⟨rfl, rfl⟩ := by simpa using h
    exact ⟨rfl, fun a ha => by simpa using ha⟩
  · obtain ⟨rfl, rfl⟩ := by simpa using h
    exact ⟨rfl, fun _ h => nomatch h⟩

theorem found_later {α : Type} {record : Option α} {state : ErrorState} {out : Except String (Reply α)}
    (h : found record state w = (out, w')) : Later w w' := by
  unfold found at h
  split at h
  all_goals
    obtain ⟨-, rfl⟩ := Prod.mk.inj h
    exact Later.tick w

theorem saved_ok {α : Type} {id kind : String} {answer reply : α} {store : MemoryStore}
    (h : saved id kind answer w store = (.ok reply, w')) : reply = answer ∧ w' = w.write store := by
  unfold saved at h
  split at h
  · simp at h
  · simpa [eq_comm] using h

/-- A call that is not a save changes no table. -/
theorem handler_later {op : Call} {out : Except String (Call.Answer op)} (h : env.handler op w = (out, w'))
    (hop : op.isSave = false) : Later w w' := by
  cases op <;> simp only [Call.isSave, Bool.true_eq_false] at hop
  case readRoom => exact found_later h
  case readInvite => exact found_later h
  case readApproval => exact found_later h
  case incrementRateLimitCounter request =>
    obtain rfl := congrArg Prod.snd h
    exact ⟨MemoryStore.incrementRateLimitCounter_tables _ _ _ _, Nat.le_succ _⟩
  case recordAuditEvent event =>
    simp only [handler] at h
    split at h
    · obtain ⟨-, rfl⟩ := Prod.mk.inj h
      exact Later.tick w
    · obtain ⟨-, rfl⟩ := Prod.mk.inj h
      exact ⟨rfl, Nat.le_succ _⟩
  all_goals
    obtain ⟨-, rfl⟩ := Prod.mk.inj h
    exact Later.tick w

private theorem saved_error {α : Type} {id kind m : String} {answer : α} {store : MemoryStore}
    (h : saved id kind answer w store = (.error m, w')) : Later w w' := by
  unfold saved at h
  split at h
  · obtain ⟨-, rfl⟩ := Prod.mk.inj h
    exact Later.tick w
  · cases h

/-- A call that throws changes no table. -/
theorem handler_error {op : Call} {m : String} (h : env.handler op w = (.error m, w')) : Later w w' := by
  cases hop : op.isSave
  · exact handler_later h hop
  · cases op <;> simp only [Call.isSave, Bool.false_eq_true] at hop
    all_goals exact saved_error h

/-- A call run alone: it is answered, or it throws and changes no table. -/
theorem ends_call {op : Call} {α : Type} {f : Call.Answer op → Service α} {post : Except String α → World → Prop}
    (hok : ∀ r w', env.handler op w = (.ok r, w') → Prog.Ends env.handler (f r) w' post)
    (herror : ∀ m w', Later w w' → post (.error m) w') :
    Prog.Ends env.handler (Prog.perform op >>= f) w post :=
  .perform_bind hok fun m w' h => herror m w' (handler_error h)

/-- A call answered without a write. -/
theorem ends_tick {op : Call} {α : Type} {f : Call.Answer op → Service α} {post : Except String α → World → Prop}
    {r : Call.Answer op} (hr : env.handler op w = (.ok r, w.tick))
    (hok : Prog.Ends env.handler (f r) w.tick post) : Prog.Ends env.handler (Prog.perform op >>= f) w post :=
  .answered hr hok

/-! ### The shared steps -/

theorem audit_ends (event : AuditEvent) (w : World) :
    Prog.Ends env.handler (audit env.service event) w fun _ w' => Later w w' := by
  unfold audit
  split
  · exact .perform (fun r w' h => handler_later h rfl) fun m w' h => handler_later h rfl
  · exact Later.refl w

theorem checkRoomQuota_ends (context : RoomQuotaContext) (w : World) :
    Prog.Ends env.handler (callHook env.service.hasCheckRoomQuota (Service.checkRoomQuota context)) w
      fun _ w' => Later w w' := by
  unfold callHook
  split
  · refine ends_tick rfl ?_
    split <;> exact Later.tick w
  · exact Later.refl w

theorem checkSessionQuota_ends (context : SessionQuotaContext) (w : World) :
    Prog.Ends env.handler (callHook env.service.hasCheckSessionQuota (Service.checkSessionQuota context)) w
      fun _ w' => Later w w' := by
  unfold callHook
  split
  · refine ends_tick rfl ?_
    split <;> exact Later.tick w
  · exact Later.refl w

/-- The memory store keeps no presence, so a room is available when it is open. -/
theorem isRoomAvailable_ends (room : Room) (w : World) :
    Prog.Ends env.handler (isRoomAvailable env.service room) w
      fun out w' => w' = w ∧ out = .ok (isRoomOpen room) := by
  unfold isRoomAvailable
  by_cases h : isRoomOpen room <;> simp [h, Environment.service, Prog.Ends]

theorem readAuthorizedInvite_ends (actorId inviteId : String) (w : World) :
    Prog.Ends env.handler (readAuthorizedInvite actorId inviteId .revokeInvite) w fun out w' =>
      Later w w' ∧ ∀ invite, out = .ok (.ok invite) → w.store.invites.get inviteId = some invite := by
  unfold readAuthorizedInvite
  refine ends_call ?_ fun m w' h => ⟨h, fun _ h => nomatch h⟩
  intro reply w₁ h₁
  obtain ⟨rfl, hinvite⟩ := found_ok h₁
  cases reply with
  | fail _ => exact ⟨Later.tick w, fun _ h => nomatch h⟩
  | ok invite =>
    refine ends_call ?_ fun m w' h => ⟨(Later.tick w).trans h, fun _ h => nomatch h⟩
    intro reply w₂ h₂
    obtain ⟨rfl, -⟩ := found_ok h₂
    have hlater : Later w w.tick.tick := (Later.tick w).trans (Later.tick _)
    cases reply with
    | fail _ => exact ⟨hlater, fun _ h => nomatch h⟩
    | ok room =>
      dsimp only
      split
      · refine ⟨hlater, ?_⟩
        intro _ h
        cases h
      · refine ⟨hlater, fun invite' h => ?_⟩
        obtain rfl : invite = invite' := by simpa using h
        exact hinvite invite rfl

theorem applyJoinRequestRateLimits_ends (signals : List (String × String)) (w : World) :
    Prog.Ends env.handler (applyJoinRequestRateLimits env.service signals) w fun _ w' => Later w w' := by
  induction signals generalizing w with
  | nil => exact Later.refl w
  | cons signal signals ih =>
    obtain ⟨scope, signal⟩ := signal
    refine ends_call ?_ fun m w' h => h
    intro result w' h
    have hlater : Later w w' := handler_later h rfl
    cases result.outcome with
    | fail _ => exact hlater
    | ok _ => exact (ih w').mono fun _ _ h' => hlater.trans h'

end Environment

end EasyMc.ControlPlane
