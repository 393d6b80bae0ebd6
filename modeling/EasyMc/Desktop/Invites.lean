import EasyMc.Desktop.Tunnels

/-!
# No invite is forgotten

`activeInvites` are the invites that the calls of a session have created and that no revocation has ended.  Between
the commands of a session the controller has at most the invite that its active room records (`Invited`), and every
command keeps that as long as revocations succeed, an invite that is created can be used, and no room is provisioned
while an invite is recorded.
-/

namespace EasyMc.Desktop.RoomController

open Script (Answered Ends)

/-- The invite that a successful call has created, by its id. -/
def createdBy : Answered Call Call.Answer → Option String
  | ⟨.createInvite _, .fulfilled inviteResult⟩ =>
    ((normalizeInviteResult inviteResult).filter fun invite => invite.ok && isSet invite.id).bind NormalizedInvite.id
  | _ => none

/-- The call ends the invite: it is revoked, and the answer says so. -/
def revokes (call : Answered Call Call.Answer) (invite : String) : Bool :=
  match call with
  | ⟨.revokeInvite request, .fulfilled (some true)⟩ => request.inviteId = some invite
  | _ => false

def invitesAfter (invites : List String) (call : Answered Call Call.Answer) : List String :=
  invites.filter (fun invite => !revokes call invite) ++ (createdBy call).toList

/-- The invites created and not yet revoked, after the calls. -/
def activeInvites (calls : List (Answered Call Call.Answer)) : List String := calls.foldl invitesAfter []

/-- The active room records an invite to revoke. -/
def recordsInvite (active : ActiveRoom) : Bool := isSet active.inviteId && isSet active.roomId

/-- A revocation that returns has revoked its invite, and an invite that is created can be used. -/
def accountsForInvites : Answered Call Call.Answer → Bool
  | ⟨.createInvite request, .fulfilled inviteResult⟩ =>
    (createdBy ⟨.createInvite request, .fulfilled inviteResult⟩).isNone ||
      (usableInvite (normalizeInviteResult inviteResult)).isSome
  | ⟨.revokeInvite _, .fulfilled ok⟩ => ok == some true
  | ⟨.revokeInvite _, .rejected _⟩ => false
  | _ => true

/-! ### The calls so far -/

/-- The call neither creates nor revokes an invite. -/
def isOtherCall : Call → Bool
  | .createInvite _ => false
  | .revokeInvite _ => false
  | _ => true

theorem invitesAfter_other {call : Call} (hother : isOtherCall call = true) (invites : List String)
    (answer : call.Answer) : invitesAfter invites ⟨call, answer⟩ = invites := by
  cases call <;> first | (simp [isOtherCall] at hother; done) | simp [invitesAfter, revokes, createdBy]

variable {σ : Type} {env : Environment σ} {options : Options} {s : Session σ}

theorem activeInvites_answer (call : Call) (s : Session σ) :
    activeInvites (s.answer env call).history =
      invitesAfter (activeInvites s.history) ⟨call, (env call s.world).1⟩ := by
  simp [activeInvites, Script.Session.answer, Script.Log.answer]

theorem activeInvites_other {call : Call} (hother : isOtherCall call = true) :
    activeInvites (s.answer env call).history = activeInvites s.history := by
  rw [activeInvites_answer, invitesAfter_other hother]

/-! ### What the controller keeps -/

/-- An active invite is recorded, with a room. -/
def Invited (s : Session σ) : Prop :=
  ∀ invite ∈ activeInvites s.history, s.vars.active.inviteId = some invite ∧ recordsInvite s.vars.active = true

namespace Invited

theorem of_none (hnone : activeInvites s.history = []) : Invited s := by
  simp [Invited, hnone]

/-- The recorded invite and the room are all that is recorded of an invite. -/
theorem assign (h : Invited s) {s' : Session σ} (hactive : activeInvites s'.history = activeInvites s.history)
    (hinvite : s'.vars.active.inviteId = s.vars.active.inviteId)
    (hroom : s'.vars.active.roomId = s.vars.active.roomId) : Invited s' := by
  intro invite hmem
  rw [hactive] at hmem
  obtain ⟨hrecorded, hset⟩ := h invite hmem
  refine ⟨hinvite.trans hrecorded, ?_⟩
  rw [recordsInvite, hinvite, hroom]
  exact hset

/-- Where no invite is recorded, none is active. -/
theorem none_active (h : Invited s) (hrecords : recordsInvite s.vars.active = false) :
    activeInvites s.history = [] := by
  rw [List.eq_nil_iff_forall_not_mem]
  intro invite hmem
  have hset := (h invite hmem).2
  rw [hrecords] at hset
  cases hset

end Invited

/-- Any other call is awaited without a change to the invites. -/
private theorem await_invited {A : Answered Call Call.Answer → Prop} {call : Call} (hother : isOtherCall call = true) :
    Ends env A (await call) s fun _ s' =>
      s'.vars = s.vars ∧ activeInvites s'.history = activeInvites s.history :=
  ends_await_answer.mono fun _ _ h => by
    rw [h.1]
    exact ⟨rfl, activeInvites_other hother⟩

private theorem awaitCatch_invited {A : Answered Call Call.Answer → Prop} {call : Call}
    (hother : isOtherCall call = true) (f : JsError → call.Value) :
    Ends env A (awaitCatch call f) s fun _ s' =>
      s'.vars = s.vars ∧ activeInvites s'.history = activeInvites s.history :=
  ends_awaitCatch_answer.mono fun _ _ h => by
    rw [h]
    exact ⟨rfl, activeInvites_other hother⟩

theorem closeRelayTunnel_invited {A : Answered Call Call.Answer → Prop} (reason : String) :
    Ends env A (closeRelayTunnel options reason) s fun _ s' =>
      s'.vars.active = s.vars.active ∧ activeInvites s'.history = activeInvites s.history := by
  refine ends_closeRelayTunnel ?_ ?_ ?_ ?_
  · exact fun _ _ _ => ⟨rfl, rfl⟩
  · exact fun _ _ _ _ _ => ⟨rfl, activeInvites_other rfl⟩
  · exact fun _ _ _ _ => ⟨rfl, activeInvites_other rfl⟩
  · exact fun _ _ _ _ _ => ⟨rfl, activeInvites_other rfl⟩

/-- A revocation that returns leaves no invite active, and one that throws changes nothing. -/
theorem revokeInvite_invited (h : Invited s) :
    Ends env (accountsForInvites ·) (revokeInvite options) s fun out s' =>
      s'.vars = s.vars ∧
        match out with
        | .ok _ => activeInvites s'.history = []
        | .error _ => activeInvites s'.history = activeInvites s.history := by
  unfold revokeInvite
  apply Ends.read_bind
  rw [Script.ends_ite]
  constructor
  · intro _
    rw [Script.ends_bind]
    refine ends_awaitCatch ?_ ?_ ?_
    · intro ok hanswer haccounts
      refine ⟨rfl, ?_⟩
      have hok : ok = some true := by simpa [accountsForInvites] using haccounts
      have hnothing : createdBy
          ⟨.revokeInvite { actorId := options.hostId, inviteId := s.vars.active.inviteId }, .fulfilled (some true)⟩ =
            none := rfl
      rw [activeInvites_answer, hanswer, hok, invitesAfter, hnothing, Option.toList_none, List.append_nil,
        List.filter_eq_nil_iff]
      intro invite hmem
      simp [revokes, (h invite hmem).1]
    · intro error _ haccounts
      cases haccounts
    · intro error hanswer _
      refine ⟨rfl, ?_⟩
      rw [activeInvites_answer, hanswer]
      simp [invitesAfter, revokes, createdBy]
  · intro hrecords
    exact ⟨rfl, h.none_active (by simpa [recordsInvite] using hrecords)⟩

/-- A room that is closed gives up its tunnel and revokes its invite; what follows is done where no invite is left. -/
private theorem closing_invited {α : Type} (h : Invited s) {reason : String} {f : RelaySnapshot → Controller α}
    (hf : ∀ relayClosed s', activeInvites s'.history = [] →
      Ends env (accountsForInvites ·) (f relayClosed) s' fun _ s'' => Invited s'') :
    Ends env (accountsForInvites ·)
      (closeRelayTunnel options reason >>= fun relayClosed => revokeInvite options >>= fun _ => f relayClosed) s
      fun _ s' => Invited s' := by
  have hkeeps : ∀ s' : Session σ, s'.vars.active = s.vars.active →
      activeInvites s'.history = activeInvites s.history → Invited s' :=
    fun s' hactive hinvites => h.assign hinvites (by rw [hactive]) (by rw [hactive])
  refine (closeRelayTunnel_invited _).bind ?_ fun _ s₁ h₁ => hkeeps s₁ h₁.1 h₁.2
  rintro relayClosed s₁ ⟨hactive₁, hinvites₁⟩
  have h₁ : Invited s₁ := hkeeps s₁ hactive₁ hinvites₁
  refine (revokeInvite_invited h₁).bind ?_ ?_
  · exact fun _ s₂ h₂ => hf relayClosed s₂ h₂.2
  · rintro error s₂ ⟨hvars₂, hinvites₂⟩
    exact h₁.assign hinvites₂ (by rw [hvars₂]) (by rw [hvars₂])

theorem clearOpenRoomSideEffects_invited (h : Invited s) :
    Ends env (accountsForInvites ·) (clearOpenRoomSideEffects options) s fun _ s' => Invited s' := by
  unfold clearOpenRoomSideEffects
  refine closing_invited h fun relayClosed s₂ hnone => ?_
  apply Ends.write_bind
  rw [Script.ends_ite]
  constructor
  · exact fun _ => Invited.of_none hnone
  · exact fun _ => Invited.of_none hnone

theorem failClosed_invited (h : Invited s) (runtimeDto : Option RuntimeDto) (reason : FailureReason)
    (cause : Option Json) :
    Ends env (accountsForInvites ·) (failClosed options runtimeDto reason cause) s fun _ s' => Invited s' := by
  unfold failClosed
  refine (clearOpenRoomSideEffects_invited h).bind ?_ fun _ _ h₁ => h₁
  intro relayClosed s₁ h₁
  have hquiet : ∀ s' : Session σ, s'.vars = s₁.vars → activeInvites s'.history = activeInvites s₁.history →
      Invited s' := fun s' hvars hinvites => h₁.assign hinvites (by rw [hvars]) (by rw [hvars])
  refine (awaitCatch_invited rfl _).bind ?_ fun _ s₂ h₂ => hquiet s₂ h₂.1 h₂.2
  exact fun _ s₂ h₂ => hquiet s₂ h₂.1 h₂.2

/-- With no invite active, the one that is created is recorded, or nothing is created. -/
theorem provisionInvite_invited (hnone : activeInvites s.history = []) (runtimeDto : Option RuntimeDto)
    (room : RoomRef) (hroom : isSet s.vars.active.roomId = true) :
    Ends env (accountsForInvites ·) (provisionInvite options runtimeDto room) s fun _ s' => Invited s' := by
  unfold provisionInvite
  refine ends_await_answer.attempt_bind ?_
  rintro out s₁ ⟨rfl, haccounts, hfulfilled, hfailed⟩
  have hcreated :
      activeInvites (s.answer env (.createInvite { actorId := options.hostId, roomId := room.id })).history =
        (createdBy ⟨_, (env (.createInvite { actorId := options.hostId, roomId := room.id }) s.world).1⟩).toList := by
    rw [activeInvites_answer, hnone]
    rfl
  rcases out with error | inviteResult
  · refine failClosed_invited (Invited.of_none ?_) _ _ _
    rw [hcreated]
    rcases hfailed error rfl with hanswer | hanswer
    · rw [hanswer]
      rfl
    · rw [hanswer]
      rfl
  · have hanswer := hfulfilled inviteResult rfl
    rw [hanswer] at haccounts hcreated
    dsimp only
    rcases husable : usableInvite (normalizeInviteResult inviteResult) with _ | invite
    · refine failClosed_invited (Invited.of_none ?_) _ _ _
      rw [hcreated]
      simpa [accountsForInvites, husable] using haccounts
    · apply Ends.write_bind
      obtain ⟨hnormalized, hset⟩ := Option.filter_eq_some_iff.1 husable
      simp only [Bool.and_eq_true] at hset
      obtain ⟨⟨hok, hid⟩, -⟩ := hset
      refine (await_invited rfl).attempt_bind ?_
      rintro out s₂ ⟨hvars₂, hinvites₂⟩
      have hrecorded : Invited s₂ := by
        intro created hmem
        rw [hinvites₂] at hmem
        change created ∈ activeInvites (s.answer env _).history at hmem
        rw [hcreated] at hmem
        have hsame : invite.id = some created := by
          simpa [createdBy, hnormalized, Option.filter_some, hok, hid] using hmem
        rw [hvars₂]
        refine ⟨hsame, ?_⟩
        change (isSet invite.id && isSet s.vars.active.roomId) = true
        rw [hid, hroom]
        rfl
      rcases out with error | -
      · exact failClosed_invited hrecorded _ _ _
      · exact hrecorded

/-- Opening a tunnel neither creates nor revokes an invite. -/
theorem openTunnel_invited {A : Answered Call Call.Answer → Prop} (room : RoomRef) (commandOptions : Json) :
    Ends env A (openTunnel options room commandOptions) s fun _ s' =>
      s'.vars.active.roomId = s.vars.active.roomId ∧ activeInvites s'.history = activeInvites s.history := by
  unfold openTunnel
  refine (await_invited rfl).bind ?_ fun _ _ h₁ => ⟨by rw [h₁.1], h₁.2⟩
  rintro hostToken s₁ ⟨hvars₁, hinvites₁⟩
  apply Ends.write_bind
  refine (await_invited rfl).bind ?_ ?_
  · rintro relay s₂ ⟨hvars₂, hinvites₂⟩
    apply Ends.write_bind
    have hroom₂ : s₂.vars.active.roomId = s.vars.active.roomId := by rw [hvars₂, ← hvars₁]
    have hsame : activeInvites s₂.history = activeInvites s.history := hinvites₂.trans hinvites₁
    rcases relay with _ | relay
    · exact ⟨hroom₂, hsame⟩
    · refine (await_invited rfl).mono ?_
      rintro out s₃ ⟨hvars₃, hinvites₃⟩
      refine ⟨?_, hinvites₃.trans hsame⟩
      rw [hvars₃]
      exact hroom₂
  · rintro error s₂ ⟨hvars₂, hinvites₂⟩
    exact ⟨by rw [hvars₂, ← hvars₁], hinvites₂.trans hinvites₁⟩

theorem provisionRelay_invited (hnone : activeInvites s.history = []) (runtimeDto : Option RuntimeDto) (room : RoomRef)
    (hroom : isSet s.vars.active.roomId = true) (commandOptions : Json) :
    Ends env (accountsForInvites ·) (provisionRelay options runtimeDto room commandOptions) s fun _ s' =>
      Invited s' := by
  unfold provisionRelay
  refine (openTunnel_invited room commandOptions).attempt_bind ?_
  rintro (error | relayOpened) s₁ ⟨hroom₁, hinvites₁⟩
  · exact failClosed_invited (Invited.of_none (hinvites₁.trans hnone)) _ _ _
  · dsimp only
    rcases relayOpened.filter RelayResult.ok with _ | result
    · exact failClosed_invited (Invited.of_none (hinvites₁.trans hnone)) _ _ _
    · apply Ends.write_bind
      apply provisionInvite_invited
      · exact hinvites₁.trans hnone
      · change isSet s₁.vars.active.roomId = true
        rw [hroom₁]
        exact hroom

theorem provisionOpenRoom_invited (hnone : activeInvites s.history = []) (runtimeDto : Option RuntimeDto)
    (commandOptions : Json) :
    Ends env (accountsForInvites ·) (provisionOpenRoom options runtimeDto commandOptions) s fun _ s' =>
      Invited s' := by
  unfold provisionOpenRoom
  refine (await_invited rfl).attempt_bind ?_
  rintro (error | roomResult) s₁ ⟨-, hinvites₁⟩
  · exact failClosed_invited (Invited.of_none (hinvites₁.trans hnone)) _ _ _
  · dsimp only
    rcases hroom : Option.filter (fun room : RoomRef => isSet room.id) (normalizeRoomResult roomResult) with _ | room
    · exact failClosed_invited (Invited.of_none (hinvites₁.trans hnone)) _ _ _
    · apply Ends.write_bind
      have hset : isSet room.id = true := (Option.filter_eq_some_iff.1 hroom).2
      apply provisionRelay_invited
      · exact hinvites₁.trans hnone
      · exact hset

/-! ### Commands -/

theorem closeRoom_invited (h : Invited s) (closeOptions : Json) :
    Ends env (accountsForInvites ·) (closeRoom options closeOptions) s fun _ s' => Invited s' := by
  unfold closeRoom
  refine closing_invited h fun relayClosed s₂ hnone => ?_
  apply Ends.write_bind
  refine (await_invited rfl).bind ?_ fun _ _ h₃ => Invited.of_none (h₃.2.trans hnone)
  rintro closed s₃ ⟨-, hinvites₃⟩
  have hnone₃ : activeInvites s₃.history = [] := hinvites₃.trans hnone
  rw [Script.ends_ite]
  constructor
  · exact fun _ => Invited.of_none hnone₃
  · exact fun _ => Invited.of_none hnone₃

/-- What follows a bridge's answer. -/
private theorem bridge_invited (h : Invited s) {call : Call} (hother : isOtherCall call = true)
    {f : call.Value → Controller RoomDto}
    (hf : ∀ value s', Invited s' → s'.vars = s.vars → (env call s.world).1 = .fulfilled value →
      Ends env (accountsForInvites ·) (f value) s' fun _ s' => Invited s') :
    Ends env (accountsForInvites ·) (await call >>= f) s fun _ s' => Invited s' := by
  have hquiet : Invited (s.answer env call) := h.assign (activeInvites_other hother) rfl rfl
  refine ends_await_answer.bind ?_ ?_
  · rintro value s' ⟨rfl, -, hfulfilled, -⟩
    exact hf value _ hquiet rfl (hfulfilled value rfl)
  · rintro error s' ⟨rfl, -, -, -⟩
    exact hquiet

/-- A command forgets no invite if it provisions a room only while no invite is recorded. -/
theorem command_invited (h : Invited s) (command : Command)
    (hrecords : provisions env s command = true → recordsInvite s.vars.active = false) :
    Ends env (accountsForInvites ·) (command.script options) s fun _ s' => Invited s' := by
  have hprovision : ∀ s₁ : Session σ, Invited s₁ → s₁.vars = s.vars → provisions env s command = true →
      ∀ runtimeDto commandOptions, Ends env (accountsForInvites ·) (provisionOpenRoom options runtimeDto commandOptions)
        s₁ fun _ s' => Invited s' := by
    intro s₁ h₁ hvars hprovisions runtimeDto commandOptions
    have hnone : activeInvites s₁.history = [] := h₁.none_active (by rw [hvars]; exact hrecords hprovisions)
    exact provisionOpenRoom_invited hnone runtimeDto commandOptions
  cases command with
  | prepareRoom prepareOptions => exact bridge_invited h rfl fun _ _ h₁ _ _ => h₁
  | openRoom openOptions =>
    apply Ends.read_bind
    rw [Script.ends_ite]
    refine ⟨fun _ => h, fun hpending => bridge_invited h rfl ?_⟩
    intro opened s₁ h₁ hvars hanswer
    rw [Script.ends_ite]
    refine ⟨fun hrunning => hprovision s₁ h₁ hvars ?_ _ _, fun _ => h₁⟩
    simp [provisions, hpending, hanswer, answersRunning, hrunning]
  | closeRoom closeOptions => exact closeRoom_invited h closeOptions
  | restartRoom restartOptions =>
    apply Ends.read_bind
    rw [Script.ends_ite]
    refine ⟨fun _ => h, fun hpending => bridge_invited h rfl ?_⟩
    intro restarted s₁ h₁ hvars hanswer
    rw [Script.ends_ite]
    constructor
    · intro hrunning
      apply Ends.read_bind
      rw [Script.ends_ite, hvars]
      refine ⟨fun _ => h₁, fun hshared => hprovision s₁ h₁ hvars ?_ _ _⟩
      simp [provisions, hpending, hanswer, answersRunning, hrunning, hshared]
    · intro _
      refine (clearOpenRoomSideEffects_invited h₁).bind ?_ fun _ _ h₂ => h₂
      exact fun _ _ h₂ => h₂
  | status =>
    refine bridge_invited h rfl fun runtimeStatus s₁ h₁ _ _ => ?_
    apply Ends.read_bind
    rw [Script.ends_ite]
    exact ⟨fun _ => h₁, fun _ => h₁⟩
  | statusRoom =>
    refine bridge_invited h rfl fun runtimeStatus s₁ h₁ hvars hanswer => ?_
    apply Ends.read_bind
    rw [Script.ends_ite, hvars]
    refine ⟨fun hrunning => ?_, fun _ => h₁⟩
    rw [Script.ends_ite]
    refine ⟨fun _ => h₁, fun hshared => hprovision s₁ h₁ hvars ?_ _ _⟩
    simp [provisions, hanswer, answersRunning, hrunning, hshared]

end EasyMc.Desktop.RoomController
