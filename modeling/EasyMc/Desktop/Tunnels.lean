import EasyMc.Desktop.RoomController

/-!
# One tunnel at a time

`openTunnels` are the tunnels that the calls of a session have opened and that no successful close has reported
closed.  Between the commands of a session the controller holds at most the tunnel that its active room records
(`Tracked`), and every command keeps that, provided it does not provision a room while the recorded tunnel is open.
-/

namespace EasyMc.Desktop.RoomController

open Script (Answered Ends)

/-- A tunnel as the controller knows it: its relay, its id, if the relay gave one, and its room. -/
structure TunnelRef where
  relay : Nat
  id : Option Nat
  roomId : Option String
  deriving DecidableEq, Repr

/-- The call asks a relay to open a tunnel. -/
def isOpening : Call → Bool
  | .openHostTunnel _ _ => true
  | _ => false

/-- The tunnel that a successful call has opened. -/
def openedBy : Answered Call Call.Answer → Option TunnelRef
  | ⟨.openHostTunnel relay request, .fulfilled (some { ok := true, tunnel, .. })⟩ =>
    some { relay, id := tunnel.bind TunnelRecord.id, roomId := request.roomId }
  | _ => none

/-- The call reports the tunnel closed.  A request without a tunnel id names the tunnel of its room. -/
def reportsClosed (call : Answered Call Call.Answer) (tunnel : TunnelRef) : Bool :=
  match call with
  | ⟨.closeHostTunnel relay request, .fulfilled (some { ok := true, .. })⟩ =>
    relay = tunnel.relay && request.tunnelId = tunnel.id && (tunnel.id.isSome || request.roomId = tunnel.roomId)
  | _ => false

def afterCall (tunnels : List TunnelRef) (call : Answered Call Call.Answer) : List TunnelRef :=
  tunnels.filter (fun tunnel => !reportsClosed call tunnel) ++ (openedBy call).toList

/-- The tunnels opened and not yet reported closed, after the calls. -/
def openTunnels (calls : List (Answered Call Call.Answer)) : List TunnelRef := calls.foldl afterCall []

/-- No tunnel is opened while one opened earlier is not reported closed. -/
def OpensOneAtATime (calls : List (Answered Call Call.Answer)) : Prop :=
  ∀ past call rest, calls = past ++ call :: rest → isOpening call.op = true → openTunnels past = []

/-- The tunnel that the active room records. -/
def Records (active : ActiveRoom) (tunnel : TunnelRef) : Prop :=
  active.relay = some tunnel.relay ∧ active.tunnelId = some tunnel.id ∧ active.roomId = tunnel.roomId

instance (active : ActiveRoom) (tunnel : TunnelRef) : Decidable (Records active tunnel) :=
  inferInstanceAs (Decidable (_ ∧ _ ∧ _))

/-- The bridge's answer lets the room be shared. -/
def answersRunning : Outcome (Option RuntimeDto) → Bool
  | .fulfilled runtimeDto => reportsRunning runtimeDto
  | _ => false

/-- The command will provision a room. -/
def provisions {σ : Type} (env : Environment σ) (s : Session σ) : Command → Bool
  | .openRoom openOptions => !s.vars.cleanupPending && answersRunning (env (.openRoom openOptions) s.world).1
  | .restartRoom restartOptions =>
    !s.vars.cleanupPending && answersRunning (env (.restartRoom restartOptions) s.world).1 && !isShared s.vars
  | .statusRoom => answersRunning (env .status s.world).1 && !isShared s.vars
  | _ => false

/-! ### The calls so far -/

theorem openTunnels_concat (calls : List (Answered Call Call.Answer)) (call : Answered Call Call.Answer) :
    openTunnels (calls ++ [call]) = afterCall (openTunnels calls) call := by
  simp [openTunnels]

theorem OpensOneAtATime.concat {calls : List (Answered Call Call.Answer)} {call : Answered Call Call.Answer}
    (h : OpensOneAtATime calls) (hcall : isOpening call.op = true → openTunnels calls = []) :
    OpensOneAtATime (calls ++ [call]) := by
  intro past call' rest heq hopening
  rcases List.eq_nil_or_concat rest with rfl | ⟨rest, last, rfl⟩
  · obtain ⟨rfl, hlast⟩ := List.append_inj' heq rfl
    obtain rfl : call = call' := by simpa using hlast
    exact hcall hopening
  · have hsplit : calls ++ [call] = (past ++ call' :: rest) ++ [last] := by simpa using heq
    obtain ⟨rfl, -⟩ := List.append_inj' hsplit rfl
    exact h past call' rest rfl hopening

theorem OpensOneAtATime.before_opening {calls : List (Answered Call Call.Answer)} (h : OpensOneAtATime calls) {i : Nat}
    {call : Answered Call Call.Answer} (hcall : calls[i]? = some call) (hopening : isOpening call.op = true) :
    openTunnels (calls.take i) = [] := by
  obtain ⟨hlength, rfl⟩ := List.getElem?_eq_some_iff.1 hcall
  refine h _ _ (calls.drop (i + 1)) ?_ hopening
  rw [← List.drop_eq_getElem_cons hlength, List.take_append_drop]

/-- The call neither opens nor closes a tunnel. -/
def isQuiet : Call → Bool
  | .openHostTunnel _ _ => false
  | .closeHostTunnel _ _ => false
  | _ => true

theorem afterCall_quiet {call : Call} (hquiet : isQuiet call = true) (tunnels : List TunnelRef) (answer : call.Answer) :
    afterCall tunnels ⟨call, answer⟩ = tunnels := by
  cases call <;> first | (simp [isQuiet] at hquiet; done) | simp [afterCall, reportsClosed, openedBy]

/-! ### What the controller keeps -/

variable {σ : Type} {env : Environment σ} {A : Answered Call Call.Answer → Prop} {options : Options} {s : Session σ}

/-- Tunnels were opened one at a time, and an open one is recorded with a room. -/
structure Tracked (s : Session σ) : Prop where
  oneAtATime : OpensOneAtATime s.history
  recorded : ∀ tunnel ∈ openTunnels s.history, Records s.vars.active tunnel ∧ isSet tunnel.roomId = true

theorem openTunnels_answer (call : Call) (s : Session σ) :
    openTunnels (s.answer env call).history = afterCall (openTunnels s.history) ⟨call, (env call s.world).1⟩ :=
  openTunnels_concat s.history _

theorem openTunnels_quiet {call : Call} (hquiet : isQuiet call = true) :
    openTunnels (s.answer env call).history = openTunnels s.history := by
  rw [openTunnels_answer, afterCall_quiet hquiet]

namespace Tracked

theorem quiet (h : Tracked s) {call : Call} (hquiet : isQuiet call = true) : Tracked (s.answer env call) := by
  have hopening : isOpening call = false := by
    cases call <;> first | rfl | cases hquiet
  constructor
  · exact h.oneAtATime.concat (by simp [hopening])
  · rw [openTunnels_quiet hquiet]
    exact h.recorded

/-- The relay, the tunnel id and the room are all that is recorded of a tunnel. -/
theorem assign (h : Tracked s) (vars : Variables)
    (hactive : ∀ tunnel, Records s.vars.active tunnel → Records vars.active tunnel) :
    Tracked { s with vars } :=
  ⟨h.oneAtATime, fun tunnel ht => ⟨hactive tunnel (h.recorded tunnel ht).1, (h.recorded tunnel ht).2⟩⟩

/-- Nothing needs to be recorded while nothing is open. -/
theorem of_none (h : OpensOneAtATime s.history) (hnone : openTunnels s.history = []) : Tracked s :=
  ⟨h, by simp [hnone]⟩

/-- Without a relay and a room there is nothing open. -/
theorem none_open (h : Tracked s) (hactive : closableRelay s.vars.active = none) : openTunnels s.history = [] := by
  rw [List.eq_nil_iff_forall_not_mem]
  intro tunnel ht
  obtain ⟨⟨hrelay, -, hroom⟩, hset⟩ := h.recorded tunnel ht
  simp [closableRelay, hrelay, hroom, hset] at hactive

/-- A successful close of the recorded tunnel leaves nothing open. -/
theorem closed (h : Tracked s) {relay : Nat} (hactive : closableRelay s.vars.active = some relay) {reason : String}
    {closed : RelayResult} (hok : closed.ok = true)
    (hanswer : (env (closeCall options s.vars.active reason relay) s.world).1 = .fulfilled (some closed)) :
    openTunnels (s.answer env (closeCall options s.vars.active reason relay)).history = [] := by
  obtain ⟨ok, tunnel, raw⟩ := closed
  obtain rfl : ok = true := hok
  have hnothing : openedBy
      ⟨closeCall options s.vars.active reason relay, .fulfilled (some { ok := true, tunnel, raw })⟩ = none := rfl
  rw [openTunnels_answer, hanswer, afterCall, hnothing, Option.toList_none, List.append_nil,
    List.filter_eq_nil_iff]
  intro t ht
  obtain ⟨⟨hrelay, htunnel, hroom⟩, -⟩ := h.recorded t ht
  have hsame : relay = t.relay := by
    unfold closableRelay at hactive
    rw [hrelay] at hactive
    exact (Option.some.inj (Option.filter_eq_some_iff.1 hactive).1).symm
  simp [reportsClosed, hsame, htunnel, hroom]

/-- An answer to a close that is not ok changes nothing. -/
theorem notClosed (h : Tracked s) {relay : Nat} {request : Relay.CloseTunnelRequest}
    (hanswer : ∀ closed, (env (.closeHostTunnel relay request) s.world).1 = .fulfilled (some closed) →
      closed.ok = false) : Tracked (s.answer env (.closeHostTunnel relay request)) := by
  have hafter : afterCall (openTunnels s.history)
      ⟨.closeHostTunnel relay request, (env (.closeHostTunnel relay request) s.world).1⟩ = openTunnels s.history := by
    rcases hout : (env (.closeHostTunnel relay request) s.world).1 with (_ | closed) | error | error
    · simp [afterCall, reportsClosed, openedBy]
    · have hfailed := hanswer closed hout
      obtain ⟨ok, tunnel, raw⟩ := closed
      obtain rfl : ok = false := hfailed
      simp [afterCall, reportsClosed, openedBy]
    · simp [afterCall, reportsClosed, openedBy]
    · simp [afterCall, reportsClosed, openedBy]
  constructor
  · exact h.oneAtATime.concat (by simp [isOpening])
  · rw [openTunnels_answer, hafter]
    exact h.recorded

end Tracked

theorem closeRelayTunnel_tracked (h : Tracked s) (reason : String) :
    Ends env A (closeRelayTunnel options reason) s fun out s' =>
      Tracked s' ∧
        ∀ snapshot, out = .ok snapshot → relayCloseSucceeded snapshot = true → openTunnels s'.history = [] := by
  refine ends_closeRelayTunnel ?_ ?_ ?_ ?_
  · intro hactive snapshot _
    have hnone := h.none_open hactive
    exact ⟨Tracked.of_none h.oneAtATime hnone, fun _ _ _ => hnone⟩
  · intro relay closed hactive hanswer _
    by_cases hok : ∃ result, closed = some result ∧ result.ok = true
    · obtain ⟨result, rfl, hok⟩ := hok
      have hnone := h.closed hactive hok hanswer
      have hone : OpensOneAtATime (s.answer env (closeCall options s.vars.active reason relay)).history :=
        h.oneAtATime.concat fun hopening => nomatch hopening
      exact ⟨Tracked.of_none hone hnone, fun _ _ _ => hnone⟩
    · have hfailed : ∀ result, closed = some result → result.ok = false := by
        intro result hresult
        by_contra hnot
        exact hok ⟨result, hresult, by simpa using hnot⟩
      constructor
      · refine (h.notClosed fun result hresult => hfailed result ?_).assign _ fun _ ht => ht
        rw [hanswer] at hresult
        exact Outcome.fulfilled.inj hresult
      · rintro snapshot hsnapshot hsucceeded
        obtain rfl : closeSnapshot closed = snapshot := Except.ok.inj hsnapshot
        rcases closed with _ | ⟨ok, tunnel, raw⟩
        · cases hsucceeded
        · obtain rfl : ok = false := hfailed _ rfl
          cases hsucceeded
  · intro relay error _ hanswer
    constructor
    · refine (h.notClosed fun result hresult => ?_).assign _ fun _ ht => ht
      rw [hanswer] at hresult
      cases hresult
    · rintro snapshot hsnapshot hsucceeded
      obtain rfl : closeSnapshot (closeRejected error) = snapshot := Except.ok.inj hsnapshot
      cases hsucceeded
  · intro relay error _ hanswer _
    refine ⟨h.notClosed fun result hresult => ?_, fun _ hout => nomatch hout⟩
    rw [hanswer] at hresult
    cases hresult

/-- A quiet call keeps what is tracked, whatever it answers. -/
private theorem await_tracked (h : Tracked s) {call : Call} (hquiet : isQuiet call = true) :
    Ends env A (await call) s fun _ s' =>
      Tracked s' ∧ s'.vars = s.vars ∧ openTunnels s'.history = openTunnels s.history := by
  refine ends_await_answer.mono ?_
  rintro out s' ⟨rfl, -⟩
  exact ⟨h.quiet hquiet, rfl, openTunnels_quiet hquiet⟩

private theorem awaitCatch_tracked (h : Tracked s) {call : Call} (hquiet : isQuiet call = true)
    (f : JsError → call.Value) :
    Ends env A (awaitCatch call f) s fun _ s' =>
      Tracked s' ∧ s'.vars = s.vars ∧ openTunnels s'.history = openTunnels s.history := by
  refine ends_awaitCatch_answer.mono ?_
  rintro out s' rfl
  exact ⟨h.quiet hquiet, rfl, openTunnels_quiet hquiet⟩

theorem revokeInvite_tracked (h : Tracked s) :
    Ends env A (revokeInvite options) s fun _ s' =>
      Tracked s' ∧ s'.vars = s.vars ∧ openTunnels s'.history = openTunnels s.history := by
  unfold revokeInvite
  apply Ends.read_bind
  rw [Script.ends_ite]
  constructor
  · exact fun _ => (awaitCatch_tracked h rfl _).bind (fun _ _ h' => h') fun _ _ h' => h'
  · exact fun _ => ⟨h, rfl, rfl⟩

/-- A room that is closed gives up its tunnel and revokes its invite; if the close succeeds, no tunnel is open. -/
private theorem closing_tracked {α : Type} (h : Tracked s) {reason : String} {f : RelaySnapshot → Controller α}
    (hf : ∀ relayClosed s', Tracked s' → (relayCloseSucceeded relayClosed = true → openTunnels s'.history = []) →
      Ends env A (f relayClosed) s' fun _ s'' => Tracked s'') :
    Ends env A
      (closeRelayTunnel options reason >>= fun relayClosed => revokeInvite options >>= fun _ => f relayClosed) s
      fun _ s' => Tracked s' := by
  refine (closeRelayTunnel_tracked h _).bind ?_ fun _ _ h₁ => h₁.1
  rintro relayClosed s₁ ⟨h₁, hclosed⟩
  refine (revokeInvite_tracked h₁).bind ?_ fun _ _ h₂ => h₂.1
  rintro - s₂ ⟨h₂, -, hopen⟩
  exact hf relayClosed s₂ h₂ fun hsucceeded => hopen.trans (hclosed relayClosed rfl hsucceeded)

theorem clearOpenRoomSideEffects_tracked (h : Tracked s) :
    Ends env A (clearOpenRoomSideEffects options) s fun _ s' => Tracked s' := by
  unfold clearOpenRoomSideEffects
  refine closing_tracked h fun relayClosed s₂ h₂ hnone => ?_
  apply Ends.write_bind
  rw [Script.ends_ite]
  constructor
  · exact fun hsucceeded => Tracked.of_none h₂.oneAtATime (hnone hsucceeded)
  · exact fun _ => h₂.assign _ fun _ ht => ht

theorem failClosed_tracked (h : Tracked s) (runtimeDto : Option RuntimeDto) (reason : FailureReason)
    (cause : Option Json) :
    Ends env A (failClosed options runtimeDto reason cause) s fun _ s' => Tracked s' := by
  unfold failClosed
  refine (clearOpenRoomSideEffects_tracked h).bind ?_ fun _ _ h₁ => h₁
  intro relayClosed s₁ h₁
  refine (awaitCatch_tracked h₁ rfl _).bind ?_ fun _ _ h₂ => h₂.1
  exact fun _ _ h₂ => h₂.1

theorem provisionInvite_tracked (h : Tracked s) (runtimeDto : Option RuntimeDto) (room : RoomRef) :
    Ends env A (provisionInvite options runtimeDto room) s fun _ s' => Tracked s' := by
  unfold provisionInvite
  refine (await_tracked h rfl).attempt_bind ?_
  rintro (error | inviteResult) s₁ ⟨h₁, -, -⟩
  · exact failClosed_tracked h₁ _ _ _
  · dsimp only
    rcases usableInvite (normalizeInviteResult inviteResult) with _ | invite
    · exact failClosed_tracked h₁ _ _ _
    · apply Ends.write_bind
      refine (await_tracked ?_ rfl).attempt_bind ?_
      · exact h₁.assign _ fun _ ht => ht
      · rintro (error | -) s₂ ⟨h₂, -, -⟩
        · exact failClosed_tracked h₂ _ _ _
        · exact h₂

/-- With nothing open, opening a tunnel opens the one that its answer names, in the relay that is then recorded. -/
theorem openTunnel_tracked (h : Tracked s) (hnone : openTunnels s.history = []) (room : RoomRef)
    (hroom : s.vars.active.roomId = room.id) (commandOptions : Json) :
    Ends env A (openTunnel options room commandOptions) s fun out s' =>
      OpensOneAtATime s'.history ∧
        match out with
        | .error _ => openTunnels s'.history = []
        | .ok relayOpened => s'.vars.active.roomId = room.id ∧ ∃ relay, s'.vars.active.relay = some relay ∧
            openTunnels s'.history = ((relayOpened.filter RelayResult.ok).map fun relayOpened =>
              { relay, id := relayOpened.tunnel.bind TunnelRecord.id, roomId := room.id }).toList := by
  unfold openTunnel
  refine (await_tracked h rfl).bind ?_ fun _ _ h₁ => ⟨h₁.1.oneAtATime, h₁.2.2.trans hnone⟩
  rintro hostToken s₁ ⟨h₁, hvars₁, hopen₁⟩
  apply Ends.write_bind
  have hnone₁ : openTunnels s₁.history = [] := hopen₁.trans hnone
  refine (await_tracked ?_ rfl).bind ?_ fun _ _ h₂ => ⟨h₂.1.oneAtATime, h₂.2.2.trans hnone₁⟩
  · exact Tracked.of_none h₁.oneAtATime hnone₁
  · rintro relay s₂ ⟨h₂, hvars₂, hopen₂⟩
    apply Ends.write_bind
    have hnone₂ : openTunnels s₂.history = [] := hopen₂.trans hnone₁
    have hone : ∀ call answer, OpensOneAtATime (s₂.history ++ [⟨call, answer⟩]) :=
      fun _ _ => h₂.oneAtATime.concat fun _ => hnone₂
    rcases relay with _ | relay
    · exact ⟨h₂.oneAtATime, hnone₂⟩
    · refine ends_await ?_ ?_ ?_
      · intro relayOpened hanswer _
        refine ⟨hone _ _, ?_, relay, rfl, ?_⟩
        · change s₂.vars.active.roomId = _
          rw [hvars₂, ← hroom, ← hvars₁]
        · rw [openTunnels_answer, hanswer, hnone₂]
          rcases relayOpened with _ | ⟨_ | _, tunnel, raw⟩
          · rfl
          · rfl
          · rfl
      · intro error hanswer _
        refine ⟨hone _ _, ?_⟩
        rw [openTunnels_answer, hanswer, hnone₂]
        rfl
      · intro error hanswer _
        refine ⟨hone _ _, ?_⟩
        rw [openTunnels_answer, hanswer, hnone₂]
        rfl

theorem provisionRelay_tracked (h : Tracked s) (hnone : openTunnels s.history = []) (runtimeDto : Option RuntimeDto)
    (room : RoomRef) (hroom : s.vars.active.roomId = room.id) (hset : isSet room.id = true) (commandOptions : Json) :
    Ends env A (provisionRelay options runtimeDto room commandOptions) s fun _ s' => Tracked s' := by
  unfold provisionRelay
  refine (openTunnel_tracked h hnone room hroom commandOptions).attempt_bind ?_
  rintro (error | relayOpened) s₁ ⟨hone, hopen⟩
  · exact failClosed_tracked (Tracked.of_none hone hopen) _ _ _
  · obtain ⟨hroom₁, relay, hrelay, hopen⟩ := hopen
    dsimp only
    rcases hresult : relayOpened.filter RelayResult.ok with _ | result
    · rw [hresult] at hopen
      exact failClosed_tracked (Tracked.of_none hone hopen) _ _ _
    · apply Ends.write_bind
      apply provisionInvite_tracked
      refine ⟨hone, fun tunnel ht => ?_⟩
      rw [hresult] at hopen
      obtain rfl : tunnel = { relay, id := result.tunnel.bind TunnelRecord.id, roomId := room.id } := by
        simpa [hopen] using ht
      exact ⟨⟨hrelay, rfl, hroom₁⟩, hset⟩

theorem provisionOpenRoom_tracked (h : Tracked s) (hnone : openTunnels s.history = [])
    (runtimeDto : Option RuntimeDto) (commandOptions : Json) :
    Ends env A (provisionOpenRoom options runtimeDto commandOptions) s fun _ s' => Tracked s' := by
  unfold provisionOpenRoom
  refine (await_tracked h rfl).attempt_bind ?_
  rintro (error | roomResult) s₁ ⟨h₁, -, hopen⟩
  · exact failClosed_tracked h₁ _ _ _
  · dsimp only
    have hnone₁ : openTunnels s₁.history = [] := hopen.trans hnone
    rcases hroom : Option.filter (fun room : RoomRef => isSet room.id) (normalizeRoomResult roomResult) with _ | room
    · exact failClosed_tracked h₁ _ _ _
    · apply Ends.write_bind
      have hset : isSet room.id = true := (Option.filter_eq_some_iff.1 hroom).2
      refine provisionRelay_tracked ?_ ?_ runtimeDto room rfl hset commandOptions
      · exact Tracked.of_none h₁.oneAtATime hnone₁
      · exact hnone₁

/-! ### Commands -/

theorem closeRoom_tracked (h : Tracked s) (closeOptions : Json) :
    Ends env A (closeRoom options closeOptions) s fun _ s' => Tracked s' := by
  unfold closeRoom
  refine closing_tracked h fun relayClosed s₂ h₂ hnone => ?_
  apply Ends.write_bind
  refine (await_tracked ?_ rfl).bind ?_ fun _ _ h₃ => h₃.1
  · exact h₂.assign _ fun _ ht => ht
  · rintro closed s₃ ⟨h₃, -, hopen₃⟩
    rw [Script.ends_ite]
    constructor
    · exact fun hsucceeded => Tracked.of_none h₃.oneAtATime (hopen₃.trans (hnone hsucceeded))
    · exact fun _ => h₃.assign _ fun _ ht => ht

/-- What follows a bridge's answer: a running room may be provisioned, and else something else is done. -/
private theorem bridge_tracked (h : Tracked s) {call : Call} (hquiet : isQuiet call = true)
    {f : call.Value → Controller RoomDto}
    (hf : ∀ value s', Tracked s' → s'.vars = s.vars → openTunnels s'.history = openTunnels s.history →
      (env call s.world).1 = .fulfilled value → Ends env A (f value) s' fun _ s' => Tracked s') :
    Ends env A (await call >>= f) s fun _ s' => Tracked s' := by
  refine ends_await_answer.bind ?_ ?_
  · rintro value s' ⟨rfl, -, hfulfilled, -⟩
    exact hf value _ (h.quiet hquiet) rfl (openTunnels_quiet hquiet) (hfulfilled value rfl)
  · rintro error s' ⟨rfl, -⟩
    exact h.quiet hquiet

/-- A command keeps one tunnel at a time if it provisions a room only when the recorded tunnel is closed. -/
theorem command_tracked (h : Tracked s) (command : Command)
    (hclosed : provisions env s command = true → ∀ tunnel ∈ openTunnels s.history, ¬ Records s.vars.active tunnel) :
    Ends env A (command.script options) s fun _ s' => Tracked s' := by
  have hnone : provisions env s command = true → openTunnels s.history = [] := by
    intro hprovisions
    rw [List.eq_nil_iff_forall_not_mem]
    exact fun tunnel ht => hclosed hprovisions tunnel ht (h.recorded tunnel ht).1
  cases command with
  | prepareRoom prepareOptions => exact bridge_tracked h rfl fun _ _ h₁ _ _ _ => h₁
  | openRoom openOptions =>
    apply Ends.read_bind
    rw [Script.ends_ite]
    refine ⟨fun _ => h, fun hpending => bridge_tracked h rfl ?_⟩
    intro opened s₁ h₁ hvars hopen hanswer
    rw [Script.ends_ite]
    refine ⟨fun hrunning => ?_, fun _ => h₁⟩
    have hprovisions : provisions env s (.openRoom openOptions) = true := by
      simp [provisions, hpending, hanswer, answersRunning, hrunning]
    exact provisionOpenRoom_tracked h₁ (hopen.trans (hnone hprovisions)) _ _
  | closeRoom closeOptions => exact closeRoom_tracked h closeOptions
  | restartRoom restartOptions =>
    apply Ends.read_bind
    rw [Script.ends_ite]
    refine ⟨fun _ => h, fun hpending => bridge_tracked h rfl ?_⟩
    intro restarted s₁ h₁ hvars hopen hanswer
    rw [Script.ends_ite]
    constructor
    · intro hrunning
      apply Ends.read_bind
      rw [Script.ends_ite, hvars]
      refine ⟨fun _ => h₁, fun hshared => ?_⟩
      have hprovisions : provisions env s (.restartRoom restartOptions) = true := by
        simp [provisions, hpending, hanswer, answersRunning, hrunning, hshared]
      exact provisionOpenRoom_tracked h₁ (hopen.trans (hnone hprovisions)) _ _
    · intro _
      refine (clearOpenRoomSideEffects_tracked h₁).bind ?_ fun _ _ h₂ => h₂
      exact fun _ _ h₂ => h₂
  | status =>
    refine bridge_tracked h rfl fun runtimeStatus s₁ h₁ _ _ _ => ?_
    apply Ends.read_bind
    rw [Script.ends_ite]
    exact ⟨fun _ => h₁, fun _ => h₁⟩
  | statusRoom =>
    refine bridge_tracked h rfl fun runtimeStatus s₁ h₁ hvars hopen hanswer => ?_
    apply Ends.read_bind
    rw [Script.ends_ite, hvars]
    refine ⟨fun hrunning => ?_, fun _ => h₁⟩
    rw [Script.ends_ite]
    refine ⟨fun _ => h₁, fun hshared => ?_⟩
    have hprovisions : provisions env s .statusRoom = true := by
      simp [provisions, hanswer, answersRunning, hrunning, hshared]
    exact provisionOpenRoom_tracked h₁ (hopen.trans (hnone hprovisions)) _ _

/-- The controller opens one tunnel at a time in every session in which no command provisions a room while the
recorded tunnel is open. -/
theorem opens_one_at_a_time (env : Environment σ) (options : Options) (world : σ) (commands : List Command)
    (hclosed : Machine.Along (step env options)
      (fun s command => provisions env s command = true →
        ∀ tunnel ∈ openTunnels s.history, ¬ Records s.vars.active tunnel)
      (Session.initial world) commands) :
    OpensOneAtATime (Machine.run (step env options) (Session.initial world) commands).history := by
  have hinitial : Tracked (Session.initial world) := Tracked.of_none (by simp [OpensOneAtATime, Session.initial]) rfl
  have htracked : Tracked (Machine.run (step env options) (Session.initial world) commands) :=
    Script.run_invariant (A := fun _ => True) (fun s command h hcommand => command_tracked h command hcommand)
      hinitial hclosed fun _ _ => trivial
  exact htracked.oneAtATime

/-- A bridge whose room is always running, and a relay that numbers its tunnels and closes them if `closes` says so. -/
def runningDependencies (closes : Bool) : Environment Nat := fun call tunnels =>
  match call with
  | .prepareRoom _ | .openRoom _ | .closeRoom _ | .restartRoom _ | .status =>
    (.fulfilled (some { RuntimeDto.empty with state := some .running }), tunnels)
  | .createRoom _ =>
    (.fulfilled (some { ok := some true, room := some { id := some "room-1", state := some "open" },
                        self := { id := none, state := none }, raw := .null }), tunnels)
  | .createInvite _ =>
    (.fulfilled (some { ok := some true, inviteId := none, inviteHandle := none, raw := .null,
                        invite := some { id := some "invite-1", publicHandle := some "handle-1", handle := none,
                                         expiresAt := none },
                        self := { id := none, publicHandle := none, handle := none, expiresAt := none } }), tunnels)
  | .revokeInvite _ => (.fulfilled (some true), tunnels)
  | .heartbeatHost _ => (.fulfilled (), tunnels)
  | .createHostTunnelToken _ => (.fulfilled (some "token-1"), tunnels)
  | .relayFactory _ => (.fulfilled (some 0), tunnels)
  | .openHostTunnel _ request =>
    (.fulfilled (some
      { ok := true, raw := .null,
        tunnel := some { id := some tunnels, hostId := request.hostId, roomId := request.roomId,
                         state := some "open" } }), tunnels + 1)
  | .closeHostTunnel _ request =>
    (.fulfilled (some
      { ok := closes, raw := .null,
        tunnel := some { id := request.tunnelId, hostId := request.hostId, roomId := request.roomId,
                         state := some "closed" } }), tunnels)

def hostOptions : Options :=
  { runtimePlan := none, hostId := some "host-1", inviteBaseUrl := "https://easy-mc.local/invite",
    setInvite := fun base token => some (base ++ "?invite=" ++ token) }

theorem opens_one_at_a_time_reopened :
    OpensOneAtATime (Machine.run (step (runningDependencies true) hostOptions) (Session.initial 0)
      [.openRoom (.obj []), .closeRoom (.obj []), .openRoom (.obj [])]).history :=
  opens_one_at_a_time _ _ _ _ (by decide)

/-- A status poll does not ask whether a cleanup is pending: after a failed close of its tunnel it opens another. -/
theorem status_opens_a_second_tunnel :
    ¬ OpensOneAtATime (Machine.run (step (runningDependencies false) hostOptions) (Session.initial 0)
      [.openRoom (.obj []), .closeRoom (.obj []), .statusRoom]).history := by
  intro h
  generalize hcalls : (Machine.run (step (runningDependencies false) hostOptions) (Session.initial 0)
    [.openRoom (.obj []), .closeRoom (.obj []), .statusRoom]).history = calls at h
  have hopening : (calls[14]?.any fun call => isOpening call.op) = true := by
    rw [← hcalls]
    decide
  have hopen : openTunnels (calls.take 14) ≠ [] := by
    rw [← hcalls]
    decide
  obtain ⟨call, hcall, hopening⟩ := (Option.any_eq_true _ _).1 hopening
  exact hopen (h.before_opening hcall hopening)

end EasyMc.Desktop.RoomController
