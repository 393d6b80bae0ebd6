import EasyMc.Desktop.Tunnels

/-!
# Cleanup with the relays of `createRelaySimulation`

The relays answer `openHostTunnel` and `closeHostTunnel` as `relay-simulation.mjs` does, with any credentials; every
other call is answered in any way and may also change the relays.  A close that finds its tunnel and is authorized
ends with the tunnel closed, and any other close is a failure that leaves the cleanup pending: also the close of a
tunnel that was never opened.
-/

namespace EasyMc.Desktop.RoomController

open Script (Ends Keeps)

/-- A relay of `createRelaySimulation`: its options and its state. -/
structure RelayService where
  options : Relay.Options
  simulation : Relay.Simulation

/-- The relays, and what else the environment keeps. -/
structure RelayWorld (τ : Type) where
  relays : Nat → RelayService
  rest : τ

def RelayWorld.update {τ : Type} (world : RelayWorld τ) (relay : Nat) (simulation : Relay.Simulation) : RelayWorld τ :=
  { world with
    relays := fun other => if other = relay then { world.relays other with simulation } else world.relays other }

def relayReason : Relay.RelayFailureReason → String
  | .unauthenticated => "unauthenticated"
  | .sessionExpired => "session_expired"
  | .crossRoom => "cross_room"
  | .wrongInvite => "wrong_invite"
  | .sessionReplayed => "session_replayed"
  | .wrongUuid => "wrong_uuid"
  | .wrongFriend => "wrong_friend"
  | .wrongHost => "wrong_host"
  | .hostTunnelUnauthorized => "host_tunnel_unauthorized"
  | .hostTunnelConflict => "host_tunnel_conflict"
  | .hostTunnelUnavailable => "host_tunnel_unavailable"
  | .hostTunnelClosed => "host_tunnel_closed"
  | .openProxyBlocked => "open_proxy_blocked"
  | .invalidTransfer => "invalid_transfer"
  | .disconnectRetryExhausted => "disconnect_retry_exhausted"
  | .roomSizeQuota => "room_size_quota"
  | .sessionDurationQuota => "session_duration_quota"
  | .idleQuota => "idle_quota"
  | .roomBandwidthQuota => "room_bandwidth_quota"
  | .monthlyHostQuota => "monthly_host_quota"
  | .service reason => reason

/-- `publicTunnel`. -/
def publicTunnel (tunnel : Relay.HostTunnel) : TunnelRecord :=
  { id := some tunnel.id, hostId := tunnel.hostId, roomId := tunnel.roomId,
    state := some (match tunnel.state with | .opened => "open" | .closed => "closed") }

/-- What the controller reads of a relay's answer. -/
def relayAnswer : Relay.Output → RelayResult
  | .tunnelOpened tunnel => { ok := true, tunnel := some (publicTunnel tunnel), raw := .obj [("ok", .bool true)] }
  | .tunnelClosed tunnel _ => { ok := true, tunnel := some (publicTunnel tunnel), raw := .obj [("ok", .bool true)] }
  | .fail reason =>
    { ok := false, tunnel := none, raw := .obj [("ok", .bool false), ("reason", .str (relayReason reason))] }
  | _ => { ok := false, tunnel := none, raw := .obj [("ok", .bool false)] }

/-- The environment whose relays are those of `createRelaySimulation`. -/
def withRelays {τ : Type} (others : Environment (RelayWorld τ)) : Environment (RelayWorld τ)
  | .openHostTunnel relay request, world =>
    let service := world.relays relay
    let (output, simulation) := Relay.openHostTunnel service.options service.simulation request
    (.fulfilled (some (relayAnswer output)), world.update relay simulation)
  | .closeHostTunnel relay request, world =>
    let service := world.relays relay
    let (output, simulation) := Relay.closeHostTunnel service.options service.simulation request
    (.fulfilled (some (relayAnswer output)), world.update relay simulation)
  | call, world => others call world

/-! ### When a close clears the cleanup -/

def Outcome.isThrown {α : Type} : Outcome α → Bool
  | .threw _ => true
  | _ => false

def Outcome.isFulfilled {α : Type} : Outcome α → Bool
  | .fulfilled _ => true
  | _ => false

section Condition

variable {τ : Type} (others : Environment (RelayWorld τ)) (options : Options) (s : Session (RelayWorld τ))

/-- The relay finds the tunnel that the request names, of this host, and accepts the token. -/
def acceptsClose (service : RelayService) (request : Relay.CloseTunnelRequest) : Bool :=
  (Relay.findTunnel service.simulation request).any fun entry =>
    (request.hostId.or entry.2.hostId == entry.2.hostId) &&
      Relay.hostTunnelAuthorized service.options entry.2.hostId entry.2.roomId request.hostToken

/-- There is no tunnel to close, or the relay accepts its close. -/
def tunnelCloses (reason : String) : Bool :=
  match closableRelay s.vars.active with
  | none => true
  | some relay => acceptsClose (s.world.relays relay) (closeRequest options s.vars.active reason)

/-- The state of the environment after the tunnel's close. -/
def worldAfterClose (reason : String) : RelayWorld τ :=
  match closableRelay s.vars.active with
  | none => s.world
  | some relay => (withRelays others (closeCall options s.vars.active reason relay) s.world).2

/-- The answer to the invite's revocation, and the state of the environment after it. -/
def revocation (active : ActiveRoom) (world : RelayWorld τ) : Outcome (Option Bool) × RelayWorld τ :=
  if isSet active.inviteId && isSet active.roomId then
    withRelays others (.revokeInvite { actorId := options.hostId, inviteId := active.inviteId }) world
  else
    (.fulfilled none, world)

/-- The revocation throws, or the bridge does not close the room. -/
def closeInterrupted (closeOptions : Json) : Bool :=
  let world := worldAfterClose others options s (closeReason closeOptions)
  let (revoked, world) := revocation others options s.vars.active world
  revoked.isThrown || !(withRelays others (.closeRoom (some closeOptions)) world).1.isFulfilled

/-- The close of a room clears the cleanup: it is interrupted while none was pending, or its tunnel closes. -/
def clearsCleanup (closeOptions : Json) : Bool :=
  if closeInterrupted others options s closeOptions then !s.vars.cleanupPending
  else tunnelCloses options s (closeReason closeOptions)

end Condition

/-- The opening is refused: nothing is asked, and the answer is that of a pending cleanup. -/
def Refused {τ : Type} (others : Environment (RelayWorld τ)) (options : Options) (s : Session (RelayWorld τ))
    (openOptions : Json) : Prop :=
  step (withRelays others) options s (.openRoom openOptions) = (.ok (cleanupPendingDto s.vars), s)

/-! ### The close of a tunnel -/

variable {τ : Type} {others : Environment (RelayWorld τ)} {options : Options} {s : Session (RelayWorld τ)}

/-- The snapshot of a closed tunnel counts as closed. -/
theorem closed_succeeds {tunnel : Relay.HostTunnel} (hclosed : tunnel.state = .closed) (streams : Nat) :
    relayCloseSucceeded (closeSnapshot (some (relayAnswer (.tunnelClosed tunnel streams)))) = true := by
  have hstate : redactSecretString "closed" = "closed" := by decide
  simp [relayAnswer, publicTunnel, closeSnapshot, relaySnapshot, sanitizeTunnel, relayCloseSucceeded, hclosed, hstate,
    Json.holds]

/-- A relay that accepts the close answers with the closed tunnel, and any other relay with a failure. -/
theorem closeHostTunnel_answer (service : RelayService) (request : Relay.CloseTunnelRequest) :
    relayCloseSucceeded (closeSnapshot (some (relayAnswer
      (Relay.closeHostTunnel service.options service.simulation request).1))) = acceptsClose service request := by
  unfold Relay.closeHostTunnel acceptsClose
  rcases Relay.findTunnel service.simulation request with _ | ⟨key, tunnel⟩
  · rfl
  · dsimp only [Option.any_some]
    by_cases hrefused : request.hostId.or tunnel.hostId ≠ tunnel.hostId ∨
        !Relay.hostTunnelAuthorized service.options tunnel.hostId tunnel.roomId request.hostToken
    · rw [if_pos hrefused]
      change false = _
      rw [eq_comm, Bool.and_eq_false_iff]
      rcases hrefused with hhost | htoken
      · exact .inl (by simpa using hhost)
      · exact .inr (by simpa using htoken)
    · have haccepted := not_or.1 hrefused
      rw [if_neg hrefused]
      by_cases hclosed : tunnel.state = .closed
      · rw [if_pos hclosed, closed_succeeds hclosed]
        symm
        simpa using haccepted
      · rw [if_neg hclosed, closed_succeeds rfl]
        symm
        simpa using haccepted

/-! ### Snapshots do not mix a tunnel with a failure -/

/-- A snapshot of a tunnel has no failure. -/
def Coherent (vars : Variables) : Prop :=
  vars.lastRelaySnapshot.tunnel.isSome = true → vars.lastRelaySnapshot.failure = none

theorem closedRelaySnapshot_succeeds {vars : Variables} (h : Coherent vars) :
    relayCloseSucceeded (closedRelaySnapshot vars.lastRelaySnapshot) = true := by
  unfold closedRelaySnapshot
  split
  · rename_i snapshot hsnapshot
    have hfailure : vars.lastRelaySnapshot.failure = none := h (by simp [hsnapshot])
    simp [relayCloseSucceeded, hfailure, Json.holds]
  · rfl

theorem coherent_closedRelaySnapshot {vars : Variables} (h : Coherent vars) :
    Coherent { vars with lastRelaySnapshot := closedRelaySnapshot vars.lastRelaySnapshot } := by
  unfold Coherent closedRelaySnapshot
  split
  · rename_i snapshot hsnapshot
    exact fun _ => h (by simp [hsnapshot])
  · exact fun _ => rfl

theorem coherent_closeSnapshot (vars : Variables) (closed : Option RelayResult) :
    Coherent { vars with lastRelaySnapshot := closeSnapshot closed } := by
  unfold Coherent closeSnapshot
  split
  · exact fun _ => rfl
  · exact fun h => nomatch h

section Coherent

variable {σ : Type} {env : Environment σ} {A : Script.Answered Call Call.Answer → Prop}

private theorem await_keeps {P : Variables → Prop} (call : Call) : Keeps env A P (await call) :=
  Keeps.bind (Keeps.ask call) fun answer => by
    cases answer with
    | fulfilled value => exact Keeps.pure value
    | rejected error => exact Keeps.throw error
    | threw error => exact Keeps.throw error

private theorem awaitCatch_keeps {P : Variables → Prop} (call : Call) (f : JsError → call.Value) :
    Keeps env A P (awaitCatch call f) :=
  Keeps.bind (Keeps.ask call) fun answer => by
    cases answer with
    | fulfilled value => exact Keeps.pure value
    | rejected error => exact Keeps.pure (f error)
    | threw error => exact Keeps.throw error

theorem closeRelayTunnel_coherent (reason : String) : Keeps env A Coherent (closeRelayTunnel options reason) := by
  intro s h
  refine ends_closeRelayTunnel ?_ ?_ ?_ ?_
  · rintro - snapshot rfl
    exact coherent_closedRelaySnapshot h
  · exact fun _ closed _ _ _ => coherent_closeSnapshot _ closed
  · exact fun _ error _ _ => coherent_closeSnapshot _ (closeRejected error)
  · exact fun _ _ _ _ _ => h

theorem revokeInvite_coherent : Keeps env A Coherent (revokeInvite options) :=
  Keeps.bind Keeps.read fun _ => Keeps.ite (Keeps.bind (awaitCatch_keeps _ _) fun _ => Keeps.pure ()) (Keeps.pure ())

theorem clearOpenRoomSideEffects_coherent : Keeps env A Coherent (clearOpenRoomSideEffects options) := by
  refine Keeps.bind (closeRelayTunnel_coherent _) fun relayClosed => Keeps.bind revokeInvite_coherent fun _ => ?_
  refine Keeps.bind (Keeps.write fun _ h => h) fun _ => Keeps.ite ?_ ?_
  · exact Keeps.bind (Keeps.write fun _ h => h) fun _ => Keeps.pure relayClosed
  · exact Keeps.bind (Keeps.write fun _ h => h) fun _ => Keeps.pure relayClosed

theorem failClosed_coherent (runtimeDto : Option RuntimeDto) (reason : FailureReason) (cause : Option Json) :
    Keeps env A Coherent (failClosed options runtimeDto reason cause) :=
  Keeps.bind clearOpenRoomSideEffects_coherent fun _ => Keeps.bind (awaitCatch_keeps _ _) fun _ =>
    Keeps.bind Keeps.read fun _ => Keeps.pure _

theorem provisionInvite_coherent (runtimeDto : Option RuntimeDto) (room : RoomRef) :
    Keeps env A Coherent (provisionInvite options runtimeDto room) := by
  refine Keeps.bind (Keeps.attempt (await_keeps _)) ?_
  rintro (error | inviteResult)
  · exact failClosed_coherent _ _ _
  · dsimp only
    rcases usableInvite (normalizeInviteResult inviteResult) with _ | invite
    · exact failClosed_coherent _ _ _
    · refine Keeps.bind (Keeps.write fun _ h => h) fun _ => Keeps.bind (Keeps.attempt (await_keeps _)) ?_
      rintro (error | -)
      · exact failClosed_coherent _ _ _
      · exact Keeps.bind Keeps.read fun _ => Keeps.pure _

theorem openTunnel_coherent (room : RoomRef) (commandOptions : Json) :
    Keeps env A Coherent (openTunnel options room commandOptions) := by
  refine Keeps.bind (await_keeps _) fun hostToken => Keeps.bind (Keeps.write fun _ h => h) fun _ => ?_
  refine Keeps.bind (await_keeps _) fun relay => Keeps.bind (Keeps.write fun _ h => h) fun _ => ?_
  cases relay with
  | none => exact Keeps.throw _
  | some relay => exact await_keeps _

theorem provisionRelay_coherent (runtimeDto : Option RuntimeDto) (room : RoomRef) (commandOptions : Json) :
    Keeps env A Coherent (provisionRelay options runtimeDto room commandOptions) := by
  refine Keeps.bind (Keeps.attempt (openTunnel_coherent _ _)) ?_
  rintro (error | relayOpened)
  · exact failClosed_coherent _ _ _
  · dsimp only
    rcases relayOpened.filter RelayResult.ok with _ | result
    · exact failClosed_coherent _ _ _
    · refine Keeps.bind (Keeps.write fun _ _ => ?_) fun _ => provisionInvite_coherent _ _
      exact fun _ => rfl

theorem provisionOpenRoom_coherent (runtimeDto : Option RuntimeDto) (commandOptions : Json) :
    Keeps env A Coherent (provisionOpenRoom options runtimeDto commandOptions) := by
  refine Keeps.bind (Keeps.attempt (await_keeps _)) ?_
  rintro (error | roomResult)
  · exact failClosed_coherent _ _ _
  · dsimp only
    rcases Option.filter (fun room : RoomRef => isSet room.id) (normalizeRoomResult roomResult) with _ | room
    · exact failClosed_coherent _ _ _
    · exact Keeps.bind (Keeps.write fun _ h => h) fun _ => provisionRelay_coherent _ _ _

theorem closeRoom_coherent (closeOptions : Json) : Keeps env A Coherent (closeRoom options closeOptions) := by
  refine Keeps.bind (closeRelayTunnel_coherent _) fun _ => Keeps.bind revokeInvite_coherent fun _ => ?_
  refine Keeps.bind (Keeps.write fun _ h => h) fun _ => Keeps.bind (await_keeps _) fun _ => Keeps.ite ?_ ?_
  · exact Keeps.bind (Keeps.write fun _ h => h) fun _ => Keeps.bind Keeps.read fun _ => Keeps.pure _
  · exact Keeps.bind (Keeps.write fun _ h => h) fun _ => Keeps.bind Keeps.read fun _ => Keeps.pure _

theorem command_coherent (command : Command) : Keeps env A Coherent (command.script options) := by
  cases command with
  | prepareRoom prepareOptions =>
    exact Keeps.bind (await_keeps _) fun _ => Keeps.bind Keeps.read fun _ => Keeps.pure _
  | openRoom openOptions =>
    refine Keeps.bind Keeps.read fun _ => Keeps.ite (Keeps.pure _) (Keeps.bind (await_keeps _) fun _ => Keeps.ite ?_ ?_)
    · exact provisionOpenRoom_coherent _ _
    · exact Keeps.bind Keeps.read fun _ => Keeps.pure _
  | closeRoom closeOptions => exact closeRoom_coherent closeOptions
  | restartRoom restartOptions =>
    refine Keeps.bind Keeps.read fun _ => Keeps.ite (Keeps.pure _) (Keeps.bind (await_keeps _) fun _ => Keeps.ite ?_ ?_)
    · exact Keeps.bind Keeps.read fun _ => Keeps.ite (Keeps.pure _) (provisionOpenRoom_coherent _ _)
    · exact Keeps.bind clearOpenRoomSideEffects_coherent fun _ => Keeps.bind Keeps.read fun _ => Keeps.pure _
  | status =>
    exact Keeps.bind (await_keeps _) fun _ => Keeps.bind Keeps.read fun _ => Keeps.ite (Keeps.pure _) (Keeps.pure _)
  | statusRoom =>
    refine Keeps.bind (await_keeps _) fun _ => Keeps.bind Keeps.read fun _ => Keeps.ite (Keeps.ite ?_ ?_) ?_
    · exact Keeps.pure _
    · exact provisionOpenRoom_coherent _ _
    · exact Keeps.pure _

end Coherent

/-! ### The close of a room -/

/-- The close of the active room's tunnel succeeds if there is none or the relay accepts it. -/
theorem closeRelayTunnel_ends (h : Coherent s.vars) (reason : String) :
    Ends (withRelays others) (fun _ => True) (closeRelayTunnel options reason) s fun out s' =>
      ∃ snapshot, out = .ok snapshot ∧ relayCloseSucceeded snapshot = tunnelCloses options s reason ∧
        s'.world = worldAfterClose others options s reason ∧
        s'.vars = { s.vars with lastRelaySnapshot := snapshot } := by
  refine ends_closeRelayTunnel ?_ ?_ ?_ ?_
  · rintro hactive snapshot rfl
    refine ⟨_, rfl, ?_, ?_, rfl⟩
    · rw [closedRelaySnapshot_succeeds h]
      simp [tunnelCloses, hactive]
    · simp [worldAfterClose, hactive]
  · intro relay closed hactive hanswer _
    refine ⟨_, rfl, ?_, ?_, rfl⟩
    · obtain rfl : some (relayAnswer (Relay.closeHostTunnel (s.world.relays relay).options
          (s.world.relays relay).simulation (closeRequest options s.vars.active reason)).1) = closed :=
        Outcome.fulfilled.inj hanswer
      rw [closeHostTunnel_answer]
      simp [tunnelCloses, hactive]
    · simp [worldAfterClose, hactive, Script.Session.answer, Script.Log.answer]
  · intro relay error _ hanswer
    cases hanswer
  · intro relay error _ hanswer _
    cases hanswer

/-- The revocation is answered as `revocation` says, and only an exception goes through. -/
theorem revokeInvite_ends :
    Ends (withRelays others) (fun _ => True) (revokeInvite options) s fun out s' =>
      s'.vars = s.vars ∧ s'.world = (revocation others options s.vars.active s.world).2 ∧
        (revocation others options s.vars.active s.world).1.isThrown = !out.isOk := by
  unfold revokeInvite revocation
  apply Ends.read_bind
  rw [Script.ends_ite]
  constructor
  · intro hset
    rw [if_pos hset, Script.ends_bind]
    refine ends_awaitCatch ?_ ?_ ?_
    · intro value hanswer _
      exact ⟨rfl, rfl, by rw [hanswer]; rfl⟩
    · intro error hanswer _
      exact ⟨rfl, rfl, by rw [hanswer]; rfl⟩
    · intro error hanswer _
      exact ⟨rfl, rfl, by rw [hanswer]; rfl⟩
  · intro hset
    rw [if_neg hset]
    exact ⟨rfl, rfl, rfl⟩

/-- An awaited call returns if and only if its answer is a value. -/
private theorem await_ends (call : Call) :
    Ends (withRelays others) (fun _ => True) (await call) s fun out s' =>
      s'.vars = s.vars ∧ out.isOk = (withRelays others call s.world).1.isFulfilled := by
  refine ends_await ?_ ?_ ?_
  · intro value hanswer _
    exact ⟨rfl, by rw [hanswer]; rfl⟩
  · intro error hanswer _
    exact ⟨rfl, by rw [hanswer]; rfl⟩
  · intro error hanswer _
    exact ⟨rfl, by rw [hanswer]; rfl⟩

theorem closeRoom_cleanup (h : Coherent s.vars) (closeOptions : Json) :
    Ends (withRelays others) (fun _ => True) (closeRoom options closeOptions) s fun _ s' =>
      s'.vars.cleanupPending = !clearsCleanup others options s closeOptions := by
  unfold closeRoom
  refine (closeRelayTunnel_ends h _).bind ?_ ?_
  · rintro relayClosed s₁ ⟨_, hsnapshot, hsucceeded, hworld₁, hvars₁⟩
    obtain rfl := Except.ok.inj hsnapshot
    have hactive : s₁.vars.active = s.vars.active := by rw [hvars₁]
    have hpending : s₁.vars.cleanupPending = s.vars.cleanupPending := by rw [hvars₁]
    have hinterrupted : closeInterrupted others options s closeOptions =
        ((revocation others options s₁.vars.active s₁.world).1.isThrown ||
          !(withRelays others (.closeRoom (some closeOptions))
            (revocation others options s₁.vars.active s₁.world).2).1.isFulfilled) := by
      rw [hactive, hworld₁]
      rfl
    refine revokeInvite_ends.bind ?_ ?_
    · rintro _ s₂ ⟨hvars₂, hworld₂, hthrown⟩
      rw [hthrown, ← hworld₂] at hinterrupted
      apply Ends.write_bind
      refine (await_ends _).bind ?_ ?_
      · rintro closed s₃ ⟨hvars₃, hfulfilled⟩
        have hclears : clearsCleanup others options s closeOptions = relayCloseSucceeded relayClosed := by
          have hnot : closeInterrupted others options s closeOptions = false := by
            rw [hinterrupted, ← hfulfilled]
            rfl
          rw [hsucceeded, clearsCleanup, hnot]
          rfl
        rw [Script.ends_ite, hclears]
        constructor
        · intro hsucceeded
          apply Ends.write_bind
          simp [hsucceeded, Script.ends_bind, Script.ends_read, Script.ends_pure]
        · intro hsucceeded
          apply Ends.write_bind
          simp [hsucceeded, Script.ends_bind, Script.ends_read, Script.ends_pure]
      · rintro error s₃ ⟨hvars₃, hfulfilled⟩
        have hyes : closeInterrupted others options s closeOptions = true := by
          rw [hinterrupted, ← hfulfilled]
          rfl
        simp [clearsCleanup, hyes, hvars₃, hvars₂, hpending]
    · rintro error s₂ ⟨hvars₂, -, hthrown⟩
      rw [hthrown] at hinterrupted
      have hyes : closeInterrupted others options s closeOptions = true := by
        rw [hinterrupted]
        rfl
      simp [clearsCleanup, hyes, hvars₂, hpending]
  · rintro error s₁ ⟨_, hsnapshot, -⟩
    cases hsnapshot

/-- An opening is refused if and only if a cleanup is pending: else the bridge is asked. -/
theorem refused_iff (openOptions : Json) : Refused others options s openOptions ↔ s.vars.cleanupPending = true := by
  constructor
  · intro hrefused
    by_contra hpending
    have hasked : Ends (withRelays others) (fun _ => True) (openRoom options openOptions) s fun _ s' =>
        s.history.length < s'.history.length := by
      apply Ends.read_bind
      rw [if_neg hpending]
      have hlonger : ∀ call, Ends (withRelays others) (fun _ => True) (await call) s fun _ s' =>
          s.history.length < s'.history.length := by
        intro call
        refine ends_await_answer.mono ?_
        rintro out s' ⟨rfl, -⟩
        simp [Script.Session.answer, Script.Log.answer]
      refine (hlonger _).bind ?_ fun _ _ h => h
      intro opened s₁ h₁
      exact Ends.of_perform (h₁.trans_le (Script.perform_history _ _).length_le)
    have hlt := hasked.perform fun _ _ => trivial
    have heq : (Script.perform (withRelays others) (openRoom options openOptions) s).2 = s :=
      congrArg Prod.snd hrefused
    rw [heq] at hlt
    omega
  · intro hpending
    have hends : Ends (withRelays others) (fun _ => True) (openRoom options openOptions) s fun out s' =>
        (out, s') = (.ok (cleanupPendingDto s.vars), s) := by
      apply Ends.read_bind
      rw [if_pos hpending]
      rfl
    exact hends.perform fun _ _ => trivial

/-- In every session, a close leaves no cleanup pending, and the next opening is not refused, if and only if it clears
the cleanup: the relay finds the recorded tunnel and accepts its close, or there is none recorded. -/
theorem close_unlocks_iff (others : Environment (RelayWorld τ)) (options : Options) (world : RelayWorld τ)
    (commands : List Command) (closeOptions : Json) :
    let s := Machine.run (step (withRelays others) options) (Session.initial world) commands
    let closed := (step (withRelays others) options s (.closeRoom closeOptions)).2
    (closed.vars.cleanupPending = false ∧ ∀ openOptions, ¬ Refused others options closed openOptions) ↔
      clearsCleanup others options s closeOptions = true := by
  intro s closed
  have hcoherent : Coherent s.vars := by
    refine Script.run_invariant (I := fun s => Coherent s.vars) (P := fun _ _ => True) (A := fun _ => True)
      (fun s command h _ => command_coherent command s h) ?_ ?_ fun _ _ => trivial
    · exact fun _ => rfl
    · exact (Machine.Along.of_forall (P := fun _ => True) fun _ _ => trivial) _
  have hpending : closed.vars.cleanupPending = !clearsCleanup others options s closeOptions :=
    (closeRoom_cleanup hcoherent closeOptions).perform fun _ _ => trivial
  constructor
  · rintro ⟨hclosed, -⟩
    rw [hpending] at hclosed
    simpa using hclosed
  · intro hclears
    have hclosed : closed.vars.cleanupPending = false := by
      rw [hpending, hclears]
      rfl
    refine ⟨hclosed, fun openOptions hrefused => ?_⟩
    rw [(refused_iff openOptions).1 hrefused] at hclosed
    cases hclosed

/-- No tunnel that the controller has opened is open in its relay. -/
def NoTunnelOpen (s : Session (RelayWorld τ)) : Prop :=
  ∀ call ∈ s.history, ∀ tunnel ∈ openedBy call,
    ∀ entry ∈ (s.world.relays tunnel.relay).simulation.hostTunnels.entries,
      some entry.2.id = tunnel.id → entry.2.state = .closed

instance (s : Session (RelayWorld τ)) : Decidable (NoTunnelOpen s) :=
  inferInstanceAs (Decidable (∀ call ∈ s.history, ∀ tunnel ∈ openedBy call,
    ∀ entry ∈ (s.world.relays tunnel.relay).simulation.hostTunnels.entries,
      some entry.2.id = tunnel.id → entry.2.state = .closed))

/-- Relays that know no host. -/
def unprovisionedRelays : RelayWorld Unit :=
  { relays := fun _ =>
      { options := { sessionService := false, hostCredentials := .empty, quotas := Relay.defaultQuotas, redactText := id }
        simulation := Relay.createRelaySimulation 0 }
    rest := () }

def obligingDependencies : Environment (RelayWorld Unit) := fun call world =>
  ((runningDependencies true call 0).1, world)

/-- A tunnel that its relay refused to open is looked for when it is closed: every later opening is refused. -/
theorem refused_tunnel_locks_out :
    let s := Machine.run (step (withRelays obligingDependencies) hostOptions) (Session.initial unprovisionedRelays)
      [.openRoom (.obj [])]
    let closed := (step (withRelays obligingDependencies) hostOptions s (.closeRoom (.obj []))).2
    NoTunnelOpen s ∧ closed.vars.cleanupPending = true := by
  decide

end EasyMc.Desktop.RoomController
