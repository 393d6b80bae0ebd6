import EasyMc.Desktop.Tunnels

/-!
# Fail-closed reporting

A result fails closed if an invite link comes only with a running room and ready snapshots, and a blocked or failed
result with none of the three.  `reportsSafely` is the condition on the state before a command and on the bridge's
answer, `isRegular` the condition on the answers of relay and control plane, under which every result of a session
fails closed: a recorded invite link then comes with recorded snapshots that are ready (`LinkReady`).
-/

namespace EasyMc.Desktop.RoomController

open Script (Answered Ends)

/-- What a result that leaves the controller promises. -/
def FailsClosed (response : Json) : Prop :=
  ((response.member "inviteLink").isSome = true →
      response.path ["state"] = some (.str "running") ∧
        response.path ["controlPlane", "ready"] = some (.bool true) ∧
        response.path ["relay", "ready"] = some (.bool true)) ∧
    ((response.path ["state"] = some (.str "blocked") ∨ (response.member "failure").isSome = true) →
      response.path ["controlPlane", "ready"] = some (.bool false) ∧
        response.path ["relay", "ready"] = some (.bool false) ∧ response.member "inviteLink" = none)

/-- A result that is blocked or carries a failure. -/
def isTroubled (runtimeDto : Option RuntimeDto) : Bool :=
  runtimeDto.bind RuntimeDto.state == some .blocked || (runtimeDto.bind RuntimeDto.failure).isSome

/-! ### The condition -/

/-- Opening a tunnel opens it, closing it does not leave it open, and no close, revocation or heartbeat fails in a way
that the controller does not expect. -/
def isRegular : Answered Call Call.Answer → Bool
  | ⟨.openHostTunnel _ _, .fulfilled (some { ok := true, tunnel, .. })⟩ => (relaySnapshot tunnel).ready
  | ⟨.closeHostTunnel _ _, .fulfilled (some { ok := true, tunnel, .. })⟩ => !(relaySnapshot tunnel).ready
  | ⟨.closeHostTunnel _ _, .threw _⟩ => false
  | ⟨.revokeInvite _, .threw _⟩ => false
  | ⟨.heartbeatHost _, .rejected _⟩ => false
  | ⟨.heartbeatHost _, .threw _⟩ => false
  | _ => true

/-- No recorded snapshot is ready. -/
def nothingReady (vars : Variables) : Bool := !vars.lastControlPlaneSnapshot.ready && !vars.lastRelaySnapshot.ready

/-- The control plane registers the room. -/
def registersRoom {σ : Type} (env : Environment σ) (options : Options) (world : σ) : Bool :=
  match (env (.createRoom (createRoomRequest options)) world).1 with
  | .fulfilled roomResult => ((normalizeRoomResult roomResult).filter fun room => isSet room.id).isSome
  | _ => false

/-- A room is provisioned for a result without trouble, and the old snapshot of the control plane is not ready unless
a new one takes its place. -/
def provisionsSafely {σ : Type} (env : Environment σ) (options : Options) (vars : Variables) (world : σ)
    (runtimeDto : Option RuntimeDto) : Bool :=
  !isTroubled runtimeDto && (!vars.lastControlPlaneSnapshot.ready || registersRoom env options world)

/-- The state before the command and the bridge's answer fit together. -/
def reportsSafely {σ : Type} (env : Environment σ) (options : Options) (s : Session σ) : Command → Bool
  | .prepareRoom prepareOptions =>
    match env (.prepareRoom prepareOptions) s.world with
    | (.fulfilled prepared, _) =>
      (!isSet s.vars.active.inviteLink || reportsRunning prepared) && (!isTroubled prepared || nothingReady s.vars)
    | _ => true
  | .openRoom openOptions =>
    if s.vars.cleanupPending then nothingReady s.vars
    else
      match env (.openRoom openOptions) s.world with
      | (.fulfilled opened, world) => !reportsRunning opened || provisionsSafely env options s.vars world opened
      | _ => true
  | .closeRoom _ => true
  | .restartRoom restartOptions =>
    if s.vars.cleanupPending then nothingReady s.vars
    else
      match env (.restartRoom restartOptions) s.world with
      | (.fulfilled restarted, world) =>
        !reportsRunning restarted ||
          if isShared s.vars then !isTroubled restarted else provisionsSafely env options s.vars world restarted
      | _ => true
  | .status =>
    match env .status s.world with
    | (.fulfilled runtimeStatus, _) =>
      !isTroubled runtimeStatus ||
        if reportsRunning runtimeStatus then nothingReady s.vars else !s.vars.lastRelaySnapshot.ready
    | _ => true
  | .statusRoom =>
    match env .status s.world with
    | (.fulfilled runtimeStatus, world) =>
      if reportsRunning runtimeStatus then
        if isShared s.vars then !isTroubled runtimeStatus
        else provisionsSafely env options s.vars world runtimeStatus
      else !isTroubled runtimeStatus || !s.vars.lastRelaySnapshot.ready
    | _ => true

/-! ### Results before they leave -/

/-- `FailsClosed`, of an assembled result. -/
structure Closed (dto : RoomDto) : Prop where
  shared : dto.inviteLink.isSome = true →
    dto.runtime.state = some .running ∧ dto.controlPlane.ready = true ∧ dto.relay.ready = true
  troubled : isTroubled (some dto.runtime) = true →
    dto.controlPlane.ready = false ∧ dto.relay.ready = false ∧ dto.inviteLink = none

theorem response_state_path (dto : RoomDto) :
    dto.response.path ["state"] = dto.runtime.state.map fun state => .str state.name := by
  rw [Json.path, dto.response_state]
  cases dto.runtime.state <;> rfl

theorem response_controlPlane_ready (dto : RoomDto) :
    dto.response.path ["controlPlane", "ready"] = some (.bool dto.controlPlane.ready) := by
  rw [Json.path, dto.response_controlPlane]
  exact (dto.controlPlane.sanitized_ready "controlPlane").1

theorem response_relay_ready (dto : RoomDto) :
    dto.response.path ["relay", "ready"] = some (.bool dto.relay.ready) := by
  rw [Json.path, dto.response_relay]
  exact (dto.relay.sanitized_ready "relay").1

theorem Closed.response {dto : RoomDto} (h : Closed dto) : FailsClosed dto.response := by
  constructor
  · intro hlink
    rw [dto.response_inviteLink, Json.ofStr, Option.isSome_map] at hlink
    obtain ⟨hrunning, hready, hready'⟩ := h.shared hlink
    rw [response_state_path, response_controlPlane_ready, response_relay_ready, hrunning, hready, hready']
    exact ⟨rfl, rfl, rfl⟩
  · intro htrouble
    have htroubled : isTroubled (some dto.runtime) = true := by
      rw [isTroubled, Bool.or_eq_true]
      rcases htrouble with hblocked | hfailure
      · left
        rw [response_state_path] at hblocked
        rcases hruntime : dto.runtime.state with _ | state
        · simp [hruntime] at hblocked
        · rw [hruntime, Option.map_some, Option.some.injEq, Json.str.injEq] at hblocked
          obtain rfl : state = .blocked := by
            cases state <;> first | rfl | exact absurd hblocked (by decide)
          simp [hruntime]
      · right
        rw [dto.response_failure] at hfailure
        exact hfailure
    obtain ⟨hready, hready', hlink⟩ := h.troubled htroubled
    rw [response_controlPlane_ready, response_relay_ready, dto.response_inviteLink, hready, hready', hlink]
    exact ⟨rfl, rfl, rfl⟩

/-- Without a link, a result fails closed if no snapshot is ready where it is troubled. -/
theorem Closed.of_noLink {dto : RoomDto} (hlink : dto.inviteLink = none)
    (htroubled : isTroubled (some dto.runtime) = true → dto.controlPlane.ready = false ∧ dto.relay.ready = false) :
    Closed dto :=
  ⟨fun h => by simp [hlink] at h, fun h => ⟨(htroubled h).1, (htroubled h).2, hlink⟩⟩

theorem isTroubled_getD (runtimeDto : Option RuntimeDto) :
    isTroubled (some (runtimeDto.getD .empty)) = isTroubled runtimeDto := by
  cases runtimeDto <;> rfl

theorem reportsRunning_getD {runtimeDto : Option RuntimeDto} (h : reportsRunning runtimeDto = true) :
    (runtimeDto.getD .empty).state = some .running := by
  cases runtimeDto with
  | none => cases h
  | some runtimeDto => simpa [reportsRunning, isRuntimeReadyForInvite] using h

/-- A running result without trouble has no trouble to report. -/
theorem withRoomReadiness_closed {vars : Variables} {runtimeDto : Option RuntimeDto}
    (hrunning : isSet vars.active.inviteLink = true → reportsRunning runtimeDto = true ∧
      vars.lastControlPlaneSnapshot.ready = true ∧ vars.lastRelaySnapshot.ready = true)
    (htroubled : isTroubled runtimeDto = true → nothingReady vars = true) :
    Closed (withRoomReadiness vars runtimeDto noOverrides) := by
  have hlink : (withRoomReadiness vars runtimeDto noOverrides).inviteLink =
      if isSet vars.active.inviteLink then vars.active.inviteLink else none := rfl
  constructor
  · intro hsome
    rw [hlink] at hsome
    by_cases hset : isSet vars.active.inviteLink = true
    · obtain ⟨hstate, hready, hready'⟩ := hrunning hset
      exact ⟨reportsRunning_getD hstate, hready, hready'⟩
    · rw [if_neg hset] at hsome
      cases hsome
  · intro h
    have hnothing := htroubled ((isTroubled_getD runtimeDto).symm.trans h)
    simp only [nothingReady, Bool.and_eq_true, Bool.not_eq_true'] at hnothing
    refine ⟨hnothing.1, hnothing.2, ?_⟩
    rw [hlink]
    by_cases hset : isSet vars.active.inviteLink = true
    · rw [(hrunning hset).2.1] at hnothing
      cases hnothing.1
    · rw [if_neg hset]

theorem withoutInviteReadiness_closed {vars : Variables} {runtimeDto : Option RuntimeDto}
    {relay : Option RelaySnapshot}
    (htroubled : isTroubled runtimeDto = true → (relay.getD vars.lastRelaySnapshot).ready = false) :
    Closed (withoutInviteReadiness vars runtimeDto relay) := by
  refine Closed.of_noLink rfl fun h => ⟨rfl, ?_⟩
  have hready := htroubled ((isTroubled_getD runtimeDto).symm.trans h)
  cases relay <;> exact hready

/-! ### What the controller keeps -/

/-- A recorded invite link comes with snapshots that are ready. -/
def LinkReady (vars : Variables) : Prop :=
  isSet vars.active.inviteLink = true →
    vars.lastControlPlaneSnapshot.ready = true ∧ relayIsReady vars.lastRelaySnapshot = true

/-- What a script returns fails closed. -/
def Reports (out : Except JsError RoomDto) : Prop := ∀ dto, out = .ok dto → Closed dto

variable {σ : Type} {env : Environment σ} {options : Options} {s : Session σ}

/-- With regular answers the tunnel's close returns a snapshot that is not ready. -/
theorem closeRelayTunnel_regular (reason : String) :
    Ends env (isRegular ·) (closeRelayTunnel options reason) s fun out s' =>
      ∃ snapshot, out = .ok snapshot ∧ snapshot.ready = false ∧
        s'.vars = { s.vars with lastRelaySnapshot := snapshot } := by
  refine ends_closeRelayTunnel ?_ ?_ ?_ ?_
  · rintro - snapshot rfl
    refine ⟨_, rfl, ?_, rfl⟩
    unfold closedRelaySnapshot
    split <;> rfl
  · intro relay closed _ _ hregular
    refine ⟨_, rfl, ?_, rfl⟩
    rcases closed with _ | ⟨_ | _, tunnel, raw⟩
    · rfl
    · rfl
    · simpa [isRegular, closeSnapshot] using hregular
  · intro relay error _ _
    exact ⟨_, rfl, rfl, rfl⟩
  · intro relay error _ _ hregular
    cases hregular

theorem revokeInvite_regular :
    Ends env (isRegular ·) (revokeInvite options) s fun out s' => (∃ u, out = .ok u) ∧ s'.vars = s.vars := by
  apply Ends.read_bind
  rw [Script.ends_ite]
  constructor
  · intro _
    rw [Script.ends_bind]
    refine ends_awaitCatch ?_ ?_ ?_
    · exact fun _ _ _ => ⟨⟨_, rfl⟩, rfl⟩
    · exact fun _ _ _ => ⟨⟨_, rfl⟩, rfl⟩
    · exact fun _ _ hregular => nomatch hregular
  · exact fun _ => ⟨⟨_, rfl⟩, rfl⟩

/-- A room that is closed gives up its tunnel, whose snapshot is not ready, and revokes its invite. -/
private theorem closing_regular {α : Type} {reason : String} {f : RelaySnapshot → Controller α}
    {post : Except JsError α → Session σ → Prop}
    (hf : ∀ relayClosed s', relayClosed.ready = false → s'.vars = { s.vars with lastRelaySnapshot := relayClosed } →
      Ends env (isRegular ·) (f relayClosed) s' post) :
    Ends env (isRegular ·)
      (closeRelayTunnel options reason >>= fun relayClosed => revokeInvite options >>= fun _ => f relayClosed) s
      post := by
  refine (closeRelayTunnel_regular _).bind ?_ ?_
  · rintro relayClosed s₁ ⟨_, hsnapshot, hready, hvars₁⟩
    obtain rfl := Except.ok.inj hsnapshot
    refine revokeInvite_regular.bind ?_ ?_
    · rintro _ s₂ ⟨-, hvars₂⟩
      exact hf relayClosed s₂ hready (hvars₂.trans hvars₁)
    · rintro error s₂ ⟨⟨_, hout⟩, -⟩
      cases hout
  · rintro error s₁ ⟨_, hsnapshot, -⟩
    cases hsnapshot

/-- Clearing leaves no link and a relay snapshot that is not ready. -/
theorem clearOpenRoomSideEffects_regular :
    Ends env (isRegular ·) (clearOpenRoomSideEffects options) s fun out s' =>
      (∃ snapshot, out = .ok snapshot) ∧ s'.vars.active.inviteLink = none ∧
        s'.vars.lastControlPlaneSnapshot = s.vars.lastControlPlaneSnapshot ∧
        s'.vars.lastRelaySnapshot.ready = false := by
  unfold clearOpenRoomSideEffects
  refine closing_regular fun relayClosed s₂ hready hvars₂ => ?_
  have hrelay : s₂.vars.lastRelaySnapshot.ready = false := by rw [hvars₂]; exact hready
  have hcontrolPlane : s₂.vars.lastControlPlaneSnapshot = s.vars.lastControlPlaneSnapshot := by rw [hvars₂]
  apply Ends.write_bind
  rw [Script.ends_ite]
  constructor
  · exact fun _ => ⟨⟨_, rfl⟩, rfl, hcontrolPlane, hrelay⟩
  · exact fun _ => ⟨⟨_, rfl⟩, rfl, hcontrolPlane, hrelay⟩

/-- A failed opening fails closed if the snapshot of the control plane is not ready. -/
theorem failClosed_regular (hready : s.vars.lastControlPlaneSnapshot.ready = false) (runtimeDto : Option RuntimeDto)
    (reason : FailureReason) (cause : Option Json) :
    Ends env (isRegular ·) (failClosed options runtimeDto reason cause) s fun out s' =>
      Reports out ∧ LinkReady s'.vars := by
  unfold failClosed
  refine clearOpenRoomSideEffects_regular.bind ?_ ?_
  · rintro relayClosed s₁ ⟨-, hlink, hcontrolPlane, hrelay⟩
    refine Ends.bind (M := fun _ s₂ => s₂.vars = s₁.vars) ?_ ?_ ?_
    · refine ends_awaitCatch_answer.mono ?_
      rintro out s₂ rfl
      rfl
    · intro closedRuntime s₂ hvars₂
      refine ⟨?_, fun hset => ?_⟩
      · intro dto hdto
        obtain rfl := Except.ok.inj hdto
        refine Closed.of_noLink rfl fun _ => ⟨?_, ?_⟩
        · rw [← hcontrolPlane, ← hvars₂] at hready
          simp [failedDto, withRoomReadiness, hready]
        · rw [← hvars₂] at hrelay
          exact hrelay
      · rw [hvars₂, hlink] at hset
        cases hset
    · intro error s₂ hvars₂
      refine ⟨fun _ hout => (nomatch hout), fun hset => ?_⟩
      rw [hvars₂, hlink] at hset
      cases hset
  · rintro error s₁ ⟨⟨_, hout⟩, _⟩
    cases hout

theorem relaySnapshot_isReady {tunnel : Option TunnelRecord} (h : (relaySnapshot tunnel).ready = true) :
    relayIsReady (relaySnapshot tunnel) = true := by
  have hsession : (relaySnapshot tunnel).session.ready = (relaySnapshot tunnel).ready := rfl
  rw [relayIsReady, hsession, h]
  rfl

theorem ready_of_relayIsReady {relay : RelaySnapshot} (h : relayIsReady relay = true) : relay.ready = true :=
  ((Bool.and_eq_true _ _).mp h).1

/-- An awaited call leaves the variables alone. -/
private theorem await_vars {A : Answered Call Call.Answer → Prop} (call : Call) :
    Ends env A (await call) s fun _ s' => s'.vars = s.vars := by
  refine ends_await_answer.mono ?_
  rintro out s' ⟨rfl, -⟩
  rfl

/-- With a ready tunnel and a running room the invite is published with ready snapshots, or the opening fails closed. -/
theorem provisionInvite_regular (hready : s.vars.lastControlPlaneSnapshot.ready = false)
    (hrelay : relayIsReady s.vars.lastRelaySnapshot = true) {runtimeDto : Option RuntimeDto}
    (hrunning : reportsRunning runtimeDto = true) (htroubled : isTroubled runtimeDto = false) (room : RoomRef) :
    Ends env (isRegular ·) (provisionInvite options runtimeDto room) s fun out s' =>
      Reports out ∧ LinkReady s'.vars := by
  unfold provisionInvite
  refine (await_vars _).attempt_bind ?_
  rintro (error | inviteResult) s₁ hvars₁
  · exact failClosed_regular (by rw [hvars₁]; exact hready) _ _ _
  · dsimp only
    rcases usableInvite (normalizeInviteResult inviteResult) with _ | invite
    · exact failClosed_regular (by rw [hvars₁]; exact hready) _ _ _
    · apply Ends.write_bind
      refine Ends.attempt_bind (M := fun out s₂ => (∃ u, out = .ok u) ∧
        s₂.vars.lastControlPlaneSnapshot.ready = true ∧ relayIsReady s₂.vars.lastRelaySnapshot = true) ?_ ?_
      · refine ends_await ?_ ?_ ?_
        · exact fun value _ _ => ⟨⟨value, rfl⟩, rfl, by rw [← hrelay, ← hvars₁]; rfl⟩
        · exact fun _ _ hregular => nomatch hregular
        · exact fun _ _ hregular => nomatch hregular
      · rintro out s₂ ⟨⟨u, rfl⟩, hready₂, hrelay₂⟩
        refine ⟨?_, fun _ => ⟨hready₂, hrelay₂⟩⟩
        intro dto hdto
        obtain rfl := Except.ok.inj hdto
        refine withRoomReadiness_closed (fun _ => ⟨hrunning, hready₂, ready_of_relayIsReady hrelay₂⟩) fun h => ?_
        rw [htroubled] at h
        cases h

/-- An opened tunnel is ready when its answer is regular, and the control plane's snapshot stays as it was. -/
theorem openTunnel_regular (room : RoomRef) (commandOptions : Json) :
    Ends env (isRegular ·) (openTunnel options room commandOptions) s fun out s' =>
      s'.vars.lastControlPlaneSnapshot = s.vars.lastControlPlaneSnapshot ∧
        ∀ result, out = .ok (some result) → result.ok = true → (relaySnapshot result.tunnel).ready = true := by
  unfold openTunnel
  refine (await_vars _).bind ?_ fun error s₁ hvars₁ => ⟨by rw [hvars₁], fun _ hout => nomatch hout⟩
  intro hostToken s₁ hvars₁
  apply Ends.write_bind
  refine (await_vars _).bind ?_ fun error s₂ hvars₂ => ⟨by rw [hvars₂, hvars₁], fun _ hout => nomatch hout⟩
  intro relay s₂ hvars₂
  apply Ends.write_bind
  have hcontrolPlane : s₂.vars.lastControlPlaneSnapshot = s.vars.lastControlPlaneSnapshot := by rw [hvars₂, hvars₁]
  rcases relay with _ | relay
  · exact ⟨hcontrolPlane, fun _ hout => nomatch hout⟩
  · refine ends_await ?_ ?_ ?_
    · intro relayOpened _ hregular
      refine ⟨hcontrolPlane, fun result hout hok => ?_⟩
      obtain rfl := Except.ok.inj hout
      obtain ⟨ok, tunnel, raw⟩ := result
      obtain rfl : ok = true := hok
      exact hregular
    · exact fun _ _ _ => ⟨hcontrolPlane, fun _ hout => nomatch hout⟩
    · exact fun _ _ _ => ⟨hcontrolPlane, fun _ hout => nomatch hout⟩

theorem provisionRelay_regular (hready : s.vars.lastControlPlaneSnapshot.ready = false)
    {runtimeDto : Option RuntimeDto} (hrunning : reportsRunning runtimeDto = true)
    (htroubled : isTroubled runtimeDto = false) (room : RoomRef) (commandOptions : Json) :
    Ends env (isRegular ·) (provisionRelay options runtimeDto room commandOptions) s fun out s' =>
      Reports out ∧ LinkReady s'.vars := by
  unfold provisionRelay
  refine (openTunnel_regular room commandOptions).attempt_bind ?_
  rintro (error | relayOpened) s₁ ⟨hcontrolPlane, hopened⟩
  · exact failClosed_regular (by rw [hcontrolPlane]; exact hready) _ _ _
  · dsimp only
    rcases hresult : relayOpened.filter RelayResult.ok with _ | result
    · exact failClosed_regular (by rw [hcontrolPlane]; exact hready) _ _ _
    · obtain ⟨rfl, hok⟩ := Option.filter_eq_some_iff.1 hresult
      apply Ends.write_bind
      refine provisionInvite_regular ?_ ?_ hrunning htroubled room
      · change s₁.vars.lastControlPlaneSnapshot.ready = false
        rw [hcontrolPlane]
        exact hready
      · exact relaySnapshot_isReady (hopened result rfl hok)

theorem provisionOpenRoom_regular {runtimeDto : Option RuntimeDto} (hrunning : reportsRunning runtimeDto = true)
    (hsafe : provisionsSafely env options s.vars s.world runtimeDto = true) (commandOptions : Json) :
    Ends env (isRegular ·) (provisionOpenRoom options runtimeDto commandOptions) s fun out s' =>
      Reports out ∧ LinkReady s'.vars := by
  unfold provisionsSafely at hsafe
  rw [Bool.and_eq_true, Bool.not_eq_true', Bool.or_eq_true, Bool.not_eq_true'] at hsafe
  obtain ⟨htroubled, hsafe⟩ := hsafe
  unfold provisionOpenRoom
  refine Ends.attempt_bind (M := fun out s₁ => s₁.vars = s.vars ∧
    (registersRoom env options s.world = true → ∃ result room, out = .ok result ∧
      (normalizeRoomResult result).filter (fun room => isSet room.id) = some room)) ?_ ?_
  · refine ends_await ?_ ?_ ?_
    · intro roomResult hanswer _
      refine ⟨rfl, fun hregisters => ?_⟩
      simp only [registersRoom, hanswer, Option.isSome_iff_exists] at hregisters
      obtain ⟨room, hroom⟩ := hregisters
      exact ⟨roomResult, room, rfl, hroom⟩
    · intro error hanswer _
      exact ⟨rfl, fun hregisters => by simp [registersRoom, hanswer] at hregisters⟩
    · intro error hanswer _
      exact ⟨rfl, fun hregisters => by simp [registersRoom, hanswer] at hregisters⟩
  · have hfailed : ∀ s₁ : Session σ, s₁.vars = s.vars → ¬ registersRoom env options s.world = true →
        s₁.vars.lastControlPlaneSnapshot.ready = false := by
      intro s₁ hvars₁ hregisters
      rw [hvars₁]
      exact hsafe.resolve_right hregisters
    rintro (error | roomResult) s₁ ⟨hvars₁, hregisters⟩
    · refine failClosed_regular (hfailed s₁ hvars₁ fun h => ?_) _ _ _
      obtain ⟨_, _, hout, -⟩ := hregisters h
      cases hout
    · dsimp only
      rcases hroom : Option.filter (fun room : RoomRef => isSet room.id) (normalizeRoomResult roomResult) with _ | room
      · refine failClosed_regular (hfailed s₁ hvars₁ fun h => ?_) _ _ _
        obtain ⟨_, _, hout, hsome⟩ := hregisters h
        obtain rfl := Except.ok.inj hout
        rw [hroom] at hsome
        cases hsome
      · apply Ends.write_bind
        exact provisionRelay_regular rfl hrunning htroubled room commandOptions

/-! ### Commands -/

/-- A command that asks the bridge first: it throws the bridge's error, or goes on with its value. -/
private theorem bridge_regular (h : LinkReady s.vars) {call : Call} {f : call.Value → Controller RoomDto}
    (hf : ∀ value s', s'.vars = s.vars → env call s.world = (.fulfilled value, s'.world) →
      Ends env (isRegular ·) (f value) s' fun out s' => Reports out ∧ LinkReady s'.vars) :
    Ends env (isRegular ·) (await call >>= f) s fun out s' => Reports out ∧ LinkReady s'.vars := by
  refine ends_await_answer.bind ?_ ?_
  · rintro value s₁ ⟨rfl, -, hfulfilled, -⟩
    exact hf value _ rfl (Prod.ext (hfulfilled value rfl) rfl)
  · rintro error s₁ ⟨rfl, -⟩
    exact ⟨fun _ hout => (nomatch hout), h⟩

/-- Returning a result that fails closed. -/
private theorem pure_regular (h : LinkReady s.vars) {dto : RoomDto} (hdto : Closed dto) :
    Ends env (isRegular ·) (pure dto : Controller RoomDto) s fun out s' => Reports out ∧ LinkReady s'.vars :=
  ⟨fun _ hout => Except.ok.inj hout ▸ hdto, h⟩

theorem cleanupPendingDto_closed {vars : Variables} (h : nothingReady vars = true) :
    Closed (cleanupPendingDto vars) := by
  simp only [nothingReady, Bool.and_eq_true, Bool.not_eq_true'] at h
  exact Closed.of_noLink rfl fun _ => h

/-- Opening and restarting are refused while a cleanup is pending. -/
private theorem unlessPending_regular (h : LinkReady s.vars) {p : Controller RoomDto}
    (hpending : s.vars.cleanupPending = true → nothingReady s.vars = true)
    (hp : ¬ s.vars.cleanupPending = true →
      Ends env (isRegular ·) p s fun out s' => Reports out ∧ LinkReady s'.vars) :
    Ends env (isRegular ·)
      (Script.read >>= fun vars => if vars.cleanupPending then pure (cleanupPendingDto vars) else p) s
      fun out s' => Reports out ∧ LinkReady s'.vars := by
  apply Ends.read_bind
  rw [Script.ends_ite]
  exact ⟨fun h' => pure_regular h (cleanupPendingDto_closed (hpending h')), hp⟩

/-- A running room reports its link with ready snapshots. -/
private theorem running_closed {vars : Variables} (h : LinkReady vars) {runtimeDto : Option RuntimeDto}
    (hrunning : reportsRunning runtimeDto = true)
    (htroubled : isTroubled runtimeDto = true → nothingReady vars = true) :
    Closed (withRoomReadiness vars runtimeDto noOverrides) :=
  withRoomReadiness_closed (fun hset => ⟨hrunning, (h hset).1, ready_of_relayIsReady (h hset).2⟩) htroubled

/-- A running room is reported if it is shared, and provisioned if it is not. -/
private theorem running_regular (h : LinkReady s.vars) {runtimeDto : Option RuntimeDto}
    (hrunning : reportsRunning runtimeDto = true)
    (hsafe : (if isShared s.vars then !isTroubled runtimeDto
      else provisionsSafely env options s.vars s.world runtimeDto) = true) (commandOptions : Json) :
    Ends env (isRegular ·)
      (if isShared s.vars then pure (withRoomReadiness s.vars runtimeDto noOverrides)
        else provisionOpenRoom options runtimeDto commandOptions) s
      fun out s' => Reports out ∧ LinkReady s'.vars := by
  rw [Script.ends_ite]
  constructor
  · intro hshared
    rw [if_pos hshared, Bool.not_eq_true'] at hsafe
    exact pure_regular h (running_closed h hrunning (by simp [hsafe]))
  · intro hshared
    rw [if_neg hshared] at hsafe
    exact provisionOpenRoom_regular hrunning hsafe commandOptions

theorem prepareRoom_regular (h : LinkReady s.vars) (prepareOptions : Json)
    (hsafe : reportsSafely env options s (.prepareRoom prepareOptions) = true) :
    Ends env (isRegular ·) (prepareRoom prepareOptions) s fun out s' => Reports out ∧ LinkReady s'.vars := by
  refine bridge_regular h fun prepared s₁ hvars₁ hanswer => ?_
  simp only [reportsSafely, hanswer, Bool.and_eq_true, Bool.or_eq_true, Bool.not_eq_true'] at hsafe
  rw [← hvars₁] at h hsafe
  apply Ends.read_bind
  refine pure_regular h (withRoomReadiness_closed ?_ ?_)
  · intro hset
    exact ⟨hsafe.1.resolve_left (by simp [hset]), (h hset).1, ready_of_relayIsReady (h hset).2⟩
  · exact fun htroubled => hsafe.2.resolve_left (by simp [htroubled])

theorem openRoom_regular (h : LinkReady s.vars) (openOptions : Json)
    (hsafe : reportsSafely env options s (.openRoom openOptions) = true) :
    Ends env (isRegular ·) (openRoom options openOptions) s fun out s' => Reports out ∧ LinkReady s'.vars := by
  refine unlessPending_regular h (fun hpending => by simpa only [reportsSafely, hpending, if_true] using hsafe) ?_
  intro hpending
  refine bridge_regular h fun opened s₁ hvars₁ hanswer => ?_
  simp only [reportsSafely, hpending, hanswer, Bool.false_eq_true, if_false, Bool.or_eq_true,
    Bool.not_eq_true'] at hsafe
  rw [← hvars₁] at h hsafe
  rw [Script.ends_ite]
  constructor
  · exact fun hrunning => provisionOpenRoom_regular hrunning (hsafe.resolve_left (by simp [hrunning])) _
  · intro _
    apply Ends.read_bind
    exact pure_regular h (withoutInviteReadiness_closed fun _ => rfl)

theorem closeRoom_regular (closeOptions : Json) :
    Ends env (isRegular ·) (closeRoom options closeOptions) s fun out s' => Reports out ∧ LinkReady s'.vars := by
  unfold closeRoom
  refine closing_regular fun relayClosed s₂ hready _ => ?_
  apply Ends.write_bind
  have hlink : ∀ vars : Variables, vars.active.inviteLink = none → LinkReady vars := by
    intro vars hvars hset
    rw [hvars] at hset
    cases hset
  refine (await_vars _).bind ?_ ?_
  · intro closed s₃ hvars₃
    rw [Script.ends_ite]
    constructor
    · intro _
      apply Ends.write_bind
      apply Ends.read_bind
      exact pure_regular (hlink _ rfl) (Closed.of_noLink rfl fun _ => ⟨rfl, hready⟩)
    · intro _
      apply Ends.write_bind
      apply Ends.read_bind
      refine pure_regular (hlink _ ?_) (Closed.of_noLink rfl fun _ => ⟨rfl, hready⟩)
      change s₃.vars.active.inviteLink = none
      rw [hvars₃]
  · intro error s₃ hvars₃
    exact ⟨fun _ hout => (nomatch hout), hlink _ (by rw [hvars₃])⟩

theorem restartRoom_regular (h : LinkReady s.vars) (restartOptions : Json)
    (hsafe : reportsSafely env options s (.restartRoom restartOptions) = true) :
    Ends env (isRegular ·) (restartRoom options restartOptions) s
      fun out s' => Reports out ∧ LinkReady s'.vars := by
  refine unlessPending_regular h (fun hpending => by simpa only [reportsSafely, hpending, if_true] using hsafe) ?_
  intro hpending
  refine bridge_regular h fun restarted s₁ hvars₁ hanswer => ?_
  simp only [reportsSafely, hpending, hanswer, Bool.false_eq_true, if_false, Bool.or_eq_true,
    Bool.not_eq_true'] at hsafe
  rw [← hvars₁] at h hsafe
  rw [Script.ends_ite]
  constructor
  · intro hrunning
    apply Ends.read_bind
    exact running_regular h hrunning (hsafe.resolve_left (by simp [hrunning])) _
  · intro _
    refine clearOpenRoomSideEffects_regular.bind ?_ ?_
    · rintro relayClosed s₂ ⟨-, hlink, -, hready⟩
      apply Ends.read_bind
      refine pure_regular (fun hset => ?_) (withoutInviteReadiness_closed fun _ => hready)
      rw [hlink] at hset
      cases hset
    · rintro error s₂ ⟨⟨_, hout⟩, _⟩
      cases hout

theorem status_regular (h : LinkReady s.vars) (hsafe : reportsSafely env options s .status = true) :
    Ends env (isRegular ·) status s fun out s' => Reports out ∧ LinkReady s'.vars := by
  refine bridge_regular h fun runtimeStatus s₁ hvars₁ hanswer => ?_
  simp only [reportsSafely, hanswer, Bool.or_eq_true, Bool.not_eq_true'] at hsafe
  rw [← hvars₁] at h hsafe
  apply Ends.read_bind
  rw [Script.ends_ite]
  constructor
  · intro hrunning
    rw [if_pos hrunning] at hsafe
    exact pure_regular h
      (running_closed h hrunning fun htroubled => hsafe.resolve_left (by simp [htroubled]))
  · intro hrunning
    rw [if_neg hrunning, Bool.not_eq_true'] at hsafe
    exact pure_regular h
      (withoutInviteReadiness_closed fun htroubled => hsafe.resolve_left (by simp [htroubled]))

theorem statusRoom_regular (h : LinkReady s.vars) (hsafe : reportsSafely env options s .statusRoom = true) :
    Ends env (isRegular ·) (statusRoom options) s fun out s' => Reports out ∧ LinkReady s'.vars := by
  refine bridge_regular h fun runtimeStatus s₁ hvars₁ hanswer => ?_
  simp only [reportsSafely, hanswer] at hsafe
  rw [← hvars₁] at h hsafe
  apply Ends.read_bind
  rw [Script.ends_ite]
  constructor
  · intro hrunning
    rw [if_pos hrunning] at hsafe
    exact running_regular h hrunning hsafe _
  · intro hrunning
    rw [if_neg hrunning, Bool.or_eq_true, Bool.not_eq_true', Bool.not_eq_true'] at hsafe
    exact pure_regular h
      (withoutInviteReadiness_closed fun htroubled => hsafe.resolve_left (by simp [htroubled]))

theorem command_regular (h : LinkReady s.vars) (command : Command)
    (hsafe : reportsSafely env options s command = true) :
    Ends env (isRegular ·) (command.script options) s fun out s' => Reports out ∧ LinkReady s'.vars := by
  cases command with
  | prepareRoom prepareOptions => exact prepareRoom_regular h prepareOptions hsafe
  | openRoom openOptions => exact openRoom_regular h openOptions hsafe
  | closeRoom closeOptions => exact closeRoom_regular closeOptions
  | restartRoom restartOptions => exact restartRoom_regular h restartOptions hsafe
  | status => exact status_regular h hsafe
  | statusRoom => exact statusRoom_regular h hsafe

/-- Every result of a session fails closed if relay and control plane answer regularly and every command meets a state
and a bridge's answer that it reports safely. -/
theorem reports_fail_closed (env : Environment σ) (options : Options) (world : σ) (commands : List Command)
    (hregular : ∀ call ∈ (Machine.run (step env options) (Session.initial world) commands).history,
      isRegular call = true)
    (hsafe : Machine.Along (step env options) (fun s command => reportsSafely env options s command = true)
      (Session.initial world) commands) :
    ∀ fired ∈ Machine.trace (step env options) (Session.initial world) commands, ∀ dto, fired.output = .ok dto →
      FailsClosed dto.response := by
  have hinitial : LinkReady (Session.initial world : Session σ).vars := fun hset => nomatch hset
  have hreports := Script.trace_invariant (I := fun s : Session σ => LinkReady s.vars) (R := Reports)
    (fun s command h hcommand => command_regular h command hcommand) hinitial hsafe hregular
  exact fun fired hfired dto hdto => (hreports fired hfired dto hdto).response

/-- A session of a shared room. -/
def sharedRoom : List Command := [.openRoom (.obj []), .status, .closeRoom (.obj [])]

theorem reports_fail_closed_shared :
    (∃ fired ∈ Machine.trace (step (runningDependencies true) hostOptions) (Session.initial 0) sharedRoom,
      ∃ dto, fired.output = .ok dto ∧ dto.inviteLink.isSome = true) ∧
    ∀ fired ∈ Machine.trace (step (runningDependencies true) hostOptions) (Session.initial 0) sharedRoom,
      ∀ dto, fired.output = .ok dto → FailsClosed dto.response :=
  ⟨⟨_, List.mem_cons_self, _, rfl, rfl⟩, reports_fail_closed _ _ _ sharedRoom (by decide) (by decide)⟩

/-- The dependencies of `runningDependencies`, but for a heartbeat that fails. -/
def heartbeatFails : Environment Nat
  | .heartbeatHost _, tunnels => (.rejected { message := none, value := .obj [] }, tunnels)
  | call, tunnels => runningDependencies true call tunnels

/-- After a failed heartbeat the invite is revoked, and the blocked result says that the control plane is ready. -/
theorem failed_heartbeat_reports_ready :
    ¬ ∀ fired ∈ Machine.trace (step heartbeatFails hostOptions) (Session.initial 0) [.openRoom (.obj [])],
      ∀ dto, fired.output = .ok dto → FailsClosed dto.response := by
  intro h
  obtain ⟨dto, hdto, hblocked, hready⟩ : ∃ dto,
      (step heartbeatFails hostOptions (Session.initial 0) (.openRoom (.obj []))).1 = .ok dto ∧
        dto.runtime.state = some .blocked ∧ dto.controlPlane.ready = true := ⟨_, rfl, rfl, rfl⟩
  have hclosed := (h _ (List.mem_singleton.2 rfl) dto hdto).2
  rw [response_state_path, response_controlPlane_ready, hblocked, hready] at hclosed
  have hfalse := (hclosed (.inl rfl)).1
  simp at hfalse

end EasyMc.Desktop.RoomController
