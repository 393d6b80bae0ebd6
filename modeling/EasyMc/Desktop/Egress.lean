import EasyMc.Desktop.Dto
import EasyMc.Desktop.State

/-!
# From the room controller to the window

A result of the room controller passes the command host's `sanitizeCommandResult` and the broker's
`sanitize_response` before the window's reducer sees it.  The reducer shows an invite link only when the relay's
session is ready, and both sanitizers drop every field named `session`: no result shows its link in the window
(`readiness_lost`).  Whatever the reducer is given, it shows a link only for an open room, and only one that may be
shared (`shown_link_sound`).
-/

namespace EasyMc.Desktop

/-- What the window receives for a result of the controller. -/
def egress (result : Json) : Json := Broker.sanitizeResponse (CommandHost.sanitizeCommandResult result)

/-- The link that the reducer shows for a result of a command. -/
def shownLink (builtins : Builtins) (state : RoomState) (command : Option Json) (result : Json) : Option String :=
  (reduceRoomState builtins state (.bridgeResult (some result) command)).inviteLink

/-- A running result with a shareable link, whose control plane, invite, relay and session are ready. -/
structure Shareable (builtins : Builtins) (dto : RoomDto) (link : String) : Prop where
  running : dto.runtime.state = some .running
  linked : dto.inviteLink = some link
  shareable : isShareableInviteLink builtins link = true
  controlPlane : dto.controlPlane.ready = true
  invite : dto.controlPlane.invite.ready = true
  relay : dto.relay.ready = true
  session : dto.relay.session.ready = true

variable {builtins : Builtins}

/-- A running result of a room command opens the room. -/
theorem response_opens {dto : RoomDto} (hrunning : dto.runtime.state = some .running) (state : RoomState) :
    setHas openRoomStatuses (.str (normalizeStatus builtins dto.response state)) = true := by
  have hstatus : dto.response.member "status" = none := dto.response_absent rfl
  have hstate : dto.response.member "state" = some (.str "running") := by
    rw [RoomDto.response_state, hrunning]
    rfl
  have hnormal : normalizeStatus builtins dto.response state = "running" := by
    rw [normalizeStatus, hstatus, hstate]
    rfl
  rw [hnormal]
  decide

/-- On the result itself the readiness test succeeds. -/
theorem inviteReadinessComplete_response {dto : RoomDto} {link : String} (h : Shareable builtins dto link) :
    inviteReadinessComplete dto.response true = true := by
  have hlink : dto.response.member "inviteLink" = some (.str link) := by
    rw [RoomDto.response_inviteLink, h.linked]
    rfl
  have hne : link ≠ "" := by
    rintro rfl
    have hshareable := h.shareable
    rw [isShareableInviteLink, builtins.parseUrl_empty] at hshareable
    cases hshareable
  have hcontrolPlane := dto.controlPlane.sanitized_ready "controlPlane"
  have hrelay := dto.relay.sanitized_ready "relay"
  have hready : dto.response.path ["controlPlane", "ready"] = some (.bool true) := by
    rw [Json.path, RoomDto.response_controlPlane, Option.bind_some, hcontrolPlane.1, h.controlPlane]
  have hinvite : dto.response.path ["controlPlane", "invite", "ready"] = some (.bool true) := by
    rw [Json.path, RoomDto.response_controlPlane, Option.bind_some, hcontrolPlane.2, h.invite]
  have hrelayReady : dto.response.path ["relay", "ready"] = some (.bool true) := by
    rw [Json.path, RoomDto.response_relay, Option.bind_some, hrelay.1, h.relay]
  have hsession : dto.response.path ["relay", "session", "ready"] = some (.bool true) := by
    rw [Json.path, RoomDto.response_relay, Option.bind_some, hrelay.2, h.session]
  simp [inviteReadinessComplete, hlink, hready, hinvite, hrelayReady, hsession, Json.asStr, Json.isTrue, hne]

/-- The broker drops the session of the relay. -/
theorem sanitizeResponse_session (result : Json) :
    (Broker.sanitizeResponse result).path ["relay", "session", "ready"] = none := by
  rw [Json.path, Broker.sanitizeResponse, Json.member_redact, if_neg (by decide)]
  cases result.member "relay" with
  | none => rfl
  | some relay =>
    rw [Option.map_some, Option.bind_some, Json.path, Json.member_redact, if_pos (by decide)]
    rfl

/-- No result of a room command shows its invite link in the window, although the reducer shows it on the result
itself. -/
theorem readiness_lost (builtins : Builtins) (state : RoomState) (command : Option Json) (dto : RoomDto)
    (link : String) (hcommand : command.bind Json.asStr ≠ some "server-command")
    (h : Shareable builtins dto link) :
    shownLink builtins state command dto.response = some link ∧
      shownLink builtins state command (egress dto.response) = none := by
  constructor
  · have hconsole : isConsoleCommandFailure command dto.response = false := by
      simp [isConsoleCommandFailure, hcommand]
    have hopen : setHas openRoomStatuses (.str (normalizeStatus builtins dto.response state)) = true :=
      response_opens h.running state
    have hready := inviteReadinessComplete_response h
    have hlink : dto.response.member "inviteLink" = some (.str link) := by
      rw [RoomDto.response_inviteLink, h.linked]
      rfl
    change (applyBridgeResult builtins state dto.response command).inviteLink = some link
    simp [applyBridgeResult, hconsole, effectiveBridgeStatus, roomOpenFromResult, hopen, hready, hlink, Json.asStr,
      h.shareable]
  · have hready (opened : Bool) : inviteReadinessComplete (egress dto.response) opened = false := by
      simp [inviteReadinessComplete, egress, sanitizeResponse_session]
    change (applyBridgeResult builtins state (egress dto.response) command).inviteLink = none
    simp [applyBridgeResult, hready]

/-- A result with its link, and the one URL it needs. -/
def sharedLink : String := "https://join.easymc.gg/?invite=abc"

def sharedBuiltins : Builtins :=
  { string := fun _ => ""
    stringify := fun _ => ""
    integer := fun _ => none
    parseUrl := fun link =>
      if link = sharedLink then some ⟨"https:", "", "", "join.easymc.gg", some "abc"⟩ else none
    parseUrl_empty := by decide
    normalizeMetrics := fun _ => none
    redactUiText := id }

def sharedDto : RoomDto :=
  { runtime := { RuntimeDto.empty with state := some .running }
    inviteLink := some sharedLink
    controlPlane := ⟨true, ⟨true, some "room", some "open"⟩, ⟨true, some 86400000⟩⟩
    relay := ⟨true, false, ⟨true, false⟩, none, none⟩ }

theorem readiness_lost_shared : shownLink sharedBuiltins initialRoomState none (egress sharedDto.response) = none :=
  (readiness_lost sharedBuiltins initialRoomState none sharedDto sharedLink (by decide)
    ⟨rfl, rfl, by decide, rfl, rfl, rfl, rfl⟩).2

/-- The window shows another link (none) than the one of the result. -/
theorem shared_link_lost :
    Shareable sharedBuiltins sharedDto sharedLink ∧
      shownLink sharedBuiltins initialRoomState none (egress sharedDto.response) ≠
        shownLink sharedBuiltins initialRoomState none sharedDto.response :=
  ⟨⟨rfl, rfl, by decide, rfl, rfl, rfl, rfl⟩, by decide⟩

/-! ### Links that are shown -/

/-- A link that is shown may be shared, and the room is open. -/
def LinkSound (builtins : Builtins) (state : RoomState) : Prop :=
  ∀ link, state.inviteLink = some link → state.opened = true ∧ isShareableInviteLink builtins link = true

theorem LinkSound.of_none {state : RoomState} (h : state.inviteLink = none) : LinkSound builtins state := by
  intro link hlink
  rw [h] at hlink
  cases hlink

/-- A step that keeps the link and does not close the room. -/
theorem LinkSound.congr {state state' : RoomState} (h : LinkSound builtins state)
    (hlink : state'.inviteLink = state.inviteLink) (hopened : state.opened = true → state'.opened = true) :
    LinkSound builtins state' := by
  intro link hshown
  obtain ⟨hopen, hshareable⟩ := h link (hlink ▸ hshown)
  exact ⟨hopened hopen, hshareable⟩

theorem linkSound_initial : LinkSound builtins initialRoomState := .of_none rfl

/-- The link of a result is shown only if it is ready, which it is only in an open room. -/
theorem linkSound_applyBridgeResult (state : RoomState) (result : Json) (command : Option Json) :
    LinkSound builtins (applyBridgeResult builtins state result command) := by
  intro link hlink
  unfold applyBridgeResult at hlink ⊢
  dsimp only at hlink ⊢
  generalize roomOpenFromResult result _ _ state = opened at hlink ⊢
  cases hready : inviteReadinessComplete result opened with
  | false =>
    rw [hready] at hlink
    cases hlink
  | true =>
    rw [hready, if_pos rfl, Option.filter_eq_some_iff] at hlink
    have hopened : opened = true := by
      simp only [inviteReadinessComplete, Bool.and_eq_true] at hready
      exact hready.1.1.1.1.1
    exact ⟨hopened, hlink.2⟩

/-- An event leaves the link of a room that stays open, or clears it. -/
theorem LinkSound.applyRuntimeEvent {state : RoomState} (h : LinkSound builtins state) (event : Json) :
    LinkSound builtins (applyRuntimeEvent builtins state event) := by
  unfold Desktop.applyRuntimeEvent
  dsimp only
  -- The console lines, which every event may add to, are of no account.
  by_cases hready : eventType builtins event = "runtime.ready"
  · rw [if_pos hready]
    exact h.congr rfl fun _ => rfl
  rw [if_neg hready]
  by_cases hcrashed : eventType builtins event = "runtime.crashed"
  · rw [if_pos hcrashed]
    exact .of_none rfl
  rw [if_neg hcrashed]
  by_cases hfailure : eventType builtins event = "runtime.failure"
  · rw [if_pos hfailure]
    exact .of_none rfl
  rw [if_neg hfailure]
  by_cases hexit : eventType builtins event = "runtime.exit"
  · rw [if_pos hexit]
    generalize (decide (textOr builtins (event.member "state") "stopped" = "running") ||
      decide (textOr builtins (event.member "state") "stopped" = "open")) = opened
    cases opened with
    | true => exact h.congr rfl fun _ => rfl
    | false => exact .of_none rfl
  rw [if_neg hexit]
  split
  · exact h.congr rfl id
  · exact h.congr rfl id

theorem LinkSound.reduceRoomState {state : RoomState} (h : LinkSound builtins state) (action : Action) :
    LinkSound builtins (reduceRoomState builtins state action) := by
  cases action with
  | bridgePending command status => exact h.congr rfl id
  | consoleAppend line =>
    unfold Desktop.reduceRoomState
    exact h.congr rfl id
  | runtimeEvent event => exact h.applyRuntimeEvent _
  | catalogSelect modId => exact h.congr rfl id
  | bridgeResult result command => exact linkSound_applyBridgeResult state _ command
  | bridgeError command message diagnostics =>
    unfold Desktop.reduceRoomState
    dsimp only
    -- The error of a console command leaves the room as it is, any other closes it.
    cases command.bind Json.asStr == some "server-command" with
    | true => exact h.congr rfl id
    | false => exact .of_none rfl
  | approve => exact h.congr rfl id
  | deny => exact h.congr rfl id
  | reset => exact linkSound_initial
  | other => exact h

theorem LinkSound.foldl {state : RoomState} (h : LinkSound builtins state) (actions : List Action) :
    LinkSound builtins (actions.foldl (Desktop.reduceRoomState builtins) state) := by
  induction actions generalizing state with
  | nil => exact h
  | cons action actions ih => exact ih (h.reduceRoomState action)

/-- The state of the window after a list of actions. -/
def windowState (builtins : Builtins) (actions : List Action) : RoomState :=
  actions.foldl (reduceRoomState builtins) initialRoomState

/-- Whatever the window is told, a link that it shows may be shared, and its room is open. -/
theorem shown_link_sound (actions : List Action) (link : String)
    (hlink : (windowState builtins actions).inviteLink = some link) :
    (windowState builtins actions).opened = true ∧ isShareableInviteLink builtins link = true := by
  exact linkSound_initial.foldl actions link hlink

/-- A link that is shown after a result of the controller itself, and kept by an event. -/
theorem shown_link_sound_shared :
    (windowState sharedBuiltins
      [.bridgeResult (some sharedDto.response) none, .runtimeEvent (some (.obj [("type", .str "runtime.ready")]))]).opened =
        true :=
  (shown_link_sound
    [.bridgeResult (some sharedDto.response) none, .runtimeEvent (some (.obj [("type", .str "runtime.ready")]))]
    sharedLink (by decide)).1

end EasyMc.Desktop
