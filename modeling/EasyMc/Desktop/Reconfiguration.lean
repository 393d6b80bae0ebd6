import EasyMc.Desktop.BridgeCommands
import EasyMc.Desktop.Invites
import EasyMc.Desktop.Requests
import EasyMc.Runtime.Processes

/-!
# Reconfiguration of the command host (`apps/desktop/src/runtime/desktop-command-host-process.mjs`)

`createDesktopCommandHostForDevRuntime` answers one request after the other.  A request that chooses other mods, and
every reset, has a new plan created and replaces the runtime bridge and the room controller when the plan is there;
events of the processes come in between, and with the answers of the calls.  The bridge of a room controller is run
inside its environment, which also answers for the control plane and the relays.

The check before a replacement reads the state of the lifecycle manager only.  What is dropped holds nothing
(`drops_nothing_live`) if at that time there is no process, tunnel or invite on record, and if nothing has been lost
from the record before.
-/

namespace EasyMc.Desktop.DevRuntime

open RoomController (ActiveRoom Command JsError Outcome Session accountsForInvites activeInvites closableRelay
  openTunnels provisions recordsInvite)
open RuntimeBridge (Accounted ProcessEvent Reply)

/-! ### Options -/

/-- The options of a plan that a request chooses.  `runtimePlanSignature` is the JSON text of the two. -/
structure RuntimePlanOptions where
  minecraftVersion : String
  catalogModId : String
  deriving DecidableEq, Repr

def normalizeRuntimePlanOptions (minecraftVersion catalogModId : Option String) : RuntimePlanOptions :=
  { minecraftVersion := minecraftVersion.getD "1.21.1", catalogModId := catalogModId.getD "performance-core" }

/-- The options of the host that are no functions; `setInvite` is that of the room controller. -/
structure Options where
  minecraftVersion : Option String
  catalogModId : Option String
  hostId : Option String
  inviteBaseUrl : Option String
  setInvite : String → String → Option String
  bridge : RuntimeBridge.Settings

def Options.runtimePlanOptions (options : Options) : RuntimePlanOptions :=
  normalizeRuntimePlanOptions options.minecraftVersion options.catalogModId

/-- The options of `createRoomController`. -/
def roomOptions (options : Options) (plan : Json) : RoomController.Options :=
  { runtimePlan := some plan
    hostId := options.hostId.or ((plan.path ["room", "hostId"]).bind Json.asStr)
    inviteBaseUrl := options.inviteBaseUrl.getD "https://easy-mc.local/invite"
    setInvite := options.setInvite }

/-! ### The bridge in the environment of its room controller -/

/-- The bridge of a room controller, and the state of what it depends on. -/
structure World (τ : Type) where
  bridge : RuntimeBridge.State
  rest : τ

/-- What answers the calls of the bridge and the other calls of the room controller. -/
structure Dependencies (τ : Type) where
  bridge : Script.Environment RuntimeBridge.Call RuntimeBridge.Call.Answer τ
  room : (call : RoomController.Call) → τ → Reply call.Answer × τ

section Environment

variable {τ : Type} (options : Options) (dependencies : Dependencies τ)

/-- A command of the bridge. -/
def runBridge (command : RuntimeBridge.Commands RuntimeDto) (world : World τ) :
    Except JsError RuntimeDto × World τ :=
  let (result, session) := Script.perform dependencies.bridge command ⟨⟨world.rest, []⟩, world.bridge⟩
  (result, { bridge := session.vars, rest := session.world })

/-- A promise of the bridge. -/
def bridgeOutcome : Except JsError RuntimeDto → Outcome (Option RuntimeDto)
  | .ok runtimeDto => .fulfilled (some runtimeDto)
  | .error error => .rejected error

def answerOfBridge (command : RuntimeBridge.Commands RuntimeDto) (world : World τ) :
    Outcome (Option RuntimeDto) × World τ :=
  let (result, world) := runBridge dependencies command world
  (bridgeOutcome result, world)

def environment : RoomController.Environment (World τ)
  | .prepareRoom _, world => answerOfBridge dependencies (RuntimeBridge.prepareRoom options.bridge) world
  | .openRoom openOptions, world =>
    answerOfBridge dependencies (RuntimeBridge.openRoom options.bridge openOptions) world
  | .closeRoom _, world => answerOfBridge dependencies (RuntimeBridge.closeRoom options.bridge) world
  | .restartRoom restartOptions, world =>
    answerOfBridge dependencies (RuntimeBridge.restartRoom options.bridge restartOptions) world
  | .status, world => (.fulfilled (some (RuntimeBridge.status world.bridge.toBridge)), world)
  | call, world =>
    let (reply, rest) := dependencies.room call world.rest
    (reply.value, { bridge := world.bridge.observe options.bridge reply.events, rest })

end Environment

/-! ### The host -/

/-- What goes on when the plan is there: a command of the room controller, or a reset. -/
inductive Pending
  | command (command : Command)
  | reset

structure Host (τ : Type) where
  runtimePlanOptions : RuntimePlanOptions
  runtimePlan : Json
  session : Session (World τ)
  pending : Option Pending

/-- The result of a command. -/
inductive Result
  | blocked (dto : BlockedDto)
  | room (dto : RoomDto)
  | runtime (dto : RuntimeDto)
  | idle (summary : String)

/-- The answer to a request, and the bridge and the room controller that are dropped. -/
structure Output (τ : Type) where
  response : Option (Except JsError Result)
  dropped : Option (Session (World τ))

inductive Input
  | request (command : DesktopRuntimeCommand) (request : Json)
  | event (event : ProcessEvent)
  | planCreated (plan : Except JsError Json)

/-- A new bridge and a new room controller for a plan. -/
def newSession {τ : Type} (plan : Json) (rest : τ) : Session (World τ) :=
  RoomController.Session.initial { bridge := RuntimeBridge.createDesktopRuntimeBridge plan, rest }

/-- The host when its first plan is there. -/
def Host.initial {τ : Type} (options : Options) (plan : Json) (rest : τ) : Host τ :=
  { runtimePlanOptions := options.runtimePlanOptions, runtimePlan := plan, session := newSession plan rest,
    pending := none }

/-- What `invoke` does with a request. -/
inductive Action
  | answer (dto : BlockedDto)
  | room (command : Command)
  | configure (next : RuntimePlanOptions) (command : Command)
  | sendServerCommand (request : Json)
  | resetRoom

section Step

variable {τ : Type} (options : Options) (dependencies : Dependencies τ) (h : Host τ)

/-- `configureRuntimeForRequest` before a command, up to the creation of the plan. -/
def configureRuntimeForRequest (request : Json) (command : Command) : Action :=
  let next := normalizeRuntimePlanOptions (RuntimeBridge.stringMember "minecraftVersion" (some request))
    (RuntimeBridge.stringMember "catalogModId" (some request))
  if next = h.runtimePlanOptions then .room command
  else if RuntimeBridge.isOpenState (RuntimeBridge.currentState h.session.world.bridge.toBridge) then
    .answer ⟨"runtime_reconfiguration_blocked", "Close the current room before changing the selected mods."⟩
  else .configure next command

/-- `{ ...request, downloadFabric: true, requireFabricDownload: true }`. -/
def withFabricDownload (request : Json) : Json :=
  .obj ([("downloadFabric", some (.bool true)), ("requireFabricDownload", some (.bool true))].foldl
    RuntimeBridge.setField request.fields)

def action (command : DesktopRuntimeCommand) (request : Json) : Action :=
  match sanitizeRendererRequest command request with
  | .error message => .answer ⟨"invalid_request", message⟩
  | .ok request =>
    match command with
    | .prepareRoom => configureRuntimeForRequest h request (.prepareRoom request)
    | .openRoom => configureRuntimeForRequest h request (.openRoom (withFabricDownload request))
    | .closeRoom => .room (.closeRoom request)
    | .restartRoom => configureRuntimeForRequest h request (.restartRoom (withFabricDownload request))
    | .sendServerCommand => .sendServerCommand request
    | .statusRoom => .room .statusRoom
    | .resetRoom => .resetRoom

/-- A command of the room controller. -/
def roomStep (command : Command) : Except JsError RoomDto × Session (World τ) :=
  RoomController.step (environment options dependencies) (roomOptions options h.runtimePlan) h.session command

def resetReason : Json := .obj [("reason", .str "desktop_reset")]

/-- The answer that a command of the room controller gives. -/
def roomOutput (result : Except JsError RoomDto) (dropped : Option (Session (World τ))) : Output τ :=
  { response := some (result.map .room), dropped }

def waiting : Output τ := { response := none, dropped := none }

def perform : Action → Output τ × Host τ
  | .answer dto => ({ response := some (.ok (.blocked dto)), dropped := none }, h)
  | .room command =>
    let (result, session) := roomStep options dependencies h command
    (roomOutput result none, { h with session })
  | .configure next command =>
    (waiting, { h with runtimePlanOptions := next, pending := some (.command command) })
  | .sendServerCommand request =>
    let (result, world) :=
      runBridge dependencies (RuntimeBridge.sendServerCommand options.bridge request) h.session.world
    ({ response := some (result.map .runtime), dropped := none }, { h with session := { h.session with world } })
  | .resetRoom =>
    let (result, session) := roomStep options dependencies h (.closeRoom resetReason)
    match result with
    | .error error => ({ response := some (.error error), dropped := none }, { h with session })
    -- Whether the room is closed is not asked.
    | .ok _ =>
      (waiting, { h with session, runtimePlanOptions := options.runtimePlanOptions, pending := some .reset })

/-- The bridge and the room controller are replaced. -/
def Host.replace (plan : Json) : Host τ :=
  { h with runtimePlan := plan, session := newSession plan h.session.world.rest, pending := none }

def planCreated (plan : Except JsError Json) : Output τ × Host τ :=
  match h.pending, plan with
  | none, _ => (waiting, h)
  | some _, .error error => ({ response := some (.error error), dropped := none }, { h with pending := none })
  | some (.command command), .ok plan =>
    let (result, session) := roomStep options dependencies (h.replace plan) command
    (roomOutput result (some h.session), { h.replace plan with session })
  | some .reset, .ok plan =>
    ({ response := some (.ok (.idle "Desktop command host was reset.")), dropped := some h.session }, h.replace plan)

/-- A request waits for the answer to the one before it. -/
def step : Input → Output τ × Host τ
  | .request command request =>
    match h.pending with
    | none => perform options dependencies h (action h command request)
    | some _ => (waiting, h)
  | .event event =>
    let world := { h.session.world with bridge := h.session.world.bridge.observe options.bridge [event] }
    (waiting, { h with session := { h.session with world } })
  | .planCreated plan => planCreated options dependencies h plan

end Step

/-! ### What is dropped -/

/-- A bridge and a room controller without a server process, an open tunnel or an active invite. -/
structure NothingLive {τ : Type} (s : Session (World τ)) : Prop where
  noProcess : ∀ manager, s.world.bridge.lifecycleManager = some manager → ∀ child, ¬ Runtime.Alive manager child
  noTunnel : openTunnels s.history = []
  noInvite : activeInvites s.history = []

/-- The active room records a relay and a room with a tunnel id, or an invite. -/
def recordsRoom (active : ActiveRoom) : Bool :=
  ((closableRelay active).isSome && active.tunnelId.isSome) || recordsInvite active

/-- The manager has kept its reference to its process, except for an exit, in all of its steps so far. -/
def KeepsProcess (options : Options) (bridge : RuntimeBridge.State) : Prop :=
  Machine.Along (Runtime.step (options.bridge.lifecycle bridge.managerPlan).runtime)
    (fun m label => Runtime.replacesProcess m label = true → Runtime.currentAlive m = false)
    Runtime.createLocalServerLifecycleManager bridge.steps

instance (options : Options) (bridge : RuntimeBridge.State) : Decidable (KeepsProcess options bridge) :=
  inferInstanceAs (Decidable (Machine.Along _ _ _ _))

/-- The state in which a bridge and a room controller may be replaced: nothing is on record, and nothing has been lost
from the record. -/
structure Replaceable {τ : Type} (options : Options) (s : Session (World τ)) : Prop where
  noProcess : (s.world.bridge.lifecycleManager.any Runtime.hasProcess) = false
  noRoom : recordsRoom s.vars.active = false
  keepsProcess : KeepsProcess options s.world.bridge
  accountsForInvites : ∀ call ∈ s.history, accountsForInvites call = true

/-- A room is provisioned only where none is recorded, and the bridge is replaced only where it may be. -/
def Orderly {τ : Type} (options : Options) (dependencies : Dependencies τ) (h : Host τ) : Input → Prop
  | .request command request =>
    h.pending = none → ∀ roomCommand, action h command request = .room roomCommand →
      provisions (environment options dependencies) h.session roomCommand = true →
        recordsRoom h.session.vars.active = false
  | .planCreated (.ok _) => h.pending.isSome = true → Replaceable options h.session
  | _ => True

section Invariant

variable {τ : Type} {options : Options} {dependencies : Dependencies τ} {h : Host τ}

/-- What a session keeps: its manager is in the state of its steps, and tunnels and invites are on record, the latter
as long as the calls account for them. -/
structure Sound (options : Options) (s : Session (World τ)) : Prop where
  manager : Accounted options.bridge s.world.bridge
  tunnels : RoomController.Tracked s
  invites : (∀ call ∈ s.history, accountsForInvites call = true) → RoomController.Invited s

theorem Sound.new (plan : Json) (rest : τ) : Sound options (newSession plan rest) where
  manager := fun _ hmanager => nomatch hmanager
  tunnels := RoomController.Tracked.of_none (by simp [RoomController.OpensOneAtATime, newSession,
    RoomController.Session.initial]) rfl
  invites := fun _ => RoomController.Invited.of_none rfl

/-- The bridge and what it depends on go on by themselves. -/
theorem Sound.world {s : Session (World τ)} (h : Sound options s) {world : World τ}
    (hmanager : Accounted options.bridge world.bridge) : Sound options { s with world } where
  manager := hmanager
  tunnels := ⟨h.tunnels.oneAtATime, h.tunnels.recorded⟩
  invites := fun haccounts => h.invites haccounts

theorem runBridge_accounted {world : World τ} (h : Accounted options.bridge world.bridge)
    {command : RuntimeBridge.Commands RuntimeDto}
    (hkeeps : Script.Keeps dependencies.bridge (fun _ => True) (Accounted options.bridge) command) :
    Accounted options.bridge (runBridge dependencies command world).2.bridge :=
  (hkeeps ⟨⟨world.rest, []⟩, world.bridge⟩ h).perform fun _ _ => trivial

theorem environment_accounted (call : RoomController.Call) {world : World τ}
    (h : Accounted options.bridge world.bridge) :
    Accounted options.bridge (environment options dependencies call world).2.bridge := by
  cases call with
  | prepareRoom _ => exact runBridge_accounted h RuntimeBridge.prepareRoom_keeps
  | openRoom openOptions => exact runBridge_accounted h (RuntimeBridge.openRoom_keeps openOptions)
  | closeRoom _ => exact runBridge_accounted h RuntimeBridge.closeRoom_keeps
  | restartRoom restartOptions => exact runBridge_accounted h (RuntimeBridge.restartRoom_keeps restartOptions)
  | status => exact h
  | _ => exact h.observe _

/-- Where no room is recorded, no tunnel is. -/
theorem not_records_of_recordsRoom {active : ActiveRoom} (hrecords : recordsRoom active = false)
    {tunnel : RoomController.TunnelRef} (hset : RoomController.isSet tunnel.roomId = true) :
    ¬ RoomController.Records active tunnel := by
  rintro ⟨hrelay, htunnel, hroom⟩
  simp [recordsRoom, closableRelay, hrelay, htunnel, hroom, hset] at hrecords

theorem recordsInvite_of_recordsRoom {active : ActiveRoom} (hrecords : recordsRoom active = false) :
    recordsInvite active = false :=
  (Bool.or_eq_false_iff.1 hrecords).2

theorem roomStep_sound (hsound : Sound options h.session) (command : Command)
    (hprovisions : provisions (environment options dependencies) h.session command = true →
      recordsRoom h.session.vars.active = false) :
    Sound options (roomStep options dependencies h command).2 where
  manager := Script.perform_world (W := fun world : World τ => Accounted options.bridge world.bridge)
    (fun call _ hworld => environment_accounted call hworld) _ hsound.manager
  tunnels := by
    have hclosed : provisions (environment options dependencies) h.session command = true →
        ∀ tunnel ∈ openTunnels h.session.history, ¬ RoomController.Records h.session.vars.active tunnel :=
      fun hyes tunnel ht => not_records_of_recordsRoom (hprovisions hyes) (hsound.tunnels.recorded tunnel ht).2
    exact (RoomController.command_tracked hsound.tunnels command hclosed).perform
      (A := fun _ => True) fun _ _ => trivial
  invites := by
    intro haccounts
    have hbefore : ∀ call ∈ h.session.history, accountsForInvites call = true := fun call hcall =>
      haccounts call
        ((Script.perform_history (command.script (roomOptions options h.runtimePlan)) h.session).subset hcall)
    have hinvites : provisions (environment options dependencies) h.session command = true →
        recordsInvite h.session.vars.active = false :=
      fun hyes => recordsInvite_of_recordsRoom (hprovisions hyes)
    exact (RoomController.command_invited (hsound.invites hbefore) command hinvites).perform haccounts

theorem closeRoom_sound (hsound : Sound options h.session) (closeOptions : Json) :
    Sound options (roomStep options dependencies h (.closeRoom closeOptions)).2 :=
  roomStep_sound hsound _ fun hprovisions => nomatch hprovisions

theorem perform_sound (hsound : Sound options h.session) (action : Action)
    (hprovisions : ∀ command, action = .room command →
      provisions (environment options dependencies) h.session command = true →
        recordsRoom h.session.vars.active = false) :
    Sound options (perform options dependencies h action).2.session := by
  cases action with
  | answer dto => exact hsound
  | room command => exact roomStep_sound hsound command (hprovisions command rfl)
  | configure next command => exact hsound
  | sendServerCommand request =>
    exact hsound.world (runBridge_accounted hsound.manager (RuntimeBridge.sendServerCommand_keeps request))
  | resetRoom =>
    have hclosed : Sound options (roomStep options dependencies h (.closeRoom resetReason)).2 :=
      closeRoom_sound hsound resetReason
    unfold perform
    dsimp only
    split
    · exact hclosed
    · exact hclosed

theorem planCreated_sound (hsound : Sound options h.session) (plan : Except JsError Json) :
    Sound options (planCreated options dependencies h plan).2.session := by
  unfold planCreated
  split
  · exact hsound
  · exact hsound
  · rename_i command plan _
    exact roomStep_sound (h := h.replace plan) (Sound.new _ _) command fun _ => rfl
  · exact Sound.new _ _

theorem step_sound (hsound : Sound options h.session) (input : Input)
    (horderly : Orderly options dependencies h input) :
    Sound options (step options dependencies h input).2.session := by
  cases input with
  | request command request =>
    unfold step
    cases hpending : h.pending with
    | some _ => exact hsound
    | none => exact perform_sound hsound _ (horderly hpending)
  | event event => exact hsound.world (hsound.manager.observe [event])
  | planCreated plan => exact planCreated_sound hsound plan

/-- Only a plan that is created drops something, and that is the session before. -/
theorem step_dropped {input : Input} {dropped : Session (World τ)}
    (hdropped : (step options dependencies h input).1.dropped = some dropped) :
    h.pending.isSome = true ∧ dropped = h.session ∧ ∃ plan, input = .planCreated (.ok plan) := by
  cases input with
  | request command request =>
    unfold step at hdropped
    cases hpending : h.pending with
    | some _ =>
      rw [hpending] at hdropped
      cases hdropped
    | none =>
      rw [hpending] at hdropped
      dsimp only at hdropped
      unfold perform at hdropped
      split at hdropped
      · cases hdropped
      · cases hdropped
      · cases hdropped
      · cases hdropped
      · dsimp only at hdropped
        split at hdropped <;> cases hdropped
  | event event => cases hdropped
  | planCreated plan =>
    change (planCreated options dependencies h plan).1.dropped = some dropped at hdropped
    unfold planCreated at hdropped
    split at hdropped
    · cases hdropped
    · cases hdropped
    · rename_i command plan hpending
      exact ⟨by rw [hpending]; rfl, (Option.some.inj hdropped).symm, plan, rfl⟩
    · rename_i plan hpending
      exact ⟨by rw [hpending]; rfl, (Option.some.inj hdropped).symm, plan, rfl⟩

/-- Where nothing is on record and nothing has been lost from the record, nothing is live. -/
theorem Sound.nothingLive {s : Session (World τ)} (hsound : Sound options s) (hreplaceable : Replaceable options s) :
    NothingLive s where
  noProcess := by
    intro manager hmanager
    have hsteps : manager =
        Runtime.run (options.bridge.lifecycle s.world.bridge.managerPlan).runtime s.world.bridge.steps :=
      hsound.manager manager hmanager
    have hno : Runtime.hasProcess manager = false := by
      have hnone := hreplaceable.noProcess
      rw [hmanager] at hnone
      exact hnone
    have hone := Runtime.one_process (options.bridge.lifecycle s.world.bridge.managerPlan).runtime s.world.bridge.steps
      hreplaceable.keepsProcess
    rw [hsteps] at hno ⊢
    exact hone.2 hno
  noTunnel := by
    rw [List.eq_nil_iff_forall_not_mem]
    intro tunnel ht
    obtain ⟨hrecords, hset⟩ := hsound.tunnels.recorded tunnel ht
    exact not_records_of_recordsRoom hreplaceable.noRoom hset hrecords
  noInvite :=
    (hsound.invites hreplaceable.accountsForInvites).none_active (recordsInvite_of_recordsRoom hreplaceable.noRoom)

end Invariant

/-- A run that provisions a room only where none is recorded, and replaces the bridge and the room controller only
where they may be replaced, drops none with a server process, an open tunnel or an active invite. -/
theorem drops_nothing_live {τ : Type} (options : Options) (dependencies : Dependencies τ) (plan : Json) (rest : τ)
    (inputs : List Input)
    (horderly : Machine.Along (step options dependencies) (Orderly options dependencies)
      (Host.initial options plan rest) inputs) :
    ∀ fired ∈ Machine.trace (step options dependencies) (Host.initial options plan rest) inputs,
      ∀ dropped, fired.output.dropped = some dropped → NothingLive dropped := by
  have hrun : (∀ fired ∈ Machine.trace (step options dependencies) (Host.initial options plan rest) inputs,
        ∀ dropped, fired.output.dropped = some dropped → NothingLive dropped) ∧
      Sound options (Machine.run (step options dependencies) (Host.initial options plan rest) inputs).session := by
    refine Machine.trace_invariant (H := fun trace h =>
      (∀ fired ∈ trace, ∀ dropped, fired.output.dropped = some dropped → NothingLive dropped) ∧ Sound options h.session)
      ?_ ⟨by simp, Sound.new plan rest⟩ horderly
    rintro trace h input ⟨htrace, hsound⟩ horderly
    refine ⟨?_, step_sound hsound input horderly⟩
    intro fired hfired dropped hdropped
    rcases List.mem_append.1 hfired with hbefore | hlast
    · exact htrace fired hbefore dropped hdropped
    · obtain rfl := List.mem_singleton.1 hlast
      obtain ⟨hpending, rfl, plan, rfl⟩ := step_dropped hdropped
      exact hsound.nothingLive (horderly hpending)
  exact hrun.1

/-- Dependencies that do what they are asked for; a server that is asked to stop exits. -/
def workingDependencies : Dependencies Nat where
  bridge
    | .detectJava _, rest =>
      (⟨[], .fulfilled (.ok { path := .str "java", majorVersion := some (.num "21"), version := none, vendor := none,
                              source := none })⟩, rest)
    | .bootstrapFabricServer _, rest => (⟨[], .fulfilled (.ok ())⟩, rest)
    | .materializeRoom _, rest => (⟨[], .fulfilled (.ok (.obj [("ok", .bool true)]))⟩, rest)
    | .launch _ _, rest => (⟨[], .fulfilled (.spawned Runtime.localServerIntent true)⟩, rest)
    | .processExit, rest => (⟨[.exit 0 (some 0) none], false⟩, rest)
    | .writeServerCommand, rest => (⟨[], none⟩, rest)
  room call rest :=
    let (answer, rest) := RoomController.runningDependencies true call rest
    (⟨[], answer⟩, rest)

def devOptions : Options where
  minecraftVersion := none
  catalogModId := none
  hostId := none
  inviteBaseUrl := none
  setInvite base token := some (base ++ "?invite=" ++ token)
  bridge :=
    { minimumMajorVersion := none, mode := none
      lifecycle := fun _ =>
        { runtime := Runtime.sampleOptions
          launchFailure := fun reason => { reason, message := "", detail := none }
          stopIntentFailure := .null } }

/-- What a plan says about its room and its pack. -/
def devPlan (packId : String) : Json :=
  .obj [("room", .obj [("id", .str "mvp0-room"), ("hostId", .str "desktop-host"), ("name", .str "MVP-0 Desktop Room"),
      ("minecraftVersion", .str "1.21.1")]),
    ("pack", .obj [("id", .str packId)])]

/-- Other mods are chosen, and their plan is created. -/
def otherMods : List Input :=
  [.request .prepareRoom catalogRequest, .planCreated (.ok (devPlan "mvp1-curated-lithium-1.21.1"))]

def devHost : Host Nat := Host.initial devOptions (devPlan "mvp1-curated-performance-core-1.21.1") 0

/-- A room that is opened, shared and closed before other mods are chosen. -/
def closedRoom : List Input :=
  [.request .openRoom (.obj []), .event (.data 0 .stdout ['D', 'o', 'n', 'e', '\n']), .request .statusRoom (.obj []),
    .request .closeRoom (.obj [])] ++ otherMods

theorem drops_nothing_live_closed :
    (∃ fired ∈ Machine.trace (step devOptions workingDependencies) devHost closedRoom,
      fired.output.dropped.isSome = true) ∧
    ∀ fired ∈ Machine.trace (step devOptions workingDependencies) devHost closedRoom,
      ∀ dropped, fired.output.dropped = some dropped → NothingLive dropped := by
  refine ⟨⟨_, List.mem_of_getElem? (i := 5) rfl, rfl⟩, ?_⟩
  refine drops_nothing_live devOptions workingDependencies _ 0 closedRoom ⟨?_, trivial, ?_, ?_, ?_, ?_, trivial⟩
  · exact fun _ _ _ _ => rfl
  · exact fun _ _ _ _ => rfl
  · intro _ command haction hprovisions
    obtain rfl : Command.closeRoom (.obj []) = command := Action.room.inj haction
    cases hprovisions
  · exact fun _ _ _ _ => rfl
  · exact fun _ => ⟨rfl, rfl, by decide, by decide⟩

/-- A room whose server logs an error, and runs on, when other mods are chosen. -/
def failingRoom : List Input :=
  [.request .openRoom (.obj []), .event (.data 0 .stdout ['E', 'R', 'R', 'O', 'R', '\n'])] ++ otherMods

/-- The log line marks the server as crashed, and the check before the replacement lets it pass. -/
theorem live_server_dropped :
    ¬ ∀ (options : Options) (dependencies : Dependencies Nat) (plan : Json) (rest : Nat) (inputs : List Input),
      ∀ fired ∈ Machine.trace (step options dependencies) (Host.initial options plan rest) inputs,
        ∀ dropped, fired.output.dropped = some dropped → NothingLive dropped := by
  intro h
  have hlive := h devOptions workingDependencies (devPlan "mvp1-curated-performance-core-1.21.1") 0 failingRoom _
    (List.mem_cons_of_mem _ (List.mem_cons_of_mem _ (List.mem_cons_of_mem _ List.mem_cons_self))) _ rfl
  exact hlive.noProcess _ rfl 0 ⟨_, rfl, rfl⟩

end EasyMc.Desktop.DevRuntime
