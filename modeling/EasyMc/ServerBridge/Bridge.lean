import EasyMc.Library.JsMap
import EasyMc.Library.Machine
import EasyMc.Library.Stringify
import EasyMc.Protocol

/-!
# The server bridge (`mods/server-bridge-fabric/src/server-bridge.mjs`)

`createServerBridgeState` and its operations.  The bridge keeps the players that may join, those that are blocked and
the joins that wait for the host's decision, each under the Minecraft UUID; a UUID that JavaScript may miss is an
`Option String`.

An operation that changes the state is a function from states to a reply and the next state; `step` is one operation.
-/

namespace EasyMc.ServerBridge

/-! ### Vocabulary -/

inductive BridgeJoinState
  | allowed | pendingApproval | denied | blocked
  deriving DecidableEq, Repr

/-- `other` is a decision that the bridge does not know. -/
inductive BridgeDecisionType
  | approved | denied | blocked
  | other (decision : Option String)
  deriving DecidableEq, Repr

/-- `other` is a policy that the bridge does not know; it is treated as `allowPreviouslyApproved`. -/
inductive ControlPlaneOutagePolicy
  | allowPreviouslyApproved | denyAll
  | other (policy : String)
  deriving DecidableEq, Repr

namespace InGameMessages

def pending : String := "호스트가 승인하면 다시 들어올 수 있습니다."

def denied : String := "호스트가 요청을 거절했습니다. 다시 초대받은 뒤 시도해 주세요."

def blocked : String := "이 방에 들어올 수 없습니다."

def controlPlaneOffline : String := "방 승인 상태를 확인할 수 없어 잠시 후 다시 시도해 주세요."

end InGameMessages

structure Failure where
  reason : String
  message : String
  deriving DecidableEq, Repr

structure Player where
  uuid : Option String
  name : Option String
  deriving DecidableEq, Repr

/-- The event of a join that waits for the host. -/
structure ApprovalRequested where
  roomId : String
  connectionId : Option String
  friendId : Option String
  displayName : Option String
  minecraftUuid : Option String
  claimedMinecraftUuid : Option String
  requiresHostApproval : Bool
  identityMismatch : Bool
  deriving DecidableEq, Repr

inductive BridgeEvent
  | joinBlocked (roomId : String) (minecraftUuid : Option String)
  | joinDenied (roomId : String) (minecraftUuid : Option String) (reason : String)
  | joinAllowed (roomId : String) (minecraftUuid : Option String)
  | approvalRequested (event : ApprovalRequested)
  | allowlistUpdated (roomId : String) (minecraftUuid : Option String) (decision : BridgeDecisionType)
  | playerBlocked (roomId : String) (minecraftUuid : Option String)
  | playerDenied (roomId : String) (minecraftUuid : Option String)
  deriving DecidableEq, Repr

/-- What `createServerBridgeState` is given. -/
structure Config where
  roomId : Option String
  allowlistPath : Option String
  outagePolicy : Option ControlPlaneOutagePolicy
  controlPlaneOnline : Option Bool
  allowlist : List Player
  blocked : List Player

structure State where
  roomId : String
  allowlistPath : String
  outagePolicy : ControlPlaneOutagePolicy
  controlPlaneOnline : Bool
  approved : JsMap (Option String) Player
  blocked : JsMap (Option String) Player
  pending : JsMap (Option String) ApprovalRequested
  lastEvent : Option BridgeEvent

/-! ### The whitelist file -/

/-- `{ uuid: player.uuid, name: player.name ?? player.uuid }`. -/
def named (player : Player) : Player := { player with name := player.name.or player.uuid }

def normalizePlayers (players : List Player) : JsMap (Option String) Player :=
  JsMap.ofEntries (players.map fun player => (player.uuid, named player))

def Player.toJson (player : Player) : Json :=
  Json.object [("uuid", Json.ofStr player.uuid), ("name", Json.ofStr player.name)]

def serializeMinecraftWhitelist (players : List Player) : List Char :=
  (Json.arr (players.map fun player => (named player).toJson)).pretty 2 ++ ['\n']

structure Persistence where
  path : String
  kind : String
  contents : List Char
  deriving DecidableEq, Repr

def createAllowlistPersistence (state : State) : Persistence :=
  { path := state.allowlistPath
    kind := "minecraft-whitelist"
    contents := serializeMinecraftWhitelist state.approved.values }

def createServerBridgeState (config : Config) : State :=
  { roomId := config.roomId.getD "local-room"
    allowlistPath := config.allowlistPath.getD "whitelist.json"
    outagePolicy := config.outagePolicy.getD .allowPreviouslyApproved
    controlPlaneOnline := config.controlPlaneOnline ≠ some false
    approved := normalizePlayers config.allowlist
    blocked := normalizePlayers config.blocked
    pending := .empty
    lastEvent := none }

/-! ### Operations -/

structure ClaimedIdentity where
  friendId : Option String
  minecraftUuid : Option String
  deriving DecidableEq, Repr

structure JoinInput where
  serverObservedUuid : Option String
  connectionId : Option String
  displayName : Option String
  claimedIdentity : Option ClaimedIdentity
  deriving DecidableEq, Repr

structure Observation where
  state : BridgeJoinState
  allowed : Bool
  minecraftUuid : Option String
  event : Option ApprovalRequested
  kickMessage : Option String
  deriving DecidableEq, Repr

/-- The join of a player is refused, or waits, with a message. -/
def refusal (state : BridgeJoinState) (minecraftUuid : Option String) (kickMessage : String) : Observation :=
  { state, allowed := false, minecraftUuid, event := none, kickMessage := some kickMessage }

def approvalRequest (state : State) (input : JoinInput) : ApprovalRequested :=
  let minecraftUuid := input.serverObservedUuid
  let claimedMinecraftUuid := input.claimedIdentity.bind ClaimedIdentity.minecraftUuid
  { roomId := state.roomId
    connectionId := input.connectionId
    friendId := input.claimedIdentity.bind ClaimedIdentity.friendId
    displayName := input.displayName
    minecraftUuid
    claimedMinecraftUuid
    requiresHostApproval := true
    identityMismatch := truthy claimedMinecraftUuid && claimedMinecraftUuid ≠ minecraftUuid }

def observePlayerJoin (input : JoinInput) (state : State) : Except Failure Observation × State :=
  let minecraftUuid := input.serverObservedUuid
  if !truthy minecraftUuid then
    (.error ⟨"server_uuid_missing", "서버가 확인한 Minecraft UUID가 필요합니다."⟩, state)
  else if state.blocked.has minecraftUuid then
    (.ok (refusal .blocked minecraftUuid InGameMessages.blocked),
      { state with lastEvent := some (.joinBlocked state.roomId minecraftUuid) })
  else if state.approved.has minecraftUuid then
    if !state.controlPlaneOnline && state.outagePolicy = .denyAll then
      (.ok (refusal .denied minecraftUuid InGameMessages.controlPlaneOffline),
        { state with lastEvent := some (.joinDenied state.roomId minecraftUuid "control_plane_offline") })
    else
      (.ok { state := .allowed, allowed := true, minecraftUuid, event := none, kickMessage := none },
        { state with lastEvent := some (.joinAllowed state.roomId minecraftUuid) })
  else if !state.controlPlaneOnline then
    (.ok (refusal .denied minecraftUuid InGameMessages.controlPlaneOffline),
      { state with lastEvent := some (.joinDenied state.roomId minecraftUuid "control_plane_offline") })
  else
    let event := approvalRequest state input
    (.ok { refusal .pendingApproval minecraftUuid InGameMessages.pending with event := some event },
      { state with
        pending := state.pending.set minecraftUuid event
        lastEvent := some (.approvalRequested event) })

structure DecisionInput where
  minecraftUuid : Option String
  decision : BridgeDecisionType
  displayName : Option String
  name : Option String
  deriving DecidableEq, Repr

structure Decision where
  state : BridgeJoinState
  allowed : Bool
  minecraftUuid : Option String
  kickMessage : Option String
  persistence : Option Persistence
  deriving DecidableEq, Repr

/-- The player that a decision is about. -/
def DecisionInput.player (input : DecisionInput) : Player :=
  { uuid := input.minecraftUuid, name := (input.displayName.or input.name).or input.minecraftUuid }

def applyApprovalDecision (input : DecisionInput) (state : State) : Except Failure Decision × State :=
  let minecraftUuid := input.minecraftUuid
  if !truthy minecraftUuid then
    (.error ⟨"minecraft_uuid_missing", "Minecraft UUID가 필요합니다."⟩, state)
  else if !state.pending.has minecraftUuid then
    (.error ⟨"approval_request_missing", "대기 중인 승인 요청이 없습니다."⟩, state)
  else
    match input.decision with
    | .approved =>
      let next :=
        { state with
          pending := state.pending.erase minecraftUuid
          blocked := state.blocked.erase minecraftUuid
          approved := state.approved.set minecraftUuid input.player
          lastEvent := some (.allowlistUpdated state.roomId minecraftUuid .approved) }
      (.ok { state := .allowed, allowed := true, minecraftUuid, kickMessage := none,
             persistence := some (createAllowlistPersistence next) }, next)
    | .blocked =>
      let next :=
        { state with
          pending := state.pending.erase minecraftUuid
          approved := state.approved.erase minecraftUuid
          blocked := state.blocked.set minecraftUuid input.player
          lastEvent := some (.playerBlocked state.roomId minecraftUuid) }
      (.ok { state := .blocked, allowed := false, minecraftUuid, kickMessage := some InGameMessages.blocked,
             persistence := some (createAllowlistPersistence next) }, next)
    | .denied =>
      (.ok { state := .denied, allowed := false, minecraftUuid, kickMessage := some InGameMessages.denied,
             persistence := none },
        { state with
          pending := state.pending.erase minecraftUuid
          lastEvent := some (.playerDenied state.roomId minecraftUuid) })
    | .other _ => (.error ⟨"unsupported_decision", "지원하지 않는 승인 결정입니다."⟩, state)

structure AdmissionInput where
  minecraftUuid : Option String
  controlPlaneOnline : Option Bool
  deriving DecidableEq, Repr

structure Admission where
  allowed : Bool
  state : BridgeJoinState
  kickMessage : Option String
  outageMode : Option Bool
  deriving DecidableEq, Repr

def canPlayerJoin (input : AdmissionInput) (state : State) : Admission :=
  let minecraftUuid := input.minecraftUuid
  let controlPlaneOnline := input.controlPlaneOnline.getD state.controlPlaneOnline
  if state.blocked.has minecraftUuid then
    { allowed := false, state := .blocked, kickMessage := some InGameMessages.blocked, outageMode := none }
  else if state.approved.has minecraftUuid then
    if !controlPlaneOnline && state.outagePolicy = .denyAll then
      { allowed := false, state := .denied, kickMessage := some InGameMessages.controlPlaneOffline,
        outageMode := none }
    else
      { allowed := true, state := .allowed, kickMessage := none, outageMode := some !controlPlaneOnline }
  else if !controlPlaneOnline then
    { allowed := false, state := .denied, kickMessage := some InGameMessages.controlPlaneOffline,
      outageMode := none }
  else
    { allowed := false
      state := if state.pending.has minecraftUuid then .pendingApproval else .denied
      kickMessage := some (if state.pending.has minecraftUuid then InGameMessages.pending else InGameMessages.denied)
      outageMode := none }

/-- `online` says whether the argument is `true`. -/
def setControlPlaneOnline (online : Bool) (state : State) : State := { state with controlPlaneOnline := online }

/-! ### Runs -/

inductive Operation
  | observePlayerJoin (input : JoinInput)
  | applyApprovalDecision (input : DecisionInput)
  | canPlayerJoin (input : AdmissionInput)
  | setControlPlaneOnline (online : Bool)

inductive Reply
  | observed (result : Except Failure Observation)
  | decided (result : Except Failure Decision)
  | admission (result : Admission)
  | done

def step (state : State) : Operation → Reply × State
  | .observePlayerJoin input =>
    (.observed (ServerBridge.observePlayerJoin input state).1, (ServerBridge.observePlayerJoin input state).2)
  | .applyApprovalDecision input =>
    (.decided (ServerBridge.applyApprovalDecision input state).1, (ServerBridge.applyApprovalDecision input state).2)
  | .canPlayerJoin input => (.admission (ServerBridge.canPlayerJoin input state), state)
  | .setControlPlaneOnline online => (.done, ServerBridge.setControlPlaneOnline online state)

end EasyMc.ServerBridge
