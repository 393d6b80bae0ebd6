import EasyMc.Library.JsonTrees
import EasyMc.Library.Numbers
import EasyMc.Library.Replacing
import EasyMc.Protocol

/-!
# The friend's end of a tunnel (`mods/client-fabric/src/connection/loopback-plan.mjs`)

`createClientLoopbackPlan` with the plan of its disconnects, and `redactLoopbackDiagnostics`.  The client connects
Minecraft to a local port and asks the relay for a stream to the host's tunnel.
-/

namespace EasyMc.Client

inductive LoopbackFailureReason
  | sessionMissing | relayUrlMissing | roomMissing | openProxyBlocked | disconnectRetryExhausted
  deriving DecidableEq, Repr

def loopbackProtocolVersion : String := "relay.m4"

/-! ### Diagnostics -/

/-- The secrets that a plan's diagnostics must not show. -/
structure LoopbackSecrets where
  inviteToken : Option String
  sessionToken : Option String
  relayToken : Option String

/-- The secrets with the labels that stand in their place. -/
def LoopbackSecrets.labelled (secrets : LoopbackSecrets) : List (Option String × String) :=
  [(secrets.inviteToken, "[redacted:invite_token]"), (secrets.sessionToken, "[redacted:session_token]"),
    (secrets.relayToken, "[redacted:relay_token]")]

def LoopbackSecrets.all (secrets : LoopbackSecrets) : List (Option String) := secrets.labelled.map Prod.fst

def redactString (value : String) (secrets : LoopbackSecrets) : String :=
  Replacing.replaceGiven secrets.labelled value

def redactLoopbackDiagnostics (value : Json) (secrets : LoopbackSecrets) : Json :=
  value.rewrite (fun _ => none) fun text => redactString text secrets

def redactUrlSecret (url : String) (secrets : LoopbackSecrets) : String :=
  redactString url { secrets with inviteToken := none }

/-! ### Disconnects -/

/-- What a disconnect is given; the numbers are whole ones. -/
structure DisconnectPolicy where
  maxAttempts : Option Int
  baseDelayMs : Option Int
  failAttempts : Option Int

inductive AttemptState
  | retrying | disconnected
  deriving DecidableEq, Repr

structure DisconnectAttempt where
  attempt : Nat
  retryDelayMs : Int
  state : AttemptState
  deriving DecidableEq, Repr

/-- `reason` is `none` if the plan succeeds. -/
structure DisconnectRetryPlan where
  reason : Option LoopbackFailureReason
  state : String
  attempts : List DisconnectAttempt
  maxAttempts : Int
  baseDelayMs : Int
  deriving DecidableEq, Repr

/-- The attempts from `attempt` on, of which `remaining` are left, and whether the last one disconnects. -/
def disconnectAttempts (baseDelayMs failAttempts : Int) : (remaining attempt : Nat) → List DisconnectAttempt × Bool
  | 0, _ => ([], false)
  | remaining + 1, attempt =>
    let retryDelayMs := if attempt = 1 then 0 else baseDelayMs * 2 ^ (attempt - 2)
    if (attempt : Int) ≤ failAttempts then
      let (attempts, closed) := disconnectAttempts baseDelayMs failAttempts remaining (attempt + 1)
      (⟨attempt, retryDelayMs, .retrying⟩ :: attempts, closed)
    else
      ([⟨attempt, retryDelayMs, .disconnected⟩], true)

def createDisconnectRetryPlan (policy : DisconnectPolicy) : DisconnectRetryPlan :=
  let maxAttempts := max 1 (policy.maxAttempts.getD 3)
  let baseDelayMs := policy.baseDelayMs.getD 100
  let failAttempts := max 0 (policy.failAttempts.getD 0)
  match disconnectAttempts baseDelayMs failAttempts maxAttempts.toNat 1 with
  | (attempts, true) => { reason := none, state := "closed", attempts, maxAttempts, baseDelayMs }
  | (attempts, false) =>
    { reason := some .disconnectRetryExhausted, state := "disconnect_failed", attempts, maxAttempts, baseDelayMs }

/-! ### Plans -/

/-- What `createClientLoopbackPlan` is given; a port and a target may be any values. -/
structure LoopbackInput extends LoopbackSecrets where
  roomId : Option String
  inviteId : Option String
  friendId : Option String
  minecraftUuid : Option String
  relayUrl : Option String
  inviteUrl : Option String
  sessionId : Option String
  localHost : Option String
  localPort : Option Json
  requestedTarget : Option Json
  disconnectPolicy : DisconnectPolicy

structure LocalProxy where
  host : String
  port : Json
  target : Json

structure ClientRelay where
  url : String
  roomId : Option String
  inviteId : Option String
  sessionId : Option String
  sessionToken : Option String
  minecraftUuid : Option String
  openFrame : Json

structure ClientLifecycle where
  hostTunnelRequired : Bool
  disconnect : DisconnectRetryPlan

structure ClientConnection where
  protocolVersion : String
  minecraftServerAddress : String
  localProxy : LocalProxy
  relay : ClientRelay
  lifecycle : ClientLifecycle

structure ClientLoopbackPlan where
  connection : ClientConnection
  diagnostics : Json

/-- `{ kind: "minecraft", host: "127.0.0.1", port: 25565 }`. -/
def minecraftServer : Json :=
  .obj [("kind", .str "minecraft"), ("host", .str "127.0.0.1"), ("port", .num "25565")]

def isLoopbackPort (port : Json) : Bool :=
  match port with
  | .num text =>
    Json.isIntegerText text && !(JsNumber.ofText text).isBelow 0 && !(JsNumber.ofText text).exceeds 65535
  | _ => false

def isMinecraftLoopbackTarget (target : Json) : Bool :=
  Json.isStr "minecraft" (target.member "kind") && Json.isStr "127.0.0.1" (target.member "host") &&
    (target.member "port").any isLoopbackPort

def isMinecraftServerTarget (target : Json) : Bool :=
  Json.isStr "minecraft" (target.member "kind") && Json.isStr "127.0.0.1" (target.member "host") &&
    Json.isNum "25565" (target.member "port")

/-- The frame that opens a stream, without the session. -/
def clientOpenFrame (input : LoopbackInput) (relayTarget : Json) : Json :=
  Json.object [("protocolVersion", some (.str loopbackProtocolVersion)), ("kind", some (.str "friend_stream_open")),
    ("roomId", Json.ofStr input.roomId), ("inviteId", Json.ofStr input.inviteId),
    ("friendId", Json.ofStr input.friendId), ("minecraftUuid", Json.ofStr input.minecraftUuid),
    ("requestedTarget", some relayTarget)]

def createClientLoopbackPlan (input : LoopbackInput) : Except LoopbackFailureReason ClientLoopbackPlan :=
  if !truthy input.roomId || !truthy input.minecraftUuid then
    .error .roomMissing
  else if !truthy input.relayUrl then
    .error .relayUrlMissing
  else if !truthy input.sessionId || !truthy input.sessionToken then
    .error .sessionMissing
  else
    let localPort := (Json.present input.localPort).getD (.num "0")
    let localTarget : Json :=
      .obj [("kind", .str "minecraft"), ("host", .str (input.localHost.getD "127.0.0.1")), ("port", localPort)]
    if !isMinecraftLoopbackTarget localTarget then
      .error .openProxyBlocked
    else
      let relayTarget := (Json.present input.requestedTarget).getD minecraftServer
      if !isMinecraftServerTarget relayTarget then
        .error .openProxyBlocked
      else
        -- The port is a number here, and stands in the address as its text.
        let localServerAddress := "127.0.0.1:" ++ localPort.asNum.getD ""
        .ok
          { connection :=
              { protocolVersion := loopbackProtocolVersion
                minecraftServerAddress := localServerAddress
                localProxy := { host := "127.0.0.1", port := localPort, target := relayTarget }
                relay :=
                  { url := redactUrlSecret (input.relayUrl.getD "") input.toLoopbackSecrets
                    roomId := input.roomId
                    inviteId := input.inviteId
                    sessionId := input.sessionId
                    sessionToken := input.sessionToken
                    minecraftUuid := input.minecraftUuid
                    openFrame := clientOpenFrame input relayTarget }
                lifecycle :=
                  { hostTunnelRequired := true, disconnect := createDisconnectRetryPlan input.disconnectPolicy } }
            diagnostics :=
              redactLoopbackDiagnostics
                (Json.object [("roomId", Json.ofStr input.roomId), ("minecraftUuid", Json.ofStr input.minecraftUuid),
                  ("inviteUrl", Json.ofStr input.inviteUrl), ("relayUrl", Json.ofStr input.relayUrl),
                  ("localServerAddress", some (.str localServerAddress)),
                  ("protocolVersion", some (.str loopbackProtocolVersion)),
                  ("events", some (.arr [.str ("invite=" ++ input.inviteToken.getD "none"),
                    .str ("session=" ++ input.sessionToken.getD "undefined"),
                    .str ("relay=" ++ input.relayToken.getD "none")]))])
                input.toLoopbackSecrets }

/-- What is known of an input whose plan is made. -/
theorem createClientLoopbackPlan_ok {input : LoopbackInput} {plan : ClientLoopbackPlan}
    (h : createClientLoopbackPlan input = .ok plan) :
    truthy input.sessionToken = true ∧ isMinecraftServerTarget plan.connection.localProxy.target = true ∧
      plan.connection.relay.sessionId = input.sessionId ∧
      plan.connection.relay.sessionToken = input.sessionToken ∧
      plan.connection.relay.openFrame = clientOpenFrame input plan.connection.localProxy.target := by
  unfold createClientLoopbackPlan at h
  dsimp only at h
  split_ifs at h with hroom hrelay hsession hlocal htarget
  cases h
  refine ⟨?_, by simpa using htarget, rfl, rfl, rfl⟩
  simp only [Bool.or_eq_true, not_or, Bool.not_eq_true', Bool.not_eq_false] at hsession
  exact hsession.2

end EasyMc.Client
