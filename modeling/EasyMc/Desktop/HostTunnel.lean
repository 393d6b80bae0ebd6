import EasyMc.Desktop.Redaction
import EasyMc.Library.JsonTrees
import EasyMc.Library.Replacing
import EasyMc.Library.Values
import EasyMc.Protocol

/-!
# The host's end of a tunnel (`apps/desktop/src/tunnel/host-tunnel.mjs`)

`createHostTunnelPlan` and `redactTunnelDiagnostics`.  The frames of a plan are the objects that are sent to the relay,
which reads them by the names of their fields.
-/

namespace EasyMc.Desktop

inductive HostTunnelFailureReason
  | roomNotReady | relaySessionMissing | openProxyBlocked
  deriving DecidableEq, Repr

def failureMessages : HostTunnelFailureReason → String
  | .roomNotReady => "Open the room before letting friends join."
  | .relaySessionMissing => "Create a room invite before opening the friend connection."
  | .openProxyBlocked => "Use the local Minecraft room target."

structure HostTunnelFailure where
  reason : HostTunnelFailureReason
  message : String
  deriving DecidableEq, Repr

def relayProtocolVersion : String := "relay.m4"

/-! ### Diagnostics -/

/-- The secrets that a plan's diagnostics must not show. -/
structure TunnelSecrets where
  hostTunnelToken : Option String
  relayToken : Option String

def TunnelSecrets.all (secrets : TunnelSecrets) : List (Option String) := [secrets.hostTunnelToken, secrets.relayToken]

def redactTunnelSecrets (value : String) (secrets : TunnelSecrets) : String :=
  Replacing.replaceGiven (secrets.all.map fun secret => (secret, "[redacted:tunnel_secret]")) value

/-- `/token|credential|secret/i`. -/
def isTunnelSecretKey (key : String) : Bool := keyContains ["token", "credential", "secret"] key

def redactTunnelDiagnostics (value : Json) (secrets : TunnelSecrets) : Json :=
  value.rewrite (fun key => if isTunnelSecretKey key then some "[redacted:tunnel_secret]" else none)
    fun text => redactTunnelSecrets text secrets

/-! ### Plans -/

/-- What `createHostTunnelPlan` is given; a target may be any value. -/
structure HostTunnelInput extends TunnelSecrets where
  localServerReady : Bool
  roomId : Option String
  hostId : Option String
  relayUrl : Option String
  localTarget : Option Json

structure HostTunnelRelay where
  url : String
  openFrame : Json

structure HostTunnelLifecycle where
  openAfter : String
  closeOn : List String
  closeFrame : Json

structure HostTunnelPlan where
  protocolVersion : String
  roomId : Option String
  hostId : Option String
  relay : HostTunnelRelay
  localTarget : Json
  lifecycle : HostTunnelLifecycle
  diagnostics : Json

/-- `{ kind: "minecraft", host: "127.0.0.1", port: 25565 }`. -/
def minecraftServer : Json :=
  .obj [("kind", .str "minecraft"), ("host", .str "127.0.0.1"), ("port", .num "25565")]

def isMinecraftRoomTarget (target : Json) : Bool :=
  Json.isStr "minecraft" (target.member "kind") && Json.isStr "127.0.0.1" (target.member "host") &&
    Json.isNum "25565" (target.member "port")

def hostTunnelFailure (reason : HostTunnelFailureReason) : HostTunnelFailure := ⟨reason, failureMessages reason⟩

/-- The frame that opens the tunnel. -/
def hostOpenFrame (input : HostTunnelInput) (localTarget : Json) : Json :=
  Json.object [("protocolVersion", some (.str relayProtocolVersion)), ("kind", some (.str "host_tunnel_open")),
    ("roomId", Json.ofStr input.roomId), ("hostId", Json.ofStr input.hostId),
    ("hostToken", Json.ofStr input.hostTunnelToken), ("target", some localTarget)]

/-- The frame that closes the tunnel. -/
def hostCloseFrame (input : HostTunnelInput) : Json :=
  Json.object [("protocolVersion", some (.str relayProtocolVersion)), ("kind", some (.str "host_tunnel_close")),
    ("roomId", Json.ofStr input.roomId), ("hostId", Json.ofStr input.hostId),
    ("hostToken", Json.ofStr input.hostTunnelToken)]

def createHostTunnelPlan (input : HostTunnelInput) : Except HostTunnelFailure HostTunnelPlan :=
  if !input.localServerReady then
    .error (hostTunnelFailure .roomNotReady)
  else if !truthy input.roomId || !truthy input.hostId || !truthy input.relayUrl || !truthy input.hostTunnelToken then
    .error (hostTunnelFailure .relaySessionMissing)
  else
    let localTarget := (Json.present input.localTarget).getD minecraftServer
    if !isMinecraftRoomTarget localTarget then
      .error (hostTunnelFailure .openProxyBlocked)
    else
      .ok
        { protocolVersion := relayProtocolVersion
          roomId := input.roomId
          hostId := input.hostId
          relay :=
            { url := redactTunnelSecrets (input.relayUrl.getD "") input.toTunnelSecrets
              openFrame := hostOpenFrame input localTarget }
          localTarget
          lifecycle :=
            { openAfter := "local_room_ready"
              closeOn := ["local_room_stopped", "local_room_crashed"]
              closeFrame := hostCloseFrame input }
          diagnostics :=
            redactTunnelDiagnostics
              (Json.object [("roomId", Json.ofStr input.roomId), ("hostId", Json.ofStr input.hostId),
                ("relayUrl", Json.ofStr input.relayUrl), ("hostTunnelToken", Json.ofStr input.hostTunnelToken),
                ("target", some localTarget)])
              input.toTunnelSecrets }

/-- What is known of an input whose plan is made. -/
theorem createHostTunnelPlan_ok {input : HostTunnelInput} {plan : HostTunnelPlan}
    (h : createHostTunnelPlan input = .ok plan) :
    truthy input.hostTunnelToken = true ∧ isMinecraftRoomTarget plan.localTarget = true ∧
      plan.relay.openFrame = hostOpenFrame input plan.localTarget := by
  unfold createHostTunnelPlan at h
  dsimp only at h
  split_ifs at h with hready hgiven htarget
  cases h
  refine ⟨?_, by simpa using htarget, rfl⟩
  simp only [Bool.or_eq_true, not_or, Bool.not_eq_true', Bool.not_eq_false] at hgiven
  exact hgiven.2

end EasyMc.Desktop
