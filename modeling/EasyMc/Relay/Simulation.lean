import EasyMc.Library.JsMap
import EasyMc.Library.Numbers
import EasyMc.Protocol

/-!
# The relay (`services/relay/src/relay-simulation.mjs`)

`createRelaySimulation` as a state and one function for each of its operations.  JavaScript's `undefined` is `none`,
tunnels and streams are named by the numbers of their random ids, and the session objects live in a list, so that
the entry of a session and an open that waits for the session service can hold the same object or different ones.

A session service may answer at once or later: an open that waits is a `PendingOpen`, whose answer arrives
(`resolveOpen`) and is used (`completeOpen`) in two later steps.
-/

namespace EasyMc.Relay

inductive RelayFailureReason
  | unauthenticated | sessionExpired | crossRoom | wrongInvite | sessionReplayed | wrongUuid | wrongFriend | wrongHost
  | hostTunnelUnauthorized | hostTunnelConflict | hostTunnelUnavailable | hostTunnelClosed | openProxyBlocked
  | invalidTransfer | disconnectRetryExhausted | roomSizeQuota | sessionDurationQuota | idleQuota
  | roomBandwidthQuota | monthlyHostQuota
  | service (reason : String)
  deriving DecidableEq, Repr

structure Quotas where
  maxRoomMembers : Nat
  maxSessionMs : Int
  idleTimeoutMs : Int
  warningRoomBytes : Nat
  maxRoomBytes : Nat
  maxMonthlyHostBytes : Nat

def defaultQuotas : Quotas :=
  { maxRoomMembers := 9, maxSessionMs := 6 * 60 * 60 * 1000, idleTimeoutMs := 20 * 60 * 1000,
    warningRoomBytes := 25 * 1024 * 1024 * 1024, maxRoomBytes := 40 * 1024 * 1024 * 1024,
    maxMonthlyHostBytes := 150 * 1024 * 1024 * 1024 }

/-- The options of `createRelaySimulation`: whether it has a session service, its host credentials by
`roomId:hostId`, its quotas.  `redactText` stands for the four regular-expression replacements of
`redactRelayDiagnostics`. -/
structure Options where
  sessionService : Bool
  hostCredentials : JsMap String String
  quotas : Quotas
  redactText : String → String

structure Target where
  kind : Option String
  host : Option String
  port : Option Int
  deriving DecidableEq, Repr

/-- `opened` is the source's `"open"`. -/
inductive TunnelState
  | opened | closed
  deriving DecidableEq, Repr

structure HostTunnel where
  id : Nat
  hostId : Option String
  roomId : Option String
  target : Target
  openedAt : Int
  closedAt : Option Int
  state : TunnelState
  deriving DecidableEq, Repr

structure Session where
  sessionId : Option String
  sessionToken : Option String
  roomId : Option String
  inviteId : Option String
  hostId : Option String
  friendId : Option String
  minecraftUuid : Option String
  approved : Bool
  issuedAt : Option Int
  expiresAt : Option Int
  consumedAt : Option Int
  authorizedAt : Option Int
  deriving DecidableEq, Repr

inductive StreamState
  | opened | closed | disconnectFailed
  deriving DecidableEq, Repr

/-- What `relayEcho` is given: a string, a byte array, or another value with its JSON text, if it has one. -/
inductive Payload
  | text (value : String)
  | bytes (value : List UInt8)
  | json (text : Option String)
  deriving DecidableEq, Repr

inductive Direction
  | friendToHost | hostToFriend
  deriving DecidableEq, Repr

structure Frame where
  streamId : Nat
  roomId : Option String
  direction : Direction
  payload : Payload
  deriving DecidableEq, Repr

structure Stream where
  id : Nat
  roomId : Option String
  inviteId : Option String
  hostId : Option String
  friendId : Option String
  minecraftUuid : Option String
  target : Target
  sessionId : Option String
  tunnelId : Nat
  openedAt : Int
  lastActivityAt : Int
  closedAt : Option Int
  bytes : Nat
  hostInbox : List Frame
  friendInbox : List Frame
  state : StreamState
  deriving DecidableEq, Repr

structure OpenRequest where
  sessionId : Option String
  sessionToken : Option String
  roomId : Option String
  inviteId : Option String
  friendId : Option String
  minecraftUuid : Option String
  requestedTarget : Option Target
  deriving DecidableEq, Repr

/-- The metadata of an event. -/
inductive EventMetadata
  | hostTunnelOpened (tunnelId : Nat) (hostId roomId : Option String) (target : Target)
  | hostTunnelClosed (tunnelId : Nat) (roomId : Option String) (reason : String) (closedStreams : Nat)
  | friendStreamOpened (stream : Stream)
  | friendStreamClosed (streamId : Nat) (roomId : Option String) (reason : String)
  | friendStreamDisconnected (streamId : Nat) (attempts : Int)
  | friendStreamDisconnectFailed (streamId : Nat) (attempts : JsNumber)
  | friendStreamOpenFailed (reason : RelayFailureReason) (roomId inviteId friendId minecraftUuid : Option String)
      (requestedTarget : Option Target)
  | relayTransferRecorded (streamId : Nat) (roomId : Option String) (bytes : Nat)
  deriving DecidableEq, Repr

structure Event where
  type : String
  occurredAt : Int
  metadata : EventMetadata
  deriving DecidableEq, Repr

structure Metrics where
  hostTunnelsOpened : Nat
  hostTunnelsClosed : Nat
  friendStreamsOpened : Nat
  friendStreamsClosed : Nat
  failedOpens : Nat
  bytesRelayed : Nat
  disconnectRetries : Nat
  disconnectFailures : Nat
  quotaStops : Nat
  deriving DecidableEq, Repr

/-- What reading a session for a request gives: a session object, or a failure. -/
inductive SessionResult
  | ok (object : Nat)
  | fail (reason : RelayFailureReason)
  deriving DecidableEq, Repr

/-- An open that waits for the session service, or for its turn after the answer, or has ended. -/
inductive PendingOpen
  | asked (request : OpenRequest)
  | answered (request : OpenRequest) (result : SessionResult)
  | ended
  deriving DecidableEq, Repr

structure Simulation where
  now : Int
  nextId : Nat
  hostTunnels : JsMap (Option String) HostTunnel
  objects : List Session
  sessions : JsMap (Option String) Nat
  streams : JsMap Nat Stream
  roomBytes : JsMap (Option String) Nat
  monthlyHostBytes : JsMap (Option String) Nat
  events : List Event
  metrics : Metrics
  pending : List PendingOpen

def createRelaySimulation (initialNow : Int) : Simulation :=
  { now := initialNow, nextId := 0, hostTunnels := .empty, objects := [], sessions := .empty, streams := .empty,
    roomBytes := .empty, monthlyHostBytes := .empty, events := [], metrics := ⟨0, 0, 0, 0, 0, 0, 0, 0, 0⟩,
    pending := [] }

/-! ### What the operations return -/

/-- The fields of a stream that `publicStream` keeps. -/
structure PublicStream where
  id : Nat
  roomId : Option String
  inviteId : Option String
  tunnelId : Nat
  hostId : Option String
  friendId : Option String
  minecraftUuid : Option String
  target : Target
  state : StreamState
  deriving DecidableEq, Repr

def publicStream (stream : Stream) : PublicStream :=
  { id := stream.id, roomId := stream.roomId, inviteId := stream.inviteId, tunnelId := stream.tunnelId,
    hostId := stream.hostId, friendId := stream.friendId, minecraftUuid := stream.minecraftUuid,
    target := stream.target, state := stream.state }

inductive AttemptState
  | retrying | disconnected
  deriving DecidableEq, Repr

structure Attempt where
  attempt : Int
  state : AttemptState
  deriving DecidableEq, Repr

inductive Output
  | tunnelOpened (tunnel : HostTunnel)
  | tunnelClosed (tunnel : HostTunnel) (closedStreams : Nat)
  | authorized
  | streamOpened (stream : PublicStream)
  | waiting (open_ : Nat)
  | transferred (stream : PublicStream) (warning : Option String)
  | echoed (hostFrame friendFrame : Frame) (stream : PublicStream)
  | disconnected (attempts : List Attempt) (stream : PublicStream)
  | retryExhausted (reason : RelayFailureReason) (attempts : List Attempt) (state : StreamState)
  | fail (reason : RelayFailureReason)
  | threw
  | none
  deriving DecidableEq, Repr

/-- What an operation returns when it is refused or throws. -/
def Output.isRejection : Output → Bool
  | .fail _ | .threw | .retryExhausted _ _ _ => true
  | _ => false

/-! ### Checks -/

def isMinecraftLoopbackTarget (target : Option Target) : Bool :=
  match target with
  | some target =>
    target.kind == some "minecraft" && target.host == some "127.0.0.1" && target.port == some 25565
  | none => false

def targetMatchesTunnel (requestedTarget : Option Target) (tunnelTarget : Target) : Bool :=
  match requestedTarget with
  | none => true
  | some requestedTarget =>
    requestedTarget.kind == tunnelTarget.kind && requestedTarget.host == tunnelTarget.host &&
      requestedTarget.port == tunnelTarget.port

/-- The key `${roomId}:${hostId}`. -/
def credentialKey (roomId hostId : Option String) : String :=
  roomId.getD "undefined" ++ ":" ++ hostId.getD "undefined"

def hostTunnelAuthorized (options : Options) (hostId roomId hostToken : Option String) : Bool :=
  let expectedToken := options.hostCredentials.get (credentialKey roomId hostId)
  truthy expectedToken && truthy hostToken && expectedToken == hostToken

/-- `Buffer.byteLength`, which throws for a value without JSON text. -/
def byteLength : Payload → Option Nat
  | .text value => some value.utf8ByteSize
  | .bytes value => some value.length
  | .json text => text.map String.utf8ByteSize

def maxSafeInteger : Int := 2 ^ 53 - 1

/-- A positive safe integer; `none` is a value that is no integer. -/
def isTransferSize (bytes : Option Int) : Bool :=
  match bytes with
  | some bytes => decide (bytes ≤ maxSafeInteger) && decide (0 < bytes)
  | none => false

/-! ### Events and closing streams -/

def Target.redact (redactText : String → String) (target : Target) : Target :=
  { target with kind := target.kind.map redactText, host := target.host.map redactText }

def Payload.redact (redactText : String → String) : Payload → Payload
  | .text value => .text (redactText value)
  | payload => payload

def Stream.redact (redactText : String → String) (stream : Stream) : Stream :=
  let redactFrame (frame : Frame) : Frame :=
    { frame with roomId := frame.roomId.map redactText, payload := frame.payload.redact redactText }
  { stream with
    roomId := stream.roomId.map redactText
    inviteId := stream.inviteId.map redactText
    hostId := stream.hostId.map redactText
    friendId := stream.friendId.map redactText
    minecraftUuid := stream.minecraftUuid.map redactText
    target := stream.target.redact redactText
    sessionId := stream.sessionId.map redactText
    hostInbox := stream.hostInbox.map redactFrame
    friendInbox := stream.friendInbox.map redactFrame }

def RelayFailureReason.redact (redactText : String → String) : RelayFailureReason → RelayFailureReason
  | .service reason => .service (redactText reason)
  | reason => reason

/-- `redactRelayDiagnostics` on the events of this relay: no key of theirs is a sensitive one, so every string is
redacted as text and everything else is kept. -/
def redactRelayDiagnostics (redactText : String → String) : EventMetadata → EventMetadata
  | .hostTunnelOpened tunnelId hostId roomId target =>
    .hostTunnelOpened tunnelId (hostId.map redactText) (roomId.map redactText) (target.redact redactText)
  | .hostTunnelClosed tunnelId roomId reason closedStreams =>
    .hostTunnelClosed tunnelId (roomId.map redactText) (redactText reason) closedStreams
  | .friendStreamOpened stream => .friendStreamOpened (stream.redact redactText)
  | .friendStreamClosed streamId roomId reason =>
    .friendStreamClosed streamId (roomId.map redactText) (redactText reason)
  | .friendStreamOpenFailed reason roomId inviteId friendId minecraftUuid requestedTarget =>
    .friendStreamOpenFailed (reason.redact redactText) (roomId.map redactText) (inviteId.map redactText)
      (friendId.map redactText) (minecraftUuid.map redactText) (requestedTarget.map (Target.redact redactText))
  | .relayTransferRecorded streamId roomId bytes => .relayTransferRecorded streamId (roomId.map redactText) bytes
  | metadata => metadata

def recordEvent (options : Options) (relay : Simulation) (type : String) (metadata : EventMetadata) : Simulation :=
  { relay with
    events := relay.events ++ [⟨type, relay.now, redactRelayDiagnostics options.redactText metadata⟩] }

def closeStream (options : Options) (relay : Simulation) (stream : Stream) (reason : String) : Simulation :=
  if stream.state = .closed then
    relay
  else
    recordEvent options
      { relay with
        streams := relay.streams.set stream.id { stream with state := .closed, closedAt := some relay.now }
        metrics := { relay.metrics with friendStreamsClosed := relay.metrics.friendStreamsClosed + 1 } }
      "friend_stream_closed" (.friendStreamClosed stream.id stream.roomId reason)

/-! ### Host tunnels -/

structure CloseTunnelRequest where
  tunnelId : Option Nat
  roomId : Option String
  hostId : Option String
  hostToken : Option String
  reason : Option String
  deriving DecidableEq, Repr

/-- The tunnel a request names, with its key. -/
def findTunnel (relay : Simulation) (request : CloseTunnelRequest) : Option (Option String × HostTunnel) :=
  match request.tunnelId with
  | some tunnelId => relay.hostTunnels.entries.find? fun entry => entry.2.id == tunnelId
  | none => (relay.hostTunnels.get request.roomId).map fun tunnel => (request.roomId, tunnel)

/-- Close the open streams of a tunnel, counting them. -/
def closeTunnelStreams (options : Options) (tunnelId : Nat) (reason : String) :
    List Stream → Simulation × Nat → Simulation × Nat
  | [], result => result
  | stream :: rest, (relay, closedStreams) =>
    if stream.tunnelId = tunnelId ∧ stream.state = .opened then
      closeTunnelStreams options tunnelId reason rest (closeStream options relay stream reason, closedStreams + 1)
    else
      closeTunnelStreams options tunnelId reason rest (relay, closedStreams)

def closeHostTunnel (options : Options) (relay : Simulation) (request : CloseTunnelRequest) : Output × Simulation :=
  match findTunnel relay request with
  | none => (.fail .hostTunnelUnavailable, relay)
  | some (key, tunnel) =>
    if request.hostId.or tunnel.hostId ≠ tunnel.hostId ∨
        !hostTunnelAuthorized options tunnel.hostId tunnel.roomId request.hostToken then
      (.fail .hostTunnelUnauthorized, relay)
    else if tunnel.state = .closed then
      -- Closing it again succeeds and changes nothing.
      (.tunnelClosed tunnel 0, relay)
    else
      let reason := request.reason.getD "host_closed"
      let closed : HostTunnel := { tunnel with state := .closed, closedAt := some relay.now }
      let relay : Simulation :=
        { relay with
          hostTunnels := relay.hostTunnels.set key closed
          metrics := { relay.metrics with hostTunnelsClosed := relay.metrics.hostTunnelsClosed + 1 } }
      let (relay, closedStreams) := closeTunnelStreams options tunnel.id reason relay.streams.values (relay, 0)
      (.tunnelClosed closed closedStreams,
        recordEvent options relay "host_tunnel_closed"
          (.hostTunnelClosed tunnel.id tunnel.roomId reason closedStreams))

structure OpenTunnelRequest where
  hostId : Option String
  roomId : Option String
  target : Option Target
  hostToken : Option String
  deriving DecidableEq, Repr

/-- Close the room's open tunnel, which is about to be replaced. -/
def closeReplacedTunnel (options : Options) (relay : Simulation) (request : OpenTunnelRequest) : Simulation :=
  match relay.hostTunnels.get request.roomId with
  | none => relay
  | some existingTunnel =>
    if existingTunnel.state = .opened then
      (closeHostTunnel options relay
        { tunnelId := some existingTunnel.id, roomId := none, hostId := request.hostId,
          hostToken := request.hostToken, reason := some "replaced_by_same_host" }).2
    else
      relay

def openHostTunnel (options : Options) (relay : Simulation) (request : OpenTunnelRequest) : Output × Simulation :=
  if !hostTunnelAuthorized options request.hostId request.roomId request.hostToken then
    (.fail .hostTunnelUnauthorized, relay)
  else
    match request.target with
    | none => (.fail .openProxyBlocked, relay)
    | some target =>
      if !isMinecraftLoopbackTarget (some target) then
        (.fail .openProxyBlocked, relay)
      else if (relay.hostTunnels.get request.roomId).any fun existingTunnel =>
          existingTunnel.state == .opened && existingTunnel.hostId != request.hostId then
        (.fail .hostTunnelConflict, relay)
      else
        -- An open tunnel that is still there belongs to the same host.
        let relay := closeReplacedTunnel options relay request
        let tunnel : HostTunnel :=
          { id := relay.nextId, hostId := request.hostId, roomId := request.roomId, target := target,
            openedAt := relay.now, closedAt := none, state := .opened }
        let relay : Simulation :=
          { relay with
            nextId := relay.nextId + 1
            hostTunnels := relay.hostTunnels.set request.roomId tunnel
            metrics := { relay.metrics with hostTunnelsOpened := relay.metrics.hostTunnelsOpened + 1 } }
        (.tunnelOpened tunnel,
          recordEvent options relay "host_tunnel_opened"
            (.hostTunnelOpened tunnel.id request.hostId request.roomId target))

/-! ### Sessions -/

/-- Store a new session object under its id. -/
def storeSession (relay : Simulation) (session : Session) : Simulation :=
  { relay with
    objects := relay.objects ++ [session]
    sessions := relay.sessions.set session.sessionId relay.objects.length }

def authorizeSession (relay : Simulation) (session : Session) : Output × Simulation :=
  (.authorized, storeSession relay { session with authorizedAt := some relay.now })

/-- The session object stored under an id. -/
def storedSession (relay : Simulation) (sessionId : Option String) : Option Session :=
  (relay.sessions.get sessionId).bind fun object => relay.objects[object]?

/-- A session as a session service gives it. -/
structure ServiceSession where
  sessionId : Option String
  id : Option String
  sessionToken : Option String
  sessionCredential : Option String
  roomId : Option String
  inviteId : Option String
  hostId : Option String
  friendId : Option String
  minecraftUuid : Option String
  approved : Option Bool
  state : Option String
  issuedAt : Option Int
  expiresAt : Option Int
  deriving DecidableEq, Repr

def normalizeSession (session : ServiceSession) : Session :=
  { sessionId := session.sessionId.or session.id
    sessionToken := session.sessionToken.or session.sessionCredential
    roomId := session.roomId
    inviteId := session.inviteId
    hostId := session.hostId
    friendId := session.friendId
    minecraftUuid := session.minecraftUuid
    approved := session.approved.getD (session.state == some "issued")
    issuedAt := session.issuedAt
    expiresAt := session.expiresAt
    consumedAt := none
    authorizedAt := none }

/-- What the session service answers; `threw` also stands for a `session` of `null`, which cannot be normalized. -/
inductive ServiceResult
  | session (session : ServiceSession)
  | refused (reason : Option String)
  | threw
  deriving DecidableEq, Repr

def normalizeServiceSessionResult (relay : Simulation) (result : ServiceResult) : SessionResult × Simulation :=
  match result with
  | .session session =>
    let serviceSession := normalizeSession session
    -- A session that was used before stays used: the new object takes over the mark of the stored one.
    let existing := storedSession relay serviceSession.sessionId
    let serviceSession := { serviceSession with consumedAt := existing.bind Session.consumedAt }
    (.ok relay.objects.length, storeSession relay serviceSession)
  | .refused (some reason) => (.fail (.service reason), relay)
  | .refused none => (.fail .unauthenticated, relay)
  | .threw => (.fail .unauthenticated, relay)

/-- A time that is `undefined` is before nothing. -/
def hasExpired (expiresAt : Option Int) (now : Int) : Bool :=
  match expiresAt with
  | some expiresAt => expiresAt ≤ now
  | none => false

def exceedsSession (options : Options) (issuedAt : Option Int) (now : Int) : Bool :=
  match issuedAt with
  | some issuedAt => now - issuedAt > options.quotas.maxSessionMs
  | none => false

def validateSession (options : Options) (now : Int) (session : Session) (request : OpenRequest) :
    Option RelayFailureReason :=
  if !truthy request.sessionToken || session.sessionToken != request.sessionToken || !session.approved then
    some .unauthenticated
  else if session.consumedAt.isSome then
    some .sessionReplayed
  else if hasExpired session.expiresAt now then
    some .sessionExpired
  else if exceedsSession options session.issuedAt now then
    some .sessionDurationQuota
  else if session.roomId != request.roomId then
    some .crossRoom
  else if truthy session.inviteId && session.inviteId != request.inviteId then
    some .wrongInvite
  else if session.friendId != request.friendId then
    some .wrongFriend
  else if session.minecraftUuid != request.minecraftUuid then
    some .wrongUuid
  else
    none

/-! ### Friend streams -/

def activeRoomMemberCount (relay : Simulation) (roomId : Option String) : Nat :=
  (relay.streams.values.filter fun stream => stream.roomId == roomId && stream.state == .opened).length

def failOpen (options : Options) (relay : Simulation) (reason : RelayFailureReason) (request : OpenRequest) :
    Output × Simulation :=
  let relay := { relay with metrics := { relay.metrics with failedOpens := relay.metrics.failedOpens + 1 } }
  (.fail reason,
    recordEvent options relay "friend_stream_open_failed"
      (.friendStreamOpenFailed reason request.roomId request.inviteId request.friendId request.minecraftUuid
        request.requestedTarget))

/-- The checks of `openFriendStreamWithSession`, in their order: the tunnel to use, or why there is none. -/
def admission (options : Options) (relay : Simulation) (session : Session) (request : OpenRequest) :
    Except RelayFailureReason HostTunnel :=
  match validateSession options relay.now session request with
  | some authFailure => .error authFailure
  | none =>
    match relay.hostTunnels.get request.roomId with
    | none => .error .hostTunnelUnavailable
    | some tunnel =>
      if tunnel.state ≠ .opened then
        .error .hostTunnelClosed
      else if truthy session.hostId && session.hostId != tunnel.hostId then
        .error .wrongHost
      else if !targetMatchesTunnel request.requestedTarget tunnel.target then
        .error .openProxyBlocked
      else if activeRoomMemberCount relay request.roomId ≥ options.quotas.maxRoomMembers then
        .error .roomSizeQuota
      else
        .ok tunnel

/-- The stream opened for a request. -/
def newStream (relay : Simulation) (session : Session) (request : OpenRequest) (tunnel : HostTunnel) : Stream :=
  { id := relay.nextId, roomId := request.roomId, inviteId := session.inviteId.or request.inviteId,
    hostId := tunnel.hostId, friendId := request.friendId, minecraftUuid := request.minecraftUuid,
    target := tunnel.target, sessionId := request.sessionId, tunnelId := tunnel.id, openedAt := relay.now,
    lastActivityAt := relay.now, closedAt := none, bytes := 0, hostInbox := [], friendInbox := [],
    state := .opened }

/-- Open the stream of an admitted request and use up its session. -/
def admitStream (options : Options) (relay : Simulation) (request : OpenRequest) (object : Nat) (session : Session)
    (tunnel : HostTunnel) : Output × Simulation :=
  let stream := newStream relay session request tunnel
  let relay : Simulation :=
    { relay with
      nextId := relay.nextId + 1
      streams := relay.streams.set stream.id stream
      -- The object this open holds is marked, which may no longer be the one stored under the session's id.
      objects := relay.objects.set object { session with consumedAt := some relay.now }
      metrics := { relay.metrics with friendStreamsOpened := relay.metrics.friendStreamsOpened + 1 } }
  (.streamOpened (publicStream stream),
    recordEvent options relay "friend_stream_opened" (.friendStreamOpened stream))

def openFriendStreamWithSession (options : Options) (relay : Simulation) (request : OpenRequest)
    (sessionResult : SessionResult) : Output × Simulation :=
  match sessionResult with
  | .fail reason => failOpen options relay reason request
  | .ok object =>
    match relay.objects[object]? with
    | none => failOpen options relay .unauthenticated request
    | some session =>
      match admission options relay session request with
      | .error reason => failOpen options relay reason request
      | .ok tunnel => admitStream options relay request object session tunnel

/-- How a session service answers an open: at once, or later through a promise. -/
inductive ServiceAnswer
  | now (result : ServiceResult)
  | later
  deriving DecidableEq, Repr

/-- What reading the session of a request comes to. -/
inductive SessionReading
  | ready (result : SessionResult)
  | waiting
  | threw
  deriving DecidableEq, Repr

def readSessionForRequest (options : Options) (relay : Simulation) (request : OpenRequest) (answer : ServiceAnswer) :
    SessionReading × Simulation :=
  if options.sessionService then
    match answer with
    | .later => (.waiting, relay)
    | .now .threw => (.threw, relay)
    | .now result =>
      let (sessionResult, relay) := normalizeServiceSessionResult relay result
      (.ready sessionResult, relay)
  else
    match relay.sessions.get request.sessionId with
    | none => (.ready (.fail .unauthenticated), relay)
    | some object => (.ready (.ok object), relay)

/-- `answer` is what the session service gives, if there is one. -/
def openFriendStream (options : Options) (relay : Simulation) (request : OpenRequest) (answer : ServiceAnswer) :
    Output × Simulation :=
  match readSessionForRequest options relay request answer with
  | (.waiting, relay) => (.waiting relay.pending.length, { relay with pending := relay.pending ++ [.asked request] })
  | (.threw, relay) => (.threw, relay)
  | (.ready sessionResult, relay) => openFriendStreamWithSession options relay request sessionResult

/-- The answer of the session service arrives and is normalized; a rejection becomes a failure. -/
def resolveOpen (relay : Simulation) (open_ : Nat) (result : ServiceResult) : Output × Simulation :=
  match relay.pending[open_]? with
  | some (.asked request) =>
    let (sessionResult, relay) := normalizeServiceSessionResult relay result
    (.none, { relay with pending := relay.pending.set open_ (.answered request sessionResult) })
  | _ => (.none, relay)

/-- The open goes on with the normalized answer. -/
def completeOpen (options : Options) (relay : Simulation) (open_ : Nat) : Output × Simulation :=
  match relay.pending[open_]? with
  | some (.answered request sessionResult) =>
    openFriendStreamWithSession options { relay with pending := relay.pending.set open_ .ended } request sessionResult
  | _ => (.none, relay)

/-! ### Transfers -/

/-- Close a stream that has used up a quota. -/
def quotaStop (options : Options) (relay : Simulation) (stream : Stream) (closeReason : String)
    (reason : RelayFailureReason) : Output × Simulation :=
  let relay := closeStream options relay stream closeReason
  (.fail reason, { relay with metrics := { relay.metrics with quotaStops := relay.metrics.quotaStops + 1 } })

/-- `recordTransfer` for a stream that is open. -/
def recordStreamTransfer (options : Options) (relay : Simulation) (stream : Stream) (bytes : Option Int) :
    Output × Simulation :=
  if !isTransferSize bytes then
    (.fail .invalidTransfer, relay)
  -- Each of the four quotas closes the stream and refuses the transfer.
  else if relay.now - stream.openedAt > options.quotas.maxSessionMs then
    quotaStop options relay stream "session_duration_quota" .sessionDurationQuota
  else if relay.now - stream.lastActivityAt > options.quotas.idleTimeoutMs then
    quotaStop options relay stream "idle_quota" .idleQuota
  else
    let bytes := (bytes.getD 0).toNat
    let nextRoomBytes := (relay.roomBytes.get stream.roomId).getD 0 + bytes
    if nextRoomBytes > options.quotas.maxRoomBytes then
      quotaStop options relay stream "room_bandwidth_quota" .roomBandwidthQuota
    else
      let nextMonthlyHostBytes := (relay.monthlyHostBytes.get stream.hostId).getD 0 + bytes
      if nextMonthlyHostBytes > options.quotas.maxMonthlyHostBytes then
        quotaStop options relay stream "monthly_host_quota" .monthlyHostQuota
      else
        let stream := { stream with bytes := stream.bytes + bytes, lastActivityAt := relay.now }
        let relay : Simulation :=
          { relay with
            streams := relay.streams.set stream.id stream
            roomBytes := relay.roomBytes.set stream.roomId nextRoomBytes
            monthlyHostBytes := relay.monthlyHostBytes.set stream.hostId nextMonthlyHostBytes
            metrics := { relay.metrics with bytesRelayed := relay.metrics.bytesRelayed + bytes } }
        (.transferred (publicStream stream)
            (if nextRoomBytes ≥ options.quotas.warningRoomBytes then some "room_bandwidth_warning" else none),
          recordEvent options relay "relay_transfer_recorded" (.relayTransferRecorded stream.id stream.roomId bytes))

/-- The open stream a request names. -/
def openStream (relay : Simulation) (streamId : Nat) : Option Stream :=
  (relay.streams.get streamId).filter (·.state = .opened)

def recordTransfer (options : Options) (relay : Simulation) (streamId : Nat) (bytes : Option Int) :
    Output × Simulation :=
  match openStream relay streamId with
  | none => (.fail .unauthenticated, relay)
  | some stream => recordStreamTransfer options relay stream bytes

def relayEcho (options : Options) (relay : Simulation) (streamId : Nat) (payload : Payload) : Output × Simulation :=
  match openStream relay streamId with
  | none => (.fail .unauthenticated, relay)
  | some _ =>
    match byteLength payload with
    | none => (.threw, relay)
    | some bytes =>
      match recordTransfer options relay streamId (some bytes) with
      | (.transferred _ _, relay) =>
        match relay.streams.get streamId with
        | none => (.threw, relay)
        | some stream =>
          let hostFrame : Frame := ⟨streamId, stream.roomId, .friendToHost, payload⟩
          let friendFrame : Frame := ⟨streamId, stream.roomId, .hostToFriend, payload⟩
          let stream :=
            { stream with hostInbox := stream.hostInbox ++ [hostFrame]
                          friendInbox := stream.friendInbox ++ [friendFrame] }
          (.echoed hostFrame friendFrame (publicStream stream),
            { relay with streams := relay.streams.set streamId stream })
      | transfer => transfer

/-! ### Disconnects -/

/-- The length that an array can have at most. -/
def maxArrayLength : Nat :=
  2 ^ 32 - 1

/-- The attempts of a disconnect from `attempt` on; `room` is how many more the list of attempts can take. -/
def disconnectLoop (options : Options) (stream : Stream) (boundedMaxAttempts failAttempts : JsNumber) (room : Nat)
    (attempt : Int) (attempts : List Attempt) (relay : Simulation) : Output × Simulation :=
  if boundedMaxAttempts.atLeast attempt then
    match room with
    -- `push` throws a `RangeError`.
    | 0 => (.threw, relay)
    | room + 1 =>
      if failAttempts.atLeast attempt then
        disconnectLoop options stream boundedMaxAttempts failAttempts room (attempt + 1)
          (attempts ++ [⟨attempt, .retrying⟩])
          { relay with metrics := { relay.metrics with disconnectRetries := relay.metrics.disconnectRetries + 1 } }
      else
        let relay := closeStream options relay stream "friend_disconnected"
        (.disconnected (attempts ++ [⟨attempt, .disconnected⟩]) (publicStream { stream with state := .closed }),
          recordEvent options relay "friend_stream_disconnected" (.friendStreamDisconnected stream.id attempt))
  else
    -- The state is overwritten whatever it was, also that of a closed stream.
    let relay : Simulation :=
      { relay with
        streams := relay.streams.set stream.id { stream with state := .disconnectFailed }
        metrics := { relay.metrics with disconnectFailures := relay.metrics.disconnectFailures + 1 } }
    (.retryExhausted .disconnectRetryExhausted attempts .disconnectFailed,
      recordEvent options relay "friend_stream_disconnect_failed"
        (.friendStreamDisconnectFailed stream.id boundedMaxAttempts))

/-- The two numbers of attempts are any numbers: not a number, an infinite one, or a fraction too.  A value of another
type acts as the number that it converts to, and one that does not convert throws before anything changes. -/
def disconnectStream (options : Options) (relay : Simulation) (streamId : Nat)
    (maxAttempts failAttempts : Option JsNumber) : Output × Simulation :=
  match relay.streams.get streamId with
  | none => (.fail .unauthenticated, relay)
  | some stream =>
    let boundedMaxAttempts := (maxAttempts.getD (.ofInt 3)).max 1
    disconnectLoop options stream boundedMaxAttempts (failAttempts.getD (.ofInt 0)) maxArrayLength 1 [] relay

/-! ### Runs -/

inductive Operation
  | openHostTunnel (request : OpenTunnelRequest)
  | closeHostTunnel (request : CloseTunnelRequest)
  | authorizeSession (session : Session)
  | openFriendStream (request : OpenRequest) (answer : ServiceAnswer)
  | resolveOpen (open_ : Nat) (result : ServiceResult)
  | completeOpen (open_ : Nat)
  | recordTransfer (streamId : Nat) (bytes : Option Int)
  | relayEcho (streamId : Nat) (payload : Payload)
  | disconnectStream (streamId : Nat) (maxAttempts failAttempts : Option JsNumber)
  | advance (ms : Nat)
  deriving DecidableEq, Repr

/-- One operation; `advance` moves the clock. -/
def step (options : Options) (relay : Simulation) : Operation → Output × Simulation
  | .openHostTunnel request => openHostTunnel options relay request
  | .closeHostTunnel request => closeHostTunnel options relay request
  | .authorizeSession session => authorizeSession relay session
  | .openFriendStream request answer => openFriendStream options relay request answer
  | .resolveOpen open_ result => resolveOpen relay open_ result
  | .completeOpen open_ => completeOpen options relay open_
  | .recordTransfer streamId bytes => recordTransfer options relay streamId bytes
  | .relayEcho streamId payload => relayEcho options relay streamId payload
  | .disconnectStream streamId maxAttempts failAttempts =>
    disconnectStream options relay streamId maxAttempts failAttempts
  | .advance ms => (.none, { relay with now := relay.now + ms })

end EasyMc.Relay
