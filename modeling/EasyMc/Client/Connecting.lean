import EasyMc.Client.LoopbackPlan
import EasyMc.Desktop.HostTunnel
import EasyMc.Relay.Sessions
import EasyMc.Relay.Streams

/-!
# From the two plans to a stream

The host's app plans a tunnel, the friend's mod plans a stream, and the relay reads their frames by the names of their
fields.  What the plans have checked is what the relay checks again: it opens the tunnel of a host whose token it knows,
and then the stream of a session that belongs to the plans (`plans_connect`).

The relay keeps one open tunnel for a room.  A host cannot take the place of another one whose tunnel is open, even with a
token of its own for the room (`other_host_stays`).
-/

namespace EasyMc.Client

open Desktop (HostTunnelInput HostTunnelPlan createHostTunnelPlan)
open Relay

/-! ### Frames, as the relay reads them -/

/-- `frame.key` as a text. -/
def readText (key : String) (frame : Json) : Option String := (frame.member key).bind Json.asStr

/-- A number as an integer, if it is one. -/
def readInt : Json → Option Int
  | .num text =>
    match JsNumber.ofText text with
    | .finite mantissa 0 => some mantissa
    | _ => none
  | _ => none

def readTarget (target : Json) : Target :=
  { kind := readText "kind" target, host := readText "host" target, port := (target.member "port").bind readInt }

/-- A target that counts as false is as good as none. -/
def readOptionalTarget (key : String) (frame : Json) : Option Target :=
  ((frame.member key).filter Json.truthy).map readTarget

/-- `{ hostId, roomId, target, hostToken }`, the parameter of `openHostTunnel`. -/
def readOpenTunnelRequest (frame : Json) : OpenTunnelRequest :=
  { hostId := readText "hostId" frame
    roomId := readText "roomId" frame
    target := readOptionalTarget "target" frame
    hostToken := readText "hostToken" frame }

/-- What `openFriendStream` reads of its request. -/
def readOpenRequest (frame : Json) : OpenRequest :=
  { sessionId := readText "sessionId" frame
    sessionToken := readText "sessionToken" frame
    roomId := readText "roomId" frame
    inviteId := readText "inviteId" frame
    friendId := readText "friendId" frame
    minecraftUuid := readText "minecraftUuid" frame
    requestedTarget := readOptionalTarget "requestedTarget" frame }

/-- `{ ...relay.openFrame, sessionId: relay.sessionId, sessionToken: relay.sessionToken }`. -/
def openFrameWithSession (relay : ClientRelay) : Json :=
  relay.openFrame.assign
    [("sessionId", Json.ofStr relay.sessionId), ("sessionToken", Json.ofStr relay.sessionToken)]

/-- The target of a Minecraft server. -/
def minecraftTarget : Target := { kind := some "minecraft", host := some "127.0.0.1", port := some 25565 }

theorem readText_object {fields : List (String × Option Json)} (hkeys : (fields.map Prod.fst).Nodup) (key : String) :
    readText key (Json.object fields) = (fields.lookup key).join.bind Json.asStr := by
  rw [readText, Json.member_object hkeys]

theorem readOptionalTarget_object {fields : List (String × Option Json)} (hkeys : (fields.map Prod.fst).Nodup)
    (key : String) : readOptionalTarget key (Json.object fields) =
      ((fields.lookup key).join.filter Json.truthy).map readTarget := by
  rw [readOptionalTarget, Json.member_object hkeys]

@[simp] theorem ofStr_bind_asStr (text : Option String) : (Json.ofStr text).bind Json.asStr = text := by
  cases text <;> rfl

/-- What both plans check of a target makes it the one that the relay allows. -/
theorem readTarget_minecraft {target : Json}
    (h : (Json.isStr "minecraft" (target.member "kind") && Json.isStr "127.0.0.1" (target.member "host") &&
      Json.isNum "25565" (target.member "port")) = true) :
    (((some target).filter Json.truthy).map readTarget) = some minecraftTarget := by
  simp only [Bool.and_eq_true, Json.isStr_iff, Json.isNum_iff] at h
  obtain ⟨⟨hkind, hhost⟩, hport⟩ := h
  obtain ⟨fields, rfl⟩ := Json.exists_fields_of_member hkind
  have hread : readTarget (.obj fields) = minecraftTarget := by
    rw [readTarget, readText, readText, hkind, hhost, hport]
    rfl
  have htruthy : (some (Json.obj fields)).filter Json.truthy = some (.obj fields) := rfl
  rw [htruthy, Option.map_some, hread]

/-- What the host's plan asks for. -/
def tunnelRequest (input : HostTunnelInput) : OpenTunnelRequest :=
  { hostId := input.hostId, roomId := input.roomId, target := some minecraftTarget, hostToken := input.hostTunnelToken }

/-- What the client's plan asks for with its session. -/
def streamRequest (input : LoopbackInput) : OpenRequest :=
  { sessionId := input.sessionId, sessionToken := input.sessionToken, roomId := input.roomId,
    inviteId := input.inviteId, friendId := input.friendId, minecraftUuid := input.minecraftUuid,
    requestedTarget := some minecraftTarget }

theorem readOpenTunnelRequest_hostOpenFrame (input : HostTunnelInput) {target : Json}
    (htarget : Desktop.isMinecraftRoomTarget target = true) :
    readOpenTunnelRequest (Desktop.hostOpenFrame input target) = tunnelRequest input := by
  have hread := readTarget_minecraft htarget
  unfold readOpenTunnelRequest Desktop.hostOpenFrame tunnelRequest
  simp (disch := simp) only [readText_object, readOptionalTarget_object]
  simp [List.lookup_cons, hread]

/-- A member of the extended frame: one of the session's, or one of the plan's frame. -/
theorem member_openFrameWithSession (relay : ClientRelay) (key : String) :
    (openFrameWithSession relay).member key =
      if key = "sessionId" then Json.ofStr relay.sessionId
      else if key = "sessionToken" then Json.ofStr relay.sessionToken
      else relay.openFrame.member key := by
  rw [openFrameWithSession, Json.member_assign (by simp)]
  by_cases hid : key = "sessionId"
  · subst hid
    rfl
  · by_cases htoken : key = "sessionToken"
    · subst htoken
      rfl
    · simp [List.lookup_cons, beq_eq_false_iff_ne.2 hid, beq_eq_false_iff_ne.2 htoken, hid, htoken]

theorem readOpenRequest_openFrameWithSession {input : LoopbackInput} {relay : ClientRelay} {target : Json}
    (htarget : isMinecraftServerTarget target = true) (hsessionId : relay.sessionId = input.sessionId)
    (htoken : relay.sessionToken = input.sessionToken) (hframe : relay.openFrame = clientOpenFrame input target) :
    readOpenRequest (openFrameWithSession relay) = streamRequest input := by
  have hread := readTarget_minecraft htarget
  unfold readOpenRequest readText readOptionalTarget streamRequest
  simp only [member_openFrameWithSession, hsessionId, htoken, hframe, clientOpenFrame]
  simp (disch := simp) only [Json.member_object]
  simp [List.lookup_cons, hread]

/-! ### Opening a stream -/

/-- What an open comes to: its output, or the output once the session service has given `result`. -/
def awaitFriendStream (options : Options) (relay : Simulation) (request : OpenRequest) (answer : ServiceAnswer)
    (result : ServiceResult) : Output :=
  match openFriendStream options relay request answer with
  | (.waiting open_, relay) => (completeOpen options (resolveOpen relay open_ result).2 open_).1
  | (output, _) => output

/-- The relay opens the tunnel of the first frame and then the stream of the second one. -/
def Connects (options : Options) (relay : Simulation) (hostFrame clientFrame : Json) (answer : ServiceAnswer)
    (result : ServiceResult) : Prop :=
  ∃ tunnel stream, (openHostTunnel options relay (readOpenTunnelRequest hostFrame)).1 = .tunnelOpened tunnel ∧
    awaitFriendStream options (openHostTunnel options relay (readOpenTunnelRequest hostFrame)).2
      (readOpenRequest clientFrame) answer result = .streamOpened stream

/-- The relay gets to know the session: it is stored, or the session service answers with it, at once or later. -/
inductive Knows (options : Options) (relay : Simulation) (session : Session) : ServiceAnswer → ServiceResult → Prop
  | stored {answer : ServiceAnswer} {result : ServiceResult} (hservice : options.sessionService = false)
    (hstored : storedSession relay session.sessionId = some session) : Knows options relay session answer result
  | atOnce {service : ServiceSession} {result : ServiceResult} (hservice : options.sessionService = true)
    (hsession : normalizeSession service = session)
    (hunused : ∀ stored, storedSession relay session.sessionId = some stored → stored.consumedAt = none) :
    Knows options relay session (.now (.session service)) result
  | later {service : ServiceSession} (hservice : options.sessionService = true)
    (hsession : normalizeSession service = session)
    (hunused : ∀ stored, storedSession relay session.sessionId = some stored → stored.consumedAt = none) :
    Knows options relay session .later (.session service)

/-- The relay is ready for the two plans: the host's token is provisioned, the session is that of the plans, neither used
nor expired, and the quotas leave room for it. -/
structure Ready (options : Options) (relay : Simulation) (host : HostTunnelInput) (client : LoopbackInput)
    (session : Session) : Prop where
  sameRoom : client.roomId = host.roomId
  provisioned : options.hostCredentials.get (credentialKey host.roomId host.hostId) = host.hostTunnelToken
  sessionId : session.sessionId = client.sessionId
  sessionToken : session.sessionToken = client.sessionToken
  roomId : session.roomId = client.roomId
  inviteId : session.inviteId = client.inviteId
  hostId : session.hostId = host.hostId
  friendId : session.friendId = client.friendId
  minecraftUuid : session.minecraftUuid = client.minecraftUuid
  approved : session.approved = true
  unconsumed : session.consumedAt = none
  unexpired : ∀ expiresAt, session.expiresAt = some expiresAt → relay.now < expiresAt
  duration : ∀ issuedAt, session.issuedAt = some issuedAt → relay.now - issuedAt ≤ options.quotas.maxSessionMs
  members : activeRoomMemberCount relay host.roomId < options.quotas.maxRoomMembers

/-- The room's tunnel, if it is open, belongs to the host. -/
def NoOtherHost (relay : Simulation) (host : HostTunnelInput) : Prop :=
  ∀ tunnel, relay.hostTunnels.get host.roomId = some tunnel → tunnel.state = .opened → tunnel.hostId = host.hostId

/-! ### The host's tunnel -/

variable {options : Options} {relay : Simulation}

/-- Replacing a stream by one that is not open gives no room a member. -/
theorem memberCount_set_le (t : Traffic) (id : Nat) {stream : Stream} (h : stream.state ≠ .opened)
    (roomId : Option String) : memberCount { t with streams := t.streams.set id stream } roomId ≤ memberCount t roomId := by
  have htotal := JsMap.total_set
    (fun entry : Nat × Stream => if entry.2.roomId == roomId && entry.2.state == .opened then 1 else 0) t.streams id stream
  have hzero : (if stream.roomId == roomId && stream.state == .opened then 1 else 0) = 0 := by simp [h]
  rw [hzero] at htotal
  exact (Nat.le_add_right _ _).trans_eq htotal

/-- What closing streams keeps: the clock, and the room that is left for members. -/
structure LeavesRoom (relay relay' : Simulation) : Prop where
  now : relay'.now = relay.now
  members : ∀ roomId, memberCount relay'.traffic roomId ≤ memberCount relay.traffic roomId

theorem LeavesRoom.refl (relay : Simulation) : LeavesRoom relay relay := ⟨rfl, fun _ => le_rfl⟩

theorem LeavesRoom.trans {relay' relay'' : Simulation} (h : LeavesRoom relay relay') (h' : LeavesRoom relay' relay'') :
    LeavesRoom relay relay'' :=
  ⟨h'.now.trans h.now, fun roomId => (h'.members roomId).trans (h.members roomId)⟩

theorem closeStream_leavesRoom (stream : Stream) (reason : String) :
    LeavesRoom relay (closeStream options relay stream reason) := by
  by_cases hclosed : stream.state = .closed
  · rw [closeStream_closed reason hclosed]
    exact .refl relay
  · constructor
    · rw [closeStream, if_neg hclosed]
      rfl
    · intro roomId
      rw [closeStream_traffic reason hclosed]
      exact memberCount_set_le relay.traffic _ (fun ho => StreamState.noConfusion ho) roomId

theorem closeTunnelStreams_leavesRoom (tunnelId : Nat) (reason : String) (streams : List Stream) (relay : Simulation)
    (closedStreams : Nat) :
    LeavesRoom relay (closeTunnelStreams options tunnelId reason streams (relay, closedStreams)).1 := by
  induction streams generalizing relay closedStreams with
  | nil => exact .refl relay
  | cons stream streams ih =>
    unfold closeTunnelStreams
    split
    · exact (closeStream_leavesRoom stream reason).trans (ih _ _)
    · exact ih relay closedStreams

theorem closeHostTunnel_leavesRoom (request : CloseTunnelRequest) :
    LeavesRoom relay (closeHostTunnel options relay request).2 := by
  unfold closeHostTunnel
  split
  · exact .refl relay
  · rename_i key tunnel _
    split
    · exact .refl relay
    · split
      · exact .refl relay
      · have hstreams := @closeTunnelStreams_leavesRoom options tunnel.id (request.reason.getD "host_closed")
          relay.streams.values
          { relay with
            hostTunnels := relay.hostTunnels.set key { tunnel with state := .closed, closedAt := some relay.now }
            metrics := { relay.metrics with hostTunnelsClosed := relay.metrics.hostTunnelsClosed + 1 } } 0
        exact ⟨hstreams.now, hstreams.members⟩

theorem closeReplacedTunnel_leavesRoom (request : OpenTunnelRequest) :
    LeavesRoom relay (closeReplacedTunnel options relay request) := by
  unfold closeReplacedTunnel
  split
  · exact .refl relay
  · split
    · exact closeHostTunnel_leavesRoom _
    · exact .refl relay

/-- The tunnel of a host that the relay knows, to a Minecraft server, opens in a room without another host's. -/
theorem openHostTunnel_opens {request : OpenTunnelRequest}
    (hauthorized : hostTunnelAuthorized options request.hostId request.roomId request.hostToken = true)
    (htarget : request.target = some minecraftTarget)
    (hfree : ∀ tunnel, relay.hostTunnels.get request.roomId = some tunnel → tunnel.state = .opened →
      tunnel.hostId = request.hostId) :
    ∃ tunnel relay', openHostTunnel options relay request = (.tunnelOpened tunnel, relay') ∧
      tunnel.hostId = request.hostId ∧ tunnel.target = minecraftTarget ∧ tunnel.state = .opened ∧
      relay'.hostTunnels.get request.roomId = some tunnel ∧ LeavesRoom relay relay' := by
  have hconflict : ((relay.hostTunnels.get request.roomId).any fun existingTunnel =>
      existingTunnel.state == .opened && existingTunnel.hostId != request.hostId) = false := by
    cases hget : relay.hostTunnels.get request.roomId with
    | none => rfl
    | some tunnel => simpa using hfree tunnel hget
  have hcloses : LeavesRoom relay (closeReplacedTunnel options relay request) := closeReplacedTunnel_leavesRoom request
  have hloopback : Relay.isMinecraftLoopbackTarget (some minecraftTarget) = true := rfl
  unfold openHostTunnel
  rw [hauthorized, htarget, hconflict]
  dsimp only
  rw [hloopback]
  exact ⟨_, _, rfl, rfl, rfl, rfl, JsMap.get_set_self _ _ _, hcloses.now, hcloses.members⟩

/-! ### The friend's stream -/

theorem validateSession_of_admitted {session : Session} {request : OpenRequest} {tunnel : HostTunnel}
    (h : Admitted options relay session request tunnel) : validateSession options relay.now session request = none := by
  have hinvite : (truthy session.inviteId && session.inviteId != request.inviteId) = false := by
    by_cases htruthy : truthy session.inviteId = true
    · rw [h.inviteId htruthy]
      simp
    · simp [htruthy]
  unfold validateSession
  rw [h.token.1, h.token.2, h.approved, h.notConsumed, h.notExpired, h.withinDuration, h.roomId, hinvite, h.friendId,
    h.minecraftUuid]
  simp

theorem admission_of_admitted {session : Session} {request : OpenRequest} {tunnel : HostTunnel}
    (h : Admitted options relay session request tunnel) : admission options relay session request = .ok tunnel := by
  have hhost : (truthy session.hostId && session.hostId != tunnel.hostId) = false := by
    by_cases htruthy : truthy session.hostId = true
    · rw [h.hostId htruthy]
      simp
    · simp [htruthy]
  unfold admission
  rw [validateSession_of_admitted h, h.tunnel_stored]
  dsimp only
  rw [if_neg (not_not.2 h.tunnelOpened), hhost, h.target, if_neg (by simp), if_neg (by simp),
    if_neg (Nat.not_le_of_lt h.members)]

/-- A session object that is admitted opens a stream. -/
theorem openFriendStreamWithSession_admits {object : Nat} {session : Session} {request : OpenRequest}
    {tunnel : HostTunnel} (hobject : relay.objects[object]? = some session)
    (h : Admitted options relay session request tunnel) :
    ∃ stream, (openFriendStreamWithSession options relay request (.ok object)).1 = .streamOpened stream := by
  unfold openFriendStreamWithSession
  dsimp only
  rw [hobject]
  dsimp only
  rw [admission_of_admitted h]
  exact ⟨_, rfl⟩

theorem Knows.congr {relay' : Simulation} {session : Session} {answer : ServiceAnswer} {result : ServiceResult}
    (h : Knows options relay session answer result) (hsessions : relay'.sessionState = relay.sessionState) :
    Knows options relay' session answer result := by
  have hstored : storedSession relay' = storedSession relay := by
    funext sessionId
    unfold storedSession
    rw [show relay'.sessions = relay.sessions from congrArg SessionState.sessions hsessions,
      show relay'.objects = relay.objects from congrArg SessionState.objects hsessions]
  cases h with
  | stored hservice hfound => exact .stored hservice (hstored ▸ hfound)
  | atOnce hservice hsession hunused => exact .atOnce hservice hsession (hstored ▸ hunused)
  | later hservice hsession hunused => exact .later hservice hsession (hstored ▸ hunused)

/-- A session of the service that has not been used is stored as it is. -/
theorem normalizeServiceSessionResult_unused {service : ServiceSession}
    (hunused : ∀ stored, storedSession relay (normalizeSession service).sessionId = some stored →
      stored.consumedAt = none) :
    normalizeServiceSessionResult relay (.session service) =
      (.ok relay.objects.length, storeSession relay (normalizeSession service)) := by
  have hmark : (storedSession relay (normalizeSession service).sessionId).bind Session.consumedAt = none := by
    cases hstored : storedSession relay (normalizeSession service).sessionId with
    | none => rfl
    | some stored => exact hunused stored hstored
  unfold normalizeServiceSessionResult
  dsimp only
  rw [hmark]
  rfl

theorem awaitFriendStream_of_opened {request : OpenRequest} {answer : ServiceAnswer} {result : ServiceResult}
    {stream : PublicStream} (h : (openFriendStream options relay request answer).1 = .streamOpened stream) :
    awaitFriendStream options relay request answer result = .streamOpened stream := by
  unfold awaitFriendStream
  split
  · rename_i hwaiting
    rw [hwaiting] at h
    cases h
  · rename_i houtput
    rw [houtput] at h
    exact h

/-- The relay when an open goes on after a later answer: the session is stored, and the open has ended. -/
def resumed (relay : Simulation) (request : OpenRequest) (service : ServiceSession) : Simulation :=
  let asked : Simulation := { relay with pending := relay.pending ++ [.asked request] }
  let answered := asked.pending.set relay.pending.length (.answered request (.ok relay.objects.length))
  { storeSession asked (normalizeSession service) with pending := answered.set relay.pending.length .ended }

/-- A later answer of the service goes on like one at once. -/
theorem awaitFriendStream_later {request : OpenRequest} {service : ServiceSession}
    (hservice : options.sessionService = true)
    (hunused : ∀ stored, storedSession relay (normalizeSession service).sessionId = some stored →
      stored.consumedAt = none) :
    awaitFriendStream options relay request .later (.session service) =
      (openFriendStreamWithSession options (resumed relay request service) request (.ok relay.objects.length)).1 := by
  let asked : Simulation := { relay with pending := relay.pending ++ [.asked request] }
  let answered : Simulation :=
    { storeSession asked (normalizeSession service) with
      pending := asked.pending.set relay.pending.length (.answered request (.ok relay.objects.length)) }
  have hwaits : openFriendStream options relay request .later = (.waiting relay.pending.length, asked) := by
    unfold openFriendStream readSessionForRequest
    rw [hservice]
    rfl
  have hanswered : (resolveOpen asked relay.pending.length (.session service)).2 = answered := by
    have hturn : asked.pending[relay.pending.length]? = some (.asked request) := by simp [asked]
    have hnormalized : normalizeServiceSessionResult asked (.session service) =
        (.ok relay.objects.length, storeSession asked (normalizeSession service)) :=
      normalizeServiceSessionResult_unused hunused
    unfold resolveOpen
    rw [hturn]
    dsimp only
    rw [hnormalized]
    rfl
  have hresumes : completeOpen options answered relay.pending.length =
      openFriendStreamWithSession options (resumed relay request service) request (.ok relay.objects.length) := by
    have hturn : answered.pending[relay.pending.length]? = some (.answered request (.ok relay.objects.length)) := by
      simp [answered, asked]
    unfold completeOpen
    rw [hturn]
    rfl
  unfold awaitFriendStream
  rw [hwaits]
  dsimp only
  rw [hanswered, hresumes]

/-- A session that the relay knows or gets to know opens a stream, if it is admitted. -/
theorem awaitFriendStream_opens {request : OpenRequest} {answer : ServiceAnswer} {result : ServiceResult}
    {session : Session} {tunnel : HostTunnel} (hknows : Knows options relay session answer result)
    (hid : session.sessionId = request.sessionId) (h : Admitted options relay session request tunnel) :
    ∃ stream, awaitFriendStream options relay request answer result = .streamOpened stream := by
  have hlast : ∀ session : Session, (relay.objects ++ [session])[relay.objects.length]? = some session := by simp
  cases hknows with
  | stored hservice hstored =>
    rw [hid, storedSession, Option.bind_eq_some_iff] at hstored
    obtain ⟨object, hsession, hobject⟩ := hstored
    obtain ⟨stream, hopened⟩ := openFriendStreamWithSession_admits hobject h
    refine ⟨stream, awaitFriendStream_of_opened ?_⟩
    unfold openFriendStream readSessionForRequest
    rw [hservice, hsession]
    exact hopened
  | @atOnce service result hservice hsession hunused =>
    subst hsession
    have hadmitted : Admitted options (storeSession relay (normalizeSession service)) (normalizeSession service) request
        tunnel := { h with }
    obtain ⟨stream, hopened⟩ := openFriendStreamWithSession_admits (hlast _) hadmitted
    refine ⟨stream, awaitFriendStream_of_opened ?_⟩
    unfold openFriendStream readSessionForRequest
    rw [hservice]
    dsimp only
    rw [normalizeServiceSessionResult_unused hunused]
    exact hopened
  | @later service hservice hsession hunused =>
    subst hsession
    have hadmitted : Admitted options (resumed relay request service) (normalizeSession service) request tunnel :=
      { h with }
    rw [awaitFriendStream_later hservice hunused]
    exact openFriendStreamWithSession_admits (hlast _) hadmitted

/-! ### Connecting -/

variable {host : HostTunnelInput} {client : LoopbackInput} {session : Session}

/-- What the relay checks of a session is what makes it ready for the plans. -/
theorem Ready.admitted (h : Ready options relay host client session) (htoken : truthy client.sessionToken = true)
    {relay' : Simulation} (hleaves : LeavesRoom relay relay') {tunnel : HostTunnel} (hhost : tunnel.hostId = host.hostId)
    (htarget : tunnel.target = minecraftTarget) (hopened : tunnel.state = .opened)
    (hstored : relay'.hostTunnels.get host.roomId = some tunnel) :
    Admitted options relay' session (streamRequest client) tunnel where
  token := ⟨htoken, h.sessionToken⟩
  approved := h.approved
  notConsumed := h.unconsumed
  notExpired := by
    rw [hleaves.now]
    cases hexpires : session.expiresAt with
    | none => rfl
    | some expiresAt => exact decide_eq_false (Int.not_le.2 (h.unexpired expiresAt hexpires))
  withinDuration := by
    rw [hleaves.now]
    cases hissued : session.issuedAt with
    | none => rfl
    | some issuedAt => exact decide_eq_false (Int.not_lt.2 (h.duration issuedAt hissued))
  roomId := h.roomId
  inviteId := fun _ => h.inviteId
  friendId := h.friendId
  minecraftUuid := h.minecraftUuid
  tunnel_stored := by
    rw [streamRequest, h.sameRoom]
    exact hstored
  tunnelOpened := hopened
  hostId := fun _ => h.hostId.trans hhost.symm
  target := by
    rw [htarget]
    rfl
  members := by
    have hmembers := hleaves.members host.roomId
    rw [← activeRoomMemberCount_eq, ← activeRoomMemberCount_eq] at hmembers
    rw [streamRequest, h.sameRoom]
    exact Nat.lt_of_le_of_lt hmembers h.members

/-- The frames of two plans for one room open a tunnel and a stream, if no other host has the room. -/
theorem plans_connect {answer : ServiceAnswer} {result : ServiceResult} {hostPlan : HostTunnelPlan}
    {clientPlan : ClientLoopbackPlan} (hhostPlan : createHostTunnelPlan host = .ok hostPlan)
    (hclientPlan : createClientLoopbackPlan client = .ok clientPlan) (hready : Ready options relay host client session)
    (hknows : Knows options relay session answer result) (hfree : NoOtherHost relay host) :
    Connects options relay hostPlan.relay.openFrame (openFrameWithSession clientPlan.connection.relay) answer result := by
  obtain ⟨hhostToken, hhostTarget, hhostFrame⟩ := Desktop.createHostTunnelPlan_ok hhostPlan
  obtain ⟨hsessionToken, hclientTarget, hsessionId, htoken, hclientFrame⟩ := createClientLoopbackPlan_ok hclientPlan
  have hauthorized : hostTunnelAuthorized options host.hostId host.roomId host.hostTunnelToken = true := by
    unfold hostTunnelAuthorized
    rw [hready.provisioned]
    simp [hhostToken]
  rw [Connects, hhostFrame, readOpenTunnelRequest_hostOpenFrame host hhostTarget,
    readOpenRequest_openFrameWithSession hclientTarget hsessionId htoken hclientFrame]
  have hsessions : (openHostTunnel options relay (tunnelRequest host)).2.sessionState = relay.sessionState :=
    openHostTunnel_sessionState _
  obtain ⟨tunnel, relay', hopens, hhostId, htarget, hopened, hstored, hleaves⟩ :
      ∃ tunnel relay', openHostTunnel options relay (tunnelRequest host) = (.tunnelOpened tunnel, relay') ∧ _ :=
    openHostTunnel_opens hauthorized rfl hfree
  rw [hopens] at hsessions ⊢
  obtain ⟨stream, hstream⟩ := awaitFriendStream_opens (hknows.congr hsessions) hready.sessionId
    (hready.admitted hsessionToken hleaves hhostId htarget hopened hstored)
  exact ⟨tunnel, stream, rfl, hstream⟩

/-! ### One host and one friend -/

def hostInput : HostTunnelInput :=
  { localServerReady := true, roomId := some "room", hostId := some "host", relayUrl := some "wss://relay.example.test"
    hostTunnelToken := some "token", relayToken := none, localTarget := none }

def clientInput : LoopbackInput :=
  { roomId := some "room", inviteId := some "invite", friendId := some "friend", minecraftUuid := some "uuid"
    relayUrl := some "wss://relay.example.test", inviteUrl := none, inviteToken := none, relayToken := none
    sessionId := some "session", sessionToken := some "secret", localHost := none, localPort := none
    requestedTarget := none, disconnectPolicy := ⟨none, none, none⟩ }

theorem hostInput_plan : ∃ plan, createHostTunnelPlan hostInput = .ok plan := ⟨_, rfl⟩

theorem clientInput_plan : ∃ plan, createClientLoopbackPlan clientInput = .ok plan := ⟨_, rfl⟩

/-- A relay that knows two hosts of the room. -/
def twoHosts : Options :=
  { oneHost false with hostCredentials := (JsMap.empty.set "room:host" "token").set "room:guest" "guest-token" }

def guestOpensRoom : Operation :=
  .openHostTunnel { tunnelRequest hostInput with hostId := some "guest", hostToken := some "guest-token" }

def storedFriend : Session := { friendSession with authorizedAt := some 0 }

theorem ready_storedFriend {relay : Simulation} (hnow : relay.now = 0)
    (hmembers : activeRoomMemberCount relay (some "room") = 0) :
    Ready twoHosts relay hostInput clientInput storedFriend where
  sameRoom := rfl
  provisioned := by decide
  sessionId := rfl
  sessionToken := rfl
  roomId := rfl
  inviteId := rfl
  hostId := rfl
  friendId := rfl
  minecraftUuid := rfl
  approved := rfl
  unconsumed := rfl
  unexpired := by
    rintro expiresAt ⟨⟩
    rw [hnow]
    decide
  duration := by
    rintro issuedAt ⟨⟩
    rw [hnow]
    decide
  members := by
    rw [show hostInput.roomId = some "room" from rfl, hmembers]
    decide

theorem plans_connect_friend :
    ∃ hostPlan clientPlan, createHostTunnelPlan hostInput = .ok hostPlan ∧
      createClientLoopbackPlan clientInput = .ok clientPlan ∧
      Connects twoHosts (run twoHosts 0 [.authorizeSession friendSession]) hostPlan.relay.openFrame
        (openFrameWithSession clientPlan.connection.relay) .later .threw := by
  obtain ⟨hostPlan, hhost⟩ := hostInput_plan
  obtain ⟨clientPlan, hclient⟩ := clientInput_plan
  refine ⟨hostPlan, clientPlan, hhost, hclient, ?_⟩
  refine plans_connect hhost hclient (ready_storedFriend rfl (by decide)) (.stored rfl (by decide)) ?_
  rintro tunnel ⟨⟩

/-- The host has a token for the room, but another host's tunnel is open there. -/
theorem other_host_stays :
    ¬ ∀ (options : Options) (now : Int) (operations : List Operation) (host : HostTunnelInput) (client : LoopbackInput)
      (session : Session) (answer : ServiceAnswer) (result : ServiceResult) (hostPlan : HostTunnelPlan)
      (clientPlan : ClientLoopbackPlan), createHostTunnelPlan host = .ok hostPlan →
      createClientLoopbackPlan client = .ok clientPlan → Ready options (run options now operations) host client session →
      Knows options (run options now operations) session answer result →
      Connects options (run options now operations) hostPlan.relay.openFrame
        (openFrameWithSession clientPlan.connection.relay) answer result := by
  intro h
  obtain ⟨hostPlan, hhost⟩ := hostInput_plan
  obtain ⟨clientPlan, hclient⟩ := clientInput_plan
  obtain ⟨tunnel, stream, hopens, -⟩ := h twoHosts 0 [guestOpensRoom, .authorizeSession friendSession] hostInput clientInput
    storedFriend .later .threw hostPlan clientPlan hhost hclient (ready_storedFriend rfl (by decide))
    (.stored rfl (by decide))
  obtain ⟨-, htarget, hframe⟩ := Desktop.createHostTunnelPlan_ok hhost
  rw [hframe, readOpenTunnelRequest_hostOpenFrame hostInput htarget] at hopens
  have hconflict : (openHostTunnel twoHosts (run twoHosts 0 [guestOpensRoom, .authorizeSession friendSession])
      (tunnelRequest hostInput)).1 = .fail .hostTunnelConflict := by decide
  rw [hconflict] at hopens
  cases hopens

end EasyMc.Client
