import Mathlib.Algebra.Ring.Int.Defs
import EasyMc.Relay.Traffic

/-!
# What the relay lets be seen

Two runs whose operations differ in their tokens, by an injective renaming, and in the contents of their payloads give
the same results but for the payloads that are echoed, the same events and the same metrics (`runs_alike`).

The argument has three parts.  No operation reads what is in an inbox (`step_blank`).  A renaming of the tokens, in the
state as in the operation, commutes with every operation (`step_rename`).  And of a payload an operation reads only its
length (`step_payload`).
-/

namespace EasyMc.Relay

variable (options : Options)

/-! ### Inboxes -/

/-- The stream without the frames in its inboxes. -/
def Stream.blank (stream : Stream) : Stream := { stream with hostInbox := [], friendInbox := [] }

/-- The relay without the frames that it has relayed. -/
def Simulation.blank (relay : Simulation) : Simulation :=
  { relay with streams := relay.streams.mapValues Stream.blank }

/-- A result with the blank relay. -/
def blanked (result : Output × Simulation) : Output × Simulation := (result.1, result.2.blank)

@[simp] theorem Stream.blank_blank (stream : Stream) : stream.blank.blank = stream.blank := rfl

@[simp] theorem Simulation.blank_blank (relay : Simulation) : relay.blank.blank = relay.blank := by
  unfold Simulation.blank
  simp only [JsMap.mapValues_mapValues, Stream.blank_blank]

@[simp] theorem publicStream_blank (stream : Stream) : publicStream stream.blank = publicStream stream := rfl

theorem closeStream_blank (relay : Simulation) (stream : Stream) (reason : String) :
    closeStream options relay.blank stream.blank reason = (closeStream options relay stream reason).blank := by
  have hstate : stream.blank.state = stream.state := rfl
  unfold closeStream
  rw [hstate]
  split_ifs with hclosed
  · rfl
  · unfold recordEvent Simulation.blank
    simp only [JsMap.mapValues_set]
    rfl

theorem closeTunnelStreams_blank (tunnelId : Nat) (reason : String) (streams : List Stream) (relay : Simulation)
    (closedStreams : Nat) :
    closeTunnelStreams options tunnelId reason (streams.map Stream.blank) (relay.blank, closedStreams) =
      ((closeTunnelStreams options tunnelId reason streams (relay, closedStreams)).1.blank,
        (closeTunnelStreams options tunnelId reason streams (relay, closedStreams)).2) := by
  induction streams generalizing relay closedStreams with
  | nil => rfl
  | cons stream streams ih =>
    have hblank : stream.blank.tunnelId = stream.tunnelId ∧ stream.blank.state = stream.state := ⟨rfl, rfl⟩
    rw [List.map_cons, closeTunnelStreams, closeTunnelStreams, hblank.1, hblank.2]
    split_ifs with hopened
    · rw [closeStream_blank]
      exact ih _ _
    · exact ih _ _

theorem closeHostTunnel_blank (relay : Simulation) (request : CloseTunnelRequest) :
    closeHostTunnel options relay.blank request = blanked (closeHostTunnel options relay request) := by
  have hfind : findTunnel relay.blank request = findTunnel relay request := rfl
  unfold closeHostTunnel
  rw [hfind]
  cases findTunnel relay request with
  | none => rfl
  | some found =>
    obtain ⟨key, tunnel⟩ := found
    dsimp only
    split_ifs with hunauthorized hclosed
    · rfl
    · rfl
    · -- The tunnel is closed first; the streams are those of the relay as it was.
      have hvalues : relay.blank.streams.values = relay.streams.values.map Stream.blank := JsMap.values_mapValues _ _
      have hcloses := closeTunnelStreams_blank options tunnel.id (request.reason.getD "host_closed")
        relay.streams.values
        { relay with
          hostTunnels := relay.hostTunnels.set key { tunnel with state := .closed, closedAt := some relay.now }
          metrics := { relay.metrics with hostTunnelsClosed := relay.metrics.hostTunnelsClosed + 1 } } 0
      rw [hvalues]
      exact congrArg (fun closed : Simulation × Nat => (Output.tunnelClosed
          { tunnel with state := .closed, closedAt := some relay.now } closed.2,
        recordEvent options closed.1 "host_tunnel_closed"
          (.hostTunnelClosed tunnel.id tunnel.roomId (request.reason.getD "host_closed") closed.2))) hcloses

theorem openHostTunnel_blank (relay : Simulation) (request : OpenTunnelRequest) :
    openHostTunnel options relay.blank request = blanked (openHostTunnel options relay request) := by
  have hreplaced : closeReplacedTunnel options relay.blank request = (closeReplacedTunnel options relay request).blank := by
    have hget : relay.blank.hostTunnels = relay.hostTunnels := rfl
    unfold closeReplacedTunnel
    rw [hget]
    cases relay.hostTunnels.get request.roomId with
    | none => rfl
    | some existingTunnel =>
      dsimp only
      split_ifs
      · rw [closeHostTunnel_blank]
        rfl
      · rfl
  unfold openHostTunnel
  rw [hreplaced]
  have htunnels : relay.blank.hostTunnels = relay.hostTunnels := rfl
  rw [htunnels]
  cases request.target with
  | none =>
    dsimp only
    split_ifs
    · rfl
    · rfl
  | some target =>
    dsimp only
    split_ifs
    · rfl
    · rfl
    · rfl
    · rfl

theorem activeRoomMemberCount_blank (relay : Simulation) (roomId : Option String) :
    activeRoomMemberCount relay.blank roomId = activeRoomMemberCount relay roomId := by
  have hvalues : relay.blank.streams.values = relay.streams.values.map Stream.blank := JsMap.values_mapValues _ _
  unfold activeRoomMemberCount
  rw [hvalues, List.filter_map, List.length_map]
  rfl

theorem openFriendStreamWithSession_blank (relay : Simulation) (request : OpenRequest) (sessionResult : SessionResult) :
    openFriendStreamWithSession options relay.blank request sessionResult =
      blanked (openFriendStreamWithSession options relay request sessionResult) := by
  cases sessionResult with
  | fail reason => rfl
  | ok object =>
    have hobjects : relay.blank.objects = relay.objects := rfl
    unfold openFriendStreamWithSession
    rw [hobjects]
    dsimp only
    cases relay.objects[object]? with
    | none => rfl
    | some session =>
      have hadmission : admission options relay.blank session request = admission options relay session request := by
        unfold admission
        rw [activeRoomMemberCount_blank]
        rfl
      dsimp only
      rw [hadmission]
      cases admission options relay session request with
      | error reason => rfl
      | ok tunnel =>
        unfold admitStream blanked recordEvent Simulation.blank
        simp only [JsMap.mapValues_set]
        rfl

theorem openFriendStream_blank (relay : Simulation) (request : OpenRequest) (answer : ServiceAnswer) :
    openFriendStream options relay.blank request answer = blanked (openFriendStream options relay request answer) := by
  have hread : readSessionForRequest options relay.blank request answer =
      ((readSessionForRequest options relay request answer).1,
        (readSessionForRequest options relay request answer).2.blank) := by
    unfold readSessionForRequest
    split_ifs with hservice
    · cases answer with
      | later => rfl
      | now result =>
        cases result with
        | session session => rfl
        | refused reason =>
          cases reason with
          | none => rfl
          | some reason => rfl
        | threw => rfl
    · have hsessions : relay.blank.sessions = relay.sessions := rfl
      rw [hsessions]
      cases relay.sessions.get request.sessionId with
      | none => rfl
      | some object => rfl
  unfold openFriendStream
  rw [hread]
  cases readSessionForRequest options relay request answer with
  | mk reading relay' =>
    cases reading with
    | waiting => rfl
    | threw => rfl
    | ready sessionResult => exact openFriendStreamWithSession_blank options relay' request sessionResult

theorem resolveOpen_blank (relay : Simulation) (open_ : Nat) (result : ServiceResult) :
    resolveOpen relay.blank open_ result = blanked (resolveOpen relay open_ result) := by
  have hpending : relay.blank.pending = relay.pending := rfl
  unfold resolveOpen
  rw [hpending]
  cases relay.pending[open_]? with
  | none => rfl
  | some pending =>
    cases pending with
    | asked request =>
      cases result with
      | session session => rfl
      | refused reason =>
        cases reason with
        | none => rfl
        | some reason => rfl
      | threw => rfl
    | answered request sessionResult => rfl
    | ended => rfl

theorem completeOpen_blank (relay : Simulation) (open_ : Nat) :
    completeOpen options relay.blank open_ = blanked (completeOpen options relay open_) := by
  have hpending : relay.blank.pending = relay.pending := rfl
  unfold completeOpen
  rw [hpending]
  cases relay.pending[open_]? with
  | none => rfl
  | some pending =>
    cases pending with
    | asked request => rfl
    | answered request sessionResult =>
      exact openFriendStreamWithSession_blank options { relay with pending := relay.pending.set open_ .ended } request
        sessionResult
    | ended => rfl

theorem openStream_blank (relay : Simulation) (streamId : Nat) :
    openStream relay.blank streamId = (openStream relay streamId).map Stream.blank := by
  have hget : relay.blank.streams.get streamId = (relay.streams.get streamId).map Stream.blank :=
    JsMap.get_mapValues _ _ _
  unfold openStream
  rw [hget]
  cases relay.streams.get streamId with
  | none => rfl
  | some stream =>
    have hstate : stream.blank.state = stream.state := rfl
    by_cases hopened : stream.state = .opened
    · simp [Option.filter, hstate, hopened]
    · simp [Option.filter, hstate, hopened]

theorem quotaStop_blank (relay : Simulation) (stream : Stream) (closeReason : String) (reason : RelayFailureReason) :
    quotaStop options relay.blank stream.blank closeReason reason =
      blanked (quotaStop options relay stream closeReason reason) := by
  unfold quotaStop
  rw [closeStream_blank]
  rfl

theorem recordStreamTransfer_blank (relay : Simulation) (stream : Stream) (bytes : Option Int) :
    recordStreamTransfer options relay.blank stream.blank bytes =
      blanked (recordStreamTransfer options relay stream bytes) := by
  have hread : relay.blank.now = relay.now ∧ relay.blank.roomBytes = relay.roomBytes ∧
    relay.blank.monthlyHostBytes = relay.monthlyHostBytes ∧ stream.blank.openedAt = stream.openedAt ∧
    stream.blank.lastActivityAt = stream.lastActivityAt ∧ stream.blank.roomId = stream.roomId ∧
    stream.blank.hostId = stream.hostId := ⟨rfl, rfl, rfl, rfl, rfl, rfl, rfl⟩
  obtain ⟨hnow, hroom, hmonthly, hopenedAt, hactivity, hroomId, hhostId⟩ := hread
  unfold recordStreamTransfer
  rw [hnow, hroom, hmonthly, hopenedAt, hactivity, hroomId, hhostId]
  dsimp only
  split_ifs
  · rfl
  · exact quotaStop_blank options relay stream _ _
  · exact quotaStop_blank options relay stream _ _
  · exact quotaStop_blank options relay stream _ _
  · exact quotaStop_blank options relay stream _ _
  · unfold recordEvent blanked Simulation.blank
    simp only [JsMap.mapValues_set]
    rfl
  · unfold recordEvent blanked Simulation.blank
    simp only [JsMap.mapValues_set]
    rfl

theorem recordTransfer_blank (relay : Simulation) (streamId : Nat) (bytes : Option Int) :
    recordTransfer options relay.blank streamId bytes = blanked (recordTransfer options relay streamId bytes) := by
  unfold recordTransfer
  rw [openStream_blank]
  cases openStream relay streamId with
  | none => rfl
  | some stream => exact recordStreamTransfer_blank options relay stream bytes

@[simp] theorem blanked_blanked (result : Output × Simulation) : blanked (blanked result) = blanked result := by
  simp [blanked]

/-- An echo adds its frames to the inboxes, which are then blank again. -/
theorem relayEcho_blank (relay : Simulation) (streamId : Nat) (payload : Payload) :
    blanked (relayEcho options relay.blank streamId payload) = blanked (relayEcho options relay streamId payload) := by
  unfold relayEcho
  rw [openStream_blank]
  cases openStream relay streamId with
  | none => simp [blanked]
  | some stream =>
    dsimp only [Option.map_some]
    cases byteLength payload with
    | none => simp [blanked]
    | some bytes =>
      dsimp only
      rw [recordTransfer_blank]
      cases recordTransfer options relay streamId (some bytes) with
      | mk output relay' =>
        cases output with
        | transferred transferred warning =>
          have hget : relay'.blank.streams.get streamId = (relay'.streams.get streamId).map Stream.blank :=
            JsMap.get_mapValues _ _ _
          dsimp only [blanked]
          rw [hget]
          cases relay'.streams.get streamId with
          | none => simp
          | some stream =>
            unfold Simulation.blank
            simp only [Option.map_some, JsMap.mapValues_set, JsMap.mapValues_mapValues, Stream.blank_blank]
            rfl
        | _ => simp [blanked]

theorem disconnectLoop_blank (stream : Stream) (boundedMaxAttempts failAttempts : JsNumber) (room : Nat) (attempt : Int)
    (attempts : List Attempt) (relay : Simulation) :
    disconnectLoop options stream.blank boundedMaxAttempts failAttempts room attempt attempts relay.blank =
      blanked (disconnectLoop options stream boundedMaxAttempts failAttempts room attempt attempts relay) := by
  fun_induction disconnectLoop options stream boundedMaxAttempts failAttempts room attempt attempts relay with
  | case1 attempt attempts relay hbounded =>
    rw [disconnectLoop, if_pos hbounded]
    rfl
  | case2 attempt attempts relay hbounded room hfailed ih =>
    rw [disconnectLoop, if_pos hbounded, if_pos hfailed]
    exact ih
  | case3 attempt attempts relay hbounded room hfailed =>
    rw [disconnectLoop, if_pos hbounded, if_neg hfailed, closeStream_blank]
    rfl
  | case4 room attempt attempts relay hbounded =>
    rw [disconnectLoop.eq_def, if_neg hbounded]
    unfold recordEvent blanked Simulation.blank
    simp +zetaDelta only [JsMap.mapValues_set]
    rfl

theorem disconnectStream_blank (relay : Simulation) (streamId : Nat) (maxAttempts failAttempts : Option JsNumber) :
    disconnectStream options relay.blank streamId maxAttempts failAttempts =
      blanked (disconnectStream options relay streamId maxAttempts failAttempts) := by
  have hget : relay.blank.streams.get streamId = (relay.streams.get streamId).map Stream.blank :=
    JsMap.get_mapValues _ _ _
  unfold disconnectStream
  rw [hget]
  cases relay.streams.get streamId with
  | none => rfl
  | some stream => exact disconnectLoop_blank options stream _ _ _ _ _ relay

/-- No operation reads what is in an inbox. -/
theorem step_blank (relay : Simulation) (operation : Operation) :
    blanked (step options relay.blank operation) = blanked (step options relay operation) := by
  have hblanked : ∀ {result : Output × Simulation}, blanked (blanked result) = blanked result := blanked_blanked _
  cases operation with
  | openHostTunnel request =>
    show blanked (openHostTunnel options relay.blank request) = blanked (openHostTunnel options relay request)
    rw [openHostTunnel_blank, hblanked]
  | closeHostTunnel request =>
    show blanked (closeHostTunnel options relay.blank request) = blanked (closeHostTunnel options relay request)
    rw [closeHostTunnel_blank, hblanked]
  | authorizeSession session =>
    show blanked (authorizeSession relay.blank session) = blanked (authorizeSession relay session)
    have hblank : authorizeSession relay.blank session = blanked (authorizeSession relay session) := rfl
    rw [hblank, hblanked]
  | openFriendStream request answer =>
    show blanked (openFriendStream options relay.blank request answer) = blanked (openFriendStream options relay request answer)
    rw [openFriendStream_blank, hblanked]
  | resolveOpen open_ result =>
    show blanked (resolveOpen relay.blank open_ result) = blanked (resolveOpen relay open_ result)
    rw [resolveOpen_blank, hblanked]
  | completeOpen open_ =>
    show blanked (completeOpen options relay.blank open_) = blanked (completeOpen options relay open_)
    rw [completeOpen_blank, hblanked]
  | recordTransfer streamId bytes =>
    show blanked (recordTransfer options relay.blank streamId bytes) = blanked (recordTransfer options relay streamId bytes)
    rw [recordTransfer_blank, hblanked]
  | relayEcho streamId payload => exact relayEcho_blank options relay streamId payload
  | disconnectStream streamId maxAttempts failAttempts =>
    show blanked (disconnectStream options relay.blank streamId maxAttempts failAttempts) = blanked
      (disconnectStream options relay streamId maxAttempts failAttempts)
    rw [disconnectStream_blank, hblanked]
  | advance ms =>
    have hblank : step options relay.blank (.advance ms) = blanked (step options relay (.advance ms)) := rfl
    rw [hblank, hblanked]

/-! ### Tokens -/

/-- Other tokens: different ones stay different, and the empty one stays the empty one. -/
structure TokenRenaming where
  host : String → String
  session : String → String
  host_injective : Function.Injective host
  session_injective : Function.Injective session
  host_empty : ∀ token, host token = "" ↔ token = ""
  session_empty : ∀ token, session token = "" ↔ token = ""

variable (ρ : TokenRenaming)

def Options.rename (options : Options) : Options :=
  { options with hostCredentials := options.hostCredentials.mapValues ρ.host }

def Session.rename (session : Session) : Session :=
  { session with sessionToken := session.sessionToken.map ρ.session }

def ServiceSession.rename (session : ServiceSession) : ServiceSession :=
  { session with
    sessionToken := session.sessionToken.map ρ.session
    sessionCredential := session.sessionCredential.map ρ.session }

def ServiceResult.rename : ServiceResult → ServiceResult
  | .session given => .session (given.rename ρ)
  | result => result

def ServiceAnswer.rename : ServiceAnswer → ServiceAnswer
  | .now result => .now (result.rename ρ)
  | .later => .later

def OpenRequest.rename (request : OpenRequest) : OpenRequest :=
  { request with sessionToken := request.sessionToken.map ρ.session }

def OpenTunnelRequest.rename (request : OpenTunnelRequest) : OpenTunnelRequest :=
  { request with hostToken := request.hostToken.map ρ.host }

def CloseTunnelRequest.rename (request : CloseTunnelRequest) : CloseTunnelRequest :=
  { request with hostToken := request.hostToken.map ρ.host }

def PendingOpen.rename : PendingOpen → PendingOpen
  | .asked request => .asked (request.rename ρ)
  | .answered request result => .answered (request.rename ρ) result
  | .ended => .ended

def Simulation.rename (relay : Simulation) : Simulation :=
  { relay with objects := relay.objects.map (Session.rename ρ), pending := relay.pending.map (PendingOpen.rename ρ) }

def Operation.rename : Operation → Operation
  | .openHostTunnel request => .openHostTunnel (request.rename ρ)
  | .closeHostTunnel request => .closeHostTunnel (request.rename ρ)
  | .authorizeSession session => .authorizeSession (session.rename ρ)
  | .openFriendStream request answer => .openFriendStream (request.rename ρ) (answer.rename ρ)
  | .resolveOpen open_ result => .resolveOpen open_ (result.rename ρ)
  | operation => operation

/-- A result with the tokens of the relay renamed. -/
def renamed (result : Output × Simulation) : Output × Simulation := (result.1, result.2.rename ρ)

private theorem truthy_map {f : String → String} (hempty : ∀ token, f token = "" ↔ token = "") (token : Option String) :
    truthy (token.map f) = truthy token := by
  cases token with
  | none => rfl
  | some token =>
    rw [Bool.eq_iff_iff]
    simp [truthy, hempty]

private theorem map_beq {f : String → String} (hinjective : Function.Injective f) (token token' : Option String) :
    (token.map f == token'.map f) = (token == token') := by
  rw [Bool.eq_iff_iff, beq_iff_eq, beq_iff_eq]
  exact (Option.map_injective hinjective).eq_iff

theorem hostTunnelAuthorized_rename (hostId roomId hostToken : Option String) :
    hostTunnelAuthorized (options.rename ρ) hostId roomId (hostToken.map ρ.host) =
      hostTunnelAuthorized options hostId roomId hostToken := by
  have hcredential : (options.rename ρ).hostCredentials.get (credentialKey roomId hostId) =
      (options.hostCredentials.get (credentialKey roomId hostId)).map ρ.host := JsMap.get_mapValues _ _ _
  unfold hostTunnelAuthorized
  rw [hcredential]
  dsimp only
  rw [truthy_map ρ.host_empty, truthy_map ρ.host_empty, map_beq ρ.host_injective]

theorem validateSession_rename (now : Int) (session : Session) (request : OpenRequest) :
    validateSession (options.rename ρ) now (session.rename ρ) (request.rename ρ) =
      validateSession options now session request := by
  have htruthy : truthy (request.rename ρ).sessionToken = truthy request.sessionToken :=
    truthy_map ρ.session_empty _
  have hsame : ((session.rename ρ).sessionToken != (request.rename ρ).sessionToken) =
      (session.sessionToken != request.sessionToken) := by
    unfold bne
    exact congrArg (! ·) (map_beq ρ.session_injective _ _)
  unfold validateSession
  rw [htruthy, hsame]
  rfl

theorem closeStream_rename (relay : Simulation) (stream : Stream) (reason : String) :
    closeStream (options.rename ρ) (relay.rename ρ) stream reason = (closeStream options relay stream reason).rename ρ := by
  unfold closeStream
  split_ifs
  · rfl
  · rfl

theorem closeTunnelStreams_rename (tunnelId : Nat) (reason : String) (streams : List Stream) (relay : Simulation)
    (closedStreams : Nat) :
    closeTunnelStreams (options.rename ρ) tunnelId reason streams (relay.rename ρ, closedStreams) =
      ((closeTunnelStreams options tunnelId reason streams (relay, closedStreams)).1.rename ρ,
        (closeTunnelStreams options tunnelId reason streams (relay, closedStreams)).2) := by
  induction streams generalizing relay closedStreams with
  | nil => rfl
  | cons stream streams ih =>
    rw [closeTunnelStreams, closeTunnelStreams]
    split_ifs with hopened
    · rw [closeStream_rename]
      exact ih _ _
    · exact ih _ _

theorem closeHostTunnel_rename (relay : Simulation) (request : CloseTunnelRequest) :
    closeHostTunnel (options.rename ρ) (relay.rename ρ) (request.rename ρ) =
      renamed ρ (closeHostTunnel options relay request) := by
  have hfind : findTunnel (relay.rename ρ) (request.rename ρ) = findTunnel relay request := rfl
  unfold closeHostTunnel
  rw [hfind]
  cases findTunnel relay request with
  | none => rfl
  | some found =>
    obtain ⟨key, tunnel⟩ := found
    have hauthorized : hostTunnelAuthorized (options.rename ρ) tunnel.hostId tunnel.roomId (request.rename ρ).hostToken =
        hostTunnelAuthorized options tunnel.hostId tunnel.roomId request.hostToken :=
      hostTunnelAuthorized_rename options ρ _ _ _
    have hhost : (request.rename ρ).hostId = request.hostId := rfl
    dsimp only
    rw [hauthorized, hhost]
    split_ifs with hunauthorized hclosed
    · rfl
    · rfl
    · have hcloses := closeTunnelStreams_rename options ρ tunnel.id (request.reason.getD "host_closed")
        relay.streams.values
        { relay with
          hostTunnels := relay.hostTunnels.set key { tunnel with state := .closed, closedAt := some relay.now }
          metrics := { relay.metrics with hostTunnelsClosed := relay.metrics.hostTunnelsClosed + 1 } } 0
      exact congrArg (fun closed : Simulation × Nat => (Output.tunnelClosed
          { tunnel with state := .closed, closedAt := some relay.now } closed.2,
        recordEvent options closed.1 "host_tunnel_closed"
          (.hostTunnelClosed tunnel.id tunnel.roomId (request.reason.getD "host_closed") closed.2))) hcloses

theorem openHostTunnel_rename (relay : Simulation) (request : OpenTunnelRequest) :
    openHostTunnel (options.rename ρ) (relay.rename ρ) (request.rename ρ) =
      renamed ρ (openHostTunnel options relay request) := by
  have hreplaced : closeReplacedTunnel (options.rename ρ) (relay.rename ρ) (request.rename ρ) =
      (closeReplacedTunnel options relay request).rename ρ := by
    have hget : (relay.rename ρ).hostTunnels.get (request.rename ρ).roomId = relay.hostTunnels.get request.roomId := rfl
    unfold closeReplacedTunnel
    rw [hget]
    cases relay.hostTunnels.get request.roomId with
    | none => rfl
    | some existingTunnel =>
      dsimp only
      split_ifs
      · exact congrArg Prod.snd (closeHostTunnel_rename options ρ relay
          { tunnelId := some existingTunnel.id, roomId := none, hostId := request.hostId,
            hostToken := request.hostToken, reason := some "replaced_by_same_host" })
      · rfl
  have hauthorized : hostTunnelAuthorized (options.rename ρ) (request.rename ρ).hostId (request.rename ρ).roomId
      (request.rename ρ).hostToken = hostTunnelAuthorized options request.hostId request.roomId request.hostToken :=
    hostTunnelAuthorized_rename options ρ _ _ _
  have hrequest : (request.rename ρ).target = request.target ∧ (request.rename ρ).roomId = request.roomId ∧
    (request.rename ρ).hostId = request.hostId ∧ (relay.rename ρ).hostTunnels = relay.hostTunnels := ⟨rfl, rfl, rfl, rfl⟩
  obtain ⟨htarget, hroomId, hhostId, htunnels⟩ := hrequest
  unfold openHostTunnel
  rw [hreplaced, hauthorized, htarget, hroomId, hhostId, htunnels]
  cases request.target with
  | none =>
    dsimp only
    split_ifs
    · rfl
    · rfl
  | some target =>
    dsimp only
    split_ifs
    · rfl
    · rfl
    · rfl
    · rfl

theorem storeSession_rename (relay : Simulation) (session : Session) :
    storeSession (relay.rename ρ) (session.rename ρ) = (storeSession relay session).rename ρ := by
  unfold storeSession Simulation.rename
  simp only [List.length_map, List.map_append, List.map_cons, List.map_nil]
  rfl

theorem normalizeSession_rename (session : ServiceSession) :
    normalizeSession (session.rename ρ) = (normalizeSession session).rename ρ := by
  unfold normalizeSession ServiceSession.rename Session.rename
  simp only [Option.map_or]

theorem storedSession_rename (relay : Simulation) (sessionId : Option String) :
    storedSession (relay.rename ρ) sessionId = (storedSession relay sessionId).map (Session.rename ρ) := by
  have hsessions : (relay.rename ρ).sessions = relay.sessions := rfl
  have hobjects : (relay.rename ρ).objects = relay.objects.map (Session.rename ρ) := rfl
  unfold storedSession
  rw [hsessions, hobjects]
  cases relay.sessions.get sessionId with
  | none => rfl
  | some object => simp

theorem normalizeServiceSessionResult_rename (relay : Simulation) (result : ServiceResult) :
    normalizeServiceSessionResult (relay.rename ρ) (result.rename ρ) =
      ((normalizeServiceSessionResult relay result).1, (normalizeServiceSessionResult relay result).2.rename ρ) := by
  cases result with
  | session session =>
    have hlength : (relay.rename ρ).objects.length = relay.objects.length := List.length_map _
    have hconsumed : ∀ stored : Option Session, (stored.map (Session.rename ρ)).bind Session.consumedAt =
        stored.bind Session.consumedAt := by
      intro stored
      cases stored with
      | none => rfl
      | some stored => rfl
    have hid : ((normalizeSession session).rename ρ).sessionId = (normalizeSession session).sessionId := rfl
    simp only [ServiceResult.rename, normalizeServiceSessionResult, normalizeSession_rename, hid, storedSession_rename,
      hconsumed, hlength]
    exact congrArg (Prod.mk _) (storeSession_rename ρ relay
      { normalizeSession session with
        consumedAt := (storedSession relay (normalizeSession session).sessionId).bind Session.consumedAt })
  | refused reason =>
    cases reason with
    | none => rfl
    | some reason => rfl
  | threw => rfl

theorem openFriendStreamWithSession_rename (relay : Simulation) (request : OpenRequest) (sessionResult : SessionResult) :
    openFriendStreamWithSession (options.rename ρ) (relay.rename ρ) (request.rename ρ) sessionResult =
      renamed ρ (openFriendStreamWithSession options relay request sessionResult) := by
  cases sessionResult with
  | fail reason => rfl
  | ok object =>
    have hobjects : (relay.rename ρ).objects = relay.objects.map (Session.rename ρ) := rfl
    unfold openFriendStreamWithSession
    dsimp only
    rw [hobjects, List.getElem?_map]
    cases relay.objects[object]? with
    | none => rfl
    | some session =>
      have hadmission : admission (options.rename ρ) (relay.rename ρ) (session.rename ρ) (request.rename ρ) =
          admission options relay session request := by
        unfold admission
        have hnow : (relay.rename ρ).now = relay.now := rfl
        rw [hnow, validateSession_rename]
        rfl
      dsimp only [Option.map_some]
      rw [hadmission]
      cases admission options relay session request with
      | error reason => rfl
      | ok tunnel =>
        unfold admitStream renamed recordEvent Simulation.rename
        simp only [List.map_set]
        rfl

theorem openFriendStream_rename (relay : Simulation) (request : OpenRequest) (answer : ServiceAnswer) :
    openFriendStream (options.rename ρ) (relay.rename ρ) (request.rename ρ) (answer.rename ρ) =
      renamed ρ (openFriendStream options relay request answer) := by
  have hread : readSessionForRequest (options.rename ρ) (relay.rename ρ) (request.rename ρ) (answer.rename ρ) =
      ((readSessionForRequest options relay request answer).1,
        (readSessionForRequest options relay request answer).2.rename ρ) := by
    have hoptions : (options.rename ρ).sessionService = options.sessionService := rfl
    unfold readSessionForRequest
    rw [hoptions]
    split_ifs with hservice
    · cases answer with
      | later => rfl
      | now result =>
        have hnormalize := normalizeServiceSessionResult_rename ρ relay result
        cases result with
        | session session =>
          dsimp only [ServiceAnswer.rename, ServiceResult.rename] at hnormalize ⊢
          rw [hnormalize]
        | refused reason =>
          dsimp only [ServiceAnswer.rename, ServiceResult.rename] at hnormalize ⊢
          rw [hnormalize]
        | threw => rfl
    · have hsessions : (relay.rename ρ).sessions.get (request.rename ρ).sessionId = relay.sessions.get request.sessionId :=
        rfl
      rw [hsessions]
      cases relay.sessions.get request.sessionId with
      | none => rfl
      | some object => rfl
  unfold openFriendStream
  rw [hread]
  cases readSessionForRequest options relay request answer with
  | mk reading relay' =>
    cases reading with
    | waiting =>
      unfold renamed Simulation.rename
      simp only [List.length_map, List.map_append, List.map_cons, List.map_nil]
      rfl
    | threw => rfl
    | ready sessionResult => exact openFriendStreamWithSession_rename options ρ relay' request sessionResult

private theorem pending_rename (relay : Simulation) (open_ : Nat) :
    (relay.rename ρ).pending[open_]? = (relay.pending[open_]?).map (PendingOpen.rename ρ) := List.getElem?_map

theorem resolveOpen_rename (relay : Simulation) (open_ : Nat) (result : ServiceResult) :
    resolveOpen (relay.rename ρ) open_ (result.rename ρ) = renamed ρ (resolveOpen relay open_ result) := by
  unfold resolveOpen
  rw [pending_rename]
  cases relay.pending[open_]? with
  | none => rfl
  | some pending =>
    cases pending with
    | asked request =>
      dsimp only [Option.map_some, PendingOpen.rename]
      rw [normalizeServiceSessionResult_rename]
      unfold renamed Simulation.rename
      simp only [List.map_set]
      rfl
    | answered request sessionResult => rfl
    | ended => rfl

theorem completeOpen_rename (relay : Simulation) (open_ : Nat) :
    completeOpen (options.rename ρ) (relay.rename ρ) open_ = renamed ρ (completeOpen options relay open_) := by
  unfold completeOpen
  rw [pending_rename]
  cases relay.pending[open_]? with
  | none => rfl
  | some pending =>
    cases pending with
    | asked request => rfl
    | answered request sessionResult =>
      have hended : { relay.rename ρ with pending := (relay.rename ρ).pending.set open_ .ended } =
          Simulation.rename ρ { relay with pending := relay.pending.set open_ .ended } := by
        unfold Simulation.rename
        simp only [List.map_set]
        rfl
      dsimp only [Option.map_some, PendingOpen.rename]
      rw [hended]
      exact openFriendStreamWithSession_rename options ρ { relay with pending := relay.pending.set open_ .ended } request
        sessionResult
    | ended => rfl

theorem recordTransfer_rename (relay : Simulation) (streamId : Nat) (bytes : Option Int) :
    recordTransfer (options.rename ρ) (relay.rename ρ) streamId bytes =
      renamed ρ (recordTransfer options relay streamId bytes) := by
  have hopen : openStream (relay.rename ρ) streamId = openStream relay streamId := rfl
  have hstop : ∀ stream closeReason reason, quotaStop (options.rename ρ) (relay.rename ρ) stream closeReason reason =
      renamed ρ (quotaStop options relay stream closeReason reason) := by
    intro stream closeReason reason
    unfold quotaStop
    rw [closeStream_rename]
    rfl
  have hread : (relay.rename ρ).now = relay.now ∧ (relay.rename ρ).roomBytes = relay.roomBytes ∧
    (relay.rename ρ).monthlyHostBytes = relay.monthlyHostBytes ∧ (options.rename ρ).quotas = options.quotas :=
    ⟨rfl, rfl, rfl, rfl⟩
  obtain ⟨hnow, hroom, hmonthly, hquotas⟩ := hread
  unfold recordTransfer
  rw [hopen]
  cases openStream relay streamId with
  | none => rfl
  | some stream =>
    dsimp only
    unfold recordStreamTransfer
    rw [hnow, hroom, hmonthly, hquotas]
    dsimp only
    split_ifs
    · rfl
    · exact hstop _ _ _
    · exact hstop _ _ _
    · exact hstop _ _ _
    · exact hstop _ _ _
    · rfl
    · rfl

theorem relayEcho_rename (relay : Simulation) (streamId : Nat) (payload : Payload) :
    relayEcho (options.rename ρ) (relay.rename ρ) streamId payload = renamed ρ (relayEcho options relay streamId payload) := by
  have hopen : openStream (relay.rename ρ) streamId = openStream relay streamId := rfl
  unfold relayEcho
  rw [hopen]
  cases openStream relay streamId with
  | none => rfl
  | some stream =>
    dsimp only
    cases byteLength payload with
    | none => rfl
    | some bytes =>
      dsimp only
      rw [recordTransfer_rename]
      cases recordTransfer options relay streamId (some bytes) with
      | mk output relay' =>
        cases output with
        | transferred transferred warning =>
          have hget : (relay'.rename ρ).streams.get streamId = relay'.streams.get streamId := rfl
          dsimp only [renamed]
          rw [hget]
          cases relay'.streams.get streamId with
          | none => rfl
          | some stream => rfl
        | _ => rfl

theorem disconnectLoop_rename (stream : Stream) (boundedMaxAttempts failAttempts : JsNumber) (room : Nat) (attempt : Int)
    (attempts : List Attempt) (relay : Simulation) :
    disconnectLoop (options.rename ρ) stream boundedMaxAttempts failAttempts room attempt attempts (relay.rename ρ) =
      renamed ρ (disconnectLoop options stream boundedMaxAttempts failAttempts room attempt attempts relay) := by
  fun_induction disconnectLoop options stream boundedMaxAttempts failAttempts room attempt attempts relay with
  | case1 attempt attempts relay hbounded =>
    rw [disconnectLoop, if_pos hbounded]
    rfl
  | case2 attempt attempts relay hbounded room hfailed ih =>
    rw [disconnectLoop, if_pos hbounded, if_pos hfailed]
    exact ih
  | case3 attempt attempts relay hbounded room hfailed =>
    rw [disconnectLoop, if_pos hbounded, if_neg hfailed, closeStream_rename]
    rfl
  | case4 room attempt attempts relay hbounded =>
    rw [disconnectLoop.eq_def, if_neg hbounded]
    rfl

theorem disconnectStream_rename (relay : Simulation) (streamId : Nat) (maxAttempts failAttempts : Option JsNumber) :
    disconnectStream (options.rename ρ) (relay.rename ρ) streamId maxAttempts failAttempts =
      renamed ρ (disconnectStream options relay streamId maxAttempts failAttempts) := by
  have hget : (relay.rename ρ).streams.get streamId = relay.streams.get streamId := rfl
  unfold disconnectStream
  rw [hget]
  cases relay.streams.get streamId with
  | none => rfl
  | some stream => exact disconnectLoop_rename options ρ stream _ _ _ _ _ relay

/-- Other tokens in the options, the state and the operation lead to the same result and to a state with the other
tokens. -/
theorem step_rename (relay : Simulation) (operation : Operation) :
    step (options.rename ρ) (relay.rename ρ) (operation.rename ρ) = renamed ρ (step options relay operation) := by
  cases operation with
  | openHostTunnel request => exact openHostTunnel_rename options ρ relay request
  | closeHostTunnel request => exact closeHostTunnel_rename options ρ relay request
  | authorizeSession session =>
    exact congrArg (Prod.mk _) (storeSession_rename ρ relay { session with authorizedAt := some relay.now })
  | openFriendStream request answer => exact openFriendStream_rename options ρ relay request answer
  | resolveOpen open_ result => exact resolveOpen_rename ρ relay open_ result
  | completeOpen open_ => exact completeOpen_rename options ρ relay open_
  | recordTransfer streamId bytes => exact recordTransfer_rename options ρ relay streamId bytes
  | relayEcho streamId payload => exact relayEcho_rename options ρ relay streamId payload
  | disconnectStream streamId maxAttempts failAttempts =>
    exact disconnectStream_rename options ρ relay streamId maxAttempts failAttempts
  | advance ms => rfl

/-! ### Payloads -/

/-- The result of an operation, but for the payload that is echoed. -/
def Output.withoutPayload : Output → Output
  | .echoed hostFrame friendFrame stream =>
    .echoed { hostFrame with payload := .text "" } { friendFrame with payload := .text "" } stream
  | output => output

/-- Of a payload only its length is read. -/
theorem step_payload (relay : Simulation) (streamId : Nat) {payload payload' : Payload}
    (hlength : byteLength payload = byteLength payload') :
    (relayEcho options relay streamId payload).1.withoutPayload =
        (relayEcho options relay streamId payload').1.withoutPayload ∧
      (relayEcho options relay streamId payload).2.blank = (relayEcho options relay streamId payload').2.blank := by
  unfold relayEcho
  cases openStream relay streamId with
  | none => exact ⟨rfl, rfl⟩
  | some stream =>
    dsimp only
    rw [hlength]
    cases byteLength payload' with
    | none => exact ⟨rfl, rfl⟩
    | some bytes =>
      dsimp only
      cases recordTransfer options relay streamId (some bytes) with
      | mk output relay' =>
        cases output with
        | transferred transferred warning =>
          dsimp only
          cases relay'.streams.get streamId with
          | none => exact ⟨rfl, rfl⟩
          | some stream =>
            refine ⟨rfl, ?_⟩
            unfold Simulation.blank
            simp only [JsMap.mapValues_set]
            rfl
        | _ => exact ⟨rfl, rfl⟩

/-! ### Two runs -/

/-- The counts that `readMetrics` gives; the hours are those of the milliseconds that tunnels have been open. -/
structure MetricsReading where
  metrics : Metrics
  openHostTunnels : Nat
  openFriendStreams : Nat
  openMilliseconds : Int
  roomBytes : List (Option String × Nat)
  monthlyHostBytes : List (Option String × Nat)
  deriving DecidableEq, Repr

def openMilliseconds (relay : Simulation) : Int :=
  (relay.hostTunnels.values.map fun tunnel => max 0 (tunnel.closedAt.getD relay.now - tunnel.openedAt)).sum

def readMetrics (relay : Simulation) : MetricsReading :=
  { metrics := relay.metrics
    openHostTunnels := (relay.hostTunnels.values.filter fun tunnel => tunnel.state == .opened).length
    openFriendStreams := (relay.streams.values.filter fun stream => stream.state == .opened).length
    openMilliseconds := openMilliseconds relay
    roomBytes := relay.roomBytes.entries
    monthlyHostBytes := relay.monthlyHostBytes.entries }

/-- The events are redacted once more when they are read. -/
def readEventLog (relay : Simulation) : List Event :=
  relay.events.map fun event =>
    ⟨options.redactText event.type, event.occurredAt, redactRelayDiagnostics options.redactText event.metadata⟩

/-- Two operations that are the same but for their tokens, or for the contents of a payload. -/
inductive SameButSecrets : Operation → Operation → Prop
  | tokens (operation : Operation) : SameButSecrets operation (operation.rename ρ)
  | payload (streamId : Nat) {payload payload' : Payload} (length : byteLength payload = byteLength payload') :
      SameButSecrets (.relayEcho streamId payload) (.relayEcho streamId payload')

/-- Two relays that are the same but for their tokens and the frames in their inboxes. -/
def Alike (relay relay' : Simulation) : Prop := relay'.blank = relay.blank.rename ρ

theorem blanked_renamed (result : Output × Simulation) : blanked (renamed ρ result) = renamed ρ (blanked result) := rfl

theorem step_alike {relay relay' : Simulation} {operation operation' : Operation} (h : Alike ρ relay relay')
    (hoperations : SameButSecrets ρ operation operation') :
    (step options relay operation).1.withoutPayload =
        (step (options.rename ρ) relay' operation').1.withoutPayload ∧
      Alike ρ (step options relay operation).2 (step (options.rename ρ) relay' operation').2 := by
  have hrenamed : ∀ operation, blanked (step (options.rename ρ) relay' (operation.rename ρ)) =
      renamed ρ (blanked (step options relay operation)) := by
    intro operation
    calc blanked (step (options.rename ρ) relay' (operation.rename ρ))
        = blanked (step (options.rename ρ) relay'.blank (operation.rename ρ)) :=
          (step_blank _ relay' (operation.rename ρ)).symm
      _ = blanked (step (options.rename ρ) (relay.blank.rename ρ) (operation.rename ρ)) := by rw [h]
      _ = blanked (renamed ρ (step options relay.blank operation)) := by rw [step_rename]
      _ = renamed ρ (blanked (step options relay operation)) := by rw [blanked_renamed, step_blank]
  cases hoperations with
  | tokens =>
    have hboth := Prod.mk.inj (hrenamed operation)
    exact ⟨congrArg Output.withoutPayload hboth.1.symm, hboth.2⟩
  | payload streamId hlength =>
    rename_i payload payload'
    -- The renaming leaves an echo as it is, so that the payloads can be exchanged first.
    have hboth := Prod.mk.inj (hrenamed (.relayEcho streamId payload'))
    obtain ⟨houtput, hnext⟩ := step_payload options relay streamId hlength
    constructor
    · calc (relayEcho options relay streamId payload).1.withoutPayload
          = (relayEcho options relay streamId payload').1.withoutPayload := houtput
        _ = (relayEcho (options.rename ρ) relay' streamId payload').1.withoutPayload :=
          congrArg Output.withoutPayload hboth.1.symm
    · calc (relayEcho (options.rename ρ) relay' streamId payload').2.blank
          = (relayEcho options relay streamId payload').2.blank.rename ρ := hboth.2
        _ = (relayEcho options relay streamId payload).2.blank.rename ρ := by rw [hnext]

theorem readMetrics_blank (relay : Simulation) : readMetrics relay.blank = readMetrics relay := by
  have hvalues : relay.blank.streams.values = relay.streams.values.map Stream.blank := JsMap.values_mapValues _ _
  unfold readMetrics
  rw [hvalues, List.filter_map, List.length_map]
  rfl

theorem Alike.readMetrics {relay relay' : Simulation} (h : Alike ρ relay relay') :
    readMetrics relay = readMetrics relay' := by
  have hrename : Relay.readMetrics (relay.blank.rename ρ) = Relay.readMetrics relay.blank := rfl
  rw [← readMetrics_blank relay, ← readMetrics_blank relay', h, hrename]

theorem Alike.events {relay relay' : Simulation} (h : Alike ρ relay relay') : relay.events = relay'.events :=
  (congrArg Simulation.events h).symm

/-- Runs that are the same but for their tokens, by an injective renaming that keeps the empty one, and for the contents
of payloads of the same length give the same results, the same events and the same metrics; only the payloads that are
echoed differ. -/
theorem runs_alike (now : Int) {operations operations' : List Operation}
    (h : List.Forall₂ (SameButSecrets ρ) operations operations') :
    let relay := run options now operations
    let relay' := run (options.rename ρ) now operations'
    (Machine.trace (step options) (createRelaySimulation now) operations).map
        (fun fired => fired.output.withoutPayload) =
      (Machine.trace (step (options.rename ρ)) (createRelaySimulation now) operations').map
        (fun fired => fired.output.withoutPayload) ∧
      readEventLog options relay = readEventLog (options.rename ρ) relay' ∧ readMetrics relay = readMetrics relay' := by
  have hstart : Alike ρ (createRelaySimulation now) (createRelaySimulation now) := rfl
  obtain ⟨houtputs, hrun⟩ : List.Forall₂ (fun output output' : Output => output.withoutPayload = output'.withoutPayload)
        ((Machine.trace (step options) (createRelaySimulation now) operations).map Machine.Fired.output)
        ((Machine.trace (step (options.rename ρ)) (createRelaySimulation now) operations').map Machine.Fired.output) ∧
      Alike ρ (run options now operations) (run (options.rename ρ) now operations') :=
    Machine.related_runs (R := Alike ρ) (fun _ _ _ _ halike hsame => step_alike options ρ halike hsame) hstart h
  refine ⟨?_, ?_, hrun.readMetrics⟩
  · rw [List.forall₂_map_left_iff, List.forall₂_map_right_iff] at houtputs
    have hall : List.Forall₂ (· = ·)
        ((Machine.trace (step options) (createRelaySimulation now) operations).map
          fun fired => fired.output.withoutPayload)
        ((Machine.trace (step (options.rename ρ)) (createRelaySimulation now) operations').map
          fun fired => fired.output.withoutPayload) := by
      rw [List.forall₂_map_left_iff, List.forall₂_map_right_iff]
      exact houtputs
    rwa [List.forall₂_eq_eq_eq] at hall
  · unfold readEventLog
    rw [hrun.events]
    rfl

/-- Every token is written backwards. -/
def reversedTokens : TokenRenaming :=
  have hinjective : Function.Injective fun token : String => String.ofList token.toList.reverse := by
    intro token token' h
    have hlist := String.ofList_injective h
    exact String.toList_inj.1 (List.reverse_injective hlist)
  have hempty : ∀ token : String, String.ofList token.toList.reverse = "" ↔ token = "" := by
    intro token
    rw [← String.toList_inj, String.toList_ofList]
    simp
  ⟨_, _, hinjective, hinjective, hempty, hempty⟩

def secrecyOptions : Options :=
  ⟨false, .ofEntries [("room:host", "host-token")], defaultQuotas, id⟩

/-- A friend joins a room and a payload is echoed. -/
def secrecyOperations (payload : String) : List Operation :=
  [.openHostTunnel ⟨some "host", some "room", some ⟨some "minecraft", some "127.0.0.1", some 25565⟩, some "host-token"⟩,
    .authorizeSession ⟨some "session", some "session-token", some "room", none, none, some "friend", some "uuid", true,
      some 0, some 1000, none, none⟩,
    .openFriendStream ⟨some "session", some "session-token", some "room", none, some "friend", some "uuid", none⟩ .later,
    .relayEcho 1 (.text payload)]

theorem runs_alike_sample : ∃ operations', List.Forall₂ (SameButSecrets reversedTokens) (secrecyOperations "hello") operations' ∧
    readMetrics (run secrecyOptions 0 (secrecyOperations "hello")) =
      readMetrics (run (secrecyOptions.rename reversedTokens) 0 operations') := by
  have hall : List.Forall₂ (SameButSecrets reversedTokens) (secrecyOperations "hello")
      ((secrecyOperations "world").map (Operation.rename reversedTokens)) :=
    .cons (.tokens _) (.cons (.tokens _) (.cons (.tokens _) (.cons (.payload 1 rfl) .nil)))
  exact ⟨_, hall, (runs_alike secrecyOptions reversedTokens 0 hall).2.2⟩

end EasyMc.Relay
