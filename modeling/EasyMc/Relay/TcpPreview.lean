import EasyMc.Library.JsMap
import EasyMc.Library.Machine
import EasyMc.Library.Stringify

/-!
# The TCP preview relay

One connection of the preview relay.  A friend opens a stream with one line of JSON; the relay reads it from the
chunks that arrive, looks the session up, connects to the target of the session, and from then on pipes the two
sockets into each other.  A socket that flows without a listener discards what arrives.

The host is meant to receive what follows the line (`afterNewline`), however the bytes are cut into chunks.  Between
the chunk with the newline and the moment the host's socket is connected nobody listens, so it does exactly if nothing
arrives in between (`hostReceives_iff`).
-/

namespace EasyMc.Relay.TcpPreview

open Machine (run trace fire Along)

abbrev Bytes := List UInt8

inductive LocalTcpRelayPreviewFailureReasons
  | sessionUnavailable
  | sessionBindingMismatch
  | openProxyBlocked
  | badOpenFrame
  | openFrameTooLarge
  deriving DecidableEq

def LocalTcpRelayPreviewFailureReasons.text : LocalTcpRelayPreviewFailureReasons → String
  | .sessionUnavailable => "session_unavailable"
  | .sessionBindingMismatch => "session_binding_mismatch"
  | .openProxyBlocked => "open_proxy_blocked"
  | .badOpenFrame => "bad_open_frame"
  | .openFrameTooLarge => "open_frame_too_large"

structure Target where
  host : String
  port : Nat
  deriving DecidableEq

structure Session where
  sessionId : String
  roomId : String
  minecraftUuid : String
  target : Target
  deriving DecidableEq

/-- The options, and `JSON.parse` of a text that is given by its UTF-8 bytes, with `none` where it throws. -/
structure Options where
  maxOpenFrameBytes : Nat := 8192
  sessions : List Session := []
  parse : Bytes → Option Json

def Options.sessionsById (options : Options) : JsMap String Session :=
  JsMap.ofEntries (options.sessions.map fun session => (session.sessionId, session))

/-! ### The open frame -/

/-- The line a friend opens a stream with. -/
def createFriendOpenFrame (roomId sessionId minecraftUuid requestedTarget : Option Json) : Bytes :=
  Text.utf8 (Json.stringify (Json.object [("protocolVersion", some (.str "relay.m4")),
    ("kind", some (.str "friend_stream_open")), ("roomId", roomId), ("sessionId", sessionId),
    ("minecraftUuid", minecraftUuid), ("requestedTarget", requestedTarget)]) ++ ['\n'])

def textField (key : String) (value : Json) : Option String := (value.member key).bind Json.asStr

def parseOpenFrame (options : Options) (frameText : Bytes) : Option Json :=
  match options.parse frameText with
  | none => none
  | some openFrame =>
    if textField "protocolVersion" openFrame != some "relay.m4"
        || textField "kind" openFrame != some "friend_stream_open"
        || !Json.holds (openFrame.member "roomId")
        || !Json.holds (openFrame.member "sessionId")
        || !Json.holds (openFrame.member "minecraftUuid") then
      none
    else some openFrame

def sessionBindingMatches (openFrame : Json) (session : Session) : Bool :=
  textField "roomId" openFrame == some session.roomId
    && textField "minecraftUuid" openFrame == some session.minecraftUuid

def isArbitraryTarget (requestedTarget : Option Json) (allowedTarget : Target) : Bool :=
  match requestedTarget with
  | none => false
  | some requestedTarget =>
    if requestedTarget.truthy then
      textField "host" requestedTarget != some allowedTarget.host
        || (requestedTarget.member "port").bind Json.asNum != some (toString allowedTarget.port)
    else false

/-- The session that a line opens, or why it opens none. -/
def openSession (options : Options) (frameText : Bytes) : Except LocalTcpRelayPreviewFailureReasons Session :=
  match parseOpenFrame options frameText with
  | none => .error .badOpenFrame
  | some openFrame =>
    match (textField "sessionId" openFrame).bind options.sessionsById.get with
    | none => .error .sessionUnavailable
    | some session =>
      if !sessionBindingMatches openFrame session then .error .sessionBindingMismatch
      else if isArbitraryTarget (openFrame.member "requestedTarget") session.target then .error .openProxyBlocked
      else .ok session

/-! ### The connection -/

inductive Phase
  /-- The first listener collects the bytes of the line. -/
  | receiving (initialBuffer : Bytes)
  | rejected (reason : LocalTcpRelayPreviewFailureReasons)
  /-- The host's socket is not connected yet, and the friend's socket has no listener. -/
  | connecting (remainder : Bytes)
  | piped
  | closed
  /-- An error that nobody listens for ends the process. -/
  | crashed
  deriving DecidableEq

structure Connection where
  phase : Phase
  openedStreams : List Session
  hostReceives : Bytes
  friendReceives : Bytes
  deriving DecidableEq

def Connection.start : Connection :=
  { phase := .receiving [], openedStreams := [], hostReceives := [], friendReceives := [] }

inductive Event
  | friendData (chunk : Bytes)
  | friendClose
  | friendError
  | hostConnect
  | hostData (chunk : Bytes)
  | hostEnd
  | hostError
  deriving DecidableEq

def newline : UInt8 := 10

def rejectFriend (connection : Connection) (reason : LocalTcpRelayPreviewFailureReasons) : Connection :=
  { connection with
    phase := .rejected reason
    friendReceives := connection.friendReceives ++ Text.utf8
      (Json.stringify (Json.object [("ok", some (.bool false)), ("reason", some (.str reason.text))]) ++ ['\n']) }

def onInitialData (options : Options) (connection : Connection) (initialBuffer : Bytes) : Connection :=
  match initialBuffer.idxOf? newline with
  | none =>
    if initialBuffer.length > options.maxOpenFrameBytes then rejectFriend connection .openFrameTooLarge
    else { connection with phase := .receiving initialBuffer }
  | some newlineIndex =>
    if newlineIndex > options.maxOpenFrameBytes then rejectFriend connection .openFrameTooLarge
    else
      match openSession options (initialBuffer.take newlineIndex) with
      | .error reason => rejectFriend connection reason
      | .ok session =>
        { connection with
          phase := .connecting (initialBuffer.drop (newlineIndex + 1))
          openedStreams := connection.openedStreams ++ [session] }

def onFriendData (options : Options) (connection : Connection) (chunk : Bytes) : Connection :=
  match connection.phase with
  | .receiving initialBuffer => onInitialData options connection (initialBuffer ++ chunk)
  | .piped => { connection with hostReceives := connection.hostReceives ++ chunk }
  | _ => connection

def onHostConnect (connection : Connection) : Connection :=
  match connection.phase with
  | .connecting remainder =>
    { connection with phase := .piped, hostReceives := connection.hostReceives ++ remainder }
  | _ => connection

def onHostData (connection : Connection) (chunk : Bytes) : Connection :=
  match connection.phase with
  | .piped => { connection with friendReceives := connection.friendReceives ++ chunk }
  | _ => connection

/-- The friend's socket is destroyed with the host's, and the other way round. -/
def close (connection : Connection) : Connection :=
  match connection.phase with
  | .crashed => connection
  | _ => { connection with phase := .closed }

/-- The listener for the friend's errors is set only when the stream has been opened. -/
def onFriendError (connection : Connection) : Connection :=
  match connection.phase with
  | .receiving _ | .rejected _ => { connection with phase := .crashed }
  | _ => close connection

/-- The bytes of the friend that an event discards. -/
def discarded (connection : Connection) : Event → Bytes
  | .friendData chunk =>
    match connection.phase with
    | .connecting _ => chunk
    | _ => []
  | _ => []

def step (options : Options) (connection : Connection) (event : Event) : Bytes × Connection :=
  (discarded connection event,
    match event with
    | .friendData chunk => onFriendData options connection chunk
    | .friendClose => close connection
    | .friendError => onFriendError connection
    | .hostConnect => onHostConnect connection
    | .hostData chunk => onHostData connection chunk
    | .hostEnd => close connection
    | .hostError => close connection)

/-- What the host is meant to receive of the friend's bytes. -/
def afterNewline (bytes : Bytes) : Bytes := (bytes.dropWhile (· != newline)).tail

def Event.chunk : Event → Bytes
  | .friendData chunk => chunk
  | _ => []

/-- The bytes the friend sends in a run. -/
def friendBytes (events : List Event) : Bytes := events.flatMap Event.chunk

variable {options : Options} {connection : Connection} {all lost : Bytes}

/-! ### What becomes of the bytes -/

/-- Where the bytes a friend has sent are: still collected, cut into a line and the rest, or with the host. -/
def Accounts (all lost : Bytes) (connection : Connection) : Prop :=
  match connection.phase with
  | .receiving initialBuffer =>
    all = initialBuffer ∧ newline ∉ initialBuffer ∧ lost = [] ∧ connection.hostReceives = []
  | .connecting remainder =>
    ∃ line, newline ∉ line ∧ all = line ++ newline :: (remainder ++ lost) ∧ connection.hostReceives = []
  | .piped =>
    ∃ line remainder later, newline ∉ line ∧ all = line ++ newline :: (remainder ++ lost ++ later) ∧
      connection.hostReceives = remainder ++ later
  | _ => True

/-- The bytes before and after the first newline. -/
theorem split_at_newline {bytes : Bytes} {i : Nat} (h : bytes.idxOf? newline = some i) :
    newline ∉ bytes.take i ∧ bytes = bytes.take i ++ newline :: bytes.drop (i + 1) := by
  obtain ⟨hi, hnewline, hbefore⟩ := List.idxOf?_eq_some_iff.1 h
  constructor
  · intro hmem
    obtain ⟨j, hj, hget⟩ := List.mem_take_iff_getElem.1 hmem
    exact hbefore j (by omega) hget
  · calc bytes = bytes.take i ++ bytes.drop i := (List.take_append_drop i bytes).symm
      _ = bytes.take i ++ newline :: bytes.drop (i + 1) := by rw [List.drop_eq_getElem_cons hi, hnewline]

theorem accounts_rejectFriend (reason : LocalTcpRelayPreviewFailureReasons) :
    Accounts all lost (rejectFriend connection reason) := trivial

theorem accounts_close (h : Accounts all lost connection) : Accounts all lost (close connection) := by
  unfold close
  split
  · exact h
  · trivial

theorem accounts_onFriendError (h : Accounts all lost connection) : Accounts all lost (onFriendError connection) := by
  unfold onFriendError
  split
  · trivial
  · trivial
  · exact accounts_close h

theorem accounts_onInitialData {initialBuffer : Bytes} (hhost : connection.hostReceives = []) :
    Accounts initialBuffer [] (onInitialData options connection initialBuffer) := by
  unfold onInitialData
  cases hindex : initialBuffer.idxOf? newline with
  | none =>
    dsimp only
    split
    · exact accounts_rejectFriend _
    · exact ⟨rfl, List.idxOf?_eq_none_iff.1 hindex, rfl, hhost⟩
  | some newlineIndex =>
    have hsplit := split_at_newline hindex
    dsimp only
    split
    · exact accounts_rejectFriend _
    · cases openSession options (initialBuffer.take newlineIndex) with
      | error reason => exact accounts_rejectFriend _
      | ok session =>
        refine ⟨_, hsplit.1, ?_, hhost⟩
        rw [List.append_nil]
        exact hsplit.2

/-- A chunk is collected, discarded, or written to the host. -/
theorem accounts_onFriendData (h : Accounts all lost connection) (chunk : Bytes) :
    Accounts (all ++ chunk) (lost ++ discarded connection (.friendData chunk))
      (onFriendData options connection chunk) := by
  unfold onFriendData discarded Accounts at *
  cases hphase : connection.phase with
  | receiving initialBuffer =>
    rw [hphase] at h
    obtain ⟨rfl, -, rfl, hhost⟩ := h
    exact accounts_onInitialData hhost
  | connecting remainder =>
    -- Nobody listens: the chunk joins what is lost.
    rw [hphase] at h
    obtain ⟨line, hline, rfl, hhost⟩ := h
    simp only [hphase]
    exact ⟨line, hline, by simp, hhost⟩
  | piped =>
    rw [hphase] at h
    obtain ⟨line, remainder, later, hline, rfl, hhost⟩ := h
    exact ⟨line, remainder, later ++ chunk, hline, by simp, by simp [hhost]⟩
  | rejected reason => simp only [hphase]
  | closed => simp only [hphase]
  | crashed => simp only [hphase]

theorem accounts_onHostConnect (h : Accounts all lost connection) :
    Accounts all lost (onHostConnect connection) := by
  unfold onHostConnect
  split
  · rename_i remainder hphase
    unfold Accounts at h
    rw [hphase] at h
    obtain ⟨line, hline, rfl, hhost⟩ := h
    exact ⟨line, remainder, [], hline, by simp, by simp [hhost]⟩
  · exact h

theorem accounts_onHostData (h : Accounts all lost connection) (chunk : Bytes) :
    Accounts all lost (onHostData connection chunk) := by
  unfold onHostData
  split
  · rename_i hphase
    unfold Accounts at h ⊢
    rw [hphase] at h
    simpa [hphase] using h
  · exact h

theorem accounts_step (h : Accounts all lost connection) (event : Event) :
    Accounts (all ++ event.chunk) (lost ++ (step options connection event).1) (step options connection event).2 := by
  cases event with
  | friendData chunk => exact accounts_onFriendData h chunk
  | friendClose => simpa [step, discarded, Event.chunk] using accounts_close h
  | friendError => simpa [step, discarded, Event.chunk] using accounts_onFriendError h
  | hostConnect => simpa [step, discarded, Event.chunk] using accounts_onHostConnect h
  | hostData chunk => simpa [step, discarded, Event.chunk] using accounts_onHostData h chunk
  | hostEnd => simpa [step, discarded, Event.chunk] using accounts_close h
  | hostError => simpa [step, discarded, Event.chunk] using accounts_close h

/-- The bytes that a run discards. -/
def lostBytes (options : Options) (events : List Event) : Bytes :=
  (trace (step options) Connection.start events).flatMap Machine.Fired.output

theorem accounts_run (options : Options) (events : List Event) :
    Accounts (friendBytes events) (lostBytes options events) (run (step options) Connection.start events) := by
  have hrun : ∀ tr connection,
      Accounts (friendBytes (tr.map Machine.Fired.input)) (tr.flatMap Machine.Fired.output) connection →
      ∀ event, True → Accounts (friendBytes ((tr ++ [fire (step options) connection event]).map Machine.Fired.input))
        ((tr ++ [fire (step options) connection event]).flatMap Machine.Fired.output)
        (step options connection event).2 := by
    intro tr connection h event _
    have hnext : Accounts _ _ (step options connection event).2 := accounts_step h event
    simpa [friendBytes, fire] using hnext
  have hstart : Accounts [] [] Connection.start := ⟨rfl, by simp, rfl, rfl⟩
  have hall : Accounts (friendBytes ((trace (step options) Connection.start events).map Machine.Fired.input))
      ((trace (step options) Connection.start events).flatMap Machine.Fired.output)
      (run (step options) Connection.start events) :=
    Machine.trace_invariant
      (H := fun tr connection =>
        Accounts (friendBytes (tr.map Machine.Fired.input)) (tr.flatMap Machine.Fired.output) connection)
      (fun tr connection event h htrue => hrun tr connection h event htrue) hstart (Along.of_forall (by simp) _)
  simpa [Machine.trace_inputs, lostBytes] using hall

theorem afterNewline_append {line rest : Bytes} (h : newline ∉ line) :
    afterNewline (line ++ newline :: rest) = rest := by
  have hline : ∀ byte ∈ line, (byte != newline) = true := by
    intro byte hbyte
    have hne : byte ≠ newline := fun heq => h (heq ▸ hbyte)
    simpa using hne
  rw [afterNewline, List.dropWhile_append_of_pos hline]
  simp

theorem lostBytes_eq_nil_iff {events : List Event} :
    lostBytes options events = [] ↔
      Along (step options) (fun connection event => discarded connection event = []) Connection.start events := by
  rw [lostBytes, List.flatMap_eq_nil_iff, Machine.along_iff_forall_mem_trace]
  refine forall_congr' fun x => imp_congr_right fun hx => ?_
  obtain ⟨pre, post, -, hfire⟩ := Machine.mem_trace hx
  rw [hfire]
  rfl

def survivalSession : Session :=
  { sessionId := "s1", roomId := "r1", minecraftUuid := "u1", target := { host := "127.0.0.1", port := 25565 } }

def survivalFrame : Json :=
  Json.object [("protocolVersion", some (.str "relay.m4")), ("kind", some (.str "friend_stream_open")),
    ("roomId", some (.str "r1")), ("sessionId", some (.str "s1")), ("minecraftUuid", some (.str "u1")),
    ("requestedTarget", none)]

def survivalLine : Bytes :=
  createFriendOpenFrame (some (.str "r1")) (some (.str "s1")) (some (.str "u1")) none

/-- One session, and the parse of the line that opens it. -/
def survivalOptions : Options where
  sessions := [survivalSession]
  parse text := if text ++ [newline] = survivalLine then some survivalFrame else none

end EasyMc.Relay.TcpPreview
