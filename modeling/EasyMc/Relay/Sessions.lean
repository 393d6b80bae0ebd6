import EasyMc.Relay.Traffic

/-!
# What the operations do to the sessions

Session objects are stored under their ids, replaced by the answers of a session service, and marked as consumed when
they open a stream.  The stored object of a session decides whether the session can still be used (`consumption`).
An answer of the service replaces the object and keeps the mark; an open marks the object that it holds, which need
not be the stored one by then.
-/

namespace EasyMc.Relay

variable {options : Options} {relay : Simulation}

/-! ### Operations without sessions -/

/-- The session objects, which of them are stored, and the opens that wait. -/
structure SessionState where
  objects : List Session
  sessions : JsMap (Option String) Nat
  pending : List PendingOpen

def Simulation.sessionState (relay : Simulation) : SessionState :=
  { objects := relay.objects, sessions := relay.sessions, pending := relay.pending }

theorem closeStream_sessionState (stream : Stream) (reason : String) :
    (closeStream options relay stream reason).sessionState = relay.sessionState := by
  unfold closeStream
  split <;> rfl

theorem closeTunnelStreams_sessionState (tunnelId : Nat) (reason : String) (streams : List Stream)
    (closedStreams : Nat) :
    (closeTunnelStreams options tunnelId reason streams (relay, closedStreams)).1.sessionState =
      relay.sessionState := by
  induction streams generalizing relay closedStreams with
  | nil => rfl
  | cons stream streams ih =>
    unfold closeTunnelStreams
    split
    · exact (ih _).trans (closeStream_sessionState stream reason)
    · exact ih closedStreams

theorem closeHostTunnel_sessionState (request : CloseTunnelRequest) :
    (closeHostTunnel options relay request).2.sessionState = relay.sessionState := by
  unfold closeHostTunnel
  split
  · rfl
  · split
    · rfl
    · split
      · rfl
      · exact closeTunnelStreams_sessionState _ _ _ _

theorem closeReplacedTunnel_sessionState (request : OpenTunnelRequest) :
    (closeReplacedTunnel options relay request).sessionState = relay.sessionState := by
  unfold closeReplacedTunnel
  split
  · rfl
  · split
    · exact closeHostTunnel_sessionState _
    · rfl

theorem openHostTunnel_sessionState (request : OpenTunnelRequest) :
    (openHostTunnel options relay request).2.sessionState = relay.sessionState := by
  unfold openHostTunnel
  split
  · rfl
  · split
    · rfl
    · split
      · rfl
      · split
        · rfl
        · exact closeReplacedTunnel_sessionState request

theorem quotaStop_sessionState (stream : Stream) (closeReason : String) (reason : RelayFailureReason) :
    (quotaStop options relay stream closeReason reason).2.sessionState = relay.sessionState :=
  closeStream_sessionState stream closeReason

theorem recordStreamTransfer_sessionState (stream : Stream) (bytes : Option Int) :
    (recordStreamTransfer options relay stream bytes).2.sessionState = relay.sessionState := by
  unfold recordStreamTransfer
  split_ifs
  · rfl
  · exact quotaStop_sessionState _ _ _
  · exact quotaStop_sessionState _ _ _
  · dsimp only
    split
    · exact quotaStop_sessionState _ _ _
    · split
      · exact quotaStop_sessionState _ _ _
      · rfl

theorem recordTransfer_sessionState (streamId : Nat) (bytes : Option Int) :
    (recordTransfer options relay streamId bytes).2.sessionState = relay.sessionState := by
  unfold recordTransfer
  split
  · rfl
  · exact recordStreamTransfer_sessionState _ _

theorem relayEcho_sessionState (streamId : Nat) (payload : Payload) :
    (relayEcho options relay streamId payload).2.sessionState = relay.sessionState := by
  unfold relayEcho
  split
  · rfl
  · split
    · rfl
    · rename_i bytes _
      have htransfer : (recordTransfer options relay streamId (some (bytes : Int))).2.sessionState =
          relay.sessionState := recordTransfer_sessionState _ _
      split
      · rename_i relay' hout
        rw [hout] at htransfer
        split <;> exact htransfer
      · exact htransfer

theorem disconnectLoop_sessionState (stream : Stream) (bounded failAttempts : JsNumber) (room : Nat) (attempt : Int)
    (attempts : List Attempt) :
    (disconnectLoop options stream bounded failAttempts room attempt attempts relay).2.sessionState =
      relay.sessionState := by
  fun_induction disconnectLoop options stream bounded failAttempts room attempt attempts relay with
  | case1 | case4 => rfl
  | case2 attempt attempts relay hbounded room hfailed ih => exact ih
  | case3 => exact closeStream_sessionState stream _

theorem disconnectStream_sessionState (streamId : Nat) (maxAttempts failAttempts : Option JsNumber) :
    (disconnectStream options relay streamId maxAttempts failAttempts).2.sessionState = relay.sessionState := by
  unfold disconnectStream
  split
  · rfl
  · exact disconnectLoop_sessionState _ _ _ _ _ _

/-- The operations that read or write sessions. -/
def Operation.usesSessions : Operation → Bool
  | .authorizeSession _ | .openFriendStream _ _ | .resolveOpen _ _ | .completeOpen _ => true
  | _ => false

theorem step_sessionState {operation : Operation} (h : operation.usesSessions = false) :
    (step options relay operation).2.sessionState = relay.sessionState := by
  cases operation with
  | openHostTunnel request => exact openHostTunnel_sessionState request
  | closeHostTunnel request => exact closeHostTunnel_sessionState request
  | recordTransfer streamId bytes => exact recordTransfer_sessionState streamId bytes
  | relayEcho streamId payload => exact relayEcho_sessionState streamId payload
  | disconnectStream streamId maxAttempts failAttempts => exact disconnectStream_sessionState _ _ _
  | advance ms => rfl
  | authorizeSession | openFriendStream | resolveOpen | completeOpen => cases h

/-! ### Stored sessions -/

/-- A stored session object exists and has the id it is stored under. -/
def SessionsKeyed (state : SessionState) : Prop :=
  ∀ sessionId object, state.sessions.get sessionId = some object →
    ∃ session, state.objects[object]? = some session ∧ session.sessionId = sessionId

theorem SessionsKeyed.store (h : SessionsKeyed relay.sessionState) (session : Session) :
    SessionsKeyed (storeSession relay session).sessionState := by
  intro sessionId object hget
  change (relay.sessions.set session.sessionId relay.objects.length).get sessionId = some object at hget
  show ∃ s, (relay.objects ++ [session])[object]? = some s ∧ s.sessionId = sessionId
  rcases JsMap.get_set_cases hget with ⟨hid, rfl⟩ | ⟨-, hget⟩
  · exact ⟨session, List.getElem?_concat_length, hid⟩
  · obtain ⟨s, hs, hsid⟩ := h sessionId object hget
    have hlt : object < relay.objects.length := (List.getElem?_eq_some_iff.1 hs).1
    exact ⟨s, (List.getElem?_append_left hlt).trans hs, hsid⟩

theorem SessionsKeyed.consume (h : SessionsKeyed relay.sessionState) {object : Nat} {session : Session}
    (hstored : relay.objects[object]? = some session) (consumedAt : Int) :
    SessionsKeyed { relay.sessionState with
      objects := relay.objects.set object { session with consumedAt := some consumedAt } } := by
  intro sessionId object' hget
  obtain ⟨s, hs, hsid⟩ := h sessionId object' hget
  by_cases hobject : object = object'
  · subst hobject
    obtain rfl := Option.some.inj (hstored.symm.trans hs)
    exact ⟨_, List.getElem?_set_self (List.getElem?_eq_some_iff.1 hs).1, hsid⟩
  · exact ⟨s, (List.getElem?_set_ne hobject).trans hs, hsid⟩

theorem normalizeServiceSessionResult_keyed (h : SessionsKeyed relay.sessionState) (result : ServiceResult) :
    SessionsKeyed (normalizeServiceSessionResult relay result).2.sessionState := by
  rcases result with session | (_ | reason) | _
  · exact h.store _
  · exact h
  · exact h
  · exact h

theorem readSessionForRequest_keyed (h : SessionsKeyed relay.sessionState) (request : OpenRequest)
    (answer : ServiceAnswer) : SessionsKeyed (readSessionForRequest options relay request answer).2.sessionState := by
  unfold readSessionForRequest
  split
  · split
    · exact h
    · exact h
    · exact normalizeServiceSessionResult_keyed h _
  · split <;> exact h

theorem openFriendStreamWithSession_keyed (h : SessionsKeyed relay.sessionState) (request : OpenRequest)
    (sessionResult : SessionResult) :
    SessionsKeyed (openFriendStreamWithSession options relay request sessionResult).2.sessionState := by
  have hends := openFriendStreamWithSession_ends options relay request sessionResult
  generalize openFriendStreamWithSession options relay request sessionResult = result at hends ⊢
  cases hends with
  | failed reason => exact h
  | opened object session tunnel held stored admitted => exact h.consume stored relay.now

/-- Sessions stay under their ids in every run. -/
theorem step_keyed (h : SessionsKeyed relay.sessionState) (operation : Operation) :
    SessionsKeyed (step options relay operation).2.sessionState := by
  cases operation with
  | authorizeSession session => exact h.store _
  | openFriendStream request answer =>
    have hread : SessionsKeyed (readSessionForRequest options relay request answer).2.sessionState :=
      readSessionForRequest_keyed h request answer
    show SessionsKeyed (openFriendStream options relay request answer).2.sessionState
    unfold openFriendStream
    rcases hreading : readSessionForRequest options relay request answer with ⟨reading, relay'⟩
    rw [hreading] at hread
    cases reading with
    | waiting => exact hread
    | threw => exact hread
    | ready sessionResult => exact openFriendStreamWithSession_keyed hread request sessionResult
  | resolveOpen open_ result =>
    show SessionsKeyed (resolveOpen relay open_ result).2.sessionState
    unfold resolveOpen
    split
    · exact normalizeServiceSessionResult_keyed h result
    · exact h
  | completeOpen open_ =>
    show SessionsKeyed (completeOpen options relay open_).2.sessionState
    unfold completeOpen
    split
    · rename_i request sessionResult _
      have hended : SessionsKeyed { relay with pending := relay.pending.set open_ .ended }.sessionState := h
      exact openFriendStreamWithSession_keyed hended request sessionResult
    · exact h
  | openHostTunnel | closeHostTunnel | recordTransfer | relayEcho | disconnectStream | advance =>
    rw [step_sessionState rfl]
    exact h

/-! ### Consumption -/

/-- When a session was used, as far as its stored object tells. -/
def consumption (relay : Simulation) (sessionId : Option String) : Option Int :=
  (storedSession relay sessionId).bind Session.consumedAt

theorem consumption_congr {relay' : Simulation} (h : relay'.sessionState = relay.sessionState)
    (sessionId : Option String) : consumption relay' sessionId = consumption relay sessionId :=
  congrArg (fun state : SessionState =>
    ((state.sessions.get sessionId).bind fun object => state.objects[object]?).bind Session.consumedAt) h

theorem consumption_store (h : SessionsKeyed relay.sessionState) (session : Session) (sessionId : Option String) :
    consumption (storeSession relay session) sessionId =
      if session.sessionId = sessionId then session.consumedAt else consumption relay sessionId := by
  unfold consumption storedSession storeSession
  dsimp only
  rw [JsMap.get_set]
  by_cases hid : session.sessionId = sessionId
  · simp [hid]
  · rw [if_neg hid, if_neg hid]
    cases hget : relay.sessions.get sessionId with
    | none => rfl
    | some object =>
      obtain ⟨s, hs, -⟩ := h sessionId object hget
      have hlt : object < relay.objects.length := (List.getElem?_eq_some_iff.1 hs).1
      simp only [Option.bind_some, List.getElem?_append_left hlt]

/-- An answer of the service leaves every session as used as it was. -/
theorem normalizeServiceSessionResult_consumption (h : SessionsKeyed relay.sessionState) (result : ServiceResult)
    (sessionId : Option String) :
    consumption (normalizeServiceSessionResult relay result).2 sessionId = consumption relay sessionId := by
  rcases result with session | (_ | reason) | _
  · show consumption (storeSession relay _) sessionId = _
    rw [consumption_store h]
    split
    · rename_i hid
      subst hid
      rfl
    · rfl
  · rfl
  · rfl
  · rfl

theorem readSessionForRequest_consumption (options : Options) (h : SessionsKeyed relay.sessionState)
    (request : OpenRequest) (answer : ServiceAnswer) (sessionId : Option String) :
    consumption (readSessionForRequest options relay request answer).2 sessionId = consumption relay sessionId := by
  unfold readSessionForRequest
  split
  · split
    · rfl
    · rfl
    · exact normalizeServiceSessionResult_consumption h _ sessionId
  · split <;> rfl

/-- An open marks the object that it holds. -/
theorem admitStream_consumption {object : Nat} {session : Session} (hstored : relay.objects[object]? = some session)
    (request : OpenRequest) (tunnel : HostTunnel) (sessionId : Option String) :
    consumption (admitStream options relay request object session tunnel).2 sessionId =
      if relay.sessions.get sessionId = some object then some relay.now else consumption relay sessionId := by
  show (((relay.sessions.get sessionId).bind fun o =>
    (relay.objects.set object { session with consumedAt := some relay.now })[o]?).bind Session.consumedAt) = _
  unfold consumption storedSession
  cases hget : relay.sessions.get sessionId with
  | none => simp
  | some o =>
    have hlt : object < relay.objects.length := (List.getElem?_eq_some_iff.1 hstored).1
    by_cases ho : object = o
    · subst ho
      simp [List.getElem?_set_self hlt]
    · simp [List.getElem?_set_ne ho, Ne.symm ho]

/-- A used session stays used when a stream is opened or refused. -/
theorem openFriendStreamWithSession_consumed (request : OpenRequest) (sessionResult : SessionResult)
    {sessionId : Option String} (h : (consumption relay sessionId).isSome = true) :
    (consumption (openFriendStreamWithSession options relay request sessionResult).2 sessionId).isSome = true := by
  have hends := openFriendStreamWithSession_ends options relay request sessionResult
  generalize openFriendStreamWithSession options relay request sessionResult = result at hends ⊢
  cases hends with
  | failed reason => exact h
  | opened object session tunnel held stored admitted =>
    rw [admitStream_consumption stored]
    split
    · rfl
    · exact h

/-- A used session stays used, whatever is done, unless it is authorized again. -/
theorem step_consumed (hkeyed : SessionsKeyed relay.sessionState) {operation : Operation} {sessionId : Option String}
    (hfresh : ∀ session, operation = .authorizeSession session → session.sessionId ≠ sessionId)
    (h : (consumption relay sessionId).isSome = true) :
    (consumption (step options relay operation).2 sessionId).isSome = true := by
  cases operation with
  | authorizeSession session =>
    show (consumption (storeSession relay _) sessionId).isSome = true
    rw [consumption_store hkeyed, if_neg (hfresh session rfl)]
    exact h
  | openFriendStream request answer =>
    have hread := readSessionForRequest_consumption options hkeyed request answer sessionId
    show (consumption (openFriendStream options relay request answer).2 sessionId).isSome = true
    unfold openFriendStream
    rcases hreading : readSessionForRequest options relay request answer with ⟨reading, relay'⟩
    rw [hreading] at hread
    have h' : (consumption relay' sessionId).isSome = true := (congrArg Option.isSome hread).trans h
    cases reading with
    | waiting => exact h'
    | threw => exact h'
    | ready sessionResult => exact openFriendStreamWithSession_consumed request sessionResult h'
  | resolveOpen open_ result =>
    show (consumption (resolveOpen relay open_ result).2 sessionId).isSome = true
    unfold resolveOpen
    split
    · have hnormalize := normalizeServiceSessionResult_consumption hkeyed result sessionId
      exact (congrArg Option.isSome hnormalize).trans h
    · exact h
  | completeOpen open_ =>
    show (consumption (completeOpen options relay open_).2 sessionId).isSome = true
    unfold completeOpen
    split
    · rename_i request sessionResult _
      have hended : (consumption { relay with pending := relay.pending.set open_ .ended } sessionId).isSome = true := h
      exact openFriendStreamWithSession_consumed request sessionResult hended
    · exact h
  | openHostTunnel | closeHostTunnel | recordTransfer | relayEcho | disconnectStream | advance =>
    rw [consumption_congr (step_sessionState rfl)]
    exact h

/-! ### Where a stream comes from -/

/-- The stream was opened as the old one: nothing about its opening differs. -/
structure SameOpening (old stream : Stream) : Prop where
  id : stream.id = old.id
  roomId : stream.roomId = old.roomId
  inviteId : stream.inviteId = old.inviteId
  hostId : stream.hostId = old.hostId
  friendId : stream.friendId = old.friendId
  minecraftUuid : stream.minecraftUuid = old.minecraftUuid
  sessionId : stream.sessionId = old.sessionId
  tunnelId : stream.tunnelId = old.tunnelId
  openedAt : stream.openedAt = old.openedAt

theorem SameOpening.refl (stream : Stream) : SameOpening stream stream := ⟨rfl, rfl, rfl, rfl, rfl, rfl, rfl, rfl, rfl⟩

theorem SameOpening.trans {first second third : Stream} (h : SameOpening first second)
    (h' : SameOpening second third) : SameOpening first third :=
  ⟨h'.id.trans h.id, h'.roomId.trans h.roomId, h'.inviteId.trans h.inviteId, h'.hostId.trans h.hostId,
    h'.friendId.trans h.friendId, h'.minecraftUuid.trans h.minecraftUuid, h'.sessionId.trans h.sessionId,
    h'.tunnelId.trans h.tunnelId, h'.openedAt.trans h.openedAt⟩

/-- Every stream was there before. -/
def StreamsFrom (t t' : Traffic) : Prop :=
  ∀ streamId stream, t'.streams.get streamId = some stream →
    ∃ old, t.streams.get streamId = some old ∧ SameOpening old stream

theorem StreamsFrom.refl (t : Traffic) : StreamsFrom t t := fun _ stream h => ⟨stream, h, .refl stream⟩

theorem StreamsFrom.trans {t t' t'' : Traffic} (h : StreamsFrom t t') (h' : StreamsFrom t' t'') :
    StreamsFrom t t'' := by
  intro streamId stream hget
  obtain ⟨middle, hmiddle, hsame'⟩ := h' streamId stream hget
  obtain ⟨old, hold, hsame⟩ := h streamId middle hmiddle
  exact ⟨old, hold, hsame.trans hsame'⟩

theorem StreamsFrom.setStream {t t' : Traffic} {old stream : Stream} (hstored : t.streams.get old.id = some old)
    (hstreams : t'.streams = t.streams.set old.id stream) (hsame : SameOpening old stream) : StreamsFrom t t' := by
  intro streamId s hget
  rw [hstreams] at hget
  rcases JsMap.get_set_cases hget with ⟨hid, rfl⟩ | ⟨-, hget⟩
  · exact ⟨old, hid ▸ hstored, hsame⟩
  · exact ⟨s, hget, .refl s⟩

theorem StreamsFrom.closeStream {t t' t'' : Traffic} (h : StreamsFrom t t') (hclose : CloseStream t' t'') :
    StreamsFrom t t'' := by
  cases hclose with
  | close stream closedAt stored notClosed =>
    exact h.trans (.setStream stored rfl ⟨rfl, rfl, rfl, rfl, rfl, rfl, rfl, rfl, rfl⟩)

theorem StreamsFrom.change {R : Rules} (hR : ¬ R.opens) {t t' : Traffic} (hchange : Change options R t t') :
    StreamsFrom t t' := by
  cases hchange with
  | openTunnel => exact .refl t
  | closeTunnel tunnel closedAt stored closes all =>
    have hstart : StreamsFrom t { t with hostTunnels := t.hostTunnels.set tunnel.roomId tunnel } := .refl t
    exact closeStreams_invariant (fun _ _ => StreamsFrom.closeStream) closes hstart
  | openStream stream tunnel id opened empty stored tunnelId hostId tunnelOpened members allowed =>
    exact absurd allowed hR
  | closeStream closes => exact (StreamsFrom.refl t).closeStream closes
  | failStream stream stored closed =>
    exact .setStream stored rfl ⟨rfl, rfl, rfl, rfl, rfl, rfl, rfl, rfl, rfl⟩
  | transfer stream bytes lastActivityAt stored opened room host =>
    exact .setStream stored rfl ⟨rfl, rfl, rfl, rfl, rfl, rfl, rfl, rfl, rfl⟩
  | echo stream hostInbox friendInbox stored =>
    exact .setStream stored rfl ⟨rfl, rfl, rfl, rfl, rfl, rfl, rfl, rfl, rfl⟩

theorem StreamsFrom.changes {R : Rules} (hR : ¬ R.opens) {t t' : Traffic} (hchanges : Changes options R t t') :
    StreamsFrom t t' := by
  induction hchanges with
  | refl => exact .refl t
  | tail _ hchange ih => exact ih.trans (.change hR hchange)

/-- An operation that does not say that it opened a stream has opened none. -/
theorem step_streamsFrom (hkeyed : Keyed relay.traffic) {operation : Operation}
    (h : ¬ OpensStream options relay operation) :
    StreamsFrom relay.traffic (step options relay operation).2.traffic :=
  StreamsFrom.changes h (step_changes hkeyed operation)

/-- When an operation opens a stream, it is an open that was admitted with the object it holds. -/
theorem openFriendStreamWithSession_opens {request : OpenRequest} {sessionResult : SessionResult}
    (h : (openFriendStreamWithSession options relay request sessionResult).1.opensStream = true) :
    ∃ object session tunnel, sessionResult = .ok object ∧ relay.objects[object]? = some session ∧
      admission options relay session request = .ok tunnel ∧
      openFriendStreamWithSession options relay request sessionResult =
        admitStream options relay request object session tunnel := by
  have hends := openFriendStreamWithSession_ends options relay request sessionResult
  generalize openFriendStreamWithSession options relay request sessionResult = result at hends h ⊢
  cases hends with
  | failed reason => cases h
  | opened object session tunnel held stored admitted => exact ⟨object, session, tunnel, held, stored, admitted, rfl⟩

end EasyMc.Relay
