import EasyMc.Relay.Sessions
import EasyMc.Relay.Streams

/-!
# Admission

A stream is opened only for a request that presents the token of an approved, unexpired and unused session of its
room, friend and player, through the open tunnel of that room; a session opens one stream, and a request that is
refused changes nothing but the record of failures (`admission_sound`).

Sessions are authorized at the relay, each id once, or come from a session service that answers at once.
-/

namespace EasyMc.Relay

variable {options : Options} {relay : Simulation}

/-! ### Sessions that are given once -/

def Operation.authorizedId : Operation → Option (Option String)
  | .authorizeSession session => some session.sessionId
  | _ => none

/-- Every session comes from the service, which answers at once and gives its times. -/
def Operation.answersNow : Operation → Bool
  | .authorizeSession _ => false
  | .openFriendStream _ .later => false
  | .openFriendStream _ (.now (.session session)) => session.issuedAt.isSome && session.expiresAt.isSome
  | _ => true

/-- Sessions are authorized once each, with their times, or all come from a service that answers at once. -/
structure SessionsOnce (options : Options) (operations : List Operation) : Prop where
  authorizedOnce : (operations.filterMap Operation.authorizedId).Nodup
  authorizedTimes : ∀ session, .authorizeSession session ∈ operations →
    session.issuedAt.isSome = true ∧ session.expiresAt.isSome = true
  service : options.sessionService = true → ∀ operation ∈ operations, operation.answersNow = true

/-- What is known of an operation in the state it meets. -/
structure GivenOnce (options : Options) (relay : Simulation) (operation : Operation) : Prop where
  fresh : ∀ session, operation = .authorizeSession session → relay.sessions.get session.sessionId = none
  times : ∀ session, operation = .authorizeSession session →
    session.issuedAt.isSome = true ∧ session.expiresAt.isSome = true
  service : options.sessionService = true → operation.answersNow = true

/-- No open waits, and every session object has its times. -/
structure SettledSessions (state : SessionState) : Prop where
  sessions : SessionsKeyed state
  pending : state.pending = []
  times : ∀ session ∈ state.objects, session.issuedAt.isSome = true ∧ session.expiresAt.isSome = true

/-- What holds of a relay whose sessions are given once. -/
structure Settled (options : Options) (relay : Simulation) : Prop extends SettledSessions relay.sessionState where
  keyed : Keyed relay.traffic
  consistent : Consistent options relay.traffic

theorem Settled.start (options : Options) (now : Int) : Settled options (createRelaySimulation now) where
  keyed := .start now
  consistent := .start options now
  sessions := fun _ _ h => nomatch h
  pending := rfl
  times := fun _ h => nomatch h

/-- A session object is stored with its times. -/
theorem storeSession_times (h : Settled options relay) {session : Session}
    (htimes : session.issuedAt.isSome = true ∧ session.expiresAt.isSome = true) :
    ∀ s ∈ (storeSession relay session).objects, s.issuedAt.isSome = true ∧ s.expiresAt.isSome = true := by
  intro s hs
  rcases List.mem_append.1 hs with hs | hs
  · exact h.times s hs
  · obtain rfl := List.mem_singleton.1 hs
    exact htimes

/-- Reading a session gives a result at once. -/
theorem readSessionForRequest_settled (h : Settled options relay) {request : OpenRequest} {answer : ServiceAnswer}
    (hservice : options.sessionService = true → (Operation.openFriendStream request answer).answersNow = true) :
    (readSessionForRequest options relay request answer).1 ≠ .waiting ∧
      (readSessionForRequest options relay request answer).2.now = relay.now ∧
      Settled options (readSessionForRequest options relay request answer).2 := by
  unfold readSessionForRequest
  split
  · rename_i hon
    have hnow := hservice hon
    split
    · cases hnow
    · exact ⟨SessionReading.noConfusion, rfl, h⟩
    · rename_i result _
      refine ⟨SessionReading.noConfusion, ?_, ?_⟩
      · rcases result with session | (_ | reason) | _ <;> rfl
      · have htraffic := normalizeServiceSessionResult_traffic relay result
        refine ⟨⟨normalizeServiceSessionResult_keyed h.sessions result, ?_, ?_⟩, htraffic ▸ h.keyed,
          htraffic ▸ h.consistent⟩
        · rcases result with session | (_ | reason) | _ <;> exact h.pending
        · rcases result with session | (_ | reason) | _
          · have htimes : session.issuedAt.isSome = true ∧ session.expiresAt.isSome = true := by
              simpa [Operation.answersNow] using hnow
            exact storeSession_times h htimes
          · exact h.times
          · exact h.times
          · exact h.times
  · split <;> exact ⟨SessionReading.noConfusion, rfl, h⟩

/-- The object that is read is the one stored under its id. -/
theorem readSessionForRequest_stored (hsessions : SessionsKeyed relay.sessionState) {request : OpenRequest}
    {answer : ServiceAnswer} {object : Nat} {relay' : Simulation} {session : Session}
    (hread : readSessionForRequest options relay request answer = (.ready (.ok object), relay'))
    (hobject : relay'.objects[object]? = some session) : relay'.sessions.get session.sessionId = some object := by
  unfold readSessionForRequest at hread
  split at hread
  · split at hread
    · cases hread
    · cases hread
    · rename_i result _
      rcases result with given | (_ | reason) | _
      · obtain ⟨hready, rfl⟩ := Prod.mk.inj hread
        obtain rfl : relay.objects.length = object := by simpa [normalizeServiceSessionResult] using hready
        change (relay.objects ++ [_])[relay.objects.length]? = some session at hobject
        rw [List.getElem?_concat_length] at hobject
        obtain rfl := Option.some.inj hobject
        exact JsMap.get_set_self _ _ _
      · cases hread
      · cases hread
      · cases hread
  · split at hread
    · cases hread
    · rename_i stored hget
      obtain ⟨hready, rfl⟩ := Prod.mk.inj hread
      obtain rfl : stored = object := by simpa using hready
      obtain ⟨s, hs, hid⟩ := hsessions _ _ hget
      obtain rfl := Option.some.inj (hs.symm.trans hobject)
      rw [hid]
      exact hget

/-! ### A sound open -/

/-- The session object that an open reads. -/
def sessionRead (options : Options) (relay : Simulation) (request : OpenRequest) (answer : ServiceAnswer) :
    Option Session :=
  match readSessionForRequest options relay request answer with
  | (.ready (.ok object), relay) => relay.objects[object]?
  | _ => none

/-- What holds when a request opens a stream with a session, through a tunnel. -/
structure SoundOpen (options : Options) (relay : Simulation) (session : Session) (request : OpenRequest)
    (tunnel : HostTunnel) : Prop where
  token : truthy request.sessionToken = true ∧ session.sessionToken = request.sessionToken
  approved : session.approved = true
  unexpired : ∃ expiresAt, session.expiresAt = some expiresAt ∧ relay.now < expiresAt
  withinDuration : ∃ issuedAt, session.issuedAt = some issuedAt ∧
    relay.now - issuedAt ≤ options.quotas.maxSessionMs
  notConsumed : session.consumedAt = none
  roomId : session.roomId = request.roomId
  friendId : session.friendId = request.friendId
  minecraftUuid : session.minecraftUuid = request.minecraftUuid
  inviteId : truthy session.inviteId = true → session.inviteId = request.inviteId
  hostId : truthy session.hostId = true → session.hostId = tunnel.hostId
  tunnelStored : relay.hostTunnels.get request.roomId = some tunnel
  tunnelOpened : tunnel.state = .opened
  target : tunnel.target = { kind := some "minecraft", host := some "127.0.0.1", port := some 25565 }

theorem Settled.soundOpen (h : Settled options relay) {session : Session} (hmem : session ∈ relay.objects)
    {request : OpenRequest} {tunnel : HostTunnel} (hadmission : admission options relay session request = .ok tunnel) :
    SoundOpen options relay session request tunnel := by
  have hadmitted := admission_ok hadmission
  obtain ⟨hissued, hexpires⟩ := h.times session hmem
  obtain ⟨issuedAt, hissuedAt⟩ := Option.isSome_iff_exists.1 hissued
  obtain ⟨expiresAt, hexpiresAt⟩ := Option.isSome_iff_exists.1 hexpires
  have hunexpired : relay.now < expiresAt := by
    have hexpired := hadmitted.notExpired
    rw [hexpiresAt] at hexpired
    simpa [hasExpired] using hexpired
  have hduration : relay.now - issuedAt ≤ options.quotas.maxSessionMs := by
    have hexceeds := hadmitted.withinDuration
    rw [hissuedAt] at hexceeds
    simpa [exceedsSession] using hexceeds
  exact
    { token := hadmitted.token, approved := hadmitted.approved, unexpired := ⟨expiresAt, hexpiresAt, hunexpired⟩
      withinDuration := ⟨issuedAt, hissuedAt, hduration⟩, notConsumed := hadmitted.notConsumed
      roomId := hadmitted.roomId, friendId := hadmitted.friendId, minecraftUuid := hadmitted.minecraftUuid
      inviteId := hadmitted.inviteId, hostId := hadmitted.hostId, tunnelStored := hadmitted.tunnel_stored
      tunnelOpened := hadmitted.tunnelOpened
      target := target_of_loopback (h.consistent.loopback _ _ hadmitted.tunnel_stored) }

/-- An open that is admitted, with the relay it is admitted in and the object it holds. -/
structure OpensWith (options : Options) (relay : Simulation) (request : OpenRequest) (answer : ServiceAnswer)
    (relay' : Simulation) (object : Nat) (session : Session) (tunnel : HostTunnel) : Prop where
  settled : Settled options relay'
  consumption : ∀ sessionId, consumption relay' sessionId = consumption relay sessionId
  traffic : relay'.traffic = relay.traffic
  held : relay'.objects[object]? = some session
  stored : relay'.sessions.get session.sessionId = some object
  read : sessionRead options relay request answer = some session
  sound : SoundOpen options relay session request tunnel
  result : openFriendStream options relay request answer = admitStream options relay' request object session tunnel

theorem openFriendStream_opens (h : Settled options relay) {request : OpenRequest} {answer : ServiceAnswer}
    (hservice : options.sessionService = true → (Operation.openFriendStream request answer).answersNow = true)
    (hopens : (openFriendStream options relay request answer).1.opensStream = true) :
    ∃ relay' object session tunnel, OpensWith options relay request answer relay' object session tunnel := by
  obtain ⟨hready, hnow, hsettled⟩ := readSessionForRequest_settled h hservice
  have hconsumption := readSessionForRequest_consumption options h.sessions request answer
  have htraffic : (readSessionForRequest options relay request answer).2.traffic = relay.traffic :=
    readSessionForRequest_traffic relay request answer
  unfold openFriendStream at hopens
  rcases hread : readSessionForRequest options relay request answer with ⟨reading, relay'⟩
  rw [hread] at hready hnow hsettled hconsumption htraffic hopens
  cases reading with
  | waiting => exact absurd rfl hready
  | threw => cases hopens
  | ready sessionResult =>
    obtain ⟨object, session, tunnel, rfl, hheld, hadmission, hresult⟩ := openFriendStreamWithSession_opens hopens
    have hsound := hsettled.soundOpen (List.mem_of_getElem? hheld) hadmission
    refine ⟨relay', object, session, tunnel, ⟨hsettled, hconsumption, htraffic, hheld,
      readSessionForRequest_stored h.sessions hread hheld, ?_, ?_, ?_⟩⟩
    · simp only [sessionRead, hread, hheld]
    · have htunnels : relay'.hostTunnels = relay.hostTunnels := congrArg Traffic.hostTunnels htraffic
      exact { hsound with
        unexpired := hnow ▸ hsound.unexpired
        withinDuration := hnow ▸ hsound.withinDuration
        tunnelStored := htunnels ▸ hsound.tunnelStored }
    · rw [← hresult]
      simp only [openFriendStream, hread]

/-! ### Steps -/

theorem Settled.openFriendStream (h : Settled options relay) {request : OpenRequest} {answer : ServiceAnswer}
    (hservice : options.sessionService = true → (Operation.openFriendStream request answer).answersNow = true) :
    SettledSessions (openFriendStream options relay request answer).2.sessionState := by
  obtain ⟨hready, -, hsettled⟩ := readSessionForRequest_settled h hservice
  unfold Relay.openFriendStream
  rcases hread : readSessionForRequest options relay request answer with ⟨reading, relay'⟩
  rw [hread] at hready hsettled
  cases reading with
  | waiting => exact absurd rfl hready
  | threw => exact hsettled.toSettledSessions
  | ready sessionResult =>
    have hends := openFriendStreamWithSession_ends options relay' request sessionResult
    dsimp only
    generalize openFriendStreamWithSession options relay' request sessionResult = result at hends ⊢
    cases hends with
    | failed reason => exact hsettled.toSettledSessions
    | opened object session tunnel held stored admitted =>
      refine ⟨hsettled.sessions.consume stored relay'.now, hsettled.pending, fun s hs => ?_⟩
      rcases List.mem_or_eq_of_mem_set hs with hs | rfl
      · exact hsettled.times s hs
      · exact hsettled.times session (List.mem_of_getElem? stored)

theorem resolveOpen_idle (hpending : relay.pending = []) (open_ : Nat) (result : ServiceResult) :
    resolveOpen relay open_ result = (.none, relay) := by
  simp [resolveOpen, hpending]

theorem completeOpen_idle (hpending : relay.pending = []) (open_ : Nat) :
    completeOpen options relay open_ = (.none, relay) := by
  simp [completeOpen, hpending]

theorem Settled.step (h : Settled options relay) {operation : Operation}
    (hgiven : GivenOnce options relay operation) : Settled options (step options relay operation).2 := by
  obtain ⟨hkeyed, hconsistent⟩ : Keyed (Relay.step options relay operation).2.traffic ∧
      Consistent options (Relay.step options relay operation).2.traffic :=
    traffic_step (fun _ _ hkeyed hI hchange => hI.change hkeyed hchange) h.keyed h.consistent
  refine ⟨?_, hkeyed, hconsistent⟩
  cases operation with
  | authorizeSession session =>
    exact ⟨h.sessions.store _, h.pending, storeSession_times h (hgiven.times session rfl)⟩
  | openFriendStream request answer => exact h.openFriendStream hgiven.service
  | resolveOpen open_ result =>
    show SettledSessions (resolveOpen relay open_ result).2.sessionState
    rw [resolveOpen_idle h.pending]
    exact h.toSettledSessions
  | completeOpen open_ =>
    show SettledSessions (completeOpen options relay open_).2.sessionState
    rw [completeOpen_idle h.pending]
    exact h.toSettledSessions
  | openHostTunnel | closeHostTunnel | recordTransfer | relayEcho | disconnectStream | advance =>
    rw [step_sessionState rfl]
    exact h.toSettledSessions

/-- Sessions are stored by authorizing them, if there is no session service. -/
theorem step_sessions_local (hservice : options.sessionService = false) (hpending : relay.pending = [])
    {operation : Operation} (hid : operation.authorizedId = none) :
    (step options relay operation).2.sessions = relay.sessions := by
  by_cases huses : operation.usesSessions = false
  · exact congrArg SessionState.sessions (step_sessionState huses)
  · cases operation with
    | authorizeSession session => cases hid
    | openFriendStream request answer =>
      have hwith : ∀ sessionResult,
          (openFriendStreamWithSession options relay request sessionResult).2.sessions = relay.sessions := by
        intro sessionResult
        have hends := openFriendStreamWithSession_ends options relay request sessionResult
        generalize openFriendStreamWithSession options relay request sessionResult = result at hends ⊢
        cases hends <;> rfl
      show (openFriendStream options relay request answer).2.sessions = relay.sessions
      unfold openFriendStream readSessionForRequest
      rw [hservice]
      cases relay.sessions.get request.sessionId with
      | none => exact hwith _
      | some object => exact hwith _
    | resolveOpen open_ result =>
      show (resolveOpen relay open_ result).2.sessions = relay.sessions
      rw [resolveOpen_idle hpending]
    | completeOpen open_ =>
      show (completeOpen options relay open_).2.sessions = relay.sessions
      rw [completeOpen_idle hpending]
    | _ => exact absurd rfl huses

/-- Sessions that are given once are fresh whenever they are authorized. -/
theorem SessionsOnce.along {operations : List Operation} (hoperations : SessionsOnce options operations)
    (hsettled : Settled options relay)
    (hfresh : ∀ sessionId ∈ operations.filterMap Operation.authorizedId, relay.sessions.get sessionId = none) :
    Machine.Along (step options) (GivenOnce options) relay operations := by
  induction operations generalizing relay with
  | nil => trivial
  | cons operation operations ih =>
    have hgiven : GivenOnce options relay operation := by
      refine ⟨?_, ?_, fun hservice => hoperations.service hservice operation (by simp)⟩
      · rintro session rfl
        exact hfresh session.sessionId (by simp [Operation.authorizedId])
      · rintro session rfl
        exact hoperations.authorizedTimes session (by simp)
    have hnodup := hoperations.authorizedOnce
    have hrest : SessionsOnce options operations := by
      refine ⟨?_, fun session hs => hoperations.authorizedTimes session (by simp [hs]),
        fun hservice o ho => hoperations.service hservice o (by simp [ho])⟩
      rw [List.filterMap_cons] at hnodup
      split at hnodup
      · exact hnodup
      · exact (List.nodup_cons.1 hnodup).2
    refine ⟨hgiven, ih hrest (hsettled.step hgiven) fun sessionId hmem => ?_⟩
    obtain ⟨later, hlater, hid⟩ := List.mem_filterMap.1 hmem
    have hbefore : relay.sessions.get sessionId = none :=
      hfresh sessionId (List.mem_filterMap.2 ⟨later, List.mem_cons_of_mem _ hlater, hid⟩)
    by_cases hservice : options.sessionService = true
    · -- With a service nothing is authorized at all.
      have hnow := hrest.service hservice later hlater
      cases later with
      | authorizeSession session => cases hnow
      | _ => cases hid
    · cases hauthorized : operation.authorizedId with
      | none =>
        rw [step_sessions_local (by simpa using hservice) hsettled.pending hauthorized]
        exact hbefore
      | some authorizedId =>
        rw [List.filterMap_cons_some hauthorized, List.nodup_cons] at hnodup
        have hne : authorizedId ≠ sessionId := fun he => hnodup.1 (he ▸ hmem)
        cases operation with
        | authorizeSession session =>
          obtain rfl : session.sessionId = authorizedId := by simpa [Operation.authorizedId] using hauthorized
          exact (JsMap.get_set_ne _ _ hne).trans hbefore
        | _ => cases hauthorized

/-! ### Histories -/

/-- The fired open opened the stream, soundly. -/
inductive OpenedBy (options : Options) (x : Machine.Fired Simulation Operation Output) (stream : Stream) : Prop
  | intro (request : OpenRequest) (answer : ServiceAnswer) (session : Session) (tunnel : HostTunnel)
      (opened : PublicStream) (input : x.input = .openFriendStream request answer)
      (output : x.output = .streamOpened opened) (id : opened.id = stream.id)
      (read : sessionRead options x.before request answer = some session)
      (sound : SoundOpen options x.before session request tunnel)
      (roomId : stream.roomId = request.roomId) (friendId : stream.friendId = request.friendId)
      (minecraftUuid : stream.minecraftUuid = request.minecraftUuid) (hostId : stream.hostId = tunnel.hostId)
      (tunnelId : stream.tunnelId = tunnel.id)

theorem OpenedBy.of_sameOpening {x : Machine.Fired Simulation Operation Output} {old stream : Stream}
    (h : OpenedBy options x old) (hsame : SameOpening old stream) : OpenedBy options x stream := by
  obtain ⟨request, answer, session, tunnel, opened, input, output, id, read, sound, roomId, friendId, minecraftUuid,
    hostId, tunnelId⟩ := h
  exact .intro request answer session tunnel opened input output (id.trans hsame.id.symm) read sound
    (hsame.roomId.trans roomId) (hsame.friendId.trans friendId) (hsame.minecraftUuid.trans minecraftUuid)
    (hsame.hostId.trans hostId) (hsame.tunnelId.trans tunnelId)

/-- The id of the session that a fired open opened a stream with. -/
def openedSession (options : Options) (x : Machine.Fired Simulation Operation Output) : Option (Option String) :=
  match x.input, x.output with
  | .openFriendStream request answer, .streamOpened _ =>
    (sessionRead options x.before request answer).map Session.sessionId
  | _, _ => none

/-- The history of a relay whose sessions are given once. -/
structure History (options : Options) (tr : List (Machine.Fired Simulation Operation Output)) (relay : Simulation) :
    Prop where
  settled : Settled options relay
  once : (tr.filterMap (openedSession options)).Nodup
  used : ∀ sessionId ∈ tr.filterMap (openedSession options), (consumption relay sessionId).isSome = true
  opened : ∀ streamId stream, relay.streams.get streamId = some stream → ∃ x ∈ tr, OpenedBy options x stream

theorem History.start (options : Options) (now : Int) : History options [] (createRelaySimulation now) where
  settled := .start options now
  once := List.nodup_nil
  used := fun _ h => nomatch h
  opened := fun _ _ h => nomatch h

/-- A step that opens nothing. -/
theorem History.idle {tr : List (Machine.Fired Simulation Operation Output)} (h : History options tr relay)
    {operation : Operation} (hgiven : GivenOnce options relay operation)
    (hopens : ¬ OpensStream options relay operation) :
    History options (tr ++ [Machine.fire (step options) relay operation]) (step options relay operation).2 := by
  have hnone : openedSession options (Machine.fire (step options) relay operation) = none := by
    unfold openedSession Machine.fire
    dsimp only
    cases operation with
    | openFriendStream request answer =>
      change ¬ (openFriendStream options relay request answer).1.opensStream = true at hopens
      show (match Operation.openFriendStream request answer, (openFriendStream options relay request answer).1 with
        | .openFriendStream request answer, .streamOpened _ => _
        | _, _ => none) = none
      split
      · rename_i hout
        rw [hout] at hopens
        exact absurd rfl hopens
      · rfl
    | _ => rfl
  have hids : (tr ++ [Machine.fire (step options) relay operation]).filterMap (openedSession options) =
      tr.filterMap (openedSession options) := by
    rw [List.filterMap_append, List.filterMap_cons_none hnone]
    simp
  refine ⟨h.settled.step hgiven, hids ▸ h.once, ?_, ?_⟩
  · rw [hids]
    intro sessionId hmem
    refine step_consumed h.settled.sessions (fun session hsession he => ?_) (h.used sessionId hmem)
    -- A used session is stored, so it is not authorized now.
    have hfresh := hgiven.fresh session hsession
    have hused := h.used sessionId hmem
    rw [← he] at hused
    simp [consumption, storedSession, hfresh] at hused
  · intro streamId stream hget
    obtain ⟨old, hold, hsame⟩ := step_streamsFrom h.settled.keyed hopens streamId stream hget
    obtain ⟨x, hx, hopened⟩ := h.opened streamId old hold
    exact ⟨x, List.mem_append_left _ hx, hopened.of_sameOpening hsame⟩

/-- A step that opens a stream. -/
theorem History.opens {tr : List (Machine.Fired Simulation Operation Output)} (h : History options tr relay)
    {request : OpenRequest} {answer : ServiceAnswer}
    (hgiven : GivenOnce options relay (.openFriendStream request answer))
    (hopens : (openFriendStream options relay request answer).1.opensStream = true) :
    History options (tr ++ [Machine.fire (step options) relay (.openFriendStream request answer)])
      (openFriendStream options relay request answer).2 := by
  obtain ⟨relay', object, session, tunnel, ho⟩ := openFriendStream_opens h.settled hgiven.service hopens
  have hid : openedSession options (Machine.fire (step options) relay (.openFriendStream request answer)) =
      some session.sessionId := by
    show (match Operation.openFriendStream request answer, (openFriendStream options relay request answer).1 with
      | .openFriendStream request answer, .streamOpened _ =>
        (sessionRead options relay request answer).map Session.sessionId
      | _, _ => none) = some session.sessionId
    rw [ho.result]
    show (sessionRead options relay request answer).map Session.sessionId = some session.sessionId
    rw [ho.read]
    rfl
  have hids : (tr ++ [Machine.fire (step options) relay (.openFriendStream request answer)]).filterMap
      (openedSession options) = tr.filterMap (openedSession options) ++ [session.sessionId] := by
    rw [List.filterMap_append, List.filterMap_cons_some hid]
    rfl
  -- The session was not used before, so it is none of those that opened a stream.
  have hunused : (consumption relay session.sessionId).isSome = false := by
    rw [← ho.consumption]
    simp [consumption, storedSession, ho.stored, ho.held, ho.sound.notConsumed]
  refine ⟨h.settled.step hgiven, ?_, ?_, ?_⟩
  · -- No session opens two streams.
    rw [hids, List.nodup_append]
    refine ⟨h.once, by simp, ?_⟩
    rintro sessionId hmem sessionId' hmem' rfl
    obtain rfl := List.mem_singleton.1 hmem'
    rw [h.used _ hmem] at hunused
    cases hunused
  · -- Every session that has opened a stream is used.
    rw [hids, ho.result]
    intro sessionId hmem
    rw [admitStream_consumption ho.held]
    split
    · rfl
    · rename_i hother
      rcases List.mem_append.1 hmem with hmem | hmem
      · rw [ho.consumption]
        exact h.used sessionId hmem
      · obtain rfl := List.mem_singleton.1 hmem
        exact absurd ho.stored hother
  · -- The new stream was opened by this step, the others by an earlier one.
    rw [ho.result]
    intro streamId stream hget
    change (relay'.streams.set relay'.nextId (newStream relay' session request tunnel)).get streamId = some stream
      at hget
    rcases JsMap.get_set_cases hget with ⟨-, rfl⟩ | ⟨-, hget⟩
    · refine ⟨_, List.mem_append_right _ (List.mem_singleton_self _), ?_⟩
      exact .intro request answer session tunnel (publicStream (newStream relay' session request tunnel)) rfl
        (congrArg Prod.fst ho.result) rfl ho.read ho.sound rfl rfl rfl rfl rfl
    · have hstreams : relay'.streams = relay.streams := congrArg Traffic.streams ho.traffic
      obtain ⟨x, hx, hopened⟩ := h.opened streamId stream (hstreams ▸ hget)
      exact ⟨x, List.mem_append_left _ hx, hopened⟩

theorem History.step {tr : List (Machine.Fired Simulation Operation Output)} (h : History options tr relay)
    {operation : Operation} (hgiven : GivenOnce options relay operation) :
    History options (tr ++ [Machine.fire (step options) relay operation]) (step options relay operation).2 := by
  by_cases hopens : OpensStream options relay operation
  · cases operation with
    | openFriendStream request answer => exact h.opens hgiven hopens
    | completeOpen open_ =>
      change (completeOpen options relay open_).1.opensStream = true at hopens
      rw [completeOpen_idle h.settled.pending] at hopens
      cases hopens
    | _ => exact hopens.elim
  · exact h.idle hgiven hopens

/-! ### Refused opens -/

/-- An open that is refused, or throws, changes no tunnel, stream or counter of bytes, and uses no session. -/
theorem openFriendStream_rejected (hsessions : SessionsKeyed relay.sessionState) {request : OpenRequest}
    {answer : ServiceAnswer} (h : (openFriendStream options relay request answer).1.isRejection = true) :
    (openFriendStream options relay request answer).2.traffic = relay.traffic ∧
      ∀ sessionId, consumption (openFriendStream options relay request answer).2 sessionId =
        consumption relay sessionId := by
  have hconsumption := readSessionForRequest_consumption options hsessions request answer
  have htraffic : (readSessionForRequest options relay request answer).2.traffic = relay.traffic :=
    readSessionForRequest_traffic relay request answer
  unfold openFriendStream at h ⊢
  rcases hread : readSessionForRequest options relay request answer with ⟨reading, relay'⟩
  rw [hread] at hconsumption htraffic h
  cases reading with
  | waiting => cases h
  | threw => exact ⟨htraffic, hconsumption⟩
  | ready sessionResult =>
    have hends := openFriendStreamWithSession_ends options relay' request sessionResult
    dsimp only at h ⊢
    generalize openFriendStreamWithSession options relay' request sessionResult = result at hends h ⊢
    cases hends with
    | failed reason => exact ⟨htraffic, hconsumption⟩
    | opened => cases h

theorem SessionsKeyed.run (options : Options) (now : Int) (operations : List Operation) :
    SessionsKeyed (run options now operations).sessionState :=
  Machine.run_invariant (I := fun relay : Simulation => SessionsKeyed relay.sessionState) (P := fun _ _ => True)
    (fun _ operation h _ => step_keyed h operation) (fun _ _ h => (nomatch h))
    (.of_forall (P := fun _ => True) (fun _ _ => trivial) _)

/-- Every stream was opened by a request with the token of an approved, unexpired and unused session that matches it,
through the open loopback tunnel of its room; no session opened two; refused opens leave the traffic and the use of
every session as they were. -/
theorem admission_sound (options : Options) (now : Int) (operations : List Operation)
    (hoperations : SessionsOnce options operations) :
    let history := Machine.trace (step options) (createRelaySimulation now) operations
    (∀ streamId stream, (run options now operations).streams.get streamId = some stream →
        ∃ x ∈ history, OpenedBy options x stream) ∧
      (history.filterMap (openedSession options)).Nodup ∧
      ∀ x ∈ history, ∀ request answer, x.input = .openFriendStream request answer → x.output.isRejection = true →
        x.after.traffic = x.before.traffic ∧
          ∀ sessionId, consumption x.after sessionId = consumption x.before sessionId := by
  intro history
  have halong := hoperations.along (.start options now) fun sessionId _ => rfl
  have h : History options history (run options now operations) :=
    Machine.trace_invariant (fun _ _ _ h hgiven => h.step hgiven) (.start options now) halong
  refine ⟨h.opened, h.once, fun x hx request answer hinput hrejected => ?_⟩
  obtain ⟨before, after, -, hfired⟩ := Machine.mem_trace hx
  rw [hinput] at hfired
  subst hfired
  exact openFriendStream_rejected (.run options now before) hrejected

/-- The friend's session is authorized, used, and presented again. -/
def presentedTwice : List Operation :=
  [openRoom, .authorizeSession friendSession, .openFriendStream friendRequest .later,
    .openFriendStream friendRequest .later]

theorem presentedTwice_once : SessionsOnce (oneHost false) presentedTwice where
  authorizedOnce := by decide
  authorizedTimes := by
    intro session hmem
    obtain rfl : session = friendSession := by simpa [presentedTwice, openRoom] using hmem
    decide
  service := fun h => nomatch h

theorem admission_sound_replay :
    (run (oneHost false) 0 presentedTwice).streams.keys = [1] ∧
      let history := Machine.trace (step (oneHost false)) (createRelaySimulation 0) presentedTwice
      (∀ streamId stream, (run (oneHost false) 0 presentedTwice).streams.get streamId = some stream →
        ∃ x ∈ history, OpenedBy (oneHost false) x stream) ∧
      (history.filterMap (openedSession (oneHost false))).Nodup :=
  have hsound := admission_sound (oneHost false) 0 presentedTwice presentedTwice_once
  ⟨by decide, hsound.1, hsound.2.1⟩

end EasyMc.Relay
