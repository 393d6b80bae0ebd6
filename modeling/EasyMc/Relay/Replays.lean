import EasyMc.Relay.Sessions

/-!
# One stream per session

When the session service answers later, two opens can hold two objects of the same session: the answer to the second
replaces the object in the store before the first one is used.  As long as every open that is admitted holds the
object that is stored under the id it asked for, a session opens one stream (`one_stream_per_session`); two opens of
one session whose answers both arrive before either of them goes on open two (`session_used_twice`).
-/

namespace EasyMc.Relay

variable {options : Options} {relay : Simulation}

/-- Every session comes from the service, which answers later. -/
def Operation.answersLater : Operation → Bool
  | .authorizeSession _ => false
  | .openFriendStream _ answer => answer == .later
  | _ => true

/-- An open that goes on and is admitted holds the session object that is stored under the id it asked for. -/
def holdsStoredSession (options : Options) (relay : Simulation) : Operation → Bool
  | .completeOpen open_ =>
    match relay.pending[open_]? with
    | some (.answered request (.ok object)) =>
      match relay.objects[object]? with
      | some session =>
        !(admission options relay session request).isOk || relay.sessions.get request.sessionId == some object
      | none => true
    | _ => true
  | _ => true

/-- Sessions with a stream are used, and have one stream only. -/
structure StreamsUseSessions (relay : Simulation) : Prop where
  used : ∀ streamId stream, relay.streams.get streamId = some stream →
    (consumption relay stream.sessionId).isSome = true
  one : ∀ streamId streamId' stream stream', relay.streams.get streamId = some stream →
    relay.streams.get streamId' = some stream' → stream.sessionId = stream'.sessionId → streamId = streamId'

/-- Nothing is opened: the sessions of the streams are the same and stay used. -/
theorem StreamsUseSessions.of_streamsFrom {relay' : Simulation} (h : StreamsUseSessions relay)
    (hfrom : StreamsFrom relay.traffic relay'.traffic)
    (hused : ∀ sessionId, (consumption relay sessionId).isSome = true →
      (consumption relay' sessionId).isSome = true) : StreamsUseSessions relay' := by
  constructor
  · intro streamId stream hget
    obtain ⟨old, hold, hsame⟩ := hfrom streamId stream hget
    rw [hsame.sessionId]
    exact hused _ (h.used streamId old hold)
  · intro streamId streamId' stream stream' hget hget' hsession
    obtain ⟨old, hold, hsame⟩ := hfrom streamId stream hget
    obtain ⟨old', hold', hsame'⟩ := hfrom streamId' stream' hget'
    exact h.one streamId streamId' old old' hold hold' (hsame.sessionId ▸ hsame'.sessionId ▸ hsession)

/-- An open that holds the stored session object, which is not used, opens the first stream of the session. -/
theorem StreamsUseSessions.opened (hkeyed : Keyed relay.traffic) (h : StreamsUseSessions relay)
    {request : OpenRequest} {object : Nat} {session : Session} {tunnel : HostTunnel}
    (hobject : relay.objects[object]? = some session) (hunused : session.consumedAt = none)
    (hstored : relay.sessions.get request.sessionId = some object) :
    StreamsUseSessions (admitStream options relay request object session tunnel).2 := by
  have hfirst : ∀ streamId stream, relay.streams.get streamId = some stream →
      stream.sessionId ≠ request.sessionId := by
    intro streamId stream hget hsession
    have hused := h.used streamId stream hget
    rw [hsession] at hused
    simp [consumption, storedSession, hstored, hobject, hunused] at hused
  have hnew : relay.streams.get relay.nextId = none := hkeyed.stream_fresh rfl
  have hget_set : ∀ streamId stream,
      (admitStream options relay request object session tunnel).2.streams.get streamId = some stream →
      streamId = relay.nextId ∧ stream.sessionId = request.sessionId ∨ relay.streams.get streamId = some stream := by
    intro streamId stream hget
    change (relay.streams.set relay.nextId (newStream relay session request tunnel)).get streamId = some stream at hget
    rcases JsMap.get_set_cases hget with ⟨hid, rfl⟩ | ⟨-, hget⟩
    · exact .inl ⟨hid.symm, rfl⟩
    · exact .inr hget
  constructor
  · intro streamId stream hget
    rw [admitStream_consumption hobject]
    split
    · rfl
    · rename_i hother
      rcases hget_set streamId stream hget with ⟨-, hsession⟩ | hget
      · exact absurd (hsession ▸ hstored) hother
      · exact h.used streamId stream hget
  · intro streamId streamId' stream stream' hget hget' hsession
    rcases hget_set streamId stream hget with ⟨hid, hs⟩ | hget <;>
      rcases hget_set streamId' stream' hget' with ⟨hid', hs'⟩ | hget'
    · exact hid.trans hid'.symm
    · exact absurd (hsession.symm.trans hs) (hfirst _ _ hget')
    · exact absurd (hsession.trans hs') (hfirst _ _ hget)
    · exact h.one streamId streamId' stream stream' hget hget' hsession

/-! ### Runs -/

/-- The state of a relay with a session service. -/
structure SessionsUsedOnce (relay : Simulation) : Prop where
  keyed : Keyed relay.traffic
  sessions : SessionsKeyed relay.sessionState
  streams : StreamsUseSessions relay

theorem SessionsUsedOnce.start (now : Int) : SessionsUsedOnce (createRelaySimulation now) where
  keyed := .start now
  sessions := fun _ _ h => nomatch h
  streams := ⟨fun _ _ h => (nomatch h), fun _ _ _ _ h _ => (nomatch h)⟩

/-- A completed open is refused, or uses the stored object of the session it asked for. -/
theorem StreamsUseSessions.completeOpen (hkeyed : Keyed relay.traffic) (h : StreamsUseSessions relay) {open_ : Nat}
    (hholds : holdsStoredSession options relay (.completeOpen open_) = true) :
    StreamsUseSessions (completeOpen options relay open_).2 := by
  unfold Relay.completeOpen
  cases hpending : relay.pending[open_]? with
  | none => exact h
  | some pending =>
    cases pending with
    | asked request => exact h
    | ended => exact h
    | answered request sessionResult =>
      have hends := openFriendStreamWithSession_ends options { relay with pending := relay.pending.set open_ .ended }
        request sessionResult
      dsimp only
      generalize openFriendStreamWithSession options { relay with pending := relay.pending.set open_ .ended } request
        sessionResult = result at hends ⊢
      have hended : StreamsUseSessions { relay with pending := relay.pending.set open_ .ended } := ⟨h.used, h.one⟩
      cases hends with
      | failed reason => exact ⟨h.used, h.one⟩
      | opened object session tunnel held stored admitted =>
        -- The condition is about this very case.
        have hstored : relay.sessions.get request.sessionId = some object := by
          have hadmitted : admission options relay session request = .ok tunnel := admitted
          have hobject : relay.objects[object]? = some session := stored
          simpa [holdsStoredSession, hpending, held, hobject, hadmitted, Except.isOk, Except.toBool] using hholds
        exact @StreamsUseSessions.opened options { relay with pending := relay.pending.set open_ .ended }
          hkeyed hended _ _ _ _ stored (admission_ok admitted).notConsumed hstored

theorem SessionsUsedOnce.step (hservice : options.sessionService = true) (h : SessionsUsedOnce relay)
    {operation : Operation} (hlater : operation.answersLater = true)
    (hholds : holdsStoredSession options relay operation = true) :
    SessionsUsedOnce (Relay.step options relay operation).2 := by
  refine ⟨h.keyed.changes (step_changes h.keyed operation), step_keyed h.sessions operation, ?_⟩
  by_cases hopens : OpensStream options relay operation
  · cases operation with
    | completeOpen open_ => exact h.streams.completeOpen h.keyed hholds
    | openFriendStream request answer =>
      -- An open only asks the service.
      obtain rfl : answer = .later := by simpa [Operation.answersLater] using hlater
      simp [OpensStream, openFriendStream, readSessionForRequest, hservice, Output.opensStream] at hopens
    | _ => exact hopens.elim
  · refine h.streams.of_streamsFrom (step_streamsFrom h.keyed hopens) fun sessionId hused => ?_
    refine step_consumed h.sessions (fun session hsession => ?_) hused
    rw [hsession] at hlater
    cases hlater

/-- With a session service that answers later, as long as every open that is admitted holds the stored object of the
session it asked for, at most one stream is opened for a session. -/
theorem one_stream_per_session (options : Options) (hservice : options.sessionService = true) (now : Int)
    (operations : List Operation) (hlater : ∀ operation ∈ operations, operation.answersLater = true)
    (hrun : Machine.Along (step options) (fun relay operation => holdsStoredSession options relay operation = true)
      (createRelaySimulation now) operations) :
    ∀ streamId streamId' stream stream', (run options now operations).streams.get streamId = some stream →
      (run options now operations).streams.get streamId' = some stream' → stream.sessionId = stream'.sessionId →
      streamId = streamId' :=
  (Machine.run_invariant (I := SessionsUsedOnce)
    (fun _ _ h hstep => h.step hservice hstep.1 hstep.2) (.start now) ((Machine.Along.of_forall hlater _).and hrun)
    ).streams.one

/-! ### Two answers for one session -/

/-- The service's answer for the friend's session. -/
def serviceAnswer : ServiceResult :=
  .session
    { sessionId := some "session", id := none, sessionToken := some "secret", sessionCredential := none,
      roomId := some "room", inviteId := some "invite", hostId := some "host", friendId := some "friend",
      minecraftUuid := some "uuid", approved := some true, state := none, issuedAt := some 0, expiresAt := some 1000 }

/-- The friend opens a stream, and asks again with the same session. -/
def replayedOpen : List Operation :=
  [openRoom, .openFriendStream friendRequest .later, .resolveOpen 0 serviceAnswer, .completeOpen 0,
    .openFriendStream friendRequest .later, .resolveOpen 1 serviceAnswer, .completeOpen 1]

/-- The second open is refused. -/
theorem one_stream_per_session_replay :
    (run (oneHost true) 0 replayedOpen).streams.keys = [1] ∧
      ∀ streamId streamId' stream stream', (run (oneHost true) 0 replayedOpen).streams.get streamId = some stream →
        (run (oneHost true) 0 replayedOpen).streams.get streamId' = some stream' →
        stream.sessionId = stream'.sessionId → streamId = streamId' :=
  ⟨by decide, one_stream_per_session (oneHost true) rfl 0 replayedOpen (by decide) (by decide)⟩

/-- The friend asks twice with one session, and both answers arrive before either open goes on. -/
def overlappingOpens : List Operation :=
  [openRoom, .openFriendStream friendRequest .later, .openFriendStream friendRequest .later,
    .resolveOpen 0 serviceAnswer, .resolveOpen 1 serviceAnswer, .completeOpen 0, .completeOpen 1]

/-- Both opens are admitted. -/
theorem session_used_twice :
    ¬ ∀ (options : Options) (now : Int) (operations : List Operation), options.sessionService = true →
      (∀ operation ∈ operations, operation.answersLater = true) →
      ∀ streamId streamId' stream stream', (run options now operations).streams.get streamId = some stream →
        (run options now operations).streams.get streamId' = some stream' → stream.sessionId = stream'.sessionId →
        streamId = streamId' := by
  intro h
  have hone := h (oneHost true) 0 overlappingOpens rfl (by decide) 1 2
  have hsessions : ((run (oneHost true) 0 overlappingOpens).streams.get 1).map Stream.sessionId = some (some "session") ∧
      ((run (oneHost true) 0 overlappingOpens).streams.get 2).map Stream.sessionId = some (some "session") := by
    decide
  obtain ⟨stream, hstream, hsession⟩ := Option.map_eq_some_iff.1 hsessions.1
  obtain ⟨stream', hstream', hsession'⟩ := Option.map_eq_some_iff.1 hsessions.2
  have heq := hone stream stream' hstream hstream' (hsession.trans hsession'.symm)
  omega

end EasyMc.Relay
