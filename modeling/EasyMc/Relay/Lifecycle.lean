import EasyMc.Relay.Traffic

/-!
# The states of a stream

A closed stream stays closed, and every opened stream is counted as closed or is still open or has failed to
disconnect (`stream_accounting`), as long as no closed stream is disconnected again with every attempt failing: the
end of `disconnectStream` sets the state without looking at it (`closed_stream_reopened`).  A step that does this takes
a stream out of its closed state, and no other step does (`closed_kept_iff`).
-/

namespace EasyMc.Relay

variable {options : Options} {R : Rules} {t t' : Traffic}

/-! ### Closed streams -/

/-- The stream is stored and closed. -/
def ClosedIn (t : Traffic) (streamId : Nat) : Prop :=
  ∃ stream, t.streams.get streamId = some stream ∧ stream.state = .closed

theorem ClosedIn.setStream {streamId : Nat} (h : ClosedIn t streamId) {old stream : Stream}
    (hstored : t.streams.get old.id = some old) (hclosed : old.state = .closed → stream.state = .closed) :
    ClosedIn { t with streams := t.streams.set old.id stream } streamId := by
  obtain ⟨s, hs, hsclosed⟩ := h
  by_cases hid : old.id = streamId
  · subst hid
    obtain rfl := Option.some.inj (hstored.symm.trans hs)
    exact ⟨stream, JsMap.get_set_self _ _ _, hclosed hsclosed⟩
  · exact ⟨s, (JsMap.get_set_ne _ _ hid).trans hs, hsclosed⟩

theorem ClosedIn.closeStream {streamId : Nat} (h : ClosedIn t streamId) (hclose : CloseStream t t') :
    ClosedIn t' streamId := by
  cases hclose with
  | close stream closedAt stored notClosed => exact h.setStream stored fun _ => rfl

theorem ClosedIn.change {streamId : Nat} (hkeyed : Keyed t) (hR : ¬ R.reopens) (h : ClosedIn t streamId)
    (hchange : Change options R t t') : ClosedIn t' streamId := by
  cases hchange with
  | openTunnel => exact h
  | closeTunnel tunnel closedAt stored closes all =>
    exact closeStreams_invariant (I := (ClosedIn · streamId)) (fun _ _ => ClosedIn.closeStream) closes h
  | openStream stream tunnel id opened empty stored tunnelId hostId tunnelOpened members allowed =>
    obtain ⟨s, hs, hclosed⟩ := h
    have hne : stream.id ≠ streamId := by
      have hlt := (hkeyed.stream streamId s hs).2
      omega
    exact ⟨s, (JsMap.get_set_ne _ _ hne).trans hs, hclosed⟩
  | closeStream closes => exact h.closeStream closes
  | failStream stream stored closed => exact h.setStream stored fun hclosed => absurd (closed hclosed) hR
  | transfer stream bytes lastActivityAt stored opened room host => exact h.setStream stored id
  | echo stream hostInbox friendInbox stored => exact h.setStream stored id

/-! ### Disconnects of a closed stream -/

/-- A disconnect whose attempts all fail leaves the stream as failed, whatever it was. -/
theorem disconnectLoop_exhausted {stream : Stream} {bounded failAttempts : JsNumber} {last : Int}
    (hfails : FailsAfter bounded failAttempts last) (room : Nat) (attempt : Int) (attempts : List Attempt)
    (relay : Simulation) (hfirst : 1 ≤ attempt) (hroom : attempt - 1 + room = maxArrayLength)
    (hle : attempt ≤ last + 1) :
    (disconnectLoop options stream bounded failAttempts room attempt attempts relay).2.streams.get stream.id =
      some { stream with state := .disconnectFailed } := by
  -- An attempt that is made is not behind the last one.
  have hmade : ∀ attempt ≤ last + 1, bounded.atLeast attempt = true → attempt ≤ last := by
    intro attempt hle hbounded
    by_contra hbehind
    obtain rfl : attempt = last + 1 := by omega
    exact Bool.noConfusion (hbounded.symm.trans hfails.ends)
  fun_induction disconnectLoop options stream bounded failAttempts room attempt attempts relay with
  | case1 attempt attempts relay hbounded =>
    have hroomLast := hfails.room
    have hlast := hmade attempt hle hbounded
    omega
  | case2 attempt attempts relay hbounded room hfailed ih =>
    have hlast := hmade attempt hle hbounded
    exact ih (by omega) (by push_cast at hroom; omega) (by omega)
  | case3 attempt attempts relay hbounded room hfailed =>
    have hlast := hmade attempt hle hbounded
    obtain rfl | ⟨-, hlastFailed⟩ := hfails.failed
    · omega
    · exact absurd (JsNumber.atLeast_of_le hlastFailed hlast) hfailed
  | case4 => exact JsMap.get_set_self _ _ _

/-- Exactly a disconnect of a closed stream whose attempts all fail takes a stream out of its closed state. -/
theorem closed_kept_iff {relay : Simulation} (hkeyed : Keyed relay.traffic) (operation : Operation) :
    (∀ streamId, ClosedIn relay.traffic streamId → ClosedIn (step options relay operation).2.traffic streamId) ↔
      ¬ ReopensClosed relay operation := by
  constructor
  · intro hkept hreopens
    cases operation with
    | disconnectStream streamId maxAttempts failAttempts =>
      obtain ⟨hattempts, stream, hstored, hclosed⟩ := hreopens
      obtain ⟨last, hfails⟩ := (attemptsFail_iff _ _).1 hattempts
      obtain rfl : stream.id = streamId := (hkeyed.stream _ _ hstored).1
      obtain ⟨stream', hstored', hclosed'⟩ := hkept stream.id ⟨stream, hstored, hclosed⟩
      have hfailed : (step options relay (.disconnectStream stream.id maxAttempts failAttempts)).2.streams.get stream.id =
          some { stream with state := .disconnectFailed } := by
        rw [step, disconnectStream, hstored]
        exact disconnectLoop_exhausted hfails _ _ _ _ le_rfl (by omega) (by have := hfails.nonneg; omega)
      obtain rfl := Option.some.inj (hstored'.symm.trans hfailed)
      cases hclosed'
    | _ => exact hreopens
  · intro hkeeps streamId hclosed
    exact (traffic_step (I := (ClosedIn · streamId)) (fun _ _ hkeyed h hchange => h.change hkeyed hkeeps hchange) hkeyed
      hclosed).2

/-! ### Counting -/

/-- The number of streams in a state. -/
def streamsIn (streams : JsMap Nat Stream) (state : StreamState) : Nat :=
  (streams.values.filter fun stream => stream.state == state).length

theorem streamsIn_set {streams : JsMap Nat Stream} {old : Stream} (hstored : streams.get old.id = some old)
    (stream : Stream) (state : StreamState) :
    streamsIn (streams.set old.id stream) state + (if old.state == state then 1 else 0) =
      streamsIn streams state + if stream.state == state then 1 else 0 := by
  unfold streamsIn
  rw [JsMap.length_filter_values, JsMap.length_filter_values]
  exact JsMap.total_set_old (fun entry : Nat × Stream => if entry.2.state == state then 1 else 0) stream hstored

theorem streamsIn_set_same {streams : JsMap Nat Stream} {old : Stream} (hstored : streams.get old.id = some old)
    {stream : Stream} (hsame : stream.state = old.state) (state : StreamState) :
    streamsIn (streams.set old.id stream) state = streamsIn streams state := by
  have hset := streamsIn_set hstored stream state
  rw [hsame] at hset
  exact Nat.add_right_cancel hset

theorem streamsIn_new {streams : JsMap Nat Stream} {stream : Stream} (hnew : streams.get stream.id = none)
    (state : StreamState) :
    streamsIn (streams.set stream.id stream) state =
      streamsIn streams state + if stream.state == state then 1 else 0 := by
  unfold streamsIn
  rw [JsMap.length_filter_values, JsMap.length_filter_values]
  exact JsMap.total_set_new (fun entry : Nat × Stream => if entry.2.state == state then 1 else 0) stream hnew

/-- Every opened stream is counted as closed, or still open, or failed to disconnect. -/
def Accounted (t : Traffic) : Prop :=
  t.friendStreamsOpened =
    t.friendStreamsClosed + streamsIn t.streams .opened + streamsIn t.streams .disconnectFailed

theorem Accounted.closeStream (h : Accounted t) (hclose : CloseStream t t') : Accounted t' := by
  cases hclose with
  | close stream closedAt stored notClosed =>
    have hset := streamsIn_set stored { stream with state := .closed, closedAt := some closedAt }
    have hopened := hset .opened
    have hfailed := hset .disconnectFailed
    unfold Accounted at h ⊢
    cases hstate : stream.state with
    | opened =>
      simp [hstate] at hopened hfailed
      dsimp only
      omega
    | closed => exact absurd hstate notClosed
    | disconnectFailed =>
      simp [hstate] at hopened hfailed
      dsimp only
      omega

theorem Accounted.setStream (h : Accounted t) {old stream : Stream} (hstored : t.streams.get old.id = some old)
    (hsame : stream.state = old.state) : Accounted { t with streams := t.streams.set old.id stream } := by
  unfold Accounted at h ⊢
  rw [streamsIn_set_same hstored hsame, streamsIn_set_same hstored hsame]
  exact h

theorem Accounted.change (hkeyed : Keyed t) (hR : ¬ R.reopens) (h : Accounted t) (hchange : Change options R t t') :
    Accounted t' := by
  cases hchange with
  | openTunnel => exact h
  | closeTunnel tunnel closedAt stored closes all =>
    exact closeStreams_invariant (fun _ _ => Accounted.closeStream) closes h
  | openStream stream tunnel id opened empty stored tunnelId hostId tunnelOpened members allowed =>
    have hnew : t.streams.get stream.id = none := hkeyed.stream_fresh id
    unfold Accounted at h ⊢
    dsimp only
    rw [streamsIn_new hnew, streamsIn_new hnew, opened, h]
    simp
    omega
  | closeStream closes => exact h.closeStream closes
  | failStream stream stored closed =>
    have hset := streamsIn_set stored { stream with state := .disconnectFailed }
    have hopened := hset .opened
    have hfailed := hset .disconnectFailed
    unfold Accounted at h ⊢
    cases hstate : stream.state with
    | opened =>
      simp [hstate] at hopened hfailed
      dsimp only
      omega
    | closed => exact absurd (closed hstate) hR
    | disconnectFailed =>
      simp [hstate] at hopened hfailed
      dsimp only
      omega
  | transfer stream bytes lastActivityAt stored opened room host => exact h.setStream stored rfl
  | echo stream hostInbox friendInbox stored => exact h.setStream stored rfl

/-! ### Runs -/

/-- As long as no closed stream is disconnected with every attempt failing, a closed stream stays closed, and the
streams that were opened are those counted as closed, those that are open and those that failed to disconnect. -/
theorem stream_accounting (options : Options) (now : Int) (operations : List Operation)
    (hrun : Machine.Along (step options) (fun relay operation => ¬ ReopensClosed relay operation)
      (createRelaySimulation now) operations) :
    (∀ before after, operations = before ++ after →
      ∀ streamId stream, (run options now before).streams.get streamId = some stream → stream.state = .closed →
        ∃ stream', (run options now operations).streams.get streamId = some stream' ∧ stream'.state = .closed) ∧
      (run options now operations).metrics.friendStreamsOpened =
        (run options now operations).metrics.friendStreamsClosed +
          streamsIn (run options now operations).streams .opened +
          streamsIn (run options now operations).streams .disconnectFailed := by
  constructor
  · rintro before after rfl streamId stream hstored hclosed
    have h : ClosedIn (run options now before).traffic streamId := ⟨stream, hstored, hclosed⟩
    have hafter := (Machine.along_append.1 hrun).2
    rw [run, Machine.run_append]
    exact (traffic_invariant (I := (ClosedIn · streamId))
      (fun _ _ _ _ hR hkeyed h hchange => h.change hkeyed hR hchange) (.run options now before) h hafter).2
  · have h : Accounted (createRelaySimulation now).traffic := rfl
    exact (traffic_invariant (fun _ _ _ _ hR hkeyed h hchange => h.change hkeyed hR hchange) (.start now) h hrun).2

/-- A disconnect that fails, then two that succeed: the stream is open no longer and is counted as closed once. -/
theorem stream_accounting_failed_disconnect :
    let relay := run (oneHost false) 0 [openRoom, .authorizeSession friendSession,
      .openFriendStream friendRequest .later, .disconnectStream 1 (some .nan) none,
      .disconnectStream 1 (some (.finite 25 (-1))) (some (.ofInt 1)), .disconnectStream 1 none none]
    relay.metrics.friendStreamsOpened = relay.metrics.friendStreamsClosed + streamsIn relay.streams .opened +
      streamsIn relay.streams .disconnectFailed :=
  (stream_accounting (oneHost false) 0 _ (by decide)).2

/-- The friend's stream is opened and disconnected. -/
def disconnectedOnce : List Operation :=
  [openRoom, .authorizeSession friendSession, .openFriendStream friendRequest .later, .disconnectStream 1 none none]

/-- Disconnecting a closed stream again, with every attempt failing, takes it out of the closed state; it is then
counted as closed and as failed. -/
theorem closed_stream_reopened :
    let closed := run (oneHost false) 0 disconnectedOnce
    let reopened := run (oneHost false) 0 (disconnectedOnce ++ [.disconnectStream 1 none (some (.ofInt 3))])
    (closed.streams.get 1).map Stream.state = some .closed ∧
      (reopened.streams.get 1).map Stream.state = some .disconnectFailed ∧
      reopened.metrics.friendStreamsOpened ≠ reopened.metrics.friendStreamsClosed +
        streamsIn reopened.streams .opened + streamsIn reopened.streams .disconnectFailed := by
  decide

end EasyMc.Relay
