import EasyMc.Relay.Traffic

/-!
# Bytes relayed

Four counters are kept of the same transfers: in the stream, for its room, for its host and for the relay.  The room
and the host counters are both a `Tally` of the streams by a key; a transfer adds to one key what it adds to one
stream, and nothing else moves bytes (`bytes_conserved`).
-/

namespace EasyMc.Relay

variable {options : Options} {R : Rules} {t t' : Traffic}

/-- The bytes of the streams with a property. -/
def bytesWhere (streams : JsMap Nat Stream) (p : Stream → Bool) : Nat :=
  streams.total fun entry => if p entry.2 then entry.2.bytes else 0

theorem bytesWhere_set {streams : JsMap Nat Stream} {old : Stream} (hstored : streams.get old.id = some old)
    (stream : Stream) {p : Stream → Bool} (hp : p stream = p old) :
    bytesWhere (streams.set old.id stream) p + (if p old then old.bytes else 0) =
      bytesWhere streams p + if p old then stream.bytes else 0 := by
  have htotal := JsMap.total_set_old (fun entry : Nat × Stream => if p entry.2 then entry.2.bytes else 0) stream hstored
  dsimp only at htotal
  rw [hp] at htotal
  exact htotal

/-- A stream that is replaced by one with the same bytes leaves the sums as they are. -/
theorem bytesWhere_set_same {streams : JsMap Nat Stream} {old : Stream} (hstored : streams.get old.id = some old)
    (stream : Stream) {p : Stream → Bool} (hp : p stream = p old) (hbytes : stream.bytes = old.bytes) :
    bytesWhere (streams.set old.id stream) p = bytesWhere streams p := by
  have hset := bytesWhere_set hstored stream hp
  rw [hbytes] at hset
  exact Nat.add_right_cancel hset

theorem bytesWhere_set_add {streams : JsMap Nat Stream} {old : Stream} (hstored : streams.get old.id = some old)
    (stream : Stream) {p : Stream → Bool} (hp : p stream = p old) {bytes : Nat}
    (hbytes : stream.bytes = old.bytes + bytes) :
    bytesWhere (streams.set old.id stream) p = bytesWhere streams p + if p old then bytes else 0 := by
  have hset := bytesWhere_set hstored stream hp
  by_cases hold : p old = true
  · simp only [hold, if_true, hbytes] at hset ⊢
    omega
  · simp only [if_neg hold] at hset ⊢
    exact hset

theorem bytesWhere_new {streams : JsMap Nat Stream} {stream : Stream} (hnew : streams.get stream.id = none)
    (hempty : stream.bytes = 0) (p : Stream → Bool) :
    bytesWhere (streams.set stream.id stream) p = bytesWhere streams p := by
  have htotal := JsMap.total_set_new (fun entry : Nat × Stream => if p entry.2 then entry.2.bytes else 0) stream hnew
  unfold bytesWhere
  rw [htotal, hempty]
  simp

/-! ### Tallies -/

/-- The counters hold, for each key, the bytes of the streams with that key; none exceeds the quota. -/
structure Tally (key : Stream → Option String) (quota : Nat) (streams : JsMap Nat Stream) (relayed : Nat)
    (counters : JsMap (Option String) Nat) : Prop where
  own : ∀ k, (counters.get k).getD 0 = bytesWhere streams fun stream => key stream == k
  sum : relayed = counters.total Prod.snd
  bounded : ∀ k, (counters.get k).getD 0 ≤ quota

section Tally

variable {key : Stream → Option String} {quota : Nat} {streams : JsMap Nat Stream} {relayed : Nat}
  {counters : JsMap (Option String) Nat}

theorem Tally.setStream (h : Tally key quota streams relayed counters) {old : Stream}
    (hstored : streams.get old.id = some old) (stream : Stream) (hkey : key stream = key old)
    (hbytes : stream.bytes = old.bytes) : Tally key quota (streams.set old.id stream) relayed counters := by
  refine { h with own := fun k => ?_ }
  have hp : (key stream == k) = (key old == k) := by rw [hkey]
  rw [bytesWhere_set_same (p := fun stream => key stream == k) hstored stream hp hbytes]
  exact h.own k

theorem Tally.newStream (h : Tally key quota streams relayed counters) {stream : Stream}
    (hnew : streams.get stream.id = none) (hempty : stream.bytes = 0) :
    Tally key quota (streams.set stream.id stream) relayed counters := by
  refine { h with own := fun k => ?_ }
  rw [bytesWhere_new hnew hempty]
  exact h.own k

theorem getD_set (counters : JsMap (Option String) Nat) (k a : Option String) (bytes : Nat) :
    ((counters.set k ((counters.get k).getD 0 + bytes)).get a).getD 0 =
      (counters.get a).getD 0 + if k = a then bytes else 0 := by
  rw [JsMap.get_set]
  by_cases h : k = a
  · subst h
    simp
  · simp [h]

theorem total_add (counters : JsMap (Option String) Nat) (k : Option String) (bytes : Nat) :
    (counters.set k ((counters.get k).getD 0 + bytes)).total Prod.snd = counters.total Prod.snd + bytes := by
  have htotal := JsMap.total_set Prod.snd counters k ((counters.get k).getD 0 + bytes)
  cases hget : counters.get k with
  | none =>
    rw [hget] at htotal
    simpa using htotal
  | some old =>
    rw [hget] at htotal
    simp only [Option.elim_some, Option.getD_some] at htotal ⊢
    omega

/-- A transfer adds the same bytes to a stream, to its key and to the relay. -/
theorem Tally.transfer (h : Tally key quota streams relayed counters) {old : Stream}
    (hstored : streams.get old.id = some old) (stream : Stream) (hkey : key stream = key old) {bytes : Nat}
    (hbytes : stream.bytes = old.bytes + bytes) (hquota : (counters.get (key old)).getD 0 + bytes ≤ quota) :
    Tally key quota (streams.set old.id stream) (relayed + bytes)
      (counters.set (key old) ((counters.get (key old)).getD 0 + bytes)) := by
  constructor
  · intro k
    have hp : (key stream == k) = (key old == k) := by rw [hkey]
    rw [getD_set, h.own k, bytesWhere_set_add (p := fun stream => key stream == k) hstored stream hp hbytes]
    simp only [beq_iff_eq]
  · rw [total_add, h.sum]
  · intro k
    rw [getD_set]
    by_cases hk : key old = k
    · subst hk
      simpa using hquota
    · simpa [hk] using h.bounded k

end Tally

/-! ### Conservation -/

/-- The three other counters agree with the bytes of the streams. -/
structure Conserved (options : Options) (t : Traffic) : Prop where
  relayed : t.bytesRelayed = bytesWhere t.streams fun _ => true
  rooms : Tally Stream.roomId options.quotas.maxRoomBytes t.streams t.bytesRelayed t.roomBytes
  hosts : Tally Stream.hostId options.quotas.maxMonthlyHostBytes t.streams t.bytesRelayed t.monthlyHostBytes

theorem Conserved.start (options : Options) (now : Int) : Conserved options (createRelaySimulation now).traffic :=
  ⟨rfl, ⟨fun _ => rfl, rfl, fun _ => Nat.zero_le _⟩, ⟨fun _ => rfl, rfl, fun _ => Nat.zero_le _⟩⟩

theorem Conserved.setStream (h : Conserved options t) {old : Stream}
    (hstored : t.streams.get old.id = some old) (stream : Stream) (hroom : stream.roomId = old.roomId)
    (hhost : stream.hostId = old.hostId) (hbytes : stream.bytes = old.bytes) :
    Conserved options { t with streams := t.streams.set old.id stream } :=
  { relayed := h.relayed.trans (bytesWhere_set_same hstored stream rfl hbytes).symm
    rooms := h.rooms.setStream hstored stream hroom hbytes
    hosts := h.hosts.setStream hstored stream hhost hbytes }

theorem Conserved.closeStream (h : Conserved options t) (hclose : CloseStream t t') : Conserved options t' := by
  cases hclose with
  | close stream closedAt stored notClosed =>
    obtain ⟨hrelayed, hrooms, hhosts⟩ :=
      h.setStream stored { stream with state := .closed, closedAt := some closedAt } rfl rfl rfl
    exact ⟨hrelayed, hrooms, hhosts⟩

theorem Conserved.change (hkeyed : Keyed t) (h : Conserved options t) (hchange : Change options R t t') :
    Conserved options t' := by
  cases hchange with
  | openTunnel => exact ⟨h.relayed, h.rooms, h.hosts⟩
  | closeTunnel tunnel closedAt stored closes all =>
    exact closeStreams_invariant (fun _ _ => Conserved.closeStream) closes ⟨h.relayed, h.rooms, h.hosts⟩
  | openStream stream tunnel id opened empty stored tunnelId hostId tunnelOpened members allowed =>
    have hnew : t.streams.get stream.id = none := hkeyed.stream_fresh id
    exact ⟨h.relayed.trans (bytesWhere_new hnew empty _).symm, h.rooms.newStream hnew empty,
      h.hosts.newStream hnew empty⟩
  | closeStream closes => exact h.closeStream closes
  | failStream stream stored closed => exact h.setStream stored _ rfl rfl rfl
  | transfer stream bytes lastActivityAt stored opened room host =>
    have hrelayed := bytesWhere_set_add (p := fun _ => true) stored
      { stream with bytes := stream.bytes + bytes, lastActivityAt := lastActivityAt } rfl rfl
    have hrooms := h.rooms.transfer stored
      { stream with bytes := stream.bytes + bytes, lastActivityAt := lastActivityAt } rfl rfl room
    have hhosts := h.hosts.transfer stored
      { stream with bytes := stream.bytes + bytes, lastActivityAt := lastActivityAt } rfl rfl host
    refine ⟨?_, hrooms, hhosts⟩
    rw [hrelayed, ← h.relayed]
    rfl
  | echo stream hostInbox friendInbox stored => exact h.setStream stored _ rfl rfl rfl

theorem Conserved.run (options : Options) (now : Int) (operations : List Operation) :
    Conserved options (run options now operations).traffic :=
  (traffic_invariant (P := fun _ _ => True) (fun _ _ _ _ _ hkeyed h hchange => h.change hkeyed hchange)
    (.start now) (.start options now) (.of_forall (P := fun _ => True) (fun _ _ => trivial) _)).2

/-! ### Rejected transfers -/

/-- No byte counter differs. -/
structure SameBytes (relay relay' : Simulation) : Prop where
  streams : ∀ streamId, (relay'.streams.get streamId).map Stream.bytes = (relay.streams.get streamId).map Stream.bytes
  roomBytes : relay'.roomBytes = relay.roomBytes
  monthlyHostBytes : relay'.monthlyHostBytes = relay.monthlyHostBytes
  bytesRelayed : relay'.metrics.bytesRelayed = relay.metrics.bytesRelayed

theorem SameBytes.refl (relay : Simulation) : SameBytes relay relay := ⟨fun _ => rfl, rfl, rfl, rfl⟩

theorem quotaStop_sameBytes {relay : Simulation} {stream : Stream}
    (hstored : relay.streams.get stream.id = some stream) (closeReason : String) (reason : RelayFailureReason) :
    SameBytes relay (quotaStop options relay stream closeReason reason).2 := by
  unfold quotaStop closeStream
  split
  · exact ⟨fun _ => rfl, rfl, rfl, rfl⟩
  · refine ⟨fun streamId => ?_, rfl, rfl, rfl⟩
    change ((relay.streams.set stream.id _).get streamId).map Stream.bytes = _
    by_cases hid : stream.id = streamId
    · subst hid
      rw [JsMap.get_set_self, hstored]
      rfl
    · rw [JsMap.get_set_ne _ _ hid]

theorem recordStreamTransfer_rejected (options : Options) {relay : Simulation} {stream : Stream}
    (hstored : relay.streams.get stream.id = some stream) (bytes : Option Int) :
    (∃ warning, (recordStreamTransfer options relay stream bytes).1 = .transferred (publicStream stream) warning ∧
      ((recordStreamTransfer options relay stream bytes).2.streams.get stream.id).isSome) ∨
      ∃ reason, (recordStreamTransfer options relay stream bytes).1 = .fail reason ∧
        SameBytes relay (recordStreamTransfer options relay stream bytes).2 := by
  have hstop : ∀ closeReason reason, ∃ reason', (quotaStop options relay stream closeReason reason).1 = .fail reason' ∧
      SameBytes relay (quotaStop options relay stream closeReason reason).2 :=
    fun closeReason reason => ⟨reason, rfl, quotaStop_sameBytes hstored closeReason reason⟩
  unfold recordStreamTransfer
  split
  · exact .inr ⟨_, rfl, .refl relay⟩
  · split
    · exact .inr (hstop _ _)
    · split
      · exact .inr (hstop _ _)
      · dsimp only
        split
        · exact .inr (hstop _ _)
        · split
          · exact .inr (hstop _ _)
          · refine .inl ⟨_, rfl, ?_⟩
            change ((relay.streams.set stream.id _).get stream.id).isSome = true
            rw [JsMap.get_set_self]
            rfl

/-- A transfer answers with the stream, or fails and moves no bytes. -/
theorem recordTransfer_rejected (options : Options) {relay : Simulation} (hkeyed : Keyed relay.traffic) (streamId : Nat)
    (bytes : Option Int) :
    (∃ stream warning, (recordTransfer options relay streamId bytes).1 = .transferred stream warning ∧
      ((recordTransfer options relay streamId bytes).2.streams.get streamId).isSome) ∨
      ∃ reason, (recordTransfer options relay streamId bytes).1 = .fail reason ∧
        SameBytes relay (recordTransfer options relay streamId bytes).2 := by
  unfold recordTransfer
  split
  · exact .inr ⟨_, rfl, .refl relay⟩
  · rename_i stream hopen
    obtain ⟨hstored, rfl, -⟩ := openStream_stored hkeyed hopen
    rcases recordStreamTransfer_rejected options hstored bytes with ⟨warning, hout⟩ | hfail
    · exact .inl ⟨_, warning, hout⟩
    · exact .inr hfail

theorem relayEcho_rejected {relay : Simulation} (hkeyed : Keyed relay.traffic) (streamId : Nat) (payload : Payload) :
    (relayEcho options relay streamId payload).1.isRejection = true →
      SameBytes relay (relayEcho options relay streamId payload).2 := by
  unfold relayEcho
  split
  · exact fun _ => .refl relay
  · split
    · exact fun _ => .refl relay
    · rename_i bytes hbytes
      have hcases := recordTransfer_rejected options hkeyed streamId (some (bytes : Int))
      rcases htransfer : recordTransfer options relay streamId (some (bytes : Int)) with ⟨out, relay'⟩
      rw [htransfer] at hcases
      rcases hcases with ⟨stream, warning, rfl, hsome⟩ | ⟨reason, rfl, hsame⟩
      · -- After a transfer the stream is still there, so the frames are delivered.
        dsimp only
        split
        · rename_i hnone
          rw [hnone] at hsome
          cases hsome
        · exact fun h => nomatch h
      · exact fun _ => hsame

/-- The two ways to move bytes. -/
def Operation.isTransfer : Operation → Bool
  | .recordTransfer _ _ | .relayEcho _ _ => true
  | _ => false

theorem transfer_rejected {relay : Simulation} (hkeyed : Keyed relay.traffic) {operation : Operation}
    (htransfer : operation.isTransfer = true) (h : (step options relay operation).1.isRejection = true) :
    SameBytes relay (step options relay operation).2 := by
  cases operation with
  | recordTransfer streamId bytes =>
    change (recordTransfer options relay streamId bytes).1.isRejection = true at h
    rcases recordTransfer_rejected options hkeyed streamId bytes with ⟨stream, warning, hout, -⟩ | ⟨reason, -, hsame⟩
    · rw [hout] at h
      cases h
    · exact hsame
  | relayEcho streamId payload => exact relayEcho_rejected hkeyed streamId payload h
  | _ => cases htransfer

/-- In every state, the bytes relayed are the bytes of the streams, of the rooms and of the hosts; each room and each
host has the bytes of its own streams and stays within its quota; a rejected transfer moves nothing. -/
theorem bytes_conserved (options : Options) (now : Int) (operations : List Operation) :
    let relay := run options now operations
    relay.metrics.bytesRelayed = (relay.streams.values.map Stream.bytes).sum ∧
      relay.metrics.bytesRelayed = relay.roomBytes.values.sum ∧
      relay.metrics.bytesRelayed = relay.monthlyHostBytes.values.sum ∧
      (∀ roomId, (relay.roomBytes.get roomId).getD 0 =
          bytesWhere relay.streams (fun stream => stream.roomId == roomId) ∧
        (relay.roomBytes.get roomId).getD 0 ≤ options.quotas.maxRoomBytes) ∧
      (∀ hostId, (relay.monthlyHostBytes.get hostId).getD 0 =
          bytesWhere relay.streams (fun stream => stream.hostId == hostId) ∧
        (relay.monthlyHostBytes.get hostId).getD 0 ≤ options.quotas.maxMonthlyHostBytes) ∧
      ∀ operation, operation.isTransfer = true → (step options relay operation).1.isRejection = true →
        SameBytes relay (step options relay operation).2 := by
  intro relay
  have h : Conserved options relay.traffic := .run options now operations
  refine ⟨?_, ?_, ?_, fun roomId => ⟨h.rooms.own roomId, h.rooms.bounded roomId⟩,
    fun hostId => ⟨h.hosts.own hostId, h.hosts.bounded hostId⟩,
    fun operation htransfer hrejected => transfer_rejected (.run options now operations) htransfer hrejected⟩
  · rw [← JsMap.total_values]
    exact h.relayed
  · exact h.rooms.sum
  · exact h.hosts.sum

end EasyMc.Relay
