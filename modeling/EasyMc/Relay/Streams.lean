import EasyMc.Relay.Traffic

/-!
# Tunnels and streams

An open stream uses the tunnel that is stored for its room, and that tunnel is open; a room has at most as many open
streams as the quota allows (`open_streams_linked`).  Each change either keeps a stream's tunnel or takes the stream
out of the open state (`Inherits`), and a tunnel is closed together with its streams.
-/

namespace EasyMc.Relay

variable {options : Options} {R : Rules} {t t' : Traffic}

/-! ### Links -/

/-- The stream uses the open tunnel that is stored for its room. -/
def LinkedTo (t : Traffic) (stream : Stream) : Prop :=
  ∃ tunnel, t.hostTunnels.get stream.roomId = some tunnel ∧ tunnel.id = stream.tunnelId ∧ tunnel.state = .opened ∧
    tunnel.hostId = stream.hostId ∧ isMinecraftLoopbackTarget (some tunnel.target) = true

/-- Every open stream is linked, those of the tunnel `gone` excepted. -/
def LinkedExcept (gone : Option Nat) (t : Traffic) : Prop :=
  ∀ k stream, t.streams.get k = some stream → stream.state = .opened → some stream.tunnelId ≠ gone →
    LinkedTo t stream

/-- The new stream is open only if the old one was, and uses the same tunnel. -/
def Inherits (old stream : Stream) : Prop :=
  stream.state = .opened → old.state = .opened ∧ stream.roomId = old.roomId ∧ stream.tunnelId = old.tunnelId ∧
    stream.hostId = old.hostId

theorem LinkedTo.of_inherits {old stream : Stream} (hroom : stream.roomId = old.roomId)
    (htunnel : stream.tunnelId = old.tunnelId) (hhost : stream.hostId = old.hostId) (h : LinkedTo t old) :
    LinkedTo t stream := by
  obtain ⟨tunnel, hstored, hid, hopened, hhostId, htarget⟩ := h
  exact ⟨tunnel, hroom ▸ hstored, hid.trans htunnel.symm, hopened, hhostId.trans hhost.symm, htarget⟩

theorem LinkedExcept.setStream {gone : Option Nat} (h : LinkedExcept gone t) {old : Stream}
    (hstored : t.streams.get old.id = some old) {stream : Stream}
    (hstreams : t'.streams = t.streams.set old.id stream) (htunnels : t'.hostTunnels = t.hostTunnels)
    (hinherits : Inherits old stream) :
    LinkedExcept gone t' := by
  intro k s hk hopened hgone
  have hlinked : LinkedTo t s := by
    rw [hstreams] at hk
    rcases JsMap.get_set_cases hk with ⟨-, rfl⟩ | ⟨-, hk⟩
    · obtain ⟨hold, hroom, htunnel, hhost⟩ := hinherits hopened
      exact (h old.id old hstored hold (htunnel ▸ hgone)).of_inherits hroom htunnel hhost
    · exact h k s hk hopened hgone
  unfold LinkedTo at hlinked ⊢
  rw [htunnels]
  exact hlinked

theorem LinkedExcept.closeStream {gone : Option Nat} (h : LinkedExcept gone t) (hclose : CloseStream t t') :
    LinkedExcept gone t' := by
  cases hclose with
  | close stream closedAt stored notClosed => exact h.setStream stored rfl rfl fun ho => StreamState.noConfusion ho

/-- Tunnels lead to the Minecraft port of the host's own machine. -/
def TunnelsLoopback (t : Traffic) : Prop :=
  ∀ k tunnel, t.hostTunnels.get k = some tunnel → isMinecraftLoopbackTarget (some tunnel.target) = true

theorem TunnelsLoopback.closeStream (h : TunnelsLoopback t) (hclose : CloseStream t t') : TunnelsLoopback t' := by
  cases hclose with
  | close => exact h

theorem TunnelsLoopback.set (h : TunnelsLoopback t) {key : Option String} {tunnel : HostTunnel}
    (htunnels : t'.hostTunnels = t.hostTunnels.set key tunnel)
    (htarget : isMinecraftLoopbackTarget (some tunnel.target) = true) : TunnelsLoopback t' := by
  intro k u hk
  rw [htunnels] at hk
  rcases JsMap.get_set_cases hk with ⟨-, rfl⟩ | ⟨-, hk⟩
  · exact htarget
  · exact h k u hk

theorem TunnelsLoopback.change (h : TunnelsLoopback t) (hchange : Change options R t t') : TunnelsLoopback t' := by
  cases hchange with
  | openTunnel tunnel id opened target free => exact h.set rfl target
  | closeTunnel tunnel closedAt stored closes all =>
    have htarget : isMinecraftLoopbackTarget (some tunnel.target) = true := h tunnel.roomId tunnel stored
    exact closeStreams_invariant (fun _ _ => TunnelsLoopback.closeStream) closes (h.set rfl htarget)
  | closeStream closes => cases closes with | close => exact h
  | openStream | failStream | transfer | echo => exact h

theorem LinkedExcept.change (hloopback : TunnelsLoopback t) (h : LinkedExcept none t)
    (hchange : Change options R t t') : LinkedExcept none t' := by
  cases hchange with
  | openTunnel tunnel id opened target free =>
    intro k stream hk hopened hgone
    obtain ⟨u, hstored, hid, huopened, hhost, htarget⟩ := h k stream hk hopened hgone
    have hne : tunnel.roomId ≠ stream.roomId := fun he => free u (he ▸ hstored) huopened
    exact ⟨u, (JsMap.get_set_ne _ _ hne).trans hstored, hid, huopened, hhost, htarget⟩
  | closeTunnel tunnel closedAt stored closes all =>
    -- The streams of other tunnels are not affected, and those of this one are closed in the end.
    have hset : LinkedExcept (some tunnel.id)
        { t with hostTunnels := t.hostTunnels.set tunnel.roomId { tunnel with state := .closed
                                                                              closedAt := some closedAt } } := by
      intro k stream hk hopened hgone
      obtain ⟨u, hstored, hid, huopened, hhost, htarget⟩ := h k stream hk hopened (by simp)
      have hne : tunnel.roomId ≠ stream.roomId := by
        intro he
        obtain rfl := Option.some.inj (stored.symm.trans (he ▸ hstored))
        exact hgone (congrArg some hid.symm)
      exact ⟨u, (JsMap.get_set_ne _ _ hne).trans hstored, hid, huopened, hhost, htarget⟩
    intro k stream hk hopened _
    have hcloses := closeStreams_invariant (fun _ _ => LinkedExcept.closeStream) closes hset
    exact hcloses k stream hk hopened fun he => all k stream hk (Option.some.inj he) hopened
  | openStream stream tunnel id opened empty stored tunnelId hostId tunnelOpened members allowed =>
    intro k s hk hsopened hgone
    change (t.streams.set stream.id stream).get k = some s at hk
    rcases JsMap.get_set_cases hk with ⟨-, rfl⟩ | ⟨-, hk⟩
    · exact ⟨tunnel, stored, tunnelId.symm, tunnelOpened, hostId.symm, hloopback _ _ stored⟩
    · exact h k s hk hsopened hgone
  | closeStream closes => exact h.closeStream closes
  | failStream stream stored closed => exact h.setStream stored rfl rfl fun ho => StreamState.noConfusion ho
  | transfer stream bytes lastActivityAt stored opened room host =>
    exact h.setStream stored rfl rfl fun ho => ⟨ho, rfl, rfl, rfl⟩
  | echo stream hostInbox friendInbox stored => exact h.setStream stored rfl rfl fun ho => ⟨ho, rfl, rfl, rfl⟩

/-! ### Members -/

/-- The open streams of a room. -/
def memberCount (t : Traffic) (roomId : Option String) : Nat :=
  t.streams.total fun entry => if entry.2.roomId == roomId && entry.2.state == .opened then 1 else 0

theorem activeRoomMemberCount_eq (relay : Simulation) (roomId : Option String) :
    activeRoomMemberCount relay roomId = memberCount relay.traffic roomId :=
  JsMap.length_filter_values _ _

theorem memberCount_le_of_inherits {old stream : Stream} (hstored : t.streams.get old.id = some old)
    (hstreams : t'.streams = t.streams.set old.id stream) (hinherits : Inherits old stream)
    (roomId : Option String) : memberCount t' roomId ≤ memberCount t roomId := by
  unfold memberCount
  rw [hstreams]
  apply JsMap.total_set_le _ hstored
  by_cases hopened : stream.state = .opened
  · obtain ⟨hold, hroom, -⟩ := hinherits hopened
    simp [hopened, hold, hroom]
  · simp [hopened]

/-- No room has more members than the quota. -/
def MembersBounded (options : Options) (t : Traffic) : Prop :=
  ∀ roomId, memberCount t roomId ≤ options.quotas.maxRoomMembers

theorem MembersBounded.setStream (h : MembersBounded options t) {old stream : Stream}
    (hstored : t.streams.get old.id = some old) (hstreams : t'.streams = t.streams.set old.id stream)
    (hinherits : Inherits old stream) : MembersBounded options t' := fun roomId =>
  (memberCount_le_of_inherits hstored hstreams hinherits roomId).trans (h roomId)

theorem MembersBounded.closeStream (h : MembersBounded options t) (hclose : CloseStream t t') :
    MembersBounded options t' := by
  cases hclose with
  | close stream closedAt stored notClosed => exact h.setStream stored rfl fun ho => StreamState.noConfusion ho

theorem MembersBounded.change (hkeyed : Keyed t) (h : MembersBounded options t) (hchange : Change options R t t') :
    MembersBounded options t' := by
  cases hchange with
  | openTunnel tunnel id opened target free => exact h
  | closeTunnel tunnel closedAt stored closes all =>
    exact closeStreams_invariant (fun _ _ => MembersBounded.closeStream) closes h
  | openStream stream tunnel id opened empty stored tunnelId hostId tunnelOpened members allowed =>
    -- Only the room of the new stream gets a member, and its members were counted before.
    intro roomId
    have hroom := h roomId
    have hnew : t.streams.get stream.id = none := hkeyed.stream_fresh id
    have hcount : memberCount t stream.roomId < options.quotas.maxRoomMembers := by
      rw [JsMap.length_filter_values] at members
      exact members
    have htotal := JsMap.total_set_new
      (fun entry : Nat × Stream => if entry.2.roomId == roomId && entry.2.state == .opened then 1 else 0) stream hnew
    unfold memberCount at hroom hcount ⊢
    rw [htotal]
    by_cases hsame : stream.roomId = roomId
    · subst hsame
      simp only [opened, beq_self_eq_true, Bool.and_self, if_true]
      exact hcount
    · simpa [hsame] using hroom
  | closeStream closes => exact h.closeStream closes
  | failStream stream stored closed => exact h.setStream stored rfl fun ho => StreamState.noConfusion ho
  | transfer stream bytes lastActivityAt stored opened room host =>
    exact h.setStream stored rfl fun ho => ⟨ho, rfl, rfl, rfl⟩
  | echo stream hostInbox friendInbox stored => exact h.setStream stored rfl fun ho => ⟨ho, rfl, rfl, rfl⟩

/-- What holds of tunnels and open streams together. -/
structure Consistent (options : Options) (t : Traffic) : Prop where
  loopback : TunnelsLoopback t
  linked : LinkedExcept none t
  members : MembersBounded options t

theorem Consistent.start (options : Options) (now : Int) : Consistent options (createRelaySimulation now).traffic := by
  constructor
  · exact fun _ _ h => nomatch h
  · exact fun _ _ h => nomatch h
  · exact fun _ => Nat.zero_le _

theorem Consistent.change (hkeyed : Keyed t) (h : Consistent options t) (hchange : Change options R t t') :
    Consistent options t' :=
  { loopback := h.loopback.change hchange, linked := h.linked.change h.loopback hchange,
    members := h.members.change hkeyed hchange }

theorem Consistent.run (options : Options) (now : Int) (operations : List Operation) :
    Consistent options (run options now operations).traffic :=
  (traffic_invariant (P := fun _ _ => True) (fun _ _ _ _ _ hkeyed h hchange => h.change hkeyed hchange)
    (.start now) (.start options now) (.of_forall (P := fun _ => True) (fun _ _ => trivial) _)).2

theorem target_of_loopback {target : Target} (h : isMinecraftLoopbackTarget (some target) = true) :
    target = { kind := some "minecraft", host := some "127.0.0.1", port := some 25565 } := by
  obtain ⟨kind, host, port⟩ := target
  simpa [isMinecraftLoopbackTarget, and_assoc] using h

/-- Every open stream uses the tunnel stored for its room, which is open, belongs to the stream's host and leads to
the Minecraft port of the host's own machine; no room has more open streams than the quota allows. -/
theorem open_streams_linked (options : Options) (now : Int) (operations : List Operation) :
    (∀ streamId stream, (run options now operations).streams.get streamId = some stream → stream.state = .opened →
      ∃ tunnel, (run options now operations).hostTunnels.get stream.roomId = some tunnel ∧
        tunnel.id = stream.tunnelId ∧ tunnel.state = .opened ∧ tunnel.hostId = stream.hostId ∧
        tunnel.target = { kind := some "minecraft", host := some "127.0.0.1", port := some 25565 }) ∧
      ∀ roomId, activeRoomMemberCount (run options now operations) roomId ≤ options.quotas.maxRoomMembers := by
  have h : Consistent options (run options now operations).traffic := .run options now operations
  constructor
  · intro streamId stream hstored hopened
    obtain ⟨tunnel, htunnel, hid, hstate, hhost, htarget⟩ := h.linked streamId stream hstored hopened (by simp)
    exact ⟨tunnel, htunnel, hid, hstate, hhost, target_of_loopback htarget⟩
  · intro roomId
    rw [activeRoomMemberCount_eq]
    exact h.members roomId

end EasyMc.Relay
