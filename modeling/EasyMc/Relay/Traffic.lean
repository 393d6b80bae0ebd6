import Mathlib.Logic.Relation
import EasyMc.Library.Machine
import EasyMc.Relay.Simulation

/-!
# What the operations do to the traffic

The traffic of a relay are its tunnels, its streams and the counters that are kept about them.  `Change` lists the
changes an operation can make to the traffic, each with what was checked before it.  Every operation makes a
sequence of changes (`step_changes`); the invariants of the relay are proved from the changes alone.
-/

namespace EasyMc.Relay

/-- The tunnels, the streams and their counters. -/
structure Traffic where
  nextId : Nat
  hostTunnels : JsMap (Option String) HostTunnel
  streams : JsMap Nat Stream
  roomBytes : JsMap (Option String) Nat
  monthlyHostBytes : JsMap (Option String) Nat
  friendStreamsOpened : Nat
  friendStreamsClosed : Nat
  bytesRelayed : Nat

def Simulation.traffic (relay : Simulation) : Traffic :=
  { nextId := relay.nextId, hostTunnels := relay.hostTunnels, streams := relay.streams,
    roomBytes := relay.roomBytes, monthlyHostBytes := relay.monthlyHostBytes,
    friendStreamsOpened := relay.metrics.friendStreamsOpened,
    friendStreamsClosed := relay.metrics.friendStreamsClosed, bytesRelayed := relay.metrics.bytesRelayed }

/-- A stream that is not closed is closed and counted. -/
inductive CloseStream : Traffic → Traffic → Prop
  | close {t : Traffic} (stream : Stream) (closedAt : Int) (stored : t.streams.get stream.id = some stream)
      (notClosed : stream.state ≠ .closed) :
      CloseStream t { t with
        streams := t.streams.set stream.id { stream with state := .closed, closedAt := some closedAt }
        friendStreamsClosed := t.friendStreamsClosed + 1 }

/-- What has to hold when a closed stream leaves its state, and when a stream is opened. -/
structure Rules where
  reopens : Prop
  opens : Prop

/-- One change of the traffic. -/
inductive Change (options : Options) (rules : Rules) : Traffic → Traffic → Prop
  | openTunnel {t : Traffic} (tunnel : HostTunnel) (id : tunnel.id = t.nextId) (opened : tunnel.state = .opened)
      (target : isMinecraftLoopbackTarget (some tunnel.target) = true)
      (free : ∀ old, t.hostTunnels.get tunnel.roomId = some old → old.state ≠ .opened) :
      Change options rules t
        { t with nextId := t.nextId + 1, hostTunnels := t.hostTunnels.set tunnel.roomId tunnel }
  | closeTunnel {t t' : Traffic} (tunnel : HostTunnel) (closedAt : Int)
      (stored : t.hostTunnels.get tunnel.roomId = some tunnel)
      (closes : Relation.ReflTransGen CloseStream
        { t with hostTunnels :=
            t.hostTunnels.set tunnel.roomId { tunnel with state := .closed, closedAt := some closedAt } } t')
      (all : ∀ k stream, t'.streams.get k = some stream → stream.tunnelId = tunnel.id → stream.state ≠ .opened) :
      Change options rules t t'
  | openStream {t : Traffic} (stream : Stream) (tunnel : HostTunnel) (id : stream.id = t.nextId)
      (opened : stream.state = .opened) (empty : stream.bytes = 0)
      (stored : t.hostTunnels.get stream.roomId = some tunnel) (tunnelId : stream.tunnelId = tunnel.id)
      (hostId : stream.hostId = tunnel.hostId) (tunnelOpened : tunnel.state = .opened)
      (members : (t.streams.values.filter fun s => s.roomId == stream.roomId && s.state == .opened).length <
        options.quotas.maxRoomMembers)
      (allowed : rules.opens) :
      Change options rules t
        { t with nextId := t.nextId + 1, streams := t.streams.set stream.id stream
                 friendStreamsOpened := t.friendStreamsOpened + 1 }
  | closeStream {t t' : Traffic} (closes : CloseStream t t') : Change options rules t t'
  | failStream {t : Traffic} (stream : Stream) (stored : t.streams.get stream.id = some stream)
      (closed : stream.state = .closed → rules.reopens) :
      Change options rules t
        { t with streams := t.streams.set stream.id { stream with state := .disconnectFailed } }
  | transfer {t : Traffic} (stream : Stream) (bytes : Nat) (lastActivityAt : Int)
      (stored : t.streams.get stream.id = some stream) (opened : stream.state = .opened)
      (room : (t.roomBytes.get stream.roomId).getD 0 + bytes ≤ options.quotas.maxRoomBytes)
      (host : (t.monthlyHostBytes.get stream.hostId).getD 0 + bytes ≤ options.quotas.maxMonthlyHostBytes) :
      Change options rules t
        { t with
          streams := t.streams.set stream.id { stream with bytes := stream.bytes + bytes
                                                           lastActivityAt := lastActivityAt }
          roomBytes := t.roomBytes.set stream.roomId ((t.roomBytes.get stream.roomId).getD 0 + bytes)
          monthlyHostBytes :=
            t.monthlyHostBytes.set stream.hostId ((t.monthlyHostBytes.get stream.hostId).getD 0 + bytes)
          bytesRelayed := t.bytesRelayed + bytes }
  | echo {t : Traffic} (stream : Stream) (hostInbox friendInbox : List Frame)
      (stored : t.streams.get stream.id = some stream) :
      Change options rules t
        { t with streams := t.streams.set stream.id { stream with hostInbox := hostInbox
                                                                  friendInbox := friendInbox } }

/-- A sequence of changes. -/
abbrev Changes (options : Options) (rules : Rules) : Traffic → Traffic → Prop :=
  Relation.ReflTransGen (Change options rules)

/-! ### Keys -/

/-- Tunnels and streams are stored under their own room and id, and ids come from the counter. -/
structure Keyed (t : Traffic) : Prop where
  tunnel : ∀ k tunnel, t.hostTunnels.get k = some tunnel → tunnel.roomId = k ∧ tunnel.id < t.nextId
  tunnelId : ∀ k k' tunnel tunnel', t.hostTunnels.get k = some tunnel → t.hostTunnels.get k' = some tunnel' →
    tunnel.id = tunnel'.id → k = k'
  stream : ∀ k stream, t.streams.get k = some stream → stream.id = k ∧ k < t.nextId

theorem Keyed.start (now : Int) : Keyed (createRelaySimulation now).traffic := by
  constructor <;> simp [createRelaySimulation, Simulation.traffic]

theorem Keyed.stream_fresh {t : Traffic} (h : Keyed t) {id : Nat} (hid : id = t.nextId) : t.streams.get id = none := by
  refine Option.eq_none_iff_forall_not_mem.2 fun stream hstored => ?_
  have hlt := (h.stream id stream hstored).2
  omega

/-- A stream may be replaced by one with the same id. -/
theorem Keyed.setStream {t : Traffic} (h : Keyed t) {old : Stream} (hstored : t.streams.get old.id = some old)
    (stream : Stream) (hid : stream.id = old.id) : Keyed { t with streams := t.streams.set old.id stream } := by
  refine { h with stream := ?_ }
  intro k s hk
  change (t.streams.set old.id stream).get k = some s at hk
  rcases JsMap.get_set_cases hk with ⟨hke, rfl⟩ | ⟨-, hk⟩
  · exact ⟨hid.trans hke, hke ▸ (h.stream _ _ hstored).2⟩
  · exact h.stream k s hk

/-- A tunnel may be replaced by one with the same room and id. -/
theorem Keyed.setTunnel {t : Traffic} (h : Keyed t) {old : HostTunnel}
    (hstored : t.hostTunnels.get old.roomId = some old) (tunnel : HostTunnel) (hroom : tunnel.roomId = old.roomId)
    (hid : tunnel.id = old.id) : Keyed { t with hostTunnels := t.hostTunnels.set old.roomId tunnel } := by
  have hget : ∀ k u, (t.hostTunnels.set old.roomId tunnel).get k = some u →
      ∃ u', t.hostTunnels.get k = some u' ∧ u'.id = u.id ∧ u.roomId = u'.roomId := by
    intro k u hk
    rcases JsMap.get_set_cases hk with ⟨hke, rfl⟩ | ⟨-, hk⟩
    · exact ⟨old, hke ▸ hstored, hid.symm, hroom⟩
    · exact ⟨u, hk, rfl, rfl⟩
  refine { h with tunnel := ?_, tunnelId := ?_ }
  · intro k u hk
    obtain ⟨u', hu', hid', hroom'⟩ := hget k u hk
    obtain ⟨hk', hlt⟩ := h.tunnel k u' hu'
    exact ⟨hroom'.trans hk', hid' ▸ hlt⟩
  · intro k k' u v hk hk' huv
    obtain ⟨u', hu', hid', -⟩ := hget k u hk
    obtain ⟨v', hv', hid'', -⟩ := hget k' v hk'
    exact h.tunnelId k k' u' v' hu' hv' (hid'.trans (huv.trans hid''.symm))

theorem Keyed.closeStream {t t' : Traffic} (h : Keyed t) (hclose : CloseStream t t') : Keyed t' := by
  cases hclose with
  | close stream closedAt stored notClosed =>
    have h' := h.setStream stored { stream with state := .closed, closedAt := some closedAt } rfl
    exact ⟨h'.tunnel, h'.tunnelId, h'.stream⟩

/-- What closing one stream keeps, closing several keeps. -/
theorem closeStreams_invariant {I : Traffic → Prop} (hclose : ∀ t t', I t → CloseStream t t' → I t') {t t' : Traffic}
    (hcloses : Relation.ReflTransGen CloseStream t t') (h : I t) : I t' := by
  induction hcloses with
  | refl => exact h
  | tail _ hc ih => exact hclose _ _ ih hc

variable {options : Options} {rules : Rules}

theorem Keyed.change {t t' : Traffic} (h : Keyed t) (hchange : Change options rules t t') : Keyed t' := by
  cases hchange with
  | openTunnel tunnel id opened target free =>
    refine ⟨?_, ?_, fun k s hk => ⟨(h.stream k s hk).1, (h.stream k s hk).2.trans (Nat.lt_succ_self _)⟩⟩
    · intro k u hk
      change (t.hostTunnels.set tunnel.roomId tunnel).get k = some u at hk
      show u.roomId = k ∧ u.id < t.nextId + 1
      rcases JsMap.get_set_cases hk with ⟨hke, rfl⟩ | ⟨-, hk⟩
      · exact ⟨hke, by omega⟩
      · obtain ⟨hroom, hlt⟩ := h.tunnel k u hk
        exact ⟨hroom, by omega⟩
    · -- The new tunnel's id is larger than those of the others.
      intro k k' u v hk hk' huv
      change (t.hostTunnels.set tunnel.roomId tunnel).get k = some u at hk
      change (t.hostTunnels.set tunnel.roomId tunnel).get k' = some v at hk'
      rcases JsMap.get_set_cases hk with ⟨rfl, rfl⟩ | ⟨-, hk⟩ <;>
        rcases JsMap.get_set_cases hk' with ⟨hroom, rfl⟩ | ⟨-, hk'⟩
      · exact hroom
      · have hlt := (h.tunnel k' v hk').2
        omega
      · have hlt := (h.tunnel k u hk).2
        omega
      · exact h.tunnelId k k' u v hk hk' huv
  | closeTunnel tunnel closedAt stored closes all =>
    have h' := h.setTunnel stored { tunnel with state := .closed, closedAt := some closedAt } rfl rfl
    exact closeStreams_invariant (fun _ _ => Keyed.closeStream) closes h'
  | openStream stream tunnel id opened empty stored tunnelId hostId tunnelOpened members allowed =>
    refine ⟨fun k u hk => ⟨(h.tunnel k u hk).1, (h.tunnel k u hk).2.trans (Nat.lt_succ_self _)⟩, h.tunnelId, ?_⟩
    intro k s hk
    change (t.streams.set stream.id stream).get k = some s at hk
    show s.id = k ∧ k < t.nextId + 1
    rcases JsMap.get_set_cases hk with ⟨hke, rfl⟩ | ⟨-, hk⟩
    · exact ⟨hke, by omega⟩
    · obtain ⟨hid, hlt⟩ := h.stream k s hk
      exact ⟨hid, by omega⟩
  | closeStream closes => exact h.closeStream closes
  | failStream stream stored closed => exact h.setStream stored _ rfl
  | transfer stream bytes lastActivityAt stored opened room host =>
    have h' := h.setStream stored { stream with bytes := stream.bytes + bytes, lastActivityAt := lastActivityAt } rfl
    exact ⟨h'.tunnel, h'.tunnelId, h'.stream⟩
  | echo stream hostInbox friendInbox stored => exact h.setStream stored _ rfl

theorem Keyed.changes {t t' : Traffic} (h : Keyed t) (hchanges : Changes options rules t t') : Keyed t' := by
  induction hchanges with
  | refl => exact h
  | tail _ hchange ih => exact ih.change hchange

/-! ### Closing streams and tunnels -/

@[simp] theorem recordEvent_traffic (options : Options) (relay : Simulation) (type : String)
    (metadata : EventMetadata) : (recordEvent options relay type metadata).traffic = relay.traffic := rfl

theorem closeStream_closed {relay : Simulation} {stream : Stream} (reason : String) (h : stream.state = .closed) :
    closeStream options relay stream reason = relay := by
  simp only [closeStream, h, if_true]

theorem closeStream_traffic {relay : Simulation} {stream : Stream} (reason : String) (h : stream.state ≠ .closed) :
    (closeStream options relay stream reason).traffic =
      { relay.traffic with
        streams := relay.streams.set stream.id { stream with state := .closed, closedAt := some relay.now }
        friendStreamsClosed := relay.metrics.friendStreamsClosed + 1 } := by
  simp only [closeStream, if_neg h]
  rfl

theorem closeStream_closes {relay : Simulation} {stream : Stream} (reason : String)
    (hstored : relay.streams.get stream.id = some stream) (h : stream.state ≠ .closed) :
    CloseStream relay.traffic (closeStream options relay stream reason).traffic := by
  rw [closeStream_traffic reason h]
  exact .close stream relay.now hstored h

theorem Keyed.streamIds_nodup {t : Traffic} (h : Keyed t) : (t.streams.values.map Stream.id).Nodup := by
  have hkeys : t.streams.values.map Stream.id = t.streams.entries.map Prod.fst := by
    unfold JsMap.values
    rw [List.map_map]
    refine List.map_congr_left fun entry hentry => ?_
    obtain ⟨k, stream⟩ := entry
    exact (h.stream k stream (JsMap.mem_entries_iff.1 hentry)).1
  rw [hkeys]
  exact t.streams.nodupKeys

/-- The open streams of a tunnel are closed one after the other. -/
theorem closeTunnelStreams_closes (options : Options) (tunnelId : Nat) (reason : String) (streams : List Stream)
    (relay : Simulation) (hkeyed : Keyed relay.traffic) (hnodup : (streams.map Stream.id).Nodup)
    (hstored : ∀ stream ∈ streams, relay.streams.get stream.id = some stream)
    (hall : ∀ k stream, relay.streams.get k = some stream → stream.tunnelId = tunnelId → stream.state = .opened →
      stream ∈ streams) (closedStreams : Nat) :
    let relay' := (closeTunnelStreams options tunnelId reason streams (relay, closedStreams)).1
    Relation.ReflTransGen CloseStream relay.traffic relay'.traffic ∧
      ∀ k stream, relay'.streams.get k = some stream → stream.tunnelId = tunnelId → stream.state ≠ .opened := by
  induction streams generalizing relay closedStreams with
  | nil => exact ⟨.refl, fun k stream hk ht ho => by simpa using hall k stream hk ht ho⟩
  | cons stream streams ih =>
    rw [List.map_cons, List.nodup_cons] at hnodup
    unfold closeTunnelStreams
    split
    · rename_i hopen
      have hnotClosed : stream.state ≠ .closed := by rw [hopen.2]; decide
      have hself := hstored stream (by simp)
      have hclose : CloseStream relay.traffic (closeStream options relay stream reason).traffic :=
        closeStream_closes reason hself hnotClosed
      have hstreams : (closeStream options relay stream reason).streams =
          relay.streams.set stream.id { stream with state := .closed, closedAt := some relay.now } :=
        congrArg Traffic.streams (closeStream_traffic reason hnotClosed)
      obtain ⟨hcloses, hnone⟩ := ih _ (hkeyed.closeStream hclose) hnodup.2
        (fun s hs => by
          have hne : stream.id ≠ s.id := fun he => hnodup.1 (he ▸ List.mem_map_of_mem hs)
          rw [hstreams, JsMap.get_set_ne _ _ hne]
          exact hstored s (by simp [hs]))
        (fun k s hk ht ho => by
          rw [hstreams] at hk
          rcases JsMap.get_set_cases hk with ⟨-, rfl⟩ | ⟨hke, hold⟩
          · cases ho
          · rcases List.mem_cons.1 (hall k s hold ht ho) with rfl | hs
            · exact absurd (hkeyed.stream k s hold).1 hke
            · exact hs) (closedStreams + 1)
      exact ⟨.head hclose hcloses, hnone⟩
    · rename_i hopen
      refine ih relay hkeyed hnodup.2 (fun s hs => hstored s (by simp [hs])) (fun k s hk ht ho => ?_) closedStreams
      rcases List.mem_cons.1 (hall k s hk ht ho) with rfl | hs
      · exact absurd ⟨ht, ho⟩ hopen
      · exact hs

theorem findTunnel_stored {relay : Simulation} (hkeyed : Keyed relay.traffic) {request : CloseTunnelRequest}
    {key : Option String} {tunnel : HostTunnel} (h : findTunnel relay request = some (key, tunnel)) :
    relay.hostTunnels.get key = some tunnel ∧ tunnel.roomId = key := by
  have hget : relay.hostTunnels.get key = some tunnel := by
    unfold findTunnel at h
    split at h
    · exact JsMap.mem_entries_iff.1 (List.mem_of_find?_eq_some h)
    · obtain ⟨u, hu, he⟩ := Option.map_eq_some_iff.1 h
      obtain ⟨rfl, rfl⟩ := Prod.mk.inj he
      exact hu
  exact ⟨hget, (hkeyed.tunnel key tunnel hget).1⟩

theorem findTunnel_id {relay : Simulation} (hkeyed : Keyed relay.traffic) {request : CloseTunnelRequest}
    {tunnel : HostTunnel} (hstored : relay.hostTunnels.get tunnel.roomId = some tunnel)
    (hid : request.tunnelId = some tunnel.id) : findTunnel relay request = some (tunnel.roomId, tunnel) := by
  unfold findTunnel
  rw [hid]
  dsimp only
  rcases hfind : relay.hostTunnels.entries.find? fun entry => entry.2.id == tunnel.id with _ | ⟨key, found⟩
  · have hmem := JsMap.mem_entries_iff.2 hstored
    simpa using List.find?_eq_none.1 hfind _ hmem
  · have hget := JsMap.mem_entries_iff.1 (List.mem_of_find?_eq_some hfind)
    have hsame : found.id = tunnel.id := by simpa using List.find?_some hfind
    obtain rfl := hkeyed.tunnelId _ _ _ _ hget hstored hsame
    obtain rfl := Option.some.inj (hget.symm.trans hstored)
    exact hfind

theorem closeHostTunnel_changes {relay : Simulation} (hkeyed : Keyed relay.traffic) (request : CloseTunnelRequest) :
    Changes options rules relay.traffic (closeHostTunnel options relay request).2.traffic := by
  unfold closeHostTunnel
  split
  · exact .refl
  · rename_i key tunnel hfind
    obtain ⟨hstored, rfl⟩ := findTunnel_stored hkeyed hfind
    split
    · exact .refl
    · split
      · exact .refl
      · have hset := hkeyed.setTunnel hstored { tunnel with state := .closed, closedAt := some relay.now } rfl rfl
        have hvalues : ∀ stream ∈ relay.streams.values, relay.streams.get stream.id = some stream := by
          intro stream hs
          obtain ⟨k, hk⟩ := JsMap.mem_values_iff.1 hs
          rw [(hkeyed.stream k stream hk).1]
          exact hk
        obtain ⟨hcloses, hnone⟩ := closeTunnelStreams_closes options tunnel.id
          (request.reason.getD "host_closed") relay.streams.values
          { relay with
            hostTunnels := relay.hostTunnels.set tunnel.roomId
              { tunnel with state := .closed, closedAt := some relay.now }
            metrics := { relay.metrics with hostTunnelsClosed := relay.metrics.hostTunnelsClosed + 1 } }
          hset hkeyed.streamIds_nodup hvalues (fun k stream hk _ _ => JsMap.mem_values_iff.2 ⟨k, hk⟩) 0
        exact .single (.closeTunnel tunnel relay.now hstored hcloses hnone)

theorem closeTunnelStreams_hostTunnels (options : Options) (tunnelId : Nat) (reason : String) (streams : List Stream)
    (relay : Simulation) (closedStreams : Nat) :
    (closeTunnelStreams options tunnelId reason streams (relay, closedStreams)).1.hostTunnels = relay.hostTunnels := by
  induction streams generalizing relay closedStreams with
  | nil => rfl
  | cons stream streams ih =>
    unfold closeTunnelStreams
    split
    · rename_i hopen
      rw [ih]
      exact congrArg Traffic.hostTunnels (closeStream_traffic reason (by rw [hopen.2]; decide))
    · exact ih relay closedStreams

/-- After its host has closed it, the room's tunnel is not open. -/
theorem closeHostTunnel_frees {relay : Simulation} (hkeyed : Keyed relay.traffic) {tunnel : HostTunnel}
    (hstored : relay.hostTunnels.get tunnel.roomId = some tunnel) {request : CloseTunnelRequest}
    (hid : request.tunnelId = some tunnel.id) (hhost : request.hostId.or tunnel.hostId = tunnel.hostId)
    (hauthorized : hostTunnelAuthorized options tunnel.hostId tunnel.roomId request.hostToken = true)
    {old : HostTunnel} (hold : (closeHostTunnel options relay request).2.hostTunnels.get tunnel.roomId = some old) :
    old.state ≠ .opened := by
  unfold closeHostTunnel at hold
  rw [findTunnel_id hkeyed hstored hid] at hold
  simp only [hhost, hauthorized, ne_eq, not_true_eq_false, Bool.not_true, Bool.false_eq_true, or_self, if_false]
    at hold
  split at hold
  · rename_i hclosed
    obtain rfl := Option.some.inj (hstored.symm.trans hold)
    rw [hclosed]
    decide
  · change (closeTunnelStreams options tunnel.id _ relay.streams.values _).1.hostTunnels.get tunnel.roomId = some old
      at hold
    rw [closeTunnelStreams_hostTunnels, JsMap.get_set_self] at hold
    obtain rfl := Option.some.inj hold
    exact TunnelState.noConfusion

theorem closeReplacedTunnel_changes {relay : Simulation} (hkeyed : Keyed relay.traffic) {request : OpenTunnelRequest}
    (hauthorized : hostTunnelAuthorized options request.hostId request.roomId request.hostToken = true)
    (hconflict : ∀ tunnel, relay.hostTunnels.get request.roomId = some tunnel → tunnel.state = .opened →
      tunnel.hostId = request.hostId) :
    Changes options rules relay.traffic (closeReplacedTunnel options relay request).traffic ∧
      ∀ old, (closeReplacedTunnel options relay request).hostTunnels.get request.roomId = some old →
        old.state ≠ .opened := by
  unfold closeReplacedTunnel
  split
  · rename_i hnone
    refine ⟨.refl, fun old hold => ?_⟩
    rw [hnone] at hold
    cases hold
  · rename_i tunnel hstored
    split
    · rename_i hopen
      have hroom : tunnel.roomId = request.roomId := (hkeyed.tunnel _ _ hstored).1
      have hhost := hconflict tunnel hstored hopen
      refine ⟨closeHostTunnel_changes hkeyed _, fun old hold => ?_⟩
      rw [← hroom] at hstored hold
      refine closeHostTunnel_frees hkeyed hstored rfl ?_ ?_ hold
      · show request.hostId.or tunnel.hostId = tunnel.hostId
        rw [hhost]
        cases request.hostId <;> rfl
      · rw [hhost, hroom]
        exact hauthorized
    · rename_i hopen
      refine ⟨.refl, fun old hold => ?_⟩
      obtain rfl := Option.some.inj (hstored.symm.trans hold)
      exact hopen

theorem openHostTunnel_changes {relay : Simulation} (hkeyed : Keyed relay.traffic) (request : OpenTunnelRequest) :
    Changes options rules relay.traffic (openHostTunnel options relay request).2.traffic := by
  unfold openHostTunnel
  split
  · exact .refl
  · rename_i hauthorized
    split
    · exact .refl
    · rename_i target htarget
      split
      · exact .refl
      · rename_i hloopback
        split
        · exact .refl
        · rename_i hconflict
          have hsame : ∀ tunnel, relay.hostTunnels.get request.roomId = some tunnel → tunnel.state = .opened →
              tunnel.hostId = request.hostId := by
            intro tunnel hstored hopen
            rw [hstored] at hconflict
            simpa [hopen] using hconflict
          obtain ⟨hchanges, hfree⟩ :
              Changes options rules relay.traffic (closeReplacedTunnel options relay request).traffic ∧ _ :=
            closeReplacedTunnel_changes hkeyed (by simpa using hauthorized) hsame
          exact hchanges.tail (.openTunnel
            { id := (closeReplacedTunnel options relay request).nextId, hostId := request.hostId,
              roomId := request.roomId, target := target, openedAt := (closeReplacedTunnel options relay request).now,
              closedAt := none, state := .opened } rfl rfl (by simpa using hloopback) hfree)

/-! ### Opening streams -/

/-- What `admission` checked. -/
structure Admitted (options : Options) (relay : Simulation) (session : Session) (request : OpenRequest)
    (tunnel : HostTunnel) : Prop where
  token : truthy request.sessionToken = true ∧ session.sessionToken = request.sessionToken
  approved : session.approved = true
  notConsumed : session.consumedAt = none
  notExpired : hasExpired session.expiresAt relay.now = false
  withinDuration : exceedsSession options session.issuedAt relay.now = false
  roomId : session.roomId = request.roomId
  inviteId : truthy session.inviteId = true → session.inviteId = request.inviteId
  friendId : session.friendId = request.friendId
  minecraftUuid : session.minecraftUuid = request.minecraftUuid
  tunnel_stored : relay.hostTunnels.get request.roomId = some tunnel
  tunnelOpened : tunnel.state = .opened
  hostId : truthy session.hostId = true → session.hostId = tunnel.hostId
  target : targetMatchesTunnel request.requestedTarget tunnel.target = true
  members : activeRoomMemberCount relay request.roomId < options.quotas.maxRoomMembers

theorem validateSession_none {now : Int} {session : Session} {request : OpenRequest}
    (h : validateSession options now session request = none) :
    (truthy request.sessionToken = true ∧ session.sessionToken = request.sessionToken) ∧ session.approved = true ∧
      session.consumedAt = none ∧ hasExpired session.expiresAt now = false ∧
      exceedsSession options session.issuedAt now = false ∧ session.roomId = request.roomId ∧
      (truthy session.inviteId = true → session.inviteId = request.inviteId) ∧
      session.friendId = request.friendId ∧ session.minecraftUuid = request.minecraftUuid := by
  unfold validateSession at h
  split_ifs at h with h₁ h₂ h₃ h₄ h₅ h₆ h₇ h₈
  simp only [Bool.or_eq_true, Bool.not_eq_true', bne_iff_ne, not_or, not_not, Bool.not_eq_false] at h₁ h₅ h₇ h₈
  refine ⟨h₁.1, h₁.2, by simpa using h₂, by simpa using h₃, by simpa using h₄, h₅, ?_, h₇, h₈⟩
  intro htruthy
  simpa [htruthy] using h₆

theorem admission_ok {relay : Simulation} {session : Session} {request : OpenRequest} {tunnel : HostTunnel}
    (h : admission options relay session request = .ok tunnel) : Admitted options relay session request tunnel := by
  unfold admission at h
  split at h
  · cases h
  · rename_i hvalid
    obtain ⟨htoken, happroved, hconsumed, hexpired, hduration, hroom, hinvite, hfriend, huuid⟩ :=
      validateSession_none hvalid
    split at h
    · cases h
    · rename_i stored hstored
      split_ifs at h with hopened hhost htarget hmembers
      obtain rfl := Except.ok.inj h
      exact ⟨htoken, happroved, hconsumed, hexpired, hduration, hroom, hinvite, hfriend, huuid, hstored,
        not_not.1 hopened, fun ht => by simpa [ht] using hhost, by simpa using htarget, by omega⟩

/-- How an open ends that has read its session: it fails, or it is admitted with the session object it holds. -/
inductive OpenEnds (options : Options) (relay : Simulation) (request : OpenRequest) (sessionResult : SessionResult) :
    Output × Simulation → Prop
  | failed (reason : RelayFailureReason) :
      OpenEnds options relay request sessionResult (failOpen options relay reason request)
  | opened (object : Nat) (session : Session) (tunnel : HostTunnel) (held : sessionResult = .ok object)
      (stored : relay.objects[object]? = some session) (admitted : admission options relay session request = .ok tunnel) :
      OpenEnds options relay request sessionResult (admitStream options relay request object session tunnel)

theorem openFriendStreamWithSession_ends (options : Options) (relay : Simulation) (request : OpenRequest)
    (sessionResult : SessionResult) :
    OpenEnds options relay request sessionResult
      (openFriendStreamWithSession options relay request sessionResult) := by
  unfold openFriendStreamWithSession
  split
  · exact .failed _
  · rename_i object
    split
    · exact .failed _
    · rename_i session hstored
      split
      · exact .failed _
      · rename_i tunnel hadmission
        exact .opened object session tunnel rfl hstored hadmission

/-- The output that tells of a new stream. -/
def Output.opensStream : Output → Bool
  | .streamOpened _ => true
  | _ => false

theorem openFriendStreamWithSession_changes (relay : Simulation) (request : OpenRequest)
    (sessionResult : SessionResult)
    (hopens : (openFriendStreamWithSession options relay request sessionResult).1.opensStream = true → rules.opens) :
    Changes options rules relay.traffic
      (openFriendStreamWithSession options relay request sessionResult).2.traffic := by
  have hends := openFriendStreamWithSession_ends options relay request sessionResult
  generalize openFriendStreamWithSession options relay request sessionResult = result at hends hopens ⊢
  cases hends with
  | failed reason => exact .refl
  | opened object session tunnel held stored admitted =>
    have h := admission_ok admitted
    exact .single (.openStream (newStream relay session request tunnel) tunnel rfl rfl rfl h.tunnel_stored rfl rfl
      h.tunnelOpened h.members (hopens rfl))

theorem normalizeServiceSessionResult_traffic (relay : Simulation) (result : ServiceResult) :
    (normalizeServiceSessionResult relay result).2.traffic = relay.traffic := by
  rcases result with session | (_ | reason) | _ <;> rfl

theorem readSessionForRequest_traffic (relay : Simulation) (request : OpenRequest) (answer : ServiceAnswer) :
    (readSessionForRequest options relay request answer).2.traffic = relay.traffic := by
  unfold readSessionForRequest
  split
  · split
    · rfl
    · rfl
    · exact normalizeServiceSessionResult_traffic relay _
  · split <;> rfl

theorem openFriendStream_changes (relay : Simulation) (request : OpenRequest) (answer : ServiceAnswer)
    (hopens : (openFriendStream options relay request answer).1.opensStream = true → rules.opens) :
    Changes options rules relay.traffic (openFriendStream options relay request answer).2.traffic := by
  have htraffic : (readSessionForRequest options relay request answer).2.traffic = relay.traffic :=
    readSessionForRequest_traffic relay request answer
  unfold openFriendStream at hopens ⊢
  rcases hread : readSessionForRequest options relay request answer with ⟨reading, relay'⟩
  rw [hread] at htraffic hopens
  rw [← htraffic]
  cases reading with
  | waiting => exact .refl
  | threw => exact .refl
  | ready sessionResult => exact openFriendStreamWithSession_changes relay' request sessionResult hopens

theorem resolveOpen_traffic (relay : Simulation) (open_ : Nat) (result : ServiceResult) :
    (resolveOpen relay open_ result).2.traffic = relay.traffic := by
  unfold resolveOpen
  split
  · exact normalizeServiceSessionResult_traffic relay result
  · rfl

theorem completeOpen_changes (relay : Simulation) (open_ : Nat)
    (hopens : (completeOpen options relay open_).1.opensStream = true → rules.opens) :
    Changes options rules relay.traffic (completeOpen options relay open_).2.traffic := by
  unfold completeOpen at hopens ⊢
  split
  · rename_i request sessionResult hpending
    rw [hpending] at hopens
    exact openFriendStreamWithSession_changes { relay with pending := relay.pending.set open_ .ended } request
      sessionResult hopens
  · exact .refl

/-! ### Transfers -/

theorem openStream_stored {relay : Simulation} (hkeyed : Keyed relay.traffic) {streamId : Nat} {stream : Stream}
    (h : openStream relay streamId = some stream) :
    relay.streams.get stream.id = some stream ∧ stream.id = streamId ∧ stream.state = .opened := by
  obtain ⟨hstored, hopened⟩ := Option.filter_eq_some_iff.1 h
  have hid : stream.id = streamId := (hkeyed.stream _ _ hstored).1
  exact ⟨hid ▸ hstored, hid, by simpa using hopened⟩

theorem quotaStop_closes {relay : Simulation} {stream : Stream}
    (hstored : relay.streams.get stream.id = some stream) (hopened : stream.state = .opened) (closeReason : String)
    (reason : RelayFailureReason) :
    CloseStream relay.traffic (quotaStop options relay stream closeReason reason).2.traffic :=
  closeStream_closes closeReason hstored (by rw [hopened]; exact StreamState.noConfusion)

theorem recordStreamTransfer_changes {relay : Simulation} {stream : Stream}
    (hstored : relay.streams.get stream.id = some stream) (hopened : stream.state = .opened) (bytes : Option Int) :
    Changes options rules relay.traffic (recordStreamTransfer options relay stream bytes).2.traffic := by
  have hstop : ∀ closeReason reason,
      Changes options rules relay.traffic (quotaStop options relay stream closeReason reason).2.traffic :=
    fun closeReason reason => .single (.closeStream (quotaStop_closes hstored hopened closeReason reason))
  unfold recordStreamTransfer
  split_ifs with hsize hduration hidle
  · exact .refl
  · exact hstop _ _
  · exact hstop _ _
  · dsimp only
    split
    · exact hstop _ _
    · rename_i hroom
      split
      · exact hstop _ _
      · rename_i hhost
        exact .single (.transfer stream (bytes.getD 0).toNat relay.now hstored hopened (Nat.not_lt.1 hroom)
          (Nat.not_lt.1 hhost))

theorem recordTransfer_changes {relay : Simulation} (hkeyed : Keyed relay.traffic) (streamId : Nat)
    (bytes : Option Int) :
    Changes options rules relay.traffic (recordTransfer options relay streamId bytes).2.traffic := by
  unfold recordTransfer
  split
  · exact .refl
  · rename_i stream hopen
    obtain ⟨hstored, -, hopened⟩ := openStream_stored hkeyed hopen
    exact recordStreamTransfer_changes hstored hopened bytes

theorem relayEcho_changes {relay : Simulation} (hkeyed : Keyed relay.traffic) (streamId : Nat) (payload : Payload) :
    Changes options rules relay.traffic (relayEcho options relay streamId payload).2.traffic := by
  unfold relayEcho
  split
  · exact .refl
  · split
    · exact .refl
    · rename_i bytes hbytes
      have hchanges : Changes options rules relay.traffic
          (recordTransfer options relay streamId (some (bytes : Int))).2.traffic :=
        recordTransfer_changes hkeyed streamId _
      split
      · rename_i relay' htransfer
        rw [htransfer] at hchanges
        split
        · exact hchanges
        · rename_i stream hstored
          have hid : stream.id = streamId := ((hkeyed.changes hchanges).stream _ _ hstored).1
          subst hid
          exact hchanges.tail (.echo stream _ _ hstored)
      · exact hchanges

/-! ### Disconnects -/

/-- Every attempt of a disconnect fails: none is made, or the last one, for which an array has room, is among those that
fail. -/
def attemptsFail (maxAttempts failAttempts : JsNumber) : Bool :=
  match maxAttempts.max 1 with
  | .nan => true
  | .infinite _ => false
  | .finite mantissa exponent =>
    JsNumber.floor mantissa exponent ≤ maxArrayLength && failAttempts.atLeast (JsNumber.floor mantissa exponent)

/-- Every attempt of the disconnect fails, and the stream is closed already. -/
def ReopensClosed (relay : Simulation) : Operation → Prop
  | .disconnectStream streamId maxAttempts failAttempts =>
    attemptsFail (maxAttempts.getD (.ofInt 3)) (failAttempts.getD (.ofInt 0)) = true ∧
      ∃ stream, relay.streams.get streamId = some stream ∧ stream.state = .closed
  | _ => False

instance decidableReopensClosed (relay : Simulation) : (operation : Operation) → Decidable (ReopensClosed relay operation)
  | .disconnectStream streamId maxAttempts failAttempts =>
    have : Decidable (∃ stream, relay.streams.get streamId = some stream ∧ stream.state = .closed) :=
      decidable_of_iff _ ((Option.any_eq_true (·.state == .closed) (relay.streams.get streamId)).trans (by simp))
    inferInstanceAs (Decidable (_ ∧ _))
  | .openHostTunnel _ | .closeHostTunnel _ | .authorizeSession _ | .openFriendStream _ _ | .resolveOpen _ _
  | .completeOpen _ | .recordTransfer _ _ | .relayEcho _ _ | .advance _ => .isFalse id

/-- The loop ends after the attempt `last`, which has failed, or before the first attempt. -/
structure FailsAfter (bounded failAttempts : JsNumber) (last : Int) : Prop where
  nonneg : 0 ≤ last
  failed : last = 0 ∨ bounded.atLeast last = true ∧ failAttempts.atLeast last = true
  ends : bounded.atLeast (last + 1) = false
  room : last ≤ maxArrayLength

theorem attemptsFail_iff (maxAttempts failAttempts : JsNumber) :
    attemptsFail maxAttempts failAttempts = true ↔ ∃ last, FailsAfter (maxAttempts.max 1) failAttempts last := by
  have hbounded := JsNumber.atLeast_max 1 maxAttempts
  unfold attemptsFail
  generalize maxAttempts.max 1 = bounded at hbounded ⊢
  cases bounded with
  | nan => simpa using ⟨0, le_rfl, .inl rfl, rfl, by decide⟩
  | infinite negative =>
    refine ⟨fun h => absurd h Bool.false_ne_true, fun ⟨last, hfails⟩ => ?_⟩
    have hpositive : negative = false := by simpa [JsNumber.atLeast, JsNumber.isBelow] using hbounded
    subst hpositive
    exact absurd hfails.ends (by simp [JsNumber.atLeast, JsNumber.isBelow])
  | finite mantissa exponent =>
    have hfirst := (JsNumber.atLeast_finite _ _ _).1 (hbounded.resolve_left JsNumber.noConfusion)
    dsimp only
    rw [Bool.and_eq_true, decide_eq_true_eq]
    constructor
    · rintro ⟨hroom, hfailed⟩
      refine ⟨_, by omega, .inr ⟨(JsNumber.atLeast_finite _ _ _).2 le_rfl, hfailed⟩, ?_, hroom⟩
      rw [← Bool.not_eq_true, JsNumber.atLeast_finite]
      omega
    · rintro ⟨last, hfails⟩
      have hends := hfails.ends
      rw [← Bool.not_eq_true, JsNumber.atLeast_finite] at hends
      obtain rfl | ⟨hlast, hfailed⟩ := hfails.failed
      · omega
      · rw [JsNumber.atLeast_finite] at hlast
        obtain rfl : last = JsNumber.floor mantissa exponent := by omega
        exact ⟨hfails.room, hfailed⟩

theorem disconnectLoop_changes {stream : Stream} (bounded failAttempts : JsNumber) (room : Nat) (attempt : Int)
    (attempts : List Attempt) {relay : Simulation} (hstored : relay.streams.get stream.id = some stream)
    (hfirst : 1 ≤ attempt) (hroom : attempt - 1 + room = maxArrayLength)
    (hfailed : attempt = 1 ∨ bounded.atLeast (attempt - 1) = true ∧ failAttempts.atLeast (attempt - 1) = true)
    (hreopens : ∀ last, FailsAfter bounded failAttempts last → stream.state = .closed → rules.reopens) :
    Changes options rules relay.traffic
      (disconnectLoop options stream bounded failAttempts room attempt attempts relay).2.traffic := by
  fun_induction disconnectLoop options stream bounded failAttempts room attempt attempts relay with
  | case1 => exact .refl
  | case2 attempt attempts relay hbounded room hfails ih =>
    refine ih hstored (by omega) (by push_cast at hroom; omega) (.inr ?_)
    rw [Int.add_sub_cancel]
    exact ⟨hbounded, hfails⟩
  | case3 attempt attempts relay hbounded room hfails =>
    show Changes options rules relay.traffic (closeStream options relay stream "friend_disconnected").traffic
    by_cases hclosed : stream.state = .closed
    · rw [closeStream_closed _ hclosed]
    · exact .single (.closeStream (closeStream_closes _ hstored hclosed))
  | case4 room attempt attempts relay hbounded =>
    have hfails : FailsAfter bounded failAttempts (attempt - 1) :=
      ⟨by omega, hfailed.imp (by omega) id, by simpa using hbounded, by omega⟩
    exact .single (.failStream stream hstored (hreopens _ hfails))

theorem disconnectStream_changes {relay : Simulation} (hkeyed : Keyed relay.traffic) (streamId : Nat)
    (maxAttempts failAttempts : Option JsNumber)
    (hreopens : ReopensClosed relay (.disconnectStream streamId maxAttempts failAttempts) → rules.reopens) :
    Changes options rules relay.traffic
      (disconnectStream options relay streamId maxAttempts failAttempts).2.traffic := by
  unfold disconnectStream
  split
  · exact .refl
  · rename_i stream hstored
    have hid : stream.id = streamId := (hkeyed.stream _ _ hstored).1
    refine disconnectLoop_changes _ _ _ _ _ (hid ▸ hstored) le_rfl (by omega) (.inl rfl) fun last hfails hclosed => ?_
    exact hreopens ⟨(attemptsFail_iff _ _).2 ⟨last, hfails⟩, stream, hstored, hclosed⟩

/-- The operation is an open that says it has opened a stream. -/
def OpensStream (options : Options) (relay : Simulation) : Operation → Prop
  | .openFriendStream request answer => (openFriendStream options relay request answer).1.opensStream = true
  | .completeOpen open_ => (completeOpen options relay open_).1.opensStream = true
  | _ => False

/-- What has to hold when an operation takes a stream out of its closed state, or opens one. -/
def operationRules (options : Options) (relay : Simulation) (operation : Operation) : Rules :=
  { reopens := ReopensClosed relay operation, opens := OpensStream options relay operation }

/-- Every operation makes a sequence of changes.  Only a disconnect of a closed stream, all of whose attempts fail,
can take a stream out of its closed state, and only an open that says so opens a stream. -/
theorem step_changes {relay : Simulation} (hkeyed : Keyed relay.traffic) (operation : Operation) :
    Changes options (operationRules options relay operation) relay.traffic
      (step options relay operation).2.traffic := by
  cases operation with
  | openHostTunnel request => exact openHostTunnel_changes hkeyed request
  | closeHostTunnel request => exact closeHostTunnel_changes hkeyed request
  | authorizeSession session => exact .refl
  | openFriendStream request answer => exact openFriendStream_changes relay request answer id
  | resolveOpen open_ result =>
    show Changes _ _ _ (resolveOpen relay open_ result).2.traffic
    rw [resolveOpen_traffic]
  | completeOpen open_ => exact completeOpen_changes relay open_ id
  | recordTransfer streamId bytes => exact recordTransfer_changes hkeyed streamId bytes
  | relayEcho streamId payload => exact relayEcho_changes hkeyed streamId payload
  | disconnectStream streamId maxAttempts failAttempts =>
    exact disconnectStream_changes hkeyed streamId maxAttempts failAttempts id
  | advance ms => exact .refl

/-- The relay after a list of operations. -/
abbrev run (options : Options) (now : Int) (operations : List Operation) : Simulation :=
  Machine.run (step options) (createRelaySimulation now) operations

/-- An invariant of the traffic that the changes of every operation that meets `P` keep. -/
theorem traffic_step {I : Traffic → Prop} {relay : Simulation} {operation : Operation}
    (hchange : ∀ t t', Keyed t → I t → Change options (operationRules options relay operation) t t' → I t')
    (hkeyed : Keyed relay.traffic) (hI : I relay.traffic) :
    Keyed (step options relay operation).2.traffic ∧ I (step options relay operation).2.traffic := by
  have hchanges : Changes options (operationRules options relay operation) relay.traffic
      (step options relay operation).2.traffic := step_changes hkeyed operation
  refine ⟨hkeyed.changes hchanges, ?_⟩
  suffices ∀ t, Changes options (operationRules options relay operation) relay.traffic t → Keyed t ∧ I t from
    (this _ hchanges).2
  intro t ht
  induction ht with
  | refl => exact ⟨hkeyed, hI⟩
  | tail _ hc ih => exact ⟨ih.1.change hc, hchange _ _ ih.1 ih.2 hc⟩

/-- It holds after every run whose operations meet `P`. -/
theorem traffic_invariant {I : Traffic → Prop} {P : Simulation → Operation → Prop}
    (hchange : ∀ relay operation t t', P relay operation → Keyed t → I t →
      Change options (operationRules options relay operation) t t' → I t')
    {relay : Simulation} (hkeyed : Keyed relay.traffic) (hstart : I relay.traffic) {operations : List Operation}
    (hrun : Machine.Along (step options) P relay operations) :
    Keyed (Machine.run (step options) relay operations).traffic ∧
      I (Machine.run (step options) relay operations).traffic :=
  Machine.run_invariant (I := fun relay : Simulation => Keyed relay.traffic ∧ I relay.traffic)
    (fun relay operation h hP => traffic_step (hchange relay operation · · hP) h.1 h.2) ⟨hkeyed, hstart⟩ hrun

/-- Keys stay in order in every run. -/
theorem Keyed.run (options : Options) (now : Int) (operations : List Operation) :
    Keyed (run options now operations).traffic :=
  (traffic_invariant (I := fun _ => True) (fun _ _ _ _ _ _ _ _ => trivial) (.start now) trivial
    (.of_forall (P := fun _ => True) (fun _ _ => trivial) _)).1

/-! ### One host and one friend -/

/-- A relay that knows one host. -/
def oneHost (sessionService : Bool) : Options :=
  { sessionService := sessionService, hostCredentials := JsMap.empty.set "room:host" "token", quotas := defaultQuotas,
    redactText := id }

def openRoom : Operation :=
  .openHostTunnel
    { hostId := some "host", roomId := some "room", hostToken := some "token"
      target := some { kind := some "minecraft", host := some "127.0.0.1", port := some 25565 } }

/-- The session of the friend, as it is authorized. -/
def friendSession : Session :=
  { sessionId := some "session", sessionToken := some "secret", roomId := some "room", inviteId := some "invite",
    hostId := some "host", friendId := some "friend", minecraftUuid := some "uuid", approved := true,
    issuedAt := some 0, expiresAt := some 1000, consumedAt := none, authorizedAt := none }

/-- The friend asks for a stream. -/
def friendRequest : OpenRequest :=
  { sessionId := some "session", sessionToken := some "secret", roomId := some "room", inviteId := some "invite",
    friendId := some "friend", minecraftUuid := some "uuid", requestedTarget := none }

end EasyMc.Relay
