import EasyMc.ServerBridge.Admission

/-!
# What a player claims

A join is observed with a UUID that the server has seen and with what the client says about itself: a claimed identity,
a display name and the id of its connection.  The bridge keeps the latter in the event of a join that waits and puts it
into the reply, and decides by the former alone.

Two bridges that differ in these events only (`State.Agrees`) answer alike and keep differing in them only, so that two
runs with the same UUIDs have the same verdicts and the same lists throughout (`claims_never_matter`).
-/

namespace EasyMc.ServerBridge

/-- The same operation, except for what a client claims when its join is observed. -/
inductive Operation.Agrees : Operation → Operation → Prop
  | observePlayerJoin {input input' : JoinInput} (huuid : input.serverObservedUuid = input'.serverObservedUuid) :
    Agrees (.observePlayerJoin input) (.observePlayerJoin input')
  | same (operation : Operation) : Agrees operation operation

/-- The same bridge, except for the events of the joins that wait and the last event. -/
structure State.Agrees (s s' : State) : Prop where
  roomId : s.roomId = s'.roomId
  allowlistPath : s.allowlistPath = s'.allowlistPath
  outagePolicy : s.outagePolicy = s'.outagePolicy
  controlPlaneOnline : s.controlPlaneOnline = s'.controlPlaneOnline
  approved : s.approved = s'.approved
  blocked : s.blocked = s'.blocked
  pending : s.pending.keySet = s'.pending.keySet

/-- A reply without the event of a join that waits: with its state, its allowed flag and all else. -/
def Reply.withoutEvent : Reply → Reply
  | .observed (.ok observation) => .observed (.ok { observation with event := none })
  | reply => reply

namespace State.Agrees

variable {s s' : State}

theorem refl (s : State) : s.Agrees s := ⟨rfl, rfl, rfl, rfl, rfl, rfl, rfl⟩

theorem exists_eq (h : s.Agrees s') :
    ∃ pending lastEvent, s.pending.keySet = pending.keySet ∧ s' = { s with pending, lastEvent } := by
  refine ⟨s'.pending, s'.lastEvent, h.pending, ?_⟩
  rw [h.roomId, h.allowlistPath, h.outagePolicy, h.controlPlaneOnline, h.approved, h.blocked]

theorem ledger (h : s.Agrees s') : s.ledger = s'.ledger := by
  rw [State.ledger, State.ledger, h.approved, h.blocked, h.pending]

end State.Agrees

/-- An observation looks at the UUID that the server has seen, and stores the claims under it. -/
theorem observePlayerJoin_agrees {s s' : State} {input input' : JoinInput} (h : s.Agrees s')
    (huuid : input.serverObservedUuid = input'.serverObservedUuid) :
    (Reply.observed (observePlayerJoin input s).1).withoutEvent =
        (Reply.observed (observePlayerJoin input' s').1).withoutEvent ∧
      (observePlayerJoin input s).2.Agrees (observePlayerJoin input' s').2 := by
  obtain ⟨pending, lastEvent, hpending, rfl⟩ := h.exists_eq
  unfold observePlayerJoin
  dsimp only
  rw [huuid]
  split_ifs
  · exact ⟨rfl, h⟩
  · exact ⟨rfl, { h with }⟩
  · exact ⟨rfl, { h with }⟩
  · exact ⟨rfl, { h with }⟩
  · exact ⟨rfl, { h with }⟩
  · -- The join waits, with two events that may differ.
    refine ⟨rfl, { h with pending := ?_ }⟩
    rw [JsMap.keySet_set, JsMap.keySet_set, hpending]

/-- A decision looks at whether the player waits, not at the event. -/
theorem applyApprovalDecision_agrees {s s' : State} (h : s.Agrees s') (input : DecisionInput) :
    (applyApprovalDecision input s).1 = (applyApprovalDecision input s').1 ∧
      (applyApprovalDecision input s).2.Agrees (applyApprovalDecision input s').2 := by
  obtain ⟨pending, lastEvent, hpending, rfl⟩ := h.exists_eq
  have herased : (s.pending.erase input.minecraftUuid).keySet = (pending.erase input.minecraftUuid).keySet := by
    rw [JsMap.keySet_erase, JsMap.keySet_erase, hpending]
  unfold applyApprovalDecision
  dsimp only
  rw [JsMap.has_eq_of_keySet_eq hpending]
  split_ifs
  · exact ⟨rfl, h⟩
  · exact ⟨rfl, h⟩
  · cases input.decision with
    | approved => exact ⟨rfl, { h with approved := rfl, blocked := rfl, pending := herased }⟩
    | blocked => exact ⟨rfl, { h with approved := rfl, blocked := rfl, pending := herased }⟩
    | denied => exact ⟨rfl, { h with pending := herased }⟩
    | other decision => exact ⟨rfl, h⟩

theorem canPlayerJoin_agrees {s s' : State} (h : s.Agrees s') (input : AdmissionInput) :
    canPlayerJoin input s = canPlayerJoin input s' := by
  obtain ⟨pending, lastEvent, hpending, rfl⟩ := h.exists_eq
  unfold canPlayerJoin
  dsimp only
  rw [JsMap.has_eq_of_keySet_eq hpending]

/-- Operations that differ in claims have the same reply but for its event, on bridges that differ in their events. -/
theorem step_agrees {s s' : State} {operation operation' : Operation} (h : s.Agrees s')
    (hoperation : operation.Agrees operation') :
    (step s operation).1.withoutEvent = (step s' operation').1.withoutEvent ∧
      (step s operation).2.Agrees (step s' operation').2 := by
  cases hoperation with
  | observePlayerJoin huuid => exact observePlayerJoin_agrees h huuid
  | same operation =>
    cases operation with
    | observePlayerJoin input => exact observePlayerJoin_agrees h rfl
    | applyApprovalDecision input =>
      obtain ⟨hreply, hnext⟩ := applyApprovalDecision_agrees h input
      exact ⟨congrArg (fun result => Reply.withoutEvent (.decided result)) hreply, hnext⟩
    | canPlayerJoin input =>
      exact ⟨congrArg (fun result => Reply.withoutEvent (.admission result)) (canPlayerJoin_agrees h input), h⟩
    | setControlPlaneOnline online => exact ⟨rfl, { h with controlPlaneOnline := rfl }⟩

theorem runs_agree {s s' : State} (h : s.Agrees s') {operations operations' : List Operation}
    (hoperations : List.Forall₂ Operation.Agrees operations operations') :
    List.Forall₂ (fun reply reply' : Reply => reply.withoutEvent = reply'.withoutEvent)
        ((Machine.trace step s operations).map Machine.Fired.output)
        ((Machine.trace step s' operations').map Machine.Fired.output) ∧
      (Machine.run step s operations).Agrees (Machine.run step s' operations') :=
  Machine.related_runs (fun _ _ _ _ => step_agrees) h hoperations

/-- Runs of a bridge that differ only in what clients claim about their joins have the same replies, the events of waiting
joins apart, and the same approved, blocked and waiting players after any number of operations. -/
theorem claims_never_matter (config : Config) {operations operations' : List Operation}
    (h : List.Forall₂ Operation.Agrees operations operations') :
    ((history config operations).map fun fired => fired.output.withoutEvent) =
        ((history config operations').map fun fired => fired.output.withoutEvent) ∧
      ∀ n, (reached config (operations.take n)).ledger = (reached config (operations'.take n)).ledger := by
  have hinitial := State.Agrees.refl (createServerBridgeState config)
  constructor
  · have hreplies := (runs_agree hinitial h).1
    rw [List.forall₂_map_left_iff, List.forall₂_map_right_iff] at hreplies
    rw [← List.forall₂_eq_eq_eq, List.forall₂_map_left_iff, List.forall₂_map_right_iff]
    exact hreplies
  · intro n
    exact (runs_agree hinitial (List.forall₂_take n h)).2.ledger

def impostor : Operation :=
  .observePlayerJoin
    { serverObservedUuid := some "uuid-c", connectionId := some "connection-1", displayName := some "MineFriend_27"
      claimedIdentity := some { friendId := some "friend-a", minecraftUuid := some "uuid-a" } }

def impostorVisit : List Operation := [impostor, .applyApprovalDecision approvesFriend]

/-- A visitor who claims the identity of an approved friend waits like one who claims nothing. -/
theorem claims_never_matter_impostor :
    ((history oneFriend approvedVisit).map fun fired => fired.output.withoutEvent) =
        ((history oneFriend impostorVisit).map fun fired => fired.output.withoutEvent) ∧
      ∀ n, (reached oneFriend (approvedVisit.take n)).ledger = (reached oneFriend (impostorVisit.take n)).ledger :=
  claims_never_matter oneFriend (.cons (.observePlayerJoin rfl) (.cons (.same _) .nil))

end EasyMc.ServerBridge
