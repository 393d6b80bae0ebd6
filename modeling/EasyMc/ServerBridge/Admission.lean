import Mathlib.Order.CompletePartialOrder
import EasyMc.ServerBridge.Ledger

/-!
# Who is let in by a bridge

The histories of a bridge: what its replies say about a player, and what must have happened before.  The invariant
ties the ledger to the history (`Told`): whoever waits has been observed, and whoever is let in was on the allowlist
or has been approved after an observation.  Whoever is shut out is never let in again, since a decision is only taken
about somebody who waits.
-/

namespace EasyMc.ServerBridge

abbrev Fired : Type := Machine.Fired State Operation Reply

/-! ### What a step says about a player -/

/-- The server has seen the player join. -/
def Observes (fired : Fired) (uuid : Option String) : Prop :=
  ∃ input, fired.input = .observePlayerJoin input ∧ input.serverObservedUuid = uuid

/-- The host's decision about the player is carried out. -/
def Decides (decision : BridgeDecisionType) (fired : Fired) (uuid : Option String) : Prop :=
  ∃ input result, fired.input = .applyApprovalDecision input ∧ input.minecraftUuid = uuid ∧
    input.decision = decision ∧ fired.output = .decided (.ok result)

/-- The player is reported allowed. -/
def Allows (fired : Fired) (uuid : Option String) : Prop :=
  match fired.input, fired.output with
  | .observePlayerJoin input, .observed (.ok result) => input.serverObservedUuid = uuid ∧ result.allowed = true
  | .applyApprovalDecision input, .decided (.ok result) => input.minecraftUuid = uuid ∧ result.allowed = true
  | .canPlayerJoin input, .admission result => input.minecraftUuid = uuid ∧ result.allowed = true
  | _, _ => False

/-! ### Replies -/

/-- An observation is about the observed player, and allows only a player that is approved and not blocked. -/
theorem observePlayerJoin_ok {input : JoinInput} {s : State} {result : Observation}
    (h : (observePlayerJoin input s).1 = .ok result) :
    result.minecraftUuid = input.serverObservedUuid ∧
      (result.allowed = true → s.blocked.has input.serverObservedUuid = false ∧
        s.approved.has input.serverObservedUuid = true) := by
  have hrefused : ∀ state message, refusal state input.serverObservedUuid message = result →
      result.minecraftUuid = input.serverObservedUuid ∧ result.allowed = false := by
    rintro state message rfl
    exact ⟨rfl, rfl⟩
  by_cases huuid : truthy input.serverObservedUuid = true
  · by_cases hblocked : s.blocked.has input.serverObservedUuid = true
    · obtain ⟨hminecraftUuid, hallowed⟩ :=
        hrefused .blocked _ (by simpa [observePlayerJoin, huuid, hblocked] using h)
      exact ⟨hminecraftUuid, by simp [hallowed]⟩
    · by_cases happroved : s.approved.has input.serverObservedUuid = true
      · refine ⟨?_, fun _ => ⟨by simpa using hblocked, happroved⟩⟩
        by_cases hoffline : (!s.controlPlaneOnline && decide (s.outagePolicy = .denyAll)) = true
        · exact (hrefused .denied _ (by simpa [observePlayerJoin, huuid, hblocked, happroved, hoffline] using h)).1
        · -- The one observation that allows the player.
          simp only [observePlayerJoin, huuid, hblocked, happroved, hoffline] at h
          cases h
          rfl
      · by_cases honline : s.controlPlaneOnline = true
        · simp only [observePlayerJoin, huuid, hblocked, happroved, honline] at h
          cases h
          refine ⟨rfl, fun hallowed => ?_⟩
          cases hallowed
        · obtain ⟨hminecraftUuid, hallowed⟩ :=
            hrefused .denied _ (by simpa [observePlayerJoin, huuid, hblocked, happroved, honline] using h)
          exact ⟨hminecraftUuid, by simp [hallowed]⟩
  · simp [observePlayerJoin, huuid] at h

/-- The state that a decision leads to. -/
def decidedState : BridgeDecisionType → BridgeJoinState
  | .approved => .allowed
  | .blocked => .blocked
  | _ => .denied

/-- A decision that is carried out is about a player that waits. -/
theorem applyApprovalDecision_ok {input : DecisionInput} {s : State} {result : Decision}
    (h : (applyApprovalDecision input s).1 = .ok result) :
    s.pending.has input.minecraftUuid = true ∧ result.minecraftUuid = input.minecraftUuid ∧
      result.state = decidedState input.decision ∧ (result.allowed = true ↔ input.decision = .approved) := by
  revert h
  simp only [applyApprovalDecision]
  split_ifs with huuid hpending
  · rintro ⟨⟩
  · rintro ⟨⟩
  · have hwaits : s.pending.has input.minecraftUuid = true := by simpa using hpending
    cases input.decision with
    | approved =>
      rintro ⟨⟩
      exact ⟨hwaits, rfl, rfl, by simp⟩
    | blocked =>
      rintro ⟨⟩
      exact ⟨hwaits, rfl, rfl, by simp⟩
    | denied =>
      rintro ⟨⟩
      exact ⟨hwaits, rfl, rfl, by simp⟩
    | other decision => rintro ⟨⟩

theorem canPlayerJoin_allowed {input : AdmissionInput} {s : State} (h : (canPlayerJoin input s).allowed = true) :
    s.blocked.has input.minecraftUuid = false ∧ s.approved.has input.minecraftUuid = true := by
  revert h
  simp only [canPlayerJoin]
  split_ifs with hblocked happroved
  all_goals simp_all

/-! ### Steps -/

section Step

variable {s : State} {operation : Operation} {uuid : Option String}

theorem observes_of_move (h : move (step s operation).1 = .observe uuid) :
    Observes (Machine.fire step s operation) uuid := by
  cases operation with
  | observePlayerJoin input =>
    refine ⟨input, rfl, ?_⟩
    rcases hresult : (observePlayerJoin input s).1 with _ | result
    · simp [step, hresult, move] at h
    · have huuid := (observePlayerJoin_ok hresult).1
      by_cases hpending : result.state = .pendingApproval
      · rw [step, hresult, move, if_pos hpending, Move.observe.injEq] at h
        exact huuid.symm.trans h
      · rw [step, hresult, move, if_neg hpending] at h
        cases h
  | applyApprovalDecision input =>
    rcases hresult : (applyApprovalDecision input s).1 with _ | result
    · simp [step, hresult, move] at h
    · rw [step, hresult, move] at h
      split at h <;> cases h
  | canPlayerJoin input => cases h
  | setControlPlaneOnline online => cases h

theorem decides_of_move (h : move (step s operation).1 = .approve uuid) :
    Decides .approved (Machine.fire step s operation) uuid := by
  cases operation with
  | observePlayerJoin input =>
    rcases hresult : (observePlayerJoin input s).1 with _ | result
    · simp [step, hresult, move] at h
    · rw [step, hresult, move] at h
      split at h <;> cases h
  | applyApprovalDecision input =>
    rcases hresult : (applyApprovalDecision input s).1 with _ | result
    · simp [step, hresult, move] at h
    · obtain ⟨-, huuid, hstate, hallowed⟩ := applyApprovalDecision_ok hresult
      have hmove := h
      rw [step, hresult, move] at h
      split at h
      · rename_i hallowedState
        refine ⟨input, result, rfl, huuid.symm.trans (Move.approve.inj h), ?_, by rw [Machine.fire, step, hresult]⟩
        rw [hallowedState] at hstate
        cases hdecision : input.decision with
        | approved => rfl
        | denied => simp [hdecision, decidedState] at hstate
        | blocked => simp [hdecision, decidedState] at hstate
        | other decision => simp [hdecision, decidedState] at hstate
      · cases h
      · cases h
  | canPlayerJoin input => cases h
  | setControlPlaneOnline online => cases h

/-- A player that the host blocks is blocked after the step. -/
theorem blocked_of_decides (h : Decides .blocked (Machine.fire step s operation) uuid) :
    uuid ∈ (step s operation).2.ledger.blocked := by
  obtain ⟨input, result, rfl, rfl, hdecision, houtput⟩ := h
  have hresult : (applyApprovalDecision input s).1 = .ok result := Reply.decided.inj houtput
  obtain ⟨-, huuid, hstate, -⟩ := applyApprovalDecision_ok hresult
  have hmove : move (step s (.applyApprovalDecision input)).1 = .block input.minecraftUuid := by
    rw [step, hresult, move, hstate, hdecision, decidedState, huuid]
  have hstep := step_ledger s (.applyApprovalDecision input)
  rw [hmove] at hstep
  exact hstep.blocks

/-- A player that is reported allowed is approved after the step and was not blocked before it. -/
theorem approved_of_allows {both : Set (Option String)} (htidy : s.ledger.Tidy both)
    (h : Allows (Machine.fire step s operation) uuid) :
    uuid ∉ s.ledger.blocked ∧ uuid ∈ (step s operation).2.ledger.approved := by
  have hstep := step_ledger s operation
  cases operation with
  | observePlayerJoin input =>
    rcases hresult : (observePlayerJoin input s).1 with _ | result
    · simp [Allows, Machine.fire, step, hresult] at h
    · simp only [Allows, Machine.fire, step, hresult] at h
      obtain ⟨rfl, hallowed⟩ := h
      obtain ⟨hblocked, happroved⟩ := (observePlayerJoin_ok hresult).2 hallowed
      refine ⟨by simp [State.ledger, JsMap.mem_keySet, hblocked], ?_⟩
      exact hstep.keeps_approved htidy.pending_approved happroved
  | applyApprovalDecision input =>
    rcases hresult : (applyApprovalDecision input s).1 with _ | result
    · simp [Allows, Machine.fire, step, hresult] at h
    · simp only [Allows, Machine.fire, step, hresult] at h
      obtain ⟨rfl, hallowed⟩ := h
      obtain ⟨hwaits, huuid, hstate, hiff⟩ := applyApprovalDecision_ok hresult
      have hmove : move (step s (.applyApprovalDecision input)).1 = .approve input.minecraftUuid := by
        rw [step, hresult, move, hstate, hiff.1 hallowed, decidedState, huuid]
      rw [hmove] at hstep
      exact ⟨htidy.pending_blocked _ hwaits, hstep.approves⟩
  | canPlayerJoin input =>
    obtain ⟨rfl, hallowed⟩ := h
    obtain ⟨hblocked, happroved⟩ := canPlayerJoin_allowed hallowed
    exact ⟨by simp [State.ledger, JsMap.mem_keySet, hblocked], happroved⟩
  | setControlPlaneOnline online => cases h

end Step

/-! ### Runs -/

/-- The UUIDs of a list of players. -/
def uuids (players : List Player) : Set (Option String) := {uuid | ∃ player ∈ players, player.uuid = uuid}

theorem keySet_normalizePlayers (players : List Player) : (normalizePlayers players).keySet = uuids players := by
  ext uuid
  rw [JsMap.mem_keySet, normalizePlayers, JsMap.has_ofEntries]
  simp [uuids]

/-- The bridge of a configuration after some operations. -/
def reached (config : Config) (operations : List Operation) : State :=
  Machine.run step (createServerBridgeState config) operations

/-- What happened to the bridge of a configuration. -/
def history (config : Config) (operations : List Operation) : List Fired :=
  Machine.trace step (createServerBridgeState config) operations

theorem reached_append (config : Config) (before after : List Operation) :
    reached config (before ++ after) = Machine.run step (reached config before) after :=
  Machine.run_append _ _ _

theorem tidy_initial (config : Config) :
    (createServerBridgeState config).ledger.Tidy (uuids config.allowlist ∩ uuids config.blocked) where
  pending_approved := by
    rintro uuid ⟨⟩
  pending_blocked := by
    rintro uuid ⟨⟩
  overlap uuid := by
    change uuid ∈ (normalizePlayers config.allowlist).keySet ∧ uuid ∈ (normalizePlayers config.blocked).keySet ↔ _
    rw [keySet_normalizePlayers, keySet_normalizePlayers]
    rfl

theorem tidy_run {both : Set (Option String)} {s : State} (h : s.ledger.Tidy both) (operations : List Operation) :
    (Machine.run step s operations).ledger.Tidy both :=
  Machine.run_invariant (I := fun s : State => s.ledger.Tidy both) (P := fun _ _ => True)
    (fun s operation h _ => (step_ledger s operation).tidy h) h
    (Machine.Along.of_forall (fun _ _ => trivial) s)

theorem tidy_reached (config : Config) (operations : List Operation) :
    (reached config operations).ledger.Tidy (uuids config.allowlist ∩ uuids config.blocked) :=
  tidy_run (tidy_initial config) operations

/-- Somebody who is shut out stays so and is not let in. -/
theorem blocked_run {both : Set (Option String)} {s : State} {uuid : Option String} (htidy : s.ledger.Tidy both)
    (hblocked : uuid ∈ s.ledger.blocked) (operations : List Operation) :
    uuid ∈ (Machine.run step s operations).ledger.blocked ∧
      ∀ fired ∈ Machine.trace step s operations, ¬ Allows fired uuid := by
  induction operations generalizing s with
  | nil => exact ⟨hblocked, by simp [Machine.trace]⟩
  | cons operation operations ih =>
    have hstep := step_ledger s operation
    obtain ⟨hstays, hnever⟩ := ih (hstep.tidy htidy) (hstep.blocked htidy hblocked)
    refine ⟨hstays, ?_⟩
    intro fired hfired
    rcases List.mem_cons.1 hfired with rfl | hfired
    · exact fun hallows => (approved_of_allows htidy hallows).1 hblocked
    · exact hnever fired hfired

/-- The player was on the allowlist, or was approved after an observation. -/
def Admitted (config : Config) (tr : List Fired) (uuid : Option String) : Prop :=
  uuid ∈ uuids config.allowlist ∨
    ∃ observed decided, [observed, decided].Sublist tr ∧ Observes observed uuid ∧ Decides .approved decided uuid

/-- The history tells why somebody waits, and why somebody is let in. -/
structure Told (config : Config) (tr : List Fired) (s : State) : Prop where
  pending : ∀ uuid ∈ s.ledger.pending, ∃ observed ∈ tr, Observes observed uuid
  approved : ∀ uuid ∈ s.ledger.approved, Admitted config tr uuid

theorem Told.step {config : Config} {tr : List Fired} {s : State} (h : Told config tr s) (operation : Operation) :
    Told config (tr ++ [Machine.fire step s operation]) (step s operation).2 := by
  have hstep := step_ledger s operation
  refine ⟨?_, ?_⟩
  · intro uuid hpending
    rcases hstep.pending hpending with hpending | hmove
    · obtain ⟨observed, hobserved, hobserves⟩ := h.pending uuid hpending
      exact ⟨observed, List.mem_append_left _ hobserved, hobserves⟩
    · exact ⟨_, List.mem_append_right _ (List.mem_singleton_self _), observes_of_move hmove⟩
  · intro uuid happroved
    rcases hstep.approved happroved with happroved | hmove
    · rcases h.approved uuid happroved with hlisted | ⟨observed, decided, hbefore, hobserves, hdecides⟩
      · exact .inl hlisted
      · exact .inr ⟨observed, decided, hbefore.trans (List.sublist_append_left _ _), hobserves, hdecides⟩
    · rw [hmove] at hstep
      obtain ⟨observed, hobserved, hobserves⟩ := h.pending uuid hstep.waited
      refine .inr ⟨observed, _, ?_, hobserves, decides_of_move hmove⟩
      exact (List.singleton_sublist.2 hobserved).append (List.Sublist.refl [_])

theorem told_history (config : Config) (operations : List Operation) :
    Told config (history config operations) (reached config operations) := by
  refine Machine.trace_invariant (H := Told config) (P := fun _ _ => True) (fun tr s i h _ => h.step i) ?_
    (Machine.Along.of_forall (fun _ _ => trivial) _)
  refine ⟨by rintro uuid ⟨⟩, ?_⟩
  intro uuid happroved
  left
  change uuid ∈ (normalizePlayers config.allowlist).keySet at happroved
  rwa [keySet_normalizePlayers] at happroved

/-- The player was blocked by the configuration or by a decision. -/
def ShutOut (config : Config) (operations : List Operation) (uuid : Option String) : Prop :=
  uuid ∈ uuids config.blocked ∨ ∃ fired ∈ history config operations, Decides .blocked fired uuid

theorem blocked_of_shutOut {config : Config} {operations : List Operation} {uuid : Option String}
    (h : ShutOut config operations uuid) : uuid ∈ (reached config operations).ledger.blocked := by
  rcases h with hlisted | ⟨fired, hfired, hdecides⟩
  · have hblocked : uuid ∈ (createServerBridgeState config).ledger.blocked := by
      change uuid ∈ (normalizePlayers config.blocked).keySet
      rwa [keySet_normalizePlayers]
    exact (blocked_run (tidy_initial config) hblocked operations).1
  · obtain ⟨before, after, hsplit, hfire⟩ := Machine.mem_trace hfired
    rw [hfire] at hdecides
    have hblocked := blocked_of_decides hdecides
    have htidy := (step_ledger (reached config before) fired.input).tidy (tidy_reached config before)
    rw [hsplit, reached_append]
    exact (blocked_run htidy hblocked after).1

/-- A bridge whose lists have nobody in common: nobody is approved, blocked or pending at once; whoever is shut out
stays blocked and is never allowed again; and whoever is allowed was on the allowlist or was approved by a decision
that followed an observed join of that UUID. -/
theorem bridge_sound (config : Config) (hdisjoint : Disjoint (uuids config.allowlist) (uuids config.blocked))
    (operations : List Operation) :
    (Disjoint (reached config operations).approved.keySet (reached config operations).blocked.keySet ∧
      Disjoint (reached config operations).pending.keySet (reached config operations).approved.keySet ∧
      Disjoint (reached config operations).pending.keySet (reached config operations).blocked.keySet) ∧
    (∀ uuid, ShutOut config operations uuid → ∀ later,
      uuid ∈ (reached config (operations ++ later)).blocked.keySet ∧
        ∀ fired ∈ Machine.trace step (reached config operations) later, ¬ Allows fired uuid) ∧
    ∀ operation uuid, Allows (Machine.fire step (reached config operations) operation) uuid →
      Admitted config (history config (operations ++ [operation])) uuid := by
  have htidy := tidy_reached config operations
  refine ⟨⟨?_, ?_, ?_⟩, ?_, ?_⟩
  · rw [Set.disjoint_left]
    intro uuid happroved hblocked
    have hboth := (htidy.overlap uuid).1 ⟨happroved, hblocked⟩
    exact Set.disjoint_left.1 hdisjoint hboth.1 hboth.2
  · exact Set.disjoint_left.2 htidy.pending_approved
  · exact Set.disjoint_left.2 htidy.pending_blocked
  · intro uuid hshut later
    rw [reached_append]
    exact blocked_run htidy (blocked_of_shutOut hshut) later
  · intro operation uuid hallows
    have happroved := (approved_of_allows htidy hallows).2
    have htold := told_history config (operations ++ [operation])
    rw [reached_append] at htold
    exact htold.approved uuid happroved

def oneFriend : Config :=
  { roomId := some "room-a", allowlistPath := none, outagePolicy := none, controlPlaneOnline := none
    allowlist := [⟨some "uuid-a", some "MineFriend_27"⟩]
    blocked := [⟨some "uuid-b", some "BlockedFriend"⟩] }

def observesFriend : Operation :=
  .observePlayerJoin
    { serverObservedUuid := some "uuid-c", connectionId := none, displayName := none, claimedIdentity := none }

def approvesFriend : DecisionInput :=
  { minecraftUuid := some "uuid-c", decision := .approved, displayName := none, name := none }

def approvedVisit : List Operation := [observesFriend, .applyApprovalDecision approvesFriend]

def asksToJoin (uuid : String) : Operation :=
  .canPlayerJoin { minecraftUuid := some uuid, controlPlaneOnline := none }

theorem bridge_sound_approvedVisit :
    (Allows (Machine.fire step (reached oneFriend approvedVisit) (asksToJoin "uuid-c")) (some "uuid-c") ∧
      Admitted oneFriend (history oneFriend (approvedVisit ++ [asksToJoin "uuid-c"])) (some "uuid-c")) ∧
    (some "uuid-b" ∈ (reached oneFriend (approvedVisit ++ [asksToJoin "uuid-b"])).blocked.keySet ∧
      ∀ fired ∈ Machine.trace step (reached oneFriend approvedVisit) [asksToJoin "uuid-b"],
        ¬ Allows fired (some "uuid-b")) := by
  have hdisjoint : Disjoint (uuids oneFriend.allowlist) (uuids oneFriend.blocked) := by
    rw [Set.disjoint_left]
    rintro uuid ⟨player, hplayer, rfl⟩ ⟨player', hplayer', huuid⟩
    obtain rfl := List.mem_singleton.1 hplayer
    obtain rfl := List.mem_singleton.1 hplayer'
    exact absurd huuid (by decide)
  have hallows : Allows (Machine.fire step (reached oneFriend approvedVisit) (asksToJoin "uuid-c")) (some "uuid-c") :=
    ⟨rfl, by decide⟩
  obtain ⟨-, hblocked, hadmitted⟩ := bridge_sound oneFriend hdisjoint approvedVisit
  exact ⟨⟨hallows, hadmitted _ _ hallows⟩, hblocked _ (.inl ⟨_, List.mem_singleton_self _, rfl⟩) _⟩

/-! ### The decision that is coded twice -/

/-- What the bridge makes of a join: the state that an observation of the player reports. -/
def standing (s : State) (uuid : Option String) : BridgeJoinState :=
  if s.blocked.has uuid then .blocked
  else if s.approved.has uuid then
    if !s.controlPlaneOnline && s.outagePolicy = .denyAll then .denied else .allowed
  else if !s.controlPlaneOnline then .denied
  else .pendingApproval

/-- A question about a player that leaves the control plane's status to the bridge, or has it right. -/
structure Asks (asked : AdmissionInput) (uuid : Option String) (s : State) : Prop where
  uuid : asked.minecraftUuid = uuid
  online : asked.controlPlaneOnline.getD s.controlPlaneOnline = s.controlPlaneOnline

/-- An observation leaves alone what a standing depends on. -/
theorem observePlayerJoin_keeps (input : JoinInput) (s : State) :
    (observePlayerJoin input s).2.blocked = s.blocked ∧ (observePlayerJoin input s).2.approved = s.approved ∧
      (observePlayerJoin input s).2.controlPlaneOnline = s.controlPlaneOnline ∧
      (observePlayerJoin input s).2.outagePolicy = s.outagePolicy := by
  simp only [observePlayerJoin]
  split_ifs <;> exact ⟨rfl, rfl, rfl, rfl⟩

theorem standing_observePlayerJoin (input : JoinInput) (s : State) (uuid : Option String) :
    standing (observePlayerJoin input s).2 uuid = standing s uuid := by
  obtain ⟨hblocked, happroved, honline, hpolicy⟩ := observePlayerJoin_keeps input s
  simp only [standing, hblocked, happroved, honline, hpolicy]

/-- An observation reports the standing; a player that is to wait waits afterwards. -/
theorem observePlayerJoin_standing (input : JoinInput) (s : State)
    (huuid : truthy input.serverObservedUuid = true) :
    (∃ observation, (observePlayerJoin input s).1 = .ok observation ∧
      observation.state = standing s input.serverObservedUuid ∧
      observation.allowed = decide (observation.state = .allowed)) ∧
    (standing s input.serverObservedUuid = .pendingApproval →
      (observePlayerJoin input s).2.pending.has input.serverObservedUuid = true) := by
  have hpresent : (!truthy input.serverObservedUuid) = false := by simp [huuid]
  simp only [observePlayerJoin, hpresent, Bool.false_eq_true, if_false]
  by_cases hblocked : s.blocked.has input.serverObservedUuid = true
  · simp [standing, hblocked, refusal]
  · by_cases happroved : s.approved.has input.serverObservedUuid = true
    · by_cases hoffline : (!s.controlPlaneOnline && decide (s.outagePolicy = .denyAll)) = true
      · simp only [standing, hblocked, happroved, hoffline, refusal]
        simp
      · simp only [standing, hblocked, happroved, hoffline]
        simp
    · by_cases honline : s.controlPlaneOnline = true
      · -- The only observation that changes more than the last event.
        simp only [standing, hblocked, happroved, honline, refusal]
        simp [JsMap.has_set]
      · simp only [standing, hblocked, happroved, honline, refusal]
        simp

/-- A question about a player is answered with the standing, except that a player that is to wait and does not wait
yet is denied. -/
theorem canPlayerJoin_standing {asked : AdmissionInput} {uuid : Option String} {s : State} (h : Asks asked uuid s) :
    (canPlayerJoin asked s).allowed = decide (standing s uuid = .allowed) ∧
      ((standing s uuid = .pendingApproval → s.pending.has uuid = true) →
        (canPlayerJoin asked s).state = standing s uuid) := by
  simp only [canPlayerJoin, h.uuid, h.online]
  by_cases hblocked : s.blocked.has uuid = true
  · simp [standing, hblocked]
  · by_cases happroved : s.approved.has uuid = true
    · by_cases hoffline : (!s.controlPlaneOnline && decide (s.outagePolicy = .denyAll)) = true
      · simp only [standing, hblocked, happroved, hoffline]
        simp
      · simp only [standing, hblocked, happroved, hoffline]
        simp
    · by_cases honline : s.controlPlaneOnline = true
      · simp only [standing, hblocked, happroved, honline]
        simp
      · simp only [standing, hblocked, happroved, honline]
        simp

/-- Whoever asks just before an observation is told whether the observation will let the player in; whoever asks just
after it is told what the observation reported. -/
theorem admissions_agree (config : Config) (operations : List Operation) (input : JoinInput)
    (huuid : truthy input.serverObservedUuid = true) (asked : AdmissionInput)
    (hasked : Asks asked input.serverObservedUuid (reached config operations)) :
    ∃ observation, (observePlayerJoin input (reached config operations)).1 = .ok observation ∧
      (canPlayerJoin asked (reached config operations)).allowed = observation.allowed ∧
      (canPlayerJoin asked (reached config (operations ++ [.observePlayerJoin input]))).allowed =
        observation.allowed ∧
      (canPlayerJoin asked (reached config (operations ++ [.observePlayerJoin input]))).state = observation.state := by
  obtain ⟨⟨observation, hobserved, hstate, hallowed⟩, hwaits⟩ :=
    observePlayerJoin_standing input (reached config operations) huuid
  obtain ⟨-, -, honline, -⟩ := observePlayerJoin_keeps input (reached config operations)
  have hafter : reached config (operations ++ [.observePlayerJoin input]) =
      (observePlayerJoin input (reached config operations)).2 := reached_append config operations _
  have hasks : Asks asked input.serverObservedUuid (observePlayerJoin input (reached config operations)).2 :=
    ⟨hasked.uuid, by rw [honline]; exact hasked.online⟩
  have hbefore := canPlayerJoin_standing hasked
  obtain ⟨hallowedAfter, hstateAfter⟩ := canPlayerJoin_standing hasks
  rw [standing_observePlayerJoin] at hallowedAfter hstateAfter
  rw [hafter]
  refine ⟨observation, hobserved, ?_, ?_, ?_⟩
  · rw [hbefore.1, hallowed, hstate]
  · rw [hallowedAfter, hallowed, hstate]
  · rw [hstateAfter hwaits, hstate]

/-- A stranger is observed on a bridge whose control plane is online. -/
theorem admissions_agree_stranger :
    ∃ observation, (observePlayerJoin ⟨some "uuid-c", none, none, none⟩ (reached oneFriend [])).1 = .ok observation ∧
      (canPlayerJoin ⟨some "uuid-c", none⟩ (reached oneFriend [])).allowed = observation.allowed ∧
      (canPlayerJoin ⟨some "uuid-c", none⟩ (reached oneFriend [observesFriend])).allowed = observation.allowed ∧
      (canPlayerJoin ⟨some "uuid-c", none⟩ (reached oneFriend [observesFriend])).state = observation.state :=
  admissions_agree oneFriend [] ⟨some "uuid-c", none, none, none⟩ (by decide) ⟨some "uuid-c", none⟩ ⟨rfl, rfl⟩

end EasyMc.ServerBridge
