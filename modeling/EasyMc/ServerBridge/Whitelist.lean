import EasyMc.ServerBridge.Admission

/-!
# The whitelist file of a bridge

A decision that is carried out returns the whitelist to be written.  The text of a whitelist tells which UUIDs it
lists (`lists_serialize`), and these are the approved ones; a player is allowed, while the control plane is online,
when they are approved and not blocked.  A player that the configuration both approves and blocks is never observed as
pending, so that no decision takes them off a list: the whitelist and the admission agree exactly when there is no
such player (`whitelist_agrees_iff`).
-/

namespace EasyMc.ServerBridge

/-! ### The text -/

/-- The file has an entry with the UUID. -/
def Lists (contents : List Char) (uuid : String) : Prop :=
  ∃ players, contents = serializeMinecraftWhitelist players ∧ ∃ player ∈ players, player.uuid = some uuid

/-- The text of an entry. -/
def row (player : Player) : List Char := (named player).toJson.prettyAt 2 2

/-- A field of an entry that is a string, and what follows it. -/
def fieldText (key text : String) (rest : List Char) : List Char :=
  Json.newline 4 ++ (Json.quote key ++ ([':', ' '] ++ (Json.quote text ++ rest)))

def closing : List Char := Json.newline 2 ++ ['}']

theorem row_nobody (rest : List Char) : row ⟨none, none⟩ ++ rest = '{' :: '}' :: rest := rfl

theorem row_nameless (name : String) (rest : List Char) :
    row ⟨none, some name⟩ ++ rest = '{' :: fieldText "name" name (closing ++ rest) := by
  simp [row, named, Player.toJson, Json.object, Json.ofFields, Json.ofStr, Json.prettyAt, Json.prettyNextFields,
    fieldText, closing]

theorem row_player (uuid : String) (name : Option String) (rest : List Char) :
    row ⟨some uuid, name⟩ ++ rest =
      '{' :: fieldText "uuid" uuid (',' :: fieldText "name" (name.getD uuid) (closing ++ rest)) := by
  cases name <;>
    simp [row, named, Player.toJson, Json.object, Json.ofFields, Json.ofStr, Json.prettyAt, Json.prettyNextFields,
      fieldText, closing]

theorem fieldText_inj {key key' text text' : String} {rest rest' : List Char}
    (h : fieldText key text rest = fieldText key' text' rest') : key = key' ∧ text = text' ∧ rest = rest' := by
  have hkey := Json.quote_append_inj (List.append_cancel_left h)
  have htext := Json.quote_append_inj (List.append_cancel_left hkey.2)
  exact ⟨hkey.1, htext.1, htext.2⟩

theorem fieldText_head (key text : String) (rest rest' : List Char) : fieldText key text rest ≠ '}' :: rest' := by
  intro h
  cases h

/-- An entry tells its UUID and where it ends. -/
theorem row_append_inj {player player' : Player} {rest rest' : List Char}
    (h : row player ++ rest = row player' ++ rest') : player.uuid = player'.uuid ∧ rest = rest' := by
  obtain ⟨uuid, name⟩ := player
  obtain ⟨uuid', name'⟩ := player'
  cases uuid with
  | some uuid =>
    rw [row_player] at h
    cases uuid' with
    | some uuid' =>
      rw [row_player] at h
      obtain ⟨-, rfl, htail⟩ := fieldText_inj (List.cons.inj h).2
      obtain ⟨-, -, hrest⟩ := fieldText_inj (List.cons.inj htail).2
      exact ⟨rfl, List.append_cancel_left hrest⟩
    | none =>
      cases name' with
      | some name' =>
        rw [row_nameless] at h
        exact absurd (fieldText_inj (List.cons.inj h).2).1 (by decide)
      | none => exact absurd (List.cons.inj h).2 (fieldText_head _ _ _ _)
  | none =>
    cases name with
    | some name =>
      rw [row_nameless] at h
      cases uuid' with
      | some uuid' =>
        rw [row_player] at h
        exact absurd (fieldText_inj (List.cons.inj h).2).1 (by decide)
      | none =>
        cases name' with
        | some name' =>
          rw [row_nameless] at h
          obtain ⟨-, -, hrest⟩ := fieldText_inj (List.cons.inj h).2
          exact ⟨rfl, List.append_cancel_left hrest⟩
        | none => exact absurd (List.cons.inj h).2 (fieldText_head _ _ _ _)
    | none =>
      rw [row_nobody] at h
      cases uuid' with
      | some uuid' =>
        rw [row_player] at h
        exact absurd (List.cons.inj h).2.symm (fieldText_head _ _ _ _)
      | none =>
        cases name' with
        | some name' =>
          rw [row_nameless] at h
          exact absurd (List.cons.inj h).2.symm (fieldText_head _ _ _ _)
        | none => exact ⟨rfl, (List.cons.inj (List.cons.inj h).2).2⟩

/-- The entries after the first, and the end of the file. -/
def nextRows (players : List Player) : List Char :=
  players.flatMap (fun player => ',' :: (Json.newline 2 ++ row player)) ++ (Json.newline 0 ++ [']', '\n'])

theorem nextRows_inj {players players' : List Player} (h : nextRows players = nextRows players') :
    players.map Player.uuid = players'.map Player.uuid := by
  induction players generalizing players' with
  | nil =>
    cases players' with
    | nil => rfl
    | cons player' players' => cases h
  | cons player players ih =>
    cases players' with
    | nil => cases h
    | cons player' players' =>
      simp only [nextRows, List.flatMap_cons, List.cons_append, List.cons.injEq, true_and, List.append_assoc] at h
      obtain ⟨huuid, hrest⟩ := row_append_inj (List.append_cancel_left h)
      rw [List.map_cons, List.map_cons, huuid, ih hrest]

theorem serialize_nil : serializeMinecraftWhitelist [] = ['[', ']', '\n'] := rfl

theorem prettyNextValues_rows (players : List Player) :
    Json.prettyNextValues 2 2 (players.map fun player => (named player).toJson) =
      players.flatMap fun player => ',' :: (Json.newline 2 ++ row player) := by
  induction players with
  | nil => rfl
  | cons player players ih =>
    rw [List.map_cons, Json.prettyNextValues, ih, List.flatMap_cons, row]
    simp

theorem serialize_cons (player : Player) (players : List Player) :
    serializeMinecraftWhitelist (player :: players) =
      '[' :: (Json.newline 2 ++ (row player ++ nextRows players)) := by
  have hrows := prettyNextValues_rows players
  simp only [serializeMinecraftWhitelist, List.map_cons, Json.pretty, Json.prettyAt, hrows, nextRows, row]
  simp

/-- The text of a whitelist tells its UUIDs. -/
theorem serialize_inj {players players' : List Player}
    (h : serializeMinecraftWhitelist players = serializeMinecraftWhitelist players') :
    players.map Player.uuid = players'.map Player.uuid := by
  cases players with
  | nil =>
    cases players' with
    | nil => rfl
    | cons player' players' =>
      rw [serialize_nil, serialize_cons] at h
      cases h
  | cons player players =>
    cases players' with
    | nil =>
      rw [serialize_nil, serialize_cons] at h
      cases h
    | cons player' players' =>
      rw [serialize_cons, serialize_cons] at h
      obtain ⟨huuid, hrest⟩ := row_append_inj (List.append_cancel_left (List.cons.inj h).2)
      rw [List.map_cons, List.map_cons, huuid, nextRows_inj hrest]

theorem lists_serialize {players : List Player} {uuid : String} :
    Lists (serializeMinecraftWhitelist players) uuid ↔ some uuid ∈ uuids players := by
  constructor
  · rintro ⟨players', htext, player', hplayer', huuid⟩
    have hmem : some uuid ∈ players.map Player.uuid := by
      rw [serialize_inj htext, ← huuid]
      exact List.mem_map_of_mem hplayer'
    obtain ⟨player, hplayer, hplayerUuid⟩ := List.mem_map.1 hmem
    exact ⟨player, hplayer, hplayerUuid⟩
  · rintro ⟨player, hplayer, huuid⟩
    exact ⟨players, rfl, player, hplayer, huuid⟩

/-! ### The approved players -/

/-- Every approved player is stored under its own UUID. -/
def Keyed (s : State) : Prop := ∀ uuid player, s.approved.get uuid = some player → player.uuid = uuid

theorem keyed_initial (config : Config) : Keyed (createServerBridgeState config) := by
  intro uuid player hget
  refine JsMap.get_ofEntries_of_forall (P := fun uuid player => player.uuid = uuid) ?_ hget
  intro entry hentry
  obtain ⟨player, -, rfl⟩ := List.mem_map.1 hentry
  rfl

/-- What a decision that is carried out does to the approved players. -/
theorem applyApprovalDecision_keyed {s : State} (h : Keyed s) (input : DecisionInput) :
    Keyed (applyApprovalDecision input s).2 := by
  by_cases huuid : truthy input.minecraftUuid = true
  · by_cases hpending : s.pending.has input.minecraftUuid = true
    · intro uuid player hget
      cases hdecision : input.decision with
      | approved =>
        simp only [applyApprovalDecision, huuid, hpending, hdecision, Bool.not_true, Bool.false_eq_true,
          if_false] at hget
        rcases JsMap.get_set_cases hget with ⟨rfl, rfl⟩ | ⟨-, hget⟩
        · rfl
        · exact h uuid player hget
      | blocked =>
        simp only [applyApprovalDecision, huuid, hpending, hdecision, Bool.not_true, Bool.false_eq_true,
          if_false, JsMap.get_erase] at hget
        split at hget
        · cases hget
        · exact h uuid player hget
      | denied =>
        simp only [applyApprovalDecision, huuid, hpending, hdecision, Bool.not_true, Bool.false_eq_true,
          if_false] at hget
        exact h uuid player hget
      | other decision =>
        simp only [applyApprovalDecision, huuid, hpending, hdecision, Bool.not_true, Bool.false_eq_true,
          if_false] at hget
        exact h uuid player hget
    · simpa [applyApprovalDecision, huuid, hpending] using h
  · simpa [applyApprovalDecision, huuid] using h

theorem observePlayerJoin_approved (input : JoinInput) (s : State) :
    (observePlayerJoin input s).2.approved = s.approved := by
  simp only [observePlayerJoin]
  split_ifs <;> rfl

theorem keyed_reached (config : Config) (operations : List Operation) : Keyed (reached config operations) := by
  refine Machine.run_invariant (I := Keyed) (P := fun _ _ => True) ?_ (keyed_initial config)
    (Machine.Along.of_forall (fun _ _ => trivial) _)
  intro s operation h _
  cases operation with
  | observePlayerJoin input =>
    intro uuid player hget
    rw [step, observePlayerJoin_approved] at hget
    exact h uuid player hget
  | applyApprovalDecision input => exact applyApprovalDecision_keyed h input
  | canPlayerJoin input => exact h
  | setControlPlaneOnline online => exact h

/-- The whitelist of a state lists the approved players. -/
theorem lists_createAllowlistPersistence {s : State} (h : Keyed s) (uuid : String) :
    Lists (createAllowlistPersistence s).contents uuid ↔ s.approved.has (some uuid) = true := by
  rw [createAllowlistPersistence, lists_serialize, JsMap.has_iff_mem_values h]
  rfl

/-- A decision returns the whitelist of the state that it leaves. -/
theorem applyApprovalDecision_persistence {input : DecisionInput} {s : State} {result : Decision}
    {persistence : Persistence} (h : (applyApprovalDecision input s).1 = .ok result)
    (hpersistence : result.persistence = some persistence) :
    persistence = createAllowlistPersistence (applyApprovalDecision input s).2 := by
  revert h
  simp only [applyApprovalDecision]
  split_ifs
  · intro h
    cases h
  · intro h
    cases h
  · cases input.decision with
    | approved =>
      intro h
      cases h
      exact (Option.some.inj hpersistence).symm
    | blocked =>
      intro h
      cases h
      exact (Option.some.inj hpersistence).symm
    | denied =>
      intro h
      cases h
      cases hpersistence
    | other decision =>
      intro h
      cases h

/-- While the control plane is online, the approved players may join that are not blocked. -/
theorem canPlayerJoin_online (s : State) (uuid : Option String) :
    (canPlayerJoin { minecraftUuid := uuid, controlPlaneOnline := some true } s).allowed = true ↔
      uuid ∈ s.ledger.approved ∧ uuid ∉ s.ledger.blocked := by
  simp only [State.ledger, JsMap.mem_keySet]
  by_cases hblocked : s.blocked.has uuid = true
  · simp [canPlayerJoin, hblocked]
  · by_cases happroved : s.approved.has uuid = true
    · simp [canPlayerJoin, hblocked, happroved]
    · simp [canPlayerJoin, hblocked, happroved]

/-- The whitelist that a decision returns lists exactly the UUIDs that would be allowed just afterwards, with the
control plane online, if and only if no UUID was both on the allowlist and on the blocked list. -/
theorem whitelist_agrees_iff (config : Config) (operations : List Operation) (input : DecisionInput)
    (result : Decision) (persistence : Persistence)
    (hresult : (applyApprovalDecision input (reached config operations)).1 = .ok result)
    (hpersistence : result.persistence = some persistence) :
    (∀ uuid : String, Lists persistence.contents uuid ↔
      (canPlayerJoin { minecraftUuid := some uuid, controlPlaneOnline := some true }
        (applyApprovalDecision input (reached config operations)).2).allowed = true) ↔
    ∀ uuid : String, some uuid ∈ uuids config.allowlist → some uuid ∉ uuids config.blocked := by
  have hnext : (applyApprovalDecision input (reached config operations)).2 =
      reached config (operations ++ [.applyApprovalDecision input]) := by
    rw [reached_append]
    rfl
  have htidy := tidy_reached config (operations ++ [.applyApprovalDecision input])
  have hkeyed := keyed_reached config (operations ++ [.applyApprovalDecision input])
  obtain rfl := applyApprovalDecision_persistence hresult hpersistence
  rw [hnext]
  constructor
  · intro hagrees uuid hallowlist hblocked
    obtain ⟨happroved, hshut⟩ := (htidy.overlap (some uuid)).2 ⟨hallowlist, hblocked⟩
    have hlisted := (lists_createAllowlistPersistence hkeyed uuid).2 happroved
    exact ((canPlayerJoin_online _ _).1 ((hagrees uuid).1 hlisted)).2 hshut
  · intro hdisjoint uuid
    rw [lists_createAllowlistPersistence hkeyed, canPlayerJoin_online]
    constructor
    · intro happroved
      refine ⟨happroved, ?_⟩
      intro hshut
      obtain ⟨hallowlist, hblocked⟩ := (htidy.overlap (some uuid)).1 ⟨happroved, hshut⟩
      exact hdisjoint uuid hallowlist hblocked
    · exact fun hallowed => hallowed.1

theorem whitelist_agrees_iff_approvedVisit :
    Lists (createAllowlistPersistence (reached oneFriend approvedVisit)).contents "uuid-c" ∧
      ∀ uuid : String, Lists (createAllowlistPersistence (reached oneFriend approvedVisit)).contents uuid ↔
        (canPlayerJoin { minecraftUuid := some uuid, controlPlaneOnline := some true }
          (reached oneFriend approvedVisit)).allowed = true := by
  have hdisjoint : ∀ uuid : String, some uuid ∈ uuids oneFriend.allowlist → some uuid ∉ uuids oneFriend.blocked := by
    rintro uuid ⟨player, hplayer, huuid⟩ ⟨player', hplayer', huuid'⟩
    obtain rfl := List.mem_singleton.1 hplayer
    obtain rfl := List.mem_singleton.1 hplayer'
    rw [← huuid'] at huuid
    exact absurd huuid (by decide)
  have hagrees := (whitelist_agrees_iff oneFriend [observesFriend] approvesFriend _ _ rfl rfl).2 hdisjoint
  exact ⟨(hagrees "uuid-c").2 (by decide), hagrees⟩

/-- A player that the configuration both approves and blocks. -/
def bothLists : Config := { oneFriend with blocked := oneFriend.allowlist }

/-- After a decision about another player the whitelist lists the blocked one. -/
theorem blocked_player_whitelisted :
    ¬ ∀ (config : Config) (operations : List Operation) (input : DecisionInput) (result : Decision)
      (persistence : Persistence), (applyApprovalDecision input (reached config operations)).1 = .ok result →
      result.persistence = some persistence → ∀ uuid : String, Lists persistence.contents uuid ↔
        (canPlayerJoin { minecraftUuid := some uuid, controlPlaneOnline := some true }
          (applyApprovalDecision input (reached config operations)).2).allowed = true := by
  intro h
  have hagrees := h bothLists [observesFriend] approvesFriend _ _ rfl rfl "uuid-a"
  have hlisted := (lists_createAllowlistPersistence (keyed_reached bothLists approvedVisit) "uuid-a").2 (by decide)
  exact absurd (hagrees.1 hlisted) (by decide)

end EasyMc.ServerBridge
