import EasyMc.ControlPlane.StoredRecords

/-!
# The index of invite tokens

The memory store finds an invite by its token through an index from hashes to ids, and never removes an entry of that
index.  An invite that is saved again with another hash stays under its old hash as well, so the old token still finds
it.  A lookup answers by the stored hash exactly as long as no save leaves such an entry behind (`lookups_sound_iff`).
The Postgres repository, which has no index beside its table, always does.
-/

namespace EasyMc.ControlPlane.Stored

open Throwing (JsError bind_eq_ok)

/-! ### Lookups -/

def isInviteUsable (now : Int) (invite : Json) : Except JsError Bool :=
  if !Json.isStr "active" (invite.member "state") then .ok false
  else
    match invite.member "expiresAt" with
    | none => .ok true
    | some expiresAt =>
      if !expiresAt.truthy then .ok true
      else do
        let expiresAt ← expiresAt.toNumber
        .ok (expiresAt.exceeds now)

def readInviteByToken (sha256 : String → String) (now : Int) (store : RecordStore) (token : String) :
    Except JsError (Reply Json) :=
  if token = "" then .ok (failWith .inviteUnavailable)
  else
    let inviteId := store.inviteTokenIndex.get (some (.str (sha256 token)))
    match (inviteId.filter Json.holds).bind store.invites.get with
    | none => .ok (failWith .inviteUnavailable)
    | some invite => do
      let usable ← isInviteUsable now invite
      .ok (if usable then .ok invite else failWith .inviteUnavailable)

/-- The store after some saves of invites. -/
def inviteStore (sha256 : String → String) (saves : List Json) : RecordStore :=
  Machine.run (fun store record => saveInvite sha256 record store) createMemoryControlPlaneStore saves

/-- The index has the id under the hash of the token. -/
structure Finds (sha256 : String → String) (store : RecordStore) (token : String) (id : Option Json) : Prop where
  given : token ≠ ""
  entry : store.inviteTokenIndex.get (some (.str (sha256 token))) = some id
  truthy : Json.holds id = true

/-- A token is only answered with an invite that is stored with its hash. -/
def AnswersByHash (sha256 : String → String) (store : RecordStore) : Prop :=
  ∀ now token invite, readInviteByToken sha256 now store token = .ok (.ok invite) →
    invite.member "tokenHash" = some (.str (sha256 token))

/-- A save of a usable invite leaves its id under no hash but its own. -/
def LeavesNoEntry (sha256 : String → String) (store : RecordStore) (record : Json) : Prop :=
  ∀ stored token id now, storedInvite sha256 record = .ok stored → Finds sha256 store token id →
    Json.sameValueZero (stored.member "id") id = true → isInviteUsable now stored = .ok true →
      stored.member "tokenHash" = some (.str (sha256 token))

variable {sha256 : String → String}

/-! ### One lookup and one save -/

theorem readInviteByToken_ok {now : Int} {store : RecordStore} {token : String} {invite : Json} :
    readInviteByToken sha256 now store token = .ok (.ok invite) ↔
      ∃ id, Finds sha256 store token id ∧ store.invites.get id = some invite ∧ isInviteUsable now invite = .ok true := by
  constructor
  · intro h
    unfold readInviteByToken at h
    split at h
    · cases h
    · rename_i htoken
      dsimp only at h
      split at h
      · cases h
      · rename_i found hfound
        obtain ⟨usable, husable, hreply⟩ := bind_eq_ok.1 h
        obtain ⟨id, hid, hget⟩ := Option.bind_eq_some_iff.1 hfound
        obtain ⟨hentry, htruthy⟩ := Option.filter_eq_some_iff.1 hid
        cases usable with
        | false => cases hreply
        | true =>
          cases hreply
          exact ⟨id, ⟨htoken, hentry, htruthy⟩, hget, husable⟩
  · rintro ⟨id, ⟨htoken, hentry, htruthy⟩, hget, husable⟩
    have hfound : ((store.inviteTokenIndex.get (some (.str (sha256 token)))).filter Json.holds).bind store.invites.get =
        some invite := by
      rw [hentry, Option.filter_some, if_pos htruthy, Option.bind_some, hget]
    unfold readInviteByToken
    rw [if_neg htoken]
    simp only [hfound, husable, Throwing.ok_bind, if_true]

/-- Only what is the same as itself is ever found. -/
theorem same_of_get {ν : Type} {map : Json.IdMap ν} {id : Option Json} {value : ν} (h : map.get id = some value) :
    Json.sameValueZero id id = true := by
  obtain ⟨entry, hentry, -⟩ := Option.map_eq_some_iff.1 h
  have hsame : Json.sameValueZero entry.1 id = true := by simpa using List.find?_some hentry
  have heq := Json.sameValueZero_eq hsame
  rwa [heq] at hsame

/-- What the index has after a save is the id of the invite under its hash, or was there before. -/
theorem get_index_cases {store : RecordStore} {stored : Json} {hash : String} {id : Option Json}
    (h : (store.withInvite stored).inviteTokenIndex.get (some (.str hash)) = some id) :
    stored.member "tokenHash" = some (.str hash) ∧ stored.member "id" = id ∨
      store.inviteTokenIndex.get (some (.str hash)) = some id := by
  unfold RecordStore.withInvite at h
  dsimp only at h
  split_ifs at h with htruthy
  · rw [Json.IdMap.get_set] at h
    split_ifs at h with hsame
    · exact .inl ⟨Json.sameValueZero_eq hsame, Option.some.inj h⟩
    · exact .inr h
  · exact .inr h

/-- A save of an invite with another hash leaves the entry. -/
theorem get_index_of_ne {store : RecordStore} {stored : Json} {hash : String}
    (h : stored.member "tokenHash" ≠ some (.str hash)) :
    (store.withInvite stored).inviteTokenIndex.get (some (.str hash)) =
      store.inviteTokenIndex.get (some (.str hash)) := by
  unfold RecordStore.withInvite
  dsimp only
  split_ifs with htruthy
  · rw [Json.IdMap.get_set, if_neg (fun hsame => h (Json.sameValueZero_eq hsame))]
  · rfl

theorem get_invites_withInvite (store : RecordStore) (stored : Json) (id : Option Json) :
    (store.withInvite stored).invites.get id =
      if Json.sameValueZero (stored.member "id") id then some stored else store.invites.get id :=
  Json.IdMap.get_set

/-- A save keeps the answers right if and only if it leaves no entry behind. -/
theorem answersByHash_save {store : RecordStore} (h : AnswersByHash sha256 store) (record : Json) :
    AnswersByHash sha256 (saveInvite sha256 record store).2 ↔ LeavesNoEntry sha256 store record := by
  cases hstored : storedInvite sha256 record with
  | error error =>
    have hsave : saveInvite sha256 record store = (.error error, store) := saveInvite_error hstored store
    rw [hsave]
    refine ⟨fun _ stored token id now hok => ?_, fun _ => h⟩
    rw [hstored] at hok
    cases hok
  | ok stored =>
    have hsave : saveInvite sha256 record store = (.ok stored, store.withInvite stored) := saveInvite_ok hstored store
    rw [hsave]
    constructor
    · intro hafter stored' token id now hok hfinds hsame husable
      rw [hstored] at hok
      cases hok
      by_contra hother
      -- The old entry still leads to the new record.
      refine hother (hafter now token stored (readInviteByToken_ok.2 ⟨id, ⟨hfinds.given, ?_, hfinds.truthy⟩, ?_, husable⟩))
      · rw [get_index_of_ne hother]
        exact hfinds.entry
      · rw [get_invites_withInvite, if_pos hsame]
    · intro hleaves now token invite hread
      obtain ⟨id, ⟨htoken, hentry, htruthy⟩, hget, husable⟩ := readInviteByToken_ok.1 hread
      have hentries := get_index_cases hentry
      have hself := same_of_get hget
      rw [get_invites_withInvite] at hget
      by_cases hsame : Json.sameValueZero (stored.member "id") id = true
      · rw [if_pos hsame] at hget
        cases hget
        rcases hentries with ⟨hhash, -⟩ | hold
        · exact hhash
        · exact hleaves stored token id now hstored ⟨htoken, hold, htruthy⟩ hsame husable
      · rw [if_neg hsame] at hget
        rcases hentries with ⟨-, rfl⟩ | hold
        · exact absurd hself hsame
        · exact h now token invite (readInviteByToken_ok.2 ⟨id, ⟨htoken, hold, htruthy⟩, hget, husable⟩)

/-! ### Runs -/

theorem answersByHash_start (sha256 : String → String) : AnswersByHash sha256 createMemoryControlPlaneStore := by
  intro now token invite h
  obtain ⟨id, -, hget, -⟩ := readInviteByToken_ok.1 h
  cases hget

/-- The lookups answer by the stored hash after each of the saves if and only if no save leaves an entry behind. -/
theorem lookups_sound_iff (sha256 : String → String) (saves : List Json) :
    (∀ earlier later, saves = earlier ++ later → AnswersByHash sha256 (inviteStore sha256 earlier)) ↔
      Machine.Along (fun store record => saveInvite sha256 record store) (LeavesNoEntry sha256)
        createMemoryControlPlaneStore saves := by
  unfold inviteStore
  suffices ∀ store, AnswersByHash sha256 store →
      ((∀ earlier later, saves = earlier ++ later →
        AnswersByHash sha256 (Machine.run (fun store record => saveInvite sha256 record store) store earlier)) ↔
      Machine.Along (fun store record => saveInvite sha256 record store) (LeavesNoEntry sha256) store saves) from
    this _ (answersByHash_start sha256)
  induction saves with
  | nil =>
    intro store h
    refine ⟨fun _ => trivial, fun _ earlier later hnil => ?_⟩
    obtain ⟨rfl, -⟩ := List.append_eq_nil_iff.1 hnil.symm
    exact h
  | cons record saves ih =>
    intro store h
    have hstep := answersByHash_save h record
    constructor
    · intro hall
      have hfirst := hall [record] saves rfl
      refine ⟨hstep.1 hfirst, (ih _ hfirst).1 fun earlier later hsplit => ?_⟩
      exact hall (record :: earlier) later (by rw [hsplit, List.cons_append])
    · rintro ⟨hfirst, hrest⟩ earlier later hsplit
      cases earlier with
      | nil => exact h
      | cons first earlier =>
        rw [List.cons_append, List.cons.injEq] at hsplit
        obtain ⟨rfl, hsplit⟩ := hsplit
        exact (ih _ (hstep.2 hfirst)).2 hrest earlier later hsplit

/-- The digests of `a` and `b`, for runs in which no other token is used. -/
def digestOfAOrB (text : String) : String :=
  if text = "b" then "3e23e8160039594a33894f6564e1b1348bbd7a0088d42c4acb73eeaed59c009d" else digestOfA text

/-- The invite with a new token. -/
def renewedInvite : Json :=
  .obj [("id", .str "invite-1"), ("roomId", .str "room-1"), ("token", .str "b"), ("state", .str "active"),
    ("createdAt", .num "1"), ("expiresAt", .num "100"), ("revokedAt", .null)]

/-- An invite that is saved again with a new token is still found by the old one. -/
theorem renewedInvite_found_by_old_token :
    ¬ ∀ saves now token invite,
      readInviteByToken digestOfAOrB now (inviteStore digestOfAOrB saves) token = .ok (.ok invite) →
        invite.member "tokenHash" = some (.str (digestOfAOrB token)) := by
  intro h
  have hhash := h [newInvite, renewedInvite] 5 "a" _ rfl
  have hdigests : Json.str (digestOfAOrB "b") = Json.str (digestOfAOrB "a") := Option.some.inj hhash
  exact absurd (Json.str.inj hdigests) (by decide)

/-- The Postgres repository answers a token with an invite that is stored with its hash. -/
theorem readInviteByToken_postgres {now : Int} {token : String} {db : Database} {invite : InviteRow}
    (h : db.readInviteByToken sha256 now token = .ok invite) : invite.tokenHash = sha256 token := by
  unfold Database.readInviteByToken at h
  split at h
  · cases h
  · split at h
    · cases h
    · rename_i found hfound
      split at h
      · cases h
        exact (Relational.mem_select.1 (List.mem_of_mem_head? hfound)).2
      · cases h

end EasyMc.ControlPlane.Stored
