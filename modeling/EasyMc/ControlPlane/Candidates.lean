import EasyMc.Library.Expiry
import EasyMc.Library.JsMap
import EasyMc.Library.Machine
import EasyMc.Library.Values

/-!
# Transport candidates (`services/control-plane/src/transport/candidates.mjs`)

`createTransportCandidateExchange` as functions on its map of candidates.  Times are milliseconds; `none` is a field
that is missing or `null`, and a `candidate` of `none` is a value that is no object.  Candidates are dropped when a
room is read after they expired, but what a selection chooses depends only on the candidates that were accepted for
its room (`selectTransport_of_history`).
-/

namespace EasyMc.ControlPlane.Transport

/-- `TransportPaths`. -/
inductive TransportPath
  | direct
  | relay
  deriving DecidableEq, Repr

/-- `CandidateRejectReasons`. -/
inductive RejectReason
  | invalidCandidate
  | candidateExpired
  | crossRoom
  deriving DecidableEq, Repr

/-- `SelectionReasons`. -/
inductive SelectionReason
  | safeDirectCandidate
  | restrictedNetworkFallback
  | noSafeDirectCandidate
  | directFailedRelayFallback
  | relayUnavailable
  deriving DecidableEq, Repr

def TransportPath.text : TransportPath → String
  | .direct => "direct"
  | .relay => "relay"

def homeNetwork : String := "home_network"

def restrictedNetwork : String := "restricted_network"

def unknownNetwork : String := "unknown"

def directPrivacyCopy : String :=
  "A direct room connection can show your internet address to the approved friend. " ++
    "If it does not connect quickly, the room keeps using the reliable room path."

def directNoFallbackPrivacyCopy : String :=
  "A direct room connection can show your internet address to the approved friend. " ++
    "If it does not connect, joining may fail until the reliable room path is available."

def relayFallbackCopy : String :=
  "The room is using the reliable room path. " ++
    "Direct connection problems do not block joining while that path is available."

/-- The options of `createTransportCandidateExchange`. -/
structure ExchangeOptions where
  candidateTtlMs : Int := 30 * 1000
  directAttemptTimeoutMs : Int := 2 * 1000

/-- A candidate as it is submitted. -/
structure Candidate where
  id : Option Json
  roomId : Option String
  participantId : Option Json
  path : Option Json
  networkType : Option Json
  directAllowed : Option Json
  restricted : Option Json
  createdAt : Option Int
  expiresAt : Option Int
  diagnostics : Option Json

/-- A candidate as it is stored. -/
structure TransportCandidate where
  id : Json
  roomId : Option String
  participantId : Option Json
  path : Option Json
  networkType : Option Json
  directAllowed : Bool
  restricted : Bool
  createdAt : Int
  expiresAt : Int
  diagnostics : List Json

/-- `candidatesByRoom` and `nextCandidateId`. -/
structure Exchange where
  candidatesByRoom : JsMap (Option String) (List TransportCandidate)
  nextCandidateId : Nat

def createTransportCandidateExchange : Exchange := ⟨.empty, 1⟩

/-- What `selectTransport` and `resolveDirectAttempt` return. -/
structure Selection where
  ok : Bool
  path : Option TransportPath
  reason : SelectionReason
  candidateId : Option Json
  participantId : Option Json
  failedCandidateId : Option Json
  directAttemptTimeoutMs : Option Int
  fallbackPath : Option TransportPath
  directAttempt : Option String
  joinFailure : Option Bool
  privacyCopy : Option String

def fail (reason : SelectionReason) : Selection :=
  { ok := false, path := none, reason := reason, candidateId := none, participantId := none,
    failedCandidateId := none, directAttemptTimeoutMs := none, fallbackPath := none, directAttempt := none,
    joinFailure := none, privacyCopy := none }

def relaySelection (reason : SelectionReason) (directAttemptTimeoutMs : Int) (failedCandidateId : Option Json) :
    Selection :=
  { ok := true, path := some .relay, reason := reason, candidateId := none, participantId := none,
    failedCandidateId := failedCandidateId, directAttemptTimeoutMs := some directAttemptTimeoutMs,
    fallbackPath := none, directAttempt := none, joinFailure := some false,
    privacyCopy := some relayFallbackCopy }

/-- The selection of a candidate for a direct attempt. -/
def directSelection (options : ExchangeOptions) (candidate : TransportCandidate) (relayAvailable : Bool) :
    Selection :=
  { ok := true, path := some .direct, reason := .safeDirectCandidate, candidateId := some candidate.id,
    participantId := candidate.participantId, failedCandidateId := none,
    directAttemptTimeoutMs := some options.directAttemptTimeoutMs,
    fallbackPath := if relayAvailable then some .relay else none, directAttempt := none, joinFailure := some false,
    privacyCopy := some (if relayAvailable then directPrivacyCopy else directNoFallbackPrivacyCopy) }

/-- `candidate.path === "direct"`. -/
def TransportCandidate.isDirect (candidate : TransportCandidate) : Bool :=
  Json.isStr TransportPath.direct.text candidate.path

def isSafeDirectCandidate (candidate : TransportCandidate) : Bool :=
  candidate.isDirect && Json.isStr homeNetwork candidate.networkType && candidate.directAllowed &&
    !candidate.restricted

def isRestrictedDirectCandidate (candidate : TransportCandidate) : Bool :=
  candidate.isDirect &&
    (Json.isStr restrictedNetwork candidate.networkType || candidate.restricted || !candidate.directAllowed)

/-- The fields without which a submission is invalid. -/
def isComplete (roomId : Option String) (candidate : Candidate) : Bool :=
  roomId.any (· != "") && candidate.roomId.any (· != "") && Json.holds candidate.participantId &&
    Json.holds candidate.path

/-- The candidate that is stored, under an id that was given or made up. -/
def normalize (options : ExchangeOptions) (now : Int) (roomId : Option String) (candidate : Candidate) (id : Json) :
    TransportCandidate :=
  let createdAt := candidate.createdAt.getD now
  { id := id, roomId := roomId, participantId := candidate.participantId, path := candidate.path,
    networkType := Json.coalesce candidate.networkType (some (.str unknownNetwork)),
    directAllowed := candidate.directAllowed.any Json.isTrue, restricted := candidate.restricted.any Json.isTrue,
    createdAt := createdAt, expiresAt := candidate.expiresAt.getD (createdAt + options.candidateTtlMs),
    diagnostics := (candidate.diagnostics.bind Json.asArr).getD [] }

/-- `candidate.id ?? "candidate_<n>"`, with the next number to give. -/
def candidateId (nextCandidateId : Nat) (candidate : Candidate) : Json × Nat :=
  match Json.present candidate.id with
  | some id => (id, nextCandidateId)
  | none => (.str ("candidate_" ++ toString nextCandidateId), nextCandidateId + 1)

namespace Exchange

/-- The candidates that are stored for a room. -/
def stored (exchange : Exchange) (roomId : Option String) : List TransportCandidate :=
  (exchange.candidatesByRoom.get roomId).getD []

def submitCandidate (options : ExchangeOptions) (now : Int) (roomId : Option String) (candidate : Option Candidate)
    (exchange : Exchange) : Except RejectReason TransportCandidate × Exchange :=
  match candidate with
  | none => (.error .invalidCandidate, exchange)
  | some candidate =>
    if !isComplete roomId candidate then (.error .invalidCandidate, exchange)
    else if candidate.roomId != roomId then (.error .crossRoom, exchange)
    else
      let createdAt := candidate.createdAt.getD now
      let expiresAt := candidate.expiresAt.getD (createdAt + options.candidateTtlMs)
      if expiresAt ≤ now then (.error .candidateExpired, exchange)
      else
        let (id, nextCandidateId) := candidateId exchange.nextCandidateId candidate
        let normalized := normalize options now roomId candidate id
        (.ok normalized,
          { candidatesByRoom := exchange.candidatesByRoom.set roomId (exchange.stored roomId ++ [normalized])
            nextCandidateId := nextCandidateId })

/-- The unexpired candidates of a room; the others are dropped. -/
def activeCandidatesForRoom (now : Int) (roomId : Option String) (exchange : Exchange) :
    List TransportCandidate × Exchange :=
  let candidates := exchange.stored roomId
  let active := candidates.filter fun candidate => now < candidate.expiresAt
  (active,
    if active.length != candidates.length then
      { exchange with candidatesByRoom := exchange.candidatesByRoom.set roomId active }
    else exchange)

/-- What is selected among the active candidates of a room. -/
def selectAmong (options : ExchangeOptions) (relayAvailable : Bool) (candidates : List TransportCandidate) :
    Selection :=
  let directCandidates := candidates.filter TransportCandidate.isDirect
  match directCandidates.find? isSafeDirectCandidate with
  | some directCandidate => directSelection options directCandidate relayAvailable
  | none =>
    if !relayAvailable then fail .relayUnavailable
    else
      let reason :=
        if directCandidates.any isRestrictedDirectCandidate then SelectionReason.restrictedNetworkFallback
        else .noSafeDirectCandidate
      relaySelection reason options.directAttemptTimeoutMs none

def selectTransport (options : ExchangeOptions) (now : Int) (roomId : Option String) (relayAvailable : Bool)
    (exchange : Exchange) : Selection × Exchange :=
  let (candidates, exchange) := exchange.activeCandidatesForRoom now roomId
  (selectAmong options relayAvailable candidates, exchange)

end Exchange

/-- `resolveDirectAttempt`, which reads nothing of the exchange but its options. -/
def resolveDirectAttempt (options : ExchangeOptions) (selection : Option Selection) (outcome : Option Json)
    (relayAvailable : Bool) : Selection :=
  match selection with
  | none => relaySelection .noSafeDirectCandidate options.directAttemptTimeoutMs none
  | some selection =>
    if selection.path != some .direct then selection
    else if Json.isStr "connected" outcome then
      { selection with directAttempt := some "connected", joinFailure := some false }
    else if !relayAvailable then fail .relayUnavailable
    else relaySelection .directFailedRelayFallback options.directAttemptTimeoutMs selection.candidateId

/-! ### Runs -/

/-- A call of the exchange, which is answered at the time it is given. -/
inductive Operation
  | submitCandidate (roomId : Option String) (candidate : Option Candidate)
  | selectTransport (roomId : Option String) (relayAvailable : Bool)
  | listCandidatesForTest (roomId : Option String)

inductive Answer
  | submitted (result : Except RejectReason TransportCandidate)
  | selected (selection : Selection)
  | listed (candidates : List TransportCandidate)

/-- A call with the time at which it is made. -/
structure Call where
  now : Int
  operation : Operation

def step (options : ExchangeOptions) (exchange : Exchange) (call : Call) : Answer × Exchange :=
  match call.operation with
  | .submitCandidate roomId candidate =>
    let (result, exchange) := exchange.submitCandidate options call.now roomId candidate
    (.submitted result, exchange)
  | .selectTransport roomId relayAvailable =>
    let (selection, exchange) := exchange.selectTransport options call.now roomId relayAvailable
    (.selected selection, exchange)
  | .listCandidatesForTest roomId =>
    let (candidates, exchange) := exchange.activeCandidatesForRoom call.now roomId
    (.listed candidates, exchange)

/-- The exchange after a list of calls. -/
abbrev run (options : ExchangeOptions) (calls : List Call) : Exchange :=
  Machine.run (step options) createTransportCandidateExchange calls

/-- The calls with what each of them did. -/
abbrev trace (options : ExchangeOptions) (calls : List Call) : List (Machine.Fired Exchange Call Answer) :=
  Machine.trace (step options) createTransportCandidateExchange calls

/-! ### Direct attempts -/

variable {options : ExchangeOptions}

theorem selectAmong_cases (options : ExchangeOptions) (relayAvailable : Bool) (candidates : List TransportCandidate) :
    (∃ candidate, Exchange.selectAmong options relayAvailable candidates =
        directSelection options candidate relayAvailable) ∨
      Exchange.selectAmong options relayAvailable candidates = fail .relayUnavailable ∨
      ∃ reason, Exchange.selectAmong options relayAvailable candidates =
        relaySelection reason options.directAttemptTimeoutMs none := by
  unfold Exchange.selectAmong
  simp only
  cases (candidates.filter TransportCandidate.isDirect).find? isSafeDirectCandidate with
  | some candidate => exact .inl ⟨candidate, rfl⟩
  | none =>
    cases relayAvailable
    · exact .inr (.inl rfl)
    · exact .inr (.inr ⟨_, rfl⟩)

/-- A selection that is answered is one among some candidates. -/
private theorem selectAmong_of_selected {exchange : Exchange} {call : Call} {selection : Selection}
    (h : (step options exchange call).1 = .selected selection) :
    ∃ relayAvailable candidates, selection = Exchange.selectAmong options relayAvailable candidates := by
  obtain ⟨now, operation⟩ := call
  cases operation with
  | submitCandidate roomId candidate => cases h
  | selectTransport roomId relayAvailable => exact ⟨relayAvailable, _, (Answer.selected.inj h).symm⟩
  | listCandidatesForTest roomId => cases h

/-- While the relay is available, what becomes of a selection that succeeded is a working transport, whatever the
direct attempt led to; a selection that failed has no direct attempt and is returned as it is. -/
theorem resolveDirectAttempt_of_selected {calls : List Call} {fired : Machine.Fired Exchange Call Answer}
    (hfired : fired ∈ trace options calls) {selection : Selection} (hselected : fired.output = .selected selection)
    (outcome : Option Json) :
    (selection.ok = true →
        (resolveDirectAttempt options (some selection) outcome true).ok = true ∧
          (resolveDirectAttempt options (some selection) outcome true).joinFailure = some false) ∧
      (selection.ok = false → resolveDirectAttempt options (some selection) outcome true = selection) := by
  obtain ⟨earlier, later, -, hfire⟩ := Machine.mem_trace hfired
  rw [hfire] at hselected
  obtain ⟨relayAvailable, candidates, rfl⟩ := selectAmong_of_selected hselected
  rcases selectAmong_cases options relayAvailable candidates with ⟨candidate, h⟩ | h | ⟨reason, h⟩
  · rw [h]
    refine ⟨fun _ => ?_, fun hok => (by cases hok)⟩
    -- A direct attempt that did not connect leads to the relay.
    cases hconnected : Json.isStr "connected" outcome <;>
      simp [resolveDirectAttempt, directSelection, hconnected, relaySelection]
  · rw [h]
    exact ⟨fun hok => (by cases hok), fun _ => rfl⟩
  · rw [h]
    exact ⟨fun _ => ⟨rfl, rfl⟩, fun _ => rfl⟩

/-- A selection without a candidate while the relay was not available. -/
theorem not_resolveDirectAttempt_ok :
    ¬ ∀ (options : ExchangeOptions) (calls : List Call), ∀ fired ∈ trace options calls, ∀ selection,
      fired.output = .selected selection → ∀ outcome : Option Json,
        (resolveDirectAttempt options (some selection) outcome true).ok = true ∧
          (resolveDirectAttempt options (some selection) outcome true).joinFailure = some false := by
  intro h
  have hfailed := h {} [⟨0, .selectTransport (some "room-a") false⟩] _ (List.mem_singleton.2 rfl) _ rfl
    (some (.str "failed"))
  cases hfailed.1

/-- The candidate of a host at home. -/
def homeCandidate (roomId : String) (expiresAt : Int) : Candidate :=
  { id := none, roomId := some roomId, participantId := some (.str "host"), path := some (.str "direct"),
    networkType := some (.str "home_network"), directAllowed := some (.bool true), restricted := some (.bool false),
    createdAt := none, expiresAt := some expiresAt, diagnostics := none }

theorem resolveDirectAttempt_of_selected_home :
    ∃ selection : Selection, selection.path = some .direct ∧
      (resolveDirectAttempt {} (some selection) (some (.str "failed")) true).ok = true := by
  let calls : List Call :=
    [⟨0, .submitCandidate (some "room") (some (homeCandidate "room" 10))⟩, ⟨1, .selectTransport (some "room") false⟩]
  have hfired : (trace {} calls)[1] ∈ trace {} calls := List.getElem_mem _
  exact ⟨_, rfl, ((resolveDirectAttempt_of_selected hfired rfl (some (.str "failed"))).1 rfl).1⟩

/-! ### Selections and their history -/

/-- The candidates that were accepted for a room, in order. -/
def acceptedIn (roomId : Option String) (history : List (Machine.Fired Exchange Call Answer)) :
    List TransportCandidate :=
  history.filterMap fun fired =>
    match fired.input.operation, fired.output with
    | .submitCandidate roomId' _, .submitted (.ok candidate) => if roomId' = roomId then some candidate else none
    | _, _ => none

/-- A candidate that a direct attempt may use at a time. -/
structure IsUsable (now : Int) (candidate : TransportCandidate) : Prop where
  direct : candidate.path = some (.str "direct")
  unexpired : now < candidate.expiresAt
  home : candidate.networkType = some (.str "home_network")
  allowed : candidate.directAllowed = true
  unrestricted : candidate.restricted = false

/-- Candidates live until they expire. -/
abbrev lifetime : Lifetime Int TransportCandidate := .before TransportCandidate.expiresAt

theorem isUsable_iff {now : Int} {candidate : TransportCandidate} :
    IsUsable now candidate ↔ lifetime.live now candidate = true ∧ isSafeDirectCandidate candidate = true := by
  constructor
  · intro h
    simp [lifetime, Lifetime.before, isSafeDirectCandidate, TransportCandidate.isDirect, Json.isStr_iff, h.direct,
      h.unexpired, h.home, h.allowed, h.unrestricted, TransportPath.text, homeNetwork]
  · intro h
    simp only [lifetime, Lifetime.before, decide_eq_true_eq, isSafeDirectCandidate, TransportCandidate.isDirect,
      Bool.and_eq_true, Json.isStr_iff, Bool.not_eq_true'] at h
    obtain ⟨hlive, ⟨⟨hdirect, hhome⟩, hallowed⟩, hrestricted⟩ := h
    exact ⟨hdirect, hlive, hhome, hallowed, hrestricted⟩

instance decidableIsUsable (now : Int) (candidate : TransportCandidate) : Decidable (IsUsable now candidate) :=
  decidable_of_iff _ isUsable_iff.symm

section History

variable {t u : Int} {exchange : Exchange} {history : List (Machine.Fired Exchange Call Answer)}
  {roomId room : Option String}

/-- What is stored for each room is, from `t` on, what was accepted for it. -/
def Remembers (t : Int) (exchange : Exchange) (history : List (Machine.Fired Exchange Call Answer)) : Prop :=
  ∀ roomId, lifetime.SameFrom t (exchange.stored roomId) (acceptedIn roomId history)

theorem Remembers.start (t : Int) : Remembers t createTransportCandidateExchange [] :=
  fun _ => .refl lifetime t []

theorem Remembers.mono (h : Remembers t exchange history) (htu : t ≤ u) : Remembers u exchange history :=
  fun roomId => (h roomId).mono htu

theorem acceptedIn_append (roomId : Option String) (history later : List (Machine.Fired Exchange Call Answer)) :
    acceptedIn roomId (history ++ later) = acceptedIn roomId history ++ acceptedIn roomId later :=
  List.filterMap_append

theorem stored_set (candidates : List TransportCandidate) (n : Nat) :
    Exchange.stored ⟨exchange.candidatesByRoom.set roomId candidates, n⟩ room =
      if roomId = room then candidates else exchange.stored room := by
  unfold Exchange.stored
  rw [JsMap.get_set]
  split <;> rfl

/-- To read a room drops its expired candidates and no others. -/
theorem stored_activeCandidatesForRoom (now : Int) :
    (exchange.activeCandidatesForRoom now roomId).2.stored room =
      if roomId = room then lifetime.keep now (exchange.stored room) else exchange.stored room := by
  have hactive : (exchange.activeCandidatesForRoom now roomId).2 =
      if (lifetime.keep now (exchange.stored roomId)).length != (exchange.stored roomId).length then
        ⟨exchange.candidatesByRoom.set roomId (lifetime.keep now (exchange.stored roomId)),
          exchange.nextCandidateId⟩
      else exchange := rfl
  rw [hactive]
  by_cases hroom : roomId = room
  · subst hroom
    rw [if_pos rfl]
    split
    · rw [stored_set, if_pos rfl]
    · rename_i hlength
      -- As many candidates are left as there were, so none was dropped.
      have hall : ∀ candidate ∈ exchange.stored roomId, lifetime.live now candidate = true := by
        have hlength : (lifetime.keep now (exchange.stored roomId)).length = (exchange.stored roomId).length := by
          simpa using hlength
        exact List.length_filter_eq_length_iff.1 hlength
      exact (List.filter_eq_self.2 hall).symm
  · rw [if_neg hroom]
    split
    · rw [stored_set, if_neg hroom]
    · rfl

theorem Remembers.activeCandidatesForRoom (h : Remembers t exchange history) :
    Remembers t (exchange.activeCandidatesForRoom t roomId).2 history := by
  intro room
  rw [stored_activeCandidatesForRoom]
  split
  · exact (h room).keep_left
  · exact h room

/-- A submission adds its candidate to those of its room, or changes nothing. -/
theorem submitCandidate_cases (options : ExchangeOptions) (now : Int) (roomId : Option String)
    (candidate : Option Candidate) (exchange : Exchange) :
    (∃ reason, exchange.submitCandidate options now roomId candidate = (.error reason, exchange)) ∨
      ∃ (c : TransportCandidate) (n : Nat), exchange.submitCandidate options now roomId candidate =
        (.ok c, ⟨exchange.candidatesByRoom.set roomId (exchange.stored roomId ++ [c]), n⟩) := by
  unfold Exchange.submitCandidate
  cases candidate with
  | none => exact .inl ⟨_, rfl⟩
  | some candidate =>
    dsimp only
    split
    · exact .inl ⟨_, rfl⟩
    split
    · exact .inl ⟨_, rfl⟩
    split
    · exact .inl ⟨_, rfl⟩
    · exact .inr ⟨_, _, rfl⟩

/-- What one call does to what is remembered. -/
theorem Remembers.step (options : ExchangeOptions) (h : Remembers t exchange history) {call : Call}
    (hnow : t ≤ call.now) :
    Remembers call.now (step options exchange call).2
      (history ++ [Machine.fire (Transport.step options) exchange call]) := by
  have h := h.mono hnow
  obtain ⟨now, operation⟩ := call
  intro room
  rw [acceptedIn_append]
  cases operation with
  | selectTransport roomId relayAvailable =>
    have hnone : acceptedIn room [Machine.fire (Transport.step options) exchange
        ⟨now, .selectTransport roomId relayAvailable⟩] = [] := rfl
    rw [hnone, List.append_nil]
    exact h.activeCandidatesForRoom room
  | listCandidatesForTest roomId =>
    have hnone : acceptedIn room [Machine.fire (Transport.step options) exchange
        ⟨now, .listCandidatesForTest roomId⟩] = [] := rfl
    rw [hnone, List.append_nil]
    exact h.activeCandidatesForRoom room
  | submitCandidate roomId candidate =>
    rcases submitCandidate_cases options now roomId candidate exchange with ⟨reason, hsubmit⟩ | ⟨c, n, hsubmit⟩
    · simp only [Transport.step, Machine.fire, hsubmit, acceptedIn, List.filterMap_cons, List.filterMap_nil,
        List.append_nil]
      exact h room
    · simp only [Transport.step, Machine.fire, hsubmit, acceptedIn, List.filterMap_cons, List.filterMap_nil,
        stored_set]
      by_cases hroom : roomId = room
      · subst hroom
        rw [if_pos rfl, if_pos rfl]
        exact (h roomId).append [c]
      · rw [if_neg hroom, if_neg hroom, List.append_nil]
        exact h room

/-- What is remembered after calls at times that never go back. -/
private theorem Remembers.of_run (options : ExchangeOptions) (h : Remembers t exchange history) {calls : List Call}
    (hclock : (t :: calls.map Call.now).Pairwise (· ≤ ·)) (hu : ∀ now ∈ t :: calls.map Call.now, now ≤ u) :
    Remembers u (Machine.run (Transport.step options) exchange calls)
      (history ++ Machine.trace (Transport.step options) exchange calls) := by
  induction calls generalizing t exchange history with
  | nil =>
    rw [Machine.trace, List.append_nil]
    exact h.mono (hu t (by simp))
  | cons call calls ih =>
    obtain ⟨hfirst, hrest⟩ := List.pairwise_cons.1 hclock
    have hstep := h.step options (hfirst call.now (by simp))
    have := ih hstep hrest (fun now hnow => hu now (List.mem_cons_of_mem _ hnow))
    rwa [List.append_assoc] at this

/-- Times that never go back, up to `now`. -/
abbrev ClockedUntil (calls : List Call) (now : Int) : Prop := (calls.map Call.now ++ [now]).Pairwise (· ≤ ·)

theorem Remembers.run (options : ExchangeOptions) {calls : List Call} {now : Int} (hclock : ClockedUntil calls now) :
    Remembers now (Transport.run options calls) (trace options calls) := by
  obtain ⟨hcalls, -, hlast⟩ := List.pairwise_append.1 hclock
  have hlast : ∀ time ∈ calls.map Call.now, time ≤ now := fun time htime => hlast time htime now (by simp)
  cases calls with
  | nil => exact .start now
  | cons call calls =>
    have hfirst := Machine.clocked_cons hcalls
    have hbound : ∀ time ∈ call.now :: (call :: calls).map Call.now, time ≤ now := by
      intro time htime
      rcases List.mem_cons.1 htime with rfl | htime
      · exact hlast _ (by simp)
      · exact hlast time htime
    simpa using (Remembers.start call.now).of_run options hfirst hbound

end History

/-! ### What does not depend on the ids -/

/-- A candidate without its id, which may be a number of the exchange's own. -/
def TransportCandidate.anonymous (candidate : TransportCandidate) : TransportCandidate :=
  { candidate with id := .null }

def Selection.anonymous (selection : Selection) : Selection :=
  { selection with candidateId := selection.candidateId.map fun _ => .null }

theorem selectAmong_anonymous (relayAvailable : Bool) (candidates : List TransportCandidate) :
    (Exchange.selectAmong options relayAvailable candidates).anonymous =
      Exchange.selectAmong options relayAvailable (candidates.map TransportCandidate.anonymous) := by
  have hdirect : (candidates.map TransportCandidate.anonymous).filter TransportCandidate.isDirect =
      (candidates.filter TransportCandidate.isDirect).map TransportCandidate.anonymous := List.filter_map
  unfold Exchange.selectAmong
  rw [hdirect]
  generalize candidates.filter TransportCandidate.isDirect = direct
  have hsafe : (direct.map TransportCandidate.anonymous).find? isSafeDirectCandidate =
      (direct.find? isSafeDirectCandidate).map TransportCandidate.anonymous := List.find?_map
  have hrestricted : (direct.map TransportCandidate.anonymous).any isRestrictedDirectCandidate =
      direct.any isRestrictedDirectCandidate := List.any_map
  dsimp only
  rw [hsafe, hrestricted]
  cases direct.find? isSafeDirectCandidate with
  | some candidate => rfl
  | none => cases relayAvailable <;> rfl

/-- The call submits a candidate to the room. -/
def submitsTo (roomId : Option String) (call : Call) : Bool :=
  match call.operation with
  | .submitCandidate roomId' _ => roomId' == roomId
  | _ => false

/-- The candidate that a submission brings, if it is accepted. -/
def admitted (options : ExchangeOptions) (call : Call) : Option TransportCandidate :=
  match call.operation with
  | .submitCandidate roomId candidate =>
    ((createTransportCandidateExchange.submitCandidate options call.now roomId candidate).1.toOption).map
      TransportCandidate.anonymous
  | _ => none

/-- Whether a submission is accepted does not depend on what is stored. -/
theorem submitCandidate_anonymous (options : ExchangeOptions) (now : Int) (roomId : Option String) (candidate : Option Candidate)
    (exchange exchange' : Exchange) :
    ((exchange.submitCandidate options now roomId candidate).1.toOption).map TransportCandidate.anonymous =
      ((exchange'.submitCandidate options now roomId candidate).1.toOption).map TransportCandidate.anonymous := by
  unfold Exchange.submitCandidate
  cases candidate with
  | none => rfl
  | some candidate =>
    dsimp only
    split
    · rfl
    split
    · rfl
    split
    · rfl
    · rfl

theorem acceptedIn_anonymous (roomId : Option String) (exchange : Exchange) (calls : List Call) :
    (acceptedIn roomId (Machine.trace (step options) exchange calls)).map TransportCandidate.anonymous =
      (calls.filter (submitsTo roomId)).filterMap (admitted options) := by
  induction calls generalizing exchange with
  | nil => rfl
  | cons call calls ih =>
    have hcons : acceptedIn roomId (Machine.trace (step options) exchange (call :: calls)) =
        acceptedIn roomId [Machine.fire (step options) exchange call] ++
          acceptedIn roomId (Machine.trace (step options) (step options exchange call).2 calls) := by
      rw [← acceptedIn_append]
      rfl
    rw [hcons, List.map_append, ih]
    obtain ⟨now, operation⟩ := call
    cases operation with
    | selectTransport => rfl
    | listCandidatesForTest => rfl
    | submitCandidate roomId' candidate =>
      have hsame := submitCandidate_anonymous options now roomId' candidate exchange
        createTransportCandidateExchange
      by_cases hroom : roomId' = roomId
      · subst hroom
        have hsubmits : submitsTo roomId' ⟨now, .submitCandidate roomId' candidate⟩ = true := by simp [submitsTo]
        rw [List.filter_cons_of_pos hsubmits, List.filterMap_cons]
        have hadmitted : admitted options ⟨now, .submitCandidate roomId' candidate⟩ =
            ((exchange.submitCandidate options now roomId' candidate).1.toOption).map
              TransportCandidate.anonymous := hsame.symm
        rw [hadmitted]
        simp only [acceptedIn, Machine.fire, step, List.filterMap_cons, List.filterMap_nil]
        cases (exchange.submitCandidate options now roomId' candidate).1 with
        | error reason => rfl
        | ok c => simp [Except.toOption]
      · have hsubmits : ¬ submitsTo roomId ⟨now, .submitCandidate roomId' candidate⟩ = true := by
          simpa [submitsTo] using hroom
        rw [List.filter_cons_of_neg hsubmits]
        simp only [acceptedIn, Machine.fire, step, List.filterMap_cons, List.filterMap_nil]
        cases (exchange.submitCandidate options now roomId' candidate).1 with
        | error reason => rfl
        | ok c => simp [hroom]

/-! ### Selections are functions of what was accepted -/

/-- What a selection at `now` is when `accepted` was accepted for its room. -/
structure ChosenFrom (options : ExchangeOptions) (now : Int) (relayAvailable : Bool)
    (accepted : List TransportCandidate) (selection : Selection) : Prop where
  direct_iff : selection.path = some .direct ↔ ∃ candidate ∈ accepted, IsUsable now candidate
  earliest : ∀ candidate, accepted.find? (fun candidate => decide (IsUsable now candidate)) = some candidate →
    selection = directSelection options candidate relayAvailable
  relay : (∀ candidate ∈ accepted, ¬ IsUsable now candidate) → relayAvailable = true →
    ∃ reason, selection = relaySelection reason options.directAttemptTimeoutMs none
  failure : (∀ candidate ∈ accepted, ¬ IsUsable now candidate) → relayAvailable = false →
    selection = fail .relayUnavailable

private theorem find_keep (now : Int) (accepted : List TransportCandidate) :
    ((lifetime.keep now accepted).filter TransportCandidate.isDirect).find? isSafeDirectCandidate =
      accepted.find? fun candidate => decide (IsUsable now candidate) := by
  unfold Lifetime.keep
  rw [List.filter_filter, List.find?_filter]
  congr 1
  funext candidate
  have hdirect : isSafeDirectCandidate candidate = true → candidate.isDirect = true := by
    intro h
    simp only [isSafeDirectCandidate, Bool.and_eq_true] at h
    exact h.1.1.1
  apply Bool.eq_iff_iff.2
  simp only [decide_eq_true_eq, Bool.and_eq_true, isUsable_iff]
  tauto

theorem selectAmong_keep (now : Int) (relayAvailable : Bool) (accepted : List TransportCandidate) :
    ChosenFrom options now relayAvailable accepted
      (Exchange.selectAmong options relayAvailable (lifetime.keep now accepted)) := by
  have hnone : accepted.find? (fun candidate => decide (IsUsable now candidate)) = none ↔
      ∀ candidate ∈ accepted, ¬ IsUsable now candidate := by simp
  have hselect : Exchange.selectAmong options relayAvailable (lifetime.keep now accepted) =
      match accepted.find? fun candidate => decide (IsUsable now candidate) with
      | some candidate => directSelection options candidate relayAvailable
      | none =>
        if !relayAvailable then fail .relayUnavailable
        else relaySelection
          (if ((lifetime.keep now accepted).filter TransportCandidate.isDirect).any isRestrictedDirectCandidate then
            .restrictedNetworkFallback else .noSafeDirectCandidate) options.directAttemptTimeoutMs none := by
    rw [← find_keep]
    rfl
  rw [hselect]
  cases hfind : accepted.find? fun candidate => decide (IsUsable now candidate) with
  | some candidate =>
    have hmem := List.mem_of_find?_eq_some hfind
    have husable : IsUsable now candidate := by simpa using List.find?_some hfind
    refine ⟨⟨fun _ => ⟨candidate, hmem, husable⟩, fun _ => rfl⟩, ?_, ?_, ?_⟩
    · intro candidate' h
      rw [hfind] at h
      cases h
      rfl
    · intro h
      exact absurd husable (h candidate hmem)
    · intro h
      exact absurd husable (h candidate hmem)
  | none =>
    have hno := hnone.1 hfind
    refine ⟨?_, ?_, ?_, ?_⟩
    · constructor
      · intro h
        cases relayAvailable <;> cases h
      · rintro ⟨candidate, hmem, husable⟩
        exact absurd husable (hno candidate hmem)
    · intro candidate h
      rw [hfind] at h
      cases h
    · intro _ hrelay
      subst hrelay
      exact ⟨_, rfl⟩
    · intro _ hrelay
      subst hrelay
      rfl

/-- What a selection chooses after calls at times that never go back: a direct candidate if one of those accepted for
its room may be used now, and then the first of them; else the relay while it is available.  Other calls with the
same submissions to that room, and with others and readings elsewhere among them, lead to the same selection but for
the number in the candidate's id. -/
theorem selectTransport_of_history (options : ExchangeOptions) {calls : List Call} {now : Int}
    (hclock : ClockedUntil calls now) (roomId : Option String) (relayAvailable : Bool) :
    ChosenFrom options now relayAvailable (acceptedIn roomId (trace options calls))
        ((run options calls).selectTransport options now roomId relayAvailable).1 ∧
      ∀ calls' : List Call, ClockedUntil calls' now →
        calls'.filter (submitsTo roomId) = calls.filter (submitsTo roomId) →
          ((run options calls').selectTransport options now roomId relayAvailable).1.anonymous =
            ((run options calls).selectTransport options now roomId relayAvailable).1.anonymous := by
  have hselect : ∀ calls : List Call, ClockedUntil calls now →
      ((run options calls).selectTransport options now roomId relayAvailable).1 =
        Exchange.selectAmong options relayAvailable
          (lifetime.keep now (acceptedIn roomId (trace options calls))) := by
    intro calls hclock
    have hkeep := ((Remembers.run options hclock) roomId).keep_eq
    rw [← hkeep]
    rfl
  constructor
  · rw [hselect calls hclock]
    exact selectAmong_keep now relayAvailable _
  · intro calls' hclock' hsame
    have hkept : ∀ candidates : List TransportCandidate,
        (lifetime.keep now candidates).map TransportCandidate.anonymous =
          lifetime.keep now (candidates.map TransportCandidate.anonymous) := by
      intro candidates
      unfold Lifetime.keep
      rw [List.filter_map]
      rfl
    rw [hselect calls hclock, hselect calls' hclock', selectAmong_anonymous, selectAmong_anonymous, hkept, hkept,
      acceptedIn_anonymous, acceptedIn_anonymous, hsame]

/-- Two candidates in one room, the first of which expires before the selection, and one in another room. -/
def homeCalls : List Call :=
  [⟨0, .submitCandidate (some "a") (some (homeCandidate "a" 3))⟩,
    ⟨1, .submitCandidate (some "b") (some (homeCandidate "b" 20))⟩,
    ⟨2, .submitCandidate (some "a") (some (homeCandidate "a" 10))⟩, ⟨3, .listCandidatesForTest (some "a")⟩]

theorem selectTransport_of_history_home :
    ∃ candidate : TransportCandidate, candidate.expiresAt = 10 ∧
      ((run {} homeCalls).selectTransport {} 4 (some "a") true).1 = directSelection {} candidate true := by
  have hclock : ClockedUntil homeCalls 4 := by decide
  exact ⟨_, rfl, (selectTransport_of_history {} hclock (some "a") true).1.earliest _ rfl⟩

end EasyMc.ControlPlane.Transport
