import EasyMc.ControlPlane.Simulation

/-!
# The HTTP boundary (`services/control-plane/src/http/handlers.mjs`)

`createControlPlaneHttpBoundary` over the simulation: the routes of `handle`, the handlers behind them, and the
bindings they keep.  A request has its method after `normalizeMethod`, and its headers and the fields of its body are
strings, where `none` stands for a field that is missing or `null`.  Another value of a field, which `requireFields`
lets through and which names no handle and no request, is not in the model.
-/

namespace EasyMc.Http

open ControlPlane (Reply Reason)
open Domain

inductive Method
  | get | post | other
  deriving DecidableEq, Repr

/-- The fields of a request body that the handlers read. -/
structure Body where
  roomAlias : Option String
  minecraftVersion : Option String
  packProfileName : Option String
  inviteHandle : Option String
  friendId : Option String
  minecraftUuid : Option String
  displayName : Option String
  requestId : Option String
  decision : Option ApprovalState
  deriving DecidableEq, Repr

/-- The headers are the entries of the header object in their order. -/
structure Request where
  method : Method
  path : Option String
  headers : List (String × String)
  body : Body
  deriving DecidableEq, Repr

structure PublicRoom where
  id : String
  roomAlias : Option String
  minecraftVersion : Option String
  packProfileName : Option String
  state : RoomState
  deriving DecidableEq, Repr

inductive ResponseBody
  | error (reason : Reason)
  | missingField (field : String)
  | invalidDecision
  | routeNotFound
  | unavailable (reason : ErrorState)
  | room (room : PublicRoom)
  | heartbeat (roomId : String)
  | inviteCreated (handle : String) (expiresAt : Int)
  | inviteRevoked (handle : String)
  | invite (invite : SafeInvite)
  | request (id : String) (state : ApprovalState)
  | requests (requests : List QueuedRequest)
  | session (handle : String) (expiresAt : Int)
  deriving DecidableEq, Repr

/-- A response; its headers are always `content-type: application/json`. -/
structure Response where
  status : Nat
  body : ResponseBody
  deriving DecidableEq, Repr

structure InviteBinding where
  token : String
  inviteId : String
  roomId : String
  deriving DecidableEq, Repr

structure RequestBinding where
  roomId : String
  inviteId : String
  minecraftUuid : Option String
  deriving DecidableEq, Repr

structure SessionBinding where
  sessionId : String
  requestId : String
  deriving DecidableEq, Repr

structure Boundary where
  simulation : Simulation
  inviteHandles : JsMap String InviteBinding
  requestBindings : JsMap String RequestBinding
  sessionHandles : JsMap String SessionBinding

def createControlPlaneHttpBoundary (initialNow : Int) : Boundary :=
  { simulation := createControlPlaneSimulation initialNow, inviteHandles := .empty, requestBindings := .empty,
    sessionHandles := .empty }

/-! ### Requests and responses -/

def headerActorId : String := "x-actor-id"

def headerActorType : String := "x-actor-type"

def json (status : Nat) (body : ResponseBody) : Response := { status := status, body := body }

/-- The last header of that name, whatever the case of its letters. -/
def readHeader (headers : List (String × String)) (name : String) : Option String :=
  (headers.reverse.find? fun entry => entry.1.toList.map Char.toLower == name.toList).map Prod.snd

def actorIdFrom (headers : List (String × String)) : Option String := readHeader headers headerActorId

def actorTypeFrom (headers : List (String × String)) : Option String := readHeader headers headerActorType

/-- A path without its trailing slash. -/
def normalizePath (path : Option String) : List Char :=
  match path with
  | none => ['/']
  | some path =>
    if path = "" then ['/']
    else if path.toList.getLast? = some '/' ∧ 1 < path.toList.length then path.toList.dropLast
    else path.toList

/-- The parts of a path between its slashes. -/
def segments : List Char → List (List Char)
  | [] => [[]]
  | c :: rest =>
    if c = '/' then [] :: segments rest
    else
      match segments rest with
      | part :: parts => (c :: part) :: parts
      | [] => [[c]]

def missingField (field : String) : Response := json 400 (.missingField field)

/-- The first field that is missing or empty. -/
def requireFields (fields : List (String × Option String)) : Option Response :=
  (fields.find? fun field => field.2 == none || field.2 == some "").map fun field => missingField field.1

def statusForReason (reason : Reason) : Nat :=
  if reason = .error .inviteUnavailable ∨ reason = .error .roomClosed then 404
  else if reason = .error .approvalRequired ∨ reason = .error .sessionUnavailable then 403
  else 400

def domainError (reason : Reason) : Response := json (statusForReason reason) (.error reason)

def publicRoom (room : Room) : PublicRoom :=
  { id := room.id, roomAlias := room.roomAlias, minecraftVersion := room.minecraftVersion,
    packProfileName := room.packProfileName, state := room.state }

def hostDecisions : List ApprovalState := [.approved, .denied, .blocked]

/-! ### Handlers -/

variable (options : Options) (b : Boundary)

def createRoom (actorId : Option String) (body : Body) : Response × Boundary :=
  if !truthy actorId then (missingField "actorId", b)
  else
    match requireFields [("alias", body.roomAlias), ("minecraftVersion", body.minecraftVersion),
        ("packProfileName", body.packProfileName)] with
    | some missing => (missing, b)
    | none =>
      let (room, simulation) :=
        Domain.createRoom options b.simulation actorId body.roomAlias body.minecraftVersion body.packProfileName
      (json 201 (.room (publicRoom room)), { b with simulation := simulation })

def heartbeatHost (actorId : Option String) (roomId : String) : Response × Boundary :=
  if !truthy actorId then (missingField "actorId", b)
  else
    let (ok, simulation) := Domain.heartbeatHost b.simulation actorId roomId
    if !ok then (domainError (.error .sessionUnavailable), { b with simulation := simulation })
    else (json 200 (.heartbeat roomId), { b with simulation := simulation })

def createInvite (actorId : Option String) (roomId : String) : Response × Boundary :=
  if !truthy actorId then (missingField "actorId", b)
  else
    let (result, simulation) := Domain.createInvite options b.simulation actorId roomId
    match result with
    | .fail reason => (domainError reason, { b with simulation := simulation })
    | .ok invite =>
      let inviteHandle := "invite_handle_" ++ options.random.randomUUID simulation.draws
      (json 201 (.inviteCreated inviteHandle invite.expiresAt),
        { b with
          simulation := { simulation with draws := simulation.draws + 1 }
          inviteHandles := b.inviteHandles.set inviteHandle
            { token := invite.token, inviteId := invite.inviteId, roomId := roomId } })

def revokeInvite (actorId : Option String) (inviteHandle : String) : Response × Boundary :=
  if !truthy actorId then (missingField "actorId", b)
  else
    let binding := b.inviteHandles.get inviteHandle
    let (result, simulation) := Domain.revokeInvite b.simulation actorId (binding.map InviteBinding.inviteId)
    match result with
    | .fail reason => (domainError reason, { b with simulation := simulation })
    | .ok _ => (json 200 (.inviteRevoked inviteHandle), { b with simulation := simulation })

def readSafeInviteStatus (inviteHandle : Option String) : Response × Boundary :=
  let binding := inviteHandle.bind b.inviteHandles.get
  match Domain.readSafeInviteStatus options b.simulation (binding.map InviteBinding.token) with
  | .unavailable reason => (json 404 (.unavailable reason), b)
  | .available invite => (json 200 (.invite invite), b)

/-- A request that the simulation accepts has a binding, so the last case does not arise. -/
def createJoinRequest (body : Body) : Response × Boundary :=
  match requireFields [("inviteHandle", body.inviteHandle), ("friendId", body.friendId),
      ("minecraftUuid", body.minecraftUuid), ("displayName", body.displayName)] with
  | some missing => (missing, b)
  | none =>
    let binding := body.inviteHandle.bind b.inviteHandles.get
    let (result, simulation) :=
      Domain.createJoinRequest options b.simulation (binding.map InviteBinding.token) body.friendId
        body.minecraftUuid body.displayName
    match result, binding with
    | .fail reason, _ => (domainError reason, { b with simulation := simulation })
    | .ok status, some binding =>
      (json 202 (.request status.requestId status.state),
        { b with
          simulation := simulation
          requestBindings := b.requestBindings.set status.requestId
            { roomId := binding.roomId, inviteId := binding.inviteId, minecraftUuid := body.minecraftUuid } })
    | .ok status, none => (json 202 (.request status.requestId status.state), { b with simulation := simulation })

def readApprovalQueue (actorId : Option String) (roomId : String) : Response × Boundary :=
  if !truthy actorId then (missingField "actorId", b)
  else
    match Domain.readApprovalQueue b.simulation actorId roomId with
    | .fail reason => (domainError reason, b)
    | .ok requests => (json 200 (.requests requests), b)

def decideJoinRequest (actorId : Option String) (requestId : String) (decision : Option ApprovalState) :
    Response × Boundary :=
  if !truthy actorId then (missingField "actorId", b)
  else if !(decision.any fun decision => hostDecisions.contains decision) then (json 400 .invalidDecision, b)
  else
    let (result, simulation) := Domain.decideJoinRequest b.simulation actorId requestId decision
    match result with
    | .fail reason => (domainError reason, { b with simulation := simulation })
    | .ok state => (json 200 (.request requestId state), { b with simulation := simulation })

def issueSession (actorType : Option String) (body : Body) : Response × Boundary :=
  if actorType ≠ some "service" then (domainError (.error .sessionUnavailable), b)
  else
    match requireFields [("requestId", body.requestId), ("minecraftUuid", body.minecraftUuid)] with
    | some missing => (missing, b)
    | none =>
      let requestId := body.requestId.getD ""
      let binding := b.requestBindings.get requestId
      let (result, simulation) :=
        Domain.issueSession options b.simulation requestId (binding.map RequestBinding.roomId)
          (binding.map RequestBinding.inviteId) body.minecraftUuid
      match result with
      | .fail reason => (domainError reason, { b with simulation := simulation })
      | .ok session =>
        let sessionHandle := "session_handle_" ++ options.random.randomUUID simulation.draws
        (json 201 (.session sessionHandle session.expiresAt),
          { b with
            simulation := { simulation with draws := simulation.draws + 1 }
            sessionHandles := b.sessionHandles.set sessionHandle
              { sessionId := session.sessionId, requestId := requestId } })

/-! ### Routes -/

/-- What a request is routed to. -/
inductive Route
  | createRoom
  | heartbeatHost (roomId : String)
  | createInvite (roomId : String)
  | revokeInvite (inviteHandle : String)
  | readSafeInviteStatus (inviteHandle : Option String)
  | createJoinRequest
  | readApprovalQueue (roomId : String)
  | decideJoinRequest (requestId : String)
  | issueSession
  | notFound
  deriving DecidableEq, Repr

/-- A parameter of a path, `([^/]+)`, is not empty. -/
def withParameter (parameter : String) (route : String → Route) : Route :=
  if parameter = "" then .notFound else route parameter

/-- The routes of `handle`, by the method and the parts of the path. -/
def route (method : Method) (path : List String) : Route :=
  match method, path with
  | .post, ["", "host", "rooms"] => .createRoom
  | .post, ["", "host", "rooms", roomId, "heartbeat"] => withParameter roomId .heartbeatHost
  | .post, ["", "host", "rooms", roomId, "invites"] => withParameter roomId .createInvite
  | .post, ["", "host", "invites", inviteHandle, "revoke"] => withParameter inviteHandle .revokeInvite
  | .get, ["", "friend", "invites", inviteHandle] =>
    withParameter inviteHandle fun inviteHandle => .readSafeInviteStatus (some inviteHandle)
  | .get, ["", "friend", "invites"] => .readSafeInviteStatus none
  | .post, ["", "friend", "join-requests"] => .createJoinRequest
  | .get, ["", "host", "rooms", roomId, "approval-queue"] => withParameter roomId .readApprovalQueue
  | .post, ["", "host", "join-requests", requestId, "decision"] => withParameter requestId .decideJoinRequest
  | .post, ["", "service", "sessions"] => .issueSession
  | _, _ => .notFound

def handle (request : Request) : Response × Boundary :=
  match route request.method ((segments (normalizePath request.path)).map String.ofList) with
  | .createRoom => createRoom options b (actorIdFrom request.headers) request.body
  | .heartbeatHost roomId => heartbeatHost b (actorIdFrom request.headers) roomId
  | .createInvite roomId => createInvite options b (actorIdFrom request.headers) roomId
  | .revokeInvite inviteHandle => revokeInvite b (actorIdFrom request.headers) inviteHandle
  | .readSafeInviteStatus inviteHandle => readSafeInviteStatus options b inviteHandle
  | .createJoinRequest => createJoinRequest options b request.body
  | .readApprovalQueue roomId => readApprovalQueue b (actorIdFrom request.headers) roomId
  | .decideJoinRequest requestId =>
    decideJoinRequest b (actorIdFrom request.headers) requestId request.body.decision
  | .issueSession => issueSession options b (actorTypeFrom request.headers) request.body
  | .notFound => (json 404 .routeNotFound, b)

/-- A request, or an operation on the simulation that the boundary shares. -/
inductive Input
  | request (request : Request)
  | simulation (operation : Operation)

def Boundary.step (b : Boundary) : Input → Option Response × Boundary
  | .request request =>
    let (response, b) := handle options b request
    (some response, b)
  | .simulation operation => (none, { b with simulation := (b.simulation.step options operation).2 })

/-! ### Tokens -/

/-- No token was stored. -/
structure SameTokens (s s' : Simulation) : Prop where
  rawTokens : s'.rawTokens = s.rawTokens
  draws : s.draws ≤ s'.draws

theorem SameTokens.refl (s : Simulation) : SameTokens s s := ⟨rfl, Nat.le_refl _⟩

section Tokens

variable (options : Options) (s : Simulation)

theorem createRoom_tokens (hostId roomAlias minecraftVersion packProfileName : Option String) :
    SameTokens s (Domain.createRoom options s hostId roomAlias minecraftVersion packProfileName).2 :=
  ⟨rfl, Nat.le_succ _⟩

theorem heartbeatHost_tokens (actorId : Option String) (roomId : String) :
    SameTokens s (Domain.heartbeatHost s actorId roomId).2 := by
  unfold Domain.heartbeatHost
  split
  · exact .refl s
  · split
    · exact .refl s
    · exact ⟨rfl, Nat.le_refl _⟩

theorem revokeInvite_tokens (actorId inviteId : Option String) :
    SameTokens s (Domain.revokeInvite s actorId inviteId).2 := by
  unfold Domain.revokeInvite
  split
  · exact .refl s
  · split
    · exact .refl s
    · split
      · exact .refl s
      · split <;> exact ⟨rfl, Nat.le_refl _⟩

theorem createJoinRequest_tokens (token friendId minecraftUuid displayName : Option String) :
    SameTokens s (Domain.createJoinRequest options s token friendId minecraftUuid displayName).2 := by
  unfold Domain.createJoinRequest
  split
  · exact .refl s
  · split
    · exact .refl s
    · split
      · exact .refl s
      · exact ⟨rfl, Nat.le_succ _⟩

theorem decideJoinRequest_tokens (actorId : Option String) (requestId : String) (decision : Option ApprovalState) :
    SameTokens s (Domain.decideJoinRequest s actorId requestId decision).2 := by
  unfold Domain.decideJoinRequest
  split
  · split
    · exact .refl s
    · split
      · exact .refl s
      · split <;> exact ⟨rfl, Nat.le_refl _⟩
  · exact .refl s

theorem issueSession_tokens (requestId : String) (roomId inviteId minecraftUuid : Option String) :
    SameTokens s (Domain.issueSession options s requestId roomId inviteId minecraftUuid).2 := by
  unfold Domain.issueSession
  split
  · exact .refl s
  · split
    · dsimp only
      split
      · exact .refl s
      · split
        · exact .refl s
        · exact ⟨rfl, Nat.le_succ _⟩
    · exact .refl s

/-- A created invite has the token drawn for it, stored under its hash. -/
structure StoredToken (options : Options) (s : Simulation) (invite : IssuedInvite) (s' : Simulation) : Prop where
  token : invite.token = options.random.createInviteToken s.draws
  rawTokens : s'.rawTokens = s.rawTokens.set (options.random.hashInviteToken invite.token) invite.inviteId
  draws : s.draws < s'.draws

theorem createInvite_tokens (actorId : Option String) (roomId : String) :
    (∃ reason, (Domain.createInvite options s actorId roomId).1 = .fail reason ∧
      SameTokens s (Domain.createInvite options s actorId roomId).2) ∨
    ∃ invite, (Domain.createInvite options s actorId roomId).1 = .ok invite ∧
      StoredToken options s invite (Domain.createInvite options s actorId roomId).2 := by
  unfold Domain.createInvite createInviteRecord
  split
  · exact .inl ⟨_, rfl, rfl, Nat.le_succ _⟩
  · split
    · exact .inl ⟨_, rfl, rfl, Nat.le_succ _⟩
    · refine .inr ⟨_, rfl, rfl, rfl, ?_⟩
      change s.draws < s.draws + 1 + 2
      omega

end Tokens

/-! ### Handles and tokens -/

section Handles

variable {options : Options} {b b' : Boundary}

/-- Every handle was bound with a drawn token, which resolves to the invite of the binding. -/
structure Bound (options : Options) (b : Boundary) : Prop where
  drawn : ∀ handle binding, b.inviteHandles.get handle = some binding →
    ∃ n < b.simulation.draws, binding.token = options.random.createInviteToken n
  resolves : ∀ handle binding, b.inviteHandles.get handle = some binding →
    b.simulation.rawTokens.get (options.random.hashInviteToken binding.token) = some binding.inviteId

theorem Bound.start (options : Options) (now : Int) : Bound options (createControlPlaneHttpBoundary now) where
  drawn := fun _ _ h => nomatch h
  resolves := fun _ _ h => nomatch h

/-- What stores no token and binds no handle keeps the bindings. -/
theorem Bound.same (h : Bound options b) (htokens : SameTokens b.simulation b'.simulation)
    (hhandles : b'.inviteHandles = b.inviteHandles) : Bound options b' where
  drawn := by
    intro handle binding hget
    obtain ⟨n, hn, htoken⟩ := h.drawn handle binding (hhandles ▸ hget)
    exact ⟨n, Nat.lt_of_lt_of_le hn htokens.draws, htoken⟩
  resolves := by
    rw [hhandles, htokens.rawTokens]
    exact h.resolves

/-- A new token does not take the place of one that is bound. -/
theorem Bound.stored (hhash : Function.Injective (options.random.hashInviteToken ∘ options.random.createInviteToken))
    (h : Bound options b) {invite : IssuedInvite} (hstored : StoredToken options b.simulation invite b'.simulation)
    (hhandles : ∀ handle binding, b'.inviteHandles.get handle = some binding →
      b.inviteHandles.get handle = some binding ∨
        binding.token = invite.token ∧ binding.inviteId = invite.inviteId) : Bound options b' where
  drawn := by
    intro handle binding hget
    rcases hhandles handle binding hget with hold | ⟨htoken, -⟩
    · obtain ⟨n, hn, htoken⟩ := h.drawn handle binding hold
      exact ⟨n, Nat.lt_trans hn hstored.draws, htoken⟩
    · exact ⟨b.simulation.draws, hstored.draws, htoken.trans hstored.token⟩
  resolves := by
    intro handle binding hget
    rw [hstored.rawTokens]
    rcases hhandles handle binding hget with hold | ⟨htoken, hid⟩
    · obtain ⟨n, hn, htoken⟩ := h.drawn handle binding hold
      rw [JsMap.get_set_ne]
      · exact h.resolves handle binding hold
      · intro heq
        rw [hstored.token, htoken] at heq
        have : b.simulation.draws = n := hhash heq
        omega
    · rw [htoken, hid]
      exact JsMap.get_set_self _ _ _

variable (hhash : Function.Injective (options.random.hashInviteToken ∘ options.random.createInviteToken))

include hhash in
theorem createInvite_bound (h : Bound options b) (actorId : Option String) (roomId : String) :
    Bound options (createInvite options b actorId roomId).2 := by
  unfold createInvite
  split
  · exact h
  · rcases createInvite_tokens options b.simulation actorId roomId with
      ⟨reason, hfail, htokens⟩ | ⟨invite, hok, hstored⟩
    · simp only [hfail]
      exact h.same htokens rfl
    · simp only [hok]
      refine h.stored hhash ⟨hstored.token, hstored.rawTokens, Nat.lt_succ_of_lt hstored.draws⟩ ?_
      intro handle binding hget
      rcases JsMap.get_set_cases hget with ⟨-, rfl⟩ | ⟨-, hold⟩
      · exact .inr ⟨rfl, rfl⟩
      · exact .inl hold

include hhash in
/-- Every request keeps the bindings. -/
theorem handle_bound (h : Bound options b) (request : Request) : Bound options (handle options b request).2 := by
  unfold handle
  split
  · unfold createRoom
    split
    · exact h
    · split
      · exact h
      · exact h.same (createRoom_tokens options _ _ _ _ _) rfl
  · unfold heartbeatHost
    split
    · exact h
    · dsimp only
      split <;> exact h.same (heartbeatHost_tokens _ _ _) rfl
  · exact createInvite_bound hhash h _ _
  · unfold revokeInvite
    split
    · exact h
    · dsimp only
      split <;> exact h.same (revokeInvite_tokens _ _ _) rfl
  · unfold readSafeInviteStatus
    dsimp only
    split <;> exact h
  · unfold createJoinRequest
    split
    · exact h
    · dsimp only
      split <;> exact h.same (createJoinRequest_tokens options _ _ _ _ _) rfl
  · unfold readApprovalQueue
    split
    · exact h
    · split <;> exact h
  · unfold decideJoinRequest
    split
    · exact h
    · split
      · exact h
      · dsimp only
        split <;> exact h.same (decideJoinRequest_tokens _ _ _ _) rfl
  · unfold issueSession
    split
    · exact h
    · split
      · exact h
      · have htokens := issueSession_tokens options b.simulation
        dsimp only
        split
        · exact h.same (htokens _ _ _ _) rfl
        · exact h.same ⟨(htokens _ _ _ _).rawTokens, Nat.le_succ_of_le (htokens _ _ _ _).draws⟩ rfl
  · exact h

include hhash in
/-- Every operation on the shared simulation keeps the bindings. -/
theorem simulation_bound (h : Bound options b) (operation : Operation) :
    Bound options { b with simulation := (b.simulation.step options operation).2 } := by
  cases operation with
  | createRoom hostId roomAlias minecraftVersion packProfileName =>
    exact h.same (createRoom_tokens options _ _ _ _ _) rfl
  | heartbeatHost actorId roomId => exact h.same (heartbeatHost_tokens _ _ _) rfl
  | createInvite actorId roomId =>
    rcases createInvite_tokens options b.simulation actorId roomId with ⟨reason, -, htokens⟩ | ⟨invite, -, hstored⟩
    · exact h.same htokens rfl
    · exact h.stored hhash hstored fun _ _ hold => .inl hold
  | revokeInvite actorId inviteId => exact h.same (revokeInvite_tokens _ _ _) rfl
  | createJoinRequest token friendId minecraftUuid displayName =>
    exact h.same (createJoinRequest_tokens options _ _ _ _ _) rfl
  | decideJoinRequest actorId requestId decision => exact h.same (decideJoinRequest_tokens _ _ _ _) rfl
  | issueSession requestId roomId inviteId minecraftUuid => exact h.same (issueSession_tokens options _ _ _ _ _) rfl
  | advance ms => exact h.same ⟨rfl, Nat.le_refl _⟩ rfl

include hhash in
theorem bound_run (now : Int) (inputs : List Input) :
    Bound options (Machine.run (Boundary.step options) (createControlPlaneHttpBoundary now) inputs) := by
  apply Machine.run_invariant (P := fun _ _ => True)
  · intro b input h _
    cases input with
    | request request => exact handle_bound hhash h request
    | simulation operation => exact simulation_bound hhash h operation
  · exact .start options now
  · exact Machine.Along.of_forall (P := fun _ => True) (fun _ _ => trivial) _

end Handles

/-! ### Unusable invites -/

section Unusable

variable {options : Options} {b : Boundary}

/-- The handle is bound to an active unexpired invite. -/
def Boundary.Usable (b : Boundary) (inviteHandle : String) : Prop :=
  ∃ binding invite, b.inviteHandles.get inviteHandle = some binding ∧
    b.simulation.invites.get binding.inviteId = some invite ∧ isInviteActive b.simulation.now invite = true

instance (b : Boundary) (inviteHandle : String) : Decidable (b.Usable inviteHandle) :=
  decidable_of_iff
    ((b.inviteHandles.get inviteHandle).any fun binding =>
      (b.simulation.invites.get binding.inviteId).any (isInviteActive b.simulation.now))
    (by simp [Boundary.Usable, Option.any_eq_true])

/-- A handle that is not usable resolves to no active invite. -/
theorem resolve_unusable (h : Bound options b) {inviteHandle : String} (hunusable : ¬ b.Usable inviteHandle) :
    (resolveInviteByToken options b.simulation
        ((b.inviteHandles.get inviteHandle).map InviteBinding.token)).filter (isInviteActive b.simulation.now) =
      none := by
  cases hget : b.inviteHandles.get inviteHandle with
  | none => rfl
  | some binding =>
    simp only [Option.map_some, resolveInviteByToken]
    split
    · rfl
    · rw [h.resolves inviteHandle binding hget, Option.bind_some]
      cases hinvite : b.simulation.invites.get binding.inviteId with
      | none => rfl
      | some invite =>
        rw [Option.filter_some, if_neg]
        intro hactive
        exact hunusable ⟨binding, invite, hget, hinvite, hactive⟩

theorem readSafeInviteStatus_unusable (h : Bound options b) {inviteHandle : String}
    (hunusable : ¬ b.Usable inviteHandle) :
    readSafeInviteStatus options b (some inviteHandle) = (json 404 (.unavailable .inviteUnavailable), b) := by
  have hstatus : Domain.readSafeInviteStatus options b.simulation
      ((b.inviteHandles.get inviteHandle).map InviteBinding.token) = .unavailable .inviteUnavailable := by
    rw [Domain.readSafeInviteStatus, resolve_unusable h hunusable]
    rfl
  simp only [readSafeInviteStatus, Option.bind_some, hstatus]

/-- A join request through an unusable handle is refused with the same answer as through any other, or lacks a
field, and changes nothing. -/
theorem createJoinRequest_unusable (h : Bound options b) {body : Body} {inviteHandle : String}
    (hhandle : inviteHandle ≠ "") (hunusable : ¬ b.Usable inviteHandle) :
    createJoinRequest options b { body with inviteHandle := some inviteHandle } =
      ((requireFields [("friendId", body.friendId), ("minecraftUuid", body.minecraftUuid),
        ("displayName", body.displayName)]).getD (domainError (.error .inviteUnavailable)), b) := by
  have hresult : Domain.createJoinRequest options b.simulation
      ((b.inviteHandles.get inviteHandle).map InviteBinding.token) body.friendId body.minecraftUuid
      body.displayName = (Domain.fail .inviteUnavailable, b.simulation) := by
    rw [Domain.createJoinRequest, resolve_unusable h hunusable]
  have hfields : requireFields [("inviteHandle", some inviteHandle), ("friendId", body.friendId),
      ("minecraftUuid", body.minecraftUuid), ("displayName", body.displayName)] =
      requireFields [("friendId", body.friendId), ("minecraftUuid", body.minecraftUuid),
        ("displayName", body.displayName)] := by
    simp [requireFields, List.find?_cons, hhandle]
  unfold createJoinRequest
  simp only [hfields]
  split
  · rename_i missing hmissing
    rw [hmissing]
    rfl
  · rename_i hnone
    rw [hnone]
    simp only [Option.bind_some, hresult]
    rfl

/-! ### The two routes of a friend -/

theorem segments_part {part : List Char} (hpart : '/' ∉ part) : segments part = [part] := by
  induction part with
  | nil => rfl
  | cons c part ih =>
    rw [List.mem_cons, not_or] at hpart
    rw [segments, if_neg (Ne.symm hpart.1), ih hpart.2]

theorem segments_cons {part rest : List Char} (hpart : '/' ∉ part) :
    segments (part ++ '/' :: rest) = part :: segments rest := by
  induction part with
  | nil => rfl
  | cons c part ih =>
    rw [List.mem_cons, not_or] at hpart
    rw [List.cons_append, segments, if_neg (Ne.symm hpart.1), ih hpart.2]

/-- `GET /friend/invites/<handle>`. -/
def readInviteRequest (headers : List (String × String)) (body : Body) (inviteHandle : String) : Request :=
  { method := .get, path := some ("/friend/invites/" ++ inviteHandle), headers := headers, body := body }

/-- `POST /friend/join-requests`. -/
def joinRequest (headers : List (String × String)) (body : Body) (inviteHandle : String) : Request :=
  { method := .post, path := some "/friend/join-requests", headers := headers,
    body := { body with inviteHandle := some inviteHandle } }

/-- The path is that of a handle, or of no handle when its last part is empty. -/
theorem route_readInvite {inviteHandle : String} (hslash : '/' ∉ inviteHandle.toList) :
    route .get ((segments (normalizePath (some ("/friend/invites/" ++ inviteHandle)))).map String.ofList) =
      .readSafeInviteStatus (if inviteHandle = "" then none else some inviteHandle) := by
  by_cases hempty : inviteHandle = ""
  · subst hempty
    decide
  · have hchars : inviteHandle.toList ≠ [] := fun h => hempty (String.toList_eq_nil_iff.1 h)
    have hpath : ("/friend/invites/" ++ inviteHandle).toList =
        [] ++ '/' :: ("friend".toList ++ '/' :: ("invites".toList ++ '/' :: inviteHandle.toList)) := by
      rw [String.toList_append]
      rfl
    have hlast : ("/friend/invites/" ++ inviteHandle).toList.getLast? ≠ some '/' := by
      rw [String.toList_append, List.getLast?_append_of_ne_nil _ hchars]
      intro h
      exact hslash (List.mem_of_getLast? h)
    have hnonempty : "/friend/invites/" ++ inviteHandle ≠ "" := by
      intro h
      rw [h] at hpath
      cases hpath
    have hnormal : normalizePath (some ("/friend/invites/" ++ inviteHandle)) =
        ("/friend/invites/" ++ inviteHandle).toList := by
      simp only [normalizePath, hnonempty, hlast, false_and, if_false]
    rw [hnormal, hpath, segments_cons (by decide), segments_cons (by decide), segments_cons (by decide),
      segments_part hslash]
    simp only [List.map_cons, List.map_nil, String.ofList_toList, String.ofList_nil, route, withParameter,
      if_neg hempty]

theorem handle_readInvite (h : Bound options b) (headers : List (String × String)) (body : Body)
    {inviteHandle : String} (hslash : '/' ∉ inviteHandle.toList) (hunusable : ¬ b.Usable inviteHandle) :
    handle options b (readInviteRequest headers body inviteHandle) =
      (json 404 (.unavailable .inviteUnavailable), b) := by
  simp only [handle, readInviteRequest, route_readInvite hslash]
  by_cases hempty : inviteHandle = ""
  · rw [if_pos hempty]
    rfl
  · rw [if_neg hempty]
    exact readSafeInviteStatus_unusable h hunusable

theorem handle_joinRequest (headers : List (String × String)) (body : Body) (inviteHandle : String) :
    handle options b (joinRequest headers body inviteHandle) =
      createJoinRequest options b { body with inviteHandle := some inviteHandle } := by
  have hroute : route .post ((segments (normalizePath (some "/friend/join-requests"))).map String.ofList) =
      .createJoinRequest := by
    decide
  simp only [handle, joinRequest, hroute]

end Unusable

/-- In every reachable state two handles that are bound to no active unexpired invite get the same answers, and a
join request through either changes nothing. -/
theorem unusable_invites_alike (options : Options)
    (hhash : Function.Injective (options.random.hashInviteToken ∘ options.random.createInviteToken)) (now : Int)
    (inputs : List Input) (handle₁ handle₂ : String) :
    let b := Machine.run (Boundary.step options) (createControlPlaneHttpBoundary now) inputs
    ¬ b.Usable handle₁ → ¬ b.Usable handle₂ → ∀ headers body,
      ('/' ∉ handle₁.toList → '/' ∉ handle₂.toList →
        (handle options b (readInviteRequest headers body handle₁)).1 =
          (handle options b (readInviteRequest headers body handle₂)).1) ∧
      (handle₁ ≠ "" → handle₂ ≠ "" →
        (handle options b (joinRequest headers body handle₁)).1 =
            (handle options b (joinRequest headers body handle₂)).1 ∧
          (handle options b (joinRequest headers body handle₁)).2 = b ∧
          (handle options b (joinRequest headers body handle₂)).2 = b) := by
  intro b hunusable₁ hunusable₂ headers body
  have h : Bound options b := bound_run hhash now inputs
  constructor
  · intro hslash₁ hslash₂
    rw [handle_readInvite h headers body hslash₁ hunusable₁, handle_readInvite h headers body hslash₂ hunusable₂]
  · intro hne₁ hne₂
    rw [handle_joinRequest, handle_joinRequest, createJoinRequest_unusable h hne₁ hunusable₁,
      createJoinRequest_unusable h hne₂ hunusable₂]
    exact ⟨rfl, rfl, rfl⟩

def emptyBody : Body :=
  { roomAlias := none, minecraftVersion := none, packProfileName := none, inviteHandle := none, friendId := none,
    minecraftUuid := none, displayName := none, requestId := none, decision := none }

/-- A run in which an invite is created and revoked. -/
def revokedRun : List Input :=
  let post (path : String) (body : Body) : Input :=
    .request { method := .post, path := some path, headers := [("X-Actor-Id", "host")], body := body }
  [post "/host/rooms"
      { emptyBody with roomAlias := some "room", minecraftVersion := some "1.21", packProfileName := some "pack" },
    post "/host/rooms/room_/invites" emptyBody, .simulation (.advance 1000),
    post "/host/invites/invite_handle_0000/revoke/" emptyBody]

theorem unusable_invites_alike_revoked :
    let b := Machine.run (Boundary.step countedOptions) (createControlPlaneHttpBoundary 0) revokedRun
    b.inviteHandles.keys = ["invite_handle_0000"] ∧
      (handle countedOptions b (readInviteRequest [] emptyBody "invite_handle_0000")).1 =
        (handle countedOptions b (readInviteRequest [] emptyBody "unknown")).1 :=
  ⟨by decide, (unusable_invites_alike countedOptions countedRandom_tokens 0 revokedRun "invite_handle_0000" "unknown"
    (by decide) (by decide) [] emptyBody).1 (by decide) (by decide)⟩

end EasyMc.Http
