/-!
# The shared protocol (`packages/protocol/src/index.mjs`)

The vocabulary of the control plane: actors, actions, record states and error states, and the permission check
`canActorPerform`.  A JavaScript string that may be missing is an `Option String`; `truthy` is its Boolean value.
-/

namespace EasyMc

/-- A string-valued JavaScript value counts as true when it is present and not empty. -/
def truthy (value : Option String) : Bool := value.isSome && value != some ""

inductive Actor
  | host | friend | service | serviceAdmin
  deriving DecidableEq, Repr

inductive Action
  | createRoom | createInvite | revokeInvite | readSafeInvite | readApprovalQueue | createJoinRequest
  | approveJoin | denyJoin | blockJoin | issueSession | readRelayMetrics | breakGlassRead
  deriving DecidableEq, Repr

/-- `opened` is the source's `OPEN`. -/
inductive RoomState
  | created | opened | closed | hostOffline
  deriving DecidableEq, Repr

inductive InviteState
  | active | expired | revoked | unavailable
  deriving DecidableEq, Repr

inductive ApprovalState
  | pending | approved | denied | blocked | expired | hostUnavailable | alreadyAllowed | identityChanged
  deriving DecidableEq, Repr

inductive SessionState
  | issued | expired | revoked
  deriving DecidableEq, Repr

inductive ErrorState
  | inviteUnavailable | roomClosed | approvalRequired | sessionUnavailable | rateLimited
  deriving DecidableEq, Repr

/-- The facts a permission is checked against. -/
structure PermissionContext where
  actorId : Option String
  roomHostId : Option String
  validInvite : Bool
  authorizedApproval : Bool
  breakGlass : Bool

def ownRoomHostActions : List Action :=
  [.createRoom, .createInvite, .revokeInvite, .readSafeInvite, .readApprovalQueue, .approveJoin, .denyJoin,
    .blockJoin, .readRelayMetrics]

def friendActions : List Action := [.readSafeInvite, .createJoinRequest]

def serviceActions : List Action := [.issueSession]

def serviceAdminActions : List Action := [.breakGlassRead]

/-- `none` stands for a string that is no action of the protocol. -/
def canActorPerform (actor : Actor) (action : Option Action) (context : PermissionContext) : Bool :=
  match action with
  | none => false
  | some action =>
    match actor with
    | .host =>
      ownRoomHostActions.contains action &&
        (truthy context.roomHostId && truthy context.actorId && context.roomHostId == context.actorId)
    | .friend => friendActions.contains action && context.validInvite
    | .service => serviceActions.contains action && context.authorizedApproval
    | .serviceAdmin => serviceAdminActions.contains action && context.breakGlass

/-- The context of a host acting on a room. -/
def hostContext (actorId roomHostId : String) : PermissionContext :=
  { actorId := some actorId, roomHostId := some roomHostId, validInvite := false, authorizedApproval := false,
    breakGlass := false }

/-- A host may perform a host action exactly on its own room. -/
theorem canActorPerform_host {action : Action} (hmem : action ∈ ownRoomHostActions) (actorId roomHostId : String) :
    canActorPerform .host (some action) (hostContext actorId roomHostId) = true ↔
      roomHostId = actorId ∧ actorId ≠ "" := by
  simp only [canActorPerform, hostContext, truthy, List.contains_iff_mem.2 hmem, Bool.true_and, Bool.and_eq_true,
    Option.isSome_some, bne_iff_ne, beq_iff_eq, Option.some.injEq, ne_eq]
  constructor
  · rintro ⟨⟨_, h⟩, e⟩
    exact ⟨e, h⟩
  · rintro ⟨rfl, h⟩
    exact ⟨⟨h, h⟩, rfl⟩

end EasyMc
