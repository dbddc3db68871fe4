import CoreApi.Foundation.Gate
import CoreApi.Repos.Commands
import CoreApi.Tenant.OrgGuard

/-!
# Requests and the guard in front of them

The routes of the controllers that run a command: what they require of the user, and the
command they make of the request. The command runs in a transaction of its own, after the
guard has let the request in; the two queries of the guard see the database each at its own
time.
-/

namespace CoreApi

open Credit Engagement Knowledge Tenant
open Outbox (FollowTargetType)

structure UpdateMemberRoleDto where
  role : ManageableOrgRole

structure CreateSpaceDto where
  name : String
  visibility : SpaceVisibility

structure CreateInviteDto where
  role : ManageableOrgRole
  ttlHours : ℕ

structure AcceptInviteDto where
  token : String

structure UpdateRolePermissionsDto where
  permissions : List String

structure CreateKnowledgeDto where
  spaceId : String
  type : KnowledgeType
  title : String
  body : String
  parentId : Option String

structure UpdateKnowledgeDto where
  expectedVersion : ℕ
  title : String
  body : String

structure CastVoteDto where
  value : ℤ

structure AcceptAnswerDto where
  answerId : String

structure FollowTargetDto where
  targetType : FollowTargetType
  targetId : String

structure GrantCreditsDto where
  userId : String
  amount : Number
  reason : String

structure SpendCreditsDto where
  amount : Number
  reason : String

/-- The role in the path of a route; the owner is not in the enum. -/
def ManageableOrgRoleSchema.parse : String → Option ManageableOrgRole
  | "ADMIN" => some adminRole
  | "MEMBER" => some memberRole
  | "GUEST" => some guestRole
  | _ => none

/-- What the code draws while it serves a request, and the times it reads. -/
structure Draw where
  id : String
  membershipId : String
  token : String
  reservationId : String
  now : ℤ
  writtenAt : ℤ

/-! The routes, each with the parameters of its path and its parsed body. -/

/-- The mutations of `OrgController`; the role of a path is not parsed yet. -/
inductive OrgRoute where
  | updateMemberRole (targetUserId : String) (body : UpdateMemberRoleDto)
  | createSpace (body : CreateSpaceDto)
  | createInvite (body : CreateInviteDto)
  | acceptInvite (body : AcceptInviteDto)
  | updateRolePermissions (role : String) (body : UpdateRolePermissionsDto)

/-- The mutations of `KnowledgeController`. -/
inductive KnowledgeRoute where
  | create (body : CreateKnowledgeDto)
  | update (id : String) (body : UpdateKnowledgeDto)
  | publish (id : String)
  | verify (id : String)
  | remove (id : String)

/-- The mutations of the engagement module. -/
inductive EngagementRoute where
  | castVote (id : String) (body : CastVoteDto)
  | removeVote (id : String)
  | addBookmark (id : String)
  | removeBookmark (id : String)
  | acceptAnswer (id : String) (body : AcceptAnswerDto)
  | unacceptAnswer (id : String)
  | follow (body : FollowTargetDto)
  | unfollow (body : FollowTargetDto)

/-- A question to the AI begins with the reservation of its configured price. -/
inductive CreditRoute where
  | grant (body : GrantCreditsDto)
  | spend (body : SpendCreditsDto)
  | ask (creditCost : Number)

/-- The mutations of the controllers whose routes are in an organization. -/
inductive Route where
  | org (route : OrgRoute)
  | knowledge (route : KnowledgeRoute)
  | engagement (route : EngagementRoute)
  | credit (route : CreditRoute)

section Permissions

open OrgPermission

/-- What `@RequireOrgPermission` names, where the guard stands in front of the route. -/
def OrgController.requires : OrgRoute → Option (List OrgPermission)
  | .updateMemberRole .. | .createInvite .. => some [orgManageMembers]
  | .createSpace .. => some [orgManageSpaces]
  | .acceptInvite .. => none
  | .updateRolePermissions .. => some [orgManageRoles]

/-- `RequireOrgPermission` of each route. -/
def KnowledgeController.requires : KnowledgeRoute → List OrgPermission
  | .verify .. => [knowledgeVerify]
  | _ => [knowledgeWrite]

/-- `RequireOrgPermission` of each route. -/
def EngagementController.requires : EngagementRoute → List OrgPermission
  | .castVote .. | .removeVote .. => [engagementVote]
  | .addBookmark .. | .removeBookmark .. => [engagementBookmark]
  | .acceptAnswer .. | .unacceptAnswer .. => [engagementAcceptAnswer]
  | .follow .. | .unfollow .. => [engagementFollow]

/-- `RequireOrgPermission` of each route; a question is checked by two guards. -/
def CreditController.requires : CreditRoute → List OrgPermission
  | .grant .. => [creditGrant]
  | .spend .. => [creditSpend]
  | .ask .. => [knowledgeRead, creditSpend]

/-- The permissions a route requires, or none if it has no guard. -/
def Route.requires : Route → Option (List OrgPermission)
  | .org route => OrgController.requires route
  | .knowledge route => some (KnowledgeController.requires route)
  | .engagement route => some (EngagementController.requires route)
  | .credit route => some (CreditController.requires route)

end Permissions

section Controllers

variable (user orgId : String) (draw : Draw)

namespace OrgController

def updateMemberRole (targetUserId : String) (body : UpdateMemberRoleDto) :
    UpdateMemberRoleCommand :=
  ⟨orgId, targetUserId, body.role, user⟩

def createSpace (body : CreateSpaceDto) : CreateSpaceCommand := ⟨orgId, body.name, body.visibility⟩

/-- The token is drawn, and the invite expires after some hours. -/
def createInvite (body : CreateInviteDto) : CreateInviteCommand :=
  ⟨draw.token, orgId, body.role, user, draw.now + body.ttlHours * 60 * 60 * 1000⟩

def acceptInvite (body : AcceptInviteDto) : AcceptInviteCommand := ⟨body.token, user⟩

/-- A role that does not parse ends the request. -/
def updateRolePermissions (role : String) (body : UpdateRolePermissionsDto) :
    Option UpdateRolePermissionsCommand :=
  (ManageableOrgRoleSchema.parse role).map fun parsedRole =>
    ⟨orgId, parsedRole.val, body.permissions, user⟩

/-- The command of a route, unless the role in its path does not parse. -/
def command : OrgRoute → Option TenantCommand
  | .updateMemberRole targetUserId body =>
      some (.updateMemberRole (updateMemberRole user orgId targetUserId body))
  | .createSpace body => some (.createSpace (createSpace orgId body))
  | .createInvite body => some (.createInvite (createInvite user orgId draw body))
  | .acceptInvite body => some (.acceptInvite (acceptInvite user body))
  | .updateRolePermissions role body =>
      (updateRolePermissions user orgId role body).map .updateRolePermissions

end OrgController

/-- The command of a route. -/
def KnowledgeController.command : KnowledgeRoute → KnowledgeCommand
  | .create body => .create
      ⟨orgId, body.spaceId, body.type, body.title, body.body, body.parentId, user⟩
  | .update id body => .update ⟨id, body.expectedVersion, body.title, body.body, user⟩
  | .publish id => .publish ⟨id⟩
  | .verify id => .verify ⟨id, user⟩
  | .remove id => .delete ⟨id⟩

/-- The answers of a question are rows of the knowledge module. -/
def EngagementController.command (context : Context) : EngagementRoute → CoreCommand
  | .castVote id body => .engagement context (.castVote ⟨id, user, body.value⟩)
  | .removeVote id => .engagement context (.removeVote ⟨id, user⟩)
  | .addBookmark id => .engagement context (.addBookmark ⟨id, user⟩)
  | .removeBookmark id => .engagement context (.removeBookmark ⟨id, user⟩)
  | .acceptAnswer id body => .knowledge context (.acceptAnswer ⟨id, body.answerId, user⟩)
  | .unacceptAnswer id => .knowledge context (.unacceptAnswer ⟨id, user⟩)
  | .follow body => .engagement context (.followTarget ⟨user, body.targetType, body.targetId⟩)
  | .unfollow body => .engagement context (.unfollowTarget ⟨user, body.targetType, body.targetId⟩)

/-- The command of a route; that of a question is its reservation. -/
def CreditController.command : CreditRoute → CreditCommand
  | .grant body => .grantCredits ⟨orgId, body.userId, body.amount, body.reason⟩
  | .spend body => .spendCredits ⟨orgId, user, body.amount, body.reason⟩
  | .ask creditCost => .reserveCredits ⟨orgId, user, draw.reservationId, creditCost, "AI query"⟩

end Controllers

/-- A request with the user of its token and its `X-Org-Id` header. -/
structure RoutedRequest where
  user : String
  orgId : Option String
  draw : Draw
  route : Route

namespace RoutedRequest

/-- The organization of the request once the guard has verified it. -/
def org (request : RoutedRequest) : String := (present request.orgId).getD ""

/-- The guard sets the tenant of the request. -/
def context (request : RoutedRequest) : Context :=
  ⟨present request.orgId, request.draw.id, request.draw.now, request.draw.writtenAt⟩

/-- The command of a request, with what the request draws. -/
def command (request : RoutedRequest) : Option CoreCommand :=
  match request.route with
  | .org route => (OrgController.command request.user request.org request.draw route).map
      (.tenant ⟨request.draw.id, request.draw.membershipId, request.draw.now⟩)
  | .knowledge route =>
      some (.knowledge request.context (KnowledgeController.command request.user request.org route))
  | .engagement route => some (EngagementController.command request.user request.context route)
  | .credit route => some (.credit ⟨request.draw.writtenAt, request.draw.id⟩
      (CreditController.command request.user request.org request.draw route))

end RoutedRequest

/-- The commands that no route of an organization runs: those of the platform administration and
those by which a saga, a sweeper or a compensation goes on. -/
inductive InternalCommand where
  | createOrg (context : TenantContext) (command : CreateOrgCommand)
  | archiveOrg (context : TenantContext) (command : ArchiveOrgCommand)
  | refundCredits (stamp : Stamp) (command : RefundCreditsCommand)
  | commitAiQuery (stamp : Stamp) (command : CommitAiQueryCommand)
  | releaseCreditReservation (stamp : Stamp) (command : ReleaseCreditReservationCommand)

/-- The command that is dispatched. -/
def InternalCommand.command : InternalCommand → CoreCommand
  | .createOrg context command => .tenant context (.createOrg command)
  | .archiveOrg context command => .tenant context (.archiveOrg command)
  | .refundCredits stamp command => .credit stamp (.refundCredits command)
  | .commitAiQuery stamp command => .credit stamp (.commitAiQuery command)
  | .releaseCreditReservation stamp command => .credit stamp (.releaseCreditReservation command)

/-- What the service is asked for, over a route or from inside. -/
inductive CoreRequest where
  | routed (request : RoutedRequest)
  | internal (command : InternalCommand)

/-- The command of a request, unless it ends before it has one. -/
def CoreRequest.command : CoreRequest → Option CoreCommand
  | .routed request => request.command
  | .internal command => some command.command

section Guard

variable (catalog : PermissionCatalog)

/-- The owner's permissions are not looked up. -/
def Tenant.OrgPermissionResolver.query (orgId : String) (role : OrgRole) :
    Check CoreDb HttpException (List String) :=
  if role = .owner then pure catalog.allOrgPermissions
  else .read fun db =>
    PrismaOrgRolePermissionReaderRepository.findByOrgAndRole db.tenant orgId role

/-- `OrgGuard.canActivate` with its queries, one after the other. -/
def Tenant.OrgGuard.queries (request : GuardedRequest) : Check CoreDb HttpException OrgContext := do
  let some userId := present request.userId | .fail ⟨401, "Unauthorized"⟩
  let some orgId := present request.orgId | .fail ⟨403, "X-Org-Id header is required"⟩
  let some orgRole ← .read fun db =>
      PrismaMembershipQueryRepository.findRoleByOrgAndUser db.tenant orgId userId
    | .fail ⟨403, "You are not a member of this organization"⟩
  let permissions ← OrgPermissionResolver.query catalog orgId orgRole
  let missing := ((request.requiredPermissions.map fun required =>
    required.filter fun permission => permission ∉ permissions).getD [])
  if missing.length > 0 then
    .fail ⟨403, "Missing permission: " ++ String.intercalate ", " missing⟩
  return { orgId := orgId, orgRole := orgRole, permissions := permissions }

/-- A request without a guard on its route runs as it is. -/
def RoutedRequest.check (request : RoutedRequest) :
    Check CoreDb HttpException (Option OrgContext) :=
  match request.route.requires with
  | some permissions => some <$> OrgGuard.queries catalog
      ⟨some request.user, request.orgId, some (permissions.map catalog.code)⟩
  | none => pure none

/-- What is checked before the command is dispatched; nothing, from inside. -/
def CoreRequest.check : CoreRequest → Check CoreDb HttpException (Option OrgContext)
  | .routed request => request.check catalog
  | .internal _ => pure none

end Guard

section Service

variable {Client : Type} [DecidableEq Client] (catalog : PermissionCatalog)
  (requests : Client → Option CoreRequest)

/-- The commands that the requests come to. -/
def commandsOf (requests : Client → Option CoreRequest) (client : Client) : Option CoreCommand :=
  (requests client).bind CoreRequest.command

/-- The checks that the requests pass. -/
def checksOf (client : Client) : Check CoreDb HttpException (Option OrgContext) :=
  (requests client).elim (pure none) (CoreRequest.check catalog)

/-- Where the requests stand, and the database. -/
abbrev ServiceState (Client : Type) :=
  Gate.State Client CoreDb CoreWrite CoreError CoreReply HttpException (Option OrgContext)

/-- Any number of requests at the same time, each behind its guard. -/
abbrev service : TransitionSystem (ServiceState Client) (Client ⊕ Workload.Label Client) :=
  Gate.system (coreClients catalog (commandsOf requests)) (checksOf catalog requests)

end Service

/-- The route behind a command. -/
inductive Made (request : RoutedRequest) : CoreCommand → Prop where
  | org {route : OrgRoute} {command : TenantCommand} (named : request.route = .org route)
      (made : OrgController.command request.user request.org request.draw route = some command) :
      Made request (.tenant ⟨request.draw.id, request.draw.membershipId, request.draw.now⟩ command)
  | knowledge {route : KnowledgeRoute} (named : request.route = .knowledge route) :
      Made request (.knowledge request.context
        (KnowledgeController.command request.user request.org route))
  | engagement {route : EngagementRoute} {command : CoreCommand}
      (named : request.route = .engagement route)
      (made : EngagementController.command request.user request.context route = command) :
      Made request command
  | credit {route : CreditRoute} (named : request.route = .credit route) :
      Made request (.credit ⟨request.draw.writtenAt, request.draw.id⟩
        (CreditController.command request.user request.org request.draw route))

theorem RoutedRequest.made {request : RoutedRequest} {command : CoreCommand}
    (made : request.command = some command) : Made request command := by
  simp only [RoutedRequest.command] at made
  cases named : request.route with
  | org route =>
      rw [named] at made
      rcases Option.map_eq_some_iff.mp made with ⟨command, own, rfl⟩
      exact .org named own
  | knowledge route =>
      rw [named] at made
      cases made
      exact .knowledge named
  | engagement route =>
      rw [named] at made
      exact .engagement named (Option.some.inj made)
  | credit route =>
      rw [named] at made
      cases made
      exact .credit named

/-- A command is that of a route, or an internal one. -/
theorem request_of_command {Client : Type} {requests : Client → Option CoreRequest}
    {client : Client} {command : CoreCommand} (mine : commandsOf requests client = some command) :
    (∃ request, requests client = some (.routed request) ∧ Made request command) ∨
      ∃ internal, requests client = some (.internal internal) ∧ internal.command = command := by
  simp only [commandsOf, Option.bind_eq_some_iff] at mine
  rcases mine with ⟨request, asked, made⟩
  cases request with
  | routed request => exact .inl ⟨request, asked, request.made made⟩
  | internal internal => exact .inr ⟨internal, asked, Option.some.inj made⟩

section Guard

variable {catalog : PermissionCatalog} {db : CoreDb}

theorem resolverQuery_on (orgId : String) (role : OrgRole) :
    (OrgPermissionResolver.query catalog orgId role).on db =
      .ok (OrgPermissionResolver.resolve catalog db.tenant orgId role) := by
  by_cases owner : role = .owner
  · simp only [OrgPermissionResolver.query, OrgPermissionResolver.resolve, if_pos owner]
    rfl
  · simp only [OrgPermissionResolver.query, OrgPermissionResolver.resolve, if_neg owner]
    rfl

/-- While nobody commits, the guard answers as it does on one database. -/
theorem queries_on (request : GuardedRequest) :
    (OrgGuard.queries catalog request).on db =
      OrgGuard.canActivate catalog db.tenant request := by
  simp only [OrgGuard.queries, OrgGuard.canActivate]
  cases present request.userId with
  | none => rfl
  | some userId =>
      cases present request.orgId with
      | none => rfl
      | some orgId =>
          dsimp only
          rw [Check.on_bind]
          change Except.bind (.ok (PrismaMembershipQueryRepository.findRoleByOrgAndUser
            db.tenant orgId userId)) _ = _
          cases PrismaMembershipQueryRepository.findRoleByOrgAndUser db.tenant orgId userId with
          | none => rfl
          | some orgRole =>
              simp only [Except.bind]
              rw [Check.on_bind, resolverQuery_on]
              simp only [Except.bind]
              split <;> rfl

end Guard

end CoreApi
