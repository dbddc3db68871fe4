import CoreApi.Foundation.OrderedMap
import CoreApi.Foundation.ReadCommitted
import CoreApi.Tenant.Organization

/-!
# The commands of the tenant module

Organizations, memberships, invites, spaces and role permissions as tables, and
the transactional commands on them.
-/

namespace CoreApi.Tenant

/-- A permission of a role in an organization. -/
structure OrgRolePermission where
  orgId : String
  role : OrgRole
  permission : String
deriving DecidableEq

/-- A row with its identity: a row that is deleted and inserted again is another row. -/
structure StoredPermission extends OrgRolePermission where
  rowId : ℕ
deriving DecidableEq

/-- Memberships are unique by organization and user, the other tables by id. -/
structure TenantDb where
  organizations : OrderedMap String Organization
  memberships : OrderedMap (String × String) Membership
  invites : OrderedMap String OrgInvite
  spaces : OrderedMap String Space
  rolePermissions : List StoredPermission
  nextRowId : ℕ

/-- What a command writes: a row under its key, a permission of a role, or the deletion of one. -/
inductive TenantWrite where
  | putOrganization (org : Organization)
  | putMembership (membership : Membership)
  | putInvite (invite : OrgInvite)
  | putSpace (space : Space)
  | insertPermission (permission : OrgRolePermission)
  | deletePermission (row : StoredPermission)
deriving DecidableEq

/-- A row that is written, and the unique key of the role permissions. -/
inductive TenantLock where
  | organization (id : String)
  | membership (orgId userId : String)
  | invite (id : String)
  | space (id : String)
  | permission (permission : OrgRolePermission)
deriving DecidableEq

/-- The database of the tenant module; what is locked is a row under its key. -/
def tenantEngine : Engine TenantDb TenantWrite TenantLock where
  apply db
    | .putOrganization org => { db with organizations := db.organizations.set org.id org }
    | .putMembership membership => { db with
        memberships := db.memberships.set (membership.orgId, membership.userId) membership }
    | .putInvite invite => { db with invites := db.invites.set invite.id invite }
    | .putSpace space => { db with spaces := db.spaces.set space.id space }
    | .insertPermission permission => { db with
        rolePermissions := db.rolePermissions ++ [⟨permission, db.nextRowId⟩]
        nextRowId := db.nextRowId + 1 }
    | .deletePermission row => { db with
        rolePermissions := db.rolePermissions.filter fun stored => stored.rowId ≠ row.rowId }
  lock
    | .putOrganization org => some (.organization org.id)
    | .putMembership membership => some (.membership membership.orgId membership.userId)
    | .putInvite invite => some (.invite invite.id)
    | .putSpace space => some (.space space.id)
    | .insertPermission permission => some (.permission permission)
    | .deletePermission row => some (.permission row.toOrgRolePermission)

/-- A transaction of the tenant module. -/
abbrev TenantTx := Tx TenantDb TenantWrite TenantError

/-- What a command runs with: the ids it draws and the time its code reads. -/
structure TenantContext where
  id : String
  membershipId : String
  now : ℤ

/-- A row that refers to an organization needs its row, archived or not. -/
def hasOrganization (db : TenantDb) (orgId : String) : Bool := (db.organizations.get? orgId).isSome

namespace PrismaOrganizationRepository

/-- The soft-delete extension adds `deletedAt: null` to the query. -/
def findById (id : String) : TenantTx (Option Organization) :=
  .read fun db => (db.organizations.get? id).filter fun org => org.deletedAt = none

/-- The slug is looked up among the organizations that are not archived. -/
def findBySlug (slug : String) : TenantTx (Option Organization) :=
  .read fun db => db.organizations.values.find? fun org => org.slug = slug ∧ org.deletedAt = none

/-- The row an upsert leaves: the created one, or the stored one updated. -/
def upsert (org : Organization) : Option Organization → Organization
  | some row => { row with
      name := org.name
      slug := org.slug
      seatLimit := org.seatLimit
      deletedAt := org.deletedAt }
  | none => org

/-- The slug is unique among the organizations that are not archived. -/
def save (org : Organization) : TenantTx Unit :=
  .execute fun db =>
    let stored := upsert org (db.organizations.get? org.id)
    if stored.deletedAt = none ∧ db.organizations.values.any fun other =>
        other.id ≠ stored.id ∧ other.slug = stored.slug ∧ other.deletedAt = none then
      .error (.uniqueConstraint ["slug"])
    else .ok ([.putOrganization stored], ())

end PrismaOrganizationRepository

namespace PrismaMembershipRepository

def findByOrgAndUser (orgId userId : String) : TenantTx (Option Membership) :=
  .read fun db => db.memberships.get? (orgId, userId)

/-- `save`: an upsert that changes the role of a member. -/
def save (membership : Membership) : TenantTx Unit :=
  .execute fun db =>
    match db.memberships.get? (membership.orgId, membership.userId) with
    | some row => .ok ([.putMembership { row with role := membership.role }], ())
    | none =>
        if hasOrganization db membership.orgId then .ok ([.putMembership membership], ())
        else .error (.foreignKey "org_id")

end PrismaMembershipRepository

namespace PrismaOrgInviteRepository

/-- `save`: an upsert that changes by whom and when an invite was used. -/
def save (invite : OrgInvite) : TenantTx Unit :=
  .execute fun db =>
    match db.invites.get? invite.id with
    | some row => .ok ([.putInvite { row with
        usedAt := invite.usedAt
        usedBy := invite.usedBy }], ())
    | none =>
        if db.invites.values.any fun other => other.token = invite.token then
          .error (.uniqueConstraint ["token"])
        else if hasOrganization db invite.orgId then .ok ([.putInvite invite], ())
        else .error (.foreignKey "org_id")

def findByToken (token : String) : TenantTx (Option OrgInvite) :=
  .read fun db => db.invites.values.find? fun invite => invite.token = token

end PrismaOrgInviteRepository

namespace PrismaOrgRolePermissionRepository

/-- The stored permissions of a role, in the order of their insertion. -/
def ofRole (db : TenantDb) (orgId : String) (role : OrgRole) : List StoredPermission :=
  db.rolePermissions.filter fun row => row.orgId = orgId ∧ row.role = role

/-- One INSERT of several rows. -/
def createMany (rows : List OrgRolePermission) : TenantTx Unit :=
  .execute fun db =>
    if ¬ rows.Nodup ∨ rows.any fun row =>
        db.rolePermissions.any fun stored => stored.toOrgRolePermission = row then
      .error (.uniqueConstraint ["org_id", "role", "permission"])
    else if rows.all fun row => hasOrganization db row.orgId then
      .ok (rows.map .insertPermission, ())
    else .error (.foreignKey "org_id")

/-- Every role but the owner's gets its default permissions. -/
def seedDefaults (catalog : PermissionCatalog) (orgId : String) : TenantTx Unit :=
  createMany (defaultRolePermissions.flatMap fun (role, permissions) =>
    permissions.map fun permission => ⟨orgId, role, catalog.code permission⟩)

/-- A DELETE finds its rows when it starts. It may then wait for other transactions, and deletes
those of the rows it found that are still there. -/
def deleteMany (orgId : String) (role : OrgRole) : TenantTx Unit := do
  let found ← Tx.read fun db => ofRole db orgId role
  Tx.execute fun db => .ok ((found.filter fun row => row ∈ db.rolePermissions).map
    .deletePermission, ())

/-- The rows of a role are deleted and the new ones created. -/
def replaceForRole (orgId : String) (role : OrgRole) (permissions : List String) :
    TenantTx Unit := do
  deleteMany orgId role
  if permissions.length > 0 then
    createMany (permissions.map fun permission => ⟨orgId, role, permission⟩)

end PrismaOrgRolePermissionRepository

/-- `save`: an upsert by the id. -/
def PrismaSpaceRepository.save (space : Space) : TenantTx Unit :=
  .execute fun db =>
    match db.spaces.get? space.id with
    | some row => .ok ([.putSpace { row with
        name := space.name
        visibility := space.visibility
        deletedAt := space.deletedAt }], ())
    | none =>
        if hasOrganization db space.orgId then .ok ([.putSpace space], ())
        else .error (.foreignKey "org_id")

structure CreateOrgCommand where
  orgName : String
  slug : String
  ownerUserId : String

structure ArchiveOrgCommand where
  orgId : String

structure CreateInviteCommand where
  token : String
  orgId : String
  role : ManageableOrgRole
  createdBy : String
  expiresAt : ℤ

structure AcceptInviteCommand where
  token : String
  userId : String

structure UpdateMemberRoleCommand where
  orgId : String
  targetUserId : String
  newRole : ManageableOrgRole
  actorUserId : String

structure UpdateRolePermissionsCommand where
  orgId : String
  role : OrgRole
  permissions : List String
  actorUserId : String

structure CreateSpaceCommand where
  orgId : String
  spaceName : String
  visibility : SpaceVisibility

/-- `if (!entity) throw new ...` -/
def orThrow {Entity : Type} (error : Knowledge.ApplicationError) :
    Option Entity → TenantTx Entity
  | some entity => pure entity
  | none => .fail (.application error)

/-- `if (...) throw new ...` -/
def throwIf (condition : Bool) (error : Knowledge.ApplicationError) : TenantTx Unit :=
  if condition then .fail (.application error) else pure ()

variable (catalog : PermissionCatalog) (context : TenantContext)

/-- The organization, its owner and the default permissions are created together. -/
def CreateOrgHandler.execute (command : CreateOrgCommand) : TenantTx String := do
  let existing ← PrismaOrganizationRepository.findBySlug command.slug
  throwIf existing.isSome (orgSlugAlreadyTakenError command.slug)
  let org := Organization.create context.id context.now command.orgName command.slug
  let ownerMembership := Membership.createOwner context.membershipId context.now org.id
    command.ownerUserId
  PrismaOrganizationRepository.save org
  PrismaMembershipRepository.save ownerMembership
  PrismaOrgRolePermissionRepository.seedDefaults catalog org.id
  return org.id

/-- An organization that is not archived is archived. -/
def ArchiveOrgHandler.execute (command : ArchiveOrgCommand) : TenantTx Unit := do
  let org ← orThrow orgNotFoundError (← PrismaOrganizationRepository.findById command.orgId)
  PrismaOrganizationRepository.save (org.softDelete context.now)

/-- The answer is the token of the invite. -/
def CreateInviteHandler.execute (command : CreateInviteCommand) : TenantTx String := do
  let invite := OrgInvite.create context.id command.token command.orgId command.role
    command.createdBy command.expiresAt
  PrismaOrgInviteRepository.save invite
  return invite.token

/-- An invite that is open makes its user a member, with the role it offers. -/
def AcceptInviteHandler.execute (command : AcceptInviteCommand) :
    TenantTx (String × ManageableOrgRole) := do
  let invite ← orThrow inviteNotFoundError
    (← PrismaOrgInviteRepository.findByToken command.token)
  throwIf (invite.isExpired context.now) inviteExpiredError
  throwIf invite.isUsed inviteAlreadyUsedError
  let existing ← PrismaMembershipRepository.findByOrgAndUser invite.orgId command.userId
  throwIf existing.isSome alreadyMemberError
  let membership := Membership.createMember context.membershipId context.now invite.orgId
    command.userId invite.role
  PrismaMembershipRepository.save membership
  PrismaOrgInviteRepository.save (invite.accept context.now command.userId)
  return (invite.orgId, invite.role)

/-- The role of a member is changed, whoever asks for it. -/
def UpdateMemberRoleHandler.execute (command : UpdateMemberRoleCommand) : TenantTx Unit := do
  let membership ← orThrow membershipNotFoundError
    (← PrismaMembershipRepository.findByOrgAndUser command.orgId command.targetUserId)
  PrismaMembershipRepository.save (membership.changeRole command.newRole)

/-- `new Set` keeps the first of equal elements. -/
def newSet (permissions : List String) : List String :=
  permissions.foldl (fun set permission =>
    if permission ∈ set then set else set ++ [permission]) []

/-- The permissions of a role but the owner's are replaced by known ones. -/
def UpdateRolePermissionsHandler.execute (command : UpdateRolePermissionsCommand) :
    TenantTx Unit := do
  throwIf (command.role = .owner) cannotModifyOwnerPermissionsError
  let unique := newSet command.permissions
  match unique.find? fun permission => ¬ catalog.isValidOrgPermission permission with
  | some permission => .fail (.application (invalidOrgPermissionError permission))
  | none => PrismaOrgRolePermissionRepository.replaceForRole command.orgId command.role unique

/-- The answer is the id of the space. -/
def CreateSpaceHandler.execute (command : CreateSpaceCommand) : TenantTx String := do
  let space := Space.create context.id command.orgId command.spaceName command.visibility
  PrismaSpaceRepository.save space
  return space.id

/-- The commands of the tenant module. -/
inductive TenantCommand where
  | createOrg (command : CreateOrgCommand)
  | archiveOrg (command : ArchiveOrgCommand)
  | createInvite (command : CreateInviteCommand)
  | acceptInvite (command : AcceptInviteCommand)
  | updateMemberRole (command : UpdateMemberRoleCommand)
  | updateRolePermissions (command : UpdateRolePermissionsCommand)
  | createSpace (command : CreateSpaceCommand)

/-- The answers of the commands. -/
inductive TenantReply where
  | id (id : String)
  | joined (orgId : String) (role : ManageableOrgRole)
  | done
deriving DecidableEq

/-- The transaction of a command. -/
def TenantCommand.execute : TenantCommand → TenantTx TenantReply
  | .createOrg command => .id <$> CreateOrgHandler.execute catalog context command
  | .archiveOrg command => (fun _ => .done) <$> ArchiveOrgHandler.execute context command
  | .createInvite command => .id <$> CreateInviteHandler.execute context command
  | .acceptInvite command =>
      (fun (orgId, role) => .joined orgId role) <$> AcceptInviteHandler.execute context command
  | .updateMemberRole command =>
      (fun _ => .done) <$> UpdateMemberRoleHandler.execute command
  | .updateRolePermissions command =>
      (fun _ => .done) <$> UpdateRolePermissionsHandler.execute catalog command
  | .createSpace command => .id <$> CreateSpaceHandler.execute context command

end CoreApi.Tenant
