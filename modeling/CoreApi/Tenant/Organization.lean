import CoreApi.Knowledge.Item

/-!
# Organizations, members and invites

The entities of the tenant module, the roles and the permissions they hold by
default, and the errors of the commands. Dates are milliseconds.
-/

namespace CoreApi.Tenant

open Knowledge (ApplicationError)

inductive OrgRole where
  | owner
  | admin
  | member
  | guest
deriving DecidableEq

def OrgRole.text : OrgRole → String
  | .owner => "OWNER"
  | .admin => "ADMIN"
  | .member => "MEMBER"
  | .guest => "GUEST"

/-- The roles that can be assigned to a regular member. -/
abbrev ManageableOrgRole := { role : OrgRole // role ≠ .owner }

def adminRole : ManageableOrgRole := ⟨.admin, by decide⟩

def memberRole : ManageableOrgRole := ⟨.member, by decide⟩

def guestRole : ManageableOrgRole := ⟨.guest, by decide⟩

/-- The permissions the code names. Their codes, and the rest of the catalog, belong to another
package. -/
inductive OrgPermission where
  | knowledgeRead
  | knowledgeWrite
  | knowledgeVerify
  | engagementVote
  | engagementBookmark
  | engagementFollow
  | engagementAcceptAnswer
  | aiQuery
  | creditRead
  | creditSpend
  | creditGrant
  | orgManageMembers
  | orgManageSpaces
  | orgManageRoles
deriving DecidableEq

/-- The catalog of the shared library, as the code uses it. -/
structure PermissionCatalog where
  code : OrgPermission → String
  allOrgPermissions : List String
  isValidOrgPermission : String → Bool

open OrgPermission in
/-- `DEFAULT_ROLE_PERMISSIONS`; the owner's are not stored. -/
def defaultRolePermissions : List (OrgRole × List OrgPermission) :=
  [(.admin, [knowledgeRead, knowledgeWrite, knowledgeVerify, engagementVote, engagementBookmark,
      engagementFollow, engagementAcceptAnswer, aiQuery, creditRead, creditSpend, creditGrant,
      orgManageMembers, orgManageSpaces]),
    (.member, [knowledgeRead, knowledgeWrite, engagementVote, engagementBookmark,
      engagementFollow, engagementAcceptAnswer, aiQuery, creditRead, creditSpend]),
    (.guest, [knowledgeRead])]

/-- A row of `organizations`. -/
structure Organization where
  id : String
  name : String
  slug : String
  seatLimit : ℕ
  createdAt : ℤ
  deletedAt : Option ℤ
deriving DecidableEq

def Organization.create (id : String) (now : ℤ) (name slug : String) : Organization where
  id := id
  name := name
  slug := slug
  seatLimit := 10
  createdAt := now
  deletedAt := none

def Organization.softDelete (now : ℤ) (org : Organization) : Organization :=
  { org with deletedAt := some now }

/-- A row of `memberships`. -/
structure Membership where
  id : String
  orgId : String
  userId : String
  role : OrgRole
  joinedAt : ℤ
deriving DecidableEq

namespace Membership

/-- The org founder. -/
def createOwner (id : String) (now : ℤ) (orgId userId : String) : Membership where
  id := id
  orgId := orgId
  userId := userId
  role := .owner
  joinedAt := now

def createMember (id : String) (now : ℤ) (orgId userId : String) (role : ManageableOrgRole) :
    Membership where
  id := id
  orgId := orgId
  userId := userId
  role := role
  joinedAt := now

def changeRole (role : ManageableOrgRole) (membership : Membership) : Membership :=
  { membership with role := role }

end Membership

/-- A row of `org_invites`. -/
structure OrgInvite where
  id : String
  token : String
  orgId : String
  role : ManageableOrgRole
  createdBy : String
  expiresAt : ℤ
  usedAt : Option ℤ
  usedBy : Option String
deriving DecidableEq

namespace OrgInvite

def create (id token orgId : String) (role : ManageableOrgRole) (createdBy : String)
    (expiresAt : ℤ) : OrgInvite where
  id := id
  token := token
  orgId := orgId
  role := role
  createdBy := createdBy
  expiresAt := expiresAt
  usedAt := none
  usedBy := none

def isExpired (now : ℤ) (invite : OrgInvite) : Bool := now > invite.expiresAt

def isUsed (invite : OrgInvite) : Bool := invite.usedAt.isSome

/-- Consume the invite in place, binding it to the accepting user. -/
def accept (now : ℤ) (userId : String) (invite : OrgInvite) : OrgInvite :=
  { invite with usedAt := some now, usedBy := some userId }

end OrgInvite

inductive SpaceVisibility where
  | org
  | privateSpace
deriving DecidableEq

/-- A row of `spaces`. -/
structure Space where
  id : String
  orgId : String
  name : String
  visibility : SpaceVisibility
  deletedAt : Option ℤ
deriving DecidableEq

def Space.create (id orgId name : String) (visibility : SpaceVisibility) : Space where
  id := id
  orgId := orgId
  name := name
  visibility := visibility
  deletedAt := none

def orgSlugAlreadyTakenError (slug : String) : ApplicationError where
  statusCode := 409
  code := "ORG_SLUG_ALREADY_TAKEN"
  message := "Organization slug \"" ++ slug ++ "\" is already taken"

def orgNotFoundError : ApplicationError where
  statusCode := 404
  code := "ORG_NOT_FOUND"
  message := "Organization not found"

def invalidOrgPermissionError (permission : String) : ApplicationError where
  statusCode := 400
  code := "INVALID_ORG_PERMISSION"
  message := "Unknown org permission: \"" ++ permission ++ "\""

def cannotModifyOwnerPermissionsError : ApplicationError where
  statusCode := 400
  code := "CANNOT_MODIFY_OWNER_PERMISSIONS"
  message := "OWNER always holds every permission and cannot be modified"

def inviteNotFoundError : ApplicationError where
  statusCode := 404
  code := "INVITE_NOT_FOUND"
  message := "Invite token not found"

def inviteExpiredError : ApplicationError where
  statusCode := 410
  code := "INVITE_EXPIRED"
  message := "This invite link has expired"

def inviteAlreadyUsedError : ApplicationError where
  statusCode := 409
  code := "INVITE_ALREADY_USED"
  message := "This invite link has already been used"

def alreadyMemberError : ApplicationError where
  statusCode := 409
  code := "ALREADY_MEMBER"
  message := "User is already a member of this organization"

def membershipNotFoundError : ApplicationError where
  statusCode := 404
  code := "MEMBERSHIP_NOT_FOUND"
  message := "Membership not found"

/-- What a command throws: an error of its own, or a violated unique or foreign key. -/
inductive TenantError where
  | application (error : ApplicationError)
  | uniqueConstraint (fields : List String)
  | foreignKey (field : String)
deriving DecidableEq

end CoreApi.Tenant
