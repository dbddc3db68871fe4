import CoreApi.Tenant.Commands

/-!
# Who may do what in an organization

The guard in front of every route of an organization, and the query that answers
the same question to the other services. Both read the role of the membership
and resolve it to permissions.
-/

namespace CoreApi.Tenant

namespace PrismaMembershipQueryRepository

/-- The role of a member. -/
def findRoleByOrgAndUser (db : TenantDb) (orgId userId : String) : Option OrgRole :=
  (db.memberships.get? (orgId, userId)).map Membership.role

end PrismaMembershipQueryRepository

/-- The stored permissions of a role. -/
def PrismaOrgRolePermissionReaderRepository.findByOrgAndRole (db : TenantDb) (orgId : String)
    (role : OrgRole) : List String :=
  (PrismaOrgRolePermissionRepository.ofRole db orgId role).map fun row => row.permission

/-- The owner holds every permission without a row, the other roles those of their rows. -/
def OrgPermissionResolver.resolve (catalog : PermissionCatalog) (db : TenantDb) (orgId : String)
    (role : OrgRole) : List String :=
  if role = .owner then catalog.allOrgPermissions
  else PrismaOrgRolePermissionReaderRepository.findByOrgAndRole db orgId role

open PrismaMembershipQueryRepository

variable (catalog : PermissionCatalog) (db : TenantDb)

structure CheckMembershipQuery where
  orgId : String
  userId : String

structure CheckMembershipResult where
  isMember : Bool
  permissions : List String
  role : String
deriving DecidableEq

/-- What the other services are told of a membership. -/
def CheckMembershipHandler.execute (query : CheckMembershipQuery) : CheckMembershipResult :=
  match findRoleByOrgAndUser db query.orgId query.userId with
  | none => { isMember := false, permissions := [], role := "" }
  | some role =>
      { isMember := true
        permissions := OrgPermissionResolver.resolve catalog db query.orgId role
        role := role.text }

/-- An HTTP error with its status. -/
structure HttpException where
  statusCode : ℕ
  message : String
deriving DecidableEq

/-- What the guard reads of a request and of the route: the user of the token, the `X-Org-Id` header
and the permissions the route requires. -/
structure GuardedRequest where
  userId : Option String
  orgId : Option String
  requiredPermissions : Option (List String)

/-- What the guard leaves with a request that it lets in. -/
structure OrgContext where
  orgId : String
  orgRole : OrgRole
  permissions : List String
deriving DecidableEq

/-- A string that is missing or empty does not count. -/
def present (text : Option String) : Option String := text.filter fun text => text ≠ ""

/-- The guard: a member whose role has the permissions is let in. -/
def OrgGuard.canActivate (request : GuardedRequest) : Except HttpException OrgContext := do
  let some userId := present request.userId | .error ⟨401, "Unauthorized"⟩
  let some orgId := present request.orgId | .error ⟨403, "X-Org-Id header is required"⟩
  let some orgRole := findRoleByOrgAndUser db orgId userId
    | .error ⟨403, "You are not a member of this organization"⟩
  let permissions := OrgPermissionResolver.resolve catalog db orgId orgRole
  let missing := ((request.requiredPermissions.map fun required =>
    required.filter fun permission => permission ∉ permissions).getD [])
  if missing.length > 0 then
    .error ⟨403, "Missing permission: " ++ String.intercalate ", " missing⟩
  return { orgId := orgId, orgRole := orgRole, permissions := permissions }

variable {catalog db} {orgId userId : String} {required : List String}

/-- The membership and the permissions that both entry points look for. -/
def Holds (catalog : PermissionCatalog) (db : TenantDb) (orgId userId : String)
    (required : List String) : Prop :=
  ∃ membership, db.memberships.get? (orgId, userId) = some membership ∧
    ∀ permission ∈ required,
      permission ∈ OrgPermissionResolver.resolve catalog db orgId membership.role

theorem canActivate_iff (user : userId ≠ "") (org : orgId ≠ "") :
    (∃ context, OrgGuard.canActivate catalog db ⟨some userId, some orgId, some required⟩ =
      .ok context) ↔ Holds catalog db orgId userId required := by
  have user' : present (some userId) = some userId := by simp [present, user]
  have org' : present (some orgId) = some orgId := by simp [present, org]
  simp only [OrgGuard.canActivate, user', org', findRoleByOrgAndUser, Holds]
  cases db.memberships.get? (orgId, userId) with
  | none => simp
  | some membership =>
      simp only [Option.map_some, Option.getD_some, Option.some.injEq, exists_eq_left']
      by_cases complete : ∀ permission ∈ required,
          permission ∈ OrgPermissionResolver.resolve catalog db orgId membership.role
      · have missing : required.filter (fun permission => permission ∉
            OrgPermissionResolver.resolve catalog db orgId membership.role) = [] := by
          simpa [List.filter_eq_nil_iff] using complete
        simp only [missing]
        exact iff_of_true ⟨_, rfl⟩ complete
      · have missing : 0 < (required.filter (fun permission => permission ∉
            OrgPermissionResolver.resolve catalog db orgId membership.role)).length := by
          refine List.length_pos_iff.mpr fun none => complete ?_
          simpa [List.filter_eq_nil_iff] using none
        simp only [gt_iff_lt, missing, if_true]
        refine iff_of_false ?_ complete
        rintro ⟨context, same⟩
        cases same

theorem checkMembership_iff :
    ((CheckMembershipHandler.execute catalog db ⟨orgId, userId⟩).isMember ∧ ∀ permission ∈ required,
      permission ∈ (CheckMembershipHandler.execute catalog db ⟨orgId, userId⟩).permissions) ↔
      Holds catalog db orgId userId required := by
  simp only [CheckMembershipHandler.execute, findRoleByOrgAndUser, Holds]
  cases db.memberships.get? (orgId, userId) <;> simp

end CoreApi.Tenant
