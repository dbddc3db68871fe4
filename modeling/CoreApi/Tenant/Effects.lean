import CoreApi.Foundation.Sequential
import CoreApi.Tenant.Commands

/-!
# What a command of the tenant module commits

Each repository function and each command, run alone, by what it finds and what
it leaves in the tables.
-/

namespace CoreApi.Tenant

open Engine

/-- Every row stands under its own key, and memberships belong to organizations. -/
structure Keyed (db : TenantDb) : Prop where
  organization : ∀ id org, db.organizations.get? id = some org → org.id = id
  membership : ∀ key membership, db.memberships.get? key = some membership →
    (membership.orgId, membership.userId) = key ∧ hasOrganization db membership.orgId
  invite : ∀ id invite, db.invites.get? id = some invite → invite.id = id

/-- The role permissions without the identities of their rows. -/
def TenantDb.permissions (db : TenantDb) : List OrgRolePermission :=
  db.rolePermissions.map StoredPermission.toOrgRolePermission

/-- The ids a command draws are new. -/
structure Fresh (db : TenantDb) (context : TenantContext) : Prop where
  organization : db.organizations.get? context.id = none
  invite : db.invites.get? context.id = none
  space : db.spaces.get? context.id = none

/-- The default permissions of an organization. -/
def seeds (catalog : PermissionCatalog) (orgId : String) : List OrgRolePermission :=
  defaultRolePermissions.flatMap fun (role, permissions) =>
    permissions.map fun permission => ⟨orgId, role, catalog.code permission⟩

/-- The row is a permission of the role in the organization. -/
def OrgRolePermission.OfRole (orgId : String) (role : OrgRole) (row : OrgRolePermission) : Prop :=
  row.orgId = orgId ∧ row.role = role

instance (orgId : String) (role : OrgRole) (row : OrgRolePermission) :
    Decidable (row.OfRole orgId role) :=
  inferInstanceAs (Decidable (row.orgId = orgId ∧ row.role = role))

/-- What a command that commits finds, answers and leaves behind. -/
inductive Commits (catalog : PermissionCatalog) (context : TenantContext) (db : TenantDb) :
    TenantCommand → TenantReply → TenantDb → Prop where
  | createOrg {command : CreateOrgCommand} {next : TenantDb}
      (organizations : next.organizations = db.organizations.set context.id
        (Organization.create context.id context.now command.orgName command.slug))
      (memberships : next.memberships = db.memberships.set (context.id, command.ownerUserId)
        (Membership.createOwner context.membershipId context.now context.id command.ownerUserId))
      (invites : next.invites = db.invites) (spaces : next.spaces = db.spaces)
      (permissions : next.permissions = db.permissions ++ seeds catalog context.id) :
      Commits catalog context db (.createOrg command) (.id context.id) next
  | archiveOrg {command : ArchiveOrgCommand} {org : Organization}
      (found : db.organizations.get? command.orgId = some org) (live : org.deletedAt = none) :
      Commits catalog context db (.archiveOrg command) .done { db with
        organizations := db.organizations.set command.orgId (org.softDelete context.now) }
  | createInvite {command : CreateInviteCommand}
      (organization : hasOrganization db command.orgId) :
      Commits catalog context db (.createInvite command) (.id command.token) { db with
        invites := db.invites.set context.id (OrgInvite.create context.id command.token
          command.orgId command.role command.createdBy command.expiresAt) }
  | acceptInvite {command : AcceptInviteCommand} {invite : OrgInvite}
      (found : db.invites.get? invite.id = some invite)
      (absent : db.memberships.get? (invite.orgId, command.userId) = none)
      (organization : hasOrganization db invite.orgId) :
      Commits catalog context db (.acceptInvite command)
        (.joined invite.orgId invite.role) { db with
        memberships := db.memberships.set (invite.orgId, command.userId)
          (Membership.createMember context.membershipId context.now invite.orgId command.userId
            invite.role)
        invites := db.invites.set invite.id (invite.accept context.now command.userId) }
  | updateMemberRole {command : UpdateMemberRoleCommand} {membership : Membership}
      (found : db.memberships.get? (command.orgId, command.targetUserId) = some membership) :
      Commits catalog context db (.updateMemberRole command) .done { db with
        memberships := db.memberships.set (command.orgId, command.targetUserId)
          (membership.changeRole command.newRole) }
  | updateRolePermissions {command : UpdateRolePermissionsCommand} {next : TenantDb}
      (manageable : command.role ≠ .owner)
      (organizations : next.organizations = db.organizations)
      (memberships : next.memberships = db.memberships) (invites : next.invites = db.invites)
      (spaces : next.spaces = db.spaces) (permissions : next.permissions =
        (db.permissions.filter fun row => ¬ row.OfRole command.orgId command.role) ++
          (newSet command.permissions).map fun permission =>
            ⟨command.orgId, command.role, permission⟩) :
      Commits catalog context db (.updateRolePermissions command) .done next
  | createSpace {command : CreateSpaceCommand} (organization : hasOrganization db command.orgId) :
      Commits catalog context db (.createSpace command) (.id context.id) { db with
        spaces := db.spaces.set context.id
          (Space.create context.id command.orgId command.spaceName command.visibility) }

variable {db next : TenantDb} {pending writes : List TenantWrite} {catalog : PermissionCatalog}
  {context : TenantContext} {command : TenantCommand} {reply : TenantReply}

@[simp]
theorem aloneFrom_orThrow_eq_ok {Entity : Type} {error : Knowledge.ApplicationError}
    {found : Option Entity} {entity : Entity} :
    tenantEngine.aloneFrom db pending (orThrow error found) = .ok (entity, writes) ↔
      found = some entity ∧ pending = writes := by
  cases found <;> simp [orThrow]

@[simp]
theorem aloneFrom_throwIf_eq_ok {error : Knowledge.ApplicationError} {condition : Bool}
    {answer : Unit} :
    tenantEngine.aloneFrom db pending (throwIf condition error) = .ok (answer, writes) ↔
      condition = false ∧ pending = writes := by
  cases condition <;> simp [throwIf]

section Ends

variable {assumptions : Assumptions TenantDb TenantWrite}
  {permits : List TenantDb → TenantDb → Prop} {seen : List TenantDb}

theorem orThrow_ends {Value : Type}
    {post : Value → List TenantDb → List TenantWrite → TenantDb → Prop}
    {error : Knowledge.ApplicationError} {found : Option Value}
    (ends : ∀ value, found = some value → post value seen pending db) :
    assumptions.Ends tenantEngine permits post (orThrow error found) seen pending db := by
  cases found with
  | none => exact Assumptions.Ends.fail _
  | some value => exact Assumptions.Ends.pure (ends value rfl)

theorem throwIf_ends {post : Unit → List TenantDb → List TenantWrite → TenantDb → Prop}
    {error : Knowledge.ApplicationError} {condition : Bool}
    (ends : condition = false → post () seen pending db) :
    assumptions.Ends tenantEngine permits post (throwIf condition error) seen pending db := by
  cases condition with
  | true => exact Assumptions.Ends.fail _
  | false => exact Assumptions.Ends.pure (ends rfl)

end Ends

theorem saveOrganization_ok {org : Organization} {answer : Unit}
    (ran : tenantEngine.aloneFrom db pending (PrismaOrganizationRepository.save org) =
      .ok (answer, writes)) :
    writes = pending ++ [.putOrganization (PrismaOrganizationRepository.upsert org
      ((tenantEngine.view db pending).organizations.get? org.id))] := by
  rcases aloneFrom_execute_eq_ok.mp ran with ⟨more, saved, rfl⟩
  dsimp only at saved
  split at saved
  · cases saved
  · cases saved
    rfl

theorem saveMembership_new {membership : Membership} {answer : Unit}
    (ran : tenantEngine.aloneFrom db pending (PrismaMembershipRepository.save membership) =
      .ok (answer, writes))
    (absent : (tenantEngine.view db pending).memberships.get?
      (membership.orgId, membership.userId) = none) :
    hasOrganization (tenantEngine.view db pending) membership.orgId ∧
      writes = pending ++ [.putMembership membership] := by
  rcases aloneFrom_execute_eq_ok.mp ran with ⟨more, saved, rfl⟩
  simp only [absent] at saved
  split at saved
  · next organization =>
      cases saved
      exact ⟨organization, rfl⟩
  · cases saved

theorem saveMembership_stored {membership stored : Membership} {answer : Unit}
    (ran : tenantEngine.aloneFrom db pending (PrismaMembershipRepository.save membership) =
      .ok (answer, writes))
    (found : (tenantEngine.view db pending).memberships.get?
      (membership.orgId, membership.userId) = some stored) :
    writes = pending ++ [.putMembership { stored with role := membership.role }] := by
  rcases aloneFrom_execute_eq_ok.mp ran with ⟨more, saved, rfl⟩
  simp only [found] at saved
  cases saved
  rfl

theorem saveInvite_new {invite : OrgInvite} {answer : Unit}
    (ran : tenantEngine.aloneFrom db pending (PrismaOrgInviteRepository.save invite) =
      .ok (answer, writes))
    (absent : (tenantEngine.view db pending).invites.get? invite.id = none) :
    hasOrganization (tenantEngine.view db pending) invite.orgId ∧
      writes = pending ++ [.putInvite invite] := by
  rcases aloneFrom_execute_eq_ok.mp ran with ⟨more, saved, rfl⟩
  simp only [absent] at saved
  split at saved
  · cases saved
  · split at saved
    · next organization =>
        cases saved
        exact ⟨organization, rfl⟩
    · cases saved

theorem saveInvite_stored {invite stored : OrgInvite} {answer : Unit}
    (ran : tenantEngine.aloneFrom db pending (PrismaOrgInviteRepository.save invite) =
      .ok (answer, writes))
    (found : (tenantEngine.view db pending).invites.get? invite.id = some stored) :
    writes = pending ++ [.putInvite { stored with
      usedAt := invite.usedAt
      usedBy := invite.usedBy }] := by
  rcases aloneFrom_execute_eq_ok.mp ran with ⟨more, saved, rfl⟩
  simp only [found] at saved
  cases saved
  rfl

theorem saveSpace_new {space : Space} {answer : Unit}
    (ran : tenantEngine.aloneFrom db pending (PrismaSpaceRepository.save space) =
      .ok (answer, writes))
    (absent : (tenantEngine.view db pending).spaces.get? space.id = none) :
    hasOrganization (tenantEngine.view db pending) space.orgId ∧
      writes = pending ++ [.putSpace space] := by
  rcases aloneFrom_execute_eq_ok.mp ran with ⟨more, saved, rfl⟩
  simp only [absent] at saved
  split at saved
  · next organization =>
      cases saved
      exact ⟨organization, rfl⟩
  · cases saved

theorem createMany_ok {rows : List OrgRolePermission} {answer : Unit}
    (ran : tenantEngine.aloneFrom db pending (PrismaOrgRolePermissionRepository.createMany rows) =
      .ok (answer, writes)) :
    rows.Nodup ∧ writes = pending ++ rows.map .insertPermission := by
  rcases aloneFrom_execute_eq_ok.mp ran with ⟨more, saved, rfl⟩
  split at saved
  · cases saved
  · next free =>
      split at saved
      · cases saved
        exact ⟨not_not.mp fun twice => free (.inl twice), rfl⟩
      · cases saved

/-- The identities of the rows are distinct, and those to come are new. -/
structure Numbered (db : TenantDb) : Prop where
  distinct : (db.rolePermissions.map StoredPermission.rowId).Nodup
  below : ∀ row ∈ db.rolePermissions, row.rowId < db.nextRowId

theorem Numbered.apply (numbered : Numbered db) (write : TenantWrite) :
    Numbered (tenantEngine.apply db write) := by
  cases write with
  | insertPermission permission =>
      refine ⟨?_, ?_⟩
      · simp only [tenantEngine, List.map_append]
        refine List.nodup_append.mpr ⟨numbered.distinct, List.nodup_singleton _, ?_⟩
        rintro _ member _ last rfl
        rcases List.mem_map.mp member with ⟨row, stored, same⟩
        have older := numbered.below row stored
        rw [same, List.mem_singleton.mp last] at older
        exact absurd older (lt_irrefl _)
      · intro row member
        rcases List.mem_append.mp member with old | new
        · exact (numbered.below row old).trans (Nat.lt_succ_self _)
        · rw [List.mem_singleton.mp new]
          exact Nat.lt_succ_self _
  | deletePermission row =>
      refine ⟨?_, ?_⟩
      · exact (List.filter_sublist.map _).nodup numbered.distinct
      · intro stored member
        exact numbered.below stored (List.mem_of_mem_filter member)
  | _ => exact ⟨numbered.distinct, numbered.below⟩

theorem Numbered.view (numbered : Numbered db) (writes : List TenantWrite) :
    Numbered (tenantEngine.view db writes) :=
  Engine.view_keeps Numbered numbered fun write _ _ numbered => numbered.apply write

/-- An INSERT adds its rows and leaves the other tables alone. -/
theorem view_insertPermissions (db : TenantDb) (rows : List OrgRolePermission) :
    let next := tenantEngine.view db (rows.map .insertPermission)
    next.organizations = db.organizations ∧ next.memberships = db.memberships ∧
      next.invites = db.invites ∧ next.spaces = db.spaces ∧
      next.permissions = db.permissions ++ rows := by
  induction rows generalizing db with
  | nil => simp
  | cons row rows ih =>
      rcases ih (tenantEngine.apply db (.insertPermission row)) with
        ⟨organizations, memberships, invites, spaces, permissions⟩
      refine ⟨organizations, memberships, invites, spaces, permissions.trans ?_⟩
      simp [tenantEngine, TenantDb.permissions]

/-- A DELETE removes its rows and leaves the other tables alone. -/
theorem view_deletePermissions (db : TenantDb) (rows : List StoredPermission) :
    let next := tenantEngine.view db (rows.map .deletePermission)
    next.organizations = db.organizations ∧ next.memberships = db.memberships ∧
      next.invites = db.invites ∧ next.spaces = db.spaces ∧
      next.rolePermissions = db.rolePermissions.filter fun stored =>
        stored.rowId ∉ rows.map StoredPermission.rowId := by
  induction rows generalizing db with
  | nil => simp
  | cons row rows ih =>
      rcases ih (tenantEngine.apply db (.deletePermission row)) with
        ⟨organizations, memberships, invites, spaces, permissions⟩
      refine ⟨organizations, memberships, invites, spaces, permissions.trans ?_⟩
      simp only [tenantEngine, List.filter_filter, List.map_cons, List.mem_cons, not_or]
      refine List.filter_congr fun stored _ => ?_
      simp [Bool.and_comm]

/-- A DELETE that is not disturbed removes the rows of the role. -/
theorem view_deleteRole (numbered : Numbered db) (orgId : String) (role : OrgRole) :
    (tenantEngine.view db ((PrismaOrgRolePermissionRepository.ofRole db orgId role).map
      .deletePermission)).permissions =
      db.permissions.filter fun row => ¬ row.OfRole orgId role := by
  rw [TenantDb.permissions, (view_deletePermissions db _).2.2.2.2, TenantDb.permissions,
    List.filter_map]
  congr 1
  refine List.filter_congr fun stored member => decide_eq_decide.mpr (not_congr ?_)
  constructor
  · intro found
    rcases List.mem_map.mp found with ⟨row, ofRole, same⟩
    obtain rfl : row = stored := List.inj_on_of_nodup_map numbered.distinct
      (List.mem_of_mem_filter ofRole) member same
    exact of_decide_eq_true (List.mem_filter.mp ofRole).2
  · intro ofRole
    exact List.mem_map_of_mem (List.mem_filter.mpr ⟨member, decide_eq_true ofRole⟩)

theorem replaceForRole_ok (numbered : Numbered db) {orgId : String} {role : OrgRole}
    {permissions : List String} {answer : Unit}
    (ran : tenantEngine.aloneFrom db [] (PrismaOrgRolePermissionRepository.replaceForRole orgId role
      permissions) = .ok (answer, writes)) :
    let next := tenantEngine.view db writes
    next.organizations = db.organizations ∧ next.memberships = db.memberships ∧
      next.invites = db.invites ∧ next.spaces = db.spaces ∧
      next.permissions = (db.permissions.filter fun row => ¬ row.OfRole orgId role) ++
        permissions.map fun permission => ⟨orgId, role, permission⟩ := by
  rcases aloneFrom_bind_eq_ok.mp ran with ⟨_, deleted, deletes, inserts⟩
  rcases aloneFrom_bind_eq_ok.mp deletes with ⟨found, none, reads, deletes⟩
  rcases aloneFrom_read_eq_ok.mp reads with ⟨rfl, rfl⟩
  rcases aloneFrom_execute_eq_ok.mp deletes with ⟨more, ran, rfl⟩
  cases ran
  have all : ∀ row ∈ PrismaOrgRolePermissionRepository.ofRole db orgId role,
      decide (row ∈ db.rolePermissions) :=
    fun row member => decide_eq_true (List.mem_of_mem_filter member)
  rw [Engine.view_nil, List.filter_eq_self.mpr all] at inserts
  have rest := view_deletePermissions db (PrismaOrgRolePermissionRepository.ofRole db orgId role)
  have removed := view_deleteRole numbered orgId role
  dsimp only at rest ⊢
  split at inserts
  · rcases createMany_ok inserts with ⟨-, rfl⟩
    have added := view_insertPermissions (tenantEngine.view db
      ((PrismaOrgRolePermissionRepository.ofRole db orgId role).map .deletePermission))
      (permissions.map fun permission => ⟨orgId, role, permission⟩)
    dsimp only at added
    rw [Engine.view_append, added.1, added.2.1, added.2.2.1, added.2.2.2.1, added.2.2.2.2, removed]
    exact ⟨rest.1, rest.2.1, rest.2.2.1, rest.2.2.2.1, rfl⟩
  · next empty =>
      rcases aloneFrom_pure_eq_ok.mp inserts with ⟨-, rfl⟩
      have none : permissions = [] := List.eq_nil_of_length_eq_zero (by omega)
      rw [removed, none]
      exact ⟨rest.1, rest.2.1, rest.2.2.1, rest.2.2.2.1, (List.append_nil _).symm⟩

theorem createOrg_commits (keyed : Keyed db) (fresh : Fresh db context)
    {command : CreateOrgCommand} {answer : String}
    (ran : tenantEngine.aloneFrom db [] (CreateOrgHandler.execute catalog context command) =
      .ok (answer, writes)) :
    Commits catalog context db (.createOrg command) (.id answer)
      (tenantEngine.view db writes) := by
  simp only [CreateOrgHandler.execute, PrismaOrganizationRepository.findBySlug,
    aloneFrom_bind_eq_ok, aloneFrom_read_eq_ok, aloneFrom_throwIf_eq_ok,
    aloneFrom_pure_eq_ok] at ran
  rcases ran with
    ⟨_, _, ⟨rfl, rfl⟩, _, _, ⟨-, rfl⟩, _, _, org, _, _, member, _, _, seeded, rfl, rfl⟩
  have org := saveOrganization_ok org
  have new : db.organizations.get? (Organization.create context.id context.now command.orgName
      command.slug).id = none := fresh.organization
  simp only [Engine.view_nil, new, PrismaOrganizationRepository.upsert, List.nil_append] at org
  subst org
  have absent : db.memberships.get? (context.id, command.ownerUserId) = none := by
    by_contra stored
    rcases Option.ne_none_iff_exists'.mp stored with ⟨membership, stored⟩
    rcases keyed.membership _ _ stored with ⟨key, organization⟩
    simp only [Prod.mk.injEq] at key
    simp [hasOrganization, key.1, fresh.organization] at organization
  have member := (saveMembership_new member absent).2
  subst member
  have seeded := (createMany_ok seeded).2
  subst seeded
  have added := fun db => view_insertPermissions db (seeds catalog context.id)
  rw [Engine.view_append]
  exact .createOrg (added _).1 (added _).2.1 (added _).2.2.1 (added _).2.2.2.1 (added _).2.2.2.2

theorem archiveOrg_commits (keyed : Keyed db) {command : ArchiveOrgCommand} {answer : Unit}
    (ran : tenantEngine.aloneFrom db [] (ArchiveOrgHandler.execute context command) =
      .ok (answer, writes)) :
    Commits catalog context db (.archiveOrg command) .done (tenantEngine.view db writes) := by
  simp only [ArchiveOrgHandler.execute, PrismaOrganizationRepository.findById,
    aloneFrom_bind_eq_ok, aloneFrom_read_eq_ok, aloneFrom_orThrow_eq_ok] at ran
  rcases ran with ⟨_, _, ⟨rfl, rfl⟩, org, _, ⟨found, rfl⟩, saved⟩
  rcases Option.filter_eq_some_iff.mp found with ⟨stored, live⟩
  have same : org.id = command.orgId := keyed.organization _ _ stored
  have saved := saveOrganization_ok saved
  have stored' : db.organizations.get? (org.softDelete context.now).id = some org := by
    simpa [Organization.softDelete, same] using stored
  simp only [Engine.view_nil, stored', PrismaOrganizationRepository.upsert,
    List.nil_append] at saved
  subst saved
  have commits : Commits catalog context db (.archiveOrg command) .done _ :=
    .archiveOrg stored (of_decide_eq_true live)
  rw [← same] at commits
  exact commits

theorem createInvite_commits (fresh : Fresh db context) {command : CreateInviteCommand}
    {answer : String}
    (ran : tenantEngine.aloneFrom db [] (CreateInviteHandler.execute context command) =
      .ok (answer, writes)) :
    Commits catalog context db (.createInvite command) (.id answer)
      (tenantEngine.view db writes) := by
  simp only [CreateInviteHandler.execute, aloneFrom_bind_eq_ok, aloneFrom_pure_eq_ok] at ran
  rcases ran with ⟨_, _, saved, rfl, rfl⟩
  rcases saveInvite_new saved fresh.invite with ⟨organization, rfl⟩
  exact .createInvite organization

theorem findByToken_keyed (keyed : Keyed db) {token : String} {invite : OrgInvite}
    (found : (db.invites.values.find? fun invite => invite.token = token) = some invite) :
    db.invites.get? invite.id = some invite ∧ invite.token = token := by
  have invites : db.invites.All fun id invite => invite.id = id := keyed.invite
  refine ⟨invites.get?_of_mem (List.mem_of_find?_eq_some found), ?_⟩
  simpa using List.find?_some found

theorem acceptInvite_commits (keyed : Keyed db) {command : AcceptInviteCommand}
    {answer : String × ManageableOrgRole}
    (ran : tenantEngine.aloneFrom db [] (AcceptInviteHandler.execute context command) =
      .ok (answer, writes)) :
    Commits catalog context db (.acceptInvite command) (.joined answer.1 answer.2)
      (tenantEngine.view db writes) := by
  simp only [AcceptInviteHandler.execute, PrismaOrgInviteRepository.findByToken,
    PrismaMembershipRepository.findByOrgAndUser, aloneFrom_bind_eq_ok, aloneFrom_read_eq_ok,
    aloneFrom_orThrow_eq_ok, aloneFrom_throwIf_eq_ok, aloneFrom_pure_eq_ok] at ran
  rcases ran with ⟨_, _, ⟨rfl, rfl⟩, invite, _, ⟨found, rfl⟩, _, _, ⟨-, rfl⟩, _, _, ⟨-, rfl⟩, _, _,
    ⟨rfl, rfl⟩, _, _, ⟨absent, rfl⟩, _, _, member, _, _, saved, rfl, rfl⟩
  have stored := (findByToken_keyed keyed found).1
  have absent : db.memberships.get? (invite.orgId, command.userId) = none :=
    Option.not_isSome_iff_eq_none.mp (by simpa using absent)
  rcases saveMembership_new member absent with ⟨organization, rfl⟩
  have saved := saveInvite_stored saved stored
  subst saved
  exact .acceptInvite stored absent organization

theorem updateMemberRole_commits (keyed : Keyed db) {command : UpdateMemberRoleCommand}
    {answer : Unit}
    (ran : tenantEngine.aloneFrom db [] (UpdateMemberRoleHandler.execute command) =
      .ok (answer, writes)) :
    Commits catalog context db (.updateMemberRole command) .done
      (tenantEngine.view db writes) := by
  simp only [UpdateMemberRoleHandler.execute, PrismaMembershipRepository.findByOrgAndUser,
    aloneFrom_bind_eq_ok, aloneFrom_read_eq_ok, aloneFrom_orThrow_eq_ok] at ran
  rcases ran with ⟨_, _, ⟨rfl, rfl⟩, membership, _, ⟨found, rfl⟩, saved⟩
  have key := (keyed.membership _ _ found).1
  have saved := saveMembership_stored saved (key.symm ▸ found)
  subst saved
  have commits : Commits catalog context db (.updateMemberRole command) .done _ :=
    .updateMemberRole found
  rw [← key] at commits
  exact commits

theorem updateRolePermissions_commits (numbered : Numbered db)
    {command : UpdateRolePermissionsCommand} {answer : Unit}
    (ran : tenantEngine.aloneFrom db [] (UpdateRolePermissionsHandler.execute catalog command) =
      .ok (answer, writes)) :
    Commits catalog context db (.updateRolePermissions command) .done
      (tenantEngine.view db writes) := by
  simp only [UpdateRolePermissionsHandler.execute, aloneFrom_bind_eq_ok,
    aloneFrom_throwIf_eq_ok] at ran
  rcases ran with ⟨_, _, ⟨manageable, rfl⟩, ran⟩
  split at ran
  · exact absurd ran aloneFrom_fail_eq_ok
  · rcases replaceForRole_ok numbered ran with
      ⟨organizations, memberships, invites, spaces, permissions⟩
    exact .updateRolePermissions (by simpa using manageable) organizations memberships invites
      spaces permissions

theorem createSpace_commits (fresh : Fresh db context) {command : CreateSpaceCommand}
    {answer : String}
    (ran : tenantEngine.aloneFrom db [] (CreateSpaceHandler.execute context command) =
      .ok (answer, writes)) :
    Commits catalog context db (.createSpace command) (.id answer)
      (tenantEngine.view db writes) := by
  simp only [CreateSpaceHandler.execute, aloneFrom_bind_eq_ok, aloneFrom_pure_eq_ok] at ran
  rcases ran with ⟨_, _, saved, rfl, rfl⟩
  rcases saveSpace_new saved fresh.space with ⟨organization, rfl⟩
  exact .createSpace organization

/-- Every command that succeeds commits what its case says. -/
theorem commits_of_ok (keyed : Keyed db) (numbered : Numbered db) (fresh : Fresh db context)
    (ran : tenantEngine.aloneFrom db [] (command.execute catalog context) = .ok (reply, writes)) :
    Commits catalog context db command reply (tenantEngine.view db writes) := by
  cases command with
  | createOrg command =>
      rcases aloneFrom_map_eq_ok.mp ran with ⟨answer, body, rfl⟩
      exact createOrg_commits keyed fresh body
  | archiveOrg command =>
      rcases aloneFrom_map_eq_ok.mp ran with ⟨answer, body, rfl⟩
      exact archiveOrg_commits keyed body
  | createInvite command =>
      rcases aloneFrom_map_eq_ok.mp ran with ⟨answer, body, rfl⟩
      exact createInvite_commits fresh body
  | acceptInvite command =>
      rcases aloneFrom_map_eq_ok.mp ran with ⟨answer, body, rfl⟩
      exact acceptInvite_commits keyed body
  | updateMemberRole command =>
      rcases aloneFrom_map_eq_ok.mp ran with ⟨answer, body, rfl⟩
      exact updateMemberRole_commits keyed body
  | updateRolePermissions command =>
      rcases aloneFrom_map_eq_ok.mp ran with ⟨answer, body, rfl⟩
      exact updateRolePermissions_commits numbered body
  | createSpace command =>
      rcases aloneFrom_map_eq_ok.mp ran with ⟨answer, body, rfl⟩
      exact createSpace_commits fresh body

end CoreApi.Tenant
