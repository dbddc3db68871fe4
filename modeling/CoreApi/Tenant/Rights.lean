import CoreApi.Foundation.Grants
import CoreApi.Tenant.Effects
import CoreApi.Repos.Commands

/-!
# What a command may write to the tables of the tenant module

A row found by a key keeps what it was created with, apart from the few columns
that a command writes over. Whatever the commands do at the same time, each of
them writes over nothing else, creates rows under no other id than the one it
draws, and gives nobody the role of the owner but the founder of the organization
it creates.
-/

namespace CoreApi

open Tenant

/-- The key of a row of the tenant module. -/
inductive TenantKey where
  | organization (id : String)
  | membership (orgId userId : String)
  | invite (id : String)
  | space (id : String)
deriving DecidableEq

/-- What no command changes of a row. -/
inductive Identity where
  | organization (name slug : String) (seatLimit : ℕ) (createdAt : ℤ)
  | membership (id : String) (joinedAt : ℤ)
  | invite (token orgId : String) (role : ManageableOrgRole) (createdBy : String) (expiresAt : ℤ)
  | space (space : Space)

namespace Tenant

/-- What of an organization never changes. -/
def Organization.identity (org : Organization) : Identity :=
  .organization org.name org.slug org.seatLimit org.createdAt

/-- What of a membership never changes. -/
def Membership.identity (membership : Membership) : Identity :=
  .membership membership.id membership.joinedAt

/-- What of an invite never changes. -/
def OrgInvite.identity (invite : OrgInvite) : Identity :=
  .invite invite.token invite.orgId invite.role invite.createdBy invite.expiresAt

end Tenant

/-- What of the row under a key never changes, if there is one. -/
def identityOf (db : CoreDb) : TenantKey → Option Identity
  | .organization id => (db.tenant.organizations.get? id).map Organization.identity
  | .membership orgId userId =>
      (db.tenant.memberships.get? (orgId, userId)).map Membership.identity
  | .invite id => (db.tenant.invites.get? id).map OrgInvite.identity
  | .space id => (db.tenant.spaces.get? id).map .space

/-- The row a write stores. -/
def CoreWrite.stores : CoreWrite → Option (TenantKey × Identity)
  | .tenant (.putOrganization org) => some (.organization org.id, org.identity)
  | .tenant (.putMembership membership) =>
      some (.membership membership.orgId membership.userId, membership.identity)
  | .tenant (.putInvite invite) => some (.invite invite.id, invite.identity)
  | .tenant (.putSpace space) => some (.space space.id, .space space)
  | _ => none

namespace CoreCommand

/-- The row a command creates under the id it draws. -/
def draws : CoreCommand → Option (TenantKey × Identity)
  | .tenant context (.createOrg command) => some (.organization context.id,
      (Organization.create context.id context.now command.orgName command.slug).identity)
  | .tenant context (.createInvite command) => some (.invite context.id,
      (OrgInvite.create context.id command.token command.orgId command.role command.createdBy
        command.expiresAt).identity)
  | .tenant context (.createSpace command) => some (.space context.id,
      .space (Space.create context.id command.orgId command.spaceName command.visibility))
  | _ => none

/-- The rows nobody else creates: the one under the drawn id, and the membership of the founder. -/
def creates : CoreCommand → List TenantKey
  | .tenant context (.createOrg command) =>
      [.organization context.id, .membership context.id command.ownerUserId]
  | .tenant context (.createInvite _) => [.invite context.id]
  | .tenant context (.createSpace _) => [.space context.id]
  | _ => []

end CoreCommand

/-- A permission that may be stored for a role: one of the catalog, or a default of the role. -/
def Grantable (catalog : PermissionCatalog) (row : OrgRolePermission) : Prop :=
  row.role ≠ .owner ∧ (catalog.isValidOrgPermission row.permission ∨
    ∃ permissions, (row.role, permissions) ∈ defaultRolePermissions ∧
      row.permission ∈ permissions.map catalog.code)

/-- The permission is one of the defaults of its role. -/
def IsDefault (catalog : PermissionCatalog) (row : OrgRolePermission) : Prop :=
  ∃ permissions, (row.role, permissions) ∈ defaultRolePermissions ∧
    row.permission ∈ permissions.map catalog.code

section Rights

variable {Client : Type} (catalog : PermissionCatalog) (commands : Client → Option CoreCommand)

/-- The client's command creates the row under a key. -/
def Creates (client : Client) (key : TenantKey) : Prop :=
  ∃ command, commands client = some command ∧ key ∈ command.creates

/-- Some command draws the key, and makes a row of this identity under it. -/
def Drawn (key : TenantKey) (identity : Identity) : Prop :=
  ∃ client command, commands client = some command ∧ command.draws = some (key, identity)

/-- No two clients create one row. -/
def CreatedOnce : Prop :=
  ∀ first second key, Creates commands first key → Creates commands second key → first = second

variable {commands} in
/-- The keys tell who creates the rows under them. -/
theorem createdOnce_of_creator (creator : TenantKey → Client)
    (own : ∀ client key, Creates commands client key → client = creator key) :
    CreatedOnce commands :=
  fun _ _ key creates creates' => (own _ key creates).trans (own _ key creates').symm

/-- The client archives the organization. -/
def Archives (client : Client) (orgId : String) : Prop :=
  ∃ context, commands client = some (.tenant context (.archiveOrg ⟨orgId⟩))

/-- The client accepts the invite with the token, as the user. -/
def Accepts (client : Client) (token userId : String) : Prop :=
  ∃ context, commands client = some (.tenant context (.acceptInvite ⟨token, userId⟩))

/-- The client gives the user the role in the organization. -/
def Assigns (client : Client) (orgId userId : String) (role : OrgRole) : Prop :=
  ∃ context update, commands client = some (.tenant context (.updateMemberRole update)) ∧
    update.orgId = orgId ∧ update.targetUserId = userId ∧ update.newRole = role

/-- The role of a new member is that of the invite he accepts. -/
def Joins (client : Client) (identities : TenantKey → Option Identity) (membership : Membership) :
    Prop :=
  ∃ token id role createdBy expiresAt, Accepts commands client token membership.userId ∧
    identities (.invite id) = some (.invite token membership.orgId role createdBy expiresAt) ∧
    membership.role = role

/-- The client lists the permission for the role. -/
def Lists (client : Client) (row : OrgRolePermission) : Prop :=
  ∃ context update, commands client = some (.tenant context (.updateRolePermissions update)) ∧
    update.orgId = row.orgId ∧ update.role = row.role ∧ row.permission ∈ update.permissions

/-- What a client may write when there are rows with these identities. -/
def May (client : Client) (identities : TenantKey → Option Identity) : CoreWrite → Prop
  | .tenant (.putOrganization org) =>
      Drawn commands (.organization org.id) org.identity ∧
        ((identities (.organization org.id)).isSome ∧ org.deletedAt.isSome ∧
            Archives commands client org.id ∨
          Creates commands client (.organization org.id))
  | .tenant (.putMembership membership) =>
      (identities (.organization membership.orgId)).isSome ∧
        (membership.role ≠ .owner ∧
            (Assigns commands client membership.orgId membership.userId membership.role ∨
              Joins commands client identities membership) ∨
          Creates commands client (.membership membership.orgId membership.userId) ∧
            membership.role = .owner)
  | .tenant (.putInvite invite) =>
      Drawn commands (.invite invite.id) invite.identity ∧
        ((identities (.invite invite.id)).isSome ∧ invite.usedAt.isSome ∧
            (∃ userId, Accepts commands client invite.token userId ∧
              invite.usedBy = some userId) ∨
          Creates commands client (.invite invite.id))
  | .tenant (.putSpace space) =>
      Drawn commands (.space space.id) (.space space) ∧ Creates commands client (.space space.id)
  | .tenant (.insertPermission row) => Grantable catalog row ∧
      (Lists commands client row ∨
        IsDefault catalog row ∧ Creates commands client (.organization row.orgId))
  | _ => True

/-- Rows stand under their keys, as they were drawn, and owners are founders. -/
structure RowsKept (db : CoreDb) : Prop where
  organizations : db.tenant.organizations.All fun id org =>
    org.id = id ∧ Drawn commands (.organization id) org.identity
  memberships : db.tenant.memberships.All fun key membership =>
    (membership.orgId, membership.userId) = key ∧
      (identityOf db (.organization membership.orgId)).isSome ∧
      (membership.role = .owner →
        ∃ client, Creates commands client (.membership membership.orgId membership.userId))
  invites : db.tenant.invites.All fun id invite =>
    invite.id = id ∧ Drawn commands (.invite id) invite.identity
  spaces : db.tenant.spaces.All fun id space =>
    space.id = id ∧ Drawn commands (.space id) (.space space)
  permissions : ∀ row ∈ db.tenant.rolePermissions, Grantable catalog row.toOrgRolePermission

variable {catalog commands}

theorem isSome_mono {identities more : TenantKey → Option Identity}
    (grows : ∀ key one, identities key = some one → more key = some one) {key : TenantKey}
    (stored : (identities key).isSome) : (more key).isSome := by
  rcases Option.isSome_iff_exists.mp stored with ⟨one, found⟩
  exact Option.isSome_iff_exists.mpr ⟨one, grows key one found⟩

theorem Joins.mono {client : Client} {identities more : TenantKey → Option Identity}
    {membership : Membership}
    (grows : ∀ key one, identities key = some one → more key = some one)
    (joins : Joins commands client identities membership) :
    Joins commands client more membership := by
  rcases joins with ⟨token, id, role, createdBy, expiresAt, accepts, invited, same⟩
  exact ⟨token, id, role, createdBy, expiresAt, accepts, grows _ _ invited, same⟩

theorem Joins.accepts {client : Client} {identities : TenantKey → Option Identity}
    {membership : Membership} (joins : Joins commands client identities membership) :
    ∃ token, Accepts commands client token membership.userId := by
  rcases joins with ⟨token, -, -, -, -, accepts, -⟩
  exact ⟨token, accepts⟩

theorem May.mono {client : Client} {identities more : TenantKey → Option Identity}
    {write : CoreWrite} (grows : ∀ key one, identities key = some one → more key = some one)
    (may : May catalog commands client identities write) :
    May catalog commands client more write := by
  cases write with
  | tenant write =>
      cases write with
      | putOrganization org =>
          exact ⟨may.1, may.2.imp_left (And.imp_left (isSome_mono grows))⟩
      | putMembership membership =>
          refine ⟨isSome_mono grows may.1, may.2.imp_left ?_⟩
          rintro ⟨other, names⟩
          exact ⟨other, names.imp_right (Joins.mono grows)⟩
      | putInvite invite => exact ⟨may.1, may.2.imp_left (And.imp_left (isSome_mono grows))⟩
      | _ => exact may
  | _ => exact may

theorem RowsKept.empty : RowsKept catalog commands .empty where
  organizations := .empty
  memberships := .empty
  invites := .empty
  spaces := .empty
  permissions _ member := absurd member List.not_mem_nil

theorem identityOf_apply (db : CoreDb) (write : CoreWrite) (key : TenantKey) :
    identityOf (coreEngine.apply db write) key =
      match write.stores with
      | some (stored, one) => if key = stored then some one else identityOf db key
      | none => identityOf db key := by
  cases write with
  | tenant write =>
      cases write with
      | putOrganization org =>
          cases key with
          | organization id =>
              by_cases same : id = org.id <;>
                simp [identityOf, coreEngine, tenantEngine, CoreWrite.stores, OrderedMap.get?_set,
                  same]
          | _ => rfl
      | putMembership membership =>
          cases key with
          | membership orgId userId =>
              by_cases same : orgId = membership.orgId ∧ userId = membership.userId <;>
                simp [identityOf, coreEngine, tenantEngine, CoreWrite.stores, OrderedMap.get?_set,
                  same]
          | _ => rfl
      | putInvite invite =>
          cases key with
          | invite id =>
              by_cases same : id = invite.id <;>
                simp [identityOf, coreEngine, tenantEngine, CoreWrite.stores, OrderedMap.get?_set,
                  same]
          | _ => rfl
      | putSpace space =>
          cases key with
          | space id =>
              by_cases same : id = space.id <;>
                simp [identityOf, coreEngine, tenantEngine, CoreWrite.stores, OrderedMap.get?_set,
                  same]
          | _ => rfl
      | _ => cases key <;> rfl
  | knowledge write => cases key <;> rfl
  | engagement write => cases key <;> rfl
  | credit now write => cases write <;> cases key <;> rfl

/-- A write that a client may make keeps the rows. -/
theorem RowsKept.apply {client : Client} {db : CoreDb} {write : CoreWrite}
    (kept : RowsKept catalog commands db)
    (may : May catalog commands client (identityOf db) write) :
    RowsKept catalog commands (coreEngine.apply db write) := by
  have stays : ∀ id, (identityOf db (.organization id)).isSome →
      (identityOf (coreEngine.apply db write) (.organization id)).isSome := by
    intro id stored
    rw [identityOf_apply]
    split
    · split
      · rfl
      · exact stored
    · exact stored
  have memberships : db.tenant.memberships.All fun key membership =>
      (membership.orgId, membership.userId) = key ∧
        (identityOf (coreEngine.apply db write) (.organization membership.orgId)).isSome ∧
        (membership.role = .owner →
          ∃ client, Creates commands client (.membership membership.orgId membership.userId)) :=
    OrderedMap.All.mono kept.memberships fun key membership own =>
      ⟨own.1, stays _ own.2.1, own.2.2⟩
  cases write with
  | tenant write =>
      cases write with
      | putOrganization org =>
          exact ⟨kept.organizations.set ⟨rfl, may.1⟩, memberships, kept.invites, kept.spaces,
            kept.permissions⟩
      | putMembership membership =>
          refine ⟨kept.organizations, memberships.set ⟨rfl, stays _ may.1, fun owner => ?_⟩,
            kept.invites, kept.spaces, kept.permissions⟩
          rcases may.2 with ⟨other, -⟩ | ⟨creates, -⟩
          · exact absurd owner other
          · exact ⟨client, creates⟩
      | putInvite invite =>
          exact ⟨kept.organizations, memberships, kept.invites.set ⟨rfl, may.1⟩, kept.spaces,
            kept.permissions⟩
      | putSpace space =>
          exact ⟨kept.organizations, memberships, kept.invites, kept.spaces.set ⟨rfl, may.1⟩,
            kept.permissions⟩
      | insertPermission permission =>
          refine ⟨kept.organizations, memberships, kept.invites, kept.spaces, fun row member => ?_⟩
          rcases List.mem_append.mp member with old | new
          · exact kept.permissions row old
          · rw [List.mem_singleton.mp new]
            exact may.1
      | deletePermission row =>
          exact ⟨kept.organizations, memberships, kept.invites, kept.spaces, fun row member =>
            kept.permissions row (List.mem_of_mem_filter member)⟩
  | knowledge write =>
      exact ⟨kept.organizations, memberships, kept.invites, kept.spaces, kept.permissions⟩
  | engagement write =>
      exact ⟨kept.organizations, memberships, kept.invites, kept.spaces, kept.permissions⟩
  | credit now write =>
      cases write <;>
        exact ⟨kept.organizations, memberships, kept.invites, kept.spaces, kept.permissions⟩

variable (catalog commands)

/-- The rows of the tenant module keep their identity. -/
def tenantRegistry : Registry coreEngine TenantKey Identity where
  owner := identityOf
  claim := CoreWrite.stores
  lock
    | .organization id => .tenant (.organization id)
    | .membership orgId userId => .tenant (.membership orgId userId)
    | .invite id => .tenant (.invite id)
    | .space id => .tenant (.space id)
  Refers identities write := ∃ client, May catalog commands client identities write
  Inv := RowsKept catalog commands
  owner_apply db write key := by
    rw [identityOf_apply]
    cases write.stores <;> rfl
  lock_claim write key one stores := by
    cases write with
    | tenant write =>
        cases write <;> cases stores
        all_goals rfl
    | _ => cases stores
  refers_mono := fun _ _ _ grows ⟨client, may⟩ => ⟨client, may.mono grows⟩
  inv_apply := fun _ _ kept ⟨_, may⟩ _ => kept.apply may

/-- What each client may write, which other commits do not take from it. -/
def tenantGrants : (tenantRegistry catalog commands).Grants Client where
  May := May catalog commands
  mono _ _ _ _ grows may := may.mono grows
  refers client _ _ may := ⟨client, may⟩

end Rights

end CoreApi
