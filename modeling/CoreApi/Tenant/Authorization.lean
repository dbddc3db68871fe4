import CoreApi.Tenant.Founder

/-!
# Soundness and completeness of the authorization

The decision is meant to follow from three tables: the organization is there and
not archived, the user has a membership of it, and the role of the membership is
the owner's or holds the permissions. Both entry points follow the memberships
and the permissions only, so a member of an archived organization keeps every
right.
-/

namespace CoreApi.Tenant

variable {catalog : PermissionCatalog} {sent : TenantDb → TenantCommand → Prop} {db : TenantDb}
  {state : Committed TenantDb (TenantContext × TenantCommand) TenantReply}
  {orgId userId : String} {required : List String}

/-- The organization is there and not archived. -/
def Live (db : TenantDb) (orgId : String) : Prop :=
  ∃ org, db.organizations.get? orgId = some org ∧ org.deletedAt = none

/-- The organization is there and archived. -/
def Archived (db : TenantDb) (orgId : String) : Prop :=
  ∃ org, db.organizations.get? orgId = some org ∧ org.deletedAt ≠ none

/-- The user has a membership whose role is the owner's, or has a row for every permission. -/
def MemberWith (db : TenantDb) (orgId userId : String) (required : List String) : Prop :=
  ∃ membership, db.memberships.get? (orgId, userId) = some membership ∧
    (membership.role = .owner ∨
      ∀ permission ∈ required, ⟨orgId, membership.role, permission⟩ ∈ db.permissions)

/-- The user may do what is required: as a member of a live organization whose role has the
permissions. -/
structure Authorized (db : TenantDb) (orgId userId : String) (required : List String) : Prop where
  live : Live db orgId
  member : MemberWith db orgId userId required

theorem mem_findByOrgAndRole {role : OrgRole} {permission : String} :
    permission ∈ PrismaOrgRolePermissionReaderRepository.findByOrgAndRole db orgId role ↔
      ⟨orgId, role, permission⟩ ∈ db.permissions := by
  simp only [PrismaOrgRolePermissionReaderRepository.findByOrgAndRole,
    PrismaOrgRolePermissionRepository.ofRole, TenantDb.permissions, List.mem_map, List.mem_filter,
    decide_eq_true_eq]
  constructor
  · rintro ⟨⟨row, rowId⟩, ⟨stored, rfl, rfl⟩, rfl⟩
    exact ⟨_, stored, rfl⟩
  · rintro ⟨row, stored, same⟩
    exact ⟨row, ⟨stored, by simp [same]⟩, by simp [same]⟩

/-- What the entry points look for, by the tables. -/
theorem holds_iff_memberWith (listed : ∀ permission ∈ required,
    permission ∈ catalog.allOrgPermissions) :
    Holds catalog db orgId userId required ↔ MemberWith db orgId userId required := by
  refine exists_congr fun membership => and_congr_right fun _ => ?_
  by_cases owner : membership.role = .owner
  · simpa [OrgPermissionResolver.resolve, owner] using listed
  · simp [OrgPermissionResolver.resolve, owner, mem_findByOrgAndRole]

/-- A member's organization is there, archived or not. -/
theorem Keyed.live_or_archived (keyed : Keyed db) (member : MemberWith db orgId userId required) :
    Live db orgId ∨ Archived db orgId := by
  rcases member with ⟨membership, stored, -⟩
  rcases keyed.membership _ _ stored with ⟨key, organization⟩
  rcases Option.isSome_iff_exists.mp organization with ⟨org, found⟩
  rw [(Prod.mk.inj key).1] at found
  by_cases live : org.deletedAt = none
  · exact .inl ⟨org, found, live⟩
  · exact .inr ⟨org, found, live⟩

theorem memberWith_iff_authorized (keyed : Keyed db) :
    (MemberWith db orgId userId required ↔ Authorized db orgId userId required) ↔
      ¬ (Archived db orgId ∧ MemberWith db orgId userId required) := by
  constructor
  · rintro same ⟨⟨org, found, archived⟩, member⟩
    rcases (same.mp member).live with ⟨org', found', live⟩
    cases found.symm.trans found'
    exact archived live
  · intro apart
    refine ⟨fun member => ⟨?_, member⟩, Authorized.member⟩
    rcases keyed.live_or_archived member with live | archived
    · exact live
    · exact absurd ⟨archived, member⟩ apart

/-- In every reachable state both entry points decide as the tables say, unless the organization is
archived and the user is a member of it with these permissions. -/
theorem authorization_iff (reached : (tenantCommands catalog sent).Reachable state)
    (org : orgId ≠ "") (user : userId ≠ "")
    (listed : ∀ permission ∈ required, permission ∈ catalog.allOrgPermissions) :
    (((∃ context, OrgGuard.canActivate catalog state.db
          ⟨some userId, some orgId, some required⟩ = .ok context) ↔
        Authorized state.db orgId userId required) ∧
      (((CheckMembershipHandler.execute catalog state.db ⟨orgId, userId⟩).isMember ∧
          ∀ permission ∈ required,
            permission ∈ (CheckMembershipHandler.execute catalog state.db
              ⟨orgId, userId⟩).permissions) ↔
        Authorized state.db orgId userId required)) ↔
    ¬ (Archived state.db orgId ∧ MemberWith state.db orgId userId required) := by
  rw [canActivate_iff user org, checkMembership_iff, holds_iff_memberWith listed, and_self]
  exact memberWith_iff_authorized (Consistent.of_reachable reached).keyed

theorem authorization_iff_acme :
    (∃ context, OrgGuard.canActivate namedCatalog acmeDb
      ⟨some "alice", some "org-1", some ["KNOWLEDGE_READ"]⟩ = .ok context) ↔
      Authorized acmeDb "org-1" "alice" ["KNOWLEDGE_READ"] := by
  refine ((authorization_iff (@reachable_acme (fun _ _ => True) trivial) (by decide) (by decide)
    (by decide)).mpr ?_).1
  rintro ⟨⟨org, found, archived⟩, -⟩
  cases found
  exact archived rfl

/-- The organization is archived. -/
def acmeArchived : TenantContext × TenantCommand := (⟨"", "", 5⟩, .archiveOrg ⟨"org-1"⟩)

/-- The row of the archived organization. -/
def archivedAcme : Organization :=
  (Organization.create "org-1" 0 "Acme" "acme").softDelete 5

/-- The database with the archived organization. -/
def archivedDb : TenantDb := tenantEngine.view acmeDb [.putOrganization archivedAcme]

/-- The founder of an archived organization passes the guard and is reported as a member. -/
theorem archived_org_admits : ∃ state,
    (tenantCommands namedCatalog fun _ _ => True).Reachable state ∧
    (∃ context, OrgGuard.canActivate namedCatalog state.db
      ⟨some "alice", some "org-1", some ["KNOWLEDGE_WRITE"]⟩ = .ok context) ∧
    (CheckMembershipHandler.execute namedCatalog state.db ⟨"org-1", "alice"⟩).isMember ∧
    ¬ Authorized state.db "org-1" "alice" ["KNOWLEDGE_WRITE"] := by
  have archived : (tenantCommands namedCatalog fun _ _ => True).Step
      ⟨acmeDb, [(acmeCreated, .id "org-1")]⟩ acmeArchived
      ⟨archivedDb, [(acmeCreated, .id "org-1"), (acmeArchived, .done)]⟩ :=
    Committed.step_of_ok ⟨⟨rfl, rfl, rfl⟩, trivial⟩
      (show _ = Except.ok (TenantReply.done, [TenantWrite.putOrganization archivedAcme]) by
        decide +kernel)
  refine ⟨_, (reachable_acme trivial).step archived, ?_, by decide +kernel, ?_⟩
  · refine (canActivate_iff (by decide) (by decide)).mpr ⟨_, rfl, ?_⟩
    decide +kernel
  · rintro ⟨⟨org, found, live⟩, -⟩
    cases found
    cases live

end CoreApi.Tenant
