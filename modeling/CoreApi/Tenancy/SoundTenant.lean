import CoreApi.Tenancy.Ownership

/-!
# Spaces stay with their organization

Of the commands of the tenant module only the one that saves a space writes a
row that others refer to.
-/

namespace CoreApi.Tenant

open Registry

variable {drawn : String → String → Prop} {Value Other : Type}

/-- A body of the tenant module that writes soundly. -/
abbrev WritesSoundly (drawn : String → String → Prop) (body : TenantTx Value) : Prop :=
  (rowRegistry drawn).Triple (fun _ => True) (tenantComponent.lift CoreError.tenant body)
    fun _ _ => True

namespace WritesSoundly

theorem bind {body : TenantTx Other} {next : Other → TenantTx Value}
    (first : WritesSoundly drawn body) (rest : ∀ value, WritesSoundly drawn (next value)) :
    WritesSoundly drawn (body >>= next) :=
  Triple.lift_bind _ first rest

theorem pure (value : Value) : WritesSoundly drawn (Pure.pure value : TenantTx Value) :=
  Triple.pure fun _ => id

theorem read (query : TenantDb → Value) : WritesSoundly drawn (.read query : TenantTx Value) :=
  Triple.lift_read Stable.true fun _ _ _ => trivial

/-- A statement that saves no space. -/
theorem execute {run : TenantDb → Except TenantError (List TenantWrite × Value)}
    (other : ∀ db writes value, run db = .ok (writes, value) →
      ∀ write ∈ writes, (CoreWrite.tenant write).claim = none) :
    WritesSoundly drawn (.execute run) := by
  refine Triple.lift_execute Stable.true ?_
  intro db _ _ writes value ran
  refine ⟨SoundAll.of_unclaimed ?_ ?_, trivial⟩
  · intro write member
    rcases List.mem_map.mp member with ⟨produced, among, rfl⟩
    exact other _ writes value ran produced among
  · intro write member
    rcases List.mem_map.mp member with ⟨produced, -, rfl⟩
    trivial

end WritesSoundly

theorem throwIf_sound (condition : Bool) (error : Knowledge.ApplicationError) :
    WritesSoundly drawn (throwIf condition error) := by
  cases condition with
  | true => exact Triple.fail _
  | false => exact .pure ()

theorem orThrow_sound (error : Knowledge.ApplicationError) (found : Option Value) :
    WritesSoundly drawn (orThrow error found) := by
  cases found with
  | none => exact Triple.fail _
  | some entity => exact .pure entity

theorem saveOrganization_sound (org : Organization) :
    WritesSoundly drawn (PrismaOrganizationRepository.save org) := by
  refine .execute fun db writes value ran => ?_
  dsimp only at ran
  split at ran
  · cases ran
  · cases ran
    simp [CoreWrite.claim]

theorem saveMembership_sound (membership : Membership) :
    WritesSoundly drawn (PrismaMembershipRepository.save membership) := by
  refine .execute fun db writes value ran => ?_
  split at ran
  · cases ran
    simp [CoreWrite.claim]
  · split at ran <;> cases ran
    simp [CoreWrite.claim]

theorem saveInvite_sound (invite : OrgInvite) :
    WritesSoundly drawn (PrismaOrgInviteRepository.save invite) := by
  refine .execute fun db writes value ran => ?_
  split at ran
  · cases ran
    simp [CoreWrite.claim]
  · split at ran
    · cases ran
    · split at ran <;> cases ran
      simp [CoreWrite.claim]

theorem createMany_sound (rows : List OrgRolePermission) :
    WritesSoundly drawn (PrismaOrgRolePermissionRepository.createMany rows) := by
  refine .execute fun db writes value ran => ?_
  split at ran
  · cases ran
  · split at ran <;> cases ran
    simp [CoreWrite.claim]

theorem replaceForRole_sound (orgId : String) (role : OrgRole) (permissions : List String) :
    WritesSoundly drawn
      (PrismaOrgRolePermissionRepository.replaceForRole orgId role permissions) := by
  refine .bind (.bind (.read _) fun found => .execute fun db writes value ran => ?_) fun _ => ?_
  · cases ran
    intro write member
    rcases List.mem_map.mp member with ⟨row, -, rfl⟩
    rfl
  · split
    · exact createMany_sound _
    · exact .pure ()

/-- A space is saved over its row, or where there is none. -/
theorem saveSpace_sound (space : Space) :
    WritesSoundly drawn (PrismaSpaceRepository.save space) := by
  refine Triple.lift_execute Stable.true ?_
  intro db owned _ writes value ran
  split at ran
  · next row stored =>
      cases ran
      refine ⟨⟨⟨?_, trivial⟩, trivial⟩, trivial⟩
      rintro _ _ ⟨⟩ other owner
      have keyed : row.id = space.id := owned.spaces _ row stored
      have owner' : ownerOf db (.space row.id) = some other := owner
      rw [keyed, ownerOf_space stored] at owner'
      exact (Option.some.inj owner').symm
  · next absent =>
      split at ran <;> cases ran
      refine ⟨⟨⟨?_, trivial⟩, trivial⟩, trivial⟩
      rintro _ _ ⟨⟩ other owner
      have absent' : db.tenant.spaces.get? space.id = none := absent
      have owner' : (db.tenant.spaces.get? space.id).map Space.orgId = some other := owner
      rw [absent'] at owner'
      cases owner'

/-- Every command of the tenant module writes soundly. -/
theorem execute_sound (catalog : PermissionCatalog) (context : TenantContext)
    (command : TenantCommand) : WritesSoundly drawn (command.execute catalog context) := by
  cases command with
  | createOrg command =>
      refine Triple.lift_map _ (WritesSoundly.bind (.read _) fun existing => ?_)
      refine .bind (throwIf_sound _ _) fun _ => .bind (saveOrganization_sound _) fun _ => ?_
      exact .bind (saveMembership_sound _) fun _ => .bind (createMany_sound _) fun _ => .pure _
  | archiveOrg command =>
      refine Triple.lift_map _ (WritesSoundly.bind (.read _) fun found => ?_)
      exact .bind (orThrow_sound _ _) fun org => saveOrganization_sound _
  | createInvite command =>
      exact Triple.lift_map _ (WritesSoundly.bind (saveInvite_sound _) fun _ => .pure _)
  | acceptInvite command =>
      refine Triple.lift_map _ (WritesSoundly.bind (.read _) fun found => ?_)
      refine .bind (orThrow_sound _ _) fun invite => .bind (throwIf_sound _ _) fun _ => ?_
      refine .bind (throwIf_sound _ _) fun _ => .bind (.read _) fun existing => ?_
      refine .bind (throwIf_sound _ _) fun _ => .bind (saveMembership_sound _) fun _ => ?_
      exact .bind (saveInvite_sound _) fun _ => .pure _
  | updateMemberRole command =>
      refine Triple.lift_map _ (WritesSoundly.bind (.read _) fun found => ?_)
      exact .bind (orThrow_sound _ _) fun membership => saveMembership_sound _
  | updateRolePermissions command =>
      refine Triple.lift_map _ (WritesSoundly.bind (throwIf_sound _ _) fun _ => ?_)
      dsimp only
      split
      · exact Triple.fail _
      · exact replaceForRole_sound _ _ _
  | createSpace command =>
      exact Triple.lift_map _ (WritesSoundly.bind (saveSpace_sound _) fun _ => .pure _)

end CoreApi.Tenant
