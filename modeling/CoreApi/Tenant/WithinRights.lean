import CoreApi.Repos.Modules
import CoreApi.Tenant.Rights

/-!
# The commands stay within their rights

Statement by statement: what a command of the tenant module has read is enough
for what it writes, and the commands of the other modules write to no table of
this one.
-/

namespace CoreApi.Tenant

open Registry

variable {Client : Type} {catalog : PermissionCatalog} {commands : Client → Option CoreCommand}
  {client : Client} {known : CoreDb → Prop} {Value Other : Type}

/-- A body of the tenant module that stays within the rights of a client. -/
abbrev Keeps (catalog : PermissionCatalog) (commands : Client → Option CoreCommand)
    (client : Client) (known : CoreDb → Prop) (body : TenantTx Value)
    (learned : Value → CoreDb → Prop) : Prop :=
  ((tenantGrants catalog commands).of client).Triple known
    (tenantComponent.lift CoreError.tenant body) learned

theorem stable_stored (key : TenantKey) :
    ((tenantGrants catalog commands).of client).Stable fun db => (identityOf db key).isSome :=
  fun _ _ grows stored => isSome_mono grows stored

theorem stable_identity (key : TenantKey) (one : Identity) :
    ((tenantGrants catalog commands).of client).Stable fun db => identityOf db key = some one :=
  fun _ _ grows stored => grows key one stored

theorem stable_fact (fact : Prop) :
    ((tenantGrants catalog commands).of client).Stable fun _ => fact := fun _ _ _ => id

namespace Keeps

theorem bind {body : TenantTx Other} {next : Other → TenantTx Value}
    {learned : Value → CoreDb → Prop} (middle : Other → CoreDb → Prop)
    (first : Keeps catalog commands client known body middle)
    (rest : ∀ value, Keeps catalog commands client (middle value) (next value) learned) :
    Keeps catalog commands client known (body >>= next) learned :=
  Triple.lift_bind middle first rest

theorem pure (value : Value) :
    Keeps catalog commands client known (Pure.pure value) fun _ _ => True :=
  Triple.pure fun _ _ => trivial

theorem throwIf {condition : Bool} {error : Knowledge.ApplicationError} :
    Keeps catalog commands client known (throwIf condition error) fun _ => known := by
  cases condition with
  | true => exact Triple.fail _
  | false => exact Triple.pure fun _ => id

theorem orThrow {error : Knowledge.ApplicationError} {found : Option Value}
    {learned : Value → CoreDb → Prop} :
    Keeps catalog commands client (fun db => ∀ value, found = some value → learned value db)
      (orThrow error found) learned := by
  cases found with
  | none => exact Triple.fail _
  | some value => exact Triple.pure fun db knows => knows value rfl

theorem read {query : TenantDb → Value} {learned : Value → CoreDb → Prop}
    (learns : ∀ db, RowsKept catalog commands db → learned (query db.tenant) db) :
    Keeps catalog commands client (fun _ => True) (.read query) learned :=
  Triple.lift_read (stable_fact True) fun db kept _ => learns db kept

end Keeps

section Repositories

/-- A row that is written over the one with the same identity, or where there is none. -/
theorem sound_write {db : CoreDb} {write : TenantWrite} {key : TenantKey} {one : Identity}
    (may : May catalog commands client (identityOf db) (.tenant write))
    (stores : (CoreWrite.tenant write).stores = some (key, one))
    (same : ∀ stored, identityOf db key = some stored → stored = one) :
    ((tenantGrants catalog commands).of client).SoundAll db
      ([write].map tenantComponent.wrap) := by
  refine ⟨⟨fun key' one' claims stored owned => ?_, may⟩, trivial⟩
  cases stores.symm.trans claims
  exact same stored owned

variable (once : CreatedOnce commands)

/-- The row under an id that is drawn has the identity it was drawn with. -/
theorem drawn_unique (once : CreatedOnce commands) {key : TenantKey} {first second : Identity}
    (drawn : Drawn commands key first) (drawn' : Drawn commands key second) : first = second := by
  have creates : ∀ {command : CoreCommand} {identity : Identity},
      command.draws = some (key, identity) → key ∈ command.creates := by
    intro command identity draws
    cases command with
    | tenant context command =>
        cases command <;> cases draws <;> exact List.mem_cons_self
    | _ => cases draws
  rcases drawn with ⟨one, command, found, draws⟩
  rcases drawn' with ⟨other, command', found', draws'⟩
  obtain rfl : one = other :=
    once one other key ⟨command, found, creates draws⟩ ⟨command', found', creates draws'⟩
  obtain rfl : command = command' := Option.some.inj (found.symm.trans found')
  cases draws.symm.trans draws'
  rfl

include once

theorem saveOrganization_keeps {org : Organization}
    (drawn : Drawn commands (.organization org.id) org.identity) :
    Keeps catalog commands client
      (fun db => (identityOf db (.organization org.id)).isSome ∧ org.deletedAt.isSome ∧
          Archives commands client org.id ∨
        Creates commands client (.organization org.id))
      (PrismaOrganizationRepository.save org) fun _ _ => True := by
  refine Triple.lift_execute ?_ ?_
  · rintro db now grows (⟨stored, archived⟩ | creates)
    · exact .inl ⟨stable_stored _ db now grows stored, archived⟩
    · exact .inr creates
  · intro db kept may writes value ran
    dsimp only at ran
    split at ran
    · cases ran
    · cases ran
      refine ⟨?_, trivial⟩
      cases found : db.tenant.organizations.get? org.id with
      | none =>
          have fresh : tenantComponent.view db = db.tenant := rfl
          rw [fresh, found]
          refine sound_write ⟨drawn, may⟩ rfl fun stored owned => ?_
          simp [identityOf, PrismaOrganizationRepository.upsert, found] at owned
      | some row =>
          have view : tenantComponent.view db = db.tenant := rfl
          have own := kept.organizations _ _ found
          have same : row.identity = org.identity := drawn_unique once own.2 drawn
          obtain ⟨name, slug, seats, created⟩ :
              row.name = org.name ∧ row.slug = org.slug ∧ row.seatLimit = org.seatLimit ∧
                row.createdAt = org.createdAt := by
            simpa [Organization.identity] using same
          have identity : (PrismaOrganizationRepository.upsert org (some row)).identity =
              org.identity := by
            simp [PrismaOrganizationRepository.upsert, Organization.identity, created]
          have id : (PrismaOrganizationRepository.upsert org (some row)).id = org.id := own.1
          rw [view, found]
          refine sound_write ⟨?_, ?_⟩ rfl fun stored owned => ?_
          · rw [id, identity]
            exact drawn
          · rw [id]
            exact may
          · rw [id] at owned
            simp only [identityOf, found, Option.map_some, Option.some.injEq] at owned
            rw [identity, ← owned, same]

omit once in
theorem saveMembership_keeps {membership : Membership}
    (stable : ((tenantGrants catalog commands).of client).Stable known)
    (may : ∀ db, known db → membership.role ≠ .owner ∧
          (Assigns commands client membership.orgId membership.userId membership.role ∨
            Joins commands client (identityOf db) membership) ∨
        Creates commands client (.membership membership.orgId membership.userId) ∧
          membership.role = .owner) :
    Keeps catalog commands client known (PrismaMembershipRepository.save membership)
      fun _ => known := by
  refine Triple.lift_execute stable ?_
  intro db kept knows writes value ran
  have may := may db knows
  have sound : ((tenantGrants catalog commands).of client).SoundAll db
      (writes.map tenantComponent.wrap) := by
    split at ran
    · next row found =>
        cases ran
        have own := kept.memberships _ _ found
        rcases Prod.mk.inj own.1 with ⟨org, user⟩
        refine sound_write ⟨own.2.1, ?_⟩ rfl fun stored owned => ?_
        · simpa [Joins, org, user] using may
        · have stored' : db.tenant.memberships.get? (row.orgId, row.userId) = some row := by
            rw [own.1]
            exact found
          simp only [identityOf, stored', Option.map_some, Option.some.injEq] at owned
          rw [← owned]
          rfl
    · next absent =>
        split at ran
        · next organization =>
            cases ran
            refine sound_write ⟨?_, may⟩ rfl fun stored owned => ?_
            · have organization' : hasOrganization db.tenant membership.orgId := organization
              simpa [identityOf, hasOrganization] using organization'
            · have absent' : db.tenant.memberships.get? (membership.orgId, membership.userId) =
                  none := absent
              simp [identityOf, absent'] at owned
        · cases ran
  exact ⟨sound, stable.view sound knows⟩

theorem saveInvite_keeps {invite : OrgInvite}
    (drawn : Drawn commands (.invite invite.id) invite.identity) :
    Keeps catalog commands client
      (fun db => (identityOf db (.invite invite.id)).isSome ∧ invite.usedAt.isSome ∧
          (∃ userId, Accepts commands client invite.token userId ∧ invite.usedBy = some userId) ∨
        Creates commands client (.invite invite.id))
      (PrismaOrgInviteRepository.save invite) fun _ _ => True := by
  refine Triple.lift_execute ?_ ?_
  · rintro db now grows (⟨stored, used⟩ | creates)
    · exact .inl ⟨stable_stored _ db now grows stored, used⟩
    · exact .inr creates
  · intro db kept may writes value ran
    split at ran
    · next row found =>
        cases ran
        have own := kept.invites _ _ found
        have same : row.identity = invite.identity := drawn_unique once own.2 drawn
        have id : row.id = invite.id := own.1
        have token : row.token = invite.token := by
          simp only [OrgInvite.identity, Identity.invite.injEq] at same
          exact same.1
        refine ⟨sound_write ⟨?_, ?_⟩ rfl fun stored owned => ?_, trivial⟩
        · simpa [id, OrgInvite.identity] using own.2
        · simpa [id, token] using may
        · have found' : db.tenant.invites.get? row.id = some row := by
            rw [id]
            exact found
          simp only [identityOf, found', Option.map_some, Option.some.injEq] at owned
          rw [← owned]
          rfl
    · next absent =>
        split at ran
        · cases ran
        · split at ran
          · cases ran
            refine ⟨sound_write ⟨drawn, may⟩ rfl fun stored owned => ?_, trivial⟩
            have absent' : db.tenant.invites.get? invite.id = none := absent
            simp [identityOf, absent'] at owned
          · cases ran

theorem saveSpace_keeps {space : Space} (drawn : Drawn commands (.space space.id) (.space space))
    (creates : Creates commands client (.space space.id)) :
    Keeps catalog commands client (fun _ => True) (PrismaSpaceRepository.save space)
      fun _ _ => True := by
  refine Triple.lift_execute (stable_fact True) ?_
  intro db kept _ writes value ran
  split at ran
  · next row found =>
      cases ran
      have own := kept.spaces _ _ found
      have same : row = space := by simpa using drawn_unique once own.2 drawn
      subst same
      refine ⟨sound_write ⟨drawn, creates⟩ rfl fun stored owned => ?_, trivial⟩
      have found' : db.tenant.spaces.get? row.id = some row := found
      simp only [identityOf, found', Option.map_some, Option.some.injEq] at owned
      exact owned.symm
  · next absent =>
      split at ran
      · cases ran
        refine ⟨sound_write ⟨drawn, creates⟩ rfl fun stored owned => ?_, trivial⟩
        have absent' : db.tenant.spaces.get? space.id = none := absent
        simp [identityOf, absent'] at owned
      · cases ran

omit once

theorem createMany_keeps {rows : List OrgRolePermission}
    (grantable : ∀ row ∈ rows, Grantable catalog row ∧
      (Lists commands client row ∨
        IsDefault catalog row ∧ Creates commands client (.organization row.orgId))) :
    Keeps catalog commands client (fun _ => True)
      (PrismaOrgRolePermissionRepository.createMany rows) fun _ _ => True := by
  refine Triple.lift_execute (stable_fact True) ?_
  intro db _ _ writes value ran
  split at ran
  · cases ran
  · split at ran
    · cases ran
      refine ⟨SoundAll.of_unclaimed ?_ ?_, trivial⟩
      · simp only [List.map_map, List.mem_map]
        rintro _ ⟨row, -, rfl⟩
        rfl
      · simp only [List.map_map, List.mem_map]
        rintro _ ⟨row, member, rfl⟩
        exact grantable row member
    · cases ran

theorem deleteMany_keeps (orgId : String) (role : OrgRole) :
    Keeps catalog commands client (fun _ => True)
      (PrismaOrgRolePermissionRepository.deleteMany orgId role) fun _ _ => True := by
  refine Keeps.bind (fun _ _ => True) (Keeps.read fun _ _ => trivial) fun found => ?_
  refine Triple.lift_execute (stable_fact True) ?_
  intro db _ _ writes value ran
  cases ran
  refine ⟨SoundAll.of_unclaimed ?_ ?_, trivial⟩
  · simp only [List.map_map, List.mem_map]
    rintro _ ⟨row, -, rfl⟩
    rfl
  · simp only [List.map_map, List.mem_map]
    rintro _ ⟨row, -, rfl⟩
    trivial

end Repositories

section Commands

variable {context : TenantContext}

theorem isDefault_seeds (orgId : String) :
    ∀ row ∈ seeds catalog orgId, row.orgId = orgId ∧ IsDefault catalog row := by
  intro row member
  rcases List.mem_flatMap.mp member with ⟨⟨role, permissions⟩, default, member⟩
  rcases List.mem_map.mp member with ⟨permission, listed, rfl⟩
  exact ⟨rfl, permissions, default, List.mem_map_of_mem listed⟩

theorem grantable_of_isDefault {row : OrgRolePermission} (default : IsDefault catalog row) :
    Grantable catalog row := by
  refine ⟨fun owner => ?_, .inr default⟩
  rcases default with ⟨permissions, default, -⟩
  simp [owner, defaultRolePermissions] at default

theorem createOrg_keeps (once : CreatedOnce commands) {command : CreateOrgCommand}
    (mine : commands client = some (.tenant context (.createOrg command))) :
    Keeps catalog commands client (fun _ => True)
      (CreateOrgHandler.execute catalog context command) fun _ _ => True := by
  have creates : Creates commands client (.organization context.id) :=
    ⟨_, mine, List.mem_cons_self⟩
  refine Keeps.bind (fun _ _ => True) (Keeps.read fun _ _ => trivial) fun existing => ?_
  refine Keeps.bind _ Keeps.throwIf fun _ => ?_
  refine Keeps.bind (fun _ _ => True) ?_ fun _ => ?_
  · exact (saveOrganization_keeps once ⟨client, _, mine, rfl⟩).mono (fun _ _ => .inr creates)
      fun _ _ => id
  · have founder : Creates commands client (.membership context.id command.ownerUserId) :=
      ⟨_, mine, List.mem_cons_of_mem _ List.mem_cons_self⟩
    refine Keeps.bind _ (saveMembership_keeps (stable_fact True)
      fun _ _ => .inr ⟨founder, rfl⟩) fun _ => ?_
    refine Keeps.bind _ (createMany_keeps fun row member => ?_) fun _ => Keeps.pure _
    rcases isDefault_seeds _ row member with ⟨same, default⟩
    exact ⟨grantable_of_isDefault default, .inr ⟨default, same ▸ creates⟩⟩

theorem archiveOrg_keeps (once : CreatedOnce commands) {command : ArchiveOrgCommand}
    (mine : commands client = some (.tenant context (.archiveOrg command))) :
    Keeps catalog commands client (fun _ => True) (ArchiveOrgHandler.execute context command)
      fun _ _ => True := by
  refine Keeps.bind (fun found db => ∀ org, found = some org →
    (Drawn commands (.organization org.id) org.identity ∧ org.id = command.orgId) ∧
      (identityOf db (.organization org.id)).isSome) (Keeps.read ?_) fun found => ?_
  · intro db kept org found
    rcases Option.filter_eq_some_iff.mp found with ⟨stored, -⟩
    rcases kept.organizations _ _ stored with ⟨id, drawn⟩
    rw [id]
    exact ⟨⟨drawn, rfl⟩, by simp [identityOf, stored]⟩
  · refine Keeps.bind _ Keeps.orThrow fun org => ?_
    refine Triple.of_fact fun fact => ?_
    rcases fact with ⟨drawn, asked⟩
    have drawn' : Drawn commands (.organization (org.softDelete context.now).id)
        (org.softDelete context.now).identity := drawn
    have archives : Archives commands client (org.softDelete context.now).id := by
      refine ⟨context, mine.trans ?_⟩
      rw [show (org.softDelete context.now).id = command.orgId from asked]
    exact (saveOrganization_keeps once drawn').mono
      (fun _ stored => .inl ⟨stored, rfl, archives⟩) fun _ _ => id

theorem createInvite_keeps (once : CreatedOnce commands) {command : CreateInviteCommand}
    (mine : commands client = some (.tenant context (.createInvite command))) :
    Keeps catalog commands client (fun _ => True) (CreateInviteHandler.execute context command)
      fun _ _ => True := by
  refine Keeps.bind (fun _ _ => True) ?_ fun _ => Keeps.pure _
  refine (saveInvite_keeps once ⟨client, _, mine, rfl⟩).mono (fun _ _ => ?_) fun _ _ => id
  exact .inr ⟨_, mine, List.mem_cons_self⟩

theorem acceptInvite_keeps (once : CreatedOnce commands) {command : AcceptInviteCommand}
    (mine : commands client = some (.tenant context (.acceptInvite command))) :
    Keeps catalog commands client (fun _ => True) (AcceptInviteHandler.execute context command)
      fun _ _ => True := by
  have accepts : Accepts commands client command.token command.userId := ⟨context, mine⟩
  refine Keeps.bind (fun found db => ∀ invite, found = some invite →
    (Drawn commands (.invite invite.id) invite.identity ∧ invite.token = command.token) ∧
      identityOf db (.invite invite.id) = some invite.identity) (Keeps.read ?_) fun found => ?_
  · intro db kept invite found
    rcases OrderedMap.mem_values.mp (List.mem_of_find?_eq_some found) with ⟨id, stored⟩
    rcases kept.invites _ _ stored with ⟨rfl, drawn⟩
    have token : invite.token = command.token := by simpa using List.find?_some found
    exact ⟨⟨drawn, token⟩, by simp [identityOf, stored]⟩
  · refine Keeps.bind _ Keeps.orThrow fun invite => ?_
    refine Triple.of_fact fun fact => ?_
    rcases fact with ⟨drawn, token⟩
    refine Keeps.bind _ Keeps.throwIf fun _ => Keeps.bind _ Keeps.throwIf fun _ => ?_
    refine Keeps.bind (fun _ db => identityOf db (.invite invite.id) = some invite.identity)
      (Triple.lift_read (stable_identity _ _) fun _ _ => id) fun existing => ?_
    refine Keeps.bind _ Keeps.throwIf fun _ => ?_
    refine Keeps.bind _ (saveMembership_keeps (stable_identity _ _) fun db stored => .inl
      ⟨invite.role.property, .inr ⟨_, _, _, _, _, token ▸ accepts, stored, rfl⟩⟩) fun _ => ?_
    · refine Keeps.bind (fun _ _ => True) ?_ fun _ => Keeps.pure _
      have drawn' : Drawn commands (.invite (invite.accept context.now command.userId).id)
          (invite.accept context.now command.userId).identity := drawn
      have accepts' : Accepts commands client (invite.accept context.now command.userId).token
          command.userId := by
        rw [show (invite.accept context.now command.userId).token = command.token from token]
        exact accepts
      exact (saveInvite_keeps once drawn').mono
        (fun _ stored => .inl ⟨congrArg Option.isSome stored, rfl, _, accepts', rfl⟩) fun _ _ => id

theorem updateMemberRole_keeps {command : UpdateMemberRoleCommand}
    (mine : commands client = some (.tenant context (.updateMemberRole command))) :
    Keeps catalog commands client (fun _ => True) (UpdateMemberRoleHandler.execute command)
      fun _ _ => True := by
  refine Keeps.bind (fun found _ => ∀ membership, found = some membership →
    (membership.orgId = command.orgId ∧ membership.userId = command.targetUserId) ∧ True)
    (Keeps.read ?_) fun found => ?_
  · intro db kept membership found
    exact ⟨Prod.mk.inj (kept.memberships _ _ found).1, trivial⟩
  · refine Keeps.bind _ Keeps.orThrow fun membership => ?_
    refine Triple.of_fact fun fact => ?_
    rcases fact with ⟨org, user⟩
    exact saveMembership_keeps (stable_fact True) fun _ _ => .inl ⟨command.newRole.property, .inl
      ⟨context, command, mine, org.symm, user.symm, rfl⟩⟩

theorem mem_newSet {permissions : List String} {permission : String}
    (member : permission ∈ newSet permissions) : permission ∈ permissions := by
  refine List.foldlRecOn permissions _
    (motive := fun set => permission ∈ set → permission ∈ permissions) ?_ ?_ member
  · exact fun member => absurd member List.not_mem_nil
  · intro set ih asked among
    split
    · exact ih
    · intro member
      rcases List.mem_append.mp member with old | new
      · exact ih old
      · rwa [List.mem_singleton.mp new]

theorem updateRolePermissions_keeps {command : UpdateRolePermissionsCommand}
    (mine : commands client = some (.tenant context (.updateRolePermissions command))) :
    Keeps catalog commands client (fun _ => True)
      (UpdateRolePermissionsHandler.execute catalog command) fun _ _ => True := by
  refine Keeps.bind (fun _ _ => command.role ≠ .owner ∧ True) ?_ fun _ => ?_
  · cases manageable : decide (command.role = .owner) with
    | true => exact Triple.fail _
    | false => exact Triple.pure fun _ _ => ⟨of_decide_eq_false manageable, trivial⟩
  · refine Triple.of_fact fun manageable => ?_
    dsimp only
    split
    · exact Triple.fail _
    · next valid =>
        refine Keeps.bind _ (deleteMany_keeps _ _) fun _ => ?_
        split
        · refine createMany_keeps fun row member => ?_
          rcases List.mem_map.mp member with ⟨permission, asked, rfl⟩
          have known : catalog.isValidOrgPermission permission := by
            simpa using List.find?_eq_none.mp valid permission asked
          exact ⟨⟨manageable, .inl known⟩,
            .inl ⟨context, command, mine, rfl, rfl, mem_newSet asked⟩⟩
        · exact Keeps.pure _

theorem createSpace_keeps (once : CreatedOnce commands) {command : CreateSpaceCommand}
    (mine : commands client = some (.tenant context (.createSpace command))) :
    Keeps catalog commands client (fun _ => True) (CreateSpaceHandler.execute context command)
      fun _ _ => True := by
  refine Keeps.bind _ (saveSpace_keeps once ⟨client, _, mine, rfl⟩ ?_) fun _ => Keeps.pure _
  exact ⟨_, mine, List.mem_cons_self⟩

/-- Every command of the tenant module stays within the rights of its client. -/
theorem execute_keeps (once : CreatedOnce commands) {command : TenantCommand}
    (mine : commands client = some (.tenant context command)) :
    Keeps catalog commands client (fun _ => True) (command.execute catalog context)
      fun _ _ => True := by
  cases command with
  | createOrg command => exact Triple.lift_map _ (createOrg_keeps once mine)
  | archiveOrg command => exact Triple.lift_map _ (archiveOrg_keeps once mine)
  | createInvite command => exact Triple.lift_map _ (createInvite_keeps once mine)
  | acceptInvite command => exact Triple.lift_map _ (acceptInvite_keeps once mine)
  | updateMemberRole command => exact Triple.lift_map _ (updateMemberRole_keeps mine)
  | updateRolePermissions command => exact Triple.lift_map _ (updateRolePermissions_keeps mine)
  | createSpace command => exact Triple.lift_map _ (createSpace_keeps once mine)

end Commands

end CoreApi.Tenant

namespace CoreApi

open Tenant WriteSet

/-- The writes of the other modules, whatever the tables hold. -/
def otherWrites : WriteSet coreEngine where
  Inv _ := True
  Rely _ _ _ := True
  refl _ _ := trivial
  trans _ _ := trivial
  Allowed write := ∀ own, write ≠ .tenant own
  inv_apply _ _ _ _ := trivial
  rely_apply _ _ _ _ _ := trivial

section Clients

variable {Client : Type} {catalog : PermissionCatalog} {commands : Client → Option CoreCommand}

/-- A body that writes nothing to the tables of this module uses no right. -/
theorem obeyed_of_other {client : Client} {Value : Type} {body : CoreTx Value}
    (issues : body.Issues fun write => write.module ≠ .tenant) :
    ((tenantGrants catalog commands).of client).Obeyed body := by
  have adds : otherWrites.Adds body fun _ => True :=
    adds_of_issues issues fun write other own same => other (by rw [same]; rfl)
  refine Registry.obeyed_of_adds (fun _ _ => trivial) (fun _ _ _ _ => trivial) ?_ ?_ adds
  · intro write other
    cases write with
    | tenant own => exact absurd rfl (other own)
    | _ => rfl
  · intro write owners other
    cases write with
    | tenant own => exact absurd rfl (other own)
    | _ => trivial

/-- Every client stays within its rights. -/
theorem clients_obey (once : CreatedOnce commands) (client : Client) :
    ((tenantGrants catalog commands).of client).Obeyed
      ((commands client).elim (pure .engagement) (CoreCommand.execute catalog)) := by
  cases mine : commands client with
  | none => exact obeyed_of_other (Tx.Issues.pure _)
  | some command =>
      have other : ∀ module, command.module = module → module ≠ .tenant →
          ((tenantGrants catalog commands).of client).Obeyed (command.execute catalog) := by
        rintro module rfl distinct
        exact obeyed_of_other
          ((command.execute_issues catalog).mono fun write own => own ▸ distinct)
      cases command with
      | tenant context command => exact (Registry.Triple.map _ (execute_keeps once mine)).obeyed
      | knowledge context command => exact other _ rfl nofun
      | credit stamp command => exact other _ rfl nofun
      | engagement context command => exact other _ rfl nofun

end Clients

end CoreApi
