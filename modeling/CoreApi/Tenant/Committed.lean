import CoreApi.Tenant.History

/-!
# What creating and archiving an organization leave behind

Whatever has run since: an organization that was created is there under its name,
with its founder among its members, and an organization that was archived by a
command is archived. What the founder loses again a command of others has taken.
-/

namespace CoreApi

open Tenant

/-- What a command has answered and written when it is about to commit. -/
def Tenant.TenantCommand.Leaves (context : TenantContext) :
    TenantCommand → TenantReply → List TenantWrite → Prop
  | .createOrg create, reply, writes =>
      reply = .id context.id ∧ ∃ org membership, ∃ rows : List OrgRolePermission,
        writes = .putOrganization org :: .putMembership membership ::
          rows.map .insertPermission ∧
        org.id = context.id ∧ org.deletedAt = none ∧
        (membership.orgId, membership.userId) = (context.id, create.ownerUserId) ∧
        membership.role = .owner
  | .archiveOrg archive, _, writes =>
      ∃ org, writes = [.putOrganization org] ∧ org.id = archive.orgId ∧ org.deletedAt.isSome
  | _, _, _ => True

section Bodies

/-- Organizations and memberships stand under their keys. -/
structure OrgsKeyed (db : TenantDb) : Prop where
  organizations : db.organizations.All fun id org => org.id = id
  memberships : db.memberships.All fun key membership =>
    (membership.orgId, membership.userId) = key

theorem OrgsKeyed.apply {db : TenantDb} (keyed : OrgsKeyed db) (write : TenantWrite) :
    OrgsKeyed (tenantEngine.apply db write) := by
  cases write with
  | putOrganization org => exact ⟨keyed.organizations.set rfl, keyed.memberships⟩
  | putMembership membership => exact ⟨keyed.organizations, keyed.memberships.set rfl⟩
  | _ => exact ⟨keyed.organizations, keyed.memberships⟩

theorem OrgsKeyed.view {db : TenantDb} (keyed : OrgsKeyed db) (writes : List TenantWrite) :
    OrgsKeyed (tenantEngine.view db writes) :=
  Engine.view_keeps OrgsKeyed keyed fun write _ _ keyed => keyed.apply write

/-- Organizations stand under their ids, whatever other transactions do. -/
def orgAssumptions : Assumptions TenantDb TenantWrite where
  Inv := OrgsKeyed
  Rely _ _ _ := True
  refl _ _ := trivial
  trans _ _ := trivial

variable {permits : List TenantDb → TenantDb → Prop} {seen : List TenantDb}
  {pending : List TenantWrite} {db : TenantDb} {catalog : PermissionCatalog}
  {context : TenantContext}

theorem upsert_id {db : TenantDb} (keyed : OrgsKeyed db) (org : Organization) :
    (PrismaOrganizationRepository.upsert org (db.organizations.get? org.id)).id = org.id ∧
      (PrismaOrganizationRepository.upsert org (db.organizations.get? org.id)).deletedAt =
        org.deletedAt := by
  cases found : db.organizations.get? org.id with
  | none => exact ⟨rfl, rfl⟩
  | some row =>
      have id : row.id = org.id := keyed.organizations _ _ found
      exact ⟨id, rfl⟩

theorem saveOrganization_ends {post : Unit → List TenantDb → List TenantWrite → TenantDb → Prop}
    {org : Organization}
    (ends : ∀ stored seen now, stored.id = org.id → stored.deletedAt = org.deletedAt →
      post () seen (pending ++ [.putOrganization stored]) now) :
    orgAssumptions.Ends tenantEngine permits post (PrismaOrganizationRepository.save org) seen
      pending db := by
  refine Assumptions.Ends.execute ?_
  intro now _ keyed _ writes value ran
  dsimp only at ran
  split at ran
  · cases ran
  · cases ran
    have own := upsert_id (keyed.view pending) org
    exact ends _ _ _ own.1 own.2

theorem saveMembership_ends {post : Unit → List TenantDb → List TenantWrite → TenantDb → Prop}
    {membership : Membership}
    (ends : ∀ stored seen now, (stored.orgId, stored.userId) =
        (membership.orgId, membership.userId) → stored.role = membership.role →
      post () seen (pending ++ [.putMembership stored]) now) :
    orgAssumptions.Ends tenantEngine permits post (PrismaMembershipRepository.save membership)
      seen pending db := by
  refine Assumptions.Ends.execute ?_
  intro now _ keyed _ writes value ran
  split at ran
  · next row found =>
      cases ran
      have key : (row.orgId, row.userId) = (membership.orgId, membership.userId) :=
        (keyed.view pending).memberships _ _ found
      exact ends _ _ _ key rfl
  · split at ran
    · cases ran
      exact ends _ _ _ rfl rfl
    · cases ran

theorem createOrg_leaves (create : CreateOrgCommand) :
    orgAssumptions.Ends tenantEngine permits (fun answer _ writes _ =>
        TenantCommand.Leaves context (.createOrg create) (.id answer) writes)
      (CreateOrgHandler.execute catalog context create) [] [] db := by
  refine Assumptions.Ends.bind (Assumptions.Ends.read fun now _ _ => ?_)
  refine Assumptions.Ends.bind (throwIf_ends fun _ => ?_)
  refine Assumptions.Ends.bind (saveOrganization_ends fun org seen now id live => ?_)
  refine Assumptions.Ends.bind (saveMembership_ends fun membership seen now key role => ?_)
  refine Assumptions.Ends.bind (Assumptions.Ends.execute ?_)
  intro now _ _ _ writes value ran
  split at ran
  · cases ran
  · split at ran
    · cases ran
      exact Assumptions.Ends.pure ⟨rfl, org, membership, _, rfl, id, live, key, role⟩
    · cases ran

theorem archiveOrg_leaves (archive : ArchiveOrgCommand) :
    orgAssumptions.Ends tenantEngine permits (fun _ _ writes _ =>
        TenantCommand.Leaves context (.archiveOrg archive) .done writes)
      (ArchiveOrgHandler.execute context archive) [] [] db := by
  refine Assumptions.Ends.bind (Assumptions.Ends.read fun now _ keyed => ?_)
  refine Assumptions.Ends.bind (orThrow_ends fun org found => ?_)
  rcases Option.filter_eq_some_iff.mp found with ⟨stored, -⟩
  have id : org.id = archive.orgId := keyed.organizations _ _ stored
  refine saveOrganization_ends fun stored' seen now id' archived => ⟨stored', rfl, ?_, ?_⟩
  · rw [id']
    exact id
  · rw [archived]
    rfl

/-- Every body ends somehow. -/
theorem ends_anyhow {Db Write Lock Error Value : Type} {engine : Engine Db Write Lock}
    {assumptions : Assumptions Db Write} {permits : List Db → Db → Prop}
    (body : Tx Db Write Error Value) (seen : List Db) (pending : List Write) (db : Db) :
    assumptions.Ends engine permits (fun _ _ _ _ => True) body seen pending db := by
  induction body generalizing seen pending db with
  | done result => cases result <;> trivial
  | statement writes next ih => exact fun now _ _ _ => ih _ _ _ _

theorem execute_leaves (catalog : PermissionCatalog) (context : TenantContext)
    (command : TenantCommand) :
    orgAssumptions.Ends tenantEngine permits (fun reply _ writes _ =>
      command.Leaves context reply writes) (command.execute catalog context) [] [] db := by
  cases command with
  | createOrg create => exact Assumptions.Ends.map _ (createOrg_leaves create)
  | archiveOrg archive => exact Assumptions.Ends.map _ (archiveOrg_leaves archive)
  | _ => exact ends_anyhow _ _ _ _

end Bodies

section Runs

variable {Client : Type} {catalog : PermissionCatalog} {commands : Client → Option CoreCommand}

theorem RowsKept.orgsKeyed {db : CoreDb} (kept : RowsKept catalog commands db) :
    OrgsKeyed db.tenant where
  organizations := OrderedMap.All.mono kept.organizations fun _ _ own => own.1
  memberships := OrderedMap.All.mono kept.memberships fun _ _ own => own.1

/-- What a client has written when it is about to commit, if it runs a command of this module. -/
def ClientLeaves (commands : Client → Option CoreCommand) (client : Client) (reply : CoreReply)
    (writes : List CoreWrite) : Prop :=
  ∀ context command, commands client = some (.tenant context command) →
    ∃ answer, ∃ more : List TenantWrite, reply = .tenant answer ∧ writes = more.map .tenant ∧
      command.Leaves context answer more

theorem client_leaves {permits : List CoreDb → CoreDb → Prop} (client : Client) (db : CoreDb) :
    (tenantRegistry catalog commands).assumptions.Ends coreEngine permits
      (fun reply _ writes _ => ClientLeaves commands client reply writes)
      ((coreClients catalog commands).program client) [] [] db := by
  show Assumptions.Ends _ _ _ _
    ((commands client).elim (pure .engagement) (CoreCommand.execute catalog)) _ _ _
  cases mine : commands client with
  | none =>
      refine Assumptions.Ends.pure ?_
      intro context command same
      cases mine.symm.trans same
  | some command =>
      cases command with
      | tenant context command =>
          have lifted := @Assumptions.Ends.lift _ _ _ _ _ _ CoreError _ _ _ _ tenantComponent
            (tenantRegistry catalog commands).assumptions orgAssumptions permits _
            CoreError.tenant (fun _ kept => RowsKept.orgsKeyed kept) (fun _ _ _ _ => trivial) _ db
            (execute_leaves catalog context command)
          refine Assumptions.Ends.map _ (Assumptions.Ends.mono ?_ lifted)
          rintro answer _ writes _ ⟨_, more, rfl, leaves⟩ context' command' same
          cases mine.symm.trans same
          exact ⟨answer, more, rfl, rfl, leaves⟩
      | _ =>
          refine Assumptions.Ends.mono ?_ (ends_anyhow _ _ _ _)
          intro reply _ writes _ _ context' command' same
          cases mine.symm.trans same

variable [DecidableEq Client]
  {state : Workload.State Client CoreDb CoreWrite CoreError CoreReply}

theorem leaves_of_finished (once : CreatedOnce commands)
    (reached : (coreClients catalog commands).system.Reachable state) {client : Client}
    {begun : CoreDb} {seen : List CoreDb} {pending : List CoreWrite} {reply : CoreReply}
    (finished : state.session client = .active begun seen pending (.done (.ok reply))) :
    ClientLeaves commands client reply pending :=
  @Outline.post_of_finished _ _ _ _ _ _ _ (tenantOutline catalog once) state _
    (fun client reply _ pending _ => ClientLeaves commands client reply pending) client
    (fun _ _ _ _ _ _ _ => id) (fun client begun _ => client_leaves client begun) reached
    begun seen pending reply finished

/-- A command that has created an organization has answered with its id. -/
theorem reply_of_createOrg (once : CreatedOnce commands)
    (reached : (coreClients catalog commands).system.Reachable state) :
    ∀ entry ∈ state.log, ∀ context create,
      commands entry.client = some (.tenant context (.createOrg create)) →
      entry.reply = .tenant (.id context.id) := by
  refine reached.invariant (fun state => ∀ entry ∈ state.log, ∀ context create,
    commands entry.client = some (.tenant context (.createOrg create)) →
    entry.reply = .tenant (.id context.id)) ?_ ?_
  · rintro start ⟨-, empty, -⟩ entry member
    rw [empty] at member
    cases member
  · intro before label after reached kept move entry member context create mine
    rcases Outline.step_cases move with ⟨-, same⟩ | ⟨change, -⟩ |
      ⟨client, begun, seen, pending, reply, finished, -, grown⟩
    · exact kept entry (same ▸ member) context create mine
    · exact change.elim
    · rw [grown] at member
      rcases List.mem_append.mp member with old | new
      · exact kept entry old context create mine
      · obtain rfl := List.mem_singleton.mp new
        rcases leaves_of_finished once reached finished context _ mine with
          ⟨_, _, answered, -, rfl, -⟩
        exact answered

/-- What holds once a client has committed, if its commit makes it true and it stays so. -/
theorem since_commit {client : Client}
    (Holds : Workload.State Client CoreDb CoreWrite CoreError CoreReply → Prop)
    (commit : ∀ before after begun seen pending reply,
      (coreClients catalog commands).system.Reachable before →
      (coreClients catalog commands).system.Reachable after →
      before.session client = .active begun seen pending (.done (.ok reply)) →
      after.db = coreEngine.view before.db pending → Holds after)
    (stays : ∀ before label after, (coreClients catalog commands).system.Reachable before →
      (coreClients catalog commands).system.Step before label after → Holds before → Holds after)
    (reached : (coreClients catalog commands).system.Reachable state)
    (logged : ∃ entry ∈ state.log, entry.client = client) : Holds state := by
  revert logged
  refine reached.invariant (fun state => (∃ entry ∈ state.log, entry.client = client) →
    Holds state) ?_ ?_
  · rintro start ⟨-, empty, -⟩ ⟨entry, member, -⟩
    rw [empty] at member
    cases member
  · intro before label after reached kept move logged
    by_cases old : ∃ entry ∈ before.log, entry.client = client
    · exact stays before label after reached move (kept old)
    · rcases Outline.step_cases move with ⟨-, same⟩ | ⟨change, -⟩ |
        ⟨other, begun, seen, pending, reply, finished, view, grown⟩
      · rw [same] at logged
        exact absurd logged old
      · exact change.elim
      · rcases logged with ⟨entry, member, own⟩
        rw [grown] at member
        rcases List.mem_append.mp member with member | member
        · exact absurd ⟨entry, member, own⟩ old
        · obtain rfl : other = client := by
            rw [← own, List.mem_singleton.mp member]
          exact commit before after begun seen pending reply reached (reached.step move) finished
            view

/-- An organization that was created: what it keeps, and what only a command of another client can
have taken from it. -/
structure Founded (commands : Client → Option CoreCommand)
    (state : Workload.State Client CoreDb CoreWrite CoreError CoreReply) (orgId : String)
    (create : CreateOrgCommand) : Prop where
  organization : ∃ org, state.db.tenant.organizations.get? orgId = some org ∧
    org.name = create.orgName ∧ org.slug = create.slug ∧
    (org.deletedAt = none ∨ ∃ entry ∈ state.log, Archives commands entry.client orgId)
  founder : ∃ membership,
    state.db.tenant.memberships.get? (orgId, create.ownerUserId) = some membership ∧
    (membership.role = .owner ∨ ∃ entry ∈ state.log,
      (∃ role, Assigns commands entry.client orgId create.ownerUserId role) ∨
        ∃ token, Accepts commands entry.client token create.ownerUserId)

theorem Founded.step (once : CreatedOnce commands)
    {next : Workload.State Client CoreDb CoreWrite CoreError CoreReply}
    (reached : (coreClients catalog commands).system.Reachable state)
    {label : Workload.Label Client}
    (move : (coreClients catalog commands).system.Step state label next) {orgId : String}
    {create : CreateOrgCommand} (founded : Founded commands state orgId create) :
    Founded commands next orgId create := by
  have evolves := Evolves.step once reached move
  have grown := (log_grows (.single ⟨label, move⟩)).subset
  rcases founded with ⟨⟨org, stored, name, slug, live⟩, membership, joined, owner⟩
  refine ⟨?_, ?_⟩
  · rcases evolves.organizations _ org stored with ⟨deletedAt, stored', -, changed⟩
    refine ⟨_, stored', name, slug, ?_⟩
    rcases changed with rfl | ⟨client, ⟨⟨entry, member, rfl⟩, -⟩, archives⟩
    · exact live.imp_right fun ⟨entry, member, archives⟩ => ⟨entry, grown member, archives⟩
    · exact .inr ⟨entry, member, archives⟩
  · rcases evolves.memberships _ membership joined with ⟨role, joined', changed⟩
    refine ⟨_, joined', ?_⟩
    rcases changed with rfl | ⟨-, client, ⟨⟨entry, member, rfl⟩, -⟩, names⟩
    · exact owner.imp_right fun ⟨entry, member, names⟩ => ⟨entry, grown member, names⟩
    · exact .inr ⟨entry, member, names⟩

/-- A command that has created an organization has left it and its founder. -/
theorem founded_of_reachable (once : CreatedOnce commands)
    (reached : (coreClients catalog commands).system.Reachable state) {client : Client}
    {context : TenantContext} {create : CreateOrgCommand}
    (mine : commands client = some (.tenant context (.createOrg create)))
    (logged : ∃ entry ∈ state.log, entry.client = client) :
    Founded commands state context.id create := by
  refine since_commit (fun state => Founded commands state context.id create) ?_
    (fun _ _ _ reached move founded => founded.step once reached move) reached logged
  intro before after begun seen pending reply reached reached' finished view
  rcases leaves_of_finished once reached finished context _ mine with
    ⟨_, _, -, rfl, -, org, membership, rows, rfl, id, live, key, role⟩
  rw [view_tenant] at view
  have tables := view_insertPermissions (tenantEngine.apply (tenantEngine.apply before.db.tenant
    (.putOrganization org)) (.putMembership membership)) rows
  have organizations : after.db.tenant.organizations =
      before.db.tenant.organizations.set org.id org := by
    rw [view]
    exact tables.1
  have memberships : after.db.tenant.memberships =
      before.db.tenant.memberships.set (membership.orgId, membership.userId) membership := by
    rw [view]
    exact tables.2.1
  have stored : after.db.tenant.organizations.get? context.id = some org := by
    rw [organizations, id, OrderedMap.get?_set, if_pos rfl]
  have identity := drawn_unique once
    ((rowsKept_of_reachable once reached').organizations _ _ stored).2 ⟨client, _, mine, rfl⟩
  simp only [Organization.identity, Organization.create, Identity.organization.injEq] at identity
  refine ⟨⟨org, stored, identity.1, identity.2.1, .inl live⟩, membership, ?_, .inl role⟩
  rw [memberships, key, OrderedMap.get?_set, if_pos rfl]

/-- A command that has archived an organization has left it archived. -/
theorem archived_of_reachable (once : CreatedOnce commands)
    (reached : (coreClients catalog commands).system.Reachable state) {client : Client}
    {orgId : String} (archives : Archives commands client orgId)
    (logged : ∃ entry ∈ state.log, entry.client = client) :
    ∃ org, state.db.tenant.organizations.get? orgId = some org ∧ org.deletedAt.isSome := by
  rcases archives with ⟨context, mine⟩
  refine since_commit (fun state => ∃ org,
    state.db.tenant.organizations.get? orgId = some org ∧ org.deletedAt.isSome) ?_ ?_ reached logged
  · intro before after begun seen pending reply reached _ finished view
    rcases leaves_of_finished once reached finished context _ mine with
      ⟨_, _, -, rfl, org, rfl, rfl, archived⟩
    rw [view_tenant] at view
    refine ⟨org, ?_, archived⟩
    rw [view]
    exact (OrderedMap.get?_set _ _ _ _).trans (if_pos rfl)
  · rintro before label after reached move ⟨org, stored, archived⟩
    rcases (Evolves.step once reached move).organizations _ org stored with
      ⟨deletedAt, stored', kept, -⟩
    exact ⟨_, stored', kept archived⟩

end Runs

end CoreApi
