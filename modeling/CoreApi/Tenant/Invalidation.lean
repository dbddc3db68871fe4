import CoreApi.Foundation.WriteSets
import CoreApi.Tenant.RolePermissions

/-!
# Dropping what other services keep of an authorization

The other services keep the role of a user in an organization and the permissions
of a role there as two entries of a cache. A command that changes one of the
answers drops its entry after the commit. Creating an organization drops nothing,
because nobody can have asked about it before.
-/

namespace CoreApi.Tenant

open PrismaMembershipQueryRepository PrismaOrgRolePermissionReaderRepository

/-- An answer that is kept. -/
inductive Cached where
  | membership (orgId userId : String)
  | orgPermissions (orgId : String) (role : OrgRole)
deriving DecidableEq

/-- The names of the entries, which another package gives. -/
structure CacheKeys where
  membership : String → String → String
  orgPermissions : String → OrgRole → String

/-- The text of a key. -/
def CacheKeys.key (keys : CacheKeys) : Cached → String
  | .membership orgId userId => keys.membership orgId userId
  | .orgPermissions orgId role => keys.orgPermissions orgId role

section AfterCommit

variable (keys : CacheKeys)

/-- The entries that `afterCommit` deletes. -/
def AcceptInviteHandler.afterCommit (command : AcceptInviteCommand)
    (result : String × ManageableOrgRole) : List String :=
  [keys.membership result.1 command.userId]

/-- The keys that are deleted once a role was changed. -/
def UpdateMemberRoleHandler.afterCommit (command : UpdateMemberRoleCommand) : List String :=
  [keys.membership command.orgId command.targetUserId]

/-- The keys that are deleted once permissions were replaced. -/
def UpdateRolePermissionsHandler.afterCommit (command : UpdateRolePermissionsCommand) :
    List String :=
  [keys.orgPermissions command.orgId command.role]

/-- The other handlers have no `afterCommit`. -/
def TenantCommand.afterCommit : TenantCommand → TenantReply → List String
  | .acceptInvite command, .joined orgId role =>
      AcceptInviteHandler.afterCommit keys command (orgId, role)
  | .updateMemberRole command, _ => UpdateMemberRoleHandler.afterCommit keys command
  | .updateRolePermissions command, _ => UpdateRolePermissionsHandler.afterCommit keys command
  | _, _ => []

end AfterCommit

namespace Cached

/-- The organization that a cached value is about. -/
def orgId : Cached → String
  | .membership orgId _ => orgId
  | .orgPermissions orgId _ => orgId

/-- The tables give the same answer. -/
def Unchanged (before after : TenantDb) : Cached → Prop
  | .membership orgId userId =>
      findRoleByOrgAndUser after orgId userId = findRoleByOrgAndUser before orgId userId
  | .orgPermissions orgId role =>
      findByOrgAndRole after orgId role = findByOrgAndRole before orgId role

variable {before after later : TenantDb}

theorem Unchanged.refl (db : TenantDb) (cached : Cached) : cached.Unchanged db db := by
  cases cached <;> rfl

theorem Unchanged.trans {cached : Cached} (first : cached.Unchanged before after)
    (second : cached.Unchanged after later) : cached.Unchanged before later := by
  cases cached with
  | membership orgId userId => exact Eq.trans second first
  | orgPermissions orgId role => exact Eq.trans second first

end Cached

/-- What is kept and no longer true once a command has answered, with the organization it created if
it did. -/
def TenantCommand.Outdates (context : TenantContext) :
    TenantCommand → TenantReply → Cached → Prop
  | .createOrg _, _, cached => cached.orgId = context.id
  | .acceptInvite command, .joined orgId _, cached => cached = .membership orgId command.userId
  | .updateMemberRole command, _, cached =>
      cached = .membership command.orgId command.targetUserId
  | .updateRolePermissions command, _, cached =>
      cached = .orgPermissions command.orgId command.role
  | _, _, _ => False

/-- A command drops what it outdates, unless it created the organization. -/
theorem TenantCommand.Outdates.dropped {context : TenantContext} {command : TenantCommand}
    {reply : TenantReply} {cached : Cached} (outdates : command.Outdates context reply cached)
    (keys : CacheKeys) :
    keys.key cached ∈ command.afterCommit keys reply ∨
      (∃ create, command = .createOrg create) ∧ cached.orgId = context.id := by
  cases command with
  | createOrg create => exact .inr ⟨⟨create, rfl⟩, outdates⟩
  | acceptInvite accept =>
      cases reply with
      | joined orgId role =>
          obtain rfl := outdates
          exact .inl (List.mem_singleton_self _)
      | _ => exact outdates.elim
  | updateMemberRole update =>
      obtain rfl := outdates
      exact .inl (List.mem_singleton_self _)
  | updateRolePermissions update =>
      obtain rfl := outdates
      exact .inl (List.mem_singleton_self _)
  | _ => exact outdates.elim

/-- Rows have identities of their own, and memberships stand under their keys. -/
structure Tables (db : TenantDb) : Prop where
  numbered : Numbered db
  memberships : db.memberships.All fun key membership =>
    (membership.orgId, membership.userId) = key

theorem Tables.apply {db : TenantDb} (tables : Tables db) (write : TenantWrite) :
    Tables (tenantEngine.apply db write) := by
  refine ⟨tables.numbered.apply write, ?_⟩
  cases write with
  | putMembership membership => exact tables.memberships.set rfl
  | _ => exact tables.memberships

/-- The write deletes no row, and writes only rows that decide answers of the kind. -/
def TenantWrite.Within (kind : Cached → Prop) : TenantWrite → Prop
  | .putMembership membership => kind (.membership membership.orgId membership.userId)
  | .insertPermission permission => kind (.orgPermissions permission.orgId permission.role)
  | .deletePermission _ => False
  | _ => True

/-- What holds of the tables in between, and what other transactions may do meanwhile. -/
def tenantAssumptions : Assumptions TenantDb TenantWrite where
  Inv := Tables
  Rely _ := Later
  refl _ := Later.refl
  trans := Later.trans

/-- The writes that change cached values of one kind only. -/
def tenantWrites (kind : Cached → Prop) : WriteSet tenantEngine where
  toAssumptions := tenantAssumptions
  Allowed := TenantWrite.Within kind
  inv_apply _ write tables _ := tables.apply write
  rely_apply _ db write _ _ := Later.apply db write

section Writes

variable {kind : Cached → Prop} {cached : Cached} {db : TenantDb} {pending : List TenantWrite}

theorem TenantWrite.Within.unchanged {write : TenantWrite} (within : write.Within kind)
    (off : ¬ kind cached) : cached.Unchanged db (tenantEngine.apply db write) := by
  cases write with
  | putMembership membership =>
      cases cached with
      | membership orgId userId =>
          have other : (orgId, userId) ≠ (membership.orgId, membership.userId) := by
            rintro ⟨⟩
            exact off within
          simp [Cached.Unchanged, findRoleByOrgAndUser, tenantEngine, OrderedMap.get?_set, other]
      | orgPermissions orgId role => rfl
  | insertPermission permission =>
      cases cached with
      | membership orgId userId => rfl
      | orgPermissions orgId role =>
          have other : ¬ (permission.orgId = orgId ∧ permission.role = role) := by
            rintro ⟨rfl, rfl⟩
            exact off within
          simp [Cached.Unchanged, findByOrgAndRole, PrismaOrgRolePermissionRepository.ofRole,
            tenantEngine, other]
  | deletePermission row => exact within.elim
  | _ => cases cached <;> rfl

/-- Writes leave the answers that they do not decide. -/
theorem unchanged_view (within : ∀ write ∈ pending, write.Within kind) (off : ¬ kind cached) :
    cached.Unchanged db (tenantEngine.view db pending) :=
  Engine.view_keeps (cached.Unchanged db) (.refl db cached) fun write member _ unchanged =>
    unchanged.trans ((within write member).unchanged off)

theorem findByOrgAndRole_eq (db : TenantDb) (orgId : String) (role : OrgRole) :
    findByOrgAndRole db orgId role =
      (permissionsOf db orgId role).map OrgRolePermission.permission := by
  rw [permissionsOf, TenantDb.permissions, List.filter_map, List.map_map]
  rfl

/-- A replacement leaves every answer but the permissions of its role. -/
theorem Replaces.unchanged {command : UpdateRolePermissionsCommand}
    (replaces : Replaces command pending db)
    (off : cached ≠ .orgPermissions command.orgId command.role) :
    cached.Unchanged db (tenantEngine.view db pending) := by
  cases cached with
  | membership orgId userId =>
      rcases replaces with ⟨deleted, rfl, -⟩
      rw [Cached.Unchanged, findRoleByOrgAndUser, findRoleByOrgAndUser, Engine.view_append,
        (view_insertPermissions _ _).2.1, (view_deletePermissions _ _).2.1]
  | orgPermissions orgId role =>
      have other : ¬ command.On orgId role := by
        rintro ⟨rfl, rfl⟩
        exact off rfl
      rw [Cached.Unchanged, findByOrgAndRole_eq, findByOrgAndRole_eq,
        replaces.permissionsOf_off other]

end Writes

section Bodies

open WriteSet

variable {kind : Cached → Prop} {catalog : PermissionCatalog} {context : TenantContext}

theorem orThrow_adds {Entity : Type} {error : Knowledge.ApplicationError}
    {found : Option Entity} :
    (tenantWrites kind).Adds (orThrow error found) fun entity => found = some entity := by
  cases found with
  | none => exact Adds.fail _
  | some entity => exact Adds.pure rfl

theorem throwIf_adds {error : Knowledge.ApplicationError} {condition : Bool} :
    (tenantWrites kind).Adds (throwIf condition error) fun _ => True := by
  cases condition with
  | true => exact Adds.fail _
  | false => exact Adds.pure trivial

theorem saveOrganization_adds (org : Organization) :
    (tenantWrites kind).Adds (PrismaOrganizationRepository.save org) fun _ => True := by
  apply Adds.execute
  intro db _ writes value ran
  dsimp only at ran
  split at ran
  · cases ran
  · cases ran
    exact ⟨List.forall_mem_singleton.mpr trivial, trivial⟩

theorem saveMembership_adds {membership : Membership}
    (own : kind (.membership membership.orgId membership.userId)) :
    (tenantWrites kind).Adds (PrismaMembershipRepository.save membership) fun _ => True := by
  apply Adds.execute
  intro db tables writes value ran
  split at ran
  · next row found =>
      rcases Prod.mk.inj (tables.memberships _ _ found) with ⟨org, user⟩
      cases ran
      refine ⟨List.forall_mem_singleton.mpr ?_, trivial⟩
      rw [← org, ← user] at own
      exact own
  · split at ran
    · cases ran
      exact ⟨List.forall_mem_singleton.mpr own, trivial⟩
    · cases ran

theorem saveInvite_adds (invite : OrgInvite) :
    (tenantWrites kind).Adds (PrismaOrgInviteRepository.save invite) fun _ => True := by
  apply Adds.execute
  intro db _ writes value ran
  split at ran
  · cases ran
    exact ⟨List.forall_mem_singleton.mpr trivial, trivial⟩
  · split at ran
    · cases ran
    · split at ran
      · cases ran
        exact ⟨List.forall_mem_singleton.mpr trivial, trivial⟩
      · cases ran

theorem saveSpace_adds (space : Space) :
    (tenantWrites kind).Adds (PrismaSpaceRepository.save space) fun _ => True := by
  apply Adds.execute
  intro db _ writes value ran
  split at ran
  · cases ran
    exact ⟨List.forall_mem_singleton.mpr trivial, trivial⟩
  · split at ran
    · cases ran
      exact ⟨List.forall_mem_singleton.mpr trivial, trivial⟩
    · cases ran

theorem createMany_adds {rows : List OrgRolePermission}
    (own : ∀ row ∈ rows, kind (.orgPermissions row.orgId row.role)) :
    (tenantWrites kind).Adds (PrismaOrgRolePermissionRepository.createMany rows)
      fun _ => True := by
  apply Adds.execute
  intro db _ writes value ran
  split at ran
  · cases ran
  · split at ran
    · cases ran
      exact ⟨List.forall_mem_map.mpr own, trivial⟩
    · cases ran

/-- Whatever was committed before the writes are, they change only what is outdated. -/
def Settled (outdates : Cached → Prop) (pending : List TenantWrite) (db : TenantDb) : Prop :=
  ∀ now, Later db now → ∀ cached, ¬ outdates cached →
    cached.Unchanged now (tenantEngine.view now pending)

variable {permits : List TenantDb → TenantDb → Prop} {seen : List TenantDb} {db : TenantDb}

theorem settled_ends {Value : Type} {answers : Value → Prop} {outdates : Value → Cached → Prop}
    {body : TenantTx Value} (adds : (tenantWrites kind).Adds body answers)
    (covers : ∀ value, answers value → ∀ cached, kind cached → outdates value cached) :
    tenantAssumptions.Ends tenantEngine permits
      (fun value _ pending db => Settled (outdates value) pending db) body seen [] db := by
  refine Assumptions.Ends.mono ?_ (adds permits seen [] db (List.forall_mem_nil _))
  rintro value _ pending db ⟨within, answer⟩ now _ cached off
  exact unchanged_view within fun own => off (covers value answer cached own)

theorem createOrg_adds (command : CreateOrgCommand) :
    (tenantWrites fun cached => cached.orgId = context.id).Adds
      (CreateOrgHandler.execute catalog context command) fun _ => True := by
  refine Adds.bind (fun _ => True) (Adds.read fun _ _ => trivial) fun existing _ => ?_
  refine Adds.bind _ throwIf_adds fun _ _ => ?_
  refine Adds.bind _ (saveOrganization_adds _) fun _ _ => ?_
  refine Adds.bind _ (saveMembership_adds ?_) fun _ _ => ?_
  · rfl
  · refine Adds.bind _ (createMany_adds ?_) fun _ _ => Adds.pure trivial
    intro row member
    rcases List.mem_flatMap.mp member with ⟨role, -, member⟩
    rcases List.mem_map.mp member with ⟨permission, -, rfl⟩
    rfl

theorem archiveOrg_adds (command : ArchiveOrgCommand) :
    (tenantWrites kind).Adds (ArchiveOrgHandler.execute context command) fun _ => True := by
  refine Adds.bind (fun _ => True) (Adds.read fun _ _ => trivial) fun found _ => ?_
  exact Adds.bind _ orThrow_adds fun org _ => saveOrganization_adds _

theorem createInvite_adds (command : CreateInviteCommand) :
    (tenantWrites kind).Adds (CreateInviteHandler.execute context command) fun _ => True :=
  Adds.bind _ (saveInvite_adds _) fun _ _ => Adds.pure trivial

theorem createSpace_adds (command : CreateSpaceCommand) :
    (tenantWrites kind).Adds (CreateSpaceHandler.execute context command) fun _ => True :=
  Adds.bind _ (saveSpace_adds _) fun _ _ => Adds.pure trivial

theorem updateMemberRole_adds (command : UpdateMemberRoleCommand) :
    (tenantWrites fun cached => cached = .membership command.orgId command.targetUserId).Adds
      (UpdateMemberRoleHandler.execute command) fun _ => True := by
  refine Adds.bind (fun found => ∀ membership, found = some membership →
    (membership.orgId, membership.userId) = (command.orgId, command.targetUserId))
    (Adds.read fun db tables => tables.memberships _) fun found keyed => ?_
  refine Adds.bind _ orThrow_adds fun membership stored => saveMembership_adds ?_
  rcases Prod.mk.inj (keyed membership stored) with ⟨org, user⟩
  rw [← org, ← user]
  rfl

/-- The organization is the one of the invite that the command has found. -/
theorem acceptInvite_settled (command : AcceptInviteCommand) :
    tenantAssumptions.Ends tenantEngine permits
      (fun result _ pending db => Settled (fun cached =>
        cached = .membership result.1 command.userId) pending db)
      (AcceptInviteHandler.execute context command) seen [] db := by
  refine Assumptions.Ends.bind (Assumptions.Ends.read fun now _ _ => ?_)
  refine Assumptions.Ends.bind (orThrow_ends fun invite _ => ?_)
  refine @settled_ends (fun cached => cached = .membership invite.orgId command.userId) _ _ _ _
    (fun result => result.1 = invite.orgId) _ _ ?_ ?_
  · refine Adds.bind _ throwIf_adds fun _ _ => ?_
    refine Adds.bind _ throwIf_adds fun _ _ => ?_
    refine Adds.bind (fun _ => True) (Adds.read fun _ _ => trivial) fun existing _ => ?_
    refine Adds.bind _ throwIf_adds fun _ _ => ?_
    refine Adds.bind _ (saveMembership_adds ?_) fun _ _ => ?_
    · rfl
    · exact Adds.bind _ (saveInvite_adds _) fun _ _ => Adds.pure rfl
  · rintro result same cached rfl
    rw [same]

theorem updateRolePermissions_settled (command : UpdateRolePermissionsCommand) :
    tenantAssumptions.Ends tenantEngine permits
      (fun _ _ pending db => Settled (fun cached =>
        cached = .orgPermissions command.orgId command.role) pending db)
      (UpdateRolePermissionsHandler.execute catalog command) [] [] db := by
  refine Assumptions.Ends.mono ?_
    (updateRolePermissions_ends.assume (fun _ => Tables.numbered) fun _ _ _ => id)
  rintro _ _ pending db ⟨deleted, rfl, known⟩ now later cached off
  have replaces : Replaces command _ now := ⟨deleted, rfl, fun row member =>
    ⟨(known row member).1, (known row member).2.later later⟩⟩
  exact replaces.unchanged off

/-- Each command changes only what its answer outdates. -/
theorem execute_settled (command : TenantCommand) :
    tenantAssumptions.Ends tenantEngine permits
      (fun reply _ pending db => Settled (command.Outdates context reply) pending db)
      (command.execute catalog context) [] [] db := by
  cases command with
  | createOrg command =>
      exact Assumptions.Ends.map _ (settled_ends (createOrg_adds command) fun _ _ _ => id)
  | archiveOrg command =>
      exact Assumptions.Ends.map _ (settled_ends (archiveOrg_adds command) fun _ _ _ => id)
  | createInvite command =>
      exact Assumptions.Ends.map _ (settled_ends (createInvite_adds command) fun _ _ _ => id)
  | acceptInvite command => exact Assumptions.Ends.map _ (acceptInvite_settled command)
  | updateMemberRole command =>
      exact Assumptions.Ends.map _ (settled_ends (updateMemberRole_adds command) fun _ _ _ => id)
  | updateRolePermissions command =>
      exact Assumptions.Ends.map _ (updateRolePermissions_settled command)
  | createSpace command =>
      exact Assumptions.Ends.map _ (settled_ends (createSpace_adds command) fun _ _ _ => id)

end Bodies

/-- Any number of commands at the same time, on any tables. -/
def tenantWorkload (catalog : PermissionCatalog) (contexts : ℕ → TenantContext)
    (commands : ℕ → TenantCommand) :
    Workload ℕ TenantDb TenantWrite TenantLock TenantError TenantReply where
  toEngine := tenantEngine
  program client := (commands client).execute catalog (contexts client)
  initial := Tables
  external _ _ := False

/-- The state of a run of tenant commands. -/
abbrev TenantState := Workload.State ℕ TenantDb TenantWrite TenantError TenantReply

variable {catalog : PermissionCatalog} {contexts : ℕ → TenantContext}
  {commands : ℕ → TenantCommand} {state next : TenantState}

theorem Tables.view {db : TenantDb} (tables : Tables db) (writes : List TenantWrite) :
    Tables (tenantEngine.view db writes) :=
  Engine.view_keeps Tables tables fun write _ _ tables => tables.apply write

/-- A commit changes nothing that is cached under a key it does not name. -/
def invalidationOutline (catalog : PermissionCatalog) (contexts : ℕ → TenantContext)
    (commands : ℕ → TenantCommand) : Outline (tenantWorkload catalog contexts commands) where
  toAssumptions := tenantAssumptions
  Effect client _ reply before after := ∀ cached,
    ¬ (commands client).Outdates (contexts client) reply cached → cached.Unchanged before after
  initial _ := id
  external _ _ _ change := change.elim
  safe client begun _ := by
    refine Assumptions.Ends.mono ?_ (execute_settled (commands client))
    intro reply _ pending db settled now later tables
    exact ⟨tables.view pending, settled now later, fun _ _ => Later.view now pending⟩

/-- Whatever runs at the same time, a command that commits a change of the role of a user in an
organization or of the permissions of a role there deletes the entry under which it is kept. The
organization was there before, and the id of a new one is not the id of another. -/
theorem invalidation_complete (keys : CacheKeys)
    (reached : (tenantWorkload catalog contexts commands).system.Reachable state) {client : ℕ}
    (move : (tenantWorkload catalog contexts commands).system.Step state (.commit client) next)
    {begun : TenantDb} {reply : TenantReply}
    (answered : next.session client = .committed begun reply) {orgId : String}
    (existed : hasOrganization state.db orgId)
    (fresh : ∀ create, commands client = .createOrg create →
      ¬ hasOrganization state.db (contexts client).id) :
    (∀ userId, findRoleByOrgAndUser next.db orgId userId ≠
        findRoleByOrgAndUser state.db orgId userId →
      keys.membership orgId userId ∈ (commands client).afterCommit keys reply) ∧
    ∀ role, findByOrgAndRole next.db orgId role ≠ findByOrgAndRole state.db orgId role →
      keys.orgPermissions orgId role ∈ (commands client).afterCommit keys reply := by
  have dropped : ∀ cached : Cached, cached.orgId = orgId → ¬ cached.Unchanged state.db next.db →
      keys.key cached ∈ (commands client).afterCommit keys reply := by
    intro cached own changed
    have outdates : (commands client).Outdates (contexts client) reply cached := by
      by_contra off
      cases move with
      | commit finished =>
          simp only [Workload.State.session_put, Session.committed.injEq] at answered
          obtain ⟨-, rfl⟩ := answered
          have effect := Outline.commit_effect (invalidationOutline catalog contexts commands)
            reached finished
          exact changed (effect.2 cached off)
    rcases outdates.dropped keys with member | ⟨⟨create, created⟩, new⟩
    · exact member
    · rw [← own, new] at existed
      exact absurd existed (fresh create created)
  exact ⟨fun userId => dropped (.membership orgId userId) rfl,
    fun role => dropped (.orgPermissions orgId role) rfl⟩

/-- Keys that tell apart what they name, as long as ids have no colon. -/
def namedKeys : CacheKeys where
  membership orgId userId := "org-membership:" ++ orgId ++ ":" ++ userId
  orgPermissions orgId role := "org-permissions:" ++ orgId ++ ":" ++ role.text

/-- Alice is made a member. -/
def demotion : TenantCommand := .updateMemberRole ⟨"org-1", "alice", memberRole, "bob"⟩

/-- The founder is made a member, and what the other services keep of her is dropped. -/
theorem invalidation_complete_demotion :
    "org-membership:org-1:alice" ∈ demotion.afterCommit namedKeys .done := by
  let workload := tenantWorkload namedCatalog (fun _ => ⟨"", "", 1⟩) fun _ => demotion
  have start : workload.system.Reachable ⟨acmeDb, [], fun _ => .idle⟩ := by
    refine .initial ⟨⟨numbered_acmeDb, ?_⟩, rfl, fun _ => rfl⟩
    exact (OrderedMap.All.empty).set rfl
  have begins : workload.system.Step ⟨acmeDb, [], fun _ => .idle⟩ (.begin 0) _ :=
    Workload.Step.begin (.inl rfl)
  rcases Workload.reachable_finish (start.step begins) 0 (Workload.State.session_put _ _ _)
    (fun other distinct => by simp [Workload.State.put, distinct, Session.pending])
    (.of_all (fun _ _ => trivial) _ _ _)
    (show _ = Except.ok (TenantReply.done, [TenantWrite.putMembership formerOwner]) by
      decide +kernel) with ⟨seen, -, finished⟩
  have complete := invalidation_complete namedKeys finished
    (Workload.Step.commit (Workload.State.session_put _ _ _)) rfl
    (show hasOrganization acmeDb "org-1" by decide +kernel) (by rintro create ⟨⟩)
  refine complete.1 "alice" ?_
  show findRoleByOrgAndUser lockedOut "org-1" "alice" ≠ findRoleByOrgAndUser acmeDb "org-1" "alice"
  decide +kernel

end CoreApi.Tenant
