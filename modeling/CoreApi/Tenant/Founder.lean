import CoreApi.Tenant.Effects
import CoreApi.Tenant.OrgGuard

/-!
# The founder of an organization

The role of the owner is given once, to the user the organization is created
for. No command gives it again, so an organization keeps its owner exactly as
long as nobody changes the role of that membership, which nothing in the code
prevents.
-/

namespace CoreApi.Tenant

def TenantDb.empty : TenantDb where
  organizations := .empty
  memberships := .empty
  invites := .empty
  spaces := .empty
  rolePermissions := []
  nextRowId := 0

/-- Any number of commands from an empty database, each drawing new ids. -/
def tenantCommands (catalog : PermissionCatalog) (sent : TenantDb → TenantCommand → Prop) :
    TransitionSystem (Committed TenantDb (TenantContext × TenantCommand) TenantReply)
      (TenantContext × TenantCommand) :=
  Committed.system tenantEngine (fun sending => sending.2.execute catalog sending.1)
    (fun db => db = .empty) fun db sending => Fresh db sending.1 ∧ sent db sending.2

variable {catalog : PermissionCatalog} {sent : TenantDb → TenantCommand → Prop}
  {context : TenantContext} {command : TenantCommand} {reply : TenantReply} {db next : TenantDb}
  {state : Committed TenantDb (TenantContext × TenantCommand) TenantReply}

/-- Organizations do not go away. -/
theorem Commits.hasOrganization (commits : Commits catalog context db command reply next)
    {orgId : String} (stored : hasOrganization db orgId) : hasOrganization next orgId := by
  have set : ∀ id org, (db.organizations.set id org).get? orgId |>.isSome := by
    intro id org
    rw [OrderedMap.get?_set]
    split
    · rfl
    · exact stored
  cases commits with
  | createOrg organizations => simpa [Tenant.hasOrganization, organizations] using set _ _
  | archiveOrg found live => exact set _ _
  | updateRolePermissions manageable organizations =>
      simpa [Tenant.hasOrganization, organizations] using stored
  | _ => exact stored

theorem Commits.keyed (keyed : Keyed db) (commits : Commits catalog context db command reply next) :
    Keyed next := by
  have organizationsKeyed : db.organizations.All fun id org => org.id = id := keyed.organization
  have invitesKeyed : db.invites.All fun id invite => invite.id = id := keyed.invite
  have membershipsKeyed : db.memberships.All fun key membership =>
      (membership.orgId, membership.userId) = key ∧
        Tenant.hasOrganization next membership.orgId :=
    OrderedMap.All.mono keyed.membership fun _ _ own =>
      ⟨own.1, commits.hasOrganization own.2⟩
  cases commits with
  | @createOrg command next organizations memberships invites spaces permissions =>
      have created : Tenant.hasOrganization next context.id := by
        simp [Tenant.hasOrganization, organizations, OrderedMap.get?_set]
      refine ⟨?_, ?_, ?_⟩
      · rw [organizations]
        exact organizationsKeyed.set rfl
      · rw [memberships]
        exact membershipsKeyed.set ⟨rfl, created⟩
      · rw [invites]
        exact keyed.invite
  | @archiveOrg command org found live =>
      have same : org.id = command.orgId := keyed.organization _ _ found
      exact ⟨organizationsKeyed.set same, membershipsKeyed, keyed.invite⟩
  | createInvite organization =>
      exact ⟨keyed.organization, membershipsKeyed, invitesKeyed.set rfl⟩
  | @acceptInvite command invite found absent organization =>
      exact ⟨keyed.organization, membershipsKeyed.set ⟨rfl, organization⟩, invitesKeyed.set rfl⟩
  | @updateMemberRole command membership found =>
      exact ⟨keyed.organization, membershipsKeyed.set (membershipsKeyed _ membership found),
        keyed.invite⟩
  | updateRolePermissions manageable organizations memberships invites =>
      refine ⟨?_, ?_, ?_⟩
      · rw [organizations]
        exact keyed.organization
      · rw [memberships]
        exact membershipsKeyed
      · rw [invites]
        exact keyed.invite
  | createSpace => exact ⟨keyed.organization, membershipsKeyed, keyed.invite⟩

/-- What holds of the tables whatever the commands. -/
structure Consistent (db : TenantDb) : Prop where
  keyed : Keyed db
  numbered : Numbered db

theorem Consistent.empty : Consistent .empty := by
  refine ⟨⟨?_, ?_, ?_⟩, ⟨List.nodup_nil, ?_⟩⟩ <;> simp [TenantDb.empty]

/-- The rule for invariants of the tables and the log: a command that succeeds commits what its case
says. -/
theorem tenant_invariant
    {J : TenantDb → List ((TenantContext × TenantCommand) × TenantReply) → Prop}
    (initial : J .empty [])
    (commit : ∀ db log context command reply next, Consistent db → J db log → Fresh db context →
      sent db command → Commits catalog context db command reply next →
      J next (log ++ [((context, command), reply)]))
    (reached : (tenantCommands catalog sent).Reachable state) :
    Consistent state.db ∧ J state.db state.log := by
  refine @Committed.invariant _ _ _ _ _ _ _ _ _ _ _
    (fun state => Consistent state.db ∧ J state.db state.log) reached ?_ ?_
  · rintro db rfl
    exact ⟨.empty, initial⟩
  · rintro state ⟨context, command⟩ reply writes ⟨consistent, kept⟩ ⟨fresh, sent⟩ ran
    have commits := commits_of_ok consistent.keyed consistent.numbered fresh ran
    exact ⟨⟨commits.keyed consistent.keyed, consistent.numbered.view writes⟩,
      commit _ _ _ _ _ _ consistent kept fresh sent commits⟩

theorem Consistent.of_reachable (reached : (tenantCommands catalog sent).Reachable state) :
    Consistent state.db :=
  (@tenant_invariant _ _ _ (fun _ _ => True) trivial (fun _ _ _ _ _ _ _ _ _ _ _ => trivial)
    reached).1

/-- The membership of the user has the role of the owner. -/
def IsOwner (db : TenantDb) (orgId userId : String) : Prop :=
  ∃ membership, db.memberships.get? (orgId, userId) = some membership ∧ membership.role = .owner

/-- The organization exists and the founder is its one owner. -/
structure FoundedBy (db : TenantDb) (orgId founder : String) : Prop where
  organization : hasOrganization db orgId
  owner : ∀ userId, IsOwner db orgId userId ↔ userId = founder

/-- No change of a role is about the membership of an owner. -/
def SparesOwner (db : TenantDb) (command : TenantCommand) : Prop :=
  ∀ update, command = .updateMemberRole update →
    ¬ IsOwner db update.orgId update.targetUserId

/-- A membership that is written without making or unmaking an owner. -/
theorem isOwner_set {membership : Membership} {key : String × String}
    (written : next.memberships = db.memberships.set key membership)
    (before : ¬ IsOwner db key.1 key.2) (after : membership.role ≠ .owner) {orgId userId : String} :
    IsOwner next orgId userId ↔ IsOwner db orgId userId := by
  simp only [IsOwner, written, OrderedMap.get?_set]
  split
  · next same =>
      cases same
      simpa [IsOwner, after] using before
  · rfl

theorem Commits.foundedBy (commits : Commits catalog context db command reply next)
    (fresh : Fresh db context) (spares : SparesOwner db command) {orgId founder : String}
    (founded : FoundedBy db orgId founder) : FoundedBy next orgId founder := by
  refine ⟨commits.hasOrganization founded.organization, fun userId => ?_⟩
  refine Iff.trans ?_ (founded.owner userId)
  cases commits with
  | @createOrg create next organizations memberships =>
      have other : (orgId, userId) ≠ (context.id, create.ownerUserId) := by
        rintro same
        cases same
        simpa [Tenant.hasOrganization, fresh.organization] using founded.organization
      simp only [IsOwner, memberships, OrderedMap.get?_set, if_neg other]
  | @acceptInvite accept invite found absent =>
      refine isOwner_set rfl ?_ invite.role.property
      simp [IsOwner, absent]
  | @updateMemberRole update membership found =>
      exact isOwner_set rfl (spares update rfl) update.newRole.property
  | updateRolePermissions manageable organizations memberships => simp only [IsOwner, memberships]
  | _ => rfl

theorem Commits.createOrg_foundedBy {create : CreateOrgCommand} {orgId : String} (keyed : Keyed db)
    (commits : Commits catalog context db (.createOrg create) (.id orgId) next)
    (fresh : Fresh db context) : FoundedBy next orgId create.ownerUserId := by
  cases commits with
  | createOrg organizations memberships =>
      refine ⟨by simp [Tenant.hasOrganization, organizations, OrderedMap.get?_set],
        fun userId => ?_⟩
      simp only [IsOwner, memberships, OrderedMap.get?_set, Prod.mk.injEq, true_and]
      constructor
      · rintro ⟨membership, stored, owner⟩
        split at stored
        · next same => exact same
        · have organization := (keyed.membership _ _ stored)
          simp only [Prod.mk.injEq] at organization
          simp [Tenant.hasOrganization, organization.1.1, fresh.organization] at organization
      · rintro rfl
        exact ⟨_, if_pos rfl, rfl⟩

/-- Every organization that was created has its founder. -/
def Founders (db : TenantDb) (log : List ((TenantContext × TenantCommand) × TenantReply)) : Prop :=
  ∀ context create orgId, ((context, .createOrg create), .id orgId) ∈ log →
    FoundedBy db orgId create.ownerUserId

/-- An organization has its founder as its one owner, who holds every permission, as long as nobody
changes the role of an owner. -/
theorem org_keeps_founder (reached : (tenantCommands catalog SparesOwner).Reachable state)
    {create : CreateOrgCommand} {orgId : String}
    (created : ((context, .createOrg create), .id orgId) ∈ state.log) :
    (∀ userId, IsOwner state.db orgId userId ↔ userId = create.ownerUserId) ∧
      ∃ userId, Holds catalog state.db orgId userId catalog.allOrgPermissions := by
  have founders : Founders state.db state.log := by
    refine (tenant_invariant ?_ ?_ reached).2
    · intro context create orgId member
      exact absurd member List.not_mem_nil
    · intro db log context' command reply next consistent kept fresh spares commits context create
        orgId member
      rcases List.mem_append.mp member with old | new
      · exact commits.foundedBy fresh spares (kept _ _ _ old)
      · cases List.mem_singleton.mp new
        exact commits.createOrg_foundedBy consistent.keyed fresh
  have founded := founders _ _ _ created
  refine ⟨founded.owner, create.ownerUserId, ?_⟩
  rcases (founded.owner _).mpr rfl with ⟨membership, stored, owner⟩
  refine ⟨membership, stored, fun permission listed => ?_⟩
  rw [owner]
  exact listed

/-- Codes for the permissions; any that differ would do. -/
def OrgPermission.name : OrgPermission → String
  | .knowledgeRead => "KNOWLEDGE_READ"
  | .knowledgeWrite => "KNOWLEDGE_WRITE"
  | .knowledgeVerify => "KNOWLEDGE_VERIFY"
  | .engagementVote => "ENGAGEMENT_VOTE"
  | .engagementBookmark => "ENGAGEMENT_BOOKMARK"
  | .engagementFollow => "ENGAGEMENT_FOLLOW"
  | .engagementAcceptAnswer => "ENGAGEMENT_ACCEPT_ANSWER"
  | .aiQuery => "AI_QUERY"
  | .creditRead => "CREDIT_READ"
  | .creditSpend => "CREDIT_SPEND"
  | .creditGrant => "CREDIT_GRANT"
  | .orgManageMembers => "ORG_MANAGE_MEMBERS"
  | .orgManageSpaces => "ORG_MANAGE_SPACES"
  | .orgManageRoles => "ORG_MANAGE_ROLES"

open OrgPermission in
/-- A catalog of these permissions whose codes are their names. -/
def namedCatalog : PermissionCatalog where
  code := name
  allOrgPermissions := codes
  isValidOrgPermission permission := permission ∈ codes
where
  codes : List String := [knowledgeRead, knowledgeWrite, knowledgeVerify, engagementVote,
    engagementBookmark, engagementFollow, engagementAcceptAnswer, aiQuery, creditRead, creditSpend,
    creditGrant, orgManageMembers, orgManageSpaces, orgManageRoles].map name

/-- Alice founds an organization. -/
def acmeCreated : TenantContext × TenantCommand :=
  (⟨"org-1", "membership-1", 0⟩, .createOrg ⟨"Acme", "acme", "alice"⟩)

/-- What its creation commits. -/
def acmeWrites : List TenantWrite :=
  .putOrganization (Organization.create "org-1" 0 "Acme" "acme") ::
    .putMembership (Membership.createOwner "membership-1" 0 "org-1" "alice") ::
    (seeds namedCatalog "org-1").map .insertPermission

/-- The database with one organization. -/
def acmeDb : TenantDb := tenantEngine.view .empty acmeWrites

theorem reachable_acme (may : sent .empty acmeCreated.2) :
    (tenantCommands namedCatalog sent).Reachable ⟨acmeDb, [(acmeCreated, .id "org-1")]⟩ := by
  have start : (tenantCommands namedCatalog sent).Reachable ⟨.empty, []⟩ := .initial ⟨rfl, rfl⟩
  refine start.step (Committed.step_of_ok ⟨⟨rfl, rfl, rfl⟩, may⟩ ?_)
  show _ = Except.ok (TenantReply.id "org-1", acmeWrites)
  decide +kernel

/-- Alice invites somebody as a member. -/
def memberInvited : TenantContext × TenantCommand :=
  (⟨"invite-1", "", 1⟩, .createInvite ⟨"join", "org-1", memberRole, "alice", 100⟩)

/-- The row of the invite. -/
def openInvite : OrgInvite :=
  OrgInvite.create "invite-1" "join" "org-1" memberRole "alice" 100

/-- One organization and one invite to it. -/
def invitingDb : TenantDb := tenantEngine.view acmeDb [.putInvite openInvite]

theorem reachable_inviting (may : sent .empty acmeCreated.2)
    (may' : sent acmeDb memberInvited.2) :
    (tenantCommands namedCatalog sent).Reachable
      ⟨invitingDb, [(acmeCreated, .id "org-1"), (memberInvited, .id "join")]⟩ :=
  (reachable_acme may).step (Committed.step_of_ok ⟨⟨rfl, rfl, rfl⟩, may'⟩
    (show _ = Except.ok (TenantReply.id "join", [TenantWrite.putInvite openInvite]) by
      decide +kernel))

/-- Bob accepts it. -/
def memberJoined : TenantContext × TenantCommand :=
  (⟨"", "membership-2", 2⟩, .acceptInvite ⟨"join", "bob"⟩)

/-- The row of his membership. -/
def joinedMember : Membership := Membership.createMember "membership-2" 2 "org-1" "bob" memberRole

/-- What the acceptance commits. -/
def joinedWrites : List TenantWrite :=
  [.putMembership joinedMember, .putInvite (openInvite.accept 2 "bob")]

/-- Alice makes Bob an administrator. -/
def memberPromoted : TenantContext × TenantCommand :=
  (⟨"", "", 3⟩, .updateMemberRole ⟨"org-1", "bob", adminRole, "alice"⟩)

/-- The row of his membership then. -/
def promotedMember : Membership := { joinedMember with role := .admin }

/-- The database after the promotion. -/
def promotedDb : TenantDb :=
  tenantEngine.view (tenantEngine.view invitingDb joinedWrites) [.putMembership promotedMember]

/-- The commands up to the promotion, and their answers. -/
def promotedLog : List ((TenantContext × TenantCommand) × TenantReply) :=
  [(acmeCreated, .id "org-1"), (memberInvited, .id "join"),
    (memberJoined, .joined "org-1" memberRole), (memberPromoted, .done)]

theorem reachable_promoted :
    (tenantCommands namedCatalog SparesOwner).Reachable ⟨promotedDb, promotedLog⟩ := by
  have invited : (tenantCommands namedCatalog SparesOwner).Reachable
      ⟨invitingDb, promotedLog.take 2⟩ :=
    reachable_inviting (fun _ same => by cases same) (fun _ same => by cases same)
  have join : (tenantCommands namedCatalog SparesOwner).Step ⟨invitingDb, promotedLog.take 2⟩
      memberJoined ⟨tenantEngine.view invitingDb joinedWrites, promotedLog.take 3⟩ :=
    Committed.step_of_ok ⟨⟨rfl, rfl, rfl⟩, fun _ same => by cases same⟩
      (show _ = Except.ok (TenantReply.joined "org-1" memberRole, joinedWrites) by decide +kernel)
  have spared : SparesOwner (tenantEngine.view invitingDb joinedWrites) memberPromoted.2 := by
    rintro update ⟨⟩ ⟨membership, stored, owner⟩
    obtain rfl : joinedMember = membership := Option.some.inj stored
    cases owner
  have promote : (tenantCommands namedCatalog SparesOwner).Step
      ⟨tenantEngine.view invitingDb joinedWrites, promotedLog.take 3⟩ memberPromoted
      ⟨promotedDb, promotedLog⟩ :=
    Committed.step_of_ok ⟨⟨rfl, rfl, rfl⟩, spared⟩
      (show _ = Except.ok (TenantReply.done, [TenantWrite.putMembership promotedMember]) by
        decide +kernel)
  exact (invited.step join).step promote

/-- Bob has joined the organization of Alice and has been made an administrator; its owner is
still Alice alone. -/
theorem org_keeps_founder_promoted :
    promotedDb.memberships.get? ("org-1", "bob") = some promotedMember ∧
      (∀ userId, IsOwner promotedDb "org-1" userId ↔ userId = "alice") ∧
      ∃ userId, Holds namedCatalog promotedDb "org-1" userId namedCatalog.allOrgPermissions :=
  ⟨rfl, org_keeps_founder reachable_promoted
    (List.mem_cons_self : (acmeCreated, TenantReply.id "org-1") ∈ promotedLog)⟩

/-- Alice is made a member of her own organization. -/
def ownerDemoted : TenantContext × TenantCommand :=
  (⟨"", "", 1⟩, .updateMemberRole ⟨"org-1", "alice", memberRole, "bob"⟩)

/-- The row of her membership then. -/
def formerOwner : Membership :=
  { Membership.createOwner "membership-1" 0 "org-1" "alice" with role := .member }

/-- The organization without an owner. -/
def lockedOut : TenantDb := tenantEngine.view acmeDb [.putMembership formerOwner]

/-- Nothing keeps an administrator from making the owner a member, and then nobody in the
organization holds every permission. -/
theorem org_locked_out : ∃ state, (tenantCommands namedCatalog fun _ _ => True).Reachable state ∧
    (acmeCreated, .id "org-1") ∈ state.log ∧ (∀ userId, ¬ IsOwner state.db "org-1" userId) ∧
    ∀ userId, ¬ Holds namedCatalog state.db "org-1" userId namedCatalog.allOrgPermissions := by
  have demoted : (tenantCommands namedCatalog fun _ _ => True).Step
      ⟨acmeDb, [(acmeCreated, .id "org-1")]⟩ ownerDemoted
      ⟨lockedOut, [(acmeCreated, .id "org-1"), (ownerDemoted, .done)]⟩ :=
    Committed.step_of_ok ⟨⟨rfl, rfl, rfl⟩, trivial⟩
      (show _ = Except.ok (TenantReply.done, [TenantWrite.putMembership formerOwner]) by
        decide +kernel)
  have only : ∀ userId membership, lockedOut.memberships.get? ("org-1", userId) = some membership →
      membership = formerOwner := by
    intro userId membership stored
    have table : lockedOut.memberships = OrderedMap.empty.set ("org-1", "alice") formerOwner := rfl
    rw [table, OrderedMap.get?_set] at stored
    split at stored
    · exact (Option.some.inj stored).symm
    · cases stored
  refine ⟨_, (reachable_acme trivial).step demoted, by simp, ?_, ?_⟩
  · rintro userId ⟨membership, stored, owner⟩
    rw [only userId membership stored] at owner
    cases owner
  · rintro userId ⟨membership, stored, holds⟩
    rw [only userId membership stored] at holds
    exact absurd (holds "ORG_MANAGE_ROLES" (by decide)) (by decide +kernel)

end CoreApi.Tenant
