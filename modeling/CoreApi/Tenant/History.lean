import CoreApi.Tenant.Founder
import CoreApi.Tenant.WithinRights

/-!
# What becomes of the rows of the tenant module

No command deletes an organization, a membership, an invite or a space. Whatever
runs at the same time, an organization that is archived stays archived, an invite
that is used stays used, nobody becomes an owner later on, and everything else
about a row stays as it was created.
-/

namespace CoreApi

open Tenant

/-- What may become of the rows of the tenant module when some of the clients commit: a column that
changes is one that a command of these clients changes of the row it names. -/
structure Evolves {Client : Type} (commands : Client → Option CoreCommand) (acted : Client → Prop)
    (before after : TenantDb) : Prop where
  organizations : ∀ id org, before.organizations.get? id = some org →
    ∃ deletedAt, after.organizations.get? id = some { org with deletedAt := deletedAt } ∧
      (org.deletedAt.isSome → deletedAt.isSome) ∧
      (deletedAt = org.deletedAt ∨ ∃ client, acted client ∧ Archives commands client id)
  memberships : ∀ key membership, before.memberships.get? key = some membership →
    ∃ role, after.memberships.get? key = some { membership with role := role } ∧
      (role = membership.role ∨ role ≠ .owner ∧ ∃ client, acted client ∧
        ((∃ role, Assigns commands client key.1 key.2 role) ∨
          ∃ token, Accepts commands client token key.2))
  invites : ∀ id invite, before.invites.get? id = some invite →
    ∃ usedAt usedBy, after.invites.get? id =
        some { invite with usedAt := usedAt, usedBy := usedBy } ∧
      (usedAt = invite.usedAt ∧ usedBy = invite.usedBy ∨
        usedAt.isSome ∧ ∃ client userId, acted client ∧
          Accepts commands client invite.token userId ∧ usedBy = some userId)
  spaces : ∀ id space, before.spaces.get? id = some space → after.spaces.get? id = some space

namespace Evolves

variable {Client : Type} {commands : Client → Option CoreCommand} {acted more : Client → Prop}

theorem refl (db : TenantDb) : Evolves commands acted db db where
  organizations _ org stored := ⟨org.deletedAt, stored, id, .inl rfl⟩
  memberships _ membership stored := ⟨membership.role, stored, .inl rfl⟩
  invites _ invite stored := ⟨invite.usedAt, invite.usedBy, stored, .inl ⟨rfl, rfl⟩⟩
  spaces _ _ stored := stored

theorem trans {before middle after : TenantDb} (first : Evolves commands acted before middle)
    (second : Evolves commands acted middle after) : Evolves commands acted before after where
  organizations id org stored := by
    rcases first.organizations id org stored with ⟨_, stored, archived, changed⟩
    rcases second.organizations id _ stored with ⟨deletedAt, stored, archived', changed'⟩
    refine ⟨deletedAt, stored, fun old => archived' (archived old), ?_⟩
    rcases changed' with rfl | by_
    · exact changed
    · exact .inr by_
  memberships key membership stored := by
    rcases first.memberships key membership stored with ⟨_, stored, changed⟩
    rcases second.memberships key _ stored with ⟨role, stored, changed'⟩
    refine ⟨role, stored, ?_⟩
    rcases changed' with rfl | by_
    · exact changed
    · exact .inr by_
  invites id invite stored := by
    rcases first.invites id invite stored with ⟨_, _, stored, changed⟩
    rcases second.invites id _ stored with ⟨usedAt, usedBy, stored, changed'⟩
    refine ⟨usedAt, usedBy, stored, ?_⟩
    rcases changed' with ⟨rfl, rfl⟩ | by_
    · exact changed
    · exact .inr by_
  spaces id space stored := second.spaces id space (first.spaces id space stored)

theorem mono {before after : TenantDb} (evolves : Evolves commands acted before after)
    (among : ∀ client, acted client → more client) : Evolves commands more before after where
  organizations id org stored := by
    rcases evolves.organizations id org stored with ⟨deletedAt, stored, archived, changed⟩
    exact ⟨deletedAt, stored, archived, changed.imp_right fun ⟨client, act, archives⟩ =>
      ⟨client, among client act, archives⟩⟩
  memberships key membership stored := by
    rcases evolves.memberships key membership stored with ⟨role, stored, changed⟩
    exact ⟨role, stored, changed.imp_right fun ⟨other, client, act, names⟩ =>
      ⟨other, client, among client act, names⟩⟩
  invites id invite stored := by
    rcases evolves.invites id invite stored with ⟨usedAt, usedBy, stored, changed⟩
    exact ⟨usedAt, usedBy, stored, changed.imp_right fun ⟨used, client, userId, act, names⟩ =>
      ⟨used, client, userId, among client act, names⟩⟩
  spaces := evolves.spaces

end Evolves

namespace Tenant

theorem Organization.eq_of_identity {org org' : Organization} (id : org'.id = org.id)
    (same : org'.identity = org.identity) : org' = { org with deletedAt := org'.deletedAt } := by
  cases org
  cases org'
  simp_all [Organization.identity]

theorem Membership.eq_of_identity {membership membership' : Membership}
    (key : (membership'.orgId, membership'.userId) = (membership.orgId, membership.userId))
    (same : membership'.identity = membership.identity) :
    membership' = { membership with role := membership'.role } := by
  cases membership
  cases membership'
  simp_all [Membership.identity]

theorem OrgInvite.eq_of_identity {invite invite' : OrgInvite} (id : invite'.id = invite.id)
    (same : invite'.identity = invite.identity) :
    invite' = { invite with usedAt := invite'.usedAt, usedBy := invite'.usedBy } := by
  cases invite
  cases invite'
  simp_all [OrgInvite.identity]

end Tenant

section Commits

variable {Client : Type} {catalog : PermissionCatalog} {commands : Client → Option CoreCommand}
  {client : Client} {before db : CoreDb} {writes : List CoreWrite} {write : CoreWrite}

/-- None of the rows a client creates is there. -/
def Uncreated (commands : Client → Option CoreCommand) (client : Client) (db : CoreDb) : Prop :=
  ∀ key, Creates commands client key → identityOf db key = none

/-- A write that its client may make takes no row back. -/
theorem Evolves.apply (uncreated : Uncreated commands client before)
    (evolved : Evolves commands (· = client) before.tenant db.tenant)
    (kept : RowsKept catalog commands db)
    (sound : ((tenantGrants catalog commands).of client).Sound db write) :
    Evolves commands (· = client) before.tenant (coreEngine.apply db write).tenant := by
  rcases sound with ⟨claims, may⟩
  have created : ∀ {key}, Creates commands client key → (identityOf before key).isSome → False := by
    intro key creates stored
    rw [uncreated key creates] at stored
    cases stored
  cases write with
  | tenant write =>
      cases write with
      | putOrganization org' =>
          refine ⟨fun id org stored => ?_, evolved.memberships, evolved.invites, evolved.spaces⟩
          rcases evolved.organizations id org stored with ⟨deletedAt, stored', archived, changed⟩
          show ∃ deletedAt, (db.tenant.organizations.set org'.id org').get? id =
            some { org with deletedAt := deletedAt } ∧ _
          rw [OrderedMap.get?_set]
          split
          · next same =>
              subst same
              have identity : Organization.identity { org with deletedAt := deletedAt } =
                  org'.identity :=
                claims _ _ rfl _ (congrArg (Option.map Organization.identity) stored')
              have id : org.id = org'.id := (kept.organizations _ _ stored').1
              have row := congrArg some (Organization.eq_of_identity id.symm identity.symm)
              rcases may.2 with ⟨-, archived, archives⟩ | creates
              · exact ⟨org'.deletedAt, row, fun _ => archived, .inr ⟨client, rfl, archives⟩⟩
              · exact (created creates (by simp [identityOf, stored])).elim
          · exact ⟨deletedAt, stored', archived, changed⟩
      | putMembership membership' =>
          refine ⟨evolved.organizations, fun key membership stored => ?_, evolved.invites,
            evolved.spaces⟩
          rcases evolved.memberships key membership stored with ⟨role, stored', changed⟩
          show ∃ role, (db.tenant.memberships.set (membership'.orgId, membership'.userId)
            membership').get? key = some { membership with role := role } ∧ _
          rw [OrderedMap.get?_set]
          split
          · next same =>
              subst same
              have identity : Membership.identity { membership with role := role } =
                  membership'.identity :=
                claims _ _ rfl _ (congrArg (Option.map Membership.identity) stored')
              have key : (membership.orgId, membership.userId) =
                  (membership'.orgId, membership'.userId) := (kept.memberships _ _ stored').1
              have row := congrArg some (Membership.eq_of_identity key.symm identity.symm)
              rcases may.2 with ⟨other, names⟩ | ⟨creates, -⟩
              · exact ⟨membership'.role, row, .inr ⟨other, client, rfl,
                  names.imp (fun assigns => ⟨_, assigns⟩) Joins.accepts⟩⟩
              · exact (created creates (by simp [identityOf, stored])).elim
          · exact ⟨role, stored', changed⟩
      | putInvite invite' =>
          refine ⟨evolved.organizations, evolved.memberships, fun id invite stored => ?_,
            evolved.spaces⟩
          rcases evolved.invites id invite stored with ⟨usedAt, usedBy, stored', changed⟩
          show ∃ usedAt usedBy, (db.tenant.invites.set invite'.id invite').get? id =
            some { invite with usedAt := usedAt, usedBy := usedBy } ∧ _
          rw [OrderedMap.get?_set]
          split
          · next same =>
              subst same
              have identity :
                  OrgInvite.identity { invite with usedAt := usedAt, usedBy := usedBy } =
                    invite'.identity :=
                claims _ _ rfl _ (congrArg (Option.map OrgInvite.identity) stored')
              have id : invite.id = invite'.id := (kept.invites _ _ stored').1
              have row := congrArg some (OrgInvite.eq_of_identity id.symm identity.symm)
              have token : invite.token = invite'.token := by
                simp only [OrgInvite.identity, Identity.invite.injEq] at identity
                exact identity.1
              rcases may.2 with ⟨-, used, userId, accepts, usedBy'⟩ | creates
              · exact ⟨invite'.usedAt, invite'.usedBy, row, .inr ⟨used, client, userId, rfl,
                  token ▸ accepts, usedBy'⟩⟩
              · exact (created creates (by simp [identityOf, stored])).elim
          · exact ⟨usedAt, usedBy, stored', changed⟩
      | putSpace space' =>
          refine ⟨evolved.organizations, evolved.memberships, evolved.invites,
            fun id space stored => ?_⟩
          have stored' := evolved.spaces id space stored
          show (db.tenant.spaces.set space'.id space').get? id = some space
          rw [OrderedMap.get?_set]
          split
          · next same =>
              subst same
              exact (created may.2 (by simp [identityOf, stored])).elim
          · exact stored'
      | _ => exact ⟨evolved.organizations, evolved.memberships, evolved.invites, evolved.spaces⟩
  | credit now write => cases write <;> exact evolved
  | _ => exact evolved

theorem evolves_of_sound (uncreated : Uncreated commands client before)
    (kept : RowsKept catalog commands before)
    (sound : ((tenantGrants catalog commands).of client).SoundAll before writes) :
    Evolves commands (· = client) before.tenant (coreEngine.view before writes).tenant :=
  sound.keeps (fun db => Evolves commands (· = client) before.tenant db.tenant) kept (.refl _)
    fun _ _ kept sound evolved => evolved.apply uncreated kept sound

theorem Creates.organization {orgId userId : String}
    (creates : Creates commands client (.membership orgId userId)) :
    Creates commands client (.organization orgId) := by
  rcases creates with ⟨command, mine, member⟩
  refine ⟨command, mine, ?_⟩
  cases command with
  | tenant context command => cases command <;> simp_all [CoreCommand.creates]
  | _ => cases member

/-- The founder of an organization is the user it was created for. -/
theorem Creates.founder {client : Client} {orgId userId : String}
    (creates : Creates commands client (.membership orgId userId)) :
    ∃ context create, commands client = some (.tenant context (.createOrg create)) ∧
      context.id = orgId ∧ create.ownerUserId = userId := by
  rcases creates with ⟨command, mine, member⟩
  cases command with
  | tenant context command =>
      cases command with
      | createOrg create =>
          simp only [CoreCommand.creates, List.mem_cons, reduceCtorEq, false_or,
            TenantKey.membership.injEq, List.not_mem_nil, or_false] at member
          exact ⟨context, create, mine, member.1.symm, member.2.symm⟩
      | _ => simp [CoreCommand.creates] at member
  | _ => cases member

/-- The writes of one client create no row of another. -/
theorem Uncreated.apply (once : CreatedOnce commands) {other : Client} (distinct : other ≠ client)
    (uncreated : Uncreated commands client db)
    (sound : ((tenantGrants catalog commands).of other).Sound db write) :
    Uncreated commands client (coreEngine.apply db write) := by
  intro key creates
  have foreign : ¬ Creates commands other key := fun creates' =>
    distinct (once other client key creates' creates)
  have absent : ∀ key, Creates commands client key → ¬ (identityOf db key).isSome := by
    intro key creates
    simp [uncreated key creates]
  rw [identityOf_apply]
  rcases sound with ⟨-, may⟩
  split
  · next stored one stores =>
      by_cases same : key = stored
      · exfalso
        subst same
        cases write with
        | tenant write =>
            cases write <;> cases stores
            · rcases may.2 with ⟨stored, -⟩ | creates'
              · exact absent _ creates stored
              · exact foreign creates'
            · exact absent _ creates.organization may.1
            · rcases may.2 with ⟨stored, -⟩ | creates'
              · exact absent _ creates stored
              · exact foreign creates'
            · exact foreign may.2
        | _ => cases stores
      · rw [if_neg same]
        exact uncreated key creates
  · exact uncreated key creates

end Commits

section Runs

variable {Client : Type} [DecidableEq Client] {catalog : PermissionCatalog}
  {commands : Client → Option CoreCommand}
  {state next later : Workload.State Client CoreDb CoreWrite CoreError CoreReply}

/-- What the clients commit to the tables of the tenant module. -/
def tenantOutline (catalog : PermissionCatalog) (once : CreatedOnce commands) :
    Outline (coreClients catalog commands) :=
  (tenantGrants catalog commands).outline (by rintro db rfl; exact .empty) (fun _ _ => id)
    (clients_obey once)

theorem rowsKept_of_reachable (once : CreatedOnce commands)
    (reached : (coreClients catalog commands).system.Reachable state) :
    RowsKept catalog commands state.db :=
  (Outline.steady_of_reachable (tenantOutline catalog once) reached).inv

/-- The rows a client creates are not there until it commits. -/
theorem uncreated_of_reachable (once : CreatedOnce commands)
    (reached : (coreClients catalog commands).system.Reachable state) {client : Client}
    (open_ : ∀ entry ∈ state.log, entry.client ≠ client) :
    Uncreated commands client state.db := by
  revert open_
  refine Outline.invariant (tenantOutline catalog once) (J := fun db log =>
    (∀ entry ∈ log, entry.client ≠ client) → Uncreated commands client db) ?_ ?_ ?_ reached
  · rintro db rfl - key -
    cases key <;> rfl
  · exact fun _ _ _ _ change => change.elim
  · rintro db next log other begun reply kept uncreated - ⟨writes, sound, rfl⟩ open_
    have distinct : other ≠ client :=
      open_ ⟨other, begun, reply⟩ (List.mem_append_right _ (List.mem_singleton_self _))
    refine sound.keeps (Uncreated commands client) kept
      (uncreated fun entry member => open_ entry (List.mem_append_left _ member)) ?_
    exact fun _ _ _ sound uncreated => uncreated.apply once distinct sound

/-- The clients that have committed between two states of a run. -/
def Acted (state later : Workload.State Client CoreDb CoreWrite CoreError CoreReply)
    (client : Client) : Prop :=
  (∃ entry ∈ later.log, entry.client = client) ∧ ∀ entry ∈ state.log, entry.client ≠ client

/-- The log only grows. -/
theorem log_grows (leads : (coreClients catalog commands).system.Leads state later) :
    state.log <+: later.log := by
  induction leads with
  | refl => exact List.prefix_rfl
  | tail _ move ih =>
      rcases move with ⟨label, move⟩
      rcases Outline.step_cases move with ⟨-, same⟩ | ⟨change, -⟩ | ⟨_, _, _, _, _, -, -, grown⟩
      · rwa [same]
      · exact change.elim
      · rw [grown]
        exact ih.trans (List.prefix_append _ _)

/-- From one state of a run to the next. -/
theorem Evolves.step (once : CreatedOnce commands)
    (reached : (coreClients catalog commands).system.Reachable state)
    {label : Workload.Label Client}
    (move : (coreClients catalog commands).system.Step state label next) :
    Evolves commands (Acted state next) state.db.tenant next.db.tenant := by
  rcases Outline.step_cases move with ⟨same, -⟩ | ⟨change, -⟩ |
    ⟨client, begun, seen, pending, reply, finished, same, grown⟩
  · rw [same]
    exact .refl _
  · exact change.elim
  · rcases Outline.commit_effect (tenantOutline catalog once) reached finished with
      ⟨open_, writes, sound, view⟩
    rw [same, view]
    refine (evolves_of_sound (uncreated_of_reachable once reached open_)
      (rowsKept_of_reachable once reached) sound).mono ?_
    intro other same
    refine ⟨⟨⟨client, begun, reply⟩, ?_, same.symm⟩, same ▸ open_⟩
    rw [grown]
    exact List.mem_append_right _ (List.mem_singleton_self _)

/-- Whatever commands of all modules run at the same time, no organization, membership, invite or
space is ever deleted. Between two states of a run an archived organization stays archived, a used
invite stays used and nobody becomes an owner; what changes is changed by a command that commits in
between and names the row, and everything else keeps what the row was created with. -/
theorem rows_evolve (once : CreatedOnce commands)
    (reached : (coreClients catalog commands).system.Reachable state)
    (leads : (coreClients catalog commands).system.Leads state later) :
    Evolves commands (Acted state later) state.db.tenant later.db.tenant := by
  induction leads with
  | refl => exact .refl _
  | tail before move ih =>
      rcases move with ⟨label, move⟩
      have grown := log_grows before
      have grown' := log_grows (.single ⟨label, move⟩)
      refine (ih.mono ?_).trans ((Evolves.step once (reached.leads before) move).mono ?_)
      · rintro client ⟨⟨entry, member, own⟩, fresh⟩
        exact ⟨⟨entry, grown'.subset member, own⟩, fresh⟩
      · rintro client ⟨committed, fresh⟩
        exact ⟨committed, fun entry member => fresh entry (grown.subset member)⟩

/-- Whatever commands run at the same time, nobody but the user an organization was created for is
ever its owner, so it has one owner at most; and what is stored for a role is a permission of the
catalog or a default of the role, never anything for the owner. -/
theorem no_escalation (once : CreatedOnce commands)
    (reached : (coreClients catalog commands).system.Reachable state) :
    (∀ orgId userId, IsOwner state.db.tenant orgId userId →
      ∃ client context create, commands client = some (.tenant context (.createOrg create)) ∧
        context.id = orgId ∧ create.ownerUserId = userId) ∧
    (∀ orgId first second, IsOwner state.db.tenant orgId first →
      IsOwner state.db.tenant orgId second → first = second) ∧
    ∀ row ∈ state.db.tenant.rolePermissions, Grantable catalog row.toOrgRolePermission := by
  have kept := rowsKept_of_reachable once reached
  have owner : ∀ orgId userId, IsOwner state.db.tenant orgId userId →
      ∃ client, Creates commands client (.membership orgId userId) := by
    rintro orgId userId ⟨membership, stored, role⟩
    have own := kept.memberships _ _ stored
    rcases Prod.mk.inj own.1 with ⟨org, user⟩
    rw [← org, ← user]
    exact own.2.2 role
  refine ⟨?_, ?_, kept.permissions⟩
  · intro orgId userId isOwner
    rcases owner orgId userId isOwner with ⟨client, creates⟩
    exact ⟨client, creates.founder⟩
  · intro orgId first second isOwner isOwner'
    rcases owner orgId first isOwner with ⟨client, creates⟩
    rcases owner orgId second isOwner' with ⟨client', creates'⟩
    obtain rfl := once client client' _ creates.organization creates'.organization
    rcases creates.founder with ⟨context, create, mine, -, rfl⟩
    rcases creates'.founder with ⟨context', create', mine', -, rfl⟩
    cases mine.symm.trans mine'
    rfl

end Runs

/-- An organization is created, and archived by another client. -/
def archiving : ℕ → Option CoreCommand
  | 0 => some (.tenant acmeCreated.1 acmeCreated.2)
  | 1 => some (.tenant ⟨"", "", 5⟩ (.archiveOrg ⟨"org-1"⟩))
  | _ => none

theorem createdOnce_archiving : CreatedOnce archiving := by
  refine createdOnce_of_creator (fun _ => 0) ?_
  rintro (_ | _ | client) key ⟨command, mine, member⟩
  · rfl
  all_goals cases mine
  cases member

/-- The organization in the database of the service. -/
def acmeCore : CoreDb := coreEngine.view .empty (acmeWrites.map .tenant)

theorem reachable_acmeCore :
    (coreClients namedCatalog archiving).system.Reachable
      (Workload.State.commit (coreClients namedCatalog archiving) ⟨.empty, [], fun _ => .idle⟩ 0
        .empty (.tenant (.id "org-1")) (acmeWrites.map .tenant)) := by
  have start : (coreClients namedCatalog archiving).system.Reachable
      ⟨.empty, [], fun _ => .idle⟩ := .initial ⟨rfl, rfl, fun _ => rfl⟩
  refine Workload.reachable_commit start 0 (.inl rfl) (fun _ _ => rfl)
    (.of_all (fun _ _ => trivial) _ _ _) ?_
  show _ = Except.ok (CoreReply.tenant (.id "org-1"), acmeWrites.map CoreWrite.tenant)
  decide +kernel

theorem rows_evolve_archived : ∃ later : CoreDb,
    (∃ acted, Evolves archiving acted acmeCore.tenant later.tenant) ∧
      ∃ org, later.tenant.organizations.get? "org-1" = some org ∧ org.deletedAt = some 5 := by
  have archives := Workload.leads_alone (coreClients namedCatalog archiving)
    (Workload.State.commit (coreClients namedCatalog archiving) ⟨.empty, [], fun _ => .idle⟩ 0
        .empty (.tenant (.id "org-1")) (acmeWrites.map .tenant)) 1 (.inl rfl)
    (fun other _ => by rcases other with _ | other <;> rfl) (.of_all (fun _ _ => trivial) _ _ _)
    (show _ = Except.ok (CoreReply.tenant .done, [CoreWrite.tenant (.putOrganization
      ⟨"org-1", "Acme", "acme", 10, 0, some 5⟩)]) by decide +kernel)
  refine ⟨_, ⟨_, rows_evolve createdOnce_archiving reachable_acmeCore archives⟩,
    ⟨"org-1", "Acme", "acme", 10, 0, some 5⟩, ?_, rfl⟩
  decide +kernel

/-- Alice founds an organization and invites Bob, who joins it and is made an administrator. -/
def promoting : ℕ → Option CoreCommand
  | 0 => some (.tenant acmeCreated.1 acmeCreated.2)
  | 1 => some (.tenant memberInvited.1 memberInvited.2)
  | 2 => some (.tenant memberJoined.1 memberJoined.2)
  | 3 => some (.tenant memberPromoted.1 memberPromoted.2)
  | _ => none

/-- An invite is created by the second client, everything else by the first. -/
def secondInvites : TenantKey → ℕ
  | .invite _ => 1
  | _ => 0

theorem createdOnce_promoting : CreatedOnce promoting := by
  refine createdOnce_of_creator secondInvites ?_
  rintro (_ | _ | _ | _ | client) key ⟨command, mine, member⟩
  all_goals cases mine
  · rcases List.mem_cons.mp member with rfl | member
    · rfl
    · cases List.mem_singleton.mp member
      rfl
  · cases List.mem_singleton.mp member
    rfl
  · cases member
  · cases member

theorem no_escalation_promoted : ∃ db : TenantDb,
    db.memberships.get? ("org-1", "bob") = some promotedMember ∧
      (∀ userId, IsOwner db "org-1" userId → userId = "alice") ∧
      ∀ row ∈ db.rolePermissions, Grantable namedCatalog row.toOrgRolePermission := by
  have start : (coreClients namedCatalog promoting).system.Reachable
      ⟨.empty, [], fun _ => .idle⟩ := .initial ⟨rfl, rfl, fun _ => rfl⟩
  have created := Workload.reachable_commit start 0 (.inl rfl) (fun _ _ => rfl)
    (.of_all (fun _ _ => trivial) _ _ _)
    (show _ = Except.ok (CoreReply.tenant (.id "org-1"), acmeWrites.map CoreWrite.tenant) by
      decide +kernel)
  have invited := Workload.reachable_commit created 1 (.inl rfl)
    (fun other _ => by rcases other with _ | other <;> rfl) (.of_all (fun _ _ => trivial) _ _ _)
    (show _ = Except.ok (CoreReply.tenant (.id "join"), [CoreWrite.tenant (.putInvite openInvite)])
      by decide +kernel)
  have joined := Workload.reachable_commit invited 2 (.inl rfl)
    (fun other _ => by rcases other with _ | _ | other <;> rfl)
    (.of_all (fun _ _ => trivial) _ _ _)
    (show _ = Except.ok (CoreReply.tenant (.joined "org-1" memberRole),
      joinedWrites.map CoreWrite.tenant) by decide +kernel)
  have promoted := Workload.reachable_commit joined 3 (.inl rfl)
    (fun other _ => by rcases other with _ | _ | _ | other <;> rfl)
    (.of_all (fun _ _ => trivial) _ _ _)
    (show _ = Except.ok (CoreReply.tenant .done,
      [CoreWrite.tenant (.putMembership promotedMember)]) by decide +kernel)
  have safe := no_escalation createdOnce_promoting promoted
  refine ⟨_, rfl, fun userId isOwner => ?_, safe.2.2⟩
  refine safe.2.1 "org-1" userId "alice" isOwner ?_
  exact ⟨Membership.createOwner "membership-1" 0 "org-1" "alice", by decide +kernel, rfl⟩

end CoreApi
