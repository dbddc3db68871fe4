import CoreApi.Http.Admission
import CoreApi.Tenant.History

/-!
# Where the rights in an organization come from

Requests are served at the same time, and the guard in front of each reads the committed
database on its own before the command begins. Every role and every permission in the
tables still goes back to the founding of its organization: a request that has committed
gave it, and the guard let that request in because of rights that go back as far.
-/

namespace CoreApi

open Tenant PrismaMembershipQueryRepository

section Commands

variable {Client : Type} {requests : Client → Option CoreRequest} {client : Client}

/-- What the client of a command of the tenant module has asked for. -/
theorem asked_of_command {context : TenantContext} {command : TenantCommand}
    (mine : commandsOf requests client = some (.tenant context command)) :
    (∃ request route, requests client = some (.routed request) ∧ request.route = .org route ∧
      OrgController.command request.user request.org request.draw route = some command ∧
      context.id = request.draw.id) ∨
    ∃ internal, requests client = some (.internal internal) ∧
      internal.command = .tenant context command := by
  rcases request_of_command mine with ⟨request, asked, made⟩ | internal
  · cases made with
    | org named made => exact .inl ⟨request, _, asked, named, made, rfl⟩
    | @engagement route _ named made => cases route <;> cases made
  · exact .inr internal

theorem founds_of_command {context : TenantContext} {command : CreateOrgCommand}
    (mine : commandsOf requests client = some (.tenant context (.createOrg command))) :
    requests client = some (.internal (.createOrg context command)) := by
  rcases asked_of_command mine with ⟨request, route, -, -, made, -⟩ | ⟨internal, asked, same⟩
  · cases route <;> simp [OrgController.command] at made
  · cases internal <;> cases same
    exact asked

theorem invites_of_command {context : TenantContext} {command : CreateInviteCommand}
    (mine : commandsOf requests client = some (.tenant context (.createInvite command))) :
    ∃ request body, requests client = some (.routed request) ∧
      request.route = .org (.createInvite body) ∧ context.id = request.draw.id ∧
      command = OrgController.createInvite request.user request.org request.draw body := by
  rcases asked_of_command mine with ⟨request, route, asked, own, made, drew⟩ | ⟨internal, -, same⟩
  · cases route with
    | createInvite body =>
        cases made
        exact ⟨request, body, asked, own, drew, rfl⟩
    | _ => simp [OrgController.command] at made
  · cases internal <;> cases same

theorem accepts_of_command {context : TenantContext} {command : AcceptInviteCommand}
    (mine : commandsOf requests client = some (.tenant context (.acceptInvite command))) :
    ∃ request body, requests client = some (.routed request) ∧
      request.route = .org (.acceptInvite body) ∧
      command = OrgController.acceptInvite request.user body := by
  rcases asked_of_command mine with ⟨request, route, asked, own, made, -⟩ | ⟨internal, -, same⟩
  · cases route with
    | acceptInvite body =>
        cases made
        exact ⟨request, body, asked, own, rfl⟩
    | _ => simp [OrgController.command] at made
  · cases internal <;> cases same

theorem assigns_of_command {context : TenantContext} {command : UpdateMemberRoleCommand}
    (mine : commandsOf requests client = some (.tenant context (.updateMemberRole command))) :
    ∃ request targetUserId body, requests client = some (.routed request) ∧
      request.route = .org (.updateMemberRole targetUserId body) ∧
      command = OrgController.updateMemberRole request.user request.org targetUserId body := by
  rcases asked_of_command mine with ⟨request, route, asked, own, made, -⟩ | ⟨internal, -, same⟩
  · cases route with
    | updateMemberRole targetUserId body =>
        cases made
        exact ⟨request, targetUserId, body, asked, own, rfl⟩
    | _ => simp [OrgController.command] at made
  · cases internal <;> cases same

theorem lists_of_command {context : TenantContext} {command : UpdateRolePermissionsCommand}
    (mine : commandsOf requests client = some (.tenant context (.updateRolePermissions command))) :
    ∃ request role body, requests client = some (.routed request) ∧
      request.route = .org (.updateRolePermissions role body) ∧
      OrgController.updateRolePermissions request.user request.org role body = some command := by
  rcases asked_of_command mine with ⟨request, route, asked, own, made, -⟩ | ⟨internal, -, same⟩
  · cases route with
    | updateRolePermissions role body =>
        rcases Option.map_eq_some_iff.mp made with ⟨command, made, same⟩
        cases same
        exact ⟨request, role, body, asked, own, made⟩
    | _ => simp [OrgController.command] at made
  · cases internal <;> cases same

theorem founds_of_creates {commands : Client → Option CoreCommand} {orgId : String}
    (creates : Creates commands client (.organization orgId)) :
    ∃ context create, commands client = some (.tenant context (.createOrg create)) ∧
      context.id = orgId := by
  rcases creates with ⟨command, mine, member⟩
  cases command with
  | tenant context command =>
      cases command with
      | createOrg create =>
          refine ⟨context, create, mine, ?_⟩
          simpa [CoreCommand.creates, eq_comm] using member
      | _ => simp [CoreCommand.creates] at member
  | _ => cases member

theorem invites_of_creates {commands : Client → Option CoreCommand} {id : String}
    (creates : Creates commands client (.invite id)) :
    ∃ context invite, commands client = some (.tenant context (.createInvite invite)) ∧
      context.id = id := by
  rcases creates with ⟨command, mine, member⟩
  cases command with
  | tenant context command =>
      cases command with
      | createInvite invite =>
          refine ⟨context, invite, mine, ?_⟩
          simpa [CoreCommand.creates, eq_comm] using member
      | _ => simp [CoreCommand.creates] at member
  | _ => cases member

end Commands

/-- What somebody may come by in an organization: a role, a permission for everybody with a role,
and to be let in with a permission. -/
inductive Right where
  | role (orgId userId : String) (role : OrgRole)
  | permission (orgId : String) (role : OrgRole) (permission : String)
  | admission (orgId userId : String) (permission : OrgPermission)

section Entitlement

variable {Client : Type} [DecidableEq Client] (catalog : PermissionCatalog)
  (requests : Client → Option CoreRequest)

/-- A right that goes back to the founding of the organization, by requests that have committed and
that the guard let in for a right of the same kind. -/
inductive Entitled : ServiceState Client → Right → Prop where
  | founder {state : ServiceState Client} {client : Client} {context : TenantContext}
      {command : CreateOrgCommand}
      (ran : Ran requests state client (.internal (.createOrg context command))) :
      Entitled state (.role context.id command.ownerUserId .owner)
  | default {state : ServiceState Client} {client : Client} {context : TenantContext}
      {command : CreateOrgCommand} {row : OrgRolePermission}
      (ran : Ran requests state client (.internal (.createOrg context command)))
      (own : row.orgId = context.id) (default : IsDefault catalog row) :
      Entitled state (.permission row.orgId row.role row.permission)
  | joined {state : ServiceState Client} {inviter guest : Client} {invite accept : RoutedRequest}
      {offer : CreateInviteDto} (invites : Ran requests state inviter (.routed invite))
      (offers : invite.route = .org (.createInvite offer))
      (entitled : Entitled state (.admission invite.org invite.user .orgManageMembers))
      (accepts : Ran requests state guest (.routed accept))
      (takes : accept.route = .org (.acceptInvite ⟨invite.draw.token⟩)) :
      Entitled state (.role invite.org accept.user offer.role)
  | assigned {state : ServiceState Client} {client : Client} {request : RoutedRequest}
      {userId : String} {body : UpdateMemberRoleDto}
      (ran : Ran requests state client (.routed request))
      (assigns : request.route = .org (.updateMemberRole userId body))
      (entitled : Entitled state (.admission request.org request.user .orgManageMembers)) :
      Entitled state (.role request.org userId body.role)
  | listed {state : ServiceState Client} {client : Client} {request : RoutedRequest}
      {text permission : String} {role : ManageableOrgRole} {body : UpdateRolePermissionsDto}
      (ran : Ran requests state client (.routed request))
      (lists : request.route = .org (.updateRolePermissions text body))
      (parsed : ManageableOrgRoleSchema.parse text = some role)
      (asked : permission ∈ body.permissions)
      (entitled : Entitled state (.admission request.org request.user .orgManageRoles)) :
      Entitled state (.permission request.org role permission)
  | owner {earlier state : ServiceState Client} {orgId userId : String}
      {permission : OrgPermission} (entitled : Entitled earlier (.role orgId userId .owner))
      (stored : findRoleByOrgAndUser earlier.base.db.tenant orgId userId = some .owner)
      (leads : (service catalog requests).Leads earlier state)
      (known : catalog.code permission ∈ catalog.allOrgPermissions) :
      Entitled state (.admission orgId userId permission)
  | member {first second state : ServiceState Client} {orgId userId : String} {role : OrgRole}
      {permission : OrgPermission} (entitled : Entitled first (.role orgId userId role))
      (stored : findRoleByOrgAndUser first.base.db.tenant orgId userId = some role)
      (after : (service catalog requests).Leads first second)
      (conveyed : Entitled second (.permission orgId role (catalog.code permission)))
      (listed : ⟨orgId, role, catalog.code permission⟩ ∈
        second.base.db.tenant.rolePermissions.map StoredPermission.toOrgRolePermission)
      (leads : (service catalog requests).Leads second state) :
      Entitled state (.admission orgId userId permission)

/-- The invite was made by a request for that role. -/
def Invited (state : ServiceState Client) (token orgId : String) (role : ManageableOrgRole) :
    Prop :=
  ∃ client invite offer, Ran requests state client (.routed invite) ∧
    invite.route = .org (.createInvite offer) ∧ invite.draw.token = token ∧ invite.org = orgId ∧
    offer.role = role ∧
    Entitled catalog requests state (.admission invite.org invite.user .orgManageMembers)

/-- The rights in the tables all go back to the founding of their organizations. -/
structure Traced (state : ServiceState Client) (db : CoreDb) : Prop where
  memberships : db.tenant.memberships.All fun key membership =>
    Entitled catalog requests state (.role key.1 key.2 membership.role)
  permissions : ∀ row ∈ db.tenant.rolePermissions,
    Entitled catalog requests state (.permission row.orgId row.role row.permission)
  invites : db.tenant.invites.All fun _ invite =>
    Invited catalog requests state invite.token invite.orgId invite.role

variable {catalog requests} {state next : ServiceState Client} {client : Client}

theorem Ran.later {request : CoreRequest} (ran : Ran requests state client request)
    (leads : (service catalog requests).Leads state next) : Ran requests next client request := by
  rcases ran with ⟨asked, entry, member, own⟩
  exact ⟨asked, entry, (log_grows (Gate.base_leads leads)).subset member, own⟩

theorem Entitled.later {right : Right} (entitled : Entitled catalog requests state right)
    (leads : (service catalog requests).Leads state next) :
    Entitled catalog requests next right := by
  induction entitled with
  | founder ran => exact .founder (ran.later leads)
  | default ran own default => exact .default (ran.later leads) own default
  | joined invites offers _ accepts takes ih =>
      exact .joined (invites.later leads) offers (ih leads) (accepts.later leads) takes
  | assigned ran assigns _ ih => exact .assigned (ran.later leads) assigns (ih leads)
  | listed ran lists parsed asked _ ih =>
      exact .listed (ran.later leads) lists parsed asked (ih leads)
  | owner entitled stored before known _ => exact .owner entitled stored (before.trans leads) known
  | member entitled stored after conveyed listed before _ _ =>
      exact .member entitled stored after conveyed listed (before.trans leads)

theorem Traced.later {db : CoreDb} (traced : Traced catalog requests state db)
    (leads : (service catalog requests).Leads state next) : Traced catalog requests next db where
  memberships := traced.memberships.mono fun _ _ entitled => entitled.later leads
  permissions row member := (traced.permissions row member).later leads
  invites := traced.invites.mono fun _ _ ⟨client, invite, offer, ran, offers, token, org, role,
    entitled⟩ => ⟨client, invite, offer, ran.later leads, offers, token, org, role,
      entitled.later leads⟩

/-- Whoever was let in with a permission was entitled to it. -/
theorem admission_of_saw {orgId userId : String} {permissions : List OrgPermission}
    {permission : OrgPermission}
    (saw : Saw catalog requests (fun state => Traced catalog requests state state.base.db) state
      orgId userId permissions) (member : permission ∈ permissions) :
    Entitled catalog requests state (.admission orgId userId permission) := by
  rcases saw with ⟨first, second, role, traced, traced', after, leads, stored, resolves⟩
  have resolved := resolves permission member
  rcases Option.map_eq_some_iff.mp stored with ⟨membership, found, rfl⟩
  have entitled := traced.memberships _ _ found
  by_cases owner : membership.role = .owner
  · simp only [OrgPermissionResolver.resolve, owner, if_true] at resolved
    exact .owner (owner ▸ entitled) (owner ▸ stored) (after.trans leads) resolved
  · simp only [OrgPermissionResolver.resolve, owner, if_false,
      PrismaOrgRolePermissionReaderRepository.findByOrgAndRole,
      PrismaOrgRolePermissionRepository.ofRole, List.mem_map, List.mem_filter,
      decide_eq_true_eq] at resolved
    rcases resolved with ⟨row, ⟨among, org, role⟩, same⟩
    have conveyed := traced'.permissions row among
    rw [org, role, same] at conveyed
    refine .member entitled stored after conveyed (List.mem_map.mpr ⟨row, among, ?_⟩) leads
    rw [← org, ← role, ← same]

section Commits

variable {db : CoreDb} {write : CoreWrite}
  (ran : ∀ request, requests client = some request → Ran requests state client request)
  (admitted : ∀ request permissions permission, requests client = some (.routed request) →
    request.route.requires = some permissions → permission ∈ permissions →
    Entitled catalog requests state (.admission request.org request.user permission))

include ran admitted

theorem entitled_of_assigns {orgId userId : String} {role : OrgRole}
    (assigns : Assigns (commandsOf requests) client orgId userId role) :
    Entitled catalog requests state (.role orgId userId role) := by
  rcases assigns with ⟨context, update, mine, rfl, rfl, rfl⟩
  rcases assigns_of_command mine with ⟨request, userId, body, asked, route, rfl⟩
  have requires : request.route.requires = some [.orgManageMembers] := by
    rw [route]
    rfl
  exact .assigned (ran _ asked) route (admitted request _ _ asked requires List.mem_cons_self)

theorem entitled_of_lists {row : OrgRolePermission}
    (lists : Lists (commandsOf requests) client row) :
    Entitled catalog requests state (.permission row.orgId row.role row.permission) := by
  rcases lists with ⟨context, update, mine, org, role, member⟩
  rcases lists_of_command mine with ⟨request, text, body, asked, route, made⟩
  rcases Option.map_eq_some_iff.mp made with ⟨parsed, parses, rfl⟩
  have requires : request.route.requires = some [.orgManageRoles] := by
    rw [route]
    rfl
  rw [← org, ← role]
  exact .listed (ran _ asked) route parses member
    (admitted request _ _ asked requires List.mem_cons_self)

omit admitted in
theorem entitled_of_joins {membership : Membership} (traced : Traced catalog requests state db)
    (joins : Joins (commandsOf requests) client (identityOf db) membership) :
    Entitled catalog requests state
      (.role membership.orgId membership.userId membership.role) := by
  rcases joins with ⟨token, id, role, createdBy, expiresAt, ⟨context, mine⟩, invited, same⟩
  rcases Option.map_eq_some_iff.mp invited with ⟨invite, stored, identity⟩
  simp only [OrgInvite.identity, Identity.invite.injEq] at identity
  rcases identity with ⟨rfl, org, rfl, -, -⟩
  rcases accepts_of_command mine with ⟨accept, body, asked, takes, accepts⟩
  rcases traced.invites id invite stored with ⟨inviter, request, offer, invites, offers, token,
    org', role, entitled⟩
  simp only [OrgController.acceptInvite, AcceptInviteCommand.mk.injEq] at accepts
  rcases accepts with ⟨token', user⟩
  have takes' : accept.route = .org (.acceptInvite ⟨request.draw.token⟩) := by
    rw [takes, token, token']
  rw [← org, ← org', same, ← role, user]
  exact .joined invites offers entitled (ran _ asked) takes'

/-- An invite that is stored names what the request that created it asked for. -/
theorem invited_of_creates (once : CreatedOnce (commandsOf requests)) {invite : OrgInvite}
    (drawn : Drawn (commandsOf requests) (.invite invite.id) invite.identity)
    (creates : Creates (commandsOf requests) client (.invite invite.id)) :
    Invited catalog requests state invite.token invite.orgId invite.role := by
  rcases invites_of_creates creates with ⟨context, create, mine, same⟩
  have own : Drawn (commandsOf requests) (.invite context.id)
      (OrgInvite.create context.id create.token create.orgId create.role create.createdBy
        create.expiresAt).identity := ⟨client, _, mine, rfl⟩
  rw [same] at own
  have identity := drawn_unique once drawn own
  simp only [OrgInvite.identity, OrgInvite.create, Identity.invite.injEq] at identity
  rcases identity with ⟨token, org, role, -, -⟩
  rcases invites_of_command mine with ⟨request, offer, asked, offers, -, rfl⟩
  have requires : request.route.requires = some [.orgManageMembers] := by
    rw [offers]
    rfl
  exact ⟨client, request, offer, ran _ asked, offers, token.symm, org.symm, role.symm,
    admitted request _ _ asked requires List.mem_cons_self⟩

/-- What a client that was let in writes goes back as far. -/
theorem Traced.apply (once : CreatedOnce (commandsOf requests))
    (traced : Traced catalog requests state db)
    (sound : ((tenantGrants catalog (commandsOf requests)).of client).Sound db write) :
    Traced catalog requests state (coreEngine.apply db write) := by
  rcases sound with ⟨claims, may⟩
  cases write with
  | tenant write =>
      cases write with
      | putMembership membership =>
          refine { traced with memberships := traced.memberships.set ?_ }
          rcases may.2 with ⟨-, assigns | joins⟩ | ⟨creates, owner⟩
          · exact entitled_of_assigns ran admitted assigns
          · exact entitled_of_joins ran traced joins
          · rcases creates.founder with ⟨context, create, mine, org, user⟩
            rw [owner, ← org, ← user]
            exact .founder (ran _ (founds_of_command mine))
      | putInvite invite =>
          refine { traced with invites := traced.invites.set ?_ }
          rcases may with ⟨drawn, ⟨stored, -⟩ | creates⟩
          · rcases Option.isSome_iff_exists.mp stored with ⟨one, owned⟩
            obtain rfl := claims _ _ rfl _ owned
            rcases Option.map_eq_some_iff.mp owned with ⟨row, found, identity⟩
            simp only [OrgInvite.identity, Identity.invite.injEq] at identity
            rcases identity with ⟨token, org, role, -, -⟩
            rw [← token, ← org, ← role]
            exact traced.invites _ row found
          · exact invited_of_creates ran admitted once drawn creates
      | insertPermission row =>
          refine { traced with permissions := fun stored member => ?_ }
          rcases List.mem_append.mp member with old | new
          · exact traced.permissions stored old
          · rw [List.mem_singleton.mp new]
            rcases may.2 with lists | ⟨default, creates⟩
            · exact entitled_of_lists ran admitted lists
            · rcases founds_of_creates creates with ⟨context, create, mine, same⟩
              exact .default (ran _ (founds_of_command mine)) same.symm default
      | deletePermission row =>
          exact { traced with permissions := fun stored member =>
            traced.permissions stored (List.mem_of_mem_filter member) }
      | _ => exact { traced with }
  | credit now write => cases write <;> exact { traced with }
  | _ => exact { traced with }

end Commits

/-- From one state of a run to the next. -/
theorem Traced.step (once : CreatedOnce (commandsOf requests))
    (reached : (service catalog requests).Reachable state)
    (traced : Traced catalog requests state state.base.db)
    (readings : ∀ client, Gate.Readings (coreClients catalog (commandsOf requests))
      (checksOf catalog requests) (fun state => Traced catalog requests state state.base.db) state
      client)
    {label : Client ⊕ Workload.Label Client}
    (move : (service catalog requests).Step state label next) :
    Traced catalog requests next next.base.db := by
  have leads : (service catalog requests).Leads state next := .single ⟨label, move⟩
  cases move with
  | look asks => exact traced.later leads
  | @work label base move passed =>
      rcases Outline.step_cases move with ⟨same, -⟩ | ⟨change, -⟩ |
        ⟨client, begun, seen, pending, reply, finished, same, grown⟩
      · dsimp only
        rw [same]
        exact traced.later leads
      · exact change.elim
      · have running : state.base.session client ≠ .idle := by simp [finished]
        rcases Gate.passed_of_begun reached running with ⟨pass, done⟩
        rcases Outline.commit_effect (tenantOutline catalog once) (Gate.base_reachable reached)
          finished with ⟨-, writes, sound, view⟩
        have kept := rowsKept_of_reachable once (Gate.base_reachable reached)
        have ran : ∀ request, requests client = some request →
            Ran requests { state with base := base } client request := by
          intro request asked
          refine ⟨asked, ⟨client, begun, reply⟩, ?_, rfl⟩
          dsimp only
          rw [grown]
          exact List.mem_append_right _ (List.mem_singleton_self _)
        have admitted : ∀ request permissions permission,
            requests client = some (.routed request) →
            request.route.requires = some permissions → permission ∈ permissions →
            Entitled catalog requests { state with base := base }
              (.admission request.org request.user permission) := by
          intro request permissions permission asked requires member
          exact (admission_of_saw (saw_of_passed (readings client) done asked requires).2
            member).later leads
        dsimp only
        rw [same, view]
        refine sound.keeps (Traced catalog requests { state with base := base }) kept
          (traced.later leads) ?_
        exact fun db write _ sound traced => traced.apply ran admitted once sound

theorem traced_of_reachable (once : CreatedOnce (commandsOf requests))
    (reached : (service catalog requests).Reachable state) :
    Traced catalog requests state state.base.db ∧ ∀ client, Gate.Readings
      (coreClients catalog (commandsOf requests)) (checksOf catalog requests)
      (fun state => Traced catalog requests state state.base.db) state client := by
  refine Gate.invariant (fun state => Traced catalog requests state state.base.db) ?_ ?_ reached
  · rintro start ⟨⟨empty, -, -⟩, -⟩
    rw [empty]
    exact ⟨.empty, fun row member => absurd member List.not_mem_nil, .empty⟩
  · intro before label after reached traced readings move
    exact traced.step once reached readings move

/-- Whoever has committed past a guard was entitled to what the route requires. -/
theorem entitled_of_ran (once : CreatedOnce (commandsOf requests))
    (reached : (service catalog requests).Reachable state) {request : RoutedRequest}
    {permissions : List OrgPermission} {permission : OrgPermission}
    (ran : Ran requests state client (.routed request))
    (requires : request.route.requires = some permissions) (member : permission ∈ permissions) :
    Entitled catalog requests state (.admission request.org request.user permission) := by
  rcases ran with ⟨asked, entry, committed, rfl⟩
  rcases Gate.passed_of_committed reached committed with ⟨pass, passed⟩
  have readings := (traced_of_reachable once reached).2 entry.client
  exact admission_of_saw (saw_of_passed readings passed asked requires).2 member

/-- Whatever requests are served at the same time, the role of every member and every permission of
a role goes back to the founding of the organization: step by step it was given by a request that
has committed and that the guard let in because of a right given like that before. -/
theorem rights_granted (once : CreatedOnce (commandsOf requests))
    (reached : (service catalog requests).Reachable state) :
    (∀ orgId userId role, findRoleByOrgAndUser state.base.db.tenant orgId userId = some role →
      Entitled catalog requests state (.role orgId userId role)) ∧
    ∀ row ∈ state.base.db.tenant.rolePermissions,
      Entitled catalog requests state (.permission row.orgId row.role row.permission) := by
  have traced := (traced_of_reachable once reached).1
  refine ⟨fun orgId userId role stored => ?_, traced.permissions⟩
  rcases Option.map_eq_some_iff.mp stored with ⟨membership, found, rfl⟩
  exact traced.memberships _ _ found

end Entitlement

/-- Alice founds an organization and invites an administrator, and Bob accepts. -/
def inviting : ℕ → Option CoreRequest
  | 0 => some (.internal (.createOrg acmeCreated.1 ⟨"Acme", "acme", "alice"⟩))
  | 1 => some (.routed ⟨"alice", some "org-1", ⟨"invite-1", "", "token-1", "", 1, 1⟩,
      .org (.createInvite ⟨adminRole, 24⟩)⟩)
  | 2 => some (.routed ⟨"bob", none, ⟨"", "membership-2", "", "", 2, 2⟩,
      .org (.acceptInvite ⟨"token-1"⟩)⟩)
  | _ => none

/-- The invite that Bob accepts. -/
def bobInvited : OrgInvite :=
  OrgInvite.create "invite-1" "token-1" "org-1" adminRole "alice" 86400001

theorem createdOnce_inviting : CreatedOnce (commandsOf inviting) := by
  refine createdOnce_of_creator secondInvites ?_
  rintro (_ | _ | _ | client) key ⟨command, mine, member⟩
  all_goals cases mine
  · rcases List.mem_cons.mp member with rfl | member
    · rfl
    · cases List.mem_singleton.mp member
      rfl
  · cases List.mem_singleton.mp member
    rfl
  · cases member

theorem rights_granted_bob : ∃ state : ServiceState ℕ,
    (service namedCatalog inviting).Reachable state ∧
      Entitled namedCatalog inviting state (.role "org-1" "bob" .admin) := by
  have start : (service namedCatalog inviting).Reachable
      ⟨⟨.empty, [], fun _ => .idle⟩, checksOf namedCatalog inviting⟩ :=
    .initial ⟨⟨rfl, rfl, fun _ => rfl⟩, rfl⟩
  have founded := Gate.reachable_commit start 0 (show _ = Except.ok none from rfl) (.inl rfl)
    (fun _ _ => rfl) (.of_all (fun _ _ => trivial) _ _ _)
    (show _ = Except.ok (CoreReply.tenant (.id "org-1"), acmeWrites.map CoreWrite.tenant) by
      decide +kernel)
  have invited := Gate.reachable_commit founded 1
    (show _ = Except.ok (some ⟨"org-1", .owner, namedCatalog.allOrgPermissions⟩) by decide +kernel)
    (.inl rfl) (fun other _ => by rcases other with _ | other <;> rfl)
    (.of_all (fun _ _ => trivial) _ _ _)
    (show _ = Except.ok (CoreReply.tenant (.id "token-1"),
      [CoreWrite.tenant (.putInvite bobInvited)]) by decide +kernel)
  have joined := Gate.reachable_commit invited 2 (show _ = Except.ok none from rfl) (.inl rfl)
    (fun other _ => by rcases other with _ | _ | other <;> rfl)
    (.of_all (fun _ _ => trivial) _ _ _)
    (show _ = Except.ok (CoreReply.tenant (.joined "org-1" adminRole),
      [CoreWrite.tenant (.putMembership (Membership.createMember "membership-2" 2 "org-1" "bob"
        adminRole)),
        CoreWrite.tenant (.putInvite (bobInvited.accept 2 "bob"))]) by decide +kernel)
  exact ⟨_, joined, (rights_granted createdOnce_inviting joined).1 "org-1" "bob" .admin
    (by decide +kernel)⟩

end CoreApi
