import CoreApi.Tenant.Entitlement
import CoreApi.Tenant.RolePermissions

/-!
# Who manages the roles

No role may change the permissions of roles when an organization is founded, only its
owner may. Somebody else can do so later, and then because the founder has handed that
permission out.
-/

namespace CoreApi

open Tenant

section Delegation

variable {Client : Type} [DecidableEq Client] (catalog : PermissionCatalog)
  (requests : Client → Option CoreRequest)

/-- A user is the owner for whom an organization was created. -/
def Founds (state : ServiceState Client) (orgId userId : String) : Prop :=
  ∃ client context command, Ran requests state client (.internal (.createOrg context command)) ∧
    context.id = orgId ∧ command.ownerUserId = userId

/-- A user has given a permission to a role that can be given any. -/
def HandsOut (state : ServiceState Client) (orgId userId : String) (permission : OrgPermission) :
    Prop :=
  ∃ client request text role body, Ran requests state client (.routed request) ∧
    request.org = orgId ∧ request.user = userId ∧
    request.route = .org (.updateRolePermissions text body) ∧
    ManageableOrgRoleSchema.parse text = some role ∧
    catalog.code permission ∈ body.permissions

/-- Where a right comes from if it lets its holder manage roles. -/
def FromFounder (state : ServiceState Client) : Right → Prop
  | .role orgId userId role => role = .owner → Founds requests state orgId userId
  | .permission orgId _ permission => permission = catalog.code .orgManageRoles →
      ∃ founder, Founds requests state orgId founder ∧
        HandsOut catalog requests state orgId founder .orgManageRoles
  | .admission orgId userId permission => permission = .orgManageRoles →
      ∃ founder, Founds requests state orgId founder ∧
        (userId = founder ∨ HandsOut catalog requests state orgId founder .orgManageRoles)

variable {catalog requests} {state next : ServiceState Client}

theorem Founds.later {orgId userId : String} (founds : Founds requests state orgId userId)
    (leads : (service catalog requests).Leads state next) : Founds requests next orgId userId := by
  rcases founds with ⟨client, context, command, ran, org, user⟩
  exact ⟨client, context, command, ran.later leads, org, user⟩

theorem HandsOut.later {orgId userId : String} {permission : OrgPermission}
    (handsOut : HandsOut catalog requests state orgId userId permission)
    (leads : (service catalog requests).Leads state next) :
    HandsOut catalog requests next orgId userId permission := by
  rcases handsOut with ⟨client, request, text, role, body, ran, names⟩
  exact ⟨client, request, text, role, body, ran.later leads, names⟩

/-- No role has the permission by default. -/
theorem not_isDefault_manageRoles (distinct : Function.Injective catalog.code)
    {row : OrgRolePermission} (same : row.permission = catalog.code .orgManageRoles) :
    ¬ IsDefault catalog row := by
  rintro ⟨permissions, listed, member⟩
  rw [same] at member
  rcases List.mem_map.mp member with ⟨permission, among, code⟩
  obtain rfl := distinct code
  revert among
  simp only [defaultRolePermissions, List.mem_cons, Prod.mk.injEq, List.not_mem_nil,
    or_false] at listed
  rcases listed with ⟨-, rfl⟩ | ⟨-, rfl⟩ | ⟨-, rfl⟩ <;> decide

/-- By induction on how the right was come by. -/
theorem fromFounder_of_entitled (distinct : Function.Injective catalog.code) {right : Right}
    (entitled : Entitled catalog requests state right) :
    FromFounder catalog requests state right := by
  induction entitled with
  | founder ran => exact fun _ => ⟨_, _, _, ran, rfl, rfl⟩
  | default ran own default =>
      exact fun same => absurd default (not_isDefault_manageRoles distinct same)
  | @joined _ _ _ _ _ offer => exact fun owner => absurd owner offer.role.2
  | @assigned _ _ _ _ body => exact fun owner => absurd owner body.role.2
  | @listed state client request text permission role body ran lists parsed asked _ ih =>
      intro same
      rcases ih rfl with ⟨founder, founds, own | handsOut⟩
      · have handsOut : HandsOut catalog requests state request.org founder .orgManageRoles :=
          ⟨client, request, text, role, body, ran, rfl, own, lists, parsed, same ▸ asked⟩
        exact ⟨founder, founds, handsOut⟩
      · exact ⟨founder, founds, handsOut⟩
  | owner _ stored leads known ih =>
      exact fun _ => ⟨_, (ih rfl).later leads, .inl rfl⟩
  | member _ stored after _ listed leads _ ih =>
      intro same
      rcases ih (congrArg catalog.code same) with ⟨founder, founds, handsOut⟩
      exact ⟨founder, founds.later leads, .inr (handsOut.later leads)⟩

/-- Whoever changes the permissions of a role is the founder of the organization, or the founder
has given the permission to do so to a role. -/
theorem roles_managed_for_founder (distinct : Function.Injective catalog.code)
    (once : CreatedOnce (commandsOf requests))
    (reached : (service catalog requests).Reachable state)
    {client : Client} {request : RoutedRequest} {text : String} {body : UpdateRolePermissionsDto}
    (ran : Ran requests state client (.routed request))
    (updates : request.route = .org (.updateRolePermissions text body)) :
    ∃ founder, Founds requests state request.org founder ∧
      (request.user = founder ∨
        HandsOut catalog requests state request.org founder .orgManageRoles) := by
  have requires : request.route.requires = some [.orgManageRoles] := by
    rw [updates]
    rfl
  have entitled := entitled_of_ran once reached ran requires List.mem_cons_self
  exact fromFounder_of_entitled distinct entitled rfl

end Delegation

/-- Alice founds an organization and lets its guests manage roles. -/
def delegating : ℕ → Option CoreRequest
  | 0 => some (.internal (.createOrg acmeCreated.1 ⟨"Acme", "acme", "alice"⟩))
  | 1 => some (.routed ⟨"alice", some "org-1", ⟨"", "", "", "", 1, 1⟩,
      .org (.updateRolePermissions "GUEST" ⟨["ORG_MANAGE_ROLES"]⟩)⟩)
  | _ => none

theorem createdOnce_delegating : CreatedOnce (commandsOf delegating) := by
  refine createdOnce_of_creator (fun _ => 0) ?_
  rintro (_ | _ | client) key ⟨command, mine, member⟩
  · rfl
  all_goals cases mine
  cases member

theorem injective_name : Function.Injective namedCatalog.code := by
  have distinct : namedCatalog.codes.Nodup := by decide +kernel
  intro first second same
  refine List.inj_on_of_nodup_map distinct ?_ ?_ same
  · cases first <;> decide
  · cases second <;> decide

theorem roles_managed_for_founder_alice : ∃ state : ServiceState ℕ,
    ∃ founder, Founds delegating state "org-1" founder ∧
      ("alice" = founder ∨ HandsOut namedCatalog delegating state "org-1" founder
        .orgManageRoles) := by
  have start : (service namedCatalog delegating).Reachable
      ⟨⟨.empty, [], fun _ => .idle⟩, checksOf namedCatalog delegating⟩ :=
    .initial ⟨⟨rfl, rfl, fun _ => rfl⟩, rfl⟩
  have founded := Gate.reachable_commit start 0 (show _ = Except.ok none from rfl) (.inl rfl)
    (fun _ _ => rfl) (.of_all (fun _ _ => trivial) _ _ _)
    (show _ = Except.ok (CoreReply.tenant (.id "org-1"), acmeWrites.map CoreWrite.tenant) by
      decide +kernel)
  have updated := Gate.reachable_commit founded 1
    (show _ = Except.ok (some ⟨"org-1", .owner, namedCatalog.allOrgPermissions⟩) by decide +kernel)
    (.inl rfl) (fun other _ => by rcases other with _ | _ <;> rfl)
    (.of_all (fun _ _ => trivial) _ _ _)
    (show _ = Except.ok (CoreReply.tenant .done, [CoreWrite.tenant (.deletePermission guestRow),
      .tenant (.insertPermission ⟨"org-1", .guest, "ORG_MANAGE_ROLES"⟩)]) by decide +kernel)
  exact ⟨_, roles_managed_for_founder injective_name createdOnce_delegating updated
    ⟨rfl, _, List.mem_append_right _ (List.mem_singleton_self _), rfl⟩ rfl⟩

end CoreApi
