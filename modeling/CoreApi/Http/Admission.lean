import CoreApi.Http.Controllers

/-!
# Who is let in

A request behind the guard commits only after the guard has seen its user in the organization
of its header, with a role that has what the route requires. The role and its permissions are
read one after the other, each as it is committed then.
-/

namespace CoreApi

open Tenant PrismaMembershipQueryRepository

section Guard

variable {Client : Type} [DecidableEq Client] (catalog : PermissionCatalog)
  (requests : Client → Option CoreRequest)

/-- A request that has committed. -/
def Ran (state : ServiceState Client) (client : Client) (request : CoreRequest) : Prop :=
  requests client = some request ∧ ∃ entry ∈ state.base.log, entry.client = client

/-- What the guard saw before a moment of a run: a user in an organization with some role, and then
the role with some permissions. -/
def Saw (Known : ServiceState Client → Prop) (state : ServiceState Client)
    (orgId userId : String) (permissions : List OrgPermission) : Prop :=
  ∃ first second role, Known first ∧ Known second ∧
    (service catalog requests).Leads first second ∧ (service catalog requests).Leads second state ∧
    findRoleByOrgAndUser first.base.db.tenant orgId userId = some role ∧
    ∀ permission ∈ permissions, catalog.code permission ∈
      OrgPermissionResolver.resolve catalog second.base.db.tenant orgId role

variable {catalog requests} {Known : ServiceState Client → Prop} {state : ServiceState Client}
  {client : Client}

/-- The owner's permissions are the same at all times. -/
theorem resolved_of_query {first since : ServiceState Client} {orgId : String} {role : OrgRole}
    {held : List String} (known : Known first)
    (before : (service catalog requests).Leads first since)
    (leads : (service catalog requests).Leads since state)
    (went : Gate.Went (coreClients catalog (commandsOf requests)) (checksOf catalog requests) Known
      state (.done (.ok held)) since (OrgPermissionResolver.query catalog orgId role)) :
    ∃ second, Known second ∧ (service catalog requests).Leads first second ∧
      (service catalog requests).Leads second state ∧
      held = OrgPermissionResolver.resolve catalog second.base.db.tenant orgId role := by
  by_cases owner : role = .owner
  · simp only [OrgPermissionResolver.query, if_pos owner] at went
    cases went.of_done
    exact ⟨first, known, .refl, before.trans leads, by simp [OrgPermissionResolver.resolve, owner]⟩
  · simp only [OrgPermissionResolver.query, if_neg owner] at went
    rcases went.of_read with ⟨second, known', after, before', rfl⟩
    exact ⟨second, known', before.trans after, before',
      by simp [OrgPermissionResolver.resolve, owner]⟩

/-- The two queries of a guard that has let a request in. -/
theorem saw_of_queries {since : ServiceState Client} {user : String} {header : Option String}
    {permissions : List OrgPermission} {context : OrgContext}
    (leads : (service catalog requests).Leads since state)
    (went : Gate.Went (coreClients catalog (commandsOf requests)) (checksOf catalog requests) Known
      state (.done (.ok context)) since (OrgGuard.queries catalog
        ⟨some user, header, some (permissions.map catalog.code)⟩)) :
    ∃ orgId, present header = some orgId ∧
      Saw catalog requests Known state orgId user permissions := by
  simp only [OrgGuard.queries] at went
  cases named : present (some user) with
  | none =>
      rw [named] at went
      cases went.of_done
  | some userId =>
      obtain rfl : user = userId := by
        simpa using (Option.filter_eq_some_iff.mp named).1
      rw [named] at went
      cases sent : present header with
      | none =>
          rw [sent] at went
          cases went.of_done
      | some orgId =>
          refine ⟨orgId, rfl, ?_⟩
          rw [sent] at went
          rcases went.of_bind leads with ⟨middle, found, -, leads, member, went⟩
          rcases member.of_read with ⟨first, known, -, before, rfl⟩
          cases role : findRoleByOrgAndUser first.base.db.tenant orgId user with
          | none =>
              rw [role] at went
              cases went.of_done
          | some orgRole =>
              rw [role] at went
              rcases went.of_bind leads with ⟨last, held, after, leads', asked, went⟩
              rcases resolved_of_query known (before.trans .refl) after asked with
                ⟨second, known', middle, before', rfl⟩
              refine ⟨first, second, orgRole, known, known', middle, before'.trans leads', role, ?_⟩
              intro permission required
              by_contra lacks
              have missing : 0 < ((permissions.map catalog.code).filter fun permission =>
                  permission ∉ OrgPermissionResolver.resolve catalog second.base.db.tenant orgId
                    orgRole).length :=
                List.length_pos_of_mem (List.mem_filter.mpr
                  ⟨List.mem_map_of_mem required, by simpa using lacks⟩)
              simp only [Option.map_some, Option.getD_some, gt_iff_lt, missing, if_true] at went
              cases went.of_done

/-- Whoever is let in past a guard has been seen with what the route requires. -/
theorem saw_of_passed {pass : Option OrgContext} {request : RoutedRequest}
    {permissions : List OrgPermission}
    (readings : Gate.Readings (coreClients catalog (commandsOf requests))
      (checksOf catalog requests) Known state client)
    (passed : state.check client = .done (.ok pass))
    (asked : requests client = some (.routed request))
    (requires : request.route.requires = some permissions) :
    present request.orgId = some request.org ∧
      Saw catalog requests Known state request.org request.user permissions := by
  rcases readings with ⟨start, leads, went⟩
  rw [passed] at went
  simp only [checksOf, asked, Option.elim_some, CoreRequest.check, RoutedRequest.check,
    requires] at went
  rcases went.of_bind leads with ⟨moment, context, after, before, queries, -⟩
  rcases saw_of_queries after queries with ⟨orgId, sent, first, second, role, saw⟩
  have org : request.org = orgId := by simp [RoutedRequest.org, sent]
  rw [org]
  exact ⟨sent, first, second, role, saw.1, saw.2.1, saw.2.2.1, saw.2.2.2.1.trans before,
    saw.2.2.2.2⟩

end Guard

end CoreApi
