import CoreApi.Credit.Isolation
import CoreApi.Foundation.Projection
import CoreApi.Repos.Modules
import CoreApi.Tenant.Founder
import CoreApi.Tenant.Invalidation

/-!
# A module inside the service

The runs of a module are studied on its own tables, with the commands of the module
alone. In the service they run next to the commands of all modules on the one
database. What is seen there from the tables of the module is a run of the module by
itself, so what holds of its runs holds in the service.
-/

namespace CoreApi

open Credit Engagement Knowledge Tenant

section Parts

/-- The tenant command of a client; the one of another module's client never begins. -/
def CoreCommand.toTenant : CoreCommand → TenantContext × TenantCommand
  | .tenant context command => (context, command)
  | _ => (⟨"", "", 0⟩, .archiveOrg ⟨""⟩)

/-- The command of the knowledge module, and any other where there is none. -/
def CoreCommand.toKnowledge : CoreCommand → Context × KnowledgeCommand
  | .knowledge context command => (context, command)
  | _ => (⟨none, "", 0, 0⟩, .delete ⟨""⟩)

/-- The command of the credit module, and any other where there is none. -/
def CoreCommand.toCredit : CoreCommand → Stamp × CreditCommand
  | .credit stamp command => (stamp, command)
  | _ => (⟨0, ""⟩, .spendCredits ⟨"", "", .finite 0, ""⟩)

variable (catalog : PermissionCatalog) (commands : ℕ → CoreCommand)

/-- The commands of the tenant module among those of the service. -/
def tenantPart : Workload ℕ TenantDb TenantWrite TenantLock TenantError TenantReply :=
  tenantWorkload catalog (fun client => (commands client).toTenant.1)
    fun client => (commands client).toTenant.2

/-- The commands of the knowledge module alone. -/
def knowledgePart :
    Workload ℕ KnowledgeDb KnowledgeWrite KnowledgeLock KnowledgeError (Option String) :=
  knowledgeWorkload (fun client => (commands client).toKnowledge.1)
    fun client => (commands client).toKnowledge.2

/-- The commands of the credit module alone. -/
def creditPart : Workload ℕ CreditDb CreditWrite CreditLock CreditError CreditReply :=
  creditWorkload (fun client => (commands client).toCredit.1)
    fun client => (commands client).toCredit.2

end Parts

section Others

variable {writes : List CoreWrite} (db : CoreDb)

theorem tenant_of_others (others : ∀ write ∈ writes, write.module ≠ .tenant) :
    (coreEngine.view db writes).tenant = db.tenant := by
  refine coreEngine.view_keeps (fun now => now.tenant = db.tenant) rfl ?_
  intro write member now same
  cases write with
  | tenant write => exact absurd rfl (others _ member)
  | credit now' write => cases write <;> exact same
  | _ => exact same

theorem knowledge_of_others (others : ∀ write ∈ writes, write.module ≠ .knowledge) :
    (coreEngine.view db writes).knowledge = db.knowledge := by
  refine coreEngine.view_keeps (fun now => now.knowledge = db.knowledge) rfl ?_
  intro write member now same
  cases write with
  | knowledge write => exact absurd rfl (others _ member)
  | credit now' write => cases write <;> exact same
  | _ => exact same

/-- The credit module reads the memberships, which the tenant module writes. -/
theorem credit_of_others (others : ∀ write ∈ writes, write.module ≠ .credit) :
    ∃ memberships, (coreEngine.view db writes).credit =
      { db.credit with memberships := memberships } := by
  have own : (coreEngine.view db writes).creditEvents = db.creditEvents ∧
      (coreEngine.view db writes).aiQueries = db.aiQueries ∧
      (coreEngine.view db writes).creditOutbox = db.creditOutbox := by
    refine coreEngine.view_keeps (fun now => now.creditEvents = db.creditEvents ∧
      now.aiQueries = db.aiQueries ∧ now.creditOutbox = db.creditOutbox) ⟨rfl, rfl, rfl⟩ ?_
    intro write member now same
    cases write with
    | credit now' write => exact absurd rfl (others _ member)
    | _ => exact same
  rcases own with ⟨events, queries, outbox⟩
  refine ⟨(coreEngine.view db writes).credit.memberships, ?_⟩
  simp only [CoreDb.credit, events, queries, outbox]

end Others

variable (catalog : PermissionCatalog) (commands : ℕ → CoreCommand)
  {state : Workload.State ℕ CoreDb CoreWrite CoreError CoreReply} {client : ℕ}

/-- What a client of another module is about to commit writes no row of the module. -/
theorem pending_of_others (reached : (coreWorkload catalog commands).system.Reachable state)
    {part : CoreModule} (foreign : decide ((commands client).module = part) = false)
    {begun : CoreDb} {seen : List CoreDb} {pending : List CoreWrite}
    {body : CoreTx CoreReply} (running : state.session client = .active begun seen pending body) :
    ∀ write ∈ pending, write.module ≠ part := by
  have issues := CoreCommand.execute_issues catalog (commands client)
  intro write member own
  have named := Workload.pending_of_issues issues reached running write member
  rw [← named, own] at foreign
  simp at foreign

/-- The service as the tenant module sees it. -/
def tenantProjection :
    Projection (coreWorkload catalog commands) (tenantPart catalog commands) where
  own client := (commands client).module = .tenant
  component _ := tenantComponent
  view := CoreDb.tenant
  wrapLock := .tenant
  raise := .tenant
  answer := .tenant
  component_view _ := rfl
  component_wrapLock _ := rfl
  program client own := by
    simp only [coreWorkload, tenantPart, tenantWorkload]
    cases command : commands client with
    | tenant context command => rfl
    | _ => simp [command, CoreCommand.module] at own
  permits _ _ _ _ _ := trivial
  initial db start := by
    rw [start]
    exact ⟨Consistent.empty.numbered, OrderedMap.All.empty⟩
  external _ _ := False.elim
  others state reached client foreign begun seen pending reply running :=
    .inl (tenant_of_others _ (pending_of_others catalog commands reached foreign running))

/-- The service as the knowledge module sees it. -/
def knowledgeProjection : Projection (coreWorkload catalog commands) (knowledgePart commands) where
  own client := (commands client).module = .knowledge
  component _ := knowledgeComponent
  view := CoreDb.knowledge
  wrapLock := .knowledge
  raise := .knowledge
  answer := .knowledge
  component_view _ := rfl
  component_wrapLock _ := rfl
  program client own := by
    simp only [coreWorkload, knowledgePart, knowledgeWorkload]
    cases command : commands client with
    | knowledge context command => rfl
    | _ => simp [command, CoreCommand.module] at own
  permits _ _ _ _ _ := trivial
  initial db start := by
    rw [start]
    refine ⟨rfl, fun id row found => ?_⟩
    cases found
  external _ _ := False.elim
  others state reached client foreign begun seen pending reply running :=
    .inl (knowledge_of_others _ (pending_of_others catalog commands reached foreign running))

/-- The service as the credit module sees it. -/
def creditProjection : Projection (coreWorkload catalog commands) (creditPart commands) where
  own client := (commands client).module = .credit
  component client := creditComponent (commands client).toCredit.1.createdAt
  view := CoreDb.credit
  wrapLock := .credit
  raise := .credit
  answer := .credit
  component_view _ := rfl
  component_wrapLock _ := rfl
  program client own := by
    simp only [coreWorkload, creditPart, creditWorkload]
    cases command : commands client with
    | credit stamp command => rfl
    | _ => simp [command, CoreCommand.module] at own
  permits _ _ _ _ _ := trivial
  initial db start := by
    rw [start]
    exact ⟨rfl, rfl, rfl⟩
  external _ _ := False.elim
  others state reached client foreign begun seen pending reply running :=
    .inr (credit_of_others _ (pending_of_others catalog commands reached foreign running))

/-- The service refines its modules: what is seen of it from the tables of a module, the answers
and the sessions of its commands included, is a state that the module comes to by itself. -/
theorem service_refines_modules
    (reached : (coreWorkload catalog commands).system.Reachable state) :
    (∃ shown, (tenantPart catalog commands).system.Reachable shown ∧
      (tenantProjection catalog commands).Shows state shown) ∧
    (∃ shown, (knowledgePart commands).system.Reachable shown ∧
      (knowledgeProjection catalog commands).Shows state shown) ∧
    ∃ shown, (creditPart commands).system.Reachable shown ∧
      (creditProjection catalog commands).Shows state shown :=
  ⟨(tenantProjection catalog commands).exists_shows reached,
    (knowledgeProjection catalog commands).exists_shows reached,
    (creditProjection catalog commands).exists_shows reached⟩

/-- An organization is founded, its owner writes a guide and is granted credits. -/
def oneOfEach : ℕ → CoreCommand
  | 0 => .tenant acmeCreated.1 acmeCreated.2
  | 1 => .knowledge ⟨some "org-1", "guide", 1, 1⟩
      (.create ⟨"org-1", "space", .document, "Guide", "", none, "alice"⟩)
  | _ => .credit ⟨2, ""⟩ (.grantCredits ⟨"org-1", "alice", .finite 5, "welcome"⟩)

/-- Each module comes to its part of the run by itself. -/
theorem service_refines_modules_founded :
    (∃ shown, (tenantPart namedCatalog oneOfEach).system.Reachable shown ∧ shown.db = acmeDb) ∧
    (∃ shown, (knowledgePart oneOfEach).system.Reachable shown ∧
      (shown.db.items.get? "guide").isSome) ∧
    ∃ shown, (creditPart oneOfEach).system.Reachable shown ∧
      let account := PrismaCreditEventRepository.loadOrOpen shown.db.creditEvents "org-1" "alice"
      account.balance = 5 := by
  have start : (coreWorkload namedCatalog oneOfEach).system.Reachable
      ⟨.empty, [], fun _ => .idle⟩ := .initial ⟨rfl, rfl, fun _ => rfl⟩
  have founded := Workload.reachable_commit start 0 (.inl rfl) (fun _ _ => rfl)
    (.of_all (fun _ _ => trivial) _ _ _)
    (show _ = Except.ok (CoreReply.tenant (.id "org-1"), acmeWrites.map CoreWrite.tenant) by
      decide +kernel)
  let guide : KnowledgeItemRow :=
    { KnowledgeItem.create "guide" 1 "org-1" "space" .document "Guide" "" none "alice" with
      createdAt := 1
      updatedAt := 1
      contentHash := none }
  have written := Workload.reachable_commit founded 1 (.inl rfl)
    (fun other _ => by rcases other with _ | _ <;> rfl) (.of_all (fun _ _ => trivial) _ _ _)
    (show _ = Except.ok (CoreReply.knowledge (some "guide"),
      [CoreWrite.knowledge (.putItem guide)]) by decide +kernel)
  let awarded : CreditOutboxEvent :=
    .creditAwarded "org-1:alice" "org-1" "alice" (.finite 5) "welcome" 5
  have granted := Workload.reachable_commit written 2 (.inl rfl)
    (fun other _ => by rcases other with _ | _ | _ <;> rfl) (.of_all (fun _ _ => trivial) _ _ _)
    (show _ = Except.ok (CoreReply.credit (.grantCredits 5), [CoreWrite.credit 2 (.insertCreditEvent
      ⟨"org-1:alice", "org-1", "alice", "CreditGranted", 1, ⟨5, "welcome", none⟩, 2⟩),
      .credit 2 (.appendOutbox awarded)]) by decide +kernel)
  rcases service_refines_modules _ _ granted with
    ⟨⟨tenant, reached, shows⟩, ⟨knowledge, reached', shows'⟩, credit, reached'', shows''⟩
  refine ⟨⟨tenant, reached, shows.db.trans ?_⟩, ⟨knowledge, reached', ?_⟩, credit, reached'', ?_⟩
  · exact congrArg CoreDb.tenant (view_tenant .empty acmeWrites)
  · rw [shows'.db]
    decide +kernel
  · rw [shows''.db]
    decide +kernel

end CoreApi
