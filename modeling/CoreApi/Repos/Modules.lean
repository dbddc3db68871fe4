import CoreApi.Foundation.WriteSets
import CoreApi.Repos.Commands

/-!
# What the commands of a module write

Every command writes to the tables of its own module only.
-/

namespace CoreApi

open Engagement Knowledge Tenant
open Outbox (FollowTargetType)

/-- The modules whose commands run in transactions. -/
inductive CoreModule where
  | tenant
  | knowledge
  | engagement
  | credit
deriving DecidableEq

/-- The module whose tables a write changes. -/
def CoreWrite.module : CoreWrite → CoreModule
  | .tenant _ => .tenant
  | .knowledge _ => .knowledge
  | .engagement _ => .engagement
  | .credit _ _ => .credit

/-- The module a command comes from. -/
def CoreCommand.module : CoreCommand → CoreModule
  | .tenant _ _ => .tenant
  | .knowledge _ _ => .knowledge
  | .engagement _ _ => .engagement
  | .credit _ _ => .credit

namespace Engagement

variable {context : Context} {Allowed : CoreWrite → Prop}

theorem tenantId_issues {Own : KnowledgeWrite → Prop} :
    (Knowledge.requireTenantId context).Issues Own := by
  unfold Knowledge.requireTenantId
  split
  · split
    · exact Tx.Issues.fail _
    · exact Tx.Issues.pure _
  · exact Tx.Issues.fail _

theorem requireTenantId_issues : (requireTenantId context).Issues Allowed := by
  have silent : (Knowledge.requireTenantId context).Issues fun _ => False := tenantId_issues
  exact silent.lift fun _ => False.elim

theorem findItemById_issues (id : String) : (findItemById context id).Issues Allowed := by
  have silent : (PrismaKnowledgeItemRepository.findById context id).Issues fun _ => False :=
    Tx.Issues.bind tenantId_issues fun orgId => Tx.Issues.read _
  exact silent.lift fun _ => False.elim

theorem orThrow_issues {Entity : Type} {error : ApplicationError} (found : Option Entity) :
    (orThrow error found).Issues Allowed := by
  cases found with
  | none => exact Tx.Issues.fail _
  | some entity => exact Tx.Issues.pure _

theorem findTarget_issues (targetType : FollowTargetType) (targetId : String) :
    (findTarget context targetType targetId).Issues Allowed := by
  cases targetType with
  | document =>
      refine Tx.Issues.bind (findItemById_issues _) fun found => ?_
      exact Tx.Issues.bind (orThrow_issues found) fun _ => Tx.Issues.pure _
  | space =>
      refine Tx.Issues.bind ?_ fun found => ?_
      · exact Tx.Issues.bind requireTenantId_issues fun _ => Tx.Issues.read _
      · exact Tx.Issues.bind (orThrow_issues found) fun _ => Tx.Issues.pure _

/-- A statement of the repositories of the module. -/
theorem statement_issues {writes : CoreDb → List CoreWrite}
    (own : ∀ db, ∀ write ∈ writes db, write.module = .engagement) :
    (.execute fun db => .ok (writes db, ()) : CoreTx Unit).Issues
      fun write => write.module = .engagement := by
  refine Tx.Issues.execute ?_
  rintro db _ value ⟨⟩ write member
  exact own db write member

theorem execute_issues (command : EngagementCommand) :
    (command.execute context).Issues fun write => write.module = .engagement := by
  have append : ∀ event, (PrismaOutboxWriter.append event).Issues
      fun write => write.module = .engagement :=
    fun event => Tx.Issues.write (by simp [CoreWrite.module])
  cases command with
  | castVote command =>
      refine Tx.Issues.bind (findItemById_issues _) fun found => ?_
      refine Tx.Issues.bind (orThrow_issues found) fun item => ?_
      refine Tx.Issues.bind ?_ fun existing => ?_
      · exact Tx.Issues.bind requireTenantId_issues fun orgId => Tx.Issues.read _
      · cases existing <;> exact statement_issues fun db => by simp [CoreWrite.module]
  | removeVote command =>
      refine Tx.Issues.bind requireTenantId_issues fun orgId => statement_issues fun db => ?_
      split <;> simp [CoreWrite.module]
  | addBookmark command =>
      refine Tx.Issues.bind (findItemById_issues _) fun found => ?_
      refine Tx.Issues.bind (orThrow_issues found) fun item => statement_issues fun db => ?_
      split <;> simp [CoreWrite.module]
  | removeBookmark command =>
      refine Tx.Issues.bind requireTenantId_issues fun orgId => statement_issues fun db => ?_
      split <;> simp [CoreWrite.module]
  | followTarget command =>
      refine Tx.Issues.bind requireTenantId_issues fun orgId => ?_
      refine Tx.Issues.bind (findTarget_issues _ _) fun _ => ?_
      refine Tx.Issues.bind (statement_issues fun db => ?_) fun _ => append _
      split <;> simp [CoreWrite.module]
  | unfollowTarget command =>
      refine Tx.Issues.bind requireTenantId_issues fun orgId => ?_
      refine Tx.Issues.bind ?_ fun _ => append _
      refine Tx.Issues.bind requireTenantId_issues fun orgId => statement_issues fun db => ?_
      split <;> simp [CoreWrite.module]

end Engagement

/-- A command writes to the tables of its module. -/
theorem CoreCommand.execute_issues (catalog : PermissionCatalog) (command : CoreCommand) :
    (command.execute catalog).Issues fun write => write.module = command.module := by
  cases command with
  | tenant context command => exact ((Tx.issues_any _).lift fun _ _ => rfl).map _
  | knowledge context command => exact ((Tx.issues_any _).lift fun _ _ => rfl).map _
  | engagement context command => exact (Engagement.execute_issues command).map _
  | credit stamp command => exact ((Tx.issues_any _).lift fun _ _ => rfl).map _

end CoreApi
