import CoreApi.Credit.Commands
import CoreApi.Engagement.Tables
import CoreApi.Foundation.Component
import CoreApi.Knowledge.Commands
import CoreApi.Tenant.Commands

/-!
# The database of the service

All modules share one database and one transaction scope. Each module's tables
are a component of it, so the repositories and the commands of a module run here
as they are; the commands of the engagement module use the items, the spaces and
their own tables together.
-/

namespace CoreApi

open Credit Engagement Knowledge Tenant

/-- A row of `ai_queries` with the time at which it was inserted. -/
structure StoredAiQuery extends AiQueryRow where
  createdAt : ℤ
deriving DecidableEq

/-- The tables of all modules. -/
structure CoreDb where
  tenant : TenantDb
  knowledge : KnowledgeDb
  engagement : EngagementDb
  creditEvents : List CreditEventRow
  aiQueries : OrderedMap String StoredAiQuery
  creditOutbox : List CreditOutboxEvent

/-- A write of a module; those of the credit module come with the time of the database. -/
inductive CoreWrite where
  | tenant (write : TenantWrite)
  | knowledge (write : KnowledgeWrite)
  | engagement (write : EngagementWrite)
  | credit (now : ℤ) (write : CreditWrite)
deriving DecidableEq

/-- What a write locks, by module. -/
inductive CoreLock where
  | tenant (lock : TenantLock)
  | knowledge (lock : KnowledgeLock)
  | engagement (lock : EngagementLock)
  | credit (lock : CreditLock)
deriving DecidableEq

namespace CoreDb

def empty : CoreDb where
  tenant := ⟨.empty, .empty, .empty, .empty, [], 0⟩
  knowledge := ⟨.empty, [], []⟩
  engagement := ⟨.empty, .empty, .empty, []⟩
  creditEvents := []
  aiQueries := .empty
  creditOutbox := []

/-- What the credit module sees. -/
def credit (db : CoreDb) : CreditDb where
  creditEvents := db.creditEvents
  aiQueries := db.aiQueries.mapValues StoredAiQuery.toAiQueryRow
  outbox := db.creditOutbox
  memberships := db.tenant.memberships.entries.map Prod.fst

/-- An upsert that finds a row leaves the time at which it was inserted. -/
def upsertAiQuery (db : CoreDb) (now : ℤ) (row : AiQueryRow) : CoreDb :=
  { db with aiQueries := db.aiQueries.set row.reservationId { row with
      createdAt := ((db.aiQueries.get? row.reservationId).map StoredAiQuery.createdAt).getD now } }

end CoreDb

/-- The database of the service: a write changes the tables of its module. -/
def coreEngine : Engine CoreDb CoreWrite CoreLock where
  apply db
    | .tenant write => { db with tenant := tenantEngine.apply db.tenant write }
    | .knowledge write => { db with knowledge := knowledgeEngine.apply db.knowledge write }
    | .engagement write => { db with engagement := engagementEngine.apply db.engagement write }
    | .credit _ (.insertCreditEvent row) => { db with creditEvents := db.creditEvents ++ [row] }
    | .credit now (.upsertAiQuery row) => db.upsertAiQuery now row
    | .credit _ (.appendOutbox event) => { db with creditOutbox := db.creditOutbox ++ [event] }
  lock
    | .tenant write => (tenantEngine.lock write).map .tenant
    | .knowledge write => (knowledgeEngine.lock write).map .knowledge
    | .engagement write => (engagementEngine.lock write).map .engagement
    | .credit _ write => (creditEngine.lock write).map .credit

/-- The tables of the tenant module. -/
def tenantComponent : Component coreEngine tenantEngine where
  view := CoreDb.tenant
  wrap := .tenant
  wrapLock := .tenant
  apply_wrap _ _ := rfl
  lock_wrap _ := rfl

/-- The tables of the knowledge module. -/
def knowledgeComponent : Component coreEngine knowledgeEngine where
  view := CoreDb.knowledge
  wrap := .knowledge
  wrapLock := .knowledge
  apply_wrap _ _ := rfl
  lock_wrap _ := rfl

/-- The tables of the credit module, whose rows of questions are written at a time. -/
def creditComponent (now : ℤ) : Component coreEngine creditEngine where
  view := CoreDb.credit
  wrap := .credit now
  wrapLock := .credit
  apply_wrap db write := by
    cases write with
    | upsertAiQuery row =>
        simp [coreEngine, creditEngine, CoreDb.credit, CoreDb.upsertAiQuery,
          OrderedMap.mapValues_set]
    | _ => rfl
  lock_wrap _ := rfl

/-- What a command throws, named after the module it comes from. -/
inductive CoreError where
  | tenant (error : TenantError)
  | knowledge (error : KnowledgeError)
  | credit (error : CreditError)
deriving DecidableEq

/-- A transaction of the service. -/
abbrev CoreTx := Tx CoreDb CoreWrite CoreError

end CoreApi
