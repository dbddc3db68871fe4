import CoreApi.Engagement.Commands

/-!
# The commands of all modules

Every transactional command of the service on the one database, for runs in which
the modules take part together.
-/

namespace CoreApi

open Credit Engagement Knowledge Tenant

/-- A command of a module with what it runs with. -/
inductive CoreCommand where
  | tenant (context : TenantContext) (command : TenantCommand)
  | knowledge (context : Context) (command : KnowledgeCommand)
  | engagement (context : Context) (command : EngagementCommand)
  | credit (stamp : Stamp) (command : CreditCommand)

/-- The answers of the commands. -/
inductive CoreReply where
  | tenant (reply : TenantReply)
  | knowledge (reply : Option String)
  | engagement
  | credit (reply : CreditReply)
deriving DecidableEq

/-- The transaction of a command on the one database. -/
def CoreCommand.execute (catalog : PermissionCatalog) : CoreCommand → CoreTx CoreReply
  | .tenant context command =>
      .tenant <$> tenantComponent.lift .tenant (command.execute catalog context)
  | .knowledge context command =>
      .knowledge <$> knowledgeComponent.lift .knowledge (command.execute context)
  | .engagement context command => (fun _ => .engagement) <$> command.execute context
  | .credit stamp command =>
      .credit <$> (creditComponent stamp.createdAt).lift .credit (command.execute stamp)

/-- Any number of commands, one after another. -/
def coreCommands (catalog : PermissionCatalog) (initial : CoreDb → Prop)
    (sent : CoreDb → CoreCommand → Prop) :
    TransitionSystem (Committed CoreDb CoreCommand CoreReply) CoreCommand :=
  Committed.system coreEngine (CoreCommand.execute catalog) initial sent

/-- Any number of commands of all modules at the same time. -/
def coreWorkload (catalog : PermissionCatalog) (commands : ℕ → CoreCommand) :
    Workload ℕ CoreDb CoreWrite CoreLock CoreError CoreReply where
  toEngine := coreEngine
  program client := (commands client).execute catalog
  initial db := db = .empty
  external _ _ := False

/-- Clients that run a command each, next to others that touch no table of the service. -/
def coreClients {Client : Type} (catalog : PermissionCatalog)
    (commands : Client → Option CoreCommand) :
    Workload Client CoreDb CoreWrite CoreLock CoreError CoreReply where
  toEngine := coreEngine
  program client := (commands client).elim (pure .engagement) (CoreCommand.execute catalog)
  initial db := db = .empty
  external _ _ := False

section Frames

variable (db : CoreDb)

/-- What a module writes shows in its own tables. -/
theorem view_tenant (writes : List TenantWrite) :
    coreEngine.view db (writes.map .tenant) =
      { db with tenant := tenantEngine.view db.tenant writes } := by
  induction writes generalizing db with
  | nil => rfl
  | cons write rest ih => exact ih (coreEngine.apply db (.tenant write))

theorem view_knowledge (writes : List KnowledgeWrite) :
    coreEngine.view db (writes.map .knowledge) =
      { db with knowledge := knowledgeEngine.view db.knowledge writes } := by
  induction writes generalizing db with
  | nil => rfl
  | cons write rest ih => exact ih (coreEngine.apply db (.knowledge write))

theorem view_engagement (writes : List EngagementWrite) :
    coreEngine.view db (writes.map .engagement) =
      { db with engagement := engagementEngine.view db.engagement writes } := by
  induction writes generalizing db with
  | nil => rfl
  | cons write rest ih => exact ih (coreEngine.apply db (.engagement write))

theorem view_credit (now : ℤ) (writes : List CreditWrite) :
    (coreEngine.view db (writes.map (.credit now))).tenant = db.tenant ∧
      (coreEngine.view db (writes.map (.credit now))).knowledge = db.knowledge ∧
      (coreEngine.view db (writes.map (.credit now))).engagement = db.engagement := by
  induction writes generalizing db with
  | nil => exact ⟨rfl, rfl, rfl⟩
  | cons write rest ih =>
      have step := ih (coreEngine.apply db (.credit now write))
      cases write <;> exact step

end Frames

variable {catalog : PermissionCatalog} {db : CoreDb} {writes : List CoreWrite}
  {answer : CoreReply}

/-- A command of a module commits what it commits on the tables of the module. -/
theorem aloneFrom_tenant_ok {context : TenantContext} {command : TenantCommand}
    (ran : coreEngine.aloneFrom db [] (CoreCommand.execute catalog (.tenant context command)) =
      .ok (answer, writes)) :
    ∃ reply more, tenantEngine.aloneFrom db.tenant [] (command.execute catalog context) =
      .ok (reply, more) ∧ answer = .tenant reply ∧ writes = more.map .tenant := by
  rcases Engine.aloneFrom_map_eq_ok.mp ran with ⟨reply, body, rfl⟩
  rcases tenantComponent.aloneFrom_lift_eq_ok.mp body with ⟨more, alone, rfl⟩
  exact ⟨reply, more, alone, rfl, rfl⟩

theorem aloneFrom_knowledge_ok {context : Context} {command : KnowledgeCommand}
    (ran : coreEngine.aloneFrom db [] (CoreCommand.execute catalog (.knowledge context command)) =
      .ok (answer, writes)) :
    ∃ reply more, knowledgeEngine.aloneFrom db.knowledge [] (command.execute context) =
      .ok (reply, more) ∧ answer = .knowledge reply ∧ writes = more.map .knowledge := by
  rcases Engine.aloneFrom_map_eq_ok.mp ran with ⟨reply, body, rfl⟩
  rcases knowledgeComponent.aloneFrom_lift_eq_ok.mp body with ⟨more, alone, rfl⟩
  exact ⟨reply, more, alone, rfl, rfl⟩

theorem aloneFrom_credit_ok {stamp : Stamp} {command : CreditCommand}
    (ran : coreEngine.aloneFrom db [] (CoreCommand.execute catalog (.credit stamp command)) =
      .ok (answer, writes)) :
    ∃ reply more, creditEngine.aloneFrom db.credit [] (command.execute stamp) =
      .ok (reply, more) ∧ answer = .credit reply ∧ writes = more.map (.credit stamp.createdAt) := by
  rcases Engine.aloneFrom_map_eq_ok.mp ran with ⟨reply, body, rfl⟩
  rcases (creditComponent stamp.createdAt).aloneFrom_lift_eq_ok.mp body with ⟨more, alone, rfl⟩
  exact ⟨reply, more, alone, rfl, rfl⟩

end CoreApi
