import CoreApi.Foundation.Sequential
import CoreApi.Knowledge.Isolation

/-!
# What a command on an item commits when it runs alone

Each repository function and each command, run with nobody else around, by what
it finds and what it leaves in the tables.
-/

namespace CoreApi.Knowledge

open Engine PrismaKnowledgeItemRepository

/-- The row a create stores. -/
def createdRow (context : Context) (command : CreateKnowledgeCommand) : KnowledgeItemRow :=
  { KnowledgeItem.create context.id context.now command.orgId command.spaceId command.type
      command.title command.body command.parentId command.createdByUserId with
    createdAt := context.writtenAt
    updatedAt := context.writtenAt
    contentHash := none }

namespace KnowledgeCommand

/-- The events a command appends, given the item it has loaded. -/
def events (loaded : KnowledgeItem) : KnowledgeCommand → List KnowledgePublishedEvent
  | publish _ => [{
      aggregateId := loaded.id
      orgId := loaded.orgId
      itemId := loaded.id
      spaceId := loaded.spaceId
      type := loaded.type
      title := loaded.title
      body := loaded.body
      createdByUserId := loaded.createdByUserId }]
  | _ => []

/-- What a command checks of the item it has loaded and of other items. -/
def Checks (db : KnowledgeDb) (orgId : String) (loaded : KnowledgeItem) :
    KnowledgeCommand → Prop
  | create _ => False
  | acceptAnswer command => loaded.type = .question ∧ ∃ answer,
      findFirst db command.answerId orgId = some answer ∧ answer.id = command.answerId ∧
        answer.type = .answer ∧ answer.parentId = some loaded.id
  | _ => True

end KnowledgeCommand

/-- Items stand under their ids. -/
def ItemsKeyed (db : KnowledgeDb) : Prop :=
  ∀ id row, db.items.get? id = some row → row.id = id

/-- What a command that commits finds, answers and leaves behind. -/
inductive Commits (context : Context) (db : KnowledgeDb) :
    KnowledgeCommand → Option String → KnowledgeDb → Prop where
  | created {command : CreateKnowledgeCommand} (fresh : db.items.get? context.id = none) :
      Commits context db (.create command) (some context.id)
        { db with items := db.items.set context.id (createdRow context command) }
  | unchanged {command : VerifyKnowledgeCommand} : Commits context db (.verify command) none db
  | stored {command : KnowledgeCommand} {orgId : String} {row : KnowledgeItemRow}
      (tenant : context.tenantId = some orgId)
      (found : db.items.get? command.target = some row) (org : row.orgId = orgId)
      (live : row.deletedAt = none) (checks : command.Checks db orgId row.toKnowledgeItem) :
      Commits context db command none
        ⟨db.items.set command.target (command.stored context row.toKnowledgeItem row),
          db.revisions ++ command.revisions context row.toKnowledgeItem,
          db.outbox ++ command.events row.toKnowledgeItem⟩

variable {db next : KnowledgeDb} {pending writes : List KnowledgeWrite} {context : Context}
  {command : KnowledgeCommand} {reply : Option String}

theorem requireTenantId_ok {orgId : String}
    (ran : knowledgeEngine.aloneFrom db pending (requireTenantId context) = .ok (orgId, writes)) :
    context.tenantId = some orgId ∧ pending = writes := by
  cases tenant : context.tenantId with
  | none => simp [requireTenantId, tenant] at ran
  | some org =>
      by_cases empty : org = ""
      · simp [requireTenantId, tenant, empty] at ran
      · simp only [requireTenantId, tenant, if_neg empty, aloneFrom_pure_eq_ok] at ran
        exact ⟨congrArg some ran.1, ran.2⟩

theorem findById_ok {id : String} {found : Option KnowledgeItem}
    (ran : knowledgeEngine.aloneFrom db pending (findById context id) = .ok (found, writes)) :
    pending = writes ∧ ∃ orgId, context.tenantId = some orgId ∧
      found = findFirst (knowledgeEngine.view db pending) id orgId := by
  rcases aloneFrom_bind_eq_ok.mp ran with ⟨orgId, more, required, read⟩
  rcases requireTenantId_ok required with ⟨tenant, rfl⟩
  rcases aloneFrom_read_eq_ok.mp read with ⟨rfl, rfl⟩
  exact ⟨rfl, orgId, tenant, rfl⟩

@[simp]
theorem aloneFrom_orNotFound_eq_ok {found : Option KnowledgeItem} {item : KnowledgeItem} :
    knowledgeEngine.aloneFrom db pending (orNotFound found) = .ok (item, writes) ↔
      found = some item ∧ pending = writes := by
  cases found <;> simp [orNotFound]

@[simp]
theorem aloneFrom_throwUnless_eq_ok {condition : Bool} {error : ApplicationError}
    {answer : Unit} :
    knowledgeEngine.aloneFrom db pending (throwUnless condition error) = .ok (answer, writes) ↔
      condition = true ∧ pending = writes := by
  cases condition <;> simp [throwUnless]

theorem findFirst_iff {id orgId : String} {loaded : KnowledgeItem} :
    findFirst db id orgId = some loaded ↔ ∃ row, db.items.get? id = some row ∧ row.orgId = orgId ∧
      row.deletedAt = none ∧ row.toKnowledgeItem = loaded := by
  simp only [findFirst, Option.map_eq_some_iff, Option.filter_eq_some_iff, decide_eq_true_eq]
  constructor
  · rintro ⟨row, ⟨stored, org, live⟩, same⟩
    exact ⟨row, stored, org, live, same⟩
  · rintro ⟨row, stored, org, live, same⟩
    exact ⟨row, ⟨stored, org, live⟩, same⟩

/-- What follows the loading of an item is run on a live item of the tenant. -/
theorem load_ok {Value : Type} {rest : KnowledgeItem → KnowledgeTx Value} {id : String}
    {answer : Value}
    (ran : knowledgeEngine.aloneFrom db [] (do rest (← orNotFound (← findById context id))) =
      .ok (answer, writes)) :
    ∃ orgId row, context.tenantId = some orgId ∧ db.items.get? id = some row ∧
      row.orgId = orgId ∧ row.deletedAt = none ∧
      knowledgeEngine.aloneFrom db [] (rest row.toKnowledgeItem) = .ok (answer, writes) := by
  rcases aloneFrom_bind_eq_ok.mp ran with ⟨found, more, loads, ran⟩
  rcases findById_ok loads with ⟨rfl, orgId, tenant, rfl⟩
  rcases aloneFrom_bind_eq_ok.mp ran with ⟨item, more, present, ran⟩
  rcases aloneFrom_orNotFound_eq_ok.mp present with ⟨found, rfl⟩
  rcases findFirst_iff.mp found with ⟨row, stored, org, live, rfl⟩
  exact ⟨orgId, row, tenant, stored, org, live, ran⟩

/-- An update of an item of the tenant that nothing has been written over. -/
theorem update_ok {item : KnowledgeItem} {row : KnowledgeItemRow} {answer : Unit}
    (ran : knowledgeEngine.aloneFrom db [] (update context item) = .ok (answer, writes))
    (stored : db.items.get? item.id = some row) (org : context.tenantId = some row.orgId) :
    writes = [.putItem (data context item row)] := by
  rcases aloneFrom_bind_eq_ok.mp ran with ⟨orgId, more, required, ran⟩
  rcases requireTenantId_ok required with ⟨tenant, rfl⟩
  rcases aloneFrom_execute_eq_ok.mp ran with ⟨more, ran, rfl⟩
  have same : row.orgId = orgId := Option.some.inj (org.symm.trans tenant)
  simp only [Engine.view_nil, updateMany, stored, Option.filter_some, same, decide_true, if_true,
    Except.ok.injEq, Prod.mk.injEq] at ran
  exact ran.1.symm

theorem create_commits {command : CreateKnowledgeCommand} {answer : String}
    (ran : knowledgeEngine.aloneFrom db [] (CreateKnowledgeHandler.execute context command) =
      .ok (answer, writes)) :
    Commits context db (.create command) (some answer) (knowledgeEngine.view db writes) := by
  simp only [CreateKnowledgeHandler.execute, aloneFrom_bind_eq_ok, aloneFrom_pure_eq_ok] at ran
  rcases ran with ⟨_, _, saved, rfl, rfl⟩
  rcases aloneFrom_execute_eq_ok.mp saved with ⟨more, ran, rfl⟩
  split at ran
  · cases ran
  · next fresh =>
      cases ran
      exact .created fresh

/-- A command that loads an item and stores it. -/
theorem stored_commits {command : KnowledgeCommand} {orgId : String} {row : KnowledgeItemRow}
    (keyed : ItemsKeyed db) (tenant : context.tenantId = some orgId)
    (found : db.items.get? command.target = some row) (org : row.orgId = orgId)
    (live : row.deletedAt = none) (checks : command.Checks db orgId row.toKnowledgeItem)
    (wrote : writes = rowWrites (command.stored context row.toKnowledgeItem row)
      (command.revisions context row.toKnowledgeItem) (command.events row.toKnowledgeItem)) :
    Commits context db command none (knowledgeEngine.view db writes) := by
  have commits := Commits.stored tenant found org live checks
  rw [wrote, view_rowWrites, KnowledgeCommand.stored_id, keyed _ _ found]
  exact commits

/-- An edit that finds its version writes over the row. -/
theorem updateWithOcc_ok {item : KnowledgeItem} {row : KnowledgeItemRow} {expectedVersion : ℕ}
    (ran : knowledgeEngine.aloneFrom db [] (updateWithOcc context item expectedVersion) =
      .ok (true, writes)) (stored : db.items.get? item.id = some row) :
    writes = [.putItem (occData context item row)] := by
  rcases aloneFrom_bind_eq_ok.mp ran with ⟨orgId, more, required, ran⟩
  rcases requireTenantId_ok required with ⟨tenant, rfl⟩
  rcases aloneFrom_execute_eq_ok.mp ran with ⟨more, ran, rfl⟩
  simp only [Engine.view_nil, updateMany, stored, Except.ok.injEq] at ran
  split at ran
  · next current matched =>
      obtain rfl : row = current := Option.some.inj (Option.filter_eq_some_iff.mp matched).1
      exact (Prod.mk.inj ran).1.symm
  · cases ran

theorem saveRevision_ok {revision : Revision} {answer : Unit}
    (ran : knowledgeEngine.aloneFrom db pending (PrismaRevisionRepository.save context revision) =
      .ok (answer, writes)) :
    writes = pending ++ [.insertRevision { revision with createdAt := context.writtenAt }] := by
  rcases aloneFrom_execute_eq_ok.mp ran with ⟨more, saved, rfl⟩
  split at saved
  · cases saved
  · cases saved
    rfl

theorem edit_commits (keyed : ItemsKeyed db) {command : UpdateKnowledgeCommand} {answer : Unit}
    (ran : knowledgeEngine.aloneFrom db [] (UpdateKnowledgeHandler.execute context command) =
      .ok (answer, writes)) :
    Commits context db (.update command) none (knowledgeEngine.view db writes) := by
  rcases load_ok ran with ⟨orgId, row, tenant, found, org, live, ran⟩
  have id := keyed _ _ found
  rcases aloneFrom_bind_eq_ok.mp ran with ⟨ok, more, updated, ran⟩
  rcases aloneFrom_bind_eq_ok.mp ran with ⟨_, more, checked, ran⟩
  rcases aloneFrom_throwUnless_eq_ok.mp checked with ⟨rfl, rfl⟩
  have wrote := updateWithOcc_ok updated (show db.items.get? _ = some row from id ▸ found)
  have saved := saveRevision_ok ran
  rw [wrote] at saved
  refine stored_commits keyed tenant found org live trivial ?_
  simpa [rowWrites, KnowledgeCommand.stored, KnowledgeCommand.revisions, KnowledgeCommand.events,
    KnowledgeItem.applyEdit, id] using saved

theorem publish_commits (keyed : ItemsKeyed db) {command : PublishKnowledgeCommand}
    {answer : Unit}
    (ran : knowledgeEngine.aloneFrom db [] (PublishKnowledgeHandler.execute context command) =
      .ok (answer, writes)) :
    Commits context db (.publish command) none (knowledgeEngine.view db writes) := by
  rcases load_ok ran with ⟨orgId, row, tenant, found, org, live, ran⟩
  rcases aloneFrom_bind_eq_ok.mp ran with ⟨_, more, checked, ran⟩
  rcases aloneFrom_throwUnless_eq_ok.mp checked with ⟨-, rfl⟩
  rcases aloneFrom_bind_eq_ok.mp ran with ⟨_, more, updated, ran⟩
  have id := keyed _ _ found
  have wrote := update_ok updated (id ▸ found) (org ▸ tenant)
  have appended := aloneFrom_write_eq_ok.mp ran
  subst wrote appended
  exact stored_commits keyed tenant found org live trivial rfl

theorem verify_commits (keyed : ItemsKeyed db) {command : VerifyKnowledgeCommand} {answer : Unit}
    (ran : knowledgeEngine.aloneFrom db [] (VerifyKnowledgeHandler.execute context command) =
      .ok (answer, writes)) :
    Commits context db (.verify command) none (knowledgeEngine.view db writes) := by
  rcases load_ok ran with ⟨orgId, row, tenant, found, org, live, ran⟩
  dsimp only at ran
  split at ran
  · rcases aloneFrom_pure_eq_ok.mp ran with ⟨-, rfl⟩
    exact .unchanged
  · have id := keyed _ _ found
    have same : (row.verify context.now command.verifierUserId).2.id = row.id := by
      rw [KnowledgeItem.verify]
      split <;> rfl
    have wrote := update_ok ran (same.symm ▸ id ▸ found) (org ▸ tenant)
    exact stored_commits keyed tenant found org live trivial wrote

theorem delete_commits (keyed : ItemsKeyed db) {command : DeleteKnowledgeCommand} {answer : Unit}
    (ran : knowledgeEngine.aloneFrom db [] (DeleteKnowledgeHandler.execute context command) =
      .ok (answer, writes)) :
    Commits context db (.delete command) none (knowledgeEngine.view db writes) := by
  rcases load_ok ran with ⟨orgId, row, tenant, found, org, live, ran⟩
  have id := keyed _ _ found
  have wrote := update_ok ran (id ▸ found) (org ▸ tenant)
  exact stored_commits keyed tenant found org live trivial wrote

theorem acceptAnswer_commits (keyed : ItemsKeyed db) {command : AcceptAnswerCommand} {answer : Unit}
    (ran : knowledgeEngine.aloneFrom db [] (AcceptAnswerHandler.execute context command) =
      .ok (answer, writes)) :
    Commits context db (.acceptAnswer command) none (knowledgeEngine.view db writes) := by
  rcases load_ok ran with ⟨orgId, row, tenant, found, org, live, ran⟩
  simp only [aloneFrom_bind_eq_ok, aloneFrom_throwUnless_eq_ok, aloneFrom_orNotFound_eq_ok] at ran
  rcases ran with ⟨_, _, ⟨question, rfl⟩, _, _, ⟨-, rfl⟩, _, _, loads, item, _, ⟨present, rfl⟩,
    _, _, ⟨type, rfl⟩, _, _, ⟨parent, rfl⟩, updated⟩
  rcases findById_ok loads with ⟨rfl, orgId', tenant', rfl⟩
  obtain rfl : orgId' = orgId := Option.some.inj (tenant'.symm.trans tenant)
  rcases findFirst_iff.mp present with ⟨answerRow, stored, -, -, rfl⟩
  have id := keyed _ _ found
  have answerId := keyed _ _ stored
  have wrote := update_ok updated (id ▸ found) (org ▸ tenant)
  refine stored_commits keyed tenant found org live ⟨of_decide_eq_true question, _, present,
    answerId, of_decide_eq_true type, of_decide_eq_true parent⟩ ?_
  rw [wrote, answerId]
  rfl

theorem unacceptAnswer_commits (keyed : ItemsKeyed db) {command : UnacceptAnswerCommand}
    {answer : Unit}
    (ran : knowledgeEngine.aloneFrom db [] (UnacceptAnswerHandler.execute context command) =
      .ok (answer, writes)) :
    Commits context db (.unacceptAnswer command) none (knowledgeEngine.view db writes) := by
  rcases load_ok ran with ⟨orgId, row, tenant, found, org, live, ran⟩
  simp only [aloneFrom_bind_eq_ok, aloneFrom_throwUnless_eq_ok] at ran
  rcases ran with ⟨_, _, ⟨-, rfl⟩, _, _, ⟨-, rfl⟩, updated⟩
  have id := keyed _ _ found
  have wrote := update_ok updated (id ▸ found) (org ▸ tenant)
  exact stored_commits keyed tenant found org live trivial wrote

/-- Every command that succeeds commits what its case says. -/
theorem commits_of_ok (keyed : ItemsKeyed db)
    (ran : knowledgeEngine.aloneFrom db [] (command.execute context) = .ok (reply, writes)) :
    Commits context db command reply (knowledgeEngine.view db writes) := by
  cases command with
  | create command =>
      rcases aloneFrom_map_eq_ok.mp ran with ⟨answer, body, rfl⟩
      exact create_commits body
  | update command =>
      rcases aloneFrom_map_eq_ok.mp ran with ⟨answer, body, rfl⟩
      exact edit_commits keyed body
  | publish command =>
      rcases aloneFrom_map_eq_ok.mp ran with ⟨answer, body, rfl⟩
      exact publish_commits keyed body
  | verify command =>
      rcases aloneFrom_map_eq_ok.mp ran with ⟨answer, body, rfl⟩
      exact verify_commits keyed body
  | delete command =>
      rcases aloneFrom_map_eq_ok.mp ran with ⟨answer, body, rfl⟩
      exact delete_commits keyed body
  | acceptAnswer command =>
      rcases aloneFrom_map_eq_ok.mp ran with ⟨answer, body, rfl⟩
      exact acceptAnswer_commits keyed body
  | unacceptAnswer command =>
      rcases aloneFrom_map_eq_ok.mp ran with ⟨answer, body, rfl⟩
      exact unacceptAnswer_commits keyed body

/-- No command moves an item or changes what it is. -/
theorem KnowledgeCommand.stored_kept (command : KnowledgeCommand) (context : Context)
    (loaded : KnowledgeItem) (current : KnowledgeItemRow) :
    let row := command.stored context loaded current
    row.id = current.id ∧ row.orgId = current.orgId ∧ row.spaceId = current.spaceId ∧
      row.type = current.type ∧ row.parentId = current.parentId := by
  cases command <;> exact ⟨rfl, rfl, rfl, rfl, rfl⟩

theorem Commits.itemsKeyed (keyed : ItemsKeyed db)
    (commits : Commits context db command reply next) : ItemsKeyed next := by
  have all : db.items.All fun id row => row.id = id := keyed
  cases commits with
  | created fresh => exact all.set rfl
  | unchanged => exact keyed
  | @stored command orgId row tenant found org live checks =>
      have same : row.id = command.target := keyed _ _ found
      exact all.set ((KnowledgeCommand.stored_id _ _ _ _).trans same)

end CoreApi.Knowledge
