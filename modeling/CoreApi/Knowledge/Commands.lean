import CoreApi.Foundation.OrderedMap
import CoreApi.Foundation.ReadCommitted
import CoreApi.Knowledge.Item

/-!
# The transactional commands on knowledge items

The commands of the knowledge module and the two commands of the engagement
module that write items. Each loads whole items, changes them in memory and
writes a set of columns back: an edit under a version check, the other commands
without one.
-/

namespace CoreApi.Knowledge

/-- A row of `knowledge_items`; the hash of the content is a column of the database alone. -/
structure KnowledgeItemRow extends KnowledgeItem where
  contentHash : Option String
deriving DecidableEq

/-- `KnowledgePublished`, with the item as it is when it is published. -/
structure KnowledgePublishedEvent where
  aggregateId : String
  orgId : String
  itemId : String
  spaceId : String
  type : KnowledgeType
  title : String
  body : String
  createdByUserId : String
deriving DecidableEq

/-- The tables the commands read and write; items are unique by id. -/
structure KnowledgeDb where
  items : OrderedMap String KnowledgeItemRow
  revisions : List Revision
  outbox : List KnowledgePublishedEvent

/-- What a command writes: an item under its id, a revision, an event of the outbox. -/
inductive KnowledgeWrite where
  | putItem (row : KnowledgeItemRow)
  | insertRevision (revision : Revision)
  | appendOutbox (event : KnowledgePublishedEvent)
deriving DecidableEq

/-- A row that is written, and the unique key of the revisions. -/
inductive KnowledgeLock where
  | item (id : String)
  | revision (itemId : String) (version : ℕ)
deriving DecidableEq

/-- The database of the knowledge module; what is locked is the row of an item and the unique key of
a revision. -/
def knowledgeEngine : Engine KnowledgeDb KnowledgeWrite KnowledgeLock where
  apply db
    | .putItem row => { db with items := db.items.set row.id row }
    | .insertRevision revision => { db with revisions := db.revisions ++ [revision] }
    | .appendOutbox event => { db with outbox := db.outbox ++ [event] }
  lock
    | .putItem row => some (.item row.id)
    | .insertRevision revision => some (.revision revision.itemId revision.version)
    | .appendOutbox _ => none

/-- A transaction of the knowledge module. -/
abbrev KnowledgeTx := Tx KnowledgeDb KnowledgeWrite KnowledgeError

/-- What a command runs with: the tenant of its request, the id it draws, the time its code reads
and the time the database client stamps on a row. -/
structure Context where
  tenantId : Option String
  id : String
  now : ℤ
  writtenAt : ℤ

/-- A request without a tenant fails; an empty one counts as missing. -/
def requireTenantId (context : Context) : KnowledgeTx String :=
  match context.tenantId with
  | some orgId =>
      if orgId = "" then
        .fail (.tenantContextNotSet "Tenant context is not set (missing OrgGuard / X-Org-Id?)")
      else pure orgId
  | none =>
      .fail (.tenantContextNotSet "Tenant context is not set (missing OrgGuard / X-Org-Id?)")

namespace PrismaKnowledgeItemRepository

variable (context : Context)

/-- `save`: the item is inserted. -/
def save (item : KnowledgeItem) : KnowledgeTx Unit :=
  .execute fun db =>
    match db.items.get? item.id with
    | some _ => .error (.uniqueConstraint ["id"])
    | none => .ok ([.putItem { item with
        createdAt := context.writtenAt
        updatedAt := context.writtenAt
        contentHash := none }], ())

/-- The soft-delete extension adds `deletedAt: null` to the query. -/
def findFirst (db : KnowledgeDb) (id orgId : String) : Option KnowledgeItem :=
  ((db.items.get? id).filter fun row => row.orgId = orgId ∧ row.deletedAt = none).map
    KnowledgeItemRow.toKnowledgeItem

/-- The item in the organization of the request, unless it is deleted. -/
def findById (id : String) : KnowledgeTx (Option KnowledgeItem) := do
  let orgId ← requireTenantId context
  Tx.read fun db => findFirst db id orgId

/-- The columns an edit writes. -/
def occData (item : KnowledgeItem) (row : KnowledgeItemRow) : KnowledgeItemRow :=
  { row with
    title := item.title
    body := item.body
    status := item.status
    isVerified := item.isVerified
    version := item.version
    updatedByUserId := item.updatedByUserId
    updatedAt := context.writtenAt
    deletedAt := item.deletedAt }

/-- The columns the other commands write. -/
def data (item : KnowledgeItem) (row : KnowledgeItemRow) : KnowledgeItemRow :=
  { row with
    status := item.status
    isVerified := item.isVerified
    acceptedAnswerId := item.acceptedAnswerId
    updatedByUserId := item.updatedByUserId
    updatedAt := context.writtenAt
    deletedAt := item.deletedAt }

/-- `updateMany` on one id: the writes, and whether there was a row that met the condition. -/
def updateMany (db : KnowledgeDb) (id : String) (condition : KnowledgeItemRow → Bool)
    (data : KnowledgeItemRow → KnowledgeItemRow) : List KnowledgeWrite × Bool :=
  match (db.items.get? id).filter condition with
  | some row => ([.putItem (data row)], true)
  | none => ([], false)

/-- The columns of an edit are written back if the item still has the expected version; the answer
tells whether it had. -/
def updateWithOcc (item : KnowledgeItem) (expectedVersion : ℕ) : KnowledgeTx Bool := do
  let orgId ← requireTenantId context
  Tx.execute fun db => .ok (updateMany db item.id
    (fun row => row.orgId = orgId ∧ row.version = expectedVersion) (occData context item))

/-- The columns of the other commands are written back, whatever has changed meanwhile. -/
def update (item : KnowledgeItem) : KnowledgeTx Unit := do
  let orgId ← requireTenantId context
  Tx.execute fun db => .ok ((updateMany db item.id (fun row => row.orgId = orgId)
    (data context item)).1, ())

end PrismaKnowledgeItemRepository

/-- A revision is inserted, unless the item has one of that version. -/
def PrismaRevisionRepository.save (context : Context) (revision : Revision) : KnowledgeTx Unit :=
  .execute fun db =>
    if ∃ stored ∈ db.revisions, stored.itemId = revision.itemId ∧
        stored.version = revision.version then
      .error (.uniqueConstraint ["item_id", "version"])
    else .ok ([.insertRevision { revision with createdAt := context.writtenAt }], ())

def PrismaOutboxWriter.append (event : KnowledgePublishedEvent) : KnowledgeTx Unit :=
  .write [.appendOutbox event]

structure CreateKnowledgeCommand where
  orgId : String
  spaceId : String
  type : KnowledgeType
  title : String
  body : String
  parentId : Option String
  createdByUserId : String

structure UpdateKnowledgeCommand where
  id : String
  expectedVersion : ℕ
  title : String
  body : String
  editedByUserId : String

structure PublishKnowledgeCommand where
  id : String

structure VerifyKnowledgeCommand where
  id : String
  verifierUserId : String

structure DeleteKnowledgeCommand where
  id : String

structure AcceptAnswerCommand where
  questionId : String
  answerId : String
  actorUserId : String

structure UnacceptAnswerCommand where
  questionId : String
  actorUserId : String

/-- `if (!item) throw new KnowledgeItemNotFoundError()` -/
def orNotFound : Option KnowledgeItem → KnowledgeTx KnowledgeItem
  | some item => pure item
  | none => .fail (.application knowledgeItemNotFoundError)

/-- `if (...) throw new ...` -/
def throwUnless (condition : Bool) (error : ApplicationError) : KnowledgeTx Unit :=
  if condition then pure () else .fail (.application error)

open PrismaKnowledgeItemRepository

variable (context : Context)

/-- The item is created as a draft under a new id. -/
def CreateKnowledgeHandler.execute (command : CreateKnowledgeCommand) : KnowledgeTx String := do
  let item := KnowledgeItem.create context.id context.now command.orgId command.spaceId
    command.type command.title command.body command.parentId command.createdByUserId
  save context item
  return item.id

/-- The item is edited against the version the editor has seen, and the new body is kept as a
revision. -/
def UpdateKnowledgeHandler.execute (command : UpdateKnowledgeCommand) : KnowledgeTx Unit := do
  let item ← orNotFound (← findById context command.id)
  let item := item.applyEdit context.now command.title command.body command.editedByUserId
  let ok ← updateWithOcc context item command.expectedVersion
  throwUnless ok knowledgeVersionConflictError
  PrismaRevisionRepository.save context
    { id := context.id
      itemId := item.id
      version := item.version
      bodySnapshot := item.body
      editedByUserId := command.editedByUserId
      createdAt := context.now }

/-- A draft is published, and the event appended. -/
def PublishKnowledgeHandler.execute (command : PublishKnowledgeCommand) : KnowledgeTx Unit := do
  let item ← orNotFound (← findById context command.id)
  throwUnless (item.status = .draft)
    (invalidKnowledgeStateError "Only DRAFT items can be published")
  let item := item.publish
  update context item
  PrismaOutboxWriter.append
    { aggregateId := item.id
      orgId := item.orgId
      itemId := item.id
      spaceId := item.spaceId
      type := item.type
      title := item.title
      body := item.body
      createdByUserId := item.createdByUserId }

/-- An item that is verified already is left alone. -/
def VerifyKnowledgeHandler.execute (command : VerifyKnowledgeCommand) : KnowledgeTx Unit := do
  let item ← orNotFound (← findById context command.id)
  let (changed, item) := item.verify context.now command.verifierUserId
  if !changed then return
  update context item

/-- The deletion is a column of the row. -/
def DeleteKnowledgeHandler.execute (command : DeleteKnowledgeCommand) : KnowledgeTx Unit := do
  let item ← orNotFound (← findById context command.id)
  update context (item.softDelete context.now)

/-- The author of a question accepts one of its answers. -/
def AcceptAnswerHandler.execute (command : AcceptAnswerCommand) : KnowledgeTx Unit := do
  let question ← orNotFound (← findById context command.questionId)
  throwUnless (question.type = .question) notAQuestionError
  throwUnless (question.createdByUserId = command.actorUserId) acceptAnswerForbiddenError
  let answer ← orNotFound (← findById context command.answerId)
  throwUnless (answer.type = .answer) notAnAnswerError
  throwUnless (answer.parentId = some question.id) answerNotForQuestionError
  update context (question.acceptAnswer context.now answer.id)

/-- The author of a question takes the acceptance back. -/
def UnacceptAnswerHandler.execute (command : UnacceptAnswerCommand) : KnowledgeTx Unit := do
  let question ← orNotFound (← findById context command.questionId)
  throwUnless (question.type = .question) notAQuestionError
  throwUnless (question.createdByUserId = command.actorUserId) acceptAnswerForbiddenError
  update context (question.clearAcceptedAnswer context.now)

/-- The commands of the knowledge module. -/
inductive KnowledgeCommand where
  | create (command : CreateKnowledgeCommand)
  | update (command : UpdateKnowledgeCommand)
  | publish (command : PublishKnowledgeCommand)
  | verify (command : VerifyKnowledgeCommand)
  | delete (command : DeleteKnowledgeCommand)
  | acceptAnswer (command : AcceptAnswerCommand)
  | unacceptAnswer (command : UnacceptAnswerCommand)

/-- A created item's id is answered by the first command alone. -/
def KnowledgeCommand.execute : KnowledgeCommand → KnowledgeTx (Option String)
  | .create command => some <$> CreateKnowledgeHandler.execute context command
  | .update command => (fun _ => none) <$> UpdateKnowledgeHandler.execute context command
  | .publish command => (fun _ => none) <$> PublishKnowledgeHandler.execute context command
  | .verify command => (fun _ => none) <$> VerifyKnowledgeHandler.execute context command
  | .delete command => (fun _ => none) <$> DeleteKnowledgeHandler.execute context command
  | .acceptAnswer command => (fun _ => none) <$> AcceptAnswerHandler.execute context command
  | .unacceptAnswer command => (fun _ => none) <$> UnacceptAnswerHandler.execute context command

/-- Any number of commands, on items that have not been edited yet. -/
def knowledgeWorkload (contexts : ℕ → Context) (commands : ℕ → KnowledgeCommand) :
    Workload ℕ KnowledgeDb KnowledgeWrite KnowledgeLock KnowledgeError (Option String) where
  toEngine := knowledgeEngine
  program client := (commands client).execute (contexts client)
  initial db := db.revisions = [] ∧ ∀ id row, db.items.get? id = some row →
    row.id = id ∧ row.version = 1
  external _ _ := False

end CoreApi.Knowledge
