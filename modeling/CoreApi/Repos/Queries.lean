import CoreApi.Credit.Wallet
import CoreApi.Engagement.Commands

/-!
# The queries

The read models of the knowledge, engagement, feed and credit modules. Each takes
the organization as an argument and restricts the rows it reads to it. Rows with
equal sort keys come in the order in which the table keeps them. The database
promises no order for these, so that of the table stands for whatever it chooses.
-/

namespace CoreApi

open Credit Engagement Knowledge
open Outbox (FollowTargetType)

/-- What a query throws: an error of its own, or a page that starts before the first row. -/
inductive QueryError where
  | application (error : ApplicationError)
  | negativeSkip
deriving DecidableEq

/-- `orderBy: { ...: 'desc' }`, with ties in the order of the rows. -/
def descending {Row : Type} (by_ : Row → ℤ) (rows : List Row) : List Row :=
  rows.insertionSort fun left right => by_ right ≤ by_ left

/-- `take` and `skip`; a negative `take` counts from the last row. -/
def page {Row : Type} (take skip : ℤ) (rows : List Row) : Except QueryError (List Row) :=
  if skip < 0 then .error .negativeSkip
  else if take < 0 then .ok ((rows.reverse.drop skip.toNat).take take.natAbs).reverse
  else .ok ((rows.drop skip.toNat).take take.toNat)

/-- An item as a reader sees it. -/
structure KnowledgeItemDto where
  id : String
  orgId : String
  spaceId : String
  type : KnowledgeType
  title : String
  body : String
  parentId : Option String
  acceptedAnswerId : Option String
  status : KnowledgeStatus
  isVerified : Bool
  version : ℕ
  createdByUserId : String
  updatedByUserId : Option String
  createdAt : ℤ
  updatedAt : ℤ
deriving DecidableEq

/-- An item as a list shows it, without its text. -/
structure KnowledgeListItemDto where
  id : String
  type : KnowledgeType
  title : String
  status : KnowledgeStatus
  isVerified : Bool
  version : ℕ
  updatedAt : ℤ
deriving DecidableEq

structure RevisionDto where
  id : String
  version : ℕ
  editedByUserId : String
  createdAt : ℤ
deriving DecidableEq

/-- An absent or empty filter value filters nothing. -/
structure ItemFilter where
  spaceId : Option String
  type : Option KnowledgeType
  status : Option KnowledgeStatus

/-- The row passes the filters that are given. -/
def ItemFilter.Admits (filter : ItemFilter) (row : KnowledgeItemRow) : Prop :=
  (∀ spaceId ∈ filter.spaceId, spaceId ≠ "" → row.spaceId = spaceId) ∧
    (∀ type ∈ filter.type, row.type = type) ∧ ∀ status ∈ filter.status, row.status = status

instance (filter : ItemFilter) (row : KnowledgeItemRow) : Decidable (filter.Admits row) :=
  inferInstanceAs (Decidable (_ ∧ _ ∧ _))

namespace PrismaKnowledgeQueryRepository

/-- The item in the organization, unless it is deleted. -/
def findItemById (db : CoreDb) (id orgId : String) : Option KnowledgeItemDto :=
  (PrismaKnowledgeItemRepository.findFirst db.knowledge id orgId).map fun row =>
    { id := row.id
      orgId := row.orgId
      spaceId := row.spaceId
      type := row.type
      title := row.title
      body := row.body
      parentId := row.parentId
      acceptedAnswerId := row.acceptedAnswerId
      status := row.status
      isVerified := row.isVerified
      version := row.version
      createdByUserId := row.createdByUserId
      updatedByUserId := row.updatedByUserId
      createdAt := row.createdAt
      updatedAt := row.updatedAt }

/-- The items of the organization that are not deleted and pass the filter, those updated last
first. -/
def findItems (db : CoreDb) (orgId : String) (filter : ItemFilter) (limit offset : ℤ) :
    Except QueryError (List KnowledgeListItemDto) := do
  let rows := db.knowledge.items.values.filter fun row =>
    row.orgId = orgId ∧ filter.Admits row ∧ row.deletedAt = none
  let rows ← page limit offset (descending (fun row => row.updatedAt) rows)
  return rows.map fun row =>
    { id := row.id
      type := row.type
      title := row.title
      status := row.status
      isVerified := row.isVerified
      version := row.version
      updatedAt := row.updatedAt }

/-- The item of a revision is looked up with the organization, deleted or not. -/
def findRevisionsByItemId (db : CoreDb) (itemId orgId : String) : List RevisionDto :=
  let rows := db.knowledge.revisions.filter fun revision =>
    revision.itemId = itemId ∧ (db.knowledge.items.get? revision.itemId).any fun row =>
      row.orgId = orgId
  (descending (fun revision => revision.version) rows).map fun row =>
    { id := row.id
      version := row.version
      editedByUserId := row.editedByUserId
      createdAt := row.createdAt }

end PrismaKnowledgeQueryRepository

structure VoteSummaryDto where
  score : ℤ
  upvotes : ℕ
  downvotes : ℤ
  myVote : ℤ
deriving DecidableEq

structure BookmarkDto where
  itemId : String
  createdAt : ℤ
deriving DecidableEq

structure FollowDto where
  targetType : FollowTargetType
  targetId : String
  createdAt : ℤ
deriving DecidableEq

namespace PrismaEngagementQueryRepository

/-- The sum of the votes on an item, how many are up and down, and the vote of the reader. -/
def getVoteSummary (db : CoreDb) (itemId orgId userId : String) : VoteSummaryDto :=
  let rows := db.engagement.votes.values.filter fun vote =>
    vote.orgId = orgId ∧ vote.itemId = itemId
  let upvotes := rows.countP fun vote => vote.value = 1
  let myVoteRow := rows.find? fun vote => vote.userId = userId
  { score := (rows.map Vote.value).sum
    upvotes := upvotes
    downvotes := rows.length - upvotes
    myVote := (myVoteRow.map Vote.value).getD 0 }

/-- The bookmarks of a user in the organization, the latest first. -/
def listBookmarks (db : CoreDb) (orgId userId : String) (limit offset : ℤ) :
    Except QueryError (List BookmarkDto) := do
  let rows := db.engagement.bookmarks.values.filter fun bookmark =>
    bookmark.orgId = orgId ∧ bookmark.userId = userId
  let rows ← page limit offset (descending Bookmark.createdAt rows)
  return rows.map fun row => ⟨row.itemId, row.createdAt⟩

/-- The follows of a user in the organization, the latest first. -/
def listFollows (db : CoreDb) (orgId userId : String) (limit offset : ℤ) :
    Except QueryError (List FollowDto) := do
  let rows := db.engagement.follows.values.filter fun follow =>
    follow.orgId = orgId ∧ follow.userId = userId
  let rows ← page limit offset (descending Follow.createdAt rows)
  return rows.map fun row => ⟨row.targetType, row.targetId, row.createdAt⟩

end PrismaEngagementQueryRepository

structure FeedItemDto where
  itemId : String
  spaceId : String
  type : KnowledgeType
  title : String
  createdByUserId : String
  createdAt : ℤ
deriving DecidableEq

/-- The published items of the spaces that the user follows, the latest first. -/
def PrismaFeedQueryRepository.getFeed (db : CoreDb) (orgId userId : String) (limit offset : ℤ) :
    Except QueryError (List FeedItemDto) := do
  let follows := db.engagement.follows.values.filter fun follow =>
    follow.orgId = orgId ∧ follow.userId = userId ∧ follow.targetType = .space
  if follows = [] then return []
  let spaceIds := follows.map Follow.targetId
  let rows := db.knowledge.items.values.filter fun row =>
    row.orgId = orgId ∧ row.spaceId ∈ spaceIds ∧ row.status = .published ∧ row.deletedAt = none
  let rows ← page limit offset (descending (fun row => row.createdAt) rows)
  return rows.map fun row =>
    { itemId := row.id
      spaceId := row.spaceId
      type := row.type
      title := row.title
      createdByUserId := row.createdByUserId
      createdAt := row.createdAt }

structure AiQueryListItemDto where
  id : String
  question : String
  answer : Option String
  sources : List RagSource
  creditCost : Number
  status : AiQueryStatus
  createdAt : ℤ
deriving DecidableEq

/-- The latest questions of a user in the organization. -/
def PrismaAiQueryQueryRepository.listForUser (db : CoreDb) (orgId userId : String) (limit : ℕ) :
    List AiQueryListItemDto :=
  let rows := db.aiQueries.values.filter fun row => row.orgId = orgId ∧ row.userId = userId
  ((descending StoredAiQuery.createdAt rows).take limit).map fun row =>
    { id := row.id
      question := row.question
      answer := row.answer
      sources := row.sources
      creditCost := row.creditCost
      status := row.status
      createdAt := row.createdAt }

/-- The queries of the modules, as their handlers are called. -/
inductive CoreQuery where
  | getKnowledgeItem (id orgId : String)
  | listKnowledgeItems (orgId : String) (filter : ItemFilter) (limit offset : ℤ)
  | listRevisions (itemId orgId : String)
  | getVoteSummary (itemId orgId userId : String)
  | listBookmarks (orgId userId : String) (limit offset : ℤ)
  | listFollows (orgId userId : String) (limit offset : ℤ)
  | getFeed (orgId userId : String) (limit offset : ℤ)
  | getWallet (orgId userId : String)
  | listAiQueries (orgId userId : String)

/-- What the queries answer. -/
inductive CoreAnswer where
  | knowledgeItem (item : KnowledgeItemDto)
  | knowledgeItems (items : List KnowledgeListItemDto)
  | revisions (revisions : List RevisionDto)
  | voteSummary (summary : VoteSummaryDto)
  | bookmarks (bookmarks : List BookmarkDto)
  | follows (follows : List FollowDto)
  | feed (items : List FeedItemDto)
  | wallet (wallet : WalletDto)
  | aiQueries (queries : List AiQueryListItemDto)
deriving DecidableEq

def GetWalletHandler.recentLedgerLimit : ℤ := 50

def ListAiQueriesHandler.historyLimit : ℕ := 50

/-- An item that is not found is an error. -/
def GetKnowledgeItemHandler.execute (db : CoreDb) (id orgId : String) :
    Except QueryError KnowledgeItemDto :=
  match PrismaKnowledgeQueryRepository.findItemById db id orgId with
  | some item => .ok item
  | none => .error (.application knowledgeItemNotFoundError)

/-- What a query answers on a database. -/
def CoreQuery.execute (db : CoreDb) : CoreQuery → Except QueryError CoreAnswer
  | .getKnowledgeItem id orgId => .knowledgeItem <$> GetKnowledgeItemHandler.execute db id orgId
  | .listKnowledgeItems orgId filter limit offset =>
      .knowledgeItems <$> PrismaKnowledgeQueryRepository.findItems db orgId filter limit offset
  | .listRevisions itemId orgId =>
      .ok (.revisions (PrismaKnowledgeQueryRepository.findRevisionsByItemId db itemId orgId))
  | .getVoteSummary itemId orgId userId =>
      .ok (.voteSummary (PrismaEngagementQueryRepository.getVoteSummary db itemId orgId userId))
  | .listBookmarks orgId userId limit offset =>
      .bookmarks <$> PrismaEngagementQueryRepository.listBookmarks db orgId userId limit offset
  | .listFollows orgId userId limit offset =>
      .follows <$> PrismaEngagementQueryRepository.listFollows db orgId userId limit offset
  | .getFeed orgId userId limit offset =>
      .feed <$> PrismaFeedQueryRepository.getFeed db orgId userId limit offset
  | .getWallet orgId userId =>
      .ok (.wallet (PrismaWalletQueryRepository.getWallet db.creditEvents orgId userId
        GetWalletHandler.recentLedgerLimit))
  | .listAiQueries orgId userId =>
      .ok (.aiQueries (PrismaAiQueryQueryRepository.listForUser db orgId userId
        ListAiQueriesHandler.historyLimit))

/-- The organization a query is asked about. -/
def CoreQuery.orgId : CoreQuery → String
  | .getKnowledgeItem _ orgId => orgId
  | .listKnowledgeItems orgId _ _ _ => orgId
  | .listRevisions _ orgId => orgId
  | .getVoteSummary _ orgId _ => orgId
  | .listBookmarks orgId _ _ _ => orgId
  | .listFollows orgId _ _ _ => orgId
  | .getFeed orgId _ _ _ => orgId
  | .getWallet orgId _ => orgId
  | .listAiQueries orgId _ => orgId

end CoreApi
