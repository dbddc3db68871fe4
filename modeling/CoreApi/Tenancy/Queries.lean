import CoreApi.Repos.Queries
import CoreApi.Tenancy.Rows

/-!
# Queries and the rows of an organization

Every query about an organization is a function of its rows.
-/

namespace CoreApi

open Credit Engagement Knowledge Tenant

section Reads

variable {db db' : CoreDb} {orgId : String} (same : db.rowsOf orgId = db'.rowsOf orgId)

include same

theorem findFirst_congr (id : String) :
    PrismaKnowledgeItemRepository.findFirst db.knowledge id orgId =
      PrismaKnowledgeItemRepository.findFirst db'.knowledge id orgId := by
  have rows : db.knowledge.items.ownedBy (fun row => row.orgId) orgId =
      db'.knowledge.items.ownedBy (fun row => row.orgId) orgId := congrArg OrgRows.items same
  exact congrArg (Option.map KnowledgeItemRow.toKnowledgeItem)
    (OrderedMap.lookup_filter_congr rows id fun row => row.deletedAt = none)

theorem findSpace_congr (id : String) :
    PrismaSpaceRepository.findFirst db.tenant id orgId =
      PrismaSpaceRepository.findFirst db'.tenant id orgId := by
  have rows : db.tenant.spaces.ownedBy Space.orgId orgId =
      db'.tenant.spaces.ownedBy Space.orgId orgId := congrArg OrgRows.spaces same
  exact OrderedMap.lookup_filter_congr rows id fun space => space.deletedAt = none

theorem findWalletRows_congr (userId : String) :
    findWalletRows db.creditEvents orgId userId = findWalletRows db'.creditEvents orgId userId := by
  have rows : db.creditEvents.filter (fun row => row.orgId = orgId) =
      db'.creditEvents.filter fun row => row.orgId = orgId := congrArg OrgRows.creditEvents same
  have split : ∀ table : List CreditEventRow, (table.filter fun row =>
      row.aggregateId = CreditAccount.walletId orgId userId ∧ row.orgId = orgId) =
        (table.filter fun row => row.orgId = orgId).filter fun row =>
          row.aggregateId = CreditAccount.walletId orgId userId := by
    intro table
    simp [List.filter_filter]
  rw [findWalletRows, findWalletRows, split, split, rows]

theorem revisions_congr (itemId : String) :
    (db.knowledge.revisions.filter fun revision => revision.itemId = itemId ∧
      (db.knowledge.items.get? revision.itemId).any fun row => row.orgId = orgId) =
    db'.knowledge.revisions.filter fun revision => revision.itemId = itemId ∧
      (db'.knowledge.items.get? revision.itemId).any fun row => row.orgId = orgId := by
  have rows : db.knowledge.revisions.filter (fun revision =>
      ownsItem db.knowledge orgId revision.itemId) =
      db'.knowledge.revisions.filter fun revision =>
        ownsItem db'.knowledge orgId revision.itemId := congrArg OrgRows.revisions same
  have split : ∀ knowledge : KnowledgeDb, (knowledge.revisions.filter fun revision =>
      revision.itemId = itemId ∧ (knowledge.items.get? revision.itemId).any fun row =>
        row.orgId = orgId) =
      (knowledge.revisions.filter fun revision => ownsItem knowledge orgId revision.itemId).filter
        fun revision => revision.itemId = itemId := by
    intro knowledge
    simp [List.filter_filter, ownsItem]
  rw [split, split, rows]

end Reads

/-- A query about an organization answers the same wherever the organization's rows are the same. -/
theorem CoreQuery.execute_congr {db db' : CoreDb} (query : CoreQuery)
    (same : db.rowsOf query.orgId = db'.rowsOf query.orgId) :
    query.execute db = query.execute db' := by
  cases query with
  | getKnowledgeItem id orgId =>
      have item := findFirst_congr same id
      simp only [CoreQuery.orgId] at item
      simp only [execute, GetKnowledgeItemHandler.execute,
        PrismaKnowledgeQueryRepository.findItemById, item]
  | listKnowledgeItems orgId filter limit offset =>
      have items : db.knowledge.items.ownedBy (fun row => row.orgId) orgId = _ :=
        congrArg OrgRows.items same
      simp only [execute, PrismaKnowledgeQueryRepository.findItems,
        OrderedMap.values_filter_ownedBy, items]
      rfl
  | listRevisions itemId orgId =>
      exact congrArg (fun rows => Except.ok (CoreAnswer.revisions
        ((descending (fun revision : Revision => revision.version) rows).map fun row =>
          ⟨row.id, row.version, row.editedByUserId, row.createdAt⟩)))
        (revisions_congr same itemId)
  | getVoteSummary itemId orgId userId =>
      have votes : db.engagement.votes.ownedBy Vote.orgId orgId = _ := congrArg OrgRows.votes same
      simp only [execute, PrismaEngagementQueryRepository.getVoteSummary,
        OrderedMap.values_filter_ownedBy, votes]
      rfl
  | listBookmarks orgId userId limit offset =>
      have bookmarks : db.engagement.bookmarks.ownedBy Bookmark.orgId orgId = _ :=
        congrArg OrgRows.bookmarks same
      simp only [execute, PrismaEngagementQueryRepository.listBookmarks,
        OrderedMap.values_filter_ownedBy, bookmarks]
      rfl
  | listFollows orgId userId limit offset =>
      have follows : db.engagement.follows.ownedBy Follow.orgId orgId = _ :=
        congrArg OrgRows.follows same
      simp only [execute, PrismaEngagementQueryRepository.listFollows,
        OrderedMap.values_filter_ownedBy, follows]
      rfl
  | getFeed orgId userId limit offset =>
      have follows : db.engagement.follows.ownedBy Follow.orgId orgId = _ :=
        congrArg OrgRows.follows same
      have items : db.knowledge.items.ownedBy (fun row => row.orgId) orgId = _ :=
        congrArg OrgRows.items same
      simp only [execute, PrismaFeedQueryRepository.getFeed, OrderedMap.values_filter_ownedBy,
        follows, items]
      rfl
  | getWallet orgId userId =>
      have rows := findWalletRows_congr same userId
      simp only [CoreQuery.orgId] at rows
      simp only [execute, PrismaWalletQueryRepository.getWallet, rows]
  | listAiQueries orgId userId =>
      have queries : db.aiQueries.ownedBy (fun row => row.orgId) orgId = _ :=
        congrArg OrgRows.aiQueries same
      simp only [execute, PrismaAiQueryQueryRepository.listForUser,
        OrderedMap.values_filter_ownedBy, queries]
      rfl

end CoreApi
