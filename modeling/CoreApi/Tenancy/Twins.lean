import CoreApi.Tenancy.Ownership
import CoreApi.Tenancy.Queries

/-!
# Databases that agree on an organization

Two databases on which an organization has the same rows, each with its rows tied
to their organizations. Under a key that refers to something of the organization
nobody else has a row, so a lookup by such a key finds the same in both.
-/

namespace CoreApi

open Credit Engagement Knowledge Tenant
open Outbox (FollowTargetType)

variable {drawn drawn' : String → String → Prop} {orgId : String} {db db' : CoreDb}

theorem ownsItem_iff {itemId : String} :
    ownsItem db.knowledge orgId itemId = true ↔ ownerOf db (.item itemId) = some orgId := by
  simp [ownsItem, ownerOf, Option.any_eq_true]

/-- A reservation is drawn by one organization. -/
def DrawnOnce (drawn : String → String → Prop) : Prop :=
  ∀ reservationId orgId other, drawn reservationId orgId → drawn reservationId other →
    orgId = other

namespace Owned

variable (owned : Owned drawn db)

include owned

theorem archived : RevisionsHaveItems db.knowledge := by
  intro revision member
  have stored := owned.revisions revision member
  simpa [ownerOf] using stored

theorem free_item {id : String} {row : KnowledgeItemRow}
    (stored : db.knowledge.items.get? id = some row) (own : row.orgId = orgId) :
    db.knowledge.items.Free (fun row => row.orgId) orgId row.id := by
  rw [owned.items id row stored]
  intro other found
  obtain rfl : row = other := Option.some.inj (stored.symm.trans found)
  exact own

theorem free_vote {itemId : String} (owner : ownerOf db (.item itemId) = some orgId)
    (userId : String) : db.engagement.votes.Free Vote.orgId orgId (itemId, userId) := by
  intro vote found
  rcases owned.votes _ vote found with ⟨key, owner'⟩
  rw [(Prod.mk.inj key).1] at owner'
  exact Option.some.inj (owner'.symm.trans owner)

theorem free_bookmark {itemId : String} (owner : ownerOf db (.item itemId) = some orgId)
    (userId : String) : db.engagement.bookmarks.Free Bookmark.orgId orgId (userId, itemId) := by
  intro bookmark found
  rcases owned.bookmarks _ bookmark found with ⟨key, owner'⟩
  rw [(Prod.mk.inj key).2] at owner'
  exact Option.some.inj (owner'.symm.trans owner)

theorem free_follow {targetType : FollowTargetType} {targetId : String}
    (owner : ownerOf db (followed targetType targetId) = some orgId) (userId : String) :
    db.engagement.follows.Free Follow.orgId orgId ⟨userId, targetType, targetId⟩ := by
  intro follow found
  rcases owned.follows _ follow found with ⟨key, owner'⟩
  rw [Follow.key, FollowKey.mk.injEq] at key
  rw [key.2.1, key.2.2] at owner'
  exact Option.some.inj (owner'.symm.trans owner)

theorem free_aiQuery (once : DrawnOnce drawn) {reservationId : String}
    (own : drawn reservationId orgId) :
    db.aiQueries.Free (fun row => row.orgId) orgId reservationId := by
  intro row found
  exact once _ _ _ (owned.aiQueries _ row found) own

/-- Who is a member shows in the rows of the organization. -/
theorem member_iff {userId : String} :
    (orgId, userId) ∈ db.credit.memberships ↔
      (orgId, userId) ∈ (db.rowsOf orgId).memberships.map Prod.fst := by
  change (orgId, userId) ∈ db.tenant.memberships.entries.map Prod.fst ↔
    (orgId, userId) ∈ (db.tenant.memberships.ownedBy Membership.orgId orgId).map Prod.fst
  simp only [List.mem_map, OrderedMap.ownedBy, List.mem_filter, decide_eq_true_eq]
  constructor
  · rintro ⟨⟨key, membership⟩, member, rfl⟩
    have stored : db.tenant.memberships.get? (orgId, userId) = some membership :=
      (OrderedMap.lookup_eq_some_iff db.tenant.memberships.distinct).mpr member
    have keyed := owned.memberships _ membership stored
    exact ⟨_, ⟨member, (Prod.mk.inj keyed).1⟩, rfl⟩
  · rintro ⟨entry, ⟨member, -⟩, same⟩
    exact ⟨entry, member, same⟩

end Owned

/-- The part of a text before its first colon. -/
theorem walletId_org {orgId orgId' userId userId' : String} (plain : ':' ∉ orgId.toList)
    (plain' : ':' ∉ orgId'.toList)
    (same : CreditAccount.walletId orgId userId = CreditAccount.walletId orgId' userId') :
    orgId = orgId' := by
  have texts := congrArg String.toList same
  simp only [CreditAccount.walletId, String.toList_append, List.append_assoc] at texts
  have before : ∀ (org user : List Char), ':' ∉ org →
      (org ++ (":".toList ++ user)).takeWhile (· ≠ ':') = org := by
    intro org user plain
    rw [List.takeWhile_append_of_pos]
    · simp
    · intro char member
      simpa using fun same : char = ':' => plain (same ▸ member)
  have orgs := congrArg (List.takeWhile (· ≠ ':')) texts
  rw [before _ _ plain, before _ _ plain'] at orgs
  exact String.toList_inj.mp orgs

/-- A wallet of the organization has the same versions in its rows as in the whole ledger. -/
theorem Owned.version_iff (owned : Owned drawn db) (plain : ':' ∉ orgId.toList) {userId : String}
    {version : ℕ} :
    (CreditAccount.walletId orgId userId, version) ∈
        db.creditEvents.map (fun row => (row.aggregateId, row.version)) ↔
      (CreditAccount.walletId orgId userId, version) ∈
        (db.rowsOf orgId).creditEvents.map fun row => (row.aggregateId, row.version) := by
  simp only [CoreDb.rowsOf, List.mem_map, List.mem_filter, decide_eq_true_eq, Prod.mk.injEq]
  constructor
  · rintro ⟨row, member, aggregate, same⟩
    have ledger := owned.creditEvents row member
    have org := walletId_org ledger.plain plain (ledger.aggregateId.symm.trans aggregate)
    exact ⟨row, ⟨member, org⟩, aggregate, same⟩
  · rintro ⟨row, ⟨member, -⟩, aggregate, same⟩
    exact ⟨row, member, aggregate, same⟩

/-- Two databases with the same rows of an organization. -/
structure Twins (drawn drawn' : String → String → Prop) (orgId : String) (db db' : CoreDb) :
    Prop where
  first : Owned drawn db
  second : Owned drawn' db'
  same : db.rowsOf orgId = db'.rowsOf orgId

/-- A write of the organization on both. -/
def WithinBoth (orgId : String) (db db' : CoreDb) (write : CoreWrite) : Prop :=
  Within orgId db write ∧ Within orgId db' write

namespace Twins

variable (twins : Twins drawn drawn' orgId db db')

include twins

theorem items : db.knowledge.items.ownedBy (fun row => row.orgId) orgId =
    db'.knowledge.items.ownedBy (fun row => row.orgId) orgId := congrArg OrgRows.items twins.same

theorem votes : db.engagement.votes.ownedBy Vote.orgId orgId =
    db'.engagement.votes.ownedBy Vote.orgId orgId := congrArg OrgRows.votes twins.same

theorem bookmarks : db.engagement.bookmarks.ownedBy Bookmark.orgId orgId =
    db'.engagement.bookmarks.ownedBy Bookmark.orgId orgId := congrArg OrgRows.bookmarks twins.same

theorem follows : db.engagement.follows.ownedBy Follow.orgId orgId =
    db'.engagement.follows.ownedBy Follow.orgId orgId := congrArg OrgRows.follows twins.same

theorem aiQueries : db.aiQueries.ownedBy (fun row => row.orgId) orgId =
    db'.aiQueries.ownedBy (fun row => row.orgId) orgId := congrArg OrgRows.aiQueries twins.same

/-- An item of the organization is the same in both. -/
theorem item {id : String} {row : KnowledgeItemRow}
    (stored : db.knowledge.items.get? id = some row) (own : row.orgId = orgId) :
    db'.knowledge.items.get? id = some row := by
  have same := OrderedMap.lookup_congr twins.items id
  rw [stored, Option.filter_some, if_pos (decide_eq_true own)] at same
  exact (Option.filter_eq_some_iff.mp same.symm).1

theorem space {id : String} {space : Space} (stored : db.tenant.spaces.get? id = some space)
    (own : space.orgId = orgId) : db'.tenant.spaces.get? id = some space := by
  have spaces : db.tenant.spaces.ownedBy Space.orgId orgId =
      db'.tenant.spaces.ownedBy Space.orgId orgId := congrArg OrgRows.spaces twins.same
  have same := OrderedMap.lookup_congr spaces id
  rw [stored, Option.filter_some, if_pos (decide_eq_true own)] at same
  exact (Option.filter_eq_some_iff.mp same.symm).1

/-- So is the revision of an item of the organization. -/
theorem revision_iff {itemId : String} (owner : ownerOf db (.item itemId) = some orgId)
    (owner' : ownerOf db' (.item itemId) = some orgId) {version : ℕ} :
    (∃ stored ∈ db.knowledge.revisions, stored.itemId = itemId ∧ stored.version = version) ↔
      ∃ stored ∈ db'.knowledge.revisions, stored.itemId = itemId ∧ stored.version = version := by
  have rows : db.knowledge.revisions.filter (fun revision =>
      ownsItem db.knowledge orgId revision.itemId) =
      db'.knowledge.revisions.filter fun revision =>
        ownsItem db'.knowledge orgId revision.itemId := congrArg OrgRows.revisions twins.same
  have among : ∀ {db : CoreDb}, ownerOf db (.item itemId) = some orgId →
      ((∃ stored ∈ db.knowledge.revisions, stored.itemId = itemId ∧ stored.version = version) ↔
        ∃ stored ∈ db.knowledge.revisions.filter (fun revision =>
          ownsItem db.knowledge orgId revision.itemId),
          stored.itemId = itemId ∧ stored.version = version) := by
    intro db owner
    constructor
    · rintro ⟨stored, member, rfl, same⟩
      exact ⟨stored, List.mem_filter.mpr ⟨member, ownsItem_iff.mpr owner⟩, rfl, same⟩
    · rintro ⟨stored, member, same⟩
      exact ⟨stored, List.mem_of_mem_filter member, same⟩
  rw [among owner, among owner', rows]

end Twins

end CoreApi
