import CoreApi.Foundation.Registry
import CoreApi.Repos.Commands

/-!
# Whose a row is

An item or a space belongs to the organization under which it was created. The
keys of votes, bookmarks, follows and AI queries do not name an organization;
what ties such a row to one is the item, the space or the reservation in its key.
-/

namespace CoreApi

open Credit Engagement Knowledge Tenant
open Outbox (FollowTargetType)

/-- A row that other rows refer to by its id. -/
inductive RowKey where
  | item (id : String)
  | space (id : String)
deriving DecidableEq

/-- The row that a follow refers to. -/
def followed : FollowTargetType → String → RowKey
  | .document, id => .item id
  | .space, id => .space id

/-- The organization of the row under a key. -/
def ownerOf (db : CoreDb) : RowKey → Option String
  | .item id => (db.knowledge.items.get? id).map fun row => row.orgId
  | .space id => (db.tenant.spaces.get? id).map Space.orgId

namespace CoreWrite

/-- The row a write stores under an organization. -/
def claim : CoreWrite → Option (RowKey × String)
  | .tenant (.putSpace space) => some (.space space.id, space.orgId)
  | .knowledge (.putItem row) => some (.item row.id, row.orgId)
  | _ => none

end CoreWrite

variable (drawn : String → String → Prop)

/-- A row of a wallet of its organization, about a reservation drawn there. -/
structure LedgerRow (row : CreditEventRow) : Prop where
  aggregateId : row.aggregateId = CreditAccount.walletId row.orgId row.userId
  plain : ':' ∉ row.orgId.toList
  reservation : ∀ reservationId, row.payload.reservationId = some reservationId →
    drawn reservationId row.orgId

/-- A row that refers to another carries the organization of that one. -/
def CoreWrite.Refers (owners : RowKey → Option String) : CoreWrite → Prop
  | .knowledge (.insertRevision revision) => (owners (.item revision.itemId)).isSome
  | .engagement (.putVote vote) => owners (.item vote.itemId) = some vote.orgId
  | .engagement (.putBookmark bookmark) => owners (.item bookmark.itemId) = some bookmark.orgId
  | .engagement (.putFollow follow) =>
      owners (followed follow.targetType follow.targetId) = some follow.orgId
  | .credit _ (.insertCreditEvent row) => LedgerRow drawn row
  | .credit _ (.upsertAiQuery row) => drawn row.reservationId row.orgId
  | _ => True

/-- Rows stand under their keys, and carry the organization of what they refer to. -/
structure Tables (owners : RowKey → Option String) (db : CoreDb) : Prop where
  memberships : db.tenant.memberships.All fun key membership =>
    (membership.orgId, membership.userId) = key
  spaces : db.tenant.spaces.All fun id space => space.id = id
  items : db.knowledge.items.All fun id row => row.id = id
  revisions : ∀ revision ∈ db.knowledge.revisions, (owners (.item revision.itemId)).isSome
  votes : db.engagement.votes.All fun key vote =>
    (vote.itemId, vote.userId) = key ∧ owners (.item vote.itemId) = some vote.orgId
  bookmarks : db.engagement.bookmarks.All fun key bookmark =>
    (bookmark.userId, bookmark.itemId) = key ∧ owners (.item bookmark.itemId) = some bookmark.orgId
  follows : db.engagement.follows.All fun key follow =>
    follow.key = key ∧ owners (followed follow.targetType follow.targetId) = some follow.orgId
  creditEvents : ∀ row ∈ db.creditEvents, LedgerRow drawn row
  aiQueries : db.aiQueries.All fun key row => drawn key row.orgId

/-- Every row is tied to its organization. -/
def Owned (db : CoreDb) : Prop := Tables drawn (ownerOf db) db

variable {drawn} {owners more : RowKey → Option String} {db : CoreDb} {write : CoreWrite}

theorem CoreWrite.Refers.mono
    (grows : ∀ key one, owners key = some one → more key = some one)
    (refers : write.Refers drawn owners) : write.Refers drawn more := by
  have isSome : ∀ key, (owners key).isSome → (more key).isSome := by
    intro key stored
    rcases Option.isSome_iff_exists.mp stored with ⟨one, owned⟩
    exact Option.isSome_iff_exists.mpr ⟨one, grows key one owned⟩
  cases write with
  | tenant write => trivial
  | knowledge write =>
      cases write with
      | insertRevision revision => exact isSome _ refers
      | _ => trivial
  | engagement write =>
      cases write with
      | putVote vote => exact grows _ _ refers
      | putBookmark bookmark => exact grows _ _ refers
      | putFollow follow => exact grows _ _ refers
      | _ => trivial
  | credit now write => cases write <;> exact refers

theorem Tables.mono (tables : Tables drawn owners db)
    (grows : ∀ key one, owners key = some one → more key = some one) : Tables drawn more db where
  memberships := tables.memberships
  spaces := tables.spaces
  items := tables.items
  revisions revision member := by
    rcases Option.isSome_iff_exists.mp (tables.revisions revision member) with ⟨one, owned⟩
    exact Option.isSome_iff_exists.mpr ⟨one, grows _ _ owned⟩
  votes := tables.votes.mono fun _ _ vote => ⟨vote.1, grows _ _ vote.2⟩
  bookmarks := tables.bookmarks.mono fun _ _ bookmark => ⟨bookmark.1, grows _ _ bookmark.2⟩
  follows := tables.follows.mono fun _ _ follow => ⟨follow.1, grows _ _ follow.2⟩
  creditEvents := tables.creditEvents
  aiQueries := tables.aiQueries

theorem Owned.empty : Owned drawn .empty where
  memberships := .empty
  spaces := .empty
  items := .empty
  revisions _ member := absurd member List.not_mem_nil
  votes := .empty
  bookmarks := .empty
  follows := .empty
  creditEvents _ member := absurd member List.not_mem_nil
  aiQueries := .empty

theorem ownerOf_apply (db : CoreDb) (write : CoreWrite) (key : RowKey) :
    ownerOf (coreEngine.apply db write) key =
      match write.claim with
      | some (claimed, one) => if key = claimed then some one else ownerOf db key
      | none => ownerOf db key := by
  cases write with
  | tenant write =>
      cases write with
      | putSpace space =>
          cases key with
          | item id => rfl
          | space id =>
              by_cases same : id = space.id <;>
                simp [ownerOf, coreEngine, tenantEngine, CoreWrite.claim, OrderedMap.get?_set, same]
      | _ => cases key <;> rfl
  | knowledge write =>
      cases write with
      | putItem row =>
          cases key with
          | item id =>
              by_cases same : id = row.id <;>
                simp [ownerOf, coreEngine, knowledgeEngine, CoreWrite.claim, OrderedMap.get?_set,
                  same]
          | space id => rfl
      | _ => cases key <;> rfl
  | engagement write => cases key <;> rfl
  | credit now write => cases write <;> cases key <;> rfl

/-- A write that refers to rows of its organization leaves tables that do. -/
theorem Tables.apply (tables : Tables drawn owners db) (refers : write.Refers drawn owners) :
    Tables drawn owners (coreEngine.apply db write) := by
  cases write with
  | tenant write =>
      cases write with
      | putMembership membership =>
          exact { tables with memberships := tables.memberships.set rfl }
      | putSpace space => exact { tables with spaces := tables.spaces.set rfl }
      | _ => exact { tables with }
  | knowledge write =>
      cases write with
      | putItem row => exact { tables with items := tables.items.set rfl }
      | insertRevision revision =>
          refine { tables with revisions := fun other member => ?_ }
          rcases List.mem_append.mp member with old | new
          · exact tables.revisions other old
          · obtain rfl := List.mem_singleton.mp new
            exact refers
      | appendOutbox event => exact { tables with }
  | engagement write =>
      cases write with
      | putVote vote => exact { tables with votes := tables.votes.set ⟨rfl, refers⟩ }
      | deleteVote itemId userId => exact { tables with votes := tables.votes.delete _ }
      | putBookmark bookmark =>
          exact { tables with bookmarks := tables.bookmarks.set ⟨rfl, refers⟩ }
      | deleteBookmark userId itemId =>
          exact { tables with bookmarks := tables.bookmarks.delete _ }
      | putFollow follow => exact { tables with follows := tables.follows.set ⟨rfl, refers⟩ }
      | deleteFollow key => exact { tables with follows := tables.follows.delete key }
      | appendOutbox event => exact { tables with }
  | credit now write =>
      cases write with
      | insertCreditEvent row =>
          refine { tables with creditEvents := fun other member => ?_ }
          rcases List.mem_append.mp member with old | new
          · exact tables.creditEvents other old
          · obtain rfl := List.mem_singleton.mp new
            exact refers
      | upsertAiQuery row => exact { tables with aiQueries := tables.aiQueries.set refers }
      | appendOutbox event => exact { tables with }

variable (drawn)

/-- Items and spaces do not change hands, and the other rows follow them. -/
def rowRegistry : Registry coreEngine RowKey String where
  owner := ownerOf
  claim := CoreWrite.claim
  lock
    | .item id => .knowledge (.item id)
    | .space id => .tenant (.space id)
  Refers := CoreWrite.Refers drawn
  Inv := Owned drawn
  owner_apply db write key := by
    rw [ownerOf_apply]
    cases write.claim <;> rfl
  lock_claim write key one claims := by
    cases write with
    | tenant write =>
        cases write <;> cases claims
        rfl
    | knowledge write =>
        cases write <;> cases claims
        rfl
    | _ => cases claims
  refers_mono owners more write grows refers := refers.mono grows
  inv_apply db write owned refers claims := by
    have tables := Tables.apply owned refers
    refine tables.mono fun key one own => ?_
    rw [ownerOf_apply]
    split
    · next claimed other claimed' =>
        by_cases same : key = claimed
        · subst same
          rw [if_pos rfl, claims _ _ claimed' _ own]
        · rw [if_neg same, own]
    · exact own

variable {drawn}

theorem stable_owner (key : RowKey) (orgId : String) :
    (rowRegistry drawn).Stable fun db => ownerOf db key = some orgId :=
  fun _ _ grows owned => grows key orgId owned

theorem ownerOf_item {id : String} {row : KnowledgeItemRow}
    (stored : db.knowledge.items.get? id = some row) : ownerOf db (.item id) = some row.orgId := by
  simp only [ownerOf, stored, Option.map_some]

theorem ownerOf_space {id : String} {space : Space}
    (stored : db.tenant.spaces.get? id = some space) :
    ownerOf db (.space id) = some space.orgId := by
  simp only [ownerOf, stored, Option.map_some]

end CoreApi
