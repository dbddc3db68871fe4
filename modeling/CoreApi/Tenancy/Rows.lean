import CoreApi.Foundation.Ownership
import CoreApi.Repos.Commands

/-!
# The rows of an organization

What of the database belongs to an organization, and the writes that stay within
it. Such a write acts on the organization's rows alone and leaves the rows of
every other organization as they are.
-/

namespace CoreApi

open Credit Engagement Knowledge Tenant

/-- A revision belongs to the organization of its item. -/
def ownsItem (db : KnowledgeDb) (orgId itemId : String) : Bool :=
  (db.items.get? itemId).any fun row => row.orgId = orgId

/-- The rows of one organization, table by table. -/
structure OrgRows where
  memberships : List ((String × String) × Membership)
  spaces : List (String × Space)
  items : List (String × KnowledgeItemRow)
  revisions : List Revision
  votes : List ((String × String) × Vote)
  bookmarks : List ((String × String) × Bookmark)
  follows : List (FollowKey × Follow)
  creditEvents : List CreditEventRow
  aiQueries : List (String × StoredAiQuery)
deriving DecidableEq

/-- Everything in the database that belongs to an organization, in the order in which the tables
keep it. -/
def CoreDb.rowsOf (db : CoreDb) (orgId : String) : OrgRows where
  memberships := db.tenant.memberships.ownedBy Membership.orgId orgId
  spaces := db.tenant.spaces.ownedBy Space.orgId orgId
  items := db.knowledge.items.ownedBy (fun row => row.orgId) orgId
  revisions := db.knowledge.revisions.filter fun revision =>
    ownsItem db.knowledge orgId revision.itemId
  votes := db.engagement.votes.ownedBy Vote.orgId orgId
  bookmarks := db.engagement.bookmarks.ownedBy Bookmark.orgId orgId
  follows := db.engagement.follows.ownedBy Follow.orgId orgId
  creditEvents := db.creditEvents.filter fun row => row.orgId = orgId
  aiQueries := db.aiQueries.ownedBy (fun row => row.orgId) orgId

/-- Everything a write puts or deletes belongs to the organization, and so does what it replaces. -/
def Within (orgId : String) (db : CoreDb) : CoreWrite → Prop
  | .tenant _ => False
  | .knowledge (.putItem row) =>
      row.orgId = orgId ∧ db.knowledge.items.Free (fun row => row.orgId) orgId row.id
  | .knowledge (.insertRevision revision) => ownsItem db.knowledge orgId revision.itemId
  | .knowledge (.appendOutbox _) => True
  | .engagement (.putVote vote) =>
      vote.orgId = orgId ∧ db.engagement.votes.Free Vote.orgId orgId (vote.itemId, vote.userId)
  | .engagement (.deleteVote itemId userId) =>
      db.engagement.votes.Free Vote.orgId orgId (itemId, userId)
  | .engagement (.putBookmark bookmark) =>
      bookmark.orgId = orgId ∧
        db.engagement.bookmarks.Free Bookmark.orgId orgId (bookmark.userId, bookmark.itemId)
  | .engagement (.deleteBookmark userId itemId) =>
      db.engagement.bookmarks.Free Bookmark.orgId orgId (userId, itemId)
  | .engagement (.putFollow follow) =>
      follow.orgId = orgId ∧ db.engagement.follows.Free Follow.orgId orgId follow.key
  | .engagement (.deleteFollow key) => db.engagement.follows.Free Follow.orgId orgId key
  | .engagement (.appendOutbox _) => True
  | .credit _ (.insertCreditEvent row) => row.orgId = orgId
  | .credit _ (.upsertAiQuery row) =>
      row.orgId = orgId ∧ db.aiQueries.Free (fun row => row.orgId) orgId row.reservationId
  | .credit _ (.appendOutbox _) => True

/-- What a write of the organization does to its rows. -/
def OrgRows.apply (rows : OrgRows) : CoreWrite → OrgRows
  | .knowledge (.putItem row) => { rows with
      items := OrderedMap.setEntries row.id row rows.items }
  | .knowledge (.insertRevision revision) => { rows with revisions := rows.revisions ++ [revision] }
  | .engagement (.putVote vote) => { rows with
      votes := OrderedMap.setEntries (vote.itemId, vote.userId) vote rows.votes }
  | .engagement (.deleteVote itemId userId) => { rows with
      votes := rows.votes.filter fun entry => entry.1 ≠ (itemId, userId) }
  | .engagement (.putBookmark bookmark) => { rows with
      bookmarks := OrderedMap.setEntries (bookmark.userId, bookmark.itemId) bookmark
        rows.bookmarks }
  | .engagement (.deleteBookmark userId itemId) => { rows with
      bookmarks := rows.bookmarks.filter fun entry => entry.1 ≠ (userId, itemId) }
  | .engagement (.putFollow follow) => { rows with
      follows := OrderedMap.setEntries follow.key follow rows.follows }
  | .engagement (.deleteFollow key) => { rows with
      follows := rows.follows.filter fun entry => entry.1 ≠ key }
  | .credit _ (.insertCreditEvent row) => { rows with creditEvents := rows.creditEvents ++ [row] }
  | .credit now (.upsertAiQuery row) => { rows with
      aiQueries := OrderedMap.setEntries row.reservationId { row with
        createdAt := ((rows.aiQueries.lookup row.reservationId).map
          StoredAiQuery.createdAt).getD now } rows.aiQueries }
  | _ => rows

/-- Every revision has its item. -/
def RevisionsHaveItems (db : KnowledgeDb) : Prop :=
  ∀ revision ∈ db.revisions, (db.items.get? revision.itemId).isSome

variable {orgId other : String} {db : CoreDb} {row : KnowledgeItemRow} {write : CoreWrite}

theorem ownsItem_iff_exists {knowledge : KnowledgeDb} {itemId : String} :
    ownsItem knowledge orgId itemId ↔
      ∃ row, knowledge.items.get? itemId = some row ∧ row.orgId = orgId := by
  simp [ownsItem, Option.any_eq_true]

/-- An item has one organization. -/
theorem ownsItem_other {knowledge : KnowledgeDb} {itemId : String}
    (owned : ownsItem knowledge orgId itemId) (distinct : other ≠ orgId) :
    ownsItem knowledge other itemId = false := by
  rcases ownsItem_iff_exists.mp owned with ⟨row, stored, org⟩
  simp [ownsItem, stored, org, distinct.symm]

@[simp] theorem ownsItem_revisions (knowledge : KnowledgeDb) (revisions : List Revision) :
    ownsItem { knowledge with revisions := revisions } orgId = ownsItem knowledge orgId := rfl

/-- An item of an organization that is written over stays one. -/
theorem ownsItem_set (knowledge : KnowledgeDb) (own : row.orgId = orgId)
    (free : knowledge.items.Free (fun row => row.orgId) orgId row.id) {itemId : String}
    (stored : (knowledge.items.get? itemId).isSome) (other : String) :
    ownsItem { knowledge with items := knowledge.items.set row.id row } other itemId =
      ownsItem knowledge other itemId := by
  rcases Option.isSome_iff_exists.mp stored with ⟨current, found⟩
  by_cases same : itemId = row.id
  · subst same
    simp [ownsItem, OrderedMap.get?_set, own, found, free current found]
  · simp [ownsItem, OrderedMap.get?_set, same]

/-- So the revisions of every organization stay the same. -/
theorem revisions_putItem (archived : RevisionsHaveItems db.knowledge)
    (within : Within orgId db (.knowledge (.putItem row))) (other : String) :
    db.knowledge.revisions.filter (fun revision => ownsItem
      { db.knowledge with items := db.knowledge.items.set row.id row } other revision.itemId) =
    db.knowledge.revisions.filter fun revision => ownsItem db.knowledge other revision.itemId :=
  List.filter_congr fun revision member =>
    ownsItem_set db.knowledge within.1 within.2 (archived revision member) other

/-- A write of the organization acts on its rows. -/
theorem rowsOf_apply_own (within : Within orgId db write)
    (archived : RevisionsHaveItems db.knowledge) :
    (coreEngine.apply db write).rowsOf orgId = (db.rowsOf orgId).apply write := by
  cases write with
  | tenant write => exact within.elim
  | knowledge write =>
      cases write with
      | putItem row =>
          have items := OrderedMap.ownedBy_set_own within.2 within.1
          have revisions := revisions_putItem archived within orgId
          simp [coreEngine, knowledgeEngine, CoreDb.rowsOf, OrgRows.apply, items, revisions]
      | insertRevision revision =>
          have owned : ownsItem db.knowledge orgId revision.itemId = true := within
          simp [coreEngine, knowledgeEngine, CoreDb.rowsOf, OrgRows.apply, owned]
      | appendOutbox event => rfl
  | engagement write =>
      cases write with
      | putVote vote =>
          have votes := OrderedMap.ownedBy_set_own within.2 within.1
          simp [coreEngine, engagementEngine, CoreDb.rowsOf, OrgRows.apply, votes]
      | deleteVote itemId userId =>
          have votes := @OrderedMap.ownedBy_delete_own _ _ _ _ _ Vote.orgId db.engagement.votes
            orgId (itemId, userId)
          simp [coreEngine, engagementEngine, CoreDb.rowsOf, OrgRows.apply, votes]
      | putBookmark bookmark =>
          have bookmarks := OrderedMap.ownedBy_set_own within.2 within.1
          simp [coreEngine, engagementEngine, CoreDb.rowsOf, OrgRows.apply, bookmarks]
      | deleteBookmark userId itemId =>
          have bookmarks := @OrderedMap.ownedBy_delete_own _ _ _ _ _ Bookmark.orgId
            db.engagement.bookmarks orgId (userId, itemId)
          simp [coreEngine, engagementEngine, CoreDb.rowsOf, OrgRows.apply, bookmarks]
      | putFollow follow =>
          have follows := OrderedMap.ownedBy_set_own within.2 within.1
          simp [coreEngine, engagementEngine, CoreDb.rowsOf, OrgRows.apply, follows]
      | deleteFollow key =>
          have follows := @OrderedMap.ownedBy_delete_own _ _ _ _ _ Follow.orgId
            db.engagement.follows orgId key
          simp [coreEngine, engagementEngine, CoreDb.rowsOf, OrgRows.apply, follows]
      | appendOutbox event => rfl
  | credit now write =>
      cases write with
      | insertCreditEvent row =>
          have own : row.orgId = orgId := within
          simp [coreEngine, CoreDb.rowsOf, OrgRows.apply, own]
      | upsertAiQuery row =>
          have created : (db.aiQueries.ownedBy (fun row => row.orgId) orgId).lookup
              row.reservationId = db.aiQueries.get? row.reservationId := by
            rw [OrderedMap.lookup_ownedBy, within.2.get?_eq]
          have aiQueries := @OrderedMap.ownedBy_set_own _ _ _ _ _ (fun row => row.orgId)
            db.aiQueries orgId row.reservationId { row with
              createdAt := ((db.aiQueries.get? row.reservationId).map
                StoredAiQuery.createdAt).getD now } within.2 within.1
          simp [coreEngine, CoreDb.upsertAiQuery, CoreDb.rowsOf, OrgRows.apply, created, aiQueries]
      | appendOutbox event => rfl

/-- It leaves the rows of every other organization as they are. -/
theorem rowsOf_apply_other (within : Within orgId db write)
    (archived : RevisionsHaveItems db.knowledge) (distinct : other ≠ orgId) :
    (coreEngine.apply db write).rowsOf other = db.rowsOf other := by
  cases write with
  | tenant write => exact within.elim
  | knowledge write =>
      cases write with
      | putItem row =>
          have items := OrderedMap.ownedBy_set_other within.2 within.1 distinct
          have revisions := revisions_putItem archived within other
          simp [coreEngine, knowledgeEngine, CoreDb.rowsOf, items, revisions]
      | insertRevision revision =>
          have owned := ownsItem_other within distinct
          simp [coreEngine, knowledgeEngine, CoreDb.rowsOf, owned]
      | appendOutbox event => rfl
  | engagement write =>
      cases write with
      | putVote vote =>
          have votes := OrderedMap.ownedBy_set_other within.2 within.1 distinct
          simp [coreEngine, engagementEngine, CoreDb.rowsOf, votes]
      | deleteVote itemId userId =>
          have votes := OrderedMap.ownedBy_delete_other within distinct
          simp [coreEngine, engagementEngine, CoreDb.rowsOf, votes]
      | putBookmark bookmark =>
          have bookmarks := OrderedMap.ownedBy_set_other within.2 within.1 distinct
          simp [coreEngine, engagementEngine, CoreDb.rowsOf, bookmarks]
      | deleteBookmark userId itemId =>
          have bookmarks := OrderedMap.ownedBy_delete_other within distinct
          simp [coreEngine, engagementEngine, CoreDb.rowsOf, bookmarks]
      | putFollow follow =>
          have follows := OrderedMap.ownedBy_set_other within.2 within.1 distinct
          simp [coreEngine, engagementEngine, CoreDb.rowsOf, follows]
      | deleteFollow key =>
          have follows := OrderedMap.ownedBy_delete_other within distinct
          simp [coreEngine, engagementEngine, CoreDb.rowsOf, follows]
      | appendOutbox event => rfl
  | credit now write =>
      cases write with
      | insertCreditEvent row =>
          have own : row.orgId ≠ other := by
            rintro rfl
            exact distinct within
          simp [coreEngine, CoreDb.rowsOf, own]
      | upsertAiQuery row =>
          have aiQueries := @OrderedMap.ownedBy_set_other _ _ _ _ _ (fun row => row.orgId)
            db.aiQueries orgId other row.reservationId { row with
              createdAt := ((db.aiQueries.get? row.reservationId).map
                StoredAiQuery.createdAt).getD now } within.2 within.1 distinct
          simp [coreEngine, CoreDb.upsertAiQuery, CoreDb.rowsOf, aiQueries]
      | appendOutbox event => rfl

/-- What the organization may write over later. -/
structure Permits (orgId : String) (db next : CoreDb) : Prop where
  items : ∀ id, db.knowledge.items.Free (fun row => row.orgId) orgId id →
    next.knowledge.items.Free (fun row => row.orgId) orgId id
  owned : ∀ itemId, ownsItem db.knowledge orgId itemId → ownsItem next.knowledge orgId itemId
  votes : ∀ key, db.engagement.votes.Free Vote.orgId orgId key →
    next.engagement.votes.Free Vote.orgId orgId key
  bookmarks : ∀ key, db.engagement.bookmarks.Free Bookmark.orgId orgId key →
    next.engagement.bookmarks.Free Bookmark.orgId orgId key
  follows : ∀ key, db.engagement.follows.Free Follow.orgId orgId key →
    next.engagement.follows.Free Follow.orgId orgId key
  aiQueries : ∀ key, db.aiQueries.Free (fun row => row.orgId) orgId key →
    next.aiQueries.Free (fun row => row.orgId) orgId key
  archived : RevisionsHaveItems db.knowledge → RevisionsHaveItems next.knowledge

theorem Permits.refl (orgId : String) (db : CoreDb) : Permits orgId db db :=
  ⟨fun _ => id, fun _ => id, fun _ => id, fun _ => id, fun _ => id, fun _ => id, id⟩

theorem Within.mono {next : CoreDb} (within : Within orgId db write)
    (permits : Permits orgId db next) : Within orgId next write := by
  cases write with
  | tenant write => exact within
  | knowledge write =>
      cases write with
      | putItem row => exact ⟨within.1, permits.items _ within.2⟩
      | insertRevision revision => exact permits.owned _ within
      | appendOutbox event => exact within
  | engagement write =>
      cases write with
      | putVote vote => exact ⟨within.1, permits.votes _ within.2⟩
      | deleteVote itemId userId => exact permits.votes _ within
      | putBookmark bookmark => exact ⟨within.1, permits.bookmarks _ within.2⟩
      | deleteBookmark userId itemId => exact permits.bookmarks _ within
      | putFollow follow => exact ⟨within.1, permits.follows _ within.2⟩
      | deleteFollow key => exact permits.follows _ within
      | appendOutbox event => exact within
  | credit now write =>
      cases write with
      | insertCreditEvent row => exact within
      | upsertAiQuery row => exact ⟨within.1, permits.aiQueries _ within.2⟩
      | appendOutbox event => exact within

/-- A write of the organization takes nothing from it. -/
theorem Within.permits (within : Within orgId db write) :
    Permits orgId db (coreEngine.apply db write) := by
  have refl := Permits.refl orgId db
  cases write with
  | tenant write => exact within.elim
  | knowledge write =>
      cases write with
      | putItem row =>
          refine { refl with
            items := fun id free => free.set within.1
            owned := fun itemId owned => ?_
            archived := fun archived revision member => ?_ }
          · have stored : (db.knowledge.items.get? itemId).isSome := by
              rcases ownsItem_iff_exists.mp owned with ⟨current, stored, -⟩
              simp [stored]
            exact (ownsItem_set db.knowledge within.1 within.2 stored orgId).trans owned
          · change ((db.knowledge.items.set row.id row).get? revision.itemId).isSome
            rw [OrderedMap.get?_set]
            split
            · rfl
            · exact archived revision member
      | insertRevision revision =>
          refine { refl with archived := fun archived other member => ?_ }
          rcases List.mem_append.mp member with old | new
          · exact archived other old
          · obtain rfl := List.mem_singleton.mp new
            rcases ownsItem_iff_exists.mp within with ⟨current, stored, -⟩
            exact Option.isSome_iff_exists.mpr ⟨current, stored⟩
      | appendOutbox event => exact { refl with }
  | engagement write =>
      cases write with
      | putVote vote => exact { refl with votes := fun key free => free.set within.1 }
      | deleteVote itemId userId => exact { refl with votes := fun key free => free.delete _ }
      | putBookmark bookmark =>
          exact { refl with bookmarks := fun key free => free.set within.1 }
      | deleteBookmark userId itemId =>
          exact { refl with bookmarks := fun key free => free.delete _ }
      | putFollow follow => exact { refl with follows := fun key free => free.set within.1 }
      | deleteFollow key => exact { refl with follows := fun key free => free.delete _ }
      | appendOutbox event => exact { refl with }
  | credit now write =>
      cases write with
      | insertCreditEvent row => exact { refl with }
      | upsertAiQuery row => exact { refl with aiQueries := fun key free => free.set within.1 }
      | appendOutbox event => exact { refl with }

/-- What a command of the organization writes: its own rows change by its writes, the others not. -/
theorem rowsOf_view {writes : List CoreWrite} (within : ∀ write ∈ writes, Within orgId db write)
    (archived : RevisionsHaveItems db.knowledge) :
    (coreEngine.view db writes).rowsOf orgId = writes.foldl OrgRows.apply (db.rowsOf orgId) ∧
      ∀ other, other ≠ orgId → (coreEngine.view db writes).rowsOf other = db.rowsOf other := by
  induction writes generalizing db with
  | nil => exact ⟨rfl, fun _ _ => rfl⟩
  | cons write rest ih =>
      have first := within write List.mem_cons_self
      have permits := first.permits
      have rest := ih (fun write member => (within write (List.mem_cons_of_mem _ member)).mono
        permits) (permits.archived archived)
      refine ⟨?_, fun other distinct => ?_⟩
      · rw [List.foldl_cons, ← rowsOf_apply_own first archived]
        exact rest.1
      · rw [← rowsOf_apply_other first archived distinct]
        exact rest.2 other distinct

end CoreApi
