import CoreApi.Foundation.WriteSets
import CoreApi.Repos.Commands

/-!
# Whose doing a row is

A row of the knowledge and the engagement module says who made it what it is: the
author of an item or a revision, the user who votes, bookmarks or follows. It is signed
when there is a command of that user behind everything it says, and the commands of
the service write signed rows only.
-/

namespace CoreApi

open Engagement Knowledge

section Signatures

variable {Client : Type} (commands : Client → Option CoreCommand)

/-- Somebody runs a command of the knowledge module for an organization. -/
def Edits (orgId : String) (command : KnowledgeCommand) : Prop :=
  ∃ client context, commands client = some (.knowledge context command) ∧
    context.tenantId = some orgId

/-- Somebody runs a command of the engagement module for an organization. -/
def Engages (orgId : String) (command : EngagementCommand) : Prop :=
  ∃ client context, commands client = some (.engagement context command) ∧
    context.tenantId = some orgId

/-- Somebody creates an item under an id. -/
def Opens (id : String) (create : CreateKnowledgeCommand) : Prop :=
  ∃ client context, commands client = some (.knowledge context (.create create)) ∧ context.id = id

/-- No two clients draw one id for an item. -/
def OpenedOnce : Prop :=
  ∀ first second context context' create create',
    commands first = some (.knowledge context (.create create)) →
    commands second = some (.knowledge context' (.create create')) →
    context.id = context'.id → first = second

/-- Every column of an item goes back to a command that names the item: its creation, an edit, a
publication, a verification, an acceptance, a deletion. -/
structure ItemSigned (item : KnowledgeItem) : Prop where
  opened : ∃ title body, Opens commands item.id
    ⟨item.orgId, item.spaceId, item.type, title, body, item.parentId, item.createdByUserId⟩
  text : Opens commands item.id ⟨item.orgId, item.spaceId, item.type, item.title, item.body,
      item.parentId, item.createdByUserId⟩ ∨
    ∃ version editor, Edits commands item.orgId
      (.update ⟨item.id, version, item.title, item.body, editor⟩)
  published : item.status ≠ .draft →
    item.status = .published ∧ Edits commands item.orgId (.publish ⟨item.id⟩)
  verified : item.isVerified →
    ∃ verifier, Edits commands item.orgId (.verify ⟨item.id, verifier⟩)
  accepted : ∀ answerId, item.acceptedAnswerId = some answerId →
    Edits commands item.orgId (.acceptAnswer ⟨item.id, answerId, item.createdByUserId⟩)
  updated : ∀ editor, item.updatedByUserId = some editor →
    (∃ version title body, Edits commands item.orgId
      (.update ⟨item.id, version, title, body, editor⟩)) ∨
    Edits commands item.orgId (.verify ⟨item.id, editor⟩)
  deleted : item.deletedAt ≠ none → Edits commands item.orgId (.delete ⟨item.id⟩)

/-- The item is one of the organization. -/
def OpenedIn (orgId itemId : String) : Prop :=
  ∃ create, Opens commands itemId create ∧ create.orgId = orgId

/-- A revision is the edit of its editor to an item of the organization. -/
def RevisionSigned (revision : Revision) : Prop :=
  ∃ orgId version title, OpenedIn commands orgId revision.itemId ∧ Edits commands orgId
    (.update ⟨revision.itemId, version, title, revision.bodySnapshot, revision.editedByUserId⟩)

/-- A vote is cast by its user on an item of its organization, with the value it has. -/
def VoteSigned (vote : Vote) : Prop :=
  OpenedIn commands vote.orgId vote.itemId ∧
    Engages commands vote.orgId (.castVote ⟨vote.itemId, vote.userId, vote.value⟩)

/-- A bookmark is added by its user to an item of its organization. -/
def BookmarkSigned (bookmark : Bookmark) : Prop :=
  OpenedIn commands bookmark.orgId bookmark.itemId ∧
    Engages commands bookmark.orgId (.addBookmark ⟨bookmark.itemId, bookmark.userId⟩)

/-- A document that is followed is an item. -/
def FollowSigned (follow : Follow) : Prop :=
  (follow.targetType = .document → OpenedIn commands follow.orgId follow.targetId) ∧
    Engages commands follow.orgId
      (.followTarget ⟨follow.userId, follow.targetType, follow.targetId⟩)

/-- All rows of the two modules are signed. -/
structure RowsSigned (db : CoreDb) : Prop where
  items : db.knowledge.items.All fun id row => row.id = id ∧
    ItemSigned commands row.toKnowledgeItem
  revisions : ∀ revision ∈ db.knowledge.revisions, RevisionSigned commands revision
  votes : db.engagement.votes.All fun key vote => (vote.itemId, vote.userId) = key ∧
    VoteSigned commands vote
  bookmarks : db.engagement.bookmarks.All fun _ bookmark => BookmarkSigned commands bookmark
  follows : db.engagement.follows.All fun _ follow => FollowSigned commands follow

/-- A write that puts a signed row. -/
def CoreWrite.Signed : CoreWrite → Prop
  | .knowledge (.putItem row) => ItemSigned commands row.toKnowledgeItem
  | .knowledge (.insertRevision revision) => RevisionSigned commands revision
  | .engagement (.putVote vote) => VoteSigned commands vote
  | .engagement (.putBookmark bookmark) => BookmarkSigned commands bookmark
  | .engagement (.putFollow follow) => FollowSigned commands follow
  | _ => True

variable {commands}

theorem RowsSigned.empty : RowsSigned commands .empty where
  items := .empty
  revisions _ member := absurd member List.not_mem_nil
  votes := .empty
  bookmarks := .empty
  follows := .empty

theorem RowsSigned.apply {db : CoreDb} {write : CoreWrite} (signed : RowsSigned commands db)
    (puts : write.Signed commands) : RowsSigned commands (coreEngine.apply db write) := by
  cases write with
  | tenant write => exact { signed with }
  | knowledge write =>
      cases write with
      | putItem row => exact { signed with items := signed.items.set ⟨rfl, puts⟩ }
      | insertRevision revision =>
          refine { signed with revisions := fun other member => ?_ }
          rcases List.mem_append.mp member with old | new
          · exact signed.revisions other old
          · exact List.mem_singleton.mp new ▸ puts
      | appendOutbox event => exact { signed with }
  | engagement write =>
      cases write with
      | putVote vote => exact { signed with votes := signed.votes.set ⟨rfl, puts⟩ }
      | deleteVote itemId userId => exact { signed with votes := signed.votes.delete _ }
      | putBookmark bookmark => exact { signed with bookmarks := signed.bookmarks.set puts }
      | deleteBookmark userId itemId =>
          exact { signed with bookmarks := signed.bookmarks.delete _ }
      | putFollow follow => exact { signed with follows := signed.follows.set puts }
      | deleteFollow key => exact { signed with follows := signed.follows.delete key }
      | appendOutbox event => exact { signed with }
  | credit now write => cases write <;> exact { signed with }

variable (commands)

/-- The writes that put signed rows. -/
def signatures : WriteSet coreEngine where
  Inv := RowsSigned commands
  Rely _ _ _ := True
  refl _ _ := trivial
  trans _ _ := trivial
  Allowed := CoreWrite.Signed commands
  inv_apply _ _ signed puts := signed.apply puts
  rely_apply _ _ _ _ _ := trivial

variable {commands}

/-- An item has one author and one organization. -/
theorem Opens.unique (once : OpenedOnce commands) {id : String}
    {create other : CreateKnowledgeCommand} (opens : Opens commands id create)
    (opens' : Opens commands id other) : create = other := by
  rcases opens with ⟨client, context, mine, same⟩
  rcases opens' with ⟨client', context', mine', same'⟩
  obtain rfl := once _ _ _ _ _ _ mine mine' (same.trans same'.symm)
  cases mine.symm.trans mine'
  rfl

end Signatures

end CoreApi
