import CoreApi.Repos.Database

/-!
# The commands of the engagement module

Votes, bookmarks and follows refer to items and spaces of the tenant. The rows
are written by their unique keys, which do not contain the organization, and
deleted by those keys within the tenant.
-/

namespace CoreApi.Engagement

open Knowledge
open Outbox (FollowTargetType)

variable (context : Context)

def requireTenantId : CoreTx String :=
  knowledgeComponent.lift .knowledge (Knowledge.requireTenantId context)

/-- `items.findById` of the knowledge module. -/
def findItemById (id : String) : CoreTx (Option KnowledgeItem) :=
  knowledgeComponent.lift .knowledge (PrismaKnowledgeItemRepository.findById context id)

namespace PrismaSpaceRepository

/-- The soft-delete extension adds `deletedAt: null` to the query. -/
def findFirst (db : Tenant.TenantDb) (id orgId : String) : Option Tenant.Space :=
  (db.spaces.get? id).filter fun space => space.orgId = orgId ∧ space.deletedAt = none

/-- The space in the organization of the request. -/
def findById (id : String) : CoreTx (Option Tenant.Space) := do
  let orgId ← requireTenantId context
  Tx.read fun db => findFirst db.tenant id orgId

end PrismaSpaceRepository

namespace PrismaVoteRepository

/-- The vote of a user on an item, in the organization of the request. -/
def findByItemAndUser (itemId userId : String) : CoreTx (Option Vote) := do
  let orgId ← requireTenantId context
  Tx.read fun db => (db.engagement.votes.get? (itemId, userId)).filter fun vote =>
    vote.orgId = orgId

/-- A vote that exists keeps all but its value. -/
def upsert (vote : Vote) : CoreTx Unit :=
  .execute fun db =>
    let stored := ((db.engagement.votes.get? (vote.itemId, vote.userId)).map fun row =>
      { row with value := vote.value }).getD vote
    .ok ([.engagement (.putVote stored)], ())

/-- The vote is deleted if it belongs to the organization of the request. -/
def removeByItemAndUser (itemId userId : String) : CoreTx Unit := do
  let orgId ← requireTenantId context
  Tx.execute fun db => .ok (match (db.engagement.votes.get? (itemId, userId)).filter fun vote =>
      vote.orgId = orgId with
    | some _ => [.engagement (.deleteVote itemId userId)]
    | none => [], ())

end PrismaVoteRepository

namespace PrismaBookmarkRepository

/-- An upsert that updates nothing. -/
def add (bookmark : Bookmark) : CoreTx Unit :=
  .execute fun db => .ok (match db.engagement.bookmarks.get? (bookmark.userId, bookmark.itemId) with
    | some _ => []
    | none => [.engagement (.putBookmark bookmark)], ())

/-- The bookmark is deleted if it belongs to the organization of the request. -/
def remove (itemId userId : String) : CoreTx Unit := do
  let orgId ← requireTenantId context
  Tx.execute fun db => .ok (match (db.engagement.bookmarks.get? (userId, itemId)).filter
      fun bookmark => bookmark.orgId = orgId with
    | some _ => [.engagement (.deleteBookmark userId itemId)]
    | none => [], ())

end PrismaBookmarkRepository

namespace PrismaFollowRepository

/-- An upsert that updates nothing. -/
def add (follow : Follow) : CoreTx Unit :=
  .execute fun db => .ok (match db.engagement.follows.get? follow.key with
    | some _ => []
    | none => [.engagement (.putFollow follow)], ())

/-- The follow is deleted if it belongs to the organization of the request. -/
def remove (key : FollowKey) : CoreTx Unit := do
  let orgId ← requireTenantId context
  Tx.execute fun db => .ok (match (db.engagement.follows.get? key).filter fun follow =>
      follow.orgId = orgId with
    | some _ => [.engagement (.deleteFollow key)]
    | none => [], ())

end PrismaFollowRepository

def PrismaOutboxWriter.append (event : FollowEvent) : CoreTx Unit :=
  .write [.engagement (.appendOutbox event)]

/-- `if (!entity) throw new ...` -/
def orThrow {Entity : Type} (error : ApplicationError) : Option Entity → CoreTx Entity
  | some entity => pure entity
  | none => .fail (.knowledge (.application error))

structure CastVoteCommand where
  itemId : String
  userId : String
  value : ℤ

structure RemoveVoteCommand where
  itemId : String
  userId : String

structure AddBookmarkCommand where
  itemId : String
  userId : String

structure RemoveBookmarkCommand where
  itemId : String
  userId : String

structure FollowTargetCommand where
  userId : String
  targetType : FollowTargetType
  targetId : String

structure UnfollowTargetCommand where
  userId : String
  targetType : FollowTargetType
  targetId : String

/-- A vote needs its item; a repeated vote changes the value. -/
def CastVoteHandler.execute (command : CastVoteCommand) : CoreTx Unit := do
  let item ← orThrow knowledgeItemNotFoundError (← findItemById context command.itemId)
  match ← PrismaVoteRepository.findByItemAndUser context command.itemId command.userId with
  | some existing => PrismaVoteRepository.upsert (existing.changeValue command.value)
  | none =>
      let vote := Vote.create context.id context.now item.orgId command.itemId command.userId
        command.value
      PrismaVoteRepository.upsert vote

def RemoveVoteHandler.execute (command : RemoveVoteCommand) : CoreTx Unit :=
  PrismaVoteRepository.removeByItemAndUser context command.itemId command.userId

/-- A bookmark needs its item. -/
def AddBookmarkHandler.execute (command : AddBookmarkCommand) : CoreTx Unit := do
  let item ← orThrow knowledgeItemNotFoundError (← findItemById context command.itemId)
  let bookmark := Bookmark.create context.id context.now item.orgId command.userId command.itemId
  PrismaBookmarkRepository.add bookmark

def RemoveBookmarkHandler.execute (command : RemoveBookmarkCommand) : CoreTx Unit :=
  PrismaBookmarkRepository.remove context command.itemId command.userId

/-- The target has to be a live item or space of the tenant. -/
def findTarget (targetType : FollowTargetType) (targetId : String) : CoreTx Unit :=
  match targetType with
  | .document => do
      let _ ← orThrow followTargetNotFoundError (← findItemById context targetId)
  | .space => do
      let _ ← orThrow followTargetNotFoundError (← PrismaSpaceRepository.findById context targetId)

/-- The target has to be one of the organization; the event is appended whether the follow is new or
not. -/
def FollowTargetHandler.execute (command : FollowTargetCommand) : CoreTx Unit := do
  let orgId ← requireTenantId context
  findTarget context command.targetType command.targetId
  let follow := Follow.create context.id context.now orgId command.userId command.targetType
    command.targetId
  PrismaFollowRepository.add follow
  PrismaOutboxWriter.append (.followCreated
    (Outbox.Follow.streamKey command.userId command.targetType command.targetId) orgId
    ⟨command.userId, command.targetType, command.targetId⟩)

/-- The event is appended whether there was a follow or not. -/
def UnfollowTargetHandler.execute (command : UnfollowTargetCommand) : CoreTx Unit := do
  let orgId ← requireTenantId context
  PrismaFollowRepository.remove context ⟨command.userId, command.targetType, command.targetId⟩
  PrismaOutboxWriter.append (.followRemoved
    (Outbox.Follow.streamKey command.userId command.targetType command.targetId) orgId
    ⟨command.userId, command.targetType, command.targetId⟩)

/-- The commands of the engagement module that write its own tables. -/
inductive EngagementCommand where
  | castVote (command : CastVoteCommand)
  | removeVote (command : RemoveVoteCommand)
  | addBookmark (command : AddBookmarkCommand)
  | removeBookmark (command : RemoveBookmarkCommand)
  | followTarget (command : FollowTargetCommand)
  | unfollowTarget (command : UnfollowTargetCommand)

/-- The transaction of a command. -/
def EngagementCommand.execute : EngagementCommand → CoreTx Unit
  | .castVote command => CastVoteHandler.execute context command
  | .removeVote command => RemoveVoteHandler.execute context command
  | .addBookmark command => AddBookmarkHandler.execute context command
  | .removeBookmark command => RemoveBookmarkHandler.execute context command
  | .followTarget command => FollowTargetHandler.execute context command
  | .unfollowTarget command => UnfollowTargetHandler.execute context command

end CoreApi.Engagement
