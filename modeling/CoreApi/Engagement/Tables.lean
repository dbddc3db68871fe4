import CoreApi.Foundation.OrderedMap
import CoreApi.Foundation.Transaction
import CoreApi.Knowledge.Item
import CoreApi.Outbox.StreamOrder

/-!
# Votes, bookmarks and follows

The entities of the engagement module, its tables with their unique keys, and
the events of the follow relationship.
-/

namespace CoreApi.Engagement

open Outbox (FollowTargetType)

/-- A row of `votes`. -/
structure Vote where
  id : String
  orgId : String
  itemId : String
  userId : String
  value : ℤ
  createdAt : ℤ
deriving DecidableEq

def Vote.create (id : String) (now : ℤ) (orgId itemId userId : String) (value : ℤ) : Vote where
  id := id
  orgId := orgId
  itemId := itemId
  userId := userId
  value := value
  createdAt := now

def Vote.changeValue (vote : Vote) (value : ℤ) : Vote := { vote with value := value }

/-- A row of `bookmarks`. -/
structure Bookmark where
  id : String
  orgId : String
  userId : String
  itemId : String
  createdAt : ℤ
deriving DecidableEq

def Bookmark.create (id : String) (now : ℤ) (orgId userId itemId : String) : Bookmark where
  id := id
  orgId := orgId
  userId := userId
  itemId := itemId
  createdAt := now

/-- A row of `follows`. -/
structure Follow where
  id : String
  orgId : String
  userId : String
  targetType : FollowTargetType
  targetId : String
  createdAt : ℤ
deriving DecidableEq

def Follow.create (id : String) (now : ℤ) (orgId userId : String) (targetType : FollowTargetType)
    (targetId : String) : Follow where
  id := id
  orgId := orgId
  userId := userId
  targetType := targetType
  targetId := targetId
  createdAt := now

/-- Who follows what: the unique key of the follows and the payload of their events. -/
structure FollowKey where
  userId : String
  targetType : FollowTargetType
  targetId : String
deriving DecidableEq

/-- The unique key of a follow. -/
def Follow.key (follow : Follow) : FollowKey :=
  ⟨follow.userId, follow.targetType, follow.targetId⟩

/-- The events about follows, under the stream of the relation. -/
inductive FollowEvent where
  | followCreated (aggregateId orgId : String) (payload : FollowKey)
  | followRemoved (aggregateId orgId : String) (payload : FollowKey)
deriving DecidableEq

/-- Votes are unique by item and user, bookmarks by user and item, follows by their key. -/
structure EngagementDb where
  votes : OrderedMap (String × String) Vote
  bookmarks : OrderedMap (String × String) Bookmark
  follows : OrderedMap FollowKey Follow
  outbox : List FollowEvent

/-- What a command writes: a row under its unique key, a deletion, an event of the outbox. -/
inductive EngagementWrite where
  | putVote (vote : Vote)
  | deleteVote (itemId userId : String)
  | putBookmark (bookmark : Bookmark)
  | deleteBookmark (userId itemId : String)
  | putFollow (follow : Follow)
  | deleteFollow (key : FollowKey)
  | appendOutbox (event : FollowEvent)
deriving DecidableEq

/-- The unique keys. -/
inductive EngagementLock where
  | vote (itemId userId : String)
  | bookmark (userId itemId : String)
  | follow (key : FollowKey)
deriving DecidableEq

/-- The database of the engagement module; what is locked is the unique key of a row. -/
def engagementEngine : Engine EngagementDb EngagementWrite EngagementLock where
  apply db
    | .putVote vote => { db with votes := db.votes.set (vote.itemId, vote.userId) vote }
    | .deleteVote itemId userId => { db with votes := db.votes.delete (itemId, userId) }
    | .putBookmark bookmark => { db with
        bookmarks := db.bookmarks.set (bookmark.userId, bookmark.itemId) bookmark }
    | .deleteBookmark userId itemId => { db with
        bookmarks := db.bookmarks.delete (userId, itemId) }
    | .putFollow follow => { db with follows := db.follows.set follow.key follow }
    | .deleteFollow key => { db with follows := db.follows.delete key }
    | .appendOutbox event => { db with outbox := db.outbox ++ [event] }
  lock
    | .putVote vote => some (.vote vote.itemId vote.userId)
    | .deleteVote itemId userId => some (.vote itemId userId)
    | .putBookmark bookmark => some (.bookmark bookmark.userId bookmark.itemId)
    | .deleteBookmark userId itemId => some (.bookmark userId itemId)
    | .putFollow follow => some (.follow follow.key)
    | .deleteFollow key => some (.follow key)
    | .appendOutbox _ => none

def followTargetNotFoundError : Knowledge.ApplicationError where
  statusCode := 404
  code := "FOLLOW_TARGET_NOT_FOUND"
  message := "Follow target not found in this organization"

end CoreApi.Engagement
