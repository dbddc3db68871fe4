import CoreApi.Engagement.Effects
import CoreApi.Tenancy.ConfinedKnowledge

/-!
# The engagement module sees its tenant only

A row is written under a key that refers to an item or a space of the tenant, so
what is already stored under the key is the tenant's and the same in both.
-/

namespace CoreApi.Engagement

open Engine
open Outbox (FollowTargetType)

variable {drawn drawn' : String → String → Prop} {orgId : String} {db db' : CoreDb}
  {context : Knowledge.Context} {Value : Type} {pending : List CoreWrite}

/-- A body that does the same for the tenant in both databases, after what it has written. -/
abbrev Confined (orgId : String) (db db' : CoreDb) (pending : List CoreWrite)
    (body : CoreTx Value) : Prop :=
  coreEngine.Confined (WithinBoth orgId db db') db db' pending body

theorem tenant_confined {next : String → CoreTx Value} (tenant : context.tenantId = some orgId)
    (rest : Confined orgId db db' pending (next orgId)) :
    Confined orgId db db' pending (requireTenantId context >>= next) := by
  rw [requireTenantId, Knowledge.requireTenantId_eq tenant]
  split
  · exact Confined.fail _
  · exact rest

theorem orThrow_confined {Entity : Type} {error : Knowledge.ApplicationError}
    {found : Option Entity} {next : Entity → CoreTx Value}
    (rest : ∀ entity, found = some entity → Confined orgId db db' pending (next entity)) :
    Confined orgId db db' pending (orThrow error found >>= next) := by
  cases found with
  | none => exact Confined.fail _
  | some entity => exact rest entity rfl

theorem append_confined (event : FollowEvent) :
    Confined orgId db db' pending (PrismaOutboxWriter.append event) := by
  refine Confined.write fun write member => ?_
  obtain rfl := List.mem_singleton.mp member
  exact ⟨trivial, trivial⟩

variable (twins : Twins drawn drawn' orgId db db') (tenant : context.tenantId = some orgId)

include twins tenant

/-- The rule for an item of the tenant that has to be there. -/
theorem findItem_confined {error : Knowledge.ApplicationError} {id : String}
    {next : Knowledge.KnowledgeItem → CoreTx Value}
    (rest : ∀ item : Knowledge.KnowledgeItem, item.orgId = orgId →
      ownerOf db (.item id) = some orgId → ownerOf db' (.item id) = some orgId →
      Confined orgId db db' [] (next item)) :
    Confined orgId db db' []
      (findItemById context id >>= fun found => orThrow error found >>= next) := by
  refine Confined.bind (knowledgeComponent.confined (Knowledge.findById_confined twins tenant)) ?_
  intro found more ran
  rcases knowledgeComponent.aloneFrom_lift_eq_ok.mp ran with ⟨_, alone, rfl⟩
  rcases Knowledge.findById_ok alone with ⟨rfl, org, tenant', rfl⟩
  obtain rfl : org = orgId := Option.some.inj (tenant'.symm.trans tenant)
  refine orThrow_confined fun item loaded => ?_
  rcases Knowledge.findFirst_iff.mp loaded with ⟨row, stored, own, -, rfl⟩
  exact rest _ own (own ▸ ownerOf_item stored) (own ▸ ownerOf_item (twins.item stored own))

/-- The rule for a target of the tenant. -/
theorem findTarget_confined {targetType : FollowTargetType} {targetId : String}
    {next : Unit → CoreTx Value}
    (rest : ownerOf db (followed targetType targetId) = some orgId →
      ownerOf db' (followed targetType targetId) = some orgId →
      Confined orgId db db' [] (next ())) :
    Confined orgId db db' [] (findTarget context targetType targetId >>= next) := by
  cases targetType with
  | document =>
      simp only [findTarget, Tx.bind_assoc, Tx.pure_bind]
      exact findItem_confined twins tenant fun _ _ owner owner' => rest owner owner'
  | space =>
      simp only [findTarget, Tx.bind_assoc, Tx.pure_bind]
      refine Confined.bind (tenant_confined tenant
        (Confined.read (findSpace_congr twins.same targetId))) ?_
      intro found more ran
      rcases aloneFrom_bind_eq_ok.mp ran with ⟨org, _, required, read⟩
      rcases requireTenantId_ok required with ⟨tenant', -, rfl⟩
      obtain rfl : org = orgId := Option.some.inj (tenant'.symm.trans tenant)
      rcases aloneFrom_read_eq_ok.mp read with ⟨rfl, rfl⟩
      refine orThrow_confined fun space loaded => ?_
      simp only [PrismaSpaceRepository.findFirst, Engine.view_nil, Option.filter_eq_some_iff,
        decide_eq_true_eq] at loaded
      rcases loaded with ⟨stored, own, -⟩
      exact rest (own ▸ ownerOf_space stored) (own ▸ ownerOf_space (twins.space stored own))

omit tenant in
/-- A vote on an item of the tenant is written over the tenant's vote or where there is none. -/
theorem upsert_confined {vote : Vote} (own : vote.orgId = orgId)
    (owner : ownerOf db (.item vote.itemId) = some orgId)
    (owner' : ownerOf db' (.item vote.itemId) = some orgId) :
    Confined orgId db db' [] (PrismaVoteRepository.upsert vote) := by
  have free := twins.first.free_vote owner vote.userId
  have free' := twins.second.free_vote owner' vote.userId
  have same := free.get?_congr free' twins.votes
  refine Confined.execute ?_ ?_
  · simp only [Engine.view_nil, same]
  · intro more value ran write member
    cases ran
    obtain rfl := List.mem_singleton.mp member
    change WithinBoth orgId db db' (.engagement (.putVote
      (((db.engagement.votes.get? (vote.itemId, vote.userId)).map fun row =>
        { row with value := vote.value }).getD vote)))
    cases stored : db.engagement.votes.get? (vote.itemId, vote.userId) with
    | none => exact ⟨⟨own, free⟩, own, free'⟩
    | some row =>
        have org : row.orgId = orgId := free row stored
        have key : (row.itemId, row.userId) = (vote.itemId, vote.userId) :=
          (twins.first.votes _ row stored).1
        refine ⟨⟨org, ?_⟩, org, ?_⟩
        · change db.engagement.votes.Free Vote.orgId orgId (row.itemId, row.userId)
          exact key ▸ free
        · change db'.engagement.votes.Free Vote.orgId orgId (row.itemId, row.userId)
          exact key ▸ free'

theorem castVote_confined (command : CastVoteCommand) :
    Confined orgId db db' [] (CastVoteHandler.execute context command) := by
  refine findItem_confined twins tenant fun item own owner owner' => ?_
  refine Confined.bind (tenant_confined tenant (Confined.read
    (OrderedMap.lookup_congr twins.votes (command.itemId, command.userId)))) ?_
  intro existing more ran
  rcases aloneFrom_bind_eq_ok.mp ran with ⟨org, _, required, read⟩
  rcases requireTenantId_ok required with ⟨tenant', -, rfl⟩
  obtain rfl : org = orgId := Option.some.inj (tenant'.symm.trans tenant)
  rcases aloneFrom_read_eq_ok.mp read with ⟨rfl, rfl⟩
  split
  · next existing found =>
      simp only [Engine.view_nil, Option.filter_eq_some_iff, decide_eq_true_eq] at found
      have key := (twins.first.votes _ existing found.1).1
      have same : (existing.changeValue command.value).itemId = command.itemId :=
        (Prod.mk.inj key).1
      exact upsert_confined twins found.2 (same ▸ owner) (same ▸ owner')
  · exact upsert_confined twins own owner owner'

theorem removeVote_confined (command : RemoveVoteCommand) :
    Confined orgId db db' [] (RemoveVoteHandler.execute context command) := by
  refine tenant_confined tenant (Confined.execute ?_ ?_)
  · have same := OrderedMap.lookup_congr twins.votes (command.itemId, command.userId)
    simp only [Engine.view_nil, same]
  · intro more value ran write member
    cases ran
    split at member
    · next vote found =>
        obtain rfl := List.mem_singleton.mp member
        have same := OrderedMap.lookup_congr twins.votes (command.itemId, command.userId)
        exact ⟨.of_filter found, .of_filter (same.symm.trans found)⟩
    · cases member

theorem addBookmark_confined (command : AddBookmarkCommand) :
    Confined orgId db db' [] (AddBookmarkHandler.execute context command) := by
  refine findItem_confined twins tenant fun item own owner owner' => ?_
  have free := twins.first.free_bookmark owner command.userId
  have free' := twins.second.free_bookmark owner' command.userId
  have same := free.get?_congr free' twins.bookmarks
  refine Confined.execute ?_ ?_
  · simp only [Engine.view_nil, Bookmark.create, same]
  · intro more value ran write member
    cases ran
    split at member
    · cases member
    · obtain rfl := List.mem_singleton.mp member
      exact ⟨⟨own, free⟩, own, free'⟩

theorem removeBookmark_confined (command : RemoveBookmarkCommand) :
    Confined orgId db db' [] (RemoveBookmarkHandler.execute context command) := by
  refine tenant_confined tenant (Confined.execute ?_ ?_)
  · have same := OrderedMap.lookup_congr twins.bookmarks (command.userId, command.itemId)
    simp only [Engine.view_nil, same]
  · intro more value ran write member
    cases ran
    split at member
    · next bookmark found =>
        obtain rfl := List.mem_singleton.mp member
        have same := OrderedMap.lookup_congr twins.bookmarks (command.userId, command.itemId)
        exact ⟨.of_filter found, .of_filter (same.symm.trans found)⟩
    · cases member

theorem followTarget_confined (command : FollowTargetCommand) :
    Confined orgId db db' [] (FollowTargetHandler.execute context command) := by
  refine tenant_confined tenant (findTarget_confined twins tenant fun owner owner' => ?_)
  have free := twins.first.free_follow owner command.userId
  have free' := twins.second.free_follow owner' command.userId
  have same := free.get?_congr free' twins.follows
  refine Confined.bind (Confined.execute ?_ ?_) fun _ _ _ => append_confined _
  · simp only [Engine.view_nil, Follow.key, Follow.create, same]
  · intro more value ran write member
    cases ran
    split at member
    · cases member
    · obtain rfl := List.mem_singleton.mp member
      exact ⟨⟨rfl, free⟩, rfl, free'⟩

theorem unfollowTarget_confined (command : UnfollowTargetCommand) :
    Confined orgId db db' [] (UnfollowTargetHandler.execute context command) := by
  have same := OrderedMap.lookup_congr twins.follows
    ⟨command.userId, command.targetType, command.targetId⟩
  refine tenant_confined tenant (Confined.bind (tenant_confined tenant (Confined.execute ?_ ?_))
    fun _ _ _ => append_confined _)
  · simp only [Engine.view_nil, same]
  · intro more value ran write member
    cases ran
    split at member
    · next follow found =>
        obtain rfl := List.mem_singleton.mp member
        exact ⟨.of_filter found, .of_filter (same.symm.trans found)⟩
    · cases member

/-- Every command of the engagement module. -/
theorem execute_confined (command : EngagementCommand) :
    Confined orgId db db' [] (command.execute context) := by
  cases command with
  | castVote command => exact castVote_confined twins tenant command
  | removeVote command => exact removeVote_confined twins tenant command
  | addBookmark command => exact addBookmark_confined twins tenant command
  | removeBookmark command => exact removeBookmark_confined twins tenant command
  | followTarget command => exact followTarget_confined twins tenant command
  | unfollowTarget command => exact unfollowTarget_confined twins tenant command

end CoreApi.Engagement
