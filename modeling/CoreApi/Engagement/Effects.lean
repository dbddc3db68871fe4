import CoreApi.Knowledge.Effects
import CoreApi.Repos.Commands

/-!
# What a command of the engagement module writes

Each command, run alone, by the writes it commits. They all go to the tables of
the module itself.
-/

namespace CoreApi.Engagement

open Engine

/-- What a command that commits has written. -/
inductive Writes (context : Knowledge.Context) (db : EngagementDb) :
    EngagementCommand → List EngagementWrite → Prop where
  | castVote {command : CastVoteCommand} {vote : Vote} :
      Writes context db (.castVote command) [.putVote vote]
  | removeVote {command : RemoveVoteCommand} {writes : List EngagementWrite}
      (wrote : writes = [] ∨ writes = [.deleteVote command.itemId command.userId]) :
      Writes context db (.removeVote command) writes
  | addBookmark {command : AddBookmarkCommand} {bookmark : Bookmark}
      {writes : List EngagementWrite} (wrote : writes = [] ∨ writes = [.putBookmark bookmark]) :
      Writes context db (.addBookmark command) writes
  | removeBookmark {command : RemoveBookmarkCommand} {writes : List EngagementWrite}
      (wrote : writes = [] ∨ writes = [.deleteBookmark command.userId command.itemId]) :
      Writes context db (.removeBookmark command) writes
  | followTarget {command : FollowTargetCommand} {orgId : String} {follow : Follow}
      (same : follow.key = ⟨command.userId, command.targetType, command.targetId⟩) :
      Writes context db (.followTarget command)
        ((match db.follows.get? follow.key with
          | some _ => []
          | none => [.putFollow follow]) ++
        [.appendOutbox (.followCreated
          (Outbox.Follow.streamKey command.userId command.targetType command.targetId) orgId
          follow.key)])
  | unfollowTarget {command : UnfollowTargetCommand} {orgId : String} {key : FollowKey}
      (same : key = ⟨command.userId, command.targetType, command.targetId⟩)
      (tenant : context.tenantId = some orgId) (nonempty : orgId ≠ "") :
      Writes context db (.unfollowTarget command)
        ((match (db.follows.get? key).filter fun follow => follow.orgId = orgId with
          | some _ => [.deleteFollow key]
          | none => []) ++
        [.appendOutbox (.followRemoved
          (Outbox.Follow.streamKey command.userId command.targetType command.targetId) orgId key)])

variable {db : CoreDb} {pending writes : List CoreWrite} {context : Knowledge.Context}

theorem requireTenantId_ok {orgId : String}
    (ran : coreEngine.aloneFrom db pending (requireTenantId context) = .ok (orgId, writes)) :
    context.tenantId = some orgId ∧ orgId ≠ "" ∧ pending = writes := by
  rcases knowledgeComponent.aloneFrom_lift_eq_ok.mp ran with ⟨more, required, rfl⟩
  cases tenant : context.tenantId with
  | none => simp [Knowledge.requireTenantId, tenant] at required
  | some org =>
      by_cases empty : org = ""
      · simp [Knowledge.requireTenantId, tenant, empty] at required
      · simp only [Knowledge.requireTenantId, tenant, if_neg empty, aloneFrom_pure_eq_ok]
          at required
        rcases required with ⟨rfl, rfl⟩
        simp [empty]

@[simp]
theorem aloneFrom_orThrow_eq_ok {Entity : Type} {error : Knowledge.ApplicationError}
    {found : Option Entity} {entity : Entity} :
    coreEngine.aloneFrom db pending (orThrow error found) = .ok (entity, writes) ↔
      found = some entity ∧ pending = writes := by
  cases found <;> simp [orThrow]

theorem findItemById_ok {id : String} {found : Option Knowledge.KnowledgeItem}
    (ran : coreEngine.aloneFrom db pending (findItemById context id) = .ok (found, writes)) :
    pending = writes := by
  rcases knowledgeComponent.aloneFrom_lift_eq_ok.mp ran with ⟨more, found, rfl⟩
  rcases Knowledge.findById_ok found with ⟨rfl, -⟩
  simp

theorem findSpaceById_ok {id : String} {found : Option Tenant.Space}
    (ran : coreEngine.aloneFrom db pending (PrismaSpaceRepository.findById context id) =
      .ok (found, writes)) : pending = writes := by
  rcases aloneFrom_bind_eq_ok.mp ran with ⟨orgId, more, required, read⟩
  rcases requireTenantId_ok required with ⟨-, -, rfl⟩
  exact (aloneFrom_read_eq_ok.mp read).2

theorem findTarget_ok {targetType : Outbox.FollowTargetType} {targetId : String} {answer : Unit}
    (ran : coreEngine.aloneFrom db pending (findTarget context targetType targetId) =
      .ok (answer, writes)) : pending = writes := by
  cases targetType with
  | document =>
      simp only [findTarget, aloneFrom_bind_eq_ok, aloneFrom_orThrow_eq_ok,
        aloneFrom_pure_eq_ok] at ran
      rcases ran with ⟨found, more, read, item, _, ⟨-, rfl⟩, -, rfl⟩
      exact findItemById_ok read
  | space =>
      simp only [findTarget, aloneFrom_bind_eq_ok, aloneFrom_orThrow_eq_ok,
        aloneFrom_pure_eq_ok] at ran
      rcases ran with ⟨found, more, read, space, _, ⟨-, rfl⟩, -, rfl⟩
      exact findSpaceById_ok read

theorem castVote_writes {command : CastVoteCommand} {answer : Unit}
    (ran : coreEngine.aloneFrom db [] (CastVoteHandler.execute context command) =
      .ok (answer, writes)) : ∃ vote, writes = [.engagement (.putVote vote)] := by
  simp only [CastVoteHandler.execute, PrismaVoteRepository.findByItemAndUser,
    aloneFrom_bind_eq_ok, aloneFrom_orThrow_eq_ok] at ran
  rcases ran with ⟨found, _, read, item, _, ⟨-, rfl⟩, existing, _, ⟨orgId, _, required, votes⟩, ran⟩
  obtain rfl := findItemById_ok read
  rcases requireTenantId_ok required with ⟨-, -, rfl⟩
  obtain rfl := (aloneFrom_read_eq_ok.mp votes).2
  have upserted : ∀ vote, coreEngine.aloneFrom db [] (PrismaVoteRepository.upsert vote) =
      .ok (answer, writes) → ∃ vote, writes = [.engagement (.putVote vote)] := by
    intro vote ran
    rcases aloneFrom_execute_eq_ok.mp ran with ⟨more, ran, rfl⟩
    cases ran
    exact ⟨_, rfl⟩
  cases existing with
  | some existing => exact upserted _ ran
  | none => exact upserted _ ran

theorem removeVote_writes {command : RemoveVoteCommand} {answer : Unit}
    (ran : coreEngine.aloneFrom db [] (RemoveVoteHandler.execute context command) =
      .ok (answer, writes)) :
    writes = [] ∨ writes = [.engagement (.deleteVote command.itemId command.userId)] := by
  rcases aloneFrom_bind_eq_ok.mp ran with ⟨orgId, _, required, removed⟩
  rcases requireTenantId_ok required with ⟨-, -, rfl⟩
  rcases aloneFrom_execute_eq_ok.mp removed with ⟨more, ran, rfl⟩
  split at ran <;> cases ran
  · exact .inr rfl
  · exact .inl rfl

theorem addBookmark_writes {command : AddBookmarkCommand} {answer : Unit}
    (ran : coreEngine.aloneFrom db [] (AddBookmarkHandler.execute context command) =
      .ok (answer, writes)) :
    ∃ bookmark, writes = [] ∨ writes = [.engagement (.putBookmark bookmark)] := by
  simp only [AddBookmarkHandler.execute, aloneFrom_bind_eq_ok, aloneFrom_orThrow_eq_ok] at ran
  rcases ran with ⟨found, _, read, item, _, ⟨-, rfl⟩, added⟩
  obtain rfl := findItemById_ok read
  rcases aloneFrom_execute_eq_ok.mp added with ⟨more, ran, rfl⟩
  refine ⟨Bookmark.create context.id context.now item.orgId command.userId command.itemId, ?_⟩
  split at ran <;> cases ran
  · exact .inl rfl
  · exact .inr rfl

theorem removeBookmark_writes {command : RemoveBookmarkCommand} {answer : Unit}
    (ran : coreEngine.aloneFrom db [] (RemoveBookmarkHandler.execute context command) =
      .ok (answer, writes)) :
    writes = [] ∨ writes = [.engagement (.deleteBookmark command.userId command.itemId)] := by
  rcases aloneFrom_bind_eq_ok.mp ran with ⟨orgId, _, required, removed⟩
  rcases requireTenantId_ok required with ⟨-, -, rfl⟩
  rcases aloneFrom_execute_eq_ok.mp removed with ⟨more, ran, rfl⟩
  split at ran <;> cases ran
  · exact .inr rfl
  · exact .inl rfl

/-- A follow stores its row unless one is there, and emits its event. -/
theorem followTarget_writes {command : FollowTargetCommand} {answer : Unit}
    (ran : coreEngine.aloneFrom db [] (FollowTargetHandler.execute context command) =
      .ok (answer, writes)) :
    ∃ more, writes = more.map .engagement ∧
      Writes context db.engagement (.followTarget command) more := by
  simp only [FollowTargetHandler.execute, aloneFrom_bind_eq_ok] at ran
  rcases ran with ⟨orgId, _, required, _, _, target, _, _, added, appended⟩
  rcases requireTenantId_ok required with ⟨-, -, rfl⟩
  obtain rfl := findTarget_ok target
  rcases aloneFrom_execute_eq_ok.mp added with ⟨more, ran, rfl⟩
  obtain rfl := aloneFrom_write_eq_ok.mp appended
  simp only [Engine.view_nil, Except.ok.injEq, Prod.mk.injEq, and_true] at ran
  subst ran
  refine ⟨_, ?_, @Writes.followTarget context db.engagement command orgId
    (.create context.id context.now orgId command.userId command.targetType command.targetId) rfl⟩
  cases db.engagement.follows.get? (Follow.create context.id context.now orgId command.userId
    command.targetType command.targetId).key <;> rfl

/-- An unfollow deletes the row if it is of the tenant, and emits its event. -/
theorem unfollowTarget_writes {command : UnfollowTargetCommand} {answer : Unit}
    (ran : coreEngine.aloneFrom db [] (UnfollowTargetHandler.execute context command) =
      .ok (answer, writes)) :
    ∃ more, writes = more.map .engagement ∧
      Writes context db.engagement (.unfollowTarget command) more := by
  simp only [UnfollowTargetHandler.execute, PrismaFollowRepository.remove,
    aloneFrom_bind_eq_ok] at ran
  rcases ran with ⟨orgId, _, required, _, _, ⟨orgId', _, required', removed⟩, appended⟩
  rcases requireTenantId_ok required with ⟨tenant, nonempty, rfl⟩
  rcases requireTenantId_ok required' with ⟨tenant', -, rfl⟩
  obtain rfl : orgId' = orgId := Option.some.inj (tenant'.symm.trans tenant)
  rcases aloneFrom_execute_eq_ok.mp removed with ⟨more, ran, rfl⟩
  obtain rfl := aloneFrom_write_eq_ok.mp appended
  simp only [Engine.view_nil, Except.ok.injEq, Prod.mk.injEq, and_true] at ran
  subst ran
  refine ⟨_, ?_, @Writes.unfollowTarget context db.engagement command orgId' _ rfl tenant nonempty⟩
  cases (db.engagement.follows.get? ⟨command.userId, command.targetType, command.targetId⟩).filter
    fun follow => follow.orgId = orgId' <;> rfl

/-- Every command that succeeds has written what its case says. -/
theorem writes_of_ok {command : EngagementCommand} {answer : Unit}
    (ran : coreEngine.aloneFrom db [] (command.execute context) = .ok (answer, writes)) :
    ∃ more, writes = more.map .engagement ∧ Writes context db.engagement command more := by
  cases command with
  | castVote command =>
      rcases castVote_writes ran with ⟨vote, rfl⟩
      exact ⟨_, rfl, .castVote⟩
  | removeVote command =>
      rcases removeVote_writes ran with rfl | rfl
      · exact ⟨[], rfl, .removeVote (.inl rfl)⟩
      · exact ⟨[_], rfl, .removeVote (.inr rfl)⟩
  | addBookmark command =>
      rcases addBookmark_writes ran with ⟨bookmark, rfl | rfl⟩
      · exact ⟨[], rfl, @Writes.addBookmark _ _ _ bookmark _ (.inl rfl)⟩
      · exact ⟨[_], rfl, .addBookmark (.inr rfl)⟩
  | removeBookmark command =>
      rcases removeBookmark_writes ran with rfl | rfl
      · exact ⟨[], rfl, .removeBookmark (.inl rfl)⟩
      · exact ⟨[_], rfl, .removeBookmark (.inr rfl)⟩
  | followTarget command => exact followTarget_writes ran
  | unfollowTarget command => exact unfollowTarget_writes ran

end CoreApi.Engagement

namespace CoreApi

/-- A command of the engagement module writes to its own tables alone. -/
theorem aloneFrom_engagement_ok {catalog : Tenant.PermissionCatalog} {db : CoreDb}
    {writes : List CoreWrite} {answer : CoreReply} {context : Knowledge.Context}
    {command : Engagement.EngagementCommand}
    (ran : coreEngine.aloneFrom db [] (CoreCommand.execute catalog (.engagement context command)) =
      .ok (answer, writes)) :
    ∃ more, writes = more.map .engagement ∧
      Engagement.Writes context db.engagement command more := by
  rcases Engine.aloneFrom_map_eq_ok.mp ran with ⟨reply, body, -⟩
  exact Engagement.writes_of_ok body

end CoreApi
