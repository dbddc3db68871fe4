import CoreApi.Tenancy.SoundKnowledge

/-!
# Votes, bookmarks and follows stay with their targets

The commands of the engagement module, statement by statement: a row is stored
with the organization of the item or the space it refers to, whether it is new
or written over.
-/

namespace CoreApi.Engagement

open Registry
open Outbox (FollowTargetType)

variable {drawn : String → String → Prop} {known : CoreDb → Prop} {context : Knowledge.Context}

theorem orThrow_sound {Entity : Type} {error : Knowledge.ApplicationError} {found : Option Entity}
    {middle : Entity → CoreDb → Prop} :
    (rowRegistry drawn).Triple (fun db => ∀ entity, found = some entity → middle entity db)
      (orThrow error found) middle := by
  cases found with
  | none => exact Triple.fail _
  | some entity => exact Triple.pure fun db knows => knows entity rfl

/-- The rule for an item that has to be there. -/
theorem findItem_sound {Value : Type} {error : Knowledge.ApplicationError} {id : String}
    {next : Knowledge.KnowledgeItem → CoreTx Value} {learned : Value → CoreDb → Prop}
    (rest : ∀ item, (rowRegistry drawn).Triple (fun db => ownerOf db (.item id) =
      some item.orgId ∧ context.tenantId = some item.orgId) (next item) learned) :
    (rowRegistry drawn).Triple known
      (findItemById context id >>= fun found => orThrow error found >>= next) learned := by
  refine Triple.bind _ Knowledge.findById_sound fun found => ?_
  refine Triple.bind (fun item db => ownerOf db (.item id) = some item.orgId ∧
    context.tenantId = some item.orgId) (orThrow_sound.mono ?_ fun _ _ learns => learns) rest
  intro db loaded item present
  exact (loaded item present).2

theorem findTarget_sound {targetType : FollowTargetType} {targetId : String} :
    (rowRegistry drawn).Triple known (findTarget context targetType targetId) fun _ db =>
      ∃ orgId, context.tenantId = some orgId ∧
        ownerOf db (followed targetType targetId) = some orgId := by
  cases targetType with
  | document =>
      exact findItem_sound fun item => Triple.pure fun db owner => ⟨_, owner.2, owner.1⟩
  | space =>
      refine Triple.bind (fun found db => ∀ space, found = some space →
        ownerOf db (.space targetId) = some space.orgId ∧ context.tenantId = some space.orgId) ?_ ?_
      · refine Triple.bind (fun orgId _ => context.tenantId = some orgId)
          (Knowledge.requireTenantId_sound.mono (fun _ knows => knows)
            fun _ _ learns => learns.1) ?_
        intro orgId
        refine Triple.read (fun _ _ _ tenant => tenant) ?_
        intro db _ tenant space found
        simp only [PrismaSpaceRepository.findFirst, Option.filter_eq_some_iff,
          decide_eq_true_eq] at found
        rcases found with ⟨stored, org, -⟩
        exact ⟨ownerOf_space stored, org ▸ tenant⟩
      · intro found
        refine Triple.bind _ orThrow_sound fun space => Triple.pure ?_
        intro db owner
        exact ⟨space.orgId, owner.2, owner.1⟩

/-- A vote is stored with the organization of its item. -/
theorem upsert_sound {vote : Vote} :
    (rowRegistry drawn).Triple (fun db => ownerOf db (.item vote.itemId) = some vote.orgId)
      (PrismaVoteRepository.upsert vote) fun _ _ => True := by
  refine Triple.execute (stable_owner _ _) ?_
  intro db owned owner writes value ran
  cases ran
  refine ⟨SoundAll.of_unclaimed (by simp [rowRegistry, CoreWrite.claim]) ?_, trivial⟩
  simp only [List.mem_singleton, forall_eq]
  cases stored : db.engagement.votes.get? (vote.itemId, vote.userId) with
  | none => exact owner
  | some row => exact (owned.votes _ row stored).2

theorem castVote_sound (command : CastVoteCommand) :
    (rowRegistry drawn).Triple (fun _ => True) (CastVoteHandler.execute context command)
      fun _ _ => True := by
  refine findItem_sound fun item => ?_
  refine Triple.bind (fun existing db => ownerOf db (.item command.itemId) = some item.orgId ∧
    ∀ vote : Vote, existing = some vote → ownerOf db (.item vote.itemId) = some vote.orgId) ?_ ?_
  · refine Triple.bind (fun _ db => ownerOf db (.item command.itemId) = some item.orgId)
      (Knowledge.requireTenantId_sound.mono (fun _ knows => knows) fun _ _ learns => learns.2.1) ?_
    intro orgId
    refine Triple.read (stable_owner _ _) ?_
    intro db owned owner
    refine ⟨owner, fun vote found => ?_⟩
    exact (owned.votes _ vote (Option.filter_eq_some_iff.mp found).1).2
  · intro existing
    cases existing with
    | some existing => exact upsert_sound.mono (fun db owner => owner.2 existing rfl) fun _ _ => id
    | none => exact upsert_sound.mono (fun db owner => owner.1) fun _ _ => id

/-- A statement that writes nothing, or one write that claims and refers to nothing. -/
theorem write_sound {Value : Type} {run : CoreDb → Except CoreError (List CoreWrite × Value)}
    (stable : (rowRegistry drawn).Stable known)
    (free : ∀ db, Owned drawn db → known db → ∀ writes value, run db = .ok (writes, value) →
      ∀ write ∈ writes, write.claim = none ∧ write.Refers drawn (ownerOf db)) :
    (rowRegistry drawn).Triple known (.execute run) fun _ _ => True := by
  refine Triple.execute stable ?_
  intro db owned knows writes value ran
  have free := free db owned knows writes value ran
  exact ⟨SoundAll.of_unclaimed (fun write member => (free write member).1)
    fun write member => (free write member).2, trivial⟩

theorem removeVote_sound (command : RemoveVoteCommand) :
    (rowRegistry drawn).Triple (fun _ => True) (RemoveVoteHandler.execute context command)
      fun _ _ => True := by
  refine Triple.bind _ Knowledge.requireTenantId_sound fun orgId => ?_
  refine write_sound (fun _ _ _ tenant => tenant) ?_
  intro db _ _ writes value ran
  cases ran
  split <;> simp [CoreWrite.claim, CoreWrite.Refers]

theorem addBookmark_sound (command : AddBookmarkCommand) :
    (rowRegistry drawn).Triple (fun _ => True) (AddBookmarkHandler.execute context command)
      fun _ _ => True := by
  refine findItem_sound fun item => ?_
  refine write_sound (Stable.and (stable_owner _ _) fun _ _ _ tenant => tenant) ?_
  intro db _ owner writes value ran
  cases ran
  split
  · simp
  · simpa [CoreWrite.claim, CoreWrite.Refers, Bookmark.create] using owner.1

theorem removeBookmark_sound (command : RemoveBookmarkCommand) :
    (rowRegistry drawn).Triple (fun _ => True) (RemoveBookmarkHandler.execute context command)
      fun _ _ => True := by
  refine Triple.bind _ Knowledge.requireTenantId_sound fun orgId => ?_
  refine write_sound (fun _ _ _ tenant => tenant) ?_
  intro db _ _ writes value ran
  cases ran
  split <;> simp [CoreWrite.claim, CoreWrite.Refers]

theorem append_sound {event : FollowEvent} (stable : (rowRegistry drawn).Stable known) :
    (rowRegistry drawn).Triple known (PrismaOutboxWriter.append event) fun _ _ => True := by
  refine write_sound stable ?_
  intro db _ _ writes value ran
  cases ran
  simp [CoreWrite.claim, CoreWrite.Refers]

theorem followTarget_sound (command : FollowTargetCommand) :
    (rowRegistry drawn).Triple (fun _ => True) (FollowTargetHandler.execute context command)
      fun _ _ => True := by
  refine Triple.bind _ Knowledge.requireTenantId_sound fun orgId => Triple.of_fact fun tenant => ?_
  refine Triple.bind _ findTarget_sound fun _ => ?_
  refine Triple.bind (fun _ _ => True) (write_sound ?_ ?_) fun _ => append_sound Stable.true
  · rintro db now grows ⟨orgId', tenant', owner⟩
    exact ⟨orgId', tenant', grows _ _ owner⟩
  · rintro db _ ⟨orgId', tenant', owner⟩ writes value ran
    obtain rfl : orgId' = orgId := Option.some.inj (tenant'.symm.trans tenant)
    cases ran
    split
    · simp
    · simpa [CoreWrite.claim, CoreWrite.Refers, Follow.create] using owner

theorem unfollowTarget_sound (command : UnfollowTargetCommand) :
    (rowRegistry drawn).Triple (fun _ => True) (UnfollowTargetHandler.execute context command)
      fun _ _ => True := by
  refine Triple.bind (fun _ _ => True)
    (Knowledge.requireTenantId_sound.mono (fun _ knows => knows) fun _ _ _ => trivial) ?_
  intro orgId
  refine Triple.bind (fun _ _ => True) ?_ fun _ => append_sound Stable.true
  refine Triple.bind _ Knowledge.requireTenantId_sound fun orgId' => ?_
  refine write_sound (Stable.and (fun _ _ _ tenant => tenant) Stable.true) ?_
  intro db _ _ writes value ran
  cases ran
  split <;> simp [CoreWrite.claim, CoreWrite.Refers]

/-- Every command of the engagement module writes soundly. -/
theorem execute_sound (command : EngagementCommand) :
    (rowRegistry drawn).Triple (fun _ => True) (command.execute context) fun _ _ => True := by
  cases command with
  | castVote command => exact castVote_sound command
  | removeVote command => exact removeVote_sound command
  | addBookmark command => exact addBookmark_sound command
  | removeBookmark command => exact removeBookmark_sound command
  | followTarget command => exact followTarget_sound command
  | unfollowTarget command => exact unfollowTarget_sound command

end CoreApi.Engagement
