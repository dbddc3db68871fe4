import CoreApi.Attribution.Knowledge

/-!
# Signed votes, bookmarks and follows

The commands of the engagement module put rows of the user they name, in the
organization of the request. A vote that is changed was cast on the same item, which
belongs to one organization.
-/

namespace CoreApi.Engagement

open Knowledge WriteSet
open Outbox (FollowTargetType)

variable {Client : Type} {commands : Client → Option CoreCommand} {context : Context}
  {client : Client}

theorem requireTenantId_signs :
    (signatures commands).Adds (requireTenantId context)
      fun orgId => context.tenantId = some orgId :=
  Knowledge.requireTenantId_signs

theorem orThrow_signs {Entity : Type} {error : ApplicationError} (found : Option Entity) :
    (signatures commands).Adds (orThrow error found) fun entity => found = some entity := by
  cases found with
  | none => exact Adds.fail _
  | some entity => exact Adds.pure rfl

/-- The rule for an item that has to be there. -/
theorem findItem_signs {Value : Type} {error : ApplicationError} {id : String}
    {next : KnowledgeItem → CoreTx Value} {answers : Value → Prop}
    (rest : ∀ item, item.id = id → ItemSigned commands item → context.tenantId = some item.orgId →
      (signatures commands).Adds (next item) answers) :
    (signatures commands).Adds
      (findItemById context id >>= fun found => orThrow error found >>= next) answers := by
  refine Adds.bind _ (Knowledge.findById_signs id) fun found loaded => ?_
  refine Adds.bind _ (orThrow_signs found) fun item present => ?_
  rcases loaded item present with ⟨same, signed, tenant⟩
  exact rest item same signed tenant

/-- A statement that puts signed rows. -/
theorem statement_signs {writes : CoreDb → List CoreWrite}
    (signed : ∀ db, RowsSigned commands db → ∀ write ∈ writes db, write.Signed commands) :
    (signatures commands).Adds (.execute fun db => .ok (writes db, ()) : CoreTx Unit)
      fun _ => True := by
  apply Adds.execute
  rintro db inv _ value ⟨⟩
  exact ⟨signed db inv, trivial⟩

/-- Whether the vote is new or changed, it is the row of the user for the item. -/
theorem upsert_signs (once : OpenedOnce commands) {vote : Vote}
    (signed : VoteSigned commands vote) :
    (signatures commands).Adds (PrismaVoteRepository.upsert vote) fun _ => True := by
  refine statement_signs fun db rows => List.forall_mem_singleton.mpr ?_
  change VoteSigned commands _
  cases stored : db.engagement.votes.get? (vote.itemId, vote.userId) with
  | none => exact signed
  | some row =>
      rcases rows.votes _ row stored with ⟨key, opened, -⟩
      rcases Prod.mk.inj key with ⟨item, user⟩
      rcases signed with ⟨opened', engages⟩
      refine ⟨opened, ?_⟩
      rcases opened with ⟨create, opens, org⟩
      rcases opened' with ⟨create', opens', org'⟩
      obtain rfl := Opens.unique once opens (item ▸ opens')
      have own : row.orgId = vote.orgId := org.symm.trans org'
      simpa only [Option.map_some, Option.getD_some, own, item, user] using engages

theorem castVote_signs (once : OpenedOnce commands) {command : CastVoteCommand}
    (mine : commands client = some (.engagement context (.castVote command))) :
    (signatures commands).Adds (CastVoteHandler.execute context command) fun _ => True := by
  refine findItem_signs fun item same signed tenant => ?_
  have engages : Engages commands item.orgId (.castVote command) :=
    ⟨client, context, mine, tenant⟩
  have opened : OpenedIn commands item.orgId command.itemId := same ▸ signed.openedIn
  refine Adds.bind (fun existing => ∀ vote : Vote, existing = some vote →
    vote.itemId = command.itemId ∧ vote.userId = command.userId ∧ vote.orgId = item.orgId) ?_ ?_
  · refine Adds.bind _ requireTenantId_signs fun orgId tenant' => ?_
    refine Adds.read fun db rows vote found => ?_
    have found := Option.filter_eq_some_iff.mp found
    rcases Prod.mk.inj (rows.votes _ vote found.1).1 with ⟨item', user⟩
    refine ⟨item', user, (of_decide_eq_true found.2).trans ?_⟩
    exact Option.some.inj (tenant'.symm.trans tenant)
  · intro existing found
    cases existing with
    | none => exact upsert_signs once ⟨opened, engages⟩
    | some vote =>
        rcases found vote rfl with ⟨item', user, org⟩
        refine upsert_signs once ?_
        change OpenedIn commands vote.orgId vote.itemId ∧
          Engages commands vote.orgId (.castVote ⟨vote.itemId, vote.userId, command.value⟩)
        rw [item', user, org]
        exact ⟨opened, engages⟩

theorem removeVote_signs (command : RemoveVoteCommand) :
    (signatures commands).Adds (RemoveVoteHandler.execute context command) fun _ => True := by
  refine Adds.bind _ requireTenantId_signs fun orgId _ => statement_signs fun db _ => ?_
  split <;> simp [CoreWrite.Signed]

theorem addBookmark_signs {command : AddBookmarkCommand}
    (mine : commands client = some (.engagement context (.addBookmark command))) :
    (signatures commands).Adds (AddBookmarkHandler.execute context command) fun _ => True := by
  refine findItem_signs fun item same signed tenant => statement_signs fun db _ => ?_
  split
  · exact List.forall_mem_nil _
  · exact List.forall_mem_singleton.mpr ⟨same ▸ signed.openedIn, client, context, mine, tenant⟩

theorem removeBookmark_signs (command : RemoveBookmarkCommand) :
    (signatures commands).Adds (RemoveBookmarkHandler.execute context command)
      fun _ => True := by
  refine Adds.bind _ requireTenantId_signs fun orgId _ => statement_signs fun db _ => ?_
  split <;> simp [CoreWrite.Signed]

theorem append_signs (event : FollowEvent) :
    (signatures commands).Adds (PrismaOutboxWriter.append event) fun _ => True :=
  statement_signs fun _ _ => List.forall_mem_singleton.mpr trivial

/-- A target that is found is one of the tenant, and an item if it is a document. -/
theorem findTarget_signs (targetType : FollowTargetType) (targetId : String) :
    (signatures commands).Adds (findTarget context targetType targetId) fun _ =>
      targetType = .document →
        ∃ orgId, context.tenantId = some orgId ∧ OpenedIn commands orgId targetId := by
  cases targetType with
  | document =>
      refine findItem_signs fun item same signed tenant => Adds.pure fun _ => ?_
      exact ⟨item.orgId, tenant, same ▸ signed.openedIn⟩
  | space =>
      refine Adds.bind (fun _ => True) ?_ fun found _ => ?_
      · exact Adds.bind _ requireTenantId_signs fun orgId _ => Adds.read fun _ _ => trivial
      · refine Adds.bind _ (orThrow_signs found) fun space _ => Adds.pure fun document => ?_
        cases document

theorem followTarget_signs {command : FollowTargetCommand}
    (mine : commands client = some (.engagement context (.followTarget command))) :
    (signatures commands).Adds (FollowTargetHandler.execute context command) fun _ => True := by
  refine Adds.bind _ requireTenantId_signs fun orgId tenant => ?_
  refine Adds.bind _ (findTarget_signs _ _) fun _ found => ?_
  refine Adds.bind (fun _ => True) (statement_signs fun db _ => ?_) fun _ _ => append_signs _
  split
  · exact List.forall_mem_nil _
  · refine List.forall_mem_singleton.mpr ⟨fun document => ?_, client, context, mine, tenant⟩
    rcases found document with ⟨orgId', tenant', opened⟩
    obtain rfl : orgId' = orgId := Option.some.inj (tenant'.symm.trans tenant)
    exact opened

theorem unfollowTarget_signs (command : UnfollowTargetCommand) :
    (signatures commands).Adds (UnfollowTargetHandler.execute context command)
      fun _ => True := by
  refine Adds.bind _ requireTenantId_signs fun orgId _ => ?_
  refine Adds.bind (fun _ => True) ?_ fun _ _ => append_signs _
  refine Adds.bind _ requireTenantId_signs fun orgId _ => statement_signs fun db _ => ?_
  split <;> simp [CoreWrite.Signed]

/-- Every command of the engagement module writes signed rows. -/
theorem execute_signs (once : OpenedOnce commands) {command : EngagementCommand}
    (mine : commands client = some (.engagement context command)) :
    (signatures commands).Adds (command.execute context) fun _ => True := by
  cases command with
  | castVote command => exact castVote_signs once mine
  | removeVote command => exact removeVote_signs command
  | addBookmark command => exact addBookmark_signs mine
  | removeBookmark command => exact removeBookmark_signs command
  | followTarget command => exact followTarget_signs mine
  | unfollowTarget command => exact unfollowTarget_signs command

end CoreApi.Engagement
