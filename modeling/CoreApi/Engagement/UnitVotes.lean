import CoreApi.Foundation.WriteSets
import CoreApi.Repos.Commands

/-!
# Votes for and against

The schema of the request admits a vote for and a vote against. No command
writes any other vote, so on every schedule of commands that have passed the
schema all stored votes are of the two kinds.
-/

namespace CoreApi.Engagement

open Outbox (FollowTargetType)
open WriteSet

/-- A value that the schema of a vote admits. -/
def UnitVote (value : ℤ) : Prop := value = 1 ∨ value = -1

/-- Votes stand under their keys, and each is for or against. -/
def UnitVotes (db : CoreDb) : Prop :=
  db.engagement.votes.All fun key vote => (vote.itemId, vote.userId) = key ∧ UnitVote vote.value

/-- The command has passed the schema of its request. -/
def CastVoteSchema (command : CoreCommand) : Prop :=
  ∀ context cast, command = .engagement context (.castVote cast) → UnitVote cast.value

/-- The writes that put no other vote. -/
def unitWrites : WriteSet coreEngine where
  Inv := UnitVotes
  Rely _ _ _ := True
  refl _ _ := trivial
  trans _ _ := trivial
  Allowed write := ∀ vote, write = .engagement (.putVote vote) → UnitVote vote.value
  inv_apply db write units allowed := by
    cases write with
    | engagement write =>
        cases write with
        | putVote vote => exact OrderedMap.All.set units ⟨rfl, allowed vote rfl⟩
        | deleteVote itemId userId => exact OrderedMap.All.delete units _
        | _ => exact units
    | credit now write => cases write <;> exact units
    | _ => exact units
  rely_apply _ _ _ _ _ := trivial

/-- A statement that puts no vote. -/
theorem others_adds {writes : CoreDb → List CoreWrite}
    (others : ∀ db vote, .engagement (.putVote vote) ∉ writes db) :
    unitWrites.Adds (.execute fun db => .ok (writes db, ()) : CoreTx Unit) fun _ => True := by
  apply WriteSet.Adds.execute
  rintro db _ added value ⟨⟩
  refine ⟨fun write member vote same => ?_, trivial⟩
  rw [same] at member
  exact absurd member (others db vote)

section Bodies

variable {context : Knowledge.Context}

theorem requireTenantId_adds : unitWrites.Adds (requireTenantId context) fun _ => True :=
  Adds.lift (by rintro write vote ⟨⟩) _

theorem findItemById_adds (id : String) :
    unitWrites.Adds (findItemById context id) fun _ => True :=
  Adds.lift (by rintro write vote ⟨⟩) _

theorem orThrow_adds {Entity : Type} {error : Knowledge.ApplicationError}
    (found : Option Entity) : unitWrites.Adds (orThrow error found) fun _ => True := by
  cases found with
  | none => exact Adds.fail _
  | some entity => exact Adds.pure trivial

/-- The stored vote has the value that was asked for, whether it is new or changed. -/
theorem upsert_adds {vote : Vote} (unit : UnitVote vote.value) :
    unitWrites.Adds (PrismaVoteRepository.upsert vote) fun _ => True := by
  apply Adds.execute
  rintro db _ writes value ⟨⟩
  refine ⟨List.forall_mem_singleton.mpr ?_, trivial⟩
  rintro stored ⟨⟩
  cases db.engagement.votes.get? (vote.itemId, vote.userId) with
  | none => exact unit
  | some row => exact unit

theorem castVote_adds {command : CastVoteCommand} (unit : UnitVote command.value) :
    unitWrites.Adds (CastVoteHandler.execute context command) fun _ => True := by
  refine Adds.bind _ (findItemById_adds _) fun found _ => ?_
  refine Adds.bind _ (orThrow_adds found) fun item _ => ?_
  refine Adds.bind (fun _ => True) ?_ fun existing _ => ?_
  · refine Adds.bind _ requireTenantId_adds fun orgId _ => ?_
    exact Adds.read fun _ _ => trivial
  · cases existing with
    | none => exact upsert_adds unit
    | some existing => exact upsert_adds unit

theorem removeVote_adds (command : RemoveVoteCommand) :
    unitWrites.Adds (RemoveVoteHandler.execute context command) fun _ => True := by
  refine Adds.bind _ requireTenantId_adds fun orgId _ => others_adds fun db vote => ?_
  split <;> simp

theorem addBookmark_adds (command : AddBookmarkCommand) :
    unitWrites.Adds (AddBookmarkHandler.execute context command) fun _ => True := by
  refine Adds.bind _ (findItemById_adds _) fun found _ => ?_
  refine Adds.bind _ (orThrow_adds found) fun item _ => ?_
  refine others_adds fun db vote => ?_
  split <;> simp

theorem removeBookmark_adds (command : RemoveBookmarkCommand) :
    unitWrites.Adds (RemoveBookmarkHandler.execute context command) fun _ => True := by
  refine Adds.bind _ requireTenantId_adds fun orgId _ => others_adds fun db vote => ?_
  split <;> simp

theorem append_adds (event : FollowEvent) :
    unitWrites.Adds (PrismaOutboxWriter.append event) fun _ => True :=
  others_adds fun db vote => by simp

theorem findTarget_adds (targetType : FollowTargetType) (targetId : String) :
    unitWrites.Adds (findTarget context targetType targetId) fun _ => True := by
  cases targetType with
  | document =>
      refine Adds.bind _ (findItemById_adds _) fun found _ => ?_
      exact Adds.bind _ (orThrow_adds found) fun item _ => Adds.pure trivial
  | space =>
      refine Adds.bind (fun _ => True) ?_ fun found _ => ?_
      · refine Adds.bind _ requireTenantId_adds fun orgId _ => ?_
        exact Adds.read fun _ _ => trivial
      · exact Adds.bind _ (orThrow_adds found) fun space _ => Adds.pure trivial

theorem followTarget_adds (command : FollowTargetCommand) :
    unitWrites.Adds (FollowTargetHandler.execute context command) fun _ => True := by
  refine Adds.bind _ requireTenantId_adds fun orgId _ => ?_
  refine Adds.bind _ (findTarget_adds _ _) fun _ _ => ?_
  refine Adds.bind (fun _ => True) ?_ fun _ _ => append_adds _
  refine others_adds fun db vote => ?_
  split <;> simp

theorem unfollowTarget_adds (command : UnfollowTargetCommand) :
    unitWrites.Adds (UnfollowTargetHandler.execute context command) fun _ => True := by
  refine Adds.bind _ requireTenantId_adds fun orgId _ => ?_
  refine Adds.bind (fun _ => True) ?_ fun _ _ => append_adds _
  refine Adds.bind _ requireTenantId_adds fun orgId _ => others_adds fun db vote => ?_
  split <;> simp

end Bodies

/-- A command of any module puts only votes for and against. -/
theorem execute_adds {catalog : Tenant.PermissionCatalog} {command : CoreCommand}
    (checked : CastVoteSchema command) :
    unitWrites.Adds (command.execute catalog) fun _ => True := by
  cases command with
  | tenant context command =>
      exact Adds.map _ (Adds.lift (by rintro write vote ⟨⟩) _)
  | knowledge context command =>
      exact Adds.map _ (Adds.lift (by rintro write vote ⟨⟩) _)
  | credit stamp command =>
      exact Adds.map _ (Adds.lift (by rintro write vote ⟨⟩) _)
  | engagement context command =>
      apply Adds.map
      cases command with
      | castVote command => exact castVote_adds (checked context command rfl)
      | removeVote command => exact removeVote_adds command
      | addBookmark command => exact addBookmark_adds command
      | removeBookmark command => exact removeBookmark_adds command
      | followTarget command => exact followTarget_adds command
      | unfollowTarget command => exact unfollowTarget_adds command

theorem unitVotes_of_reachable {catalog : Tenant.PermissionCatalog} {commands : ℕ → CoreCommand}
    (checked : ∀ client, CastVoteSchema (commands client))
    {state : Workload.State ℕ CoreDb CoreWrite CoreError CoreReply}
    (reached : (coreWorkload catalog commands).system.Reachable state) : UnitVotes state.db := by
  refine WriteSet.inv_of_reachable unitWrites ?_ ?_ (fun client => execute_adds (checked client))
    reached
  · rintro db rfl
    exact OrderedMap.All.empty
  · exact fun db next => id

end CoreApi.Engagement
