import CoreApi.Tenancy.Ownership

/-!
# Items stay with their organization

The commands of the knowledge module, statement by statement: an item is stored
over the row it was found under, with the organization of that row, and a
revision belongs to an item that is there.
-/

namespace CoreApi.Knowledge

open Registry PrismaKnowledgeItemRepository

variable {drawn : String → String → Prop} {known : CoreDb → Prop} {context : Context}

theorem requireTenantId_sound :
    (rowRegistry drawn).Triple known
      (knowledgeComponent.lift CoreError.knowledge (requireTenantId context))
      fun orgId db => context.tenantId = some orgId ∧ known db := by
  simp only [requireTenantId]
  split
  · next orgId tenant =>
      split
      · exact Triple.fail _
      · exact Triple.pure fun db knows => ⟨tenant, knows⟩
  · exact Triple.fail _

/-- An item that is found belongs to the tenant. -/
theorem findById_sound {id : String} :
    (rowRegistry drawn).Triple known
      (knowledgeComponent.lift CoreError.knowledge (findById context id)) fun found db =>
        ∀ item, found = some item → item.id = id ∧ ownerOf db (.item id) = some item.orgId ∧
          context.tenantId = some item.orgId := by
  refine Triple.lift_bind (fun orgId _ => context.tenantId = some orgId)
    (requireTenantId_sound.mono (fun _ knows => knows) fun _ _ learns => learns.1) ?_
  intro orgId
  refine Triple.lift_read (fun _ _ _ tenant => tenant) ?_
  intro db owned tenant item found
  simp only [findFirst, Option.map_eq_some_iff, Option.filter_eq_some_iff,
    decide_eq_true_eq] at found
  rcases found with ⟨row, ⟨stored, org, -⟩, rfl⟩
  exact ⟨owned.items id row stored, ownerOf_item stored, org ▸ tenant⟩

/-- The rule for loading an item. -/
theorem load_sound {Value : Type} {id : String} {next : KnowledgeItem → KnowledgeTx Value}
    {learned : Value → CoreDb → Prop}
    (rest : ∀ item, item.id = id →
      (rowRegistry drawn).Triple (fun db => ownerOf db (.item id) = some item.orgId)
        (knowledgeComponent.lift CoreError.knowledge (next item)) learned) :
    (rowRegistry drawn).Triple known (knowledgeComponent.lift CoreError.knowledge
      (findById context id >>= fun found => orNotFound found >>= next)) learned := by
  refine Triple.lift_bind _ findById_sound fun found => ?_
  cases found with
  | none => exact Triple.fail _
  | some item =>
      have checked := Triple.of_fact fun same : item.id = id => rest item same
      refine checked.mono (fun db loaded => ?_) fun _ _ learns => learns
      exact ⟨(loaded item rfl).1, (loaded item rfl).2.1⟩

theorem throwUnless_sound {Value : Type} {condition : Bool} {error : ApplicationError}
    {next : Unit → KnowledgeTx Value} {learned : Value → CoreDb → Prop}
    (rest : (rowRegistry drawn).Triple known
      (knowledgeComponent.lift CoreError.knowledge (next ())) learned) :
    (rowRegistry drawn).Triple known (knowledgeComponent.lift CoreError.knowledge
      (throwUnless condition error >>= next)) learned := by
  cases condition with
  | false => exact Triple.fail _
  | true => exact rest

/-- An item written over its row stays with its organization. -/
theorem updateMany_sound {db : CoreDb} (owned : Owned drawn db) (id : String)
    (condition : KnowledgeItemRow → Bool) {change : KnowledgeItemRow → KnowledgeItemRow}
    (kept : ∀ row, (change row).id = row.id ∧ (change row).orgId = row.orgId) :
    (rowRegistry drawn).SoundAll db
      ((updateMany db.knowledge id condition change).1.map .knowledge) := by
  simp only [updateMany]
  split
  · next row matched =>
      have stored := (Option.filter_eq_some_iff.mp matched).1
      have keyed := owned.items id row stored
      refine ⟨⟨?_, trivial⟩, trivial⟩
      rintro _ _ ⟨⟩ other owner
      rw [(kept row).1, keyed] at owner
      rw [(kept row).2]
      exact Option.some.inj (owner.symm.trans (ownerOf_item stored))
  · trivial

theorem update_sound {item : KnowledgeItem} (stable : (rowRegistry drawn).Stable known) :
    (rowRegistry drawn).Triple known
      (knowledgeComponent.lift CoreError.knowledge (update context item)) fun _ _ => True := by
  refine Triple.lift_bind _ requireTenantId_sound fun orgId => ?_
  refine Triple.lift_execute (Stable.and (fun _ _ _ tenant => tenant) stable) ?_
  intro db owned _ writes value ran
  cases ran
  exact ⟨updateMany_sound owned _ _ fun row => ⟨rfl, rfl⟩, trivial⟩

theorem updateWithOcc_sound {item : KnowledgeItem} {expectedVersion : ℕ}
    (stable : (rowRegistry drawn).Stable known) :
    (rowRegistry drawn).Triple known
      (knowledgeComponent.lift CoreError.knowledge (updateWithOcc context item expectedVersion))
      fun _ => known := by
  refine Triple.lift_bind _ requireTenantId_sound fun orgId => ?_
  refine Triple.lift_execute (Stable.and (fun _ _ _ tenant => tenant) stable) ?_
  intro db owned knows writes value ran
  have sound := @updateMany_sound drawn db owned item.id
    (fun row => row.orgId = orgId ∧ row.version = expectedVersion) (occData context item)
    fun row => ⟨rfl, rfl⟩
  obtain rfl := congrArg Prod.fst (Except.ok.inj ran)
  exact ⟨sound, stable.view sound knows.2⟩

theorem saveRevision_sound {revision : Revision} (orgId : String) :
    (rowRegistry drawn).Triple (fun db => ownerOf db (.item revision.itemId) = some orgId)
      (knowledgeComponent.lift CoreError.knowledge (PrismaRevisionRepository.save context revision))
      fun _ _ => True := by
  refine Triple.lift_execute (stable_owner _ orgId) ?_
  intro db owned owner writes value ran
  split at ran
  · cases ran
  · cases ran
    refine ⟨SoundAll.of_unclaimed ?_ ?_, trivial⟩
    · simp [rowRegistry, CoreWrite.claim, knowledgeComponent]
    · simp [rowRegistry, CoreWrite.Refers, knowledgeComponent, owner]

theorem append_sound {event : KnowledgePublishedEvent} (stable : (rowRegistry drawn).Stable known) :
    (rowRegistry drawn).Triple known
      (knowledgeComponent.lift CoreError.knowledge (PrismaOutboxWriter.append event))
      fun _ _ => True := by
  refine Triple.lift_execute stable ?_
  intro db owned _ writes value ran
  cases ran
  refine ⟨SoundAll.of_unclaimed ?_ ?_, trivial⟩
  · simp [rowRegistry, CoreWrite.claim, knowledgeComponent]
  · simp [rowRegistry, CoreWrite.Refers, knowledgeComponent]

theorem create_sound (command : CreateKnowledgeCommand) :
    (rowRegistry drawn).Triple (fun _ => True) (knowledgeComponent.lift CoreError.knowledge
      (CreateKnowledgeHandler.execute context command)) fun _ _ => True := by
  refine Triple.lift_bind (fun _ _ => True) (Triple.lift_execute Stable.true ?_)
    fun _ => Triple.pure fun _ => id
  intro db owned _ writes value ran
  split at ran
  · cases ran
  · next fresh =>
      cases ran
      refine ⟨⟨⟨?_, trivial⟩, trivial⟩, trivial⟩
      rintro _ _ ⟨⟩ other owner
      have owner' : (db.knowledge.items.get? context.id).map (fun row => row.orgId) = some other :=
        owner
      have fresh' : db.knowledge.items.get? context.id = none := fresh
      rw [fresh'] at owner'
      cases owner'

theorem edit_sound (command : UpdateKnowledgeCommand) :
    (rowRegistry drawn).Triple (fun _ => True) (knowledgeComponent.lift CoreError.knowledge
      (UpdateKnowledgeHandler.execute context command)) fun _ _ => True := by
  refine load_sound fun item same => ?_
  refine Triple.lift_bind _ (updateWithOcc_sound (stable_owner _ item.orgId)) fun ok => ?_
  refine throwUnless_sound ((saveRevision_sound item.orgId).mono ?_ fun _ _ => id)
  intro db owner
  exact same ▸ owner

theorem publish_sound (command : PublishKnowledgeCommand) :
    (rowRegistry drawn).Triple (fun _ => True) (knowledgeComponent.lift CoreError.knowledge
      (PublishKnowledgeHandler.execute context command)) fun _ _ => True := by
  refine load_sound fun item _ => throwUnless_sound ?_
  exact Triple.lift_bind _ (update_sound (stable_owner _ item.orgId))
    fun _ => append_sound Stable.true

theorem verify_sound (command : VerifyKnowledgeCommand) :
    (rowRegistry drawn).Triple (fun _ => True) (knowledgeComponent.lift CoreError.knowledge
      (VerifyKnowledgeHandler.execute context command)) fun _ _ => True := by
  refine load_sound fun item _ => ?_
  dsimp only
  split
  · exact Triple.pure fun _ _ => trivial
  · exact update_sound (stable_owner _ item.orgId)

theorem delete_sound (command : DeleteKnowledgeCommand) :
    (rowRegistry drawn).Triple (fun _ => True) (knowledgeComponent.lift CoreError.knowledge
      (DeleteKnowledgeHandler.execute context command)) fun _ _ => True :=
  load_sound fun item _ => update_sound (stable_owner _ item.orgId)

theorem acceptAnswer_sound (command : AcceptAnswerCommand) :
    (rowRegistry drawn).Triple (fun _ => True) (knowledgeComponent.lift CoreError.knowledge
      (AcceptAnswerHandler.execute context command)) fun _ _ => True := by
  refine load_sound fun question _ => throwUnless_sound (throwUnless_sound ?_)
  refine load_sound fun answer _ => throwUnless_sound (throwUnless_sound ?_)
  exact update_sound (stable_owner _ answer.orgId)

theorem unacceptAnswer_sound (command : UnacceptAnswerCommand) :
    (rowRegistry drawn).Triple (fun _ => True) (knowledgeComponent.lift CoreError.knowledge
      (UnacceptAnswerHandler.execute context command)) fun _ _ => True := by
  refine load_sound fun question _ => throwUnless_sound (throwUnless_sound ?_)
  exact update_sound (stable_owner _ question.orgId)

/-- Every command of the knowledge module writes soundly. -/
theorem execute_sound (command : KnowledgeCommand) :
    (rowRegistry drawn).Triple (fun _ => True)
      (knowledgeComponent.lift CoreError.knowledge (command.execute context)) fun _ _ => True := by
  cases command with
  | create command => exact Triple.lift_map _ (create_sound command)
  | update command => exact Triple.lift_map _ (edit_sound command)
  | publish command => exact Triple.lift_map _ (publish_sound command)
  | verify command => exact Triple.lift_map _ (verify_sound command)
  | delete command => exact Triple.lift_map _ (delete_sound command)
  | acceptAnswer command => exact Triple.lift_map _ (acceptAnswer_sound command)
  | unacceptAnswer command => exact Triple.lift_map _ (unacceptAnswer_sound command)

end CoreApi.Knowledge
