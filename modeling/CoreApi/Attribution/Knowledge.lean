import CoreApi.Attribution.Signatures

/-!
# Signed items

The commands of the knowledge module load an item, change it in memory and write
columns of it back over a row that may have changed meanwhile. Both are signed, and
they have one author and one organization, so what is written is signed as well.
-/

namespace CoreApi

open Knowledge

variable {Client : Type} {commands : Client → Option CoreCommand} {item row : KnowledgeItem}
  {now : ℤ}

namespace ItemSigned

theorem openedIn (signed : ItemSigned commands item) :
    OpenedIn commands item.orgId item.id := by
  rcases signed.opened with ⟨title, body, opens⟩
  exact ⟨_, opens, rfl⟩

/-- What is fixed when an item is created. -/
theorem fixed (once : OpenedOnce commands) (signed : ItemSigned commands item)
    (signed' : ItemSigned commands row) (same : item.id = row.id) :
    item.orgId = row.orgId ∧ item.createdByUserId = row.createdByUserId := by
  rcases signed.opened with ⟨title, body, opens⟩
  rcases signed'.opened with ⟨title', body', opens'⟩
  have create := Opens.unique once opens (same ▸ opens')
  simp only [CreateKnowledgeCommand.mk.injEq] at create
  exact ⟨create.1, create.2.2.2.2.2.2⟩

theorem create {context : Context} {command : CreateKnowledgeCommand}
    (opens : Opens commands context.id command) :
    ItemSigned commands (KnowledgeItem.create context.id now command.orgId command.spaceId
      command.type command.title command.body command.parentId command.createdByUserId) where
  opened := ⟨command.title, command.body, opens⟩
  text := .inl opens
  published draft := absurd rfl draft
  verified verified := by cases verified
  accepted answerId accepted := by cases accepted
  updated editor updated := by cases updated
  deleted deleted := absurd rfl deleted

theorem applyEdit {title body editor : String} {version : ℕ} (signed : ItemSigned commands item)
    (edits : Edits commands item.orgId (.update ⟨item.id, version, title, body, editor⟩)) :
    ItemSigned commands (item.applyEdit now title body editor) :=
  { signed with
    opened := signed.opened
    text := .inr ⟨version, editor, edits⟩
    updated := by
      rintro _ ⟨⟩
      exact .inl ⟨version, title, body, edits⟩ }

theorem publish (signed : ItemSigned commands item)
    (edits : Edits commands item.orgId (.publish ⟨item.id⟩)) :
    ItemSigned commands item.publish :=
  { signed with published := fun _ => ⟨rfl, edits⟩ }

theorem verify {verifier : String} (signed : ItemSigned commands item)
    (edits : Edits commands item.orgId (.verify ⟨item.id, verifier⟩)) :
    ItemSigned commands (item.verify now verifier).2 := by
  unfold KnowledgeItem.verify
  split
  · exact signed
  · exact
      { signed with
        verified := fun _ => ⟨verifier, edits⟩
        updated := by
          rintro _ ⟨⟩
          exact .inr edits }

theorem softDelete (signed : ItemSigned commands item)
    (edits : Edits commands item.orgId (.delete ⟨item.id⟩)) :
    ItemSigned commands (item.softDelete now) :=
  { signed with deleted := fun _ => edits }

theorem acceptAnswer {answerId : String} (signed : ItemSigned commands item)
    (edits : Edits commands item.orgId
      (.acceptAnswer ⟨item.id, answerId, item.createdByUserId⟩)) :
    ItemSigned commands (item.acceptAnswer now answerId) :=
  { signed with
    accepted := by
      rintro _ ⟨⟩
      exact edits }

theorem clearAcceptedAnswer (signed : ItemSigned commands item) :
    ItemSigned commands (item.clearAcceptedAnswer now) :=
  { signed with accepted := by rintro _ ⟨⟩ }

end ItemSigned

namespace Knowledge

open PrismaKnowledgeItemRepository WriteSet

section WrittenBack

variable {context : Context} {row : KnowledgeItemRow}

/-- The columns of an edit. -/
theorem occData_signed (once : OpenedOnce commands) (signed : ItemSigned commands item)
    (signed' : ItemSigned commands row.toKnowledgeItem) (same : item.id = row.id) :
    ItemSigned commands (occData context item row).toKnowledgeItem := by
  have fixed := signed.fixed once signed' same
  exact
    { opened := signed'.opened
      text := by
        rcases signed'.opened with ⟨title, body, opens⟩
        rcases signed.text with created | ⟨version, editor, edits⟩
        · have create := Opens.unique once created (same ▸ opens)
          simp only [CreateKnowledgeCommand.mk.injEq] at create
          left
          simpa only [occData, create, same] using created
        · exact .inr ⟨version, editor, by simpa only [occData, fixed.1, same] using edits⟩
      published := fun status => by
        simpa only [occData, fixed.1, same] using signed.published status
      verified := fun verified => by
        simpa only [occData, fixed.1, same] using signed.verified verified
      accepted := signed'.accepted
      updated := fun editor updated => by
        simpa only [occData, fixed.1, same] using signed.updated editor updated
      deleted := fun deleted => by
        simpa only [occData, fixed.1, same] using signed.deleted deleted }

/-- The columns of the other commands. -/
theorem data_signed (once : OpenedOnce commands) (signed : ItemSigned commands item)
    (signed' : ItemSigned commands row.toKnowledgeItem) (same : item.id = row.id) :
    ItemSigned commands (data context item row).toKnowledgeItem := by
  have fixed := signed.fixed once signed' same
  exact
    { opened := signed'.opened
      text := signed'.text
      published := fun status => by simpa only [data, fixed.1, same] using signed.published status
      verified := fun verified => by
        simpa only [data, fixed.1, same] using signed.verified verified
      accepted := fun answerId accepted => by
        simpa only [data, fixed.1, fixed.2, same] using signed.accepted answerId accepted
      updated := fun editor updated => by
        simpa only [data, fixed.1, same] using signed.updated editor updated
      deleted := fun deleted => by simpa only [data, fixed.1, same] using signed.deleted deleted }

end WrittenBack

section Bodies

variable {context : Context}

/-- A body of the knowledge module that writes signed rows. -/
abbrev Signs {Value : Type} (commands : Client → Option CoreCommand) (body : KnowledgeTx Value)
    (answers : Value → Prop) : Prop :=
  (signatures commands).Adds (knowledgeComponent.lift CoreError.knowledge body) answers

theorem requireTenantId_signs :
    Signs commands (requireTenantId context) fun orgId => context.tenantId = some orgId := by
  simp only [requireTenantId]
  split
  · next orgId tenant =>
      split
      · exact Adds.fail _
      · exact Adds.pure tenant
  · exact Adds.fail _

theorem findById_signs (id : String) :
    Signs commands (findById context id) fun found => ∀ item, found = some item →
      item.id = id ∧ ItemSigned commands item ∧ context.tenantId = some item.orgId := by
  refine Adds.lift_bind _ requireTenantId_signs fun orgId tenant => ?_
  refine Adds.lift_read fun db signed item found => ?_
  simp only [findFirst, Option.map_eq_some_iff, Option.filter_eq_some_iff,
    decide_eq_true_eq] at found
  rcases found with ⟨row, ⟨stored, org, -⟩, rfl⟩
  have own := signed.items id row stored
  exact ⟨own.1, own.2, org ▸ tenant⟩

/-- The rule for loading an item. -/
theorem load_signs {Value : Type} {id : String} {next : KnowledgeItem → KnowledgeTx Value}
    {answers : Value → Prop}
    (rest : ∀ item, item.id = id → ItemSigned commands item →
      context.tenantId = some item.orgId → Signs commands (next item) answers) :
    Signs commands (findById context id >>= fun found => orNotFound found >>= next) answers := by
  refine Adds.lift_bind _ (findById_signs id) fun found loaded => ?_
  cases found with
  | none => exact Adds.fail _
  | some item =>
      rcases loaded item rfl with ⟨same, signed, tenant⟩
      exact rest item same signed tenant

theorem throwUnless_signs {Value : Type} {condition : Bool} {error : ApplicationError}
    {next : Unit → KnowledgeTx Value} {answers : Value → Prop}
    (rest : condition = true → Signs commands (next ()) answers) :
    Signs commands (throwUnless condition error >>= next) answers := by
  cases condition with
  | false => exact Adds.fail _
  | true => exact rest rfl

theorem updateMany_signed {db : CoreDb} (signed : RowsSigned commands db) {id : String}
    {condition : KnowledgeItemRow → Bool} {change : KnowledgeItemRow → KnowledgeItemRow}
    (changes : ∀ row : KnowledgeItemRow, row.id = id → ItemSigned commands row.toKnowledgeItem →
      ItemSigned commands (change row).toKnowledgeItem) :
    ∀ write ∈ (updateMany db.knowledge id condition change).1,
      (signatures commands).Allowed (knowledgeComponent.wrap write) := by
  intro write member
  simp only [updateMany] at member
  split at member
  · next row matched =>
      have stored := (Option.filter_eq_some_iff.mp matched).1
      rw [List.mem_singleton.mp member]
      exact changes row (signed.items id row stored).1 (signed.items id row stored).2
  · cases member

theorem update_signs (once : OpenedOnce commands) (signed : ItemSigned commands item) :
    Signs commands (update context item) fun _ => True := by
  refine Adds.lift_bind _ requireTenantId_signs fun orgId _ => ?_
  refine Adds.lift_execute ?_
  rintro db signed' writes value ⟨⟩
  exact ⟨updateMany_signed signed' fun row same own => data_signed once signed own same.symm,
    trivial⟩

theorem updateWithOcc_signs (once : OpenedOnce commands) {expectedVersion : ℕ}
    (signed : ItemSigned commands item) :
    Signs commands (updateWithOcc context item expectedVersion) fun _ => True := by
  refine Adds.lift_bind _ requireTenantId_signs fun orgId _ => ?_
  refine Adds.lift_execute ?_
  intro db signed' writes value ran
  obtain rfl := congrArg Prod.fst (Except.ok.inj ran)
  exact ⟨updateMany_signed signed' fun row same own => occData_signed once signed own same.symm,
    trivial⟩

end Bodies

section Commands

variable {client : Client} {context : Context} (once : OpenedOnce commands)

include once

theorem edit_signs {command : UpdateKnowledgeCommand}
    (mine : commands client = some (.knowledge context (.update command))) :
    Signs commands (UpdateKnowledgeHandler.execute context command) fun _ => True := by
  refine load_signs fun item same signed tenant => ?_
  have edits : Edits commands item.orgId (.update ⟨item.id, command.expectedVersion,
      command.title, command.body, command.editedByUserId⟩) :=
    ⟨client, context, same ▸ mine, tenant⟩
  refine Adds.lift_bind _ (updateWithOcc_signs once (signed.applyEdit edits)) fun ok _ => ?_
  refine throwUnless_signs fun _ => Adds.lift_execute ?_
  intro db _ writes value ran
  split at ran
  · cases ran
  · cases ran
    refine ⟨List.forall_mem_singleton.mpr ?_, trivial⟩
    exact ⟨item.orgId, command.expectedVersion, command.title, signed.openedIn, edits⟩

theorem publish_signs {command : PublishKnowledgeCommand}
    (mine : commands client = some (.knowledge context (.publish command))) :
    Signs commands (PublishKnowledgeHandler.execute context command) fun _ => True := by
  refine load_signs fun item same signed tenant => throwUnless_signs fun _ => ?_
  have edits : Edits commands item.orgId (.publish ⟨item.id⟩) :=
    ⟨client, context, same ▸ mine, tenant⟩
  refine Adds.lift_bind _ (update_signs once (signed.publish edits)) fun _ _ => ?_
  refine Adds.lift_execute ?_
  rintro db _ writes value ⟨⟩
  exact ⟨List.forall_mem_singleton.mpr trivial, trivial⟩

theorem verify_signs {command : VerifyKnowledgeCommand}
    (mine : commands client = some (.knowledge context (.verify command))) :
    Signs commands (VerifyKnowledgeHandler.execute context command) fun _ => True := by
  refine load_signs fun item same signed tenant => ?_
  have edits : Edits commands item.orgId (.verify ⟨item.id, command.verifierUserId⟩) :=
    ⟨client, context, same ▸ mine, tenant⟩
  dsimp only
  split
  · exact Adds.pure trivial
  · exact update_signs once (signed.verify edits)

theorem delete_signs {command : DeleteKnowledgeCommand}
    (mine : commands client = some (.knowledge context (.delete command))) :
    Signs commands (DeleteKnowledgeHandler.execute context command) fun _ => True := by
  refine load_signs fun item same signed tenant => update_signs once (signed.softDelete ?_)
  exact ⟨client, context, same ▸ mine, tenant⟩

/-- The question is its author's, who is the one to accept. -/
theorem acceptAnswer_signs {command : AcceptAnswerCommand}
    (mine : commands client = some (.knowledge context (.acceptAnswer command))) :
    Signs commands (AcceptAnswerHandler.execute context command) fun _ => True := by
  refine load_signs fun question same signed tenant => ?_
  refine throwUnless_signs fun _ => throwUnless_signs fun author => ?_
  have author : question.createdByUserId = command.actorUserId := of_decide_eq_true author
  refine load_signs fun answer same' _ _ => throwUnless_signs fun _ => throwUnless_signs fun _ => ?_
  refine update_signs once (signed.acceptAnswer ⟨client, context, ?_, tenant⟩)
  rw [same, same', author]
  exact mine

theorem unacceptAnswer_signs (command : UnacceptAnswerCommand) :
    Signs commands (UnacceptAnswerHandler.execute context command) fun _ => True := by
  refine load_signs fun question same signed tenant => ?_
  refine throwUnless_signs fun _ => throwUnless_signs fun _ => ?_
  exact update_signs once signed.clearAcceptedAnswer

omit once in
theorem create_signs {command : CreateKnowledgeCommand}
    (mine : commands client = some (.knowledge context (.create command))) :
    Signs commands (CreateKnowledgeHandler.execute context command) fun _ => True := by
  refine Adds.lift_bind (fun _ => True) (Adds.lift_execute ?_) fun _ _ => Adds.pure trivial
  intro db _ writes value ran
  split at ran
  · cases ran
  · cases ran
    have signed := @ItemSigned.create _ _ context.now _ _ ⟨client, context, mine, rfl⟩
    exact ⟨List.forall_mem_singleton.mpr { signed with }, trivial⟩

/-- Every command of the knowledge module writes signed rows. -/
theorem execute_signs {command : KnowledgeCommand}
    (mine : commands client = some (.knowledge context command)) :
    Signs commands (command.execute context) fun _ => True := by
  cases command with
  | create command => exact Adds.lift_map _ (create_signs mine)
  | update command => exact Adds.lift_map _ (edit_signs once mine)
  | publish command => exact Adds.lift_map _ (publish_signs once mine)
  | verify command => exact Adds.lift_map _ (verify_signs once mine)
  | delete command => exact Adds.lift_map _ (delete_signs once mine)
  | acceptAnswer command => exact Adds.lift_map _ (acceptAnswer_signs once mine)
  | unacceptAnswer command => exact Adds.lift_map _ (unacceptAnswer_signs once command)

end Commands

end Knowledge

end CoreApi
