import CoreApi.Foundation.Confinement
import CoreApi.Knowledge.Effects
import CoreApi.Tenancy.Twins

/-!
# The knowledge module sees its tenant only

From two databases on which the tenant has the same rows, a command of the
knowledge module does the same, and all it writes are rows of the tenant.
-/

namespace CoreApi.Knowledge

open Engine PrismaKnowledgeItemRepository

variable {drawn drawn' : String → String → Prop} {orgId : String} {db db' : CoreDb}
  {context : Context}

/-- A body that does the same for the tenant in both databases, after what it has written. -/
abbrev Confined {Value : Type} (orgId : String) (db db' : CoreDb) (pending : List KnowledgeWrite)
    (body : KnowledgeTx Value) : Prop :=
  knowledgeEngine.Confined (fun write => WithinBoth orgId db db' (.knowledge write)) db.knowledge
    db'.knowledge pending body

variable {Value : Type} {pending : List KnowledgeWrite}

theorem requireTenantId_eq (tenant : context.tenantId = some orgId) :
    requireTenantId context = if orgId = "" then .fail (.tenantContextNotSet
      "Tenant context is not set (missing OrgGuard / X-Org-Id?)") else pure orgId := by
  simp only [requireTenantId, tenant]

theorem tenant_confined {next : String → KnowledgeTx Value} (tenant : context.tenantId = some orgId)
    (rest : Confined orgId db db' pending (next orgId)) :
    Confined orgId db db' pending (requireTenantId context >>= next) := by
  rw [requireTenantId_eq tenant]
  split
  · exact Confined.fail _
  · exact rest

variable (twins : Twins drawn drawn' orgId db db') (tenant : context.tenantId = some orgId)

include twins tenant

theorem findById_confined {id : String} :
    Confined orgId db db' [] (findById context id) :=
  tenant_confined tenant (Confined.read (findFirst_congr twins.same id))

/-- The rule for loading an item of the tenant. -/
theorem load_confined {id : String} {next : KnowledgeItem → KnowledgeTx Value}
    (rest : ∀ row, db.knowledge.items.get? id = some row → row.orgId = orgId →
      Confined orgId db db' [] (next row.toKnowledgeItem)) :
    Confined orgId db db' [] (findById context id >>= fun found => orNotFound found >>= next) := by
  refine Confined.bind (findById_confined twins tenant) ?_
  intro found more ran
  rcases findById_ok ran with ⟨rfl, org, tenant', rfl⟩
  obtain rfl : org = orgId := Option.some.inj (tenant'.symm.trans tenant)
  cases loaded : findFirst (knowledgeEngine.view db.knowledge []) id org with
  | none => exact Confined.fail _
  | some item =>
      rcases findFirst_iff.mp loaded with ⟨row, stored, own, -, rfl⟩
      exact rest row stored own

omit tenant in
/-- An update of an item of the tenant does the same in both. -/
theorem updateMany_same (id : String) (condition : KnowledgeItemRow → Prop)
    [DecidablePred condition] (change : KnowledgeItemRow → KnowledgeItemRow) :
    updateMany db.knowledge id (fun row => row.orgId = orgId ∧ condition row) change =
      updateMany db'.knowledge id (fun row => row.orgId = orgId ∧ condition row) change := by
  simp only [updateMany]
  rw [OrderedMap.lookup_filter_congr twins.items id condition]

omit tenant in
/-- It writes a row of the tenant. -/
theorem updateMany_within (id : String) (condition : KnowledgeItemRow → Prop)
    [DecidablePred condition] (change : KnowledgeItemRow → KnowledgeItemRow)
    (kept : ∀ row, (change row).id = row.id ∧ (change row).orgId = row.orgId) :
    ∀ write ∈ (updateMany db.knowledge id (fun row => row.orgId = orgId ∧ condition row) change).1,
      WithinBoth orgId db db' (.knowledge write) := by
  simp only [updateMany]
  split
  · next row matched =>
      rcases Option.filter_eq_some_iff.mp matched with ⟨stored, condition⟩
      have own := (of_decide_eq_true condition).1
      have stored' := twins.item stored own
      intro write member
      obtain rfl := List.mem_singleton.mp member
      have org := (kept row).2.trans own
      refine ⟨⟨org, ?_⟩, org, ?_⟩
      · rw [(kept row).1]
        exact twins.first.free_item stored own
      · rw [(kept row).1]
        exact twins.second.free_item stored' own
  · simp

theorem update_confined (item : KnowledgeItem) :
    Confined orgId db db' [] (update context item) := by
  have all : ∀ knowledge : KnowledgeDb, updateMany knowledge item.id
      (fun row => row.orgId = orgId) (data context item) = updateMany knowledge item.id
        (fun row => row.orgId = orgId ∧ True) (data context item) := by simp
  refine tenant_confined tenant (Confined.execute ?_ ?_)
  · simp only [Engine.view_nil, all, updateMany_same twins item.id fun _ => True]
  · intro more value ran write member
    simp only [Engine.view_nil, all] at ran
    cases ran
    exact updateMany_within twins item.id (fun _ => True) (data context item)
      (fun row => ⟨rfl, rfl⟩) write member

theorem updateWithOcc_confined (item : KnowledgeItem) (expectedVersion : ℕ) :
    Confined orgId db db' [] (updateWithOcc context item expectedVersion) := by
  refine tenant_confined tenant (Confined.execute ?_ ?_)
  · exact congrArg Except.ok
      (updateMany_same twins item.id (fun row => row.version = expectedVersion) _)
  · intro more value ran write member
    obtain rfl := congrArg Prod.fst (Except.ok.inj ran)
    exact updateMany_within twins item.id (fun row => row.version = expectedVersion)
      (occData context item) (fun row => ⟨rfl, rfl⟩) write member

omit twins tenant in
theorem throwUnless_confined {condition : Bool} {error : ApplicationError}
    {next : Unit → KnowledgeTx Value} (rest : Confined orgId db db' pending (next ())) :
    Confined orgId db db' pending (throwUnless condition error >>= next) := by
  cases condition with
  | false => exact Confined.fail _
  | true => exact rest

omit tenant in
/-- The revision of an item of the tenant that has just been written. -/
theorem saveRevision_confined {revision : Revision} {row row' : KnowledgeItemRow}
    (stored : db.knowledge.items.get? revision.itemId = some row) (own : row.orgId = orgId) :
    Confined orgId db db' [.putItem row'] (PrismaRevisionRepository.save context revision) := by
  have owner : ownerOf db (.item revision.itemId) = some orgId := own ▸ ownerOf_item stored
  have owner' : ownerOf db' (.item revision.itemId) = some orgId :=
    own ▸ ownerOf_item (twins.item stored own)
  have same := @Twins.revision_iff _ _ _ _ _ twins _ owner owner' revision.version
  refine Confined.execute ?_ ?_
  · exact if_congr same rfl rfl
  · intro more value ran write member
    split at ran
    · cases ran
    · cases ran
      obtain rfl := List.mem_singleton.mp member
      exact ⟨ownsItem_iff.mpr owner, ownsItem_iff.mpr owner'⟩

omit tenant in
/-- An item is created under an id that no other organization has. -/
theorem create_confined {command : CreateKnowledgeCommand} (own : command.orgId = orgId)
    (free : db.knowledge.items.Free (fun row => row.orgId) orgId context.id)
    (free' : db'.knowledge.items.Free (fun row => row.orgId) orgId context.id) :
    Confined orgId db db' [] (CreateKnowledgeHandler.execute context command) := by
  refine Confined.bind (Confined.execute ?_ ?_) fun _ _ _ => Confined.pure _
  · simp only [Engine.view_nil, KnowledgeItem.create, free.get?_congr free' twins.items]
  · intro more value ran write member
    split at ran
    · cases ran
    · cases ran
      obtain rfl := List.mem_singleton.mp member
      exact ⟨⟨own, free⟩, own, free'⟩

theorem edit_confined (command : UpdateKnowledgeCommand) :
    Confined orgId db db' [] (UpdateKnowledgeHandler.execute context command) := by
  refine load_confined twins tenant fun row stored own => ?_
  have id := twins.first.items _ row stored
  refine Confined.bind (updateWithOcc_confined twins tenant _ _) ?_
  intro ok more ran
  cases ok with
  | false => exact Confined.fail _
  | true =>
      have stored' : db.knowledge.items.get? row.id = some row := id ▸ stored
      rw [updateWithOcc_ok ran stored']
      exact saveRevision_confined twins stored' own

theorem publish_confined (command : PublishKnowledgeCommand) :
    Confined orgId db db' [] (PublishKnowledgeHandler.execute context command) := by
  refine load_confined twins tenant fun row stored own => throwUnless_confined ?_
  refine Confined.bind (update_confined twins tenant _) fun _ _ _ => Confined.write ?_
  intro write member
  obtain rfl := List.mem_singleton.mp member
  exact ⟨trivial, trivial⟩

theorem verify_confined (command : VerifyKnowledgeCommand) :
    Confined orgId db db' [] (VerifyKnowledgeHandler.execute context command) := by
  refine load_confined twins tenant fun row stored own => ?_
  dsimp only
  split
  · exact Confined.pure _
  · exact update_confined twins tenant _

theorem acceptAnswer_confined (command : AcceptAnswerCommand) :
    Confined orgId db db' [] (AcceptAnswerHandler.execute context command) := by
  refine load_confined twins tenant fun question _ _ => ?_
  refine throwUnless_confined (throwUnless_confined ?_)
  refine load_confined twins tenant fun answer _ _ => ?_
  exact throwUnless_confined (throwUnless_confined (update_confined twins tenant _))

theorem unacceptAnswer_confined (command : UnacceptAnswerCommand) :
    Confined orgId db db' [] (UnacceptAnswerHandler.execute context command) := by
  refine load_confined twins tenant fun question _ _ => ?_
  exact throwUnless_confined (throwUnless_confined (update_confined twins tenant _))

/-- A command of the tenant: what it creates belongs to the tenant, under an id of its own. -/
def KnowledgeCommand.Of (orgId : String) (db : CoreDb) (context : Context) :
    KnowledgeCommand → Prop
  | .create command => command.orgId = orgId ∧
      db.knowledge.items.Free (fun row => row.orgId) orgId context.id
  | _ => True

/-- Every command of the knowledge module. -/
theorem execute_confined (command : KnowledgeCommand) (own : command.Of orgId db context)
    (own' : command.Of orgId db' context) :
    Confined orgId db db' [] (command.execute context) := by
  cases command with
  | create command => exact Confined.map _ (create_confined twins own.1 own.2 own'.2)
  | update command => exact Confined.map _ (edit_confined twins tenant command)
  | publish command => exact Confined.map _ (publish_confined twins tenant command)
  | verify command => exact Confined.map _ (verify_confined twins tenant command)
  | delete command =>
      exact Confined.map _ (load_confined twins tenant fun row _ _ =>
        update_confined twins tenant _)
  | acceptAnswer command => exact Confined.map _ (acceptAnswer_confined twins tenant command)
  | unacceptAnswer command => exact Confined.map _ (unacceptAnswer_confined twins tenant command)

end CoreApi.Knowledge
