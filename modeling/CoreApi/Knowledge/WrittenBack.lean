import CoreApi.Knowledge.Effects

/-!
# What a command writes back

On any schedule and from any tables: a command that commits has found nothing to
do, or has created a draft, or stores its columns of the item that its first
statement loaded over the row that is there when it writes.
-/

namespace CoreApi.Knowledge

open PrismaKnowledgeItemRepository

/-- Items stay, each with its organization, and nobody touches an item that is held. -/
structure Persists (held : List KnowledgeWrite) (db now : KnowledgeDb) : Prop where
  stays : ∀ id row, db.items.get? id = some row →
    ∃ row', now.items.get? id = some row' ∧ row'.orgId = row.orgId
  kept : ∀ row, .putItem row ∈ held → now.items.get? row.id = db.items.get? row.id

namespace Persists

theorem refl (held : List KnowledgeWrite) (db : KnowledgeDb) : Persists held db db :=
  ⟨fun _ row found => ⟨row, found, rfl⟩, fun _ _ => rfl⟩

theorem trans {held : List KnowledgeWrite} {db now later : KnowledgeDb}
    (first : Persists held db now) (second : Persists held now later) :
    Persists held db later where
  stays id row found := by
    rcases first.stays id row found with ⟨row', found', org⟩
    rcases second.stays id row' found' with ⟨row'', found'', org'⟩
    exact ⟨row'', found'', org'.trans org⟩
  kept row member := (second.kept row member).trans (first.kept row member)

end Persists

/-- Other transactions neither delete items nor move them to another organization, and leave the
locked rows alone. -/
def itemAssumptions : Assumptions KnowledgeDb KnowledgeWrite where
  Inv := ItemsKeyed
  Rely := Persists
  refl := Persists.refl
  trans := Persists.trans

/-- What is pending when a body has ended, given what its statements have seen. -/
inductive WroteBack (context : Context) (command : KnowledgeCommand) (seen : List KnowledgeDb) :
    List KnowledgeWrite → KnowledgeDb → Prop where
  | nothing {db : KnowledgeDb} {verify : VerifyKnowledgeCommand}
      (idle : command = .verify verify) : WroteBack context command seen [] db
  | created {db : KnowledgeDb} {create : CreateKnowledgeCommand}
      (creates : command = .create create) (fresh : db.items.get? context.id = none) :
      WroteBack context command seen (rowWrites (createdRow context create) [] []) db
  | stored {db first : KnowledgeDb} {orgId : String} {loaded : KnowledgeItem}
      {current : KnowledgeItemRow} (head : seen.head? = some first)
      (found : findFirst first command.target orgId = some loaded)
      (id : loaded.id = command.target)
      (draft : ∀ publish, command = .publish publish → loaded.status = .draft)
      (written : ∀ create, command ≠ .create create)
      (held : db.items.get? command.target = some current) (org : current.orgId = orgId)
      (id' : current.id = command.target) :
      WroteBack context command seen (rowWrites (command.stored context loaded current)
        (command.revisions context loaded) (command.events loaded)) db

namespace WroteBack

variable {context : Context} {command : KnowledgeCommand} {seen : List KnowledgeDb}
  {pending held : List KnowledgeWrite} {db now : KnowledgeDb}

theorem stable (wrote : WroteBack context command seen pending db)
    (rely : Persists pending db now) : WroteBack context command seen pending now := by
  cases wrote with
  | nothing idle => exact .nothing idle
  | created creates fresh =>
      exact .created creates ((rely.kept _ List.mem_cons_self).trans fresh)
  | stored head found id draft written held org id' =>
      have kept := rely.kept _ List.mem_cons_self
      rw [KnowledgeCommand.stored_id, id'] at kept
      exact .stored head found id draft written (kept.trans held) org id'

theorem itemsKeyed (wrote : WroteBack context command seen pending db) (keyed : ItemsKeyed db) :
    ItemsKeyed (knowledgeEngine.view db pending) := by
  have all : db.items.All fun id row => row.id = id := keyed
  cases wrote with
  | nothing idle => exact keyed
  | created creates fresh =>
      rw [view_rowWrites]
      exact all.set rfl
  | stored head found id draft written held org id' =>
      rw [view_rowWrites]
      exact all.set rfl

/-- A commit is no interference for whoever holds none of its locks. -/
theorem persists (wrote : WroteBack context command seen pending db)
    (apart : knowledgeEngine.Apart held pending) :
    Persists held db (knowledgeEngine.view db pending) := by
  have spared : ∀ row revisions events, pending = rowWrites row revisions events →
      ∀ other, .putItem other ∈ held → other.id ≠ row.id := by
    rintro row revisions events rfl other member same
    rcases locked_rowWrites row revisions events with ⟨write, member', lock⟩
    exact apart _ member _ rfl write member' (same ▸ lock)
  cases wrote with
  | nothing idle => exact .refl _ _
  | @created _ create creates fresh =>
      rw [view_rowWrites]
      refine ⟨?_, ?_⟩
      · intro id row found
        have distinct : id ≠ (createdRow context create).id := by
          rintro rfl
          cases fresh.symm.trans found
        exact ⟨row, by simpa [OrderedMap.get?_set, distinct] using found, rfl⟩
      · intro row member
        simp [OrderedMap.get?_set, spared _ _ _ rfl row member]
  | @stored _ first orgId loaded current head found id draft written held' org id' =>
      rw [view_rowWrites]
      refine ⟨?_, ?_⟩
      · intro other row found'
        by_cases same : other = command.target
        · subst same
          obtain rfl : current = row := Option.some.inj (held'.symm.trans found')
          refine ⟨command.stored context loaded current, ?_,
            (command.stored_kept context loaded current).2.1⟩
          simp [OrderedMap.get?_set, KnowledgeCommand.stored_id, id']
        · refine ⟨row, ?_, rfl⟩
          simpa [OrderedMap.get?_set, KnowledgeCommand.stored_id, id', same] using found'
      · intro row member
        simp [OrderedMap.get?_set, spared _ _ _ rfl row member]

end WroteBack

/-- Only a publication announces anything. -/
theorem KnowledgeCommand.events_unpublished {command : KnowledgeCommand}
    (unpublished : ∀ publish, command ≠ .publish publish) (loaded : KnowledgeItem) :
    command.events loaded = [] := by
  cases command with
  | publish publish => exact absurd rfl (unpublished publish)
  | _ => rfl

section Bodies

variable {permits : List KnowledgeDb → KnowledgeDb → Prop} {context : Context}
  {command : KnowledgeCommand} {seen : List KnowledgeDb} {db first : KnowledgeDb}
  {orgId : String} {loaded item : KnowledgeItem}

/-- The rule for writing an item back without a version check: the row is still there. -/
theorem update_persists {post : Unit → List KnowledgeDb → List KnowledgeWrite → KnowledgeDb → Prop}
    {row : KnowledgeItemRow} (tenant : context.tenantId = some orgId)
    (stored : db.items.get? item.id = some row) (org : row.orgId = orgId)
    (ends : ∀ now current, now.items.get? item.id = some current → current.orgId = orgId →
      current.id = item.id → post () (seen ++ [now]) [.putItem (data context item current)] now) :
    itemAssumptions.Ends knowledgeEngine permits post (update context item) seen [] db := by
  apply requireTenantId_ends
  intro orgId' tenant'
  obtain rfl : orgId = orgId' := Option.some.inj (tenant.symm.trans tenant')
  apply Assumptions.Ends.execute
  intro now rely keyed permitted writes value ran
  rcases rely.stays _ _ stored with ⟨current, found, org'⟩
  simp only [Engine.view_nil, updateMany, found, Option.filter_some, org'.trans org, decide_true,
    if_true, Except.ok.injEq, Prod.mk.injEq] at ran
  rcases ran with ⟨rfl, -⟩
  exact ends now current found (org'.trans org) (keyed _ _ found)

/-- A command that writes the item it has loaded back. -/
theorem stores_ends (tenant : context.tenantId = some orgId) (keyed : ItemsKeyed first)
    (head : seen.head? = some first) (found : findFirst first command.target orgId = some loaded)
    (since : Persists [] first db) (id : item.id = command.target)
    (stored : ∀ current, data context item current = command.stored context loaded current)
    (unpublished : ∀ publish, command ≠ .publish publish)
    (unedited : ∀ edit, command ≠ .update edit)
    (written : ∀ create, command ≠ .create create) :
    itemAssumptions.Ends knowledgeEngine permits
      (fun _ seen pending db => WroteBack context command seen pending db) (update context item)
      seen [] db := by
  rcases findFirst_iff.mp found with ⟨before, found', org, -, rfl⟩
  rcases since.stays _ _ found' with ⟨row, present, org'⟩
  refine update_persists tenant (id.symm ▸ present) (org'.trans org) ?_
  intro now current held org'' id'
  have wrote : WroteBack context command (seen ++ [now]) (rowWrites
      (command.stored context before.toKnowledgeItem current)
      (command.revisions context before.toKnowledgeItem)
      (command.events before.toKnowledgeItem)) now := by
    refine .stored (by simp [head]) found (keyed _ _ found') ?_ written (id ▸ held) org''
      (id'.trans id)
    exact fun publish same => absurd same (unpublished publish)
  rw [KnowledgeCommand.events_unpublished unpublished,
    (KnowledgeCommand.stored_unedited unedited context _ current).2.2, ← stored] at wrote
  exact wrote

theorem create_writesBack (create : CreateKnowledgeCommand) :
    itemAssumptions.Ends knowledgeEngine permits
      (fun _ seen pending db => WroteBack context (.create create) seen pending db)
      (CreateKnowledgeHandler.execute context create) seen [] db := by
  refine Assumptions.Ends.bind ?_
  apply Assumptions.Ends.execute
  intro now rely keyed permitted writes value ran
  split at ran
  · cases ran
  · next fresh =>
      cases ran
      exact Assumptions.Ends.pure (.created rfl fresh)

theorem publish_writesBack (publish : PublishKnowledgeCommand) :
    itemAssumptions.Ends knowledgeEngine permits
      (fun _ seen pending db => WroteBack context (.publish publish) seen pending db)
      (PublishKnowledgeHandler.execute context publish) [] [] db := by
  apply load_ends
  intro first orgId loaded tenant keyed _ found
  refine throwUnless_ends fun draft => Assumptions.Ends.bind ?_
  rcases findFirst_iff.mp found with ⟨before, found', org, -, rfl⟩
  have id := keyed _ _ found'
  refine update_persists tenant (id.symm ▸ found') org ?_
  intro now current held org' id'
  refine Assumptions.Ends.write fun later rely _ => ?_
  have held' : later.items.get? publish.id = some current := by
    have kept := rely.kept _ (List.mem_singleton_self _)
    change later.items.get? current.id = now.items.get? current.id at kept
    rw [id'] at kept
    exact (id ▸ kept).trans (id ▸ held)
  exact .stored rfl found id (fun _ _ => of_decide_eq_true draft) (by rintro create ⟨⟩) held' org'
    (id'.trans id)

theorem verify_writesBack (verify : VerifyKnowledgeCommand) :
    itemAssumptions.Ends knowledgeEngine permits
      (fun _ seen pending db => WroteBack context (.verify verify) seen pending db)
      (VerifyKnowledgeHandler.execute context verify) [] [] db := by
  apply load_ends
  intro first orgId loaded tenant keyed _ found
  rcases findFirst_iff.mp found with ⟨before, found', -, -, rfl⟩
  have same : (before.verify context.now verify.verifierUserId).2.id = verify.id := by
    rw [KnowledgeItem.verify]
    split <;> exact keyed _ _ found'
  dsimp only
  split
  · exact Assumptions.Ends.pure (.nothing rfl)
  · exact stores_ends tenant keyed rfl found (.refl _ _) same (fun _ => rfl)
      (by rintro publish ⟨⟩) (by rintro edit ⟨⟩) (by rintro create ⟨⟩)

theorem delete_writesBack (delete : DeleteKnowledgeCommand) :
    itemAssumptions.Ends knowledgeEngine permits
      (fun _ seen pending db => WroteBack context (.delete delete) seen pending db)
      (DeleteKnowledgeHandler.execute context delete) [] [] db := by
  apply load_ends
  intro first orgId loaded tenant keyed _ found
  rcases findFirst_iff.mp found with ⟨before, found', -, -, rfl⟩
  exact stores_ends tenant keyed rfl found (.refl _ _) (keyed _ _ found') (fun _ => rfl)
    (by rintro publish ⟨⟩) (by rintro edit ⟨⟩) (by rintro create ⟨⟩)

theorem acceptAnswer_writesBack (accept : AcceptAnswerCommand) :
    itemAssumptions.Ends knowledgeEngine permits
      (fun _ seen pending db => WroteBack context (.acceptAnswer accept) seen pending db)
      (AcceptAnswerHandler.execute context accept) [] [] db := by
  apply load_ends
  intro first orgId question tenant keyed _ found
  rcases findFirst_iff.mp found with ⟨before, found', -, -, rfl⟩
  refine throwUnless_ends fun type => throwUnless_ends fun author => ?_
  apply load_ends
  intro later orgId' answer _ keyed' since answered
  rcases findFirst_iff.mp answered with ⟨answerRow, stored, -, -, rfl⟩
  refine throwUnless_ends fun type' => throwUnless_ends fun parent => ?_
  refine stores_ends tenant keyed rfl found since (keyed _ _ found') ?_ (by rintro publish ⟨⟩)
    (by rintro edit ⟨⟩) (by rintro create ⟨⟩)
  intro current
  rw [keyed' _ _ stored]
  rfl

theorem unacceptAnswer_writesBack (unaccept : UnacceptAnswerCommand) :
    itemAssumptions.Ends knowledgeEngine permits
      (fun _ seen pending db => WroteBack context (.unacceptAnswer unaccept) seen pending db)
      (UnacceptAnswerHandler.execute context unaccept) [] [] db := by
  apply load_ends
  intro first orgId question tenant keyed _ found
  rcases findFirst_iff.mp found with ⟨before, found', -, -, rfl⟩
  refine throwUnless_ends fun type => throwUnless_ends fun author => ?_
  exact stores_ends tenant keyed rfl found (.refl _ _) (keyed _ _ found') (fun _ => rfl)
    (by rintro publish ⟨⟩) (by rintro edit ⟨⟩) (by rintro create ⟨⟩)

theorem edit_writesBack (edit : UpdateKnowledgeCommand) :
    itemAssumptions.Ends knowledgeEngine permits
      (fun _ seen pending db => WroteBack context (.update edit) seen pending db)
      (UpdateKnowledgeHandler.execute context edit) [] [] db := by
  apply load_ends
  intro first orgId loaded tenant keyed _ found
  rcases findFirst_iff.mp found with ⟨before, found', -, -, rfl⟩
  have id := keyed _ _ found'
  have target : (before.applyEdit context.now edit.title edit.body edit.editedByUserId).id =
      edit.id := id
  refine Assumptions.Ends.bind (requireTenantId_ends ?_)
  intro orgId' tenant'
  obtain rfl : orgId = orgId' := Option.some.inj (tenant.symm.trans tenant')
  apply Assumptions.Ends.execute
  intro now rely keyed' permitted writes ok ran
  simp only [Except.ok.injEq, updateMany, Engine.view_nil, target] at ran
  split at ran
  · next current matched =>
      cases ran
      rcases Option.filter_eq_some_iff.mp matched with ⟨held, condition⟩
      have id' := keyed' _ _ held
      apply throwUnless_ends
      intro _
      apply Assumptions.Ends.execute
      intro later rely' _ _ writes _ ran
      split at ran
      · cases ran
      · cases ran
        have held' : later.items.get? edit.id = some current := by
          have kept := rely'.kept _ (List.mem_singleton_self _)
          change later.items.get? current.id = now.items.get? current.id at kept
          rw [id'] at kept
          exact kept.trans held
        have wrote : ∀ rest, WroteBack context (.update edit) (first :: rest) (rowWrites _ _ [])
            later := fun rest => .stored rfl found id (by rintro publish ⟨⟩)
              (by rintro create ⟨⟩) held' (of_decide_eq_true condition).1 id'
        simpa [rowWrites, KnowledgeCommand.stored, KnowledgeCommand.revisions, id,
          KnowledgeItem.applyEdit] using wrote _
  · cases ran
    exact Assumptions.Ends.fail _

theorem execute_writesBack (permits : List KnowledgeDb → KnowledgeDb → Prop) (context : Context)
    (command : KnowledgeCommand) (db : KnowledgeDb) :
    itemAssumptions.Ends knowledgeEngine permits
      (fun _ seen pending db => WroteBack context command seen pending db)
      (command.execute context) [] [] db := by
  cases command with
  | create command => exact Assumptions.Ends.map _ (create_writesBack command)
  | update command => exact Assumptions.Ends.map _ (edit_writesBack command)
  | publish command => exact Assumptions.Ends.map _ (publish_writesBack command)
  | verify command => exact Assumptions.Ends.map _ (verify_writesBack command)
  | delete command => exact Assumptions.Ends.map _ (delete_writesBack command)
  | acceptAnswer command => exact Assumptions.Ends.map _ (acceptAnswer_writesBack command)
  | unacceptAnswer command => exact Assumptions.Ends.map _ (unacceptAnswer_writesBack command)

end Bodies

section Runs

/-- Any number of commands on items, whatever their history. -/
def itemWorkload (initial : KnowledgeDb → Prop) (contexts : ℕ → Context)
    (commands : ℕ → KnowledgeCommand) :
    Workload ℕ KnowledgeDb KnowledgeWrite KnowledgeLock KnowledgeError (Option String) where
  toEngine := knowledgeEngine
  program client := (commands client).execute (contexts client)
  initial db := ItemsKeyed db ∧ initial db
  external _ _ := False

variable {initial : KnowledgeDb → Prop} {contexts : ℕ → Context}
  {commands : ℕ → KnowledgeCommand}
  {state : Workload.State ℕ KnowledgeDb KnowledgeWrite KnowledgeError (Option String)}

/-- On every schedule items stay, and nobody disturbs a held one. -/
def itemOutline (initial : KnowledgeDb → Prop) (contexts : ℕ → Context)
    (commands : ℕ → KnowledgeCommand) : Outline (itemWorkload initial contexts commands) where
  toAssumptions := itemAssumptions
  Effect _ _ _ _ _ := True
  initial _ start := start.1
  external _ _ _ change := change.elim
  safe client begun keyed := by
    refine (execute_writesBack _ (contexts client) (commands client) begun).mono ?_
    intro reply seen pending db wrote now rely keyed'
    have wrote := wrote.stable rely
    exact ⟨wrote.itemsKeyed keyed', trivial, fun held apart => wrote.persists apart⟩

/-- A command about to commit has written back the item that its first statement loaded. -/
theorem writtenBack_of_finished {client : ℕ} {begun : KnowledgeDb} {seen : List KnowledgeDb}
    {pending : List KnowledgeWrite} {reply : Option String}
    (reached : (itemWorkload initial contexts commands).system.Reachable state)
    (finished : state.session client = .active begun seen pending (.done (.ok reply))) :
    WroteBack (contexts client) (commands client) seen pending state.db := by
  refine @Outline.post_of_finished _ _ _ _ _ _ _ (itemOutline initial contexts commands) _ _
    (fun client _ seen pending db => WroteBack (contexts client) (commands client) seen pending db)
    _ ?_ ?_ reached _ _ _ _ finished
  · intro client _ seen pending db now rely wrote
    exact wrote.stable rely
  · intro client begun _
    exact execute_writesBack _ _ _ _

end Runs

end CoreApi.Knowledge
