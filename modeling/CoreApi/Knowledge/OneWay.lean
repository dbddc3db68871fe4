import CoreApi.Knowledge.History

/-!
# The one-way transitions of an item

An item is published, verified and deleted once and for all, but a command
writes all three columns back from the item it has loaded. So a transition that
commits between another command's load and its write is undone by that write,
unless the command makes the same transition.
-/

namespace CoreApi.Knowledge

open PrismaKnowledgeItemRepository

/-- Published stays published, verified stays verified and deleted stays deleted. -/
structure Onward (before after : KnowledgeItemRow) : Prop where
  published : before.status = .published → after.status = .published
  verified : before.isVerified → after.isVerified
  deleted : before.deletedAt.isSome → after.deletedAt.isSome

theorem Onward.refl (row : KnowledgeItemRow) : Onward row row := ⟨id, id, id⟩

theorem Onward.trans {first second third : KnowledgeItemRow} (left : Onward first second)
    (right : Onward second third) : Onward first third :=
  ⟨right.published ∘ left.published, right.verified ∘ left.verified, right.deleted ∘ left.deleted⟩

/-- Every transition the current row has made is one the loaded item shows, or one the command
makes itself. A loaded item is never deleted. -/
structure NothingMissed (command : KnowledgeCommand) (loaded : KnowledgeItem)
    (current : KnowledgeItemRow) : Prop where
  published : current.status = .published →
    loaded.status = .published ∨ ∃ publish, command = .publish publish
  verified : current.isVerified → loaded.isVerified ∨ ∃ verify, command = .verify verify
  deleted : current.deletedAt.isSome → ∃ delete, command = .delete delete

/-- When a command writes the row, it has missed no transition since it loaded the item. -/
def UpToDate (command : KnowledgeCommand) (seen : List KnowledgeDb) (view : KnowledgeDb) : Prop :=
  seen.length = command.loads → ∀ first loaded orgId current, seen.head? = some first →
    findFirst first command.target orgId = some loaded →
    view.items.get? command.target = some current →
    (∀ edit, command = .update edit → current.version = edit.expectedVersion) →
    NothingMissed command loaded current

variable {contexts : ℕ → Context} {commands : ℕ → KnowledgeCommand} {context : Context}
  {command : KnowledgeCommand} {loaded : KnowledgeItem} {current : KnowledgeItemRow}
  {db : KnowledgeDb} {pending : List KnowledgeWrite}

section Stored

variable (context : Context) (loaded : KnowledgeItem) (current : KnowledgeItemRow)
  (written : ∀ create, command ≠ .create create)

include written

theorem stored_published : (command.stored context loaded current).status = .published ↔
    loaded.status = .published ∨ ∃ publish, command = .publish publish := by
  cases command with
  | create create => exact absurd rfl (written create)
  | verify verify =>
      cases verified : loaded.isVerified <;>
        simp [KnowledgeCommand.stored, data, KnowledgeItem.verify, verified]
  | _ => simp [KnowledgeCommand.stored, data, occData, KnowledgeItem.applyEdit,
      KnowledgeItem.publish, KnowledgeItem.softDelete, KnowledgeItem.acceptAnswer,
      KnowledgeItem.clearAcceptedAnswer]

theorem stored_verified : (command.stored context loaded current).isVerified ↔
    loaded.isVerified ∨ ∃ verify, command = .verify verify := by
  cases command with
  | create create => exact absurd rfl (written create)
  | verify verify =>
      cases verified : loaded.isVerified <;>
        simp [KnowledgeCommand.stored, data, KnowledgeItem.verify, verified]
  | _ => simp [KnowledgeCommand.stored, data, occData, KnowledgeItem.applyEdit,
      KnowledgeItem.publish, KnowledgeItem.softDelete, KnowledgeItem.acceptAnswer,
      KnowledgeItem.clearAcceptedAnswer]

theorem stored_deleted (live : loaded.deletedAt = none) :
    (command.stored context loaded current).deletedAt.isSome ↔
      ∃ delete, command = .delete delete := by
  cases command with
  | create create => exact absurd rfl (written create)
  | verify verify =>
      cases verified : loaded.isVerified <;>
        simp [KnowledgeCommand.stored, data, KnowledgeItem.verify, verified, live]
  | _ => simp [KnowledgeCommand.stored, data, occData, KnowledgeItem.applyEdit,
      KnowledgeItem.publish, KnowledgeItem.softDelete, KnowledgeItem.acceptAnswer,
      KnowledgeItem.clearAcceptedAnswer, live]

/-- A write undoes nothing exactly when its command has missed nothing. -/
theorem onward_stored_iff (live : loaded.deletedAt = none) :
    Onward current (command.stored context loaded current) ↔
      NothingMissed command loaded current := by
  have published := stored_published context loaded current written
  have verified := stored_verified context loaded current written
  have deleted := stored_deleted context loaded current written live
  constructor
  · intro onward
    exact ⟨published.mp ∘ onward.published, verified.mp ∘ onward.verified,
      deleted.mp ∘ onward.deleted⟩
  · intro missed
    exact ⟨published.mpr ∘ missed.published, verified.mpr ∘ missed.verified,
      deleted.mpr ∘ missed.deleted⟩

end Stored

/-- A commit of a command that was up to date undoes no transition of any item. -/
theorem Wrote.onward (wrote : Wrote (UpToDate command) context command pending db) {id : String}
    {row : KnowledgeItemRow} (found : db.items.get? id = some row) :
    ∃ row', (knowledgeEngine.view db pending).items.get? id = some row' ∧ Onward row row' := by
  cases wrote with
  | nothing unedited =>
      rw [view_appendOutbox]
      exact ⟨row, found, .refl row⟩
  | @created _ fresh' events unedited fresh first =>
      rw [view_rowWrites]
      have distinct : id ≠ fresh'.id := by
        rintro rfl
        simp [fresh] at found
      exact ⟨row, by simpa [OrderedMap.get?_set, distinct] using found, .refl row⟩
  | @stored _ view first seen orgId loaded current events permitted count head loads matched held
      id' validated =>
      rw [view_rowWrites, KnowledgeCommand.stored_id, id']
      by_cases same : id = command.target
      · subst same
        simp only [held, Option.some.injEq] at found
        subst found
        refine ⟨_, (OrderedMap.get?_set ..).trans (if_pos rfl), ?_⟩
        rcases findFirst_eq_some loads with ⟨before, -, rfl, live⟩
        have written : ∀ create, command ≠ .create create := by
          rintro create rfl
          simp [List.length_eq_zero_iff.mp count] at head
        exact (onward_stored_iff context _ current written live).mpr
          (permitted count first _ orgId current head loads matched fun edit same =>
            (validated edit same).1)
      · exact ⟨row, by simpa [OrderedMap.get?_set, same] using found, .refl row⟩

/-- The commands on the schedules on which no write has missed a transition. -/
def upToDateWorkload (contexts : ℕ → Context) (commands : ℕ → KnowledgeCommand) :
    Workload ℕ KnowledgeDb KnowledgeWrite KnowledgeLock KnowledgeError (Option String) :=
  (knowledgeWorkload contexts commands).under fun client => UpToDate (commands client)

variable {state later :
  Workload.State ℕ KnowledgeDb KnowledgeWrite KnowledgeError (Option String)}

/-- In every run in which no write has missed a transition: an item once published, verified or
deleted in a committed state is so in every later one. -/
theorem transitions_stay (reached : (upToDateWorkload contexts commands).system.Reachable state)
    (leads : (upToDateWorkload contexts commands).system.Leads state later) (id : String)
    (row : KnowledgeItemRow) (found : state.db.items.get? id = some row) :
    ∃ row', later.db.items.get? id = some row' ∧ Onward row row' := by
  induction leads with
  | refl => exact ⟨row, found, .refl row⟩
  | tail earlier move ih =>
      rcases ih with ⟨row', found', onward⟩
      rcases move with ⟨label, move⟩
      rcases Outline.step_cases move with ⟨same, -⟩ | ⟨change, -⟩ |
        ⟨client, begun, seen, pending, reply, finished, after, -⟩
      · exact ⟨row', same ▸ found', onward⟩
      · exact change.elim
      · rcases (Outline.commit_effect (knowledgeOutline contexts commands fun client =>
          UpToDate (commands client)) (reached.leads earlier) finished).2 with
          ⟨pending', wrote, written⟩
        rcases wrote.onward found' with ⟨row'', found'', onward'⟩
        rw [← written] at found''
        exact ⟨row'', after ▸ found'', onward.trans onward'⟩

theorem upToDate_same (command : KnowledgeCommand) (db : KnowledgeDb) :
    UpToDate command [db] db := by
  intro _ first loaded orgId current head found stored _
  cases head
  rcases findFirst_eq_some found with ⟨row, stored', rfl, live⟩
  obtain rfl : row = current := Option.some.inj (stored'.symm.trans stored)
  exact ⟨.inl, .inl, by simp [live]⟩

/-- A moderator verifies the document while another member publishes it. -/
def verifyAndPublish (client : ℕ) : KnowledgeCommand :=
  if client = 0 then .verify ⟨"item", "moderator"⟩ else .publish ⟨"item"⟩

/-- The document after its publication. -/
def publishedDocument : KnowledgeItemRow :=
  { document with status := .published, updatedAt := 1 }

/-- The event of the publication. -/
def publishedEvent : KnowledgePublishedEvent :=
  ⟨"item", "org", "item", "space", .document, "Runbook", "first", "author"⟩

/-- The document after it was verified as well. -/
def verifiedDocument : KnowledgeItemRow :=
  { publishedDocument with isVerified := true, updatedByUserId := some "moderator" }

theorem transitions_stay_published :
    ∃ state later : Workload.State ℕ KnowledgeDb KnowledgeWrite KnowledgeError (Option String),
      state.db.items.get? "item" = some publishedDocument ∧
      later.db.items.get? "item" = some verifiedDocument ∧
      ∃ row, later.db.items.get? "item" = some row ∧ Onward publishedDocument row := by
  let workload := upToDateWorkload (fun _ => inOrg) verifyAndPublish
  have start : workload.system.Reachable documentState := documentState_initial _ _ _
  let writes : List KnowledgeWrite := [.putItem publishedDocument, .appendOutbox publishedEvent]
  have published := Workload.reachable_commit start 1 (.inl rfl) (fun _ _ => rfl)
    ⟨nofun, upToDate_same _ _, nofun, trivial⟩
    (show _ = Except.ok (none, writes) by decide +kernel)
  let state := documentState.commit workload 1 documentState.db none writes
  have leads : workload.system.Leads state
      (state.commit workload 0 state.db none [KnowledgeWrite.putItem verifiedDocument]) :=
    Workload.leads_alone workload state 0 (.inl rfl)
      (fun other _ => by rcases other with _ | _ | _ <;> rfl) ⟨nofun, upToDate_same _ _, trivial⟩
      (show _ = Except.ok (none, [KnowledgeWrite.putItem verifiedDocument]) by decide +kernel)
  exact ⟨state, _, rfl, rfl, transitions_stay published leads "item" publishedDocument rfl⟩

/-- The moderator loads the draft, the other member publishes it, and the moderator's write makes
it a draft again. -/
theorem published_undone :
    ∃ state later : Workload.State ℕ KnowledgeDb KnowledgeWrite KnowledgeError (Option String),
      (knowledgeWorkload (fun _ => inOrg) verifyAndPublish).system.Reachable state ∧
      (knowledgeWorkload (fun _ => inOrg) verifyAndPublish).system.Leads state later ∧
      (∃ row, state.db.items.get? "item" = some row ∧ row.status = .published) ∧
      ∃ row, later.db.items.get? "item" = some row ∧ row.status = .draft := by
  let workload := knowledgeWorkload (fun _ => inOrg) verifyAndPublish
  let db := documentState.db
  have start : workload.system.Reachable documentState :=
    documentState_initial _ _ fun _ _ _ => True
  -- what is left of the verification once it has loaded the draft
  let rest : KnowledgeTx (Option String) := (fun _ => none) <$> update inOrg
    (document.verify 1 "moderator").2
  let loaded := documentState.put 0 (.active db [db] [] rest)
  have loads : workload.system.Reachable loaded :=
    Workload.reachable_read start 0 (.inl rfl) rfl trivial rfl
  let writes : List KnowledgeWrite := [.putItem publishedDocument, .appendOutbox publishedEvent]
  have published := Workload.reachable_commit loads 1 (.inl rfl)
    (fun other _ => by rcases other with _ | _ | _ <;> rfl)
    (.of_all (fun _ _ => trivial) _ _ _)
    (show _ = Except.ok (none, writes) by decide +kernel)
  have undone := Workload.leads_resume workload (loaded.commit workload 1 db none writes) 0 rfl
    (fun other _ => by rcases other with _ | _ | _ <;> rfl) (.of_all (fun _ _ => trivial) _ _ _)
    (show _ = Except.ok (none, [.putItem { document with
      isVerified := true, updatedByUserId := some "moderator", updatedAt := 1 }]) by decide +kernel)
  exact ⟨_, _, published, undone, ⟨publishedDocument, rfl, rfl⟩, _, rfl, rfl⟩

end CoreApi.Knowledge
