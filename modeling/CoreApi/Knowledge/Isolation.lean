import CoreApi.Knowledge.Commands

/-!
# What a command on an item commits

A command that writes an item holds the row until it ends, so what it commits is
its set of columns, taken from the item it loaded, over the row it found when it
wrote. The version check of an edit compares the row with the version the client
sent, not with the one the handler loaded; but a version once passed has its
revision, so an edit from an older item meets the unique key of the revisions.
-/

namespace CoreApi.Knowledge

open PrismaKnowledgeItemRepository

/-- The revisions of an item in the order of their insertion. -/
def revisionsOf (db : KnowledgeDb) (id : String) : List Revision :=
  db.revisions.filter fun revision => revision.itemId = id

/-- An item has the revisions 2 to its version, one each and in order, and the last one holds its
body. -/
structure HistoryOf (row : KnowledgeItemRow) (revisions : List Revision) : Prop where
  positive : 1 ≤ row.version
  versions : revisions.map Revision.version = List.range' 2 (row.version - 1)
  snapshot : ∀ revision ∈ revisions, revision.version = row.version →
    revision.bodySnapshot = row.body

/-- Every item has its history, and there are no other revisions. -/
structure Archived (db : KnowledgeDb) : Prop where
  item : ∀ id row, db.items.get? id = some row → row.id = id ∧ HistoryOf row (revisionsOf db id)
  orphan : ∀ id, db.items.get? id = none → revisionsOf db id = []

/-- What others may commit meanwhile: versions do not fall, and nobody touches an item that is
held, nor its revisions. -/
structure Interference (held : List KnowledgeWrite) (db now : KnowledgeDb) : Prop where
  grown : ∀ id row, db.items.get? id = some row →
    ∃ row', now.items.get? id = some row' ∧ row.version ≤ row'.version
  kept : ∀ write ∈ held, ∀ id, knowledgeEngine.lock write = some (.item id) →
    now.items.get? id = db.items.get? id ∧ revisionsOf now id = revisionsOf db id

namespace Interference

theorem refl (held : List KnowledgeWrite) (db : KnowledgeDb) : Interference held db db :=
  ⟨fun _ row found => ⟨row, found, le_rfl⟩, fun _ _ _ _ => ⟨rfl, rfl⟩⟩

theorem trans {held : List KnowledgeWrite} {db now later : KnowledgeDb}
    (first : Interference held db now) (second : Interference held now later) :
    Interference held db later where
  grown id row found := by
    rcases first.grown id row found with ⟨row', found', older⟩
    rcases second.grown id row' found' with ⟨row'', found'', older'⟩
    exact ⟨row'', found'', older.trans older'⟩
  kept write member id lock := by
    rcases first.kept write member id lock with ⟨row, revisions⟩
    rcases second.kept write member id lock with ⟨row', revisions'⟩
    exact ⟨row'.trans row, revisions'.trans revisions⟩

end Interference

/-- What holds in between, and what other transactions may do meanwhile. -/
def knowledgeAssumptions : Assumptions KnowledgeDb KnowledgeWrite where
  Inv := Archived
  Rely := Interference
  refl := Interference.refl
  trans := Interference.trans

namespace KnowledgeCommand

/-- The item a command writes. -/
def target : KnowledgeCommand → String
  | create _ => ""
  | update command => command.id
  | publish command => command.id
  | verify command => command.id
  | delete command => command.id
  | acceptAnswer command => command.questionId
  | unacceptAnswer command => command.questionId

/-- How many items a command loads before it writes one. -/
def loads : KnowledgeCommand → ℕ
  | create _ => 0
  | acceptAnswer _ => 2
  | _ => 1

/-- The row a command stores over the current one, given the item it has loaded. -/
def stored (context : Context) (loaded : KnowledgeItem) (current : KnowledgeItemRow) :
    KnowledgeCommand → KnowledgeItemRow
  | create _ => current
  | update command => occData context
      (loaded.applyEdit context.now command.title command.body command.editedByUserId) current
  | publish _ => data context loaded.publish current
  | verify command => data context (loaded.verify context.now command.verifierUserId).2 current
  | delete _ => data context (loaded.softDelete context.now) current
  | acceptAnswer command =>
      data context (loaded.acceptAnswer context.now command.answerId) current
  | unacceptAnswer _ => data context (loaded.clearAcceptedAnswer context.now) current

/-- The revisions a command inserts. -/
def revisions (context : Context) (loaded : KnowledgeItem) : KnowledgeCommand → List Revision
  | update command => [{
      id := context.id
      itemId := command.id
      version := loaded.version + 1
      bodySnapshot := command.body
      editedByUserId := command.editedByUserId
      createdAt := context.writtenAt }]
  | _ => []

end KnowledgeCommand

/-- The writes of a command that stores a row: the row, its revisions and its events. -/
def rowWrites (row : KnowledgeItemRow) (revisions : List Revision)
    (events : List KnowledgePublishedEvent) : List KnowledgeWrite :=
  .putItem row :: (revisions.map .insertRevision ++ events.map .appendOutbox)

/-- What is pending when a body has ended, and what it rests on. -/
inductive Wrote (permits : List KnowledgeDb → KnowledgeDb → Prop) (context : Context)
    (command : KnowledgeCommand) : List KnowledgeWrite → KnowledgeDb → Prop where
  | nothing {db : KnowledgeDb} {events : List KnowledgePublishedEvent}
      (unedited : ∀ edit, command ≠ .update edit) :
      Wrote permits context command (events.map .appendOutbox) db
  | created {db : KnowledgeDb} {row : KnowledgeItemRow} {events : List KnowledgePublishedEvent}
      (unedited : ∀ edit, command ≠ .update edit) (fresh : db.items.get? row.id = none)
      (first : row.version = 1) : Wrote permits context command (rowWrites row [] events) db
  | stored {db view first : KnowledgeDb} {seen : List KnowledgeDb} {orgId : String}
      {loaded : KnowledgeItem} {current : KnowledgeItemRow} {events : List KnowledgePublishedEvent}
      (permitted : permits seen view) (count : seen.length = command.loads)
      (head : seen.head? = some first) (found : findFirst first command.target orgId = some loaded)
      (matched : view.items.get? command.target = some current)
      (held : db.items.get? command.target = some current)
      (id : current.id = command.target)
      (validated : ∀ edit, command = .update edit →
        current.version = edit.expectedVersion ∧ loaded.version = current.version) :
      Wrote permits context command
        (rowWrites (command.stored context loaded current) (command.revisions context loaded)
          events) db

theorem KnowledgeCommand.stored_id (command : KnowledgeCommand) (context : Context)
    (loaded : KnowledgeItem) (current : KnowledgeItemRow) :
    (command.stored context loaded current).id = current.id := by
  cases command <;> rfl

theorem KnowledgeCommand.stored_unedited {command : KnowledgeCommand}
    (unedited : ∀ edit, command ≠ .update edit) (context : Context) (loaded : KnowledgeItem)
    (current : KnowledgeItemRow) :
    (command.stored context loaded current).version = current.version ∧
      (command.stored context loaded current).body = current.body ∧
      command.revisions context loaded = [] := by
  cases command with
  | update edit => exact absurd rfl (unedited edit)
  | _ => exact ⟨rfl, rfl, rfl⟩

theorem KnowledgeCommand.filter_revisions (command : KnowledgeCommand) (context : Context)
    (loaded : KnowledgeItem) (id : String) :
    (command.revisions context loaded).filter (fun revision => revision.itemId = id) =
      if command.target = id then command.revisions context loaded else [] := by
  cases command with
  | update edit =>
      by_cases same : edit.id = id <;> simp [revisions, target, same]
  | _ => simp [revisions]

theorem view_appendOutbox (db : KnowledgeDb) (events : List KnowledgePublishedEvent) :
    knowledgeEngine.view db (events.map .appendOutbox) =
      { db with outbox := db.outbox ++ events } := by
  induction events generalizing db with
  | nil => simp
  | cons event rest ih =>
      have step : knowledgeEngine.view db ((event :: rest).map .appendOutbox) =
          knowledgeEngine.view { db with outbox := db.outbox ++ [event] }
            (rest.map .appendOutbox) := rfl
      rw [step, ih]
      simp

theorem view_insertRevision (db : KnowledgeDb) (revisions : List Revision) :
    knowledgeEngine.view db (revisions.map .insertRevision) =
      { db with revisions := db.revisions ++ revisions } := by
  induction revisions generalizing db with
  | nil => simp
  | cons revision rest ih =>
      have step : knowledgeEngine.view db ((revision :: rest).map .insertRevision) =
          knowledgeEngine.view { db with revisions := db.revisions ++ [revision] }
            (rest.map .insertRevision) := rfl
      rw [step, ih]
      simp

theorem view_rowWrites (db : KnowledgeDb) (row : KnowledgeItemRow) (revisions : List Revision)
    (events : List KnowledgePublishedEvent) :
    knowledgeEngine.view db (rowWrites row revisions events) =
      ⟨db.items.set row.id row, db.revisions ++ revisions, db.outbox ++ events⟩ := by
  have step : knowledgeEngine.view db (rowWrites row revisions events) =
      knowledgeEngine.view { db with items := db.items.set row.id row }
        (revisions.map .insertRevision ++ events.map .appendOutbox) := rfl
  rw [step, Engine.view_append, view_insertRevision, view_appendOutbox]

/-- An edit of the current version extends the history by the revision of the new one. -/
theorem HistoryOf.edit {current row : KnowledgeItemRow} {revisions : List Revision}
    {revision : Revision} (history : HistoryOf current revisions)
    (next : row.version = current.version + 1) (version : revision.version = row.version)
    (snapshot : revision.bodySnapshot = row.body) : HistoryOf row (revisions ++ [revision]) where
  positive := by omega
  versions := by
    have positive := history.positive
    rw [List.map_append, history.versions, List.map_singleton, version, next,
      show current.version + 1 - 1 = current.version - 1 + 1 by omega, List.range'_concat]
    simp only [one_mul, List.append_cancel_left_eq, List.cons.injEq, and_true]
    omega
  snapshot other member same := by
    rcases List.mem_append.mp member with old | new
    · have bound : other.version ∈ List.range' 2 (current.version - 1) := by
        rw [← history.versions]
        exact List.mem_map_of_mem old
      simp only [List.mem_range'_1] at bound
      omega
    · rcases List.mem_singleton.mp new with rfl
      exact snapshot

theorem HistoryOf.congr {current row : KnowledgeItemRow} {revisions : List Revision}
    (history : HistoryOf current revisions) (version : row.version = current.version)
    (body : row.body = current.body) : HistoryOf row revisions where
  positive := version ▸ history.positive
  versions := version ▸ history.versions
  snapshot := by
    rw [version, body]
    exact history.snapshot

/-- A version the item has passed has its revision. -/
theorem HistoryOf.passed {row : KnowledgeItemRow} {revisions : List Revision} {version : ℕ}
    (history : HistoryOf row revisions) (positive : 1 ≤ version) (older : version < row.version) :
    ∃ revision ∈ revisions, revision.version = version + 1 := by
  have member : version + 1 ∈ revisions.map Revision.version := by
    rw [history.versions, List.mem_range'_1]
    omega
  simpa using member

/-- A row that is written is locked. -/
theorem locked_rowWrites (row : KnowledgeItemRow) (revisions : List Revision)
    (events : List KnowledgePublishedEvent) :
    ∃ write ∈ rowWrites row revisions events, knowledgeEngine.lock write = some (.item row.id) :=
  ⟨_, List.mem_cons_self, rfl⟩

theorem Interference.row_kept {db now : KnowledgeDb} {row : KnowledgeItemRow}
    {revisions : List Revision} {events : List KnowledgePublishedEvent}
    (interference : Interference (rowWrites row revisions events) db now) :
    now.items.get? row.id = db.items.get? row.id ∧
      revisionsOf now row.id = revisionsOf db row.id := by
  rcases locked_rowWrites row revisions events with ⟨write, member, lock⟩
  exact interference.kept write member row.id lock

namespace Wrote

variable {permits : List KnowledgeDb → KnowledgeDb → Prop} {context : Context}
  {command : KnowledgeCommand} {pending held : List KnowledgeWrite} {db now : KnowledgeDb}

theorem stable (wrote : Wrote permits context command pending db)
    (interference : Interference pending db now) : Wrote permits context command pending now := by
  cases wrote with
  | nothing unedited => exact .nothing unedited
  | created unedited fresh first =>
      exact .created unedited (interference.row_kept.1.trans fresh) first
  | stored permitted count head found matched held id validated =>
      refine .stored permitted count head found matched ?_ id validated
      have kept := interference.row_kept.1
      simp only [KnowledgeCommand.stored_id, id] at kept
      exact kept.trans held

/-- A commit is no interference for whoever holds none of its locks. -/
theorem interference (wrote : Wrote permits context command pending db)
    (apart : knowledgeEngine.Apart held pending) :
    Interference held db (knowledgeEngine.view db pending) := by
  have spared : ∀ row revisions events, pending = rowWrites row revisions events →
      ∀ write ∈ held, knowledgeEngine.lock write ≠ some (.item row.id) := by
    rintro row revisions events rfl write member lock
    rcases locked_rowWrites row revisions events with ⟨write', member', lock'⟩
    exact apart write member _ lock write' member' lock'
  cases wrote with
  | nothing unedited =>
      rw [view_appendOutbox]
      exact ⟨fun _ row found => ⟨row, found, le_rfl⟩, fun _ _ _ _ => ⟨rfl, rfl⟩⟩
  | @created _ row events unedited fresh first =>
      rw [view_rowWrites, List.append_nil]
      refine ⟨?_, fun write member id lock => ⟨?_, rfl⟩⟩
      · intro id row' found
        have distinct : id ≠ row.id := by
          rintro rfl
          simp [fresh] at found
        exact ⟨row', by simpa [OrderedMap.get?_set, distinct] using found, le_rfl⟩
      · have distinct : id ≠ row.id := by
          rintro rfl
          exact spared _ _ _ rfl write member lock
        simp [OrderedMap.get?_set, distinct]
  | @stored _ view first seen orgId loaded current events permitted count head found matched
      held' id validated =>
      have spared := spared _ _ _ rfl
      simp only [KnowledgeCommand.stored_id, id] at spared
      rw [view_rowWrites, KnowledgeCommand.stored_id, id]
      refine ⟨?_, ?_⟩
      · intro other row found
        by_cases same : other = command.target
        · subst same
          simp only [held', Option.some.injEq] at found
          subst found
          refine ⟨command.stored context loaded current, by simp [OrderedMap.get?_set], ?_⟩
          by_cases edited : ∃ edit, command = .update edit
          · rcases edited with ⟨edit, rfl⟩
            have loaded := (validated edit rfl).2
            simp only [KnowledgeCommand.stored, occData, KnowledgeItem.applyEdit]
            omega
          · have unedited := KnowledgeCommand.stored_unedited (not_exists.mp edited) context loaded
              current
            exact unedited.1.ge
        · exact ⟨row, by simpa [OrderedMap.get?_set, same] using found, le_rfl⟩
      · intro write member other lock
        have distinct : other ≠ command.target := by
          rintro rfl
          exact spared write member lock
        refine ⟨by simp [OrderedMap.get?_set, distinct], ?_⟩
        simp only [revisionsOf, List.filter_append]
        rw [command.filter_revisions context loaded, if_neg (Ne.symm distinct), List.append_nil]

theorem archived (archived : Archived db) (wrote : Wrote permits context command pending db) :
    Archived (knowledgeEngine.view db pending) := by
  cases wrote with
  | nothing unedited =>
      rw [view_appendOutbox]
      exact ⟨archived.item, archived.orphan⟩
  | @created _ row events unedited fresh first =>
      rw [view_rowWrites, List.append_nil]
      have none := archived.orphan row.id fresh
      refine ⟨?_, ?_⟩
      · intro id row' found
        by_cases same : id = row.id
        · subst same
          obtain rfl : row = row' := by simpa [OrderedMap.get?_set] using found
          change row.id = row.id ∧ HistoryOf row (revisionsOf db row.id)
          rw [none]
          exact ⟨rfl, by omega, by simp [first], by simp⟩
        · exact archived.item id row' (by simpa [OrderedMap.get?_set, same] using found)
      · intro id found
        apply archived.orphan id
        by_cases same : id = row.id
        · simp [OrderedMap.get?_set, same] at found
        · simpa [OrderedMap.get?_set, same] using found
  | @stored _ view first seen orgId loaded current events permitted count head found matched
      held id validated =>
      rw [view_rowWrites, KnowledgeCommand.stored_id, id]
      rcases archived.item _ _ held with ⟨-, history⟩
      refine ⟨?_, ?_⟩
      · intro other row found
        simp only [revisionsOf, List.filter_append, KnowledgeCommand.filter_revisions]
        by_cases same : other = command.target
        · subst same
          obtain rfl : command.stored context loaded current = row := by
            simpa [OrderedMap.get?_set] using found
          rw [if_pos rfl]
          refine ⟨(KnowledgeCommand.stored_id ..).trans id, ?_⟩
          by_cases edited : ∃ edit, command = .update edit
          · rcases edited with ⟨edit, rfl⟩
            have loaded := (validated edit rfl).2
            refine history.edit ?_ ?_ ?_
            · simp [KnowledgeCommand.stored, occData, KnowledgeItem.applyEdit, loaded]
            · rfl
            · rfl
          · have unedited := KnowledgeCommand.stored_unedited (not_exists.mp edited) context loaded
              current
            rw [unedited.2.2, List.append_nil]
            exact history.congr unedited.1 unedited.2.1
        · rw [if_neg (Ne.symm same), List.append_nil]
          exact archived.item other row (by simpa [OrderedMap.get?_set, same] using found)
      · intro other found
        have distinct : other ≠ command.target := by
          rintro rfl
          simp [OrderedMap.get?_set] at found
        simp only [revisionsOf, List.filter_append, KnowledgeCommand.filter_revisions,
          if_neg (Ne.symm distinct), List.append_nil]
        exact archived.orphan other (by simpa [OrderedMap.get?_set, distinct] using found)

theorem append (wrote : Wrote permits context command pending db)
    (event : KnowledgePublishedEvent) :
    Wrote permits context command (pending ++ [.appendOutbox event]) db := by
  have more : ∀ (row : KnowledgeItemRow) (revisions : List Revision)
      (events : List KnowledgePublishedEvent), rowWrites row revisions events ++
        [.appendOutbox event] = rowWrites row revisions (events ++ [event]) := by
    simp [rowWrites]
  cases wrote with
  | @nothing _ events unedited =>
      have last : events.map KnowledgeWrite.appendOutbox ++ [.appendOutbox event] =
          (events ++ [event]).map .appendOutbox := by simp
      rw [last]
      exact .nothing unedited
  | created unedited fresh first =>
      rw [more]
      exact .created unedited fresh first
  | stored permitted count head found matched held id validated =>
      rw [more]
      exact .stored permitted count head found matched held id validated

end Wrote

theorem findFirst_eq_some {db : KnowledgeDb} {id orgId : String} {loaded : KnowledgeItem}
    (found : findFirst db id orgId = some loaded) :
    ∃ row, db.items.get? id = some row ∧ row.toKnowledgeItem = loaded ∧
      row.deletedAt = none := by
  simp only [findFirst, Option.map_eq_some_iff, Option.filter_eq_some_iff,
    decide_eq_true_eq] at found
  rcases found with ⟨row, ⟨stored, -, live⟩, same⟩
  exact ⟨row, stored, same, live⟩

theorem Archived.loaded_id {db : KnowledgeDb} (archived : Archived db) {id orgId : String}
    {loaded : KnowledgeItem} (found : findFirst db id orgId = some loaded) : loaded.id = id := by
  rcases findFirst_eq_some found with ⟨row, stored, rfl, -⟩
  exact (archived.item id row stored).1

section Loading

variable {Value : Type} {assumptions : Assumptions KnowledgeDb KnowledgeWrite}
  {permits : List KnowledgeDb → KnowledgeDb → Prop} {context : Context}
  {post : Value → List KnowledgeDb → List KnowledgeWrite → KnowledgeDb → Prop}
  {seen : List KnowledgeDb} {pending : List KnowledgeWrite} {db : KnowledgeDb}

theorem requireTenantId_ends {next : String → KnowledgeTx Value}
    (ends : ∀ orgId, context.tenantId = some orgId →
      assumptions.Ends knowledgeEngine permits post (next orgId) seen pending db) :
    assumptions.Ends knowledgeEngine permits post (requireTenantId context >>= next) seen pending
      db := by
  refine Assumptions.Ends.bind ?_
  cases tenant : context.tenantId with
  | none =>
      simp only [requireTenantId, tenant]
      exact Assumptions.Ends.fail _
  | some orgId =>
      simp only [requireTenantId, tenant]
      split
      · exact Assumptions.Ends.fail _
      · exact Assumptions.Ends.pure (ends orgId tenant)

/-- The rule for loading an item before anything is written. -/
theorem load_ends {id : String} {next : KnowledgeItem → KnowledgeTx Value}
    (ends : ∀ now orgId loaded, context.tenantId = some orgId → assumptions.Inv now →
      assumptions.Rely [] db now → findFirst now id orgId = some loaded →
      assumptions.Ends knowledgeEngine permits post (next loaded) (seen ++ [now]) [] now) :
    assumptions.Ends knowledgeEngine permits post
      (findById context id >>= fun found => orNotFound found >>= next) seen [] db := by
  refine Assumptions.Ends.bind (requireTenantId_ends ?_)
  intro orgId tenant
  refine Assumptions.Ends.read fun now rely inv => Assumptions.Ends.bind ?_
  cases found : findFirst now id orgId with
  | none =>
      rw [Engine.view_nil, found]
      exact Assumptions.Ends.fail _
  | some loaded =>
      rw [Engine.view_nil, found]
      exact Assumptions.Ends.pure (ends now orgId loaded tenant inv rely found)

theorem throwUnless_ends {condition : Bool} {error : ApplicationError}
    {next : Unit → KnowledgeTx Value}
    (ends : condition = true →
      assumptions.Ends knowledgeEngine permits post (next ()) seen pending db) :
    assumptions.Ends knowledgeEngine permits post (throwUnless condition error >>= next) seen
      pending db := by
  refine Assumptions.Ends.bind ?_
  cases condition with
  | false => exact Assumptions.Ends.fail _
  | true => exact Assumptions.Ends.pure (ends rfl)

end Loading

section Bodies

variable {permits : List KnowledgeDb → KnowledgeDb → Prop} {context : Context}
  {seen : List KnowledgeDb} {db : KnowledgeDb}

variable {command : KnowledgeCommand}

theorem wrote_none (unedited : ∀ edit, command ≠ .update edit) :
    Wrote permits context command [] db := by
  have wrote : Wrote permits context command (List.map .appendOutbox []) db := .nothing unedited
  simpa using wrote

/-- The rule for writing an item back without a version check. -/
theorem update_ends (command : KnowledgeCommand) (loaded item : KnowledgeItem)
    (unedited : ∀ edit, command ≠ .update edit) {first : KnowledgeDb} {orgId : String}
    (head : seen.head? = some first) (count : seen.length = command.loads)
    (found : findFirst first command.target orgId = some loaded) (id : item.id = command.target)
    (stored : ∀ current, data context item current = command.stored context loaded current) :
    knowledgeAssumptions.Ends knowledgeEngine permits
      (fun _ _ pending db => Wrote permits context command pending db) (update context item) seen []
      db := by
  apply requireTenantId_ends
  intro orgId' _
  apply Assumptions.Ends.execute
  intro now rely archived permitted writes value ran
  simp only [Except.ok.injEq, Prod.mk.injEq, updateMany, Engine.view_nil, id] at ran
  rcases ran with ⟨rfl, -⟩
  cases matched : (now.items.get? command.target).filter fun row => row.orgId = orgId' with
  | none => exact wrote_none unedited
  | some current =>
      have row := (Option.filter_eq_some_iff.mp matched).1
      have wrote : Wrote permits context command (rowWrites _ _ []) now :=
        .stored permitted count head found row row (archived.item _ _ row).1 fun edit same =>
          absurd same (unedited edit)
      rw [(KnowledgeCommand.stored_unedited unedited context loaded current).2.2, ← stored] at wrote
      exact wrote

theorem create_ends (create : CreateKnowledgeCommand) :
    knowledgeAssumptions.Ends knowledgeEngine permits
      (fun _ _ pending db => Wrote permits context (.create create) pending db)
      (CreateKnowledgeHandler.execute context create) seen [] db := by
  refine Assumptions.Ends.bind ?_
  apply Assumptions.Ends.execute
  intro now rely archived permitted writes value ran
  split at ran
  · cases ran
  · next fresh =>
      cases ran
      refine Assumptions.Ends.pure ?_
      change Wrote permits context (.create create) (rowWrites _ [] []) now
      exact .created (fun edit same => by cases same) fresh rfl

theorem publish_ends (publish : PublishKnowledgeCommand) :
    knowledgeAssumptions.Ends knowledgeEngine permits
      (fun _ _ pending db => Wrote permits context (.publish publish) pending db)
      (PublishKnowledgeHandler.execute context publish) [] [] db := by
  apply load_ends
  intro now orgId loaded _ archived _ found
  have id := archived.loaded_id found
  refine throwUnless_ends fun draft => Assumptions.Ends.bind ?_
  refine Assumptions.Ends.mono ?_
    (update_ends (.publish publish) loaded loaded.publish ?_ rfl rfl found id fun _ => rfl)
  · intro _ seen pending db wrote
    exact Assumptions.Ends.write fun later rely _ => (wrote.stable rely).append _
  · rintro edit ⟨⟩

theorem verify_ends (verify : VerifyKnowledgeCommand) :
    knowledgeAssumptions.Ends knowledgeEngine permits
      (fun _ _ pending db => Wrote permits context (.verify verify) pending db)
      (VerifyKnowledgeHandler.execute context verify) [] [] db := by
  apply load_ends
  intro now orgId loaded _ archived _ found
  have id := archived.loaded_id found
  cases verified : loaded.isVerified with
  | true =>
      simp only [KnowledgeItem.verify, verified, if_true]
      exact Assumptions.Ends.pure (wrote_none (by rintro edit ⟨⟩))
  | false =>
      have changed : (loaded.verify context.now verify.verifierUserId).1 = true := by
        simp [KnowledgeItem.verify, verified]
      have same : (loaded.verify context.now verify.verifierUserId).2.id = verify.id := by
        simpa [KnowledgeItem.verify, verified] using id
      simp only [changed]
      refine update_ends (.verify verify) loaded _ ?_ rfl rfl found same fun _ => rfl
      rintro edit ⟨⟩

theorem delete_ends (delete : DeleteKnowledgeCommand) :
    knowledgeAssumptions.Ends knowledgeEngine permits
      (fun _ _ pending db => Wrote permits context (.delete delete) pending db)
      (DeleteKnowledgeHandler.execute context delete) [] [] db := by
  apply load_ends
  intro now orgId loaded _ archived _ found
  have id := archived.loaded_id found
  refine update_ends (.delete delete) loaded _ ?_ rfl rfl found id fun _ => rfl
  rintro edit ⟨⟩

theorem acceptAnswer_ends (accept : AcceptAnswerCommand) :
    knowledgeAssumptions.Ends knowledgeEngine permits
      (fun _ _ pending db => Wrote permits context (.acceptAnswer accept) pending db)
      (AcceptAnswerHandler.execute context accept) [] [] db := by
  apply load_ends
  intro now orgId question _ archived _ found
  have id := archived.loaded_id found
  refine throwUnless_ends fun type => throwUnless_ends fun author => ?_
  apply load_ends
  intro later orgId' answer _ archived' _ found'
  have answerId := archived'.loaded_id found'
  refine throwUnless_ends fun type' => throwUnless_ends fun parent => ?_
  refine update_ends (.acceptAnswer accept) question _ ?_ rfl rfl found id ?_
  · rintro edit ⟨⟩
  · intro _
    rw [answerId]
    rfl

theorem unacceptAnswer_ends (unaccept : UnacceptAnswerCommand) :
    knowledgeAssumptions.Ends knowledgeEngine permits
      (fun _ _ pending db => Wrote permits context (.unacceptAnswer unaccept) pending db)
      (UnacceptAnswerHandler.execute context unaccept) [] [] db := by
  apply load_ends
  intro now orgId question _ archived _ found
  have id := archived.loaded_id found
  refine throwUnless_ends fun type => throwUnless_ends fun author => ?_
  refine update_ends (.unacceptAnswer unaccept) question _ ?_ rfl rfl found id fun _ => rfl
  rintro edit ⟨⟩

/-- An edit that finds the version it expects, and no revision of the version it writes, has loaded
the current version. -/
theorem validated {edit : UpdateKnowledgeCommand} {first now later : KnowledgeDb} {orgId : String}
    {loaded : KnowledgeItem} {current row : KnowledgeItemRow} (archived : Archived first)
    (archived' : Archived now) (found : findFirst first edit.id orgId = some loaded)
    (rely : Interference [] first now) (matched : now.items.get? edit.id = some current)
    (rely' : Interference (rowWrites row [] []) now later) (id : row.id = edit.id)
    (unique : ¬ ∃ stored ∈ later.revisions, stored.itemId = edit.id ∧
      stored.version = loaded.version + 1) : loaded.version = current.version := by
  rcases findFirst_eq_some found with ⟨before, stored, rfl, -⟩
  have positive := (archived.item _ _ stored).2.positive
  have older : before.version ≤ current.version := by
    rcases rely.grown _ _ stored with ⟨row', matched', older⟩
    simp only [matched, Option.some.injEq] at matched'
    exact matched' ▸ older
  have history := (archived'.item _ _ matched).2
  rw [← id, ← rely'.row_kept.2, id] at history
  by_contra distinct
  rcases history.passed positive (by omega) with ⟨revision, member, version⟩
  have member' := List.mem_filter.mp member
  exact unique ⟨revision, member'.1, by simpa using member'.2, version⟩

theorem edit_ends (edit : UpdateKnowledgeCommand) :
    knowledgeAssumptions.Ends knowledgeEngine permits
      (fun _ _ pending db => Wrote permits context (.update edit) pending db)
      (UpdateKnowledgeHandler.execute context edit) [] [] db := by
  apply load_ends
  intro first orgId loaded _ archived _ found
  have id := archived.loaded_id found
  refine Assumptions.Ends.bind (requireTenantId_ends ?_)
  intro orgId' _
  apply Assumptions.Ends.execute
  intro now rely archived' permitted writes ok ran
  simp only [Except.ok.injEq, updateMany, Engine.view_nil] at ran
  have target : (loaded.applyEdit context.now edit.title edit.body edit.editedByUserId).id =
      edit.id := id
  simp only [target] at ran
  cases matched : (now.items.get? edit.id).filter fun row =>
      row.orgId = orgId' ∧ row.version = edit.expectedVersion with
  | none =>
      simp only [matched, Prod.mk.injEq] at ran
      rcases ran with ⟨rfl, rfl⟩
      exact Assumptions.Ends.fail _
  | some current =>
      simp only [matched, Prod.mk.injEq] at ran
      rcases ran with ⟨rfl, rfl⟩
      rcases Option.filter_eq_some_iff.mp matched with ⟨row, condition⟩
      simp only [decide_eq_true_eq] at condition
      apply throwUnless_ends
      intro _
      apply Assumptions.Ends.execute
      intro later rely' _ _ writes _ ran
      split at ran
      · cases ran
      · next unique =>
          cases ran
          have current_id : current.id = edit.id := (archived'.item _ _ row).1
          have rely'' : Interference (rowWrites (occData context (loaded.applyEdit context.now
              edit.title edit.body edit.editedByUserId) current) [] []) now later := rely'
          have same : loaded.version = current.version :=
            validated archived archived' found rely row rely'' current_id fun taken => unique (by
              simpa [knowledgeEngine, Engine.view, id, KnowledgeItem.applyEdit] using taken)
          have held : later.items.get? edit.id = some current := by
            have kept := rely''.row_kept.1
            simp only [show (occData context _ current).id = edit.id from current_id] at kept
            exact kept.trans row
          have wrote : Wrote permits context (.update edit) (rowWrites _ _ []) later :=
            .stored permitted rfl rfl found row held current_id fun edit' same' => by
              cases same'
              exact ⟨condition.2, same⟩
          simpa [rowWrites, KnowledgeCommand.stored, KnowledgeCommand.revisions, id,
            KnowledgeItem.applyEdit] using wrote

end Bodies

variable (contexts : ℕ → Context) (commands : ℕ → KnowledgeCommand)
  (permits : ℕ → List KnowledgeDb → KnowledgeDb → Prop)

theorem execute_ends (permits : List KnowledgeDb → KnowledgeDb → Prop) (context : Context)
    (command : KnowledgeCommand) (db : KnowledgeDb) :
    knowledgeAssumptions.Ends knowledgeEngine permits
      (fun _ _ pending db => Wrote permits context command pending db) (command.execute context) []
      [] db := by
  cases command with
  | create command => exact Assumptions.Ends.map _ (create_ends command)
  | update command => exact Assumptions.Ends.map _ (edit_ends command)
  | publish command => exact Assumptions.Ends.map _ (publish_ends command)
  | verify command => exact Assumptions.Ends.map _ (verify_ends command)
  | delete command => exact Assumptions.Ends.map _ (delete_ends command)
  | acceptAnswer command => exact Assumptions.Ends.map _ (acceptAnswer_ends command)
  | unacceptAnswer command => exact Assumptions.Ends.map _ (unacceptAnswer_ends command)

/-- On every schedule the histories stay whole, and a commit leaves what its body wrote. -/
def knowledgeOutline : Outline ((knowledgeWorkload contexts commands).under permits) where
  toAssumptions := knowledgeAssumptions
  Effect client _ _ now after := ∃ pending,
    Wrote (permits client) (contexts client) (commands client) pending now ∧
      after = knowledgeEngine.view now pending
  initial db start := by
    refine ⟨?_, fun id found => by simp [revisionsOf, start.1]⟩
    intro id row found
    rcases start.2 id row found with ⟨same, first⟩
    exact ⟨same, by omega, by simp [revisionsOf, start.1, first], by simp [revisionsOf, start.1]⟩
  external db next _ change := change.elim
  safe client begun archived := by
    refine (execute_ends (permits client) (contexts client) (commands client) begun).mono ?_
    intro reply seen pending db wrote now rely archived'
    have wrote := wrote.stable rely
    exact ⟨wrote.archived archived', ⟨pending, wrote, rfl⟩, fun held apart =>
      wrote.interference apart⟩

end CoreApi.Knowledge
