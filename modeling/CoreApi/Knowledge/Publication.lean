import CoreApi.Knowledge.OneWay
import CoreApi.Knowledge.WrittenBack

/-!
# The publication of an item

An item is announced by the event of its publication, with the title and the
body that the command has loaded. The row that is written with it is the one that
is there at the end: it may have been published meanwhile, or edited, and another
command may write an old status over it later.
-/

namespace CoreApi.Knowledge

open PrismaKnowledgeItemRepository

/-- The status of an item, deleted or not. -/
def statusOf (db : KnowledgeDb) (itemId : String) : Option KnowledgeStatus :=
  (db.items.get? itemId).map fun row => row.status

/-- The events that announce an item. -/
def publications (db : KnowledgeDb) (itemId : String) : List KnowledgePublishedEvent :=
  db.outbox.filter fun event => event.itemId = itemId

/-- An item is announced at most once, and it is announced if and only if it is published. -/
structure PublishedOnce (db : KnowledgeDb) (itemId : String) : Prop where
  atMost : (publications db itemId).length ≤ 1
  announced : (publications db itemId).length = 1 ↔ statusOf db itemId = some .published

/-- An item that is still to be created, or a draft. -/
structure Unpublished (itemId : String) (db : KnowledgeDb) : Prop where
  draft : ∀ row, db.items.get? itemId = some row → row.status = .draft
  unannounced : publications db itemId = []

/-- An item is created as a draft, and published. -/
def Precedes (earlier later : Option KnowledgeStatus) : Prop :=
  earlier = none ∨ earlier = later ∨ (earlier = some .draft ∧ later = some .published)

theorem Precedes.refl (status : Option KnowledgeStatus) : Precedes status status := .inr (.inl rfl)

theorem Precedes.trans {first second third : Option KnowledgeStatus}
    (left : Precedes first second) (right : Precedes second third) : Precedes first third := by
  rcases left with rfl | rfl | ⟨rfl, rfl⟩
  · exact .inl rfl
  · exact right
  · rcases right with none | rfl | ⟨draft, -⟩
    · cases none
    · exact .inr (.inr ⟨rfl, rfl⟩)
    · cases draft

variable {context : Context} {command : KnowledgeCommand} {seen : List KnowledgeDb}
  {pending : List KnowledgeWrite} {db : KnowledgeDb} {itemId : String}
  {loaded : KnowledgeItem} {current : KnowledgeItemRow}

/-- Only a publication changes the status that was loaded. -/
theorem stored_status (context : Context) (loaded : KnowledgeItem) (current : KnowledgeItemRow)
    (written : ∀ create, command ≠ .create create)
    (unpublished : ∀ publish, command ≠ .publish publish) :
    (command.stored context loaded current).status = loaded.status := by
  cases command with
  | create create => exact absurd rfl (written create)
  | publish publish => exact absurd rfl (unpublished publish)
  | verify verify =>
      cases verified : loaded.isVerified <;>
        simp [KnowledgeCommand.stored, data, KnowledgeItem.verify, verified]
  | _ => rfl

theorem statusOf_set (id : String) (row : KnowledgeItemRow) (revisions : List Revision)
    (outbox : List KnowledgePublishedEvent) :
    statusOf ⟨db.items.set id row, revisions, outbox⟩ itemId =
      if itemId = id then some row.status else statusOf db itemId := by
  simp only [statusOf, OrderedMap.get?_set]
  split <;> rfl

theorem publications_append (items : OrderedMap String KnowledgeItemRow)
    (revisions : List Revision) (events : List KnowledgePublishedEvent) :
    publications ⟨items, revisions, db.outbox ++ events⟩ itemId =
      publications db itemId ++ events.filter fun event => event.itemId = itemId :=
  List.filter_append ..

/-- A command announces the item it has loaded, if it publishes it. -/
theorem events_filter (id : loaded.id = command.target) :
    ((command.events loaded).filter fun event => event.itemId = itemId) =
      if itemId = command.target then command.events loaded else [] := by
  cases command with
  | publish publish =>
      by_cases same : itemId = publish.id <;>
        simp [KnowledgeCommand.events, KnowledgeCommand.target, same, id, eq_comm]
  | _ => simp [KnowledgeCommand.events]

theorem Unpublished.publishedOnce (unpublished : Unpublished itemId db) :
    PublishedOnce db itemId := by
  have none : (publications db itemId).length = 0 := by rw [unpublished.unannounced]; rfl
  refine ⟨by omega, iff_of_false (by omega) ?_⟩
  intro published
  rcases Option.map_eq_some_iff.mp published with ⟨row, stored, status⟩
  cases (unpublished.draft row stored).symm.trans status

/-- The command has loaded the status that it writes over, if it writes the item. -/
def WritesOver (itemId : String) (seen : List KnowledgeDb) (pending : List KnowledgeWrite)
    (db : KnowledgeDb) : Prop :=
  ∀ row first, .putItem row ∈ pending → row.id = itemId → seen.head? = some first →
    statusOf first itemId = statusOf db itemId

theorem putItem_mem_rowWrites {row other : KnowledgeItemRow} {revisions : List Revision}
    {events : List KnowledgePublishedEvent} :
    .putItem other ∈ rowWrites row revisions events ↔ other = row := by
  simp [rowWrites]

/-- An item that was announced as it should be stays so exactly when the command writes over the
status that it has loaded. -/
theorem publishedOnce_stored_iff (once : PublishedOnce db itemId)
    (held : db.items.get? itemId = some current) (target : command.target = itemId)
    (id : loaded.id = command.target) (written : ∀ create, command ≠ .create create)
    (draft : ∀ publish, command = .publish publish → loaded.status = .draft)
    (precedes : Precedes (some loaded.status) (some current.status))
    (revisions : List Revision) :
    PublishedOnce ⟨db.items.set itemId (command.stored context loaded current), revisions,
      db.outbox ++ command.events loaded⟩ itemId ↔ loaded.status = current.status := by
  let after : KnowledgeDb := ⟨db.items.set itemId (command.stored context loaded current),
    revisions, db.outbox ++ command.events loaded⟩
  have atMost := once.atMost
  have announced : (publications db itemId).length = 1 ↔ current.status = .published := by
    have announced := once.announced
    rw [statusOf, held, Option.map_some, Option.some.injEq] at announced
    exact announced
  have counted : (publications after itemId).length =
      (publications db itemId).length + (command.events loaded).length := by
    rw [publications_append, events_filter id, if_pos target.symm, List.length_append]
  have status : statusOf after itemId = some (command.stored context loaded current).status := by
    rw [statusOf_set, if_pos rfl]
  change PublishedOnce after itemId ↔ _
  by_cases publishes : ∃ publish, command = .publish publish
  · rcases publishes with ⟨publish, rfl⟩
    have drafted := draft publish rfl
    rw [show (KnowledgeCommand.events loaded (.publish publish)).length = 1 from rfl] at counted
    constructor
    · intro once'
      rcases precedes with none | same | ⟨-, published⟩
      · cases none
      · exact Option.some.inj same
      · have one := announced.mpr (Option.some.inj published)
        have atMost' := once'.atMost
        omega
    · intro same
      have unannounced : (publications db itemId).length ≠ 1 := by
        intro one
        cases (drafted.symm.trans same).trans (announced.mp one)
      exact ⟨by omega, iff_of_true (by omega) status⟩
  · have unpublished := not_exists.mp publishes
    rw [KnowledgeCommand.events_unpublished unpublished, List.length_nil, Nat.add_zero] at counted
    rw [stored_status context loaded current written unpublished] at status
    constructor
    · intro once'
      rcases precedes with none | same | ⟨drafted, published⟩
      · cases none
      · exact Option.some.inj same
      · have one := announced.mpr (Option.some.inj published)
        have published' := once'.announced.mp (counted.trans one)
        rw [status, drafted] at published'
        cases published'
    · intro same
      refine ⟨counted.le.trans atMost, ?_⟩
      rw [counted, status, same, Option.some.injEq]
      exact announced

/-- A command that writes another item has nothing to do with this one. -/
theorem publishedOnce_congr {after : KnowledgeDb} (once : PublishedOnce db itemId)
    (status : statusOf after itemId = statusOf db itemId)
    (events : publications after itemId = publications db itemId) : PublishedOnce after itemId := by
  refine ⟨?_, ?_⟩
  · rw [events]
    exact once.atMost
  · rw [events, status]
    exact once.announced

namespace WroteBack

theorem status_loaded {first : KnowledgeDb} {orgId : String}
    (found : findFirst first itemId orgId = some loaded) :
    statusOf first itemId = some loaded.status := by
  rcases findFirst_iff.mp found with ⟨row, stored, -, -, rfl⟩
  rw [statusOf, stored]
  rfl

/-- A commit keeps an item announced as it should be exactly when it writes over the status that
the command has loaded. -/
theorem publishedOnce_iff (wrote : WroteBack context command seen pending db)
    (once : PublishedOnce db itemId) (precedes : ∀ first, seen.head? = some first →
      Precedes (statusOf first itemId) (statusOf db itemId)) :
    PublishedOnce (knowledgeEngine.view db pending) itemId ↔
      WritesOver itemId seen pending db := by
  cases wrote with
  | nothing idle => exact iff_of_true once fun _ _ member => absurd member List.not_mem_nil
  | @created _ create creates fresh =>
      have none : itemId = context.id → statusOf db itemId = none := by
        rintro rfl
        rw [statusOf, fresh]
        rfl
      refine iff_of_true ?_ ?_
      · rw [view_rowWrites, List.append_nil, List.append_nil]
        by_cases same : itemId = (createdRow context create).id
        · have unannounced : (publications db itemId).length ≠ 1 := by
            intro one
            cases (none same).symm.trans (once.announced.mp one)
          refine ⟨once.atMost, iff_of_false unannounced ?_⟩
          rw [statusOf_set, if_pos same]
          rintro ⟨⟩
        · refine publishedOnce_congr once ?_ rfl
          rw [statusOf_set]
          exact if_neg same
      · intro row first member same head
        rw [putItem_mem_rowWrites.mp member] at same
        have absent := none same.symm
        rw [absent]
        rcases precedes first head with before | before | ⟨-, published⟩
        · exact before
        · exact before.trans absent
        · cases absent.symm.trans published
  | @stored _ first orgId loaded current head found id draft written held org id' =>
      have stored_id := (command.stored_id context loaded current).trans id'
      rw [view_rowWrites, stored_id]
      by_cases same : itemId = command.target
      · subst same
        have status : statusOf db command.target = some current.status := by
          rw [statusOf, held]
          rfl
        have before := precedes first head
        rw [status_loaded found, status] at before
        rw [publishedOnce_stored_iff once held rfl id written draft before]
        constructor
        · intro same row first' member _ head'
          obtain rfl : first = first' := Option.some.inj (head.symm.trans head')
          rw [status_loaded found, status, same]
        · intro agrees
          have agrees := agrees _ first (putItem_mem_rowWrites.mpr rfl) stored_id head
          rw [status_loaded found, status] at agrees
          exact Option.some.inj agrees
      · refine iff_of_true (publishedOnce_congr once ?_ ?_) ?_
        · rw [statusOf_set, if_neg same]
        · rw [publications_append, events_filter id, if_neg same, List.append_nil]
        · intro row first' member target
          rw [putItem_mem_rowWrites.mp member, stored_id] at target
          exact absurd target.symm same

/-- Such a commit takes an item on, if it takes it anywhere. -/
theorem precedes (wrote : WroteBack context command seen pending db)
    (agrees : WritesOver itemId seen pending db) :
    Precedes (statusOf db itemId) (statusOf (knowledgeEngine.view db pending) itemId) := by
  cases wrote with
  | nothing idle => exact .refl _
  | @created _ create creates fresh =>
      rw [view_rowWrites, statusOf_set]
      by_cases same : itemId = context.id
      · refine .inl ?_
        rw [statusOf, same, fresh]
        rfl
      · rw [if_neg (show itemId ≠ (createdRow context create).id from same)]
        exact .refl _
  | @stored _ first orgId loaded current head found id draft written held org id' =>
      have stored_id := (command.stored_id context loaded current).trans id'
      rw [view_rowWrites, stored_id, statusOf_set]
      by_cases same : itemId = command.target
      · subst same
        have agrees := agrees _ first (putItem_mem_rowWrites.mpr rfl) stored_id head
        rw [if_pos rfl, ← agrees, status_loaded found]
        by_cases publishes : ∃ publish, command = .publish publish
        · rcases publishes with ⟨publish, rfl⟩
          exact .inr (.inr ⟨congrArg some (draft publish rfl), rfl⟩)
        · rw [stored_status context loaded current written (not_exists.mp publishes)]
          exact .refl _
      · rw [if_neg same]
        exact .refl _

end WroteBack

section Runs

/-- The state of a run of knowledge commands. -/
abbrev ItemState := Workload.State ℕ KnowledgeDb KnowledgeWrite KnowledgeError (Option String)

variable {contexts : ℕ → Context} {commands : ℕ → KnowledgeCommand} {state : ItemState}

/-- Every command that commits a write of the item finds it at the status that it has loaded. -/
def KeepsStatus (itemId : String) (state : ItemState) : Workload.Label ℕ → Prop
  | .commit client => ∀ begun seen pending body,
      state.session client = .active begun seen pending body →
      WritesOver itemId seen pending state.db
  | _ => True

/-- What a session has loaded first is not ahead of the item, and it has read before it writes. -/
def Follows (itemId : String) (db : KnowledgeDb) :
    Session KnowledgeDb KnowledgeWrite KnowledgeError (Option String) → Prop
  | .active _ seen pending _ =>
      (∀ first, seen.head? = some first →
        Precedes (statusOf first itemId) (statusOf db itemId)) ∧ (seen = [] → pending = [])
  | _ => True

/-- The item is announced as it should be, and no session is ahead of it. -/
structure Orderly (itemId : String) (state : ItemState) : Prop where
  once : PublishedOnce state.db itemId
  follows : ∀ client, Follows itemId state.db (state.session client)

theorem Orderly.put (orderly : Orderly itemId state) (client : ℕ)
    {session : Session KnowledgeDb KnowledgeWrite KnowledgeError (Option String)}
    (follows : Follows itemId state.db session) : Orderly itemId (state.put client session) where
  once := orderly.once
  follows other := by
    by_cases same : other = client
    · subst same
      rw [Workload.State.session_put]
      exact follows
    · simpa [Workload.State.put, same] using orderly.follows other

theorem Follows.later {session : Session KnowledgeDb KnowledgeWrite KnowledgeError (Option String)}
    {next : KnowledgeDb} (follows : Follows itemId db session)
    (precedes : Precedes (statusOf db itemId) (statusOf next itemId)) :
    Follows itemId next session := by
  cases session with
  | active begun seen pending body =>
      exact ⟨fun first head => (follows.1 first head).trans precedes, follows.2⟩
  | _ => trivial

variable (itemId) (contexts) (commands) in
/-- Any number of commands on items, of which one has not been published yet. -/
def draftWorkload : Workload ℕ KnowledgeDb KnowledgeWrite KnowledgeLock KnowledgeError
    (Option String) :=
  itemWorkload (Unpublished itemId) contexts commands

/-- A commit of an orderly state keeps the item announced exactly when it meets the condition. -/
theorem Orderly.commit_iff (orderly : Orderly itemId state)
    (reached : (draftWorkload itemId contexts commands).system.Reachable state) {client : ℕ}
    {begun : KnowledgeDb} {seen : List KnowledgeDb} {pending : List KnowledgeWrite}
    {reply : Option String}
    (finished : state.session client = .active begun seen pending (.done (.ok reply))) :
    PublishedOnce (knowledgeEngine.view state.db pending) itemId ↔
      WritesOver itemId seen pending state.db := by
  have follows := orderly.follows client
  rw [finished] at follows
  exact (writtenBack_of_finished reached finished).publishedOnce_iff orderly.once follows.1

theorem orderly_of_reachable
    (reached : ((draftWorkload itemId contexts commands).system.restrict
      (KeepsStatus itemId)).Reachable state) : Orderly itemId state := by
  refine reached.invariant (Orderly itemId) ?_ ?_
  · rintro start ⟨⟨-, unpublished⟩, -, idle⟩
    refine ⟨unpublished.publishedOnce, fun client => ?_⟩
    rw [idle]
    trivial
  · rintro before label after reached orderly ⟨keeps, move⟩
    cases move with
    | begin ready => exact orderly.put _ ⟨fun first head => (by cases head), fun _ => rfl⟩
    | @statement client begun seen pending writes next running permitted unlocked =>
        have follows := orderly.follows client
        rw [running] at follows
        refine orderly.put _ ⟨?_, by simp⟩
        intro first head
        cases seen with
        | nil =>
            rw [follows.2 rfl] at head
            cases head
            exact .refl _
        | cons earlier rest => exact follows.1 first head
    | @commit client begun seen pending reply finished =>
        have agrees := keeps _ _ _ _ finished
        have wrote := writtenBack_of_finished reached.of_restrict finished
        refine ⟨(orderly.commit_iff reached.of_restrict finished).mpr agrees, fun other => ?_⟩
        have committed : Orderly itemId (before.put client (.committed begun reply)) :=
          orderly.put client trivial
        exact (committed.follows other).later (wrote.precedes agrees)
    | abort running => exact orderly.put _ trivial
    | giveUp aborted => exact orderly.put _ trivial
    | external change => exact change.elim

/-- In every run in which each command that commits a write of the item finds it at the status that
the command has loaded, an item created as a draft is announced at most once, and once if and only
if it is published. The first commit that does not meet the condition breaks this. -/
theorem published_once_iff
    (reached : ((draftWorkload itemId contexts commands).system.restrict
      (KeepsStatus itemId)).Reachable state) :
    PublishedOnce state.db itemId ∧
      ∀ client next, (draftWorkload itemId contexts commands).Step state (.commit client) next →
        (PublishedOnce next.db itemId ↔ KeepsStatus itemId state (.commit client)) := by
  have orderly := orderly_of_reachable reached
  refine ⟨orderly.once, ?_⟩
  intro client next move
  cases move with
  | @commit _ begun seen pending reply finished =>
      refine (orderly.commit_iff reached.of_restrict finished).trans ⟨?_, ?_⟩
      · intro agrees begun' seen' pending' body running
        cases finished.symm.trans running
        exact agrees
      · exact fun keeps => keeps _ _ _ _ finished

/-- Several members publish the document. -/
def publishTwice (_ : ℕ) : KnowledgeCommand := .publish ⟨"item"⟩

theorem unpublished_documentState : Unpublished "item" documentState.db := by
  refine ⟨?_, rfl⟩
  rintro row ⟨⟩
  rfl

theorem initial_documentState (initial : KnowledgeDb → Prop) (start : initial documentState.db)
    (contexts : ℕ → Context) (commands : ℕ → KnowledgeCommand) :
    (itemWorkload initial contexts commands).system.Initial documentState := by
  refine ⟨⟨?_, start⟩, rfl, fun _ => rfl⟩
  intro id row found
  by_cases same : id = "item"
  · subst same
    cases found
    rfl
  · simp [documentState, OrderedMap.get?_set, same] at found

/-- What the publication of the document commits. -/
def publishedWrites : List KnowledgeWrite :=
  [.putItem publishedDocument, .appendOutbox publishedEvent]

/-- One of them publishes it with nobody else around. -/
theorem published_once_alone :
    ∃ state : ItemState, statusOf state.db "item" = some .published ∧
      PublishedOnce state.db "item" := by
  let workload := draftWorkload "item" (fun _ => inOrg) publishTwice
  have start : (workload.system.restrict (KeepsStatus "item")).Reachable documentState :=
    .initial (initial_documentState _ unpublished_documentState _ _)
  have published := Workload.reachable_commit_of start 0 (.inl rfl) (fun _ _ => rfl)
    (.of_all (fun _ _ => trivial) _ _ _)
    (show _ = Except.ok (none, publishedWrites) by decide +kernel) (fun _ => trivial)
    (fun _ => trivial) ?_
  · exact ⟨_, rfl, (published_once_iff published).1⟩
  · intro seen loaded begun seen' pending body running row first _ _ head
    rw [Workload.State.session_put] at running
    cases running
    rw [loaded first head]
    rfl

/-- Two of them find the draft, and both announce it. -/
theorem published_twice :
    ∃ state : ItemState,
      (draftWorkload "item" (fun _ => inOrg) publishTwice).system.Reachable state ∧
      ¬PublishedOnce state.db "item" := by
  let workload := draftWorkload "item" (fun _ => inOrg) publishTwice
  have start : workload.system.Reachable documentState :=
    .initial (initial_documentState _ unpublished_documentState _ _)
  have loaded := Workload.reachable_read start 0 (.inl rfl) rfl trivial rfl
  have once := Workload.reachable_commit loaded 1 (.inl rfl)
    (fun other _ => by rcases other with _ | _ | _ <;> rfl) (.of_all (fun _ _ => trivial) _ _ _)
    (show _ = Except.ok (none, publishedWrites) by decide +kernel)
  have twice := once.leads (Workload.leads_resume workload _ 0 rfl
    (fun other _ => by rcases other with _ | _ | _ <;> rfl) (.of_all (fun _ _ => trivial) _ _ _)
    (show _ = Except.ok (none, publishedWrites) by decide +kernel))
  refine ⟨_, twice, fun published => ?_⟩
  have atMost : 2 ≤ 1 := published.atMost
  omega

/-- The title and the body of an item. -/
def contentOf (db : KnowledgeDb) (itemId : String) : Option (String × String) :=
  (db.items.get? itemId).map fun row => (row.title, row.body)

/-- A commit appends one event, of the item with the title and the body that its row then has. -/
def AnnouncesRow (itemId : String) (before after : KnowledgeDb) : Prop :=
  ∃ event, after.outbox = before.outbox ++ [event] ∧ event.itemId = itemId ∧
    contentOf after itemId = some (event.title, event.body)

/-- The row has the title and the body that the client has loaded. -/
def LoadedContent (itemId : String) (state : ItemState) (client : ℕ) : Prop :=
  ∀ begun seen pending body first, state.session client = .active begun seen pending body →
    seen.head? = some first → contentOf first itemId = contentOf state.db itemId

theorem WroteBack.announcesRow_iff {publish : PublishKnowledgeCommand}
    (wrote : WroteBack context (.publish publish) seen pending db) :
    AnnouncesRow publish.id db (knowledgeEngine.view db pending) ↔
      ∀ first, seen.head? = some first → contentOf first publish.id = contentOf db publish.id := by
  cases wrote with
  | nothing idle => cases idle
  | created creates fresh => cases creates
  | @stored _ first orgId loaded current head found id draft written held org id' =>
      rcases findFirst_iff.mp found with ⟨row, stored, -, -, rfl⟩
      have before : contentOf first publish.id = some (row.title, row.body) :=
        congrArg (Option.map _) stored
      have now : contentOf db publish.id = some (current.title, current.body) :=
        congrArg (Option.map _) held
      rw [view_rowWrites, KnowledgeCommand.stored_id, id']
      have after : contentOf ⟨db.items.set publish.id
          (KnowledgeCommand.stored context row.toKnowledgeItem current (.publish publish)),
          db.revisions ++ [], db.outbox ++ KnowledgeCommand.events row.toKnowledgeItem
            (.publish publish)⟩ publish.id = some (current.title, current.body) := by
        rw [contentOf, OrderedMap.get?_set, if_pos rfl]
        rfl
      constructor
      · rintro ⟨event, appended, -, content⟩ first' head'
        obtain rfl : first = first' := Option.some.inj (head.symm.trans head')
        have same := List.append_cancel_left appended
        cases same
        rw [before, now]
        exact (after.symm.trans content).symm
      · intro loaded
        refine ⟨_, rfl, id, ?_⟩
        exact after.trans (now.symm.trans ((loaded first head).symm.trans before))

/-- In every run, the event that a publication appends carries the title and the body of the row
that it leaves, if and only if the row still has the title and the body that the command loaded. -/
theorem published_snapshot_iff {initial : KnowledgeDb → Prop} {next : ItemState} {client : ℕ}
    {publish : PublishKnowledgeCommand}
    (reached : (itemWorkload initial contexts commands).system.Reachable state)
    (publishes : commands client = .publish publish)
    (commits : (itemWorkload initial contexts commands).Step state (.commit client) next) :
    AnnouncesRow publish.id state.db next.db ↔ LoadedContent publish.id state client := by
  cases commits with
  | @commit _ begun seen pending reply finished =>
      have wrote := writtenBack_of_finished reached finished
      rw [publishes] at wrote
      refine wrote.announcesRow_iff.trans ⟨?_, ?_⟩
      · intro loaded begun' seen' pending' body first running head
        cases finished.symm.trans running
        exact loaded first head
      · exact fun loaded first head => loaded _ _ _ _ first finished head

/-- One member publishes the document with nobody else around. -/
theorem published_snapshot_alone :
    ∃ state next : ItemState,
      (itemWorkload (fun _ => True) (fun _ => inOrg) publishTwice).system.Reachable state ∧
      (itemWorkload (fun _ => True) (fun _ => inOrg) publishTwice).Step state (.commit 0) next ∧
      AnnouncesRow "item" state.db next.db := by
  let workload := itemWorkload (fun _ => True) (fun _ => inOrg) publishTwice
  have start : workload.system.Reachable documentState :=
    .initial (initial_documentState _ trivial _ _)
  have loaded := Workload.reachable_read start 0 (.inl rfl) rfl trivial rfl
  rcases Workload.reachable_finish loaded 0 rfl
    (fun other distinct => by rcases other with _ | _; exacts [absurd rfl distinct, rfl])
    (.of_all (fun _ _ => trivial) _ _ _)
    (show _ = Except.ok (none, publishedWrites) by decide +kernel) with ⟨seen, head, finished⟩
  refine ⟨_, _, finished, .commit (Workload.State.session_put _ 0 _), ?_⟩
  refine (published_snapshot_iff finished rfl (.commit (Workload.State.session_put _ 0 _))).mpr ?_
  intro begun seen' pending body first running head'
  rw [Workload.State.session_put] at running
  cases running
  cases head first head'
  rfl

/-- A member publishes the document while another one edits it. -/
def publishAndEdit (client : ℕ) : KnowledgeCommand :=
  if client = 0 then .publish ⟨"item"⟩ else .update ⟨"item", 1, "Runbook", "second", "editor"⟩

/-- The document after an edit. -/
def editedDocument : KnowledgeItemRow :=
  { document with
    body := "second"
    version := 2
    updatedByUserId := some "editor"
    updatedAt := 1 }

/-- The draft is loaded, the edit commits, and the first body is announced with the second one in
the row. -/
theorem published_outdated :
    ∃ state next : ItemState,
      (itemWorkload (fun _ => True) (fun _ => inOrg) publishAndEdit).system.Reachable state ∧
      (itemWorkload (fun _ => True) (fun _ => inOrg) publishAndEdit).Step state (.commit 0) next ∧
      ¬AnnouncesRow "item" state.db next.db := by
  let workload := itemWorkload (fun _ => True) (fun _ => inOrg) publishAndEdit
  have start : workload.system.Reachable documentState :=
    .initial (initial_documentState _ trivial _ _)
  have loaded := Workload.reachable_read start 0 (.inl rfl) rfl trivial rfl
  have edited := Workload.reachable_commit loaded 1 (.inl rfl)
    (fun other _ => by rcases other with _ | _ | _ <;> rfl) (.of_all (fun _ _ => trivial) _ _ _)
    (show _ = Except.ok (none, [.putItem editedDocument,
      .insertRevision ⟨"revision", "item", 2, "second", "editor", 1⟩]) by decide +kernel)
  rcases Workload.reachable_finish edited 0 rfl
    (fun other distinct => by
      rcases other with _ | _ | _
      exacts [absurd rfl distinct, rfl, rfl])
    (.of_all (fun _ _ => trivial) _ _ _)
    (show _ = Except.ok (none, [.putItem { editedDocument with
      status := .published, updatedByUserId := none }, .appendOutbox publishedEvent]) by
        decide +kernel) with ⟨seen, head, finished⟩
  refine ⟨_, _, finished, .commit (Workload.State.session_put _ 0 _), ?_⟩
  rintro ⟨event, appended, -, content⟩
  have appended : [publishedEvent] = [event] := appended
  cases appended
  have content : some ("Runbook", "second") = some ("Runbook", "first") := content
  simp at content

end Runs

end CoreApi.Knowledge
