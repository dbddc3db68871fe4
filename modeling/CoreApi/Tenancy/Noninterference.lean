import CoreApi.Credit.AskAi
import CoreApi.Tenancy.ConfinedCredit
import CoreApi.Tenancy.ConfinedEngagement
import CoreApi.Tenancy.SoundEngagement
import CoreApi.Tenancy.SoundTenant

/-!
# Tenants do not interfere

In every database that concurrent commands reach, each row is tied to its
organization. So a request of a tenant sees the rows of the tenant only: from two
reachable databases that agree on them it gets the same answer and leaves the
same rows, and it touches the rows of nobody else. To agree is to keep the rows
in the same order, since a listing shows it where its sort keys are equal.
-/

namespace CoreApi

open Credit Engagement Knowledge Tenant

/-- An organization reserves credits under the reservation id. -/
def Draws (commands : ℕ → CoreCommand) (reservationId orgId : String) : Prop :=
  ∃ client stamp reserve, commands client = .credit stamp (.reserveCredits reserve) ∧
    reserve.reservationId = reservationId ∧ reserve.orgId = orgId

/-- Organization ids have no colon, and a reservation id is drawn by one organization. -/
structure Identified (commands : ℕ → CoreCommand) : Prop where
  plain : ∀ client stamp command, commands client = .credit stamp command →
    ':' ∉ command.wallet.1.toList
  once : DrawnOnce (Draws commands)

section Reachable

variable {catalog : PermissionCatalog} {commands : ℕ → CoreCommand}

theorem execute_sound (identified : Identified commands) (client : ℕ) :
    (rowRegistry (Draws commands)).Triple (fun _ => True) ((commands client).execute catalog)
      fun _ _ => True := by
  cases sent : commands client with
  | tenant context command =>
      exact Registry.Triple.map _ (Tenant.execute_sound catalog context command)
  | knowledge context command => exact Registry.Triple.map _ (Knowledge.execute_sound command)
  | engagement context command => exact Registry.Triple.map _ (Engagement.execute_sound command)
  | credit stamp command =>
      refine Registry.Triple.map _ (CreditCommand.execute_sound
        ⟨identified.plain client stamp command sent, ?_⟩)
      rintro reserve rfl
      exact ⟨client, stamp, reserve, sent, rfl, rfl⟩

/-- Every row of a reachable database is tied to its organization. -/
theorem owned_of_reachable (identified : Identified commands)
    {state : Workload.State ℕ CoreDb CoreWrite CoreError CoreReply}
    (reached : (coreWorkload catalog commands).system.Reachable state) :
    Owned (Draws commands) state.db := by
  refine @Registry.inv_of_reachable _ _ _ _ _ _ _ _ _ _ (coreWorkload catalog commands)
    (rowRegistry (Draws commands)) ?_ (fun _ _ => id) (execute_sound identified) _ reached
  rintro db rfl
  exact .empty

end Reachable

/-- A run of `AskAiHandler`: what its commands run with, and the commands of the clients that are
not its own, none of which it dispatches. -/
structure AskAiRequest where
  run : AskAiRun
  stamps : AskAiClient → Stamp
  others : ℕ → CreditCommand

namespace AskAiRequest

/-- One command of the saga, run as a transaction. -/
def dispatch (request : AskAiRequest) (client : AskAiClient) (db : CoreDb) :
    Except CoreError CreditReply × CoreDb :=
  coreEngine.run db ((creditComponent (request.stamps client).createdAt).lift .credit
    ((request.run.commands request.others client).execute (request.stamps client)))

/-- How a run ends: its result or error, and what it has left to be compensated. -/
abbrev Outcome :=
  Saga.Outcome AskAiClient CoreError RagQuery ReleaseDescriptor AskAiError AskAiResult

/-- The saga with nobody else around. -/
def execute (rag : RagQuery → Option RagQueryOutcome) (request : AskAiRequest) (db : CoreDb) :
    Outcome × CoreDb :=
  Saga.alone request.dispatch rag (AskAiHandler.execute request.run) [] db

end AskAiRequest

/-- The commands and the queries of the knowledge, engagement, feed and credit modules. -/
inductive Request where
  | knowledge (context : Context) (command : KnowledgeCommand)
  | engagement (context : Context) (command : EngagementCommand)
  | credit (stamp : Stamp) (command : CreditCommand)
  | askAi (request : AskAiRequest)
  | query (query : CoreQuery)

/-- What a request is answered with. -/
inductive Response where
  | knowledge (result : Except CoreError (Option String))
  | engagement (result : Except CoreError Unit)
  | credit (result : Except CoreError CreditReply)
  | askAi (outcome : AskAiRequest.Outcome)
  | query (result : Except QueryError CoreAnswer)

/-- A request with nobody else around: its answer, and the database it leaves. -/
def Request.run (rag : RagQuery → Option RagQueryOutcome) (db : CoreDb) :
    Request → Response × CoreDb
  | .knowledge context command =>
      (coreEngine.run db (knowledgeComponent.lift CoreError.knowledge
        (command.execute context))).map .knowledge id
  | .engagement context command =>
      (coreEngine.run db (command.execute context)).map .engagement id
  | .credit stamp command =>
      (coreEngine.run db ((creditComponent stamp.createdAt).lift CoreError.credit
        (command.execute stamp))).map .credit id
  | .askAi request => (request.execute rag db).map .askAi id
  | .query asked => (.query (asked.execute db), db)

/-- A request of a verified tenant. The ids it draws are of nobody else. -/
def Request.Of (orgId : String) (commands : ℕ → CoreCommand) (db : CoreDb) : Request → Prop
  | .knowledge context command => context.tenantId = some orgId ∧ command.Of orgId db context
  | .engagement context _ => context.tenantId = some orgId
  | .credit _ command => command.wallet.1 = orgId
  | .askAi request => request.run.command.orgId = orgId ∧
      ∀ other, Draws commands request.run.reservationId other → other = orgId
  | .query asked => asked.orgId = orgId

section Runs

variable {drawn drawn' : String → String → Prop} {orgId : String} {db db' : CoreDb} {Value : Type}
  {body : CoreTx Value}

/-- What a request may do to two databases: nothing that tells them apart, and nothing to others. -/
structure Apart (orgId : String) (db db' next next' : CoreDb) : Prop where
  same : next.rowsOf orgId = next'.rowsOf orgId
  others : ∀ other, other ≠ orgId →
    next.rowsOf other = db.rowsOf other ∧ next'.rowsOf other = db'.rowsOf other

/-- A body that is confined to the tenant. -/
theorem apart_of_confined (twins : Twins drawn drawn' orgId db db')
    (confined : coreEngine.Confined (WithinBoth orgId db db') db db' [] body) :
    (coreEngine.run db body).1 = (coreEngine.run db' body).1 ∧
      Apart orgId db db' (coreEngine.run db body).2 (coreEngine.run db' body).2 := by
  rcases confined.run_cases with ⟨error, ran, ran'⟩ | ⟨value, writes, ran, ran', within⟩
  · rw [ran, ran']
    exact ⟨rfl, twins.same, fun _ _ => ⟨rfl, rfl⟩⟩
  · rw [ran, ran']
    have first := rowsOf_view (fun write member => (within write member).1) twins.first.archived
    have second := rowsOf_view (fun write member => (within write member).2) twins.second.archived
    refine ⟨rfl, ?_, fun other distinct => ⟨first.2 other distinct, second.2 other distinct⟩⟩
    rw [first.1, second.1, twins.same]

theorem credit_apart (twins : Twins drawn drawn' orgId db db') (once : DrawnOnce drawn)
    (once' : DrawnOnce drawn') (plain : ':' ∉ orgId.toList) (stamp : Stamp)
    {command : CreditCommand} (own : command.wallet.1 = orgId) :
    let lifted : CoreTx CreditReply :=
      (creditComponent stamp.createdAt).lift CoreError.credit (command.execute stamp)
    (coreEngine.run db lifted).1 = (coreEngine.run db' lifted).1 ∧
      Apart orgId db db' (coreEngine.run db lifted).2 (coreEngine.run db' lifted).2 :=
  apart_of_confined twins (Component.confined _
    (CreditCommand.execute_confined twins once once' plain own))

/-- A sound body leaves every row tied to its organization. -/
theorem owned_of_sound (owned : Owned drawn db)
    (sound : (rowRegistry drawn).Triple (fun _ => True) body fun _ _ => True) :
    Owned drawn (coreEngine.run db body).2 := by
  simp only [Engine.run]
  cases ran : coreEngine.aloneFrom db [] body with
  | error error => exact owned
  | ok answer => exact ((sound.alone owned trivial ran).1.inv owned :)

/-- More may be drawn than is. -/
theorem Owned.weaken {more : String → String → Prop} (owned : Owned drawn db)
    (draws : ∀ reservationId orgId, drawn reservationId orgId → more reservationId orgId) :
    Owned more db :=
  { owned with
    creditEvents := fun row member =>
      ⟨(owned.creditEvents row member).aggregateId, (owned.creditEvents row member).plain,
        fun id named => draws _ _ ((owned.creditEvents row member).reservation id named)⟩
    aiQueries := owned.aiQueries.mono fun _ _ => draws _ _ }

end Runs

namespace AskAiRequest

variable {request : AskAiRequest} {drawn drawn' : String → String → Prop} {orgId : String}
  {db db' : CoreDb}

/-- The clients of the saga itself. -/
def Own (client : AskAiClient) : Prop := ∀ index, client ≠ .other index

/-- Who has drawn a reservation once the saga draws its own. -/
def WithDrawn (drawn : String → String → Prop) (request : AskAiRequest)
    (reservationId orgId : String) : Prop :=
  drawn reservationId orgId ∨
    reservationId = request.run.reservationId ∧ orgId = request.run.command.orgId

theorem withDrawn_once (once : DrawnOnce drawn)
    (fresh : ∀ other, drawn request.run.reservationId other → other = request.run.command.orgId) :
    DrawnOnce (request.WithDrawn drawn) := by
  rintro reservationId orgId other (first | ⟨rfl, rfl⟩) (second | ⟨same, rfl⟩)
  · exact once _ _ _ first second
  · exact fresh _ (same ▸ first)
  · exact (fresh _ second).symm
  · rfl

/-- The commands of the saga are about its own wallet and its own reservation. -/
theorem command_of_own {client : AskAiClient} (own : Own client) :
    (request.run.commands request.others client).wallet.1 = request.run.command.orgId ∧
      ∀ reserve, request.run.commands request.others client = .reserveCredits reserve →
        request.WithDrawn drawn reserve.reservationId reserve.orgId := by
  cases client with
  | reserve =>
      refine ⟨rfl, ?_⟩
      rintro _ ⟨⟩
      exact .inr ⟨rfl, rfl⟩
  | commit answer sources => exact ⟨rfl, by rintro _ ⟨⟩⟩
  | release reason => exact ⟨rfl, by rintro _ ⟨⟩⟩
  | other index => exact absurd rfl (own index)

theorem owned_dispatch (owned : Owned (request.WithDrawn drawn) db)
    (plain : ':' ∉ request.run.command.orgId.toList) {client : AskAiClient} (own : Own client) :
    Owned (request.WithDrawn drawn) (request.dispatch client db).2 := by
  have command := @command_of_own request drawn client own
  exact owned_of_sound owned
    (CreditCommand.execute_sound ⟨command.1.symm ▸ plain, command.2⟩)

/-- The saga dispatches and compensates with clients of its own. -/
theorem uses_own (request : AskAiRequest) : Saga.Uses Own (AskAiHandler.execute request.run) := by
  refine ⟨by rintro _ ⟨⟩, fun _ => ⟨by rintro _ ⟨⟩, fun rag => ?_⟩⟩
  cases rag with
  | answered summary sources chunks => exact ⟨by rintro _ ⟨⟩, fun _ => trivial⟩
  | noResults => exact ⟨by rintro _ ⟨⟩, fun _ => trivial⟩
  | aiUnavailable chunks => exact trivial

/-- The whole saga is confined to its tenant. -/
theorem apart_of_execute (rag : RagQuery → Option RagQueryOutcome)
    (twins : Twins drawn drawn' orgId db db') (once : DrawnOnce drawn) (once' : DrawnOnce drawn')
    (plain : ':' ∉ orgId.toList) (own : request.run.command.orgId = orgId)
    (fresh : ∀ other, drawn request.run.reservationId other → other = orgId)
    (fresh' : ∀ other, drawn' request.run.reservationId other → other = orgId) :
    (request.execute rag db).1 = (request.execute rag db').1 ∧
      Apart orgId db db' (request.execute rag db).2 (request.execute rag db').2 := by
  subst own
  have once := withDrawn_once once fresh
  have once' := withDrawn_once once' fresh'
  let Rel (next next' : CoreDb) : Prop :=
    Twins (request.WithDrawn drawn) (request.WithDrawn drawn') request.run.command.orgId next
      next' ∧ Apart request.run.command.orgId db db' next next'
  have step : ∀ client, Own client → ∀ next next', Rel next next' →
      (request.dispatch client next).1 = (request.dispatch client next').1 ∧
        Rel (request.dispatch client next).2 (request.dispatch client next').2 := by
    rintro client own next next' ⟨twins, apart⟩
    have command := @command_of_own request drawn client own
    have confined := credit_apart twins once once' plain (request.stamps client) command.1
    refine ⟨confined.1, ⟨owned_dispatch twins.first plain own,
      owned_dispatch twins.second plain own, confined.2.same⟩, confined.2.same,
      fun other distinct => ?_⟩
    rcases confined.2.others other distinct with ⟨first, second⟩
    rcases apart.others other distinct with ⟨before, before'⟩
    exact ⟨first.trans before, second.trans before'⟩
  have start : Rel db db' := by
    refine ⟨⟨twins.first.weaken fun _ _ => .inl, twins.second.weaken fun _ _ => .inl, twins.same⟩,
      twins.same, fun _ _ => ⟨rfl, rfl⟩⟩
  have none : ∀ entry ∈ ([] : List (ReleaseDescriptor × AskAiClient)), Own entry.2 := by simp
  have related := @Saga.alone_related _ _ _ _ _ _ _ _ _ request.dispatch rag _ _ step _
    request.uses_own [] none db db' start
  exact ⟨related.1, related.2.2⟩

end AskAiRequest

/-- Tenant noninterference: from two reachable databases with the same rows of an organization in
the same order, a request of that organization gets the same answer and leaves the same rows, and it
leaves the rows of every other organization as they were. -/
theorem tenant_noninterference {catalog catalog' : PermissionCatalog}
    {commands commands' : ℕ → CoreCommand} (identified : Identified commands)
    (identified' : Identified commands')
    {state state' : Workload.State ℕ CoreDb CoreWrite CoreError CoreReply}
    (reached : (coreWorkload catalog commands).system.Reachable state)
    (reached' : (coreWorkload catalog' commands').system.Reachable state') {orgId : String}
    (plain : ':' ∉ orgId.toList) (agree : state.db.rowsOf orgId = state'.db.rowsOf orgId)
    {request : Request} (own : request.Of orgId commands state.db)
    (own' : request.Of orgId commands' state'.db) (rag : RagQuery → Option RagQueryOutcome) :
    (request.run rag state.db).1 = (request.run rag state'.db).1 ∧
      (request.run rag state.db).2.rowsOf orgId = (request.run rag state'.db).2.rowsOf orgId ∧
      ∀ other, other ≠ orgId →
        (request.run rag state.db).2.rowsOf other = state.db.rowsOf other ∧
          (request.run rag state'.db).2.rowsOf other = state'.db.rowsOf other := by
  have twins : Twins (Draws commands) (Draws commands') orgId state.db state'.db :=
    ⟨owned_of_reachable identified reached, owned_of_reachable identified' reached', agree⟩
  cases request with
  | knowledge context command =>
      have confined : coreEngine.Confined (WithinBoth orgId state.db state'.db) state.db state'.db
          [] (knowledgeComponent.lift CoreError.knowledge (command.execute context)) :=
        Component.confined _ (Knowledge.execute_confined twins own.1 command own.2 own'.2)
      have apart := apart_of_confined twins confined
      exact ⟨congrArg Response.knowledge apart.1, apart.2.same, apart.2.others⟩
  | engagement context command =>
      have apart := apart_of_confined twins (Engagement.execute_confined twins own command)
      exact ⟨congrArg Response.engagement apart.1, apart.2.same, apart.2.others⟩
  | credit stamp command =>
      have apart := credit_apart twins identified.once identified'.once plain stamp own
      exact ⟨congrArg Response.credit apart.1, apart.2.same, apart.2.others⟩
  | askAi ask =>
      have apart := AskAiRequest.apart_of_execute rag twins identified.once identified'.once plain
        own.1 own.2 own'.2
      exact ⟨congrArg Response.askAi apart.1, apart.2.same, apart.2.others⟩
  | query query =>
      have own : query.orgId = orgId := own
      subst own
      exact ⟨congrArg Response.query (query.execute_congr agree), agree, fun _ _ => ⟨rfl, rfl⟩⟩

/-- The same rows, in whatever order the tables keep them. -/
structure OrgRows.SameRows (rows other : OrgRows) : Prop where
  memberships : rows.memberships.Perm other.memberships
  spaces : rows.spaces.Perm other.spaces
  items : rows.items.Perm other.items
  revisions : rows.revisions.Perm other.revisions
  votes : rows.votes.Perm other.votes
  bookmarks : rows.bookmarks.Perm other.bookmarks
  follows : rows.follows.Perm other.follows
  creditEvents : rows.creditEvents.Perm other.creditEvents
  aiQueries : rows.aiQueries.Perm other.aiQueries

/-- Two items of one organization are created at the same time. -/
def tiedItems (client : ℕ) : CoreCommand :=
  .knowledge ⟨some "a", if client = 0 then "item" else "other", 0, 0⟩
    (.create ⟨"a", "space", .question, "title", "body", none, "user"⟩)

theorem identified_tiedItems : Identified tiedItems where
  plain client stamp command sent := by cases sent
  once := by
    rintro reservationId orgId other ⟨client, stamp, reserve, sent, -⟩
    cases sent

/-- Two databases hold the same rows of an organization, which lists its items: those that were
updated at the same time come in the order in which the table keeps them. -/
theorem tied_rows_tell_apart :
    ∃ state state' : Workload.State ℕ CoreDb CoreWrite CoreError CoreReply,
      let catalog : PermissionCatalog := ⟨fun _ => "", [], fun _ => false⟩
      let list : Request := .query (.listKnowledgeItems "a" ⟨none, none, none⟩ 50 0)
      let rag : RagQuery → Option RagQueryOutcome := fun _ => none
      Identified tiedItems ∧ (coreWorkload catalog tiedItems).system.Reachable state ∧
        (coreWorkload catalog tiedItems).system.Reachable state' ∧
        (state.db.rowsOf "a").SameRows (state'.db.rowsOf "a") ∧
        list.Of "a" tiedItems state.db ∧ list.Of "a" tiedItems state'.db ∧
        (list.run rag state.db).1 ≠ (list.run rag state'.db).1 := by
  let catalog : PermissionCatalog := ⟨fun _ => "", [], fun _ => false⟩
  let start : Workload.State ℕ CoreDb CoreWrite CoreError CoreReply := ⟨.empty, [], fun _ => .idle⟩
  have reached : (coreWorkload catalog tiedItems).system.Reachable start :=
    .initial ⟨rfl, rfl, fun _ => rfl⟩
  let row (id : String) : KnowledgeItemRow :=
    { KnowledgeItem.create id 0 "a" "space" .question "title" "body" none "user" with
      createdAt := 0
      updatedAt := 0
      contentHash := none }
  have first := Workload.reachable_commit reached 0 (.inl rfl) (fun _ _ => rfl)
    (.of_all (fun _ _ => trivial) _ _ _) (show _ = Except.ok (.knowledge (some "item"),
      [.knowledge (.putItem (row "item"))]) by decide +kernel)
  have both := Workload.reachable_commit first 1 (.inl rfl)
    (fun other _ => by rcases other with _ | _ <;> rfl)
    (.of_all (fun _ _ => trivial) _ _ _) (show _ = Except.ok (.knowledge (some "other"),
      [.knowledge (.putItem (row "other"))]) by decide +kernel)
  have first' := Workload.reachable_commit reached 1 (.inl rfl) (fun _ _ => rfl)
    (.of_all (fun _ _ => trivial) _ _ _) (show _ = Except.ok (.knowledge (some "other"),
      [.knowledge (.putItem (row "other"))]) by decide +kernel)
  have both' := Workload.reachable_commit first' 0 (.inl rfl)
    (fun other _ => by rcases other with _ | _ | _ <;> rfl)
    (.of_all (fun _ _ => trivial) _ _ _) (show _ = Except.ok (.knowledge (some "item"),
      [.knowledge (.putItem (row "item"))]) by decide +kernel)
  refine ⟨_, _, identified_tiedItems, both, both', ?_, rfl, rfl, ?_⟩
  · constructor <;> decide +kernel
  · intro same
    have answers := Response.query.inj same
    revert answers
    decide +kernel

/-- An item of one organization is created, then one of another. -/
def itemOfEach : ℕ → CoreCommand
  | 0 => .knowledge ⟨some "a", "item", 0, 0⟩
      (.create ⟨"a", "space", .question, "title", "body", none, "user"⟩)
  | _ => .knowledge ⟨some "b", "other", 0, 0⟩
      (.create ⟨"b", "space", .question, "title", "body", none, "user"⟩)

theorem identified_itemOfEach : Identified itemOfEach where
  plain client stamp command sent := by rcases client with _ | _ <;> cases sent
  once := by
    rintro reservationId orgId other ⟨client, stamp, reserve, sent, -⟩
    rcases client with _ | _ <;> cases sent

/-- A vote of the first organization does not notice the item of the second. -/
theorem tenant_noninterference_vote :
    ∃ state state' : Workload.State ℕ CoreDb CoreWrite CoreError CoreReply,
      let vote : Request := .engagement ⟨some "a", "vote", 1, 1⟩ (.castVote ⟨"item", "user", 1⟩)
      let rag : RagQuery → Option RagQueryOutcome := fun _ => none
      state.db.rowsOf "b" ≠ state'.db.rowsOf "b" ∧
        ((vote.run rag state.db).2.rowsOf "a").votes.length = 1 ∧
        (vote.run rag state.db).1 = (vote.run rag state'.db).1 ∧
        (vote.run rag state.db).2.rowsOf "a" = (vote.run rag state'.db).2.rowsOf "a" ∧
        ∀ other, other ≠ "a" →
          (vote.run rag state.db).2.rowsOf other = state.db.rowsOf other ∧
            (vote.run rag state'.db).2.rowsOf other = state'.db.rowsOf other := by
  let catalog : PermissionCatalog := ⟨fun _ => "", [], fun _ => false⟩
  let start : Workload.State ℕ CoreDb CoreWrite CoreError CoreReply := ⟨.empty, [], fun _ => .idle⟩
  have reached : (coreWorkload catalog itemOfEach).system.Reachable start :=
    .initial ⟨rfl, rfl, fun _ => rfl⟩
  let row (id orgId : String) : KnowledgeItemRow :=
    { KnowledgeItem.create id 0 orgId "space" .question "title" "body" none "user" with
      createdAt := 0
      updatedAt := 0
      contentHash := none }
  have reached := Workload.reachable_commit reached 0 (.inl rfl) (fun _ _ => rfl)
    (.of_all (fun _ _ => trivial) _ _ _) (show _ = Except.ok (.knowledge (some "item"),
      [.knowledge (.putItem (row "item" "a"))]) by decide +kernel)
  have reached' := Workload.reachable_commit reached 1 (.inl rfl)
    (fun other _ => by rcases other with _ | _ <;> rfl)
    (.of_all (fun _ _ => trivial) _ _ _) (show _ = Except.ok (.knowledge (some "other"),
      [.knowledge (.putItem (row "other" "b"))]) by decide +kernel)
  have own : ∀ db, (Request.engagement ⟨some "a", "vote", 1, 1⟩
      (.castVote ⟨"item", "user", 1⟩)).Of "a" itemOfEach db := fun _ => rfl
  exact ⟨_, _, by decide +kernel, by decide +kernel,
    tenant_noninterference identified_itemOfEach identified_itemOfEach reached reached'
      (by decide +kernel) (by decide +kernel) (own _) (own _) _⟩

end CoreApi
