import CoreApi.Credit.Announcements
import CoreApi.Foundation.Handover
import CoreApi.Outbox.Delivery
import CoreApi.Repos.Refinement

/-!
# From a commit to the broker

The modules append their events to one outbox in the transactions that change their
tables, and the publishers take them from there. So the broker hears of what was
committed, of all of it and of nothing else: a message about a wallet tells a row of
its ledger, and every announced row has its message.
-/

namespace CoreApi

open Credit Engagement Knowledge Outbox Tenant

/-- The events of the modules. -/
inductive CoreEvent where
  | knowledge (event : KnowledgePublishedEvent)
  | follow (event : FollowEvent)
  | credit (event : CreditOutboxEvent)

namespace CoreEvent

def knowledge? : CoreEvent → Option KnowledgePublishedEvent
  | .knowledge event => some event
  | _ => none

def follow? : CoreEvent → Option FollowEvent
  | .follow event => some event
  | _ => none

def credit? : CoreEvent → Option CreditOutboxEvent
  | .credit event => some event
  | _ => none

theorem credit?_eq_some {event : CoreEvent} {credit : CreditOutboxEvent} :
    event.credit? = some credit ↔ event = .credit credit := by
  cases event <;> simp [credit?]

end CoreEvent

/-- The event a write appends. -/
def CoreWrite.event? : CoreWrite → Option CoreEvent
  | .knowledge (.appendOutbox event) => some (.knowledge event)
  | .engagement (.appendOutbox event) => some (.follow event)
  | .credit _ (.appendOutbox event) => some (.credit event)
  | _ => none

namespace Outbox

/-- What was appended, without what the database filled in. -/
def OutboxEvent.input (event : OutboxEvent) : OutboxAppendInput where
  aggregateType := event.aggregateType
  aggregateId := event.aggregateId
  eventType := event.eventType
  orgId := event.orgId
  payload := event.payload

/-- The row of an appended event arrives in the table. -/
def Appends (input : OutboxAppendInput) (state next : OutboxState) : Prop :=
  ∃ id createdAt traceparent, (∀ event ∈ state.appended, event.id ≠ id) ∧
    next = { state with
      rows := state.rows ++ [PrismaOutboxWriter.append id createdAt traceparent input]
      appended := state.appended ++
        [(PrismaOutboxWriter.append id createdAt traceparent input).toOutboxEvent] }

variable {state next : OutboxState} {label : OutboxLabel} {maxAttempts batchSize : ℕ}

theorem appended_of_step (move : (outbox maxAttempts batchSize).Step state label next) :
    next.appended = state.appended ∨
      label = .append ∧ next.appended.length = state.appended.length + 1 := by
  cases move with
  | append fresh => exact .inr ⟨rfl, List.length_append⟩
  | _ => exact .inl rfl

theorem appended_length_le (leads : (outbox maxAttempts batchSize).Leads state next) :
    state.appended.length ≤ next.appended.length := by
  induction leads with
  | refl => exact le_rfl
  | tail _ move ih =>
      rcases move with ⟨label, move⟩
      rcases appended_of_step move with same | ⟨-, more⟩
      · rwa [same]
      · omega

/-- A run that appends nothing is one of the publishers, the reaper and the cleanup alone. -/
theorem leads_without_append (leads : (outbox maxAttempts batchSize).Leads state next)
    (same : next.appended = state.appended) :
    ((outbox maxAttempts batchSize).restrict fun _ label => ¬label = .append).Leads state next := by
  induction leads using Relation.ReflTransGen.head_induction_on with
  | refl => exact .refl
  | @head first middle move rest ih =>
      rcases move with ⟨label, move⟩
      have later := appended_length_le rest
      rw [same] at later
      rcases appended_of_step move with kept | ⟨-, more⟩
      · have own : label ≠ .append := by
          rintro rfl
          cases move
          simp at kept
        exact .head ⟨label, own, move⟩ (ih (same.trans kept.symm))
      · omega

end Outbox

variable (catalog : PermissionCatalog) (commands : ℕ → CoreCommand)
  (create : CoreEvent → OutboxAppendInput) (maxAttempts batchSize : ℕ)

/-- The commands of all modules with the outbox and its publishers. -/
def coreOutbox : Handover (coreWorkload catalog commands) (outbox maxAttempts batchSize)
    CoreEvent where
  message? := CoreWrite.event?
  arrives event := Appends (create event)
  arrival label := label = .append
  arrives_step event state next appends := by
    rcases appends with ⟨id, createdAt, traceparent, fresh, rfl⟩
    exact ⟨.append, rfl, OutboxStep.append fresh⟩

section Runs

variable {catalog commands create maxAttempts batchSize}
  {state : Handover.State ℕ CoreDb CoreWrite CoreError CoreReply OutboxState CoreEvent}

/-- The tables of the modules keep every event that was handed over, in order. -/
theorem handed_of_reachable
    (reached : (coreOutbox catalog commands create maxAttempts batchSize).system.Reachable state) :
    state.base.db.knowledge.outbox = state.handed.filterMap CoreEvent.knowledge? ∧
      state.base.db.engagement.outbox = state.handed.filterMap CoreEvent.follow? ∧
      state.base.db.creditOutbox = state.handed.filterMap CoreEvent.credit? := by
  have started : ∀ db, (coreWorkload catalog commands).initial db → db = .empty := fun _ => id
  refine ⟨?_, ?_, ?_⟩
  · refine Handover.table_of_reachable (fun db => db.knowledge.outbox) CoreEvent.knowledge?
      (fun db start => by rw [started db start]; rfl) (fun _ _ => False.elim) (fun db write => ?_)
      reached
    rcases write with write | write | write | ⟨now, write⟩ <;> cases write <;>
      simp [coreWorkload, coreEngine, knowledgeEngine, coreOutbox, CoreWrite.event?,
        CoreEvent.knowledge?, CoreDb.upsertAiQuery]
  · refine Handover.table_of_reachable (fun db => db.engagement.outbox) CoreEvent.follow?
      (fun db start => by rw [started db start]; rfl) (fun _ _ => False.elim) (fun db write => ?_)
      reached
    rcases write with write | write | write | ⟨now, write⟩ <;> cases write <;>
      simp [coreWorkload, coreEngine, engagementEngine, coreOutbox, CoreWrite.event?,
        CoreEvent.follow?, CoreDb.upsertAiQuery]
  · refine Handover.table_of_reachable CoreDb.creditOutbox CoreEvent.credit?
      (fun db start => by rw [started db start]; rfl) (fun _ _ => False.elim) (fun db write => ?_)
      reached
    rcases write with write | write | write | ⟨now, write⟩ <;> cases write <;>
      simp [coreWorkload, coreEngine, coreOutbox, CoreWrite.event?, CoreEvent.credit?,
        CoreDb.upsertAiQuery]

/-- The outbox has taken what was handed over. -/
theorem appended_of_reachable
    (reached : (coreOutbox catalog commands create maxAttempts batchSize).system.Reachable state) :
    state.store.appended.map OutboxEvent.input = state.handed.map create := by
  refine Handover.contents_of_reachable (fun store => store.appended.map OutboxEvent.input) create
    ?_ ?_ ?_ reached
  · rintro store ⟨-, empty, -⟩
    rw [empty]
    rfl
  · rintro event store next ⟨id, createdAt, traceparent, -, rfl⟩
    exact List.map_append
  · intro store label next move own
    rcases appended_of_step move with same | ⟨append, -⟩
    · rw [same]
    · exact absurd append own

/-- The outbox is transactional. It holds the events of the committed commands, in the order of
the commits; nothing else reaches the broker, and what has not is kept and, unless it is
dead-lettered, can be delivered from then on, whatever has happened. -/
theorem outbox_transactional (positive : 0 < batchSize)
    (reached : (coreOutbox catalog commands create maxAttempts batchSize).system.Reachable state) :
    (coreWorkload catalog commands).system.Reachable state.base ∧
    state.base.db.knowledge.outbox = state.handed.filterMap CoreEvent.knowledge? ∧
    state.base.db.engagement.outbox = state.handed.filterMap CoreEvent.follow? ∧
    state.base.db.creditOutbox = state.handed.filterMap CoreEvent.credit? ∧
    state.store.appended.map OutboxEvent.input = state.handed.map create ∧
    state.store.published ⊆ state.store.appended ∧
    (∀ message ∈ state.store.appended, message ∉ state.store.published →
      ∃ row ∈ state.store.rows, row.toOutboxEvent = message ∧ row.status ≠ .processed) ∧
    ∃ later, (coreOutbox catalog commands create maxAttempts batchSize).system.Leads state
        { state with store := later } ∧
      ∀ message ∈ state.store.appended, message ∈ later.published ∨
        ∃ row ∈ state.store.rows, row.toOutboxEvent = message ∧ row.status = .failedDlq := by
  have handed := handed_of_reachable reached
  have store := Handover.store_reachable reached
  have custody := (delivers_of_reachable store).custody
  rcases leads_delivered store positive with ⟨later, leads, same, delivered⟩
  exact ⟨Handover.base_reachable reached, handed.1, handed.2.1, handed.2.2,
    appended_of_reachable reached, custody.known, fun _ => custody.held, later,
    Handover.leads_of_relay (leads_without_append leads same), delivered⟩

/-- In the service, too, the outbox tells of the rows of the ledger. -/
theorem creditOutbox_told (reached : (coreWorkload catalog commands).system.Reachable state.base) :
    (∀ credit ∈ state.base.db.creditOutbox, ∃ row ∈ state.base.db.creditEvents,
      Announces state.base.db.credit row credit) ∧
    ∀ row ∈ state.base.db.creditEvents, row.isAnnounced →
      ∃ credit ∈ state.base.db.creditOutbox, Announces state.base.db.credit row credit := by
  rcases (creditProjection catalog commands).exists_shows reached with ⟨shown, reached', shows⟩
  have told := told_of_reachable reached'
  rw [shows.db] at told
  exact ⟨fun _ => told.exists_row, fun _ => told.exists_event⟩

/-- A message is that of an event that was handed over, which tells a row of the ledger if it is
about a wallet, and an announced row has its message. -/
theorem ledger_announced
    (reached : (coreOutbox catalog commands create maxAttempts batchSize).system.Reachable state) :
    (∀ message ∈ state.store.published, ∃ event ∈ state.handed, message.input = create event ∧
      ∀ credit, event = .credit credit → ∃ row ∈ state.base.db.creditEvents,
        Announces state.base.db.credit row credit) ∧
    ∀ row ∈ state.base.db.creditEvents, row.isAnnounced →
      ∃ credit, Announces state.base.db.credit row credit ∧
        ∃ message ∈ state.store.appended, message.input = create (.credit credit) ∧
          (message ∉ state.store.published → ∃ stored ∈ state.store.rows,
            stored.toOutboxEvent = message ∧ stored.status ≠ .processed) := by
  have handed := (handed_of_reachable reached).2.2
  have appended := appended_of_reachable reached
  have custody := (delivers_of_reachable (Handover.store_reachable reached)).custody
  have told := creditOutbox_told (Handover.base_reachable reached)
  constructor
  · intro message published
    have member : message.input ∈ state.store.appended.map OutboxEvent.input :=
      List.mem_map_of_mem (custody.known _ published)
    rw [appended] at member
    rcases List.mem_map.mp member with ⟨event, among, same⟩
    refine ⟨event, among, same.symm, fun credit is => told.1 credit ?_⟩
    rw [handed, List.mem_filterMap]
    exact ⟨event, among, CoreEvent.credit?_eq_some.mpr is⟩
  · intro row stored announced
    rcases told.2 row stored announced with ⟨credit, among, announces⟩
    rw [handed, List.mem_filterMap] at among
    rcases among with ⟨event, among, is⟩
    cases CoreEvent.credit?_eq_some.mp is
    have member : create (.credit credit) ∈ state.handed.map create := List.mem_map_of_mem among
    rw [← appended] at member
    rcases List.mem_map.mp member with ⟨message, among, same⟩
    exact ⟨credit, announces, message, among, same, custody.held among⟩

end Runs

section Witness

/-- An organization is created, and its owner is granted credits. -/
def granting : ℕ → CoreCommand
  | 0 => .tenant acmeCreated.1 acmeCreated.2
  | _ => .credit ⟨0, ""⟩ (.grantCredits ⟨"org-1", "alice", .finite 5, "welcome"⟩)

/-- The number as JavaScript prints it; amounts and balances are integers. -/
def integerJson (value : ℚ) : Json :=
  let text := (toString value.num).toList
  if printed : text ≠ [] ∧ text.all fun char => char ∈ "0123456789+-.e".toList then
    .number ⟨text, printed.1, printed.2⟩
  else .null

/-- The event of a grant. -/
def createAwarded : CoreEvent → OutboxAppendInput
  | .credit (.creditAwarded aggregateId orgId userId (.finite amount) reason balance) =>
      { aggregateType := "CreditAccount"
        aggregateId := aggregateId
        eventType := "CreditAwarded"
        orgId := orgId
        payload := .object [("userId", .string userId), ("amount", integerJson amount),
          ("reason", .string reason), ("balance", integerJson balance)] }
  | _ => ⟨"", "", "", "", .null⟩

/-- The event of the grant. -/
def awarded : CreditOutboxEvent :=
  .creditAwarded "org-1:alice" "org-1" "alice" (.finite 5) "welcome" 5

/-- What the grant commits. -/
def grantWrites : List CoreWrite :=
  [.credit 0 (.insertCreditEvent
    ⟨"org-1:alice", "org-1", "alice", "CreditGranted", 1, ⟨5, "welcome", none⟩, 0⟩),
    .credit 0 (.appendOutbox awarded)]

/-- The grant has committed, and no publisher has run yet. -/
theorem reachable_granted : ∃ state : Handover.State ℕ CoreDb CoreWrite CoreError CoreReply
      OutboxState CoreEvent,
    (coreOutbox namedCatalog granting createAwarded 5 50).system.Reachable state ∧
      (∃ row ∈ state.base.db.creditEvents, row.isAnnounced) ∧
      state.store.appended.map OutboxEvent.input = [createAwarded (.credit awarded)] ∧
      state.store.published = [] ∧ ∀ row ∈ state.store.rows, row.status = .pending := by
  have start : (coreOutbox namedCatalog granting createAwarded 5 50).system.Reachable
      ⟨⟨.empty, [], fun _ => .idle⟩, ⟨[], fun _ => .publishing [], [], []⟩, []⟩ :=
    .initial ⟨⟨rfl, rfl, fun _ => rfl⟩, ⟨rfl, rfl, rfl, fun _ => rfl⟩, rfl⟩
  have created := Handover.reachable_commit start 0 (.inl rfl) (fun _ _ => rfl)
    (.of_all (fun _ _ => trivial) _ _ _)
    (show _ = Except.ok (CoreReply.tenant (.id "org-1"), acmeWrites.map CoreWrite.tenant) by
      decide +kernel) (.nil _)
  have granted := Handover.reachable_commit created 1 (.inl rfl)
    (fun other _ => by rcases other with _ | other <;> rfl) (.of_all (fun _ _ => trivial) _ _ _)
    (show _ = Except.ok (CoreReply.credit (.grantCredits 5), grantWrites) by decide +kernel)
    (.cons ⟨"1", 0, none, fun _ => nofun, rfl⟩ (.nil _))
  refine ⟨_, granted, ?_, rfl, rfl, ?_⟩
  · exact ⟨_, List.mem_singleton_self _, by decide⟩
  · intro row stored
    cases List.mem_singleton.mp stored
    rfl

theorem outbox_transactional_granted :
    ∃ state later, (coreOutbox namedCatalog granting createAwarded 5 50).system.Leads state
      { state with store := later } ∧ state.store.published = [] ∧
        ∃ message ∈ later.published, message.input = createAwarded (.credit awarded) := by
  rcases reachable_granted with ⟨state, reached, -, appended, published, pending⟩
  rcases (outbox_transactional (by decide) reached).2.2.2.2.2.2.2 with ⟨later, leads, delivered⟩
  have member : createAwarded (.credit awarded) ∈ state.store.appended.map OutboxEvent.input := by
    rw [appended]
    exact List.mem_singleton_self _
  rcases List.mem_map.mp member with ⟨message, among, same⟩
  refine ⟨state, later, leads, published, message, ?_, same⟩
  rcases delivered message among with published | ⟨row, stored, -, dead⟩
  · exact published
  · cases (pending row stored).symm.trans dead

theorem ledger_announced_granted :
    ∃ state : Handover.State ℕ CoreDb CoreWrite CoreError CoreReply OutboxState CoreEvent,
      ∃ row ∈ state.base.db.creditEvents, ∃ credit, Announces state.base.db.credit row credit ∧
        ∃ stored ∈ state.store.rows,
          stored.toOutboxEvent.input = createAwarded (.credit credit) := by
  rcases reachable_granted with ⟨state, reached, ⟨row, stored, announced⟩, -, published, -⟩
  rcases (ledger_announced reached).2 row stored announced with
    ⟨credit, announces, message, -, same, held⟩
  rcases held (by rw [published]; exact List.not_mem_nil) with ⟨kept, among, rfl, -⟩
  exact ⟨state, row, stored, credit, announces, kept, among, same⟩

end Witness

end CoreApi
