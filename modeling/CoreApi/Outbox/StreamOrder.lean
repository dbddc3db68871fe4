import CoreApi.Foundation.Precedence
import CoreApi.Outbox.Publisher

/-!
# The order of a stream at the broker

The events of one aggregate reach the broker in the order in which they were
appended, as long as no claim takes an event ahead of an earlier unpublished one
of its stream and no instance goes on to a later event of a stream after it has
failed to publish an earlier one. Nothing in the code sees to either.
-/

namespace CoreApi.Outbox

open PrismaOutboxRepository

/-- Appended to the same stream, and earlier. -/
def Precedes (appended : List OutboxEvent) (earlier later : OutboxEvent) : Prop :=
  earlier.aggregateId = later.aggregateId ∧
    ∃ before after, appended = before ++ later :: after ∧ earlier ∈ before

/-- No event is published before the first publish of an earlier event of its stream. -/
def InOrder (state : OutboxState) : Prop :=
  ∀ earlier later, Precedes state.appended earlier later →
    ∀ before after, state.published = before ++ later :: after → earlier ∈ before

/-- A claim takes a row only if each earlier row of its stream is published, or is pending itself,
not locked, and has an earlier time; and a publish fails only if the event has been published
before, or no later event of its stream follows it in the batch. -/
def InTurn (batchSize : ℕ) (state : OutboxState) : OutboxLabel → Prop
  | .claim _ scan locked => ∀ later ∈ selectPending scan batchSize locked, ∀ earlier ∈ state.rows,
      Precedes state.appended earlier.toOutboxEvent later.toOutboxEvent →
      earlier.toOutboxEvent ∈ state.published ∨
        earlier.status = .pending ∧ locked earlier.id = false ∧
          earlier.createdAt < later.createdAt
  | .publishFailed instanceId => ∀ event rest,
      state.publisher instanceId = .publishing (event :: rest) →
      event.toOutboxEvent ∈ state.published ∨
        ∀ later ∈ rest, ¬ Precedes state.appended event.toOutboxEvent later.toOutboxEvent
  | _ => True

/-- The events of a batch, in its order. -/
def events (batch : List ClaimedOutboxEvent) : List OutboxEvent :=
  batch.map ClaimedOutboxEvent.toOutboxEvent

/-- A batch of appended events, each with its predecessors published or ahead of it. -/
structure InLine (state : OutboxState) (batch : List ClaimedOutboxEvent) : Prop where
  known : ∀ event ∈ events batch, event ∈ state.appended
  ready : Ready (Precedes state.appended) state.published (events batch)

/-- What a publisher has claimed or has in hand comes after what precedes it in its stream. -/
def Queued (state : OutboxState) : Publisher → Prop
  | .claimed ids => (∀ id ∈ ids, ∃ event ∈ state.appended, event.id = id) ∧
      ∀ later ∈ state.appended, later.id ∈ ids → ∀ earlier, Precedes state.appended earlier later →
        earlier ∈ state.published ∨ earlier.id ∈ ids ∧ earlier.createdAt < later.createdAt
  | .publishing batch => InLine state batch
  | .marking succeeded event rest => event.toOutboxEvent ∈ state.appended ∧
      (succeeded → event.toOutboxEvent ∈ state.published) ∧ InLine state rest

/-- Events are published after those that precede them, and one that is not published has its row,
from which it can be published later. -/
structure Ordered (state : OutboxState) : Prop where
  distinct : (state.appended.map OutboxEvent.id).Nodup
  stored : ∀ row ∈ state.rows, row.toOutboxEvent ∈ state.appended
  remains : ∀ event ∈ state.appended, event ∈ state.published ∨
    ∃ row ∈ state.rows, row.toOutboxEvent = event
  processed : ∀ row ∈ state.rows, row.status = .processed → row.toOutboxEvent ∈ state.published
  known : ∀ event ∈ state.published, event ∈ state.appended
  queued : ∀ instanceId, Queued state (state.publisher instanceId)
  ready : Ready (Precedes state.appended) [] state.published

variable {state next : OutboxState} {maxAttempts batchSize : ℕ}

theorem Precedes.known {appended : List OutboxEvent} {earlier later : OutboxEvent}
    (first : Precedes appended earlier later) : earlier ∈ appended ∧ later ∈ appended := by
  rcases first with ⟨-, before, after, rfl, member⟩
  exact ⟨List.mem_append_left _ member, by simp⟩

/-- Appending an event gives older events no new predecessors. -/
theorem Precedes.of_append {appended : List OutboxEvent} {last earlier later : OutboxEvent}
    (older : later ≠ last) (first : Precedes (appended ++ [last]) earlier later) :
    Precedes appended earlier later := by
  rcases first with ⟨stream, before, after, same, member⟩
  refine ⟨stream, ?_⟩
  rcases List.eq_nil_or_concat after with rfl | ⟨after', last', rfl⟩
  · exact absurd (List.singleton_inj.mp (List.append_inj' same rfl).2).symm older
  · refine ⟨before, after', ?_, member⟩
    have same' : appended ++ [last] = (before ++ later :: after') ++ [last'] := by
      rw [same]
      simp
    exact (List.append_inj' same' rfl).1

/-- The id tells the appended events apart. -/
theorem Ordered.event_of_id (ordered : Ordered state) {event other : OutboxEvent}
    (member : event ∈ state.appended) (member' : other ∈ state.appended)
    (same : event.id = other.id) : event = other :=
  List.inj_on_of_nodup_map ordered.distinct member member' same

theorem InLine.mono {batch : List ClaimedOutboxEvent} (line : InLine state batch)
    (appended : next.appended = state.appended)
    (published : ∀ event ∈ state.published, event ∈ next.published) : InLine next batch := by
  refine ⟨?_, ?_⟩
  · rw [appended]
    exact line.known
  · rw [appended]
    exact line.ready.mono (fun _ _ _ => id) published

theorem Queued.mono {publisher : Publisher} (queued : Queued state publisher)
    (appended : next.appended = state.appended)
    (published : ∀ event ∈ state.published, event ∈ next.published) : Queued next publisher := by
  cases publisher with
  | claimed ids =>
      refine ⟨appended ▸ queued.1, ?_⟩
      intro later member taken earlier first
      simp only [appended] at member first
      exact (queued.2 later member taken earlier first).imp_left (published earlier)
  | publishing batch => exact InLine.mono queued appended published
  | marking succeeded event rest =>
      refine ⟨appended ▸ queued.1, fun success => published _ (queued.2.1 success), ?_⟩
      exact queued.2.2.mono appended published

/-- One instance moves on, and at most one event is published. -/
theorem Ordered.put (ordered : Ordered state) (instanceId : ℕ) (publisher : Publisher)
    (queued : Queued state publisher) : Ordered (state.put instanceId publisher) where
  distinct := ordered.distinct
  stored := ordered.stored
  remains := ordered.remains
  processed := ordered.processed
  known := ordered.known
  ready := ordered.ready
  queued other := by
    by_cases same : other = instanceId
    · subst same
      have moved : (state.put other publisher).publisher other = publisher := by
        simp [OutboxState.put]
      rw [moved]
      exact queued.mono rfl fun _ => id
    · have kept : (state.put instanceId publisher).publisher other = state.publisher other := by
        simp [OutboxState.put, same]
      rw [kept]
      exact (ordered.queued other).mono rfl fun _ => id

/-- Publishing an event whose predecessors are all published. -/
theorem Ordered.publish (ordered : Ordered state) {event : OutboxEvent}
    (member : event ∈ state.appended)
    (due : ∀ earlier, Precedes state.appended earlier event → earlier ∈ state.published) :
    Ordered { state with published := state.published ++ [event] } where
  distinct := ordered.distinct
  stored := ordered.stored
  remains other member := (ordered.remains other member).imp_left (List.mem_append_left _)
  processed row member status := List.mem_append_left _ (ordered.processed row member status)
  known other member' := by
    rcases List.mem_append.mp member' with old | new
    · exact ordered.known other old
    · rw [List.mem_singleton.mp new]
      exact member
  queued other := (ordered.queued other).mono rfl fun _ => List.mem_append_left _
  ready := ordered.ready.concat due

/-- A statement that changes rows but keeps their events. -/
theorem Ordered.map_rows (ordered : Ordered state) {change : OutboxRow → OutboxRow}
    (same : ∀ row, (change row).toOutboxEvent = row.toOutboxEvent)
    (processed : ∀ row ∈ state.rows, (change row).status = .processed →
      row.status = .processed ∨ row.toOutboxEvent ∈ state.published) :
    Ordered { state with rows := state.rows.map change } where
  distinct := ordered.distinct
  stored := by
    intro changed member
    rcases List.mem_map.mp member with ⟨row, stored, rfl⟩
    rw [same]
    exact ordered.stored row stored
  remains event member := by
    rcases ordered.remains event member with old | ⟨row, stored, rfl⟩
    · exact .inl old
    · exact .inr ⟨change row, List.mem_map_of_mem stored, same row⟩
  processed := by
    intro changed member status
    rcases List.mem_map.mp member with ⟨row, stored, rfl⟩
    rw [same]
    rcases processed row stored status with before | published
    · exact ordered.processed row stored before
    · exact published
  known := ordered.known
  queued instanceId := (ordered.queued instanceId).mono rfl fun _ => id
  ready := ordered.ready

theorem Ordered.purge (ordered : Ordered state) (olderThan : ℤ) :
    Ordered { state with rows := purgeProcessed state.rows olderThan } where
  distinct := ordered.distinct
  stored row member := ordered.stored row (List.mem_of_mem_filter member)
  remains event member := by
    rcases ordered.remains event member with old | ⟨row, stored, rfl⟩
    · exact .inl old
    · by_cases purged : row.status = .processed ∧ row.processedAt.any (· < olderThan)
      · exact .inl (ordered.processed row stored purged.1)
      · exact .inr ⟨row, List.mem_filter.mpr ⟨stored, decide_eq_true purged⟩, rfl⟩
  processed row member := ordered.processed row (List.mem_of_mem_filter member)
  known := ordered.known
  queued instanceId := (ordered.queued instanceId).mono rfl fun _ => id
  ready := ordered.ready

theorem Ordered.append (ordered : Ordered state) {row : OutboxRow}
    (fresh : ∀ event ∈ state.appended, event.id ≠ row.id) (pending : row.status = .pending) :
    Ordered { state with
      rows := state.rows ++ [row]
      appended := state.appended ++ [row.toOutboxEvent] } := by
  have older : ∀ event ∈ state.appended, event ≠ row.toOutboxEvent := by
    rintro event member rfl
    exact fresh _ member rfl
  have line : ∀ {batch}, InLine state batch → InLine { state with
      rows := state.rows ++ [row]
      appended := state.appended ++ [row.toOutboxEvent] } batch := by
    intro batch line
    refine ⟨fun event member => List.mem_append_left _ (line.known event member), ?_⟩
    exact line.ready.mono (fun later member earlier first =>
      first.of_append (older later (line.known later member))) fun _ => id
  refine ⟨?_, ?_, ?_, ?_, fun event member => List.mem_append_left _ (ordered.known event member),
    ?_, ?_⟩
  · rw [List.map_append, List.nodup_append]
    refine ⟨ordered.distinct, List.nodup_singleton _, ?_⟩
    intro id member last lastMember same
    rcases List.mem_map.mp member with ⟨event, known, rfl⟩
    exact fresh event known (same.trans (List.mem_singleton.mp lastMember))
  · intro stored member
    rcases List.mem_append.mp member with old | new
    · exact List.mem_append_left _ (ordered.stored stored old)
    · rw [List.mem_singleton.mp new]
      simp
  · intro event member
    rcases List.mem_append.mp member with old | new
    · rcases ordered.remains event old with published | ⟨stored, found, same⟩
      · exact .inl published
      · exact .inr ⟨stored, List.mem_append_left _ found, same⟩
    · exact .inr ⟨row, by simp, (List.mem_singleton.mp new).symm⟩
  · intro stored member status
    rcases List.mem_append.mp member with old | new
    · exact ordered.processed stored old status
    · simp only [List.mem_singleton.mp new, pending] at status
      cases status
  · intro instanceId
    have queued := ordered.queued instanceId
    generalize state.publisher instanceId = publisher at queued ⊢
    cases publisher with
    | claimed ids =>
        refine ⟨?_, ?_⟩
        · intro id taken
          rcases queued.1 id taken with ⟨event, known, same⟩
          exact ⟨event, List.mem_append_left _ known, same⟩
        · intro later member taken earlier first
          rcases List.mem_append.mp member with old | new
          · exact queued.2 later old taken earlier (first.of_append (older later old))
          · simp only [List.mem_singleton.mp new] at taken
            rcases queued.1 _ taken with ⟨event, known, same⟩
            exact absurd same (fresh event known)
    | publishing batch => exact line queued
    | marking succeeded event rest =>
        exact ⟨List.mem_append_left _ queued.1, queued.2.1, line queued.2.2⟩
  · exact ordered.ready.mono (fun later member earlier first =>
      first.of_append (older later (ordered.known later member))) fun _ => id

theorem mem_byCreatedAt {rows : List OutboxRow} {row : OutboxRow} :
    row ∈ byCreatedAt rows ↔ row ∈ rows :=
  (List.perm_insertionSort _ rows).mem_iff

theorem pairwise_byCreatedAt (rows : List OutboxRow) :
    (byCreatedAt rows).Pairwise fun row other => row.createdAt ≤ other.createdAt :=
  List.pairwise_insertionSort (fun row other : OutboxRow => row.createdAt ≤ other.createdAt) rows

/-- A claim in turn takes with an event every earlier unpublished one of its stream. -/
theorem Ordered.queued_claim (ordered : Ordered state) {instanceId : ℕ} {scan : List OutboxRow}
    {locked : String → Bool} (visits : scan.Perm state.rows)
    (inTurn : InTurn batchSize state (.claim instanceId scan locked)) :
    Queued state (.claimed ((selectPending scan batchSize locked).map fun row => row.id)) := by
  have visited : ∀ row ∈ selectPending scan batchSize locked, row ∈ state.rows := by
    intro row member
    have scanned := mem_byCreatedAt.mp (List.mem_of_mem_take member)
    exact visits.mem_iff.mp (List.mem_of_mem_filter scanned)
  refine ⟨?_, ?_⟩
  · intro id taken
    rcases List.mem_map.mp taken with ⟨row, selected, rfl⟩
    exact ⟨row.toOutboxEvent, ordered.stored row (visited row selected), rfl⟩
  · intro later member taken earlier first
    rcases List.mem_map.mp taken with ⟨row, selected, same⟩
    obtain rfl : row.toOutboxEvent = later :=
      ordered.event_of_id (ordered.stored row (visited row selected)) member same
    rcases ordered.remains earlier first.known.1 with published | ⟨row', stored, rfl⟩
    · exact .inl published
    · rcases inTurn row selected row' stored first with published | ⟨pending, free, less⟩
      · exact .inl published
      · refine .inr ⟨List.mem_map.mpr ⟨row', ?_, rfl⟩, less⟩
        refine mem_take_of_lt (fun row : OutboxRow => row.createdAt) (pairwise_byCreatedAt _)
          selected (mem_byCreatedAt.mpr ?_) less
        exact List.mem_filter.mpr ⟨visits.mem_iff.mpr stored, by simp [pending, free]⟩

/-- The rows found for a claim are in line. -/
theorem Ordered.inLine_findClaimed (ordered : Ordered state) {ids : List String}
    {scan : List OutboxRow} (queued : Queued state (.claimed ids))
    (visits : scan.Perm state.rows) : InLine state (findClaimed scan ids) := by
  have mem_events : ∀ event, event ∈ events (findClaimed scan ids) ↔
      ∃ row ∈ state.rows, row.id ∈ ids ∧ row.toOutboxEvent = event := by
    intro event
    simp only [events, findClaimed, List.mem_map, mem_byCreatedAt, List.mem_filter,
      decide_eq_true_eq, visits.mem_iff]
    constructor
    · rintro ⟨_, ⟨row, ⟨stored, taken⟩, rfl⟩, rfl⟩
      exact ⟨row, stored, taken, rfl⟩
    · rintro ⟨row, stored, taken, rfl⟩
      exact ⟨_, ⟨row, ⟨stored, taken⟩, rfl⟩, rfl⟩
  have sorted : (events (findClaimed scan ids)).Pairwise fun event other =>
      event.createdAt ≤ other.createdAt := by
    simp only [events, findClaimed, List.pairwise_map]
    exact pairwise_byCreatedAt _
  refine ⟨?_,
    Ready.of_sorted OutboxEvent.createdAt sorted ?_⟩
  · intro event member
    rcases (mem_events event).mp member with ⟨row, stored, -, rfl⟩
    exact ordered.stored row stored
  · intro later member earlier first
    rcases (mem_events later).mp member with ⟨row, -, taken, rfl⟩
    rcases ordered.remains earlier first.known.1 with published | ⟨row', stored', rfl⟩
    · exact .inl published
    · rcases queued.2 _ first.known.2 taken _ first with published | ⟨taken', less⟩
      · exact .inl published
      · exact .inr ⟨(mem_events _).mpr ⟨row', stored', taken', rfl⟩, less⟩

theorem InLine.head_known {event : ClaimedOutboxEvent} {rest : List ClaimedOutboxEvent}
    (line : InLine state (event :: rest)) : event.toOutboxEvent ∈ state.appended :=
  line.known _ List.mem_cons_self

theorem InLine.tail_known {event : ClaimedOutboxEvent} {rest : List ClaimedOutboxEvent}
    (line : InLine state (event :: rest)) : ∀ later ∈ events rest, later ∈ state.appended :=
  fun later member => line.known later (List.mem_cons_of_mem _ member)

/-- The head of a batch in line may be published. -/
theorem Ordered.deliver (ordered : Ordered state) {instanceId : ℕ} {event : ClaimedOutboxEvent}
    {rest : List ClaimedOutboxEvent} (succeeded : Bool)
    (next : state.publisher instanceId = .publishing (event :: rest)) :
    Ordered { state.put instanceId (.marking succeeded event rest) with
      published := state.published ++ [event.toOutboxEvent] } := by
  have line : InLine state (event :: rest) := by
    have queued := ordered.queued instanceId
    simp only [next] at queued
    exact queued
  have published := ordered.publish line.head_known fun earlier first => line.ready.head_done first
  refine published.put instanceId (.marking succeeded event rest) ⟨line.head_known, ?_, ?_⟩
  · exact fun _ => List.mem_append_right _ (List.mem_singleton_self _)
  · exact ⟨line.tail_known, line.ready.deliver⟩

theorem Ordered.mark (ordered : Ordered state) {instanceId : ℕ} {succeeded : Bool}
    {event : ClaimedOutboxEvent} {rest : List ClaimedOutboxEvent}
    (marking : state.publisher instanceId = .marking succeeded event rest) :
    Ordered (state.put instanceId (.publishing rest)) ∧
      event.toOutboxEvent ∈ state.appended ∧
      (succeeded → event.toOutboxEvent ∈ state.published) := by
  have queued := ordered.queued instanceId
  simp only [marking] at queued
  exact ⟨ordered.put instanceId _ queued.2.2, queued.1, queued.2.1⟩

theorem Ordered.step (ordered : Ordered state) {label : OutboxLabel}
    (inTurn : InTurn batchSize state label)
    (move : OutboxStep maxAttempts batchSize state label next) : Ordered next := by
  cases move with
  | append fresh => exact ordered.append fresh rfl
  | @claim instanceId scan locked ids now idle visits selected =>
      subst selected
      have claimed := ordered.put instanceId _ (ordered.queued_claim visits inTurn)
      refine claimed.map_rows ?_ ?_
      · intro row
        split <;> rfl
      · intro row _ status
        split at status
        · cases status
        · exact .inl status
  | @findClaimed instanceId ids scan claimed visits =>
      have queued := ordered.queued instanceId
      simp only [claimed] at queued
      exact ordered.put instanceId _ (ordered.inLine_findClaimed queued visits)
  | publish next => exact ordered.deliver true next
  | publishUnconfirmed next => exact ordered.deliver false next
  | @publishFailed instanceId event rest next =>
      have line : InLine state (event :: rest) := by
        have queued := ordered.queued instanceId
        simp only [next] at queued
        exact queued
      refine ordered.put instanceId _ ⟨line.head_known, nofun, line.tail_known, ?_⟩
      refine line.ready.drop ((inTurn event rest next).imp_right ?_)
      intro free later member
      rcases List.mem_map.mp member with ⟨claimed, member', rfl⟩
      exact free claimed member'
  | @markProcessed instanceId event rest now succeeded =>
      rcases ordered.mark succeeded with ⟨moved, known, published⟩
      refine moved.map_rows ?_ ?_
      · intro row
        split <;> rfl
      · intro row stored status
        split at status
        · next same =>
            have row_eq := ordered.event_of_id (ordered.stored row stored) known same
            exact .inr (row_eq ▸ published rfl)
        · exact .inl status
  | @markFailed instanceId event rest error failed =>
      refine (ordered.mark failed).1.map_rows ?_ ?_
      · intro row
        split <;> rfl
      · intro row _ status
        split at status
        · simp only at status
          split at status <;> cases status
        · exact .inl status
  | markLost marking => exact (ordered.mark marking).1
  | @crash instanceId =>
      exact ordered.put instanceId _ ⟨by simp [events], .nil _ _⟩
  | reap =>
      refine ordered.map_rows ?_ ?_
      · intro row
        split <;> rfl
      · intro row _ status
        split at status
        · cases status
        · exact .inl status
  | purge => exact ordered.purge _

theorem Ordered.inOrder (ordered : Ordered state) : InOrder state := by
  intro earlier later first before after same
  simpa using ordered.ready before later after same earlier first

/-- In every run whose claims and failed publishes are in turn, the events of every stream are
first published in the order in which they were appended. -/
theorem streams_published_in_order
    (reached : ((outbox maxAttempts batchSize).restrict (InTurn batchSize)).Reachable state) :
    InOrder state := by
  refine (reached.invariant Ordered ?_ ?_).inOrder
  · rintro start ⟨rows, appended, published, idle⟩
    refine ⟨by simp [appended], by simp [rows], by simp [appended], by simp [rows],
      by simp [published], ?_, ?_⟩
    · intro instanceId
      rw [idle]
      exact ⟨by simp [events], .nil _ _⟩
    · rw [published]
      exact .nil _ _
  · rintro before label after - ordered ⟨inTurn, move⟩
    exact ordered.step inTurn move

inductive FollowTargetType where
  | document
  | space
deriving DecidableEq

def FollowTargetType.text : FollowTargetType → String
  | .document => "DOCUMENT"
  | .space => "SPACE"

/-- The stream of a follow relationship, which both of its events are appended to. -/
def Follow.streamKey (userId : String) (targetType : FollowTargetType) (targetId : String) :
    String :=
  userId ++ ":" ++ targetType.text ++ ":" ++ targetId

/-- The event of a follow, as it is appended. -/
def followEvent (eventType orgId userId : String) (targetType : FollowTargetType)
    (targetId : String) : OutboxAppendInput where
  aggregateType := "Follow"
  aggregateId := Follow.streamKey userId targetType targetId
  eventType := eventType
  orgId := orgId
  payload := .object [("userId", .string userId), ("targetType", .string targetType.text),
    ("targetId", .string targetId)]

/-- The row of Alice's follow. -/
def followCreated : OutboxRow :=
  PrismaOutboxWriter.append "1" 1 none (followEvent "FollowCreated" "org" "alice" .document "doc")

/-- The row of the event that takes it back. -/
def followRemoved : OutboxRow :=
  PrismaOutboxWriter.append "2" 2 none (followEvent "FollowRemoved" "org" "alice" .document "doc")

/-- The outbox with both events of the follow, as its only instance is at work. -/
def followState (rows : List OutboxRow) (publisher : Publisher) (published : List OutboxEvent) :
    OutboxState where
  rows := rows
  publisher := Function.update (fun _ => .publishing []) 0 publisher
  appended := [followCreated.toOutboxEvent, followRemoved.toOutboxEvent]
  published := published

/-- Both rows wait, and no publisher has claimed any. -/
def unclaimed : OutboxState :=
  followState [followCreated, followRemoved] (.publishing []) []

theorem put_followState (rows : List OutboxRow) (publisher publisher' : Publisher)
    (published : List OutboxEvent) :
    (followState rows publisher published).put 0 publisher' =
      followState rows publisher' published := by
  simp [OutboxState.put, followState]

/-- A follow and an unfollow are appended and claimed in one batch. -/
theorem reachable_batch (allowed : OutboxState → OutboxLabel → Prop)
    (appends : ∀ state, allowed state .append)
    (claims : allowed unclaimed (.claim 0 [followCreated, followRemoved] fun _ => false))
    (finds : ∀ state, allowed state (.findClaimed 0)) :
    ((outbox 5 50).restrict allowed).Reachable
      (followState (claim [followCreated, followRemoved] ["1", "2"] 3)
        (.publishing [followCreated.claimed, followRemoved.claimed]) []) := by
  have start : ((outbox 5 50).restrict allowed).Reachable
      ⟨[], fun _ => .publishing [], [], []⟩ := .initial ⟨rfl, rfl, rfl, fun _ => rfl⟩
  have created := start.step ⟨appends _, @OutboxStep.append 5 50 _ "1" 1 none
    (followEvent "FollowCreated" "org" "alice" .document "doc") (by simp)⟩
  have removed := created.step ⟨appends _, @OutboxStep.append 5 50 _ "2" 2 none
    (followEvent "FollowRemoved" "org" "alice" .document "doc")
    (by simp [PrismaOutboxWriter.append])⟩
  have both : ((outbox 5 50).restrict allowed).Reachable unclaimed := by
    rw [unclaimed, followState, Function.update_eq_self]
    exact removed
  have claimed : ((outbox 5 50).restrict allowed).Reachable (followState
      (claim [followCreated, followRemoved] ["1", "2"] 3) (.claimed ["1", "2"]) []) := by
    have claimed := both.step ⟨claims, @OutboxStep.claim 5 50 _ 0 [followCreated, followRemoved]
      (fun _ => false) ["1", "2"] 3 rfl (.refl _) rfl⟩
    simp only [unclaimed, put_followState] at claimed
    exact claimed
  have found := claimed.step ⟨finds _, @OutboxStep.findClaimed 5 50 _ 0 ["1", "2"]
    (claim [followCreated, followRemoved] ["1", "2"] 3) rfl (.refl _)⟩
  simp only [put_followState] at found
  exact found

theorem followCreated_precedes : Precedes [followCreated.toOutboxEvent, followRemoved.toOutboxEvent]
    followCreated.toOutboxEvent followRemoved.toOutboxEvent :=
  ⟨rfl, [followCreated.toOutboxEvent], [], rfl, List.mem_singleton_self _⟩

theorem inTurn_unclaimed :
    InTurn 50 unclaimed (.claim 0 [followCreated, followRemoved] fun _ => false) := by
  rintro later taken earlier stored ⟨-, before, after, same, member⟩
  right
  have rows : ∀ row ∈ [followCreated, followRemoved], row.status = .pending := by
    simp [followCreated, followRemoved, PrismaOutboxWriter.append]
  refine ⟨rows earlier stored, rfl, ?_⟩
  rcases before with _ | ⟨first, _ | ⟨second, rest⟩⟩
  · cases member
  · simp only [unclaimed, followState, List.cons_append, List.nil_append, List.cons.injEq] at same
    rw [← List.mem_singleton.mp member] at same
    have created : (1 : ℤ) = earlier.createdAt := congrArg OutboxEvent.createdAt same.1
    have removed : (2 : ℤ) = later.createdAt := congrArg OutboxEvent.createdAt same.2.1
    omega
  · simp [unclaimed, followState] at same

/-- Where both publishes succeed the unfollow comes second. -/
theorem streams_published_in_order_followed :
    ∃ state, ((outbox 5 50).restrict (InTurn 50)).Reachable state ∧
      state.published = [followCreated.toOutboxEvent, followRemoved.toOutboxEvent] ∧
      InOrder state := by
  have batch := reachable_batch (InTurn 50) (fun _ => trivial) inTurn_unclaimed fun _ => trivial
  have publishes : ∀ state, InTurn 50 state (.publish 0) := fun _ => trivial
  have marks : ∀ state, InTurn 50 state (.mark 0) := fun _ => trivial
  have first := batch.step ⟨publishes _, @OutboxStep.publish 5 50 _ 0 _ _ rfl⟩
  have marked := first.step ⟨marks _, @OutboxStep.markProcessed 5 50 _ 0 _ _ 4 rfl⟩
  have second := marked.step ⟨publishes _, @OutboxStep.publish 5 50 _ 0 _ _ rfl⟩
  exact ⟨_, second, rfl, streams_published_in_order second⟩

/-- The publish of the follow fails, so its row waits for the next claim, while the unfollow that
was claimed with it is published. -/
theorem unfollow_overtakes_follow :
    ∃ state, (outbox 5 50).Reachable state ∧
      state.published = [followRemoved.toOutboxEvent] ∧ ¬ InOrder state := by
  have batch := reachable_batch (fun _ _ => True) (fun _ => trivial) trivial fun _ => trivial
  have failed := batch.step ⟨trivial, @OutboxStep.publishFailed 5 50 _ 0 _ _ rfl⟩
  have marked := failed.step ⟨trivial, @OutboxStep.markFailed 5 50 _ 0 _ _ "broker down" rfl⟩
  have overtaken := marked.step ⟨trivial, @OutboxStep.publish 5 50 _ 0 _ _ rfl⟩
  refine ⟨_, overtaken.of_restrict, rfl, ?_⟩
  intro inOrder
  exact absurd (inOrder _ _ followCreated_precedes [] [] rfl) List.not_mem_nil

end CoreApi.Outbox
