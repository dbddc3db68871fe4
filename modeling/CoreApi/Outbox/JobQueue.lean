import CoreApi.Foundation.ClaimQueue
import CoreApi.Outbox.Publisher

/-!
# The outbox as a claim queue

Every statement of the repository is a statement of a claim queue on the columns
that change.
-/

namespace CoreApi.Outbox

open ClaimQueue PrismaOutboxRepository

/-- What a status of an event is in the queue. -/
def OutboxStatus.job : OutboxStatus → JobStatus
  | .pending => .pending
  | .inflight => .inflight
  | .processed => .succeeded
  | .failedDlq => .dead

/-- A row of the table as a job of the queue. -/
def OutboxRow.job (row : OutboxRow) : Job String where
  id := row.id
  status := row.status.job
  attempts := row.attempts
  processedAt := row.processedAt
  claimedAt := row.claimedAt

/-- The table as a queue of jobs; an id is used once its event was appended. -/
def OutboxState.queue (state : OutboxState) : Queue String where
  jobs := state.rows.map OutboxRow.job
  used := state.appended.map OutboxEvent.id

/-- A mark finds its row with no other outcome, and a failure finds it with no more attempts than
it records. -/
def MarkInTime (maxAttempts : ℕ) (state : OutboxState) : OutboxLabel → Prop
  | .mark instanceId => ∀ succeeded event rest,
      state.publisher instanceId = .marking succeeded event rest →
      ∀ stored ∈ state.rows, stored.id = event.id →
        if succeeded then stored.status ≠ .failedDlq
        else stored.status ≠ .processed ∧
          (stored.status = .failedDlq → event.attempts + 1 ≥ maxAttempts) ∧
            stored.attempts ≤ event.attempts + 1
  | _ => True

/-- The outbox in which every mark that changes the table is in time. -/
def timelyOutbox (maxAttempts batchSize : ℕ) : TransitionSystem OutboxState OutboxLabel where
  Initial := (outbox maxAttempts batchSize).Initial
  Step state label next := (outbox maxAttempts batchSize).Step state label next ∧
    (next.rows = state.rows ∨ MarkInTime maxAttempts state label)

variable {state next : OutboxState} {label : OutboxLabel} {maxAttempts batchSize : ℕ}

theorem OutboxStatus.job_injective {status other : OutboxStatus}
    (same : status.job = other.job) : status = other := by
  cases status <;> cases other <;> first | rfl | cases same

@[simp] theorem OutboxStatus.job_pending :
    OutboxStatus.pending.job = .pending := rfl

@[simp] theorem OutboxStatus.job_inflight :
    OutboxStatus.inflight.job = .inflight := rfl

@[simp] theorem OutboxStatus.job_processed : OutboxStatus.processed.job = .succeeded := rfl

@[simp] theorem OutboxStatus.job_failedDlq :
    OutboxStatus.failedDlq.job = .dead := rfl

@[simp] theorem OutboxStatus.job_eq_pending {status : OutboxStatus} :
    status.job = .pending ↔ status = .pending := by
  cases status <;> simp [OutboxStatus.job]

@[simp] theorem OutboxStatus.job_eq_inflight {status : OutboxStatus} :
    status.job = .inflight ↔ status = .inflight := by
  cases status <;> simp [OutboxStatus.job]

@[simp] theorem OutboxStatus.job_eq_succeeded {status : OutboxStatus} :
    status.job = .succeeded ↔ status = .processed := by
  cases status <;> simp [OutboxStatus.job]

@[simp] theorem OutboxStatus.job_eq_dead {status : OutboxStatus} :
    status.job = .dead ↔ status = .failedDlq := by
  cases status <;> simp [OutboxStatus.job]

theorem claim_queue (rows : List OutboxRow) (ids : List String) (now : ℤ) :
    (claim rows ids now).map OutboxRow.job =
      (Statement.claim ids now).run (rows.map OutboxRow.job) := by
  refine Statement.run_map _ rfl ?_ rows
  intro row
  by_cases taken : row.id ∈ ids <;> simp [Statement.act, OutboxRow.job, taken]

theorem markProcessed_queue (rows : List OutboxRow) (id : String) (now : ℤ) :
    (markProcessed rows id now).map OutboxRow.job =
      (Statement.succeed id now).run (rows.map OutboxRow.job) := by
  refine Statement.run_map _ rfl ?_ rows
  intro row
  by_cases named : row.id = id <;> simp [Statement.act, OutboxRow.job, named]

theorem markFailed_queue (rows : List OutboxRow) (id : String) (currentAttempts : ℕ)
    (error : String) (maxAttempts : ℕ) :
    (markFailed rows id currentAttempts error maxAttempts).map OutboxRow.job =
      (Statement.fail id currentAttempts maxAttempts).run (rows.map OutboxRow.job) := by
  refine Statement.run_map _ rfl ?_ rows
  intro row
  by_cases named : row.id = id
  · by_cases last : currentAttempts + 1 ≥ maxAttempts <;>
      simp [Statement.act, OutboxRow.job, named, last]
  · simp [Statement.act, OutboxRow.job, named]

theorem reapStaleInflight_queue (rows : List OutboxRow) (cutoff : ℤ) :
    (reapStaleInflight rows cutoff).map OutboxRow.job =
      (Statement.reap cutoff).run (rows.map OutboxRow.job) := by
  refine Statement.run_map _ rfl ?_ rows
  intro row
  by_cases stale : row.status = .inflight ∧ row.claimedAt.any (· < cutoff) <;>
    simp [Statement.act, OutboxRow.job, stale]

theorem purgeProcessed_queue (rows : List OutboxRow) (olderThan : ℤ) :
    (purgeProcessed rows olderThan).map OutboxRow.job =
      (Statement.purge olderThan).run (rows.map OutboxRow.job) := by
  refine Statement.run_filter _ rfl ?_ rows
  intro row
  by_cases old : row.status = .processed ∧ row.processedAt.any (· < olderThan) <;>
    simp [Statement.act, OutboxRow.job, old]

theorem mem_selectPending {scan : List OutboxRow} {limit : ℕ} {locked : String → Bool}
    {row : OutboxRow} (member : row ∈ selectPending scan limit locked) :
    row ∈ scan ∧ row.status = .pending := by
  have sorted := List.mem_of_mem_take member
  have filtered := (List.perm_insertionSort _ _).mem_iff.mp sorted
  simp only [List.mem_filter, decide_eq_true_eq] at filtered
  exact ⟨filtered.1, filtered.2.1⟩

theorem queue_next {statement : Statement String} (creates : statement.created = [])
    (rows : next.rows.map OutboxRow.job =
      statement.run (state.rows.map OutboxRow.job))
    (appended : next.appended = state.appended) : next.queue = statement.next state.queue := by
  simp only [OutboxState.queue, Statement.next, rows, appended, creates, List.map_nil,
    List.append_nil]

theorem succeed_inTime {instanceId : ℕ} {event : ClaimedOutboxEvent}
    {rest : List ClaimedOutboxEvent} {now : ℤ}
    (succeeded : state.publisher instanceId = .marking true event rest)
    (inTime : MarkInTime maxAttempts state (.mark instanceId)) :
    ∀ job ∈ state.queue.jobs, (Statement.succeed event.id now).InTime job := by
  intro job member named
  rcases List.mem_map.mp member with ⟨stored, known, rfl⟩
  simpa [OutboxRow.job] using inTime true event rest succeeded stored known named

theorem fail_inTime {instanceId : ℕ} {event : ClaimedOutboxEvent}
    {rest : List ClaimedOutboxEvent}
    (failed : state.publisher instanceId = .marking false event rest)
    (inTime : MarkInTime maxAttempts state (.mark instanceId)) :
    ∀ job ∈ state.queue.jobs, (Statement.fail event.id event.attempts maxAttempts).InTime job := by
  intro job member named
  rcases List.mem_map.mp member with ⟨stored, known, rfl⟩
  simpa [OutboxRow.job] using inTime false event rest failed stored known named

theorem shows_queue : Shows (outbox maxAttempts batchSize) OutboxState.queue
    (fun state label next => next.rows = state.rows ∨ MarkInTime maxAttempts state label) := by
  intro state label next sound move
  cases move with
  | @append id createdAt traceparent input fresh =>
      refine .inr ⟨.create id, ?_, ?_, fun _ _ _ => trivial⟩
      · intro used
        rcases List.mem_map.mp used with ⟨event, known, same⟩
        exact fresh event known same
      · have kept : (Statement.create id).act = (some : Job String → Option (Job String)) :=
          funext fun _ => rfl
        simp [OutboxState.queue, Statement.next, Statement.run, Statement.created, kept,
          PrismaOutboxWriter.append, OutboxRow.job]
  | @claim instanceId scan locked ids now idle visits selected =>
      refine .inr ⟨.claim ids now, ?_, queue_next rfl (claim_queue _ _ _) rfl, fun _ _ _ => trivial⟩
      rw [selected]
      refine sound.permits_claim OutboxRow.job ?_ now
      intro row chosen
      rcases mem_selectPending chosen with ⟨scanned, pending⟩
      refine ⟨List.mem_map_of_mem (visits.mem_iff.mp scanned), ?_⟩
      simp [OutboxRow.job, pending]
  | findClaimed | publish | publishFailed | publishUnconfirmed | markLost | crash =>
      exact .inl rfl
  | @markProcessed instanceId event rest now succeeded =>
      by_cases kept : markProcessed state.rows event.id now = state.rows
      · exact .inl (by simp [OutboxState.queue, OutboxState.put, kept])
      · exact .inr ⟨.succeed event.id now, trivial,
          queue_next rfl (markProcessed_queue _ _ _) rfl,
          fun inTime => succeed_inTime succeeded (inTime.resolve_left kept)⟩
  | @markFailed instanceId event rest error failed =>
      by_cases kept : markFailed state.rows event.id event.attempts error maxAttempts = state.rows
      · exact .inl (by simp [OutboxState.queue, OutboxState.put, kept])
      · exact .inr ⟨.fail event.id event.attempts maxAttempts, trivial,
          queue_next rfl (markFailed_queue _ _ _ _ _) rfl,
          fun inTime => fail_inTime failed (inTime.resolve_left kept)⟩
  | reap =>
      exact .inr ⟨.reap _, trivial, queue_next rfl (reapStaleInflight_queue _ _) rfl,
        fun _ _ _ => trivial⟩
  | purge =>
      exact .inr ⟨.purge _, trivial, queue_next rfl (purgeProcessed_queue _ _) rfl,
        fun _ _ _ => trivial⟩

theorem queue_initial (start : OutboxState)
    (initial : (outbox maxAttempts batchSize).Initial start) :
    (claimQueue String).Initial start.queue := by
  simp [claimQueue, OutboxState.queue, initial.1, initial.2.1]

end CoreApi.Outbox
