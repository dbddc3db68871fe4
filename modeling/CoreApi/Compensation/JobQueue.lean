import CoreApi.Compensation.Reaper
import CoreApi.Foundation.ClaimQueue

/-!
# The compensation table as a claim queue

Every statement of the repository is a statement of a claim queue on the columns
that change.
-/

namespace CoreApi.Compensation

open ClaimQueue PrismaSagaCompensationRepository

/-- What a status of a compensation is in the queue. -/
def SagaCompensationStatus.job : SagaCompensationStatus → JobStatus
  | .pending => .pending
  | .inflight => .inflight
  | .done => .succeeded
  | .failedDlq => .dead

/-- A row of the table as a job of the queue. -/
def SagaCompensationRow.job (row : SagaCompensationRow) : Job String where
  id := row.id
  status := row.status.job
  attempts := row.attempts
  processedAt := row.processedAt
  claimedAt := row.claimedAt

/-- The table as a queue of jobs; an id is used once it has been recorded. -/
def CompensationState.queue (state : CompensationState) : Queue String where
  jobs := state.rows.map SagaCompensationRow.job
  used := state.recorded.map SagaCompensation.id

/-- A mark that reaches the table finds its row with no other outcome, and a failure finds it with
no more attempts than it records. -/
def MarkInTime (maxAttempts : ℕ) (state : CompensationState) : CompensationLabel → Prop
  | .markProcessed instanceId => ∀ row rest, state.poll instanceId = .completed row rest →
      ∀ stored ∈ state.rows, stored.id = row.id → stored.status ≠ .failedDlq
  | .markFailed instanceId => ∀ row error rest, state.poll instanceId = .failed row error rest →
      ∀ stored ∈ state.rows, stored.id = row.id →
        stored.status ≠ .done ∧ (stored.status = .failedDlq → row.attempts + 1 ≥ maxAttempts) ∧
          stored.attempts ≤ row.attempts + 1
  | _ => True

variable {state next : CompensationState} {label : CompensationLabel}
  {registered : String → Bool} {maxAttempts pollBatchSize : ℕ}

theorem SagaCompensationStatus.job_injective {status other : SagaCompensationStatus}
    (same : status.job = other.job) : status = other := by
  cases status <;> cases other <;> first | rfl | cases same

@[simp] theorem SagaCompensationStatus.job_pending :
    SagaCompensationStatus.pending.job = .pending := rfl

@[simp] theorem SagaCompensationStatus.job_inflight :
    SagaCompensationStatus.inflight.job = .inflight := rfl

@[simp] theorem SagaCompensationStatus.job_done :
    SagaCompensationStatus.done.job = .succeeded := rfl

@[simp] theorem SagaCompensationStatus.job_failedDlq :
    SagaCompensationStatus.failedDlq.job = .dead := rfl

@[simp] theorem SagaCompensationStatus.job_eq_pending {status : SagaCompensationStatus} :
    status.job = .pending ↔ status = .pending := by
  cases status <;> simp [SagaCompensationStatus.job]

@[simp] theorem SagaCompensationStatus.job_eq_inflight {status : SagaCompensationStatus} :
    status.job = .inflight ↔ status = .inflight := by
  cases status <;> simp [SagaCompensationStatus.job]

@[simp] theorem SagaCompensationStatus.job_eq_succeeded {status : SagaCompensationStatus} :
    status.job = .succeeded ↔ status = .done := by
  cases status <;> simp [SagaCompensationStatus.job]

@[simp] theorem SagaCompensationStatus.job_eq_dead {status : SagaCompensationStatus} :
    status.job = .dead ↔ status = .failedDlq := by
  cases status <;> simp [SagaCompensationStatus.job]

theorem claim_queue (rows : List SagaCompensationRow) (ids : List String) (now : ℤ) :
    (claim rows ids now).map SagaCompensationRow.job =
      (Statement.claim ids now).run (rows.map SagaCompensationRow.job) := by
  refine Statement.run_map _ rfl ?_ rows
  intro row
  by_cases taken : row.id ∈ ids <;> simp [Statement.act, SagaCompensationRow.job, taken]

theorem markProcessed_queue (rows : List SagaCompensationRow) (id : String) (now : ℤ) :
    (markProcessed rows id now).map SagaCompensationRow.job =
      (Statement.succeed id now).run (rows.map SagaCompensationRow.job) := by
  refine Statement.run_map _ rfl ?_ rows
  intro row
  by_cases named : row.id = id <;> simp [Statement.act, SagaCompensationRow.job, named]

theorem markFailed_queue (rows : List SagaCompensationRow) (id : String) (currentAttempts : ℕ)
    (error : String) (maxAttempts : ℕ) :
    (markFailed rows id currentAttempts error maxAttempts).map SagaCompensationRow.job =
      (Statement.fail id currentAttempts maxAttempts).run (rows.map SagaCompensationRow.job) := by
  refine Statement.run_map _ rfl ?_ rows
  intro row
  by_cases named : row.id = id
  · by_cases last : currentAttempts + 1 ≥ maxAttempts <;>
      simp [Statement.act, SagaCompensationRow.job, named, last]
  · simp [Statement.act, SagaCompensationRow.job, named]

theorem reapStaleInflight_queue (rows : List SagaCompensationRow) (cutoff : ℤ) :
    (reapStaleInflight rows cutoff).map SagaCompensationRow.job =
      (Statement.reap cutoff).run (rows.map SagaCompensationRow.job) := by
  refine Statement.run_map _ rfl ?_ rows
  intro row
  by_cases stale : row.status = .inflight ∧ row.claimedAt.any (· < cutoff) <;>
    simp [Statement.act, SagaCompensationRow.job, stale]

theorem purgeProcessed_queue (rows : List SagaCompensationRow) (olderThan : ℤ) :
    (purgeProcessed rows olderThan).map SagaCompensationRow.job =
      (Statement.purge olderThan).run (rows.map SagaCompensationRow.job) := by
  refine Statement.run_filter _ rfl ?_ rows
  intro row
  by_cases old : row.status = .done ∧ row.processedAt.any (· < olderThan) <;>
    simp [Statement.act, SagaCompensationRow.job, old]

theorem mem_selectPending {scan : List SagaCompensationRow} {limit : ℕ} {locked : String → Bool}
    {row : SagaCompensationRow} (member : row ∈ selectPending scan limit locked) :
    row ∈ scan ∧ row.status = .pending := by
  have sorted := List.mem_of_mem_take member
  have filtered := (List.perm_insertionSort _ _).mem_iff.mp sorted
  simp only [List.mem_filter, decide_eq_true_eq] at filtered
  exact ⟨filtered.1, filtered.2.1⟩

theorem queue_next {statement : Statement String} (creates : statement.created = [])
    (rows : next.rows.map SagaCompensationRow.job =
      statement.run (state.rows.map SagaCompensationRow.job))
    (recorded : next.recorded = state.recorded) : next.queue = statement.next state.queue := by
  simp only [CompensationState.queue, Statement.next, rows, recorded, creates, List.map_nil,
    List.append_nil]

theorem succeed_inTime {instanceId : ℕ} {row : ClaimedSagaCompensation}
    {rest : List ClaimedSagaCompensation} {now : ℤ}
    (completed : state.poll instanceId = .completed row rest)
    (inTime : MarkInTime maxAttempts state (.markProcessed instanceId)) :
    ∀ job ∈ state.queue.jobs, (Statement.succeed row.id now).InTime job := by
  intro job member named
  rcases List.mem_map.mp member with ⟨stored, known, rfl⟩
  simpa [SagaCompensationRow.job] using inTime row rest completed stored known named

theorem fail_inTime {instanceId : ℕ} {row : ClaimedSagaCompensation} {error : String}
    {rest : List ClaimedSagaCompensation}
    (failed : state.poll instanceId = .failed row error rest)
    (inTime : MarkInTime maxAttempts state (.markFailed instanceId)) :
    ∀ job ∈ state.queue.jobs, (Statement.fail row.id row.attempts maxAttempts).InTime job := by
  intro job member named
  rcases List.mem_map.mp member with ⟨stored, known, rfl⟩
  simpa [SagaCompensationRow.job] using inTime row error rest failed stored known named

theorem shows_queue : Shows (sagaCompensations registered maxAttempts pollBatchSize)
    CompensationState.queue (fun state label _ => MarkInTime maxAttempts state label) := by
  intro state label next sound move
  cases move with
  | @recordFailed id createdAt sagaCommand action error fresh =>
      refine .inr ⟨.create id, ?_, ?_, fun _ _ _ => trivial⟩
      · intro used
        rcases List.mem_map.mp used with ⟨compensation, known, same⟩
        exact fresh compensation known same
      · have kept : (Statement.create id).act = (some : Job String → Option (Job String)) :=
          funext fun _ => rfl
        simp [CompensationState.queue, Statement.next, Statement.run, Statement.created, kept,
          PrismaSagaCompensationRepository.recordFailed, SagaCompensationRow.job]
  | @claimPendingBatch instanceId scan locked ids now idle visits selected =>
      refine .inr ⟨.claim ids now, ?_, queue_next rfl (claim_queue _ _ _) rfl, fun _ _ _ => trivial⟩
      rw [selected]
      refine sound.permits_claim SagaCompensationRow.job ?_ now
      intro row chosen
      rcases mem_selectPending chosen with ⟨scanned, pending⟩
      refine ⟨List.mem_map_of_mem (visits.mem_iff.mp scanned), ?_⟩
      simp [SagaCompensationRow.job, pending]
  | findClaimed | runCompleted | runFailed | runMissing | markProcessedLost | crash =>
      exact .inl rfl
  | @markProcessed instanceId row rest now completed found =>
      exact .inr ⟨.succeed row.id now, trivial, queue_next rfl (markProcessed_queue _ _ _) rfl,
        succeed_inTime completed⟩
  | @markProcessedThrown instanceId row rest now error completed =>
      exact .inr ⟨.succeed row.id now, trivial, queue_next rfl (markProcessed_queue _ _ _) rfl,
        succeed_inTime completed⟩
  | @markFailed instanceId row error rest failed found =>
      exact .inr ⟨.fail row.id row.attempts maxAttempts, trivial,
        queue_next rfl (markFailed_queue _ _ _ _ _) rfl, fail_inTime failed⟩
  | @markFailedThrown instanceId row error rest failed =>
      exact .inr ⟨.fail row.id row.attempts maxAttempts, trivial,
        queue_next rfl (markFailed_queue _ _ _ _ _) rfl, fail_inTime failed⟩
  | reapStaleClaims =>
      exact .inr ⟨.reap _, trivial, queue_next rfl (reapStaleInflight_queue _ _) rfl,
        fun _ _ _ => trivial⟩
  | purgeProcessed =>
      exact .inr ⟨.purge _, trivial, queue_next rfl (purgeProcessed_queue _ _) rfl,
        fun _ _ _ => trivial⟩

theorem queue_initial (start : CompensationState)
    (initial : (sagaCompensations registered maxAttempts pollBatchSize).Initial start) :
    (claimQueue String).Initial start.queue := by
  simp [claimQueue, CompensationState.queue, initial.1, initial.2.1]

theorem queue_sound
    (reached : (sagaCompensations registered maxAttempts pollBatchSize).Reachable state) :
    state.queue.Sound :=
  shows_queue.sound queue_initial reached

end CoreApi.Compensation
