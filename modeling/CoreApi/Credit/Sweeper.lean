import CoreApi.Credit.Commands
import CoreApi.Foundation.Loop

/-!
# The sweeper of expired reservations

A job looks for holds that are older than a cutoff and that no row has closed,
and dispatches a release for each of them. One `try` stands around the whole
loop, so the first release that throws ends the sweep.
-/

namespace CoreApi.Credit

/-- What the query returns of a hold. -/
structure StaleReservationRow where
  orgId : String
  userId : String
  reservationId : Option String
deriving DecidableEq

/-- The command that the sweeper dispatches for a row. A row without an id holds a `null`, which
is the id of no reservation. -/
def StaleReservationRow.release (row : StaleReservationRow) :
    Option ReleaseCreditReservationCommand :=
  row.reservationId.map fun id =>
    { orgId := row.orgId
      userId := row.userId
      reservationId := id
      question := ""
      reason := "EXPIRED" }

namespace ExpiredReservationSweeperService

/-- `LIMIT 50` -/
def batchSize : ℕ := 50

/-- The subquery of `NOT EXISTS`; no text equals a missing one. -/
def closes (reserved row : CreditEventRow) : Bool :=
  row.aggregateId = reserved.aggregateId ∧
    (row.eventType = "CreditReservationCommitted" ∨
      row.eventType = "CreditReservationReleased") ∧
    row.payload.reservationId.isSome ∧
    row.payload.reservationId = reserved.payload.reservationId

/-- The condition on a row of `credit_events`. -/
def isStale (table : List CreditEventRow) (cutoff : ℤ) (row : CreditEventRow) : Bool :=
  row.eventType = "CreditReserved" ∧ row.createdAt < cutoff ∧ ¬table.any (closes row)

/-- What the query returns for a row. -/
def staleRow (row : CreditEventRow) : StaleReservationRow where
  orgId := row.orgId
  userId := row.userId
  reservationId := row.payload.reservationId

/-- The query, less its limit. -/
def staleReservations (table : List CreditEventRow) (cutoff : ℤ) : List StaleReservationRow :=
  (table.filter (isStale table cutoff)).map staleRow

/-- The query, when the database visits the rows in some order. -/
def findStaleReservations (visited : List CreditEventRow) (cutoff : ℤ) :
    List StaleReservationRow :=
  (staleReservations visited cutoff).take batchSize

variable {Error State : Type}

/-- The answer tells whether the job registry records a success. -/
def sweep (findStaleReservations : EStateM Error State (List StaleReservationRow))
    (execute : StaleReservationRow → EStateM Error State Unit) : EStateM Error State Bool :=
  try
    let stale ← findStaleReservations
    stale.forM execute
    pure true
  catch _ =>
    pure false

/-- The rows whose release a sweep dispatches, when some of the releases throw. -/
def dispatched (throws : StaleReservationRow → Option Error) (stale : List StaleReservationRow) :
    List StaleReservationRow :=
  match sweep (pure stale) (fun row => Loop.logged row (throws row)) [] with
  | .ok _ rows => rows
  | .error _ rows => rows

/-- A sweep that records a success has found its rows and released them all. -/
theorem sweep_eq_true {find : EStateM Error State (List StaleReservationRow)}
    {execute : StaleReservationRow → EStateM Error State Unit} {before after : State} :
    sweep find execute before = .ok true after ↔
      ∃ stale found, find before = .ok stale found ∧ stale.forM execute found = .ok () after := by
  simp only [sweep, Loop.tryCatch_run, Loop.bind_run]
  cases find before with
  | error error found => simp [pure, EStateM.pure]
  | ok stale found =>
      constructor
      · intro swept
        refine ⟨stale, found, rfl, ?_⟩
        cases ran : stale.forM execute found with
        | error error middle =>
            simp only [ran] at swept
            cases swept
        | ok value middle =>
            simp only [ran] at swept
            cases swept
            rfl
      · rintro ⟨_, _, ⟨⟩, ran⟩
        simp only [ran]
        rfl

/-- A sweep that runs its loop reports what the loop came to, and keeps what it has done. -/
theorem sweep_eq {execute : StaleReservationRow → EStateM Error State Unit}
    {stale : List StaleReservationRow} {before after : State} {thrown : Option Error}
    (ran : stale.forM execute before = Loop.outcome thrown after) :
    sweep (pure stale) execute before = .ok thrown.isNone after := by
  simp only [sweep, Loop.tryCatch_run, Loop.bind_run, pure, EStateM.pure, ran]
  cases thrown <;> rfl

/-- A sweep dispatches the releases up to and including the first one that throws. -/
theorem dispatched_eq (throws : StaleReservationRow → Option Error)
    (stale : List StaleReservationRow) :
    dispatched throws stale = Loop.visited (fun row => (throws row).isSome) stale := by
  have swept := sweep_eq (Loop.forM_eq (fun row => Loop.logged_eq row (throws row)) stale [])
  simp only [dispatched, swept]
  rw [List.foldl_append_eq_append, List.nil_append, ← List.flatMap_def]
  exact List.flatMap_singleton' _

/-- A sweep dispatches the release of every stale reservation if and only if none but the last
release of the batch throws. -/
theorem sweep_dispatches_all_iff (throws : StaleReservationRow → Option Error)
    (stale : List StaleReservationRow) :
    dispatched throws stale = stale ↔ ∀ row ∈ stale.dropLast, throws row = none := by
  rw [dispatched_eq, Loop.visited_eq_iff]
  simp only [Option.isSome_eq_false_iff, Option.isNone_iff_eq_none]

/-- The row whose release throws in the example. -/
def failingRow : StaleReservationRow := ⟨"org-1", "ann", some "res-1"⟩

/-- The row after it. -/
def expiredRow : StaleReservationRow := ⟨"org-1", "bob", some "res-2"⟩

/-- The release of the first reservation throws, and the second one is not released. -/
theorem sweep_stops_at_throw :
    ¬dispatched (fun row => if row = failingRow then some CreditError.creditConcurrency else none)
      [failingRow, expiredRow] = [failingRow, expiredRow] := by
  decide

end ExpiredReservationSweeperService

end CoreApi.Credit
