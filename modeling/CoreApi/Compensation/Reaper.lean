import Mathlib.Data.List.Sort
import Mathlib.Logic.Function.Basic
import CoreApi.Foundation.Json
import CoreApi.Foundation.TransitionSystem

/-!
# Saga compensations and their reaper

A compensation that fails when its saga fails is recorded. Any number of
instances claim batches of pending rows, run the action of each row again and
mark the row with the outcome; stale claims are taken back, and a nightly job
deletes rows that are long done. An instance may crash between any two steps,
and a statement may be lost, or take effect although its caller is told that it
failed.
-/

namespace CoreApi.Compensation

inductive SagaCompensationStatus where
  | pending
  | inflight
  | done
  | failedDlq
deriving DecidableEq

/-- What is to be compensated, as a saga hands it over. -/
structure CompensationAction where
  type : String
  payload : Json

/-- The columns of a compensation that never change. -/
structure SagaCompensation where
  id : String
  sagaCommand : String
  actionType : String
  payload : Json
  createdAt : ℤ

/-- A row of `saga_compensations`. -/
structure SagaCompensationRow extends SagaCompensation where
  status : SagaCompensationStatus
  attempts : ℕ
  lastError : Option String
  processedAt : Option ℤ
  claimedAt : Option ℤ

/-- What a claim returns of a row. -/
structure ClaimedSagaCompensation extends SagaCompensation where
  attempts : ℕ

/-- A row without the columns that a claim does not return. -/
def SagaCompensationRow.claimed (row : SagaCompensationRow) : ClaimedSagaCompensation :=
  { row with attempts := row.attempts }

namespace PrismaSagaCompensationRepository

/-- The row of a failed compensation; the database fills in the id and the time. -/
def recordFailed (id : String) (createdAt : ℤ) (sagaCommand : String) (action : CompensationAction)
    (error : String) : SagaCompensationRow where
  id := id
  sagaCommand := sagaCommand
  actionType := action.type
  payload := action.payload
  createdAt := createdAt
  status := .pending
  attempts := 0
  lastError := some error
  processedAt := none
  claimedAt := none

/-- `ORDER BY "createdAt" ASC` -/
def byCreatedAt (rows : List SagaCompensationRow) : List SagaCompensationRow :=
  rows.insertionSort fun row other => row.createdAt ≤ other.createdAt

/-- The rows a claim takes: the oldest pending ones that no other statement holds locked. -/
def selectPending (rows : List SagaCompensationRow) (limit : ℕ) (locked : String → Bool) :
    List SagaCompensationRow :=
  (byCreatedAt (rows.filter fun row => row.status = .pending ∧ ¬ locked row.id)).take limit

/-- The rows after some of them were claimed. -/
def claim (rows : List SagaCompensationRow) (ids : List String) (now : ℤ) :
    List SagaCompensationRow :=
  rows.map fun row =>
    if row.id ∈ ids then { row with status := .inflight, claimedAt := some now } else row

/-- The second query of a claim. -/
def findClaimed (rows : List SagaCompensationRow) (ids : List String) :
    List ClaimedSagaCompensation :=
  (byCreatedAt (rows.filter fun row => row.id ∈ ids)).map SagaCompensationRow.claimed

/-- The row of a compensation that has run is done. -/
def markProcessed (rows : List SagaCompensationRow) (id : String) (now : ℤ) :
    List SagaCompensationRow :=
  rows.map fun row =>
    if row.id = id then { row with status := .done, processedAt := some now, claimedAt := none }
    else row

/-- A row that failed waits for another attempt, or goes to the dead letters after the last. -/
def markFailed (rows : List SagaCompensationRow) (id : String) (currentAttempts : ℕ)
    (error : String) (maxAttempts : ℕ) : List SagaCompensationRow :=
  let nextAttempts := currentAttempts + 1
  let nextStatus : SagaCompensationStatus :=
    if nextAttempts ≥ maxAttempts then .failedDlq else .pending
  rows.map fun row =>
    if row.id = id then
      { row with
        attempts := nextAttempts
        lastError := some error
        status := nextStatus
        claimedAt := none }
    else row

/-- Claims from before the cutoff are taken back. -/
def reapStaleInflight (rows : List SagaCompensationRow) (cutoff : ℤ) : List SagaCompensationRow :=
  rows.map fun row =>
    if row.status = .inflight ∧ row.claimedAt.any (· < cutoff) then
      { row with status := .pending, claimedAt := none }
    else row

/-- Rows that were done before a time are deleted. -/
def purgeProcessed (rows : List SagaCompensationRow) (olderThan : ℤ) : List SagaCompensationRow :=
  rows.filter fun row => ¬ (row.status = .done ∧ row.processedAt.any (· < olderThan))

end PrismaSagaCompensationRepository

/-- What `get` throws when nothing is registered for an action type. -/
def SagaCompensationRegistry.noRunner (actionType : String) : String :=
  "Error: No compensation runner registered for actionType \"" ++ actionType ++ "\""

/-- Where the poll of an instance stands: with the ids of a claim, with the rest of its batch, or
with an outcome still to be marked. No poll is running when the batch is empty. -/
inductive Poll where
  | claimed (ids : List String)
  | running (batch : List ClaimedSagaCompensation)
  | completed (row : ClaimedSagaCompensation) (rest : List ClaimedSagaCompensation)
  | failed (row : ClaimedSagaCompensation) (error : String) (rest : List ClaimedSagaCompensation)

/-- The table, the instances, and as history every compensation recorded and every one whose runner
completed. -/
structure CompensationState where
  rows : List SagaCompensationRow
  poll : ℕ → Poll
  recorded : List SagaCompensation
  completed : List SagaCompensation

/-- One instance moves on. -/
def CompensationState.put (state : CompensationState) (instanceId : ℕ) (poll : Poll) :
    CompensationState :=
  { state with poll := Function.update state.poll instanceId poll }

/-- Who takes a step: a saga that records a compensation, an instance of the reaper, one of the
maintenance jobs. -/
inductive CompensationLabel where
  | recordFailed
  | claimPendingBatch (instanceId : ℕ)
  | findClaimed (instanceId : ℕ)
  | run (instanceId : ℕ)
  | markProcessed (instanceId : ℕ)
  | markFailed (instanceId : ℕ)
  | lose (instanceId : ℕ)
  | crash (instanceId : ℕ)
  | reapStaleClaims
  | purgeProcessed

open PrismaSagaCompensationRepository

variable (registered : String → Bool) (maxAttempts pollBatchSize : ℕ)

/-- One awaited database call or one run of a compensation. -/
inductive CompensationStep :
    CompensationState → CompensationLabel → CompensationState → Prop where
  | recordFailed {state : CompensationState} {id : String} {createdAt : ℤ} {sagaCommand : String}
      {action : CompensationAction} {error : String}
      (fresh : ∀ compensation ∈ state.recorded, compensation.id ≠ id) :
      CompensationStep state .recordFailed { state with
        rows := state.rows ++ [recordFailed id createdAt sagaCommand action error]
        recorded := state.recorded ++
          [(recordFailed id createdAt sagaCommand action error).toSagaCompensation] }
  | claimPendingBatch {state : CompensationState} {instanceId : ℕ}
      {scan : List SagaCompensationRow} {locked : String → Bool} {ids : List String} {now : ℤ}
      (idle : state.poll instanceId = .running []) (visits : scan.Perm state.rows)
      (selected : ids = (selectPending scan pollBatchSize locked).map fun row => row.id) :
      CompensationStep state (.claimPendingBatch instanceId)
        { state.put instanceId (.claimed ids) with rows := claim state.rows ids now }
  | findClaimed {state : CompensationState} {instanceId : ℕ} {ids : List String}
      {scan : List SagaCompensationRow} (claimed : state.poll instanceId = .claimed ids)
      (visits : scan.Perm state.rows) :
      CompensationStep state (.findClaimed instanceId)
        (state.put instanceId (.running (findClaimed scan ids)))
  | runCompleted {state : CompensationState} {instanceId : ℕ} {row : ClaimedSagaCompensation}
      {rest : List ClaimedSagaCompensation}
      (next : state.poll instanceId = .running (row :: rest))
      (runner : registered row.actionType) :
      CompensationStep state (.run instanceId)
        { state.put instanceId (.completed row rest) with
          completed := state.completed ++ [row.toSagaCompensation] }
  | runFailed {state : CompensationState} {instanceId : ℕ} {row : ClaimedSagaCompensation}
      {rest : List ClaimedSagaCompensation} {error : String}
      (next : state.poll instanceId = .running (row :: rest))
      (runner : registered row.actionType) :
      CompensationStep state (.run instanceId) (state.put instanceId (.failed row error rest))
  | runMissing {state : CompensationState} {instanceId : ℕ} {row : ClaimedSagaCompensation}
      {rest : List ClaimedSagaCompensation}
      (next : state.poll instanceId = .running (row :: rest))
      (unknown : ¬ registered row.actionType) :
      CompensationStep state (.run instanceId)
        (state.put instanceId
          (.failed row (SagaCompensationRegistry.noRunner row.actionType) rest))
  | markProcessed {state : CompensationState} {instanceId : ℕ} {row : ClaimedSagaCompensation}
      {rest : List ClaimedSagaCompensation} {now : ℤ}
      (completed : state.poll instanceId = .completed row rest)
      (found : ∃ stored ∈ state.rows, stored.id = row.id) :
      CompensationStep state (.markProcessed instanceId)
        { state.put instanceId (.running rest) with
          rows := markProcessed state.rows row.id now }
  -- the row is gone, or the statement takes effect and its confirmation is lost: either way the
  -- call throws, and the handler goes on to mark the row as failed
  | markProcessedThrown {state : CompensationState} {instanceId : ℕ}
      {row : ClaimedSagaCompensation} {rest : List ClaimedSagaCompensation} {now : ℤ}
      {error : String} (completed : state.poll instanceId = .completed row rest) :
      CompensationStep state (.markProcessed instanceId)
        { state.put instanceId (.failed row error rest) with
          rows := markProcessed state.rows row.id now }
  | markProcessedLost {state : CompensationState} {instanceId : ℕ}
      {row : ClaimedSagaCompensation} {rest : List ClaimedSagaCompensation} {error : String}
      (completed : state.poll instanceId = .completed row rest) :
      CompensationStep state (.lose instanceId) (state.put instanceId (.failed row error rest))
  | markFailed {state : CompensationState} {instanceId : ℕ} {row : ClaimedSagaCompensation}
      {error : String} {rest : List ClaimedSagaCompensation}
      (failed : state.poll instanceId = .failed row error rest)
      (found : ∃ stored ∈ state.rows, stored.id = row.id) :
      CompensationStep state (.markFailed instanceId)
        { state.put instanceId (.running rest) with
          rows := markFailed state.rows row.id row.attempts error maxAttempts }
  -- what `markFailed` throws leaves the loop, and the rest of the batch stays claimed
  | markFailedThrown {state : CompensationState} {instanceId : ℕ} {row : ClaimedSagaCompensation}
      {error : String} {rest : List ClaimedSagaCompensation}
      (failed : state.poll instanceId = .failed row error rest) :
      CompensationStep state (.markFailed instanceId)
        { state.put instanceId (.running []) with
          rows := markFailed state.rows row.id row.attempts error maxAttempts }
  | crash {state : CompensationState} {instanceId : ℕ} :
      CompensationStep state (.crash instanceId) (state.put instanceId (.running []))
  | reapStaleClaims {state : CompensationState} {cutoff : ℤ} :
      CompensationStep state .reapStaleClaims
        { state with rows := reapStaleInflight state.rows cutoff }
  | purgeProcessed {state : CompensationState} {olderThan : ℤ} :
      CompensationStep state .purgeProcessed
        { state with rows := purgeProcessed state.rows olderThan }

/-- The table of compensations with all instances of the reaper, from the empty table. -/
def sagaCompensations : TransitionSystem CompensationState CompensationLabel where
  Initial state := state.rows = [] ∧ state.recorded = [] ∧ state.completed = [] ∧
    ∀ instanceId, state.poll instanceId = .running []
  Step := CompensationStep registered maxAttempts pollBatchSize

end CoreApi.Compensation
