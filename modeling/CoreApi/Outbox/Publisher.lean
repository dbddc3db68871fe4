import Mathlib.Data.List.Sort
import Mathlib.Logic.Function.Basic
import CoreApi.Foundation.Json
import CoreApi.Foundation.TransitionSystem

/-!
# The outbox and its publishers

Commands append events to the outbox. Any number of publisher instances claim
batches of pending rows, oldest first, publish them one by one and mark each row
with the outcome; a reaper returns rows that have been claimed for too long, and
a cleanup job deletes rows that were processed long ago. An instance may crash
between any two steps, and a call that marks a row may be lost.
-/

namespace CoreApi.Outbox

inductive OutboxStatus where
  | pending
  | inflight
  | processed
  | failedDlq
deriving DecidableEq

/-- The columns of an event that never change. -/
structure OutboxEvent where
  id : String
  aggregateType : String
  aggregateId : String
  eventType : String
  orgId : String
  payload : Json
  createdAt : ℤ
  traceparent : Option String

/-- A row of `outbox_events`. -/
structure OutboxRow extends OutboxEvent where
  status : OutboxStatus
  attempts : ℕ
  lastError : Option String
  processedAt : Option ℤ
  claimedAt : Option ℤ

/-- What a claim returns of a row. -/
structure ClaimedOutboxEvent extends OutboxEvent where
  attempts : ℕ

/-- What a command appends; the database fills in the rest. -/
structure OutboxAppendInput where
  aggregateType : String
  aggregateId : String
  eventType : String
  orgId : String
  payload : Json

/-- The row of an appended event; the database fills in the id and the time. -/
def PrismaOutboxWriter.append (id : String) (createdAt : ℤ) (traceparent : Option String)
    (input : OutboxAppendInput) : OutboxRow where
  id := id
  aggregateType := input.aggregateType
  aggregateId := input.aggregateId
  eventType := input.eventType
  orgId := input.orgId
  payload := input.payload
  createdAt := createdAt
  traceparent := traceparent
  status := .pending
  attempts := 0
  lastError := none
  processedAt := none
  claimedAt := none

/-- A row without the columns that a claim does not return. -/
def OutboxRow.claimed (row : OutboxRow) : ClaimedOutboxEvent :=
  { row with attempts := row.attempts }

namespace PrismaOutboxRepository

/-- `ORDER BY "createdAt" ASC` -/
def byCreatedAt (rows : List OutboxRow) : List OutboxRow :=
  rows.insertionSort fun row other => row.createdAt ≤ other.createdAt

/-- The rows a claim takes: the oldest pending ones that no other statement holds locked. The rows
are given in the order in which the database visits them, which decides between equal times. -/
def selectPending (rows : List OutboxRow) (limit : ℕ) (locked : String → Bool) : List OutboxRow :=
  (byCreatedAt (rows.filter fun row => row.status = .pending ∧ ¬ locked row.id)).take limit

/-- The rows after some of them were claimed. -/
def claim (rows : List OutboxRow) (ids : List String) (now : ℤ) : List OutboxRow :=
  rows.map fun row =>
    if row.id ∈ ids then { row with status := .inflight, claimedAt := some now } else row

/-- The second query of a claim. -/
def findClaimed (rows : List OutboxRow) (ids : List String) : List ClaimedOutboxEvent :=
  (byCreatedAt (rows.filter fun row => row.id ∈ ids)).map OutboxRow.claimed

/-- The row of a published event is processed. -/
def markProcessed (rows : List OutboxRow) (id : String) (now : ℤ) : List OutboxRow :=
  rows.map fun row =>
    if row.id = id then
      { row with status := .processed, processedAt := some now, claimedAt := none }
    else row

/-- A row that failed waits for another attempt, or goes to the dead letters after the last. -/
def markFailed (rows : List OutboxRow) (id : String) (currentAttempts : ℕ) (error : String)
    (maxAttempts : ℕ) : List OutboxRow :=
  let nextAttempts := currentAttempts + 1
  let nextStatus : OutboxStatus := if nextAttempts ≥ maxAttempts then .failedDlq else .pending
  rows.map fun row =>
    if row.id = id then
      { row with
        attempts := nextAttempts
        lastError := some error
        status := nextStatus
        claimedAt := none }
    else row

/-- Claims from before the cutoff are taken back. -/
def reapStaleInflight (rows : List OutboxRow) (cutoff : ℤ) : List OutboxRow :=
  rows.map fun row =>
    if row.status = .inflight ∧ row.claimedAt.any (· < cutoff) then
      { row with status := .pending, claimedAt := none }
    else row

/-- Rows that were processed before a time are deleted. -/
def purgeProcessed (rows : List OutboxRow) (olderThan : ℤ) : List OutboxRow :=
  rows.filter fun row => ¬ (row.status = .processed ∧ row.processedAt.any (· < olderThan))

end PrismaOutboxRepository

/-- Where an instance stands: with the ids of a claim, with the rest of its batch, or with the
outcome of a publish still to be marked. It is idle when its batch is empty. -/
inductive Publisher where
  | claimed (ids : List String)
  | publishing (batch : List ClaimedOutboxEvent)
  | marking (succeeded : Bool) (event : ClaimedOutboxEvent) (rest : List ClaimedOutboxEvent)

/-- The table, the instances, and as history every event appended and every event that reached the
broker, in order. -/
structure OutboxState where
  rows : List OutboxRow
  publisher : ℕ → Publisher
  appended : List OutboxEvent
  published : List OutboxEvent

/-- One publisher moves on. -/
def OutboxState.put (state : OutboxState) (instanceId : ℕ) (publisher : Publisher) : OutboxState :=
  { state with publisher := Function.update state.publisher instanceId publisher }

/-- Who takes a step: a command that appends, a publisher, one of the maintenance jobs. -/
inductive OutboxLabel where
  | append
  | claim (instanceId : ℕ) (scan : List OutboxRow) (locked : String → Bool)
  | findClaimed (instanceId : ℕ)
  | publish (instanceId : ℕ)
  | publishFailed (instanceId : ℕ)
  | publishUnconfirmed (instanceId : ℕ)
  | mark (instanceId : ℕ)
  | crash (instanceId : ℕ)
  | reap
  | purge

open PrismaOutboxRepository

variable (maxAttempts batchSize : ℕ)

/-- One awaited database call or one call of the broker. -/
inductive OutboxStep : OutboxState → OutboxLabel → OutboxState → Prop where
  | append {state : OutboxState} {id : String} {createdAt : ℤ} {traceparent : Option String}
      {input : OutboxAppendInput} (fresh : ∀ event ∈ state.appended, event.id ≠ id) :
      OutboxStep state .append { state with
        rows := state.rows ++ [PrismaOutboxWriter.append id createdAt traceparent input]
        appended := state.appended ++
          [(PrismaOutboxWriter.append id createdAt traceparent input).toOutboxEvent] }
  | claim {state : OutboxState} {instanceId : ℕ} {scan : List OutboxRow} {locked : String → Bool}
      {ids : List String} {now : ℤ} (idle : state.publisher instanceId = .publishing [])
      (visits : scan.Perm state.rows)
      (selected : ids = (selectPending scan batchSize locked).map fun row => row.id) :
      OutboxStep state (.claim instanceId scan locked)
        { state.put instanceId (.claimed ids) with rows := claim state.rows ids now }
  | findClaimed {state : OutboxState} {instanceId : ℕ} {ids : List String} {scan : List OutboxRow}
      (claimed : state.publisher instanceId = .claimed ids) (visits : scan.Perm state.rows) :
      OutboxStep state (.findClaimed instanceId)
        (state.put instanceId (.publishing (findClaimed scan ids)))
  | publish {state : OutboxState} {instanceId : ℕ} {event : ClaimedOutboxEvent}
      {rest : List ClaimedOutboxEvent}
      (next : state.publisher instanceId = .publishing (event :: rest)) :
      OutboxStep state (.publish instanceId)
        { state.put instanceId (.marking true event rest) with
          published := state.published ++ [event.toOutboxEvent] }
  | publishFailed {state : OutboxState} {instanceId : ℕ} {event : ClaimedOutboxEvent}
      {rest : List ClaimedOutboxEvent}
      (next : state.publisher instanceId = .publishing (event :: rest)) :
      OutboxStep state (.publishFailed instanceId)
        (state.put instanceId (.marking false event rest))
  -- the event reaches the broker, but the confirmation is lost
  | publishUnconfirmed {state : OutboxState} {instanceId : ℕ} {event : ClaimedOutboxEvent}
      {rest : List ClaimedOutboxEvent}
      (next : state.publisher instanceId = .publishing (event :: rest)) :
      OutboxStep state (.publishUnconfirmed instanceId)
        { state.put instanceId (.marking false event rest) with
          published := state.published ++ [event.toOutboxEvent] }
  | markProcessed {state : OutboxState} {instanceId : ℕ} {event : ClaimedOutboxEvent}
      {rest : List ClaimedOutboxEvent} {now : ℤ}
      (succeeded : state.publisher instanceId = .marking true event rest) :
      OutboxStep state (.mark instanceId)
        { state.put instanceId (.publishing rest) with
          rows := markProcessed state.rows event.id now }
  | markFailed {state : OutboxState} {instanceId : ℕ} {event : ClaimedOutboxEvent}
      {rest : List ClaimedOutboxEvent} {error : String}
      (failed : state.publisher instanceId = .marking false event rest) :
      OutboxStep state (.mark instanceId)
        { state.put instanceId (.publishing rest) with
          rows := markFailed state.rows event.id event.attempts error maxAttempts }
  | markLost {state : OutboxState} {instanceId : ℕ} {succeeded : Bool}
      {event : ClaimedOutboxEvent} {rest : List ClaimedOutboxEvent}
      (marking : state.publisher instanceId = .marking succeeded event rest) :
      OutboxStep state (.mark instanceId) (state.put instanceId (.publishing rest))
  | crash {state : OutboxState} {instanceId : ℕ} :
      OutboxStep state (.crash instanceId) (state.put instanceId (.publishing []))
  | reap {state : OutboxState} {cutoff : ℤ} :
      OutboxStep state .reap { state with rows := reapStaleInflight state.rows cutoff }
  | purge {state : OutboxState} {olderThan : ℤ} :
      OutboxStep state .purge { state with rows := purgeProcessed state.rows olderThan }

/-- The table of events with all publishers, from the empty table. -/
def outbox : TransitionSystem OutboxState OutboxLabel where
  Initial state := state.rows = [] ∧ state.appended = [] ∧ state.published = [] ∧
    ∀ instanceId, state.publisher instanceId = .publishing []
  Step := OutboxStep maxAttempts batchSize

end CoreApi.Outbox
