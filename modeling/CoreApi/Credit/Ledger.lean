import Mathlib.Data.List.Sort
import CoreApi.Credit.AccountInvariant

/-!
# Stored ledger rows

The `credit_events` table, the mapper between rows and ledger events, and the
two repository operations of the write side: loading a wallet by folding its
stream and saving the events it raised under the unique key
`(aggregateId, version)`.
-/

namespace CoreApi.Credit

namespace CreditEventType

def text : CreditEventType → String
  | .creditGranted => "CreditGranted"
  | .creditSpent => "CreditSpent"
  | .creditRefunded => "CreditRefunded"
  | .creditReserved => "CreditReserved"
  | .creditReservationCommitted => "CreditReservationCommitted"
  | .creditReservationReleased => "CreditReservationReleased"
  | .unknown name => name

/-- The cast `row.eventType as CreditEventType`. -/
def ofText (name : String) : CreditEventType :=
  match name with
  | "CreditGranted" => .creditGranted
  | "CreditSpent" => .creditSpent
  | "CreditRefunded" => .creditRefunded
  | "CreditReserved" => .creditReserved
  | "CreditReservationCommitted" => .creditReservationCommitted
  | "CreditReservationReleased" => .creditReservationReleased
  | name => .unknown name

end CreditEventType

/-- A row of `credit_events`; the payload column holds the event's payload as JSON. -/
structure CreditEventRow where
  aggregateId : String
  orgId : String
  userId : String
  eventType : String
  version : ℕ
  payload : CreditEventPayload
  createdAt : ℤ
deriving DecidableEq

namespace CreditEventMapper

/-- The cast of the JSON column to the payload shape. -/
def decodePayload (payload : CreditEventPayload) : CreditEventPayload := payload

/-- The event that a row stands for. -/
def toDomain (row : CreditEventRow) : CreditLedgerEvent where
  aggregateId := row.aggregateId
  orgId := row.orgId
  userId := row.userId
  eventType := .ofText row.eventType
  version := row.version
  payload := decodePayload row.payload

/-- The inserted row; `createdAt` is filled in by the database. -/
def toPersistence (event : CreditLedgerEvent) (createdAt : ℤ) : CreditEventRow where
  aggregateId := event.aggregateId
  orgId := event.orgId
  userId := event.userId
  eventType := event.eventType.text
  version := event.version
  payload := event.payload
  createdAt := createdAt

end CreditEventMapper

/-- `findMany({ where: { aggregateId, orgId }, orderBy: { version: 'asc' } })`. -/
def findWalletRows (table : List CreditEventRow) (orgId userId : String) : List CreditEventRow :=
  (table.filter fun row =>
    row.aggregateId = CreditAccount.walletId orgId userId ∧ row.orgId = orgId).insertionSort
      fun left right => left.version ≤ right.version

/-- The stream of a wallet, as the domain sees it. -/
def walletStream (table : List CreditEventRow) (orgId userId : String) : List CreditLedgerEvent :=
  (findWalletRows table orgId userId).map CreditEventMapper.toDomain

namespace PrismaCreditEventRepository

/-- The wallet with the rows of its stream replayed; a wallet without rows is empty. -/
def loadOrOpen (table : List CreditEventRow) (orgId userId : String) : CreditAccount :=
  CreditAccount.rehydrate orgId userId (walletStream table orgId userId)

/-- The rows `createMany` inserts, all or none; `none` is a violation of the unique key. -/
def createMany (table rows : List CreditEventRow) : Option (List CreditEventRow) :=
  let key := fun row : CreditEventRow => (row.aggregateId, row.version)
  if (rows.map key).Nodup ∧ ∀ row ∈ rows, key row ∉ table.map key then some rows else none

/-- The rows a save inserts, or the concurrency error a unique violation is turned into. -/
def save (table : List CreditEventRow) (now : ℤ) (account : CreditAccount) :
    Except CreditError (List CreditEventRow) :=
  let events := account.uncommitted
  if events = [] then .ok []
  else
    match createMany table (events.map fun event => CreditEventMapper.toPersistence event now) with
    | some rows => .ok rows
    | none => .error .creditConcurrency

/-- Saving one event fails exactly when its version is taken. -/
theorem save_record (table : List CreditEventRow) (now : ℤ) {account : CreditAccount}
    (saved : account.uncommitted = []) (event : CreditLedgerEvent) :
    save table now (account.record event) =
      if (event.aggregateId, event.version) ∈ table.map fun row => (row.aggregateId, row.version)
      then .error .creditConcurrency
      else .ok [CreditEventMapper.toPersistence event now] := by
  by_cases taken :
    (event.aggregateId, event.version) ∈ table.map fun row => (row.aggregateId, row.version)
  all_goals
    simp only [save, createMany, CreditAccount.record, saved, List.nil_append, List.map_singleton,
      List.cons_ne_nil, if_false, List.nodup_singleton, List.forall_mem_singleton, true_and,
      CreditEventMapper.toPersistence, taken, not_true_eq_false, not_false_eq_true, if_true]

end PrismaCreditEventRepository

end CoreApi.Credit
