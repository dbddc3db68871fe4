import Mathlib.Algebra.Order.Field.Rat
import CoreApi.Foundation.OrderedMap

/-!
# The credit account aggregate

`CreditAccount` is the event-sourced wallet of one user in one organization.
Its balance and its reservations are folded from the ledger events; every
operation checks what it needs against the folded state and then raises at most
one event. A method that throws leaves the object as the statements before the
throw left it, so the operations live in a state monad that keeps its state on
an error.
-/

namespace CoreApi

/-- A JavaScript number: a finite value, read as exact, or `NaN` or an infinity. -/
inductive Number where
  | finite (value : ℚ)
  | nonFinite
deriving DecidableEq

namespace Number

/-- `Number.isInteger`. -/
def isInteger : Number → Bool
  | .finite value => value.isInt
  | .nonFinite => false

end Number

namespace Credit

/-- The event types of the ledger; `unknown` is any other text of the plain string column. -/
inductive CreditEventType where
  | creditGranted
  | creditSpent
  | creditRefunded
  | creditReserved
  | creditReservationCommitted
  | creditReservationReleased
  | unknown (name : String)
deriving DecidableEq

/-- The amount is always positive on events the aggregate raises; the type gives its direction. -/
structure CreditEventPayload where
  amount : ℚ
  reason : String
  reservationId : Option String
deriving DecidableEq

/-- An event of a wallet. -/
structure CreditLedgerEvent where
  aggregateId : String
  orgId : String
  userId : String
  eventType : CreditEventType
  version : ℕ
  payload : CreditEventPayload
deriving DecidableEq

inductive ReservationStatus where
  | opened
  | committed
  | released
deriving DecidableEq

/-- The status texts of the source; an absent reservation reads `UNKNOWN` in errors. -/
def ReservationStatus.text : Option ReservationStatus → String
  | some .opened => "OPEN"
  | some .committed => "COMMITTED"
  | some .released => "RELEASED"
  | none => "UNKNOWN"

/-- The amount that was reserved and what has become of it. -/
structure ReservationState where
  amount : ℚ
  status : ReservationStatus
deriving DecidableEq

/-- What one reservation holds back: its amount while it is open. -/
def ReservationState.held (state : ReservationState) : ℚ :=
  if state.status = .opened then state.amount else 0

/-- The domain errors of the credit module, with the details they carry. -/
inductive CreditError where
  | insufficientCredits (available requested : ℚ)
  | reservationNotOpen (reservationId status : String)
  | invalidCreditAmount
  | creditConcurrency
  | membershipNotFound
deriving DecidableEq

/-- A wallet in memory, with the events it has raised since it was loaded. Amounts are read as exact
numbers: a sum that a double would round is not rounded here. -/
structure CreditAccount where
  aggregateId : String
  orgId : String
  userId : String
  version : ℕ
  balance : ℚ
  reservations : OrderedMap String ReservationState
  uncommitted : List CreditLedgerEvent

/-- A method of the aggregate: the state survives a throw. -/
abbrev AccountM := EStateM CreditError CreditAccount

namespace CreditAccount

/-- The stream id of a wallet. -/
def walletId (orgId userId : String) : String := orgId ++ ":" ++ userId

/-- A wallet that has never had an event. -/
def openAccount (orgId userId : String) : CreditAccount where
  aggregateId := walletId orgId userId
  orgId := orgId
  userId := userId
  version := 0
  balance := 0
  reservations := .empty
  uncommitted := []

/-- A reservation event without a reservation id is a corrupt row and is skipped. -/
def setReservation (account : CreditAccount) (reservationId : Option String)
    (state : ReservationState) : CreditAccount :=
  match reservationId with
  | none => account
  | some id => { account with reservations := account.reservations.set id state }

/-- The wallet after an event; every event sets the version. -/
def apply (account : CreditAccount) (event : CreditLedgerEvent) : CreditAccount :=
  let account := { account with version := event.version }
  let amount := event.payload.amount
  match event.eventType with
  | .creditGranted | .creditRefunded => { account with balance := account.balance + amount }
  | .creditSpent => { account with balance := account.balance - amount }
  | .creditReserved => account.setReservation event.payload.reservationId ⟨amount, .opened⟩
  | .creditReservationCommitted =>
      { account with balance := account.balance - amount }.setReservation
        event.payload.reservationId ⟨amount, .committed⟩
  | .creditReservationReleased =>
      account.setReservation event.payload.reservationId ⟨amount, .released⟩
  | .unknown _ => account

/-- The wallet that a stream of events leads to. -/
def rehydrate (orgId userId : String) (events : List CreditLedgerEvent) : CreditAccount :=
  events.foldl apply (openAccount orgId userId)

/-- What the open reservations hold together. -/
def reserved (account : CreditAccount) : ℚ :=
  account.reservations.total ReservationState.held

/-- What can be spent or reserved. -/
def available (account : CreditAccount) : ℚ := account.balance - account.reserved

def reservationStatus (account : CreditAccount) (reservationId : String) :
    Option ReservationStatus :=
  (account.reservations.get? reservationId).map ReservationState.status

def reservationAmount (account : CreditAccount) (reservationId : String) : Option ℚ :=
  (account.reservations.get? reservationId).map ReservationState.amount

/-- The amount passed on is the number itself: only finite integers get past the check. -/
def assertPositiveAmount : Number → AccountM ℚ
  | .finite value =>
      if !(Number.finite value).isInteger || value ≤ 0 then throw .invalidCreditAmount
      else pure value
  | .nonFinite => throw .invalidCreditAmount

/-- Raises the next event of the wallet and applies it. -/
def raise (eventType : CreditEventType) (amount : ℚ) (reason : String)
    (reservationId : Option String) : AccountM Unit := do
  let account ← get
  let event : CreditLedgerEvent :=
    { aggregateId := account.aggregateId
      orgId := account.orgId
      userId := account.userId
      eventType := eventType
      version := account.version + 1
      payload := ⟨amount, reason, reservationId⟩ }
  set (account.apply event)
  modify fun account => { account with uncommitted := account.uncommitted ++ [event] }

/-- A positive amount is added to the balance. -/
def grant (amount : Number) (reason : String) : AccountM Unit := do
  let amount ← assertPositiveAmount amount
  raise .creditGranted amount reason none

/-- Compares against what is available: credits held by a reservation are not spendable. -/
def spend (amount : Number) (reason : String) : AccountM Unit := do
  let amount ← assertPositiveAmount amount
  let account ← get
  if account.available < amount then
    throw (.insufficientCredits account.available amount)
  raise .creditSpent amount reason none

/-- A positive amount goes back to the balance. -/
def refund (amount : Number) (reason : String) : AccountM Unit := do
  let amount ← assertPositiveAmount amount
  raise .creditRefunded amount reason none

/-- A positive amount that is available is held under an id, whatever the id has been used for. -/
def reserve (reservationId : String) (amount : Number) (reason : String) : AccountM Unit := do
  let amount ← assertPositiveAmount amount
  let account ← get
  if account.available < amount then
    throw (.insufficientCredits account.available amount)
  raise .creditReserved amount reason (some reservationId)

/-- The hold of an open reservation is charged. -/
def commitReservation (reservationId reason : String) : AccountM Unit := do
  let account ← get
  match account.reservations.get? reservationId with
  | some ⟨amount, .opened⟩ =>
      raise .creditReservationCommitted amount reason (some reservationId)
  | other =>
      throw (.reservationNotOpen reservationId
        (ReservationStatus.text (other.map ReservationState.status)))

/-- Idempotent: a reservation that is not open is left alone and the answer is `false`. -/
def releaseReservation (reservationId reason : String) : AccountM Bool := do
  let account ← get
  match account.reservations.get? reservationId with
  | some ⟨amount, .opened⟩ =>
      raise .creditReservationReleased amount reason (some reservationId)
      return true
  | _ => return false

end CreditAccount

/-- A call of one of the aggregate's operations. -/
inductive Call where
  | grant (amount : Number) (reason : String)
  | spend (amount : Number) (reason : String)
  | refund (amount : Number) (reason : String)
  | reserve (reservationId : String) (amount : Number) (reason : String)
  | commitReservation (reservationId reason : String)
  | releaseReservation (reservationId reason : String)
deriving DecidableEq

namespace Call

/-- Run the called method; only a release can return `false`. -/
def perform : Call → AccountM Bool
  | .grant amount reason => do CreditAccount.grant amount reason; return true
  | .spend amount reason => do CreditAccount.spend amount reason; return true
  | .refund amount reason => do CreditAccount.refund amount reason; return true
  | .reserve id amount reason => do CreditAccount.reserve id amount reason; return true
  | .commitReservation id reason => do CreditAccount.commitReservation id reason; return true
  | .releaseReservation id reason => CreditAccount.releaseReservation id reason

end Call

namespace CreditAccount

/-- The object after a call, whether it returned or threw. -/
def call (account : CreditAccount) (call : Call) : CreditAccount :=
  match call.perform account with
  | .ok _ after => after
  | .error _ after => after

/-- The object after a sequence of calls, each made whatever became of the ones before. -/
def callAll (account : CreditAccount) (calls : List Call) : CreditAccount :=
  calls.foldl CreditAccount.call account

end CreditAccount

end Credit

end CoreApi
