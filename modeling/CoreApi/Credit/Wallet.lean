import CoreApi.Credit.Ledger

/-!
# The read side of the wallet

`getWallet` folds the same rows a second time, with a map that forgets closed
reservations instead of a status map that keeps them. The two folds are related
row by row: the read side's map is the open part of the aggregate's. Amounts are
read as exact numbers, as in the aggregate.
-/

namespace CoreApi.Credit

/-- A row of the ledger as the wallet shows it. -/
structure WalletLedgerEntryDto where
  eventType : String
  delta : ℚ
  reason : String
  version : ℕ
  occurredAt : ℤ
deriving DecidableEq

/-- What the wallet query answers. -/
structure WalletDto where
  orgId : String
  userId : String
  balance : ℚ
  available : ℚ
  reserved : ℚ
  totalGranted : ℚ
  totalSpent : ℚ
  totalRefunded : ℚ
  entries : List WalletLedgerEntryDto
deriving DecidableEq

/-- `Array.prototype.slice` with one argument: a negative start counts from the end. -/
def sliceFrom {α : Type} (start : ℤ) (items : List α) : List α :=
  if start < 0 then items.drop (items.length - start.natAbs) else items.drop start.toNat

namespace PrismaWalletQueryRepository

/-- The accumulators of the fold in `getWallet`, which are exact numbers as the amounts are. -/
structure Fold where
  balance : ℚ
  totalGranted : ℚ
  totalSpent : ℚ
  totalRefunded : ℚ
  openReservations : OrderedMap String ℚ

def Fold.start : Fold := ⟨0, 0, 0, 0, .empty⟩

/-- Forget the reservation a row closes, if the row names one. -/
def Fold.close (fold : Fold) (reservationId : Option String) : Fold :=
  match reservationId with
  | none => fold
  | some id => { fold with openReservations := fold.openReservations.delete id }

/-- The body of the loop over the rows. -/
def Fold.row (fold : Fold) (row : CreditEventRow) : Fold :=
  let payload := CreditEventMapper.decodePayload row.payload
  let amount := payload.amount
  match row.eventType with
  | "CreditGranted" =>
      { fold with
        balance := fold.balance + amount
        totalGranted := fold.totalGranted + amount }
  | "CreditRefunded" =>
      { fold with
        balance := fold.balance + amount
        totalRefunded := fold.totalRefunded + amount }
  | "CreditSpent" =>
      { fold with
        balance := fold.balance - amount
        totalSpent := fold.totalSpent + amount }
  | "CreditReserved" =>
      match payload.reservationId with
      | none => fold
      | some id => { fold with openReservations := fold.openReservations.set id amount }
  | "CreditReservationCommitted" =>
      { fold with
        balance := fold.balance - amount
        totalSpent := fold.totalSpent + amount }.close payload.reservationId
  | "CreditReservationReleased" => fold.close payload.reservationId
  | _ => fold

/-- The signed effect of a row on the balance: holds and releases move nothing. -/
def walletDelta (eventType : String) (amount : ℚ) : ℚ :=
  match eventType with
  | "CreditSpent" | "CreditReservationCommitted" => -amount
  | "CreditGranted" | "CreditRefunded" => amount
  | _ => 0

/-- The entry of a row. -/
def toEntry (row : CreditEventRow) : WalletLedgerEntryDto :=
  let payload := CreditEventMapper.decodePayload row.payload
  { eventType := row.eventType
    delta := walletDelta row.eventType payload.amount
    reason := payload.reason
    version := row.version
    occurredAt := row.createdAt }

/-- What `getWallet` computes from the rows it read. -/
def walletOfRows (orgId userId : String) (recentLimit : ℤ) (rows : List CreditEventRow) :
    WalletDto :=
  let fold := rows.foldl Fold.row Fold.start
  let reserved := fold.openReservations.total id
  { orgId := orgId
    userId := userId
    balance := fold.balance
    available := fold.balance - reserved
    reserved := reserved
    totalGranted := fold.totalGranted
    totalSpent := fold.totalSpent
    totalRefunded := fold.totalRefunded
    entries := (sliceFrom (-recentLimit) rows).reverse.map toEntry }

/-- The wallet of a user, with its totals and its latest entries. -/
def getWallet (table : List CreditEventRow) (orgId userId : String) (recentLimit : ℤ) :
    WalletDto :=
  walletOfRows orgId userId recentLimit (findWalletRows table orgId userId)

/-- The read side keeps exactly the open reservations of the aggregate, and the same balance. -/
structure Agrees (fold : Fold) (account : CreditAccount) : Prop where
  balance : fold.balance = account.balance
  opened : ∀ id, fold.openReservations.get? id =
    (account.reservations.get? id).bind fun state =>
      if state.status = .opened then some state.amount else none
  reserved : fold.openReservations.total id = account.reserved

theorem agrees_start (orgId userId : String) :
    Agrees Fold.start (CreditAccount.openAccount orgId userId) where
  balance := rfl
  opened _ := rfl
  reserved := rfl

variable {fold : Fold} {account : CreditAccount}

/-- An open amount counts the same on both sides. -/
theorem Agrees.weightAt (agrees : Agrees fold account) (key : String) :
    fold.openReservations.weightAt id key =
      account.reservations.weightAt ReservationState.held key := by
  simp only [OrderedMap.weightAt]
  rw [agrees.opened key]
  cases account.reservations.get? key with
  | none => rfl
  | some state =>
      by_cases isOpen : state.status = .opened <;> simp [ReservationState.held, isOpen]

/-- Reserving an id, whatever its state was, opens it on both sides. -/
theorem Agrees.reserve (agrees : Agrees fold account) (key : String) (amount : ℚ) :
    Agrees { fold with openReservations := fold.openReservations.set key amount }
      { account with reservations := account.reservations.set key ⟨amount, .opened⟩ } where
  balance := agrees.balance
  opened other := by
    simp only [OrderedMap.get?_set]
    by_cases same : other = key
    · simp [same]
    · simpa [same] using agrees.opened other
  reserved := by
    have read := OrderedMap.total_set id fold.openReservations key amount
    have write := CreditAccount.reserved_set account key ⟨amount, .opened⟩
    simp only [agrees.weightAt key, agrees.reserved] at read
    simp only [ReservationState.held, if_true, id] at read write
    exact add_right_cancel (read.trans write.symm)

/-- Closing an id, whatever its state was, removes it on the one side and closes it on the other. -/
theorem Agrees.close (agrees : Agrees fold account) (key : String) (state : ReservationState)
    (closed : state.status ≠ .opened) :
    Agrees { fold with openReservations := fold.openReservations.delete key }
      { account with reservations := account.reservations.set key state } where
  balance := agrees.balance
  opened other := by
    simp only [OrderedMap.get?_set, OrderedMap.get?_delete]
    by_cases same : other = key
    · simp [same, closed]
    · simpa [same] using agrees.opened other
  reserved := by
    have read := OrderedMap.total_delete id fold.openReservations key
    have write := CreditAccount.reserved_set account key state
    simp only [agrees.weightAt key, agrees.reserved] at read
    simp only [ReservationState.held, if_neg closed, add_zero] at write
    exact add_right_cancel (read.trans write.symm)

/-- One row keeps the two folds in agreement, whatever the row holds. -/
theorem Agrees.row (agrees : Agrees fold account) (row : CreditEventRow) :
    Agrees (fold.row row) (account.apply (CreditEventMapper.toDomain row)) := by
  rcases row with ⟨_, _, _, eventType, version, ⟨amount, reason, reservationId⟩, createdAt⟩
  have balance := agrees.balance
  have versioned : Agrees fold { account with version := version } :=
    ⟨agrees.balance, agrees.opened, agrees.reserved⟩
  simp only [Fold.row, CreditAccount.apply, CreditEventMapper.toDomain]
  dsimp only [CreditEventMapper.decodePayload]
  split
  · exact ⟨congrArg (· + amount) balance, agrees.opened, agrees.reserved⟩
  · exact ⟨congrArg (· + amount) balance, agrees.opened, agrees.reserved⟩
  · exact ⟨congrArg (· - amount) balance, agrees.opened, agrees.reserved⟩
  · cases reservationId with
    | none => exact versioned
    | some key => exact versioned.reserve key amount
  · have charged : Agrees
        { fold with balance := fold.balance - amount, totalSpent := fold.totalSpent + amount }
        { account with version := version, balance := account.balance - amount } :=
      ⟨congrArg (· - amount) balance, agrees.opened, agrees.reserved⟩
    cases reservationId with
    | none => exact charged
    | some key => exact charged.close key ⟨amount, .committed⟩ (by simp)
  · cases reservationId with
    | none => exact versioned
    | some key => exact versioned.close key ⟨amount, .released⟩ (by simp)
  · -- No branch of either fold names this type.
    have unknown : CreditEventType.ofText eventType = .unknown eventType := by
      dsimp only [CreditEventType.ofText]
      split <;> first | contradiction | rfl
    rw [unknown]
    exact versioned

theorem Agrees.rows (agrees : Agrees fold account) (rows : List CreditEventRow) :
    Agrees (rows.foldl Fold.row fold)
      ((rows.map CreditEventMapper.toDomain).foldl CreditAccount.apply account) := by
  induction rows generalizing fold account with
  | nil => exact agrees
  | cons row rest ih => exact ih (agrees.row row)

/-- Both folds give the same balance, the same reserved and the same available amount. -/
theorem walletOfRows_eq_rehydrate (orgId userId : String) (recentLimit : ℤ)
    (rows : List CreditEventRow) :
    let wallet := walletOfRows orgId userId recentLimit rows
    let account := CreditAccount.rehydrate orgId userId (rows.map CreditEventMapper.toDomain)
    wallet.balance = account.balance ∧ wallet.reserved = account.reserved ∧
      wallet.available = account.available := by
  have agrees := (agrees_start orgId userId).rows rows
  refine ⟨agrees.balance, agrees.reserved, ?_⟩
  change _ - _ = _ - _
  rw [agrees.balance, agrees.reserved]
  rfl

end PrismaWalletQueryRepository

end CoreApi.Credit
