import Mathlib.Algebra.Order.BigOperators.Group.List
import Mathlib.Tactic.Linarith
import CoreApi.Credit.Account

/-!
# What one operation of the aggregate does

`Call.decision` says, as a function of the account alone, whether a call throws,
does nothing or raises one event; `Call.perform_eq` shows that the methods do
exactly that. Everything else about the aggregate is derived from the decision:
a raised event is admitted by the account (`CreditAccount.Admits`), and folding
an admitted event keeps the account sound.
-/

namespace CoreApi.Credit

namespace AccountM

variable {α β : Type} (account : CreditAccount)

@[simp]
theorem bind_run (method : AccountM α) (next : α → AccountM β) :
    (method >>= next) account =
      match method account with
      | .ok value after => next value after
      | .error error after => .error error after := by
  simp only [bind, EStateM.bind]
  cases method account <;> rfl

@[simp]
theorem map_run (method : AccountM α) (change : α → β) :
    (change <$> method) account =
      match method account with
      | .ok value after => .ok (change value) after
      | .error error after => .error error after := by
  simp only [Functor.map, EStateM.map]
  cases method account <;> rfl

@[simp]
theorem pure_run (value : α) : (pure value : AccountM α) account = .ok value account := rfl

@[simp]
theorem get_run : (get : AccountM CreditAccount) account = .ok account account := rfl

@[simp]
theorem set_run (after : CreditAccount) : (set after : AccountM PUnit) account = .ok ⟨⟩ after := rfl

@[simp]
theorem throw_run (error : CreditError) :
    (throw error : AccountM α) account = .error error account := rfl

end AccountM

namespace CreditAccount

variable (account : CreditAccount)

/-- The event `raise` builds. -/
def eventOf (eventType : CreditEventType) (amount : ℚ) (reason : String)
    (reservationId : Option String) : CreditLedgerEvent where
  aggregateId := account.aggregateId
  orgId := account.orgId
  userId := account.userId
  eventType := eventType
  version := account.version + 1
  payload := ⟨amount, reason, reservationId⟩

/-- Fold an event and remember that it is not stored yet. -/
def record (event : CreditLedgerEvent) : CreditAccount :=
  { account.apply event with uncommitted := account.uncommitted ++ [event] }

@[simp]
theorem setReservation_none (state : ReservationState) :
    account.setReservation none state = account := rfl

@[simp]
theorem setReservation_some (id : String) (state : ReservationState) :
    account.setReservation (some id) state =
      { account with reservations := account.reservations.set id state } := rfl

/-- Applying an event touches the version, the balance and the reservations only. -/
theorem apply_frame (event : CreditLedgerEvent) :
    (account.apply event).version = event.version ∧
      (account.apply event).aggregateId = account.aggregateId ∧
      (account.apply event).orgId = account.orgId ∧
      (account.apply event).userId = account.userId ∧
      (account.apply event).uncommitted = account.uncommitted := by
  rcases event with ⟨_, _, _, eventType, version, amount, reason, reservationId⟩
  cases eventType <;> cases reservationId <;> simp [apply]

@[simp]
theorem apply_version (event : CreditLedgerEvent) :
    (account.apply event).version = event.version := (account.apply_frame event).1

@[simp]
theorem apply_aggregateId (event : CreditLedgerEvent) :
    (account.apply event).aggregateId = account.aggregateId := (account.apply_frame event).2.1

@[simp]
theorem apply_orgId (event : CreditLedgerEvent) :
    (account.apply event).orgId = account.orgId := (account.apply_frame event).2.2.1

@[simp]
theorem apply_userId (event : CreditLedgerEvent) :
    (account.apply event).userId = account.userId := (account.apply_frame event).2.2.2.1

@[simp]
theorem apply_uncommitted (event : CreditLedgerEvent) :
    (account.apply event).uncommitted = account.uncommitted := (account.apply_frame event).2.2.2.2

theorem raise_eq (eventType : CreditEventType) (amount : ℚ) (reason : String)
    (reservationId : Option String) :
    raise eventType amount reason reservationId account =
      .ok () (account.record (account.eventOf eventType amount reason reservationId)) := by
  simp [raise, record, eventOf]

/-- The amount that passes `assertPositiveAmount`. -/
def positiveAmount : Number → Except CreditError ℚ
  | .finite value => if value.isInt ∧ 0 < value then .ok value else .error .invalidCreditAmount
  | .nonFinite => .error .invalidCreditAmount

theorem assertPositiveAmount_eq (amount : Number) :
    assertPositiveAmount amount account =
      match positiveAmount amount with
      | .ok value => .ok value account
      | .error error => .error error account := by
  cases amount with
  | nonFinite => rfl
  | finite value =>
      by_cases integral : value.isInt = true <;> by_cases positive : 0 < value <;>
        simp [assertPositiveAmount, positiveAmount, Number.isInteger, integral, positive,
          not_le.mpr, le_of_not_gt]

theorem positiveAmount_eq_ok {amount : Number} {value : ℚ} :
    positiveAmount amount = .ok value ↔
      amount = .finite value ∧ value.isInt = true ∧ 0 < value := by
  cases amount with
  | nonFinite => simp [positiveAmount]
  | finite given =>
      simp only [positiveAmount, Number.finite.injEq]
      constructor
      · intro passed
        split at passed
        · rename_i accepted
          cases passed
          exact ⟨rfl, accepted⟩
        · cases passed
      · rintro ⟨rfl, accepted⟩
        rw [if_pos accepted]

end CreditAccount

namespace Call

open CreditAccount

/-- Raise an event for an amount that passes the check. -/
def checked (amount : Number) (event : ℚ → Except CreditError (Option CreditLedgerEvent)) :
    Except CreditError (Option CreditLedgerEvent) :=
  match positiveAmount amount with
  | .ok value => event value
  | .error error => .error error

/-- Raise an event that needs its amount to be available. -/
def ifAvailable (account : CreditAccount) (amount : ℚ) (event : CreditLedgerEvent) :
    Except CreditError (Option CreditLedgerEvent) :=
  if account.available < amount then .error (.insufficientCredits account.available amount)
  else .ok (some event)

/-- Throw, do nothing or raise one event: what a call decides on an account. -/
def decision (account : CreditAccount) : Call → Except CreditError (Option CreditLedgerEvent)
  | .grant amount reason =>
      checked amount fun amount => .ok (some (account.eventOf .creditGranted amount reason none))
  | .spend amount reason =>
      checked amount fun amount =>
        ifAvailable account amount (account.eventOf .creditSpent amount reason none)
  | .refund amount reason =>
      checked amount fun amount => .ok (some (account.eventOf .creditRefunded amount reason none))
  | .reserve id amount reason =>
      checked amount fun amount =>
        ifAvailable account amount (account.eventOf .creditReserved amount reason (some id))
  | .commitReservation id reason =>
      match account.reservations.get? id with
      | some ⟨amount, .opened⟩ =>
          .ok (some (account.eventOf .creditReservationCommitted amount reason (some id)))
      | other =>
          .error (.reservationNotOpen id
            (ReservationStatus.text (other.map ReservationState.status)))
  | .releaseReservation id reason =>
      match account.reservations.get? id with
      | some ⟨amount, .opened⟩ =>
          .ok (some (account.eventOf .creditReservationReleased amount reason (some id)))
      | _ => .ok none

/-- The methods do what the decision says and nothing else: in particular a throw and a
release that returns `false` leave the object alone. -/
theorem perform_eq (call : Call) (account : CreditAccount) :
    call.perform account =
      match call.decision account with
      | .error error => .error error account
      | .ok none => .ok false account
      | .ok (some event) => .ok true (account.record event) := by
  cases call with
  | grant amount reason =>
      cases passed : positiveAmount amount <;>
        simp [perform, CreditAccount.grant, decision, checked, assertPositiveAmount_eq, raise_eq,
          passed]
  | spend amount reason =>
      cases passed : positiveAmount amount with
      | error =>
          simp [perform, CreditAccount.spend, decision, checked, assertPositiveAmount_eq, passed]
      | ok value =>
          by_cases short : account.available < value <;>
            simp [perform, CreditAccount.spend, decision, checked, assertPositiveAmount_eq,
              raise_eq, ifAvailable, passed, short]
  | refund amount reason =>
      cases passed : positiveAmount amount <;>
        simp [perform, CreditAccount.refund, decision, checked, assertPositiveAmount_eq, raise_eq,
          passed]
  | reserve id amount reason =>
      cases passed : positiveAmount amount with
      | error =>
          simp [perform, CreditAccount.reserve, decision, checked, assertPositiveAmount_eq, passed]
      | ok value =>
          by_cases short : account.available < value <;>
            simp [perform, CreditAccount.reserve, decision, checked, assertPositiveAmount_eq,
              raise_eq, ifAvailable, passed, short]
  | commitReservation id reason =>
      rcases stored : account.reservations.get? id with _ | ⟨amount, _ | _ | _⟩ <;>
        simp [perform, CreditAccount.commitReservation, decision, raise_eq, stored]
  | releaseReservation id reason =>
      rcases stored : account.reservations.get? id with _ | ⟨amount, _ | _ | _⟩ <;>
        simp [perform, CreditAccount.releaseReservation, decision, raise_eq, stored]

/-- Only a release decides on nothing, and only when the reservation is not open. -/
theorem decision_none {call : Call} {account : CreditAccount}
    (decided : call.decision account = .ok none) :
    ∃ id reason, call = .releaseReservation id reason ∧
      ∀ amount, account.reservations.get? id ≠ some ⟨amount, .opened⟩ := by
  have unchecked : ∀ {amount : Number} {make : ℚ → Except CreditError (Option CreditLedgerEvent)},
      (∀ value, make value ≠ .ok none) → checked amount make ≠ .ok none := by
    intro amount make never
    simp only [checked]
    split
    · exact never _
    · simp
  have unavailable : ∀ {amount : ℚ} {event : CreditLedgerEvent},
      ifAvailable account amount event ≠ .ok none := by
    intro amount event
    simp only [ifAvailable]
    split <;> simp
  cases call with
  | grant amount reason => exact absurd decided (unchecked fun _ => by simp)
  | spend amount reason => exact absurd decided (unchecked fun _ => unavailable)
  | refund amount reason => exact absurd decided (unchecked fun _ => by simp)
  | reserve id amount reason => exact absurd decided (unchecked fun _ => unavailable)
  | commitReservation id reason =>
      simp only [decision] at decided
      split at decided <;> cases decided
  | releaseReservation id reason =>
      refine ⟨id, reason, rfl, ?_⟩
      intro amount stored
      simp [decision, stored] at decided

end Call

namespace CreditAccount

/-- The conditions under which an operation raises an event of each type. -/
def Allows (account : CreditAccount) : CreditEventType → CreditEventPayload → Prop
  | .creditGranted, payload | .creditRefunded, payload =>
      0 < payload.amount ∧ payload.reservationId = none
  | .creditSpent, payload =>
      0 < payload.amount ∧ payload.amount ≤ account.available ∧ payload.reservationId = none
  | .creditReserved, payload =>
      0 < payload.amount ∧ payload.amount ≤ account.available ∧
        ∃ id, payload.reservationId = some id
  | .creditReservationCommitted, payload | .creditReservationReleased, payload =>
      ∃ id, payload.reservationId = some id ∧
        account.reservations.get? id = some ⟨payload.amount, .opened⟩
  | .unknown _, _ => False

/-- An event one of the operations may raise on this account. -/
structure Admits (account : CreditAccount) (event : CreditLedgerEvent) : Prop where
  aggregateId : event.aggregateId = account.aggregateId
  orgId : event.orgId = account.orgId
  userId : event.userId = account.userId
  version : event.version = account.version + 1
  allowed : account.Allows event.eventType event.payload

/-- What an account always satisfies between two operations. -/
structure Sound (account : CreditAccount) : Prop where
  amounts_pos : ∀ id state, account.reservations.get? id = some state → 0 < state.amount
  reserved_le : account.reserved ≤ account.balance

end CreditAccount

namespace Call

variable {account : CreditAccount} {event : CreditLedgerEvent}

theorem checked_eq_some {amount : Number}
    {make : ℚ → Except CreditError (Option CreditLedgerEvent)}
    (decided : checked amount make = .ok (some event)) :
    ∃ value, amount = .finite value ∧ 0 < value ∧ make value = .ok (some event) := by
  simp only [checked] at decided
  cases passed : CreditAccount.positiveAmount amount with
  | error => simp [passed] at decided
  | ok value =>
      simp only [passed] at decided
      obtain ⟨finite, -, positive⟩ := CreditAccount.positiveAmount_eq_ok.mp passed
      exact ⟨value, finite, positive, decided⟩

theorem ifAvailable_eq_some {amount : ℚ} {event' : CreditLedgerEvent}
    (decided : ifAvailable account amount event' = .ok (some event)) :
    amount ≤ account.available ∧ event = event' := by
  simp only [ifAvailable] at decided
  split at decided
  · cases decided
  · next covered =>
      cases decided
      exact ⟨not_lt.mp covered, rfl⟩

/-- A call raises only events the account admits. -/
theorem admits_of_decision {call : Call} (decided : call.decision account = .ok (some event)) :
    account.Admits event := by
  cases call with
  | grant amount reason =>
      rcases checked_eq_some decided with ⟨value, rfl, positive, raised⟩
      cases raised
      exact ⟨rfl, rfl, rfl, rfl, positive, rfl⟩
  | spend amount reason =>
      rcases checked_eq_some decided with ⟨value, rfl, positive, raised⟩
      obtain ⟨covered, rfl⟩ := ifAvailable_eq_some raised
      exact ⟨rfl, rfl, rfl, rfl, positive, covered, rfl⟩
  | refund amount reason =>
      rcases checked_eq_some decided with ⟨value, rfl, positive, raised⟩
      cases raised
      exact ⟨rfl, rfl, rfl, rfl, positive, rfl⟩
  | reserve id amount reason =>
      rcases checked_eq_some decided with ⟨value, rfl, positive, raised⟩
      obtain ⟨covered, rfl⟩ := ifAvailable_eq_some raised
      exact ⟨rfl, rfl, rfl, rfl, positive, covered, id, rfl⟩
  | commitReservation id reason =>
      simp only [decision] at decided
      split at decided
      · next amount stored =>
          cases decided
          exact ⟨rfl, rfl, rfl, rfl, id, rfl, stored⟩
      · cases decided
  | releaseReservation id reason =>
      simp only [decision] at decided
      split at decided
      · next amount stored =>
          cases decided
          exact ⟨rfl, rfl, rfl, rfl, id, rfl, stored⟩
      · cases decided

end Call

namespace CreditAccount

variable {account : CreditAccount} {event : CreditLedgerEvent}

theorem reserved_set (account : CreditAccount) (id : String) (state : ReservationState) :
    reserved { account with reservations := account.reservations.set id state } +
        account.reservations.weightAt ReservationState.held id =
      account.reserved + state.held :=
  OrderedMap.total_set ReservationState.held account.reservations id state

theorem Sound.held_nonneg (sound : account.Sound) (id : String) :
    0 ≤ account.reservations.weightAt ReservationState.held id := by
  simp only [OrderedMap.weightAt]
  cases stored : account.reservations.get? id with
  | none => simp
  | some state =>
      have positive := sound.amounts_pos id state stored
      simp only [Option.elim_some, ReservationState.held]
      split <;> linarith

theorem Sound.reserved_nonneg (sound : account.Sound) : 0 ≤ account.reserved := by
  apply List.sum_nonneg
  intro held member
  rcases List.mem_map.mp member with ⟨state, stored, rfl⟩
  rcases OrderedMap.mem_values.mp stored with ⟨id, lookup⟩
  have positive := sound.amounts_pos id state lookup
  simp only [ReservationState.held]
  split <;> linarith

theorem Sound.available_nonneg (sound : account.Sound) : 0 ≤ account.available :=
  sub_nonneg.mpr sound.reserved_le

theorem sound_openAccount (orgId userId : String) : (openAccount orgId userId).Sound where
  amounts_pos id state stored := by simp [openAccount] at stored
  reserved_le := le_of_eq rfl

/-- Overwriting one reservation keeps every stored amount positive. -/
theorem Sound.amounts_pos_set (sound : account.Sound) {id : String} {state : ReservationState}
    (positive : 0 < state.amount) (other : String) (stored : ReservationState)
    (lookup : (account.reservations.set id state).get? other = some stored) :
    0 < stored.amount := by
  simp only [OrderedMap.get?_set] at lookup
  split at lookup
  · cases lookup
    exact positive
  · exact sound.amounts_pos other stored lookup

/-- Folding an admitted event keeps the account sound. -/
theorem Sound.apply (sound : account.Sound) (admits : account.Admits event) :
    (account.apply event).Sound := by
  have allowed := admits.allowed
  have within := sound.reserved_le
  rcases event with ⟨_, _, _, eventType, version, amount, reason, reservationId⟩
  cases eventType with
  | creditGranted | creditRefunded =>
      refine ⟨sound.amounts_pos, ?_⟩
      change account.reserved ≤ account.balance + amount
      have positive : 0 < amount := allowed.1
      linarith
  | creditSpent =>
      refine ⟨sound.amounts_pos, ?_⟩
      change account.reserved ≤ account.balance - amount
      have covered : amount ≤ account.balance - account.reserved := allowed.2.1
      linarith
  | creditReserved =>
      rcases allowed with ⟨positive, covered, id, rfl⟩
      refine ⟨sound.amounts_pos_set positive, ?_⟩
      change reserved { account with
        reservations := account.reservations.set id ⟨amount, .opened⟩ } ≤ account.balance
      have total := reserved_set account id ⟨amount, .opened⟩
      have old := sound.held_nonneg id
      have covered : amount ≤ account.balance - account.reserved := covered
      simp only [ReservationState.held, if_true] at total
      linarith
  | creditReservationCommitted =>
      rcases allowed with ⟨id, rfl, stored⟩
      have positive : 0 < amount := sound.amounts_pos id _ stored
      refine ⟨sound.amounts_pos_set positive, ?_⟩
      change reserved { account with
        reservations := account.reservations.set id ⟨amount, .committed⟩ } ≤
          account.balance - amount
      have total := reserved_set account id ⟨amount, .committed⟩
      simp only [OrderedMap.weightAt, stored, Option.elim_some, ReservationState.held, if_true,
        reduceCtorEq, if_false] at total
      linarith
  | creditReservationReleased =>
      rcases allowed with ⟨id, rfl, stored⟩
      have positive : 0 < amount := sound.amounts_pos id _ stored
      refine ⟨sound.amounts_pos_set positive, ?_⟩
      change reserved { account with
        reservations := account.reservations.set id ⟨amount, .released⟩ } ≤ account.balance
      have total := reserved_set account id ⟨amount, .released⟩
      simp only [OrderedMap.weightAt, stored, Option.elim_some, ReservationState.held, if_true,
        reduceCtorEq, if_false] at total
      linarith
  | unknown name => exact allowed.elim

theorem Sound.record (sound : account.Sound) (admits : account.Admits event) :
    (account.record event).Sound :=
  ⟨(sound.apply admits).amounts_pos, (sound.apply admits).reserved_le⟩

/-- The sum of the amounts of the events of some types. -/
def amountOf (types : List CreditEventType) (events : List CreditLedgerEvent) : ℚ :=
  ((events.filter fun event => event.eventType ∈ types).map fun event => event.payload.amount).sum

/-- The balance the ledger accounts for. -/
def ledgerBalance (events : List CreditLedgerEvent) : ℚ :=
  amountOf [.creditGranted, .creditRefunded] events -
    amountOf [.creditSpent, .creditReservationCommitted] events

theorem amountOf_append (types : List CreditEventType) (events more : List CreditLedgerEvent) :
    amountOf types (events ++ more) = amountOf types events + amountOf types more := by
  simp [amountOf]

/-- Folding any event, admitted or not, moves the balance as the ledger accounts for it. -/
theorem balance_apply (account : CreditAccount) (event : CreditLedgerEvent) :
    (account.apply event).balance = account.balance + ledgerBalance [event] := by
  rcases event with ⟨_, _, _, eventType, version, amount, reason, reservationId⟩
  cases eventType <;> cases reservationId <;>
    simp [apply, ledgerBalance, amountOf, sub_eq_add_neg]

theorem ledgerBalance_append (events more : List CreditLedgerEvent) :
    ledgerBalance (events ++ more) = ledgerBalance events + ledgerBalance more := by
  simp only [ledgerBalance, amountOf_append]
  exact add_sub_add_comm _ _ _ _

/-- The account is what its raised events say: for an account that started empty. -/
structure Booked (account : CreditAccount) : Prop where
  balance : account.balance = ledgerBalance account.uncommitted
  versions : account.uncommitted.map CreditLedgerEvent.version = List.range' 1 account.version

theorem booked_openAccount (orgId userId : String) : (openAccount orgId userId).Booked :=
  ⟨by simp [openAccount, ledgerBalance, amountOf], rfl⟩

theorem Booked.record (booked : account.Booked) (admits : account.Admits event) :
    (account.record event).Booked where
  balance := by
    change (account.apply event).balance = ledgerBalance (account.uncommitted ++ [event])
    rw [balance_apply, ledgerBalance_append, booked.balance]
  versions := by
    change (account.uncommitted ++ [event]).map CreditLedgerEvent.version =
      List.range' 1 (account.apply event).version
    rw [List.map_append, booked.versions, apply_version, admits.version, List.range'_concat]
    simp [admits.version, add_comm]

theorem Booked.version_eq_length (booked : account.Booked) :
    account.version = account.uncommitted.length := by
  have lengths := congrArg List.length booked.versions
  simpa using lengths.symm

/-- A call leaves the object alone or records one admitted event. -/
theorem call_cases (account : CreditAccount) (call : Call) :
    account.call call = account ∨
      ∃ event, account.Admits event ∧ account.call call = account.record event := by
  simp only [CreditAccount.call, Call.perform_eq]
  cases decided : call.decision account with
  | error error => exact Or.inl rfl
  | ok raised =>
      cases raised with
      | none => exact Or.inl rfl
      | some event => exact Or.inr ⟨event, Call.admits_of_decision decided, rfl⟩

/-- What every operation preserves, a sequence of calls preserves. -/
theorem callAll_induction {motive : CreditAccount → Prop}
    (record : ∀ account event, motive account → account.Admits event →
      motive (account.record event)) (calls : List Call) {account : CreditAccount}
    (start : motive account) : motive (account.callAll calls) := by
  induction calls generalizing account with
  | nil => exact start
  | cons call rest ih =>
      apply ih
      rcases account.call_cases call with unchanged | ⟨event, admits, recorded⟩
      · rw [unchanged]
        exact start
      · rw [recorded]
        exact record account event start admits

/--
After any sequence of calls on a fresh wallet the held amount is covered by the
balance, the balance and the versions are those of the raised events, and a
call that throws or a release that returns `false` changes nothing at all.
-/
theorem openAccount_callAll_invariant (orgId userId : String) (calls : List Call) :
    let account := (openAccount orgId userId).callAll calls
    (0 ≤ account.reserved ∧ account.reserved ≤ account.balance) ∧
      (account.available = account.balance - account.reserved ∧ 0 ≤ account.available) ∧
      account.balance =
        amountOf [.creditGranted, .creditRefunded] account.uncommitted -
          amountOf [.creditSpent, .creditReservationCommitted] account.uncommitted ∧
      account.version = account.uncommitted.length ∧
      account.uncommitted.map CreditLedgerEvent.version = List.range' 1 account.version ∧
      (∀ (call : Call) error after, call.perform account = .error error after → after = account) ∧
      ∀ id reason after, (Call.releaseReservation id reason).perform account = .ok false after →
        after = account := by
  intro account
  have sound : account.Sound :=
    callAll_induction (fun _ _ sound admits => sound.record admits) calls
      (sound_openAccount orgId userId)
  have booked : account.Booked :=
    callAll_induction (fun _ _ booked admits => booked.record admits) calls
      (booked_openAccount orgId userId)
  refine ⟨⟨sound.reserved_nonneg, sound.reserved_le⟩, ⟨rfl, sound.available_nonneg⟩,
    booked.balance, booked.version_eq_length, booked.versions, ?_, ?_⟩
  · intro call error after thrown
    simp only [Call.perform_eq] at thrown
    split at thrown <;> cases thrown
    rfl
  · intro id reason after returned
    simp only [Call.perform_eq] at returned
    split at returned <;> cases returned
    rfl

end CreditAccount

end CoreApi.Credit
