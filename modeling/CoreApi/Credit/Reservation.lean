import CoreApi.Credit.Serializability

/-!
# What the tables say about a reservation

The ledger, the `ai_queries` table and the outbox each record what has become of
a reservation. A trace says how far it has come, and the three tables follow it:
a reserve, a commit or a release of the id moves them to the next trace
together, and no other command touches them.
-/

namespace CoreApi.Credit

/-- What has become of a reservation id. -/
inductive ReservationOutcome where
  | absent
  | opened
  | committed
  | released
deriving DecidableEq

/-- The rows of one type that name a reservation. -/
def ledgerRows (db : CreditDb) (eventType : CreditEventType) (reservationId : String) :
    List CreditEventRow :=
  db.creditEvents.filter fun row =>
    row.payload.reservationId = some reservationId ∧ row.eventType = eventType.text

namespace CreditOutboxEvent

/-- The event says that the reservation was charged. -/
def spends (reservationId : String) : CreditOutboxEvent → Bool
  | .creditSpent _ _ _ _ _ _ id _ => id = reservationId
  | _ => false

/-- The event says that the reservation was released. -/
def releases (reservationId : String) : CreditOutboxEvent → Bool
  | .creditReservationReleased _ _ _ _ id _ _ _ => id = reservationId
  | _ => false

end CreditOutboxEvent

/-- The status of a reservation in the wallets: some wallet folds to it, and no other wallet knows
the reservation. -/
def LedgerStatus (db : CreditDb) (reservationId : String) (status : ReservationStatus) : Prop :=
  ∃ wallet : String × String, ∀ orgId userId,
    (PrismaCreditEventRepository.loadOrOpen db.creditEvents orgId userId).reservationStatus
      reservationId = if (orgId, userId) = wallet then some status else none

/-- The four situations a reservation can be in. -/
def Situation (db : CreditDb) (reservationId : String) : ReservationOutcome → Prop
  | .absent =>
      ledgerRows db .creditReserved reservationId = [] ∧
        db.aiQueries.get? reservationId = none ∧
        db.outbox.countP (CreditOutboxEvent.spends reservationId) = 0 ∧
        db.outbox.countP (CreditOutboxEvent.releases reservationId) = 0
  | .opened =>
      LedgerStatus db reservationId .opened ∧
        (ledgerRows db .creditReserved reservationId).length = 1 ∧
        ledgerRows db .creditReservationCommitted reservationId = [] ∧
        ledgerRows db .creditReservationReleased reservationId = [] ∧
        db.aiQueries.get? reservationId = none ∧
        db.outbox.countP (CreditOutboxEvent.spends reservationId) = 0 ∧
        db.outbox.countP (CreditOutboxEvent.releases reservationId) = 0
  | .committed =>
      LedgerStatus db reservationId .committed ∧
        (∃ charge query, ledgerRows db .creditReservationCommitted reservationId = [charge] ∧
          db.aiQueries.get? reservationId = some query ∧ query.status = .answered ∧
          query.creditCost = .finite charge.payload.amount) ∧
        ledgerRows db .creditReservationReleased reservationId = [] ∧
        db.outbox.countP (CreditOutboxEvent.spends reservationId) = 1 ∧
        db.outbox.countP (CreditOutboxEvent.releases reservationId) = 0
  | .released =>
      LedgerStatus db reservationId .released ∧
        (ledgerRows db .creditReservationReleased reservationId).length = 1 ∧
        ledgerRows db .creditReservationCommitted reservationId = [] ∧
        (∃ query, db.aiQueries.get? reservationId = some query ∧ query.status = .failed ∧
          query.creditCost = .finite 0) ∧
        db.outbox.countP (CreditOutboxEvent.spends reservationId) = 0 ∧
        db.outbox.countP (CreditOutboxEvent.releases reservationId) = 1

/-- How far a reservation has come, with its wallet and its amount. -/
inductive Trace where
  | absent
  | known (wallet : String × String) (amount : ℚ) (status : ReservationStatus)

namespace Trace

/-- The outcome that a trace shows. -/
def outcome : Trace → ReservationOutcome
  | .absent => .absent
  | .known _ _ .opened => .opened
  | .known _ _ .committed => .committed
  | .known _ _ .released => .released

/-- The state a wallet folds to. -/
def state (trace : Trace) (wallet : String × String) : Option ReservationState :=
  match trace with
  | .absent => none
  | .known home amount status => if wallet = home then some ⟨amount, status⟩ else none

/-- The rows that name the reservation, as type and amount. -/
def rows : Trace → List (String × ℚ)
  | .absent => []
  | .known _ amount .opened => [("CreditReserved", amount)]
  | .known _ amount .committed =>
      [("CreditReserved", amount), ("CreditReservationCommitted", amount)]
  | .known _ amount .released =>
      [("CreditReserved", amount), ("CreditReservationReleased", amount)]

/-- The status and the cost of the `ai_queries` row. -/
def query : Trace → Option (AiQueryStatus × Number)
  | .absent | .known _ _ .opened => none
  | .known _ amount .committed => some (.answered, .finite amount)
  | .known _ _ .released => some (.failed, .finite 0)

/-- How many charges a trace stands for. -/
def spends : Trace → ℕ
  | .known _ _ .committed => 1
  | _ => 0

/-- How many releases a trace stands for. -/
def releases : Trace → ℕ
  | .known _ _ .released => 1
  | _ => 0

end Trace

/-- The three tables follow the trace of one reservation. -/
structure Follows (db : CreditDb) (reservationId : String) (trace : Trace) : Prop where
  state : ∀ orgId userId,
    (PrismaCreditEventRepository.loadOrOpen db.creditEvents orgId userId).reservations.get?
      reservationId = trace.state (orgId, userId)
  rows : (db.creditEvents.filter fun row => row.payload.reservationId = some reservationId).map
    (fun row => (row.eventType, row.payload.amount)) = trace.rows
  query : (db.aiQueries.get? reservationId).map (fun query => (query.status, query.creditCost)) =
    trace.query
  spends : db.outbox.countP (CreditOutboxEvent.spends reservationId) = trace.spends
  releases : db.outbox.countP (CreditOutboxEvent.releases reservationId) = trace.releases

namespace Follows

variable {db : CreditDb} {reservationId : String} {trace : Trace}

/-- The rows of one type, read off the trace. -/
theorem ledgerRows_map (follows : Follows db reservationId trace) (eventType : CreditEventType) :
    (ledgerRows db eventType reservationId).map
        (fun row => (row.eventType, row.payload.amount)) =
      trace.rows.filter fun row => row.1 = eventType.text := by
  rw [← follows.rows, List.filter_map]
  congr 1
  simp only [ledgerRows]
  rw [List.filter_filter]
  apply List.filter_congr
  intro row _
  simp [Bool.and_comm]

theorem ledgerRows_nil (follows : Follows db reservationId trace) (eventType : CreditEventType)
    (none : (trace.rows.filter fun row => row.1 = eventType.text) = []) :
    ledgerRows db eventType reservationId = [] := by
  have rows := follows.ledgerRows_map eventType
  simp only [none] at rows
  exact List.map_eq_nil_iff.mp rows

theorem ledgerRows_one (follows : Follows db reservationId trace) (eventType : CreditEventType)
    (amount : ℚ) (one : (trace.rows.filter fun row => row.1 = eventType.text) =
      [(eventType.text, amount)]) :
    ∃ row, ledgerRows db eventType reservationId = [row] ∧ row.payload.amount = amount := by
  have rows := follows.ledgerRows_map eventType
  simp only [one] at rows
  rcases List.map_eq_singleton_iff.mp rows with ⟨row, found, same⟩
  exact ⟨row, found, congrArg Prod.snd same⟩

theorem ledgerStatus {wallet : String × String} {amount : ℚ} {status : ReservationStatus}
    (follows : Follows db reservationId (.known wallet amount status)) :
    LedgerStatus db reservationId status := by
  refine ⟨wallet, ?_⟩
  intro orgId userId
  simp only [CreditAccount.reservationStatus]
  rw [follows.state orgId userId]
  by_cases home : (orgId, userId) = wallet <;> simp [Trace.state, home]

/-- Tables that follow a trace are in the situation of its outcome. -/
theorem situation (follows : Follows db reservationId trace) :
    Situation db reservationId trace.outcome := by
  cases trace with
  | absent =>
      refine ⟨follows.ledgerRows_nil _ rfl, ?_, follows.spends, follows.releases⟩
      exact Option.map_eq_none_iff.mp follows.query
  | known wallet amount status =>
      have folded := follows.ledgerStatus
      cases status with
      | opened =>
          rcases follows.ledgerRows_one .creditReserved amount (by
            simp [Trace.rows, CreditEventType.text]) with ⟨row, found, -⟩
          refine ⟨folded, by rw [found, List.length_singleton], follows.ledgerRows_nil _ ?_,
            follows.ledgerRows_nil _ ?_, Option.map_eq_none_iff.mp follows.query, follows.spends,
            follows.releases⟩
          · simp [Trace.rows, CreditEventType.text]
          · simp [Trace.rows, CreditEventType.text]
      | committed =>
          rcases follows.ledgerRows_one .creditReservationCommitted amount (by
            simp [Trace.rows, CreditEventType.text]) with ⟨charge, found, charged⟩
          rcases Option.map_eq_some_iff.mp follows.query with ⟨query, stored, same⟩
          refine ⟨folded, ⟨charge, query, found, stored, congrArg Prod.fst same, ?_⟩,
            follows.ledgerRows_nil _ ?_, follows.spends, follows.releases⟩
          · rw [charged]
            exact congrArg Prod.snd same
          · simp [Trace.rows, CreditEventType.text]
      | released =>
          rcases follows.ledgerRows_one .creditReservationReleased amount (by
            simp [Trace.rows, CreditEventType.text]) with ⟨row, found, -⟩
          rcases Option.map_eq_some_iff.mp follows.query with ⟨query, stored, same⟩
          refine ⟨folded, by rw [found, List.length_singleton], follows.ledgerRows_nil _ ?_,
            ⟨query, stored, congrArg Prod.fst same, congrArg Prod.snd same⟩, follows.spends,
            follows.releases⟩
          simp [Trace.rows, CreditEventType.text]

end Follows

/-- The outcome a reader of the tables would name. -/
def observedOutcome (db : CreditDb) (reservationId : String) : ReservationOutcome :=
  if db.outbox.countP (CreditOutboxEvent.spends reservationId) = 1 then .committed
  else if db.outbox.countP (CreditOutboxEvent.releases reservationId) = 1 then .released
  else if ledgerRows db .creditReserved reservationId = [] then .absent
  else .opened

/-- No two situations hold at once. -/
theorem Situation.eq_observedOutcome {db : CreditDb} {reservationId : String}
    {outcome : ReservationOutcome} (situation : Situation db reservationId outcome) :
    outcome = observedOutcome db reservationId := by
  simp only [observedOutcome]
  cases outcome with
  | absent =>
      rcases situation with ⟨none, -, spends, releases⟩
      simp [none, spends, releases]
  | opened =>
      rcases situation with ⟨-, one, -, -, -, spends, releases⟩
      have some_ : ledgerRows db .creditReserved reservationId ≠ [] := by
        rintro none
        simp [none] at one
      simp [some_, spends, releases]
  | committed =>
      rcases situation with ⟨-, -, -, spends, -⟩
      simp [spends]
  | released =>
      rcases situation with ⟨-, -, -, -, spends, releases⟩
      simp [spends, releases]

namespace Call

/-- The type, the reservation and the requested amount of the event a call raises. -/
def raised : Call → CreditEventType
  | .grant .. => .creditGranted
  | .spend .. => .creditSpent
  | .refund .. => .creditRefunded
  | .reserve .. => .creditReserved
  | .commitReservation .. => .creditReservationCommitted
  | .releaseReservation .. => .creditReservationReleased

/-- The reservation that a call is about. -/
def reservation? : Call → Option String
  | .reserve id .. | .commitReservation id _ | .releaseReservation id _ => some id
  | _ => none

/-- The amount that a call asks for. -/
def requested? : Call → Option Number
  | .grant amount _ | .spend amount _ | .refund amount _ | .reserve _ amount _ => some amount
  | _ => none

variable {account : CreditAccount} {event : CreditLedgerEvent}

/-- A raised event carries the call's type and reservation, and the requested amount if the call
requests one. -/
theorem raised_of_decision {call : Call} (decided : call.decision account = .ok (some event)) :
    event.eventType = call.raised ∧ event.payload.reservationId = call.reservation? ∧
      ∀ amount, call.requested? = some amount → amount = .finite event.payload.amount := by
  cases call with
  | grant amount reason =>
      rcases checked_eq_some decided with ⟨value, rfl, -, raised⟩
      cases raised
      exact ⟨rfl, rfl, by rintro _ ⟨⟩; rfl⟩
  | spend amount reason =>
      rcases checked_eq_some decided with ⟨value, rfl, -, raised⟩
      obtain ⟨-, rfl⟩ := ifAvailable_eq_some raised
      exact ⟨rfl, rfl, by rintro _ ⟨⟩; rfl⟩
  | refund amount reason =>
      rcases checked_eq_some decided with ⟨value, rfl, -, raised⟩
      cases raised
      exact ⟨rfl, rfl, by rintro _ ⟨⟩; rfl⟩
  | reserve id amount reason =>
      rcases checked_eq_some decided with ⟨value, rfl, -, raised⟩
      obtain ⟨-, rfl⟩ := ifAvailable_eq_some raised
      exact ⟨rfl, rfl, by rintro _ ⟨⟩; rfl⟩
  | commitReservation id reason =>
      simp only [decision] at decided
      split at decided
      · cases decided
        exact ⟨rfl, rfl, by rintro _ ⟨⟩⟩
      · cases decided
  | releaseReservation id reason =>
      simp only [decision] at decided
      split at decided
      · cases decided
        exact ⟨rfl, rfl, by rintro _ ⟨⟩⟩
      · cases decided

end Call

/-- The status an event gives the reservation it names. -/
def CreditEventType.reservationStatus : CreditEventType → Option ReservationStatus
  | .creditReserved => some .opened
  | .creditReservationCommitted => some .committed
  | .creditReservationReleased => some .released
  | _ => none

theorem CreditAccount.get?_apply (account : CreditAccount) (event : CreditLedgerEvent)
    (reservationId : String) :
    (account.apply event).reservations.get? reservationId =
      match event.eventType.reservationStatus with
      | some status =>
          if event.payload.reservationId = some reservationId then
            some ⟨event.payload.amount, status⟩
          else account.reservations.get? reservationId
      | none => account.reservations.get? reservationId := by
  rcases event with ⟨_, _, _, eventType, version, amount, reason, _ | id⟩
  · cases eventType <;> simp [apply, CreditEventType.reservationStatus]
  · cases eventType <;>
      simp [apply, CreditEventType.reservationStatus, OrderedMap.get?_set, eq_comm]

namespace CreditCommand

variable {stamp : Stamp} {command : CreditCommand} {db : CreditDb} {event : CreditLedgerEvent}
  {reservationId : String} {trace : Trace}

theorem loadOrOpen_recorded (gapless : Gapless db.creditEvents)
    (decided : command.call.decision (command.account db) = .ok (some event))
    (orgId userId : String) :
    PrismaCreditEventRepository.loadOrOpen (command.recorded stamp db event).creditEvents orgId
        userId =
      if (orgId, userId) = command.wallet then
        (PrismaCreditEventRepository.loadOrOpen db.creditEvents orgId userId).apply event
      else PrismaCreditEventRepository.loadOrOpen db.creditEvents orgId userId := by
  have stream := Effect.walletStream_after gapless decided stamp.createdAt orgId userId
  change CreditAccount.rehydrate orgId userId (walletStream (_ ++ [_]) orgId userId) = _
  rw [stream]
  split
  · exact rehydrate_concat ..
  · rw [List.append_nil]
    rfl

/-- The closing of a command is about the command's own reservation. -/
theorem closing_frame (account : CreditAccount)
    (other : command.call.reservation? ≠ some reservationId) :
    (∀ input, (command.closing account).aiQuery = some input →
        input.reservationId ≠ reservationId) ∧
      ∀ id, ((command.closing account).event id).toList.countP
          (CreditOutboxEvent.spends reservationId) = 0 ∧
        ((command.closing account).event id).toList.countP
          (CreditOutboxEvent.releases reservationId) = 0 := by
  cases command <;>
    simp_all [closing, call, Call.reservation?, CreditOutboxEvent.spends,
      CreditOutboxEvent.releases]

/-- A command leaves the reservations it is not about where they are. -/
theorem follows_frame (gapless : Gapless db.creditEvents)
    (decided : command.call.decision (command.account db) = .ok (some event))
    (other : command.call.reservation? ≠ some reservationId)
    (follows : Follows db reservationId trace) :
    Follows (command.recorded stamp db event) reservationId trace := by
  have raised := Call.raised_of_decision decided
  have frame := closing_frame ((command.account db).record event) other
  rw [← raised.2.1] at other
  refine ⟨?_, ?_, ?_, ?_, ?_⟩
  · intro orgId userId
    rw [← follows.state orgId userId, loadOrOpen_recorded gapless decided]
    split
    · rw [CreditAccount.get?_apply]
      split
      · exact if_neg other
      · rfl
    · rfl
  · rw [← follows.rows]
    simp [recorded, Closing.after, CreditEventMapper.toPersistence, other]
  · rw [← follows.query]
    simp only [recorded, Closing.after]
    cases input : (command.closing ((command.account db).record event)).aiQuery with
    | none => rfl
    | some input =>
        have distinct := frame.1 _ input
        simp [OrderedMap.get?_set, distinct.symm]
  · rw [← follows.spends]
    simp [recorded, Closing.after, frame.2]
  · rw [← follows.releases]
    simp [recorded, Closing.after, frame.2]

/-- The ledger follows a command that moves its own reservation to a status. -/
theorem follows_moved {status : ReservationStatus} (gapless : Gapless db.creditEvents)
    (decided : command.call.decision (command.account db) = .ok (some event))
    (about : command.call.reservation? = some reservationId)
    (reaches : command.call.raised.reservationStatus = some status)
    (follows : Follows db reservationId trace)
    (elsewhere : ∀ wallet, wallet ≠ command.wallet → trace.state wallet = none)
    (rows : trace.rows ++ [(command.call.raised.text, event.payload.amount)] =
      (Trace.known command.wallet event.payload.amount status).rows)
    (query : ((command.recorded stamp db event).aiQueries.get? reservationId).map
        (fun query => (query.status, query.creditCost)) =
      (Trace.known command.wallet event.payload.amount status).query)
    (spends : (command.recorded stamp db event).outbox.countP
        (CreditOutboxEvent.spends reservationId) =
      (Trace.known command.wallet event.payload.amount status).spends)
    (releases : (command.recorded stamp db event).outbox.countP
        (CreditOutboxEvent.releases reservationId) =
      (Trace.known command.wallet event.payload.amount status).releases) :
    Follows (command.recorded stamp db event) reservationId
      (.known command.wallet event.payload.amount status) := by
  rcases Call.raised_of_decision decided with ⟨eventType, named, -⟩
  simp only [about] at named
  refine ⟨?_, ?_, query, spends, releases⟩
  · intro orgId userId
    rw [loadOrOpen_recorded gapless decided]
    by_cases home : (orgId, userId) = command.wallet
    · rw [if_pos home, CreditAccount.get?_apply, eventType, reaches]
      simp [named, Trace.state, home]
    · rw [if_neg home, follows.state, elsewhere _ home]
      simp [Trace.state, home]
  · rw [← rows, ← follows.rows]
    simp [recorded, Closing.after, CreditEventMapper.toPersistence, named, eventType]

/-- An open reservation in the command's wallet is what its trace says. -/
theorem trace_of_opened {amount : ℚ} (follows : Follows db reservationId trace)
    (stored : (command.account db).reservations.get? reservationId = some ⟨amount, .opened⟩) :
    trace = .known command.wallet amount .opened := by
  simp only [account] at stored
  simp only [follows.state] at stored
  cases trace with
  | absent => cases stored
  | known wallet amount' status =>
      by_cases home : command.wallet = wallet
      · subst home
        simp only [Trace.state, Prod.mk.eta, if_true, Option.some.injEq,
          ReservationState.mk.injEq] at stored
        rw [stored.1, stored.2]
      · simp [Trace.state, home] at stored

theorem follows_reserve {reserve : ReserveCreditsCommand} (gapless : Gapless db.creditEvents)
    (decided : (CreditCommand.reserveCredits reserve).call.decision
      ((CreditCommand.reserveCredits reserve).account db) = .ok (some event))
    (follows : Follows db reserve.reservationId .absent) :
    Follows ((CreditCommand.reserveCredits reserve).recorded stamp db event)
      reserve.reservationId
      (.known (reserve.orgId, reserve.userId) event.payload.amount .opened) := by
  apply follows_moved gapless decided rfl rfl follows (fun _ _ => rfl) rfl follows.query
  · simpa [recorded, Closing.after, closing, Trace.spends] using follows.spends
  · simpa [recorded, Closing.after, closing, Trace.releases] using follows.releases

theorem follows_commit {commit : CommitAiQueryCommand} (gapless : Gapless db.creditEvents)
    (decided : (CreditCommand.commitAiQuery commit).call.decision
      ((CreditCommand.commitAiQuery commit).account db) = .ok (some event))
    (follows : Follows db commit.reservationId
      (.known (commit.orgId, commit.userId) event.payload.amount .opened))
    (charged : commit.amount = .finite event.payload.amount) :
    Follows ((CreditCommand.commitAiQuery commit).recorded stamp db event) commit.reservationId
      (.known (commit.orgId, commit.userId) event.payload.amount .committed) := by
  have spends : db.outbox.countP (CreditOutboxEvent.spends commit.reservationId) = 0 :=
    follows.spends
  have releases : db.outbox.countP (CreditOutboxEvent.releases commit.reservationId) = 0 :=
    follows.releases
  refine follows_moved gapless decided rfl rfl follows ?_ rfl ?_ ?_ ?_
  · intro wallet away
    exact if_neg away
  · simp [recorded, Closing.after, closing, OrderedMap.get?_set, Trace.query, charged]
  · simp [recorded, Closing.after, closing, spends, CreditOutboxEvent.spends, Trace.spends]
  · simp [recorded, Closing.after, closing, releases, CreditOutboxEvent.releases, Trace.releases]

theorem follows_release {release : ReleaseCreditReservationCommand}
    (gapless : Gapless db.creditEvents)
    (decided : (CreditCommand.releaseCreditReservation release).call.decision
      ((CreditCommand.releaseCreditReservation release).account db) = .ok (some event))
    (follows : Follows db release.reservationId
      (.known (release.orgId, release.userId) event.payload.amount .opened)) :
    Follows ((CreditCommand.releaseCreditReservation release).recorded stamp db event)
      release.reservationId
      (.known (release.orgId, release.userId) event.payload.amount .released) := by
  have spends : db.outbox.countP (CreditOutboxEvent.spends release.reservationId) = 0 :=
    follows.spends
  have releases : db.outbox.countP (CreditOutboxEvent.releases release.reservationId) = 0 :=
    follows.releases
  refine follows_moved gapless decided rfl rfl follows ?_ rfl ?_ ?_ ?_
  · intro wallet away
    exact if_neg away
  · simp [recorded, Closing.after, closing, OrderedMap.get?_set, Trace.query]
  · simp [recorded, Closing.after, closing, spends, CreditOutboxEvent.spends, Trace.spends]
  · simp [recorded, Closing.after, closing, releases, CreditOutboxEvent.releases, Trace.releases]

end CreditCommand

section Reading

variable {db now : CreditDb} {reservationId : String} {trace : Trace}

theorem get?_foldl_apply (account : CreditAccount) (events : List CreditLedgerEvent)
    (reservationId : String) :
    (events.foldl CreditAccount.apply account).reservations.get? reservationId =
        account.reservations.get? reservationId ∨
      ∃ event ∈ events, ∃ status, event.payload.reservationId = some reservationId ∧
        event.eventType.reservationStatus = some status ∧
        (events.foldl CreditAccount.apply account).reservations.get? reservationId =
          some ⟨event.payload.amount, status⟩ := by
  induction events generalizing account with
  | nil => exact .inl rfl
  | cons event rest ih =>
      rcases ih (account.apply event) with same | ⟨later, member, status, found⟩
      · rw [List.foldl_cons, same, CreditAccount.get?_apply]
        cases reaches : event.eventType.reservationStatus with
        | none => exact .inl rfl
        | some status =>
            by_cases named : event.payload.reservationId = some reservationId
            · exact .inr ⟨event, List.mem_cons_self, status, named, reaches, if_pos named⟩
            · exact .inl (if_neg named)
      · exact .inr ⟨later, List.mem_cons_of_mem _ member, status, found⟩

/-- A wallet knows a reservation, whatever its status. -/
def Knows (db : CreditDb) (wallet : String × String) (reservationId : String) : Prop :=
  (PrismaCreditEventRepository.loadOrOpen db.creditEvents wallet.1 wallet.2).reservations.get?
    reservationId ≠ none

/-- A wallet does not forget a reservation. -/
theorem Knows.mono {wallet : String × String} (knows : Knows db wallet reservationId)
    (interference : Interference [] db now) (gapless : Gapless db.creditEvents)
    (gapless' : Gapless now.creditEvents) : Knows now wallet reservationId := by
  rcases CreditCommand.Effect.walletStream_prefix interference gapless gapless' wallet.1 wallet.2
    with ⟨more, stream⟩
  simp only [Knows, PrismaCreditEventRepository.loadOrOpen, CreditAccount.rehydrate] at knows ⊢
  rw [← stream, List.foldl_append]
  rcases get?_foldl_apply (CreditAccount.rehydrate wallet.1 wallet.2
      (walletStream db.creditEvents wallet.1 wallet.2)) more reservationId with
    same | ⟨event, -, status, -, -, found⟩
  · intro none
    exact knows (same.symm.trans none)
  · intro none
    exact absurd (found.symm.trans none) (by simp)

theorem eventType_of_reservationStatus {name : String} {status : ReservationStatus}
    (reaches : (CreditEventType.ofText name).reservationStatus = some status) :
    name = match status with
      | .opened => "CreditReserved"
      | .committed => "CreditReservationCommitted"
      | .released => "CreditReservationReleased" := by
  simp only [CreditEventType.ofText] at reaches
  split at reaches <;> cases reaches <;> rfl

/-- Once a wallet has folded to a closed reservation, its trace is closed for good. -/
theorem Follows.closed_of_loaded (follows : Follows now reservationId trace)
    (interference : Interference [] db now) {wallet : String × String}
    (knows : Knows db wallet reservationId)
    (notOpen : ∀ amount, (PrismaCreditEventRepository.loadOrOpen db.creditEvents wallet.1
      wallet.2).reservations.get? reservationId ≠ some ⟨amount, .opened⟩) :
    trace.outcome = .committed ∨ trace.outcome = .released := by
  rcases get?_foldl_apply (CreditAccount.openAccount wallet.1 wallet.2)
      (walletStream db.creditEvents wallet.1 wallet.2) reservationId with
    same | ⟨event, member, status, named, reaches, found⟩
  · exact absurd same knows
  · rcases List.mem_map.mp member with ⟨row, stored, rfl⟩
    have present : row ∈ db.creditEvents := by
      simp only [findWalletRows] at stored
      exact List.mem_of_mem_filter ((List.mem_insertionSort _).mp stored)
    have kept : row ∈ now.creditEvents := by
      rcases interference.appended with ⟨rows, appended, -⟩
      rw [appended]
      exact List.mem_append_left _ present
    have listed : (row.eventType, row.payload.amount) ∈ trace.rows := by
      rw [← follows.rows]
      exact List.mem_map.mpr ⟨row, List.mem_filter.mpr ⟨kept, decide_eq_true named⟩, rfl⟩
    have eventType := eventType_of_reservationStatus reaches
    simp only [eventType] at listed
    cases status with
    | opened => exact absurd found (notOpen _)
    | committed =>
        rcases trace with _ | ⟨_, _, _ | _ | _⟩ <;> simp [Trace.rows, Trace.outcome] at listed ⊢
    | released =>
        rcases trace with _ | ⟨_, _, _ | _ | _⟩ <;> simp [Trace.rows, Trace.outcome] at listed ⊢

end Reading

end CoreApi.Credit
