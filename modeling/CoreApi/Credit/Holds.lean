import CoreApi.Credit.Reservation

/-!
# Holds in the ledger

The rows that name a reservation and the state its wallet folds to go together:
one row reserves it, and at most one more row of the same wallet closes it. This
is so in every ledger whose reserves draw fresh ids.
-/

namespace CoreApi.Credit

/-- The wallet a row belongs to, as organization and user. -/
def CreditEventRow.wallet (row : CreditEventRow) : String × String := (row.orgId, row.userId)

/-- A row that opens a reservation. -/
structure CreditEventRow.Reserves (row : CreditEventRow) (id : String) : Prop where
  eventType : row.eventType = "CreditReserved"
  named : row.payload.reservationId = some id
  aggregateId : row.aggregateId = CreditAccount.walletId row.orgId row.userId

/-- A row of the same wallet that commits or releases the reservation. -/
structure CreditEventRow.Closes (row reserved : CreditEventRow) (status : ReservationStatus) :
    Prop where
  reaches : (CreditEventType.ofText row.eventType).reservationStatus = some status
  closed : status ≠ .opened
  aggregateId : row.aggregateId = reserved.aggregateId

/-- The rows of one reservation. -/
inductive Hold where
  | absent
  | opened (reserved : CreditEventRow)
  | closed (reserved closing : CreditEventRow) (status : ReservationStatus)

namespace Hold

/-- The rows of a reservation in the order of their insertion. -/
def rows : Hold → List CreditEventRow
  | absent => []
  | opened reserved => [reserved]
  | closed reserved closing _ => [reserved, closing]

/-- The state a wallet folds to. -/
def state (hold : Hold) (wallet : String × String) : Option ReservationState :=
  match hold with
  | absent => none
  | opened reserved =>
      if wallet = reserved.wallet then some ⟨reserved.payload.amount, .opened⟩ else none
  | closed reserved closing status =>
      if wallet = reserved.wallet then some ⟨closing.payload.amount, status⟩ else none

/-- The rows of a hold are a reservation and what closes it. -/
def Formed (id : String) : Hold → Prop
  | absent => True
  | opened reserved => reserved.Reserves id
  | closed reserved closing status => reserved.Reserves id ∧ closing.Closes reserved status

end Hold

/-- The ledger holds these rows of a reservation and no others, and the wallets fold to them. -/
structure Holds (table : List CreditEventRow) (id : String) (hold : Hold) : Prop where
  rows : (table.filter fun row => row.payload.reservationId = some id) = hold.rows
  state : ∀ orgId userId,
    (PrismaCreditEventRepository.loadOrOpen table orgId userId).reservations.get? id =
      hold.state (orgId, userId)
  formed : hold.Formed id

namespace CreditCommand

variable {stamp : Stamp} {command : CreditCommand} {db : CreditDb} {event : CreditLedgerEvent}
  {id : String} {hold : Hold}

theorem creditEvents_recorded (stamp : Stamp) (command : CreditCommand) (db : CreditDb)
    (event : CreditLedgerEvent) :
    (command.recorded stamp db event).creditEvents =
      db.creditEvents ++ [CreditEventMapper.toPersistence event stamp.createdAt] := rfl

theorem gapless_recorded (gapless : Gapless db.creditEvents)
    (decided : command.call.decision (command.account db) = .ok (some event)) :
    Gapless (command.recorded stamp db event).creditEvents := by
  have row := row_of_decision gapless decided
  exact gapless.insert _ row.1 row.2.1 row.2.2

/-- The row of a decided event carries the wallet of its command. -/
theorem wallet_of_decision
    (decided : command.call.decision (command.account db) = .ok (some event)) :
    (CreditEventMapper.toPersistence event stamp.createdAt).wallet = command.wallet := by
  have admits := Call.admits_of_decision decided
  have frame := loadOrOpen_frame db.creditEvents command.wallet.1 command.wallet.2
  exact Prod.ext (admits.orgId.trans frame.2.1) (admits.userId.trans frame.2.2.1)

/-- A command leaves the reservations it does not name where they are. -/
theorem holds_frame (gapless : Gapless db.creditEvents)
    (decided : command.call.decision (command.account db) = .ok (some event))
    (other : event.payload.reservationId ≠ some id) (holds : Holds db.creditEvents id hold) :
    Holds (command.recorded stamp db event).creditEvents id hold where
  rows := by
    rw [← holds.rows, creditEvents_recorded]
    simp [CreditEventMapper.toPersistence, other]
  state orgId userId := by
    rw [← holds.state orgId userId, loadOrOpen_recorded gapless decided]
    split
    · rw [CreditAccount.get?_apply]
      split
      · exact if_neg other
      · rfl
    · rfl
  formed := holds.formed

/-- A reserve opens a reservation that no row has named. -/
theorem holds_reserve (gapless : Gapless db.creditEvents)
    (decided : command.call.decision (command.account db) = .ok (some event))
    (reserves : event.eventType = .creditReserved) (about : event.payload.reservationId = some id)
    (holds : Holds db.creditEvents id .absent) :
    Holds (command.recorded stamp db event).creditEvents id
      (.opened (CreditEventMapper.toPersistence event stamp.createdAt)) := by
  have wallet : (CreditEventMapper.toPersistence event stamp.createdAt).wallet = command.wallet :=
    wallet_of_decision decided
  refine ⟨?_, ?_, ?_, about, ?_⟩
  · rw [creditEvents_recorded, List.filter_append, holds.rows]
    simp [Hold.rows, CreditEventMapper.toPersistence, about]
  · intro orgId userId
    rw [loadOrOpen_recorded gapless decided, Hold.state, wallet]
    split
    · simp [CreditAccount.get?_apply, reserves, CreditEventType.reservationStatus, about,
        CreditEventMapper.toPersistence]
    · exact holds.state orgId userId
  · change event.eventType.text = _
    rw [reserves]
    rfl
  · have row := row_of_decision gapless decided
    rw [← wallet] at row
    exact row.1

/-- An event that closes a reservation finds it open in the wallet of its command. -/
theorem opened_of_closing {status : ReservationStatus}
    (decided : command.call.decision (command.account db) = .ok (some event))
    (reaches : event.eventType.reservationStatus = some status) (closed : status ≠ .opened)
    (about : event.payload.reservationId = some id) :
    (command.account db).reservations.get? id = some ⟨event.payload.amount, .opened⟩ := by
  have allowed := (Call.admits_of_decision decided).allowed
  have opened : ∃ id', event.payload.reservationId = some id' ∧
      (command.account db).reservations.get? id' = some ⟨event.payload.amount, .opened⟩ := by
    cases type : event.eventType with
    | creditReservationCommitted | creditReservationReleased =>
        rw [type] at allowed
        exact allowed
    | creditReserved =>
        rw [type] at reaches
        cases reaches
        exact absurd rfl closed
    | creditGranted | creditSpent | creditRefunded | unknown =>
        rw [type] at reaches
        cases reaches
  rcases opened with ⟨id', named, stored⟩
  rw [about] at named
  cases named
  exact stored

/-- A commit or a release closes a reservation that is open in its own wallet. -/
theorem holds_close {status : ReservationStatus} (gapless : Gapless db.creditEvents)
    (decided : command.call.decision (command.account db) = .ok (some event))
    (reaches : event.eventType.reservationStatus = some status) (closed : status ≠ .opened)
    (about : event.payload.reservationId = some id) (holds : Holds db.creditEvents id hold) :
    ∃ reserved, hold = .opened reserved ∧ reserved.wallet = command.wallet ∧
      Holds (command.recorded stamp db event).creditEvents id
        (.closed reserved (CreditEventMapper.toPersistence event stamp.createdAt) status) := by
  have stored := opened_of_closing decided reaches closed about
  rw [account, holds.state] at stored
  cases hold with
  | absent => cases stored
  | closed reserved closing status' =>
      simp only [Hold.state, Option.ite_none_right_eq_some, Option.some.injEq,
        ReservationState.mk.injEq] at stored
      exact absurd stored.2.2 holds.formed.2.closed
  | opened reserved =>
      simp only [Hold.state, Option.ite_none_right_eq_some, Prod.mk.eta] at stored
      have wallet : reserved.wallet = command.wallet := stored.1.symm
      refine ⟨reserved, rfl, wallet, ?_, ?_, holds.formed, ?_, closed, ?_⟩
      · rw [creditEvents_recorded, List.filter_append, holds.rows]
        simp [Hold.rows, CreditEventMapper.toPersistence, about]
      · intro orgId userId
        rw [loadOrOpen_recorded gapless decided]
        by_cases home : (orgId, userId) = command.wallet
        · rw [if_pos home, CreditAccount.get?_apply, reaches]
          simp [Hold.state, wallet, home, about, CreditEventMapper.toPersistence]
        · rw [if_neg home, holds.state]
          simp [Hold.state, wallet, home]
      · have read := toDomain_toPersistence (Call.admits_of_decision decided) stamp.createdAt
        have type := congrArg CreditLedgerEvent.eventType read
        exact (congrArg CreditEventType.reservationStatus type).trans reaches
      · have row := row_of_decision gapless decided
        rw [← wallet] at row
        rw [holds.formed.aggregateId]
        exact row.1

end CreditCommand

/-- A ledger without gaps whose reserves have drawn fresh ids. -/
structure SoundLedger (table : List CreditEventRow) : Prop where
  gapless : Gapless table
  named : ∀ row ∈ table, row.eventType = "CreditReserved" → row.payload.reservationId ≠ none
  holds : ∀ id, ∃ hold, Holds table id hold

section Ledgers

variable {table : List CreditEventRow} {row : CreditEventRow} {id : String} {hold : Hold}

/-- The rows that name a reservation are those of its hold. -/
theorem Holds.mem_iff (holds : Holds table id hold) :
    row ∈ hold.rows ↔ row ∈ table ∧ row.payload.reservationId = some id := by
  rw [← holds.rows, List.mem_filter, decide_eq_true_iff]

/-- Only the row that opened a reservation has reserved under its id. -/
theorem Holds.reserved_mem (holds : Holds table id hold) (member : row ∈ table)
    (named : row.payload.reservationId = some id) (reserves : row.eventType = "CreditReserved") :
    hold = .opened row ∨ ∃ closing status, hold = .closed row closing status := by
  have listed := holds.mem_iff.mpr ⟨member, named⟩
  cases hold with
  | absent => cases listed
  | opened reserved =>
      cases List.mem_singleton.mp listed
      exact .inl rfl
  | closed reserved closing status =>
      rcases List.mem_pair.mp listed with rfl | rfl
      · exact .inr ⟨closing, status, rfl⟩
      · have reaches := holds.formed.2.reaches
        rw [reserves] at reaches
        cases reaches
        exact absurd rfl holds.formed.2.closed

/-- There is no other way to read an open hold. -/
theorem Holds.eq_opened {reserved : CreditEventRow} (opened : Holds table id (.opened reserved))
    (holds : Holds table id hold) : hold = .opened reserved := by
  have rows : hold.rows = [reserved] := holds.rows.symm.trans opened.rows
  cases hold with
  | absent => cases rows
  | opened other =>
      cases rows
      rfl
  | closed other closing status => cases rows

variable {stamp : Stamp} {command : CreditCommand} {db : CreditDb} {event : CreditLedgerEvent}

theorem SoundLedger.nil : SoundLedger [] where
  gapless := .nil
  named _ member := absurd member List.not_mem_nil
  holds _ := ⟨.absent, rfl, fun _ _ => rfl, trivial⟩

/-- A command keeps the ledger sound when its reserve, if it is one, draws a fresh id. -/
theorem SoundLedger.recorded (sound : SoundLedger db.creditEvents)
    (decided : command.call.decision (command.account db) = .ok (some event))
    (fresh : ∀ id, event.eventType = .creditReserved → event.payload.reservationId = some id →
      Holds db.creditEvents id .absent) :
    SoundLedger (command.recorded stamp db event).creditEvents where
  gapless := CreditCommand.gapless_recorded sound.gapless decided
  named row member reserves := by
    rw [CreditCommand.creditEvents_recorded] at member
    rcases List.mem_append.mp member with old | new
    · exact sound.named row old reserves
    · cases List.mem_singleton.mp new
      have allowed := (Call.admits_of_decision decided).allowed
      change event.eventType.text = "CreditReserved" at reserves
      change event.payload.reservationId ≠ none
      cases type : event.eventType with
      | creditReserved =>
          rw [type] at allowed
          rcases allowed with ⟨-, -, id, named⟩
          simp [named]
      | unknown name =>
          rw [type] at allowed
          exact allowed.elim
      | _ =>
          rw [type] at reserves
          simp [CreditEventType.text] at reserves
  holds id := by
    rcases sound.holds id with ⟨hold, holds⟩
    by_cases about : event.payload.reservationId = some id
    · have allowed := (Call.admits_of_decision decided).allowed
      cases type : event.eventType with
      | creditReserved =>
          exact ⟨_, CreditCommand.holds_reserve sound.gapless decided type about
            (fresh id type about)⟩
      | creditReservationCommitted | creditReservationReleased =>
          rcases CreditCommand.holds_close sound.gapless decided
            (congrArg CreditEventType.reservationStatus type) (by simp) about holds with
            ⟨_, -, -, closed⟩
          exact ⟨_, closed⟩
      | creditGranted | creditRefunded =>
          rw [type] at allowed
          cases about.symm.trans allowed.2
      | creditSpent =>
          rw [type] at allowed
          cases about.symm.trans allowed.2.2
      | unknown name =>
          rw [type] at allowed
          exact allowed.elim
    · exact ⟨hold, CreditCommand.holds_frame sound.gapless decided about holds⟩

end Ledgers

section Runs

variable {Client : Type} {stamps : Client → Stamp} {commands : Client → CreditCommand}

/-- No two reserves draw the same id. -/
def FreshIds (commands : Client → CreditCommand) : Prop :=
  ∀ first second reserve reserve', commands first = .reserveCredits reserve →
    commands second = .reserveCredits reserve' →
    reserve.reservationId = reserve'.reservationId → first = second

/-- An id that a committed reserve has drawn. -/
def Drawn (commands : Client → CreditCommand)
    (log : List (Workload.Entry Client CreditDb CreditReply)) (id : String) : Prop :=
  ∃ entry ∈ log, ∃ reserve, commands entry.client = .reserveCredits reserve ∧
    reserve.reservationId = id

/-- A command that reserves is a reserve of the id its event names. -/
theorem reserve_of_raised {command : CreditCommand} {db : CreditDb} {event : CreditLedgerEvent}
    {id : String} (decided : command.call.decision (command.account db) = .ok (some event))
    (reserves : event.eventType = .creditReserved)
    (named : event.payload.reservationId = some id) :
    ∃ reserve, command = .reserveCredits reserve ∧ reserve.reservationId = id := by
  rcases Call.raised_of_decision decided with ⟨type, about, -⟩
  have raised := type.symm.trans reserves
  have drawn := about.symm.trans named
  cases command with
  | reserveCredits reserve => exact ⟨reserve, rfl, Option.some.inj drawn⟩
  | _ => cases raised

/-- The ledger is sound, and the log explains which ids it holds. -/
structure LedgerDrawn (commands : Client → CreditCommand) (db : CreditDb)
    (log : List (Workload.Entry Client CreditDb CreditReply)) : Prop where
  sound : SoundLedger db.creditEvents
  drawn : ∀ row ∈ db.creditEvents, ∀ id, row.eventType = "CreditReserved" →
    row.payload.reservationId = some id → Drawn commands log id

variable {log : List (Workload.Entry Client CreditDb CreditReply)}

theorem Drawn.mono {id : String} (drawn : Drawn commands log id)
    (more : List (Workload.Entry Client CreditDb CreditReply)) :
    Drawn commands (log ++ more) id := by
  rcases drawn with ⟨entry, member, rest⟩
  exact ⟨entry, List.mem_append_left _ member, rest⟩

theorem LedgerDrawn.recorded {db begun : CreditDb} {client : Client} {reply : CreditReply}
    {event : CreditLedgerEvent} (fresh : FreshIds commands) (drawn : LedgerDrawn commands db log)
    (new : ∀ entry ∈ log, entry.client ≠ client)
    (decided : (commands client).call.decision ((commands client).account db) =
      .ok (some event)) :
    LedgerDrawn commands ((commands client).recorded (stamps client) db event)
      (log ++ [⟨client, begun, reply⟩]) where
  sound := by
    refine drawn.sound.recorded decided fun id reserves named => ?_
    rcases reserve_of_raised decided reserves named with ⟨reserve, command, rfl⟩
    -- a row under this id would be of an earlier reserve, and so of this client
    have unheld : ∀ reserved, reserved ∈ db.creditEvents →
        ¬reserved.Reserves reserve.reservationId := by
      intro reserved member reserves'
      rcases drawn.drawn reserved member _ reserves'.eventType reserves'.named with
        ⟨entry, earlier, reserve', command', same⟩
      exact new entry earlier (fresh _ _ _ _ command' command same)
    rcases drawn.sound.holds reserve.reservationId with ⟨hold, holds⟩
    cases hold with
    | absent => exact holds
    | opened reserved =>
        have member := (holds.mem_iff.mp (List.mem_singleton_self reserved)).1
        exact absurd holds.formed (unheld reserved member)
    | closed reserved closing status =>
        have listed : reserved ∈ [reserved, closing] := List.mem_cons_self
        have member := (holds.mem_iff.mp listed).1
        exact absurd holds.formed.1 (unheld reserved member)
  drawn row member id reserves named := by
    rw [CreditCommand.creditEvents_recorded] at member
    rcases List.mem_append.mp member with old | fresh
    · exact (drawn.drawn row old id reserves named).mono _
    · cases List.mem_singleton.mp fresh
      have read := toDomain_toPersistence (Call.admits_of_decision decided)
        (stamps client).createdAt
      have type : CreditEventType.ofText _ = event.eventType :=
        congrArg CreditLedgerEvent.eventType read
      rw [reserves] at type
      rcases reserve_of_raised decided type.symm named with ⟨reserve, command, same⟩
      exact ⟨_, List.mem_append_right _ (List.mem_singleton_self _), reserve, command, same⟩

/-- Commands whose reserves draw fresh ids keep the ledger sound. -/
theorem soundLedger_of_reachable [DecidableEq Client]
    {state : Workload.State Client CreditDb CreditWrite CreditError CreditReply}
    (fresh : FreshIds commands)
    (reached : (creditWorkload stamps commands).system.Reachable state) :
    SoundLedger state.db.creditEvents := by
  have drawn : LedgerDrawn commands state.db state.log := by
    refine (creditOutline stamps commands).invariant ?_ ?_ ?_ reached
    · rintro db ⟨noEvents, -, -⟩
      refine ⟨?_, ?_⟩
      · rw [noEvents]
        exact .nil
      · rw [noEvents]
        exact fun _ member => absurd member List.not_mem_nil
    · rintro db _ log drawn ⟨memberships, rfl⟩
      exact ⟨drawn.sound, drawn.drawn⟩
    · rintro db next log client begun reply - drawn new effect
      cases effect with
      | skipped began since gapless later decided =>
          exact ⟨drawn.sound, fun row member id reserves named =>
            (drawn.drawn row member id reserves named).mono _⟩
      | recorded since decided => exact drawn.recorded fresh new decided
  exact drawn.sound

end Runs

end CoreApi.Credit
