import Mathlib.Data.List.Forall2
import CoreApi.Credit.Reservation

/-!
# What the outbox says about the ledger

Three types of ledger rows are announced through the outbox. In every committed state
the outbox holds one event for each such row, in the order of the ledger, with the
balance its wallet had right after the row; and one event for each command that
answered with such a change, in commit order, with what it answered.
-/

namespace CoreApi.Credit

/-- The types of rows that are announced. -/
def CreditEventType.isAnnounced : CreditEventType → Bool
  | .creditGranted | .creditReservationCommitted | .creditReservationReleased => true
  | _ => false

/-- Rows whose commit appends an event to the outbox. -/
def CreditEventRow.isAnnounced (row : CreditEventRow) : Bool :=
  (CreditEventType.ofText row.eventType).isAnnounced

/-- The balance of the row's wallet right after the row. -/
def balanceAfter (table : List CreditEventRow) (row : CreditEventRow) : ℚ :=
  (CreditAccount.rehydrate row.orgId row.userId
    ((walletStream table row.orgId row.userId).take row.version)).balance

/-- The event that announces a row. The amount of a `creditSpent` is the command's, which no check
compares with the amount the reservation holds. -/
inductive Announces (db : CreditDb) (row : CreditEventRow) : CreditOutboxEvent → Prop where
  | creditAwarded (type : row.eventType = CreditEventType.creditGranted.text) :
      Announces db row (.creditAwarded row.aggregateId row.orgId row.userId
        (.finite row.payload.amount) row.payload.reason (balanceAfter db.creditEvents row))
  | creditSpent {reservationId : String} {query : AiQueryRow} (amount : Number)
      (type : row.eventType = CreditEventType.creditReservationCommitted.text)
      (held : row.payload.reservationId = some reservationId)
      (stored : db.aiQueries.get? reservationId = some query) :
      Announces db row (.creditSpent row.aggregateId row.orgId row.userId amount
        row.payload.reason (balanceAfter db.creditEvents row) reservationId query.id)
  | creditReservationReleased {reservationId : String} {query : AiQueryRow} (snippet : List ℕ)
      (type : row.eventType = CreditEventType.creditReservationReleased.text)
      (held : row.payload.reservationId = some reservationId)
      (stored : db.aiQueries.get? reservationId = some query) :
      Announces db row (.creditReservationReleased row.aggregateId row.orgId row.userId
        row.payload.amount reservationId query.id row.payload.reason snippet)

/-- The answers that go with an event. -/
def CreditReply.isAnnounced : CreditReply → Bool
  | .grantCredits _ | .commitAiQuery _ => true
  | .releaseCreditReservation result => result.released
  | _ => false

/-- The event that tells what a command has answered. -/
inductive Tells : CreditCommand → CreditReply → CreditOutboxEvent → Prop where
  | grantCredits (command : GrantCreditsCommand) (balance : ℚ) :
      Tells (.grantCredits command) (.grantCredits balance)
        (.creditAwarded (CreditAccount.walletId command.orgId command.recipientUserId)
          command.orgId command.recipientUserId command.amount command.reason balance)
  | commitAiQuery (command : CommitAiQueryCommand) (aiQueryId : String) (balance : ℚ) :
      Tells (.commitAiQuery command) (.commitAiQuery ⟨aiQueryId, balance⟩)
        (.creditSpent (CreditAccount.walletId command.orgId command.userId) command.orgId
          command.userId command.amount command.reason balance command.reservationId aiQueryId)
  | releaseCreditReservation (command : ReleaseCreditReservationCommand) (amount : ℚ)
      (aiQueryId : String) (balance : ℚ) :
      Tells (.releaseCreditReservation command)
        (.releaseCreditReservation ⟨true, balance, some aiQueryId⟩)
        (.creditReservationReleased (CreditAccount.walletId command.orgId command.userId)
          command.orgId command.userId amount command.reservationId aiQueryId command.reason
          ((codeUnits command.question).take ReleaseCreditReservationHandler.questionSnippetMax))

namespace Call

/-- The reason that a call is given. -/
def reason : Call → String
  | .grant _ reason | .spend _ reason | .refund _ reason | .reserve _ _ reason
  | .commitReservation _ reason | .releaseReservation _ reason => reason

theorem reason_of_decision {account : CreditAccount} {event : CreditLedgerEvent} {call : Call}
    (decided : call.decision account = .ok (some event)) : event.payload.reason = call.reason := by
  cases call with
  | grant amount reason =>
      rcases checked_eq_some decided with ⟨value, rfl, -, raised⟩
      cases raised
      rfl
  | spend amount reason =>
      rcases checked_eq_some decided with ⟨value, rfl, -, raised⟩
      obtain ⟨-, rfl⟩ := ifAvailable_eq_some raised
      rfl
  | refund amount reason =>
      rcases checked_eq_some decided with ⟨value, rfl, -, raised⟩
      cases raised
      rfl
  | reserve id amount reason =>
      rcases checked_eq_some decided with ⟨value, rfl, -, raised⟩
      obtain ⟨-, rfl⟩ := ifAvailable_eq_some raised
      rfl
  | commitReservation id reason =>
      simp only [decision] at decided
      split at decided
      · cases decided
        rfl
      · cases decided
  | releaseReservation id reason =>
      simp only [decision] at decided
      split at decided
      · cases decided
        rfl
      · cases decided

end Call

/-- Every row stands in the wallet of the user it names. -/
def InOwnWallets (table : List CreditEventRow) : Prop :=
  ∀ row ∈ table, row.aggregateId = CreditAccount.walletId row.orgId row.userId

section Growth

variable {db next : CreditDb} {row : CreditEventRow} {event : CreditOutboxEvent}

/-- A row of the table is among the rows its version counts. -/
theorem version_le (gapless : Gapless db.creditEvents) (owned : InOwnWallets db.creditEvents)
    (stored : row ∈ db.creditEvents) :
    row.version ≤ (walletStream db.creditEvents row.orgId row.userId).length := by
  have member : row ∈ walletRows db.creditEvents row.orgId row.userId := by
    simp [walletRows, stored, owned row stored]
  rw [gapless.walletStream_eq, List.length_map]
  exact gapless.version_le member

/-- What comes later in a stream leaves the earlier balances. -/
theorem balanceAfter_of_extended {table later : List CreditEventRow}
    (extended : walletStream table row.orgId row.userId <+: walletStream later row.orgId row.userId)
    (counted : row.version ≤ (walletStream table row.orgId row.userId).length) :
    balanceAfter later row = balanceAfter table row := by
  rcases extended with ⟨rest, same⟩
  simp only [balanceAfter]
  rw [← same, List.take_append_of_le_length counted]

/-- An announcement stays true while streams grow and the rows of `ai_queries` keep their ids. -/
theorem Announces.grow (announces : Announces db row event)
    (balance : balanceAfter next.creditEvents row = balanceAfter db.creditEvents row)
    (ids : ∀ reservationId query, db.aiQueries.get? reservationId = some query →
      ∃ query', next.aiQueries.get? reservationId = some query' ∧ query'.id = query.id) :
    Announces next row event := by
  cases announces with
  | creditAwarded type =>
      rw [← balance]
      exact .creditAwarded type
  | creditSpent amount type held stored =>
      rcases ids _ _ stored with ⟨query', stored', same⟩
      rw [← balance, ← same]
      exact .creditSpent amount type held stored'
  | creditReservationReleased snippet type held stored =>
      rcases ids _ _ stored with ⟨query', stored', same⟩
      rw [← same]
      exact .creditReservationReleased snippet type held stored'

end Growth

namespace CreditCommand

variable {stamp : Stamp} {command : CreditCommand} {db : CreditDb} {event : CreditLedgerEvent}

/-- The row a decided event is saved as is its command's. -/
theorem userId_of_decision
    (decided : command.call.decision (command.account db) = .ok (some event)) :
    event.userId = command.wallet.2 :=
  (Call.admits_of_decision decided).userId.trans (loadOrOpen_frame db.creditEvents _ _).2.2.1

/-- An upsert leaves the ids of the rows it finds. -/
theorem recorded_ids {reservationId : String} {query : AiQueryRow}
    (stored : db.aiQueries.get? reservationId = some query) :
    ∃ query', (command.recorded stamp db event).aiQueries.get? reservationId = some query' ∧
      query'.id = query.id := by
  simp only [recorded, Closing.after]
  cases (command.closing ((command.account db).record event)).aiQuery with
  | none => exact ⟨query, stored, rfl⟩
  | some input =>
      by_cases same : reservationId = input.reservationId
      · subst same
        refine ⟨_, by rw [OrderedMap.get?_set, if_pos rfl], ?_⟩
        simp [AiQueryRecordInput.idIn, stored]
      · refine ⟨query, ?_, rfl⟩
        simp [OrderedMap.get?_set, same, stored]

/-- The balance after a recorded row is the one the command saw. -/
theorem balanceAfter_recorded (gapless : Gapless db.creditEvents)
    (decided : command.call.decision (command.account db) = .ok (some event)) :
    balanceAfter (command.recorded stamp db event).creditEvents
        (CreditEventMapper.toPersistence event stamp.createdAt) =
      ((command.account db).record event).balance := by
  have row := row_of_decision gapless decided
  have stream := Effect.walletStream_after gapless decided stamp.createdAt command.wallet.1
    command.wallet.2
  rw [if_pos rfl] at stream
  have length : (walletStream db.creditEvents command.wallet.1 command.wallet.2).length =
      (walletRows db.creditEvents command.wallet.1 command.wallet.2).length := by
    rw [gapless.walletStream_eq, List.length_map]
  simp only [balanceAfter, CreditEventMapper.toPersistence]
  rw [row.2.1, userId_of_decision decided, row.2.2]
  change (CreditAccount.rehydrate _ _ ((walletStream (_ ++ [CreditEventMapper.toPersistence event
    stamp.createdAt]) _ _).take _)).balance = _
  rw [stream, List.take_of_length_le (by simp [length]), rehydrate_concat]
  rfl

/-- A saved row says what its command asked for. -/
structure Saves (command : CreditCommand) (account : CreditAccount) (row : CreditEventRow) :
    Prop where
  aggregateId : row.aggregateId = account.aggregateId
  orgId : row.orgId = command.wallet.1
  userId : row.userId = command.wallet.2
  eventType : row.eventType = command.call.raised.text
  reason : row.payload.reason = command.call.reason
  reservationId : row.payload.reservationId = command.call.reservation?
  amount : ∀ amount, command.call.requested? = some amount → .finite row.payload.amount = amount

theorem saves_of_decision (gapless : Gapless db.creditEvents)
    (decided : command.call.decision (command.account db) = .ok (some event)) :
    command.Saves ((command.account db).record event)
      (CreditEventMapper.toPersistence event stamp.createdAt) := by
  have admits := Call.admits_of_decision decided
  have row := row_of_decision gapless decided
  rcases Call.raised_of_decision decided with ⟨type, held, requested⟩
  exact
    { aggregateId := admits.aggregateId.trans (CreditAccount.apply_aggregateId _ _).symm
      orgId := row.2.1
      userId := userId_of_decision decided
      eventType := congrArg CreditEventType.text type
      reason := Call.reason_of_decision decided
      reservationId := held
      amount := fun amount asked => (requested amount asked).symm }

theorem Saves.isAnnounced {account : CreditAccount} {row : CreditEventRow}
    (saves : command.Saves account row) : row.isAnnounced = command.call.raised.isAnnounced := by
  rw [CreditEventRow.isAnnounced, saves.eventType]
  cases command <;> rfl

/-- The reservation a release raises its event about still shows the amount. -/
theorem reservationAmount_released {command : ReleaseCreditReservationCommand}
    (decided : (releaseCreditReservation command).call.decision
      ((releaseCreditReservation command).account db) = .ok (some event)) :
    (((releaseCreditReservation command).account db).record event).reservationAmount
      command.reservationId = some event.payload.amount := by
  rcases Call.raised_of_decision decided with ⟨type, held, -⟩
  have named : event.payload.reservationId = some command.reservationId := held
  have stored := CreditAccount.get?_apply ((releaseCreditReservation command).account db) event
    command.reservationId
  rw [type] at stored
  simp only [call, Call.raised, CreditEventType.reservationStatus] at stored
  rw [if_pos named] at stored
  simp only [CreditAccount.reservationAmount, CreditAccount.record]
  rw [stored]
  rfl

/-- A command that announces its row tells what the row says. -/
theorem announces_recorded (gapless : Gapless db.creditEvents)
    (decided : command.call.decision (command.account db) = .ok (some event)) :
    List.Forall₂ (Announces (command.recorded stamp db event))
      ([CreditEventMapper.toPersistence event stamp.createdAt].filter CreditEventRow.isAnnounced)
      ((command.closing ((command.account db).record event)).event
        ((command.closing ((command.account db).record event)).id stamp db)).toList := by
  have balance : balanceAfter (command.recorded stamp db event).creditEvents _ = _ :=
    balanceAfter_recorded gapless decided
  have saves : command.Saves _ (CreditEventMapper.toPersistence event stamp.createdAt) :=
    saves_of_decision gapless decided
  have amount : (CreditEventMapper.toPersistence event stamp.createdAt).payload.amount =
    event.payload.amount := rfl
  generalize CreditEventMapper.toPersistence event stamp.createdAt = row at balance saves amount ⊢
  cases command with
  | grantCredits command =>
      rw [List.filter_cons_of_pos saves.isAnnounced]
      refine .cons ?_ .nil
      have told : Announces (recorded stamp (.grantCredits command) db event) row _ :=
        .creditAwarded saves.eventType
      rw [saves.aggregateId, saves.orgId, saves.userId, saves.amount _ rfl, saves.reason, balance]
        at told
      exact told
  | commitAiQuery command =>
      rw [List.filter_cons_of_pos saves.isAnnounced]
      refine .cons ?_ .nil
      have told : Announces (recorded stamp (.commitAiQuery command) db event) row _ :=
        .creditSpent command.amount saves.eventType saves.reservationId
          ((OrderedMap.get?_set ..).trans (if_pos rfl))
      rw [saves.aggregateId, saves.orgId, saves.userId, saves.reason, balance] at told
      exact told
  | releaseCreditReservation command =>
      rw [List.filter_cons_of_pos saves.isAnnounced]
      refine .cons ?_ .nil
      have told : Announces (recorded stamp (.releaseCreditReservation command) db event) row _ :=
        .creditReservationReleased
          ((codeUnits command.question).take ReleaseCreditReservationHandler.questionSnippetMax)
          saves.eventType saves.reservationId ((OrderedMap.get?_set ..).trans (if_pos rfl))
      rw [saves.aggregateId, saves.orgId, saves.userId, saves.reason, amount] at told
      simp only [closing, reservationAmount_released decided, Option.getD_some]
      exact told
  | _ =>
      rw [List.filter_cons_of_neg (by rw [saves.isAnnounced]; exact Bool.false_ne_true)]
      exact .nil

/-- A command that announces its row tells what it answers. -/
theorem tells_recorded {Client : Type} {commands : Client → CreditCommand}
    {entry : Workload.Entry Client CreditDb CreditReply}
    (commits : commands entry.client = command) (id : String)
    (replies : entry.reply = (command.closing ((command.account db).record event)).reply id) :
    List.Forall₂ (fun entry event => Tells (commands entry.client) entry.reply event)
      ([entry].filter fun entry => entry.reply.isAnnounced)
      ((command.closing ((command.account db).record event)).event id).toList := by
  have account : ((command.account db).record event).aggregateId =
      CreditAccount.walletId command.wallet.1 command.wallet.2 :=
    (CreditAccount.apply_aggregateId _ _).trans (loadOrOpen_frame db.creditEvents _ _).1
  cases command with
  | grantCredits command =>
      rw [List.filter_cons_of_pos (by rw [replies]; rfl)]
      refine .cons ?_ .nil
      rw [commits, replies]
      simp only [closing, account]
      exact .grantCredits command _
  | commitAiQuery command =>
      rw [List.filter_cons_of_pos (by rw [replies]; rfl)]
      refine .cons ?_ .nil
      rw [commits, replies]
      simp only [closing, account]
      exact .commitAiQuery command id _
  | releaseCreditReservation command =>
      rw [List.filter_cons_of_pos (by rw [replies]; rfl)]
      refine .cons ?_ .nil
      rw [commits, replies]
      simp only [closing, account]
      exact .releaseCreditReservation command _ id _
  | _ =>
      rw [List.filter_cons_of_neg (by rw [replies]; exact Bool.false_ne_true)]
      exact .nil

end CreditCommand

section Lists

variable {Item Other : Type} {Related : Item → Other → Prop} {items : List Item}
  {others : List Other}

theorem exists_of_mem_left (related : List.Forall₂ Related items others) {item : Item}
    (member : item ∈ items) : ∃ other ∈ others, Related item other := by
  induction related with
  | nil => cases member
  | cons head _ ih =>
      rcases List.mem_cons.mp member with rfl | later
      · exact ⟨_, List.mem_cons_self, head⟩
      · rcases ih later with ⟨other, among, related⟩
        exact ⟨other, List.mem_cons_of_mem _ among, related⟩

theorem exists_of_mem_right (related : List.Forall₂ Related items others) {other : Other}
    (member : other ∈ others) : ∃ item ∈ items, Related item other :=
  @exists_of_mem_left _ _ (flip Related) _ _ related.flip _ member

end Lists

section Runs

variable {Client : Type} [DecidableEq Client] {stamps : Client → Stamp}
  {commands : Client → CreditCommand}
  {state : Workload.State Client CreditDb CreditWrite CreditError CreditReply}

/-- The outbox tells of the announced rows and of the announcing answers, in their order. -/
structure Told (commands : Client → CreditCommand) (db : CreditDb)
    (log : List (Workload.Entry Client CreditDb CreditReply)) : Prop where
  owned : InOwnWallets db.creditEvents
  rows : List.Forall₂ (Announces db) (db.creditEvents.filter CreditEventRow.isAnnounced) db.outbox
  answers : List.Forall₂ (fun entry event => Tells (commands entry.client) entry.reply event)
    (log.filter fun entry => entry.reply.isAnnounced) db.outbox

omit [DecidableEq Client] in
theorem Told.exists_row {db : CreditDb} {log : List (Workload.Entry Client CreditDb CreditReply)}
    {event : CreditOutboxEvent} (told : Told commands db log) (member : event ∈ db.outbox) :
    ∃ row ∈ db.creditEvents, Announces db row event := by
  rcases exists_of_mem_right told.rows member with ⟨row, among, announces⟩
  exact ⟨row, List.mem_of_mem_filter among, announces⟩

omit [DecidableEq Client] in
theorem Told.exists_event {db : CreditDb} {log : List (Workload.Entry Client CreditDb CreditReply)}
    {row : CreditEventRow} (told : Told commands db log) (stored : row ∈ db.creditEvents)
    (announced : row.isAnnounced) : ∃ event ∈ db.outbox, Announces db row event :=
  exists_of_mem_left told.rows (List.mem_filter.mpr ⟨stored, announced⟩)

omit [DecidableEq Client] in
theorem Told.commit {db next : CreditDb}
    {log : List (Workload.Entry Client CreditDb CreditReply)} {client : Client}
    {begun : CreditDb} {reply : CreditReply} (told : Told commands db log)
    (gapless : Gapless db.creditEvents)
    (effect : (commands client).Effect (stamps client) begun reply db next) :
    Told commands next (log ++ [⟨client, begun, reply⟩]) := by
  cases effect with
  | @skipped loaded db began since gapless' later decided =>
      refine ⟨told.owned, told.rows, ?_⟩
      rw [List.filter_append]
      have silent : ([⟨client, begun, CreditCommand.skipped ((commands client).account loaded)⟩] :
          List (Workload.Entry Client CreditDb CreditReply)).filter
            (fun entry => entry.reply.isAnnounced) = [] := rfl
      rw [silent, List.append_nil]
      exact told.answers
  | @recorded db event since decided =>
      have saves : (commands client).Saves _
          (CreditEventMapper.toPersistence event (stamps client).createdAt) :=
        CreditCommand.saves_of_decision gapless decided
      refine ⟨?_, ?_, ?_⟩
      · intro row member
        rcases List.mem_append.mp member with old | new
        · exact told.owned row old
        · cases List.mem_singleton.mp new
          rw [saves.orgId, saves.userId]
          exact (CreditCommand.row_of_decision gapless decided).1
      · have kept : List.Forall₂ (Announces ((commands client).recorded (stamps client) db event))
            (db.creditEvents.filter CreditEventRow.isAnnounced) db.outbox := by
          have both := (List.forall₂_and_left _ _).mpr
            ⟨fun row member => (List.mem_filter.mp member).1, told.rows⟩
          refine both.imp fun row event' => ?_
          rintro ⟨stored, announces⟩
          refine announces.grow ?_ fun _ _ => CreditCommand.recorded_ids
          refine balanceAfter_of_extended ?_ (version_le gapless told.owned stored)
          have stream := CreditCommand.Effect.walletStream_after gapless decided
            (stamps client).createdAt row.orgId row.userId
          exact ⟨_, stream.symm⟩
        change List.Forall₂ _ ((_ ++ [_]).filter _) (_ ++ _)
        rw [List.filter_append]
        exact List.rel_append kept (CreditCommand.announces_recorded gapless decided)
      · change List.Forall₂ _ ((_ ++ [_]).filter _) (_ ++ _)
        rw [List.filter_append]
        exact List.rel_append told.answers (CreditCommand.tells_recorded rfl _ rfl)

theorem told_of_reachable (reached : (creditWorkload stamps commands).system.Reachable state) :
    Told commands state.db state.log := by
  refine (creditOutline stamps commands).invariant ?_ ?_ ?_ reached
  · rintro db ⟨events, -, outbox⟩
    refine ⟨?_, ?_, ?_⟩ <;> simp [InOwnWallets, events, outbox]
  · rintro db _ log told ⟨memberships, rfl⟩
    refine ⟨told.owned, told.rows.imp fun row event announces => ?_, told.answers⟩
    exact announces.grow rfl fun _ query stored => ⟨query, stored, rfl⟩
  · intro db next log client begun reply gapless told _ effect
    exact told.commit gapless effect

/-- The outbox neither hides nor invents a change of a wallet. -/
theorem outbox_announces_ledger
    (reached : (creditWorkload stamps commands).system.Reachable state) :
    InOwnWallets state.db.creditEvents ∧
      List.Forall₂ (Announces state.db)
        (state.db.creditEvents.filter CreditEventRow.isAnnounced) state.db.outbox ∧
      List.Forall₂ (fun entry event => Tells (commands entry.client) entry.reply event)
        (state.log.filter fun entry => entry.reply.isAnnounced) state.db.outbox := by
  have told := told_of_reachable reached
  exact ⟨told.owned, told.rows, told.answers⟩

end Runs

/-- Credits are granted and spent, and granted once more. -/
def grantedTwice : ℕ → CreditCommand
  | 1 => .spendCredits ⟨"org", "user", .finite 2, "post"⟩
  | _ => .grantCredits ⟨"org", "user", .finite 5, "welcome"⟩

/-- The outbox announces the grants, and not what was spent in between. -/
theorem outbox_announces_ledger_granted :
    ∃ state : Workload.State ℕ CreditDb CreditWrite CreditError CreditReply,
      state.db.creditEvents.length = 3 ∧ state.db.outbox.length = 2 ∧
      List.Forall₂ (Announces state.db)
        (state.db.creditEvents.filter CreditEventRow.isAnnounced) state.db.outbox := by
  let stamps : ℕ → Stamp := fun _ => ⟨0, ""⟩
  let start : Workload.State ℕ CreditDb CreditWrite CreditError CreditReply :=
    ⟨⟨[], .empty, [], [("org", "user")]⟩, [], fun _ => .idle⟩
  have reached : (creditWorkload stamps grantedTwice).system.Reachable start :=
    .initial ⟨⟨rfl, rfl, rfl⟩, rfl, fun _ => rfl⟩
  let row (type : String) (version : ℕ) (payload : CreditEventPayload) : CreditEventRow :=
    ⟨"org:user", "org", "user", type, version, payload, 0⟩
  let awarded (balance : ℚ) : CreditOutboxEvent :=
    .creditAwarded "org:user" "org" "user" (.finite 5) "welcome" balance
  have granted := Workload.reachable_commit reached 0 (.inl rfl) (fun _ _ => rfl)
    (.of_all (fun _ _ => trivial) _ _ _) (show _ = Except.ok (.grantCredits 5,
      [.insertCreditEvent (row "CreditGranted" 1 ⟨5, "welcome", none⟩),
        .appendOutbox (awarded 5)]) by decide +kernel)
  have spent := Workload.reachable_commit granted 1 (.inl rfl)
    (fun other _ => by rcases other with _ | other <;> rfl)
    (.of_all (fun _ _ => trivial) _ _ _) (show _ = Except.ok (.spendCredits 3 (.finite 2),
      [.insertCreditEvent (row "CreditSpent" 2 ⟨2, "post", none⟩)]) by decide +kernel)
  have granted' := Workload.reachable_commit spent 2 (.inl rfl)
    (fun other _ => by rcases other with _ | _ | other <;> rfl)
    (.of_all (fun _ _ => trivial) _ _ _) (show _ = Except.ok (.grantCredits 8,
      [.insertCreditEvent (row "CreditGranted" 3 ⟨5, "welcome", none⟩),
        .appendOutbox (awarded 8)]) by decide +kernel)
  exact ⟨_, rfl, rfl, (outbox_announces_ledger granted').2.1⟩

end CoreApi.Credit
