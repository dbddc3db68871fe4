import CoreApi.Credit.Outcome
import CoreApi.Tenancy.Ownership

/-!
# Reservations stay with their organization

The commands of the credit module, statement by statement: a row of the ledger
belongs to the wallet that was loaded, and a reservation that is closed was
found in that wallet, so the AI query is recorded for the organization that drew
the reservation.
-/

namespace CoreApi.Credit

open Registry

variable {drawn : String → String → Prop} {stamp : Stamp} {command : CreditCommand}

/-- The wallet of a command as it is loaded: without changes, with reservations drawn by its
organization. -/
structure Loaded (drawn : String → String → Prop) (wallet : String × String)
    (account : CreditAccount) : Prop where
  aggregateId : account.aggregateId = CreditAccount.walletId wallet.1 wallet.2
  orgId : account.orgId = wallet.1
  userId : account.userId = wallet.2
  uncommitted : account.uncommitted = []
  reservations : ∀ id state, account.reservations.get? id = some state → drawn id wallet.1

/-- A command names an organization without a colon, and reserves what that organization drew. -/
structure CreditCommand.Draws (drawn : String → String → Prop) (command : CreditCommand) :
    Prop where
  plain : ':' ∉ command.wallet.1.toList
  reserve : ∀ reserve, command = .reserveCredits reserve →
    drawn reserve.reservationId reserve.orgId

theorem loaded {db : CoreDb} (owned : Owned drawn db) (orgId userId : String) :
    Loaded drawn (orgId, userId)
      (PrismaCreditEventRepository.loadOrOpen db.creditEvents orgId userId) := by
  have frame := loadOrOpen_frame db.creditEvents orgId userId
  refine ⟨frame.1, frame.2.1, frame.2.2.1, frame.2.2.2, ?_⟩
  intro id state known
  rcases get?_foldl_apply (.openAccount orgId userId) (walletStream db.creditEvents orgId userId) id
    with none | ⟨event, member, _, named, -, -⟩
  · cases none.symm.trans known
  · rcases List.mem_map.mp member with ⟨row, stored, rfl⟩
    rcases List.mem_filter.mp ((List.mem_insertionSort _).mp stored) with ⟨inTable, condition⟩
    have org : row.orgId = orgId := (of_decide_eq_true condition).2
    exact org ▸ (owned.creditEvents row inTable).reservation id named

namespace CreditCommand

/-- A command that is not a reserve closes a reservation it has found in the wallet. -/
theorem known_of_decision {account : CreditAccount} {event : CreditLedgerEvent}
    (decided : command.call.decision account = .ok (some event)) {id : String}
    (about : command.call.reservation? = some id) :
    (∃ reserve, command = .reserveCredits reserve ∧ reserve.reservationId = id) ∨
      ∃ state, account.reservations.get? id = some state := by
  have raised := Call.raised_of_decision decided
  have allowed := (Call.admits_of_decision decided).allowed
  rw [raised.1] at allowed
  cases command with
  | reserveCredits reserve => exact .inl ⟨reserve, rfl, Option.some.inj about⟩
  | commitAiQuery commit =>
      rcases allowed with ⟨id', named, known⟩
      obtain rfl : id' = id := Option.some.inj (named.symm.trans (raised.2.1.trans about))
      exact .inr ⟨_, known⟩
  | releaseCreditReservation release =>
      rcases allowed with ⟨id', named, known⟩
      obtain rfl : id' = id := Option.some.inj (named.symm.trans (raised.2.1.trans about))
      exact .inr ⟨_, known⟩
  | _ => cases about

/-- A decided event is about a reservation that the organization drew. -/
theorem drawn_of_decision {account : CreditAccount} {event : CreditLedgerEvent}
    (draws : command.Draws drawn) (loaded : Loaded drawn command.wallet account)
    (decided : command.call.decision account = .ok (some event)) (id : String)
    (about : command.call.reservation? = some id) : drawn id command.wallet.1 := by
  rcases known_of_decision decided about with ⟨reserve, rfl, rfl⟩ | ⟨state, known⟩
  · exact draws.reserve reserve rfl
  · exact loaded.reservations id state known

theorem closing_input {account : CreditAccount} {input : AiQueryRecordInput}
    (records : (command.closing account).aiQuery = some input) :
    input.orgId = command.wallet.1 ∧ command.call.reservation? = some input.reservationId ∧
      ∀ reserve, command ≠ .reserveCredits reserve := by
  cases command <;> cases records <;> exact ⟨rfl, rfl, by rintro _ ⟨⟩⟩

/-- The row an event is saved as. -/
theorem ledgerRow_of_decision {account : CreditAccount} {event : CreditLedgerEvent}
    (draws : command.Draws drawn) (loaded : Loaded drawn command.wallet account)
    (decided : command.call.decision account = .ok (some event)) (createdAt : ℤ) :
    LedgerRow drawn (CreditEventMapper.toPersistence event createdAt) := by
  have admits := Call.admits_of_decision decided
  have raised := Call.raised_of_decision decided
  have orgId : event.orgId = command.wallet.1 := admits.orgId.trans loaded.orgId
  have userId : event.userId = command.wallet.2 := admits.userId.trans loaded.userId
  refine ⟨?_, ?_, ?_⟩
  · change event.aggregateId = CreditAccount.walletId event.orgId event.userId
    rw [orgId, userId]
    exact admits.aggregateId.trans loaded.aggregateId
  · change ':' ∉ event.orgId.toList
    exact orgId ▸ draws.plain
  · intro id named
    change drawn id event.orgId
    rw [orgId]
    exact drawn_of_decision draws loaded decided id (raised.2.1.symm.trans named)

variable {now : ℤ}

/-- A body of the credit module that writes soundly. -/
abbrev WritesSoundly {Value : Type} (drawn : String → String → Prop) (now : ℤ)
    (body : CreditTx Value) : Prop :=
  (rowRegistry drawn).Triple (fun _ => True) ((creditComponent now).lift CoreError.credit body)
    fun _ _ => True

theorem save_sound {account : CreditAccount} {event : CreditLedgerEvent}
    (draws : command.Draws drawn) (loaded : Loaded drawn command.wallet account)
    (decided : command.call.decision account = .ok (some event)) :
    WritesSoundly drawn now (CreditRepos.save stamp (account.record event)) := by
  refine Triple.lift_execute Stable.true ?_
  intro db _ _ writes value ran
  rw [PrismaCreditEventRepository.save_record _ _ loaded.uncommitted] at ran
  split at ran
  · cases ran
  · cases ran
    refine ⟨⟨⟨?_, ledgerRow_of_decision draws loaded decided _⟩, trivial⟩, trivial⟩
    rintro _ _ ⟨⟩

theorem record_sound {input : AiQueryRecordInput} (own : drawn input.reservationId input.orgId) :
    WritesSoundly drawn now (PrismaAiQueryRepository.record stamp input) := by
  refine Triple.lift_execute Stable.true ?_
  intro db _ _ writes value ran
  cases ran
  refine ⟨⟨⟨?_, own⟩, trivial⟩, trivial⟩
  rintro _ _ ⟨⟩

theorem append_sound (event : CreditOutboxEvent) :
    WritesSoundly drawn now (CreditRepos.append event) := by
  refine Triple.lift_execute Stable.true ?_
  intro db _ _ writes value ran
  cases ran
  refine ⟨⟨⟨?_, trivial⟩, trivial⟩, trivial⟩
  rintro _ _ ⟨⟩

theorem run_sound {closing : Closing}
    (own : ∀ input, closing.aiQuery = some input → drawn input.reservationId input.orgId) :
    WritesSoundly drawn now (closing.run stamp) := by
  rcases closing with ⟨aiQuery, event, reply⟩
  refine Triple.lift_bind (fun _ _ => True) ?_ fun id => ?_
  · cases aiQuery with
    | none => exact Triple.pure fun _ => id
    | some input => exact record_sound (own input rfl)
  · refine Triple.lift_bind (fun _ _ => True) ?_ fun _ => Triple.pure fun _ => fun holds => holds
    change WritesSoundly drawn now (Closing.appendEvent ⟨aiQuery, event, reply⟩ id)
    simp only [Closing.appendEvent]
    cases event id with
    | none => exact Triple.pure fun _ => fun holds => holds
    | some event => exact append_sound event

theorem act_sound {account : CreditAccount} (draws : command.Draws drawn)
    (loaded : Loaded drawn command.wallet account) :
    WritesSoundly drawn now (command.act stamp account) := by
  simp only [act]
  split
  · exact Triple.fail _
  · exact Triple.pure fun _ => id
  · next event decided =>
      refine Triple.lift_bind _ (save_sound draws loaded decided) fun _ => run_sound ?_
      intro input records
      rcases closing_input records with ⟨org, about, -⟩
      exact org ▸ drawn_of_decision draws loaded decided _ about

theorem settle_sound (draws : command.Draws drawn) :
    WritesSoundly drawn now (command.settle stamp) := by
  refine Triple.lift_bind (fun account _ => Loaded drawn command.wallet account ∧ True)
    (Triple.lift_read Stable.true ?_) fun account => Triple.of_fact fun loaded => ?_
  · intro db owned _
    exact ⟨loaded owned _ _, trivial⟩
  · exact act_sound draws loaded

/-- Every command of the credit module writes soundly. -/
theorem execute_sound (draws : command.Draws drawn) :
    WritesSoundly drawn now (command.execute stamp) := by
  rw [execute_eq]
  have settles := @settle_sound drawn stamp command now draws
  cases command with
  | grantCredits grant =>
      refine Triple.lift_bind (fun _ _ => True)
        (Triple.lift_read Stable.true fun _ _ _ => trivial) fun member => ?_
      split
      · exact Triple.fail _
      · exact settles
  | _ => exact settles

end CreditCommand

end CoreApi.Credit
