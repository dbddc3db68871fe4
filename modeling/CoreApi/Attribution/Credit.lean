import CoreApi.Credit.Announcements
import CoreApi.Foundation.WriteSets
import CoreApi.Repos.Commands

/-!
# Signed rows of the ledger

A command of the credit module adds a row to the wallet it names, and says in it what
it was asked for. One that closes a reservation has found it in the same wallet, where
a row of the table has opened it before.
-/

namespace CoreApi.Credit

open WriteSet

section Signatures

variable {Client : Type} (commands : Client → Option CoreCommand)

/-- Somebody runs a command of the credit module. -/
def Books (command : CreditCommand) : Prop :=
  ∃ client stamp, commands client = some (.credit stamp command)

/-- A row about a reservation goes back to the command that reserved the amount. -/
structure LedgerSigned (row : CreditEventRow) : Prop where
  aggregateId : row.aggregateId = CreditAccount.walletId row.orgId row.userId
  asked : ∃ command, Books commands command ∧ command.wallet = (row.orgId, row.userId) ∧
    row.eventType = command.call.raised.text ∧ row.payload.reason = command.call.reason ∧
    row.payload.reservationId = command.call.reservation? ∧
    ∀ amount, command.call.requested? = some amount → amount = .finite row.payload.amount
  reserved : ∀ id, row.payload.reservationId = some id → ∃ reason, Books commands
    (.reserveCredits ⟨row.orgId, row.userId, id, .finite row.payload.amount, reason⟩)

/-- The writes that add signed rows to the ledger. -/
def ledgerSignatures : WriteSet coreEngine where
  Inv db := ∀ row ∈ db.creditEvents, LedgerSigned commands row
  Rely _ _ _ := True
  refl _ _ := trivial
  trans _ _ := trivial
  Allowed write := ∀ now row, write = .credit now (.insertCreditEvent row) →
    LedgerSigned commands row
  inv_apply db write signed puts := by
    cases write with
    | credit now write =>
        cases write with
        | insertCreditEvent row =>
            intro other member
            rcases List.mem_append.mp member with old | new
            · exact signed other old
            · exact List.mem_singleton.mp new ▸ puts now row rfl
        | _ => exact signed
    | _ => exact signed
  rely_apply _ _ _ _ _ := trivial

end Signatures

variable {Client : Type} {commands : Client → Option CoreCommand} {client : Client} {stamp : Stamp}
  {command : CreditCommand} {account : CreditAccount}

/-- A body of the credit module that writes signed rows. -/
abbrev Signs {Value : Type} (commands : Client → Option CoreCommand) (now : ℤ)
    (body : CreditTx Value) (answers : Value → Prop) : Prop :=
  (ledgerSignatures commands).Adds ((creditComponent now).lift CoreError.credit body) answers

/-- The wallet of a command as it is loaded: without changes, with reservations that somebody has
asked for. -/
structure LoadedSigned (commands : Client → Option CoreCommand) (wallet : String × String)
    (account : CreditAccount) : Prop where
  aggregateId : account.aggregateId = CreditAccount.walletId wallet.1 wallet.2
  orgId : account.orgId = wallet.1
  userId : account.userId = wallet.2
  uncommitted : account.uncommitted = []
  reservations : ∀ id state, account.reservations.get? id = some state → ∃ reason,
    Books commands (.reserveCredits ⟨wallet.1, wallet.2, id, .finite state.amount, reason⟩)

theorem loaded_signed {db : CoreDb} (signed : (ledgerSignatures commands).Inv db)
    (orgId userId : String) :
    LoadedSigned commands (orgId, userId)
      (PrismaCreditEventRepository.loadOrOpen db.creditEvents orgId userId) := by
  have frame := loadOrOpen_frame db.creditEvents orgId userId
  refine ⟨frame.1, frame.2.1, frame.2.2.1, frame.2.2.2, ?_⟩
  intro id state known
  rcases get?_foldl_apply (.openAccount orgId userId) (walletStream db.creditEvents orgId userId) id
    with none | ⟨event, member, _, named, -, found⟩
  · cases none.symm.trans known
  · rcases List.mem_map.mp member with ⟨row, stored, rfl⟩
    rcases List.mem_filter.mp ((List.mem_insertionSort _).mp stored) with ⟨inTable, condition⟩
    rcases of_decide_eq_true condition with ⟨aggregateId, org⟩
    have own := signed row inTable
    obtain rfl := org
    have user : row.userId = userId :=
      CreditAccount.walletId_inj (own.aggregateId.symm.trans aggregateId)
    cases found.symm.trans known
    rw [← user]
    exact own.reserved id named

namespace CreditCommand

/-- The row an event is saved as. -/
theorem ledgerRow_signed {event : CreditLedgerEvent}
    (books : Books commands command) (loaded : LoadedSigned commands command.wallet account)
    (decided : command.call.decision account = .ok (some event)) (createdAt : ℤ) :
    LedgerSigned commands (CreditEventMapper.toPersistence event createdAt) := by
  have admits := Call.admits_of_decision decided
  rcases Call.raised_of_decision decided with ⟨type, named, requested⟩
  have orgId : event.orgId = command.wallet.1 := admits.orgId.trans loaded.orgId
  have userId : event.userId = command.wallet.2 := admits.userId.trans loaded.userId
  refine ⟨?_, ⟨command, books, ?_, congrArg CreditEventType.text type,
    Call.reason_of_decision decided, named, requested⟩, ?_⟩
  · change event.aggregateId = CreditAccount.walletId event.orgId event.userId
    rw [orgId, userId]
    exact admits.aggregateId.trans loaded.aggregateId
  · exact Prod.ext orgId.symm userId.symm
  · intro id held
    change ∃ reason, Books commands (.reserveCredits
      ⟨event.orgId, event.userId, id, .finite event.payload.amount, reason⟩)
    have held : event.payload.reservationId = some id := held
    have allowed := admits.allowed
    rw [orgId, userId]
    rw [type] at allowed
    cases command with
    | reserveCredits reserve =>
        obtain rfl : reserve.reservationId = id := Option.some.inj (named.symm.trans held)
        refine ⟨reserve.reason, ?_⟩
        rw [← requested _ rfl]
        exact books
    | commitAiQuery commit =>
        rcases allowed with ⟨id', named', known⟩
        obtain rfl : id' = id := Option.some.inj (named'.symm.trans held)
        exact loaded.reservations _ _ known
    | releaseCreditReservation release =>
        rcases allowed with ⟨id', named', known⟩
        obtain rfl : id' = id := Option.some.inj (named'.symm.trans held)
        exact loaded.reservations _ _ known
    | _ => cases named.symm.trans held

theorem save_signs {now : ℤ} {event : CreditLedgerEvent} (books : Books commands command)
    (loaded : LoadedSigned commands command.wallet account)
    (decided : command.call.decision account = .ok (some event)) :
    Signs commands now (CreditRepos.save stamp (account.record event)) fun _ => True := by
  refine Adds.lift_execute ?_
  intro db _ writes value ran
  rw [PrismaCreditEventRepository.save_record _ _ loaded.uncommitted] at ran
  split at ran
  · cases ran
  · cases ran
    refine ⟨List.forall_mem_singleton.mpr ?_, trivial⟩
    rintro _ _ ⟨⟩
    exact ledgerRow_signed books loaded decided _

/-- The rest of a command adds no row to the ledger. -/
theorem run_signs {now : ℤ} (closing : Closing) :
    Signs commands now (closing.run stamp) fun _ => True := by
  rcases closing with ⟨aiQuery, event, reply⟩
  refine Adds.lift_bind (fun _ => True) ?_ fun id _ => ?_
  · cases aiQuery with
    | none => exact Adds.pure trivial
    | some input =>
        refine Adds.lift_execute ?_
        rintro db _ writes value ⟨⟩
        exact ⟨List.forall_mem_singleton.mpr (by rintro _ _ ⟨⟩), trivial⟩
  · refine Adds.lift_bind (fun _ => True) ?_ fun _ _ => Adds.pure trivial
    change Signs commands now (Closing.appendEvent ⟨aiQuery, event, reply⟩ id) _
    simp only [Closing.appendEvent]
    cases event id with
    | none => exact Adds.pure trivial
    | some event =>
        refine Adds.lift_execute ?_
        rintro db _ writes value ⟨⟩
        exact ⟨List.forall_mem_singleton.mpr (by rintro _ _ ⟨⟩), trivial⟩

theorem settle_signs {now : ℤ} (books : Books commands command) :
    Signs commands now (command.settle stamp) fun _ => True := by
  refine Adds.lift_bind (LoadedSigned commands command.wallet)
    (Adds.lift_read fun db signed => loaded_signed signed _ _) fun account loaded => ?_
  simp only [act]
  split
  · exact Adds.fail _
  · exact Adds.pure trivial
  · next event decided =>
      exact Adds.lift_bind _ (save_signs books loaded decided) fun _ _ => run_signs _

/-- Every command of the credit module writes signed rows. -/
theorem execute_signs (mine : commands client = some (.credit stamp command)) :
    Signs commands stamp.createdAt (command.execute stamp) fun _ => True := by
  have settles := @settle_signs _ commands stamp command stamp.createdAt ⟨client, stamp, mine⟩
  rw [execute_eq]
  cases command with
  | grantCredits grant =>
      refine Adds.lift_bind (fun _ => True) (Adds.lift_read fun _ _ => trivial) fun member _ => ?_
      split
      · exact Adds.fail _
      · exact settles
  | _ => exact settles

end CreditCommand

end CoreApi.Credit
