import CoreApi.Credit.Commands

/-!
# The common shape of the credit commands

Every handler loads a wallet, calls one operation of the aggregate, saves what
it raised and closes with at most one `ai_queries` row and one outbox event.
-/

namespace CoreApi.Credit

namespace CreditCommand

open CreditRepos

/-- The wallet a command loads, as its organization and its user. -/
def wallet : CreditCommand → String × String
  | .grantCredits command => (command.orgId, command.recipientUserId)
  | .spendCredits command => (command.orgId, command.userId)
  | .refundCredits command => (command.orgId, command.userId)
  | .reserveCredits command => (command.orgId, command.userId)
  | .commitAiQuery command => (command.orgId, command.userId)
  | .releaseCreditReservation command => (command.orgId, command.userId)

/-- The operation a command performs on it. -/
def call : CreditCommand → Call
  | .grantCredits command => .grant command.amount command.reason
  | .spendCredits command => .spend command.amount command.reason
  | .refundCredits command => .refund command.amount command.reason
  | .reserveCredits command => .reserve command.reservationId command.amount command.reason
  | .commitAiQuery command => .commitReservation command.reservationId command.reason
  | .releaseCreditReservation command =>
      .releaseReservation command.reservationId command.reason

/-- What a handler does once the ledger is saved. -/
structure Closing where
  aiQuery : Option AiQueryRecordInput
  event : String → Option CreditOutboxEvent
  reply : String → CreditReply

namespace Closing

/-- The row of the question, if the command records one, and its id. -/
def recordAiQuery (stamp : Stamp) (closing : Closing) : CreditTx String :=
  match closing.aiQuery with
  | some input => PrismaAiQueryRepository.record stamp input
  | none => pure ""

/-- The event of the outbox, if the command appends one. -/
def appendEvent (closing : Closing) (id : String) : CreditTx Unit :=
  match closing.event id with
  | some event => append event
  | none => pure ()

/-- What is left to do once the wallet is saved. -/
def run (stamp : Stamp) (closing : Closing) : CreditTx CreditReply := do
  let id ← closing.recordAiQuery stamp
  closing.appendEvent id
  return closing.reply id

end Closing

/-- How each command ends once it has changed the wallet. -/
def closing (account : CreditAccount) : CreditCommand → Closing
  | .grantCredits command =>
      { aiQuery := none
        event := fun _ => some (.creditAwarded account.aggregateId command.orgId
          command.recipientUserId command.amount command.reason account.balance)
        reply := fun _ => .grantCredits account.balance }
  | .spendCredits command =>
      ⟨none, fun _ => none, fun _ => .spendCredits account.balance command.amount⟩
  | .refundCredits _ => ⟨none, fun _ => none, fun _ => .refundCredits account.balance⟩
  | .reserveCredits _ => ⟨none, fun _ => none, fun _ => .reserveCredits account.available⟩
  | .commitAiQuery command =>
      { aiQuery := some
          { orgId := command.orgId
            userId := command.userId
            question := command.question
            answer := some command.answer
            sources := command.sources
            creditCost := command.amount
            status := .answered
            reservationId := command.reservationId }
        event := fun id => some (.creditSpent account.aggregateId command.orgId command.userId
          command.amount command.reason account.balance command.reservationId id)
        reply := fun id => .commitAiQuery ⟨id, account.balance⟩ }
  | .releaseCreditReservation command =>
      { aiQuery := some
          { orgId := command.orgId
            userId := command.userId
            question := command.question
            answer := none
            sources := []
            creditCost := .finite 0
            status := .failed
            reservationId := command.reservationId }
        event := fun id => some (.creditReservationReleased account.aggregateId command.orgId
          command.userId ((account.reservationAmount command.reservationId).getD 0)
          command.reservationId id command.reason
          ((codeUnits command.question).take
            ReleaseCreditReservationHandler.questionSnippetMax))
        reply := fun id => .releaseCreditReservation ⟨true, account.balance, some id⟩ }

/-- The answer of a command that found nothing to do; only a release does. -/
def skipped (account : CreditAccount) : CreditReply :=
  .releaseCreditReservation ⟨false, account.balance, none⟩

/-- Only a grant checks anything before it loads the wallet. -/
def guarded (body : CreditTx CreditReply) : CreditCommand → CreditTx CreditReply
  | .grantCredits command => do
      let recipientMembership ← hasMembership command.orgId command.recipientUserId
      if !recipientMembership then Tx.fail .membershipNotFound else body
  | _ => body

/-- The operation on a loaded wallet, the save and the closing. -/
def act (stamp : Stamp) (command : CreditCommand) (account : CreditAccount) :
    CreditTx CreditReply :=
  match command.call.decision account with
  | .error error => Tx.fail error
  | .ok none => return skipped account
  | .ok (some event) => do
      save stamp (account.record event)
      (command.closing (account.record event)).run stamp

/-- The wallet is loaded and the command carried out on it. -/
def settle (stamp : Stamp) (command : CreditCommand) : CreditTx CreditReply := do
  let account ← loadOrOpen command.wallet.1 command.wallet.2
  command.act stamp account

/-- An operation that returns nothing throws or raises the decided event. -/
theorem invoke_cases {method : AccountM Unit} (call : Call)
    (performs : call.perform = do method; return true) (account : CreditAccount) :
    (∃ error, call.decision account = .error error ∧ invoke method account = .fail error) ∨
      ∃ event, call.decision account = .ok (some event) ∧
        invoke method account = pure ((), account.record event) := by
  have performed := Call.perform_eq call account
  simp only [performs, AccountM.bind_run] at performed
  simp only [invoke]
  cases called : method account with
  | error error after =>
      simp only [called] at performed
      rcases decided : call.decision account with error' | _ | event <;>
        simp [decided] at performed
      exact .inl ⟨error', rfl, by rw [performed.1]⟩
  | ok value after =>
      simp only [called] at performed
      rcases decided : call.decision account with error' | _ | event <;>
        simp [decided] at performed
      exact .inr ⟨event, rfl, by rw [performed]⟩

/-- A release returns whether it raised an event. -/
theorem invoke_release (reservationId reason : String) (account : CreditAccount) :
    invoke (CreditAccount.releaseReservation reservationId reason) account =
      match (Call.releaseReservation reservationId reason).decision account with
      | .error error => .fail error
      | .ok none => pure (false, account)
      | .ok (some event) => pure (true, account.record event) := by
  have performed := Call.perform_eq (.releaseReservation reservationId reason) account
  change CreditAccount.releaseReservation reservationId reason account = _ at performed
  simp only [invoke]
  rw [performed]
  rcases (Call.releaseReservation reservationId reason).decision account with error | _ | event <;>
    rfl

theorem execute_eq (stamp : Stamp) (command : CreditCommand) :
    command.execute stamp = command.guarded (command.settle stamp) := by
  cases command with
  | grantCredits command =>
      refine congrArg (_ >>= ·) (funext ?_)
      intro member
      cases member with
      | false => rfl
      | true =>
          refine congrArg (_ >>= ·) (funext ?_)
          intro account
          rcases invoke_cases (.grant command.amount command.reason) rfl account with
            ⟨error, decided, invoked⟩ | ⟨event, decided, invoked⟩ <;>
            simp [act, call, decided, invoked, Closing.run,
          Closing.recordAiQuery, Closing.appendEvent, closing]
  | spendCredits command =>
      refine congrArg (_ >>= ·) (funext ?_)
      intro account
      rcases invoke_cases (.spend command.amount command.reason) rfl account with
        ⟨error, decided, invoked⟩ | ⟨event, decided, invoked⟩ <;>
        simp [act, call, decided, invoked, Closing.run,
          Closing.recordAiQuery, Closing.appendEvent, closing]
  | refundCredits command =>
      refine congrArg (_ >>= ·) (funext ?_)
      intro account
      rcases invoke_cases (.refund command.amount command.reason) rfl account with
        ⟨error, decided, invoked⟩ | ⟨event, decided, invoked⟩ <;>
        simp [act, call, decided, invoked, Closing.run,
          Closing.recordAiQuery, Closing.appendEvent, closing]
  | reserveCredits command =>
      refine congrArg (_ >>= ·) (funext ?_)
      intro account
      rcases invoke_cases
          (.reserve command.reservationId command.amount command.reason) rfl account with
        ⟨error, decided, invoked⟩ | ⟨event, decided, invoked⟩ <;>
        simp [act, call, decided, invoked, Closing.run,
          Closing.recordAiQuery, Closing.appendEvent, closing]
  | commitAiQuery command =>
      refine congrArg (_ >>= ·) (funext ?_)
      intro account
      rcases invoke_cases (.commitReservation command.reservationId command.reason) rfl
          account with ⟨error, decided, invoked⟩ | ⟨event, decided, invoked⟩ <;>
        simp [act, call, decided, invoked, Closing.run,
          Closing.recordAiQuery, Closing.appendEvent, closing]
  | releaseCreditReservation command =>
      refine congrArg (_ >>= ·) (funext ?_)
      intro account
      rw [invoke_release]
      rcases decided : (Call.releaseReservation command.reservationId command.reason).decision
          account with error | _ | event <;>
        simp [act, call, decided, Closing.run,
          Closing.recordAiQuery, Closing.appendEvent, closing, skipped]

end CreditCommand

end CoreApi.Credit
