import CoreApi.Credit.Ledger
import CoreApi.Foundation.Transaction

/-!
# The transactional commands of the credit module

Each handler is a transaction body over the tables it reads and writes. The
database and the id generator fill in two values of a row, its `createdAt` and
the id of a new `ai_queries` row; a body takes them as its stamp.
-/

namespace CoreApi.Credit

/-- An item that an answer cites. -/
structure RagSource where
  knowledgeItemId : String
  title : String
deriving DecidableEq

inductive AiQueryStatus where
  | answered
  | failed
deriving DecidableEq

/-- What is recorded about a question. -/
structure AiQueryRecordInput where
  orgId : String
  userId : String
  question : String
  answer : Option String
  sources : List RagSource
  creditCost : Number
  status : AiQueryStatus
  reservationId : String
deriving DecidableEq

/-- A row of `ai_queries`. -/
structure AiQueryRow extends AiQueryRecordInput where
  id : String
deriving DecidableEq

/-- The UTF-16 code units of a text, which is what JavaScript slices. -/
def codeUnits (text : String) : List ℕ :=
  text.toList.flatMap fun char =>
    let code := char.toNat
    if code < 0x10000 then [code]
    else [0xD800 + (code - 0x10000) / 0x400, 0xDC00 + (code - 0x10000) % 0x400]

/-- The outbox events of the credit module, each on the stream of its wallet. -/
inductive CreditOutboxEvent where
  | creditAwarded (aggregateId orgId userId : String) (amount : Number) (reason : String)
      (balance : ℚ)
  | creditSpent (aggregateId orgId userId : String) (amount : Number) (reason : String)
      (balance : ℚ) (reservationId aiQueryId : String)
  | creditReservationReleased (aggregateId orgId userId : String) (amount : ℚ)
      (reservationId aiQueryId reason : String) (questionSnippet : List ℕ)
deriving DecidableEq

/-- The tables the commands read and write; `ai_queries` is unique by reservation id and the
outbox keeps every event appended to it. -/
structure CreditDb where
  creditEvents : List CreditEventRow
  aiQueries : OrderedMap String AiQueryRow
  outbox : List CreditOutboxEvent
  memberships : List (String × String)

/-- What a command writes: a row of the ledger, the row of a question, an event of the outbox. -/
inductive CreditWrite where
  | insertCreditEvent (row : CreditEventRow)
  | upsertAiQuery (row : AiQueryRow)
  | appendOutbox (event : CreditOutboxEvent)
deriving DecidableEq

/-- The unique keys of the tables. -/
inductive CreditLock where
  | creditEvent (aggregateId : String) (version : ℕ)
  | aiQuery (reservationId : String)
deriving DecidableEq

/-- The database of the credit module; what is locked is the unique key under which a row is stored.
-/
def creditEngine : Engine CreditDb CreditWrite CreditLock where
  apply db
    | .insertCreditEvent row => { db with creditEvents := db.creditEvents ++ [row] }
    | .upsertAiQuery row => { db with aiQueries := db.aiQueries.set row.reservationId row }
    | .appendOutbox event => { db with outbox := db.outbox ++ [event] }
  lock
    | .insertCreditEvent row => some (.creditEvent row.aggregateId row.version)
    | .upsertAiQuery row => some (.aiQuery row.reservationId)
    | .appendOutbox _ => none

/-- What the database fills in. -/
structure Stamp where
  createdAt : ℤ
  aiQueryId : String

/-- A transaction of the credit module. -/
abbrev CreditTx := Tx CreditDb CreditWrite CreditError

/-- Call a method of the aggregate inside a body. -/
def invoke {α : Type} (method : AccountM α) (account : CreditAccount) :
    CreditTx (α × CreditAccount) :=
  match method account with
  | .ok value after => pure (value, after)
  | .error error _ => .fail error

namespace CreditRepos

def loadOrOpen (orgId userId : String) : CreditTx CreditAccount :=
  .read fun db => PrismaCreditEventRepository.loadOrOpen db.creditEvents orgId userId

/-- `save`: the new events are inserted as rows, unless a version is taken. -/
def save (stamp : Stamp) (account : CreditAccount) : CreditTx Unit :=
  .execute fun db =>
    (PrismaCreditEventRepository.save db.creditEvents stamp.createdAt account).map fun rows =>
      (rows.map .insertCreditEvent, ())

/-- Whether the user is a member of the organization. -/
def hasMembership (orgId userId : String) : CreditTx Bool :=
  .read fun db => (orgId, userId) ∈ db.memberships

def append (event : CreditOutboxEvent) : CreditTx Unit := .write [.appendOutbox event]

end CreditRepos

/-- The id an upsert returns: of the row it updates, or of the row it creates. -/
def AiQueryRecordInput.idIn (input : AiQueryRecordInput) (stamp : Stamp)
    (table : OrderedMap String AiQueryRow) : String :=
  ((table.get? input.reservationId).map AiQueryRow.id).getD stamp.aiQueryId

/-- An upsert by the reservation; it returns the id of the row, new or old. -/
def PrismaAiQueryRepository.record (stamp : Stamp) (input : AiQueryRecordInput) :
    CreditTx String :=
  .execute fun db =>
    let id := input.idIn stamp db.aiQueries
    .ok ([.upsertAiQuery { input with id := id }], id)

structure GrantCreditsCommand where
  orgId : String
  recipientUserId : String
  amount : Number
  reason : String

structure SpendCreditsCommand where
  orgId : String
  userId : String
  amount : Number
  reason : String

structure RefundCreditsCommand where
  orgId : String
  userId : String
  amount : Number
  reason : String

structure ReserveCreditsCommand where
  orgId : String
  userId : String
  reservationId : String
  amount : Number
  reason : String

structure CommitAiQueryCommand where
  orgId : String
  userId : String
  reservationId : String
  question : String
  answer : String
  sources : List RagSource
  amount : Number
  reason : String

structure ReleaseCreditReservationCommand where
  orgId : String
  userId : String
  reservationId : String
  question : String
  reason : String

structure CommitAiQueryResult where
  aiQueryId : String
  balance : ℚ
deriving DecidableEq

structure ReleaseCreditReservationResult where
  released : Bool
  balance : ℚ
  aiQueryId : Option String
deriving DecidableEq

/-- The results of the handlers. -/
inductive CreditReply where
  | grantCredits (balance : ℚ)
  | spendCredits (balance : ℚ) (spent : Number)
  | refundCredits (balance : ℚ)
  | reserveCredits (available : ℚ)
  | commitAiQuery (result : CommitAiQueryResult)
  | releaseCreditReservation (result : ReleaseCreditReservationResult)
deriving DecidableEq

open CreditRepos

/-- The recipient has to be a member. -/
def GrantCreditsHandler.execute (stamp : Stamp) (command : GrantCreditsCommand) :
    CreditTx CreditReply := do
  let recipientMembership ← hasMembership command.orgId command.recipientUserId
  if !recipientMembership then Tx.fail .membershipNotFound
  else
    let account ← loadOrOpen command.orgId command.recipientUserId
    let (_, account) ← invoke (CreditAccount.grant command.amount command.reason) account
    save stamp account
    append (.creditAwarded account.aggregateId command.orgId command.recipientUserId
      command.amount command.reason account.balance)
    return .grantCredits account.balance

/-- The amount has to be available. -/
def SpendCreditsHandler.execute (stamp : Stamp) (command : SpendCreditsCommand) :
    CreditTx CreditReply := do
  let account ← loadOrOpen command.orgId command.userId
  let (_, account) ← invoke (CreditAccount.spend command.amount command.reason) account
  save stamp account
  return .spendCredits account.balance command.amount

def RefundCreditsHandler.execute (stamp : Stamp) (command : RefundCreditsCommand) :
    CreditTx CreditReply := do
  let account ← loadOrOpen command.orgId command.userId
  let (_, account) ← invoke (CreditAccount.refund command.amount command.reason) account
  save stamp account
  return .refundCredits account.balance

/-- The answer is what is still available afterwards. -/
def ReserveCreditsHandler.execute (stamp : Stamp) (command : ReserveCreditsCommand) :
    CreditTx CreditReply := do
  let account ← loadOrOpen command.orgId command.userId
  let (_, account) ←
    invoke (CreditAccount.reserve command.reservationId command.amount command.reason) account
  save stamp account
  return .reserveCredits account.available

/-- The hold is charged and the answered question recorded. -/
def CommitAiQueryHandler.execute (stamp : Stamp) (command : CommitAiQueryCommand) :
    CreditTx CreditReply := do
  let account ← loadOrOpen command.orgId command.userId
  let (_, account) ←
    invoke (CreditAccount.commitReservation command.reservationId command.reason) account
  save stamp account
  let aiQueryId ← PrismaAiQueryRepository.record stamp
    { orgId := command.orgId
      userId := command.userId
      question := command.question
      answer := some command.answer
      sources := command.sources
      creditCost := command.amount
      status := .answered
      reservationId := command.reservationId }
  append (.creditSpent account.aggregateId command.orgId command.userId command.amount
    command.reason account.balance command.reservationId aiQueryId)
  return .commitAiQuery ⟨aiQueryId, account.balance⟩

namespace ReleaseCreditReservationHandler

def questionSnippetMax : ℕ := 140

/-- The hold is released and the failed question recorded; a hold that is not open is left alone. -/
def execute (stamp : Stamp) (command : ReleaseCreditReservationCommand) :
    CreditTx CreditReply := do
  let account ← loadOrOpen command.orgId command.userId
  let (released, account) ←
    invoke (CreditAccount.releaseReservation command.reservationId command.reason) account
  if !released then return .releaseCreditReservation ⟨false, account.balance, none⟩
  else
    save stamp account
    let aiQueryId ← PrismaAiQueryRepository.record stamp
      { orgId := command.orgId
        userId := command.userId
        question := command.question
        answer := none
        sources := []
        creditCost := .finite 0
        status := .failed
        reservationId := command.reservationId }
    append (.creditReservationReleased account.aggregateId command.orgId command.userId
      ((account.reservationAmount command.reservationId).getD 0) command.reservationId aiQueryId
      command.reason ((codeUnits command.question).take questionSnippetMax))
    return .releaseCreditReservation ⟨true, account.balance, some aiQueryId⟩

end ReleaseCreditReservationHandler

/-- The commands on wallets. -/
inductive CreditCommand where
  | grantCredits (command : GrantCreditsCommand)
  | spendCredits (command : SpendCreditsCommand)
  | refundCredits (command : RefundCreditsCommand)
  | reserveCredits (command : ReserveCreditsCommand)
  | commitAiQuery (command : CommitAiQueryCommand)
  | releaseCreditReservation (command : ReleaseCreditReservationCommand)

/-- The transaction of a command. -/
def CreditCommand.execute (stamp : Stamp) : CreditCommand → CreditTx CreditReply
  | .grantCredits command => GrantCreditsHandler.execute stamp command
  | .spendCredits command => SpendCreditsHandler.execute stamp command
  | .refundCredits command => RefundCreditsHandler.execute stamp command
  | .reserveCredits command => ReserveCreditsHandler.execute stamp command
  | .commitAiQuery command => CommitAiQueryHandler.execute stamp command
  | .releaseCreditReservation command => ReleaseCreditReservationHandler.execute stamp command

end CoreApi.Credit
