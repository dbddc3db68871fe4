import CoreApi.Foundation.Confinement
import CoreApi.Tenancy.SoundCredit
import CoreApi.Tenancy.Twins

/-!
# The credit module sees its tenant only

A wallet is loaded from the rows of the tenant, its next version is free in the
whole ledger exactly if it is free among them, and the AI query of a reservation
found in the wallet is the tenant's.
-/

namespace CoreApi.Credit

open Engine

variable {drawn drawn' : String → String → Prop} {orgId : String} {db db' : CoreDb} {now : ℤ}
  {stamp : Stamp} {command : CreditCommand} {Value : Type} {pending : List CreditWrite}

/-- A body that does the same for the tenant in both databases, after what it has written. -/
abbrev Confined (orgId : String) (db db' : CoreDb) (now : ℤ) (pending : List CreditWrite)
    (body : CreditTx Value) : Prop :=
  creditEngine.Confined (fun write => WithinBoth orgId db db' (.credit now write)) db.credit
    db'.credit pending body

theorem append_confined (event : CreditOutboxEvent) :
    Confined orgId db db' now pending (CreditRepos.append event) := by
  refine Confined.write fun write member => ?_
  obtain rfl := List.mem_singleton.mp member
  exact ⟨trivial, trivial⟩

variable (twins : Twins drawn drawn' orgId db db')

include twins

theorem loadOrOpen_congr (userId : String) :
    PrismaCreditEventRepository.loadOrOpen db.creditEvents orgId userId =
      PrismaCreditEventRepository.loadOrOpen db'.creditEvents orgId userId := by
  simp only [PrismaCreditEventRepository.loadOrOpen, walletStream,
    findWalletRows_congr twins.same userId]

/-- Who is a member of the tenant. -/
theorem member_congr (userId : String) :
    (orgId, userId) ∈ db.credit.memberships ↔ (orgId, userId) ∈ db'.credit.memberships := by
  rw [twins.first.member_iff, twins.second.member_iff, twins.same]

namespace CreditCommand

theorem save_confined (plain : ':' ∉ orgId.toList) {userId : String} {account : CreditAccount}
    {event : CreditLedgerEvent} (uncommitted : account.uncommitted = [])
    (aggregateId : event.aggregateId = CreditAccount.walletId orgId userId)
    (own : event.orgId = orgId) :
    Confined orgId db db' now [] (CreditRepos.save stamp (account.record event)) := by
  have taken : (event.aggregateId, event.version) ∈
      db.creditEvents.map (fun row => (row.aggregateId, row.version)) ↔
      (event.aggregateId, event.version) ∈
        db'.creditEvents.map fun row => (row.aggregateId, row.version) := by
    rw [aggregateId, twins.first.version_iff plain, twins.second.version_iff plain, twins.same]
  refine Confined.execute ?_ ?_
  · simp only [PrismaCreditEventRepository.save_record _ _ uncommitted]
    exact congrArg (Except.map _) (if_congr taken rfl rfl)
  · intro more value ran write member
    simp only [PrismaCreditEventRepository.save_record _ _ uncommitted] at ran
    split at ran
    · cases ran
    · cases ran
      obtain rfl := List.mem_singleton.mp member
      exact ⟨own, own⟩

/-- An AI query of a reservation of the tenant. -/
theorem record_confined {row : CreditEventRow} {input : AiQueryRecordInput}
    (own : input.orgId = orgId)
    (free : db.aiQueries.Free (fun row => row.orgId) orgId input.reservationId)
    (free' : db'.aiQueries.Free (fun row => row.orgId) orgId input.reservationId) :
    Confined orgId db db' now [.insertCreditEvent row]
      (PrismaAiQueryRepository.record stamp input) := by
  have same := free.get?_congr free' twins.aiQueries
  have id : input.idIn stamp db.credit.aiQueries = input.idIn stamp db'.credit.aiQueries := by
    simp only [AiQueryRecordInput.idIn, CoreDb.credit, OrderedMap.get?_mapValues, same]
  refine Confined.execute ?_ ?_
  · change Except.ok _ = Except.ok _
    rw [show input.idIn stamp (creditEngine.view db.credit [.insertCreditEvent row]).aiQueries =
      input.idIn stamp (creditEngine.view db'.credit [.insertCreditEvent row]).aiQueries from id]
  · intro more value ran write member
    cases ran
    obtain rfl := List.mem_singleton.mp member
    exact ⟨⟨own, free⟩, own, free'⟩

theorem run_confined {row : CreditEventRow} {closing : Closing}
    (own : ∀ input, closing.aiQuery = some input → input.orgId = orgId ∧
      db.aiQueries.Free (fun row => row.orgId) orgId input.reservationId ∧
      db'.aiQueries.Free (fun row => row.orgId) orgId input.reservationId) :
    Confined orgId db db' now [.insertCreditEvent row] (closing.run stamp) := by
  rcases closing with ⟨aiQuery, event, reply⟩
  refine Confined.bind ?_ fun id more _ => Confined.bind ?_ fun _ _ _ => Confined.pure _
  · cases aiQuery with
    | none => exact Confined.pure _
    | some input =>
        rcases own input rfl with ⟨own, free, free'⟩
        exact record_confined twins own free free'
  · simp only [Closing.appendEvent]
    cases event id with
    | none => exact Confined.pure _
    | some event => exact append_confined event

variable (once : DrawnOnce drawn) (once' : DrawnOnce drawn') (plain : ':' ∉ orgId.toList)

include once once' plain

theorem act_confined (own : command.wallet.1 = orgId) {account : CreditAccount}
    (loaded : Loaded drawn command.wallet account)
    (loaded' : Loaded drawn' command.wallet account) :
    Confined orgId db db' now [] (command.act stamp account) := by
  subst own
  simp only [act]
  split
  · exact Confined.fail _
  · exact Confined.pure _
  · next event decided =>
      have admits := Call.admits_of_decision decided
      refine Confined.bind (save_confined twins plain loaded.uncommitted
        (admits.aggregateId.trans loaded.aggregateId) (admits.orgId.trans loaded.orgId)) ?_
      intro _ more ran
      rcases aloneFrom_execute_eq_ok.mp ran with ⟨saved, ran, rfl⟩
      rw [PrismaCreditEventRepository.save_record _ _ loaded.uncommitted] at ran
      split at ran
      · cases ran
      · cases ran
        refine run_confined twins fun input records => ?_
        rcases closing_input records with ⟨org, about, closes⟩
        rcases known_of_decision decided about with ⟨reserve, reserves, -⟩ | ⟨state, known⟩
        · exact absurd reserves (closes reserve)
        · exact ⟨org, twins.first.free_aiQuery once (loaded.reservations _ _ known),
            twins.second.free_aiQuery once' (loaded'.reservations _ _ known)⟩

/-- Every command of the credit module. -/
theorem execute_confined (own : command.wallet.1 = orgId) :
    Confined orgId db db' now [] (command.execute stamp) := by
  subst own
  have settles : Confined command.wallet.1 db db' now [] (command.settle stamp) := by
    refine Confined.read_bind (loadOrOpen_congr twins command.wallet.2) ?_
    have loaded' := loaded twins.second command.wallet.1 command.wallet.2
    rw [← loadOrOpen_congr twins] at loaded'
    exact act_confined twins once once' plain rfl (loaded twins.first _ _) loaded'
  rw [execute_eq]
  cases command with
  | grantCredits grant =>
      refine Confined.read_bind (decide_eq_decide.mpr (member_congr twins _)) ?_
      split
      · exact Confined.fail _
      · exact settles
  | _ => exact settles

end CreditCommand

end CoreApi.Credit
