import CoreApi.Credit.Shape
import CoreApi.Foundation.ReadCommitted

/-!
# Optimistic concurrency on the ledger

The unique key `(aggregateId, version)` is the only thing that stands between
two commands on one wallet. A ledger without gaps turns it into a validation:
while no row takes the next version of a wallet, the wallet has no new row, so a
command that inserts its event still knows the whole committed stream.
-/

namespace CoreApi.Credit

/-- The rows of a wallet in the order of the table. -/
def walletRows (table : List CreditEventRow) (orgId userId : String) : List CreditEventRow :=
  table.filter fun row => row.aggregateId = CreditAccount.walletId orgId userId ∧ row.orgId = orgId

/-- Every wallet's rows stand in version order, from 1 on and without a gap. -/
def Gapless (table : List CreditEventRow) : Prop :=
  ∀ orgId userId, (walletRows table orgId userId).map CreditEventRow.version =
    List.range' 1 (walletRows table orgId userId).length

namespace CreditAccount

/-- Within an organization the wallet id determines the user. -/
theorem walletId_inj {orgId userId userId' : String}
    (same : walletId orgId userId = walletId orgId userId') : userId = userId' := by
  simp only [walletId] at same
  exact String.append_right_inj _ |>.mp same

theorem foldl_apply_version (account : CreditAccount) (events : List CreditLedgerEvent) :
    (events.foldl apply account).version =
      (events.map CreditLedgerEvent.version).getLast?.getD account.version := by
  induction events generalizing account with
  | nil => rfl
  | cons event rest ih =>
      rw [List.foldl_cons, ih, apply_version]
      cases rest with
      | nil => rfl
      | cons next rest => simp [List.getLast?_cons]

theorem foldl_apply_frame (account : CreditAccount) (events : List CreditLedgerEvent) :
    (events.foldl apply account).aggregateId = account.aggregateId ∧
      (events.foldl apply account).orgId = account.orgId ∧
      (events.foldl apply account).userId = account.userId ∧
      (events.foldl apply account).uncommitted = account.uncommitted := by
  induction events generalizing account with
  | nil => exact ⟨rfl, rfl, rfl, rfl⟩
  | cons event rest ih => simpa using ih (account.apply event)

end CreditAccount

section Tables

variable {table more : List CreditEventRow} {orgId userId : String}

theorem walletRows_append (table more : List CreditEventRow) (orgId userId : String) :
    walletRows (table ++ more) orgId userId =
      walletRows table orgId userId ++ walletRows more orgId userId :=
  List.filter_append ..

theorem Gapless.nil : Gapless [] := fun _ _ => rfl

/-- A row of a wallet is among the rows its version counts. -/
theorem Gapless.version_le (gapless : Gapless table) {row : CreditEventRow}
    (member : row ∈ walletRows table orgId userId) :
    row.version ≤ (walletRows table orgId userId).length := by
  have version : row.version ∈ (walletRows table orgId userId).map CreditEventRow.version :=
    List.mem_map_of_mem member
  rw [gapless orgId userId, List.mem_range'_1] at version
  omega

/-- Without gaps the query's sort has nothing to do. -/
theorem Gapless.findWalletRows_eq (gapless : Gapless table) (orgId userId : String) :
    findWalletRows table orgId userId = walletRows table orgId userId := by
  apply List.Pairwise.insertionSort_eq
  have sorted : ((walletRows table orgId userId).map CreditEventRow.version).Pairwise (· ≤ ·) := by
    rw [gapless orgId userId]
    exact List.pairwise_le_range'
  exact List.pairwise_map.mp sorted

/-- A loaded wallet stands at the version of its last row. -/
theorem Gapless.loadOrOpen_version (gapless : Gapless table) (orgId userId : String) :
    (PrismaCreditEventRepository.loadOrOpen table orgId userId).version =
      (walletRows table orgId userId).length := by
  simp only [PrismaCreditEventRepository.loadOrOpen, walletStream, CreditAccount.rehydrate]
  rw [CreditAccount.foldl_apply_version, gapless.findWalletRows_eq, List.map_map]
  change ((walletRows table orgId userId).map CreditEventRow.version).getLast?.getD 0 = _
  rw [gapless orgId userId]
  cases (walletRows table orgId userId).length with
  | zero => rfl
  | succ count => simp [List.getLast?_range']

theorem Gapless.walletStream_eq (gapless : Gapless table) (orgId userId : String) :
    walletStream table orgId userId =
      (walletRows table orgId userId).map CreditEventMapper.toDomain := by
  rw [walletStream, gapless.findWalletRows_eq]

theorem loadOrOpen_frame (table : List CreditEventRow) (orgId userId : String) :
    (PrismaCreditEventRepository.loadOrOpen table orgId userId).aggregateId =
        CreditAccount.walletId orgId userId ∧
      (PrismaCreditEventRepository.loadOrOpen table orgId userId).orgId = orgId ∧
      (PrismaCreditEventRepository.loadOrOpen table orgId userId).userId = userId ∧
      (PrismaCreditEventRepository.loadOrOpen table orgId userId).uncommitted = [] :=
  CreditAccount.foldl_apply_frame _ _

/-- While no row takes its next version, a wallet has no new row. -/
theorem Gapless.unchanged (gapless : Gapless table) (gapless' : Gapless (table ++ more))
    (free : ∀ row ∈ more, ¬ (row.aggregateId = CreditAccount.walletId orgId userId ∧
      row.version = (walletRows table orgId userId).length + 1)) :
    walletRows (table ++ more) orgId userId = walletRows table orgId userId := by
  have before := gapless orgId userId
  have after := gapless' orgId userId
  rw [walletRows_append, List.map_append, List.length_append, before, ← List.range'_append_1]
    at after
  have versions := List.append_cancel_left after
  rw [walletRows_append]
  cases rows : walletRows more orgId userId with
  | nil => exact List.append_nil _
  | cons row rest =>
      have member : row ∈ walletRows more orgId userId := by simp [rows]
      have found := List.mem_filter.mp member
      simp only [rows] at versions
      simp only [List.map_cons, List.length_cons, List.range'_succ, List.cons.injEq] at versions
      refine absurd ⟨?_, ?_⟩ (free row found.1)
      · simpa using (of_decide_eq_true found.2).1
      · rw [versions.1, Nat.add_comm]

/-- A ledger was without gaps before its last rows, too. -/
theorem Gapless.of_append (gapless : Gapless (table ++ more)) : Gapless table := by
  intro orgId userId
  have whole := gapless orgId userId
  rw [walletRows_append, List.map_append, List.length_append, ← List.range'_append_1] at whole
  exact (List.append_inj whole (by simp)).1

/-- A row of one wallet is a row of no other. -/
theorem walletRows_singleton (row : CreditEventRow)
    (aggregateId : row.aggregateId = CreditAccount.walletId orgId userId)
    (org : row.orgId = orgId) (orgId' userId' : String) :
    walletRows [row] orgId' userId' = if orgId' = orgId ∧ userId' = userId then [row] else [] := by
  simp only [walletRows]
  by_cases same : orgId' = orgId ∧ userId' = userId
  · rcases same with ⟨rfl, rfl⟩
    simp [aggregateId, org]
  · rw [if_neg same, List.filter_eq_nil_iff]
    intro other member
    rcases List.mem_singleton.mp member with rfl
    simp only [decide_eq_true_eq]
    rintro ⟨id, org'⟩
    have sameOrg : orgId' = orgId := org'.symm.trans org
    subst sameOrg
    exact same ⟨rfl, CreditAccount.walletId_inj (id.symm.trans aggregateId)⟩

/-- The next version of a wallet extends its rows without a gap. -/
theorem Gapless.insert (gapless : Gapless table) (row : CreditEventRow)
    (aggregateId : row.aggregateId = CreditAccount.walletId orgId userId) (org : row.orgId = orgId)
    (version : row.version = (walletRows table orgId userId).length + 1) :
    Gapless (table ++ [row]) := by
  intro orgId' userId'
  rw [walletRows_append, walletRows_singleton row aggregateId org]
  by_cases same : orgId' = orgId ∧ userId' = userId
  · rcases same with ⟨rfl, rfl⟩
    rw [if_pos ⟨rfl, rfl⟩, List.map_append, gapless orgId' userId', List.length_append,
      List.length_singleton, List.range'_1_concat, List.map_singleton, version, Nat.add_comm]
  · simpa [same] using gapless orgId' userId'

end Tables

/-- What others may commit while a transaction has pending writes: rows under keys it has not
taken, and no change of an `ai_queries` row it has written. -/
structure Interference (pending : List CreditWrite) (db now : CreditDb) : Prop where
  appended : ∃ rows, now.creditEvents = db.creditEvents ++ rows ∧ ∀ row ∈ rows,
    ∀ write ∈ pending, creditEngine.lock write ≠ some (.creditEvent row.aggregateId row.version)
  kept : ∀ write ∈ pending, ∀ id, creditEngine.lock write = some (.aiQuery id) →
    now.aiQueries.get? id = db.aiQueries.get? id

namespace Interference

variable {pending : List CreditWrite} {db now later : CreditDb}

theorem refl (pending : List CreditWrite) (db : CreditDb) : Interference pending db db :=
  ⟨⟨[], by simp⟩, fun _ _ _ _ => rfl⟩

theorem trans (first : Interference pending db now) (second : Interference pending now later) :
    Interference pending db later where
  appended := by
    rcases first.appended with ⟨rows, stored, free⟩
    rcases second.appended with ⟨rows', stored', free'⟩
    refine ⟨rows ++ rows', by rw [stored', stored, List.append_assoc], ?_⟩
    intro row member
    rcases List.mem_append.mp member with old | new
    · exact free row old
    · exact free' row new
  kept write member id lock :=
    (second.kept write member id lock).trans (first.kept write member id lock)

theorem mono {fewer : List CreditWrite} (interference : Interference pending db now)
    (sub : fewer ⊆ pending) : Interference fewer db now where
  appended := by
    rcases interference.appended with ⟨rows, stored, free⟩
    exact ⟨rows, stored, fun row member write held => free row member write (sub held)⟩
  kept write member := interference.kept write (sub member)

/-- One write is no interference for whoever does not hold its lock. -/
theorem of_write {held : List CreditWrite} {write : CreditWrite}
    (apart : creditEngine.Apart held [write]) :
    Interference held db (creditEngine.apply db write) := by
  cases write with
  | insertCreditEvent row =>
      refine ⟨⟨[row], rfl, ?_⟩, fun _ _ _ _ => rfl⟩
      intro other member write held' taken
      rcases List.mem_singleton.mp member with rfl
      exact apart write held' _ taken _ (List.mem_singleton_self _) rfl
  | upsertAiQuery row =>
      refine ⟨⟨[], by simp [creditEngine]⟩, ?_⟩
      intro write held' id taken
      have distinct : id ≠ row.reservationId := by
        rintro rfl
        exact apart write held' _ taken _ (List.mem_singleton_self _) rfl
      simp [creditEngine, OrderedMap.get?_set, distinct]
  | appendOutbox event => exact ⟨⟨[], by simp [creditEngine]⟩, fun _ _ _ _ => rfl⟩

/-- A commit is no interference for whoever holds none of its locks. -/
theorem of_apart {held : List CreditWrite} (apart : creditEngine.Apart held pending) :
    Interference held db (creditEngine.view db pending) := by
  refine Engine.view_keeps (Interference held db) (refl held db) ?_
  intro write member now interference
  have alone : creditEngine.Apart held [write] :=
    apart.mono (List.cons_subset.mpr ⟨member, List.nil_subset pending⟩)
  exact interference.trans (of_write alone)

end Interference

/-- The ledger has no gaps, and others append to it. -/
def creditAssumptions : Assumptions CreditDb CreditWrite where
  Inv db := Gapless db.creditEvents
  Rely := Interference
  refl := Interference.refl
  trans := Interference.trans

/-- A wallet that was validated at its next version is loaded unchanged. -/
theorem loadOrOpen_unchanged {table more : List CreditEventRow} (gapless : Gapless table)
    (gapless' : Gapless (table ++ more)) {orgId userId : String}
    (free : ∀ row ∈ more, ¬ (row.aggregateId = CreditAccount.walletId orgId userId ∧
      row.version = (walletRows table orgId userId).length + 1)) :
    PrismaCreditEventRepository.loadOrOpen (table ++ more) orgId userId =
      PrismaCreditEventRepository.loadOrOpen table orgId userId := by
  simp only [PrismaCreditEventRepository.loadOrOpen, walletStream]
  rw [gapless.findWalletRows_eq, gapless'.findWalletRows_eq, gapless.unchanged gapless' free]

namespace CreditCommand

/-- The wallet of a command, as loaded from the committed tables. -/
def account (command : CreditCommand) (db : CreditDb) : CreditAccount :=
  PrismaCreditEventRepository.loadOrOpen db.creditEvents command.wallet.1 command.wallet.2

namespace Closing

/-- The id of the `ai_queries` row the closing writes. -/
def id (stamp : Stamp) (closing : Closing) (db : CreditDb) : String :=
  match closing.aiQuery with
  | some input => input.idIn stamp db.aiQueries
  | none => ""

/-- The write that records the question. -/
def queryWrites (stamp : Stamp) (closing : Closing) (db : CreditDb) : List CreditWrite :=
  closing.aiQuery.toList.map fun input =>
    .upsertAiQuery { input with id := input.idIn stamp db.aiQueries }

/-- The write that appends the event. -/
def eventWrites (closing : Closing) (id : String) : List CreditWrite :=
  (closing.event id).toList.map .appendOutbox

/-- The tables after the closing. -/
def after (stamp : Stamp) (closing : Closing) (db : CreditDb) : CreditDb :=
  { db with
    aiQueries := match closing.aiQuery with
      | some input => db.aiQueries.set input.reservationId
          { input with id := input.idIn stamp db.aiQueries }
      | none => db.aiQueries
    outbox := db.outbox ++ (closing.event (closing.id stamp db)).toList }

theorem view_writes (stamp : Stamp) (closing : Closing) (db : CreditDb) :
    creditEngine.view db
        (closing.queryWrites stamp db ++ closing.eventWrites (closing.id stamp db)) =
      closing.after stamp db := by
  rcases closing with ⟨_ | input, event, reply⟩
  · cases raised : event "" <;>
      simp [Engine.view, queryWrites, eventWrites, after, id, creditEngine, raised]
  · cases raised : event (input.idIn stamp db.aiQueries) <;>
      simp [Engine.view, queryWrites, eventWrites, after, id, creditEngine, raised]

variable {stamp : Stamp} {closing : Closing} {row : CreditEventRow} {db now : CreditDb}
  {seen : List CreditDb} {pending : List CreditWrite} {permits : List CreditDb → CreditDb → Prop}

/-- A written `ai_queries` row is locked, so its id is still the one the upsert returned. -/
theorem stable (interference : Interference pending db now)
    (written : closing.queryWrites stamp db ⊆ pending) :
    closing.id stamp now = closing.id stamp db ∧
      closing.queryWrites stamp now = closing.queryWrites stamp db := by
  rcases closing with ⟨_ | input, event, reply⟩
  · exact ⟨rfl, rfl⟩
  · have kept := interference.kept _ (written (List.mem_singleton_self _)) input.reservationId rfl
    simp [id, queryWrites, AiQueryRecordInput.idIn, kept]

theorem recordAiQuery_ends {post : String → List CreditDb → List CreditWrite → CreditDb → Prop}
    (gapless : Gapless db.creditEvents)
    (ends : ∀ now seen, Interference [.insertCreditEvent row] db now → Gapless now.creditEvents →
      post (closing.id stamp now) seen (.insertCreditEvent row :: closing.queryWrites stamp now)
        now) :
    creditAssumptions.Ends creditEngine permits post (closing.recordAiQuery stamp) seen
      [.insertCreditEvent row] db := by
  rcases closing with ⟨_ | input, event, reply⟩
  · exact Assumptions.Ends.pure (ends db seen (.refl _ _) gapless)
  · apply Assumptions.Ends.execute
    intro now rely inv _ writes value ran
    cases ran
    exact ends now _ rely inv

theorem appendEvent_ends {id : String}
    {post : Unit → List CreditDb → List CreditWrite → CreditDb → Prop}
    (gapless : Gapless db.creditEvents)
    (ends : ∀ now seen, Interference pending db now → Gapless now.creditEvents →
      post () seen (pending ++ closing.eventWrites id) now) :
    creditAssumptions.Ends creditEngine permits post (closing.appendEvent id) seen pending db := by
  simp only [appendEvent]
  simp only [eventWrites] at ends
  cases raised : closing.event id with
  | none =>
      apply Assumptions.Ends.pure
      simpa [raised] using ends db seen (.refl _ _) gapless
  | some event =>
      simp only [raised] at ends
      exact Assumptions.Ends.write fun now rely inv => ends now _ rely inv

/-- A closing settles when its writes, decided on what is committed at the end, settle. -/
theorem run_ends {Q : CreditReply → List CreditWrite → CreditDb → Prop}
    (gapless : Gapless db.creditEvents)
    (settles : ∀ now, Interference [.insertCreditEvent row] db now → Gapless now.creditEvents →
      Q (closing.reply (closing.id stamp now))
        (.insertCreditEvent row :: (closing.queryWrites stamp now ++
          closing.eventWrites (closing.id stamp now))) now) :
    creditAssumptions.Ends creditEngine permits
      (fun reply _ pending db => ∀ now, Interference pending db now →
        Gapless now.creditEvents → Q reply pending now)
      (closing.run stamp) seen [.insertCreditEvent row] db := by
  refine Assumptions.Ends.bind (recordAiQuery_ends gapless ?_)
  intro now _ rely inv
  refine Assumptions.Ends.bind (appendEvent_ends inv ?_)
  intro now' _ rely' inv'
  apply Assumptions.Ends.pure
  intro later rely'' inv''
  have since : Interference (.insertCreditEvent row :: closing.queryWrites stamp now) now later :=
    rely'.trans (rely''.mono (List.subset_append_left _ _))
  have same := closing.stable since (List.subset_cons_self _ _)
  have settled := settles later (rely.trans (since.mono (by simp))) inv''
  simp only [same.1, same.2] at settled
  exact settled

end Closing

/-- What a committed command has done. A release that found nothing to do has read some
committed state since it began; every other command acts on the state it commits on. -/
inductive Effect (stamp : Stamp) (command : CreditCommand) (begun : CreditDb) :
    CreditReply → CreditDb → CreditDb → Prop where
  | skipped {loaded db : CreditDb} (began : Gapless begun.creditEvents)
      (since : Interference [] begun loaded) (gapless : Gapless loaded.creditEvents)
      (later : Interference [] loaded db)
      (decided : command.call.decision (command.account loaded) = .ok none) :
      Effect stamp command begun (skipped (command.account loaded)) db db
  | recorded {db : CreditDb} {event : CreditLedgerEvent} (since : Interference [] begun db)
      (decided : command.call.decision (command.account db) = .ok (some event)) :
      Effect stamp command begun
        ((command.closing ((command.account db).record event)).reply
          ((command.closing ((command.account db).record event)).id stamp db))
        db
        ((command.closing ((command.account db).record event)).after stamp
          { db with
            creditEvents :=
              db.creditEvents ++ [CreditEventMapper.toPersistence event stamp.createdAt] })

/-- What a body owes at its end. -/
def Settled (stamp : Stamp) (command : CreditCommand) (begun : CreditDb) (reply : CreditReply)
    (pending : List CreditWrite) (now : CreditDb) : Prop :=
  Gapless (creditEngine.view now pending).creditEvents ∧
    Effect stamp command begun reply now (creditEngine.view now pending) ∧
    ∀ held, creditEngine.Apart held pending →
      Interference held now (creditEngine.view now pending)

variable {stamp : Stamp} {command : CreditCommand} {begun db : CreditDb}
  {seen : List CreditDb} {permits : List CreditDb → CreditDb → Prop}

theorem guarded_ends {post : CreditReply → List CreditDb → List CreditWrite → CreditDb → Prop}
    {body : CreditTx CreditReply} (gapless : Gapless db.creditEvents)
    (ends : ∀ now seen, Interference [] db now → Gapless now.creditEvents →
      creditAssumptions.Ends creditEngine permits post body seen [] now) :
    creditAssumptions.Ends creditEngine permits post (command.guarded body) seen [] db := by
  cases command with
  | grantCredits command =>
      refine Assumptions.Ends.bind (Assumptions.Ends.read ?_)
      intro now rely inv
      cases decide ((command.orgId, command.recipientUserId) ∈
          (creditEngine.view now []).memberships) with
      | false => exact Assumptions.Ends.fail _
      | true => exact ends now _ rely inv
  | _ => exact ends db seen (.refl _ _) gapless

/-- The row a decided event is saved as carries the wallet and its next version. -/
theorem row_of_decision {loaded : CreditDb} {event : CreditLedgerEvent}
    (gapless : Gapless loaded.creditEvents)
    (decided : command.call.decision (command.account loaded) = .ok (some event)) :
    event.aggregateId = CreditAccount.walletId command.wallet.1 command.wallet.2 ∧
      event.orgId = command.wallet.1 ∧
      event.version =
        (walletRows loaded.creditEvents command.wallet.1 command.wallet.2).length + 1 := by
  have admits := Call.admits_of_decision decided
  have frame := loadOrOpen_frame loaded.creditEvents command.wallet.1 command.wallet.2
  refine ⟨admits.aggregateId.trans frame.1, admits.orgId.trans frame.2.1, ?_⟩
  rw [admits.version]
  exact congrArg (· + 1) (gapless.loadOrOpen_version _ _)

/-- A validated insert is decided on everything committed before it. -/
theorem account_unchanged {loaded validated now : CreditDb} {event : CreditLedgerEvent}
    (gapless : Gapless loaded.creditEvents) (first : Interference [] loaded validated)
    (free : (event.aggregateId, event.version) ∉
      validated.creditEvents.map fun row => (row.aggregateId, row.version))
    (second : Interference
      [.insertCreditEvent (CreditEventMapper.toPersistence event stamp.createdAt)] validated now)
    (gapless' : Gapless now.creditEvents)
    (decided : command.call.decision (command.account loaded) = .ok (some event)) :
    command.account now = command.account loaded ∧
      walletRows now.creditEvents command.wallet.1 command.wallet.2 =
        walletRows loaded.creditEvents command.wallet.1 command.wallet.2 := by
  rcases first.appended with ⟨rows, stored, -⟩
  rcases second.appended with ⟨rows', stored', unlocked⟩
  simp only [stored, List.append_assoc] at stored'
  have row := row_of_decision gapless decided
  have none : ∀ other ∈ rows ++ rows', ¬ (
      other.aggregateId = CreditAccount.walletId command.wallet.1 command.wallet.2 ∧
      other.version =
        (walletRows loaded.creditEvents command.wallet.1 command.wallet.2).length + 1) := by
    rintro other member ⟨id, version⟩
    have sameId := id.trans row.1.symm
    have sameVersion := version.trans row.2.2.symm
    rcases List.mem_append.mp member with old | new
    · refine free (List.mem_map.mpr ⟨other, ?_, by rw [sameId, sameVersion]⟩)
      rw [stored]
      exact List.mem_append_right _ old
    · apply unlocked other new _ (List.mem_singleton_self _)
      rw [sameId, sameVersion]
      rfl
  simp only [stored'] at gapless'
  simp only [account]
  rw [stored']
  exact ⟨loadOrOpen_unchanged gapless gapless' none, gapless.unchanged gapless' none⟩

theorem save_ends {account : CreditAccount} {event : CreditLedgerEvent}
    {post : Unit → List CreditDb → List CreditWrite → CreditDb → Prop}
    (saved : account.uncommitted = [])
    (ends : ∀ now seen, Interference [] db now → Gapless now.creditEvents →
      (event.aggregateId, event.version) ∉
        (now.creditEvents.map fun row => (row.aggregateId, row.version)) →
      post () seen
        [.insertCreditEvent (CreditEventMapper.toPersistence event stamp.createdAt)] now) :
    creditAssumptions.Ends creditEngine permits post
      (CreditRepos.save stamp (account.record event)) seen [] db := by
  apply Assumptions.Ends.execute
  intro now rely inv _ writes _ ran
  simp only [PrismaCreditEventRepository.save_record _ _ saved] at ran
  split at ran
  · cases ran
  · rename_i free
    cases ran
    exact ends now _ rely inv free

/-- A body that inserts its event settles on the state it commits on. -/
theorem settled_of_decision {event : CreditLedgerEvent} (gapless : Gapless db.creditEvents)
    (since : Interference [] begun db)
    (decided : command.call.decision (command.account db) = .ok (some event)) :
    let closing := command.closing ((command.account db).record event)
    Settled stamp command begun (closing.reply (closing.id stamp db))
      (.insertCreditEvent (CreditEventMapper.toPersistence event stamp.createdAt) ::
        (closing.queryWrites stamp db ++ closing.eventWrites (closing.id stamp db))) db := by
  intro closing
  have row := row_of_decision gapless decided
  have after : creditEngine.view db
      (.insertCreditEvent (CreditEventMapper.toPersistence event stamp.createdAt) ::
        (closing.queryWrites stamp db ++ closing.eventWrites (closing.id stamp db))) =
      closing.after stamp
        { db with
          creditEvents :=
            db.creditEvents ++ [CreditEventMapper.toPersistence event stamp.createdAt] } :=
    closing.view_writes stamp _
  refine ⟨?_, ?_, fun held apart => .of_apart apart⟩
  · rw [after]
    exact gapless.insert _ row.1 row.2.1 row.2.2
  · rw [after]
    exact .recorded since decided

theorem act_ends {loaded : CreditDb} (began : Gapless begun.creditEvents)
    (gapless : Gapless loaded.creditEvents) (since : Interference [] begun loaded) :
    creditAssumptions.Ends creditEngine permits
      (fun reply _ pending db => ∀ now, Interference pending db now → Gapless now.creditEvents →
        Settled stamp command begun reply pending now)
      (command.act stamp (command.account loaded)) seen [] loaded := by
  simp only [act]
  rcases decided : command.call.decision (command.account loaded) with error | _ | event
  · exact Assumptions.Ends.fail error
  · apply Assumptions.Ends.pure
    intro now rely inv
    exact ⟨inv, .skipped began since gapless rely decided, fun held _ => .refl held now⟩
  · have saved := (loadOrOpen_frame loaded.creditEvents command.wallet.1 command.wallet.2).2.2.2
    refine Assumptions.Ends.bind (save_ends saved ?_)
    intro validated _ rely inv free
    apply Closing.run_ends inv
    intro now rely' inv'
    have same := (account_unchanged gapless rely free rely' inv' decided).1
    rw [← same] at decided ⊢
    exact settled_of_decision inv' ((since.trans rely).trans (rely'.mono (List.nil_subset _)))
      decided

theorem execute_ends (gapless : Gapless begun.creditEvents) :
    creditAssumptions.Ends creditEngine permits
      (fun reply _ pending db => ∀ now, Interference pending db now → Gapless now.creditEvents →
        Settled stamp command begun reply pending now)
      (command.execute stamp) [] [] begun := by
  rw [execute_eq]
  apply guarded_ends gapless
  intro now seen rely inv
  exact Assumptions.Ends.bind (Assumptions.Ends.read fun loaded rely' inv' =>
    act_ends gapless inv' (rely.trans rely'))

end CreditCommand

section System

variable {Client : Type} [DecidableEq Client]

/-- Any clients, each running one credit command as often as it takes; memberships change at
will. -/
def creditWorkload (stamps : Client → Stamp) (commands : Client → CreditCommand) :
    Workload Client CreditDb CreditWrite CreditLock CreditError CreditReply where
  toEngine := creditEngine
  program client := (commands client).execute (stamps client)
  initial db := db.creditEvents = [] ∧ db.aiQueries = .empty ∧ db.outbox = []
  external db next := ∃ memberships, next = { db with memberships := memberships }

/-- What a commit of a credit command does, in terms of the ledger it is made on. -/
def creditOutline (stamps : Client → Stamp) (commands : Client → CreditCommand) :
    Outline (creditWorkload stamps commands) where
  toAssumptions := creditAssumptions
  Effect client := CreditCommand.Effect (stamps client) (commands client)
  initial db start := by
    change Gapless db.creditEvents
    rw [start.1]
    exact .nil
  external db next gapless change := by
    rcases change with ⟨memberships, rfl⟩
    exact ⟨gapless, fun pending => ⟨⟨[], by simp⟩, fun _ _ _ _ => rfl⟩⟩
  safe client begun gapless := CreditCommand.execute_ends gapless

end System

end CoreApi.Credit
