import Mathlib.Data.List.Induction
import CoreApi.Credit.Reservation
import CoreApi.Foundation.Sequential

/-!
# Releases on any ledger

Whatever rows a table holds, the event of a release takes a version above those
of its wallet, so the next load folds it last and finds the reservation closed.
A second release has nothing to do.
-/

namespace CoreApi.Credit

/-- An item that every other precedes is sorted to the end. -/
theorem insertionSort_concat {α : Type} (r : α → α → Prop) [DecidableRel r] (items : List α)
    (last : α) (above : ∀ item ∈ items, r item last) :
    (items ++ [last]).insertionSort r = items.insertionSort r ++ [last] := by
  have insert : ∀ (sorted : List α) (item : α), r item last →
      (sorted ++ [last]).orderedInsert r item = sorted.orderedInsert r item ++ [last] := by
    intro sorted item below
    induction sorted with
    | nil => simp [List.orderedInsert, below]
    | cons first rest ih =>
        simp only [List.cons_append, List.orderedInsert]
        split
        · rfl
        · rw [ih, List.cons_append]
  induction items with
  | nil => rfl
  | cons item rest ih =>
      have sorted := ih fun other member => above other (List.mem_cons_of_mem _ member)
      change ((rest ++ [last]).insertionSort r).orderedInsert r item = _
      rw [sorted]
      exact insert _ item (above item List.mem_cons_self)

section Tables

variable {table : List CreditEventRow} {orgId userId : String}

/-- A loaded wallet stands at the highest version of its rows. -/
theorem version_le_loadOrOpen {row : CreditEventRow}
    (member : row ∈ walletRows table orgId userId) :
    row.version ≤ (PrismaCreditEventRepository.loadOrOpen table orgId userId).version := by
  have sorted : (findWalletRows table orgId userId).Pairwise
      fun earlier later => earlier.version ≤ later.version := List.pairwise_insertionSort _ _
  have found : row ∈ findWalletRows table orgId userId :=
    (List.mem_insertionSort _).mpr member
  simp only [PrismaCreditEventRepository.loadOrOpen, walletStream, CreditAccount.rehydrate]
  rw [CreditAccount.foldl_apply_version, List.map_map]
  change row.version ≤
    ((findWalletRows table orgId userId).map CreditEventRow.version).getLast?.getD 0
  cases rows : findWalletRows table orgId userId using List.reverseRecOn with
  | nil => simp [rows] at found
  | append_singleton before last =>
      rw [rows] at sorted found
      rw [List.map_append, List.map_singleton, List.getLast?_concat, Option.getD_some]
      rcases List.mem_append.mp found with old | new
      · exact (List.pairwise_append.mp sorted).2.2 row old last (List.mem_singleton_self _)
      · rw [List.mem_singleton.mp new]

/-- A row above all others of its wallet is read last. -/
theorem findWalletRows_concat {row : CreditEventRow}
    (own : row.aggregateId = CreditAccount.walletId orgId userId ∧ row.orgId = orgId)
    (last : ∀ other ∈ walletRows table orgId userId, other.version ≤ row.version) :
    findWalletRows (table ++ [row]) orgId userId = findWalletRows table orgId userId ++ [row] := by
  have rows : walletRows (table ++ [row]) orgId userId =
      walletRows table orgId userId ++ [row] := by
    rw [walletRows_append]
    simp [walletRows, own]
  change (walletRows (table ++ [row]) orgId userId).insertionSort _ = _
  rw [rows]
  exact insertionSort_concat _ _ row last

/-- An event that an operation raises on a loaded wallet is folded last when the wallet is loaded
again. -/
theorem loadOrOpen_concat {event : CreditLedgerEvent} {now : ℤ}
    (admits : (PrismaCreditEventRepository.loadOrOpen table orgId userId).Admits event) :
    PrismaCreditEventRepository.loadOrOpen
        (table ++ [CreditEventMapper.toPersistence event now]) orgId userId =
      (PrismaCreditEventRepository.loadOrOpen table orgId userId).apply event := by
  have frame := loadOrOpen_frame table orgId userId
  let row := CreditEventMapper.toPersistence event now
  have last : ∀ other ∈ walletRows table orgId userId, other.version ≤ row.version := by
    intro other member
    change other.version ≤ event.version
    rw [admits.version]
    exact Nat.le_succ_of_le (version_le_loadOrOpen member)
  have rows : findWalletRows (table ++ [row]) orgId userId = _ := findWalletRows_concat
    ⟨admits.aggregateId.trans frame.1, admits.orgId.trans frame.2.1⟩ last
  rw [PrismaCreditEventRepository.loadOrOpen, walletStream, rows, List.map_append,
    List.map_singleton, toDomain_toPersistence admits, rehydrate_concat]
  rfl

end Tables

/-- The reservation is open in its wallet. -/
def HeldOpen (table : List CreditEventRow) (orgId userId reservationId : String) : Prop :=
  ∃ amount, (PrismaCreditEventRepository.loadOrOpen table orgId userId).reservations.get?
    reservationId = some ⟨amount, .opened⟩

section Bodies

variable {stamp : Stamp} {db : CreditDb} {writes pending : List CreditWrite}

/-- A closing leaves the ledger alone. -/
theorem CreditCommand.Closing.creditEvents_run {closing : CreditCommand.Closing}
    {reply : CreditReply}
    (ran : creditEngine.aloneFrom db pending (closing.run stamp) = .ok (reply, writes)) :
    (creditEngine.view db writes).creditEvents = (creditEngine.view db pending).creditEvents := by
  simp only [run, Engine.aloneFrom_bind_eq_ok, Engine.aloneFrom_pure_eq_ok] at ran
  rcases ran with ⟨id, recorded, query, _, appended, event, -, rfl⟩
  have first : (creditEngine.view db recorded).creditEvents =
      (creditEngine.view db pending).creditEvents := by
    simp only [recordAiQuery] at query
    split at query
    · rcases Engine.aloneFrom_execute_eq_ok.mp query with ⟨_, ⟨⟩, rfl⟩
      rw [Engine.view_append]
      rfl
    · rcases Engine.aloneFrom_pure_eq_ok.mp query with ⟨-, rfl⟩
      rfl
  have second : (creditEngine.view db appended).creditEvents =
      (creditEngine.view db recorded).creditEvents := by
    simp only [appendEvent] at event
    split at event
    · rw [← Engine.aloneFrom_write_eq_ok.mp event, Engine.view_append]
      rfl
    · rcases Engine.aloneFrom_pure_eq_ok.mp event with ⟨-, rfl⟩
      rfl
  exact second.trans first

/-- A body that records an event on a loaded wallet adds its row to the ledger. -/
theorem CreditCommand.creditEvents_act {command : CreditCommand} {event : CreditLedgerEvent}
    {reply : CreditReply} {orgId userId : String}
    (ran : creditEngine.aloneFrom db [] (do
      CreditRepos.save stamp
        ((PrismaCreditEventRepository.loadOrOpen db.creditEvents orgId userId).record event)
      (command.closing ((PrismaCreditEventRepository.loadOrOpen db.creditEvents orgId
        userId).record event)).run stamp) = .ok (reply, writes)) :
    (creditEngine.view db writes).creditEvents =
      db.creditEvents ++ [CreditEventMapper.toPersistence event stamp.createdAt] := by
  have unsaved := (loadOrOpen_frame db.creditEvents orgId userId).2.2.2
  rcases Engine.aloneFrom_bind_eq_ok.mp ran with ⟨_, saved, save, closed⟩
  rcases Engine.aloneFrom_execute_eq_ok.mp save with ⟨more, inserted, rfl⟩
  rw [PrismaCreditEventRepository.save_record _ _ unsaved] at inserted
  split at inserted
  · cases inserted
  · cases inserted
    rw [CreditCommand.Closing.creditEvents_run closed]
    rfl

namespace ReleaseCreditReservationHandler

variable {command : ReleaseCreditReservationCommand}

/-- A release that finds its reservation closed, or not at all, has nothing to do. -/
theorem aloneFrom_skips (stamp : Stamp)
    (closed : ¬HeldOpen db.creditEvents command.orgId command.userId command.reservationId) :
    creditEngine.aloneFrom db []
        ((CreditCommand.releaseCreditReservation command).execute stamp) =
      .ok (CreditCommand.skipped (PrismaCreditEventRepository.loadOrOpen db.creditEvents
        command.orgId command.userId), []) := by
  have decided : (CreditCommand.releaseCreditReservation command).call.decision
      (PrismaCreditEventRepository.loadOrOpen db.creditEvents command.orgId command.userId) =
      .ok none := by
    simp only [CreditCommand.call, Call.decision]
    split
    · next amount found => exact absurd ⟨amount, found⟩ closed
    · rfl
  rw [CreditCommand.execute_eq]
  refine Engine.aloneFrom_bind_eq_ok.mpr ⟨_, _, Engine.aloneFrom_read_eq_ok.mpr ⟨rfl, rfl⟩, ?_⟩
  simp only [Engine.view_nil, CreditCommand.act, CreditCommand.wallet, decided]
  rfl

/-- Once a release has committed, its reservation is not open. -/
theorem aloneFrom_closes {reply : CreditReply}
    (ran : creditEngine.aloneFrom db []
      ((CreditCommand.releaseCreditReservation command).execute stamp) = .ok (reply, writes)) :
    ¬HeldOpen (creditEngine.view db writes).creditEvents command.orgId command.userId
      command.reservationId := by
  rw [CreditCommand.execute_eq] at ran
  rcases Engine.aloneFrom_bind_eq_ok.mp ran with ⟨account, _, loaded, acted⟩
  rcases Engine.aloneFrom_read_eq_ok.mp loaded with ⟨rfl, rfl⟩
  simp only [Engine.view_nil, CreditCommand.act] at acted
  split at acted
  · exact absurd acted Engine.aloneFrom_fail_eq_ok
  · next decided =>
      rcases Engine.aloneFrom_pure_eq_ok.mp acted with ⟨-, rfl⟩
      rcases Call.decision_none decided with ⟨id, reason, ⟨⟩, unopened⟩
      rintro ⟨amount, opened⟩
      exact unopened amount opened
  · next event decided =>
      have admits : (PrismaCreditEventRepository.loadOrOpen db.creditEvents command.orgId
          command.userId).Admits event := Call.admits_of_decision decided
      have raised := Call.raised_of_decision decided
      have released : event.eventType = .creditReservationReleased := raised.1
      have named : event.payload.reservationId = some command.reservationId :=
        raised.2.1.trans rfl
      rintro ⟨amount, opened⟩
      rw [CreditCommand.creditEvents_act acted, loadOrOpen_concat admits,
        CreditAccount.get?_apply, released, named] at opened
      simp [CreditEventType.reservationStatus] at opened

end ReleaseCreditReservationHandler

end Bodies

end CoreApi.Credit
