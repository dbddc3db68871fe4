import CoreApi.Credit.Serializability

/-!
# Saving and reloading a wallet

A live account is mutated event by event; a reloaded one is folded from the rows
its events were saved to. The invariant of a sequence of calls is that the
account is the fold of what it raised over what it was loaded from, so the two
agree however often the wallet is saved in between.
-/

namespace CoreApi.Credit

/-- What a row has to keep of an event: its wallet, and the event itself. -/
structure Storable (orgId userId : String) (event : CreditLedgerEvent) : Prop where
  aggregateId : event.aggregateId = CreditAccount.walletId orgId userId
  orgId : event.orgId = orgId
  readable : ∀ createdAt,
    CreditEventMapper.toDomain (CreditEventMapper.toPersistence event createdAt) = event

/-- The streams that operations on a wallet produce, each on what the ones before have stored. -/
inductive Produced (orgId userId : String) : List CreditLedgerEvent → Prop where
  | empty : Produced orgId userId []
  | operated {stream : List CreditLedgerEvent} (calls : List Call)
      (produced : Produced orgId userId stream) :
      Produced orgId userId
        (stream ++ ((CreditAccount.rehydrate orgId userId stream).callAll calls).uncommitted)

namespace CreditAccount

variable {start account : CreditAccount} {event : CreditLedgerEvent}

/-- Applying an event does not look at the events that are not stored yet. -/
theorem apply_forget (account : CreditAccount) (events : List CreditLedgerEvent)
    (event : CreditLedgerEvent) :
    { account with uncommitted := events }.apply event =
      { account.apply event with uncommitted := events } := by
  rcases event with ⟨_, _, _, eventType, version, amount, reason, reservationId⟩
  cases eventType <;> cases reservationId <;> rfl

/-- The account is the fold of what it raised over where it started. -/
structure Replays (start account : CreditAccount) : Prop where
  folded : { account with uncommitted := [] } = account.uncommitted.foldl apply start
  version : account.version = start.version + account.uncommitted.length
  versions : account.uncommitted.map CreditLedgerEvent.version =
    List.range' (start.version + 1) account.uncommitted.length
  storable : ∀ event ∈ account.uncommitted, Storable start.orgId start.userId event

theorem Replays.refl (saved : start.uncommitted = []) : Replays start start where
  folded := by
    rcases start with ⟨_, _, _, _, _, _, uncommitted⟩
    cases saved
    rfl
  version := by rw [saved, List.length_nil, Nat.add_zero]
  versions := by rw [saved]; rfl
  storable event member := by simp [saved] at member

theorem Replays.record (wallet : start.aggregateId = walletId start.orgId start.userId)
    (replays : Replays start account) (admits : account.Admits event) :
    Replays start (account.record event) where
  folded := by
    change { account.apply event with uncommitted := [] } =
      (account.uncommitted ++ [event]).foldl apply start
    rw [List.foldl_concat, ← replays.folded, apply_forget account []]
  version := by
    change (account.apply event).version = start.version + (account.uncommitted ++ [event]).length
    rw [apply_version, admits.version, replays.version, List.length_append, List.length_singleton,
      Nat.add_assoc]
  versions := by
    change (account.uncommitted ++ [event]).map CreditLedgerEvent.version =
      List.range' (start.version + 1) (account.uncommitted ++ [event]).length
    have next : event.version = start.version + 1 + account.uncommitted.length := by
      rw [admits.version, replays.version]
      omega
    rw [List.map_append, replays.versions, List.length_append, List.length_singleton,
      List.range'_1_concat, List.map_singleton, next]
  storable other member := by
    have frame := foldl_apply_frame start account.uncommitted
    rw [← replays.folded] at frame
    rcases List.mem_append.mp member with old | new
    · exact replays.storable other old
    · rcases List.mem_singleton.mp new with rfl
      refine ⟨?_, admits.orgId.trans frame.2.1, toDomain_toPersistence admits⟩
      exact (admits.aggregateId.trans frame.1).trans wallet

/-- However the calls end, the account replays. -/
theorem replays_callAll (saved : start.uncommitted = [])
    (wallet : start.aggregateId = walletId start.orgId start.userId) (calls : List Call) :
    Replays start (start.callAll calls) :=
  callAll_induction (fun _ _ replays admits => replays.record wallet admits) calls (.refl saved)

end CreditAccount

section Streams

open CreditAccount

variable {orgId userId : String} {stream : List CreditLedgerEvent}

theorem rehydrate_append (orgId userId : String) (stream more : List CreditLedgerEvent) :
    rehydrate orgId userId (stream ++ more) = more.foldl apply (rehydrate orgId userId stream) :=
  List.foldl_append ..

theorem rehydrate_frame (orgId userId : String) (stream : List CreditLedgerEvent) :
    (rehydrate orgId userId stream).aggregateId = walletId orgId userId ∧
      (rehydrate orgId userId stream).orgId = orgId ∧
      (rehydrate orgId userId stream).userId = userId ∧
      (rehydrate orgId userId stream).uncommitted = [] :=
  foldl_apply_frame (openAccount orgId userId) stream

/-- The live account replays what it was rehydrated from. -/
theorem replays_rehydrate (orgId userId : String) (stream : List CreditLedgerEvent)
    (calls : List Call) :
    Replays (rehydrate orgId userId stream) ((rehydrate orgId userId stream).callAll calls) := by
  rcases rehydrate_frame orgId userId stream with ⟨aggregateId, org, user, saved⟩
  exact replays_callAll saved (aggregateId.trans (congrArg₂ walletId org user).symm) calls

/-- Rehydrating everything that was raised gives the live account with nothing left to store. -/
theorem rehydrate_live (orgId userId : String) (stream : List CreditLedgerEvent)
    (calls : List Call) :
    let live := (rehydrate orgId userId stream).callAll calls
    rehydrate orgId userId (stream ++ live.uncommitted) = { live with uncommitted := [] } := by
  intro live
  rw [rehydrate_append, ← (replays_rehydrate orgId userId stream calls).folded]

/-- A produced stream counts its versions from 1 and can be stored. -/
theorem Produced.versions_storable (produced : Produced orgId userId stream) :
    (rehydrate orgId userId stream).version = stream.length ∧
      stream.map CreditLedgerEvent.version = List.range' 1 stream.length ∧
      ∀ event ∈ stream, Storable orgId userId event := by
  induction produced with
  | empty => exact ⟨rfl, rfl, by simp⟩
  | @operated stream calls _ ih =>
      rcases ih with ⟨version, versions, storable⟩
      rcases rehydrate_frame orgId userId stream with ⟨-, org, user, -⟩
      have replays := replays_rehydrate orgId userId stream calls
      refine ⟨?_, ?_, ?_⟩
      · rw [rehydrate_live, List.length_append, ← version]
        exact replays.version
      · rw [List.map_append, versions, replays.versions, version, List.length_append,
          Nat.add_comm stream.length 1, List.range'_append_1]
      · intro event member
        rcases List.mem_append.mp member with old | new
        · exact storable event old
        · have stored := replays.storable event new
          rw [org, user] at stored
          exact stored

/-- The rows a stream is stored as, whenever the database stamped each of them. -/
def storedRows (createdAt : CreditLedgerEvent → ℤ) (stream : List CreditLedgerEvent) :
    List CreditEventRow :=
  stream.map fun event => CreditEventMapper.toPersistence event (createdAt event)

/-- A save inserts the rows of what was raised, or it throws. -/
theorem save_eq_ok {before rows : List CreditEventRow} {createdAt : ℤ} {account : CreditAccount}
    (saved : PrismaCreditEventRepository.save before createdAt account = .ok rows) :
    rows = storedRows (fun _ => createdAt) account.uncommitted := by
  simp only [PrismaCreditEventRepository.save, PrismaCreditEventRepository.createMany] at saved
  split at saved
  · next nothing =>
      cases saved
      rw [nothing]
      rfl
  · split at saved <;> cases saved
    next inserted =>
      split at inserted <;> cases inserted
      rfl

/-- A stored stream reads back in version order, wherever its rows stand in the table. -/
theorem walletStream_storedRows (createdAt : CreditLedgerEvent → ℤ)
    (versions : stream.map CreditLedgerEvent.version = List.range' 1 stream.length)
    (storable : ∀ event ∈ stream, Storable orgId userId event)
    {others table : List CreditEventRow}
    (foreign : ∀ row ∈ others, ¬(row.aggregateId = walletId orgId userId ∧ row.orgId = orgId))
    (stored : table.Perm (storedRows createdAt stream ++ others)) :
    walletStream table orgId userId = stream := by
  have own : (storedRows createdAt stream).map CreditEventRow.version =
      List.range' 1 stream.length := by
    rw [storedRows, List.map_map]
    exact versions
  have mine : walletRows (storedRows createdAt stream) orgId userId =
      storedRows createdAt stream := by
    apply List.filter_eq_self.mpr
    intro row member
    rcases List.mem_map.mp member with ⟨event, raised, rfl⟩
    exact decide_eq_true ⟨(storable event raised).aggregateId, (storable event raised).orgId⟩
  have theirs : walletRows others orgId userId = [] :=
    List.filter_eq_nil_iff.mpr fun row member => by simpa using foreign row member
  have rows : (findWalletRows table orgId userId).Perm (storedRows createdAt stream) := by
    have filtered := stored.filter fun row =>
      decide (row.aggregateId = walletId orgId userId ∧ row.orgId = orgId)
    have whole := walletRows_append (storedRows createdAt stream) others orgId userId
    rw [mine, theirs, List.append_nil] at whole
    exact (List.perm_insertionSort _ _).trans (filtered.trans (.of_eq whole))
  have ordered : findWalletRows table orgId userId = storedRows createdAt stream := by
    refine @List.Perm.eq_of_pairwise _ (fun left right => left.version ≤ right.version) _ _ ?_
      (List.pairwise_insertionSort _ _) ?_ rows
    · intro left right found stored' le ge
      have distinct : ((storedRows createdAt stream).map CreditEventRow.version).Nodup := by
        rw [own]
        exact List.nodup_range'
      exact List.inj_on_of_nodup_map distinct (rows.subset found) stored' (le_antisymm le ge)
    · apply List.pairwise_map.mp
      rw [own]
      exact List.pairwise_le_range'
  calc walletStream table orgId userId
      = stream.map (fun event => CreditEventMapper.toDomain
          (CreditEventMapper.toPersistence event (createdAt event))) := by
        rw [walletStream, ordered, storedRows, List.map_map]
        rfl
    _ = stream.map id :=
        List.map_congr_left fun event raised => (storable event raised).readable _
    _ = stream := List.map_id _

/-- Storing what a sequence of calls raised and reading the wallet back gives the live account
with nothing left to store, and the stored versions continue those of the stream. What a save
inserts are these rows. -/
theorem reload_stored (produced : Produced orgId userId stream) (calls : List Call)
    (createdAt : CreditLedgerEvent → ℤ) (others table : List CreditEventRow)
    (foreign : ∀ row ∈ others, ¬(row.aggregateId = walletId orgId userId ∧ row.orgId = orgId))
    (stored : table.Perm
      (storedRows createdAt (stream ++
        ((rehydrate orgId userId stream).callAll calls).uncommitted) ++ others)) :
    let live := (rehydrate orgId userId stream).callAll calls
    let reloaded := PrismaCreditEventRepository.loadOrOpen table orgId userId
    walletStream table orgId userId = stream ++ live.uncommitted ∧
      (reloaded.version = live.version ∧ reloaded.balance = live.balance ∧
        reloaded.reserved = live.reserved ∧ reloaded.available = live.available) ∧
      (∀ id, reloaded.reservationStatus id = live.reservationStatus id ∧
        reloaded.reservationAmount id = live.reservationAmount id) ∧
      reloaded.uncommitted = [] ∧
      (live.uncommitted.map fun event =>
          (CreditEventMapper.toPersistence event (createdAt event)).version) =
        List.range' ((stream.map CreditLedgerEvent.version).getLast?.getD 0 + 1)
          live.uncommitted.length ∧
      ∀ before now rows, PrismaCreditEventRepository.save before now live = .ok rows →
        rows = storedRows (fun _ => now) live.uncommitted := by
  intro live reloaded
  rcases (Produced.operated calls produced).versions_storable with ⟨-, versions, storable⟩
  have read := walletStream_storedRows createdAt versions storable foreign stored
  have same : reloaded = { live with uncommitted := [] } := by
    change rehydrate orgId userId (walletStream table orgId userId) = _
    rw [read]
    exact rehydrate_live orgId userId stream calls
  have last : (rehydrate orgId userId stream).version =
      (stream.map CreditLedgerEvent.version).getLast?.getD 0 :=
    foldl_apply_version (openAccount orgId userId) stream
  refine ⟨read, ?_, ?_, ?_, ?_, fun before now rows => save_eq_ok⟩
  · rw [same]
    exact ⟨rfl, rfl, rfl, rfl⟩
  · intro id
    rw [same]
    exact ⟨rfl, rfl⟩
  · rw [same]
  · rw [← last]
    exact (replays_rehydrate orgId userId stream calls).versions

end Streams

/-- A grant, a hold that is charged, one that is too large and one that stays open. -/
def grantedAndHeld : List Call :=
  [.grant (.finite 100) "WELCOME", .reserve "res-1" (.finite 30) "AI_QUERY",
    .reserve "res-2" (.finite 90) "AI_QUERY", .commitReservation "res-1" "AI_QUERY",
    .reserve "res-3" (.finite 20) "AI_QUERY"]

/-- A wallet without events, its rows stored in reverse among those of another wallet. -/
theorem reload_stored_held :
    (PrismaCreditEventRepository.loadOrOpen
      ((storedRows (fun event => event.version)
          ((CreditAccount.rehydrate "org" "ann" []).callAll grantedAndHeld).uncommitted).reverse ++
        [⟨"org:bob", "org", "bob", "CreditGranted", 1, ⟨5, "WELCOME", none⟩, 0⟩])
      "org" "ann").available = 50 := by
  have nothing : Produced "org" "ann" [] := .empty
  have reloaded := (reload_stored nothing grantedAndHeld (fun event => event.version)
    [⟨"org:bob", "org", "bob", "CreditGranted", 1, ⟨5, "WELCOME", none⟩, 0⟩] _ (by decide)
    ((List.reverse_perm _).append_right _)).2.1.2.2.2
  rw [List.nil_append] at reloaded
  rw [reloaded]
  decide +kernel

end CoreApi.Credit
