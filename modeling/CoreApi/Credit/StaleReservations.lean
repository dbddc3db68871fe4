import Mathlib.Data.List.Perm.Basic
import CoreApi.Credit.Sweeper
import CoreApi.Credit.UniqueKey

/-!
# What a sweep finds and what it leaves

On a sound ledger the query of the sweeper selects the holds that are open and
old. Every one of them can be released, so sweeps without other commands in
between release them batch by batch until none is left.
-/

namespace CoreApi.Credit.ExpiredReservationSweeperService

/-- The bus with no other command around: a release without an id finds nothing to do. -/
def release (stamp : StaleReservationRow → Stamp) (row : StaleReservationRow) :
    EStateM CreditError CreditDb Unit := fun db =>
  match row.release with
  | none => .ok () db
  | some command =>
      match creditEngine.run db (ReleaseCreditReservationHandler.execute (stamp row) command) with
      | (.ok _, after) => .ok () after
      | (.error error, after) => .error error after

/-- A sweep with no other command around; the query visits the rows in some order. -/
def sweepAlone (visit : List CreditEventRow → List CreditEventRow)
    (stamp : StaleReservationRow → Stamp) (cutoff : ℤ) : EStateM CreditError CreditDb Bool :=
  sweep (fun db => .ok (findStaleReservations (visit db.creditEvents) cutoff) db) (release stamp)

variable {table : List CreditEventRow} {cutoff : ℤ} {row : CreditEventRow} {id : String}
  {hold : Hold} {stale : StaleReservationRow}

/-- A row that closes a hold is one that the subquery finds. -/
theorem closes_of_closes {closing : CreditEventRow} {status : ReservationStatus}
    (formed : closing.Closes row status) (named : row.payload.reservationId = some id)
    (named' : closing.payload.reservationId = some id) : closes row closing = true := by
  have type := eventType_of_reservationStatus formed.reaches
  have closed : closing.eventType = "CreditReservationCommitted" ∨
      closing.eventType = "CreditReservationReleased" := by
    cases status with
    | opened => exact absurd rfl formed.closed
    | committed => exact .inl type
    | released => exact .inr type
  simp [closes, formed.aggregateId, closed, named, named']

/-- On a sound ledger a row is stale if it is old and all there is of its reservation. -/
theorem isStale_iff (sound : SoundLedger table) (member : row ∈ table) :
    isStale table cutoff row = true ↔
      row.createdAt < cutoff ∧ ∃ id, Holds table id (.opened row) := by
  have unfolded : isStale table cutoff row = true ↔ row.eventType = "CreditReserved" ∧
      row.createdAt < cutoff ∧ ∀ other ∈ table, ¬closes row other = true := by
    simp [isStale]
  rw [unfolded]
  constructor
  · rintro ⟨reserves, old, unclosed⟩
    refine ⟨old, ?_⟩
    cases named : row.payload.reservationId with
    | none => exact absurd named (sound.named row member reserves)
    | some id =>
        rcases sound.holds id with ⟨hold, holds⟩
        rcases holds.reserved_mem member named reserves with rfl | ⟨closing, status, rfl⟩
        · exact ⟨id, holds⟩
        · have listed : closing ∈ [row, closing] := by simp
          have stored := holds.mem_iff.mp listed
          exact absurd (closes_of_closes holds.formed.2 named stored.2)
            (unclosed closing stored.1)
  · rintro ⟨old, id, holds⟩
    refine ⟨holds.formed.eventType, old, ?_⟩
    intro other stored closing
    simp only [closes, decide_eq_true_eq, holds.formed.named] at closing
    have listed := holds.mem_iff.mpr ⟨stored, closing.2.2.2⟩
    cases List.mem_singleton.mp listed
    have type := holds.formed.eventType
    rcases closing.2.1 with closed | closed <;> simp [type] at closed

/-- A stale reservation is the open hold of one old row. -/
theorem mem_staleReservations (sound : SoundLedger table) :
    stale ∈ staleReservations table cutoff ↔
      ∃ id reserved, Holds table id (.opened reserved) ∧ reserved.createdAt < cutoff ∧
        stale = ⟨reserved.orgId, reserved.userId, some id⟩ := by
  simp only [staleReservations, List.mem_map, List.mem_filter]
  constructor
  · rintro ⟨row, ⟨member, found⟩, rfl⟩
    rcases (isStale_iff sound member).mp found with ⟨old, id, holds⟩
    refine ⟨id, row, holds, old, ?_⟩
    rw [staleRow, holds.formed.named]
  · rintro ⟨id, reserved, holds, old, rfl⟩
    have listed : reserved ∈ [reserved] := List.mem_singleton_self _
    have member := (holds.mem_iff.mp listed).1
    refine ⟨reserved, ⟨member, (isStale_iff sound member).mpr ⟨old, id, holds⟩⟩, ?_⟩
    rw [staleRow, holds.formed.named]

theorem nodup_staleReservations (sound : SoundLedger table) :
    (staleReservations table cutoff).Nodup := by
  rw [List.nodup_iff_count_le_one]
  intro stale
  by_cases member : stale ∈ staleReservations table cutoff
  · rcases (mem_staleReservations sound).mp member with ⟨id, reserved, holds, -, rfl⟩
    have one : (table.filter fun row => row.payload.reservationId = some id).length = 1 := by
      rw [holds.rows]
      rfl
    rw [staleReservations, List.count_eq_length_filter, List.filter_map, List.length_map,
      List.filter_filter, ← one]
    refine (List.monotone_filter_right table fun row found => ?_).length_le
    have same := (Bool.and_eq_true_iff.mp found).1
    simpa [staleRow] using congrArg StaleReservationRow.reservationId (eq_of_beq same)
  · rw [List.count_eq_zero.mpr member]
    exact Nat.zero_le _

/-- The stale reservations are the open reservations whose hold is older than the cutoff. -/
theorem mem_staleReservations_iff_open (sound : SoundLedger table) (orgId userId : String)
    (reservationId : Option String) :
    ⟨orgId, userId, reservationId⟩ ∈ staleReservations table cutoff ↔
      ∃ id, reservationId = some id ∧
        (PrismaCreditEventRepository.loadOrOpen table orgId userId).reservationStatus id =
          some .opened ∧
        ∃ row ∈ table, row.eventType = "CreditReserved" ∧ row.orgId = orgId ∧
          row.userId = userId ∧ row.payload.reservationId = some id ∧ row.createdAt < cutoff := by
  rw [mem_staleReservations sound]
  constructor
  · rintro ⟨id, reserved, holds, old, same⟩
    cases same
    refine ⟨id, rfl, ?_, reserved, ?_⟩
    · rw [CreditAccount.reservationStatus, holds.state]
      simp [Hold.state, CreditEventRow.wallet]
    · have listed : reserved ∈ [reserved] := List.mem_singleton_self _
      exact ⟨(holds.mem_iff.mp listed).1, holds.formed.eventType, rfl, rfl, holds.formed.named, old⟩
  · rintro ⟨id, rfl, opened, row, member, -, rfl, rfl, named, old⟩
    rcases sound.holds id with ⟨hold, holds⟩
    rw [CreditAccount.reservationStatus, holds.state] at opened
    have listed := holds.mem_iff.mpr ⟨member, named⟩
    cases hold with
    | absent => cases listed
    | opened reserved =>
        cases List.mem_singleton.mp listed
        exact ⟨id, row, holds, old, rfl⟩
    | closed reserved closing status =>
        simp only [Hold.state] at opened
        split at opened
        · exact absurd (Option.some.inj opened) holds.formed.2.closed
        · cases opened

variable {db after : CreditDb} {stamp : StaleReservationRow → Stamp}

/-- What releasing some reservations does to the ledger. -/
structure Drained (before after : List CreditEventRow) (batch : List StaleReservationRow) :
    Prop where
  ledger : KeyedLedger after
  released : ∀ stale ∈ batch, ∃ id reserved closing,
    stale = ⟨reserved.orgId, reserved.userId, some id⟩ ∧
      Holds after id (.closed reserved closing .released)
  frame : ∀ id hold, (∀ stale ∈ batch, stale.reservationId ≠ some id) →
    Holds before id hold → Holds after id hold
  balance : ∀ orgId userId,
    (PrismaCreditEventRepository.loadOrOpen after orgId userId).balance =
      (PrismaCreditEventRepository.loadOrOpen before orgId userId).balance

/-- The command by which the sweeper releases a hold. -/
def releaseCommand (reserved : CreditEventRow) (id : String) : CreditCommand :=
  .releaseCreditReservation ⟨reserved.orgId, reserved.userId, id, "", "EXPIRED"⟩

/-- The event by which the wallet takes the hold back. -/
def releaseEvent (db : CreditDb) (reserved : CreditEventRow) (id : String) : CreditLedgerEvent :=
  ((releaseCommand reserved id).account db).eventOf .creditReservationReleased
    reserved.payload.amount "EXPIRED" (some id)

section Opened

variable {reserved : CreditEventRow} (ledger : KeyedLedger db.creditEvents)
  (holds : Holds db.creditEvents id (.opened reserved))

include holds

/-- The wallet of an open hold decides to take it back. -/
theorem release_decided :
    (releaseCommand reserved id).call.decision ((releaseCommand reserved id).account db) =
      .ok (some (releaseEvent db reserved id)) := by
  have opened : ((releaseCommand reserved id).account db).reservations.get? id =
      some ⟨reserved.payload.amount, .opened⟩ := by
    refine (holds.state reserved.orgId reserved.userId).trans ?_
    exact if_pos rfl
  change (Call.releaseReservation id "EXPIRED").decision _ = _
  simp only [Call.decision, opened]
  rfl

include ledger

/-- The wallet has the row of the hold, so its next version is free. -/
theorem releaseEvent_free :
    ((releaseEvent db reserved id).aggregateId, (releaseEvent db reserved id).version) ∉
      db.creditEvents.map CreditEventRow.key := by
  have stored := (holds.mem_iff.mp (List.mem_singleton_self reserved)).1
  have own : reserved ∈ walletRows db.creditEvents reserved.orgId reserved.userId :=
    List.mem_filter.mpr ⟨stored, decide_eq_true ⟨holds.formed.aggregateId, rfl⟩⟩
  have named := CreditCommand.row_of_decision ledger.gapless (release_decided holds)
  rw [named.1, named.2.2]
  exact ledger.keyed.next_free ledger.gapless (List.ne_nil_of_mem own)

/-- Recording the event closes the hold, and nothing else happens to the ledger. -/
theorem drained_of_recorded (stamp : Stamp) :
    Drained db.creditEvents
      ((releaseCommand reserved id).recorded stamp db (releaseEvent db reserved id)).creditEvents
      [⟨reserved.orgId, reserved.userId, some id⟩] := by
  have decided := release_decided holds
  rcases CreditCommand.holds_close ledger.gapless decided rfl (by simp) rfl holds with
    ⟨_, ⟨⟩, -, closed⟩
  refine ⟨⟨ledger.recorded decided (fun _ reserves _ => by cases reserves),
    ledger.keyed.insert (releaseEvent_free ledger holds)
      (home_of_decision ledger.gapless decided)⟩, ?_, ?_, ?_⟩
  · intro stale member
    cases List.mem_singleton.mp member
    exact ⟨id, reserved, _, rfl, closed⟩
  · intro other hold apart holds'
    refine CreditCommand.holds_frame ledger.gapless decided ?_ holds'
    exact apart _ (List.mem_singleton_self _)
  · intro orgId userId
    rw [CreditCommand.loadOrOpen_recorded ledger.gapless decided]
    split <;> rfl

/-- An open hold can be released. -/
theorem release_opened (stamp : StaleReservationRow → Stamp) :
    ∃ after, release stamp ⟨reserved.orgId, reserved.userId, some id⟩ db = .ok () after ∧
      Drained db.creditEvents after.creditEvents
        [⟨reserved.orgId, reserved.userId, some id⟩] := by
  let row : StaleReservationRow := ⟨reserved.orgId, reserved.userId, some id⟩
  have decided := release_decided holds
  have alone := CreditCommand.aloneFrom_recorded (stamp row) decided
    (fun _ grant => CreditCommand.noConfusion grant) (releaseEvent_free ledger holds)
  refine ⟨_, ?_, drained_of_recorded ledger holds (stamp row)⟩
  rcases CreditCommand.alone_cases ledger.gapless alone with ⟨nothing, -⟩ | ⟨_, same, recorded⟩
  · cases decided.symm.trans nothing
  · cases decided.symm.trans same
    change creditEngine.aloneFrom db []
      (ReleaseCreditReservationHandler.execute (stamp row) _) = _ at alone
    simp only [release, StaleReservationRow.release, Option.map_some, Engine.run]
    rw [alone]
    exact congrArg (EStateM.Result.ok ()) recorded

end Opened

/-- A row of the batch stands for an open hold. -/
def Opened (table : List CreditEventRow) (stale : StaleReservationRow) : Prop :=
  ∃ id reserved, Holds table id (.opened reserved) ∧
    stale = ⟨reserved.orgId, reserved.userId, some id⟩

/-- Two open holds of one id are the same. -/
theorem Opened.eq {other : StaleReservationRow} (opened : Opened table stale)
    (opened' : Opened table other) (same : stale.reservationId = other.reservationId) :
    stale = other := by
  rcases opened with ⟨id, reserved, holds, rfl⟩
  rcases opened' with ⟨id', reserved', holds', rfl⟩
  cases same
  cases holds.eq_opened holds'
  rfl

theorem Drained.nil (ledger : KeyedLedger table) : Drained table table [] where
  ledger := ledger
  released := by simp
  frame _ _ _ holds := holds
  balance _ _ := rfl

/-- Releases one after another. -/
theorem Drained.cons {before between after : List CreditEventRow}
    {batch : List StaleReservationRow} (first : Drained before between [stale])
    (rest : Drained between after batch)
    (apart : ∀ other ∈ batch, other.reservationId ≠ stale.reservationId) :
    Drained before after (stale :: batch) where
  ledger := rest.ledger
  released other member := by
    rcases List.mem_cons.mp member with rfl | later
    · rcases first.released _ (List.mem_singleton_self _) with ⟨id, reserved, closing, rfl, holds⟩
      exact ⟨id, reserved, closing, rfl, rest.frame _ _ apart holds⟩
    · exact rest.released other later
  frame id hold away holds := by
    refine rest.frame id hold (fun other member => away other (List.mem_cons_of_mem _ member))
      (first.frame id hold ?_ holds)
    intro other member
    exact away other (by simp [List.mem_singleton.mp member])
  balance orgId userId := (rest.balance orgId userId).trans (first.balance orgId userId)

/-- The loop of a sweep releases every open hold of its batch. -/
theorem drained_of_forM (stamp : StaleReservationRow → Stamp) {batch : List StaleReservationRow}
    (ledger : KeyedLedger db.creditEvents)
    (opened : ∀ stale ∈ batch, Opened db.creditEvents stale) (distinct : batch.Nodup) :
    ∃ after, batch.forM (release stamp) db = .ok () after ∧
      Drained db.creditEvents after.creditEvents batch := by
  induction batch generalizing db with
  | nil => exact ⟨db, rfl, .nil ledger⟩
  | cons stale rest ih =>
      rcases List.nodup_cons.mp distinct with ⟨new, others⟩
      have open_ := opened stale List.mem_cons_self
      have apart : ∀ other ∈ rest, other.reservationId ≠ stale.reservationId := by
        intro other member same
        have equal := (opened other (List.mem_cons_of_mem _ member)).eq open_ same
        exact new (equal ▸ member)
      rcases open_ with ⟨id, reserved, holds, rfl⟩
      rcases release_opened ledger holds stamp with ⟨between, released, first⟩
      have opened' : ∀ other ∈ rest, Opened between.creditEvents other := by
        intro other member
        rcases opened other (List.mem_cons_of_mem _ member) with ⟨id', reserved', holds', rfl⟩
        refine ⟨id', reserved', first.frame _ _ ?_ holds', rfl⟩
        intro same member'
        cases List.mem_singleton.mp member'
        exact (apart _ member).symm
      rcases ih first.ledger opened' others with ⟨after, ran, drained⟩
      refine ⟨after, ?_, first.cons drained apart⟩
      change (release stamp _ >>= fun _ => rest.forM (release stamp)) db = _
      rw [Loop.bind_run, released]
      exact ran

/-- The order in which the query visits the rows makes no difference but to its own. -/
theorem staleReservations_perm {visited : List CreditEventRow} (visits : visited.Perm table) :
    (staleReservations visited cutoff).Perm (staleReservations table cutoff) := by
  have same : isStale visited cutoff = isStale table cutoff := by
    funext row
    have found : visited.any (closes row) = table.any (closes row) := by
      rw [Bool.eq_iff_iff, List.any_eq_true, List.any_eq_true]
      simp only [visits.mem_iff]
    simp only [isStale, found]
  rw [staleReservations, same]
  exact (visits.filter _).map _

/-- What a sweep leaves is what its batch has left over. -/
theorem Drained.mem_iff {before after : List CreditEventRow} {batch : List StaleReservationRow}
    (drained : Drained before after batch) (sound : SoundLedger before)
    (selected : batch ⊆ staleReservations before cutoff) :
    stale ∈ staleReservations after cutoff ↔
      stale ∈ staleReservations before cutoff ∧ stale ∉ batch := by
  rw [mem_staleReservations sound, mem_staleReservations drained.ledger.toSoundLedger]
  constructor
  · rintro ⟨id, reserved, holds, old, rfl⟩
    have away : ∀ other ∈ batch, other.reservationId ≠ some id := by
      intro other member same
      rcases drained.released other member with ⟨_, _, _, rfl, closed⟩
      cases same
      cases holds.eq_opened closed
    rcases sound.holds id with ⟨hold, holds'⟩
    cases holds.eq_opened (drained.frame id hold away holds')
    exact ⟨⟨id, reserved, holds', old, rfl⟩, fun member => away _ member rfl⟩
  · rintro ⟨⟨id, reserved, holds, old, rfl⟩, left⟩
    refine ⟨id, reserved, drained.frame id _ ?_ holds, old, rfl⟩
    intro other member same
    rcases (mem_staleReservations sound).mp (selected member) with ⟨_, _, holds', -, rfl⟩
    cases same
    cases holds.eq_opened holds'
    exact left member

/-- What the batch names is released. -/
theorem Drained.closed {before after : List CreditEventRow} {batch : List StaleReservationRow}
    (drained : Drained before after batch) {orgId userId : String}
    (member : ⟨orgId, userId, some id⟩ ∈ batch) :
    (PrismaCreditEventRepository.loadOrOpen after orgId userId).reservationStatus id =
      some .released := by
  rcases drained.released _ member with ⟨id', reserved, closing, same, closed⟩
  cases same
  rw [CreditAccount.reservationStatus, closed.state]
  simp [Hold.state, CreditEventRow.wallet]

/-- What it does not name is as it was. -/
theorem Drained.kept {before after : List CreditEventRow} {batch : List StaleReservationRow}
    (drained : Drained before after batch) (sound : SoundLedger before)
    (selected : batch ⊆ staleReservations before cutoff) {orgId userId : String}
    (left : ⟨orgId, userId, some id⟩ ∉ batch) :
    (PrismaCreditEventRepository.loadOrOpen after orgId userId).reservations.get? id =
      (PrismaCreditEventRepository.loadOrOpen before orgId userId).reservations.get? id := by
  by_cases touched : ∃ stale ∈ batch, stale.reservationId = some id
  · -- the hold is another wallet's, and this one knows nothing of it
    rcases touched with ⟨other, member, same⟩
    rcases drained.released other member with ⟨_, reserved, closing, rfl, closed⟩
    rcases (mem_staleReservations sound).mp (selected member) with ⟨_, reserved', opened, -, same'⟩
    simp only [StaleReservationRow.mk.injEq] at same'
    rcases same' with ⟨org, user, named⟩
    cases named
    cases same
    have home : reserved'.wallet = reserved.wallet := Prod.ext org.symm user.symm
    have away : (orgId, userId) ≠ reserved.wallet := by
      rintro ⟨⟩
      exact left member
    rw [closed.state, opened.state]
    simp only [Hold.state, home, if_neg away]
  · rcases sound.holds id with ⟨hold, holds⟩
    have kept := drained.frame id hold (fun stale member same =>
      touched ⟨stale, member, same⟩) holds
    rw [kept.state, holds.state]

/-- A sweep succeeds, and drains the first rows that its query comes upon. -/
theorem drained_of_sweepAlone {visit : List CreditEventRow → List CreditEventRow}
    (stamp : StaleReservationRow → Stamp) (cutoff : ℤ) (ledger : KeyedLedger db.creditEvents)
    (visits : ∀ table, (visit table).Perm table) :
    ∃ batch after, sweepAlone visit stamp cutoff db = .ok true after ∧
      batch.Nodup ∧ batch ⊆ staleReservations db.creditEvents cutoff ∧
      batch.length = min (staleReservations db.creditEvents cutoff).length batchSize ∧
      Drained db.creditEvents after.creditEvents batch := by
  let batch := findStaleReservations (visit db.creditEvents) cutoff
  have perm : (staleReservations (visit db.creditEvents) cutoff).Perm
      (staleReservations db.creditEvents cutoff) := staleReservations_perm (visits _)
  have distinct : batch.Nodup :=
    (perm.nodup_iff.mpr (nodup_staleReservations ledger.toSoundLedger)).sublist
      (List.take_sublist _ _)
  have selected : batch ⊆ staleReservations db.creditEvents cutoff :=
    List.Subset.trans (List.take_subset _ _) perm.subset
  have opened : ∀ stale ∈ batch, Opened db.creditEvents stale := by
    intro stale member
    rcases (mem_staleReservations ledger.toSoundLedger).mp (selected member) with
      ⟨id, reserved, holds, -, same⟩
    exact ⟨id, reserved, holds, same⟩
  rcases drained_of_forM stamp ledger opened distinct with ⟨after, ran, drained⟩
  refine ⟨batch, after, sweep_eq_true.mpr ⟨batch, db, rfl, ran⟩, distinct, selected, ?_, drained⟩
  change (List.take _ _).length = _
  rw [List.length_take, perm.length_eq, Nat.min_comm]

/-- Every sweep takes as many as it can. -/
theorem length_drained {before after : List CreditEventRow} {batch : List StaleReservationRow}
    (drained : Drained before after batch) (sound : SoundLedger before) (distinct : batch.Nodup)
    (selected : batch ⊆ staleReservations before cutoff) :
    (staleReservations after cutoff).length =
      (staleReservations before cutoff).length - batch.length := by
  have together : (batch ++ staleReservations after cutoff).Perm
      (staleReservations before cutoff) := by
    refine (List.perm_ext_iff_of_nodup ?_ (nodup_staleReservations sound)).mpr fun stale => ?_
    · have distinct' : (staleReservations after cutoff).Nodup :=
        nodup_staleReservations drained.ledger.toSoundLedger
      refine List.nodup_append'.mpr ⟨distinct, distinct', ?_⟩
      intro stale member left
      exact ((drained.mem_iff sound selected).mp left).2 member
    · rw [List.mem_append, drained.mem_iff sound selected]
      by_cases member : stale ∈ batch
      · simp [member, selected member]
      · simp [member]
  have lengths := together.length_eq
  rw [List.length_append] at lengths
  omega

/-- Sweeps one after another and nothing in between, whatever they answer. -/
inductive Sweeps (cutoff : ℤ) : ℕ → CreditDb → CreditDb → Prop where
  | none {db : CreditDb} : Sweeps cutoff 0 db db
  | sweep {count : ℕ} {db between after : CreditDb} {answer : Bool}
      {visit : List CreditEventRow → List CreditEventRow} {stamp : StaleReservationRow → Stamp}
      (visits : ∀ table, (visit table).Perm table)
      (swept : sweepAlone visit stamp cutoff db = .ok answer between)
      (rest : Sweeps cutoff count between after) : Sweeps cutoff (count + 1) db after

/-- As many sweeps as there are batches leave nothing stale. -/
theorem Sweeps.drains {count : ℕ} (sweeps : Sweeps cutoff count db after)
    (ledger : KeyedLedger db.creditEvents)
    (enough : (staleReservations db.creditEvents cutoff).length ≤ count * batchSize) :
    staleReservations after.creditEvents cutoff = [] := by
  induction sweeps with
  | none => exact List.length_eq_zero_iff.mp (by omega)
  | @sweep count db between after answer visit stamp visits swept rest ih =>
      rcases drained_of_sweepAlone stamp cutoff ledger visits with
        ⟨batch, _, succeeded, distinct, selected, size, drained⟩
      cases swept.symm.trans succeeded
      have left := length_drained drained ledger.toSoundLedger distinct selected
      refine ih drained.ledger ?_
      rw [Nat.succ_mul] at enough
      omega

/-- In every ledger that commands with fresh ids reach, the stale reservations are the open ones
whose hold is older than the cutoff. A sweep with nothing in between succeeds: it releases as many
of them as a batch holds, moves no balance and touches no other reservation, so as many sweeps as
there are batches leave none. -/
theorem sweep_drains {Client : Type} [DecidableEq Client] {stamps : Client → Stamp}
    {commands : Client → CreditCommand}
    {state : Workload.State Client CreditDb CreditWrite CreditError CreditReply}
    (fresh : FreshIds commands) (reached : (creditWorkload stamps commands).system.Reachable state)
    (cutoff : ℤ) :
    let account := PrismaCreditEventRepository.loadOrOpen
    let table := state.db.creditEvents
    let stale := staleReservations table cutoff
    (stale.Nodup ∧ ∀ orgId userId reservationId, ⟨orgId, userId, reservationId⟩ ∈ stale ↔
      ∃ id, reservationId = some id ∧
        (account table orgId userId).reservationStatus id = some .opened ∧
        ∃ row ∈ table, row.eventType = "CreditReserved" ∧ row.orgId = orgId ∧
          row.userId = userId ∧ row.payload.reservationId = some id ∧ row.createdAt < cutoff) ∧
    (∀ visit stamp, (∀ table, (visit table).Perm table) →
      ∃ batch after, sweepAlone visit stamp cutoff state.db = .ok true after ∧
        batch.Nodup ∧ batch ⊆ stale ∧ batch.length = min stale.length batchSize ∧
        (∀ orgId userId id, ⟨orgId, userId, some id⟩ ∈ batch →
          (account after.creditEvents orgId userId).reservationStatus id = some .released) ∧
        (∀ orgId userId, (account after.creditEvents orgId userId).balance =
          (account table orgId userId).balance) ∧
        ∀ orgId userId id, ⟨orgId, userId, some id⟩ ∉ batch →
          (account after.creditEvents orgId userId).reservations.get? id =
            (account table orgId userId).reservations.get? id) ∧
    ∀ after, Sweeps cutoff ((stale.length + batchSize - 1) / batchSize) state.db after →
      staleReservations after.creditEvents cutoff = [] := by
  intro account table stale
  have ledger : KeyedLedger table :=
    ⟨soundLedger_of_reachable fresh reached, keyed_of_reachable reached⟩
  have sound := ledger.toSoundLedger
  refine ⟨⟨nodup_staleReservations sound, mem_staleReservations_iff_open sound⟩, ?_, ?_⟩
  · intro visit stamp visits
    rcases drained_of_sweepAlone stamp cutoff ledger visits with
      ⟨batch, after, swept, distinct, selected, size, drained⟩
    exact ⟨batch, after, swept, distinct, selected, size, fun _ _ _ => drained.closed,
      drained.balance, fun _ _ _ => drained.kept sound selected⟩
  · intro after sweeps
    refine sweeps.drains ledger ?_
    change stale.length ≤ _
    simp only [batchSize]
    omega

/-- A member is granted five credits and three of them are reserved. -/
def abandonedReservation : ℕ → CreditCommand
  | 0 => .grantCredits ⟨"org", "user", .finite 5, "welcome"⟩
  | 1 => .reserveCredits ⟨"org", "user", "id", .finite 3, "AI query"⟩
  | _ => .spendCredits ⟨"org", "user", .finite 1, "post"⟩

theorem freshIds_abandonedReservation : FreshIds abandonedReservation := by
  rintro (_ | _ | _) (_ | _ | _) reserve reserve' first second _ <;>
    simp_all [abandonedReservation]

/-- The hold is stale, one sweep succeeds in releasing it, and nothing stale is left. -/
theorem sweep_drains_abandoned :
    ∃ before after : CreditDb,
      staleReservations before.creditEvents 1 = [⟨"org", "user", some "id"⟩] ∧
      sweepAlone (fun rows => rows) (fun _ => ⟨9, "query"⟩) 1 before = .ok true after ∧
      (∀ orgId userId,
        (PrismaCreditEventRepository.loadOrOpen after.creditEvents orgId userId).balance =
          (PrismaCreditEventRepository.loadOrOpen before.creditEvents orgId userId).balance) ∧
      staleReservations after.creditEvents 1 = [] := by
  let start : Workload.State ℕ CreditDb CreditWrite CreditError CreditReply :=
    ⟨⟨[], .empty, [], [("org", "user")]⟩, [], fun _ => .idle⟩
  let stamps : ℕ → Stamp := fun _ => ⟨0, "row"⟩
  have reached : (creditWorkload stamps abandonedReservation).system.Reachable start :=
    .initial ⟨⟨rfl, rfl, rfl⟩, rfl, fun _ => rfl⟩
  let granted : CreditEventRow :=
    ⟨"org:user", "org", "user", "CreditGranted", 1, ⟨5, "welcome", none⟩, 0⟩
  let awarded : CreditOutboxEvent :=
    .creditAwarded "org:user" "org" "user" (.finite 5) "welcome" 5
  have reached := Workload.reachable_commit reached 0 (.inl rfl) (fun _ _ => rfl)
    (.of_all (fun _ _ => trivial) _ _ _) (show _ = Except.ok (.grantCredits 5,
      [.insertCreditEvent granted, .appendOutbox awarded]) by decide +kernel)
  let reserved : CreditEventRow :=
    ⟨"org:user", "org", "user", "CreditReserved", 2, ⟨3, "AI query", some "id"⟩, 0⟩
  have reached := Workload.reachable_commit reached 1 (.inl rfl)
    (fun other _ => by rcases other with _ | _ <;> rfl)
    (.of_all (fun _ _ => trivial) _ _ _)
    (show _ = Except.ok (.reserveCredits 2, [.insertCreditEvent reserved]) by decide +kernel)
  let before : CreditDb :=
    ⟨[granted, reserved], .empty, [awarded], [("org", "user")]⟩
  have stale : staleReservations before.creditEvents 1 = [⟨"org", "user", some "id"⟩] := by
    decide +kernel
  have drains := sweep_drains freshIds_abandonedReservation reached 1
  rcases drains.2.1 (fun rows => rows) (fun _ => ⟨9, "query"⟩) (fun _ => .refl _) with
    ⟨batch, after, swept, -, -, -, -, balance, -⟩
  refine ⟨before, after, stale, swept, balance, drains.2.2 _ ?_⟩
  have one : (staleReservations before.creditEvents 1).length = 1 := by rw [stale]; rfl
  change Sweeps 1 (((staleReservations before.creditEvents 1).length + batchSize - 1) / batchSize)
    before _
  rw [one]
  exact .sweep (fun _ => .refl _) swept .none

end CoreApi.Credit.ExpiredReservationSweeperService
