import CoreApi.Compensation.JobQueue

/-!
# No compensation is lost

Whatever the instances, the reaper and the cleanup job do, a recorded
compensation is done or deleted only after its runner has completed, and every
row that is not settled is pending or in flight with the time of its claim.
-/

namespace CoreApi.Compensation

open ClaimQueue PrismaSagaCompensationRepository

/-- The compensations of a batch, in its order. -/
def compensations (batch : List ClaimedSagaCompensation) : List SagaCompensation :=
  batch.map ClaimedSagaCompensation.toSagaCompensation

/-- An instance is at work on recorded compensations, and marks one as processed only when its
runner has completed. -/
def Poll.Known (state : CompensationState) : Poll → Prop
  | .claimed _ => True
  | .running batch => compensations batch ⊆ state.recorded
  | .completed row rest => row.toSagaCompensation ∈ state.completed ∧
      row.toSagaCompensation ∈ state.recorded ∧ compensations rest ⊆ state.recorded
  | .failed row _ rest =>
      row.toSagaCompensation ∈ state.recorded ∧ compensations rest ⊆ state.recorded

/-- Every recorded compensation is completed or has its row, and a row that is done stands for a
completed one. -/
structure Accounted (state : CompensationState) : Prop where
  distinct : (state.recorded.map SagaCompensation.id).Nodup
  stored : ∀ row ∈ state.rows, row.toSagaCompensation ∈ state.recorded
  remains : ∀ compensation ∈ state.recorded, compensation ∈ state.completed ∨
    ∃ row ∈ state.rows, row.toSagaCompensation = compensation
  done : ∀ row ∈ state.rows, row.status = .done → row.toSagaCompensation ∈ state.completed
  polls : ∀ instanceId, (state.poll instanceId).Known state

variable {state next : CompensationState} {label : CompensationLabel}
  {registered : String → Bool} {maxAttempts pollBatchSize : ℕ}

/-- The id tells the recorded compensations apart. -/
theorem Accounted.compensation_of_id (accounted : Accounted state)
    {compensation other : SagaCompensation} (member : compensation ∈ state.recorded)
    (member' : other ∈ state.recorded) (same : compensation.id = other.id) :
    compensation = other :=
  List.inj_on_of_nodup_map accounted.distinct member member' same

theorem Poll.Known.mono {poll : Poll} (known : poll.Known state)
    (recorded : state.recorded ⊆ next.recorded) (completed : state.completed ⊆ next.completed) :
    poll.Known next := by
  cases poll with
  | claimed ids => trivial
  | running batch => exact fun _ member => recorded (known member)
  | completed row rest =>
      exact ⟨completed known.1, recorded known.2.1, fun _ member => recorded (known.2.2 member)⟩
  | failed row error rest =>
      exact ⟨recorded known.1, fun _ member => recorded (known.2 member)⟩

/-- One instance moves on, and more runners may have completed. -/
theorem Accounted.put (accounted : Accounted state) {instanceId : ℕ} {poll : Poll}
    {completed : List SagaCompensation} (more : state.completed ⊆ completed)
    (known : poll.Known { state with completed := completed }) :
    Accounted { state.put instanceId poll with completed := completed } where
  distinct := accounted.distinct
  stored := accounted.stored
  remains compensation member :=
    (accounted.remains compensation member).imp_left fun old => more old
  done row member status := more (accounted.done row member status)
  polls other := by
    by_cases same : other = instanceId
    · subst same
      have moved : (state.put other poll).poll other = poll := by
        simp [CompensationState.put]
      rw [moved]
      exact known.mono (fun _ => id) (fun _ => id)
    · have kept : (state.put instanceId poll).poll other = state.poll other := by
        simp [CompensationState.put, same]
      rw [kept]
      exact (accounted.polls other).mono (fun _ => id) more

/-- A statement that changes rows but keeps their compensations. -/
theorem Accounted.map_rows (accounted : Accounted state)
    {change : SagaCompensationRow → SagaCompensationRow}
    (same : ∀ row, (change row).toSagaCompensation = row.toSagaCompensation)
    (done : ∀ row ∈ state.rows, (change row).status = .done →
      row.status = .done ∨ row.toSagaCompensation ∈ state.completed) :
    Accounted { state with rows := state.rows.map change } where
  distinct := accounted.distinct
  stored := by
    intro changed member
    rcases List.mem_map.mp member with ⟨row, stored, rfl⟩
    rw [same]
    exact accounted.stored row stored
  remains compensation member := by
    rcases accounted.remains compensation member with old | ⟨row, stored, rfl⟩
    · exact .inl old
    · exact .inr ⟨change row, List.mem_map_of_mem stored, same row⟩
  done := by
    intro changed member status
    rcases List.mem_map.mp member with ⟨row, stored, rfl⟩
    rw [same]
    rcases done row stored status with before | completed
    · exact accounted.done row stored before
    · exact completed
  polls instanceId := (accounted.polls instanceId).mono (fun _ => id) (fun _ => id)

theorem Accounted.purge (accounted : Accounted state) (olderThan : ℤ) :
    Accounted { state with rows := purgeProcessed state.rows olderThan } where
  distinct := accounted.distinct
  stored row member := accounted.stored row (List.mem_of_mem_filter member)
  remains compensation member := by
    rcases accounted.remains compensation member with old | ⟨row, stored, rfl⟩
    · exact .inl old
    · by_cases purged : row.status = .done ∧ row.processedAt.any (· < olderThan)
      · exact .inl (accounted.done row stored purged.1)
      · exact .inr ⟨row, List.mem_filter.mpr ⟨stored, decide_eq_true purged⟩, rfl⟩
  done row member := accounted.done row (List.mem_of_mem_filter member)
  polls instanceId := (accounted.polls instanceId).mono (fun _ => id) (fun _ => id)

theorem Accounted.record (accounted : Accounted state) {row : SagaCompensationRow}
    (fresh : ∀ compensation ∈ state.recorded, compensation.id ≠ row.id)
    (pending : row.status = .pending) :
    Accounted { state with
      rows := state.rows ++ [row]
      recorded := state.recorded ++ [row.toSagaCompensation] } where
  distinct := by
    rw [List.map_append, List.nodup_append]
    refine ⟨accounted.distinct, List.nodup_singleton _, ?_⟩
    intro id member last lastMember same
    rcases List.mem_map.mp member with ⟨compensation, known, rfl⟩
    exact fresh compensation known (same.trans (List.mem_singleton.mp lastMember))
  stored := by
    intro stored member
    rcases List.mem_append.mp member with old | new
    · exact List.mem_append_left _ (accounted.stored stored old)
    · rw [List.mem_singleton.mp new]
      simp
  remains := by
    intro compensation member
    rcases List.mem_append.mp member with old | new
    · rcases accounted.remains compensation old with completed | ⟨stored, found, same⟩
      · exact .inl completed
      · exact .inr ⟨stored, List.mem_append_left _ found, same⟩
    · exact .inr ⟨row, by simp, (List.mem_singleton.mp new).symm⟩
  done := by
    intro stored member status
    rcases List.mem_append.mp member with old | new
    · exact accounted.done stored old status
    · simp only [List.mem_singleton.mp new, pending] at status
      cases status
  polls instanceId := (accounted.polls instanceId).mono (fun _ => List.mem_append_left _)
    (fun _ => id)

theorem Accounted.findClaimed_known (accounted : Accounted state) {scan : List SagaCompensationRow}
    {ids : List String} (visits : scan.Perm state.rows) :
    compensations (findClaimed scan ids) ⊆ state.recorded := by
  intro compensation member
  simp only [compensations, findClaimed, List.map_map, List.mem_map] at member
  rcases member with ⟨row, sorted, rfl⟩
  have filtered := (List.perm_insertionSort _ _).mem_iff.mp sorted
  exact accounted.stored row (visits.mem_iff.mp (List.mem_of_mem_filter filtered))

theorem Accounted.markProcessed_rows (accounted : Accounted state) {compensation : SagaCompensation}
    (completed : compensation ∈ state.completed) (recorded : compensation ∈ state.recorded)
    (now : ℤ) : Accounted { state with rows := markProcessed state.rows compensation.id now } := by
  refine accounted.map_rows ?_ ?_
  · intro row
    split <;> rfl
  · intro row stored status
    split at status
    · next same =>
        have row_eq := accounted.compensation_of_id (accounted.stored row stored) recorded same
        exact .inr (row_eq ▸ completed)
    · exact .inl status

theorem Accounted.markFailed_rows (accounted : Accounted state) (id : String)
    (currentAttempts : ℕ) (error : String) (maxAttempts : ℕ) :
    Accounted { state with
      rows := markFailed state.rows id currentAttempts error maxAttempts } := by
  refine accounted.map_rows ?_ ?_
  · intro row
    split <;> rfl
  · intro row _ status
    split at status
    · simp only at status
      split at status <;> cases status
    · exact .inl status

theorem Accounted.next_known (accounted : Accounted state) {instanceId : ℕ}
    {row : ClaimedSagaCompensation} {rest : List ClaimedSagaCompensation}
    (next : state.poll instanceId = .running (row :: rest)) :
    row.toSagaCompensation ∈ state.recorded ∧ compensations rest ⊆ state.recorded := by
  have known : (Poll.running (row :: rest)).Known state := next ▸ accounted.polls instanceId
  exact ⟨known List.mem_cons_self, fun _ member => known (List.mem_cons_of_mem _ member)⟩

theorem Accounted.step (accounted : Accounted state)
    (move : CompensationStep registered maxAttempts pollBatchSize state label next) :
    Accounted next := by
  cases move with
  | recordFailed fresh => exact accounted.record fresh rfl
  | @claimPendingBatch instanceId scan locked ids now idle visits selected =>
      have claimed : Accounted { state with rows := claim state.rows ids now } := by
        refine accounted.map_rows ?_ ?_
        · intro row
          split <;> rfl
        · intro row _ status
          split at status
          · cases status
          · exact .inl status
      exact claimed.put (fun _ => id) trivial
  | findClaimed claimed visits =>
      exact accounted.put (fun _ => id) (accounted.findClaimed_known visits)
  | @runCompleted instanceId row rest next runner =>
      exact accounted.put (List.subset_append_left _ _)
        ⟨List.mem_append_right _ (List.mem_singleton_self _), accounted.next_known next⟩
  | runFailed next runner => exact accounted.put (fun _ => id) (accounted.next_known next)
  | runMissing next unknown => exact accounted.put (fun _ => id) (accounted.next_known next)
  | @markProcessed instanceId row rest now completed found =>
      have known : (Poll.completed row rest).Known state := completed ▸ accounted.polls instanceId
      exact (accounted.markProcessed_rows known.1 known.2.1 now).put (fun _ => id) known.2.2
  | @markProcessedThrown instanceId row rest now error completed =>
      have known : (Poll.completed row rest).Known state := completed ▸ accounted.polls instanceId
      exact (accounted.markProcessed_rows known.1 known.2.1 now).put (fun _ => id) known.2
  | @markProcessedLost instanceId row rest error completed =>
      have known : (Poll.completed row rest).Known state := completed ▸ accounted.polls instanceId
      exact accounted.put (fun _ => id) known.2
  | @markFailed instanceId row error rest failed found =>
      have known : (Poll.failed row error rest).Known state := failed ▸ accounted.polls instanceId
      exact (accounted.markFailed_rows row.id row.attempts error maxAttempts).put (fun _ => id)
        known.2
  | @markFailedThrown instanceId row error rest failed =>
      exact (accounted.markFailed_rows row.id row.attempts error maxAttempts).put (fun _ => id)
        (List.nil_subset _)
  | crash => exact accounted.put (fun _ => id) (List.nil_subset _)
  | reapStaleClaims =>
      refine accounted.map_rows ?_ ?_
      · intro row
        split <;> rfl
      · intro row _ status
        split at status
        · cases status
        · exact .inl status
  | purgeProcessed => exact accounted.purge _

theorem accounted_of_reachable
    (reached : (sagaCompensations registered maxAttempts pollBatchSize).Reachable state) :
    Accounted state := by
  refine reached.invariant Accounted ?_ ?_
  · rintro start ⟨rows, recorded, completed, idle⟩
    refine ⟨by simp [recorded], by simp [rows], by simp [recorded], by simp [rows], ?_⟩
    intro instanceId
    rw [idle]
    exact List.nil_subset _
  · intro before label after _ accounted move
    exact accounted.step move

/-- A row that is pending is taken by a claim that is large enough and finds it unlocked. -/
theorem mem_selectPending_of_pending {scan : List SagaCompensationRow} {row : SagaCompensationRow}
    {limit : ℕ} (visits : scan.Perm state.rows) (stored : row ∈ state.rows)
    (pending : row.status = .pending) (large : state.rows.length ≤ limit) :
    row ∈ selectPending scan limit fun _ => false := by
  have short : (byCreatedAt (scan.filter fun row =>
      row.status = .pending ∧ ¬ (fun _ => false) row.id = true)).length ≤ limit := by
    rw [byCreatedAt, List.length_insertionSort]
    exact (List.length_filter_le _ _).trans (visits.length_eq ▸ large)
  rw [selectPending, List.take_of_length_le short, byCreatedAt,
    (List.perm_insertionSort _ _).mem_iff]
  exact List.mem_filter.mpr ⟨visits.mem_iff.mpr stored, by simp [pending]⟩

theorem mem_reapStaleInflight {row : SagaCompensationRow} {claimedAt cutoff : ℤ}
    (stored : row ∈ state.rows) (inflight : row.status = .inflight)
    (claimed : row.claimedAt = some claimedAt) (old : claimedAt < cutoff) :
    { row with status := .pending, claimedAt := none } ∈ reapStaleInflight state.rows cutoff := by
  refine List.mem_map.mpr ⟨row, stored, ?_⟩
  simp [inflight, claimed, old]

/-- No statement deletes a dead-lettered row. -/
theorem failedDlq_kept
    (move : CompensationStep registered maxAttempts pollBatchSize state label next)
    {row : SagaCompensationRow} (stored : row ∈ state.rows) (dead : row.status = .failedDlq) :
    ∃ kept ∈ next.rows, kept.toSagaCompensation = row.toSagaCompensation := by
  have mapped : ∀ change : SagaCompensationRow → SagaCompensationRow,
      (∀ row, (change row).toSagaCompensation = row.toSagaCompensation) →
      ∃ kept ∈ state.rows.map change, kept.toSagaCompensation = row.toSagaCompensation :=
    fun change same => ⟨change row, List.mem_map_of_mem stored, same row⟩
  cases move with
  | recordFailed => exact ⟨row, List.mem_append_left _ stored, rfl⟩
  | findClaimed | runCompleted | runFailed | runMissing | markProcessedLost | crash =>
      exact ⟨row, stored, rfl⟩
  | purgeProcessed =>
      exact ⟨row, List.mem_filter.mpr ⟨stored, by simp [dead]⟩, rfl⟩
  | claimPendingBatch | markProcessed | markProcessedThrown | markFailed | markFailedThrown |
      reapStaleClaims =>
      refine mapped _ ?_
      intro row
      split <;> rfl

/-- In every reachable state a recorded compensation whose row is done or gone has had its runner
complete, no step deletes a dead-lettered row, a row is in flight exactly if it has a claim time,
and so every row that is not settled is pending, where a claim can take it, or in flight, where the
reaper takes it back once its claim is old enough. -/
theorem no_compensation_lost
    (reached : (sagaCompensations registered maxAttempts pollBatchSize).Reachable state) :
    (∀ compensation ∈ state.recorded,
      ((∃ row ∈ state.rows, row.id = compensation.id ∧ row.status = .done) ∨
        ∀ row ∈ state.rows, row.id ≠ compensation.id) → compensation ∈ state.completed) ∧
    (∀ label next, CompensationStep registered maxAttempts pollBatchSize state label next →
      ∀ row ∈ state.rows, row.status = .failedDlq →
        ∃ kept ∈ next.rows, kept.toSagaCompensation = row.toSagaCompensation) ∧
    (∀ row ∈ state.rows, row.status = .inflight ↔ row.claimedAt.isSome) ∧
    (∀ row ∈ state.rows, row.status ≠ .done → row.status ≠ .failedDlq →
      (row.status = .pending ∧ ∀ scan limit, scan.Perm state.rows → state.rows.length ≤ limit →
        row ∈ selectPending scan limit fun _ => false) ∨
      ∃ claimedAt, row.claimedAt = some claimedAt ∧ ∀ cutoff, claimedAt < cutoff →
        { row with status := .pending, claimedAt := none } ∈
          reapStaleInflight state.rows cutoff) := by
  have accounted := accounted_of_reachable reached
  have leased : ∀ row ∈ state.rows, row.status = .inflight ↔ row.claimedAt.isSome := by
    intro row stored
    simpa [SagaCompensationRow.job] using
      (queue_sound reached).leased row.job (List.mem_map_of_mem stored)
  refine ⟨?_, fun _ _ move _ stored dead => failedDlq_kept move stored dead, leased, ?_⟩
  · rintro compensation recorded (⟨row, stored, same, done⟩ | gone)
    · have row_eq := accounted.compensation_of_id (accounted.stored row stored) recorded same
      exact row_eq ▸ accounted.done row stored done
    · rcases accounted.remains compensation recorded with completed | ⟨row, stored, rfl⟩
      · exact completed
      · exact absurd rfl (gone row stored)
  · intro row stored notDone notDead
    cases status : row.status with
    | pending =>
        refine .inl ⟨rfl, ?_⟩
        intro scan limit visits large
        exact mem_selectPending_of_pending visits stored status large
    | inflight =>
        rcases Option.isSome_iff_exists.mp ((leased row stored).mp status) with
          ⟨claimedAt, claimed⟩
        refine .inr ⟨claimedAt, claimed, ?_⟩
        intro cutoff old
        exact mem_reapStaleInflight stored status claimed old
    | done => exact absurd status notDone
    | failedDlq => exact absurd status notDead

/-- A compensation as it is recorded after a saga was interrupted. -/
def stalled : SagaCompensationRow :=
  recordFailed "1" 1 "ProvisionOrgCommand"
    ⟨"archive-org", .object [("orgId", .string "org")]⟩ "Error: timeout"

/-- The table with one recorded compensation, as two instances are at work. -/
def stalledState (rows : List SagaCompensationRow) (first second : Poll)
    (completed : List SagaCompensation) : CompensationState where
  rows := rows
  poll instanceId := if instanceId = 0 then first else if instanceId = 1 then second
    else .running []
  recorded := [stalled.toSagaCompensation]
  completed := completed

theorem put_first (rows : List SagaCompensationRow) (first first' second : Poll)
    (completed : List SagaCompensation) :
    (stalledState rows first second completed).put 0 first' =
      stalledState rows first' second completed := by
  simp only [CompensationState.put, stalledState, CompensationState.mk.injEq, true_and, and_true]
  funext instanceId
  by_cases same : instanceId = 0 <;> simp [same]

theorem put_second (rows : List SagaCompensationRow) (first second second' : Poll)
    (completed : List SagaCompensation) :
    (stalledState rows first second completed).put 1 second' =
      stalledState rows first second' completed := by
  simp only [CompensationState.put, stalledState, CompensationState.mk.injEq, true_and, and_true]
  funext instanceId
  by_cases same : instanceId = 1 <;> simp [same]

/-- The first instance has found the row it claimed. -/
theorem reachable_claimed (maxAttempts : ℕ) :
    (sagaCompensations (fun _ => true) maxAttempts 20).Reachable
      (stalledState (claim [stalled] ["1"] 2) (.running [stalled.claimed]) (.running []) []) := by
  have start : (sagaCompensations (fun _ => true) maxAttempts 20).Reachable
      ⟨[], fun _ => .running [], [], []⟩ := .initial ⟨rfl, rfl, rfl, fun _ => rfl⟩
  have recorded := start.step (@CompensationStep.recordFailed (fun _ => true) maxAttempts 20 _ "1" 1
    "ProvisionOrgCommand" ⟨"archive-org", .object [("orgId", .string "org")]⟩ "Error: timeout"
    (by simp))
  have waiting : (sagaCompensations (fun _ => true) maxAttempts 20).Reachable
      (stalledState [stalled] (.running []) (.running []) []) := by
    simpa [stalledState, stalled] using recorded
  have claimed : (sagaCompensations (fun _ => true) maxAttempts 20).Reachable
      (stalledState (claim [stalled] ["1"] 2) (.claimed ["1"]) (.running []) []) := by
    have claimed := waiting.step (@CompensationStep.claimPendingBatch (fun _ => true) maxAttempts 20
      _ 0 [stalled] (fun _ => false) ["1"] 2 rfl (.refl _) rfl)
    simp only [put_first] at claimed
    exact claimed
  have found := claimed.step (@CompensationStep.findClaimed (fun _ => true) maxAttempts 20 _ 0 ["1"]
    (claim [stalled] ["1"] 2) rfl (.refl _))
  simp only [put_first] at found
  exact found

/-- The table after the compensation was claimed and marked as processed. -/
def doneRows : List SagaCompensationRow :=
  markProcessed (claim [stalled] ["1"] 70) "1" 72

/-- The claim of the first instance is taken back, and the second instance claims the row, completes
its runner and marks it as done. -/
theorem reachable_done :
    (sagaCompensations (fun _ => true) 5 20).Reachable
      (stalledState doneRows (.running [stalled.claimed]) (.running [])
        [stalled.toSagaCompensation]) := by
  have reaped : (sagaCompensations (fun _ => true) 5 20).Reachable
      (stalledState [stalled] (.running [stalled.claimed]) (.running []) []) :=
    (reachable_claimed 5).step (@CompensationStep.reapStaleClaims (fun _ => true) 5 20 _ 60)
  have claimed : (sagaCompensations (fun _ => true) 5 20).Reachable
      (stalledState (claim [stalled] ["1"] 70) (.running [stalled.claimed]) (.claimed ["1"])
        []) := by
    have claimed := reaped.step (@CompensationStep.claimPendingBatch (fun _ => true) 5 20 _ 1
      [stalled] (fun _ => false) ["1"] 70 rfl (.refl _) rfl)
    simp only [put_second] at claimed
    exact claimed
  have found := claimed.step (@CompensationStep.findClaimed (fun _ => true) 5 20 _ 1 ["1"]
    (claim [stalled] ["1"] 70) rfl (.refl _))
  simp only [put_second] at found
  have completed : (sagaCompensations (fun _ => true) 5 20).Reachable
      (stalledState (claim [stalled] ["1"] 70) (.running [stalled.claimed])
        (.completed stalled.claimed []) [stalled.toSagaCompensation]) := by
    have completed := found.step (@CompensationStep.runCompleted (fun _ => true) 5 20 _ 1
      stalled.claimed [] rfl rfl)
    simp only [put_second] at completed
    exact completed
  have done := completed.step (@CompensationStep.markProcessed (fun _ => true) 5 20 _ 1
    stalled.claimed [] 72 rfl ⟨_, List.mem_singleton_self _, rfl⟩)
  simp only [put_second] at done
  exact done

/-- The row that the second instance marked as done. -/
theorem no_compensation_lost_done :
    ∃ state, (sagaCompensations (fun _ => true) 5 20).Reachable state ∧
      stalled.toSagaCompensation ∈ state.completed :=
  ⟨_, reachable_done, (no_compensation_lost reachable_done).1 _ (List.mem_singleton_self _)
    (.inl ⟨_, List.mem_singleton_self _, rfl, rfl⟩)⟩

end CoreApi.Compensation
