import CoreApi.Foundation.Custody
import CoreApi.Outbox.JobQueue
import CoreApi.Outbox.StreamOrder

/-!
# Every event is delivered at least once

An event stays in the outbox until it has reached the broker. Whatever crashes,
is lost or is taken back, from any state on one instance can deliver every event
that has not been dead-lettered.
-/

namespace CoreApi.Outbox

open PrismaOutboxRepository

/-- An instance is at work on appended events, and marks one as processed only when it has reached
the broker. -/
def Publisher.Known (state : OutboxState) : Publisher → Prop
  | .claimed _ => True
  | .publishing batch => events batch ⊆ state.appended
  | .marking succeeded event rest => event.toOutboxEvent ∈ state.appended ∧
      (succeeded → event.toOutboxEvent ∈ state.published) ∧ events rest ⊆ state.appended

/-- Every appended event is published or has its row, and publishers hold appended events only. -/
structure Delivers (state : OutboxState) : Prop where
  custody : Custody OutboxEvent.id OutboxRow.toOutboxEvent (fun row => row.status = .processed)
    state.appended state.rows state.published
  publishers : ∀ instanceId, (state.publisher instanceId).Known state

variable {state next : OutboxState} {label : OutboxLabel} {maxAttempts batchSize : ℕ}

theorem Publisher.Known.mono {publisher : Publisher} (known : publisher.Known state)
    (appended : state.appended ⊆ next.appended) (published : state.published ⊆ next.published) :
    publisher.Known next := by
  cases publisher with
  | claimed ids => trivial
  | publishing batch => exact fun _ member => appended (known member)
  | marking succeeded event rest =>
      exact ⟨appended known.1, fun success => published (known.2.1 success),
        fun _ member => appended (known.2.2 member)⟩

/-- The table changes, and the instances stay as they are. -/
theorem Delivers.rows (delivers : Delivers state) {rows : List OutboxRow}
    (custody : Custody OutboxEvent.id OutboxRow.toOutboxEvent (fun row => row.status = .processed)
      state.appended rows state.published) : Delivers { state with rows := rows } :=
  ⟨custody, fun instanceId => (delivers.publishers instanceId).mono (fun _ => id) fun _ => id⟩

/-- One instance moves on. -/
theorem Delivers.put (delivers : Delivers state) {instanceId : ℕ} {publisher : Publisher}
    (known : publisher.Known state) : Delivers (state.put instanceId publisher) := by
  refine ⟨delivers.custody, fun other => ?_⟩
  by_cases same : other = instanceId
  · subst same
    have moved : (state.put other publisher).publisher other = publisher := by
      simp [OutboxState.put]
    rw [moved]
    exact known.mono (fun _ => id) fun _ => id
  · have kept : (state.put instanceId publisher).publisher other = state.publisher other := by
      simp [OutboxState.put, same]
    rw [kept]
    exact (delivers.publishers other).mono (fun _ => id) fun _ => id

theorem Delivers.append (delivers : Delivers state) {row : OutboxRow}
    (fresh : ∀ event ∈ state.appended, event.id ≠ row.id) (waiting : row.status ≠ .processed) :
    Delivers { state with
      rows := state.rows ++ [row]
      appended := state.appended ++ [row.toOutboxEvent] } :=
  ⟨delivers.custody.record fresh waiting, fun instanceId =>
    (delivers.publishers instanceId).mono (List.subset_append_left _ _) fun _ => id⟩

/-- An event of a batch reaches the broker. -/
theorem Delivers.publish (delivers : Delivers state) {event : OutboxEvent}
    (member : event ∈ state.appended) :
    Delivers { state with published := state.published ++ [event] } :=
  ⟨delivers.custody.complete member, fun instanceId =>
    (delivers.publishers instanceId).mono (fun _ => id) (List.subset_append_left _ _)⟩

theorem Delivers.of_publishing (delivers : Delivers state) {instanceId : ℕ}
    {event : ClaimedOutboxEvent} {rest : List ClaimedOutboxEvent}
    (next : state.publisher instanceId = .publishing (event :: rest)) :
    event.toOutboxEvent ∈ state.appended ∧ events rest ⊆ state.appended := by
  have known : (Publisher.publishing (event :: rest)).Known state :=
    next ▸ delivers.publishers instanceId
  exact ⟨known List.mem_cons_self, fun _ member => known (List.mem_cons_of_mem _ member)⟩

theorem Delivers.findClaimed_known (delivers : Delivers state) {scan : List OutboxRow}
    {ids : List String} (visits : scan.Perm state.rows) :
    events (findClaimed scan ids) ⊆ state.appended := by
  intro event member
  simp only [events, findClaimed, List.map_map, List.mem_map] at member
  rcases member with ⟨row, sorted, rfl⟩
  have filtered := mem_byCreatedAt.mp sorted
  exact delivers.custody.stored row (visits.mem_iff.mp (List.mem_of_mem_filter filtered))

theorem Delivers.markProcessed_rows (delivers : Delivers state) {event : OutboxEvent}
    (published : event ∈ state.published) (appended : event ∈ state.appended) (now : ℤ) :
    Delivers { state with rows := markProcessed state.rows event.id now } := by
  refine delivers.rows (delivers.custody.map_rows ?_ ?_)
  · intro row
    split <;> rfl
  · intro row stored status
    split at status
    · next same =>
        have row_eq := delivers.custody.entry_of_key (delivers.custody.stored row stored) appended
          same
        exact .inr (row_eq ▸ published)
    · exact .inl status

theorem Delivers.step (delivers : Delivers state)
    (move : OutboxStep maxAttempts batchSize state label next) : Delivers next := by
  cases move with
  | append fresh => exact delivers.append fresh nofun
  | @claim instanceId scan locked ids now idle visits selected =>
      have claimed : Delivers { state with rows := claim state.rows ids now } := by
        refine delivers.rows (delivers.custody.map_rows ?_ ?_)
        · intro row
          split <;> rfl
        · intro row _ status
          split at status
          · cases status
          · exact .inl status
      exact claimed.put trivial
  | findClaimed claimed visits => exact delivers.put (delivers.findClaimed_known visits)
  | publish next =>
      rcases delivers.of_publishing next with ⟨event, rest⟩
      exact (delivers.publish event).put
        ⟨event, fun _ => List.mem_append_right _ (List.mem_singleton_self _), rest⟩
  | publishFailed next =>
      rcases delivers.of_publishing next with ⟨event, rest⟩
      exact delivers.put ⟨event, nofun, rest⟩
  | publishUnconfirmed next =>
      rcases delivers.of_publishing next with ⟨event, rest⟩
      exact (delivers.publish event).put ⟨event, nofun, rest⟩
  | @markProcessed instanceId event rest now succeeded =>
      have known : (Publisher.marking true event rest).Known state :=
        succeeded ▸ delivers.publishers instanceId
      exact (delivers.markProcessed_rows (known.2.1 rfl) known.1 now).put known.2.2
  | @markFailed instanceId event rest error failed =>
      have known : (Publisher.marking false event rest).Known state :=
        failed ▸ delivers.publishers instanceId
      have marked : Delivers { state with
          rows := markFailed state.rows event.id event.attempts error maxAttempts } := by
        refine delivers.rows (delivers.custody.map_rows ?_ ?_)
        · intro row
          split <;> rfl
        · intro row _ status
          split at status
          · simp only at status
            split at status <;> cases status
          · exact .inl status
      exact marked.put known.2.2
  | @markLost instanceId succeeded event rest marking =>
      have known : (Publisher.marking succeeded event rest).Known state :=
        marking ▸ delivers.publishers instanceId
      exact delivers.put known.2.2
  | crash => exact delivers.put (List.nil_subset _)
  | reap =>
      refine delivers.rows (delivers.custody.map_rows ?_ ?_)
      · intro row
        split <;> rfl
      · intro row _ status
        split at status
        · cases status
        · exact .inl status
  | purge =>
      refine delivers.rows (delivers.custody.filter_rows ?_)
      intro row _ deleted
      simp only [decide_eq_false_iff_not, not_not] at deleted
      exact deleted.1

theorem delivers_of_reachable (reached : (outbox maxAttempts batchSize).Reachable state) :
    Delivers state := by
  refine reached.invariant Delivers ?_ ?_
  · rintro start ⟨rows, appended, published, idle⟩
    refine ⟨?_, fun instanceId => ?_⟩
    · rw [rows, appended, published]
      exact .empty
    · rw [idle]
      exact List.nil_subset _
  · intro before label after _ delivers move
    exact delivers.step move

section Drain

/-- What a batch that is published leaves of a row. -/
def delivered (ids : List String) (row : OutboxRow) : OutboxRow :=
  if row.id ∈ ids then { row with status := .processed, processedAt := some 0, claimedAt := none }
  else row

/-- The rows that wait for a publisher. -/
def pending (rows : List OutboxRow) : List OutboxRow :=
  rows.filter fun row => row.status = .pending

variable {instanceId : ℕ}

theorem publisher_put (state : OutboxState) (instanceId : ℕ) (publisher : Publisher) :
    (state.put instanceId publisher).publisher instanceId = publisher := by
  simp [OutboxState.put]

/-- An instance may publish the next event of its batch and mark it. -/
theorem leads_publish {event : ClaimedOutboxEvent} {rest : List ClaimedOutboxEvent}
    (publishing : state.publisher instanceId = .publishing (event :: rest)) :
    ∃ next, (outbox maxAttempts batchSize).Leads state next ∧
      next.publisher instanceId = .publishing rest ∧ next.appended = state.appended ∧
      next.rows = markProcessed state.rows event.id 0 := by
  have published : (outbox maxAttempts batchSize).Step state (.publish instanceId) _ :=
    .publish publishing
  have marked : (outbox maxAttempts batchSize).Step _ (.mark instanceId) _ :=
    @OutboxStep.markProcessed _ _ { state.put instanceId (.marking true event rest) with
      published := state.published ++ [event.toOutboxEvent] } instanceId event rest 0
      (publisher_put _ _ _)
  exact ⟨_, .head ⟨_, published⟩ (.single ⟨_, marked⟩), publisher_put _ _ _, rfl, rfl⟩

/-- An instance may publish its whole batch. -/
theorem leads_batch {batch : List ClaimedOutboxEvent}
    (publishing : state.publisher instanceId = .publishing batch) :
    ∃ next, (outbox maxAttempts batchSize).Leads state next ∧
      next.publisher instanceId = .publishing [] ∧ next.appended = state.appended ∧
      next.rows = state.rows.map (delivered (batch.map fun event => event.id)) := by
  induction batch generalizing state with
  | nil =>
      refine ⟨state, .refl, publishing, rfl, ?_⟩
      exact (List.map_id'' (fun row => by simp [delivered]) _).symm
  | cons event rest ih =>
      rcases @leads_publish _ maxAttempts batchSize _ _ _ publishing with
        ⟨middle, leads, publishing, appended, marked⟩
      rcases ih publishing with ⟨next, leads', idle, appended', rows⟩
      refine ⟨next, leads.trans leads', idle, appended'.trans appended, ?_⟩
      rw [rows, marked, markProcessed, List.map_map]
      refine List.map_congr_left fun row _ => ?_
      by_cases named : row.id = event.id <;>
        by_cases later : row.id ∈ rest.map (fun event => event.id) <;> simp_all [delivered]

theorem mem_findClaimed_ids {rows : List OutboxRow} {ids : List String} {id : String} :
    id ∈ (findClaimed (claim rows ids 0) ids).map (fun event => event.id) ↔
      id ∈ ids ∧ ∃ row ∈ rows, row.id = id := by
  have kept : ∀ row : OutboxRow, (if row.id ∈ ids then
      { row with status := .inflight, claimedAt := some 0 } else row).id = row.id := by
    intro row
    split <;> rfl
  simp only [findClaimed, claim, List.map_map, List.mem_map, mem_byCreatedAt, List.mem_filter,
    decide_eq_true_eq]
  constructor
  · rintro ⟨changed, ⟨⟨row, stored, rfl⟩, taken⟩, rfl⟩
    exact ⟨taken, row, stored, (kept row).symm⟩
  · rintro ⟨taken, row, stored, rfl⟩
    exact ⟨_, ⟨⟨row, stored, rfl⟩, (kept row).symm ▸ taken⟩, kept row⟩

/-- What a claim whose batch is published leaves of the table. -/
theorem claim_delivered (rows : List OutboxRow) (ids : List String) :
    (claim rows ids 0).map
        (delivered ((findClaimed (claim rows ids 0) ids).map fun event => event.id)) =
      rows.map (delivered ids) := by
  have batch := fun id => @mem_findClaimed_ids rows ids id
  generalize (findClaimed (claim rows ids 0) ids).map (fun event => event.id) = found at batch ⊢
  rw [claim, List.map_map]
  refine List.map_congr_left fun row stored => ?_
  by_cases taken : row.id ∈ ids
  · have among := (batch row.id).mpr ⟨taken, row, stored, rfl⟩
    simp [taken, delivered, among]
  · have other : row.id ∉ found := fun among => taken ((batch row.id).mp among).1
    simp [taken, delivered, other]

/-- An idle instance may claim the oldest pending rows and publish them all. -/
theorem leads_poll (idle : state.publisher instanceId = .publishing []) :
    ∃ next, (outbox maxAttempts batchSize).Leads state next ∧
      next.publisher instanceId = .publishing [] ∧ next.appended = state.appended ∧
      next.rows = state.rows.map (delivered
        ((selectPending state.rows batchSize fun _ => false).map fun row => row.id)) := by
  generalize chosen : (selectPending state.rows batchSize fun _ => false).map
    (fun row => row.id) = ids
  have claimed : (outbox maxAttempts batchSize).Step state
      (.claim instanceId state.rows fun _ => false) _ :=
    @OutboxStep.claim _ _ _ _ _ _ ids 0 idle (.refl _) chosen.symm
  have found : (outbox maxAttempts batchSize).Step _ (.findClaimed instanceId) _ :=
    @OutboxStep.findClaimed _ _ { state.put instanceId (.claimed ids) with
      rows := claim state.rows ids 0 } instanceId ids (claim state.rows ids 0)
      (publisher_put _ _ _) (.refl _)
  rcases @leads_batch _ maxAttempts batchSize _ _ (publisher_put { state.put instanceId
      (.claimed ids) with rows := claim state.rows ids 0 } instanceId
      (.publishing (findClaimed (claim state.rows ids 0) ids))) with
    ⟨next, leads, idle, appended, rows⟩
  exact ⟨next, .head ⟨_, claimed⟩ (.head ⟨_, found⟩ leads), idle, appended,
    rows.trans (claim_delivered _ _)⟩

/-- The rows of a poll that finds pending rows are fewer afterwards. -/
theorem pending_delivered_lt {rows : List OutboxRow} (positive : 0 < batchSize)
    (waiting : pending rows ≠ []) :
    (pending (rows.map (delivered
      ((selectPending rows batchSize fun _ => false).map fun row => row.id)))).length <
        (pending rows).length := by
  generalize chosen : (selectPending rows batchSize fun _ => false).map (fun row => row.id) = ids
  have left : pending (rows.map (delivered ids)) =
      ((pending rows).filter fun row => row.id ∉ ids).map (delivered ids) := by
    rw [pending, pending, List.filter_map, List.filter_filter]
    congr 1
    refine List.filter_congr fun row _ => ?_
    by_cases taken : row.id ∈ ids <;> simp [delivered, taken]
  rw [left, List.length_map, List.length_filter_lt_length_iff_exists]
  have candidates : rows.filter
      (fun row => row.status = .pending ∧ ¬ (fun _ => false) row.id = true) = pending rows := by
    simp [pending]
  have first : 0 < (selectPending rows batchSize fun _ => false).length := by
    rw [selectPending, candidates, List.length_take, byCreatedAt, List.length_insertionSort]
    exact lt_min positive (List.length_pos_iff.mpr waiting)
  rcases List.length_pos_iff_exists_mem.mp first with ⟨row, selected⟩
  have stored := mem_selectPending selected
  refine ⟨row, List.mem_filter.mpr ⟨stored.1, by simp [stored.2]⟩, ?_⟩
  rw [← chosen]
  simpa using ⟨row, selected, rfl⟩

/-- Where nothing is in flight, an idle instance may publish every pending row. -/
theorem leads_drained (positive : 0 < batchSize)
    (idle : state.publisher instanceId = .publishing [])
    (landed : ∀ row ∈ state.rows, row.status ≠ .inflight) :
    ∃ next, (outbox maxAttempts batchSize).Leads state next ∧ next.appended = state.appended ∧
      ∀ row ∈ next.rows, row.status = .processed ∨ row.status = .failedDlq ∧ row ∈ state.rows := by
  generalize size : (pending state.rows).length = count
  induction count using Nat.strong_induction_on generalizing state with
  | _ count ih =>
      by_cases waiting : pending state.rows = []
      · refine ⟨state, .refl, rfl, fun row stored => ?_⟩
        cases status : row.status with
        | processed => exact .inl rfl
        | failedDlq => exact .inr ⟨rfl, stored⟩
        | inflight => exact absurd status (landed row stored)
        | pending =>
            have among : row ∈ pending state.rows :=
              List.mem_filter.mpr ⟨stored, by simp [status]⟩
            rw [waiting] at among
            cases among
      · rcases @leads_poll _ maxAttempts batchSize _ idle with
          ⟨middle, leads, idle', appended, rows⟩
        have fewer := pending_delivered_lt positive waiting
        rw [← rows, size] at fewer
        have kept : ∀ row ∈ middle.rows, row.status = .processed ∨ row ∈ state.rows := by
          intro changed member
          rw [rows] at member
          rcases List.mem_map.mp member with ⟨row, stored, rfl⟩
          rw [delivered]
          split
          · exact .inl rfl
          · exact .inr stored
        have landed' : ∀ row ∈ middle.rows, row.status ≠ .inflight := by
          intro row member
          rcases kept row member with processed | stored
          · simp [processed]
          · exact landed row stored
        rcases ih _ fewer idle' landed' rfl with ⟨next, leads', appended', settled⟩
        refine ⟨next, leads.trans leads', appended'.trans appended, fun row member => ?_⟩
        rcases settled row member with processed | ⟨dead, stored⟩
        · exact .inl processed
        · rcases kept row stored with processed | stored
          · exact .inl processed
          · exact .inr ⟨dead, stored⟩

/-- A reaper that is late enough takes every claim back. -/
theorem exists_cutoff (rows : List OutboxRow) :
    ∃ cutoff, ∀ row ∈ rows, ∀ claimedAt, row.claimedAt = some claimedAt → claimedAt < cutoff := by
  induction rows with
  | nil => exact ⟨0, nofun⟩
  | cons row rest ih =>
      rcases ih with ⟨cutoff, later⟩
      refine ⟨max cutoff (row.claimedAt.getD 0 + 1), ?_⟩
      intro other member claimedAt claimed
      rcases List.mem_cons.mp member with rfl | member
      · simp only [claimed, Option.getD_some]
        omega
      · have := later other member claimedAt claimed
        omega

/-- From any state on, an instance may deliver all that is not dead-lettered. -/
theorem leads_delivered (reached : (outbox maxAttempts batchSize).Reachable state)
    (positive : 0 < batchSize) :
    ∃ later, (outbox maxAttempts batchSize).Leads state later ∧ later.appended = state.appended ∧
      ∀ event ∈ state.appended, event ∈ later.published ∨
        ∃ row ∈ state.rows, row.toOutboxEvent = event ∧ row.status = .failedDlq := by
  rcases exists_cutoff state.rows with ⟨cutoff, late⟩
  have crashed : (outbox maxAttempts batchSize).Step state (.crash 0) _ := .crash
  have reaped : (outbox maxAttempts batchSize).Step _ .reap _ :=
    @OutboxStep.reap _ _ (state.put 0 (.publishing [])) cutoff
  have leased : ∀ row ∈ state.rows, row.status = .inflight ↔ row.claimedAt.isSome := by
    intro row stored
    simpa [OutboxRow.job] using
      (shows_queue.sound queue_initial reached).leased row.job (List.mem_map_of_mem stored)
  have landed : ∀ row ∈ reapStaleInflight state.rows cutoff, row.status ≠ .inflight ∧
      (row.status = .failedDlq → row ∈ state.rows) := by
    intro changed member
    rcases List.mem_map.mp member with ⟨row, stored, rfl⟩
    split
    · simp
    · next kept =>
        refine ⟨fun inflight => kept ⟨inflight, ?_⟩, fun _ => stored⟩
        rcases Option.isSome_iff_exists.mp ((leased row stored).mp inflight) with
          ⟨claimedAt, claimed⟩
        simp [claimed, late row stored claimedAt claimed]
  rcases @leads_drained { state.put 0 (.publishing []) with
      rows := reapStaleInflight state.rows cutoff } maxAttempts batchSize 0 positive
    (publisher_put state 0 _) (fun row member => (landed row member).1) with
    ⟨later, leads, appended, settled⟩
  have leads := Relation.ReflTransGen.head ⟨_, crashed⟩ (.head ⟨_, reaped⟩ leads)
  refine ⟨later, leads, appended, fun event member => ?_⟩
  by_contra lost
  rcases not_or.mp lost with ⟨unpublished, alive⟩
  have custody := (delivers_of_reachable (reached.leads leads)).custody
  rcases custody.held (appended ▸ member) unpublished with ⟨row, stored, rfl, unprocessed⟩
  rcases settled row stored with processed | ⟨dead, stored'⟩
  · exact unprocessed processed
  · exact alive ⟨row, (landed row stored').2 dead, rfl, dead⟩

end Drain

/-- Only appended events reach the broker, and an appended event that has not is held by a row
that is not processed. Whatever has happened, an instance can from then on deliver every event that
is not dead-lettered. -/
theorem no_event_lost (positive : 0 < batchSize)
    (reached : (outbox maxAttempts batchSize).Reachable state) :
    state.published ⊆ state.appended ∧
    (∀ event ∈ state.appended, event ∉ state.published →
      ∃ row ∈ state.rows, row.toOutboxEvent = event ∧ row.status ≠ .processed) ∧
    ∃ later, (outbox maxAttempts batchSize).Leads state later ∧ later.appended = state.appended ∧
      ∀ event ∈ state.appended, event ∈ later.published ∨
        ∃ row ∈ state.rows, row.toOutboxEvent = event ∧ row.status = .failedDlq := by
  have custody := (delivers_of_reachable reached).custody
  exact ⟨custody.known, fun _ => custody.held, leads_delivered reached positive⟩

/-- Both events are claimed, and none of them has reached the broker. -/
theorem no_event_lost_claimed : ∃ state later, (outbox 5 50).Leads state later ∧
    state.published = [] ∧ followCreated.toOutboxEvent ∈ later.published := by
  have reached := (reachable_batch (fun _ _ => True) (fun _ => trivial) trivial
    fun _ => trivial).of_restrict
  rcases (no_event_lost (by decide) reached).2.2 with ⟨later, leads, -, delivered⟩
  refine ⟨_, later, leads, rfl, ?_⟩
  rcases delivered followCreated.toOutboxEvent List.mem_cons_self with
    published | ⟨row, stored, -, dead⟩
  · exact published
  · have inflight : ∀ row ∈ claim [followCreated, followRemoved] ["1", "2"] 3,
        row.status = .inflight := by decide
    cases (inflight row stored).symm.trans dead

end CoreApi.Outbox
