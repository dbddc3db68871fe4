import CoreApi.Compensation.NoLoss
import CoreApi.Outbox.JobQueue

/-!
# Settled rows

A row that is done or dead-lettered keeps its status, and its attempts do not go
back, as long as every mark finds its row as the worker left it or further on in
the same direction. A worker that is still running after its claim was taken
back marks a row that another worker has settled, and nothing in the code sees
to that.
-/

namespace CoreApi.Compensation

open ClaimQueue PrismaSagaCompensationRepository

variable {registered : String → Bool} {maxAttempts pollBatchSize batchSize : ℕ}

/-- In every run of either store whose marks are in time, a settled row has the same status ever
after, and the attempts of a row never decrease. -/
theorem settled_rows_final :
    (∀ state next row later,
      (sagaCompensations registered maxAttempts pollBatchSize).Reachable state →
      ((sagaCompensations registered maxAttempts pollBatchSize).restrict
        (MarkInTime maxAttempts)).Leads state next →
      row ∈ state.rows → later ∈ next.rows → later.id = row.id →
      (row.status = .done ∨ row.status = .failedDlq → later.status = row.status) ∧
        row.attempts ≤ later.attempts) ∧
    (∀ state next row later, (Outbox.outbox maxAttempts batchSize).Reachable state →
      (Outbox.timelyOutbox maxAttempts batchSize).Leads state next →
      row ∈ state.rows → later ∈ next.rows → later.id = row.id →
      (row.status = .processed ∨ row.status = .failedDlq → later.status = row.status) ∧
        row.attempts ≤ later.attempts) := by
  constructor
  · intro state next row later reached leads member member' same
    have steps : ∀ before label after, ((sagaCompensations registered maxAttempts
        pollBatchSize).restrict (MarkInTime maxAttempts)).Step before label after →
        (sagaCompensations registered maxAttempts pollBatchSize).Step before label after ∧
          MarkInTime maxAttempts before label := fun _ _ _ move => ⟨move.2, move.1⟩
    have onward : row.job.Onward later.job := shows_queue.onward queue_initial steps reached leads
      (List.mem_map_of_mem member) (List.mem_map_of_mem member') same
    refine ⟨fun settled => ?_, onward.2⟩
    refine SagaCompensationStatus.job_injective (onward.1 ?_)
    simpa [JobStatus.Settled, SagaCompensationRow.job] using settled
  · intro state next row later reached leads member member' same
    have onward : row.job.Onward later.job := Outbox.shows_queue.onward Outbox.queue_initial
      (fun _ _ _ move => move) reached leads (List.mem_map_of_mem member)
      (List.mem_map_of_mem member') same
    refine ⟨fun settled => ?_, onward.2⟩
    refine Outbox.OutboxStatus.job_injective (onward.1 ?_)
    simpa [JobStatus.Settled, Outbox.OutboxRow.job] using settled

/-- The row of an event that was appended. -/
def orgCreated : Outbox.OutboxRow :=
  Outbox.PrismaOutboxWriter.append "1" 1 none ⟨"Org", "org", "OrgCreated", "org", .object []⟩

/-- The run fails and is marked before anyone takes the claim back; and a pending event is
claimed. -/
theorem settled_rows_final_retried :
    (∃ row ∈ claim [stalled] ["1"] 2,
      ∃ later ∈ markFailed (claim [stalled] ["1"] 2) "1" 0 "Error: timeout" 5,
        later.status = .pending ∧ row.attempts ≤ later.attempts) ∧
    ∃ later ∈ Outbox.PrismaOutboxRepository.claim [orgCreated] ["1"] 2,
      later.status = .inflight ∧ orgCreated.attempts ≤ later.attempts := by
  constructor
  · have run : ((sagaCompensations (fun _ => true) 5 20).restrict (MarkInTime 5)).Leads
        (stalledState (claim [stalled] ["1"] 2) (.running [stalled.claimed]) (.running []) [])
        (stalledState (markFailed (claim [stalled] ["1"] 2) "1" 0 "Error: timeout" 5)
          (.running []) (.running []) []) := by
      have failed := @CompensationStep.runFailed (fun _ => true) 5 20 (stalledState
        (claim [stalled] ["1"] 2) (.running [stalled.claimed]) (.running []) []) 0 stalled.claimed
        [] "Error: timeout" rfl rfl
      have marked := @CompensationStep.markFailed (fun _ => true) 5 20 (stalledState
        (claim [stalled] ["1"] 2) (.failed stalled.claimed "Error: timeout" []) (.running []) []) 0
        stalled.claimed "Error: timeout" [] rfl ⟨_, List.mem_singleton_self _, rfl⟩
      simp only [put_first] at failed marked
      refine .tail (.single ⟨.run 0, trivial, failed⟩) ⟨.markFailed 0, ?_, marked⟩
      rintro row error rest same stored member -
      cases same
      rw [List.mem_singleton.mp member]
      exact ⟨by decide, by decide, by decide⟩
    exact ⟨_, List.mem_singleton_self _, _, List.mem_singleton_self _, rfl,
      ((@settled_rows_final (fun _ => true) 5 20 50).1 _ _ _ _ (reachable_claimed 5) run
        (List.mem_singleton_self _) (List.mem_singleton_self _) rfl).2⟩
  · have start : (Outbox.outbox 5 50).Reachable ⟨[], fun _ => .publishing [], [], []⟩ :=
      .initial ⟨rfl, rfl, rfl, fun _ => rfl⟩
    have appended := start.step (@Outbox.OutboxStep.append 5 50 _ "1" 1 none
      ⟨"Org", "org", "OrgCreated", "org", .object []⟩ (by simp))
    have claimed := @Outbox.OutboxStep.claim 5 50 ⟨[orgCreated], fun _ => .publishing [],
      [orgCreated.toOutboxEvent], []⟩ 0 [orgCreated] (fun _ => false) ["1"] 2 rfl (.refl _) rfl
    exact ⟨_, List.mem_singleton_self _, rfl,
      ((@settled_rows_final (fun _ => true) 5 20 50).2 _ _ orgCreated _
        appended (.single ⟨.claim 0 [orgCreated] fun _ => false, claimed, .inr trivial⟩)
        (List.mem_singleton_self _) (List.mem_singleton_self _) rfl).2⟩

/-- The first instance goes on after that; its runner fails, and it puts the row that is done back
to pending. -/
theorem done_row_pending :
    ∃ state next, (sagaCompensations (fun _ => true) 5 20).Reachable state ∧
      (sagaCompensations (fun _ => true) 5 20).Leads state next ∧
      ∃ row ∈ state.rows, ∃ later ∈ next.rows,
        later.id = row.id ∧ row.status = .done ∧ later.status = .pending := by
  have failed : (sagaCompensations (fun _ => true) 5 20).Step
      (stalledState doneRows (.running [stalled.claimed]) (.running [])
        [stalled.toSagaCompensation])
      (.run 0) (stalledState doneRows (.failed stalled.claimed "Error: timeout" []) (.running [])
        [stalled.toSagaCompensation]) := by
    have failed := @CompensationStep.runFailed (fun _ => true) 5 20 (stalledState doneRows
      (.running [stalled.claimed]) (.running []) [stalled.toSagaCompensation]) 0 stalled.claimed []
      "Error: timeout" rfl rfl
    simp only [put_first] at failed
    exact failed
  have marked : (sagaCompensations (fun _ => true) 5 20).Step
      (stalledState doneRows (.failed stalled.claimed "Error: timeout" []) (.running [])
        [stalled.toSagaCompensation])
      (.markFailed 0) (stalledState (markFailed doneRows "1" 0 "Error: timeout" 5) (.running [])
        (.running []) [stalled.toSagaCompensation]) := by
    have marked := @CompensationStep.markFailed (fun _ => true) 5 20 (stalledState doneRows
      (.failed stalled.claimed "Error: timeout" []) (.running []) [stalled.toSagaCompensation]) 0
      stalled.claimed "Error: timeout" [] rfl ⟨_, List.mem_singleton_self _, rfl⟩
    simp only [put_first] at marked
    exact marked
  exact ⟨_, _, reachable_done, (Relation.ReflTransGen.single ⟨_, failed⟩).tail ⟨_, marked⟩,
    _, List.mem_singleton_self _, _, List.mem_singleton_self _, rfl, rfl, rfl⟩

end CoreApi.Compensation
