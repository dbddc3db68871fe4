import CoreApi.Compensation.Reaper
import CoreApi.Foundation.Loop

/-!
# One poll of the reaper

A poll works on the rows of its batch one after another. What the registry, the
runner or `markProcessed` throws is caught for each row; what `markFailed`
throws in that handler is not, and ends the poll.
-/

namespace CoreApi.Compensation.SagaCompensationReaperService

/-- What the calls for a row throw, if they throw. The registry throws by itself, for a type that
nothing is registered for. -/
structure RowFaults where
  runner : Option String
  markProcessed : Option String
  markFailed : Option String

/-- What a poll calls for a row, by the id of the row. -/
inductive PollCall where
  | get (id actionType : String)
  | run (id : String) (payload : Json)
  | markProcessed (id : String)
  | markFailed (id : String) (currentAttempts : ℕ) (error : String) (maxAttempts : ℕ)

/-- A computation of a poll, which keeps the calls it has made. -/
abbrev PollM := EStateM String (List PollCall)

variable (registered : String → Bool) (maxAttempts : ℕ)

/-- What `get` throws for a row. -/
def lookup (row : ClaimedSagaCompensation) : Option String :=
  if registered row.actionType then none
  else some (SagaCompensationRegistry.noRunner row.actionType)

/-- The body of the loop. -/
def pollRow (row : ClaimedSagaCompensation) (faults : RowFaults) : PollM Unit :=
  try
    Loop.logged (.get row.id row.actionType) (lookup registered row)
    Loop.logged (.run row.id row.payload) faults.runner
    Loop.logged (.markProcessed row.id) faults.markProcessed
  catch error =>
    Loop.logged (.markFailed row.id row.attempts error maxAttempts) faults.markFailed

/-- The answer tells whether the job registry records a success. -/
def poll (claimPendingBatch : PollM (List (ClaimedSagaCompensation × RowFaults))) : PollM Bool :=
  try
    let rows ← claimPendingBatch
    if rows.isEmpty then pure true
    else
      rows.forM fun entry => pollRow registered maxAttempts entry.1 entry.2
      pure true
  catch _ =>
    pure false

/-- The calls of a poll of a batch. -/
def pollCalls (batch : List (ClaimedSagaCompensation × RowFaults)) : List PollCall :=
  match poll registered maxAttempts (pure batch) [] with
  | .ok _ calls => calls
  | .error _ calls => calls

/-- The rows whose runner a poll looks up. -/
def attempted (calls : List PollCall) : List String :=
  calls.filterMap fun call =>
    match call with
    | .get id _ => some id
    | _ => none

/-- The rows whose runner a poll runs. -/
def ran (calls : List PollCall) : List String :=
  calls.filterMap fun call =>
    match call with
    | .run id _ => some id
    | _ => none

/-- What the handler of a row catches. -/
def caught (entry : ClaimedSagaCompensation × RowFaults) : Option String :=
  lookup registered entry.1 <|> entry.2.runner <|> entry.2.markProcessed

/-- What leaves the handler of a row. -/
def thrown (entry : ClaimedSagaCompensation × RowFaults) : Option String :=
  (caught registered entry).bind fun _ => entry.2.markFailed

/-- The calls for a row. -/
def rowCalls (entry : ClaimedSagaCompensation × RowFaults) : List PollCall :=
  let row := entry.1
  [.get row.id row.actionType] ++
    (if registered row.actionType then
      [.run row.id row.payload] ++ if entry.2.runner = none then [.markProcessed row.id] else []
    else []) ++
    ((caught registered entry).map fun error =>
      PollCall.markFailed row.id row.attempts error maxAttempts).toList

theorem pollRow_eq (entry : ClaimedSagaCompensation × RowFaults) (calls : List PollCall) :
    pollRow registered maxAttempts entry.1 entry.2 calls =
      Loop.outcome (thrown registered entry)
        (calls ++ rowCalls registered maxAttempts entry) := by
  rcases entry with ⟨row, runner, markProcessed, markFailed⟩
  simp only [pollRow, Loop.tryCatch_run, Loop.bind_run, Loop.logged_eq, thrown, caught, rowCalls,
    lookup]
  cases known : registered row.actionType <;> cases runner <;> cases markProcessed <;>
    simp [Loop.outcome]

/-- A poll makes the calls of the rows up to and including the first one that its handler does
not contain. -/
theorem pollCalls_eq (batch : List (ClaimedSagaCompensation × RowFaults)) :
    pollCalls registered maxAttempts batch =
      (Loop.visited (fun entry => (thrown registered entry).isSome) batch).flatMap
        (rowCalls registered maxAttempts) := by
  cases batch with
  | nil => rfl
  | cons entry rest =>
      have looped := Loop.forM_eq (pollRow_eq registered maxAttempts) (entry :: rest) []
      rw [List.foldl_append_eq_append, List.nil_append, ← List.flatMap_def] at looped
      simp only [pollCalls, poll, Loop.tryCatch_run, Loop.bind_run, pure, EStateM.pure,
        List.isEmpty_cons, Bool.false_eq_true, if_false, looped]
      cases (entry :: rest).findSome? (thrown registered) <;> rfl

theorem attempted_rowCalls (entry : ClaimedSagaCompensation × RowFaults) :
    attempted (rowCalls registered maxAttempts entry) = [entry.1.id] := by
  simp only [attempted, rowCalls]
  cases registered entry.1.actionType <;> cases entry.2.runner <;>
    cases caught registered entry <;> rfl

theorem ran_rowCalls (entry : ClaimedSagaCompensation × RowFaults) :
    ran (rowCalls registered maxAttempts entry) =
      if registered entry.1.actionType then [entry.1.id] else [] := by
  simp only [ran, rowCalls]
  cases registered entry.1.actionType <;> cases entry.2.runner <;>
    cases caught registered entry <;> rfl

theorem attempted_pollCalls (batch : List (ClaimedSagaCompensation × RowFaults)) :
    attempted (pollCalls registered maxAttempts batch) =
      (Loop.visited (fun entry => (thrown registered entry).isSome) batch).map
        fun entry => entry.1.id := by
  rw [pollCalls_eq, attempted, List.filterMap_flatMap, List.map_eq_flatMap]
  exact congrArg (List.flatMap · _) (funext (attempted_rowCalls registered maxAttempts))

theorem ran_pollCalls (batch : List (ClaimedSagaCompensation × RowFaults)) :
    ran (pollCalls registered maxAttempts batch) =
      ((Loop.visited (fun entry => (thrown registered entry).isSome) batch).filter
        fun entry => registered entry.1.actionType).map fun entry => entry.1.id := by
  rw [pollCalls_eq, ran, List.filterMap_flatMap]
  refine (congrArg (List.flatMap · _) (funext (ran_rowCalls registered maxAttempts))).trans ?_
  induction Loop.visited (fun entry => (thrown registered entry).isSome) batch with
  | nil => rfl
  | cons entry rest ih =>
      rw [List.flatMap_cons, ih]
      cases known : registered entry.1.actionType <;> simp [known]

/-- The handler contains a row whose attempt goes through, or whose failure it can mark. -/
theorem thrown_eq_none (entry : ClaimedSagaCompensation × RowFaults) :
    thrown registered entry = none ↔
      (registered entry.1.actionType ∧ entry.2.runner = none ∧ entry.2.markProcessed = none) ∨
        entry.2.markFailed = none := by
  rcases entry with ⟨row, runner, markProcessed, markFailed⟩
  simp only [thrown, caught, lookup]
  cases registered row.actionType <;> cases runner <;> cases markProcessed <;>
    cases markFailed <;> simp

/-- A poll attempts every row of its batch once, and runs every runner there is, if and only if
for no row but the last both the attempt and the mark of its failure throw. -/
theorem poll_attempts_all_iff
    (batch : List (ClaimedSagaCompensation × RowFaults)) :
    attempted (pollCalls registered maxAttempts batch) = batch.map (fun entry => entry.1.id) ∧
        ran (pollCalls registered maxAttempts batch) =
          (batch.filter fun entry => registered entry.1.actionType).map
            (fun entry => entry.1.id) ↔
      ∀ entry ∈ batch.dropLast,
        (registered entry.1.actionType ∧ entry.2.runner = none ∧ entry.2.markProcessed = none) ∨
          entry.2.markFailed = none := by
  have everything : (∀ entry ∈ batch.dropLast,
      (registered entry.1.actionType ∧ entry.2.runner = none ∧ entry.2.markProcessed = none) ∨
        entry.2.markFailed = none) ↔
      Loop.visited (fun entry => (thrown registered entry).isSome) batch = batch := by
    simp only [Loop.visited_eq_iff, ← thrown_eq_none, Option.isSome_eq_false_iff,
      Option.isNone_iff_eq_none]
  rw [everything, attempted_pollCalls, ran_pollCalls]
  constructor
  · rintro ⟨attempts, -⟩
    have lengths := congrArg List.length attempts
    rw [List.length_map, List.length_map] at lengths
    exact (Loop.visited_initial _ batch).eq_of_length lengths
  · intro all
    rw [all]
    exact ⟨rfl, rfl⟩

/-- The compensation whose run fails in the example. -/
def failing : ClaimedSagaCompensation := ⟨⟨"1", "AskAiCommand", "archive-org", .null, 0⟩, 0⟩

/-- The compensation claimed after the failing one. -/
def waiting : ClaimedSagaCompensation := ⟨⟨"2", "AskAiCommand", "archive-org", .null, 1⟩, 0⟩

/-- The first row fails and cannot be marked, and the second one is not attempted. -/
theorem poll_stops_at_mark :
    ¬attempted (pollCalls (fun _ => true) 5
      [(failing, ⟨some "Error: timeout", none, some "Error: connection lost"⟩),
        (waiting, ⟨none, none, none⟩)]) = ["1", "2"] := by
  decide

section Run

open PrismaSagaCompensationRepository

variable (pollBatchSize : ℕ) {instanceId : ℕ} {state : CompensationState}

theorem ids_markProcessed (rows : List SagaCompensationRow) (id : String) (now : ℤ) :
    (markProcessed rows id now).map (fun row => row.id) = rows.map fun row => row.id := by
  rw [markProcessed, List.map_map]
  refine List.map_congr_left fun row _ => ?_
  simp only [Function.comp_apply]
  split <;> rfl

theorem ids_markFailed (rows : List SagaCompensationRow) (id : String) (currentAttempts : ℕ)
    (error : String) (maxAttempts : ℕ) :
    (markFailed rows id currentAttempts error maxAttempts).map (fun row => row.id) =
      rows.map fun row => row.id := by
  rw [markFailed, List.map_map]
  refine List.map_congr_left fun row _ => ?_
  simp only [Function.comp_apply]
  split <;> rfl

/-- Whether the runner of a row completes. -/
def completes (registered : String → Bool) (entry : ClaimedSagaCompensation × RowFaults) : Bool :=
  registered entry.1.actionType ∧ entry.2.runner = none

variable {entry : ClaimedSagaCompensation × RowFaults} {rest : List ClaimedSagaCompensation}

/-- The attempt of a row takes the system on with the rest of the batch, or to its handler. -/
theorem leads_attempt (running : state.poll instanceId = .running (entry.1 :: rest))
    (stored : entry.1.id ∈ state.rows.map fun row => row.id) :
    ∃ next, (sagaCompensations registered maxAttempts pollBatchSize).Leads state next ∧
      next.poll instanceId = (caught registered entry).elim (.running rest)
        (fun error => .failed entry.1 error rest) ∧
      next.rows.map (fun row => row.id) = state.rows.map (fun row => row.id) ∧
      next.completed = state.completed ++
        if completes registered entry then [entry.1.toSagaCompensation] else [] := by
  rcases entry with ⟨row, runner, markProcessed, markFailed⟩
  by_cases known : registered row.actionType
  · cases runner with
    | some error =>
        have step : CompensationStep registered maxAttempts pollBatchSize state (.run instanceId)
          (state.put instanceId (.failed row error rest)) := .runFailed running known
        refine ⟨_, .single ⟨_, step⟩, ?_, rfl, ?_⟩
        · simp [CompensationState.put, caught, lookup, known]
        · simp [CompensationState.put, completes]
    | none =>
        have step : CompensationStep registered maxAttempts pollBatchSize state (.run instanceId)
          { state.put instanceId (.completed row rest) with
            completed := state.completed ++ [row.toSagaCompensation] } :=
          .runCompleted running known
        have completed : (state.put instanceId (.completed row rest)).poll instanceId =
            .completed row rest := Function.update_self ..
        cases markProcessed with
        | none =>
            rcases List.mem_map.mp stored with ⟨found, member, same⟩
            refine ⟨_, .tail (.single ⟨_, step⟩) ⟨_, @CompensationStep.markProcessed _ _ _ _ _ row
              rest 0 completed ⟨found, member, same⟩⟩, ?_, ids_markProcessed .., ?_⟩
            · simp [CompensationState.put, caught, lookup, known]
            · simp [CompensationState.put, completes, known]
        | some error =>
            refine ⟨_, .tail (.single ⟨_, step⟩) ⟨_, @CompensationStep.markProcessedLost _ _ _ _ _
              row rest error completed⟩,
              ?_, rfl, ?_⟩
            · simp [CompensationState.put, caught, lookup, known]
            · simp [CompensationState.put, completes, known]
  · have step : CompensationStep registered maxAttempts pollBatchSize state (.run instanceId)
      (state.put instanceId (.failed row
        (SagaCompensationRegistry.noRunner row.actionType) rest)) := .runMissing running known
    refine ⟨_, .single ⟨_, step⟩, ?_, rfl, ?_⟩
    · simp [CompensationState.put, caught, lookup, known]
    · simp [CompensationState.put, completes, known]

/-- What the loop does to one row, the system does in a few steps. -/
theorem leads_pollRow (running : state.poll instanceId = .running (entry.1 :: rest))
    (stored : entry.1.id ∈ state.rows.map fun row => row.id) :
    ∃ next, (sagaCompensations registered maxAttempts pollBatchSize).Leads state next ∧
      next.poll instanceId =
        .running (if (thrown registered entry).isSome then [] else rest) ∧
      next.rows.map (fun row => row.id) = state.rows.map (fun row => row.id) ∧
      next.completed = state.completed ++
        if completes registered entry then [entry.1.toSagaCompensation] else [] := by
  rcases leads_attempt registered maxAttempts pollBatchSize running stored with
    ⟨mid, leads, poll, ids, completed⟩
  cases handled : caught registered entry with
  | none =>
      rw [handled] at poll
      exact ⟨mid, leads, by simpa [thrown, handled] using poll, ids, completed⟩
  | some error =>
      rw [handled] at poll
      cases fault : entry.2.markFailed with
      | none =>
          rw [← ids] at stored
          rcases List.mem_map.mp stored with ⟨found, member, same⟩
          refine ⟨_, leads.tail ⟨_, .markFailed poll ⟨found, member, same⟩⟩, ?_,
            (ids_markFailed ..).trans ids, completed⟩
          simp [CompensationState.put, thrown, handled, fault]
      | some _ =>
          refine ⟨_, leads.tail ⟨_, .markFailedThrown poll⟩, ?_,
            (ids_markFailed ..).trans ids, completed⟩
          simp [CompensationState.put, thrown, handled, fault]

/-- A poll of a batch is a run of the system: it completes the runners it gets to and leaves its
instance idle. -/
theorem leads_poll {batch : List (ClaimedSagaCompensation × RowFaults)}
    (running : state.poll instanceId = .running (batch.map Prod.fst))
    (stored : ∀ entry ∈ batch, entry.1.id ∈ state.rows.map fun row => row.id) :
    ∃ next, (sagaCompensations registered maxAttempts pollBatchSize).Leads state next ∧
      next.poll instanceId = .running [] ∧
      next.completed = state.completed ++
        ((Loop.visited (fun entry => (thrown registered entry).isSome) batch).filter
          (completes registered)).map fun entry => entry.1.toSagaCompensation := by
  induction batch generalizing state with
  | nil => exact ⟨state, .refl, running, by simp [Loop.visited]⟩
  | cons entry rest ih =>
      rcases leads_pollRow registered maxAttempts pollBatchSize running
        (stored entry List.mem_cons_self) with
        ⟨mid, leads, poll, ids, completed⟩
      rw [Loop.visited]
      cases threw : (thrown registered entry).isSome with
      | true =>
          rw [threw] at poll
          refine ⟨mid, leads, poll, ?_⟩
          rw [completed]
          cases done : completes registered entry <;> simp [done]
      | false =>
          rw [threw] at poll
          rcases ih poll (fun other member => by
            rw [ids]
            exact stored other (List.mem_cons_of_mem _ member)) with ⟨next, more, idle, completed'⟩
          refine ⟨next, leads.trans more, idle, ?_⟩
          rw [completed', completed]
          cases done : completes registered entry <;> simp [done]

end Run

end CoreApi.Compensation.SagaCompensationReaperService
