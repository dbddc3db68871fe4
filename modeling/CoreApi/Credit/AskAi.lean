import CoreApi.Credit.Outcome
import CoreApi.Foundation.Saga

/-!
# The AI-query saga

`AskAiHandler` reserves credits, asks the RAG service and then charges for the
answer or releases the hold. The saga runs next to any other commands on any
wallets; of its own reservation id they may only dispatch releases.
-/

namespace CoreApi.Credit

/-- A passage that the search has found. -/
structure RagChunk where
  knowledgeItemId : String
  titleSnapshot : String
  content : String

/-- What the service that answers questions returns. -/
inductive RagQueryOutcome where
  | answered (summary : String) (sources : List RagSource) (chunks : List RagChunk)
  | noResults
  | aiUnavailable (chunks : List RagChunk)

/-- The arguments of `ragQuery.query`. -/
structure RagQuery where
  orgId : String
  question : String
  topK : Number

/-- A passage as the caller sees it when there is no answer; its text is cut to code units. -/
structure FallbackChunk where
  knowledgeItemId : String
  title : String
  snippet : List ℕ

structure AskAiCommand where
  orgId : String
  userId : String
  question : String
  topK : Number

/-- What the handler returns; a question without an answer is charged nothing. -/
structure AskAiResult where
  aiQueryId : Option String
  answer : Option String
  sources : List RagSource
  creditCost : Number
  balance : ℚ

/-- The commands the saga dispatches, each by a client of its own, and everybody else. -/
inductive AskAiClient where
  | reserve
  | commit (answer : String) (sources : List RagSource)
  | release (reason : String)
  | other (index : ℕ)
deriving DecidableEq

/-- The descriptor registered for the compensation reaper. -/
structure ReleaseDescriptor where
  actionType : String
  orgId : String
  userId : String
  reservationId : String
  question : String
  reason : String

/-- What the handler throws. -/
inductive AskAiError where
  | commandFailed (client : AskAiClient)
  | queryRejected
  | aiUnavailable (fallbackChunks : List FallbackChunk)

/-- The saga of a question: it dispatches commands to the wallet, asks the service and registers a
release. -/
abbrev AskAiSaga :=
  Saga AskAiClient CreditReply RagQuery RagQueryOutcome ReleaseDescriptor AskAiError

/-- What `ctx.dispatch<ReleaseCreditReservationResult>` hands to the saga. -/
def CreditReply.asRelease : CreditReply → ReleaseCreditReservationResult
  | .releaseCreditReservation result => result
  | _ => ⟨false, 0, none⟩

/-- What `ctx.dispatch<CommitAiQueryResult>` hands to the saga. -/
def CreditReply.asCommit : CreditReply → CommitAiQueryResult
  | .commitAiQuery result => result
  | _ => ⟨"", 0⟩

/-- One run of the handler: its command, the configured cost and the drawn reservation id. -/
structure AskAiRun where
  command : AskAiCommand
  creditCost : Number
  reservationId : String

namespace AskAiRun

variable (run : AskAiRun)

/-- The commands of all clients. -/
def commands (others : ℕ → CreditCommand) : AskAiClient → CreditCommand
  | .reserve =>
      .reserveCredits
        ⟨run.command.orgId, run.command.userId, run.reservationId, run.creditCost, "AI query"⟩
  | .commit answer sources =>
      .commitAiQuery
        ⟨run.command.orgId, run.command.userId, run.reservationId, run.command.question, answer,
          sources, run.creditCost, "AI query"⟩
  | .release reason =>
      .releaseCreditReservation
        ⟨run.command.orgId, run.command.userId, run.reservationId, run.command.question, reason⟩
  | .other index => others index

/-- The durable form of the release that is registered for the reservation. -/
def descriptor : ReleaseDescriptor where
  actionType := "release-credit-reservation"
  orgId := run.command.orgId
  userId := run.command.userId
  reservationId := run.reservationId
  question := run.command.question
  reason := "AI_UNAVAILABLE"

/-- The question as it is put to the service. -/
def query : RagQuery := ⟨run.command.orgId, run.command.question, run.command.topK⟩

end AskAiRun

namespace AskAiHandler

/-- What follows the answer of the RAG service. -/
def settle (run : AskAiRun) : RagQueryOutcome → AskAiSaga AskAiResult
  | .noResults => do
      let released := (← Saga.send (.release "NO_RESULTS")).asRelease
      return {
        aiQueryId := released.aiQueryId
        answer := none
        sources := []
        creditCost := .finite 0
        balance := released.balance }
  | .aiUnavailable chunks =>
      Saga.fail (.aiUnavailable (chunks.map fun chunk =>
        { knowledgeItemId := chunk.knowledgeItemId
          title := chunk.titleSnapshot
          snippet := (codeUnits chunk.content).take 300 }))
  | .answered summary sources _ => do
      let committed := (← Saga.send (.commit summary sources)).asCommit
      return {
        aiQueryId := some committed.aiQueryId
        answer := some summary
        sources := sources
        creditCost := run.creditCost
        balance := committed.balance }

/-- Credits are reserved and their release is registered before the service is asked. -/
def execute (run : AskAiRun) : AskAiSaga AskAiResult := do
  let _ ← Saga.send .reserve
  Saga.register run.descriptor (.release "AI_UNAVAILABLE")
  let rag ← Saga.ask run.query
  settle run rag

end AskAiHandler

variable (run : AskAiRun) (stamps : AskAiClient → Stamp) (others : ℕ → CreditCommand)

/-- The saga on the bus, next to the other commands. -/
def askAiBus :
    SagaBus (creditWorkload stamps (run.commands others)) RagQuery RagQueryOutcome
      ReleaseDescriptor AskAiError AskAiResult where
  saga := AskAiHandler.execute run
  owned client := ∀ index, client ≠ .other index
  dispatchError := .commandFailed
  callError _ := .queryRejected

/-- The reservation id is drawn for this run: nobody else reserves or commits it. -/
structure Unshared (reservationId : String) : Prop where
  reserve : ∀ index reserve, others index = .reserveCredits reserve →
    reserve.reservationId ≠ reservationId
  commit : ∀ index commit, others index = .commitAiQuery commit →
    commit.reservationId ≠ reservationId

/-- Where a run of the handler stands. -/
abbrev AskAiPhase :=
  SagaBus.Phase AskAiClient CreditReply RagQuery RagQueryOutcome ReleaseDescriptor AskAiError
    AskAiResult

/-- The wallets next to the runs of the handler. -/
abbrev AskAiState :=
  SagaBus.State AskAiClient CreditDb CreditWrite CreditError CreditReply RagQuery RagQueryOutcome
    ReleaseDescriptor AskAiError AskAiResult

/-- The session of one command of the credit module. -/
abbrev CreditSession := Session CreditDb CreditWrite CreditError CreditReply

section Stages

variable {run stamps others}

/-- The results the handler builds. -/
def answeredResult (run : AskAiRun) (summary : String) (sources : List RagSource)
    (reply : CreditReply) : AskAiResult where
  aiQueryId := some reply.asCommit.aiQueryId
  answer := some summary
  sources := sources
  creditCost := run.creditCost
  balance := reply.asCommit.balance

/-- What is returned when the search has found nothing. -/
def emptyResult (reply : CreditReply) : AskAiResult where
  aiQueryId := reply.asRelease.aiQueryId
  answer := none
  sources := []
  creditCost := .finite 0
  balance := reply.asRelease.balance

/-- The sessions of the saga's clients, apart from the one it waits for. -/
structure Quiet (session : AskAiClient → CreditSession) (awaited : AskAiClient) : Prop where
  commits : ∀ summary sources, .commit summary sources ≠ awaited →
    session (.commit summary sources) = .idle
  releases : ∀ reason, .release reason ≠ awaited → session (.release reason) = .idle

/-- The hold exists. -/
def Reserved (session : AskAiClient → CreditSession) : Prop :=
  ∃ begun reply, session .reserve = .committed begun reply

/-- No commit of this run has happened, nor will one. -/
def Uncharged (session : AskAiClient → CreditSession) : Prop :=
  ∀ summary sources,
    session (.commit summary sources) = .idle ∨ session (.commit summary sources) = .failed

/-- Where a run of the handler stands, with what is known of its sessions there. -/
inductive Stage (run : AskAiRun) (session : AskAiClient → CreditSession) :
    AskAiPhase → List (ReleaseDescriptor × AskAiClient) → List ReleaseDescriptor → Prop where
  | ready (idle : session .reserve = .idle) (quiet : Quiet session .reserve) :
      Stage run session
        (.running (.dispatch .reserve fun _ =>
          .onCompensate run.descriptor (.release "AI_UNAVAILABLE")
            (.call run.query (AskAiHandler.settle run)))) [] []
  | reserving (quiet : Quiet session .reserve) :
      Stage run session
        (.awaiting .reserve fun _ =>
          .onCompensate run.descriptor (.release "AI_UNAVAILABLE")
            (.call run.query (AskAiHandler.settle run))) [] []
  | refused {phase : AskAiPhase}
      (stopped : phase = .unwinding (.commandFailed .reserve) [] ∨
        phase = .thrown (.commandFailed .reserve))
      (failed : session .reserve = .failed) (quiet : Quiet session .reserve) :
      Stage run session phase [] []
  | reserved (reserved : Reserved session) (quiet : Quiet session .reserve) :
      Stage run session
        (.running (.onCompensate run.descriptor (.release "AI_UNAVAILABLE")
          (.call run.query (AskAiHandler.settle run)))) [] []
  | asking (reserved : Reserved session) (quiet : Quiet session .reserve) :
      Stage run session
        (.running (.call run.query (AskAiHandler.settle run)))
        [(run.descriptor, .release "AI_UNAVAILABLE")] []
  | settling (rag : RagQueryOutcome) (reserved : Reserved session)
      (quiet : Quiet session .reserve) :
      Stage run session (.running (AskAiHandler.settle run rag))
        [(run.descriptor, .release "AI_UNAVAILABLE")] []
  | committing (summary : String) (sources : List RagSource) (reserved : Reserved session)
      (quiet : Quiet session (.commit summary sources)) :
      Stage run session
        (.awaiting (.commit summary sources) fun reply =>
          .done (.ok (answeredResult run summary sources reply)))
        [(run.descriptor, .release "AI_UNAVAILABLE")] []
  | releasing (reserved : Reserved session) (quiet : Quiet session (.release "NO_RESULTS")) :
      Stage run session
        (.awaiting (.release "NO_RESULTS") fun reply => .done (.ok (emptyResult reply)))
        [(run.descriptor, .release "AI_UNAVAILABLE")] []
  | answered {phase : AskAiPhase} (summary : String) (sources : List RagSource) (begun : CreditDb)
      (reply : CreditReply)
      (stopped : phase = .running (.done (.ok (answeredResult run summary sources reply))) ∨
        phase = .returned (answeredResult run summary sources reply))
      (committed : session (.commit summary sources) = .committed begun reply) :
      Stage run session phase [(run.descriptor, .release "AI_UNAVAILABLE")] []
  | empty {phase : AskAiPhase} (begun : CreditDb) (reply : CreditReply)
      (stopped : phase = .running (.done (.ok (emptyResult reply))) ∨
        phase = .returned (emptyResult reply))
      (released : session (.release "NO_RESULTS") = .committed begun reply)
      (uncharged : Uncharged session) :
      Stage run session phase [(run.descriptor, .release "AI_UNAVAILABLE")] []
  | unwinding (error : AskAiError) (later : error ≠ .commandFailed .reserve)
      (reserved : Reserved session) (uncharged : Uncharged session)
      (idle : session (.release "AI_UNAVAILABLE") = .idle) :
      Stage run session (.unwinding error [(run.descriptor, .release "AI_UNAVAILABLE")])
        [(run.descriptor, .release "AI_UNAVAILABLE")] []
  | compensating (error : AskAiError) (later : error ≠ .commandFailed .reserve)
      (reserved : Reserved session) (uncharged : Uncharged session) :
      Stage run session (.compensating error (run.descriptor, .release "AI_UNAVAILABLE") [])
        [(run.descriptor, .release "AI_UNAVAILABLE")] []
  | compensated {phase : AskAiPhase} (error : AskAiError)
      (later : error ≠ .commandFailed .reserve)
      (stopped : phase = .unwinding error [] ∨ phase = .thrown error) (begun : CreditDb)
      (reply : CreditReply)
      (released : session (.release "AI_UNAVAILABLE") = .committed begun reply)
      (uncharged : Uncharged session) :
      Stage run session phase [(run.descriptor, .release "AI_UNAVAILABLE")] []
  | stranded {phase : AskAiPhase} (error : AskAiError)
      (later : error ≠ .commandFailed .reserve)
      (stopped : phase = .unwinding error [] ∨ phase = .thrown error)
      (uncharged : Uncharged session) :
      Stage run session phase [(run.descriptor, .release "AI_UNAVAILABLE")] [run.descriptor]

theorem Uncharged.of_quiet {session : AskAiClient → CreditSession} {awaited : AskAiClient}
    (quiet : Quiet session awaited) (other : ∀ summary sources, awaited ≠ .commit summary sources) :
    Uncharged session :=
  fun summary sources => .inl (quiet.commits summary sources (other summary sources).symm)

variable {session session' : AskAiClient → CreditSession}

/-- A stage survives whatever leaves the resting sessions of clients it does not wait for. -/
theorem Stage.base {phase : AskAiPhase} {registered : List (ReleaseDescriptor × AskAiClient)}
    {durable : List ReleaseDescriptor} (stage : Stage run session phase registered durable)
    (still : ∀ client, (∀ index, client ≠ .other index) → ¬ phase.Awaits client →
      Workload.Resting (session client) → session' client = session client) :
    Stage run session' phase registered durable := by
  have quiet : ∀ {awaited}, Quiet session awaited →
      (∀ client, client ≠ awaited → ¬ phase.Awaits client) → Quiet session' awaited := by
    intro awaited quiet free
    refine ⟨?_, ?_⟩
    · intro summary sources distinct
      have idle := quiet.commits summary sources distinct
      rw [still _ (by simp) (free _ distinct) (by simp [idle, Workload.Resting]), idle]
    · intro reason distinct
      have idle := quiet.releases reason distinct
      rw [still _ (by simp) (free _ distinct) (by simp [idle, Workload.Resting]), idle]
  have reserved : ¬ phase.Awaits .reserve → Reserved session → Reserved session' := by
    rintro free ⟨begun, reply, committed⟩
    exact ⟨begun, reply, by
      rw [still _ (by simp) free (by simp [committed, Workload.Resting]), committed]⟩
  have uncharged : (∀ summary sources, ¬ phase.Awaits (.commit summary sources)) →
      Uncharged session → Uncharged session' := by
    intro free uncharged summary sources
    rw [still _ (by simp) (free summary sources) (by
      rcases uncharged summary sources with idle | failed
      · simp [idle, Workload.Resting]
      · simp [failed, Workload.Resting])]
    exact uncharged summary sources
  have committed : ∀ {client begun reply}, (∀ index, client ≠ .other index) →
      ¬ phase.Awaits client → session client = .committed begun reply →
      session' client = .committed begun reply := by
    intro client begun reply owned free committed
    rw [still _ owned free (by simp [committed, Workload.Resting]), committed]
  cases stage with
  | ready idle quiet_ =>
      refine .ready ?_ (quiet quiet_ fun _ _ => id)
      rw [still _ (by simp) id (by simp [idle, Workload.Resting]), idle]
  | reserving quiet_ =>
      exact .reserving (quiet quiet_ fun _ distinct awaits => distinct awaits.symm)
  | refused stopped failed quiet_ =>
      have free : ∀ client, ¬ phase.Awaits client := by
        rcases stopped with rfl | rfl <;> exact fun _ => id
      refine .refused stopped ?_ (quiet quiet_ fun client _ => free client)
      rw [still _ (by simp) (free _) (by simp [failed, Workload.Resting]), failed]
  | reserved reserved_ quiet_ =>
      exact .reserved (reserved id reserved_) (quiet quiet_ fun _ _ => id)
  | asking reserved_ quiet_ =>
      exact .asking (reserved id reserved_) (quiet quiet_ fun _ _ => id)
  | settling rag reserved_ quiet_ =>
      exact .settling rag (reserved id reserved_) (quiet quiet_ fun _ _ => id)
  | committing summary sources reserved_ quiet_ =>
      exact .committing summary sources (reserved (by intro awaits; cases awaits) reserved_)
        (quiet quiet_ fun _ distinct awaits => distinct awaits.symm)
  | releasing reserved_ quiet_ =>
      exact .releasing (reserved (by intro awaits; cases awaits) reserved_)
        (quiet quiet_ fun _ distinct awaits => distinct awaits.symm)
  | answered summary sources begun reply stopped committed_ =>
      refine .answered summary sources begun reply stopped (committed (by simp) ?_ committed_)
      rcases stopped with rfl | rfl <;> exact id
  | empty begun reply stopped released uncharged_ =>
      have free : ∀ client, ¬ phase.Awaits client := by
        rcases stopped with rfl | rfl <;> exact fun _ => id
      exact .empty begun reply stopped (committed (by simp) (free _) released)
        (uncharged (fun _ _ => free _) uncharged_)
  | unwinding error later reserved_ uncharged_ idle =>
      refine .unwinding error later (reserved id reserved_)
        (uncharged (fun _ _ => id) uncharged_) ?_
      rw [still _ (by simp) id (by simp [idle, Workload.Resting]), idle]
  | compensating error later reserved_ uncharged_ =>
      exact .compensating error later (reserved (by intro awaits; cases awaits) reserved_)
        (uncharged (by intro _ _ awaits; cases awaits) uncharged_)
  | compensated error later stopped begun reply released uncharged_ =>
      have free : ∀ client, ¬ phase.Awaits client := by
        rcases stopped with rfl | rfl <;> exact fun _ => id
      exact .compensated error later stopped begun reply (committed (by simp) (free _) released)
        (uncharged (fun _ _ => free _) uncharged_)
  | stranded error later stopped uncharged_ =>
      refine .stranded error later stopped (uncharged ?_ uncharged_)
      intro _ _
      rcases stopped with rfl | rfl <;> exact id

/-- Only where the hold exists does the saga wait for a release. -/
theorem Stage.reserved_of_awaits {phase : AskAiPhase}
    {registered : List (ReleaseDescriptor × AskAiClient)} {durable : List ReleaseDescriptor}
    {reason : String} (stage : Stage run session phase registered durable)
    (awaits : phase.Awaits (.release reason)) : Reserved session := by
  cases stage with
  | ready idle quiet => exact awaits.elim
  | reserving quiet => cases awaits
  | reserved reserved quiet => exact reserved
  | asking reserved quiet => exact reserved
  | settling rag reserved quiet => exact reserved
  | committing summary sources reserved quiet => exact reserved
  | releasing reserved quiet => exact reserved
  | unwinding error later reserved uncharged idle => exact reserved
  | compensating error later reserved uncharged => exact reserved
  | refused stopped failed quiet => rcases stopped with rfl | rfl <;> exact awaits.elim
  | answered summary sources begun reply stopped committed =>
      rcases stopped with rfl | rfl <;> exact awaits.elim
  | empty begun reply stopped released uncharged =>
      rcases stopped with rfl | rfl <;> exact awaits.elim
  | compensated error later stopped begun reply released uncharged =>
      rcases stopped with rfl | rfl <;> exact awaits.elim
  | stranded error later stopped uncharged =>
      rcases stopped with rfl | rfl <;> exact awaits.elim

theorem Stage.of_returned {result : AskAiResult}
    {registered : List (ReleaseDescriptor × AskAiClient)} {durable : List ReleaseDescriptor}
    (stage : Stage run session (.returned result) registered durable) :
    (∃ summary sources begun reply, result = answeredResult run summary sources reply ∧
      session (.commit summary sources) = .committed begun reply) ∨
    (∃ begun reply, result = emptyResult reply ∧
      session (.release "NO_RESULTS") = .committed begun reply ∧ Uncharged session) := by
  cases stage with
  | answered summary sources begun reply stopped committed =>
      rcases stopped with stop | stop
      · cases stop
      · cases stop
        exact .inl ⟨summary, sources, begun, reply, rfl, committed⟩
  | empty begun reply stopped released uncharged =>
      rcases stopped with stop | stop
      · cases stop
      · cases stop
        exact .inr ⟨begun, reply, rfl, released, uncharged⟩
  | refused stopped failed quiet => rcases stopped with stop | stop <;> cases stop
  | compensated error later stopped begun reply released uncharged =>
      rcases stopped with stop | stop <;> cases stop
  | stranded error later stopped uncharged => rcases stopped with stop | stop <;> cases stop

theorem Stage.of_thrown {error : AskAiError}
    {registered : List (ReleaseDescriptor × AskAiClient)} {durable : List ReleaseDescriptor}
    (stage : Stage run session (.thrown error) registered durable) :
    (error = .commandFailed .reserve ∧ registered = [] ∧ durable = [] ∧
      session .reserve = .failed) ∨
    (error ≠ .commandFailed .reserve ∧
      registered = [(run.descriptor, .release "AI_UNAVAILABLE")] ∧ Uncharged session ∧
      ((durable = [] ∧
          ∃ begun reply, session (.release "AI_UNAVAILABLE") = .committed begun reply) ∨
        durable = [run.descriptor])) := by
  cases stage with
  | refused stopped failed quiet =>
      rcases stopped with stop | stop
      · cases stop
      · cases stop
        exact .inl ⟨rfl, rfl, rfl, failed⟩
  | compensated error later stopped begun reply released uncharged =>
      rcases stopped with stop | stop
      · cases stop
      · cases stop
        exact .inr ⟨later, rfl, uncharged, .inl ⟨rfl, begun, reply, released⟩⟩
  | stranded error later stopped uncharged =>
      rcases stopped with stop | stop
      · cases stop
      · cases stop
        exact .inr ⟨later, rfl, uncharged, .inr rfl⟩
  | answered summary sources begun reply stopped committed =>
      rcases stopped with stop | stop <;> cases stop
  | empty begun reply stopped released uncharged => rcases stopped with stop | stop <;> cases stop

/-- A move of the saga leads from stage to stage. -/
theorem Stage.move {state next : AskAiState} (stage : Stage run state.base.session state.phase
    state.registered state.durable)
    (moved : (askAiBus run stamps others).Moved state next) :
    Stage run next.base.session next.phase next.registered next.durable := by
  rcases state with ⟨phase, registered, durable, base⟩
  dsimp only at stage
  cases stage with
  | ready idle quiet =>
      cases moved
      exact .reserving quiet
  | reserving quiet =>
      rcases moved with ⟨begun, reply, committed, rfl⟩ | ⟨failed, rfl⟩
      · exact .reserved ⟨begun, reply, committed⟩ quiet
      · exact .refused (.inl rfl) failed quiet
  | refused stopped failed quiet =>
      rcases stopped with rfl | rfl
      · cases moved
        exact .refused (.inr rfl) failed quiet
      · cases moved
  | reserved reserved quiet =>
      cases moved
      exact .asking reserved quiet
  | asking reserved quiet =>
      rcases moved with ⟨answer, rfl⟩ | rfl
      · exact .settling answer reserved quiet
      · exact .unwinding _ nofun reserved (.of_quiet quiet nofun) (quiet.releases _ nofun)
  | settling rag reserved quiet =>
      cases rag with
      | noResults =>
          cases moved
          exact .releasing reserved ⟨fun _ _ _ => quiet.commits _ _ nofun,
            fun _ _ => quiet.releases _ nofun⟩
      | aiUnavailable chunks =>
          cases moved
          exact .unwinding _ nofun reserved (.of_quiet quiet nofun) (quiet.releases _ nofun)
      | answered summary sources chunks =>
          cases moved
          exact .committing summary sources reserved ⟨fun _ _ _ => quiet.commits _ _ nofun,
            fun _ _ => quiet.releases _ nofun⟩
  | committing summary sources reserved quiet =>
      rcases moved with ⟨begun, reply, committed, rfl⟩ | ⟨failed, rfl⟩
      · exact .answered summary sources begun reply (.inl rfl) committed
      · refine .unwinding _ nofun reserved ?_ (quiet.releases _ nofun)
        intro summary' sources'
        by_cases same : AskAiClient.commit summary' sources' = .commit summary sources
        · rw [same]
          exact .inr failed
        · exact .inl (quiet.commits _ _ same)
  | releasing reserved quiet =>
      have uncharged : Uncharged base.session := .of_quiet quiet nofun
      rcases moved with ⟨begun, reply, committed, rfl⟩ | ⟨failed, rfl⟩
      · exact .empty begun reply (.inl rfl) committed uncharged
      · exact .unwinding _ nofun reserved uncharged (quiet.releases _ (by simp))
  | answered summary sources begun reply stopped committed =>
      rcases stopped with rfl | rfl
      · cases moved
        exact .answered summary sources begun reply (.inr rfl) committed
      · cases moved
  | empty begun reply stopped released uncharged =>
      rcases stopped with rfl | rfl
      · cases moved
        exact .empty begun reply (.inr rfl) released uncharged
      · cases moved
  | unwinding error later reserved uncharged idle =>
      cases moved
      exact .compensating error later reserved uncharged
  | compensating error later reserved uncharged =>
      rcases moved with ⟨begun, reply, committed, rfl⟩ | ⟨failed, rfl⟩
      · exact .compensated error later (.inl rfl) begun reply committed uncharged
      · exact .stranded error later (.inl rfl) uncharged
  | compensated error later stopped begun reply released uncharged =>
      rcases stopped with rfl | rfl
      · cases moved
        exact .compensated error later (.inr rfl) begun reply released uncharged
      · cases moved
  | stranded error later stopped uncharged =>
      rcases stopped with rfl | rfl
      · cases moved
        exact .stranded error later (.inr rfl) uncharged
      · cases moved

end Stages

section Runs

variable {run stamps others} {state : AskAiState}

theorem disciplined_commands (unshared : Unshared others run.reservationId) :
    Disciplined (run.commands others) run.reservationId where
  fresh := by
    have own : ∀ client reserve, run.commands others client = .reserveCredits reserve →
        reserve.reservationId = run.reservationId → client = .reserve := by
      intro client reserve command same
      cases client with
      | reserve => rfl
      | commit answer sources => cases command
      | release reason => cases command
      | other index => exact absurd same (unshared.reserve index reserve command)
    intro first second reserve reserve' command command' same same'
    rw [own first reserve command same, own second reserve' command' same']
  charged := by
    intro first second reserve commit command command' same same'
    cases first with
    | reserve =>
        cases second with
        | commit answer sources =>
            cases command
            cases command'
            rfl
        | other index => exact absurd same' (unshared.commit index commit command')
        | _ => cases command'
    | other index => exact absurd same (unshared.reserve index reserve command)
    | _ => cases command

/-- The trace of the run's reservation, once it is known, is of the run's wallet and cost. -/
theorem trace_of_run (unshared : Unshared others run.reservationId)
    {log : List (Workload.Entry AskAiClient CreditDb CreditReply)} {trace : Trace}
    (history : History (run.commands others) run.reservationId log trace)
    (known : trace ≠ .absent) :
    ∃ amount status, trace = .known (run.command.orgId, run.command.userId) amount status ∧
      run.creditCost = .finite amount ∧ ∃ entry ∈ log, entry.client = .reserve := by
  cases trace with
  | absent => exact absurd rfl known
  | known wallet amount status =>
      rcases history.source _ _ _ rfl with ⟨entry, member, reserve, command, same, home, cost⟩
      cases client : entry.client with
      | reserve =>
          simp only [client] at command
          cases command
          exact ⟨amount, status, by rw [← home], cost, entry, member, client⟩
      | other index =>
          simp only [client] at command
          exact absurd same (unshared.reserve index reserve command)
      | _ =>
          simp only [client] at command
          cases command

/-- Where the hold exists, the run's wallet knows it. -/
theorem knows_of_reserved (unshared : Unshared others run.reservationId)
    (reached : (creditWorkload stamps (run.commands others)).system.Reachable state.base)
    (reserved : Reserved state.base.session) :
    Knows state.base.db (run.command.orgId, run.command.userId) run.reservationId := by
  rcases agreed_of_reachable (disciplined_commands unshared) reached with
    ⟨trace, follows, history⟩
  rcases reserved with ⟨begun, reply, committed⟩
  have logged := (Outline.mem_log_iff reached ⟨.reserve, begun, reply⟩).mpr committed
  have known := (history.explained _ logged).reserved _ rfl rfl
  rcases trace_of_run unshared history known with ⟨amount, status, rfl, -⟩
  simp only [Knows]
  rw [follows.state]
  simp [Trace.state]

/-- The stage of every reachable state, and what the release sessions began on. -/
theorem stage_of_reachable (unshared : Unshared others run.reservationId)
    (reached : (askAiBus run stamps others).system.Reachable state) :
    Stage run state.base.session state.phase state.registered state.durable ∧
      ∀ reason begun, Workload.begun? (state.base.session (.release reason)) = some begun →
        Knows begun (run.command.orgId, run.command.userId) run.reservationId := by
  refine reached.invariant (fun state : AskAiState =>
    Stage run state.base.session state.phase state.registered state.durable ∧
      ∀ reason begun, Workload.begun? (state.base.session (.release reason)) = some begun →
        Knows begun (run.command.orgId, run.command.userId) run.reservationId) ?_ ?_
  · rintro start ⟨phase, registered, durable, -, -, idle⟩
    rw [phase, registered, durable]
    refine ⟨.ready (idle _) ⟨fun _ _ _ => idle _, fun _ _ => idle _⟩, ?_⟩
    intro reason begun began
    simp only [idle] at began
    cases began
  · rintro before label after earlier ⟨stage, began⟩ move
    have based := SagaBus.base_reachable earlier
    cases label with
    | saga =>
        refine ⟨stage.move (SagaBus.Step.moved move), ?_⟩
        rw [SagaBus.Step.base_of_saga move]
        exact began
    | base label =>
        cases move with
        | base move driven =>
            refine ⟨stage.base ?_, ?_⟩
            · intro client owned free resting
              exact move.session_of_resting resting fun drives => free (driven client owned drives)
            · intro reason begun began'
              rcases move.begun_of_step began' with old | ⟨drives, rfl⟩
              · exact began reason begun old
              · have awaits := driven (.release reason) nofun drives
                exact knows_of_reserved unshared based (stage.reserved_of_awaits awaits)

/-- Without a committed commit of the run there is no charge. -/
theorem outcome_of_uncharged (unshared : Unshared others run.reservationId)
    (reached : (creditWorkload stamps (run.commands others)).system.Reachable state.base)
    {trace : Trace}
    (history : History (run.commands others) run.reservationId state.base.log trace)
    (uncharged : Uncharged state.base.session) : trace.outcome ≠ .committed := by
  intro committed
  rcases history.charge committed with ⟨entry, member, commit, command, same⟩
  have session := (Outline.mem_log_iff reached entry).mp member
  cases client : entry.client with
  | commit answer sources =>
      simp only [client] at session
      rcases uncharged answer sources with idle | failed
      · cases idle.symm.trans session
      · cases failed.symm.trans session
  | other index =>
      simp only [client] at command
      exact unshared.commit index commit command same
  | _ =>
      simp only [client] at command
      cases command

/-- A committed release of the run has closed the hold without a charge. -/
theorem situation_of_released (unshared : Unshared others run.reservationId)
    (reached : (creditWorkload stamps (run.commands others)).system.Reachable state.base)
    {reason : String} {begun : CreditDb} {reply : CreditReply}
    (released : state.base.session (.release reason) = .committed begun reply)
    (knows : Knows begun (run.command.orgId, run.command.userId) run.reservationId)
    (uncharged : Uncharged state.base.session) :
    Situation state.base.db run.reservationId .released := by
  rcases agreed_of_reachable (disciplined_commands unshared) reached with
    ⟨trace, follows, history⟩
  have logged := (Outline.mem_log_iff reached ⟨.release reason, begun, reply⟩).mpr released
  rcases (history.explained _ logged).closed _ rfl rfl knows with committed | closed
  · exact absurd committed (outcome_of_uncharged unshared reached history uncharged)
  · rw [← closed]
    exact follows.situation

theorem ledgerRows_of_uncharged (unshared : Unshared others run.reservationId)
    (reached : (creditWorkload stamps (run.commands others)).system.Reachable state.base)
    (uncharged : Uncharged state.base.session) :
    ledgerRows state.base.db .creditReservationCommitted run.reservationId = [] := by
  rcases agreed_of_reachable (disciplined_commands unshared) reached with
    ⟨trace, follows, history⟩
  have free := outcome_of_uncharged unshared reached history uncharged
  apply follows.ledgerRows_nil _
  rcases trace with _ | ⟨_, _, _ | _ | _⟩
  · rfl
  · simp [Trace.rows, CreditEventType.text]
  · exact absurd rfl free
  · simp [Trace.rows, CreditEventType.text]

/-- A committed commit of the run is the one charge, of the configured cost. -/
theorem ledgerRows_of_committed (unshared : Unshared others run.reservationId)
    (reached : (creditWorkload stamps (run.commands others)).system.Reachable state.base)
    {summary : String} {sources : List RagSource} {begun : CreditDb} {reply : CreditReply}
    (committed : state.base.session (.commit summary sources) = .committed begun reply) :
    ∃ charge, ledgerRows state.base.db .creditReservationCommitted run.reservationId = [charge] ∧
      .finite charge.payload.amount = run.creditCost := by
  rcases agreed_of_reachable (disciplined_commands unshared) reached with
    ⟨trace, follows, history⟩
  have logged :=
    (Outline.mem_log_iff reached ⟨.commit summary sources, begun, reply⟩).mpr committed
  have outcome := (history.explained _ logged).charged _ rfl rfl
  rcases trace_of_run unshared history (by rintro rfl; cases outcome) with
    ⟨amount, _ | _ | _, rfl, cost, -⟩
  · cases outcome
  · rcases follows.ledgerRows_one .creditReservationCommitted amount (by
      simp [Trace.rows, CreditEventType.text]) with ⟨charge, found, charged⟩
    exact ⟨charge, found, by rw [charged, cost]⟩
  · cases outcome

/-- A reserve step that threw has left no row behind. -/
theorem rows_of_refused (unshared : Unshared others run.reservationId)
    (reached : (creditWorkload stamps (run.commands others)).system.Reachable state.base)
    (failed : state.base.session .reserve = .failed) :
    ∀ row ∈ state.base.db.creditEvents, row.payload.reservationId ≠ some run.reservationId := by
  rcases agreed_of_reachable (disciplined_commands unshared) reached with
    ⟨trace, follows, history⟩
  have absent : trace = .absent := by
    by_contra known
    rcases trace_of_run unshared history known with ⟨_, _, -, -, entry, member, client⟩
    have session := (Outline.mem_log_iff reached entry).mp member
    simp only [client, failed] at session
    cases session
  subst absent
  intro row member named
  have rows := List.map_eq_nil_iff.mp follows.rows
  exact List.not_mem_nil (rows ▸ List.mem_filter.mpr ⟨member, decide_eq_true named⟩)

/-- The AI-query saga charges exactly on delivery. -/
theorem askAi_charges_on_delivery (unshared : Unshared others run.reservationId)
    (reached : (askAiBus run stamps others).system.Reachable state) :
    (∀ result answer, state.phase = .returned result → result.answer = some answer →
      ∃ charge, ledgerRows state.base.db .creditReservationCommitted run.reservationId = [charge] ∧
        .finite charge.payload.amount = run.creditCost ∧ result.creditCost = run.creditCost) ∧
    (∀ result, state.phase = .returned result → result.answer = none →
      LedgerStatus state.base.db run.reservationId .released ∧
        ledgerRows state.base.db .creditReservationCommitted run.reservationId = [] ∧
        result.creditCost = .finite 0) ∧
    (state.phase = .thrown (.commandFailed .reserve) →
      (∀ row ∈ state.base.db.creditEvents, row.payload.reservationId ≠ some run.reservationId) ∧
        state.registered = [] ∧ state.durable = []) ∧
    (∀ error, state.phase = .thrown error → error ≠ .commandFailed .reserve →
      ledgerRows state.base.db .creditReservationCommitted run.reservationId = [] ∧
        state.registered = [(run.descriptor, .release "AI_UNAVAILABLE")] ∧
        (state.durable = [] ∧ LedgerStatus state.base.db run.reservationId .released ∨
          state.durable = [run.descriptor])) := by
  have based := SagaBus.base_reachable reached
  rcases stage_of_reachable unshared reached with ⟨stage, began⟩
  have knows : ∀ {reason begun reply},
      state.base.session (.release reason) = .committed begun reply →
      Knows begun (run.command.orgId, run.command.userId) run.reservationId := by
    intro reason begun reply released
    exact began reason begun (by rw [released]; rfl)
  refine ⟨?_, ?_, ?_, ?_⟩
  · intro result answer returned delivered
    simp only [returned] at stage
    rcases stage.of_returned with ⟨summary, sources, begun, reply, rfl, committed⟩ | ⟨_, _, rfl, -⟩
    · rcases ledgerRows_of_committed unshared based committed with ⟨charge, found, charged⟩
      exact ⟨charge, found, charged, rfl⟩
    · cases delivered
  · intro result returned empty
    simp only [returned] at stage
    rcases stage.of_returned with ⟨_, _, _, _, rfl, -⟩ | ⟨begun, reply, rfl, released, uncharged⟩
    · cases empty
    · have situation :=
        situation_of_released unshared based released (knows released) uncharged
      exact ⟨situation.1, situation.2.2.1, rfl⟩
  · intro thrown
    simp only [thrown] at stage
    rcases stage.of_thrown with ⟨-, registered, durable, failed⟩ | ⟨later, -⟩
    · exact ⟨rows_of_refused unshared based failed, registered, durable⟩
    · exact absurd rfl later
  · intro error thrown later
    simp only [thrown] at stage
    rcases stage.of_thrown with ⟨early, -⟩ | ⟨-, registered, uncharged, ends⟩
    · exact absurd early later
    · refine ⟨ledgerRows_of_uncharged unshared based uncharged, registered, ?_⟩
      rcases ends with ⟨durable, begun, reply, released⟩ | durable
      · have situation :=
          situation_of_released unshared based released (knows released) uncharged
        exact .inl ⟨durable, situation.1⟩
      · exact .inr durable

end Runs

theorem askAi_charges_on_delivery_answered :
    ∃ state : AskAiState,
      (∃ result, state.phase = .returned result ∧ result.answer = some "42") ∧
      ∃ charge, ledgerRows state.base.db .creditReservationCommitted "id" = [charge] ∧
        .finite charge.payload.amount = Number.finite 3 := by
  let run : AskAiRun := ⟨⟨"org", "user", "question", .finite 5⟩, .finite 3, "id"⟩
  let others : ℕ → CreditCommand := fun _ => .grantCredits ⟨"org", "user", .finite 5, "welcome"⟩
  let stamps : AskAiClient → Stamp := fun _ => ⟨0, "row"⟩
  have unshared : Unshared others run.reservationId := ⟨nofun, nofun⟩
  have reached : (askAiBus run stamps others).system.Reachable
      ⟨.running (AskAiHandler.execute run), [], [],
        ⟨⟨[], .empty, [], [("org", "user")]⟩, [], fun _ => .idle⟩⟩ :=
    .initial ⟨rfl, rfl, rfl, ⟨rfl, rfl, rfl⟩, rfl, fun _ => rfl⟩
  have reached := SagaBus.reachable_commit reached (.other 0) (fun owned => absurd rfl (owned 0))
    (.inl rfl) (fun _ _ => rfl) (fun _ _ => trivial)
    (show _ = Except.ok (.grantCredits 5, [
      .insertCreditEvent ⟨"org:user", "org", "user", "CreditGranted", 1, ⟨5, "welcome", none⟩, 0⟩,
      .appendOutbox (.creditAwarded "org:user" "org" "user" (.finite 5) "welcome" 5)]) by
        decide +kernel)
  have reached := SagaBus.reachable_move reached (.dispatch rfl)
  have reached := SagaBus.reachable_commit reached .reserve (fun _ => rfl)
    (.inl rfl) (fun other _ => by rcases other with _ | _ | _ | _ | _ <;> rfl) (fun _ _ => trivial)
    (show _ = Except.ok (.reserveCredits 2, [.insertCreditEvent
      ⟨"org:user", "org", "user", "CreditReserved", 2, ⟨3, "AI query", some "id"⟩, 0⟩]) by
        decide +kernel)
  have reached := SagaBus.reachable_move reached (.resume rfl rfl)
  have reached := SagaBus.reachable_move reached (.register rfl)
  have reached := SagaBus.reachable_move reached (.answer (.answered "42" [] []) rfl)
  have reached := SagaBus.reachable_move reached (.dispatch rfl)
  have reached := SagaBus.reachable_commit reached (.commit "42" []) (fun _ => rfl)
    (.inl rfl) (fun other _ => by rcases other with _ | _ | _ | _ | _ <;> rfl) (fun _ _ => trivial)
    (show _ = Except.ok (.commitAiQuery ⟨"row", 2⟩, [
      .insertCreditEvent ⟨"org:user", "org", "user", "CreditReservationCommitted", 3,
        ⟨3, "AI query", some "id"⟩, 0⟩,
      .upsertAiQuery
        ⟨⟨"org", "user", "question", some "42", [], .finite 3, .answered, "id"⟩, "row"⟩,
      .appendOutbox (.creditSpent "org:user" "org" "user" (.finite 3) "AI query" 2 "id" "row")]) by
        decide +kernel)
  have reached := SagaBus.reachable_move reached (.resume rfl rfl)
  have reached := SagaBus.reachable_move reached (.deliver rfl)
  rcases (askAi_charges_on_delivery unshared reached).1 _ "42" rfl rfl with ⟨charge, found, cost, -⟩
  exact ⟨_, ⟨_, rfl, rfl⟩, charge, found, cost⟩

end CoreApi.Credit
