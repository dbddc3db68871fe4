import Mathlib.Logic.Equiv.Basic
import CoreApi.Http.KeyClaim

/-!
# A key executes at most once successfully

As long as the cleanup job leaves the row of a key alone: at most one handler of
a request with the key is in progress, a handler that succeeded is the last one
to run, and a stored response answers every later lookup of the same request.
-/

namespace CoreApi.Http

/-- A cleanup that does not purge the key's row. -/
def SparesRecord (key : String) (state : InterceptorState) : InterceptorLabel → Prop
  | .purge now => purgeExpired now state.records key = state.records key
  | _ => True

variable {sha256 : String → String} {requests : ℕ → Request} {key : String}
  {state next : InterceptorState} {request : ℕ} {label : InterceptorLabel}

theorem SparesRecord.sparesBusy (spares : SparesRecord key state label) :
    SparesBusy requests key state label := by
  cases label with
  | purge now => exact fun _ => spares
  | call request operation => trivial
  | pass request => trivial

/-- A request that is not busy neither changes a row it finds nor becomes busy on it. -/
theorem Act.of_idle {requestHash : String} {operation : Operation} {start phase : Phase}
    {record : IdempotencyRecord} {row : Option IdempotencyRecord}
    (act : Act requestHash request operation start (some record) phase row)
    (idle : ¬ start.busy) : row = some record ∧ ¬ phase.busy := by
  cases act with
  | found => exact ⟨rfl, by simp⟩
  | findFailed | duplicate | createFailed => exact ⟨rfl, by simp [Phase.busy]⟩
  | handled | threw | updated | deleted | deleteFailed | deletedLate =>
      simp [Phase.busy] at idle

/-- A handler's response comes from a busy request, which keeps its row. -/
theorem Act.of_handled {requestHash : String} {operation : Operation} {start phase : Phase}
    {before row : Option IdempotencyRecord} {response : Response}
    (act : Act requestHash request operation start before phase row)
    (handled : phase.handled = some response) : start.busy ∧ (before.isSome → row.isSome) := by
  cases act with
  | handled => exact ⟨rfl, id⟩
  | updated => exact ⟨rfl, by simp⟩
  | found => simp at handled
  | findFailed | duplicate | createFailed | created | createdLate | threw | deleted | deleteFailed
  | deletedLate => simp [Phase.handled] at handled

/-- Whoever succeeded left a row behind, and nobody else is busy with it. -/
def Concluded (requests : ℕ → Request) (key : String) (state : InterceptorState) : Prop :=
  ∀ request response, Carries requests key request →
    (state.phase request).handled = some response →
      (∃ record, state.records key = some record) ∧ Solo requests key state request

theorem Concluded.frame (concluded : Concluded requests key state)
    (row : next.records key = state.records key)
    (phase : ∀ request, Carries requests key request → next.phase request = state.phase request) :
    Concluded requests key next := by
  intro request response carries handled
  simp only [phase request carries] at handled
  rcases concluded request response carries handled with ⟨found, solo⟩
  refine ⟨row ▸ found, ?_⟩
  intro other carries' distinct
  rw [phase other carries']
  exact solo other carries' distinct

theorem Concluded.act (inv : KeyInvariant sha256 requests key state)
    (concluded : Concluded requests key state) (carries : Carries requests key request)
    {operation : Operation} {phase : Phase} {row : Option IdempotencyRecord}
    (act : Act ((requests request).hash sha256) request operation
      (state.phase request) (state.records key) phase row) :
    Concluded requests key (state.put request phase key row) := by
  intro other response carries' handled
  by_cases same : other = request
  · -- the claim under which the handler ran is still there
    subst same
    replace handled : phase.handled = some response := by
      simpa [InterceptorState.put] using handled
    rcases act.of_handled handled with ⟨busy, kept⟩
    rcases inv.held other carries busy with ⟨record, found, -⟩
    refine ⟨?_, ?_⟩
    · simpa [InterceptorState.put, Option.isSome_iff_exists] using kept (by simp [found])
    · intro third carries'' distinct
      simpa [InterceptorState.put, distinct] using
        inv.solo_of_busy carries busy third carries'' distinct
  · have before : (state.phase other).handled = some response := by
      simpa [InterceptorState.put, same] using handled
    rcases concluded other response carries' before with ⟨⟨record, found⟩, solo⟩
    simp only [found] at act
    have kept := act.of_idle (solo request carries (Ne.symm same))
    refine ⟨⟨record, by simp [InterceptorState.put, kept.1]⟩, ?_⟩
    intro third carries'' distinct
    by_cases acting : third = request
    · subst acting
      simpa [InterceptorState.put] using kept.2
    · simpa [InterceptorState.put, acting] using solo third carries'' distinct

theorem Concluded.step (inv : KeyInvariant sha256 requests key state)
    (concluded : Concluded requests key state) (spares : SparesRecord key state label)
    (move : InterceptorStep sha256 requests state label next) : Concluded requests key next := by
  rcases move.on_key key with ⟨request, operation, phase, row, -, carries, act, rfl⟩ |
    ⟨now, rfl, rfl⟩ | ⟨row, phase⟩
  · exact concluded.act inv carries act
  · exact concluded.frame spares fun _ _ => rfl
  · exact concluded.frame row phase

/-- The runs in which the cleanup job does not purge the key's row. -/
def unpurged (sha256 : String → String) (requests : ℕ → Request) (key : String) :
    TransitionSystem InterceptorState InterceptorLabel :=
  (interceptor sha256 requests).restrict (SparesRecord key)

theorem unpurged_invariant (reached : (unpurged sha256 requests key).Reachable state) :
    KeyInvariant sha256 requests key state ∧ Concluded requests key state := by
  refine reached.invariant
    (fun state => KeyInvariant sha256 requests key state ∧ Concluded requests key state) ?_ ?_
  · intro start initial
    refine ⟨.initial initial, ?_⟩
    intro request response _ handled
    simp [initial.2, Phase.handled] at handled
  · rintro before label after - ⟨inv, concluded⟩ ⟨spares, move⟩
    exact ⟨inv.step spares.sparesBusy move, concluded.step inv spares move⟩

/-- A handler's success is never taken back. -/
theorem handled_step {response : Response} (carries : Carries requests key request)
    (handled : (state.phase request).handled = some response)
    (move : InterceptorStep sha256 requests state label next) :
    (next.phase request).handled = some response := by
  rcases move.on_key key with ⟨other, operation, phase, row, -, carries', act, rfl⟩ |
    ⟨now, rfl, rfl⟩ | ⟨-, phase⟩
  · by_cases same : request = other
    · subst same
      generalize state.phase request = start at act handled
      generalize state.records key = before at act
      cases act <;> simp_all [InterceptorState.put, Phase.handled]
    · simpa [InterceptorState.put, same] using handled
  · exact handled
  · rw [phase request carries]
    exact handled

theorem handled_leads {response : Response} (carries : Carries requests key request)
    (handled : (state.phase request).handled = some response)
    (leads : (unpurged sha256 requests key).Leads state next) :
    (next.phase request).handled = some response := by
  induction leads with
  | refl => exact handled
  | tail _ move ih =>
      rcases move with ⟨label, -, move⟩
      exact handled_step carries ih move

/-- A row with a response stays as it is. -/
theorem stored_step (inv : KeyInvariant sha256 requests key state) {record : IdempotencyRecord}
    {response : Response} (found : state.records key = some record)
    (stored : record.response = some response) (spares : SparesRecord key state label)
    (move : InterceptorStep sha256 requests state label next) :
    next.records key = some record := by
  rcases move.on_key key with ⟨request, operation, phase, row, -, carries, act, rfl⟩ |
    ⟨now, rfl, rfl⟩ | ⟨row, -⟩
  · simp only [found] at act
    simpa [InterceptorState.put] using
      (act.of_idle (inv.solo_of_stored found stored request carries)).1
  · exact Eq.trans spares found
  · rw [row]
    exact found

theorem stored_leads (reached : (unpurged sha256 requests key).Reachable state)
    {record : IdempotencyRecord} {response : Response} (found : state.records key = some record)
    (stored : record.response = some response)
    (leads : (unpurged sha256 requests key).Leads state next) :
    next.records key = some record := by
  induction leads with
  | refl => exact found
  | tail earlier move ih =>
      rcases move with ⟨label, spares, move⟩
      exact stored_step (unpurged_invariant (reached.leads earlier)).1 ih stored spares move

/-- A lookup that finds the response to the same request answers it. -/
theorem lookup_stored {record : IdempotencyRecord} {response : Response}
    (found : state.records key = some record) (stored : record.response = some response)
    (carries : Carries requests key request)
    (same : (requests request).hash sha256 = record.requestHash)
    (move : InterceptorStep sha256 requests state (.call request .findUnique) next) :
    next.phase request = .replayed response := by
  cases move with
  | @call _ _ key' phase row guarded act =>
      obtain rfl : key = key' := Option.some.inj (carries.symm.trans guarded)
      simp only [found] at act
      generalize state.phase request = start at act
      cases act with
      | found => simp [InterceptorState.put, afterFindUnique, same, stored]

/-- In every run that does not purge the key's row: two handlers are never in progress for the
key; after a handler has succeeded none runs again; and once a response is stored, every later
lookup by the same request is answered with it. -/
theorem idempotencyKey_executes_once
    (reached : (unpurged sha256 requests key).Reachable state) :
    (∀ first second, Carries requests key first → Carries requests key second →
      state.phase first = .running → state.phase second = .running → first = second) ∧
    (∀ succeeded response, Carries requests key succeeded →
      (state.phase succeeded).handled = some response →
      ∀ later, (unpurged sha256 requests key).Leads state later →
      ∀ request, Carries requests key request → later.phase request ≠ .running) ∧
    (∀ record response, state.records key = some record → record.response = some response →
      ∀ later, (unpurged sha256 requests key).Leads state later →
      ∀ request next, Carries requests key request →
        (requests request).hash sha256 = record.requestHash →
        (unpurged sha256 requests key).Step later (.call request .findUnique) next →
        next.phase request = .replayed response) := by
  refine ⟨?_, ?_, ?_⟩
  · intro first second carries carries' running running'
    exact (unpurged_invariant reached).1.alone first second carries carries'
      (by simp [running, Phase.busy]) (by simp [running', Phase.busy])
  · intro succeeded response carries handled later leads request carries' running
    have handled := handled_leads carries handled leads
    have solo := ((unpurged_invariant (reached.leads leads)).2 succeeded response carries handled).2
    by_cases same : request = succeeded
    · subst same
      simp [running, Phase.handled] at handled
    · exact solo request carries' same (by simp [running, Phase.busy])
  · intro record response found stored later leads request next carries same move
    exact lookup_stored (stored_leads reached found stored leads) stored carries same move.2

/-- The state in which one request alone has claimed its key, run and stored its response. -/
def persistedState (sha256 : String → String) (requests : ℕ → Request) (key : String)
    (request : ℕ) (response : Response) (now : ℕ) : InterceptorState where
  records := Function.update (fun _ => none) key
    (some ⟨(requests request).hash sha256, some response, now + ttlMs⟩)
  phase := Function.update (fun _ => .arrived) request (.persisted response)

theorem reachable_persisted (sha256 : String → String)
    (allowed : InterceptorState → InterceptorLabel → Prop)
    (calls : ∀ state request operation, allowed state (.call request operation))
    (carries : Carries requests key request) (body : Option Json)
    (storable : Response.storable ⟨body, request⟩) (now : ℕ) :
    ((interceptor sha256 requests).restrict allowed).Reachable
      (persistedState sha256 requests key request ⟨body, request⟩ now) := by
  have step : ∀ {state : InterceptorState} (operation : Operation) (phase : Phase)
      (row : Option IdempotencyRecord),
      ((interceptor sha256 requests).restrict allowed).Reachable state →
      Act ((requests request).hash sha256) request operation
        (state.phase request) (state.records key) phase row →
      ((interceptor sha256 requests).restrict allowed).Reachable
        (state.put request phase key row) :=
    fun operation phase row reached act => reached.step ⟨calls _ _ _, .call carries act⟩
  have arrived : ((interceptor sha256 requests).restrict allowed).Reachable
      ⟨fun _ => none, fun _ => .arrived⟩ := .initial ⟨fun _ => rfl, fun _ => rfl⟩
  have creating := step .findUnique _ _ arrived .found
  have running := step .create .running
    (some ⟨(requests request).hash sha256, none, now + ttlMs⟩) creating (by
      simpa [InterceptorState.put, afterFindUnique] using Act.created)
  have persisting := step .handle (.persisting ⟨body, request⟩)
    (some ⟨(requests request).hash sha256, none, now + ttlMs⟩) running (by
      simpa [InterceptorState.put] using Act.handled)
  have persisted := step .update (.persisted ⟨body, request⟩)
    (some ⟨(requests request).hash sha256, some ⟨body, request⟩, now + ttlMs⟩) persisting (by
      have updated : Act ((requests request).hash sha256) request .update
          (.persisting ⟨body, request⟩) (some ⟨(requests request).hash sha256, none, now + ttlMs⟩)
          _ _ := .updated
      simpa [InterceptorState.put, IdempotencyRecord.update, storable] using updated)
  simpa [InterceptorState.put, persistedState] using persisted

def hundred : Numeral := ⟨"100".toList, by decide, by decide⟩

/-- A spend of 100 credits. -/
def spend (userId orgId : String) : Request where
  method := "POST"
  url := "/api/v1/credits/spend"
  url_line := by decide
  body := some (.object [("amount", .number (.finite hundred)), ("reason", .string "Summary")])
  idempotencyKey := some "spend-1"
  userId := userId
  orgId := some orgId

/-- A collision-free function that agrees with sha256 on the fingerprint of the spend. -/
def spendSha256 : String ≃ String :=
  Equiv.swap "POST /api/v1/credits/spend\n\x7b\"amount\":100,\"reason\":\"Summary\"\x7d"
    "e4880aecafc484bd663ba1422e03c7bc105d53966857d9c64fdc9cc2fc6514ca"

example : (spend "alice" "acme").hash spendSha256 =
    "e4880aecafc484bd663ba1422e03c7bc105d53966857d9c64fdc9cc2fc6514ca" := by decide +kernel

theorem idempotencyKey_executes_once_spent :
    (∀ later, (unpurged spendSha256 (fun _ => spend "alice" "acme") "spend-1").Leads
        (persistedState spendSha256 (fun _ => spend "alice" "acme") "spend-1" 0
          ⟨some (.bool true), 0⟩ 0) later →
      later.phase 1 ≠ .running) ∧
    ∀ next, (unpurged spendSha256 (fun _ => spend "alice" "acme") "spend-1").Step
        (persistedState spendSha256 (fun _ => spend "alice" "acme") "spend-1" 0
          ⟨some (.bool true), 0⟩ 0) (.call 1 .findUnique) next →
      next.phase 1 = .replayed ⟨some (.bool true), 0⟩ := by
  have carries : ∀ request, Carries (fun _ => spend "alice" "acme") "spend-1" request :=
    fun _ => rfl
  have calls : ∀ state request operation,
      SparesRecord "spend-1" state (.call request operation) := fun _ _ _ => trivial
  have reached := reachable_persisted spendSha256 (SparesRecord "spend-1") calls (carries 0)
    (some (.bool true)) rfl 0
  have once := idempotencyKey_executes_once reached
  refine ⟨?_, ?_⟩
  · intro later leads
    exact once.2.1 0 ⟨some (.bool true), 0⟩ (carries 0) rfl later leads 1 (carries 1)
  · intro next move
    exact once.2.2 _ _ rfl rfl _ .refl 1 next (carries 1) rfl move

end CoreApi.Http
