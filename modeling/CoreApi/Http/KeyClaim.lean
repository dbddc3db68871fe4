import CoreApi.Http.IdempotencyInterceptor

/-!
# The claim of a key

What the row under a key says about the requests that carry the key: while one
of them is busy the row is its claim, with no response; and a stored response is
the one of a request whose handler ran under this very claim. Both survive every
step except a cleanup that removes the claim of a busy request.
-/

namespace CoreApi.Http

variable (sha256 : String → String) (requests : ℕ → Request)

/-- The request is guarded by the key. -/
def Carries (key : String) (request : ℕ) : Prop :=
  (requests request).guardedKey = some key

/-- One request at most is busy with the key, and it holds the row, which has no response yet. A
handler answers its own request, and a stored response is that of a request with the stored hash. -/
structure KeyInvariant (key : String) (state : InterceptorState) : Prop where
  held : ∀ request, Carries requests key request → (state.phase request).busy →
    ∃ record, state.records key = some record ∧
      record.requestHash = (requests request).hash sha256 ∧ record.response = none
  alone : ∀ request other, Carries requests key request → Carries requests key other →
    (state.phase request).busy → (state.phase other).busy → request = other
  own : ∀ request response, Carries requests key request →
    (state.phase request).handled = some response → response.producer = request
  stored : ∀ record response, state.records key = some record →
    record.response = some response → Carries requests key response.producer ∧
      (requests response.producer).hash sha256 = record.requestHash ∧
      state.phase response.producer = .persisted response

/-- A cleanup that leaves a key's row alone while a request is busy with it. -/
def SparesBusy (key : String) (state : InterceptorState) : InterceptorLabel → Prop
  | .purge now => (∃ request, Carries requests key request ∧ (state.phase request).busy) →
      purgeExpired now state.records key = state.records key
  | _ => True

variable {sha256 requests} {key : String} {state next : InterceptorState} {request : ℕ}

@[simp]
theorem afterFindUnique_busy (requestHash : String) (row : Option IdempotencyRecord) :
    (afterFindUnique requestHash row).busy = false := by
  simp only [afterFindUnique]
  split
  · split
    · rfl
    · split <;> rfl
  · rfl

@[simp]
theorem afterFindUnique_handled (requestHash : String) (row : Option IdempotencyRecord) :
    (afterFindUnique requestHash row).handled = none := by
  simp only [afterFindUnique]
  split
  · split
    · rfl
    · split <;> rfl
  · rfl

theorem KeyInvariant.initial (start : (interceptor sha256 requests).Initial state) :
    KeyInvariant sha256 requests key state where
  held request _ busy := by simp [start.2, Phase.busy] at busy
  alone request other _ _ busy _ := by simp [start.2, Phase.busy] at busy
  own request response _ handled := by simp [start.2, Phase.handled] at handled
  stored record response row := by simp [start.1] at row

/-- The invariant reads only the key's row and the phases of the requests that carry the key. -/
theorem KeyInvariant.frame (inv : KeyInvariant sha256 requests key state)
    (row : next.records key = state.records key)
    (phase : ∀ request, Carries requests key request → next.phase request = state.phase request) :
    KeyInvariant sha256 requests key next where
  held request carries busy := by
    simp only [phase request carries] at busy
    rw [row]
    exact inv.held request carries busy
  alone request other carries carries' busy busy' := by
    simp only [phase request carries] at busy
    simp only [phase other carries'] at busy'
    exact inv.alone request other carries carries' busy busy'
  own request response carries handled := by
    simp only [phase request carries] at handled
    exact inv.own request response carries handled
  stored record response found stored := by
    simp only [row] at found
    rcases inv.stored record response found stored with ⟨carries, hash, persisted⟩
    exact ⟨carries, hash, (phase _ carries).trans persisted⟩

/-- Nobody else who carries the key is busy with it. -/
def Solo (requests : ℕ → Request) (key : String) (state : InterceptorState) (request : ℕ) : Prop :=
  ∀ other, Carries requests key other → other ≠ request → ¬ (state.phase other).busy

theorem KeyInvariant.solo_of_busy (inv : KeyInvariant sha256 requests key state)
    (carries : Carries requests key request) (busy : (state.phase request).busy) :
    Solo requests key state request := by
  intro other carries' distinct busy'
  exact distinct (inv.alone other request carries' carries busy' busy)

theorem KeyInvariant.solo_of_free (inv : KeyInvariant sha256 requests key state)
    (free : state.records key = none) : Solo requests key state request := by
  intro other carries' _ busy'
  rcases inv.held other carries' busy' with ⟨record, found, -⟩
  simp [free] at found

theorem KeyInvariant.solo_of_stored (inv : KeyInvariant sha256 requests key state)
    {record : IdempotencyRecord} {response : Response}
    (found : state.records key = some record) (stored : record.response = some response)
    (other : ℕ) (carries : Carries requests key other) : ¬ (state.phase other).busy := by
  intro busy
  rcases inv.held other carries busy with ⟨record', found', -, empty⟩
  simp_all

/-- A request handles only responses of its own. -/
theorem KeyInvariant.own_put (inv : KeyInvariant sha256 requests key state) {phase : Phase}
    {row : Option IdempotencyRecord}
    (own : ∀ response, phase.handled = some response → response.producer = request)
    {other : ℕ} {response : Response} (carries : Carries requests key other)
    (handled : ((state.put request phase key row).phase other).handled = some response) :
    response.producer = other := by
  by_cases same : other = request
  · subst same
    exact own response (by simpa [InterceptorState.put] using handled)
  · exact inv.own other response carries (by simpa [InterceptorState.put, same] using handled)

/-- A request that changes phase but not the row. -/
theorem KeyInvariant.put_same (inv : KeyInvariant sha256 requests key state) {phase : Phase}
    (busy : phase.busy → (state.phase request).busy)
    (unstored : ∀ response, state.phase request ≠ .persisted response)
    (own : ∀ response, phase.handled = some response → response.producer = request) :
    KeyInvariant sha256 requests key (state.put request phase key (state.records key)) where
  held other carries busy' := by
    by_cases same : other = request
    · subst same
      simpa [InterceptorState.put] using inv.held other carries (busy (by
        simpa [InterceptorState.put] using busy'))
    · simpa [InterceptorState.put] using inv.held other carries (by
        simpa [InterceptorState.put, same] using busy')
  alone first second carries carries' busy₁ busy₂ := by
    have before : ∀ other, ((state.put request phase key (state.records key)).phase other).busy →
        (state.phase other).busy := by
      intro other busy'
      by_cases same : other = request
      · subst same
        exact busy (by simpa [InterceptorState.put] using busy')
      · simpa [InterceptorState.put, same] using busy'
    exact inv.alone first second carries carries' (before first busy₁) (before second busy₂)
  own _ _ carries handled := inv.own_put own carries handled
  stored record response found stored := by
    have found' : state.records key = some record := by
      simpa [InterceptorState.put] using found
    rcases inv.stored record response found' stored with ⟨carries, hash, persisted⟩
    have distinct : response.producer ≠ request := by
      intro same
      exact unstored response (same ▸ persisted)
    exact ⟨carries, hash, by simpa [InterceptorState.put, distinct] using persisted⟩

/-- A request that changes the row, while nobody else is busy with it. -/
theorem KeyInvariant.put_row (inv : KeyInvariant sha256 requests key state)
    (solo : Solo requests key state request) {phase : Phase} {row : Option IdempotencyRecord}
    (held : phase.busy → ∃ record, row = some record ∧
      record.requestHash = (requests request).hash sha256 ∧ record.response = none)
    (own : ∀ response, phase.handled = some response → response.producer = request)
    (stored : ∀ record response, row = some record → record.response = some response →
      Carries requests key request ∧ response.producer = request ∧
        (requests request).hash sha256 = record.requestHash ∧ phase = .persisted response) :
    KeyInvariant sha256 requests key (state.put request phase key row) where
  held other carries busy := by
    by_cases same : other = request
    · subst same
      simpa [InterceptorState.put] using held (by simpa [InterceptorState.put] using busy)
    · exact absurd (by simpa [InterceptorState.put, same] using busy) (solo other carries same)
  alone first second carries carries' busy busy' := by
    have mine : ∀ other, Carries requests key other →
        ((state.put request phase key row).phase other).busy → other = request := by
      intro other carries busy
      by_contra distinct
      exact solo other carries distinct (by simpa [InterceptorState.put, distinct] using busy)
    exact (mine first carries busy).trans (mine second carries' busy').symm
  own _ _ carries handled := inv.own_put own carries handled
  stored record response found stored' := by
    rcases stored record response (by simpa [InterceptorState.put] using found) stored' with
      ⟨carries, producer, hash, persisted⟩
    subst producer
    exact ⟨carries, hash, by simpa [InterceptorState.put] using persisted⟩

theorem KeyInvariant.act (inv : KeyInvariant sha256 requests key state)
    (carries : Carries requests key request) {operation : Operation} {phase : Phase}
    {row : Option IdempotencyRecord}
    (act : Act ((requests request).hash sha256) request operation
      (state.phase request) (state.records key) phase row) :
    KeyInvariant sha256 requests key (state.put request phase key row) := by
  generalize before : state.phase request = start at act
  generalize found : state.records key = rowBefore at act
  have solo : start.busy → Solo requests key state request := by
    intro busy
    exact inv.solo_of_busy carries (before ▸ busy)
  cases act with
  | found =>
      rw [← found]
      exact inv.put_same (by simp) (by simp [before]) (by simp)
  | findFailed | duplicate | createFailed =>
      rw [← found]
      exact inv.put_same (by simp [Phase.busy]) (by simp [before]) (by simp [Phase.handled])
  | handled =>
      rw [← found]
      exact inv.put_same (by simp [before, Phase.busy]) (by simp [before])
        (by simp [Phase.handled])
  | threw | deleteFailed =>
      rw [← found]
      exact inv.put_same (by simp [before, Phase.busy]) (by simp [before])
        (by simp [Phase.handled])
  | created | createdLate =>
      exact inv.put_row (inv.solo_of_free found) (by simp [Phase.busy])
        (by simp [Phase.handled]) (by rintro _ response ⟨⟩ ⟨⟩)
  | deleted | deletedLate =>
      exact inv.put_row (solo rfl) (by simp [Phase.busy]) (by simp [Phase.handled]) (by simp)
  | @updated _ response =>
      have busy : (state.phase request).busy := by simp [before, Phase.busy]
      have own := inv.own request response carries (by simp [before, Phase.handled])
      rcases inv.held request carries busy with ⟨record, row, hash, empty⟩
      apply inv.put_row (solo rfl) (by simp [Phase.busy])
      · intro response' handled
        cases handled
        exact own
      · intro record' response' found' stored
        rw [← found, row, Option.map_some, Option.some.injEq] at found'
        subst found'
        by_cases storable : response.storable
        · simp only [IdempotencyRecord.update, storable, if_true, Option.some.injEq] at stored
          subst stored
          exact ⟨carries, own, by simp [IdempotencyRecord.update, storable, hash], rfl⟩
        · simp [IdempotencyRecord.update, storable, empty] at stored

theorem KeyInvariant.purge (inv : KeyInvariant sha256 requests key state) {now : ℕ}
    (spares : SparesBusy requests key state (.purge now)) :
    KeyInvariant sha256 requests key
      { state with records := purgeExpired now state.records } := by
  by_cases busy : ∃ request, Carries requests key request ∧ (state.phase request).busy
  · exact inv.frame (spares busy) fun _ _ => rfl
  · refine ⟨?_, inv.alone, inv.own, ?_⟩
    · intro request carries busy'
      exact absurd ⟨request, carries, busy'⟩ busy
    · intro record response found stored
      refine inv.stored record response ?_ stored
      exact (Option.filter_eq_some_iff.mp found).1

/-- What a step does to a key: a call of a request that carries it, a cleanup, or nothing. -/
theorem InterceptorStep.on_key {label : InterceptorLabel} (key : String)
    (move : InterceptorStep sha256 requests state label next) :
    (∃ request operation phase row, label = .call request operation ∧
      Carries requests key request ∧
      Act ((requests request).hash sha256) request operation
        (state.phase request) (state.records key) phase row ∧
      next = state.put request phase key row) ∨
    (∃ now, label = .purge now ∧
      next = { state with records := purgeExpired now state.records }) ∨
    (next.records key = state.records key ∧
      ∀ request, Carries requests key request → next.phase request = state.phase request) := by
  cases move with
  | @call request operation key' phase row guarded act =>
      by_cases same : key' = key
      · subst same
        exact .inl ⟨request, operation, phase, row, rfl, guarded, act, rfl⟩
      · refine .inr (.inr ⟨by simp [InterceptorState.put, Ne.symm same], ?_⟩)
        intro other carries
        have distinct : other ≠ request := by
          rintro rfl
          exact same (Option.some.inj (guarded.symm.trans carries))
        simp [InterceptorState.put, distinct]
  | @pass request phase unguarded act =>
      refine .inr (.inr ⟨rfl, ?_⟩)
      intro other carries
      have distinct : other ≠ request := by
        rintro rfl
        simp [Carries, unguarded] at carries
      simp [distinct]
  | @purge now => exact .inr (.inl ⟨now, rfl, rfl⟩)

theorem KeyInvariant.step (inv : KeyInvariant sha256 requests key state)
    {label : InterceptorLabel} (spares : SparesBusy requests key state label)
    (move : InterceptorStep sha256 requests state label next) :
    KeyInvariant sha256 requests key next := by
  rcases move.on_key key with ⟨request, operation, phase, row, -, carries, act, rfl⟩ |
    ⟨now, rfl, rfl⟩ | ⟨row, phase⟩
  · exact inv.act carries act
  · exact inv.purge spares
  · exact inv.frame row phase

end CoreApi.Http
