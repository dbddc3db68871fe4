import CoreApi.Http.IdempotentExecution

/-!
# Whose response a request receives

The row under a key is shared by everybody who sends the key, and the hash that
is compared covers the method, the URL and the body, not the caller. So the
response a request receives is its own handler's or that of an earlier request
with the same key, method and URL and a body of the same text: by the same caller
with the same body if and only if no others send such requests.
-/

namespace CoreApi.Http

/-- The same user acts in the same organization with the same method, URL and body. -/
def SameCaller (first second : Request) : Prop :=
  first.userId = second.userId ∧ first.orgId = second.orgId ∧ first.method = second.method ∧
    first.url = second.url ∧ first.body = second.body

/-- Every response received comes from the request's own handler, or from the handler of a request
by the same caller. -/
def RepliesAreOwn (requests : ℕ → Request) (state : InterceptorState) : Prop :=
  ∀ request response, (state.phase request).delivered = some response →
    response.producer = request ∨
    (state.phase response.producer).handled = some response ∧
      SameCaller (requests response.producer) (requests request)

/-- What the body of a request is written to when it is hashed. -/
def Request.document (request : Request) : Json :=
  (request.body.getD .null).toJson

/-- No key is sent with the same method and URL and with bodies that are written alike by two
callers, nor with two such bodies by one. -/
def KeysArePersonal (requests : ℕ → Request) : Prop :=
  ∀ key first second, Carries requests key first → Carries requests key second →
    (requests first).method = (requests second).method →
    (requests first).url = (requests second).url →
    (requests first).document = (requests second).document →
    (requests first).userId = (requests second).userId ∧
      (requests first).orgId = (requests second).orgId ∧
      (requests first).body = (requests second).body

/-- The runs in which the cleanup job purges no claim of a request that is still busy. -/
def unhurried (sha256 : String → String) (requests : ℕ → Request) :
    TransitionSystem InterceptorState InterceptorLabel :=
  (interceptor sha256 requests).restrict fun state label =>
    ∀ key, SparesBusy requests key state label

variable {sha256 : String → String} {requests : ℕ → Request} {key : String}
  {state next : InterceptorState} {request : ℕ} {label : InterceptorLabel}

theorem Carries.method (carries : Carries requests key request) :
    (requests request).method ∈ mutationMethods := by
  simp only [Carries, Request.guardedKey] at carries
  split at carries
  · cases carries
  · split at carries
    · cases carries
    · next fine => exact not_not.mp (not_or.mp fine).2

theorem split_first {mark : Char} {first second s t : List Char} (free : mark ∉ first)
    (free' : mark ∉ second) (same : first ++ mark :: s = second ++ mark :: t) :
    first = second ∧ s = t := by
  induction first generalizing second with
  | nil =>
      cases second with
      | nil => simpa using same
      | cons char rest =>
          simp only [List.nil_append, List.cons_append, List.cons.injEq] at same
          exact absurd (by simp [same.1]) free'
  | cons char rest ih =>
      cases second with
      | nil =>
          simp only [List.nil_append, List.cons_append, List.cons.injEq] at same
          exact absurd (by simp [same.1]) free
      | cons char' rest' =>
          simp only [List.cons_append, List.cons.injEq, List.mem_cons, not_or] at same free free'
          obtain ⟨rfl, rfl⟩ := ih free.2 free'.2 same.2
          exact ⟨by rw [same.1], rfl⟩

/-- The fingerprint of a mutation tells its method, its URL and what its body is written to. -/
theorem fingerprint_injective {first second : Request} (method : first.method ∈ mutationMethods)
    (method' : second.method ∈ mutationMethods)
    (same : fingerprint first.method first.url first.body =
      fingerprint second.method second.url second.body) :
    first.method = second.method ∧ first.url = second.url ∧
      first.document = second.document := by
  have spaceless : ∀ method ∈ mutationMethods, ' ' ∉ method.toList := by decide
  have texts := congrArg String.toList same
  simp only [fingerprint, String.toList_append, List.append_assoc] at texts
  rcases split_first (spaceless _ method) (spaceless _ method') texts with ⟨methods, rest⟩
  rcases split_first first.url_line second.url_line rest with ⟨urls, bodies⟩
  exact ⟨String.toList_inj.mp methods, String.toList_inj.mp urls,
    JsValue.stringify_eq_iff.mp (String.toList_inj.mp bodies)⟩

theorem same_of_hash (injective : Function.Injective sha256) {first second : ℕ}
    (carries : Carries requests key first) (carries' : Carries requests key second)
    (same : (requests first).hash sha256 = (requests second).hash sha256) :
    (requests first).method = (requests second).method ∧
      (requests first).url = (requests second).url ∧
      (requests first).document = (requests second).document :=
  fingerprint_injective carries.method carries'.method (injective same)

/-- Where the responses come from that requests have received. -/
structure Origins (sha256 : String → String) (requests : ℕ → Request) (state : InterceptorState) :
    Prop where
  replayed : ∀ key request response, Carries requests key request →
    state.phase request = .replayed response → Carries requests key response.producer ∧
      (requests response.producer).hash sha256 = (requests request).hash sha256 ∧
      (state.phase response.producer).handled = some response
  passed : ∀ request response, (requests request).guardedKey = none →
    (state.phase request).delivered = some response → response.producer = request

theorem Origins.replayed_step (origins : Origins sha256 requests state)
    (inv : KeyInvariant sha256 requests key state) (carries : Carries requests key request)
    (move : InterceptorStep sha256 requests state label next) {response : Response}
    (replayed : next.phase request = .replayed response) :
    Carries requests key response.producer ∧
      (requests response.producer).hash sha256 = (requests request).hash sha256 ∧
      (next.phase response.producer).handled = some response := by
  -- the response was found before, or is found by this step
  have found : Carries requests key response.producer ∧
      (requests response.producer).hash sha256 = (requests request).hash sha256 ∧
      (state.phase response.producer).handled = some response := by
    rcases move.on_key key with ⟨other, operation, phase, row, -, carries', act, rfl⟩ |
      ⟨now, rfl, rfl⟩ | ⟨-, phase⟩
    · by_cases same : request = other
      · subst same
        replace replayed : phase = .replayed response := by
          simpa [InterceptorState.put] using replayed
        subst replayed
        generalize found : state.records key = rowBefore at act
        generalize state.phase request = start at act
        generalize answer : Phase.replayed response = phase at act
        cases act with
        | found =>
            cases row with
            | none => simp [afterFindUnique] at answer
            | some existing =>
                simp only [afterFindUnique] at answer
                split at answer
                · cases answer
                · next hash =>
                    split at answer
                    · next stored =>
                        cases answer
                        rcases inv.stored existing _ found stored with ⟨carries, hash', persisted⟩
                        exact ⟨carries, hash'.trans (not_not.mp hash), by
                          simp [persisted, Phase.handled]⟩
                    · cases answer
        | _ => cases answer
      · exact origins.replayed key request response carries (by
          simpa [InterceptorState.put, same] using replayed)
    · exact origins.replayed key request response carries replayed
    · simp only [phase request carries] at replayed
      exact origins.replayed key request response carries replayed
  exact ⟨found.1, found.2.1, handled_step found.1 found.2.2 move⟩

theorem Origins.passed_step (origins : Origins sha256 requests state)
    (unguarded : (requests request).guardedKey = none)
    (move : InterceptorStep sha256 requests state label next) {response : Response}
    (delivered : (next.phase request).delivered = some response) :
    response.producer = request := by
  cases move with
  | @call other operation key phase row guarded act =>
      have distinct : request ≠ other := by
        rintro rfl
        simp [unguarded] at guarded
      exact origins.passed request response unguarded (by
        simpa [InterceptorState.put, distinct] using delivered)
  | @pass other phase _ act =>
      by_cases same : request = other
      · subst same
        replace delivered : phase.delivered = some response := by simpa using delivered
        generalize state.phase request = start at act
        cases act with
        | handle | threw => simp [Phase.delivered] at delivered
        | answered =>
            cases delivered
            rfl
      · exact origins.passed request response unguarded (by simpa [same] using delivered)
  | purge => exact origins.passed request response unguarded delivered

theorem unhurried_invariant (reached : (unhurried sha256 requests).Reachable state) :
    (∀ key, KeyInvariant sha256 requests key state) ∧ Origins sha256 requests state := by
  refine reached.invariant (fun state => (∀ key, KeyInvariant sha256 requests key state) ∧
    Origins sha256 requests state) ?_ ?_
  · intro start initial
    refine ⟨fun key => .initial initial, ?_, ?_⟩
    · intro key request response _ replayed
      simp [initial.2] at replayed
    · intro request response _ delivered
      simp [initial.2, Phase.delivered] at delivered
  · rintro before label after - ⟨inv, origins⟩ ⟨spares, move⟩
    refine ⟨fun key => (inv key).step (spares key) move, ?_, ?_⟩
    · intro key request response carries replayed
      exact origins.replayed_step (inv key) carries move replayed
    · intro request response unguarded delivered
      exact origins.passed_step unguarded move delivered

/-- With personal keys every response received is the caller's own. -/
theorem repliesAreOwn_of_personal (injective : Function.Injective sha256)
    (personal : KeysArePersonal requests) (reached : (unhurried sha256 requests).Reachable state) :
    RepliesAreOwn requests state := by
  rcases unhurried_invariant reached with ⟨inv, origins⟩
  intro request response delivered
  cases guarded : (requests request).guardedKey with
  | none => exact .inl (origins.passed request response guarded delivered)
  | some key =>
      cases phase : state.phase request with
      | replayed response' =>
          obtain rfl : response' = response := by simpa [phase, Phase.delivered] using delivered
          rcases origins.replayed key request response' guarded phase with ⟨carries, hash, handled⟩
          rcases same_of_hash injective carries guarded hash with ⟨method, url, document⟩
          rcases personal key _ _ carries guarded method url document with ⟨user, org, body⟩
          exact .inr ⟨handled, user, org, method, url, body⟩
      | passed response' | persisting response' | persisted response' =>
          exact .inl ((inv key).own request response guarded (by
            simpa [phase, Phase.delivered, Phase.handled] using delivered))
      | _ => simp [phase, Phase.delivered] at delivered

/-- A second request with the key and the hash of a first one can be answered with its response. -/
theorem reachable_replayed (allowed : InterceptorState → InterceptorLabel → Prop)
    (calls : ∀ state request operation, allowed state (.call request operation))
    {first second : ℕ} (carries : Carries requests key first)
    (carries' : Carries requests key second) (distinct : second ≠ first)
    (same : (requests second).hash sha256 = (requests first).hash sha256) (body : Option Json)
    (storable : Response.storable ⟨body, first⟩) :
    ∃ state, ((interceptor sha256 requests).restrict allowed).Reachable state ∧
      state.phase second = .replayed ⟨body, first⟩ := by
  have reached := reachable_persisted sha256 allowed calls carries body storable 0
  have act : Act ((requests second).hash sha256) second .findUnique .arrived
      (some ⟨(requests first).hash sha256, some ⟨body, first⟩, 0 + ttlMs⟩) _ _ := .found
  have move : InterceptorStep sha256 requests
      (persistedState sha256 requests key first ⟨body, first⟩ 0) (.call second .findUnique) _ :=
    .call carries' (by simpa [persistedState, distinct] using act)
  refine ⟨_, reached.step ⟨calls _ _ _, move⟩, ?_⟩
  simp [InterceptorState.put, afterFindUnique, same]

/-- Provided the hash is collision-free: on the runs that purge no claim of a busy request, every
response received is the caller's own if and only if no key is shared by two callers, or two bodies
of one, with the same method and URL and bodies that are written alike. -/
theorem repliesAreOwn_iff (injective : Function.Injective sha256) :
    (∀ state, (unhurried sha256 requests).Reachable state → RepliesAreOwn requests state) ↔
      KeysArePersonal requests := by
  refine ⟨?_,
    fun personal state reached => repliesAreOwn_of_personal injective personal reached⟩
  intro own key first second carries carries' method url document
  by_cases distinct : second = first
  · subst distinct
    exact ⟨rfl, rfl, rfl⟩
  · have same : (requests second).hash sha256 = (requests first).hash sha256 := by
      have texts := JsValue.stringify_eq_iff.mpr document
      simp only [Request.hash, hashRequest, fingerprint, method, url, texts]
    have calls : ∀ state request operation key,
        SparesBusy requests key state (.call request operation) := fun _ _ _ _ => trivial
    rcases reachable_replayed (fun state label => ∀ key, SparesBusy requests key state label) calls
      carries carries' distinct same (some (.bool true)) rfl with ⟨state, reached, replayed⟩
    rcases own state reached second _ (by rw [replayed, Phase.delivered]) with
      producer | ⟨-, user, org, -, -, body⟩
    · exact absurd producer.symm distinct
    · exact ⟨user, org, body⟩

theorem repliesAreOwn_iff_sameCaller :
    (∀ state, (unhurried spendSha256 fun _ => spend "alice" "acme").Reachable state →
      RepliesAreOwn (fun _ => spend "alice" "acme") state) ↔
      KeysArePersonal fun _ => spend "alice" "acme" :=
  repliesAreOwn_iff spendSha256.injective

/-- Alice and Bob send the same spend from two organizations. -/
def spendsOfTwo (request : ℕ) : Request :=
  if request = 0 then spend "alice" "acme" else spend "bob" "globex"

/-- What Alice is answered. -/
def aliceBalance : Json :=
  .object [("balance", .number ⟨"900".toList, by decide, by decide⟩),
    ("spent", .number hundred)]

/-- Bob of one organization spends under the key under which Alice of another has spent, and is
answered with her balance; his credits stay where they were. -/
theorem reply_of_another_caller :
    ∃ state, (interceptor spendSha256 spendsOfTwo).Reachable state ∧
      state.phase 1 = .replayed ⟨some aliceBalance, 0⟩ ∧ ¬ RepliesAreOwn spendsOfTwo state := by
  have alice : Carries spendsOfTwo "spend-1" 0 := rfl
  have bob : Carries spendsOfTwo "spend-1" 1 := rfl
  have same : (spendsOfTwo 1).hash spendSha256 = (spendsOfTwo 0).hash spendSha256 := rfl
  rcases reachable_replayed (fun _ _ => True) (fun _ _ _ => trivial) alice bob (by decide) same
    (some aliceBalance) rfl with ⟨state, reached, replayed⟩
  refine ⟨state, reached.of_restrict, replayed, ?_⟩
  intro own
  rcases own 1 _ (by rw [replayed, Phase.delivered]) with producer | ⟨-, user, -⟩
  · exact absurd producer (by decide)
  · exact absurd user (by decide)

end CoreApi.Http
