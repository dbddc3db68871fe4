import CoreApi.Foundation.OrderedMap
import CoreApi.Foundation.TokenBucket

/-!
# The quota of AI queries

One bucket for each organization and user, refilled and consumed by a single
statement. Double precision values and timestamps are read as exact, and times
are seconds. Calls stand in the order in which their updates take effect; the
insertion of a call may have read any time.
-/

namespace CoreApi.Http

/-- A row of `ai_quota_buckets`. -/
structure AiQuotaBucket where
  tokens : ℚ
  lastRefillAt : ℚ
deriving DecidableEq

/-- The table, by organization and user. -/
abbrev AiQuotaBuckets := OrderedMap (String × String) AiQuotaBucket

/-- One call of the guard, with the times that its two statements read. -/
structure QuotaCall where
  orgId : String
  userId : String
  insertedAt : ℚ
  updatedAt : ℚ

def QuotaCall.key (call : QuotaCall) : String × String := (call.orgId, call.userId)

/-- What the guard is configured with. -/
structure AiQuotaGuard where
  capacity : ℚ
  refillPerMinute : ℚ

namespace AiQuotaGuard

variable (guard : AiQuotaGuard) (table : AiQuotaBuckets)

/-- The expression that stands twice in the update. -/
def refilled (bucket : AiQuotaBucket) (now : ℚ) : ℚ :=
  min guard.capacity
    (bucket.tokens + (now - bucket.lastRefillAt) / 60 * guard.refillPerMinute)

/-- `INSERT ... ON CONFLICT (org_id, user_id) DO NOTHING` -/
def insertBucket (call : QuotaCall) : AiQuotaBuckets :=
  match table.get? call.key with
  | some _ => table
  | none => table.set call.key ⟨guard.capacity, call.insertedAt⟩

/-- `UPDATE ... RETURNING tokens`: the table and the returned rows. -/
def updateBucket (call : QuotaCall) : AiQuotaBuckets × List ℚ :=
  match table.get? call.key with
  | none => (table, [])
  | some bucket =>
      let refilled := guard.refilled bucket call.updatedAt
      if refilled ≥ 1 then (table.set call.key ⟨refilled - 1, call.updatedAt⟩, [refilled - 1])
      else (table, [])

/-- The bucket is inserted unless it is there, and a token is taken from it; the answer tells
whether there was one. -/
def consumeToken (call : QuotaCall) : AiQuotaBuckets × Bool :=
  let (table, updated) := guard.updateBucket (guard.insertBucket table call) call
  (table, updated.length > 0)

/-- The table after some calls. -/
def consumeTokens (calls : List QuotaCall) : AiQuotaBuckets :=
  calls.foldl (fun table call => (guard.consumeToken table call).1) table

/-- The times of the accepted calls of a user in an organization. -/
def acceptedAt (key : String × String) : AiQuotaBuckets → List QuotaCall → List ℚ
  | _, [] => []
  | table, call :: rest =>
      let (next, accepted) := guard.consumeToken table call
      if accepted ∧ call.key = key then call.updatedAt :: acceptedAt key next rest
      else acceptedAt key next rest

/-- The rate by the second. -/
def rate : ℚ := guard.refillPerMinute / 60

end AiQuotaGuard

/-- The row as a bucket of tokens. -/
def AiQuotaBucket.toTokenBucket (bucket : AiQuotaBucket) : TokenBucket ℚ :=
  ⟨bucket.tokens, bucket.lastRefillAt⟩

namespace AiQuotaGuard

variable {guard : AiQuotaGuard} {table : AiQuotaBuckets} {bucket : AiQuotaBucket}
  {call : QuotaCall} {key : String × String}

theorem refilled_eq (guard : AiQuotaGuard) (bucket : AiQuotaBucket) (now : ℚ) :
    guard.refilled bucket now = bucket.toTokenBucket.level guard.capacity guard.rate now := by
  rw [refilled, TokenBucket.level, rate, AiQuotaBucket.toTokenBucket, div_mul_eq_mul_div,
    mul_div_assoc]

/-- The bucket that the update of a call finds. -/
def found (guard : AiQuotaGuard) (table : AiQuotaBuckets) (call : QuotaCall) : AiQuotaBucket :=
  (table.get? call.key).getD ⟨guard.capacity, call.insertedAt⟩

theorem get?_insertBucket (guard : AiQuotaGuard) (table : AiQuotaBuckets) (call : QuotaCall)
    (key : String × String) :
    (guard.insertBucket table call).get? key =
      if key = call.key then some (guard.found table call) else table.get? key := by
  rw [insertBucket, found]
  split
  · next bucket stored =>
      split
      · next same => simp [same, stored]
      · rfl
  · next fresh => rw [OrderedMap.get?_set, fresh, Option.getD_none]

/-- A call takes a token from its own bucket, or it is rejected. -/
theorem consumeToken_cases (guard : AiQuotaGuard) (table : AiQuotaBuckets) (call : QuotaCall) :
    (∃ taken, (guard.found table call).toTokenBucket.take? guard.capacity guard.rate
        call.updatedAt = some taken ∧
      guard.consumeToken table call = ((guard.insertBucket table call).set call.key
        ⟨taken.tokens, taken.refilledAt⟩, true)) ∨
    ((guard.found table call).toTokenBucket.take? guard.capacity guard.rate call.updatedAt = none ∧
      guard.consumeToken table call = (guard.insertBucket table call, false)) := by
  have stored := guard.get?_insertBucket table call call.key
  rw [if_pos rfl] at stored
  simp only [consumeToken, updateBucket, stored, refilled_eq, TokenBucket.take?]
  by_cases enough : 1 ≤ (guard.found table call).toTokenBucket.level guard.capacity guard.rate
    call.updatedAt
  · exact .inl ⟨_, by rw [if_pos enough], by simp [enough]⟩
  · exact .inr ⟨by rw [if_neg enough], by simp [enough]⟩

/-- A rejected call leaves every bucket as it was, but may have inserted its own. -/
theorem get?_of_rejected (rejected : (guard.consumeToken table call).2 = false)
    (key : String × String) :
    (guard.consumeToken table call).1.get? key =
      if key = call.key then some (guard.found table call) else table.get? key := by
  rcases guard.consumeToken_cases table call with ⟨taken, -, consumed⟩ | ⟨-, consumed⟩
  · simp [consumed] at rejected
  · rw [consumed]
    exact guard.get?_insertBucket table call key

/-- Every bucket holds between nothing and the capacity. -/
def Within (guard : AiQuotaGuard) (table : AiQuotaBuckets) : Prop :=
  table.All fun _ bucket => bucket.toTokenBucket.Within guard.capacity

theorem Within.found (within : guard.Within table) (positive : 0 < guard.capacity)
    (call : QuotaCall) : (guard.found table call).toTokenBucket.Within guard.capacity := by
  rw [AiQuotaGuard.found]
  cases stored : table.get? call.key with
  | none => exact ⟨positive.le, le_rfl⟩
  | some bucket => exact within _ bucket stored

theorem Within.insertBucket (within : guard.Within table) (positive : 0 < guard.capacity)
    (call : QuotaCall) : guard.Within (guard.insertBucket table call) := by
  intro key bucket stored
  rw [get?_insertBucket] at stored
  split at stored
  · cases stored
    exact within.found positive call
  · exact within key bucket stored

theorem Within.consumeToken (within : guard.Within table) (positive : 0 < guard.capacity)
    (call : QuotaCall) : guard.Within (guard.consumeToken table call).1 := by
  have inserted := within.insertBucket positive call
  rcases guard.consumeToken_cases table call with ⟨taken, took, consumed⟩ | ⟨-, consumed⟩
  · rw [consumed]
    exact OrderedMap.All.set inserted (TokenBucket.Within.take? took)
  · rw [consumed]
    exact inserted

theorem Within.consumeTokens (within : guard.Within table) (positive : 0 < guard.capacity)
    (calls : List QuotaCall) : guard.Within (guard.consumeTokens table calls) := by
  induction calls generalizing table with
  | nil => exact within
  | cons call rest ih => exact ih (within.consumeToken positive call)

/-- The accepted calls of one user are the accepted takes of one bucket, the stored one if there
is one already. -/
theorem exists_acceptedAt (within : guard.Within table) (positive : 0 < guard.capacity)
    (calls : List QuotaCall) (key : String × String) :
    ∃ bucket : TokenBucket ℚ, bucket.Within guard.capacity ∧
      (∀ stored, table.get? key = some stored → bucket = stored.toTokenBucket) ∧
      guard.acceptedAt key table calls = bucket.accepted guard.capacity guard.rate
        ((calls.filter fun call => call.key = key).map QuotaCall.updatedAt) := by
  induction calls generalizing table with
  | nil =>
      cases stored : table.get? key with
      | none => exact ⟨⟨guard.capacity, 0⟩, ⟨positive.le, le_rfl⟩, by simp, rfl⟩
      | some bucket => exact ⟨bucket.toTokenBucket, within key bucket stored, by simp, rfl⟩
  | cons call rest ih =>
      rcases ih (within.consumeToken positive call) with ⟨later, within', stored', rest'⟩
      simp only [acceptedAt, rest']
      by_cases own : call.key = key
      · subst own
        refine ⟨(guard.found table call).toTokenBucket, within.found positive call, ?_, ?_⟩
        · intro stored old
          rw [found, old, Option.getD_some]
        · simp only [decide_true, List.filter_cons_of_pos, List.map_cons, TokenBucket.accepted]
          rcases guard.consumeToken_cases table call with ⟨taken, took, consumed⟩ | ⟨took, consumed⟩
          · have next : later = taken := stored' ⟨taken.tokens, taken.refilledAt⟩ (by
              simp [consumed, OrderedMap.get?_set])
            simp [consumed, took, next]
          · have next := stored' (guard.found table call) (by
              simp [consumed, get?_insertBucket])
            simp [consumed, took, next]
      · have kept : (guard.consumeToken table call).1.get? key = table.get? key := by
          rcases guard.consumeToken_cases table call with ⟨taken, -, consumed⟩ | ⟨-, consumed⟩
          · simp [consumed, OrderedMap.get?_set, get?_insertBucket, Ne.symm own]
          · simp [consumed, get?_insertBucket, Ne.symm own]
        refine ⟨later, within', ?_, ?_⟩
        · rw [← kept]
          exact stored'
        · simp [own]

/-- After any calls every bucket holds between nothing and the capacity, a rejected call changes no
bucket but one that it inserts, and between any two accepted calls of a user there are no more than
the capacity and the refill of that time allow. -/
theorem ai_quota_bounds_bursts (guard : AiQuotaGuard) (positive : 0 < guard.capacity)
    (calls : List QuotaCall) :
    (∀ key bucket, (guard.consumeTokens .empty calls).get? key = some bucket →
      0 ≤ bucket.tokens ∧ bucket.tokens ≤ guard.capacity) ∧
    (∀ call, (guard.consumeToken (guard.consumeTokens .empty calls) call).2 = false → ∀ key,
      (guard.consumeToken (guard.consumeTokens .empty calls) call).1.get? key =
        if key = call.key then
          some (((guard.consumeTokens .empty calls).get? key).getD
            ⟨guard.capacity, call.insertedAt⟩)
        else (guard.consumeTokens .empty calls).get? key) ∧
    ∀ key first between last,
      first :: (between ++ [last]) <:+: guard.acceptedAt key .empty calls →
      (between.length + 2 : ℚ) ≤
        guard.capacity + guard.refillPerMinute * (last - first) / 60 := by
  have start : guard.Within .empty := OrderedMap.All.empty
  refine ⟨?_, ?_, ?_⟩
  · intro key bucket stored
    have within := start.consumeTokens positive calls key bucket stored
    exact ⟨within.nonneg, within.le_capacity⟩
  · intro call rejected key
    rw [get?_of_rejected rejected, found]
    split
    · next own => rw [own]
    · rfl
  · intro key first between last part
    rcases exists_acceptedAt start positive calls key with ⟨bucket, within, -, accepted⟩
    rw [accepted] at part
    have bound := TokenBucket.burst_le within part
    rw [List.getLastD_concat, List.length_append, List.length_singleton] at bound
    have same : guard.refillPerMinute * (last - first) / 60 = (last - first) * guard.rate := by
      rw [rate]
      ring
    rw [same]
    push_cast at bound
    linarith

/-- Two calls at once and one a second later, by a user who may make two and one more a second. -/
def burst : List QuotaCall :=
  [⟨"org", "alice", 0, 0⟩, ⟨"org", "alice", 0, 0⟩, ⟨"org", "alice", 0, 0⟩,
    ⟨"org", "alice", 1, 1⟩]

theorem ai_quota_bounds_bursts_three :
    AiQuotaGuard.acceptedAt ⟨2, 60⟩ ("org", "alice") .empty burst = [0, 0, 1] ∧
      (([0] : List ℚ).length + 2 : ℚ) ≤ 2 + 60 * (1 - 0) / 60 := by
  have accepted :
      AiQuotaGuard.acceptedAt ⟨2, 60⟩ ("org", "alice") .empty burst = [0, 0, 1] := by
    decide +kernel
  refine ⟨accepted, (ai_quota_bounds_bursts ⟨2, 60⟩ (by norm_num) burst).2.2 ("org", "alice") 0
    [0] 1 ?_⟩
  rw [accepted]
  exact List.infix_rfl

end AiQuotaGuard

end CoreApi.Http
