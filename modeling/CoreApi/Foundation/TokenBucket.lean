import Mathlib.Algebra.Order.Field.Basic
import Mathlib.Data.List.Infix
import Mathlib.Tactic.Linarith
import Mathlib.Tactic.Ring

/-!
# Token buckets

A bucket refills at a constant rate up to its capacity, and a take is accepted
when it finds a whole token. The tokens left after an accepted take are the
potential that bounds how many takes are accepted in any window, whatever the
clock says.
-/

universe u

/-- The tokens of a bucket at the time of its last refill. -/
structure TokenBucket (K : Type u) where
  tokens : K
  refilledAt : K

namespace TokenBucket

variable {K : Type u} [Field K] [LinearOrder K] [IsStrictOrderedRing K] (capacity rate : K)

/-- What a bucket holds at a moment, which the clock may put before its last refill. -/
def level (bucket : TokenBucket K) (now : K) : K :=
  min capacity (bucket.tokens + (now - bucket.refilledAt) * rate)

/-- The bucket after an accepted take. -/
def take? (bucket : TokenBucket K) (now : K) : Option (TokenBucket K) :=
  if 1 ≤ bucket.level capacity rate now then some ⟨bucket.level capacity rate now - 1, now⟩
  else none

/-- The times of the takes that are accepted, in order. -/
def accepted : TokenBucket K → List K → List K
  | _, [] => []
  | bucket, now :: rest =>
      match bucket.take? capacity rate now with
      | some taken => now :: accepted taken rest
      | none => accepted bucket rest

/-- Between nothing and its capacity. -/
structure Within (bucket : TokenBucket K) : Prop where
  nonneg : 0 ≤ bucket.tokens
  le_capacity : bucket.tokens ≤ capacity

variable {capacity rate} {bucket taken : TokenBucket K} {now : K}

omit [IsStrictOrderedRing K] in
theorem take?_eq_some : bucket.take? capacity rate now = some taken ↔
    1 ≤ bucket.level capacity rate now ∧
      taken = ⟨bucket.level capacity rate now - 1, now⟩ := by
  rw [take?]
  split
  · next enough => simp [enough, eq_comm]
  · next short => simp [short]

theorem Within.take? (took : bucket.take? capacity rate now = some taken) :
    taken.Within capacity := by
  rcases take?_eq_some.mp took with ⟨enough, rfl⟩
  have capped : bucket.level capacity rate now ≤ capacity := min_le_left ..
  exact ⟨sub_nonneg.mpr enough, by linarith⟩

omit [IsStrictOrderedRing K] in
/-- An accepted take pays one token out of what was left and what has been refilled since. -/
theorem tokens_take? (took : bucket.take? capacity rate now = some taken) :
    taken.tokens + 1 ≤ bucket.tokens + (now - bucket.refilledAt) * rate ∧
      taken.refilledAt = now := by
  rcases take?_eq_some.mp took with ⟨-, rfl⟩
  have refilled : bucket.level capacity rate now ≤
      bucket.tokens + (now - bucket.refilledAt) * rate := min_le_right ..
  exact ⟨by simpa using refilled, rfl⟩

/-- From a bucket on, the takes accepted up to a moment are paid from its tokens and the refill. -/
theorem length_le {times window : List K} (within : bucket.Within capacity)
    (begins : window <+: bucket.accepted capacity rate times) :
    (window.length : K) ≤
      bucket.tokens + (window.getLastD bucket.refilledAt - bucket.refilledAt) * rate := by
  induction times generalizing bucket window with
  | nil =>
      obtain rfl := List.prefix_nil.mp begins
      simpa using within.nonneg
  | cons now rest ih =>
      rw [accepted] at begins
      cases took : bucket.take? capacity rate now with
      | none =>
          rw [took] at begins
          exact ih within begins
      | some taken =>
          rw [took] at begins
          rcases tokens_take? took with ⟨paid, refilledAt⟩
          rcases List.prefix_cons_iff.mp begins with rfl | ⟨later, rfl, rest'⟩
          · simpa using within.nonneg
          · have paid' := ih (Within.take? took) rest'
            rw [refilledAt] at paid'
            have elapsed : (later.getLastD now - bucket.refilledAt) * rate =
                (later.getLastD now - now) * rate + (now - bucket.refilledAt) * rate := by
              ring
            rw [List.length_cons, Nat.cast_succ, List.getLastD_cons, elapsed]
            linarith

/-- In any window the accepted takes are at most the capacity and what is refilled in it. -/
theorem burst_le {times window : List K} {first : K} (within : bucket.Within capacity)
    (part : first :: window <:+: bucket.accepted capacity rate times) :
    (window.length : K) + 1 ≤ capacity + (window.getLastD first - first) * rate := by
  induction times generalizing bucket with
  | nil => cases List.infix_nil.mp part
  | cons now rest ih =>
      rw [accepted] at part
      cases took : bucket.take? capacity rate now with
      | none =>
          rw [took] at part
          exact ih within part
      | some taken =>
          rw [took] at part
          have within' := Within.take? took
          rcases List.infix_cons_iff.mp part with begins | later
          · rcases List.cons_prefix_cons.mp begins with ⟨rfl, rest'⟩
            have paid := length_le within' rest'
            have capped : taken.tokens + 1 ≤ capacity := by
              rcases take?_eq_some.mp took with ⟨-, rfl⟩
              rw [sub_add_cancel]
              exact min_le_left ..
            rw [(tokens_take? took).2] at paid
            linarith
          · exact ih within' later

end TokenBucket
