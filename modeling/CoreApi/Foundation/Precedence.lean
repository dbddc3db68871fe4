import Mathlib.Order.Lattice

/-!
# Queues that respect a precedence

A queue is ready when, whatever it delivers next, everything that precedes it
has been delivered already. Delivering the head keeps a queue ready; dropping
the head does so only if nothing behind it was waiting for it; and a queue that
is sorted by a key is ready if the key grows along the precedence.
-/

universe u v

variable {Item : Type u} {Key : Type v}

/-- Everything that precedes an item of the queue is done or stands ahead of it. -/
def Ready (precedes : Item → Item → Prop) (done queue : List Item) : Prop :=
  ∀ before later after, queue = before ++ later :: after →
    ∀ earlier, precedes earlier later → earlier ∈ done ∨ earlier ∈ before

namespace Ready

variable {precedes : Item → Item → Prop} {done queue rest : List Item} {head : Item}

theorem nil (precedes : Item → Item → Prop) (done : List Item) : Ready precedes done [] := by
  intro before later after same
  simp at same

theorem mono {precedes' : Item → Item → Prop} {done' : List Item}
    (ready : Ready precedes done queue)
    (fewer : ∀ later ∈ queue, ∀ earlier, precedes' earlier later → precedes earlier later)
    (more : ∀ item ∈ done, item ∈ done') : Ready precedes' done' queue := by
  intro before later after same earlier first
  have first' := fewer later (by simp [same]) earlier first
  exact (ready before later after same earlier first').imp_left (more earlier)

theorem head_done (ready : Ready precedes done (head :: rest)) {earlier : Item}
    (first : precedes earlier head) : earlier ∈ done := by
  simpa using ready [] head rest rfl earlier first

/-- Delivering the head. -/
theorem deliver (ready : Ready precedes done (head :: rest)) :
    Ready precedes (done ++ [head]) rest := by
  intro before later after same earlier first
  rcases ready (head :: before) later after (by simp [same]) earlier first with old | ahead
  · exact .inl (List.mem_append_left _ old)
  · rcases List.mem_cons.mp ahead with rfl | ahead
    · exact .inl (by simp)
    · exact .inr ahead

/-- Dropping the head, if it is done or nothing behind it waits for it. -/
theorem drop (ready : Ready precedes done (head :: rest))
    (harmless : head ∈ done ∨ ∀ later ∈ rest, ¬ precedes head later) :
    Ready precedes done rest := by
  intro before later after same earlier first
  rcases ready (head :: before) later after (by simp [same]) earlier first with old | ahead
  · exact .inl old
  · rcases List.mem_cons.mp ahead with rfl | ahead
    · rcases harmless with old | free
      · exact .inl old
      · exact absurd first (free later (by simp [same]))
    · exact .inr ahead

/-- An item whose predecessors are all in the queue may join it at the end. -/
theorem concat (ready : Ready precedes [] queue)
    (joined : ∀ earlier, precedes earlier head → earlier ∈ queue) :
    Ready precedes [] (queue ++ [head]) := by
  intro before later after same earlier first
  rcases List.eq_nil_or_concat after with rfl | ⟨after', last, rfl⟩
  · obtain ⟨rfl, rfl⟩ := List.append_inj' same rfl |>.imp_right List.singleton_inj.mp
    exact .inr (joined earlier first)
  · refine ready before later after' ?_ earlier first
    have same' : queue ++ [head] = (before ++ later :: after') ++ [last] := by
      rw [same]
      simp
    exact (List.append_inj' same' rfl).1

section Sorted

variable [LinearOrder Key] (key : Item → Key)

theorem of_sorted (sorted : queue.Pairwise fun first second => key first ≤ key second)
    (present : ∀ later ∈ queue, ∀ earlier, precedes earlier later →
      earlier ∈ done ∨ earlier ∈ queue ∧ key earlier < key later) :
    Ready precedes done queue := by
  rintro before later after rfl earlier first
  rcases present later (by simp) earlier first with old | ⟨member, less⟩
  · exact .inl old
  · simp only [List.mem_append, List.mem_cons] at member
    rcases member with ahead | rfl | behind
    · exact .inr ahead
    · exact absurd less (lt_irrefl _)
    · have behind' := (List.pairwise_cons.mp (List.pairwise_append.mp sorted).2.1).1 earlier behind
      exact absurd less (not_lt.mpr behind')

end Sorted

end Ready

/-- What comes before an item of a prefix of a sorted list is in the prefix too. -/
theorem mem_take_of_lt [LinearOrder Key] (key : Item → Key) {items : List Item} {count : ℕ}
    (sorted : items.Pairwise fun first second => key first ≤ key second) {earlier later : Item}
    (taken : later ∈ items.take count) (member : earlier ∈ items)
    (less : key earlier < key later) : earlier ∈ items.take count := by
  rw [← List.take_append_drop count items] at member sorted
  rcases List.mem_append.mp member with prefixed | dropped
  · exact prefixed
  · exact absurd less (not_lt.mpr ((List.pairwise_append.mp sorted).2.2 _ taken _ dropped))
