import CoreApi.Foundation.OrderedMap

/-!
# The rows of one owner

Each row of a table has an owner. A lookup that is restricted to the rows of an
owner, and a write that stays within them, depend on and change nothing else.
-/

namespace OrderedMap

variable {Key Value Owner : Type*} [DecidableEq Key] [DecidableEq Owner] (owner : Value → Owner)
  (map : OrderedMap Key Value) {one other : Owner} {key : Key} {value : Value}

/-- The entries of an owner, in insertion order. -/
def ownedBy (one : Owner) : List (Key × Value) :=
  map.entries.filter fun entry => owner entry.2 = one

/-- Nobody else has a row under the key. -/
def Free (one : Owner) (key : Key) : Prop :=
  ∀ stored, map.get? key = some stored → owner stored = one

/-- A lookup among the rows of an owner. -/
theorem lookup_ownedBy (one : Owner) (key : Key) :
    (map.ownedBy owner one).lookup key = (map.get? key).filter fun value => owner value = one := by
  rcases map with ⟨entries, distinct⟩
  simp only [ownedBy, get?]
  induction entries with
  | nil => simp
  | cons entry rest ih =>
      rcases entry with ⟨first, stored⟩
      simp only [List.map_cons, List.nodup_cons] at distinct
      have ih := ih distinct.2
      by_cases hit : key = first
      · subst hit
        have absent : (rest.lookup key).filter (fun value => owner value = one) = none := by
          rw [List.lookup_eq_none_iff.mpr ?_]
          · rfl
          · intro entry member
            simpa using fun same : key = entry.1 =>
              distinct.1 (List.mem_map.mpr ⟨entry, member, same.symm⟩)
        by_cases own : owner stored = one
        · simp [Option.filter_some, own]
        · simpa [lookup_cons_eq_ite, Option.filter_some, own] using ih.trans absent
      · by_cases own : owner stored = one
        · simpa [lookup_cons_eq_ite, own, hit] using ih
        · simpa [lookup_cons_eq_ite, own, hit] using ih

variable {owner map}

theorem lookup_congr {map' : OrderedMap Key Value}
    (same : map.ownedBy owner one = map'.ownedBy owner one) (key : Key) :
    ((map.get? key).filter fun value => owner value = one) =
      (map'.get? key).filter fun value => owner value = one := by
  rw [← lookup_ownedBy, ← lookup_ownedBy, same]

/-- A lookup with the owner among its conditions. -/
theorem lookup_filter_congr {map' : OrderedMap Key Value}
    (same : map.ownedBy owner one = map'.ownedBy owner one) (key : Key)
    (condition : Value → Prop) [DecidablePred condition] :
    ((map.get? key).filter fun value => owner value = one ∧ condition value) =
      (map'.get? key).filter fun value => owner value = one ∧ condition value := by
  have split : ∀ found : Option Value,
      (found.filter fun value => owner value = one ∧ condition value) =
        (found.filter fun value => owner value = one).filter fun value => condition value := by
    intro found
    cases found with
    | none => rfl
    | some value => by_cases own : owner value = one <;> simp [Option.filter_some, own]
  rw [split, split, lookup_congr same]

/-- Where nobody else has a row, the restriction is no restriction. -/
theorem Free.get?_eq (free : map.Free owner one key) :
    ((map.get? key).filter fun value => owner value = one) = map.get? key := by
  cases stored : map.get? key with
  | none => rfl
  | some value => simp [free value stored]

/-- A key under which the owner has a row. -/
theorem Free.of_filter
    (found : ((map.get? key).filter fun value => owner value = one) = some value) :
    map.Free owner one key := by
  intro stored here
  rcases Option.filter_eq_some_iff.mp found with ⟨here', own⟩
  obtain rfl : value = stored := Option.some.inj (here'.symm.trans here)
  exact of_decide_eq_true own

theorem Free.get?_congr {map' : OrderedMap Key Value} (free : map.Free owner one key)
    (free' : map'.Free owner one key)
    (same : map.ownedBy owner one = map'.ownedBy owner one) : map.get? key = map'.get? key := by
  rw [← free.get?_eq, ← free'.get?_eq, lookup_congr same]

omit [DecidableEq Owner] in
theorem Free.set {key' : Key} (free : map.Free owner one key) (own : owner value = one) :
    (map.set key' value).Free owner one key := by
  intro stored found
  rw [get?_set] at found
  split at found
  · cases found
    exact own
  · exact free stored found

omit [DecidableEq Owner] in
theorem Free.delete (free : map.Free owner one key) (key' : Key) :
    (map.delete key').Free owner one key := by
  intro stored found
  rw [get?_delete] at found
  split at found
  · cases found
  · exact free stored found

/-- The owner's own write is a write among the rows of the owner. -/
theorem ownedBy_set_own (free : map.Free owner one key) (own : owner value = one) :
    (map.set key value).ownedBy owner one = setEntries key value (map.ownedBy owner one) := by
  rcases map with ⟨entries, distinct⟩
  simp only [Free, get?, ownedBy, set] at free ⊢
  clear distinct
  induction entries with
  | nil => simp [setEntries, own]
  | cons entry rest ih =>
      rcases entry with ⟨first, stored⟩
      by_cases same : first = key
      · subst same
        have own' : owner stored = one := free stored (by simp)
        simp [setEntries, own, own']
      · have ih := ih fun stored found => free stored (by
          simpa [lookup_cons_eq_ite, Ne.symm same] using found)
        by_cases own' : owner stored = one
        · simpa [setEntries, same, own'] using ih
        · simpa [setEntries, same, own'] using ih

/-- It is none among the rows of anybody else. -/
theorem ownedBy_set_other (free : map.Free owner one key) (own : owner value = one)
    (distinct : other ≠ one) :
    (map.set key value).ownedBy owner other = map.ownedBy owner other := by
  rcases map with ⟨entries, nodup⟩
  simp only [Free, get?, ownedBy, set] at free ⊢
  clear nodup
  induction entries with
  | nil => simp [setEntries, own, distinct.symm]
  | cons entry rest ih =>
      rcases entry with ⟨first, stored⟩
      by_cases same : first = key
      · subst same
        have own' : owner stored = one := free stored (by simp)
        simp [setEntries, own, own', distinct.symm]
      · have ih := ih fun stored found => free stored (by
          simpa [lookup_cons_eq_ite, Ne.symm same] using found)
        by_cases own' : owner stored = other
        · simpa [setEntries, same, own'] using ih
        · simpa [setEntries, same, own'] using ih

theorem ownedBy_delete_own :
    (map.delete key).ownedBy owner one =
      (map.ownedBy owner one).filter fun entry => entry.1 ≠ key := by
  simp only [ownedBy, delete, List.filter_filter, Bool.and_comm]

theorem ownedBy_delete_other (free : map.Free owner one key) (distinct : other ≠ one) :
    (map.delete key).ownedBy owner other = map.ownedBy owner other := by
  simp only [ownedBy, delete, List.filter_filter]
  refine List.filter_congr fun entry member => ?_
  by_cases own : owner entry.2 = other
  · have away : entry.1 ≠ key := by
      rintro rfl
      have stored : map.get? entry.1 = some entry.2 :=
        (lookup_eq_some_iff map.distinct).mpr member
      exact distinct (own.symm.trans (free _ stored))
    simp [own, away]
  · simp [own]

omit [DecidableEq Key] in
/-- A query with the owner among its conditions is a query of the owner's rows. -/
theorem values_filter_ownedBy (owner : Value → Owner) (map : OrderedMap Key Value) (one : Owner)
    (condition : Value → Prop) [DecidablePred condition] :
    (map.values.filter fun value => owner value = one ∧ condition value) =
      ((map.ownedBy owner one).map Prod.snd).filter fun value => condition value := by
  simp only [values, ownedBy, List.filter_map, List.filter_filter]
  refine congrArg _ (List.filter_congr fun entry _ => ?_)
  simp [Bool.and_comm]

end OrderedMap
