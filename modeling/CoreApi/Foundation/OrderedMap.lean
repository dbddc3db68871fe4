import Mathlib.Algebra.BigOperators.Group.List.Basic
import Mathlib.Data.List.Nodup
import Mathlib.Tactic.Abel

/-!
# Maps that remember insertion order

A finite map kept as its entries in the order their keys were first inserted.
Overwriting a key keeps its place and deleting it forgets the place. A total
over the values is determined by the lookups alone: writing or deleting one key
changes it by the weight of that key only.
-/

universe u v w

/-- Entries in insertion order, with no key twice. -/
structure OrderedMap (Key : Type u) (Value : Type v) where
  entries : List (Key × Value)
  distinct : (entries.map Prod.fst).Nodup

namespace OrderedMap

variable {Key : Type u} {Value : Type v} [DecidableEq Key]

/-- Overwrite the entry of `key` where it stands, or append a new one. -/
def setEntries (key : Key) (value : Value) : List (Key × Value) → List (Key × Value)
  | [] => [(key, value)]
  | entry :: rest =>
      if entry.1 = key then (key, value) :: rest else entry :: setEntries key value rest

theorem mem_keys_setEntries {key other : Key} {value : Value} {entries : List (Key × Value)} :
    other ∈ (setEntries key value entries).map Prod.fst ↔
      other = key ∨ other ∈ entries.map Prod.fst := by
  induction entries with
  | nil => simp [setEntries]
  | cons entry rest ih =>
      by_cases same : entry.1 = key
      · simp [setEntries, same]
      · simp only [setEntries, if_neg same, List.map_cons, List.mem_cons, ih]
        exact or_left_comm

theorem nodup_setEntries {key : Key} {value : Value} {entries : List (Key × Value)}
    (distinct : (entries.map Prod.fst).Nodup) :
    ((setEntries key value entries).map Prod.fst).Nodup := by
  induction entries with
  | nil => simp [setEntries]
  | cons entry rest ih =>
      simp only [List.map_cons, List.nodup_cons] at distinct
      by_cases same : entry.1 = key
      · subst same
        simpa [setEntries] using distinct
      · simp only [setEntries, if_neg same, List.map_cons, List.nodup_cons]
        refine ⟨?_, ih distinct.2⟩
        rw [mem_keys_setEntries]
        rintro (same' | old)
        · exact same same'
        · exact distinct.1 old

def empty : OrderedMap Key Value := ⟨[], List.nodup_nil⟩

def get? (map : OrderedMap Key Value) (key : Key) : Option Value :=
  map.entries.lookup key

/-- A key that is there keeps its place; a new one comes last. -/
def set (map : OrderedMap Key Value) (key : Key) (value : Value) : OrderedMap Key Value :=
  ⟨setEntries key value map.entries, nodup_setEntries map.distinct⟩

/-- The map without a key. -/
def delete (map : OrderedMap Key Value) (key : Key) : OrderedMap Key Value where
  entries := map.entries.filter fun entry => entry.1 ≠ key
  distinct := map.distinct.sublist (List.filter_sublist.map Prod.fst)

/-- The values in the order of their keys. -/
def values (map : OrderedMap Key Value) : List Value := map.entries.map Prod.snd

@[simp]
theorem get?_empty (key : Key) : (empty : OrderedMap Key Value).get? key = none := rfl

theorem lookup_cons_eq_ite {key first : Key} {stored : Value} {rest : List (Key × Value)} :
    ((first, stored) :: rest).lookup key =
      if key = first then some stored else rest.lookup key := by
  by_cases hit : key = first
  · simp [hit]
  · simp [List.lookup_cons, beq_eq_false_iff_ne.mpr hit, hit]

theorem lookup_setEntries {key other : Key} {value : Value} {entries : List (Key × Value)} :
    (setEntries key value entries).lookup other =
      if other = key then some value else entries.lookup other := by
  induction entries with
  | nil => simp [setEntries, lookup_cons_eq_ite]
  | cons entry rest ih =>
      rcases entry with ⟨first, stored⟩
      by_cases same : first = key
      · subst same
        by_cases hit : other = first <;> simp [setEntries, lookup_cons_eq_ite, hit]
      · by_cases hit : other = first
        · subst hit
          simp [setEntries, same]
        · simp [setEntries, same, lookup_cons_eq_ite, hit, ih]

theorem get?_set (map : OrderedMap Key Value) (key other : Key) (value : Value) :
    (map.set key value).get? other = if other = key then some value else map.get? other :=
  lookup_setEntries

theorem lookup_filter_ne {key other : Key} {entries : List (Key × Value)} :
    (entries.filter fun entry => entry.1 ≠ key).lookup other =
      if other = key then none else entries.lookup other := by
  induction entries with
  | nil => simp
  | cons entry rest ih =>
      rcases entry with ⟨first, stored⟩
      by_cases same : first = key
      · subst same
        by_cases hit : other = first
        · simpa [hit] using ih
        · simpa [hit, lookup_cons_eq_ite] using ih
      · by_cases hit : other = first
        · subst hit
          simp [same]
        · simpa [same, hit, lookup_cons_eq_ite] using ih

theorem get?_delete (map : OrderedMap Key Value) (key other : Key) :
    (map.delete key).get? other = if other = key then none else map.get? other :=
  lookup_filter_ne

theorem lookup_eq_some_iff {key : Key} {value : Value} {entries : List (Key × Value)}
    (distinct : (entries.map Prod.fst).Nodup) :
    entries.lookup key = some value ↔ (key, value) ∈ entries := by
  induction entries with
  | nil => simp
  | cons entry rest ih =>
      rcases entry with ⟨first, stored⟩
      simp only [List.map_cons, List.nodup_cons] at distinct
      by_cases hit : key = first
      · subst hit
        have absent : (key, value) ∉ rest := fun member =>
          distinct.1 (List.mem_map.mpr ⟨_, member, rfl⟩)
        simp [absent, eq_comm]
      · simp [lookup_cons_eq_ite, hit, ih distinct.2]

/-- The same keys in the same order, each with a changed value. -/
def mapValues {Other : Type*} (change : Value → Other) (map : OrderedMap Key Value) :
    OrderedMap Key Other where
  entries := map.entries.map fun entry => (entry.1, change entry.2)
  distinct := by simpa [Function.comp_def] using map.distinct

theorem lookup_mapValues {Other : Type*} (change : Value → Other) (key : Key)
    (entries : List (Key × Value)) :
    (entries.map fun entry => (entry.1, change entry.2)).lookup key =
      (entries.lookup key).map change := by
  induction entries with
  | nil => rfl
  | cons entry rest ih =>
      rcases entry with ⟨first, stored⟩
      by_cases hit : key = first <;> simp [lookup_cons_eq_ite, hit, ih]

@[simp]
theorem get?_mapValues {Other : Type*} (change : Value → Other) (map : OrderedMap Key Value)
    (key : Key) : (map.mapValues change).get? key = (map.get? key).map change :=
  lookup_mapValues change key map.entries

theorem mapValues_set {Other : Type*} (change : Value → Other) (map : OrderedMap Key Value)
    (key : Key) (value : Value) :
    (map.set key value).mapValues change = (map.mapValues change).set key (change value) := by
  have entries : ∀ entries : List (Key × Value),
      (setEntries key value entries).map (fun entry => (entry.1, change entry.2)) =
        setEntries key (change value) (entries.map fun entry => (entry.1, change entry.2)) := by
    intro entries
    induction entries with
    | nil => rfl
    | cons entry rest ih =>
        by_cases same : entry.1 = key <;> simp [setEntries, same, ih]
  simp only [mapValues, set, entries]

omit [DecidableEq Key] in
@[simp]
theorem values_mapValues {Other : Type*} (change : Value → Other) (map : OrderedMap Key Value) :
    (map.mapValues change).values = map.values.map change := by
  simp [values, mapValues, Function.comp_def]

/-- The same values in the same order under other keys. -/
def mapKeys {Other : Type*} (rename : Key → Other) (injective : Function.Injective rename)
    (map : OrderedMap Key Value) : OrderedMap Other Value where
  entries := map.entries.map fun entry => (rename entry.1, entry.2)
  distinct := by
    have renamed := map.distinct.map injective
    rwa [List.map_map] at renamed ⊢

omit [DecidableEq Key] in
@[simp]
theorem values_mapKeys {Other : Type*} (rename : Key → Other)
    (injective : Function.Injective rename) (map : OrderedMap Key Value) :
    (map.mapKeys rename injective).values = map.values := by
  simp [values, mapKeys, Function.comp_def]

/-- A value is stored exactly when some key looks it up. -/
theorem mem_values {map : OrderedMap Key Value} {value : Value} :
    value ∈ map.values ↔ ∃ key, map.get? key = some value := by
  simp only [values, List.mem_map, get?, lookup_eq_some_iff map.distinct, Prod.exists,
    exists_eq_right]

/-- Every entry satisfies a condition on its key and its value. -/
def All (condition : Key → Value → Prop) (map : OrderedMap Key Value) : Prop :=
  ∀ key value, map.get? key = some value → condition key value

section All

variable {condition : Key → Value → Prop} {map : OrderedMap Key Value}

theorem All.empty : (empty : OrderedMap Key Value).All condition := by
  intro key value stored
  cases stored

theorem All.mono {weaker : Key → Value → Prop} (all : map.All condition)
    (weaken : ∀ key value, condition key value → weaker key value) : map.All weaker :=
  fun key value stored => weaken key value (all key value stored)

theorem All.set (all : map.All condition) {key : Key} {value : Value}
    (holds : condition key value) : (map.set key value).All condition := by
  intro other stored found
  rw [get?_set] at found
  split at found
  · next same =>
      cases found
      rwa [same]
  · exact all other stored found

theorem All.delete (all : map.All condition) (key : Key) : (map.delete key).All condition := by
  intro other stored found
  rw [get?_delete] at found
  split at found
  · cases found
  · exact all other stored found

/-- Where values stand under keys of their own, each is the value of its key. -/
theorem All.get?_of_mem {keyOf : Value → Key} (keyed : map.All fun key value => keyOf value = key)
    {value : Value} (member : value ∈ map.values) : map.get? (keyOf value) = some value := by
  rcases mem_values.mp member with ⟨key, stored⟩
  rw [keyed key value stored]
  exact stored

theorem All.mapValues {Other : Type*} {condition : Key → Other → Prop} {change : Value → Other}
    (all : map.All fun key value => condition key (change value)) :
    (map.mapValues change).All condition := by
  intro key value found
  rw [get?_mapValues, Option.map_eq_some_iff] at found
  rcases found with ⟨stored, found, rfl⟩
  exact all key stored found

theorem All.mapKeys {Other : Type*} [DecidableEq Other] {condition : Other → Value → Prop}
    {rename : Key → Other} (injective : Function.Injective rename)
    (all : map.All fun key value => condition (rename key) value) :
    (map.mapKeys rename injective).All condition := by
  intro key value found
  rw [get?, lookup_eq_some_iff (map.mapKeys rename injective).distinct] at found
  rcases List.mem_map.mp found with ⟨entry, stored, same⟩
  cases same
  exact all entry.1 entry.2 ((lookup_eq_some_iff map.distinct).mpr stored)

end All

section Total

variable {Weight : Type w} [AddCommMonoid Weight] (weight : Value → Weight)

/-- The sum of a weight over the stored values. -/
def total (map : OrderedMap Key Value) : Weight := (map.values.map weight).sum

/-- What one key contributes to a total. -/
def weightAt (map : OrderedMap Key Value) (key : Key) : Weight :=
  (map.get? key).elim 0 weight

/-- Writing a key replaces its old contribution by the new one. -/
theorem total_set (map : OrderedMap Key Value) (key : Key) (value : Value) :
    (map.set key value).total weight + map.weightAt weight key =
      map.total weight + weight value := by
  rcases map with ⟨entries, distinct⟩
  simp only [total, values, weightAt, get?, set]
  clear distinct
  induction entries with
  | nil => simp [setEntries]
  | cons entry rest ih =>
      rcases entry with ⟨first, stored⟩
      by_cases same : first = key
      · subst same
        simp only [setEntries, if_true, List.map_cons, List.sum_cons, List.lookup_cons_self,
          Option.elim_some]
        abel
      · simp only [setEntries, if_neg same, List.map_cons, List.sum_cons, lookup_cons_eq_ite,
          if_neg (Ne.symm same)]
        rw [add_assoc, ih, add_assoc]

/-- Deleting a key removes its contribution. -/
theorem total_delete (map : OrderedMap Key Value) (key : Key) :
    (map.delete key).total weight + map.weightAt weight key = map.total weight := by
  rcases map with ⟨entries, distinct⟩
  simp only [total, values, weightAt, get?, delete]
  induction entries with
  | nil => simp
  | cons entry rest ih =>
      rcases entry with ⟨first, stored⟩
      simp only [List.map_cons, List.nodup_cons] at distinct
      by_cases same : first = key
      · subst same
        have kept : rest.filter (fun entry => entry.1 ≠ first) = rest := by
          rw [List.filter_eq_self]
          intro entry member
          simp only [ne_eq, decide_eq_true_eq]
          rintro rfl
          exact distinct.1 (List.mem_map.mpr ⟨_, member, rfl⟩)
        simp only [ne_eq, not_true_eq_false, decide_false, Bool.false_eq_true, not_false_eq_true,
          List.filter_cons_of_neg, List.lookup_cons_self, Option.elim_some, List.map_cons,
          List.sum_cons]
        rw [show rest.filter (fun entry => decide (¬entry.1 = first)) = rest from kept, add_comm]
      · rw [List.filter_cons_of_pos (by simpa using same)]
        simp only [List.map_cons, List.sum_cons, lookup_cons_eq_ite, if_neg (Ne.symm same)]
        rw [add_assoc, ih distinct.2]

end Total

end OrderedMap
