import Mathlib.Data.List.Nodup

/-!
# Entries in custody

A table holds a row for every entry recorded in it until the entry is completed.
A row is marked as done, or deleted, only when its entry has been completed, so
whatever is not completed is still held by a row that is not done.
-/

universe u v w

/-- The entries recorded, the rows that hold them, and the entries completed. -/
structure Custody {Entry : Type u} {Row : Type v} {Key : Type w} (key : Entry → Key)
    (entry : Row → Entry) (Done : Row → Prop) (recorded : List Entry) (rows : List Row)
    (completed : List Entry) : Prop where
  distinct : (recorded.map key).Nodup
  stored : ∀ row ∈ rows, entry row ∈ recorded
  remains : ∀ one ∈ recorded, one ∈ completed ∨ ∃ row ∈ rows, entry row = one
  done : ∀ row ∈ rows, Done row → entry row ∈ completed
  known : ∀ one ∈ completed, one ∈ recorded

namespace Custody

variable {Entry : Type u} {Row : Type v} {Key : Type w} {key : Entry → Key} {entry : Row → Entry}
  {Done : Row → Prop} {recorded completed : List Entry} {rows : List Row}

theorem empty : Custody key entry Done [] [] [] where
  distinct := List.nodup_nil
  stored _ member := absurd member List.not_mem_nil
  remains _ member := absurd member List.not_mem_nil
  done _ member := absurd member List.not_mem_nil
  known _ member := absurd member List.not_mem_nil

/-- The key tells the recorded entries apart. -/
theorem entry_of_key (custody : Custody key entry Done recorded rows completed) {one other : Entry}
    (member : one ∈ recorded) (member' : other ∈ recorded) (same : key one = key other) :
    one = other :=
  List.inj_on_of_nodup_map custody.distinct member member' same

/-- What is not completed is held by a row that is not done. -/
theorem held (custody : Custody key entry Done recorded rows completed) {one : Entry}
    (member : one ∈ recorded) (incomplete : one ∉ completed) :
    ∃ row ∈ rows, entry row = one ∧ ¬ Done row := by
  rcases custody.remains one member with old | ⟨row, stored, rfl⟩
  · exact absurd old incomplete
  · exact ⟨row, stored, rfl, fun done => incomplete (custody.done row stored done)⟩

/-- A statement that changes rows but keeps their entries. -/
theorem map_rows (custody : Custody key entry Done recorded rows completed) {change : Row → Row}
    (same : ∀ row, entry (change row) = entry row)
    (done : ∀ row ∈ rows, Done (change row) → Done row ∨ entry row ∈ completed) :
    Custody key entry Done recorded (rows.map change) completed where
  distinct := custody.distinct
  stored changed member := by
    rcases List.mem_map.mp member with ⟨row, stored, rfl⟩
    rw [same]
    exact custody.stored row stored
  remains one member := by
    rcases custody.remains one member with old | ⟨row, stored, rfl⟩
    · exact .inl old
    · exact .inr ⟨change row, List.mem_map_of_mem stored, same row⟩
  done changed member isDone := by
    rcases List.mem_map.mp member with ⟨row, stored, rfl⟩
    rw [same]
    rcases done row stored isDone with before | completed
    · exact custody.done row stored before
    · exact completed
  known := custody.known

/-- A statement that deletes rows that are done. -/
theorem filter_rows (custody : Custody key entry Done recorded rows completed) {keep : Row → Bool}
    (deleted : ∀ row ∈ rows, keep row = false → Done row) :
    Custody key entry Done recorded (rows.filter keep) completed where
  distinct := custody.distinct
  stored row member := custody.stored row (List.mem_of_mem_filter member)
  remains one member := by
    rcases custody.remains one member with old | ⟨row, stored, rfl⟩
    · exact .inl old
    · cases kept : keep row with
      | true => exact .inr ⟨row, List.mem_filter.mpr ⟨stored, kept⟩, rfl⟩
      | false => exact .inl (custody.done row stored (deleted row stored kept))
  done row member := custody.done row (List.mem_of_mem_filter member)
  known := custody.known

/-- A new entry, recorded under a fresh key by a row that is not done. -/
theorem record (custody : Custody key entry Done recorded rows completed) {row : Row}
    (fresh : ∀ one ∈ recorded, key one ≠ key (entry row)) (unfinished : ¬ Done row) :
    Custody key entry Done (recorded ++ [entry row]) (rows ++ [row]) completed where
  distinct := by
    rw [List.map_append, List.nodup_append]
    refine ⟨custody.distinct, List.nodup_singleton _, ?_⟩
    intro old member last lastMember same
    rcases List.mem_map.mp member with ⟨one, known, rfl⟩
    exact fresh one known (same.trans (List.mem_singleton.mp lastMember))
  stored stored member := by
    rcases List.mem_append.mp member with old | new
    · exact List.mem_append_left _ (custody.stored stored old)
    · rw [List.mem_singleton.mp new]
      exact List.mem_append_right _ (List.mem_singleton_self _)
  remains one member := by
    rcases List.mem_append.mp member with old | new
    · rcases custody.remains one old with completed | ⟨stored, found, same⟩
      · exact .inl completed
      · exact .inr ⟨stored, List.mem_append_left _ found, same⟩
    · exact .inr ⟨row, List.mem_append_right _ (List.mem_singleton_self _),
        (List.mem_singleton.mp new).symm⟩
  done stored member isDone := by
    rcases List.mem_append.mp member with old | new
    · exact custody.done stored old isDone
    · rw [List.mem_singleton.mp new] at isDone
      exact absurd isDone unfinished
  known one member := List.mem_append_left _ (custody.known one member)

/-- A recorded entry is completed, for the first time or again. -/
theorem complete (custody : Custody key entry Done recorded rows completed) {one : Entry}
    (member : one ∈ recorded) :
    Custody key entry Done recorded rows (completed ++ [one]) where
  distinct := custody.distinct
  stored := custody.stored
  remains other old := (custody.remains other old).imp_left (List.mem_append_left _)
  done row stored isDone := List.mem_append_left _ (custody.done row stored isDone)
  known other member' := by
    rcases List.mem_append.mp member' with old | new
    · exact custody.known other old
    · rw [List.mem_singleton.mp new]
      exact member

end Custody
