import CoreApi.Foundation.Component

/-!
# Two runs of one body

A body is confined if it gives the same result and writes the same from two
databases, and everything it writes is allowed. Each statement is checked on the
two databases side by side, and the checked statements compose.
-/

namespace Engine

variable {Db Write Lock Error Value Other : Type}

/-- The body cannot tell the databases apart and writes only what is allowed. -/
structure Confined (engine : Engine Db Write Lock) (allowed : Write → Prop) (db db' : Db)
    (pending : List Write) (body : Tx Db Write Error Value) : Prop where
  same : engine.aloneFrom db pending body = engine.aloneFrom db' pending body
  writes : ∀ value writes, engine.aloneFrom db pending body = .ok (value, writes) →
    ∃ more, writes = pending ++ more ∧ ∀ write ∈ more, allowed write

theorem aloneFrom_bind (engine : Engine Db Write Lock) (db : Db) (pending : List Write)
    (body : Tx Db Write Error Other) (next : Other → Tx Db Write Error Value) :
    engine.aloneFrom db pending (body >>= next) =
      match engine.aloneFrom db pending body with
      | .error error => .error error
      | .ok (value, more) => engine.aloneFrom db more (next value) := by
  change engine.aloneFrom db pending (body.bind next) = _
  induction body generalizing pending with
  | done result =>
      cases result with
      | error error => rfl
      | ok value => rfl
  | statement produced rest ih => exact ih _ _

namespace Confined

variable {engine : Engine Db Write Lock} {allowed : Write → Prop} {db db' : Db}
  {pending : List Write}

theorem pure (value : Value) :
    engine.Confined allowed db db' pending (Pure.pure value : Tx Db Write Error Value) where
  same := rfl
  writes answer writes ran := by
    rcases aloneFrom_pure_eq_ok.mp ran with ⟨-, rfl⟩
    exact ⟨[], (List.append_nil _).symm, by simp⟩

theorem fail (error : Error) :
    engine.Confined allowed db db' pending (.fail error : Tx Db Write Error Value) where
  same := rfl
  writes _ _ ran := absurd ran aloneFrom_fail_eq_ok

theorem bind {body : Tx Db Write Error Other} {next : Other → Tx Db Write Error Value}
    (first : engine.Confined allowed db db' pending body)
    (rest : ∀ value more, engine.aloneFrom db pending body = .ok (value, more) →
      engine.Confined allowed db db' more (next value)) :
    engine.Confined allowed db db' pending (body >>= next) where
  same := by
    rw [aloneFrom_bind, aloneFrom_bind, ← first.same]
    cases ran : engine.aloneFrom db pending body with
    | error error => rfl
    | ok answer => exact (rest answer.1 answer.2 ran).same
  writes answer writes ran := by
    rcases aloneFrom_bind_eq_ok.mp ran with ⟨value, more, ran, ran'⟩
    rcases first.writes value more ran with ⟨some, rfl, within⟩
    rcases (rest value _ ran).writes answer writes ran' with ⟨others, rfl, within'⟩
    refine ⟨some ++ others, List.append_assoc _ _ _, ?_⟩
    intro write member
    rcases List.mem_append.mp member with old | new
    · exact within write old
    · exact within' write new

theorem map {body : Tx Db Write Error Other} (change : Other → Value)
    (confined : engine.Confined allowed db db' pending body) :
    engine.Confined allowed db db' pending (change <$> body) :=
  bind confined fun value _ _ => pure (change value)

/-- The rule for a statement: it does the same on both, and writes what is allowed. -/
theorem execute {run : Db → Except Error (List Write × Value)}
    (same : run (engine.view db pending) = run (engine.view db' pending))
    (within : ∀ more value, run (engine.view db pending) = .ok (more, value) →
      ∀ write ∈ more, allowed write) :
    engine.Confined allowed db db' pending (.execute run) where
  same := by
    simp only [Tx.execute, Engine.aloneFrom, same]
  writes value writes ran := by
    rcases aloneFrom_execute_eq_ok.mp ran with ⟨more, answered, rfl⟩
    exact ⟨more, rfl, within more value answered⟩

theorem read {query : Db → Value}
    (same : query (engine.view db pending) = query (engine.view db' pending)) :
    engine.Confined allowed db db' pending (.read query : Tx Db Write Error Value) := by
  refine execute (by rw [same]) ?_
  intro more value ran
  cases ran
  simp

theorem write {more : List Write} (within : ∀ write ∈ more, allowed write) :
    engine.Confined allowed db db' pending (.write more : Tx Db Write Error Unit) := by
  refine execute rfl ?_
  intro more' value ran
  cases ran
  exact within

/-- A statement after a read continues with what both databases show. -/
theorem read_bind {query : Db → Other} {next : Other → Tx Db Write Error Value}
    (same : query (engine.view db pending) = query (engine.view db' pending))
    (rest : engine.Confined allowed db db' pending (next (query (engine.view db pending)))) :
    engine.Confined allowed db db' pending (.read query >>= next) := by
  refine bind (read same) ?_
  intro value more ran
  rcases aloneFrom_read_eq_ok.mp ran with ⟨rfl, rfl⟩
  exact rest

/-- A confined body fails on both databases or writes the same on both. -/
theorem run_cases {body : Tx Db Write Error Value}
    (confined : engine.Confined allowed db db' [] body) :
    (∃ error, engine.run db body = (.error error, db) ∧
      engine.run db' body = (.error error, db')) ∨
    ∃ value writes, engine.run db body = (.ok value, engine.view db writes) ∧
      engine.run db' body = (.ok value, engine.view db' writes) ∧
      ∀ write ∈ writes, allowed write := by
  simp only [run, ← confined.same]
  cases ran : engine.aloneFrom db [] body with
  | error error => exact .inl ⟨error, rfl, rfl⟩
  | ok answer =>
      rcases confined.writes answer.1 answer.2 ran with ⟨more, same, within⟩
      rw [List.nil_append] at same
      exact .inr ⟨answer.1, answer.2, rfl, rfl, same ▸ within⟩

end Confined

end Engine

/-- A body that is confined on the part is confined on the whole. -/
theorem Component.confined {Db Write Lock Part PartWrite PartLock Error PartError Value : Type}
    {whole : Engine Db Write Lock} {part : Engine Part PartWrite PartLock}
    (component : Component whole part) {raise : PartError → Error}
    {body : Tx Part PartWrite PartError Value} {allowed : Write → Prop} {db db' : Db}
    {pending : List Write}
    (confined : part.Confined (fun write => allowed (component.wrap write))
      (component.view (whole.view db pending)) (component.view (whole.view db' pending)) [] body) :
    whole.Confined allowed db db' pending (component.lift raise body) where
  same := by
    rw [component.aloneFrom_lift, component.aloneFrom_lift, confined.same]
  writes value writes ran := by
    rcases component.aloneFrom_lift_eq_ok.mp ran with ⟨more, alone, rfl⟩
    rcases confined.writes value more alone with ⟨written, same, within⟩
    refine ⟨more.map component.wrap, rfl, ?_⟩
    intro write member
    rcases List.mem_map.mp member with ⟨produced, among, rfl⟩
    rw [same] at among
    exact within produced among
