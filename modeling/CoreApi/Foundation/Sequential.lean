import Mathlib.Data.List.Induction
import CoreApi.Foundation.Transaction
import CoreApi.Foundation.TransitionSystem

/-!
# Commands one after another

Each command runs its transaction body with nobody else around: it commits what
it has written, or it fails and leaves no trace. A run is taken apart command by
command, and a command statement by statement.
-/

namespace Engine

variable {Db Write Lock Error Value Other : Type} {engine : Engine Db Write Lock} {db : Db}
  {pending writes : List Write}

@[simp]
theorem aloneFrom_pure_eq_ok {value answer : Value} :
    engine.aloneFrom db pending (pure value : Tx Db Write Error Value) = .ok (answer, writes) ↔
      value = answer ∧ pending = writes := by
  change Except.ok (value, pending) = Except.ok (answer, writes) ↔ _
  simp

@[simp]
theorem aloneFrom_fail_eq_ok {error : Error} {answer : Value} :
    ¬ engine.aloneFrom db pending (.fail error : Tx Db Write Error Value) =
      .ok (answer, writes) := by
  intro ran
  cases ran

theorem aloneFrom_bind_eq_ok {body : Tx Db Write Error Other}
    {next : Other → Tx Db Write Error Value} {answer : Value} :
    engine.aloneFrom db pending (body >>= next) = .ok (answer, writes) ↔
      ∃ value more, engine.aloneFrom db pending body = .ok (value, more) ∧
        engine.aloneFrom db more (next value) = .ok (answer, writes) := by
  change engine.aloneFrom db pending (body.bind next) = _ ↔ _
  induction body generalizing pending with
  | done result =>
      cases result with
      | error error => simp [Tx.bind, Engine.aloneFrom, Except.map]
      | ok value =>
          simp only [Tx.bind, Engine.aloneFrom, Except.map, Except.ok.injEq, Prod.mk.injEq]
          constructor
          · intro ran
            exact ⟨value, pending, ⟨rfl, rfl⟩, ran⟩
          · rintro ⟨_, _, ⟨rfl, rfl⟩, ran⟩
            exact ran
  | statement produced rest ih => exact ih _

theorem aloneFrom_map_eq_ok {body : Tx Db Write Error Other} {change : Other → Value}
    {answer : Value} :
    engine.aloneFrom db pending (change <$> body) = .ok (answer, writes) ↔
      ∃ value, engine.aloneFrom db pending body = .ok (value, writes) ∧ change value = answer := by
  change engine.aloneFrom db pending (body >>= fun value => pure (change value)) = _ ↔ _
  simp only [aloneFrom_bind_eq_ok, aloneFrom_pure_eq_ok]
  constructor
  · rintro ⟨value, more, ran, same, rfl⟩
    exact ⟨value, ran, same⟩
  · rintro ⟨value, ran, same⟩
    exact ⟨value, writes, ran, same, rfl⟩

theorem aloneFrom_execute_eq_ok {run : Db → Except Error (List Write × Value)} {answer : Value} :
    engine.aloneFrom db pending (.execute run) = .ok (answer, writes) ↔
      ∃ more, run (engine.view db pending) = .ok (more, answer) ∧ writes = pending ++ more := by
  dsimp only [Tx.execute, Engine.aloneFrom]
  cases run (engine.view db pending) with
  | error error => simp [Except.map]
  | ok answer' =>
      rcases answer' with ⟨more, value⟩
      simp only [Except.map, Except.toOption, Option.map_some, Option.getD_some, Except.ok.injEq,
        Prod.mk.injEq]
      constructor
      · rintro ⟨rfl, rfl⟩
        exact ⟨more, ⟨rfl, rfl⟩, rfl⟩
      · rintro ⟨_, ⟨rfl, rfl⟩, rfl⟩
        exact ⟨rfl, rfl⟩

@[simp]
theorem aloneFrom_read_eq_ok {query : Db → Value} {answer : Value} :
    engine.aloneFrom db pending (.read query : Tx Db Write Error Value) = .ok (answer, writes) ↔
      query (engine.view db pending) = answer ∧ pending = writes := by
  rw [Tx.read, aloneFrom_execute_eq_ok]
  constructor
  · rintro ⟨more, ran, rfl⟩
    cases ran
    simp
  · rintro ⟨rfl, rfl⟩
    exact ⟨[], rfl, by simp⟩

@[simp]
theorem aloneFrom_write_eq_ok {more : List Write} {answer : Unit} :
    engine.aloneFrom db pending (.write more : Tx Db Write Error Unit) = .ok (answer, writes) ↔
      pending ++ more = writes := by
  rw [Tx.write, aloneFrom_execute_eq_ok]
  constructor
  · rintro ⟨more, ran, rfl⟩
    cases ran
    rfl
  · rintro rfl
    exact ⟨more, rfl, rfl⟩

/-- The result of a body that runs with nobody else around, and the database it leaves. -/
def run (engine : Engine Db Write Lock) (db : Db) (body : Tx Db Write Error Value) :
    Except Error Value × Db :=
  match engine.aloneFrom db [] body with
  | .ok (value, writes) => (.ok value, engine.view db writes)
  | .error error => (.error error, db)

end Engine

/-- The database, and every command that has committed with its answer, in order. -/
structure Committed (Db Command Value : Type) where
  db : Db
  log : List (Command × Value)

namespace Committed

variable {Db Write Lock Error Command Value : Type}

/-- One command: it commits or leaves no trace. -/
def after (engine : Engine Db Write Lock) (program : Command → Tx Db Write Error Value)
    (state : Committed Db Command Value) (command : Command) : Committed Db Command Value :=
  match engine.aloneFrom state.db [] (program command) with
  | .ok (answer, writes) => ⟨engine.view state.db writes, state.log ++ [(command, answer)]⟩
  | .error _ => state

/-- Any number of commands, each one that may be sent to the database it finds. -/
def system (engine : Engine Db Write Lock) (program : Command → Tx Db Write Error Value)
    (initial : Db → Prop) (sent : Db → Command → Prop) :
    TransitionSystem (Committed Db Command Value) Command where
  Initial state := initial state.db ∧ state.log = []
  Step state command next := sent state.db command ∧ next = state.after engine program command

variable {engine : Engine Db Write Lock} {program : Command → Tx Db Write Error Value}
  {initial : Db → Prop} {sent : Db → Command → Prop} {state : Committed Db Command Value}

theorem after_of_ok {command : Command} {answer : Value} {writes : List Write}
    (ran : engine.aloneFrom state.db [] (program command) = .ok (answer, writes)) :
    state.after engine program command =
      ⟨engine.view state.db writes, state.log ++ [(command, answer)]⟩ := by
  simp only [after, ran]

theorem after_of_error {command : Command} {error : Error}
    (ran : engine.aloneFrom state.db [] (program command) = .error error) :
    state.after engine program command = state := by
  simp only [after, ran]

/-- The rule for invariants: only a command that succeeds matters. -/
theorem invariant_after {J : Committed Db Command Value → Prop} {command : Command}
    (kept : J state) (ok : ∀ answer writes,
      engine.aloneFrom state.db [] (program command) = .ok (answer, writes) →
      J ⟨engine.view state.db writes, state.log ++ [(command, answer)]⟩) :
    J (state.after engine program command) := by
  cases ran : engine.aloneFrom state.db [] (program command) with
  | error error =>
      rw [after_of_error ran]
      exact kept
  | ok result =>
      rw [after_of_ok ran]
      exact ok result.1 result.2 ran

theorem invariant {J : Committed Db Command Value → Prop}
    (reached : (system engine program initial sent).Reachable state)
    (start : ∀ db, initial db → J ⟨db, []⟩)
    (ok : ∀ state command answer writes, J state → sent state.db command →
      engine.aloneFrom state.db [] (program command) = .ok (answer, writes) →
      J ⟨engine.view state.db writes, state.log ++ [(command, answer)]⟩) : J state := by
  refine reached.invariant J ?_ ?_
  · rintro ⟨db, log⟩ ⟨init, rfl⟩
    exact start db init
  · rintro before command after - kept ⟨may, rfl⟩
    exact invariant_after kept fun answer writes => ok before command answer writes kept may

theorem step_of_ok {command : Command} {answer : Value} {writes : List Write}
    (may : sent state.db command)
    (ran : engine.aloneFrom state.db [] (program command) = .ok (answer, writes)) :
    (system engine program initial sent).Step state command
      ⟨engine.view state.db writes, state.log ++ [(command, answer)]⟩ :=
  ⟨may, (after_of_ok ran).symm⟩

theorem reachable_after (reached : (system engine program initial sent).Reachable state)
    (command : Command) (may : sent state.db command) :
    (system engine program initial sent).Reachable (state.after engine program command) :=
  reached.step ⟨may, rfl⟩

/-- The state after a list of commands. -/
def run (engine : Engine Db Write Lock) (program : Command → Tx Db Write Error Value) (db : Db)
    (commands : List Command) : Committed Db Command Value :=
  commands.foldl (after engine program) ⟨db, []⟩

theorem reachable_run {db : Db} (start : initial db) (commands : List Command)
    (may : ∀ command ∈ commands, ∀ db, sent db command) :
    (system engine program initial sent).Reachable (run engine program db commands) := by
  induction commands using List.reverseRecOn with
  | nil => exact .initial ⟨start, rfl⟩
  | append_singleton commands command ih =>
      have reached := ih fun command member => may command (List.mem_append_left _ member)
      have last : run engine program db (commands ++ [command]) =
          (run engine program db commands).after engine program command := by
        simp [run]
      rw [last]
      exact reachable_after reached command
        (may command (List.mem_append_right _ (List.mem_singleton_self _)) _)

end Committed
