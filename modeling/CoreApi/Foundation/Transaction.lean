/-!
# Transaction bodies

A transaction body is a program that runs statements on a database. A statement
reads what the transaction sees, decides on its writes and hands the reading to
the rest of the body; the writes stay pending until the transaction commits.
-/

/-- A body ends with a result, or runs one statement and goes on. -/
inductive Tx (Db Write Error Value : Type) where
  | done (result : Except Error Value)
  | statement (writes : Db → List Write) (next : Db → Tx Db Write Error Value)

namespace Tx

variable {Db Write Error Value Other : Type}

/-- Goes on with the value, unless there was an error. -/
def bind : Tx Db Write Error Value → (Value → Tx Db Write Error Other) →
    Tx Db Write Error Other
  | done (.error error), _ => done (.error error)
  | done (.ok value), next => next value
  | statement writes rest, next => statement writes fun db => (rest db).bind next

instance : Monad (Tx Db Write Error) where
  pure value := done (.ok value)
  bind := bind

/-- End the body with an error; the transaction will roll back. -/
def fail (error : Error) : Tx Db Write Error Value := done (.error error)

/-- One statement: it fails and writes nothing, or it writes and returns a value. -/
def execute (run : Db → Except Error (List Write × Value)) : Tx Db Write Error Value :=
  statement (fun db => ((run db).toOption.map Prod.fst).getD [])
    fun db => done ((run db).map Prod.snd)

/-- A statement that only reads. -/
def read (query : Db → Value) : Tx Db Write Error Value := execute fun db => .ok ([], query db)

/-- A statement that only writes. -/
def write (writes : List Write) : Tx Db Write Error Unit := execute fun _ => .ok (writes, ())

@[simp]
theorem pure_bind (value : Value) (next : Value → Tx Db Write Error Other) :
    (pure value : Tx Db Write Error Value) >>= next = next value := rfl

@[simp]
theorem fail_bind (error : Error) (next : Value → Tx Db Write Error Other) :
    (fail error : Tx Db Write Error Value) >>= next = fail error := rfl

theorem bind_assoc {Last : Type} (body : Tx Db Write Error Value)
    (next : Value → Tx Db Write Error Other) (last : Other → Tx Db Write Error Last) :
    body >>= next >>= last = body >>= fun value => next value >>= last := by
  change (body.bind next).bind last = body.bind fun value => (next value).bind last
  induction body with
  | done result =>
      cases result with
      | error error => rfl
      | ok value => rfl
  | statement writes rest ih => simp only [bind, ih]

end Tx

/-- How a database applies a write, and which lock a write takes until its transaction ends. -/
structure Engine (Db Write Lock : Type) where
  apply : Db → Write → Db
  lock : Write → Option Lock

namespace Engine

variable {Db Write Lock : Type} (engine : Engine Db Write Lock)

/-- The database as seen by a transaction that has written `pending`. -/
def view (db : Db) (pending : List Write) : Db := pending.foldl engine.apply db

@[simp]
theorem view_nil (db : Db) : engine.view db [] = db := rfl

theorem view_append (db : Db) (pending more : List Write) :
    engine.view db (pending ++ more) = engine.view (engine.view db pending) more :=
  List.foldl_append

/-- What every write keeps a transaction keeps. -/
theorem view_keeps {engine : Engine Db Write Lock} (Inv : Db → Prop) {db : Db}
    {pending : List Write} (inv : Inv db)
    (keeps : ∀ write ∈ pending, ∀ db, Inv db → Inv (engine.apply db write)) :
    Inv (engine.view db pending) :=
  List.foldlRecOn pending engine.apply inv fun db inv write member => keeps write member db inv

/-- No lock is taken on both sides. -/
def Apart (pending other : List Write) : Prop :=
  ∀ write ∈ pending, ∀ lock, engine.lock write = some lock →
    ∀ write' ∈ other, engine.lock write' ≠ some lock

variable {engine}

theorem Apart.symm {pending other : List Write} (apart : engine.Apart pending other) :
    engine.Apart other pending := by
  intro write member lock takes write' member' takes'
  exact apart write' member' lock takes' write member takes

theorem Apart.nil (pending : List Write) : engine.Apart pending [] := by
  intro write _ lock _ write' member
  exact absurd member List.not_mem_nil

theorem Apart.mono {pending other fewer : List Write} (apart : engine.Apart pending other)
    (sub : fewer ⊆ other) : engine.Apart pending fewer := by
  intro write member lock takes write' member'
  exact apart write member lock takes write' (sub member')

theorem Apart.append {pending other more : List Write} (apart : engine.Apart pending other)
    (apart' : engine.Apart pending more) : engine.Apart pending (other ++ more) := by
  intro write member lock takes write' member'
  rcases List.mem_append.mp member' with old | new
  · exact apart write member lock takes write' old
  · exact apart' write member lock takes write' new

/-- The result and the writes of a body that runs with nobody else around. -/
def aloneFrom {Error Value : Type} (engine : Engine Db Write Lock) (db : Db) :
    List Write → Tx Db Write Error Value → Except Error (Value × List Write)
  | pending, .done result => result.map fun value => (value, pending)
  | pending, .statement writes next =>
      let view := engine.view db pending
      engine.aloneFrom db (pending ++ writes view) (next view)

end Engine
