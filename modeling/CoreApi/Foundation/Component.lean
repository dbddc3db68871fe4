import CoreApi.Foundation.ReadCommitted
import CoreApi.Foundation.Sequential

/-!
# A database inside a larger one

A component sees a part of a database and writes to that part only through the
writes of the whole. A body written for the part runs on the whole as it is, and
what is known of it there carries over.
-/

/-- What a part sees of the whole, and how its writes and locks are named there. -/
structure Component {Db Write Lock Part PartWrite PartLock : Type} (whole : Engine Db Write Lock)
    (part : Engine Part PartWrite PartLock) where
  view : Db → Part
  wrap : PartWrite → Write
  wrapLock : PartLock → Lock
  apply_wrap : ∀ db write, view (whole.apply db (wrap write)) = part.apply (view db) write
  lock_wrap : ∀ write, whole.lock (wrap write) = (part.lock write).map wrapLock

namespace Component

variable {Db Write Lock Part PartWrite PartLock Error PartError Value Other : Type}
  {whole : Engine Db Write Lock} {part : Engine Part PartWrite PartLock}
  (component : Component whole part)

/-- A body of the part as a body of the whole. -/
def lift (raise : PartError → Error) :
    Tx Part PartWrite PartError Value → Tx Db Write Error Value
  | .done result => .done (result.mapError raise)
  | .statement writes next =>
      .statement (fun db => (writes (component.view db)).map component.wrap)
        fun db => lift raise (next (component.view db))

section Lift

variable (raise : PartError → Error)

@[simp]
theorem lift_bind (body : Tx Part PartWrite PartError Other)
    (next : Other → Tx Part PartWrite PartError Value) :
    component.lift raise (body >>= next) =
      component.lift raise body >>= fun value => component.lift raise (next value) := by
  change component.lift raise (body.bind next) =
    (component.lift raise body).bind fun value => component.lift raise (next value)
  induction body with
  | done result =>
      cases result with
      | error error => rfl
      | ok value => rfl
  | statement writes rest ih => simp only [Tx.bind, lift, ih]

@[simp]
theorem lift_map (change : Other → Value) (body : Tx Part PartWrite PartError Other) :
    component.lift raise (change <$> body) = change <$> component.lift raise body :=
  component.lift_bind raise body fun value => pure (change value)

@[simp]
theorem lift_execute (run : Part → Except PartError (List PartWrite × Value)) :
    component.lift raise (.execute run) = .execute fun db =>
      ((run (component.view db)).map fun answer =>
        (answer.1.map component.wrap, answer.2)).mapError raise := by
  simp only [Tx.execute, lift]
  congr 1 <;> funext db <;> cases run (component.view db) <;> rfl

@[simp]
theorem lift_read (query : Part → Value) :
    component.lift raise (.read query : Tx Part PartWrite PartError Value) =
      .read fun db => query (component.view db) :=
  component.lift_execute raise _

end Lift

@[simp]
theorem view_wrap (db : Db) (writes : List PartWrite) :
    component.view (whole.view db (writes.map component.wrap)) =
      part.view (component.view db) writes := by
  induction writes generalizing db with
  | nil => rfl
  | cons write rest ih =>
      have step := ih (whole.apply db (component.wrap write))
      rw [component.apply_wrap] at step
      exact step

/-- Lifting keeps the result and names the writes as those of the whole. -/
theorem aloneFrom_lift (raise : PartError → Error) (body : Tx Part PartWrite PartError Value)
    (db : Db) (pending : List Write) :
    whole.aloneFrom db pending (component.lift raise body) =
      ((part.aloneFrom (component.view (whole.view db pending)) [] body).map fun answer =>
        (answer.1, pending ++ answer.2.map component.wrap)).mapError raise := by
  have general : ∀ more : List PartWrite,
      whole.aloneFrom db (pending ++ more.map component.wrap) (component.lift raise body) =
        ((part.aloneFrom (component.view (whole.view db pending)) more body).map fun answer =>
          (answer.1, pending ++ answer.2.map component.wrap)).mapError raise := by
    induction body with
    | done result =>
        intro more
        cases result with
        | error error => rfl
        | ok value => rfl
    | statement writes next ih =>
        intro more
        have same : component.view (whole.view db (pending ++ more.map component.wrap)) =
            part.view (component.view (whole.view db pending)) more := by
          rw [Engine.view_append, view_wrap]
        have step := ih (part.view (component.view (whole.view db pending)) more)
          (more ++ writes (part.view (component.view (whole.view db pending)) more))
        simp only [lift, Engine.aloneFrom, same]
        rw [List.map_append, ← List.append_assoc] at step
        exact step
  simpa using general []

theorem aloneFrom_lift_eq_ok {raise : PartError → Error} {body : Tx Part PartWrite PartError Value}
    {db : Db} {pending writes : List Write} {answer : Value} :
    whole.aloneFrom db pending (component.lift raise body) = .ok (answer, writes) ↔
      ∃ more, part.aloneFrom (component.view (whole.view db pending)) [] body = .ok (answer, more) ∧
        writes = pending ++ more.map component.wrap := by
  rw [aloneFrom_lift]
  cases part.aloneFrom (component.view (whole.view db pending)) [] body with
  | error error => simp [Except.map, Except.mapError]
  | ok result =>
      rcases result with ⟨value, more⟩
      simp only [Except.map, Except.mapError, Except.ok.injEq, Prod.mk.injEq]
      constructor
      · rintro ⟨rfl, rfl⟩
        exact ⟨more, ⟨rfl, rfl⟩, rfl⟩
      · rintro ⟨more', ⟨rfl, rfl⟩, rfl⟩
        exact ⟨rfl, rfl⟩

end Component
