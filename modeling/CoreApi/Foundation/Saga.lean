import CoreApi.Foundation.ReadCommitted

/-!
# Sagas over transactions

A saga dispatches transactions one after another, makes calls that no
transaction covers, and registers compensations on its way. When it throws, the
bus runs the registered compensations in reverse order and keeps the descriptor
of one that fails. All the while other clients run their own transactions.
-/

/-- A saga ends with a result, or makes one move and goes on with the answer. -/
inductive Saga (Client Reply Query Answer Descriptor Error Value : Type) where
  | done (result : Except Error Value)
  | dispatch (client : Client)
      (next : Reply → Saga Client Reply Query Answer Descriptor Error Value)
  | onCompensate (descriptor : Descriptor) (client : Client)
      (next : Saga Client Reply Query Answer Descriptor Error Value)
  | call (query : Query) (next : Answer → Saga Client Reply Query Answer Descriptor Error Value)

namespace Saga

variable {Client Reply Query Answer Descriptor Error Value Other : Type}

/-- Goes on with the value, unless there was an error. -/
def bind : Saga Client Reply Query Answer Descriptor Error Value →
    (Value → Saga Client Reply Query Answer Descriptor Error Other) →
    Saga Client Reply Query Answer Descriptor Error Other
  | done (.error error), _ => done (.error error)
  | done (.ok value), then_ => then_ value
  | dispatch client next, then_ => dispatch client fun reply => (next reply).bind then_
  | onCompensate descriptor client next, then_ => onCompensate descriptor client (next.bind then_)
  | call query next, then_ => call query fun answer => (next answer).bind then_

instance : Monad (Saga Client Reply Query Answer Descriptor Error) where
  pure value := done (.ok value)
  bind := bind

/-- Ends with an error; what was registered is compensated. -/
def fail (error : Error) : Saga Client Reply Query Answer Descriptor Error Value :=
  done (.error error)

/-- Dispatches a command and returns its reply. -/
def send (client : Client) : Saga Client Reply Query Answer Descriptor Error Reply :=
  dispatch client pure

/-- Registers a compensation. -/
def register (descriptor : Descriptor) (client : Client) :
    Saga Client Reply Query Answer Descriptor Error Unit :=
  onCompensate descriptor client (pure ())

/-- Asks the service and returns its answer. -/
def ask (query : Query) : Saga Client Reply Query Answer Descriptor Error Answer :=
  call query pure

end Saga

namespace Saga

variable {Client Db TxError Reply Query Answer Descriptor Error Value : Type}

/-- Why a saga that runs with nobody else around does not return. -/
inductive Failure (Client TxError Query Error : Type) where
  | dispatch (client : Client) (error : TxError)
  | call (query : Query)
  | thrown (error : Error)

/-- What it returns or throws, and the descriptors of the compensations that failed. -/
structure Outcome (Client TxError Query Descriptor Error Value : Type) where
  result : Except (Failure Client TxError Query Error) Value
  durable : List Descriptor

section Alone

variable (run : Client → Db → Except TxError Reply × Db) (answer : Query → Option Answer)

/-- Run the registered compensations in order and keep the descriptors of those that fail. -/
def compensate : List (Descriptor × Client) → List Descriptor → Db → List Descriptor × Db
  | [], durable, db => (durable, db)
  | (descriptor, client) :: rest, durable, db =>
      match run client db with
      | (.ok _, next) => compensate rest durable next
      | (.error _, next) => compensate rest (descriptor :: durable) next

/-- Throw, and compensate what is registered. -/
def abandon (failure : Failure Client TxError Query Error)
    (registered : List (Descriptor × Client)) (db : Db) :
    Outcome Client TxError Query Descriptor Error Value × Db :=
  let (durable, next) := compensate run registered [] db
  (⟨.error failure, durable⟩, next)

/-- A saga with nobody else around; the calls are answered or rejected. -/
def alone : Saga Client Reply Query Answer Descriptor Error Value → List (Descriptor × Client) →
    Db → Outcome Client TxError Query Descriptor Error Value × Db
  | done (.ok value), _, db => (⟨.ok value, []⟩, db)
  | done (.error error), registered, db => abandon run (.thrown error) registered db
  | dispatch client next, registered, db =>
      match run client db with
      | (.ok reply, after) => alone (next reply) registered after
      | (.error error, after) => abandon run (.dispatch client error) registered after
  | onCompensate descriptor client next, registered, db =>
      alone next ((descriptor, client) :: registered) db
  | call query next, registered, db =>
      match answer query with
      | some found => alone (next found) registered db
      | none => abandon run (.call query) registered db

/-- The clients a saga may start all meet a condition. -/
def Uses (uses : Client → Prop) : Saga Client Reply Query Answer Descriptor Error Value → Prop
  | done _ => True
  | dispatch client next => uses client ∧ ∀ reply, Uses uses (next reply)
  | onCompensate _ client next => uses client ∧ Uses uses next
  | call _ next => ∀ found, Uses uses (next found)

variable {run answer} {uses : Client → Prop} {Rel : Db → Db → Prop}
  (same : ∀ client, uses client → ∀ db db', Rel db db' →
    (run client db).1 = (run client db').1 ∧ Rel (run client db).2 (run client db').2)

include same

theorem compensate_related {registered : List (Descriptor × Client)}
    (owned : ∀ entry ∈ registered, uses entry.2) {durable : List Descriptor} {db db' : Db}
    (related : Rel db db') :
    (compensate run registered durable db).1 = (compensate run registered durable db').1 ∧
      Rel (compensate run registered durable db).2 (compensate run registered durable db').2 := by
  induction registered generalizing durable db db' with
  | nil => exact ⟨rfl, related⟩
  | cons entry rest ih =>
      rcases entry with ⟨descriptor, client⟩
      have step := same client (owned _ List.mem_cons_self) db db' related
      have rest := fun durable => @ih (fun entry member =>
        owned entry (List.mem_cons_of_mem _ member)) durable _ _ step.2
      rcases ran : run client db with ⟨result, next⟩
      rcases ran' : run client db' with ⟨result', next'⟩
      rw [ran, ran'] at step rest
      obtain rfl : result = result' := step.1
      simp only [compensate, ran, ran']
      cases result with
      | ok reply => exact rest durable
      | error error => exact rest (descriptor :: durable)

theorem abandon_related (failure : Failure Client TxError Query Error)
    {registered : List (Descriptor × Client)} (owned : ∀ entry ∈ registered, uses entry.2)
    {db db' : Db} (related : Rel db db') :
    let left : Outcome Client TxError Query Descriptor Error Value × Db :=
      abandon run failure registered db
    let right : Outcome Client TxError Query Descriptor Error Value × Db :=
      abandon run failure registered db'
    left.1 = right.1 ∧ Rel left.2 right.2 := by
  have compensated := @compensate_related _ _ _ _ Descriptor _ _ _ same registered owned []
    db db' related
  exact ⟨congrArg (Outcome.mk (.error failure)) compensated.1, compensated.2⟩

/-- If its transactions cannot tell two databases apart, neither can the saga. -/
theorem alone_related {saga : Saga Client Reply Query Answer Descriptor Error Value}
    (within : Uses uses saga) {registered : List (Descriptor × Client)}
    (owned : ∀ entry ∈ registered, uses entry.2) {db db' : Db} (related : Rel db db') :
    (alone run answer saga registered db).1 = (alone run answer saga registered db').1 ∧
      Rel (alone run answer saga registered db).2 (alone run answer saga registered db').2 := by
  induction saga generalizing registered db db' with
  | done result =>
      cases result with
      | ok value => exact ⟨rfl, related⟩
      | error error => exact abandon_related same _ owned related
  | dispatch client next ih =>
      have step := same client within.1 db db' related
      rcases ran : run client db with ⟨result, after⟩
      rcases ran' : run client db' with ⟨result', after'⟩
      rw [ran, ran'] at step
      obtain rfl : result = result' := step.1
      simp only [alone, ran, ran']
      cases result with
      | ok reply => exact ih reply (within.2 reply) owned step.2
      | error error => exact abandon_related same _ owned step.2
  | onCompensate descriptor client next ih =>
      refine ih within.2 (fun entry member => ?_) related
      rcases List.mem_cons.mp member with rfl | old
      · exact within.1
      · exact owned entry old
  | call query next ih =>
      simp only [alone]
      cases answer query with
      | some found => exact ih found (within found) owned related
      | none => exact abandon_related same _ owned related

end Alone

end Saga

/-- A saga on a bus: the clients only it may start, and the errors its moves throw. -/
structure SagaBus {Client Db Write Lock TxError Reply : Type}
    (workload : Workload Client Db Write Lock TxError Reply)
    (Query Answer Descriptor Error Value : Type) where
  saga : Saga Client Reply Query Answer Descriptor Error Value
  owned : Client → Prop
  dispatchError : Client → Error
  callError : Query → Error

namespace SagaBus

variable {Client Db Write Lock TxError Reply Query Answer Descriptor Error Value : Type}

/-- What the bus is doing with the saga. -/
inductive Phase (Client Reply Query Answer Descriptor Error Value : Type) where
  | running (saga : Saga Client Reply Query Answer Descriptor Error Value)
  | awaiting (client : Client)
      (next : Reply → Saga Client Reply Query Answer Descriptor Error Value)
  | unwinding (error : Error) (rest : List (Descriptor × Client))
  | compensating (error : Error) (current : Descriptor × Client) (rest : List (Descriptor × Client))
  | returned (value : Value)
  | thrown (error : Error)

/-- The clients whose transaction the bus is running. -/
def Phase.Awaits (client : Client) :
    Phase Client Reply Query Answer Descriptor Error Value → Prop
  | .awaiting awaited _ => awaited = client
  | .compensating _ current _ => current.2 = client
  | _ => False

/-- The saga next to the transactions; `registered` is the compensation stack and `durable` keeps
the descriptors of the compensations that failed. -/
structure State (Client Db Write TxError Reply Query Answer Descriptor Error Value : Type) where
  phase : Phase Client Reply Query Answer Descriptor Error Value
  registered : List (Descriptor × Client)
  durable : List Descriptor
  base : Workload.State Client Db Write TxError Reply

/-- The bus moves, or a command of the workload does. -/
inductive Label (Client : Type) where
  | base (label : Workload.Label Client)
  | saga

variable [DecidableEq Client] {workload : Workload Client Db Write Lock TxError Reply}
  (bus : SagaBus workload Query Answer Descriptor Error Value)

/-- The workload moves, with a command of the saga only while the saga waits for it; and the saga
takes its next step. -/
inductive Step : State Client Db Write TxError Reply Query Answer Descriptor Error Value →
    Label Client → State Client Db Write TxError Reply Query Answer Descriptor Error Value →
    Prop where
  | base {state : State Client Db Write TxError Reply Query Answer Descriptor Error Value}
      {label : Workload.Label Client} {next : Workload.State Client Db Write TxError Reply}
      (move : workload.Step state.base label next)
      (driven : ∀ client, bus.owned client → label.Drives client → state.phase.Awaits client) :
      Step state (.base label) { state with base := next }
  | dispatch {state : State Client Db Write TxError Reply Query Answer Descriptor Error Value}
      {client : Client} {next : Reply → Saga Client Reply Query Answer Descriptor Error Value}
      (running : state.phase = .running (.dispatch client next)) :
      Step state .saga { state with phase := .awaiting client next }
  | resume {state : State Client Db Write TxError Reply Query Answer Descriptor Error Value}
      {client : Client} {next : Reply → Saga Client Reply Query Answer Descriptor Error Value}
      {begun : Db} {reply : Reply} (awaiting : state.phase = .awaiting client next)
      (committed : state.base.session client = .committed begun reply) :
      Step state .saga { state with phase := .running (next reply) }
  | reject {state : State Client Db Write TxError Reply Query Answer Descriptor Error Value}
      {client : Client} {next : Reply → Saga Client Reply Query Answer Descriptor Error Value}
      (awaiting : state.phase = .awaiting client next)
      (failed : state.base.session client = .failed) :
      Step state .saga
        { state with phase := .unwinding (bus.dispatchError client) state.registered }
  | register {state : State Client Db Write TxError Reply Query Answer Descriptor Error Value}
      {descriptor : Descriptor} {client : Client}
      {next : Saga Client Reply Query Answer Descriptor Error Value}
      (running : state.phase = .running (.onCompensate descriptor client next)) :
      Step state .saga
        { state with
          phase := .running next
          registered := (descriptor, client) :: state.registered }
  | answer {state : State Client Db Write TxError Reply Query Answer Descriptor Error Value}
      {query : Query} {next : Answer → Saga Client Reply Query Answer Descriptor Error Value}
      (answer : Answer) (running : state.phase = .running (.call query next)) :
      Step state .saga { state with phase := .running (next answer) }
  | refuse {state : State Client Db Write TxError Reply Query Answer Descriptor Error Value}
      {query : Query} {next : Answer → Saga Client Reply Query Answer Descriptor Error Value}
      (running : state.phase = .running (.call query next)) :
      Step state .saga { state with phase := .unwinding (bus.callError query) state.registered }
  | deliver {state : State Client Db Write TxError Reply Query Answer Descriptor Error Value}
      {value : Value} (running : state.phase = .running (.done (.ok value))) :
      Step state .saga { state with phase := .returned value }
  | throw {state : State Client Db Write TxError Reply Query Answer Descriptor Error Value}
      {error : Error} (running : state.phase = .running (.done (.error error))) :
      Step state .saga { state with phase := .unwinding error state.registered }
  | compensate {state : State Client Db Write TxError Reply Query Answer Descriptor Error Value}
      {error : Error} {current : Descriptor × Client} {rest : List (Descriptor × Client)}
      (unwinding : state.phase = .unwinding error (current :: rest)) :
      Step state .saga { state with phase := .compensating error current rest }
  | compensated {state : State Client Db Write TxError Reply Query Answer Descriptor Error Value}
      {error : Error} {current : Descriptor × Client} {rest : List (Descriptor × Client)}
      {begun : Db} {reply : Reply} (compensating : state.phase = .compensating error current rest)
      (committed : state.base.session current.2 = .committed begun reply) :
      Step state .saga { state with phase := .unwinding error rest }
  | persist {state : State Client Db Write TxError Reply Query Answer Descriptor Error Value}
      {error : Error} {current : Descriptor × Client} {rest : List (Descriptor × Client)}
      (compensating : state.phase = .compensating error current rest)
      (failed : state.base.session current.2 = .failed) :
      Step state .saga
        { state with
          phase := .unwinding error rest
          durable := current.1 :: state.durable }
  | finish {state : State Client Db Write TxError Reply Query Answer Descriptor Error Value}
      {error : Error} (unwound : state.phase = .unwinding error []) :
      Step state .saga { state with phase := .thrown error }

/-- The saga next to the workload, before its first step. -/
def system : TransitionSystem
    (State Client Db Write TxError Reply Query Answer Descriptor Error Value) (Label Client) where
  Initial state := state.phase = .running bus.saga ∧ state.registered = [] ∧ state.durable = [] ∧
    workload.system.Initial state.base
  Step := bus.Step

variable {bus}
  {state next : State Client Db Write TxError Reply Query Answer Descriptor Error Value}

/-- The saga's own moves leave the transactions alone. -/
theorem Step.base_of_saga (move : bus.Step state .saga next) : next.base = state.base := by
  cases move <;> rfl

/-- What a move of the saga does, by the phase it starts from. -/
def Moved (bus : SagaBus workload Query Answer Descriptor Error Value)
    (state next : State Client Db Write TxError Reply Query Answer Descriptor Error Value) : Prop :=
  match state.phase with
  | .running (.dispatch client rest) => next = { state with phase := .awaiting client rest }
  | .running (.onCompensate descriptor client rest) =>
      next = { state with
        phase := .running rest
        registered := (descriptor, client) :: state.registered }
  | .running (.call query rest) =>
      (∃ answer, next = { state with phase := .running (rest answer) }) ∨
        next = { state with phase := .unwinding (bus.callError query) state.registered }
  | .running (.done (.ok value)) => next = { state with phase := .returned value }
  | .running (.done (.error error)) =>
      next = { state with phase := .unwinding error state.registered }
  | .awaiting client rest =>
      (∃ begun reply, state.base.session client = .committed begun reply ∧
        next = { state with phase := .running (rest reply) }) ∨
      (state.base.session client = .failed ∧
        next = { state with phase := .unwinding (bus.dispatchError client) state.registered })
  | .unwinding error [] => next = { state with phase := .thrown error }
  | .unwinding error (current :: rest) =>
      next = { state with phase := .compensating error current rest }
  | .compensating error current rest =>
      (∃ begun reply, state.base.session current.2 = .committed begun reply ∧
        next = { state with phase := .unwinding error rest }) ∨
      (state.base.session current.2 = .failed ∧
        next = { state with
          phase := .unwinding error rest
          durable := current.1 :: state.durable })
  | .returned _ | .thrown _ => False

theorem Step.moved (move : bus.Step state .saga next) : bus.Moved state next := by
  simp only [Moved]
  cases move with
  | dispatch running => rw [running]
  | resume awaiting committed =>
      rw [awaiting]
      exact .inl ⟨_, _, committed, rfl⟩
  | reject awaiting failed =>
      rw [awaiting]
      exact .inr ⟨failed, rfl⟩
  | register running => rw [running]
  | answer answer running =>
      rw [running]
      exact .inl ⟨answer, rfl⟩
  | refuse running =>
      rw [running]
      exact .inr rfl
  | deliver running => rw [running]
  | throw running => rw [running]
  | compensate unwinding => rw [unwinding]
  | compensated compensating committed =>
      rw [compensating]
      exact .inl ⟨_, _, committed, rfl⟩
  | persist compensating failed =>
      rw [compensating]
      exact .inr ⟨failed, rfl⟩
  | finish unwound => rw [unwound]

/-- What is reachable next to a saga is reachable without it. -/
theorem base_reachable (reached : bus.system.Reachable state) :
    workload.system.Reachable state.base := by
  apply reached.invariant (fun state => workload.system.Reachable state.base)
  · intro start initial
    exact .initial initial.2.2.2
  · intro before label after _ based move
    cases label with
    | saga =>
        rw [Step.base_of_saga move]
        exact based
    | base label =>
        cases move with
        | base move driven =>
            have move : workload.system.Step _ label _ := move
            exact based.step move

theorem reachable_move (reached : bus.system.Reachable state) (move : bus.Step state .saga next) :
    bus.system.Reachable next := by
  have move : bus.system.Step state .saga next := move
  exact reached.step move

/-- The transactions may run on while the saga stands still, unless they start or give up. -/
theorem leads_base {base : Workload.State Client Db Write TxError Reply}
    (leads : (workload.system.restrict fun _ label => ∀ client, ¬ label.Drives client).Leads
      state.base base) :
    bus.system.Leads state { state with base := base } := by
  induction leads with
  | refl => exact .refl
  | tail _ move ih =>
      rcases move with ⟨label, undriven, move⟩
      exact ih.tail ⟨.base label, .base move fun client _ drives =>
        absurd drives (undriven client)⟩

/-- A client that finds nobody else at work may commit, if the saga is not its owner or waits for
it. -/
theorem reachable_commit (reached : bus.system.Reachable state) (client : Client)
    (driven : bus.owned client → state.phase.Awaits client)
    (ready : state.base.session client = .idle ∨ state.base.session client = .aborted)
    (quiet : ∀ other, other ≠ client → (state.base.session other).pending = [])
    (permitted : ∀ seen view, workload.permits client seen view) {reply : Reply}
    {writes : List Write}
    (ran : workload.aloneFrom state.base.db [] (workload.program client) = .ok (reply, writes)) :
    bus.system.Reachable
      { state with base := state.base.commit workload client state.base.db reply writes } := by
  have begun : bus.system.Reachable { state with
      base := state.base.put client (.active state.base.db [] [] (workload.program client)) } := by
    have move : bus.system.Step state (.base (.begin client)) _ :=
      .base (.begin ready) fun other owned drives => by
        cases drives
        exact driven owned
    exact reached.step move
  exact begun.leads (leads_base
    (Workload.leads_commit _ quiet _ _ _ (.of_all permitted _ _ _) ran))

end SagaBus

namespace Workload

variable {Client Db Write Lock Error Value : Type} [DecidableEq Client]
  {workload : Workload Client Db Write Lock Error Value}
  {state next : State Client Db Write Error Value}

/-- A session that has not begun, has failed or has committed. -/
def Resting : Session Db Write Error Value → Prop
  | .idle | .failed | .committed _ _ => True
  | _ => False

/-- A resting session stays as it is until its client is driven. -/
theorem Step.session_of_resting {label : Label Client} (move : workload.Step state label next)
    {client : Client} (resting : Resting (state.session client))
    (undriven : ¬ label.Drives client) : next.session client = state.session client := by
  have other : ∀ {moved : Client} (session : Session Db Write Error Value),
      (¬ Resting (state.session moved) ∨ moved ≠ client) →
      (state.put moved session).session client = state.session client := by
    intro moved session distinct
    have ne : client ≠ moved := by
      rintro rfl
      rcases distinct with stirring | distinct
      · exact stirring resting
      · exact distinct rfl
    simp [State.put, ne]
  cases move with
  | begin ready => exact other _ (.inr undriven)
  | statement running permitted unlocked => exact other _ (.inl (by simp [running, Resting]))
  | commit finished => exact other _ (.inl (by simp [finished, Resting]))
  | abort running => exact other _ (.inl (by simp [running, Resting]))
  | giveUp aborted => exact other _ (.inr undriven)
  | external change => rfl

/-- The database a session began on. -/
def begun? : Session Db Write Error Value → Option Db
  | .active begun _ _ _ | .committed begun _ => some begun
  | _ => none

/-- A session begins on the database of the moment, and only when its client is driven. -/
theorem Step.begun_of_step {label : Label Client} (move : workload.Step state label next)
    {client : Client} {begun : Db} (began : begun? (next.session client) = some begun) :
    begun? (state.session client) = some begun ∨
      label.Drives client ∧ begun = state.db := by
  have put : ∀ {moved : Client} {session : Session Db Write Error Value},
      begun? ((state.put moved session).session client) = some begun →
      begun? (state.session client) = some begun ∨
        moved = client ∧ begun? session = some begun := by
    intro moved session began
    by_cases same : client = moved
    · subst same
      simp only [State.session_put] at began
      exact .inr ⟨rfl, began⟩
    · simp only [State.put, Function.update_of_ne same] at began
      exact .inl began
  cases move with
  | begin ready =>
      rcases put began with old | ⟨same, new⟩
      · exact .inl old
      · exact .inr ⟨same, (Option.some.inj new).symm⟩
  | statement running permitted unlocked =>
      rcases put began with old | ⟨rfl, new⟩
      · exact .inl old
      · exact .inl (by rw [running]; exact new)
  | commit finished =>
      rcases put began with old | ⟨rfl, new⟩
      · exact .inl old
      · exact .inl (by rw [finished]; exact new)
  | abort running =>
      rcases put began with old | ⟨rfl, new⟩
      · exact .inl old
      · cases new
  | giveUp aborted =>
      rcases put began with old | ⟨rfl, new⟩
      · exact .inl old
      · cases new
  | external change => exact .inl began

end Workload
