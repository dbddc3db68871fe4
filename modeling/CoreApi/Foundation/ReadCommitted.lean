import Mathlib.Logic.Function.Basic
import CoreApi.Foundation.Transaction
import CoreApi.Foundation.TransitionSystem

/-!
# Transactions under READ COMMITTED

Any number of clients run transaction bodies against one database. Every
statement sees what is committed when it starts and the pending writes of its
own transaction. A write takes its lock until its transaction ends, so a
statement waits while another transaction holds a lock it needs, and then works
on the latest committed rows. A transaction may be rolled back at any moment and
run again.

The second half is a rely-guarantee calculus for such bodies: a body is checked
alone, against a relation that bounds what the others can commit between two of
its statements, and the checked bodies compose to facts about every run.
-/

/-- Clients with one transaction body each, and the changes made by the rest of the world. -/
structure Workload (Client Db Write Lock Error Value : Type) extends Engine Db Write Lock where
  program : Client → Tx Db Write Error Value
  initial : Db → Prop
  external : Db → Db → Prop
  /-- The schedules considered: given what the body has seen and what its next statement sees. -/
  permits : Client → List Db → Db → Prop := fun _ _ _ => True

/-- Where a client's transaction stands. -/
inductive Session (Db Write Error Value : Type) where
  | idle
  | active (begun : Db) (seen : List Db) (pending : List Write) (body : Tx Db Write Error Value)
  | aborted
  | failed
  | committed (begun : Db) (reply : Value)

/-- The writes a session holds locks for. -/
def Session.pending {Db Write Error Value : Type} : Session Db Write Error Value → List Write
  | .active _ _ pending _ => pending
  | _ => []

namespace Workload

variable {Client Db Write Lock Error Value : Type}

/-- A committed transaction, with the database it began on. -/
structure Entry (Client Db Value : Type) where
  client : Client
  begun : Db
  reply : Value

/-- The committed database, the committed transactions in commit order, and the sessions. -/
structure State (Client Db Write Error Value : Type) where
  db : Db
  log : List (Entry Client Db Value)
  session : Client → Session Db Write Error Value

/-- Who moves, and how. -/
inductive Label (Client : Type) where
  | begin (client : Client)
  | statement (client : Client)
  | commit (client : Client)
  | abort (client : Client)
  | giveUp (client : Client)
  | external

/-- A label that starts a client's transaction, or stops trying to. -/
def Label.Drives (client : Client) : Label Client → Prop
  | .begin driven | .giveUp driven => driven = client
  | _ => False

variable [DecidableEq Client]

/-- One client moves on. -/
def State.put (state : State Client Db Write Error Value) (client : Client)
    (session : Session Db Write Error Value) : State Client Db Write Error Value :=
  { state with session := Function.update state.session client session }

variable (workload : Workload Client Db Write Lock Error Value)

/-- A client begins, runs a statement on what is committed and its own writes, commits or aborts; or
the database changes from outside. -/
inductive Step : State Client Db Write Error Value → Label Client →
    State Client Db Write Error Value → Prop where
  | begin {state : State Client Db Write Error Value} {client : Client}
      (ready : state.session client = .idle ∨ state.session client = .aborted) :
      Step state (.begin client)
        (state.put client (.active state.db [] [] (workload.program client)))
  | statement {state : State Client Db Write Error Value} {client : Client} {begun : Db}
      {seen : List Db} {pending : List Write} {writes : Db → List Write}
      {next : Db → Tx Db Write Error Value}
      (running : state.session client = .active begun seen pending (.statement writes next))
      (permitted : workload.permits client seen (workload.view state.db pending))
      (unlocked : ∀ other, other ≠ client → workload.Apart (state.session other).pending
        (writes (workload.view state.db pending))) :
      Step state (.statement client)
        (state.put client (.active begun (seen ++ [workload.view state.db pending])
          (pending ++ writes (workload.view state.db pending))
          (next (workload.view state.db pending))))
  | commit {state : State Client Db Write Error Value} {client : Client} {begun : Db}
      {seen : List Db} {pending : List Write} {reply : Value}
      (finished : state.session client = .active begun seen pending (.done (.ok reply))) :
      Step state (.commit client)
        { state.put client (.committed begun reply) with
          db := workload.view state.db pending
          log := state.log ++ [⟨client, begun, reply⟩] }
  | abort {state : State Client Db Write Error Value} {client : Client} {begun : Db}
      {seen : List Db} {pending : List Write} {body : Tx Db Write Error Value}
      (running : state.session client = .active begun seen pending body) :
      Step state (.abort client) (state.put client .aborted)
  | giveUp {state : State Client Db Write Error Value} {client : Client}
      (aborted : state.session client = .aborted) :
      Step state (.giveUp client) (state.put client .failed)
  | external {state : State Client Db Write Error Value} {db : Db}
      (change : workload.external state.db db) :
      Step state .external { state with db := db }

/-- Any number of clients of the workload, none of which has begun. -/
def system : TransitionSystem (State Client Db Write Error Value) (Label Client) where
  Initial state :=
    workload.initial state.db ∧ state.log = [] ∧ ∀ client, state.session client = .idle
  Step := workload.Step

section Alone

variable {workload} {state : State Client Db Write Error Value}

@[simp]
theorem State.put_put (state : State Client Db Write Error Value) (client : Client)
    (first second : Session Db Write Error Value) :
    (state.put client first).put client second = state.put client second := by
  simp [State.put]

@[simp]
theorem State.session_put (state : State Client Db Write Error Value) (client : Client)
    (session : Session Db Write Error Value) :
    (state.put client session).session client = session := by
  simp [State.put]

/-- The state in which a client has committed its pending writes. -/
def State.commit (workload : Workload Client Db Write Lock Error Value)
    (state : State Client Db Write Error Value) (client : Client) (begun : Db) (reply : Value)
    (writes : List Write) : State Client Db Write Error Value :=
  { state.put client (.committed begun reply) with
    db := workload.view state.db writes
    log := state.log ++ [⟨client, begun, reply⟩] }

/-- A commit leaves nobody with pending writes who had none before. -/
theorem State.pending_commit {state : State Client Db Write Error Value}
    (quiet : ∀ other, (state.session other).pending = []) (client : Client) (begun : Db)
    (reply : Value) (writes : List Write) (other : Client) :
    ((state.commit workload client begun reply writes).session other).pending = [] := by
  by_cases same : other = client
  · subst same
    simp [commit, put, Session.pending]
  · simpa [commit, put, same] using quiet other

/-- The schedule on which a body runs on with nobody else around is one that is considered. -/
def PermittedAlone (workload : Workload Client Db Write Lock Error Value) (client : Client)
    (db : Db) : List Db → List Write → Tx Db Write Error Value → Prop
  | _, _, .done _ => True
  | seen, pending, .statement writes next =>
      let view := workload.view db pending
      workload.permits client seen view ∧
        PermittedAlone workload client db (seen ++ [view]) (pending ++ writes view) (next view)

omit [DecidableEq Client] in
theorem PermittedAlone.of_all {client : Client} {db : Db}
    (permitted : ∀ seen view, workload.permits client seen view)
    (body : Tx Db Write Error Value) (seen : List Db) (pending : List Write) :
    PermittedAlone workload client db seen pending body := by
  induction body generalizing seen pending with
  | done result => trivial
  | statement writes next ih => exact ⟨permitted _ _, ih _ _ _⟩

/-- A statement that writes nothing waits for nobody. -/
theorem leads_read (workload : Workload Client Db Write Lock Error Value)
    (state : State Client Db Write Error Value) {client : Client} {begun : Db} {seen : List Db}
    {pending : List Write} {writes : Db → List Write} {next : Db → Tx Db Write Error Value}
    (permitted : workload.permits client seen (workload.view state.db pending))
    (reads : writes (workload.view state.db pending) = []) :
    workload.system.Leads
      (state.put client (.active begun seen pending (.statement writes next)))
      (state.put client (.active begun (seen ++ [workload.view state.db pending]) pending
        (next (workload.view state.db pending)))) := by
  have move : workload.Step (state.put client (.active begun seen pending (.statement writes next)))
      (.statement client) _ :=
    .statement (state.session_put client _) permitted fun other _ => by
      simpa [State.put, reads] using Engine.Apart.nil _
  have same : (state.put client (.active begun seen pending (.statement writes next))).db =
      state.db := rfl
  simp only [State.put_put, same, reads, List.append_nil] at move
  exact .single ⟨.statement client, move⟩

/-- While nobody else holds a lock, a running body may run to its end. What it has seen first then
is what it has seen first now, or sees first. -/
theorem leads_finish_of {allowed : State Client Db Write Error Value → Label Client → Prop}
    {client : Client} (begun : Db)
    (quiet : ∀ other, other ≠ client → (state.session other).pending = [])
    {reply : Value} {writes : List Write}
    (statements : ∀ state, allowed state (.statement client))
    (body : Tx Db Write Error Value) (seen : List Db) (pending : List Write)
    (permitted : PermittedAlone workload client state.db seen pending body)
    (ran : workload.aloneFrom state.db pending body = .ok (reply, writes)) :
    ∃ seen', (∀ first, seen'.head? = some first →
        (seen ++ [workload.view state.db pending]).head? = some first) ∧
      (workload.system.restrict allowed).Leads (state.put client (.active begun seen pending body))
        (state.put client (.active begun seen' writes (.done (.ok reply)))) := by
  induction body generalizing seen pending with
  | done result =>
      cases result with
      | error error => cases ran
      | ok value =>
          cases ran
          refine ⟨seen, fun first head => ?_, .refl⟩
          rw [List.head?_append, head]
          rfl
  | statement produced next ih =>
      have unlocked : ∀ other, other ≠ client → workload.Apart
          ((state.put client (.active begun seen pending (.statement produced next))).session
            other).pending (produced (workload.view state.db pending)) := by
        intro other distinct
        have none := quiet other distinct
        simpa [State.put, distinct, none] using (Engine.Apart.nil _).symm
      have move : workload.Step
          (state.put client (.active begun seen pending (.statement produced next)))
          (.statement client) _ :=
        .statement (state.session_put client _) permitted.1 unlocked
      simp only [State.put_put] at move
      rcases ih _ _ _ permitted.2 ran with ⟨seen', head, leads⟩
      refine ⟨seen', fun first same => ?_, .head ⟨.statement client, statements _, move⟩ leads⟩
      have head := head first same
      cases seen <;> exact head

/-- Then it may commit. -/
theorem leads_commit_of {allowed : State Client Db Write Error Value → Label Client → Prop}
    {client : Client} (begun : Db)
    (quiet : ∀ other, other ≠ client → (state.session other).pending = [])
    {reply : Value} {writes : List Write}
    (statements : ∀ state, allowed state (.statement client))
    (body : Tx Db Write Error Value) (seen : List Db) (pending : List Write)
    (commits : ∀ seen', (∀ first, seen'.head? = some first →
        (seen ++ [workload.view state.db pending]).head? = some first) →
      allowed (state.put client (.active begun seen' writes (.done (.ok reply)))) (.commit client))
    (permitted : PermittedAlone workload client state.db seen pending body)
    (ran : workload.aloneFrom state.db pending body = .ok (reply, writes)) :
    (workload.system.restrict allowed).Leads (state.put client (.active begun seen pending body))
      (state.commit workload client begun reply writes) := by
  rcases leads_finish_of begun quiet statements body seen pending permitted ran with
    ⟨seen', head, leads⟩
  have move : workload.Step (state.put client (.active begun seen' writes (.done (.ok reply))))
      (.commit client) _ :=
    .commit (state.session_put client _)
  simp only [State.put_put] at move
  exact leads.tail ⟨.commit client, commits seen' head, move⟩

/-- Such a run starts nobody's transaction. -/
theorem leads_commit {client : Client} (begun : Db)
    (quiet : ∀ other, other ≠ client → (state.session other).pending = [])
    {reply : Value} {writes : List Write} (body : Tx Db Write Error Value) (seen : List Db)
    (pending : List Write)
    (permitted : PermittedAlone workload client state.db seen pending body)
    (ran : workload.aloneFrom state.db pending body = .ok (reply, writes)) :
    (workload.system.restrict fun _ label => ∀ client, ¬ label.Drives client).Leads
      (state.put client (.active begun seen pending body))
      (state.commit workload client begun reply writes) :=
  leads_commit_of begun quiet (fun _ _ => id) body seen pending (fun _ _ _ => id) permitted ran

/-- A client in the middle of its body may finish it while nobody else is at work. -/
theorem leads_resume (workload : Workload Client Db Write Lock Error Value)
    (state : State Client Db Write Error Value) (client : Client) {begun : Db} {seen : List Db}
    {pending : List Write} {body : Tx Db Write Error Value} {reply : Value} {writes : List Write}
    (running : state.session client = .active begun seen pending body)
    (quiet : ∀ other, other ≠ client → (state.session other).pending = [])
    (permitted : PermittedAlone workload client state.db seen pending body)
    (ran : workload.aloneFrom state.db pending body = .ok (reply, writes)) :
    workload.system.Leads state (state.commit workload client begun reply writes) := by
  have same : state.put client (.active begun seen pending body) = state := by
    rw [State.put, ← running, Function.update_eq_self]
  have leads := leads_commit begun quiet body seen pending permitted ran
  simp only [same] at leads
  exact leads.of_restrict

/-- A client that finds nobody else at work may commit what its body does alone. -/
theorem leads_alone (workload : Workload Client Db Write Lock Error Value)
    (state : State Client Db Write Error Value) (client : Client)
    (ready : state.session client = .idle ∨ state.session client = .aborted)
    (quiet : ∀ other, other ≠ client → (state.session other).pending = [])
    (permitted : PermittedAlone workload client state.db [] [] (workload.program client))
    {reply : Value} {writes : List Write}
    (ran : workload.aloneFrom state.db [] (workload.program client) = .ok (reply, writes)) :
    workload.system.Leads state (state.commit workload client state.db reply writes) := by
  have move : workload.system.Step state (.begin client)
      (state.put client (.active state.db [] [] (workload.program client))) := Step.begin ready
  exact .head ⟨_, move⟩ (leads_commit _ quiet _ _ _ permitted ran).of_restrict

/-- A client may begin, and take a first statement that writes nothing. -/
theorem reachable_read (reached : workload.system.Reachable state) (client : Client)
    (ready : state.session client = .idle ∨ state.session client = .aborted)
    {writes : Db → List Write} {next : Db → Tx Db Write Error Value}
    (program : workload.program client = .statement writes next)
    (permitted : workload.permits client [] state.db) (reads : writes state.db = []) :
    workload.system.Reachable
      (state.put client (.active state.db [state.db] [] (next state.db))) := by
  have move : workload.system.Step state (.begin client)
      (state.put client (.active state.db [] [] (workload.program client))) := Step.begin ready
  rw [program] at move
  exact (reached.step move).leads (leads_read workload state permitted reads)

/-- A running transaction may be rolled back. -/
theorem reachable_abort (reached : workload.system.Reachable state) (client : Client)
    {begun : Db} {seen : List Db} {pending : List Write} {body : Tx Db Write Error Value}
    (running : state.session client = .active begun seen pending body) :
    workload.system.Reachable (state.put client .aborted) :=
  reached.step (Step.abort running)

/-- A client in the middle of its body may come to its end while nobody else is at work. -/
theorem reachable_finish (reached : workload.system.Reachable state) (client : Client) {begun : Db}
    {seen : List Db} {pending : List Write} {body : Tx Db Write Error Value} {reply : Value}
    {writes : List Write} (running : state.session client = .active begun seen pending body)
    (quiet : ∀ other, other ≠ client → (state.session other).pending = [])
    (permitted : PermittedAlone workload client state.db seen pending body)
    (ran : workload.aloneFrom state.db pending body = .ok (reply, writes)) :
    ∃ seen', (∀ first, seen'.head? = some first →
        (seen ++ [workload.view state.db pending]).head? = some first) ∧
      workload.system.Reachable
        (state.put client (.active begun seen' writes (.done (.ok reply)))) := by
  have same : state.put client (.active begun seen pending body) = state := by
    rw [State.put, ← running, Function.update_eq_self]
  rcases @leads_finish_of _ _ _ _ _ _ _ workload state (fun _ _ => True) client begun quiet _ _
    (fun _ => trivial) body seen pending permitted ran with ⟨seen', head, leads⟩
  rw [same] at leads
  exact ⟨seen', head, reached.leads leads.of_restrict⟩

theorem reachable_commit (reached : workload.system.Reachable state) (client : Client)
    (ready : state.session client = .idle ∨ state.session client = .aborted)
    (quiet : ∀ other, other ≠ client → (state.session other).pending = [])
    (permitted : PermittedAlone workload client state.db [] [] (workload.program client))
    {reply : Value} {writes : List Write}
    (ran : workload.aloneFrom state.db [] (workload.program client) = .ok (reply, writes)) :
    workload.system.Reachable (state.commit workload client state.db reply writes) :=
  reached.leads (leads_alone workload state client ready quiet permitted ran)

/-- So it may on a run whose steps all meet a condition, if its own do. -/
theorem reachable_commit_of {allowed : State Client Db Write Error Value → Label Client → Prop}
    (reached : (workload.system.restrict allowed).Reachable state) (client : Client)
    (ready : state.session client = .idle ∨ state.session client = .aborted)
    (quiet : ∀ other, other ≠ client → (state.session other).pending = [])
    (permitted : PermittedAlone workload client state.db [] [] (workload.program client))
    {reply : Value} {writes : List Write}
    (ran : workload.aloneFrom state.db [] (workload.program client) = .ok (reply, writes))
    (begins : ∀ state, allowed state (.begin client))
    (statements : ∀ state, allowed state (.statement client))
    (commits : ∀ seen, (∀ first, seen.head? = some first → first = state.db) → allowed
      (state.put client (.active state.db seen writes (.done (.ok reply)))) (.commit client)) :
    (workload.system.restrict allowed).Reachable
      (state.commit workload client state.db reply writes) := by
  have move : (workload.system.restrict allowed).Step state (.begin client)
      (state.put client (.active state.db [] [] (workload.program client))) :=
    ⟨begins state, Step.begin ready⟩
  exact (reached.step move).leads
    (leads_commit_of _ quiet statements _ _ _
      (fun seen head => commits seen fun first same => (Option.some.inj (head first same)).symm)
      permitted ran)

end Alone

/-- The same clients on the schedules that meet a condition. -/
def under (condition : Client → List Db → Db → Prop) : Workload Client Db Write Lock Error Value :=
  { workload with permits := condition }

end Workload

/-- What a transaction may count on: an invariant, and a bound on what others commit meanwhile. -/
structure Assumptions (Db Write : Type) where
  Inv : Db → Prop
  Rely : List Write → Db → Db → Prop
  refl : ∀ pending db, Rely pending db db
  trans : ∀ {pending first second third}, Rely pending first second →
    Rely pending second third → Rely pending first third

namespace Assumptions

variable {Db Write Lock Error Value Other : Type} (assumptions : Assumptions Db Write)
  (engine : Engine Db Write Lock) (permits : List Db → Db → Prop)

/-- Every way through the body, with the allowed interference before each statement, ends in an
error or with a value and pending writes that satisfy the postcondition. -/
def Ends (post : Value → List Db → List Write → Db → Prop) :
    Tx Db Write Error Value → List Db → List Write → Db → Prop
  | .done (.error _), _, _, _ => True
  | .done (.ok value), seen, pending, db => post value seen pending db
  | .statement writes next, seen, pending, db =>
      ∀ now, assumptions.Rely pending db now → assumptions.Inv now →
        permits seen (engine.view now pending) →
        Ends post (next (engine.view now pending)) (seen ++ [engine.view now pending])
          (pending ++ writes (engine.view now pending)) now

variable {assumptions engine permits} {post : Value → List Db → List Write → Db → Prop}
  {seen : List Db} {pending : List Write} {db : Db}

theorem Ends.pure {value : Value} (ends : post value seen pending db) :
    assumptions.Ends engine permits post (Pure.pure value : Tx Db Write Error Value) seen pending
      db := ends

theorem Ends.fail (error : Error) :
    assumptions.Ends engine permits post (.fail error : Tx Db Write Error Value) seen pending db :=
  trivial

/-- Interference before the next statement changes nothing about how a body ends. -/
theorem Ends.stable {body : Tx Db Write Error Value} {now : Db}
    (stable : ∀ value seen, post value seen pending db → post value seen pending now)
    (ends : assumptions.Ends engine permits post body seen pending db)
    (rely : assumptions.Rely pending db now) :
    assumptions.Ends engine permits post body seen pending now := by
  cases body with
  | done result =>
      cases result with
      | error error => trivial
      | ok value => exact stable value seen ends
  | statement writes next =>
      intro later rely' inv
      exact ends later (assumptions.trans rely rely') inv

/-- The rule of consequence. -/
theorem Ends.mono {post' : Value → List Db → List Write → Db → Prop}
    {body : Tx Db Write Error Value}
    (weaken : ∀ value seen pending db, post value seen pending db → post' value seen pending db)
    (ends : assumptions.Ends engine permits post body seen pending db) :
    assumptions.Ends engine permits post' body seen pending db := by
  induction body generalizing seen pending db with
  | done result =>
      cases result with
      | error error => trivial
      | ok value => exact weaken value seen pending db ends
  | statement writes rest ih =>
      intro now rely inv permitted
      exact ih _ (ends now rely inv permitted)

theorem Ends.bind {body : Tx Db Write Error Other} {next : Other → Tx Db Write Error Value}
    (ends : assumptions.Ends engine permits
      (fun value => assumptions.Ends engine permits post (next value)) body seen pending db) :
    assumptions.Ends engine permits post (body >>= next) seen pending db := by
  change assumptions.Ends engine permits post (body.bind next) seen pending db
  induction body generalizing seen pending db with
  | done result =>
      cases result with
      | error error => trivial
      | ok value => exact ends
  | statement writes rest ih =>
      intro now rely inv permitted
      exact ih _ (ends now rely inv permitted)

theorem Ends.map {body : Tx Db Write Error Other} (change : Other → Value)
    (ends : assumptions.Ends engine permits (fun value => post (change value)) body seen pending
      db) :
    assumptions.Ends engine permits post (change <$> body) seen pending db :=
  Ends.bind ends

/-- The rule for a statement: interference, then the statement on the latest rows. -/
theorem Ends.execute {run : Db → Except Error (List Write × Value)}
    (ends : ∀ now, assumptions.Rely pending db now → assumptions.Inv now →
      permits seen (engine.view now pending) →
      ∀ writes value, run (engine.view now pending) = .ok (writes, value) →
      post value (seen ++ [engine.view now pending]) (pending ++ writes) now) :
    assumptions.Ends engine permits post (.execute run) seen pending db := by
  intro now rely inv permitted
  have ends := ends now rely inv permitted
  dsimp only [Tx.execute]
  cases ran : run (engine.view now pending) with
  | error error => trivial
  | ok answer => exact ends answer.1 answer.2 ran

theorem Ends.read {query : Db → Value}
    (ends : ∀ now, assumptions.Rely pending db now → assumptions.Inv now →
      post (query (engine.view now pending)) (seen ++ [engine.view now pending]) pending now) :
    assumptions.Ends engine permits post (.read query : Tx Db Write Error Value) seen pending
      db := by
  apply Ends.execute
  intro now rely inv _ writes value ran
  cases ran
  simpa using ends now rely inv

theorem Ends.write {post : Unit → List Db → List Write → Db → Prop} {writes : List Write}
    (ends : ∀ now, assumptions.Rely pending db now → assumptions.Inv now →
      post () (seen ++ [engine.view now pending]) (pending ++ writes) now) :
    assumptions.Ends engine permits post (.write writes : Tx Db Write Error Unit) seen pending
      db := by
  apply Ends.execute
  intro now rely inv _ writes value ran
  cases ran
  exact ends now rely inv

/-- With nobody else around a body ends as it may on any schedule. -/
theorem Ends.alone {body : Tx Db Write Error Value} {value : Value} {writes : List Write}
    (ends : assumptions.Ends engine (fun _ _ => True) post body seen pending db)
    (inv : assumptions.Inv db) (ran : engine.aloneFrom db pending body = .ok (value, writes)) :
    ∃ seen, post value seen writes db := by
  induction body generalizing seen pending with
  | done result =>
      cases result with
      | error error => cases ran
      | ok answer =>
          cases ran
          exact ⟨seen, ends⟩
  | statement produced rest ih =>
      exact ih _ (ends db (assumptions.refl _ _) inv trivial) ran

end Assumptions

/-- A proof that every body commits only what it may. -/
structure Outline {Client Db Write Lock Error Value : Type}
    (workload : Workload Client Db Write Lock Error Value) extends Assumptions Db Write where
  /-- What a client that began on a database and answers a value does to the committed state. -/
  Effect : Client → Db → Value → Db → Db → Prop
  initial : ∀ db, workload.initial db → Inv db
  external : ∀ db next, Inv db → workload.external db next →
    Inv next ∧ ∀ pending, Rely pending db next
  safe : ∀ client begun, Inv begun →
    toAssumptions.Ends workload.toEngine (workload.permits client)
      (fun reply _ pending db => ∀ now, Rely pending db now → Inv now →
        let after := workload.view now pending
        Inv after ∧ Effect client begun reply now after ∧
          ∀ held, workload.Apart held pending → Rely held now after)
      (workload.program client) [] [] begun

namespace Outline

open Workload

variable {Client Db Write Lock Error Value : Type}
  {workload : Workload Client Db Write Lock Error Value} (outline : Outline workload)

/-- The obligation left at the end of a body: to be able to commit whatever others did meanwhile. -/
def Settles (client : Client) (begun : Db) (reply : Value) (pending : List Write) (db : Db) :
    Prop :=
  ∀ now, outline.Rely pending db now → outline.Inv now →
    let after := workload.view now pending
    outline.Inv after ∧ outline.Effect client begun reply now after ∧
      ∀ held, workload.Apart held pending → outline.Rely held now after

/-- A session whose remaining body still ends well. -/
def Checked (client : Client) (db : Db) : Session Db Write Error Value → Prop
  | .active begun seen pending body =>
      outline.Ends workload.toEngine (workload.permits client)
        (fun reply _ => outline.Settles client begun reply) body seen pending db
  | _ => True

variable {outline}

theorem Checked.stable {client : Client} {db now : Db} {session : Session Db Write Error Value}
    (checked : outline.Checked client db session) (rely : outline.Rely session.pending db now) :
    outline.Checked client now session := by
  cases session with
  | active begun seen pending body =>
      refine Assumptions.Ends.stable ?_ checked rely
      intro reply _ settles later rely'
      exact settles later (outline.trans rely rely')
  | _ => trivial

/-- What holds of the database and of every session, and between two sessions. -/
structure Steady (outline : Outline workload) (state : State Client Db Write Error Value) :
    Prop where
  inv : outline.Inv state.db
  checked : ∀ client, outline.Checked client state.db (state.session client)
  apart : ∀ client other, other ≠ client →
    workload.Apart (state.session other).pending (state.session client).pending

variable {state next : State Client Db Write Error Value}

/-- A commit settles: the invariant survives, the effect holds and nobody else is disturbed. -/
theorem Steady.settled (steady : outline.Steady state) {client : Client} {begun : Db}
    {seen : List Db} {pending : List Write} {reply : Value}
    (finished : state.session client = .active begun seen pending (.done (.ok reply))) :
    outline.Inv (workload.view state.db pending) ∧
      outline.Effect client begun reply state.db (workload.view state.db pending) ∧
      ∀ held, workload.Apart held pending →
        outline.Rely held state.db (workload.view state.db pending) := by
  have checked := steady.checked client
  simp only [finished] at checked
  exact checked state.db (outline.refl _ _) steady.inv

variable [DecidableEq Client]

/-- Replacing one session keeps the rest in order. -/
theorem Steady.put (steady : outline.Steady state) (client : Client)
    (session : Session Db Write Error Value) (checked : outline.Checked client state.db session)
    (apart : ∀ other, other ≠ client →
      workload.Apart (state.session other).pending session.pending) :
    outline.Steady (state.put client session) where
  inv := steady.inv
  checked other := by
    by_cases same : other = client
    · subst same
      simpa [State.put] using checked
    · simpa [State.put, same] using steady.checked other
  apart first second distinct := by
    by_cases same : first = client
    · subst same
      simpa [State.put, distinct] using apart second distinct
    · by_cases same' : second = client
      · subst same'
        simpa [State.put, same] using (apart first same).symm
      · simpa [State.put, same, same'] using steady.apart first second distinct

theorem Steady.step (steady : outline.Steady state) {label : Label Client}
    (move : workload.Step state label next) : outline.Steady next := by
  cases move with
  | begin ready =>
      exact steady.put _ _ (outline.safe _ _ steady.inv) fun other _ => Engine.Apart.nil _
  | @statement client begun seen pending writes rest running permitted unlocked =>
      have checked := steady.checked client
      simp only [running] at checked
      have stays := checked _ (outline.refl _ _) steady.inv permitted
      refine steady.put _ _ stays fun other distinct => ?_
      have apart := steady.apart client other distinct
      simp only [running] at apart
      exact apart.append (unlocked other distinct)
  | @commit client begun seen pending reply finished =>
      have settled := steady.settled finished
      have put := steady.put client (.committed begun reply) trivial
        fun other _ => Engine.Apart.nil _
      refine ⟨settled.1, ?_, put.apart⟩
      intro other
      by_cases same : other = client
      · subst same
        simp [State.put, Checked]
      · have apart := steady.apart client other same
        simp only [finished] at apart
        have checked := (steady.checked other).stable (settled.2.2 _ apart)
        simpa [State.put, same] using checked
  | abort running => exact steady.put _ _ trivial fun other _ => Engine.Apart.nil _
  | giveUp aborted => exact steady.put _ _ trivial fun other _ => Engine.Apart.nil _
  | external change =>
      have kept := outline.external _ _ steady.inv change
      exact ⟨kept.1, fun client => (steady.checked client).stable (kept.2 _), steady.apart⟩

theorem steady_of_reachable (outline : Outline workload)
    (reached : workload.system.Reachable state) : outline.Steady state := by
  refine reached.invariant _ ?_ fun _ _ _ _ steady move => steady.step move
  rintro start ⟨initial, -, idle⟩
  refine ⟨outline.initial _ initial, ?_, ?_⟩
  · intro client
    simp [idle, Checked]
  · intro client other _
    rw [idle client]
    exact Engine.Apart.nil _

/-- Outside commits and external changes the database and the log stand still. -/
theorem step_cases {label : Label Client} (move : workload.Step state label next) :
    (next.db = state.db ∧ next.log = state.log) ∨
    (workload.external state.db next.db ∧ next.log = state.log) ∨
    ∃ client begun seen pending reply,
      state.session client = .active begun seen pending (.done (.ok reply)) ∧
      next.db = workload.view state.db pending ∧
      next.log = state.log ++ [⟨client, begun, reply⟩] := by
  cases move with
  | @commit client begun seen pending reply finished =>
      exact .inr (.inr ⟨client, begun, seen, pending, reply, finished, rfl, rfl⟩)
  | external change => exact .inr (.inl ⟨change, rfl⟩)
  | begin ready => exact .inl ⟨rfl, rfl⟩
  | statement running permitted unlocked => exact .inl ⟨rfl, rfl⟩
  | abort running => exact .inl ⟨rfl, rfl⟩
  | giveUp aborted => exact .inl ⟨rfl, rfl⟩

/-- The log and the committed sessions say the same. -/
theorem mem_log_iff (reached : workload.system.Reachable state) (entry : Entry Client Db Value) :
    entry ∈ state.log ↔
      state.session entry.client = .committed entry.begun entry.reply := by
  refine reached.invariant (fun state => entry ∈ state.log ↔
    state.session entry.client = .committed entry.begun entry.reply) ?_ ?_
  · rintro start ⟨-, empty, idle⟩
    simp [empty, idle]
  · intro before label after _ agree move
    have put : ∀ {client : Client} {session : Session Db Write Error Value},
        (∀ begun reply, before.session client ≠ .committed begun reply) →
        (∀ begun reply, session ≠ .committed begun reply) →
        (entry ∈ (before.put client session).log ↔
          (before.put client session).session entry.client =
            .committed entry.begun entry.reply) := by
      intro client session fresh open_
      by_cases same : entry.client = client
      · subst same
        simpa [State.put, open_, fresh] using agree
      · simpa [State.put, same] using agree
    cases move with
    | @commit client begun seen pending reply finished =>
        rcases entry with ⟨client', begun', reply'⟩
        by_cases same : client' = client
        · subst same
          simp only [finished, reduceCtorEq, iff_false] at agree
          simp [State.put, agree, eq_comm]
        · simpa [State.put, same] using agree
    | begin ready =>
        refine put ?_ (by simp)
        intro begun reply stored
        rcases ready with ready | ready <;> simp [ready] at stored
    | statement running permitted unlocked => exact put (by simp [running]) (by simp)
    | abort running => exact put (by simp [running]) (by simp)
    | giveUp aborted => exact put (by simp [aborted]) (by simp)
    | external change => exact agree

/-- What a run can rely on at a commit: the client's first, with the effect its outline states. -/
theorem commit_effect (outline : Outline workload) (reached : workload.system.Reachable state)
    {client : Client} {begun : Db} {seen : List Db} {pending : List Write} {reply : Value}
    (finished : state.session client = .active begun seen pending (.done (.ok reply))) :
    (∀ entry ∈ state.log, entry.client ≠ client) ∧
      outline.Effect client begun reply state.db (workload.view state.db pending) := by
  refine ⟨?_, ((steady_of_reachable outline reached).settled finished).2.1⟩
  intro entry member same
  have committed := (mem_log_iff reached entry).mp member
  simp only [same, finished] at committed
  cases committed

/-- The rule for invariants of committed states: only commits and external changes matter, and a
commit has the effect the outline states. -/
theorem invariant (outline : Outline workload) {J : Db → List (Entry Client Db Value) → Prop}
    (initial : ∀ db, workload.initial db → J db [])
    (external : ∀ db next log, J db log → workload.external db next → J next log)
    (commit : ∀ db next log client begun reply, outline.Inv db → J db log →
      (∀ entry ∈ log, entry.client ≠ client) → outline.Effect client begun reply db next →
      J next (log ++ [⟨client, begun, reply⟩]))
    (reached : workload.system.Reachable state) : J state.db state.log := by
  apply reached.invariant (fun state => J state.db state.log)
  · rintro start ⟨start', empty, -⟩
    rw [empty]
    exact initial _ start'
  · intro before label after reached kept move
    rcases step_cases move with ⟨db, log⟩ | ⟨change, log⟩ |
      ⟨client, begun, seen, pending, reply, finished, db, log⟩
    · rw [db, log]
      exact kept
    · rw [log]
      exact external _ _ _ kept change
    · have effect := commit_effect outline reached finished
      rw [db, log]
      exact commit _ _ _ _ _ _ (steady_of_reachable outline reached).inv kept effect.1 effect.2

/-- The rule for runs whose commits all meet a condition on the state before the commit. -/
theorem invariant_of_restrict {allowed : State Client Db Write Error Value → Label Client → Prop}
    {J : Db → List (Entry Client Db Value) → Prop}
    (initial : ∀ db, workload.initial db → J db [])
    (external : ∀ db next log, J db log → workload.external db next → J next log)
    (commit : ∀ before client begun seen pending reply, workload.system.Reachable before →
      before.session client = .active begun seen pending (.done (.ok reply)) →
      allowed before (.commit client) → J before.db before.log →
      J (workload.view before.db pending) (before.log ++ [⟨client, begun, reply⟩]))
    (reached : (workload.system.restrict allowed).Reachable state) : J state.db state.log := by
  have all : workload.system.Reachable state ∧ J state.db state.log := by
    refine reached.invariant (fun state => workload.system.Reachable state ∧ J state.db state.log)
      ?_ ?_
    · rintro start ⟨start', empty, idle⟩
      refine ⟨.initial ⟨start', empty, idle⟩, ?_⟩
      rw [empty]
      exact initial _ start'
    · rintro before label after - ⟨reached, kept⟩ ⟨may, move⟩
      refine ⟨reached.step move, ?_⟩
      cases move with
      | commit finished => exact commit _ _ _ _ _ _ reached finished may kept
      | external change => exact external _ _ _ kept change
      | begin ready => exact kept
      | statement running permitted unlocked => exact kept
      | abort running => exact kept
      | giveUp aborted => exact kept
  exact all.2

/-- Every running body can only end as a postcondition says. -/
def Keeps (outline : Outline workload) (post : Client → Value → List Db → List Write → Db → Prop)
    (state : State Client Db Write Error Value) : Prop :=
  ∀ client begun seen pending body, state.session client = .active begun seen pending body →
    outline.Ends workload.toEngine (workload.permits client) (post client) body seen pending
      state.db

section Post

variable {post : Client → Value → List Db → List Write → Db → Prop} {client : Client}

theorem Keeps.put (keeps : outline.Keeps post state) (session : Session Db Write Error Value)
    (goes : ∀ begun seen pending body, session = .active begun seen pending body →
      outline.Ends workload.toEngine (workload.permits client) (post client) body seen pending
        state.db) : outline.Keeps post (state.put client session) := by
  intro other begun seen pending body running
  by_cases same : other = client
  · subst same
    rw [State.session_put] at running
    exact goes _ _ _ _ running
  · simp only [State.put, Function.update_of_ne same] at running
    exact keeps _ _ _ _ _ running

variable (stable : ∀ client value seen pending db now, outline.Rely pending db now →
    post client value seen pending db → post client value seen pending now)
  (ends : ∀ client begun, outline.Inv begun → outline.Ends workload.toEngine
    (workload.permits client) (post client) (workload.program client) [] [] begun)

include stable ends

theorem Keeps.step (keeps : outline.Keeps post state) (steady : outline.Steady state)
    {label : Label Client} (move : workload.Step state label next) : outline.Keeps post next := by
  cases move with
  | begin ready =>
      refine keeps.put _ ?_
      rintro _ _ _ _ ⟨⟩
      exact ends _ _ steady.inv
  | statement running permitted unlocked =>
      refine keeps.put _ ?_
      rintro _ _ _ _ ⟨⟩
      exact keeps _ _ _ _ _ running _ (outline.refl _ _) steady.inv permitted
  | @commit client _ _ _ _ finished =>
      intro other begun seen pending body running
      by_cases same : other = client
      · subst same
        simp [State.put] at running
      · have running' : state.session other = .active begun seen pending body := by
          simpa [State.put, same] using running
        have apart := steady.apart client other same
        rw [finished, running'] at apart
        have rely := (steady.settled finished).2.2 _ apart
        exact Assumptions.Ends.stable (fun value seen => stable _ _ _ _ _ _ rely)
          (keeps _ _ _ _ _ running') rely
  | abort running => exact keeps.put _ (by rintro _ _ _ _ ⟨⟩)
  | giveUp aborted => exact keeps.put _ (by rintro _ _ _ _ ⟨⟩)
  | external change =>
      intro client begun seen pending body running
      have rely := (outline.external _ _ steady.inv change).2 pending
      exact Assumptions.Ends.stable (fun value seen => stable _ _ _ _ _ _ rely)
        (keeps _ _ _ _ _ running) rely

/-- Any other postcondition that interference leaves alone holds of a body about to commit. -/
theorem post_of_finished (reached : workload.system.Reachable state) {begun : Db}
    {seen : List Db} {pending : List Write} {reply : Value}
    (finished : state.session client = .active begun seen pending (.done (.ok reply))) :
    post client reply seen pending state.db := by
  have keeps : outline.Keeps post state := by
    refine reached.invariant (outline.Keeps post) ?_ ?_
    · rintro start ⟨-, -, idle⟩ client begun seen pending body running
      rw [idle] at running
      cases running
    · intro before label after reached keeps move
      exact keeps.step stable ends (steady_of_reachable outline reached) move
  exact keeps _ _ _ _ _ finished

end Post

end Outline
