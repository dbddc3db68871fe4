import CoreApi.Foundation.ReadCommitted

/-!
# Clients that are checked before they begin

A check reads the committed database a few times and lets its client begin or not.
Every reading is of the database as it stands then, so a check may see two databases
that never were the same, and what it has answered stands whatever others commit
afterwards.
-/

/-- A body that writes nothing. -/
abbrev Check (Db Reason Pass : Type) := Tx Db Empty Reason Pass

/-- The answer of a check while nobody commits. -/
def Check.on {Db Reason Pass : Type} (db : Db) : Check Db Reason Pass → Except Reason Pass
  | .done result => result
  | .statement _ next => Check.on db (next db)

theorem Check.on_bind {Db Reason Pass Other : Type} {db : Db} (body : Check Db Reason Other)
    (next : Other → Check Db Reason Pass) :
    (body >>= next).on db = (body.on db).bind fun value => (next value).on db := by
  change Check.on db (body.bind next) = _
  induction body with
  | done result =>
      cases result with
      | error error => rfl
      | ok value => rfl
  | statement writes rest ih => exact ih db

namespace Gate

variable {Client Db Write Lock Error Value Reason Pass : Type} [DecidableEq Client]

/-- The workload, and what is left of the clients' checks. -/
structure State (Client Db Write Error Value Reason Pass : Type) where
  base : Workload.State Client Db Write Error Value
  check : Client → Check Db Reason Pass

variable (workload : Workload Client Db Write Lock Error Value)
  (check : Client → Check Db Reason Pass)

/-- A client takes the next look of its check, or the workload moves; nobody begins before its check
has let it in. -/
inductive Step : State Client Db Write Error Value Reason Pass → Client ⊕ Workload.Label Client →
    State Client Db Write Error Value Reason Pass → Prop where
  | look {state : State Client Db Write Error Value Reason Pass} {client : Client}
      {writes : Db → List Empty} {next : Db → Check Db Reason Pass}
      (asks : state.check client = .statement writes next) :
      Step state (.inl client)
        { state with check := Function.update state.check client (next state.base.db) }
  | work {state : State Client Db Write Error Value Reason Pass} {label : Workload.Label Client}
      {base : Workload.State Client Db Write Error Value}
      (move : workload.Step state.base label base)
      (passed : ∀ client, label = .begin client → ∃ pass, state.check client = .done (.ok pass)) :
      Step state (.inr label) { state with base := base }

/-- The workload behind the gate, with every check still to be made. -/
def system : TransitionSystem (State Client Db Write Error Value Reason Pass)
    (Client ⊕ Workload.Label Client) where
  Initial state := workload.system.Initial state.base ∧ state.check = check
  Step := Step workload

variable {workload check} {state next : State Client Db Write Error Value Reason Pass}
  {client : Client}

theorem base_step {label : Client ⊕ Workload.Label Client}
    (move : (system workload check).Step state label next) :
    workload.system.Leads state.base next.base := by
  cases move with
  | look asks => exact .refl
  | work move passed => exact .single ⟨_, move⟩

/-- Behind the gate the workload runs as it does without one. -/
theorem base_leads (leads : (system workload check).Leads state next) :
    workload.system.Leads state.base next.base := by
  induction leads with
  | refl => exact .refl
  | tail _ move ih =>
      rcases move with ⟨label, move⟩
      exact ih.trans (base_step move)

theorem base_reachable (reached : (system workload check).Reachable state) :
    workload.system.Reachable state.base :=
  reached.simulate State.base (fun _ (started : _ ∧ _) => started.1)
    fun _ _ _ _ move => base_step move

/-- A client that has begun has passed. -/
theorem passed_of_begun (reached : (system workload check).Reachable state)
    (begun : state.base.session client ≠ .idle) :
    ∃ pass, state.check client = .done (.ok pass) := by
  revert begun
  refine reached.invariant (fun state => state.base.session client ≠ .idle →
    ∃ pass, state.check client = .done (.ok pass)) ?_ ?_
  · rintro start ⟨⟨-, -, idle⟩, -⟩ begun
    exact absurd (idle client) begun
  · intro before label after _ passed move begun
    cases move with
    | @look looking _ _ asks =>
        rcases passed begun with ⟨pass, done⟩
        by_cases same : client = looking
        · subst same
          cases done.symm.trans asks
        · exact ⟨pass, by simpa [same] using done⟩
    | @work label base move admitted =>
        by_cases idle : before.base.session client = .idle
        · -- only `begin` takes a client out of `idle`
          have starts : label = .begin client := by
            have other : ∀ {acting : Client} {session : Session Db Write Error Value},
                before.base.session acting ≠ .idle →
                (before.base.put acting session).session client ≠ .idle → False := by
              intro acting session running left
              by_cases same : client = acting
              · exact running (same ▸ idle)
              · exact left (by simpa [Workload.State.put, same] using idle)
            cases move with
            | @begin acting ready =>
                by_cases same : client = acting
                · rw [same]
                · exact absurd (by simpa [Workload.State.put, same] using idle) begun
            | statement running _ _ => exact (other (by simp [running]) begun).elim
            | commit finished => exact (other (by simp [finished]) begun).elim
            | abort running => exact (other (by simp [running]) begun).elim
            | giveUp aborted => exact (other (by simp [aborted]) begun).elim
            | external change => exact absurd idle begun
          exact admitted client starts
        · exact passed idle

/-- So has one that has committed. -/
theorem passed_of_committed (reached : (system workload check).Reachable state)
    {entry : Workload.Entry Client Db Value} (member : entry ∈ state.base.log) :
    ∃ pass, state.check entry.client = .done (.ok pass) := by
  refine passed_of_begun reached ?_
  rw [(Outline.mem_log_iff (base_reachable reached) entry).mp member]
  simp

variable (workload check)

/-- A check, or a part of one, has come to what is left of it by reading, one after another,
databases that were the committed one at moments of a run to the state. -/
inductive Went {Answer : Type} (Known : State Client Db Write Error Value Reason Pass → Prop)
    (state : State Client Db Write Error Value Reason Pass) (left : Check Db Reason Answer) :
    State Client Db Write Error Value Reason Pass → Check Db Reason Answer → Prop where
  | here (since : State Client Db Write Error Value Reason Pass) : Went Known state left since left
  | read {since moment : State Client Db Write Error Value Reason Pass}
      {writes : Db → List Empty} {next : Db → Check Db Reason Answer}
      (known : Known moment) (after : (system workload check).Leads since moment)
      (before : (system workload check).Leads moment state)
      (went : Went Known state left moment (next moment.base.db)) :
      Went Known state left since (.statement writes next)

/-- The readings of a client so far, at moments of which something is known. -/
def Readings (Known : State Client Db Write Error Value Reason Pass → Prop)
    (state : State Client Db Write Error Value Reason Pass) (client : Client) : Prop :=
  ∃ start, (system workload check).Leads start state ∧
    Went workload check Known state (state.check client) start (check client)

variable {workload check} {Answer Other : Type} {left whole : Check Db Reason Answer}
  {since : State Client Db Write Error Value Reason Pass}
  {Known : State Client Db Write Error Value Reason Pass → Prop}

theorem Went.later (went : Went workload check Known state left since whole)
    (leads : (system workload check).Leads state next) :
    Went workload check Known next left since whole := by
  induction went with
  | here since => exact .here since
  | read known after before _ ih => exact .read known after (before.trans leads) ih

theorem Went.of_done {result : Except Reason Answer}
    (went : Went workload check Known state left since (.done result)) : left = .done result := by
  cases went with
  | here => rfl

/-- A part of a check that has answered is a reading. -/
theorem Went.of_read {query : Db → Answer} {answer : Answer}
    (went : Went workload check Known state (.done (.ok answer)) since (.read query)) :
    ∃ moment, Known moment ∧ (system workload check).Leads since moment ∧
      (system workload check).Leads moment state ∧ answer = query moment.base.db := by
  cases went with
  | @read _ moment _ _ known after before rest =>
      have same : (Tx.done (.ok answer) : Check Db Reason Answer) =
          .done (.ok (query moment.base.db)) := rest.of_done
      cases same
      exact ⟨moment, known, after, before, rfl⟩

/-- A check that has answered has done so part by part. -/
theorem Went.of_bind {body : Check Db Reason Other} {next : Other → Check Db Reason Answer}
    {answer : Answer} (leads : (system workload check).Leads since state)
    (went : Went workload check Known state (.done (.ok answer)) since (body >>= next)) :
    ∃ moment value, (system workload check).Leads since moment ∧
      (system workload check).Leads moment state ∧
      Went workload check Known moment (.done (.ok value)) since body ∧
      Went workload check Known state (.done (.ok answer)) moment (next value) := by
  change Went workload check Known state (.done (.ok answer)) since (body.bind next) at went
  induction body generalizing since with
  | done result =>
      cases result with
      | error error => cases went.of_done
      | ok value => exact ⟨since, value, .refl, leads, .here since, went⟩
  | statement writes rest ih =>
      cases went with
      | @read _ moment _ _ known after before went =>
          rcases ih _ before went with ⟨later, value, onwards, before', first, last⟩
          exact ⟨later, value, after.trans onwards, before', .read known after onwards first, last⟩

/-- One reading more. -/
theorem Went.look {writes : Db → List Empty} {rest : Db → Check Db Reason Answer}
    (went : Went workload check Known state (.statement writes rest) since whole)
    (known : Known state) (after : (system workload check).Leads since state) :
    Went workload check Known state (rest state.base.db) since whole := by
  induction went with
  | here since => exact .read known after .refl (.here _)
  | read known' after' before _ ih => exact .read known' after' before (ih before)

theorem Readings.step (readings : Readings workload check Known state client)
    (known : Known state) {label : Client ⊕ Workload.Label Client}
    (move : (system workload check).Step state label next) :
    Readings workload check Known next client := by
  have leads : (system workload check).Leads state next := .single ⟨label, move⟩
  rcases readings with ⟨start, since, went⟩
  refine ⟨start, since.trans leads, ?_⟩
  cases move with
  | @look looking writes rest asks =>
      by_cases same : client = looking
      · subst same
        rw [asks] at went
        simpa using (went.look known since).later leads
      · simpa [same] using went.later leads
  | work move passed => exact went.later leads

variable (Known) in
/-- The rule for invariants: a step may rest on what was known whenever a check has read. -/
theorem invariant (initial : ∀ start, (system workload check).Initial start → Known start)
    (step : ∀ before label after, (system workload check).Reachable before → Known before →
      (∀ client, Readings workload check Known before client) →
      (system workload check).Step before label after → Known after)
    (reached : (system workload check).Reachable state) :
    Known state ∧ ∀ client, Readings workload check Known state client := by
  refine reached.invariant
    (fun state => Known state ∧ ∀ client, Readings workload check Known state client) ?_ ?_
  · rintro start ⟨begins, whole⟩
    refine ⟨initial start ⟨begins, whole⟩, fun client => ⟨start, .refl, ?_⟩⟩
    rw [whole]
    exact .here start
  · rintro before label after reached ⟨known, readings⟩ move
    exact ⟨step _ _ _ reached known readings move, fun client => (readings client).step known move⟩

/-- A client that passes while nobody commits may be let in. -/
theorem leads_pass (state : State Client Db Write Error Value Reason Pass) (client : Client)
    {pass : Pass} (answers : (state.check client).on state.base.db = .ok pass) :
    (system workload check).Leads state
      { state with check := Function.update state.check client (.done (.ok pass)) } := by
  generalize asked : state.check client = body at answers
  induction body generalizing state with
  | done result =>
      cases answers
      rw [← asked, Function.update_eq_self]
      exact .refl
  | statement writes rest ih =>
      have move : (system workload check).Step state (.inl client) _ := Step.look asked
      have leads := ih state.base.db
        { state with check := Function.update state.check client (rest state.base.db) }
        (Function.update_self ..) answers
      rw [Function.update_idem] at leads
      exact .head ⟨_, move⟩ leads

/-- What the workload does without letting anybody else in it may do behind the gate. -/
theorem leads_of_work {base : Workload.State Client Db Write Error Value}
    (leads : (workload.system.restrict fun _ label => ∀ client, label = .begin client →
      ∃ pass, state.check client = .done (.ok pass)).Leads state.base base) :
    (system workload check).Leads state { state with base := base } := by
  induction leads with
  | refl => exact .refl
  | @tail middle last _ move ih =>
      rcases move with ⟨label, passed, move⟩
      have step : (system workload check).Step { state with base := middle } (.inr label)
        { state with base := last } := Step.work move passed
      exact ih.tail ⟨_, step⟩

/-- A client that passes, and finds nobody else at work, may commit what its body does alone. -/
theorem reachable_commit (reached : (system workload check).Reachable state) (client : Client)
    {pass : Pass} (answers : (state.check client).on state.base.db = .ok pass)
    (ready : state.base.session client = .idle ∨ state.base.session client = .aborted)
    (quiet : ∀ other, other ≠ client → (state.base.session other).pending = [])
    (permitted : Workload.PermittedAlone workload client state.base.db [] []
      (workload.program client))
    {reply : Value} {writes : List Write}
    (ran : workload.aloneFrom state.base.db [] (workload.program client) = .ok (reply, writes)) :
    (system workload check).Reachable
      ⟨state.base.commit workload client state.base.db reply writes,
        Function.update state.check client (.done (.ok pass))⟩ := by
  have admitted := reached.leads (leads_pass state client answers)
  refine admitted.leads (leads_of_work (.head ⟨.begin client, ?_, .begin ready⟩ ?_))
  · intro other same
    cases same
    exact ⟨pass, Function.update_self ..⟩
  · exact Workload.leads_commit_of _ quiet (fun _ _ same => by cases same) _ [] []
      (fun _ _ _ same => by cases same) permitted ran

end Gate
