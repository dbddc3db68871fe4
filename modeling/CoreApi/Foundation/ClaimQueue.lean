import Mathlib.Data.Int.Notation
import Mathlib.Data.List.Nodup
import CoreApi.Foundation.TransitionSystem

/-!
# Claim queues

A table of jobs that any number of workers share. A worker claims pending jobs,
works on them outside any transaction, and later records the outcome with a
statement that names the job by its id alone; a reaper takes back claims that
are too old. The statements are the whole interface: what a worker knew when it
issued one (the attempts it read) is a parameter of the statement.
-/

universe u v

namespace ClaimQueue

/-- What has become of a job. -/
inductive JobStatus where
  | pending
  | inflight
  | succeeded
  | dead
deriving DecidableEq

/-- A row of the queue; the claim time is there while somebody works on it. -/
structure Job (Id : Type u) where
  id : Id
  status : JobStatus
  attempts : ℕ
  processedAt : Option ℤ
  claimedAt : Option ℤ

/-- The statements on the queue. -/
inductive Statement (Id : Type u) where
  | create (id : Id)
  | claim (ids : List Id) (now : ℤ)
  | succeed (id : Id) (now : ℤ)
  | fail (id : Id) (attempts limit : ℕ)
  | reap (cutoff : ℤ)
  | purge (olderThan : ℤ)

variable {Id : Type u} [DecidableEq Id]

/-- What a statement leaves of a job; nothing if it deletes it. -/
def Statement.act : Statement Id → Job Id → Option (Job Id)
  | .create _, job => some job
  | .claim ids now, job =>
      some (if job.id ∈ ids then { job with status := .inflight, claimedAt := some now } else job)
  | .succeed id now, job =>
      some (if job.id = id then
        { job with status := .succeeded, processedAt := some now, claimedAt := none } else job)
  | .fail id attempts limit, job =>
      some (if job.id = id then
        { job with
          status := if attempts + 1 ≥ limit then .dead else .pending
          attempts := attempts + 1
          claimedAt := none }
      else job)
  | .reap cutoff, job =>
      some (if job.status = .inflight ∧ job.claimedAt.any (· < cutoff) then
        { job with status := .pending, claimedAt := none } else job)
  | .purge olderThan, job =>
      if job.status = .succeeded ∧ job.processedAt.any (· < olderThan) then none else some job

/-- The jobs that a statement adds. -/
def Statement.created : Statement Id → List (Job Id)
  | .create id => [⟨id, .pending, 0, none, none⟩]
  | _ => []

/-- What a statement makes of the jobs. -/
def Statement.run (statement : Statement Id) (jobs : List (Job Id)) : List (Job Id) :=
  jobs.filterMap statement.act ++ statement.created

/-- The jobs, and every id that was ever used. -/
structure Queue (Id : Type u) where
  jobs : List (Job Id)
  used : List Id

/-- New ids are fresh, and only pending jobs are claimed. -/
def Statement.Permitted (queue : Queue Id) : Statement Id → Prop
  | .create id => id ∉ queue.used
  | .claim ids _ => ∀ job ∈ queue.jobs, job.id ∈ ids → job.status = .pending
  | _ => True

/-- What a statement makes of the queue; an id that was used stays used. -/
def Statement.next (statement : Statement Id) (queue : Queue Id) : Queue Id where
  jobs := statement.run queue.jobs
  used := queue.used ++ statement.created.map Job.id

/-- The queue under any sequence of permitted statements. -/
def claimQueue (Id : Type u) [DecidableEq Id] : TransitionSystem (Queue Id) (Statement Id) where
  Initial queue := queue.jobs = [] ∧ queue.used = []
  Step queue statement next := statement.Permitted queue ∧ next = statement.next queue

/-- Nothing more is to be done for the job. -/
def JobStatus.Settled (status : JobStatus) : Prop :=
  status = .succeeded ∨ status = .dead

/-- A settled job keeps its status, and attempts do not go back. -/
def Job.Onward (job next : Job Id) : Prop :=
  (job.status.Settled → next.status = job.status) ∧ job.attempts ≤ next.attempts

/-- An outcome is recorded in time: a success for a job that is not dead, and a failure for a job
that is not settled otherwise and has no more attempts than the failure records. -/
def Statement.InTime (statement : Statement Id) (job : Job Id) : Prop :=
  match statement with
  | .succeed id _ => job.id = id → job.status ≠ .dead
  | .fail id attempts limit => job.id = id →
      job.status ≠ .succeeded ∧ (job.status = .dead → limit ≤ attempts + 1) ∧
        job.attempts ≤ attempts + 1
  | _ => True

variable {queue next : Queue Id} {statement : Statement Id} {job changed : Job Id}

omit [DecidableEq Id] in
theorem Job.Onward.refl (job : Job Id) : job.Onward job :=
  ⟨fun _ => rfl, Nat.le_refl _⟩

omit [DecidableEq Id] in
theorem Job.Onward.trans {last : Job Id} (first : job.Onward changed)
    (second : changed.Onward last) : job.Onward last := by
  refine ⟨fun settled => ?_, Nat.le_trans first.2 second.2⟩
  have same : changed.status = job.status := first.1 settled
  exact (second.1 (same ▸ settled)).trans same

theorem Statement.act_id (acted : statement.act job = some changed) : changed.id = job.id := by
  cases statement <;> simp only [Statement.act] at acted <;> grind

/-- A permitted statement takes a job onward exactly if it records an outcome in time. -/
theorem Statement.onward_iff (permitted : statement.Permitted queue) (member : job ∈ queue.jobs)
    (acted : statement.act job = some changed) :
    job.Onward changed ↔ statement.InTime job := by
  cases statement with
  | create id =>
      cases acted
      exact iff_of_true (.refl job) trivial
  | claim ids now =>
      refine iff_of_true ?_ trivial
      cases acted
      split
      · rename_i taken
        refine ⟨fun settled => ?_, Nat.le_refl _⟩
        rcases settled with settled | settled <;> simp [permitted job member taken] at settled
      · exact .refl job
  | succeed id now =>
      cases acted
      by_cases named : job.id = id
      · simp only [named, if_true, Job.Onward, JobStatus.Settled, Statement.InTime,
          Nat.le_refl, and_true, forall_const]
        cases job.status <;> simp
      · simp only [named, if_false, Statement.InTime, false_implies, iff_true]
        exact .refl job
  | fail id attempts limit =>
      cases acted
      by_cases named : job.id = id
      · simp only [named, if_true, Job.Onward, JobStatus.Settled, Statement.InTime, forall_const]
        cases job.status <;> simp
        split <;> simp [*]
      · simp only [named, if_false, Statement.InTime, false_implies, iff_true]
        exact .refl job
  | reap cutoff =>
      refine iff_of_true ?_ trivial
      cases acted
      split
      · rename_i stale
        refine ⟨fun settled => ?_, Nat.le_refl _⟩
        rcases settled with settled | settled <;> simp [stale.1] at settled
      · exact .refl job
  | purge olderThan =>
      refine iff_of_true ?_ trivial
      simp only [Statement.act] at acted
      split at acted
      · cases acted
      · cases acted
        exact .refl job

/-- The ids of the jobs are distinct and in use, and a job is in flight if it has a claim time. -/
structure Queue.Sound (queue : Queue Id) : Prop where
  distinct : (queue.jobs.map Job.id).Nodup
  used : ∀ job ∈ queue.jobs, job.id ∈ queue.used
  leased : ∀ job ∈ queue.jobs, job.status = .inflight ↔ job.claimedAt.isSome

theorem Statement.act_leased (acted : statement.act job = some changed)
    (leased : job.status = .inflight ↔ job.claimedAt.isSome) :
    changed.status = .inflight ↔ changed.claimedAt.isSome := by
  cases statement with
  | create id =>
      cases acted
      exact leased
  | claim ids now =>
      cases acted
      split
      · simp
      · exact leased
  | succeed id now =>
      cases acted
      split
      · simp
      · exact leased
  | fail id attempts limit =>
      cases acted
      split
      · dsimp only
        split <;> simp
      · exact leased
  | reap cutoff =>
      cases acted
      split
      · simp
      · exact leased
  | purge olderThan =>
      simp only [Statement.act] at acted
      split at acted
      · cases acted
      · cases acted
        exact leased

theorem Statement.mem_run (member : changed ∈ statement.run queue.jobs) :
    (∃ job ∈ queue.jobs, statement.act job = some changed) ∨
      ∃ id, statement = .create id ∧ changed = ⟨id, .pending, 0, none, none⟩ := by
  rcases List.mem_append.mp member with old | new
  · exact .inl (List.mem_filterMap.mp old)
  · cases statement with
    | create id => exact .inr ⟨id, rfl, List.mem_singleton.mp new⟩
    | _ => cases new

omit [DecidableEq Id] in
/-- Rows that are read as pending jobs may be claimed. -/
theorem Queue.Sound.permits_claim (sound : queue.Sound) {Row : Type v} (jobOf : Row → Job Id)
    {chosen : List Row}
    (pending : ∀ row ∈ chosen, jobOf row ∈ queue.jobs ∧ (jobOf row).status = .pending) (now : ℤ) :
    (Statement.claim (chosen.map fun row => (jobOf row).id) now).Permitted queue := by
  intro job member taken
  rcases List.mem_map.mp taken with ⟨row, among, same⟩
  rcases pending row among with ⟨stored, status⟩
  have unique : jobOf row = job := List.inj_on_of_nodup_map sound.distinct stored member same
  rw [← unique]
  exact status

theorem Queue.Sound.run (sound : queue.Sound) (permitted : statement.Permitted queue) :
    (statement.next queue).Sound where
  distinct := by
    have acted : ((queue.jobs.filterMap statement.act).map Job.id).Sublist
        (queue.jobs.map Job.id) := by
      generalize queue.jobs = jobs
      induction jobs with
      | nil => exact List.Sublist.refl _
      | cons job jobs ih =>
          cases found : statement.act job with
          | none =>
              rw [List.filterMap_cons_none found]
              exact ih.cons _
          | some changed =>
              rw [List.filterMap_cons_some found, List.map_cons, List.map_cons,
                Statement.act_id found]
              exact ih.cons_cons _
    simp only [Statement.next, Statement.run, List.map_append]
    refine List.nodup_append.mpr ⟨acted.nodup sound.distinct, ?_, ?_⟩
    · cases statement <;> simp [Statement.created]
    · intro id old id' new
      rcases List.mem_map.mp (acted.subset old) with ⟨job, member, rfl⟩
      cases statement with
      | create fresh =>
          rintro rfl
          have same : job.id = fresh := List.mem_singleton.mp new
          exact permitted (same ▸ sound.used job member)
      | _ => cases new
  used changed member := by
    rcases Statement.mem_run member with ⟨job, old, acted⟩ | ⟨id, rfl, rfl⟩
    · rw [Statement.act_id acted]
      exact List.mem_append_left _ (sound.used job old)
    · exact List.mem_append_right _ (List.mem_singleton_self id)
  leased changed member := by
    rcases Statement.mem_run member with ⟨job, old, acted⟩ | ⟨id, rfl, rfl⟩
    · exact Statement.act_leased acted (sound.leased job old)
    · simp

theorem sound_of_reachable (reached : (claimQueue Id).Reachable queue) : queue.Sound := by
  refine reached.invariant Queue.Sound ?_ ?_
  · intro start initial
    refine ⟨?_, ?_, ?_⟩ <;> simp [initial.1]
  · rintro before statement after - sound ⟨permitted, rfl⟩
    exact sound.run permitted

/-- Every later job whose id was in use is what became of the job that had the id. -/
def Queue.Descends (queue next : Queue Id) : Prop :=
  queue.used ⊆ next.used ∧ ∀ later ∈ next.jobs, later.id ∈ queue.used →
    ∃ job ∈ queue.jobs, job.id = later.id ∧ job.Onward later

omit [DecidableEq Id] in
theorem Queue.Descends.refl (queue : Queue Id) : queue.Descends queue :=
  ⟨fun _ => id, fun job member _ => ⟨job, member, rfl, .refl job⟩⟩

omit [DecidableEq Id] in
theorem Queue.Descends.trans {last : Queue Id} (first : queue.Descends next)
    (second : next.Descends last) : queue.Descends last := by
  refine ⟨fun id used => second.1 (first.1 used), ?_⟩
  intro later member used
  rcases second.2 later member (first.1 used) with ⟨between, member', same, onward⟩
  rcases first.2 between member' (same ▸ used) with ⟨job, member'', same', onward'⟩
  exact ⟨job, member'', same'.trans same, onward'.trans onward⟩

/-- The system in which every outcome is recorded in time. -/
def timelyQueue (Id : Type u) [DecidableEq Id] : TransitionSystem (Queue Id) (Statement Id) :=
  (claimQueue Id).restrict fun queue statement => ∀ job ∈ queue.jobs, statement.InTime job

theorem Statement.descends_next (permitted : statement.Permitted queue)
    (inTime : ∀ job ∈ queue.jobs, statement.InTime job) :
    queue.Descends (statement.next queue) := by
  refine ⟨fun _ => List.mem_append_left _, ?_⟩
  intro later member used
  rcases Statement.mem_run member with ⟨job, old, acted⟩ | ⟨id, rfl, rfl⟩
  · refine ⟨job, old, (Statement.act_id acted).symm, ?_⟩
    exact (Statement.onward_iff permitted old acted).mpr (inTime job old)
  · exact absurd used permitted

theorem descends_of_leads (leads : (timelyQueue Id).Leads queue next) : queue.Descends next := by
  induction leads with
  | refl => exact .refl queue
  | tail _ move ih =>
      rcases move with ⟨statement, inTime, permitted, rfl⟩
      exact ih.trans (Statement.descends_next permitted inTime)

/-- Where every outcome is recorded in time, settled jobs keep their status and attempts do not go
back, over any number of statements. -/
theorem onward_of_leads (reached : (claimQueue Id).Reachable queue)
    (leads : (timelyQueue Id).Leads queue next) (member : job ∈ queue.jobs) {later : Job Id}
    (member' : later ∈ next.jobs) (same : later.id = job.id) : job.Onward later := by
  have sound := sound_of_reachable reached
  rcases (descends_of_leads leads).2 later member' (same ▸ sound.used job member) with
    ⟨origin, member'', same', onward⟩
  have unique : origin = job :=
    List.inj_on_of_nodup_map sound.distinct member'' member (same'.trans same)
  exact unique ▸ onward

section Tables

/-! Statements on tables whose rows show a job. -/

variable {Row : Type v} (view : Row → Job Id)

theorem Statement.run_map {change : Row → Row} (creates : statement.created = [])
    (acts : ∀ row, statement.act (view row) = some (view (change row))) (rows : List Row) :
    (rows.map change).map view = statement.run (rows.map view) := by
  rw [Statement.run, creates, List.append_nil, List.filterMap_map, List.map_map]
  have acts' : statement.act ∘ view = fun row => some ((view ∘ change) row) := funext acts
  rw [acts', List.filterMap_eq_map']

theorem Statement.run_filter {keeps : Row → Bool} (creates : statement.created = [])
    (acts : ∀ row, statement.act (view row) = if keeps row then some (view row) else none)
    (rows : List Row) : (rows.filter keeps).map view = statement.run (rows.map view) := by
  have acts' : statement.act ∘ view = fun row => if keeps row then some (view row) else none :=
    funext acts
  rw [Statement.run, creates, List.append_nil, List.filterMap_map, acts']
  induction rows with
  | nil => rfl
  | cons row rows ih =>
      simp only [List.filter_cons, List.filterMap_cons]
      cases keeps row <;> simp [ih]

end Tables

section Systems

/-! Systems whose steps are statements of a claim queue, or none. -/

variable {State Label : Type*} {system timely : TransitionSystem State Label}
  {view : State → Queue Id} {inTime : State → Label → State → Prop} {state later : State}

/-- Each step is a statement on what the states show of the queue, or shows nothing, and where the
step is in time so is the statement. -/
def Shows (system : TransitionSystem State Label) (view : State → Queue Id)
    (inTime : State → Label → State → Prop) : Prop :=
  ∀ before label after, (view before).Sound → system.Step before label after →
    view after = view before ∨ ∃ statement : Statement Id,
      statement.Permitted (view before) ∧ view after = statement.next (view before) ∧
        (inTime before label after → ∀ job ∈ (view before).jobs, statement.InTime job)

theorem Shows.reachable (shows : Shows system view inTime)
    (initial : ∀ start, system.Initial start → (claimQueue Id).Initial (view start))
    (reached : system.Reachable state) : (claimQueue Id).Reachable (view state) := by
  refine reached.simulate view initial ?_
  intro before label after reached move
  rcases shows before label after (sound_of_reachable reached) move with
    same | ⟨statement, permitted, next, -⟩
  · rw [same]
    exact .refl
  · exact .single ⟨statement, permitted, next⟩

theorem Shows.sound (shows : Shows system view inTime)
    (initial : ∀ start, system.Initial start → (claimQueue Id).Initial (view start))
    (reached : system.Reachable state) : (view state).Sound :=
  sound_of_reachable (shows.reachable initial reached)

/-- Over a run whose steps are all in time, settled jobs keep their status and attempts do not go
back. -/
theorem Shows.onward (shows : Shows system view inTime)
    (initial : ∀ start, system.Initial start → (claimQueue Id).Initial (view start))
    (steps : ∀ before label after, timely.Step before label after →
      system.Step before label after ∧ inTime before label after)
    (reached : system.Reachable state) (leads : timely.Leads state later)
    (member : job ∈ (view state).jobs) (member' : changed ∈ (view later).jobs)
    (same : changed.id = job.id) : job.Onward changed := by
  have run : system.Reachable later ∧ (timelyQueue Id).Leads (view state) (view later) := by
    clear member'
    induction leads with
    | refl => exact ⟨reached, .refl⟩
    | tail _ move ih =>
        rcases move with ⟨label, move⟩
        rcases steps _ _ _ move with ⟨step, timely⟩
        refine ⟨ih.1.step step, ?_⟩
        rcases shows _ _ _ (shows.sound initial ih.1) step with
          same | ⟨statement, permitted, next, inTime⟩
        · rw [same]
          exact ih.2
        · exact ih.2.tail ⟨statement, inTime timely, permitted, next⟩
  exact onward_of_leads (shows.reachable initial reached) run.2 member member' same

end Systems

end ClaimQueue
