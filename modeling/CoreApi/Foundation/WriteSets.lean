import CoreApi.Foundation.Component

/-!
# What transactions write

A body is checked against a set of writes: whatever the others commit meanwhile,
the writes it leaves pending are all in the set. Writes that keep an invariant
and are no interference for anybody need no other argument, and the invariant
holds in every run of such bodies.
-/

/-- What a body does under weak assumptions it does under stronger ones. -/
theorem Assumptions.Ends.assume {Db Write Lock Error Value : Type} {engine : Engine Db Write Lock}
    {weak strong : Assumptions Db Write} {permits : List Db → Db → Prop}
    {post : Value → List Db → List Write → Db → Prop} {body : Tx Db Write Error Value}
    {seen : List Db} {pending : List Write} {db : Db}
    (ends : weak.Ends engine permits post body seen pending db)
    (inv : ∀ db, strong.Inv db → weak.Inv db)
    (rely : ∀ pending db now, strong.Rely pending db now → weak.Rely pending db now) :
    strong.Ends engine permits post body seen pending db := by
  induction body generalizing seen pending db with
  | done result =>
      cases result with
      | error error => trivial
      | ok value => exact ends
  | statement writes next ih =>
      intro now interference holds permitted
      apply ih
      exact ends now (rely _ _ _ interference) (inv _ holds) permitted

/-- How a body of a part ends where the whole bounds the interference with the part. -/
theorem Assumptions.Ends.lift {Db Write Lock Part PartWrite PartLock Error PartError Value : Type}
    {whole : Engine Db Write Lock} {part : Engine Part PartWrite PartLock}
    {component : Component whole part} {assumptions : Assumptions Db Write}
    {partial_ : Assumptions Part PartWrite} {permits : List Db → Db → Prop}
    {post : Value → List Part → List PartWrite → Part → Prop} {raise : PartError → Error}
    (inv : ∀ db, assumptions.Inv db → partial_.Inv (component.view db))
    (rely : ∀ pending db now, assumptions.Rely (pending.map component.wrap) db now →
      partial_.Rely pending (component.view db) (component.view now))
    {body : Tx Part PartWrite PartError Value} {db : Db}
    (ends : partial_.Ends part (fun _ _ => True) post body [] [] (component.view db)) :
    assumptions.Ends whole permits (fun value _ writes db => ∃ seen pending,
        writes = pending.map component.wrap ∧ post value seen pending (component.view db))
      (component.lift raise body) [] [] db := by
  have general : ∀ (body : Tx Part PartWrite PartError Value) (seen : List Part)
      (pending : List PartWrite) (db : Db) (seen' : List Db),
      partial_.Ends part (fun _ _ => True) post body seen pending (component.view db) →
      assumptions.Ends whole permits (fun value _ writes db => ∃ seen pending,
          writes = pending.map component.wrap ∧ post value seen pending (component.view db))
        (component.lift raise body) seen' (pending.map component.wrap) db := by
    intro body
    induction body with
    | done result =>
        intro seen pending db seen' ends
        cases result with
        | error error => trivial
        | ok value => exact ⟨seen, pending, rfl, ends⟩
    | statement writes next ih =>
        intro seen pending db seen' ends now interference holds _
        have step := ih _ _ _ now (seen' ++ [whole.view now (pending.map component.wrap)])
          (ends (component.view now) (rely _ _ _ interference) (inv _ holds) trivial)
        rw [← component.view_wrap] at step
        simpa only [List.map_append] using step
  exact general body [] [] db [] ends

namespace Tx

variable {Db Write Error Value Other : Type} {Allowed : Write → Prop}

/-- A body none of whose statements writes anything else, whatever it reads. -/
def Issues (Allowed : Write → Prop) : Tx Db Write Error Value → Prop
  | done _ => True
  | statement writes next => ∀ db, (∀ write ∈ writes db, Allowed write) ∧ Issues Allowed (next db)

namespace Issues

theorem pure (value : Value) : (Pure.pure value : Tx Db Write Error Value).Issues Allowed := trivial

theorem fail (error : Error) : (Tx.fail error : Tx Db Write Error Value).Issues Allowed := trivial

theorem bind {body : Tx Db Write Error Other} {next : Other → Tx Db Write Error Value}
    (first : body.Issues Allowed) (rest : ∀ value, (next value).Issues Allowed) :
    (body >>= next).Issues Allowed := by
  change (body.bind next).Issues Allowed
  induction body with
  | done result =>
      cases result with
      | error error => trivial
      | ok value => exact rest value
  | statement writes more ih => exact fun db => ⟨(first db).1, ih db (first db).2⟩

theorem map {body : Tx Db Write Error Other} (change : Other → Value)
    (issues : body.Issues Allowed) : (change <$> body).Issues Allowed :=
  bind issues fun _ => trivial

theorem execute {run : Db → Except Error (List Write × Value)}
    (statement : ∀ db writes value, run db = .ok (writes, value) →
      ∀ write ∈ writes, Allowed write) : (Tx.execute run).Issues Allowed := by
  intro db
  refine ⟨fun write member => ?_, trivial⟩
  cases ran : run db with
  | error error => simp [ran, Except.toOption] at member
  | ok answer =>
      rcases answer with ⟨writes, value⟩
      simp only [ran] at member
      exact statement db writes value ran write member

theorem read (query : Db → Value) :
    (Tx.read query : Tx Db Write Error Value).Issues Allowed :=
  execute fun db writes value ran write member => by
    cases ran
    cases member

theorem write {writes : List Write} (allowed : ∀ write ∈ writes, Allowed write) :
    (Tx.write writes : Tx Db Write Error Unit).Issues Allowed :=
  execute fun db _ _ ran => by
    cases ran
    exact allowed

theorem mono {More : Write → Prop} {body : Tx Db Write Error Value}
    (issues : body.Issues Allowed) (weaker : ∀ write, Allowed write → More write) :
    body.Issues More := by
  induction body with
  | done result => trivial
  | statement writes next ih =>
      exact fun db => ⟨fun write member => weaker write ((issues db).1 write member),
        ih db (issues db).2⟩

/-- The rule for a body of a part. -/
theorem lift {Lock Part PartWrite PartLock PartError : Type} {whole : Engine Db Write Lock}
    {part : Engine Part PartWrite PartLock} {component : Component whole part}
    {raise : PartError → Error} {Own : PartWrite → Prop} {body : Tx Part PartWrite PartError Value}
    (issues : body.Issues Own) (allowed : ∀ write, Own write → Allowed (component.wrap write)) :
    (component.lift raise body).Issues Allowed := by
  induction body with
  | done result => trivial
  | statement writes next ih =>
      refine fun db => ⟨fun write member => ?_, ih _ (issues _).2⟩
      rcases List.mem_map.mp member with ⟨own, issued, rfl⟩
      exact allowed own ((issues _).1 own issued)

end Issues

/-- Every body issues some writes. -/
theorem issues_any (body : Tx Db Write Error Value) : body.Issues fun _ => True := by
  induction body with
  | done result => trivial
  | statement writes next ih => exact fun db => ⟨fun _ _ => trivial, ih db⟩

end Tx

section Pending

variable {Client Db Write Lock Error Value : Type} [DecidableEq Client]
  {workload : Workload Client Db Write Lock Error Value} {client : Client}
  {Allowed : Write → Prop} {state next : Workload.State Client Db Write Error Value}

/-- A session that has issued, and goes on to issue, only certain writes. -/
def Session.Issues (Allowed : Write → Prop) : Session Db Write Error Value → Prop
  | .active _ _ pending body => (∀ write ∈ pending, Allowed write) ∧ body.Issues Allowed
  | _ => True

theorem Session.Issues.put (issues : (state.session client).Issues Allowed) {moved : Client}
    {session : Session Db Write Error Value} (goes : moved = client → session.Issues Allowed) :
    ((state.put moved session).session client).Issues Allowed := by
  by_cases same : client = moved
  · subst same
    rw [Workload.State.session_put]
    exact goes rfl
  · simpa [Workload.State.put, same] using issues

theorem Session.Issues.step (program : (workload.program client).Issues Allowed)
    (issues : (state.session client).Issues Allowed) {label : Workload.Label Client}
    (move : workload.Step state label next) : (next.session client).Issues Allowed := by
  cases move with
  | begin ready =>
      refine issues.put ?_
      rintro rfl
      exact ⟨List.forall_mem_nil _, program⟩
  | statement running permitted unlocked =>
      refine issues.put ?_
      rintro rfl
      rw [running] at issues
      exact ⟨List.forall_mem_append.mpr ⟨issues.1, (issues.2 _).1⟩, (issues.2 _).2⟩
  | commit finished => exact issues.put fun _ => trivial
  | abort running => exact issues.put fun _ => trivial
  | giveUp aborted => exact issues.put fun _ => trivial
  | external change => exact issues

/-- What a client has pending is among what its body issues. -/
theorem Workload.pending_of_issues (program : (workload.program client).Issues Allowed)
    (reached : workload.system.Reachable state) {begun : Db} {seen : List Db}
    {pending : List Write} {body : Tx Db Write Error Value}
    (running : state.session client = .active begun seen pending body) :
    ∀ write ∈ pending, Allowed write := by
  have issues : (state.session client).Issues Allowed := by
    refine reached.invariant (fun state => (state.session client).Issues Allowed) ?_ ?_
    · rintro start ⟨-, -, idle⟩
      rw [idle]
      trivial
    · exact fun before label after _ issues move => issues.step program move
  rw [running] at issues
  exact issues.1

end Pending

/-- Writes that keep an invariant and that others may commit at any time. -/
structure WriteSet {Db Write Lock : Type} (engine : Engine Db Write Lock) extends
    Assumptions Db Write where
  Allowed : Write → Prop
  inv_apply : ∀ db write, Inv db → Allowed write → Inv (engine.apply db write)
  rely_apply : ∀ held db write, Inv db → Allowed write → Rely held db (engine.apply db write)

namespace WriteSet

variable {Db Write Lock Error Value Other : Type} {engine : Engine Db Write Lock}
  {set : WriteSet engine} {db : Db} {pending : List Write} {answers : Value → Prop}

theorem inv_view (inv : set.Inv db) (allowed : ∀ write ∈ pending, set.Allowed write) :
    set.Inv (engine.view db pending) :=
  Engine.view_keeps set.Inv inv fun write member db inv =>
    set.inv_apply db write inv (allowed write member)

theorem rely_view (inv : set.Inv db) (allowed : ∀ write ∈ pending, set.Allowed write)
    (held : List Write) : set.Rely held db (engine.view db pending) := by
  have kept : set.Inv (engine.view db pending) ∧ set.Rely held db (engine.view db pending) := by
    refine Engine.view_keeps (fun now => set.Inv now ∧ set.Rely held db now)
      ⟨inv, set.refl held db⟩ ?_
    rintro write member now ⟨inv, rely⟩
    have own := allowed write member
    exact ⟨set.inv_apply now write inv own, set.trans rely (set.rely_apply held now write inv own)⟩
  exact kept.2

variable (set)

/-- The body adds writes of the set, and what it answers meets a condition. -/
def Adds (body : Tx Db Write Error Value) (answers : Value → Prop) : Prop :=
  ∀ permits seen pending db, (∀ write ∈ pending, set.Allowed write) →
    set.Ends engine permits
      (fun value _ pending _ => (∀ write ∈ pending, set.Allowed write) ∧ answers value)
      body seen pending db

variable {set}

namespace Adds

theorem pure {value : Value} (answer : answers value) :
    set.Adds (Pure.pure value : Tx Db Write Error Value) answers :=
  fun _ _ _ _ allowed => Assumptions.Ends.pure ⟨allowed, answer⟩

theorem fail (error : Error) : set.Adds (.fail error : Tx Db Write Error Value) answers :=
  fun _ _ _ _ _ => Assumptions.Ends.fail error

theorem bind {body : Tx Db Write Error Other} {next : Other → Tx Db Write Error Value}
    (middle : Other → Prop) (first : set.Adds body middle)
    (rest : ∀ value, middle value → set.Adds (next value) answers) :
    set.Adds (body >>= next) answers := by
  intro permits seen pending db allowed
  apply Assumptions.Ends.bind
  refine Assumptions.Ends.mono ?_ (first permits seen pending db allowed)
  rintro value seen pending db ⟨allowed, answer⟩
  exact rest value answer permits seen pending db allowed

theorem map {body : Tx Db Write Error Other} (change : Other → Value)
    (adds : set.Adds body fun value => answers (change value)) :
    set.Adds (change <$> body) answers :=
  bind _ adds fun _ answer => pure answer

/-- The rule for a statement: on every database that it may see, it adds writes of the set. -/
theorem execute {run : Db → Except Error (List Write × Value)}
    (statement : ∀ db, set.Inv db → ∀ writes value, run db = .ok (writes, value) →
      (∀ write ∈ writes, set.Allowed write) ∧ answers value) :
    set.Adds (.execute run) answers := by
  intro permits seen pending db allowed
  apply Assumptions.Ends.execute
  intro now _ inv _ writes value ran
  have added := statement _ (inv_view inv allowed) writes value ran
  exact ⟨List.forall_mem_append.mpr ⟨allowed, added.1⟩, added.2⟩

theorem read {query : Db → Value} (answer : ∀ db, set.Inv db → answers (query db)) :
    set.Adds (.read query : Tx Db Write Error Value) answers := by
  apply execute
  rintro db inv writes value ⟨⟩
  exact ⟨List.forall_mem_nil _, answer db inv⟩

/-- The rule for a body of a part all of whose writes belong to the set. -/
theorem lift {Part PartWrite PartLock PartError : Type} {part : Engine Part PartWrite PartLock}
    {component : Component engine part} {raise : PartError → Error}
    (allowed : ∀ write, set.Allowed (component.wrap write))
    (body : Tx Part PartWrite PartError Value) :
    set.Adds (component.lift raise body) fun _ => True := by
  induction body with
  | done result =>
      cases result with
      | error error => exact fail (raise error)
      | ok value => exact pure trivial
  | statement writes next ih =>
      intro permits seen pending db pends now _ _ _
      apply ih
      rw [List.forall_mem_append]
      refine ⟨pends, fun write member => ?_⟩
      rcases List.mem_map.mp member with ⟨write, -, rfl⟩
      exact allowed write

section Lift

variable {Part PartWrite PartLock PartError : Type} {part : Engine Part PartWrite PartLock}
  {component : Component engine part} {raise : PartError → Error}

theorem lift_bind {body : Tx Part PartWrite PartError Other}
    {next : Other → Tx Part PartWrite PartError Value} (middle : Other → Prop)
    (first : set.Adds (component.lift raise body) middle)
    (rest : ∀ value, middle value → set.Adds (component.lift raise (next value)) answers) :
    set.Adds (component.lift raise (body >>= next)) answers := by
  rw [component.lift_bind]
  exact bind middle first rest

theorem lift_map {body : Tx Part PartWrite PartError Other} (change : Other → Value)
    (adds : set.Adds (component.lift raise body) fun value => answers (change value)) :
    set.Adds (component.lift raise (change <$> body)) answers := by
  rw [component.lift_map]
  exact map change adds

/-- The rule for a statement of a part. -/
theorem lift_execute {run : Part → Except PartError (List PartWrite × Value)}
    (statement : ∀ db, set.Inv db → ∀ writes value, run (component.view db) = .ok (writes, value) →
      (∀ write ∈ writes, set.Allowed (component.wrap write)) ∧ answers value) :
    set.Adds (component.lift raise (.execute run)) answers := by
  rw [component.lift_execute]
  refine execute ?_
  intro db inv writes value ran
  cases answered : run (component.view db) with
  | error error =>
      rw [answered] at ran
      cases ran
  | ok answer =>
      rw [answered] at ran
      cases ran
      have step := statement db inv _ _ answered
      refine ⟨fun write member => ?_, step.2⟩
      rcases List.mem_map.mp member with ⟨own, issued, rfl⟩
      exact step.1 own issued

theorem lift_read {query : Part → Value}
    (answer : ∀ db, set.Inv db → answers (query (component.view db))) :
    set.Adds (component.lift raise (.read query)) answers := by
  rw [component.lift_read]
  exact read answer

end Lift

end Adds

/-- A body that issues only writes of a set adds only writes of it. -/
theorem adds_of_issues {Allowed : Write → Prop} {body : Tx Db Write Error Value}
    (issues : body.Issues Allowed) (among : ∀ write, Allowed write → set.Allowed write) :
    set.Adds body fun _ => True := by
  induction body with
  | done result =>
      cases result with
      | error error => exact Adds.fail error
      | ok value => exact Adds.pure trivial
  | statement writes next ih =>
      intro permits seen pending db pends now _ _ _
      apply ih _ (issues _).2
      rw [List.forall_mem_append]
      exact ⟨pends, fun write member => among write ((issues _).1 write member)⟩

section Runs

variable {Client : Type} [DecidableEq Client] {workload : Workload Client Db Write Lock Error Value}
  {state : Workload.State Client Db Write Error Value}

/-- The outline of bodies that all add writes of one set. -/
def outline (set : WriteSet workload.toEngine) (initial : ∀ db, workload.initial db → set.Inv db)
    (closed : ∀ db next, ¬ workload.external db next)
    (adds : ∀ client, set.Adds (workload.program client) fun _ => True) : Outline workload where
  toAssumptions := set.toAssumptions
  Effect _ _ _ _ _ := True
  initial := initial
  external db next _ change := absurd change (closed db next)
  safe client begun _ := by
    refine Assumptions.Ends.mono ?_ (adds client _ [] [] begun (List.forall_mem_nil _))
    rintro reply _ pending db ⟨allowed, -⟩ now _ inv
    exact ⟨inv_view inv allowed, trivial, fun held _ => rely_view inv allowed held⟩

/-- Bodies that add writes of a set keep its invariant on every schedule. -/
theorem inv_of_reachable (set : WriteSet workload.toEngine)
    (initial : ∀ db, workload.initial db → set.Inv db)
    (closed : ∀ db next, ¬ workload.external db next)
    (adds : ∀ client, set.Adds (workload.program client) fun _ => True)
    (reached : workload.system.Reachable state) : set.Inv state.db :=
  (Outline.steady_of_reachable (outline set initial closed adds) reached).inv

end Runs

end WriteSet

/-- What every single write keeps holds on every schedule. -/
theorem Workload.inv_of_apply {Client Db Write Lock Error Value : Type} [DecidableEq Client]
    {workload : Workload Client Db Write Lock Error Value} {Inv : Db → Prop}
    (initial : ∀ db, workload.initial db → Inv db)
    (external : ∀ db next, Inv db → workload.external db next → Inv next)
    (apply : ∀ db write, Inv db → Inv (workload.apply db write))
    {state : State Client Db Write Error Value} (reached : workload.system.Reachable state) :
    Inv state.db := by
  refine reached.invariant (fun state => Inv state.db) ?_ ?_
  · exact fun start begins => initial _ begins.1
  · intro before label after _ inv move
    rcases Outline.step_cases move with ⟨same, -⟩ | ⟨change, -⟩ |
      ⟨client, begun, seen, pending, reply, -, same, -⟩
    · rwa [same]
    · exact external _ _ inv change
    · rw [same]
      exact Engine.view_keeps Inv inv fun write _ db => apply db write
