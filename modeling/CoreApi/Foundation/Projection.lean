import Mathlib.Data.List.Forall2
import CoreApi.Foundation.Component

/-!
# A workload seen from one of its parts

Some clients of a workload run bodies of a part of its database, and the others
write to the tables of the rest. What happens to the part is then a run of the
bodies alone: every fact about their runs holds wherever they run.
-/

/-- A workload whose own clients run the bodies of a workload on a part of the database. -/
structure Projection {Client Db Write Lock Error Value Part PartWrite PartLock PartError PartValue :
    Type} [DecidableEq Client] (whole : Workload Client Db Write Lock Error Value)
    (part : Workload Client Part PartWrite PartLock PartError PartValue) where
  own : Client → Bool
  component : Client → Component whole.toEngine part.toEngine
  view : Db → Part
  wrapLock : PartLock → Lock
  raise : PartError → Error
  answer : PartValue → Value
  component_view : ∀ client, (component client).view = view
  component_wrapLock : ∀ client, (component client).wrapLock = wrapLock
  program : ∀ client, own client →
    whole.program client = answer <$> (component client).lift raise (part.program client)
  permits : ∀ client seen now, own client → whole.permits client seen now →
    part.permits client (seen.map view) (view now)
  initial : ∀ db, whole.initial db → part.initial (view db)
  external : ∀ db next, whole.external db next →
    view next = view db ∨ part.external (view db) (view next)
  others : ∀ state, whole.system.Reachable state → ∀ client, own client = false →
    ∀ begun seen pending reply,
    state.session client = .active begun seen pending (.done (.ok reply)) →
      view (whole.view state.db pending) = view state.db ∨
        part.external (view state.db) (view (whole.view state.db pending))

namespace Projection

variable {Client Db Write Lock Error Value Part PartWrite PartLock PartError PartValue : Type}
  [DecidableEq Client] {whole : Workload Client Db Write Lock Error Value}
  {part : Workload Client Part PartWrite PartLock PartError PartValue}
  (projection : Projection whole part)

/-- How a session of an own client looks from the part. -/
inductive Looks (client : Client) :
    Session Db Write Error Value → Session Part PartWrite PartError PartValue → Prop where
  | idle : Looks client .idle .idle
  | active (begun : Db) (seen : List Db) (pending : List PartWrite)
      (body : Tx Part PartWrite PartError PartValue) :
      Looks client
        (.active begun seen (pending.map (projection.component client).wrap)
          (projection.answer <$> (projection.component client).lift projection.raise body))
        (.active (projection.view begun) (seen.map projection.view) pending body)
  | aborted : Looks client .aborted .aborted
  | failed : Looks client .failed .failed
  | committed (begun : Db) (reply : PartValue) :
      Looks client (.committed begun (projection.answer reply))
        (.committed (projection.view begun) reply)

/-- The entry of a log as the part keeps it. -/
def Keeps (entry : Workload.Entry Client Db Value) (entry' : Workload.Entry Client Part PartValue) :
    Prop :=
  entry'.client = entry.client ∧ entry'.begun = projection.view entry.begun ∧
    entry.reply = projection.answer entry'.reply

/-- A state of the part that shows what a state of the whole is there. -/
structure Shows (state : Workload.State Client Db Write Error Value)
    (shown : Workload.State Client Part PartWrite PartError PartValue) : Prop where
  db : shown.db = projection.view state.db
  log : List.Forall₂ projection.Keeps (state.log.filter fun entry => projection.own entry.client)
    shown.log
  own : ∀ client, projection.own client →
    projection.Looks client (state.session client) (shown.session client)
  other : ∀ client, projection.own client = false → shown.session client = .idle

variable {projection}
  {state next : Workload.State Client Db Write Error Value}
  {shown : Workload.State Client Part PartWrite PartError PartValue} {client : Client}

theorem Looks.pending {session : Session Db Write Error Value}
    {session' : Session Part PartWrite PartError PartValue}
    (looks : projection.Looks client session session') :
    session.pending = session'.pending.map (projection.component client).wrap := by
  cases looks <;> rfl

theorem Looks.of_idle {session' : Session Part PartWrite PartError PartValue}
    (looks : projection.Looks client .idle session') : session' = .idle := by
  cases looks
  rfl

theorem Looks.of_aborted {session' : Session Part PartWrite PartError PartValue}
    (looks : projection.Looks client .aborted session') : session' = .aborted := by
  cases looks
  rfl

theorem Looks.of_active {begun : Db} {seen : List Db} {pending : List Write}
    {body : Tx Db Write Error Value} {session' : Session Part PartWrite PartError PartValue}
    (looks : projection.Looks client (.active begun seen pending body) session') :
    ∃ pending' body', session' =
      .active (projection.view begun) (seen.map projection.view) pending' body' := by
  cases looks with
  | active begun seen pending' body' => exact ⟨pending', body', rfl⟩

/-- A body of the part that is about to run a statement. -/
theorem Looks.of_statement {begun : Db} {seen : List Db} {pending : List Write}
    {writes : Db → List Write} {rest : Db → Tx Db Write Error Value}
    {session' : Session Part PartWrite PartError PartValue}
    (looks : projection.Looks client (.active begun seen pending (.statement writes rest))
      session') :
    ∃ pending' writes' rest', pending = pending'.map (projection.component client).wrap ∧
      session' = .active (projection.view begun) (seen.map projection.view) pending'
        (.statement writes' rest') ∧
      (∀ db, writes db = (writes' (projection.view db)).map (projection.component client).wrap) ∧
      ∀ db, rest db = projection.answer <$>
        (projection.component client).lift projection.raise (rest' (projection.view db)) := by
  generalize same : Session.active begun seen pending (.statement writes rest) = session at looks
  cases looks with
  | active begun seen pending' body =>
      rcases Session.active.inj same with ⟨rfl, rfl, rfl, body_eq⟩
      cases body with
      | done result => cases result <;> cases body_eq
      | statement writes' rest' =>
          cases body_eq
          refine ⟨pending', writes', rest', rfl, rfl, fun db => ?_, fun db => ?_⟩
          · rw [projection.component_view]
          · rw [← projection.component_view client]
            rfl
  | _ => cases same

/-- A body of the part that has come to its end. -/
theorem Looks.of_done {begun : Db} {seen : List Db} {pending : List Write} {reply : Value}
    {session' : Session Part PartWrite PartError PartValue}
    (looks : projection.Looks client (.active begun seen pending (.done (.ok reply))) session') :
    ∃ pending' reply', pending = pending'.map (projection.component client).wrap ∧
      reply = projection.answer reply' ∧
      session' = .active (projection.view begun) (seen.map projection.view) pending'
        (.done (.ok reply')) := by
  generalize same : Session.active begun seen pending (.done (.ok reply)) = session at looks
  cases looks with
  | active begun seen pending' body =>
      rcases Session.active.inj same with ⟨rfl, rfl, rfl, body_eq⟩
      cases body with
      | done result =>
          cases result with
          | error error => cases body_eq
          | ok reply' =>
              cases body_eq
              exact ⟨pending', reply', rfl, rfl, rfl⟩
      | statement writes' rest' => cases body_eq
  | _ => cases same

variable (projection) in
theorem view_wrap (client : Client) (db : Db) (pending : List PartWrite) :
    projection.view (whole.view db (pending.map (projection.component client).wrap)) =
      part.view (projection.view db) pending := by
  rw [← projection.component_view client]
  exact (projection.component client).view_wrap db pending

/-- Writes that take different locks of the whole take different locks of the part. -/
theorem apart_of_wrap {holder : Client} {held writes : List PartWrite}
    (apart : whole.Apart (held.map (projection.component holder).wrap)
      (writes.map (projection.component client).wrap)) : part.Apart held writes := by
  have named : ∀ (client : Client) write lock, part.lock write = some lock →
      whole.lock ((projection.component client).wrap write) = some (projection.wrapLock lock) := by
    intro client write lock takes
    rw [(projection.component client).lock_wrap, takes, projection.component_wrapLock]
    rfl
  intro write member lock takes write' member' takes'
  exact apart _ (List.mem_map_of_mem member) _ (named holder write lock takes) _
    (List.mem_map_of_mem member') (named client write' lock takes')

theorem Shows.put (shows : projection.Shows state shown) (own : projection.own client)
    {session : Session Db Write Error Value} {session' : Session Part PartWrite PartError PartValue}
    (looks : projection.Looks client session session') :
    projection.Shows (state.put client session) (shown.put client session') where
  db := shows.db
  log := shows.log
  own other mine := by
    by_cases same : other = client
    · subst same
      simpa using looks
    · simpa [Workload.State.put, same] using shows.own other mine
  other other foreign := by
    have same : other ≠ client := by
      rintro rfl
      rw [own] at foreign
      cases foreign
    simpa [Workload.State.put, same] using shows.other other foreign

/-- The part does not see what a session of another client does. -/
theorem Shows.put_other (shows : projection.Shows state shown)
    (foreign : projection.own client = false) (session : Session Db Write Error Value) :
    projection.Shows (state.put client session) shown where
  db := shows.db
  log := shows.log
  own other mine := by
    have same : other ≠ client := by
      rintro rfl
      rw [foreign] at mine
      cases mine
    simpa [Workload.State.put, same] using shows.own other mine
  other := shows.other

/-- The rest of the world changes the part, or leaves it as it is. -/
theorem Shows.change {db : Db} (shows : projection.Shows state shown)
    (change : projection.view db = projection.view state.db ∨
      part.external (projection.view state.db) (projection.view db)) :
    ∃ shown', part.system.Leads shown shown' ∧ projection.Shows { state with db := db } shown' := by
  rcases change with same | change
  · refine ⟨shown, .refl, ?_, shows.log, shows.own, shows.other⟩
    rw [shows.db]
    exact same.symm
  · rw [← shows.db] at change
    have move : part.system.Step shown .external _ := Workload.Step.external change
    exact ⟨_, .single ⟨_, move⟩, rfl, shows.log, shows.own, shows.other⟩

/-- An own client commits in the part what it commits in the whole. -/
theorem Shows.commit (shows : projection.Shows state shown) (own : projection.own client)
    {begun : Db} {pending : List PartWrite} {reply : PartValue} :
    projection.Shows
      { state.put client (.committed begun (projection.answer reply)) with
        db := whole.view state.db (pending.map (projection.component client).wrap)
        log := state.log ++ [⟨client, begun, projection.answer reply⟩] }
      { shown.put client (.committed (projection.view begun) reply) with
        db := part.view shown.db pending
        log := shown.log ++ [⟨client, projection.view begun, reply⟩] } := by
  have moved := shows.put own (.committed begun reply)
  refine ⟨?_, ?_, moved.own, moved.other⟩
  · rw [shows.db]
    exact (projection.view_wrap client _ _).symm
  · have kept : ([⟨client, begun, projection.answer reply⟩] :
        List (Workload.Entry Client Db Value)).filter (fun entry => projection.own entry.client) =
          [⟨client, begun, projection.answer reply⟩] := by
      simp [own]
    rw [List.filter_append, kept]
    exact List.rel_append shows.log (.cons ⟨rfl, rfl, rfl⟩ .nil)

theorem Shows.commit_other (shows : projection.Shows state shown)
    (foreign : projection.own client = false) (begun : Db) (reply : Value) :
    projection.Shows
      { state.put client (.committed begun reply) with
        log := state.log ++ [⟨client, begun, reply⟩] } shown := by
  have moved := shows.put_other foreign (.committed begun reply)
  refine ⟨moved.db, ?_, moved.own, moved.other⟩
  have dropped : ([⟨client, begun, reply⟩] : List (Workload.Entry Client Db Value)).filter
      (fun entry => projection.own entry.client) = [] := by
    simp [foreign]
  rw [List.filter_append, dropped, List.append_nil]
  exact shows.log

/-- Every step of the whole is one of the part, or none. -/
theorem Shows.step (reached : whole.system.Reachable state) (shows : projection.Shows state shown)
    {label : Workload.Label Client} (move : whole.Step state label next) :
    ∃ shown', part.system.Leads shown shown' ∧ projection.Shows next shown' := by
  cases move with
  | @begin client ready =>
      cases own : projection.own client with
      | false => exact ⟨shown, .refl, shows.put_other own _⟩
      | true =>
          have looks := shows.own client own
          have ready' : shown.session client = .idle ∨ shown.session client = .aborted := by
            rcases ready with idle | aborted
            · rw [idle] at looks
              exact .inl looks.of_idle
            · rw [aborted] at looks
              exact .inr looks.of_aborted
          have move : part.system.Step shown (.begin client) _ := Workload.Step.begin ready'
          refine ⟨_, .single ⟨_, move⟩, shows.put own ?_⟩
          rw [projection.program client own, shows.db]
          exact .active state.db [] [] (part.program client)
  | @statement client begun seen pending writes rest running permitted unlocked =>
      cases own : projection.own client with
      | false => exact ⟨shown, .refl, shows.put_other own _⟩
      | true =>
          have looks := shows.own client own
          rw [running] at looks
          rcases looks.of_statement with
            ⟨pending', writes', rest', rfl, running', writes_eq, rest_eq⟩
          have seen_eq := projection.view_wrap client state.db pending'
          have move : part.Step shown (.statement client) (shown.put client
              (.active (projection.view begun)
                (seen.map projection.view ++ [part.view shown.db pending'])
                (pending' ++ writes' (part.view shown.db pending'))
                (rest' (part.view shown.db pending')))) := by
            refine Workload.Step.statement running' ?_ ?_
            · rw [shows.db, ← seen_eq]
              exact projection.permits client seen _ own permitted
            · intro other distinct
              rw [shows.db, ← seen_eq]
              have apart := unlocked other distinct
              rw [writes_eq] at apart
              cases mine : projection.own other with
              | false =>
                  rw [shows.other other mine]
                  exact fun _ member => absurd member List.not_mem_nil
              | true =>
                  rw [(shows.own other mine).pending] at apart
                  exact apart_of_wrap apart
          refine ⟨_, .single ⟨_, move⟩, shows.put own ?_⟩
          rw [writes_eq, rest_eq, ← List.map_append, shows.db, ← seen_eq]
          generalize whole.view state.db (pending'.map (projection.component client).wrap) = now
          have seen_map : seen.map projection.view ++ [projection.view now] =
              (seen ++ [now]).map projection.view := by
            simp
          rw [seen_map]
          exact .active _ _ _ _
  | @commit client begun seen pending reply finished =>
      cases own : projection.own client with
      | false =>
          have moved := shows.commit_other own begun reply
          exact moved.change (projection.others state reached client own begun seen pending reply
            finished)
      | true =>
          have looks := shows.own client own
          rw [finished] at looks
          rcases looks.of_done with ⟨pending', reply', rfl, rfl, finished'⟩
          have move : part.system.Step shown (.commit client) _ := Workload.Step.commit finished'
          exact ⟨_, .single ⟨_, move⟩, shows.commit own⟩
  | @abort client begun seen pending body running =>
      cases own : projection.own client with
      | false => exact ⟨shown, .refl, shows.put_other own _⟩
      | true =>
          have looks := shows.own client own
          rw [running] at looks
          rcases looks.of_active with ⟨pending', body', running'⟩
          have move : part.system.Step shown (.abort client) _ := Workload.Step.abort running'
          exact ⟨_, .single ⟨_, move⟩, shows.put own .aborted⟩
  | @giveUp client aborted =>
      cases own : projection.own client with
      | false => exact ⟨shown, .refl, shows.put_other own _⟩
      | true =>
          have looks := shows.own client own
          rw [aborted] at looks
          have move : part.system.Step shown (.giveUp client) _ :=
            Workload.Step.giveUp looks.of_aborted
          exact ⟨_, .single ⟨_, move⟩, shows.put own .failed⟩
  | external change => exact shows.change (projection.external _ _ change)

variable (projection) in
/-- Whatever the whole comes to, the part may come to what it shows there. -/
theorem exists_shows (reached : whole.system.Reachable state) :
    ∃ shown, part.system.Reachable shown ∧ projection.Shows state shown := by
  induction reached with
  | @initial state start =>
      rcases start with ⟨initial, empty, idle⟩
      refine ⟨⟨projection.view state.db, [], fun _ => .idle⟩,
        .initial ⟨projection.initial _ initial, rfl, fun _ => rfl⟩, rfl, ?_, ?_, fun _ _ => rfl⟩
      · rw [empty]
        exact .nil
      · intro client _
        rw [idle]
        exact .idle
  | step before move ih =>
      rcases ih with ⟨shown, reached, shows⟩
      rcases shows.step before move with ⟨shown', leads, shows'⟩
      exact ⟨shown', reached.leads leads, shows'⟩

end Projection
