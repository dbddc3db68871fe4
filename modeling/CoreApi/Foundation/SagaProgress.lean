import CoreApi.Foundation.Saga

/-!
# How far a saga has come

Whatever runs next to it, a saga stands at the end of a path through its body on
which every transaction it has gone past is committed. Once it throws, it takes
its compensations back newest first, and each of them is committed or kept as a
descriptor before an older one begins.
-/

namespace Saga

variable {Client Reply Query Answer Descriptor Error Value : Type}

/-- A path through a saga: the compensations registered on it, newest first, the transactions it
goes past with their replies, and where it leads. -/
inductive Path : Saga Client Reply Query Answer Descriptor Error Value →
    List (Descriptor × Client) → List (Client × Reply) →
    Saga Client Reply Query Answer Descriptor Error Value → Prop where
  | here (saga : Saga Client Reply Query Answer Descriptor Error Value) : Path saga [] [] saga
  | dispatch {client : Client}
      {next : Reply → Saga Client Reply Query Answer Descriptor Error Value}
      {registered : List (Descriptor × Client)} {passed : List (Client × Reply)}
      {last : Saga Client Reply Query Answer Descriptor Error Value} (reply : Reply)
      (rest : Path (next reply) registered passed last) :
      Path (.dispatch client next) registered ((client, reply) :: passed) last
  | onCompensate {descriptor : Descriptor} {client : Client}
      {next : Saga Client Reply Query Answer Descriptor Error Value}
      {registered : List (Descriptor × Client)} {passed : List (Client × Reply)}
      {last : Saga Client Reply Query Answer Descriptor Error Value}
      (rest : Path next registered passed last) :
      Path (.onCompensate descriptor client next) (registered ++ [(descriptor, client)]) passed last
  | call {query : Query} {next : Answer → Saga Client Reply Query Answer Descriptor Error Value}
      {registered : List (Descriptor × Client)} {passed : List (Client × Reply)}
      {last : Saga Client Reply Query Answer Descriptor Error Value} (answer : Answer)
      (rest : Path (next answer) registered passed last) :
      Path (.call query next) registered passed last

namespace Path

variable {saga middle last : Saga Client Reply Query Answer Descriptor Error Value}
  {registered newer : List (Descriptor × Client)} {passed more : List (Client × Reply)}

theorem trans (first : Path saga registered passed middle) (second : Path middle newer more last) :
    Path saga (newer ++ registered) (passed ++ more) last := by
  induction first with
  | here saga => simpa using second
  | dispatch reply rest ih => exact .dispatch reply (ih second)
  | onCompensate rest ih =>
      rw [← List.append_assoc]
      exact .onCompensate (ih second)
  | call answer rest ih => exact .call answer (ih second)

theorem past {client : Client}
    {next : Reply → Saga Client Reply Query Answer Descriptor Error Value}
    (path : Path saga registered passed (.dispatch client next)) (reply : Reply) :
    Path saga registered (passed ++ [(client, reply)]) (next reply) :=
  path.trans (.dispatch reply (.here _))

theorem registers {descriptor : Descriptor} {client : Client}
    (path : Path saga registered passed (.onCompensate descriptor client last)) :
    Path saga ((descriptor, client) :: registered) passed last := by
  simpa using path.trans (.onCompensate (.here last))

theorem answered {query : Query}
    {next : Answer → Saga Client Reply Query Answer Descriptor Error Value}
    (path : Path saga registered passed (.call query next)) (answer : Answer) :
    Path saga registered passed (next answer) := by
  simpa using path.trans (.call answer (.here _))

end Path

end Saga

namespace Workload

variable {Client Db Write Lock Error Value : Type} [DecidableEq Client]
  {workload : Workload Client Db Write Lock Error Value}
  {state next : State Client Db Write Error Value} {client : Client}

/-- A session that has failed or has committed. -/
def Ended : Session Db Write Error Value → Prop
  | .failed | .committed _ _ => True
  | _ => False

/-- Nothing happens to a session that has ended. -/
theorem Step.session_of_ended {label : Label Client} (move : workload.Step state label next)
    (ended : Ended (state.session client)) : next.session client = state.session client := by
  refine move.session_of_resting ?_ ?_
  · cases session : state.session client <;> simp_all [Ended, Resting]
  · rintro drives
    cases move with
    | begin ready =>
        cases drives
        rcases ready with idle | aborted
        · simp [idle, Ended] at ended
        · simp [aborted, Ended] at ended
    | giveUp aborted =>
        cases drives
        simp [aborted, Ended] at ended
    | _ => exact drives

theorem Step.committed_stays {label : Label Client} (move : workload.Step state label next)
    {begun : Db} {reply : Value} (committed : state.session client = .committed begun reply) :
    next.session client = .committed begun reply := by
  rw [move.session_of_ended (by rw [committed]; trivial), committed]

theorem Step.failed_stays {label : Label Client} (move : workload.Step state label next)
    (failed : state.session client = .failed) : next.session client = .failed := by
  rw [move.session_of_ended (by rw [failed]; trivial), failed]

end Workload

namespace SagaBus

variable {Client Db Write Lock TxError Reply Query Answer Descriptor Error Value : Type}

/-- The compensations that have not been taken back. -/
def Phase.left (registered : List (Descriptor × Client)) :
    Phase Client Reply Query Answer Descriptor Error Value → List (Descriptor × Client)
  | .unwinding _ rest => rest
  | .compensating _ current rest => current :: rest
  | .thrown _ => []
  | _ => registered

/-- A compensation that has committed, or whose descriptor is kept. -/
def State.Settled
    (state : State Client Db Write TxError Reply Query Answer Descriptor Error Value)
    (entry : Descriptor × Client) : Prop :=
  (∃ begun reply, state.base.session entry.2 = .committed begun reply) ∨ entry.1 ∈ state.durable

variable {workload : Workload Client Db Write Lock TxError Reply}
  (bus : SagaBus workload Query Answer Descriptor Error Value)

/-- Why a saga that has come to a point throws there. -/
def Throws (session : Client → Session Db Write TxError Reply) :
    Saga Client Reply Query Answer Descriptor Error Value → Error → Prop
  | .done (.error thrown), error => error = thrown
  | .dispatch client _, error => session client = .failed ∧ error = bus.dispatchError client
  | .call query _, error => error = bus.callError query
  | _, _ => False

/-- What the bus does with a saga that has come to a point. -/
def Phase.At (session : Client → Session Db Write TxError Reply)
    (last : Saga Client Reply Query Answer Descriptor Error Value) :
    Phase Client Reply Query Answer Descriptor Error Value → Prop
  | .running saga => last = saga
  | .awaiting client next => last = .dispatch client next
  | .returned value => last = .done (.ok value)
  | .unwinding error _ | .compensating error _ _ | .thrown error => bus.Throws session last error

/-- The path the saga has come, the end of it, and the compensations that are taken back. -/
structure Progress
    (state : State Client Db Write TxError Reply Query Answer Descriptor Error Value)
    (passed : List (Client × Reply))
    (last : Saga Client Reply Query Answer Descriptor Error Value)
    (taken : List (Descriptor × Client)) : Prop where
  path : bus.saga.Path state.registered passed last
  committed : ∀ client reply, (client, reply) ∈ passed →
    ∃ begun, state.base.session client = .committed begun reply
  stands : state.phase.At bus state.base.session last
  stack : state.registered = taken ++ state.phase.left state.registered
  settled : ∀ entry ∈ taken, state.Settled entry
  durable : ∀ descriptor ∈ state.durable, ∃ client, (descriptor, client) ∈ taken
  started : ∀ client, bus.owned client → state.base.session client ≠ .idle →
    client ∈ passed.map Prod.fst ∨ (∃ next, last = .dispatch client next) ∨
      client ∈ taken.map Prod.snd ∨ state.phase.Awaits client

variable {bus}
  {state next : State Client Db Write TxError Reply Query Answer Descriptor Error Value}
  {passed : List (Client × Reply)} {last : Saga Client Reply Query Answer Descriptor Error Value}
  {taken : List (Descriptor × Client)}

/-- A move that takes nothing back and stays where the saga has come to. -/
theorem Progress.turn (progress : bus.Progress state passed last taken)
    {phase : Phase Client Reply Query Answer Descriptor Error Value}
    (stands : phase.At bus state.base.session last)
    (left : phase.left state.registered = state.phase.left state.registered)
    (waits : ∀ client, state.phase.Awaits client →
      phase.Awaits client ∨ ∃ next, last = .dispatch client next) :
    bus.Progress { state with phase := phase } passed last taken where
  path := progress.path
  committed := progress.committed
  stands := stands
  stack := progress.stack.trans (by rw [left])
  settled := progress.settled
  durable := progress.durable
  started client owned stirring := by
    rcases progress.started client owned stirring with old | dispatch | found | awaits
    · exact .inl old
    · exact .inr (.inl dispatch)
    · exact .inr (.inr (.inl found))
    · rcases waits client awaits with awaits | dispatch
      · exact .inr (.inr (.inr awaits))
      · exact .inr (.inl dispatch)

/-- A move that takes nothing back and goes on along the path. -/
theorem Progress.advance (progress : bus.Progress state passed last taken)
    {registered : List (Descriptor × Client)} {more : List (Client × Reply)}
    {saga : Saga Client Reply Query Answer Descriptor Error Value}
    (path : bus.saga.Path registered (passed ++ more) saga)
    (committed : ∀ client reply, (client, reply) ∈ more →
      ∃ begun, state.base.session client = .committed begun reply)
    (left : state.phase.left state.registered = state.registered)
    (waits : ∀ client, (state.phase.Awaits client ∨ ∃ next, last = .dispatch client next) →
      client ∈ more.map Prod.fst) :
    bus.Progress { state with phase := .running saga, registered := registered }
      (passed ++ more) saga taken := by
  have stack := progress.stack
  rw [left] at stack
  have empty : taken = [] := List.append_left_eq_self.mp stack.symm
  subst empty
  refine ⟨path, ?_, rfl, rfl, progress.settled, progress.durable, ?_⟩
  · intro client reply member
    rcases List.mem_append.mp member with old | new
    · exact progress.committed client reply old
    · exact committed client reply new
  · intro client owned stirring
    rw [List.map_append, List.mem_append]
    rcases progress.started client owned stirring with old | dispatch | found | awaits
    · exact .inl (.inl old)
    · exact .inl (.inr (waits client (.inr dispatch)))
    · cases found
    · exact .inl (.inr (waits client (.inl awaits)))

/-- A move that takes the newest compensation back. -/
theorem Progress.take (progress : bus.Progress state passed last taken) {error : Error}
    {current : Descriptor × Client} {rest : List (Descriptor × Client)}
    (phase : state.phase = .compensating error current rest) {durable : List Descriptor}
    (kept : state.durable ⊆ durable)
    (fewer : ∀ descriptor ∈ durable, descriptor = current.1 ∨ descriptor ∈ state.durable)
    (settled : State.Settled { state with durable := durable } current) :
    bus.Progress { state with phase := .unwinding error rest, durable := durable } passed last
      (taken ++ [current]) := by
  rcases progress with ⟨path, committed, stands, stack, settled', durables, started⟩
  rw [phase] at stands stack started
  refine ⟨path, committed, stands, ?_, ?_, ?_, ?_⟩
  · rw [List.append_assoc]
    exact stack
  · intro entry member
    rcases List.mem_append.mp member with old | new
    · exact (settled' entry old).imp_right (kept ·)
    · rw [List.mem_singleton.mp new]
      exact settled
  · intro descriptor member
    rcases fewer descriptor member with rfl | old
    · exact ⟨current.2, List.mem_append_right _ (List.mem_singleton_self _)⟩
    · rcases durables descriptor old with ⟨client, found⟩
      exact ⟨client, List.mem_append_left _ found⟩
  · intro client owned stirring
    rw [List.map_append, List.mem_append]
    rcases started client owned stirring with old | dispatch | found | awaits
    · exact .inl old
    · exact .inr (.inl dispatch)
    · exact .inr (.inr (.inl (.inl found)))
    · cases awaits
      exact .inr (.inr (.inl (.inr (List.mem_singleton_self _))))

/-- A move of the saga goes on along its path, or takes a compensation back. -/
theorem Progress.move (progress : bus.Progress state passed last taken)
    (moved : bus.Moved state next) :
    ∃ passed last taken, bus.Progress next passed last taken := by
  rcases state with ⟨phase, registered, durable, base⟩
  have stands := progress.stands
  have path := progress.path
  dsimp only at stands path
  cases phase with
  | running saga =>
      obtain rfl : last = saga := stands
      cases last with
      | dispatch client rest =>
          obtain rfl := moved
          exact ⟨_, _, _, progress.turn rfl rfl fun other awaits => awaits.elim⟩
      | onCompensate descriptor client rest =>
          obtain rfl := moved
          refine ⟨passed ++ [], rest, taken, progress.advance ?_ nofun rfl ?_⟩
          · rw [List.append_nil]
            exact path.registers
          · rintro other (awaits | ⟨_, dispatch⟩)
            · exact awaits.elim
            · cases dispatch
      | call query rest =>
          rcases moved with ⟨answer, rfl⟩ | rfl
          · refine ⟨passed ++ [], rest answer, taken, progress.advance ?_ nofun rfl ?_⟩
            · rw [List.append_nil]
              exact path.answered answer
            · rintro other (awaits | ⟨_, dispatch⟩)
              · exact awaits.elim
              · cases dispatch
          · exact ⟨_, _, _, progress.turn rfl rfl fun other awaits => awaits.elim⟩
      | done result =>
          cases result with
          | ok value =>
              obtain rfl := moved
              exact ⟨_, _, _, progress.turn rfl rfl fun other awaits => awaits.elim⟩
          | error error =>
              obtain rfl := moved
              exact ⟨_, _, _, progress.turn rfl rfl fun other awaits => awaits.elim⟩
  | awaiting client rest =>
      obtain rfl : last = .dispatch client rest := stands
      rcases moved with ⟨begun, reply, answered, rfl⟩ | ⟨failed, rfl⟩
      · refine ⟨_, _, taken, progress.advance (path.past reply) ?_ rfl ?_⟩
        · intro other answer member
          cases List.mem_singleton.mp member
          exact ⟨begun, answered⟩
        · rintro other (awaits | ⟨_, dispatch⟩)
          · cases awaits
            exact List.mem_singleton_self _
          · cases dispatch
            exact List.mem_singleton_self _
      · refine ⟨_, _, _, progress.turn ⟨failed, rfl⟩ rfl fun other awaits => ?_⟩
        cases awaits
        exact .inr ⟨_, rfl⟩
  | unwinding error rest =>
      cases rest with
      | nil =>
          obtain rfl := moved
          exact ⟨_, _, _, progress.turn stands rfl fun other awaits => awaits.elim⟩
      | cons current rest =>
          obtain rfl := moved
          exact ⟨_, _, _, progress.turn stands rfl fun other awaits => awaits.elim⟩
  | compensating error current rest =>
      rcases moved with ⟨begun, reply, answered, rfl⟩ | ⟨failed, rfl⟩
      · exact ⟨_, _, _, progress.take rfl (List.Subset.refl _) (fun _ => .inr)
          (.inl ⟨begun, reply, answered⟩)⟩
      · exact ⟨_, _, _, progress.take rfl (List.subset_cons_self _ _)
          (fun _ member => List.mem_cons.mp member) (.inr List.mem_cons_self)⟩
  | returned value => exact moved.elim
  | thrown error => exact moved.elim

/-- Every compensation of a saga that has thrown is committed or kept. -/
theorem Progress.settled_of_thrown (progress : bus.Progress state passed last taken)
    {error : Error} (thrown : state.phase = .thrown error) :
    ∀ entry ∈ state.registered, state.Settled entry := by
  have stack := progress.stack
  rw [thrown, Phase.left, List.append_nil] at stack
  rw [stack]
  exact progress.settled

/-- A saga that has not thrown has taken nothing back. -/
theorem Progress.taken_nil (progress : bus.Progress state passed last taken)
    (left : state.phase.left state.registered = state.registered) :
    taken = [] ∧ state.durable = [] := by
  have stack := progress.stack
  rw [left] at stack
  have empty : taken = [] := List.append_left_eq_self.mp stack.symm
  refine ⟨empty, List.eq_nil_iff_forall_not_mem.mpr fun descriptor member => ?_⟩
  rcases progress.durable descriptor member with ⟨client, member⟩
  simp [empty] at member

/-- A client that is neither passed nor dispatched is at work only as a compensation of a saga that
throws. -/
theorem Progress.compensates (progress : bus.Progress state passed last taken) {client : Client}
    (owned : bus.owned client) (stirring : state.base.session client ≠ .idle)
    (unpassed : client ∉ passed.map Prod.fst)
    (undispatched : ∀ next, last ≠ .dispatch client next) :
    (∃ error, bus.Throws state.base.session last error) ∧
      client ∈ state.registered.map Prod.snd := by
  have stands := progress.stands
  have among : ∀ entry ∈ taken ++ state.phase.left state.registered, entry ∈ state.registered :=
    fun entry member => progress.stack ▸ member
  rcases progress.started client owned stirring with old | ⟨next, dispatch⟩ | found | awaits
  · exact absurd old unpassed
  · exact absurd dispatch (undispatched next)
  · rcases List.mem_map.mp found with ⟨entry, member, rfl⟩
    refine ⟨?_, List.mem_map_of_mem (among entry (List.mem_append_left _ member))⟩
    by_contra unthrown
    have left : state.phase.left state.registered = state.registered := by
      cases phase : state.phase with
      | unwinding error rest =>
          rw [phase] at stands
          exact absurd ⟨error, stands⟩ unthrown
      | compensating error current rest =>
          rw [phase] at stands
          exact absurd ⟨error, stands⟩ unthrown
      | thrown error =>
          rw [phase] at stands
          exact absurd ⟨error, stands⟩ unthrown
      | _ => rfl
    rw [(progress.taken_nil left).1] at member
    cases member
  · cases phase : state.phase with
    | awaiting awaited next =>
        rw [phase] at awaits stands
        cases awaits
        exact absurd stands (undispatched next)
    | compensating error current rest =>
        rw [phase] at awaits stands among
        cases awaits
        exact ⟨⟨error, stands⟩, List.mem_map_of_mem (among current
          (List.mem_append_right _ List.mem_cons_self))⟩
    | _ =>
        rw [phase] at awaits
        exact awaits.elim

/-- A compensation that is not also dispatched begins after all newer ones are settled. -/
theorem Progress.newer_settled (progress : bus.Progress state passed last taken)
    {newer older : List (Descriptor × Client)} {descriptor : Descriptor} {client : Client}
    (stack : state.registered = newer ++ (descriptor, client) :: older)
    (owned : bus.owned client) (stirring : state.base.session client ≠ .idle)
    (once : client ∉ newer.map Prod.snd) (unpassed : client ∉ passed.map Prod.fst)
    (undispatched : ∀ next, last ≠ .dispatch client next) :
    ∀ entry ∈ newer, state.Settled entry := by
  have first : ∀ more : List (Descriptor × Client), state.registered = taken ++ more →
      (client ∈ taken.map Prod.snd ∨ ∃ current rest, more = current :: rest ∧ current.2 = client) →
      ∀ entry ∈ newer, entry ∈ taken := by
    intro more split among entry member
    rcases List.append_eq_append_iff.mp (split.symm.trans stack) with
      ⟨between, rfl, same⟩ | ⟨between, rfl, -⟩
    · rcases among with found | ⟨current, rest, rfl, rfl⟩
      · exact absurd (by simpa using .inl (by simpa using found)) once
      · cases between with
        | nil => simpa using member
        | cons head tail =>
            rw [List.cons_append, List.cons.injEq] at same
            exact absurd (by simp [same.1]) once
    · exact List.mem_append_left _ member
  intro entry member
  refine progress.settled entry (first _ progress.stack ?_ entry member)
  rcases progress.started client owned stirring with old | ⟨next, dispatch⟩ | found | awaits
  · exact absurd old unpassed
  · exact absurd dispatch (undispatched next)
  · exact .inl found
  · have stands := progress.stands
    cases phase : state.phase with
    | awaiting awaited next =>
        rw [phase] at awaits stands
        cases awaits
        exact absurd stands (undispatched next)
    | compensating error current rest =>
        rw [phase] at awaits
        exact .inr ⟨current, rest, rfl, awaits⟩
    | _ =>
        rw [phase] at awaits
        exact awaits.elim

section Runs

variable [DecidableEq Client]

theorem Throws.base {label : Workload.Label Client}
    {base base' : Workload.State Client Db Write TxError Reply}
    (move : workload.Step base label base') {error : Error}
    (throws : bus.Throws base.session last error) : bus.Throws base'.session last error := by
  cases last with
  | done result =>
      cases result with
      | error thrown => exact throws
      | ok value => exact throws.elim
  | dispatch client next => exact ⟨move.failed_stays throws.1, throws.2⟩
  | onCompensate descriptor client next => exact throws.elim
  | call query next => exact throws

/-- The other transactions do not move the saga. -/
theorem Progress.base (progress : bus.Progress state passed last taken)
    {label : Workload.Label Client} {base : Workload.State Client Db Write TxError Reply}
    (move : workload.Step state.base label base)
    (driven : ∀ client, bus.owned client → label.Drives client → state.phase.Awaits client) :
    bus.Progress { state with base := base } passed last taken where
  path := progress.path
  committed client reply member := by
    rcases progress.committed client reply member with ⟨begun, committed⟩
    exact ⟨begun, move.committed_stays committed⟩
  stands := by
    have stands := progress.stands
    revert stands
    show Phase.At bus state.base.session last state.phase → Phase.At bus base.session last _
    cases state.phase with
    | unwinding error rest => exact Throws.base move
    | compensating error current rest => exact Throws.base move
    | thrown error => exact Throws.base move
    | _ => exact id
  stack := progress.stack
  settled entry member := by
    rcases progress.settled entry member with ⟨begun, reply, committed⟩ | kept
    · exact .inl ⟨begun, reply, move.committed_stays committed⟩
    · exact .inr kept
  durable := progress.durable
  started client owned stirring := by
    by_cases drives : label.Drives client
    · exact .inr (.inr (.inr (driven client owned drives)))
    · refine progress.started client owned fun idle => stirring ?_
      show base.session client = .idle
      rw [move.session_of_resting (by rw [idle]; trivial) drives, idle]

theorem progress_of_reachable (reached : bus.system.Reachable state) :
    ∃ passed last taken, bus.Progress state passed last taken := by
  refine reached.invariant (fun state => ∃ passed last taken, bus.Progress state passed last taken)
    ?_ ?_
  · rintro start ⟨phase, registered, durable, -, -, idle⟩
    refine ⟨[], bus.saga, [], ?_, nofun, ?_, ?_, nofun, ?_, ?_⟩
    · rw [registered]
      exact .here _
    · rw [phase]
      rfl
    · rw [phase]
      rfl
    · rw [durable]
      exact nofun
    · intro client _ stirring
      exact absurd (idle client) stirring
  · rintro before label after - ⟨passed, last, taken, progress⟩ move
    cases label with
    | saga => exact progress.move (Step.moved move)
    | base label =>
        cases move with
        | base move driven => exact ⟨passed, last, taken, progress.base move driven⟩

end Runs

end SagaBus
