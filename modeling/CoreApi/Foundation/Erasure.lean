import CoreApi.Foundation.ReadCommitted

/-!
# Runs without the clients that have not committed

Nobody sees what another client has pending, so a client that has not committed
might as well never have begun. What is reached with it is reached without it, and
whatever must have been done by somebody was done by somebody who has committed.
-/

namespace Workload

variable {Client Db Write Lock Error Value : Type}

/-- Some of the clients have never begun. -/
def State.without (state : State Client Db Write Error Value) (acts : Client → Prop)
    [DecidablePred acts] : State Client Db Write Error Value :=
  { state with session := fun client => if acts client then state.session client else .idle }

theorem State.session_without {acts : Client → Prop} [DecidablePred acts]
    {state : State Client Db Write Error Value} {client : Client} (acting : acts client) :
    (state.without acts).session client = state.session client := if_pos acting

variable [DecidableEq Client] (workload : Workload Client Db Write Lock Error Value)

/-- The same engine with other bodies. -/
def withPrograms (program : Client → Tx Db Write Error Value) :
    Workload Client Db Write Lock Error Value :=
  { workload with program := program }

variable {workload} {program : Client → Tx Db Write Error Value} {acts : Client → Prop}
  [DecidablePred acts] {state next : State Client Db Write Error Value} {client : Client}

theorem State.without_put (acting : acts client) (session : Session Db Write Error Value) :
    (state.put client session).without acts = (state.without acts).put client session := by
  simp only [State.without, State.put, State.mk.injEq, true_and]
  funext other
  by_cases same : other = client
  · subst same
    simp [acting]
  · simp [same]

theorem State.without_put_other (silent : ¬ acts client) (session : Session Db Write Error Value) :
    (state.put client session).without acts = state.without acts := by
  simp only [State.without, State.put, State.mk.injEq, true_and]
  funext other
  by_cases same : other = client
  · subst same
    simp [silent]
  · simp [same]

/-- A step of one of the others is no step. -/
theorem Step.without (agrees : ∀ client, acts client → program client = workload.program client)
    {label : Label Client} (move : workload.Step state label next)
    (committed : ∀ entry ∈ next.log, acts entry.client) :
    (workload.withPrograms program).system.Leads (state.without acts) (next.without acts) := by
  -- a session that is put is put on both sides, or shows on neither
  have put : ∀ {client : Client} {session : Session Db Write Error Value} (label : Label Client),
      (acts client → (workload.withPrograms program).Step (state.without acts) label
        ((state.without acts).put client session)) →
      (workload.withPrograms program).system.Leads (state.without acts)
        ((state.put client session).without acts) := by
    intro client session label moves
    by_cases acting : acts client
    · rw [State.without_put acting]
      exact .single ⟨label, moves acting⟩
    · rw [State.without_put_other acting]
      exact .refl
  cases move with
  | @begin client ready =>
      refine put (.begin client) fun acting => ?_
      rw [← agrees _ acting]
      refine Step.begin ?_
      rwa [State.session_without acting]
  | @statement client begun seen pending writes rest running permitted unlocked =>
      refine put (.statement client) fun acting => ?_
      refine Step.statement ((State.session_without acting).trans running) permitted ?_
      intro other distinct
      by_cases acts' : acts other
      · rw [State.session_without acts']
        exact unlocked other distinct
      · simp only [State.without, if_neg acts']
        exact (Engine.Apart.nil _).symm
  | @commit client begun seen pending reply finished =>
      have acting : acts client :=
        committed ⟨client, begun, reply⟩ (List.mem_append_right _ (List.mem_singleton_self _))
      have step : (workload.withPrograms program).Step (state.without acts) (.commit client) _ :=
        Step.commit ((State.session_without acting).trans finished)
      rw [← State.without_put acting] at step
      exact .single ⟨_, step⟩
  | @abort client begun seen pending body running =>
      refine put (.abort client) fun acting => ?_
      exact Step.abort ((State.session_without acting).trans running)
  | @giveUp client aborted =>
      refine put (.giveUp client) fun acting => ?_
      exact Step.giveUp ((State.session_without acting).trans aborted)
  | external change => exact .single ⟨_, Step.external change⟩

variable (program acts) in
/-- What is reached with some clients that have not committed is reached without them. -/
theorem reachable_without (reached : workload.system.Reachable state)
    (agrees : ∀ client, acts client → program client = workload.program client)
    (committed : ∀ entry ∈ state.log, acts entry.client) :
    (workload.withPrograms program).system.Reachable (state.without acts) := by
  revert committed
  refine reached.invariant (fun state => (∀ entry ∈ state.log, acts entry.client) →
    (workload.withPrograms program).system.Reachable (state.without acts)) ?_ ?_
  · rintro start ⟨begins, empty, idle⟩ -
    refine .initial ⟨begins, empty, fun client => ?_⟩
    simp only [State.without, idle, ite_self]
  · intro before label after _ reached move committed
    have grown : before.log ⊆ after.log := by
      cases move <;> simp [State.put]
    exact (reached fun entry member => committed entry (grown member)).leads
      (move.without agrees committed)

end Workload
