import CoreApi.Foundation.ReadCommitted

/-!
# Messages that are handed over with a commit

A transaction writes messages next to its rows, and a relay carries them on from there. It
sees the messages of a transaction when the transaction commits, all of them or none, and
between commits it works by itself.
-/

/-- How the writes of a workload carry messages, and how a relay takes one. -/
structure Handover {Client Db Write Lock Error Value Store Label : Type} [DecidableEq Client]
    (workload : Workload Client Db Write Lock Error Value) (relay : TransitionSystem Store Label)
    (Message : Type) where
  message? : Write → Option Message
  arrives : Message → Store → Store → Prop
  arrival : Label → Prop
  arrives_step : ∀ message store next, arrives message store next →
    ∃ label, arrival label ∧ relay.Step store label next

namespace Handover

variable {Client Db Write Lock Error Value Store Label Message : Type} [DecidableEq Client]
  {workload : Workload Client Db Write Lock Error Value} {relay : TransitionSystem Store Label}

/-- The workload, the relay, and as history every message handed over, in order. -/
structure State (Client Db Write Error Value Store Message : Type) where
  base : Workload.State Client Db Write Error Value
  store : Store
  handed : List Message

variable (handover : Handover workload relay Message)

/-- The messages of a transaction arrive one by one. -/
inductive Takes : Store → List Message → Store → Prop where
  | nil (store : Store) : Takes store [] store
  | cons {store middle last : Store} {message : Message} {rest : List Message}
      (arrived : handover.arrives message store middle) (taken : Takes middle rest last) :
      Takes store (message :: rest) last

/-- A commit hands its messages over, and the workload and the relay move by themselves otherwise.
-/
inductive Step : State Client Db Write Error Value Store Message → Workload.Label Client ⊕ Label →
    State Client Db Write Error Value Store Message → Prop where
  | commit {state : State Client Db Write Error Value Store Message} {client : Client}
      {begun : Db} {seen : List Db} {pending : List Write} {reply : Value} {store : Store}
      (finished : state.base.session client = .active begun seen pending (.done (.ok reply)))
      (taken : handover.Takes state.store (pending.filterMap handover.message?) store) :
      Step state (.inl (.commit client))
        ⟨state.base.commit workload client begun reply pending, store,
          state.handed ++ pending.filterMap handover.message?⟩
  | work {state : State Client Db Write Error Value Store Message}
      {label : Workload.Label Client} {base : Workload.State Client Db Write Error Value}
      (move : workload.Step state.base label base)
      (uncommitted : ∀ client, label ≠ .commit client) :
      Step state (.inl label) { state with base := base }
  | relay {state : State Client Db Write Error Value Store Message} {label : Label}
      {store : Store} (move : relay.Step state.store label store)
      (own : ¬handover.arrival label) :
      Step state (.inr label) { state with store := store }

/-- The workload and the relay together, before anything was handed over. -/
def system : TransitionSystem (State Client Db Write Error Value Store Message)
    (Workload.Label Client ⊕ Label) where
  Initial state := workload.system.Initial state.base ∧ relay.Initial state.store ∧
    state.handed = []
  Step := handover.Step

variable {handover} {state : State Client Db Write Error Value Store Message}

theorem Takes.leads {store last : Store} {messages : List Message}
    (taken : handover.Takes store messages last) : relay.Leads store last := by
  induction taken with
  | nil => exact .refl
  | cons arrived _ ih =>
      rcases handover.arrives_step _ _ _ arrived with ⟨label, -, move⟩
      exact .head ⟨label, move⟩ ih

/-- The workload runs as it does without a relay. -/
theorem base_reachable (reached : handover.system.Reachable state) :
    workload.system.Reachable state.base := by
  refine reached.simulate State.base (fun start (started : _ ∧ _ ∧ _) => started.1) ?_
  intro before label after _ move
  cases move with
  | commit finished taken =>
      have commit : workload.system.Step before.base (.commit _) _ :=
        Workload.Step.commit finished
      exact .single ⟨_, commit⟩
  | work move uncommitted => exact .single ⟨_, move⟩
  | relay move own => exact .refl

/-- The relay runs as it does on messages from anywhere. -/
theorem store_reachable (reached : handover.system.Reachable state) :
    relay.Reachable state.store := by
  refine reached.simulate State.store (fun start (started : _ ∧ _ ∧ _) => started.2.1) ?_
  intro before label after _ move
  cases move with
  | commit finished taken => exact taken.leads
  | work move uncommitted => exact .refl
  | relay move own => exact .single ⟨_, move⟩

/-- What the relay does by itself it may do next to the workload. -/
theorem leads_of_relay {next : Store}
    (leads : (relay.restrict fun _ label => ¬handover.arrival label).Leads state.store next) :
    handover.system.Leads state { state with store := next } := by
  induction leads with
  | refl => exact .refl
  | @tail middle last _ move ih =>
      rcases move with ⟨label, own, move⟩
      have step : handover.system.Step { state with store := middle } (.inr label)
        { state with store := last } := Step.relay move own
      exact ih.tail ⟨_, step⟩

/-- What the workload does between two commits it may do next to the relay. -/
theorem leads_of_work {next : Workload.State Client Db Write Error Value}
    (leads : (workload.system.restrict fun _ label => ∀ client, label ≠ .commit client).Leads
      state.base next) :
    handover.system.Leads state { state with base := next } := by
  induction leads with
  | refl => exact .refl
  | @tail middle last _ move ih =>
      rcases move with ⟨label, uncommitted, move⟩
      have step : handover.system.Step { state with base := middle } (.inl label)
        { state with base := last } := Step.work move uncommitted
      exact ih.tail ⟨_, step⟩

/-- A client that finds nobody else at work may commit, and hand its messages over. -/
theorem reachable_commit (reached : handover.system.Reachable state) (client : Client)
    (ready : state.base.session client = .idle ∨ state.base.session client = .aborted)
    (quiet : ∀ other, other ≠ client → (state.base.session other).pending = [])
    (permitted : Workload.PermittedAlone workload client state.base.db [] []
      (workload.program client))
    {reply : Value} {writes : List Write}
    (ran : workload.aloneFrom state.base.db [] (workload.program client) = .ok (reply, writes))
    {store : Store}
    (taken : handover.Takes state.store (writes.filterMap handover.message?) store) :
    handover.system.Reachable
      ⟨state.base.commit workload client state.base.db reply writes, store,
        state.handed ++ writes.filterMap handover.message?⟩ := by
  have begins : (workload.system.restrict fun _ label => ∀ client, label ≠ .commit client).Step
      state.base (.begin client) _ :=
    ⟨fun _ same => (by cases same), Workload.Step.begin ready⟩
  rcases @Workload.leads_finish_of _ _ _ _ _ _ _ workload state.base
    (fun _ label => ∀ client, label ≠ .commit client) client state.base.db quiet _ _
    (fun _ _ same => by cases same) _ [] [] permitted ran with ⟨seen, -, finishes⟩
  generalize done : state.base.put client
    (.active state.base.db seen writes (.done (.ok reply))) = base at finishes
  have finished := reached.leads
    (leads_of_work (.head ⟨.begin client, begins⟩ finishes))
  have running : base.session client = .active state.base.db seen writes (.done (.ok reply)) := by
    rw [← done]
    exact Workload.State.session_put ..
  have commit : handover.system.Step { state with base := base } (.inl (.commit client)) _ :=
    Step.commit running taken
  have same : base.commit workload client state.base.db reply writes =
      state.base.commit workload client state.base.db reply writes := by
    rw [← done]
    simp [Workload.State.commit, Workload.State.put]
  rw [← same]
  exact finished.step commit

section Contents

variable {Row : Type} (table : Db → List Row) (pick : Message → Option Row)

omit [DecidableEq Client] in
theorem table_view {message? : Write → Option Message}
    (apply : ∀ db write, table (workload.apply db write) =
      table db ++ ((message? write).bind pick).toList) (db : Db) (pending : List Write) :
    table (workload.view db pending) =
      table db ++ (pending.filterMap message?).filterMap pick := by
  induction pending generalizing db with
  | nil => exact (List.append_nil _).symm
  | cons write rest ih =>
      have step : table (workload.view db (write :: rest)) = _ := ih (workload.apply db write)
      rw [apply] at step
      cases sent : message? write with
      | none =>
          rw [List.filterMap_cons_none sent]
          simpa [sent] using step
      | some message =>
          rw [List.filterMap_cons_some sent]
          cases picked : pick message <;> simpa [sent, picked] using step

/-- A table that keeps every message of a kind holds those that were handed over. -/
theorem table_of_reachable (initial : ∀ db, workload.initial db → table db = [])
    (external : ∀ db next, workload.external db next → table next = table db)
    (apply : ∀ db write, table (workload.apply db write) =
      table db ++ ((handover.message? write).bind pick).toList)
    (reached : handover.system.Reachable state) :
    table state.base.db = state.handed.filterMap pick := by
  refine reached.invariant (fun state => table state.base.db = state.handed.filterMap pick) ?_ ?_
  · rintro start ⟨⟨started, -, -⟩, -, none⟩
    rw [none, initial _ started]
    rfl
  · intro before label after _ same move
    cases move with
    | commit finished taken =>
        rw [List.filterMap_append, ← same]
        exact table_view table pick apply before.base.db _
    | work move uncommitted =>
        cases move with
        | commit finished => exact absurd rfl (uncommitted _)
        | external change => exact (external _ _ change).trans same
        | _ => exact same
    | relay move own => exact same

variable {Input : Type} (contents : Store → List Input) (form : Message → Input)

/-- A relay that remembers what arrived remembers what was handed over. -/
theorem contents_of_reachable (initial : ∀ store, relay.Initial store → contents store = [])
    (arrives : ∀ message store next, handover.arrives message store next →
      contents next = contents store ++ [form message])
    (kept : ∀ store label next, relay.Step store label next → ¬handover.arrival label →
      contents next = contents store) (reached : handover.system.Reachable state) :
    contents state.store = state.handed.map form := by
  have takes : ∀ {store messages last}, handover.Takes store messages last →
      contents last = contents store ++ messages.map form := by
    intro store messages last taken
    induction taken with
    | nil => exact (List.append_nil _).symm
    | cons arrived _ ih =>
        rw [ih, arrives _ _ _ arrived, List.append_assoc]
        rfl
  refine reached.invariant (fun state => contents state.store = state.handed.map form) ?_ ?_
  · rintro start ⟨-, started, none⟩
    rw [none, initial _ started]
    rfl
  · intro before label after _ same move
    cases move with
    | commit finished taken =>
        rw [List.map_append, ← same]
        exact takes taken
    | work move uncommitted => exact same
    | relay move own => exact (kept _ _ _ move own).trans same

end Contents

end Handover
