import Mathlib.Data.List.Nodup
import CoreApi.Credit.Holds

/-!
# The unique key of the ledger

No two committed rows carry the same wallet id and version. Two organizations can share the text
of a wallet id, but then only one of them has rows under it: the other would have to begin with a
version that is taken. So the next version of a wallet that has rows is free.
-/

namespace CoreApi.Credit

/-- `@@unique([aggregateId, version])`. -/
def CreditEventRow.key (row : CreditEventRow) : String × ℕ := (row.aggregateId, row.version)

/-- The keys of the rows that a transaction has inserted. -/
def insertedKeys (pending : List CreditWrite) : List (String × ℕ) :=
  pending.filterMap fun
    | .insertCreditEvent row => some row.key
    | _ => none

/-- A ledger under its unique key, each of whose rows carries the id of its own wallet. -/
structure Keyed (table : List CreditEventRow) : Prop where
  unique : (table.map CreditEventRow.key).Nodup
  home : ∀ row ∈ table, row.aggregateId = CreditAccount.walletId row.orgId row.userId

namespace Keyed

variable {table : List CreditEventRow} {orgId userId : String}

theorem nil : Keyed [] where
  unique := List.nodup_nil
  home _ member := absurd member List.not_mem_nil

theorem insert (keyed : Keyed table) {row : CreditEventRow}
    (free : row.key ∉ table.map CreditEventRow.key)
    (home : row.aggregateId = CreditAccount.walletId row.orgId row.userId) :
    Keyed (table ++ [row]) where
  unique := by
    rw [List.map_append, List.map_singleton]
    rw [← List.concat_eq_append]
    exact keyed.unique.concat free
  home other member := by
    rcases List.mem_append.mp member with old | new
    · exact keyed.home other old
    · rw [List.mem_singleton.mp new]
      exact home

/-- A wallet that has rows has one with the first version. -/
theorem exists_first (gapless : Gapless table) (rows : walletRows table orgId userId ≠ []) :
    ∃ row ∈ walletRows table orgId userId, row.version = 1 := by
  have versions := gapless orgId userId
  cases listed : walletRows table orgId userId with
  | nil => exact absurd listed rows
  | cons row rest =>
      rw [listed, List.map_cons, List.length_cons, List.range'_succ] at versions
      exact ⟨row, List.mem_cons_self, (List.cons.inj versions).1⟩

/-- The next version of a wallet that has rows is free. -/
theorem next_free (keyed : Keyed table) (gapless : Gapless table)
    (rows : walletRows table orgId userId ≠ []) :
    (CreditAccount.walletId orgId userId, (walletRows table orgId userId).length + 1) ∉
      table.map CreditEventRow.key := by
  intro taken
  rcases List.mem_map.mp taken with ⟨row, member, same⟩
  simp only [CreditEventRow.key, Prod.mk.injEq] at same
  by_cases own : row.orgId = orgId
  · have stored : row ∈ walletRows table orgId userId :=
      List.mem_filter.mpr ⟨member, decide_eq_true ⟨same.1, own⟩⟩
    have version := gapless.version_le stored
    omega
  · -- the first rows of the two wallets would share a key
    have home := keyed.home row member
    have stored : row ∈ walletRows table row.orgId row.userId :=
      List.mem_filter.mpr ⟨member, decide_eq_true ⟨home, rfl⟩⟩
    rcases exists_first gapless rows with ⟨first, listed, one⟩
    rcases exists_first gapless (List.ne_nil_of_mem stored) with ⟨other, listed', one'⟩
    have first' := List.mem_filter.mp listed
    have other' := List.mem_filter.mp listed'
    have wallet := of_decide_eq_true first'.2
    have wallet' := of_decide_eq_true other'.2
    have equal : first = other := by
      refine List.inj_on_of_nodup_map keyed.unique first'.1 other'.1 ?_
      rw [CreditEventRow.key, CreditEventRow.key, one, one', wallet.1, wallet'.1, ← home, same.1]
    exact own (wallet'.2.symm.trans (equal ▸ wallet.2))

end Keyed

/-- A sound ledger under its unique key. -/
structure KeyedLedger (table : List CreditEventRow) : Prop extends SoundLedger table where
  keyed : Keyed table

section Inserts

variable {stamp : Stamp} {command : CreditCommand} {db begun loaded : CreditDb}
  {seen : List CreditDb} {pending : List CreditWrite} {permits : List CreditDb → CreditDb → Prop}

theorem keys_view (db : CreditDb) (pending : List CreditWrite) :
    (creditEngine.view db pending).creditEvents.map CreditEventRow.key =
      db.creditEvents.map CreditEventRow.key ++ insertedKeys pending := by
  induction pending generalizing db with
  | nil => exact (List.append_nil _).symm
  | cons write rest ih =>
      rw [Engine.view, List.foldl_cons]
      refine (ih _).trans ?_
      cases write with
      | insertCreditEvent row => simp [creditEngine, insertedKeys]
      | upsertAiQuery row => rfl
      | appendOutbox event => rfl

/-- Nobody has taken the keys under which a transaction inserts. -/
def Untaken (pending : List CreditWrite) (db : CreditDb) : Prop :=
  ∀ now, Interference pending db now → Gapless now.creditEvents →
    ∀ key ∈ insertedKeys pending, key ∉ now.creditEvents.map CreditEventRow.key

/-- A closing inserts no row into the ledger. -/
theorem insertedKeys_closing (closing : CreditCommand.Closing) (row : CreditEventRow)
    (id : String) :
    insertedKeys (.insertCreditEvent row ::
      (closing.queryWrites stamp db ++ closing.eventWrites id)) = [row.key] := by
  rcases closing with ⟨_ | input, event, reply⟩ <;> cases raised : event id <;>
    simp [insertedKeys, CreditCommand.Closing.queryWrites, CreditCommand.Closing.eventWrites,
      raised]

theorem act_untaken :
    creditAssumptions.Ends creditEngine permits (fun _ _ pending db => Untaken pending db)
      (command.act stamp (command.account loaded)) seen [] loaded := by
  simp only [CreditCommand.act]
  rcases decided : command.call.decision (command.account loaded) with error | _ | event
  · exact Assumptions.Ends.fail error
  · apply Assumptions.Ends.pure
    intro now _ _ key inserted
    cases inserted
  · have saved := (loadOrOpen_frame loaded.creditEvents command.wallet.1 command.wallet.2).2.2.2
    refine Assumptions.Ends.bind (CreditCommand.save_ends saved ?_)
    intro validated _ _ inv free
    refine CreditCommand.Closing.run_ends inv ?_
    intro now rely _ key inserted
    rw [insertedKeys_closing, List.mem_singleton] at inserted
    subst inserted
    rcases rely.appended with ⟨rows, stored, unlocked⟩
    rw [stored, List.map_append, List.mem_append]
    rintro (old | new)
    · exact free old
    · rcases List.mem_map.mp new with ⟨row, member, same⟩
      exact unlocked row member _ (List.mem_singleton_self _) (by simp_all [creditEngine,
        CreditEventRow.key])

theorem execute_untaken (gapless : Gapless begun.creditEvents) :
    creditAssumptions.Ends creditEngine permits (fun _ _ pending db => Untaken pending db)
      (command.execute stamp) [] [] begun := by
  rw [CreditCommand.execute_eq]
  apply CreditCommand.guarded_ends gapless
  intro now seen _ inv
  exact Assumptions.Ends.bind (Assumptions.Ends.read fun loaded _ _ => act_untaken)

end Inserts

section Runs

variable {Client : Type} [DecidableEq Client] {stamps : Client → Stamp}
  {commands : Client → CreditCommand}
  {state : Workload.State Client CreditDb CreditWrite CreditError CreditReply}

theorem untaken_of_finished (reached : (creditWorkload stamps commands).system.Reachable state)
    {client : Client} {begun : CreditDb} {seen : List CreditDb} {pending : List CreditWrite}
    {reply : CreditReply}
    (finished : state.session client = .active begun seen pending (.done (.ok reply))) :
    Untaken pending state.db := by
  refine @Outline.post_of_finished _ _ _ _ _ _ _ (creditOutline stamps commands) _ _
    (fun _ _ _ pending db => Untaken pending db) _ ?_ ?_ reached _ _ _ _ finished
  · intro client _ seen pending db now rely untaken later rely'
    exact untaken later (rely.trans rely')
  · intro client begun inv
    exact execute_untaken inv

/-- The row of a decided event carries the id of its wallet. -/
theorem home_of_decision {stamp : Stamp} {command : CreditCommand} {db : CreditDb}
    {event : CreditLedgerEvent} (gapless : Gapless db.creditEvents)
    (decided : command.call.decision (command.account db) = .ok (some event)) :
    let row := CreditEventMapper.toPersistence event stamp.createdAt
    row.aggregateId = CreditAccount.walletId row.orgId row.userId := by
  intro row
  have wallet : row.wallet = command.wallet := CreditCommand.wallet_of_decision decided
  have named := (CreditCommand.row_of_decision gapless decided).1
  rw [← wallet] at named
  exact named

/-- The unique key holds in every run. -/
theorem keyed_of_reachable (reached : (creditWorkload stamps commands).system.Reachable state) :
    Keyed state.db.creditEvents := by
  refine reached.invariant (fun state => Keyed state.db.creditEvents) ?_ ?_
  · rintro start ⟨⟨noEvents, -, -⟩, -, -⟩
    rw [noEvents]
    exact .nil
  · intro before label after reached keyed move
    rcases Outline.step_cases move with ⟨same, -⟩ | ⟨⟨memberships, same⟩, -⟩ |
      ⟨client, begun, seen, pending, reply, finished, same, -⟩
    · rwa [same]
    · rw [same]
      exact keyed
    · have gapless : Gapless before.db.creditEvents :=
        (Outline.steady_of_reachable (creditOutline stamps commands) reached).inv
      have free := untaken_of_finished reached finished before.db (.refl _ _) gapless
      have keys := keys_view before.db pending
      have effect := (Outline.commit_effect (creditOutline stamps commands) reached finished).2
      rw [same]
      change Keyed (creditEngine.view before.db pending).creditEvents
      change CreditCommand.Effect _ _ _ _ _ (creditEngine.view before.db pending) at effect
      generalize creditEngine.view before.db pending = after at keys effect
      cases effect with
      | skipped began since gapless' later decided => exact keyed
      | @recorded db event since decided =>
          change List.map _ (before.db.creditEvents ++ [_]) = _ at keys
          rw [List.map_append, List.append_cancel_left_eq, List.map_singleton] at keys
          rw [← keys] at free
          exact keyed.insert (free _ (List.mem_singleton_self _)) (home_of_decision gapless decided)

end Runs

end CoreApi.Credit
