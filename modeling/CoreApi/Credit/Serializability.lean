import Mathlib.Data.List.Sublists
import CoreApi.Credit.Alone

/-!
# The ledger of a wallet is a serial execution

In every committed state the stream of a wallet is what its committed commands give when their
handlers run alone, one after another: each on the version of the wallet it decided on, with the
answer it has committed. A command that raised an event stands at the place of its version; a
release that found nothing to do stands where it read the wallet.
-/

namespace CoreApi.Credit

/-- One operation of the aggregate executed on a stream, with nothing in between. -/
def executeCall (orgId userId : String) (stream : List CreditLedgerEvent) (call : Call) :
    Except CreditError (List CreditLedgerEvent) :=
  match call.perform (CreditAccount.rehydrate orgId userId stream) with
  | .ok _ account => .ok (stream ++ account.uncommitted)
  | .error error _ => .error error

theorem rehydrate_uncommitted (orgId userId : String) (stream : List CreditLedgerEvent) :
    (CreditAccount.rehydrate orgId userId stream).uncommitted = [] :=
  (CreditAccount.foldl_apply_frame _ _).2.2.2

/-- Executing an operation appends the event it decides on. -/
theorem executeCall_eq (orgId userId : String) (stream : List CreditLedgerEvent) (call : Call) :
    executeCall orgId userId stream call =
      (call.decision (CreditAccount.rehydrate orgId userId stream)).map fun event =>
        stream ++ event.toList := by
  simp only [executeCall]
  rw [Call.perform_eq]
  rcases call.decision (CreditAccount.rehydrate orgId userId stream) with error | _ | event
  · rfl
  · simp [Except.map, rehydrate_uncommitted]
  · simp [Except.map, CreditAccount.record, rehydrate_uncommitted]

theorem rehydrate_concat (orgId userId : String) (stream : List CreditLedgerEvent)
    (event : CreditLedgerEvent) :
    CreditAccount.rehydrate orgId userId (stream ++ [event]) =
      (CreditAccount.rehydrate orgId userId stream).apply event :=
  List.foldl_concat ..

/-- A row reads back as the event it was saved from. -/
theorem toDomain_toPersistence {account : CreditAccount} {event : CreditLedgerEvent}
    (admits : account.Admits event) (now : ℤ) :
    CreditEventMapper.toDomain (CreditEventMapper.toPersistence event now) = event := by
  rcases event with ⟨aggregateId, orgId, userId, eventType, version, payload⟩
  cases eventType with
  | unknown name => exact admits.allowed.elim
  | _ => rfl

namespace CreditCommand.Effect

variable {stamp : Stamp} {command : CreditCommand} {begun db after : CreditDb}
  {reply : CreditReply}

/-- Appending to the tables extends every stream. -/
theorem walletStream_prefix {loaded : CreditDb} (interference : Interference [] loaded db)
    (gapless : Gapless loaded.creditEvents) (gapless' : Gapless db.creditEvents)
    (orgId userId : String) :
    walletStream loaded.creditEvents orgId userId <+:
      walletStream db.creditEvents orgId userId := by
  rcases interference.appended with ⟨rows, stored, -⟩
  rw [gapless.walletStream_eq, gapless'.walletStream_eq, stored, walletRows_append, List.map_append]
  exact List.prefix_append _ _

/-- A committed command appends the event it decided on to its own stream, and touches no other. -/
theorem walletStream_after {event : CreditLedgerEvent} (gapless : Gapless db.creditEvents)
    (decided : command.call.decision (command.account db) = .ok (some event)) (now : ℤ)
    (orgId userId : String) :
    walletStream (db.creditEvents ++ [CreditEventMapper.toPersistence event now]) orgId userId =
      walletStream db.creditEvents orgId userId ++
        if (orgId, userId) = command.wallet then [event] else [] := by
  have row := row_of_decision gapless decided
  have gapless' := gapless.insert (CreditEventMapper.toPersistence event now)
    row.1 row.2.1 row.2.2
  rw [gapless.walletStream_eq, gapless'.walletStream_eq, walletRows_append,
    walletRows_singleton _ row.1 row.2.1, List.map_append]
  by_cases same : (orgId, userId) = command.wallet
  · have parts : orgId = command.wallet.1 ∧ userId = command.wallet.2 := by simp [← same]
    rw [if_pos same, if_pos parts, List.map_singleton,
      toDomain_toPersistence (Call.admits_of_decision decided)]
  · have parts : ¬(orgId = command.wallet.1 ∧ userId = command.wallet.2) := fun both =>
      same (Prod.ext both.1 both.2)
    rw [if_neg same, if_neg parts, List.map_nil]

end CreditCommand.Effect

section Alone

variable {table : List CreditEventRow} {orgId userId : String}

/-- The rows of one wallet hold nothing of another. -/
theorem walletRows_walletRows (table : List CreditEventRow) (orgId userId orgId' userId' : String) :
    walletRows (walletRows table orgId userId) orgId' userId' =
      if orgId' = orgId ∧ userId' = userId then walletRows table orgId userId else [] := by
  by_cases same : orgId' = orgId ∧ userId' = userId
  · rcases same with ⟨rfl, rfl⟩
    rw [if_pos ⟨rfl, rfl⟩]
    simp [walletRows, List.filter_filter]
  · rw [if_neg same, walletRows, walletRows, List.filter_filter, List.filter_eq_nil_iff]
    intro row _ both
    simp only [Bool.and_eq_true, decide_eq_true_eq] at both
    rcases both with ⟨⟨id', org'⟩, id, org⟩
    have sameOrg : orgId' = orgId := org'.symm.trans org
    subst sameOrg
    exact same ⟨rfl, CreditAccount.walletId_inj (id'.symm.trans id)⟩

/-- So they are a ledger without gaps. -/
theorem Gapless.walletRows (gapless : Gapless table) (orgId userId : String) :
    Gapless (walletRows table orgId userId) := by
  intro orgId' userId'
  rw [walletRows_walletRows]
  split
  · exact gapless orgId userId
  · rfl

theorem walletStream_walletRows (gapless : Gapless table) (orgId userId : String) :
    walletStream (walletRows table orgId userId) orgId userId =
      walletStream table orgId userId := by
  rw [(gapless.walletRows orgId userId).walletStream_eq, gapless.walletStream_eq,
    walletRows_walletRows, if_pos ⟨rfl, rfl⟩]

/-- The next version of a wallet is free among the rows of the wallet. -/
theorem Gapless.next_free (gapless : Gapless table) (aggregateId : String) :
    (aggregateId, (Credit.walletRows table orgId userId).length + 1) ∉
      (Credit.walletRows table orgId userId).map fun row => (row.aggregateId, row.version) := by
  intro taken
  rcases List.mem_map.mp taken with ⟨row, member, same⟩
  have version := gapless.version_le member
  simp only [Prod.mk.injEq] at same
  omega

end Alone

section Runs

variable {Client : Type} {stamps : Client → Stamp} {commands : Client → CreditCommand}

/-- The committed commands on a wallet, in commit order. -/
def walletEntries (commands : Client → CreditCommand)
    (log : List (Workload.Entry Client CreditDb CreditReply)) (orgId userId : String) :
    List (Workload.Entry Client CreditDb CreditReply) :=
  log.filter fun entry => (commands entry.client).wallet = (orgId, userId)

/-- Whether a command that gave this answer has raised an event. -/
def CreditReply.raises : CreditReply → Bool
  | .releaseCreditReservation result => result.released
  | _ => true

/-- A committed command executed where its wallet has this stream, which is no older than what was
committed when it began: the operation of the aggregate takes the stream to the next one, and the
handler, run alone, does the same and gives the answer that was committed. -/
structure Executes (stamps : Client → Stamp) (commands : Client → CreditCommand)
    (orgId userId : String) (stream : List CreditLedgerEvent)
    (entry : Workload.Entry Client CreditDb CreditReply) (next : List CreditLedgerEvent) :
    Prop where
  began : walletStream entry.begun.creditEvents orgId userId <+: stream
  performed : executeCall orgId userId stream (commands entry.client).call = .ok next
  raises : entry.reply.raises ↔ next ≠ stream
  alone : ∃ db writes, Gapless db.creditEvents ∧
    walletStream db.creditEvents orgId userId = stream ∧
    creditEngine.aloneFrom db [] ((commands entry.client).execute (stamps entry.client)) =
      .ok (entry.reply, writes) ∧
    walletStream (creditEngine.view db writes).creditEvents orgId userId = next

/-- Committed commands executed one after another take a wallet from one stream to another. -/
inductive Serial (stamps : Client → Stamp) (commands : Client → CreditCommand)
    (orgId userId : String) : List CreditLedgerEvent →
    List (Workload.Entry Client CreditDb CreditReply) → List CreditLedgerEvent → Prop where
  | nil {stream : List CreditLedgerEvent} : Serial stamps commands orgId userId stream [] stream
  | cons {stream next last : List CreditLedgerEvent}
      {entry : Workload.Entry Client CreditDb CreditReply}
      {rest : List (Workload.Entry Client CreditDb CreditReply)}
      (executes : Executes stamps commands orgId userId stream entry next)
      (serial : Serial stamps commands orgId userId next rest last) :
      Serial stamps commands orgId userId stream (entry :: rest) last

section Streams

variable {orgId userId : String} {stream next last : List CreditLedgerEvent}
  {entry : Workload.Entry Client CreditDb CreditReply}
  {entries more : List (Workload.Entry Client CreditDb CreditReply)}

/-- An executed command adds at most one event, which the wallet admits. -/
theorem Executes.cases (executes : Executes stamps commands orgId userId stream entry next) :
    next = stream ∨ ∃ event,
      (CreditAccount.rehydrate orgId userId stream).Admits event ∧ next = stream ++ [event] := by
  have performed := executes.performed
  rw [executeCall_eq] at performed
  rcases decided : (commands entry.client).call.decision
      (CreditAccount.rehydrate orgId userId stream) with error | _ | event
  · rw [decided] at performed
    cases performed
  · rw [decided] at performed
    cases performed
    exact .inl (List.append_nil stream)
  · rw [decided] at performed
    cases performed
    exact .inr ⟨event, Call.admits_of_decision decided, rfl⟩

theorem Serial.append (serial : Serial stamps commands orgId userId stream entries next)
    (rest : Serial stamps commands orgId userId next more last) :
    Serial stamps commands orgId userId stream (entries ++ more) last := by
  induction serial with
  | nil => exact rest
  | cons executes _ ih => exact .cons executes (ih rest)

/-- Streams only grow. -/
theorem Serial.grows (serial : Serial stamps commands orgId userId stream entries next) :
    stream <+: next := by
  induction serial with
  | nil => exact List.prefix_refl _
  | cons executes _ ih =>
      rcases executes.cases with rfl | ⟨event, -, rfl⟩
      · exact ih
      · exact (List.prefix_append _ _).trans ih

/-- Every stream on the way is where an initial part of the execution stood. -/
theorem Serial.split {loaded : List CreditLedgerEvent}
    (serial : Serial stamps commands orgId userId stream entries next)
    (older : stream <+: loaded) (newer : loaded <+: next) :
    ∃ before after, entries = before ++ after ∧
      Serial stamps commands orgId userId stream before loaded ∧
      Serial stamps commands orgId userId loaded after next := by
  induction serial with
  | @nil stream =>
      cases older.eq_of_length_le newer.length_le
      exact ⟨[], [], rfl, .nil, .nil⟩
  | @cons stream middle next entry rest executes serial ih =>
      by_cases here : loaded = stream
      · subst here
        exact ⟨[], entry :: rest, rfl, .nil, .cons executes serial⟩
      · have reached : middle <+: loaded := by
          rcases executes.cases with rfl | ⟨event, -, rfl⟩
          · exact older
          · refine List.prefix_of_prefix_length_le serial.grows newer ?_
            rw [List.length_append, List.length_singleton]
            have shorter := older.length_le
            have distinct : stream.length ≠ loaded.length :=
              fun same => here (older.eq_of_length same).symm
            omega
        rcases ih reached newer with ⟨before, after, rfl, first, second⟩
        exact ⟨entry :: before, after, rfl, .cons executes first, second⟩

/-- A serial execution never overdraws the wallet. -/
theorem Serial.sound (serial : Serial stamps commands orgId userId stream entries next)
    (sound : (CreditAccount.rehydrate orgId userId stream).Sound) :
    (CreditAccount.rehydrate orgId userId next).Sound := by
  induction serial with
  | nil => exact sound
  | cons executes _ ih =>
      rcases executes.cases with rfl | ⟨event, admits, rfl⟩
      · exact ih sound
      · refine ih ?_
        rw [rehydrate_concat]
        exact sound.apply admits

end Streams

/-- Two items in order in a list of two parts. -/
theorem pair_sublist_append {α : Type} {first second : α} {left right : List α}
    (ordered : [first, second].Sublist (left ++ right)) :
    [first, second].Sublist left ∨ (first ∈ left ∧ second ∈ right) ∨
      [first, second].Sublist right := by
  rcases List.sublist_append_iff.mp ordered with ⟨taken, rest, same, early, late⟩
  rcases taken with _ | ⟨item, _ | ⟨item', more⟩⟩
  · cases same
    exact .inr (.inr late)
  · cases same
    exact .inr (.inl ⟨List.singleton_sublist.mp early, List.singleton_sublist.mp late⟩)
  · simp only [List.cons_append, List.cons.injEq, List.nil_eq, List.append_eq_nil_iff] at same
    rcases same with ⟨rfl, rfl, rfl, -⟩
    exact .inl early

/-- The committed commands on every wallet have a serial order. Whoever comes after an event in it
has committed after the event. -/
def Serialized (stamps : Client → Stamp) (commands : Client → CreditCommand) (db : CreditDb)
    (log : List (Workload.Entry Client CreditDb CreditReply)) : Prop :=
  ∀ orgId userId, ∃ serial, serial.Perm (walletEntries commands log orgId userId) ∧
    Serial stamps commands orgId userId [] serial (walletStream db.creditEvents orgId userId) ∧
    ∀ raising entry, raising.reply.raises → [raising, entry].Sublist serial →
      [raising, entry].Sublist log

variable {db after begun loaded : CreditDb} {reply : CreditReply} {client : Client}
  {event : CreditLedgerEvent} {orgId userId : String}
  {log : List (Workload.Entry Client CreditDb CreditReply)}

/-- Loading a wallet is folding its stream. -/
theorem account_eq (own : (commands client).wallet = (orgId, userId)) (db : CreditDb) :
    (commands client).account db =
      CreditAccount.rehydrate orgId userId (walletStream db.creditEvents orgId userId) := by
  rw [CreditCommand.account, own]
  rfl

/-- A command that has recorded an event does the same alone, on a database that holds no other
wallet. -/
theorem alone_recorded (stamp : Stamp) (gapless : Gapless db.creditEvents)
    (decided : (commands client).call.decision ((commands client).account db) = .ok (some event))
    (own : (commands client).wallet = (orgId, userId)) :
    let closing := (commands client).closing (((commands client).account db).record event)
    ∃ home writes, Gapless home.creditEvents ∧
      walletStream home.creditEvents orgId userId = walletStream db.creditEvents orgId userId ∧
      creditEngine.aloneFrom home [] ((commands client).execute stamp) =
        .ok (closing.reply (closing.id stamp db), writes) ∧
      walletStream (creditEngine.view home writes).creditEvents orgId userId =
        walletStream db.creditEvents orgId userId ++ [event] := by
  let home : CreditDb :=
    { db with
      creditEvents := walletRows db.creditEvents orgId userId
      memberships := [(orgId, userId)] }
  have gapless' : Gapless home.creditEvents := gapless.walletRows orgId userId
  have stream : walletStream home.creditEvents orgId userId =
      walletStream db.creditEvents orgId userId := walletStream_walletRows gapless orgId userId
  have account : (commands client).account home = (commands client).account db := by
    rw [account_eq own, account_eq own, stream]
  have row := CreditCommand.row_of_decision gapless decided
  simp only [own] at row
  have free : (event.aggregateId, event.version) ∉
      home.creditEvents.map fun row => (row.aggregateId, row.version) := by
    rw [row.2.2]
    exact gapless.next_free _
  rw [← account] at decided
  have recorded := CreditCommand.aloneFrom_recorded stamp decided
    (fun _ _ => own ▸ List.mem_singleton_self _) free
  have appended := CreditCommand.Effect.walletStream_after gapless' decided stamp.createdAt
    orgId userId
  rw [if_pos own.symm, stream] at appended
  intro closing
  refine ⟨home, _, gapless', stream, account ▸ recorded, ?_⟩
  rcases CreditCommand.alone_cases gapless' recorded with ⟨nothing, -⟩ | ⟨event', decided', view⟩
  · cases decided.symm.trans nothing
  · cases decided.symm.trans decided'
    rw [← account]
    exact (congrArg (fun db => walletStream db.creditEvents orgId userId) view).trans appended

/-- A command that has recorded an event has done so where it committed. -/
theorem executes_recorded (gapless : Gapless db.creditEvents) (since : Interference [] begun db)
    (decided : (commands client).call.decision ((commands client).account db) = .ok (some event))
    (own : (commands client).wallet = (orgId, userId)) :
    let closing := (commands client).closing (((commands client).account db).record event)
    Executes stamps commands orgId userId (walletStream db.creditEvents orgId userId)
      ⟨client, begun, closing.reply (closing.id (stamps client) db)⟩
      (walletStream ((commands client).recorded (stamps client) db event).creditEvents orgId
        userId) := by
  intro closing
  have began : Gapless begun.creditEvents := by
    rcases since.appended with ⟨rows, stored, -⟩
    rw [stored] at gapless
    exact gapless.of_append
  have appended : walletStream ((commands client).recorded (stamps client) db event).creditEvents
      orgId userId = walletStream db.creditEvents orgId userId ++ [event] := by
    have stream := CreditCommand.Effect.walletStream_after gapless decided
      (stamps client).createdAt orgId userId
    rwa [if_pos own.symm] at stream
  rw [appended]
  refine ⟨CreditCommand.Effect.walletStream_prefix since began gapless orgId userId, ?_, ?_,
    alone_recorded (stamps client) gapless decided own⟩
  · rw [executeCall_eq, ← account_eq own, decided]
    rfl
  · refine iff_of_true ?_ (by simp)
    cases command : commands client <;>
      simp [closing, command, CreditCommand.closing, CreditReply.raises]

/-- A release that found nothing to do would answer the same alone where it read the wallet. -/
theorem executes_skipped (began : Gapless begun.creditEvents)
    (gapless : Gapless loaded.creditEvents) (since : Interference [] begun loaded)
    (decided : (commands client).call.decision ((commands client).account loaded) = .ok none)
    (own : (commands client).wallet = (orgId, userId)) :
    Executes stamps commands orgId userId (walletStream loaded.creditEvents orgId userId)
      ⟨client, begun, CreditCommand.skipped ((commands client).account loaded)⟩
      (walletStream loaded.creditEvents orgId userId) where
  began := CreditCommand.Effect.walletStream_prefix since began gapless orgId userId
  performed := by
    rw [executeCall_eq, ← account_eq own, decided]
    exact congrArg Except.ok (List.append_nil _)
  raises := iff_of_false (by simp [CreditCommand.skipped, CreditReply.raises])
    fun grown => grown rfl
  alone := ⟨loaded, [], gapless, rfl, CreditCommand.aloneFrom_skipped (stamps client) decided, rfl⟩

theorem walletEntries_concat (log : List (Workload.Entry Client CreditDb CreditReply))
    (entry : Workload.Entry Client CreditDb CreditReply) (orgId userId : String) :
    walletEntries commands (log ++ [entry]) orgId userId =
      walletEntries commands log orgId userId ++
        if (commands entry.client).wallet = (orgId, userId) then [entry] else [] := by
  by_cases own : (commands entry.client).wallet = (orgId, userId) <;> simp [walletEntries, own]

/-- A new commit takes a place in an order of the committed commands: anywhere if it has raised no
event, at the end otherwise. -/
theorem ordered_insert {entries before rest : List (Workload.Entry Client CreditDb CreditReply)}
    {new : Workload.Entry Client CreditDb CreditReply}
    (order : ∀ raising entry, raising.reply.raises → [raising, entry].Sublist (before ++ rest) →
      [raising, entry].Sublist entries)
    (logged : before ⊆ entries) (place : new.reply.raises → rest = []) :
    ∀ raising entry, raising.reply.raises → [raising, entry].Sublist (before ++ new :: rest) →
      [raising, entry].Sublist (entries ++ [new]) := by
  intro raising entry raises ordered
  have older : [raising, entry].Sublist (before ++ rest) →
      [raising, entry].Sublist (entries ++ [new]) :=
    fun ordered => (order raising entry raises ordered).trans (List.sublist_append_left _ _)
  rcases pair_sublist_append ordered with earlier | ⟨member, behind⟩ | later
  · exact older (earlier.trans (List.sublist_append_left _ _))
  · rcases List.mem_cons.mp behind with rfl | behind
    · exact (List.singleton_sublist.mpr (logged member)).append_right _
    · exact older ((List.singleton_sublist.mpr member).append (List.singleton_sublist.mpr behind))
  · cases later with
    | cons _ later => exact older (later.trans (List.sublist_append_right _ _))
    | cons_cons _ later =>
        rw [place raises] at later
        cases later

/-- The commit of another wallet leaves the stream as it is. -/
theorem CreditCommand.Effect.stream_elsewhere (gapless : Gapless db.creditEvents)
    (effect : (commands client).Effect (stamps client) begun reply db after)
    (other : (commands client).wallet ≠ (orgId, userId)) :
    walletStream after.creditEvents orgId userId = walletStream db.creditEvents orgId userId := by
  cases effect with
  | skipped began since gapless' later decided => rfl
  | recorded since decided =>
      have stream := CreditCommand.Effect.walletStream_after gapless decided
        (stamps client).createdAt orgId userId
      rw [if_neg other.symm, List.append_nil] at stream
      exact stream

/-- The step of the induction: a commit finds its place in the serial order. -/
theorem Serialized.commit (serialized : Serialized stamps commands db log)
    (gapless : Gapless db.creditEvents)
    (effect : (commands client).Effect (stamps client) begun reply db after) :
    Serialized stamps commands after (log ++ [⟨client, begun, reply⟩]) := by
  intro orgId userId
  rcases serialized orgId userId with ⟨serial, perm, executed, order⟩
  have logged : serial ⊆ log := fun _ member => List.mem_of_mem_filter (perm.subset member)
  rw [walletEntries_concat]
  by_cases own : (commands client).wallet = (orgId, userId)
  · rw [if_pos own]
    cases effect with
    | @skipped loaded db began since gapless' later decided =>
        -- it takes its place where the stream stood when it loaded the wallet
        have executes : Executes stamps commands orgId userId _ _ _ :=
          executes_skipped began gapless' since decided own
        have stood := CreditCommand.Effect.walletStream_prefix later gapless' gapless orgId userId
        rcases executed.split (List.nil_prefix) stood with ⟨before, rest, rfl, first, second⟩
        refine ⟨before ++ _ :: rest, ?_, first.append (.cons executes second),
          ordered_insert order (List.append_subset.mp logged).1 nofun⟩
        exact (List.perm_middle.trans (perm.cons _)).trans (List.perm_append_singleton _ _).symm
    | @recorded db event since decided =>
        refine ⟨serial ++ [_], perm.append_right _,
          executed.append (.cons (executes_recorded gapless since decided own) .nil), ?_⟩
        exact ordered_insert (by rwa [List.append_nil]) logged fun _ => rfl
  · rw [if_neg own, List.append_nil, effect.stream_elsewhere gapless own]
    exact ⟨serial, perm, executed, fun raising entry raises ordered =>
      (order raising entry raises ordered).trans (List.sublist_append_left _ _)⟩

variable [DecidableEq Client]
  {state : Workload.State Client CreditDb CreditWrite CreditError CreditReply}

theorem serialized_of_reachable
    (reached : (creditWorkload stamps commands).system.Reachable state) :
    Serialized stamps commands state.db state.log := by
  refine (creditOutline stamps commands).invariant ?_ ?_ ?_ reached
  · intro db start orgId userId
    refine ⟨[], .refl _, ?_, fun _ _ _ ordered => absurd ordered.length_le (by simp)⟩
    rw [start.1]
    exact .nil
  · rintro db _ log serialized ⟨memberships, rfl⟩
    exact serialized
  · intro db next log client begun reply gapless serialized _ effect
    exact serialized.commit gapless effect

/-- Wallet concurrency, in every committed state: the versions have no gap; the committed commands,
executed one after another, each on a version no older than it began with and behind no event that
was committed after it, give the stream and the answers they have committed; and what is reserved
stays within the balance. -/
theorem wallet_serializable (reached : (creditWorkload stamps commands).system.Reachable state)
    (orgId userId : String) :
    let rows := walletRows state.db.creditEvents orgId userId
    let account := PrismaCreditEventRepository.loadOrOpen state.db.creditEvents orgId userId
    rows.map CreditEventRow.version = List.range' 1 rows.length ∧
      (∃ serial, serial.Perm (walletEntries commands state.log orgId userId) ∧
        Serial stamps commands orgId userId [] serial
          (walletStream state.db.creditEvents orgId userId) ∧
        ∀ raising entry, raising.reply.raises → [raising, entry].Sublist serial →
          [raising, entry].Sublist state.log) ∧
      0 ≤ account.reserved ∧ account.reserved ≤ account.balance := by
  have gapless : Gapless state.db.creditEvents :=
    (Outline.steady_of_reachable (creditOutline stamps commands) reached).inv
  have serialized := serialized_of_reachable reached orgId userId
  refine ⟨gapless orgId userId, serialized, ?_⟩
  rcases serialized with ⟨serial, -, executed, -⟩
  have sound := executed.sound (CreditAccount.sound_openAccount orgId userId)
  exact ⟨sound.reserved_nonneg, sound.reserved_le⟩

end Runs

/-- A member is granted five credits and spends three and four of them at the same time. -/
def overspending : ℕ → CreditCommand
  | 0 => .grantCredits ⟨"org", "user", .finite 5, "welcome"⟩
  | 1 => .spendCredits ⟨"org", "user", .finite 3, "post"⟩
  | _ => .spendCredits ⟨"org", "user", .finite 4, "badge"⟩

/-- Both spends load five credits. One commits; the other is rolled back, runs again and finds two
credits left. -/
theorem wallet_serializable_overspending :
    ∃ state : Workload.State ℕ CreditDb CreditWrite CreditError CreditReply,
      state.log.map Workload.Entry.client = [0, 1] ∧ state.session 2 = .failed ∧
      (∃ serial, serial.Perm (walletEntries overspending state.log "org" "user") ∧
        Serial (fun _ => ⟨0, ""⟩) overspending "org" "user" [] serial
          (walletStream state.db.creditEvents "org" "user")) ∧
      (PrismaCreditEventRepository.loadOrOpen state.db.creditEvents "org" "user").balance = 2 ∧
      0 ≤ (PrismaCreditEventRepository.loadOrOpen state.db.creditEvents "org" "user").reserved := by
  let start : Workload.State ℕ CreditDb CreditWrite CreditError CreditReply :=
    ⟨⟨[], .empty, [], [("org", "user")]⟩, [], fun _ => .idle⟩
  let system := (creditWorkload (fun _ => ⟨0, ""⟩) overspending).system
  have reached : system.Reachable start := .initial ⟨⟨rfl, rfl, rfl⟩, rfl, fun _ => rfl⟩
  let granted : CreditEventRow :=
    ⟨"org:user", "org", "user", "CreditGranted", 1, ⟨5, "welcome", none⟩, 0⟩
  let awarded : CreditOutboxEvent :=
    .creditAwarded "org:user" "org" "user" (.finite 5) "welcome" 5
  have reached := Workload.reachable_commit reached 0 (.inl rfl) (fun _ _ => rfl)
    (.of_all (fun _ _ => trivial) _ _ _) (show _ = Except.ok (.grantCredits 5,
      [.insertCreditEvent granted, .appendOutbox awarded]) by decide +kernel)
  -- the second spend loads the wallet before the first one commits
  have reached := Workload.reachable_read reached 2 (.inl rfl) rfl trivial rfl
  let spent : CreditEventRow :=
    ⟨"org:user", "org", "user", "CreditSpent", 2, ⟨3, "post", none⟩, 0⟩
  have reached := Workload.reachable_commit reached 1 (.inl rfl)
    (fun other _ => by rcases other with _ | _ | _ | _ <;> rfl)
    (.of_all (fun _ _ => trivial) _ _ _)
    (show _ = Except.ok (.spendCredits 2 (.finite 3), [.insertCreditEvent spent]) by
      decide +kernel)
  -- it is rolled back with what it has loaded, and runs again
  have reached := Workload.reachable_abort reached 2 rfl
  have reached := Workload.reachable_read reached 2 (.inr rfl) rfl trivial rfl
  have reached := Workload.reachable_abort reached 2 rfl
  have reached := reached.step (Workload.Step.giveUp (Workload.State.session_put _ 2 _))
  rcases wallet_serializable reached "org" "user" with ⟨-, ⟨serial, perm, executed, -⟩, bound, -⟩
  exact ⟨_, rfl, rfl, ⟨serial, perm, executed⟩, by decide +kernel, bound⟩

end CoreApi.Credit
