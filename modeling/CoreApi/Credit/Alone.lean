import CoreApi.Credit.Isolation
import CoreApi.Foundation.Sequential

/-!
# A credit command with nobody else around

What a handler does alone is decided by the wallet it loads: it fails, it finds nothing to do, or
it records one event under the next version of the wallet, provided that the version is free.
-/

namespace CoreApi.Credit

/-- A database that comes back to itself has not changed in between. -/
theorem creditEvents_between {db loaded : CreditDb} (since : Interference [] db loaded)
    (later : Interference [] loaded db) : loaded.creditEvents = db.creditEvents := by
  rcases since.appended with ⟨rows, stored, -⟩
  rcases later.appended with ⟨rows', stored', -⟩
  have lengths := congrArg List.length stored'
  rw [stored, List.length_append, List.length_append] at lengths
  have nothing : rows = [] := List.length_eq_zero_iff.mp (by omega)
  rw [stored, nothing, List.append_nil]

namespace CreditCommand

variable {stamp : Stamp} {command : CreditCommand} {db : CreditDb} {event : CreditLedgerEvent}
  {reply : CreditReply} {writes : List CreditWrite}

/-- The tables after a command has recorded its event. -/
def recorded (stamp : Stamp) (command : CreditCommand) (db : CreditDb)
    (event : CreditLedgerEvent) : CreditDb :=
  (command.closing ((command.account db).record event)).after stamp
    { db with
      creditEvents := db.creditEvents ++ [CreditEventMapper.toPersistence event stamp.createdAt] }

/-- A closing never fails. -/
theorem Closing.aloneFrom_run (stamp : Stamp) (closing : Closing) (db : CreditDb)
    (pending : List CreditWrite) :
    let view := creditEngine.view db pending
    creditEngine.aloneFrom db pending (closing.run stamp) =
      .ok (closing.reply (closing.id stamp view), pending ++
        (closing.queryWrites stamp view ++ closing.eventWrites (closing.id stamp view))) := by
  intro view
  have appended : ∀ id more, creditEngine.aloneFrom db more (closing.appendEvent id) =
      .ok ((), more ++ closing.eventWrites id) := by
    intro id more
    simp only [appendEvent, eventWrites]
    cases closing.event id with
    | none => exact Engine.aloneFrom_pure_eq_ok.mpr ⟨rfl, (List.append_nil more).symm⟩
    | some event => exact Engine.aloneFrom_write_eq_ok.mpr rfl
  have recorded : creditEngine.aloneFrom db pending (closing.recordAiQuery stamp) =
      .ok (closing.id stamp view, pending ++ closing.queryWrites stamp view) := by
    simp only [recordAiQuery, id, queryWrites]
    cases closing.aiQuery with
    | none => exact Engine.aloneFrom_pure_eq_ok.mpr ⟨rfl, (List.append_nil pending).symm⟩
    | some input => exact Engine.aloneFrom_execute_eq_ok.mpr ⟨_, rfl, rfl⟩
  rw [run, Engine.aloneFrom_bind_eq_ok]
  refine ⟨_, _, recorded, Engine.aloneFrom_bind_eq_ok.mpr ⟨_, _, appended _ _, ?_⟩⟩
  exact Engine.aloneFrom_pure_eq_ok.mpr ⟨rfl, List.append_assoc ..⟩

/-- A command that decides on nothing writes nothing. -/
theorem aloneFrom_skipped (stamp : Stamp)
    (decided : command.call.decision (command.account db) = .ok none) :
    creditEngine.aloneFrom db [] (command.execute stamp) =
      .ok (skipped (command.account db), []) := by
  rcases Call.decision_none decided with ⟨id, reason, released, -⟩
  cases command with
  | releaseCreditReservation command =>
      rw [execute_eq]
      refine Engine.aloneFrom_bind_eq_ok.mpr
        ⟨_, _, Engine.aloneFrom_read_eq_ok.mpr ⟨rfl, rfl⟩, ?_⟩
      change creditEngine.aloneFrom db [] (act stamp (.releaseCreditReservation command)
        (account (.releaseCreditReservation command) db)) = _
      simp only [act, decided]
      rfl
  | _ => cases released

/-- A command that decides on an event records it, if the version it takes is free. -/
theorem aloneFrom_recorded (stamp : Stamp)
    (decided : command.call.decision (command.account db) = .ok (some event))
    (member : ∀ grant, command = .grantCredits grant → command.wallet ∈ db.memberships)
    (free : (event.aggregateId, event.version) ∉
      db.creditEvents.map fun row => (row.aggregateId, row.version)) :
    let closing := command.closing ((command.account db).record event)
    creditEngine.aloneFrom db [] (command.execute stamp) =
      .ok (closing.reply (closing.id stamp db),
        .insertCreditEvent (CreditEventMapper.toPersistence event stamp.createdAt) ::
          (closing.queryWrites stamp db ++ closing.eventWrites (closing.id stamp db))) := by
  intro closing
  have unsaved := (loadOrOpen_frame db.creditEvents command.wallet.1 command.wallet.2).2.2.2
  have saved : creditEngine.aloneFrom db [] (CreditRepos.save stamp
      ((command.account db).record event)) = .ok ((),
        [.insertCreditEvent (CreditEventMapper.toPersistence event stamp.createdAt)]) := by
    refine Engine.aloneFrom_execute_eq_ok.mpr ⟨_, ?_, rfl⟩
    rw [Engine.view_nil, account, PrismaCreditEventRepository.save_record _ _ unsaved,
      if_neg free]
    rfl
  have settled : creditEngine.aloneFrom db [] (command.settle stamp) =
      .ok (closing.reply (closing.id stamp db),
        .insertCreditEvent (CreditEventMapper.toPersistence event stamp.createdAt) ::
          (closing.queryWrites stamp db ++ closing.eventWrites (closing.id stamp db))) := by
    refine Engine.aloneFrom_bind_eq_ok.mpr
      ⟨_, _, Engine.aloneFrom_read_eq_ok.mpr ⟨rfl, rfl⟩, ?_⟩
    change creditEngine.aloneFrom db [] (act stamp command (command.account db)) = _
    simp only [act, decided]
    exact Engine.aloneFrom_bind_eq_ok.mpr ⟨_, _, saved, closing.aloneFrom_run stamp db _⟩
  rw [execute_eq]
  cases command with
  | grantCredits command =>
      refine Engine.aloneFrom_bind_eq_ok.mpr
        ⟨true, [], Engine.aloneFrom_read_eq_ok.mpr ⟨decide_eq_true (member _ rfl), rfl⟩, settled⟩
  | _ => exact settled

/-- What a command that commits alone has done: it found nothing to do, or it recorded an event. -/
theorem alone_cases (gapless : Gapless db.creditEvents)
    (alone : creditEngine.aloneFrom db [] (command.execute stamp) = .ok (reply, writes)) :
    (command.call.decision (command.account db) = .ok none ∧
        creditEngine.view db writes = db) ∨
      ∃ event, command.call.decision (command.account db) = .ok (some event) ∧
        creditEngine.view db writes = command.recorded stamp db event := by
  rcases (execute_ends gapless).alone gapless alone with ⟨-, ends⟩
  have effect := (ends db (.refl _ _) gapless).2.1
  generalize creditEngine.view db writes = after at effect
  cases effect with
  | @skipped loaded _ began since gapless' later decided =>
      rw [account, creditEvents_between since later] at decided
      exact .inl ⟨decided, rfl⟩
  | @recorded _ event since decided => exact .inr ⟨event, decided, rfl⟩

end CreditCommand

end CoreApi.Credit
