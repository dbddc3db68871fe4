import CoreApi.Credit.Reservation

/-!
# The outcome of a reservation

In every committed state the three tables follow one trace of a reservation, and
the trace and the committed commands explain each other. So the tables agree on
the outcome, however often the reservation is released and by whom.
-/

namespace CoreApi.Credit

/-- What the saga promises about a reservation id: it is drawn once, and a commit charges what was
reserved. -/
structure Disciplined {Client : Type} (commands : Client → CreditCommand)
    (reservationId : String) : Prop where
  fresh : ∀ {first second : Client} {reserve reserve' : ReserveCreditsCommand},
    commands first = .reserveCredits reserve → commands second = .reserveCredits reserve' →
    reserve.reservationId = reservationId → reserve'.reservationId = reservationId →
    first = second
  charged : ∀ {first second : Client} {reserve : ReserveCreditsCommand}
    {commit : CommitAiQueryCommand}, commands first = .reserveCredits reserve →
    commands second = .commitAiQuery commit → reserve.reservationId = reservationId →
    commit.reservationId = reservationId → commit.amount = reserve.amount

section Runs

variable {Client : Type} {stamps : Client → Stamp} {commands : Client → CreditCommand}
  {reservationId : String} {trace : Trace}

/-- What a committed command says about the trace of a reservation. -/
structure Explained (commands : Client → CreditCommand) (reservationId : String) (trace : Trace)
    (entry : Workload.Entry Client CreditDb CreditReply) : Prop where
  reserved : ∀ reserve, commands entry.client = .reserveCredits reserve →
    reserve.reservationId = reservationId → trace ≠ .absent
  charged : ∀ commit, commands entry.client = .commitAiQuery commit →
    commit.reservationId = reservationId → trace.outcome = .committed
  closed : ∀ release, commands entry.client = .releaseCreditReservation release →
    release.reservationId = reservationId →
    Knows entry.begun (release.orgId, release.userId) reservationId →
    trace.outcome = .committed ∨ trace.outcome = .released

/-- A trace and the committed commands explain each other. -/
structure History (commands : Client → CreditCommand) (reservationId : String)
    (log : List (Workload.Entry Client CreditDb CreditReply)) (trace : Trace) : Prop where
  source : ∀ wallet amount status, trace = .known wallet amount status →
    ∃ entry ∈ log, ∃ reserve, commands entry.client = .reserveCredits reserve ∧
      reserve.reservationId = reservationId ∧ (reserve.orgId, reserve.userId) = wallet ∧
      reserve.amount = .finite amount
  charge : trace.outcome = .committed → ∃ entry ∈ log, ∃ commit,
    commands entry.client = .commitAiQuery commit ∧ commit.reservationId = reservationId
  explained : ∀ entry ∈ log, Explained commands reservationId trace entry

/-- The tables follow a trace that the committed commands explain. -/
def Agreed (commands : Client → CreditCommand) (reservationId : String) (db : CreditDb)
    (log : List (Workload.Entry Client CreditDb CreditReply)) : Prop :=
  ∃ trace, Follows db reservationId trace ∧ History commands reservationId log trace

variable {log : List (Workload.Entry Client CreditDb CreditReply)} {client : Client}
  {begun db : CreditDb} {reply : CreditReply} {event : CreditLedgerEvent}

theorem Explained.of_other {entry : Workload.Entry Client CreditDb CreditReply}
    (other : (commands entry.client).call.reservation? ≠ some reservationId) :
    Explained commands reservationId trace entry where
  reserved reserve reserves same := by
    rw [reserves, ← same] at other
    exact absurd rfl other
  charged commit commits same := by
    rw [commits, ← same] at other
    exact absurd rfl other
  closed release releases same _ := by
    rw [releases, ← same] at other
    exact absurd rfl other

/-- A committed command that leaves a trace where it is only has to be explained itself. -/
theorem History.keep (history : History commands reservationId log trace)
    (explained : Explained commands reservationId trace ⟨client, begun, reply⟩) :
    History commands reservationId (log ++ [⟨client, begun, reply⟩]) trace where
  source wallet amount status known := by
    rcases history.source wallet amount status known with ⟨entry, member, rest⟩
    exact ⟨entry, List.mem_append_left _ member, rest⟩
  charge committed := by
    rcases history.charge committed with ⟨entry, member, rest⟩
    exact ⟨entry, List.mem_append_left _ member, rest⟩
  explained entry member := by
    rcases List.mem_append.mp member with old | new
    · exact history.explained entry old
    · cases List.mem_singleton.mp new
      exact explained

theorem Agreed.reserve (disciplined : Disciplined commands reservationId)
    (agreed : Agreed commands reservationId db log) (new : ∀ entry ∈ log, entry.client ≠ client)
    (gapless : Gapless db.creditEvents) {reserve : ReserveCreditsCommand}
    (command : commands client = .reserveCredits reserve)
    (about : reserve.reservationId = reservationId)
    (decided : (CreditCommand.reserveCredits reserve).call.decision
      ((CreditCommand.reserveCredits reserve).account db) = .ok (some event)) :
    Agreed commands reservationId
      ((CreditCommand.reserveCredits reserve).recorded (stamps client) db event)
      (log ++ [⟨client, begun, reply⟩]) := by
  rcases agreed with ⟨trace, follows, history⟩
  subst about
  have absent : trace = .absent := by
    cases trace with
    | absent => rfl
    | known wallet amount status =>
        rcases history.source _ _ _ rfl with ⟨entry, member, earlier, reserved, same, -⟩
        exact absurd (disciplined.fresh reserved command same rfl) (new entry member)
  subst absent
  refine ⟨_, CreditCommand.follows_reserve gapless decided follows, ?_, ?_, ?_⟩
  · rintro _ _ _ ⟨⟩
    exact ⟨_, List.mem_append_right _ (List.mem_singleton_self _), reserve, command, rfl, rfl,
      (Call.raised_of_decision decided).2.2 _ rfl⟩
  · rintro ⟨⟩
  · intro entry member
    refine ⟨fun _ _ _ => by simp, ?_, ?_⟩
    · intro commit commits same
      rcases List.mem_append.mp member with old | new
      · cases (history.explained entry old).charged commit commits same
      · cases List.mem_singleton.mp new
        cases commits.symm.trans command
    · intro release releases same knows
      rcases List.mem_append.mp member with old | new
      · rcases (history.explained entry old).closed release releases same knows with
          closed | closed <;> cases closed
      · cases List.mem_singleton.mp new
        cases releases.symm.trans command

/-- A raised commit or release finds the reservation open in its own wallet. -/
theorem opened_of_decision {command : CreditCommand} (follows : Follows db reservationId trace)
    (decided : command.call.decision (command.account db) = .ok (some event))
    (closes : command.call.raised = .creditReservationCommitted ∨
      command.call.raised = .creditReservationReleased)
    (about : command.call.reservation? = some reservationId) :
    trace = .known command.wallet event.payload.amount .opened := by
  have raised := Call.raised_of_decision decided
  have allowed := (Call.admits_of_decision decided).allowed
  simp only [raised.1] at allowed
  have stored : ∃ id, event.payload.reservationId = some id ∧
      (command.account db).reservations.get? id = some ⟨event.payload.amount, .opened⟩ := by
    rcases closes with closes | closes
    · simp only [closes] at allowed
      exact allowed
    · simp only [closes] at allowed
      exact allowed
  rcases stored with ⟨id, named, stored⟩
  simp only [raised.2.1, about] at named
  cases named
  exact CreditCommand.trace_of_opened follows stored

theorem Agreed.commit (disciplined : Disciplined commands reservationId)
    (agreed : Agreed commands reservationId db log)
    (gapless : Gapless db.creditEvents) {commit : CommitAiQueryCommand}
    (command : commands client = .commitAiQuery commit)
    (about : commit.reservationId = reservationId)
    (decided : (CreditCommand.commitAiQuery commit).call.decision
      ((CreditCommand.commitAiQuery commit).account db) = .ok (some event)) :
    Agreed commands reservationId
      ((CreditCommand.commitAiQuery commit).recorded (stamps client) db event)
      (log ++ [⟨client, begun, reply⟩]) := by
  rcases agreed with ⟨trace, follows, history⟩
  subst about
  cases opened_of_decision follows decided (.inl rfl) rfl
  have source := history.source _ _ _ rfl
  rcases source with ⟨entry, member, reserve, reserved, same, wallet, amount⟩
  have charged := (disciplined.charged reserved command same rfl).trans amount
  refine ⟨_, CreditCommand.follows_commit gapless decided follows charged, ?_, ?_, ?_⟩
  · rintro _ _ _ ⟨⟩
    exact ⟨entry, List.mem_append_left _ member, reserve, reserved, same, wallet, amount⟩
  · intro _
    exact ⟨_, List.mem_append_right _ (List.mem_singleton_self _), commit, command, rfl⟩
  · intro entry member
    exact ⟨fun _ _ _ => by simp, fun _ _ _ => rfl, fun _ _ _ _ => .inl rfl⟩

theorem Agreed.release (agreed : Agreed commands reservationId db log)
    (gapless : Gapless db.creditEvents) {release : ReleaseCreditReservationCommand}
    (command : commands client = .releaseCreditReservation release)
    (about : release.reservationId = reservationId)
    (decided : (CreditCommand.releaseCreditReservation release).call.decision
      ((CreditCommand.releaseCreditReservation release).account db) = .ok (some event)) :
    Agreed commands reservationId
      ((CreditCommand.releaseCreditReservation release).recorded (stamps client) db event)
      (log ++ [⟨client, begun, reply⟩]) := by
  rcases agreed with ⟨trace, follows, history⟩
  subst about
  cases opened_of_decision follows decided (.inr rfl) rfl
  refine ⟨_, CreditCommand.follows_release gapless decided follows, ?_, ?_, ?_⟩
  · rintro _ _ _ ⟨⟩
    rcases history.source _ _ _ rfl with ⟨entry, member, rest⟩
    exact ⟨entry, List.mem_append_left _ member, rest⟩
  · rintro ⟨⟩
  · intro entry member
    refine ⟨fun _ _ _ => by simp, ?_, fun _ _ _ _ => .inr rfl⟩
    intro commit commits same
    rcases List.mem_append.mp member with old | new
    · cases (history.explained entry old).charged commit commits same
    · cases List.mem_singleton.mp new
      cases commits.symm.trans command

/-- A release that found nothing to do leaves the tables alone. -/
theorem Agreed.skipped {loaded : CreditDb} (agreed : Agreed commands reservationId db log)
    (since : Interference [] begun loaded) (later : Interference [] loaded db)
    (began : Gapless begun.creditEvents) (gapless : Gapless loaded.creditEvents)
    (decided : (commands client).call.decision ((commands client).account loaded) = .ok none) :
    Agreed commands reservationId db (log ++ [⟨client, begun, reply⟩]) := by
  rcases agreed with ⟨trace, follows, history⟩
  refine ⟨trace, follows, history.keep ?_⟩
  rcases Call.decision_none decided with ⟨id, reason, call, notOpen⟩
  refine ⟨?_, ?_, ?_⟩
  · intro reserve reserves
    simp only [reserves] at call
    cases call
  · intro commit commits
    simp only [commits] at call
    cases call
  · intro release releases same knows
    have wallet : (commands client).wallet = (release.orgId, release.userId) := by
      rw [releases]
      rfl
    simp only [CreditCommand.account] at notOpen
    simp only [releases] at call
    cases call
    simp only [wallet, same] at notOpen
    exact follows.closed_of_loaded later (knows.mono since began gapless) notOpen

theorem Agreed.recorded (disciplined : Disciplined commands reservationId)
    (agreed : Agreed commands reservationId db log) (new : ∀ entry ∈ log, entry.client ≠ client)
    (gapless : Gapless db.creditEvents)
    (decided : (commands client).call.decision ((commands client).account db) =
      .ok (some event)) :
    Agreed commands reservationId ((commands client).recorded (stamps client) db event)
      (log ++ [⟨client, begun, reply⟩]) := by
  by_cases about : (commands client).call.reservation? = some reservationId
  · cases command : commands client with
    | reserveCredits reserve =>
        simp only [command] at about decided
        exact agreed.reserve disciplined new gapless command (Option.some.inj about) decided
    | commitAiQuery commit =>
        simp only [command] at about decided
        exact agreed.commit disciplined gapless command (Option.some.inj about) decided
    | releaseCreditReservation release =>
        simp only [command] at about decided
        exact agreed.release gapless command (Option.some.inj about) decided
    | _ =>
        simp only [command] at about
        cases about
  · rcases agreed with ⟨trace, follows, history⟩
    exact ⟨trace, CreditCommand.follows_frame gapless decided about follows,
      history.keep (.of_other about)⟩

variable [DecidableEq Client]
  {state : Workload.State Client CreditDb CreditWrite CreditError CreditReply}

theorem agreed_of_reachable (disciplined : Disciplined commands reservationId)
    (reached : (creditWorkload stamps commands).system.Reachable state) :
    Agreed commands reservationId state.db state.log := by
  refine (creditOutline stamps commands).invariant ?_ ?_ ?_ reached
  · rintro db ⟨noEvents, noQueries, noOutbox⟩
    refine ⟨.absent, ⟨?_, ?_, ?_, ?_, ?_⟩, ?_, ?_, ?_⟩
    · intro orgId userId
      rw [noEvents]
      rfl
    · rw [noEvents]
      rfl
    · rw [noQueries]
      rfl
    · rw [noOutbox]
      rfl
    · rw [noOutbox]
      rfl
    · rintro _ _ _ ⟨⟩
    · rintro ⟨⟩
    · intro entry member
      exact absurd member List.not_mem_nil
  · rintro db _ log ⟨trace, follows, history⟩ ⟨memberships, rfl⟩
    exact ⟨trace, ⟨follows.state, follows.rows, follows.query, follows.spends, follows.releases⟩,
      history⟩
  · intro db next log client begun reply gapless agreed new effect
    cases effect with
    | skipped began since gapless' later decided =>
        exact agreed.skipped since later began gapless' decided
    | recorded since decided => exact agreed.recorded disciplined new gapless decided

/-- Reservation outcome agreement: in every committed state a reservation is in exactly one of the
four situations. -/
theorem reservation_outcome (disciplined : Disciplined commands reservationId)
    (reached : (creditWorkload stamps commands).system.Reachable state) :
    ∃! outcome, Situation state.db reservationId outcome := by
  rcases agreed_of_reachable disciplined reached with ⟨trace, follows, -⟩
  refine ⟨trace.outcome, follows.situation, ?_⟩
  intro outcome situation
  rw [situation.eq_observedOutcome, follows.situation.eq_observedOutcome]

end Runs

/-- A member is granted five credits, three are reserved, and the reservation is released. -/
def expiredReservation : ℕ → CreditCommand
  | 0 => .grantCredits ⟨"org", "user", .finite 5, "welcome"⟩
  | 1 => .reserveCredits ⟨"org", "user", "id", .finite 3, "AI query"⟩
  | _ => .releaseCreditReservation ⟨"org", "user", "id", "question", "EXPIRED"⟩

theorem disciplined_expiredReservation : Disciplined expiredReservation "id" := by
  constructor
  · rintro (_ | _ | _) (_ | _ | _) _ _ first second <;> simp_all [expiredReservation]
  · rintro (_ | _ | _) (_ | _ | _) _ _ first second <;> simp_all [expiredReservation]

theorem reservation_outcome_released :
    ∃ state : Workload.State ℕ CreditDb CreditWrite CreditError CreditReply,
      (ledgerRows state.db .creditReservationReleased "id").length = 1 ∧
      ∃! outcome, Situation state.db "id" outcome := by
  let start : Workload.State ℕ CreditDb CreditWrite CreditError CreditReply :=
    ⟨⟨[], .empty, [], [("org", "user")]⟩, [], fun _ => .idle⟩
  let stamps : ℕ → Stamp := fun _ => ⟨0, "row"⟩
  have reached : (creditWorkload stamps expiredReservation).system.Reachable start :=
    .initial ⟨⟨rfl, rfl, rfl⟩, rfl, fun _ => rfl⟩
  let granted : CreditEventRow :=
    ⟨"org:user", "org", "user", "CreditGranted", 1, ⟨5, "welcome", none⟩, 0⟩
  let awarded : CreditOutboxEvent :=
    .creditAwarded "org:user" "org" "user" (.finite 5) "welcome" 5
  have reached := Workload.reachable_commit reached 0 (.inl rfl) (fun _ _ => rfl)
    (.of_all (fun _ _ => trivial) _ _ _) (show _ = Except.ok (.grantCredits 5,
      [.insertCreditEvent granted, .appendOutbox awarded]) by decide +kernel)
  let reserved : CreditEventRow :=
    ⟨"org:user", "org", "user", "CreditReserved", 2, ⟨3, "AI query", some "id"⟩, 0⟩
  have reached := Workload.reachable_commit reached 1 (.inl rfl)
    (fun other _ => by rcases other with _ | _ <;> rfl)
    (.of_all (fun _ _ => trivial) _ _ _)
    (show _ = Except.ok (.reserveCredits 2, [.insertCreditEvent reserved]) by decide +kernel)
  let released : CreditEventRow :=
    ⟨"org:user", "org", "user", "CreditReservationReleased", 3, ⟨3, "EXPIRED", some "id"⟩, 0⟩
  let failed : AiQueryRow :=
    ⟨⟨"org", "user", "question", none, [], .finite 0, .failed, "id"⟩, "row"⟩
  let announced : CreditOutboxEvent :=
    .creditReservationReleased "org:user" "org" "user" 3 "id" "row" "EXPIRED"
      (codeUnits "question")
  have reached := Workload.reachable_commit reached 2 (.inl rfl)
    (fun other _ => by rcases other with _ | _ | _ <;> rfl)
    (.of_all (fun _ _ => trivial) _ _ _)
    (show _ = Except.ok (.releaseCreditReservation ⟨true, 5, some "row"⟩,
      [.insertCreditEvent released, .upsertAiQuery failed, .appendOutbox announced]) by
        decide +kernel)
  exact ⟨_, by decide +kernel, reservation_outcome disciplined_expiredReservation reached⟩

end CoreApi.Credit
