import CoreApi.Credit.Reservation

/-!
# Holds of an account

Every hold is open, charged or given back, as long as no id is held twice. A
reserve overwrites what the map has stored for its id: an open hold vanishes
without an event, a closed reservation opens again.
-/

namespace CoreApi.Credit.CreditAccount

variable {account : CreditAccount} {event : CreditLedgerEvent} {call : Call} {id : String}

/-- What was ever held is still held, was charged or was given back. -/
def Conserved (account : CreditAccount) : Prop :=
  amountOf [.creditReserved] account.uncommitted =
    account.reserved + amountOf [.creditReservationCommitted] account.uncommitted +
      amountOf [.creditReservationReleased] account.uncommitted

/-- A reservation that was charged or released. -/
def Closed (account : CreditAccount) (id : String) : Prop :=
  account.reservationStatus id = some .committed ∨ account.reservationStatus id = some .released

/-- While the calls are made, no closed reservation becomes open again. -/
def StaysClosed (account : CreditAccount) (calls : List Call) : Prop :=
  ∀ earlier later, earlier <+: later → later <+: calls → ∀ id,
    (account.callAll earlier).Closed id →
      (account.callAll later).reservationStatus id ≠ some .opened

/-- How often a reservation was charged. -/
def charges (account : CreditAccount) (id : String) : ℕ :=
  (account.uncommitted.filter fun event =>
    event.eventType = .creditReservationCommitted ∧
      event.payload.reservationId = some id).length

/-- A reserve that goes through although the account has a reservation under its id. -/
def Reuses (account : CreditAccount) : Call → Prop
  | .reserve id amount _ =>
      account.reservationStatus id ≠ none ∧
        ∃ value, positiveAmount amount = .ok value ∧ value ≤ account.available
  | _ => False

/-- None of the calls reuses an id. -/
def Fresh (account : CreditAccount) (calls : List Call) : Prop :=
  ∀ earlier call, earlier ++ [call] <+: calls → ¬(account.callAll earlier).Reuses call

/-- What was held and is neither held any more nor accounted for. -/
def missing (account : CreditAccount) : ℚ :=
  amountOf [.creditReserved] account.uncommitted -
    (account.reserved + amountOf [.creditReservationCommitted] account.uncommitted +
      amountOf [.creditReservationReleased] account.uncommitted)

theorem conserved_iff : account.Conserved ↔ account.missing = 0 := sub_eq_zero.symm

/-- The open hold that an event overwrites. -/
def overwritten (account : CreditAccount) (event : CreditLedgerEvent) : ℚ :=
  if event.eventType = .creditReserved then
    event.payload.reservationId.elim 0 (account.reservations.weightAt ReservationState.held)
  else 0

/-- A hold is added or overwritten by a reserve, and charged or given back in full. -/
theorem reserved_record (admits : account.Admits event) :
    (account.record event).reserved + account.overwritten event +
        amountOf [.creditReservationCommitted] [event] +
        amountOf [.creditReservationReleased] [event] =
      account.reserved + amountOf [.creditReserved] [event] := by
  have allowed := admits.allowed
  rcases event with ⟨_, _, _, eventType, version, amount, reason, reservationId⟩
  cases eventType with
  | creditGranted | creditRefunded | creditSpent =>
      change account.reserved + 0 + 0 + 0 = account.reserved + 0
      linarith
  | creditReserved =>
      rcases allowed with ⟨-, -, id, rfl⟩
      have total := reserved_set account id ⟨amount, .opened⟩
      change reserved { account with reservations := account.reservations.set id _ } +
        account.reservations.weightAt _ id + 0 + 0 = account.reserved + (amount + 0)
      simp only [ReservationState.held, if_true] at total
      linarith
  | creditReservationCommitted =>
      rcases allowed with ⟨id, rfl, stored⟩
      have total := reserved_set account id ⟨amount, .committed⟩
      change reserved { account with reservations := account.reservations.set id _ } + 0 +
        (amount + 0) + 0 = account.reserved + 0
      simp only [OrderedMap.weightAt, stored, Option.elim_some, ReservationState.held, if_true,
        reduceCtorEq, if_false] at total
      linarith
  | creditReservationReleased =>
      rcases allowed with ⟨id, rfl, stored⟩
      have total := reserved_set account id ⟨amount, .released⟩
      change reserved { account with reservations := account.reservations.set id _ } + 0 + 0 +
        (amount + 0) = account.reserved + 0
      simp only [OrderedMap.weightAt, stored, Option.elim_some, ReservationState.held, if_true,
        reduceCtorEq, if_false] at total
      linarith
  | unknown name => exact allowed.elim

/-- What goes missing is what is overwritten. -/
theorem missing_record (admits : account.Admits event) :
    (account.record event).missing = account.missing + account.overwritten event := by
  have held := reserved_record admits
  have events : (account.record event).uncommitted = account.uncommitted ++ [event] := rfl
  simp only [missing, events, amountOf_append]
  linarith

/-- What a reserve that goes through has checked. -/
theorem reserve_of_decision (decided : call.decision account = .ok (some event))
    (reserves : event.eventType = .creditReserved) :
    ∃ id amount reason, call = .reserve id amount reason ∧
      event.payload.reservationId = some id ∧
      ∃ value, positiveAmount amount = .ok value ∧ value ≤ account.available := by
  rcases Call.raised_of_decision decided with ⟨eventType, named, -⟩
  have raised := eventType.symm.trans reserves
  cases call with
  | reserve id amount reason =>
      refine ⟨id, amount, reason, rfl, named, ?_⟩
      simp only [Call.decision, Call.checked] at decided
      split at decided
      · next value passed =>
          exact ⟨value, passed, (Call.ifAvailable_eq_some decided).1⟩
      · cases decided
  | grant | spend | refund | commitReservation | releaseReservation => cases raised

/-- A call that reuses no id loses nothing and keeps closed what is closed. -/
theorem call_of_fresh (fresh : ¬account.Reuses call) :
    (account.call call).missing = account.missing ∧
      ∀ id, account.Closed id → (account.call call).Closed id := by
  simp only [CreditAccount.call, Call.perform_eq]
  rcases decided : call.decision account with error | _ | event
  · exact ⟨rfl, fun _ closed => closed⟩
  · exact ⟨rfl, fun _ closed => closed⟩
  · have admits := Call.admits_of_decision decided
    have absent : ∀ id, event.eventType = .creditReserved →
        event.payload.reservationId = some id → account.reservations.get? id = none := by
      intro id reserves named
      rcases reserve_of_decision decided reserves with ⟨id', amount, reason, rfl, named', passed⟩
      cases named.symm.trans named'
      by_contra known
      exact fresh ⟨fun none => known (Option.map_eq_none_iff.mp none), passed⟩
    constructor
    · rw [missing_record admits, overwritten]
      split
      · next reserves =>
          cases named : event.payload.reservationId with
          | none => exact add_zero _
          | some id =>
              rw [Option.elim_some, OrderedMap.weightAt, absent id reserves named]
              exact add_zero _
      · exact add_zero _
    · intro id closed
      simp only [Closed, reservationStatus] at closed ⊢
      change (Option.map _ ((account.apply event).reservations.get? id) = _) ∨
        (Option.map _ ((account.apply event).reservations.get? id) = _)
      rw [get?_apply]
      cases reaches : event.eventType.reservationStatus with
      | none => exact closed
      | some status =>
          by_cases named : event.payload.reservationId = some id
          · cases status with
            | opened =>
                have reserves : event.eventType = .creditReserved := by
                  cases type : event.eventType <;> simp [CreditEventType.reservationStatus, type]
                    at reaches ⊢
                simp [absent id reserves named] at closed
            | committed => simp [named]
            | released => simp [named]
          · simpa [named] using closed

/-- A call that reuses an id opens it and loses what was held under it. -/
theorem call_of_reuses (reuses : account.Reuses call) :
    ∃ id, account.reservationStatus id ≠ none ∧
      (account.call call).reservationStatus id = some .opened ∧
      (account.call call).missing = account.missing +
        account.reservations.weightAt ReservationState.held id := by
  cases call with
  | reserve id amount reason =>
      rcases reuses with ⟨known, value, passed, covered⟩
      have decided : (Call.reserve id amount reason).decision account =
          .ok (some (account.eventOf .creditReserved value reason (some id))) := by
        simp [Call.decision, Call.checked, passed, Call.ifAvailable, not_lt.mpr covered]
      have recorded : account.call (.reserve id amount reason) =
          account.record (account.eventOf .creditReserved value reason (some id)) := by
        simp only [CreditAccount.call, Call.perform_eq, decided]
      refine ⟨id, known, ?_, ?_⟩
      · rw [recorded]
        change Option.map _ ((account.reservations.set id _).get? id) = _
        simp [OrderedMap.get?_set]
      · rw [recorded, missing_record (Call.admits_of_decision decided)]
        rfl
  | grant | spend | refund | commitReservation | releaseReservation => exact reuses.elim

/-- No reservation is charged twice, and a charged one is closed. -/
def Charged (account : CreditAccount) : Prop :=
  ∀ id, account.charges id ≤ 1 ∧ (account.charges id ≠ 0 → account.Closed id)

theorem charges_record (account : CreditAccount) (event : CreditLedgerEvent) (id : String) :
    (account.record event).charges id = account.charges id +
      if event.eventType = .creditReservationCommitted ∧
        event.payload.reservationId = some id then 1 else 0 := by
  change ((account.uncommitted ++ [event]).filter _).length = _
  rw [List.filter_append, List.length_append, charges]
  split
  · next charging => simp [charging]
  · next other => simpa using other

theorem Charged.after_call (charged : account.Charged) (fresh : ¬account.Reuses call) :
    (account.call call).Charged := by
  intro id
  have stays := (call_of_fresh fresh).2 id
  rcases account.call_cases call with same | ⟨event, admits, recorded⟩
  · rw [same]
    exact charged id
  · rw [recorded] at stays ⊢
    rw [charges_record]
    split
    · next charging =>
        have allowed := admits.allowed
        simp only [charging.1, Allows] at allowed
        rcases allowed with ⟨held, named, stored⟩
        cases charging.2.symm.trans named
        have uncharged : account.charges id = 0 := by
          by_contra before
          have closed := (charged id).2 before
          simp [Closed, reservationStatus, stored] at closed
        rw [uncharged]
        refine ⟨le_rfl, fun _ => .inl ?_⟩
        change Option.map _ ((account.apply event).reservations.get? id) = _
        simp [get?_apply, charging, CreditEventType.reservationStatus]
    · exact ⟨(charged id).1, fun before => stays ((charged id).2 before)⟩

section Runs

variable {calls earlier : List Call}

theorem callAll_concat (account : CreditAccount) (calls : List Call) (call : Call) :
    account.callAll (calls ++ [call]) = (account.callAll calls).call call :=
  List.foldl_concat ..

theorem fresh_concat :
    account.Fresh (calls ++ [call]) ↔
      account.Fresh calls ∧ ¬(account.callAll calls).Reuses call := by
  constructor
  · intro fresh
    exact ⟨fun earlier other before => fresh earlier other (before.trans (List.prefix_append ..)),
      fresh calls call (List.prefix_refl _)⟩
  · rintro ⟨fresh, last⟩ earlier other before
    rcases List.prefix_concat_iff.mp before with whole | before
    · rcases List.append_inj' whole rfl with ⟨rfl, same⟩
      cases same
      exact last
    · exact fresh earlier other before

/-- Without reuse a closed reservation stays as it is. -/
theorem Fresh.closed (fresh : account.Fresh calls) (before : earlier <+: calls)
    (closed : (account.callAll earlier).Closed id) : (account.callAll calls).Closed id := by
  induction calls using List.reverseRecOn with
  | nil =>
      rw [List.prefix_nil.mp before] at closed
      exact closed
  | append_singleton calls call ih =>
      rcases fresh_concat.mp fresh with ⟨fresh, last⟩
      rcases List.prefix_concat_iff.mp before with rfl | before
      · exact closed
      · rw [callAll_concat]
        exact (call_of_fresh last).2 id (ih fresh before)

theorem Fresh.within {more : List Call} (fresh : account.Fresh more) (before : calls <+: more) :
    account.Fresh calls :=
  fun earlier call within => fresh earlier call (within.trans before)

theorem Fresh.staysClosed (fresh : account.Fresh calls) : account.StaysClosed calls := by
  intro earlier later before within id closed opened
  have stays := (fresh.within within).closed before closed
  rcases stays with stays | stays <;> simp [opened] at stays

/-- Without reuse nothing goes missing and nothing is charged twice. -/
theorem Fresh.callAll (fresh : account.Fresh calls) (charged : account.Charged) :
    (account.callAll calls).missing = account.missing ∧ (account.callAll calls).Charged := by
  induction calls using List.reverseRecOn with
  | nil => exact ⟨rfl, charged⟩
  | append_singleton calls call ih =>
      rcases fresh_concat.mp fresh with ⟨fresh, last⟩
      rcases ih fresh with ⟨kept, charged⟩
      rw [callAll_concat]
      exact ⟨(call_of_fresh last).1.trans kept, charged.after_call last⟩

/-- No call makes up for what went missing. -/
theorem Sound.missing_le (sound : account.Sound) (call : Call) :
    account.missing ≤ (account.call call).missing := by
  by_cases reuses : account.Reuses call
  · rcases call_of_reuses reuses with ⟨id, -, -, lost⟩
    rw [lost]
    exact le_add_of_nonneg_right (sound.held_nonneg id)
  · rw [(call_of_fresh reuses).1]

/-- A lost hold or a reopened reservation, whatever a reuse does, shows. -/
theorem Sound.not_reuses (sound : account.Sound)
    (kept : (account.call call).missing = account.missing)
    (stays : ∀ id, account.Closed id → (account.call call).reservationStatus id ≠ some .opened) :
    ¬account.Reuses call := by
  intro reuses
  rcases call_of_reuses reuses with ⟨id, known, opened, lost⟩
  cases stored : account.reservations.get? id with
  | none => exact known (by simp [reservationStatus, stored])
  | some state =>
      rcases state with ⟨amount, status⟩
      cases status with
      | opened =>
          have positive : 0 < amount := sound.amounts_pos id _ stored
          have held : account.reservations.weightAt ReservationState.held id = amount := by
            simp [OrderedMap.weightAt, stored, ReservationState.held]
          linarith
      | committed => exact stays id (.inl (by simp [reservationStatus, stored])) opened
      | released => exact stays id (.inr (by simp [reservationStatus, stored])) opened

end Runs

/-- The holds of a wallet are conserved, its closed reservations stay closed and none is charged
twice, if and only if no reserve that goes through names an id the wallet already has a
reservation of. -/
theorem conserved_staysClosed_iff_fresh (orgId userId : String) (calls : List Call) :
    ((openAccount orgId userId).callAll calls).Conserved ∧
        (openAccount orgId userId).StaysClosed calls ∧
        (∀ id, ((openAccount orgId userId).callAll calls).charges id ≤ 1) ↔
      (openAccount orgId userId).Fresh calls := by
  have sound (calls : List Call) : ((openAccount orgId userId).callAll calls).Sound :=
    callAll_induction (fun _ _ sound admits => sound.record admits) calls
      (sound_openAccount orgId userId)
  have nothing : (openAccount orgId userId).missing = 0 := by
    simp [missing, openAccount, amountOf, reserved, OrderedMap.total, OrderedMap.values,
      OrderedMap.empty]
  have never_negative (calls : List Call) :
      0 ≤ ((openAccount orgId userId).callAll calls).missing := by
    induction calls using List.reverseRecOn with
    | nil => exact nothing.ge
    | append_singleton calls call ih =>
        rw [callAll_concat]
        exact ih.trans ((sound calls).missing_le call)
  simp only [conserved_iff]
  constructor
  · rintro ⟨conserved, stays, -⟩
    induction calls using List.reverseRecOn with
    | nil => exact fun earlier call before => by simp at before
    | append_singleton calls call ih =>
        rw [callAll_concat] at conserved
        have before : ((openAccount orgId userId).callAll calls).missing = 0 :=
          le_antisymm (((sound calls).missing_le call).trans conserved.le) (never_negative calls)
        refine fresh_concat.mpr ⟨ih before fun earlier later first within =>
          stays earlier later first (within.trans (List.prefix_append ..)), ?_⟩
        refine (sound calls).not_reuses (conserved.trans before.symm) fun id closed => ?_
        rw [← callAll_concat]
        exact stays _ _ (List.prefix_append ..) (List.prefix_refl _) id closed
  · intro fresh
    have uncharged : (openAccount orgId userId).Charged := fun id => by
      simp [charges, openAccount]
    rcases fresh.callAll uncharged with ⟨kept, charged⟩
    exact ⟨kept.trans nothing, fresh.staysClosed, fun id => (charged id).1⟩

/-- The second hold of an id overwrites the first, and a charged one opens again. -/
theorem reused_reservation :
    ¬((openAccount "org" "ann").callAll
        [.grant (.finite 100) "WELCOME", .reserve "res-1" (.finite 30) "AI_QUERY",
          .reserve "res-1" (.finite 20) "AI_QUERY"]).Conserved ∧
      ¬(openAccount "org" "ann").StaysClosed
        [.grant (.finite 100) "WELCOME", .reserve "res-1" (.finite 30) "AI_QUERY",
          .commitReservation "res-1" "AI_QUERY", .reserve "res-1" (.finite 20) "AI_QUERY"] := by
  constructor
  · simp only [Conserved]
    decide +kernel
  · intro stays
    exact stays
      [.grant (.finite 100) "WELCOME", .reserve "res-1" (.finite 30) "AI_QUERY",
        .commitReservation "res-1" "AI_QUERY"] _
      (List.prefix_append _ [.reserve "res-1" (.finite 20) "AI_QUERY"]) (List.prefix_refl _)
      "res-1" (.inl (by decide +kernel)) (by decide +kernel)

end CoreApi.Credit.CreditAccount
