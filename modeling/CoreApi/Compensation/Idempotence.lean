import CoreApi.Compensation.BatchIsolation
import CoreApi.Credit.Release
import CoreApi.Repos.Commands
import CoreApi.Tenant.Founder

/-!
# Running a compensation again

The runners of two action types execute a command of this service. The reaper
runs a compensation again whenever it has not learnt of the outcome, so a second
run finds what the first one has left: a reservation that is not open any more,
which the release takes for done, or an organization that the read filter hides,
which the archiving takes for missing.
-/

namespace CoreApi.Compensation

open Credit Tenant

/-- What a run draws: the ids and the times of its transaction. -/
structure RunContext where
  tenant : TenantContext
  stamp : Stamp

/-- A compensation that a command of this service executes. -/
inductive LocalAction where
  | releaseCreditReservation (command : ReleaseCreditReservationCommand)
  | archiveOrg (command : ArchiveOrgCommand)

/-- `payload[name] as string`, of a payload that has a text there. -/
def payloadText (payload : Json) (name : String) : Option String :=
  match payload with
  | .object fields =>
      match fields.lookup name with
      | some (.string value) => some value
      | _ => none
  | _ => none

namespace LocalAction

/-- The runners that the modules register, by action type. -/
def ofRow (row : SagaCompensation) : Option LocalAction :=
  match row.actionType with
  | "release-credit-reservation" => do
      let orgId ← payloadText row.payload "orgId"
      let userId ← payloadText row.payload "userId"
      let reservationId ← payloadText row.payload "reservationId"
      let question ← payloadText row.payload "question"
      let reason ← payloadText row.payload "reason"
      return .releaseCreditReservation ⟨orgId, userId, reservationId, question, reason⟩
  | "archive-org" => do
      let orgId ← payloadText row.payload "orgId"
      return .archiveOrg ⟨orgId⟩
  | _ => none

/-- The command that an action dispatches. -/
def command (context : RunContext) : LocalAction → CoreCommand
  | .releaseCreditReservation command =>
      .credit context.stamp (.releaseCreditReservation command)
  | .archiveOrg command => .tenant context.tenant (.archiveOrg command)

variable (catalog : PermissionCatalog)

/-- One run: what it answers or throws, and the database it leaves. -/
def run (context : RunContext) (db : CoreDb) (action : LocalAction) :
    Except CoreError CoreReply × CoreDb :=
  coreEngine.run db ((action.command context).execute catalog)

/-- The database after further runs; `none` if one of them throws. -/
def reruns (contexts : List RunContext) (db : CoreDb) (action : LocalAction) : Option CoreDb :=
  contexts.foldlM
    (fun db context =>
      match action.run catalog context db with
      | (.ok _, after) => some after
      | (.error _, _) => none) db

variable {catalog} {action : LocalAction} {db after : CoreDb} {reply : CoreReply}
  {first : RunContext}

theorem run_eq_ok :
    action.run catalog first db = (.ok reply, after) ↔
      ∃ writes, coreEngine.aloneFrom db [] ((action.command first).execute catalog) =
        .ok (reply, writes) ∧ coreEngine.view db writes = after := by
  simp only [run, Engine.run]
  cases coreEngine.aloneFrom db [] ((action.command first).execute catalog) with
  | error error => simp
  | ok result =>
      rcases result with ⟨answer, writes⟩
      simp only [Prod.mk.injEq, Except.ok.injEq]
      constructor
      · rintro ⟨rfl, left⟩
        exact ⟨writes, ⟨rfl, rfl⟩, left⟩
      · rintro ⟨_, ⟨rfl, rfl⟩, left⟩
        exact ⟨rfl, left⟩

/-- Runs that find nothing to do change nothing, however many they are. -/
theorem reruns_of_fixed
    (fixed : ∀ context, ∃ answer, action.run catalog context db = (.ok answer, db))
    (contexts : List RunContext) : action.reruns catalog contexts db = some db := by
  induction contexts with
  | nil => rfl
  | cons context rest ih =>
      rcases fixed context with ⟨answer, ran⟩
      simp only [reruns, List.foldlM_cons, ran]
      exact ih

/-- What a credit command commits on the tables of its module, it commits on the database. -/
theorem aloneFrom_credit {stamp : Stamp} {command : CreditCommand} {answer : CreditReply}
    {writes : List CreditWrite}
    (ran : creditEngine.aloneFrom db.credit [] (command.execute stamp) = .ok (answer, writes)) :
    coreEngine.aloneFrom db [] (CoreCommand.execute catalog (.credit stamp command)) =
      .ok (.credit answer, writes.map (.credit stamp.createdAt)) :=
  Engine.aloneFrom_map_eq_ok.mpr
    ⟨answer, (creditComponent stamp.createdAt).aloneFrom_lift_eq_ok.mpr ⟨writes, ran, rfl⟩, rfl⟩

/-- A release that has committed is done for every later run. -/
theorem release_fixed {command : ReleaseCreditReservationCommand}
    (ran : (releaseCreditReservation command).run catalog first db = (.ok reply, after))
    (context : RunContext) :
    ∃ answer, (releaseCreditReservation command).run catalog context after =
      (.ok answer, after) := by
  rcases run_eq_ok.mp ran with ⟨writes, alone, left⟩
  rcases aloneFrom_credit_ok alone with ⟨_, more, released, -, rfl⟩
  have seen : after.credit = creditEngine.view db.credit more := by
    rw [← left]
    exact (creditComponent first.stamp.createdAt).view_wrap db more
  have closed := ReleaseCreditReservationHandler.aloneFrom_closes released
  rw [← seen] at closed
  have skips := ReleaseCreditReservationHandler.aloneFrom_skips context.stamp closed
  exact ⟨_, run_eq_ok.mpr ⟨[], aloneFrom_credit skips, rfl⟩⟩

/-- An archived organization is missing for whoever archives it. -/
theorem archive_missing {command : ArchiveOrgCommand} (context : RunContext)
    (hidden : (db.tenant.organizations.get? command.orgId).filter
      (fun org => org.deletedAt = none) = none) :
    (archiveOrg command).run catalog context db =
      (.error (.tenant (.application orgNotFoundError)), db) := by
  have alone : coreEngine.aloneFrom db [] (((archiveOrg command).command context).execute
      catalog) = .error (.tenant (.application orgNotFoundError)) := by
    change coreEngine.aloneFrom db _ (CoreReply.tenant <$> tenantComponent.lift CoreError.tenant
      ((fun _ => TenantReply.done) <$> (orThrow orgNotFoundError
        ((db.tenant.organizations.get? command.orgId).filter fun org => org.deletedAt = none) >>=
        fun org => PrismaOrganizationRepository.save (org.softDelete context.tenant.now)))) = _
    rw [hidden]
    rfl
  simp only [run, Engine.run, alone]

/-- Archiving an organization that has been archived throws. -/
theorem archive_fails {command : ArchiveOrgCommand}
    (keyed : ∀ id org, db.tenant.organizations.get? id = some org → org.id = id)
    (ran : (archiveOrg command).run catalog first db = (.ok reply, after))
    (context : RunContext) :
    (archiveOrg command).run catalog context after =
      (.error (.tenant (.application orgNotFoundError)), after) := by
  rcases run_eq_ok.mp ran with ⟨writes, alone, rfl⟩
  rcases aloneFrom_tenant_ok alone with ⟨_, more, body, -, rfl⟩
  rcases Engine.aloneFrom_map_eq_ok.mp body with ⟨_, archived, -⟩
  simp only [ArchiveOrgHandler.execute, PrismaOrganizationRepository.findById,
    Engine.aloneFrom_bind_eq_ok, Engine.aloneFrom_read_eq_ok, aloneFrom_orThrow_eq_ok] at archived
  rcases archived with ⟨_, _, ⟨rfl, rfl⟩, org, _, ⟨found, rfl⟩, saved⟩
  have stored := (Option.filter_eq_some_iff.mp found).1
  have same : org.id = command.orgId := keyed _ _ stored
  have stored' : db.tenant.organizations.get? (org.softDelete first.tenant.now).id = some org := by
    simpa [Organization.softDelete, same] using stored
  have saved := saveOrganization_ok saved
  simp only [Engine.view_nil, stored', List.nil_append] at saved
  subst saved
  refine archive_missing context ?_
  change (((db.tenant.organizations.set org.id (org.softDelete first.tenant.now)).get?
    command.orgId).filter fun org => org.deletedAt = none) = none
  simp [same, Organization.softDelete, OrderedMap.get?_set]

/-- The action type of a row names its runner. -/
theorem actionType_of_ofRow {row : SagaCompensation} (known : ofRow row = some action) :
    (row.actionType = "release-credit-reservation" ∧
        ∃ command, action = .releaseCreditReservation command) ∨
      (row.actionType = "archive-org" ∧ ∃ command, action = .archiveOrg command) := by
  simp only [ofRow] at known
  split at known
  · next type =>
      simp only [Option.bind_eq_bind, Option.bind_eq_some_iff, Option.pure_def,
        Option.some.injEq] at known
      rcases known with ⟨_, -, _, -, _, -, _, -, _, -, rfl⟩
      exact .inl ⟨type, _, rfl⟩
  · next type =>
      simp only [Option.bind_eq_bind, Option.bind_eq_some_iff, Option.pure_def,
        Option.some.injEq] at known
      rcases known with ⟨_, -, rfl⟩
      exact .inr ⟨type, _, rfl⟩
  · cases known

/-- The action types that the modules register. -/
def registered (actionType : String) : Bool :=
  actionType ∈ ["cancel-provisioned-user", "archive-org", "release-credit-reservation"]

/-- What the runner of a row throws; the marks of the row go through. -/
def faults (describe : CoreError → String) (result : Except CoreError CoreReply) :
    SagaCompensationReaperService.RowFaults where
  runner :=
    match result with
    | .ok _ => none
    | .error error => some (describe error)
  markProcessed := none
  markFailed := none

open SagaCompensationReaperService in
/-- Once the runner of a row has committed, further runs change nothing and return, and the reaper
marks the row as done, if and only if the row releases a reservation. -/
theorem reruns_idempotent_iff {row : ClaimedSagaCompensation}
    (known : ofRow row.toSagaCompensation = some action)
    (keyed : ∀ id org, db.tenant.organizations.get? id = some org → org.id = id)
    (ran : action.run catalog first db = (.ok reply, after)) (describe : CoreError → String)
    (maxAttempts : ℕ) :
    ((∀ contexts, action.reruns catalog contexts after = some after) ∧
      ∀ context,
        rowCalls registered maxAttempts
            (row, faults describe (action.run catalog context after).1) =
          [.get row.id row.actionType, .run row.id row.payload, .markProcessed row.id]) ↔
      row.actionType = "release-credit-reservation" := by
  rcases actionType_of_ofRow known with ⟨type, command, rfl⟩ | ⟨type, command, rfl⟩
  · refine iff_of_true ⟨reruns_of_fixed (release_fixed ran), ?_⟩ type
    intro context
    rcases release_fixed ran context with ⟨answer, again⟩
    rw [again]
    simp [rowCalls, caught, lookup, faults, registered, type]
  · refine iff_of_false ?_ (by simp [type])
    rintro ⟨same, -⟩
    have twice := same [first]
    simp only [reruns, List.foldlM_cons, archive_fails keyed ran first] at twice
    cases twice

/-- A member has been granted five credits, and three of them are held for a question. -/
def held : CoreDb :=
  { CoreDb.empty with
    creditEvents :=
      [⟨"org:user", "org", "user", "CreditGranted", 1, ⟨5, "welcome", none⟩, 0⟩,
        ⟨"org:user", "org", "user", "CreditReserved", 2, ⟨3, "AI query", some "id"⟩, 0⟩] }

/-- A claimed compensation that releases a hold. -/
def releaseHeld : ClaimedSagaCompensation where
  id := "1"
  sagaCommand := "AskAiCommand"
  actionType := "release-credit-reservation"
  payload := .object
    [("orgId", .string "org"), ("userId", .string "user"), ("reservationId", .string "id"),
      ("question", .string "Why?"), ("reason", .string "AI_UNAVAILABLE")]
  createdAt := 0
  attempts := 0

/-- What a run draws, at five o'clock. -/
def morning : RunContext := ⟨⟨"draw", "membership", 5⟩, ⟨5, "query"⟩⟩

/-- The reservation is released once, whatever number of runs follows. -/
theorem reruns_idempotent_held : ∃ action reply after,
    ofRow releaseHeld.toSagaCompensation = some action ∧
      action.run namedCatalog morning held = (.ok reply, after) ∧
      ∀ contexts, action.reruns namedCatalog contexts after = some after := by
  let command : ReleaseCreditReservationCommand := ⟨"org", "user", "id", "Why?", "AI_UNAVAILABLE"⟩
  let writes : List CoreWrite :=
    [.credit 5 (.insertCreditEvent
        ⟨"org:user", "org", "user", "CreditReservationReleased", 3,
          ⟨3, "AI_UNAVAILABLE", some "id"⟩, 5⟩),
      .credit 5 (.upsertAiQuery
        ⟨⟨"org", "user", "Why?", none, [], .finite 0, .failed, "id"⟩, "query"⟩),
      .credit 5 (.appendOutbox
        (.creditReservationReleased "org:user" "org" "user" 3 "id" "query" "AI_UNAVAILABLE"
          [87, 104, 121, 63]))]
  let reply : CoreReply :=
    .credit (.releaseCreditReservation ⟨true, 5, some "query"⟩)
  have known : ofRow releaseHeld.toSagaCompensation = some (.releaseCreditReservation command) :=
    rfl
  have ran : (releaseCreditReservation command).run namedCatalog morning held =
      (.ok reply, coreEngine.view held writes) :=
    run_eq_ok.mpr ⟨writes, by decide +kernel, rfl⟩
  refine ⟨_, _, _, known, ran, ?_⟩
  exact ((reruns_idempotent_iff known (fun _ _ found => by cases found) ran (fun _ => "") 5).mpr
    rfl).1

/-- An organization that its saga has left behind. -/
def founded : CoreDb :=
  { CoreDb.empty with
    tenant :=
      { TenantDb.empty with
        organizations := OrderedMap.empty.set "org-1"
          (Organization.create "org-1" 0 "Acme" "acme") } }

/-- A claimed compensation that archives an organization. -/
def archiveFounded : ClaimedSagaCompensation where
  id := "1"
  sagaCommand := "ProvisionOrgCommand"
  actionType := "archive-org"
  payload := .object [("orgId", .string "org-1")]
  createdAt := 0
  attempts := 0

/-- The organization is archived, and the next run throws. -/
theorem archive_throws_again : ∃ action reply after,
    ofRow archiveFounded.toSagaCompensation = some action ∧
      action.run namedCatalog morning founded = (.ok reply, after) ∧
      action.reruns namedCatalog [morning] after ≠ some after := by
  let archived : Organization := (Organization.create "org-1" 0 "Acme" "acme").softDelete 5
  let writes : List CoreWrite := [.tenant (.putOrganization archived)]
  have ran : (archiveOrg ⟨"org-1"⟩).run namedCatalog morning founded =
      (.ok (.tenant .done), coreEngine.view founded writes) :=
    run_eq_ok.mpr ⟨writes, by decide +kernel, rfl⟩
  have again : (archiveOrg ⟨"org-1"⟩).run namedCatalog morning
      (coreEngine.view founded writes) = (.error _, _) := archive_missing morning rfl
  refine ⟨_, _, _, rfl, ran, ?_⟩
  simp [reruns, again]

end LocalAction

end CoreApi.Compensation
