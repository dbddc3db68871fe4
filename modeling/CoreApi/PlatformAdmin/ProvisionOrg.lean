import CoreApi.Compensation.Idempotence
import CoreApi.Foundation.SagaProgress
import CoreApi.Tenant.Committed

/-!
# Provisioning an organization

`ProvisionOrgHandler` provisions the owner in another service, creates the
organization for her and audits it; what it has done it takes back when a later
step fails. The saga runs next to any other commands of all modules.
-/

namespace CoreApi.PlatformAdmin

open Tenant
open Compensation (CompensationAction)

structure ProvisionOrgCommand where
  orgName : String
  slug : String
  ownerEmail : String
  actorUserId : String
  idempotencyKey : Option String

/-- What the handler returns. -/
structure ProvisionOrgResult where
  orgId : String
  ownerUserId : String
  temporaryPassword : String

/-- What `provisionUser` resolves to. -/
inductive ProvisionOutcome where
  | provisioned (userId temporaryPassword : String)
  | alreadyExists

/-- A line of the audit log. -/
structure AuditEntry where
  action : String
  outcome : String
  actorUserId : String
  targetUserId : String
  orgId : String
  orgName : String
  slug : String

/-- The calls no transaction covers: to the other service, and to the log. -/
inductive ProvisionCall where
  | provisionUser (email : String) (idempotencyKey : Option String)
  | logAudit (entry : AuditEntry)

/-- The commands the saga dispatches and the call that takes the owner back, each by a client of its
own, and everybody else. -/
inductive ProvisionClient where
  | createOrg (userId : String)
  | archiveOrg (orgId : String)
  | cancelProvisionedUser (userId : String)
  | other (index : ℕ)
deriving DecidableEq

def ownerEmailAlreadyExistsError : Knowledge.ApplicationError where
  statusCode := 409
  code := "OWNER_EMAIL_ALREADY_EXISTS"
  message := "A user with this email already exists"

def authProvisioningUnavailableError : Knowledge.ApplicationError where
  statusCode := 503
  code := "AUTH_PROVISIONING_UNAVAILABLE"
  message := "Could not reach auth-service to provision the org owner"

/-- What the handler throws. -/
inductive ProvisionError where
  | application (error : Knowledge.ApplicationError)
  | commandFailed (client : ProvisionClient)
  | auditFailed

/-- The saga: it asks the auth service and the audit log, and dispatches the commands on the
organization. -/
abbrev ProvisionSaga :=
  Saga ProvisionClient CoreReply ProvisionCall ProvisionOutcome CompensationAction ProvisionError

/-- What `ctx.dispatch<string>` hands to the saga. -/
def orgIdOf : CoreReply → String
  | .tenant (.id id) => id
  | _ => ""

/-- The durable form of the owner's cancellation. -/
def cancelProvisionedUser (userId : String) : CompensationAction :=
  ⟨"cancel-provisioned-user", .object [("userId", .string userId)]⟩

/-- The durable form of the organization's archival. -/
def archiveOrg (orgId : String) : CompensationAction :=
  ⟨"archive-org", .object [("orgId", .string orgId)]⟩

namespace ProvisionOrgHandler

variable (command : ProvisionOrgCommand)

/-- What follows the creation of the organization. -/
def audit (userId temporaryPassword : String) (created : CoreReply) :
    ProvisionSaga ProvisionOrgResult := do
  let orgId := orgIdOf created
  Saga.register (archiveOrg orgId) (.archiveOrg orgId)
  let _ ← Saga.ask (.logAudit {
    action := "platform.org_provisioned"
    outcome := "success"
    actorUserId := command.actorUserId
    targetUserId := userId
    orgId := orgId
    orgName := command.orgName
    slug := command.slug })
  return { orgId := orgId, ownerUserId := userId, temporaryPassword := temporaryPassword }

/-- What follows the answer of the other service. -/
def create : ProvisionOutcome → ProvisionSaga ProvisionOrgResult
  | .alreadyExists => Saga.fail (.application ownerEmailAlreadyExistsError)
  | .provisioned userId temporaryPassword => do
      Saga.register (cancelProvisionedUser userId) (.cancelProvisionedUser userId)
      let created ← Saga.send (.createOrg userId)
      audit command userId temporaryPassword created

/-- The owner is provisioned first; what follows is compensated if it fails. -/
def execute : ProvisionSaga ProvisionOrgResult := do
  let provisioned ← Saga.ask (.provisionUser command.ownerEmail command.idempotencyKey)
  create command provisioned

end ProvisionOrgHandler

/-- One run of the handler: its command, and what its clients would draw. -/
structure ProvisionRun where
  command : ProvisionOrgCommand
  contexts : ProvisionClient → TenantContext

/-- The commands of all clients; the other service is not one of them. -/
def ProvisionRun.commands (run : ProvisionRun) (others : ℕ → CoreCommand) :
    ProvisionClient → Option CoreCommand
  | .createOrg userId => some (.tenant (run.contexts (.createOrg userId))
      (.createOrg ⟨run.command.orgName, run.command.slug, userId⟩))
  | .archiveOrg orgId => some (.tenant (run.contexts (.archiveOrg orgId)) (.archiveOrg ⟨orgId⟩))
  | .cancelProvisionedUser _ => none
  | .other index => some (others index)

variable (catalog : PermissionCatalog) (run : ProvisionRun) (others : ℕ → CoreCommand)

/-- The saga on the bus, next to the other commands. -/
def provisionBus :
    SagaBus (coreClients catalog (run.commands others)) ProvisionCall ProvisionOutcome
      CompensationAction ProvisionError ProvisionOrgResult where
  saga := ProvisionOrgHandler.execute run.command
  owned client := ∀ index, client ≠ .other index
  dispatchError := .commandFailed
  callError
    | .provisionUser _ _ => .application authProvisioningUnavailableError
    | .logAudit _ => .auditFailed

/-- The database next to a run of the handler. -/
abbrev ProvisionState :=
  SagaBus.State ProvisionClient CoreDb CoreWrite CoreError CoreReply ProvisionCall
    ProvisionOutcome CompensationAction ProvisionError ProvisionOrgResult

section Paths

variable {command : ProvisionOrgCommand} {catalog run others}

/-- The registered cancellation of the owner. -/
def cancelEntry (userId : String) : CompensationAction × ProvisionClient :=
  (cancelProvisionedUser userId, .cancelProvisionedUser userId)

/-- The registered archival of the organization. -/
def archiveEntry (orgId : String) : CompensationAction × ProvisionClient :=
  (archiveOrg orgId, .archiveOrg orgId)

/-- Where the handler can have come to. -/
inductive Came (command : ProvisionOrgCommand) : List (CompensationAction × ProvisionClient) →
    List (ProvisionClient × CoreReply) → ProvisionSaga ProvisionOrgResult → Prop where
  | asking : Came command [] [] (.call
      (.provisionUser command.ownerEmail command.idempotencyKey)
      (ProvisionOrgHandler.create command))
  | taken : Came command [] [] (.done (.error (.application ownerEmailAlreadyExistsError)))
  | provisioned (userId temporaryPassword : String) :
      Came command [] [] (.onCompensate (cancelProvisionedUser userId)
        (.cancelProvisionedUser userId) (.dispatch (.createOrg userId)
          (ProvisionOrgHandler.audit command userId temporaryPassword)))
  | creating (userId temporaryPassword : String) :
      Came command [cancelEntry userId] [] (.dispatch (.createOrg userId)
        (ProvisionOrgHandler.audit command userId temporaryPassword))
  | created (userId temporaryPassword : String) (reply : CoreReply) :
      Came command [cancelEntry userId] [(.createOrg userId, reply)]
        (ProvisionOrgHandler.audit command userId temporaryPassword reply)
  | auditing (userId temporaryPassword : String) (reply : CoreReply) (entry : AuditEntry) :
      Came command [archiveEntry (orgIdOf reply), cancelEntry userId]
        [(.createOrg userId, reply)] (.call (.logAudit entry) fun _ => .done (.ok
          { orgId := orgIdOf reply
            ownerUserId := userId
            temporaryPassword := temporaryPassword }))
  | finished (userId temporaryPassword : String) (reply : CoreReply) :
      Came command [archiveEntry (orgIdOf reply), cancelEntry userId]
        [(.createOrg userId, reply)] (.done (.ok
          { orgId := orgIdOf reply
            ownerUserId := userId
            temporaryPassword := temporaryPassword }))

theorem came {registered : List (CompensationAction × ProvisionClient)}
    {passed : List (ProvisionClient × CoreReply)} {last : ProvisionSaga ProvisionOrgResult}
    (path : Saga.Path (ProvisionOrgHandler.execute command) registered passed last) :
    Came command registered passed last := by
  change Saga.Path (.call (.provisionUser command.ownerEmail command.idempotencyKey)
    (ProvisionOrgHandler.create command)) registered passed last at path
  cases path with
  | here => exact .asking
  | call answer rest =>
      cases answer with
      | alreadyExists =>
          cases rest
          exact .taken
      | provisioned userId temporaryPassword =>
          cases rest with
          | here => exact .provisioned userId temporaryPassword
          | onCompensate rest =>
              cases rest with
              | here => exact .creating userId temporaryPassword
              | dispatch reply rest =>
                  cases rest with
                  | here => exact .created userId temporaryPassword reply
                  | onCompensate rest =>
                      cases rest with
                      | here => exact .auditing userId temporaryPassword reply _
                      | call answer rest =>
                          cases rest
                          exact .finished userId temporaryPassword reply

/-- What the handler has done where it returns. -/
theorem Came.returned {registered : List (CompensationAction × ProvisionClient)}
    {passed : List (ProvisionClient × CoreReply)} {result : ProvisionOrgResult}
    (came : Came command registered passed (.done (.ok result))) :
    ∃ reply, registered = [archiveEntry result.orgId, cancelEntry result.ownerUserId] ∧
      passed = [(.createOrg result.ownerUserId, reply)] ∧ orgIdOf reply = result.orgId := by
  cases came with
  | finished userId temporaryPassword reply => exact ⟨reply, rfl, rfl, rfl⟩

/-- What the handler has done where it throws. -/
theorem Came.thrown {registered : List (CompensationAction × ProvisionClient)}
    {passed : List (ProvisionClient × CoreReply)} {last : ProvisionSaga ProvisionOrgResult}
    (came : Came run.command registered passed last)
    {session : ProvisionClient → Session CoreDb CoreWrite CoreError CoreReply}
    {error : ProvisionError}
    (throws : (provisionBus catalog run others).Throws session last error) :
    (registered = [] ∧ passed = [] ∧ ∀ client next, last ≠ .dispatch client next) ∨
      (∃ userId, registered = [cancelEntry userId] ∧ session (.createOrg userId) = .failed) ∨
      ∃ userId reply, registered = [archiveEntry (orgIdOf reply), cancelEntry userId] ∧
        passed = [(.createOrg userId, reply)] ∧ ∀ client next, last ≠ .dispatch client next := by
  cases came with
  | asking => exact .inl ⟨rfl, rfl, nofun⟩
  | taken => exact .inl ⟨rfl, rfl, nofun⟩
  | provisioned userId temporaryPassword => exact throws.elim
  | creating userId temporaryPassword => exact .inr (.inl ⟨userId, rfl, throws.1⟩)
  | created userId temporaryPassword reply => exact throws.elim
  | auditing userId temporaryPassword reply entry =>
      exact .inr (.inr ⟨userId, reply, rfl, rfl, nofun⟩)
  | finished userId temporaryPassword reply => exact throws.elim

/-- The handler takes an owner back only as a compensation. -/
theorem Came.unpassed {registered : List (CompensationAction × ProvisionClient)}
    {passed : List (ProvisionClient × CoreReply)} {last : ProvisionSaga ProvisionOrgResult}
    (came : Came run.command registered passed last) {userId : String} :
    .cancelProvisionedUser userId ∉ passed.map Prod.fst := by
  cases came <;> simp

theorem Came.undispatched {registered : List (CompensationAction × ProvisionClient)}
    {passed : List (ProvisionClient × CoreReply)} {last : ProvisionSaga ProvisionOrgResult}
    (came : Came run.command registered passed last) {userId : String}
    (next : CoreReply → ProvisionSaga ProvisionOrgResult) :
    last ≠ .dispatch (.cancelProvisionedUser userId) next := by
  cases came <;> exact nofun

end Paths

section Runs

variable {catalog run others} {state : ProvisionState}

/-- The organization of a run for an owner is not there, or it is archived, or kept to be. -/
def OrgTakenBack (run : ProvisionRun) (state : ProvisionState) (userId : String) : Prop :=
  let orgId := (run.contexts (.createOrg userId)).id
  state.base.db.tenant.organizations.get? orgId = none ∨
    (∃ org, state.base.db.tenant.organizations.get? orgId = some org ∧ org.deletedAt.isSome) ∨
    archiveOrg orgId ∈ state.durable

theorem mem_log_of_committed (reached : (provisionBus catalog run others).system.Reachable state)
    {client : ProvisionClient} {begun : CoreDb} {reply : CoreReply}
    (committed : state.base.session client = .committed begun reply) :
    (⟨client, begun, reply⟩ : Workload.Entry ProvisionClient CoreDb CoreReply) ∈ state.base.log :=
  (Outline.mem_log_iff (SagaBus.base_reachable reached) ⟨client, begun, reply⟩).mpr committed

/-- What the dispatched creation answers is the id it has drawn. -/
theorem orgIdOf_created (once : CreatedOnce (run.commands others))
    (reached : (provisionBus catalog run others).system.Reachable state) {userId : String}
    {begun : CoreDb} {reply : CoreReply}
    (committed : state.base.session (.createOrg userId) = .committed begun reply) :
    orgIdOf reply = (run.contexts (.createOrg userId)).id := by
  have answered := reply_of_createOrg once (SagaBus.base_reachable reached) _
    (mem_log_of_committed reached committed) _ _ rfl
  rw [show reply = _ from answered]
  rfl

/-- A creation that has not committed has left no organization. -/
theorem org_absent (once : CreatedOnce (run.commands others))
    (reached : (provisionBus catalog run others).system.Reachable state) {userId : String}
    (open_ : ∀ begun reply, state.base.session (.createOrg userId) ≠ .committed begun reply) :
    state.base.db.tenant.organizations.get? (run.contexts (.createOrg userId)).id = none := by
  have based := SagaBus.base_reachable reached
  have unlogged : ∀ entry ∈ state.base.log, entry.client ≠ .createOrg userId := by
    intro entry member same
    have committed := (Outline.mem_log_iff based entry).mp member
    rw [same] at committed
    exact open_ _ _ committed
  have uncreated := uncreated_of_reachable once based unlogged
  have absent := uncreated (.organization (run.contexts (.createOrg userId)).id)
    ⟨_, rfl, List.mem_cons_self⟩
  simpa [identityOf] using absent

/-- A settled compensation of the creation has taken the organization back. -/
theorem orgTakenBack_of_settled (once : CreatedOnce (run.commands others))
    (reached : (provisionBus catalog run others).system.Reachable state) {userId : String}
    (settled : state.Settled (archiveEntry (run.contexts (.createOrg userId)).id)) :
    OrgTakenBack run state userId := by
  rcases settled with ⟨begun, reply, committed⟩ | kept
  · exact .inr (.inl (archived_of_reachable once (SagaBus.base_reachable reached)
      ⟨_, rfl⟩ ⟨_, mem_log_of_committed reached committed, rfl⟩))
  · exact .inr (.inr kept)

/-- What has returned has created its organization, and has compensated nothing. -/
theorem returned_of_reachable (once : CreatedOnce (run.commands others))
    (reached : (provisionBus catalog run others).system.Reachable state)
    {result : ProvisionOrgResult} (returned : state.phase = .returned result) :
    Founded (run.commands others) state.base result.orgId
        ⟨run.command.orgName, run.command.slug, result.ownerUserId⟩ ∧
      state.durable = [] ∧
      (∀ orgId, state.base.session (.archiveOrg orgId) = .idle) ∧
      ∀ userId, state.base.session (.cancelProvisionedUser userId) = .idle := by
  rcases SagaBus.progress_of_reachable reached with ⟨passed, last, taken, progress⟩
  have stands := progress.stands
  rw [returned] at stands
  obtain rfl : last = .done (.ok result) := stands
  rcases (came progress.path).returned with ⟨reply, -, rfl, answered⟩
  rcases progress.taken_nil (by rw [returned]; rfl) with ⟨rfl, durable⟩
  have unstarted : ∀ client, (∀ index, client ≠ .other index) →
      client ≠ .createOrg result.ownerUserId → state.base.session client = .idle := by
    intro client owned other
    by_contra stirring
    rcases progress.started client owned stirring with old | ⟨_, dispatch⟩ | found | awaits
    · exact other (by simpa using old)
    · cases dispatch
    · cases found
    · rw [returned] at awaits
      exact awaits
  refine ⟨?_, durable, fun orgId => unstarted _ nofun nofun, fun userId => unstarted _ nofun nofun⟩
  rcases progress.committed _ reply (List.mem_singleton_self _) with ⟨begun, committed⟩
  rw [← answered, orgIdOf_created once reached committed]
  exact founded_of_reachable once (SagaBus.base_reachable reached) rfl
    ⟨_, mem_log_of_committed reached committed, rfl⟩

/-- What has thrown has taken back whatever it had done, or keeps it to be taken back. -/
theorem thrown_of_reachable (once : CreatedOnce (run.commands others))
    (reached : (provisionBus catalog run others).system.Reachable state) {error : ProvisionError}
    (thrown : state.phase = .thrown error) :
    (state.registered = [] ∧ state.durable = [] ∧
        ∀ userId, state.base.db.tenant.organizations.get?
          (run.contexts (.createOrg userId)).id = none) ∨
      ∃ userId, state.Settled (cancelEntry userId) ∧ OrgTakenBack run state userId := by
  rcases SagaBus.progress_of_reachable reached with ⟨passed, last, taken, progress⟩
  have stands := progress.stands
  have settled := progress.settled_of_thrown thrown
  rw [thrown] at stands
  rcases (came progress.path).thrown stands with
    ⟨registered, rfl, undispatched⟩ | ⟨userId, registered, failed⟩ |
      ⟨userId, reply, registered, rfl, -⟩
  · have empty : taken = [] := by
      have stack := progress.stack
      rw [registered] at stack
      exact (List.append_eq_nil_iff.mp stack.symm).1
    refine .inl ⟨registered, List.eq_nil_iff_forall_not_mem.mpr fun descriptor member => ?_,
      fun userId => ?_⟩
    · rcases progress.durable descriptor member with ⟨client, member⟩
      simp [empty] at member
    · refine org_absent once reached fun begun reply committed => ?_
      have stirring : state.base.session (.createOrg userId) ≠ .idle := by simp [committed]
      have among := (progress.compensates (fun _ => by simp) stirring (by simp)
        (undispatched _)).2
      simp [registered] at among
  · refine .inr ⟨userId, settled _ ?_, .inl (org_absent once reached ?_)⟩
    · rw [registered]
      exact List.mem_singleton_self _
    · simp [failed]
  · rcases progress.committed _ reply (List.mem_singleton_self _) with ⟨begun, committed⟩
    rw [registered] at settled
    refine .inr ⟨userId, settled _ (by simp), orgTakenBack_of_settled once reached ?_⟩
    rw [← orgIdOf_created once reached committed]
    exact settled _ List.mem_cons_self

/-- An owner is only cancelled when her organization is not there or has been taken back. -/
theorem takenBack_of_cancelled (once : CreatedOnce (run.commands others))
    (reached : (provisionBus catalog run others).system.Reachable state) {userId : String}
    (cancelled : state.base.session (.cancelProvisionedUser userId) ≠ .idle) :
    OrgTakenBack run state userId := by
  rcases SagaBus.progress_of_reachable reached with ⟨passed, last, taken, progress⟩
  have came := came progress.path
  rcases progress.compensates (fun _ => by simp) cancelled came.unpassed came.undispatched with
    ⟨⟨error, throws⟩, among⟩
  rcases came.thrown throws with
    ⟨registered, -, -⟩ | ⟨owner, registered, failed⟩ |
      ⟨owner, reply, registered, rfl, undispatched⟩
  · simp [registered] at among
  · obtain rfl : userId = owner := by simpa [registered, cancelEntry] using among
    refine .inl (org_absent once reached ?_)
    simp [failed]
  · obtain rfl : userId = owner := by simpa [registered, archiveEntry, cancelEntry] using among
    rcases progress.committed _ reply (List.mem_singleton_self _) with ⟨begun, committed⟩
    have newer := @SagaBus.Progress.newer_settled _ _ _ _ _ _ _ _ _ _ _ _ _ _ _ _ _ progress
      [archiveEntry (orgIdOf reply)] [] (cancelProvisionedUser userId)
      (.cancelProvisionedUser userId) registered (fun _ => by simp) cancelled
      (by simp [archiveEntry]) (by simp) (undispatched _)
    refine orgTakenBack_of_settled once reached ?_
    rw [← orgIdOf_created once reached committed]
    exact newer _ (List.mem_singleton_self _)

/-- Provisioning is all or nothing. If it returns, the organization is there under its name with
the owner as its founder, what is missing of that was taken by commands of others, and nothing was
compensated. If it throws, an owner that was provisioned is cancelled or kept to be, and her
organization is not there, archived or kept to be. At no time is an owner cancelled whose
organization is there and neither archived nor kept to be. -/
theorem provisionOrg_all_or_nothing (once : CreatedOnce (run.commands others))
    (reached : (provisionBus catalog run others).system.Reachable state) :
    (∀ result, state.phase = .returned result →
      Founded (run.commands others) state.base result.orgId
          ⟨run.command.orgName, run.command.slug, result.ownerUserId⟩ ∧
        state.durable = [] ∧
        (∀ orgId, state.base.session (.archiveOrg orgId) = .idle) ∧
        ∀ userId, state.base.session (.cancelProvisionedUser userId) = .idle) ∧
    (∀ error, state.phase = .thrown error →
      (state.registered = [] ∧ state.durable = [] ∧
          ∀ userId, state.base.db.tenant.organizations.get?
            (run.contexts (.createOrg userId)).id = none) ∨
        ∃ userId, state.Settled (cancelEntry userId) ∧ OrgTakenBack run state userId) ∧
    ∀ userId, state.base.session (.cancelProvisionedUser userId) ≠ .idle →
      OrgTakenBack run state userId := by
  exact ⟨fun _ => returned_of_reachable once reached, fun _ => thrown_of_reachable once reached,
    fun _ => takenBack_of_cancelled once reached⟩

end Runs

/-- The provisioning of one organization. -/
def acmeRun : ProvisionRun where
  command := ⟨"Acme", "acme", "alice@acme.test", "admin", none⟩
  contexts
    | .createOrg userId => ⟨userId, "membership-1", 0⟩
    | _ => ⟨"", "", 5⟩

/-- Nobody else creates anything. -/
def archivers : ℕ → CoreCommand := fun _ => .tenant ⟨"", "", 0⟩ (.archiveOrg ⟨""⟩)

/-- The organization has the id of its owner. -/
def acmeCreator : TenantKey → ProvisionClient
  | .organization orgId => .createOrg orgId
  | .membership orgId _ => .createOrg orgId
  | .invite id => .archiveOrg id
  | .space id => .archiveOrg id

theorem createdOnce_acmeRun : CreatedOnce (acmeRun.commands archivers) := by
  refine createdOnce_of_creator acmeCreator ?_
  rintro (userId | orgId | userId | index) key ⟨command, mine, member⟩
  all_goals cases mine
  · rcases List.mem_cons.mp member with rfl | member
    · rfl
    · cases List.mem_singleton.mp member
      rfl
  · cases member
  · cases member

/-- What its creation commits. -/
def acmeRunWrites : List TenantWrite :=
  .putOrganization (Organization.create "alice" 0 "Acme" "acme") ::
    .putMembership (Membership.createOwner "membership-1" 0 "alice" "alice") ::
    (seeds namedCatalog "alice").map .insertPermission

/-- The audit fails, so the organization is archived and the owner cancelled. -/
theorem provisionOrg_all_or_nothing_unaudited :
    ∃ state : ProvisionState, state.phase = .thrown .auditFailed ∧
      state.Settled (cancelEntry "alice") ∧ OrgTakenBack acmeRun state "alice" := by
  have reached : (provisionBus namedCatalog acmeRun archivers).system.Reachable
      ⟨.running (ProvisionOrgHandler.execute acmeRun.command), [], [],
        ⟨.empty, [], fun _ => .idle⟩⟩ :=
    .initial ⟨rfl, rfl, rfl, rfl, rfl, fun _ => rfl⟩
  have reached := SagaBus.reachable_move reached (.answer (.provisioned "alice" "secret") rfl)
  have reached := SagaBus.reachable_move reached (.register rfl)
  have reached := SagaBus.reachable_move reached (.dispatch rfl)
  have reached := SagaBus.reachable_commit reached (.createOrg "alice") (fun _ => rfl)
    (.inl rfl) (fun _ _ => rfl) (fun _ _ => trivial)
    (show _ = Except.ok (CoreReply.tenant (.id "alice"), acmeRunWrites.map .tenant) by
      decide +kernel)
  have reached := SagaBus.reachable_move reached (.resume rfl rfl)
  have reached := SagaBus.reachable_move reached (.register rfl)
  have reached := SagaBus.reachable_move reached (.refuse rfl)
  have reached := SagaBus.reachable_move reached (.compensate rfl)
  have reached := SagaBus.reachable_commit reached (.archiveOrg "alice") (fun _ => rfl)
    (.inl rfl) (fun _ _ => Workload.State.pending_commit (fun _ => rfl) _ _ _ _ _)
    (fun _ _ => trivial)
    (show _ = Except.ok (CoreReply.tenant .done, [CoreWrite.tenant (.putOrganization
      { Organization.create "alice" 0 "Acme" "acme" with deletedAt := some 5 })]) by
        decide +kernel)
  have reached := SagaBus.reachable_move reached (.compensated rfl rfl)
  have reached := SagaBus.reachable_move reached (.compensate rfl)
  have reached := SagaBus.reachable_commit reached (.cancelProvisionedUser "alice") (fun _ => rfl)
    (.inl rfl) (fun _ _ => Workload.State.pending_commit
      (Workload.State.pending_commit (fun _ => rfl) _ _ _ _) _ _ _ _ _) (fun _ _ => trivial) rfl
  have reached := SagaBus.reachable_move reached (.compensated rfl rfl)
  have reached := SagaBus.reachable_move reached (.finish rfl)
  have takenBack := provisionOrg_all_or_nothing createdOnce_acmeRun reached
  exact ⟨_, rfl, .inl ⟨_, _, rfl⟩, takenBack.2.2 "alice" nofun⟩

end CoreApi.PlatformAdmin
