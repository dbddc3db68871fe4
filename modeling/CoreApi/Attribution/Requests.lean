import CoreApi.Attribution.Credit
import CoreApi.Attribution.Engagement
import CoreApi.Foundation.Erasure
import CoreApi.Repos.Modules
import CoreApi.Tenant.Entitlement

/-!
# Whose requests made the rows

Behind every row stands a request that has committed: of the user the row names, in
the organization of the row, and let in by the guard with what its route requires.
The rows are signed in every run, so they are signed in the run without the clients
that have not committed.
-/

namespace CoreApi

open Credit Engagement Knowledge Tenant WriteSet

section Committed

variable {Client : Type} [DecidableEq Client] {catalog : PermissionCatalog}
  {commands : Client → Option CoreCommand}
  {state : Workload.State Client CoreDb CoreWrite CoreError CoreReply}

omit [DecidableEq Client] in
theorem CoreCommand.execute_signs (once : OpenedOnce commands) {client : Client}
    {command : CoreCommand} (mine : commands client = some command) :
    (signatures commands).Adds (command.execute catalog) fun _ => True := by
  cases command with
  | tenant context command => exact Adds.map _ (Adds.lift (fun _ => trivial) _)
  | knowledge context command => exact Adds.map _ (Knowledge.execute_signs once mine)
  | engagement context command => exact Adds.map _ (Engagement.execute_signs once mine)
  | credit stamp command => exact Adds.map _ (Adds.lift (fun _ => trivial) _)

omit [DecidableEq Client] in
theorem CoreCommand.execute_signsLedger {client : Client} {command : CoreCommand}
    (mine : commands client = some command) :
    (ledgerSignatures commands).Adds (command.execute catalog) fun _ => True := by
  by_cases other : command.module = .credit
  · cases command with
    | credit stamp command => exact Adds.map _ (CreditCommand.execute_signs mine)
    | _ => cases other
  · refine adds_of_issues (command.execute_issues catalog) ?_
    rintro _ own now row rfl
    exact absurd own.symm other

theorem rowsSigned_of_reachable (once : OpenedOnce commands)
    (reached : (coreClients catalog commands).system.Reachable state) :
    RowsSigned commands state.db := by
  refine WriteSet.inv_of_reachable (signatures commands) ?_ (fun _ _ => id) ?_ reached
  · rintro db rfl
    exact .empty
  · intro client
    simp only [coreClients]
    cases mine : commands client with
    | none => exact Adds.pure trivial
    | some command => exact CoreCommand.execute_signs once mine

theorem ledgerSigned_of_reachable
    (reached : (coreClients catalog commands).system.Reachable state) :
    ∀ row ∈ state.db.creditEvents, LedgerSigned commands row := by
  refine WriteSet.inv_of_reachable (ledgerSignatures commands) ?_ (fun _ _ => id) ?_ reached
  · rintro db rfl row member
    exact absurd member List.not_mem_nil
  · intro client
    simp only [coreClients]
    cases mine : commands client with
    | none => exact Adds.pure trivial
    | some command => exact CoreCommand.execute_signsLedger mine

/-- The commands of the clients that have committed. -/
def committedOnly (commands : Client → Option CoreCommand)
    (state : Workload.State Client CoreDb CoreWrite CoreError CoreReply) (client : Client) :
    Option CoreCommand :=
  if ∃ entry ∈ state.log, entry.client = client then commands client else none

theorem committedOnly_eq_some {client : Client} {command : CoreCommand} :
    committedOnly commands state client = some command ↔
      (∃ entry ∈ state.log, entry.client = client) ∧ commands client = some command := by
  simp only [committedOnly]
  split <;> simp_all

theorem reachable_committedOnly (reached : (coreClients catalog commands).system.Reachable state) :
    ∃ alone, (coreClients catalog (committedOnly commands state)).system.Reachable alone ∧
      alone.db = state.db := by
  refine ⟨state.without fun client => ∃ entry ∈ state.log, entry.client = client, ?_, rfl⟩
  refine Workload.reachable_without _ _ reached ?_ fun entry member => ⟨entry, member, rfl⟩
  intro client committed
  simp only [coreClients, committedOnly, if_pos committed]

end Committed

section Routes

variable {Client : Type} {requests : Client → Option CoreRequest} {client : Client}
  {context : Context}

/-- Items are changed by the routes of two controllers. -/
theorem routed_of_knowledge {command : KnowledgeCommand}
    (mine : commandsOf requests client = some (.knowledge context command)) :
    ∃ request, requests client = some (.routed request) ∧ request.context = context ∧
      ((∃ route, request.route = .knowledge route ∧
          KnowledgeController.command request.user request.org route = command) ∨
        ∃ route, request.route = .engagement route ∧
          EngagementController.command request.user context route =
            .knowledge context command) := by
  rcases request_of_command mine with ⟨request, asked, made⟩ | ⟨internal, -, same⟩
  · refine ⟨request, asked, ?_⟩
    cases made with
    | knowledge named => exact ⟨rfl, .inl ⟨_, named, rfl⟩⟩
    | @engagement route _ named made =>
        have same : request.context = context := by cases route <;> cases made <;> rfl
        exact ⟨same, .inr ⟨route, named, same ▸ made⟩⟩
  · cases internal <;> cases same

theorem routed_of_engagement {command : EngagementCommand}
    (mine : commandsOf requests client = some (.engagement context command)) :
    ∃ request route, requests client = some (.routed request) ∧ request.context = context ∧
      request.route = .engagement route ∧
      EngagementController.command request.user context route = .engagement context command := by
  rcases request_of_command mine with ⟨request, asked, made⟩ | ⟨internal, -, same⟩
  · cases made with
    | @engagement route _ named made =>
        have same : request.context = context := by cases route <;> cases made <;> rfl
        exact ⟨request, route, asked, same, named, same ▸ made⟩
  · cases internal <;> cases same

theorem routed_of_credit {stamp : Stamp} {command : CreditCommand}
    (mine : commandsOf requests client = some (.credit stamp command)) :
    (∃ request route, requests client = some (.routed request) ∧ request.route = .credit route ∧
      CreditController.command request.user request.org request.draw route = command) ∨
    ∃ internal, requests client = some (.internal internal) ∧
      internal.command = .credit stamp command := by
  rcases request_of_command mine with ⟨request, asked, made⟩ | internal
  · cases made with
    | credit named => exact .inl ⟨request, _, asked, named, rfl⟩
    | @engagement route _ named made => cases route <;> cases made
  · exact .inr internal

end Routes

section Backed

variable {Client : Type} [DecidableEq Client] (catalog : PermissionCatalog)
  (requests : Client → Option CoreRequest) (state : ServiceState Client)

/-- A request of a user in an organization that has committed, let in with what its route
requires. -/
structure Backed (orgId userId : String) (route : Route) (permissions : List OrgPermission)
    (request : RoutedRequest) : Prop where
  ran : ∃ client, Ran requests state client (.routed request)
  org : request.org = orgId
  user : request.user = userId
  asked : request.route = route
  requires : route.requires = some permissions
  entitled : ∀ permission ∈ permissions,
    Entitled catalog requests state (.admission orgId userId permission)

/-- Everything an item says goes back to requests: that of its author, who alone accepts an answer,
those of its editors, and those that published, verified and deleted it. -/
structure ItemAttributed (item : KnowledgeItem) : Prop where
  created : ∃ title body request, Backed catalog requests state item.orgId item.createdByUserId
    (.knowledge (.create ⟨item.spaceId, item.type, title, body, item.parentId⟩)) [.knowledgeWrite]
    request ∧ request.draw.id = item.id
  text : (∃ request, Backed catalog requests state item.orgId item.createdByUserId
      (.knowledge (.create ⟨item.spaceId, item.type, item.title, item.body, item.parentId⟩))
      [.knowledgeWrite] request ∧ request.draw.id = item.id) ∨
    ∃ version editor request, Backed catalog requests state item.orgId editor
      (.knowledge (.update item.id ⟨version, item.title, item.body⟩)) [.knowledgeWrite] request
  published : item.status ≠ .draft → item.status = .published ∧ ∃ publisher request,
    Backed catalog requests state item.orgId publisher (.knowledge (.publish item.id))
      [.knowledgeWrite] request
  verified : item.isVerified → ∃ verifier request, Backed catalog requests state item.orgId verifier
    (.knowledge (.verify item.id)) [.knowledgeVerify] request
  accepted : ∀ answerId, item.acceptedAnswerId = some answerId → ∃ request,
    Backed catalog requests state item.orgId item.createdByUserId
      (.engagement (.acceptAnswer item.id ⟨answerId⟩)) [.engagementAcceptAnswer] request
  updated : ∀ editor, item.updatedByUserId = some editor →
    (∃ version title body request, Backed catalog requests state item.orgId editor
      (.knowledge (.update item.id ⟨version, title, body⟩)) [.knowledgeWrite] request) ∨
    ∃ request, Backed catalog requests state item.orgId editor (.knowledge (.verify item.id))
      [.knowledgeVerify] request
  deleted : item.deletedAt ≠ none → ∃ deleter request,
    Backed catalog requests state item.orgId deleter (.knowledge (.remove item.id))
      [.knowledgeWrite] request

/-- Every row is the doing of the user it names, and a row that refers to an item is made in the
organization of the item. -/
structure ContentAttributed : Prop where
  items : state.base.db.knowledge.items.All fun _ item =>
    ItemAttributed catalog requests state item.toKnowledgeItem
  revisions : ∀ revision ∈ state.base.db.knowledge.revisions, ∃ orgId version title request,
    Backed catalog requests state orgId revision.editedByUserId
      (.knowledge (.update revision.itemId ⟨version, title, revision.bodySnapshot⟩))
      [.knowledgeWrite] request ∧
    ∀ item, state.base.db.knowledge.items.get? revision.itemId = some item → item.orgId = orgId
  votes : state.base.db.engagement.votes.All fun _ vote =>
    (∃ request, Backed catalog requests state vote.orgId vote.userId
      (.engagement (.castVote vote.itemId ⟨vote.value⟩)) [.engagementVote] request) ∧
    ∀ item, state.base.db.knowledge.items.get? vote.itemId = some item → item.orgId = vote.orgId
  bookmarks : state.base.db.engagement.bookmarks.All fun _ bookmark =>
    (∃ request, Backed catalog requests state bookmark.orgId bookmark.userId
      (.engagement (.addBookmark bookmark.itemId)) [.engagementBookmark] request) ∧
    ∀ item, state.base.db.knowledge.items.get? bookmark.itemId = some item →
      item.orgId = bookmark.orgId
  follows : state.base.db.engagement.follows.All fun _ follow =>
    (∃ request, Backed catalog requests state follow.orgId follow.userId
      (.engagement (.follow ⟨follow.targetType, follow.targetId⟩)) [.engagementFollow] request) ∧
    (follow.targetType = .document →
      ∀ item, state.base.db.knowledge.items.get? follow.targetId = some item →
        item.orgId = follow.orgId)

/-- Credits are granted by somebody who may, refunded by the service, and spent or reserved by the
owner of the wallet alone; what is charged or released is what the owner has reserved. -/
inductive LedgerAttributed (row : CreditEventRow) : Prop where
  | granted {granter : String} {request : RoutedRequest}
      (type : row.eventType = CreditEventType.creditGranted.text)
      (backed : Backed catalog requests state row.orgId granter (.credit (.grant
        ⟨row.userId, .finite row.payload.amount, row.payload.reason⟩)) [.creditGrant] request)
  | spent {request : RoutedRequest} (type : row.eventType = CreditEventType.creditSpent.text)
      (backed : Backed catalog requests state row.orgId row.userId (.credit (.spend
        ⟨.finite row.payload.amount, row.payload.reason⟩)) [.creditSpend] request)
  | refunded {client : Client} {stamp : Stamp}
      (type : row.eventType = CreditEventType.creditRefunded.text)
      (ran : Ran requests state client (.internal (.refundCredits stamp
        ⟨row.orgId, row.userId, .finite row.payload.amount, row.payload.reason⟩)))
  | reserved {request : RoutedRequest}
      (type : row.eventType ∈ [CreditEventType.creditReserved.text,
        CreditEventType.creditReservationCommitted.text,
        CreditEventType.creditReservationReleased.text])
      (held : row.payload.reservationId = some request.draw.reservationId)
      (backed : Backed catalog requests state row.orgId row.userId
        (.credit (.ask (.finite row.payload.amount))) [.knowledgeRead, .creditSpend] request)

variable {catalog requests state}

section Signed

variable (once : CreatedOnce (commandsOf requests))
  (reached : (service catalog requests).Reachable state)

include once reached

theorem backed_of_ran {client : Client} {request : RoutedRequest} {permissions : List OrgPermission}
    (ran : Ran requests state client (.routed request))
    (requires : request.route.requires = some permissions) :
    Backed catalog requests state request.org request.user request.route permissions request where
  ran := ⟨client, ran⟩
  org := rfl
  user := rfl
  asked := rfl
  requires := requires
  entitled _ member := entitled_of_ran once reached ran requires member

/-- A route of the knowledge module is that of a request that was let in. -/
theorem backed_of_edits {orgId : String} {command : KnowledgeCommand}
    (edits : Edits (committedOnly (commandsOf requests) state.base) orgId command) :
    ∃ request, (∃ route, KnowledgeController.command request.user orgId route = command ∧
        Backed catalog requests state orgId request.user (.knowledge route)
          (KnowledgeController.requires route) request) ∨
      ∃ route, EngagementController.command request.user request.context route =
          .knowledge request.context command ∧
        Backed catalog requests state orgId request.user (.engagement route)
          (EngagementController.requires route) request := by
  rcases edits with ⟨client, context, mine, tenant⟩
  rcases committedOnly_eq_some.mp mine with ⟨committed, mine⟩
  rcases routed_of_knowledge mine with ⟨request, asked, rfl, made⟩
  have sent : present request.orgId = some orgId := tenant
  have org : request.org = orgId := by simp [RoutedRequest.org, sent]
  refine ⟨request, ?_⟩
  subst org
  rcases made with ⟨route, named, made⟩ | ⟨route, named, made⟩
  · refine .inl ⟨route, made, ?_⟩
    rw [← named]
    exact backed_of_ran once reached ⟨asked, committed⟩ (by rw [named]; rfl)
  · refine .inr ⟨route, made, ?_⟩
    rw [← named]
    exact backed_of_ran once reached ⟨asked, committed⟩ (by rw [named]; rfl)

theorem backed_of_opens {id : String} {create : CreateKnowledgeCommand}
    (opens : Opens (committedOnly (commandsOf requests) state.base) id create) :
    ∃ request, Backed catalog requests state create.orgId create.createdByUserId
      (.knowledge (.create ⟨create.spaceId, create.type, create.title, create.body,
        create.parentId⟩)) [.knowledgeWrite] request ∧ request.draw.id = id := by
  rcases opens with ⟨client, context, mine, same⟩
  rcases committedOnly_eq_some.mp mine with ⟨committed, mine⟩
  rcases routed_of_knowledge mine with ⟨request, asked, rfl, made⟩
  refine ⟨request, ?_, same⟩
  rcases made with ⟨route, named, made⟩ | ⟨route, named, made⟩
  · cases route <;> cases made
    rw [← named]
    exact backed_of_ran once reached ⟨asked, committed⟩ (by rw [named]; rfl)
  · cases route <;> cases made

theorem backed_of_engages {orgId : String} {command : EngagementCommand}
    (engages : Engages (committedOnly (commandsOf requests) state.base) orgId command) :
    ∃ request route, EngagementController.command request.user request.context route =
        .engagement request.context command ∧
      Backed catalog requests state orgId request.user (.engagement route)
        (EngagementController.requires route) request := by
  rcases engages with ⟨client, context, mine, tenant⟩
  rcases committedOnly_eq_some.mp mine with ⟨committed, mine⟩
  rcases routed_of_engagement mine with ⟨request, route, asked, rfl, named, made⟩
  have sent : present request.orgId = some orgId := tenant
  have org : request.org = orgId := by simp [RoutedRequest.org, sent]
  subst org
  refine ⟨request, route, made, ?_⟩
  rw [← named]
  exact backed_of_ran once reached ⟨asked, committed⟩ (by rw [named]; rfl)

theorem backed_of_books {command : CreditCommand}
    (books : Books (committedOnly (commandsOf requests) state.base) command) :
    (∃ request route,
      CreditController.command request.user request.org request.draw route = command ∧
        Backed catalog requests state request.org request.user (.credit route)
          (CreditController.requires route) request) ∨
      ∃ client internal stamp, Ran requests state client (.internal internal) ∧
        internal.command = .credit stamp command := by
  rcases books with ⟨client, stamp, mine⟩
  rcases committedOnly_eq_some.mp mine with ⟨committed, mine⟩
  rcases routed_of_credit mine with ⟨request, route, asked, named, made⟩ | ⟨internal, asked, made⟩
  · refine .inl ⟨request, route, made, ?_⟩
    rw [← named]
    exact backed_of_ran once reached ⟨asked, committed⟩ (by rw [named]; rfl)
  · exact .inr ⟨client, internal, stamp, ⟨asked, committed⟩, made⟩

section Content

variable {orgId id userId title body answerId : String} {version : ℕ} {value : ℤ}
  {targetType : Outbox.FollowTargetType}

theorem backed_of_update (edits : Edits (committedOnly (commandsOf requests) state.base) orgId
    (.update ⟨id, version, title, body, userId⟩)) : ∃ request,
    Backed catalog requests state orgId userId (.knowledge (.update id ⟨version, title, body⟩))
      [.knowledgeWrite] request := by
  rcases backed_of_edits once reached edits with
    ⟨request, ⟨route, made, backed⟩ | ⟨route, made, -⟩⟩
  · cases route <;> cases made
    exact ⟨request, backed⟩
  · cases route <;> cases made

theorem backed_of_verify (edits : Edits (committedOnly (commandsOf requests) state.base) orgId
    (.verify ⟨id, userId⟩)) : ∃ request, Backed catalog requests state orgId userId
      (.knowledge (.verify id)) [.knowledgeVerify] request := by
  rcases backed_of_edits once reached edits with
    ⟨request, ⟨route, made, backed⟩ | ⟨route, made, -⟩⟩
  · cases route <;> cases made
    exact ⟨request, backed⟩
  · cases route <;> cases made

theorem backed_of_acceptAnswer (edits : Edits (committedOnly (commandsOf requests) state.base) orgId
    (.acceptAnswer ⟨id, answerId, userId⟩)) : ∃ request,
    Backed catalog requests state orgId userId (.engagement (.acceptAnswer id ⟨answerId⟩))
      [.engagementAcceptAnswer] request := by
  rcases backed_of_edits once reached edits with
    ⟨request, ⟨route, made, -⟩ | ⟨route, made, backed⟩⟩
  · cases route <;> cases made
  · cases route <;> cases made
    exact ⟨request, backed⟩

theorem backed_of_castVote (engages : Engages (committedOnly (commandsOf requests) state.base) orgId
    (.castVote ⟨id, userId, value⟩)) : ∃ request,
    Backed catalog requests state orgId userId (.engagement (.castVote id ⟨value⟩))
      [.engagementVote] request := by
  rcases backed_of_engages once reached engages with ⟨request, route, made, backed⟩
  cases route <;> cases made
  exact ⟨request, backed⟩

theorem backed_of_addBookmark (engages : Engages (committedOnly (commandsOf requests) state.base)
    orgId (.addBookmark ⟨id, userId⟩)) : ∃ request,
    Backed catalog requests state orgId userId (.engagement (.addBookmark id))
      [.engagementBookmark] request := by
  rcases backed_of_engages once reached engages with ⟨request, route, made, backed⟩
  cases route <;> cases made
  exact ⟨request, backed⟩

theorem backed_of_followTarget (engages : Engages (committedOnly (commandsOf requests) state.base)
    orgId (.followTarget ⟨userId, targetType, id⟩)) : ∃ request,
    Backed catalog requests state orgId userId (.engagement (.follow ⟨targetType, id⟩))
      [.engagementFollow] request := by
  rcases backed_of_engages once reached engages with ⟨request, route, made, backed⟩
  cases route <;> cases made
  exact ⟨request, backed⟩

end Content

theorem itemAttributed_of_signed {item : KnowledgeItem}
    (signed : ItemSigned (committedOnly (commandsOf requests) state.base) item) :
    ItemAttributed catalog requests state item where
  created := by
    rcases signed.opened with ⟨title, body, opens⟩
    rcases backed_of_opens once reached opens with ⟨request, backed⟩
    exact ⟨title, body, request, backed⟩
  text := by
    rcases signed.text with opens | ⟨version, editor, edits⟩
    · exact .inl (backed_of_opens once reached opens)
    · exact .inr ⟨version, editor, backed_of_update once reached edits⟩
  published draft := by
    rcases signed.published draft with ⟨published, edits⟩
    refine ⟨published, ?_⟩
    rcases backed_of_edits once reached edits with
      ⟨request, ⟨route, made, backed⟩ | ⟨route, made, -⟩⟩
    · cases route <;> cases made
      exact ⟨_, request, backed⟩
    · cases route <;> cases made
  verified verified := by
    rcases signed.verified verified with ⟨verifier, edits⟩
    exact ⟨verifier, backed_of_verify once reached edits⟩
  accepted answerId accepted :=
    backed_of_acceptAnswer once reached (signed.accepted answerId accepted)
  updated editor updated := by
    rcases signed.updated editor updated with ⟨version, title, body, edits⟩ | edits
    · exact .inl ⟨version, title, body, backed_of_update once reached edits⟩
    · exact .inr (backed_of_verify once reached edits)
  deleted deleted := by
    rcases backed_of_edits once reached (signed.deleted deleted) with
      ⟨request, ⟨route, made, backed⟩ | ⟨route, made, -⟩⟩
    · cases route <;> cases made
      exact ⟨_, request, backed⟩
    · cases route <;> cases made

/-- Whatever requests are served at the same time, everything stored about items, revisions, votes,
bookmarks and follows is the doing of the users it names. -/
theorem content_attributed (opened : OpenedOnce (commandsOf requests)) :
    ContentAttributed catalog requests state := by
  rcases reachable_committedOnly (Gate.base_reachable reached) with ⟨alone, reached', same⟩
  have opened' : OpenedOnce (committedOnly (commandsOf requests) state.base) :=
    fun first second context context' create create' mine mine' =>
      opened _ _ _ _ _ _ (committedOnly_eq_some.mp mine).2 (committedOnly_eq_some.mp mine').2
  have signed := rowsSigned_of_reachable opened' reached'
  rw [same] at signed
  have org : ∀ {orgId itemId}, OpenedIn (committedOnly (commandsOf requests) state.base) orgId
      itemId → ∀ item, state.base.db.knowledge.items.get? itemId = some item →
      item.orgId = orgId := by
    rintro orgId itemId ⟨create, opens, rfl⟩ item stored
    rcases signed.items itemId item stored with ⟨same, own⟩
    rcases own.opened with ⟨title, body, opens'⟩
    rw [Opens.unique opened' opens (same ▸ opens')]
  refine ⟨?_, ?_, ?_, ?_, ?_⟩
  · exact signed.items.mono fun _ _ own => itemAttributed_of_signed once reached own.2
  · intro revision member
    rcases signed.revisions revision member with ⟨orgId, version, title, own, edits⟩
    rcases backed_of_update once reached edits with ⟨request, backed⟩
    exact ⟨orgId, version, title, request, backed, org own⟩
  · exact signed.votes.mono fun _ _ own =>
      ⟨backed_of_castVote once reached own.2.2, org own.2.1⟩
  · exact signed.bookmarks.mono fun _ _ own =>
      ⟨backed_of_addBookmark once reached own.2, org own.1⟩
  · exact signed.follows.mono fun _ _ own =>
      ⟨backed_of_followTarget once reached own.2, fun document => org (own.1 document)⟩

/-- A row of the ledger by the command that added it. -/
theorem ledger_attributed {row : CreditEventRow} (member : row ∈ state.base.db.creditEvents) :
    LedgerAttributed catalog requests state row := by
  rcases reachable_committedOnly (Gate.base_reachable reached) with ⟨alone, reached', same⟩
  rcases ledgerSigned_of_reachable reached' row (same ▸ member) with
    ⟨-, ⟨command, books, wallet, type, reason, held, requested⟩, reserved⟩
  rcases Prod.mk.inj wallet with ⟨org, user⟩
  have asked : ∀ id, row.payload.reservationId = some id → ∃ request,
      Backed catalog requests state row.orgId row.userId
        (.credit (.ask (.finite row.payload.amount))) [.knowledgeRead, .creditSpend] request ∧
      request.draw.reservationId = id := by
    intro id held
    rcases reserved id held with ⟨reason, books⟩
    rcases backed_of_books once reached books with
      ⟨request, route, made, backed⟩ | ⟨client, internal, stamp, -, made⟩
    · cases route with
      | ask cost =>
          simp only [CreditController.command, CreditCommand.reserveCredits.injEq,
            ReserveCreditsCommand.mk.injEq] at made
          rcases made with ⟨org, user, id, rfl, -⟩
          exact ⟨request, org ▸ user ▸ backed, id⟩
      | _ => cases made
    · cases internal <;> cases made
  cases command with
  | grantCredits grant =>
      rcases backed_of_books once reached books with
        ⟨request, route, made, backed⟩ | ⟨client, internal, stamp, -, made⟩
      · cases route with
        | grant body =>
            rcases body with ⟨userId, amount, reason'⟩
            cases made
            obtain rfl : userId = row.userId := user
            obtain rfl : amount = .finite row.payload.amount := requested _ rfl
            obtain rfl : row.payload.reason = reason' := reason
            rw [show request.org = row.orgId from org] at backed
            exact .granted type backed
        | _ => cases made
      · cases internal <;> cases made
  | spendCredits spend =>
      rcases backed_of_books once reached books with
        ⟨request, route, made, backed⟩ | ⟨client, internal, stamp, -, made⟩
      · cases route with
        | spend body =>
            rcases body with ⟨amount, reason'⟩
            cases made
            obtain rfl : amount = .finite row.payload.amount := requested _ rfl
            obtain rfl : row.payload.reason = reason' := reason
            rw [show request.org = row.orgId from org, show request.user = row.userId from user]
              at backed
            exact .spent type backed
        | _ => cases made
      · cases internal <;> cases made
  | refundCredits refund =>
      rcases backed_of_books once reached books with
        ⟨request, route, made, -⟩ | ⟨client, internal, stamp, ran, made⟩
      · cases route <;> cases made
      · cases internal with
        | refundCredits stamp command =>
            cases made
            rcases refund with ⟨orgId, userId, amount, reason'⟩
            obtain rfl : orgId = row.orgId := org
            obtain rfl : userId = row.userId := user
            obtain rfl : amount = .finite row.payload.amount := requested _ rfl
            obtain rfl : row.payload.reason = reason' := reason
            exact .refunded type ran
        | _ => cases made
  | reserveCredits reserve =>
      rcases asked _ held with ⟨request, backed, drawn⟩
      exact .reserved (by simp [type, CreditCommand.call, Call.raised]) (drawn ▸ held) backed
  | commitAiQuery commit =>
      rcases asked _ held with ⟨request, backed, drawn⟩
      exact .reserved (by simp [type, CreditCommand.call, Call.raised]) (drawn ▸ held) backed
  | releaseCreditReservation release =>
      rcases asked _ held with ⟨request, backed, drawn⟩
      exact .reserved (by simp [type, CreditCommand.call, Call.raised]) (drawn ▸ held) backed

end Signed

end Backed

section Witness

/-- Alice founds an organization, writes a guide, votes for it, grants herself credits and asks the
AI a question. -/
def authoring : ℕ → Option CoreRequest
  | 0 => some (.internal (.createOrg acmeCreated.1 ⟨"Acme", "acme", "alice"⟩))
  | 1 => some (.routed (byAlice "guide"
      (.knowledge (.create ⟨"space-1", .document, "Guide", "", none⟩))))
  | 2 => some (.routed (byAlice "vote-1" (.engagement (.castVote "guide" ⟨1⟩))))
  | 3 => some (.routed (byAlice "" (.credit (.grant ⟨"alice", .finite 5, "welcome"⟩))))
  | 4 => some (.routed (byAlice "" (.credit (.ask (.finite 2)))))
  | _ => none
where
  byAlice (id : String) (route : Route) : RoutedRequest :=
    ⟨"alice", some "org-1", ⟨id, "", "", "reservation-1", 0, 0⟩, route⟩

theorem createdOnce_authoring : CreatedOnce (commandsOf authoring) := by
  refine createdOnce_of_creator (fun _ => 0) ?_
  rintro (_ | _ | _ | _ | _ | client) key ⟨command, mine, member⟩
  · rfl
  all_goals cases mine
  all_goals cases member

theorem openedOnce_authoring : OpenedOnce (commandsOf authoring) := by
  have own : ∀ client context create, commandsOf authoring client =
      some (.knowledge context (.create create)) → client = 1 := by
    rintro (_ | _ | _ | _ | _ | client) context create mine
    all_goals first | rfl | cases mine
  intro first second context context' create create' mine mine' _
  rw [own _ _ _ mine, own _ _ _ mine']

def aliceGuide : KnowledgeItemRow :=
  { KnowledgeItem.create "guide" 0 "org-1" "space-1" .document "Guide" "" none "alice" with
    contentHash := none }

def aliceVote : Vote := Vote.create "vote-1" 0 "org-1" "guide" "alice" 1

def aliceRow (type : CreditEventType) (version : ℕ) (payload : CreditEventPayload) :
    CreditEventRow :=
  ⟨"org-1:alice", "org-1", "alice", type.text, version, payload, 0⟩

theorem reachable_authoring : ∃ state : ServiceState ℕ,
    (service namedCatalog authoring).Reachable state ∧
      state.base.db.engagement.votes.get? ("guide", "alice") = some aliceVote ∧
      aliceRow .creditReserved 2 ⟨2, "AI query", some "reservation-1"⟩ ∈
        state.base.db.creditEvents := by
  have start : (service namedCatalog authoring).Reachable
      ⟨⟨.empty, [], fun _ => .idle⟩, checksOf namedCatalog authoring⟩ :=
    .initial ⟨⟨rfl, rfl, fun _ => rfl⟩, rfl⟩
  have founded := Gate.reachable_commit start 0 (show _ = Except.ok none from rfl) (.inl rfl)
    (fun _ _ => rfl) (.of_all (fun _ _ => trivial) _ _ _)
    (show _ = Except.ok (CoreReply.tenant (.id "org-1"), acmeWrites.map CoreWrite.tenant) by
      decide +kernel)
  have written := Gate.reachable_commit founded 1
    (show _ = Except.ok (some ⟨"org-1", .owner, namedCatalog.allOrgPermissions⟩) by decide +kernel)
    (.inl rfl) (fun other _ => by rcases other with _ | _ <;> rfl)
    (.of_all (fun _ _ => trivial) _ _ _)
    (show _ = Except.ok (CoreReply.knowledge (some "guide"),
      [CoreWrite.knowledge (.putItem aliceGuide)]) by decide +kernel)
  have voted := Gate.reachable_commit written 2
    (show _ = Except.ok (some ⟨"org-1", .owner, namedCatalog.allOrgPermissions⟩) by decide +kernel)
    (.inl rfl) (fun other _ => by rcases other with _ | _ | _ <;> rfl)
    (.of_all (fun _ _ => trivial) _ _ _)
    (show _ = Except.ok (CoreReply.engagement, [CoreWrite.engagement (.putVote aliceVote)]) by
      decide +kernel)
  have granted := Gate.reachable_commit voted 3
    (show _ = Except.ok (some ⟨"org-1", .owner, namedCatalog.allOrgPermissions⟩) by decide +kernel)
    (.inl rfl) (fun other _ => by rcases other with _ | _ | _ | _ <;> rfl)
    (.of_all (fun _ _ => trivial) _ _ _)
    (show _ = Except.ok (CoreReply.credit (.grantCredits 5),
      [CoreWrite.credit 0 (.insertCreditEvent (aliceRow .creditGranted 1 ⟨5, "welcome", none⟩)),
        .credit 0 (.appendOutbox (.creditAwarded "org-1:alice" "org-1" "alice" (.finite 5)
          "welcome" 5))]) by decide +kernel)
  have reserved := Gate.reachable_commit granted 4
    (show _ = Except.ok (some ⟨"org-1", .owner, namedCatalog.allOrgPermissions⟩) by decide +kernel)
    (.inl rfl) (fun other _ => by rcases other with _ | _ | _ | _ | _ <;> rfl)
    (.of_all (fun _ _ => trivial) _ _ _)
    (show _ = Except.ok (CoreReply.credit (.reserveCredits 3), [CoreWrite.credit 0
      (.insertCreditEvent (aliceRow .creditReserved 2 ⟨2, "AI query", some "reservation-1"⟩))]) by
      decide +kernel)
  exact ⟨_, reserved, by decide +kernel, by decide +kernel⟩

theorem content_attributed_alice : ∃ state request,
    state.base.db.engagement.votes.get? ("guide", "alice") = some aliceVote ∧
      Backed namedCatalog authoring state "org-1" "alice" (.engagement (.castVote "guide" ⟨1⟩))
        [.engagementVote] request := by
  rcases reachable_authoring with ⟨state, reached, voted, -⟩
  have attributed := content_attributed createdOnce_authoring reached openedOnce_authoring
  rcases (attributed.votes _ _ voted).1 with ⟨request, backed⟩
  exact ⟨state, request, voted, backed⟩

theorem ledger_attributed_alice : ∃ state : ServiceState ℕ, ∃ row ∈ state.base.db.creditEvents,
    row.eventType = "CreditReserved" ∧ LedgerAttributed namedCatalog authoring state row := by
  rcases reachable_authoring with ⟨state, reached, -, reserved⟩
  exact ⟨state, _, reserved, rfl, ledger_attributed createdOnce_authoring reached reserved⟩

end Witness

end CoreApi
