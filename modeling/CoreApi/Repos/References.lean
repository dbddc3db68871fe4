import CoreApi.Engagement.Effects
import CoreApi.Tenant.Founder

/-!
# References between organizations

An item is created with the space and the parent that the request names, and no
command changes them later. Nothing looks whether the organization of the item
has such a space or such an item, so its references stay within the organization
exactly as long as the requests do.
-/

namespace CoreApi

open Knowledge Tenant

/-- The space is one of the organization. -/
def IsSpaceOf (db : TenantDb) (spaceId orgId : String) : Prop :=
  ∃ space, db.spaces.get? spaceId = some space ∧ space.orgId = orgId

/-- The item is one of the organization. -/
def IsItemOf (db : KnowledgeDb) (itemId orgId : String) : Prop :=
  ∃ row, db.items.get? itemId = some row ∧ row.orgId = orgId

/-- Items refer to a space and a parent of their organization, and events to a space of theirs. -/
structure ReferencesOwn (db : CoreDb) : Prop where
  space : ∀ id row, db.knowledge.items.get? id = some row →
    IsSpaceOf db.tenant row.spaceId row.orgId
  parent : ∀ id row parentId, db.knowledge.items.get? id = some row →
    row.parentId = some parentId → IsItemOf db.knowledge parentId row.orgId
  published : ∀ event ∈ db.knowledge.outbox, IsSpaceOf db.tenant event.spaceId event.orgId

/-- A create that draws a new id names a space of its organization, and as parent nothing, an item
of its organization or itself. -/
def NamesOwn (db : CoreDb) (command : CoreCommand) : Prop :=
  ∀ context create, command = .knowledge context (.create create) →
    db.knowledge.items.get? context.id = none →
    IsSpaceOf db.tenant create.spaceId create.orgId ∧
      ∀ parentId, create.parentId = some parentId →
        parentId = context.id ∨ IsItemOf db.knowledge parentId create.orgId

/-- The ids the tenant module draws are new. -/
def DrawsFresh (db : CoreDb) (command : CoreCommand) : Prop :=
  ∀ context tenant, command = .tenant context tenant → Fresh db.tenant context

/-- Any number of commands of all modules from an empty database. -/
def freshCommands (catalog : PermissionCatalog) (sent : CoreDb → CoreCommand → Prop) :
    TransitionSystem (Committed CoreDb CoreCommand CoreReply) CoreCommand :=
  Committed.system coreEngine (CoreCommand.execute catalog) (fun db => db = .empty)
    fun db command => DrawsFresh db command ∧ sent db command

section Kept

variable {catalog : PermissionCatalog} {spaceId itemId orgId : String}

/-- A space stays a space of its organization. -/
theorem Tenant.Commits.isSpaceOf {context : TenantContext} {command : TenantCommand}
    {reply : TenantReply} {db next : TenantDb} (fresh : Fresh db context)
    (commits : Tenant.Commits catalog context db command reply next)
    (isSpace : IsSpaceOf db spaceId orgId) : IsSpaceOf next spaceId orgId := by
  rcases isSpace with ⟨space, stored, org⟩
  cases commits with
  | createOrg organizations memberships invites spaces permissions =>
      exact ⟨space, spaces ▸ stored, org⟩
  | updateRolePermissions manageable organizations memberships invites spaces permissions =>
      exact ⟨space, spaces ▸ stored, org⟩
  | createSpace organization =>
      have other : spaceId ≠ context.id := by
        rintro rfl
        cases fresh.space.symm.trans stored
      exact ⟨space, by simp [OrderedMap.get?_set, other, stored], org⟩
  | _ => exact ⟨space, stored, org⟩

variable {context : Context} {command : KnowledgeCommand} {reply : Option String}
  {db next : KnowledgeDb}

/-- An item stays an item of its organization. -/
theorem Knowledge.Commits.isItemOf (commits : Knowledge.Commits context db command reply next)
    (isItem : IsItemOf db itemId orgId) : IsItemOf next itemId orgId := by
  rcases isItem with ⟨item, stored, org⟩
  cases commits with
  | created fresh =>
      have other : itemId ≠ context.id := by
        rintro rfl
        cases fresh.symm.trans stored
      exact ⟨item, by simp [OrderedMap.get?_set, other, stored], org⟩
  | unchanged => exact ⟨item, stored, org⟩
  | @stored command orgId' row tenant found org' live checks =>
      by_cases same : itemId = command.target
      · subst same
        obtain rfl : row = item := Option.some.inj (found.symm.trans stored)
        exact ⟨_, by simp only [OrderedMap.get?_set, if_true],
          (command.stored_kept context row.toKnowledgeItem row).2.1.trans org⟩
      · exact ⟨item, by simp [OrderedMap.get?_set, same, stored], org⟩

end Kept

namespace ReferencesOwn

variable {catalog : PermissionCatalog} {db : CoreDb}

theorem tenant {context : TenantContext} {command : TenantCommand} {reply : TenantReply}
    {next : TenantDb} (own : ReferencesOwn db) (fresh : Fresh db.tenant context)
    (commits : Tenant.Commits catalog context db.tenant command reply next) :
    ReferencesOwn { db with tenant := next } where
  space id row stored := commits.isSpaceOf fresh (own.space id row stored)
  parent := own.parent
  published event member := commits.isSpaceOf fresh (own.published event member)

/-- The events of a command are about the item it has loaded. -/
theorem events_of_loaded {command : KnowledgeCommand} {loaded : KnowledgeItem}
    {event : KnowledgePublishedEvent} (member : event ∈ command.events loaded) :
    event.spaceId = loaded.spaceId ∧ event.orgId = loaded.orgId := by
  cases command with
  | publish command =>
      obtain rfl := List.mem_singleton.mp member
      exact ⟨rfl, rfl⟩
  | _ => cases member

theorem knowledge {context : Context} {command : KnowledgeCommand} {reply : Option String}
    {next : KnowledgeDb} (own : ReferencesOwn db)
    (names : NamesOwn db (.knowledge context command))
    (commits : Knowledge.Commits context db.knowledge command reply next) :
    ReferencesOwn { db with knowledge := next } := by
  have kept : ∀ {itemId orgId}, IsItemOf db.knowledge itemId orgId → IsItemOf next itemId orgId :=
    commits.isItemOf
  have spaces : db.knowledge.items.All fun _ row => IsSpaceOf db.tenant row.spaceId row.orgId :=
    own.space
  have parents : db.knowledge.items.All fun _ row =>
      ∀ parentId, row.parentId = some parentId → IsItemOf next parentId row.orgId :=
    fun id row stored parentId isParent => kept (own.parent id row parentId stored isParent)
  cases commits with
  | @created create fresh =>
      rcases names context create rfl fresh with ⟨space, parent⟩
      refine ⟨spaces.set space, fun id row parentId stored => ?_, own.published⟩
      refine parents.set (fun parentId isParent => ?_) id row stored parentId
      rcases parent parentId isParent with rfl | isItem
      · exact ⟨createdRow context create, by simp [OrderedMap.get?_set], rfl⟩
      · exact kept isItem
  | unchanged => exact own
  | @stored command orgId row tenant found org live checks =>
      rcases command.stored_kept context row.toKnowledgeItem row with
        ⟨-, org', space', -, parent'⟩
      refine ⟨spaces.set ?_, fun id row' parentId stored => ?_, fun event member => ?_⟩
      · rw [org', space']
        exact spaces _ row found
      · refine parents.set ?_ id row' stored parentId
        rw [parent', org']
        exact parents _ row found
      · rcases List.mem_append.mp member with old | new
        · exact own.published event old
        · rcases events_of_loaded new with ⟨space, org⟩
          rw [space, org]
          exact spaces _ row found

end ReferencesOwn

/-- What holds of the tables whatever the requests name. -/
structure TablesKeyed (db : CoreDb) : Prop where
  tenant : Consistent db.tenant
  knowledge : ItemsKeyed db.knowledge

/-- As long as every create names a space and a parent of its organization, all items refer to their
own organization, and so do the events that are published about them. -/
theorem references_own {catalog : PermissionCatalog}
    {state : Committed CoreDb CoreCommand CoreReply}
    (reached : (freshCommands catalog NamesOwn).Reachable state) : ReferencesOwn state.db := by
  have both : TablesKeyed state.db ∧ ReferencesOwn state.db := by
    refine @Committed.invariant _ _ _ _ _ _ _ _ _ _ _
      (fun state => TablesKeyed state.db ∧ ReferencesOwn state.db) reached ?_ ?_
    · rintro db rfl
      refine ⟨⟨.empty, fun id row stored => ?_⟩, fun id row stored => ?_,
        fun id row parentId stored => ?_, fun event member => ?_⟩
      · cases stored
      · cases stored
      · cases stored
      · cases member
    · rintro state command reply writes ⟨keyed, own⟩ ⟨fresh, names⟩ ran
      cases command with
      | tenant context command =>
          rcases aloneFrom_tenant_ok ran with ⟨answer, more, alone, -, rfl⟩
          have fresh := fresh context command rfl
          have commits := Tenant.commits_of_ok keyed.tenant.keyed keyed.tenant.numbered fresh alone
          rw [view_tenant]
          exact ⟨⟨⟨commits.keyed keyed.tenant.keyed, keyed.tenant.numbered.view more⟩,
            keyed.knowledge⟩, own.tenant fresh commits⟩
      | knowledge context command =>
          rcases aloneFrom_knowledge_ok ran with ⟨answer, more, alone, -, rfl⟩
          have commits := Knowledge.commits_of_ok keyed.knowledge alone
          rw [view_knowledge]
          exact ⟨⟨keyed.tenant, commits.itemsKeyed keyed.knowledge⟩, own.knowledge names commits⟩
      | engagement context command =>
          rcases aloneFrom_engagement_ok ran with ⟨more, rfl, -⟩
          rw [view_engagement]
          exact ⟨⟨keyed.tenant, keyed.knowledge⟩, own.space, own.parent, own.published⟩
      | credit stamp command =>
          rcases aloneFrom_credit_ok ran with ⟨answer, more, -, -, rfl⟩
          rcases view_credit state.db stamp.createdAt more with ⟨tenant, knowledge, -⟩
          refine ⟨⟨?_, ?_⟩, ?_, ?_, ?_⟩
          · rw [tenant]
            exact keyed.tenant
          · rw [knowledge]
            exact keyed.knowledge
          · rw [tenant, knowledge]
            exact own.space
          · rw [knowledge]
            exact own.parent
          · rw [tenant, knowledge]
            exact own.published
  exact both.2

/-- Alice founds an organization. -/
def acme : CoreCommand :=
  .tenant ⟨"org-a", "membership-a", 0⟩ (.createOrg ⟨"Acme", "acme", "alice"⟩)

/-- Bob founds another. -/
def beta : CoreCommand :=
  .tenant ⟨"org-b", "membership-b", 1⟩ (.createOrg ⟨"Beta", "beta", "bob"⟩)

/-- An organization gets a space. -/
def spaceOf (orgId : String) : CoreCommand :=
  .tenant ⟨"space", "", 2⟩ (.createSpace ⟨orgId, "General", .org⟩)

/-- Alice writes a note under the space. -/
def note : CoreCommand :=
  .knowledge ⟨some "org-a", "note", 3, 3⟩
    (.create ⟨"org-a", "space", .document, "Note", "", none, "alice"⟩)

/-- The note is published. -/
def notePublished : CoreCommand :=
  .knowledge ⟨some "org-a", "", 4, 4⟩ (.publish ⟨"note"⟩)

/-- The state after some commands from an empty database. -/
def referenceDb (commands : List CoreCommand) : Committed CoreDb CoreCommand CoreReply :=
  Committed.run coreEngine (CoreCommand.execute namedCatalog) .empty commands

theorem drawsFresh_knowledge (db : CoreDb) (context : Context) (command : KnowledgeCommand) :
    DrawsFresh db (.knowledge context command) := by
  rintro context tenant ⟨⟩

theorem drawsFresh_tenant {db : CoreDb} {context : TenantContext} {command : TenantCommand}
    (fresh : Fresh db.tenant context) : DrawsFresh db (.tenant context command) := by
  rintro context tenant ⟨⟩
  exact fresh

theorem namesOwn_tenant (db : CoreDb) (context : TenantContext) (command : TenantCommand) :
    NamesOwn db (.tenant context command) := by
  rintro context create ⟨⟩

theorem references_own_note :
    IsSpaceOf (referenceDb [acme, spaceOf "org-a", note]).db.tenant "space" "org-a" := by
  have start : (freshCommands namedCatalog NamesOwn).Reachable ⟨.empty, []⟩ := .initial ⟨rfl, rfl⟩
  have founded : (freshCommands namedCatalog NamesOwn).Reachable (referenceDb [acme]) :=
    Committed.reachable_after start acme
      ⟨drawsFresh_tenant ⟨rfl, rfl, rfl⟩, namesOwn_tenant _ _ _⟩
  have opened : (freshCommands namedCatalog NamesOwn).Reachable
      (referenceDb [acme, spaceOf "org-a"]) :=
    Committed.reachable_after founded (spaceOf "org-a")
      ⟨drawsFresh_tenant (by constructor <;> decide +kernel), namesOwn_tenant _ _ _⟩
  have written : (freshCommands namedCatalog NamesOwn).Reachable
      (referenceDb [acme, spaceOf "org-a", note]) := by
    refine Committed.reachable_after opened note ⟨drawsFresh_knowledge _ _ _, ?_⟩
    rintro context create ⟨⟩ -
    refine ⟨⟨Space.create "space" "org-a" "General" .org, by decide +kernel, rfl⟩, ?_⟩
    rintro parentId ⟨⟩
  have stored : (referenceDb [acme, spaceOf "org-a", note]).db.knowledge.items.get? "note" =
      some (createdRow ⟨some "org-a", "note", 3, 3⟩
        ⟨"org-a", "space", .document, "Note", "", none, "alice"⟩) := by
    decide +kernel
  exact (references_own written).space "note" _ stored

/-- An item of one organization is published in a space of another. -/
theorem space_of_other_org :
    ∃ state, (freshCommands namedCatalog fun _ _ => True).Reachable state ∧
      ¬ ReferencesOwn state.db := by
  have start : (freshCommands namedCatalog fun _ _ => True).Reachable ⟨.empty, []⟩ :=
    .initial ⟨rfl, rfl⟩
  have founded : (freshCommands namedCatalog fun _ _ => True).Reachable (referenceDb [acme]) :=
    Committed.reachable_after start acme ⟨drawsFresh_tenant ⟨rfl, rfl, rfl⟩, trivial⟩
  have founded' : (freshCommands namedCatalog fun _ _ => True).Reachable
      (referenceDb [acme, beta]) :=
    Committed.reachable_after founded beta
      ⟨drawsFresh_tenant (by constructor <;> decide +kernel), trivial⟩
  have opened : (freshCommands namedCatalog fun _ _ => True).Reachable
      (referenceDb [acme, beta, spaceOf "org-b"]) :=
    Committed.reachable_after founded' (spaceOf "org-b")
      ⟨drawsFresh_tenant (by constructor <;> decide +kernel), trivial⟩
  have written : (freshCommands namedCatalog fun _ _ => True).Reachable
      (referenceDb [acme, beta, spaceOf "org-b", note]) :=
    Committed.reachable_after opened note ⟨drawsFresh_knowledge _ _ _, trivial⟩
  have published : (freshCommands namedCatalog fun _ _ => True).Reachable
      (referenceDb [acme, beta, spaceOf "org-b", note, notePublished]) :=
    Committed.reachable_after written notePublished ⟨drawsFresh_knowledge _ _ _, trivial⟩
  have event : (⟨"note", "org-a", "note", "space", .document, "Note", "", "alice"⟩ :
      KnowledgePublishedEvent) ∈ (referenceDb [acme, beta, spaceOf "org-b", note,
        notePublished]).db.knowledge.outbox := by
    decide +kernel
  have space : (referenceDb [acme, beta, spaceOf "org-b", note,
      notePublished]).db.tenant.spaces.get? "space" =
      some (Space.create "space" "org-b" "General" .org) := by
    decide +kernel
  refine ⟨_, published, fun own => ?_⟩
  rcases own.published _ event with ⟨other, stored, org⟩
  rw [space] at stored
  cases stored
  simp [Space.create] at org

end CoreApi
