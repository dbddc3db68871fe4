import CoreApi.Foundation.WriteSets
import CoreApi.Knowledge.Effects
import CoreApi.Repos.Commands
import CoreApi.Repos.Queries
import CoreApi.Tenant.Authorization

/-!
# What readers see of deleted rows

Items and organizations are deleted by a date in their rows. The extension of
the database client adds the condition that there is no such date to the reads
of three models. It sees the outermost model of a read only: a filter that
follows a relation, and a row that is included, still reach the deleted rows.
-/

namespace CoreApi

open Engagement Knowledge Tenant

/-- The models that the reads name. -/
inductive PrismaModel where
  | organization
  | space
  | membership
  | knowledgeItem
  | revision
  | follow
deriving DecidableEq

/-- The operations of a model that read rows. -/
inductive PrismaOperation where
  | findUnique
  | findFirst
  | findMany
  | count
  | aggregate
deriving DecidableEq

namespace PrismaModel

/-- The type of a model's rows. -/
abbrev Row : PrismaModel → Type
  | organization => Organization
  | space => Space
  | membership => Membership
  | knowledgeItem => KnowledgeItemRow
  | revision => Revision
  | follow => Follow

/-- The rows of a model. -/
def table (db : CoreDb) : (model : PrismaModel) → List model.Row
  | organization => db.tenant.organizations.values
  | space => db.tenant.spaces.values
  | membership => db.tenant.memberships.values
  | knowledgeItem => db.knowledge.items.values
  | revision => db.knowledge.revisions
  | follow => db.engagement.follows.values

/-- The column, where the model has one. -/
def deletedAt : (model : PrismaModel) → model.Row → Option ℤ
  | organization => fun row => Organization.deletedAt row
  | space => fun row => Space.deletedAt row
  | knowledgeItem => fun row => KnowledgeItem.deletedAt (KnowledgeItemRow.toKnowledgeItem row)
  | _ => fun _ => none

end PrismaModel

/-- The `where` of a read: its condition under the key `deletedAt`, if it has the key, and the
others. -/
structure Where (model : PrismaModel) where
  others : model.Row → Bool
  deletedAt : Option (Option ℤ → Bool)

/-- The row passes the condition of a `where`. -/
def Where.Admits {model : PrismaModel} (filter : Where model) (row : model.Row) : Bool :=
  filter.others row && filter.deletedAt.all fun admits => admits (model.deletedAt row)

namespace PrismaService

/-- The models whose reads the extension filters. -/
def modelsWithSoftDelete : List PrismaModel := [.organization, .space, .knowledgeItem]

/-- The extension. A read that has the key already goes through as it is. -/
def allOperations (model : PrismaModel) (operation : PrismaOperation) (filter : Where model) :
    Where model :=
  if model ∈ modelsWithSoftDelete ∧
      operation ∈ [PrismaOperation.findUnique, .findFirst, .findMany, .count] ∧
      filter.deletedAt.isNone then
    { filter with deletedAt := some fun deletedAt => deletedAt.isNone }
  else filter

variable (db : CoreDb) {model : PrismaModel}

/-- The rows of a model that pass, through the extension. -/
def findMany (filter : Where model) : List model.Row :=
  (model.table db).filter (allOperations model .findMany filter).Admits

/-- The first row of a model that passes, through the extension. -/
def findFirst (filter : Where model) : Option model.Row :=
  (model.table db).find? (allOperations model .findFirst filter).Admits

variable {db} {filter : Where model}

/-- A read of one of the three models that does not ask for deleted rows returns none. -/
theorem admits_iff_live {operation : PrismaOperation} (listed : model ∈ modelsWithSoftDelete)
    (reads : operation ∈ [PrismaOperation.findUnique, .findFirst, .findMany, .count])
    (silent : filter.deletedAt = none) (row : model.Row) :
    (allOperations model operation filter).Admits row ↔
      filter.others row ∧ model.deletedAt row = none := by
  simp [allOperations, listed, reads, silent, Where.Admits]

theorem mem_findMany_iff_live (listed : model ∈ modelsWithSoftDelete)
    (silent : filter.deletedAt = none) {row : model.Row} :
    row ∈ findMany db filter ↔
      row ∈ model.table db ∧ filter.others row ∧ model.deletedAt row = none := by
  rw [findMany, List.mem_filter, admits_iff_live listed (by decide) silent]

theorem findFirst_live (listed : model ∈ modelsWithSoftDelete) (silent : filter.deletedAt = none)
    {row : model.Row} (first : findFirst db filter = some row) :
    row ∈ model.table db ∧ filter.others row ∧ model.deletedAt row = none := by
  rw [findFirst] at first
  refine ⟨List.mem_of_find?_eq_some first, ?_⟩
  exact (admits_iff_live listed (by decide) silent row).mp (List.find?_some first)

/-- The other models are read as asked. -/
theorem findMany_asked (db : CoreDb) (unlisted : model ∉ modelsWithSoftDelete)
    (others : model.Row → Bool) :
    findMany db (⟨others, none⟩ : Where model) = (model.table db).filter others := by
  refine List.filter_congr fun row _ => ?_
  simp [allOperations, unlisted, Where.Admits]

end PrismaService

/-- An organization as its member sees it. -/
structure MyOrgDto where
  orgId : String
  name : String
  slug : String
  role : OrgRole
  joinedAt : ℤ
deriving DecidableEq

/-- An organization as the platform administration sees it. -/
structure OrgSummaryDto where
  id : String
  name : String
  slug : String
  seatLimit : ℕ
  createdAt : ℤ
  memberCount : ℕ
deriving DecidableEq

/-- `orderBy: { ...: 'asc' }` -/
def ascending {Row : Type} (by_ : Row → ℤ) (rows : List Row) : List Row :=
  rows.insertionSort fun left right => by_ left ≤ by_ right

open PrismaService

/-- The organization is included through the relation, deleted or not. -/
def Tenant.PrismaMembershipQueryRepository.findOrgsByUserId (db : CoreDb) (userId : String) :
    List MyOrgDto :=
  let filter : Where .membership := ⟨fun row => row.userId = userId, none⟩
  (ascending Membership.joinedAt (findMany db filter)).filterMap fun row =>
    (db.tenant.organizations.get? row.orgId).map fun org =>
      { orgId := row.orgId
        name := org.name
        slug := org.slug
        role := row.role
        joinedAt := row.joinedAt }

/-- All organizations that are not archived, the latest first. -/
def PrismaSystemAdminQueryRepository.listAllOrgs (db : CoreDb) (limit offset : ℤ) :
    Except QueryError (List OrgSummaryDto) := do
  let filter : Where .organization := ⟨fun _ => true, some fun deletedAt => deletedAt.isNone⟩
  let rows ← page limit offset (descending Organization.createdAt (findMany db filter))
  return rows.map fun row =>
    { id := row.id
      name := row.name
      slug := row.slug
      seatLimit := row.seatLimit
      createdAt := row.createdAt
      memberCount := db.tenant.memberships.values.countP fun membership =>
        membership.orgId = row.id }

/-- Items and organizations stand under their ids. -/
structure DeletableKeyed (db : CoreDb) : Prop where
  organizations : db.tenant.organizations.All fun id org => org.id = id
  items : db.knowledge.items.All fun id row => row.id = id

theorem DeletableKeyed.apply {db : CoreDb} (keyed : DeletableKeyed db) (write : CoreWrite) :
    DeletableKeyed (coreEngine.apply db write) := by
  cases write with
  | tenant write =>
      cases write with
      | putOrganization org => exact ⟨keyed.organizations.set rfl, keyed.items⟩
      | _ => exact ⟨keyed.organizations, keyed.items⟩
  | knowledge write =>
      cases write with
      | putItem row => exact ⟨keyed.organizations, keyed.items.set rfl⟩
      | _ => exact ⟨keyed.organizations, keyed.items⟩
  | engagement write => exact ⟨keyed.organizations, keyed.items⟩
  | credit now write => cases write <;> exact ⟨keyed.organizations, keyed.items⟩

/-- What a record is about. -/
inductive Subject where
  | item (id : String)
  | organization (id : String)
deriving DecidableEq

/-- The row is there, and its `deletedAt` is set. -/
def Subject.SoftDeleted (db : CoreDb) : Subject → Prop
  | item id => ∃ row, db.knowledge.items.get? id = some row ∧ row.deletedAt ≠ none
  | organization id => Archived db.tenant id

section Rows

variable {db : CoreDb}

/-- A row that is not deleted is the row of its id. -/
theorem DeletableKeyed.item_live (keyed : DeletableKeyed db) {row : KnowledgeItemRow}
    (member : row ∈ db.knowledge.items.values) (live : row.deletedAt = none) :
    ¬ (Subject.item row.id).SoftDeleted db := by
  rintro ⟨other, stored, deleted⟩
  rw [keyed.items.get?_of_mem member] at stored
  cases stored
  exact deleted live

theorem DeletableKeyed.organization_live (keyed : DeletableKeyed db) {org : Organization}
    (member : org ∈ db.tenant.organizations.values) (live : org.deletedAt = none) :
    ¬ (Subject.organization org.id).SoftDeleted db := by
  rintro ⟨other, stored, deleted⟩
  rw [keyed.organizations.get?_of_mem member] at stored
  cases stored
  exact deleted live

theorem mem_of_page {Row : Type} {take skip : ℤ} {rows shown : List Row} {row : Row}
    (paged : page take skip rows = .ok shown) (member : row ∈ shown) : row ∈ rows := by
  rw [page] at paged
  split at paged
  · cases paged
  · split at paged
    · cases paged
      have among := List.mem_of_mem_take (List.mem_reverse.mp member)
      exact List.mem_reverse.mp (List.mem_of_mem_drop among)
    · cases paged
      exact List.mem_of_mem_drop (List.mem_of_mem_take member)

theorem mem_descending {Row : Type} {by_ : Row → ℤ} {rows : List Row} {row : Row} :
    row ∈ descending by_ rows ↔ row ∈ rows :=
  List.mem_insertionSort _

/-- A page that is read is the rows of a page, changed one by one. -/
theorem mem_of_page_map {Row Dto : Type} {take skip : ℤ} {by_ : Row → ℤ} {rows : List Row}
    {change : Row → Dto} {shown : List Dto} {dto : Dto}
    (read : (do
      let rows ← page take skip (descending by_ rows)
      return rows.map change) = Except.ok shown) (member : dto ∈ shown) :
    ∃ row ∈ rows, dto = change row := by
  cases paged : page take skip (descending by_ rows) with
  | error error =>
      rw [paged] at read
      cases read
  | ok some =>
      rw [paged] at read
      cases read
      rcases List.mem_map.mp member with ⟨row, among, rfl⟩
      exact ⟨row, mem_descending.mp (mem_of_page paged among), rfl⟩

end Rows

section Client

variable (db : CoreDb)

def KnowledgeListItemDto.ofRow (row : KnowledgeItemRow) : KnowledgeListItemDto where
  id := row.id
  type := row.type
  title := row.title
  status := row.status
  isVerified := row.isVerified
  version := row.version
  updatedAt := row.updatedAt

def FeedItemDto.ofRow (row : KnowledgeItemRow) : FeedItemDto where
  itemId := row.id
  spaceId := row.spaceId
  type := row.type
  title := row.title
  createdByUserId := row.createdByUserId
  createdAt := row.createdAt

def RevisionDto.ofRow (row : Revision) : RevisionDto where
  id := row.id
  version := row.version
  editedByUserId := row.editedByUserId
  createdAt := row.createdAt

theorem findMany_items (others : KnowledgeItemRow → Prop) [DecidablePred others] :
    findMany db (⟨fun row => others row, none⟩ : Where .knowledgeItem) =
      db.knowledge.items.values.filter fun row => others row ∧ row.deletedAt = none := by
  refine List.filter_congr fun row _ => Bool.eq_iff_iff.mpr ?_
  rw [admits_iff_live (by decide) (by decide) rfl]
  simp [PrismaModel.deletedAt]

theorem findItems_client (orgId : String) (filter : ItemFilter) (limit offset : ℤ) :
    PrismaKnowledgeQueryRepository.findItems db orgId filter limit offset = (do
      let rows ← page limit offset (descending (fun row => row.updatedAt) (findMany db
        (⟨fun row => row.orgId = orgId ∧ filter.Admits row, none⟩ : Where .knowledgeItem)))
      return rows.map .ofRow) := by
  rw [findMany_items]
  simp only [and_assoc]
  rfl

theorem findRevisionsByItemId_client (itemId orgId : String) :
    PrismaKnowledgeQueryRepository.findRevisionsByItemId db itemId orgId =
      (descending (fun row => row.version) (findMany db
        (⟨fun row => row.itemId = itemId ∧ (db.knowledge.items.get? row.itemId).any
          fun item => item.orgId = orgId, none⟩ : Where .revision))).map .ofRow := by
  rw [findMany_asked db (by decide)]
  rfl

theorem getFeed_client {orgId userId : String} {follows : List Follow}
    (found : findMany db (⟨fun row => row.orgId = orgId ∧ row.userId = userId ∧
      row.targetType = .space, none⟩ : Where .follow) = follows) (limit offset : ℤ) :
    PrismaFeedQueryRepository.getFeed db orgId userId limit offset =
      if follows = [] then .ok [] else do
        let rows ← page limit offset (descending (fun row => row.createdAt) (findMany db
          (⟨fun row => row.orgId = orgId ∧ row.spaceId ∈ follows.map Follow.targetId ∧
            row.status = .published, none⟩ : Where .knowledgeItem)))
        return rows.map .ofRow := by
  rw [findMany_asked db (by decide)] at found
  subst found
  rw [findMany_items]
  simp only [and_assoc]
  rfl

variable {db}

/-- At most one row has the id. -/
theorem findFirst_item (keyed : DeletableKeyed db) (id orgId : String) :
    findFirst db (⟨fun row => row.id = id ∧ row.orgId = orgId, none⟩ : Where .knowledgeItem) =
      (db.knowledge.items.get? id).filter fun row => row.orgId = orgId ∧ row.deletedAt = none := by
  have admits : ∀ row : KnowledgeItemRow,
      (allOperations .knowledgeItem .findFirst
        ⟨fun row => row.id = id ∧ row.orgId = orgId, none⟩).Admits row ↔
        row.id = id ∧ row.orgId = orgId ∧ row.deletedAt = none := by
    intro row
    rw [admits_iff_live (by decide) (by decide) rfl]
    simp [PrismaModel.deletedAt, and_assoc]
  cases first : findFirst db (⟨fun row => row.id = id ∧ row.orgId = orgId, none⟩ :
      Where .knowledgeItem) with
  | some row =>
      rcases (admits row).mp (List.find?_some first) with ⟨rfl, kept⟩
      rw [keyed.items.get?_of_mem (List.mem_of_find?_eq_some first), Option.filter_some,
        if_pos (decide_eq_true kept)]
  | none =>
      symm
      rw [Option.filter_eq_none_iff]
      intro row found kept
      have member := OrderedMap.mem_values.mpr ⟨id, found⟩
      exact List.find?_eq_none.mp first row member ((admits row).mpr ⟨keyed.items id row found,
        of_decide_eq_true kept⟩)

theorem findItemById_client (keyed : DeletableKeyed db) (id orgId : String) :
    PrismaKnowledgeItemRepository.findFirst db.knowledge id orgId =
      (findFirst db (⟨fun row => row.id = id ∧ row.orgId = orgId, none⟩ :
        Where .knowledgeItem)).map KnowledgeItemRow.toKnowledgeItem := by
  rw [findFirst_item keyed]
  rfl

end Client

/-- The reads of the query repositories. -/
inductive Read where
  | getItem (id orgId : String)
  | listItems (orgId : String) (filter : ItemFilter) (limit offset : ℤ)
  | listRevisions (itemId orgId : String)
  | getFeed (orgId userId : String) (limit offset : ℤ)
  | listMyOrgs (userId : String)
  | listAllOrgs (limit offset : ℤ)

/-- What the reads return; a revision comes with the item it was asked for. -/
inductive Record where
  | item (item : KnowledgeItemDto)
  | listItem (item : KnowledgeListItemDto)
  | revision (itemId : String) (revision : RevisionDto)
  | feedItem (item : FeedItemDto)
  | myOrg (org : MyOrgDto)
  | orgSummary (org : OrgSummaryDto)
deriving DecidableEq

/-- What a record tells of. -/
def Record.subject : Record → Subject
  | .item dto => .item dto.id
  | .listItem dto => .item dto.id
  | .revision itemId _ => .item itemId
  | .feedItem dto => .item dto.itemId
  | .myOrg dto => .organization dto.orgId
  | .orgSummary dto => .organization dto.id

/-- What a read returns. -/
def Read.execute (db : CoreDb) : Read → Except QueryError (List Record)
  | getItem id orgId =>
      .ok ((PrismaKnowledgeQueryRepository.findItemById db id orgId).toList.map .item)
  | listItems orgId filter limit offset => .map (List.map .listItem)
      (PrismaKnowledgeQueryRepository.findItems db orgId filter limit offset)
  | listRevisions itemId orgId => .ok
      ((PrismaKnowledgeQueryRepository.findRevisionsByItemId db itemId orgId).map
        (.revision itemId))
  | getFeed orgId userId limit offset => .map (List.map .feedItem)
      (PrismaFeedQueryRepository.getFeed db orgId userId limit offset)
  | listMyOrgs userId => .ok
      ((PrismaMembershipQueryRepository.findOrgsByUserId db userId).map .myOrg)
  | listAllOrgs limit offset => .map (List.map .orgSummary)
      (PrismaSystemAdminQueryRepository.listAllOrgs db limit offset)

/-- The record is among those a read returns. -/
def Read.Returns (db : CoreDb) (read : Read) (record : Record) : Prop :=
  ∃ records, read.execute db = .ok records ∧ record ∈ records

/-- The reads that come to a row through a relation: the revisions of an item of the organization,
and the organizations of a member. -/
def Read.Reaches (db : CoreDb) : Read → Subject → Prop
  | listRevisions itemId orgId, .item id =>
      itemId = id ∧ (∃ row, db.knowledge.items.get? id = some row ∧ row.orgId = orgId) ∧
        ∃ revision ∈ db.knowledge.revisions, revision.itemId = id
  | listMyOrgs userId, .organization id =>
      ∃ membership ∈ db.tenant.memberships.values,
        membership.userId = userId ∧ membership.orgId = id
  | _, _ => False

section Visibility

variable {db : CoreDb} {record : Record}

theorem mem_of_map_ok {Dto : Type} {change : Dto → Record} {result : Except QueryError (List Dto)}
    {records : List Record} (read : result.map (List.map change) = .ok records)
    (member : record ∈ records) :
    ∃ shown dto, result = .ok shown ∧ dto ∈ shown ∧ change dto = record := by
  cases result with
  | error error => cases read
  | ok shown =>
      cases read
      rcases List.mem_map.mp member with ⟨dto, among, same⟩
      exact ⟨shown, dto, rfl, among, same⟩

theorem getItem_live (keyed : DeletableKeyed db) {id orgId : String}
    (returns : (Read.getItem id orgId).Returns db record) : ¬ record.subject.SoftDeleted db := by
  rcases returns with ⟨_, ⟨⟩, member⟩
  rcases List.mem_map.mp member with ⟨item, found, rfl⟩
  rw [Option.mem_toList, PrismaKnowledgeQueryRepository.findItemById, findItemById_client keyed,
    Option.map_map] at found
  rcases Option.map_eq_some_iff.mp found with ⟨row, first, rfl⟩
  have live := findFirst_live (by decide) rfl first
  exact keyed.item_live live.1 live.2.2

theorem listItems_live (keyed : DeletableKeyed db) {orgId : String} {filter : ItemFilter}
    {limit offset : ℤ} (returns : (Read.listItems orgId filter limit offset).Returns db record) :
    ¬ record.subject.SoftDeleted db := by
  rcases returns with ⟨records, read, member⟩
  rcases mem_of_map_ok read member with ⟨shown, item, paged, among, rfl⟩
  rw [findItems_client] at paged
  rcases mem_of_page_map paged among with ⟨row, found, rfl⟩
  have live := (mem_findMany_iff_live (by decide) rfl).mp found
  exact keyed.item_live live.1 live.2.2

theorem getFeed_live (keyed : DeletableKeyed db) {orgId userId : String} {limit offset : ℤ}
    (returns : (Read.getFeed orgId userId limit offset).Returns db record) :
    ¬ record.subject.SoftDeleted db := by
  rcases returns with ⟨records, read, member⟩
  rcases mem_of_map_ok read member with ⟨shown, item, paged, among, rfl⟩
  rw [getFeed_client db rfl] at paged
  split at paged
  · cases paged
    cases among
  · rcases mem_of_page_map paged among with ⟨row, found, rfl⟩
    have live := (mem_findMany_iff_live (by decide) rfl).mp found
    exact keyed.item_live live.1 live.2.2

/-- The condition under the key is the query's own, and the extension leaves it. -/
theorem listAllOrgs_live (keyed : DeletableKeyed db) {limit offset : ℤ}
    (returns : (Read.listAllOrgs limit offset).Returns db record) :
    ¬ record.subject.SoftDeleted db := by
  rcases returns with ⟨records, read, member⟩
  rcases mem_of_map_ok read member with ⟨shown, org, paged, among, rfl⟩
  rcases mem_of_page_map paged among with ⟨row, found, rfl⟩
  rcases List.mem_filter.mp found with ⟨stored, admits⟩
  refine keyed.organization_live stored ?_
  simpa [allOperations, Where.Admits, PrismaModel.deletedAt] using admits

/-- The revisions of an item are returned whether the item is deleted or not. -/
theorem listRevisions_returns_iff {itemId orgId : String} {subject : Subject} :
    (∃ record, (Read.listRevisions itemId orgId).Returns db record ∧ record.subject = subject) ↔
      (Read.listRevisions itemId orgId).Reaches db subject := by
  have rows : ∀ dto, dto ∈ PrismaKnowledgeQueryRepository.findRevisionsByItemId db itemId orgId ↔
      ∃ row ∈ db.knowledge.revisions, (row.itemId = itemId ∧
        ∃ item, db.knowledge.items.get? row.itemId = some item ∧ item.orgId = orgId) ∧
          RevisionDto.ofRow row = dto := by
    intro dto
    rw [findRevisionsByItemId_client, findMany_asked db (by decide)]
    simp [mem_descending, PrismaModel.table, Option.any_eq_true, and_assoc]
  constructor
  · rintro ⟨_, ⟨_, ⟨⟩, member⟩, rfl⟩
    rcases List.mem_map.mp member with ⟨dto, among, rfl⟩
    rcases (rows dto).mp among with ⟨row, stored, ⟨rfl, item⟩, -⟩
    exact ⟨rfl, item, row, stored, rfl⟩
  · intro reaches
    cases subject with
    | organization id => exact reaches.elim
    | item id =>
        rcases reaches with ⟨rfl, item, row, stored, rfl⟩
        refine ⟨.revision row.itemId (.ofRow row), ⟨_, rfl, List.mem_map_of_mem ?_⟩, rfl⟩
        exact (rows _).mpr ⟨row, stored, ⟨rfl, item⟩, rfl⟩

/-- The organizations of a member are returned whether they are archived or not. -/
theorem listMyOrgs_returns_iff {userId : String} {subject : Subject}
    (deleted : subject.SoftDeleted db) :
    (∃ record, (Read.listMyOrgs userId).Returns db record ∧ record.subject = subject) ↔
      (Read.listMyOrgs userId).Reaches db subject := by
  have rows : ∀ row : Membership, row ∈ ascending Membership.joinedAt
      (findMany db (⟨fun row => row.userId = userId, none⟩ : Where .membership)) ↔
      row ∈ db.tenant.memberships.values ∧ row.userId = userId := by
    intro row
    rw [ascending, List.mem_insertionSort, findMany_asked db (by decide)]
    simp [PrismaModel.table]
  constructor
  · rintro ⟨_, ⟨_, ⟨⟩, member⟩, rfl⟩
    rcases List.mem_map.mp member with ⟨dto, among, rfl⟩
    rcases List.mem_filterMap.mp among with ⟨row, found, included⟩
    rcases Option.map_eq_some_iff.mp included with ⟨org, -, rfl⟩
    rcases (rows row).mp found with ⟨stored, user⟩
    exact ⟨row, stored, user, rfl⟩
  · intro reaches
    cases subject with
    | item id => exact reaches.elim
    | organization id =>
        rcases reaches with ⟨row, stored, user, rfl⟩
        rcases deleted with ⟨org, found, -⟩
        have included : (⟨row.orgId, org.name, org.slug, row.role, row.joinedAt⟩ : MyOrgDto) ∈
            PrismaMembershipQueryRepository.findOrgsByUserId db userId := by
          apply List.mem_filterMap.mpr
          refine ⟨row, (rows row).mpr ⟨stored, user⟩, ?_⟩
          rw [found, Option.map_some]
        exact ⟨_, ⟨_, rfl, List.mem_map_of_mem included⟩, rfl⟩

/-- A read returns a record of something deleted exactly when it comes to it through a relation. -/
theorem DeletableKeyed.returns_iff (keyed : DeletableKeyed db) {subject : Subject}
    (deleted : subject.SoftDeleted db) (read : Read) :
    (∃ record, read.Returns db record ∧ record.subject = subject) ↔ read.Reaches db subject := by
  have live : ∀ {read : Read}, (∀ record, read.Returns db record →
      ¬ record.subject.SoftDeleted db) →
      ¬ ∃ record, read.Returns db record ∧ record.subject = subject := by
    rintro read live ⟨record, returns, rfl⟩
    exact live record returns deleted
  cases read with
  | getItem itemId orgId => exact iff_of_false (live fun _ => getItem_live keyed) not_false
  | listItems orgId filter limit offset =>
      exact iff_of_false (live fun _ => listItems_live keyed) not_false
  | listRevisions itemId orgId => exact listRevisions_returns_iff
  | getFeed orgId userId limit offset =>
      exact iff_of_false (live fun _ => getFeed_live keyed) not_false
  | listMyOrgs userId => exact listMyOrgs_returns_iff deleted
  | listAllOrgs limit offset => exact iff_of_false (live fun _ => listAllOrgs_live keyed) not_false

end Visibility

variable {catalog : PermissionCatalog} {commands : ℕ → CoreCommand}
  {state : Workload.State ℕ CoreDb CoreWrite CoreError CoreReply}

theorem deletableKeyed_of_reachable
    (reached : (coreWorkload catalog commands).system.Reachable state) :
    DeletableKeyed state.db := by
  refine Workload.inv_of_apply ?_ ?_ (fun db write keyed => keyed.apply write) reached
  · rintro db rfl
    exact ⟨OrderedMap.All.empty, OrderedMap.All.empty⟩
  · exact fun db next _ change => change.elim

/-- In every reachable state the reads return no record of a deleted item or an archived
organization, except those that come to it through a relation. -/
theorem soft_deleted_hidden_iff (reached : (coreWorkload catalog commands).system.Reachable state)
    {subject : Subject} (deleted : subject.SoftDeleted state.db) (read : Read) :
    (∀ record, read.Returns state.db record → record.subject ≠ subject) ↔
      ¬ read.Reaches state.db subject := by
  have returns := (deletableKeyed_of_reachable reached).returns_iff deleted read
  rw [← returns]
  simp only [not_exists, not_and, ne_eq]

section Guide

/-- The guide as it was created. -/
def guide : KnowledgeItemRow :=
  createdRow ⟨some "org-1", "guide", 1, 1⟩ ⟨"org-1", "space", .document, "Guide", "", none, "alice"⟩

/-- The guide after its edit. -/
def guideEdited : KnowledgeItemRow :=
  { guide with
    body := "Steps"
    updatedByUserId := some "alice"
    version := 2
    updatedAt := 2 }

/-- The revision of the edit. -/
def guideRevision : Revision := ⟨"revision", "guide", 2, "Steps", "alice", 2⟩

/-- The guide once it is deleted. -/
def guideDeleted : KnowledgeItemRow := { guideEdited with deletedAt := some 3, updatedAt := 3 }

/-- An organization and a guide that are made, and deleted after the guide was edited. -/
def guideCommands : ℕ → CoreCommand
  | 0 => .tenant acmeCreated.1 acmeCreated.2
  | 1 => .knowledge ⟨some "org-1", "guide", 1, 1⟩
      (.create ⟨"org-1", "space", .document, "Guide", "", none, "alice"⟩)
  | 2 => .knowledge ⟨some "org-1", "revision", 2, 2⟩
      (.update ⟨"guide", 1, "Guide", "Steps", "alice"⟩)
  | 3 => .knowledge ⟨some "org-1", "", 3, 3⟩ (.delete ⟨"guide"⟩)
  | _ => .tenant acmeArchived.1 acmeArchived.2

/-- The database after all five commands. -/
def guideDb : CoreDb :=
  [acmeWrites.map CoreWrite.tenant, [.knowledge (.putItem guide)],
    [.knowledge (.putItem guideEdited), .knowledge (.insertRevision guideRevision)],
    [.knowledge (.putItem guideDeleted)], [.tenant (.putOrganization archivedAcme)]].foldl
    coreEngine.view .empty

theorem reachable_guide : ∃ state,
    (coreWorkload namedCatalog guideCommands).system.Reachable state ∧ state.db = guideDb := by
  let workload := coreWorkload namedCatalog guideCommands
  have start : workload.system.Reachable ⟨.empty, [], fun _ => .idle⟩ :=
    .initial ⟨rfl, rfl, fun _ => rfl⟩
  have founded := Workload.reachable_commit start 0 (.inl rfl) (fun _ _ => rfl)
    (.of_all (fun _ _ => trivial) _ _ _)
    (show _ = Except.ok (CoreReply.tenant (.id "org-1"), acmeWrites.map CoreWrite.tenant) by
      decide +kernel)
  have written := Workload.reachable_commit founded 1 (.inl rfl)
    (fun other _ => by rcases other with _ | _ <;> rfl) (.of_all (fun _ _ => trivial) _ _ _)
    (show _ = Except.ok (CoreReply.knowledge (some "guide"),
      [CoreWrite.knowledge (.putItem guide)]) by decide +kernel)
  have edited := Workload.reachable_commit written 2 (.inl rfl)
    (fun other _ => by rcases other with _ | _ | _ <;> rfl) (.of_all (fun _ _ => trivial) _ _ _)
    (show _ = Except.ok (CoreReply.knowledge none, [CoreWrite.knowledge (.putItem guideEdited),
      CoreWrite.knowledge (.insertRevision guideRevision)]) by decide +kernel)
  have deleted := Workload.reachable_commit edited 3 (.inl rfl)
    (fun other _ => by rcases other with _ | _ | _ | _ <;> rfl)
    (.of_all (fun _ _ => trivial) _ _ _)
    (show _ = Except.ok (CoreReply.knowledge none,
      [CoreWrite.knowledge (.putItem guideDeleted)]) by decide +kernel)
  have archived := Workload.reachable_commit deleted 4 (.inl rfl)
    (fun other _ => by rcases other with _ | _ | _ | _ | _ <;> rfl)
    (.of_all (fun _ _ => trivial) _ _ _)
    (show _ = Except.ok (CoreReply.tenant .done,
      [CoreWrite.tenant (.putOrganization archivedAcme)]) by decide +kernel)
  exact ⟨_, archived, rfl⟩

theorem guide_deleted : (Subject.item "guide").SoftDeleted guideDb :=
  ⟨guideDeleted, by decide +kernel, by decide⟩

theorem acme_archived : (Subject.organization "org-1").SoftDeleted guideDb :=
  ⟨archivedAcme, by decide +kernel, by decide⟩

theorem soft_deleted_hidden_iff_guide :
    (Subject.item "guide").SoftDeleted guideDb ∧
      ∀ record, (Read.getItem "guide" "org-1").Returns guideDb record →
        record.subject ≠ .item "guide" := by
  rcases reachable_guide with ⟨state, reached, same⟩
  refine ⟨guide_deleted, ?_⟩
  rw [← same]
  exact (soft_deleted_hidden_iff reached (same ▸ guide_deleted) _).mpr not_false

/-- The revisions of the deleted guide are listed, and the archived organization is listed among
those of its founder. -/
theorem soft_deleted_shown : ∃ state,
    (coreWorkload namedCatalog guideCommands).system.Reachable state ∧
    (Subject.item "guide").SoftDeleted state.db ∧
    (Read.listRevisions "guide" "org-1").Returns state.db
      (.revision "guide" ⟨"revision", 2, "alice", 2⟩) ∧
    (Subject.organization "org-1").SoftDeleted state.db ∧
    (Read.listMyOrgs "alice").Returns state.db (.myOrg ⟨"org-1", "Acme", "acme", .owner, 0⟩) := by
  rcases reachable_guide with ⟨state, reached, same⟩
  refine ⟨state, reached, same ▸ guide_deleted, ?_, same ▸ acme_archived, ?_⟩
  · rw [same]
    exact ⟨_, rfl, by decide +kernel⟩
  · rw [same]
    exact ⟨_, rfl, by decide +kernel⟩

end Guide

end CoreApi
