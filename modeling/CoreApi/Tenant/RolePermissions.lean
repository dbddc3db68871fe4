import CoreApi.Tenant.Founder

/-!
# Replacing the permissions of a role at the same time

A replacement is a DELETE of the rows of the role followed by an INSERT. The
DELETE finds its rows when it starts, so rows that another replacement commits
after that survive it, and the role ends up with the permissions of both. A
replacement that deletes every row its role has when it commits leaves exactly
its own.
-/

namespace CoreApi.Tenant

open PrismaOrgRolePermissionRepository

/-- The permissions of a role, without the numbers of their rows. -/
def permissionsOf (db : TenantDb) (orgId : String) (role : OrgRole) : List OrgRolePermission :=
  db.permissions.filter fun row => row.OfRole orgId role

namespace UpdateRolePermissionsCommand

/-- The set a command asks for. -/
def replacement (command : UpdateRolePermissionsCommand) : List OrgRolePermission :=
  (newSet command.permissions).map fun permission => ⟨command.orgId, command.role, permission⟩

/-- The command replaces the permissions of this role. -/
def On (orgId : String) (role : OrgRole) (command : UpdateRolePermissionsCommand) : Prop :=
  command.orgId = orgId ∧ command.role = role

instance (orgId : String) (role : OrgRole) (command : UpdateRolePermissionsCommand) :
    Decidable (command.On orgId role) :=
  inferInstanceAs (Decidable (command.orgId = orgId ∧ command.role = role))

end UpdateRolePermissionsCommand

/-- Rows come with new identities and do not change: an old identity stands for the same row. -/
structure Later (db now : TenantDb) : Prop where
  older : db.nextRowId ≤ now.nextRowId
  same : ∀ row ∈ now.rolePermissions, row.rowId < db.nextRowId → row ∈ db.rolePermissions

namespace Later

theorem refl (db : TenantDb) : Later db db := ⟨le_rfl, fun _ member _ => member⟩

theorem trans {db now later : TenantDb} (first : Later db now) (second : Later now later) :
    Later db later where
  older := first.older.trans second.older
  same row member old :=
    first.same row (second.same row member (old.trans_le first.older)) old

theorem apply (db : TenantDb) (write : TenantWrite) : Later db (tenantEngine.apply db write) := by
  cases write with
  | insertPermission permission =>
      refine ⟨Nat.le_succ _, fun row member old => ?_⟩
      rcases List.mem_append.mp member with stored | new
      · exact stored
      · rw [List.mem_singleton.mp new] at old
        exact absurd old (lt_irrefl _)
  | deletePermission row => exact ⟨le_rfl, fun stored member _ => List.mem_of_mem_filter member⟩
  | _ => exact ⟨le_rfl, fun _ member _ => member⟩

theorem view (db : TenantDb) (writes : List TenantWrite) :
    Later db (tenantEngine.view db writes) :=
  Engine.view_keeps (Later db) (refl db) fun write _ now later => later.trans (apply now write)

end Later

/-- Permissions are numbered, and numbers grow. -/
def replaceAssumptions : Assumptions TenantDb TenantWrite where
  Inv := Numbered
  Rely _ := Later
  refl _ := Later.refl
  trans := Later.trans

/-- A row that was stored once: whatever is stored under its identity is that row. -/
structure Known (db : TenantDb) (row : StoredPermission) : Prop where
  old : row.rowId < db.nextRowId
  only : ∀ stored ∈ db.rolePermissions, stored.rowId = row.rowId → stored = row

theorem Known.later {db now : TenantDb} {row : StoredPermission} (known : Known db row)
    (later : Later db now) : Known now row where
  old := known.old.trans_le later.older
  only stored member same :=
    known.only stored (later.same stored member (same ▸ known.old)) same

theorem Numbered.known {db : TenantDb} (numbered : Numbered db) {row : StoredPermission}
    (member : row ∈ db.rolePermissions) : Known db row where
  old := numbered.below row member
  only _ stored same := List.inj_on_of_nodup_map numbered.distinct stored member same

/-- What a replacement has written when it is about to commit. -/
def Replaces (command : UpdateRolePermissionsCommand) (pending : List TenantWrite)
    (db : TenantDb) : Prop :=
  ∃ deleted : List StoredPermission,
    pending = deleted.map .deletePermission ++ command.replacement.map .insertPermission ∧
    ∀ row ∈ deleted, row.OfRole command.orgId command.role ∧ Known db row

section Bodies

variable {catalog : PermissionCatalog} {command : UpdateRolePermissionsCommand}
  {permits : List TenantDb → TenantDb → Prop} {db : TenantDb}

theorem deleteMany_ends {post : Unit → List TenantDb → List TenantWrite → TenantDb → Prop}
    {orgId : String} {role : OrgRole}
    (ends : ∀ (deleted : List StoredPermission) now,
      (∀ row ∈ deleted, row.OfRole orgId role ∧ Known now row) → ∀ seen,
        post () seen (deleted.map .deletePermission) now) :
    replaceAssumptions.Ends tenantEngine permits post (deleteMany orgId role) [] [] db := by
  refine Assumptions.Ends.bind (Assumptions.Ends.read fun first _ numbered => ?_)
  apply Assumptions.Ends.execute
  intro now later _ _ writes _ ran
  cases ran
  refine ends _ _ (fun row member => ?_) _
  rcases List.mem_filter.mp (List.mem_of_mem_filter member) with ⟨stored, ofRole⟩
  exact ⟨of_decide_eq_true ofRole, (numbered.known stored).later later⟩

theorem updateRolePermissions_ends :
    replaceAssumptions.Ends tenantEngine permits (fun _ _ pending db => Replaces command pending db)
      (UpdateRolePermissionsHandler.execute catalog command) [] [] db := by
  refine Assumptions.Ends.bind (throwIf_ends fun _ => ?_)
  dsimp only
  split
  · exact Assumptions.Ends.fail _
  · refine Assumptions.Ends.bind (deleteMany_ends fun deleted now known seen => ?_)
    split
    · apply Assumptions.Ends.execute
      intro now' later _ _ writes _ ran
      split at ran
      · cases ran
      · split at ran
        · cases ran
          exact ⟨deleted, rfl, fun row member =>
            ⟨(known row member).1, (known row member).2.later later⟩⟩
        · cases ran
    · next empty =>
        have none : newSet command.permissions = [] := List.eq_nil_of_length_eq_zero (by omega)
        refine Assumptions.Ends.pure ⟨deleted, ?_, known⟩
        simp [UpdateRolePermissionsCommand.replacement, none]

/-- The rows that stay are those whose identities are not deleted. -/
theorem permissions_of_replaced (deleted : List StoredPermission) :
    (tenantEngine.view db (deleted.map .deletePermission ++
      command.replacement.map .insertPermission)).permissions =
      (db.rolePermissions.filter fun stored =>
        stored.rowId ∉ deleted.map StoredPermission.rowId).map
          StoredPermission.toOrgRolePermission ++ command.replacement := by
  rw [Engine.view_append, (view_insertPermissions _ _).2.2.2.2, TenantDb.permissions,
    (view_deletePermissions db deleted).2.2.2.2]

/-- It leaves every other role alone. -/
theorem Replaces.permissionsOf_off {pending : List TenantWrite}
    (replaces : Replaces command pending db) {orgId : String} {role : OrgRole}
    (off : ¬ command.On orgId role) :
    permissionsOf (tenantEngine.view db pending) orgId role = permissionsOf db orgId role := by
  rcases replaces with ⟨deleted, rfl, known⟩
  rw [permissionsOf, permissions_of_replaced, List.filter_append]
  have foreign : command.replacement.filter (fun row => row.OfRole orgId role) = [] := by
    rw [List.filter_eq_nil_iff]
    intro row member ofRole
    rcases List.mem_map.mp member with ⟨permission, -, rfl⟩
    exact off (of_decide_eq_true ofRole)
  rw [foreign, List.append_nil, permissionsOf, TenantDb.permissions, List.filter_map,
    List.filter_map, List.filter_filter]
  congr 1
  refine List.filter_congr fun row stored => ?_
  simp only [Function.comp_apply, Bool.and_eq_left_iff_imp, decide_eq_true_eq]
  intro ofRole deletes
  rcases List.mem_map.mp deletes with ⟨other, member, same⟩
  rcases known other member with ⟨role', known⟩
  rw [known.only row stored same.symm] at ofRole
  exact off ⟨role'.1.symm.trans ofRole.1, role'.2.symm.trans ofRole.2⟩

end Bodies

variable {catalog : PermissionCatalog} {before : TenantDb}
  {commands : ℕ → UpdateRolePermissionsCommand} {state : ReplaceState}

/-- The default permission of a guest, as it is stored. -/
def guestRow : StoredPermission := ⟨⟨"org-1", .guest, "KNOWLEDGE_READ"⟩, 22⟩

theorem numbered_acmeDb : Numbered acmeDb :=
  (Consistent.of_reachable (@reachable_acme (fun _ _ => True) trivial)).numbered

end CoreApi.Tenant
