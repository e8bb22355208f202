import VirtualStack.Basic
import VirtualStack.Rows

/-!
# The migrated tables

The four tables that the seed migration writes, with the columns and constraints of
`20240330_create_iam_tables.py`. They are not the tables of the mapped classes: the roles
of a tenant are in `tenant_roles`, and an assignment has an id. No other table has rows
that these refer to.
-/

namespace VirtualStack.Migrations

structure TenantRow where
  id : UUID
  createdAt : Time
  updatedAt : Time
  deletedAt : Option Time
  name : String
  slug : String
  description : Option String
  isActive : Bool
  deriving DecidableEq, Repr

structure TenantRoleRow where
  id : UUID
  createdAt : Time
  updatedAt : Time
  deletedAt : Option Time
  name : String
  description : Option String
  isSystemRole : Bool
  tenantId : UUID
  deriving DecidableEq, Repr

structure UserRow where
  id : UUID
  createdAt : Time
  updatedAt : Time
  deletedAt : Option Time
  email : String
  hashedPassword : String
  fullName : Option String
  isActive : Bool
  isSuperuser : Bool
  lastLogin : Option Time
  deriving DecidableEq, Repr

structure UserTenantRoleRow where
  id : UUID
  createdAt : Time
  updatedAt : Time
  userId : UUID
  tenantId : UUID
  tenantRoleId : UUID
  deriving DecidableEq, Repr

structure IamTables where
  tenants : List TenantRow
  tenantRoles : List TenantRoleRow
  users : List UserRow
  userTenantRoles : List UserTenantRoleRow
  deriving DecidableEq, Repr

namespace IamTables

/-! ## Constraints -/

/-- The `String(n)` columns. -/
@[mk_iff] structure Widths (t : IamTables) : Prop where
  tenants : ∀ x ∈ t.tenants, x.name.length ≤ 255 ∧ x.slug.length ≤ 100
  tenantRoles : ∀ x ∈ t.tenantRoles, x.name.length ≤ 255
  users : ∀ x ∈ t.users, x.email.length ≤ 255 ∧ x.hashedPassword.length ≤ 255 ∧
    ∀ n ∈ x.fullName, n.length ≤ 255

/-- Primary keys and `UniqueConstraint`s. -/
@[mk_iff] structure Keys (t : IamTables) : Prop where
  tenantsId : (t.tenants.map (·.id)).Nodup
  uqTenantSlug : (t.tenants.map (·.slug)).Nodup
  tenantRolesId : (t.tenantRoles.map (·.id)).Nodup
  uqTenantRoleName : (t.tenantRoles.map fun x => (x.tenantId, x.name)).Nodup
  usersId : (t.users.map (·.id)).Nodup
  uqUserEmail : (t.users.map (·.email)).Nodup
  userTenantRolesId : (t.userTenantRoles.map (·.id)).Nodup
  uqUserTenantRole :
    (t.userTenantRoles.map fun x => (x.userId, x.tenantId, x.tenantRoleId)).Nodup

@[mk_iff] structure References (t : IamTables) : Prop where
  roleTenant : ∀ x ∈ t.tenantRoles, x.tenantId ∈ t.tenants.map (·.id)
  assignmentUser : ∀ x ∈ t.userTenantRoles, x.userId ∈ t.users.map (·.id)
  assignmentTenant : ∀ x ∈ t.userTenantRoles, x.tenantId ∈ t.tenants.map (·.id)
  assignmentRole : ∀ x ∈ t.userTenantRoles, x.tenantRoleId ∈ t.tenantRoles.map (·.id)

@[mk_iff] structure Valid (t : IamTables) : Prop where
  keys : t.Keys
  references : t.References
  widths : t.Widths

instance (t : IamTables) : Decidable t.Widths := decidable_of_iff _ t.widths_iff.symm
instance (t : IamTables) : Decidable t.Keys := decidable_of_iff _ t.keys_iff.symm
instance (t : IamTables) : Decidable t.References := decidable_of_iff _ t.references_iff.symm
instance (t : IamTables) : Decidable t.Valid := decidable_of_iff _ t.valid_iff.symm

/-! ## Statements -/

def insertTenant (x : TenantRow) (t : IamTables) : IamTables :=
  { t with tenants := t.tenants ++ [x] }

def insertTenantRole (x : TenantRoleRow) (t : IamTables) : IamTables :=
  { t with tenantRoles := t.tenantRoles ++ [x] }

def insertUser (x : UserRow) (t : IamTables) : IamTables := { t with users := t.users ++ [x] }

def insertUserTenantRole (x : UserTenantRoleRow) (t : IamTables) : IamTables :=
  { t with userTenantRoles := t.userTenantRoles ++ [x] }

def deleteUserTenantRoles (userId tenantId : UUID) (t : IamTables) : IamTables :=
  { t with userTenantRoles :=
      t.userTenantRoles.filter fun x => ¬(x.userId = userId ∧ x.tenantId = tenantId) }

/-! Every foreign key says `ondelete="CASCADE"`. -/

def deleteUser (id : UUID) (t : IamTables) : IamTables :=
  { t with
    users := t.users.filter (·.id ≠ id)
    userTenantRoles := t.userTenantRoles.filter (·.userId ≠ id) }

def deleteTenantRole (id : UUID) (t : IamTables) : IamTables :=
  { t with
    tenantRoles := t.tenantRoles.filter (·.id ≠ id)
    userTenantRoles := t.userTenantRoles.filter (·.tenantRoleId ≠ id) }

def deleteTenant (id : UUID) (t : IamTables) : IamTables :=
  let roles := (t.tenantRoles.filter (·.tenantId = id)).map (·.id)
  { t with
    tenants := t.tenants.filter (·.id ≠ id)
    tenantRoles := t.tenantRoles.filter (·.tenantId ≠ id)
    userTenantRoles :=
      t.userTenantRoles.filter fun x => x.tenantId ≠ id ∧ x.tenantRoleId ∉ roles }

/-! ## New rows -/

variable {t : IamTables}

theorem Valid.insertTenant (h : t.Valid) {x : TenantRow} (hid : x.id ∉ t.tenants.map (·.id))
    (hslug : x.slug ∉ t.tenants.map (·.slug)) (hw : x.name.length ≤ 255 ∧ x.slug.length ≤ 100) :
    (t.insertTenant x).Valid := by
  constructor
  · exact { h.keys with
      tenantsId := (Rows.nodup_map_concat h.keys.tenantsId).mpr hid
      uqTenantSlug := (Rows.nodup_map_concat h.keys.uqTenantSlug).mpr hslug }
  · exact { h.references with
      roleTenant := fun y hy => Rows.mem_map_append (h.references.roleTenant y hy)
      assignmentTenant := fun y hy => Rows.mem_map_append (h.references.assignmentTenant y hy) }
  · exact { h.widths with
      tenants := List.forall_mem_append.mpr ⟨h.widths.tenants, List.forall_mem_singleton.mpr hw⟩ }

theorem Valid.insertTenantRole (h : t.Valid) {x : TenantRoleRow}
    (hid : x.id ∉ t.tenantRoles.map (·.id))
    (hname : (x.tenantId, x.name) ∉ t.tenantRoles.map fun y => (y.tenantId, y.name))
    (hten : x.tenantId ∈ t.tenants.map (·.id)) (hw : x.name.length ≤ 255) :
    (t.insertTenantRole x).Valid := by
  constructor
  · exact { h.keys with
      tenantRolesId := (Rows.nodup_map_concat h.keys.tenantRolesId).mpr hid
      uqTenantRoleName := (Rows.nodup_map_concat h.keys.uqTenantRoleName).mpr hname }
  · exact { h.references with
      roleTenant := List.forall_mem_append.mpr
        ⟨h.references.roleTenant, List.forall_mem_singleton.mpr hten⟩
      assignmentRole := fun y hy => Rows.mem_map_append (h.references.assignmentRole y hy) }
  · exact { h.widths with
      tenantRoles :=
        List.forall_mem_append.mpr ⟨h.widths.tenantRoles, List.forall_mem_singleton.mpr hw⟩ }

theorem Valid.insertUser (h : t.Valid) {x : UserRow} (hid : x.id ∉ t.users.map (·.id))
    (hemail : x.email ∉ t.users.map (·.email))
    (hw : x.email.length ≤ 255 ∧ x.hashedPassword.length ≤ 255 ∧
      ∀ n ∈ x.fullName, n.length ≤ 255) : (t.insertUser x).Valid := by
  constructor
  · exact { h.keys with
      usersId := (Rows.nodup_map_concat h.keys.usersId).mpr hid
      uqUserEmail := (Rows.nodup_map_concat h.keys.uqUserEmail).mpr hemail }
  · exact { h.references with
      assignmentUser := fun y hy => Rows.mem_map_append (h.references.assignmentUser y hy) }
  · exact { h.widths with
      users := List.forall_mem_append.mpr ⟨h.widths.users, List.forall_mem_singleton.mpr hw⟩ }

theorem Valid.insertUserTenantRole (h : t.Valid) {x : UserTenantRoleRow}
    (hid : x.id ∉ t.userTenantRoles.map (·.id))
    (hnew : ∀ y ∈ t.userTenantRoles, y.userId ≠ x.userId)
    (huser : x.userId ∈ t.users.map (·.id)) (hten : x.tenantId ∈ t.tenants.map (·.id))
    (hrole : x.tenantRoleId ∈ t.tenantRoles.map (·.id)) : (t.insertUserTenantRole x).Valid := by
  have huq : (x.userId, x.tenantId, x.tenantRoleId) ∉
      t.userTenantRoles.map fun y => (y.userId, y.tenantId, y.tenantRoleId) := by
    intro hm
    obtain ⟨y, hy, he⟩ := List.mem_map.mp hm
    exact hnew y hy (Prod.mk.inj he).1
  refine ⟨?_, ?_, { h.widths with }⟩
  · exact { h.keys with
      userTenantRolesId := (Rows.nodup_map_concat h.keys.userTenantRolesId).mpr hid
      uqUserTenantRole := (Rows.nodup_map_concat h.keys.uqUserTenantRole).mpr huq }
  · exact { h.references with
      assignmentUser := List.forall_mem_append.mpr
        ⟨h.references.assignmentUser, List.forall_mem_singleton.mpr huser⟩
      assignmentTenant := List.forall_mem_append.mpr
        ⟨h.references.assignmentTenant, List.forall_mem_singleton.mpr hten⟩
      assignmentRole := List.forall_mem_append.mpr
        ⟨h.references.assignmentRole, List.forall_mem_singleton.mpr hrole⟩ }

/-! ## Deletes

A key that no row has is not referred to either, so that a delete finds nothing; and a
delete right after the insert of a new row gives the tables before. -/

theorem deleteUserTenantRoles_eq_self {userId : UUID} (tenantId : UUID)
    (hid : userId ∉ t.userTenantRoles.map (·.userId)) :
    t.deleteUserTenantRoles userId tenantId = t := by
  have hrows : t.userTenantRoles.filter
      (fun x => ¬(x.userId = userId ∧ x.tenantId = tenantId)) = t.userTenantRoles := by
    refine List.filter_eq_self.mpr fun x hx => decide_eq_true ?_
    rintro ⟨rfl, -⟩
    exact hid (List.mem_map_of_mem hx)
  rw [deleteUserTenantRoles, hrows]

theorem deleteUserTenantRoles_insert {x : UserTenantRoleRow}
    (hid : x.userId ∉ t.userTenantRoles.map (·.userId)) :
    (t.insertUserTenantRole x).deleteUserTenantRoles x.userId x.tenantId = t := by
  have hx : [x].filter (fun y => ¬(y.userId = x.userId ∧ y.tenantId = x.tenantId)) = [] := by
    simp
  have hrows := congrArg userTenantRoles (deleteUserTenantRoles_eq_self x.tenantId hid)
  rw [deleteUserTenantRoles] at hrows
  rw [deleteUserTenantRoles, insertUserTenantRole]
  dsimp only at hrows ⊢
  rw [List.filter_append, hx, List.append_nil, hrows]

theorem References.deleteUser_eq_self (h : t.References) {id : UUID}
    (hid : id ∉ t.users.map (·.id)) : t.deleteUser id = t := by
  rw [deleteUser, Rows.filter_key_ne hid, Rows.filter_key_ne (Rows.notMem_map h.assignmentUser hid)]

theorem References.deleteUser_insert (h : t.References) {x : UserRow}
    (hid : x.id ∉ t.users.map (·.id)) : (t.insertUser x).deleteUser x.id = t := by
  rw [deleteUser, insertUser, Rows.filter_key_ne_concat hid,
    Rows.filter_key_ne (Rows.notMem_map h.assignmentUser hid)]

theorem References.deleteTenantRole_eq_self (h : t.References) {id : UUID}
    (hid : id ∉ t.tenantRoles.map (·.id)) : t.deleteTenantRole id = t := by
  rw [deleteTenantRole, Rows.filter_key_ne hid,
    Rows.filter_key_ne (Rows.notMem_map h.assignmentRole hid)]

theorem References.deleteTenantRole_insert (h : t.References) {x : TenantRoleRow}
    (hid : x.id ∉ t.tenantRoles.map (·.id)) : (t.insertTenantRole x).deleteTenantRole x.id = t := by
  rw [deleteTenantRole, insertTenantRole, Rows.filter_key_ne_concat hid,
    Rows.filter_key_ne (Rows.notMem_map h.assignmentRole hid)]

theorem References.deleteTenant_eq_self (h : t.References) {id : UUID}
    (hid : id ∉ t.tenants.map (·.id)) : t.deleteTenant id = t := by
  have hroles := Rows.filter_key_ne (Rows.notMem_map h.roleTenant hid)
  have hnone : t.tenantRoles.filter (·.tenantId = id) = [] := by
    refine List.filter_eq_nil_iff.mpr fun x hx => ?_
    simpa using of_decide_eq_true (List.filter_eq_self.mp hroles x hx)
  have hassigned := Rows.filter_key_ne (Rows.notMem_map h.assignmentTenant hid)
  rw [deleteTenant, hnone, Rows.filter_key_ne hid, hroles]
  simp only [List.map_nil, List.not_mem_nil, not_false_eq_true, and_true]
  rw [hassigned]

theorem References.deleteTenant_insert (h : t.References) {x : TenantRow}
    (hid : x.id ∉ t.tenants.map (·.id)) : (t.insertTenant x).deleteTenant x.id = t := by
  -- the cascades find what they find without the new row
  have hrest := h.deleteTenant_eq_self hid
  have hroles := congrArg tenantRoles hrest
  have hassigned := congrArg userTenantRoles hrest
  rw [deleteTenant] at hroles hassigned ⊢
  rw [insertTenant, Rows.filter_key_ne_concat hid]
  dsimp only at hroles hassigned ⊢
  rw [hroles, hassigned]

end IamTables

/-! ## The database -/

structure IamDatabase extends IamTables where
  valid : toIamTables.Valid

namespace IamDatabase

theorem ext_tables {d d' : IamDatabase} (h : d.toIamTables = d'.toIamTables) : d = d' := by
  obtain ⟨t, ht⟩ := d
  obtain ⟨t', ht'⟩ := d'
  obtain rfl : t = t' := h
  rfl

/-- A statement stands if the result meets the constraints. -/
def change (f : IamTables → IamTables) (d : IamDatabase) : Except Exc IamDatabase :=
  if h : (f d.toIamTables).Valid then .ok ⟨f d.toIamTables, h⟩
  else if (f d.toIamTables).Widths then .error .integrityError else .error .dataError

theorem change_eq_ok {f : IamTables → IamTables} {d : IamDatabase}
    (h : (f d.toIamTables).Valid) : d.change f = .ok ⟨f d.toIamTables, h⟩ := dif_pos h

/-- A statement with a known result that meets the constraints. -/
theorem change_eq {f : IamTables → IamTables} {d d' : IamDatabase}
    (h : f d.toIamTables = d'.toIamTables) : d.change f = .ok d' := by
  have hv : (f d.toIamTables).Valid := h ▸ d'.valid
  rw [change_eq_ok hv]
  exact congrArg _ (ext_tables h)

end IamDatabase
end VirtualStack.Migrations
