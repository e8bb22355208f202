import Mathlib.Data.List.Nodup
import Mathlib.Tactic.MkIffOfInductiveProp
import VirtualStack.Basic

/-!
# The IAM tables

One structure per mapped class of `models/iam`, a record of all tables, and the
constraints the models declare: primary keys, unique columns, foreign keys and
column widths. A `Database` is a record of tables that meets them, so that a
state PostgreSQL would refuse cannot be written down.

Tables are lists in row order. The bookkeeping columns `created_at`,
`updated_at` and `last_login` are left out, except for the `created_at` by
which invitations are listed. Texts, those that are sent too, have no NUL in them,
which PostgreSQL does not store.
-/

namespace VirtualStack

structure Tenant where
  id : UUID
  name : String
  slug : String
  description : Option String
  isActive : Bool
  deriving DecidableEq, Repr

structure User where
  id : UUID
  email : String
  hashedPassword : String
  fullName : Option String
  isActive : Bool
  isSuperuser : Bool
  deriving DecidableEq, Repr

/-- `tenantId` is `none` for a global role. -/
structure Role where
  id : UUID
  name : String
  description : Option String
  tenantId : Option UUID
  isSystemRole : Bool
  deriving DecidableEq, Repr

/-- The mapped class `Permission`; the name without suffix is the enumeration. -/
structure PermissionModel where
  id : UUID
  name : String
  code : String
  description : Option String
  deriving DecidableEq, Repr

structure RolePermission where
  roleId : UUID
  permissionId : UUID
  deriving DecidableEq, Repr

structure UserTenantRole where
  userId : UUID
  roleId : UUID
  tenantId : UUID
  deriving DecidableEq, Repr

inductive InvitationStatus where
  | pending | accepted | expired | revoked
  deriving DecidableEq, Repr

/-- `roleId` has no foreign key in the model. -/
structure Invitation where
  id : UUID
  email : String
  token : String
  status : InvitationStatus
  expiresAt : Time
  acceptedAt : Option Time
  tenantId : UUID
  inviterId : UUID
  userId : Option UUID
  roleId : Option UUID
  createdAt : Time
  deriving DecidableEq, Repr

inductive APIKeyScope where
  | global | tenant
  deriving DecidableEq, Repr

/-- `expiresAt` and `lastUsedAt` are the instants that the
`DateTime(timezone=True)` columns store. -/
structure APIKey where
  id : UUID
  name : String
  keyPrefix : String
  keyHash : String
  description : Option String
  isActive : Bool
  expiresAt : Option Time
  lastUsedAt : Option Time
  userId : UUID
  tenantId : Option UUID
  scope : APIKeyScope
  deriving DecidableEq, Repr

structure Tables where
  tenants : List Tenant
  users : List User
  roles : List Role
  permissions : List PermissionModel
  rolePermissions : List RolePermission
  userTenantRoles : List UserTenantRole
  invitations : List Invitation
  apiKeys : List APIKey
  deriving DecidableEq, Repr

namespace Tables

/-! ## Declared constraints -/

/-- The `String(n)` columns hold at most `n` characters. -/
@[mk_iff] structure Widths (t : Tables) : Prop where
  tenants : ∀ x ∈ t.tenants, x.name.length ≤ 255 ∧ x.slug.length ≤ 255
  users : ∀ x ∈ t.users, x.email.length ≤ 255 ∧ x.hashedPassword.length ≤ 255 ∧
    ∀ n ∈ x.fullName, n.length ≤ 255
  roles : ∀ x ∈ t.roles, x.name.length ≤ 255
  permissions : ∀ x ∈ t.permissions, x.name.length ≤ 255 ∧ x.code.length ≤ 100
  invitations : ∀ x ∈ t.invitations, x.email.length ≤ 255 ∧ x.token.length ≤ 255
  apiKeys : ∀ x ∈ t.apiKeys, x.name.length ≤ 255 ∧ x.keyPrefix.length ≤ 8 ∧
    x.keyHash.length ≤ 255 ∧ ∀ n ∈ x.description, n.length ≤ 500

/-- Primary keys and unique columns. -/
@[mk_iff] structure Keys (t : Tables) : Prop where
  tenantsId : (t.tenants.map (·.id)).Nodup
  tenantsName : (t.tenants.map (·.name)).Nodup
  tenantsSlug : (t.tenants.map (·.slug)).Nodup
  usersId : (t.users.map (·.id)).Nodup
  usersEmail : (t.users.map (·.email)).Nodup
  rolesId : (t.roles.map (·.id)).Nodup
  permissionsId : (t.permissions.map (·.id)).Nodup
  permissionsName : (t.permissions.map (·.name)).Nodup
  permissionsCode : (t.permissions.map (·.code)).Nodup
  rolePermissions : t.rolePermissions.Nodup
  userTenantRoles : t.userTenantRoles.Nodup
  invitationsId : (t.invitations.map (·.id)).Nodup
  invitationsToken : (t.invitations.map (·.token)).Nodup
  apiKeysId : (t.apiKeys.map (·.id)).Nodup
  apiKeysPrefix : (t.apiKeys.map (·.keyPrefix)).Nodup

/-- Foreign keys: the referenced row exists. -/
@[mk_iff] structure References (t : Tables) : Prop where
  roleTenant : ∀ x ∈ t.roles, ∀ y ∈ x.tenantId, y ∈ t.tenants.map (·.id)
  rolePermissionRole : ∀ x ∈ t.rolePermissions, x.roleId ∈ t.roles.map (·.id)
  rolePermissionPermission : ∀ x ∈ t.rolePermissions, x.permissionId ∈ t.permissions.map (·.id)
  assignmentUser : ∀ x ∈ t.userTenantRoles, x.userId ∈ t.users.map (·.id)
  assignmentRole : ∀ x ∈ t.userTenantRoles, x.roleId ∈ t.roles.map (·.id)
  assignmentTenant : ∀ x ∈ t.userTenantRoles, x.tenantId ∈ t.tenants.map (·.id)
  invitationTenant : ∀ x ∈ t.invitations, x.tenantId ∈ t.tenants.map (·.id)
  invitationInviter : ∀ x ∈ t.invitations, x.inviterId ∈ t.users.map (·.id)
  invitationUser : ∀ x ∈ t.invitations, ∀ y ∈ x.userId, y ∈ t.users.map (·.id)
  apiKeyUser : ∀ x ∈ t.apiKeys, x.userId ∈ t.users.map (·.id)
  apiKeyTenant : ∀ x ∈ t.apiKeys, ∀ y ∈ x.tenantId, y ∈ t.tenants.map (·.id)

/-- Everything the models declare about the stored rows. -/
@[mk_iff] structure Valid (t : Tables) : Prop where
  keys : t.Keys
  references : t.References
  widths : t.Widths

instance (t : Tables) : Decidable t.Widths := decidable_of_iff _ t.widths_iff.symm

instance (t : Tables) : Decidable t.Keys := decidable_of_iff _ t.keys_iff.symm

instance (t : Tables) : Decidable t.References := decidable_of_iff _ t.references_iff.symm

instance (t : Tables) : Decidable t.Valid := decidable_of_iff _ t.valid_iff.symm

/-- What the server reports for tables it refuses: an over-long value is a
data error, every other violation an integrity error. -/
def violation (t : Tables) : Exc := if t.Widths then .integrityError else .dataError

end Tables

structure Database extends Tables where
  valid : toTables.Valid

namespace Database

theorem ext_tables {d d' : Database} (h : d.toTables = d'.toTables) : d = d' := by
  obtain ⟨t, ht⟩ := d
  obtain ⟨t', ht'⟩ := d'
  obtain rfl : t = t' := h
  rfl

instance : DecidableEq Database := fun d d' =>
  decidable_of_iff (d.toTables = d'.toTables) ⟨ext_tables, congrArg _⟩

/-- A statement: the tables are changed, and the change stands if the result
meets the declared constraints. -/
def change (f : Tables → Tables) (d : Database) : Except Exc Database :=
  if h : (f d.toTables).Valid then .ok ⟨f d.toTables, h⟩ else .error (f d.toTables).violation

theorem change_eq_ok {f : Tables → Tables} {d : Database} (h : (f d.toTables).Valid) :
    d.change f = .ok ⟨f d.toTables, h⟩ := dif_pos h

theorem change_eq_error {f : Tables → Tables} {d : Database} (h : ¬(f d.toTables).Valid) :
    d.change f = .error (f d.toTables).violation := dif_neg h

theorem change_eq_ok_iff {f : Tables → Tables} {d d' : Database} :
    d.change f = .ok d' ↔ d'.toTables = f d.toTables := by
  by_cases h : (f d.toTables).Valid
  · rw [change_eq_ok h, Except.ok.injEq]
    exact ⟨fun e => e ▸ rfl, fun e => ext_tables e.symm⟩
  · rw [change_eq_error h]
    constructor
    · intro e
      cases e
    · intro e
      exact absurd (e ▸ d'.valid) h

end Database

def Tables.empty : Tables := ⟨[], [], [], [], [], [], [], []⟩

/-- The database before anything is stored. -/
def Database.empty : Database := ⟨Tables.empty, by decide⟩

/-- Two tenants; a manager of the first, who may manage its invitations; a
superuser with a key for the first tenant; and an open invitation to it. -/
def Database.sample : Database where
  tenants := [⟨1, "Acme", "acme", none, true⟩, ⟨2, "Beta", "beta", none, true⟩]
  users := [⟨1, "alice@acme.com", "$2b$12$a", some "Alice", true, false⟩,
    ⟨2, "root@acme.com", "$2b$12$r", none, true, true⟩]
  roles := [⟨1, "Default User Role", none, some 1, false⟩, ⟨2, "Manager", none, some 1, false⟩]
  permissions := [⟨1, "Manage Invitations", "tenant:manage_invitations", none⟩]
  rolePermissions := [⟨2, 1⟩]
  userTenantRoles := [⟨1, 2, 1⟩]
  invitations := [⟨1, "bob@acme.com", "invitation-1", .pending, 100, none, 1, 1, none, none, 0⟩]
  apiKeys := [⟨1, "ci", "vs_9f3kQ",
    "51bbdb8d0d5019e23886325b448a8a40cffd3c4e6dc465514c1b5b1991e56139", none, true, none, none, 2,
    some 1, .tenant⟩]
  valid := by decide

end VirtualStack
