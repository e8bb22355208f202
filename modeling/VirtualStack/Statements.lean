import VirtualStack.Rows
import VirtualStack.Tables

/-!
# Statements on the tables

What the statements of the services do to the rows, before the constraints are
checked. Deleting a tenant or a role takes the rows with it whose foreign keys
say `ondelete="CASCADE"`; the ORM cascades of `Tenant` name the same rows.
-/

namespace VirtualStack
namespace Tables

variable (t : Tables)

/-! ## Tenants -/

def addTenant (x : Tenant) (t : Tables) : Tables := { t with tenants := t.tenants ++ [x] }

def modifyTenant (id : UUID) (f : Tenant → Tenant) (t : Tables) : Tables :=
  { t with tenants := Rows.modify (·.id) id f t.tenants }

/-- The ids of the roles that belong to a tenant. -/
def rolesOf (tenantId : UUID) : List UUID :=
  (t.roles.filter (·.tenantId = some tenantId)).map (·.id)

def dropTenant (id : UUID) (t : Tables) : Tables :=
  { t with
    tenants := t.tenants.filter (·.id ≠ id)
    roles := t.roles.filter (·.tenantId ≠ some id)
    rolePermissions := t.rolePermissions.filter (·.roleId ∉ t.rolesOf id)
    userTenantRoles := t.userTenantRoles.filter fun x => x.tenantId ≠ id ∧ x.roleId ∉ t.rolesOf id
    invitations := t.invitations.filter (·.tenantId ≠ id)
    apiKeys := t.apiKeys.filter (·.tenantId ≠ some id) }

/-! ## Users and assignments -/

def addUser (x : User) (t : Tables) : Tables := { t with users := t.users ++ [x] }

def modifyUser (id : UUID) (f : User → User) (t : Tables) : Tables :=
  { t with users := Rows.modify (·.id) id f t.users }

def addAssignment (x : UserTenantRole) (t : Tables) : Tables :=
  { t with userTenantRoles := t.userTenantRoles ++ [x] }

/-- A bulk insert with `on_conflict_do_nothing`. -/
def addNewAssignments (xs : List UserTenantRole) (t : Tables) : Tables :=
  { t with userTenantRoles := Rows.insertNew t.userTenantRoles xs }

def dropAssignments (p : UserTenantRole → Bool) (t : Tables) : Tables :=
  { t with userTenantRoles := t.userTenantRoles.filter (!p ·) }

/-! ## Roles and their permissions -/

def addRole (x : Role) (t : Tables) : Tables := { t with roles := t.roles ++ [x] }

def modifyRole (id : UUID) (f : Role → Role) (t : Tables) : Tables :=
  { t with roles := Rows.modify (·.id) id f t.roles }

def dropRole (id : UUID) (t : Tables) : Tables :=
  { t with
    roles := t.roles.filter (·.id ≠ id)
    rolePermissions := t.rolePermissions.filter (·.roleId ≠ id)
    userTenantRoles := t.userTenantRoles.filter (·.roleId ≠ id) }

def addRolePermissions (xs : List RolePermission) (t : Tables) : Tables :=
  { t with rolePermissions := t.rolePermissions ++ xs }

def dropRolePermissions (roleId : UUID) (t : Tables) : Tables :=
  { t with rolePermissions := t.rolePermissions.filter (·.roleId ≠ roleId) }

/-! ## Invitations and API keys -/

def addInvitation (x : Invitation) (t : Tables) : Tables :=
  { t with invitations := t.invitations ++ [x] }

def modifyInvitation (id : UUID) (f : Invitation → Invitation) (t : Tables) : Tables :=
  { t with invitations := Rows.modify (·.id) id f t.invitations }

def addAPIKey (x : APIKey) (t : Tables) : Tables := { t with apiKeys := t.apiKeys ++ [x] }

def modifyAPIKey (id : UUID) (f : APIKey → APIKey) (t : Tables) : Tables :=
  { t with apiKeys := Rows.modify (·.id) id f t.apiKeys }

def dropAPIKey (id : UUID) (t : Tables) : Tables :=
  { t with apiKeys := t.apiKeys.filter (·.id ≠ id) }

/-! ## Statements that cannot be refused

Deletes with their cascades, and updates of columns without constraints. -/

variable {t}

theorem Valid.dropTenant (h : t.Valid) (id : UUID) : (t.dropTenant id).Valid := by
  have hrole : ∀ r ∈ t.roles, r.id ∉ t.rolesOf id → r.tenantId ≠ some id := by
    intro r hr hn ht
    exact hn (List.mem_map.mpr ⟨r, List.mem_filter.mpr ⟨hr, by simpa using ht⟩, rfl⟩)
  -- a reference survives when the row it points to is not among the deleted ones
  have hten : ∀ y ∈ t.tenants.map (·.id), y ≠ id → y ∈ (t.dropTenant id).tenants.map (·.id) := by
    intro y hy hne
    obtain ⟨x, hx, rfl⟩ := List.mem_map.mp hy
    exact List.mem_map.mpr ⟨x, List.mem_filter.mpr ⟨hx, by simpa using hne⟩, rfl⟩
  have hrol : ∀ y ∈ t.roles.map (·.id), y ∉ t.rolesOf id →
      y ∈ (t.dropTenant id).roles.map (·.id) := by
    intro y hy hne
    obtain ⟨x, hx, rfl⟩ := List.mem_map.mp hy
    exact List.mem_map.mpr ⟨x, List.mem_filter.mpr ⟨hx, by simpa using hrole x hx hne⟩, rfl⟩
  constructor
  · exact
      { tenantsId := h.keys.tenantsId.sublist (List.filter_sublist.map _)
        tenantsName := h.keys.tenantsName.sublist (List.filter_sublist.map _)
        tenantsSlug := h.keys.tenantsSlug.sublist (List.filter_sublist.map _)
        usersId := h.keys.usersId
        usersEmail := h.keys.usersEmail
        rolesId := h.keys.rolesId.sublist (List.filter_sublist.map _)
        permissionsId := h.keys.permissionsId
        permissionsName := h.keys.permissionsName
        permissionsCode := h.keys.permissionsCode
        rolePermissions := h.keys.rolePermissions.filter _
        userTenantRoles := h.keys.userTenantRoles.filter _
        invitationsId := h.keys.invitationsId.sublist (List.filter_sublist.map _)
        invitationsToken := h.keys.invitationsToken.sublist (List.filter_sublist.map _)
        apiKeysId := h.keys.apiKeysId.sublist (List.filter_sublist.map _)
        apiKeysPrefix := h.keys.apiKeysPrefix.sublist (List.filter_sublist.map _) }
  · constructor
    · intro x hx y hy
      obtain ⟨hx, hne⟩ := List.mem_filter.mp hx
      refine hten y (h.references.roleTenant x hx y hy) ?_
      rintro rfl
      simp [Option.mem_def.mp hy] at hne
    · intro x hx
      obtain ⟨hx, hne⟩ := List.mem_filter.mp hx
      exact hrol _ (h.references.rolePermissionRole x hx) (by simpa using hne)
    · intro x hx
      exact h.references.rolePermissionPermission x (List.mem_filter.mp hx).1
    · intro x hx
      exact h.references.assignmentUser x (List.mem_filter.mp hx).1
    · intro x hx
      obtain ⟨hx, hne⟩ := List.mem_filter.mp hx
      exact hrol _ (h.references.assignmentRole x hx) (of_decide_eq_true hne).2
    · intro x hx
      obtain ⟨hx, hne⟩ := List.mem_filter.mp hx
      exact hten _ (h.references.assignmentTenant x hx) (of_decide_eq_true hne).1
    · intro x hx
      obtain ⟨hx, hne⟩ := List.mem_filter.mp hx
      exact hten _ (h.references.invitationTenant x hx) (by simpa using hne)
    · intro x hx
      exact h.references.invitationInviter x (List.mem_filter.mp hx).1
    · intro x hx
      exact h.references.invitationUser x (List.mem_filter.mp hx).1
    · intro x hx
      exact h.references.apiKeyUser x (List.mem_filter.mp hx).1
    · intro x hx y hy
      obtain ⟨hx, hne⟩ := List.mem_filter.mp hx
      refine hten y (h.references.apiKeyTenant x hx y hy) ?_
      rintro rfl
      simp [Option.mem_def.mp hy] at hne
  · exact
      { tenants := fun x hx => h.widths.tenants x (List.mem_filter.mp hx).1
        users := h.widths.users
        roles := fun x hx => h.widths.roles x (List.mem_filter.mp hx).1
        permissions := h.widths.permissions
        invitations := fun x hx => h.widths.invitations x (List.mem_filter.mp hx).1
        apiKeys := fun x hx => h.widths.apiKeys x (List.mem_filter.mp hx).1 }

theorem Valid.dropRole (h : t.Valid) (id : UUID) : (t.dropRole id).Valid := by
  have hrol : ∀ y ∈ t.roles.map (·.id), y ≠ id → y ∈ (t.dropRole id).roles.map (·.id) := by
    intro y hy hne
    obtain ⟨x, hx, rfl⟩ := List.mem_map.mp hy
    exact List.mem_map.mpr ⟨x, List.mem_filter.mpr ⟨hx, by simpa using hne⟩, rfl⟩
  refine ⟨?_, ?_, ?_⟩
  · exact { h.keys with
      rolesId := h.keys.rolesId.sublist (List.filter_sublist.map _)
      rolePermissions := h.keys.rolePermissions.filter _
      userTenantRoles := h.keys.userTenantRoles.filter _ }
  · exact { h.references with
      roleTenant := fun x hx => h.references.roleTenant x (List.mem_filter.mp hx).1
      rolePermissionRole := by
        intro x hx
        obtain ⟨hx, hne⟩ := List.mem_filter.mp hx
        exact hrol _ (h.references.rolePermissionRole x hx) (by simpa using hne)
      rolePermissionPermission := fun x hx =>
        h.references.rolePermissionPermission x (List.mem_filter.mp hx).1
      assignmentUser := fun x hx => h.references.assignmentUser x (List.mem_filter.mp hx).1
      assignmentRole := by
        intro x hx
        obtain ⟨hx, hne⟩ := List.mem_filter.mp hx
        exact hrol _ (h.references.assignmentRole x hx) (by simpa using hne)
      assignmentTenant := fun x hx => h.references.assignmentTenant x (List.mem_filter.mp hx).1 }
  · exact { h.widths with
      roles := fun x hx => h.widths.roles x (List.mem_filter.mp hx).1 }

theorem Valid.dropAssignments (h : t.Valid) (p : UserTenantRole → Bool) :
    (t.dropAssignments p).Valid := by
  refine ⟨?_, ?_, { h.widths with }⟩
  · exact { h.keys with userTenantRoles := h.keys.userTenantRoles.filter _ }
  · exact { h.references with
      assignmentUser := fun x hx => h.references.assignmentUser x (List.mem_filter.mp hx).1
      assignmentRole := fun x hx => h.references.assignmentRole x (List.mem_filter.mp hx).1
      assignmentTenant := fun x hx => h.references.assignmentTenant x (List.mem_filter.mp hx).1 }

/-- An assignment can be stored once, for a user, a role and a tenant that exist. -/
theorem Valid.addAssignment (h : t.Valid) {x : UserTenantRole} (hnew : x ∉ t.userTenantRoles)
    (huser : x.userId ∈ t.users.map (·.id)) (hrole : x.roleId ∈ t.roles.map (·.id))
    (hten : x.tenantId ∈ t.tenants.map (·.id)) : (t.addAssignment x).Valid := by
  have hall {p : UserTenantRole → Prop} (hp : ∀ y ∈ t.userTenantRoles, p y) (hx : p x) :
      ∀ y ∈ t.userTenantRoles ++ [x], p y :=
    List.forall_mem_append.mpr ⟨hp, List.forall_mem_singleton.mpr hx⟩
  refine ⟨?_, ?_, { h.widths with }⟩
  · exact { h.keys with
      userTenantRoles := h.keys.userTenantRoles.append (List.nodup_singleton _)
        (List.disjoint_singleton.mpr hnew) }
  · exact { h.references with
      assignmentUser := hall h.references.assignmentUser huser
      assignmentRole := hall h.references.assignmentRole hrole
      assignmentTenant := hall h.references.assignmentTenant hten }

/-- A bulk insert of assignments needs the rows it refers to, and nothing else. -/
theorem Valid.addNewAssignments_iff (h : t.Valid) (xs : List UserTenantRole) :
    (t.addNewAssignments xs).Valid ↔ ∀ x ∈ xs, x.userId ∈ t.users.map (·.id) ∧
      x.roleId ∈ t.roles.map (·.id) ∧ x.tenantId ∈ t.tenants.map (·.id) := by
  constructor
  · intro hv x hx
    have hmem : x ∈ (t.addNewAssignments xs).userTenantRoles := Rows.mem_insertNew.mpr (.inr hx)
    exact ⟨hv.references.assignmentUser x hmem, hv.references.assignmentRole x hmem,
      hv.references.assignmentTenant x hmem⟩
  · intro hx
    refine ⟨?_, ?_, { h.widths with }⟩
    · exact { h.keys with userTenantRoles := Rows.nodup_insertNew h.keys.userTenantRoles }
    · exact { h.references with
        assignmentUser := fun x hm => (Rows.mem_insertNew.mp hm).elim
          (h.references.assignmentUser x) fun hm => (hx x hm).1
        assignmentRole := fun x hm => (Rows.mem_insertNew.mp hm).elim
          (h.references.assignmentRole x) fun hm => (hx x hm).2.1
        assignmentTenant := fun x hm => (Rows.mem_insertNew.mp hm).elim
          (h.references.assignmentTenant x) fun hm => (hx x hm).2.2 }

theorem Valid.dropRolePermissions (h : t.Valid) (id : UUID) : (t.dropRolePermissions id).Valid := by
  refine ⟨?_, ?_, { h.widths with }⟩
  · exact { h.keys with rolePermissions := h.keys.rolePermissions.filter _ }
  · exact { h.references with
      rolePermissionRole := fun x hx =>
        h.references.rolePermissionRole x (List.mem_filter.mp hx).1
      rolePermissionPermission := fun x hx =>
        h.references.rolePermissionPermission x (List.mem_filter.mp hx).1 }

/-- New rows have to be new, and to name stored roles and permissions. -/
theorem Valid.addRolePermissions_iff (h : t.Valid) (xs : List RolePermission) :
    (t.addRolePermissions xs).Valid ↔ (t.rolePermissions ++ xs).Nodup ∧
      ∀ x ∈ xs, x.roleId ∈ t.roles.map (·.id) ∧ x.permissionId ∈ t.permissions.map (·.id) := by
  constructor
  · intro hv
    refine ⟨hv.keys.rolePermissions, fun x hx => ?_⟩
    have hmem : x ∈ (t.addRolePermissions xs).rolePermissions := List.mem_append_right _ hx
    exact ⟨hv.references.rolePermissionRole x hmem, hv.references.rolePermissionPermission x hmem⟩
  · rintro ⟨hn, hx⟩
    refine ⟨{ h.keys with rolePermissions := hn }, ?_, { h.widths with }⟩
    exact { h.references with
      rolePermissionRole := fun x hm => (List.mem_append.mp hm).elim
        (h.references.rolePermissionRole x) fun hm => (hx x hm).1
      rolePermissionPermission := fun x hm => (List.mem_append.mp hm).elim
        (h.references.rolePermissionPermission x) fun hm => (hx x hm).2 }

/-- A new role needs an id of its own, its tenant, and a name that fits. -/
theorem Valid.addRole_iff (h : t.Valid) (x : Role) : (t.addRole x).Valid ↔
    x.id ∉ t.roles.map (·.id) ∧ (∀ y ∈ x.tenantId, y ∈ t.tenants.map (·.id)) ∧
      x.name.length ≤ 255 := by
  have hlast : x ∈ t.roles ++ [x] := List.mem_append_right _ (List.mem_singleton.mpr rfl)
  have hids : ∀ y ∈ t.roles.map (·.id), y ∈ (t.roles ++ [x]).map (·.id) := by
    intro y hy
    rw [List.map_append]
    exact List.mem_append_left _ hy
  constructor
  · intro hv
    exact ⟨(Rows.nodup_map_concat h.keys.rolesId).mp hv.keys.rolesId,
      hv.references.roleTenant x hlast, hv.widths.roles x hlast⟩
  · rintro ⟨hid, hten, hname⟩
    refine ⟨?_, ?_, ?_⟩
    · exact { h.keys with rolesId := (Rows.nodup_map_concat h.keys.rolesId).mpr hid }
    · exact { h.references with
        roleTenant := List.forall_mem_append.mpr
          ⟨h.references.roleTenant, List.forall_mem_singleton.mpr hten⟩
        rolePermissionRole := fun y hy => hids _ (h.references.rolePermissionRole y hy)
        assignmentRole := fun y hy => hids _ (h.references.assignmentRole y hy) }
    · exact { h.widths with
        roles := List.forall_mem_append.mpr
          ⟨h.widths.roles, List.forall_mem_singleton.mpr hname⟩ }

/-- An update of a role that keeps its id and its tenant, and whose name fits. -/
theorem Valid.modifyRole (h : t.Valid) (id : UUID) {f : Role → Role}
    (hid : ∀ x, (f x).id = x.id) (hten : ∀ x, (f x).tenantId = x.tenantId)
    (hname : ∀ x ∈ t.roles, x.id = id → (f x).name.length ≤ 255) : (t.modifyRole id f).Valid := by
  have hmap : (t.modifyRole id f).roles.map (·.id) = t.roles.map (·.id) :=
    Rows.map_modify _ _ hid t.roles
  refine ⟨?_, ?_, ?_⟩
  · exact { h.keys with rolesId := hmap ▸ h.keys.rolesId }
  · exact { h.references with
      roleTenant := Rows.forall_modify h.references.roleTenant
        fun x _ _ hx => by rw [hten]; exact hx
      rolePermissionRole := fun x hx => hmap ▸ h.references.rolePermissionRole x hx
      assignmentRole := fun x hx => hmap ▸ h.references.assignmentRole x hx }
  · exact { h.widths with
      roles := Rows.forall_modify h.widths.roles fun x hx hk _ => hname x hx hk }

theorem Valid.dropAPIKey (h : t.Valid) (id : UUID) : (t.dropAPIKey id).Valid := by
  refine ⟨?_, ?_, ?_⟩
  · exact { h.keys with
      apiKeysId := h.keys.apiKeysId.sublist (List.filter_sublist.map _)
      apiKeysPrefix := h.keys.apiKeysPrefix.sublist (List.filter_sublist.map _) }
  · exact { h.references with
      apiKeyUser := fun x hx => h.references.apiKeyUser x (List.mem_filter.mp hx).1
      apiKeyTenant := fun x hx => h.references.apiKeyTenant x (List.mem_filter.mp hx).1 }
  · exact { h.widths with
      apiKeys := fun x hx => h.widths.apiKeys x (List.mem_filter.mp hx).1 }

/-- A new key needs an id and a prefix of its own, the rows it refers to, and
values that fit their columns. -/
theorem Valid.addAPIKey_iff (h : t.Valid) (x : APIKey) : (t.addAPIKey x).Valid ↔
    x.id ∉ t.apiKeys.map (·.id) ∧ x.keyPrefix ∉ t.apiKeys.map (·.keyPrefix) ∧
    x.userId ∈ t.users.map (·.id) ∧ (∀ y ∈ x.tenantId, y ∈ t.tenants.map (·.id)) ∧
    x.name.length ≤ 255 ∧ x.keyPrefix.length ≤ 8 ∧ x.keyHash.length ≤ 255 ∧
    ∀ n ∈ x.description, n.length ≤ 500 := by
  have hlast : x ∈ t.apiKeys ++ [x] := List.mem_append_right _ (List.mem_singleton.mpr rfl)
  have hall {p : APIKey → Prop} (hp : ∀ y ∈ t.apiKeys, p y) (hx : p x) :
      ∀ y ∈ t.apiKeys ++ [x], p y :=
    List.forall_mem_append.mpr ⟨hp, List.forall_mem_singleton.mpr hx⟩
  constructor
  · intro hv
    exact ⟨(Rows.nodup_map_concat h.keys.apiKeysId).mp hv.keys.apiKeysId,
      (Rows.nodup_map_concat h.keys.apiKeysPrefix).mp hv.keys.apiKeysPrefix,
      hv.references.apiKeyUser x hlast, hv.references.apiKeyTenant x hlast,
      hv.widths.apiKeys x hlast⟩
  · rintro ⟨hid, hpre, huser, hten, hwidth⟩
    refine ⟨?_, ?_, ?_⟩
    · exact { h.keys with
        apiKeysId := (Rows.nodup_map_concat h.keys.apiKeysId).mpr hid
        apiKeysPrefix := (Rows.nodup_map_concat h.keys.apiKeysPrefix).mpr hpre }
    · exact { h.references with
        apiKeyUser := hall h.references.apiKeyUser huser
        apiKeyTenant := hall h.references.apiKeyTenant hten }
    · exact { h.widths with apiKeys := hall h.widths.apiKeys hwidth }

/-- The same for a new invitation, which has no user yet. -/
theorem Valid.addInvitation_iff (h : t.Valid) {x : Invitation} (huser : x.userId = none) :
    (t.addInvitation x).Valid ↔
      x.id ∉ t.invitations.map (·.id) ∧ x.token ∉ t.invitations.map (·.token) ∧
      x.tenantId ∈ t.tenants.map (·.id) ∧ x.inviterId ∈ t.users.map (·.id) ∧
      x.email.length ≤ 255 ∧ x.token.length ≤ 255 := by
  have hlast : x ∈ t.invitations ++ [x] := List.mem_append_right _ (List.mem_singleton.mpr rfl)
  have hall {p : Invitation → Prop} (hp : ∀ y ∈ t.invitations, p y) (hx : p x) :
      ∀ y ∈ t.invitations ++ [x], p y :=
    List.forall_mem_append.mpr ⟨hp, List.forall_mem_singleton.mpr hx⟩
  constructor
  · intro hv
    exact ⟨(Rows.nodup_map_concat h.keys.invitationsId).mp hv.keys.invitationsId,
      (Rows.nodup_map_concat h.keys.invitationsToken).mp hv.keys.invitationsToken,
      hv.references.invitationTenant x hlast, hv.references.invitationInviter x hlast,
      hv.widths.invitations x hlast⟩
  · rintro ⟨hid, htoken, hten, hinv, hwidth⟩
    refine ⟨?_, ?_, ?_⟩
    · exact { h.keys with
        invitationsId := (Rows.nodup_map_concat h.keys.invitationsId).mpr hid
        invitationsToken := (Rows.nodup_map_concat h.keys.invitationsToken).mpr htoken }
    · exact { h.references with
        invitationTenant := hall h.references.invitationTenant hten
        invitationInviter := hall h.references.invitationInviter hinv
        invitationUser := hall h.references.invitationUser fun y hy => by
          rw [huser] at hy
          cases hy }
    · exact { h.widths with invitations := hall h.widths.invitations hwidth }

end Tables
end VirtualStack
