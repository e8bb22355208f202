import VirtualStack.RbacWrites

/-!
# Assignments stay inside the tenant of their role

No table constraint says that a role is assigned in its own tenant only. That it
is so is an invariant of the ten operations that write the role tables, in any
order, in any number of sessions and with any outcome.
-/

namespace VirtualStack
open UnitOfWork Runs

/-- The role of the assignment is a system role or belongs to the tenant in which
it is assigned. -/
def InRoleTenant (t : Tables) (x : UserTenantRole) : Prop :=
  ∃ r ∈ t.roles, r.id = x.roleId ∧ (r.isSystemRole ∨ r.tenantId = some x.tenantId)

def RespectsTenants (t : Tables) : Prop := ∀ x ∈ t.userTenantRoles, InRoleTenant t x

instance : DecidablePred RespectsTenants := fun t => inferInstanceAs (Decidable
  (∀ x ∈ t.userTenantRoles, ∃ r ∈ t.roles, r.id = x.roleId ∧
    (r.isSystemRole ∨ r.tenantId = some x.tenantId)))

/-- Every role may be touched, and assigned where it can be given out. -/
def Scope.everywhere : Scope where
  owner _ := True
  grant d x := InRoleTenant d.toTables x
  grant_of_accessible _ _ r hr hid hacc _ := ⟨r, hr, hid, hacc⟩

theorem RespectsTenants.of_roles {t t' : Tables} (h : RespectsTenants t)
    (hsub : ∀ x ∈ t'.userTenantRoles, x ∈ t.userTenantRoles)
    (hroles : ∀ x ∈ t'.userTenantRoles, ∀ r ∈ t.roles, r.id = x.roleId → ∃ r' ∈ t'.roles,
      r'.id = r.id ∧ r'.tenantId = r.tenantId ∧ r'.isSystemRole = r.isSystemRole) :
    RespectsTenants t' := by
  intro x hx
  obtain ⟨r, hr, hid, hacc⟩ := h x (hsub x hx)
  obtain ⟨r', hr', hid', hten, hsys⟩ := hroles x hx r hr hid
  exact ⟨r', hr', hid'.trans hid, by rwa [hsys, hten]⟩

theorem closed_respectsTenants : Scope.everywhere.Closed fun d => RespectsTenants d.toTables where
  other v v' hv hr _ _ ha := by
    refine hv.of_roles (fun x hx => ha ▸ hx) fun x _ r hrole _ => ?_
    exact ⟨r, hr ▸ hrole, rfl, rfl, rfl⟩
  assign v v' xs hv hxs hr _ _ ha := by
    intro x hx
    rw [InRoleTenant, hr]
    rcases (ha x).mp hx with hold | hnew
    · exact hv x hold
    · exact hxs x hnew
  unassign v v' p hv _ hv' := by
    rw [hv']
    refine hv.of_roles (fun x hx => (List.mem_filter.mp hx).1) fun x _ r hrole _ => ?_
    exact ⟨r, hrole, rfl, rfl, rfl⟩
  addRole v v' r hv _ hv' := by
    rw [hv']
    refine hv.of_roles (fun x hx => hx) fun x _ r hrole _ => ?_
    exact ⟨r, List.mem_append_left _ hrole, rfl, rfl, rfl⟩
  modifyRole v v' id f hv hf hv' := by
    rw [hv']
    refine hv.of_roles (fun x hx => hx) fun x _ r hrole _ => ?_
    refine ⟨if r.id = id then f r else r, Rows.mem_modify.mpr ⟨r, hrole, rfl⟩, ?_⟩
    split_ifs
    · exact hf r
    · exact ⟨rfl, rfl, rfl⟩
  dropRole v v' id hv _ hv' := by
    rw [hv']
    refine hv.of_roles (fun x hx => (List.mem_filter.mp hx).1) fun x hx r hrole hid => ?_
    have hne : x.roleId ≠ id := by simpa using (List.mem_filter.mp hx).2
    exact ⟨r, List.mem_filter.mpr ⟨hrole, by simpa [hid] using hne⟩, rfl, rfl, rfl⟩
  permissions v v' id hv _ hr _ ha _ := by
    refine hv.of_roles (fun x hx => ha ▸ hx) fun x _ r hrole _ => ?_
    exact ⟨r, hr ▸ hrole, rfl, rfl, rfl⟩
  dropTenant v v' id hv _ hv' := by
    rw [hv']
    refine hv.of_roles (fun x hx => (List.mem_filter.mp hx).1) fun x hx r hrole hid => ?_
    have hne := (of_decide_eq_true (List.mem_filter.mp hx).2).2
    refine ⟨r, List.mem_filter.mpr ⟨hrole, ?_⟩, rfl, rfl, rfl⟩
    -- a role of the tenant would have taken the assignment with it
    refine decide_eq_true fun hten => hne (List.mem_map.mpr ⟨r, ?_, hid⟩)
    exact List.mem_filter.mpr ⟨hrole, decide_eq_true hten⟩

/-- The operations that write roles and assignments, with their arguments. -/
inductive RbacOp where
  | createUser (objIn : UserCreate) (tenantId newId : UUID) (autocommit : Bool)
  | assignRole (userId roleId tenantId : UUID) (autocommit : Bool)
  | removeRole (userId roleId tenantId : UUID) (autocommit : Bool)
  | deleteUser (userId tenantId : UUID) (autocommit : Bool)
  | createRole (objIn : RoleCreate) (tenantId newId : UUID)
  | updateRole (dbObj : Role) (objIn : RoleUpdate)
  | deleteRole (roleId tenantId : UUID)
  | setUsersForRole (roleId tenantId : UUID) (userIds : List UUID)
  | acceptInvitation (now : Time) (token : String) (userId : UUID)
  | deleteTenant (tenantId : UUID)
  deriving DecidableEq, Repr

namespace RbacOp

def program (env : Env) : RbacOp → Db Unit
  | createUser objIn tenantId newId autocommit =>
    ignore (UserService.create env objIn tenantId newId autocommit)
  | assignRole userId roleId tenantId autocommit =>
    ignore (UserService.assignRoleToUserInTenant env userId roleId tenantId autocommit)
  | removeRole userId roleId tenantId autocommit =>
    ignore (UserService.removeRoleFromUserInTenant userId roleId tenantId autocommit)
  | deleteUser userId tenantId autocommit => ignore (UserService.delete userId tenantId autocommit)
  | createRole objIn tenantId newId =>
    ignore (RoleService.createCustomRole env objIn tenantId newId)
  | updateRole dbObj objIn => ignore (RoleService.updateCustomRole env dbObj objIn)
  | deleteRole roleId tenantId => ignore (RoleService.deleteCustomRole roleId tenantId)
  | setUsersForRole roleId tenantId userIds =>
    ignore (RoleService.setUsersForRole roleId tenantId userIds)
  | acceptInvitation now token userId =>
    ignore (InvitationService.acceptInvitation env now token userId)
  | deleteTenant tenantId => ignore (TenantService.delete tenantId)

/-- The lookup finds stored roles by their id, and only those that can be given
out in the tenant. -/
def LooksUpAccessible (env : Env) : Prop :=
  ∀ d roleId tenantId r, env.getRoleByIdAndTenant d roleId tenantId = .ok (some r) →
    r ∈ d.roles ∧ r.id = roleId ∧ (r.isSystemRole ∨ r.tenantId = some tenantId)

theorem keeps_program {env : Env} (henv : LooksUpAccessible env) (op : RbacOp) :
    Keeps (fun d => RespectsTenants d.toTables) (op.program env) := by
  have hI := closed_respectsTenants
  have hl : ∀ tenantId, Scope.everywhere.Trusts env tenantId := by
    intro tenantId d userId roleId r hr
    obtain ⟨hmem, hid, hacc⟩ := henv d roleId tenantId r hr
    exact ⟨r, hmem, hid, hacc⟩
  cases op with
  | createUser objIn tenantId newId autocommit =>
    exact keeps_ignore (keeps_createUser hI trivial objIn newId autocommit)
  | assignRole userId roleId tenantId autocommit =>
    exact keeps_ignore (keeps_assignRole hI (hl tenantId) userId roleId autocommit)
  | removeRole userId roleId tenantId autocommit =>
    exact keeps_ignore (keeps_removeRole hI trivial userId roleId autocommit)
  | deleteUser userId tenantId autocommit =>
    exact keeps_ignore (keeps_deleteUser hI trivial userId autocommit)
  | createRole objIn tenantId newId => exact keeps_ignore (keeps_createRole hI trivial objIn newId)
  | updateRole dbObj objIn =>
    exact keeps_ignore (keeps_updateRole hI (fun _ => trivial) dbObj objIn)
  | deleteRole roleId tenantId => exact keeps_ignore (keeps_deleteRole hI trivial roleId)
  | setUsersForRole roleId tenantId userIds =>
    exact keeps_ignore (keeps_setUsersForRole hI trivial roleId userIds)
  | acceptInvitation now token userId =>
    exact keeps_ignore (keeps_acceptInvitation hI hl now token userId)
  | deleteTenant tenantId => exact keeps_ignore (keeps_deleteTenant hI trivial)

/-- After every run, the stored rows and the rows that the open transaction sees
respect the tenants. -/
theorem respectsTenants_after (env : Env) (henv : LooksUpAccessible env) (d : Database)
    (hd : RespectsTenants d.toTables) (steps : List (SessionStep RbacOp)) :
    RespectsTenants (after (SessionStep.next (program env)) (.start d) steps).committed.toTables ∧
      RespectsTenants (after (SessionStep.next (program env)) (.start d) steps).view.toTables := by
  have hinv := inv_after (I := fun d : Database => RespectsTenants d.toTables)
    (keeps_program henv) hd steps
  exact ⟨hinv.committed, hinv.view⟩

theorem looksUpAccessible_sample : LooksUpAccessible Env.sample := by
  intro d roleId tenantId r hr
  injection hr with hf
  have hp := List.find?_some hf
  obtain ⟨hid, hacc⟩ := of_decide_eq_true hp
  exact ⟨List.mem_of_find?_eq_some hf, hid, hacc⟩

/-- The manager of the sample gets the default role too, and the first tenant is
deleted in a later session. -/
theorem respectsTenants_sample :
    RespectsTenants (after (SessionStep.next (program Env.sample)) (.start Database.sample)
      [.call (.assignRole 1 1 1 false), .commit, .reopen, .call (.deleteTenant 1),
        .commit]).committed.toTables ∧
    RespectsTenants (after (SessionStep.next (program Env.sample)) (.start Database.sample)
      [.call (.assignRole 1 1 1 false), .commit, .reopen, .call (.deleteTenant 1),
        .commit]).view.toTables :=
  respectsTenants_after Env.sample looksUpAccessible_sample Database.sample (by decide) _

end RbacOp
end VirtualStack
