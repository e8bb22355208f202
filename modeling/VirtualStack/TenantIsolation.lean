import VirtualStack.RoleTenancy

/-!
# Changes in one tenant and permissions in another

Permissions are stored per role and system roles are shared by all tenants. Still
no operation that is carried out for one tenant changes what anybody may do in
another: a role of the one is never assigned in the other, and only roles of the
one have their permissions changed.
-/

namespace VirtualStack
open UnitOfWork Runs

/-- Roles of the tenant may be touched, and assignments in it. -/
def Scope.tenant (tenantId : UUID) : Scope where
  owner t := t = some tenantId
  grant _ x := x.tenantId = tenantId
  grant_of_accessible _ _ _ _ _ _ ht := Option.some.inj ht

/-- Outside the tenant `v` has the assignments of `d`, their roles have the same
permissions, and none of these roles belongs to the tenant. -/
structure Isolates (tenantId : UUID) (d v : Database) : Prop where
  permissions : v.permissions = d.permissions
  assignments : ∀ x : UserTenantRole, x.tenantId ≠ tenantId →
    (x ∈ v.userTenantRoles ↔ x ∈ d.userTenantRoles)
  grants : ∀ x ∈ v.userTenantRoles, x.tenantId ≠ tenantId → ∀ p : RolePermission,
    p.roleId = x.roleId → (p ∈ v.rolePermissions ↔ p ∈ d.rolePermissions)
  foreign : ∀ x ∈ v.userTenantRoles, x.tenantId ≠ tenantId → ∀ r ∈ v.roles, r.id = x.roleId →
    r.tenantId ≠ some tenantId

namespace Isolates

variable {tenantId : UUID} {d v v' : Database}

/-- The starting point: assignments respect tenants, and system roles have none. -/
theorem refl (hresp : RespectsTenants d.toTables)
    (hsys : ∀ r ∈ d.roles, r.isSystemRole → r.tenantId = none) : Isolates tenantId d d where
  permissions := rfl
  assignments _ _ := Iff.rfl
  grants _ _ _ _ _ := Iff.rfl
  foreign x hx hne r hr hid := by
    obtain ⟨r', hr', hid', hacc⟩ := hresp x hx
    obtain rfl := Rows.eq_of_key_eq d.valid.keys.rolesId hr' hr (hid'.trans hid.symm)
    rcases hacc with hs | ht
    · rw [hsys r' hr hs]
      exact (Option.some_ne_none _).symm
    · rw [ht]
      exact fun h => hne (Option.some.inj h)

/-- The role of an assignment outside the tenant is not in the scope of its
operations. -/
theorem roleId_ne (h : Isolates tenantId d v) {id : UUID}
    (hown : (Scope.tenant tenantId).OwnsRole v id) {x : UserTenantRole}
    (hx : x ∈ v.userTenantRoles) (hne : x.tenantId ≠ tenantId) :
    x.roleId ≠ id := by
  intro hid
  obtain ⟨r, hr, hrid⟩ := List.mem_map.mp (v.valid.references.assignmentRole x hx)
  exact h.foreign x hx hne r hr hrid (hown r hr (hrid.trans hid))

/-- A change that leaves alone what counts outside the tenant. -/
theorem step (h : Isolates tenantId d v) (hp : v'.permissions = v.permissions)
    (ha : ∀ x : UserTenantRole, x.tenantId ≠ tenantId →
      (x ∈ v'.userTenantRoles ↔ x ∈ v.userTenantRoles))
    (hg : ∀ x ∈ v.userTenantRoles, x.tenantId ≠ tenantId → ∀ p : RolePermission,
      p.roleId = x.roleId → (p ∈ v'.rolePermissions ↔ p ∈ v.rolePermissions))
    (hf : ∀ x ∈ v.userTenantRoles, x.tenantId ≠ tenantId → ∀ r ∈ v'.roles, r.id = x.roleId →
      ∃ r' ∈ v.roles, r'.id = r.id ∧ r'.tenantId = r.tenantId) : Isolates tenantId d v' where
  permissions := hp.trans h.permissions
  assignments x hne := (ha x hne).trans (h.assignments x hne)
  grants x hx hne p hpid :=
    have hx' := (ha x hne).mp hx
    (hg x hx' hne p hpid).trans (h.grants x hx' hne p hpid)
  foreign x hx hne r hr hid := by
    have hx' := (ha x hne).mp hx
    obtain ⟨r', hr', hid', hten⟩ := hf x hx' hne r hr hid
    rw [← hten]
    exact h.foreign x hx' hne r' hr' (hid'.trans hid)

/-- So nobody's permissions change elsewhere. -/
theorem holdsPermission_iff (h : Isolates tenantId d v) {other : UUID} (hne : other ≠ tenantId)
    (userId : UUID) (code : String) : HoldsPermission v.toTables userId other code ↔
      HoldsPermission d.toTables userId other code := by
  constructor
  · rintro ⟨x, hx, huser, rfl, rp, hrp, hrole, p, hp, hpid, hcode⟩
    refine ⟨x, (h.assignments x hne).mp hx, huser, rfl, rp, ?_, hrole, p, ?_, hpid, hcode⟩
    · exact (h.grants x hx hne rp hrole).mp hrp
    · rwa [h.permissions] at hp
  · rintro ⟨x, hx, huser, rfl, rp, hrp, hrole, p, hp, hpid, hcode⟩
    have hx' := (h.assignments x hne).mpr hx
    refine ⟨x, hx', huser, rfl, rp, ?_, hrole, p, ?_, hpid, hcode⟩
    · exact (h.grants x hx' hne rp hrole).mpr hrp
    · rwa [h.permissions]

end Isolates

theorem closed_isolates (tenantId : UUID) (d : Database) :
    (Scope.tenant tenantId).Closed (Isolates tenantId d) where
  other v v' hv hr hp hrp ha := by
    refine hv.step hp (fun x _ => by rw [ha]) (fun x _ _ p _ => by rw [hrp])
      fun x _ _ r hrole _ => ?_
    exact ⟨r, hr ▸ hrole, rfl, rfl⟩
  assign v v' xs hv hxs hr hp hrp ha := by
    refine hv.step hp (fun x hne => ?_) (fun x _ _ p _ => by rw [hrp]) fun x _ _ r hrole _ => ?_
    · rw [ha, or_iff_left fun hx => hne (hxs x hx)]
    · exact ⟨r, hr ▸ hrole, rfl, rfl⟩
  unassign v v' p hv hp hv' := by
    refine hv.step (by rw [hv']; rfl) (fun x hne => ?_) (fun x _ _ q _ => by rw [hv']; rfl)
      fun x _ _ r hrole _ => ⟨r, by rwa [hv'] at hrole, rfl, rfl⟩
    have hno : p x = false := by
      cases hpx : p x with
      | false => rfl
      | true => exact absurd (Option.some.inj (hp x hpx)) hne
    rw [hv']
    simp [Tables.dropAssignments, hno]
  addRole v v' r hv _ hv' := by
    refine hv.step (by rw [hv']; rfl) (fun x _ => by rw [hv']; rfl)
      (fun x _ _ q _ => by rw [hv']; rfl) fun x hx _ r' hrole hid => ?_
    obtain ⟨r₀, hr₀, hid₀⟩ := List.mem_map.mp (v.valid.references.assignmentRole x hx)
    have hr₀' : r₀ ∈ v'.roles := by
      rw [hv']
      exact List.mem_append_left _ hr₀
    obtain rfl := Rows.eq_of_key_eq v'.valid.keys.rolesId hr₀' hrole (hid₀.trans hid.symm)
    exact ⟨r₀, hr₀, rfl, rfl⟩
  modifyRole v v' id f hv hf hv' := by
    refine hv.step (by rw [hv']; rfl) (fun x _ => by rw [hv']; rfl)
      (fun x _ _ q _ => by rw [hv']; rfl) fun x _ _ r hrole _ => ?_
    rw [hv'] at hrole
    obtain ⟨r₀, hr₀, rfl⟩ := Rows.mem_modify.mp hrole
    refine ⟨r₀, hr₀, ?_⟩
    split_ifs
    · exact ⟨(hf r₀).1.symm, (hf r₀).2.1.symm⟩
    · exact ⟨rfl, rfl⟩
  dropRole v v' id hv hown hv' := by
    refine hv.step (by rw [hv']; rfl) (fun x hne => ?_) (fun x hx hne q hq => ?_)
      fun x _ _ r hrole _ => ?_
    · rw [hv']
      constructor
      · intro hx
        exact (List.mem_filter.mp hx).1
      · intro hx
        exact List.mem_filter.mpr ⟨hx, decide_eq_true (hv.roleId_ne hown hx hne)⟩
    · have hqid : q.roleId ≠ id := hq ▸ hv.roleId_ne hown hx hne
      rw [hv']
      simp [Tables.dropRole, hqid]
    · rw [hv'] at hrole
      exact ⟨r, (List.mem_filter.mp hrole).1, rfl, rfl⟩
  permissions v v' id hv hown hr hp ha hrp := by
    refine hv.step hp (fun x _ => by rw [ha]) (fun x hx hne q hq => ?_) fun x _ _ r hrole _ => ?_
    · exact hrp q (hq ▸ hv.roleId_ne hown hx hne)
    · exact ⟨r, hr ▸ hrole, rfl, rfl⟩
  dropTenant v v' id hv hid hv' := by
    obtain rfl := Option.some.inj hid
    have hfree : ∀ x ∈ v.userTenantRoles, x.tenantId ≠ id → x.roleId ∉ v.rolesOf id := by
      intro x hx hne hm
      obtain ⟨r, hr, hrid⟩ := List.mem_map.mp hm
      obtain ⟨hmem, hten⟩ := List.mem_filter.mp hr
      exact hv.foreign x hx hne r hmem hrid (of_decide_eq_true hten)
    refine hv.step (by rw [hv']; rfl) (fun x hne => ?_) (fun x hx hne q hq => ?_)
      fun x _ _ r hrole _ => ?_
    · rw [hv']
      constructor
      · intro hx
        exact (List.mem_filter.mp hx).1
      · intro hx
        exact List.mem_filter.mpr ⟨hx, decide_eq_true ⟨hne, hfree x hx hne⟩⟩
    · have hqid : q.roleId ∉ v.rolesOf id := hq ▸ hfree x hx hne
      rw [hv']
      simp [Tables.dropTenant, hqid]
    · rw [hv'] at hrole
      exact ⟨r, (List.mem_filter.mp hrole).1, rfl, rfl⟩

/-- The operations on roles and memberships, for one tenant. Roles are updated
through the endpoint. -/
inductive TenantOp where
  | createUser (objIn : UserCreate) (newId : UUID) (autocommit : Bool)
  | assignRole (userId roleId : UUID) (autocommit : Bool)
  | removeRole (userId roleId : UUID) (autocommit : Bool)
  | deleteUser (userId : UUID) (autocommit : Bool)
  | createRole (objIn : RoleCreate) (newId : UUID)
  | updateRole (h : Headers) (roleId : UUID) (objIn : RoleUpdate)
  | deleteRole (roleId : UUID)
  | setUsersForRole (roleId : UUID) (userIds : List UUID)
  | deleteTenant
  deriving DecidableEq, Repr

namespace TenantOp

def program (env : Env) (tenantId : UUID) : TenantOp → Db Unit
  | createUser objIn newId autocommit =>
    ignore (UserService.create env objIn tenantId newId autocommit)
  | assignRole userId roleId autocommit =>
    ignore (UserService.assignRoleToUserInTenant env userId roleId tenantId autocommit)
  | removeRole userId roleId autocommit =>
    ignore (UserService.removeRoleFromUserInTenant userId roleId tenantId autocommit)
  | deleteUser userId autocommit => ignore (UserService.delete userId tenantId autocommit)
  | createRole objIn newId => ignore (RoleService.createCustomRole env objIn tenantId newId)
  | updateRole h roleId objIn =>
    ignore (Endpoints.updateCustomRoleInTenant env h tenantId roleId objIn)
  | deleteRole roleId => ignore (RoleService.deleteCustomRole roleId tenantId)
  | setUsersForRole roleId userIds =>
    ignore (RoleService.setUsersForRole roleId tenantId userIds)
  | deleteTenant => ignore (TenantService.delete tenantId)

theorem keeps_isolates (env : Env) (tenantId : UUID) (d : Database) (op : TenantOp) :
    Keeps (Isolates tenantId d) (op.program env tenantId) := by
  have hI := closed_isolates tenantId d
  cases op with
  | createUser objIn newId autocommit =>
    exact keeps_ignore (keeps_createUser hI rfl objIn newId autocommit)
  | assignRole userId roleId autocommit =>
    -- whatever role the lookup finds, the assignment is one in the tenant
    exact keeps_ignore (keeps_assignRole hI (fun _ _ _ _ _ => rfl) userId roleId autocommit)
  | removeRole userId roleId autocommit =>
    exact keeps_ignore (keeps_removeRole hI rfl userId roleId autocommit)
  | deleteUser userId autocommit => exact keeps_ignore (keeps_deleteUser hI rfl userId autocommit)
  | createRole objIn newId => exact keeps_ignore (keeps_createRole hI rfl objIn newId)
  | updateRole h roleId objIn => exact keeps_ignore (keeps_updateRoleEndpoint hI rfl h roleId objIn)
  | deleteRole roleId => exact keeps_ignore (keeps_deleteRole hI rfl roleId)
  | setUsersForRole roleId userIds =>
    exact keeps_ignore (keeps_setUsersForRole hI rfl roleId userIds)
  | deleteTenant => exact keeps_ignore (keeps_deleteTenant hI rfl)

/-- No run for one tenant changes a permission in another, neither as stored nor
as the open transaction sees it. -/
theorem holdsPermission_after (env : Env) (tenantId other : UUID) (hne : tenantId ≠ other)
    (d : Database) (hresp : RespectsTenants d.toTables)
    (hsys : ∀ r ∈ d.roles, r.isSystemRole → r.tenantId = none)
    (steps : List (SessionStep TenantOp)) (userId : UUID) (code : String) :
    (HoldsPermission (after (SessionStep.next (program env tenantId)) (.start d)
      steps).committed.toTables userId other code ↔ HoldsPermission d.toTables userId other code) ∧
    (HoldsPermission (after (SessionStep.next (program env tenantId)) (.start d)
      steps).view.toTables userId other code ↔ HoldsPermission d.toTables userId other code) := by
  have hinv := inv_after (keeps_isolates env tenantId d) (Isolates.refl hresp hsys) steps
  exact ⟨hinv.committed.holdsPermission_iff hne.symm userId code,
    hinv.view.holdsPermission_iff hne.symm userId code⟩

/-- Deleting the second tenant of the sample leaves the manager of the first one
what they had. -/
theorem holdsPermission_sample :
    HoldsPermission (after (SessionStep.next (program Env.sample 2)) (.start Database.sample)
      [.call .deleteTenant, .commit]).committed.toTables 1 1 "tenant:manage_invitations" :=
  (holdsPermission_after Env.sample 2 1 (by decide) Database.sample (by decide) (by decide)
    [.call .deleteTenant, .commit] 1 "tenant:manage_invitations").1.mpr (by decide)

end TenantOp
end VirtualStack
