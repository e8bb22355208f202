import VirtualStack.Catalogue

/-!
# Where roles and permissions come from

A user gets a role in a tenant, and a role its permissions, through a few
requests only. Reading them off the statements tells how somebody can come to
hold a permission that they did not hold before.
-/

namespace VirtualStack
open UnitOfWork

namespace ApiRequest

/-- The request asks for the assignment, and finds the role or the member that it
needs. -/
def Assigns (r : ApiRequest) (d : Tables) (x : UserTenantRole) : Prop :=
  (∃ userIds, r = .admin (.setRoleUsers x.tenantId x.roleId userIds) ∧ x.userId ∈ userIds ∧
    UsableRole d x.roleId x.tenantId) ∨
  r = .assignRole x.tenantId x.userId x.roleId ∧ IsMember d x.userId x.tenantId

/-- The request asks for the permission of the role, which it makes or which is a
custom role. -/
def Equips (r : ApiRequest) (d : Tables) (x : RolePermission) : Prop :=
  (∃ tenantId body, r = .admin (.createRole tenantId body x.roleId) ∧
    x.permissionId ∈ body.permissionIds.getD [] ∧ x.roleId ∉ d.roles.map (·.id)) ∨
  ∃ tenantId body ids, r = .admin (.updateRole tenantId x.roleId body) ∧
    body.permissionIds = some ids ∧ x.permissionId ∈ ids ∧ CustomRole d x.roleId tenantId

section Step

variable {env : Env} {h : Headers} {d v v' : Database} {r : ApiRequest}

/-- A statement adds an assignment as its request says, or none. -/
theorem Step.assigned (hstep : Step env h d r v v') {x : UserTenantRole}
    (hx : x ∈ v'.userTenantRoles) : x ∈ v.userTenantRoles ∨ r.Assigns v.toTables x := by
  obtain ⟨e, hs, hv'⟩ := hstep
  rw [hv'] at hx
  cases hs with
  | removeUser | clearUsers | removeRole => exact .inl (List.mem_filter.mp hx).1
  | deleteTenant | deleteRole => exact .inl (List.mem_filter.mp hx).1
  | setUsers hrole =>
    refine (Rows.mem_insertNew.mp hx).imp id fun hnew => ?_
    obtain ⟨u, hu, rfl⟩ := List.mem_map.mp hnew
    exact .inl ⟨_, rfl, hu, hrole⟩
  | assignRole hmember =>
    refine (List.mem_append.mp hx).imp id fun hnew => ?_
    obtain rfl := List.mem_singleton.mp hnew
    exact .inr ⟨rfl, hmember⟩
  | _ => exact .inl hx

/-- The same for the permissions of a role; only the start of the request tells
whether the role is new. -/
theorem Step.equipped (hstep : Step env h d r v v') {x : RolePermission}
    (hx : x ∈ v'.rolePermissions) : x ∈ v.rolePermissions ∨
      (∃ tenantId body, r = .admin (.createRole tenantId body x.roleId) ∧
        x.permissionId ∈ body.permissionIds.getD [] ∧ x.roleId ∉ d.roles.map (·.id)) ∨
      ∃ tenantId body ids, r = .admin (.updateRole tenantId x.roleId body) ∧
        body.permissionIds = some ids ∧ x.permissionId ∈ ids ∧
        CustomRole v.toTables x.roleId tenantId := by
  obtain ⟨e, hs, hv'⟩ := hstep
  rw [hv'] at hx
  cases hs with
  | clearNewRole | clearRole => exact .inl (List.mem_filter.mp hx).1
  | deleteTenant | deleteRole => exact .inl (List.mem_filter.mp hx).1
  | equipNewRole hnew hrole =>
    refine (List.mem_append.mp hx).imp id fun hmem => .inl ?_
    obtain ⟨p, hp, rfl⟩ := List.mem_map.mp hmem
    exact ⟨_, _, rfl, hp, hnew⟩
  | equipRole hrole hids =>
    refine (List.mem_append.mp hx).imp id fun hmem => .inr ?_
    obtain ⟨p, hp, rfl⟩ := List.mem_map.mp hmem
    exact ⟨_, _, _, rfl, hids, hp, hrole⟩
  | _ => exact .inl hx

/-- Setting the users of a role leaves the roles alone. -/
theorem Step.roles_eq {tenantId roleId : UUID} {userIds : List UUID}
    (hstep : Step env h d (.admin (.setRoleUsers tenantId roleId userIds)) v v') :
    v'.roles = v.roles := by
  obtain ⟨e, hs, hv'⟩ := hstep
  rw [hv']
  cases hs with
  | touch hnow => cases hnow
  | _ => rfl

/-- Updating a role makes no custom role of another one. -/
theorem Step.customRole {tenantId roleId : UUID} {body : RoleUpdate}
    (hstep : Step env h d (.admin (.updateRole tenantId roleId body)) v v') {id owner : UUID}
    (hrole : CustomRole v'.toTables id owner) : CustomRole v.toTables id owner := by
  obtain ⟨e, hs, hv'⟩ := hstep
  rw [hv'] at hrole
  cases hs with
  | touch hnow => cases hnow
  | updateRole =>
    obtain ⟨r, hr, hid, hten, hcustom⟩ := hrole
    obtain ⟨x, hx, rfl⟩ := Rows.mem_modify.mp hr
    refine ⟨x, hx, ?_⟩
    split_ifs at hid hten hcustom <;> exact ⟨hid, hten, hcustom⟩
  | _ => exact hrole

end Step

section Outcome

variable {closing : Ending} {env : Env} {security : Security} {h : Headers} {r : ApiRequest}
  {d : Database} {userId tenantId : UUID}

theorem outcome_assigned {x : UserTenantRole}
    (hx : x ∈ (outcome closing env security (h, r) d).userTenantRoles) :
    x ∈ d.userTenantRoles ∨ r.Assigns d.toTables x := by
  have hI : Closes env h d r fun v =>
      (∀ x ∈ v.userTenantRoles, x ∈ d.userTenantRoles ∨ r.Assigns d.toTables x) ∧
      ∀ tenantId roleId userIds, r = .admin (.setRoleUsers tenantId roleId userIds) →
        v.roles = d.roles := by
    rintro v v' ⟨hrows, hroles⟩ hstep
    constructor
    · intro x hx
      obtain hx | ⟨userIds, rfl, hu, hrole⟩ | ⟨rfl, y, hy, hyu, hyt⟩ := hstep.assigned hx
      · exact hrows x hx
      · rw [UsableRole, hroles _ _ _ rfl] at hrole
        exact .inr (.inl ⟨userIds, rfl, hu, hrole⟩)
      · -- the member was one before the request, or the request says so itself
        obtain hy | ⟨_, heq, -⟩ | ⟨-, hmember⟩ := hrows y hy
        · exact .inr (.inr ⟨rfl, y, hy, hyu, hyt⟩)
        · cases heq
        · rw [hyu, hyt] at hmember
          exact .inr (.inr ⟨rfl, hmember⟩)
    · rintro tenantId roleId userIds rfl
      exact hstep.roles_eq.trans (hroles _ _ _ rfl)
  exact (hI.outcome ⟨fun x hx => .inl hx, fun _ _ _ _ => rfl⟩ closing security).1 x hx

theorem outcome_equipped {x : RolePermission}
    (hx : x ∈ (outcome closing env security (h, r) d).rolePermissions) :
    x ∈ d.rolePermissions ∨ r.Equips d.toTables x := by
  have hI : Closes env h d r fun v =>
      (∀ x ∈ v.rolePermissions, x ∈ d.rolePermissions ∨ r.Equips d.toTables x) ∧
      ∀ tenantId roleId body, r = .admin (.updateRole tenantId roleId body) →
        ∀ id owner, CustomRole v.toTables id owner → CustomRole d.toTables id owner := by
    rintro v v' ⟨hrows, hroles⟩ hstep
    constructor
    · intro x hx
      obtain hx | hnew | ⟨tenantId, body, ids, rfl, hids, hp, hrole⟩ := hstep.equipped hx
      · exact hrows x hx
      · exact .inr (.inl hnew)
      · exact .inr (.inr ⟨tenantId, body, ids, rfl, hids, hp, hroles _ _ _ rfl _ _ hrole⟩)
    · rintro tenantId roleId body rfl id owner hrole
      exact hroles _ _ _ rfl id owner (hstep.customRole hrole)
  exact (hI.outcome ⟨fun x hx => .inl hx, fun _ _ _ _ _ _ hr => hr⟩ closing security).1 x hx

/-- The role carries the permission. -/
def Carries (t : Tables) (roleId : UUID) (code : String) : Prop :=
  ∃ x ∈ t.rolePermissions, x.roleId = roleId ∧ ∃ p ∈ t.permissions, p.id = x.permissionId ∧
    p.code = code

/-- The request gives the user a role that carries the permission, or gives the
permission to a custom role that the user has. -/
def Gives (r : ApiRequest) (d : Tables) (userId tenantId : UUID) (code : String) : Prop :=
  (∃ roleId, r.Assigns d ⟨userId, roleId, tenantId⟩ ∧ Carries d roleId code) ∨
  ∃ owner roleId body ids, r = .admin (.updateRole owner roleId body) ∧
    CustomRole d roleId owner ∧ ⟨userId, roleId, tenantId⟩ ∈ d.userTenantRoles ∧
    body.permissionIds = some ids ∧ ∃ p ∈ d.permissions, p.code = code ∧ p.id ∈ ids

theorem gives_of_outcome {code : String} (hno : ¬HoldsPermission d.toTables userId tenantId code)
    (hyes : HoldsPermission (outcome closing env security (h, r) d).toTables userId tenantId
      code) : r.Gives d.toTables userId tenantId code := by
  obtain ⟨⟨_, roleId, _⟩, hx, rfl, rfl, rp, hrp, hid, p, hp, hpid, hcode⟩ := hyes
  dsimp only at hid hno ⊢
  subst hid
  rw [(outcome_sameCatalogue closing env security (h, r) d).permissions] at hp
  obtain hold | hassigns := outcome_assigned hx
  · obtain hrp | hequips := outcome_equipped hrp
    · exact absurd ⟨_, hold, rfl, rfl, rp, hrp, rfl, p, hp, hpid, hcode⟩ hno
    · obtain ⟨_, _, -, -, hnew⟩ | ⟨owner, body, ids, rfl, hids, hmem, hrole⟩ := hequips
      · -- nobody has a role that is yet to be made
        exact absurd (d.valid.references.assignmentRole _ hold) hnew
      · exact .inr ⟨owner, _, body, ids, rfl, hrole, hold, hids, p, hp, hcode, hpid ▸ hmem⟩
  · obtain hrp | hequips := outcome_equipped hrp
    · exact .inl ⟨_, hassigns, rp, hrp, rfl, p, hp, hpid, hcode⟩
    · -- one request does not do both
      obtain ⟨_, heq, -⟩ | ⟨heq, -⟩ := hassigns <;>
        obtain ⟨_, _, heq', -⟩ | ⟨_, _, _, heq', -⟩ := hequips <;> rw [heq] at heq' <;>
        cases heq'

end Outcome

/-! ## Runs -/

section Runs

variable {closing : Ending} {env : Env} {security : Security} {d : Database}
  {calls : List (Headers × ApiRequest)} {userId tenantId : UUID}

/-- Nobody joins a tenant but by being listed as a user of one of its roles. -/
theorem member_through_setRoleUsers (hno : ¬IsMember d.toTables userId tenantId)
    (hyes : IsMember (Runs.after (outcome closing env security) d calls).toTables userId
      tenantId) :
    ∃ pre h roleId userIds post,
      calls = pre ++ (h, .admin (.setRoleUsers tenantId roleId userIds)) :: post ∧
      userId ∈ userIds ∧
      UsableRole (Runs.after (outcome closing env security) d pre).toTables roleId tenantId := by
  obtain ⟨pre, ⟨h, r⟩, post, rfl, hpre, ⟨_, roleId, _⟩, hx, rfl, rfl⟩ :=
    Runs.exists_step (p := fun v : Database => IsMember v.toTables userId tenantId) hno hyes
  obtain hx | ⟨userIds, rfl, hu, hrole⟩ | ⟨-, hmember⟩ := outcome_assigned hx
  · exact absurd ⟨_, hx, rfl, rfl⟩ hpre
  · exact ⟨pre, h, roleId, userIds, post, rfl, hu, hrole⟩
  · exact absurd hmember hpre

/-! A request that makes the second user of the example a manager. -/

def joining : List (Headers × ApiRequest) :=
  [(Headers.anonymous, .admin (.setRoleUsers 1 2 [1, 2]))]

theorem member_through_setRoleUsers_sample :
    ∃ pre h roleId userIds post,
      joining = pre ++ (h, .admin (.setRoleUsers 1 roleId userIds)) :: post ∧ 2 ∈ userIds ∧
      UsableRole (Runs.after (outcome .discards Env.sample Security.sample) .sample pre).toTables
        roleId 1 :=
  member_through_setRoleUsers (by decide) (by decide)

/-- Who comes to hold a permission was given it by one request of the run. -/
theorem holdsPermission_through_gift {code : String}
    (hno : ¬HoldsPermission d.toTables userId tenantId code)
    (hyes : HoldsPermission (Runs.after (outcome closing env security) d calls).toTables userId
      tenantId code) :
    ∃ pre h r post, calls = pre ++ (h, r) :: post ∧
      r.Gives (Runs.after (outcome closing env security) d pre).toTables userId tenantId code := by
  obtain ⟨pre, ⟨h, r⟩, post, rfl, hpre, hpost⟩ :=
    Runs.exists_step (p := fun v : Database => HoldsPermission v.toTables userId tenantId code)
      hno hyes
  exact ⟨pre, h, r, post, rfl, gives_of_outcome hpre hpost⟩

theorem holdsPermission_through_gift_sample :
    ∃ pre h r post, joining = pre ++ (h, r) :: post ∧
      r.Gives (Runs.after (outcome .discards Env.sample Security.sample) .sample pre).toTables 2 1
        "tenant:manage_invitations" :=
  holdsPermission_through_gift (by decide) (by decide)

end Runs
end ApiRequest
end VirtualStack
