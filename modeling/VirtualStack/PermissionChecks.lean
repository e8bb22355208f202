import VirtualStack.Endpoints.Invitations

/-!
# What it means to hold a permission

Access control by roles: a user holds a permission in a tenant when a role that is
assigned to the user there carries it. The checks of the API are compared with
this definition: the dependency for the active tenant, the check that the
invitation endpoints make by hand, the two factories for lists of permissions, and
the list of permissions that the user service makes.
-/

namespace VirtualStack
open UnitOfWork

/-- The role carries the permission and is assigned to the user in the tenant. -/
def Carries (d : Database) (userId tenantId : UUID) (q : PermissionModel) : Prop :=
  q ∈ d.permissions ∧ ∃ r ∈ d.roles, ⟨userId, r.id, tenantId⟩ ∈ d.userTenantRoles ∧
    ⟨r.id, q.id⟩ ∈ d.rolePermissions

instance (d : Database) (userId tenantId : UUID) (q : PermissionModel) :
    Decidable (Carries d userId tenantId q) := by
  unfold Carries
  infer_instance

def Granted (d : Database) (userId tenantId : UUID) (code : String) : Prop :=
  ∃ q, Carries d userId tenantId q ∧ q.code = code

/-- The query of the dependency leaves the table of roles out. -/
theorem holdsPermission_iff_granted {d : Database} {userId tenantId : UUID} {code : String} :
    HoldsPermission d.toTables userId tenantId code ↔ Granted d userId tenantId code := by
  constructor
  · rintro ⟨⟨_, r, _⟩, hx, rfl, rfl, ⟨_, p⟩, hrp, rfl, q, hq, rfl, hcode⟩
    obtain ⟨role, hrole, hid⟩ := List.mem_map.mp (d.valid.references.assignmentRole _ hx)
    obtain rfl : role.id = _ := hid
    exact ⟨q, ⟨hq, role, hrole, hx, hrp⟩, hcode⟩
  · rintro ⟨q, ⟨hq, r, -, hx, hrp⟩, hcode⟩
    exact ⟨_, hx, rfl, rfl, _, hrp, rfl, q, hq, rfl, hcode⟩

/-! ## The two checks of a single permission -/

/-- Both checks decide whether the permission is granted, and the one that is made
by hand never finds more than one row. -/
theorem permission_checks_agree (d : Database) (t : Tenant) (u : User) (p : Permission)
    (ht : t ∈ d.tenants) (hs : u.isSuperuser = false) (hm : IsMember d.toTables u.id t.id) :
    (∀ env now h, Deps.currentActiveUser env now h d = .ok u →
      h.xTenantId = some (.valid t.id) →
      ((serve (Deps.requirePermissionInActiveTenant env now h p) d).1 = .ok (u, t) ↔
        Granted d u.id t.id p.value)) ∧
    ∃ b, Returns (Endpoints.checkUserPermissionForTenant u.id t.id p) d b d ∧
      (b = true ↔ Granted d u.id t.id p.value) := by
  constructor
  · intro env now h hu hx
    have hgate := Deps.yields_requirePermissionInActiveTenant env now h d p
    have hten : Deps.activeTenant h d.toTables u = .ok t :=
      (Deps.activeTenant_eq_ok hx).mpr ⟨ht, rfl, .inr hm⟩
    rw [← holdsPermission_iff_granted, hgate.serve_fst, Deps.permitted_eq_ok]
    constructor
    · rintro ⟨-, -, hp⟩
      exact hp.resolve_left (by simp [hs])
    · intro hp
      exact ⟨hu, hten, .inr hp⟩
  · refine ⟨_, Endpoints.returns_checkUserPermissionForTenant u.id t.id p, ?_⟩
    rw [decide_eq_true_eq, holdsPermission_iff_granted]

/-- The manager of the sample may manage the invitations of the first tenant. -/
theorem permission_checks_agree_sample :
    (∀ env now h, Deps.currentActiveUser env now h Database.sample =
        .ok ⟨1, "alice@acme.com", "$2b$12$a", some "Alice", true, false⟩ →
      h.xTenantId = some (.valid 1) →
      ((serve (Deps.requirePermissionInActiveTenant env now h .tenantManageInvitations)
          Database.sample).1 =
        .ok (⟨1, "alice@acme.com", "$2b$12$a", some "Alice", true, false⟩,
          ⟨1, "Acme", "acme", none, true⟩) ↔
        Granted Database.sample 1 1 Permission.tenantManageInvitations.value)) ∧
    ∃ b, Returns (Endpoints.checkUserPermissionForTenant 1 1 .tenantManageInvitations)
        Database.sample b Database.sample ∧
      (b = true ↔ Granted Database.sample 1 1 Permission.tenantManageInvitations.value) :=
  permission_checks_agree Database.sample ⟨1, "Acme", "acme", none, true⟩
    ⟨1, "alice@acme.com", "$2b$12$a", some "Alice", true, false⟩ .tenantManageInvitations
    (by decide) rfl (by decide)

/-! ## Lists of permissions -/

/-- What the two factories say that they require of a caller. -/
structure RequiresListed (env : Env) (now : Time) (h : Headers) (d : Database) (u : User)
    (tenantId : UUID) (permissions : List String) : Prop where
  any : (serve (Deps.requireAnyPermission env now h tenantId permissions) d).1 = .ok u ↔
    tenantId ∈ d.tenants.map (·.id) ∧
      (u.isSuperuser ∨ ∃ p ∈ permissions, Granted d u.id tenantId p)
  all : (serve (Deps.requireAllPermissions env now h tenantId permissions) d).1 = .ok u ↔
    tenantId ∈ d.tenants.map (·.id) ∧
      (u.isSuperuser ∨ ∀ p ∈ permissions, Granted d u.id tenantId p)

/-- The common check lets every active user through to a tenant that exists. -/
theorem serve_pathTenantUser {env : Env} {now : Time} {h : Headers} {d : Database} {u : User}
    (tenantId : UUID) (hu : Deps.currentActiveUser env now h d = .ok u) :
    (serve (Deps.pathTenantUser env now h tenantId) d).1 = .ok u ↔
      tenantId ∈ d.tenants.map (·.id) := by
  by_cases ht : ∃ t ∈ d.tenants, t.id = tenantId
  · obtain ⟨t, hmem, rfl⟩ := ht
    have huser := (Deps.yields_getCurrentActiveUser env now h d).returns hu
    have hret : Returns (Deps.pathTenantUser env now h t.id) d u _ :=
      (Deps.returns_getTenantFromPath hmem).bind huser
    rw [hret.serve]
    exact iff_of_true rfl (List.mem_map.mpr ⟨t, hmem, rfl⟩)
  · obtain ⟨e, he⟩ := ((Deps.fails_getTenantFromPath ht).bind fun _ =>
      Deps.getCurrentActiveUser env now h).serve
    rw [Deps.pathTenantUser, he]
    refine iff_of_false (by simp) fun hm => ht ?_
    obtain ⟨t, hmem, hid⟩ := List.mem_map.mp hm
    exact ⟨t, hmem, hid⟩

/-- The factories do not look at their lists, so that they require what they say only
of callers who have everything on the list anyway. -/
theorem requiresListed_iff (env : Env) (now : Time) (h : Headers) (d : Database) (u : User)
    (tenantId : UUID) (permissions : List String)
    (hu : Deps.currentActiveUser env now h d = .ok u) :
    RequiresListed env now h d u tenantId permissions ↔
      (tenantId ∈ d.tenants.map (·.id) →
        u.isSuperuser ∨ permissions ≠ [] ∧ ∀ p ∈ permissions, Granted d u.id tenantId p) := by
  have hgate := serve_pathTenantUser tenantId hu
  constructor
  · rintro ⟨hany, hall⟩ ht
    obtain ⟨-, hany⟩ := hany.mp (hgate.mpr ht)
    obtain ⟨-, hall⟩ := hall.mp (hgate.mpr ht)
    rcases hany with hs | ⟨p, hp, -⟩
    · exact .inl hs
    · exact hall.imp_right fun hall => ⟨List.ne_nil_of_mem hp, hall⟩
  · intro hcond
    refine ⟨?_, ?_⟩
    · refine hgate.trans ⟨fun ht => ⟨ht, ?_⟩, And.left⟩
      refine (hcond ht).imp_right fun ⟨hne, hall⟩ => ?_
      obtain ⟨p, hp⟩ := List.exists_mem_of_ne_nil permissions hne
      exact ⟨p, hp, hall p hp⟩
    · exact hgate.trans ⟨fun ht => ⟨ht, (hcond ht).imp_right And.right⟩, And.left⟩

theorem requiresListed_sample_iff :
    RequiresListed Env.sample 0 ⟨some "token-1", none, none, none, []⟩ Database.sample
        ⟨1, "alice@acme.com", "$2b$12$a", some "Alice", true, false⟩ 1 ["vm:read"] ↔
      (1 ∈ Database.sample.tenants.map (·.id) →
        (⟨1, "alice@acme.com", "$2b$12$a", some "Alice", true, false⟩ : User).isSuperuser ∨
        ["vm:read"] ≠ [] ∧ ∀ p ∈ ["vm:read"], Granted Database.sample 1 1 p) :=
  requiresListed_iff Env.sample 0 ⟨some "token-1", none, none, none, []⟩ Database.sample
    ⟨1, "alice@acme.com", "$2b$12$a", some "Alice", true, false⟩ 1 ["vm:read"] rfl

/-- A user without any role in a tenant passes the check for a permission there. -/
theorem not_requiresListed_sample :
    Deps.currentActiveUser Env.sample 0 ⟨some "token-1", none, none, none, []⟩ Database.sample =
        .ok ⟨1, "alice@acme.com", "$2b$12$a", some "Alice", true, false⟩ ∧
      ¬RequiresListed Env.sample 0 ⟨some "token-1", none, none, none, []⟩ Database.sample
        ⟨1, "alice@acme.com", "$2b$12$a", some "Alice", true, false⟩ 2 ["vm:read"] := by
  have hu : Deps.currentActiveUser Env.sample 0 ⟨some "token-1", none, none, none, []⟩
      Database.sample = .ok ⟨1, "alice@acme.com", "$2b$12$a", some "Alice", true, false⟩ := rfl
  refine ⟨hu, fun hr => ?_⟩
  have hpass := (serve_pathTenantUser 2 hu).mpr (by decide)
  rcases (hr.any.mp hpass).2 with hs | ⟨p, -, hp⟩
  · cases hs
  · rw [← holdsPermission_iff_granted] at hp
    have hmem := hp.isMember
    revert hmem
    decide

/-! ## The list of a user's permissions -/

/-- The permissions that a user's roles carry in a tenant. -/
def carried (d : Database) (userId tenantId : UUID) : List PermissionModel :=
  d.permissions.filter fun q => Carries d userId tenantId q

theorem mem_carried {d : Database} {userId tenantId : UUID} {q : PermissionModel} :
    q ∈ carried d userId tenantId ↔ Carries d userId tenantId q := by
  rw [carried, List.mem_filter, decide_eq_true_eq]
  exact and_iff_right_of_imp And.left

/-- The rows that the four joins leave for a user are the carried permissions. -/
theorem mem_permissionRows {d : Database} {userId tenantId : UUID} {q : PermissionModel} :
    (∃ p ∈ UserService.permissionRows d.toTables, (p.2.userId = userId ∧ p.2.tenantId = tenantId) ∧
      p.1.1.1 = q) ↔ Carries d userId tenantId q := by
  simp only [UserService.permissionRows, Joins.mem_join, decide_eq_true_eq]
  constructor
  · rintro ⟨⟨⟨⟨q, r, p⟩, role⟩, ⟨u, r', t⟩⟩, ⟨⟨⟨hq, hrp, hid⟩, hrole, hr⟩, hx, hr'⟩,
      ⟨rfl, rfl⟩, rfl⟩
    obtain rfl : q.id = p := hid
    obtain rfl : r = role.id := hr
    obtain rfl : role.id = r' := hr'
    exact ⟨hq, role, hrole, hx, hrp⟩
  · rintro ⟨hq, role, hrole, hx, hrp⟩
    exact ⟨(((q, _), role), _), ⟨⟨⟨hq, hrp, rfl⟩, hrole, rfl⟩, hx, rfl⟩, ⟨rfl, rfl⟩, rfl⟩

/-- The list that the user service makes has the names of the carried permissions. -/
theorem returns_getUserPermissionsInTenant (userId tenantId : UUID) (d : Database) :
    ∃ names, Returns (UserService.getUserPermissionsInTenant userId tenantId) d names d ∧
      names.Nodup ∧ ∀ name, name ∈ names ↔ name ∈ (carried d userId tenantId).map (·.name) := by
  refine ⟨_, returns_query _ d, Joins.nodup_distinct _, fun name => ?_⟩
  simp only [Joins.mem_distinct, List.mem_map, List.mem_filter, decide_eq_true_eq, mem_carried,
    ← mem_permissionRows]
  constructor
  · rintro ⟨p, ⟨hp, hu⟩, rfl⟩
    exact ⟨_, ⟨p, hp, hu, rfl⟩, rfl⟩
  · rintro ⟨_, ⟨p, hp, hu, rfl⟩, rfl⟩
    exact ⟨p, ⟨hp, hu⟩, rfl⟩

/-- The list of the user service answers the question that the dependency asks. -/
def ListsGranted (d : Database) (userId tenantId : UUID) : Prop :=
  ∃ codes, Returns (UserService.getUserPermissionsInTenant userId tenantId) d codes d ∧
    codes.Nodup ∧ ∀ code, code ∈ codes ↔ HoldsPermission d.toTables userId tenantId code

/-- The list has names where the dependency compares codes. It is right only when
each code that the user holds is also the name of a permission that the user
holds. -/
theorem listsGranted_iff (d : Database) (userId tenantId : UUID) :
    ListsGranted d userId tenantId ↔ ∀ q, Carries d userId tenantId q →
      ∃ q', Carries d userId tenantId q' ∧ q'.name = q.code := by
  obtain ⟨names, hret, hnodup, hnames⟩ := returns_getUserPermissionsInTenant userId tenantId d
  have hcodes (code : String) : HoldsPermission d.toTables userId tenantId code ↔
      code ∈ (carried d userId tenantId).map (·.code) := by
    rw [holdsPermission_iff_granted]
    simp only [Granted, List.mem_map, mem_carried]
  constructor
  · rintro ⟨codes, hret', -, hiff⟩ q hq
    obtain rfl : names = codes := by
      have hrun := (hret d).symm.trans (hret' d)
      exact Except.ok.inj (Prod.mk.inj hrun).1
    have hmem : q.code ∈ names :=
      (hiff q.code).mpr ((hcodes _).mpr (List.mem_map.mpr ⟨q, mem_carried.mpr hq, rfl⟩))
    obtain ⟨q', hq', hname⟩ := List.mem_map.mp ((hnames _).mp hmem)
    exact ⟨q', mem_carried.mp hq', hname⟩
  · intro hcond
    refine ⟨names, hret, hnodup, fun code => ?_⟩
    rw [hnames, hcodes]
    -- both columns are unique, so that one inclusion is enough
    refine (Rows.mem_column_iff ?_ ?_).symm
    · exact d.valid.keys.permissionsCode.sublist (List.filter_sublist.map _)
    · intro code hc
      obtain ⟨q, hq, rfl⟩ := List.mem_map.mp hc
      obtain ⟨q', hq', hname⟩ := hcond q (mem_carried.mp hq)
      exact List.mem_map.mpr ⟨q', mem_carried.mpr hq', hname⟩

/-- The manager of the sample holds `tenant:manage_invitations`, and the list says
`Manage Invitations`. -/
theorem not_listsGranted_sample : ¬ListsGranted Database.sample 1 1 := by
  rintro ⟨codes, hret, -, hiff⟩
  have hcodes : codes = ["Manage Invitations"] := by
    have hrun := hret Database.sample
    exact (Except.ok.inj (Prod.mk.inj hrun).1).symm
  have hmem := (hiff "tenant:manage_invitations").mpr (by decide)
  rw [hcodes] at hmem
  revert hmem
  decide

end VirtualStack
