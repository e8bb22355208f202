import Mathlib.Data.List.TFAE
import VirtualStack.AccessibleTenants
import VirtualStack.UserPages

/-!
# Who belongs to a tenant

Whether a user has a role in a tenant is asked in six places, each of which has a query of
its own: over the assignments alone, from the roles, from the users, from the tenants, for
a page and in the dependency for the active tenant.
-/

namespace VirtualStack
open UnitOfWork

namespace UserService

/-- Without the limit the query would raise for a user with several roles. -/
def isUserInTenant (userId tenantId : UUID) : Db Bool := do
  let rows ← query fun d => ((d.userTenantRoles.filter fun x =>
    x.userId = userId ∧ x.tenantId = tenantId).map (·.userId)).take 1
  let found ← lift (Joins.scalarOneOrNone .multipleResultsFound rows)
  pure found.isSome

/-- The roles of the user in the tenant, from the join with the assignments. -/
def userRoles (d : Database) (userId tenantId : UUID) : List Role :=
  ((Joins.join (fun r x => r.id = x.roleId) d.roles d.userTenantRoles).filter fun p =>
    p.2.userId = userId ∧ p.2.tenantId = tenantId).map Prod.fst

def getUserRolesInTenant (userId tenantId : UUID) : Db (List Role) :=
  query fun d => userRoles d userId tenantId

section Queries

variable {d : Database} {userId tenantId : UUID}

theorem returns_isUserInTenant (userId tenantId : UUID) (d : Database) :
    Returns (isUserInTenant userId tenantId) d
      (decide (IsMember d.toTables userId tenantId)) d := by
  refine (returns_query _ d).bind ?_
  cases hrows : d.userTenantRoles.filter fun x => x.userId = userId ∧ x.tenantId = tenantId with
  | nil =>
    have hno : ¬IsMember d.toTables userId tenantId := by
      rintro ⟨x, hx, hu, ht⟩
      simpa [hu, ht] using List.filter_eq_nil_iff.mp hrows x hx
    rw [decide_eq_false hno]
    exact (returns_lift rfl d).bind (returns_pure false d)
  | cons x rows =>
    have hx : x ∈ d.userTenantRoles.filter fun x => x.userId = userId ∧ x.tenantId = tenantId := by
      rw [hrows]
      exact List.mem_cons_self
    obtain ⟨hmem, hp⟩ := List.mem_filter.mp hx
    obtain ⟨hu, ht⟩ := of_decide_eq_true hp
    have hyes : IsMember d.toTables userId tenantId := ⟨x, hmem, hu, ht⟩
    rw [decide_eq_true hyes]
    exact (returns_lift rfl d).bind (returns_pure true d)

theorem mem_userRoles {r : Role} : r ∈ userRoles d userId tenantId ↔
    r ∈ d.roles ∧ ⟨userId, r.id, tenantId⟩ ∈ d.userTenantRoles := by
  simp only [userRoles, List.mem_map, List.mem_filter, Joins.mem_join, decide_eq_true_eq]
  constructor
  · rintro ⟨⟨r, _, roleId, _⟩, ⟨⟨hr, hx, hid⟩, rfl, rfl⟩, rfl⟩
    obtain rfl : r.id = roleId := hid
    exact ⟨hr, hx⟩
  · rintro ⟨hr, hx⟩
    exact ⟨(r, _), ⟨⟨hr, hx, rfl⟩, rfl, rfl⟩, rfl⟩

/-- A user belongs to a tenant when some role is found, as assignments name roles that
are stored. -/
theorem isMember_iff_userRoles :
    IsMember d.toTables userId tenantId ↔ ∃ r roles, userRoles d userId tenantId = r :: roles := by
  rw [← List.ne_nil_iff_exists_cons]
  constructor
  · rintro ⟨⟨_, roleId, _⟩, hx, rfl, rfl⟩
    obtain ⟨r, hr, rfl⟩ := List.mem_map.mp (d.valid.references.assignmentRole _ hx)
    exact List.ne_nil_of_mem (mem_userRoles.mpr ⟨hr, hx⟩)
  · intro hne
    obtain ⟨r, hr⟩ := List.exists_mem_of_ne_nil _ hne
    exact ⟨_, (mem_userRoles.mp hr).2, rfl, rfl⟩

end Queries

section Agreement

variable {d : Database} {u : User} {t : Tenant}

theorem isUserInTenant_iff : Returns (isUserInTenant u.id t.id) d true d ↔
    IsMember d.toTables u.id t.id := by
  have hret := returns_isUserInTenant u.id t.id d
  constructor
  · exact fun h => of_decide_eq_true (hret.unique h).1
  · exact fun h => decide_eq_true h ▸ hret

theorem getUserRolesInTenant_iff :
    (∃ r roles, Returns (getUserRolesInTenant u.id t.id) d (r :: roles) d) ↔
      IsMember d.toTables u.id t.id := by
  have hret : Returns (getUserRolesInTenant u.id t.id) d (userRoles d u.id t.id) d :=
    returns_query _ d
  rw [isMember_iff_userRoles]
  constructor
  · exact fun ⟨r, roles, h⟩ => ⟨r, roles, (hret.unique h).1⟩
  · exact fun ⟨r, roles, h⟩ => ⟨r, roles, h ▸ hret⟩

theorem getByIdAndTenant_iff (hu : u ∈ d.users) :
    Returns (getByIdAndTenant u.id t.id) d (some u) d ↔ IsMember d.toTables u.id t.id := by
  have hret : Returns (getByIdAndTenant u.id t.id) d (byIdAndTenant d u.id t.id) d :=
    returns_query _ d
  constructor
  · exact fun h => (byIdAndTenant_eq_some.mp (hret.unique h).1).2.2
  · exact fun h => byIdAndTenant_eq_some.mpr ⟨hu, rfl, h⟩ ▸ hret

/-- A member is on the page that is long enough. -/
theorem getMultiByTenantPaginated_iff (hu : u ∈ d.users) :
    (∃ skip limit rows total,
      Returns (getMultiByTenantPaginated t.id skip limit none) d (rows, total) d ∧
      u ∈ rows.map Prod.fst) ↔ IsMember d.toTables u.id t.id := by
  have hsearch : (none : Option String).getD "" = "" := rfl
  constructor
  · rintro ⟨skip, limit, rows, total, h, hmem⟩
    obtain ⟨rows', hret, hrows⟩ := returns_getMultiByTenantPaginated hsearch skip limit d
    obtain rfl : rows' = rows := congrArg Prod.fst (hret.unique h).1
    rw [hrows] at hmem
    exact (mem_usersOfTenant.mp (List.mem_of_mem_drop (List.mem_of_mem_take hmem))).2
  · intro h
    obtain ⟨rows, hret, hrows⟩ := returns_getMultiByTenantPaginated hsearch 0
      (usersOfTenant d t.id).length d
    refine ⟨0, _, rows, _, hret, ?_⟩
    rw [hrows, Pages.slice, List.drop_zero, List.take_length]
    exact mem_usersOfTenant.mpr ⟨hu, h⟩

theorem getMultiByUser_iff (ht : t ∈ d.tenants) :
    (∃ tenants, Returns (TenantService.getMultiByUser u.id) d tenants d ∧ t ∈ tenants) ↔
      IsMember d.toTables u.id t.id := by
  have hret := TenantService.returns_getMultiByUser u.id d
  constructor
  · rintro ⟨tenants, h, hmem⟩
    rw [← (hret.unique h).1, List.mem_mergeSort] at hmem
    exact (TenantService.mem_accessRows.mp hmem).2
  · intro h
    exact ⟨_, hret, List.mem_mergeSort.mpr (TenantService.mem_accessRows.mpr ⟨ht, h⟩)⟩

theorem getCurrentActiveTenant_iff (ht : t ∈ d.tenants) (hs : u.isSuperuser = false) :
    (∀ h : Headers, h.xTenantId = some (.valid t.id) →
      Returns (Deps.getCurrentActiveTenant h u) d t d) ↔ IsMember d.toTables u.id t.id := by
  have hok : ∀ h : Headers, h.xTenantId = some (.valid t.id) →
      (Returns (Deps.getCurrentActiveTenant h u) d t d ↔ IsMember d.toTables u.id t.id) := by
    intro h hx
    have hyields := Deps.yields_getCurrentActiveTenant h d u
    constructor
    · intro hret
      have hactive := hyields.serve_fst
      rw [hret.serve] at hactive
      exact ((Deps.activeTenant_eq_ok hx).mp hactive.symm).2.2.resolve_left (by simp [hs])
    · exact fun hm => hyields.returns ((Deps.activeTenant_eq_ok hx).mpr ⟨ht, rfl, .inr hm⟩)
  constructor
  · exact fun h => (hok ⟨none, none, none, some (.valid t.id), []⟩ rfl).mp (h _ rfl)
  · exact fun hm h hx => (hok h hx).mpr hm

end Agreement

/-- The six queries agree on whether a user belongs to a tenant. -/
theorem membership_tfae (d : Database) {u : User} {t : Tenant} (hu : u ∈ d.users)
    (ht : t ∈ d.tenants) (hs : u.isSuperuser = false) :
    [Returns (isUserInTenant u.id t.id) d true d,
      ∃ r roles, Returns (getUserRolesInTenant u.id t.id) d (r :: roles) d,
      Returns (getByIdAndTenant u.id t.id) d (some u) d,
      ∃ skip limit rows total,
        Returns (getMultiByTenantPaginated t.id skip limit none) d (rows, total) d ∧
        u ∈ rows.map Prod.fst,
      ∃ tenants, Returns (TenantService.getMultiByUser u.id) d tenants d ∧ t ∈ tenants,
      ∀ h : Headers, h.xTenantId = some (.valid t.id) →
        Returns (Deps.getCurrentActiveTenant h u) d t d].TFAE := by
  refine List.tfae_of_forall (IsMember d.toTables u.id t.id) _ ?_
  simp only [List.forall_mem_cons, List.not_mem_nil, false_implies, implies_true, and_true]
  exact ⟨isUserInTenant_iff, getUserRolesInTenant_iff, getByIdAndTenant_iff hu,
    getMultiByTenantPaginated_iff hu, getMultiByUser_iff ht, getCurrentActiveTenant_iff ht hs⟩

theorem membership_tfae_sample :
    [Returns (isUserInTenant 1 1) Database.sample true Database.sample,
      ∃ r roles, Returns (getUserRolesInTenant 1 1) Database.sample (r :: roles) Database.sample,
      Returns (getByIdAndTenant 1 1) Database.sample
        (some ⟨1, "alice@acme.com", "$2b$12$a", some "Alice", true, false⟩) Database.sample,
      ∃ skip limit rows total,
        Returns (getMultiByTenantPaginated 1 skip limit none) Database.sample (rows, total)
          Database.sample ∧
        ⟨1, "alice@acme.com", "$2b$12$a", some "Alice", true, false⟩ ∈ rows.map Prod.fst,
      ∃ tenants, Returns (TenantService.getMultiByUser 1) Database.sample tenants
        Database.sample ∧ ⟨1, "Acme", "acme", none, true⟩ ∈ tenants,
      ∀ h : Headers, h.xTenantId = some (.valid 1) →
        Returns (Deps.getCurrentActiveTenant h
            ⟨1, "alice@acme.com", "$2b$12$a", some "Alice", true, false⟩) Database.sample
          ⟨1, "Acme", "acme", none, true⟩ Database.sample].TFAE :=
  membership_tfae Database.sample
    (u := ⟨1, "alice@acme.com", "$2b$12$a", some "Alice", true, false⟩)
    (t := ⟨1, "Acme", "acme", none, true⟩) (by decide) (by decide) rfl

end UserService
end VirtualStack
