import VirtualStack.Endpoints.Tenants
import VirtualStack.Pages

/-!
# The tenants a user can access

The list is a join with the assignments of the user. It has a row for each role,
so that a tenant stands there once only if the user has one role in it.
-/

namespace VirtualStack
namespace TenantService
open UnitOfWork

/-- The rows are the tenants in which the user has a role, each once, by name. -/
structure ListsEachOnce (d : Database) (userId : UUID) (rows : List Tenant) : Prop where
  nodup : rows.Nodup
  mem_iff : ∀ t, t ∈ rows ↔ t ∈ d.tenants ∧ IsMember d.toTables userId t.id
  sorted : rows.Pairwise fun x y => x.name ≤ y.name

/-- The user has at most one role in each tenant. -/
def OneRolePerTenant (t : Tables) (userId : UUID) : Prop :=
  ∀ x ∈ t.userTenantRoles, ∀ y ∈ t.userTenantRoles, x.userId = userId → y.userId = userId →
    x.tenantId = y.tenantId → x.roleId = y.roleId

section Listing

variable {d : Database} {userId : UUID} {t : Tenant}

/-- The assignments of a user in a tenant. -/
def assignmentsIn (d : Database) (userId tenantId : UUID) : List UserTenantRole :=
  d.userTenantRoles.filter fun x => x.tenantId = tenantId ∧ x.userId = userId

theorem mem_assignmentsIn {tenantId : UUID} {x : UserTenantRole} :
    x ∈ assignmentsIn d userId tenantId ↔
      x ∈ d.userTenantRoles ∧ x.tenantId = tenantId ∧ x.userId = userId := by
  rw [assignmentsIn, List.mem_filter, decide_eq_true_eq]

/-- The joined rows before they are ordered: a tenant is repeated for each assignment. -/
def accessRows (d : Database) (userId : UUID) : List Tenant :=
  d.tenants.flatMap fun t => List.replicate (assignmentsIn d userId t.id).length t

theorem returns_getMultiByUser (userId : UUID) (d : Database) :
    Returns (getMultiByUser userId) d
      ((accessRows d userId).mergeSort fun x y => x.name ≤ y.name) d := by
  have hrows : accessRows d userId = d.tenants.flatMap fun t =>
      (assignmentsIn d userId t.id).map fun _ => t :=
    List.flatMap_congr fun t _ => List.map_const'.symm
  rw [hrows]
  exact returns_query _ d

theorem mem_accessRows :
    t ∈ accessRows d userId ↔ t ∈ d.tenants ∧ IsMember d.toTables userId t.id := by
  rw [accessRows, List.mem_flatMap]
  constructor
  · rintro ⟨t', ht', hrep⟩
    obtain ⟨hne, rfl⟩ := List.mem_replicate.mp hrep
    obtain ⟨x, hx⟩ := List.exists_mem_of_length_pos (Nat.pos_of_ne_zero hne)
    obtain ⟨hmem, htenant, huser⟩ := mem_assignmentsIn.mp hx
    exact ⟨ht', x, hmem, huser, htenant⟩
  · rintro ⟨ht, x, hmem, huser, htenant⟩
    have hx := mem_assignmentsIn.mpr ⟨hmem, htenant, huser⟩
    exact ⟨t, ht, List.mem_replicate.mpr ⟨Nat.ne_of_gt (List.length_pos_of_mem hx), rfl⟩⟩

theorem nodup_accessRows :
    (accessRows d userId).Nodup ↔ ∀ t ∈ d.tenants, (assignmentsIn d userId t.id).length ≤ 1 := by
  have htenants : d.tenants.Nodup := List.Nodup.of_map _ d.valid.keys.tenantsId
  rw [accessRows, List.nodup_flatMap]
  simp only [List.nodup_replicate]
  refine and_iff_left (htenants.imp fun {t t'} hne x hx hx' => hne ?_)
  rw [← (List.mem_replicate.mp hx).2, ← (List.mem_replicate.mp hx').2]

theorem oneRolePerTenant_iff : OneRolePerTenant d.toTables userId ↔
    ∀ t ∈ d.tenants, (assignmentsIn d userId t.id).length ≤ 1 := by
  have hlen : ∀ tenantId, (assignmentsIn d userId tenantId).length ≤ 1 ↔
      ∀ x ∈ assignmentsIn d userId tenantId, ∀ y ∈ assignmentsIn d userId tenantId, x = y :=
    fun _ => Rows.length_le_one_iff (d.valid.keys.userTenantRoles.filter _)
  simp only [hlen, mem_assignmentsIn]
  constructor
  · rintro h t - x ⟨hx, htx, hux⟩ y ⟨hy, hty, huy⟩
    obtain ⟨ux, rx, tx⟩ := x
    obtain ⟨uy, ry, ty⟩ := y
    have hrole := h _ hx _ hy hux huy (htx.trans hty.symm)
    rw [UserTenantRole.mk.injEq]
    exact ⟨hux.trans huy.symm, hrole, htx.trans hty.symm⟩
  · intro h x hx y hy hux huy htenant
    obtain ⟨t, ht, hid⟩ := List.mem_map.mp (d.valid.references.assignmentTenant x hx)
    rw [h t ht x ⟨hx, hid.symm, hux⟩ y ⟨hy, htenant.symm.trans hid.symm, huy⟩]

theorem listsEachOnce_iff_nodup :
    (∃ rows, Returns (getMultiByUser userId) d rows d ∧ ListsEachOnce d userId rows) ↔
      (accessRows d userId).Nodup := by
  have hreturns := returns_getMultiByUser userId d
  constructor
  · rintro ⟨rows, hrows, hlist⟩
    obtain ⟨rfl, -⟩ := hreturns.unique hrows
    exact (List.mergeSort_perm _ _).nodup_iff.mp hlist.nodup
  · intro hn
    refine ⟨_, hreturns, (List.mergeSort_perm _ _).nodup_iff.mpr hn, fun t => ?_, ?_⟩
    · rw [List.mem_mergeSort, mem_accessRows]
    · exact Pages.pairwise_mergeSort_key (accessRows d userId)

end Listing

/-- The list of accessible tenants is right exactly for the users who have at most one
role in each tenant. -/
theorem accessible_tenants_iff (d : Database) (userId : UUID) :
    (∃ rows, Returns (getMultiByUser userId) d rows d ∧ ListsEachOnce d userId rows) ↔
      OneRolePerTenant d.toTables userId := by
  rw [oneRolePerTenant_iff, listsEachOnce_iff_nodup, nodup_accessRows]

/-- Alice has both roles of the first tenant. -/
def twoRoles : Database where
  toTables := Database.sample.addAssignment ⟨1, 1, 1⟩
  valid := by decide

/-- Her one tenant is listed twice. -/
theorem tenant_listed_twice :
    (serve (getMultiByUser 1) twoRoles).1 =
      .ok [⟨1, "Acme", "acme", none, true⟩, ⟨1, "Acme", "acme", none, true⟩] ∧
    ¬∃ rows, Returns (getMultiByUser 1) twoRoles rows twoRoles ∧ ListsEachOnce twoRoles 1 rows := by
  constructor
  · rw [(returns_getMultiByUser 1 twoRoles).serve]
    rw [List.mergeSort_of_pairwise (by decide)]
    rfl
  · rw [listsEachOnce_iff_nodup]
    decide

end TenantService
end VirtualStack
