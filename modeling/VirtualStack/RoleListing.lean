import Mathlib.Data.Finset.Card
import VirtualStack.Endpoints.Roles
import VirtualStack.Pages

/-!
# The roles of a tenant as they are listed

Both listings build the filter `tenant_id == tenant_id | is_system_role == True`.
Python binds `|` tighter than `==`, so the operator is applied to a `UUID` and a
column before anything is compared.
-/

namespace VirtualStack
open UnitOfWork

/-- What may stand at the left of `|` in a filter over roles. -/
inductive Operand where
  | uuid (x : UUID)
  | clause (holds : Role → Bool)

/-- `x | y` for a clause `y`. SQLAlchemy gives the operator to its clauses as a left
operand only, and a `UUID` has none. -/
def Operand.or (x : Operand) (y : Role → Bool) : Except Exc (Role → Bool) :=
  match x with
  | uuid _ => .error .typeError
  | clause holds => .ok fun r => holds r || y r

namespace RoleService

variable {d : Database} {tenantId : UUID} {skip limit : ℕ}

/-- The filter, whatever the two comparisons make of the operator's value. -/
def roleFilter (compare : (Role → Bool) → Except Exc (Role → Bool)) (tenantId : UUID) :
    Except Exc (Role → Bool) := do
  let either ← Operand.or (.uuid tenantId) Role.isSystemRole
  compare either

/-- `user_count_subq`: how many users have each role in the tenant. -/
def userCounts (d : Database) (tenantId : UUID) : List (UUID × ℕ) :=
  Joins.countBy (·.roleId) (d.userTenantRoles.filter (·.tenantId = tenantId))

/-- The query of the counted listing, with its filter. -/
def countedRoles (keep : Role → Bool) (d : Database) (tenantId : UUID) : List (Role × ℕ) :=
  (((Joins.leftJoin (fun r c => c.1 = r.id) d.roles (userCounts d tenantId)).filter
    fun p => keep p.1).map fun p => (p.1, (p.2.map Prod.snd).getD 0)).mergeSort
      fun p q => p.1.name ≤ q.1.name

theorem getMultiByTenant_eq (compare : (Role → Bool) → Except Exc (Role → Bool)) :
    getMultiByTenant tenantId skip limit = (do
      let keep ← lift (roleFilter compare tenantId)
      query fun d => Pages.slice skip limit
        ((d.roles.filter keep).mergeSort fun r r' => r.name ≤ r'.name)) := rfl

theorem getMultiByTenantWithUserCount_eq
    (compare : (Role → Bool) → Except Exc (Role → Bool)) :
    getMultiByTenantWithUserCount tenantId skip limit = (do
      let keep ← lift (roleFilter compare tenantId)
      query fun d => Pages.slice skip limit (countedRoles keep d tenantId)) := rfl

theorem raises_getMultiByTenant (d : Database) :
    Raises (getMultiByTenant tenantId skip limit) d .typeError := raises_throw _ d

theorem raises_getMultiByTenantWithUserCount (d : Database) :
    Raises (getMultiByTenantWithUserCount tenantId skip limit) d .typeError := raises_throw _ d

/-! ## What the listings are for -/

/-- The distinct users that have a role in a tenant. -/
def assignedUsers (d : Database) (roleId tenantId : UUID) : Finset UUID :=
  ((d.userTenantRoles.filter fun x => x.roleId = roleId ∧ x.tenantId = tenantId).map
    (·.userId)).toFinset

/-- The roles accessible in a tenant, each once, in the order of their names. -/
structure RoleList (d : Database) (tenantId : UUID) (roles : List Role) : Prop where
  nodup : roles.Nodup
  mem_iff : ∀ r, r ∈ roles ↔ r ∈ d.roles ∧ Accessible r tenantId
  ordered : roles.Pairwise fun r r' => r.name ≤ r'.name

/-- `get_multi_by_tenant` answers with the slice of them. -/
def ListsRoles (d : Database) (tenantId : UUID) (skip limit : ℕ) : Prop :=
  ∃ roles, RoleList d tenantId roles ∧
    Returns (getMultiByTenant tenantId skip limit) d (Pages.slice skip limit roles) d

/-- A counted listing answers with the slice of them, each with its number of users. -/
def ListsCounts (listing : Db (List (Role × ℕ))) (d : Database) (tenantId : UUID)
    (skip limit : ℕ) : Prop :=
  ∃ roles, RoleList d tenantId roles ∧
    Returns listing d ((Pages.slice skip limit roles).map fun r =>
      (r, (assignedUsers d r.id tenantId).card)) d

/-- An assignment is stored once, so its users are counted once. -/
theorem card_assignedUsers (d : Database) (roleId tenantId : UUID) :
    (assignedUsers d roleId tenantId).card =
      (d.userTenantRoles.filter (·.tenantId = tenantId)).countP (·.roleId = roleId) := by
  have hn : ((d.userTenantRoles.filter
      fun x => x.roleId = roleId ∧ x.tenantId = tenantId).map (·.userId)).Nodup := by
    refine (d.valid.keys.userTenantRoles.filter _).map_on fun x hx y hy hu => ?_
    obtain ⟨-, hx⟩ := List.mem_filter.mp hx
    obtain ⟨-, hy⟩ := List.mem_filter.mp hy
    obtain ⟨rfl, rfl⟩ := of_decide_eq_true hx
    obtain ⟨hr, ht⟩ := of_decide_eq_true hy
    obtain ⟨u, r, t⟩ := x
    obtain ⟨u', r', t'⟩ := y
    simp only at hu hr ht
    rw [hu, hr, ht]
  rw [assignedUsers, List.toFinset_card_of_nodup hn, List.length_map, List.countP_eq_length_filter,
    List.filter_filter]
  simp only [Bool.decide_and]

theorem countedRoles_eq (keep : Role → Bool) (d : Database) (tenantId : UUID) :
    countedRoles keep d tenantId =
      ((d.roles.filter keep).mergeSort fun r r' => r.name ≤ r'.name).map fun r =>
        (r, (assignedUsers d r.id tenantId).card) := by
  have hrow : ∀ r : Role, (((userCounts d tenantId).find? (·.1 = r.id)).map Prod.snd).getD 0 =
      (assignedUsers d r.id tenantId).card := by
    intro r
    rw [card_assignedUsers]
    exact Joins.coalesce_countBy
  have hrows : ((Joins.leftJoin (fun r c => c.1 = r.id) d.roles (userCounts d tenantId)).filter
      fun p => keep p.1).map (fun p => (p.1, (p.2.map Prod.snd).getD 0)) =
      (d.roles.filter keep).map fun r => (r, (assignedUsers d r.id tenantId).card) := by
    rw [userCounts, Joins.leftJoin_countBy, List.filter_map, List.map_map]
    exact List.map_congr_left fun r _ => congrArg (r, ·) (hrow r)
  rw [countedRoles, hrows]
  exact (List.map_mergeSort (r := fun r r' : Role => decide (r.name ≤ r'.name))
    (f := fun r => (r, (assignedUsers d r.id tenantId).card)) fun _ _ _ _ => rfl).symm

theorem roleList_mergeSort {keep : Role → Bool} (hkeep : ∀ r, keep r ↔ Accessible r tenantId)
    (d : Database) : RoleList d tenantId
      ((d.roles.filter keep).mergeSort fun r r' => r.name ≤ r'.name) := by
  constructor
  · have hn : d.roles.Nodup := List.Nodup.of_map _ d.valid.keys.rolesId
    exact (List.mergeSort_perm _ _).nodup_iff.mpr (hn.filter keep)
  · intro r
    rw [List.mem_mergeSort, List.mem_filter, hkeep]
  · exact Pages.pairwise_mergeSort_key (r := (· ≤ ·)) _

/-- The query would do with a filter that keeps the accessible roles. -/
theorem lists_of_filter {keep : Role → Bool} (hkeep : ∀ r, keep r ↔ Accessible r tenantId)
    (d : Database) :
    ListsCounts (query fun d => Pages.slice skip limit (countedRoles keep d tenantId)) d tenantId
      skip limit := by
  refine ⟨_, roleList_mergeSort hkeep d, ?_⟩
  have hreturns := returns_query (ε := Exc)
    (fun d => Pages.slice skip limit (countedRoles keep d tenantId)) d
  rw [countedRoles_eq] at hreturns
  rw [Pages.slice, List.map_take, List.map_drop]
  exact hreturns

/-- Neither listing ever answers: the filter raises a `TypeError` before a statement is
sent. -/
theorem roles_never_listed (d : Database) (tenantId : UUID) (skip limit : ℕ) :
    ¬ListsCounts (getMultiByTenantWithUserCount tenantId skip limit) d tenantId skip limit ∧
      ¬ListsRoles d tenantId skip limit := by
  constructor
  · rintro ⟨_, -, h⟩
    exact (raises_getMultiByTenantWithUserCount d).fails.not_returns h
  · rintro ⟨_, -, h⟩
    exact (raises_getMultiByTenant d).fails.not_returns h

/-- Acme has two roles; the first page of a hundred is a `TypeError`. -/
theorem acme_roles_not_listed :
    serve (getMultiByTenantWithUserCount 1 0 100) Database.sample =
        (.error .typeError, .start Database.sample) ∧
      RoleList Database.sample 1 Database.sample.roles ∧
      ¬ListsCounts (getMultiByTenantWithUserCount 1 0 100) Database.sample 1 0 100 := by
  have hraises : Raises (getMultiByTenantWithUserCount 1 0 100) Database.sample .typeError :=
    raises_getMultiByTenantWithUserCount Database.sample
  have howned : ∀ r ∈ Database.sample.roles, r.tenantId = some 1 := by decide
  refine ⟨hraises.serve, ⟨by decide, fun r => ?_, by decide⟩, ?_⟩
  · exact ⟨fun hr => ⟨hr, .inr (howned r hr)⟩, And.left⟩
  · rintro ⟨_, -, h⟩
    exact hraises.fails.not_returns h

end RoleService

/-- So the endpoint answers no request. -/
theorem Endpoints.listRolesInActiveTenant_ne_ok (env : Env) (now : Time) (h : Headers)
    (skip limit : ℕ) (d : Database) (rows : List (Role × ℕ)) :
    (serve (Endpoints.listRolesInActiveTenant env now h skip limit) d).1 ≠ .ok rows := by
  rw [Endpoints.listRolesInActiveTenant, serve, run_bind]
  rcases (Deps.requirePermissionInActiveTenant env now h .roleRead).run (.start d)
    with ⟨_ | ⟨_, t⟩, s⟩
  · simp
  · simp [RoleService.getMultiByTenantWithUserCount]

end VirtualStack
