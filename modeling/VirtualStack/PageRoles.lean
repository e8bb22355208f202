import VirtualStack.Dicts
import VirtualStack.UserPages

/-!
# The roles beside the listed users

The second query of `get_multi_by_tenant_paginated` and the loop that groups its
rows, for whatever order the server sends them in.
-/

namespace VirtualStack
open UnitOfWork Dicts

/-- A value computed from what a query reads is read by a query. -/
theorem query_bind_pure {α β : Type} (f : Database → α) (g : α → β) :
    (query f >>= fun a => pure (g a) : Db β) = query fun d => g (f d) := by
  have hrun : ∀ s, (query f >>= fun a => pure (g a) : Db β).run s =
      (query fun d => g (f d)).run s := by
    intro s
    rw [run_bind]
    simp only [query]
    rcases flush.run s with ⟨_ | _, s'⟩ <;> rfl
  exact congrArg Tx.mk (funext hrun)

namespace UserService

/-- `roles_stmt`: the assignments of a tenant to the given users, each with the name of
its role. -/
def roleRows (d : Database) (tenantId : UUID) (userIds : List UUID) : List (UUID × String) :=
  ((Joins.join (fun x r => x.roleId = r.id) d.userTenantRoles d.roles).filter
    fun p => p.1.tenantId = tenantId ∧ p.1.userId ∈ userIds).map fun p => (p.1.userId, p.2.name)

/-- The dictionary from user ids to role names. Without users no query is sent. -/
def userRolesMap (order : RowOrder (UUID × String)) (d : Database) (tenantId : UUID)
    (users : List User) : Dict UUID (List String) :=
  if users = [] then .empty
  else (order.arrange (roleRows d tenantId (users.map (·.id)))).foldl collect .empty

section Rows

variable {d : Database} {tenantId : UUID} {order : RowOrder (UUID × String)}

/-- An assignment has one role. -/
theorem join_assignments_roles (d : Database) :
    Joins.join (fun x r => x.roleId = r.id) d.userTenantRoles d.roles =
      d.userTenantRoles.filterMap fun x => (d.roles.find? (x.roleId = ·.id)).map (x, ·) := by
  refine Joins.join_eq_filterMap fun x _ => ?_
  rw [Rows.length_le_one_iff ((List.Nodup.of_map _ d.valid.keys.rolesId).filter _)]
  intro r hr r' hr'
  obtain ⟨hr, hid⟩ := List.mem_filter.mp hr
  obtain ⟨hr', hid'⟩ := List.mem_filter.mp hr'
  exact Rows.eq_of_key_eq d.valid.keys.rolesId hr hr'
    ((of_decide_eq_true hid).symm.trans (of_decide_eq_true hid'))

/-- The rows of one user of the page carry the names of the roles of that user. -/
theorem filter_roleRows {userId : UUID} {userIds : List UUID} (h : userId ∈ userIds) :
    ((roleRows d tenantId userIds).filter (·.1 = userId)).map Prod.snd =
      roleNames d userId tenantId := by
  rw [roleRows, join_assignments_roles, roleNames]
  induction d.userTenantRoles with
  | nil => rfl
  | cons x xs ih =>
    rw [List.filterMap_cons, List.filter_cons]
    simp only [eq_comm (a := x.roleId), Bool.decide_and] at ih ⊢
    cases hr : d.roles.find? (·.id = x.roleId) with
    | none =>
      rw [Option.map_none]
      dsimp only
      rw [ih]
      split_ifs
      · simp [hr]
      · rfl
    | some r =>
      rw [Option.map_some]
      dsimp only
      rw [List.filter_cons]
      by_cases ht : x.tenantId = tenantId
      · by_cases hu : x.userId = userId
        · simp [ht, hu, h, hr, ih]
        · by_cases hm : x.userId ∈ userIds <;> simp [ht, hu, hm, ih]
      · simp [ht, ih]

/-- Whatever the order of the rows, a user of the page gets the names of their roles. -/
theorem perm_userRolesMap {users : List User} {u : User} (h : u ∈ users) :
    ((userRolesMap order d tenantId users).getD u.id []).Perm (roleNames d u.id tenantId) := by
  have hmem : u.id ∈ users.map (·.id) := List.mem_map_of_mem h
  rw [userRolesMap, if_neg (List.ne_nil_of_mem h), ← filter_roleRows hmem, ← getD_collected]
  exact perm_getD_collected (order.perm _) u.id

theorem userRolesMap_stored {users : List User} {u : User} (h : u ∈ users) :
    (userRolesMap .stored d tenantId users).getD u.id [] = roleNames d u.id tenantId := by
  rw [userRolesMap, if_neg (List.ne_nil_of_mem h), getD_collected]
  exact filter_roleRows (List.mem_map_of_mem h)

/-- A role of the tenant is listed as often as rows assign a role of its name. -/
theorem count_roleNames (userId : UUID) (name : String) :
    (roleNames d userId tenantId).count name = d.userTenantRoles.countP fun x =>
      x.userId = userId ∧ x.tenantId = tenantId ∧
        ∃ r ∈ d.roles, r.id = x.roleId ∧ r.name = name := by
  rw [roleNames, List.count_filterMap, List.countP_filter]
  refine List.countP_congr fun x _ => ?_
  have hrole : (d.roles.find? (·.id = x.roleId)).map (·.name) = some name ↔
      ∃ r ∈ d.roles, r.id = x.roleId ∧ r.name = name := by
    simp only [Option.map_eq_some_iff, Rows.find?_key_eq_some d.valid.keys.rolesId, and_assoc]
  simp only [beq_iff_eq, hrole, Bool.and_eq_true, decide_eq_true_eq]
  constructor
  · rintro ⟨hr, hu, ht⟩
    exact ⟨hu, ht, hr⟩
  · rintro ⟨hu, ht, hr⟩
    exact ⟨hr, hu, ht⟩

end Rows

section Listing

variable (lower : String → String) (like : String → String → Bool)
  (order : RowOrder (UUID × String))

/-- `get_multi_by_tenant_paginated` with its second query and the loop over its rows. -/
def pageWithRoles (tenantId : UUID) (skip limit : ℕ) (search : Option String) :
    Db (List (User × List String) × ℕ) := do
  let accepts ← lift (accepted lower like search)
  let totalCount ← query fun d => (baseQuery d tenantId accepts).length
  let users ← query fun d => Pages.slice skip limit
    ((baseQuery d tenantId accepts).mergeSort fun x y => x.email ≤ y.email)
  let roles ← query fun d => userRolesMap order d tenantId users
  pure (users.map fun u => (u, roles.getD u.id []), totalCount)

end Listing

section Listed

variable {lower : String → String} {like : String → String → Bool}
  {order : RowOrder (UUID × String)} {d : Database} {tenantId : UUID} {search : Option String}

theorem returns_pageWithRoles (hs : search.getD "" = "") (skip limit : ℕ) :
    Returns (pageWithRoles lower like order tenantId skip limit search) d
      ((Pages.slice skip limit (usersOfTenant d tenantId)).map fun u => (u, (userRolesMap order d
        tenantId (Pages.slice skip limit (usersOfTenant d tenantId))).getD u.id []),
        (usersOfTenant d tenantId).length) d := by
  rw [pageWithRoles, accepted, if_neg (not_not.mpr hs)]
  simp only [usersOfTenant_eq, List.length_mergeSort]
  exact (returns_lift rfl d).bind ((returns_query _ d).bind ((returns_query _ d).bind
    ((returns_query _ d).bind (returns_pure _ d))))

/-- With the rows as they are stored, this is the listing of the service model. -/
theorem pageWithRoles_stored (skip limit : ℕ) :
    pageWithRoles lower like .stored tenantId skip limit search =
      getMultiByTenantPaginated tenantId skip limit search := by
  have heq := @getMultiByTenantPaginated_eq tenantId lower like search skip limit
  rw [heq, pageWithRoles]
  refine congrArg _ (funext fun accepts => congrArg _ (funext fun totalCount =>
    congrArg _ (funext fun users => ?_)))
  rw [query_bind_pure, query_bind_pure]
  refine congrArg query (funext fun d => Prod.ext ?_ rfl)
  dsimp only
  rw [← List.map_prod_left_eq_zip]
  refine List.map_congr_left fun u hu => ?_
  rw [userRolesMap_stored hu]

/-- In any order it lists the same names beside a user. -/
theorem pageWithRoles_names {skip limit total : ℕ} {rows : List (User × List String)}
    {d' : Database} (h : Returns (pageWithRoles lower like order tenantId skip limit search) d
      (rows, total) d') : ∀ p ∈ rows, p.2.Perm (roleNames d p.1.id tenantId) := by
  by_cases hs : search.getD "" = ""
  · obtain ⟨hr, -⟩ := h.unique (returns_pageWithRoles hs skip limit)
    rintro p hp
    rw [(Prod.mk.inj hr).1] at hp
    obtain ⟨u, hu, rfl⟩ := List.mem_map.mp hp
    exact perm_userRolesMap hu
  · have hraises : Raises (pageWithRoles lower like order tenantId skip limit search) d
        .attributeError := by
      rw [pageWithRoles, accepted, if_pos hs]
      exact (raises_throw _ d).bind _
    exact absurd h hraises.fails.not_returns

/-- Beside each user of a page stands, once for each row that assigns it to that user
in that tenant, the name of a role, and nothing else. -/
theorem page_role_names {skip limit total : ℕ} {rows : List (User × List String)}
    {d' : Database} (h : Returns (pageWithRoles lower like order tenantId skip limit search) d
      (rows, total) d') :
    ∀ p ∈ rows, ∀ name, p.2.count name = d.userTenantRoles.countP fun x =>
      x.userId = p.1.id ∧ x.tenantId = tenantId ∧
        ∃ r ∈ d.roles, r.id = x.roleId ∧ r.name = name := by
  intro p hp name
  rw [(pageWithRoles_names h p hp).count_eq, count_roleNames]

end Listed

/-- A page with one user, the rows of the second query arriving in reverse. -/
theorem page_role_names_sample :
    List.count "Manager" ["Manager"] = Database.sample.userTenantRoles.countP fun x =>
      x.userId = 1 ∧ x.tenantId = 1 ∧
        ∃ r ∈ Database.sample.roles, r.id = x.roleId ∧ r.name = "Manager" := by
  have hu : usersOfTenant Database.sample 1 =
      [⟨1, "alice@acme.com", "$2b$12$a", some "Alice", true, false⟩] :=
    List.mergeSort_singleton _
  have h : Returns (pageWithRoles id (fun _ _ => true) ⟨List.reverse, List.reverse_perm⟩ 1 0 20
      none) Database.sample _ Database.sample := returns_pageWithRoles rfl 0 20
  rw [hu] at h
  exact page_role_names h _ (List.mem_singleton_self _) "Manager"

end UserService
end VirtualStack
