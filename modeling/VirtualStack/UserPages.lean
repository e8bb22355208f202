import VirtualStack.Endpoints.TenantUsers
import VirtualStack.Endpoints.Users
import VirtualStack.Pages

/-!
# The pages of a tenant's users

The query of `get_multi_by_tenant_paginated` as it is built, the pages it gives
without a search term, and what becomes of a search.
-/

namespace VirtualStack
open UnitOfWork

/-- The text columns of `User`; the class has no other attribute a text filter could
name. -/
def User.column (name : String) : Except Exc (User → Option String) :=
  if name = "email" then .ok fun u => some u.email
  else if name = "hashed_password" then .ok fun u => some u.hashedPassword
  else if name = "full_name" then .ok fun u => u.fullName
  else .error .attributeError

namespace UserService

/-- `base_query`: the users joined with the assignments of a tenant, each once. -/
def baseQuery (d : Database) (tenantId : UUID) (accepts : User → Bool) : List User :=
  Joins.distinct <| ((Joins.join (fun u x => u.id = x.userId) d.users d.userTenantRoles).filter
    fun p => p.2.tenantId = tenantId ∧ accepts p.1).map Prod.fst

section Search

/-! `lower` is the case folding of Python and of the server, `like text pattern` the
server's `LIKE`. -/

variable (lower : String → String) (like : String → String → Bool)

/-- The filter of a search. `contains` puts its argument between two more `%`. -/
def searchFilter (search : String) : Except Exc (User → Bool) := do
  let searchTerm := "%" ++ lower search ++ "%"
  let email ← User.column "email"
  let firstName ← User.column "first_name"
  let lastName ← User.column "last_name"
  .ok fun u => [email, firstName, lastName].any fun column =>
    (column u).any fun text => like (lower text) ("%" ++ searchTerm ++ "%")

/-- The search filter, applied if a search term is provided. -/
def accepted (search : Option String) : Except Exc (User → Bool) :=
  if search.getD "" ≠ "" then searchFilter lower like (search.getD "") else .ok fun _ => true

end Search

section Members

variable {d : Database} {tenantId : UUID} {lower : String → String}
  {like : String → String → Bool} {search : Option String} {u : User}

theorem mem_baseQuery {accepts : User → Bool} :
    u ∈ baseQuery d tenantId accepts ↔
      u ∈ d.users ∧ IsMember d.toTables u.id tenantId ∧ accepts u := by
  simp only [baseQuery, Joins.mem_distinct, List.mem_map, List.mem_filter, Joins.mem_join,
    decide_eq_true_eq]
  constructor
  · rintro ⟨⟨_, x⟩, ⟨⟨hu, hx, hid⟩, ht, ha⟩, rfl⟩
    exact ⟨hu, ⟨x, hx, hid.symm, ht⟩, ha⟩
  · rintro ⟨hu, ⟨x, hx, hid, ht⟩, ha⟩
    exact ⟨(u, x), ⟨⟨hu, hx, hid.symm⟩, ht, ha⟩, rfl⟩

theorem mem_usersOfTenant :
    u ∈ usersOfTenant d tenantId ↔ u ∈ d.users ∧ IsMember d.toTables u.id tenantId := by
  rw [usersOfTenant, List.mem_mergeSort, List.mem_filter, decide_eq_true_eq]

theorem strictlyBy_usersOfTenant (d : Database) (tenantId : UUID) :
    Pages.StrictlyBy (· ≤ ·) User.email (usersOfTenant d tenantId) :=
  Pages.strictlyBy_mergeSort (r := (· ≤ ·))
    (d.valid.keys.usersEmail.sublist (List.filter_sublist.map _))

/-- However many roles a user has, the join shows the same users in the same order. -/
theorem usersOfTenant_eq (d : Database) (tenantId : UUID) :
    usersOfTenant d tenantId =
      (baseQuery d tenantId fun _ => true).mergeSort fun x y => x.email ≤ y.email := by
  have hmem : ∀ u, u ∈ usersOfTenant d tenantId ↔
      u ∈ (baseQuery d tenantId fun _ => true).mergeSort fun x y => x.email ≤ y.email := by
    intro u
    rw [mem_usersOfTenant, List.mem_mergeSort, mem_baseQuery]
    simp
  refine (strictlyBy_usersOfTenant d tenantId).eq_of_mem_iff ?_ hmem
  refine Pages.strictlyBy_mergeSort (r := (· ≤ ·)) ?_
  have hn : (baseQuery d tenantId fun _ => true).Nodup := Joins.nodup_distinct _
  refine hn.map_on fun u hu v hv he => ?_
  exact Rows.eq_of_key_eq d.valid.keys.usersEmail (mem_baseQuery.mp hu).1 (mem_baseQuery.mp hv).1 he

/-- The function as it is written: the filter is built first, the count is taken before
the page is cut, and the roles are looked up for the users of the page. -/
theorem getMultiByTenantPaginated_eq (skip limit : ℕ) :
    getMultiByTenantPaginated tenantId skip limit search = (do
      let accepts ← lift (accepted lower like search)
      let totalCount ← query fun d => (baseQuery d tenantId accepts).length
      let users ← query fun d => Pages.slice skip limit
        ((baseQuery d tenantId accepts).mergeSort fun x y => x.email ≤ y.email)
      let names ← query fun d => users.map fun u => roleNames d u.id tenantId
      pure (users.zip names, totalCount)) := by
  rw [getMultiByTenantPaginated, accepted]
  split_ifs with hs
  · rfl
  · simp only [usersOfTenant_eq, List.length_mergeSort]
    rfl

/-- Any search raises before a query is sent. -/
theorem raises_search {term : String} (hs : term ≠ "") (skip limit : ℕ) (d : Database) :
    Raises (getMultiByTenantPaginated tenantId skip limit (some term)) d .attributeError := by
  rw [getMultiByTenantPaginated, if_pos (by simpa using hs)]
  exact raises_throw _ d

theorem returns_getMultiByTenantPaginated (hs : search.getD "" = "") (skip limit : ℕ)
    (d : Database) : ∃ rows, Returns (getMultiByTenantPaginated tenantId skip limit search) d
      (rows, (usersOfTenant d tenantId).length) d ∧
        rows.map Prod.fst = Pages.slice skip limit (usersOfTenant d tenantId) := by
  let users := Pages.slice skip limit (usersOfTenant d tenantId)
  refine ⟨users.zip (users.map fun u => roleNames d u.id tenantId), ?_, List.map_fst_zip ?_⟩
  · rw [getMultiByTenantPaginated, if_neg (not_not.mpr hs)]
    exact (returns_query _ d).bind ((returns_query _ d).bind ((returns_query _ d).bind
      (returns_pure _ d)))
  · rw [List.length_map]

end Members

end UserService

/-- Page `k` of the users of a tenant, as the service computes it and as the two
endpoints do for a caller who is let through. -/
structure ServesUserPage (d : Database) (tenantId : UUID) (limit : ℕ) (search : Option String)
    (k : ℕ) (rows : List (User × List String)) (total : ℕ) : Prop where
  service : Returns (UserService.getMultiByTenantPaginated tenantId ((k - 1) * limit) limit search)
    d (rows, total) d
  inTenant : ∀ t ∈ d.tenants, t.id = tenantId →
    Returns (Endpoints.listUsersInTenant tenantId k limit search) d (rows, total) d
  inActiveTenant : ∀ env now h d₀ u t,
    Returns (Deps.requirePermissionInActiveTenant env now h .userRead) d₀ (u, t) d →
    t.id = tenantId →
    Returns (Endpoints.listUsersInActiveTenant env now h k limit search) d₀ (rows, total) d

namespace UserService

section Pages

variable {d : Database} {tenantId : UUID} {limit : ℕ} {search : Option String}

theorem servesUserPage {k total : ℕ} {rows : List (User × List String)}
    (h : Returns (getMultiByTenantPaginated tenantId ((k - 1) * limit) limit search) d
      (rows, total) d) : ServesUserPage d tenantId limit search k rows total := by
  refine ⟨h, ?_, ?_⟩
  · rintro t ht rfl
    exact (Deps.returns_getTenantFromPath ht).bind h
  · rintro env now headers d₀ u t hgate rfl
    exact hgate.bind h

/-- The pages of a tenant's users: every page comes with the number of all of them, and
the pages together are all of them, each once, by email. -/
theorem user_pages_partition (d : Database) (tenantId : UUID) {limit : ℕ} (hl : 1 ≤ limit)
    {search : Option String} (hs : search.getD "" = "") :
    ∃ members : List User,
      (members.Pairwise fun u v => u.email < v.email) ∧
      (∀ u, u ∈ members ↔ u ∈ d.users ∧ IsMember d.toTables u.id tenantId) ∧
      ∃ pages : ℕ → List (User × List String),
        (∀ k, 1 ≤ k → ServesUserPage d tenantId limit search k (pages k) members.length) ∧
        ∃ n, Pages.Paged limit members (fun k => (pages k).map Prod.fst) n := by
  choose pages hpages hrows using fun k : ℕ =>
    returns_getMultiByTenantPaginated hs ((k - 1) * limit) limit d
  refine ⟨usersOfTenant d tenantId, ?_, fun u => mem_usersOfTenant, pages,
    fun k _ => servesUserPage (hpages k), ?_⟩
  · refine (strictlyBy_usersOfTenant d tenantId).imp fun h => String.not_le.mp fun hge => ?_
    exact h.2 (String.le_antisymm h.1 hge)
  · simp only [hrows]
    exact Pages.paged_page hl _

theorem user_pages_partition_sample : ∃ members : List User,
    (members.Pairwise fun u v => u.email < v.email) ∧
    (∀ u, u ∈ members ↔ u ∈ Database.sample.users ∧ IsMember Database.sample.toTables u.id 1) ∧
    ∃ pages : ℕ → List (User × List String),
      (∀ k, 1 ≤ k → ServesUserPage Database.sample 1 20 none k (pages k) members.length) ∧
      ∃ n, Pages.Paged 20 members (fun k => (pages k).map Prod.fst) n :=
  user_pages_partition Database.sample 1 (by decide) rfl

/-! ## Search -/

/-- The text contains the part, as the characters it is. -/
def Contains (text part : String) : Prop := part.toList <:+: text.toList

/-- The email or the name of the user contains the search term, ignoring case. -/
def Matches (lower : String → String) (search : String) (u : User) : Prop :=
  Contains (lower u.email) (lower search) ∨
    ∃ name ∈ u.fullName, Contains (lower name) (lower search)

/-- The search pages through the matching users of the tenant and counts them. -/
def SearchFinds (lower : String → String) (d : Database) (tenantId : UUID) (search : String) :
    Prop :=
  ∃ found : List User, found.Nodup ∧
    (∀ u, u ∈ found ↔ u ∈ d.users ∧ IsMember d.toTables u.id tenantId ∧ Matches lower search u) ∧
    ∀ skip limit, ∃ rows,
      Returns (getMultiByTenantPaginated tenantId skip limit (some search)) d
        (rows, found.length) d ∧ rows.map Prod.fst = Pages.slice skip limit found

theorem not_searchFinds {lower : String → String} {term : String} (hs : term ≠ "") :
    ¬SearchFinds lower d tenantId term := by
  rintro ⟨found, -, -, hpages⟩
  obtain ⟨rows, hreturns, -⟩ := hpages 0 0
  exact (raises_search hs 0 0 d).fails.not_returns hreturns

/-- A search finds the matching users exactly when there is nothing to search for. -/
theorem searchFinds_iff (lower : String → String) (hlower : lower "" = "") (d : Database)
    (tenantId : UUID) (term : String) :
    SearchFinds lower d tenantId term ↔ term = "" := by
  constructor
  · intro h
    by_contra hs
    exact not_searchFinds hs h
  · rintro rfl
    refine ⟨usersOfTenant d tenantId, (strictlyBy_usersOfTenant d tenantId).nodup, fun u => ?_,
      fun skip limit => returns_getMultiByTenantPaginated rfl skip limit d⟩
    have hmatches : Matches lower "" u := by
      left
      rw [Contains, hlower]
      exact List.nil_infix
    rw [mem_usersOfTenant, and_iff_left hmatches]

/-- The lower case of ASCII letters. -/
def asciiLower (s : String) : String := String.ofList (s.toList.map Char.toLower)

theorem searchFinds_iff_sample : SearchFinds asciiLower Database.sample 1 "ALICE" ↔ "ALICE" = "" :=
  searchFinds_iff asciiLower rfl Database.sample 1 "ALICE"

/-- Alice is a member whose email contains what is searched for, and the search fails. -/
theorem search_for_alice_raises :
    (∃ u ∈ Database.sample.users, IsMember Database.sample.toTables u.id 1 ∧
      Matches asciiLower "ALICE" u) ∧
    (serve (getMultiByTenantPaginated 1 0 20 (some "ALICE")) Database.sample).1 =
      .error .attributeError ∧
    ¬SearchFinds asciiLower Database.sample 1 "ALICE" := by
  refine ⟨⟨_, List.mem_cons_self, by decide, .inl ⟨[], "@acme.com".toList, ?_⟩⟩, rfl,
    not_searchFinds (by decide)⟩
  decide

end Pages

end UserService
end VirtualStack
