import VirtualStack.Endpoints.APIKeys
import VirtualStack.Pages

/-!
# Paging through API keys

With a tenant given, a superuser's page is cut from the keys of the tenant. Any other
caller's page is cut from all of their keys and filtered afterwards.
-/

namespace VirtualStack
open UnitOfWork

/-- The keys of a tenant that a user may list: their own, or all for a superuser. -/
def User.listsKey (u : User) (tenantId : UUID) (k : APIKey) : Bool :=
  k.tenantId = some tenantId ∧ (u.isSuperuser ∨ k.userId = u.id)

theorem filter_listsKey_superuser {u : User} (h : u.isSuperuser) (tenantId : UUID)
    (keys : List APIKey) :
    keys.filter (u.listsKey tenantId) = keys.filter fun k => k.tenantId = some tenantId := by
  refine List.filter_congr fun k _ => ?_
  simp [User.listsKey, h]

namespace APIKeyService

variable {d : Database} {skip limit : ℤ}

theorem returns_select (p : APIKey → Bool) (hs : 0 ≤ skip) (hl : 0 ≤ limit) (d : Database) :
    Returns (select p skip limit) d
      (Pages.slice skip.toNat limit.toNat (d.apiKeys.filter p)) d := by
  have hpage : page skip limit (d.apiKeys.filter p) =
      .ok (Pages.slice skip.toNat limit.toNat (d.apiKeys.filter p)) :=
    if_neg (by omega)
  exact (returns_query _ d).bind (returns_lift hpage d)

theorem fails_select (p : APIKey → Bool) (h : ¬(0 ≤ skip ∧ 0 ≤ limit)) (d : Database) :
    Fails (select p skip limit) d := by
  have hpage : page skip limit (d.apiKeys.filter p) = .error .dataError := if_pos (by omega)
  exact (returns_query _ d).bind_fails (fails_lift (by simp [hpage]) d)

end APIKeyService

namespace Endpoints

/-- The call returns the slice of the keys of the tenant that the caller may list. -/
def ReadsSlice (env : Env) (now : Time) (h : Headers) (d : Database) (u : User)
    (skip limit : ℤ) (tenantId : UUID) : Prop :=
  Returns (readAPIKeys env now h skip limit (some tenantId)) d
    (Pages.slice skip.toNat limit.toNat
      ((Deps.identifiedView env now h d).apiKeys.filter (u.listsKey tenantId)))
    (Deps.identifiedView env now h d)

section Slices

variable {env : Env} {now : Time} {h : Headers} {d : Database} {u : User} {skip limit : ℤ}
  {tenantId : UUID}

theorem returns_readAPIKeys_superuser (hu : Deps.currentActiveUser env now h d = .ok u)
    (hsuper : u.isSuperuser) (hs : 0 ≤ skip) (hl : 0 ≤ limit) :
    ReadsSlice env now h d u skip limit tenantId := by
  rw [ReadsSlice, filter_listsKey_superuser hsuper]
  refine ((Deps.yields_getCurrentActiveUser env now h d).returns hu).bind ?_
  rw [if_pos hsuper]
  exact APIKeyService.returns_select _ hs hl _

theorem returns_readAPIKeys_user (hu : Deps.currentActiveUser env now h d = .ok u)
    (huser : ¬u.isSuperuser) (hs : 0 ≤ skip) (hl : 0 ≤ limit) (tenantId : UUID) :
    Returns (readAPIKeys env now h skip limit (some tenantId)) d
      ((Pages.slice skip.toNat limit.toNat
        ((Deps.identifiedView env now h d).apiKeys.filter fun k => k.userId = u.id)).filter
          fun k => k.tenantId = some tenantId) (Deps.identifiedView env now h d) := by
  refine ((Deps.yields_getCurrentActiveUser env now h d).returns hu).bind ?_
  rw [if_neg huser]
  exact (APIKeyService.returns_select _ hs hl _).bind (returns_pure _ _)

theorem fails_readAPIKeys (hu : Deps.currentActiveUser env now h d = .ok u)
    (hneg : ¬(0 ≤ skip ∧ 0 ≤ limit)) (tenantId : UUID) :
    Fails (readAPIKeys env now h skip limit (some tenantId)) d := by
  refine ((Deps.yields_getCurrentActiveUser env now h d).returns hu).bind_fails ?_
  split_ifs
  · exact APIKeyService.fails_select _ hneg _
  · exact (APIKeyService.fails_select _ hneg _).bind _

theorem readsSlice_user_iff (hu : Deps.currentActiveUser env now h d = .ok u)
    (huser : ¬u.isSuperuser) (hs : 0 ≤ skip) (hl : 0 ≤ limit) :
    ReadsSlice env now h d u skip limit tenantId ↔
      Pages.Aligned (fun k => k.tenantId = some tenantId) skip.toNat limit.toNat
        ((Deps.identifiedView env now h d).apiKeys.filter fun k => k.userId = u.id) := by
  have hkeys : (Deps.identifiedView env now h d).apiKeys.Nodup :=
    List.Nodup.of_map _ (Deps.identifiedView env now h d).valid.keys.apiKeysId
  have hfilter : (Deps.identifiedView env now h d).apiKeys.filter (u.listsKey tenantId) =
      ((Deps.identifiedView env now h d).apiKeys.filter fun k => k.userId = u.id).filter
        fun k => k.tenantId = some tenantId := by
    rw [List.filter_filter]
    refine List.filter_congr fun k _ => ?_
    simp [User.listsKey, huser]
  rw [← Pages.filter_slice_eq_iff (hkeys.filter _), ReadsSlice, hfilter]
  have hreturns := returns_readAPIKeys_user hu huser hs hl tenantId
  constructor
  · intro hslice
    exact (hreturns.unique hslice).1
  · intro he
    rw [← he]
    exact hreturns

end Slices

/-- A page of keys is the slice asked for exactly when its bounds are not negative and
the caller is a superuser, or the keys of the tenant stand among the caller's keys in
line with the page. -/
theorem key_page_is_slice_iff {env : Env} {now : Time} {h : Headers} {d : Database} {u : User}
    (hu : Deps.currentActiveUser env now h d = .ok u) (skip limit : ℤ) (tenantId : UUID) :
    ReadsSlice env now h d u skip limit tenantId ↔ 0 ≤ skip ∧ 0 ≤ limit ∧
      (u.isSuperuser ∨ Pages.Aligned (fun k => k.tenantId = some tenantId) skip.toNat limit.toNat
        ((Deps.identifiedView env now h d).apiKeys.filter fun k => k.userId = u.id)) := by
  by_cases hbounds : 0 ≤ skip ∧ 0 ≤ limit
  · obtain ⟨hs, hl⟩ := hbounds
    by_cases hsuper : u.isSuperuser
    · exact iff_of_true (returns_readAPIKeys_superuser hu hsuper hs hl) ⟨hs, hl, .inl hsuper⟩
    · rw [readsSlice_user_iff hu hsuper hs hl]
      simp [hs, hl, hsuper]
  · refine iff_of_false (fails_readAPIKeys hu hbounds tenantId).not_returns ?_
    rintro ⟨hs, hl, -⟩
    exact hbounds ⟨hs, hl⟩

/-- A superuser's pages together are all keys of the tenant. -/
theorem superuser_key_pages {env : Env} {now : Time} {h : Headers} {d : Database} {u : User}
    (hu : Deps.currentActiveUser env now h d = .ok u) (hsuper : u.isSuperuser) (tenantId : UUID)
    {limit : ℕ} (hl : 1 ≤ limit) :
    ∃ pages : ℕ → List APIKey,
      (∀ k, Returns (readAPIKeys env now h ((k - 1) * limit : ℕ) limit (some tenantId)) d (pages k)
        (Deps.identifiedView env now h d)) ∧
      ∃ n, Pages.Paged limit
        ((Deps.identifiedView env now h d).apiKeys.filter fun k => k.tenantId = some tenantId)
        pages n := by
  rw [← filter_listsKey_superuser hsuper]
  exact ⟨_, fun k => returns_readAPIKeys_superuser hu hsuper (Int.natCast_nonneg _)
    (Int.natCast_nonneg _), Pages.paged_page hl _⟩

/-- Alice has a key for each tenant, the one for the second tenant first. -/
def twoKeys : Database where
  toTables := { Database.sample with
    apiKeys := [⟨1, "beta", "vs_aaaaa", "a", none, true, none, none, 1, some 2, .tenant⟩,
      ⟨2, "acme", "vs_bbbbb", "b", none, true, none, none, 1, some 1, .tenant⟩] }
  valid := by decide

theorem key_page_is_slice_iff_twoKeys :
    ReadsSlice Env.sample 0 ⟨some "token-1", none, none, none, []⟩ twoKeys
        ⟨1, "alice@acme.com", "$2b$12$a", some "Alice", true, false⟩ 0 2 1 ↔
      0 ≤ (0 : ℤ) ∧ 0 ≤ (2 : ℤ) ∧
        ((⟨1, "alice@acme.com", "$2b$12$a", some "Alice", true, false⟩ : User).isSuperuser ∨
          Pages.Aligned (fun k => k.tenantId = some 1) 0 2
            ((Deps.identifiedView Env.sample 0 ⟨some "token-1", none, none, none, []⟩
              twoKeys).apiKeys.filter fun k => k.userId = 1)) :=
  key_page_is_slice_iff (by decide) 0 2 1

/-- The first page of one key of the first tenant is empty, although there is one. -/
theorem key_missing_on_its_page :
    (serve (readAPIKeys Env.sample 0 ⟨some "token-1", none, none, none, []⟩ 0 1 (some 1))
      twoKeys).1 = .ok [] ∧
    ¬ReadsSlice Env.sample 0 ⟨some "token-1", none, none, none, []⟩ twoKeys
      ⟨1, "alice@acme.com", "$2b$12$a", some "Alice", true, false⟩ 0 1 1 := by
  have hu : Deps.currentActiveUser Env.sample 0 ⟨some "token-1", none, none, none, []⟩ twoKeys =
      .ok ⟨1, "alice@acme.com", "$2b$12$a", some "Alice", true, false⟩ := by decide
  constructor
  · rw [(returns_readAPIKeys_user hu (by decide) (by decide) (by decide) 1).serve]
    decide
  · rw [readsSlice_user_iff hu (by decide) (by decide) (by decide)]
    decide

end Endpoints
end VirtualStack
