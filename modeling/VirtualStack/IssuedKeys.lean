import VirtualStack.APIKeyLifecycle
import VirtualStack.DurableTables

/-!
# How long an API key works

The row of a new key is committed by the service, and nothing that is sent later
reaches it: updates and deletions of keys are left to a commit that nobody makes.
What a key is worth is therefore settled when it is made.
-/

namespace VirtualStack
open UnitOfWork

theorem APIKey.eq_of_forgetUse {k k' : APIKey} (h : k'.forgetUse = k.forgetUse) :
    k' = { k with lastUsedAt := k'.lastUsedAt } :=
  calc k' = { k'.forgetUse with lastUsedAt := k'.lastUsedAt } := rfl
    _ = { k.forgetUse with lastUsedAt := k'.lastUsedAt } := by rw [h]
    _ = { k with lastUsedAt := k'.lastUsedAt } := rfl

section Issue

variable {env : Env} {now : Time} {h : Headers} {d : Database} {body : APIKeyCreate}
  {newId : UUID} {token : UrlsafeText} {row : APIKey} {key : String}

theorem APIKeyCreate.expiry_eq_none {expiresAt : Option Time}
    (he : body.expiry env = .ok expiresAt) : expiresAt = none ↔ body.expiresAt = none := by
  rw [APIKeyCreate.expiry] at he
  cases hb : body.expiresAt with
  | none =>
    rw [hb] at he
    cases he
    simp
  | some e =>
    rw [hb] at he
    dsimp only at he
    cases ht : e.astimezoneUtc env.localOffset with
    | error x =>
      rw [ht] at he
      cases he
    | ok t =>
      rw [ht] at he
      cases he
      simp

/-- What `POST /api-keys` has done when it answers with a key. -/
theorem Endpoints.created_of_createAPIKey
    (hs : (serve (Endpoints.createAPIKey env now h body newId token) d).1 = .ok (row, key)) :
    ∃ u keyTenant expiresAt, Deps.currentActiveUser env now h d = .ok u ∧
      body.expiry env = .ok expiresAt ∧ key = APIKeyService.generateAPIKey token ∧
      row = APIKeyService.newRow env body u.id keyTenant expiresAt newId key ∧
      row ∈ (stored .discards (Endpoints.createAPIKey env now h body newId token) d).apiKeys := by
  have hy := Deps.yields_getCurrentActiveUser env now h d
  have hno : ¬Fails (Endpoints.createAPIKey env now h body newId token) d := by
    intro hf
    obtain ⟨e, he⟩ := hf.serve
    rw [he] at hs
    cases hs
  cases hu : Deps.currentActiveUser env now h d with
  | error e => exact absurd ((hy.raises hu).bind _).fails hno
  | ok u =>
    by_cases hten : body.tenantId ≠ none ∧ ¬u.isSuperuser
    · refine absurd ((hy.returns hu).bind_fails ?_) hno
      rw [if_pos hten]
      exact fails_throw _ _
    · obtain hf | ⟨keyTenant, expiresAt, -, he, hv, hrun⟩ := APIKeyService.createWithUser_cases
        env (Deps.identifiedView env now h d) body u.id body.tenantId newId token
      · refine absurd ((hy.returns hu).bind_fails ?_) hno
        rw [if_neg hten]
        refine hf.tryCatch fun e => ?_
        cases e <;> exact ⟨_, rfl⟩
      · have hserve : serve (Endpoints.createAPIKey env now h body newId token) d =
            (.ok (APIKeyService.newRow env body u.id keyTenant expiresAt newId
              (APIKeyService.generateAPIKey token), APIKeyService.generateAPIKey token),
              .start ⟨_, hv⟩) := by
          refine serve_of_ok ?_
          rw [Endpoints.createAPIKey, run_bind_ok (hy.returns hu d), if_neg hten]
          exact run_tryCatch_ok (hrun d) _
        rw [hserve] at hs
        cases hs
        refine ⟨u, keyTenant, expiresAt, rfl, he, rfl, rfl, ?_⟩
        rw [stored_discards, ← committed_serve, hserve]
        exact List.mem_append_right _ List.mem_cons_self

end Issue

namespace Deps

variable {env : Env} {later : Time} {g : Headers} {d : Database} {k : APIKey} {u : User}

theorem presentedKey_of_stored (hlen : 8 ≤ g.apiKey.length) (hk : k ∈ d.apiKeys)
    (hpre : k.keyPrefix = APIKeyService.keyPrefix g.apiKey)
    (hhash : k.keyHash = env.hashAPIKey g.apiKey) : presentedKey env later g d =
      if ¬k.isActive then .error (.http 401 "Invalid or expired API Key")
      else if k.expiresAt = none then .ok (some k) else .error .typeError := by
  have hne : g.apiKey ≠ "" := by
    intro he
    rw [he] at hlen
    exact absurd hlen (by decide)
  have hlookup : ∀ k', APIKeyService.lookup env d g.apiKey = some k' ↔ k' = k ∧ k.isActive :=
    fun _ => APIKeyService.lookup_eq_some hk hpre hhash
  rw [presentedKey, if_neg hne, if_neg (Nat.not_lt.mpr hlen)]
  by_cases hactive : k.isActive
  · rw [(hlookup k).mpr ⟨rfl, hactive⟩, if_neg (not_not.mpr hactive)]
    dsimp only
    by_cases hexp : k.expiresAt = none
    · rw [APIKeyService.isExpired_eq_ok.mpr ⟨hexp, rfl⟩, if_pos hexp]
    · rw [APIKeyService.isExpired_of_ne_none hexp, if_neg hexp]
  · have hnone : APIKeyService.lookup env d g.apiKey = none := by
      rw [Option.eq_none_iff_forall_ne_some]
      exact fun k' hf => hactive ((hlookup k').mp hf).2
    rw [hnone, if_pos hactive]

/-- The caller of a request that carries a stored key and no token. -/
theorem currentActiveUser_of_key (htoken : g.token.getD "" = "") (hlen : 8 ≤ g.apiKey.length)
    (hk : k ∈ d.apiKeys) (hpre : k.keyPrefix = APIKeyService.keyPrefix g.apiKey)
    (hhash : k.keyHash = env.hashAPIKey g.apiKey) (hu : u ∈ d.users) (hid : k.userId = u.id)
    (hactive : u.isActive) : currentActiveUser env later g d =
      if ¬k.isActive then .error (.http 401 "Invalid or expired API Key")
      else if k.expiresAt = none then .ok u else .error .typeError := by
  have howner : owner d k = some u :=
    (Rows.find?_key_eq_some d.valid.keys.usersId).mpr ⟨hu, hid.symm⟩
  rw [currentActiveUser, currentUser, tokenUser_eq_none.mpr htoken,
    presentedKey_of_stored hlen hk hpre hhash]
  split_ifs <;> simp [Bind.bind, Except.bind, howner, hactive]

end Deps

namespace ApiRequest

variable {env : Env} {now : Time} {h g : Headers} {d : Database}

/-- No run of requests makes a difference to a stored key of an active user. -/
theorem stored_key_after (security : Security) (calls : List (Headers × ApiRequest)) (later : Time)
    {k : APIKey} {u : User} (htoken : g.token.getD "" = "") (hlen : 8 ≤ g.apiKey.length)
    (hk : k ∈ d.apiKeys) (hpre : k.keyPrefix = APIKeyService.keyPrefix g.apiKey)
    (hhash : k.keyHash = env.hashAPIKey g.apiKey) (hu : u ∈ d.users) (hid : k.userId = u.id)
    (hactive : u.isActive) :
    (serve (Deps.getCurrentActiveUser env later g)
      (Runs.after (outcome .discards env security) d calls)).1 =
        if ¬k.isActive then .error (.http 401 "Invalid or expired API Key")
        else if k.expiresAt = none then .ok u else .error .typeError := by
  have hkept := retains_run env security d calls
  obtain ⟨k', hk', hsame⟩ := hkept.apiKeys k hk
  rw [APIKey.eq_of_forgetUse hsame] at hk'
  have hu' : u ∈ (Runs.after (outcome .discards env security) d calls).users := by
    rw [hkept.users]
    exact hu
  have hcaller : Deps.currentActiveUser env later g _ = _ :=
    Deps.currentActiveUser_of_key htoken hlen hk' hpre hhash hu' hid hactive
  exact (Deps.yields_getCurrentActiveUser env later g _).serve_fst.trans hcaller

/-- What the request for a new key leaves in the store. -/
theorem outcome_createAPIKey (security : Security) (body : APIKeyCreate) (newId : UUID)
    (token : UrlsafeText) (hm : h.xTenantId ≠ some .malformed) :
    outcome .discards env security (h, .personal now (.createAPIKey body newId token)) d =
      stored .discards (Endpoints.createAPIKey env now h body newId token) d := by
  refine Eq.trans ?_ (stored_discards_map _ fun _ => ())
  rw [outcome, stored_discards, stored_discards, ← committed_serve, Deps.serve_handle hm,
    committed_serve]
  rfl

/-- A key that was answered to its owner works for ever or never, whatever is sent after it
was made, its own deletion included: it identifies the owner when it was made active and
without an expiry, and every request that presents it fails when it was not. -/
theorem issued_key_after (security : Security) {body : APIKeyCreate} {newId : UUID}
    {token : UrlsafeText} {row : APIKey} {key : String} (hissued : (serve (Deps.handle h
      (Endpoints.createAPIKey env now h body newId token)) d).1 = .ok (row, key))
    (calls : List (Headers × ApiRequest)) (later : Time) (hkey : g.apiKey = key)
    (htoken : g.token.getD "" = "") :
    ∃ u, Deps.currentActiveUser env now h d = .ok u ∧ row.userId = u.id ∧
      (serve (Deps.getCurrentActiveUser env later g) (Runs.after (outcome .discards env security) d
          ((h, .personal now (.createAPIKey body newId token)) :: calls))).1 =
        if ¬body.isActive then .error (.http 401 "Invalid or expired API Key")
        else if body.expiresAt = none then .ok u else .error .typeError := by
  have hm : h.xTenantId ≠ some .malformed := by
    intro hm
    obtain ⟨e, he⟩ := (Deps.fails_handle hm).serve
    rw [he] at hissued
    cases hissued
  rw [Deps.serve_handle hm] at hissued
  obtain ⟨u, keyTenant, expiresAt, hu, hexpiry, rfl, rfl, hmem⟩ :=
    Endpoints.created_of_createAPIKey hissued
  rw [← outcome_createAPIKey security body newId token hm] at hmem
  obtain ⟨hcaller, hactive⟩ := Deps.currentUser_of_active hu
  have hstays := (retains_outcome env security h
    (.personal now (.createAPIKey body newId token)) d).users
  have hmember : u ∈ (outcome .discards env security
      (h, .personal now (.createAPIKey body newId token)) d).users := by
    rw [hstays]
    exact Deps.mem_of_currentUser hcaller
  have hlen : 8 ≤ g.apiKey.length := by
    rw [hkey, APIKeyService.length_generateAPIKey]
    decide
  have hnone := APIKeyCreate.expiry_eq_none hexpiry
  refine ⟨u, hu, rfl, ?_⟩
  rw [Runs.after_cons, stored_key_after security calls later htoken hlen hmem
    (by rw [hkey]; rfl) (by rw [hkey]; rfl) hmember rfl hactive]
  simp only [APIKeyService.newRow, hnone]

/-! The superuser of the example makes a key, deletes it and goes on using it. -/

def rootHeaders : Headers := ⟨some "token-2", none, none, none, []⟩

def firstKeyHeaders : Headers := ⟨none, some (APIKeyService.generateAPIKey .first), none, none, []⟩

theorem issued_key_after_sample :
    ∃ u, Deps.currentActiveUser Env.issuing 0 rootHeaders .keyless = .ok u ∧
      APIKey.first.userId = u.id ∧
      (serve (Deps.getCurrentActiveUser Env.issuing 2 firstKeyHeaders)
        (Runs.after (outcome .discards Env.issuing Security.sample) .keyless
          ((rootHeaders, .personal 0 (.createAPIKey .sample 7 .first)) ::
            [(rootHeaders, .personal 1 (.deleteAPIKey 7))]))).1 =
        if ¬APIKeyCreate.sample.isActive then .error (.http 401 "Invalid or expired API Key")
        else if APIKeyCreate.sample.expiresAt = none then .ok u else .error .typeError :=
  issued_key_after Security.sample (by decide) _ 2 rfl rfl

end ApiRequest
end VirtualStack
