import VirtualStack.APIKeyLifecycle
import VirtualStack.Endpoints.APIKeys

/-!
# Who may change an API key

Runs of the key endpoints and of `validate_api_key`, from a database without
keys. A request may touch the key it authenticates with, and then does one of
four things: nothing, add a key of the caller, change one that the caller
manages, or delete one. Everything below is a case analysis over these.
-/

namespace VirtualStack
open UnitOfWork

inductive KeyRequest where
  | create (now : Time) (h : Headers) (body : APIKeyCreate) (newId : UUID) (token : UrlsafeText)
  | list (now : Time) (h : Headers) (skip limit : ℤ) (tenantId : Option UUID)
  | read (now : Time) (h : Headers) (apiKeyId : UUID)
  | update (now : Time) (h : Headers) (apiKeyId : UUID) (body : APIKeyUpdate)
  | delete (now : Time) (h : Headers) (apiKeyId : UUID)
  | validate (now : Time) (apiKey : String)

/-- The columns that an update may write. -/
def APIKey.SameDetails (x y : APIKey) : Prop :=
  y.name = x.name ∧ y.description = x.description ∧ y.isActive = x.isActive ∧
    y.expiresAt = x.expiresAt

namespace KeyRequest

def next (env : Env) : KeyRequest → Database → Database
  | create now h body newId token =>
    settle (Deps.handle h (Endpoints.createAPIKey env now h body newId token))
  | list now h skip limit tenantId =>
    settle (Deps.handle h (Endpoints.readAPIKeys env now h skip limit tenantId))
  | read now h apiKeyId => settle (Deps.handle h (Endpoints.readAPIKey env now h apiKeyId))
  | update now h apiKeyId body =>
    settle (Deps.handle h (Endpoints.updateAPIKey env now h apiKeyId body))
  | delete now h apiKeyId => settle (Deps.handle h (Endpoints.deleteAPIKey env now h apiKeyId))
  | validate now apiKey => settle (APIKeyService.validateAPIKey env now apiKey)

def caller (env : Env) (d : Database) : KeyRequest → Except Exc User
  | create now h _ _ _ | list now h _ _ _ | read now h _ | update now h _ _ | delete now h _ =>
    Deps.currentActiveUser env now h d
  | validate _ _ => .error (.http 401 "Not authenticated")

/-- The request is made by the owner of the key or by a superuser. -/
def ByManager (env : Env) (d : Database) (req : KeyRequest) (k : APIKey) : Prop :=
  ∃ u, req.caller env d = .ok u ∧ (u.isSuperuser ∨ k.userId = u.id)

/-- The keys in the response to a read or a listing. -/
def response (env : Env) (d : Database) : KeyRequest → List APIKey
  | list now h skip limit tenantId =>
    match (serve (Deps.handle h (Endpoints.readAPIKeys env now h skip limit tenantId)) d).1 with
    | .ok rows => rows
    | .error _ => []
  | read now h apiKeyId =>
    match (serve (Deps.handle h (Endpoints.readAPIKey env now h apiKeyId)) d).1 with
    | .ok k => [k]
    | .error _ => []
  | _ => []

end KeyRequest

/-! ## What a request can do -/

/-- A store in which at most one key was touched. -/
def Database.Touched (d t : Database) : Prop := t = d ∨ ∃ id now, t = d.touchAPIKey id now

theorem APIKeyService.validateAPIKey_cases (env : Env) (now : Time) (apiKey : String)
    (d : Database) : Fails (APIKeyService.validateAPIKey env now apiKey) d ∨
      ∃ t, d.Touched t ∧ ∃ r, Returns (APIKeyService.validateAPIKey env now apiKey) d r t := by
  by_cases hm : apiKey.length < 8 ∨ APIKeyService.lookup env d apiKey = none
  · exact .inr ⟨d, .inl rfl, none, APIKeyService.validateAPIKey_unmatched hm⟩
  · obtain ⟨hlen, hne⟩ := not_or.mp hm
    obtain ⟨k, hk⟩ := Option.ne_none_iff_exists'.mp hne
    by_cases he : k.expiresAt = none
    · obtain ⟨u, -, -, hret⟩ :=
        APIKeyService.validateAPIKey_matched now (Nat.not_lt.mp hlen) hk he
      exact .inr ⟨_, .inr ⟨_, _, rfl⟩, _, hret⟩
    · exact .inl (APIKeyService.validateAPIKey_expiring (Nat.not_lt.mp hlen) hk he).fails

theorem Deps.touched_identifiedView (env : Env) (now : Time) (h : Headers) (d : Database) :
    d.Touched (Deps.identifiedView env now h d) := by
  rw [Deps.identifiedView]
  split
  · exact .inr ⟨_, _, rfl⟩
  · exact .inl rfl

theorem Deps.settle_handle {α : Type} (h : Headers) (x : Db α) (d : Database) :
    settle (Deps.handle h x) d = d ∨ settle (Deps.handle h x) d = settle x d := by
  by_cases hm : h.xTenantId = some .malformed
  · exact .inl (Deps.fails_handle hm).settle
  · exact .inr (Deps.settle_handle_of_ne hm)

namespace KeyRequest

/-- What a request leaves of the store `t`. -/
inductive Effect (env : Env) (d : Database) (req : KeyRequest) (t : Database) : Database → Prop
  | nothing : Effect env d req t t
  | create (row : APIKey) (hv : (t.addAPIKey row).Valid)
      (hscope : row.scope = .tenant ↔ row.tenantId ≠ none) : Effect env d req t ⟨_, hv⟩
  | update (k : APIKey) (hk : k ∈ t.apiKeys) (hm : req.ByManager env d k) (f : APIKey → APIKey)
      (hf : ∀ x : APIKey, x.SameIdentity (f x)) (hv : (t.modifyAPIKey k.id f).Valid) :
      Effect env d req t ⟨_, hv⟩
  | delete (k : APIKey) (hk : k ∈ t.apiKeys) (hm : req.ByManager env d k) :
      Effect env d req t ⟨_, t.valid.dropAPIKey k.id⟩

section Effects

variable {env : Env} {d : Database} {req : KeyRequest} {α : Type} {x : Db α}

theorem effect_of_fails (hf : Fails x d) : ∃ t, d.Touched t ∧ Effect env d req t (settle x d) := by
  rw [hf.settle]
  exact ⟨d, .inl rfl, .nothing⟩

theorem effect_of_returns {a : α} {t : Database} (ht : d.Touched t) (hret : Returns x d a t) :
    ∃ t, d.Touched t ∧ Effect env d req t (settle x d) := by
  rw [hret.settle]
  exact ⟨t, ht, .nothing⟩

/-- A request may end in the middleware, and is the endpoint otherwise. -/
theorem effect_of_handle {h : Headers} (hx : ∃ t, d.Touched t ∧ Effect env d req t (settle x d)) :
    ∃ t, d.Touched t ∧ Effect env d req t (settle (Deps.handle h x) d) := by
  rcases Deps.settle_handle h x d with hs | hs <;> rw [hs]
  · exact ⟨d, .inl rfl, .nothing⟩
  · exact hx

end Effects

theorem next_effect (env : Env) (req : KeyRequest) (d : Database) :
    ∃ t, d.Touched t ∧ Effect env d req t (req.next env d) := by
  cases req with
  | create now h body newId token =>
    refine effect_of_handle ?_
    obtain hf | ⟨u, row, -, -, hscope, hv, hserve⟩ :=
      Endpoints.createAPIKey_cases env now h d body newId token
    · exact effect_of_fails hf
    · refine ⟨_, Deps.touched_identifiedView env now h d, ?_⟩
      rw [settle, hserve]
      exact .create row hv hscope
  | list now h skip limit tenantId =>
    refine effect_of_handle ?_
    obtain hf | ⟨u, rows, -, hret, -⟩ :=
      Endpoints.readAPIKeys_cases env now h d skip limit tenantId
    · exact effect_of_fails hf
    · exact effect_of_returns (Deps.touched_identifiedView env now h d) hret
  | read now h apiKeyId =>
    refine effect_of_handle ?_
    obtain hf | ⟨u, k, -, hret, -⟩ := Endpoints.readAPIKey_cases env now h d apiKeyId
    · exact effect_of_fails hf
    · exact effect_of_returns (Deps.touched_identifiedView env now h d) hret
  | update now h apiKeyId body =>
    refine effect_of_handle ?_
    by_cases hc : ∃ k ∈ (Deps.identifiedView env now h d).apiKeys, k.id = apiKeyId ∧
        Endpoints.ManagesKey env now h d k ∧
        body.Accepted env apiKeyId (Deps.identifiedView env now h d)
    · obtain ⟨k, hk, rfl, hm, hb⟩ := hc
      have hby : ByManager env d (.update now h k.id body) k := hm
      refine ⟨_, Deps.touched_identifiedView env now h d, ?_⟩
      rw [(Endpoints.returns_updateAPIKey hk hm hb).settle]
      exact .update k hk hby (body.apply env) (body.sameIdentity env) hb.2.2
    · exact effect_of_fails
        (Endpoints.fails_updateAPIKey fun k hk hid hm hb => hc ⟨k, hk, hid, hm, hb⟩)
  | delete now h apiKeyId =>
    refine effect_of_handle ?_
    by_cases hc : ∃ k ∈ (Deps.identifiedView env now h d).apiKeys, k.id = apiKeyId ∧
        Endpoints.ManagesKey env now h d k
    · obtain ⟨k, hk, rfl, hm⟩ := hc
      have hby : ByManager env d (.delete now h k.id) k := hm
      refine ⟨_, Deps.touched_identifiedView env now h d, ?_⟩
      rw [(Endpoints.returns_deleteAPIKey hk hm).settle]
      exact .delete k hk hby
    · exact effect_of_fails
        (Endpoints.fails_deleteAPIKey fun k hk hid hm => hc ⟨k, hk, hid, hm⟩)
  | validate now apiKey =>
    obtain hf | ⟨t, ht, r, hret⟩ := APIKeyService.validateAPIKey_cases env now apiKey d
    · exact effect_of_fails hf
    · exact effect_of_returns ht hret

end KeyRequest

/-! ## What a request keeps -/

theorem APIKey.SameIdentity.refl (x : APIKey) : x.SameIdentity x := ⟨rfl, rfl, rfl, rfl, rfl, rfl⟩

theorem APIKey.SameIdentity.trans {x y z : APIKey} (h : x.SameIdentity y) (h' : y.SameIdentity z) :
    x.SameIdentity z :=
  ⟨h'.1.trans h.1, h'.2.1.trans h.2.1, h'.2.2.1.trans h.2.2.1, h'.2.2.2.1.trans h.2.2.2.1,
    h'.2.2.2.2.1.trans h.2.2.2.2.1, h'.2.2.2.2.2.trans h.2.2.2.2.2⟩

theorem Database.Touched.kept {d t : Database} (ht : d.Touched t) {k : APIKey}
    (hk : k ∈ d.apiKeys) : ∃ k' ∈ t.apiKeys, k.SameIdentity k' ∧ k.SameDetails k' := by
  obtain rfl | ⟨id, now, rfl⟩ := ht
  · exact ⟨k, hk, .refl k, rfl, rfl, rfl, rfl⟩
  · refine ⟨_, Rows.mem_modify.mpr ⟨k, hk, rfl⟩, ?_⟩
    split_ifs
    · exact ⟨⟨rfl, rfl, rfl, rfl, rfl, rfl⟩, rfl, rfl, rfl, rfl⟩
    · exact ⟨.refl k, rfl, rfl, rfl, rfl⟩

theorem Database.Touched.origin {d t : Database} (ht : d.Touched t) {k' : APIKey}
    (hk' : k' ∈ t.apiKeys) : ∃ k ∈ d.apiKeys, k.SameIdentity k' := by
  obtain rfl | ⟨id, now, rfl⟩ := ht
  · exact ⟨k', hk', .refl k'⟩
  · obtain ⟨k, hk, rfl⟩ := Rows.mem_modify.mp hk'
    refine ⟨k, hk, ?_⟩
    split_ifs
    · exact ⟨rfl, rfl, rfl, rfl, rfl, rfl⟩
    · exact .refl k

namespace KeyRequest

variable {env : Env} {d t d' : Database} {req : KeyRequest}

/-- Only the owner and the superusers decide over a key, so two rows with one
owner have the same managers. -/
theorem ByManager.congr {k k' : APIKey} (h : req.ByManager env d k) (hk : k'.userId = k.userId) :
    req.ByManager env d k' := by
  obtain ⟨u, hu, hm⟩ := h
  exact ⟨u, hu, hk ▸ hm⟩

theorem Effect.origin (h : Effect env d req t d') {k' : APIKey} (hk' : k' ∈ d'.apiKeys) :
    (∃ k ∈ t.apiKeys, k.SameIdentity k') ∨ (k'.scope = .tenant ↔ k'.tenantId ≠ none) := by
  cases h with
  | nothing => exact .inl ⟨k', hk', .refl k'⟩
  | create row hv hscope =>
    rcases List.mem_append.mp hk' with hk' | hk'
    · exact .inl ⟨k', hk', .refl k'⟩
    · rw [List.mem_singleton.mp hk']
      exact .inr hscope
  | update k hk hm f hf hv =>
    obtain ⟨x, hx, rfl⟩ := Rows.mem_modify.mp hk'
    refine .inl ⟨x, hx, ?_⟩
    split_ifs
    · exact hf x
    · exact .refl x
  | delete k hk hm => exact .inl ⟨k', (List.mem_filter.mp hk').1, .refl k'⟩

/-- A key keeps its identity or is gone. -/
theorem Effect.kept (h : Effect env d req t d') {k : APIKey} (hk : k ∈ t.apiKeys) :
    (∃ k' ∈ d'.apiKeys, k.SameIdentity k') ∨ k.id ∉ d'.apiKeys.map (·.id) := by
  cases h with
  | nothing => exact .inl ⟨k, hk, .refl k⟩
  | create row hv hscope => exact .inl ⟨k, List.mem_append_left _ hk, .refl k⟩
  | update x hx hm f hf hv =>
    refine .inl ⟨_, Rows.mem_modify.mpr ⟨k, hk, rfl⟩, ?_⟩
    split_ifs
    · exact hf k
    · exact .refl k
  | delete x hx hm =>
    by_cases hid : k.id = x.id
    · right
      intro hmem
      obtain ⟨y, hy, hyid⟩ := List.mem_map.mp hmem
      exact of_decide_eq_true (List.mem_filter.mp hy).2 (hyid.trans hid)
    · exact .inl ⟨k, List.mem_filter.mpr ⟨hk, decide_eq_true hid⟩, .refl k⟩

/-- A key keeps its details, or the request is made by someone who manages it. -/
theorem Effect.details (h : Effect env d req t d') {k : APIKey} (hk : k ∈ t.apiKeys) :
    k ∈ d'.apiKeys ∨ req.ByManager env d k := by
  cases h with
  | nothing => exact .inl hk
  | create row hv hscope => exact .inl (List.mem_append_left _ hk)
  | update x hx hm f hf hv =>
    by_cases hid : k.id = x.id
    · obtain rfl := Rows.eq_of_key_eq t.valid.keys.apiKeysId hk hx hid
      exact .inr hm
    · exact .inl (Rows.mem_modify.mpr ⟨k, hk, by rw [if_neg hid]⟩)
  | delete x hx hm =>
    by_cases hid : k.id = x.id
    · obtain rfl := Rows.eq_of_key_eq t.valid.keys.apiKeysId hk hx hid
      exact .inr hm
    · exact .inl (List.mem_filter.mpr ⟨hk, decide_eq_true hid⟩)

/-- The response to a caller who is no superuser shows only keys they own. -/
theorem response_owned {u : User} {k : APIKey} (hu : req.caller env d = .ok u)
    (hs : ¬u.isSuperuser) (hk : k ∈ req.response env d) : k.userId = u.id := by
  cases req with
  | list now h skip limit tenantId =>
    by_cases hm : h.xTenantId = some .malformed
    · obtain ⟨e, he⟩ := (Deps.fails_handle hm :
        Fails (Deps.handle h (Endpoints.readAPIKeys env now h skip limit tenantId)) d).serve
      rw [response, he] at hk
      cases hk
    · rw [response, Deps.serve_handle hm] at hk
      obtain hf | ⟨v, rows, hv, hret, hown⟩ :=
        Endpoints.readAPIKeys_cases env now h d skip limit tenantId
      · obtain ⟨e, he⟩ := hf.serve
        rw [he] at hk
        cases hk
      · obtain rfl : u = v := Except.ok.inj (hu.symm.trans hv)
        rw [hret.serve] at hk
        exact hown hs k hk
  | read now h apiKeyId =>
    by_cases hm : h.xTenantId = some .malformed
    · obtain ⟨e, he⟩ := (Deps.fails_handle hm :
        Fails (Deps.handle h (Endpoints.readAPIKey env now h apiKeyId)) d).serve
      rw [response, he] at hk
      cases hk
    · rw [response, Deps.serve_handle hm] at hk
      obtain hf | ⟨v, x, hv, hret, hown⟩ := Endpoints.readAPIKey_cases env now h d apiKeyId
      · obtain ⟨e, he⟩ := hf.serve
        rw [he] at hk
        cases hk
      · obtain rfl : u = v := Except.ok.inj (hu.symm.trans hv)
        rw [hret.serve] at hk
        rw [List.mem_singleton.mp hk]
        exact hown.resolve_left hs
  | _ => cases hk

/-! ## Runs -/

/-- The database after a run of requests. -/
def after (env : Env) (d : Database) (reqs : List KeyRequest) : Database :=
  Runs.after (next env) d reqs

/-- What a run of requests owes to the owners of keys. An id that was deleted may
be given to another key later, so a key is followed until it is gone. -/
structure Ownership (env : Env) (d : Database) (reqs : List KeyRequest) : Prop where
  scope : ∀ pre post, reqs = pre ++ post → ∀ k ∈ (after env d pre).apiKeys,
    (k.scope = .tenant ↔ k.tenantId ≠ none)
  identity : ∀ pre mid post, reqs = pre ++ (mid ++ post) → ∀ k ∈ (after env d pre).apiKeys,
    (∃ k' ∈ (after env d (pre ++ mid)).apiKeys, k.SameIdentity k') ∨
      ∃ mid₁ mid₂, mid = mid₁ ++ mid₂ ∧ k.id ∉ (after env d (pre ++ mid₁)).apiKeys.map (·.id)
  managed : ∀ pre req post, reqs = pre ++ req :: post → ∀ k ∈ (after env d pre).apiKeys,
    (∃ k' ∈ (after env d (pre ++ [req])).apiKeys, k.SameIdentity k' ∧ k.SameDetails k') ∨
      req.ByManager env (after env d pre) k
  shown : ∀ pre req post, reqs = pre ++ req :: post → ∀ u,
    req.caller env (after env d pre) = .ok u → ¬u.isSuperuser →
      ∀ k ∈ req.response env (after env d pre), k.userId = u.id

theorem next_scoped (req : KeyRequest)
    (hd : ∀ k ∈ d.apiKeys, (k.scope = .tenant ↔ k.tenantId ≠ none)) :
    ∀ k ∈ (req.next env d).apiKeys, (k.scope = .tenant ↔ k.tenantId ≠ none) := by
  intro k' hk'
  obtain ⟨t, ht, heff⟩ := next_effect env req d
  obtain ⟨k₁, hk₁, hsame₁⟩ | hscope := heff.origin hk'
  · obtain ⟨k, hk, hsame⟩ := ht.origin hk₁
    obtain ⟨-, -, -, -, hscope, hten⟩ := hsame.trans hsame₁
    rw [hscope, hten]
    exact hd k hk
  · exact hscope

theorem next_kept (req : KeyRequest) {k : APIKey} (hk : k ∈ d.apiKeys) :
    (∃ k' ∈ (req.next env d).apiKeys, k.SameIdentity k') ∨
      k.id ∉ (req.next env d).apiKeys.map (·.id) := by
  obtain ⟨t, ht, heff⟩ := next_effect env req d
  obtain ⟨k₁, hk₁, hsame, -⟩ := ht.kept hk
  obtain ⟨k', hk', hsame'⟩ | hgone := heff.kept hk₁
  · exact .inl ⟨k', hk', hsame.trans hsame'⟩
  · exact .inr (hsame.1 ▸ hgone)

theorem next_details (req : KeyRequest) {k : APIKey} (hk : k ∈ d.apiKeys) :
    (∃ k' ∈ (req.next env d).apiKeys, k.SameIdentity k' ∧ k.SameDetails k') ∨
      req.ByManager env d k := by
  obtain ⟨t, ht, heff⟩ := next_effect env req d
  obtain ⟨k₁, hk₁, hsame, hdet⟩ := ht.kept hk
  obtain hkept | hm := heff.details hk₁
  · exact .inl ⟨k₁, hkept, hsame, hdet⟩
  · exact .inr (hm.congr hsame.2.2.2.1.symm)

/-- Along a run a key keeps its identity until it is gone. -/
theorem after_kept (reqs : List KeyRequest) {k : APIKey} (hk : k ∈ d.apiKeys) :
    (∃ k' ∈ (after env d reqs).apiKeys, k.SameIdentity k') ∨
      ∃ reqs₁ reqs₂, reqs = reqs₁ ++ reqs₂ ∧ k.id ∉ (after env d reqs₁).apiKeys.map (·.id) := by
  induction reqs generalizing d k with
  | nil => exact .inl ⟨k, hk, .refl k⟩
  | cons req reqs ih =>
    obtain ⟨k₁, hk₁, hsame⟩ | hgone := next_kept req hk
    · obtain ⟨k', hk', hsame'⟩ | ⟨reqs₁, reqs₂, rfl, hgone⟩ := ih hk₁
      · exact .inl ⟨k', hk', hsame.trans hsame'⟩
      · exact .inr ⟨req :: reqs₁, reqs₂, rfl, hsame.1 ▸ hgone⟩
    · exact .inr ⟨[req], reqs, rfl, hgone⟩

/-- Every run from a database without keys respects the owners of keys. -/
theorem ownership (env : Env) (d : Database) (hd : d.apiKeys = []) (reqs : List KeyRequest) :
    Ownership env d reqs := by
  constructor
  · rintro pre post -
    refine Runs.after_invariant (I := fun d : Database => ∀ k ∈ d.apiKeys,
      (k.scope = .tenant ↔ k.tenantId ≠ none)) (fun req d hd => next_scoped req hd) ?_ pre
    rw [hd]
    exact List.forall_mem_nil _
  · rintro pre mid post - k hk
    simp only [after, Runs.after_append]
    exact after_kept mid hk
  · rintro pre req post - k hk
    simp only [after, Runs.after_append]
    exact next_details req hk
  · rintro pre req post - u hu hs k hk
    exact response_owned hu hs hk

theorem ownership_keyless : Ownership Env.issuing .keyless
    [.create 0 ⟨some "token-2", none, none, none, []⟩ .sample 7 .first,
      .delete 1 ⟨some "token-1", none, none, none, []⟩ 7] :=
  ownership Env.issuing .keyless rfl _

end KeyRequest
end VirtualStack
