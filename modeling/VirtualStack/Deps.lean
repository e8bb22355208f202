import VirtualStack.Services.APIKey
import VirtualStack.Services.Tenant
import VirtualStack.Services.User

/-!
# `api/deps.py` and `api/middleware.py`

The dependencies that identify the caller, find the tenant of a request and
check a permission there. FastAPI resolves each dependency once per request and
in the order of the parameters; the programs below follow that order.

`deps.py` defines `require_permission` three times, and the last definition has
no body. It returns `None`, so that `Depends(require_permission(...))` is
`Depends(None)` and FastAPI falls back on the annotated class. Which class that
is depends on the endpoint; see `Env`.
-/

namespace VirtualStack
open UnitOfWork

/-- What a request says about its caller and its tenant. An empty header is an
absent one. -/
structure Headers where
  token : Option String
  apiKeyHeader : Option String
  apiKeyQuery : Option String
  xTenantId : Option UuidText
  query : Query
  deriving DecidableEq, Repr

/-- A request that says nothing. -/
def Headers.anonymous : Headers := ⟨none, none, none, none, []⟩

/-- `or` on optional strings. -/
def pyOr (a b : Option String) : String := if a.getD "" = "" then b.getD "" else a.getD ""

def Headers.apiKey (h : Headers) : String := pyOr h.apiKeyHeader h.apiKeyQuery

namespace Deps

/-! ## The dependencies -/

/-- `TenantContextMiddleware.dispatch`, before the request is processed. -/
def tenantContext (h : Headers) : Db Unit :=
  if h.xTenantId = some .malformed then
    throw (.http 400 "Invalid tenant ID format. Must be a valid UUID.")
  else pure ()

/-- A request passes the middleware before anything else runs. -/
def handle {α : Type} (h : Headers) (x : Db α) : Db α := do
  tenantContext h
  x

/-- `jose.jwt` has no `PyJWTError`: looking for the second handler raises
`AttributeError`, whatever the exception was. -/
def getCurrentUserFromToken (env : Env) (now : Time) (h : Headers) : Db (Option User) :=
  if h.token.getD "" = "" then pure none
  else tryCatch
    (do
      match ← lift (env.jwtDecode now (h.token.getD "")) with
      | none => throw (.valueError "validation error for TokenPayload")
      | some payload =>
        match payload.sub with
        | none => throw (.http 401 "Invalid token payload: Subject missing")
        | some .malformed => throw (.valueError "badly formed hexadecimal UUID string")
        | some (.valid userId) => do
          match ← UserService.get userId with
          | none => throw (.http 401 "User not found for token")
          | some user => pure (some user))
    fun e => if e = .expiredSignatureError then throw (.http 401 "Token has expired")
      else throw .attributeError

def getCurrentUserFromAPIKey (env : Env) (now : Time) (h : Headers) : Db (Option User) :=
  if h.apiKey = "" then pure none
  else do
    match ← APIKeyService.validateAPIKey env now h.apiKey with
    | none => throw (.http 401 "Invalid or expired API Key")
    | some (_, user) => pure (some user)

def getCurrentUser (env : Env) (now : Time) (h : Headers) : Db User := do
  let tokenUser ← getCurrentUserFromToken env now h
  let apiKeyUser ← getCurrentUserFromAPIKey env now h
  match tokenUser.or apiKeyUser with
  | none => throw (.http 401 "Not authenticated")
  | some user => pure user

def getCurrentActiveUser (env : Env) (now : Time) (h : Headers) : Db User := do
  let currentUser ← getCurrentUser env now h
  if ¬currentUser.isActive then throw (.http 400 "Inactive user")
  else pure currentUser

def getTenantFromPath (tenantId : UUID) : Db Tenant := do
  match ← TenantService.get tenantId with
  | none => throw (.http 404 s!"Tenant {tenantId} not found.")
  | some tenant => pure tenant

def getCurrentActiveTenant (h : Headers) (currentUser : User) : Db Tenant :=
  match h.xTenantId with
  | none => throw (.http 400 "X-Tenant-ID header is required.")
  | some .malformed => throw (.http 400 "Invalid Tenant ID format in X-Tenant-ID header.")
  | some (.valid tenantId) => do
    match ← TenantService.get tenantId with
    | none =>
      throw (.http 404 s!"Specified tenant {tenantId} not found or you do not have access.")
    | some tenant =>
      if currentUser.isSuperuser then pure tenant
      else do
        if ← query fun d => decide (IsMember d.toTables currentUser.id tenantId) then pure tenant
        else throw (.http 403 "You do not have access to the specified tenant.")

/-- The dependency that `require_permission_in_active_tenant(permission)` makes,
with the user and the tenant it resolves on the way. -/
def requirePermissionInActiveTenant (env : Env) (now : Time) (h : Headers)
    (permission : Permission) : Db (User × Tenant) := do
  let currentUser ← getCurrentActiveUser env now h
  let tenant ← getCurrentActiveTenant h currentUser
  if currentUser.isSuperuser then pure (currentUser, tenant)
  else do
    if ← query fun d =>
        decide (HoldsPermission d.toTables currentUser.id tenant.id permission.value)
    then pure (currentUser, tenant)
    else throw (.http 403
      "You do not have permission to perform this action in this tenant context.")

/-- The check that both factories below make: the tenant of the path exists and
the caller is active. -/
def pathTenantUser (env : Env) (now : Time) (h : Headers) (tenantId : UUID) : Db User := do
  let _ ← getTenantFromPath tenantId
  getCurrentActiveUser env now h

/-- `deps.py` defines the two factories twice. The definitions that it exports are
the later ones, in which the check of the permissions is left as a comment. -/
def requireAnyPermission (env : Env) (now : Time) (h : Headers) (tenantId : UUID)
    (_requiredPermissions : List String) : Db User := pathTenantUser env now h tenantId

def requireAllPermissions (env : Env) (now : Time) (h : Headers) (tenantId : UUID)
    (_requiredPermissions : List String) : Db User := pathTenantUser env now h tenantId

/-! ## What they come to

The same decisions as functions of the stored rows. -/

def tokenUser (env : Env) (now : Time) (h : Headers) (d : Database) : Except Exc (Option User) :=
  if h.token.getD "" = "" then .ok none
  else match env.jwtDecode now (h.token.getD "") with
    | .error .expiredSignatureError => .error (.http 401 "Token has expired")
    | .ok (some ⟨some (.valid userId)⟩) =>
      match d.users.find? (·.id = userId) with
      | some user => .ok (some user)
      | none => .error .attributeError
    | _ => .error .attributeError

/-- The key that a request authenticates with, if it presents a usable one. -/
def presentedKey (env : Env) (now : Time) (h : Headers) (d : Database) :
    Except Exc (Option APIKey) :=
  if h.apiKey = "" then .ok none
  else if h.apiKey.length < 8 then .error (.http 401 "Invalid or expired API Key")
  else match APIKeyService.lookup env d h.apiKey with
    | none => .error (.http 401 "Invalid or expired API Key")
    | some k => match APIKeyService.isExpired now k with
      | .error e => .error e
      | .ok true => .error (.http 401 "Invalid or expired API Key")
      | .ok false => .ok (some k)

def owner (d : Database) (k : APIKey) : Option User := d.users.find? (·.id = k.userId)

def currentUser (env : Env) (now : Time) (h : Headers) (d : Database) : Except Exc User := do
  let tokenUser ← tokenUser env now h d
  let key ← presentedKey env now h d
  match tokenUser.or (key.bind (owner d)) with
  | none => .error (.http 401 "Not authenticated")
  | some user => .ok user

def currentActiveUser (env : Env) (now : Time) (h : Headers) (d : Database) : Except Exc User := do
  let user ← currentUser env now h d
  if ¬user.isActive then .error (.http 400 "Inactive user") else .ok user

def activeTenant (h : Headers) (d : Tables) (user : User) : Except Exc Tenant :=
  match h.xTenantId with
  | none => .error (.http 400 "X-Tenant-ID header is required.")
  | some .malformed => .error (.http 400 "Invalid Tenant ID format in X-Tenant-ID header.")
  | some (.valid tenantId) =>
    match d.tenants.find? (·.id = tenantId) with
    | none => .error (.http 404
        s!"Specified tenant {tenantId} not found or you do not have access.")
    | some tenant =>
      if user.isSuperuser ∨ IsMember d user.id tenantId then .ok tenant
      else .error (.http 403 "You do not have access to the specified tenant.")

/-- The caller and the tenant of a request that passes
`require_permission_in_active_tenant`. -/
def permitted (env : Env) (now : Time) (h : Headers) (permission : Permission) (d : Database) :
    Except Exc (User × Tenant) := do
  let user ← currentActiveUser env now h d
  let tenant ← activeTenant h d.toTables user
  if user.isSuperuser ∨ HoldsPermission d.toTables user.id tenant.id permission.value then
    .ok (user, tenant)
  else .error (.http 403
    "You do not have permission to perform this action in this tenant context.")

/-- The rows a request sees once its caller is identified: a key that was used
has been touched. -/
def identifiedView (env : Env) (now : Time) (h : Headers) (d : Database) : Database :=
  match presentedKey env now h d with
  | .ok (some k) => d.touchAPIKey k.id now
  | _ => d

/-! ## The programs come to these decisions -/

section Refinement

variable (env : Env) (now : Time) (h : Headers) (c d : Database)

theorem getCurrentUserFromToken_clean :
    (getCurrentUserFromToken env now h).run (.clean c d) = (tokenUser env now h d, .clean c d) := by
  rw [getCurrentUserFromToken, tokenUser]
  split_ifs with ht
  · rfl
  · rw [run_tryCatch, run_bind, run_lift]
    cases hj : env.jwtDecode now (h.token.getD "") with
    | error e => cases e <;> rfl
    | ok payload =>
      cases payload with
      | none => rfl
      | some payload =>
        obtain ⟨_ | _ | _⟩ := payload
        · rfl
        · rename_i userId
          dsimp only
          rw [UserService.get, run_bind_ok (CRUDBase.returns_get _ _ d userId c)]
          cases d.users.find? (·.id = userId) <;> rfl
        · rfl

/-- A key is usable or not; when it is, its owner is found and it is touched. -/
theorem yields_getCurrentUserFromAPIKey :
    Yields (getCurrentUserFromAPIKey env now h) d
      ((presentedKey env now h d).map (·.bind (owner d))) (identifiedView env now h d) := by
  rw [getCurrentUserFromAPIKey, identifiedView, presentedKey]
  split_ifs with hk hl
  · exact returns_pure none d
  · exact (APIKeyService.validateAPIKey_unmatched (.inl hl)).bind_raises (raises_throw _ d)
  · cases hf : APIKeyService.lookup env d h.apiKey with
    | none =>
      exact (APIKeyService.validateAPIKey_unmatched (.inr hf)).bind_raises (raises_throw _ d)
    | some k =>
      dsimp only
      by_cases he : k.expiresAt = none
      · obtain ⟨u, hu, hid, hret⟩ :=
          APIKeyService.validateAPIKey_matched now (Nat.not_lt.mp hl) hf he
        have howner : owner d k = some u :=
          (Rows.find?_key_eq_some d.valid.keys.usersId).mpr ⟨hu, hid⟩
        rw [APIKeyService.isExpired_eq_ok.mpr ⟨he, rfl⟩]
        simp only [Except.map, Option.bind_some, howner]
        exact hret.bind (returns_pure _ _)
      · rw [APIKeyService.isExpired_of_ne_none he]
        exact (APIKeyService.validateAPIKey_expiring (Nat.not_lt.mp hl) hf he).bind _

theorem yields_getCurrentUser :
    Yields (getCurrentUser env now h) d (currentUser env now h d) (identifiedView env now h d) := by
  have ht : Yields (getCurrentUserFromToken env now h) d (tokenUser env now h d) d :=
    yields_of_run (getCurrentUserFromToken_clean env now h · d)
  refine ht.bind fun tu _ => ?_
  have hk := yields_getCurrentUserFromAPIKey env now h d
  cases hp : presentedKey env now h d with
  | error e =>
    rw [hp] at hk
    exact Raises.bind hk _
  | ok k =>
    rw [hp] at hk
    refine Returns.bind_yields hk ?_
    change Yields _ _ (match tu.or (k.bind (owner d)) with
      | none => .error (Exc.http 401 "Not authenticated")
      | some user => .ok user) _
    cases tu.or (k.bind (owner d)) with
    | none => exact raises_throw _ _
    | some user => exact returns_pure _ _

theorem yields_getCurrentActiveUser : Yields (getCurrentActiveUser env now h) d
    (currentActiveUser env now h d) (identifiedView env now h d) := by
  refine (yields_getCurrentUser env now h d).bind fun u _ => ?_
  by_cases hu : u.isActive
  · rw [if_neg (by simpa using hu), if_neg (by simpa using hu)]
    exact returns_pure _ _
  · rw [if_pos (by simpa using hu), if_pos (by simpa using hu)]
    exact raises_throw _ _

theorem yields_getTenantFromPath (tenantId : UUID) : Yields (getTenantFromPath tenantId) d
    (match d.tenants.find? (·.id = tenantId) with
      | none => .error (.http 404 s!"Tenant {tenantId} not found.")
      | some tenant => .ok tenant) d := by
  refine (CRUDBase.returns_get _ _ d tenantId).bind_yields ?_
  cases d.tenants.find? (·.id = tenantId) with
  | none => exact raises_throw _ _
  | some tenant => exact returns_pure _ _

theorem yields_getCurrentActiveTenant (u : User) : Yields (getCurrentActiveTenant h u) d
    (activeTenant h d.toTables u) d := by
  rw [getCurrentActiveTenant, activeTenant]
  cases h.xTenantId with
  | none => exact raises_throw _ _
  | some id =>
    cases id with
    | malformed => exact raises_throw _ _
    | valid tenantId =>
      refine (CRUDBase.returns_get _ _ d tenantId).bind_yields ?_
      dsimp only
      cases d.tenants.find? (·.id = tenantId) with
      | none => exact raises_throw _ _
      | some tenant =>
        dsimp only
        by_cases hs : u.isSuperuser
        · rw [if_pos hs, if_pos (.inl hs)]
          exact returns_pure _ _
        · rw [if_neg hs]
          refine (returns_query _ d).bind_yields ?_
          by_cases hm : IsMember d.toTables u.id tenantId
          · rw [if_pos (decide_eq_true hm), if_pos (.inr hm)]
            exact returns_pure _ _
          · rw [if_neg (by simpa using hm), if_neg (not_or.mpr ⟨hs, hm⟩)]
            exact raises_throw _ _

/-- Identifying the caller changes no table that the checks read. -/
theorem identifiedView_checks : (identifiedView env now h d).tenants = d.tenants ∧
    (identifiedView env now h d).users = d.users ∧
    (identifiedView env now h d).roles = d.roles ∧
    (identifiedView env now h d).permissions = d.permissions ∧
    (identifiedView env now h d).rolePermissions = d.rolePermissions ∧
    (identifiedView env now h d).userTenantRoles = d.userTenantRoles ∧
    (identifiedView env now h d).invitations = d.invitations := by
  rw [identifiedView]
  split <;> exact ⟨rfl, rfl, rfl, rfl, rfl, rfl, rfl⟩

/-- A key that is touched keeps its id and its owner. -/
theorem identifiedView_apiKeys :
    (identifiedView env now h d).apiKeys.map (fun k => (k.id, k.userId)) =
      d.apiKeys.map fun k => (k.id, k.userId) := by
  rw [identifiedView]
  split
  · exact Rows.map_modify _ _ (f := APIKey.touch now) (fun _ => rfl) d.apiKeys
  · rfl

theorem holdsPermission_identifiedView (userId tenantId : UUID) (code : String) :
    HoldsPermission (identifiedView env now h d).toTables userId tenantId code ↔
      HoldsPermission d.toTables userId tenantId code := by
  obtain ⟨-, -, -, hp, hrp, hutr, -⟩ := identifiedView_checks env now h d
  rw [HoldsPermission, hp, hrp, hutr]
  rfl

theorem isMember_identifiedView (userId tenantId : UUID) :
    IsMember (identifiedView env now h d).toTables userId tenantId ↔
      IsMember d.toTables userId tenantId := by
  obtain ⟨-, -, -, -, -, hutr, -⟩ := identifiedView_checks env now h d
  rw [IsMember, hutr]
  rfl

theorem activeTenant_identifiedView (u : User) :
    activeTenant h (identifiedView env now h d).toTables u = activeTenant h d.toTables u := by
  obtain ⟨ht, -⟩ := identifiedView_checks env now h d
  simp only [activeTenant, ht, isMember_identifiedView]

theorem yields_requirePermissionInActiveTenant (p : Permission) :
    Yields (requirePermissionInActiveTenant env now h p) d (permitted env now h p d)
      (identifiedView env now h d) := by
  refine (yields_getCurrentActiveUser env now h d).bind fun u _ => ?_
  have ht := yields_getCurrentActiveTenant h (identifiedView env now h d) u
  rw [activeTenant_identifiedView] at ht
  refine ht.bind fun t _ => ?_
  by_cases hs : u.isSuperuser
  · rw [if_pos hs, if_pos (.inl hs)]
    exact returns_pure _ _
  · rw [if_neg hs]
    refine (returns_query _ _).bind_yields ?_
    simp only [holdsPermission_identifiedView, decide_eq_true_eq, hs, Bool.false_eq_true, false_or]
    by_cases hp : HoldsPermission d.toTables u.id t.id p.value
    · rw [if_pos hp, if_pos hp]
      exact returns_pure _ _
    · rw [if_neg hp, if_neg hp]
      exact raises_throw _ _

end Refinement

section Middleware

variable {α : Type} {h : Headers} {x : Db α} {d v : Database} {a : α}

theorem fails_handle (hm : h.xTenantId = some .malformed) : Fails (handle h x) d := by
  refine Fails.bind ?_ _
  rw [tenantContext, if_pos hm]
  exact fails_throw _ d

theorem serve_handle (hm : h.xTenantId ≠ some .malformed) : serve (handle h x) d = serve x d := by
  rw [serve, serve, handle, tenantContext, if_neg hm]
  rfl

theorem settle_handle_of_ne (hm : h.xTenantId ≠ some .malformed) :
    settle (handle h x) d = settle x d := by
  rw [settle, settle, serve_handle hm]

end Middleware

/-! ## The caller and the tenant -/

section Caller

variable {env : Env} {now : Time} {h : Headers} {d : Database} {u : User}

theorem mem_of_tokenUser (hu : tokenUser env now h d = .ok (some u)) : u ∈ d.users := by
  rw [tokenUser] at hu
  split_ifs at hu
  · cases hu
  · split at hu
    · cases hu
    · split at hu
      · cases hu
        rename_i hf
        exact List.mem_of_find?_eq_some hf
      · cases hu
    · cases hu

/-- The caller is a stored user. -/
theorem mem_of_currentUser (hu : currentUser env now h d = .ok u) : u ∈ d.users := by
  rw [currentUser] at hu
  cases ht : tokenUser env now h d with
  | error e => rw [ht] at hu; cases hu
  | ok tu =>
    cases hk : presentedKey env now h d with
    | error e => rw [ht, hk] at hu; cases hu
    | ok k =>
      rw [ht, hk] at hu
      change (match tu.or (k.bind (owner d)) with
        | none => .error (Exc.http 401 "Not authenticated")
        | some user => .ok user) = Except.ok u at hu
      cases tu with
      | some v =>
        cases hu
        exact mem_of_tokenUser ht
      | none =>
        cases k with
        | none => cases hu
        | some k =>
          cases ho : owner d k with
          | none => simp [ho] at hu
          | some v =>
            simp only [Option.none_or, Option.bind_some, ho] at hu
            cases hu
            exact List.mem_of_find?_eq_some ho

theorem currentUser_of_active (hu : currentActiveUser env now h d = .ok u) :
    currentUser env now h d = .ok u ∧ u.isActive := by
  rw [currentActiveUser] at hu
  cases hc : currentUser env now h d with
  | error e => rw [hc] at hu; cases hu
  | ok v =>
    rw [hc] at hu
    change (if ¬v.isActive then .error (Exc.http 400 "Inactive user") else .ok v) =
      Except.ok u at hu
    split_ifs at hu with hv
    cases hu
    exact ⟨rfl, hv⟩

theorem currentActiveUser_eq_ok (hu : currentUser env now h d = .ok u) (ha : u.isActive) :
    currentActiveUser env now h d = .ok u := by
  simp [currentActiveUser, hu, ha, bind, Except.bind]

/-- Without a token the caller is the owner of the key. -/
theorem currentUser_of_key (hn : h.token.getD "" = "") :
    currentUser env now h d = .ok u ↔
      ∃ k, presentedKey env now h d = .ok (some k) ∧ owner d k = some u := by
  have ht : tokenUser env now h d = .ok none := by rw [tokenUser, if_pos hn]
  rw [currentUser, ht]
  cases hk : presentedKey env now h d with
  | error e => simp [bind, Except.bind]
  | ok key =>
    cases key with
    | none => simp [bind, Except.bind]
    | some k =>
      cases ho : owner d k with
      | none => simp [bind, Except.bind, ho]
      | some v => simp [bind, Except.bind, ho]

/-- The key of a request is used when it is long enough, active and has no
expiry. -/
theorem presentedKey_eq_some {k k' : APIKey} (hk : k ∈ d.apiKeys)
    (hpre : k.keyPrefix = APIKeyService.keyPrefix h.apiKey)
    (hhash : k.keyHash = env.hashAPIKey h.apiKey) :
    presentedKey env now h d = .ok (some k') ↔
      k' = k ∧ 8 ≤ h.apiKey.length ∧ k.isActive ∧ k.expiresAt = none := by
  rw [presentedKey]
  by_cases hlen : h.apiKey.length < 8
  · rw [if_pos hlen]
    split_ifs <;> simp [Nat.not_le.mpr hlen]
  · have hne : h.apiKey ≠ "" := by
      intro he
      rw [he] at hlen
      exact hlen (by decide)
    rw [if_neg hne, if_neg hlen]
    cases hf : APIKeyService.lookup env d h.apiKey with
    | none =>
      have hact : ¬k.isActive := by
        intro hact
        rw [(APIKeyService.lookup_eq_some hk hpre hhash).mpr ⟨rfl, hact⟩] at hf
        cases hf
      simp [hact]
    | some k₁ =>
      obtain ⟨rfl, hact⟩ := (APIKeyService.lookup_eq_some hk hpre hhash).mp hf
      by_cases hexp : k₁.expiresAt = none
      · have he : APIKeyService.isExpired now k₁ = .ok false :=
          APIKeyService.isExpired_eq_ok.mpr ⟨hexp, rfl⟩
        simp [he, hexp, hact, Nat.not_lt.mp hlen, eq_comm]
      · have he : APIKeyService.isExpired now k₁ = .error .typeError :=
          APIKeyService.isExpired_of_ne_none hexp
        simp [he, hexp]

theorem activeTenant_eq_ok {tenantId : UUID} {t : Tenant}
    (hx : h.xTenantId = some (.valid tenantId)) :
    activeTenant h d.toTables u = .ok t ↔ t ∈ d.tenants ∧ t.id = tenantId ∧
      (u.isSuperuser ∨ IsMember d.toTables u.id tenantId) := by
  rw [activeTenant, hx]
  dsimp only
  rw [← and_assoc, ← Rows.find?_key_eq_some d.valid.keys.tenantsId]
  cases d.tenants.find? (·.id = tenantId) with
  | none => simp
  | some t₁ =>
    by_cases hm : u.isSuperuser ∨ IsMember d.toTables u.id tenantId
    · simp [hm]
    · simp [hm]

theorem exists_key_identifiedView {id : UUID} {p : UUID → Prop} :
    (∃ k ∈ (identifiedView env now h d).apiKeys, k.id = id ∧ p k.userId) ↔
      ∃ k ∈ d.apiKeys, k.id = id ∧ p k.userId := by
  have hmap : ∀ rows : List APIKey, (∃ k ∈ rows, k.id = id ∧ p k.userId) ↔
      ∃ y ∈ rows.map (fun k => (k.id, k.userId)), y.1 = id ∧ p y.2 := by simp
  rw [hmap, identifiedView_apiKeys, ← hmap]

/-- The header names the tenant that a request was let into. -/
theorem xTenantId_of_activeTenant {t : Tenant} (ht : activeTenant h d.toTables u = .ok t) :
    h.xTenantId = some (.valid t.id) ∧ t ∈ d.tenants := by
  rw [activeTenant] at ht
  split at ht
  · cases ht
  · cases ht
  · rename_i tenantId hx
    split at ht
    · cases ht
    · rename_i tenant hf
      obtain ⟨hmem, hid⟩ := (Rows.find?_key_eq_some d.valid.keys.tenantsId).mp hf
      split_ifs at ht
      cases ht
      exact ⟨hid ▸ hx, hmem⟩

theorem permitted_eq_ok {p : Permission} {t : Tenant} :
    permitted env now h p d = .ok (u, t) ↔ currentActiveUser env now h d = .ok u ∧
      activeTenant h d.toTables u = .ok t ∧
      (u.isSuperuser ∨ HoldsPermission d.toTables u.id t.id p.value) := by
  simp only [permitted, bind, Except.bind]
  constructor
  · intro heq
    split at heq
    · cases heq
    · rename_i v hv
      split at heq
      · cases heq
      · rename_i w hw
        split_ifs at heq with hp
        cases heq
        exact ⟨hv, hw, hp⟩
  · rintro ⟨hu, ht, hp⟩
    simp only [hu, ht, if_pos hp]

theorem mem_of_identifiedView (hu : u ∈ d.users) : u ∈ (identifiedView env now h d).users := by
  rw [(identifiedView_checks env now h d).2.1]
  exact hu

theorem returns_getTenantFromPath {t : Tenant} (ht : t ∈ d.tenants) :
    Returns (getTenantFromPath t.id) d t d := by
  have hy := yields_getTenantFromPath d t.id
  rw [(Rows.find?_key_eq_some d.valid.keys.tenantsId).mpr ⟨ht, rfl⟩] at hy
  exact hy

theorem fails_getTenantFromPath {tenantId : UUID}
    (ht : ¬∃ t ∈ d.tenants, t.id = tenantId) :
    Fails (getTenantFromPath tenantId) d := by
  have hy := yields_getTenantFromPath d tenantId
  have hf : d.tenants.find? (·.id = tenantId) = none :=
    List.find?_eq_none.mpr fun x hx => by simpa using fun hid => ht ⟨x, hx, hid⟩
  rw [hf] at hy
  exact Raises.fails hy

/-- An endpoint below a tenant of the path, behind one more check. -/
theorem fails_guarded {α : Type} {tenantId : UUID} {guard : Except Exc Unit} {f : Tenant → Db α}
    (hf : ∀ t ∈ d.tenants, t.id = tenantId → guard = .ok () → Fails (f t) d) :
    Fails (do
      let tenant ← getTenantFromPath tenantId
      lift guard
      f tenant) d := by
  by_cases ht : ∃ t ∈ d.tenants, t.id = tenantId
  · obtain ⟨t, ht, rfl⟩ := ht
    refine (returns_getTenantFromPath ht).bind_fails ?_
    cases hg : guard with
    | error e => exact (fails_lift (by simp) d).bind _
    | ok _ => exact (returns_lift rfl d).bind_fails (hf t ht rfl hg)
  · exact (fails_getTenantFromPath ht).bind _

end Caller

end Deps
end VirtualStack
