import VirtualStack.Services.Base

/-!
# `services/iam/api_key.py`
-/

namespace VirtualStack
open UnitOfWork

/-- What `secrets.token_urlsafe(32)` returns: 32 random bytes as URL-safe base64
text without padding. -/
structure UrlsafeText where
  text : String
  length_eq : text.length = 43
  urlsafe : ∀ c ∈ text.toList, c.isAlphanum ∨ c = '-' ∨ c = '_'
  deriving DecidableEq

structure APIKeyCreate where
  name : String
  description : Option String
  isActive : Bool
  expiresAt : Option DateTime
  scope : APIKeyScope
  tenantId : Option UUID
  deriving DecidableEq, Repr

structure APIKeyUpdate where
  name : Field String
  description : Field String
  isActive : Field Bool
  expiresAt : Field DateTime
  deriving DecidableEq, Repr

def APIKeyUpdate.apply (env : Env) (body : APIKeyUpdate) (x : APIKey) : APIKey :=
  { x with
    name := (body.name.getD x.name).getD x.name
    description := body.description.getD x.description
    isActive := (body.isActive.getD x.isActive).getD x.isActive
    expiresAt := match body.expiresAt with
      | none => x.expiresAt
      | some e => e.map (·.instant env.localOffset) }

def APIKeyUpdate.statement (env : Env) (body : APIKeyUpdate) (id : UUID) (d : Database) :
    Except Exc Database :=
  if body.name = some none ∨ body.isActive = some none then .error .integrityError
  else d.change (Tables.modifyAPIKey id (body.apply env))

/-- The write of `last_used_at`. -/
def APIKey.touch (now : Time) (x : APIKey) : APIKey := { x with lastUsedAt := some now }

/-- The write of `last_used_at` touches no constrained column. -/
theorem Tables.Valid.touchAPIKey {t : Tables} (h : t.Valid) (id : UUID) (now : Time) :
    (t.modifyAPIKey id (APIKey.touch now)).Valid := by
  refine ⟨?_, ?_, ?_⟩
  · exact { h.keys with
      apiKeysId := Rows.nodup_map_modify _ _ (f := APIKey.touch now) (fun _ => rfl)
        h.keys.apiKeysId
      apiKeysPrefix := Rows.nodup_map_modify _ _ (f := APIKey.touch now) (fun _ => rfl)
        h.keys.apiKeysPrefix }
  · exact { h.references with
      apiKeyUser := Rows.forall_modify h.references.apiKeyUser fun _ _ _ hx => hx
      apiKeyTenant := Rows.forall_modify h.references.apiKeyTenant fun _ _ _ hx => hx }
  · exact { h.widths with apiKeys := Rows.forall_modify h.widths.apiKeys fun _ _ _ hx => hx }

theorem Tables.Valid.of_touchAPIKey {t : Tables} {id : UUID} {now : Time}
    (h : (t.modifyAPIKey id (APIKey.touch now)).Valid) : t.Valid := by
  have hmap {β : Type} (g : APIKey → β) (hg : ∀ x, g (APIKey.touch now x) = g x)
      (hn : ((t.modifyAPIKey id (APIKey.touch now)).apiKeys.map g).Nodup) :
      (t.apiKeys.map g).Nodup := by
    rwa [← Rows.map_modify (·.id) id hg t.apiKeys]
  refine ⟨?_, ?_, ?_⟩
  · exact { h.keys with
      apiKeysId := hmap (·.id) (fun _ => rfl) h.keys.apiKeysId
      apiKeysPrefix := hmap (·.keyPrefix) (fun _ => rfl) h.keys.apiKeysPrefix }
  · exact { h.references with
      apiKeyUser := Rows.of_forall_modify h.references.apiKeyUser fun _ hx => hx
      apiKeyTenant := Rows.of_forall_modify h.references.apiKeyTenant fun _ hx => hx }
  · exact { h.widths with apiKeys := Rows.of_forall_modify h.widths.apiKeys fun _ hx => hx }

/-- The stored rows after a key was used. -/
def Database.touchAPIKey (d : Database) (id : UUID) (now : Time) : Database :=
  ⟨d.modifyAPIKey id (APIKey.touch now), d.valid.touchAPIKey id now⟩

/-- The tenant of a new key: the argument, or else the body's, for the scope
`TENANT`, and none for `GLOBAL`. -/
def APIKeyCreate.keyTenant (objIn : APIKeyCreate) (tenantId : Option UUID) :
    Except Exc (Option UUID) :=
  match objIn.scope with
  | .tenant => match tenantId.or objIn.tenantId with
    | none => .error (.valueError "tenant_id is required for tenant-scoped API keys")
    | some t => .ok (some t)
  | .global => .ok none

/-- The expiry of a new key, as aware UTC. -/
def APIKeyCreate.expiry (env : Env) (objIn : APIKeyCreate) : Except Exc (Option Time) :=
  match objIn.expiresAt with
  | none => .ok none
  | some e => (e.astimezoneUtc env.localOffset).map some

theorem APIKeyCreate.keyTenant_scope {objIn : APIKeyCreate} {tenantId keyTenant : Option UUID}
    (h : objIn.keyTenant tenantId = .ok keyTenant) : objIn.scope = .tenant ↔ keyTenant ≠ none := by
  rw [APIKeyCreate.keyTenant] at h
  cases hs : objIn.scope with
  | global =>
    rw [hs] at h
    cases h
    simp
  | tenant =>
    rw [hs] at h
    dsimp only at h
    cases ht : tenantId.or objIn.tenantId with
    | none => rw [ht] at h; cases h
    | some t => rw [ht] at h; cases h; simp

namespace APIKeyService

def get (recordId : UUID) : Db (Option APIKey) := CRUDBase.get (·.apiKeys) (·.id) recordId

/-- `api_key[:8]`. -/
def keyPrefix (apiKey : String) : String := String.ofList (apiKey.toList.take 8)

/-- `_generate_api_key`. -/
def generateAPIKey (token : UrlsafeText) : String := "vsak_" ++ token.text

/-- The stored key that a raw key selects: prefix, hash and `is_active` match. -/
def lookup (env : Env) (d : Database) (apiKey : String) : Option APIKey :=
  d.apiKeys.find? fun k => k.keyPrefix = keyPrefix apiKey ∧ k.keyHash = env.hashAPIKey apiKey ∧
    k.isActive

/-- Prefixes are unique, so a raw key selects the key it was made for or none. -/
theorem lookup_eq_some {env : Env} {d : Database} {apiKey : String} {k k' : APIKey}
    (hk : k ∈ d.apiKeys) (hpre : k.keyPrefix = keyPrefix apiKey)
    (hhash : k.keyHash = env.hashAPIKey apiKey) :
    lookup env d apiKey = some k' ↔ k' = k ∧ k.isActive := by
  rw [lookup]
  constructor
  · intro hf
    have hmem := List.mem_of_find?_eq_some hf
    have hp := List.find?_some hf
    obtain ⟨hpre', -, hact⟩ := of_decide_eq_true hp
    obtain rfl := Rows.eq_of_key_eq d.valid.keys.apiKeysPrefix hmem hk (hpre'.trans hpre.symm)
    exact ⟨rfl, hact⟩
  · rintro ⟨rfl, hact⟩
    cases hf : d.apiKeys.find? fun k => decide (k.keyPrefix = keyPrefix apiKey ∧
        k.keyHash = env.hashAPIKey apiKey ∧ k.isActive) with
    | none =>
      exact absurd (decide_eq_true ⟨hpre, hhash, hact⟩) (List.find?_eq_none.mp hf k' hk)
    | some k =>
      have hmem := List.mem_of_find?_eq_some hf
      have hp := List.find?_some hf
      have hpre' := (of_decide_eq_true hp).1
      rw [Rows.eq_of_key_eq d.valid.keys.apiKeysPrefix hmem hk (hpre'.trans hpre.symm)]

/-- `db_obj.expires_at < datetime.utcnow()`, for a key with an expiry. -/
def isExpired (now : Time) (k : APIKey) : Except Exc Bool :=
  match k.expiresAt with
  | none => .ok false
  | some e => (awareUtc e).lt (utcnow now)

/-- The column is aware and `utcnow` is naive: a key with an expiry cannot be
checked at all. -/
theorem isExpired_eq_ok {now : Time} {k : APIKey} {b : Bool} :
    isExpired now k = .ok b ↔ k.expiresAt = none ∧ b = false := by
  rw [isExpired]
  cases k.expiresAt with
  | none => simp [eq_comm]
  | some e => simp [awareUtc, utcnow, DateTime.lt]

theorem isExpired_of_ne_none {now : Time} {k : APIKey} (h : k.expiresAt ≠ none) :
    isExpired now k = .error .typeError := by
  obtain ⟨e, he⟩ := Option.ne_none_iff_exists'.mp h
  rw [isExpired, he]
  rfl

/-- The session is not committed here: the source leaves that to the caller. -/
def validateAPIKey (env : Env) (now : Time) (apiKey : String) : Db (Option (APIKey × User)) :=
  if apiKey.length < 8 then pure none
  else do
    match ← query fun d => lookup env d apiKey with
    | none => pure none
    | some k =>
      if ← lift (isExpired now k) then pure none
      else do
        add (·.change (Tables.modifyAPIKey k.id (APIKey.touch now)))
        match ← query fun d => d.users.find? (·.id = k.userId) with
        | none => pure none
        | some user => pure (some (k.touch now, user))

/-- The row of a new key. -/
def newRow (env : Env) (objIn : APIKeyCreate) (userId : UUID) (keyTenant : Option UUID)
    (expiresAt : Option Time) (newId : UUID) (rawKey : String) : APIKey :=
  { id := newId
    name := objIn.name
    keyPrefix := keyPrefix rawKey
    keyHash := env.hashAPIKey rawKey
    description := objIn.description
    isActive := objIn.isActive
    expiresAt := expiresAt
    lastUsedAt := none
    userId := userId
    tenantId := keyTenant
    scope := objIn.scope }

/-- The details of the two errors also carry the driver's text. -/
def createWithUser (env : Env) (objIn : APIKeyCreate) (userId : UUID) (tenantId : Option UUID)
    (newId : UUID) (token : UrlsafeText) : Db (APIKey × String) := do
  let rawKey := generateAPIKey token
  let keyTenant ← lift (objIn.keyTenant tenantId)
  let expiresAt ← lift (objIn.expiry env)
  tryCatch
    (do
      add (·.change (Tables.addAPIKey
        (newRow env objIn userId keyTenant expiresAt newId rawKey)))
      commit
      let dbObj ← CRUDBase.refresh (·.apiKeys) (·.id) newId
      match ← get dbObj.id with
      | none => throw (.http 500 "Failed to retrieve created API key.")
      | some created => do
        let createdDbObj ← CRUDBase.refresh (·.apiKeys) (·.id) created.id
        pure (createdDbObj, rawKey))
    fun e => do
      rollback
      if e = .integrityError then throw (.http 500 "Failed to create API key")
      else throw (.http 500 "An unexpected error occurred")

/-- `offset(skip).limit(limit)`; PostgreSQL refuses negative values. -/
def page (skip limit : ℤ) (keys : List APIKey) : Except Exc (List APIKey) :=
  if skip < 0 ∨ limit < 0 then .error .dataError
  else .ok ((keys.drop skip.toNat).take limit.toNat)

/-- The keys that a `SELECT` finds. Each is then refreshed, which gives the row
just read. -/
def select (p : APIKey → Bool) (skip limit : ℤ) : Db (List APIKey) := do
  let keys ← query fun d => page skip limit (d.apiKeys.filter p)
  lift keys

def getMultiByUser (userId : UUID) (skip limit : ℤ) : Db (List APIKey) :=
  select (·.userId = userId) skip limit

def getMultiByTenant (tenantId : UUID) (skip limit : ℤ) : Db (List APIKey) :=
  select (·.tenantId = some tenantId) skip limit

def getMulti (skip limit : ℤ) : Db (List APIKey) := select (fun _ => true) skip limit

def update (env : Env) (dbObj : APIKey) (objIn : APIKeyUpdate) : Db APIKey :=
  CRUDBase.update (·.apiKeys) (·.id) (objIn.statement env dbObj.id) dbObj.id

def delete (recordId : UUID) : Db (Option APIKey) :=
  CRUDBase.delete (·.apiKeys) (·.id) (·.change (Tables.dropAPIKey recordId)) recordId

/-! ## Outcomes -/

section Outcomes

variable {env : Env} {d : Database} {objIn : APIKeyCreate} {userId newId : UUID}
  {tenantId : Option UUID} {token : UrlsafeText}

theorem length_generateAPIKey (token : UrlsafeText) : (generateAPIKey token).length = 48 := by
  rw [generateAPIKey, String.length_append, token.length_eq]
  rfl

/-- The `INSERT` of the new key would be accepted. -/
def Creatable (env : Env) (d : Database) (objIn : APIKeyCreate) (userId : UUID)
    (tenantId : Option UUID) (newId : UUID) (token : UrlsafeText) : Prop :=
  ∃ keyTenant expiresAt, objIn.keyTenant tenantId = .ok keyTenant ∧
    objIn.expiry env = .ok expiresAt ∧
    (d.addAPIKey (newRow env objIn userId keyTenant expiresAt newId (generateAPIKey token))).Valid

/-- The new key is committed and returned with its raw value. -/
theorem run_createWithUser {keyTenant : Option UUID} {expiresAt : Option Time}
    (ht : objIn.keyTenant tenantId = .ok keyTenant) (he : objIn.expiry env = .ok expiresAt)
    (hv : (d.addAPIKey (newRow env objIn userId keyTenant expiresAt newId
      (generateAPIKey token))).Valid) (c : Database) :
    (createWithUser env objIn userId tenantId newId token).run (.clean c d) =
      (.ok (newRow env objIn userId keyTenant expiresAt newId (generateAPIKey token),
        generateAPIKey token), .start ⟨_, hv⟩) := by
  have hf : (⟨_, hv⟩ : Database).apiKeys.find? (·.id = newId) =
      some (newRow env objIn userId keyTenant expiresAt newId (generateAPIKey token)) :=
    (Rows.find?_key_eq_some hv.keys.apiKeysId).mpr
      ⟨List.mem_append_right _ (List.mem_singleton.mpr rfl), rfl⟩
  have hrefresh := CRUDBase.returns_refresh (·.apiKeys) (·.id) ⟨_, hv⟩ newId hf
  have hget : Returns (get newId) ⟨_, hv⟩ _ ⟨_, hv⟩ := CRUDBase.returns_get _ _ _ newId
  rw [hf] at hget
  rw [createWithUser, run_bind_ok (returns_lift ht d c), run_bind_ok (returns_lift he d c)]
  refine run_tryCatch_ok ?_ _
  rw [run_bind_ok (add_clean c d _), run_bind_ok (commit_one_ok c d (Database.change_eq_ok hv)),
    run_bind_ok (hrefresh _)]
  exact (run_bind_ok (hget _) _).trans (run_bind_ok (hrefresh _) _)

theorem serve_createWithUser {keyTenant : Option UUID} {expiresAt : Option Time}
    (ht : objIn.keyTenant tenantId = .ok keyTenant) (he : objIn.expiry env = .ok expiresAt)
    (hv : (d.addAPIKey (newRow env objIn userId keyTenant expiresAt newId
      (generateAPIKey token))).Valid) :
    serve (createWithUser env objIn userId tenantId newId token) d =
      (.ok (newRow env objIn userId keyTenant expiresAt newId (generateAPIKey token),
        generateAPIKey token), .start ⟨_, hv⟩) :=
  serve_of_ok (run_createWithUser ht he hv d)

theorem fails_createWithUser (h : ¬Creatable env d objIn userId tenantId newId token) :
    Fails (createWithUser env objIn userId tenantId newId token) d := by
  cases ht : objIn.keyTenant tenantId with
  | error e => exact (fails_lift (by simp [ht]) d).bind _
  | ok keyTenant =>
    refine (returns_lift ht d).bind_fails ?_
    cases he : objIn.expiry env with
    | error e => exact (fails_lift (by simp) d).bind _
    | ok expiresAt =>
      refine (returns_lift rfl d).bind_fails ?_
      have hw := Database.change_eq_error fun hv => h ⟨keyTenant, expiresAt, ht, he, hv⟩
      refine ⟨.http 500 (if (d.addAPIKey (newRow env objIn userId keyTenant expiresAt newId
        (generateAPIKey token))).violation = .integrityError then "Failed to create API key"
        else "An unexpected error occurred"), fun c => ⟨.start c, ?_, rfl⟩⟩
      rw [run_tryCatch, run_bind_ok (add_clean c d _), run_bind_error (commit_one_error c d hw)]
      dsimp only
      rw [run_bind_ok (run_rollback _)]
      split_ifs <;> rfl

theorem createWithUser_cases (env : Env) (d : Database) (objIn : APIKeyCreate) (userId : UUID)
    (tenantId : Option UUID) (newId : UUID) (token : UrlsafeText) :
    Fails (createWithUser env objIn userId tenantId newId token) d ∨
    ∃ keyTenant expiresAt, objIn.keyTenant tenantId = .ok keyTenant ∧
      objIn.expiry env = .ok expiresAt ∧
      ∃ hv : (d.addAPIKey (newRow env objIn userId keyTenant expiresAt newId
        (generateAPIKey token))).Valid, ∀ c,
        (createWithUser env objIn userId tenantId newId token).run (.clean c d) =
          (.ok (newRow env objIn userId keyTenant expiresAt newId (generateAPIKey token),
            generateAPIKey token), .start ⟨_, hv⟩) := by
  by_cases h : Creatable env d objIn userId tenantId newId token
  · obtain ⟨keyTenant, expiresAt, ht, he, hv⟩ := h
    exact .inr ⟨keyTenant, expiresAt, ht, he, hv, run_createWithUser ht he hv⟩
  · exact .inl (fails_createWithUser h)

theorem validateAPIKey_unmatched {now : Time} {apiKey : String}
    (h : apiKey.length < 8 ∨ lookup env d apiKey = none) :
    Returns (validateAPIKey env now apiKey) d none d := by
  rw [validateAPIKey]
  split_ifs with hl
  · exact returns_pure none d
  · refine (returns_query _ d).bind ?_
    rw [h.resolve_left hl]
    exact returns_pure none d

/-- A key without expiry is touched and returned with its owner. -/
theorem validateAPIKey_matched (now : Time) {apiKey : String} {k : APIKey}
    (hl : 8 ≤ apiKey.length) (hk : lookup env d apiKey = some k) (he : k.expiresAt = none) :
    ∃ u ∈ d.users, u.id = k.userId ∧
      Returns (validateAPIKey env now apiKey) d (some (k.touch now, u))
        (d.touchAPIKey k.id now) := by
  obtain ⟨u, hu, hid⟩ := List.mem_map.mp
    (d.valid.references.apiKeyUser k (List.mem_of_find?_eq_some hk))
  refine ⟨u, hu, hid, ?_⟩
  have hw : d.change (Tables.modifyAPIKey k.id (APIKey.touch now)) =
      .ok (d.touchAPIKey k.id now) := Database.change_eq_ok_iff.mpr rfl
  have hf : (d.touchAPIKey k.id now).users.find? (·.id = k.userId) = some u :=
    (Rows.find?_key_eq_some d.valid.keys.usersId).mpr ⟨hu, hid⟩
  rw [validateAPIKey, if_neg (Nat.not_lt.mpr hl)]
  refine (returns_query _ d).bind ?_
  rw [hk]
  refine (returns_lift (isExpired_eq_ok.mpr ⟨he, rfl⟩) d).bind fun c => ?_
  simp only [Bool.false_eq_true, if_false]
  rw [run_bind_ok (add_clean c d _), run_bind_ok (query_one_ok c d hw _), hf]
  rfl

/-- A key with an expiry cannot be compared with the clock. -/
theorem validateAPIKey_expiring {now : Time} {apiKey : String} {k : APIKey}
    (hl : 8 ≤ apiKey.length) (hk : lookup env d apiKey = some k) (he : k.expiresAt ≠ none) :
    Raises (validateAPIKey env now apiKey) d .typeError := by
  rw [validateAPIKey, if_neg (Nat.not_lt.mpr hl)]
  refine (returns_query _ d).bind_raises ?_
  rw [hk]
  refine Raises.bind (fun c => ⟨.clean c d, ?_, rfl⟩) _
  rw [run_lift, isExpired_of_ne_none he]

theorem select_cases (p : APIKey → Bool) (skip limit : ℤ) (d : Database) :
    Fails (select p skip limit) d ∨
    ∃ rows, Returns (select p skip limit) d rows d ∧ ∀ k ∈ rows, p k := by
  cases hp : page skip limit (d.apiKeys.filter p) with
  | error e => exact .inl ((returns_query _ d).bind_fails (fails_lift (by simp [hp]) d))
  | ok rows =>
    refine .inr ⟨rows, (returns_query _ d).bind (returns_lift hp d), fun k hk => ?_⟩
    rw [page] at hp
    split_ifs at hp
    cases hp
    exact List.of_mem_filter (List.mem_of_mem_drop (List.mem_of_mem_take hk))

/-- An update fails, or writes the body's columns into the row of that id. -/
theorem update_cases (env : Env) (d : Database) (dbObj : APIKey) (objIn : APIKeyUpdate) :
    Fails (update env dbObj objIn) d ∨
    ∃ hv : (d.modifyAPIKey dbObj.id (objIn.apply env)).Valid,
      ∃ k, Returns (update env dbObj objIn) d k ⟨_, hv⟩ := by
  cases hw : objIn.statement env dbObj.id d with
  | error e => exact .inl (CRUDBase.raises_update _ _ d dbObj.id hw).fails
  | ok d' =>
    have hd' : d'.toTables = d.modifyAPIKey dbObj.id (objIn.apply env) := by
      rw [APIKeyUpdate.statement] at hw
      split_ifs at hw
      exact Database.change_eq_ok_iff.mp hw
    have hv : (d.modifyAPIKey dbObj.id (objIn.apply env)).Valid := hd' ▸ d'.valid
    obtain rfl : d' = ⟨_, hv⟩ := Database.ext_tables hd'
    cases hf : (⟨_, hv⟩ : Database).apiKeys.find? (·.id = dbObj.id) with
    | none =>
      -- the row is not there, and reading it back raises
      refine .inl ⟨.invalidRequestError, fun c => ⟨.clean c ⟨_, hv⟩, ?_, rfl⟩⟩
      rw [update, CRUDBase.update, run_bind_ok (add_clean c d _),
        run_bind_ok (flush_one_ok c d hw), CRUDBase.refresh,
        run_bind_ok (CRUDBase.returns_get _ _ ⟨_, hv⟩ dbObj.id c), hf]
      rfl
    | some k => exact .inr ⟨hv, k, CRUDBase.returns_update _ _ d dbObj.id hw hf⟩

/-- A delete takes the stored row of that id, or finds none. -/
theorem delete_cases (recordId : UUID) (d : Database) :
    ((∀ k ∈ d.apiKeys, k.id ≠ recordId) ∧ Returns (delete recordId) d none d) ∨
    ∃ k ∈ d.apiKeys, k.id = recordId ∧
      Returns (delete recordId) d (some k) ⟨_, d.valid.dropAPIKey recordId⟩ := by
  cases hf : d.apiKeys.find? (·.id = recordId) with
  | none =>
    refine .inl ⟨fun k hk => by simpa using List.find?_eq_none.mp hf k hk, ?_⟩
    refine (CRUDBase.returns_get _ _ d recordId).bind ?_
    rw [hf]
    exact returns_pure none d
  | some k =>
    obtain ⟨hk, hid⟩ := (Rows.find?_key_eq_some d.valid.keys.apiKeysId).mp hf
    exact .inr ⟨k, hk, hid, CRUDBase.returns_delete_some _ _ d recordId hf
      (Database.change_eq_ok (d.valid.dropAPIKey recordId))⟩

end Outcomes

end APIKeyService
end VirtualStack
