import VirtualStack.Deps

/-!
# `api/v1/endpoints/api_keys.py`
-/

namespace VirtualStack
open UnitOfWork

/-- The `UPDATE` of the key would be accepted. -/
def APIKeyUpdate.Accepted (env : Env) (body : APIKeyUpdate) (id : UUID) (d : Database) : Prop :=
  body.name ≠ some none ∧ body.isActive ≠ some none ∧ (d.modifyAPIKey id (body.apply env)).Valid

instance APIKeyUpdate.decidableAccepted (env : Env) (body : APIKeyUpdate) (id : UUID)
    (d : Database) : Decidable (body.Accepted env id d) := by
  unfold APIKeyUpdate.Accepted
  infer_instance

theorem APIKeyUpdate.statement_error {env : Env} {body : APIKeyUpdate} {id : UUID}
    {d : Database} (h : ¬body.Accepted env id d) :
    ∃ e, body.statement env id d = .error e := by
  rw [APIKeyUpdate.statement]
  split_ifs with hnull
  · exact ⟨_, rfl⟩
  · have hv := fun hv => h ⟨(not_or.mp hnull).1, (not_or.mp hnull).2, hv⟩
    exact ⟨_, Database.change_eq_error hv⟩

namespace Endpoints

/-- The service turns its own failures into an `HTTPException`, which the last
handler catches like any other. -/
def createAPIKey (env : Env) (now : Time) (h : Headers) (apiKeyIn : APIKeyCreate) (newId : UUID)
    (token : UrlsafeText) : Db (APIKey × String) := do
  let currentUser ← Deps.getCurrentActiveUser env now h
  if apiKeyIn.tenantId ≠ none ∧ ¬currentUser.isSuperuser then
    throw (.http 403 "You cannot create API keys for this tenant.")
  else
    tryCatch
      (APIKeyService.createWithUser env apiKeyIn currentUser.id apiKeyIn.tenantId newId token)
      fun e => match e with
        | .valueError message => throw (.http 400 message)
        | _ => throw (.http 500 "Failed to create API key: An unexpected error occurred.")

def readAPIKeys (env : Env) (now : Time) (h : Headers) (skip limit : ℤ)
    (tenantId : Option UUID) : Db (List APIKey) := do
  let currentUser ← Deps.getCurrentActiveUser env now h
  if currentUser.isSuperuser then
    match tenantId with
    | some t => APIKeyService.getMultiByTenant t skip limit
    | none => APIKeyService.getMulti skip limit
  else do
    let keys ← APIKeyService.getMultiByUser currentUser.id skip limit
    match tenantId with
    | some t => pure (keys.filter (·.tenantId = some t))
    | none => pure keys

def readAPIKey (env : Env) (now : Time) (h : Headers) (apiKeyId : UUID) : Db APIKey := do
  let currentUser ← Deps.getCurrentActiveUser env now h
  match ← APIKeyService.get apiKeyId with
  | none => throw (.http 404 "API key not found")
  | some apiKey =>
    if ¬currentUser.isSuperuser ∧ apiKey.userId ≠ currentUser.id then
      throw (.http 403 "You don't have permission to access this API key")
    else pure apiKey

def updateAPIKey (env : Env) (now : Time) (h : Headers) (apiKeyId : UUID)
    (apiKeyIn : APIKeyUpdate) : Db APIKey := do
  let currentUser ← Deps.getCurrentActiveUser env now h
  match ← APIKeyService.get apiKeyId with
  | none => throw (.http 404 "API key not found")
  | some apiKey =>
    if ¬currentUser.isSuperuser ∧ apiKey.userId ≠ currentUser.id then
      throw (.http 403 "You don't have permission to update this API key")
    else APIKeyService.update env apiKey apiKeyIn

def deleteAPIKey (env : Env) (now : Time) (h : Headers) (apiKeyId : UUID) : Db Unit := do
  let currentUser ← Deps.getCurrentActiveUser env now h
  match ← APIKeyService.get apiKeyId with
  | none => throw (.http 404 "API key not found")
  | some apiKey =>
    if ¬currentUser.isSuperuser ∧ apiKey.userId ≠ currentUser.id then
      throw (.http 403 "You don't have permission to delete this API key")
    else do
      match ← APIKeyService.delete apiKeyId with
      | none => throw (.http 404 "API key not found or already deleted")
      | some _ => pure ()

/-! ## Outcomes -/

/-- The caller may manage the key: a superuser any key, others their own. -/
def ManagesKey (env : Env) (now : Time) (h : Headers) (d : Database) (k : APIKey) : Prop :=
  ∃ u, Deps.currentActiveUser env now h d = .ok u ∧ (u.isSuperuser ∨ k.userId = u.id)

section Outcomes

variable {env : Env} {now : Time} {h : Headers} {d : Database} {k : APIKey} {id : UUID}

/-- A creation fails, or commits a key of the caller. -/
theorem createAPIKey_cases (env : Env) (now : Time) (h : Headers) (d : Database)
    (body : APIKeyCreate) (newId : UUID) (token : UrlsafeText) :
    Fails (createAPIKey env now h body newId token) d ∨
    ∃ u row, Deps.currentActiveUser env now h d = .ok u ∧ row.userId = u.id ∧
      (row.scope = .tenant ↔ row.tenantId ≠ none) ∧
      ∃ hv : ((Deps.identifiedView env now h d).addAPIKey row).Valid,
        serve (createAPIKey env now h body newId token) d =
          (.ok (row, APIKeyService.generateAPIKey token), .start ⟨_, hv⟩) := by
  have hy := Deps.yields_getCurrentActiveUser env now h d
  cases hu : Deps.currentActiveUser env now h d with
  | error e => exact .inl ((hy.raises hu).bind _).fails
  | ok u =>
    by_cases hten : body.tenantId ≠ none ∧ ¬u.isSuperuser
    · refine .inl ((hy.returns hu).bind_fails ?_)
      rw [if_pos hten]
      exact fails_throw _ _
    · obtain hf | ⟨keyTenant, expiresAt, hkt, -, hv, hrun⟩ := APIKeyService.createWithUser_cases
        env (Deps.identifiedView env now h d) body u.id body.tenantId newId token
      · refine .inl ((hy.returns hu).bind_fails ?_)
        rw [if_neg hten]
        refine hf.tryCatch fun e => ?_
        cases e <;> exact ⟨_, rfl⟩
      · refine .inr ⟨u, _, rfl, rfl, APIKeyCreate.keyTenant_scope hkt, hv, serve_of_ok ?_⟩
        rw [createAPIKey, run_bind_ok (hy.returns hu d), if_neg hten]
        exact run_tryCatch_ok (hrun d) _

/-- A listing fails, or shows a caller who is no superuser only their own keys. -/
theorem readAPIKeys_cases (env : Env) (now : Time) (h : Headers) (d : Database) (skip limit : ℤ)
    (tenantId : Option UUID) :
    Fails (readAPIKeys env now h skip limit tenantId) d ∨
    ∃ u rows, Deps.currentActiveUser env now h d = .ok u ∧
      Returns (readAPIKeys env now h skip limit tenantId) d rows
        (Deps.identifiedView env now h d) ∧
      (¬u.isSuperuser → ∀ k ∈ rows, k.userId = u.id) := by
  have hy := Deps.yields_getCurrentActiveUser env now h d
  cases hu : Deps.currentActiveUser env now h d with
  | error e => exact .inl ((hy.raises hu).bind _).fails
  | ok u =>
    by_cases hs : u.isSuperuser
    · obtain ⟨p, hprog⟩ : ∃ p, (match tenantId with
          | some t => APIKeyService.getMultiByTenant t skip limit
          | none => APIKeyService.getMulti skip limit) = APIKeyService.select p skip limit := by
        cases tenantId <;> exact ⟨_, rfl⟩
      obtain hf | ⟨rows, hret, -⟩ :=
        APIKeyService.select_cases p skip limit (Deps.identifiedView env now h d)
      · refine .inl ((hy.returns hu).bind_fails ?_)
        rw [if_pos hs, hprog]
        exact hf
      · refine .inr ⟨u, rows, rfl, (hy.returns hu).bind ?_, fun hn => absurd hs hn⟩
        rw [if_pos hs, hprog]
        exact hret
    · obtain hf | ⟨rows, hret, hown⟩ :=
        APIKeyService.select_cases (·.userId = u.id) skip limit (Deps.identifiedView env now h d)
      · refine .inl ((hy.returns hu).bind_fails ?_)
        rw [if_neg hs]
        exact hf.bind _
      · refine .inr ⟨u, (match tenantId with
          | some t => rows.filter (·.tenantId = some t)
          | none => rows), rfl, (hy.returns hu).bind ?_, fun _ k hk => ?_⟩
        · rw [if_neg hs]
          refine hret.bind ?_
          cases tenantId <;> exact returns_pure _ _
        · refine of_decide_eq_true (hown k ?_)
          cases tenantId with
          | none => exact hk
          | some t => exact List.mem_of_mem_filter hk

/-- Reading, updating and deleting a key begin with the same lookup and check. -/
def managedKey {α : Type} (env : Env) (now : Time) (h : Headers) (id : UUID) (forbidden : Exc)
    (f : APIKey → Db α) : Db α := do
  let currentUser ← Deps.getCurrentActiveUser env now h
  match ← APIKeyService.get id with
  | none => throw (.http 404 "API key not found")
  | some apiKey =>
    if ¬currentUser.isSuperuser ∧ apiKey.userId ≠ currentUser.id then throw forbidden
    else f apiKey

theorem returns_managedKey {α : Type} {forbidden : Exc} {f : APIKey → Db α} {a : α}
    {v : Database} (hk : k ∈ (Deps.identifiedView env now h d).apiKeys)
    (hm : ManagesKey env now h d k) (hf : Returns (f k) (Deps.identifiedView env now h d) a v) :
    Returns (managedKey env now h k.id forbidden f) d a v := by
  obtain ⟨u, hu, ho⟩ := hm
  refine ((Deps.yields_getCurrentActiveUser env now h d).returns hu).bind
    ((CRUDBase.returns_get _ _ _ k.id).bind ?_)
  rw [(Rows.find?_key_eq_some (Deps.identifiedView env now h d).valid.keys.apiKeysId).mpr
    ⟨hk, rfl⟩]
  dsimp only
  rw [if_neg fun hn => ho.elim hn.1 hn.2]
  exact hf

theorem fails_managedKey {α : Type} {forbidden : Exc} {f : APIKey → Db α}
    (hn : ∀ k ∈ (Deps.identifiedView env now h d).apiKeys, k.id = id →
      ManagesKey env now h d k → Fails (f k) (Deps.identifiedView env now h d)) :
    Fails (managedKey env now h id forbidden f) d := by
  have hy := Deps.yields_getCurrentActiveUser env now h d
  cases hu : Deps.currentActiveUser env now h d with
  | error e => exact ((hy.raises hu).bind _).fails
  | ok u =>
    refine (hy.returns hu).bind_fails ((CRUDBase.returns_get _ _ _ id).bind_fails ?_)
    cases hf : (Deps.identifiedView env now h d).apiKeys.find? (·.id = id) with
    | none => exact fails_throw _ _
    | some k =>
      obtain ⟨hk, hid⟩ := (Rows.find?_key_eq_some
        (Deps.identifiedView env now h d).valid.keys.apiKeysId).mp hf
      dsimp only
      split_ifs with ho
      · exact fails_throw _ _
      · exact hn k hk hid ⟨u, hu, by simpa only [not_and_or, not_not, ne_eq] using ho⟩

theorem readAPIKey_cases (env : Env) (now : Time) (h : Headers) (d : Database) (id : UUID) :
    Fails (readAPIKey env now h id) d ∨
    ∃ u k, Deps.currentActiveUser env now h d = .ok u ∧
      Returns (readAPIKey env now h id) d k (Deps.identifiedView env now h d) ∧
      (u.isSuperuser ∨ k.userId = u.id) := by
  by_cases hc : ∃ k ∈ (Deps.identifiedView env now h d).apiKeys, k.id = id ∧
      ManagesKey env now h d k
  · obtain ⟨k, hk, rfl, u, hu, ho⟩ := hc
    exact .inr ⟨u, k, hu, returns_managedKey hk ⟨u, hu, ho⟩ (returns_pure k _), ho⟩
  · exact .inl (fails_managedKey fun k hk hid hm => absurd ⟨k, hk, hid, hm⟩ hc)

theorem returns_updateAPIKey {body : APIKeyUpdate}
    (hk : k ∈ (Deps.identifiedView env now h d).apiKeys) (hm : ManagesKey env now h d k)
    (hb : body.Accepted env k.id (Deps.identifiedView env now h d)) :
    Returns (updateAPIKey env now h k.id body) d (body.apply env k) ⟨_, hb.2.2⟩ := by
  refine returns_managedKey hk hm
    (CRUDBase.returns_update _ _ _ k.id (w := body.statement env k.id) ?_ ?_)
  · rw [APIKeyUpdate.statement, if_neg (not_or.mpr ⟨hb.1, hb.2.1⟩)]
    exact Database.change_eq_ok hb.2.2
  · change (Rows.modify (·.id) k.id (body.apply env) _).find? _ = _
    rw [Rows.find?_modify_self (f := body.apply env) (fun _ => rfl),
      (Rows.find?_key_eq_some (Deps.identifiedView env now h d).valid.keys.apiKeysId).mpr
        ⟨hk, rfl⟩]
    rfl

theorem fails_updateAPIKey {body : APIKeyUpdate}
    (hn : ∀ k ∈ (Deps.identifiedView env now h d).apiKeys, k.id = id →
      ManagesKey env now h d k → ¬body.Accepted env id (Deps.identifiedView env now h d)) :
    Fails (updateAPIKey env now h id body) d := by
  refine fails_managedKey fun k hk hid hm => ?_
  subst hid
  obtain ⟨e, he⟩ := APIKeyUpdate.statement_error (hn k hk rfl hm)
  exact (CRUDBase.raises_update _ _ _ k.id he).fails

theorem returns_deleteAPIKey (hk : k ∈ (Deps.identifiedView env now h d).apiKeys)
    (hm : ManagesKey env now h d k) :
    Returns (deleteAPIKey env now h k.id) d ()
      ⟨_, (Deps.identifiedView env now h d).valid.dropAPIKey k.id⟩ := by
  have hf := (Rows.find?_key_eq_some (Deps.identifiedView env now h d).valid.keys.apiKeysId).mpr
    ⟨hk, rfl⟩
  have hdelete := CRUDBase.returns_delete_some (·.apiKeys) (·.id) _ k.id hf
    (Database.change_eq_ok ((Deps.identifiedView env now h d).valid.dropAPIKey k.id))
  exact returns_managedKey hk hm (hdelete.bind (returns_pure () _))

theorem fails_deleteAPIKey
    (hn : ∀ k ∈ (Deps.identifiedView env now h d).apiKeys, k.id = id →
      ¬ManagesKey env now h d k) :
    Fails (deleteAPIKey env now h id) d :=
  fails_managedKey fun k hk hid hm => absurd hm (hn k hk hid)

end Outcomes

end Endpoints
end VirtualStack
