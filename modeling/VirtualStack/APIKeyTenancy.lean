import VirtualStack.Deps

/-!
# API keys and tenant boundaries

A key of scope `TENANT` names its tenant, and keys are to respect tenant
boundaries. What the dependencies pass on is the owner of the key and nothing of
the key itself, so that the active tenant is compared with the owner's
memberships only.
-/

namespace VirtualStack
open UnitOfWork

namespace APIKey

/-- A request that authenticates with a tenant's key alone, in the context of
another tenant. -/
structure UsedOutside (env : Env) (h : Headers) (d : Database) (k : APIKey) (tenantId : UUID) :
    Prop where
  stored : k ∈ d.apiKeys
  scope : k.scope = .tenant
  tenant : ∃ own, k.tenantId = some own ∧ own ≠ tenantId
  token : h.token.getD "" = ""
  keyPrefix : k.keyPrefix = APIKeyService.keyPrefix h.apiKey
  keyHash : k.keyHash = env.hashAPIKey h.apiKey
  header : h.xTenantId = some (.valid tenantId)

/-- Whatever stands behind the check of a permission in the active tenant, a
request with a tenant's key does not get there from another tenant. -/
def Confined (env : Env) (now : Time) (h : Headers) (p : Permission) (d : Database) (k : APIKey) :
    Prop :=
  ∀ tenantId, k.UsedOutside env h d tenantId →
    ∀ endpoint : User × Tenant → Db Unit, ∃ e, serve (Deps.handle h do
      let caller ← Deps.requirePermissionInActiveTenant env now h p
      endpoint caller) d = (.error e, .start d)

/-- The key can be used, and its owner is an active user with the permission in
the tenant. The tenant of the key is not asked for. -/
def Opens (h : Headers) (p : Permission) (d : Database) (k : APIKey) (tenantId : UUID) : Prop :=
  8 ≤ h.apiKey.length ∧ k.isActive ∧ k.expiresAt = none ∧ tenantId ∈ d.tenants.map (·.id) ∧
    ∃ u ∈ d.users, u.id = k.userId ∧ u.isActive ∧
      (u.isSuperuser ∨ HoldsPermission d.toTables u.id tenantId p.value)

section

variable {env : Env} {now : Time} {h : Headers} {p : Permission} {d : Database} {k : APIKey}
  {tenantId : UUID}

theorem permitted_iff_opens (now : Time) (hk : k.UsedOutside env h d tenantId) :
    (∃ caller, Deps.permitted env now h p d = .ok caller) ↔ k.Opens h p d tenantId := by
  have hkey (k' : APIKey) : Deps.presentedKey env now h d = .ok (some k') ↔
      k' = k ∧ 8 ≤ h.apiKey.length ∧ k.isActive ∧ k.expiresAt = none :=
    Deps.presentedKey_eq_some hk.stored hk.keyPrefix hk.keyHash
  constructor
  · rintro ⟨⟨u, t⟩, hp⟩
    obtain ⟨hact, hten, hauth⟩ := Deps.permitted_eq_ok.mp hp
    obtain ⟨hcur, hactive⟩ := Deps.currentUser_of_active hact
    obtain ⟨k', hk', howner⟩ := (Deps.currentUser_of_key hk.token).mp hcur
    obtain ⟨rfl, hlen, hka, hexp⟩ := (hkey k').mp hk'
    obtain ⟨hmem, rfl, -⟩ := (Deps.activeTenant_eq_ok hk.header).mp hten
    obtain ⟨humem, huid⟩ := (Rows.find?_key_eq_some d.valid.keys.usersId).mp howner
    exact ⟨hlen, hka, hexp, List.mem_map_of_mem hmem, u, humem, huid, hactive, hauth⟩
  · rintro ⟨hlen, hka, hexp, hten, u, hu, huid, hactive, hauth⟩
    obtain ⟨t, ht, rfl⟩ := List.mem_map.mp hten
    have hcur : Deps.currentUser env now h d = .ok u :=
      (Deps.currentUser_of_key hk.token).mpr ⟨k, (hkey k).mpr ⟨rfl, hlen, hka, hexp⟩,
        (Rows.find?_key_eq_some d.valid.keys.usersId).mpr ⟨hu, huid⟩⟩
    refine ⟨(u, t), Deps.permitted_eq_ok.mpr ⟨Deps.currentActiveUser_eq_ok hcur hactive, ?_, hauth⟩⟩
    exact (Deps.activeTenant_eq_ok hk.header).mpr
      ⟨ht, rfl, hauth.imp_right HoldsPermission.isMember⟩

/-- A request outside the key's tenant is let through exactly when the key opens
that tenant. -/
theorem refused_iff_not_opens (hk : k.UsedOutside env h d tenantId) :
    (∀ endpoint : User × Tenant → Db Unit, ∃ e, serve (Deps.handle h do
      let caller ← Deps.requirePermissionInActiveTenant env now h p
      endpoint caller) d = (.error e, .start d)) ↔ ¬k.Opens h p d tenantId := by
  have hmal : h.xTenantId ≠ some .malformed := by
    rw [hk.header]
    simp
  have hy := Deps.yields_requirePermissionInActiveTenant env now h d p
  rw [← permitted_iff_opens now hk]
  constructor
  · rintro href ⟨caller, hp⟩
    -- an endpoint that does nothing is reached
    obtain ⟨e, he⟩ := href fun _ => pure ()
    have hret : Returns (do
        let caller ← Deps.requirePermissionInActiveTenant env now h p
        (fun _ => pure ()) caller) d () (Deps.identifiedView env now h d) :=
      (hy.returns hp).bind (returns_pure () _)
    rw [Deps.serve_handle hmal, hret.serve] at he
    cases he
  · intro hno endpoint
    cases hp : Deps.permitted env now h p d with
    | ok caller => exact absurd ⟨caller, hp⟩ hno
    | error e =>
      rw [Deps.serve_handle hmal]
      exact ⟨e, ((hy.raises hp).bind endpoint).serve⟩

end

/-- A key is confined to its tenant exactly as far as its owner is. -/
theorem confined_iff (env : Env) (now : Time) (h : Headers) (p : Permission) (d : Database)
    (k : APIKey) : k.Confined env now h p d ↔
      ∀ tenantId, k.UsedOutside env h d tenantId → ¬k.Opens h p d tenantId := by
  constructor
  · intro hc tenantId hk
    exact (refused_iff_not_opens hk).mp (hc tenantId hk)
  · intro hno tenantId hk
    exact (refused_iff_not_opens hk).mpr (hno tenantId hk)

/-- A superuser's key for the first tenant is accepted in the second. -/
theorem sampleKey_not_confined :
    ¬(⟨1, "ci", "vs_9f3kQ", "51bbdb8d0d5019e23886325b448a8a40cffd3c4e6dc465514c1b5b1991e56139",
      none, true, none, none, 2, some 1, .tenant⟩ : APIKey).Confined Env.sample 0
      ⟨none, some "vs_9f3kQ7dLx2Pz", none, some (.valid 2), []⟩ .userRead Database.sample := by
  intro hc
  have hk : UsedOutside Env.sample ⟨none, some "vs_9f3kQ7dLx2Pz", none, some (.valid 2), []⟩
      Database.sample _ 2 :=
    ⟨List.mem_singleton.mpr rfl, rfl, ⟨1, rfl, by decide⟩, rfl, by decide, by decide, rfl⟩
  exact (refused_iff_not_opens hk).mp (hc 2 hk) ⟨by decide, rfl, rfl, by decide,
    ⟨2, "root@acme.com", "$2b$12$r", none, true, true⟩, by decide, rfl, rfl, .inl rfl⟩

end APIKey
end VirtualStack
