import VirtualStack.Deps

/-!
# `api/v1/endpoints/tenants.py`

Only the listing declares a dependency beside the session.
-/

namespace VirtualStack
open UnitOfWork

/-- The characters of `^[a-z0-9-]+$`. -/
def isSlugChar (c : Char) : Bool :=
  ('a' ≤ c && c ≤ 'z') || ('0' ≤ c && c ≤ '9') || c = '-'

/-- `constr(min_length=3, max_length=50, pattern="^[a-z0-9-]+$")` -/
def IsSlug (slug : String) : Prop :=
  3 ≤ slug.length ∧ slug.length ≤ 50 ∧ slug.toList.all isSlugChar

instance (slug : String) : Decidable (IsSlug slug) := by
  unfold IsSlug
  infer_instance

/-- `TenantCreate` on a body: only the slug is constrained. -/
def TenantCreate.validate (body : TenantCreate) : Except Exc TenantCreate :=
  if body.slug.length < 3 then .error (.http 422 "String should have at least 3 characters")
  else if 50 < body.slug.length then
    .error (.http 422 "String should have at most 50 characters")
  else if body.slug.toList.all isSlugChar then .ok body
  else .error (.http 422 "String should match pattern '^[a-z0-9-]+$'")

theorem TenantCreate.validate_eq_ok {sent body : TenantCreate} :
    sent.validate = .ok body ↔ IsSlug sent.slug ∧ sent = body := by
  rw [TenantCreate.validate, IsSlug]
  split_ifs with hshort hlong hchars
  · exact iff_of_false (fun h => by cases h) fun h => absurd h.1.1 (Nat.not_le.mpr hshort)
  · exact iff_of_false (fun h => by cases h) fun h => absurd h.1.2.1 (Nat.not_le.mpr hlong)
  · simp [Nat.not_lt.mp hshort, Nat.not_lt.mp hlong, hchars]
  · exact iff_of_false (fun h => by cases h) fun h => hchars h.1.2.2

/-- The body passes its schema and the `INSERT` of its row would be accepted. -/
def TenantCreate.Accepted (body : TenantCreate) (newId : UUID) (d : Database) : Prop :=
  IsSlug body.slug ∧ (∀ x ∈ d.tenants, x.name ≠ body.name) ∧
    (d.addTenant (body.row newId)).Valid

/-- The tenant exists and the `UPDATE` would be accepted. -/
def TenantUpdate.Accepted (body : TenantUpdate) (id : UUID) (d : Database) : Prop :=
  (∃ x ∈ d.tenants, x.id = id) ∧ body.name ≠ some none ∧ body.isActive ≠ some none ∧
    (d.modifyTenant id body.apply).Valid

instance TenantCreate.decidableAccepted (body : TenantCreate) (newId : UUID) (d : Database) :
    Decidable (body.Accepted newId d) := by
  unfold TenantCreate.Accepted
  infer_instance

instance TenantUpdate.decidableAccepted (body : TenantUpdate) (id : UUID) (d : Database) :
    Decidable (body.Accepted id d) := by
  unfold TenantUpdate.Accepted
  infer_instance

namespace Endpoints

def listAccessibleTenants (env : Env) (now : Time) (h : Headers) : Db (List Tenant) := do
  let currentUser ← Deps.getCurrentUser env now h
  TenantService.getMultiByUser currentUser.id

def createTenant (tenantIn : TenantCreate) (newId : UUID) : Db Tenant := do
  let tenantIn ← lift tenantIn.validate
  match ← TenantService.getByName tenantIn.name with
  | some _ =>
    let name := tenantIn.name
    throw (.http 422 s!"Tenant with name {name} already exists")
  | none => TenantService.create tenantIn newId

def getTenantById (tenantId : UUID) : Db Tenant := do
  match ← TenantService.get tenantId with
  | none => throw (.http 404 "Tenant not found")
  | some tenant => pure tenant

def getTenantBySlug (slug : String) : Db Tenant := do
  match ← TenantService.getBySlug slug with
  | none => throw (.http 404 "Tenant not found")
  | some tenant => pure tenant

def updateTenant (tenantId : UUID) (tenantIn : TenantUpdate) : Db Tenant := do
  match ← TenantService.get tenantId with
  | none => throw (.http 404 "Tenant not found")
  | some tenant => TenantService.update tenant tenantIn

def deleteTenant (tenantId : UUID) : Db Unit := do
  match ← TenantService.get tenantId with
  | none => throw (.http 404 "Tenant not found")
  | some _ =>
    match ← TenantService.delete tenantId with
    | none => throw (.http 404 "Tenant not found or already deleted")
    | some _ => pure ()

section Outcomes

variable {d : Database}

theorem returns_createTenant {body : TenantCreate} {newId : UUID} (h : body.Accepted newId d) :
    Returns (createTenant body newId) d (body.row newId) ⟨_, h.2.2⟩ := by
  obtain ⟨hslug, hunused, hv⟩ := h
  have hname : d.tenants.find? (·.name = body.name) = none :=
    List.find?_eq_none.mpr fun x hx => by simpa using hunused x hx
  refine (returns_lift (TenantCreate.validate_eq_ok.mpr ⟨hslug, rfl⟩) d).bind
    ((returns_query _ d).bind ?_)
  rw [hname]
  refine CRUDBase.returns_update _ _ d newId (Database.change_eq_ok hv) ?_
  exact (Rows.find?_key_eq_some hv.keys.tenantsId).mpr ⟨List.mem_append_right _ (by simp), rfl⟩

theorem fails_createTenant {body : TenantCreate} {newId : UUID} (h : ¬body.Accepted newId d) :
    Fails (createTenant body newId) d := by
  by_cases hslug : IsSlug body.slug
  · refine (returns_lift (TenantCreate.validate_eq_ok.mpr ⟨hslug, rfl⟩) d).bind_fails ?_
    cases hname : d.tenants.find? (·.name = body.name) with
    | some x =>
      refine (returns_query _ d).bind_fails ?_
      rw [hname]
      exact fails_throw _ d
    | none =>
      have hv : ¬(d.addTenant (body.row newId)).Valid := fun hv =>
        h ⟨hslug, fun x hx => by simpa using List.find?_eq_none.mp hname x hx, hv⟩
      refine (returns_query _ d).bind_fails ?_
      rw [hname]
      exact (CRUDBase.raises_update _ _ d newId (Database.change_eq_error hv)).fails
  · exact (fails_lift (fun a ha => hslug (TenantCreate.validate_eq_ok.mp ha).1) d).bind _

theorem returns_updateTenant {body : TenantUpdate} {id : UUID} {x : Tenant}
    (h : body.Accepted id d) (hx : x ∈ d.tenants) (hid : x.id = id) :
    Returns (updateTenant id body) d (body.apply x) ⟨_, h.2.2.2⟩ := by
  have hf := (Rows.find?_key_eq_some d.valid.keys.tenantsId).mpr ⟨hx, hid⟩
  obtain ⟨-, hname, hactive, hv⟩ := h
  refine (CRUDBase.returns_get _ _ d id).bind ?_
  rw [hf]
  subst hid
  refine CRUDBase.returns_update _ _ d x.id (w := body.statement x.id) ?_ ?_
  · rw [TenantUpdate.statement, if_neg (not_or.mpr ⟨hname, hactive⟩)]
    exact Database.change_eq_ok hv
  · change (Rows.modify (·.id) x.id body.apply d.tenants).find? _ = _
    rw [Rows.find?_modify_self (f := body.apply) (fun _ => rfl), hf]
    rfl

theorem fails_updateTenant {body : TenantUpdate} {id : UUID} (h : ¬body.Accepted id d) :
    Fails (updateTenant id body) d := by
  cases hf : d.tenants.find? (·.id = id) with
  | none =>
    refine (CRUDBase.returns_get _ _ d id).bind_fails ?_
    rw [hf]
    exact fails_throw _ d
  | some x =>
    obtain ⟨hx, hid⟩ := (Rows.find?_key_eq_some d.valid.keys.tenantsId).mp hf
    subst hid
    obtain ⟨e, he⟩ : ∃ e, body.statement x.id d = .error e := by
      rw [TenantUpdate.statement]
      split_ifs with hn
      · exact ⟨_, rfl⟩
      · have hv := fun hv => h ⟨⟨x, hx, rfl⟩, (not_or.mp hn).1, (not_or.mp hn).2, hv⟩
        exact ⟨_, Database.change_eq_error hv⟩
    refine (CRUDBase.returns_get _ _ d x.id).bind_fails ?_
    rw [hf]
    exact (CRUDBase.raises_update _ _ d x.id he).fails

theorem returns_deleteTenant {id : UUID} (h : ∃ x ∈ d.tenants, x.id = id) :
    Returns (deleteTenant id) d () ⟨_, d.valid.dropTenant id⟩ := by
  obtain ⟨x, hx, hid⟩ := h
  have hf := (Rows.find?_key_eq_some d.valid.keys.tenantsId).mpr ⟨hx, hid⟩
  refine (CRUDBase.returns_get _ _ d id).bind ?_
  rw [hf]
  exact (CRUDBase.returns_delete_some _ _ d id hf
    (Database.change_eq_ok (d.valid.dropTenant id))).bind (returns_pure () _)

theorem fails_deleteTenant {id : UUID} (h : ¬∃ x ∈ d.tenants, x.id = id) :
    Fails (deleteTenant id) d := by
  have hf : d.tenants.find? (·.id = id) = none :=
    List.find?_eq_none.mpr fun x hx => by simpa using fun hid => h ⟨x, hx, hid⟩
  refine (CRUDBase.returns_get _ _ d id).bind_fails ?_
  rw [hf]
  exact fails_throw _ d

end Outcomes

end Endpoints
end VirtualStack
