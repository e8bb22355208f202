import VirtualStack.Deps

/-!
# `api/v1/endpoints/roles.py`

Four of the endpoints declare `_: User = Depends(require_permission(...))`, which
is `Depends(None)` on the mapped class; the two on assigned users declare no
check. `GET /permissions` is declared after `GET /{role_id}`, which takes its
path.
-/

namespace VirtualStack.Endpoints
open UnitOfWork

abbrev RoleDetail := Role × List PermissionModel

/-- The handlers of the two endpoints: an `HTTPException` passes, anything else
becomes a `500`. -/
def reraise (detail : String) (e : Exc) : Db RoleDetail :=
  match e with
  | .http status detail => throw (.http status detail)
  | _ => throw (.http 500 detail)

/-- Both endpoints answer with the stored role and its permissions. -/
def roleDetail (env : Env) (missing : String) (roleId : UUID) : Db RoleDetail := do
  match ← RoleService.getRoleWithPermissions env roleId with
  | none => throw (.http 500 missing)
  | some roleDetail => pure roleDetail

def listRolesInActiveTenant (env : Env) (now : Time) (h : Headers) (skip limit : ℕ) :
    Db (List (Role × ℕ)) := do
  let (_, activeTenant) ← Deps.requirePermissionInActiveTenant env now h .roleRead
  RoleService.getMultiByTenantWithUserCount activeTenant.id skip limit

def createCustomRoleInTenant (env : Env) (h : Headers) (tenantId : UUID) (roleIn : RoleCreate)
    (newId : UUID) : Db RoleDetail := do
  let tenant ← Deps.getTenantFromPath tenantId
  lift (env.ormUserClass h.query)
  tryCatch
    (do
      let newRole ← RoleService.createCustomRole env roleIn tenant.id newId
      roleDetail env "Failed to retrieve created role details." newRole.id)
    (reraise "Could not create role.")

def getRoleDetails (env : Env) (h : Headers) (tenantId roleId : UUID) : Db RoleDetail := do
  let tenant ← Deps.getTenantFromPath tenantId
  lift (env.ormUserClass h.query)
  match ← RoleService.getRoleWithPermissions env roleId with
  | none => throw (.http 404 "Role not found or not accessible in this tenant")
  | some role =>
    if ¬role.1.isSystemRole ∧ role.1.tenantId ≠ some tenant.id then
      throw (.http 404 "Role not found or not accessible in this tenant")
    else pure role

def updateCustomRoleInTenant (env : Env) (h : Headers) (tenantId roleId : UUID)
    (roleIn : RoleUpdate) : Db RoleDetail := do
  let tenant ← Deps.getTenantFromPath tenantId
  lift (env.ormUserClass h.query)
  match ← RoleService.get roleId with
  | none => throw (.http 404 "Custom role not found in this tenant")
  | some role =>
    if role.tenantId ≠ some tenant.id then
      throw (.http 404 "Custom role not found in this tenant")
    else if role.isSystemRole then throw (.http 403 "Cannot modify system roles.")
    else
      tryCatch
        (do
          let updatedRole ← RoleService.updateCustomRole env role roleIn
          roleDetail env "Failed to retrieve updated role details." updatedRole.id)
        (reraise "Could not update role.")

def deleteCustomRoleFromTenant (env : Env) (h : Headers) (tenantId roleId : UUID) : Db Unit := do
  let tenant ← Deps.getTenantFromPath tenantId
  lift (env.ormUserClass h.query)
  match ← RoleService.deleteCustomRole roleId tenant.id with
  | none => throw (.http 404
      "Custom role not found, is a system role, or has users assigned in this tenant")
  | some _ => pure ()

def listAvailablePermissions (env : Env) (now : Time) (h : Headers) :
    Db (List PermissionModel) := do
  let _ ← Deps.requirePermissionInActiveTenant env now h .roleRead
  CRUDBase.getMulti (·.permissions) 0 1000

def getAssignedUsersForRole (tenantId roleId : UUID) : Db (List UUID) := do
  let tenant ← Deps.getTenantFromPath tenantId
  match ← RoleService.get roleId with
  | none => throw (.http 404 "Role not found or not accessible in this tenant")
  | some role =>
    if ¬role.isSystemRole ∧ role.tenantId ≠ some tenant.id then
      throw (.http 404 "Role not found or not accessible in this tenant")
    else do
      let users ← RoleService.getUsersForRole roleId tenant.id
      pure (users.map (·.id))

def setAssignedUsersForRole (tenantId roleId : UUID) (userIds : List UUID) : Db (List UUID) := do
  let tenant ← Deps.getTenantFromPath tenantId
  RoleService.setUsersForRole roleId tenant.id userIds

/-! ## Outcomes -/

section Outcomes

variable {env : Env} {h : Headers} {d d' : Database} {tenantId roleId newId : UUID}

theorem reraise_throws (detail : String) (e : Exc) : ∃ e', reraise detail e = throw e' := by
  cases e <;> exact ⟨_, rfl⟩

theorem keeps_roleDetail {I : Database → Prop} (missing : String) (roleId : UUID) :
    Keeps I (roleDetail env missing roleId) := by
  refine (RoleService.keeps_getRoleWithPermissions roleId).bind fun r => ?_
  cases r with
  | none => exact keeps_throw _
  | some r => exact keeps_pure _

/-- The path names a tenant and FastAPI could build the annotated class. -/
def Admits (env : Env) (h : Headers) (d : Database) (tenantId : UUID) : Prop :=
  (∃ t ∈ d.tenants, t.id = tenantId) ∧ env.ormUserClass h.query = .ok ()

/-- What comes before the body of a guarded endpoint. -/
theorem fails_unless_admits {α : Type} {f : Tenant → Db α} (ha : ¬Admits env h d tenantId) :
    Fails (do
      let tenant ← Deps.getTenantFromPath tenantId
      lift (env.ormUserClass h.query)
      f tenant) d :=
  Deps.fails_guarded fun t ht hid hg => absurd ⟨⟨t, ht, hid⟩, hg⟩ ha

theorem serve_of_admits {α : Type} {f : Tenant → Db α} {t : Tenant} (ht : t ∈ d.tenants)
    (hg : env.ormUserClass h.query = .ok ()) :
    serve (do
      let tenant ← Deps.getTenantFromPath t.id
      lift (env.ormUserClass h.query)
      f tenant) d = serve (f t) d := by
  rw [serve, run_bind_ok (Deps.returns_getTenantFromPath ht d), run_bind_ok (returns_lift hg d d),
    serve]

/-- The name is free in the tenant and the row is accepted. -/
def CanCreateRole (d : Database) (tenantId : UUID) (body : RoleCreate) (newId : UUID) : Prop :=
  (∀ r ∈ d.roles, r.name = body.name → r.tenantId ≠ some tenantId) ∧
    (d.addRole (body.row newId tenantId)).Valid

theorem fails_createCustomRole {body : RoleCreate} (hc : ¬CanCreateRole d tenantId body newId) :
    Fails (RoleService.createCustomRole env body tenantId newId) d := by
  refine (returns_query _ d).bind_fails ?_
  cases hf : d.roles.find? fun r => r.name = body.name ∧ r.tenantId = some tenantId with
  | some r => exact fails_throw _ d
  | none =>
    have hv : ¬(d.addRole (body.row newId tenantId)).Valid := by
      intro hv
      refine hc ⟨fun r hr hn ht => ?_, hv⟩
      have := List.find?_eq_none.mp hf r hr
      simp [hn, ht] at this
    refine ⟨(d.addRole (body.row newId tenantId)).violation, fun c => ⟨.aborted c, ?_, rfl⟩⟩
    dsimp only
    rw [run_bind_ok (add_clean c d _),
      run_bind_error (commit_one_error c d (Database.change_eq_error hv))]

/-- The stored role is committed before anything else can fail. -/
theorem committed_createCustomRole {body : RoleCreate} {t : Tenant} (ht : t ∈ d.tenants)
    (hg : env.ormUserClass h.query = .ok ()) (hc : CanCreateRole d t.id body newId) :
    ∃ r ∈ (serve (createCustomRoleInTenant env h t.id body newId) d).2.committed.roles,
      r.id = newId := by
  rw [createCustomRoleInTenant, serve_of_admits ht hg]
  let I : Database → Prop := fun d => ∃ r ∈ d.roles, r.id = newId
  have hf : (d.roles.find? fun r => r.name = body.name ∧ r.tenantId = some t.id) = none := by
    rw [List.find?_eq_none]
    intro r hr hp
    obtain ⟨hn, ht⟩ := of_decide_eq_true hp
    exact hc.1 r hr hn ht
  have hadd : d.change (Tables.addRole (body.row newId t.id)) = .ok ⟨_, hc.2⟩ :=
    Database.change_eq_ok _
  have hstart : (Session.start ⟨_, hc.2⟩ : Session Database Exc).Inv I :=
    have hI : I ⟨_, hc.2⟩ := ⟨body.row newId t.id, List.mem_append_right _ (by simp), rfl⟩
    Session.inv_clean hI hI
  -- from the first commit on, the new role is in every store of the session
  have hrest : Keeps I (tryCatch
      (RoleService.completeCustomRole env body (body.row newId t.id) >>= fun newRole =>
        roleDetail env "Failed to retrieve created role details." newRole.id)
      (reraise "Could not create role.")) := by
    refine Keeps.tryCatch (Keeps.bind ?_ fun newRole => ?_) fun e => ?_
    · refine RoleService.keeps_completeCustomRole ?_ _ _
      intro v v' hroles _ hv
      simpa only [I, hroles] using hv
    · exact keeps_roleDetail _ _
    · obtain ⟨e', he'⟩ := reraise_throws "Could not create role." e
      rw [he']
      exact keeps_throw _
  have hinv := hrest _ hstart
  rw [serve, run_tryCatch, run_bind, RoleService.createCustomRole,
    run_bind_ok (RoleService.returns_getByNameInTenant body.name t.id d d), hf]
  dsimp only
  rw [run_bind_ok (add_clean d d _), run_bind_ok (commit_one_ok d d hadd)]
  rw [run_tryCatch, run_bind] at hinv
  split <;> rename_i heq <;> rw [heq] at hinv <;> exact hinv.committed

/-- A custom role of the tenant for which all statements of the update are
accepted, and the store after them. -/
def CanUpdateRole (d : Database) (tenantId roleId : UUID) (body : RoleUpdate) (r : Role)
    (d' : Database) : Prop :=
  r ∈ d.roles ∧ r.id = roleId ∧ r.tenantId = some tenantId ∧ r.isSystemRole = false ∧
    RoleService.updateChange r body d = .ok d'

/-- The update is committed; the answer then needs the relationship. -/
theorem serve_updateCustomRole {body : RoleUpdate} {t : Tenant} {r : Role} (ht : t ∈ d.tenants)
    (hg : env.ormUserClass h.query = .ok ()) (hc : CanUpdateRole d t.id roleId body r d') :
    ∃ result, serve (updateCustomRoleInTenant env h t.id roleId body) d = (result, .start d') ∧
      if env.rolePermissionsMapped then ∃ a, result = .ok a else ∃ e, result = .error e := by
  obtain ⟨hmem, hid, hten, hsys, hd'⟩ := hc
  have hf := (Rows.find?_key_eq_some d.valid.keys.rolesId).mpr ⟨hmem, hid⟩
  have hrun : (RoleService.updateCustomRole env r body).run (.clean d d) = _ :=
    RoleService.run_updateCustomRole hsys hd' d
  rw [updateCustomRoleInTenant, serve_of_admits ht hg, serve,
    run_bind_ok (RoleService.returns_get roleId d d), hf]
  dsimp only
  rw [if_neg (by simp [hten]), if_neg (by simp [hsys]), run_tryCatch, run_bind, hrun]
  cases hmap : env.rolePermissionsMapped with
  | false => exact ⟨_, rfl, _, rfl⟩
  | true =>
    obtain ⟨stored, hstored, hsid⟩ : ∃ x ∈ d'.roles, x.id = r.id := by
      have := RoleService.map_id_of_updateChange hd' ▸ List.mem_map.mpr ⟨r, hmem, rfl⟩
      simpa using this
    have hfind := (Rows.find?_key_eq_some d'.valid.keys.rolesId).mpr ⟨hstored, hsid⟩
    have hdetail : ∀ c, (roleDetail env "Failed to retrieve updated role details."
        (body.apply r).id).run (.clean c d') = (.ok (stored, d'.permissions.filter fun p =>
          ⟨stored.id, p.id⟩ ∈ d'.rolePermissions), .clean c d') := by
      intro c
      have hid' : (body.apply r).id = r.id := rfl
      rw [roleDetail, RoleService.getRoleWithPermissions, run_bind, run_bind, run_lift, hmap, hid']
      simp only [if_true, query_clean, hfind, Option.map_some]
      rfl
    simp only [if_true, hdetail]
    exact ⟨_, rfl, _, rfl⟩

theorem fails_updateCustomRoleInTenant {body : RoleUpdate} {t : Tenant} (ht : t ∈ d.tenants)
    (hg : env.ormUserClass h.query = .ok ())
    (hc : ∀ r d', ¬CanUpdateRole d t.id roleId body r d') :
    Fails (updateCustomRoleInTenant env h t.id roleId body) d := by
  refine (Deps.returns_getTenantFromPath ht).bind_fails ((returns_lift hg d).bind_fails
    ((RoleService.returns_get roleId d).bind_fails ?_))
  cases hf : d.roles.find? (·.id = roleId) with
  | none => exact fails_throw _ d
  | some r =>
    obtain ⟨hmem, hid⟩ := (Rows.find?_key_eq_some d.valid.keys.rolesId).mp hf
    dsimp only
    split_ifs with hten hsys
    · exact fails_throw _ d
    · exact fails_throw _ d
    · cases hd' : RoleService.updateChange r body d with
      | ok d' => exact absurd ⟨hmem, hid, by simpa using hten, by simpa using hsys, hd'⟩ (hc r d')
      | error e =>
        exact ((RoleService.fails_updateCustomRole hd').bind _).tryCatch (reraise_throws _)

theorem serve_deleteCustomRole {t : Tenant} {r : Role} (ht : t ∈ d.tenants)
    (hg : env.ormUserClass h.query = .ok ()) (hc : RoleService.Deletable d roleId t.id r) :
    ∃ s, serve (deleteCustomRoleFromTenant env h t.id roleId) d = (.ok (), s) := by
  rw [deleteCustomRoleFromTenant, serve_of_admits ht hg, serve,
    run_bind_ok (RoleService.run_deleteCustomRole hc d)]
  exact ⟨_, rfl⟩

theorem fails_deleteCustomRole {t : Tenant} (ht : t ∈ d.tenants)
    (hg : env.ormUserClass h.query = .ok ()) (hc : ∀ r, ¬RoleService.Deletable d roleId t.id r) :
    Fails (deleteCustomRoleFromTenant env h t.id roleId) d := by
  refine (Deps.returns_getTenantFromPath ht).bind_fails ((returns_lift hg d).bind_fails ?_)
  rcases RoleService.deleteCustomRole_refused hc with hf | hr
  · exact hf.bind _
  · exact hr.bind_fails (fails_throw _ d)

theorem serve_setAssignedUsers {t : Tenant} {r : Role} {userIds : List UUID} (ht : t ∈ d.tenants)
    (hmem : r ∈ d.roles) (hacc : RoleService.Accessible r t.id)
    (husers : ∀ u ∈ userIds, u ∈ d.users.map (·.id)) :
    ∃ s, serve (setAssignedUsersForRole t.id r.id userIds) d = (.ok userIds, s) := by
  obtain ⟨d', hd', -⟩ := RoleService.run_setUsersForRole hmem hacc
    (List.mem_map.mpr ⟨t, ht, rfl⟩) husers d
  rw [setAssignedUsersForRole, serve, run_bind_ok (Deps.returns_getTenantFromPath ht d), hd']
  exact ⟨_, rfl⟩

theorem fails_setAssignedUsers {userIds : List UUID}
    (h : (∃ t ∈ d.tenants, t.id = tenantId) → ∀ r ∈ d.roles, r.id = roleId →
      RoleService.Accessible r tenantId → ∃ u ∈ userIds, u ∉ d.users.map (·.id)) :
    Fails (setAssignedUsersForRole tenantId roleId userIds) d := by
  by_cases ht : ∃ t ∈ d.tenants, t.id = tenantId
  · have hr := h ht
    obtain ⟨t, ht, rfl⟩ := ht
    exact (Deps.returns_getTenantFromPath ht).bind_fails (RoleService.fails_setUsersForRole hr)
  · exact (Deps.fails_getTenantFromPath ht).bind _

end Outcomes

end VirtualStack.Endpoints
