import VirtualStack.Deps

/-!
# `api/v1/endpoints/tenant_user_management.py`
-/

namespace VirtualStack.Endpoints
open UnitOfWork

def listUsersInTenant (tenantId : UUID) (page limit : ℕ) (search : Option String) :
    Db (List (User × List String) × ℕ) := do
  let tenant ← Deps.getTenantFromPath tenantId
  UserService.getMultiByTenantPaginated tenant.id ((page - 1) * limit) limit search

def getTenantUser (tenantId userId : UUID) : Db User := do
  let tenant ← Deps.getTenantFromPath tenantId
  match ← UserService.getByIdAndTenant userId tenant.id with
  | none => throw (.http 404 "User not found within this tenant")
  | some user => pure user

/-- `deps` has no `ValidationError`: an exception other than `NotFoundError`
becomes the `AttributeError` of the second handler. -/
def assignRoleToUser (env : Env) (h : Headers) (tenantId userId roleId : UUID) : Db Unit := do
  let tenant ← Deps.getTenantFromPath tenantId
  lift (env.userSchemaClass h.query)
  tryCatch
    (do
      let _ ← UserService.assignRoleToUserInTenant env userId roleId tenant.id false
      pure ())
    fun e => match e with
      | .notFound message => throw (.http 404 message)
      | _ => throw .attributeError

def removeRoleFromUser (env : Env) (h : Headers) (tenantId userId roleId : UUID) : Db Unit := do
  let tenant ← Deps.getTenantFromPath tenantId
  lift (env.userSchemaClass h.query)
  let deletedCount ← UserService.removeRoleFromUserInTenant userId roleId tenant.id false
  if deletedCount = 0 then
    let tenantId := tenant.id
    throw (.http 404
      s!"Role {roleId} assignment not found for user {userId} in tenant {tenantId}")
  else pure ()

/-! ## Outcomes -/

section Outcomes

variable {env : Env} {h : Headers} {d : Database} {tenantId userId roleId : UUID}

/-- A role can be assigned: the request is let through, the tenant exists, the
user is a member and the role is found. -/
def CanAssign (env : Env) (h : Headers) (d : Database) (tenantId userId roleId : UUID) : Prop :=
  env.userSchemaClass h.query = .ok () ∧ (∃ t ∈ d.tenants, t.id = tenantId) ∧
    IsMember d.toTables userId tenantId ∧
    ∃ r, env.getRoleByIdAndTenant d roleId tenantId = .ok (some r)

/-- The new assignment is handed to the session and never sent. -/
theorem serve_assignRole_new (ha : CanAssign env h d tenantId userId roleId)
    (hn : ⟨userId, roleId, tenantId⟩ ∉ d.userTenantRoles) :
    serve (assignRoleToUser env h tenantId userId roleId) d =
      (.ok (), ⟨d, d, [(·.change (Tables.addAssignment ⟨userId, roleId, tenantId⟩))], false⟩) := by
  obtain ⟨hg, ⟨t, ht, rfl⟩, hm, r, hr⟩ := ha
  obtain ⟨u, hu⟩ := UserService.byIdAndTenant_isSome hm
  have hany : (d.userTenantRoles.any (· = ⟨userId, roleId, t.id⟩)) = false := by
    rw [List.any_eq_false]
    rintro x hx hxe
    exact hn (of_decide_eq_true hxe ▸ hx)
  rw [serve, assignRoleToUser, run_bind_ok (Deps.returns_getTenantFromPath ht d),
    run_bind_ok (returns_lift hg d d)]
  simp only [UserService.assignRoleToUserInTenant, UserService.getByIdAndTenant, run_tryCatch,
    run_bind, query_clean, hu, hr, run_lift, hany, add_clean, run_pure, Bool.false_eq_true,
    if_false]

theorem returns_assignRole_old (ha : CanAssign env h d tenantId userId roleId)
    (hn : ⟨userId, roleId, tenantId⟩ ∈ d.userTenantRoles) :
    Returns (assignRoleToUser env h tenantId userId roleId) d () d := by
  obtain ⟨hg, ⟨t, ht, rfl⟩, hm, r, hr⟩ := ha
  obtain ⟨u, hu⟩ := UserService.byIdAndTenant_isSome hm
  have hany : (d.userTenantRoles.any (· = ⟨userId, roleId, t.id⟩)) = true := by
    simpa using hn
  refine (Deps.returns_getTenantFromPath ht).bind ((returns_lift hg d).bind ?_)
  intro c
  simp only [UserService.assignRoleToUserInTenant, UserService.getByIdAndTenant, run_tryCatch,
    run_bind, query_clean, hu, hr, run_lift, hany, run_pure, if_true]

theorem fails_assignRole (ha : ¬CanAssign env h d tenantId userId roleId) :
    Fails (assignRoleToUser env h tenantId userId roleId) d := by
  refine Deps.fails_guarded fun t ht hid hg => Fails.tryCatch (Fails.bind ?_ _) ?handler
  case handler =>
    intro e
    cases e <;> exact ⟨_, rfl⟩
  subst hid
  refine (returns_query _ d).bind_fails ?_
  cases hm : UserService.byIdAndTenant d userId t.id with
  | none => exact fails_throw _ d
  | some u =>
    have hmem := (UserService.byIdAndTenant_eq_some.mp hm).2.2
    refine (returns_query _ d).bind_fails ?_
    cases hr : env.getRoleByIdAndTenant d roleId t.id with
    | error e => exact (fails_lift (by simp) d).bind _
    | ok r =>
      cases r with
      | none => exact (returns_lift rfl d).bind_fails (fails_throw _ d)
      | some r => exact absurd ⟨hg, ⟨t, ht, rfl⟩, hmem, r, hr⟩ ha

theorem returns_removeRole (hg : env.userSchemaClass h.query = .ok ())
    (ha : ⟨userId, roleId, tenantId⟩ ∈ d.userTenantRoles) :
    Returns (removeRoleFromUser env h tenantId userId roleId) d ()
      ⟨_, d.valid.dropAssignments fun x =>
        x.userId = userId ∧ x.tenantId = tenantId ∧ x.roleId = roleId⟩ := by
  obtain ⟨t, ht, hid⟩ := List.mem_map.mp (d.valid.references.assignmentTenant _ ha)
  obtain rfl : t.id = tenantId := hid
  have hlen : (d.userTenantRoles.filter fun x =>
      x.userId = userId ∧ x.tenantId = t.id ∧ x.roleId = roleId).length ≠ 0 := by
    intro h0
    rw [List.length_eq_zero_iff, List.filter_eq_nil_iff] at h0
    exact h0 _ ha (by simp)
  refine (Deps.returns_getTenantFromPath ht).bind ((returns_lift hg d).bind
    ((UserService.returns_deleteAssignments _).bind ?_))
  rw [if_neg hlen]
  exact returns_pure () _

theorem fails_removeRole (ha : env.userSchemaClass h.query = .ok () →
      ⟨userId, roleId, tenantId⟩ ∉ d.userTenantRoles) :
    Fails (removeRoleFromUser env h tenantId userId roleId) d := by
  refine Deps.fails_guarded fun t ht hid hg => ?_
  subst hid
  have hlen : (d.userTenantRoles.filter fun x =>
      x.userId = userId ∧ x.tenantId = t.id ∧ x.roleId = roleId).length = 0 := by
    rw [List.length_eq_zero_iff, List.filter_eq_nil_iff]
    rintro ⟨xu, xr, xt⟩ hx hp
    obtain ⟨rfl, rfl, rfl⟩ : xu = userId ∧ xt = t.id ∧ xr = roleId := by simpa using hp
    exact ha hg hx
  refine (UserService.returns_deleteAssignments _).bind_fails ?_
  rw [if_pos hlen]
  exact fails_throw _ _

end Outcomes

end VirtualStack.Endpoints
