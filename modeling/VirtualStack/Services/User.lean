import VirtualStack.Services.Permission
import VirtualStack.Services.Role

/-!
# `services/iam/user.py`
-/

namespace VirtualStack
open UnitOfWork

structure UserCreate where
  email : String
  password : String
  firstName : String
  lastName : String
  isSuperuser : Bool
  isActive : Bool
  deriving DecidableEq, Repr

structure UserUpdate where
  email : Field String
  firstName : Field String
  lastName : Field String
  password : Field String
  isActive : Field Bool
  deriving DecidableEq, Repr

/-- The characters that `str.strip()` removes. -/
def isPythonSpace (c : Char) : Bool :=
  (9 ≤ c.toNat && c.toNat ≤ 13) || (28 ≤ c.toNat && c.toNat ≤ 32) ||
  (8192 ≤ c.toNat && c.toNat ≤ 8202) ||
  [133, 160, 5760, 8232, 8233, 8239, 8287, 12288].contains c.toNat

def pythonStrip (s : String) : String :=
  String.ofList ((s.toList.dropWhile isPythonSpace).reverse.dropWhile isPythonSpace).reverse

def UserCreate.row (env : Env) (body : UserCreate) (id : UUID) : User :=
  { id := id
    email := body.email
    hashedPassword := env.createPasswordHash body.password
    fullName := some (pythonStrip (body.firstName ++ " " ++ body.lastName))
    isActive := body.isActive
    isSuperuser := body.isSuperuser }

/-- The columns that `CRUDBase.update` finds among the supplied keys.
`first_name`, `last_name` and an empty or null `password` name no column. -/
def UserUpdate.apply (env : Env) (body : UserUpdate) (x : User) : User :=
  { x with
    email := (body.email.getD x.email).getD x.email
    isActive := (body.isActive.getD x.isActive).getD x.isActive
    hashedPassword := match body.password with
      | some (some p) => if p = "" then x.hashedPassword else env.createPasswordHash p
      | _ => x.hashedPassword }

def UserUpdate.statement (env : Env) (body : UserUpdate) (id : UUID) (d : Database) :
    Except Exc Database :=
  if body.email = some none ∨ body.isActive = some none then .error .integrityError
  else d.change (Tables.modifyUser id (body.apply env))

/-- `UserStatusUpdate(...).model_dump()`, as the keys it supplies. -/
def UserUpdate.status (isActive : Bool) : UserUpdate :=
  ⟨none, none, none, none, some (some isActive)⟩

/-- The `UPDATE` of the user would be accepted. -/
def UserUpdate.Accepted (env : Env) (body : UserUpdate) (id : UUID) (d : Database) : Prop :=
  body.email ≠ some none ∧ body.isActive ≠ some none ∧ (d.modifyUser id (body.apply env)).Valid

instance UserUpdate.decidableAccepted (env : Env) (body : UserUpdate) (id : UUID)
    (d : Database) : Decidable (body.Accepted env id d) := by
  unfold UserUpdate.Accepted
  infer_instance

def defaultRoleName : String := "Default User Role"

/-- The user holds the permission in the tenant, through the roles that are
assigned to them there. -/
def HoldsPermission (t : Tables) (userId tenantId : UUID) (code : String) : Prop :=
  ∃ x ∈ t.userTenantRoles, x.userId = userId ∧ x.tenantId = tenantId ∧
    ∃ rp ∈ t.rolePermissions, rp.roleId = x.roleId ∧
      ∃ p ∈ t.permissions, p.id = rp.permissionId ∧ p.code = code

instance (t : Tables) (userId tenantId : UUID) (code : String) :
    Decidable (HoldsPermission t userId tenantId code) := by
  unfold HoldsPermission
  infer_instance

/-- The user has some role in the tenant. -/
def IsMember (t : Tables) (userId tenantId : UUID) : Prop :=
  ∃ x ∈ t.userTenantRoles, x.userId = userId ∧ x.tenantId = tenantId

instance (t : Tables) (userId tenantId : UUID) : Decidable (IsMember t userId tenantId) := by
  unfold IsMember
  infer_instance

theorem HoldsPermission.isMember {t : Tables} {userId tenantId : UUID} {code : String}
    (h : HoldsPermission t userId tenantId code) : IsMember t userId tenantId := by
  obtain ⟨x, hx, hu, ht, -⟩ := h
  exact ⟨x, hx, hu, ht⟩

namespace UserService

def get (recordId : UUID) : Db (Option User) := CRUDBase.get (·.users) (·.id) recordId

def getByEmail (email : String) : Db (Option User) :=
  query fun d => d.users.find? (·.email = email)

def create (env : Env) (objIn : UserCreate) (tenantId newId : UUID) (autocommit : Bool) :
    Db User := do
  let dbUser ← tryCatch
    (do
      add (·.change (Tables.addUser (objIn.row env newId)))
      flush
      CRUDBase.refresh (·.users) (·.id) newId)
    fun e => do
      rollback
      if e = .integrityError ∧ env.integrityTextMentions "users_email_key" then
        throw (.validation s!"User with email {objIn.email} already exists.")
      else throw e
  match ← RoleService.getByNameInTenant defaultRoleName tenantId with
  | none => throw (.valueError s!"Default role '{defaultRoleName}' not found in tenant {tenantId}.")
  | some defaultRole => do
    let defaultRoleId := defaultRole.id
    tryCatch
      (do
        add (·.change (Tables.addAssignment ⟨dbUser.id, defaultRoleId, tenantId⟩))
        flush)
      fun e => do
        rollback
        if e = .integrityError then
          throw (.validation (s!"Could not associate user with tenant {tenantId} and role " ++
            s!"{defaultRoleId}. Invalid tenant/role or duplicate entry?"))
        else throw e
    if autocommit then commit else pure ()
    pure dbUser

/-- `create` as a call with keywords: leaving `tenant_id` out is a `TypeError`
before the body runs. -/
def createCall (env : Env) (objIn : UserCreate) (tenantId : Option UUID) (newId : UUID)
    (autocommit : Bool) : Db User :=
  match tenantId with
  | none => throw .typeError
  | some t => create env objIn t newId autocommit

def update (env : Env) (dbObj : User) (objIn : UserUpdate) : Db User :=
  CRUDBase.update (·.users) (·.id) (objIn.statement env dbObj.id) dbObj.id

/-- The join of `users` with the assignments of a tenant. -/
def byIdAndTenant (d : Database) (recordId tenantId : UUID) : Option User :=
  d.users.find? fun u => u.id = recordId ∧
    d.userTenantRoles.any fun x => x.userId = u.id ∧ x.tenantId = tenantId

def getByIdAndTenant (recordId tenantId : UUID) : Db (Option User) :=
  query fun d => byIdAndTenant d recordId tenantId

/-- The distinct users with a role in a tenant, by email. -/
def usersOfTenant (d : Database) (tenantId : UUID) : List User :=
  (d.users.filter fun u => IsMember d.toTables u.id tenantId).mergeSort fun x y => x.email ≤ y.email

/-- The names of the roles that a user has in a tenant. -/
def roleNames (d : Database) (userId tenantId : UUID) : List String :=
  (d.userTenantRoles.filter fun x => x.userId = userId ∧ x.tenantId = tenantId).filterMap
    fun x => (d.roles.find? (·.id = x.roleId)).map (·.name)

/-- A page of the users of a tenant, each with the names of their roles there,
and the number of all of them. The filter of a search names the columns
`first_name` and `last_name`, which `User` does not have. -/
def getMultiByTenantPaginated (tenantId : UUID) (skip limit : ℕ) (search : Option String) :
    Db (List (User × List String) × ℕ) := do
  if search.getD "" ≠ "" then throw .attributeError
  else do
    let totalCount ← query fun d => (usersOfTenant d tenantId).length
    let users ← query fun d => ((usersOfTenant d tenantId).drop skip).take limit
    let names ← query fun d => users.map fun u => roleNames d u.id tenantId
    pure (users.zip names, totalCount)

/-- A `DELETE` on the assignments, and its row count. -/
def deleteAssignments (p : UserTenantRole → Bool) (autocommit : Bool) : Db ℕ := do
  let rowcount ← query fun d => (d.userTenantRoles.filter p).length
  execute (·.change (Tables.dropAssignments p))
  if autocommit then commit else pure ()
  pure rowcount

def delete (recordId tenantId : UUID) (autocommit : Bool) : Db ℕ :=
  deleteAssignments (fun x => x.userId = recordId ∧ x.tenantId = tenantId) autocommit

def assignRoleToUserInTenant (env : Env) (userId roleId tenantId : UUID) (autocommit : Bool) :
    Db Bool := do
  match ← getByIdAndTenant userId tenantId with
  | none => throw (.notFound s!"User {userId} not found in tenant {tenantId}")
  | some _ =>
    let found ← query fun d => env.getRoleByIdAndTenant d roleId tenantId
    match ← lift found with
    | none => throw (.notFound s!"Role {roleId} not found or not accessible in tenant {tenantId}")
    | some _ => do
      if ← query fun d => d.userTenantRoles.any (· = ⟨userId, roleId, tenantId⟩) then pure false
      else do
        add (·.change (Tables.addAssignment ⟨userId, roleId, tenantId⟩))
        tryCatch (if autocommit then commit else pure ())
          fun e => do
            rollback
            if e = .integrityError then
              throw (.validation "Could not assign role due to database constraint.")
            else throw e
        pure true

def removeRoleFromUserInTenant (userId roleId tenantId : UUID) (autocommit : Bool) : Db ℕ :=
  deleteAssignments (fun x => x.userId = userId ∧ x.tenantId = tenantId ∧ x.roleId = roleId)
    autocommit

/-- The rows of `permissions`, `role_permissions`, `roles` and `user_tenant_roles`
that belong together. -/
def permissionRows (t : Tables) :
    List (((PermissionModel × RolePermission) × Role) × UserTenantRole) :=
  Joins.join (fun p x => p.2.id = x.roleId)
    (Joins.join (fun p r => p.2.roleId = r.id)
      (Joins.join (fun q rp => q.id = rp.permissionId) t.permissions t.rolePermissions) t.roles)
    t.userTenantRoles

/-- The query selects the column `name`. The class `RolePermission` that it joins
with is taken to be the table `role_permissions`; its module does not exist. -/
def getUserPermissionsInTenant (userId tenantId : UUID) : Db (List String) :=
  query fun d => Joins.distinct <| ((permissionRows d.toTables).filter fun p =>
    p.2.userId = userId ∧ p.2.tenantId = tenantId).map (·.1.1.1.name)

/-! ## Outcomes -/

section Outcomes

variable {d : Database}

theorem byIdAndTenant_eq_some {userId tenantId : UUID} {u : User} :
    byIdAndTenant d userId tenantId = some u ↔
      u ∈ d.users ∧ u.id = userId ∧ IsMember d.toTables userId tenantId := by
  constructor
  · intro h
    have hp := List.find?_some h
    simp only [List.any_eq_true, decide_eq_true_eq] at hp
    obtain ⟨hid, x, hx, hxu, hxt⟩ := hp
    exact ⟨List.mem_of_find?_eq_some h, hid, x, hx, hxu.trans hid, hxt⟩
  · rintro ⟨hu, hid, x, hx, hxu, hxt⟩
    cases hf : byIdAndTenant d userId tenantId with
    | none =>
      refine absurd ?_ (List.find?_eq_none.mp hf u hu)
      simp only [List.any_eq_true, decide_eq_true_eq]
      exact ⟨hid, x, hx, hxu.trans hid.symm, hxt⟩
    | some w =>
      have hw := List.find?_some hf
      simp only [decide_eq_true_eq] at hw
      rw [Rows.eq_of_key_eq d.valid.keys.usersId (List.mem_of_find?_eq_some hf) hu
        (hw.1.trans hid.symm)]

/-- An assignment always names a stored user. -/
theorem byIdAndTenant_isSome {userId tenantId : UUID} (h : IsMember d.toTables userId tenantId) :
    ∃ u, byIdAndTenant d userId tenantId = some u := by
  obtain ⟨x, hx, hxu, hxt⟩ := h
  obtain ⟨u, hu, hid⟩ := List.mem_map.mp (d.valid.references.assignmentUser x hx)
  exact ⟨u, byIdAndTenant_eq_some.mpr ⟨hu, hid.trans hxu, x, hx, hxu, hxt⟩⟩

theorem byIdAndTenant_eq_none {userId tenantId : UUID} :
    byIdAndTenant d userId tenantId = none ↔ ¬IsMember d.toTables userId tenantId := by
  constructor
  · intro hn hm
    obtain ⟨u, hu⟩ := byIdAndTenant_isSome hm
    rw [hn] at hu
    cases hu
  · intro hm
    cases hf : byIdAndTenant d userId tenantId with
    | none => rfl
    | some u => exact absurd (byIdAndTenant_eq_some.mp hf).2.2 hm

variable {env : Env}

theorem returns_update {u : User} {body : UserUpdate} (hu : u ∈ d.users)
    (h : body.Accepted env u.id d) :
    Returns (update env u body) d (body.apply env u) ⟨_, h.2.2⟩ := by
  refine CRUDBase.returns_update _ _ d u.id (w := body.statement env u.id) ?_ ?_
  · rw [UserUpdate.statement, if_neg (not_or.mpr ⟨h.1, h.2.1⟩)]
    exact Database.change_eq_ok h.2.2
  · change (Rows.modify (·.id) u.id (body.apply env) d.users).find? _ = _
    rw [Rows.find?_modify_self (f := body.apply env) (fun _ => rfl),
      (Rows.find?_key_eq_some d.valid.keys.usersId).mpr ⟨hu, rfl⟩]
    rfl

theorem fails_update {u : User} {body : UserUpdate} (h : ¬body.Accepted env u.id d) :
    Fails (update env u body) d := by
  obtain ⟨e, he⟩ : ∃ e, body.statement env u.id d = .error e := by
    rw [UserUpdate.statement]
    split_ifs with hn
    · exact ⟨_, rfl⟩
    · have hv := fun hv => h ⟨(not_or.mp hn).1, (not_or.mp hn).2, hv⟩
      exact ⟨_, Database.change_eq_error hv⟩
  exact (CRUDBase.raises_update _ _ d u.id he).fails

/-- Setting `is_active` touches no constrained column. -/
theorem accepted_status (id : UUID) (isActive : Bool) :
    (UserUpdate.status isActive).Accepted env id d := by
  refine ⟨by simp [UserUpdate.status], by simp [UserUpdate.status], ?_, ?_, ?_⟩
  · exact { d.valid.keys with
      usersId := Rows.nodup_map_modify _ _ (f := (UserUpdate.status isActive).apply env)
        (fun _ => rfl) d.valid.keys.usersId
      usersEmail := Rows.nodup_map_modify _ _ (f := (UserUpdate.status isActive).apply env)
        (fun _ => rfl) d.valid.keys.usersEmail }
  · have hid : (d.modifyUser id ((UserUpdate.status isActive).apply env)).users.map (·.id) =
        d.users.map (·.id) :=
      Rows.map_modify _ _ (f := (UserUpdate.status isActive).apply env) (fun _ => rfl) d.users
    exact { d.valid.references with
      assignmentUser := hid ▸ d.valid.references.assignmentUser
      invitationInviter := hid ▸ d.valid.references.invitationInviter
      invitationUser := hid ▸ d.valid.references.invitationUser
      apiKeyUser := hid ▸ d.valid.references.apiKeyUser }
  · exact { d.valid.widths with
      users := Rows.forall_modify d.valid.widths.users fun _ _ _ hx => hx }

/-- Without `autocommit` an assignment is at most handed to the session. -/
theorem run_assignRole_cases (env : Env) (userId roleId tenantId : UUID) (c d : Database) :
    (∃ r, (assignRoleToUserInTenant env userId roleId tenantId false).run (.clean c d) =
      (r, .clean c d)) ∨
    (assignRoleToUserInTenant env userId roleId tenantId false).run (.clean c d) =
      (.ok true,
        ⟨c, d, [(·.change (Tables.addAssignment ⟨userId, roleId, tenantId⟩))], false⟩) := by
  rw [assignRoleToUserInTenant, getByIdAndTenant, run_bind_ok (query_clean c d _)]
  cases byIdAndTenant d userId tenantId with
  | none => exact .inl ⟨_, rfl⟩
  | some u =>
    dsimp only
    rw [run_bind_ok (query_clean c d _)]
    cases env.getRoleByIdAndTenant d roleId tenantId with
    | error e => exact .inl ⟨_, rfl⟩
    | ok r =>
      cases r with
      | none => exact .inl ⟨_, rfl⟩
      | some r =>
        rw [run_bind_ok (run_lift _ _)]
        dsimp only
        rw [run_bind_ok (query_clean c d _)]
        cases d.userTenantRoles.any (· = ⟨userId, roleId, tenantId⟩) with
        | true => exact .inl ⟨_, rfl⟩
        | false => exact .inr rfl

theorem autoflush_assignRole (env : Env) (userId roleId tenantId : UUID) (autocommit : Bool) :
    Autoflush (assignRoleToUserInTenant env userId roleId tenantId autocommit) :=
  (autoflush_query _).bind _

theorem returns_deleteAssignments (p : UserTenantRole → Bool) :
    Returns (deleteAssignments p false) d (d.userTenantRoles.filter p).length
      ⟨_, d.valid.dropAssignments p⟩ := by
  refine (returns_query _ d).bind ?_
  refine (returns_execute (Database.change_eq_ok (d.valid.dropAssignments p))).bind ?_
  exact returns_pure _ _

end Outcomes

end UserService
end VirtualStack
