import VirtualStack.Exceptions
import VirtualStack.RbacWrites
import VirtualStack.RoleReplacement

/-!
# Refusals of the role operations

The operations declare an `HTTPException` with its status at each place where they
refuse. Its module imports neither `HTTPException` nor `status`.
-/

namespace VirtualStack
open UnitOfWork

/-- The exceptions that are no `HTTPException`. -/
def Exc.NotHttp (e : Exc) : Prop := ∀ status detail, e ≠ .http status detail

theorem Database.notHttp_change {f : Tables → Tables} {d : Database} {e : Exc}
    (h : d.change f = .error e) : e.NotHttp := by
  by_cases hv : (f d.toTables).Valid
  · rw [Database.change_eq_ok hv] at h
    cases h
  · rw [Database.change_eq_error hv, Tables.violation] at h
    rintro status detail rfl
    split_ifs at h <;> cases h

theorem RoleUpdate.notHttp_statement {objIn : RoleUpdate} {dbObj : Role} {d : Database} {e : Exc}
    (h : objIn.statement dbObj d = .error e) : e.NotHttp := by
  rw [RoleUpdate.statement] at h
  split_ifs at h
  · cases h
    rintro _ _ ⟨⟩
  · exact Database.notHttp_change h
  · cases h
    rintro _ _ ⟨⟩

/-- A call of one of the operations that change roles. -/
inductive RoleCall where
  | createCustomRole (objIn : RoleCreate) (tenantId newId : UUID)
  | updateCustomRole (dbObj : Role) (objIn : RoleUpdate)
  | setRolePermissions (roleId : UUID) (permissionIds : List UUID)
  | deleteCustomRole (roleId tenantId : UUID)
  | setUsersForRole (roleId tenantId : UUID) (userIds : List UUID)

namespace RoleCall

def program (env : Env) : RoleCall → Db Unit
  | createCustomRole objIn tenantId newId =>
    ignore (RoleService.createCustomRole env objIn tenantId newId)
  | updateCustomRole dbObj objIn => ignore (RoleService.updateCustomRole env dbObj objIn)
  | setRolePermissions roleId permissionIds =>
    RoleService.setRolePermissions roleId permissionIds
  | deleteCustomRole roleId tenantId => ignore (RoleService.deleteCustomRole roleId tenantId)
  | setUsersForRole roleId tenantId userIds =>
    ignore (RoleService.setUsersForRole roleId tenantId userIds)

/-! ## What the source declares -/

section Declared

variable (d : Database)

/-- The tenant has a role of the name. -/
def NameTaken (name : String) (tenantId : UUID) : Prop :=
  ∃ r ∈ d.roles, r.name = name ∧ r.tenantId = some tenantId

/-- The permissions are stored ones, none of them twice. -/
def PermissionsStorable (permissionIds : List UUID) : Prop :=
  permissionIds.Nodup ∧ ∀ p ∈ permissionIds, p ∈ d.permissions.map (·.id)

/-- They can be those of the role. -/
def RolePermissionsStorable (roleId : UUID) (permissionIds : List UUID) : Prop :=
  PermissionsStorable d permissionIds ∧ (permissionIds ≠ [] → roleId ∈ d.roles.map (·.id))

/-- The users and the tenant are stored. -/
def UsersStorable (tenantId : UUID) (userIds : List UUID) : Prop :=
  ∀ u ∈ userIds, u ∈ d.users.map (·.id) ∧ tenantId ∈ d.tenants.map (·.id)

/-- The calls that are to be refused, with the declared status. -/
inductive Refusal : RoleCall → ℕ → Prop
  | nameTaken {objIn tenantId newId} (h : NameTaken d objIn.name tenantId) :
    Refusal (createCustomRole objIn tenantId newId) 409
  | newPermissions {objIn tenantId newId} (hfree : ¬NameTaken d objIn.name tenantId)
    (h : ¬PermissionsStorable d (objIn.permissionIds.getD [])) :
    Refusal (createCustomRole objIn tenantId newId) 400
  | systemUpdated {dbObj objIn} (h : dbObj.isSystemRole = true) :
    Refusal (updateCustomRole dbObj objIn) 403
  | updatedPermissions {dbObj objIn ids} (hsys : dbObj.isSystemRole = false)
    (hids : objIn.permissionIds = some ids) (h : ¬RolePermissionsStorable d dbObj.id ids) :
    Refusal (updateCustomRole dbObj objIn) 400
  | permissions {roleId ids} (h : ¬RolePermissionsStorable d roleId ids) :
    Refusal (setRolePermissions roleId ids) 400
  | systemDeleted {role tenantId} (hmem : role ∈ d.roles) (h : role.isSystemRole = true) :
    Refusal (deleteCustomRole role.id tenantId) 403
  | foreignDeleted {role tenantId} (hmem : role ∈ d.roles) (h : role.tenantId ≠ some tenantId) :
    Refusal (deleteCustomRole role.id tenantId) 403
  | assignedDeleted {role tenantId} (hmem : role ∈ d.roles) (hsys : role.isSystemRole = false)
    (hten : role.tenantId = some tenantId)
    (h : ∃ x ∈ d.userTenantRoles, x.roleId = role.id ∧ x.tenantId = tenantId) :
    Refusal (deleteCustomRole role.id tenantId) 400
  | inaccessible {roleId tenantId userIds}
    (h : ∀ role ∈ d.roles, role.id = roleId → ¬RoleService.Accessible role tenantId) :
    Refusal (setUsersForRole roleId tenantId userIds) 404
  | users {role tenantId userIds} (hmem : role ∈ d.roles)
    (hacc : RoleService.Accessible role tenantId) (h : ¬UsersStorable d tenantId userIds) :
    Refusal (setUsersForRole role.id tenantId userIds) 400

/-- The call, executed alone, raises an `HTTPException` exactly where it is to be refused,
with the declared status, and nothing else there. -/
structure RefusesAsDeclared (env : Env) (x : RoleCall) : Prop where
  raised : ∀ status, (∃ detail, (serve (x.program env) d).1 = .error (.http status detail)) ↔
    Refusal d x status
  noOther : (∃ status, Refusal d x status) → ∀ e, (serve (x.program env) d).1 = .error e →
    ∃ status detail, e = .http status detail

end Declared

end RoleCall

/-! ## What is raised -/

namespace RoleService

section Raised

variable {env : Env} {d : Database}

theorem notHttp_nameError : Exc.nameError.NotHttp := by
  rintro _ _ ⟨⟩

theorem notHttp_pendingRollback : (SessionError.pendingRollback : Exc).NotHttp := by
  rintro _ _ ⟨⟩

theorem notHttp_execute (f : Tables → Tables) :
    RaisesOnly Exc.NotHttp (execute (Database.change f)) :=
  raisesOnly_execute notHttp_pendingRollback fun _ _ => Database.notHttp_change

theorem notHttp_query {α : Type} (f : Database → α) : RaisesOnly Exc.NotHttp (query f : Db α) :=
  raisesOnly_query notHttp_pendingRollback f

theorem notHttp_commit : RaisesOnly Exc.NotHttp (commit : Db Unit) :=
  raisesOnly_commit notHttp_pendingRollback

theorem notHttp_refuse {α : Type} : RaisesOnly Exc.NotHttp (throw .nameError : Db α) :=
  raisesOnly_throw notHttp_nameError

theorem notHttp_get (roleId : UUID) : RaisesOnly Exc.NotHttp (get roleId) := by
  rw [get, CRUDBase.get]
  exact notHttp_query _

theorem notHttp_refreshPermissions : RaisesOnly Exc.NotHttp (refreshPermissions env) := by
  refine raisesOnly_lift fun e h => ?_
  split_ifs at h
  cases h
  rintro _ _ ⟨⟩

theorem notHttp_refreshed (role : Role) : RaisesOnly Exc.NotHttp (do
    refreshPermissions env
    pure role : Db Role) := notHttp_refreshPermissions.bind fun _ => raisesOnly_pure role

theorem notHttp_setRolePermissions (roleId : UUID) (ids : List UUID) :
    RaisesOnly Exc.NotHttp (setRolePermissions roleId ids) := by
  refine (notHttp_execute _).bind fun _ => ?_
  split_ifs
  · exact raisesOnly_pure ()
  · refine (notHttp_execute _).tryCatch fun e he => ?_
    split_ifs
    · exact raisesOnly_rollback.bind fun _ => notHttp_refuse
    · exact raisesOnly_throw he

theorem notHttp_createCustomRole (objIn : RoleCreate) (tenantId newId : UUID) :
    RaisesOnly Exc.NotHttp (createCustomRole env objIn tenantId newId) := by
  refine (notHttp_query _).bind fun found => ?_
  cases found with
  | some _ => exact notHttp_refuse
  | none =>
    refine (raisesOnly_add fun _ _ => Database.notHttp_change).bind fun _ =>
      notHttp_commit.bind fun _ => ?_
    rw [completeCustomRole]
    split_ifs
    · exact notHttp_refreshed _
    · exact (notHttp_setRolePermissions _ _).bind fun _ =>
        notHttp_commit.bind fun _ => notHttp_refreshed _

theorem notHttp_updateCustomRole (dbObj : Role) (objIn : RoleUpdate) :
    RaisesOnly Exc.NotHttp (updateCustomRole env dbObj objIn) := by
  rw [updateCustomRole]
  split_ifs
  · exact notHttp_refuse
  · have hlast : RaisesOnly Exc.NotHttp (storeCustomRole env dbObj objIn) :=
      (raisesOnly_add fun _ _ => RoleUpdate.notHttp_statement).bind fun _ =>
        notHttp_commit.bind fun _ => notHttp_refreshed _
    cases objIn.permissionIds with
    | none => exact hlast
    | some ids => exact (notHttp_setRolePermissions _ _).bind fun _ => hlast

theorem notHttp_deleteCustomRole (roleId tenantId : UUID) :
    RaisesOnly Exc.NotHttp (deleteCustomRole roleId tenantId) := by
  refine (notHttp_get roleId).bind fun found => ?_
  cases found with
  | none => exact raisesOnly_pure none
  | some role =>
    dsimp only
    split_ifs
    · exact notHttp_refuse
    · exact notHttp_refuse
    · refine (notHttp_query _).bind fun assigned => ?_
      split_ifs
      · exact notHttp_refuse
      · exact (raisesOnly_add fun _ _ => Database.notHttp_change).bind fun _ =>
          notHttp_commit.bind fun _ => raisesOnly_pure _

theorem notHttp_setUsersForRole (roleId tenantId : UUID) (userIds : List UUID) :
    RaisesOnly Exc.NotHttp (setUsersForRole roleId tenantId userIds) := by
  refine (notHttp_get roleId).bind fun found => ?_
  cases found with
  | none => exact notHttp_refuse
  | some role =>
    have hlast : RaisesOnly Exc.NotHttp (do
        commit
        pure userIds : Db (List UUID)) := notHttp_commit.bind fun _ => raisesOnly_pure userIds
    dsimp only
    split_ifs
    · exact notHttp_refuse
    · exact (notHttp_execute _).bind fun _ => hlast
    · refine (notHttp_execute _).bind fun _ => ?_
      exact ((notHttp_execute _).tryCatch fun _ _ =>
        raisesOnly_rollback.bind fun _ => notHttp_refuse).bind fun _ => hlast

end Raised

end RoleService

namespace RoleCall

/-- None of the operations ever raises an `HTTPException`. -/
theorem notHttp_program (env : Env) (x : RoleCall) :
    RaisesOnly Exc.NotHttp (x.program env) := by
  have hignore : ∀ {α : Type} {x : Db α}, RaisesOnly Exc.NotHttp x →
      RaisesOnly Exc.NotHttp (ignore x) := fun hx => hx.bind fun _ => raisesOnly_pure ()
  cases x with
  | createCustomRole objIn tenantId newId =>
    exact hignore (RoleService.notHttp_createCustomRole objIn tenantId newId)
  | updateCustomRole dbObj objIn => exact hignore (RoleService.notHttp_updateCustomRole dbObj objIn)
  | setRolePermissions roleId ids => exact RoleService.notHttp_setRolePermissions roleId ids
  | deleteCustomRole roleId tenantId =>
    exact hignore (RoleService.notHttp_deleteCustomRole roleId tenantId)
  | setUsersForRole roleId tenantId userIds =>
    exact hignore (RoleService.notHttp_setUsersForRole roleId tenantId userIds)

theorem serve_ne_http (env : Env) (x : RoleCall) (d : Database) (status : ℕ) (detail : String) :
    (serve (x.program env) d).1 ≠ .error (.http status detail) :=
  fun h => (notHttp_program env x).serve h status detail rfl

/-- The operations refuse as declared exactly when there is nothing to refuse. -/
theorem refusesAsDeclared_iff (env : Env) (x : RoleCall) (d : Database) :
    RefusesAsDeclared d env x ↔ ∀ status, ¬Refusal d x status := by
  constructor
  · intro h status hrefusal
    obtain ⟨detail, hserve⟩ := (h.raised status).mpr hrefusal
    exact serve_ne_http env x d status detail hserve
  · intro h
    refine ⟨fun status => iff_of_false ?_ (h status), fun ⟨status, hs⟩ => absurd hs (h status)⟩
    rintro ⟨detail, hserve⟩
    exact serve_ne_http env x d status detail hserve

/-! ## What the refusals are instead -/

/-- A new role is stored before its permissions are set; its row is accepted. -/
def RowAccepted (d : Database) : RoleCall → Prop
  | createCustomRole objIn tenantId newId => (d.addRole (objIn.row newId tenantId)).Valid
  | _ => True

section Refused

variable {env : Env} {d : Database}

theorem not_nameTaken_iff {name : String} {tenantId : UUID} : ¬NameTaken d name tenantId ↔
    ∀ r ∈ d.roles, r.name = name → r.tenantId ≠ some tenantId := by
  constructor
  · exact fun h r hr hn ht => h ⟨r, hr, hn, ht⟩
  · rintro h ⟨r, hr, hn, ht⟩
    exact h r hr hn ht

theorem rolePermissionsStorable_iff {roleId : UUID} {ids : List UUID} :
    RolePermissionsStorable d roleId ids ↔
      ∃ d', RoleService.permissionChange roleId ids d = .ok d' := by
  rw [RoleService.permissionChange_ok_iff, RolePermissionsStorable, PermissionsStorable, and_assoc]
  refine and_congr_right fun _ => ?_
  constructor
  · exact fun h p hp => ⟨h.1 p hp, h.2 (List.ne_nil_of_mem hp)⟩
  · refine fun h => ⟨fun p hp => (h p hp).1, fun hne => ?_⟩
    obtain ⟨p, hp⟩ := List.exists_mem_of_ne_nil ids hne
    exact (h p hp).2

theorem exists_error_of_not_storable {roleId : UUID} {ids : List UUID}
    (h : ¬RolePermissionsStorable d roleId ids) :
    ∃ e, RoleService.permissionChange roleId ids d = .error e := by
  rw [rolePermissionsStorable_iff] at h
  cases hp : RoleService.permissionChange roleId ids d with
  | ok d' => exact absurd ⟨d', hp⟩ h
  | error e => exact ⟨e, rfl⟩

theorem raises_createCustomRole {objIn : RoleCreate} {tenantId : UUID}
    (h : NameTaken d objIn.name tenantId) (newId : UUID) :
    Raises (RoleService.createCustomRole env objIn tenantId newId) d .nameError := by
  refine (RoleService.returns_getByNameInTenant objIn.name tenantId d).bind_raises ?_
  obtain ⟨r, hr, hp⟩ := h
  cases hf : d.roles.find? fun r => r.name = objIn.name ∧ r.tenantId = some tenantId with
  | none => exact absurd (decide_eq_true hp) (List.find?_eq_none.mp hf r hr)
  | some r => exact raises_throw _ d

theorem run_createCustomRole_refused (env : Env) {objIn : RoleCreate} {tenantId newId : UUID}
    (hfree : ¬NameTaken d objIn.name tenantId) (hrow : (d.addRole (objIn.row newId tenantId)).Valid)
    (h : ¬PermissionsStorable d (objIn.permissionIds.getD [])) :
    ∃ s, (RoleService.createCustomRole env objIn tenantId newId).run (.start d) =
      (.error .nameError, s) := by
  have hc : Endpoints.CanCreateRole d tenantId objIn newId := ⟨not_nameTaken_iff.mp hfree, hrow⟩
  rw [PermissionsStorable, ← RoleService.permissionChange_new_iff hc] at h
  cases hp : RoleService.permissionChange newId (objIn.permissionIds.getD [])
      (RoleService.withRole hc) with
  | ok d' => exact absurd ⟨d', hp⟩ h
  | error e =>
    rw [RoleService.run_createCustomRole hc, RoleService.run_completeCustomRole_error env hc hp]
    exact ⟨_, rfl⟩

/-- The permissions are refused before the row of the role is written. -/
theorem raises_updateCustomRole {dbObj : Role} {objIn : RoleUpdate} {ids : List UUID}
    (hsys : dbObj.isSystemRole = false) (hids : objIn.permissionIds = some ids)
    (h : ¬RolePermissionsStorable d dbObj.id ids) :
    Raises (RoleService.updateCustomRole env dbObj objIn) d .nameError := by
  obtain ⟨e, he⟩ := exists_error_of_not_storable h
  refine fun c => ⟨.start c, ?_, rfl⟩
  rw [RoleService.updateCustomRole, if_neg (by simp [hsys]), hids]
  exact run_bind_error (RoleService.run_setRolePermissions_refused he c) _

/-- Where the source declares an `HTTPException` it raises a `NameError`. -/
theorem nameError_of_refusal {x : RoleCall} {status : ℕ} (h : Refusal d x status)
    (hrow : RowAccepted d x) : (serve (x.program env) d).1 = .error .nameError := by
  have hignore : ∀ {α : Type} {y : Db α}, Raises y d .nameError →
      (serve (ignore y) d).1 = .error .nameError := fun hy => by rw [ignore, (hy.bind _).serve]
  cases h with
  | nameTaken htaken => exact hignore (raises_createCustomRole htaken _)
  | newPermissions hfree h =>
    obtain ⟨s, hs⟩ := run_createCustomRole_refused env hfree hrow h
    rw [fst_serve]
    exact congrArg Prod.fst (run_bind_error hs _)
  | systemUpdated h =>
    refine hignore ?_
    rw [RoleService.updateCustomRole, if_pos h]
    exact raises_throw _ d
  | updatedPermissions hsys hids h => exact hignore (raises_updateCustomRole hsys hids h)
  | permissions h =>
    obtain ⟨e, he⟩ := exists_error_of_not_storable h
    rw [fst_serve]
    exact congrArg Prod.fst (RoleService.run_setRolePermissions_refused he d)
  | systemDeleted hmem h => exact hignore (RoleService.raises_deleteCustomRole hmem (.inl h))
  | foreignDeleted hmem h =>
    exact hignore (RoleService.raises_deleteCustomRole hmem (.inr (.inl h)))
  | assignedDeleted hmem _ _ h =>
    exact hignore (RoleService.raises_deleteCustomRole hmem (.inr (.inr h)))
  | inaccessible h => exact hignore (RoleService.raises_setUsersForRole_inaccessible _ h)
  | users hmem hacc h =>
    rw [fst_serve]
    exact congrArg Prod.fst
      (run_bind_error (RoleService.run_setUsersForRole_refused hmem hacc h d) _)

end Refused

/-- A second role of the name "Manager" for Acme is refused with a `NameError`. -/
theorem second_manager_nameError :
    Refusal Database.sample (createCustomRole ⟨"Manager", none, none⟩ 1 3) 409 ∧
      (serve ((createCustomRole ⟨"Manager", none, none⟩ 1 3).program Env.sample)
        Database.sample).1 = .error .nameError ∧
      ¬RefusesAsDeclared Database.sample Env.sample
        (createCustomRole ⟨"Manager", none, none⟩ 1 3) := by
  have hrefusal : Refusal Database.sample (createCustomRole ⟨"Manager", none, none⟩ 1 3) 409 :=
    .nameTaken ⟨⟨2, "Manager", none, some 1, false⟩, by decide, rfl, rfl⟩
  refine ⟨hrefusal, rfl, fun h => ?_⟩
  obtain ⟨detail, hserve⟩ := (h.raised 409).mpr hrefusal
  exact serve_ne_http _ _ _ 409 detail hserve

end RoleCall
end VirtualStack
