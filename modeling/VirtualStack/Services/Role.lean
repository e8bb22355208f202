import VirtualStack.Joins
import VirtualStack.Services.Base
import VirtualStack.SessionLogic

/-!
# `services/iam/role.py`

The module raises `HTTPException` and names `status` without importing either,
so each of its refusals is a `NameError`.
-/

namespace VirtualStack
open UnitOfWork

structure RoleCreate where
  name : String
  description : Option String
  permissionIds : Option (List UUID)
  deriving DecidableEq, Repr

structure RoleUpdate where
  name : Field String
  description : Field String
  permissionIds : Option (List UUID)
  deriving DecidableEq, Repr

def RoleCreate.row (body : RoleCreate) (id tenantId : UUID) : Role :=
  ⟨id, body.name, body.description, some tenantId, false⟩

def RoleUpdate.apply (body : RoleUpdate) (x : Role) : Role :=
  { x with
    name := (body.name.getD x.name).getD x.name
    description := body.description.getD x.description }

/-- The columns of an `UPDATE` are the attributes that differ from the object's
own; the row may have moved on since the object was loaded. -/
def RoleUpdate.changes (body : RoleUpdate) (dbObj x : Role) : Role :=
  { x with
    name := if (body.apply dbObj).name = dbObj.name then x.name else (body.apply dbObj).name
    description := if (body.apply dbObj).description = dbObj.description then x.description
      else (body.apply dbObj).description }

/-- The `UPDATE` for an object whose attributes were set: none is sent when no
attribute changed, and one that finds no row is an error. -/
def RoleUpdate.statement (body : RoleUpdate) (dbObj : Role) (d : Database) :
    Except Exc Database :=
  if body.name = some none then .error .integrityError
  else if body.apply dbObj = dbObj then .ok d
  else if d.roles.any (·.id = dbObj.id) then
    d.change (Tables.modifyRole dbObj.id (body.changes dbObj))
  else .error .staleDataError

namespace RoleService

def get (recordId : UUID) : Db (Option Role) := CRUDBase.get (·.roles) (·.id) recordId

def getByNameInTenant (name : String) (tenantId : UUID) : Db (Option Role) :=
  query fun d => d.roles.find? fun r => r.name = name ∧ r.tenantId = some tenantId

/-- The filter is `tenant_id == tenant_id | is_system_role == True`, in which `|`
binds first: a `UUID` and a column have no `|`. -/
def getMultiByTenant (_tenantId : UUID) (_skip _limit : ℕ) : Db (List Role) := throw .typeError

/-- From the same filter. -/
def getMultiByTenantWithUserCount (_tenantId : UUID) (_skip _limit : ℕ) : Db (List (Role × ℕ)) :=
  throw .typeError

/-- `db.refresh(role, attribute_names=['permissions'])`. -/
def refreshPermissions (env : Env) : Db Unit :=
  lift (if env.rolePermissionsMapped then .ok () else .error .keyError)

def setRolePermissions (roleId : UUID) (permissionIds : List UUID) : Db Unit := do
  execute (·.change (Tables.dropRolePermissions roleId))
  if permissionIds = [] then pure ()
  else
    tryCatch (execute (·.change (Tables.addRolePermissions (permissionIds.map (⟨roleId, ·⟩)))))
      fun e => if e = .integrityError then do
          rollback
          throw .nameError
        else throw e

/-- `create_custom_role` once the new role is committed. -/
def completeCustomRole (env : Env) (objIn : RoleCreate) (role : Role) : Db Role := do
  if objIn.permissionIds.getD [] = [] then pure ()
  else do
    setRolePermissions role.id (objIn.permissionIds.getD [])
    commit
  refreshPermissions env
  pure role

def createCustomRole (env : Env) (objIn : RoleCreate) (tenantId newId : UUID) : Db Role := do
  match ← getByNameInTenant objIn.name tenantId with
  | some _ => throw .nameError
  | none => do
    add (·.change (Tables.addRole (objIn.row newId tenantId)))
    commit
    completeCustomRole env objIn (objIn.row newId tenantId)

/-- `update_custom_role` once the permissions are set. The object was changed before that,
but the session sends its `UPDATE` with the next flush; the statements of
`set_role_permissions` are on a plain table and do not flush, so that it is the commit
that sends it. -/
def storeCustomRole (env : Env) (dbObj : Role) (objIn : RoleUpdate) : Db Role := do
  add (objIn.statement dbObj)
  commit
  refreshPermissions env
  pure (objIn.apply dbObj)

def updateCustomRole (env : Env) (dbObj : Role) (objIn : RoleUpdate) : Db Role :=
  if dbObj.isSystemRole then throw .nameError
  else do
    match objIn.permissionIds with
    | none => pure ()
    | some ids => setRolePermissions dbObj.id ids
    storeCustomRole env dbObj objIn

def checkRoleAssigned (roleId tenantId : UUID) : Db Bool :=
  query fun d => d.userTenantRoles.any fun x => x.roleId = roleId ∧ x.tenantId = tenantId

def deleteCustomRole (roleId tenantId : UUID) : Db (Option Role) := do
  match ← get roleId with
  | none => pure none
  | some role =>
    if role.isSystemRole then throw .nameError
    else if role.tenantId ≠ some tenantId then throw .nameError
    else do
      if ← checkRoleAssigned roleId tenantId then throw .nameError
      else do
        add (·.change (Tables.dropRole roleId))
        commit
        pure (some role)

/-- A user stands in the result once for each joined row. -/
def getUsersForRole (roleId tenantId : UUID) : Db (List User) :=
  query fun d => ((Joins.join (fun u x => u.id = x.userId) d.users d.userTenantRoles).filter
    fun p => p.2.roleId = roleId ∧ p.2.tenantId = tenantId).map Prod.fst

/-- Both handlers of the source roll back and then fail to name `HTTPException`. -/
def setUsersForRole (roleId tenantId : UUID) (userIds : List UUID) : Db (List UUID) := do
  match ← get roleId with
  | none => throw .nameError
  | some role =>
    if ¬role.isSystemRole ∧ role.tenantId ≠ some tenantId then throw .nameError
    else do
      execute (·.change (Tables.dropAssignments fun x =>
        x.roleId = roleId ∧ x.tenantId = tenantId))
      if userIds = [] then pure ()
      else
        tryCatch
          (execute (·.change (Tables.addNewAssignments (userIds.map (⟨·, roleId, tenantId⟩)))))
          fun _ => do
            rollback
            throw .nameError
      commit
      pure userIds

/-- `selectinload(self.model.permissions)` reads the relationship first. -/
def getRoleWithPermissions (env : Env) (roleId : UUID) :
    Db (Option (Role × List PermissionModel)) := do
  lift (if env.rolePermissionsMapped then .ok () else .error .attributeError)
  query fun d => (d.roles.find? (·.id = roleId)).map fun r =>
    (r, d.permissions.filter fun p => ⟨r.id, p.id⟩ ∈ d.rolePermissions)

/-! ## Outcomes -/

/-- The two statements of `set_role_permissions`, one after the other. -/
def permissionChange (roleId : UUID) (permissionIds : List UUID) (d : Database) :
    Except Exc Database := do
  let d' ← d.change (Tables.dropRolePermissions roleId)
  if permissionIds = [] then .ok d'
  else d'.change (Tables.addRolePermissions (permissionIds.map (⟨roleId, ·⟩)))

/-- Without a list there are none. -/
def givenPermissionChange (roleId : UUID) (permissionIds : Option (List UUID)) (d : Database) :
    Except Exc Database :=
  match permissionIds with
  | none => .ok d
  | some ids => permissionChange roleId ids d

/-- All statements of `update_custom_role`, in the order they are sent. -/
def updateChange (dbObj : Role) (objIn : RoleUpdate) (d : Database) : Except Exc Database := do
  let d' ← givenPermissionChange dbObj.id objIn.permissionIds d
  objIn.statement dbObj d'

section Outcomes

variable {env : Env} {d d' : Database} {roleId tenantId : UUID}

theorem returns_get (roleId : UUID) (d : Database) :
    Returns (get roleId) d (d.roles.find? (·.id = roleId)) d := CRUDBase.returns_get _ _ d roleId

theorem returns_checkRoleAssigned (roleId tenantId : UUID) (d : Database) :
    Returns (checkRoleAssigned roleId tenantId) d
      (d.userTenantRoles.any fun x => x.roleId = roleId ∧ x.tenantId = tenantId) d :=
  returns_query _ d

theorem autoflush_setRolePermissions (roleId : UUID) (ids : List UUID) :
    Autoflush (setRolePermissions roleId ids) := (autoflush_execute _).bind _

theorem autoflush_updateCustomRole {dbObj : Role} {objIn : RoleUpdate}
    (hsys : dbObj.isSystemRole = false) : Autoflush (updateCustomRole env dbObj objIn) := by
  rw [updateCustomRole, if_neg (by simp [hsys])]
  cases objIn.permissionIds with
  | none => exact autoflush_add_bind (autoflush_commit.bind _)
  | some ids => exact (autoflush_setRolePermissions _ _).bind _

/-- The permissions of a role are in a table of their own. -/
theorem keeps_setRolePermissions_of {I : Database → Prop}
    (hI : ∀ (v v' : Database) xs, v'.toTables = { v.toTables with rolePermissions := xs } →
      I v → I v') (roleId : UUID) (ids : List UUID) : Keeps I (setRolePermissions roleId ids) := by
  refine (keeps_execute fun v v' hv hw =>
    hI v v' _ (Database.change_eq_ok_iff.mp hw) hv).bind fun _ => ?_
  split_ifs
  · exact keeps_pure _
  · refine (keeps_execute fun v v' hv hw =>
      hI v v' _ (Database.change_eq_ok_iff.mp hw) hv).tryCatch fun e => ?_
    split_ifs
    · exact keeps_rollback.bind fun _ => keeps_throw _
    · exact keeps_throw _

theorem keeps_completeCustomRole_of {I : Database → Prop}
    (hI : ∀ (v v' : Database) xs, v'.toTables = { v.toTables with rolePermissions := xs } →
      I v → I v') (objIn : RoleCreate) (role : Role) :
    Keeps I (completeCustomRole env objIn role) := by
  have hlast : Keeps I (do
      refreshPermissions env
      pure role : Db Role) := (keeps_lift _).bind fun _ => keeps_pure _
  rw [completeCustomRole]
  split_ifs
  · exact hlast
  · exact (keeps_setRolePermissions_of hI _ _).bind fun _ => keeps_commit.bind fun _ => hlast

/-- They are stored neither with the roles nor with the users. -/
theorem keeps_setRolePermissions {I : Database → Prop}
    (hI : ∀ v v' : Database, v'.roles = v.roles → v'.users = v.users → I v → I v') (roleId : UUID)
    (ids : List UUID) : Keeps I (setRolePermissions roleId ids) :=
  keeps_setRolePermissions_of (fun v v' xs hv' => hI v v' (by rw [hv']) (by rw [hv'])) roleId ids

theorem keeps_completeCustomRole {I : Database → Prop}
    (hI : ∀ v v' : Database, v'.roles = v.roles → v'.users = v.users → I v → I v')
    (objIn : RoleCreate) (role : Role) : Keeps I (completeCustomRole env objIn role) :=
  keeps_completeCustomRole_of (fun v v' xs hv' => hI v v' (by rw [hv']) (by rw [hv'])) objIn role

/-- The only write of `delete_custom_role` is the deletion of the role. -/
theorem keeps_deleteCustomRole {I : Database → Prop} {roleId : UUID}
    (hI : ∀ v v' : Database, I v → v'.toTables = v.dropRole roleId → I v') (tenantId : UUID) :
    Keeps I (deleteCustomRole roleId tenantId) := by
  have hget : Keeps I (get roleId) := keeps_query fun d : Database => d.roles.find? (·.id = roleId)
  refine hget.bind fun found => ?_
  cases found with
  | none => exact keeps_pure none
  | some role =>
    dsimp only
    split_ifs
    · exact keeps_throw _
    · exact keeps_throw _
    · refine (keeps_query _).bind fun assigned => ?_
      split_ifs
      · exact keeps_throw _
      · exact (keeps_add fun v v' hv hw => hI v v' hv (Database.change_eq_ok_iff.mp hw)).bind
          fun _ => keeps_commit.bind fun _ => keeps_pure _

theorem keeps_getRoleWithPermissions {I : Database → Prop} (roleId : UUID) :
    Keeps I (getRoleWithPermissions env roleId) := (keeps_lift _).bind fun _ => keeps_query _

theorem returns_getByNameInTenant (name : String) (tenantId : UUID) (d : Database) :
    Returns (getByNameInTenant name tenantId) d
      (d.roles.find? fun r => r.name = name ∧ r.tenantId = some tenantId) d := returns_query _ d

theorem dropRolePermissions_ok (roleId : UUID) (d : Database) :
    d.change (Tables.dropRolePermissions roleId) =
      .ok ⟨_, d.valid.dropRolePermissions roleId⟩ := Database.change_eq_ok _

theorem returns_setRolePermissions {ids : List UUID} (h : permissionChange roleId ids d = .ok d') :
    Returns (setRolePermissions roleId ids) d () d' := by
  rw [permissionChange, dropRolePermissions_ok] at h
  refine (returns_execute (dropRolePermissions_ok roleId d)).bind ?_
  change (if ids = [] then _ else _) = Except.ok d' at h
  split_ifs at h ⊢ with hids
  · cases h
    exact returns_pure () _
  · exact (returns_execute h).tryCatch _

/-- No text is written, so the server reports no over-long value. -/
theorem error_of_permissionChange {ids : List UUID} {e : Exc}
    (h : permissionChange roleId ids d = .error e) : ids ≠ [] ∧ e = .integrityError := by
  rw [permissionChange, dropRolePermissions_ok] at h
  change (if ids = [] then _ else _) = Except.error e at h
  split_ifs at h with hids
  obtain ⟨htenants, husers, hroles, hpermissions, hinvitations, hkeys⟩ := d.valid.widths
  have hw : (Tables.addRolePermissions (ids.map (⟨roleId, ·⟩))
      (d.dropRolePermissions roleId)).Widths :=
    ⟨htenants, husers, hroles, hpermissions, hinvitations, hkeys⟩
  rw [Database.change] at h
  split_ifs at h
  rw [Tables.violation, if_pos hw] at h
  cases h
  exact ⟨hids, rfl⟩

/-- The handler rolls back and then fails to name `HTTPException`. -/
theorem run_setRolePermissions_refused {ids : List UUID} {e : Exc}
    (h : permissionChange roleId ids d = .error e) (c : Database) :
    (setRolePermissions roleId ids).run (.clean c d) = (.error .nameError, .start c) := by
  obtain ⟨hids, rfl⟩ := error_of_permissionChange h
  rw [permissionChange, dropRolePermissions_ok] at h
  change (if ids = [] then _ else _) = Except.error Exc.integrityError at h
  rw [if_neg hids] at h
  rw [setRolePermissions, run_bind_ok (returns_execute (dropRolePermissions_ok roleId d) c),
    if_neg hids, run_tryCatch_error (execute_clean_error c _ h), if_pos rfl]
  rfl

theorem reverts_setRolePermissions {ids : List UUID} {e : Exc}
    (h : permissionChange roleId ids d = .error e) : Reverts (setRolePermissions roleId ids) d :=
  ⟨.nameError, fun c => ⟨.start c, run_setRolePermissions_refused h c, .inl rfl⟩⟩

/-- Both statements are accepted, or nothing of them is left. -/
theorem setRolePermissions_cases (roleId : UUID) (ids : List UUID) (d : Database) :
    (∃ d', permissionChange roleId ids d = .ok d' ∧
        Returns (setRolePermissions roleId ids) d () d') ∨
      Reverts (setRolePermissions roleId ids) d := by
  cases h : permissionChange roleId ids d with
  | ok d' => exact .inl ⟨d', rfl, returns_setRolePermissions h⟩
  | error e => exact .inr (reverts_setRolePermissions h)

/-- The server takes ids of stored permissions, each at most once. -/
theorem permissionChange_ok_iff {ids : List UUID} :
    (∃ d', permissionChange roleId ids d = .ok d') ↔
      ids.Nodup ∧ ∀ p ∈ ids, p ∈ d.permissions.map (·.id) ∧ roleId ∈ d.roles.map (·.id) := by
  have hdrop := d.valid.dropRolePermissions roleId
  have hiff : (∃ d', permissionChange roleId ids d = .ok d') ↔
      (Tables.addRolePermissions (ids.map (⟨roleId, ·⟩)) (d.dropRolePermissions roleId)).Valid := by
    rw [permissionChange, dropRolePermissions_ok]
    change (∃ d', (if ids = [] then _ else _) = Except.ok d') ↔ _
    split_ifs with hids
    · refine iff_of_true ⟨_, rfl⟩ ?_
      rw [hids, List.map_nil, Tables.addRolePermissions, List.append_nil]
      exact hdrop
    · constructor
      · rintro ⟨d', hd'⟩
        rw [← Database.change_eq_ok_iff.mp hd']
        exact d'.valid
      · intro hv
        exact ⟨_, Database.change_eq_ok hv⟩
  rw [hiff, hdrop.addRolePermissions_iff]
  have hinj : Function.Injective fun p : UUID => (⟨roleId, p⟩ : RolePermission) :=
    fun p q hpq => (RolePermission.mk.inj hpq).2
  constructor
  · rintro ⟨hn, hx⟩
    refine ⟨(List.nodup_map_iff hinj).mp (List.nodup_append.mp hn).2.1, fun p hp => ?_⟩
    obtain ⟨hr, hp⟩ := hx _ (List.mem_map.mpr ⟨p, hp, rfl⟩)
    exact ⟨hp, hr⟩
  · rintro ⟨hn, hx⟩
    constructor
    · refine List.nodup_append.mpr
        ⟨hdrop.keys.rolePermissions, hn.map hinj, fun x hx y hy hxy => ?_⟩
      obtain ⟨p, -, rfl⟩ := List.mem_map.mp hy
      simp [Tables.dropRolePermissions, hxy] at hx
    · rintro x hm
      obtain ⟨p, hp, rfl⟩ := List.mem_map.mp hm
      exact ⟨(hx p hp).2, (hx p hp).1⟩

/-- Those that are given for a stored role are taken when they are stored and none is
repeated. -/
theorem givenPermissionChange_ok_iff (hrole : roleId ∈ d.roles.map (·.id))
    {permissionIds : Option (List UUID)} :
    (∃ d', givenPermissionChange roleId permissionIds d = .ok d') ↔
      ∀ ids, permissionIds = some ids → ids.Nodup ∧ ∀ p ∈ ids, p ∈ d.permissions.map (·.id) := by
  cases permissionIds with
  | none =>
    refine iff_of_true ⟨d, rfl⟩ fun ids h => ?_
    cases h
  | some ids =>
    have hiff : (∃ d', givenPermissionChange roleId (some ids) d = .ok d') ↔
        ids.Nodup ∧ ∀ p ∈ ids, p ∈ d.permissions.map (·.id) :=
      permissionChange_ok_iff.trans
        (and_congr_right fun _ => forall₂_congr fun p _ => and_iff_left hrole)
    rw [hiff]
    constructor
    · rintro h _ ⟨⟩
      exact h
    · exact fun h => h ids rfl

theorem updateChange_eq_ok_iff {dbObj : Role} {objIn : RoleUpdate} :
    updateChange dbObj objIn d = .ok d' ↔
      ∃ d₁, givenPermissionChange dbObj.id objIn.permissionIds d = .ok d₁ ∧
        objIn.statement dbObj d₁ = .ok d' := by
  rw [updateChange]
  cases givenPermissionChange dbObj.id objIn.permissionIds d with
  | error e =>
    constructor
    · intro h
      cases h
    · rintro ⟨_, h, -⟩
      cases h
  | ok d₁ =>
    constructor
    · exact fun h => ⟨d₁, rfl, h⟩
    · rintro ⟨_, h, hw⟩
      cases h
      exact hw

/-- The change is committed before the relationship is refreshed. -/
theorem run_storeCustomRole {dbObj : Role} {objIn : RoleUpdate}
    (h : objIn.statement dbObj d = .ok d') (c : Database) :
    (storeCustomRole env dbObj objIn).run (.clean c d) =
      (if env.rolePermissionsMapped then .ok (objIn.apply dbObj) else .error .keyError,
        .start d') := by
  rw [storeCustomRole, run_bind_ok (add_clean c d _), run_bind_ok (commit_one_ok c d h), run_bind,
    refreshPermissions, run_lift]
  cases env.rolePermissionsMapped <;> rfl

theorem reverts_storeCustomRole (env : Env) {dbObj : Role} {objIn : RoleUpdate} {e : Exc}
    (h : objIn.statement dbObj d = .error e) : Reverts (storeCustomRole env dbObj objIn) d := by
  refine ⟨e, fun c => ⟨.aborted c, ?_, .inr rfl⟩⟩
  rw [storeCustomRole, run_bind_ok (add_clean c d _), run_bind_error (commit_one_error c d h)]

theorem run_updateCustomRole {dbObj : Role} {objIn : RoleUpdate} (hs : dbObj.isSystemRole = false)
    (h : updateChange dbObj objIn d = .ok d') (c : Database) :
    (updateCustomRole env dbObj objIn).run (.clean c d) =
      (if env.rolePermissionsMapped then .ok (objIn.apply dbObj) else .error .keyError,
        .start d') := by
  obtain ⟨d₁, hp, hw⟩ := updateChange_eq_ok_iff.mp h
  rw [updateCustomRole, if_neg (by simp [hs])]
  cases hids : objIn.permissionIds with
  | none =>
    rw [hids] at hp
    cases hp
    exact run_storeCustomRole hw c
  | some ids =>
    rw [hids] at hp
    exact (run_bind_ok (returns_setRolePermissions hp c) _).trans (run_storeCustomRole hw c)

/-- The `UPDATE` writes its columns in the row of the object; when there are none it
writes nothing. -/
theorem tables_of_statement {dbObj : Role} {objIn : RoleUpdate}
    (h : objIn.statement dbObj d = .ok d') :
    d'.toTables = d.modifyRole dbObj.id (objIn.changes dbObj) := by
  rw [RoleUpdate.statement] at h
  split_ifs at h with _ hsame
  · cases h
    have hself : Rows.modify (·.id) dbObj.id (objIn.changes dbObj) d.roles = d.roles := by
      refine Rows.modify_eq_self fun x _ _ => ?_
      rw [RoleUpdate.changes, hsame, if_pos rfl, if_pos rfl]
    rw [Tables.modifyRole, hself]
  · exact Database.change_eq_ok_iff.mp h

theorem rows_of_statement {dbObj : Role} {objIn : RoleUpdate}
    (h : objIn.statement dbObj d = .ok d') :
    d'.roles = Rows.modify (·.id) dbObj.id (objIn.changes dbObj) d.roles ∧
      d'.rolePermissions = d.rolePermissions := by
  rw [tables_of_statement h]
  exact ⟨rfl, rfl⟩

theorem roles_of_permissionChange {ids : List UUID} (h : permissionChange roleId ids d = .ok d') :
    d'.roles = d.roles := by
  rw [permissionChange, dropRolePermissions_ok] at h
  change (if ids = [] then _ else _) = Except.ok d' at h
  split_ifs at h
  · cases h
    rfl
  · rw [Database.change_eq_ok_iff.mp h]
    rfl

theorem roles_of_givenPermissionChange {permissionIds : Option (List UUID)}
    (h : givenPermissionChange roleId permissionIds d = .ok d') : d'.roles = d.roles := by
  cases permissionIds with
  | none =>
    cases h
    rfl
  | some ids => exact roles_of_permissionChange h

theorem roles_of_updateChange {dbObj : Role} {objIn : RoleUpdate}
    (h : updateChange dbObj objIn d = .ok d') :
    d'.roles = Rows.modify (·.id) dbObj.id (objIn.changes dbObj) d.roles := by
  obtain ⟨d₁, hp, hw⟩ := updateChange_eq_ok_iff.mp h
  rw [(rows_of_statement hw).1, roles_of_givenPermissionChange hp]

theorem permissions_of_permissionChange {ids : List UUID}
    (h : permissionChange roleId ids d = .ok d') :
    d'.toTables =
      Tables.addRolePermissions (ids.map (⟨roleId, ·⟩)) (d.dropRolePermissions roleId) := by
  rw [permissionChange, dropRolePermissions_ok] at h
  change (if ids = [] then _ else _) = Except.ok d' at h
  split_ifs at h with hids
  · cases h
    rw [hids, List.map_nil, Tables.addRolePermissions, List.append_nil]
  · exact Database.change_eq_ok_iff.mp h

/-- An update keeps the ids of the roles. -/
theorem map_id_changes (objIn : RoleUpdate) (dbObj : Role) (roles : List Role) :
    (Rows.modify (·.id) dbObj.id (objIn.changes dbObj) roles).map (·.id) = roles.map (·.id) :=
  Rows.map_modify _ _ (f := objIn.changes dbObj) (fun _ => rfl) roles

theorem map_id_of_updateChange {dbObj : Role} {objIn : RoleUpdate}
    (h : updateChange dbObj objIn d = .ok d') : d'.roles.map (·.id) = d.roles.map (·.id) := by
  rw [roles_of_updateChange h, map_id_changes]

theorem reverts_updateCustomRole {dbObj : Role} {objIn : RoleUpdate} {e : Exc}
    (hsys : dbObj.isSystemRole = false) (h : updateChange dbObj objIn d = .error e) :
    Reverts (updateCustomRole env dbObj objIn) d := by
  rw [updateCustomRole, if_neg (by simp [hsys])]
  rw [updateChange] at h
  cases hids : objIn.permissionIds with
  | none =>
    rw [hids] at h
    exact reverts_storeCustomRole env h
  | some ids =>
    rw [hids] at h
    cases hp : permissionChange dbObj.id ids d with
    | error e' => exact (reverts_setRolePermissions hp).bind _
    | ok d₁ =>
      rw [givenPermissionChange, hp] at h
      exact (returns_setRolePermissions hp).bind_reverts (reverts_storeCustomRole env h)

theorem fails_updateCustomRole {dbObj : Role} {objIn : RoleUpdate} {e : Exc}
    (h : updateChange dbObj objIn d = .error e) : Fails (updateCustomRole env dbObj objIn) d := by
  cases hsys : dbObj.isSystemRole with
  | true =>
    rw [updateCustomRole, if_pos hsys]
    exact fails_throw _ d
  | false => exact (reverts_updateCustomRole hsys h).fails

/-- The role can be deleted for the tenant: a custom role of it that nobody
there has. -/
def Deletable (d : Database) (roleId tenantId : UUID) (role : Role) : Prop :=
  role ∈ d.roles ∧ role.id = roleId ∧ role.isSystemRole = false ∧ role.tenantId = some tenantId ∧
    ∀ x ∈ d.userTenantRoles, x.roleId = roleId → x.tenantId ≠ tenantId

theorem run_deleteCustomRole {role : Role} (h : Deletable d roleId tenantId role) (c : Database) :
    (deleteCustomRole roleId tenantId).run (.clean c d) =
      (.ok (some role), .start ⟨_, d.valid.dropRole roleId⟩) := by
  obtain ⟨hmem, hid, hsys, hten, hfree⟩ := h
  have hf := (Rows.find?_key_eq_some d.valid.keys.rolesId).mpr ⟨hmem, hid⟩
  have hany :
      (d.userTenantRoles.any fun x => x.roleId = roleId ∧ x.tenantId = tenantId) = false := by
    rw [List.any_eq_false]
    intro x hx hp
    obtain ⟨hr, ht⟩ := of_decide_eq_true hp
    exact hfree x hx hr ht
  have hw : d.change (Tables.dropRole roleId) = .ok ⟨_, d.valid.dropRole roleId⟩ :=
    Database.change_eq_ok _
  rw [deleteCustomRole, run_bind_ok (returns_get roleId d c), hf]
  dsimp only
  rw [if_neg (by simp [hsys]), if_neg (by simp [hten]),
    run_bind_ok (returns_checkRoleAssigned roleId tenantId d c), hany]
  simp only [Bool.false_eq_true, if_false]
  rw [run_bind_ok (add_clean c d _), run_bind_ok (commit_one_ok c d hw), run_pure]

theorem raises_deleteCustomRole {role : Role} (hmem : role ∈ d.roles)
    (h : role.isSystemRole = true ∨ role.tenantId ≠ some tenantId ∨
      ∃ x ∈ d.userTenantRoles, x.roleId = role.id ∧ x.tenantId = tenantId) :
    Raises (deleteCustomRole role.id tenantId) d .nameError := by
  have hget := returns_get role.id d
  rw [(Rows.find?_key_eq_some d.valid.keys.rolesId).mpr ⟨hmem, rfl⟩] at hget
  refine hget.bind_raises ?_
  dsimp only
  split_ifs with hsys hten
  · exact raises_throw _ d
  · exact raises_throw _ d
  · obtain ⟨x, hx, hassigned⟩ := (h.resolve_left hsys).resolve_left hten
    have hany : (d.userTenantRoles.any fun x => x.roleId = role.id ∧ x.tenantId = tenantId) =
        true := List.any_eq_true.mpr ⟨x, hx, decide_eq_true hassigned⟩
    refine (returns_checkRoleAssigned role.id tenantId d).bind_raises ?_
    rw [hany]
    exact raises_throw _ d

/-- A role that is not there is reported as `None`; every other refusal raises. -/
theorem deleteCustomRole_refused (h : ∀ role, ¬Deletable d roleId tenantId role) :
    Fails (deleteCustomRole roleId tenantId) d ∨
      Returns (deleteCustomRole roleId tenantId) d none d := by
  have hget := returns_get roleId d
  cases hf : d.roles.find? (·.id = roleId) with
  | none =>
    rw [hf] at hget
    exact .inr (hget.bind (returns_pure none d))
  | some role =>
    obtain ⟨hmem, rfl⟩ := (Rows.find?_key_eq_some d.valid.keys.rolesId).mp hf
    refine .inl (raises_deleteCustomRole hmem ?_).fails
    by_contra hno
    obtain ⟨hsys, hno⟩ := not_or.mp hno
    obtain ⟨hten, hfree⟩ := not_or.mp hno
    refine h role ⟨hmem, rfl, by simpa using hsys, not_not.mp hten, fun x hx hr ht => ?_⟩
    exact hfree ⟨x, hx, hr, ht⟩

/-- The role can be given out in the tenant. -/
def Accessible (role : Role) (tenantId : UUID) : Prop :=
  role.isSystemRole ∨ role.tenantId = some tenantId

theorem run_setUsersForRole {role : Role} {userIds : List UUID} (hmem : role ∈ d.roles)
    (hacc : Accessible role tenantId) (hten : tenantId ∈ d.tenants.map (·.id))
    (husers : ∀ u ∈ userIds, u ∈ d.users.map (·.id)) (c : Database) :
    ∃ d', (setUsersForRole role.id tenantId userIds).run (.clean c d) = (.ok userIds, .start d') ∧
      d'.toTables = Tables.addNewAssignments (userIds.map (⟨·, role.id, tenantId⟩))
        (d.dropAssignments fun x => x.roleId = role.id ∧ x.tenantId = tenantId) := by
  have hf := (Rows.find?_key_eq_some d.valid.keys.rolesId).mpr ⟨hmem, rfl⟩
  have hdrop := Database.change_eq_ok (d.valid.dropAssignments fun x =>
    x.roleId = role.id ∧ x.tenantId = tenantId)
  rw [setUsersForRole, run_bind_ok (returns_get role.id d c), hf]
  dsimp only
  rw [if_neg fun hn => hacc.elim hn.1 hn.2, run_bind_ok (execute_clean_ok c d hdrop)]
  split_ifs with hids
  · subst hids
    exact ⟨_, rfl, rfl⟩
  · have hv := (d.valid.dropAssignments fun x =>
      x.roleId = role.id ∧ x.tenantId = tenantId).addNewAssignments_iff
        (userIds.map (⟨·, role.id, tenantId⟩)) |>.mpr (by
          intro x hx
          obtain ⟨u, hu, rfl⟩ := List.mem_map.mp hx
          exact ⟨husers u hu, List.mem_map.mpr ⟨role, hmem, rfl⟩, hten⟩)
    rw [run_bind_ok (run_tryCatch_ok (execute_clean_ok c _ (Database.change_eq_ok hv)) _),
      run_bind_ok (commit_clean c _), run_pure]
    exact ⟨_, rfl, rfl⟩

/-- An assignment that cannot be stored undoes the whole call. -/
theorem run_setUsersForRole_refused {role : Role} {userIds : List UUID} (hmem : role ∈ d.roles)
    (hacc : Accessible role tenantId)
    (hno : ¬∀ u ∈ userIds, u ∈ d.users.map (·.id) ∧ tenantId ∈ d.tenants.map (·.id))
    (c : Database) : (setUsersForRole role.id tenantId userIds).run (.clean c d) =
      (.error .nameError, .start c) := by
  have hids : userIds ≠ [] := by
    rintro rfl
    exact hno (by simp)
  have hf := (Rows.find?_key_eq_some d.valid.keys.rolesId).mpr ⟨hmem, rfl⟩
  have hdrop := Database.change_eq_ok (d.valid.dropAssignments fun x =>
    x.roleId = role.id ∧ x.tenantId = tenantId)
  have hv : ¬(Tables.addNewAssignments (userIds.map (⟨·, role.id, tenantId⟩))
      (d.dropAssignments fun x => x.roleId = role.id ∧ x.tenantId = tenantId)).Valid := by
    intro hv
    refine hno fun u hu => ?_
    obtain ⟨huser, -, htenant⟩ := ((d.valid.dropAssignments _).addNewAssignments_iff _).mp hv _
      (List.mem_map.mpr ⟨u, hu, rfl⟩)
    exact ⟨huser, htenant⟩
  rw [setUsersForRole, run_bind_ok (returns_get role.id d c), hf]
  dsimp only
  rw [if_neg fun hn => hacc.elim hn.1 hn.2, run_bind_ok (execute_clean_ok c d hdrop), if_neg hids]
  refine run_bind_error ?_ _
  rw [run_tryCatch_error (execute_clean_error c _ (Database.change_eq_error hv))]
  rfl

theorem run_setUsersForRole_unknown {role : Role} {userIds : List UUID} (hmem : role ∈ d.roles)
    (hacc : Accessible role tenantId) (hno : ∃ u ∈ userIds, u ∉ d.users.map (·.id))
    (c : Database) : (setUsersForRole role.id tenantId userIds).run (.clean c d) =
      (.error .nameError, .start c) := by
  obtain ⟨u, hu, hno⟩ := hno
  exact run_setUsersForRole_refused hmem hacc (fun hall => hno (hall u hu).1) c

/-- A role that is missing or not accessible in the tenant is refused at once. -/
theorem raises_setUsersForRole_inaccessible (userIds : List UUID)
    (h : ∀ role ∈ d.roles, role.id = roleId → ¬Accessible role tenantId) :
    Raises (setUsersForRole roleId tenantId userIds) d .nameError := by
  refine (returns_get roleId d).bind_raises ?_
  cases hf : d.roles.find? (·.id = roleId) with
  | none => exact raises_throw _ d
  | some role =>
    obtain ⟨hmem, hid⟩ := (Rows.find?_key_eq_some d.valid.keys.rolesId).mp hf
    dsimp only
    rw [if_pos (not_or.mp (h role hmem hid))]
    exact raises_throw _ d

theorem fails_setUsersForRole {userIds : List UUID}
    (h : ∀ role ∈ d.roles, role.id = roleId → Accessible role tenantId →
      ∃ u ∈ userIds, u ∉ d.users.map (·.id)) :
    Fails (setUsersForRole roleId tenantId userIds) d := by
  by_cases hex : ∃ role ∈ d.roles, role.id = roleId ∧ Accessible role tenantId
  · obtain ⟨role, hmem, rfl, hacc⟩ := hex
    exact ⟨.nameError, fun c =>
      ⟨.start c, run_setUsersForRole_unknown hmem hacc (h role hmem rfl hacc) c, rfl⟩⟩
  · exact (raises_setUsersForRole_inaccessible userIds fun role hmem hid hacc =>
      hex ⟨role, hmem, hid, hacc⟩).fails

end Outcomes

end RoleService
end VirtualStack
