import VirtualStack.Endpoints.Roles
import VirtualStack.Services.Invitation

/-!
# What the operations write to the role tables

Ten operations of three services write roles, their permissions and their
assignments. `Scope.Closed` lists the changes that any of them makes to these
tables, each with what its operation has checked before. A property of the
tables that is closed under these changes is kept by every operation, whether it
succeeds or fails.
-/

namespace VirtualStack
open UnitOfWork

/-- What operations may touch: roles by their `tenantId`, and the assignments
that they may add. -/
structure Scope where
  owner : Option UUID → Prop
  grant : Database → UserTenantRole → Prop
  /-- An assignment of a role that can be given out in a tenant in scope. -/
  grant_of_accessible : ∀ d x r, r ∈ d.roles → r.id = x.roleId →
    RoleService.Accessible r x.tenantId → owner (some x.tenantId) → grant d x

namespace Scope

/-- The role with the id, if it exists, is in scope. -/
def OwnsRole (S : Scope) (d : Database) (id : UUID) : Prop :=
  ∀ r ∈ d.roles, r.id = id → S.owner r.tenantId

/-- The property survives every change in scope. -/
structure Closed (S : Scope) (I : Database → Prop) : Prop where
  other : ∀ v v' : Database, I v → v'.roles = v.roles → v'.permissions = v.permissions →
    v'.rolePermissions = v.rolePermissions → v'.userTenantRoles = v.userTenantRoles → I v'
  assign : ∀ (v v' : Database) (xs : List UserTenantRole), I v → (∀ x ∈ xs, S.grant v x) →
    v'.roles = v.roles → v'.permissions = v.permissions → v'.rolePermissions = v.rolePermissions →
    (∀ x, x ∈ v'.userTenantRoles ↔ x ∈ v.userTenantRoles ∨ x ∈ xs) → I v'
  unassign : ∀ (v v' : Database) (p : UserTenantRole → Bool), I v →
    (∀ x, p x → S.owner (some x.tenantId)) → v'.toTables = v.dropAssignments p → I v'
  addRole : ∀ (v v' : Database) (r : Role), I v → S.owner r.tenantId →
    v'.toTables = v.addRole r → I v'
  modifyRole : ∀ (v v' : Database) (id : UUID) (f : Role → Role), I v →
    (∀ r, (f r).id = r.id ∧ (f r).tenantId = r.tenantId ∧ (f r).isSystemRole = r.isSystemRole) →
    v'.toTables = v.modifyRole id f → I v'
  dropRole : ∀ (v v' : Database) (id : UUID), I v → S.OwnsRole v id →
    v'.toTables = v.dropRole id → I v'
  permissions : ∀ (v v' : Database) (id : UUID), I v → S.OwnsRole v id → v'.roles = v.roles →
    v'.permissions = v.permissions → v'.userTenantRoles = v.userTenantRoles →
    (∀ x, x.roleId ≠ id → (x ∈ v'.rolePermissions ↔ x ∈ v.rolePermissions)) → I v'
  dropTenant : ∀ (v v' : Database) (id : UUID), I v → S.owner (some id) →
    v'.toTables = v.dropTenant id → I v'

end Scope

section Operations

variable {S : Scope} {I : Database → Prop} {env : Env} {v : Database}

theorem keeps_get {α : Type} (rows : Database → List α) (key : α → UUID) (id : UUID) :
    Keeps I (CRUDBase.get rows key id) := keeps_query _

/-- What follows may use the row that was read. -/
theorem keeps_get_bind {α β : Type} {rows : Database → List α} {key : α → UUID} {id : UUID}
    {k : Option α → Db β} (hk : ∀ v, I v → KeepsAt I v (k ((rows v).find? (key · = id)))) :
    Keeps I (CRUDBase.get rows key id >>= k) := keeps_query_bind hk

theorem keeps_refresh {α : Type} (rows : Database → List α) (key : α → UUID) (id : UUID) :
    Keeps I (CRUDBase.refresh rows key id) := by
  refine (keeps_get rows key id).bind fun r => ?_
  cases r with
  | none => exact keeps_throw _
  | some x => exact keeps_pure x

/-- A write that is flushed and read back. -/
theorem keeps_writeRow {α : Type} {rows : Database → List α} {key : α → UUID} {id : UUID}
    {w : Database → Except Exc Database} (hw : Keeps I (add w : Db Unit)) :
    Keeps I (CRUDBase.update rows key w id) :=
  hw.bind fun _ => keeps_flush.bind fun _ => keeps_refresh rows key id

/-- A write to tables that have nothing to do with roles. -/
theorem Scope.Closed.keeps_add_other (hI : S.Closed I) (f : Tables → Tables)
    (hr : ∀ t, (f t).roles = t.roles) (hp : ∀ t, (f t).permissions = t.permissions)
    (hrp : ∀ t, (f t).rolePermissions = t.rolePermissions)
    (ha : ∀ t, (f t).userTenantRoles = t.userTenantRoles) :
    Keeps I (add (·.change f) : Db Unit) := by
  refine keeps_add fun v v' hv hw => ?_
  have hv' := Database.change_eq_ok_iff.mp hw
  refine hI.other v v' hv ?_ ?_ ?_ ?_
  · rw [hv', hr]
  · rw [hv', hp]
  · rw [hv', hrp]
  · rw [hv', ha]

/-- Adding one assignment. -/
theorem Scope.Closed.addAssignment (hI : S.Closed I) {v' : Database} {x : UserTenantRole} (hv : I v)
    (hx : S.grant v x) (hw : v.change (Tables.addAssignment x) = .ok v') : I v' := by
  have hv' := Database.change_eq_ok_iff.mp hw
  refine hI.assign v v' [x] hv (fun y hy => ?_) ?_ ?_ ?_ fun y => ?_
  · rwa [List.mem_singleton.mp hy]
  · rw [hv']; rfl
  · rw [hv']; rfl
  · rw [hv']; rfl
  · rw [hv']
    exact List.mem_append

/-- An operation whose result is not looked at. -/
def ignore {α : Type} (x : Db α) : Db Unit := do
  let _ ← x
  pure ()

theorem run_ignore {α : Type} (x : Db α) (s : Session Database Exc) :
    ((ignore x).run s).2 = (x.run s).2 := by
  rw [ignore, run_bind]
  rcases x.run s with ⟨_ | _, s'⟩ <;> rfl

theorem keeps_ignore {α : Type} {x : Db α} (hx : Keeps I x) : Keeps I (ignore x) :=
  hx.bind fun _ => keeps_pure ()

/-! ## Users -/

theorem keeps_deleteAssignments (hI : S.Closed I) {p : UserTenantRole → Bool}
    (hp : ∀ x, p x → S.owner (some x.tenantId)) (autocommit : Bool) :
    Keeps I (UserService.deleteAssignments p autocommit) := by
  have hdrop : Keeps I (execute (·.change (Tables.dropAssignments p)) : Db Unit) :=
    keeps_execute fun v v' hv hw => hI.unassign v v' p hv hp (Database.change_eq_ok_iff.mp hw)
  refine (keeps_query _).bind fun n => hdrop.bind fun _ => ?_
  cases autocommit with
  | true => exact keeps_commit.bind fun _ => keeps_pure n
  | false => exact (keeps_pure ()).bind fun _ => keeps_pure n

theorem keeps_deleteUser (hI : S.Closed I) {tenantId : UUID} (ht : S.owner (some tenantId))
    (userId : UUID) (autocommit : Bool) :
    Keeps I (UserService.delete userId tenantId autocommit) := by
  refine keeps_deleteAssignments hI (fun x hx => ?_) autocommit
  rw [(of_decide_eq_true hx).2]
  exact ht

theorem keeps_removeRole (hI : S.Closed I) {tenantId : UUID} (ht : S.owner (some tenantId))
    (userId roleId : UUID) (autocommit : Bool) :
    Keeps I (UserService.removeRoleFromUserInTenant userId roleId tenantId autocommit) := by
  refine keeps_deleteAssignments hI (fun x hx => ?_) autocommit
  rw [(of_decide_eq_true hx).2.1]
  exact ht

/-- The handlers of the two services roll back and raise. -/
theorem keeps_handler {α : Type} {p : Prop} [Decidable p] (e e' : Exc) :
    Keeps I (do
      rollback
      if p then throw e else throw e' : Db α) := by
  refine keeps_rollback.bind fun _ => ?_
  split_ifs
  · exact keeps_throw e
  · exact keeps_throw e'

/-- The one write of an assignment is its new row. -/
theorem keeps_assignRole_of_add {userId roleId tenantId : UUID}
    (hadd : Keeps I (add (·.change (Tables.addAssignment ⟨userId, roleId, tenantId⟩)) : Db Unit))
    (autocommit : Bool) :
    Keeps I (UserService.assignRoleToUserInTenant env userId roleId tenantId autocommit) := by
  refine (keeps_query _).bind fun found => ?_
  cases found with
  | none => exact keeps_throw _
  | some u =>
    refine (keeps_query _).bind fun lookup => (keeps_lift lookup).bind fun role => ?_
    cases role with
    | none => exact keeps_throw _
    | some r =>
      refine (keeps_query _).bind fun assigned => ?_
      split_ifs
      · exact keeps_pure false
      · exact hadd.bind fun _ => Keeps.bind (Keeps.tryCatch keeps_commit
          fun e => keeps_handler _ _) fun _ => keeps_pure true
      · exact hadd.bind fun _ => Keeps.bind (Keeps.tryCatch (keeps_pure ())
          fun e => keeps_handler _ _) fun _ => keeps_pure true

/-- The role of an invitation is assigned, or the failure is only logged. -/
theorem keeps_assignInvitedRole {x : Invitation} {userId : UUID}
    (h : ∀ roleId ∈ x.roleId,
      Keeps I (UserService.assignRoleToUserInTenant env userId roleId x.tenantId false)) :
    Keeps I (InvitationService.assignInvitedRole env x userId) := by
  rw [InvitationService.assignInvitedRole]
  cases hrole : x.roleId with
  | none => exact keeps_pure ()
  | some roleId =>
    exact ((h roleId hrole).bind fun _ => keeps_pure ()).tryCatch fun _ => keeps_assertLive

theorem keeps_verifyToken_of {now : Time}
    (hset : ∀ id, Keeps I (InvitationService.setAttributes id Invitation.markExpired))
    (token : String) : Keeps I (InvitationService.verifyToken now token) := by
  refine (keeps_query _).bind fun found => ?_
  cases found with
  | none => exact keeps_pure none
  | some x =>
    dsimp only
    split_ifs
    · exact (hset x.id).bind fun _ => keeps_commit.bind fun _ => keeps_pure none
    · exact keeps_pure none
    · exact keeps_pure (some x)

theorem keeps_createInvitation_of {now : Time}
    (hadd : ∀ x, Keeps I (add (·.change (Tables.addInvitation x)) : Db Unit))
    (req : InvitationRequest) (newId : UUID) (newToken : String) :
    Keeps I (InvitationService.createInvitation req now newId newToken) := by
  refine (keeps_query _).bind fun found => ?_
  cases found with
  | some x => exact keeps_pure _
  | none =>
    exact (keeps_lift _).bind fun expiresAt => (hadd _).bind fun _ =>
      keeps_commit.bind fun _ => (keeps_refresh _ _ newId).bind fun _ => keeps_pure _

theorem keeps_revokeInvitation_of
    (hset : ∀ id, Keeps I (InvitationService.setAttributes id Invitation.markRevoked)) (id : UUID) :
    Keeps I (InvitationService.revokeInvitation id) := by
  refine (keeps_get _ _ id).bind fun found => ?_
  cases found with
  | none => exact keeps_pure none
  | some x =>
    dsimp only
    split_ifs
    · exact keeps_pure _
    · exact (hset x.id).bind fun _ => keeps_commit.bind fun _ =>
        (keeps_refresh _ _ x.id).bind fun _ => keeps_pure _

theorem keeps_acceptInvitation_of {now : Time} {userId : UUID}
    (hset : ∀ id f, Keeps I (InvitationService.setAttributes id f))
    (hassign : ∀ x, Keeps I (InvitationService.assignInvitedRole env x userId))
    (token : String) : Keeps I (InvitationService.acceptInvitation env now token userId) := by
  refine (keeps_verifyToken_of (fun id => hset id _) token).bind fun found => ?_
  cases found with
  | none => exact keeps_pure none
  | some x =>
    exact (hset x.id _).bind fun _ => (hassign x).bind fun _ =>
      keeps_commit.bind fun _ => (keeps_refresh _ _ x.id).bind fun y => keeps_pure (some y)

theorem keeps_createUser (hI : S.Closed I) {tenantId : UUID} (ht : S.owner (some tenantId))
    (objIn : UserCreate) (newId : UUID) (autocommit : Bool) :
    Keeps I (UserService.create env objIn tenantId newId autocommit) := by
  have huser : Keeps I (do
      add (·.change (Tables.addUser (objIn.row env newId)))
      flush
      CRUDBase.refresh (·.users) (·.id) newId : Db User) :=
    (hI.keeps_add_other (Tables.addUser (objIn.row env newId)) (fun _ => rfl) (fun _ => rfl)
      (fun _ => rfl) fun _ => rfl).bind fun _ =>
        keeps_flush.bind fun _ => keeps_refresh _ _ newId
  refine (huser.tryCatch fun e => keeps_handler _ _).bind fun dbUser => ?_
  refine keeps_query_bind fun v hv => ?_
  cases hf : v.roles.find? fun r => r.name = defaultRoleName ∧ r.tenantId = some tenantId with
  | none => exact (keeps_throw _).keepsAt hv
  | some r =>
    have hp := List.find?_some hf
    have hten := (of_decide_eq_true hp).2
    have hgrant := S.grant_of_accessible v ⟨dbUser.id, r.id, tenantId⟩ r
      (List.mem_of_find?_eq_some hf) rfl (.inr hten) ht
    have hadd : KeepsAt I v (do
        add (·.change (Tables.addAssignment ⟨dbUser.id, r.id, tenantId⟩))
        flush : Db Unit) :=
      (keepsAt_add hv fun v' hw => hI.addAssignment hv hgrant hw).bind fun _ => keeps_flush
    refine (keepsAt_tryCatch hadd fun e => keeps_handler _ _).bind fun _ => ?_
    cases autocommit with
    | true => exact keeps_commit.bind fun _ => keeps_pure dbUser
    | false => exact (keeps_pure ()).bind fun _ => keeps_pure dbUser

/-- The role lookup that the repository does not define finds roles that can be
given out. -/
def Scope.Trusts (S : Scope) (env : Env) (tenantId : UUID) : Prop :=
  ∀ d userId roleId r, env.getRoleByIdAndTenant d roleId tenantId = .ok (some r) →
    S.grant d ⟨userId, roleId, tenantId⟩

theorem keeps_assignRole (hI : S.Closed I) {tenantId : UUID} (hl : S.Trusts env tenantId)
    (userId roleId : UUID) (autocommit : Bool) :
    Keeps I (UserService.assignRoleToUserInTenant env userId roleId tenantId autocommit) := by
  refine keeps_query_bind fun v hv => ?_
  cases UserService.byIdAndTenant v userId tenantId with
  | none => exact (keeps_throw _).keepsAt hv
  | some u =>
    refine keepsAt_query_bind (keepsAt_lift_bind hv fun found hfound => ?_)
    cases found with
    | none => exact (keeps_throw _).keepsAt hv
    | some r =>
      have hcommit : Keeps I (if autocommit then commit else pure () : Db Unit) := by
        split_ifs
        · exact keeps_commit
        · exact keeps_pure ()
      refine keepsAt_query_bind ?_
      cases v.userTenantRoles.any (· = ⟨userId, roleId, tenantId⟩) with
      | true => exact (keeps_pure false).keepsAt hv
      | false =>
        refine (keepsAt_add hv fun v' hw => ?_).bind fun _ =>
          (hcommit.tryCatch fun e => keeps_handler _ _).bind fun _ => keeps_pure true
        exact hI.addAssignment hv (hl v userId roleId r hfound) hw

/-! ## Roles -/

/-- What happens to the permissions of a role in scope. -/
theorem Scope.Closed.permissionChange (hI : S.Closed I) {v' : Database} {roleId : UUID}
    (hv : I v) (hown : S.OwnsRole v roleId) {ids : List UUID}
    (hw : RoleService.permissionChange roleId ids v = .ok v') : I v' := by
  have hv' := RoleService.permissions_of_permissionChange hw
  refine hI.permissions v v' roleId hv hown (RoleService.roles_of_permissionChange hw)
    (by rw [hv']; rfl) (by rw [hv']; rfl) fun x hx => ?_
  have hne : x ∉ ids.map (⟨roleId, ·⟩) := by
    intro hm
    obtain ⟨p, -, rfl⟩ := List.mem_map.mp hm
    exact hx rfl
  simp [hv', Tables.addRolePermissions, Tables.dropRolePermissions, hne, hx]

theorem keepsAt_setRolePermissions (hI : S.Closed I) {roleId : UUID} (hv : I v)
    (hown : S.OwnsRole v roleId) (ids : List UUID) :
    KeepsAt I v (RoleService.setRolePermissions roleId ids) := by
  obtain ⟨v', hp, hret⟩ | hrev := RoleService.setRolePermissions_cases roleId ids v
  · exact hret.keepsAt (hI.permissionChange hv hown hp)
  · exact hrev.keepsAt

theorem keeps_refreshPermissions : Keeps I (RoleService.refreshPermissions env) := keeps_lift _

/-- The last steps of an update of a role. -/
theorem keeps_commitRole (r : Role) : Keeps I (do
    commit
    RoleService.refreshPermissions env
    pure r : Db Role) :=
  keeps_commit.bind fun _ => keeps_refreshPermissions.bind fun _ => keeps_pure r

theorem keeps_createRole (hI : S.Closed I) {tenantId : UUID} (ht : S.owner (some tenantId))
    (objIn : RoleCreate) (newId : UUID) :
    Keeps I (RoleService.createCustomRole env objIn tenantId newId) := by
  refine keeps_query_bind fun v hv => ?_
  cases v.roles.find? fun r => r.name = objIn.name ∧ r.tenantId = some tenantId with
  | some r => exact (keeps_throw _).keepsAt hv
  | none =>
    refine keepsAt_add_bind (autoflush_commit.bind _) fun v' hw => ?_
    have hv' := Database.change_eq_ok_iff.mp hw
    have hI' : I v' := hI.addRole v v' _ hv ht hv'
    refine keepsAt_commit_bind hI' ?_
    -- the new role is the only one with its id
    have hown : S.OwnsRole v' newId := by
      intro r hr hid
      have hnew : objIn.row newId tenantId ∈ v'.roles := by
        rw [hv']
        exact List.mem_append_right _ (List.mem_singleton.mpr rfl)
      rw [Rows.eq_of_key_eq v'.valid.keys.rolesId hr hnew hid]
      exact ht
    have hlast : Keeps I (do
        RoleService.refreshPermissions env
        pure (objIn.row newId tenantId) : Db Role) :=
      keeps_refreshPermissions.bind fun _ => keeps_pure _
    rw [RoleService.completeCustomRole]
    split_ifs
    · exact hlast.keepsAt hI'
    · exact (keepsAt_setRolePermissions hI hI' hown _).bind fun _ =>
        keeps_commit.bind fun _ => hlast

/-- An update of a role keeps its id, its tenant and its kind. -/
theorem Scope.Closed.roleStatement (hI : S.Closed I) {v' : Database} {dbObj : Role}
    {objIn : RoleUpdate} (hv : I v) (hw : objIn.statement dbObj v = .ok v') : I v' := by
  rw [RoleUpdate.statement] at hw
  split_ifs at hw
  · cases hw
    exact hv
  · exact hI.modifyRole v v' _ (objIn.changes dbObj) hv (fun _ => ⟨rfl, rfl, rfl⟩)
      (Database.change_eq_ok_iff.mp hw)

theorem keepsAt_updateRole (hI : S.Closed I) {dbObj : Role} (hv : I v)
    (hown : S.OwnsRole v dbObj.id) (objIn : RoleUpdate) :
    KeepsAt I v (RoleService.updateCustomRole env dbObj objIn) := by
  have hlast : ∀ {v : Database}, I v →
      KeepsAt I v (RoleService.storeCustomRole env dbObj objIn) := fun hv =>
    (keepsAt_add hv fun _ hw => hI.roleStatement hv hw).bind fun _ => keeps_commitRole _
  rw [RoleService.updateCustomRole]
  split_ifs
  · exact (keeps_throw _).keepsAt hv
  · cases objIn.permissionIds with
    | none => exact hlast hv
    | some ids =>
      obtain ⟨v', hp, hret⟩ | hrev := RoleService.setRolePermissions_cases dbObj.id ids v
      · exact hret.bind_keepsAt (hlast (hI.permissionChange hv hown hp))
      · exact (hrev.bind _).keepsAt

/-- With every role in scope the object need not be a stored one. -/
theorem keeps_updateRole (hI : S.Closed I) (hown : ∀ t, S.owner t) (dbObj : Role)
    (objIn : RoleUpdate) : Keeps I (RoleService.updateCustomRole env dbObj objIn) := by
  cases hsys : dbObj.isSystemRole with
  | true =>
    rw [RoleService.updateCustomRole, if_pos hsys]
    exact keeps_throw _
  | false =>
    exact keeps_of_autoflush (RoleService.autoflush_updateCustomRole hsys) fun v hv =>
      keepsAt_updateRole hI hv (fun r _ _ => hown r.tenantId) objIn

theorem keeps_deleteRole (hI : S.Closed I) {tenantId : UUID} (ht : S.owner (some tenantId))
    (roleId : UUID) : Keeps I (RoleService.deleteCustomRole roleId tenantId) := by
  refine keeps_get_bind fun v hv => ?_
  cases hf : v.roles.find? (·.id = roleId) with
  | none => exact (keeps_pure none).keepsAt hv
  | some role =>
    obtain ⟨hmem, hid⟩ := (Rows.find?_key_eq_some v.valid.keys.rolesId).mp hf
    dsimp only
    by_cases hsys : role.isSystemRole
    · rw [if_pos hsys]
      exact (keeps_throw _).keepsAt hv
    by_cases hten : role.tenantId ≠ some tenantId
    · rw [if_neg hsys, if_pos hten]
      exact (keeps_throw _).keepsAt hv
    have hown : S.OwnsRole v roleId := by
      intro r hr hrid
      rw [Rows.eq_of_key_eq v.valid.keys.rolesId hr hmem (hrid.trans hid.symm), not_not.mp hten]
      exact ht
    rw [if_neg hsys, if_neg hten]
    refine keepsAt_query_bind ?_
    split_ifs
    · exact (keeps_throw _).keepsAt hv
    · refine (keepsAt_add hv fun v' hw => ?_).bind fun _ => keeps_commit.bind fun _ => keeps_pure _
      exact hI.dropRole v v' roleId hv hown (Database.change_eq_ok_iff.mp hw)

theorem keeps_setUsersForRole (hI : S.Closed I) {tenantId : UUID} (ht : S.owner (some tenantId))
    (roleId : UUID) (userIds : List UUID) :
    Keeps I (RoleService.setUsersForRole roleId tenantId userIds) := by
  have hlast : Keeps I (do
      commit
      pure userIds : Db (List UUID)) := keeps_commit.bind fun _ => keeps_pure _
  refine keeps_get_bind fun v hv => ?_
  cases hf : v.roles.find? (·.id = roleId) with
  | none => exact (keeps_throw _).keepsAt hv
  | some role =>
    obtain ⟨hmem, hid⟩ := (Rows.find?_key_eq_some v.valid.keys.rolesId).mp hf
    dsimp only
    by_cases hno : ¬role.isSystemRole ∧ role.tenantId ≠ some tenantId
    · rw [if_pos hno]
      exact (keeps_throw _).keepsAt hv
    have hacc : RoleService.Accessible role tenantId := by
      simpa only [RoleService.Accessible, not_and_or, not_not, ne_eq] using hno
    rw [if_neg hno]
    refine keepsAt_execute_bind fun v₁ hw₁ => ?_
    have hv₁' := Database.change_eq_ok_iff.mp hw₁
    have hv₁ : I v₁ := by
      refine hI.unassign v v₁ _ hv (fun x hx => ?_) hv₁'
      rw [(of_decide_eq_true hx).2]
      exact ht
    split_ifs
    · exact ((keeps_pure ()).bind fun _ => hlast).keepsAt hv₁
    · refine (keepsAt_tryCatch (keepsAt_execute fun v₂ hw₂ => ?_) fun e => ?_).bind fun _ => hlast
      · have hv₂ := Database.change_eq_ok_iff.mp hw₂
        refine hI.assign v₁ v₂ (userIds.map (⟨·, roleId, tenantId⟩)) hv₁ (fun x hx => ?_) ?_ ?_ ?_
          fun x => ?_
        · obtain ⟨u, -, rfl⟩ := List.mem_map.mp hx
          refine S.grant_of_accessible v₁ _ role ?_ hid hacc ht
          rw [hv₁']
          exact hmem
        · rw [hv₂]; rfl
        · rw [hv₂]; rfl
        · rw [hv₂]; rfl
        · rw [hv₂]
          exact Rows.mem_insertNew
      · exact keeps_rollback.bind fun _ => keeps_throw _

/-- The tenant that was found has the id of the path. -/
theorem keeps_getTenantFromPath_bind {β : Type} {tenantId : UUID} {k : Tenant → Db β}
    (hk : ∀ t, t.id = tenantId → Keeps I (k t)) :
    Keeps I (Deps.getTenantFromPath tenantId >>= k) := by
  rw [Deps.getTenantFromPath, bind_bind]
  refine keeps_get_bind fun v hv => ?_
  cases hf : v.tenants.find? (·.id = tenantId) with
  | none => exact fun c hc => Session.inv_clean hc hv
  | some t =>
    obtain ⟨-, hid⟩ := (Rows.find?_key_eq_some v.valid.keys.tenantsId).mp hf
    exact (hk t hid).keepsAt hv

/-- The update endpoint reaches the service for a custom role of the tenant only. -/
theorem keeps_updateRoleEndpoint (hI : S.Closed I) {tenantId : UUID} (ht : S.owner (some tenantId))
    (h : Headers) (roleId : UUID) (roleIn : RoleUpdate) :
    Keeps I (Endpoints.updateCustomRoleInTenant env h tenantId roleId roleIn) := by
  refine keeps_getTenantFromPath_bind fun tenant hid => (keeps_lift _).bind fun _ =>
    keeps_get_bind fun v hv => ?_
  cases hf : v.roles.find? (·.id = roleId) with
  | none => exact (keeps_throw _).keepsAt hv
  | some role =>
    obtain ⟨hmem, hrid⟩ := (Rows.find?_key_eq_some v.valid.keys.rolesId).mp hf
    dsimp only
    by_cases hten : role.tenantId ≠ some tenant.id
    · rw [if_pos hten]
      exact (keeps_throw _).keepsAt hv
    rw [if_neg hten]
    split_ifs
    · exact (keeps_throw _).keepsAt hv
    · have hown : S.OwnsRole v role.id := by
        intro r hr hrid'
        rw [Rows.eq_of_key_eq v.valid.keys.rolesId hr hmem hrid', not_not.mp hten, hid]
        exact ht
      refine keepsAt_tryCatch ((keepsAt_updateRole hI hv hown roleIn).bind fun updated => ?_)
        fun e => ?_
      · exact Endpoints.keeps_roleDetail _ _
      · obtain ⟨e', he'⟩ := Endpoints.reraise_throws "Could not update role." e
        rw [he']
        exact keeps_throw e'

/-! ## Tenants and invitations -/

theorem keeps_deleteTenant (hI : S.Closed I) {tenantId : UUID} (ht : S.owner (some tenantId)) :
    Keeps I (TenantService.delete tenantId) := by
  refine keeps_get_bind fun v hv => ?_
  cases v.tenants.find? (·.id = tenantId) with
  | none => exact (keeps_pure none).keepsAt hv
  | some t =>
    refine (keepsAt_add hv fun v' hw => ?_).bind fun _ => keeps_flush.bind fun _ => keeps_pure _
    exact hI.dropTenant v v' tenantId hv ht (Database.change_eq_ok_iff.mp hw)

theorem keeps_setAttributes (hI : S.Closed I) (id : UUID) (f : Invitation → Invitation) :
    Keeps I (InvitationService.setAttributes id f) :=
  hI.keeps_add_other (Tables.modifyInvitation id f) (fun _ => rfl) (fun _ => rfl) (fun _ => rfl)
    fun _ => rfl

theorem keeps_acceptInvitation (hI : S.Closed I) (hl : ∀ tenantId, S.Trusts env tenantId)
    (now : Time) (token : String) (userId : UUID) :
    Keeps I (InvitationService.acceptInvitation env now token userId) := by
  refine keeps_acceptInvitation_of (keeps_setAttributes hI) (fun x => ?_) token
  exact keeps_assignInvitedRole fun roleId _ =>
    keeps_assignRole hI (hl x.tenantId) userId roleId false

end Operations

end VirtualStack
