import VirtualStack.Deactivation
import VirtualStack.Endpoints.Auth
import VirtualStack.Endpoints.Roles
import VirtualStack.Endpoints.TenantUsers
import VirtualStack.KeyUse
import VirtualStack.RbacWrites

/-!
# What the operations write to the users, and read of the keys

Almost nothing: only two operations of the services add and update a user, and
when a key was last used is shown to its owner and not read otherwise. Every
dependency and every other operation respects a relation of stores that are
alike. They are taken in the order of the modules that they come from.
-/

namespace VirtualStack
open UnitOfWork

/-- The property speaks of the stored users only. -/
def OnUsers (I : Database → Prop) : Prop := ∀ v v' : Database, v'.users = v.users → I v → I v'

/-- One store with such a property is like itself. -/
theorem OnUsers.alike {I : Database → Prop} (hI : OnUsers I) (env : Env) :
    Alike env fun v v' => v = v' ∧ I v where
  forgetUse _ _ h := congrArg Database.forgetUse h.1
  roleLookup _ _ h := congrArg env.getRoleByIdAndTenant h.1
  change f hu _ := by
    rintro v _ ⟨rfl, hv⟩
    cases hw : v.change f with
    | error e => exact .error e
    | ok v' =>
      refine .ok ⟨rfl, hI v v' ?_ hv⟩
      rw [Database.change_eq_ok_iff.mp hw]
      exact hu v.toTables

section Operations

variable {E : Database → Database → Prop} {env : Env} {now : Time} {h : Headers}
  {α β : Type}

/-- How the results are related does not matter when they are not looked at. -/
theorem related_ignore {R : α → α → Prop} {x : Db α} (hx : Related E R x x) :
    Respects E (ignore x) := hx.bind fun _ _ _ => respects_pure ()

theorem respects_ignore {x : Db α} (hx : Respects E x) : Respects E (ignore x) :=
  related_ignore hx

/-! ## The generic operations -/

theorem Alike.respects_get (hE : Alike env E) {rows : Database → List α} (key : α → UUID)
    (hrows : ∀ v : Database, rows v = rows v.forgetUse) (id : UUID) :
    Respects E (CRUDBase.get rows key id) :=
  hE.respects_query fun v => by rw [hrows v]

theorem Alike.respects_refresh (hE : Alike env E) {rows : Database → List α} (key : α → UUID)
    (hrows : ∀ v : Database, rows v = rows v.forgetUse) (id : UUID) :
    Respects E (CRUDBase.refresh rows key id) := by
  refine (hE.respects_get key hrows id).bind fun found => ?_
  cases found with
  | none => exact respects_throw _
  | some x => exact respects_pure x

/-- A write that is flushed and read back. -/
theorem Alike.respects_writeRow (hE : Alike env E) {rows : Database → List α} (key : α → UUID)
    (hrows : ∀ v : Database, rows v = rows v.forgetUse) {w : Database → Except Exc Database}
    (hw : RelatedWrites E w w) (id : UUID) : Respects E (CRUDBase.update rows key w id) :=
  (related_add hw).bind fun _ _ _ => respects_flush.bind fun _ => hE.respects_refresh key hrows id

theorem Alike.respects_deleteRow (hE : Alike env E) {rows : Database → List α} (key : α → UUID)
    (hrows : ∀ v : Database, rows v = rows v.forgetUse) {w : Database → Except Exc Database}
    (hw : RelatedWrites E w w) (id : UUID) : Respects E (CRUDBase.delete rows key w id) := by
  refine (hE.respects_get key hrows id).bind fun found => ?_
  cases found with
  | none => exact respects_pure none
  | some x =>
    exact (related_add hw).bind fun _ _ _ => respects_flush.bind fun _ => respects_pure (some x)

/-- The handlers of the services roll back and raise. -/
theorem related_handler {R : α → α → Prop} {p : Prop} [Decidable p] (e e' : Exc) : Related E R (do
      rollback
      if p then throw e else throw e' : Db α) (do
      rollback
      if p then throw e else throw e') := by
  refine related_rollback.bind fun _ => ?_
  split_ifs
  · exact related_throw e
  · exact related_throw e'

/-! ## The keys -/

/-- Two readings of a key, which may have been used in between. -/
def APIKey.Same (k k' : APIKey) : Prop := k.forgetUse = k'.forgetUse

theorem APIKey.Same.congr {k k' : APIKey} (hk : k.Same k') {f : APIKey → α}
    (hf : ∀ k : APIKey, f k = f k.forgetUse) : f k = f k' := by
  rw [hf k, hf k', hk]

theorem Alike.related_findKey (hE : Alike env E) {p : APIKey → Bool}
    (hp : ∀ k : APIKey, p k.forgetUse = p k) :
    Related E (Option.Rel APIKey.Same) (query fun d : Database => d.apiKeys.find? p : Db _)
      (query fun d : Database => d.apiKeys.find? p) := by
  refine related_query fun v v' h => ?_
  have hmap : ∀ v : Database, (v.apiKeys.find? p).map APIKey.forgetUse =
      v.forgetUse.apiKeys.find? p := by
    intro v
    change _ = (v.apiKeys.map APIKey.forgetUse).find? p
    rw [List.find?_map]
    congr 2
    exact funext fun k => (hp k).symm
  have heq : (v.apiKeys.find? p).map APIKey.forgetUse =
      (v'.apiKeys.find? p).map APIKey.forgetUse := by
    rw [hmap, hmap, hE.forgetUse v v' h]
  generalize v.apiKeys.find? p = found at heq ⊢
  generalize v'.apiKeys.find? p = found' at heq ⊢
  cases found with
  | none =>
    cases found' with
    | none => exact .none
    | some k' => cases heq
  | some k =>
    cases found' with
    | none => cases heq
    | some k' => exact .some (Option.some.inj heq)

theorem Alike.related_getKey (hE : Alike env E) (id : UUID) :
    Related E (Option.Rel APIKey.Same) (APIKeyService.get id) (APIKeyService.get id) :=
  hE.related_findKey fun _ => rfl

theorem Alike.related_refreshKey (hE : Alike env E) (id : UUID) :
    Related E APIKey.Same (CRUDBase.refresh (·.apiKeys) (·.id) id : Db APIKey)
      (CRUDBase.refresh (·.apiKeys) (·.id) id) := by
  refine (hE.related_getKey id).bind fun found found' hf => ?_
  cases hf with
  | none => exact related_throw _
  | some hk => exact related_pure hk

theorem Alike.writes_touch (hE : Alike env E) (id : UUID) (now : Time) :
    RelatedWrites E (Database.change (Tables.modifyAPIKey id (APIKey.touch now)))
      (Database.change (Tables.modifyAPIKey id (APIKey.touch now))) :=
  hE.change _ (fun _ => rfl) fun t t' h => by
    rw [Tables.forgetUse_touch, Tables.forgetUse_touch, h]

theorem Alike.writes_apiKeyUpdate (hE : Alike env E) (body : APIKeyUpdate) (id : UUID) :
    RelatedWrites E (body.statement env id) (body.statement env id) := by
  intro v v' hv
  rw [APIKeyUpdate.statement, APIKeyUpdate.statement]
  split_ifs
  · exact .error _
  · exact hE.change (Tables.modifyAPIKey id (body.apply env)) (fun _ => rfl)
      (fun t t' h => Tables.forgetUse_modifyAPIKey h id fun _ => rfl) v v' hv

theorem Alike.writes_dropAPIKey (hE : Alike env E) (id : UUID) :
    RelatedWrites E (Database.change (Tables.dropAPIKey id))
      (Database.change (Tables.dropAPIKey id)) := by
  refine hE.writes (fun _ => rfl) fun t => ?_
  rw [Tables.forgetUse, Tables.forgetUse, Tables.dropAPIKey, Tables.dropAPIKey]
  simp only [List.filter_map]
  rfl

theorem Alike.writes_addAPIKey (hE : Alike env E) {k : APIKey} (hk : k.forgetUse = k) :
    RelatedWrites E (Database.change (Tables.addAPIKey k))
      (Database.change (Tables.addAPIKey k)) := by
  refine hE.writes (fun _ => rfl) fun t => ?_
  simp only [Tables.forgetUse, Tables.addAPIKey, List.map_append, List.map_singleton, hk]

theorem Alike.respects_validateAPIKey (hE : Alike env E) (apiKey : String) :
    Respects E (APIKeyService.validateAPIKey env now apiKey) := by
  rw [APIKeyService.validateAPIKey]
  split_ifs
  · exact respects_pure none
  refine (hE.related_findKey fun _ => rfl).bind fun found found' hf => ?_
  cases hf with
  | none => exact respects_pure none
  | @some k k' hk =>
    -- only the columns that both readings share are used
    have hid : k.id = k'.id := hk.congr fun _ => rfl
    have huser : k.userId = k'.userId := hk.congr fun _ => rfl
    have htouch : k.touch now = k'.touch now := hk.congr fun _ => rfl
    have hexpired : APIKeyService.isExpired now k = APIKeyService.isExpired now k' :=
      hk.congr fun _ => rfl
    dsimp only
    rw [hexpired, hid, huser, htouch]
    refine (respects_lift _).bind fun expired => ?_
    split_ifs
    · exact respects_pure none
    · refine (related_add (hE.writes_touch _ _)).bind fun _ _ _ =>
        (hE.respects_query fun _ => rfl).bind fun owner => ?_
      cases owner with
      | none => exact respects_pure none
      | some u => exact respects_pure _

/-! ## The dependencies -/

theorem Alike.respects_getCurrentUserFromToken (hE : Alike env E) :
    Respects E (Deps.getCurrentUserFromToken env now h) := by
  rw [Deps.getCurrentUserFromToken]
  split_ifs
  · exact respects_pure none
  refine Related.tryCatch ((respects_lift _).bind fun payload => ?_) fun e => ?_
  · cases payload with
    | none => exact respects_throw _
    | some payload =>
      obtain ⟨_ | _ | _⟩ := payload
      · exact respects_throw _
      · refine (hE.respects_get _ (fun _ => rfl) _).bind fun found => ?_
        cases found with
        | none => exact respects_throw _
        | some u => exact respects_pure _
      · exact respects_throw _
  · split_ifs
    · exact respects_throw _
    · exact respects_throw _

theorem Alike.respects_getCurrentUser (hE : Alike env E) :
    Respects E (Deps.getCurrentUser env now h) := by
  have hkey : Respects E (Deps.getCurrentUserFromAPIKey env now h) := by
    rw [Deps.getCurrentUserFromAPIKey]
    split_ifs
    · exact respects_pure none
    refine (hE.respects_validateAPIKey h.apiKey).bind fun found => ?_
    cases found with
    | none => exact respects_throw _
    | some ku => exact respects_pure _
  refine hE.respects_getCurrentUserFromToken.bind fun tokenUser => hkey.bind fun apiKeyUser => ?_
  cases tokenUser.or apiKeyUser with
  | none => exact respects_throw _
  | some u => exact respects_pure u

theorem Alike.respects_getCurrentActiveUser (hE : Alike env E) :
    Respects E (Deps.getCurrentActiveUser env now h) := by
  refine hE.respects_getCurrentUser.bind fun u => ?_
  split_ifs
  · exact respects_pure u
  · exact respects_throw _

theorem Alike.respects_getTenantFromPath (hE : Alike env E) (tenantId : UUID) :
    Respects E (Deps.getTenantFromPath tenantId) := by
  refine (hE.respects_get _ (fun _ => rfl) tenantId).bind fun found => ?_
  cases found with
  | none => exact respects_throw _
  | some t => exact respects_pure t

theorem Alike.respects_getCurrentActiveTenant (hE : Alike env E) (u : User) :
    Respects E (Deps.getCurrentActiveTenant h u) := by
  rw [Deps.getCurrentActiveTenant]
  cases h.xTenantId with
  | none => exact respects_throw _
  | some id =>
    cases id with
    | malformed => exact respects_throw _
    | valid tenantId =>
      refine (hE.respects_get _ (fun _ => rfl) tenantId).bind fun found => ?_
      cases found with
      | none => exact respects_throw _
      | some t =>
        dsimp only
        split_ifs
        · exact respects_pure t
        · refine (hE.respects_query fun _ => rfl).bind fun member => ?_
          split_ifs
          · exact respects_pure t
          · exact respects_throw _

theorem Alike.respects_requirePermissionInActiveTenant (hE : Alike env E) (p : Permission) :
    Respects E (Deps.requirePermissionInActiveTenant env now h p) := by
  refine hE.respects_getCurrentActiveUser.bind fun u =>
    (hE.respects_getCurrentActiveTenant u).bind fun t => ?_
  split_ifs
  · exact respects_pure _
  · refine (hE.respects_query fun _ => rfl).bind fun permitted => ?_
    split_ifs
    · exact respects_pure _
    · exact respects_throw _

theorem respects_handle {x : Db α} (hx : Respects E x) : Respects E (Deps.handle h x) := by
  refine Respects.bind ?_ fun _ => hx
  rw [Deps.tenantContext]
  split_ifs
  · exact respects_throw _
  · exact respects_pure ()

/-! ## The services -/

/-- Any two results, where the keys are shown as they are. -/
abbrev Quiet (E : Database → Database → Prop) (x : Db α) : Prop := Related E (fun _ _ => True) x x

theorem Alike.quiet_createWithUser (hE : Alike env E) (objIn : APIKeyCreate) (userId : UUID)
    (tenantId : Option UUID) (newId : UUID) (token : UrlsafeText) :
    Quiet E (APIKeyService.createWithUser env objIn userId tenantId newId token) := by
  refine (respects_lift _).bind fun keyTenant => (respects_lift _).bind fun expiresAt =>
    Related.tryCatch ?_ fun e => related_handler _ _
  refine (related_add (hE.writes_addAPIKey rfl)).bind fun _ _ _ => respects_commit.bind fun _ =>
    (hE.related_refreshKey newId).bind fun k k' hk => ?_
  rw [hk.congr (f := APIKey.id) fun _ => rfl]
  refine (hE.related_getKey k'.id).bind fun found found' hf => ?_
  cases hf with
  | none => exact related_throw _
  | @some k k' hk =>
    dsimp only
    rw [hk.congr (f := APIKey.id) fun _ => rfl]
    exact (hE.related_refreshKey k'.id).bind fun _ _ _ => related_pure trivial

/-- Whether a page can be shown depends on its bounds only. -/
theorem quiet_select (p : APIKey → Bool) (skip limit : ℤ) :
    Quiet E (APIKeyService.select p skip limit) := by
  refine Related.bind (R := SameOutcome fun _ _ => True) (related_query fun v v' _ => ?_)
    fun r q hrq => related_lift hrq
  rw [APIKeyService.page, APIKeyService.page]
  split_ifs
  · exact .error _
  · exact .ok trivial

theorem Alike.writes_tenantUpdate (hE : Alike env E) (body : TenantUpdate) (id : UUID) :
    RelatedWrites E (body.statement id) (body.statement id) := by
  intro v v' hv
  rw [TenantUpdate.statement, TenantUpdate.statement]
  split_ifs
  · exact .error _
  · exact hE.writes (f := Tables.modifyTenant id body.apply) (fun _ => rfl) (fun _ => rfl) v v' hv

theorem Alike.writes_dropTenant (hE : Alike env E) (id : UUID) :
    RelatedWrites E (Database.change (Tables.dropTenant id))
      (Database.change (Tables.dropTenant id)) := by
  refine hE.writes (fun _ => rfl) fun t => ?_
  rw [Tables.forgetUse, Tables.forgetUse, Tables.dropTenant, Tables.dropTenant]
  simp only [List.filter_map]
  rfl

theorem Alike.writes_roleUpdate (hE : Alike env E) (body : RoleUpdate) (dbObj : Role) :
    RelatedWrites E (body.statement dbObj) (body.statement dbObj) := by
  intro v v' hv
  have hroles : v.forgetUse.roles = v'.forgetUse.roles := by rw [hE.forgetUse v v' hv]
  change v.roles = v'.roles at hroles
  rw [RoleUpdate.statement, RoleUpdate.statement, hroles]
  split_ifs
  · exact .error _
  · exact .ok hv
  · exact hE.writes (f := Tables.modifyRole dbObj.id (body.changes dbObj)) (fun _ => rfl)
      (fun _ => rfl) v v' hv
  · exact .error _

theorem Alike.respects_setRolePermissions (hE : Alike env E) (roleId : UUID) (ids : List UUID) :
    Respects E (RoleService.setRolePermissions roleId ids) := by
  refine (hE.respects_execute (f := Tables.dropRolePermissions roleId) (fun _ => rfl)
    fun _ => rfl).bind fun _ => ?_
  split_ifs
  · exact respects_pure ()
  · refine (hE.respects_execute (f := Tables.addRolePermissions _) (fun _ => rfl)
      fun _ => rfl).tryCatch fun e => ?_
    split_ifs
    · exact related_rollback.bind fun _ => respects_throw _
    · exact respects_throw _

theorem Alike.respects_createCustomRole (hE : Alike env E) (objIn : RoleCreate)
    (tenantId newId : UUID) :
    Respects E (RoleService.createCustomRole env objIn tenantId newId) := by
  have hlast : ∀ role : Role, Respects E (do
      RoleService.refreshPermissions env
      pure role : Db Role) := fun role => (respects_lift _).bind fun _ => respects_pure role
  refine (hE.respects_query fun _ => rfl).bind fun found => ?_
  cases found with
  | some r => exact respects_throw _
  | none =>
    refine (hE.respects_add (f := Tables.addRole _) (fun _ => rfl) fun _ => rfl).bind fun _ =>
      respects_commit.bind fun _ => ?_
    rw [RoleService.completeCustomRole]
    split_ifs
    · exact (respects_pure ()).bind fun _ => hlast _
    · exact (hE.respects_setRolePermissions _ _).bind fun _ =>
        respects_commit.bind fun _ => hlast _

theorem Alike.respects_updateCustomRole (hE : Alike env E) (dbObj : Role) (objIn : RoleUpdate) :
    Respects E (RoleService.updateCustomRole env dbObj objIn) := by
  have hlast : Respects E (RoleService.storeCustomRole env dbObj objIn) :=
    (related_add (hE.writes_roleUpdate objIn dbObj)).bind fun _ _ _ =>
      respects_commit.bind fun _ => (respects_lift _).bind fun _ => respects_pure _
  rw [RoleService.updateCustomRole]
  split_ifs
  · exact respects_throw _
  · cases objIn.permissionIds with
    | none => exact (respects_pure ()).bind fun _ => hlast
    | some ids => exact (hE.respects_setRolePermissions dbObj.id ids).bind fun _ => hlast

theorem Alike.respects_deleteCustomRole (hE : Alike env E) (roleId tenantId : UUID) :
    Respects E (RoleService.deleteCustomRole roleId tenantId) := by
  refine (hE.respects_get _ (fun _ => rfl) roleId).bind fun found => ?_
  cases found with
  | none => exact respects_pure none
  | some role =>
    dsimp only
    split_ifs
    · exact respects_throw _
    · exact respects_throw _
    · refine (hE.respects_query fun _ => rfl).bind fun assigned => ?_
      split_ifs
      · exact respects_throw _
      · exact (hE.respects_add (f := Tables.dropRole roleId) (fun _ => rfl) fun _ => rfl).bind
          fun _ => respects_commit.bind fun _ => respects_pure _

theorem Alike.respects_setUsersForRole (hE : Alike env E) (roleId tenantId : UUID)
    (userIds : List UUID) :
    Respects E (RoleService.setUsersForRole roleId tenantId userIds) := by
  have hlast : Respects E (do
      commit
      pure userIds : Db (List UUID)) := respects_commit.bind fun _ => respects_pure _
  refine (hE.respects_get _ (fun _ => rfl) roleId).bind fun found => ?_
  cases found with
  | none => exact respects_throw _
  | some role =>
    dsimp only
    split_ifs
    · exact respects_throw _
    · exact (hE.respects_execute (f := Tables.dropAssignments _) (fun _ => rfl)
        fun _ => rfl).bind fun _ => hlast
    · refine (hE.respects_execute (f := Tables.dropAssignments _) (fun _ => rfl)
        fun _ => rfl).bind fun _ => ?_
      exact ((hE.respects_execute (f := Tables.addNewAssignments _) (fun _ => rfl)
        fun _ => rfl).tryCatch fun _ => related_rollback.bind fun _ =>
          respects_throw _).bind fun _ _ _ => hlast

theorem Alike.respects_deleteAssignments (hE : Alike env E) (p : UserTenantRole → Bool)
    (autocommit : Bool) : Respects E (UserService.deleteAssignments p autocommit) := by
  refine (hE.respects_query fun _ => rfl).bind fun n =>
    (hE.respects_execute (f := Tables.dropAssignments p) (fun _ => rfl) fun _ => rfl).bind
      fun _ => ?_
  cases autocommit with
  | true => exact respects_commit.bind fun _ => respects_pure n
  | false => exact (respects_pure ()).bind fun _ => respects_pure n

theorem Alike.respects_assignRole (hE : Alike env E) (userId roleId tenantId : UUID)
    (autocommit : Bool) :
    Respects E (UserService.assignRoleToUserInTenant env userId roleId tenantId autocommit) := by
  refine (hE.respects_query fun _ => rfl).bind fun found => ?_
  cases found with
  | none => exact respects_throw _
  | some u =>
    have hlookup : Respects E
        (query fun d => env.getRoleByIdAndTenant d roleId tenantId : Db _) :=
      related_query fun v v' hv => by rw [hE.roleLookup v v' hv]
    refine hlookup.bind fun lookup => (respects_lift lookup).bind fun role => ?_
    cases role with
    | none => exact respects_throw _
    | some r =>
      have hadd := hE.respects_add (f := Tables.addAssignment ⟨userId, roleId, tenantId⟩)
        (fun _ => rfl) fun _ => rfl
      have hsend : Respects E (if autocommit then commit else pure () : Db Unit) := by
        split_ifs
        · exact respects_commit
        · exact respects_pure ()
      refine (hE.respects_query fun _ => rfl).bind fun assigned => ?_
      cases assigned with
      | true => exact respects_pure false
      | false =>
        exact hadd.bind fun _ => (hsend.tryCatch fun e => related_handler _ _).bind
          fun _ _ _ => respects_pure true

theorem Alike.respects_getMultiByTenantPaginated (hE : Alike env E) (tenantId : UUID)
    (skip limit : ℕ) (search : Option String) :
    Respects E (UserService.getMultiByTenantPaginated tenantId skip limit search) := by
  rw [UserService.getMultiByTenantPaginated]
  split_ifs
  · exact respects_throw _
  · exact (hE.respects_query fun _ => rfl).bind fun total =>
      (hE.respects_query fun _ => rfl).bind fun users =>
        (hE.respects_query fun _ => rfl).bind fun names => respects_pure _

theorem Alike.respects_setAttributes (hE : Alike env E) (id : UUID)
    (f : Invitation → Invitation) : Respects E (InvitationService.setAttributes id f) :=
  hE.respects_add (f := Tables.modifyInvitation id f) (fun _ => rfl) fun _ => rfl

theorem Alike.respects_createInvitation (hE : Alike env E) (req : InvitationRequest)
    (newId : UUID) (newToken : String) :
    Respects E (InvitationService.createInvitation req now newId newToken) := by
  refine (hE.respects_query fun _ => rfl).bind fun found => ?_
  cases found with
  | some x => exact respects_pure _
  | none =>
    exact (respects_lift _).bind fun expiresAt =>
      (hE.respects_add (f := Tables.addInvitation _) (fun _ => rfl) fun _ => rfl).bind fun _ =>
        respects_commit.bind fun _ => (hE.respects_refresh _ (fun _ => rfl) newId).bind fun _ =>
          respects_pure _

theorem Alike.respects_verifyToken (hE : Alike env E) (token : String) :
    Respects E (InvitationService.verifyToken now token) := by
  refine (hE.respects_query fun _ => rfl).bind fun found => ?_
  cases found with
  | none => exact respects_pure none
  | some x =>
    dsimp only
    split_ifs
    · exact (hE.respects_setAttributes x.id _).bind fun _ => respects_commit.bind fun _ =>
        respects_pure none
    · exact respects_pure none
    · exact respects_pure (some x)

theorem Alike.respects_getInvitationWithDetails (hE : Alike env E) (id : UUID) :
    Respects E (InvitationService.getInvitationWithDetails now id) := by
  refine (hE.respects_get _ (fun _ => rfl) id).bind fun found => ?_
  cases found with
  | none => exact respects_pure none
  | some x =>
    exact (hE.respects_query fun _ => rfl).bind fun _ => (hE.respects_query fun _ => rfl).bind
      fun _ => respects_pure _

theorem Alike.respects_revokeInvitation (hE : Alike env E) (id : UUID) :
    Respects E (InvitationService.revokeInvitation id) := by
  refine (hE.respects_get _ (fun _ => rfl) id).bind fun found => ?_
  cases found with
  | none => exact respects_pure none
  | some x =>
    dsimp only
    split_ifs
    · exact respects_pure _
    · exact (hE.respects_setAttributes x.id _).bind fun _ => respects_commit.bind fun _ =>
        (hE.respects_refresh _ (fun _ => rfl) x.id).bind fun _ => respects_pure _

/-- The role of an invitation is assigned, or the failure is only logged. -/
theorem Alike.respects_assignInvitedRole (hE : Alike env E) (x : Invitation) (userId : UUID) :
    Respects E (InvitationService.assignInvitedRole env x userId) := by
  rw [InvitationService.assignInvitedRole]
  cases x.roleId with
  | none => exact respects_pure ()
  | some roleId =>
    exact ((hE.respects_assignRole userId roleId x.tenantId false).bind fun _ =>
      respects_pure ()).tryCatch fun _ => respects_assertLive

theorem Alike.respects_acceptInvitation (hE : Alike env E) (token : String) (userId : UUID) :
    Respects E (InvitationService.acceptInvitation env now token userId) := by
  refine (hE.respects_verifyToken token).bind fun found => ?_
  cases found with
  | none => exact respects_pure none
  | some x =>
    exact (hE.respects_setAttributes x.id _).bind fun _ =>
      (hE.respects_assignInvitedRole x userId).bind fun _ => respects_commit.bind fun _ =>
        (hE.respects_refresh _ (fun _ => rfl) x.id).bind fun y => respects_pure (some y)

/-! ## The endpoints -/

theorem respects_reraise (detail : String) (e : Exc) :
    Respects E (Endpoints.reraise detail e) := by
  obtain ⟨e', he'⟩ := Endpoints.reraise_throws detail e
  rw [he']
  exact respects_throw e'

theorem Alike.respects_getRoleWithPermissions (hE : Alike env E) (roleId : UUID) :
    Respects E (RoleService.getRoleWithPermissions env roleId) :=
  (respects_lift _).bind fun _ => hE.respects_query fun _ => rfl

theorem Alike.respects_roleDetail (hE : Alike env E) (missing : String) (roleId : UUID) :
    Respects E (Endpoints.roleDetail env missing roleId) := by
  refine (hE.respects_getRoleWithPermissions roleId).bind fun found => ?_
  cases found with
  | none => exact respects_throw _
  | some r => exact respects_pure r

theorem Alike.respects_checkUserPermissionForTenant (hE : Alike env E) (userId tenantId : UUID)
    (p : Permission) : Respects E (Endpoints.checkUserPermissionForTenant userId tenantId p) := by
  refine (hE.respects_query fun _ => rfl).bind fun found => ?_
  cases found with
  | none => exact respects_pure false
  | some required =>
    exact (hE.respects_query fun _ => rfl).bind fun _ => (respects_lift _).bind fun _ =>
      respects_pure _

theorem Alike.respects_requireManagement (hE : Alike env E) (u : User) (tenantId : UUID)
    (detail : String) : Respects E (Endpoints.requireManagement u tenantId detail) := by
  rw [Endpoints.requireManagement]
  split_ifs
  · exact respects_pure ()
  · refine (hE.respects_checkUserPermissionForTenant u.id tenantId _).bind fun allowed => ?_
    split_ifs
    · exact respects_pure ()
    · exact respects_throw _

theorem Alike.respects_loginAccessToken (hE : Alike env E) (security : Security)
    (username password : String) :
    Respects E (Endpoints.loginAccessToken security now username password) := by
  refine (hE.respects_query fun _ => rfl).bind fun found => ?_
  cases found with
  | none => exact respects_throw _
  | some u =>
    refine (respects_lift _).bind fun valid => ?_
    split_ifs
    · exact respects_lift _
    · exact respects_throw _
    · exact respects_throw _

theorem Alike.respects_removeUser (hE : Alike env E) (userId : UUID) :
    Respects E (Endpoints.removeUserFromActiveTenant env now h userId) := by
  refine (hE.respects_requirePermissionInActiveTenant _).bind fun ut =>
    (hE.respects_query fun _ => rfl).bind fun found => ?_
  cases found with
  | none => exact respects_pure ()
  | some u =>
    exact ((hE.respects_deleteAssignments _ false).bind fun _ => respects_pure ()).tryCatch
      fun _ => respects_throw _

theorem Alike.quiet_createAPIKey (hE : Alike env E) (body : APIKeyCreate) (newId : UUID)
    (token : UrlsafeText) : Quiet E (Endpoints.createAPIKey env now h body newId token) := by
  refine hE.respects_getCurrentActiveUser.bind fun u => ?_
  split_ifs
  · exact related_throw _
  · refine (hE.quiet_createWithUser body u.id body.tenantId newId token).tryCatch fun e => ?_
    cases e <;> exact related_throw _

theorem Alike.quiet_readAPIKeys (hE : Alike env E) (skip limit : ℤ) (tenantId : Option UUID) :
    Quiet E (Endpoints.readAPIKeys env now h skip limit tenantId) := by
  refine hE.respects_getCurrentActiveUser.bind fun u => ?_
  split_ifs
  · cases tenantId <;> exact quiet_select _ skip limit
  · refine (quiet_select _ skip limit).bind fun _ _ _ => ?_
    cases tenantId <;> exact related_pure trivial

theorem Alike.related_managedKey (hE : Alike env E) {R : α → α → Prop} (id : UUID)
    (forbidden : Exc) {f : APIKey → Db α} (hf : ∀ k k', k.Same k' → Related E R (f k) (f k')) :
    Related E R (Endpoints.managedKey env now h id forbidden f)
      (Endpoints.managedKey env now h id forbidden f) := by
  refine hE.respects_getCurrentActiveUser.bind fun u =>
    (hE.related_getKey id).bind fun found found' hfound => ?_
  cases hfound with
  | none => exact related_throw _
  | @some k k' hk =>
    dsimp only
    rw [hk.congr (f := APIKey.userId) fun _ => rfl]
    split_ifs
    · exact related_throw _
    · exact hf k k' hk

theorem Alike.quiet_updateAPIKey (hE : Alike env E) (id : UUID) (body : APIKeyUpdate) :
    Quiet E (Endpoints.updateAPIKey env now h id body) := by
  refine hE.related_managedKey id _ fun k k' hk => ?_
  rw [APIKeyService.update, APIKeyService.update, hk.congr (f := APIKey.id) fun _ => rfl]
  exact (related_add (hE.writes_apiKeyUpdate body k'.id)).bind fun _ _ _ =>
    respects_flush.bind fun _ => (hE.related_refreshKey k'.id).mono fun _ _ _ => trivial

theorem Alike.respects_deleteAPIKey (hE : Alike env E) (id : UUID) :
    Respects E (Endpoints.deleteAPIKey env now h id) := by
  refine hE.related_managedKey id _ fun _ _ _ =>
    Related.bind (R := Option.Rel APIKey.Same) ?_ fun deleted deleted' hd => ?_
  · refine (hE.related_getKey id).bind fun found found' hf => ?_
    cases hf with
    | none => exact related_pure .none
    | some hk =>
      exact (related_add (hE.writes_dropAPIKey id)).bind fun _ _ _ => respects_flush.bind
        fun _ => related_pure (.some hk)
  · cases hd with
    | none => exact respects_throw _
    | some _ => exact respects_pure ()

theorem Alike.respects_listInvitations (hE : Alike env E) (tenantId : UUID)
    (status : Option InvitationStatus) (skip limit : ℕ) :
    Respects E (Endpoints.listInvitations env now h tenantId status skip limit) := by
  refine hE.respects_getCurrentActiveUser.bind fun u =>
    (hE.respects_checkUserPermissionForTenant u.id tenantId _).bind fun allowed => ?_
  split_ifs
  · exact respects_throw _
  · refine Related.tryCatch ?_ fun _ => respects_throw _
    cases status with
    | none => exact hE.respects_query fun _ => rfl
    | some st => exact (hE.respects_query fun _ => rfl).bind fun _ => respects_pure _

theorem Alike.respects_readInvitation (hE : Alike env E) (id : UUID) :
    Respects E (Endpoints.readInvitation env now h id) := by
  refine hE.respects_getCurrentUser.bind fun u =>
    Related.tryCatch ((hE.respects_getInvitationWithDetails id).bind fun found => ?_) fun e => ?_
  · cases found with
    | none => exact respects_throw _
    | some details =>
      exact (hE.respects_requireManagement _ _ _).bind fun _ => respects_pure details
  · cases e <;> exact respects_throw _

theorem Alike.respects_revokeInvitationEndpoint (hE : Alike env E) (id : UUID) :
    Respects E (Endpoints.revokeInvitation env now h id) := by
  refine hE.respects_getCurrentUser.bind fun u =>
    Related.tryCatch ((hE.respects_get _ (fun _ => rfl) id).bind fun found => ?_) fun e => ?_
  · cases found with
    | none => exact respects_throw _
    | some x =>
      refine (hE.respects_requireManagement _ _ _).bind fun _ =>
        (hE.respects_revokeInvitation id).bind fun revoked => ?_
      cases revoked with
      | none => exact respects_throw _
      | some y => exact respects_pure y
  · cases e <;> exact respects_throw _

theorem Alike.respects_verifyInvitationToken (hE : Alike env E) (token : String) :
    Respects E (Endpoints.verifyInvitationToken now token) := by
  refine Related.tryCatch ((hE.respects_verifyToken token).bind fun found => ?_) fun e => ?_
  · cases found with
    | none => exact respects_throw _
    | some x =>
      refine (hE.respects_getInvitationWithDetails x.id).bind fun details => ?_
      cases details with
      | none => exact respects_throw _
      | some details => exact respects_pure details
  · cases e <;> exact respects_throw _

/-- The call that is to create the user raises before it starts. -/
theorem respects_createInvitedUser (payload : InvitationAccept) (x : Invitation)
    (newUserId : UUID) : Respects E (Endpoints.createInvitedUser env payload x newUserId) := by
  refine Related.tryCatch ((respects_lift _).bind fun _ => respects_throw Exc.typeError)
    fun e => ?_
  cases e with
  | valueError message => exact respects_throw _
  | _ => exact related_rollback.bind fun _ => respects_throw _

theorem Alike.respects_acceptInvitationEndpoint (hE : Alike env E) (payload : InvitationAccept)
    (newUserId : UUID) : Respects E (Endpoints.acceptInvitation env now payload newUserId) := by
  refine (respects_lift payload.validate).bind fun payload => Related.tryCatch
    ((hE.respects_verifyToken payload.token).bind fun found => ?_) fun e => ?_
  · cases found with
    | none => exact respects_throw _
    | some x =>
      refine (respects_createInvitedUser payload x newUserId).bind fun newUser =>
        (hE.respects_acceptInvitation payload.token newUser.id).bind fun accepted => ?_
      cases accepted with
      | none => exact related_rollback.bind fun _ => respects_throw _
      | some y =>
        refine (hE.respects_get _ (fun _ => rfl) newUser.id).bind fun final => ?_
        cases final with
        | none => exact respects_throw _
        | some u => exact respects_pure u
  · cases e with
    | http status detail => exact respects_throw _
    | valueError message => exact respects_throw _
    | _ => exact related_rollback.bind fun _ => respects_throw _

end Operations
end VirtualStack
