import VirtualStack.SentStatements

/-!
# Every request sends its own statements only

The endpoints one by one: whatever their statements cannot lead out of holds when
they end. A request is then a sequence of its statements.
-/

namespace VirtualStack
open UnitOfWork

section Rules

variable {env : Env} {h : Headers} {d v v' : Database} {r : ApiRequest} {I : Database → Prop}

theorem ends_handle {α : Type} {x : Db α} (hd : I d) (hx : Ends I x d) :
    Ends I (Deps.handle h x) d := by
  by_cases hm : h.xTenantId = some .malformed
  · exact (Deps.fails_handle hm).ends hd
  · have hrun : (Deps.handle h x).run (.start d) = x.run (.start d) := by
      rw [Deps.handle, Deps.tenantContext, if_neg hm]
      rfl
    exact ⟨hrun ▸ hx.committed, fun a s hs => hx.session a s (hrun ▸ hs)⟩

namespace ApiRequest.Closes

theorem sent {e : Statement} (hI : Closes env h d r I) (hv : I v) (hs : Sends env h d r v e)
    (hw : v.change (e.apply env) = .ok v') : I v' :=
  hI v v' hv ⟨e, hs, Database.change_eq_ok_iff.mp hw⟩

/-- A statement that does not depend on the rows it finds. -/
theorem keeps_add {e : Statement} (hI : Closes env h d r I) (hs : ∀ v, Sends env h d r v e) :
    Keeps I (add (·.change (e.apply env)) : Db Unit) :=
  UnitOfWork.keeps_add fun v _ hv hw => hI.sent hv (hs v) hw

theorem identified {now : Time} (hI : Closes env h d r I) (hnow : r.identifiesAt = some now)
    (hd : I d) : I (Deps.identifiedView env now h d) := by
  rw [Deps.identifiedView]
  split
  · rename_i k hk
    exact hI d _ hd ⟨_, .touch hnow hk, rfl⟩
  · exact hd

theorem keeps_deleteAssignments {p : UserTenantRole → Bool} (hI : Closes env h d r I)
    (autocommit : Bool) (hs : ∀ v, Sends env h d r v (.dropAssignments p)) :
    Keeps I (UserService.deleteAssignments p autocommit) := by
  refine (keeps_query _).bind fun n => (keeps_execute fun v _ hv hw =>
    hI.sent hv (hs v) hw).bind fun _ => ?_
  cases autocommit with
  | true => exact keeps_commit.bind fun _ => keeps_pure n
  | false => exact (keeps_pure ()).bind fun _ => keeps_pure n

end ApiRequest.Closes

theorem keeps_getMultiByTenantPaginated (tenantId : UUID) (skip limit : ℕ)
    (search : Option String) :
    Keeps I (UserService.getMultiByTenantPaginated tenantId skip limit search) := by
  rw [UserService.getMultiByTenantPaginated]
  split_ifs
  · exact keeps_throw _
  · exact (keeps_query _).bind fun _ => (keeps_query _).bind fun _ =>
      (keeps_query _).bind fun _ => keeps_pure _

theorem keeps_select (p : APIKey → Bool) (skip limit : ℤ) :
    Keeps I (APIKeyService.select p skip limit) :=
  (keeps_query _).bind fun _ => keeps_lift _

theorem keeps_getInvitationWithDetails (now : Time) (id : UUID) :
    Keeps I (InvitationService.getInvitationWithDetails now id) := by
  refine (keeps_get _ _ id).bind fun found => ?_
  cases found with
  | none => exact keeps_pure _
  | some x => exact (keeps_query _).bind fun _ => (keeps_query _).bind fun _ => keeps_pure _

theorem keeps_checkUserPermissionForTenant (userId tenantId : UUID) (p : Permission) :
    Keeps I (Endpoints.checkUserPermissionForTenant userId tenantId p) := by
  refine (keeps_query _).bind fun found => ?_
  cases found with
  | none => exact keeps_pure _
  | some required =>
    exact (keeps_query _).bind fun _ => (keeps_lift _).bind fun _ => keeps_pure _

theorem keeps_requireManagement (u : User) (tenantId : UUID) (detail : String) :
    Keeps I (Endpoints.requireManagement u tenantId detail) := by
  rw [Endpoints.requireManagement]
  split_ifs
  · exact keeps_pure _
  · refine (keeps_checkUserPermissionForTenant _ _ _).bind fun b => ?_
    split_ifs
    · exact keeps_pure _
    · exact keeps_throw _

theorem keepsAt_get_bind {α β : Type} {rows : Database → List α} {key : α → UUID} {id : UUID}
    {k : Option α → Db β} (hk : KeepsAt I v (k ((rows v).find? (key · = id)))) :
    KeepsAt I v (CRUDBase.get rows key id >>= k) := keepsAt_query_bind hk

theorem keepsAt_bind_of_fails {α β : Type} {x : Db α} {f : α → Db β} (hv : I v) (hx : Keeps I x)
    (hfail : Fails x v) : KeepsAt I v (x >>= f) := by
  intro c hc
  obtain ⟨e, he⟩ := hfail
  obtain ⟨s, hs, -⟩ := he c
  have hend := hx _ (Session.inv_clean hc hv)
  rw [hs] at hend
  rw [run_bind_error hs]
  exact hend

/-- What comes after a program that always raises does not matter. -/
theorem keeps_bind_of_raising {α β : Type} {x : Db α} {f : α → Db β} (hx : Keeps I x)
    (hraise : ∀ s, ∃ e, (x.run s).1 = .error e) : Keeps I (x >>= f) := by
  intro s hs
  have hend := hx s hs
  obtain ⟨e, he⟩ := hraise s
  rw [run_bind]
  rcases hr : x.run s with ⟨e' | a, s'⟩ <;> rw [hr] at he hend
  · exact hend
  · cases he

/-- An expired invitation is marked, and that is all. -/
theorem keepsAt_verifyToken {now : Time} {token : String} (hv : I v)
    (hexp : ∀ x ∈ v.invitations, x.token = token → x.expiresAt < now → ∀ v' : Database,
      v'.toTables = v.modifyInvitation x.id Invitation.markExpired → I v') :
    KeepsAt I v (InvitationService.verifyToken now token) := by
  refine keepsAt_query_bind ?_
  cases hf : v.invitations.find? (·.token = token) with
  | none => exact (keeps_pure none).keepsAt hv
  | some x =>
    dsimp only
    split_ifs with he hs
    · refine (keepsAt_add hv fun v' hw => ?_).bind fun _ => keeps_commit.bind fun _ => keeps_pure _
      exact hexp x (List.mem_of_find?_eq_some hf) (by simpa using List.find?_some hf) he v'
        (Database.change_eq_ok_iff.mp hw)
    · exact (keeps_pure none).keepsAt hv
    · exact (keeps_pure (some x)).keepsAt hv

/-- The call without `tenant_id` raises, so that no user is made. -/
theorem keeps_createInvitedUser_bind {β : Type} {payload : InvitationAccept} {x : Invitation}
    {newUserId : UUID} {f : User → Db β} :
    Keeps I (Endpoints.createInvitedUser env payload x newUserId >>= f) := by
  refine keeps_bind_of_raising (Keeps.tryCatch ((keeps_lift _).bind fun _ => keeps_throw _)
    fun e => ?_) fun s => ?_
  · cases e with
    | valueError message => exact keeps_throw _
    | _ => exact keeps_rollback.bind fun _ => keeps_throw _
  · rw [Endpoints.createInvitedUser, run_tryCatch, run_bind, run_lift]
    cases payload.userCreate env x.email with
    | ok body => exact ⟨_, rfl⟩
    | error e => cases e <;> exact ⟨_, rfl⟩

theorem keepsAt_writeRow {α : Type} {rows : Database → List α} {key : α → UUID} {id : UUID}
    {w : Database → Except Exc Database} (hv : I v) (hw : ∀ v', w v = .ok v' → I v') :
    KeepsAt I v (CRUDBase.update rows key w id) :=
  (keepsAt_add hv hw).bind fun _ => keeps_flush.bind fun _ => keeps_refresh rows key id

/-! An `UPDATE` is the statement, unless a `null` stops it. -/

theorem UserUpdate.statement_ok {body : UserUpdate} {id : UUID}
    (hw : body.statement env id v = .ok v') : v'.toTables = v.modifyUser id (body.apply env) := by
  rw [UserUpdate.statement] at hw
  split_ifs at hw
  exact Database.change_eq_ok_iff.mp hw

theorem APIKeyUpdate.statement_ok {body : APIKeyUpdate} {id : UUID}
    (hw : body.statement env id v = .ok v') :
    v'.toTables = v.modifyAPIKey id (body.apply env) := by
  rw [APIKeyUpdate.statement] at hw
  split_ifs at hw
  exact Database.change_eq_ok_iff.mp hw

theorem TenantUpdate.statement_ok {body : TenantUpdate} {id : UUID}
    (hw : body.statement id v = .ok v') : v'.toTables = v.modifyTenant id body.apply := by
  rw [TenantUpdate.statement] at hw
  split_ifs at hw
  exact Database.change_eq_ok_iff.mp hw

end Rules

/-! ## Requests on behalf of the current user -/

namespace PersonalRequest

variable {env : Env} {now : Time} {h : Headers} {d : Database} {I : Database → Prop}

theorem ends_createAPIKey {body : APIKeyCreate} {newId : UUID} {token : UrlsafeText}
    (hI : ApiRequest.Closes env h d (.personal now (.createAPIKey body newId token)) I)
    (hd : I d) : Ends I (Endpoints.createAPIKey env now h body newId token) d := by
  have hid := hI.identified rfl hd
  refine (Deps.yields_getCurrentActiveUser env now h d).bind_ends hd fun u hu => ?_
  by_cases hforbidden : body.tenantId ≠ none ∧ ¬u.isSuperuser
  · rw [if_pos hforbidden]
    exact (keeps_throw _).keepsAt hid
  rw [if_neg hforbidden]
  have hmay : body.tenantId = none ∨ u.isSuperuser := by
    by_contra hno
    exact hforbidden (by simpa [not_or] using hno)
  refine keepsAt_tryCatch (keepsAt_lift_bind hid fun tenantId ht => keepsAt_lift_bind hid
    fun expiresAt he => ?_) fun e => ?_
  · have hadd : Keeps I (add (·.change (Tables.addAPIKey (APIKeyService.newRow env body u.id
        tenantId expiresAt newId (APIKeyService.generateAPIKey token)))) : Db Unit) :=
      hI.keeps_add fun v => .createAPIKey hu hmay ht he
    refine (Keeps.tryCatch ?_ fun e => ?_).keepsAt hid
    · refine hadd.bind fun _ => keeps_commit.bind fun _ => (keeps_refresh _ _ _).bind fun x =>
        (keeps_get _ _ _).bind fun found => ?_
      cases found with
      | none => exact keeps_throw _
      | some y => exact (keeps_refresh _ _ _).bind fun _ => keeps_pure _
    · exact keeps_handler _ _
  · cases e <;> exact keeps_throw _

/-- The two endpoints that write a key find it first. -/
theorem ends_managedKey {α : Type} {r : PersonalRequest} {id : UUID} {forbidden : Exc}
    {f : APIKey → Db α} (hI : ApiRequest.Closes env h d (.personal now r) I) (hd : I d)
    (hf : ∀ u k v, Deps.currentActiveUser env now h d = .ok u → k ∈ v.apiKeys → k.id = id →
      (u.isSuperuser ∨ k.userId = u.id) → I v → KeepsAt I v (f k)) :
    Ends I (Endpoints.managedKey env now h id forbidden f) d := by
  have hid := hI.identified rfl hd
  refine (Deps.yields_getCurrentActiveUser env now h d).bind_ends hd fun u hu =>
    keepsAt_get_bind ?_
  cases hk : (Deps.identifiedView env now h d).apiKeys.find? (·.id = id) with
  | none => exact (keeps_throw _).keepsAt hid
  | some k =>
    dsimp only
    split_ifs with hforbidden
    · exact (keeps_throw _).keepsAt hid
    · have hmay : u.isSuperuser ∨ k.userId = u.id := by
        by_contra hno
        exact hforbidden (by simpa [not_or] using hno)
      exact hf u k _ hu (List.mem_of_find?_eq_some hk) (by simpa using List.find?_some hk) hmay hid

theorem ends_revokeInvitation {id : UUID}
    (hI : ApiRequest.Closes env h d (.personal now (.revokeInvitation id)) I) (hd : I d) :
    Ends I (Endpoints.revokeInvitation env now h id) d := by
  have hid := hI.identified rfl hd
  refine (Deps.yields_getCurrentUser env now h d).bind_ends hd fun u hu =>
    keepsAt_tryCatch (keepsAt_get_bind ?_) fun e => by cases e <;> exact keeps_throw _
  set v := Deps.identifiedView env now h d
  cases hx : v.invitations.find? (·.id = id) with
  | none => exact (keeps_throw _).keepsAt hid
  | some x =>
    have hmem := List.mem_of_find?_eq_some hx
    have hxid : x.id = id := by simpa using List.find?_some hx
    dsimp only
    by_cases hmay : Endpoints.MayManage v u x.tenantId
    · refine (Endpoints.returns_requireManagement hmay).bind_keepsAt ?_
      refine KeepsAt.bind (keepsAt_get_bind ?_) fun found => ?_
      · rw [hx]
        dsimp only
        split_ifs with hpending
        · exact (keeps_pure _).keepsAt hid
        · refine (keepsAt_add hid fun v' hw => ?_).bind fun _ => keeps_commit.bind fun _ =>
            (keeps_refresh _ _ _).bind fun _ => keeps_pure _
          rw [hxid] at hw
          exact hI.sent hid (.revokeInvitation hu hmem hxid (not_not.mp hpending) hmay) hw
      · cases found with
        | none => exact keeps_throw _
        | some y => exact keeps_pure _
    · exact keepsAt_bind_of_fails hid (keeps_requireManagement _ _ _)
        (Endpoints.fails_requireManagement hmay)

/-- Every request on behalf of the current user. -/
theorem ends_endpoint (r : PersonalRequest)
    (hI : ApiRequest.Closes env h d (.personal now r) I) (hd : I d) :
    Ends I (r.endpoint env now h) d := by
  have hid := hI.identified rfl hd
  cases r with
  | listUsers page limit search =>
    exact ((Deps.yields_requirePermissionInActiveTenant env now h d _).bind_ends hd fun ut _ =>
      (keeps_getMultiByTenantPaginated _ _ _ _).keepsAt hid).bind_pure ()
  | getMe =>
    exact (Deps.yields_getCurrentUser env now h d).bind_ends hd fun u _ =>
      (keeps_pure ()).keepsAt hid
  | updateMe sent =>
    refine ((Deps.yields_getCurrentUser env now h d).bind_ends hd fun u hu =>
      keepsAt_lift_bind hid fun body hbody => keepsAt_writeRow hid fun v' hw => ?_).bind_pure ()
    exact hI _ v' hid ⟨_, .updateMe hu hbody, UserUpdate.statement_ok hw⟩
  | updateUserStatus userId isActive =>
    refine ((Deps.yields_requirePermissionInActiveTenant env now h d _).bind_ends hd
      fun ut hut => keepsAt_query_bind ?_).bind_pure ()
    cases hf : UserService.byIdAndTenant (Deps.identifiedView env now h d) userId ut.2.id with
    | none => exact (keeps_throw _).keepsAt hid
    | some x =>
      obtain ⟨hx, rfl, hmember⟩ := UserService.byIdAndTenant_eq_some.mp hf
      refine keepsAt_tryCatch (keepsAt_writeRow hid fun v' hw => ?_) fun _ => keeps_throw _
      have hmember := (Deps.isMember_identifiedView env now h d _ _).mp hmember
      exact hI _ v' hid ⟨_, .updateStatus hut hmember, UserUpdate.statement_ok hw⟩
  | removeUser userId =>
    refine (Deps.yields_requirePermissionInActiveTenant env now h d _).bind_ends hd
      fun ut hut => keepsAt_query_bind ?_
    cases UserService.byIdAndTenant (Deps.identifiedView env now h d) userId ut.2.id with
    | none => exact (keeps_pure ()).keepsAt hid
    | some x =>
      have hdrop := hI.keeps_deleteAssignments false fun v => .removeUser hut
      exact ((hdrop.bind fun _ => keeps_pure ()).tryCatch fun _ => keeps_throw _).keepsAt hid
  | listTenants =>
    exact ((Deps.yields_getCurrentUser env now h d).bind_ends hd fun u _ =>
      (keeps_query _).keepsAt hid).bind_pure ()
  | createAPIKey body newId token => exact (ends_createAPIKey hI hd).bind_pure ()
  | listAPIKeys skip limit tenantId =>
    refine ((Deps.yields_getCurrentActiveUser env now h d).bind_ends hd fun u _ =>
      Keeps.keepsAt ?_ hid).bind_pure ()
    split_ifs
    · cases tenantId <;> exact keeps_select _ _ _
    · refine (keeps_select _ _ _).bind fun keys => ?_
      cases tenantId <;> exact keeps_pure _
  | readAPIKey id =>
    exact (ends_managedKey hI hd fun u k v _ _ _ _ hv => (keeps_pure k).keepsAt hv).bind_pure ()
  | updateAPIKey id body =>
    refine (ends_managedKey hI hd fun u k v hu hk hid hmay hv =>
      keepsAt_writeRow hv fun v' hw => ?_).bind_pure ()
    rw [hid] at hw
    exact hI v v' hv ⟨_, .updateAPIKey hu hk hid hmay, APIKeyUpdate.statement_ok hw⟩
  | deleteAPIKey id =>
    refine ends_managedKey hI hd fun u k v hu hk hid hmay hv => KeepsAt.bind ?_ fun found => ?_
    · refine keepsAt_get_bind ?_
      cases v.apiKeys.find? (·.id = id) with
      | none => exact (keeps_pure none).keepsAt hv
      | some y =>
        refine (keepsAt_add hv fun v' hw => ?_).bind fun _ => keeps_flush.bind fun _ =>
          keeps_pure _
        exact hI.sent hv (.deleteAPIKey hu hk hid hmay) hw
    · cases found with
      | none => exact keeps_throw _
      | some y => exact keeps_pure ()
  | createInvitation sent newId newToken =>
    refine ((Deps.yields_requirePermissionInActiveTenant env now h d _).bind_ends hd
      fun ut hut => keepsAt_lift_bind hid fun body hbody =>
        keepsAt_tryCatch (keepsAt_query_bind ?_)
          fun e => by cases e <;> exact keeps_throw _).bind_pure ()
    cases hdup : InvitationService.duplicate (Deps.identifiedView env now h d)
        (body.request ut.1.id) now with
    | some x => exact (keeps_pure _).keepsAt hid
    | none =>
      refine keepsAt_lift_bind hid fun expiresAt hexp => (keepsAt_add hid fun v' hw => ?_).bind
        fun _ => keeps_commit.bind fun _ => (keeps_refresh _ _ _).bind fun _ => keeps_pure _
      exact hI.sent hid (.createInvitation hut hbody hdup hexp) hw
  | listInvitations tenantId status skip limit =>
    refine ((Deps.yields_getCurrentActiveUser env now h d).bind_ends hd fun u _ =>
      ((keeps_checkUserPermissionForTenant _ _ _).bind fun b => ?_).keepsAt hid).bind_pure ()
    split_ifs
    · exact keeps_throw _
    · refine Keeps.tryCatch ?_ fun _ => keeps_throw _
      cases status with
      | none => exact keeps_query _
      | some status => exact (keeps_query _).bind fun _ => keeps_pure _
  | readInvitation id =>
    refine ((Deps.yields_getCurrentUser env now h d).bind_ends hd fun u _ =>
      (Keeps.tryCatch ((keeps_getInvitationWithDetails _ _).bind fun found => ?_)
        fun e => by cases e <;> exact keeps_throw _).keepsAt hid).bind_pure ()
    cases found with
    | none => exact keeps_throw _
    | some details =>
      exact (keeps_requireManagement _ _ _).bind fun _ => keeps_pure _
  | revokeInvitation id => exact (ends_revokeInvitation hI hd).bind_pure ()

end PersonalRequest

/-! ## Requests on tenants and their roles -/

section Roles

variable {env : Env} {h : Headers} {d v v' : Database} {r : ApiRequest} {I : Database → Prop}
  {tenantId roleId : UUID}

theorem RoleUpdate.statement_ok {body : RoleUpdate} {dbObj : Role}
    (hw : body.statement dbObj v = .ok v') :
    v' = v ∨ v'.toTables = v.modifyRole dbObj.id (body.changes dbObj) := by
  rw [RoleUpdate.statement] at hw
  split_ifs at hw
  · exact .inl (Except.ok.inj hw).symm
  · exact .inr (Database.change_eq_ok_iff.mp hw)

theorem CustomRole.of_roles {t t' : Tables} (hrole : CustomRole t roleId tenantId)
    (hroles : t'.roles = t.roles) : CustomRole t' roleId tenantId := by
  rw [CustomRole, hroles]
  exact hrole

/-- The permissions of a custom role are cleared and then set. -/
theorem ApiRequest.Closes.permissionChange {ids : List UUID} (hI : Closes env h d r I)
    (hv : I v) (hrole : CustomRole v.toTables roleId tenantId)
    (hclear : ∀ v : Database, CustomRole v.toTables roleId tenantId →
      Sends env h d r v (.dropRolePermissions roleId))
    (hequip : ∀ v : Database, CustomRole v.toTables roleId tenantId →
      Sends env h d r v (.addRolePermissions roleId ids))
    (hw : RoleService.permissionChange roleId ids v = .ok v') : I v' := by
  have hdrop := RoleService.dropRolePermissions_ok roleId v
  have hv₁ := hI.sent hv (hclear v hrole) hdrop
  rw [RoleService.permissionChange, hdrop] at hw
  change (if ids = [] then _ else _) = Except.ok v' at hw
  split_ifs at hw
  · cases hw
    exact hv₁
  · exact hI.sent hv₁ (hequip _ (hrole.of_roles rfl)) hw

theorem keepsAt_createRoleOf {body : RoleCreate} {newId : UUID}
    (hI : ApiRequest.Closes env h d (.admin (.createRole tenantId body newId)) I) (hd : I d) :
    KeepsAt I d (RoleService.createCustomRole env body tenantId newId) := by
  refine keepsAt_query_bind ?_
  cases hf : d.roles.find? fun r => r.name = body.name ∧ r.tenantId = some tenantId with
  | some x => exact (keeps_throw _).keepsAt hd
  | none =>
    refine keepsAt_add_bind (autoflush_commit.bind _) fun v' hw => ?_
    have hname : ∀ x ∈ d.roles, x.name = body.name → x.tenantId ≠ some tenantId := by
      intro x hx hn ht
      exact List.find?_eq_none.mp hf x hx (decide_eq_true ⟨hn, ht⟩)
    have hv' : I v' := hI.sent hd (.createRole hname) hw
    have hroles : v'.roles = d.roles ++ [body.row newId tenantId] := by
      rw [Database.change_eq_ok_iff.mp hw]
      rfl
    have hnew : newId ∉ d.roles.map (·.id) := by
      have hids := v'.valid.keys.rolesId
      rw [hroles] at hids
      exact (Rows.nodup_map_concat d.valid.keys.rolesId).mp hids
    have hrole : CustomRole v'.toTables newId tenantId := by
      refine ⟨body.row newId tenantId, ?_, rfl, rfl, rfl⟩
      rw [hroles]
      exact List.mem_append_right _ (List.mem_singleton.mpr rfl)
    have hlast : Keeps I (do
        RoleService.refreshPermissions env
        pure (body.row newId tenantId) : Db Role) :=
      keeps_refreshPermissions.bind fun _ => keeps_pure _
    refine keepsAt_commit_bind hv' ?_
    rw [RoleService.completeCustomRole]
    split_ifs
    · exact hlast.keepsAt hv'
    · have hset : KeepsAt I v'
          (RoleService.setRolePermissions newId (body.permissionIds.getD [])) := by
        obtain ⟨v₁, hp, hret⟩ | hrev :=
          RoleService.setRolePermissions_cases newId (body.permissionIds.getD []) v'
        · exact hret.keepsAt (hI.permissionChange hv' hrole (fun _ => .clearNewRole hnew)
            (fun _ => .equipNewRole hnew) hp)
        · exact hrev.keepsAt
      exact hset.bind fun _ => keeps_commit.bind fun _ => hlast

theorem keepsAt_updateRoleOf {body : RoleUpdate} {role : Role}
    (hI : ApiRequest.Closes env h d (.admin (.updateRole tenantId role.id body)) I) (hv : I v)
    (hmem : role ∈ v.roles) (hten : role.tenantId = some tenantId)
    (hcustom : role.isSystemRole = false) :
    KeepsAt I v (RoleService.updateCustomRole env role body) := by
  -- the row is written last, where the role is still as it was read
  have hlast : ∀ {v : Database}, I v → role ∈ v.roles →
      KeepsAt I v (RoleService.storeCustomRole env role body) := by
    refine fun {v} hv hmem => (keepsAt_add hv fun v' hw => ?_).bind fun _ => keeps_commitRole _
    obtain rfl | hv' := RoleUpdate.statement_ok hw
    · exact hv
    · exact hI v v' hv ⟨_, .updateRole hmem hten hcustom, hv'⟩
  rw [RoleService.updateCustomRole, if_neg (by simp [hcustom])]
  cases hids : body.permissionIds with
  | none => exact hlast hv hmem
  | some ids =>
    obtain ⟨v', hp, hret⟩ | hrev := RoleService.setRolePermissions_cases role.id ids v
    · have hrole : CustomRole v.toTables role.id tenantId := ⟨role, hmem, rfl, hten, hcustom⟩
      refine hret.bind_keepsAt (hlast ?_ (RoleService.roles_of_permissionChange hp ▸ hmem))
      exact hI.permissionChange hv hrole (fun _ => .clearRole) (fun _ hr => .equipRole hr hids) hp
    · exact (hrev.bind _).keepsAt

theorem usableRole_of_find? {role : Role} (hf : v.roles.find? (·.id = roleId) = some role)
    (hno : ¬(¬role.isSystemRole ∧ role.tenantId ≠ some tenantId)) :
    UsableRole v.toTables roleId tenantId := by
  refine ⟨role, List.mem_of_find?_eq_some hf, by simpa using List.find?_some hf, ?_⟩
  simpa only [RoleService.Accessible, not_and_or, not_not, ne_eq] using hno

theorem keeps_deleteRoleOf
    (hI : ApiRequest.Closes env h d (.admin (.deleteRole tenantId roleId)) I) :
    Keeps I (RoleService.deleteCustomRole roleId tenantId) := by
  refine keeps_get_bind fun v hv => ?_
  cases hf : v.roles.find? (·.id = roleId) with
  | none => exact (keeps_pure none).keepsAt hv
  | some role =>
    dsimp only
    split_ifs with hsys hten
    · exact (keeps_throw _).keepsAt hv
    · exact (keeps_throw _).keepsAt hv
    · refine keepsAt_query_bind ?_
      split_ifs with hassigned
      · exact (keeps_throw _).keepsAt hv
      · refine (keepsAt_add hv fun v' hw => ?_).bind fun _ => keeps_commit.bind fun _ =>
          keeps_pure _
        have hrole : CustomRole v.toTables roleId tenantId :=
          ⟨role, List.mem_of_find?_eq_some hf, by simpa using List.find?_some hf,
            not_not.mp hten, by simpa using hsys⟩
        refine hI.sent hv (.deleteRole hrole fun x hx hid ht => hassigned ?_) hw
        exact List.any_eq_true.mpr ⟨x, hx, decide_eq_true ⟨hid, ht⟩⟩

theorem keeps_setRoleUsersOf {userIds : List UUID}
    (hI : ApiRequest.Closes env h d (.admin (.setRoleUsers tenantId roleId userIds)) I) :
    Keeps I (RoleService.setUsersForRole roleId tenantId userIds) := by
  have hlast : Keeps I (do
      commit
      pure userIds : Db (List UUID)) := keeps_commit.bind fun _ => keeps_pure _
  refine keeps_get_bind fun v hv => ?_
  cases hf : v.roles.find? (·.id = roleId) with
  | none => exact (keeps_throw _).keepsAt hv
  | some role =>
    dsimp only
    split_ifs with hno hempty
    · exact (keeps_throw _).keepsAt hv
    · refine keepsAt_execute_bind fun v₁ hw₁ => ?_
      exact ((keeps_pure ()).bind fun _ => hlast).keepsAt
        (hI.sent hv (.clearUsers (usableRole_of_find? hf hno)) hw₁)
    · refine keepsAt_execute_bind fun v₁ hw₁ => ?_
      have hv₁ := hI.sent hv (.clearUsers (usableRole_of_find? hf hno)) hw₁
      have husable : UsableRole v₁.toTables roleId tenantId := by
        rw [Database.change_eq_ok_iff.mp hw₁]
        exact usableRole_of_find? hf hno
      refine (keepsAt_tryCatch (keepsAt_execute fun v₂ hw₂ => ?_) fun _ => ?_).bind fun _ => hlast
      · exact hI.sent hv₁ (.setUsers husable) hw₂
      · exact keeps_rollback.bind fun _ => keeps_throw _

end Roles

namespace AdminRequest

variable {env : Env} {h : Headers} {d : Database} {I : Database → Prop}

theorem ends_endpoint (r : AdminRequest) (hI : ApiRequest.Closes env h d (.admin r) I)
    (hd : I d) : Ends I (r.endpoint env h) d := by
  have hreraise : ∀ detail e, Keeps I (Endpoints.reraise detail e) := by
    intro detail e
    cases e <;> exact keeps_throw _
  cases r with
  | createTenant body newId =>
    refine (KeepsAt.ends hd (keepsAt_lift_bind hd fun parsed hbody =>
      keepsAt_query_bind ?_)).bind_pure ()
    obtain ⟨hslug, rfl⟩ := TenantCreate.validate_eq_ok.mp hbody
    cases hf : d.tenants.find? (·.name = body.name) with
    | some x => exact (keeps_throw _).keepsAt hd
    | none =>
      refine keepsAt_writeRow hd fun v' hw => hI.sent hd (.createTenant hslug fun x hx hn => ?_) hw
      exact List.find?_eq_none.mp hf x hx (decide_eq_true hn)
  | updateTenant tenantId body =>
    refine (KeepsAt.ends hd (keepsAt_get_bind ?_)).bind_pure ()
    cases hf : d.tenants.find? (·.id = tenantId) with
    | none => exact (keeps_throw _).keepsAt hd
    | some t =>
      refine keepsAt_writeRow hd fun v' hw => ?_
      have hid : t.id = tenantId := by simpa using List.find?_some hf
      rw [hid] at hw
      exact hI d v' hd ⟨_, .updateTenant, TenantUpdate.statement_ok hw⟩
  | deleteTenant tenantId =>
    refine KeepsAt.ends hd (keepsAt_get_bind ?_)
    cases d.tenants.find? (·.id = tenantId) with
    | none => exact (keeps_throw _).keepsAt hd
    | some t =>
      have hdrop : Keeps I (TenantService.delete tenantId) := by
        refine (keeps_get _ _ _).bind fun found => ?_
        cases found with
        | none => exact keeps_pure none
        | some x =>
          exact (hI.keeps_add fun _ => .deleteTenant).bind fun _ => keeps_flush.bind fun _ =>
            keeps_pure _
      refine (hdrop.bind fun deleted => ?_).keepsAt hd
      cases deleted with
      | none => exact keeps_throw _
      | some x => exact keeps_pure ()
  | createRole tenantId body newId =>
    refine ((Deps.yields_getTenantFromPath d tenantId).bind_ends hd fun t ht =>
      keepsAt_lift_bind hd fun _ _ => ?_).bind_pure ()
    have hid : t.id = tenantId := by
      cases hf : d.tenants.find? (·.id = tenantId) with
      | none =>
        rw [hf] at ht
        cases ht
      | some x =>
        rw [hf] at ht
        cases ht
        simpa using List.find?_some hf
    subst hid
    exact keepsAt_tryCatch ((keepsAt_createRoleOf hI hd).bind fun _ =>
      Endpoints.keeps_roleDetail _ _) (hreraise _)
  | updateRole tenantId roleId body =>
    refine (KeepsAt.ends hd (Keeps.keepsAt ?_ hd)).bind_pure ()
    refine keeps_getTenantFromPath_bind fun t ht => (keeps_lift _).bind fun _ =>
      keeps_get_bind fun v hv => ?_
    subst ht
    cases hf : v.roles.find? (·.id = roleId) with
    | none => exact (keeps_throw _).keepsAt hv
    | some role =>
      have hid : role.id = roleId := by simpa using List.find?_some hf
      subst hid
      dsimp only
      split_ifs with hten hsys
      · exact (keeps_throw _).keepsAt hv
      · exact (keeps_throw _).keepsAt hv
      · refine keepsAt_tryCatch (KeepsAt.bind ?_ fun _ => Endpoints.keeps_roleDetail _ _)
          (hreraise _)
        exact keepsAt_updateRoleOf hI hv (List.mem_of_find?_eq_some hf) (not_not.mp hten)
          (by simpa using hsys)
  | deleteRole tenantId roleId =>
    refine KeepsAt.ends hd (Keeps.keepsAt ?_ hd)
    refine keeps_getTenantFromPath_bind fun t ht => (keeps_lift _).bind fun _ => ?_
    subst ht
    refine (keeps_deleteRoleOf hI).bind fun deleted => ?_
    cases deleted with
    | none => exact keeps_throw _
    | some r => exact keeps_pure ()
  | setRoleUsers tenantId roleId userIds =>
    refine (KeepsAt.ends hd (Keeps.keepsAt ?_ hd)).bind_pure ()
    refine keeps_getTenantFromPath_bind fun t ht => ?_
    subst ht
    exact keeps_setRoleUsersOf hI

end AdminRequest

/-! ## All requests -/

namespace ApiRequest

variable {env : Env} {security : Security} {h : Headers} {d : Database} {I : Database → Prop}

theorem ends_assignRole {tenantId userId roleId : UUID}
    (hI : Closes env h d (.assignRole tenantId userId roleId) I) (hd : I d) :
    Ends I (Endpoints.assignRoleToUser env h tenantId userId roleId) d := by
  refine KeepsAt.ends hd (Keeps.keepsAt ?_ hd)
  refine keeps_getTenantFromPath_bind fun t ht => (keeps_lift _).bind fun _ => ?_
  subst ht
  refine Keeps.tryCatch (Keeps.bind (keeps_query_bind fun v hv => ?_) fun _ => keeps_pure ())
    fun e => by cases e <;> exact keeps_throw _
  cases hf : UserService.byIdAndTenant v userId t.id with
  | none => exact (keeps_throw _).keepsAt hv
  | some u =>
    obtain ⟨-, -, hmember⟩ := UserService.byIdAndTenant_eq_some.mp hf
    refine keepsAt_query_bind (keepsAt_lift_bind hv fun found hfound => ?_)
    cases found with
    | none => exact (keeps_throw _).keepsAt hv
    | some r =>
      refine keepsAt_query_bind ?_
      cases v.userTenantRoles.any (· = ⟨userId, roleId, t.id⟩) with
      | true => exact (keeps_pure false).keepsAt hv
      | false =>
        refine (keepsAt_add hv fun v' hw => ?_).bind fun _ =>
          ((keeps_pure ()).tryCatch fun e => keeps_handler _ _).bind fun _ => keeps_pure true
        exact hI.sent hv (.assignRole hmember hfound) hw

theorem ends_endpoint (r : ApiRequest) (hI : Closes env h d r I) (hd : I d) :
    Ends I (r.endpoint env security h) d := by
  have hkeeps : ∀ {x : Db Unit}, Keeps I x → Ends I x d := fun hx => (hx.keepsAt hd).ends hd
  cases r with
  | personal now r => exact r.ends_endpoint hI hd
  | admin r => exact r.ends_endpoint hI hd
  | login now username password =>
    refine hkeeps (keeps_ignore ((keeps_query _).bind fun found => ?_))
    cases found with
    | none => exact keeps_throw _
    | some u =>
      refine (keeps_lift _).bind fun same => ?_
      split_ifs
      · exact keeps_lift _
      · exact keeps_throw _
      · exact keeps_throw _
  | getTenantById tenantId =>
    refine hkeeps (keeps_ignore ((keeps_get _ _ _).bind fun found => ?_))
    cases found with
    | none => exact keeps_throw _
    | some t => exact keeps_pure t
  | getTenantBySlug slug =>
    refine hkeeps (keeps_ignore ((keeps_query _).bind fun found => ?_))
    cases found with
    | none => exact keeps_throw _
    | some t => exact keeps_pure t
  | verifyInvitation now token =>
    refine (KeepsAt.ends hd (keepsAt_tryCatch (KeepsAt.bind ?_ fun found => ?_)
      fun e => by cases e <;> exact keeps_throw _)).bind_pure ()
    · exact keepsAt_verifyToken hd fun x hx ht he v' hw => hI d v' hd ⟨_, .verify hx ht he, hw⟩
    · cases found with
      | none => exact keeps_throw _
      | some x =>
        refine (keeps_getInvitationWithDetails _ _).bind fun details => ?_
        cases details with
        | none => exact keeps_throw _
        | some details => exact keeps_pure details
  | acceptInvitation now payload newUserId =>
    refine (KeepsAt.ends hd (keepsAt_lift_bind hd fun parsed hbody =>
      keepsAt_tryCatch (KeepsAt.bind ?_ fun found => ?_) fun e => ?_)).bind_pure ()
    · obtain ⟨hpassword, rfl⟩ := InvitationAccept.validate_eq_ok.mp hbody
      exact keepsAt_verifyToken hd fun x hx ht he v' hw =>
        hI d v' hd ⟨_, .accept hpassword hx ht he, hw⟩
    · cases found with
      | none => exact keeps_throw _
      | some x => exact keeps_createInvitedUser_bind
    · cases e with
      | http status detail => exact keeps_throw _
      | valueError message => exact keeps_throw _
      | _ => exact keeps_rollback.bind fun _ => keeps_throw _
  | listUsersInTenant tenantId page limit search =>
    exact hkeeps (keeps_ignore (keeps_getTenantFromPath_bind fun t _ =>
      keeps_getMultiByTenantPaginated _ _ _ _))
  | getTenantUser tenantId userId =>
    refine hkeeps (keeps_ignore (keeps_getTenantFromPath_bind fun t _ =>
      (keeps_query _).bind fun found => ?_))
    cases found with
    | none => exact keeps_throw _
    | some u => exact keeps_pure u
  | assignRole tenantId userId roleId => exact ends_assignRole hI hd
  | removeRole tenantId userId roleId =>
    refine hkeeps (keeps_getTenantFromPath_bind fun t ht => (keeps_lift _).bind fun _ => ?_)
    subst ht
    refine (hI.keeps_deleteAssignments false fun _ => .removeRole).bind fun n => ?_
    split_ifs
    · exact keeps_throw _
    · exact keeps_pure ()
  | listRoles now skip limit =>
    exact ((Deps.yields_requirePermissionInActiveTenant env now h d _).bind_ends hd fun _ _ =>
      (keeps_throw _).keepsAt (hI.identified rfl hd)).bind_pure ()
  | getRoleDetails tenantId roleId =>
    refine hkeeps (keeps_ignore (keeps_getTenantFromPath_bind fun t _ =>
      (keeps_lift _).bind fun _ => (RoleService.keeps_getRoleWithPermissions _).bind fun found =>
        ?_))
    cases found with
    | none => exact keeps_throw _
    | some r =>
      dsimp only
      split_ifs
      · exact keeps_throw _
      · exact keeps_pure r
  | listPermissions now =>
    exact ((Deps.yields_requirePermissionInActiveTenant env now h d _).bind_ends hd fun _ _ =>
      (keeps_query _).keepsAt (hI.identified rfl hd)).bind_pure ()
  | getAssignedUsers tenantId roleId =>
    refine hkeeps (keeps_ignore (keeps_getTenantFromPath_bind fun t _ =>
      (keeps_get _ _ _).bind fun found => ?_))
    cases found with
    | none => exact keeps_throw _
    | some r =>
      dsimp only
      split_ifs
      · exact keeps_throw _
      · exact (keeps_query _).bind fun users => keeps_pure _

/-- What the statements of a request cannot lead out of holds after it. -/
theorem Closes.outcome (hI : Closes env h d r I) (hd : I d) (closing : Ending)
    (security : Security) : I (ApiRequest.outcome closing env security (h, r) d) :=
  (ends_handle hd (r.ends_endpoint hI hd)).stored closing

/-- A request takes the store through a sequence of its own statements. -/
theorem outcome_reached (closing : Ending) (env : Env) (security : Security) (h : Headers)
    (r : ApiRequest) (d : Database) :
    Relation.ReflTransGen (Step env h d r) d (outcome closing env security (h, r) d) :=
  Closes.outcome (fun _ _ hv hs => hv.tail hs) .refl closing security

end ApiRequest
end VirtualStack
