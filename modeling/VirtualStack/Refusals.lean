import VirtualStack.DurableTables

/-!
# What is left of a refused request

A request that is answered with an error has stored nothing, with two exceptions: a role
is created or updated before the request fails on the answer, and an invitation that is
found expired is marked. All other refused requests can be struck from the history of the
API.
-/

namespace VirtualStack
open UnitOfWork

/-! ## Programs that read -/

section Reads

variable {env : Env}

theorem withholds_get {α : Type} (rows : Database → List α) (key : α → UUID) (id : UUID) :
    Withholds (CRUDBase.get rows key id) := withholds_query _

theorem withholds_getMultiByTenantPaginated (tenantId : UUID) (skip limit : ℕ)
    (search : Option String) :
    Withholds (UserService.getMultiByTenantPaginated tenantId skip limit search) := by
  rw [UserService.getMultiByTenantPaginated]
  split_ifs
  · exact withholds_throw _
  · exact (withholds_query _).bind fun _ => (withholds_query _).bind fun _ =>
      (withholds_query _).bind fun _ => withholds_pure _

theorem withholds_select (p : APIKey → Bool) (skip limit : ℤ) :
    Withholds (APIKeyService.select p skip limit) :=
  (withholds_query _).bind fun _ => withholds_lift _

theorem withholds_checkUserPermissionForTenant (userId tenantId : UUID) (p : Permission) :
    Withholds (Endpoints.checkUserPermissionForTenant userId tenantId p) := by
  refine (withholds_query _).bind fun found => ?_
  cases found with
  | none => exact withholds_pure false
  | some q =>
    exact (withholds_query _).bind fun _ => (withholds_lift _).bind fun _ => withholds_pure _

theorem withholds_getInvitationWithDetails (now : Time) (id : UUID) :
    Withholds (InvitationService.getInvitationWithDetails now id) := by
  refine (withholds_get _ _ _).bind fun found => ?_
  cases found with
  | none => exact withholds_pure none
  | some x =>
    exact (withholds_query _).bind fun _ => (withholds_query _).bind fun _ => withholds_pure _

theorem withholds_requireManagement (u : User) (tenantId : UUID) (detail : String) :
    Withholds (Endpoints.requireManagement u tenantId detail) := by
  rw [Endpoints.requireManagement]
  split_ifs
  · exact withholds_pure ()
  · refine (withholds_checkUserPermissionForTenant _ _ _).bind fun allowed => ?_
    split_ifs
    · exact withholds_pure ()
    · exact withholds_throw _

theorem withholds_getTenantFromPath (tenantId : UUID) :
    Withholds (Deps.getTenantFromPath tenantId) := by
  refine (withholds_get _ _ _).bind fun found => ?_
  cases found with
  | none => exact withholds_throw _
  | some t => exact withholds_pure t

theorem withholds_getRoleWithPermissions (roleId : UUID) :
    Withholds (RoleService.getRoleWithPermissions env roleId) :=
  (withholds_lift _).bind fun _ => withholds_query _

/-- A token of no expired invitation is only looked up. -/
theorem returns_verifyToken {now : Time} {token : String} {d : Database}
    (hlive : ∀ x ∈ d.invitations, x.token = token → ¬x.expiresAt < now) :
    ∃ found, Returns (InvitationService.verifyToken now token) d found d := by
  obtain hunknown | ⟨x, hx, rfl, hexp | ⟨hexp, hclosed⟩ | hl⟩ :=
    InvitationService.token_cases now d token
  · exact ⟨_, InvitationService.verifyToken_unknown hunknown⟩
  · exact absurd hexp (hlive x hx rfl)
  · exact ⟨_, InvitationService.verifyToken_closed hx hexp hclosed⟩
  · exact ⟨_, InvitationService.verifyToken_live hx hl⟩

/-- No user is made, so nothing that would follow is reached. -/
theorem withholds_createInvitedUser_bind {β : Type} {payload : InvitationAccept} {x : Invitation}
    {newUserId : UUID} {f : User → Db β} :
    Withholds (Endpoints.createInvitedUser env payload x newUserId >>= f) := by
  intro s
  have hraises : ∃ e s', (Endpoints.createInvitedUser env payload x newUserId).run s =
      (.error e, s') ∧ s'.committed = s.committed := by
    rw [Endpoints.createInvitedUser, run_tryCatch, run_bind, run_lift]
    cases payload.userCreate env x.email with
    | ok body => exact ⟨_, _, rfl, rfl⟩
    | error e => cases e <;> exact ⟨_, _, rfl, rfl⟩
  obtain ⟨e, s', hs, hc⟩ := hraises
  rw [run_bind_error hs]
  exact hc

end Reads

/-! ## The requests -/

section Requests

variable {env : Env} {security : Security} {now : Time} {h : Headers} {d : Database} {α : Type}
  {x : Db α}

theorem failsClean_handle (hx : FailsClean x d) : FailsClean (Deps.handle h x) d := by
  by_cases hm : h.xTenantId = some .malformed
  · exact (Deps.fails_handle hm).failsClean
  · intro e s hs
    rw [Deps.serve_handle hm] at hs
    exact hx e s hs

namespace ApiRequest

/-- The requests that store nothing but the use of a key. -/
def reads : ApiRequest → Bool
  | personal _ (.listUsers ..) | personal _ .getMe | personal _ .listTenants
  | personal _ (.listAPIKeys ..) | personal _ (.readAPIKey _)
  | personal _ (.listInvitations ..) | personal _ (.readInvitation _)
  | login .. | getTenantById _ | getTenantBySlug _ | listUsersInTenant .. | getTenantUser ..
  | listRoles .. | getRoleDetails .. | listPermissions _ | getAssignedUsers .. => true
  | _ => false

end ApiRequest

theorem PersonalRequest.withholdsAt_endpoint (r : PersonalRequest)
    (hr : ApiRequest.reads (.personal now r)) : WithholdsAt (r.endpoint env now h) d := by
  cases r with
  | listUsers page limit search =>
    exact ((Deps.yields_requirePermissionInActiveTenant env now h d _).bind_withholds fun ut =>
      withholds_getMultiByTenantPaginated _ _ _ _).bind_pure _
  | getMe =>
    exact (Deps.yields_getCurrentUser env now h d).bind_withholds fun u => withholds_pure ()
  | listTenants =>
    exact ((Deps.yields_getCurrentUser env now h d).bind_withholds fun u =>
      withholds_query _).bind_pure _
  | listAPIKeys skip limit tenantId =>
    refine ((Deps.yields_getCurrentActiveUser env now h d).bind_withholds
      fun u => ?_).bind_pure _
    split_ifs
    · cases tenantId <;> exact withholds_select _ _ _
    · refine (withholds_select _ _ _).bind fun keys => ?_
      cases tenantId <;> exact withholds_pure _
  | readAPIKey id =>
    refine WithholdsAt.bind_pure ?_ _
    obtain hf | ⟨u, k, -, hret, -⟩ := Endpoints.readAPIKey_cases env now h d id
    · exact hf.withholdsAt
    · exact hret.withholdsAt
  | listInvitations tenantId status skip limit =>
    refine ((Deps.yields_getCurrentActiveUser env now h d).bind_withholds fun u =>
      (withholds_checkUserPermissionForTenant _ _ _).bind fun b => ?_).bind_pure _
    split_ifs
    · exact withholds_throw _
    · refine Withholds.tryCatch ?_ fun _ => withholds_throw _
      cases status with
      | none => exact withholds_query _
      | some status => exact (withholds_query _).bind fun _ => withholds_pure _
  | readInvitation id =>
    refine ((Deps.yields_getCurrentUser env now h d).bind_withholds fun u =>
      ((withholds_getInvitationWithDetails _ _).bind fun found => ?_).tryCatch
        fun e => by cases e <;> exact withholds_throw _).bind_pure _
    cases found with
    | none => exact withholds_throw _
    | some details => exact (withholds_requireManagement _ _ _).bind fun _ => withholds_pure _
  | _ => cases hr

namespace ApiRequest

theorem withholdsAt_endpoint (r : ApiRequest) (hr : r.reads) :
    WithholdsAt (r.endpoint env security h) d := by
  cases r with
  | personal now r => exact r.withholdsAt_endpoint hr
  | login now username password =>
    refine WithholdsAt.bind_pure (Withholds.at ((withholds_query _).bind fun found => ?_) d) _
    cases found with
    | none => exact withholds_throw _
    | some u =>
      refine (withholds_lift _).bind fun same => ?_
      split_ifs
      · exact withholds_lift _
      · exact withholds_throw _
      · exact withholds_throw _
  | getTenantById tenantId =>
    refine WithholdsAt.bind_pure (Withholds.at ((withholds_get _ _ _).bind fun found => ?_) d) _
    cases found with
    | none => exact withholds_throw _
    | some t => exact withholds_pure t
  | getTenantBySlug slug =>
    refine WithholdsAt.bind_pure (Withholds.at ((withholds_query _).bind fun found => ?_) d) _
    cases found with
    | none => exact withholds_throw _
    | some t => exact withholds_pure t
  | listUsersInTenant tenantId page limit search =>
    exact (Withholds.at ((withholds_getTenantFromPath _).bind fun t =>
      withholds_getMultiByTenantPaginated _ _ _ _) d).bind_pure _
  | getTenantUser tenantId userId =>
    refine WithholdsAt.bind_pure (Withholds.at ((withholds_getTenantFromPath _).bind fun t =>
      (withholds_query _).bind fun found => ?_) d) _
    cases found with
    | none => exact withholds_throw _
    | some u => exact withholds_pure u
  | listRoles now skip limit =>
    exact ((Deps.yields_requirePermissionInActiveTenant env now h d _).bind_withholds fun ut =>
      withholds_throw _).bind_pure _
  | getRoleDetails tenantId roleId =>
    refine WithholdsAt.bind_pure (Withholds.at ((withholds_getTenantFromPath _).bind fun t =>
      (withholds_lift _).bind fun _ => (withholds_getRoleWithPermissions _).bind fun found => ?_)
        d) _
    cases found with
    | none => exact withholds_throw _
    | some r =>
      dsimp only
      split_ifs
      · exact withholds_throw _
      · exact withholds_pure r
  | listPermissions now =>
    exact ((Deps.yields_requirePermissionInActiveTenant env now h d _).bind_withholds fun ut =>
      withholds_query _).bind_pure _
  | getAssignedUsers tenantId roleId =>
    refine WithholdsAt.bind_pure (Withholds.at ((withholds_getTenantFromPath _).bind fun t =>
      (withholds_get _ _ _).bind fun found => ?_) d) _
    cases found with
    | none => exact withholds_throw _
    | some r =>
      dsimp only
      split_ifs
      · exact withholds_throw _
      · exact (withholds_query _).bind fun users => withholds_pure _
  | _ => cases hr

end ApiRequest

namespace Endpoints

instance (d : Database) (tenantId : UUID) (body : RoleCreate) (newId : UUID) :
    Decidable (CanCreateRole d tenantId body newId) := by
  unfold CanCreateRole
  infer_instance

instance (env : Env) (h : Headers) (d : Database) (tenantId : UUID) :
    Decidable (Admits env h d tenantId) := by
  unfold Admits
  infer_instance

theorem fails_createRole {tenantId newId : UUID} {body : RoleCreate}
    (hc : ¬(Admits env h d tenantId ∧ CanCreateRole d tenantId body newId)) :
    Fails (createCustomRoleInTenant env h tenantId body newId) d := by
  by_cases ha : Admits env h d tenantId
  · obtain ⟨⟨t, ht, rfl⟩, hg⟩ := ha
    have hcreate : Fails (RoleService.createCustomRole env body t.id newId) d :=
      fails_createCustomRole fun hcan => hc ⟨⟨⟨t, ht, rfl⟩, hg⟩, hcan⟩
    exact (Deps.returns_getTenantFromPath ht).bind_fails ((returns_lift hg d).bind_fails
      ((hcreate.bind _).tryCatch (reraise_throws _)))
  · exact fails_unless_admits ha

theorem fails_updateRole {tenantId roleId : UUID} {body : RoleUpdate}
    (hc : ∀ r d', ¬(Admits env h d tenantId ∧ CanUpdateRole d tenantId roleId body r d')) :
    Fails (updateCustomRoleInTenant env h tenantId roleId body) d := by
  by_cases ha : Admits env h d tenantId
  · obtain ⟨⟨t, ht, rfl⟩, hg⟩ := ha
    exact fails_updateCustomRoleInTenant ht hg fun r d' hcan => hc r d' ⟨⟨⟨t, ht, rfl⟩, hg⟩, hcan⟩
  · exact fails_unless_admits ha

/-- The role is deleted, or nothing is. -/
theorem deleteRole_cases (env : Env) (h : Headers) (d : Database) (tenantId roleId : UUID) :
    Fails (deleteCustomRoleFromTenant env h tenantId roleId) d ∨
      serve (deleteCustomRoleFromTenant env h tenantId roleId) d =
        (.ok (), .start ⟨_, d.valid.dropRole roleId⟩) := by
  by_cases ha : Admits env h d tenantId
  · obtain ⟨⟨t, ht, rfl⟩, hg⟩ := ha
    by_cases hc : ∃ r, RoleService.Deletable d roleId t.id r
    · obtain ⟨r, hr⟩ := hc
      right
      rw [deleteCustomRoleFromTenant, serve_of_admits ht hg, serve,
        run_bind_ok (RoleService.run_deleteCustomRole hr d)]
      rfl
    · exact .inl (fails_deleteCustomRole ht hg fun r hr => hc ⟨r, hr⟩)
  · exact .inl (fails_unless_admits ha)

/-- The users of the role are set, or nothing is. -/
theorem setRoleUsers_cases (d : Database) (tenantId roleId : UUID) (userIds : List UUID) :
    Fails (setAssignedUsersForRole tenantId roleId userIds) d ∨
      ∃ d', serve (setAssignedUsersForRole tenantId roleId userIds) d = (.ok userIds, .start d') ∧
        d'.toTables = Tables.addNewAssignments (userIds.map (⟨·, roleId, tenantId⟩))
          (d.dropAssignments fun x => x.roleId = roleId ∧ x.tenantId = tenantId) := by
  by_cases hc : ∃ t ∈ d.tenants, t.id = tenantId ∧ ∃ r ∈ d.roles, r.id = roleId ∧
      RoleService.Accessible r tenantId ∧ ∀ u ∈ userIds, u ∈ d.users.map (·.id)
  · obtain ⟨t, ht, rfl, r, hr, rfl, hacc, husers⟩ := hc
    obtain ⟨d', hrun, htables⟩ := RoleService.run_setUsersForRole hr hacc
      (List.mem_map.mpr ⟨t, ht, rfl⟩) husers d
    refine .inr ⟨d', ?_, htables⟩
    rw [setAssignedUsersForRole, serve, run_bind_ok (Deps.returns_getTenantFromPath ht d), hrun]
  · refine .inl (fails_setAssignedUsers ?_)
    rintro ⟨t, ht, hid⟩ r hr hrid hacc
    by_contra hall
    exact hc ⟨t, ht, hid, r, hr, hrid, hacc, by simpa using hall⟩

/-- Without an expired invitation nothing is stored. -/
theorem withholdsAt_verifyInvitationToken {token : String}
    (hlive : ∀ x ∈ d.invitations, x.token = token → ¬x.expiresAt < now) :
    WithholdsAt (verifyInvitationToken now token) d := by
  obtain ⟨found, hret⟩ := returns_verifyToken hlive
  refine WithholdsAt.tryCatch (hret.bind_withholds ?_) fun e => by
    cases e <;> exact withholds_throw _
  cases found with
  | none => exact withholds_throw _
  | some x =>
    refine (withholds_getInvitationWithDetails _ _).bind fun details => ?_
    cases details with
    | none => exact withholds_throw _
    | some details => exact withholds_pure details

theorem withholdsAt_acceptInvitation {payload : InvitationAccept} {newUserId : UUID}
    (hlive : 8 ≤ payload.password.length →
      ∀ x ∈ d.invitations, x.token = payload.token → ¬x.expiresAt < now) :
    WithholdsAt (acceptInvitation env now payload newUserId) d := by
  refine withholdsAt_lift_bind fun parsed hbody => ?_
  obtain ⟨hpassword, rfl⟩ := InvitationAccept.validate_eq_ok.mp hbody
  obtain ⟨found, hret⟩ := returns_verifyToken (hlive hpassword)
  refine WithholdsAt.tryCatch (hret.bind_withholds ?_) fun e => ?_
  · cases found with
    | none => exact withholds_throw _
    | some x => exact withholds_createInvitedUser_bind
  · cases e with
    | http status detail => exact withholds_throw _
    | valueError message => exact withholds_throw _
    | _ => exact withholds_rollback.bind fun _ => withholds_throw _

end Endpoints

namespace ApiRequest

/-- The request commits something before the last step in which it can fail. -/
def commitsEarly (env : Env) (h : Headers) (d : Database) : ApiRequest → Bool
  | admin (.createRole tenantId body newId) =>
    Endpoints.Admits env h d tenantId ∧ Endpoints.CanCreateRole d tenantId body newId
  | admin (.updateRole tenantId roleId body) =>
    Endpoints.Admits env h d tenantId ∧ d.roles.any fun r => r.id = roleId ∧
      r.tenantId = some tenantId ∧ r.isSystemRole = false ∧ (RoleService.updateChange r body d).isOk
  | verifyInvitation now token => d.invitations.any fun x => x.token = token ∧ x.expiresAt < now
  | acceptInvitation now payload _ => 8 ≤ payload.password.length ∧
    d.invitations.any fun x => x.token = payload.token ∧ x.expiresAt < now
  | _ => false

theorem commitsEarly_updateRole {tenantId roleId : UUID} {body : RoleUpdate} :
    commitsEarly env h d (admin (.updateRole tenantId roleId body)) = true ↔ ∃ r d',
      Endpoints.Admits env h d tenantId ∧
        Endpoints.CanUpdateRole d tenantId roleId body r d' := by
  constructor
  · intro hc
    obtain ⟨ha, hany⟩ := of_decide_eq_true hc
    obtain ⟨r, hmem, hr⟩ := List.any_eq_true.mp hany
    obtain ⟨hid, hten, hsys, hchange⟩ := of_decide_eq_true hr
    cases hd' : RoleService.updateChange r body d with
    | error e =>
      rw [hd'] at hchange
      cases hchange
    | ok d' => exact ⟨r, d', ha, hmem, hid, hten, hsys, hd'⟩
  · rintro ⟨r, d', ha, hmem, hid, hten, hsys, hd'⟩
    refine decide_eq_true ⟨ha, List.any_eq_true.mpr ⟨r, hmem, ?_⟩⟩
    exact decide_eq_true ⟨hid, hten, hsys, by rw [hd']; rfl⟩

theorem failsClean_of_defers {r : ApiRequest} (hr : r.defers) :
    FailsClean (Deps.handle h (r.endpoint env security h)) d := by
  intro e s hs
  have hc := committed_serve (Deps.handle h (r.endpoint env security h)) d
  rw [hs, ← stored_discards] at hc
  exact hc.trans (outcome_of_defers env security h hr d)

theorem not_expired {token : String} {rows : List Invitation}
    (hr : (rows.any fun x => x.token = token ∧ x.expiresAt < now) = false) :
    ∀ x ∈ rows, x.token = token → ¬x.expiresAt < now := by
  intro x hx htoken hexp
  have hx := List.any_eq_false.mp hr x hx
  simp [htoken, hexp] at hx

theorem failsClean_endpoint (r : ApiRequest) (hd : r.defers = false)
    (hr : r.commitsEarly env h d = false) : FailsClean (r.endpoint env security h) d := by
  cases hreads : r.reads with
  | true => exact (r.withholdsAt_endpoint hreads).failsClean
  | false =>
    cases r with
    | personal now r =>
      cases r with
      | createAPIKey body newId token =>
        refine FailsClean.bind_pure ?_ _
        obtain hf | ⟨u, row, -, -, -, hv, hs⟩ :=
          Endpoints.createAPIKey_cases env now h d body newId token
        · exact hf.failsClean
        · exact failsClean_of_ok hs
      | createInvitation body newId newToken =>
        refine FailsClean.bind_pure ?_ _
        cases hu : Deps.permitted env now h .tenantManageInvitations d with
        | error e =>
          exact (((Deps.yields_requirePermissionInActiveTenant env now h d _).raises hu).bind
            _).fails.failsClean
        | ok ut =>
          by_cases hc : ∃ parsed, body.validate env = .ok parsed ∧ InvitationService.Creatable
              (Deps.identifiedView env now h d) (parsed.request ut.1.id) now newId newToken
          · obtain ⟨parsed, hw, hc⟩ := hc
            obtain ⟨y, token, s, hrun, -⟩ := Endpoints.createInvitation_creatable hu hw hc
            exact failsClean_of_ok (serve_of_ok hrun)
          · exact (Endpoints.fails_createInvitation hu fun parsed hw hb =>
              hc ⟨parsed, hw, hb⟩).failsClean
      | revokeInvitation id =>
        refine FailsClean.bind_pure ?_ _
        cases hu : Deps.currentUser env now h d with
        | error e =>
          exact (((Deps.yields_getCurrentUser env now h d).raises hu).bind _).fails.failsClean
        | ok u =>
          obtain hf | ⟨y, s, hrun, -⟩ := Endpoints.revokeInvitation_cases hu id
          · exact hf.failsClean
          · exact failsClean_of_ok (serve_of_ok hrun)
      | updateMe | updateUserStatus | removeUser | updateAPIKey | deleteAPIKey => cases hd
      | _ => cases hreads
    | admin r =>
      cases r with
      | createTenant | updateTenant | deleteTenant => cases hd
      | createRole tenantId body newId =>
        exact (Endpoints.fails_createRole (of_decide_eq_false hr)).failsClean.bind_pure _
      | updateRole tenantId roleId body =>
        refine (Endpoints.fails_updateRole fun r d' hc => ?_).failsClean.bind_pure _
        rw [commitsEarly_updateRole.mpr ⟨r, d', hc⟩] at hr
        cases hr
      | deleteRole tenantId roleId =>
        obtain hf | hs := Endpoints.deleteRole_cases env h d tenantId roleId
        · exact hf.failsClean
        · exact failsClean_of_ok hs
      | setRoleUsers tenantId roleId userIds =>
        refine FailsClean.bind_pure ?_ _
        obtain hf | ⟨d', hs, -⟩ := Endpoints.setRoleUsers_cases d tenantId roleId userIds
        · exact hf.failsClean
        · exact failsClean_of_ok hs
    | assignRole | removeRole => cases hd
    | verifyInvitation now token =>
      exact (Endpoints.withholdsAt_verifyInvitationToken (not_expired hr)).failsClean.bind_pure _
    | acceptInvitation now payload newUserId =>
      have hlive := of_decide_eq_false hr
      exact (Endpoints.withholdsAt_acceptInvitation fun hpassword => not_expired
        (Bool.eq_false_iff.mpr fun hany => hlive ⟨hpassword, hany⟩)).failsClean.bind_pure _
    | _ => cases hreads

/-- The request is answered with an error, and is no exception. -/
def refused (env : Env) (security : Security) (call : Headers × ApiRequest) (d : Database) :
    Bool :=
  (call.1.xTenantId = some .malformed || !call.2.commitsEarly env call.1 d) &&
    match (serve (Deps.handle call.1 (call.2.endpoint env security call.1)) d).1 with
    | .ok _ => false
    | .error _ => true

theorem outcome_of_refused (closing : Ending) {call : Headers × ApiRequest}
    (hrefused : refused env security call d) : outcome closing env security call d = d := by
  obtain ⟨h, r⟩ := call
  rw [refused, Bool.and_eq_true] at hrefused
  obtain ⟨hr, he⟩ := hrefused
  have hclean : FailsClean (Deps.handle h (r.endpoint env security h)) d := by
    by_cases hm : h.xTenantId = some .malformed
    · exact (Deps.fails_handle hm).failsClean
    · cases hd : r.defers with
      | true => exact failsClean_of_defers hd
      | false => exact failsClean_handle (r.failsClean_endpoint hd (by simpa [hm] using hr))
  cases hs : (serve (Deps.handle h (r.endpoint env security h)) d).1 with
  | ok a =>
    rw [hs] at he
    cases he
  | error e => exact hclean.stored hs closing

/-- The refused requests can be struck from every history: the others alone, in the same
order, lead to the same store. -/
theorem after_without_refused (closing : Ending) (env : Env) (security : Security) (d : Database)
    (calls : List (Headers × ApiRequest)) :
    Runs.after (outcome closing env security) d
        (Runs.performed (outcome closing env security) (refused env security) d calls) =
      Runs.after (outcome closing env security) d calls :=
  Runs.after_performed (fun _ _ hrefused => outcome_of_refused closing hrefused) d calls

end ApiRequest
end Requests
end VirtualStack
