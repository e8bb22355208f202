import VirtualStack.TenantAdministration
import VirtualStack.UserWrites

/-!
# Superusers and passwords

`CRUDBase.update` copies every supplied key that names an attribute, so that the
columns `is_superuser` and `hashed_password` are safe only as far as no endpoint
lets such a key through. The requests below are all the endpoints of the API.
-/

namespace VirtualStack
open UnitOfWork

/-- A request to the API. The ones made on behalf of the current user and the
administration of tenants have types of their own. -/
inductive ApiRequest where
  | personal (now : Time) (r : PersonalRequest)
  | admin (r : AdminRequest)
  | login (now : Time) (username password : String)
  | getTenantById (tenantId : UUID)
  | getTenantBySlug (slug : String)
  | verifyInvitation (now : Time) (token : String)
  | acceptInvitation (now : Time) (payload : InvitationAccept) (newUserId : UUID)
  | listUsersInTenant (tenantId : UUID) (page limit : ℕ) (search : Option String)
  | getTenantUser (tenantId userId : UUID)
  | assignRole (tenantId userId roleId : UUID)
  | removeRole (tenantId userId roleId : UUID)
  | listRoles (now : Time) (skip limit : ℕ)
  | getRoleDetails (tenantId roleId : UUID)
  | listPermissions (now : Time)
  | getAssignedUsers (tenantId roleId : UUID)

namespace ApiRequest

def endpoint (env : Env) (security : Security) (h : Headers) : ApiRequest → Db Unit
  | personal now r => r.endpoint env now h
  | admin r => r.endpoint env h
  | login now username password =>
    ignore (Endpoints.loginAccessToken security now username password)
  | getTenantById tenantId => ignore (Endpoints.getTenantById tenantId)
  | getTenantBySlug slug => ignore (Endpoints.getTenantBySlug slug)
  | verifyInvitation now token => ignore (Endpoints.verifyInvitationToken now token)
  | acceptInvitation now payload newUserId =>
    ignore (Endpoints.acceptInvitation env now payload newUserId)
  | listUsersInTenant tenantId page limit search =>
    ignore (Endpoints.listUsersInTenant tenantId page limit search)
  | getTenantUser tenantId userId => ignore (Endpoints.getTenantUser tenantId userId)
  | assignRole tenantId userId roleId =>
    Endpoints.assignRoleToUser env h tenantId userId roleId
  | removeRole tenantId userId roleId =>
    Endpoints.removeRoleFromUser env h tenantId userId roleId
  | listRoles now skip limit => ignore (Endpoints.listRolesInActiveTenant env now h skip limit)
  | getRoleDetails tenantId roleId => ignore (Endpoints.getRoleDetails env h tenantId roleId)
  | listPermissions now => ignore (Endpoints.listAvailablePermissions env now h)
  | getAssignedUsers tenantId roleId => ignore (Endpoints.getAssignedUsersForRole tenantId roleId)

/-- The stored rows after a request. -/
def next (env : Env) (security : Security) (call : Headers × ApiRequest) : Database → Database :=
  settle (Deps.handle call.1 (call.2.endpoint env security call.1))

end ApiRequest

/-! ## The accounts -/

/-- What must not be written by the way. -/
def Database.accounts (d : Database) : List (UUID × Bool × String) :=
  d.users.map fun u => (u.id, u.isSuperuser, u.hashedPassword)

theorem onUsers_accounts (accounts : List (UUID × Bool × String)) :
    OnUsers fun v => v.accounts = accounts := by
  intro v v' hu hv
  rw [Database.accounts, hu]
  exact hv

/-- Setting `is_active` leaves the accounts. -/
theorem accounts_status (env : Env) (accounts : List (UUID × Bool × String)) (id : UUID)
    (isActive : Bool) :
    RelatedWrites (fun v v' : Database => v = v' ∧ v.accounts = accounts)
      ((UserUpdate.status isActive).statement env id)
      ((UserUpdate.status isActive).statement env id) := by
  rintro v _ ⟨rfl, hv⟩
  cases hw : (UserUpdate.status isActive).statement env id v with
  | error e => exact .error e
  | ok v' =>
    refine .ok ⟨rfl, ?_⟩
    rw [UserUpdate.statement] at hw
    split_ifs at hw
    rw [Database.accounts, Database.change_eq_ok_iff.mp hw, ← hv]
    exact Rows.map_modify _ _ (f := (UserUpdate.status isActive).apply env) (fun _ => rfl) v.users

/-! ## The endpoints on stores that are alike -/

/-- The updates of a user that the request may make are respected, too. -/
def PersonalRequest.UpdatesAlike (env : Env) (E : Database → Database → Prop)
    (r : PersonalRequest) : Prop :=
  ∀ body, ((∃ sent, r = .updateMe sent ∧ sent.validate env = .ok body) ∨
    ∃ userId b, r = .updateUserStatus userId b ∧ body = UserUpdate.status b) → ∀ id,
      RelatedWrites E (UserUpdate.statement env body id) (UserUpdate.statement env body id)

section Endpoints

variable {E : Database → Database → Prop} {env : Env} {security : Security} {h : Headers}

theorem PersonalRequest.respects_endpoint (hE : Alike env E) (now : Time) {r : PersonalRequest}
    (hr : r.UpdatesAlike env E) : Respects E (r.endpoint env now h) := by
  cases r with
  | listUsers page limit search =>
    exact respects_ignore ((hE.respects_requirePermissionInActiveTenant _).bind fun _ =>
      hE.respects_getMultiByTenantPaginated _ _ _ _)
  | getMe => exact respects_ignore hE.respects_getCurrentUser
  | updateMe sent =>
    refine respects_ignore (hE.respects_getCurrentUser.bind fun u =>
      respects_lift_bind fun body hbody => ?_)
    exact hE.respects_writeRow _ (fun _ => rfl) (hr body (.inl ⟨sent, rfl, hbody⟩) u.id) u.id
  | updateUserStatus userId isActive =>
    refine respects_ignore ((hE.respects_requirePermissionInActiveTenant _).bind fun _ =>
      (hE.respects_query fun _ => rfl).bind fun found => ?_)
    cases found with
    | none => exact respects_throw _
    | some u =>
      have hw := hr _ (.inr ⟨userId, isActive, rfl, rfl⟩) u.id
      exact (hE.respects_writeRow _ (fun _ => rfl) hw u.id).tryCatch fun _ => respects_throw _
  | removeUser userId => exact hE.respects_removeUser userId
  | listTenants =>
    exact respects_ignore (hE.respects_getCurrentUser.bind fun _ =>
      hE.respects_query fun _ => rfl)
  | createAPIKey body newId token => exact related_ignore (hE.quiet_createAPIKey body newId token)
  | listAPIKeys skip limit tenantId =>
    exact related_ignore (hE.quiet_readAPIKeys skip limit tenantId)
  | readAPIKey id =>
    exact related_ignore (hE.related_managedKey (R := APIKey.Same) id _ fun _ _ hk =>
      related_pure hk)
  | updateAPIKey id body => exact related_ignore (hE.quiet_updateAPIKey id body)
  | deleteAPIKey id => exact hE.respects_deleteAPIKey id
  | createInvitation body newId newToken =>
    refine respects_ignore ((hE.respects_requirePermissionInActiveTenant _).bind fun ut =>
      (respects_lift (body.validate env)).bind fun body =>
        (hE.respects_createInvitation _ newId newToken).tryCatch fun e => ?_)
    cases e <;> exact respects_throw _
  | listInvitations tenantId status skip limit =>
    exact respects_ignore (hE.respects_listInvitations tenantId status skip limit)
  | readInvitation id => exact respects_ignore (hE.respects_readInvitation id)
  | revokeInvitation id => exact respects_ignore (hE.respects_revokeInvitationEndpoint id)

theorem AdminRequest.respects_endpoint (hE : Alike env E) (r : AdminRequest) :
    Respects E (r.endpoint env h) := by
  cases r with
  | createTenant body newId =>
    refine respects_ignore ((respects_lift body.validate).bind fun body =>
      (hE.respects_query fun _ => rfl).bind fun found => ?_)
    cases found with
    | some t => exact respects_throw _
    | none =>
      have hw := hE.writes (f := Tables.addTenant (body.row newId)) (fun _ => rfl) fun _ => rfl
      exact hE.respects_writeRow _ (fun _ => rfl) hw newId
  | updateTenant tenantId body =>
    refine respects_ignore ((hE.respects_get _ (fun _ => rfl) tenantId).bind fun found => ?_)
    cases found with
    | none => exact respects_throw _
    | some t =>
      exact hE.respects_writeRow _ (fun _ => rfl) (hE.writes_tenantUpdate body t.id) t.id
  | deleteTenant tenantId =>
    refine (hE.respects_get _ (fun _ => rfl) tenantId).bind fun found => ?_
    cases found with
    | none => exact respects_throw _
    | some t =>
      refine (hE.respects_deleteRow _ (fun _ => rfl) (hE.writes_dropTenant tenantId) tenantId).bind
        fun deleted => ?_
      cases deleted with
      | none => exact respects_throw _
      | some t => exact respects_pure ()
  | createRole tenantId body newId =>
    exact respects_ignore ((hE.respects_getTenantFromPath tenantId).bind fun t =>
      (respects_lift _).bind fun _ => ((hE.respects_createCustomRole body t.id newId).bind fun _ =>
        hE.respects_roleDetail _ _).tryCatch fun e => respects_reraise _ e)
  | updateRole tenantId roleId body =>
    refine respects_ignore ((hE.respects_getTenantFromPath tenantId).bind fun t =>
      (respects_lift _).bind fun _ => (hE.respects_get _ (fun _ => rfl) roleId).bind
        fun found => ?_)
    cases found with
    | none => exact respects_throw _
    | some r =>
      dsimp only
      split_ifs
      · exact respects_throw _
      · exact respects_throw _
      · exact ((hE.respects_updateCustomRole r body).bind fun _ =>
          hE.respects_roleDetail _ _).tryCatch fun e => respects_reraise _ e
  | deleteRole tenantId roleId =>
    refine (hE.respects_getTenantFromPath tenantId).bind fun t => (respects_lift _).bind fun _ =>
      (hE.respects_deleteCustomRole roleId t.id).bind fun deleted => ?_
    cases deleted with
    | none => exact respects_throw _
    | some r => exact respects_pure ()
  | setRoleUsers tenantId roleId userIds =>
    exact respects_ignore ((hE.respects_getTenantFromPath tenantId).bind fun t =>
      hE.respects_setUsersForRole roleId t.id userIds)

theorem ApiRequest.respects_endpoint (hE : Alike env E) {r : ApiRequest}
    (hr : ∀ now r', r = .personal now r' → r'.UpdatesAlike env E) :
    Respects E (r.endpoint env security h) := by
  cases r with
  | personal now r => exact r.respects_endpoint hE now (hr now r rfl)
  | admin r => exact r.respects_endpoint hE
  | login now username password => exact respects_ignore (hE.respects_loginAccessToken security _ _)
  | getTenantById tenantId =>
    refine respects_ignore ((hE.respects_get _ (fun _ => rfl) tenantId).bind fun found => ?_)
    cases found with
    | none => exact respects_throw _
    | some t => exact respects_pure t
  | getTenantBySlug slug =>
    refine respects_ignore ((hE.respects_query fun _ => rfl).bind fun found => ?_)
    cases found with
    | none => exact respects_throw _
    | some t => exact respects_pure t
  | verifyInvitation now token =>
    exact respects_ignore (hE.respects_verifyInvitationToken token)
  | acceptInvitation now payload newUserId =>
    exact respects_ignore (hE.respects_acceptInvitationEndpoint payload newUserId)
  | listUsersInTenant tenantId page limit search =>
    exact respects_ignore ((hE.respects_getTenantFromPath tenantId).bind fun _ =>
      hE.respects_getMultiByTenantPaginated _ _ _ _)
  | getTenantUser tenantId userId =>
    refine respects_ignore ((hE.respects_getTenantFromPath tenantId).bind fun _ =>
      (hE.respects_query fun _ => rfl).bind fun found => ?_)
    cases found with
    | none => exact respects_throw _
    | some u => exact respects_pure u
  | assignRole tenantId userId roleId =>
    refine (hE.respects_getTenantFromPath tenantId).bind fun t => (respects_lift _).bind fun _ =>
      ((hE.respects_assignRole userId roleId t.id false).bind fun _ => respects_pure ()).tryCatch
        fun e => ?_
    cases e <;> exact respects_throw _
  | removeRole tenantId userId roleId =>
    refine (hE.respects_getTenantFromPath tenantId).bind fun t => (respects_lift _).bind fun _ =>
      (hE.respects_deleteAssignments _ false).bind fun n => ?_
    split_ifs
    · exact respects_throw _
    · exact respects_pure ()
  | listRoles now skip limit =>
    exact respects_ignore ((hE.respects_requirePermissionInActiveTenant _).bind fun _ =>
      respects_throw _)
  | getRoleDetails tenantId roleId =>
    refine respects_ignore ((hE.respects_getTenantFromPath tenantId).bind fun t =>
      (respects_lift _).bind fun _ => (hE.respects_getRoleWithPermissions roleId).bind
        fun found => ?_)
    cases found with
    | none => exact respects_throw _
    | some r =>
      dsimp only
      split_ifs
      · exact respects_throw _
      · exact respects_pure r
  | listPermissions now =>
    exact respects_ignore ((hE.respects_requirePermissionInActiveTenant _).bind fun _ =>
      hE.respects_query fun _ => rfl)
  | getAssignedUsers tenantId roleId =>
    refine respects_ignore ((hE.respects_getTenantFromPath tenantId).bind fun t =>
      (hE.respects_get _ (fun _ => rfl) roleId).bind fun found => ?_)
    cases found with
    | none => exact respects_throw _
    | some r =>
      dsimp only
      split_ifs
      · exact respects_throw _
      · exact (hE.respects_query fun _ => rfl).bind fun users => respects_pure _

end Endpoints

/-! ## One request -/

/-- What `PUT /me` writes for a password that is given, with any address. -/
theorem UserUpdate.apply_password {env : Env} {body : UserUpdate} {p : String}
    (hp : body.password = some (some p)) (hfits : body.passwordFits) (email : Field String)
    (u : User) : p ≠ "" ∧ 8 ≤ p.length ∧
      (({ body with email := email } : UserUpdate).apply env u).hashedPassword =
        env.createPasswordHash p := by
  have hlen : 8 ≤ p.length := by simpa [UserUpdate.passwordFits, hp] using hfits
  have hne : p ≠ "" := by
    rintro rfl
    exact absurd hlen (by decide)
  exact ⟨hne, hlen, by simp [UserUpdate.apply, hp, hne]⟩

namespace ApiRequest

variable {env : Env} {security : Security} {h : Headers} {d : Database}

theorem next_accounts (env : Env) (security : Security) (h : Headers) (d : Database)
    {r : ApiRequest} (hr : ∀ now body, r ≠ .personal now (.updateMe body)) :
    (next env security (h, r) d).accounts = d.accounts := by
  have hE := (onUsers_accounts d.accounts).alike env
  refine Respects.keeps (respects_handle (respects_endpoint hE fun now r' hr' => ?_)) rfl
  rintro body (⟨sent, rfl, -⟩ | ⟨userId, isActive, rfl, rfl⟩) id
  · exact absurd hr' (hr now sent)
  · exact accounts_status env d.accounts id isActive

/-- `PUT /me` is refused, or changes the row of the caller. -/
theorem updateMe_cases (env : Env) (security : Security) (h : Headers) (now : Time)
    (sent : UserUpdate) (d : Database) :
    (∃ e, serve (Deps.handle h ((personal now (.updateMe sent)).endpoint env security h)) d =
      (.error e, .start d)) ∨
    ∃ u body, Deps.currentUser env now h d = .ok u ∧ sent.validate env = .ok body ∧
      (next env security (h, .personal now (.updateMe sent)) d).users =
        Rows.modify (·.id) u.id (body.apply env) d.users := by
  by_cases hm : h.xTenantId = some .malformed
  · exact .inl (Deps.fails_handle hm).serve
  by_cases hc : ∃ u body, Deps.currentUser env now h d = .ok u ∧ sent.validate env = .ok body ∧
      body.Accepted env u.id (Deps.identifiedView env now h d)
  · obtain ⟨u, body, hu, hw, hb⟩ := hc
    refine .inr ⟨u, body, hu, hw, ?_⟩
    have hret : Returns ((PersonalRequest.updateMe sent).endpoint env now h) d () _ :=
      (Endpoints.returns_updateCurrentUser hu hw hb).bind (returns_pure () _)
    rw [next, Deps.settle_handle_of_ne hm, endpoint, hret.settle]
    change Rows.modify _ _ _ (Deps.identifiedView env now h d).users = _
    rw [(Deps.identifiedView_checks env now h d).2.1]
  · left
    have hf : Fails ((PersonalRequest.updateMe sent).endpoint env now h) d :=
      (Endpoints.fails_updateCurrentUser fun u body hu hw hb => hc ⟨u, body, hu, hw, hb⟩).bind _
    rw [Deps.serve_handle hm, endpoint]
    exact hf.serve

/-- `PUT /me` changes nothing, or the row of the caller. -/
theorem next_updateMe (env : Env) (security : Security) (h : Headers) (now : Time)
    (sent : UserUpdate) (d : Database) :
    next env security (h, .personal now (.updateMe sent)) d = d ∨
    ∃ u body, Deps.currentUser env now h d = .ok u ∧ sent.validate env = .ok body ∧
      (next env security (h, .personal now (.updateMe sent)) d).users =
        Rows.modify (·.id) u.id (body.apply env) d.users := by
  obtain ⟨e, he⟩ | hu := updateMe_cases env security h now sent d
  · left
    rw [next, settle, he]
  · exact .inr hu

/-- No request creates a user or writes the flag. -/
theorem next_flags (env : Env) (security : Security) (call : Headers × ApiRequest)
    (d : Database) : (next env security call d).users.map (fun u => (u.id, u.isSuperuser)) =
      d.users.map fun u => (u.id, u.isSuperuser) := by
  obtain ⟨h, r⟩ := call
  by_cases hr : ∀ now body, r ≠ .personal now (.updateMe body)
  · have hacc := congrArg (List.map fun a => (a.1, a.2.1)) (next_accounts env security h d hr)
    rw [Database.accounts, Database.accounts, List.map_map, List.map_map] at hacc
    exact hacc
  · simp only [not_forall, not_not] at hr
    obtain ⟨now, sent, rfl⟩ := hr
    obtain hd | ⟨u, body, -, -, hu⟩ := next_updateMe env security h now sent d
    · rw [hd]
    · rw [hu]
      exact Rows.map_modify _ _ (f := body.apply env) (fun _ => rfl) d.users

/-- The password of a user changes only when that user sets one. -/
theorem next_password {r : ApiRequest} {u u' : User} (hu : u ∈ d.users)
    (hu' : u' ∈ (next env security (h, r) d).users) (hid : u'.id = u.id) :
    u'.hashedPassword = u.hashedPassword ∨
    ∃ now body p, r = .personal now (.updateMe body) ∧ Deps.currentUser env now h d = .ok u ∧
      body.password = some (some p) ∧ p ≠ "" ∧ 8 ≤ p.length ∧
      u'.hashedPassword = env.createPasswordHash p := by
  by_cases hr : ∀ now body, r ≠ .personal now (.updateMe body)
  · left
    have hmem : (u'.id, u'.isSuperuser, u'.hashedPassword) ∈ d.accounts := by
      rw [← next_accounts env security h d hr]
      exact List.mem_map.mpr ⟨u', hu', rfl⟩
    obtain ⟨v, hv, heq⟩ := List.mem_map.mp hmem
    simp only [Prod.mk.injEq] at heq
    rw [← heq.2.2, Rows.eq_of_key_eq d.valid.keys.usersId hv hu (heq.1.trans hid)]
  · simp only [not_forall, not_not] at hr
    obtain ⟨now, sent, rfl⟩ := hr
    obtain hd | ⟨w, body, hw, hbody, husers⟩ := next_updateMe env security h now sent d
    · rw [hd] at hu'
      rw [Rows.eq_of_key_eq d.valid.keys.usersId hu' hu hid]
      exact .inl rfl
    · rw [husers] at hu'
      obtain ⟨x, hx, rfl⟩ := Rows.mem_modify.mp hu'
      have hxid : x.id = u.id := by
        split_ifs at hid <;> exact hid
      obtain rfl := Rows.eq_of_key_eq d.valid.keys.usersId hx hu hxid
      by_cases hself : x.id = w.id
      · obtain rfl := Rows.eq_of_key_eq d.valid.keys.usersId hx (Deps.mem_of_currentUser hw) hself
        rw [if_pos rfl]
        obtain ⟨email, -, hfits, rfl⟩ := UserUpdate.validate_eq_ok.mp hbody
        rcases hp : sent.password with _ | _ | p
        · exact .inl (by simp [UserUpdate.apply])
        · exact .inl (by simp [UserUpdate.apply])
        · obtain ⟨hne, hlen, hhash⟩ := UserUpdate.apply_password hp hfits email x
          rw [hp] at hhash
          exact .inr ⟨now, sent, p, rfl, hw, hp, hne, hlen, hhash⟩
      · rw [if_neg hself]
        exact .inl rfl

/-- A `PUT /me` that succeeds with a password sets the hash of it. -/
theorem next_password_of_ok {now : Time} {body : UserUpdate} {p : String}
    (hp : body.password = some (some p))
    (hok : (serve (Deps.handle h ((personal now (.updateMe body)).endpoint env security h)) d).1 =
      .ok ()) :
    ∃ u, Deps.currentUser env now h d = .ok u ∧
      ∀ u' ∈ (next env security (h, .personal now (.updateMe body)) d).users, u'.id = u.id →
        u'.hashedPassword = env.createPasswordHash p := by
  obtain ⟨e, he⟩ | ⟨u, parsed, hu, hw, husers⟩ := updateMe_cases env security h now body d
  · rw [he] at hok
    cases hok
  · refine ⟨u, hu, fun u' hu' hid => ?_⟩
    rw [husers] at hu'
    obtain ⟨x, -, rfl⟩ := Rows.mem_modify.mp hu'
    have hx : x.id = u.id := by
      split_ifs at hid <;> exact hid
    rw [if_pos hx]
    obtain ⟨email, -, hfits, rfl⟩ := UserUpdate.validate_eq_ok.mp hw
    exact (UserUpdate.apply_password hp hfits email x).2.2

/-! ## Sequences of requests -/

/-- The stored rows after a list of requests. -/
def after (env : Env) (security : Security) (d : Database)
    (calls : List (Headers × ApiRequest)) : Database :=
  Runs.after (next env security) d calls

theorem after_flags (env : Env) (security : Security) (d : Database)
    (calls : List (Headers × ApiRequest)) :
    (after env security d calls).users.map (fun u => (u.id, u.isSuperuser)) =
      d.users.map fun u => (u.id, u.isSuperuser) :=
  Runs.after_invariant (I := fun v => v.users.map (fun u => (u.id, u.isSuperuser)) =
      d.users.map fun u => (u.id, u.isSuperuser))
    (fun call v hv => (next_flags env security call v).trans hv) rfl calls

/-- What a list of requests leaves alone. -/
structure Unescalated (env : Env) (security : Security) (d : Database)
    (calls : List (Headers × ApiRequest)) : Prop where
  /-- A user keeps the flag from any point of the run to any later one. -/
  superuser : ∀ pre mid post, calls = pre ++ (mid ++ post) →
    ∀ u ∈ (after env security d pre).users, ∃ u' ∈ (after env security d (pre ++ mid)).users,
      u'.id = u.id ∧ u'.isSuperuser = u.isSuperuser
  created : ∀ pre post, calls = pre ++ post → ∀ u ∈ (after env security d pre).users,
    (∀ v ∈ d.users, v.id ≠ u.id) → u.isSuperuser = false
  password : ∀ pre h r post, calls = pre ++ (h, r) :: post →
    ∀ u ∈ (after env security d pre).users,
    ∀ u' ∈ (after env security d (pre ++ [(h, r)])).users, u'.id = u.id →
      u'.hashedPassword = u.hashedPassword ∨
      ∃ now body p, r = .personal now (.updateMe body) ∧
        Deps.currentUser env now h (after env security d pre) = .ok u ∧
        body.password = some (some p) ∧ p ≠ "" ∧ 8 ≤ p.length ∧
        u'.hashedPassword = env.createPasswordHash p
  written : ∀ pre h now body post p,
    calls = pre ++ (h, .personal now (.updateMe body)) :: post → body.password = some (some p) →
    (serve (Deps.handle h ((personal now (.updateMe body)).endpoint env security h))
      (after env security d pre)).1 = .ok () →
    ∃ u, Deps.currentUser env now h (after env security d pre) = .ok u ∧
      ∀ u' ∈ (after env security d (pre ++ [(h, .personal now (.updateMe body))])).users,
        u'.id = u.id → u'.hashedPassword = env.createPasswordHash p

theorem after_concat (env : Env) (security : Security) (d : Database)
    (pre : List (Headers × ApiRequest)) (call : Headers × ApiRequest) :
    after env security d (pre ++ [call]) = next env security call (after env security d pre) :=
  Runs.after_append d pre [call]

theorem unescalated (env : Env) (security : Security) (d : Database)
    (calls : List (Headers × ApiRequest)) : Unescalated env security d calls where
  superuser pre mid post _ u hu := by
    have hmem : (u.id, u.isSuperuser) ∈
        (after env security d (pre ++ mid)).users.map fun u => (u.id, u.isSuperuser) := by
      rw [after_flags, ← after_flags env security d pre]
      exact List.mem_map.mpr ⟨u, hu, rfl⟩
    obtain ⟨u', hu', heq⟩ := List.mem_map.mp hmem
    exact ⟨u', hu', (Prod.mk.inj heq).1, (Prod.mk.inj heq).2⟩
  created pre post _ u hu hnew := by
    -- the ids are those at the start, so no user is new
    have hmem : (u.id, u.isSuperuser) ∈ d.users.map fun u => (u.id, u.isSuperuser) := by
      rw [← after_flags env security d pre]
      exact List.mem_map.mpr ⟨u, hu, rfl⟩
    obtain ⟨v, hv, heq⟩ := List.mem_map.mp hmem
    exact absurd (Prod.mk.inj heq).1 (hnew v hv)
  password pre h r post _ u hu u' hu' hid := by
    rw [after_concat] at hu'
    exact next_password hu hu' hid
  written pre h now body post p _ hp hok := by
    rw [after_concat]
    exact next_password_of_ok hp hok

end ApiRequest
end VirtualStack
