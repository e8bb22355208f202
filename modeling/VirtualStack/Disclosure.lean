import VirtualStack.AccessibleTenants
import VirtualStack.Answers
import VirtualStack.InvitationRequests
import VirtualStack.Privileges
import VirtualStack.RoleListing
import VirtualStack.RoleMembers
import VirtualStack.RoleReplacement
import VirtualStack.UserPages

/-!
# What the answers show, and to whom

Some endpoints ask for credentials, others for nothing but an id in their path. Here every
row in every answer has grounds on which it is shown.
-/

namespace VirtualStack
open UnitOfWork

/-- A row that an answer shows, or the id of a user. The permissions of the catalogue belong
to nobody and are left out, as are the name of the tenant and the address of the inviter
that come with the details of an invitation. -/
inductive Record where
  | user (u : User)
  | userId (id : UUID)
  | tenant (t : Tenant)
  | role (r : Role)
  | apiKey (k : APIKey)
  | invitation (x : Invitation)
  deriving DecidableEq, Repr

def PersonalRequest.answer (env : Env) (now : Time) (h : Headers) :
    PersonalRequest → Db (List Record)
  | listUsers page limit search => do
    let answer ← Endpoints.listUsersInActiveTenant env now h page limit search
    pure (answer.1.map fun p => .user p.1)
  | getMe => do
    let u ← Endpoints.getCurrentUserInfo env now h
    pure [.user u]
  | updateMe body => do
    let u ← Endpoints.updateCurrentUser env now h body
    pure [.user u]
  | updateUserStatus userId isActive => do
    let u ← Endpoints.updateUserStatusInActiveTenant env now h userId isActive
    pure [.user u]
  | removeUser userId => do
    Endpoints.removeUserFromActiveTenant env now h userId
    pure []
  | listTenants => do
    let tenants ← Endpoints.listAccessibleTenants env now h
    pure (tenants.map .tenant)
  | createAPIKey body newId token => do
    let answer ← Endpoints.createAPIKey env now h body newId token
    pure [.apiKey answer.1]
  | listAPIKeys skip limit tenantId => do
    let keys ← Endpoints.readAPIKeys env now h skip limit tenantId
    pure (keys.map .apiKey)
  | readAPIKey apiKeyId => do
    let k ← Endpoints.readAPIKey env now h apiKeyId
    pure [.apiKey k]
  | updateAPIKey apiKeyId body => do
    let k ← Endpoints.updateAPIKey env now h apiKeyId body
    pure [.apiKey k]
  | deleteAPIKey apiKeyId => do
    Endpoints.deleteAPIKey env now h apiKeyId
    pure []
  | createInvitation body newId newToken => do
    let answer ← Endpoints.createInvitation env now h body newId newToken
    pure [.invitation answer.1]
  | listInvitations tenantId status skip limit => do
    let invitations ← Endpoints.listInvitations env now h tenantId status skip limit
    pure (invitations.map .invitation)
  | readInvitation invitationId => do
    let details ← Endpoints.readInvitation env now h invitationId
    pure [.invitation details.invitation]
  | revokeInvitation invitationId => do
    let x ← Endpoints.revokeInvitation env now h invitationId
    pure [.invitation x]

def AdminRequest.answer (env : Env) (h : Headers) : AdminRequest → Db (List Record)
  | createTenant body newId => do
    let t ← Endpoints.createTenant body newId
    pure [.tenant t]
  | updateTenant tenantId body => do
    let t ← Endpoints.updateTenant tenantId body
    pure [.tenant t]
  | deleteTenant tenantId => do
    Endpoints.deleteTenant tenantId
    pure []
  | createRole tenantId body newId => do
    let detail ← Endpoints.createCustomRoleInTenant env h tenantId body newId
    pure [.role detail.1]
  | updateRole tenantId roleId body => do
    let detail ← Endpoints.updateCustomRoleInTenant env h tenantId roleId body
    pure [.role detail.1]
  | deleteRole tenantId roleId => do
    Endpoints.deleteCustomRoleFromTenant env h tenantId roleId
    pure []
  | setRoleUsers tenantId roleId userIds => do
    let ids ← Endpoints.setAssignedUsersForRole tenantId roleId userIds
    pure (ids.map .userId)

namespace ApiRequest

/-- The endpoint with the rows that it answers. -/
def answer (env : Env) (security : Security) (h : Headers) : ApiRequest → Db (List Record)
  | personal now r => r.answer env now h
  | admin r => r.answer env h
  | login now username password => do
    let _ ← Endpoints.loginAccessToken security now username password
    pure []
  | getTenantById tenantId => do
    let t ← Endpoints.getTenantById tenantId
    pure [.tenant t]
  | getTenantBySlug slug => do
    let t ← Endpoints.getTenantBySlug slug
    pure [.tenant t]
  | verifyInvitation now token => do
    let details ← Endpoints.verifyInvitationToken now token
    pure [.invitation details.invitation]
  | acceptInvitation now payload newUserId => do
    let u ← Endpoints.acceptInvitation env now payload newUserId
    pure [.user u]
  | listUsersInTenant tenantId page limit search => do
    let answer ← Endpoints.listUsersInTenant tenantId page limit search
    pure (answer.1.map fun p => .user p.1)
  | getTenantUser tenantId userId => do
    let u ← Endpoints.getTenantUser tenantId userId
    pure [.user u]
  | assignRole tenantId userId roleId => do
    Endpoints.assignRoleToUser env h tenantId userId roleId
    pure []
  | removeRole tenantId userId roleId => do
    Endpoints.removeRoleFromUser env h tenantId userId roleId
    pure []
  | listRoles now skip limit => do
    let roles ← Endpoints.listRolesInActiveTenant env now h skip limit
    pure (roles.map fun p => .role p.1)
  | getRoleDetails tenantId roleId => do
    let detail ← Endpoints.getRoleDetails env h tenantId roleId
    pure [.role detail.1]
  | listPermissions now => do
    let _ ← Endpoints.listAvailablePermissions env now h
    pure []
  | getAssignedUsers tenantId roleId => do
    let ids ← Endpoints.getAssignedUsersForRole tenantId roleId
    pure (ids.map .userId)

theorem ignore_bind_pure {α β : Type} (x : Db α) (g : α → β) :
    ignore (x >>= fun a => pure (g a)) = ignore x := by
  rw [ignore, bind_bind]
  rfl

theorem ignore_unit (x : Db Unit) : ignore x = x := by
  refine congrArg Tx.mk (funext fun s => ?_)
  cases x.run s with
  | mk r s' => cases r <;> rfl

/-- Apart from what is answered this is the endpoint. -/
theorem ignore_answer (env : Env) (security : Security) (h : Headers) (r : ApiRequest) :
    ignore (r.answer env security h) = r.endpoint env security h := by
  cases r with
  | personal now r =>
    cases r with
    | removeUser | deleteAPIKey => exact (ignore_bind_pure _ _).trans (ignore_unit _)
    | _ => exact ignore_bind_pure _ _
  | admin r =>
    cases r with
    | deleteTenant | deleteRole => exact (ignore_bind_pure _ _).trans (ignore_unit _)
    | _ => exact ignore_bind_pure _ _
  | assignRole | removeRole => exact (ignore_bind_pure _ _).trans (ignore_unit _)
  | _ => exact ignore_bind_pure _ _

/-- The tenant in the path of a request. -/
def inPath : ApiRequest → Option UUID
  | getTenantById tenantId | listUsersInTenant tenantId .. | getTenantUser tenantId _
  | assignRole tenantId .. | removeRole tenantId .. | getRoleDetails tenantId _
  | getAssignedUsers tenantId _ | admin (.updateTenant tenantId _) | admin (.deleteTenant tenantId)
  | admin (.createRole tenantId ..) | admin (.updateRole tenantId ..)
  | admin (.deleteRole tenantId _) | admin (.setRoleUsers tenantId ..) => some tenantId
  | _ => none

/-- The grounds on which a request is shown a row. -/
inductive Grounds (env : Env) (h : Headers) (d : Database) : ApiRequest → Record → Prop
  -- a user: the caller, or somebody of the active tenant or of the tenant in the path
  | caller {now r c u} (hc : Deps.currentUser env now h d = .ok c) (hid : u.id = c.id) :
    Grounds env h d (.personal now r) (.user u)
  | colleague {now r c t u} {p : Permission} (hp : Deps.permitted env now h p d = .ok (c, t))
    (hperm : p = .userRead ∨ p = .userUpdate) (hu : IsMember d.toTables u.id t.id) :
    Grounds env h d (.personal now r) (.user u)
  | member {r tenantId u} (ht : r.inPath = some tenantId) (hu : IsMember d.toTables u.id tenantId) :
    Grounds env h d r (.user u)
  | memberId {r tenantId id} (ht : r.inPath = some tenantId)
    (hu : IsMember d.toTables id tenantId) : Grounds env h d r (.userId id)
  | sentId {tenantId roleId ids id} (hid : id ∈ ids) :
    Grounds env h d (.admin (.setRoleUsers tenantId roleId ids)) (.userId id)
  -- a tenant: one of the caller, or one that the request names
  | ofCaller {now r c t} (hc : Deps.currentUser env now h d = .ok c)
    (ht : IsMember d.toTables c.id t.id) : Grounds env h d (.personal now r) (.tenant t)
  | tenant {r t} (ht : r.inPath = some t.id) : Grounds env h d r (.tenant t)
  | slug {t} : Grounds env h d (.getTenantBySlug t.slug) (.tenant t)
  | newTenant {body t} : Grounds env h d (.admin (.createTenant body t.id)) (.tenant t)
  -- a role: a system role, or one of the tenant in the path
  | role {r tenantId x} (ht : r.inPath = some tenantId)
    (hx : x.isSystemRole ∨ x.tenantId = some tenantId) : Grounds env h d r (.role x)
  -- an API key: one of the caller, or any for a superuser
  | apiKey {now r c k} (hc : Deps.currentActiveUser env now h d = .ok c)
    (hk : c.isSuperuser ∨ k.userId = c.id) : Grounds env h d (.personal now r) (.apiKey k)
  -- an invitation: to a tenant whose invitations the caller manages, or asked for by somebody
  -- who manages those of the active tenant, or one whose token is presented
  | managed {now r c x} (hc : Deps.currentUser env now h d = .ok c)
    (hx : Endpoints.MayManage d c x.tenantId) : Grounds env h d (.personal now r) (.invitation x)
  | invited {now body newId newToken c t x}
    (hp : Deps.permitted env now h .tenantManageInvitations d = .ok (c, t))
    (hemail : env.emailStr body.email = some x.email) (htenant : x.tenantId = body.tenantId) :
    Grounds env h d (.personal now (.createInvitation body newId newToken)) (.invitation x)
  | presented {now x} : Grounds env h d (.verifyInvitation now x.token) (.invitation x)

end ApiRequest

/-! ## What the parts answer -/

namespace CRUDBase

variable {α : Type} (rows : Database → List α) (key : α → UUID) (recordId : UUID)
  (write : Database → Except Exc Database)

/-- Whatever is read back has the id that is asked for. -/
theorem replies_refresh : RepliesEver (fun x => key x = recordId) (refresh rows key recordId) :=
  Replies.bind_found (replies_find rows (key · = recordId)) (replies_throw _)
    fun _ hx => replies_pure hx

theorem replies_update :
    RepliesEver (fun x => key x = recordId) (update rows key write recordId) :=
  Replies.bind fun _ => Replies.bind fun _ => replies_refresh rows key recordId

end CRUDBase

theorem UserService.replies_page (tenantId : UUID) (skip limit : ℕ) (search : Option String)
    (c d : Database) : RepliesAt c d (fun a => ∀ p ∈ a.1, IsMember d.toTables p.1.id tenantId)
      (getMultiByTenantPaginated tenantId skip limit search) := by
  by_cases hs : search.getD "" = ""
  · obtain ⟨rows, hret, hrows⟩ := returns_getMultiByTenantPaginated hs skip limit d
    refine hret.replies fun p hp => ?_
    have hmem : p.1 ∈ Pages.slice skip limit (usersOfTenant d tenantId) :=
      hrows ▸ List.mem_map_of_mem hp
    exact (mem_usersOfTenant.mp (List.mem_of_mem_drop (List.mem_of_mem_take hmem))).2
  · obtain ⟨term, rfl⟩ : ∃ term, search = some term := by
      cases search with
      | none => exact absurd rfl hs
      | some term => exact ⟨term, rfl⟩
    exact (raises_search hs skip limit d).fails.replies

/-- The object that was added is what is answered. -/
theorem RoleService.replies_completeCustomRole {env : Env} (body : RoleCreate) (role : Role) :
    RepliesEver (· = role) (completeCustomRole env body role) := by
  rw [completeCustomRole]
  split_ifs
  · exact Replies.bind fun _ => replies_pure rfl
  · exact Replies.bind fun _ => Replies.bind fun _ => Replies.bind fun _ => replies_pure rfl

namespace Endpoints

section Personal

variable {env : Env} {now : Time} {h : Headers} {d : Database}

theorem replies_listUsersInActiveTenant (page limit : ℕ) (search : Option String) :
    RepliesAt d d (fun a => ∃ u t, Deps.permitted env now h .userRead d = .ok (u, t) ∧
        ∀ p ∈ a.1, IsMember d.toTables p.1.id t.id)
      (listUsersInActiveTenant env now h page limit search) := by
  refine (Deps.yields_requirePermissionInActiveTenant env now h d _).bind_replies fun ut hp => ?_
  refine (UserService.replies_page _ _ _ _ _ _).imp fun a ha => ⟨ut.1, ut.2, hp, fun p hmem => ?_⟩
  exact (Deps.isMember_identifiedView env now h d _ _).mp (ha p hmem)

theorem replies_updateCurrentUser (body : UserUpdate) :
    RepliesAt d d (fun u => ∃ c, Deps.currentUser env now h d = .ok c ∧ u.id = c.id)
      (updateCurrentUser env now h body) := by
  refine (Deps.yields_getCurrentUser env now h d).bind_replies fun c hc =>
    replies_lift_bind fun body _ => ?_
  exact (CRUDBase.replies_update _ _ _ _).ever.imp fun u hu => ⟨c, hc, hu⟩

theorem replies_updateUserStatus (userId : UUID) (isActive : Bool) :
    RepliesAt d d (fun x => ∃ u t, Deps.permitted env now h .userUpdate d = .ok (u, t) ∧
        IsMember d.toTables x.id t.id)
      (updateUserStatusInActiveTenant env now h userId isActive) := by
  refine (Deps.yields_requirePermissionInActiveTenant env now h d _).bind_replies fun ut hp => ?_
  refine (returns_query _ _).bind_replies ?_
  cases hf : UserService.byIdAndTenant (Deps.identifiedView env now h d) userId ut.2.id with
  | none => exact replies_throw _
  | some x =>
    obtain ⟨-, rfl, hm⟩ := UserService.byIdAndTenant_eq_some.mp hf
    refine Replies.tryCatch ?_ fun e => replies_throw _
    refine (CRUDBase.replies_update _ _ _ _).ever.imp fun y hy => ⟨ut.1, ut.2, hp, ?_⟩
    rw [hy]
    exact (Deps.isMember_identifiedView env now h d _ _).mp hm

theorem replies_listAccessibleTenants :
    RepliesAt d d (fun tenants => ∃ c, Deps.currentUser env now h d = .ok c ∧
        ∀ t ∈ tenants, IsMember d.toTables c.id t.id) (listAccessibleTenants env now h) := by
  refine (Deps.yields_getCurrentUser env now h d).bind_replies fun c hc => ?_
  refine (TenantService.returns_getMultiByUser c.id _).replies ⟨c, hc, fun t ht => ?_⟩
  rw [List.mem_mergeSort] at ht
  exact (Deps.isMember_identifiedView env now h d _ _).mp (TenantService.mem_accessRows.mp ht).2

theorem replies_createAPIKey (body : APIKeyCreate) (newId : UUID) (token : UrlsafeText) :
    RepliesAt d d (fun a => ManagesKey env now h d a.1)
      (createAPIKey env now h body newId token) := by
  obtain hf | ⟨u, row, hu, hid, -, hv, hserve⟩ :=
    createAPIKey_cases env now h d body newId token
  · exact hf.replies
  · have hanswer := congrArg Prod.fst hserve
    exact replies_of_serve hanswer ⟨u, hu, .inr hid⟩

theorem replies_readAPIKeys (skip limit : ℤ) (tenantId : Option UUID) :
    RepliesAt d d (fun keys => ∀ k ∈ keys, ManagesKey env now h d k)
      (readAPIKeys env now h skip limit tenantId) := by
  obtain hf | ⟨u, rows, hu, hret, hown⟩ := readAPIKeys_cases env now h d skip limit tenantId
  · exact hf.replies
  · refine hret.replies fun k hk => ⟨u, hu, ?_⟩
    by_cases hs : u.isSuperuser
    · exact .inl hs
    · exact .inr (hown hs k hk)

theorem replies_readAPIKey (id : UUID) :
    RepliesAt d d (ManagesKey env now h d) (readAPIKey env now h id) := by
  obtain hf | ⟨u, k, hu, hret, hk⟩ := readAPIKey_cases env now h d id
  · exact hf.replies
  · exact hret.replies ⟨u, hu, hk⟩

theorem replies_updateAPIKey (id : UUID) (body : APIKeyUpdate) :
    RepliesAt d d (ManagesKey env now h d) (updateAPIKey env now h id body) := by
  by_cases hc : ∃ k ∈ (Deps.identifiedView env now h d).apiKeys, k.id = id ∧
      ManagesKey env now h d k ∧ body.Accepted env id (Deps.identifiedView env now h d)
  · obtain ⟨k, hk, rfl, hm, hb⟩ := hc
    -- an update keeps the owner
    exact (returns_updateAPIKey hk hm hb).replies hm
  · exact (fails_updateAPIKey fun k hk hid hm hb => hc ⟨k, hk, hid, hm, hb⟩).replies

theorem replies_createInvitation (sent : InvitationCreate) (newId : UUID) (newToken : String) :
    RepliesAt d d (fun a => ∃ u t,
        Deps.permitted env now h .tenantManageInvitations d = .ok (u, t) ∧
        env.emailStr sent.email = some a.1.email ∧ a.1.tenantId = sent.tenantId)
      (createInvitation env now h sent newId newToken) := by
  refine (Deps.yields_requirePermissionInActiveTenant env now h d _).bind_replies fun ut hp =>
    replies_lift_bind fun body hbody => ?_
  obtain ⟨address, haddress, rfl⟩ := InvitationCreate.validate_eq_ok.mp hbody
  refine Replies.tryCatch ?_ fun e => by cases e <;> exact replies_throw _
  cases hdup : InvitationService.duplicate (Deps.identifiedView env now h d)
      (InvitationCreate.request { sent with email := address } ut.1.id) now with
  | some x =>
    obtain ⟨-, hemail, htenant, -⟩ := of_duplicate hdup
    exact (InvitationService.createInvitation_duplicate hdup).replies
      ⟨ut.1, ut.2, hp, haddress.trans (congrArg some hemail.symm), htenant⟩
  | none =>
    by_cases hc : InvitationService.Creatable (Deps.identifiedView env now h d)
        (InvitationCreate.request { sent with email := address } ut.1.id) now newId newToken
    · obtain ⟨x, hx⟩ | ⟨e, he, hv⟩ := hc
      · rw [hdup] at hx
        cases hx
      · exact replies_of_run (InvitationService.createInvitation_new hdup he hv d)
          ⟨ut.1, ut.2, hp, haddress, rfl⟩
    · exact (InvitationService.fails_createInvitation hc).replies

theorem replies_listInvitations (tenantId : UUID) (status : Option InvitationStatus)
    (skip limit : ℕ) :
    RepliesAt d d (fun rows => ∀ x ∈ rows, ∃ u, Deps.currentUser env now h d = .ok u ∧
        MayManage d u x.tenantId)
      (listInvitations env now h tenantId status skip limit) := by
  cases hu : Deps.currentActiveUser env now h d with
  | error e =>
    exact (((Deps.yields_getCurrentActiveUser env now h d).raises hu).bind _).fails.replies
  | ok u =>
    obtain hf | ⟨rows, hret, hrows⟩ := listInvitations_cases hu tenantId status skip limit
    · exact hf.replies
    · refine hret.replies fun x hx => ⟨u, (Deps.currentUser_of_active hu).1, ?_⟩
      obtain ⟨rfl, hmay⟩ := hrows x hx
      exact mayManage_identifiedView.mp hmay

theorem replies_readInvitation (id : UUID) :
    RepliesAt d d (fun details => ∃ u, Deps.currentUser env now h d = .ok u ∧
        MayManage d u details.invitation.tenantId) (readInvitation env now h id) := by
  cases hu : Deps.currentUser env now h d with
  | error e => exact (((Deps.yields_getCurrentUser env now h d).raises hu).bind _).fails.replies
  | ok u =>
    obtain hf | ⟨details, hret, hmay⟩ := readInvitation_cases hu id
    · exact hf.replies
    · exact hret.replies ⟨u, rfl, mayManage_identifiedView.mp hmay⟩

theorem replies_revokeInvitation (id : UUID) :
    RepliesAt d d (fun x => ∃ u, Deps.currentUser env now h d = .ok u ∧ MayManage d u x.tenantId)
      (revokeInvitation env now h id) := by
  cases hu : Deps.currentUser env now h d with
  | error e => exact (((Deps.yields_getCurrentUser env now h d).raises hu).bind _).fails.replies
  | ok u =>
    obtain hf | ⟨x, s, hrun, hmay⟩ := revokeInvitation_cases hu id
    · exact hf.replies
    · exact replies_of_run hrun ⟨u, rfl, mayManage_identifiedView.mp hmay⟩

end Personal

section Tokens

variable {env : Env} {now : Time} {d : Database}

theorem replies_verifyInvitationToken (token : String) :
    RepliesAt d d (fun details => details.invitation.token = token)
      (verifyInvitationToken now token) := by
  refine Replies.tryCatch ?_ fun e => by cases e <;> exact replies_throw _
  obtain hunknown | ⟨x, hx, rfl, hexp | ⟨hexp, hclosed⟩ | hl⟩ :=
    InvitationService.token_cases now d token
  · exact (InvitationService.verifyToken_unknown hunknown).bind_replies (replies_throw _)
  · exact Replies.run_bind (replies_throw _) (InvitationService.verifyToken_expired hx hexp d)
  · exact (InvitationService.verifyToken_closed hx hexp hclosed).bind_replies (replies_throw _)
  · refine (InvitationService.verifyToken_live hx hl).bind_replies ?_
    obtain ⟨hnone, -⟩ | ⟨y, details, hfind, hdetails, hget⟩ :=
      InvitationService.returns_getInvitationWithDetails now x.id d
    · rw [InvitationService.find?_id hx] at hnone
      cases hnone
    · rw [InvitationService.find?_id hx] at hfind
      cases hfind
      exact hget.bind_replies (replies_pure (congrArg Invitation.token hdetails))

/-- The call of `user_service.create` throws, and so do all handlers. -/
theorem replies_createInvitedUser (payload : InvitationAccept) (x : Invitation)
    (newUserId : UUID) :
    RepliesEver (fun _ => False) (createInvitedUser env payload x newUserId) := by
  refine Replies.tryCatch (Replies.bind fun _ => replies_throw _) fun e => ?_
  cases e with
  | valueError message => exact replies_throw _
  | _ => exact Replies.bind fun _ => replies_throw _

/-- Nobody who accepts an invitation is shown anything. -/
theorem replies_acceptInvitation (payload : InvitationAccept) (newUserId : UUID) :
    RepliesEver (fun _ => False) (acceptInvitation env now payload newUserId) := by
  refine replies_lift_bind fun payload _ =>
    Replies.tryCatch (Replies.bind fun found => ?_) fun e => ?_
  · cases found with
    | none => exact replies_throw _
    | some x =>
      exact (replies_createInvitedUser payload x newUserId).bind_of (T := fun _ => True)
        (fun _ _ => trivial) fun _ ha => ha.elim
  · cases e with
    | http status detail => exact replies_throw _
    | valueError message => exact replies_throw _
    | _ => exact Replies.bind fun _ => replies_throw _

end Tokens

section InPath

variable {env : Env} {h : Headers} {c d : Database} {tenantId roleId : UUID}

theorem replies_createTenant (body : TenantCreate) (newId : UUID) :
    RepliesEver (fun t => t.id = newId) (createTenant body newId) := by
  refine replies_lift_bind fun body _ => Replies.bind fun found => ?_
  cases found with
  | some x => exact replies_throw _
  | none => exact CRUDBase.replies_update _ _ _ _

theorem replies_tenant (p : Tenant → Prop) [DecidablePred p] :
    RepliesEver (fun found => ∀ t ∈ found, p t)
      (query fun d => d.tenants.find? (p ·) : Db (Option Tenant)) :=
  replies_find (fun d : Database => d.tenants) p

theorem replies_getTenantById :
    RepliesEver (fun t => t.id = tenantId) (getTenantById tenantId) :=
  Replies.bind_found (replies_tenant fun t => t.id = tenantId) (replies_throw _)
    fun _ ht => replies_pure ht

theorem replies_getTenantBySlug (slug : String) :
    RepliesEver (fun t => t.slug = slug) (getTenantBySlug slug) :=
  Replies.bind_found (replies_tenant fun t => t.slug = slug) (replies_throw _)
    fun _ ht => replies_pure ht

theorem replies_updateTenant (body : TenantUpdate) :
    RepliesEver (fun t => t.id = tenantId) (updateTenant tenantId body) := by
  refine Replies.bind_found (replies_tenant fun t => t.id = tenantId) (replies_throw _)
    fun t ht => ?_
  subst ht
  exact CRUDBase.replies_update _ _ _ _

/-- The rest of a request begins with the stored tenant of its path. -/
theorem replies_fromPath {α : Type} {P : α → Prop} {f : Tenant → Db α}
    (hf : ∀ t, t.id = tenantId → RepliesAt c d P (f t)) :
    RepliesAt c d P (Deps.getTenantFromPath tenantId >>= f) := by
  refine (Deps.yields_getTenantFromPath d tenantId).bind_replies fun t ht => ?_
  cases hfind : d.tenants.find? (·.id = tenantId) with
  | none =>
    rw [hfind] at ht
    cases ht
  | some t' =>
    rw [hfind] at ht
    cases ht
    have hid := List.find?_some hfind
    exact hf t (of_decide_eq_true hid)

theorem replies_listUsersInTenant (page limit : ℕ) (search : Option String) :
    RepliesAt c d (fun a => ∀ p ∈ a.1, IsMember d.toTables p.1.id tenantId)
      (listUsersInTenant tenantId page limit search) := by
  refine replies_fromPath fun t ht => ?_
  subst ht
  exact UserService.replies_page _ _ _ _ _ _

theorem replies_getTenantUser (userId : UUID) :
    RepliesAt c d (fun u => IsMember d.toTables u.id tenantId)
      (getTenantUser tenantId userId) := by
  refine replies_fromPath fun t ht => (returns_query _ d).bind_replies ?_
  subst ht
  cases hf : UserService.byIdAndTenant d userId t.id with
  | none => exact replies_throw _
  | some u =>
    obtain ⟨-, rfl, hm⟩ := UserService.byIdAndTenant_eq_some.mp hf
    exact replies_pure hm

theorem replies_getAssignedUsersForRole :
    RepliesAt c d (fun ids => ∀ id ∈ ids, IsMember d.toTables id tenantId)
      (getAssignedUsersForRole tenantId roleId) := by
  refine replies_fromPath fun t ht => (RoleService.returns_get roleId d).bind_replies ?_
  subst ht
  cases d.roles.find? (·.id = roleId) with
  | none => exact replies_throw _
  | some r =>
    dsimp only
    split_ifs
    · exact replies_throw _
    · obtain ⟨users, hret, -, hmem⟩ := RoleService.returns_getUsersForRole roleId t.id d
      refine hret.bind_replies (replies_pure fun id hid => ?_)
      exact ⟨_, (hmem id).mp hid, rfl, rfl⟩

/-- The answer repeats the ids that were sent. -/
theorem replies_setAssignedUsersForRole (userIds : List UUID) :
    RepliesEver (· = userIds) (setAssignedUsersForRole tenantId roleId userIds) := by
  refine Replies.bind fun t => Replies.bind fun found => ?_
  cases found with
  | none => exact replies_throw _
  | some r =>
    dsimp only
    split_ifs
    · exact replies_throw _
    · exact Replies.bind fun _ => Replies.bind fun _ => replies_pure rfl
    · exact Replies.bind fun _ => Replies.bind fun _ => Replies.bind fun _ => replies_pure rfl

/-! A role that is shown is a system role, or belongs to the tenant in the path. -/

theorem replies_getRoleDetails :
    RepliesAt c d (fun detail => detail.1.isSystemRole ∨ detail.1.tenantId = some tenantId)
      (getRoleDetails env h tenantId roleId) := by
  refine replies_fromPath fun t ht => Replies.ever ?_
  refine Replies.bind fun _ => Replies.bind fun found => ?_
  subst ht
  cases found with
  | none => exact replies_throw _
  | some detail =>
    dsimp only
    split_ifs with hn
    · exact replies_throw _
    · exact replies_pure (by simpa only [not_and_or, not_not, ne_eq] using hn)

/-- The role read at the end of a creation or an update. -/
theorem replies_roleDetail (missing : String) {P : Role → Prop} :
    Replies (Session.Inv fun v : Database => ∀ r ∈ v.roles, r.id = roleId → P r)
      (fun detail => P detail.1) (roleDetail env missing roleId) := by
  have hget : Replies (Session.Inv fun v : Database => ∀ r ∈ v.roles, r.id = roleId → P r)
      (fun found => ∀ detail ∈ found, P detail.1)
      (RoleService.getRoleWithPermissions env roleId) := by
    refine Replies.bind_of (P := fun _ => True) (fun _ _ _ _ _ => trivial) (fun s hs => hs)
      fun _ _ => replies_query fun v hv detail hdetail => ?_
    obtain ⟨r, hfind, rfl⟩ := Option.map_eq_some_iff.mp hdetail
    have hid := List.find?_some hfind
    exact hv r (List.mem_of_find?_eq_some hfind) (of_decide_eq_true hid)
  refine hget.bind_of (T := fun _ => True) (fun _ _ => trivial) fun found hfound => ?_
  cases found with
  | none => exact replies_throw _
  | some detail => exact replies_pure (hfound detail rfl)

theorem replies_reraise {P : RoleDetail → Prop} (detail : String) (e : Exc) :
    RepliesEver P (reraise detail e) := by
  obtain ⟨e', he'⟩ := reraise_throws detail e
  rw [he']
  exact replies_throw e'

theorem replies_updateCustomRoleInTenant (body : RoleUpdate) :
    RepliesAt c d (fun detail => detail.1.tenantId = some tenantId)
      (updateCustomRoleInTenant env h tenantId roleId body) := by
  refine replies_fromPath fun t ht => replies_lift_bind fun _ _ =>
    (RoleService.returns_get roleId d).bind_replies ?_
  subst ht
  cases hfind : d.roles.find? (·.id = roleId) with
  | none => exact replies_throw _
  | some r =>
    obtain ⟨hr, -⟩ := (Rows.find?_key_eq_some d.valid.keys.rolesId).mp hfind
    dsimp only
    split_ifs with hten hsys
    · exact replies_throw _
    · exact replies_throw _
    refine Replies.tryCatch ?_ (replies_reraise _)
    cases hd' : RoleService.updateChange r body d with
    | error e => exact ((RoleService.fails_updateCustomRole hd').bind _).replies
    | ok d' =>
      have hrun : (RoleService.updateCustomRole env r body).run (.clean c d) = _ :=
        RoleService.run_updateCustomRole (by simpa using hsys) hd' c
      have hkept : ∀ x ∈ d'.roles, x.id = (body.apply r).id → x.tenantId = some t.id := by
        intro x hx (hid : x.id = r.id)
        rw [RoleService.roles_of_updateChange hd'] at hx
        obtain ⟨y, hy, rfl⟩ := Rows.mem_modify.mp hx
        split_ifs at hid ⊢ with hyr
        · obtain rfl := Rows.eq_of_key_eq d.valid.keys.rolesId hy hr hyr
          exact not_not.mp hten
        · exact absurd hid hyr
      cases hmap : env.rolePermissionsMapped with
      | false =>
        rw [hmap] at hrun
        rintro _ rfl a s ha
        rw [run_bind_error hrun] at ha
        cases ha
      | true =>
        rw [hmap] at hrun
        exact Replies.run_bind ((replies_roleDetail _).at_of_inv hkept hkept) hrun

theorem replies_createCustomRoleInTenant (body : RoleCreate) (newId : UUID) :
    RepliesAt d d (fun detail => detail.1.tenantId = some tenantId)
      (createCustomRoleInTenant env h tenantId body newId) := by
  refine replies_fromPath fun t ht => replies_lift_bind fun _ _ => ?_
  subst ht
  refine Replies.tryCatch ?_ (replies_reraise _)
  by_cases hc : CanCreateRole d t.id body newId
  · let I : Database → Prop := fun v => ∀ x ∈ v.roles, x.id = newId → x.tenantId = some t.id
    have hnew : I (RoleService.withRole hc) := by
      intro x hx hid
      obtain hx | hx := List.mem_append.mp hx
      · exact absurd (List.mem_map.mpr ⟨x, hx, hid⟩) (RoleService.new_of_canCreateRole hc)
      · rw [List.mem_singleton.mp hx]
        rfl
    have hkeeps : Keeps I (RoleService.completeCustomRole env body (body.row newId t.id)) := by
      refine RoleService.keeps_completeCustomRole (fun v v' hroles _ hv => ?_) body _
      intro x hx
      rw [hroles] at hx
      exact hv x hx
    refine Replies.of_run (Replies.at_of_inv (I := I) ?_ hnew hnew)
      (run_bind_congr (RoleService.run_createCustomRole hc) _)
    refine (RoleService.replies_completeCustomRole body _).ever.bind_of hkeeps fun role hrole => ?_
    rw [hrole]
    exact replies_roleDetail _
  · exact ((fails_createCustomRole hc).bind _).replies

end InPath

end Endpoints

namespace ApiRequest

section Answers

variable {env : Env} {security : Security} {h : Headers} {d : Database}

theorem replies_nil {r : ApiRequest} {α : Type} (x : Db α) :
    RepliesAt d d (fun rows => ∀ y ∈ rows, Grounds env h d r y) (x >>= fun _ => pure []) :=
  Replies.bind fun _ => replies_pure fun _ hy => absurd hy List.not_mem_nil

theorem replies_one {r : ApiRequest} {α : Type} {P : α → Prop} {x : Db α} {g : α → Record}
    (hx : RepliesAt d d P x) (hg : ∀ a, P a → Grounds env h d r (g a)) :
    RepliesAt d d (fun rows => ∀ y ∈ rows, Grounds env h d r y) (x >>= fun a => pure [g a]) :=
  hx.bind_pure fun a ha => List.forall_mem_singleton.mpr (hg a ha)

theorem replies_map {r : ApiRequest} {α β : Type} {P : α → Prop} {x : Db α} {rows : α → List β}
    {g : β → Record} (hx : RepliesAt d d P x)
    (hg : ∀ a, P a → ∀ b ∈ rows a, Grounds env h d r (g b)) :
    RepliesAt d d (fun rows => ∀ y ∈ rows, Grounds env h d r y)
      (x >>= fun a => pure ((rows a).map g)) :=
  hx.bind_pure fun a ha => List.forall_mem_map.mpr (hg a ha)

theorem replies_personal (now : Time) (r : PersonalRequest) :
    RepliesAt d d (fun rows => ∀ y ∈ rows, Grounds env h d (.personal now r) y)
      (r.answer env now h) := by
  cases r with
  | listUsers page limit search =>
    exact replies_map (Endpoints.replies_listUsersInActiveTenant page limit search)
      fun a ⟨u, t, hp, hmem⟩ p hpa => .colleague hp (.inl rfl) (hmem p hpa)
  | getMe =>
    exact replies_one ((Deps.yields_getCurrentUser env now h d).replies fun u hu => hu)
      fun u hu => .caller hu rfl
  | updateMe body =>
    exact replies_one (Endpoints.replies_updateCurrentUser body)
      fun u ⟨c, hc, hid⟩ => .caller hc hid
  | updateUserStatus userId isActive =>
    exact replies_one (Endpoints.replies_updateUserStatus userId isActive)
      fun x ⟨u, t, hp, hm⟩ => .colleague hp (.inr rfl) hm
  | removeUser userId => exact replies_nil _
  | listTenants =>
    exact replies_map Endpoints.replies_listAccessibleTenants
      fun tenants ⟨c, hc, hm⟩ t ht => .ofCaller hc (hm t ht)
  | createAPIKey body newId token =>
    exact replies_one (Endpoints.replies_createAPIKey body newId token)
      fun a ⟨u, hu, hk⟩ => .apiKey hu hk
  | listAPIKeys skip limit tenantId =>
    refine replies_map (Endpoints.replies_readAPIKeys skip limit tenantId) fun keys hkeys k hk => ?_
    obtain ⟨u, hu, hown⟩ := hkeys k hk
    exact .apiKey hu hown
  | readAPIKey id =>
    exact replies_one (Endpoints.replies_readAPIKey id) fun k ⟨u, hu, hk⟩ => .apiKey hu hk
  | updateAPIKey id body =>
    exact replies_one (Endpoints.replies_updateAPIKey id body) fun k ⟨u, hu, hk⟩ => .apiKey hu hk
  | deleteAPIKey id => exact replies_nil _
  | createInvitation body newId newToken =>
    exact replies_one (Endpoints.replies_createInvitation body newId newToken)
      fun a ⟨u, t, hp, hemail, htenant⟩ => .invited hp hemail htenant
  | listInvitations tenantId status skip limit =>
    refine replies_map (Endpoints.replies_listInvitations tenantId status skip limit)
      fun rows hrows x hx => ?_
    obtain ⟨u, hu, hmay⟩ := hrows x hx
    exact .managed hu hmay
  | readInvitation id =>
    exact replies_one (Endpoints.replies_readInvitation id) fun _ ⟨u, hu, hmay⟩ => .managed hu hmay
  | revokeInvitation id =>
    exact replies_one (Endpoints.replies_revokeInvitation id)
      fun _ ⟨u, hu, hmay⟩ => .managed hu hmay

theorem replies_admin (r : AdminRequest) :
    RepliesAt d d (fun rows => ∀ y ∈ rows, Grounds env h d (.admin r) y) (r.answer env h) := by
  cases r with
  | createTenant body newId =>
    refine replies_one (Endpoints.replies_createTenant body newId).ever fun t ht => ?_
    subst ht
    exact .newTenant
  | updateTenant tenantId body =>
    exact replies_one (Endpoints.replies_updateTenant body).ever
      fun t ht => .tenant (congrArg some ht.symm)
  | deleteTenant tenantId => exact replies_nil _
  | createRole tenantId body newId =>
    exact replies_one (Endpoints.replies_createCustomRoleInTenant body newId)
      fun _ ht => .role rfl (.inr ht)
  | updateRole tenantId roleId body =>
    exact replies_one (Endpoints.replies_updateCustomRoleInTenant body)
      fun _ ht => .role rfl (.inr ht)
  | deleteRole tenantId roleId => exact replies_nil _
  | setRoleUsers tenantId roleId userIds =>
    refine replies_map (Endpoints.replies_setAssignedUsersForRole userIds).ever
      fun ids hids id hid => ?_
    subst hids
    exact .sentId hid

theorem replies_answer (r : ApiRequest) :
    RepliesAt d d (fun rows => ∀ y ∈ rows, Grounds env h d r y) (r.answer env security h) := by
  cases r with
  | personal now r => exact replies_personal now r
  | admin r => exact replies_admin r
  | login | assignRole | removeRole | listPermissions => exact replies_nil _
  | getTenantById tenantId =>
    exact replies_one Endpoints.replies_getTenantById.ever
      fun t ht => .tenant (congrArg some ht.symm)
  | getTenantBySlug slug =>
    refine replies_one (Endpoints.replies_getTenantBySlug slug).ever fun t ht => ?_
    subst ht
    exact .slug
  | verifyInvitation now token =>
    refine replies_one (Endpoints.replies_verifyInvitationToken token) fun details ht => ?_
    subst ht
    exact .presented
  | acceptInvitation now payload newUserId =>
    exact replies_one (Endpoints.replies_acceptInvitation payload newUserId).ever
      fun _ hu => hu.elim
  | listUsersInTenant tenantId page limit search =>
    exact replies_map (Endpoints.replies_listUsersInTenant page limit search)
      fun a hmem p hp => .member rfl (hmem p hp)
  | getTenantUser tenantId userId =>
    exact replies_one (Endpoints.replies_getTenantUser userId) fun u hm => .member rfl hm
  | listRoles now skip limit =>
    refine replies_map (P := fun _ => False) ?_ fun _ hr => hr.elim
    refine (Deps.yields_requirePermissionInActiveTenant env now h d _).bind_replies fun ut _ => ?_
    exact (RoleService.raises_getMultiByTenantWithUserCount _).fails.replies
  | getRoleDetails tenantId roleId =>
    exact replies_one Endpoints.replies_getRoleDetails fun _ hr => .role rfl hr
  | getAssignedUsers tenantId roleId =>
    exact replies_map Endpoints.replies_getAssignedUsersForRole
      fun ids hm id hid => .memberId rfl (hm id hid)

end Answers

/-- Every row in the answer to a request is shown on one of the grounds, whatever is stored
and whoever asks. -/
theorem grounds_of_answer (env : Env) (security : Security) (h : Headers) (r : ApiRequest)
    (d : Database) {rows : List Record}
    (hrows : (serve (Deps.handle h (r.answer env security h)) d).1 = .ok rows) :
    ∀ y ∈ rows, Grounds env h d r y := by
  by_cases hm : h.xTenantId = some .malformed
  · obtain ⟨e, he⟩ := (Deps.fails_handle (x := r.answer env security h) (d := d) hm).serve
    rw [he] at hrows
    cases hrows
  · rw [Deps.serve_handle hm] at hrows
    exact (replies_answer r).serve hrows

/-- Anybody is shown Alice, for the id of a tenant of hers in the path. -/
theorem grounds_of_answer_sample :
    Grounds Env.sample .anonymous Database.sample (.getTenantUser 1 1)
      (.user ⟨1, "alice@acme.com", "$2b$12$a", some "Alice", true, false⟩) := by
  have hshown : (serve (Deps.handle .anonymous
      ((getTenantUser 1 1).answer Env.sample Security.sample .anonymous)) Database.sample).1 =
        .ok [.user ⟨1, "alice@acme.com", "$2b$12$a", some "Alice", true, false⟩] := rfl
  exact grounds_of_answer Env.sample Security.sample .anonymous (.getTenantUser 1 1)
    Database.sample hshown _ List.mem_cons_self

end ApiRequest
end VirtualStack
