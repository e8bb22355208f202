import VirtualStack.Deps
import VirtualStack.Services.Invitation

/-!
# `api/v1/endpoints/invitations.py`
-/

namespace VirtualStack
open UnitOfWork

/-- The body of `POST /invitations`. A missing `expires_in_days` is 7; an
explicit `null` stays `None`. -/
structure InvitationCreate where
  email : String
  tenantId : UUID
  roleId : Option UUID
  expiresInDays : Option ℤ
  deriving DecidableEq, Repr

structure InvitationAccept where
  token : String
  password : String
  firstName : Option String
  lastName : Option String
  deriving DecidableEq, Repr

/-- `InvitationCreate` on a body: the address goes through `EmailStr`. -/
def InvitationCreate.validate (env : Env) (body : InvitationCreate) :
    Except Exc InvitationCreate :=
  match env.emailStr body.email with
  | some address => .ok { body with email := address }
  | none => .error (.http 422 "value is not a valid email address")

theorem InvitationCreate.validate_eq_ok {env : Env} {sent body : InvitationCreate} :
    sent.validate env = .ok body ↔ ∃ address, env.emailStr sent.email = some address ∧
      body = { sent with email := address } := by
  rw [InvitationCreate.validate]
  cases env.emailStr sent.email <;> simp [eq_comm]

/-- `InvitationAccept` on a body: the password has at least 8 characters. -/
def InvitationAccept.validate (payload : InvitationAccept) : Except Exc InvitationAccept :=
  if payload.password.length < 8 then
    .error (.http 422 "Value error, Password must be at least 8 characters long")
  else .ok payload

theorem InvitationAccept.validate_eq_ok {sent payload : InvitationAccept} :
    sent.validate = .ok payload ↔ 8 ≤ sent.password.length ∧ sent = payload := by
  rw [InvitationAccept.validate]
  split_ifs with hshort
  · simp [Nat.not_le.mpr hshort]
  · simp [Nat.not_lt.mp hshort]

/-- The call of the service that the endpoint makes for a caller. -/
def InvitationCreate.request (body : InvitationCreate) (inviterId : UUID) : InvitationRequest :=
  ⟨body.email, body.tenantId, inviterId, body.roleId, body.expiresInDays⟩

/-- `UserCreate(**user_in_dict)`: the address goes through `EmailStr` again, the
password must be long enough and the names must be strings. -/
def InvitationAccept.userCreate (env : Env) (payload : InvitationAccept) (email : String) :
    Except Exc UserCreate :=
  match env.emailStr email, payload.firstName, payload.lastName with
  | some address, some firstName, some lastName =>
    if payload.password.length < 8 then
      .error (.valueError "String should have at least 8 characters")
    else .ok ⟨address, payload.password, firstName, lastName, false, true⟩
  | none, _, _ => .error (.valueError "value is not a valid email address")
  | _, _, _ => .error (.valueError "Input should be a valid string")

/-- Pydantic's `ValidationError` is a `ValueError`. -/
theorem InvitationAccept.valueError_of_userCreate {env : Env} {payload : InvitationAccept}
    {email : String} {e : Exc} (h : payload.userCreate env email = .error e) :
    ∃ message, e = .valueError message := by
  rw [InvitationAccept.userCreate] at h
  split at h
  · split_ifs at h
    cases h
    exact ⟨_, rfl⟩
  · cases h
    exact ⟨_, rfl⟩
  · cases h
    exact ⟨_, rfl⟩

namespace Endpoints

/-- The permission ids, all equal, through which a user holds a permission in a
tenant: one for each role that carries it. -/
def grantingRows (t : Tables) (userId tenantId permissionId : UUID) : List UUID :=
  ((Joins.join (fun x rp => x.roleId = rp.roleId) t.userTenantRoles t.rolePermissions).filter
    fun p => p.1.userId = userId ∧ p.1.tenantId = tenantId ∧
      p.2.permissionId = permissionId).map (·.2.permissionId)

def checkUserPermissionForTenant (userId tenantId : UUID) (permission : Permission) : Db Bool := do
  match ← PermissionService.getByCode permission.value with
  | none => pure false
  | some required => do
    let rows ← query fun d => Joins.distinct (grantingRows d.toTables userId tenantId required.id)
    let found ← lift (Joins.scalarOneOrNone .multipleResultsFound rows)
    pure found.isSome

def createInvitation (env : Env) (now : Time) (h : Headers) (invitationIn : InvitationCreate)
    (newId : UUID) (newToken : String) : Db (Invitation × String) := do
  let (currentUser, _) ← Deps.requirePermissionInActiveTenant env now h .tenantManageInvitations
  let invitationIn ← lift (invitationIn.validate env)
  tryCatch
    (InvitationService.createInvitation (invitationIn.request currentUser.id) now newId newToken)
    fun e => match e with
      | .notFound message => throw (.http 404 message)
      | .valueError message => throw (.http 400 message)
      | .authorization message => throw (.http 403 message)
      | _ => throw (.http 500 "An unexpected error occurred while creating the invitation.")

/-- With a status filter the first thousand rows are filtered and then paged. -/
def listInvitations (env : Env) (now : Time) (h : Headers) (tenantId : UUID)
    (statusFilter : Option InvitationStatus) (skip limit : ℕ) : Db (List Invitation) := do
  let currentUser ← Deps.getCurrentActiveUser env now h
  let hasPermission ← checkUserPermissionForTenant currentUser.id tenantId .tenantManageInvitations
  if ¬hasPermission ∧ ¬currentUser.isSuperuser then
    throw (.http 403 s!"Not enough permissions to manage invitations for tenant {tenantId}")
  else
    tryCatch
      (match statusFilter with
        | some status => do
          let invitations ← InvitationService.getMultiByTenant tenantId 0 1000
          pure (((invitations.filter (·.status = status)).drop skip).take limit)
        | none => InvitationService.getMultiByTenant tenantId skip limit)
      fun _ => throw (.http 500 "An unexpected error occurred while listing invitations.")

/-- The details of the invitation; the response also repeats the token. -/
def verifyInvitationToken (now : Time) (token : String) : Db InvitationService.Details :=
  tryCatch
    (do
      match ← InvitationService.verifyToken now token with
      | none => throw (.http 400 "Invitation token is invalid or expired.")
      | some invitation => do
        match ← InvitationService.getInvitationWithDetails now invitation.id with
        | none => throw .attributeError
        | some details => pure details)
    fun e => match e with
      | .http status detail => throw (.http status detail)
      | _ => throw (.http 500
          "An unexpected error occurred while verifying the invitation token.")

/-- The check that reading and revoking make once they have the row. -/
def requireManagement (currentUser : User) (tenantId : UUID) (detail : String) : Db Unit :=
  if currentUser.isSuperuser then pure ()
  else do
    if ← checkUserPermissionForTenant currentUser.id tenantId .tenantManageInvitations then pure ()
    else throw (.http 403 detail)

/-- The `HTTPException` of the permission check is an `Exception`, so that the
last handler turns it into a `500`. -/
def readInvitation (env : Env) (now : Time) (h : Headers) (invitationId : UUID) :
    Db InvitationService.Details := do
  let currentUser ← Deps.getCurrentUser env now h
  tryCatch
    (do
      match ← InvitationService.getInvitationWithDetails now invitationId with
      | none => throw (.notFound "Invitation not found")
      | some details => do
        requireManagement currentUser details.invitation.tenantId
          "Not enough permissions to view this invitation"
        pure details)
    fun e => match e with
      | .notFound message => throw (.http 404 message)
      | _ => throw (.http 500 "An unexpected error occurred while reading the invitation.")

def revokeInvitation (env : Env) (now : Time) (h : Headers) (invitationId : UUID) :
    Db Invitation := do
  let currentUser ← Deps.getCurrentUser env now h
  tryCatch
    (do
      match ← InvitationService.get invitationId with
      | none => throw (.notFound "Invitation not found")
      | some invitation => do
        requireManagement currentUser invitation.tenantId
          "Not enough permissions to revoke this invitation"
        match ← InvitationService.revokeInvitation invitationId with
        | none => throw (.notFound
            "Invitation could not be revoked (not found after initial check)")
        | some revoked => pure revoked)
    fun e => match e with
      | .notFound message => throw (.http 404 message)
      | .authorization message => throw (.http 403 message)
      | _ => throw (.http 500 "An unexpected error occurred while revoking the invitation.")

/-- `user_service.create(db=db, obj_in=user_create_schema)`: the call leaves
`tenant_id` out. -/
def createInvitedUser (env : Env) (payload : InvitationAccept) (invitation : Invitation)
    (newUserId : UUID) : Db User :=
  tryCatch
    (do
      let userCreate ← lift (payload.userCreate env invitation.email)
      UserService.createCall env userCreate none newUserId false)
    fun e => match e with
      | .valueError message => throw (.http 400 s!"Invalid user data provided: {message}")
      | _ => do
        rollback
        throw (.http 500 "Failed to create associated user account.")

def acceptInvitation (env : Env) (now : Time) (payload : InvitationAccept) (newUserId : UUID) :
    Db User := do
  let payload ← lift payload.validate
  tryCatch
    (do
      match ← InvitationService.verifyToken now payload.token with
      | none => throw (.http 400 "Invitation token is invalid or expired.")
      | some invitation => do
        let newUser ← createInvitedUser env payload invitation newUserId
        match ← InvitationService.acceptInvitation env now payload.token newUser.id with
        | none => do
          rollback
          throw (.http 500 "Failed to finalize invitation acceptance.")
        | some _ => do
          match ← UserService.get newUser.id with
          | none => throw (.http 500 "Internal error finding newly created user.")
          | some finalUser => pure finalUser)
    fun e => match e with
      | .http status detail => throw (.http status detail)
      | .valueError message => throw (.http 400 message)
      | _ => do
        rollback
        throw (.http 500 "An unexpected error occurred while accepting the invitation.")

/-! ## Outcomes -/

section Outcomes

variable {env : Env} {now : Time} {h : Headers} {d : Database} {u : User}

theorem mem_grantingRows {t : Tables} {userId tenantId permissionId : UUID} :
    permissionId ∈ grantingRows t userId tenantId permissionId ↔
      ∃ x ∈ t.userTenantRoles, x.userId = userId ∧ x.tenantId = tenantId ∧
        ⟨x.roleId, permissionId⟩ ∈ t.rolePermissions := by
  simp only [grantingRows, List.mem_map, List.mem_filter, Joins.mem_join, decide_eq_true_eq]
  constructor
  · rintro ⟨⟨x, r, q⟩, ⟨⟨hx, hrp, hrole⟩, hu, ht, rfl⟩, -⟩
    obtain rfl : x.roleId = r := hrole
    exact ⟨x, hx, hu, ht, hrp⟩
  · rintro ⟨x, hx, hu, ht, hrp⟩
    exact ⟨(x, ⟨x.roleId, permissionId⟩), ⟨⟨hx, hrp, rfl⟩, hu, ht, rfl⟩, rfl⟩

theorem eq_of_mem_grantingRows {t : Tables} {userId tenantId permissionId : UUID} :
    ∀ y ∈ grantingRows t userId tenantId permissionId, y = permissionId := by
  intro y hy
  obtain ⟨p, hp, rfl⟩ := List.mem_map.mp hy
  exact (of_decide_eq_true (List.mem_filter.mp hp).2).2.2

/-- Codes are unique, so that the permission found by its code is the one of the
row. -/
theorem holdsPermission_iff_of_code (userId tenantId : UUID) {required : PermissionModel}
    (hmem : required ∈ d.permissions) :
    HoldsPermission d.toTables userId tenantId required.code ↔
      required.id ∈ grantingRows d.toTables userId tenantId required.id := by
  rw [mem_grantingRows]
  constructor
  · rintro ⟨x, hx, hu, ht, ⟨r, q⟩, hrp, hrole, p, hp, hid, hcode⟩
    obtain rfl := Rows.eq_of_key_eq d.valid.keys.permissionsCode hp hmem hcode
    obtain rfl : r = x.roleId := hrole
    obtain rfl : p.id = q := hid
    exact ⟨x, hx, hu, ht, hrp⟩
  · rintro ⟨x, hx, hu, ht, hrp⟩
    exact ⟨x, hx, hu, ht, _, hrp, rfl, required, hmem, rfl, rfl⟩

/-- The manual check decides the same as the dependency. -/
theorem returns_checkUserPermissionForTenant (userId tenantId : UUID) (p : Permission) :
    Returns (checkUserPermissionForTenant userId tenantId p) d
      (decide (HoldsPermission d.toTables userId tenantId p.value)) d := by
  refine (PermissionService.returns_getByCode p.value d).bind ?_
  cases hf : d.permissions.find? (·.code = p.value) with
  | none =>
    have hno : ¬HoldsPermission d.toTables userId tenantId p.value := by
      rintro ⟨x, -, -, -, rp, -, -, q, hq, -, hcode⟩
      simpa [hcode] using List.find?_eq_none.mp hf q hq
    rw [decide_eq_false hno]
    exact returns_pure false d
  | some required =>
    obtain ⟨hmem, hcode⟩ := PermissionService.find?_code_eq_some.mp hf
    refine (returns_query _ d).bind ?_
    refine (returns_lift (Joins.scalarOneOrNone_distinct eq_of_mem_grantingRows) d).bind ?_
    rw [← hcode]
    have hiff := holdsPermission_iff_of_code userId tenantId hmem
    by_cases hh : HoldsPermission d.toTables userId tenantId required.code
    · rw [decide_eq_true hh, if_pos (hiff.mp hh)]
      exact returns_pure true d
    · rw [decide_eq_false hh, if_neg (hiff.not.mp hh)]
      exact returns_pure false d

theorem returns_requireManagement {tenantId : UUID} {detail : String}
    (hp : u.isSuperuser ∨ HoldsPermission d.toTables u.id tenantId
      Permission.tenantManageInvitations.value) :
    Returns (requireManagement u tenantId detail) d () d := by
  rw [requireManagement]
  by_cases hs : u.isSuperuser
  · rw [if_pos hs]
    exact returns_pure () d
  · rw [if_neg hs]
    refine (returns_checkUserPermissionForTenant u.id tenantId _).bind ?_
    rw [if_pos (decide_eq_true (hp.resolve_left hs))]
    exact returns_pure () d

theorem fails_requireManagement {tenantId : UUID} {detail : String}
    (hp : ¬(u.isSuperuser ∨ HoldsPermission d.toTables u.id tenantId
      Permission.tenantManageInvitations.value)) :
    Fails (requireManagement u tenantId detail) d := by
  obtain ⟨hs, hn⟩ := not_or.mp hp
  rw [requireManagement, if_neg hs]
  refine (returns_checkUserPermissionForTenant u.id tenantId _).bind_fails ?_
  rw [if_neg (by simpa using hn)]
  exact fails_throw _ d

theorem createInvitation_creatable {t : Tenant} {sent body : InvitationCreate} {newId : UUID}
    {newToken : String} (hu : Deps.permitted env now h .tenantManageInvitations d = .ok (u, t))
    (hw : sent.validate env = .ok body)
    (hc : InvitationService.Creatable (Deps.identifiedView env now h d) (body.request u.id) now
      newId newToken) :
    ∃ x token s, (createInvitation env now h sent newId newToken).run (.start d) =
      (.ok (x, token), s) ∧ x.tenantId = body.tenantId := by
  have hgate := (Deps.yields_requirePermissionInActiveTenant env now h d _).returns hu
  obtain ⟨x, token, s, hr, hten⟩ := InvitationService.createInvitation_creatable hc d
  refine ⟨x, token, s, ?_, hten⟩
  rw [createInvitation, run_bind_ok (hgate d)]
  dsimp only
  rw [run_bind_ok (returns_lift hw _ d)]
  exact run_tryCatch_ok hr _

theorem fails_createInvitation {t : Tenant} {sent : InvitationCreate} {newId : UUID}
    {newToken : String} (hu : Deps.permitted env now h .tenantManageInvitations d = .ok (u, t))
    (hc : ∀ body, sent.validate env = .ok body →
      ¬InvitationService.Creatable (Deps.identifiedView env now h d) (body.request u.id) now
        newId newToken) : Fails (createInvitation env now h sent newId newToken) d := by
  have hgate := (Deps.yields_requirePermissionInActiveTenant env now h d _).returns hu
  cases hw : sent.validate env with
  | error e => exact hgate.bind_fails ((fails_lift (by simp [hw]) _).bind _)
  | ok body =>
    refine hgate.bind_fails ((returns_lift hw _).bind_fails
      ((InvitationService.fails_createInvitation (hc body hw)).tryCatch fun e => ?_))
    cases e <;> exact ⟨_, rfl⟩

/-- Listing fails, or shows rows of a tenant in which the caller may manage
invitations. -/
theorem listInvitations_cases (hu : Deps.currentActiveUser env now h d = .ok u) (tenantId : UUID)
    (status : Option InvitationStatus) (skip limit : ℕ) :
    Fails (listInvitations env now h tenantId status skip limit) d ∨
    ∃ rows, Returns (listInvitations env now h tenantId status skip limit) d rows
        (Deps.identifiedView env now h d) ∧
      ∀ x ∈ rows, x.tenantId = tenantId ∧ (u.isSuperuser ∨ HoldsPermission
        (Deps.identifiedView env now h d).toTables u.id tenantId
        Permission.tenantManageInvitations.value) := by
  have huser := (Deps.yields_getCurrentActiveUser env now h d).returns hu
  have hcheck := returns_checkUserPermissionForTenant (d := Deps.identifiedView env now h d) u.id
    tenantId .tenantManageInvitations
  by_cases hp : u.isSuperuser ∨ HoldsPermission (Deps.identifiedView env now h d).toTables u.id
      tenantId Permission.tenantManageInvitations.value
  · right
    have hgate : ¬(¬(decide (HoldsPermission (Deps.identifiedView env now h d).toTables u.id
        tenantId Permission.tenantManageInvitations.value) = true) ∧ ¬u.isSuperuser) := by
      rintro ⟨hn, hs⟩
      exact hp.elim hs fun hh => hn (decide_eq_true hh)
    cases status with
    | none =>
      obtain ⟨rows, hrows, hten⟩ := InvitationService.returns_getMultiByTenant tenantId skip limit
        (Deps.identifiedView env now h d)
      refine ⟨rows, huser.bind (hcheck.bind ?_), fun x hx => ⟨hten x hx, hp⟩⟩
      rw [if_neg hgate]
      exact hrows.tryCatch _
    | some st =>
      obtain ⟨rows, hrows, hten⟩ := InvitationService.returns_getMultiByTenant tenantId 0 1000
        (Deps.identifiedView env now h d)
      refine ⟨((rows.filter (·.status = st)).drop skip).take limit, huser.bind (hcheck.bind ?_),
        fun x hx => ⟨hten x ?_, hp⟩⟩
      · rw [if_neg hgate]
        refine Returns.tryCatch (hrows.bind ?_) _
        exact returns_pure _ _
      · exact List.mem_of_mem_filter (List.mem_of_mem_drop (List.mem_of_mem_take hx))
  · left
    obtain ⟨hs, hn⟩ := not_or.mp hp
    refine huser.bind_fails (hcheck.bind_fails ?_)
    rw [decide_eq_false hn, if_pos ⟨Bool.false_ne_true, hs⟩]
    exact fails_throw _ _

/-- The caller may manage the invitations of the tenant. -/
def MayManage (d : Database) (u : User) (tenantId : UUID) : Prop :=
  u.isSuperuser ∨ HoldsPermission d.toTables u.id tenantId Permission.tenantManageInvitations.value

instance (d : Database) (u : User) (tenantId : UUID) : Decidable (MayManage d u tenantId) := by
  unfold MayManage
  infer_instance

/-- Identifying the caller changes nothing that is asked. -/
theorem mayManage_identifiedView {tenantId : UUID} :
    MayManage (Deps.identifiedView env now h d) u tenantId ↔ MayManage d u tenantId := by
  rw [MayManage, MayManage, Deps.holdsPermission_identifiedView]

theorem returns_readInvitation {x : Invitation} (hu : Deps.currentUser env now h d = .ok u)
    (hx : x ∈ (Deps.identifiedView env now h d).invitations)
    (hp : MayManage (Deps.identifiedView env now h d) u x.tenantId) :
    ∃ details, details.invitation = x ∧ Returns (readInvitation env now h x.id) d details
      (Deps.identifiedView env now h d) := by
  have huser := (Deps.yields_getCurrentUser env now h d).returns hu
  obtain ⟨hn, -⟩ | ⟨y, details, hf, hdet, hget⟩ :=
    InvitationService.returns_getInvitationWithDetails now x.id (Deps.identifiedView env now h d)
  · rw [InvitationService.find?_id hx] at hn
    cases hn
  · rw [InvitationService.find?_id hx] at hf
    cases hf
    rw [← hdet] at hp
    refine ⟨details, hdet, huser.bind (Returns.tryCatch (hget.bind ?_) _)⟩
    exact (returns_requireManagement hp).bind (returns_pure details _)

theorem fails_readInvitation {id : UUID} (hu : Deps.currentUser env now h d = .ok u)
    (hn : ∀ x ∈ (Deps.identifiedView env now h d).invitations, x.id = id →
      ¬MayManage (Deps.identifiedView env now h d) u x.tenantId) :
    Fails (readInvitation env now h id) d := by
  have huser := (Deps.yields_getCurrentUser env now h d).returns hu
  refine huser.bind_fails (Fails.tryCatch ?_ ?handler)
  case handler =>
    intro e
    cases e <;> exact ⟨_, rfl⟩
  obtain ⟨-, hget⟩ | ⟨x, details, hf, rfl, hget⟩ :=
    InvitationService.returns_getInvitationWithDetails now id (Deps.identifiedView env now h d)
  · exact hget.bind_fails (fails_throw _ _)
  · obtain ⟨hx, hid⟩ := (Rows.find?_key_eq_some
      (Deps.identifiedView env now h d).valid.keys.invitationsId).mp hf
    exact hget.bind_fails ((fails_requireManagement (hn _ hx hid)).bind _)

/-- Reading fails, or shows a row that the caller may manage. -/
theorem readInvitation_cases (hu : Deps.currentUser env now h d = .ok u) (id : UUID) :
    Fails (readInvitation env now h id) d ∨
    ∃ details, Returns (readInvitation env now h id) d details (Deps.identifiedView env now h d) ∧
      (u.isSuperuser ∨ HoldsPermission (Deps.identifiedView env now h d).toTables u.id
        details.invitation.tenantId Permission.tenantManageInvitations.value) := by
  by_cases hc : ∃ x ∈ (Deps.identifiedView env now h d).invitations, x.id = id ∧
      MayManage (Deps.identifiedView env now h d) u x.tenantId
  · obtain ⟨x, hx, rfl, hp⟩ := hc
    obtain ⟨details, rfl, hret⟩ := returns_readInvitation hu hx hp
    exact .inr ⟨details, hret, hp⟩
  · exact .inl (fails_readInvitation hu fun x hx hid hp => hc ⟨x, hx, hid, hp⟩)

theorem run_revokeInvitation {x : Invitation} (hu : Deps.currentUser env now h d = .ok u)
    (hx : x ∈ (Deps.identifiedView env now h d).invitations)
    (hp : MayManage (Deps.identifiedView env now h d) u x.tenantId) :
    ∃ y s, (revokeInvitation env now h x.id).run (.start d) = (.ok y, s) ∧
      y.tenantId = x.tenantId := by
  have huser := (Deps.yields_getCurrentUser env now h d).returns hu
  have hget := InvitationService.returns_get x.id (Deps.identifiedView env now h d)
  rw [InvitationService.find?_id hx] at hget
  rw [revokeInvitation, run_bind_ok (huser d), run_tryCatch, run_bind_ok (hget d)]
  dsimp only
  rw [run_bind_ok (returns_requireManagement hp d)]
  by_cases hs : x.status = .pending
  · rw [run_bind_ok (InvitationService.revokeInvitation_pending hx hs d)]
    exact ⟨_, _, rfl, rfl⟩
  · rw [run_bind_ok (InvitationService.revokeInvitation_closed hx hs d)]
    exact ⟨_, _, rfl, rfl⟩

theorem fails_revokeInvitation {id : UUID} (hu : Deps.currentUser env now h d = .ok u)
    (hn : ∀ x ∈ (Deps.identifiedView env now h d).invitations, x.id = id →
      ¬MayManage (Deps.identifiedView env now h d) u x.tenantId) :
    Fails (revokeInvitation env now h id) d := by
  have huser := (Deps.yields_getCurrentUser env now h d).returns hu
  have hget := InvitationService.returns_get id (Deps.identifiedView env now h d)
  refine huser.bind_fails (Fails.tryCatch (hget.bind_fails ?_) ?handler)
  case handler =>
    intro e
    cases e <;> exact ⟨_, rfl⟩
  cases hf : (Deps.identifiedView env now h d).invitations.find? (·.id = id) with
  | none => exact fails_throw _ _
  | some x =>
    obtain ⟨hx, hid⟩ := (Rows.find?_key_eq_some
      (Deps.identifiedView env now h d).valid.keys.invitationsId).mp hf
    exact (fails_requireManagement (hn x hx hid)).bind _

/-- Revoking fails, or returns a row of a tenant in which the caller may manage
invitations. -/
theorem revokeInvitation_cases (hu : Deps.currentUser env now h d = .ok u) (id : UUID) :
    Fails (revokeInvitation env now h id) d ∨
    ∃ x s, (revokeInvitation env now h id).run (.start d) = (.ok x, s) ∧
      (u.isSuperuser ∨ HoldsPermission (Deps.identifiedView env now h d).toTables u.id
        x.tenantId Permission.tenantManageInvitations.value) := by
  by_cases hc : ∃ x ∈ (Deps.identifiedView env now h d).invitations, x.id = id ∧
      MayManage (Deps.identifiedView env now h d) u x.tenantId
  · obtain ⟨x, hx, rfl, hp⟩ := hc
    obtain ⟨y, s, hrun, hten⟩ := run_revokeInvitation hu hx hp
    exact .inr ⟨y, s, hrun, hten ▸ hp⟩
  · exact .inl (fails_revokeInvitation hu fun x hx hid hp => hc ⟨x, hx, hid, hp⟩)

end Outcomes

end Endpoints
end VirtualStack
