import VirtualStack.Services.User

/-!
# `services/iam/invitation.py`

Each operation takes the time at which it runs, and `createInvitation` the id
and the token that are generated for a new row.
-/

namespace VirtualStack
open UnitOfWork

namespace Invitation

/-- The filter of the duplicate check: pending, and expiring later than now. -/
def isActive (now : Time) (x : Invitation) : Bool := x.status = .pending ∧ now < x.expiresAt

/-- The property `is_expired`. -/
def isExpired (now : Time) (x : Invitation) : Bool := x.expiresAt < now

/-- The property `is_pending`. -/
def isPending (now : Time) (x : Invitation) : Bool := x.status = .pending ∧ ¬x.isExpired now

/-! The columns that the operations write. -/

def markExpired (x : Invitation) : Invitation := { x with status := .expired }

def markRevoked (x : Invitation) : Invitation := { x with status := .revoked }

def markAccepted (userId : UUID) (now : Time) (x : Invitation) : Invitation :=
  { x with status := .accepted, userId := some userId, acceptedAt := some now }

end Invitation

/-- An update of an invitation may only set a user that exists; no other column
it writes is constrained. -/
theorem Tables.Valid.modifyInvitation {t : Tables} (h : t.Valid) (id : UUID)
    {f : Invitation → Invitation} (hid : ∀ x, (f x).id = x.id) (htoken : ∀ x, (f x).token = x.token)
    (hemail : ∀ x, (f x).email = x.email) (hten : ∀ x, (f x).tenantId = x.tenantId)
    (hinv : ∀ x, (f x).inviterId = x.inviterId)
    (huser : ∀ x ∈ t.invitations, x.id = id → ∀ y ∈ (f x).userId, y ∈ t.users.map (·.id)) :
    (t.modifyInvitation id f).Valid := by
  refine ⟨?_, ?_, ?_⟩
  · exact { h.keys with
      invitationsId := Rows.nodup_map_modify _ _ hid h.keys.invitationsId
      invitationsToken := Rows.nodup_map_modify _ _ htoken h.keys.invitationsToken }
  · exact { h.references with
      invitationTenant := Rows.forall_modify h.references.invitationTenant
        fun x _ _ hx => by rw [hten]; exact hx
      invitationInviter := Rows.forall_modify h.references.invitationInviter
        fun x _ _ hx => by rw [hinv]; exact hx
      invitationUser := Rows.forall_modify h.references.invitationUser
        fun x hx hk _ => huser x hx hk }
  · exact { h.widths with
      invitations := Rows.forall_modify h.widths.invitations
        fun x _ _ hx => by rw [hemail, htoken]; exact hx }

/-- The stored rows after an invitation was found expired. -/
def Database.expireInvitation (d : Database) (id : UUID) : Database :=
  ⟨d.modifyInvitation id Invitation.markExpired,
    d.valid.modifyInvitation id (fun _ => rfl) (fun _ => rfl) (fun _ => rfl) (fun _ => rfl)
      (fun _ => rfl) fun x hx _ => d.valid.references.invitationUser x hx⟩

/-- The stored rows after an invitation was revoked. -/
def Database.revokeInvitation (d : Database) (id : UUID) : Database :=
  ⟨d.modifyInvitation id Invitation.markRevoked,
    d.valid.modifyInvitation id (fun _ => rfl) (fun _ => rfl) (fun _ => rfl) (fun _ => rfl)
      (fun _ => rfl) fun x hx _ => d.valid.references.invitationUser x hx⟩

/-- The arguments of `create_invitation`. -/
structure InvitationRequest where
  email : String
  tenantId : UUID
  inviterId : UUID
  roleId : Option UUID
  expiresInDays : Option ℤ
  deriving DecidableEq, Repr

/-- The row of a new invitation. -/
def InvitationRequest.row (req : InvitationRequest) (now : Time) (newId : UUID) (token : String)
    (expiresAt : Time) : Invitation :=
  { id := newId
    email := req.email
    token := token
    status := .pending
    expiresAt := expiresAt
    acceptedAt := none
    tenantId := req.tenantId
    inviterId := req.inviterId
    userId := none
    roleId := req.roleId
    createdAt := now }

/-- `datetime.utcnow() + timedelta(days=expires_in_days)`; a `None` is a
`TypeError`. -/
def InvitationRequest.expiresAt (req : InvitationRequest) (now : Time) : Except Exc Time :=
  match req.expiresInDays with
  | none => .error .typeError
  | some days => addDays now days

namespace InvitationService

def get (recordId : UUID) : Db (Option Invitation) :=
  CRUDBase.get (·.invitations) (·.id) recordId

def getByToken (token : String) : Db (Option Invitation) :=
  query fun d => d.invitations.find? (·.token = token)

/-- The active invitation of the same person to the same tenant, if any. -/
def duplicate (d : Database) (req : InvitationRequest) (now : Time) : Option Invitation :=
  d.invitations.find? fun x => x.email = req.email ∧ x.tenantId = req.tenantId ∧ x.isActive now

def createInvitation (req : InvitationRequest) (now : Time) (newId : UUID) (newToken : String) :
    Db (Invitation × String) := do
  match ← query fun d => duplicate d req now with
  | some existing => pure (existing, existing.token)
  | none => do
    let expiresAt ← lift (req.expiresAt now)
    add (·.change (Tables.addInvitation (req.row now newId newToken expiresAt)))
    commit
    let invitation ← CRUDBase.refresh (·.invitations) (·.id) newId
    pure (invitation, newToken)

/-- Set attributes of a stored invitation. -/
def setAttributes (id : UUID) (f : Invitation → Invitation) : Db Unit :=
  add (·.change (Tables.modifyInvitation id f))

def verifyToken (now : Time) (token : String) : Db (Option Invitation) := do
  match ← getByToken token with
  | none => pure none
  | some invitation =>
    if invitation.expiresAt < now then do
      setAttributes invitation.id Invitation.markExpired
      commit
      pure none
    else if invitation.status ≠ .pending then pure none
    else pure (some invitation)

/-- The role is assigned inside a `try` whose handler only logs. The log line
reads attributes of the invitation, which fails in an aborted transaction. -/
def assignInvitedRole (env : Env) (invitation : Invitation) (userId : UUID) : Db Unit :=
  match invitation.roleId with
  | none => pure ()
  | some roleId =>
    tryCatch
      (do
        let _ ← UserService.assignRoleToUserInTenant env userId roleId invitation.tenantId false
        pure ())
      fun _ => assertLive

def acceptInvitation (env : Env) (now : Time) (token : String) (userId : UUID) :
    Db (Option Invitation) := do
  match ← verifyToken now token with
  | none => pure none
  | some invitation => do
    setAttributes invitation.id (Invitation.markAccepted userId now)
    assignInvitedRole env invitation userId
    commit
    let invitation ← CRUDBase.refresh (·.invitations) (·.id) invitation.id
    pure (some invitation)

def revokeInvitation (invitationId : UUID) : Db (Option Invitation) := do
  match ← get invitationId with
  | none => pure none
  | some invitation =>
    if invitation.status ≠ .pending then pure (some invitation)
    else do
      setAttributes invitation.id Invitation.markRevoked
      commit
      let invitation ← CRUDBase.refresh (·.invitations) (·.id) invitation.id
      pure (some invitation)

/-- The dictionary that `get_invitation_with_details` returns. -/
structure Details where
  invitation : Invitation
  tenantName : Option String
  inviterEmail : Option String
  isExpired : Bool
  isPending : Bool
  deriving DecidableEq, Repr

def getInvitationWithDetails (now : Time) (invitationId : UUID) : Db (Option Details) := do
  match ← get invitationId with
  | none => pure none
  | some invitation => do
    let tenant ← query fun d => d.tenants.find? (·.id = invitation.tenantId)
    let inviter ← query fun d => d.users.find? (·.id = invitation.inviterId)
    pure (some
      { invitation := invitation
        tenantName := tenant.map (·.name)
        inviterEmail := inviter.map (·.email)
        isExpired := invitation.isExpired now
        isPending := invitation.isPending now })

/-- `order_by(created_at.desc()).offset(skip).limit(limit)` on a tenant's rows. -/
def getMultiByTenant (tenantId : UUID) (skip limit : ℕ) : Db (List Invitation) :=
  query fun d => (((d.invitations.filter (·.tenantId = tenantId)).mergeSort
    fun x y => y.createdAt ≤ x.createdAt).drop skip).take limit

/-- `order_by(created_at.desc()).offset(skip).limit(limit)` on a tenant's pending rows that
expire later than now. -/
def getPendingByTenant (now : Time) (tenantId : UUID) (skip limit : ℕ) : Db (List Invitation) :=
  query fun d => (((d.invitations.filter fun x => x.tenantId = tenantId ∧ x.status = .pending ∧
    now < x.expiresAt).mergeSort fun x y => y.createdAt ≤ x.createdAt).drop skip).take limit

/-! ## Outcomes -/

section Outcomes

variable {env : Env} {now : Time} {d d' : Database} {x : Invitation} {userId : UUID}

theorem returns_getByToken (token : String) (d : Database) :
    Returns (getByToken token) d (d.invitations.find? (·.token = token)) d := returns_query _ d

theorem returns_get (id : UUID) (d : Database) :
    Returns (get id) d (d.invitations.find? (·.id = id)) d := CRUDBase.returns_get _ _ d id

theorem find?_token (hx : x ∈ d.invitations) :
    d.invitations.find? (·.token = x.token) = some x :=
  (Rows.find?_key_eq_some d.valid.keys.invitationsToken).mpr ⟨hx, rfl⟩

theorem find?_id (hx : x ∈ d.invitations) : d.invitations.find? (·.id = x.id) = some x :=
  (Rows.find?_key_eq_some d.valid.keys.invitationsId).mpr ⟨hx, rfl⟩

/-- An active invitation can be returned again, or a new row is accepted. -/
def Creatable (d : Database) (req : InvitationRequest) (now : Time) (newId : UUID)
    (newToken : String) : Prop :=
  (∃ x, duplicate d req now = some x) ∨
    ∃ e, req.expiresAt now = .ok e ∧ (d.addInvitation (req.row now newId newToken e)).Valid

theorem createInvitation_duplicate {req : InvitationRequest} {newId : UUID} {newToken : String}
    (h : duplicate d req now = some x) :
    Returns (createInvitation req now newId newToken) d (x, x.token) d := by
  refine (returns_query _ d).bind ?_
  rw [h]
  exact returns_pure _ d

theorem createInvitation_new {req : InvitationRequest} {newId : UUID} {newToken : String}
    {e : Time} (h : duplicate d req now = none) (he : req.expiresAt now = .ok e)
    (hv : (d.addInvitation (req.row now newId newToken e)).Valid) (c : Database) :
    (createInvitation req now newId newToken).run (.clean c d) =
      (.ok (req.row now newId newToken e, newToken), .start ⟨_, hv⟩) := by
  have hf : (d.addInvitation (req.row now newId newToken e)).invitations.find? (·.id = newId) =
      some (req.row now newId newToken e) :=
    (Rows.find?_key_eq_some hv.keys.invitationsId).mpr ⟨List.mem_append_right _ (by simp), rfl⟩
  rw [createInvitation, run_bind_ok (query_clean c d _), h]
  dsimp only
  rw [he, run_bind_ok (run_lift _ _), run_bind_ok (add_clean c d _),
    run_bind_ok (commit_one_ok c d (Database.change_eq_ok hv)),
    run_bind_ok (CRUDBase.returns_refresh _ _ ⟨_, hv⟩ newId hf _), run_pure]

/-- What is created or found again is an invitation to the tenant asked for. -/
theorem createInvitation_creatable {req : InvitationRequest} {newId : UUID} {newToken : String}
    (h : Creatable d req now newId newToken) (c : Database) :
    ∃ x token s, (createInvitation req now newId newToken).run (.clean c d) = (.ok (x, token), s) ∧
      x.tenantId = req.tenantId := by
  cases hdup : duplicate d req now with
  | some x =>
    refine ⟨x, _, _, createInvitation_duplicate hdup c, ?_⟩
    rw [duplicate] at hdup
    have hp := List.find?_some hdup
    exact (of_decide_eq_true hp).2.1
  | none =>
    obtain ⟨x, hx⟩ | ⟨e, he, hv⟩ := h
    · rw [hdup] at hx
      cases hx
    · exact ⟨_, _, _, createInvitation_new hdup he hv c, rfl⟩

theorem fails_createInvitation {req : InvitationRequest} {newId : UUID} {newToken : String}
    (h : ¬Creatable d req now newId newToken) :
    Fails (createInvitation req now newId newToken) d := by
  refine (returns_query _ d).bind_fails ?_
  cases hdup : duplicate d req now with
  | some x => exact absurd (.inl ⟨x, hdup⟩) h
  | none =>
    cases he : req.expiresAt now with
    | error e => exact (fails_lift (by simp) d).bind _
    | ok e =>
      refine (returns_lift rfl d).bind_fails ?_
      have hv : ¬(d.addInvitation (req.row now newId newToken e)).Valid :=
        fun hv => h (.inr ⟨e, he, hv⟩)
      refine ⟨(d.addInvitation (req.row now newId newToken e)).violation,
        fun c => ⟨.aborted c, ?_, rfl⟩⟩
      rw [run_bind_ok (add_clean c d _)]
      exact run_bind_error (commit_one_error c d (Database.change_eq_error hv)) _

/-! The state in which a token can be used, and the three ways out of it. -/

/-- Pending, and not past its expiry. -/
def Live (now : Time) (x : Invitation) : Prop := x.status = .pending ∧ now ≤ x.expiresAt

/-- A token is unknown, or its invitation is expired, closed or live. -/
theorem token_cases (now : Time) (d : Database) (token : String) :
    (∀ x ∈ d.invitations, x.token ≠ token) ∨ ∃ x ∈ d.invitations, x.token = token ∧
      (x.expiresAt < now ∨ (¬x.expiresAt < now ∧ x.status ≠ .pending) ∨ Live now x) := by
  by_cases hx : ∃ x ∈ d.invitations, x.token = token
  · obtain ⟨x, hx, htoken⟩ := hx
    refine .inr ⟨x, hx, htoken, ?_⟩
    by_cases he : x.expiresAt < now
    · exact .inl he
    · by_cases hs : x.status = .pending
      · exact .inr (.inr ⟨hs, Int.not_lt.mp he⟩)
      · exact .inr (.inl ⟨he, hs⟩)
  · exact .inl fun x hm htoken => hx ⟨x, hm, htoken⟩

theorem verifyToken_unknown {token : String} (h : ∀ x ∈ d.invitations, x.token ≠ token) :
    Returns (verifyToken now token) d none d := by
  have hf : d.invitations.find? (·.token = token) = none :=
    List.find?_eq_none.mpr fun x hx => by simpa using h x hx
  refine (returns_getByToken token d).bind ?_
  rw [hf]
  exact returns_pure none d

theorem verifyToken_expired (hx : x ∈ d.invitations) (he : x.expiresAt < now) (c : Database) :
    (verifyToken now x.token).run (.clean c d) =
      (.ok none, .start (d.expireInvitation x.id)) := by
  have hw : d.change (Tables.modifyInvitation x.id Invitation.markExpired) =
      .ok (d.expireInvitation x.id) := Database.change_eq_ok_iff.mpr rfl
  rw [verifyToken, run_bind_ok (returns_getByToken x.token d c), find?_token hx]
  dsimp only
  rw [if_pos he, setAttributes, run_bind_ok (add_clean c d _), run_bind_ok (commit_one_ok c d hw),
    run_pure]

theorem verifyToken_closed (hx : x ∈ d.invitations) (he : ¬x.expiresAt < now)
    (hs : x.status ≠ .pending) : Returns (verifyToken now x.token) d none d := by
  refine (returns_getByToken x.token d).bind ?_
  rw [find?_token hx]
  dsimp only
  rw [if_neg he, if_pos hs]
  exact returns_pure none d

theorem verifyToken_live (hx : x ∈ d.invitations) (hl : Live now x) :
    Returns (verifyToken now x.token) d (some x) d := by
  refine (returns_getByToken x.token d).bind ?_
  rw [find?_token hx]
  dsimp only
  rw [if_neg (Int.not_lt.mpr hl.2), if_neg (not_not.mpr hl.1)]
  exact returns_pure _ d

theorem acceptInvitation_unknown {token : String} (h : ∀ x ∈ d.invitations, x.token ≠ token) :
    Returns (acceptInvitation env now token userId) d none d :=
  (verifyToken_unknown h).bind (returns_pure none d)

theorem acceptInvitation_expired (hx : x ∈ d.invitations) (he : x.expiresAt < now)
    (c : Database) : (acceptInvitation env now x.token userId).run (.clean c d) =
      (.ok none, .start (d.expireInvitation x.id)) := by
  rw [acceptInvitation, run_bind_ok (verifyToken_expired hx he c)]
  rfl

theorem acceptInvitation_closed (hx : x ∈ d.invitations) (he : ¬x.expiresAt < now)
    (hs : x.status ≠ .pending) : Returns (acceptInvitation env now x.token userId) d none d :=
  (verifyToken_closed hx he hs).bind (returns_pure none d)

/-- The end of `accept_invitation`: commit, and read the invitation back. -/
theorem run_commit_refresh {s : Session Database Exc} (hs : commit.run s = (.ok (), .start d'))
    (hf : d'.invitations.find? (·.id = x.id) = some x) :
    (do
      commit
      let invitation ← CRUDBase.refresh (fun d : Database => d.invitations) (·.id) x.id
      pure (some invitation) : Db (Option Invitation)).run s = (.ok (some x), .start d') := by
  rw [run_bind_ok hs, run_bind_ok (CRUDBase.returns_refresh _ _ d' x.id hf d'), run_pure]

/-- With an accepted write waiting, the role is assigned or left out; the commit
that follows can still refuse the assignment. -/
theorem assignInvitedRole_waiting (env : Env) (x : Invitation) (userId : UUID)
    {w : Database → Except Exc Database} (hw : w d = .ok d') (c : Database) :
    ∃ s, (assignInvitedRole env x userId).run ⟨c, d, [w], false⟩ = (.ok (), s) ∧
      ((∃ e s', commit.run s = (.error e, s') ∧ s'.committed = c) ∨
        ∃ v, commit.run s = (.ok (), .start v) ∧ v.invitations = d'.invitations) := by
  rw [assignInvitedRole]
  cases x.roleId with
  | none => exact ⟨_, rfl, .inr ⟨d', commit_one_ok c d hw, rfl⟩⟩
  | some roleId =>
    dsimp only
    rw [run_tryCatch, ((UserService.autoflush_assignRole env userId roleId x.tenantId false).bind
      _).run_one_ok hw, run_bind]
    obtain ⟨r, hrun⟩ | hrun := UserService.run_assignRole_cases env userId roleId x.tenantId c d'
    · rw [hrun]
      cases r <;> exact ⟨_, rfl, .inr ⟨d', commit_clean c d', rfl⟩⟩
    · rw [hrun]
      refine ⟨_, rfl, ?_⟩
      cases hadd : Database.change (Tables.addAssignment ⟨userId, roleId, x.tenantId⟩) d' with
      | error e => exact .inl ⟨e, .aborted c, commit_one_error c d' hadd, rfl⟩
      | ok v =>
        refine .inr ⟨v, commit_one_ok c d' hadd, ?_⟩
        rw [Database.change_eq_ok_iff.mp hadd]
        rfl

/-- A write that is refused fails inside the `try`, or is left to the commit. -/
theorem assignInvitedRole_refused (env : Env) (x : Invitation) (userId : UUID)
    {w : Database → Except Exc Database} {e : Exc} (hw : w d = .error e) (c : Database) :
    (∃ e s, (assignInvitedRole env x userId).run ⟨c, d, [w], false⟩ = (.error e, s) ∧
      s.committed = c) ∨
    (assignInvitedRole env x userId).run ⟨c, d, [w], false⟩ = (.ok (), ⟨c, d, [w], false⟩) := by
  rw [assignInvitedRole]
  cases x.roleId with
  | none => exact .inr rfl
  | some roleId =>
    left
    dsimp only
    rw [run_tryCatch, ((UserService.autoflush_assignRole env userId roleId x.tenantId false).bind
      _).run_one_error hw]
    exact ⟨_, .aborted c, rfl, rfl⟩

/-- The accepted invitation, found in the rows where it was marked. -/
theorem find?_markAccepted {rows : List Invitation} (hx : x ∈ d.invitations)
    (h : rows = Rows.modify (·.id) x.id (Invitation.markAccepted userId now) d.invitations) :
    rows.find? (·.id = x.id) = some (x.markAccepted userId now) := by
  rw [h, Rows.find?_modify_self (f := Invitation.markAccepted userId now) (fun _ => rfl),
    find?_id hx]
  rfl

/-- A user who is not stored cannot be set on the invitation: nothing is committed. -/
theorem acceptInvitation_refused (env : Env) (hx : x ∈ d.invitations) (hl : Live now x)
    (hv : ¬(d.modifyInvitation x.id (Invitation.markAccepted userId now)).Valid)
    (c : Database) : ∃ e s, (acceptInvitation env now x.token userId).run (.clean c d) =
      (.error e, s) ∧ s.committed = c := by
  rw [acceptInvitation, run_bind_ok (verifyToken_live hx hl c)]
  dsimp only [setAttributes]
  rw [run_bind_ok (add_clean c d _)]
  have hw := Database.change_eq_error hv
  obtain ⟨e, s, he, hs⟩ | hassign := assignInvitedRole_refused env x userId hw c
  · exact ⟨e, s, run_bind_error he _, hs⟩
  · rw [run_bind_ok hassign]
    exact ⟨_, .aborted c, run_bind_error (commit_one_error c d hw) _, rfl⟩

/-- A live invitation is accepted, or the request fails and nothing is stored.
The assignment of the role can only add a row to another table. -/
theorem acceptInvitation_live (env : Env) (userId : UUID) (hx : x ∈ d.invitations)
    (hl : Live now x) (c : Database) :
    (∃ e s, (acceptInvitation env now x.token userId).run (.clean c d) = (.error e, s) ∧
      s.committed = c) ∨
    ∃ d', (acceptInvitation env now x.token userId).run (.clean c d) =
        (.ok (some (x.markAccepted userId now)), .start d') ∧
      d'.invitations =
        Rows.modify (·.id) x.id (Invitation.markAccepted userId now) d.invitations := by
  by_cases hv : (d.modifyInvitation x.id (Invitation.markAccepted userId now)).Valid
  · obtain ⟨s, hassign, hcommit⟩ :=
      assignInvitedRole_waiting env x userId (Database.change_eq_ok hv) c
    rw [acceptInvitation, run_bind_ok (verifyToken_live hx hl c)]
    dsimp only [setAttributes]
    rw [run_bind_ok (add_clean c d _), run_bind_ok hassign]
    obtain ⟨e, s', he, hs'⟩ | ⟨d', hd', hinv⟩ := hcommit
    · exact .inl ⟨e, s', run_bind_error he _, hs'⟩
    · have hfind := find?_markAccepted hx hinv
      exact .inr ⟨d', run_commit_refresh (x := x.markAccepted userId now) hd' hfind, hinv⟩
  · exact .inl (acceptInvitation_refused env hx hl hv c)

theorem returns_getMultiByTenant (tenantId : UUID) (skip limit : ℕ) (d : Database) :
    ∃ rows, Returns (getMultiByTenant tenantId skip limit) d rows d ∧
      ∀ x ∈ rows, x.tenantId = tenantId := by
  refine ⟨_, returns_query _ d, fun x hx => ?_⟩
  have hmem := (List.mergeSort_perm _ _).mem_iff.mp (List.mem_of_mem_drop (List.mem_of_mem_take hx))
  simpa using (List.mem_filter.mp hmem).2

/-- The details are those of the invitation, if there is one. -/
theorem returns_getInvitationWithDetails (now : Time) (id : UUID) (d : Database) :
    (d.invitations.find? (·.id = id) = none ∧ Returns (getInvitationWithDetails now id) d none d) ∨
    ∃ x details, d.invitations.find? (·.id = id) = some x ∧ details.invitation = x ∧
      Returns (getInvitationWithDetails now id) d (some details) d := by
  have hget := returns_get id d
  cases hf : d.invitations.find? (·.id = id) with
  | none =>
    left
    rw [hf] at hget
    exact ⟨rfl, hget.bind (returns_pure none d)⟩
  | some x =>
    right
    rw [hf] at hget
    refine ⟨x, _, rfl, ?_, hget.bind ((returns_query _ d).bind ((returns_query _ d).bind
      (returns_pure _ d)))⟩
    rfl

theorem revokeInvitation_unknown {id : UUID} (h : ∀ x ∈ d.invitations, x.id ≠ id) :
    Returns (revokeInvitation id) d none d := by
  have hf : d.invitations.find? (·.id = id) = none :=
    List.find?_eq_none.mpr fun x hx => by simpa using h x hx
  refine (returns_get id d).bind ?_
  rw [hf]
  exact returns_pure none d

theorem revokeInvitation_closed (hx : x ∈ d.invitations) (hs : x.status ≠ .pending) :
    Returns (revokeInvitation x.id) d (some x) d := by
  refine (returns_get x.id d).bind ?_
  rw [find?_id hx]
  dsimp only
  rw [if_pos hs]
  exact returns_pure _ d

theorem revokeInvitation_pending (hx : x ∈ d.invitations) (hs : x.status = .pending)
    (c : Database) : (revokeInvitation x.id).run (.clean c d) =
      (.ok (some x.markRevoked), .start (d.revokeInvitation x.id)) := by
  have hw : d.change (Tables.modifyInvitation x.id Invitation.markRevoked) =
      .ok (d.revokeInvitation x.id) := Database.change_eq_ok_iff.mpr rfl
  have hf : (d.revokeInvitation x.id).invitations.find? (·.id = x.id) =
      some x.markRevoked := by
    change (Rows.modify (·.id) x.id Invitation.markRevoked d.invitations).find? _ = _
    rw [Rows.find?_modify_self (f := Invitation.markRevoked) (fun _ => rfl), find?_id hx]
    rfl
  rw [revokeInvitation, run_bind_ok (returns_get x.id d c), find?_id hx]
  dsimp only
  rw [if_neg (not_not.mpr hs), setAttributes, run_bind_ok (add_clean c d _),
    run_bind_ok (commit_one_ok c d hw), run_bind_ok (CRUDBase.returns_refresh _ _ _ x.id hf _),
    run_pure]

end Outcomes

end InvitationService
end VirtualStack
