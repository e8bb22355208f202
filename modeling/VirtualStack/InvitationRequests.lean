import Mathlib.Algebra.Order.Ring.Int
import VirtualStack.RbacWrites
import VirtualStack.Endpoints.Invitations

/-!
# What becomes of an invitation request

A request finds an active invitation of the same person to the same tenant, or makes a
new one. In the first case its role and its length are ignored; in the second nothing
checks that the length is there and is not negative.
-/

namespace VirtualStack
open UnitOfWork
open InvitationService (Live duplicate)

namespace Endpoints

/-- The `try` of `create_invitation`, for a caller who was let through. -/
def submitInvitation (req : InvitationRequest) (now : Time) (newId : UUID) (newToken : String) :
    Db (Invitation × String) :=
  tryCatch (InvitationService.createInvitation req now newId newToken)
    fun e => match e with
      | .notFound message => throw (.http 404 message)
      | .valueError message => throw (.http 400 message)
      | .authorization message => throw (.http 403 message)
      | _ => throw (.http 500 "An unexpected error occurred while creating the invitation.")

theorem createInvitation_eq (env : Env) (now : Time) (h : Headers) (body : InvitationCreate)
    (newId : UUID) (newToken : String) :
    createInvitation env now h body newId newToken = (do
      let (currentUser, _) ← Deps.requirePermissionInActiveTenant env now h .tenantManageInvitations
      let body ← lift (body.validate env)
      submitInvitation (body.request currentUser.id) now newId newToken) := rfl

section Outcomes

variable {d : Database} {req : InvitationRequest} {now : Time} {newId : UUID} {newToken : String}
  {x : Invitation}

/-- Generated for this request: no row has them, and the token fits its column. -/
structure Fresh (d : Database) (newId : UUID) (newToken : String) : Prop where
  id : newId ∉ d.invitations.map (·.id)
  token : newToken ∉ d.invitations.map (·.token)
  width : newToken.length ≤ 255

/-- The tenant and the inviter exist, and the email fits its column. -/
def Storable (d : Database) (req : InvitationRequest) : Prop :=
  req.tenantId ∈ d.tenants.map (·.id) ∧ req.inviterId ∈ d.users.map (·.id) ∧
    req.email.length ≤ 255

theorem valid_row_iff (hf : Fresh d newId newToken) {e : Time} :
    (d.addInvitation (req.row now newId newToken e)).Valid ↔ Storable d req := by
  rw [d.valid.addInvitation_iff rfl]
  constructor
  · rintro ⟨-, -, ht, hi, he, -⟩
    exact ⟨ht, hi, he⟩
  · rintro ⟨ht, hi, he⟩
    exact ⟨hf.id, hf.token, ht, hi, he, hf.width⟩

theorem expiresAt_error {e : Exc} (h : req.expiresAt now = .error e) :
    e = .typeError ∨ e = .overflowError := by
  rw [InvitationRequest.expiresAt] at h
  split at h
  · exact .inl (Except.error.inj h).symm
  · rw [addDays] at h
    split_ifs at h <;> exact .inr (Except.error.inj h).symm

theorem expiresAt_eq_ok {e : Time} : req.expiresAt now = .ok e ↔
    ∃ days, req.expiresInDays = some days ∧ addDays now days = .ok e := by
  rw [InvitationRequest.expiresAt]
  cases req.expiresInDays <;> simp

/-- None of the errors of the service is one that the endpoint knows. -/
theorem raises_createInvitation (h : ¬InvitationService.Creatable d req now newId newToken) :
    ∃ e ∈ [Exc.typeError, .overflowError, .integrityError, .dataError],
      Raises (InvitationService.createInvitation req now newId newToken) d e := by
  have hdup : duplicate d req now = none := by
    cases hf : duplicate d req now with
    | none => rfl
    | some x => exact absurd (.inl ⟨x, hf⟩) h
  have hstart := returns_query (ε := Exc) (fun d => duplicate d req now) d
  rw [hdup] at hstart
  cases he : req.expiresAt now with
  | error e =>
    have hraises : Raises (lift (.error e) : Db Time) d e := raises_throw e d
    refine ⟨e, ?_, hstart.bind_raises ?_⟩
    · rcases expiresAt_error he with rfl | rfl <;> simp
    · dsimp only
      rw [he]
      exact hraises.bind _
  | ok e =>
    have hv : ¬(d.addInvitation (req.row now newId newToken e)).Valid :=
      fun hv => h (.inr ⟨e, he, hv⟩)
    refine ⟨(d.addInvitation (req.row now newId newToken e)).violation, ?_,
      hstart.bind_raises ((returns_lift he d).bind_raises fun c => ⟨.aborted c, ?_, rfl⟩)⟩
    · rw [Tables.violation]
      split_ifs <;> simp
    · rw [run_bind_ok (add_clean c d _)]
      exact run_bind_error (commit_one_error c d (Database.change_eq_error hv)) _

/-- Whatever goes wrong in the service, the endpoint answers with an internal error. -/
theorem raises_submitInvitation (h : ¬InvitationService.Creatable d req now newId newToken) :
    Raises (submitInvitation req now newId newToken) d
      (.http 500 "An unexpected error occurred while creating the invitation.") := by
  obtain ⟨e, he, hraises⟩ := raises_createInvitation h
  simp only [List.mem_cons, List.not_mem_nil, or_false] at he
  rcases he with rfl | rfl | rfl | rfl
  all_goals exact hraises.tryCatch rfl

/-- The request is refused with a client error, or gives an invitation that its token
opens at once. -/
def Usable (d : Database) (req : InvitationRequest) (now : Time) (newId : UUID)
    (newToken : String) : Prop :=
  match (serve (submitInvitation req now newId newToken) d).1 with
  | .error e => ∃ status detail, e = .http status detail ∧ 400 ≤ status ∧ status < 500
  | .ok (x, token) =>
    Returns (InvitationService.verifyToken now token)
      (settle (submitInvitation req now newId newToken) d) (some x)
      (settle (submitInvitation req now newId newToken) d) ∧
    x.email = req.email ∧ x.tenantId = req.tenantId

theorem duplicate_eq_none : duplicate d req now = none ↔
    ¬∃ x ∈ d.invitations, x.email = req.email ∧ x.tenantId = req.tenantId ∧ x.isActive now := by
  rw [duplicate, List.find?_eq_none]
  simp

/-- What the duplicate check finds is an open invitation of this person to this tenant. -/
theorem of_duplicate (h : duplicate d req now = some x) :
    x ∈ d.invitations ∧ x.email = req.email ∧ x.tenantId = req.tenantId ∧ Live now x := by
  rw [duplicate] at h
  have hp := List.find?_some h
  obtain ⟨hemail, htenant, hactive⟩ := of_decide_eq_true hp
  obtain ⟨hpending, hlater⟩ := of_decide_eq_true hactive
  exact ⟨List.mem_of_find?_eq_some h, hemail, htenant, hpending, hlater.le⟩

theorem returns_submitInvitation_duplicate (h : duplicate d req now = some x) (newId : UUID)
    (newToken : String) : Returns (submitInvitation req now newId newToken) d (x, x.token) d :=
  (InvitationService.createInvitation_duplicate h).tryCatch _

theorem serve_submitInvitation_new {e : Time} (h : duplicate d req now = none)
    (he : req.expiresAt now = .ok e) (hv : (d.addInvitation (req.row now newId newToken e)).Valid) :
    serve (submitInvitation req now newId newToken) d =
      (.ok (req.row now newId newToken e, newToken), .start ⟨_, hv⟩) :=
  serve_of_ok (run_tryCatch_ok (InvitationService.createInvitation_new h he hv d) _)

theorem le_addDays {days : ℤ} {e : Time} (h : addDays now days = .ok e) : now ≤ e ↔ 0 ≤ days := by
  rw [addDays] at h
  split_ifs at h
  obtain rfl := Except.ok.inj h
  have hday : 0 < microsecondsPerDay := by decide
  rw [le_add_iff_nonneg_right, mul_nonneg_iff_of_pos_right hday]

theorem usable_duplicate (h : duplicate d req now = some x) : Usable d req now newId newToken := by
  obtain ⟨hx, hemail, htenant, hlive⟩ := of_duplicate h
  have hreturns := returns_submitInvitation_duplicate h newId newToken
  rw [Usable, hreturns.serve, hreturns.settle]
  exact ⟨InvitationService.verifyToken_live hx hlive, hemail, htenant⟩

/-- A new invitation can be used at once unless its length is negative. -/
theorem usable_new_iff {days : ℤ} {e : Time} (h : duplicate d req now = none)
    (hdays : req.expiresInDays = some days) (he : addDays now days = .ok e)
    (hv : (d.addInvitation (req.row now newId newToken e)).Valid) :
    Usable d req now newId newToken ↔ 0 ≤ days := by
  have hexpires : req.expiresAt now = .ok e := by rw [InvitationRequest.expiresAt, hdays]; exact he
  have hserve := serve_submitInvitation_new h hexpires hv
  have hsettle : settle (submitInvitation req now newId newToken) d = ⟨_, hv⟩ := by
    rw [settle, hserve]
  have hmem : req.row now newId newToken e ∈ (⟨_, hv⟩ : Database).invitations :=
    List.mem_append_right _ (List.mem_singleton.mpr rfl)
  rw [Usable, hserve, hsettle, ← le_addDays he]
  constructor
  · rintro ⟨hverify, -⟩
    by_contra hlate
    have hnone := InvitationService.verifyToken_expired hmem (Int.not_le.mp hlate) ⟨_, hv⟩
    have hboth := hnone.symm.trans (hverify ⟨_, hv⟩)
    cases congrArg Prod.fst hboth
  · intro hlive
    exact ⟨InvitationService.verifyToken_live hmem ⟨rfl, hlive⟩, rfl, rfl⟩

theorem not_usable (h : ¬InvitationService.Creatable d req now newId newToken) :
    ¬Usable d req now newId newToken := by
  rw [Usable, (raises_submitInvitation h).serve]
  rintro ⟨status, detail, he, -, hlt⟩
  cases he
  exact absurd hlt (by decide)

end Outcomes

/-- An invitation can be found again, or made with a length that leaves it open. -/
def Served (d : Database) (req : InvitationRequest) (now : Time) : Prop :=
  (∃ x ∈ d.invitations, x.email = req.email ∧ x.tenantId = req.tenantId ∧ x.isActive now) ∨
  (Storable d req ∧ ∃ days ∈ req.expiresInDays, 0 ≤ days ∧ ∃ e, addDays now days = .ok e)

/-- A request gives a usable invitation exactly when an active one exists, or its length
is a number of days from zero on and the new row can be stored. -/
theorem created_invitation_usable_iff {d : Database} {req : InvitationRequest} {now : Time}
    {newId : UUID} {newToken : String} (hf : Fresh d newId newToken) :
    Usable d req now newId newToken ↔ Served d req now := by
  rw [Served]
  cases hdup : duplicate d req now with
  | some x =>
    have hfound := mt duplicate_eq_none.mpr (by rw [hdup]; exact Option.some_ne_none x)
    exact iff_of_true (usable_duplicate hdup) (.inl (not_not.mp hfound))
  | none =>
    rw [or_iff_right (duplicate_eq_none.mp hdup)]
    by_cases hc : InvitationService.Creatable d req now newId newToken
    · obtain ⟨x, hx⟩ | ⟨e, he, hv⟩ := hc
      · rw [hdup] at hx
        cases hx
      · obtain ⟨days, hdays, hadd⟩ := expiresAt_eq_ok.mp he
        rw [usable_new_iff hdup hdays hadd hv]
        constructor
        · intro hle
          exact ⟨(valid_row_iff hf).mp hv, days, hdays, hle, e, hadd⟩
        · rintro ⟨-, days', hdays', hle, -⟩
          rw [Option.mem_def, hdays, Option.some.injEq] at hdays'
          rw [hdays']
          exact hle
    · refine iff_of_false (not_usable hc) ?_
      rintro ⟨hs, days, hdays, -, e, hadd⟩
      have he := expiresAt_eq_ok.mpr ⟨days, hdays, hadd⟩
      exact hc (.inr ⟨e, he, (valid_row_iff hf).mpr hs⟩)

theorem created_invitation_usable_iff_sample :
    Usable Database.sample ⟨"carol@acme.com", 1, 1, none, some 7⟩ 0 2 "invitation-2" ↔
      Served Database.sample ⟨"carol@acme.com", 1, 1, none, some 7⟩ 0 :=
  created_invitation_usable_iff ⟨by decide, by decide, by decide⟩

/-- A request without a length is an internal error, and one of a negative length gives a
token that is already expired. -/
theorem requests_without_usable_invitation :
    (serve (submitInvitation ⟨"carol@acme.com", 1, 1, none, none⟩ 0 2 "invitation-2")
      Database.sample).1 =
        .error (.http 500 "An unexpected error occurred while creating the invitation.") ∧
    ¬Usable Database.sample ⟨"carol@acme.com", 1, 1, none, none⟩ 0 2 "invitation-2" ∧
    ¬Usable Database.sample ⟨"carol@acme.com", 1, 1, none, some (-1)⟩ (2 * microsecondsPerDay) 2
      "invitation-2" := by
  have hno : ¬InvitationService.Creatable Database.sample ⟨"carol@acme.com", 1, 1, none, none⟩ 0 2
      "invitation-2" := by
    rintro (⟨x, hx⟩ | ⟨e, he, -⟩)
    · cases hx
    · cases he
  refine ⟨?_, not_usable hno, ?_⟩
  · rw [(raises_submitInvitation hno).serve]
  · have he : addDays (2 * microsecondsPerDay) (-1) = .ok microsecondsPerDay := by decide
    rw [usable_new_iff (by decide) rfl he (by decide)]
    decide

/-! ## The role asked for -/

/-- The invitation carries the role of the request, so does the stored row of the token,
and whoever accepts it is given no other role. -/
structure Unaltered (req : InvitationRequest) (x : Invitation) (token : String) (d : Database) :
    Prop where
  returned : x.roleId = req.roleId
  stored : ∃ y ∈ d.invitations, y.token = token ∧ y.roleId = req.roleId
  accepted : ∀ env later userId y s,
    serve (InvitationService.acceptInvitation env later token userId) d = (.ok (some y), s) →
      y.roleId = req.roleId ∧ ∀ a ∈ s.committed.userTenantRoles, a ∈ d.userTenantRoles ∨
        req.roleId = some a.roleId ∧ a.userId = userId ∧ a.tenantId = req.tenantId

/-- A request that succeeds is not altered. -/
def NeverAltered (d : Database) (req : InvitationRequest) (now : Time) (newId : UUID)
    (newToken : String) : Prop :=
  ∀ x token s, serve (InvitationService.createInvitation req now newId newToken) d =
    (.ok (x, token), s) → Unaltered req x token s.committed

section Acceptance

variable {d : Database} {x y : Invitation} {env : Env} {now : Time} {userId : UUID}

/-- Every assignment is an old one, or gives the user the role of the invitation. -/
def GrantsOnly (d : Database) (x : Invitation) (userId : UUID) (v : Database) : Prop :=
  ∀ a ∈ v.userTenantRoles, a ∈ d.userTenantRoles ∨
    x.roleId = some a.roleId ∧ a.userId = userId ∧ a.tenantId = x.tenantId

theorem keeps_grantsOnly_assign (d : Database) (x : Invitation) (userId : UUID) :
    Keeps (GrantsOnly d x userId) (InvitationService.assignInvitedRole env x userId) := by
  refine keeps_assignInvitedRole fun roleId hrole => keeps_assignRole_of_add ?_ false
  refine keeps_add fun v v' hv hw a ha => ?_
  rw [Database.change_eq_ok_iff.mp hw] at ha
  rcases List.mem_append.mp ha with hold | hnew
  · exact hv a hold
  · rw [List.mem_singleton.mp hnew]
    exact .inr ⟨hrole, rfl, rfl⟩

theorem keeps_grantsOnly_setAttributes (d : Database) (x : Invitation) (userId id : UUID)
    (f : Invitation → Invitation) :
    Keeps (GrantsOnly d x userId) (InvitationService.setAttributes id f) := by
  refine keeps_add fun v v' hv hw => ?_
  rw [GrantsOnly, Database.change_eq_ok_iff.mp hw]
  exact hv

theorem keepsAt_acceptInvitation (env : Env) (userId : UUID) (hx : x ∈ d.invitations)
    (hl : Live now x) :
    KeepsAt (GrantsOnly d x userId) d
      (InvitationService.acceptInvitation env now x.token userId) := by
  have hrest : Keeps (GrantsOnly d x userId) (do
      InvitationService.setAttributes x.id (Invitation.markAccepted userId now)
      InvitationService.assignInvitedRole env x userId
      commit
      let invitation ← CRUDBase.refresh (fun d : Database => d.invitations) (·.id) x.id
      pure (some invitation) : Db (Option Invitation)) :=
    (keeps_grantsOnly_setAttributes d x userId x.id _).bind fun _ =>
      (keeps_grantsOnly_assign d x userId).bind fun _ =>
        keeps_commit.bind fun _ => (keeps_refresh _ _ x.id).bind fun _ => keeps_pure _
  intro c hc
  rw [InvitationService.acceptInvitation, run_bind_ok (InvitationService.verifyToken_live hx hl c)]
  exact hrest.keepsAt (fun a ha => .inl ha) c hc

/-- Accepting an invitation grants its role, if any. -/
theorem accept_grantsOnly (hx : x ∈ d.invitations) {s : Session Database Exc}
    (hs : serve (InvitationService.acceptInvitation env now x.token userId) d = (.ok (some y), s)) :
    y.roleId = x.roleId ∧ GrantsOnly d x userId s.committed := by
  by_cases hlate : x.expiresAt < now
  · rw [serve_of_ok (InvitationService.acceptInvitation_expired hx hlate d)] at hs
    cases hs
  by_cases hpending : x.status = .pending
  · have hlive : Live now x := ⟨hpending, Int.not_lt.mp hlate⟩
    have hinv := keepsAt_acceptInvitation env userId hx hlive d fun a ha => .inl ha
    obtain ⟨e, s', he, -⟩ | ⟨d', hd', -⟩ :=
      InvitationService.acceptInvitation_live env userId hx hlive d
    · rw [serve_of_error he] at hs
      cases hs
    · rw [serve_of_ok hd'] at hs
      rw [hd'] at hinv
      cases hs
      exact ⟨rfl, hinv.committed⟩
  · rw [(InvitationService.acceptInvitation_closed hx hlate hpending).serve] at hs
    cases hs

/-- A stored invitation with the role, for the tenant, of the request. -/
theorem unaltered_of_mem {req : InvitationRequest} (hx : x ∈ d.invitations)
    (hrole : x.roleId = req.roleId) (htenant : x.tenantId = req.tenantId) :
    Unaltered req x x.token d := by
  refine ⟨hrole, ⟨x, hx, rfl, hrole⟩, fun env later userId y s hs => ?_⟩
  obtain ⟨hy, hgrants⟩ := accept_grantsOnly hx hs
  rw [← hrole, ← htenant]
  exact ⟨hy, hgrants⟩

end Acceptance

/-- A request is never altered exactly when the first active invitation of the person to
the tenant, if there is one, has the role of the request. -/
theorem never_altered_iff (d : Database) (req : InvitationRequest) (now : Time) (newId : UUID)
    (newToken : String) :
    NeverAltered d req now newId newToken ↔
      ∀ x, d.invitations.find? (fun x => x.email = req.email ∧ x.tenantId = req.tenantId ∧
        x.isActive now) = some x → x.roleId = req.roleId := by
  change _ ↔ ∀ x, duplicate d req now = some x → _
  cases hdup : duplicate d req now with
  | some x =>
    have hreturns : Returns (InvitationService.createInvitation req now newId newToken) d
        (x, x.token) d := InvitationService.createInvitation_duplicate hdup
    have hserve := hreturns.serve
    constructor
    · rintro h y ⟨⟩
      exact (h _ _ _ hserve).returned
    · rintro h y token s hs
      rw [hserve] at hs
      cases hs
      obtain ⟨hx, -, htenant, -⟩ := of_duplicate hdup
      exact unaltered_of_mem hx (h x rfl) htenant
  | none =>
    refine iff_of_true (fun y token s hs => ?_) (fun x hx => by cases hx)
    by_cases hc : InvitationService.Creatable d req now newId newToken
    · obtain ⟨x, hx⟩ | ⟨e, he, hv⟩ := hc
      · rw [hdup] at hx
        cases hx
      · rw [serve_of_ok (InvitationService.createInvitation_new hdup he hv d)] at hs
        cases hs
        exact unaltered_of_mem (List.mem_append_right _ (List.mem_singleton.mpr rfl)) rfl rfl
    · obtain ⟨e, -, hraises⟩ := raises_createInvitation hc
      rw [hraises.serve] at hs
      cases hs

/-- Bob is invited once more, now as a manager, and is given the old invitation without a
role. -/
theorem second_invitation_loses_role :
    (serve (InvitationService.createInvitation ⟨"bob@acme.com", 1, 1, some 2, some 7⟩ 0 2
      "invitation-2") Database.sample).1 =
        .ok (⟨1, "bob@acme.com", "invitation-1", .pending, 100, none, 1, 1, none, none, 0⟩,
          "invitation-1") ∧
    ¬NeverAltered Database.sample ⟨"bob@acme.com", 1, 1, some 2, some 7⟩ 0 2 "invitation-2" := by
  have hserve : serve (InvitationService.createInvitation ⟨"bob@acme.com", 1, 1, some 2, some 7⟩ 0
      2 "invitation-2") Database.sample = (.ok (⟨1, "bob@acme.com", "invitation-1", .pending, 100,
        none, 1, 1, none, none, 0⟩, "invitation-1"), .start Database.sample) :=
    (InvitationService.createInvitation_duplicate (by decide)).serve
  refine ⟨by rw [hserve], fun h => ?_⟩
  cases (h _ _ _ hserve).returned

end Endpoints
end VirtualStack
