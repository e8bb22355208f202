import VirtualStack.Endpoints.Invitations

/-!
# Accepting an invitation end to end

The accept endpoint creates the user before it accepts the invitation, through
a call of `user_service.create` without the `tenant_id` that `create` requires.
Nobody gets in that way, whatever is stored.
-/

namespace VirtualStack
open UnitOfWork

/-- An open invitation that a new user can accept, and a payload to do it with. -/
structure Acceptable (now : Time) (d : Database) (x : Invitation) (payload : InvitationAccept) :
    Prop where
  stored : x ∈ d.invitations
  token : payload.token = x.token
  live : InvitationService.Live now x
  unregistered : ∀ u ∈ d.users, u.email ≠ x.email
  defaultRole : ∃ r ∈ d.roles, r.name = "Default User Role" ∧ r.tenantId = some x.tenantId
  role : ∀ roleId ∈ x.roleId, ∃ r ∈ d.roles, r.id = roleId ∧
    (r.isSystemRole ∨ r.tenantId = some x.tenantId)
  password : 8 ≤ payload.password.length
  names : ∃ firstName lastName, payload.firstName = some firstName ∧
    payload.lastName = some lastName

/-- The new user is in: stored under the invited address, a member of the tenant
with the role of the invitation, and named on the accepted invitation. -/
structure Admitted (d d' : Database) (x : Invitation) (u : User) : Prop where
  onlyNew : d'.users.filter (· ∉ d.users) = [u]
  email : u.email = x.email
  notSuperuser : ¬u.isSuperuser
  member : IsMember d'.toTables u.id x.tenantId
  role : ∀ roleId ∈ x.roleId, ⟨u.id, roleId, x.tenantId⟩ ∈ d'.userTenantRoles
  accepted : ∃ y ∈ d'.invitations, y.id = x.id ∧ y.status = .accepted ∧ y.userId = some u.id

/-- The request succeeds and admits the user it returns. -/
def Admits (env : Env) (now : Time) (h : Headers) (d : Database) (x : Invitation)
    (payload : InvitationAccept) (newUserId : UUID) : Prop :=
  ∃ u s,
    serve (Deps.handle h (Endpoints.acceptInvitation env now payload newUserId)) d = (.ok u, s) ∧
    Admitted d s.committed x u

section

variable {env : Env} {now : Time} {d : Database} {x : Invitation}
  {payload : InvitationAccept} {newUserId : UUID}

/-- The user is never created: `create` raises, if the data of the user do not. -/
theorem raises_createInvitedUser (env : Env) (d : Database) (payload : InvitationAccept)
    (x : Invitation) (newUserId : UUID) :
    ∃ status detail, Raises (Endpoints.createInvitedUser env payload x newUserId) d
      (.http status detail) := by
  cases hcreate : payload.userCreate env x.email with
  | error e =>
    obtain ⟨message, rfl⟩ := InvitationAccept.valueError_of_userCreate hcreate
    refine ⟨400, s!"Invalid user data provided: {message}", fun c => ⟨.clean c d, ?_, rfl⟩⟩
    rw [Endpoints.createInvitedUser, run_tryCatch, run_bind, run_lift, hcreate]
    rfl
  | ok userCreate =>
    have hcall : Raises (do
        let userCreate ← lift (payload.userCreate env x.email)
        UserService.createCall env userCreate none newUserId false) d .typeError :=
      (returns_lift hcreate d).bind_raises (raises_throw _ d)
    refine ⟨500, "Failed to create associated user account.", fun c => ?_⟩
    obtain ⟨s, hs, hc⟩ := hcall c
    refine ⟨.start c, ?_, rfl⟩
    rw [Endpoints.createInvitedUser, run_tryCatch_error hs]
    change (rollback >>= fun _ => throw _).run s = _
    rw [run_bind_ok (run_rollback s), run_throw, hc]

/-- An open invitation cannot be accepted, and nothing happens to it. -/
theorem fails_acceptInvitation (hp : Acceptable now d x payload) :
    Fails (Endpoints.acceptInvitation env now payload newUserId) d := by
  have hpassword : payload.validate = .ok payload :=
    InvitationAccept.validate_eq_ok.mpr ⟨hp.password, rfl⟩
  have hverify := InvitationService.verifyToken_live hp.stored hp.live
  rw [← hp.token] at hverify
  obtain ⟨status, detail, hraises⟩ := raises_createInvitedUser env d payload x newUserId
  refine (returns_lift hpassword d).bind_fails (Raises.fails (e := .http status detail) ?_)
  exact Raises.tryCatch (hverify.bind_raises (hraises.bind _)) rfl

theorem serve_acceptInvitation (env : Env) (h : Headers) (newUserId : UUID)
    (hp : Acceptable now d x payload) :
    ∃ e, serve (Deps.handle h (Endpoints.acceptInvitation env now payload newUserId)) d =
      (.error e, .start d) := by
  by_cases hm : h.xTenantId = some .malformed
  · exact (Deps.fails_handle hm).serve
  · rw [Deps.serve_handle hm]
    exact (fails_acceptInvitation hp).serve

/-- No acceptable invitation admits its user. -/
theorem not_admits (env : Env) (now : Time) (h : Headers) (d : Database) (x : Invitation)
    (payload : InvitationAccept) (newUserId : UUID) (hp : Acceptable now d x payload) :
    ¬Admits env now h d x payload newUserId := by
  rintro ⟨u, s, hs, -⟩
  obtain ⟨e, he⟩ := serve_acceptInvitation env h newUserId hp
  rw [he] at hs
  cases hs

end

/-- The open invitation of the sample, and a payload for it. -/
theorem acceptable_sample : Acceptable 0 Database.sample
    ⟨1, "bob@acme.com", "invitation-1", .pending, 100, none, 1, 1, none, none, 0⟩
    ⟨"invitation-1", "a-secure-password", some "Bob", some "Jones"⟩ where
  stored := by decide
  token := rfl
  live := ⟨rfl, by decide⟩
  unregistered := by decide
  defaultRole := ⟨⟨1, "Default User Role", none, some 1, false⟩, by decide, rfl, rfl⟩
  role roleId hr := by cases hr
  password := by decide
  names := ⟨"Bob", "Jones", rfl, rfl⟩

theorem not_admits_sample : ¬Admits Env.sample 0 Headers.anonymous Database.sample
    ⟨1, "bob@acme.com", "invitation-1", .pending, 100, none, 1, 1, none, none, 0⟩
    ⟨"invitation-1", "a-secure-password", some "Bob", some "Jones"⟩ 9 :=
  not_admits _ _ _ _ _ _ _ acceptable_sample

/-- What the accept endpoint is for fails on it. -/
theorem sample_not_admitted : ¬(Acceptable 0 Database.sample
    ⟨1, "bob@acme.com", "invitation-1", .pending, 100, none, 1, 1, none, none, 0⟩
    ⟨"invitation-1", "a-secure-password", some "Bob", some "Jones"⟩ →
    Admits Env.sample 0 Headers.anonymous Database.sample
      ⟨1, "bob@acme.com", "invitation-1", .pending, 100, none, 1, 1, none, none, 0⟩
      ⟨"invitation-1", "a-secure-password", some "Bob", some "Jones"⟩ 9) := by
  intro hall
  obtain ⟨u, s, hs, -⟩ := hall acceptable_sample
  obtain ⟨e, he⟩ := serve_acceptInvitation Env.sample Headers.anonymous 9 acceptable_sample
  rw [he] at hs
  cases hs

end VirtualStack
