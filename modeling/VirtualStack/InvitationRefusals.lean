import VirtualStack.Endpoints.Invitations

/-!
# How refused access to an invitation is reported

Reading and revoking check the permission inside the `try` block whose last handler
catches every `Exception`; listing checks it before its `try` block.
-/

namespace VirtualStack
open UnitOfWork

namespace Endpoints

section Requests

variable {env : Env} {now : Time} {h : Headers} {d : Database} {u : User} {id : UUID}

/-- The check of a caller who may not manage raises the `403` it is written to. -/
theorem raises_requireManagement {tenantId : UUID} (hn : ¬MayManage d u tenantId)
    (detail : String) : Raises (requireManagement u tenantId detail) d (.http 403 detail) := by
  obtain ⟨hs, hp⟩ := not_or.mp hn
  rw [requireManagement, if_neg hs]
  refine (returns_checkUserPermissionForTenant u.id tenantId _).bind_raises ?_
  rw [if_neg (by simpa using hp)]
  exact raises_throw _ d

/-- Listing answers the same caller with a `403`. -/
theorem raises_listInvitations (hu : Deps.currentActiveUser env now h d = .ok u) {tenantId : UUID}
    (hn : ¬MayManage d u tenantId) (status : Option InvitationStatus) (skip limit : ℕ) :
    Raises (listInvitations env now h tenantId status skip limit) d
      (.http 403 s!"Not enough permissions to manage invitations for tenant {tenantId}") := by
  obtain ⟨hs, hp⟩ := not_or.mp (mt mayManage_identifiedView.mp hn)
  refine ((Deps.yields_getCurrentActiveUser env now h d).returns hu).bind_raises ?_
  refine (returns_checkUserPermissionForTenant u.id tenantId _).bind_raises ?_
  rw [decide_eq_false hp, if_pos ⟨Bool.false_ne_true, hs⟩]
  exact raises_throw _ _

section Stored

variable {x : Invitation}

/-- In reading, the `403` reaches the handler of every `Exception`. -/
theorem raises_readInvitation (hu : Deps.currentUser env now h d = .ok u)
    (hx : x ∈ d.invitations) (hn : ¬MayManage d u x.tenantId) :
    Raises (readInvitation env now h x.id) d
      (.http 500 "An unexpected error occurred while reading the invitation.") := by
  have hinv : (Deps.identifiedView env now h d).invitations = d.invitations :=
    (Deps.identifiedView_checks env now h d).2.2.2.2.2.2
  have hn' : ¬MayManage (Deps.identifiedView env now h d) u x.tenantId :=
    mt mayManage_identifiedView.mp hn
  refine ((Deps.yields_getCurrentUser env now h d).returns hu).bind_raises ?_
  obtain ⟨hf, -⟩ | ⟨y, details, hf, hdet, hget⟩ :=
    InvitationService.returns_getInvitationWithDetails now x.id (Deps.identifiedView env now h d)
  · rw [InvitationService.find?_id (hinv ▸ hx)] at hf
    cases hf
  · rw [InvitationService.find?_id (hinv ▸ hx)] at hf
    cases hf
    rw [← hdet] at hn'
    have hcheck := raises_requireManagement hn'
      "Not enough permissions to view this invitation"
    exact (hget.bind_raises (hcheck.bind _)).tryCatch rfl

/-- So it does in revoking. -/
theorem raises_revokeInvitation (hu : Deps.currentUser env now h d = .ok u)
    (hx : x ∈ d.invitations) (hn : ¬MayManage d u x.tenantId) :
    Raises (revokeInvitation env now h x.id) d
      (.http 500 "An unexpected error occurred while revoking the invitation.") := by
  have hinv : (Deps.identifiedView env now h d).invitations = d.invitations :=
    (Deps.identifiedView_checks env now h d).2.2.2.2.2.2
  have hn' : ¬MayManage (Deps.identifiedView env now h d) u x.tenantId :=
    mt mayManage_identifiedView.mp hn
  have hget := InvitationService.returns_get x.id (Deps.identifiedView env now h d)
  rw [InvitationService.find?_id (hinv ▸ hx)] at hget
  refine ((Deps.yields_getCurrentUser env now h d).returns hu).bind_raises ?_
  have hcheck := raises_requireManagement hn'
    "Not enough permissions to revoke this invitation"
  exact (hget.bind_raises (hcheck.bind _)).tryCatch rfl

end Stored

theorem find?_identifiedView (hn : ∀ x ∈ d.invitations, x.id ≠ id) :
    (Deps.identifiedView env now h d).invitations.find? (·.id = id) = none := by
  rw [(Deps.identifiedView_checks env now h d).2.2.2.2.2.2]
  exact List.find?_eq_none.mpr fun x hx => by simpa using hn x hx

theorem raises_readInvitation_unknown (hu : Deps.currentUser env now h d = .ok u)
    (hn : ∀ x ∈ d.invitations, x.id ≠ id) :
    Raises (readInvitation env now h id) d (.http 404 "Invitation not found") := by
  refine ((Deps.yields_getCurrentUser env now h d).returns hu).bind_raises ?_
  obtain ⟨-, hget⟩ | ⟨y, details, hf, -⟩ :=
    InvitationService.returns_getInvitationWithDetails now id (Deps.identifiedView env now h d)
  · exact (hget.bind_raises (raises_throw _ _)).tryCatch rfl
  · cases (find?_identifiedView hn).symm.trans hf

theorem raises_revokeInvitation_unknown (hu : Deps.currentUser env now h d = .ok u)
    (hn : ∀ x ∈ d.invitations, x.id ≠ id) :
    Raises (revokeInvitation env now h id) d (.http 404 "Invitation not found") := by
  have hget := InvitationService.returns_get id (Deps.identifiedView env now h d)
  rw [find?_identifiedView hn] at hget
  refine ((Deps.yields_getCurrentUser env now h d).returns hu).bind_raises ?_
  exact (hget.bind_raises (raises_throw _ _)).tryCatch rfl

/-! ## Reported as refused -/

/-- The request is answered with a status and the store is as before. -/
def Answers {α : Type} (x : Db α) (d : Database) (status : ℕ) : Prop :=
  ∃ detail, serve x d = (.error (.http status detail), .start d)

theorem answers_of_raises {α : Type} {x : Db α} {status : ℕ} {detail : String}
    (hx : Raises x d (.http status detail)) : Answers x d status := ⟨detail, hx.serve⟩

theorem Answers.unique {α : Type} {x : Db α} {status status' : ℕ} (hx : Answers x d status)
    (hx' : Answers x d status') : status = status' := by
  obtain ⟨detail, h⟩ := hx
  obtain ⟨detail', h'⟩ := hx'
  cases h.symm.trans h'
  rfl

/-- A caller who may not manage an invitation gets a `403` from both endpoints, and for
an id without an invitation both answer `404`. -/
structure ReportsRefusal (env : Env) (now : Time) (h : Headers) (d : Database) (u : User)
    (id : UUID) : Prop where
  refused : ∀ x ∈ d.invitations, x.id = id → ¬MayManage d u x.tenantId →
    Answers (readInvitation env now h id) d 403 ∧ Answers (revokeInvitation env now h id) d 403
  unknown : (∀ x ∈ d.invitations, x.id ≠ id) →
    Answers (readInvitation env now h id) d 404 ∧ Answers (revokeInvitation env now h id) d 404

theorem answers_refused {x : Invitation} (hu : Deps.currentUser env now h d = .ok u)
    (hx : x ∈ d.invitations) (hn : ¬MayManage d u x.tenantId) :
    Answers (readInvitation env now h x.id) d 500 ∧
      Answers (revokeInvitation env now h x.id) d 500 :=
  ⟨answers_of_raises (raises_readInvitation hu hx hn),
    answers_of_raises (raises_revokeInvitation hu hx hn)⟩

theorem not_reportsRefusal {x : Invitation} (hu : Deps.currentUser env now h d = .ok u)
    (hx : x ∈ d.invitations) (hn : ¬MayManage d u x.tenantId) :
    ¬ReportsRefusal env now h d u x.id := by
  intro hr
  have hread := (hr.refused x hx rfl hn).1.unique (answers_refused hu hx hn).1
  cases hread

/-- Refusals are reported exactly where there is none to report. -/
theorem reports_refusal_iff (hu : Deps.currentUser env now h d = .ok u) (id : UUID) :
    ReportsRefusal env now h d u id ↔
      ∀ x ∈ d.invitations, x.id = id → MayManage d u x.tenantId := by
  constructor
  · rintro hr x hx rfl
    by_contra hn
    exact not_reportsRefusal hu hx hn hr
  · intro hm
    refine ⟨fun x hx hid hn => absurd (hm x hx hid) hn, fun hn => ?_⟩
    exact ⟨answers_of_raises (raises_readInvitation_unknown hu hn),
      answers_of_raises (raises_revokeInvitation_unknown hu hn)⟩

end Requests

/-- The example without the permission that Alice's role carries. -/
def ungranted : Database := { Database.sample with rolePermissions := [], valid := by decide }

def alice : User := ⟨1, "alice@acme.com", "$2b$12$a", some "Alice", true, false⟩

def aliceHeaders : Headers := ⟨some "token-1", none, none, none, []⟩

theorem reports_refusal_iff_sample :
    ReportsRefusal Env.sample 0 aliceHeaders Database.sample alice 1 ↔
      ∀ x ∈ Database.sample.invitations, x.id = 1 →
        MayManage Database.sample alice x.tenantId :=
  reports_refusal_iff (by decide) 1

/-- Alice may not manage the invitation, and both endpoints answer `500`. -/
theorem refused_alice_gets_500 :
    Deps.currentUser Env.sample 0 aliceHeaders ungranted = .ok alice ∧
    ¬MayManage ungranted alice 1 ∧
    Answers (readInvitation Env.sample 0 aliceHeaders 1) ungranted 500 ∧
    Answers (revokeInvitation Env.sample 0 aliceHeaders 1) ungranted 500 ∧
    ¬ReportsRefusal Env.sample 0 aliceHeaders ungranted alice 1 := by
  have hu : Deps.currentUser Env.sample 0 aliceHeaders ungranted = .ok alice := by decide
  have hx : (⟨1, "bob@acme.com", "invitation-1", .pending, 100, none, 1, 1, none, none, 0⟩ :
      Invitation) ∈ ungranted.invitations := by decide
  have hn : ¬MayManage ungranted alice 1 := by decide
  obtain ⟨hread, hrevoke⟩ := answers_refused hu hx hn
  exact ⟨hu, hn, hread, hrevoke, not_reportsRefusal hu hx hn⟩

end Endpoints
end VirtualStack
