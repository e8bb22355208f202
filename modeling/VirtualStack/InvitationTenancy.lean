import VirtualStack.Endpoints.Invitations

/-!
# Which tenant an invitation request is about

The four management endpoints take the tenant of their permission check from
the header, from the query string and, twice, from the stored row. Only the
first does not use the tenant it checked.
-/

namespace VirtualStack
open UnitOfWork

inductive ManagementCall where
  | create (body : InvitationCreate) (newId : UUID) (newToken : String)
  | list (tenantId : UUID) (status : Option InvitationStatus) (skip limit : ℕ)
  | read (invitationId : UUID)
  | revoke (invitationId : UUID)
  deriving DecidableEq, Repr

namespace ManagementCall

variable (env : Env) (now : Time) (h : Headers)

/-- The invitations that a success response shows. -/
def endpoint : ManagementCall → Db (List Invitation)
  | create body newId newToken => do
    let (x, _) ← Endpoints.createInvitation env now h body newId newToken
    pure [x]
  | list tenantId status skip limit =>
    Endpoints.listInvitations env now h tenantId status skip limit
  | read invitationId => do
    let details ← Endpoints.readInvitation env now h invitationId
    pure [details.invitation]
  | revoke invitationId => do
    let x ← Endpoints.revokeInvitation env now h invitationId
    pure [x]

/-- The caller is a superuser or may manage the invitations of the tenant. -/
def ManagesInvitations (d : Database) (tenantId : UUID) : Prop :=
  ∃ u, Deps.currentUser env now h d = .ok u ∧ (u.isSuperuser ∨
    HoldsPermission d.toTables u.id tenantId Permission.tenantManageInvitations.value)

/-- Success needs authority in the tenant that is stored on each row shown. -/
def InTenant (d : Database) (call : ManagementCall) : Prop :=
  ∀ rows s, serve (Deps.handle h (call.endpoint env now h)) d = (.ok rows, s) →
    ∀ x ∈ rows, ManagesInvitations env now h d x.tenantId

/-- The caller may manage the invitations of the tenant in the header, not those
of the tenant in the body, the address is one that `EmailStr` takes, and the
invitation can be created. -/
def CrossesTenants (d : Database) : ManagementCall → Prop
  | create sent newId newToken => ∃ u t body,
    Deps.permitted env now h .tenantManageInvitations d = .ok (u, t) ∧ ¬u.isSuperuser ∧
      ¬HoldsPermission d.toTables u.id sent.tenantId Permission.tenantManageInvitations.value ∧
      sent.validate env = .ok body ∧
      InvitationService.Creatable (Deps.identifiedView env now h d) (body.request u.id) now newId
        newToken
  | _ => False

variable {env now h} {d : Database}

theorem inTenant_of_fails {call : ManagementCall} (hf : Fails (call.endpoint env now h) d) :
    call.InTenant env now h d := by
  intro rows s hs
  by_cases hm : h.xTenantId = some .malformed
  · obtain ⟨e, he⟩ := (Deps.fails_handle (x := call.endpoint env now h) (d := d) hm).serve
    rw [he] at hs
    cases hs
  · obtain ⟨e, he⟩ := hf.serve
    rw [Deps.serve_handle hm, he] at hs
    cases hs

/-- When the outcome is known, its rows decide. -/
theorem inTenant_iff_of_run {call : ManagementCall} {rows : List Invitation}
    {s : Session Database Exc} (hr : (call.endpoint env now h).run (.start d) = (.ok rows, s))
    (hmal : h.xTenantId ≠ some .malformed) :
    call.InTenant env now h d ↔ ∀ x ∈ rows, ManagesInvitations env now h d x.tenantId := by
  have hs : serve (Deps.handle h (call.endpoint env now h)) d = (.ok rows, s) := by
    rw [Deps.serve_handle hmal, serve, hr]
  constructor
  · intro hin
    exact hin rows s hs
  · intro hm rows' s' hs'
    rw [hs] at hs'
    cases hs'
    exact hm

theorem inTenant_of_run {call : ManagementCall} {rows : List Invitation}
    {s : Session Database Exc} (hr : (call.endpoint env now h).run (.start d) = (.ok rows, s))
    (hm : ∀ x ∈ rows, ManagesInvitations env now h d x.tenantId) : call.InTenant env now h d := by
  by_cases hmal : h.xTenantId = some .malformed
  · intro rows' s' hs
    obtain ⟨e, he⟩ := (Deps.fails_handle (x := call.endpoint env now h) (d := d) hmal).serve
    rw [he] at hs
    cases hs
  · exact (inTenant_iff_of_run hr hmal).mpr hm

theorem managesInvitations_of_user {u : User} {tenantId : UUID}
    (hu : Deps.currentUser env now h d = .ok u)
    (hp : u.isSuperuser ∨ HoldsPermission (Deps.identifiedView env now h d).toTables u.id tenantId
      Permission.tenantManageInvitations.value) : ManagesInvitations env now h d tenantId :=
  ⟨u, hu, hp.imp_right (Deps.holdsPermission_identifiedView env now h d _ _ _).mp⟩

theorem inTenant_list (tenantId : UUID) (status : Option InvitationStatus) (skip limit : ℕ) :
    (list tenantId status skip limit).InTenant env now h d := by
  have hy := Deps.yields_getCurrentActiveUser env now h d
  cases hu : Deps.currentActiveUser env now h d with
  | error e => exact inTenant_of_fails ((hy.raises hu).bind _).fails
  | ok u =>
    obtain hf | ⟨rows, hr, hrows⟩ := Endpoints.listInvitations_cases hu tenantId status skip limit
    · exact inTenant_of_fails hf
    · refine inTenant_of_run (hr d) fun x hx => ?_
      obtain ⟨rfl, hp⟩ := hrows x hx
      exact managesInvitations_of_user (Deps.currentUser_of_active hu).1 hp

theorem inTenant_read (invitationId : UUID) : (read invitationId).InTenant env now h d := by
  have hy := Deps.yields_getCurrentUser env now h d
  cases hu : Deps.currentUser env now h d with
  | error e => exact inTenant_of_fails (((hy.raises hu).bind _).bind _).fails
  | ok u =>
    obtain hf | ⟨details, hr, hp⟩ := Endpoints.readInvitation_cases hu invitationId
    · exact inTenant_of_fails (hf.bind _)
    · refine inTenant_of_run (run_bind_ok (hr d) _) fun x hx => ?_
      obtain rfl := List.mem_singleton.mp hx
      exact managesInvitations_of_user hu hp

theorem inTenant_revoke (invitationId : UUID) : (revoke invitationId).InTenant env now h d := by
  have hy := Deps.yields_getCurrentUser env now h d
  cases hu : Deps.currentUser env now h d with
  | error e => exact inTenant_of_fails (((hy.raises hu).bind _).bind _).fails
  | ok u =>
    obtain hf | ⟨x, s, hr, hp⟩ := Endpoints.revokeInvitation_cases hu invitationId
    · exact inTenant_of_fails (hf.bind _)
    · refine inTenant_of_run (run_bind_ok hr _) fun y hy => ?_
      obtain rfl := List.mem_singleton.mp hy
      exact managesInvitations_of_user hu hp

/-- Creating asks for the permission in the tenant of the header and stores the
tenant of the body. -/
theorem inTenant_create (sent : InvitationCreate) (newId : UUID) (newToken : String) :
    (create sent newId newToken).InTenant env now h d ↔
      ¬(create sent newId newToken).CrossesTenants env now h d := by
  have hy := Deps.yields_requirePermissionInActiveTenant env now h d .tenantManageInvitations
  cases hu : Deps.permitted env now h .tenantManageInvitations d with
  | error e =>
    have hf : Fails ((create sent newId newToken).endpoint env now h) d :=
      (((hy.raises hu).bind _).bind _).fails
    simp [CrossesTenants, hu, inTenant_of_fails hf]
  | ok p =>
    obtain ⟨u, t⟩ := p
    obtain ⟨hact, hactive, -⟩ := Deps.permitted_eq_ok.mp hu
    have hcur := (Deps.currentUser_of_active hact).1
    have hmal : h.xTenantId ≠ some .malformed := by
      rw [(Deps.xTenantId_of_activeTenant hactive).1]
      simp
    by_cases hc : ∃ body, sent.validate env = .ok body ∧
        InvitationService.Creatable (Deps.identifiedView env now h d) (body.request u.id) now newId
          newToken
    · obtain ⟨body, hw, hc⟩ := hc
      obtain ⟨x, token, s, hr, htenant⟩ := Endpoints.createInvitation_creatable hu hw hc
      have hten : body.tenantId = sent.tenantId := by
        obtain ⟨address, -, rfl⟩ := InvitationCreate.validate_eq_ok.mp hw
        rfl
      rw [hten] at htenant
      rw [inTenant_iff_of_run (run_bind_ok hr _) hmal]
      constructor
      · intro hm
        rintro ⟨u', t', body', hu', hs, hn, -⟩
        rw [hu] at hu'
        cases hu'
        obtain ⟨v, hv, hp⟩ := hm x (List.mem_singleton.mpr rfl)
        rw [hcur] at hv
        cases hv
        rw [htenant] at hp
        exact hp.elim hs hn
      · intro hcross y hy
        obtain rfl := List.mem_singleton.mp hy
        refine ⟨u, hcur, ?_⟩
        rw [htenant]
        by_contra hno
        obtain ⟨hs, hn⟩ := not_or.mp hno
        exact hcross ⟨u, t, body, hu, hs, hn, hw, hc⟩
    · have hf : Fails ((create sent newId newToken).endpoint env now h) d :=
        (Endpoints.fails_createInvitation hu fun body hw hb => hc ⟨body, hw, hb⟩).bind _
      refine iff_of_true (inTenant_of_fails hf) ?_
      rintro ⟨u', t', body, hu', -, -, hw, hb⟩
      rw [hu] at hu'
      cases hu'
      exact hc ⟨body, hw, hb⟩

/-- Success means authority in the tenant of the row, except when an invitation
is created for a tenant other than the one that was checked. -/
theorem inTenant_iff (call : ManagementCall) :
    call.InTenant env now h d ↔ ¬call.CrossesTenants env now h d := by
  cases call with
  | create sent newId newToken => exact inTenant_create sent newId newToken
  | list tenantId status skip limit =>
    exact iff_of_true (inTenant_list tenantId status skip limit) not_false
  | read invitationId => exact iff_of_true (inTenant_read invitationId) not_false
  | revoke invitationId => exact iff_of_true (inTenant_revoke invitationId) not_false

/-- A manager of the first tenant invites somebody to the second. -/
theorem create_not_inTenant :
    ¬(create ⟨"carol@beta.com", 2, none, some 7⟩ 9 "invitation-9").InTenant Env.sample 0
      { Headers.anonymous with token := some "token-1", xTenantId := some (.valid 1) }
      Database.sample := by
  rw [inTenant_create, not_not]
  refine ⟨⟨1, "alice@acme.com", "$2b$12$a", some "Alice", true, false⟩,
    ⟨1, "Acme", "acme", none, true⟩, ⟨"carol@beta.com", 2, none, some 7⟩, rfl, by decide,
    by decide, by decide, .inr ⟨604800000000, rfl, ?_⟩⟩
  decide

end ManagementCall
end VirtualStack
