import VirtualStack.Provenance
import VirtualStack.UserRows

/-!
# Invitations over the API

An invitation that is answered by a request never becomes `ACCEPTED`: the endpoint
fails before it writes that. Its status moves to `REVOKED` and to `EXPIRED`, and
nothing else of it changes.
-/

namespace VirtualStack
open UnitOfWork

/-- All but the status is the same, which was kept, has expired, or was pending and is
revoked. -/
structure Invitation.Evolves (x y : Invitation) : Prop where
  same : { y with status := x.status } = x
  status : y.status = x.status ∨ y.status = .expired ∨ x.status = .pending ∧ y.status = .revoked

namespace Invitation.Evolves

variable {x y z : Invitation}

theorem refl (x : Invitation) : x.Evolves x := ⟨rfl, .inl rfl⟩

theorem trans (h : x.Evolves y) (h' : y.Evolves z) : x.Evolves z := by
  constructor
  · rw [← h.same, ← h'.same]
  · obtain hz | hz | ⟨hy, hz⟩ := h'.status
    · rw [hz]
      exact h.status
    · exact .inr (.inl hz)
    · obtain hxy | hxy | ⟨hx, hxy⟩ := h.status
      · exact .inr (.inr ⟨hxy.symm.trans hy, hz⟩)
      · rw [hy] at hxy
        cases hxy
      · rw [hy] at hxy
        cases hxy

theorem markExpired (x : Invitation) : x.Evolves x.markExpired := ⟨rfl, .inr (.inl rfl)⟩

theorem markRevoked (h : x.status = .pending) : x.Evolves x.markRevoked :=
  ⟨rfl, .inr (.inr ⟨h, rfl⟩)⟩

/-- Nothing evolves into an accepted invitation but itself. -/
theorem eq_of_accepted (h : x.Evolves y) (hy : y.status = .accepted) : x = y := by
  obtain hs | hs | ⟨-, hs⟩ := h.status
  · rw [← h.same, ← hs]
  · rw [hy] at hs
    cases hs
  · rw [hy] at hs
    cases hs

end Invitation.Evolves

namespace ApiRequest

/-- The request makes the invitation, for a caller who may manage invitations in the
tenant of the request. -/
def Invites (env : Env) (h : Headers) (r : ApiRequest) (d : Database) (x : Invitation) : Prop :=
  ∃ now sent body newId token u t expiresAt,
    r = .personal now (.createInvitation sent newId token) ∧ sent.validate env = .ok body ∧
    Deps.permitted env now h .tenantManageInvitations d = .ok (u, t) ∧
    x = (body.request u.id).row now newId token expiresAt

section Request

variable {closing : Ending} {env : Env} {security : Security} {h : Headers} {r : ApiRequest}
  {d v v' : Database}

theorem Step.invitations (hstep : Step env h d r v v') {y : Invitation}
    (hy : y ∈ v'.invitations) : (∃ x ∈ v.invitations, x.Evolves y) ∨ r.Invites env h d y := by
  obtain ⟨e, hs, hv'⟩ := hstep
  rw [hv'] at hy
  cases hs with
  | deleteTenant => exact .inl ⟨y, (List.mem_filter.mp hy).1, .refl y⟩
  | createInvitation hcaller hbody _ _ =>
    obtain hy | hy := List.mem_append.mp hy
    · exact .inl ⟨y, hy, .refl y⟩
    · exact .inr ⟨_, _, _, _, _, _, _, _, rfl, hbody, hcaller, List.mem_singleton.mp hy⟩
  | @revokeInvitation _ _ _ _ z _ hz hid hpending =>
    obtain ⟨x, hx, rfl⟩ := Rows.mem_modify.mp hy
    refine .inl ⟨x, hx, ?_⟩
    split_ifs with hxid
    · obtain rfl := Rows.eq_of_key_eq v.valid.keys.invitationsId hx hz (hxid.trans hid.symm)
      exact .markRevoked hpending
    · exact .refl x
  | verify | accept =>
    obtain ⟨x, hx, rfl⟩ := Rows.mem_modify.mp hy
    refine .inl ⟨x, hx, ?_⟩
    split_ifs
    · exact .markExpired x
    · exact .refl x
  | _ => exact .inl ⟨y, hy, .refl y⟩

theorem outcome_invitations {y : Invitation}
    (hy : y ∈ (outcome closing env security (h, r) d).invitations) :
    (∃ x ∈ d.invitations, x.Evolves y) ∨ ∃ x, r.Invites env h d x ∧ x.Evolves y := by
  have hI : Closes env h d r fun v => ∀ y ∈ v.invitations,
      (∃ x ∈ d.invitations, x.Evolves y) ∨ ∃ x, r.Invites env h d x ∧ x.Evolves y := by
    intro v v' hv hstep z hz
    obtain ⟨y, hy, hyz⟩ | hnew := hstep.invitations hz
    · exact (hv y hy).imp (fun ⟨x, hx, hxy⟩ => ⟨x, hx, hxy.trans hyz⟩)
        fun ⟨x, hx, hxy⟩ => ⟨x, hx, hxy.trans hyz⟩
    · exact .inr ⟨z, hnew, .refl z⟩
  exact hI.outcome (fun y hy => .inl ⟨y, hy, .refl y⟩) closing security y hy

end Request

section Runs

variable {closing : Ending} {env : Env} {security : Security} {d : Database}
  {calls : List (Headers × ApiRequest)}

theorem invitation_origin {y : Invitation}
    (hy : y ∈ (Runs.after (outcome closing env security) d calls).invitations) :
    (∃ x ∈ d.invitations, x.Evolves y) ∨
    ∃ pre i post x, calls = pre ++ i :: post ∧
      i.2.Invites env i.1 (Runs.after (outcome closing env security) d pre) x ∧ x.Evolves y :=
  Runs.exists_origin (M := fun v : Database => (· ∈ v.invitations))
    (C := fun i : Headers × ApiRequest => i.2.Invites env i.1) Invitation.Evolves.refl
    (fun _ _ _ => Invitation.Evolves.trans) (fun _ _ _ => outcome_invitations) hy

/-- Over every run each invitation was there at the start or was made by a request of
somebody who was permitted to, and has since only been revoked or expired. None that was
not accepted at the start is accepted in the end. -/
theorem invitations_after (closing : Ending) (env : Env) (security : Security) (d : Database)
    (calls : List (Headers × ApiRequest)) :
    ∀ y ∈ (Runs.after (outcome closing env security) d calls).invitations,
      ((∃ x ∈ d.invitations, x.Evolves y) ∨
        ∃ pre i post x, calls = pre ++ i :: post ∧
          i.2.Invites env i.1 (Runs.after (outcome closing env security) d pre) x ∧ x.Evolves y) ∧
      (y.status = .accepted → y ∈ d.invitations) := by
  intro y hy
  refine ⟨invitation_origin hy, fun haccepted => ?_⟩
  obtain ⟨x, hx, hxy⟩ | ⟨pre, i, post, x, -, hx, hxy⟩ := invitation_origin hy
  · rw [← hxy.eq_of_accepted haccepted]
    exact hx
  · obtain ⟨now, sent, body, newId, token, u, t, e, -, -, -, rfl⟩ := hx
    rw [← hxy.eq_of_accepted haccepted] at haccepted
    cases haccepted

/-- A superuser invites Carol. -/
def inviting : List (Headers × ApiRequest) :=
  [(⟨some "token-2", none, none, some (.valid 1), []⟩,
    .personal 0 (.createInvitation ⟨"carol@acme.com", 1, none, some 7⟩ 2 "invitation-2"))]

/-- The invitation that is made. -/
def carolInvited : Invitation :=
  ⟨2, "carol@acme.com", "invitation-2", .pending, 604800000000, none, 1, 2, none, none, 0⟩

theorem invitations_after_sample :
    ((∃ x ∈ Database.sample.invitations, x.Evolves carolInvited) ∨
      ∃ pre i post x, inviting = pre ++ i :: post ∧
        i.2.Invites Env.sample i.1
          (Runs.after (outcome .commits Env.sample Security.sample) Database.sample pre) x ∧
        x.Evolves carolInvited) ∧
    (carolInvited.status = .accepted → carolInvited ∈ Database.sample.invitations) :=
  invitations_after .commits Env.sample Security.sample Database.sample inviting carolInvited
    (by decide)

/-! ## A permission that is not in the catalogue -/

theorem permissions_after :
    (Runs.after (outcome closing env security) d calls).permissions = d.permissions :=
  Runs.after_invariant (I := fun v : Database => v.permissions = d.permissions)
    (fun call v hv => (outcome_sameCatalogue closing env security call v).permissions.trans hv) rfl
    calls

/-- What is not in the table of permissions nobody ever holds. -/
theorem not_holdsPermission_after {code : String} (hcode : ∀ p ∈ d.permissions, p.code ≠ code)
    (userId tenantId : UUID) :
    ¬HoldsPermission (Runs.after (outcome closing env security) d calls).toTables userId tenantId
      code := by
  rintro ⟨-, -, -, -, -, -, -, p, hp, -, hpcode⟩
  rw [permissions_after] at hp
  exact hcode p hp hpcode

/-- A caller whom a gate admits that asks for it was a superuser from the start. -/
theorem superuser_of_permitted {p : Permission} (hcode : ∀ q ∈ d.permissions, q.code ≠ p.value)
    {now : Time} {h : Headers} {u : User} {t : Tenant}
    (hu : Deps.permitted env now h p (Runs.after (outcome closing env security) d calls) =
      .ok (u, t)) : ∃ u₀ ∈ d.users, u₀.id = u.id ∧ u₀.isSuperuser := by
  obtain ⟨hcaller, -, hsuper | hholds⟩ := Deps.permitted_eq_ok.mp hu
  · have hmem := Deps.mem_of_currentUser (Deps.currentUser_of_active hcaller).1
    have hprofile : (u.id, u.fullName, u.isSuperuser) ∈ d.profiles := by
      rw [← profiles_after closing env security d calls]
      exact List.mem_map.mpr ⟨u, hmem, rfl⟩
    obtain ⟨u₀, hu₀, heq⟩ := List.mem_map.mp hprofile
    simp only [Prod.mk.injEq] at heq
    exact ⟨u₀, hu₀, heq.1, heq.2.2.trans hsuper⟩
  · exact absurd hholds (not_holdsPermission_after hcode _ _)

/-- As long as the catalogue does not list `tenant:manage_invitations`, only the
superusers of the start invite anybody. -/
theorem invited_by_superuser
    (hcode : ∀ p ∈ d.permissions, p.code ≠ Permission.tenantManageInvitations.value) :
    ∀ y ∈ (Runs.after (outcome closing env security) d calls).invitations,
      (∃ x ∈ d.invitations, x.Evolves y) ∨
        ∃ u ∈ d.users, u.id = y.inviterId ∧ u.isSuperuser := by
  intro y hy
  refine (invitation_origin hy).imp_right ?_
  rintro ⟨pre, i, post, x, -, ⟨now, sent, body, newId, token, u, t, e, -, -, hu, rfl⟩, hxy⟩
  have hinviter : y.inviterId = u.id := congrArg Invitation.inviterId hxy.same
  rw [hinviter]
  exact superuser_of_permitted hcode hu

/-! The example with the permissions that the migrations seed, where the superuser
invites. -/

/-- `SYSTEM_PERMISSIONS` of `20240330_seed_permissions.py`, numbered. -/
def systemPermissions : List PermissionModel :=
  [⟨1, "View Tenants", "tenant:read", some "Ability to view tenant information"⟩,
    ⟨2, "Create Tenant", "tenant:create", some "Ability to create new tenants"⟩,
    ⟨3, "Update Tenant", "tenant:update", some "Ability to update tenant information"⟩,
    ⟨4, "Delete Tenant", "tenant:delete", some "Ability to delete tenants"⟩,
    ⟨5, "View Users", "user:read", some "Ability to view user information"⟩,
    ⟨6, "Create User", "user:create", some "Ability to create new users"⟩,
    ⟨7, "Update User", "user:update", some "Ability to update user information"⟩,
    ⟨8, "Delete User", "user:delete", some "Ability to delete users"⟩,
    ⟨9, "View Roles", "role:read", some "Ability to view role information"⟩,
    ⟨10, "Create Role", "role:create", some "Ability to create new roles"⟩,
    ⟨11, "Update Role", "role:update", some "Ability to update role information"⟩,
    ⟨12, "Delete Role", "role:delete", some "Ability to delete roles"⟩,
    ⟨13, "View Permissions", "permission:read", some "Ability to view permission information"⟩,
    ⟨14, "Assign Permissions", "permission:assign", some "Ability to assign permissions to roles"⟩,
    ⟨15, "View VMs", "vm:read", some "Ability to view virtual machines"⟩,
    ⟨16, "Create VM", "vm:create", some "Ability to create new virtual machines"⟩,
    ⟨17, "Update VM", "vm:update", some "Ability to update virtual machines"⟩,
    ⟨18, "Delete VM", "vm:delete", some "Ability to delete virtual machines"⟩,
    ⟨19, "Power VM", "vm:power", some "Ability to power on/off virtual machines"⟩,
    ⟨20, "View Templates", "template:read", some "Ability to view templates"⟩,
    ⟨21, "Create Template", "template:create", some "Ability to create new templates"⟩,
    ⟨22, "Update Template", "template:update", some "Ability to update templates"⟩,
    ⟨23, "Delete Template", "template:delete", some "Ability to delete templates"⟩]

def seededCatalogue : Database where
  toTables := { Database.sample.toTables with permissions := systemPermissions }
  valid := by decide

theorem invited_by_superuser_sample :
    (∃ x ∈ seededCatalogue.invitations, x.Evolves carolInvited) ∨
      ∃ u ∈ seededCatalogue.users, u.id = carolInvited.inviterId ∧ u.isSuperuser := by
  have hmade : carolInvited ∈ (Runs.after (outcome .commits Env.sample Security.sample)
      seededCatalogue inviting).invitations := by decide
  exact invited_by_superuser (by decide) carolInvited hmade

end Runs
end ApiRequest
end VirtualStack
