import VirtualStack.Endpoints.Roles
import VirtualStack.Endpoints.Tenants

/-!
# Who may administer a tenant

The roadmap documents one permission for each operation on tenants and on the
roles of a tenant. The tenant endpoints and the assignment of users to a role
declare no check at all, and the check of the other role endpoints is the
`require_permission` without a body.
-/

namespace VirtualStack
open UnitOfWork

/-- The requests that change a tenant or its roles. -/
inductive AdminRequest where
  | createTenant (body : TenantCreate) (newId : UUID)
  | updateTenant (tenantId : UUID) (body : TenantUpdate)
  | deleteTenant (tenantId : UUID)
  | createRole (tenantId : UUID) (body : RoleCreate) (newId : UUID)
  | updateRole (tenantId roleId : UUID) (body : RoleUpdate)
  | deleteRole (tenantId roleId : UUID)
  | setRoleUsers (tenantId roleId : UUID) (userIds : List UUID)
  deriving DecidableEq, Repr

namespace AdminRequest

/-- The documented permission. -/
def permission : AdminRequest → Permission
  | createTenant .. => .tenantCreate
  | updateTenant .. => .tenantUpdate
  | deleteTenant .. => .tenantDelete
  | createRole .. => .roleCreate
  | updateRole .. => .roleUpdate
  | deleteRole .. => .roleDelete
  | setRoleUsers .. => .roleAssignUsers

/-- The tenant in which it must be held. A tenant that is yet to be created
restricts nothing. -/
def AppliesTo (tenantId : UUID) : AdminRequest → Prop
  | createTenant .. => True
  | updateTenant id _ => tenantId = id
  | deleteTenant id => tenantId = id
  | createRole id _ _ => tenantId = id
  | updateRole id _ _ => tenantId = id
  | deleteRole id _ => tenantId = id
  | setRoleUsers id _ _ => tenantId = id

def endpoint (env : Env) (h : Headers) : AdminRequest → Db Unit
  | createTenant body newId => do
    let _ ← Endpoints.createTenant body newId
    pure ()
  | updateTenant tenantId body => do
    let _ ← Endpoints.updateTenant tenantId body
    pure ()
  | deleteTenant tenantId => Endpoints.deleteTenant tenantId
  | createRole tenantId body newId => do
    let _ ← Endpoints.createCustomRoleInTenant env h tenantId body newId
    pure ()
  | updateRole tenantId roleId body => do
    let _ ← Endpoints.updateCustomRoleInTenant env h tenantId roleId body
    pure ()
  | deleteRole tenantId roleId => Endpoints.deleteCustomRoleFromTenant env h tenantId roleId
  | setRoleUsers tenantId roleId userIds => do
    let _ ← Endpoints.setAssignedUsersForRole tenantId roleId userIds
    pure ()

variable (env : Env) (now : Time) (h : Headers)

/-- The caller is an active user who is a superuser or holds the documented
permission in the tenant. -/
def Authorised (d : Database) (r : AdminRequest) : Prop :=
  ∃ u, Deps.currentActiveUser env now h d = .ok u ∧ (u.isSuperuser ∨
    ∃ tenantId, r.AppliesTo tenantId ∧ HoldsPermission d.toTables u.id tenantId r.permission.value)

/-- A caller without authority gets an error and leaves no trace. -/
def Protected (d : Database) (r : AdminRequest) : Prop :=
  ¬r.Authorised env now h d →
    ∃ e, serve (Deps.handle h (r.endpoint env h)) d = (.error e, .start d)

/-- What the request meets on its way without any check of its caller: the rows
it needs are there and the database accepts its statements. -/
def Feasible (d : Database) : AdminRequest → Prop
  | createTenant body newId => body.Accepted newId d
  | updateTenant tenantId body => body.Accepted tenantId d
  | deleteTenant tenantId => ∃ x ∈ d.tenants, x.id = tenantId
  | createRole tenantId body newId =>
    Endpoints.Admits env h d tenantId ∧ Endpoints.CanCreateRole d tenantId body newId
  | updateRole tenantId roleId body => Endpoints.Admits env h d tenantId ∧
    ∃ r d', Endpoints.CanUpdateRole d tenantId roleId body r d' ∧
      (env.rolePermissionsMapped ∨ d' ≠ d)
  | deleteRole tenantId roleId => Endpoints.Admits env h d tenantId ∧
    ∃ r, RoleService.Deletable d roleId tenantId r
  | setRoleUsers tenantId roleId userIds => (∃ x ∈ d.tenants, x.id = tenantId) ∧
    (∃ r ∈ d.roles, r.id = roleId ∧ RoleService.Accessible r tenantId) ∧
      ∀ u ∈ userIds, u ∈ d.users.map (·.id)

/-! ## Feasible requests go through, whoever sends them -/

/-- The request ends in an error and the session is as it was opened. -/
def NoTrace (d : Database) (r : AdminRequest) : Prop :=
  ∃ e, serve (r.endpoint env h) d = (.error e, .start d)

variable {env now h} {d : Database}

theorem serve_endpoint_ok {α : Type} {x : Db α} {a : α} {s : Session Database Exc}
    (hs : serve x d = (.ok a, s)) : serve (do
      let _ ← x
      pure () : Db Unit) d = (.ok (), s) := by
  rw [serve] at hs
  rcases hr : x.run (.start d) with ⟨_ | _, s'⟩
  · rw [hr] at hs
    cases hs
  · rw [hr] at hs
    cases hs
    rw [serve, run_bind_ok hr, run_pure]

theorem serve_endpoint_error {α : Type} {x : Db α} {e : Exc} {s : Session Database Exc}
    (hs : serve x d = (.error e, s)) : serve (do
      let _ ← x
      pure () : Db Unit) d = (.error e, s) := by
  rw [serve] at hs
  rcases hr : x.run (.start d) with ⟨_ | _, s'⟩
  · rw [hr] at hs
    cases hs
    rw [serve, run_bind_error hr]
  · rw [hr] at hs
    cases hs

theorem not_noTrace_of_ok {r : AdminRequest} {s : Session Database Exc}
    (hs : serve (r.endpoint env h) d = (.ok (), s)) : ¬r.NoTrace env h d := by
  rintro ⟨e, he⟩
  rw [hs] at he
  cases he

theorem noTrace_createRole (tenantId : UUID) (body : RoleCreate) (newId : UUID) :
    (createRole tenantId body newId).NoTrace env h d ↔
      ¬(createRole tenantId body newId).Feasible env h d := by
  by_cases ha : Endpoints.Admits env h d tenantId
  · obtain ⟨⟨t, ht, rfl⟩, hg⟩ := ha
    by_cases hc : Endpoints.CanCreateRole d t.id body newId
    · refine iff_of_false ?_ (not_not.mpr ⟨⟨⟨t, ht, rfl⟩, hg⟩, hc⟩)
      rintro ⟨e, he⟩
      -- the new role is committed, and it was not stored before
      obtain ⟨r, hr, hid⟩ := Endpoints.committed_createCustomRole ht hg hc
      have hcommitted : (serve (Endpoints.createCustomRoleInTenant env h t.id body newId) d).2 =
          .start d := by
        rcases hs : serve (Endpoints.createCustomRoleInTenant env h t.id body newId) d with
          ⟨_ | a, s⟩
        · have := serve_endpoint_error hs
          exact (Prod.mk.inj (this.symm.trans he)).2
        · have := serve_endpoint_ok hs
          exact absurd (this.symm.trans he) (by simp)
      rw [hcommitted] at hr
      have hnodup := hc.2.keys.rolesId
      simp only [Tables.addRole, List.map_append, List.nodup_append] at hnodup
      exact hnodup.2.2 _ (List.mem_map.mpr ⟨r, hr, rfl⟩) _ (by simp [RoleCreate.row]) hid
    · refine iff_of_true ?_ fun hf => hc hf.2
      have hfail : Fails (Endpoints.createCustomRoleInTenant env h t.id body newId) d :=
        (Deps.returns_getTenantFromPath ht).bind_fails ((returns_lift hg d).bind_fails
          (((Endpoints.fails_createCustomRole hc).bind _).tryCatch (Endpoints.reraise_throws _)))
      exact (hfail.bind _).serve
  · refine iff_of_true ?_ fun hf => ha hf.1
    have hfail : Fails (Endpoints.createCustomRoleInTenant env h tenantId body newId) d :=
      Endpoints.fails_unless_admits ha
    exact (hfail.bind _).serve

theorem noTrace_updateRole (tenantId roleId : UUID) (body : RoleUpdate) :
    (updateRole tenantId roleId body).NoTrace env h d ↔
      ¬(updateRole tenantId roleId body).Feasible env h d := by
  by_cases ha : Endpoints.Admits env h d tenantId
  · obtain ⟨⟨t, ht, rfl⟩, hg⟩ := ha
    by_cases hc : ∃ r d', Endpoints.CanUpdateRole d t.id roleId body r d'
    · obtain ⟨r, d', hc⟩ := hc
      obtain ⟨result, hs, hres⟩ := Endpoints.serve_updateCustomRole ht hg hc
      have hunique : ∀ r₁ d₁, Endpoints.CanUpdateRole d t.id roleId body r₁ d₁ → d₁ = d' := by
        rintro r₁ d₁ ⟨hm₁, hid₁, -, -, hd₁⟩
        obtain rfl := Rows.eq_of_key_eq d.valid.keys.rolesId hc.1 hm₁ (hc.2.1.trans hid₁.symm)
        exact Except.ok.inj (hd₁.symm.trans hc.2.2.2.2)
      split_ifs at hres with hmap
      · obtain ⟨a, rfl⟩ := hres
        refine iff_of_false (not_noTrace_of_ok (serve_endpoint_ok hs)) (not_not.mpr ?_)
        exact ⟨⟨⟨t, ht, rfl⟩, hg⟩, r, d', hc, .inl hmap⟩
      · obtain ⟨e, rfl⟩ := hres
        have hs' := serve_endpoint_error hs
        constructor
        · rintro ⟨e', he'⟩ ⟨-, r₁, d₁, hc₁, hne⟩
          have hd : d' = d := congrArg Session.committed (Prod.mk.inj (hs'.symm.trans he')).2
          exact hne.elim (fun hm => hmap hm) fun hn => hn ((hunique r₁ d₁ hc₁).trans hd)
        · intro hn
          have hd : d' = d := by
            by_contra hne
            exact hn ⟨⟨⟨t, ht, rfl⟩, hg⟩, r, d', hc, .inr hne⟩
          exact ⟨e, by rw [hd] at hs'; exact hs'⟩
    · refine iff_of_true ?_ fun ⟨_, r, d', hc', _⟩ => hc ⟨r, d', hc'⟩
      have hfail := Endpoints.fails_updateCustomRoleInTenant ht hg fun r d' hc' => hc ⟨r, d', hc'⟩
      exact (hfail.bind _).serve
  · refine iff_of_true ?_ fun hf => ha hf.1
    have hfail : Fails (Endpoints.updateCustomRoleInTenant env h tenantId roleId body) d :=
      Endpoints.fails_unless_admits ha
    exact (hfail.bind _).serve

theorem noTrace_deleteRole (tenantId roleId : UUID) :
    (deleteRole tenantId roleId).NoTrace env h d ↔
      ¬(deleteRole tenantId roleId).Feasible env h d := by
  by_cases ha : Endpoints.Admits env h d tenantId
  · obtain ⟨⟨t, ht, rfl⟩, hg⟩ := ha
    by_cases hc : ∃ r, RoleService.Deletable d roleId t.id r
    · obtain ⟨r, hr⟩ := hc
      obtain ⟨s, hs⟩ := Endpoints.serve_deleteCustomRole ht hg hr
      exact iff_of_false (not_noTrace_of_ok hs) (not_not.mpr ⟨⟨⟨t, ht, rfl⟩, hg⟩, r, hr⟩)
    · exact iff_of_true
        (Endpoints.fails_deleteCustomRole ht hg fun r hr => hc ⟨r, hr⟩).serve fun hf => hc hf.2
  · refine iff_of_true ?_ fun hf => ha hf.1
    have hfail : Fails (Endpoints.deleteCustomRoleFromTenant env h tenantId roleId) d :=
      Endpoints.fails_unless_admits ha
    exact hfail.serve

theorem noTrace_setRoleUsers (tenantId roleId : UUID) (userIds : List UUID) :
    (setRoleUsers tenantId roleId userIds).NoTrace env h d ↔
      ¬(setRoleUsers tenantId roleId userIds).Feasible env h d := by
  by_cases hf : (setRoleUsers tenantId roleId userIds).Feasible env h d
  · refine iff_of_false ?_ (not_not.mpr hf)
    obtain ⟨⟨t, ht, rfl⟩, ⟨r, hr, rfl, hacc⟩, husers⟩ := hf
    obtain ⟨s, hs⟩ := Endpoints.serve_setAssignedUsers ht hr hacc husers
    exact not_noTrace_of_ok (serve_endpoint_ok hs)
  · refine iff_of_true ?_ hf
    have hfail : Fails (Endpoints.setAssignedUsersForRole tenantId roleId userIds) d := by
      refine Endpoints.fails_setAssignedUsers fun ht r hr hid hacc => ?_
      by_contra hno
      push Not at hno
      exact hf ⟨ht, ⟨r, hr, hid, hacc⟩, hno⟩
    exact (hfail.bind _).serve

theorem noTrace_iff (r : AdminRequest) : r.NoTrace env h d ↔ ¬r.Feasible env h d := by
  cases r with
  | createTenant body newId =>
    by_cases ha : body.Accepted newId d
    · exact iff_of_false (not_noTrace_of_ok (serve_endpoint_ok
        (Endpoints.returns_createTenant ha).serve)) (not_not.mpr ha)
    · exact iff_of_true ((Endpoints.fails_createTenant ha).bind _).serve ha
  | updateTenant tenantId body =>
    by_cases ha : body.Accepted tenantId d
    · obtain ⟨x, hx, hid⟩ := ha.1
      exact iff_of_false (not_noTrace_of_ok (serve_endpoint_ok
        (Endpoints.returns_updateTenant ha hx hid).serve)) (not_not.mpr ha)
    · exact iff_of_true ((Endpoints.fails_updateTenant ha).bind _).serve ha
  | deleteTenant tenantId =>
    by_cases ha : ∃ x ∈ d.tenants, x.id = tenantId
    · exact iff_of_false (not_noTrace_of_ok (Endpoints.returns_deleteTenant ha).serve)
        (not_not.mpr ha)
    · exact iff_of_true (Endpoints.fails_deleteTenant ha).serve ha
  | createRole tenantId body newId => exact noTrace_createRole tenantId body newId
  | updateRole tenantId roleId body => exact noTrace_updateRole tenantId roleId body
  | deleteRole tenantId roleId => exact noTrace_deleteRole tenantId roleId
  | setRoleUsers tenantId roleId userIds => exact noTrace_setRoleUsers tenantId roleId userIds

/-- Nothing but the state of the rows protects a tenant: a request is protected
exactly when its caller has the authority, the middleware stops it, or it is not
feasible. -/
theorem protected_iff (env : Env) (now : Time) (h : Headers) (d : Database) (r : AdminRequest) :
    r.Protected env now h d ↔ r.Authorised env now h d ∨ h.xTenantId = some .malformed ∨
      ¬r.Feasible env h d := by
  by_cases hm : h.xTenantId = some .malformed
  · exact iff_of_true (fun _ => (Deps.fails_handle hm).serve) (.inr (.inl hm))
  · rw [Protected, Deps.serve_handle hm, or_iff_right hm, ← noTrace_iff]
    exact imp_iff_not_or.trans (by rw [not_not]; rfl)

/-- Anybody can make a user a manager of a tenant. -/
theorem setRoleUsers_not_protected :
    ¬(setRoleUsers 1 2 [1, 2]).Protected Env.sample 0 Headers.anonymous Database.sample := by
  intro hp
  obtain ⟨e, he⟩ := hp (by
    rintro ⟨u, hu, -⟩
    cases hu)
  obtain ⟨s, hs⟩ : ∃ s, serve (Endpoints.setAssignedUsersForRole 1 2 [1, 2]) Database.sample =
      (.ok [1, 2], s) :=
    Endpoints.serve_setAssignedUsers (t := ⟨1, "Acme", "acme", none, true⟩)
      (r := ⟨2, "Manager", none, some 1, false⟩) (by decide) (by decide) (.inr rfl) (by decide)
  rw [Deps.serve_handle (by decide)] at he
  cases he.symm.trans (serve_endpoint_ok hs)

end AdminRequest
end VirtualStack
