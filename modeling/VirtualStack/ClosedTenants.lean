import VirtualStack.PermissionChecks

/-!
# Tenants that were deactivated

The middleware leaves the validation of a tenant's status to the dependencies. None
of the three ways into a tenant reads the column `is_active` of `tenants`; what they
read instead is said here for each.
-/

namespace VirtualStack
open UnitOfWork

/-- The dependencies through which a request gets into a tenant. -/
inductive TenantGate where
  | header
  | permission (p : Permission)
  | path
  deriving DecidableEq, Repr

namespace TenantGate

/-- The dependency of a gate, with the dependencies it has itself. -/
def dependency (env : Env) (now : Time) (h : Headers) (tenantId : UUID) : TenantGate → Db Tenant
  | header => do
    let currentUser ← Deps.getCurrentActiveUser env now h
    Deps.getCurrentActiveTenant h currentUser
  | permission p => do
    let (_, tenant) ← Deps.requirePermissionInActiveTenant env now h p
    pure tenant
  | path => Deps.getTenantFromPath tenantId

/-- The request names the tenant where the gate looks for it. -/
def Names (h : Headers) (tenantId : UUID) : TenantGate → Prop
  | path => True
  | _ => h.xTenantId = some (.valid tenantId)

def Refuses (env : Env) (now : Time) (h : Headers) (d : Database) (tenantId : UUID)
    (gate : TenantGate) : Prop :=
  ∃ e, serve (Deps.handle h (gate.dependency env now h tenantId)) d = (.error e, .start d)

/-- What opens a gate to a user who is no superuser. -/
def Open (h : Headers) (d : Database) (u : User) (tenantId : UUID) : TenantGate → Prop
  | header => u.isActive ∧ IsMember d.toTables u.id tenantId
  | permission p => u.isActive ∧ Granted d u.id tenantId p.value
  | path => h.xTenantId ≠ some .malformed

variable {env : Env} {now : Time} {h : Headers} {d : Database} {u : User} {t : Tenant}

theorem returns_dependency (gate : TenantGate) (ht : t ∈ d.tenants)
    (hu : Deps.currentUser env now h d = .ok u) (hn : gate.Names h t.id)
    (ho : gate.Open h d u t.id) :
    ∃ v, Returns (gate.dependency env now h t.id) d t v := by
  cases gate with
  | header =>
    have huser := (Deps.yields_getCurrentActiveUser env now h d).returns
      (Deps.currentActiveUser_eq_ok hu ho.1)
    have hten := (Deps.yields_getCurrentActiveTenant h (Deps.identifiedView env now h d) u).returns
      (by
        rw [Deps.activeTenant_identifiedView]
        exact (Deps.activeTenant_eq_ok hn).mpr ⟨ht, rfl, .inr ho.2⟩)
    exact ⟨_, huser.bind hten⟩
  | permission p =>
    have hp := holdsPermission_iff_granted.mpr ho.2
    have hgate := (Deps.yields_requirePermissionInActiveTenant env now h d p).returns
      (Deps.permitted_eq_ok.mpr ⟨Deps.currentActiveUser_eq_ok hu ho.1,
        (Deps.activeTenant_eq_ok hn).mpr ⟨ht, rfl, .inr hp.isMember⟩, .inr hp⟩)
    exact ⟨_, hgate.bind (returns_pure t _)⟩
  | path => exact ⟨d, Deps.returns_getTenantFromPath ht⟩

/-- An inactive caller is not the current active user. -/
theorem currentActiveUser_eq_error (hu : Deps.currentUser env now h d = .ok u)
    (ha : ¬u.isActive) : ∃ e, Deps.currentActiveUser env now h d = .error e := by
  rw [Deps.currentActiveUser, hu]
  exact ⟨_, if_pos ha⟩

theorem fails_dependency {gate : TenantGate} (hu : Deps.currentUser env now h d = .ok u)
    (hs : u.isSuperuser = false) (hn : gate.Names h t.id) (hm : h.xTenantId ≠ some .malformed)
    (ho : ¬gate.Open h d u t.id) : Fails (gate.dependency env now h t.id) d := by
  cases gate with
  | header =>
    by_cases ha : u.isActive
    · have huser := (Deps.yields_getCurrentActiveUser env now h d).returns
        (Deps.currentActiveUser_eq_ok hu ha)
      refine huser.bind_fails ?_
      refine (Deps.yields_getCurrentActiveTenant h (Deps.identifiedView env now h d) u).fails ?_
      intro t' ht'
      rw [Deps.activeTenant_identifiedView, Deps.activeTenant_eq_ok hn] at ht'
      exact ho ⟨ha, ht'.2.2.resolve_left (by simp [hs])⟩
    · obtain ⟨e, he⟩ := currentActiveUser_eq_error hu ha
      exact ((Deps.yields_getCurrentActiveUser env now h d).raises he).fails.bind _
  | permission p =>
    refine Fails.bind ((Deps.yields_requirePermissionInActiveTenant env now h d p).fails ?_) _
    rintro ⟨u', t'⟩ hp
    obtain ⟨hact, hten, hp⟩ := Deps.permitted_eq_ok.mp hp
    obtain ⟨hcur, ha⟩ := Deps.currentUser_of_active hact
    obtain rfl : u = u' := Except.ok.inj (hu.symm.trans hcur)
    obtain ⟨-, hid, -⟩ := (Deps.activeTenant_eq_ok hn).mp hten
    rw [hid] at hp
    exact ho ⟨ha, holdsPermission_iff_granted.mp (hp.resolve_left (by simp [hs]))⟩
  | path => exact absurd hm ho

/-- A request of a user without privileges to a deactivated tenant is refused only
for reasons that have nothing to do with the tenant's status. -/
theorem refuses_iff (env : Env) (now : Time) (h : Headers) (d : Database) (u : User) (t : Tenant)
    (gate : TenantGate) (ht : t ∈ d.tenants ∧ t.isActive = false)
    (hu : Deps.currentUser env now h d = .ok u) (hs : u.isSuperuser = false)
    (hn : gate.Names h t.id) :
    gate.Refuses env now h d t.id ↔ ¬gate.Open h d u t.id := by
  constructor
  · rintro ⟨e, he⟩ ho
    have hm : h.xTenantId ≠ some .malformed := by
      cases gate with
      | header | permission => rw [show h.xTenantId = _ from hn]; simp
      | path => exact ho
    obtain ⟨v, hret⟩ := returns_dependency gate ht.1 hu hn ho
    rw [Deps.serve_handle hm, hret.serve] at he
    cases he
  · intro ho
    by_cases hm : h.xTenantId = some .malformed
    · exact (Deps.fails_handle hm).serve
    · rw [Refuses, Deps.serve_handle hm]
      exact (fails_dependency hu hs hn hm ho).serve

/-- The sample with its first tenant deactivated. -/
def deactivatedTenant : Database :=
  ⟨{ Database.sample.toTables with
      tenants := [⟨1, "Acme", "acme", none, false⟩, ⟨2, "Beta", "beta", none, true⟩] }, by decide⟩

theorem refuses_deactivatedTenant_iff :
    (permission .tenantManageInvitations).Refuses Env.sample 0
        ⟨some "token-1", none, none, some (.valid 1), []⟩ deactivatedTenant 1 ↔
      ¬(permission .tenantManageInvitations).Open
        ⟨some "token-1", none, none, some (.valid 1), []⟩ deactivatedTenant
        ⟨1, "alice@acme.com", "$2b$12$a", some "Alice", true, false⟩ 1 :=
  refuses_iff Env.sample 0 ⟨some "token-1", none, none, some (.valid 1), []⟩ deactivatedTenant
    ⟨1, "alice@acme.com", "$2b$12$a", some "Alice", true, false⟩
    ⟨1, "Acme", "acme", none, false⟩ _ ⟨by decide, rfl⟩ rfl rfl rfl

/-- A manager goes on managing the invitations of a deactivated tenant. -/
theorem deactivatedTenant_not_refuses :
    (⟨1, "Acme", "acme", none, false⟩ : Tenant) ∈ deactivatedTenant.tenants ∧
      Deps.currentUser Env.sample 0 ⟨some "token-1", none, none, some (.valid 1), []⟩
        deactivatedTenant = .ok ⟨1, "alice@acme.com", "$2b$12$a", some "Alice", true, false⟩ ∧
      ¬(permission .tenantManageInvitations).Refuses Env.sample 0
        ⟨some "token-1", none, none, some (.valid 1), []⟩ deactivatedTenant 1 := by
  refine ⟨by decide, rfl, ?_⟩
  rintro ⟨e, he⟩
  have hu : Deps.currentUser Env.sample 0 ⟨some "token-1", none, none, some (.valid 1), []⟩
      deactivatedTenant = .ok ⟨1, "alice@acme.com", "$2b$12$a", some "Alice", true, false⟩ := rfl
  have hp : Granted deactivatedTenant 1 1 Permission.tenantManageInvitations.value :=
    holdsPermission_iff_granted.mp (by decide)
  obtain ⟨v, hret⟩ := returns_dependency (t := ⟨1, "Acme", "acme", none, false⟩)
    (permission .tenantManageInvitations) (by decide) hu rfl ⟨rfl, hp⟩
  rw [Deps.serve_handle (by decide), hret.serve] at he
  cases he

end TenantGate
end VirtualStack
