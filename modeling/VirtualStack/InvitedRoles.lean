import VirtualStack.FailedAcceptance
import VirtualStack.Services.Role

/-!
# The role of an accepted invitation

`accept_invitation` assigns the role inside a `try` whose handler logs the failure and
goes on with the acceptance. Here it is said when the assignment is made.
-/

namespace VirtualStack
open UnitOfWork

/-- The role lookup that the repository does not define finds the stored role exactly
when it is a system role or belongs to the tenant. -/
def RoleLookup (env : Env) : Prop :=
  ∀ d roleId tenantId, env.getRoleByIdAndTenant d roleId tenantId =
    .ok (d.roles.find? fun r => r.id = roleId ∧ (r.isSystemRole ∨ r.tenantId = some tenantId))

/-- What the lookup gives. -/
theorem RoleLookup.found {env : Env} (h : RoleLookup env) (d : Database) (roleId tenantId : UUID) :
    (∃ r, env.getRoleByIdAndTenant d roleId tenantId = .ok (some r) ∧ r ∈ d.roles ∧
      r.id = roleId ∧ RoleService.Accessible r tenantId) ∨
    env.getRoleByIdAndTenant d roleId tenantId = .ok none ∧
      ∀ r ∈ d.roles, r.id = roleId → ¬RoleService.Accessible r tenantId := by
  rw [h d roleId tenantId]
  cases hf : d.roles.find? fun r => r.id = roleId ∧
      (r.isSystemRole ∨ r.tenantId = some tenantId) with
  | some r =>
    have hp := List.find?_some hf
    obtain ⟨hid, hacc⟩ := of_decide_eq_true hp
    exact .inl ⟨r, rfl, List.mem_of_find?_eq_some hf, hid, hacc⟩
  | none =>
    refine .inr ⟨rfl, fun r hr hid hacc => ?_⟩
    exact List.find?_eq_none.mp hf r hr (decide_eq_true ⟨hid, hacc⟩)

/-- The user is a member of the tenant and the role can be given out there. -/
def Assignable (d : Database) (x : UserTenantRole) : Prop :=
  IsMember d.toTables x.userId x.tenantId ∧
    ∃ r ∈ d.roles, r.id = x.roleId ∧ RoleService.Accessible r x.tenantId

namespace UserService

section Assigning

variable {env : Env} {c d : Database} {userId roleId tenantId : UUID}

/-- A new assignment that can be made is handed to the session. -/
theorem run_assignRole_new (h : RoleLookup env) (ha : Assignable d ⟨userId, roleId, tenantId⟩)
    (hn : ⟨userId, roleId, tenantId⟩ ∉ d.userTenantRoles) :
    (assignRoleToUserInTenant env userId roleId tenantId false).run (.clean c d) =
      (.ok true,
        ⟨c, d, [(·.change (Tables.addAssignment ⟨userId, roleId, tenantId⟩))], false⟩) := by
  obtain ⟨hm, r, hr, hid, hacc⟩ := ha
  obtain ⟨u, hu⟩ := byIdAndTenant_isSome hm
  rw [assignRoleToUserInTenant, getByIdAndTenant, run_bind_ok (query_clean c d _), hu]
  dsimp only
  rw [run_bind_ok (query_clean c d _)]
  obtain ⟨r', hfound, -⟩ | ⟨-, hno⟩ := h.found d roleId tenantId
  · rw [hfound, run_bind_ok (run_lift _ _)]
    dsimp only
    rw [run_bind_ok (query_clean c d _)]
    rw [if_neg (by simpa using hn)]
    rfl
  · exact absurd hacc (hno r hr hid)

/-- Otherwise nothing happens to the session. -/
theorem run_assignRole_other (h : RoleLookup env)
    (hn : ¬(Assignable d ⟨userId, roleId, tenantId⟩ ∧
      ⟨userId, roleId, tenantId⟩ ∉ d.userTenantRoles)) :
    ∃ r, (assignRoleToUserInTenant env userId roleId tenantId false).run (.clean c d) =
      (r, .clean c d) := by
  rw [assignRoleToUserInTenant, getByIdAndTenant, run_bind_ok (query_clean c d _)]
  cases hu : byIdAndTenant d userId tenantId with
  | none => exact ⟨_, rfl⟩
  | some u =>
    dsimp only
    rw [run_bind_ok (query_clean c d _)]
    obtain ⟨r, hfound, hr, hid, hacc⟩ | ⟨hfound, -⟩ := h.found d roleId tenantId
    · have hex : ⟨userId, roleId, tenantId⟩ ∈ d.userTenantRoles := by
        by_contra hne
        exact hn ⟨⟨(byIdAndTenant_eq_some.mp hu).2.2, r, hr, hid, hacc⟩, hne⟩
      rw [hfound, run_bind_ok (run_lift _ _)]
      dsimp only
      rw [run_bind_ok (query_clean c d _), if_pos (by simpa using hex)]
      exact ⟨_, rfl⟩
    · rw [hfound, run_bind_ok (run_lift _ _)]
      exact ⟨_, rfl⟩

end Assigning

end UserService

namespace InvitationService

section Accepting

variable {env : Env} {now : Time} {d d' : Database} {x : Invitation} {userId roleId : UUID}

/-- With the acceptance waiting, the commit stores the new assignment with it, or the
acceptance alone. -/
theorem assignInvitedRole_commit (userId : UUID) (h : RoleLookup env)
    (hrole : x.roleId = some roleId)
    {w : Database → Except Exc Database} (hw : w d = .ok d') (c : Database) :
    ∃ s v, (assignInvitedRole env x userId).run ⟨c, d, [w], false⟩ = (.ok (), s) ∧
      commit.run s = (.ok (), .start v) ∧ v.invitations = d'.invitations ∧
      ∀ a, a ∈ v.userTenantRoles ↔ a ∈ d'.userTenantRoles ∨
        a = ⟨userId, roleId, x.tenantId⟩ ∧ Assignable d' a := by
  rw [assignInvitedRole, hrole]
  dsimp only
  rw [run_tryCatch, ((UserService.autoflush_assignRole env userId roleId x.tenantId false).bind
    _).run_one_ok hw, run_bind]
  by_cases ha : Assignable d' ⟨userId, roleId, x.tenantId⟩ ∧
      ⟨userId, roleId, x.tenantId⟩ ∉ d'.userTenantRoles
  · obtain ⟨⟨hm, r, hr, hid, hacc⟩, hnew⟩ := ha
    rw [UserService.run_assignRole_new h ⟨hm, r, hr, hid, hacc⟩ hnew]
    obtain ⟨y, hy, hyu, hyt⟩ := hm
    have hvalid : (Tables.addAssignment ⟨userId, roleId, x.tenantId⟩ d'.toTables).Valid := by
      refine d'.valid.addAssignment hnew ?_ ?_ ?_
      · exact hyu ▸ d'.valid.references.assignmentUser y hy
      · exact List.mem_map.mpr ⟨r, hr, hid⟩
      · exact hyt ▸ d'.valid.references.assignmentTenant y hy
    refine ⟨_, _, rfl, commit_one_ok c d' (Database.change_eq_ok hvalid), rfl, fun a => ?_⟩
    change a ∈ d'.userTenantRoles ++ [_] ↔ _
    rw [List.mem_append, List.mem_singleton]
    refine or_congr_right ⟨fun e => ⟨e, ?_⟩, And.left⟩
    exact e ▸ ⟨⟨y, hy, hyu, hyt⟩, r, hr, hid, hacc⟩
  · obtain ⟨r, hrun⟩ := UserService.run_assignRole_other (c := c) h ha
    rw [hrun]
    have hrows : ∀ a, a ∈ d'.userTenantRoles ↔ a ∈ d'.userTenantRoles ∨
        a = ⟨userId, roleId, x.tenantId⟩ ∧ Assignable d' a := by
      refine fun a => ⟨.inl, fun hor => hor.elim id ?_⟩
      rintro ⟨rfl, hassign⟩
      by_contra hn
      exact ha ⟨hassign, hn⟩
    cases r <;> exact ⟨_, d', rfl, commit_clean c d', rfl, hrows⟩

/-- The committed store holds the acceptance, and the assignment if it was there or could
be made. -/
structure Settled (d d' : Database) (y : Invitation) (userId roleId : UUID) : Prop where
  stored : y ∈ d'.invitations
  accepted : y.status = .accepted
  assignments : ∀ a, a ∈ d'.userTenantRoles ↔ a ∈ d.userTenantRoles ∨
    a = ⟨userId, roleId, y.tenantId⟩ ∧ Assignable d a

theorem acceptInvitation_settled (h : RoleLookup env) (hx : x ∈ d.invitations)
    (hl : Live now x) (hrole : x.roleId = some roleId)
    (hv : (d.modifyInvitation x.id (Invitation.markAccepted userId now)).Valid) (c : Database) :
    ∃ v, (acceptInvitation env now x.token userId).run (.clean c d) =
        (.ok (some (x.markAccepted userId now)), .start v) ∧
      Settled d v (x.markAccepted userId now) userId roleId := by
  obtain ⟨s, v, hassign, hcommit, hinv, hrows⟩ :=
    assignInvitedRole_commit userId h hrole (Database.change_eq_ok hv) c
  have hfind : v.invitations.find? (·.id = x.id) = some (x.markAccepted userId now) :=
    find?_markAccepted hx hinv
  refine ⟨v, ?_, List.mem_of_find?_eq_some hfind, rfl, hrows⟩
  rw [acceptInvitation, run_bind_ok (verifyToken_live hx hl c)]
  dsimp only [setAttributes]
  rw [run_bind_ok (add_clean c d _), run_bind_ok hassign]
  exact run_commit_refresh (x := x.markAccepted userId now) hcommit hfind

/-! ## Every acceptance -/

/-- A successful acceptance always stores the assignment. -/
def AlwaysAssigns (env : Env) (now : Time) (token : String) (userId : UUID) (d : Database) :
    Prop :=
  ∀ y s', (acceptInvitation env now token userId).run (.start d) = (.ok (some y), s') →
    ∀ r, y.roleId = some r → ⟨userId, r, y.tenantId⟩ ∈ s'.committed.userTenantRoles

/-- An acceptance with a role stores the assignment if it can be made, and goes through
without it otherwise; a call that raises has committed nothing. -/
structure SettlesRole (env : Env) (now : Time) (token : String) (userId : UUID) (d : Database) :
    Prop where
  returned : ∀ y s', (acceptInvitation env now token userId).run (.start d) =
    (.ok (some y), s') → ∀ r, y.roleId = some r → Settled d s'.committed y userId r
  raised : ∀ e s', (acceptInvitation env now token userId).run (.start d) = (.error e, s') →
    s'.committed = d

/-- A call that does not answer `None` is about a live invitation. -/
theorem live_of_run {token : String} {r : Except Exc (Option Invitation)}
    {s' : Session Database Exc}
    (h : (acceptInvitation env now token userId).run (.start d) = (r, s')) (hr : r ≠ .ok none) :
    ∃ x ∈ d.invitations, x.token = token ∧ Live now x := by
  obtain hu | ⟨x, hx, rfl, he | ⟨he, hs⟩ | hl⟩ := token_cases now d token
  · cases h.symm.trans (acceptInvitation_unknown hu d)
    exact absurd rfl hr
  · cases h.symm.trans (acceptInvitation_expired hx he d)
    exact absurd rfl hr
  · cases h.symm.trans (acceptInvitation_closed hx he hs d)
    exact absurd rfl hr
  · exact ⟨x, hx, rfl, hl⟩

theorem settles_role (h : RoleLookup env) (now : Time) (token : String) (userId : UUID)
    (d : Database) : SettlesRole env now token userId d := by
  constructor
  · intro y s' hrun r hrole
    obtain ⟨x, hx, rfl, hl⟩ := live_of_run hrun (by simp)
    by_cases hv : (d.modifyInvitation x.id (Invitation.markAccepted userId now)).Valid
    · have hy : y = x.markAccepted userId now := by
        obtain ⟨e, s, he, -⟩ | ⟨d', hd', -⟩ := acceptInvitation_live env userId hx hl d
        · cases hrun.symm.trans he
        · cases hrun.symm.trans hd'
          rfl
      subst hy
      obtain ⟨v, hv, hsettled⟩ := acceptInvitation_settled h hx hl hrole hv d
      cases hrun.symm.trans hv
      exact hsettled
    · obtain ⟨e, s, he, -⟩ := acceptInvitation_refused env hx hl hv d
      cases hrun.symm.trans he
  · intro e s' hrun
    obtain ⟨x, hx, rfl, hl⟩ := live_of_run hrun (by simp)
    obtain ⟨e', s, he, hs⟩ | ⟨d', hd', -⟩ := acceptInvitation_live env userId hx hl d
    · cases hrun.symm.trans he
      exact hs
    · cases hrun.symm.trans hd'

end Accepting

theorem roleLookup_sample : RoleLookup Env.sample := fun _ _ _ => rfl

/-- The example with an invitation to the default role. -/
def invited : Database :=
  { Database.sample with
    invitations :=
      [⟨1, "bob@acme.com", "invitation-1", .pending, 100, none, 1, 1, none, some 1, 0⟩]
    valid := by decide }

theorem settles_role_sample : SettlesRole Env.sample 0 "invitation-1" 1 invited :=
  settles_role roleLookup_sample 0 "invitation-1" 1 invited

/-- A user who is stored but no member of the tenant accepts: the invitation is accepted
and the role is not assigned. -/
theorem root_accepts_without_role :
    (∃ y s', (acceptInvitation Env.sample 0 "invitation-1" 2).run (.start invited) =
        (.ok (some y), s') ∧ y.status = .accepted ∧ y.roleId = some 1 ∧
        ⟨2, 1, 1⟩ ∉ s'.committed.userTenantRoles) ∧
    ¬AlwaysAssigns Env.sample 0 "invitation-1" 2 invited := by
  have hx : (⟨1, "bob@acme.com", "invitation-1", .pending, 100, none, 1, 1, none, some 1, 0⟩ :
      Invitation) ∈ invited.invitations := by decide
  obtain ⟨v, hrun, hsettled⟩ := @acceptInvitation_settled Env.sample 0 invited _ 2 1
    roleLookup_sample hx ⟨rfl, by decide⟩ rfl (by decide) invited
  have hmember : ¬IsMember invited.toTables 2 1 := by decide
  have hn : (⟨2, 1, 1⟩ : UserTenantRole) ∉ v.userTenantRoles := by
    rw [hsettled.assignments]
    rintro (hold | ⟨-, hm, -⟩)
    · exact absurd hold (by decide)
    · exact hmember hm
  exact ⟨⟨_, _, hrun, rfl, rfl, hn⟩, fun hall => hn (hall _ _ hrun 1 rfl)⟩

end InvitationService
end VirtualStack
