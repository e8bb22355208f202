import VirtualStack.Services.Invitation
import VirtualStack.UserCreation

/-!
# What a failed acceptance commits

`verify_token` and `accept_invitation` in a session that holds changes of the caller.
When they return `None`, the rollback that follows is to leave nothing of these changes.
-/

namespace VirtualStack
open UnitOfWork

/-- The tables without the status of the invitation that has the token. -/
def Tables.forgetStatus (token : String) (t : Tables) : Tables :=
  { t with invitations :=
      Rows.modify (·.token) token (fun x => { x with status := .pending }) t.invitations }

/-- The stores differ at most in that status. -/
def SameButStatus (token : String) (d d' : Database) : Prop :=
  d.forgetStatus token = d'.forgetStatus token

namespace InvitationService

section Failed

variable {env : Env} {now : Time} {token : String} {userId : UUID} {c v : Database}
  {s s' : Session Database Exc}

theorem sameButStatus_expireInvitation {x : Invitation} (hx : x ∈ v.invitations) :
    SameButStatus x.token c (v.expireInvitation x.id) ↔ SameButStatus x.token c v := by
  have hrows : Rows.modify (·.token) x.token (fun y => { y with status := .pending })
      (Rows.modify (·.id) x.id Invitation.markExpired v.invitations) =
        Rows.modify (·.token) x.token (fun y => { y with status := .pending }) v.invitations := by
    simp only [Rows.modify, List.map_map]
    refine List.map_congr_left fun y hy => ?_
    by_cases hid : y.id = x.id
    · obtain rfl := Rows.eq_of_key_eq v.valid.keys.invitationsId hy hx hid
      simp [Invitation.markExpired]
    · simp [hid]
  have hforget : (v.expireInvitation x.id).forgetStatus x.token = v.forgetStatus x.token :=
    congrArg (fun rows => { v.toTables with invitations := rows }) hrows
  rw [SameButStatus, hforget, SameButStatus]

theorem autoflush_verifyToken (now : Time) (token : String) : Autoflush (verifyToken now token) :=
  (autoflush_query _).bind _

theorem autoflush_acceptInvitation (env : Env) (now : Time) (token : String) (userId : UUID) :
    Autoflush (acceptInvitation env now token userId) :=
  (autoflush_verifyToken now token).bind _

/-- The invitation with the token is past its expiry. -/
def Lapsed (d : Database) (token : String) (now : Time) : Prop :=
  ∃ x ∈ d.invitations, x.token = token ∧ x.expiresAt < now

/-- The two ways to answer `None`: reading only, or with a commit of the session. -/
theorem verifyToken_none (h : (verifyToken now token).run (.clean c v) = (.ok none, s')) :
    (¬Lapsed v token now ∧ s' = .clean c v) ∨
    ∃ x ∈ v.invitations, x.token = token ∧ x.expiresAt < now ∧
      s' = .start (v.expireInvitation x.id) := by
  obtain hu | ⟨x, hx, rfl, he | ⟨he, hs⟩ | hl⟩ := token_cases now v token
  · left
    cases h.symm.trans (verifyToken_unknown hu c)
    refine ⟨?_, rfl⟩
    rintro ⟨x, hm, htoken, -⟩
    exact hu x hm htoken
  · cases h.symm.trans (verifyToken_expired hx he c)
    exact .inr ⟨x, hx, rfl, he, rfl⟩
  · left
    cases h.symm.trans (verifyToken_closed hx he hs c)
    refine ⟨?_, rfl⟩
    rintro ⟨y, hy, htoken, hlapsed⟩
    obtain rfl := Rows.eq_of_key_eq v.valid.keys.invitationsToken hy hx htoken
    exact he hlapsed
  · cases h.symm.trans (verifyToken_live hx hl c)

/-- A token that is let through belongs to a live invitation. -/
theorem verifyToken_some {x : Invitation}
    (h : (verifyToken now token).run (.clean c v) = (.ok (some x), s')) :
    x ∈ v.invitations ∧ x.token = token ∧ Live now x ∧ s' = .clean c v := by
  obtain hu | ⟨y, hy, rfl, he | ⟨he, hs⟩ | hl⟩ := token_cases now v token
  · cases h.symm.trans (verifyToken_unknown hu c)
  · cases h.symm.trans (verifyToken_expired hy he c)
  · cases h.symm.trans (verifyToken_closed hy he hs c)
  · cases h.symm.trans (verifyToken_live hy hl c)
    exact ⟨hy, rfl, hl, rfl⟩

/-- Accepting answers `None` where verifying does, and leaves the same session. -/
theorem acceptInvitation_none
    (h : (acceptInvitation env now token userId).run (.clean c v) = (.ok none, s')) :
    (verifyToken now token).run (.clean c v) = (.ok none, s') := by
  rw [acceptInvitation] at h
  rcases hrun : (verifyToken now token).run (.clean c v) with ⟨_ | found, s₁⟩
  · cases (run_bind_error hrun _).symm.trans h
  · cases found with
    | none =>
      rw [run_bind_ok hrun] at h
      cases h
      rfl
    | some x =>
      obtain ⟨hx, rfl, hl, rfl⟩ := verifyToken_some hrun
      obtain ⟨e, s₂, he, -⟩ | ⟨d', hd', -⟩ := acceptInvitation_live env userId hx hl c
      · cases h.symm.trans he
      · cases h.symm.trans hd'

/-! ## The changes of the caller -/

/-- When the token is refused, a rollback leaves the committed store as it was, up to
the status of that one invitation. -/
structure KeepsUncommitted (env : Env) (now : Time) (token : String) (userId : UUID)
    (s : Session Database Exc) : Prop where
  verify : ∀ s', (verifyToken now token).run s = (.ok none, s') →
    SameButStatus token s.committed ((rollback : Db Unit).run s').2.committed
  accept : ∀ s', (acceptInvitation env now token userId).run s = (.ok none, s') →
    SameButStatus token s.committed ((rollback : Db Unit).run s').2.committed

/-- What the session sees is at most that status away from what is committed, wherever
the token is found expired. -/
theorem keeps_uncommitted_iff : KeepsUncommitted env now token userId s ↔
    ∀ v, s.Sends v → Lapsed v token now → SameButStatus token s.committed v := by
  constructor
  · rintro hk v hv ⟨x, hx, rfl, he⟩
    have hrun := ((autoflush_verifyToken now x.token).run_of_flush
      (flush_eq_ok.mpr ⟨v, hv, rfl⟩)).trans (verifyToken_expired hx he s.committed)
    exact (sameButStatus_expireInvitation hx).mp (hk.verify _ hrun)
  · intro hv
    have hnone : ∀ v s', s.Sends v →
        (verifyToken now token).run (.clean s.committed v) = (.ok none, s') →
        SameButStatus token s.committed ((rollback : Db Unit).run s').2.committed := by
      intro v s' hsends hrun
      obtain ⟨-, rfl⟩ | ⟨x, hx, rfl, he, rfl⟩ := verifyToken_none hrun
      · exact rfl
      · exact (sameButStatus_expireInvitation hx).mpr (hv v hsends ⟨x, hx, rfl, he⟩)
    refine ⟨fun s' h => ?_, fun s' h => ?_⟩
    · obtain ⟨v, hsends, hrun⟩ := (autoflush_verifyToken now token).sends_of_ok h
      exact hnone v s' hsends hrun
    · obtain ⟨v, hsends, hrun⟩ := (autoflush_acceptInvitation env now token userId).sends_of_ok h
      exact hnone v s' hsends (acceptInvitation_none hrun)

end Failed

/-- The example with the user whom the accept endpoint has just created and flushed. -/
def withBob : Database :=
  { Database.sample with
    users := Database.sample.users ++
      [⟨3, "bob@acme.com", "$2b$12$b", some "Bob Jones", true, false⟩]
    userTenantRoles := Database.sample.userTenantRoles ++ [⟨3, 1, 1⟩]
    valid := by decide }

/-- The invitation expired between the two checks of one request: the user is committed
although the request fails. -/
theorem bob_committed_on_failure :
    (acceptInvitation Env.sample 101 "invitation-1" 3).run (.clean Database.sample withBob) =
      (.ok none, .start (withBob.expireInvitation 1)) ∧
    ¬KeepsUncommitted Env.sample 101 "invitation-1" 3 (.clean Database.sample withBob) := by
  have hx : (⟨1, "bob@acme.com", "invitation-1", .pending, 100, none, 1, 1, none, none, 0⟩ :
      Invitation) ∈ withBob.invitations := by decide
  have hrun : (acceptInvitation Env.sample 101 "invitation-1" 3).run
      (.clean Database.sample withBob) = (.ok none, .start (withBob.expireInvitation 1)) :=
    acceptInvitation_expired hx (by decide) Database.sample
  refine ⟨hrun, fun hk => ?_⟩
  have hsame := (sameButStatus_expireInvitation hx).mp (hk.accept _ hrun)
  exact absurd (congrArg Tables.users hsame) (by decide)

end InvitationService
end VirtualStack
