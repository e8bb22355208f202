import VirtualStack.InvitationRequests

/-!
# When an invitation is pending

Two queries take an invitation as pending while it expires later than now. The property
`is_pending` and the verification of its token take it so until now is past its expiry.
-/

namespace VirtualStack
open UnitOfWork
open InvitationService (Live)

section Notions

variable {d : Database} {now : Time} {x : Invitation} {limit : ℕ}

/-- The pending invitations of the tenant, as they are listed, contain it. -/
def ListedPending (d : Database) (now : Time) (x : Invitation) (limit : ℕ) : Prop :=
  ∃ rows, Returns (InvitationService.getPendingByTenant now x.tenantId 0 limit) d rows d ∧ x ∈ rows

/-- Its token gives the invitation itself. -/
def Verified (d : Database) (now : Time) (x : Invitation) : Prop :=
  (serve (InvitationService.verifyToken now x.token) d).1 = .ok (some x)

/-- The duplicate check of a request for the same person and tenant passes it. -/
def RegardedActive (now : Time) (x : Invitation) : Prop :=
  ∀ req : InvitationRequest, req.email = x.email → req.tenantId = x.tenantId →
    x.email = req.email ∧ x.tenantId = req.tenantId ∧ x.isActive now

/-- The four notions hold all of the invitation, or none of them does. -/
def NotionsAgree (d : Database) (now : Time) (x : Invitation) (limit : ℕ) : Prop :=
  (RegardedActive now x ∧ ListedPending d now x limit ∧ x.isPending now ∧ Verified d now x) ∨
  (¬RegardedActive now x ∧ ¬ListedPending d now x limit ∧ ¬x.isPending now ∧ ¬Verified d now x)

theorem regardedActive_iff :
    RegardedActive now x ↔ x.status = .pending ∧ now < x.expiresAt := by
  have hactive : x.isActive now ↔ x.status = .pending ∧ now < x.expiresAt := by
    rw [Invitation.isActive, decide_eq_true_eq]
  constructor
  · intro h
    exact hactive.mp (h ⟨x.email, x.tenantId, 0, none, none⟩ rfl rfl).2.2
  · intro h req hemail htenant
    exact ⟨hemail.symm, htenant.symm, hactive.mpr h⟩

theorem isPending_iff : x.isPending now ↔ Live now x := by
  simp [Invitation.isPending, Invitation.isExpired, Live]

theorem listedPending_iff (hx : x ∈ d.invitations) (hl : d.invitations.length ≤ limit) :
    ListedPending d now x limit ↔ x.status = .pending ∧ now < x.expiresAt := by
  have hreturns : Returns (InvitationService.getPendingByTenant now x.tenantId 0 limit) d _ d :=
    returns_query _ d
  constructor
  · rintro ⟨rows, hrows, hmem⟩
    rw [← (hreturns.unique hrows).1] at hmem
    have hfilter := List.mem_mergeSort.mp (List.mem_of_mem_drop (List.mem_of_mem_take hmem))
    have hp := List.of_mem_filter hfilter
    exact (of_decide_eq_true hp).2
  · intro h
    refine ⟨_, hreturns, ?_⟩
    rw [List.drop_zero, List.take_of_length_le]
    · exact List.mem_mergeSort.mpr (List.mem_filter.mpr ⟨hx, decide_eq_true ⟨rfl, h⟩⟩)
    · rw [List.length_mergeSort]
      exact (List.length_filter_le _ _).trans hl

theorem verified_iff (hx : x ∈ d.invitations) : Verified d now x ↔ Live now x := by
  constructor
  · intro h
    by_contra hlive
    by_cases hlate : x.expiresAt < now
    · rw [Verified, serve_of_ok (InvitationService.verifyToken_expired hx hlate d)] at h
      cases h
    · have hclosed : x.status ≠ .pending := fun hp => hlive ⟨hp, Int.not_lt.mp hlate⟩
      rw [Verified, (InvitationService.verifyToken_closed hx hlate hclosed).serve] at h
      cases h
  · intro hlive
    rw [Verified, (InvitationService.verifyToken_live hx hlive).serve]

end Notions

/-- The four notions agree except for a pending invitation at the very time at which it
expires. -/
theorem pending_notions_agree_iff {d : Database} {now : Time} {x : Invitation} {limit : ℕ}
    (hx : x ∈ d.invitations) (hl : d.invitations.length ≤ limit) :
    NotionsAgree d now x limit ↔ ¬(x.status = .pending ∧ x.expiresAt = now) := by
  rw [NotionsAgree, regardedActive_iff, listedPending_iff hx hl, isPending_iff, verified_iff hx,
    Live]
  by_cases hp : x.status = .pending
  · simp only [hp, true_and]
    constructor
    · rintro (⟨hlt, -⟩ | ⟨-, -, hlate, -⟩) rfl
      · exact lt_irrefl _ hlt
      · exact hlate le_rfl
    · intro hne
      rcases lt_or_gt_of_ne hne with hlate | hearly
      · exact .inr ⟨hlate.not_gt, hlate.not_gt, hlate.not_ge, hlate.not_ge⟩
      · exact .inl ⟨hearly, hearly, hearly.le, hearly.le⟩
  · simp [hp]

theorem pending_notions_agree_iff_sample :
    NotionsAgree Database.sample 99
        ⟨1, "bob@acme.com", "invitation-1", .pending, 100, none, 1, 1, none, none, 0⟩ 10 ↔
      ¬(InvitationStatus.pending = .pending ∧ (100 : Time) = 99) :=
  pending_notions_agree_iff List.mem_cons_self (by decide)

/-- An invitation for seven days. -/
def carolRequest : InvitationRequest := ⟨"carol@acme.com", 1, 1, none, some 7⟩

/-- When Carol's seven days are over her invitation is no longer listed, and its token
still opens it. -/
theorem notions_disagree_at_expiry :
    ∃ d x, serve (InvitationService.createInvitation carolRequest 0 2 "invitation-2")
        Database.sample = (.ok (x, "invitation-2"), .start d) ∧
      ¬ListedPending d (7 * microsecondsPerDay) x 10 ∧ Verified d (7 * microsecondsPerDay) x ∧
      ¬NotionsAgree d (7 * microsecondsPerDay) x 10 := by
  have hv : (Database.sample.addInvitation (carolRequest.row 0 2 "invitation-2"
    (7 * microsecondsPerDay))).Valid := by decide
  have hx : carolRequest.row 0 2 "invitation-2" (7 * microsecondsPerDay) ∈
      (⟨_, hv⟩ : Database).invitations :=
    List.mem_append_right _ (List.mem_singleton.mpr rfl)
  have hnone : InvitationService.duplicate Database.sample carolRequest 0 = none := by decide
  have hexpires : carolRequest.expiresAt 0 = .ok (7 * microsecondsPerDay) := by decide
  have hserve := serve_of_ok
    (InvitationService.createInvitation_new hnone hexpires hv Database.sample)
  have hlisted : ¬ListedPending ⟨_, hv⟩ (7 * microsecondsPerDay)
      (carolRequest.row 0 2 "invitation-2" (7 * microsecondsPerDay)) 10 := by
    have hfew : (⟨_, hv⟩ : Database).invitations.length ≤ 10 := by
      change 2 ≤ 10
      decide
    rw [listedPending_iff hx hfew]
    exact fun h => lt_irrefl _ h.2
  have hverified : Verified ⟨_, hv⟩ (7 * microsecondsPerDay)
      (carolRequest.row 0 2 "invitation-2" (7 * microsecondsPerDay)) :=
    (verified_iff hx).mpr ⟨rfl, le_rfl⟩
  refine ⟨⟨_, hv⟩, _, hserve, hlisted, hverified, ?_⟩
  rintro (h | h)
  · exact hlisted h.2.1
  · exact h.2.2.2 hverified

end VirtualStack
