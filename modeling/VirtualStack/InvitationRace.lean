import VirtualStack.InvitationLifecycle
import VirtualStack.ReadCheckWrite

/-!
# Concurrent requests on one invitation

`accept_invitation` and `revoke_invitation` read the invitation, look at its
status and expiry, set columns and commit, without a lock. Here any number of
them work on one invitation in any order of these steps.
-/

namespace VirtualStack
open UnitOfWork Runs ReadCheckWrite

inductive RaceRequest where
  | accept (userId : UUID) (now : Time)
  | revoke (now : Time)
  deriving DecidableEq, Repr

namespace RaceRequest

/-- What the service does with the row it has read. -/
def decision : RaceRequest → Invitation → Decision Invitation (Option Invitation)
  | accept userId now, x =>
    if x.expiresAt < now then .write Invitation.markExpired fun _ => none
    else if x.status ≠ .pending then .answer none
    else .write (Invitation.markAccepted userId now) some
  | revoke _, x =>
    if x.status ≠ .pending then .answer (some x)
    else .write Invitation.markRevoked some

/-- The call of the service for a stored invitation. -/
def call (x : Invitation) : RaceRequest → InvitationCall
  | accept userId now => ⟨now, .accept x.token userId⟩
  | revoke now => ⟨now, .revoke x.id⟩

section Solo

variable {now : Time} {d : Database} {rows : List Invitation} {r : Except Exc (Option Invitation)}
  {x : Invitation}

/-- A call fails, or it answers or writes as the decision on the stored row says. -/
theorem decision_of_effect (hx : x ∈ d.invitations) (request : RaceRequest)
    (he : Effect (request.call x).time d (request.call x).op r rows) :
    (∃ e, r = .error e) ∨
    (∃ a, request.decision x = .answer a ∧ r = .ok a ∧ rows = d.invitations) ∨
    ∃ f result, request.decision x = .write f result ∧ Closing f ∧ r = .ok (result (f x)) ∧
      rows = Rows.modify (·.id) x.id f d.invitations := by
  have huniq : ∀ y ∈ d.invitations, y.token = x.token → y = x :=
    fun y hy => Rows.eq_of_key_eq d.valid.keys.invitationsToken hy hx
  have huid : ∀ y ∈ d.invitations, y.id = x.id → y = x :=
    fun y hy => Rows.eq_of_key_eq d.valid.keys.invitationsId hy hx
  cases request with
  | accept userId now =>
    change Effect now d (.accept x.token userId) r rows at he
    generalize hop : InvitationOp.accept x.token userId = op at he
    cases he with
    | notAccepted z u e => exact .inl ⟨e, rfl⟩
    | expired _ z hz htoken hexp =>
      subst hop
      obtain rfl := huniq z hz (Option.some.inj htoken).symm
      refine .inr (.inr ⟨_, fun _ => none, ?_, closing_markExpired, rfl, rfl⟩)
      rw [decision, if_pos hexp]
    | refused _ token htoken h =>
      subst hop
      cases htoken
      obtain ⟨hl, hexp⟩ := h x hx rfl
      refine .inr (.inl ⟨_, ?_, rfl, rfl⟩)
      rw [decision, if_neg (Int.not_lt.mpr hexp), if_pos fun hs => hl ⟨hs, hexp⟩]
    | accepted z u hz hl =>
      injection hop with htoken huser
      obtain rfl := huniq z hz htoken.symm
      subst huser
      refine .inr (.inr ⟨_, _, ?_, closing_markAccepted _ _, rfl, rfl⟩)
      rw [decision, if_neg (Int.not_lt.mpr hl.2), if_neg (not_not.mpr hl.1)]
    | _ => cases hop
  | revoke now =>
    change Effect now d (.revoke x.id) r rows at he
    generalize hop : InvitationOp.revoke x.id = op at he
    cases he with
    | revoked z hz hs =>
      injection hop with hid
      obtain rfl := huid z hz hid.symm
      refine .inr (.inr ⟨_, _, ?_, closing_markRevoked, rfl, rfl⟩)
      rw [decision, if_neg (not_not.mpr hs)]
    | alreadyClosed z hz hs =>
      injection hop with hid
      obtain rfl := huid z hz hid.symm
      refine .inr (.inl ⟨_, ?_, rfl, rfl⟩)
      rw [decision, if_pos hs]
    | unknown id h =>
      injection hop with hid
      exact absurd hid (h x hx)
    | expired _ z hz htoken =>
      subst hop
      cases htoken
    | refused _ token htoken =>
      subst hop
      cases htoken
    | _ => cases hop

/-- The five steps of a request that nobody disturbs do what the service does, as
far as the invitation is concerned. -/
theorem solo_refines {ι : Type} [DecidableEq ι] (requests : ι → RaceRequest) (i : ι) (env : Env)
    (hx : x ∈ d.invitations) :
    (∃ e, ((requests i).call x).result env d = .error e) ∨
    ∃ a s, ((requests i).call x).result env d = .ok a ∧
      after (step fun i => (requests i).decision) (State.init x) [i, i, i, i, i] = s ∧
      (s.phase i = .answered a ∨ s.phase i = .returned a) ∧
      (((requests i).call x).next env d).invitations.find? (·.id = x.id) = some s.row := by
  have hstart : (State.init x : State ι Invitation (Option Invitation)).phase i = .start := rfl
  obtain he | ⟨a, hdec, hr, hrows⟩ | ⟨f, result, hdec, hf, hr, hrows⟩ :=
    decision_of_effect hx (requests i) (((requests i).call x).effect env d)
  · exact .inl he
  · refine .inr ⟨a, _, hr, solo_answer hstart hdec, .inl (Function.update_self ..), ?_⟩
    rw [hrows, InvitationService.find?_id hx]
    rfl
  · refine .inr ⟨_, _, hr, solo_write hstart hdec, .inr (Function.update_self ..), ?_⟩
    rw [hrows, Rows.find?_modify_self hf.id, InvitationService.find?_id hx]
    rfl

end Solo

/-! ## Agreement -/

section Agreement

variable {ι : Type}

/-- One request closes the invitation, and nobody returns it as accepted when
that was a revocation. -/
structure Agrees (requests : ι → RaceRequest) (s : State ι Invitation (Option Invitation)) :
    Prop where
  oneCloses : ∀ i j, (s.phase i).Moved → (s.phase j).Moved → i = j
  revoked : ∀ i j now userId now' x, requests i = .revoke now → (s.phase i).Moved →
    requests j = .accept userId now' → s.phase j = .returned (some x) → x.status ≠ .accepted
  oneAccepts : ∀ i j userId now userId' now' x y, requests i = .accept userId now →
    requests j = .accept userId' now' → s.phase i = .returned (some x) →
    s.phase j = .returned (some y) → i = j

/-- The other two follow from the first. -/
theorem agrees_of_oneCloses {requests : ι → RaceRequest}
    {s : State ι Invitation (Option Invitation)}
    (h : ∀ i j, (s.phase i).Moved → (s.phase j).Moved → i = j) : Agrees requests s where
  oneCloses := h
  revoked i j now userId now' x hi hm hj hp := by
    have hmj : (s.phase j).Moved := by
      rw [hp]
      trivial
    rw [h i j hm hmj, hj] at hi
    cases hi
  oneAccepts i j userId now userId' now' x y _ _ hpi hpj := by
    refine h i j ?_ ?_
    · rw [hpi]
      trivial
    · rw [hpj]
      trivial

/-- While nobody's clock has passed the expiry, requests write to a pending
invitation only, and it is not pending afterwards. -/
theorem disciplined_decision (requests : ι → RaceRequest) (e : Time)
    (hlive : ∀ i userId now, requests i = .accept userId now → now ≤ e) :
    Disciplined (fun i => (requests i).decision) (fun x => x.expiresAt = e)
      (fun x => x.status = .pending) := by
  have hcases : ∀ i x f result, x.expiresAt = e → (requests i).decision x = .write f result →
      x.status = .pending ∧ ∀ y, (f y).expiresAt = y.expiresAt ∧ (f y).status ≠ .pending := by
    intro i x f result hx hr
    cases hq : requests i with
    | accept userId now =>
      have hexp : ¬x.expiresAt < now := by
        rw [hx]
        exact Int.not_lt.mpr (hlive i userId now hq)
      rw [hq, decision, if_neg hexp] at hr
      split_ifs at hr with hs
      cases hr
      exact ⟨not_not.mp hs, fun y => ⟨rfl, (closing_markAccepted userId now).status y⟩⟩
    | revoke now =>
      rw [hq, decision] at hr
      split_ifs at hr with hs
      cases hr
      exact ⟨not_not.mp hs, fun y => ⟨rfl, closing_markRevoked.status y⟩⟩
  constructor
  · intro i x f result hx hr
    exact (hcases i x f result hx hr).1
  · intro i x f result hx hr y hy
    obtain ⟨hexp, hs⟩ := (hcases i x f result hx hr).2 y
    exact ⟨hexp.trans hy, hs⟩

variable [DecidableEq ι]

/-- Requests agree in every state of a schedule in which nobody reads the
invitation while another request has seen it pending and not committed yet. -/
theorem agrees_of_exclusive (requests : ι → RaceRequest) (x : Invitation)
    (hlive : ∀ i userId now, requests i = .accept userId now → now ≤ x.expiresAt)
    (schedule : List ι)
    (hexcl : Along (step fun i => (requests i).decision) (Exclusive (·.status = .pending))
      (State.init x) schedule) (pre post : List ι) (hpre : schedule = pre ++ post) :
    Agrees requests (after (step fun i => (requests i).decision) (State.init x) pre) := by
  subst hpre
  refine agrees_of_oneCloses fun i j hi hj => ?_
  exact one_writer (disciplined_decision requests x.expiresAt hlive) rfl
    (along_append.mp hexcl).1 i j hi hj

end Agreement

/-- An acceptance and a revocation. -/
def pair : Bool → RaceRequest
  | false => .accept 1 10
  | true => .revoke 10

/-- The acceptance commits before the revocation reads. -/
theorem agrees_pair : Agrees pair (after (step fun i => (pair i).decision)
    (State.init ⟨1, "bob@acme.com", "invitation-1", .pending, 100, none, 1, 1, none, none, 0⟩)
    [false, false, false, false, true, true]) := by
  refine agrees_of_exclusive pair _ ?_ [false, false, false, false, true, true] ?_ _ [] rfl
  · intro i userId now hi
    cases i with
    | false =>
      cases hi
      decide
    | true => cases hi
  · refine ⟨fun _ => id, trivial, trivial, trivial, fun j => ?_, trivial, trivial⟩
    cases j <;> exact id

/-- Both read the pending invitation: it is accepted, and then revoked. -/
theorem pair_not_agrees : ¬Agrees pair (after (step fun i => (pair i).decision)
    (State.init ⟨1, "bob@acme.com", "invitation-1", .pending, 100, none, 1, 1, none, none, 0⟩)
    [false, true, false, true, false, false, false, true, true]) := by
  intro h
  refine h.revoked true false 10 1 10 _ rfl ?_ rfl rfl rfl
  trivial

end RaceRequest
end VirtualStack
