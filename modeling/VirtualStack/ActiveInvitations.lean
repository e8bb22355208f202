import VirtualStack.InvitationLifecycle
import VirtualStack.RbacWrites
import VirtualStack.ReadThenWrite

/-!
# Active invitations of one person to one tenant

`create_invitation` looks for an active invitation and inserts a row when there is
none; the table has no constraint that would refuse a second one. Here any number of
requests of the invitation service overlap. Each reads one invitation of the
committed rows, and later does the rest on the rows that are committed by then.
-/

namespace VirtualStack
open UnitOfWork Runs ReadThenWrite

/-- For an email address and a tenant, nothing is active. -/
def NoneActive (k : String × UUID) (now : Time) (d : Database) : Prop :=
  ∀ x ∈ d.invitations, x.email = k.1 → x.tenantId = k.2 → ¬x.isActive now

/-- For an email address and a tenant, at most one invitation is active. -/
def OneActive (k : String × UUID) (now : Time) (d : Database) : Prop :=
  ∀ x ∈ d.invitations, ∀ y ∈ d.invitations, x.email = k.1 → x.tenantId = k.2 → y.email = k.1 →
    y.tenantId = k.2 → x.isActive now → y.isActive now → x = y

instance (k : String × UUID) (now : Time) (d : Database) : Decidable (OneActive k now d) :=
  inferInstanceAs (Decidable (∀ x ∈ d.invitations, ∀ y ∈ d.invitations, x.email = k.1 →
    x.tenantId = k.2 → y.email = k.1 → y.tenantId = k.2 → x.isActive now → y.isActive now → x = y))

namespace InvitationOp

/-- The invitation that an operation reads first. -/
def load (now : Time) (d : Database) : InvitationOp → Option Invitation
  | create req _ _ => InvitationService.duplicate d req now
  | verify token => d.invitations.find? (·.token = token)
  | accept token _ => d.invitations.find? (·.token = token)
  | revoke invitationId => d.invitations.find? (·.id = invitationId)

/-- `verify_token` with the invitation that it has read. -/
def verifyFound (now : Time) : Option Invitation → Db (Option Invitation)
  | none => pure none
  | some invitation =>
    if invitation.expiresAt < now then do
      InvitationService.setAttributes invitation.id Invitation.markExpired
      commit
      pure none
    else if invitation.status ≠ .pending then pure none
    else pure (some invitation)

/-- What an operation does with the invitation that it has read. -/
def rest (env : Env) (now : Time) (found : Option Invitation) :
    InvitationOp → Db (Option Invitation)
  | create req newId newToken => match found with
    | some existing => pure (some existing)
    | none => do
      let expiresAt ← lift (req.expiresAt now)
      add (·.change (Tables.addInvitation (req.row now newId newToken expiresAt)))
      commit
      let invitation ← CRUDBase.refresh (·.invitations) (·.id) newId
      pure (some invitation)
  | verify _ => verifyFound now found
  | accept _ userId => do
    match ← verifyFound now found with
    | none => pure none
    | some invitation => do
      InvitationService.setAttributes invitation.id (Invitation.markAccepted userId now)
      InvitationService.assignInvitedRole env invitation userId
      commit
      let invitation ← CRUDBase.refresh (·.invitations) (·.id) invitation.id
      pure (some invitation)
  | revoke _ => match found with
    | none => pure none
    | some invitation =>
      if invitation.status ≠ .pending then pure (some invitation)
      else do
        InvitationService.setAttributes invitation.id Invitation.markRevoked
        commit
        let invitation ← CRUDBase.refresh (·.invitations) (·.id) invitation.id
        pure (some invitation)

/-- The committed rows after the second step. -/
def finish (env : Env) (now : Time) (found : Option Invitation) (d : Database)
    (op : InvitationOp) : Database := (serve (op.rest env now found) d).2.committed

/-- The address and the tenant for which an operation is about to insert an
invitation that will be active. -/
def claim : InvitationOp → Option Invitation → Option (String × UUID)
  | create req _ _, none => match req.expiresInDays with
    | some days => if 0 < days then some (req.email, req.tenantId) else none
    | none => none
  | _, _ => none

/-! ## The two steps and the whole call -/

variable {env : Env} {now : Time} {d : Database} {op : InvitationOp}

theorem verifyToken_eq (now : Time) (token : String) :
    InvitationService.verifyToken now token =
      query (fun d => d.invitations.find? (·.token = token)) >>= verifyFound now := by
  refine congrArg (query _ >>= ·) (funext fun found => ?_)
  cases found with
  | none => rfl
  | some x => rfl

/-- A call of the service reads the invitation and does the rest. -/
theorem program_eq (env : Env) (now : Time) (op : InvitationOp) :
    InvitationCall.program env ⟨now, op⟩ =
      query (fun d => op.load now d) >>= fun found => op.rest env now found := by
  cases op with
  | create req newId newToken =>
    change (query _ >>= _) >>= _ = _
    rw [bind_bind]
    refine congrArg (query _ >>= ·) (funext fun found => ?_)
    cases found with
    | none =>
      change (lift _ >>= _) >>= _ = lift _ >>= _
      simp only [bind_bind]
      rfl
    | some x => rfl
  | verify token => exact verifyToken_eq now token
  | accept token userId =>
    change InvitationService.verifyToken now token >>= _ = _
    rw [verifyToken_eq, bind_bind]
    refine congrArg (query _ >>= ·) (funext fun found => ?_)
    refine congrArg (verifyFound now found >>= ·) (funext fun x => ?_)
    cases x with
    | none => rfl
    | some x => rfl
  | revoke invitationId =>
    change InvitationService.get invitationId >>= _ = _
    refine congrArg (InvitationService.get invitationId >>= ·) (funext fun found => ?_)
    cases found with
    | none => rfl
    | some x => rfl

/-- The two steps of a request that nobody disturbs, at one time, are the call of the
service. -/
theorem solo_next {ι : Type} [DecidableEq ι] (env : Env) (requests : ι → InvitationOp) (i : ι)
    (now : Time) (d : Database) :
    (after (step (fun i t d => (requests i).load t d)
      (fun i t found d => (requests i).finish env t found d))
      (State.init d : State ι Database (Option Invitation)) [(i, now), (i, now)]).store =
      InvitationCall.next env ⟨now, requests i⟩ d := by
  rw [solo rfl, InvitationCall.next, program_eq, finish, committed_serve, committed_serve]
  rfl

/-! ## What the second step leaves -/

/-- Every pending invitation was there before. -/
def Closed (rows : List Invitation) (d : Database) : Prop :=
  ∀ x ∈ d.invitations, x.status = .pending → x ∈ rows

theorem keeps_setAttributes_closed {rows : List Invitation} (id : UUID)
    {f : Invitation → Invitation} (hf : Closing f) :
    Keeps (Closed rows) (InvitationService.setAttributes id f) := by
  refine keeps_add fun v v' hv hw x hx hs => ?_
  rw [Database.change_eq_ok_iff.mp hw] at hx
  obtain ⟨y, hy, rfl⟩ := Rows.mem_modify.mp hx
  split_ifs at hs ⊢
  · exact absurd hs (hf.status y)
  · exact hv y hy hs

theorem keeps_verifyFound (rows : List Invitation) (now : Time) (found : Option Invitation) :
    Keeps (Closed rows) (verifyFound now found) := by
  cases found with
  | none => exact keeps_pure none
  | some x =>
    rw [verifyFound]
    split_ifs
    · exact (keeps_setAttributes_closed x.id closing_markExpired).bind fun _ =>
        keeps_commit.bind fun _ => keeps_pure none
    · exact keeps_pure none
    · exact keeps_pure _

theorem keeps_closed_addAssignment (rows : List Invitation) (x : UserTenantRole) :
    Keeps (Closed rows) (add (·.change (Tables.addAssignment x)) : Db Unit) := by
  refine keeps_add fun v v' hv hw => ?_
  rw [Closed, Database.change_eq_ok_iff.mp hw]
  exact hv

/-- Only `create` makes an invitation pending. -/
theorem keeps_rest (rows : List Invitation) (env : Env) (now : Time) (found : Option Invitation)
    (hop : ∀ req newId newToken, op = .create req newId newToken → found ≠ none) :
    Keeps (Closed rows) (op.rest env now found) := by
  cases op with
  | create req newId newToken =>
    cases found with
    | none => exact absurd rfl (hop req newId newToken rfl)
    | some x => exact keeps_pure _
  | verify token => exact keeps_verifyFound rows now found
  | accept token userId =>
    refine (keeps_verifyFound rows now found).bind fun verified => ?_
    cases verified with
    | none => exact keeps_pure none
    | some x =>
      refine (keeps_setAttributes_closed x.id (closing_markAccepted userId now)).bind fun _ => ?_
      refine (keeps_assignInvitedRole fun roleId _ => keeps_assignRole_of_add
        (keeps_closed_addAssignment rows _) false).bind fun _ => ?_
      exact keeps_commit.bind fun _ => (keeps_refresh _ _ x.id).bind fun _ => keeps_pure _
  | revoke invitationId =>
    cases found with
    | none => exact keeps_pure none
    | some x =>
      rw [rest]
      split_ifs
      · exact keeps_pure _
      · exact (keeps_setAttributes_closed x.id closing_markRevoked).bind fun _ =>
          keeps_commit.bind fun _ => (keeps_refresh _ _ x.id).bind fun _ => keeps_pure _

/-- A `create` that found nothing inserts its row, or nothing. -/
theorem finish_create (env : Env) (now : Time) (d : Database) (req : InvitationRequest)
    (newId : UUID) (newToken : String) :
    (create req newId newToken).finish env now none d = d ∨
      ∃ e, req.expiresAt now = .ok e ∧
        ((create req newId newToken).finish env now none d).toTables =
          d.addInvitation (req.row now newId newToken e) := by
  rw [finish, committed_serve, rest]
  cases he : req.expiresAt now with
  | error e => exact .inl rfl
  | ok e =>
    rw [run_bind_ok (run_lift _ _), run_bind_ok (add_clean d d _)]
    by_cases hv : (d.addInvitation (req.row now newId newToken e)).Valid
    · refine .inr ⟨e, rfl, ?_⟩
      have hf : (d.addInvitation (req.row now newId newToken e)).invitations.find?
          (·.id = newId) = some (req.row now newId newToken e) :=
        (Rows.find?_key_eq_some hv.keys.invitationsId).mpr
          ⟨List.mem_append_right _ (List.mem_singleton.mpr rfl), rfl⟩
      rw [run_bind_ok (commit_one_ok d d (Database.change_eq_ok hv)),
        run_bind_ok (CRUDBase.returns_refresh _ _ ⟨_, hv⟩ newId hf _), run_pure]
    · left
      rw [run_bind_error (commit_one_error d d (Database.change_eq_error hv))]

/-- The second step adds at most the row of a `create` that found nothing. -/
theorem finish_cases (env : Env) (now : Time) (found : Option Invitation) (d : Database)
    (op : InvitationOp) : Closed d.invitations (op.finish env now found d) ∨
      ∃ req newId newToken e, op = .create req newId newToken ∧ found = none ∧
        req.expiresAt now = .ok e ∧
        (op.finish env now found d).invitations =
          d.invitations ++ [req.row now newId newToken e] := by
  by_cases hop : ∀ req newId newToken, op = .create req newId newToken → found ≠ none
  · left
    have hd : Closed d.invitations d := fun x hx _ => hx
    rw [finish, committed_serve]
    exact (keeps_rest d.invitations env now found hop (.start d)
      (Session.inv_clean hd hd)).committed
  · simp only [not_forall, not_not] at hop
    obtain ⟨req, newId, newToken, rfl, rfl⟩ := hop
    obtain hsame | ⟨e, he, hrows⟩ := finish_create env now d req newId newToken
    · left
      rw [hsame]
      exact fun x hx _ => hx
    · exact .inr ⟨req, newId, newToken, e, rfl, rfl, he, by rw [hrows]; rfl⟩

theorem isActive_earlier {x : Invitation} {t t' : Time} (ht : t ≤ t') (h : x.isActive t') :
    x.isActive t := by
  obtain ⟨hs, he⟩ := of_decide_eq_true h
  exact decide_eq_true ⟨hs, Int.lt_of_le_of_lt ht he⟩

/-- Whoever inserts an invitation that is active has claimed its address and tenant. -/
theorem claim_of_isActive {req : InvitationRequest} {newId : UUID} {newToken : String} {e : Time}
    (he : req.expiresAt now = .ok e) (ha : (req.row now newId newToken e).isActive now) :
    (create req newId newToken).claim none = some (req.email, req.tenantId) := by
  have hlt : now < e := (of_decide_eq_true ha).2
  rw [InvitationRequest.expiresAt] at he
  rw [claim]
  cases hd : req.expiresInDays with
  | none =>
    rw [hd] at he
    cases he
  | some days =>
    rw [hd] at he
    dsimp only [addDays] at he ⊢
    split_ifs at he
    cases he
    have hpos : 0 < days := by
      by_contra hneg
      have hle : days * microsecondsPerDay ≤ 0 :=
        Int.mul_nonpos_of_nonpos_of_nonneg (Int.not_lt.mp hneg) (by decide)
      exact absurd hlt (Int.not_lt.mpr (by simpa using Int.add_le_add_left hle now))
    rw [if_pos hpos]

theorem claim_eq_some {found : Option Invitation} {k : String × UUID}
    (h : op.claim found = some k) :
    ∃ req newId newToken, op = .create req newId newToken ∧ found = none ∧
      k = (req.email, req.tenantId) := by
  cases op with
  | create req newId newToken =>
    cases found with
    | some x => cases h
    | none =>
      refine ⟨req, newId, newToken, rfl, rfl, ?_⟩
      rw [claim] at h
      cases hd : req.expiresInDays with
      | none => rw [hd] at h; cases h
      | some days =>
        rw [hd] at h
        dsimp only at h
        split_ifs at h
        exact (Option.some.inj h).symm
  | verify | accept | revoke => cases h

/-- What is active after the second step was there before, or is the one row that
was inserted for a claim. -/
theorem active_finish (env : Env) (now : Time) (found : Option Invitation) (d : Database)
    (op : InvitationOp) : ∃ new, ∀ x ∈ (op.finish env now found d).invitations, x.isActive now →
      x ∈ d.invitations ∨ new = some x ∧ op.claim found = some (x.email, x.tenantId) := by
  obtain hclosed | ⟨req, newId, newToken, e, rfl, rfl, he, hrows⟩ :=
    finish_cases env now found d op
  · exact ⟨none, fun x hx ha => .inl (hclosed x hx (of_decide_eq_true ha).1)⟩
  · refine ⟨some (req.row now newId newToken e), fun x hx ha => ?_⟩
    rw [hrows, List.mem_append, List.mem_singleton] at hx
    obtain hold | rfl := hx
    · exact .inl hold
    · exact .inr ⟨rfl, claim_of_isActive he ha⟩

theorem disciplined {ι : Type} (env : Env) (requests : ι → InvitationOp) :
    Disciplined (fun i t d => (requests i).load t d)
      (fun i t found d => (requests i).finish env t found d) (fun i => (requests i).claim)
      NoneActive OneActive where
  laterFree k t t' d ht h x hx he hten ha := h x hx he hten (isActive_earlier ht ha)
  laterOne k t t' d ht h x hx y hy hxe hxt hye hyt hxa hya :=
    h x hx y hy hxe hxt hye hyt (isActive_earlier ht hxa) (isActive_earlier ht hya)
  claims i t d k hc := by
    obtain ⟨req, newId, newToken, hop, hfound, rfl⟩ := claim_eq_some hc
    rw [hop, load, InvitationService.duplicate, List.find?_eq_none] at hfound
    intro x hx he hten ha
    exact hfound x hx (decide_eq_true ⟨he, hten, ha⟩)
  keepsFree i t found d k hc h x hx he hten ha := by
    obtain ⟨new, hnew⟩ := active_finish env t found d (requests i)
    obtain hold | ⟨-, hclaim⟩ := hnew x hx ha
    · exact h x hold he hten ha
    · exact hc (by rw [hclaim, he, hten])
  keepsOne i t found d k hc h x hx y hy hxe hxt hye hyt hxa hya := by
    obtain ⟨new, hnew⟩ := active_finish env t found d (requests i)
    obtain hx | ⟨-, hclaim⟩ := hnew x hx hxa
    · obtain hy | ⟨-, hclaim⟩ := hnew y hy hya
      · exact h x hx y hy hxe hxt hye hyt hxa hya
      · exact absurd (by rw [hclaim, hye, hyt]) hc
    · exact absurd (by rw [hclaim, hxe, hxt]) hc
  writes i t found d k _ h x hx y hy hxe hxt hye hyt hxa hya := by
    obtain ⟨new, hnew⟩ := active_finish env t found d (requests i)
    obtain hx | ⟨hxnew, -⟩ := hnew x hx hxa
    · exact absurd hxa (h x hx hxe hxt)
    · obtain hy | ⟨hynew, -⟩ := hnew y hy hya
      · exact absurd hya (h y hy hye hyt)
      · exact Option.some.inj (hxnew.symm.trans hynew)

/-! ## Runs -/

/-- The committed rows and the requests after the given steps. -/
def overlap {ι : Type} [DecidableEq ι] (env : Env) (requests : ι → InvitationOp) (d : Database)
    (steps : List (ι × Time)) : State ι Database (Option Invitation) :=
  after (step (fun i t d => (requests i).load t d)
    (fun i t found d => (requests i).finish env t found d)) (State.init d) steps

/-- No request finds that an address has no active invitation to a tenant, to insert
one, while another that found the same has not committed. -/
def Exclusively {ι : Type} [DecidableEq ι] (env : Env) (requests : ι → InvitationOp)
    (d : Database) (steps : List (ι × Time)) : Prop :=
  Along (step (fun i t d => (requests i).load t d)
    (fun i t found d => (requests i).finish env t found d))
    (Exclusive (fun i t d => (requests i).load t d) fun i => (requests i).claim)
    (State.init d) steps

/-- In every state that such a run reaches, and from then on, at most one invitation
for each address and tenant is active. -/
theorem oneActive_of_exclusively {ι : Type} [DecidableEq ι] (env : Env)
    (requests : ι → InvitationOp) (d : Database) (t : Time) (hd : ∀ k, OneActive k t d)
    (steps : List (ι × Time)) (hsorted : steps.Pairwise fun x y => x.2 ≤ y.2)
    (hfrom : ∀ x ∈ steps, t ≤ x.2) (hexcl : Exclusively env requests d steps)
    (pre post : List (ι × Time)) (hpre : steps = pre ++ post) (now : Time) (ht : t ≤ now)
    (hnow : ∀ x ∈ pre, x.2 ≤ now) (k : String × UUID) :
    OneActive k now (overlap env requests d pre).store := by
  subst hpre
  exact one_of_exclusive (disciplined env requests) hd (along_append.mp hexcl).1
    (List.pairwise_append.mp hsorted).1 (fun x hx => hfrom x (List.mem_append_left _ hx)) hnow ht k

theorem oneActive_sample (k : String × UUID) : OneActive k 0 Database.sample := by
  intro x hx y hy _ _ _ _ _ _
  exact (List.mem_singleton.mp hx).trans (List.mem_singleton.mp hy).symm

/-- Two requests to invite somebody to the first tenant. -/
def invite (first second : String) : Bool → InvitationOp
  | false => .create ⟨first, 1, 1, none, some 7⟩ 2 "invitation-2"
  | true => .create ⟨second, 1, 1, none, some 7⟩ 3 "invitation-3"

/-- Requests for different people do not get in each other's way. -/
theorem exclusively_invite {first second : String} (hne : first ≠ second) (env : Env)
    (d : Database) (steps : List (Bool × Time)) :
    Exclusively env (invite first second) d steps := by
  refine along_iff.mpr fun pre x post _ hp k hc j a hj hc' => ?_
  obtain ⟨req, newId, newToken, hop, -, rfl⟩ := claim_eq_some hc
  obtain ⟨req', newId', newToken', hop', -, hk⟩ := claim_eq_some hc'
  have hemail : req.email = req'.email := (Prod.mk.inj hk).1
  obtain ⟨i, t⟩ := x
  cases i <;> cases j <;> cases hop <;> cases hop'
  · rw [hp] at hj
    cases hj
  · exact hne hemail
  · exact hne hemail.symm
  · rw [hp] at hj
    cases hj

theorem oneActive_invite : OneActive ("carol@acme.com", 1) 3 (overlap Env.sample
    (invite "carol@acme.com" "dave@acme.com") Database.sample
    [(false, 0), (true, 1), (false, 2), (true, 3)]).store :=
  oneActive_of_exclusively Env.sample _ Database.sample 0 oneActive_sample
    [(false, 0), (true, 1), (false, 2), (true, 3)] (by decide) (by decide)
    (exclusively_invite (by decide) _ _ _) _ [] (List.append_nil _).symm 3 (by decide) (by decide) _

/-- Both requests to invite Carol find no invitation of hers, and both insert one. -/
theorem invited_twice : (∀ k, OneActive k 0 Database.sample) ∧
    ¬OneActive ("carol@acme.com", 1) 1 (overlap Env.sample
      (invite "carol@acme.com" "carol@acme.com") Database.sample
      [(false, 0), (true, 0), (false, 1), (true, 1)]).store :=
  ⟨oneActive_sample, by decide⟩

end InvitationOp
end VirtualStack
