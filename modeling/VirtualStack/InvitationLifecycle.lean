import Mathlib.Data.Int.Order.Basic
import VirtualStack.Runs
import VirtualStack.Services.Invitation

/-!
# The life of an invitation

Runs of the four operations of the invitation service, each in a session of its
own. `Effect` says what one call can do to the table of invitations; everything
about runs is derived from it.
-/

namespace VirtualStack
open UnitOfWork Runs
open InvitationService (Live)

/-- An operation with its arguments. -/
inductive InvitationOp where
  | create (req : InvitationRequest) (newId : UUID) (newToken : String)
  | verify (token : String)
  | accept (token : String) (userId : UUID)
  | revoke (invitationId : UUID)
  deriving DecidableEq, Repr

/-- The token that an operation presents. -/
def InvitationOp.token? : InvitationOp → Option String
  | create .. => none
  | verify token => some token
  | accept token _ => some token
  | revoke _ => none

structure InvitationCall where
  time : Time
  op : InvitationOp
  deriving DecidableEq, Repr

namespace InvitationCall

variable (env : Env) (call : InvitationCall) (d : Database)

/-- What the service runs, and the invitation that it returns. -/
def program : Db (Option Invitation) :=
  match call.op with
  | .create req newId newToken => do
    let (x, _) ← InvitationService.createInvitation req call.time newId newToken
    pure (some x)
  | .verify token => InvitationService.verifyToken call.time token
  | .accept token userId => InvitationService.acceptInvitation env call.time token userId
  | .revoke id => InvitationService.revokeInvitation id

def result : Except Exc (Option Invitation) := (serve (call.program env) d).1

/-- The stored rows afterwards. -/
def next : Database := (serve (call.program env) d).2.committed

end InvitationCall

/-- What a call at the time `now` can return, and leave in the table. -/
inductive Effect (now : Time) (d : Database) :
    InvitationOp → Except Exc (Option Invitation) → List Invitation → Prop
  | notCreated (req newId newToken e) :
    Effect now d (.create req newId newToken) (.error e) d.invitations
  | created (req : InvitationRequest) (newId newToken e) (hid : newId ∉ d.invitations.map (·.id))
    (htoken : newToken ∉ d.invitations.map (·.token)) :
    Effect now d (.create req newId newToken) (.ok (some (req.row now newId newToken e)))
      (d.invitations ++ [req.row now newId newToken e])
  | found (req newId newToken x) :
    Effect now d (.create req newId newToken) (.ok (some x)) d.invitations
  | expired (op : InvitationOp) (x) (hx : x ∈ d.invitations) (hop : op.token? = some x.token)
    (he : x.expiresAt < now) :
    Effect now d op (.ok none) (Rows.modify (·.id) x.id Invitation.markExpired d.invitations)
  | refused (op : InvitationOp) (token) (hop : op.token? = some token)
    (h : ∀ x ∈ d.invitations, x.token = token → ¬Live now x ∧ now ≤ x.expiresAt) :
    Effect now d op (.ok none) d.invitations
  | verified (x) (hx : x ∈ d.invitations) (hl : Live now x) :
    Effect now d (.verify x.token) (.ok (some x)) d.invitations
  | notAccepted (x userId e) (hx : x ∈ d.invitations) (hl : Live now x) :
    Effect now d (.accept x.token userId) (.error e) d.invitations
  | accepted (x userId) (hx : x ∈ d.invitations) (hl : Live now x) :
    Effect now d (.accept x.token userId) (.ok (some (x.markAccepted userId now)))
      (Rows.modify (·.id) x.id (Invitation.markAccepted userId now) d.invitations)
  | revoked (x) (hx : x ∈ d.invitations) (hs : x.status = .pending) :
    Effect now d (.revoke x.id) (.ok (some x.markRevoked))
      (Rows.modify (·.id) x.id Invitation.markRevoked d.invitations)
  | alreadyClosed (x) (hx : x ∈ d.invitations) (hs : x.status ≠ .pending) :
    Effect now d (.revoke x.id) (.ok (some x)) d.invitations
  | unknown (id) (h : ∀ x ∈ d.invitations, x.id ≠ id) :
    Effect now d (.revoke id) (.ok none) d.invitations

namespace InvitationCall

variable (env : Env) (now : Time) (d : Database)

theorem effect_of_serve (call : InvitationCall) {r : Except Exc (Option Invitation)}
    {s : Session Database Exc} (hs : serve (call.program env) d = (r, s))
    (he : Effect call.time d call.op r s.committed.invitations) :
    Effect call.time d call.op (call.result env d) (call.next env d).invitations := by
  rw [result, next, hs]
  exact he

theorem effect_create (req : InvitationRequest) (newId : UUID) (newToken : String) :
    Effect now d (.create req newId newToken) (result env ⟨now, .create req newId newToken⟩ d)
      (next env ⟨now, .create req newId newToken⟩ d).invitations := by
  by_cases hc : InvitationService.Creatable d req now newId newToken
  · cases hdup : InvitationService.duplicate d req now with
    | some x =>
      refine effect_of_serve env d ⟨now, _⟩ (Returns.serve
        ((InvitationService.createInvitation_duplicate hdup).bind (returns_pure (some x) d))) ?_
      exact .found req newId newToken x
    | none =>
      obtain ⟨x, hx⟩ | ⟨e, he, hv⟩ := hc
      · rw [hdup] at hx
        cases hx
      · have hrun := InvitationService.createInvitation_new hdup he hv d
        refine effect_of_serve env d ⟨now, _⟩ (serve_of_ok (run_bind_ok hrun _)) ?_
        have hid := hv.keys.invitationsId
        have htoken := hv.keys.invitationsToken
        simp only [Tables.addInvitation, List.map_append, List.map_singleton] at hid htoken
        exact .created req newId newToken e
          (fun hm => (List.nodup_append.mp hid).2.2 _ hm _ (List.mem_singleton.mpr rfl) rfl)
          (fun hm => (List.nodup_append.mp htoken).2.2 _ hm _ (List.mem_singleton.mpr rfl) rfl)
  · obtain ⟨e, he⟩ := ((InvitationService.fails_createInvitation hc).bind fun x =>
      pure (some x.1)).serve
    exact effect_of_serve env d ⟨now, _⟩ he (.notCreated req newId newToken e)

variable {d} in
/-- A closed invitation is the only one with its token. -/
theorem refused_of_closed {x : Invitation} (hx : x ∈ d.invitations) (he : ¬x.expiresAt < now)
    (hs : x.status ≠ .pending) :
    ∀ y ∈ d.invitations, y.token = x.token → ¬Live now y ∧ now ≤ y.expiresAt := by
  intro y hy htoken
  obtain rfl := Rows.eq_of_key_eq d.valid.keys.invitationsToken hy hx htoken
  exact ⟨fun hl => hs hl.1, Int.not_lt.mp he⟩

theorem effect_verify (token : String) :
    Effect now d (.verify token) (result env ⟨now, .verify token⟩ d)
      (next env ⟨now, .verify token⟩ d).invitations := by
  obtain hu | ⟨x, hx, rfl, he | ⟨he, hs⟩ | hl⟩ := InvitationService.token_cases now d token
  · exact effect_of_serve env d ⟨now, _⟩ (InvitationService.verifyToken_unknown hu).serve
      (.refused _ token rfl fun x hx htoken => absurd htoken (hu x hx))
  · exact effect_of_serve env d ⟨now, _⟩ (serve_of_ok
      (InvitationService.verifyToken_expired hx he d)) (.expired _ x hx rfl he)
  · exact effect_of_serve env d ⟨now, _⟩ (InvitationService.verifyToken_closed hx he hs).serve
      (.refused _ x.token rfl (refused_of_closed now hx he hs))
  · exact effect_of_serve env d ⟨now, _⟩ (InvitationService.verifyToken_live hx hl).serve
      (.verified x hx hl)

theorem effect_accept (token : String) (userId : UUID) :
    Effect now d (.accept token userId) (result env ⟨now, .accept token userId⟩ d)
      (next env ⟨now, .accept token userId⟩ d).invitations := by
  obtain hu | ⟨x, hx, rfl, he | ⟨he, hs⟩ | hl⟩ := InvitationService.token_cases now d token
  · exact effect_of_serve env d ⟨now, _⟩ (InvitationService.acceptInvitation_unknown hu).serve
      (.refused _ token rfl fun x hx htoken => absurd htoken (hu x hx))
  · exact effect_of_serve env d ⟨now, _⟩ (serve_of_ok
      (InvitationService.acceptInvitation_expired hx he d)) (.expired _ x hx rfl he)
  · exact effect_of_serve env d ⟨now, _⟩ (InvitationService.acceptInvitation_closed hx he hs).serve
      (.refused _ x.token rfl (refused_of_closed now hx he hs))
  · obtain ⟨e, s, hrun, hc⟩ | ⟨d', hrun, hd'⟩ :=
      InvitationService.acceptInvitation_live env userId hx hl d
    · refine effect_of_serve env d ⟨now, _⟩ (serve_of_error hrun) ?_
      rw [hc]
      exact .notAccepted x userId e hx hl
    · refine effect_of_serve env d ⟨now, _⟩ (serve_of_ok hrun) ?_
      rw [hd']
      exact .accepted x userId hx hl

theorem effect_revoke (id : UUID) :
    Effect now d (.revoke id) (result env ⟨now, .revoke id⟩ d)
      (next env ⟨now, .revoke id⟩ d).invitations := by
  by_cases hx : ∃ x ∈ d.invitations, x.id = id
  · obtain ⟨x, hx, rfl⟩ := hx
    by_cases hs : x.status = .pending
    · exact effect_of_serve env d ⟨now, _⟩ (serve_of_ok
        (InvitationService.revokeInvitation_pending hx hs d)) (.revoked x hx hs)
    · exact effect_of_serve env d ⟨now, _⟩ (InvitationService.revokeInvitation_closed hx hs).serve
        (.alreadyClosed x hx hs)
  · have hu : ∀ x ∈ d.invitations, x.id ≠ id := fun x hm hid => hx ⟨x, hm, hid⟩
    exact effect_of_serve env d ⟨now, _⟩ (InvitationService.revokeInvitation_unknown hu).serve
      (.unknown id hu)

/-- What every call does. -/
theorem effect (call : InvitationCall) :
    Effect call.time d call.op (call.result env d) (call.next env d).invitations := by
  obtain ⟨now, op⟩ := call
  cases op with
  | create req newId newToken => exact effect_create env now d req newId newToken
  | verify token => exact effect_verify env now d token
  | accept token userId => exact effect_accept env now d token userId
  | revoke id => exact effect_revoke env now d id

end InvitationCall

/-! ## Tokens are used once -/

section SingleUse

variable {now now' : Time} {d : Database} {op : InvitationOp} {rows : List Invitation}
  {r : Except Exc (Option Invitation)} {id : UUID} {token : String} {x : Invitation}

/-- The invitation is there, and its token cannot be used any more. -/
def Dead (id : UUID) (token : String) (now : Time) (rows : List Invitation) : Prop :=
  (∃ x ∈ rows, x.id = id ∧ x.token = token) ∧ ∀ x ∈ rows, x.token = token → ¬Live now x

/-- The calls after which a token is to be dead. -/
def Closes (x : Invitation) (op : InvitationOp) (r : Except Exc (Option Invitation)) : Prop :=
  (op = .verify x.token ∧ r = .ok none) ∨
    (∃ userId y, op = .accept x.token userId ∧ r = .ok (some y)) ∨
    ∃ y, op = .revoke x.id ∧ r = .ok (some y)

/-- An update that closes an invitation and leaves its keys alone. -/
structure Closing (f : Invitation → Invitation) : Prop where
  id : ∀ x, (f x).id = x.id
  token : ∀ x, (f x).token = x.token
  status : ∀ x, (f x).status ≠ .pending

theorem closing_markExpired : Closing Invitation.markExpired :=
  ⟨fun _ => rfl, fun _ => rfl, fun _ => InvitationStatus.noConfusion⟩

theorem closing_markRevoked : Closing Invitation.markRevoked :=
  ⟨fun _ => rfl, fun _ => rfl, fun _ => InvitationStatus.noConfusion⟩

theorem closing_markAccepted (userId : UUID) (now : Time) :
    Closing (Invitation.markAccepted userId now) :=
  ⟨fun _ => rfl, fun _ => rfl, fun _ => InvitationStatus.noConfusion⟩

/-- Time does not revive a token: it only makes invitations expire. -/
theorem Dead.later (h : Dead id token now rows) (hle : now ≤ now') : Dead id token now' rows :=
  ⟨h.1, fun x hx htoken hl => h.2 x hx htoken ⟨hl.1, Int.le_trans hle hl.2⟩⟩

theorem Dead.modify {f : Invitation → Invitation} (h : Dead id token now rows) (hf : Closing f)
    (k : UUID) : Dead id token now (Rows.modify (·.id) k f rows) := by
  obtain ⟨⟨x, hx, hxid, hxt⟩, hdead⟩ := h
  constructor
  · refine ⟨if x.id = k then f x else x, Rows.mem_modify.mpr ⟨x, hx, rfl⟩, ?_⟩
    split_ifs
    · exact ⟨(hf.id x).trans hxid, (hf.token x).trans hxt⟩
    · exact ⟨hxid, hxt⟩
  · intro y hy hyt
    obtain ⟨z, hz, rfl⟩ := Rows.mem_modify.mp hy
    split_ifs at hyt ⊢
    · exact fun hl => hf.status z hl.1
    · exact hdead z hz hyt

/-- Closing a row kills its own token. -/
theorem dead_modify {f : Invitation → Invitation} (hx : x ∈ d.invitations) (hf : Closing f) :
    Dead x.id x.token now (Rows.modify (·.id) x.id f d.invitations) := by
  constructor
  · exact ⟨f x, Rows.mem_modify.mpr ⟨x, hx, by rw [if_pos rfl]⟩, hf.id x, hf.token x⟩
  · intro y hy hyt
    obtain ⟨z, hz, rfl⟩ := Rows.mem_modify.mp hy
    split_ifs at hyt ⊢ with hk
    · exact fun hl => hf.status z hl.1
    · exact absurd (congrArg Invitation.id
        (Rows.eq_of_key_eq d.valid.keys.invitationsToken hz hx hyt)) hk

/-- A row that is not live is the only one with its token. -/
theorem dead_of_not_live (hx : x ∈ d.invitations) (hl : ¬Live now x) :
    Dead x.id x.token now d.invitations := by
  refine ⟨⟨x, hx, rfl, rfl⟩, fun y hy hyt => ?_⟩
  obtain rfl := Rows.eq_of_key_eq d.valid.keys.invitationsToken hy hx hyt
  exact hl

/-- One call does not revive a token. -/
theorem Dead.effect (h : Dead id token now d.invitations) (he : Effect now d op r rows) :
    Dead id token now rows := by
  cases he with
  | notCreated => exact h
  | created req newId newToken e hid htoken =>
    obtain ⟨⟨x, hx, hxid, hxt⟩, hdead⟩ := h
    refine ⟨⟨x, List.mem_append_left _ hx, hxid, hxt⟩, fun y hy hyt => ?_⟩
    rcases List.mem_append.mp hy with hy | hy
    · exact hdead y hy hyt
    · obtain rfl := List.mem_singleton.mp hy
      exact absurd (List.mem_map.mpr ⟨x, hx, hxt.trans hyt.symm⟩) htoken
  | found => exact h
  | expired _ x => exact h.modify closing_markExpired x.id
  | refused => exact h
  | verified => exact h
  | notAccepted => exact h
  | accepted x userId => exact h.modify (closing_markAccepted userId now) x.id
  | revoked x => exact h.modify closing_markRevoked x.id
  | alreadyClosed => exact h
  | unknown => exact h

/-- With a dead token nothing is verified and nothing accepted. -/
theorem Dead.result (h : Dead id token now d.invitations) (he : Effect now d op r rows)
    (hop : op.token? = some token) : r = .ok none := by
  cases he with
  | notCreated => cases hop
  | created => cases hop
  | found => cases hop
  | expired => rfl
  | refused => rfl
  | verified x hx hl =>
    cases hop
    exact absurd hl (h.2 x hx rfl)
  | notAccepted x userId e hx hl =>
    cases hop
    exact absurd hl (h.2 x hx rfl)
  | accepted x userId hx hl =>
    cases hop
    exact absurd hl (h.2 x hx rfl)
  | revoked => cases hop
  | alreadyClosed => cases hop
  | unknown => cases hop

/-- After a call that closes an invitation its token is dead. -/
theorem Closes.dead (hc : Closes x op r) (hx : x ∈ d.invitations) (he : Effect now d op r rows) :
    Dead x.id x.token now rows := by
  have huniq : ∀ y ∈ d.invitations, y.token = x.token → y = x :=
    fun y hy => Rows.eq_of_key_eq d.valid.keys.invitationsToken hy hx
  have huid : ∀ y ∈ d.invitations, y.id = x.id → y = x :=
    fun y hy => Rows.eq_of_key_eq d.valid.keys.invitationsId hy hx
  obtain ⟨rfl, rfl⟩ | ⟨userId, y, rfl, rfl⟩ | ⟨y, rfl, rfl⟩ := hc
  · generalize hop : InvitationOp.verify x.token = op at he
    generalize hr : (Except.ok none : Except Exc (Option Invitation)) = r at he
    cases he with
    | expired _ z hz htoken =>
      subst hop
      obtain rfl := huniq z hz (Option.some.inj htoken).symm
      exact dead_modify hz closing_markExpired
    | refused _ token htoken h =>
      subst hop
      cases htoken
      exact dead_of_not_live hx (h x hx rfl).1
    | verified => cases hr
    | _ => cases hop
  · generalize hop : InvitationOp.accept x.token userId = op at he
    generalize hr : Except.ok (some y) = r at he
    cases he with
    | accepted z u hz hl =>
      injection hop with htoken
      obtain rfl := huniq z hz htoken.symm
      exact dead_modify hz (closing_markAccepted u now)
    | notAccepted => cases hr
    | expired => cases hr
    | refused => cases hr
    | _ => cases hop
  · generalize hop : InvitationOp.revoke x.id = op at he
    generalize hr : Except.ok (some y) = r at he
    cases he with
    | revoked z hz hs =>
      injection hop with hid
      obtain rfl := huid z hz hid.symm
      exact dead_modify hz closing_markRevoked
    | alreadyClosed z hz hs =>
      injection hop with hid
      obtain rfl := huid z hz hid.symm
      exact dead_of_not_live hz fun hl => hs hl.1
    | expired => cases hr
    | refused => cases hr
    | unknown => cases hr
    | _ => cases hop

/-- The columns `user_id` and `accepted_at` of the invitation change. -/
def Writes (id : UUID) (rows rows' : List Invitation) : Prop :=
  ∃ x ∈ rows, ∃ y ∈ rows', x.id = id ∧ y.id = id ∧
    (y.userId ≠ x.userId ∨ y.acceptedAt ≠ x.acceptedAt)

theorem not_writes_self (id : UUID) (d : Database) : ¬Writes id d.invitations d.invitations := by
  rintro ⟨x, hx, y, hy, hxid, hyid, hne⟩
  obtain rfl := Rows.eq_of_key_eq d.valid.keys.invitationsId hx hy (hxid.trans hyid.symm)
  exact hne.elim (· rfl) (· rfl)

/-- An update of other columns, or of another invitation. -/
theorem not_writes_modify {f : Invitation → Invitation} {k : UUID} (hf : Closing f)
    (hsame : ∀ z : Invitation, z.id = id → z.id = k →
      (f z).userId = z.userId ∧ (f z).acceptedAt = z.acceptedAt) :
    ¬Writes id d.invitations (Rows.modify (·.id) k f d.invitations) := by
  rintro ⟨x, hx, y, hy, hxid, hyid, hne⟩
  obtain ⟨z, hz, rfl⟩ := Rows.mem_modify.mp hy
  have hzid : z.id = id := by
    split_ifs at hyid
    · exact (hf.id z).symm.trans hyid
    · exact hyid
  obtain rfl := Rows.eq_of_key_eq d.valid.keys.invitationsId hx hz (hxid.trans hzid.symm)
  split_ifs at hne with hk
  · obtain ⟨huser, hat⟩ := hsame x hxid hk
    exact hne.elim (· huser) (· hat)
  · exact hne.elim (· rfl) (· rfl)

/-- The two columns are written by a successful acceptance only. -/
theorem accepts_of_writes (he : Effect now d op r rows) (hw : Writes id d.invitations rows) :
    ∃ x ∈ d.invitations, x.id = id ∧
      ∃ userId y, op = .accept x.token userId ∧ r = .ok (some y) := by
  cases he with
  | created req newId newToken e hid htoken =>
    obtain ⟨x, hx, y, hy, hxid, hyid, hne⟩ := hw
    rcases List.mem_append.mp hy with hy | hy
    · exact absurd ⟨x, hx, y, hy, hxid, hyid, hne⟩ (not_writes_self id d)
    · obtain rfl := List.mem_singleton.mp hy
      exact absurd (List.mem_map.mpr ⟨x, hx, hxid.trans hyid.symm⟩) hid
  | expired _ x =>
    exact absurd hw (not_writes_modify closing_markExpired fun _ _ _ => ⟨rfl, rfl⟩)
  | accepted x userId hx hl =>
    refine ⟨x, hx, ?_, userId, _, rfl, rfl⟩
    by_contra hne
    exact not_writes_modify (closing_markAccepted userId now)
      (fun z hzid hzk => absurd (hzk.symm.trans hzid) hne) hw
  | revoked x =>
    exact absurd hw (not_writes_modify closing_markRevoked fun _ _ _ => ⟨rfl, rfl⟩)
  | _ => exact absurd hw (not_writes_self id d)

end SingleUse

namespace InvitationCall

variable (env : Env) (d : Database) (calls : List InvitationCall)

/-- The call is a successful acceptance of the token. -/
def Accepts (token : String) (call : InvitationCall) (d : Database) : Prop :=
  ∃ userId y, call.op = .accept token userId ∧ call.result env d = .ok (some y)

/-- For every two calls of a run, in their order. -/
structure SingleUse : Prop where
  dead : ∀ c₁ d₁ c₂ d₂, Ordered (next env) d calls c₁ d₁ c₂ d₂ → ∀ x ∈ d₁.invitations,
    Closes x c₁.op (c₁.result env d₁) → c₂.op.token? = some x.token → c₂.result env d₂ = .ok none
  acceptedOnce : ∀ c₁ d₁ c₂ d₂, Ordered (next env) d calls c₁ d₁ c₂ d₂ →
    ∀ token, ¬(c₁.Accepts env token d₁ ∧ c₂.Accepts env token d₂)
  writtenOnce : ∀ c₁ d₁ c₂ d₂, Ordered (next env) d calls c₁ d₁ c₂ d₂ →
    ∀ id, ¬(Writes id d₁.invitations (c₁.next env d₁).invitations ∧
      Writes id d₂.invitations (c₂.next env d₂).invitations)

variable {env d calls} {c₁ c₂ : InvitationCall} {d₁ d₂ : Database} {x : Invitation}

/-- Death is for the rest of the run. -/
theorem dead_of_ordered (ho : Ordered (next env) d calls c₁ d₁ c₂ d₂)
    (hsorted : calls.Pairwise fun a b => a.time ≤ b.time) (hx : x ∈ d₁.invitations)
    (hc : Closes x c₁.op (c₁.result env d₁)) : Dead x.id x.token c₂.time d₂.invitations := by
  refine ho.clock InvitationCall.time (fun t d => Dead x.id x.token t d.invitations)
    ?_ ?_ hsorted ?_
  · intro t t' s hle h
    exact h.later hle
  · intro c s h
    exact h.effect (effect env s c)
  · exact hc.dead hx (effect env d₁ c₁)

/-- A token that was accepted belongs to a stored invitation. -/
theorem Accepts.exists_mem {token : String} (h : c₁.Accepts env token d₁) :
    ∃ x ∈ d₁.invitations, x.token = token := by
  obtain ⟨userId, y, hop, hr⟩ := h
  have he := effect env d₁ c₁
  rw [hop, hr] at he
  generalize (c₁.next env d₁).invitations = rows at he
  cases he with
  | accepted x userId hx hl => exact ⟨x, hx, rfl⟩

theorem not_accepts_twice (ho : Ordered (next env) d calls c₁ d₁ c₂ d₂)
    (hsorted : calls.Pairwise fun a b => a.time ≤ b.time) (token : String) :
    ¬(c₁.Accepts env token d₁ ∧ c₂.Accepts env token d₂) := by
  rintro ⟨h₁, h₂⟩
  obtain ⟨x, hx, rfl⟩ := h₁.exists_mem
  obtain ⟨userId₁, y₁, hop₁, hr₁⟩ := h₁
  obtain ⟨userId₂, y₂, hop₂, hr₂⟩ := h₂
  have hdead := dead_of_ordered ho hsorted hx (.inr (.inl ⟨userId₁, y₁, hop₁, hr₁⟩))
  have hnone := hdead.result (effect env d₂ c₂) (by rw [hop₂]; rfl)
  rw [hr₂] at hnone
  cases hnone

/-- A token is closed once and for all, in every run of the service at
non-decreasing times. -/
theorem singleUse_of_sorted (env : Env) (d : Database) (calls : List InvitationCall)
    (hsorted : calls.Pairwise fun a b => a.time ≤ b.time) : SingleUse env d calls where
  dead c₁ d₁ c₂ d₂ ho x hx hc hop :=
    (dead_of_ordered ho hsorted hx hc).result (effect env d₂ c₂) hop
  acceptedOnce c₁ d₁ c₂ d₂ ho token := not_accepts_twice ho hsorted token
  writtenOnce := by
    rintro c₁ d₁ c₂ d₂ ho id ⟨hw₁, hw₂⟩
    obtain ⟨x₁, hx₁, hid₁, hacc₁⟩ := accepts_of_writes (effect env d₁ c₁) hw₁
    obtain ⟨x₂, hx₂, hid₂, hacc₂⟩ := accepts_of_writes (effect env d₂ c₂) hw₂
    -- the row is still there, under the same token
    obtain ⟨⟨y, hy, hyid, hyt⟩, -⟩ :=
      dead_of_ordered ho hsorted hx₁ (.inr (.inl hacc₁))
    obtain rfl := Rows.eq_of_key_eq d₂.valid.keys.invitationsId hx₂ hy
      (hid₂.trans (hid₁.symm.trans hyid.symm))
    rw [hyt] at hacc₂
    exact not_accepts_twice ho hsorted x₁.token ⟨hacc₁, hacc₂⟩

/-- The invitation of the sample is accepted, and that was its only use. -/
theorem singleUse_sample :
    Accepts Env.sample "invitation-1" ⟨10, .accept "invitation-1" 1⟩ Database.sample ∧
      SingleUse Env.sample Database.sample
        [⟨10, .accept "invitation-1" 1⟩, ⟨20, .accept "invitation-1" 2⟩] :=
  ⟨⟨1, _, rfl, rfl⟩, singleUse_of_sorted _ _ _ (by decide)⟩

end InvitationCall

/-! ## Closed invitations keep their outcome

They do as long as nobody presents the token of an accepted or revoked
invitation after its expiry: `verify_token` looks at the expiry first and
overwrites the status. -/

section Outcome

variable {now : Time} {d : Database} {op : InvitationOp} {rows : List Invitation}
  {r : Except Exc (Option Invitation)} {x : Invitation}

/-- Accepted invitations, and no others, name a user and a time. -/
def Recorded (rows : List Invitation) : Prop :=
  ∀ x ∈ rows, x.status = .accepted ↔ x.userId ≠ none ∧ x.acceptedAt ≠ none

instance : DecidablePred Recorded := fun rows => inferInstanceAs (Decidable (∀ x ∈ rows,
  x.status = .accepted ↔ x.userId ≠ none ∧ x.acceptedAt ≠ none))

/-- The token of an accepted or revoked invitation is presented after its
expiry. -/
def Overwrites (now : Time) (op : InvitationOp) (rows : List Invitation) : Prop :=
  ∃ x ∈ rows, op.token? = some x.token ∧ x.expiresAt < now ∧
    (x.status = .accepted ∨ x.status = .revoked)

instance (now : Time) (op : InvitationOp) : DecidablePred (Overwrites now op) := fun rows =>
  inferInstanceAs (Decidable (∃ x ∈ rows, op.token? = some x.token ∧ x.expiresAt < now ∧
    (x.status = .accepted ∨ x.status = .revoked)))

/-- The rows of `rows` that are closed have the same status in `rows'`. -/
def StaysClosed (rows rows' : List Invitation) : Prop :=
  ∀ x ∈ rows, x.status ≠ .pending → ∃ y ∈ rows', y.id = x.id ∧ y.status = x.status

instance : DecidableRel StaysClosed := fun rows rows' => inferInstanceAs (Decidable (∀ x ∈ rows,
  x.status ≠ .pending → ∃ y ∈ rows', y.id = x.id ∧ y.status = x.status))

theorem StaysClosed.refl (rows : List Invitation) : StaysClosed rows rows :=
  fun x hx _ => ⟨x, hx, rfl, rfl⟩

theorem StaysClosed.trans {rows₁ rows₂ rows₃ : List Invitation} (h₁ : StaysClosed rows₁ rows₂)
    (h₂ : StaysClosed rows₂ rows₃) : StaysClosed rows₁ rows₃ := by
  intro x hx hs
  obtain ⟨y, hy, hyid, hys⟩ := h₁ x hx hs
  obtain ⟨z, hz, hzid, hzs⟩ := h₂ y hy (hys ▸ hs)
  exact ⟨z, hz, hzid.trans hyid, hzs.trans hys⟩

/-- Closing a row that was open, or giving it the status it has. -/
theorem staysClosed_modify {f : Invitation → Invitation} (hf : Closing f) (hx : x ∈ d.invitations)
    (hs : x.status = .pending ∨ (f x).status = x.status) :
    StaysClosed d.invitations (Rows.modify (·.id) x.id f d.invitations) := by
  intro y hy hys
  refine ⟨if y.id = x.id then f y else y, Rows.mem_modify.mpr ⟨y, hy, rfl⟩, ?_⟩
  split_ifs with hk
  · obtain rfl := Rows.eq_of_key_eq d.valid.keys.invitationsId hy hx hk
    exact ⟨hf.id y, hs.resolve_left hys⟩
  · exact ⟨rfl, rfl⟩

theorem Effect.staysClosed (he : Effect now d op r rows) (ho : ¬Overwrites now op d.invitations) :
    StaysClosed d.invitations rows := by
  cases he with
  | created req newId newToken e => exact fun x hx _ => ⟨x, List.mem_append_left _ hx, rfl, rfl⟩
  | expired _ x hx hop hexp =>
    refine staysClosed_modify closing_markExpired hx ?_
    cases hs : x.status with
    | pending => exact .inl rfl
    | expired => exact .inr rfl
    | accepted => exact absurd ⟨x, hx, hop, hexp, .inl hs⟩ ho
    | revoked => exact absurd ⟨x, hx, hop, hexp, .inr hs⟩ ho
  | accepted x userId hx hl =>
    exact staysClosed_modify (closing_markAccepted userId now) hx (.inl hl.1)
  | revoked x hx hs => exact staysClosed_modify closing_markRevoked hx (.inl hs)
  | _ => exact StaysClosed.refl _

theorem Effect.recorded (he : Effect now d op r rows) (ho : ¬Overwrites now op d.invitations)
    (h : Recorded d.invitations) : Recorded rows := by
  cases he with
  | created req newId newToken e =>
    intro x hx
    rcases List.mem_append.mp hx with hx | hx
    · exact h x hx
    · obtain rfl := List.mem_singleton.mp hx
      exact iff_of_false InvitationStatus.noConfusion fun hu => hu.1 rfl
  | expired _ x hx hop hexp =>
    refine Rows.forall_modify h fun y hy hk hrec => ?_
    obtain rfl := Rows.eq_of_key_eq d.valid.keys.invitationsId hy hx hk
    constructor
    · intro hs
      cases hs
    · intro hu
      exact absurd ⟨y, hy, hop, hexp, .inl (hrec.mpr hu)⟩ ho
  | accepted x userId hx hl =>
    refine Rows.forall_modify h fun y hy hk hrec => ?_
    exact ⟨fun _ => ⟨Option.some_ne_none _, Option.some_ne_none _⟩, fun _ => rfl⟩
  | revoked x hx hs =>
    refine Rows.forall_modify h fun y hy hk hrec => ?_
    obtain rfl := Rows.eq_of_key_eq d.valid.keys.invitationsId hy hx hk
    constructor
    · intro hs'
      cases hs'
    · intro hu
      exact absurd (hs.symm.trans (hrec.mpr hu)) InvitationStatus.noConfusion
  | _ => exact h

/-- A call that overwrites an outcome leaves the invitation expired. -/
theorem Effect.not_staysClosed (he : Effect now d op r rows)
    (ho : Overwrites now op d.invitations) : ¬StaysClosed d.invitations rows := by
  obtain ⟨x, hx, hop, hexp, hs⟩ := ho
  have huniq : ∀ y ∈ d.invitations, y.token = x.token → y = x :=
    fun y hy => Rows.eq_of_key_eq d.valid.keys.invitationsToken hy hx
  have hlive : ∀ y ∈ d.invitations, y.token = x.token → ¬Live now y := by
    intro y hy htoken hl
    obtain rfl := huniq y hy htoken
    exact Int.not_le.mpr hexp hl.2
  cases he with
  | expired _ z hz hop' =>
    obtain rfl := huniq z hz (Option.some.inj (hop'.symm.trans hop))
    intro hsc
    obtain ⟨y, hy, hyid, hys⟩ := hsc z hz (by rcases hs with hs | hs <;> simp [hs])
    obtain ⟨w, hw, rfl⟩ := Rows.mem_modify.mp hy
    split_ifs at hyid hys with hk
    · rcases hs with hs | hs <;> exact InvitationStatus.noConfusion (hys.trans hs)
    · exact hk hyid
  | refused _ token hop' h =>
    obtain rfl : token = x.token := Option.some.inj (hop'.symm.trans hop)
    exact absurd (h x hx rfl).2 (Int.not_le.mpr hexp)
  | verified z hz hl => exact absurd hl (hlive z hz (Option.some.inj hop))
  | notAccepted z userId e hz hl => exact absurd hl (hlive z hz (Option.some.inj hop))
  | accepted z userId hz hl => exact absurd hl (hlive z hz (Option.some.inj hop))
  | _ => cases hop

end Outcome

namespace InvitationCall

variable (env : Env) (d : Database) (calls : List InvitationCall)

/-- In every state of the run, and between any two of them. -/
structure KeepsOutcomes : Prop where
  closed : ∀ pre mid post, calls = pre ++ mid ++ post → StaysClosed
    (after (next env) d pre).invitations (after (next env) d (pre ++ mid)).invitations
  recorded : ∀ pre post, calls = pre ++ post → Recorded (after (next env) d pre).invitations

/-- Outcomes are kept in exactly the runs in which no call overwrites one. -/
theorem keepsOutcomes_iff (hd : Recorded d.invitations) : KeepsOutcomes env d calls ↔
    Along (next env) (fun call d => ¬Overwrites call.time call.op d.invitations) d calls := by
  constructor
  · intro hk
    refine along_iff.mpr fun pre call post heq ho => ?_
    have hc := hk.closed pre [call] post (by simpa using heq)
    rw [after_append] at hc
    exact (effect env _ call).not_staysClosed ho hc
  · intro ha
    constructor
    · rintro pre mid post rfl
      obtain ⟨-, hmid⟩ := along_append.mp (along_append.mp ha).1
      rw [after_append]
      refine hmid.invariant (I := fun d' => StaysClosed (after (next env) d pre).invitations
        d'.invitations) ?_ (StaysClosed.refl _)
      intro call d' ho hs
      exact hs.trans ((effect env d' call).staysClosed ho)
    · rintro pre post rfl
      refine (along_append.mp ha).1.invariant (I := fun d' => Recorded d'.invitations) ?_ hd
      intro call d' ho hr
      exact (effect env d' call).recorded ho hr

/-- Before the expiry an accepted invitation can be looked at. -/
theorem keepsOutcomes_sample : KeepsOutcomes Env.sample Database.sample
    [⟨10, .accept "invitation-1" 1⟩, ⟨20, .verify "invitation-1"⟩] :=
  (keepsOutcomes_iff _ _ _ (by decide)).mpr ⟨by decide, by decide, trivial⟩

/-- After the expiry that makes it an expired one. -/
theorem verify_not_keepsOutcomes : Recorded Database.sample.invitations ∧
    [(⟨10, .accept "invitation-1" 1⟩ : InvitationCall), ⟨101, .verify "invitation-1"⟩].Pairwise
      (fun a b => a.time ≤ b.time) ∧
    ¬KeepsOutcomes Env.sample Database.sample
      [⟨10, .accept "invitation-1" 1⟩, ⟨101, .verify "invitation-1"⟩] := by
  refine ⟨by decide, by decide, fun hk => ?_⟩
  have hc := hk.closed [⟨10, .accept "invitation-1" 1⟩] [⟨101, .verify "invitation-1"⟩] [] rfl
  revert hc
  decide

end InvitationCall

end VirtualStack
