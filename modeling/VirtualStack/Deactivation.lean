import VirtualStack.Authentication
import VirtualStack.Endpoints.APIKeys
import VirtualStack.Endpoints.Invitations
import VirtualStack.Endpoints.Tenants
import VirtualStack.Endpoints.Users

/-!
# Deactivated users

`get_current_active_user` refuses a caller whose `is_active` is false, and the
permission dependencies are built on it. `get_current_user` does not look at the
column; five endpoints depend on it alone.
-/

namespace VirtualStack
open UnitOfWork

/-- The requests on users, tenants, API keys and invitations that are made on
behalf of the current user. -/
inductive PersonalRequest where
  | listUsers (page limit : ℕ) (search : Option String)
  | getMe
  | updateMe (body : UserUpdate)
  | updateUserStatus (userId : UUID) (isActive : Bool)
  | removeUser (userId : UUID)
  | listTenants
  | createAPIKey (body : APIKeyCreate) (newId : UUID) (token : UrlsafeText)
  | listAPIKeys (skip limit : ℤ) (tenantId : Option UUID)
  | readAPIKey (apiKeyId : UUID)
  | updateAPIKey (apiKeyId : UUID) (body : APIKeyUpdate)
  | deleteAPIKey (apiKeyId : UUID)
  | createInvitation (body : InvitationCreate) (newId : UUID) (newToken : String)
  | listInvitations (tenantId : UUID) (status : Option InvitationStatus) (skip limit : ℕ)
  | readInvitation (invitationId : UUID)
  | revokeInvitation (invitationId : UUID)

namespace PersonalRequest

/-- The endpoint of a request; what it answers does not matter here. -/
def endpoint (env : Env) (now : Time) (h : Headers) : PersonalRequest → Db Unit
  | listUsers page limit search => do
    let _ ← Endpoints.listUsersInActiveTenant env now h page limit search
    pure ()
  | getMe => do
    let _ ← Endpoints.getCurrentUserInfo env now h
    pure ()
  | updateMe body => do
    let _ ← Endpoints.updateCurrentUser env now h body
    pure ()
  | updateUserStatus userId isActive => do
    let _ ← Endpoints.updateUserStatusInActiveTenant env now h userId isActive
    pure ()
  | removeUser userId => Endpoints.removeUserFromActiveTenant env now h userId
  | listTenants => do
    let _ ← Endpoints.listAccessibleTenants env now h
    pure ()
  | createAPIKey body newId token => do
    let _ ← Endpoints.createAPIKey env now h body newId token
    pure ()
  | listAPIKeys skip limit tenantId => do
    let _ ← Endpoints.readAPIKeys env now h skip limit tenantId
    pure ()
  | readAPIKey apiKeyId => do
    let _ ← Endpoints.readAPIKey env now h apiKeyId
    pure ()
  | updateAPIKey apiKeyId body => do
    let _ ← Endpoints.updateAPIKey env now h apiKeyId body
    pure ()
  | deleteAPIKey apiKeyId => Endpoints.deleteAPIKey env now h apiKeyId
  | createInvitation body newId newToken => do
    let _ ← Endpoints.createInvitation env now h body newId newToken
    pure ()
  | listInvitations tenantId status skip limit => do
    let _ ← Endpoints.listInvitations env now h tenantId status skip limit
    pure ()
  | readInvitation invitationId => do
    let _ ← Endpoints.readInvitation env now h invitationId
    pure ()
  | revokeInvitation invitationId => do
    let _ ← Endpoints.revokeInvitation env now h invitationId
    pure ()

/-- The endpoints that depend on `get_current_active_user`, most of them through a
permission dependency. -/
def checksActive : PersonalRequest → Bool
  | getMe | updateMe _ | listTenants | readInvitation _ | revokeInvitation _ => false
  | _ => true

/-- The request ends in an error, and session and database are as before. -/
def Refused (env : Env) (now : Time) (h : Headers) (d : Database) (r : PersonalRequest) : Prop :=
  ∃ e, serve (Deps.handle h (r.endpoint env now h)) d = (.error e, .start d)

/-- What is left between a deactivated user and the effect of a request. The
endpoints that ask for an active user let nobody through. -/
def Reaches (env : Env) (d : Database) (u : User) : PersonalRequest → Prop
  | getMe | listTenants => True
  | updateMe sent => ∃ body, sent.validate env = .ok body ∧ body.Accepted env u.id d
  | readInvitation invitationId | revokeInvitation invitationId =>
    ∃ x ∈ d.invitations, x.id = invitationId ∧ Endpoints.MayManage d u x.tenantId
  | _ => False

end PersonalRequest

/-! ## Whose credentials a request carries -/

/-- A request that presents a token of the user, or an API key of the user, or
both, and nothing else. -/
structure Headers.CarriesOnly (h : Headers) (env : Env) (now : Time) (d : Database) (u : User) :
    Prop where
  user : u ∈ d.users
  token : h.token.getD "" ≠ "" →
    env.jwtDecode now (h.token.getD "") = .ok (some ⟨some (.valid u.id)⟩)
  key : h.apiKey ≠ "" → ∃ k ∈ d.apiKeys, k.userId = u.id ∧
    k.keyPrefix = APIKeyService.keyPrefix h.apiKey ∧ k.keyHash = env.hashAPIKey h.apiKey
  present : h.token.getD "" ≠ "" ∨ h.apiKey ≠ ""

/-- The API key of the request, if there is one, is not refused. -/
def Headers.KeyAccepted (h : Headers) (env : Env) (d : Database) : Prop :=
  h.apiKey ≠ "" → 8 ≤ h.apiKey.length ∧ ∃ k ∈ d.apiKeys,
    k.keyPrefix = APIKeyService.keyPrefix h.apiKey ∧ k.keyHash = env.hashAPIKey h.apiKey ∧
      k.isActive ∧ k.expiresAt = none

namespace Deps

variable {env : Env} {now : Time} {h : Headers} {d : Database} {u : User}

theorem tokenUser_of_carriesOnly (hc : h.CarriesOnly env now d u) :
    tokenUser env now h d = .ok (if h.token.getD "" = "" then none else some u) := by
  split_ifs with ht
  · exact tokenUser_eq_none.mpr ht
  · exact tokenUser_eq_some.mpr ⟨ht, hc.token ht, hc.user⟩

theorem presentedKey_ne_none (hk : h.apiKey ≠ "") : presentedKey env now h d ≠ .ok none := by
  rw [presentedKey, if_neg hk]
  split_ifs
  · simp
  · split
    · simp
    · split <;> simp

/-- The caller is the user, as far as a key does not get in the way. -/
theorem currentUser_of_keyAccepted (hc : h.CarriesOnly env now d u) (hk : h.KeyAccepted env d) :
    currentUser env now h d = .ok u := by
  have ht := tokenUser_of_carriesOnly hc
  by_cases hkey : h.apiKey = ""
  · have htok : h.token.getD "" ≠ "" := hc.present.resolve_right (not_not.mpr hkey)
    rw [if_neg htok] at ht
    rw [currentUser, ht, presentedKey, if_pos hkey]
    rfl
  · obtain ⟨hlen, k, hmem, hpre, hhash, hact, hexp⟩ := hk hkey
    obtain ⟨k', hmem', huser, hpre', -⟩ := hc.key hkey
    obtain rfl := Rows.eq_of_key_eq d.valid.keys.apiKeysPrefix hmem hmem'
      (hpre.trans hpre'.symm)
    have hpres : presentedKey env now h d = .ok (some k) :=
      (presentedKey_eq_some hmem hpre hhash).mpr ⟨rfl, hlen, hact, hexp⟩
    have howner : owner d k = some u :=
      (Rows.find?_key_eq_some d.valid.keys.usersId).mpr ⟨hc.user, huser.symm⟩
    rw [currentUser, ht, hpres]
    simp only [bind, Except.bind, Option.bind_some, howner]
    split_ifs <;> rfl

theorem currentUser_of_not_keyAccepted (hc : h.CarriesOnly env now d u)
    (hk : ¬h.KeyAccepted env d) : ∃ e, currentUser env now h d = .error e := by
  rw [Headers.KeyAccepted, Classical.not_imp] at hk
  obtain ⟨hkey, hbad⟩ := hk
  obtain ⟨k, hmem, -, hpre, hhash⟩ := hc.key hkey
  rw [currentUser, tokenUser_of_carriesOnly hc]
  cases hp : presentedKey env now h d with
  | error e => exact ⟨e, rfl⟩
  | ok r =>
    cases r with
    | none => exact absurd hp (presentedKey_ne_none hkey)
    | some k' =>
      obtain ⟨-, hlen, hact, hexp⟩ := (presentedKey_eq_some hmem hpre hhash).mp hp
      exact absurd ⟨hlen, k, hmem, hpre, hhash, hact, hexp⟩ hbad

theorem currentActiveUser_of_inactive (hc : h.CarriesOnly env now d u)
    (hu : u.isActive = false) : ∃ e, currentActiveUser env now h d = .error e := by
  cases hact : currentActiveUser env now h d with
  | error e => exact ⟨e, rfl⟩
  | ok v =>
    obtain ⟨hcur, hactive⟩ := currentUser_of_active hact
    by_cases hk : h.KeyAccepted env d
    · rw [currentUser_of_keyAccepted hc hk] at hcur
      cases hcur
      rw [hu] at hactive
      cases hactive
    · obtain ⟨e, he⟩ := currentUser_of_not_keyAccepted hc hk
      rw [he] at hcur
      cases hcur

/-- Whether an update of a user is accepted does not depend on the key that the
request was made with. -/
theorem accepted_identifiedView {body : UserUpdate} :
    body.Accepted env u.id (identifiedView env now h d) ↔ body.Accepted env u.id d := by
  rw [identifiedView]
  split
  · rename_i k hk
    rw [UserUpdate.Accepted, UserUpdate.Accepted]
    have hcomm : (d.touchAPIKey k.id now).toTables.modifyUser u.id (body.apply env) =
        (d.modifyUser u.id (body.apply env)).modifyAPIKey k.id (APIKey.touch now) := rfl
    rw [hcomm]
    exact and_congr_right fun _ => and_congr_right fun _ =>
      ⟨Tables.Valid.of_touchAPIKey, fun hv => hv.touchAPIKey k.id now⟩
  · rfl

end Deps

namespace PersonalRequest

variable {env : Env} {now : Time} {h : Headers} {d : Database} {u : User}

/-- The dependency on an active user stands before everything else. -/
theorem fails_of_checksActive {r : PersonalRequest} {e : Exc} (hr : r.checksActive)
    (he : Deps.currentActiveUser env now h d = .error e) : Fails (r.endpoint env now h) d := by
  have hactive := (Deps.yields_getCurrentActiveUser env now h d).raises he
  have hperm (p : Permission) : Raises (Deps.requirePermissionInActiveTenant env now h p) d e :=
    (Deps.yields_requirePermissionInActiveTenant env now h d p).raises
      (by rw [Deps.permitted, he]; rfl)
  cases r with
  | listUsers | updateUserStatus | createInvitation => exact ((hperm _).bind _).fails.bind _
  | removeUser => exact ((hperm _).bind _).fails
  | createAPIKey | listAPIKeys | readAPIKey | updateAPIKey | listInvitations =>
    exact (hactive.bind _).fails.bind _
  | deleteAPIKey => exact (hactive.bind _).fails
  | getMe | updateMe | listTenants | readInvitation | revokeInvitation => cases hr

theorem fails_of_unidentified {r : PersonalRequest} {e : Exc} (hr : ¬r.checksActive)
    (he : Deps.currentUser env now h d = .error e) : Fails (r.endpoint env now h) d := by
  have hcur := (Deps.yields_getCurrentUser env now h d).raises he
  cases r with
  | getMe => exact (hcur.bind _).fails
  | updateMe | listTenants | readInvitation | revokeInvitation => exact (hcur.bind _).fails.bind _
  | _ => exact absurd rfl hr

/-- The other endpoints serve every identified caller who reaches them. -/
theorem serve_of_reaches {r : PersonalRequest} (hu : Deps.currentUser env now h d = .ok u)
    (hr : r.Reaches env d u) : ∃ s, serve (r.endpoint env now h) d = (.ok (), s) := by
  have hcur := (Deps.yields_getCurrentUser env now h d).returns hu
  cases r with
  | getMe => exact ⟨_, (hcur.bind (returns_pure () _)).serve⟩
  | updateMe sent =>
    obtain ⟨body, hw, hb⟩ := hr
    have hret := Endpoints.returns_updateCurrentUser hu hw (Deps.accepted_identifiedView.mpr hb)
    exact ⟨_, (hret.bind (returns_pure () _)).serve⟩
  | listTenants =>
    have hlist : Returns (Endpoints.listAccessibleTenants env now h) d _ _ :=
      hcur.bind (returns_query _ _)
    exact ⟨_, (hlist.bind (returns_pure () _)).serve⟩
  | readInvitation id =>
    obtain ⟨x, hx, rfl, hp⟩ := hr
    obtain ⟨details, -, hret⟩ := Endpoints.returns_readInvitation hu
      (by rw [(Deps.identifiedView_checks env now h d).2.2.2.2.2.2]; exact hx)
      (Endpoints.mayManage_identifiedView.mpr hp)
    exact ⟨_, (hret.bind (returns_pure () _)).serve⟩
  | revokeInvitation id =>
    obtain ⟨x, hx, rfl, hp⟩ := hr
    obtain ⟨y, s, hrun, -⟩ := Endpoints.run_revokeInvitation hu
      (by rw [(Deps.identifiedView_checks env now h d).2.2.2.2.2.2]; exact hx)
      (Endpoints.mayManage_identifiedView.mpr hp)
    exact ⟨s, serve_of_ok (run_bind_ok hrun _)⟩
  | _ => cases hr

theorem fails_of_not_reaches {r : PersonalRequest} (hu : Deps.currentUser env now h d = .ok u)
    (hn : ¬r.checksActive) (hr : ¬r.Reaches env d u) : Fails (r.endpoint env now h) d := by
  have hinv := (Deps.identifiedView_checks env now h d).2.2.2.2.2.2
  cases r with
  | getMe | listTenants => exact absurd trivial hr
  | updateMe sent =>
    refine (Endpoints.fails_updateCurrentUser fun v body hv hw hb => hr ?_).bind _
    obtain rfl : u = v := Except.ok.inj (hu.symm.trans hv)
    exact ⟨body, hw, Deps.accepted_identifiedView.mp hb⟩
  | readInvitation id =>
    refine (Endpoints.fails_readInvitation hu fun x hx hid hp => hr ?_).bind _
    exact ⟨x, hinv ▸ hx, hid, Endpoints.mayManage_identifiedView.mp hp⟩
  | revokeInvitation id =>
    refine (Endpoints.fails_revokeInvitation hu fun x hx hid hp => hr ?_).bind _
    exact ⟨x, hinv ▸ hx, hid, Endpoints.mayManage_identifiedView.mp hp⟩
  | _ => exact absurd rfl hn

/-- A request with the credentials of a deactivated user is refused exactly when
one of the other checks refuses it: the middleware, the check of its API key, or
what the endpoint itself asks for. -/
theorem refused_iff (env : Env) (now : Time) (h : Headers) (d : Database) (u : User)
    (r : PersonalRequest) (hc : h.CarriesOnly env now d u) (hu : u.isActive = false) :
    r.Refused env now h d ↔
      ¬(h.xTenantId ≠ some .malformed ∧ h.KeyAccepted env d ∧ r.Reaches env d u) := by
  constructor
  · rintro ⟨e, he⟩ ⟨hm, hk, hr⟩
    obtain ⟨s, hs⟩ := serve_of_reaches (Deps.currentUser_of_keyAccepted hc hk) hr
    rw [Deps.serve_handle hm, hs] at he
    cases he
  · intro hn
    rw [Refused]
    by_cases hm : h.xTenantId = some .malformed
    · exact (Deps.fails_handle hm).serve
    rw [Deps.serve_handle hm]
    refine Fails.serve ?_
    by_cases hr : r.checksActive
    · obtain ⟨e, he⟩ := Deps.currentActiveUser_of_inactive hc hu
      exact fails_of_checksActive hr he
    by_cases hk : h.KeyAccepted env d
    · exact fails_of_not_reaches (Deps.currentUser_of_keyAccepted hc hk) hr
        fun hreach => hn ⟨hm, hk, hreach⟩
    · obtain ⟨e, he⟩ := Deps.currentUser_of_not_keyAccepted hc hk
      exact fails_of_unidentified hr he

/-- The first user of the sample, deactivated. -/
def deactivated : Database :=
  ⟨{ Database.sample.toTables with
      users := [⟨1, "alice@acme.com", "$2b$12$a", some "Alice", false, false⟩,
        ⟨2, "root@acme.com", "$2b$12$r", none, true, true⟩] }, by decide⟩

theorem carriesOnly_deactivated : Headers.CarriesOnly ⟨some "token-1", none, none, none, []⟩
    Env.sample 0 deactivated ⟨1, "alice@acme.com", "$2b$12$a", some "Alice", false, false⟩ :=
  ⟨by decide, fun _ => by decide, fun hk => absurd rfl hk, .inl (by decide)⟩

theorem refused_deactivated_iff :
    (updateMe (.status true)).Refused Env.sample 0 ⟨some "token-1", none, none, none, []⟩
        deactivated ↔
      ¬((⟨some "token-1", none, none, none, []⟩ : Headers).xTenantId ≠ some .malformed ∧
        Headers.KeyAccepted ⟨some "token-1", none, none, none, []⟩ Env.sample deactivated ∧
        (updateMe (.status true)).Reaches Env.sample deactivated
          ⟨1, "alice@acme.com", "$2b$12$a", some "Alice", false, false⟩) :=
  refused_iff Env.sample 0 _ deactivated _ _ carriesOnly_deactivated rfl

/-- A deactivated user who asks to be active again is answered, not refused. -/
theorem deactivated_not_refused :
    Headers.CarriesOnly ⟨some "token-1", none, none, none, []⟩ Env.sample 0 deactivated
        ⟨1, "alice@acme.com", "$2b$12$a", some "Alice", false, false⟩ ∧
      ¬(updateMe (.status true)).Refused Env.sample 0 ⟨some "token-1", none, none, none, []⟩
        deactivated := by
  refine ⟨carriesOnly_deactivated, ?_⟩
  rintro ⟨e, he⟩
  have hcur := Deps.currentUser_of_keyAccepted carriesOnly_deactivated fun hk => absurd rfl hk
  have hreach : (updateMe (.status true)).Reaches Env.sample deactivated
      ⟨1, "alice@acme.com", "$2b$12$a", some "Alice", false, false⟩ :=
    ⟨_, rfl, UserService.accepted_status 1 true⟩
  obtain ⟨s, hs⟩ := serve_of_reaches hcur hreach
  rw [Deps.serve_handle (by decide), hs] at he
  cases he

end PersonalRequest
end VirtualStack
