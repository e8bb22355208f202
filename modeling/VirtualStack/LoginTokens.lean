import VirtualStack.Authentication
import VirtualStack.UserRows

/-!
# What a login buys

The token of `POST /auth/token` names a user and an expiry and nothing else. Nothing
that is stored afterwards takes it back: what it is worth at a later time is read
from the row of the user at that time.
-/

namespace VirtualStack
open UnitOfWork

/-- `jose` writes and compares an expiry in whole seconds. -/
def seconds (t : Time) : ℤ := t / 1000000

def Security.accessTokenExpiry (security : Security) (now : Time) : Time :=
  now + security.accessTokenExpireMinutes * 60 * 1000000

/-- Encoding and decoding with the one key of the settings. -/
structure SignsTokens (env : Env) (security : Security) : Prop where
  nonempty : ∀ {subject expiry token}, security.jwtEncode subject expiry = .ok token → token ≠ ""
  decodes : ∀ {subject expiry token now}, security.jwtEncode subject expiry = .ok token →
    seconds now ≤ seconds expiry →
    env.jwtDecode now token = .ok (some ⟨some (.valid subject)⟩)
  expires : ∀ {subject expiry token now}, security.jwtEncode subject expiry = .ok token →
    seconds expiry < seconds now → env.jwtDecode now token = .error .expiredSignatureError

namespace Endpoints

variable {security : Security} {now : Time} {username password token : String} {u : User}
  {d : Database}

/-- What a login as a stored user comes to. -/
def loginAs (security : Security) (now : Time) (password : String) (user : User) :
    Except Exc String := do
  if ← security.verifyPassword password user.hashedPassword then
    if ¬user.isActive then .error (.http 401 "Inactive user")
    else security.createAccessToken now user.id
  else .error (.http 401 "Incorrect email or password")

theorem loginAs_eq_ok : loginAs security now password u = .ok token ↔
    security.verifyPassword password u.hashedPassword = .ok true ∧ u.isActive ∧
      security.createAccessToken now u.id = .ok token := by
  rw [loginAs]
  cases security.verifyPassword password u.hashedPassword with
  | error e => simp [Bind.bind, Except.bind]
  | ok same =>
    cases same with
    | false => simp [Bind.bind, Except.bind]
    | true => by_cases hactive : u.isActive <;> simp [Bind.bind, Except.bind, hactive]

def login (security : Security) (now : Time) (username password : String) (d : Database) :
    Except Exc String :=
  match d.users.find? (·.email = username) with
  | none => .error (.http 401 "Incorrect email or password")
  | some user => loginAs security now password user

theorem yields_loginAccessToken (security : Security) (now : Time) (username password : String)
    (d : Database) : Yields (loginAccessToken security now username password) d
      (login security now username password d) d := by
  rw [loginAccessToken, login]
  refine (returns_query _ d).bind_yields ?_
  cases d.users.find? (·.email = username) with
  | none => exact raises_throw _ d
  | some user =>
    refine Yields.bind (yields_of_run fun _ => rfl) fun same _ => ?_
    split_ifs
    · exact yields_of_run fun _ => rfl
    · exact raises_throw _ d
    · exact raises_throw _ d

/-- A token is issued to an active user whose email and password are given. -/
theorem login_eq_ok : login security now username password d = .ok token ↔
    ∃ u ∈ d.users, u.email = username ∧
      security.verifyPassword password u.hashedPassword = .ok true ∧ u.isActive ∧
      security.createAccessToken now u.id = .ok token := by
  have hfind := fun u => Rows.find?_key_eq_some (x := u) (k := username) d.valid.keys.usersEmail
  rw [login]
  constructor
  · intro he
    cases hf : d.users.find? (·.email = username) with
    | none =>
      rw [hf] at he
      cases he
    | some u =>
      rw [hf] at he
      obtain ⟨hu, hemail⟩ := (hfind u).mp hf
      exact ⟨u, hu, hemail, loginAs_eq_ok.mp he⟩
  · rintro ⟨u, hu, hemail, hissued⟩
    rw [(hfind u).mpr ⟨hu, hemail⟩]
    exact loginAs_eq_ok.mpr hissued

end Endpoints

namespace Deps

variable {env : Env} {later : Time} {h : Headers} {token : String} {u : User} {d : Database}

/-- The caller of a request that carries a token and no key. -/
theorem currentActiveUser_of_token (htoken : h.token = some token) (hne : token ≠ "")
    (hkey : h.apiKey = "") (hu : u ∈ d.users)
    (hdecodes : env.jwtDecode later token = .ok (some ⟨some (.valid u.id)⟩)) :
    currentActiveUser env later h d =
      if u.isActive then .ok u else .error (.http 400 "Inactive user") := by
  have htext : h.token.getD "" = token := by rw [htoken, Option.getD_some]
  have hnamed : tokenUser env later h d = .ok (some u) :=
    tokenUser_eq_some.mpr (by rw [htext]; exact ⟨hne, hdecodes, hu⟩)
  have hcaller : currentUser env later h d = .ok u := by
    rw [currentUser, hnamed, presentedKey, if_pos hkey]
    rfl
  rw [currentActiveUser, hcaller]
  by_cases hactive : u.isActive <;> simp [Bind.bind, Except.bind, hactive]

theorem currentActiveUser_of_expired (htoken : h.token = some token) (hne : token ≠ "")
    (hexpired : env.jwtDecode later token = .error .expiredSignatureError) :
    currentActiveUser env later h d = .error (.http 401 "Token has expired") := by
  have htext : h.token.getD "" = token := by rw [htoken, Option.getD_some]
  rw [currentActiveUser, currentUser,
    tokenUser_expired (by rw [htext]; exact hne) (by rw [htext]; exact hexpired)]
  rfl

end Deps

namespace ApiRequest

variable {closing : Ending} {env : Env} {security : Security} {h : Headers} {now later : Time}
  {username password token : String} {d : Database}

theorem exists_of_profiles {v : Database} {u : User} (hprofiles : v.profiles = d.profiles)
    (hu : u ∈ d.users) : ∃ u' ∈ v.users,
      u'.id = u.id ∧ u'.fullName = u.fullName ∧ u'.isSuperuser = u.isSuperuser := by
  have hprofile : (u.id, u.fullName, u.isSuperuser) ∈ v.profiles := by
    rw [hprofiles]
    exact List.mem_map.mpr ⟨u, hu, rfl⟩
  obtain ⟨u', hu', he⟩ := List.mem_map.mp hprofile
  simp only [Prod.mk.injEq] at he
  exact ⟨u', hu', he⟩

/-- A token that a login gave to a user is, whatever requests came in between, taken
for that user, as stored at the time, for as long as the settings say. No logout, new
password or new email ends it earlier, only `is_active`. -/
theorem login_token_after (hsigns : SignsTokens env security)
    (hlogin : (serve (Endpoints.loginAccessToken security now username password) d).1 = .ok token)
    (calls : List (Headers × ApiRequest)) (htoken : h.token = some token) (hkey : h.apiKey = "") :
    ∃ u ∈ d.users, (u.email = username ∧
      security.verifyPassword password u.hashedPassword = .ok true ∧ u.isActive) ∧
      ∃ u' ∈ (Runs.after (outcome closing env security) d calls).users,
        (u'.id = u.id ∧ u'.fullName = u.fullName ∧ u'.isSuperuser = u.isSuperuser) ∧
        (serve (Deps.getCurrentActiveUser env later h)
            (Runs.after (outcome closing env security) d calls)).1 =
          if seconds (security.accessTokenExpiry now) < seconds later then
            .error (.http 401 "Token has expired")
          else if u'.isActive then .ok u' else .error (.http 400 "Inactive user") := by
  rw [(Endpoints.yields_loginAccessToken security now username password d).serve_fst] at hlogin
  obtain ⟨u, hu, hemail, hpassword, hactive, hencode⟩ := Endpoints.login_eq_ok.mp hlogin
  obtain ⟨u', hu', hid, hsame⟩ :=
    exists_of_profiles (profiles_after closing env security d calls) hu
  have hne := hsigns.nonempty hencode
  refine ⟨u, hu, ⟨hemail, hpassword, hactive⟩, u', hu', ⟨hid, hsame⟩, ?_⟩
  rw [(Deps.yields_getCurrentActiveUser env later h _).serve_fst]
  by_cases hlate : seconds (security.accessTokenExpiry now) < seconds later
  · rw [if_pos hlate]
    exact Deps.currentActiveUser_of_expired htoken hne (hsigns.expires hencode hlate)
  · have hdecodes := hsigns.decodes hencode (Int.not_lt.mp hlate)
    rw [if_neg hlate]
    rw [← hid] at hdecodes
    exact Deps.currentActiveUser_of_token htoken hne hkey hu' hdecodes

/-- A codec for examples: as many `u` as the number of the user, a dot, and as many
`s` as the seconds of the expiry. -/
def tally (subject : UUID) (expiry : Time) : String :=
  String.ofList (List.replicate subject 'u' ++ '.' :: List.replicate (seconds expiry).toNat 's')

def talliedSecurity : Security := { Security.sample with
  jwtEncode subject expiry := if 0 ≤ seconds expiry then .ok (tally subject expiry)
    else .error .typeError
  accessTokenExpireMinutes := 1 }

def talliedEnv : Env := { Env.sample with
  jwtDecode now token :=
    if (token.toList.count 's' : ℤ) < seconds now then .error .expiredSignatureError
    else .ok (some ⟨some (.valid (token.toList.count 'u'))⟩) }

theorem count_tally (subject : UUID) (expiry : Time) :
    (tally subject expiry).toList.count 'u' = subject ∧
      (tally subject expiry).toList.count 's' = (seconds expiry).toNat := by
  simp [tally, List.count_append, List.count_replicate]

theorem signsTokens_tallied : SignsTokens talliedEnv talliedSecurity := by
  have hencode : ∀ {subject expiry token}, talliedSecurity.jwtEncode subject expiry = .ok token →
      0 ≤ seconds expiry ∧ tally subject expiry = token := by
    intro subject expiry token he
    simp only [talliedSecurity] at he
    split_ifs at he with hexpiry
    exact ⟨hexpiry, Except.ok.inj he⟩
  constructor
  · intro subject expiry token he
    obtain ⟨-, rfl⟩ := hencode he
    simp [tally, ← String.toList_inj]
  · intro subject expiry token now he hnow
    obtain ⟨hexpiry, rfl⟩ := hencode he
    obtain ⟨hu, hs⟩ := count_tally subject expiry
    simp only [talliedEnv, hu, hs]
    rw [if_neg (by omega)]
  · intro subject expiry token now he hnow
    obtain ⟨hexpiry, rfl⟩ := hencode he
    obtain ⟨-, hs⟩ := count_tally subject expiry
    simp only [talliedEnv, hs]
    rw [if_pos (by omega)]

def aliceHeaders : Headers := ⟨some (tally 1 60000000), none, none, none, []⟩

/-- Alice changes her email and her password with the token of her login. -/
def aliceChanges : List (Headers × ApiRequest) :=
  [(aliceHeaders, .personal 1000000 (.updateMe
    ⟨some (some "alice@beta.com"), none, none, some (some "$2b$12$b"), none⟩))]

theorem login_token_after_sample :
    ∃ u ∈ Database.sample.users, (u.email = "alice@acme.com" ∧
      talliedSecurity.verifyPassword "$2b$12$a" u.hashedPassword = .ok true ∧ u.isActive) ∧
      ∃ u' ∈ (Runs.after (outcome .commits talliedEnv talliedSecurity) Database.sample
          aliceChanges).users,
        (u'.id = u.id ∧ u'.fullName = u.fullName ∧ u'.isSuperuser = u.isSuperuser) ∧
        (serve (Deps.getCurrentActiveUser talliedEnv 60000000 aliceHeaders)
            (Runs.after (outcome .commits talliedEnv talliedSecurity) Database.sample
              aliceChanges)).1 =
          if seconds (talliedSecurity.accessTokenExpiry 0) < seconds 60000000 then
            .error (.http 401 "Token has expired")
          else if u'.isActive then .ok u' else .error (.http 400 "Inactive user") :=
  login_token_after signsTokens_tallied (by decide) aliceChanges rfl rfl

end ApiRequest
end VirtualStack
