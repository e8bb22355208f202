import VirtualStack.Deps

/-!
# Authentication by bearer token

`get_current_user_from_token` has a handler for each way in which a token can be
bad. Python evaluates the expression of a handler only when the ones before it
did not match, and the second expression, `jwt.PyJWTError`, cannot be evaluated.
So of all the bad tokens only the expired ones are answered as intended.
-/

namespace VirtualStack
open UnitOfWork

namespace Deps

/-- The token decodes to the id of a stored user. -/
def NamesUser (env : Env) (now : Time) (token : String) (d : Database) (u : User) : Prop :=
  env.jwtDecode now token = .ok (some ⟨some (.valid u.id)⟩) ∧ u ∈ d.users

/-- A token is decided when its absence, and only that, gives no user, a token
that names a stored user gives that user, and every other one is answered with
a `401`. -/
structure DecidesToken (env : Env) (now : Time) (token : String) (d : Database)
    (result : Except Exc (Option User)) : Prop where
  absent : result = .ok none ↔ token = ""
  named : ∀ u, result = .ok (some u) ↔ token ≠ "" ∧ NamesUser env now token d u
  refused : ∀ e, result = .error e → ∃ detail, e = .http 401 detail

section

variable {env : Env} {now : Time} {h : Headers} {d : Database} {u : User}

theorem tokenUser_eq_none : tokenUser env now h d = .ok none ↔ h.token.getD "" = "" := by
  rw [tokenUser]
  split_ifs with ht
  · simp [ht]
  · simp only [ht, iff_false]
    split
    · simp
    · split <;> simp
    · simp

theorem tokenUser_eq_some : tokenUser env now h d = .ok (some u) ↔
    h.token.getD "" ≠ "" ∧ NamesUser env now (h.token.getD "") d u := by
  rw [tokenUser, NamesUser]
  split_ifs with ht
  · simp [ht]
  · simp only [ne_eq, ht, not_false_iff, true_and]
    split
    · rename_i he
      simp [he]
    · rename_i userId hj
      rw [hj]
      have hfind := Rows.find?_key_eq_some (x := u) (k := userId) d.valid.keys.usersId
      cases hf : d.users.find? (·.id = userId) with
      | none =>
        rw [hf] at hfind
        constructor
        · intro he
          cases he
        · rintro ⟨hid, hu⟩
          cases hid
          exact absurd (hfind.mpr ⟨hu, rfl⟩) (by simp)
      | some v =>
        rw [hf] at hfind
        constructor
        · intro he
          cases he
          obtain ⟨hu, hid⟩ := hfind.mp rfl
          exact ⟨by rw [hid], hu⟩
        · rintro ⟨hid, hu⟩
          cases hid
          rw [Option.some.inj (hfind.mpr ⟨hu, rfl⟩)]
    · rename_i hother
      constructor
      · intro he
        cases he
      · rintro ⟨hj, -⟩
        exact absurd hj (hother u.id)

/-- The one bad token that is answered as intended. -/
theorem tokenUser_expired (ht : h.token.getD "" ≠ "")
    (hj : env.jwtDecode now (h.token.getD "") = .error .expiredSignatureError) :
    tokenUser env now h d = .error (.http 401 "Token has expired") := by
  rw [tokenUser, if_neg ht, hj]

/-- Every other bad token ends in the `AttributeError` of the second handler. -/
theorem tokenUser_bad (ht : h.token.getD "" ≠ "")
    (hj : env.jwtDecode now (h.token.getD "") ≠ .error .expiredSignatureError)
    (hn : ∀ u, ¬NamesUser env now (h.token.getD "") d u) :
    tokenUser env now h d = .error .attributeError := by
  rw [tokenUser, if_neg ht]
  split
  · rename_i he
    exact absurd he hj
  · rename_i userId hd
    split
    · rename_i u hf
      obtain ⟨hu, rfl⟩ := (Rows.find?_key_eq_some d.valid.keys.usersId).mp hf
      exact absurd ⟨hd, hu⟩ (hn u)
    · rfl
  · rfl

end

/-- Token authentication decides a token exactly when it is absent, expired, or
names a stored user. -/
theorem decidesToken_iff (env : Env) (now : Time) (h : Headers) (d : Database) :
    DecidesToken env now (h.token.getD "") d
        (serve (getCurrentUserFromToken env now h) d).1 ↔
      h.token.getD "" = "" ∨
        env.jwtDecode now (h.token.getD "") = .error .expiredSignatureError ∨
        ∃ u, NamesUser env now (h.token.getD "") d u := by
  have hserve : (serve (getCurrentUserFromToken env now h) d).1 = tokenUser env now h d := by
    rw [serve, getCurrentUserFromToken_clean]
    cases tokenUser env now h d <;> rfl
  rw [hserve]
  constructor
  · intro hd
    by_contra hn
    rw [not_or, not_or, not_exists] at hn
    obtain ⟨ht, hj, hu⟩ := hn
    obtain ⟨detail, he⟩ := hd.refused _ (tokenUser_bad ht hj hu)
    cases he
  · intro hc
    refine ⟨tokenUser_eq_none, fun u => tokenUser_eq_some, fun e he => ?_⟩
    by_cases ht : h.token.getD "" = ""
    · rw [tokenUser_eq_none.mpr ht] at he
      cases he
    · rcases hc.resolve_left ht with hj | ⟨u, hu⟩
      · rw [tokenUser_expired ht hj] at he
        cases he
        exact ⟨_, rfl⟩
      · rw [tokenUser_eq_some.mpr ⟨ht, hu⟩] at he
        cases he

/-- A token that was never signed raises an `AttributeError`. -/
theorem garbage_not_decided : ¬DecidesToken Env.sample 0 "garbage" Database.sample
    (serve (getCurrentUserFromToken Env.sample 0
      ⟨some "garbage", none, none, none, []⟩) Database.sample).1 := by
  intro hd
  obtain ⟨detail, he⟩ := hd.refused .attributeError (by decide)
  cases he

end Deps
end VirtualStack
