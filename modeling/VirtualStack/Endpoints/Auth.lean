import VirtualStack.Deps

/-!
# `api/v1/endpoints/auth.py` and `core/security.py`
-/

namespace VirtualStack
open UnitOfWork

/-- What the login takes from `passlib`, `jose` and the settings. -/
structure Security where
  /-- `pwd_context.verify`, which raises on a text that is no hash. -/
  verifyPassword : String → String → Except Exc Bool
  /-- `jwt.encode` of a subject and an expiry. -/
  jwtEncode : UUID → Time → Except Exc String
  /-- `JWT_ACCESS_TOKEN_EXPIRE_MINUTES`. -/
  accessTokenExpireMinutes : ℤ

def Security.createAccessToken (security : Security) (now : Time) (subject : UUID) :
    Except Exc String :=
  security.jwtEncode subject (now + security.accessTokenExpireMinutes * 60 * 1000000)

/-- Settings for examples. -/
def Security.sample : Security where
  verifyPassword password hash := .ok (password = hash)
  jwtEncode subject _ := .ok s!"token-{subject}"
  accessTokenExpireMinutes := 30

namespace Endpoints

/-- The access token of the response; its type is always `bearer`. -/
def loginAccessToken (security : Security) (now : Time) (username password : String) :
    Db String := do
  match ← UserService.getByEmail username with
  | none => throw (.http 401 "Incorrect email or password")
  | some user => do
    if ← lift (security.verifyPassword password user.hashedPassword) then
      if ¬user.isActive then throw (.http 401 "Inactive user")
      else lift (security.createAccessToken now user.id)
    else throw (.http 401 "Incorrect email or password")

end Endpoints
end VirtualStack
