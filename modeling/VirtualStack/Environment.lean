import VirtualStack.Statements

/-!
# What the program gets from outside

Functions of libraries and of modules that are not part of the repository. They
are left open: nothing is assumed about them here, and a result that needs
something of them says so.
-/

namespace VirtualStack
open UnitOfWork

/-- Programs over one database session. -/
abbrev Db := Tx Database Exc

/-- The query string of a request. -/
abbrev Query := List (String × String)

/-- A token payload after `TokenPayload.model_validate`. -/
structure TokenPayload where
  sub : Option UuidText
  deriving DecidableEq, Repr

structure Env where
  /-- `pwd_context.hash` -/
  createPasswordHash : String → String
  /-- `hashlib.sha256(...).hexdigest()` -/
  hashAPIKey : String → String
  /-- `EmailStr`: the normalized address, or nothing for a text it refuses. -/
  emailStr : String → Option String
  /-- `jwt.decode` at a time: it raises, or gives a payload, which may fail
  the validation of `TokenPayload` (`none`). -/
  jwtDecode : Time → String → Except Exc (Option TokenPayload)
  /-- `role_service.get_role_by_id_and_tenant`, which the repository calls and
  does not define. -/
  getRoleByIdAndTenant : Database → UUID → UUID → Except Exc (Option Role)
  /-- Whether `Role` has the relationship `permissions` that the role service
  refreshes. The model declares none. -/
  rolePermissionsMapped : Bool
  /-- What FastAPI runs for `_: User = Depends(None)`, `User` being the mapped
  class: without a dependency it calls the annotated class with parameters
  taken from the query string. -/
  ormUserClass : Query → Except Exc Unit
  /-- The same for `requesting_user: UserSchema = Depends(None)`. -/
  userSchemaClass : Query → Except Exc Unit
  /-- Whether the driver's text of an `IntegrityError` contains a string. -/
  integrityTextMentions : String → Bool
  /-- The UTC offset of the server's local time. -/
  localOffset : ℤ

/-- An environment for examples. Its tokens are signed for the users 1 and 2, its
one API key is hashed as SHA-256 does, and the missing role lookup returns the
system roles and the tenant's own. -/
def Env.sample : Env where
  createPasswordHash password := password
  hashAPIKey key :=
    if key = "vs_9f3kQ7dLx2Pz" then
      "51bbdb8d0d5019e23886325b448a8a40cffd3c4e6dc465514c1b5b1991e56139"
    else key
  emailStr text := if '@' ∈ text.toList then some text else none
  jwtDecode _ token :=
    if token = "token-1" then .ok (some ⟨some (.valid 1)⟩)
    else if token = "token-2" then .ok (some ⟨some (.valid 2)⟩)
    else .error .jwtError
  getRoleByIdAndTenant d roleId tenantId := .ok <| d.roles.find? fun r =>
    r.id = roleId ∧ (r.isSystemRole ∨ r.tenantId = some tenantId)
  rolePermissionsMapped := false
  ormUserClass _ := .error .typeError
  userSchemaClass query :=
    if query.any (·.1 = "id") ∧ query.any (·.1 = "created_at") then .ok ()
    else .error (.http 422 "Field required")
  integrityTextMentions text := text = "users_email_key"
  localOffset := 0

end VirtualStack
