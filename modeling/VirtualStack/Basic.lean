import Mathlib.Data.Int.Notation
import Mathlib.Data.Nat.Notation
import VirtualStack.UnitOfWork

/-!
# Values, clocks and exceptions

The vocabulary shared by all tables and services: identifiers, the two kinds of
Python `datetime`, the exceptions that cross function boundaries, and the
permission codes of `core/permissions.py`.
-/

namespace VirtualStack
open UnitOfWork

/-- A number stands for a UUID. The code draws those of version 4, and `UUID4` takes no
others. -/
abbrev UUID := ℕ

/-- A string that is read with `UUID(...)`: the identifier it spells, or a
text on which the constructor raises `ValueError`. -/
inductive UuidText where
  | valid (id : UUID)
  | malformed
  deriving DecidableEq, Repr

/-! ## Time -/

/-- Microseconds since the first instant a `datetime` can name, in UTC. The
naive datetimes of `datetime.utcnow()` and of `DateTime` columns are such
values. -/
abbrev Time := ℤ

def microsecondsPerDay : ℤ := 86400 * 1000000

/-- `datetime` ends with the year 9999, which is day 3652059. -/
def datetimeEnd : Time := 3652059 * microsecondsPerDay

/-- A `datetime` object: the wall clock, and the UTC offset of an aware one. -/
structure DateTime where
  wall : Time
  offset : Option ℤ
  deriving DecidableEq, Repr

/-- The exceptions of the modelled code. `valueError` also stands for its
pydantic subclass `ValidationError`; `validation`, `notFound` and
`authorization` are the classes of `core/exceptions.py`. -/
inductive Exc where
  | http (status : ℕ) (detail : String)
  | integrityError
  | dataError
  | staleDataError
  | invalidRequestError
  | multipleResultsFound
  | pendingRollbackError
  | valueError (message : String)
  | typeError
  | nameError
  | attributeError
  | keyError
  | overflowError
  | runtimeError (message : String)
  | expiredSignatureError
  | jwtError
  | validation (message : String)
  | notFound (message : String)
  | authorization (message : String)
  deriving DecidableEq, Repr

instance : SessionError Exc := ⟨.pendingRollbackError⟩

/-- `a < b` on `datetime` objects: Python refuses to order an aware one
against a naive one. -/
def DateTime.lt (a b : DateTime) : Except Exc Bool :=
  match a.offset, b.offset with
  | none, none => .ok (a.wall < b.wall)
  | some x, some y => .ok (a.wall - x < b.wall - y)
  | _, _ => .error .typeError

/-- `datetime.utcnow()` at the instant `now`. -/
def utcnow (now : Time) : DateTime := ⟨now, none⟩

/-- What a `DateTime(timezone=True)` column gives back for a stored instant. -/
def awareUtc (t : Time) : DateTime := ⟨t, some 0⟩

/-- The instant such a column stores; a naive value is taken in local time. -/
def DateTime.instant (localOffset : ℤ) (a : DateTime) : Time := a.wall - a.offset.getD localOffset

/-- `astimezone(timezone.utc)`; a naive value is read as local time, and years
outside 1 to 9999 are an error. -/
def DateTime.astimezoneUtc (localOffset : ℤ) (a : DateTime) : Except Exc Time :=
  if 0 ≤ a.instant localOffset ∧ a.instant localOffset < datetimeEnd then
    .ok (a.instant localOffset)
  else .error .overflowError

/-- `datetime.utcnow() + timedelta(days=days)`. -/
def addDays (now : Time) (days : ℤ) : Except Exc Time :=
  if 999999999 < days.natAbs then .error .overflowError
  else if 0 ≤ now + days * microsecondsPerDay ∧ now + days * microsecondsPerDay < datetimeEnd then
    .ok (now + days * microsecondsPerDay)
  else .error .overflowError

/-! ## Permission codes -/

/-- The enumeration `Permission`; the members that no endpoint asks for are
reached through their code only. -/
inductive Permission where
  | userRead | userCreate | userUpdate | userDelete
  | tenantRead | tenantCreate | tenantUpdate | tenantDelete
  | apiKeyRead | apiKeyCreate | apiKeyUpdate | apiKeyDelete
  | vmRead | vmCreate | vmUpdate | vmDelete | vmStart | vmStop | vmRestart
  | roleRead | roleCreate | roleUpdate | roleDelete | roleAssignUsers | roleAssign
  | permissionRead | permissionAssign
  | tenantManageRoles | tenantViewRoles | tenantManageRolePermissions
  | tenantViewUsers | tenantManageInvitations
  deriving DecidableEq, Repr

/-- The `value` of a member. -/
def Permission.value : Permission → String
  | userRead => "user:read"
  | userCreate => "user:create"
  | userUpdate => "user:update"
  | userDelete => "user:delete"
  | tenantRead => "tenant:read"
  | tenantCreate => "tenant:create"
  | tenantUpdate => "tenant:update"
  | tenantDelete => "tenant:delete"
  | apiKeyRead => "api_key:read"
  | apiKeyCreate => "api_key:create"
  | apiKeyUpdate => "api_key:update"
  | apiKeyDelete => "api_key:delete"
  | vmRead => "vm:read"
  | vmCreate => "vm:create"
  | vmUpdate => "vm:update"
  | vmDelete => "vm:delete"
  | vmStart => "vm:start"
  | vmStop => "vm:stop"
  | vmRestart => "vm:restart"
  | roleRead => "role:read"
  | roleCreate => "role:create"
  | roleUpdate => "role:update"
  | roleDelete => "role:delete"
  | roleAssignUsers => "role:assign_users"
  | roleAssign => "role:assign"
  | permissionRead => "permission:read"
  | permissionAssign => "permission:assign"
  | tenantManageRoles => "tenant:manage_roles"
  | tenantViewRoles => "tenant:view_roles"
  | tenantManageRolePermissions => "tenant:manage_role_permissions"
  | tenantViewUsers => "tenant:view_users"
  | tenantManageInvitations => "tenant:manage_invitations"

/-- A field of a request body after `model_dump(exclude_unset=True)`: absent,
an explicit `null`, or a value. -/
abbrev Field (α : Type) := Option (Option α)

end VirtualStack
