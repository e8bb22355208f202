import VirtualStack.Joins
import VirtualStack.Services.Base

/-!
# `services/iam/permission.py`
-/

namespace VirtualStack.PermissionService
open UnitOfWork

def getByCode (code : String) : Db (Option PermissionModel) :=
  query fun d => d.permissions.find? (·.code = code)

theorem returns_getByCode (code : String) (d : Database) :
    Returns (getByCode code) d (d.permissions.find? (·.code = code)) d := returns_query _ d

/-- Codes are unique, so that the row found by its code is the only one. -/
theorem find?_code_eq_some {d : Database} {code : String} {p : PermissionModel} :
    d.permissions.find? (·.code = code) = some p ↔ p ∈ d.permissions ∧ p.code = code :=
  Rows.find?_key_eq_some d.valid.keys.permissionsCode

end VirtualStack.PermissionService
