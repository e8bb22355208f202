import VirtualStack.Services.Base

/-!
# `services/iam/tenant.py`
-/

namespace VirtualStack
open UnitOfWork

/-- The body of `POST /tenants`. -/
structure TenantCreate where
  name : String
  slug : String
  description : Option String
  isActive : Option Bool
  deriving DecidableEq, Repr

structure TenantUpdate where
  name : Field String
  description : Field String
  isActive : Field Bool
  deriving DecidableEq, Repr

/-- The object made from the body. A column default also replaces an explicit
`None`. -/
def TenantCreate.row (body : TenantCreate) (id : UUID) : Tenant :=
  ⟨id, body.name, body.slug, body.description, body.isActive.getD true⟩

/-- The columns that `CRUDBase.update` sets, a `null` in a non-nullable column
leaving the value to the check in `TenantUpdate.statement`. -/
def TenantUpdate.apply (body : TenantUpdate) (x : Tenant) : Tenant :=
  { x with
    name := (body.name.getD x.name).getD x.name
    description := body.description.getD x.description
    isActive := (body.isActive.getD x.isActive).getD x.isActive }

/-- The `UPDATE` of a tenant. -/
def TenantUpdate.statement (body : TenantUpdate) (id : UUID) (d : Database) :
    Except Exc Database :=
  if body.name = some none ∨ body.isActive = some none then .error .integrityError
  else d.change (Tables.modifyTenant id body.apply)

namespace TenantService

def get (recordId : UUID) : Db (Option Tenant) := CRUDBase.get (·.tenants) (·.id) recordId

def getByName (name : String) : Db (Option Tenant) :=
  query fun d => d.tenants.find? (·.name = name)

def getBySlug (slug : String) : Db (Option Tenant) :=
  query fun d => d.tenants.find? (·.slug = slug)

/-- The join with the assignments of a user, by name; a tenant stands there once
for each role that the user has in it. -/
def getMultiByUser (userId : UUID) : Db (List Tenant) :=
  query fun d => (d.tenants.flatMap fun t =>
    (d.userTenantRoles.filter fun x => x.tenantId = t.id ∧ x.userId = userId).map
      fun _ => t).mergeSort fun x y => x.name ≤ y.name

def create (objIn : TenantCreate) (newId : UUID) : Db Tenant :=
  CRUDBase.create (·.tenants) (·.id) (·.change (Tables.addTenant (objIn.row newId))) newId

def update (dbObj : Tenant) (objIn : TenantUpdate) : Db Tenant :=
  CRUDBase.update (·.tenants) (·.id) (objIn.statement dbObj.id) dbObj.id

def delete (recordId : UUID) : Db (Option Tenant) :=
  CRUDBase.delete (·.tenants) (·.id) (·.change (Tables.dropTenant recordId)) recordId

end TenantService
end VirtualStack
