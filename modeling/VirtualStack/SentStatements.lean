import VirtualStack.Closing
import VirtualStack.Privileges

/-!
# What a request may write

`Statement` lists the statements that the endpoints send, and `ApiRequest.Sends` says
which request sends which, and what it has found before. Everything that a
request leaves in the store comes from such statements.
-/

namespace VirtualStack
open UnitOfWork

inductive Statement where
  | touchAPIKey (id : UUID) (now : Time)
  | addAPIKey (x : APIKey)
  | updateAPIKey (id : UUID) (body : APIKeyUpdate)
  | dropAPIKey (id : UUID)
  | updateUser (id : UUID) (body : UserUpdate)
  | addTenant (x : Tenant)
  | updateTenant (id : UUID) (body : TenantUpdate)
  | dropTenant (id : UUID)
  | addRole (x : Role)
  | updateRole (dbObj : Role) (body : RoleUpdate)
  | dropRole (id : UUID)
  | dropRolePermissions (roleId : UUID)
  | addRolePermissions (roleId : UUID) (permissionIds : List UUID)
  | addAssignment (x : UserTenantRole)
  | addNewAssignments (xs : List UserTenantRole)
  | dropAssignments (p : UserTenantRole → Bool)
  | addInvitation (x : Invitation)
  | expireInvitation (id : UUID)
  | revokeInvitation (id : UUID)

def Statement.apply (env : Env) : Statement → Tables → Tables
  | touchAPIKey id now => Tables.modifyAPIKey id (APIKey.touch now)
  | addAPIKey x => Tables.addAPIKey x
  | updateAPIKey id body => Tables.modifyAPIKey id (body.apply env)
  | dropAPIKey id => Tables.dropAPIKey id
  | updateUser id body => Tables.modifyUser id (body.apply env)
  | addTenant x => Tables.addTenant x
  | updateTenant id body => Tables.modifyTenant id body.apply
  | dropTenant id => Tables.dropTenant id
  | addRole x => Tables.addRole x
  | updateRole dbObj body => Tables.modifyRole dbObj.id (body.changes dbObj)
  | dropRole id => Tables.dropRole id
  | dropRolePermissions roleId => Tables.dropRolePermissions roleId
  | addRolePermissions roleId ids => Tables.addRolePermissions (ids.map (⟨roleId, ·⟩))
  | addAssignment x => Tables.addAssignment x
  | addNewAssignments xs => Tables.addNewAssignments xs
  | dropAssignments p => Tables.dropAssignments p
  | addInvitation x => Tables.addInvitation x
  | expireInvitation id => Tables.modifyInvitation id Invitation.markExpired
  | revokeInvitation id => Tables.modifyInvitation id Invitation.markRevoked

/-- The role is stored, and it is a custom role of the tenant. -/
def CustomRole (t : Tables) (roleId tenantId : UUID) : Prop :=
  ∃ r ∈ t.roles, r.id = roleId ∧ r.tenantId = some tenantId ∧ r.isSystemRole = false

/-- The role is stored, and it is a system role or one of the tenant. -/
def UsableRole (t : Tables) (roleId tenantId : UUID) : Prop :=
  ∃ r ∈ t.roles, r.id = roleId ∧ RoleService.Accessible r tenantId

namespace ApiRequest

/-- When the request identifies its caller, if it does. -/
def identifiesAt : ApiRequest → Option Time
  | personal now _ | listRoles now .. | listPermissions now => some now
  | _ => none

section Sends

variable (env : Env) (h : Headers)

/-- The statements of a request that finds the store `d`, each with the store `v` in
which it is sent. -/
inductive Sends (d : Database) : ApiRequest → Database → Statement → Prop
  | touch {r : ApiRequest} {v : Database} {now : Time} {k : APIKey}
      (hnow : r.identifiesAt = some now) (hkey : Deps.presentedKey env now h d = .ok (some k)) :
      Sends d r v (.touchAPIKey k.id now)
  | updateMe {v : Database} {now : Time} {sent body : UserUpdate} {u : User}
      (hcaller : Deps.currentUser env now h d = .ok u) (hbody : sent.validate env = .ok body) :
      Sends d (.personal now (.updateMe sent)) v (.updateUser u.id body)
  | updateStatus {v : Database} {now : Time} {userId : UUID} {isActive : Bool} {u : User}
      {t : Tenant} (hcaller : Deps.permitted env now h .userUpdate d = .ok (u, t))
      (hmember : IsMember d.toTables userId t.id) :
      Sends d (.personal now (.updateUserStatus userId isActive)) v
        (.updateUser userId (.status isActive))
  | removeUser {v : Database} {now : Time} {userId : UUID} {u : User} {t : Tenant}
      (hcaller : Deps.permitted env now h .userDelete d = .ok (u, t)) :
      Sends d (.personal now (.removeUser userId)) v
        (.dropAssignments fun x => x.userId = userId ∧ x.tenantId = t.id)
  | createAPIKey {v : Database} {now : Time} {body : APIKeyCreate} {newId : UUID}
      {token : UrlsafeText} {u : User} {tenantId : Option UUID} {expiresAt : Option Time}
      (hcaller : Deps.currentActiveUser env now h d = .ok u)
      (htenant : body.tenantId = none ∨ u.isSuperuser)
      (hkey : body.keyTenant body.tenantId = .ok tenantId)
      (hexp : body.expiry env = .ok expiresAt) :
      Sends d (.personal now (.createAPIKey body newId token)) v
        (.addAPIKey (APIKeyService.newRow env body u.id tenantId expiresAt newId
          (APIKeyService.generateAPIKey token)))
  | updateAPIKey {v : Database} {now : Time} {id : UUID} {body : APIKeyUpdate} {u : User}
      {k : APIKey} (hcaller : Deps.currentActiveUser env now h d = .ok u) (hk : k ∈ v.apiKeys)
      (hid : k.id = id) (hmay : u.isSuperuser ∨ k.userId = u.id) :
      Sends d (.personal now (.updateAPIKey id body)) v (.updateAPIKey id body)
  | deleteAPIKey {v : Database} {now : Time} {id : UUID} {u : User} {k : APIKey}
      (hcaller : Deps.currentActiveUser env now h d = .ok u) (hk : k ∈ v.apiKeys)
      (hid : k.id = id) (hmay : u.isSuperuser ∨ k.userId = u.id) :
      Sends d (.personal now (.deleteAPIKey id)) v (.dropAPIKey id)
  | createInvitation {v : Database} {now : Time} {sent body : InvitationCreate} {newId : UUID}
      {token : String} {u : User} {t : Tenant} {expiresAt : Time}
      (hcaller : Deps.permitted env now h .tenantManageInvitations d = .ok (u, t))
      (hbody : sent.validate env = .ok body)
      (hnone : InvitationService.duplicate v (body.request u.id) now = none)
      (hexp : (body.request u.id).expiresAt now = .ok expiresAt) :
      Sends d (.personal now (.createInvitation sent newId token)) v
        (.addInvitation ((body.request u.id).row now newId token expiresAt))
  | revokeInvitation {v : Database} {now : Time} {id : UUID} {u : User} {x : Invitation}
      (hcaller : Deps.currentUser env now h d = .ok u) (hx : x ∈ v.invitations) (hid : x.id = id)
      (hpending : x.status = .pending) (hmay : Endpoints.MayManage v u x.tenantId) :
      Sends d (.personal now (.revokeInvitation id)) v (.revokeInvitation id)
  | verify {v : Database} {now : Time} {token : String} {x : Invitation} (hx : x ∈ v.invitations)
      (htoken : x.token = token) (hexp : x.expiresAt < now) :
      Sends d (.verifyInvitation now token) v (.expireInvitation x.id)
  | accept {v : Database} {now : Time} {payload : InvitationAccept} {newUserId : UUID}
      {x : Invitation} (hpassword : 8 ≤ payload.password.length) (hx : x ∈ v.invitations)
      (htoken : x.token = payload.token) (hexp : x.expiresAt < now) :
      Sends d (.acceptInvitation now payload newUserId) v (.expireInvitation x.id)
  | createTenant {v : Database} {body : TenantCreate} {newId : UUID}
      (hslug : IsSlug body.slug) (hname : ∀ x ∈ v.tenants, x.name ≠ body.name) :
      Sends d (.admin (.createTenant body newId)) v (.addTenant (body.row newId))
  | updateTenant {v : Database} {tenantId : UUID} {body : TenantUpdate} :
      Sends d (.admin (.updateTenant tenantId body)) v (.updateTenant tenantId body)
  | deleteTenant {v : Database} {tenantId : UUID} :
      Sends d (.admin (.deleteTenant tenantId)) v (.dropTenant tenantId)
  | createRole {v : Database} {tenantId newId : UUID} {body : RoleCreate}
      (hname : ∀ r ∈ v.roles, r.name = body.name → r.tenantId ≠ some tenantId) :
      Sends d (.admin (.createRole tenantId body newId)) v (.addRole (body.row newId tenantId))
  | clearNewRole {v : Database} {tenantId newId : UUID} {body : RoleCreate}
      (hnew : newId ∉ d.roles.map (·.id)) (hrole : CustomRole v.toTables newId tenantId) :
      Sends d (.admin (.createRole tenantId body newId)) v (.dropRolePermissions newId)
  | equipNewRole {v : Database} {tenantId newId : UUID} {body : RoleCreate}
      (hnew : newId ∉ d.roles.map (·.id)) (hrole : CustomRole v.toTables newId tenantId) :
      Sends d (.admin (.createRole tenantId body newId)) v
        (.addRolePermissions newId (body.permissionIds.getD []))
  | updateRole {v : Database} {tenantId : UUID} {body : RoleUpdate} {role : Role}
      (hrole : role ∈ v.roles) (htenant : role.tenantId = some tenantId)
      (hcustom : role.isSystemRole = false) :
      Sends d (.admin (.updateRole tenantId role.id body)) v (.updateRole role body)
  | clearRole {v : Database} {tenantId roleId : UUID} {body : RoleUpdate}
      (hrole : CustomRole v.toTables roleId tenantId) :
      Sends d (.admin (.updateRole tenantId roleId body)) v (.dropRolePermissions roleId)
  | equipRole {v : Database} {tenantId roleId : UUID} {body : RoleUpdate} {ids : List UUID}
      (hrole : CustomRole v.toTables roleId tenantId) (hids : body.permissionIds = some ids) :
      Sends d (.admin (.updateRole tenantId roleId body)) v (.addRolePermissions roleId ids)
  | deleteRole {v : Database} {tenantId roleId : UUID}
      (hrole : CustomRole v.toTables roleId tenantId)
      (hfree : ∀ x ∈ v.userTenantRoles, x.roleId = roleId → x.tenantId ≠ tenantId) :
      Sends d (.admin (.deleteRole tenantId roleId)) v (.dropRole roleId)
  | clearUsers {v : Database} {tenantId roleId : UUID} {userIds : List UUID}
      (hrole : UsableRole v.toTables roleId tenantId) :
      Sends d (.admin (.setRoleUsers tenantId roleId userIds)) v
        (.dropAssignments fun x => x.roleId = roleId ∧ x.tenantId = tenantId)
  | setUsers {v : Database} {tenantId roleId : UUID} {userIds : List UUID}
      (hrole : UsableRole v.toTables roleId tenantId) :
      Sends d (.admin (.setRoleUsers tenantId roleId userIds)) v
        (.addNewAssignments (userIds.map (⟨·, roleId, tenantId⟩)))
  | assignRole {v : Database} {tenantId userId roleId : UUID} {r : Role}
      (hmember : IsMember v.toTables userId tenantId)
      (hrole : env.getRoleByIdAndTenant v roleId tenantId = .ok (some r)) :
      Sends d (.assignRole tenantId userId roleId) v (.addAssignment ⟨userId, roleId, tenantId⟩)
  | removeRole {v : Database} {tenantId userId roleId : UUID} :
      Sends d (.removeRole tenantId userId roleId) v
        (.dropAssignments fun x => x.userId = userId ∧ x.tenantId = tenantId ∧ x.roleId = roleId)

/-- One statement of the request. -/
def Step (d : Database) (r : ApiRequest) (v v' : Database) : Prop :=
  ∃ e, Sends env h d r v e ∧ v'.toTables = e.apply env v.toTables

/-- No statement of the request leads out of `I`. -/
def Closes (d : Database) (r : ApiRequest) (I : Database → Prop) : Prop :=
  ∀ v v', I v → Step env h d r v v' → I v'

end Sends

/-- The store after a request. -/
def outcome (closing : Ending) (env : Env) (security : Security) (call : Headers × ApiRequest) :
    Database → Database :=
  stored closing (Deps.handle call.1 (call.2.endpoint env security call.1))

end ApiRequest
end VirtualStack
