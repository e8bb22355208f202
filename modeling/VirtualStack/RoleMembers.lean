import VirtualStack.RoleTenancy

/-!
# The users of a role

Setting the users of a role in a tenant, reading them back, and deleting a role. A
role is deleted only while nobody has it in its own tenant; that nobody loses an
assignment elsewhere follows from the invariant that there is none elsewhere.
-/

namespace VirtualStack
namespace RoleService
open UnitOfWork

/-- The users who have the role in the tenant are the requested ones, and nothing
else has changed. -/
structure SetsUsers (roleId tenantId : UUID) (userIds : List UUID) (d d' : Database) : Prop where
  requested : ∀ u, ⟨u, roleId, tenantId⟩ ∈ d'.userTenantRoles ↔ u ∈ userIds
  others : ∀ x : UserTenantRole, ¬(x.roleId = roleId ∧ x.tenantId = tenantId) →
    (x ∈ d'.userTenantRoles ↔ x ∈ d.userTenantRoles)
  frame : { d'.toTables with userTenantRoles := d.userTenantRoles } = d.toTables

section Members

variable {d d' : Database} {roleId tenantId : UUID} {userIds : List UUID}

theorem mem_of_setUsers
    (h : d'.toTables = Tables.addNewAssignments (userIds.map (⟨·, roleId, tenantId⟩))
      (d.dropAssignments fun x => x.roleId = roleId ∧ x.tenantId = tenantId))
    {x : UserTenantRole} : x ∈ d'.userTenantRoles ↔
      x ∈ d.userTenantRoles ∧ ¬(x.roleId = roleId ∧ x.tenantId = tenantId) ∨
        x.userId ∈ userIds ∧ x.roleId = roleId ∧ x.tenantId = tenantId := by
  rw [h]
  simp only [Tables.addNewAssignments, Tables.dropAssignments, Rows.mem_insertNew,
    List.mem_filter, List.mem_map, Bool.not_eq_true', decide_eq_false_iff_not]
  refine or_congr_right ⟨?_, ?_⟩
  · rintro ⟨u, hu, rfl⟩
    exact ⟨hu, rfl, rfl⟩
  · rintro ⟨hu, rfl, rfl⟩
    exact ⟨x.userId, hu, rfl⟩

theorem setsUsers_of_tables
    (h : d'.toTables = Tables.addNewAssignments (userIds.map (⟨·, roleId, tenantId⟩))
      (d.dropAssignments fun x => x.roleId = roleId ∧ x.tenantId = tenantId)) :
    SetsUsers roleId tenantId userIds d d' := by
  refine ⟨fun u => ?_, fun x hx => ?_, ?_⟩
  · simp [mem_of_setUsers h]
  · simp [mem_of_setUsers h, hx]
  · rw [h]
    rfl

/-- The rows of the join that the query keeps. -/
theorem mem_memberRows {p : User × UserTenantRole} :
    p ∈ (Joins.join (fun u x => u.id = x.userId) d.users d.userTenantRoles).filter
      (fun p => p.2.roleId = roleId ∧ p.2.tenantId = tenantId) ↔
    p.1 ∈ d.users ∧ p.2 ∈ d.userTenantRoles ∧ p.2 = ⟨p.1.id, roleId, tenantId⟩ := by
  obtain ⟨u, userId, r, t⟩ := p
  simp only [List.mem_filter, Joins.mem_join, decide_eq_true_eq, UserTenantRole.mk.injEq]
  constructor
  · rintro ⟨⟨hu, hx, hid⟩, hr, ht⟩
    exact ⟨hu, hx, hid.symm, hr, ht⟩
  · rintro ⟨hu, hx, hid, hr, ht⟩
    exact ⟨⟨hu, hx, hid.symm⟩, hr, ht⟩

/-- An assignment is the key of its row, so that the join shows each user once. -/
theorem returns_getUsersForRole (roleId tenantId : UUID) (d : Database) :
    ∃ users, Returns (getUsersForRole roleId tenantId) d users d ∧ (users.map (·.id)).Nodup ∧
      ∀ id, id ∈ users.map (·.id) ↔ ⟨id, roleId, tenantId⟩ ∈ d.userTenantRoles := by
  refine ⟨_, returns_query _ d, ?_, fun id => ?_⟩
  · have husers := List.Nodup.of_map _ d.valid.keys.usersId
    have hrows := (Joins.nodup_join (fun (u : User) (x : UserTenantRole) => u.id = x.userId)
      husers d.valid.keys.userTenantRoles).filter
        fun p => decide (p.2.roleId = roleId ∧ p.2.tenantId = tenantId)
    rw [List.map_map]
    refine hrows.map_on fun p hp q hq hid => ?_
    obtain ⟨hpu, -, hpx⟩ := mem_memberRows.mp hp
    obtain ⟨hqu, -, hqx⟩ := mem_memberRows.mp hq
    have hfst : p.1 = q.1 := Rows.eq_of_key_eq d.valid.keys.usersId hpu hqu hid
    exact Prod.ext hfst (by rw [hpx, hqx, hfst])
  · simp only [List.mem_map]
    constructor
    · rintro ⟨_, ⟨p, hp, rfl⟩, rfl⟩
      obtain ⟨-, hx, heq⟩ := mem_memberRows.mp hp
      rwa [heq] at hx
    · intro hx
      obtain ⟨u, hu, hid⟩ := List.mem_map.mp (d.valid.references.assignmentUser _ hx)
      obtain rfl : u.id = id := hid
      exact ⟨u, ⟨(u, ⟨u.id, roleId, tenantId⟩), mem_memberRows.mpr ⟨hu, hx, rfl⟩, rfl⟩, rfl⟩

end Members

/-- Known users replace the users of a role in a tenant exactly, are read back once
each and stay when the call is repeated; with an unknown user nothing happens. -/
theorem setUsersForRole_replaces (d : Database) (r : Role) (tenantId : UUID) (userIds : List UUID)
    (hr : r ∈ d.roles) (hacc : r.isSystemRole ∨ r.tenantId = some tenantId)
    (ht : tenantId ∈ d.tenants.map (·.id)) :
    ((∀ u ∈ userIds, u ∈ d.users.map (·.id)) →
      ∃ d', (setUsersForRole r.id tenantId userIds).run (.start d) = (.ok userIds, .start d') ∧
        SetsUsers r.id tenantId userIds d d' ∧
        (∃ users, Returns (getUsersForRole r.id tenantId) d' users d' ∧
          (users.map (·.id)).Nodup ∧ ∀ u, u ∈ users.map (·.id) ↔ u ∈ userIds) ∧
        ∃ d'', (setUsersForRole r.id tenantId userIds).run (.start d') =
            (.ok userIds, .start d'') ∧
          ∀ x, x ∈ d''.userTenantRoles ↔ x ∈ d'.userTenantRoles) ∧
    ((∃ u ∈ userIds, u ∉ d.users.map (·.id)) →
      (setUsersForRole r.id tenantId userIds).run (.start d) = (.error .nameError, .start d)) := by
  refine ⟨fun husers => ?_, fun hno => run_setUsersForRole_unknown hr hacc hno d⟩
  obtain ⟨d', hrun, htables⟩ := run_setUsersForRole hr hacc ht husers d
  have hset := setsUsers_of_tables htables
  refine ⟨d', hrun, hset, ?_, ?_⟩
  · obtain ⟨users, hret, hn, hmem⟩ := returns_getUsersForRole r.id tenantId d'
    exact ⟨users, hret, hn, fun u => (hmem u).trans (hset.requested u)⟩
  · have hroles : d'.roles = d.roles := by rw [htables]; rfl
    have htenants : d'.tenants = d.tenants := by rw [htables]; rfl
    have husers' : d'.users = d.users := by rw [htables]; rfl
    obtain ⟨d'', hrun', htables'⟩ := run_setUsersForRole (d := d') (hroles ▸ hr) hacc
      (htenants ▸ ht) (husers' ▸ husers) d'
    refine ⟨d'', hrun', fun x => ?_⟩
    rw [mem_of_setUsers htables', mem_of_setUsers htables]
    by_cases hx : x.roleId = r.id ∧ x.tenantId = tenantId
    · simp [hx]
    · simp [hx]

theorem setUsersForRole_replaces_sample :
    ((∀ u ∈ [2, 1, 2], u ∈ Database.sample.users.map (·.id)) →
      ∃ d', (setUsersForRole 2 1 [2, 1, 2]).run (.start Database.sample) =
          (.ok [2, 1, 2], .start d') ∧
        SetsUsers 2 1 [2, 1, 2] Database.sample d' ∧
        (∃ users, Returns (getUsersForRole 2 1) d' users d' ∧
          (users.map (·.id)).Nodup ∧ ∀ u, u ∈ users.map (·.id) ↔ u ∈ [2, 1, 2]) ∧
        ∃ d'', (setUsersForRole 2 1 [2, 1, 2]).run (.start d') = (.ok [2, 1, 2], .start d'') ∧
          ∀ x, x ∈ d''.userTenantRoles ↔ x ∈ d'.userTenantRoles) ∧
    ((∃ u ∈ [2, 1, 2], u ∉ Database.sample.users.map (·.id)) →
      (setUsersForRole 2 1 [2, 1, 2]).run (.start Database.sample) =
        (.error .nameError, .start Database.sample)) :=
  setUsersForRole_replaces Database.sample ⟨2, "Manager", none, some 1, false⟩ 1 [2, 1, 2]
    (by decide) (.inr rfl) (by decide)

end RoleService

/-! ## Deleting a role -/

open UnitOfWork Runs

/-- The operations on roles, assignments, users and invitations: the ones that write
the role tables, the ones that write only users, permissions of roles or invitations,
and the ones that only read. -/
inductive IamOp where
  | rbac (op : RbacOp)
  | setRolePermissions (roleId : UUID) (permissionIds : List UUID)
  | updateUser (dbObj : User) (objIn : UserUpdate)
  | createInvitation (req : InvitationRequest) (now : Time) (newId : UUID) (newToken : String)
  | verifyToken (now : Time) (token : String)
  | revokeInvitation (invitationId : UUID)
  | read
  deriving DecidableEq, Repr

namespace IamOp

/-- Of an operation that only reads, what remains is that its queries send the
waiting writes. -/
def program (env : Env) : IamOp → Db Unit
  | rbac op => op.program env
  | setRolePermissions roleId permissionIds => RoleService.setRolePermissions roleId permissionIds
  | updateUser dbObj objIn => ignore (UserService.update env dbObj objIn)
  | createInvitation req now newId newToken =>
    ignore (InvitationService.createInvitation req now newId newToken)
  | verifyToken now token => ignore (InvitationService.verifyToken now token)
  | revokeInvitation invitationId => ignore (InvitationService.revokeInvitation invitationId)
  | read => flush

theorem keeps_program {env : Env} (henv : RbacOp.LooksUpAccessible env) (op : IamOp) :
    Keeps (fun d => RespectsTenants d.toTables) (op.program env) := by
  have hI := closed_respectsTenants
  cases op with
  | rbac op => exact op.keeps_program henv
  | setRolePermissions roleId ids =>
    exact keeps_of_autoflush (RoleService.autoflush_setRolePermissions roleId ids) fun v hv =>
      keepsAt_setRolePermissions hI hv (fun _ _ _ => trivial) ids
  | updateUser u body =>
    refine keeps_ignore (keeps_writeRow (keeps_add fun v v' hv hw => ?_))
    rw [UserUpdate.statement] at hw
    split_ifs at hw
    have hv' := Database.change_eq_ok_iff.mp hw
    exact hI.other v v' hv (by rw [hv']; rfl) (by rw [hv']; rfl) (by rw [hv']; rfl)
      (by rw [hv']; rfl)
  | createInvitation req now newId newToken =>
    exact keeps_ignore (keeps_createInvitation_of (fun x => hI.keeps_add_other
      (Tables.addInvitation x) (fun _ => rfl) (fun _ => rfl) (fun _ => rfl) fun _ => rfl)
        req newId newToken)
  | verifyToken now token =>
    exact keeps_ignore (keeps_verifyToken_of (fun id => keeps_setAttributes hI id _) token)
  | revokeInvitation id =>
    exact keeps_ignore (keeps_revokeInvitation_of (fun id => keeps_setAttributes hI id _) id)
  | read => exact keeps_flush

/-- The cascade of a deletion finds no assignment: there is none in the role's own
tenant, and none anywhere else. -/
theorem dropRole_assignments {d : Database} {roleId tenantId : UUID} {role : Role}
    (hd : RespectsTenants d.toTables) (h : RoleService.Deletable d roleId tenantId role) :
    d.userTenantRoles.filter (·.roleId ≠ roleId) = d.userTenantRoles := by
  obtain ⟨hmem, hid, hsys, hten, hfree⟩ := h
  rw [List.filter_eq_self]
  intro x hx
  refine decide_eq_true fun hxr => ?_
  obtain ⟨r, hr, hrid, hacc⟩ := hd x hx
  obtain rfl := Rows.eq_of_key_eq d.valid.keys.rolesId hr hmem (hrid.trans (hxr.trans hid.symm))
  have hxt : some tenantId = some x.tenantId := hten.symm.trans (hacc.resolve_left (by simp [hsys]))
  exact hfree x hx hxr (Option.some.inj hxt).symm

/-- In every state that the operations reach, deleting a role takes the role and its
permissions, and nobody's assignment; where it returns no role it changes nothing. -/
theorem deleteCustomRole_keeps_assignments (env : Env) (henv : RbacOp.LooksUpAccessible env)
    (d₀ : Database) (hd₀ : RespectsTenants d₀.toTables) (steps : List (SessionStep IamOp))
    (roleId tenantId : UUID) (d : Database)
    (hd : d = (after (SessionStep.next (program env)) (.start d₀) steps).committed) :
    match (RoleService.deleteCustomRole roleId tenantId).run (.start d) with
    | (.ok (some role), s) => role ∈ d.roles ∧ role.id = roleId ∧ role.isSystemRole = false ∧
        role.tenantId = some tenantId ∧
        s.committed.toTables =
          { d.toTables with
            roles := d.roles.filter (·.id ≠ roleId)
            rolePermissions := d.rolePermissions.filter (·.roleId ≠ roleId) }
    | (_, s) => s.committed = d := by
  have hinv : RespectsTenants d.toTables := by
    rw [hd]
    exact (inv_after (keeps_program henv) hd₀ steps).committed
  by_cases hex : ∃ role, RoleService.Deletable d roleId tenantId role
  · obtain ⟨role, hdel⟩ := hex
    rw [RoleService.run_deleteCustomRole hdel d]
    obtain ⟨hmem, hid, hsys, hten, -⟩ := id hdel
    refine ⟨hmem, hid, hsys, hten, ?_⟩
    change Tables.mk _ _ _ _ _ (d.userTenantRoles.filter (·.roleId ≠ roleId)) _ _ = _
    rw [dropRole_assignments hinv hdel]
  · rcases RoleService.deleteCustomRole_refused (not_exists.mp hex) with ⟨e, he⟩ | hnone
    · obtain ⟨s, hs, hcommitted⟩ := he d
      rw [hs]
      exact hcommitted
    · rw [hnone d]

/-- The default role of the first tenant is deleted once nobody has it any more. -/
def reached : Database :=
  (after (SessionStep.next (program Env.sample)) (.start Database.sample)
    [.call (.rbac (.assignRole 1 1 1 true)), .call (.revokeInvitation 1), .reopen,
      .call (.rbac (.removeRole 1 1 1 false)), .commit]).committed

theorem deleteCustomRole_reached :
    match (RoleService.deleteCustomRole 1 1).run (.start reached) with
    | (.ok (some role), s) => role ∈ reached.roles ∧ role.id = 1 ∧ role.isSystemRole = false ∧
        role.tenantId = some 1 ∧
        s.committed.toTables =
          { reached.toTables with
            roles := reached.roles.filter (·.id ≠ 1)
            rolePermissions := reached.rolePermissions.filter (·.roleId ≠ 1) }
    | (_, s) => s.committed = reached :=
  deleteCustomRole_keeps_assignments Env.sample RbacOp.looksUpAccessible_sample Database.sample
    (by decide) _ 1 1 reached rfl

end IamOp
end VirtualStack
