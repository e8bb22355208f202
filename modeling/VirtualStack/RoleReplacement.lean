import VirtualStack.Endpoints.Roles

/-!
# Replacing the permissions of a role

`set_role_permissions` deletes the rows of a role and inserts new ones. What it
leaves, and what becomes of a failure, is followed through its two callers:
creating a role commits before the rows are inserted, updating one does not.
-/

namespace VirtualStack.RoleService
open UnitOfWork

/-- The permissions of the role are the requested ones, each stored once, and nothing
else has changed. -/
structure SetsPermissions (roleId : UUID) (ids : List UUID) (d d' : Database) : Prop where
  requested : ∀ p, ⟨roleId, p⟩ ∈ d'.rolePermissions ↔ p ∈ ids
  once : ∀ p ∈ ids, d'.rolePermissions.count ⟨roleId, p⟩ = 1
  others : ∀ x : RolePermission, x.roleId ≠ roleId →
    (x ∈ d'.rolePermissions ↔ x ∈ d.rolePermissions)
  frame : { d'.toTables with rolePermissions := d.rolePermissions } = d.toTables

section Replacement

variable {d d' : Database} {roleId : UUID} {ids : List UUID}

theorem mem_of_permissionChange (h : permissionChange roleId ids d = .ok d') {x : RolePermission} :
    x ∈ d'.rolePermissions ↔
      x ∈ d.rolePermissions ∧ x.roleId ≠ roleId ∨ x.roleId = roleId ∧ x.permissionId ∈ ids := by
  rw [permissions_of_permissionChange h]
  simp only [Tables.addRolePermissions, Tables.dropRolePermissions, List.mem_append,
    List.mem_filter, List.mem_map, decide_eq_true_eq]
  refine or_congr_right ⟨?_, ?_⟩
  · rintro ⟨p, hp, rfl⟩
    exact ⟨rfl, hp⟩
  · rintro ⟨rfl, hp⟩
    exact ⟨_, hp, rfl⟩

theorem setsPermissions_of_change (h : permissionChange roleId ids d = .ok d') :
    SetsPermissions roleId ids d d' := by
  have hreq (p : UUID) : ⟨roleId, p⟩ ∈ d'.rolePermissions ↔ p ∈ ids := by
    simp [mem_of_permissionChange h]
  refine ⟨hreq, fun p hp => ?_, fun x hx => ?_, ?_⟩
  · exact List.count_eq_one_of_mem d'.valid.keys.rolePermissions ((hreq p).mpr hp)
  · simp [mem_of_permissionChange h, hx]
  · rw [permissions_of_permissionChange h]
    rfl

theorem nodup_of_returns (hret : Returns (setRolePermissions roleId ids) d () d') : ids.Nodup := by
  cases hc : permissionChange roleId ids d with
  | ok d₁ => exact (permissionChange_ok_iff.mp ⟨d₁, hc⟩).1
  | error e =>
    obtain ⟨e', he'⟩ := reverts_setRolePermissions hc
    obtain ⟨s, hs, -⟩ := he' d
    rw [hret d] at hs
    cases hs

end Replacement

/-- A list of stored permissions is realised exactly when it names none of them
twice. -/
theorem setsPermissions_iff (d : Database) (r : Role) (ids : List UUID) (hr : r ∈ d.roles)
    (hids : ∀ p ∈ ids, p ∈ d.permissions.map (·.id)) :
    (∃ d', Returns (setRolePermissions r.id ids) d () d' ∧ SetsPermissions r.id ids d d') ↔
      ids.Nodup := by
  have hrole : r.id ∈ d.roles.map (·.id) := List.mem_map.mpr ⟨r, hr, rfl⟩
  constructor
  · rintro ⟨d', hret, -⟩
    exact nodup_of_returns hret
  · intro hn
    obtain ⟨d', hd'⟩ := permissionChange_ok_iff.mpr ⟨hn, fun p hp => ⟨hids p hp, hrole⟩⟩
    exact ⟨d', returns_setRolePermissions hd', setsPermissions_of_change hd'⟩

theorem setsPermissions_sample_iff :
    (∃ d', Returns (setRolePermissions 2 [1]) Database.sample () d' ∧
      SetsPermissions 2 [1] Database.sample d') ↔ [1].Nodup :=
  setsPermissions_iff Database.sample ⟨2, "Manager", none, some 1, false⟩ [1] (by decide)
    (by decide)

/-- Naming the one permission twice is refused. -/
theorem not_setsPermissions_sample :
    (⟨2, "Manager", none, some 1, false⟩ : Role) ∈ Database.sample.roles ∧
      (∀ p ∈ [1, 1], p ∈ Database.sample.permissions.map (·.id)) ∧
      ¬∃ d', Returns (setRolePermissions 2 [1, 1]) Database.sample () d' ∧
        SetsPermissions 2 [1, 1] Database.sample d' := by
  refine ⟨by decide, by decide, ?_⟩
  rintro ⟨d', hret, -⟩
  exact absurd (nodup_of_returns hret) (by decide)

/-! ## Creating a role -/

/-- The state after a creation differs by the new role and by its permissions. -/
structure CreatesRole (body : RoleCreate) (tenantId : UUID) (role : Role) (d d' : Database) :
    Prop where
  name : role.name = body.name
  description : role.description = body.description
  custom : role.isSystemRole = false
  owner : role.tenantId = some tenantId
  new : role.id ∉ d.roles.map (·.id)
  tables : d'.toTables =
    { d.toTables with
      roles := d.roles ++ [role]
      rolePermissions := d.rolePermissions ++ (body.permissionIds.getD []).map (⟨role.id, ·⟩) }

/-- The role is created as a whole, or nothing of it is committed. -/
def AllOrNothing (env : Env) (d : Database) (body : RoleCreate) (tenantId newId : UUID) : Prop :=
  match (createCustomRole env body tenantId newId).run (.start d) with
  | (.ok role, s) => CreatesRole body tenantId role d s.committed
  | (.error _, s) => s.committed = d

section Creation

variable {env : Env} {d : Database} {body : RoleCreate} {tenantId newId : UUID}

/-- The state between the two commits. -/
def withRole (hc : Endpoints.CanCreateRole d tenantId body newId) : Database := ⟨_, hc.2⟩

theorem run_createCustomRole (hc : Endpoints.CanCreateRole d tenantId body newId) :
    (createCustomRole env body tenantId newId).run (.start d) =
      (completeCustomRole env body (body.row newId tenantId)).run (.start (withRole hc)) := by
  have hf : (d.roles.find? fun r => r.name = body.name ∧ r.tenantId = some tenantId) = none := by
    rw [List.find?_eq_none]
    intro r hr hp
    obtain ⟨hn, ht⟩ := of_decide_eq_true hp
    exact hc.1 r hr hn ht
  have hadd : d.change (Tables.addRole (body.row newId tenantId)) = .ok (withRole hc) :=
    Database.change_eq_ok _
  rw [createCustomRole, run_bind_ok (returns_getByNameInTenant body.name tenantId d d), hf]
  dsimp only
  rw [run_bind_ok (add_clean d d _), run_bind_ok (commit_one_ok d d hadd)]

theorem new_of_canCreateRole (hc : Endpoints.CanCreateRole d tenantId body newId) :
    newId ∉ d.roles.map (·.id) :=
  (Rows.nodup_map_concat d.valid.keys.rolesId).mp hc.2.keys.rolesId

/-- No row of `role_permissions` names a role that is not stored. -/
theorem dropRolePermissions_new {id : UUID} (hid : id ∉ d.roles.map (·.id)) :
    d.rolePermissions.filter (·.roleId ≠ id) = d.rolePermissions := by
  rw [List.filter_eq_self]
  intro x hx
  have hrole := d.valid.references.rolePermissionRole x hx
  exact decide_eq_true fun hx => hid (hx ▸ hrole)

theorem tables_of_change_new (hc : Endpoints.CanCreateRole d tenantId body newId) {d' : Database}
    {ids : List UUID} (h : permissionChange newId ids (withRole hc) = .ok d') :
    d'.toTables =
      { d.toTables with
        roles := d.roles ++ [body.row newId tenantId]
        rolePermissions := d.rolePermissions ++ ids.map (⟨newId, ·⟩) } := by
  rw [permissions_of_permissionChange h]
  change Tables.mk _ _ _ _ (d.rolePermissions.filter (·.roleId ≠ newId) ++ _) _ _ _ = _
  rw [dropRolePermissions_new (new_of_canCreateRole hc)]
  rfl

theorem run_refresh (hmap : env.rolePermissionsMapped = true) (role : Role) (v : Database) :
    ((do
      refreshPermissions env
      pure role : Db Role)).run (.start v) = (.ok role, .start v) := by
  rw [run_bind, refreshPermissions, run_lift, hmap]
  rfl

/-- Once the role is committed, its permissions are stored ... -/
theorem run_completeCustomRole_ok (hmap : env.rolePermissionsMapped = true)
    (hc : Endpoints.CanCreateRole d tenantId body newId) {d' : Database}
    (h : permissionChange newId (body.permissionIds.getD []) (withRole hc) = .ok d') :
    (completeCustomRole env body (body.row newId tenantId)).run (.start (withRole hc)) =
      (.ok (body.row newId tenantId), .start d') := by
  rw [completeCustomRole]
  split_ifs with hids
  · have hsame : d' = withRole hc := by
      apply Database.ext_tables
      rw [tables_of_change_new hc h, hids, List.map_nil, List.append_nil]
      rfl
    rw [hsame]
    exact run_refresh hmap _ _
  · have hset : (setRolePermissions (body.row newId tenantId).id (body.permissionIds.getD [])).run
        (.start (withRole hc)) = (.ok (), .clean (withRole hc) d') :=
      returns_setRolePermissions h (withRole hc)
    rw [run_bind_ok hset, run_bind_ok (commit_clean _ d')]
    exact run_refresh hmap _ _

/-- ... or it stays without them. -/
theorem run_completeCustomRole_error (env : Env)
    (hc : Endpoints.CanCreateRole d tenantId body newId)
    {e : Exc} (h : permissionChange newId (body.permissionIds.getD []) (withRole hc) = .error e) :
    (completeCustomRole env body (body.row newId tenantId)).run (.start (withRole hc)) =
      (.error .nameError, .start (withRole hc)) := by
  have hset : (setRolePermissions (body.row newId tenantId).id
      (body.permissionIds.getD [])).run (.start (withRole hc)) =
      (.error .nameError, .start (withRole hc)) := run_setRolePermissions_refused h (withRole hc)
  rw [completeCustomRole, if_neg (error_of_permissionChange h).1, run_bind_error hset]

/-- The role can be given the permissions that the body asks for. -/
theorem permissionChange_new_iff (hc : Endpoints.CanCreateRole d tenantId body newId)
    {ids : List UUID} : (∃ d', permissionChange newId ids (withRole hc) = .ok d') ↔
      ids.Nodup ∧ ∀ p ∈ ids, p ∈ d.permissions.map (·.id) := by
  have hrole : newId ∈ (withRole hc).roles.map (·.id) :=
    List.mem_map.mpr ⟨body.row newId tenantId, List.mem_append_right _ (by simp), rfl⟩
  rw [permissionChange_ok_iff]
  exact and_congr_right fun _ => forall₂_congr fun p _ => and_iff_left hrole

end Creation

/-- A creation is all or nothing exactly when the role is refused as such or the list
of permissions is one that can be stored: known ids, none of them twice. -/
theorem allOrNothing_iff (env : Env) (d : Database) (body : RoleCreate) (tenantId newId : UUID)
    (hmap : env.rolePermissionsMapped = true) :
    AllOrNothing env d body tenantId newId ↔
      (Endpoints.CanCreateRole d tenantId body newId →
        (body.permissionIds.getD []).Nodup ∧
          ∀ p ∈ body.permissionIds.getD [], p ∈ d.permissions.map (·.id)) := by
  rw [AllOrNothing]
  by_cases hc : Endpoints.CanCreateRole d tenantId body newId
  · rw [run_createCustomRole hc, forall_prop_of_true hc, ← permissionChange_new_iff hc]
    cases h : permissionChange newId (body.permissionIds.getD []) (withRole hc) with
    | ok d' =>
      rw [run_completeCustomRole_ok hmap hc h]
      exact iff_of_true ⟨rfl, rfl, rfl, rfl, new_of_canCreateRole hc, tables_of_change_new hc h⟩
        ⟨d', rfl⟩
    | error e =>
      rw [run_completeCustomRole_error env hc h]
      refine iff_of_false ?_ (by simp)
      -- the role is in the committed state, where it was not before
      intro hd
      change withRole hc = d at hd
      refine new_of_canCreateRole hc ?_
      rw [← hd]
      exact List.mem_map.mpr ⟨body.row newId tenantId, List.mem_append_right _ (by simp), rfl⟩
  · have hfail : Fails (createCustomRole env body tenantId newId) d :=
      Endpoints.fails_createCustomRole hc
    obtain ⟨e, he⟩ := hfail
    obtain ⟨s, hs, hcommitted⟩ := he d
    rw [hs]
    exact iff_of_true hcommitted fun hcan => absurd hcan hc

/-- A role for the second tenant with the one permission there is. -/
theorem allOrNothing_sample_iff :
    AllOrNothing { Env.sample with rolePermissionsMapped := true } Database.sample
        ⟨"Auditor", none, some [1]⟩ 2 3 ↔
      (Endpoints.CanCreateRole Database.sample 2 ⟨"Auditor", none, some [1]⟩ 3 →
        ([1] : List UUID).Nodup ∧ ∀ p ∈ [1], p ∈ Database.sample.permissions.map (·.id)) :=
  allOrNothing_iff _ Database.sample ⟨"Auditor", none, some [1]⟩ 2 3 rfl

/-- With an unknown permission the creation raises, and the role is there. -/
theorem not_allOrNothing_sample :
    ¬AllOrNothing { Env.sample with rolePermissionsMapped := true } Database.sample
      ⟨"Auditor", none, some [9]⟩ 2 3 := by
  have hrun : (createCustomRole { Env.sample with rolePermissionsMapped := true }
      ⟨"Auditor", none, some [9]⟩ 2 3).run (.start Database.sample) =
      (.error .nameError, .start ⟨Database.sample.addRole
        ⟨3, "Auditor", none, some 2, false⟩, by decide⟩) := rfl
  rw [AllOrNothing, hrun]
  intro hd
  exact absurd (congrArg (fun d : Database => d.roles.length) hd) (by decide)

/-! ## Updating a role -/

/-- An update that is accepted for a stored role. -/
structure Updatable (d : Database) (r : Role) (body : RoleUpdate) : Prop where
  custom : r.isSystemRole = false
  named : body.name ≠ some none
  fits : ∀ n, body.name = some (some n) → n.length ≤ 255
  permissions : ∀ ids, body.permissionIds = some ids →
    ids.Nodup ∧ ∀ p ∈ ids, p ∈ d.permissions.map (·.id)

/-- What was set is replaced in the row of the role and among its permissions, and
nothing else has changed. -/
structure UpdatesRole (r : Role) (body : RoleUpdate) (d d' : Database) : Prop where
  roles : d'.roles = Rows.modify (·.id) r.id (fun x =>
    { x with
      name := body.name.join.getD x.name
      description := body.description.getD x.description }) d.roles
  permissions : ∀ p, ⟨r.id, p⟩ ∈ d'.rolePermissions ↔
    match body.permissionIds with
    | some ids => p ∈ ids
    | none => ⟨r.id, p⟩ ∈ d.rolePermissions
  others : ∀ x : RolePermission, x.roleId ≠ r.id →
    (x ∈ d'.rolePermissions ↔ x ∈ d.rolePermissions)
  frame : { d'.toTables with roles := d.roles, rolePermissions := d.rolePermissions } = d.toTables

section Update

variable {env : Env} {d d' : Database} {r : Role} {body : RoleUpdate}

/-- For the row that the object was loaded from, the columns of the `UPDATE` are the
ones that were set. -/
theorem changes_eq_apply (body : RoleUpdate) (r : Role) : body.changes r r = body.apply r := by
  rw [RoleUpdate.changes]
  split_ifs with hn hd hd <;> simp_all [RoleUpdate.apply]

theorem length_apply_name (hn : body.name ≠ some none)
    (hfits : ∀ n, body.name = some (some n) → n.length ≤ 255) (hr : r.name.length ≤ 255) :
    (body.apply r).name.length ≤ 255 := by
  rw [RoleUpdate.apply]
  match hname : body.name with
  | none => exact hr
  | some none => exact absurd hname hn
  | some (some n) => exact hfits n hname

/-- The `UPDATE` is accepted when the name is neither `null` nor too long. -/
theorem statement_ok_iff (hr : r ∈ d.roles) : (∃ d', body.statement r d = .ok d') ↔
    body.name ≠ some none ∧ ∀ n, body.name = some (some n) → n.length ≤ 255 := by
  constructor
  · rintro ⟨d', h⟩
    have htables := tables_of_statement h
    refine ⟨fun hn => ?_, fun n hn => ?_⟩
    · rw [RoleUpdate.statement, if_pos hn] at h
      cases h
    · have hrow : body.changes r r ∈ d'.roles := by
        rw [htables]
        exact Rows.mem_modify.mpr ⟨r, hr, (if_pos rfl).symm⟩
      have hwidth := d'.valid.widths.roles _ hrow
      rw [changes_eq_apply] at hwidth
      simpa [RoleUpdate.apply, hn] using hwidth
  · rintro ⟨hn, hfits⟩
    rw [RoleUpdate.statement, if_neg hn]
    have hvalid : (d.modifyRole r.id (body.changes r)).Valid := by
      refine d.valid.modifyRole r.id (fun _ => rfl) (fun _ => rfl) fun x hx hid => ?_
      obtain rfl := Rows.eq_of_key_eq d.valid.keys.rolesId hx hr hid
      rw [changes_eq_apply]
      exact length_apply_name hn hfits (d.valid.widths.roles x hx)
    split_ifs with hsame hany
    · exact ⟨d, rfl⟩
    · exact ⟨_, Database.change_eq_ok hvalid⟩
    · exact absurd (List.any_eq_true.mpr ⟨r, hr, decide_eq_true rfl⟩) hany

/-- The rows of the statement, by the columns that were set. -/
theorem modify_changes_eq (hr : r ∈ d.roles) :
    Rows.modify (·.id) r.id (body.changes r) d.roles = Rows.modify (·.id) r.id (fun x =>
      { x with
        name := body.name.join.getD x.name
        description := body.description.getD x.description }) d.roles := by
  refine Rows.modify_congr fun x hx hid => ?_
  obtain rfl := Rows.eq_of_key_eq d.valid.keys.rolesId hx hr hid
  rw [changes_eq_apply, RoleUpdate.apply]
  match body.name with
  | none => rfl
  | some none => rfl
  | some (some n) => rfl

theorem updateChange_ok_iff (hr : r ∈ d.roles) : (∃ d', updateChange r body d = .ok d') ↔
    body.name ≠ some none ∧ (∀ n, body.name = some (some n) → n.length ≤ 255) ∧
      ∀ ids, body.permissionIds = some ids →
        ids.Nodup ∧ ∀ p ∈ ids, p ∈ d.permissions.map (·.id) := by
  have hstatement {d₁ : Database}
      (hp : givenPermissionChange r.id body.permissionIds d = .ok d₁) :
      (∃ d', body.statement r d₁ = .ok d') ↔
        body.name ≠ some none ∧ ∀ n, body.name = some (some n) → n.length ≤ 255 :=
    statement_ok_iff (by rw [roles_of_givenPermissionChange hp]; exact hr)
  rw [← and_assoc, ← givenPermissionChange_ok_iff (List.mem_map.mpr ⟨r, hr, rfl⟩)]
  constructor
  · rintro ⟨d', hd'⟩
    obtain ⟨d₁, hp, hw⟩ := updateChange_eq_ok_iff.mp hd'
    exact ⟨(hstatement hp).mp ⟨d', hw⟩, d₁, hp⟩
  · rintro ⟨hn, d₁, hp⟩
    obtain ⟨d', hw⟩ := (hstatement hp).mpr hn
    exact ⟨d', updateChange_eq_ok_iff.mpr ⟨d₁, hp, hw⟩⟩

theorem updatesRole_of_change (hr : r ∈ d.roles) (h : updateChange r body d = .ok d') :
    UpdatesRole r body d d' := by
  obtain ⟨d₁, hp, hw⟩ := updateChange_eq_ok_iff.mp h
  have htables := tables_of_statement hw
  have hroles := (roles_of_updateChange h).trans (modify_changes_eq hr)
  have hperms : d'.rolePermissions = d₁.rolePermissions := by rw [htables]; rfl
  cases heq : body.permissionIds with
  | none =>
    rw [heq] at hp
    cases hp
    refine ⟨hroles, fun p => ?_, fun x _ => by rw [hperms], ?_⟩
    · rw [heq, hperms]
    · rw [htables]
      rfl
  | some ids =>
    rw [heq] at hp
    have hset := setsPermissions_of_change hp
    refine ⟨hroles, fun p => ?_, fun x hx => ?_, ?_⟩
    · rw [heq, hperms]
      exact hset.requested p
    · rw [hperms, hset.others x hx]
    · rw [htables, permissions_of_permissionChange hp]
      rfl

end Update

/-- An update of a stored role returns when it is accepted, having replaced what was
set and nothing else; when it raises, nothing of it is committed. -/
theorem updateCustomRole_atomic (env : Env) (d : Database) (r : Role) (body : RoleUpdate)
    (hmap : env.rolePermissionsMapped = true) (hr : r ∈ d.roles) :
    ((∃ x s, (updateCustomRole env r body).run (.start d) = (.ok x, s)) ↔ Updatable d r body) ∧
    match (updateCustomRole env r body).run (.start d) with
    | (.ok _, s) => UpdatesRole r body d s.committed
    | (.error _, s) => s.committed = d := by
  cases hsys : r.isSystemRole with
  | true =>
    have hrun : (updateCustomRole env r body).run (.start d) = (.error .nameError, .start d) := by
      rw [updateCustomRole, if_pos hsys, run_throw]
    rw [hrun]
    refine ⟨iff_of_false (by simp) fun hu => ?_, rfl⟩
    rw [hu.custom] at hsys
    cases hsys
  | false =>
    have hiff : (∃ d', updateChange r body d = .ok d') ↔ _ := updateChange_ok_iff hr
    cases h : updateChange r body d with
    | ok d' =>
      obtain ⟨hn, hfits, hids⟩ := hiff.mp ⟨d', h⟩
      rw [run_updateCustomRole hsys h d, hmap]
      exact ⟨iff_of_true ⟨_, _, rfl⟩ ⟨hsys, hn, hfits, hids⟩, updatesRole_of_change hr h⟩
    | error e =>
      have hfail : Fails (updateCustomRole env r body) d := fails_updateCustomRole h
      obtain ⟨e', he'⟩ := hfail
      obtain ⟨s, hs, hcommitted⟩ := he' d
      rw [hs]
      refine ⟨iff_of_false (by simp) fun hu => ?_, hcommitted⟩
      obtain ⟨d', hd'⟩ := hiff.mpr ⟨hu.named, hu.fits, hu.permissions⟩
      rw [h] at hd'
      cases hd'

theorem updateCustomRole_atomic_sample :
    ((∃ x s, (updateCustomRole { Env.sample with rolePermissionsMapped := true }
        ⟨2, "Manager", none, some 1, false⟩ ⟨none, some none, some []⟩).run
          (.start Database.sample) = (.ok x, s)) ↔
      Updatable Database.sample ⟨2, "Manager", none, some 1, false⟩ ⟨none, some none, some []⟩) ∧
    match (updateCustomRole { Env.sample with rolePermissionsMapped := true }
        ⟨2, "Manager", none, some 1, false⟩ ⟨none, some none, some []⟩).run
          (.start Database.sample) with
    | (.ok _, s) => UpdatesRole ⟨2, "Manager", none, some 1, false⟩ ⟨none, some none, some []⟩
        Database.sample s.committed
    | (.error _, s) => s.committed = Database.sample :=
  updateCustomRole_atomic _ Database.sample ⟨2, "Manager", none, some 1, false⟩
    ⟨none, some none, some []⟩ rfl (by decide)

end VirtualStack.RoleService
