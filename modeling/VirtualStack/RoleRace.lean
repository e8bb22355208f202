import VirtualStack.RbacWrites
import VirtualStack.Replacement

/-!
# Concurrent replacements of the rows of a role

`set_users_for_role` and the update of a role that gives `permission_ids` replace
the rows of a role by deleting those that are there, inserting the new ones and
committing. Here two of them, with ids that are all stored, run at the same time.
-/

namespace VirtualStack
open UnitOfWork Runs Replacement

/-- Which rows of a role are replaced: its assignments in a tenant, or its
permissions. -/
inductive RoleReplacement where
  | users (role : Role) (tenantId : UUID)
  | permissions (role : Role)
  deriving DecidableEq, Repr

namespace RoleReplacement

/-- The assignments are inserted with `ON CONFLICT DO NOTHING`, the permissions are
not. -/
def onConflict : RoleReplacement → OnConflict
  | users _ _ => .skip
  | permissions _ => .fail

/-- The users or the permissions that are stored for the role. -/
def stored : RoleReplacement → Tables → Finset UUID
  | users role tenantId, t => ((t.userTenantRoles.filter fun x =>
      x.roleId = role.id ∧ x.tenantId = tenantId).map (·.userId)).toFinset
  | permissions role, t =>
    ((t.rolePermissions.filter (·.roleId = role.id)).map (·.permissionId)).toFinset

/-- The `DELETE` of a replacement. -/
def delete : RoleReplacement → Tables → Tables
  | users role tenantId => Tables.dropAssignments fun x =>
      x.roleId = role.id ∧ x.tenantId = tenantId
  | permissions role => Tables.dropRolePermissions role.id

/-- The `INSERT` of a replacement. -/
def insert (ids : List UUID) : RoleReplacement → Tables → Tables
  | users role tenantId => Tables.addNewAssignments (ids.map (⟨·, role.id, tenantId⟩))
  | permissions role => Tables.addRolePermissions (ids.map (⟨role.id, ·⟩))

/-- The service call with the ids of a request. -/
def program (env : Env) (ids : List UUID) : RoleReplacement → Db Unit
  | users role tenantId => ignore (RoleService.setUsersForRole role.id tenantId ids)
  | permissions role => ignore (RoleService.updateCustomRole env role ⟨none, none, some ids⟩)

/-- The role is one that the request may be about, and all ids are stored. -/
def Admits (t : Tables) (ids : List UUID) : RoleReplacement → Prop
  | users role tenantId => role ∈ t.roles ∧ RoleService.Accessible role tenantId ∧
    tenantId ∈ t.tenants.map (·.id) ∧ ∀ u ∈ ids, u ∈ t.users.map (·.id)
  | permissions role => role ∈ t.roles ∧ role.isSystemRole = false ∧
    ∀ p ∈ ids, p ∈ t.permissions.map (·.id)

/-! ## The statements -/

section Statements

variable {r : RoleReplacement} {t : Tables} {ids : List UUID}

theorem mem_stored_users {role : Role} {tenantId u : UUID} :
    u ∈ (users role tenantId).stored t ↔ ⟨u, role.id, tenantId⟩ ∈ t.userTenantRoles := by
  simp only [stored, List.mem_toFinset, List.mem_map, List.mem_filter, decide_eq_true_eq]
  constructor
  · rintro ⟨⟨_, _, _⟩, ⟨hx, rfl, rfl⟩, rfl⟩
    exact hx
  · exact fun hx => ⟨_, ⟨hx, rfl, rfl⟩, rfl⟩

theorem mem_stored_permissions {role : Role} {p : UUID} :
    p ∈ (permissions role).stored t ↔ ⟨role.id, p⟩ ∈ t.rolePermissions := by
  simp only [stored, List.mem_toFinset, List.mem_map, List.mem_filter, decide_eq_true_eq]
  constructor
  · rintro ⟨⟨_, _⟩, ⟨hx, rfl⟩, rfl⟩
    exact hx
  · exact fun hx => ⟨_, ⟨hx, rfl⟩, rfl⟩

/-- The `DELETE` leaves nothing of what it sees. -/
theorem stored_delete (r : RoleReplacement) (t : Tables) : r.stored (r.delete t) = ∅ := by
  refine Finset.eq_empty_of_forall_notMem fun x hx => ?_
  cases r with
  | users role tenantId =>
    have hmem := (List.mem_filter.mp (mem_stored_users.mp hx)).2
    simp at hmem
  | permissions role =>
    have hmem := (List.mem_filter.mp (mem_stored_permissions.mp hx)).2
    simp at hmem

/-- The `INSERT` adds the ids to those that are stored. -/
theorem stored_insert (r : RoleReplacement) (t : Tables) (ids : List UUID) :
    r.stored (r.insert ids t) = r.stored t ∪ ids.toFinset := by
  ext x
  rw [Finset.mem_union, List.mem_toFinset]
  cases r with
  | users role tenantId =>
    rw [mem_stored_users, mem_stored_users]
    change _ ∈ Rows.insertNew _ _ ↔ _
    rw [Rows.mem_insertNew]
    simp
  | permissions role =>
    rw [mem_stored_permissions, mem_stored_permissions]
    change _ ∈ _ ++ _ ↔ _
    rw [List.mem_append]
    simp

/-- An `INSERT` of admitted ids is refused only for a permission that is taken. -/
theorem insert_valid_iff (ht : t.Valid) (hn : ids.Nodup) (ha : r.Admits t ids) :
    (r.insert ids t).Valid ↔ r.onConflict = .skip ∨ Disjoint ids.toFinset (r.stored t) := by
  cases r with
  | users role tenantId =>
    obtain ⟨hmem, -, hten, husers⟩ := ha
    refine iff_of_true ((ht.addNewAssignments_iff _).mpr fun x hx => ?_) (.inl rfl)
    obtain ⟨u, hu, rfl⟩ := List.mem_map.mp hx
    exact ⟨husers u hu, List.mem_map.mpr ⟨role, hmem, rfl⟩, hten⟩
  | permissions role =>
    obtain ⟨hmem, -, hperms⟩ := ha
    have hinj : Function.Injective fun p : UUID => (⟨role.id, p⟩ : RolePermission) :=
      fun p q hpq => (RolePermission.mk.inj hpq).2
    refine (ht.addRolePermissions_iff _).trans ?_
    rw [List.nodup_append, Finset.disjoint_left]
    constructor
    · rintro ⟨⟨-, -, hd⟩, -⟩
      refine .inr fun p hp hs => ?_
      exact hd _ (mem_stored_permissions.mp hs) _
        (List.mem_map.mpr ⟨p, List.mem_toFinset.mp hp, rfl⟩) rfl
    · rintro (h | hd)
      · cases h
      · refine ⟨⟨ht.keys.rolePermissions, hn.map hinj, ?_⟩, ?_⟩
        · rintro x hx y hy rfl
          obtain ⟨p, hp, rfl⟩ := List.mem_map.mp hy
          exact hd (List.mem_toFinset.mpr hp) (mem_stored_permissions.mpr hx)
        · intro x hx
          obtain ⟨p, hp, rfl⟩ := List.mem_map.mp hx
          exact ⟨List.mem_map.mpr ⟨role, hmem, rfl⟩, hperms p hp⟩

/-- The step for an `INSERT` that does not have to wait is the statement on the rows
that its transaction sees. -/
theorem insert_refines {keys : Side → Finset UUID} {i : Side} {s : State UUID}
    {seen : Finset (Version UUID)} (hp : s.phase i = .deleted seen)
    (hfree : Disjoint (s.phase i.other).pending (keys i)) (hk : keys i = ids.toFinset)
    (ht : t.Valid) (hs : r.stored t = s.taken seen) (hn : ids.Nodup) (ha : r.Admits t ids) :
    (¬(r.insert ids t).Valid ∧ (step r.onConflict keys i s).phase i = .failed) ∨
    ∃ new, (r.insert ids t).Valid ∧
      (step r.onConflict keys i s).phase i = .inserted seen new ∧
      r.stored (r.insert ids t) = s.taken seen ∪ new := by
  rw [step, hp, insert_valid_iff ht hn ha, stored_insert, hs, ← hk]
  simp only [if_pos hfree]
  cases hc : r.onConflict with
  | skip =>
    refine .inr ⟨_, .inl rfl, State.set_self .., ?_⟩
    rw [Finset.union_sdiff_self_eq_union]
  | fail =>
    by_cases hd : Disjoint (keys i) (s.taken seen)
    · simp only [if_pos hd]
      exact .inr ⟨_, .inr hd, State.set_self .., rfl⟩
    · simp only [if_neg hd]
      exact .inl ⟨by simp [hd], State.set_self ..⟩

end Statements

/-! ## The requests -/

/-- Two replacements with the given ids, in the given order of their steps. -/
def race (r : RoleReplacement) (ids : Side → Finset UUID) (t : Tables) (schedule : List Side) :
    State UUID := after (step r.onConflict ids) (State.init (r.stored t)) schedule

theorem committed_program (env : Env) {r : RoleReplacement} {ids : List UUID} {d : Database}
    (hn : ids.Nodup) (ha : r.Admits d.toTables ids) :
    (serve (r.program env ids) d).2.committed.toTables = r.insert ids (r.delete d.toTables) := by
  cases r with
  | users role tenantId =>
    obtain ⟨hmem, hacc, hten, husers⟩ := ha
    obtain ⟨d', hrun, hd'⟩ := RoleService.run_setUsersForRole hmem hacc hten husers d
    rw [committed_serve, program, run_ignore, hrun]
    exact hd'
  | permissions role =>
    obtain ⟨hmem, hsys, hperms⟩ := ha
    obtain ⟨d', hd'⟩ := RoleService.permissionChange_ok_iff (d := d).mpr
      ⟨hn, fun p hp => ⟨hperms p hp, List.mem_map.mpr ⟨role, hmem, rfl⟩⟩⟩
    -- the body sets neither name nor description, so no `UPDATE` is sent
    have hsame : (⟨none, none, some ids⟩ : RoleUpdate).statement role d' = .ok d' := by
      have happly : (⟨none, none, some ids⟩ : RoleUpdate).apply role = role := rfl
      rw [RoleUpdate.statement, if_neg (by simp), if_pos happly]
    have hw : RoleService.updateChange role ⟨none, none, some ids⟩ d = .ok d' :=
      RoleService.updateChange_eq_ok_iff.mpr ⟨d', hd', hsame⟩
    rw [committed_serve, program, run_ignore, RoleService.run_updateCustomRole hsys hw]
    exact RoleService.permissions_of_permissionChange hd'

/-- The steps of a request that nobody disturbs store what the service stores. -/
theorem solo_refines (env : Env) {r : RoleReplacement} {ids : List UUID} {d : Database}
    (hn : ids.Nodup) (ha : r.Admits d.toTables ids) (keys : Side → Finset UUID) (i : Side)
    (hk : keys i = ids.toFinset) :
    (r.race keys d.toTables [i, i, i, i]).phase i = .committed ∧
      r.stored (serve (r.program env ids) d).2.committed.toTables =
        (r.race keys d.toTables [i, i, i, i]).keys := by
  obtain ⟨hphase, hkeys⟩ := solo r.onConflict keys (r.stored d.toTables) i
  refine ⟨hphase, ?_⟩
  rw [committed_program env hn ha, stored_insert, stored_delete, Finset.empty_union, ← hk]
  exact hkeys.symm

/-- When both requests succeed, the rows of the role are those of one of them exactly
when neither began its `DELETE` while the other was between its `DELETE` and its
commit, or one of the lists contains the other. -/
theorem race_exact_iff (r : RoleReplacement) (ids : Side → Finset UUID) (d : Database)
    (schedule : List Side)
    (hdone : ∀ i, (r.race ids d.toTables schedule).phase i = .committed) :
    (r.race ids d.toTables schedule).keys = ids .left ∨
      (r.race ids d.toTables schedule).keys = ids .right ↔
    Along (step r.onConflict ids) Exclusive (State.init (r.stored d.toTables)) schedule ∨
      ids .left ⊆ ids .right ∨ ids .right ⊆ ids .left := by
  obtain ⟨ha, i, hi⟩ | ⟨ha, hunion⟩ := after_cases r.onConflict ids (r.stored d.toTables) schedule
    hdone
  · refine iff_of_true ?_ (.inl ha)
    cases i
    · exact .inl hi
    · exact .inr hi
  · rw [race, hunion, or_iff_right ha, Finset.union_eq_left, Finset.union_eq_right, or_comm]

/-- The ids of the two requests. -/
def lists (x y : Finset UUID) : Side → Finset UUID
  | .left => x
  | .right => y

/-- The managers of the first tenant of the sample. -/
def managers : RoleReplacement := users ⟨2, "Manager", none, some 1, false⟩ 1

theorem race_sample_iff :
    (managers.race (lists {1} {2}) Database.sample.toTables
        [.left, .left, .left, .left, .right, .right, .right, .right]).keys = {1} ∨
      (managers.race (lists {1} {2}) Database.sample.toTables
        [.left, .left, .left, .left, .right, .right, .right, .right]).keys = {2} ↔
    Along (step managers.onConflict (lists {1} {2})) Exclusive
        (State.init (managers.stored Database.sample.toTables))
        [.left, .left, .left, .left, .right, .right, .right, .right] ∨
      ({1} : Finset UUID) ⊆ {2} ∨ ({2} : Finset UUID) ⊆ {1} :=
  race_exact_iff managers (lists {1} {2}) Database.sample _ fun i => by cases i <;> decide

/-- The first request replaces the managers by Alice and the second by the
superuser. The second begins its `DELETE` before the first commits, waits for it, and
leaves both. -/
theorem race_mixed :
    managers.Admits Database.sample.toTables [1] ∧ managers.Admits Database.sample.toTables [2] ∧
    (∀ i, (managers.race (lists {1} {2}) Database.sample.toTables
      [.left, .right, .left, .left, .left, .right, .right, .right]).phase i = .committed) ∧
    ¬((managers.race (lists {1} {2}) Database.sample.toTables
        [.left, .right, .left, .left, .left, .right, .right, .right]).keys = {1} ∨
      (managers.race (lists {1} {2}) Database.sample.toTables
        [.left, .right, .left, .left, .left, .right, .right, .right]).keys = {2}) := by
  refine ⟨⟨by decide, .inr rfl, by decide, by decide⟩, ⟨by decide, .inr rfl, by decide, by decide⟩,
    fun i => ?_, by decide⟩
  cases i <;> decide

end RoleReplacement
end VirtualStack
