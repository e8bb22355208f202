import VirtualStack.RbacWrites

/-!
# Names of roles

No constraint of the tables keeps the names of the roles of a tenant apart.
`create_custom_role` looks a name up before it inserts; `update_custom_role`
sets whatever name it is given.
-/

namespace VirtualStack
open UnitOfWork Runs

/-- No two roles of one tenant have the same name. -/
def NamesUnique (roles : List Role) : Prop :=
  ∀ r ∈ roles, ∀ r' ∈ roles, r.tenantId ≠ none → r'.tenantId = r.tenantId → r'.name = r.name →
    r' = r

instance : DecidablePred NamesUnique := fun roles => inferInstanceAs (Decidable
  (∀ r ∈ roles, ∀ r' ∈ roles, r.tenantId ≠ none → r'.tenantId = r.tenantId → r'.name = r.name →
    r' = r))

/-- The rows that `get_by_name_in_tenant` takes the first of. -/
def RoleService.candidates (d : Database) (name : String) (tenantId : UUID) : List Role :=
  d.roles.filter fun r => r.name = name ∧ r.tenantId = some tenantId

/-- What the lookup of a role by its name relies on. -/
structure Database.UnambiguousRoles (d : Database) : Prop where
  names : NamesUnique d.roles
  candidates : ∀ name tenantId, (RoleService.candidates d name tenantId).length ≤ 1

theorem returns_getByNameInTenant_head (name : String) (tenantId : UUID) (d : Database) :
    Returns (RoleService.getByNameInTenant name tenantId) d
      (RoleService.candidates d name tenantId).head? d := by
  rw [RoleService.candidates, List.head?_filter]
  exact RoleService.returns_getByNameInTenant name tenantId d

theorem Database.unambiguousRoles_iff {d : Database} :
    d.UnambiguousRoles ↔ NamesUnique d.roles := by
  refine ⟨fun h => h.names, fun h => ⟨h, fun name tenantId => ?_⟩⟩
  have hn : (RoleService.candidates d name tenantId).Nodup :=
    (List.Nodup.of_map _ d.valid.keys.rolesId).filter _
  have hmem : ∀ x ∈ RoleService.candidates d name tenantId,
      x ∈ d.roles ∧ x.name = name ∧ x.tenantId = some tenantId := by
    intro x hx
    obtain ⟨hx, hp⟩ := List.mem_filter.mp hx
    exact ⟨hx, of_decide_eq_true hp⟩
  generalize RoleService.candidates d name tenantId = xs at hn hmem
  rcases xs with _ | ⟨r, _ | ⟨r', rest⟩⟩
  · exact Nat.zero_le 1
  · exact Nat.le_refl 1
  · obtain ⟨hr, hrn, hrt⟩ := hmem r (by simp)
    obtain ⟨hr', hrn', hrt'⟩ := hmem r' (by simp)
    have heq := h r hr r' hr' (by simp [hrt]) (hrt'.trans hrt.symm) (hrn'.trans hrn.symm)
    exact absurd hn (by simp [heq])

/-! ## The writes -/

theorem NamesUnique.sublist {roles roles' : List Role} (h : NamesUnique roles)
    (hsub : ∀ r ∈ roles', r ∈ roles) : NamesUnique roles' :=
  fun r hr r' hr' => h r (hsub r hr) r' (hsub r' hr')

theorem NamesUnique.concat {roles : List Role} (h : NamesUnique roles) {x : Role}
    (hnew : ∀ r ∈ roles, r.name = x.name → r.tenantId ≠ x.tenantId) :
    NamesUnique (roles ++ [x]) := by
  have hcases : ∀ r ∈ roles ++ [x], r ∈ roles ∨ r = x := by simp
  intro r hr r' hr' ht hten hname
  rcases hcases r hr with hold | rfl
  · rcases hcases r' hr' with hold' | rfl
    · exact h r hold r' hold' ht hten hname
    · exact absurd hten.symm (hnew r hold hname.symm)
  · rcases hcases r' hr' with hold' | rfl
    · exact absurd hten (hnew r' hold' hname)
    · rfl

/-- A rename keeps the names apart unless another role of the tenant has the new
name. -/
theorem NamesUnique.modify_iff {roles : List Role} (h : NamesUnique roles)
    (hkeys : (roles.map (·.id)).Nodup) (id : UUID) {f : Role → Role} (hid : ∀ r, (f r).id = r.id)
    (hten : ∀ r, (f r).tenantId = r.tenantId) :
    NamesUnique (Rows.modify (·.id) id f roles) ↔
      ∀ r ∈ roles, r.id = id → r.tenantId ≠ none →
        ∀ r' ∈ roles, r'.id ≠ id → r'.tenantId = r.tenantId → r'.name ≠ (f r).name := by
  constructor
  · intro hn r hr hrid ht r' hr' hne hten' hname
    have hfr : f r ∈ Rows.modify (·.id) id f roles :=
      Rows.mem_modify.mpr ⟨r, hr, by rw [if_pos hrid]⟩
    have hr'' : r' ∈ Rows.modify (·.id) id f roles :=
      Rows.mem_modify.mpr ⟨r', hr', by rw [if_neg hne]⟩
    have heq := hn (f r) hfr r' hr'' (by rw [hten]; exact ht) (by rw [hten, hten']) hname
    exact hne (by rw [heq, hid, hrid])
  · intro hfree y hy y' hy' ht hten' hname
    obtain ⟨r, hr, rfl⟩ := Rows.mem_modify.mp hy
    obtain ⟨r', hr', rfl⟩ := Rows.mem_modify.mp hy'
    by_cases hrid : r.id = id
    · rw [if_pos hrid] at ht hten' hname ⊢
      rw [hten] at ht hten'
      by_cases hrid' : r'.id = id
      · rw [if_pos hrid', Rows.eq_of_key_eq hkeys hr' hr (hrid'.trans hrid.symm)]
      · rw [if_neg hrid'] at hten' hname
        exact absurd hname (hfree r hr hrid ht r' hr' hrid' hten')
    · rw [if_neg hrid] at ht hten' hname ⊢
      by_cases hrid' : r'.id = id
      · rw [if_pos hrid'] at hten' hname
        rw [hten] at hten'
        exact absurd hname.symm (hfree r' hr' hrid' (hten' ▸ ht) r hr hrid hten'.symm)
      · rw [if_neg hrid'] at hten' hname ⊢
        exact h r hr r' hr' ht hten' hname

/-! ## The operations -/

/-- The operations of `RoleService` that write roles, with their arguments. -/
inductive RoleOp where
  | createRole (objIn : RoleCreate) (tenantId newId : UUID)
  | updateRole (dbObj : Role) (objIn : RoleUpdate)
  | setRolePermissions (roleId : UUID) (permissionIds : List UUID)
  | deleteRole (roleId tenantId : UUID)
  deriving DecidableEq, Repr

namespace RoleOp

def program (env : Env) : RoleOp → Db Unit
  | createRole objIn tenantId newId =>
    ignore (RoleService.createCustomRole env objIn tenantId newId)
  | updateRole dbObj objIn => ignore (RoleService.updateCustomRole env dbObj objIn)
  | setRolePermissions roleId permissionIds =>
    RoleService.setRolePermissions roleId permissionIds
  | deleteRole roleId tenantId => ignore (RoleService.deleteCustomRole roleId tenantId)

/-- An update with acceptable permissions that renames a stored role of a tenant
to the name of another role of the tenant. -/
def TakesName (v : Database) : RoleOp → Prop
  | updateRole dbObj objIn => dbObj.isSystemRole = false ∧
    (∀ ids, objIn.permissionIds = some ids →
      ids.Nodup ∧ ∀ p ∈ ids, p ∈ v.permissions.map (·.id)) ∧
    ∃ name, objIn.name = some (some name) ∧ name ≠ dbObj.name ∧
      ∃ r ∈ v.roles, r.id = dbObj.id ∧ r.tenantId ≠ none ∧
        ∃ r' ∈ v.roles, r'.id ≠ r.id ∧ r'.tenantId = r.tenantId ∧ r'.name = name
  | _ => False

/-- The step does not take the name of another role; what it finds is the view
with the waiting writes sent. -/
def Clear (step : SessionStep RoleOp) (s : Session Database Exc) : Prop :=
  ∀ op v, step = .call op → flush.run s = (.ok (), .clean s.committed v) → ¬op.TakesName v

variable {env : Env} {v v' : Database} {dbObj : Role} {objIn : RoleUpdate}

theorem name_apply {name : String} (h : objIn.name = some (some name)) :
    (objIn.apply dbObj).name = name := by
  rw [RoleUpdate.apply, h]
  rfl

/-- A name that is not the object's own was given in the body. -/
theorem name_of_apply_ne (h : (objIn.apply dbObj).name ≠ dbObj.name) :
    objIn.name = some (some (objIn.apply dbObj).name) := by
  rw [RoleUpdate.apply] at h ⊢
  cases hn : objIn.name with
  | none => rw [hn] at h; exact absurd rfl h
  | some name =>
    cases name with
    | none => rw [hn] at h; exact absurd rfl h
    | some name => rfl

/-- The names after an update that the server takes. -/
theorem names_updateChange (hv : NamesUnique v.roles)
    (h : RoleService.updateChange dbObj objIn v = .ok v') (hsys : dbObj.isSystemRole = false) :
    NamesUnique v'.roles ↔ ¬(updateRole dbObj objIn).TakesName v := by
  rw [RoleService.roles_of_updateChange h, hv.modify_iff v.valid.keys.rolesId dbObj.id
    (f := objIn.changes dbObj) (fun _ => rfl) fun _ => rfl]
  constructor
  · rintro hfree ⟨-, -, name, hname, hne, r, hr, hid, ht, r', hr', hid', hten, rfl⟩
    refine hfree r hr hid ht r' hr' (hid ▸ hid') hten ?_
    rw [RoleUpdate.changes, name_apply hname, if_neg hne]
  · intro hno r hr hid ht r' hr' hid' hten hname
    change r'.name = (if (objIn.apply dbObj).name = dbObj.name then r.name else _) at hname
    split_ifs at hname with hsame
    · exact hid' (hv r hr r' hr' ht hten hname ▸ hid)
    · refine hno ⟨hsys, fun ids hids => ?_, _, name_of_apply_ne hsame, hsame, r, hr, hid, ht, r',
        hr', hid ▸ hid', hten, hname⟩
      obtain ⟨v₁, hp, -⟩ := RoleService.updateChange_eq_ok_iff.mp h
      have hrow : dbObj.id ∈ v.roles.map (·.id) := List.mem_map.mpr ⟨r, hr, hid⟩
      exact (RoleService.givenPermissionChange_ok_iff hrow).mp ⟨v₁, hp⟩ ids hids

/-- Nothing refuses an update that takes a name. -/
theorem updateChange_of_takesName (h : (updateRole dbObj objIn).TakesName v) :
    ∃ v', RoleService.updateChange dbObj objIn v = .ok v' := by
  obtain ⟨-, hids, name, hname, hne, r, hr, hid, -, r', hr', -, -, rfl⟩ := h
  obtain ⟨v₁, hp⟩ := (RoleService.givenPermissionChange_ok_iff
    (List.mem_map.mpr ⟨r, hr, hid⟩)).mpr hids
  rw [← RoleService.roles_of_givenPermissionChange hp] at hr hr'
  have hval : (v₁.modifyRole dbObj.id (objIn.changes dbObj)).Valid := by
    refine v₁.valid.modifyRole dbObj.id (fun _ => rfl) (fun _ => rfl) fun x _ _ => ?_
    rw [RoleUpdate.changes, name_apply hname, if_neg hne]
    exact v₁.valid.widths.roles r' hr'
  have hw : objIn.statement dbObj v₁ = .ok ⟨_, hval⟩ := by
    have hchanged : objIn.apply dbObj ≠ dbObj := fun heq =>
      hne ((name_apply hname).symm.trans (congrArg Role.name heq))
    rw [RoleUpdate.statement, if_neg (by simp [hname]), if_neg hchanged,
      if_pos (List.any_eq_true.mpr ⟨r, hr, decide_eq_true hid⟩), Database.change_eq_ok hval]
  exact ⟨_, RoleService.updateChange_eq_ok_iff.mpr ⟨v₁, hp, hw⟩⟩

/-- The lookup of `create_custom_role` keeps the names apart. -/
theorem keeps_createRole (objIn : RoleCreate) (tenantId newId : UUID) :
    Keeps (fun v : Database => NamesUnique v.roles)
      (RoleService.createCustomRole env objIn tenantId newId) := by
  refine keeps_query_bind fun v hv => ?_
  cases hf : v.roles.find? fun r => r.name = objIn.name ∧ r.tenantId = some tenantId with
  | some r => exact (keeps_throw _).keepsAt hv
  | none =>
    refine keepsAt_add_bind (autoflush_commit.bind _) fun v' hw => ?_
    have hv' : NamesUnique v'.roles := by
      rw [Database.change_eq_ok_iff.mp hw]
      refine hv.concat fun r hr hname hten => ?_
      exact List.find?_eq_none.mp hf r hr (decide_eq_true ⟨hname, hten⟩)
    have hlast : Keeps (fun v : Database => NamesUnique v.roles)
        (RoleService.completeCustomRole env objIn (objIn.row newId tenantId)) := by
      refine RoleService.keeps_completeCustomRole (fun v v' hroles _ hv => ?_) _ _
      rw [hroles]
      exact hv
    exact keepsAt_commit_bind (I := fun v : Database => NamesUnique v.roles) hv'
      (hlast.keepsAt hv')

theorem keeps_deleteRole (roleId tenantId : UUID) :
    Keeps (fun v : Database => NamesUnique v.roles)
      (RoleService.deleteCustomRole roleId tenantId) := by
  refine RoleService.keeps_deleteCustomRole (fun v v' hv hv' => ?_) tenantId
  rw [hv']
  exact hv.sublist fun r hr => (List.mem_filter.mp hr).1

theorem inv_updateRole {s : Session Database Exc}
    (hs : s.Inv fun v : Database => NamesUnique v.roles)
    (hclear : ∀ v, flush.run s = (.ok (), .clean s.committed v) →
      ¬(updateRole dbObj objIn).TakesName v) :
    ((RoleService.updateCustomRole env dbObj objIn).run s).2.Inv
      fun v : Database => NamesUnique v.roles := by
  cases hsys : dbObj.isSystemRole with
  | true =>
    rw [RoleService.updateCustomRole, if_pos hsys]
    exact keeps_throw _ s hs
  | false =>
    refine (RoleService.autoflush_updateCustomRole hsys).inv_run hs fun v hv hflush => ?_
    cases hw : RoleService.updateChange dbObj objIn v with
    | ok v' =>
      have hv' := (names_updateChange hv hw hsys).mpr (hclear v hflush)
      rw [RoleService.run_updateCustomRole hsys hw]
      exact Session.inv_clean hv' hv'
    | error e =>
      have hrev : Reverts (RoleService.updateCustomRole env dbObj objIn) v :=
        RoleService.reverts_updateCustomRole hsys hw
      exact hrev.keepsAt s.committed hs.committed

theorem committed_updateRole {s : Session Database Exc} (hv : NamesUnique v.roles)
    (hflush : flush.run s = (.ok (), .clean s.committed v))
    (ht : (updateRole dbObj objIn).TakesName v) :
    ¬NamesUnique ((RoleService.updateCustomRole env dbObj objIn).run s).2.committed.roles := by
  have hsys : dbObj.isSystemRole = false := ht.1
  obtain ⟨v', hw⟩ := updateChange_of_takesName ht
  rw [(RoleService.autoflush_updateCustomRole hsys).run_of_flush hflush,
    RoleService.run_updateCustomRole hsys hw]
  exact fun hn => (names_updateChange hv hw hsys).mp hn ht

/-! ## Runs -/

theorem inv_next {step : SessionStep RoleOp} {s : Session Database Exc}
    (hs : s.Inv fun v : Database => NamesUnique v.roles) (hclear : Clear step s) :
    (step.next (program env) s).Inv fun v : Database => NamesUnique v.roles := by
  refine SessionStep.inv_next hs fun op hop => ?_
  cases op with
  | createRole objIn tenantId newId =>
    exact keeps_ignore (keeps_createRole objIn tenantId newId) s hs
  | updateRole dbObj objIn =>
    rw [program, run_ignore]
    exact inv_updateRole hs fun v hflush => hclear _ v hop hflush
  | setRolePermissions roleId ids =>
    refine RoleService.keeps_setRolePermissions (fun v v' hroles _ hv => ?_) roleId ids s hs
    rw [hroles]
    exact hv
  | deleteRole roleId tenantId => exact keeps_ignore (keeps_deleteRole roleId tenantId) s hs

theorem committed_next {step : SessionStep RoleOp} {s : Session Database Exc}
    (hs : s.Inv fun v : Database => NamesUnique v.roles) (hn : ¬Clear step s) :
    ¬NamesUnique (step.next (program env) s).committed.roles := by
  simp only [Clear, not_forall, not_not] at hn
  obtain ⟨op, v, rfl, hflush, ht⟩ := hn
  obtain ⟨e, h⟩ | ⟨e, h⟩ | ⟨v', hv', h⟩ := flush_cases hs
  · exact absurd (hflush.symm.trans h) (by simp)
  · exact absurd (hflush.symm.trans h) (by simp)
  · obtain rfl : v = v' := by simpa using hflush.symm.trans h
    cases op with
    | updateRole dbObj objIn =>
      rw [SessionStep.next, program, run_ignore]
      exact committed_updateRole hv' hflush ht
    | createRole | setRolePermissions | deleteRole => cases ht

/-- Throughout a run the names of the roles of a tenant are distinct, in the stored
rows and in those that the open transaction sees, exactly when no step of it takes
the name of another role. -/
theorem unambiguousRoles_after_iff (env : Env) (d : Database) (hd : NamesUnique d.roles)
    (steps : List (SessionStep RoleOp)) :
    (∀ pre post, steps = pre ++ post →
      (after (SessionStep.next (program env)) (.start d) pre).committed.UnambiguousRoles ∧
      (after (SessionStep.next (program env)) (.start d) pre).view.UnambiguousRoles) ↔
    Along (SessionStep.next (program env)) Clear (.start d) steps := by
  refine forall_after_iff_along (I := Session.Inv fun v : Database => NamesUnique v.roles)
    (G := fun s => s.committed.UnambiguousRoles ∧ s.view.UnambiguousRoles) (fun s hs => ?_)
    (fun step s hs hclear => inv_next hs hclear) (fun step s hs hn hG => ?_)
    (Session.inv_clean hd hd)
  · exact ⟨Database.unambiguousRoles_iff.mpr hs.committed,
      Database.unambiguousRoles_iff.mpr hs.view⟩
  · exact committed_next hs hn hG.1.names

theorem unambiguousRoles_sample_iff : NamesUnique Database.sample.roles ∧
    ((∀ pre post, [.call (.deleteRole 1 1), .call (.createRole ⟨"Manager", none, none⟩ 2 3),
        .reopen] = pre ++ post →
      (after (SessionStep.next (program Env.sample)) (.start Database.sample)
        pre).committed.UnambiguousRoles ∧
      (after (SessionStep.next (program Env.sample)) (.start Database.sample)
        pre).view.UnambiguousRoles) ↔
    Along (SessionStep.next (program Env.sample)) Clear (.start Database.sample)
      [.call (.deleteRole 1 1), .call (.createRole ⟨"Manager", none, none⟩ 2 3), .reopen]) :=
  ⟨by decide, unambiguousRoles_after_iff Env.sample Database.sample (by decide) _⟩

/-- The manager role of the sample is given the name of the default role. -/
theorem renamed_ambiguous : NamesUnique Database.sample.roles ∧
    ¬(after (SessionStep.next (program Env.sample)) (.start Database.sample)
      [.call (.updateRole ⟨2, "Manager", none, some 1, false⟩
        ⟨some (some "Default User Role"), none, none⟩)]).committed.UnambiguousRoles := by
  refine ⟨by decide, fun h => ?_⟩
  have hn := h.names
  rw [after_cons, after_nil, SessionStep.next, program, run_ignore] at hn
  refine committed_updateRole (v := Database.sample) (by decide) rfl ⟨rfl, ?_, ?_⟩ hn
  · exact fun ids h => absurd h (by simp)
  · exact ⟨"Default User Role", rfl, by decide, ⟨2, "Manager", none, some 1, false⟩, by decide,
      rfl, by decide, ⟨1, "Default User Role", none, some 1, false⟩, by decide, by decide, rfl, rfl⟩

end RoleOp
end VirtualStack
