import VirtualStack.Footprints

/-!
# The permissions and the predefined roles

No endpoint writes permissions, and the ones that write roles refuse system roles.
What a system role of no tenant grants is therefore settled before the API is
used; deleting a tenant takes the roles of that tenant only.
-/

namespace VirtualStack
open UnitOfWork

/-- A system role that belongs to no tenant. -/
def Role.isPredefined (r : Role) : Bool := r.isSystemRole ∧ r.tenantId = none

/-- The permissions are the same, and the predefined roles with what they grant. -/
structure SameCatalogue (t t' : Tables) : Prop where
  permissions : t'.permissions = t.permissions
  roles : t'.roles.filter (·.isPredefined) = t.roles.filter (·.isPredefined)
  grants : ∀ r ∈ t.roles, r.isPredefined → ∀ x : RolePermission, x.roleId = r.id →
    (x ∈ t'.rolePermissions ↔ x ∈ t.rolePermissions)

/-- A custom role is not predefined. -/
theorem CustomRole.ne_of_isPredefined {t : Tables} {roleId tenantId : UUID} (ht : t.Valid)
    (hrole : CustomRole t roleId tenantId) {r : Role} (hr : r ∈ t.roles) (hg : r.isPredefined) :
    r.id ≠ roleId := by
  rintro rfl
  obtain ⟨s, hs, hid, hten, -⟩ := hrole
  obtain rfl := Rows.eq_of_key_eq ht.keys.rolesId hr hs hid.symm
  rw [Role.isPredefined, hten] at hg
  simp at hg

namespace SameCatalogue

variable {t t' t'' : Tables}

theorem refl (t : Tables) : SameCatalogue t t := ⟨rfl, rfl, fun _ _ _ _ _ => .rfl⟩

theorem mem_roles (h : SameCatalogue t t') {r : Role} (hr : r ∈ t.roles) (hg : r.isPredefined) :
    r ∈ t'.roles := by
  have hmem : r ∈ t'.roles.filter (·.isPredefined) := by
    rw [h.roles]
    exact List.mem_filter.mpr ⟨hr, hg⟩
  exact (List.mem_filter.mp hmem).1

theorem trans (h : SameCatalogue t t') (h' : SameCatalogue t' t'') : SameCatalogue t t'' where
  permissions := h'.permissions.trans h.permissions
  roles := h'.roles.trans h.roles
  grants r hr hg x hx := (h'.grants r (h.mem_roles hr hg) hg x hx).trans (h.grants r hr hg x hx)

/-- Tables that differ elsewhere. -/
theorem of_eq (hp : t'.permissions = t.permissions) (hr : t'.roles = t.roles)
    (hrp : t'.rolePermissions = t.rolePermissions) : SameCatalogue t t' where
  permissions := hp
  roles := by rw [hr]
  grants r _ _ x _ := by rw [hrp]

/-- What happens to the permissions of a custom role. -/
theorem of_custom (ht : t.Valid) {roleId tenantId : UUID} (hrole : CustomRole t roleId tenantId)
    (hp : t'.permissions = t.permissions)
    (hr : t'.roles.filter (·.isPredefined) = t.roles.filter (·.isPredefined))
    (hrp : ∀ x, x.roleId ≠ roleId → (x ∈ t'.rolePermissions ↔ x ∈ t.rolePermissions)) :
    SameCatalogue t t' where
  permissions := hp
  roles := hr
  grants r hmem hg x hx := by
    refine hrp x fun hid => hrole.ne_of_isPredefined ht hmem hg ?_
    exact hx.symm.trans hid

end SameCatalogue

namespace ApiRequest

variable {env : Env} {h : Headers} {d v v' : Database} {r : ApiRequest}

theorem Step.sameCatalogue (hstep : Step env h d r v v') :
    SameCatalogue v.toTables v'.toTables := by
  obtain ⟨e, hs, hv'⟩ := hstep
  rw [hv']
  cases hs with
  | createRole hname =>
    refine ⟨rfl, ?_, fun _ _ _ _ _ => .rfl⟩
    simp [Statement.apply, Tables.addRole, RoleCreate.row, Role.isPredefined]
  | @updateRole _ tenantId body role hrole hten hcustom =>
    refine ⟨rfl, Rows.filter_modify fun x hx hid => ?_, fun _ _ _ _ _ => .rfl⟩
    obtain rfl := Rows.eq_of_key_eq v.valid.keys.rolesId hx hrole hid
    simp [Role.isPredefined, RoleUpdate.changes, hcustom]
  | clearNewRole _ hrole | clearRole hrole =>
    refine .of_custom v.valid hrole rfl rfl fun x hx => ?_
    simp [Statement.apply, Tables.dropRolePermissions, hx]
  | equipNewRole _ hrole | equipRole hrole =>
    refine .of_custom v.valid hrole rfl rfl fun x hx => ?_
    simp only [Statement.apply, Tables.addRolePermissions, List.mem_append, List.mem_map,
      or_iff_left_iff_imp]
    rintro ⟨p, -, rfl⟩
    exact absurd rfl hx
  | deleteRole hrole =>
    refine .of_custom v.valid hrole rfl ?_ fun x hx => ?_
    · refine (List.filter_filter ..).trans (List.filter_congr fun x hx => ?_)
      rw [Bool.and_eq_left_iff_imp]
      exact fun hg => decide_eq_true (hrole.ne_of_isPredefined v.valid hx hg)
    · simp [Statement.apply, Tables.dropRole, hx]
  | @deleteTenant _ tenantId =>
    refine ⟨rfl, ?_, fun s hs hg x hx => ?_⟩
    · refine (List.filter_filter ..).trans (List.filter_congr fun x _ => ?_)
      rw [Bool.and_eq_left_iff_imp]
      intro hg
      have hnone : x.tenantId = none := (of_decide_eq_true hg).2
      simp [hnone]
    · have hnone : s.tenantId = none := (of_decide_eq_true hg).2
      have hkeep : x.roleId ∉ v.rolesOf tenantId := by
        intro hmem
        obtain ⟨y, hy, hid⟩ := List.mem_map.mp hmem
        obtain ⟨hy, hten⟩ := List.mem_filter.mp hy
        obtain rfl := Rows.eq_of_key_eq v.valid.keys.rolesId hy hs (hid.trans hx)
        simp [hnone] at hten
      simp [Statement.apply, Tables.dropTenant, hkeep]
  | _ => exact .of_eq rfl rfl rfl

theorem outcome_sameCatalogue (closing : Ending) (env : Env) (security : Security)
    (call : Headers × ApiRequest) (d : Database) :
    SameCatalogue d.toTables (outcome closing env security call d).toTables := by
  have hI : Closes env call.1 d call.2 fun v => SameCatalogue d.toTables v.toTables :=
    fun _ _ hv hstep => hv.trans hstep.sameCatalogue
  exact hI.outcome (.refl _) closing security

/-- No run of requests changes the permissions, or a system role of no tenant or what it
grants. -/
theorem sameCatalogue_after (closing : Ending) (env : Env) (security : Security) (d : Database)
    (calls : List (Headers × ApiRequest)) :
    SameCatalogue d.toTables (Runs.after (outcome closing env security) d calls).toTables :=
  Runs.after_invariant (I := fun v => SameCatalogue d.toTables v.toTables)
    (fun call v hv => hv.trans (outcome_sameCatalogue closing env security call v)) (.refl _) calls

end ApiRequest
end VirtualStack
