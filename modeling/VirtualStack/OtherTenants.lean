import VirtualStack.Catalogue

/-!
# Requests that concern other tenants

A request writes the roles and assignments of one tenant, its row, or an invitation to
it. What is stored for any other tenant stays as it is, though deleting a tenant or a
role cascades to assignments wherever they are.
-/

namespace VirtualStack
open UnitOfWork

/-- What a statement does to the role tables: it changes assignments in a tenant, it
changes one role of the tenant, or it deletes the tenant. -/
inductive RoleChange (tenantId : UUID) (v v' : Tables) : Prop
  | assignments (hroles : v'.roles = v.roles) (hgrants : v'.rolePermissions = v.rolePermissions)
      (hother : ∀ x : UserTenantRole, x.tenantId ≠ tenantId →
        (x ∈ v'.userTenantRoles ↔ x ∈ v.userTenantRoles))
  | role (id : UUID) (howner : ∀ r ∈ v.roles, r.id = id → r.tenantId = some tenantId)
      (howner' : ∀ r ∈ v'.roles, r.id = id → r.tenantId = some tenantId)
      (hroles : ∀ r : Role, r.id ≠ id → (r ∈ v'.roles ↔ r ∈ v.roles))
      (hgrants : ∀ x : RolePermission, x.roleId ≠ id →
        (x ∈ v'.rolePermissions ↔ x ∈ v.rolePermissions))
      (hsub : ∀ x ∈ v'.userTenantRoles, x ∈ v.userTenantRoles)
      (hkeep : ∀ x ∈ v.userTenantRoles, x.roleId ≠ id → x ∈ v'.userTenantRoles)
  | tenant (hdrop : v' = v.dropTenant tenantId)

/-- The statement leaves the role tables alone. -/
structure SameRoleTables (v v' : Tables) : Prop where
  roles : v'.roles = v.roles
  grants : v'.rolePermissions = v.rolePermissions
  assignments : v'.userTenantRoles = v.userTenantRoles

/-- An id that is that of a custom role of the tenant, if it is one of a role. -/
theorem CustomRole.owner {t : Tables} {roleId tenantId : UUID} (ht : t.Valid)
    (hrole : CustomRole t roleId tenantId) :
    ∀ r ∈ t.roles, r.id = roleId → r.tenantId = some tenantId := by
  obtain ⟨s, hs, hid, hten, -⟩ := hrole
  intro r hr hrid
  obtain rfl := Rows.eq_of_key_eq ht.keys.rolesId hr hs (hrid.trans hid.symm)
  exact hten

/-- What happens to the permissions of a role. -/
theorem CustomRole.roleChange {v v' : Tables} {roleId tenantId : UUID} (ht : v.Valid)
    (hrole : CustomRole v roleId tenantId) (hroles : v'.roles = v.roles)
    (hgrants : ∀ x : RolePermission, x.roleId ≠ roleId →
      (x ∈ v'.rolePermissions ↔ x ∈ v.rolePermissions))
    (hassign : v'.userTenantRoles = v.userTenantRoles) : RoleChange tenantId v v' := by
  refine .role roleId (hrole.owner ht) ?_ (fun r _ => by rw [hroles]) hgrants
    (fun x hx => hassign ▸ hx) fun x hx _ => hassign ▸ hx
  rw [hroles]
  exact hrole.owner ht

namespace ApiRequest

/-- The tenant of whose roles and assignments the request writes some. -/
def roleTenant (h : Headers) : ApiRequest → Option UUID
  | personal _ (.removeUser _) => match h.xTenantId with
    | some (.valid tenantId) => some tenantId
    | _ => none
  | admin (.deleteTenant tenantId) => some tenantId
  | admin (.createRole tenantId _ _) => some tenantId
  | admin (.updateRole tenantId _ _) => some tenantId
  | admin (.deleteRole tenantId _) => some tenantId
  | admin (.setRoleUsers tenantId _ _) => some tenantId
  | assignRole tenantId _ _ => some tenantId
  | removeRole tenantId _ _ => some tenantId
  | _ => none

section Step

variable {env : Env} {h : Headers} {d v v' : Database} {r : ApiRequest}

theorem Step.roleChange (hstep : Step env h d r v v') :
    SameRoleTables v.toTables v'.toTables ∨
      ∃ tenantId, r.roleTenant h = some tenantId ∧ RoleChange tenantId v.toTables v'.toTables := by
  have hvalid := v'.valid
  obtain ⟨e, hs, hv'⟩ := hstep
  rw [hv'] at hvalid ⊢
  cases hs with
  | @removeUser _ _ userId u t hcaller =>
    have hx := (Deps.xTenantId_of_activeTenant (Deps.permitted_eq_ok.mp hcaller).2.1).1
    refine .inr ⟨t.id, by simp only [roleTenant, hx], .assignments rfl rfl fun x hne => ?_⟩
    simp [Statement.apply, Tables.dropAssignments, hne]
  | @clearUsers _ tenantId roleId userIds hrole =>
    refine .inr ⟨tenantId, rfl, .assignments rfl rfl fun x hne => ?_⟩
    simp [Statement.apply, Tables.dropAssignments, hne]
  | @setUsers _ tenantId roleId userIds hrole =>
    refine .inr ⟨tenantId, rfl, .assignments rfl rfl fun x hne => ?_⟩
    refine Rows.mem_insertNew.trans (or_iff_left fun hmem => hne ?_)
    obtain ⟨u, -, rfl⟩ := List.mem_map.mp hmem
    rfl
  | @assignRole _ tenantId userId roleId =>
    refine .inr ⟨tenantId, rfl, .assignments rfl rfl fun x hne => ?_⟩
    refine List.mem_append.trans (or_iff_left fun hmem => hne ?_)
    rw [List.mem_singleton.mp hmem]
  | @removeRole _ tenantId userId roleId =>
    refine .inr ⟨tenantId, rfl, .assignments rfl rfl fun x hne => ?_⟩
    simp [Statement.apply, Tables.dropAssignments, hne]
  | @createRole _ tenantId newId body hname =>
    have hnew : newId ∉ v.roles.map (·.id) :=
      (Rows.nodup_map_concat v.valid.keys.rolesId).mp hvalid.keys.rolesId
    refine .inr ⟨tenantId, rfl, .role newId (fun s hs hid => ?_) (fun s hs hid => ?_)
      (fun s hne => ?_) (fun _ _ => .rfl) (fun _ hx => hx) fun _ hx _ => hx⟩
    · exact absurd (List.mem_map.mpr ⟨s, hs, hid⟩) hnew
    · obtain hs | hs := List.mem_append.mp hs
      · exact absurd (List.mem_map.mpr ⟨s, hs, hid⟩) hnew
      · rw [List.mem_singleton.mp hs]
        rfl
    · refine List.mem_append.trans (or_iff_left fun hmem => hne ?_)
      rw [List.mem_singleton.mp hmem]
      rfl
  | clearNewRole _ hrole | clearRole hrole =>
    refine .inr ⟨_, rfl, hrole.roleChange v.valid rfl (fun x hne => ?_) rfl⟩
    simp [Statement.apply, Tables.dropRolePermissions, hne]
  | equipNewRole _ hrole | equipRole hrole =>
    refine .inr ⟨_, rfl, hrole.roleChange v.valid rfl (fun x hne => ?_) rfl⟩
    refine List.mem_append.trans (or_iff_left fun hmem => hne ?_)
    obtain ⟨p, -, rfl⟩ := List.mem_map.mp hmem
    rfl
  | @updateRole _ tenantId body role hrole hten hcustom =>
    have howner : ∀ s ∈ v.roles, s.id = role.id → s.tenantId = some tenantId :=
      CustomRole.owner v.valid ⟨role, hrole, rfl, hten, hcustom⟩
    refine .inr ⟨tenantId, rfl, .role role.id howner (fun s hs hid => ?_) (fun s hne => ?_)
      (fun _ _ => .rfl) (fun _ hx => hx) fun _ hx _ => hx⟩
    · obtain ⟨x, hx, rfl⟩ := Rows.mem_modify.mp hs
      split_ifs at hid ⊢ with hxid
      · exact howner x hx hxid
      · exact absurd hid hxid
    · constructor
      · intro hs
        obtain ⟨x, hx, rfl⟩ := Rows.mem_modify.mp hs
        split_ifs at hne ⊢ with hxid
        · exact absurd hxid hne
        · exact hx
      · exact fun hs => Rows.mem_modify.mpr ⟨s, hs, by rw [if_neg hne]⟩
  | @deleteRole _ tenantId roleId hrole =>
    refine .inr ⟨tenantId, rfl, .role roleId (hrole.owner v.valid) (fun s hs hid => ?_)
      (fun s hne => ?_) (fun x hne => ?_) (fun x hx => (List.mem_filter.mp hx).1)
      fun x hx hne => List.mem_filter.mpr ⟨hx, by simpa using hne⟩⟩
    · exact absurd hid (by simpa using (List.mem_filter.mp hs).2)
    · simp [Statement.apply, Tables.dropRole, hne]
    · simp [Statement.apply, Tables.dropRole, hne]
  | deleteTenant => exact .inr ⟨_, rfl, .tenant rfl⟩
  | _ => exact .inl ⟨rfl, rfl, rfl⟩

end Step
end ApiRequest

/-! ## What belongs to a tenant -/

/-- A role that can be given out in the tenant without being that of another one. -/
def Role.ServesTenant (tenantId : UUID) (r : Role) : Prop :=
  r.tenantId = none ∨ r.tenantId = some tenantId

/-- The roles that serve the tenant are the same, with what they grant, and so are the
assignments in it. -/
structure SameRoles (tenantId : UUID) (t t' : Tables) : Prop where
  permissions : t'.permissions = t.permissions
  roles : ∀ r : Role, r.ServesTenant tenantId → (r ∈ t'.roles ↔ r ∈ t.roles)
  grants : ∀ r ∈ t.roles, r.ServesTenant tenantId → ∀ x : RolePermission, x.roleId = r.id →
    (x ∈ t'.rolePermissions ↔ x ∈ t.rolePermissions)
  assignments : ∀ x : UserTenantRole, x.tenantId = tenantId →
    (x ∈ t'.userTenantRoles ↔ x ∈ t.userTenantRoles)

/-- The assignments in the tenant are to roles that serve it. -/
def OwnRoles (tenantId : UUID) (t : Tables) : Prop :=
  ∀ x ∈ t.userTenantRoles, x.tenantId = tenantId →
    ∃ r ∈ t.roles, r.id = x.roleId ∧ r.ServesTenant tenantId

namespace SameRoles

variable {tenantId other : UUID} {t t' t'' : Tables}

theorem refl (tenantId : UUID) (t : Tables) : SameRoles tenantId t t :=
  ⟨rfl, fun _ _ => .rfl, fun _ _ _ _ _ => .rfl, fun _ _ => .rfl⟩

theorem trans (h : SameRoles tenantId t t') (h' : SameRoles tenantId t' t'') :
    SameRoles tenantId t t'' where
  permissions := h'.permissions.trans h.permissions
  roles r hr := (h'.roles r hr).trans (h.roles r hr)
  grants r hmem hr x hx :=
    (h'.grants r ((h.roles r hr).mpr hmem) hr x hx).trans (h.grants r hmem hr x hx)
  assignments x hx := (h'.assignments x hx).trans (h.assignments x hx)

theorem ownRoles (h : SameRoles tenantId t t') (ht : OwnRoles tenantId t) :
    OwnRoles tenantId t' := by
  intro x hx hten
  obtain ⟨r, hr, hid, hserves⟩ := ht x ((h.assignments x hten).mp hx) hten
  exact ⟨r, (h.roles r hserves).mpr hr, hid, hserves⟩

theorem ne_of_serves (hne : other ≠ tenantId) {r : Role} (hr : r.ServesTenant tenantId) :
    r.tenantId ≠ some other := by
  obtain hr | hr := hr <;> rw [hr]
  · exact (Option.some_ne_none other).symm
  · exact fun h => hne (Option.some.inj h).symm

/-- A change for one tenant leaves the roles of any other alone. -/
theorem of_roleChange (ht : t.Valid) (hown : OwnRoles tenantId t) (hne : other ≠ tenantId)
    (hp : t'.permissions = t.permissions) (hchange : RoleChange other t t') :
    SameRoles tenantId t t' := by
  cases hchange with
  | assignments hroles hgrants hother =>
    refine ⟨hp, fun r _ => by rw [hroles], fun _ _ _ x _ => by rw [hgrants], fun x hx => ?_⟩
    exact hother x (hx ▸ hne.symm)
  | role id howner howner' hroles hgrants hsub hkeep =>
    have hid : ∀ r ∈ t.roles, r.ServesTenant tenantId → r.id ≠ id :=
      fun r hr hserves heq => ne_of_serves hne hserves (howner r hr heq)
    refine ⟨hp, fun r hserves => ?_, fun r hr hserves x hx => hgrants x ?_, fun x hten => ?_⟩
    · by_cases heq : r.id = id
      · exact iff_of_false (fun hr => ne_of_serves hne hserves (howner' r hr heq))
          fun hr => ne_of_serves hne hserves (howner r hr heq)
      · exact hroles r heq
    · rw [hx]
      exact hid r hr hserves
    · refine ⟨hsub x, fun hx => hkeep x hx ?_⟩
      obtain ⟨r, hr, hrid, hserves⟩ := hown x hx hten
      rw [← hrid]
      exact hid r hr hserves
  | tenant hdrop =>
    subst hdrop
    have hid : ∀ r ∈ t.roles, r.ServesTenant tenantId → r.id ∉ t.rolesOf other := by
      intro r hr hserves hmem
      obtain ⟨s, hs, hsid⟩ := List.mem_map.mp hmem
      obtain ⟨hs, hsten⟩ := List.mem_filter.mp hs
      obtain rfl := Rows.eq_of_key_eq ht.keys.rolesId hs hr hsid
      exact ne_of_serves hne hserves (of_decide_eq_true hsten)
    refine ⟨rfl, fun r hserves => ?_, fun r hr hserves x hx => ?_, fun x hten => ?_⟩
    · simp [Tables.dropTenant, ne_of_serves hne hserves]
    · simp [Tables.dropTenant, hx, hid r hr hserves]
    · refine ⟨fun hx => (List.mem_filter.mp hx).1, fun hx => List.mem_filter.mpr ⟨hx, ?_⟩⟩
      obtain ⟨r, hr, hrid, hserves⟩ := hown x hx hten
      refine decide_eq_true ⟨hten ▸ hne.symm, ?_⟩
      rw [← hrid]
      exact hid r hr hserves

/-- So nobody's permissions in the tenant change. -/
theorem holdsPermission_iff (h : SameRoles tenantId t t') (ht : OwnRoles tenantId t)
    (userId : UUID) (code : String) :
    HoldsPermission t' userId tenantId code ↔ HoldsPermission t userId tenantId code := by
  constructor
  · rintro ⟨x, hx, huser, hten, rp, hrp, hrole, p, hp, hpid, hcode⟩
    have hx' := (h.assignments x hten).mp hx
    obtain ⟨r, hr, hrid, hserves⟩ := ht x hx' hten
    rw [h.permissions] at hp
    exact ⟨x, hx', huser, hten, rp, (h.grants r hr hserves rp (hrole.trans hrid.symm)).mp hrp,
      hrole, p, hp, hpid, hcode⟩
  · rintro ⟨x, hx, huser, hten, rp, hrp, hrole, p, hp, hpid, hcode⟩
    obtain ⟨r, hr, hrid, hserves⟩ := ht x hx hten
    rw [← h.permissions] at hp
    exact ⟨x, (h.assignments x hten).mpr hx, huser, hten, rp,
      (h.grants r hr hserves rp (hrole.trans hrid.symm)).mpr hrp, hrole, p, hp, hpid, hcode⟩

end SameRoles

/-- Everything that is stored for the tenant is the same, but for the keys that users
have for it. -/
structure SameTenant (tenantId : UUID) (t t' : Tables) : Prop where
  row : t'.tenants.filter (·.id = tenantId) = t.tenants.filter (·.id = tenantId)
  roles : SameRoles tenantId t t'
  invitations : t'.invitations.filter (·.tenantId = tenantId) =
    t.invitations.filter (·.tenantId = tenantId)

namespace ApiRequest

/-- The request is about the tenant: it names it, or an invitation to it. -/
def Concerns (tenantId : UUID) (h : Headers) (d : Tables) : ApiRequest → Prop
  | personal _ (.removeUser _) => h.xTenantId = some (.valid tenantId)
  | personal _ (.createInvitation body _ _) => body.tenantId = tenantId
  | personal _ (.revokeInvitation id) => ∃ x ∈ d.invitations, x.id = id ∧ x.tenantId = tenantId
  | admin (.createTenant _ newId) => newId = tenantId
  | admin (.updateTenant id _) => id = tenantId
  | admin (.deleteTenant id) => id = tenantId
  | admin (.createRole id _ _) => id = tenantId
  | admin (.updateRole id _ _) => id = tenantId
  | admin (.deleteRole id _) => id = tenantId
  | admin (.setRoleUsers id _ _) => id = tenantId
  | verifyInvitation _ token => ∃ x ∈ d.invitations, x.token = token ∧ x.tenantId = tenantId
  | acceptInvitation _ payload _ =>
    ∃ x ∈ d.invitations, x.token = payload.token ∧ x.tenantId = tenantId
  | assignRole id _ _ => id = tenantId
  | removeRole id _ _ => id = tenantId
  | _ => False

section Step

variable {env : Env} {h : Headers} {d v v' : Database} {r : ApiRequest} {tenantId : UUID}

theorem roleTenant_ne (hno : ¬r.Concerns tenantId h d.toTables) {other : UUID}
    (hr : r.roleTenant h = some other) : other ≠ tenantId := by
  rintro rfl
  apply hno
  unfold roleTenant at hr
  split at hr
  · split at hr
    · cases hr
      assumption
    · cases hr
  all_goals first | exact Option.some.inj hr | cases hr

theorem Step.tenantRow (hstep : Step env h d r v v') (hno : ¬r.Concerns tenantId h d.toTables) :
    v'.tenants.filter (·.id = tenantId) = v.tenants.filter (·.id = tenantId) := by
  obtain ⟨e, hs, hv'⟩ := hstep
  rw [hv']
  cases hs with
  | @createTenant _ body newId =>
    have hne : newId ≠ tenantId := hno
    simp [Statement.apply, Tables.addTenant, TenantCreate.row, hne]
  | @updateTenant _ id body =>
    have hne : id ≠ tenantId := hno
    refine Rows.filter_modify fun x _ hid => ?_
    rw [← hid] at hne
    exact ⟨decide_eq_false hne, decide_eq_false hne⟩
  | @deleteTenant _ id =>
    have hne : id ≠ tenantId := hno
    refine (List.filter_filter ..).trans (List.filter_congr fun x _ => ?_)
    rw [Bool.and_eq_left_iff_imp]
    intro hx
    rw [of_decide_eq_true hx]
    exact decide_eq_true hne.symm
  | _ => rfl

/-- An invitation that is revoked or expires is not one to the tenant. -/
theorem filter_modifyInvitation {x : Invitation} (hx : x ∈ v.invitations)
    (hten : x.tenantId ≠ tenantId) {f : Invitation → Invitation}
    (hf : ∀ y, (f y).tenantId = y.tenantId) :
    (Rows.modify (·.id) x.id f v.invitations).filter (·.tenantId = tenantId) =
      v.invitations.filter (·.tenantId = tenantId) := by
  refine Rows.filter_modify fun y hy hid => ?_
  obtain rfl := Rows.eq_of_key_eq v.valid.keys.invitationsId hy hx hid
  exact ⟨decide_eq_false hten, decide_eq_false (by rw [hf]; exact hten)⟩

theorem Step.tenantInvitations (hstep : Step env h d r v v')
    (hno : ¬r.Concerns tenantId h d.toTables)
    (hsame : v.invitations.filter (·.tenantId = tenantId) =
      d.invitations.filter (·.tenantId = tenantId)) :
    v'.invitations.filter (·.tenantId = tenantId) =
      v.invitations.filter (·.tenantId = tenantId) := by
  have hstored : ∀ x ∈ v.invitations, x.tenantId = tenantId → x ∈ d.invitations := by
    intro x hx hten
    have hmem : x ∈ v.invitations.filter (·.tenantId = tenantId) :=
      List.mem_filter.mpr ⟨hx, decide_eq_true hten⟩
    rw [hsame] at hmem
    exact (List.mem_filter.mp hmem).1
  obtain ⟨e, hs, hv'⟩ := hstep
  rw [hv']
  cases hs with
  | @createInvitation _ now sent body newId token u t expiresAt _ hbody =>
    obtain ⟨address, -, rfl⟩ := InvitationCreate.validate_eq_ok.mp hbody
    have hne : sent.tenantId ≠ tenantId := hno
    have hrow : ((InvitationCreate.request { sent with email := address } u.id).row now newId
        token expiresAt).tenantId ≠ tenantId := hne
    refine (List.filter_append _ _).trans ?_
    rw [List.filter_cons_of_neg (by simpa using hrow), List.filter_nil, List.append_nil]
  | @revokeInvitation _ _ _ _ x _ hx hid =>
    subst hid
    exact filter_modifyInvitation hx (fun hten => hno ⟨x, hstored x hx hten, rfl, hten⟩)
      fun _ => rfl
  | @verify _ _ _ x hx htoken =>
    exact filter_modifyInvitation hx (fun hten => hno ⟨x, hstored x hx hten, htoken, hten⟩)
      fun _ => rfl
  | @accept _ _ _ _ x _ hx htoken =>
    exact filter_modifyInvitation hx (fun hten => hno ⟨x, hstored x hx hten, htoken, hten⟩)
      fun _ => rfl
  | @deleteTenant _ id =>
    have hne : id ≠ tenantId := hno
    refine (List.filter_filter ..).trans (List.filter_congr fun x _ => ?_)
    rw [Bool.and_eq_left_iff_imp]
    intro hx
    rw [of_decide_eq_true hx]
    exact decide_eq_true hne.symm
  | _ => rfl

theorem Step.sameTenant (hstep : Step env h d r v v') (hno : ¬r.Concerns tenantId h d.toTables)
    (hown : OwnRoles tenantId d.toTables) (hv : SameTenant tenantId d.toTables v.toTables) :
    SameTenant tenantId d.toTables v'.toTables where
  row := (hstep.tenantRow hno).trans hv.row
  roles := by
    have hpermissions := hstep.sameCatalogue.permissions
    obtain hsame | ⟨other, hr, hchange⟩ := hstep.roleChange
    · refine hv.roles.trans ⟨hpermissions, fun _ _ => ?_, fun _ _ _ _ _ => ?_, fun _ _ => ?_⟩
      · rw [hsame.roles]
      · rw [hsame.grants]
      · rw [hsame.assignments]
    · exact hv.roles.trans (.of_roleChange v.valid (hv.roles.ownRoles hown)
        (roleTenant_ne hno hr) hpermissions hchange)
  invitations := (hstep.tenantInvitations hno hv.invitations).trans hv.invitations

end Step

section Runs

variable {closing : Ending} {env : Env} {security : Security} {tenantId : UUID} {d : Database}

theorem outcome_sameTenant {h : Headers} {r : ApiRequest}
    (hno : ¬r.Concerns tenantId h d.toTables) (hown : OwnRoles tenantId d.toTables) :
    SameTenant tenantId d.toTables (outcome closing env security (h, r) d).toTables := by
  have hI : Closes env h d r fun v => SameTenant tenantId d.toTables v.toTables :=
    fun _ _ hv hstep => hstep.sameTenant hno hown hv
  exact hI.outcome ⟨rfl, .refl _ _, rfl⟩ closing security

/-- A run of requests of which none concerns the tenant leaves everything that is stored
for it as it is, the keys of users apart, and what anybody may do in it. -/
theorem undisturbed_after (hown : OwnRoles tenantId d.toTables)
    (calls : List (Headers × ApiRequest))
    (hno : Runs.Along (outcome closing env security)
      (fun call v => ¬call.2.Concerns tenantId call.1 v.toTables) d calls) :
    SameTenant tenantId d.toTables (Runs.after (outcome closing env security) d calls).toTables ∧
    ∀ userId code,
      (HoldsPermission (Runs.after (outcome closing env security) d calls).toTables userId
          tenantId code ↔ HoldsPermission d.toTables userId tenantId code) := by
  have hsame : SameTenant tenantId d.toTables
      (Runs.after (outcome closing env security) d calls).toTables := by
    refine hno.invariant (I := fun v => SameTenant tenantId d.toTables v.toTables)
      (fun call v hc hv => ?_) ⟨rfl, .refl _ _, rfl⟩
    have hnext : SameTenant tenantId v.toTables (outcome closing env security call v).toTables :=
      outcome_sameTenant hc (hv.roles.ownRoles hown)
    exact ⟨hnext.row.trans hv.row, hv.roles.trans hnext.roles,
      hnext.invitations.trans hv.invitations⟩
  exact ⟨hsame, fun userId code => hsame.roles.holdsPermission_iff hown userId code⟩

/-! Another tenant is made, and the second one of the example is deleted. -/

def elsewhere : List (Headers × ApiRequest) :=
  [(Headers.anonymous, .admin (.createTenant ⟨"Gamma", "gamma", none, true⟩ 3)),
    (Headers.anonymous, .admin (.deleteTenant 2))]

theorem ownRoles_sample : OwnRoles 1 Database.sample.toTables := by
  intro x hx _
  obtain rfl := List.mem_singleton.mp hx
  exact ⟨⟨2, "Manager", none, some 1, false⟩, by decide, rfl, .inr rfl⟩

theorem undisturbed_after_sample :
    SameTenant 1 Database.sample.toTables
      (Runs.after (outcome .commits Env.sample Security.sample) .sample elsewhere).toTables ∧
    ∀ userId code,
      (HoldsPermission (Runs.after (outcome .commits Env.sample Security.sample) .sample
          elsewhere).toTables userId 1 code ↔
        HoldsPermission Database.sample.toTables userId 1 code) := by
  have hnew : (3 : UUID) ≠ 1 := by decide
  have hother : (2 : UUID) ≠ 1 := by decide
  exact undisturbed_after ownRoles_sample elsewhere ⟨hnew, hother, trivial⟩

end Runs
end ApiRequest
end VirtualStack
