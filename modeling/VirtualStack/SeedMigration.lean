import VirtualStack.Environment
import VirtualStack.Migrations

/-!
# `b8f3acf95fa5_seed_initial_admin_user_and_default_.py`

The revision that seeds a tenant with its administrator, and the way back, which knows
the seeded rows by the ids that were drawn when the file was imported.
-/

namespace VirtualStack.Migrations

def defaultTenantSlug : String := "default-tenant"
def defaultAdminEmail : String := "admin@example.com"
def defaultAdminPassword : String := "changeme"
def defaultAdminRoleName : String := "Admin"

/-- The constants of one import of the file that come from `uuid4`. -/
structure SeedIds where
  defaultTenantId : UUID
  defaultAdminId : UUID
  defaultAdminRoleId : UUID
  deriving DecidableEq, Repr

namespace SeedIds

variable (ids : SeedIds) (now : Time)

def defaultTenant : TenantRow where
  id := ids.defaultTenantId
  createdAt := now
  updatedAt := now
  deletedAt := none
  name := "Default Tenant"
  slug := defaultTenantSlug
  description := none
  isActive := true

def defaultAdminRole : TenantRoleRow where
  id := ids.defaultAdminRoleId
  createdAt := now
  updatedAt := now
  deletedAt := none
  name := defaultAdminRoleName
  description := some "Default administrator role for the tenant"
  isSystemRole := false
  tenantId := ids.defaultTenantId

def defaultAdmin (hashedPassword : String) : UserRow where
  id := ids.defaultAdminId
  createdAt := now
  updatedAt := now
  deletedAt := none
  email := defaultAdminEmail
  hashedPassword := hashedPassword
  fullName := none
  isActive := true
  isSuperuser := true
  lastLogin := none

def defaultAssignment (id : UUID) : UserTenantRoleRow where
  id := id
  createdAt := now
  updatedAt := now
  userId := ids.defaultAdminId
  tenantId := ids.defaultTenantId
  tenantRoleId := ids.defaultAdminRoleId

end SeedIds

/-- `assignmentId` is the fourth `uuid4`, drawn while the migration runs. -/
def upgrade (env : Env) (ids : SeedIds) (assignmentId : UUID) (now : Time) (d : IamDatabase) :
    Except Exc IamDatabase := do
  let d ← d.change (.insertTenant (ids.defaultTenant now))
  let d ← d.change (.insertTenantRole (ids.defaultAdminRole now))
  let hashedPassword := env.createPasswordHash defaultAdminPassword
  let d ← d.change (.insertUser (ids.defaultAdmin now hashedPassword))
  d.change (.insertUserTenantRole (ids.defaultAssignment now assignmentId))

def downgrade (ids : SeedIds) (d : IamDatabase) : Except Exc IamDatabase := do
  let d ← d.change (.deleteUserTenantRoles ids.defaultAdminId ids.defaultTenantId)
  let d ← d.change (.deleteUser ids.defaultAdminId)
  let d ← d.change (.deleteTenantRole ids.defaultAdminRoleId)
  d.change (.deleteTenant ids.defaultTenantId)

/-! ## What `upgrade` stores -/

/-- No stored row has one of the ids. -/
structure SeedIds.Absent (ids : SeedIds) (t : IamTables) : Prop where
  tenant : ids.defaultTenantId ∉ t.tenants.map (·.id)
  admin : ids.defaultAdminId ∉ t.users.map (·.id)
  adminRole : ids.defaultAdminRoleId ∉ t.tenantRoles.map (·.id)

/-- Nothing is in the way of the seeded rows. -/
structure Unseeded (ids : SeedIds) (assignmentId : UUID) (t : IamTables) : Prop where
  absent : ids.Absent t
  assignment : assignmentId ∉ t.userTenantRoles.map (·.id)
  slug : defaultTenantSlug ∉ t.tenants.map (·.slug)
  email : defaultAdminEmail ∉ t.users.map (·.email)

section Seeding

variable (env : Env) (ids : SeedIds) (assignmentId : UUID) (now : Time) (t : IamTables)

/-! The tables after each of the four inserts. -/

def withTenant : IamTables := t.insertTenant (ids.defaultTenant now)

def withRole : IamTables := (withTenant ids now t).insertTenantRole (ids.defaultAdminRole now)

def withAdmin : IamTables :=
  (withRole ids now t).insertUser
    (ids.defaultAdmin now (env.createPasswordHash defaultAdminPassword))

def seeded : IamTables :=
  (withAdmin env ids now t).insertUserTenantRole (ids.defaultAssignment now assignmentId)

variable {env ids assignmentId t}

theorem Unseeded.valid_withTenant (h : Unseeded ids assignmentId t) (hv : t.Valid) :
    (withTenant ids now t).Valid := by
  refine hv.insertTenant h.absent.tenant h.slug ?_
  exact ⟨(by decide : "Default Tenant".length ≤ 255), (by decide : defaultTenantSlug.length ≤ 100)⟩

theorem Unseeded.valid_withRole (h : Unseeded ids assignmentId t) (hv : t.Valid) :
    (withRole ids now t).Valid := by
  have hten : ids.defaultTenantId ∈ (withTenant ids now t).tenants.map (·.id) :=
    List.mem_map_of_mem (List.mem_append_right _ (List.mem_singleton_self _))
  -- the tenant is new, so that it has no role yet
  have hname : (ids.defaultTenantId, defaultAdminRoleName) ∉
      t.tenantRoles.map fun y => (y.tenantId, y.name) := by
    intro hm
    obtain ⟨y, hy, he⟩ := List.mem_map.mp hm
    have hmem := hv.references.roleTenant y hy
    rw [(Prod.mk.inj he).1] at hmem
    exact h.absent.tenant hmem
  exact (h.valid_withTenant now hv).insertTenantRole h.absent.adminRole hname hten
    (by decide : defaultAdminRoleName.length ≤ 255)

theorem Unseeded.valid_withAdmin (h : Unseeded ids assignmentId t) (hv : t.Valid)
    (hhash : (env.createPasswordHash defaultAdminPassword).length ≤ 255) :
    (withAdmin env ids now t).Valid := by
  refine (h.valid_withRole now hv).insertUser h.absent.admin h.email ?_
  exact ⟨(by decide : defaultAdminEmail.length ≤ 255), hhash, fun n hn => by cases hn⟩

theorem Unseeded.notMem_userId (h : Unseeded ids assignmentId t) (hv : t.Valid) :
    ids.defaultAdminId ∉ t.userTenantRoles.map (·.userId) :=
  Rows.notMem_map hv.references.assignmentUser h.absent.admin

theorem Unseeded.valid_seeded (h : Unseeded ids assignmentId t) (hv : t.Valid)
    (hhash : (env.createPasswordHash defaultAdminPassword).length ≤ 255) :
    (seeded env ids assignmentId now t).Valid := by
  refine (h.valid_withAdmin now hv hhash).insertUserTenantRole h.assignment ?_ ?_ ?_ ?_
  · intro y hy he
    exact h.notMem_userId hv (List.mem_map.mpr ⟨y, hy, he⟩)
  · exact List.mem_map_of_mem (List.mem_append_right _ (List.mem_singleton_self _))
  · exact List.mem_map_of_mem (List.mem_append_right _ (List.mem_singleton_self _))
  · exact List.mem_map_of_mem (List.mem_append_right _ (List.mem_singleton_self _))

end Seeding

section Runs

variable {env : Env} {ids ids' : SeedIds} {assignmentId : UUID} {d : IamDatabase}

theorem upgrade_eq_ok (h : Unseeded ids assignmentId d.toIamTables)
    (hhash : (env.createPasswordHash defaultAdminPassword).length ≤ 255) (now : Time) :
    upgrade env ids assignmentId now d =
      .ok ⟨seeded env ids assignmentId now d.toIamTables, h.valid_seeded now d.valid hhash⟩ := by
  have hv₁ := h.valid_withTenant now d.valid
  have hv₂ := h.valid_withRole now d.valid
  have hv₃ := h.valid_withAdmin now d.valid hhash
  have hv₄ := h.valid_seeded now d.valid hhash
  have h₁ : d.change (.insertTenant _) = .ok ⟨_, hv₁⟩ := IamDatabase.change_eq_ok hv₁
  have h₂ : IamDatabase.change (.insertTenantRole _) ⟨_, hv₁⟩ = .ok ⟨_, hv₂⟩ :=
    IamDatabase.change_eq_ok hv₂
  have h₃ : IamDatabase.change (.insertUser _) ⟨_, hv₂⟩ = .ok ⟨_, hv₃⟩ :=
    IamDatabase.change_eq_ok hv₃
  have h₄ : IamDatabase.change (.insertUserTenantRole _) ⟨_, hv₃⟩ = .ok ⟨_, hv₄⟩ :=
    IamDatabase.change_eq_ok hv₄
  simp only [upgrade, h₁, h₂, h₃, h₄, bind, Except.bind]

/-! ## What `downgrade` removes -/

/-- With the ids of the import that seeded, each delete takes back one insert, the last
one first. -/
theorem downgrade_seeded (h : Unseeded ids assignmentId d.toIamTables)
    (hhash : (env.createPasswordHash defaultAdminPassword).length ≤ 255) (now : Time) :
    downgrade ids ⟨seeded env ids assignmentId now d.toIamTables,
      h.valid_seeded now d.valid hhash⟩ = .ok d := by
  have hv₁ := h.valid_withTenant now d.valid
  have hv₂ := h.valid_withRole now d.valid
  have hv₃ := h.valid_withAdmin now d.valid hhash
  have hv₄ := h.valid_seeded now d.valid hhash
  have h₄ : IamDatabase.change (.deleteUserTenantRoles ids.defaultAdminId ids.defaultTenantId)
      ⟨_, hv₄⟩ = .ok ⟨_, hv₃⟩ :=
    IamDatabase.change_eq (IamTables.deleteUserTenantRoles_insert (h.notMem_userId d.valid))
  have h₃ : IamDatabase.change (.deleteUser ids.defaultAdminId) ⟨_, hv₃⟩ = .ok ⟨_, hv₂⟩ :=
    IamDatabase.change_eq (hv₂.references.deleteUser_insert h.absent.admin)
  have h₂ : IamDatabase.change (.deleteTenantRole ids.defaultAdminRoleId) ⟨_, hv₂⟩ =
      .ok ⟨_, hv₁⟩ :=
    IamDatabase.change_eq (hv₁.references.deleteTenantRole_insert h.absent.adminRole)
  have h₁ : IamDatabase.change (.deleteTenant ids.defaultTenantId) ⟨_, hv₁⟩ = .ok d :=
    IamDatabase.change_eq <|
      d.valid.references.deleteTenant_insert (x := ids.defaultTenant now) h.absent.tenant
  simp only [downgrade, h₁, h₂, h₃, h₄, bind, Except.bind]

/-- With ids that no row has, nothing is deleted. -/
theorem downgrade_absent (h : ids.Absent d.toIamTables) : downgrade ids d = .ok d := by
  have href := d.valid.references
  have hassigned := Rows.notMem_map href.assignmentUser h.admin
  have h₁ : d.change (.deleteUserTenantRoles ids.defaultAdminId ids.defaultTenantId) = .ok d :=
    IamDatabase.change_eq (IamTables.deleteUserTenantRoles_eq_self _ hassigned)
  have h₂ : d.change (.deleteUser ids.defaultAdminId) = .ok d :=
    IamDatabase.change_eq (href.deleteUser_eq_self h.admin)
  have h₃ : d.change (.deleteTenantRole ids.defaultAdminRoleId) = .ok d :=
    IamDatabase.change_eq (href.deleteTenantRole_eq_self h.adminRole)
  have h₄ : d.change (.deleteTenant ids.defaultTenantId) = .ok d :=
    IamDatabase.change_eq (href.deleteTenant_eq_self h.tenant)
  simp only [downgrade, h₁, h₂, h₃, h₄, bind, Except.bind]

/-! ## The way there and back -/

/-- The same rows, in any order. -/
structure SameRows (t t' : IamTables) : Prop where
  tenants : t.tenants.Perm t'.tenants
  tenantRoles : t.tenantRoles.Perm t'.tenantRoles
  users : t.users.Perm t'.users
  userTenantRoles : t.userTenantRoles.Perm t'.userTenantRoles

/-- `upgrade` after one import and `downgrade` after another succeed and restore the
rows. -/
def Undone (env : Env) (ids ids' : SeedIds) (assignmentId : UUID) (now : Time)
    (d : IamDatabase) : Prop :=
  ∃ d₁ d₂, upgrade env ids assignmentId now d = .ok d₁ ∧ downgrade ids' d₁ = .ok d₂ ∧
    SameRows d₂.toIamTables d.toIamTables

/-- No id of the second import is the one that the first drew for the same row. -/
structure SeedIds.Redrawn (ids ids' : SeedIds) : Prop where
  tenant : ids'.defaultTenantId ≠ ids.defaultTenantId
  admin : ids'.defaultAdminId ≠ ids.defaultAdminId
  adminRole : ids'.defaultAdminRoleId ≠ ids.defaultAdminRoleId

/-- The two runs have one result. -/
theorem undone_iff {d₁ d₂ : IamDatabase} {now : Time}
    (hup : upgrade env ids assignmentId now d = .ok d₁) (hdown : downgrade ids' d₁ = .ok d₂) :
    Undone env ids ids' assignmentId now d ↔ SameRows d₂.toIamTables d.toIamTables := by
  constructor
  · rintro ⟨d₁', d₂', h₁, h₂, hsame⟩
    obtain rfl := Except.ok.inj (hup.symm.trans h₁)
    obtain rfl := Except.ok.inj (hdown.symm.trans h₂)
    exact hsame
  · intro hsame
    exact ⟨d₁, d₂, hup, hdown, hsame⟩

/-- One process takes back what it seeded. -/
theorem undone_in_one_process (h : Unseeded ids assignmentId d.toIamTables)
    (hhash : (env.createPasswordHash defaultAdminPassword).length ≤ 255) (now : Time) :
    Undone env ids ids assignmentId now d := by
  rw [undone_iff (upgrade_eq_ok h hhash now) (downgrade_seeded h hhash now)]
  exact ⟨.rfl, .rfl, .rfl, .rfl⟩

theorem absent_seeded (h : ids'.Absent d.toIamTables) (hnew : ids.Redrawn ids') (now : Time) :
    ids'.Absent (seeded env ids assignmentId now d.toIamTables) where
  tenant := Rows.notMem_map_concat h.tenant hnew.tenant
  admin := Rows.notMem_map_concat h.admin hnew.admin
  adminRole := Rows.notMem_map_concat h.adminRole hnew.adminRole

/-- The seeded tenant is one too many. -/
theorem not_sameRows_seeded {now : Time} {t : IamTables} :
    ¬SameRows (seeded env ids assignmentId now t) t := by
  intro hsame
  have hlength : (t.tenants ++ [ids.defaultTenant now]).length = t.tenants.length :=
    hsame.tenants.length_eq
  rw [List.length_append] at hlength
  exact absurd hlength (Nat.succ_ne_self _)

/-- A second process finds none of its ids, and leaves all that the first one seeded. -/
theorem never_undone_by_another_process (h : Unseeded ids assignmentId d.toIamTables)
    (habsent : ids'.Absent d.toIamTables) (hnew : ids.Redrawn ids')
    (hhash : (env.createPasswordHash defaultAdminPassword).length ≤ 255) (now : Time) :
    (∃ d₁ : IamDatabase, upgrade env ids assignmentId now d = .ok d₁ ∧
      downgrade ids' d₁ = .ok d₁ ∧
      d₁.toIamTables = seeded env ids assignmentId now d.toIamTables) ∧
    ¬Undone env ids ids' assignmentId now d := by
  have hup := upgrade_eq_ok h hhash now
  have hdown := downgrade_absent (d := ⟨_, h.valid_seeded now d.valid hhash⟩)
    (absent_seeded habsent hnew now)
  refine ⟨⟨_, hup, hdown, rfl⟩, ?_⟩
  rw [undone_iff hup hdown]
  exact not_sameRows_seeded

end Runs

/-- A database with a tenant, its role and a user who has it. -/
def acme : IamDatabase where
  tenants := [⟨1, 0, 0, none, "Acme", "acme", none, true⟩]
  tenantRoles := [⟨1, 0, 0, none, "Admin", none, false, 1⟩]
  users := [⟨1, 0, 0, none, "alice@acme.com", "$2b$12$a", some "Alice", true, false, none⟩]
  userTenantRoles := [⟨1, 0, 0, 1, 1, 1⟩]
  valid := by decide

def firstImport : SeedIds := ⟨11, 12, 13⟩
def secondImport : SeedIds := ⟨21, 22, 23⟩

theorem unseeded_acme : Unseeded firstImport 14 acme.toIamTables :=
  ⟨⟨by decide, by decide, by decide⟩, by decide, by decide, by decide⟩

theorem absent_acme : secondImport.Absent acme.toIamTables := ⟨by decide, by decide, by decide⟩

theorem redrawn_imports : firstImport.Redrawn secondImport := ⟨by decide, by decide, by decide⟩

theorem never_undone_by_another_process_sample :
    (∃ d₁ : IamDatabase, upgrade .sample firstImport 14 0 acme = .ok d₁ ∧
      downgrade secondImport d₁ = .ok d₁ ∧
      d₁.toIamTables = seeded .sample firstImport 14 0 acme.toIamTables) ∧
    ¬Undone .sample firstImport secondImport 14 0 acme :=
  never_undone_by_another_process unseeded_acme absent_acme redrawn_imports (by decide) 0

theorem acme_keeps_seeded_rows :
    Unseeded firstImport 14 acme.toIamTables ∧ secondImport.Absent acme.toIamTables ∧
    firstImport.Redrawn secondImport ∧ ¬Undone .sample firstImport secondImport 14 0 acme := by
  refine ⟨unseeded_acme, absent_acme, redrawn_imports, ?_⟩
  have hhash : (Env.sample.createPasswordHash defaultAdminPassword).length ≤ 255 := by decide
  have hup := upgrade_eq_ok unseeded_acme hhash 0
  have hdown := downgrade_absent (d := ⟨_, unseeded_acme.valid_seeded 0 acme.valid hhash⟩)
    (absent_seeded absent_acme redrawn_imports 0)
  rw [undone_iff hup hdown]
  exact not_sameRows_seeded

end VirtualStack.Migrations
