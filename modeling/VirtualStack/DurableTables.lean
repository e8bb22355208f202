import VirtualStack.Durability
import VirtualStack.InvitationsOverTheAPI

/-!
# What the API changes for good

`get_db` closes a session without a commit, and the services that commit are those
of roles, invitations and new API keys. So however the API is used, tenants and
users stay as they are, and a key that was made is never changed or deleted.
-/

namespace VirtualStack
open UnitOfWork

namespace ApiRequest

/-- The requests whose writes are left to a commit that nobody makes. -/
def defers : ApiRequest → Bool
  | personal _ (.updateMe _) | personal _ (.updateUserStatus ..) | personal _ (.removeUser _)
  | personal _ (.updateAPIKey ..) | personal _ (.deleteAPIKey _)
  | admin (.createTenant ..) | admin (.updateTenant ..) | admin (.deleteTenant _)
  | assignRole .. | removeRole .. => true
  | _ => false

end ApiRequest

section Deferred

variable {env : Env} {now : Time} {h : Headers} {d : Database} {α : Type}

/-- What is made of the answer does not matter. -/
theorem stored_discards_map {β : Type} (x : Db α) (f : α → β) :
    stored .discards (x >>= fun a => pure (f a)) d = stored .discards x d := by
  rw [stored_discards, stored_discards, run_bind]
  rcases x.run (.start d) with ⟨_ | _, s⟩ <;> rfl

/-- The middleware stores nothing. -/
theorem stored_discards_handle_of_ne {x : Db α} (hm : h.xTenantId ≠ some .malformed) :
    stored .discards (Deps.handle h x) d = stored .discards x d := by
  rw [stored_discards, ← committed_serve, Deps.serve_handle hm, committed_serve, ← stored_discards]

theorem stored_discards_handle {x : Db α} (hx : stored .discards x d = d) :
    stored .discards (Deps.handle h x) d = d := by
  by_cases hm : h.xTenantId = some .malformed
  · exact (Deps.fails_handle hm).withholdsAt.stored
  · exact (stored_discards_handle_of_ne hm).trans hx

/-- The program behind one of the mutations. -/
theorem Mutation.stored_discards (env : Env) (now : Time) (h : Headers) (m : Mutation)
    {x : Db α} {f : α → Response} (hm : m.endpoint env now h = x >>= fun a => pure (f a)) :
    stored .discards x d = d := by
  rw [← stored_discards_map x f, ← hm]
  obtain ⟨hfail, -⟩ | ⟨response, s, hs, hc, -⟩ := @decided env now h d m
  · exact hfail.withholdsAt.stored
  · rw [UnitOfWork.stored_discards, ← committed_serve, hs, hc]

namespace ApiRequest

theorem outcome_of_defers (env : Env) (security : Security) (h : Headers) {r : ApiRequest}
    (hr : r.defers) (d : Database) : outcome .discards env security (h, r) d = d := by
  refine stored_discards_handle ?_
  dsimp only
  cases r with
  | personal now r =>
    cases r with
    | updateMe body =>
      exact (stored_discards_map _ _).trans
        ((Mutation.updateCurrentUser body).stored_discards env now h rfl)
    | updateUserStatus userId isActive =>
      exact (stored_discards_map _ _).trans
        ((Mutation.updateUserStatus userId isActive).stored_discards env now h rfl)
    | removeUser userId => exact (Mutation.removeUser userId).stored_discards env now h rfl
    | updateAPIKey id body =>
      exact (stored_discards_map _ _).trans
        ((Mutation.updateAPIKey id body).stored_discards env now h rfl)
    | deleteAPIKey id => exact (Mutation.deleteAPIKey id).stored_discards env now h rfl
    | _ => cases hr
  | admin r =>
    cases r with
    | createTenant body newId =>
      exact (stored_discards_map _ _).trans
        ((Mutation.createTenant body newId).stored_discards env 0 h rfl)
    | updateTenant tenantId body =>
      exact (stored_discards_map _ _).trans
        ((Mutation.updateTenant tenantId body).stored_discards env 0 h rfl)
    | deleteTenant tenantId => exact (Mutation.deleteTenant tenantId).stored_discards env 0 h rfl
    | _ => cases hr
  | assignRole tenantId userId roleId =>
    exact (Mutation.assignRole tenantId userId roleId).stored_discards env 0 h rfl
  | removeRole tenantId userId roleId =>
    exact (Mutation.removeRole tenantId userId roleId).stored_discards env 0 h rfl
  | _ => cases hr

end ApiRequest
end Deferred

/-! ## What is retained -/

/-- Tenants, users and permissions are the same. The keys are there, as they were but
for their last use, and the invitations, of which some were revoked or have expired. -/
structure Retains (t t' : Tables) : Prop where
  tenants : t'.tenants = t.tenants
  users : t'.users = t.users
  permissions : t'.permissions = t.permissions
  apiKeys : ∀ k ∈ t.apiKeys, ∃ k' ∈ t'.apiKeys, k'.forgetUse = k.forgetUse
  invitations : ∀ x ∈ t.invitations, ∃ y ∈ t'.invitations, x.Evolves y

namespace Retains

variable {t t' t'' : Tables}

theorem of_eq (ht : t'.tenants = t.tenants) (hu : t'.users = t.users)
    (hp : t'.permissions = t.permissions) (hk : t'.apiKeys = t.apiKeys)
    (hi : t'.invitations = t.invitations) : Retains t t' where
  tenants := ht
  users := hu
  permissions := hp
  apiKeys k hmem := ⟨k, hk ▸ hmem, rfl⟩
  invitations x hmem := ⟨x, hi ▸ hmem, .refl x⟩

theorem refl (t : Tables) : Retains t t := of_eq rfl rfl rfl rfl rfl

theorem trans (h : Retains t t') (h' : Retains t' t'') : Retains t t'' where
  tenants := h'.tenants.trans h.tenants
  users := h'.users.trans h.users
  permissions := h'.permissions.trans h.permissions
  apiKeys k hk := by
    obtain ⟨k₁, hk₁, heq₁⟩ := h.apiKeys k hk
    obtain ⟨k₂, hk₂, heq₂⟩ := h'.apiKeys k₁ hk₁
    exact ⟨k₂, hk₂, heq₂.trans heq₁⟩
  invitations x hx := by
    obtain ⟨y, hy, hxy⟩ := h.invitations x hx
    obtain ⟨z, hz, hyz⟩ := h'.invitations y hy
    exact ⟨z, hz, hxy.trans hyz⟩

/-- An update of invitations that only lets them evolve. -/
theorem modifyInvitation (t : Tables) (id : UUID) {f : Invitation → Invitation}
    (hf : ∀ x ∈ t.invitations, x.id = id → x.Evolves (f x)) :
    Retains t (t.modifyInvitation id f) where
  tenants := rfl
  users := rfl
  permissions := rfl
  apiKeys k hk := ⟨k, hk, rfl⟩
  invitations x hx := by
    refine ⟨_, Rows.mem_modify.mpr ⟨x, hx, rfl⟩, ?_⟩
    split_ifs with hid
    · exact hf x hx hid
    · exact .refl x

end Retains

namespace ApiRequest

variable {env : Env} {h : Headers} {d v v' : Database} {r : ApiRequest}

theorem Step.retains (hstep : Step env h d r v v') (hr : r.defers = false) :
    Retains v.toTables v'.toTables := by
  obtain ⟨e, hs, hv'⟩ := hstep
  rw [hv']
  cases hs with
  | @touch _ _ now k =>
    refine ⟨rfl, rfl, rfl, fun x hx => ?_, fun x hx => ⟨x, hx, .refl x⟩⟩
    refine ⟨_, Rows.mem_modify.mpr ⟨x, hx, rfl⟩, ?_⟩
    split_ifs <;> rfl
  | createAPIKey =>
    exact ⟨rfl, rfl, rfl, fun k hk => ⟨k, List.mem_append_left _ hk, rfl⟩,
      fun x hx => ⟨x, hx, .refl x⟩⟩
  | createInvitation =>
    exact ⟨rfl, rfl, rfl, fun k hk => ⟨k, hk, rfl⟩,
      fun x hx => ⟨x, List.mem_append_left _ hx, .refl x⟩⟩
  | @revokeInvitation _ _ _ _ z _ hz hid hpending =>
    refine .modifyInvitation v.toTables _ fun x hx hxid => .markRevoked ?_
    rwa [Rows.eq_of_key_eq v.valid.keys.invitationsId hx hz (hxid.trans hid.symm)]
  | verify | accept => exact .modifyInvitation v.toTables _ fun x _ _ => .markExpired x
  | updateMe | updateStatus | removeUser | updateAPIKey | deleteAPIKey => cases hr
  | createTenant | updateTenant | deleteTenant | assignRole | removeRole => cases hr
  | _ => exact .of_eq rfl rfl rfl rfl rfl

/-- The users of one role in one tenant are set, or a role is deleted. -/
def SetsAssignment (r : ApiRequest) (x : UserTenantRole) : Prop :=
  (∃ userIds, r = .admin (.setRoleUsers x.tenantId x.roleId userIds)) ∨
    ∃ tenantId, r = .admin (.deleteRole tenantId x.roleId)

theorem Step.assignment_iff (hstep : Step env h d r v v') (hr : r.defers = false)
    (x : UserTenantRole) :
    (x ∈ v'.userTenantRoles ↔ x ∈ v.userTenantRoles) ∨ r.SetsAssignment x := by
  obtain ⟨e, hs, hv'⟩ := hstep
  rw [hv']
  cases hs with
  | @deleteRole _ tenantId roleId =>
    by_cases hrole : x.roleId = roleId
    · subst hrole
      exact .inr (.inr ⟨_, rfl⟩)
    · exact .inl (by simp [Statement.apply, Tables.dropRole, hrole])
  | @clearUsers _ tenantId roleId =>
    by_cases hx : x.roleId = roleId ∧ x.tenantId = tenantId
    · obtain ⟨rfl, rfl⟩ := hx
      exact .inr (.inl ⟨_, rfl⟩)
    · exact .inl (List.mem_filter.trans (and_iff_left (by simp [hx])))
  | @setUsers _ tenantId roleId userIds =>
    by_cases hx : x.roleId = roleId ∧ x.tenantId = tenantId
    · obtain ⟨rfl, rfl⟩ := hx
      exact .inr (.inl ⟨_, rfl⟩)
    · refine .inl (Rows.mem_insertNew.trans (or_iff_left fun hnew => ?_))
      obtain ⟨u, -, rfl⟩ := List.mem_map.mp hnew
      exact hx ⟨rfl, rfl⟩
  | updateMe | updateStatus | removeUser | updateAPIKey | deleteAPIKey => cases hr
  | createTenant | updateTenant | deleteTenant | assignRole | removeRole => cases hr
  | _ => exact .inl .rfl

section Outcome

variable (env : Env) (security : Security) (h : Headers) (r : ApiRequest) (d : Database)

theorem retains_outcome :
    Retains d.toTables (outcome .discards env security (h, r) d).toTables := by
  cases hr : r.defers with
  | true =>
    rw [outcome_of_defers env security h hr d]
    exact .refl _
  | false =>
    have hI : Closes env h d r fun v => Retains d.toTables v.toTables :=
      fun _ _ hv hstep => hv.trans (hstep.retains hr)
    exact hI.outcome (.refl _) .discards security

theorem outcome_assignment (x : UserTenantRole) :
    (x ∈ (outcome .discards env security (h, r) d).userTenantRoles ↔ x ∈ d.userTenantRoles) ∨
      r.SetsAssignment x := by
  cases hr : r.defers with
  | true =>
    rw [outcome_of_defers env security h hr d]
    exact .inl .rfl
  | false =>
    have hI : Closes env h d r fun v =>
        (x ∈ v.userTenantRoles ↔ x ∈ d.userTenantRoles) ∨ r.SetsAssignment x := by
      rintro v v' (hv | hset) hstep
      · exact (hstep.assignment_iff hr x).imp_left fun hx => hx.trans hv
      · exact .inr hset
    exact hI.outcome (.inl .rfl) .discards security

end Outcome

theorem retains_run (env : Env) (security : Security) (d : Database)
    (calls : List (Headers × ApiRequest)) :
    Retains d.toTables (Runs.after (outcome .discards env security) d calls).toTables :=
  Runs.after_invariant (I := fun v : Database => Retains d.toTables v.toTables)
    (fun i v hv => hv.trans (retains_outcome env security i.1 i.2 v)) (.refl _) calls

/-- However the API is used, tenants, users and permissions stay as they are, no key is
changed or deleted, no invitation is lost, and an assignment comes or goes only when the
users of its role are set or its role is deleted. -/
theorem retains_after (env : Env) (security : Security) (d : Database)
    (calls : List (Headers × ApiRequest)) :
    Retains d.toTables (Runs.after (outcome .discards env security) d calls).toTables ∧
    ∀ x, (x ∈ (Runs.after (outcome .discards env security) d calls).userTenantRoles ↔
        x ∈ d.userTenantRoles) ∨ ∃ i ∈ calls, i.2.SetsAssignment x := by
  constructor
  · exact retains_run env security d calls
  · intro x
    by_contra hno
    obtain ⟨hchanged, hnone⟩ := not_or.mp hno
    obtain ⟨pre, i, post, rfl, hchange⟩ :=
      Runs.exists_change (f := fun v : Database => x ∈ v.userTenantRoles) (by
        exact fun heq => hchanged (iff_of_eq heq))
    obtain hsame | hset := outcome_assignment env security i.1 i.2
      (Runs.after (outcome .discards env security) d pre) x
    · exact hchange (propext hsame)
    · exact hnone ⟨i, List.mem_append_right _ List.mem_cons_self, hset⟩

end ApiRequest
end VirtualStack
