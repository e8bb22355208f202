import VirtualStack.Privileges

/-!
# The status of a user in other tenants

`PATCH /users/{user_id}` looks the user up through a membership of the active
tenant. What it writes is a column of the user, and `get_current_active_user`
reads that column in every tenant. Two runs are compared, one with the request and
one without it.
-/

namespace VirtualStack
open UnitOfWork

namespace ApiRequest

variable {env : Env} {security : Security}

/-- The request is let through. -/
def Admitted (env : Env) (security : Security) (call : Headers × ApiRequest) (d : Database) :
    Prop :=
  ∃ a, (serve (Deps.handle call.1 (call.2.endpoint env security call.1)) d).1 = .ok a

/-! ## The use of keys leaves no trace in the answers -/

theorem updatesAlike_forgetUse (env : Env) (r : PersonalRequest) :
    r.UpdatesAlike env fun v v' => v.forgetUse = v'.forgetUse := by
  intro body _ id v v' hv
  rw [UserUpdate.statement, UserUpdate.statement]
  split_ifs
  · exact .error _
  · refine Database.change_forgetUse ?_
    have hcomm : ∀ t : Tables, (t.modifyUser id (body.apply env)).forgetUse =
        t.forgetUse.modifyUser id (body.apply env) := fun _ => rfl
    rw [hcomm, hcomm, Database.forgetUse_eq_iff.mp hv]

theorem respects_forgetUse (henv : env.IgnoresUse) (security : Security)
    (call : Headers × ApiRequest) :
    Respects (fun v v' : Database => v.forgetUse = v'.forgetUse)
      (Deps.handle call.1 (call.2.endpoint env security call.1)) :=
  respects_handle (respects_endpoint henv.alike fun _ r _ => updatesAlike_forgetUse env r)

/-- Stores that differ in the use of their keys stay so, whatever is requested. -/
theorem after_forgetUse (henv : env.IgnoresUse) (security : Security) {d d' : Database}
    (h : d.forgetUse = d'.forgetUse) (calls : List (Headers × ApiRequest)) :
    (after env security d calls).forgetUse = (after env security d' calls).forgetUse :=
  Runs.after_related (E := fun v v' : Database => v.forgetUse = v'.forgetUse)
    (fun call _ _ hv => (respects_forgetUse henv security call).settle hv) h calls

/-- And the same requests are let through. -/
theorem admitted_forgetUse (henv : env.IgnoresUse) {d d' : Database}
    (h : d.forgetUse = d'.forgetUse) (call : Headers × ApiRequest) :
    Admitted env security call d ↔ Admitted env security call d' :=
  ((respects_forgetUse henv security call).serve h).ok_iff

/-! ## The request and a run without it -/

/-- `a` may update users of a tenant and asks for one, `v`, who is also a member of
another tenant, where `a` has no role. -/
structure SharedUser (env : Env) (now : Time) (h : Headers) (d : Database) (a v : User)
    (tenantId other : UUID) : Prop where
  caller : Deps.currentUser env now h d = .ok a
  notSuperuser : ¬a.isSuperuser
  context : h.xTenantId = some (.valid tenantId)
  holds : HoldsPermission d.toTables a.id tenantId Permission.userUpdate.value
  user : v ∈ d.users
  member : IsMember d.toTables v.id tenantId
  distinct : tenantId ≠ other
  otherMember : IsMember d.toTables v.id other
  noRole : ¬IsMember d.toTables a.id other

/-- Whatever is requested in between, a later request in the tenant with the
credentials of the user is let through exactly when it would be without the
`PATCH`. -/
def StatusIsolated (env : Env) (security : Security) (now : Time) (h : Headers) (d : Database)
    (userId : UUID) (isActive : Bool) (tenantId : UUID) : Prop :=
  ∀ (between : List (Headers × ApiRequest)) (later : Time) (h' : Headers) (r : ApiRequest)
    (u : User), h'.xTenantId = some (.valid tenantId) → u.id = userId →
      h'.CarriesOnly env later (after env security d between) u →
      (Admitted env security (h', r) (after env security
          (next env security (h, .personal now (.updateUserStatus userId isActive)) d) between) ↔
        Admitted env security (h', r) (after env security d between))

/-- The user can be identified at some time. -/
def HasCredentials (env : Env) (d : Database) (u : User) : Prop :=
  ∃ (now : Time) (h : Headers), h.CarriesOnly env now d u ∧ h.KeyAccepted env d

section Status

variable {now : Time} {h : Headers} {d : Database} {a v : User} {tenantId other : UUID}

/-- An inactive caller changes nothing. -/
theorem next_updateStatus_of_inactive (hs : SharedUser env now h d a v tenantId other)
    (ha : a.isActive = false) (isActive : Bool) :
    next env security (h, .personal now (.updateUserStatus v.id isActive)) d = d := by
  have hm : h.xTenantId ≠ some .malformed := by
    rw [hs.context]
    simp
  have hf : Fails (Endpoints.updateUserStatusInActiveTenant env now h v.id isActive) d := by
    refine Endpoints.fails_updateUserStatus fun u t hp => ?_
    obtain ⟨hu, hactive⟩ := Deps.currentUser_of_active (Deps.permitted_eq_ok.mp hp).1
    obtain rfl : a = u := Except.ok.inj (hs.caller.symm.trans hu)
    rw [ha] at hactive
    cases hactive
  rw [next, Deps.settle_handle_of_ne hm]
  exact (hf.bind _).settle

/-- The tenant plays no part in what an active caller changes. -/
theorem forgetUse_next_updateStatus (security : Security)
    (hs : SharedUser env now h d a v tenantId other) (ha : a.isActive) (isActive : Bool) :
    (next env security (h, .personal now (.updateUserStatus v.id isActive)) d).toTables.forgetUse =
      d.toTables.forgetUse.modifyUser v.id ((UserUpdate.status isActive).apply env) := by
  have hm : h.xTenantId ≠ some .malformed := by
    rw [hs.context]
    simp
  obtain ⟨x, hx, hxu, hxt⟩ := hs.member
  obtain ⟨t, ht, hid⟩ := List.mem_map.mp (d.valid.references.assignmentTenant x hx)
  obtain rfl : t.id = tenantId := hid.trans hxt
  have htenant : Deps.activeTenant h d.toTables a = .ok t :=
    (Deps.activeTenant_eq_ok hs.context).mpr ⟨ht, rfl, .inr hs.holds.isMember⟩
  have hp : Deps.permitted env now h .userUpdate d = .ok (a, t) :=
    Deps.permitted_eq_ok.mpr
      ⟨Deps.currentActiveUser_eq_ok hs.caller ha, htenant, .inr hs.holds⟩
  have hret : Returns (Endpoints.updateUserStatusInActiveTenant env now h v.id isActive) d _ _ :=
    Endpoints.returns_updateUserStatus hp hs.user rfl ⟨x, hx, hxu, hxt⟩
  have hview : (Deps.identifiedView env now h d).toTables.forgetUse = d.toTables.forgetUse := by
    rw [Deps.identifiedView]
    split
    · exact Tables.forgetUse_touch d.toTables _ now
    · rfl
  have hignore : Returns ((personal now (.updateUserStatus v.id isActive)).endpoint env security h)
      d () _ := hret.bind (returns_pure () _)
  rw [next, Deps.settle_handle_of_ne hm, hignore.settle, ← hview]
  rfl

/-- A value that the user already has makes no difference. -/
theorem forgetUse_next_of_eq (hs : SharedUser env now h d a v tenantId other) {isActive : Bool}
    (heq : isActive = v.isActive) :
    (next env security (h, .personal now (.updateUserStatus v.id isActive)) d).forgetUse =
      d.forgetUse := by
  cases ha : a.isActive with
  | false => rw [next_updateStatus_of_inactive hs ha]
  | true =>
    have hsame : d.toTables.modifyUser v.id ((UserUpdate.status isActive).apply env) =
        d.toTables := by
      rw [Tables.modifyUser, Rows.modify_eq_self fun x hx hid => ?_]
      rw [Rows.eq_of_key_eq d.valid.keys.usersId hx hs.user hid, heq]
      rfl
    exact Database.ext_tables ((forgetUse_next_updateStatus security hs ha isActive).trans
      (congrArg Tables.forgetUse hsame))

end Status

/-! ## Credentials on alike stores -/

section Credentials

variable {later : Time} {h : Headers} {d d' : Database} {u u' : User}

theorem exists_key_iff (hk : d.apiKeys.map APIKey.forgetUse = d'.apiKeys.map APIKey.forgetUse)
    {p : APIKey → Prop} (hp : ∀ k : APIKey, p k ↔ p k.forgetUse) :
    (∃ k ∈ d.apiKeys, p k) ↔ ∃ k ∈ d'.apiKeys, p k := by
  have hmap : ∀ keys : List APIKey, (∃ k ∈ keys, p k) ↔
      ∃ k ∈ keys.map APIKey.forgetUse, p k := by simp [← hp]
  rw [hmap, hk, ← hmap]

/-- The credentials of a user stay the ones of the user when the row changes. -/
theorem carriesOnly_transfer
    (hk : d.apiKeys.map APIKey.forgetUse = d'.apiKeys.map APIKey.forgetUse)
    (hu : u' ∈ d'.users) (hid : u'.id = u.id) (hc : h.CarriesOnly env later d u) :
    h.CarriesOnly env later d' u' where
  user := hu
  token ht := by
    rw [hid]
    exact hc.token ht
  key hkey := by
    rw [hid]
    exact (exists_key_iff hk fun _ => Iff.rfl).mp (hc.key hkey)
  present := hc.present

theorem keyAccepted_transfer
    (hk : d.apiKeys.map APIKey.forgetUse = d'.apiKeys.map APIKey.forgetUse)
    (ha : h.KeyAccepted env d) : h.KeyAccepted env d' := fun hkey =>
  ⟨(ha hkey).1, (exists_key_iff hk fun _ => Iff.rfl).mp (ha hkey).2⟩

/-- The listing of the own keys asks for an active user and nothing else. -/
theorem admitted_listAPIKeys (hm : h.xTenantId ≠ some .malformed)
    (hc : h.CarriesOnly env later d u) (ha : h.KeyAccepted env d) :
    Admitted env security (h, .personal later (.listAPIKeys 0 0 none)) d ↔ u.isActive := by
  rw [Admitted, Deps.serve_handle hm]
  cases hu : u.isActive with
  | false =>
    obtain ⟨e, he⟩ := Deps.currentActiveUser_of_inactive hc hu
    have hf := PersonalRequest.fails_of_checksActive (r := .listAPIKeys 0 0 none) rfl he
    obtain ⟨e', he'⟩ := hf.serve
    simp [endpoint, he']
  | true =>
    have hcur := Deps.currentActiveUser_eq_ok (Deps.currentUser_of_keyAccepted hc ha) hu
    have hselect : ∀ (p : APIKey → Bool) (v : Database), ∃ keys,
        Returns (APIKeyService.select p 0 0) v keys v := fun p v =>
      ⟨_, (returns_query _ v).bind (returns_lift (if_neg (by decide)) v)⟩
    obtain ⟨keys, hkeys⟩ : ∃ keys, Returns (Endpoints.readAPIKeys env later h 0 0 none) d keys
        (Deps.identifiedView env later h d) := by
      have hy := (Deps.yields_getCurrentActiveUser env later h d).returns hcur
      cases hs : u.isSuperuser with
      | true =>
        obtain ⟨keys, hkeys⟩ := hselect (fun _ => true) (Deps.identifiedView env later h d)
        refine ⟨keys, hy.bind ?_⟩
        rw [if_pos hs]
        exact hkeys
      | false =>
        obtain ⟨keys, hkeys⟩ := hselect (·.userId = u.id) (Deps.identifiedView env later h d)
        refine ⟨keys, hy.bind ?_⟩
        rw [if_neg (by simp [hs])]
        exact hkeys.bind (returns_pure keys _)
    have hret : Returns ((personal later (.listAPIKeys 0 0 none)).endpoint env security h) d () _ :=
      hkeys.bind (returns_pure () _)
    simp [hret.serve]

end Credentials

section Isolation

variable {now : Time} {h : Headers} {d : Database} {a v : User} {tenantId other : UUID}

theorem statusIsolated_of_same (henv : env.IgnoresUse)
    (hs : SharedUser env now h d a v tenantId other) {isActive : Bool}
    (hc : a.isActive = false ∨ isActive = v.isActive) :
    StatusIsolated env security now h d v.id isActive other := by
  have hnext : (next env security (h, .personal now (.updateUserStatus v.id isActive))
      d).forgetUse = d.forgetUse := by
    rcases hc with ha | heq
    · rw [next_updateStatus_of_inactive hs ha]
    · exact forgetUse_next_of_eq hs heq
  intro between later h' r u _ _ _
  exact admitted_forgetUse henv (after_forgetUse henv security hnext between) (h', r)

/-- The next request of the user already shows the other status. -/
theorem same_of_statusIsolated (hs : SharedUser env now h d a v tenantId other)
    {isActive : Bool} (hiso : StatusIsolated env security now h d v.id isActive other)
    (hv : HasCredentials env d v) : a.isActive = false ∨ isActive = v.isActive := by
  obtain ⟨later, h', hc, hk⟩ := hv
  cases ha : a.isActive with
  | false => exact .inl rfl
  | true =>
    right
    have hnext := forgetUse_next_updateStatus security hs ha isActive
    generalize hd : next env security (h, .personal now (.updateUserStatus v.id isActive)) d = d'
      at hnext
    have husers : d'.users = Rows.modify (·.id) v.id ((UserUpdate.status isActive).apply env)
        d.users := congrArg Tables.users hnext
    have hkeys : d.apiKeys.map APIKey.forgetUse = d'.apiKeys.map APIKey.forgetUse :=
      (congrArg Tables.apiKeys hnext).symm
    have hv' : (UserUpdate.status isActive).apply env v ∈ d'.users := by
      rw [husers]
      exact Rows.mem_modify.mpr ⟨v, hs.user, (if_pos rfl).symm⟩
    let h₂ : Headers := { h' with xTenantId := some (.valid other) }
    have hc₂ : h₂.CarriesOnly env later d v := ⟨hc.user, hc.token, hc.key, hc.present⟩
    have hk₂ : h₂.KeyAccepted env d := hk
    have hm : h₂.xTenantId ≠ some .malformed := by simp [h₂]
    have hiff := hiso [] later h₂ (.personal later (.listAPIKeys 0 0 none)) v rfl rfl hc₂
    rw [hd, after, after, Runs.after_nil, Runs.after_nil, admitted_listAPIKeys hm hc₂ hk₂,
      admitted_listAPIKeys hm (carriesOnly_transfer (u := v) hkeys hv' rfl hc₂)
        (keyAccepted_transfer hkeys hk₂)] at hiff
    exact Bool.eq_iff_iff.mpr hiff

/-- The request leaves the other tenant alone when its caller is inactive, so that
it is refused, or when the user already has the status; and only then, if there is
any later request of the user to tell. -/
theorem updateStatus_isolated (henv : env.IgnoresUse) (security : Security)
    (hs : SharedUser env now h d a v tenantId other) (isActive : Bool) :
    (a.isActive = false ∨ isActive = v.isActive →
      StatusIsolated env security now h d v.id isActive other) ∧
    (StatusIsolated env security now h d v.id isActive other → HasCredentials env d v →
      a.isActive = false ∨ isActive = v.isActive) :=
  ⟨statusIsolated_of_same henv hs, same_of_statusIsolated hs⟩

/-- A manager of the first tenant, who may update users there, and a member of both
tenants. -/
def shared : Database where
  tenants := [⟨1, "Acme", "acme", none, true⟩, ⟨2, "Beta", "beta", none, true⟩]
  users := [⟨1, "alice@acme.com", "$2b$12$a", some "Alice", true, false⟩,
    ⟨2, "bob@acme.com", "$2b$12$b", none, true, false⟩]
  roles := [⟨1, "Manager", none, some 1, false⟩, ⟨2, "Staff", none, some 1, false⟩,
    ⟨3, "Staff", none, some 2, false⟩]
  permissions := [⟨1, "Update Users", "user:update", none⟩]
  rolePermissions := [⟨1, 1⟩]
  userTenantRoles := [⟨1, 1, 1⟩, ⟨2, 2, 1⟩, ⟨2, 3, 2⟩]
  invitations := []
  apiKeys := []
  valid := by decide

theorem sharedUser_shared :
    SharedUser Env.sample 0 ⟨some "token-1", none, none, some (.valid 1), []⟩ shared
      ⟨1, "alice@acme.com", "$2b$12$a", some "Alice", true, false⟩
      ⟨2, "bob@acme.com", "$2b$12$b", none, true, false⟩ 1 2 :=
  ⟨by decide, by decide, rfl, by decide, by decide, by decide, by decide, by decide, by decide⟩

theorem hasCredentials_shared :
    HasCredentials Env.sample shared ⟨2, "bob@acme.com", "$2b$12$b", none, true, false⟩ :=
  ⟨0, ⟨some "token-2", none, none, none, []⟩,
    ⟨by decide, fun _ => by decide, fun hk => absurd rfl hk, .inl (by decide)⟩,
    fun hk => absurd rfl hk⟩

theorem updateStatus_isolated_shared :
    (true = false ∨ false = true → StatusIsolated Env.sample Security.sample 0
      ⟨some "token-1", none, none, some (.valid 1), []⟩ shared 2 false 2) ∧
    (StatusIsolated Env.sample Security.sample 0
      ⟨some "token-1", none, none, some (.valid 1), []⟩ shared 2 false 2 →
      HasCredentials Env.sample shared ⟨2, "bob@acme.com", "$2b$12$b", none, true, false⟩ →
        true = false ∨ false = true) :=
  updateStatus_isolated (fun _ => rfl) Security.sample sharedUser_shared false

/-- A manager of one tenant locks a member out of the other. -/
theorem shared_not_isolated :
    SharedUser Env.sample 0 ⟨some "token-1", none, none, some (.valid 1), []⟩ shared
      ⟨1, "alice@acme.com", "$2b$12$a", some "Alice", true, false⟩
      ⟨2, "bob@acme.com", "$2b$12$b", none, true, false⟩ 1 2 ∧
    ¬StatusIsolated Env.sample Security.sample 0
      ⟨some "token-1", none, none, some (.valid 1), []⟩ shared 2 false 2 := by
  refine ⟨sharedUser_shared, fun hiso => ?_⟩
  obtain ha | hv := same_of_statusIsolated sharedUser_shared hiso hasCredentials_shared
  · cases ha
  · cases hv

end Isolation

end ApiRequest
end VirtualStack
