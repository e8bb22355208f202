import VirtualStack.Endpoints.APIKeys
import VirtualStack.Endpoints.TenantUsers
import VirtualStack.Endpoints.Tenants
import VirtualStack.Endpoints.Users

/-!
# What is left of an acknowledged write

`get_db` closes the session without a commit, the generic services leave the
commit to the endpoint, and the endpoints below leave it to the session. A
request is durable when the store that later requests start from is the old
one with the change that the response reports.
-/

namespace VirtualStack
open UnitOfWork

/-- The requests that write through services which do not commit. -/
inductive Mutation where
  | createTenant (body : TenantCreate) (newId : UUID)
  | updateTenant (tenantId : UUID) (body : TenantUpdate)
  | deleteTenant (tenantId : UUID)
  | updateCurrentUser (body : UserUpdate)
  | updateUserStatus (userId : UUID) (isActive : Bool)
  | removeUser (userId : UUID)
  | updateAPIKey (apiKeyId : UUID) (body : APIKeyUpdate)
  | deleteAPIKey (apiKeyId : UUID)
  | assignRole (tenantId userId roleId : UUID)
  | removeRole (tenantId userId roleId : UUID)
  deriving DecidableEq, Repr

inductive Response where
  | tenant (x : Tenant)
  | user (x : User)
  | apiKey (x : APIKey)
  | noContent
  deriving DecidableEq, Repr

namespace Mutation

variable (env : Env) (now : Time) (h : Headers)

/-- The endpoint of a request. -/
def endpoint : Mutation → Db Response
  | createTenant body newId => do
    let x ← Endpoints.createTenant body newId
    pure (.tenant x)
  | updateTenant tenantId body => do
    let x ← Endpoints.updateTenant tenantId body
    pure (.tenant x)
  | deleteTenant tenantId => do
    Endpoints.deleteTenant tenantId
    pure .noContent
  | updateCurrentUser body => do
    let x ← Endpoints.updateCurrentUser env now h body
    pure (.user x)
  | updateUserStatus userId isActive => do
    let x ← Endpoints.updateUserStatusInActiveTenant env now h userId isActive
    pure (.user x)
  | removeUser userId => do
    Endpoints.removeUserFromActiveTenant env now h userId
    pure .noContent
  | updateAPIKey apiKeyId body => do
    let x ← Endpoints.updateAPIKey env now h apiKeyId body
    pure (.apiKey x)
  | deleteAPIKey apiKeyId => do
    Endpoints.deleteAPIKey env now h apiKeyId
    pure .noContent
  | assignRole tenantId userId roleId => do
    Endpoints.assignRoleToUser env h tenantId userId roleId
    pure .noContent
  | removeRole tenantId userId roleId => do
    Endpoints.removeRoleFromUser env h tenantId userId roleId
    pure .noContent

/-- The rows after the change that a success response reports: the row it
shows is stored, or what it says is gone or assigned is so. -/
def reported (h : Headers) : Mutation → Response → Tables → Tables
  | createTenant _ _, .tenant x, t => t.addTenant x
  | updateTenant tenantId _, .tenant x, t => t.modifyTenant tenantId fun _ => x
  | deleteTenant tenantId, .noContent, t => t.dropTenant tenantId
  | updateCurrentUser _, .user x, t => t.modifyUser x.id fun _ => x
  | updateUserStatus userId _, .user x, t => t.modifyUser userId fun _ => x
  | removeUser userId, .noContent, t => match h.xTenantId with
    | some (.valid tenantId) =>
      t.dropAssignments fun x => x.userId = userId ∧ x.tenantId = tenantId
    | _ => t
  | updateAPIKey apiKeyId _, .apiKey x, t => t.modifyAPIKey apiKeyId fun _ => x
  | deleteAPIKey apiKeyId, .noContent, t => t.dropAPIKey apiKeyId
  | assignRole tenantId userId roleId, .noContent, t =>
    if ⟨userId, roleId, tenantId⟩ ∈ t.userTenantRoles then t
    else t.addAssignment ⟨userId, roleId, tenantId⟩
  | removeRole tenantId userId roleId, .noContent, t =>
    t.dropAssignments fun x => x.userId = userId ∧ x.tenantId = tenantId ∧ x.roleId = roleId
  | _, _, t => t

/-- A success response is followed by a store that holds exactly the reported
change. -/
def Durable (m : Mutation) (d : Database) : Prop :=
  ∀ response s, serve (Deps.handle h (m.endpoint env now h)) d = (.ok response, s) →
    s.committed.toTables = m.reported h response d.toTables

/-- The request is accepted, its body by its schema too, and its change is more than
a repetition of what is stored. The rows are those the request sees after its caller
is identified. -/
def Effective (d : Database) : Mutation → Prop
  | createTenant body newId => body.Accepted newId d
  | updateTenant tenantId body =>
    body.Accepted tenantId d ∧ ∃ x ∈ d.tenants, x.id = tenantId ∧ body.apply x ≠ x
  | deleteTenant tenantId => ∃ x ∈ d.tenants, x.id = tenantId
  | updateCurrentUser sent => ∃ u body, Deps.currentUser env now h d = .ok u ∧
    sent.validate env = .ok body ∧
      body.Accepted env u.id (Deps.identifiedView env now h d) ∧ body.apply env u ≠ u
  | updateUserStatus userId isActive => ∃ u t,
    Deps.permitted env now h .userUpdate d = .ok (u, t) ∧ IsMember d.toTables userId t.id ∧
      ∃ x ∈ d.users, x.id = userId ∧ x.isActive ≠ isActive
  | removeUser userId => ∃ u t,
    Deps.permitted env now h .userDelete d = .ok (u, t) ∧ IsMember d.toTables userId t.id
  | updateAPIKey apiKeyId body => ∃ k ∈ (Deps.identifiedView env now h d).apiKeys,
    k.id = apiKeyId ∧ Endpoints.ManagesKey env now h d k ∧
      body.Accepted env apiKeyId (Deps.identifiedView env now h d) ∧ body.apply env k ∉ d.apiKeys
  | deleteAPIKey apiKeyId => ∃ k ∈ d.apiKeys, k.id = apiKeyId ∧ Endpoints.ManagesKey env now h d k
  | assignRole tenantId userId roleId => Endpoints.CanAssign env h d tenantId userId roleId ∧
    ⟨userId, roleId, tenantId⟩ ∉ d.userTenantRoles
  | removeRole tenantId userId roleId => env.userSchemaClass h.query = .ok () ∧
    ⟨userId, roleId, tenantId⟩ ∈ d.userTenantRoles

/-! ## Every endpoint fails or leaves the commit out -/

/-- The request fails without effect, or it succeeds, commits nothing, and
reports a change exactly when it is effective. -/
def Decided (m : Mutation) (d : Database) : Prop :=
  (Fails (m.endpoint env now h) d ∧ ¬m.Effective env now h d) ∨
  ∃ response s, serve (m.endpoint env now h) d = (.ok response, s) ∧ s.committed = d ∧
    (m.reported h response d.toTables = d.toTables ↔ ¬m.Effective env now h d)

variable {env now h} {d : Database}

theorem decided_of_returns {m : Mutation} {response : Response} {v : Database}
    (hr : Returns (m.endpoint env now h) d response v)
    (he : m.reported h response d.toTables = d.toTables ↔ ¬m.Effective env now h d) :
    m.Decided env now h d := .inr ⟨response, _, hr.serve, rfl, he⟩

theorem decided_createTenant (body : TenantCreate) (newId : UUID) :
    (createTenant body newId).Decided env now h d := by
  by_cases ha : body.Accepted newId d
  · refine decided_of_returns ((Endpoints.returns_createTenant ha).bind (returns_pure _ _)) ?_
    refine iff_of_false (fun heq => ?_) (not_not.mpr ha)
    have hlen := congrArg (fun t => t.tenants.length) heq
    simp [reported, Tables.addTenant] at hlen
  · exact .inl ⟨(Endpoints.fails_createTenant ha).bind _, ha⟩

/-- Replacing the row of a tenant by `y`. -/
theorem modifyTenant_eq_self {x y : Tenant} (hx : x ∈ d.tenants) :
    d.modifyTenant x.id (fun _ => y) = d.toTables ↔ y = x := by
  rw [← Rows.modify_const_eq_self d.valid.keys.tenantsId hx]
  constructor
  · exact fun he => congrArg Tables.tenants he
  · intro he
    rw [Tables.modifyTenant, he]

theorem modifyUser_eq_self {x y : User} (hx : x ∈ d.users) :
    d.modifyUser x.id (fun _ => y) = d.toTables ↔ y = x := by
  rw [← Rows.modify_const_eq_self d.valid.keys.usersId hx]
  constructor
  · exact fun he => congrArg Tables.users he
  · intro he
    rw [Tables.modifyUser, he]

theorem modifyAPIKey_eq_self {x y : APIKey} (hx : x ∈ d.apiKeys) :
    d.modifyAPIKey x.id (fun _ => y) = d.toTables ↔ y = x := by
  rw [← Rows.modify_const_eq_self d.valid.keys.apiKeysId hx]
  constructor
  · exact fun he => congrArg Tables.apiKeys he
  · intro he
    rw [Tables.modifyAPIKey, he]

theorem dropAssignments_eq_self {p : UserTenantRole → Bool} :
    d.dropAssignments p = d.toTables ↔ ∀ x ∈ d.userTenantRoles, p x = false := by
  have hf : (d.userTenantRoles.filter (!p ·)) = d.userTenantRoles ↔
      ∀ x ∈ d.userTenantRoles, p x = false := by simp [List.filter_eq_self]
  rw [← hf]
  constructor
  · exact fun he => congrArg Tables.userTenantRoles he
  · intro he
    rw [Tables.dropAssignments, he]

theorem decided_updateTenant (tenantId : UUID) (body : TenantUpdate) :
    (updateTenant tenantId body).Decided env now h d := by
  by_cases ha : body.Accepted tenantId d
  · obtain ⟨x, hx, rfl⟩ := ha.1
    refine decided_of_returns
      ((Endpoints.returns_updateTenant ha hx rfl).bind (returns_pure _ _)) ?_
    refine (modifyTenant_eq_self hx).trans ⟨?_, ?_⟩
    · rintro he ⟨-, y, hy, hid, hne⟩
      obtain rfl := Rows.eq_of_key_eq d.valid.keys.tenantsId hx hy hid.symm
      exact hne he
    · intro hn
      by_contra hne
      exact hn ⟨ha, x, hx, rfl, hne⟩
  · exact .inl ⟨(Endpoints.fails_updateTenant ha).bind _, fun he => ha he.1⟩

theorem decided_deleteTenant (tenantId : UUID) :
    (deleteTenant tenantId).Decided env now h d := by
  by_cases ha : ∃ x ∈ d.tenants, x.id = tenantId
  · refine decided_of_returns ((Endpoints.returns_deleteTenant ha).bind (returns_pure _ _)) ?_
    refine iff_of_false (fun heq => ?_) (not_not.mpr ha)
    obtain ⟨x, hx, hid⟩ := ha
    have hmem : x ∈ (d.dropTenant tenantId).tenants := by
      rw [show d.dropTenant tenantId = d.toTables from heq]
      exact hx
    simp [Tables.dropTenant, hid] at hmem
  · exact .inl ⟨(Endpoints.fails_deleteTenant ha).bind _, ha⟩

theorem decided_updateCurrentUser (sent : UserUpdate) :
    (updateCurrentUser sent).Decided env now h d := by
  by_cases ha : ∃ u body, Deps.currentUser env now h d = .ok u ∧ sent.validate env = .ok body ∧
      body.Accepted env u.id (Deps.identifiedView env now h d)
  · obtain ⟨u, body, hu, hw, hb⟩ := ha
    refine decided_of_returns
      ((Endpoints.returns_updateCurrentUser hu hw hb).bind (returns_pure _ _)) ?_
    refine (modifyUser_eq_self (Deps.mem_of_currentUser hu)).trans ⟨?_, ?_⟩
    · rintro he ⟨w, body', hu', hw', -, hne⟩
      rw [hu] at hu'
      rw [hw] at hw'
      cases hu'
      cases hw'
      exact hne he
    · intro hn
      by_contra hne
      exact hn ⟨u, body, hu, hw, hb, hne⟩
  · refine .inl ⟨(Endpoints.fails_updateCurrentUser fun u body hu hw hb =>
      ha ⟨u, body, hu, hw, hb⟩).bind _, ?_⟩
    rintro ⟨u, body, hu, hw, hb, -⟩
    exact ha ⟨u, body, hu, hw, hb⟩

theorem decided_updateUserStatus (userId : UUID) (isActive : Bool) :
    (updateUserStatus userId isActive).Decided env now h d := by
  by_cases ha : ∃ u t, Deps.permitted env now h .userUpdate d = .ok (u, t) ∧
      IsMember d.toTables userId t.id
  · obtain ⟨u, t, hp, hm⟩ := ha
    obtain ⟨x, hfound⟩ := UserService.byIdAndTenant_isSome hm
    obtain ⟨hx, hid, -⟩ := UserService.byIdAndTenant_eq_some.mp hfound
    refine decided_of_returns
      ((Endpoints.returns_updateUserStatus hp hx hid hm).bind (returns_pure _ _)) ?_
    subst hid
    refine (modifyUser_eq_self hx).trans ⟨?_, ?_⟩
    · rintro he ⟨-, -, -, -, y, hy, hyid, hne⟩
      obtain rfl := Rows.eq_of_key_eq d.valid.keys.usersId hx hy hyid.symm
      exact hne (congrArg User.isActive he).symm
    · intro hn
      by_contra hne
      refine hn ⟨u, t, hp, hm, x, hx, rfl, fun he => hne ?_⟩
      rw [← he]
  · refine .inl ⟨(Endpoints.fails_updateUserStatus fun u t hp hm => ha ⟨u, t, hp, hm⟩).bind _, ?_⟩
    rintro ⟨u, t, hp, hm, -⟩
    exact ha ⟨u, t, hp, hm⟩

theorem decided_removeUser (userId : UUID) : (removeUser userId).Decided env now h d := by
  cases hp : Deps.permitted env now h .userDelete d with
  | error e =>
    refine .inl ⟨(Endpoints.fails_removeUser hp).bind _, ?_⟩
    rintro ⟨u, t, hp', -⟩
    rw [hp] at hp'
    cases hp'
  | ok ut =>
    obtain ⟨u, t⟩ := ut
    obtain ⟨v, hv⟩ := Endpoints.returns_removeUser userId hp
    refine decided_of_returns (hv.bind (returns_pure _ _)) ?_
    have hx := (Deps.xTenantId_of_activeTenant (Deps.permitted_eq_ok.mp hp).2.1).1
    simp only [reported, hx]
    refine dropAssignments_eq_self.trans ⟨?_, ?_⟩
    · rintro hnone ⟨u', t', hp', x, hmem, hxu, hxt⟩
      rw [hp] at hp'
      cases hp'
      simpa [hxu, hxt] using hnone x hmem
    · intro hn x hmem
      by_contra hne
      have hxx : x.userId = userId ∧ x.tenantId = t.id := by simpa using hne
      exact hn ⟨u, t, hp, x, hmem, hxx⟩

theorem decided_updateAPIKey (apiKeyId : UUID) (body : APIKeyUpdate) :
    (updateAPIKey apiKeyId body).Decided env now h d := by
  by_cases ha : ∃ k ∈ (Deps.identifiedView env now h d).apiKeys, k.id = apiKeyId ∧
      Endpoints.ManagesKey env now h d k ∧
      body.Accepted env apiKeyId (Deps.identifiedView env now h d)
  · obtain ⟨k, hk, rfl, hm, hb⟩ := ha
    refine decided_of_returns ((Endpoints.returns_updateAPIKey hk hm hb).bind (returns_pure _ _)) ?_
    obtain ⟨stored, hs, hid, -⟩ := (Deps.exists_key_identifiedView (p := fun _ => True)).mp
      ⟨k, hk, rfl, trivial⟩
    change d.modifyAPIKey k.id _ = d.toTables ↔ _
    rw [← hid, modifyAPIKey_eq_self hs]
    constructor
    · rintro he ⟨k', hk', hid', -, -, hne⟩
      obtain rfl := Rows.eq_of_key_eq (Deps.identifiedView env now h d).valid.keys.apiKeysId
        hk hk' (hid.symm.trans hid'.symm)
      exact hne (he ▸ hs)
    · intro hn
      by_contra hne
      refine hn ⟨k, hk, hid.symm, hm, hid ▸ hb, fun hmem => hne ?_⟩
      exact Rows.eq_of_key_eq d.valid.keys.apiKeysId hmem hs hid.symm
  · refine .inl ⟨(Endpoints.fails_updateAPIKey fun k hk hid hm hb =>
      ha ⟨k, hk, hid, hm, hb⟩).bind _, ?_⟩
    rintro ⟨k, hk, hid, hm, hb, -⟩
    exact ha ⟨k, hk, hid, hm, hb⟩

theorem decided_deleteAPIKey (apiKeyId : UUID) :
    (deleteAPIKey apiKeyId).Decided env now h d := by
  -- who may manage a key depends on its owner only
  have hview : (∃ k ∈ (Deps.identifiedView env now h d).apiKeys, k.id = apiKeyId ∧
      Endpoints.ManagesKey env now h d k) ↔
      ∃ k ∈ d.apiKeys, k.id = apiKeyId ∧ Endpoints.ManagesKey env now h d k :=
    Deps.exists_key_identifiedView (p := fun userId =>
      ∃ u, Deps.currentActiveUser env now h d = .ok u ∧ (u.isSuperuser ∨ userId = u.id))
  by_cases ha : ∃ k ∈ d.apiKeys, k.id = apiKeyId ∧ Endpoints.ManagesKey env now h d k
  · obtain ⟨k, hk, rfl, hm⟩ := hview.mpr ha
    refine decided_of_returns ((Endpoints.returns_deleteAPIKey hk hm).bind (returns_pure _ _)) ?_
    refine iff_of_false (fun heq => ?_) (not_not.mpr ha)
    obtain ⟨x, hx, hid, -⟩ := ha
    have hmem : x ∈ (d.dropAPIKey k.id).apiKeys := by
      rw [show d.dropAPIKey k.id = d.toTables from heq]
      exact hx
    simp [Tables.dropAPIKey, hid] at hmem
  · exact .inl ⟨(Endpoints.fails_deleteAPIKey fun k hk hid hm =>
      ha (hview.mp ⟨k, hk, hid, hm⟩)).bind _, ha⟩

theorem decided_assignRole (tenantId userId roleId : UUID) :
    (assignRole tenantId userId roleId).Decided env now h d := by
  by_cases ha : Endpoints.CanAssign env h d tenantId userId roleId
  · by_cases hold : ⟨userId, roleId, tenantId⟩ ∈ d.userTenantRoles
    · refine decided_of_returns
        ((Endpoints.returns_assignRole_old ha hold).bind (returns_pure _ _)) ?_
      refine iff_of_true ?_ fun he => he.2 hold
      rw [reported, if_pos hold]
    · have hs := Endpoints.serve_assignRole_new ha hold
      refine .inr ⟨.noContent,
        ⟨d, d, [(·.change (Tables.addAssignment ⟨userId, roleId, tenantId⟩))], false⟩, ?_, rfl, ?_⟩
      · rw [serve] at hs ⊢
        rcases hr : (Endpoints.assignRoleToUser env h tenantId userId roleId).run (.start d) with
          ⟨_ | _, s⟩
        · rw [hr] at hs
          cases hs
        · rw [hr] at hs
          rw [endpoint, run_bind_ok hr, run_pure]
          exact congrArg (Prod.mk _) (Prod.mk.inj hs).2
      · refine iff_of_false (fun heq => ?_) (not_not.mpr ⟨ha, hold⟩)
        rw [reported, if_neg hold] at heq
        have hlen := congrArg (fun t => t.userTenantRoles.length) heq
        simp [Tables.addAssignment] at hlen
  · exact .inl ⟨(Endpoints.fails_assignRole ha).bind _, fun he => ha he.1⟩

theorem decided_removeRole (tenantId userId roleId : UUID) :
    (removeRole tenantId userId roleId).Decided env now h d := by
  by_cases ha : env.userSchemaClass h.query = .ok () ∧
      ⟨userId, roleId, tenantId⟩ ∈ d.userTenantRoles
  · refine decided_of_returns ((Endpoints.returns_removeRole ha.1 ha.2).bind (returns_pure _ _)) ?_
    refine iff_of_false (fun heq => ?_) (not_not.mpr ha)
    have hp := dropAssignments_eq_self.mp heq _ ha.2
    simp at hp
  · exact .inl ⟨(Endpoints.fails_removeRole fun hg hm => ha ⟨hg, hm⟩).bind _, ha⟩

theorem decided (m : Mutation) : m.Decided env now h d := by
  cases m with
  | createTenant body newId => exact decided_createTenant body newId
  | updateTenant tenantId body => exact decided_updateTenant tenantId body
  | deleteTenant tenantId => exact decided_deleteTenant tenantId
  | updateCurrentUser sent => exact decided_updateCurrentUser sent
  | updateUserStatus userId isActive => exact decided_updateUserStatus userId isActive
  | removeUser userId => exact decided_removeUser userId
  | updateAPIKey apiKeyId body => exact decided_updateAPIKey apiKeyId body
  | deleteAPIKey apiKeyId => exact decided_deleteAPIKey apiKeyId
  | assignRole tenantId userId roleId => exact decided_assignRole tenantId userId roleId
  | removeRole tenantId userId roleId => exact decided_removeRole tenantId userId roleId

/-- No acknowledged change survives its request: a request is durable exactly
when the middleware stops it or it has nothing to change. -/
theorem durable_iff_not_effective (env : Env) (now : Time) (h : Headers) (m : Mutation)
    (d : Database) : m.Durable env now h d ↔
      h.xTenantId = some .malformed ∨ ¬m.Effective env now h d := by
  by_cases hm : h.xTenantId = some .malformed
  · refine iff_of_true ?_ (.inl hm)
    intro response s hs
    obtain ⟨e, he⟩ := (Deps.fails_handle (x := m.endpoint env now h) (d := d) hm).serve
    rw [he] at hs
    cases hs
  · rw [Durable, Deps.serve_handle hm, or_iff_right hm]
    have hdec : m.Decided env now h d := decided m
    obtain ⟨hf, hn⟩ | ⟨response, s, hs, hc, he⟩ := hdec
    · refine iff_of_true ?_ hn
      intro response s hs
      obtain ⟨e, he⟩ := hf.serve
      rw [he] at hs
      cases hs
    · rw [← he]
      constructor
      · intro hd
        rw [← hd response s hs, hc]
      · intro heq response' s' hs'
        rw [hs] at hs'
        cases hs'
        rw [hc, heq]

/-- A tenant whose creation was acknowledged is not there afterwards. -/
theorem createTenant_not_durable :
    ¬(createTenant ⟨"Acme", "acme", none, some true⟩ 1).Durable Env.sample 0 Headers.anonymous
      Database.empty := by
  intro hd
  have ha : TenantCreate.Accepted ⟨"Acme", "acme", none, some true⟩ 1 Database.empty := by decide
  have hr : Returns ((createTenant ⟨"Acme", "acme", none, some true⟩ 1).endpoint Env.sample 0
      Headers.anonymous) Database.empty (.tenant _) ⟨_, ha.2.2⟩ :=
    (Endpoints.returns_createTenant ha).bind (returns_pure _ _)
  have hs := hr.serve
  rw [← Deps.serve_handle (h := Headers.anonymous) (by decide)] at hs
  have hempty := congrArg Tables.tenants (hd _ _ hs)
  cases hempty

end Mutation
end VirtualStack
