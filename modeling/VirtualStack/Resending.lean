import VirtualStack.InvitationRequests
import VirtualStack.Refusals
import VirtualStack.RoleReplacement

/-!
# Requests that are sent twice

A client that has seen no answer sends its request again. The server then draws new ids
and tokens, and the clock has moved on. Once the first copy was carried out, the second
leaves the store as it is, whoever sends it, except that it makes another API key, and
another invitation in the place of one that has run out.
-/

namespace VirtualStack
open UnitOfWork

/-- No invitation runs out from one time to the other. -/
def Lasts (now later : Time) (t : Tables) : Prop :=
  ∀ x ∈ t.invitations, now ≤ x.expiresAt → later < x.expiresAt

section Invitations

variable {env : Env} {now later : Time} {h h' : Headers} {d v : Database}

theorem Database.expireInvitation_eq_self {id : UUID}
    (hexp : ∀ x ∈ d.invitations, x.id = id → x.status = .expired) :
    d.expireInvitation id = d := by
  have hrows : Rows.modify (·.id) id Invitation.markExpired d.invitations = d.invitations := by
    refine Rows.modify_eq_self fun x hx hid => ?_
    rw [Invitation.markExpired, ← hexp x hx hid]
  refine Database.ext_tables ?_
  change { d.toTables with
    invitations := Rows.modify (·.id) id Invitation.markExpired d.invitations } = d.toTables
  rw [hrows]

namespace Endpoints

/-- An invitation that was asked for is open from then on. -/
theorem open_of_createInvitation {sent : InvitationCreate} {newId : UUID} {newToken : String}
    (hok : ¬Fails (createInvitation env now h sent newId newToken) d)
    (hdays : ∀ days ∈ sent.expiresInDays, 0 ≤ days) :
    ∃ x ∈ (stored .discards (createInvitation env now h sent newId newToken) d).invitations,
      env.emailStr sent.email = some x.email ∧ x.tenantId = sent.tenantId ∧
        InvitationService.Live now x := by
  cases hu : Deps.permitted env now h .tenantManageInvitations d with
  | error e =>
    exact absurd (((Deps.yields_requirePermissionInActiveTenant env now h d _).raises hu).bind
      _).fails hok
  | ok ut =>
    have hgate := (Deps.yields_requirePermissionInActiveTenant env now h d _).returns hu
    by_cases hc : ∃ body, sent.validate env = .ok body ∧ InvitationService.Creatable
        (Deps.identifiedView env now h d) (body.request ut.1.id) now newId newToken
    · obtain ⟨body, hw, hc⟩ := hc
      obtain ⟨address, haddress, rfl⟩ := InvitationCreate.validate_eq_ok.mp hw
      cases hdup : InvitationService.duplicate (Deps.identifiedView env now h d)
          (InvitationCreate.request { sent with email := address } ut.1.id) now with
      | some x =>
        have hret : Returns (createInvitation env now h sent newId newToken) d (x, x.token)
            (Deps.identifiedView env now h d) :=
          hgate.bind ((returns_lift hw _).bind
            (returns_submitInvitation_duplicate hdup newId newToken))
        obtain ⟨hx, hemail, hten, hlive⟩ := of_duplicate hdup
        refine ⟨x, ?_, haddress.trans (congrArg some hemail.symm), hten, hlive⟩
        rw [hret.withholdsAt.stored]
        exact (Deps.identifiedView_checks env now h d).2.2.2.2.2.2 ▸ hx
      | none =>
        obtain ⟨x, hx⟩ | ⟨e, he, hv⟩ := hc
        · rw [hdup] at hx
          cases hx
        · have hrun : (createInvitation env now h sent newId newToken).run (.start d) =
              (.ok ((InvitationCreate.request { sent with email := address } ut.1.id).row now newId
                newToken e, newToken), .start ⟨_, hv⟩) := by
            rw [createInvitation, run_bind_ok (hgate d)]
            dsimp only
            rw [run_bind_ok (returns_lift hw _ d)]
            exact run_tryCatch_ok (InvitationService.createInvitation_new hdup he hv d) _
          rw [stored_discards, hrun]
          refine ⟨_, List.mem_append_right _ (List.mem_singleton_self _), haddress, rfl, rfl, ?_⟩
          rw [InvitationRequest.expiresAt, InvitationCreate.request] at he
          dsimp only at he
          cases hdays' : sent.expiresInDays with
          | none =>
            rw [hdays'] at he
            cases he
          | some days =>
            rw [hdays'] at he
            exact (le_addDays he).mpr (hdays days hdays')
    · exact absurd (fails_createInvitation hu fun body hw hb => hc ⟨body, hw, hb⟩) hok

/-- While an invitation of the person to the tenant is open, asking for one stores
nothing. -/
theorem withholdsAt_createInvitation {sent : InvitationCreate} {newId : UUID}
    {newToken : String} {x : Invitation} (hx : x ∈ v.invitations)
    (hemail : env.emailStr sent.email = some x.email) (hten : x.tenantId = sent.tenantId)
    (hactive : x.isActive later) :
    WithholdsAt (createInvitation env later h' sent newId newToken) v := by
  cases hu : Deps.permitted env later h' .tenantManageInvitations v with
  | error e =>
    exact (((Deps.yields_requirePermissionInActiveTenant env later h' v _).raises hu).bind
      _).fails.withholdsAt
  | ok ut =>
    have hgate := (Deps.yields_requirePermissionInActiveTenant env later h' v _).returns hu
    have hw : sent.validate env = .ok { sent with email := x.email } :=
      InvitationCreate.validate_eq_ok.mpr ⟨x.email, hemail, rfl⟩
    cases hdup : InvitationService.duplicate (Deps.identifiedView env later h' v)
        (InvitationCreate.request { sent with email := x.email } ut.1.id) later with
    | some y =>
      have hret : Returns (createInvitation env later h' sent newId newToken) v (y, y.token)
          (Deps.identifiedView env later h' v) :=
        hgate.bind ((returns_lift hw _).bind
          (returns_submitInvitation_duplicate hdup newId newToken))
      exact hret.withholdsAt
    | none =>
      refine absurd ⟨x, ?_, rfl, hten, hactive⟩ (duplicate_eq_none.mp hdup)
      exact (Deps.identifiedView_checks env later h' v).2.2.2.2.2.2 ▸ hx

theorem createInvitation_again {sent : InvitationCreate} {id newId : UUID}
    {token newToken : String} (hok : ¬Fails (createInvitation env now h sent id token) d)
    (hlasts : Lasts now later (stored .discards (createInvitation env now h sent id token)
      d).toTables)
    (hdays : ∀ days ∈ sent.expiresInDays, 0 ≤ days) :
    stored .discards (createInvitation env later h' sent newId newToken)
        (stored .discards (createInvitation env now h sent id token) d) =
      stored .discards (createInvitation env now h sent id token) d := by
  obtain ⟨x, hx, hemail, hten, hpending, hnow⟩ := open_of_createInvitation hok hdays
  exact (withholdsAt_createInvitation hx hemail hten
    (decide_eq_true ⟨hpending, hlasts x hx hnow⟩)).stored

theorem returns_revokeInvitation_closed {u : User} {x : Invitation}
    (hu : Deps.currentUser env now h d = .ok u)
    (hx : x ∈ (Deps.identifiedView env now h d).invitations)
    (hp : MayManage (Deps.identifiedView env now h d) u x.tenantId) (hs : x.status ≠ .pending) :
    Returns (revokeInvitation env now h x.id) d x (Deps.identifiedView env now h d) := by
  have huser := (Deps.yields_getCurrentUser env now h d).returns hu
  have hget := InvitationService.returns_get x.id (Deps.identifiedView env now h d)
  rw [InvitationService.find?_id hx] at hget
  refine huser.bind (Returns.tryCatch (hget.bind ((returns_requireManagement hp).bind ?_)) _)
  exact (InvitationService.revokeInvitation_closed hx hs).bind (returns_pure x _)

theorem run_revokeInvitation_pending {u : User} {x : Invitation}
    (hu : Deps.currentUser env now h d = .ok u)
    (hx : x ∈ (Deps.identifiedView env now h d).invitations)
    (hp : MayManage (Deps.identifiedView env now h d) u x.tenantId) (hs : x.status = .pending) :
    (revokeInvitation env now h x.id).run (.start d) =
      (.ok x.markRevoked, .start ((Deps.identifiedView env now h d).revokeInvitation x.id)) := by
  have huser := (Deps.yields_getCurrentUser env now h d).returns hu
  have hget := InvitationService.returns_get x.id (Deps.identifiedView env now h d)
  rw [InvitationService.find?_id hx] at hget
  rw [revokeInvitation, run_bind_ok (huser d), run_tryCatch, run_bind_ok (hget d)]
  dsimp only
  rw [run_bind_ok (returns_requireManagement hp d),
    run_bind_ok (InvitationService.revokeInvitation_pending hx hs d)]
  rfl

/-- Whether it was revoked now or had been closed before, an invitation is not pending
after somebody was answered for it. -/
theorem closed_of_revokeInvitation {id : UUID}
    (hok : ¬Fails (revokeInvitation env now h id) d) :
    ∀ x ∈ (stored .discards (revokeInvitation env now h id) d).invitations, x.id = id →
      x.status ≠ .pending := by
  cases hu : Deps.currentUser env now h d with
  | error e =>
    exact absurd (((Deps.yields_getCurrentUser env now h d).raises hu).bind _).fails hok
  | ok u =>
    by_cases hc : ∃ x ∈ (Deps.identifiedView env now h d).invitations, x.id = id ∧
        MayManage (Deps.identifiedView env now h d) u x.tenantId
    · obtain ⟨x, hx, rfl, hp⟩ := hc
      by_cases hs : x.status = .pending
      · rw [stored_discards, run_revokeInvitation_pending hu hx hp hs]
        intro y hy hid
        obtain ⟨z, hz, rfl⟩ := Rows.mem_modify.mp hy
        split_ifs at hid ⊢ with hzid
        · exact nofun
        · exact absurd hid hzid
      · rw [(returns_revokeInvitation_closed hu hx hp hs).withholdsAt.stored]
        intro y hy hid
        have hview := (Deps.identifiedView_checks env now h d).2.2.2.2.2.2
        rwa [Rows.eq_of_key_eq d.valid.keys.invitationsId hy (hview ▸ hx) hid]
    · exact absurd (fails_revokeInvitation hu fun x hx hid hp => hc ⟨x, hx, hid, hp⟩) hok

theorem withholdsAt_revokeInvitation {id : UUID}
    (hclosed : ∀ x ∈ v.invitations, x.id = id → x.status ≠ .pending) :
    WithholdsAt (revokeInvitation env later h' id) v := by
  cases hu : Deps.currentUser env later h' v with
  | error e =>
    exact (((Deps.yields_getCurrentUser env later h' v).raises hu).bind _).fails.withholdsAt
  | ok u =>
    by_cases hc : ∃ x ∈ (Deps.identifiedView env later h' v).invitations, x.id = id ∧
        MayManage (Deps.identifiedView env later h' v) u x.tenantId
    · obtain ⟨x, hx, rfl, hp⟩ := hc
      have hview := (Deps.identifiedView_checks env later h' v).2.2.2.2.2.2
      exact (returns_revokeInvitation_closed hu hx hp (hclosed x (hview ▸ hx) rfl)).withholdsAt
    · exact (fails_revokeInvitation hu fun x hx hid hp => hc ⟨x, hx, hid, hp⟩).withholdsAt

theorem revokeInvitation_again {id : UUID} (hok : ¬Fails (revokeInvitation env now h id) d) :
    stored .discards (revokeInvitation env later h' id)
        (stored .discards (revokeInvitation env now h id) d) =
      stored .discards (revokeInvitation env now h id) d :=
  (withholdsAt_revokeInvitation (closed_of_revokeInvitation hok)).stored

end Endpoints

/-- All that a program that takes a token stores is that the invitation of the token has
expired. -/
structure ExpiresOnly {α : Type} (now : Time) (token : String) (x : Db α) : Prop where
  live : ∀ d : Database, (∀ y ∈ d.invitations, y.token = token → ¬y.expiresAt < now) →
    stored .discards x d = d
  expired : ∀ d : Database, ∀ y ∈ d.invitations, y.token = token → y.expiresAt < now →
    stored .discards x d = d.expireInvitation y.id

/-- The second time there is nothing left to store. -/
theorem ExpiresOnly.again {α β : Type} {token : String} {x : Db α} {y : Db β}
    (hx : ExpiresOnly now token x) (hy : ExpiresOnly later token y)
    (hlasts : Lasts now later (stored .discards x d).toTables) :
    stored .discards y (stored .discards x d) = stored .discards x d := by
  by_cases he : ∃ z ∈ (stored .discards x d).invitations, z.token = token ∧ z.expiresAt < later
  · obtain ⟨z, hz, htoken, hlate⟩ := he
    have hpast : z.expiresAt < now := by
      by_contra hno
      exact lt_asymm hlate (hlasts z hz (Int.not_lt.mp hno))
    rw [hy.expired _ z hz htoken hlate]
    refine Database.expireInvitation_eq_self fun w hw hid => ?_
    obtain rfl := Rows.eq_of_key_eq (Database.valid _).keys.invitationsId hw hz hid
    by_cases hd : ∃ z ∈ d.invitations, z.token = token ∧ z.expiresAt < now
    · obtain ⟨z, hzd, hztoken, hzpast⟩ := hd
      rw [hx.expired d z hzd hztoken hzpast] at hw
      obtain ⟨u, hu, rfl⟩ := Rows.mem_modify.mp hw
      have hutoken : u.token = token := by
        split_ifs at htoken <;> exact htoken
      obtain rfl := Rows.eq_of_key_eq d.valid.keys.invitationsToken hu hzd
        (hutoken.trans hztoken.symm)
      rw [if_pos rfl]
      rfl
    · have hlive : ∀ z ∈ d.invitations, z.token = token → ¬z.expiresAt < now :=
        fun z hz htoken hp => hd ⟨z, hz, htoken, hp⟩
      rw [hx.live d hlive] at hw
      exact absurd hpast (hlive w hw htoken)
  · exact hy.live _ fun z hz htoken hp => he ⟨z, hz, htoken, hp⟩

namespace Endpoints

theorem expiresOnly_verifyInvitationToken (now : Time) (token : String) :
    ExpiresOnly now token (verifyInvitationToken now token) where
  live d hlive := (withholdsAt_verifyInvitationToken hlive).stored
  expired d y hy htoken hp := by
    subst htoken
    rw [stored_discards, verifyInvitationToken, run_tryCatch,
      run_bind_ok (InvitationService.verifyToken_expired hy hp d)]
    rfl

theorem expiresOnly_acceptInvitation (env : Env) (now : Time) {payload : InvitationAccept}
    (hpassword : 8 ≤ payload.password.length) (newUserId : UUID) :
    ExpiresOnly now payload.token (acceptInvitation env now payload newUserId) where
  live d hlive := (withholdsAt_acceptInvitation fun _ => hlive).stored
  expired d y hy htoken hp := by
    have hbody : payload.validate = .ok payload :=
      InvitationAccept.validate_eq_ok.mpr ⟨hpassword, rfl⟩
    have hverify := InvitationService.verifyToken_expired hy hp d
    rw [htoken] at hverify
    rw [stored_discards, acceptInvitation, run_bind_ok (returns_lift hbody d d), run_tryCatch,
      run_bind_ok hverify]
    rfl

/-- A payload that its schema refuses changes nothing. -/
theorem stored_acceptInvitation_short (env : Env) (now : Time) {payload : InvitationAccept}
    (hpassword : ¬8 ≤ payload.password.length) (newUserId : UUID) (d : Database) :
    stored .discards (acceptInvitation env now payload newUserId) d = d :=
  (withholdsAt_acceptInvitation fun hlong => absurd hlong hpassword).stored

end Endpoints
end Invitations

section Roles

variable {env : Env} {h h' : Headers} {d v : Database} {tenantId roleId newId : UUID}

/-- All that the creation of a role does to the roles is that it adds the row. -/
theorem ApiRequest.Step.roles_of_createRole {body : RoleCreate} {v v' : Database}
    (hstep : ApiRequest.Step env h d (.admin (.createRole tenantId body newId)) v v') :
    v'.roles = v.roles ∨ v'.roles = v.roles ++ [body.row newId tenantId] := by
  obtain ⟨e, hs, hv'⟩ := hstep
  rw [hv']
  cases hs with
  | touch hnow => cases hnow
  | createRole => exact .inr rfl
  | _ => exact .inl rfl

/-- The row of the role is stored. -/
theorem mem_of_createRole {security : Security} {body : RoleCreate}
    (hm : h.xTenantId ≠ some .malformed) (ha : Endpoints.Admits env h d tenantId)
    (hc : Endpoints.CanCreateRole d tenantId body newId) :
    body.row newId tenantId ∈ (ApiRequest.outcome .discards env security
      (h, .admin (.createRole tenantId body newId)) d).roles := by
  have hI : ApiRequest.Closes env h d (.admin (.createRole tenantId body newId)) fun w =>
      ∀ r ∈ w.roles, r.id = newId → r = body.row newId tenantId := by
    intro w w' hw hstep r hr hid
    obtain hsame | hnew := hstep.roles_of_createRole
    · exact hw r (hsame ▸ hr) hid
    · rw [hnew] at hr
      exact (List.mem_append.mp hr).elim (fun hr => hw r hr hid) List.mem_singleton.mp
  have hfresh : newId ∉ d.roles.map (·.id) :=
    (Rows.nodup_map_concat d.valid.keys.rolesId).mp hc.2.keys.rolesId
  have hrow := hI.outcome
    (fun r hr hid => absurd (List.mem_map.mpr ⟨r, hr, hid⟩) hfresh) .discards security
  obtain ⟨⟨t, ht, rfl⟩, hg⟩ := ha
  obtain ⟨r, hr, hid⟩ := Endpoints.committed_createCustomRole ht hg hc
  rw [committed_serve, ← stored_discards, ← stored_discards_map _ fun _ => ()] at hr
  rw [ApiRequest.outcome, stored_discards_handle_of_ne hm] at hrow ⊢
  exact hrow r hr hid ▸ hr

theorem Endpoints.withholdsAt_createRole {body : RoleCreate} {r : Role} (hr : r ∈ v.roles)
    (hname : r.name = body.name) (hten : r.tenantId = some tenantId) (newId : UUID) :
    WithholdsAt (Endpoints.createCustomRoleInTenant env h' tenantId body newId) v :=
  (Endpoints.fails_createRole fun hc => hc.2.1 r hr hname hten).withholdsAt

/-- Setting users that are set already. -/
theorem addNewAssignments_dropAssignments {t : Tables} {p : UserTenantRole → Bool}
    {xs : List UserTenantRole} (hxs : ∀ x ∈ xs, p x) :
    Tables.addNewAssignments xs (Tables.dropAssignments p
        (Tables.addNewAssignments xs (t.dropAssignments p))) =
      Tables.addNewAssignments xs (t.dropAssignments p) := by
  have hdrop : Tables.dropAssignments p (Tables.addNewAssignments xs (t.dropAssignments p)) =
      t.dropAssignments p := by
    simp only [Tables.dropAssignments, Tables.addNewAssignments]
    rw [Rows.filter_insertNew fun x hx => by simp [hxs x hx], List.filter_filter]
    simp
  rw [hdrop]

namespace RoleService

/-- Setting permissions that are set already, whatever else has changed since. -/
theorem permissionChange_again {ids : List UUID} {d₁ d' : Database}
    (hd₁ : permissionChange roleId ids d = .ok d₁) (hv : v.rolePermissions = d₁.rolePermissions)
    (hd' : permissionChange roleId ids v = .ok d') : d' = v := by
  refine Database.ext_tables ((permissions_of_permissionChange hd').trans ?_)
  have hids : (ids.map fun p => (⟨roleId, p⟩ : RolePermission)).filter (·.roleId ≠ roleId) = [] :=
    List.filter_eq_nil_iff.mpr (by simp)
  have hset : v.rolePermissions.filter (·.roleId ≠ roleId) ++ ids.map (⟨roleId, ·⟩) =
      v.rolePermissions := by
    rw [hv, permissions_of_permissionChange hd₁]
    simp only [Tables.addRolePermissions, Tables.dropRolePermissions]
    rw [List.filter_append, hids, List.append_nil, List.filter_filter]
    simp
  simp only [Tables.addRolePermissions, Tables.dropRolePermissions]
  rw [hset]

theorem apply_apply (body : RoleUpdate) (r : Role) : body.apply (body.apply r) = body.apply r := by
  rw [RoleUpdate.apply, RoleUpdate.apply]
  congr 1
  · cases body.name with
    | none => rfl
    | some name => cases name <;> rfl
  · cases body.description <;> rfl

/-- An update of a role that has been made changes nothing. -/
theorem updateChange_again {r r' : Role} {body : RoleUpdate} {d' : Database}
    (hr : r ∈ d.roles) (hr' : r' ∈ v.roles) (hid : r'.id = r.id)
    (hv : updateChange r body d = .ok v) (hd' : updateChange r' body v = .ok d') : d' = v := by
  have hrow : r' = body.apply r := by
    rw [roles_of_updateChange hv] at hr'
    obtain ⟨x, hx, rfl⟩ := Rows.mem_modify.mp hr'
    split_ifs at hid ⊢ with hxid
    · rw [Rows.eq_of_key_eq d.valid.keys.rolesId hx hr hxid, changes_eq_apply]
    · exact absurd hid hxid
  have hsame : body.apply r' = r' := by rw [hrow, apply_apply]
  obtain ⟨d₁, hp, hw⟩ := updateChange_eq_ok_iff.mp hv
  obtain ⟨d₂, hp', hw'⟩ := updateChange_eq_ok_iff.mp hd'
  have hname : body.name ≠ some none := by
    intro hname
    rw [RoleUpdate.statement, if_pos hname] at hw
    cases hw
  rw [RoleUpdate.statement, if_neg hname, if_pos hsame] at hw'
  obtain rfl := Except.ok.inj hw'
  cases hids : body.permissionIds with
  | none =>
    rw [hids] at hp'
    cases hp'
    rfl
  | some ids =>
    rw [hids] at hp hp'
    rw [hid] at hp'
    exact permissionChange_again hp (rows_of_statement hw).2 hp'

end RoleService

theorem Endpoints.stored_updateRole {body : RoleUpdate} {r : Role} {d' : Database}
    (ha : Endpoints.Admits env h d tenantId)
    (hc : Endpoints.CanUpdateRole d tenantId roleId body r d') :
    stored .discards (Endpoints.updateCustomRoleInTenant env h tenantId roleId body) d = d' := by
  obtain ⟨⟨t, ht, rfl⟩, hg⟩ := ha
  obtain ⟨result, hs, -⟩ := Endpoints.serve_updateCustomRole ht hg hc
  rw [stored_discards, ← committed_serve, hs]

theorem Endpoints.updateRole_again {body : RoleUpdate}
    (hc : ∃ r d', Endpoints.Admits env h d tenantId ∧
      Endpoints.CanUpdateRole d tenantId roleId body r d') :
    stored .discards (Endpoints.updateCustomRoleInTenant env h' tenantId roleId body)
        (stored .discards (Endpoints.updateCustomRoleInTenant env h tenantId roleId body) d) =
      stored .discards (Endpoints.updateCustomRoleInTenant env h tenantId roleId body) d := by
  obtain ⟨r, v, ha, hcan⟩ := hc
  rw [Endpoints.stored_updateRole ha hcan]
  by_cases hc' : ∃ r' d', Endpoints.Admits env h' v tenantId ∧
      Endpoints.CanUpdateRole v tenantId roleId body r' d'
  · obtain ⟨r', d', ha', hcan'⟩ := hc'
    rw [Endpoints.stored_updateRole ha' hcan']
    obtain ⟨hr, hid, -, -, hv⟩ := hcan
    obtain ⟨hr', hid', -, -, hd'⟩ := hcan'
    exact RoleService.updateChange_again hr hr' (hid'.trans hid.symm) hv hd'
  · exact (Endpoints.fails_updateRole fun r' d' hcan' => hc' ⟨r', d', hcan'⟩).withholdsAt.stored

theorem Endpoints.deleteRole_again
    (hok : ¬Fails (Endpoints.deleteCustomRoleFromTenant env h tenantId roleId) d) :
    stored .discards (Endpoints.deleteCustomRoleFromTenant env h' tenantId roleId)
        (stored .discards (Endpoints.deleteCustomRoleFromTenant env h tenantId roleId) d) =
      stored .discards (Endpoints.deleteCustomRoleFromTenant env h tenantId roleId) d := by
  have hs := (Endpoints.deleteRole_cases env h d tenantId roleId).resolve_left hok
  have hv : stored .discards (Endpoints.deleteCustomRoleFromTenant env h tenantId roleId) d =
      ⟨_, d.valid.dropRole roleId⟩ := by
    rw [stored_discards, ← committed_serve, hs]
  rw [hv]
  obtain hf | hs' := Endpoints.deleteRole_cases env h' ⟨_, d.valid.dropRole roleId⟩ tenantId roleId
  · exact hf.withholdsAt.stored
  · rw [stored_discards, ← committed_serve, hs']
    refine Database.ext_tables ?_
    simp [Tables.dropRole, List.filter_filter]

theorem Endpoints.setRoleUsers_again {userIds : List UUID}
    (hok : ¬Fails (Endpoints.setAssignedUsersForRole tenantId roleId userIds) d) :
    stored .discards (Endpoints.setAssignedUsersForRole tenantId roleId userIds)
        (stored .discards (Endpoints.setAssignedUsersForRole tenantId roleId userIds) d) =
      stored .discards (Endpoints.setAssignedUsersForRole tenantId roleId userIds) d := by
  obtain ⟨v, hs, hv⟩ := (Endpoints.setRoleUsers_cases d tenantId roleId userIds).resolve_left hok
  rw [stored_discards _ d, ← committed_serve, hs]
  obtain hf | ⟨d', hs', hd'⟩ := Endpoints.setRoleUsers_cases v tenantId roleId userIds
  · exact hf.withholdsAt.stored
  · rw [stored_discards, ← committed_serve, hs']
    refine Database.ext_tables (hd'.trans ?_)
    rw [hv]
    refine addNewAssignments_dropAssignments fun x hx => ?_
    obtain ⟨u, -, rfl⟩ := List.mem_map.mp hx
    exact decide_eq_true ⟨rfl, rfl⟩

end Roles

namespace ApiRequest

/-- The request as it is taken when it is sent again: at another time, and with other
values where the server draws some. -/
def resent (later : Time) (newId : UUID) (newToken : String) : ApiRequest → ApiRequest
  | personal _ (.createInvitation body _ _) =>
    personal later (.createInvitation body newId newToken)
  | personal _ r => personal later r
  | admin (.createTenant body _) => admin (.createTenant body newId)
  | admin (.createRole tenantId body _) => admin (.createRole tenantId body newId)
  | login _ username password => login later username password
  | verifyInvitation _ token => verifyInvitation later token
  | acceptInvitation _ payload _ => acceptInvitation later payload newId
  | listRoles _ skip limit => listRoles later skip limit
  | listPermissions _ => listPermissions later
  | r => r

/-- The request makes no API key, and no invitation, in case it makes or looks up one,
runs out before it is sent again. -/
def Repeatable (later : Time) (t : Tables) : ApiRequest → Prop
  | personal _ (.createAPIKey ..) => False
  | personal now (.createInvitation body _ _) =>
    Lasts now later t ∧ ∀ days ∈ body.expiresInDays, 0 ≤ days
  | verifyInvitation now _ => Lasts now later t
  | acceptInvitation now _ _ => Lasts now later t
  | _ => True

section Again

variable {env : Env} {security : Security} {h : Headers} {d : Database} {r : ApiRequest}
  {later : Time} {newId : UUID} {newToken : String}

theorem defers_resent (r : ApiRequest) : (r.resent later newId newToken).defers = r.defers := by
  cases r with
  | personal now r => cases r <;> rfl
  | admin r => cases r <;> rfl
  | _ => rfl

theorem reads_resent (r : ApiRequest) : (r.resent later newId newToken).reads = r.reads := by
  cases r with
  | personal now r => cases r <;> rfl
  | admin r => cases r <;> rfl
  | _ => rfl

/-- A request that is not refused passes the middleware, and it is answered if it
commits nothing early. -/
theorem not_refused (hr : refused env security (h, r) d = false) :
    h.xTenantId ≠ some .malformed ∧
      (r.commitsEarly env h d = false → ¬Fails (r.endpoint env security h) d) := by
  have hm : h.xTenantId ≠ some .malformed := by
    intro hm
    obtain ⟨e, he⟩ := (Deps.fails_handle (x := r.endpoint env security h) (d := d) hm).serve
    simp [refused, hm, he] at hr
  refine ⟨hm, fun hc hf => ?_⟩
  obtain ⟨e, he⟩ := hf.serve
  simp [refused, hc, Deps.serve_handle hm, he] at hr

/-- Once a request was carried out, its second copy leaves the store as it is, whoever
sends it. -/
theorem outcome_resent (env : Env) (security : Security) (h h' : Headers) (r : ApiRequest)
    (later : Time) (newId : UUID) (newToken : String) (d : Database)
    (hr : refused env security (h, r) d = false)
    (hrepeat : r.Repeatable later (outcome .discards env security (h, r) d).toTables) :
    outcome .discards env security (h', r.resent later newId newToken)
        (outcome .discards env security (h, r) d) =
      outcome .discards env security (h, r) d := by
  obtain ⟨hm, hok⟩ := not_refused hr
  cases hd : r.defers with
  | true => exact outcome_of_defers env security h' ((defers_resent r).trans hd) _
  | false =>
    refine stored_discards_handle ?_
    dsimp only
    cases hreads : r.reads with
    | true => exact (withholdsAt_endpoint _ ((reads_resent r).trans hreads)).stored
    | false =>
      have hv : outcome .discards env security (h, r) d =
          stored .discards (r.endpoint env security h) d := stored_discards_handle_of_ne hm
      cases r with
      | personal now r =>
        cases r with
        | createAPIKey => exact hrepeat.elim
        | createInvitation body id token =>
          rw [hv.trans (stored_discards_map _ _)] at hrepeat ⊢
          exact (stored_discards_map _ _).trans (Endpoints.createInvitation_again
            (fun hf => hok rfl (hf.bind _)) hrepeat.1 hrepeat.2)
        | revokeInvitation id =>
          rw [hv.trans (stored_discards_map _ _)]
          exact (stored_discards_map _ _).trans
            (Endpoints.revokeInvitation_again fun hf => hok rfl (hf.bind _))
        | updateMe | updateUserStatus | removeUser | updateAPIKey | deleteAPIKey => cases hd
        | _ => cases hreads
      | admin r =>
        cases r with
        | createTenant | updateTenant | deleteTenant => cases hd
        | createRole tenantId body id =>
          have hc : Endpoints.Admits env h d tenantId ∧
              Endpoints.CanCreateRole d tenantId body id := by
            by_contra hc
            exact hok (decide_eq_false hc) ((Endpoints.fails_createRole hc).bind _)
          exact ((Endpoints.withholdsAt_createRole (mem_of_createRole hm hc.1 hc.2) rfl rfl
            newId).bind_pure _).stored
        | updateRole tenantId roleId body =>
          rw [hv.trans (stored_discards_map _ _)]
          refine (stored_discards_map _ _).trans (Endpoints.updateRole_again ?_)
          by_contra hc
          refine hok (Bool.eq_false_iff.mpr (commitsEarly_updateRole.not.mpr hc)) ?_
          exact (Endpoints.fails_updateRole fun r d' hcan => hc ⟨r, d', hcan⟩).bind _
        | deleteRole tenantId roleId =>
          rw [hv]
          exact Endpoints.deleteRole_again (hok rfl)
        | setRoleUsers tenantId roleId userIds =>
          rw [hv.trans (stored_discards_map _ _)]
          exact (stored_discards_map _ _).trans
            (Endpoints.setRoleUsers_again fun hf => hok rfl (hf.bind _))
      | assignRole | removeRole => cases hd
      | verifyInvitation now token =>
        rw [hv.trans (stored_discards_map _ _)] at hrepeat ⊢
        exact (stored_discards_map _ _).trans
          ((Endpoints.expiresOnly_verifyInvitationToken now token).again
            (Endpoints.expiresOnly_verifyInvitationToken later token) hrepeat)
      | acceptInvitation now payload id =>
        rw [hv.trans (stored_discards_map _ _)] at hrepeat ⊢
        refine (stored_discards_map _ _).trans ?_
        by_cases hpassword : 8 ≤ payload.password.length
        · exact (Endpoints.expiresOnly_acceptInvitation env now hpassword id).again
            (Endpoints.expiresOnly_acceptInvitation env later hpassword newId) hrepeat
        · exact Endpoints.stored_acceptInvitation_short env later hpassword newId _
      | _ => cases hreads

/-- A copy of a request: who sends it, when, and what the server draws for it. -/
structure Copy where
  headers : Headers
  later : Time
  newId : UUID
  newToken : String

/-- A request with the copies of it that arrive before anything else does. -/
structure Delivery where
  call : Headers × ApiRequest
  copies : List Copy

def Delivery.resent (x : Delivery) : List (Headers × ApiRequest) :=
  x.copies.map fun c => (c.headers, x.call.2.resent c.later c.newId c.newToken)

/-- Requests that arrive more than once have the effect of those that arrive once, when
only such are repeated as were carried out and are repeatable. -/
theorem after_deliveries {deliveries : List Delivery}
    (h : Runs.Along (fun x => outcome .discards env security x.call)
      (fun x v => ∀ c ∈ x.copies, refused env security x.call v = false ∧
        x.call.2.Repeatable c.later (outcome .discards env security x.call v).toTables)
      d deliveries) :
    Runs.after (outcome .discards env security) d
        (deliveries.flatMap fun x => x.call :: x.resent) =
      Runs.after (outcome .discards env security) d (deliveries.map (·.call)) := by
  refine Runs.after_flatMap_cons (h.mono fun x v hx i hi => ?_)
  obtain ⟨c, hc, rfl⟩ := List.mem_map.mp hi
  obtain ⟨hr, hrepeat⟩ := hx c hc
  exact outcome_resent env security x.call.1 c.headers x.call.2 c.later c.newId c.newToken v hr
    hrepeat

/-- The superuser invites Carol, and the users of the role of managers are set, each in a
request that arrives twice. -/
def deliveredTwice : List Delivery :=
  [⟨(⟨some "token-2", none, none, some (.valid 1), []⟩,
      .personal 0 (.createInvitation ⟨"carol@acme.com", 1, none, some 7⟩ 2 "invitation-2")),
    [⟨⟨some "token-2", none, none, some (.valid 1), []⟩, 50, 3, "invitation-3"⟩]⟩,
   ⟨(.anonymous, .admin (.setRoleUsers 1 2 [2])), [⟨.anonymous, 60, 0, ""⟩]⟩]

theorem after_deliveries_sample :
    Runs.after (outcome .discards Env.sample Security.sample) Database.sample
        (deliveredTwice.flatMap fun x => x.call :: x.resent) =
      Runs.after (outcome .discards Env.sample Security.sample) Database.sample
        (deliveredTwice.map (·.call)) := by
  refine after_deliveries ⟨?_, ?_, trivial⟩
  · intro c hc
    obtain rfl := List.mem_singleton.mp hc
    refine ⟨rfl, ?_, by decide⟩
    unfold Lasts
    decide
  · intro c hc
    exact ⟨rfl, trivial⟩

end Again
end ApiRequest
end VirtualStack
