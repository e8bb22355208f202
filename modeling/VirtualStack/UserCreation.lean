import VirtualStack.Services.User

/-!
# What creating a user leaves behind

`UserService.create` sends the user, looks up the default role and sends the
assignment. Every way out is followed, from every session, to the store that a
commit by the caller would then make durable.
-/

namespace VirtualStack
open UnitOfWork

namespace UserService

/-- The role that a new user of the tenant is given. -/
def defaultRole (d : Database) (tenantId : UUID) : Option Role :=
  d.roles.find? fun r => r.name = defaultRoleName ∧ r.tenantId = some tenantId

/-- The server accepts the waiting writes of the session, which give `v`, and then the
new user, which gives `v'`. -/
structure UserSent (env : Env) (objIn : UserCreate) (newId : UUID) (s : Session Database Exc)
    (v v' : Database) : Prop where
  sends : s.Sends v
  added : v.change (Tables.addUser (objIn.row env newId)) = .ok v'

/-- The first half of `create`. -/
def insertUser (env : Env) (objIn : UserCreate) (newId : UUID) : Db User :=
  tryCatch
    (do
      add (·.change (Tables.addUser (objIn.row env newId)))
      flush
      CRUDBase.refresh (·.users) (·.id) newId)
    fun e => do
      rollback
      if e = .integrityError ∧ env.integrityTextMentions "users_email_key" then
        throw (.validation s!"User with email {objIn.email} already exists.")
      else throw e

section Exits

variable {env : Env} {objIn : UserCreate} {tenantId newId : UUID} {autocommit : Bool}
  {s : Session Database Exc} {v v' : Database}

theorem UserSent.tables (h : UserSent env objIn newId s v v') :
    v'.toTables = Tables.addUser (objIn.row env newId) v.toTables :=
  Database.change_eq_ok_iff.mp h.added

theorem UserSent.unique {w w' : Database} (h : UserSent env objIn newId s v v')
    (hw : UserSent env objIn newId s w w') : v = w ∧ v' = w' := by
  obtain rfl := h.sends.unique hw.sends
  exact ⟨rfl, Except.ok.inj (h.added.symm.trans hw.added)⟩

theorem UserSent.mem (h : UserSent env objIn newId s v v') : objIn.row env newId ∈ v'.users := by
  rw [h.tables]
  exact List.mem_append_right _ (List.mem_singleton.mpr rfl)

/-- No row of the store mentions a user that could be inserted. -/
theorem UserSent.fresh (h : UserSent env objIn newId s v v') :
    newId ∉ v.users.map (·.id) ∧ ∀ x ∈ v.userTenantRoles, x.userId ≠ newId := by
  have hkeys := v'.valid.keys.usersId
  rw [h.tables] at hkeys
  have hn : newId ∉ v.users.map (·.id) := (Rows.nodup_map_concat v.valid.keys.usersId).mp hkeys
  refine ⟨hn, ?_⟩
  rintro x hx rfl
  exact hn (v.valid.references.assignmentUser x hx)

/-- A handler that rolls back and raises. -/
theorem run_rollback_raise {α : Type} (p : Prop) [Decidable p] (e e' : Exc)
    (s : Session Database Exc) :
    ∃ e'', (do rollback; if p then throw e else throw e' : Db α).run s =
      (.error e'', .start s.committed) := by
  split_ifs
  · exact ⟨e, rfl⟩
  · exact ⟨e', rfl⟩

/-- Sending the waiting writes and the new user. -/
theorem flush_newUser (env : Env) (objIn : UserCreate) (newId : UUID)
    (s : Session Database Exc) :
    (∃ v v', UserSent env objIn newId s v v' ∧
      flush.run { s with unflushed :=
        s.unflushed ++ [(·.change (Tables.addUser (objIn.row env newId)))] } =
          (.ok (), .clean s.committed v')) ∨
    (¬∃ v v', UserSent env objIn newId s v v') ∧
      ∃ e s', flush.run { s with unflushed :=
        s.unflushed ++ [(·.change (Tables.addUser (objIn.row env newId)))] } = (.error e, s') ∧
          s'.committed = s.committed := by
  cases hf : s.failed with
  | true =>
    right
    refine ⟨?_, _, _, flush_aborted rfl, rfl⟩
    rintro ⟨v, v', h⟩
    exact Bool.false_ne_true (h.sends.live.symm.trans hf)
  | false =>
    rw [flush]
    simp only [Bool.false_eq_true, if_false, applyAll_append]
    cases hv : applyAll s.unflushed s.view with
    | error e =>
      right
      refine ⟨?_, e, _, rfl, rfl⟩
      rintro ⟨v, v', h⟩
      cases h.sends.accepted.symm.trans hv
    | ok v =>
      cases hw : v.change (Tables.addUser (objIn.row env newId)) with
      | error e =>
        right
        refine ⟨?_, e, .aborted s.committed, by simp only [hw], rfl⟩
        rintro ⟨w, w', h⟩
        obtain rfl : w = v := Except.ok.inj (h.sends.accepted.symm.trans hv)
        cases h.added.symm.trans hw
      | ok v' => exact .inl ⟨v, v', ⟨⟨hf, hv⟩, hw⟩, by simp only [hw]⟩

/-- The user is inserted, or the session is rolled back. -/
theorem run_insertUser (env : Env) (objIn : UserCreate) (newId : UUID)
    (s : Session Database Exc) :
    (∃ v v', UserSent env objIn newId s v v' ∧
      (insertUser env objIn newId).run s =
        (.ok (objIn.row env newId), .clean s.committed v')) ∨
    (¬∃ v v', UserSent env objIn newId s v v') ∧
      ∃ e, (insertUser env objIn newId).run s = (.error e, .start s.committed) := by
  obtain ⟨v, v', h, hflush⟩ | ⟨h, e, s', hflush, hc⟩ := flush_newUser env objIn newId s
  · left
    refine ⟨v, v', h, run_tryCatch_ok ?_ _⟩
    have hfind : v'.users.find? (·.id = newId) = some (objIn.row env newId) :=
      (Rows.find?_key_eq_some v'.valid.keys.usersId).mpr ⟨h.mem, rfl⟩
    change (flush >>= fun _ => CRUDBase.refresh (·.users) (·.id) newId).run _ = _
    rw [run_bind_ok hflush]
    exact CRUDBase.returns_refresh (·.users) (·.id) v' newId hfind s.committed
  · right
    have hbody : (do
        add (·.change (Tables.addUser (objIn.row env newId)))
        flush
        CRUDBase.refresh (·.users) (·.id) newId : Db User).run s = (.error e, s') :=
      run_bind_error hflush _
    refine ⟨h, ?_⟩
    rw [insertUser, run_tryCatch_error hbody, ← hc]
    exact run_rollback_raise _ _ _ s'

theorem defaultRole_mem {r : Role} (h : defaultRole v tenantId = some r) :
    r ∈ v.roles ∧ r.name = defaultRoleName ∧ r.tenantId = some tenantId := by
  have hp := List.find?_some h
  exact ⟨List.mem_of_find?_eq_some h, of_decide_eq_true hp⟩

/-- The default role can always be given to the new user. -/
theorem UserSent.assignment {r : Role} (h : UserSent env objIn newId s v v')
    (hr : defaultRole v tenantId = some r) :
    (Tables.addAssignment ⟨newId, r.id, tenantId⟩ v'.toTables).Valid := by
  obtain ⟨hmem, -, hten⟩ := defaultRole_mem hr
  have hroles : v'.roles = v.roles := by rw [h.tables]; rfl
  have hassign : v'.userTenantRoles = v.userTenantRoles := by rw [h.tables]; rfl
  refine v'.valid.addAssignment ?_ ?_ ?_ ?_
  · rw [hassign]
    exact fun hx => h.fresh.2 _ hx rfl
  · exact List.mem_map.mpr ⟨_, h.mem, rfl⟩
  · rw [hroles]
    exact List.mem_map_of_mem hmem
  · exact v'.valid.references.roleTenant r (hroles ▸ hmem) tenantId hten

/-! ## The ways out of `create` -/

theorem run_create_refused (tenantId : UUID) (autocommit : Bool)
    (h : ¬∃ v v', UserSent env objIn newId s v v') :
    ∃ e, (create env objIn tenantId newId autocommit).run s = (.error e, .start s.committed) := by
  obtain ⟨v, v', hsent, -⟩ | ⟨-, e, he⟩ := run_insertUser env objIn newId s
  · exact absurd ⟨v, v', hsent⟩ h
  · exact ⟨e, run_bind_error he _⟩

/-- The user is inserted when the role is looked up. -/
theorem run_create_inserted (h : UserSent env objIn newId s v v') :
    (create env objIn tenantId newId autocommit).run s =
      (match defaultRole v' tenantId with
      | none => throw (.valueError
          s!"Default role '{defaultRoleName}' not found in tenant {tenantId}.")
      | some r => do
        tryCatch
          (do
            add (·.change (Tables.addAssignment ⟨newId, r.id, tenantId⟩))
            flush)
          fun e => do
            rollback
            if e = .integrityError then
              throw (.validation (s!"Could not associate user with tenant {tenantId} and role " ++
                s!"{r.id}. Invalid tenant/role or duplicate entry?"))
            else throw e
        if autocommit then commit else pure ()
        pure (objIn.row env newId) : Db User).run (.clean s.committed v') := by
  obtain ⟨w, w', hw, hrun⟩ | ⟨hn, -⟩ := run_insertUser env objIn newId s
  · obtain ⟨rfl, rfl⟩ := h.unique hw
    change (insertUser env objIn newId >>= _).run s = _
    rw [run_bind_ok hrun]
    change (query _ >>= _).run _ = _
    rw [run_bind_ok (query_clean s.committed v' _)]
    change (match defaultRole v' tenantId with
      | none => _
      | some r => _ : Db User).run _ = _
    cases defaultRole v' tenantId <;> rfl
  · exact absurd ⟨v, v', h⟩ hn

theorem UserSent.defaultRole_eq (h : UserSent env objIn newId s v v') :
    defaultRole v' tenantId = defaultRole v tenantId := by
  rw [defaultRole, defaultRole, h.tables]
  rfl

/-- Without the role the exception leaves with the user in the open transaction. -/
theorem run_create_without_role (autocommit : Bool) (h : UserSent env objIn newId s v v')
    (hr : defaultRole v tenantId = none) :
    (create env objIn tenantId newId autocommit).run s =
      (.error (.valueError s!"Default role '{defaultRoleName}' not found in tenant {tenantId}."),
        .clean s.committed v') := by
  rw [run_create_inserted h, h.defaultRole_eq, hr]
  rfl

theorem run_create_with_role {r : Role} (autocommit : Bool)
    (h : UserSent env objIn newId s v v') (hr : defaultRole v tenantId = some r) :
    ∃ w, w.toTables = Tables.addAssignment ⟨newId, r.id, tenantId⟩ v'.toTables ∧
      (create env objIn tenantId newId autocommit).run s =
        (.ok (objIn.row env newId), .clean (if autocommit then w else s.committed) w) := by
  obtain ⟨w, hw⟩ : ∃ w, v'.change (Tables.addAssignment ⟨newId, r.id, tenantId⟩) = .ok w :=
    ⟨_, Database.change_eq_ok (h.assignment hr)⟩
  refine ⟨w, Database.change_eq_ok_iff.mp hw, ?_⟩
  rw [run_create_inserted h, h.defaultRole_eq, hr]
  dsimp only
  have hbody : (do
      add (·.change (Tables.addAssignment ⟨newId, r.id, tenantId⟩))
      flush : Db Unit).run (.clean s.committed v') = (.ok (), .clean s.committed w) := by
    rw [run_bind_ok (add_clean s.committed v' _)]
    exact flush_one_ok s.committed v' hw
  rw [run_bind_ok (run_tryCatch_ok hbody _)]
  cases autocommit <;> rfl

/-! ## Nothing half made -/

/-- A call that raises leaves neither the user nor an assignment of the user for the
caller to commit. A call that returns adds one user, with the email that was asked for,
and one assignment, to the default role, to what the caller had written. -/
structure LeavesWhole (env : Env) (objIn : UserCreate) (tenantId newId : UUID)
    (autocommit : Bool) (s : Session Database Exc) : Prop where
  raised : ∀ e s', (create env objIn tenantId newId autocommit).run s = (.error e, s') →
    (∀ u ∈ ((commit : Db Unit).run s').2.committed.users, u.id = newId → u ∈ s.committed.users) ∧
    ∀ x ∈ ((commit : Db Unit).run s').2.committed.userTenantRoles, x.userId = newId →
      x ∈ s.committed.userTenantRoles
  returned : ∀ u s', (create env objIn tenantId newId autocommit).run s = (.ok u, s') →
    ∃ v, s.Sends v ∧
      ∃ r ∈ v.roles, r.name = defaultRoleName ∧ r.tenantId = some tenantId ∧
        u.email = objIn.email ∧ u.id ∉ v.users.map (·.id) ∧
        s'.view.toTables = { v.toTables with
          users := v.users ++ [u]
          userTenantRoles := v.userTenantRoles ++ [⟨u.id, r.id, tenantId⟩] } ∧
        s' = .clean (if autocommit then s'.view else s.committed) s'.view

/-- The user is accepted, is not a row that was committed before, and the tenant has no
default role. -/
def Stranded (env : Env) (objIn : UserCreate) (tenantId newId : UUID)
    (s : Session Database Exc) : Prop :=
  objIn.row env newId ∉ s.committed.users ∧
    ∃ v v', UserSent env objIn newId s v v' ∧ defaultRole v tenantId = none

theorem not_leavesWhole (h : Stranded env objIn tenantId newId s) :
    ¬LeavesWhole env objIn tenantId newId autocommit s := by
  obtain ⟨hn, v, v', hsent, hr⟩ := h
  intro hw
  exact hn ((hw.raised _ _ (run_create_without_role autocommit hsent hr)).1 _ hsent.mem rfl)

theorem leavesWhole_of_role {r : Role} (h : UserSent env objIn newId s v v')
    (hr : defaultRole v tenantId = some r) :
    LeavesWhole env objIn tenantId newId autocommit s := by
  obtain ⟨w, hw, hrun⟩ := run_create_with_role autocommit h hr
  obtain ⟨hmem, hname, hten⟩ := defaultRole_mem hr
  refine ⟨fun e s' he => ?_, fun u s' hu => ?_⟩
  · cases hrun.symm.trans he
  · cases hrun.symm.trans hu
    refine ⟨v, h.sends, r, hmem, hname, hten, rfl, h.fresh.1, ?_, rfl⟩
    rw [hw, h.tables]
    rfl

/-- The row that the call adds is then one that the caller had only deleted. -/
theorem leavesWhole_of_committed (h : UserSent env objIn newId s v v')
    (hr : defaultRole v tenantId = none) (hc : objIn.row env newId ∈ s.committed.users) :
    LeavesWhole env objIn tenantId newId autocommit s := by
  have hrun := run_create_without_role autocommit h hr
  refine ⟨fun e s' he => ?_, fun u s' hu => ?_⟩
  · cases hrun.symm.trans he
    constructor
    · intro u hu hid
      rwa [Rows.eq_of_key_eq v'.valid.keys.usersId hu h.mem hid]
    · intro x hx hid
      change x ∈ v'.userTenantRoles at hx
      rw [h.tables] at hx
      exact absurd hid (h.fresh.2 x hx)
  · cases hrun.symm.trans hu

/-- A session that was rolled back has nothing of the call to commit. -/
theorem leavesWhole_of_refused (h : ¬∃ v v', UserSent env objIn newId s v v') :
    LeavesWhole env objIn tenantId newId autocommit s := by
  obtain ⟨e, hrun⟩ := run_create_refused tenantId autocommit h
  refine ⟨fun e' s' he => ?_, fun u s' hu => ?_⟩
  · cases hrun.symm.trans he
    exact ⟨fun u hu _ => hu, fun x hx _ => hx⟩
  · cases hrun.symm.trans hu

/-- No half-made user is left exactly when it is not the default role that is missing
for a user who could be inserted. -/
theorem leaves_whole_iff : LeavesWhole env objIn tenantId newId autocommit s ↔
    ¬Stranded env objIn tenantId newId s := by
  refine ⟨fun h hs => not_leavesWhole hs h, fun hs => ?_⟩
  by_cases hsent : ∃ v v', UserSent env objIn newId s v v'
  · obtain ⟨v, v', hsent⟩ := hsent
    cases hr : defaultRole v tenantId with
    | some r => exact leavesWhole_of_role hsent hr
    | none =>
      refine leavesWhole_of_committed hsent hr ?_
      by_contra hc
      exact hs ⟨hc, v, v', hsent, hr⟩
  · exact leavesWhole_of_refused hsent

end Exits

/-- A user for examples. -/
def carol : UserCreate := ⟨"carol@beta.com", "correct horse", "Carol", "Beta", false, true⟩

theorem valid_addCarol :
    (Tables.addUser (carol.row Env.sample 3) Database.sample.toTables).Valid := by decide

theorem carol_sent :
    UserSent Env.sample carol 3 (.start Database.sample) Database.sample ⟨_, valid_addCarol⟩ :=
  ⟨Session.sends_clean _ _, Database.change_eq_ok valid_addCarol⟩

/-- The second tenant has no default role. -/
theorem carol_left_without_role :
    ((create Env.sample carol 2 3 false).run (.start Database.sample)).1 =
      .error (.valueError "Default role 'Default User Role' not found in tenant 2.") ∧
    ¬LeavesWhole Env.sample carol 2 3 false (.start Database.sample) := by
  have hr : defaultRole Database.sample 2 = none := by decide
  constructor
  · rw [run_create_without_role false carol_sent hr]
    rfl
  · exact not_leavesWhole ⟨by decide, _, _, carol_sent, hr⟩

end UserService
end VirtualStack
