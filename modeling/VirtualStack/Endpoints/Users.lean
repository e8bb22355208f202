import VirtualStack.Deps

/-!
# `api/v1/endpoints/users.py`
-/

namespace VirtualStack
open UnitOfWork

/-- What `EmailStr` makes of the address; a missing one and `null` stay. -/
def UserUpdate.parsedEmail (env : Env) (body : UserUpdate) : Option (Field String) :=
  match body.email with
  | some (some text) => (env.emailStr text).map fun address => some (some address)
  | unset => some unset

/-- `min_length=8` on `password`, which may be missing or `null`. -/
def UserUpdate.passwordFits (body : UserUpdate) : Bool :=
  match body.password with
  | some (some p) => 8 ≤ p.length
  | _ => true

/-- `UserUpdate` on a body. -/
def UserUpdate.validate (env : Env) (body : UserUpdate) : Except Exc UserUpdate :=
  match body.parsedEmail env with
  | none => .error (.http 422 "value is not a valid email address")
  | some email =>
    if body.passwordFits then .ok { body with email := email }
    else .error (.http 422 "String should have at least 8 characters")

theorem UserUpdate.validate_eq_ok {env : Env} {sent body : UserUpdate} :
    sent.validate env = .ok body ↔ ∃ email, sent.parsedEmail env = some email ∧
      sent.passwordFits ∧ body = { sent with email := email } := by
  rw [UserUpdate.validate]
  cases sent.parsedEmail env with
  | none => simp
  | some email =>
    dsimp only
    split_ifs with hp
    · simp [hp, eq_comm]
    · simp [hp]

namespace Endpoints

def listUsersInActiveTenant (env : Env) (now : Time) (h : Headers) (page limit : ℕ)
    (search : Option String) : Db (List (User × List String) × ℕ) := do
  let (_, activeTenant) ← Deps.requirePermissionInActiveTenant env now h .userRead
  UserService.getMultiByTenantPaginated activeTenant.id ((page - 1) * limit) limit search

def getCurrentUserInfo (env : Env) (now : Time) (h : Headers) : Db User :=
  Deps.getCurrentUser env now h

/-- FastAPI resolves the dependencies first; the body is checked after them. -/
def updateCurrentUser (env : Env) (now : Time) (h : Headers) (userIn : UserUpdate) : Db User := do
  let currentUser ← Deps.getCurrentUser env now h
  let userIn ← lift (userIn.validate env)
  UserService.update env currentUser userIn

def updateUserStatusInActiveTenant (env : Env) (now : Time) (h : Headers) (userId : UUID)
    (isActive : Bool) : Db User := do
  let (_, activeTenant) ← Deps.requirePermissionInActiveTenant env now h .userUpdate
  match ← UserService.getByIdAndTenant userId activeTenant.id with
  | none => throw (.http 404 s!"User {userId} not found within this tenant context.")
  | some dbUser =>
    tryCatch (UserService.update env dbUser (UserUpdate.status isActive)) fun _ =>
      throw (.http 500 "An unexpected error occurred while updating the user status.")

/-- A user without a role in the tenant is reported as removed. -/
def removeUserFromActiveTenant (env : Env) (now : Time) (h : Headers) (userId : UUID) :
    Db Unit := do
  let (_, activeTenant) ← Deps.requirePermissionInActiveTenant env now h .userDelete
  match ← UserService.getByIdAndTenant userId activeTenant.id with
  | none => pure ()
  | some _ =>
    tryCatch
      (do
        let _ ← UserService.delete userId activeTenant.id false
        pure ())
      fun _ => throw (.http 500
        "An unexpected error occurred while removing the user from the tenant.")

/-! ## Outcomes -/

section Outcomes

variable {env : Env} {now : Time} {h : Headers} {d : Database} {u : User} {t : Tenant}

theorem returns_updateCurrentUser {sent body : UserUpdate}
    (hu : Deps.currentUser env now h d = .ok u) (hw : sent.validate env = .ok body)
    (hb : body.Accepted env u.id (Deps.identifiedView env now h d)) :
    Returns (updateCurrentUser env now h sent) d (body.apply env u) ⟨_, hb.2.2⟩ :=
  ((Deps.yields_getCurrentUser env now h d).returns hu).bind ((returns_lift hw _).bind
    (UserService.returns_update (Deps.mem_of_identifiedView (Deps.mem_of_currentUser hu)) hb))

theorem fails_updateCurrentUser {sent : UserUpdate}
    (hb : ∀ u body, Deps.currentUser env now h d = .ok u → sent.validate env = .ok body →
      ¬body.Accepted env u.id (Deps.identifiedView env now h d)) :
    Fails (updateCurrentUser env now h sent) d := by
  have hy := Deps.yields_getCurrentUser env now h d
  cases hu : Deps.currentUser env now h d with
  | error e => exact ((hy.raises hu).bind _).fails
  | ok u =>
    cases hw : sent.validate env with
    | error e => exact (hy.returns hu).bind_fails ((fails_lift (by simp [hw]) _).bind _)
    | ok body =>
      exact (hy.returns hu).bind_fails
        ((returns_lift hw _).bind_fails (UserService.fails_update (hb u body hu hw)))

theorem returns_updateUserStatus {userId : UUID} {isActive : Bool} {x : User}
    (hp : Deps.permitted env now h .userUpdate d = .ok (u, t)) (hx : x ∈ d.users)
    (hid : x.id = userId) (hm : IsMember d.toTables userId t.id) :
    Returns (updateUserStatusInActiveTenant env now h userId isActive) d
      { x with isActive := isActive }
      ⟨_, (UserService.accepted_status x.id isActive :
        (UserUpdate.status isActive).Accepted env x.id (Deps.identifiedView env now h d)).2.2⟩ := by
  have hy := Deps.yields_requirePermissionInActiveTenant env now h d .userUpdate
  have hf : UserService.byIdAndTenant (Deps.identifiedView env now h d) userId t.id = some x :=
    UserService.byIdAndTenant_eq_some.mpr ⟨Deps.mem_of_identifiedView hx, hid,
      (Deps.isMember_identifiedView env now h d _ _).mpr hm⟩
  refine (hy.returns hp).bind ((returns_query _ _).bind ?_)
  rw [hf]
  exact (UserService.returns_update (Deps.mem_of_identifiedView hx)
    (UserService.accepted_status x.id isActive)).tryCatch _

theorem fails_updateUserStatus {userId : UUID} {isActive : Bool}
    (hp : ∀ u t, Deps.permitted env now h .userUpdate d = .ok (u, t) →
      ¬IsMember d.toTables userId t.id) :
    Fails (updateUserStatusInActiveTenant env now h userId isActive) d := by
  have hy := Deps.yields_requirePermissionInActiveTenant env now h d .userUpdate
  cases hu : Deps.permitted env now h .userUpdate d with
  | error e => exact ((hy.raises hu).bind _).fails
  | ok ut =>
    obtain ⟨u, t⟩ := ut
    have hf : UserService.byIdAndTenant (Deps.identifiedView env now h d) userId t.id = none :=
      UserService.byIdAndTenant_eq_none.mpr
        (mt (Deps.isMember_identifiedView env now h d _ _).mp (hp u t hu))
    refine (hy.returns hu).bind_fails ((returns_query _ _).bind_fails ?_)
    rw [hf]
    exact fails_throw _ _

theorem returns_removeUser (userId : UUID)
    (hp : Deps.permitted env now h .userDelete d = .ok (u, t)) :
    ∃ v, Returns (removeUserFromActiveTenant env now h userId) d () v := by
  have hy := Deps.yields_requirePermissionInActiveTenant env now h d .userDelete
  cases hf : UserService.byIdAndTenant (Deps.identifiedView env now h d) userId t.id with
  | none =>
    refine ⟨Deps.identifiedView env now h d, (hy.returns hp).bind ((returns_query _ _).bind ?_)⟩
    rw [hf]
    exact returns_pure () _
  | some x =>
    refine ⟨⟨_, (Deps.identifiedView env now h d).valid.dropAssignments fun x =>
      x.userId = userId ∧ x.tenantId = t.id⟩,
      (hy.returns hp).bind ((returns_query _ _).bind ?_)⟩
    rw [hf]
    exact ((UserService.returns_deleteAssignments _).bind (returns_pure () _)).tryCatch _

theorem fails_removeUser {userId : UUID} {e : Exc}
    (hp : Deps.permitted env now h .userDelete d = .error e) :
    Fails (removeUserFromActiveTenant env now h userId) d :=
  (((Deps.yields_requirePermissionInActiveTenant env now h d .userDelete).raises hp).bind _).fails

end Outcomes

end Endpoints
end VirtualStack
