import VirtualStack.UserCreation
import VirtualStack.UserPages

/-!
# What the user response shows of a stored user

The request schemas and the response schema have a first and a last name; the table has
one full name. A user is created and updated any number of times, and the response is
read off the object that each operation returns.
-/

namespace VirtualStack
open UnitOfWork

/-- The schema `User` of the responses, without its timestamps. -/
structure UserResponse where
  id : UUID
  email : Option String
  firstName : Option String
  lastName : Option String
  isActive : Option Bool
  isSuperuser : Bool
  deriving DecidableEq, Repr

/-- A text field read by its name from the object, or its default. -/
def User.getattr (x : User) (name : String) (default : Option String) : Option String :=
  match User.column name with
  | .ok column => column x
  | .error _ => default

/-- `model_validate` with `from_attributes`. -/
def UserResponse.modelValidate (x : User) : UserResponse :=
  { id := x.id
    email := x.getattr "email" none
    firstName := x.getattr "first_name" none
    lastName := x.getattr "last_name" none
    isActive := some x.isActive
    isSuperuser := x.isSuperuser }

/-- The fields that the schemas share, as a caller last supplied them. -/
structure Profile where
  email : String
  firstName : String
  lastName : String
  isActive : Bool
  deriving DecidableEq, Repr

def UserCreate.profile (body : UserCreate) : Profile :=
  ⟨body.email, body.firstName, body.lastName, body.isActive⟩

/-- The supplied fields replace the earlier ones. -/
def UserUpdate.overwrite (body : UserUpdate) (p : Profile) : Profile :=
  { email := (body.email.getD none).getD p.email
    firstName := (body.firstName.getD none).getD p.firstName
    lastName := (body.lastName.getD none).getD p.lastName
    isActive := (body.isActive.getD none).getD p.isActive }

/-- What was supplied last, field by field. -/
def lastSupplied (body : UserCreate) (updates : List UserUpdate) : Profile :=
  updates.foldl (fun p update => update.overwrite p) body.profile

/-- No field is set to `null`. -/
def UserUpdate.NonNull (body : UserUpdate) : Prop :=
  body.email ≠ some none ∧ body.firstName ≠ some none ∧ body.lastName ≠ some none ∧
    body.password ≠ some none ∧ body.isActive ≠ some none

/-- The response shows the profile. -/
structure UserResponse.Shows (r : UserResponse) (p : Profile) : Prop where
  email : r.email = some p.email
  firstName : r.firstName = some p.firstName
  lastName : r.lastName = some p.lastName
  isActive : r.isActive = some p.isActive

namespace UserService

/-- `u` is the user that the service returned after a creation and these updates. Between
two operations the store may change in every other respect. -/
inductive Saved (env : Env) (body : UserCreate) : List UserUpdate → User → Prop
  | created {tenantId newId autocommit s s' u} :
      (create env body tenantId newId autocommit).run s = (.ok u, s') → Saved env body [] u
  | updated {updates u d d' u'} {fields : UserUpdate} : Saved env body updates u →
      u ∈ d.users → fields.NonNull → Returns (update env u fields) d u' d' →
        Saved env body (updates ++ [fields]) u'

section Run

variable {env : Env} {body : UserCreate} {updates : List UserUpdate} {u : User}

theorem eq_row_of_create {tenantId newId : UUID} {autocommit : Bool}
    {s s' : Session Database Exc}
    (h : (create env body tenantId newId autocommit).run s = (.ok u, s')) :
    u = body.row env newId := by
  by_cases hsent : ∃ v v', UserSent env body newId s v v'
  · obtain ⟨v, v', hsent⟩ := hsent
    cases hr : defaultRole v tenantId with
    | none => cases h.symm.trans (run_create_without_role autocommit hsent hr)
    | some r =>
      obtain ⟨w, -, hrun⟩ := run_create_with_role autocommit hsent hr
      cases h.symm.trans hrun
      rfl
  · obtain ⟨e, he⟩ := run_create_refused tenantId autocommit hsent
    cases h.symm.trans he

theorem eq_apply_of_update {d d' : Database} {u' : User} {fields : UserUpdate} (hu : u ∈ d.users)
    (h : Returns (update env u fields) d u' d') : u' = fields.apply env u := by
  by_cases ha : fields.Accepted env u.id d
  · exact (h.unique (returns_update hu ha)).1
  · exact absurd h (fails_update ha).not_returns

/-- One update writes the email and the flag that it supplies, and no name. -/
theorem apply_columns (fields : UserUpdate) {p : Profile} (he : u.email = p.email)
    (ha : u.isActive = p.isActive) :
    (fields.apply env u).email = (fields.overwrite p).email ∧
      (fields.apply env u).isActive = (fields.overwrite p).isActive := by
  obtain ⟨email, -, -, -, isActive⟩ := fields
  constructor
  · rcases email with _ | _ | _ <;> simp [UserUpdate.apply, UserUpdate.overwrite, he]
  · rcases isActive with _ | _ | _ <;> simp [UserUpdate.apply, UserUpdate.overwrite, ha]

/-- Through every run the row keeps the email and the flag that were supplied last. -/
theorem Saved.columns (h : Saved env body updates u) :
    u.email = (lastSupplied body updates).email ∧
      u.isActive = (lastSupplied body updates).isActive := by
  induction h with
  | created h =>
    rw [eq_row_of_create h]
    exact ⟨rfl, rfl⟩
  | updated _ hu _ hreturns ih =>
    rw [eq_apply_of_update hu hreturns, lastSupplied, List.foldl_append]
    exact apply_columns _ ih.1 ih.2

/-- The response to it shows these two, and neither name. -/
theorem Saved.response (h : Saved env body updates u) :
    UserResponse.modelValidate u = ⟨u.id, some (lastSupplied body updates).email, none, none,
      some (lastSupplied body updates).isActive, u.isSuperuser⟩ := by
  obtain ⟨he, ha⟩ := h.columns
  rw [← he, ← ha]
  rfl

/-- No response shows the names that were supplied. -/
theorem response_never_shows (h : Saved env body updates u) :
    ¬(UserResponse.modelValidate u).Shows (lastSupplied body updates) := by
  intro hs
  have hname := hs.firstName
  rw [h.response] at hname
  cases hname

end Run

/-- Carol is created in the first tenant, which has the default role. -/
theorem saved_carol : Saved Env.sample carol [] (carol.row Env.sample 3) := by
  have hr : defaultRole Database.sample 1 =
      some ⟨1, "Default User Role", none, some 1, false⟩ := by decide
  obtain ⟨w, -, hrun⟩ := run_create_with_role false carol_sent hr
  exact .created hrun

/-- The update of the test suite: a new last name. -/
def renamed : UserUpdate := ⟨none, none, some (some "User-Updated"), none, none⟩

theorem saved_renamed_carol :
    Saved Env.sample carol [renamed] (renamed.apply Env.sample (carol.row Env.sample 3)) := by
  have hrenamed : (Tables.modifyUser 3 (renamed.apply Env.sample)
      (Tables.addUser (carol.row Env.sample 3) Database.sample.toTables)).Valid := by decide
  exact .updated saved_carol carol_sent.mem (by simp [UserUpdate.NonNull, renamed])
    (returns_update carol_sent.mem ⟨by decide, by decide, hrenamed⟩)

theorem response_never_shows_sample : ¬(UserResponse.modelValidate
    (renamed.apply Env.sample (carol.row Env.sample 3))).Shows (lastSupplied carol [renamed]) :=
  response_never_shows saved_renamed_carol

/-- The response to the update has no last name. -/
theorem renamed_carol_without_name :
    Saved Env.sample carol [renamed] (renamed.apply Env.sample (carol.row Env.sample 3)) ∧
    (UserResponse.modelValidate (renamed.apply Env.sample (carol.row Env.sample 3))).lastName =
      none ∧
    (lastSupplied carol [renamed]).lastName = "User-Updated" ∧
    ¬(UserResponse.modelValidate (renamed.apply Env.sample (carol.row Env.sample 3))).Shows
      (lastSupplied carol [renamed]) := by
  have hname : (UserResponse.modelValidate
      (renamed.apply Env.sample (carol.row Env.sample 3))).lastName = none := by
    rw [saved_renamed_carol.response]
  refine ⟨saved_renamed_carol, hname, rfl, fun hs => ?_⟩
  cases hname.symm.trans hs.lastName

end UserService
end VirtualStack
