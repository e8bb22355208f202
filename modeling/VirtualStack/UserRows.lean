import VirtualStack.Footprints

/-!
# Who writes the users

Two endpoints write a row of `users`, and none makes or removes one: accepting
an invitation would, and does not get that far.
-/

namespace VirtualStack
open UnitOfWork

namespace ApiRequest

/-- `PUT /me` by the user. -/
def UpdatesOwnRow (env : Env) (h : Headers) (r : ApiRequest) (d : Database) (id : UUID) : Prop :=
  ∃ now body u, r = .personal now (.updateMe body) ∧ Deps.currentUser env now h d = .ok u ∧
    u.id = id

/-- `PATCH` of the user's status by a caller who is permitted to, in a tenant of the
user. -/
def UpdatesStatus (env : Env) (h : Headers) (r : ApiRequest) (d : Database) (id : UUID) : Prop :=
  ∃ now isActive u t, r = .personal now (.updateUserStatus id isActive) ∧
    Deps.permitted env now h .userUpdate d = .ok (u, t) ∧ IsMember d.toTables id t.id

end ApiRequest

namespace Database

/-- The columns that no request writes, for all users in row order. -/
def profiles (d : Database) : List (UUID × Option String × Bool) :=
  d.users.map fun u => (u.id, u.fullName, u.isSuperuser)

def credentials (d : Database) (id : UUID) : Option (String × String) :=
  (d.users.find? (·.id = id)).map fun u => (u.email, u.hashedPassword)

def activity (d : Database) (id : UUID) : Option Bool :=
  (d.users.find? (·.id = id)).map (·.isActive)

end Database

namespace ApiRequest

section Request

variable {closing : Ending} {env : Env} {security : Security} {h : Headers} {r : ApiRequest}
  {d v v' : Database}

theorem Step.users (hstep : Step env h d r v v') : v'.users = v.users ∨
    (∃ id body, UpdatesOwnRow env h r d id ∧
      v'.users = Rows.modify (·.id) id (UserUpdate.apply env body) v.users) ∨
    ∃ id isActive, UpdatesStatus env h r d id ∧
      v'.users = Rows.modify (·.id) id ((UserUpdate.status isActive).apply env) v.users := by
  obtain ⟨e, hs, hv'⟩ := hstep
  rw [hv']
  cases hs with
  | updateMe hcaller => exact .inr (.inl ⟨_, _, ⟨_, _, _, rfl, hcaller, rfl⟩, rfl⟩)
  | updateStatus hcaller hmember =>
    exact .inr (.inr ⟨_, _, ⟨_, _, _, _, rfl, hcaller, hmember⟩, rfl⟩)
  | _ => exact .inl rfl

/-- A column of the row of `id` after the update of another row, or of other columns. -/
theorem map_find?_apply {β : Type} {g : User → β} {body : UserUpdate} {id id' : UUID}
    {rows : List User} (hg : id = id' → ∀ u, g (body.apply env u) = g u) :
    ((Rows.modify (·.id) id' (body.apply env) rows).find? (·.id = id)).map g =
      (rows.find? (·.id = id)).map g := by
  rw [Rows.find?_modify (f := body.apply env) fun _ => rfl, Option.map_map]
  congr 1
  funext u
  simp only [Function.comp_apply]
  split_ifs with h
  · exact hg h u
  · rfl

theorem profiles_apply (body : UserUpdate) (id : UUID) (rows : List User) :
    (Rows.modify (·.id) id (body.apply env) rows).map (fun u => (u.id, u.fullName, u.isSuperuser)) =
      rows.map fun u => (u.id, u.fullName, u.isSuperuser) :=
  Rows.map_modify _ _ (f := body.apply env) (fun _ => rfl) rows

/-- What one request does to a user. -/
structure WritesUsers (env : Env) (h : Headers) (r : ApiRequest) (d v : Database) : Prop where
  profiles : v.profiles = d.profiles
  credentials : ∀ id, v.credentials id = d.credentials id ∨ UpdatesOwnRow env h r d id
  activity : ∀ id, v.activity id = d.activity id ∨ UpdatesOwnRow env h r d id ∨
    UpdatesStatus env h r d id

theorem WritesUsers.closes : Closes env h d r (WritesUsers env h r d) := by
  intro v v' hv hstep
  obtain hu | ⟨id', body, hown, hu⟩ | ⟨id', isActive, hstatus, hu⟩ := hstep.users
  · constructor
    · rw [Database.profiles, hu]
      exact hv.profiles
    · intro id
      rw [Database.credentials, hu]
      exact hv.credentials id
    · intro id
      rw [Database.activity, hu]
      exact hv.activity id
  · constructor
    · rw [Database.profiles, hu, profiles_apply]
      exact hv.profiles
    · intro id
      by_cases hid : id = id'
      · exact .inr (hid ▸ hown)
      · rw [Database.credentials, hu, map_find?_apply fun he => absurd he hid]
        exact hv.credentials id
    · intro id
      by_cases hid : id = id'
      · exact .inr (.inl (hid ▸ hown))
      · rw [Database.activity, hu, map_find?_apply fun he => absurd he hid]
        exact hv.activity id
  · constructor
    · rw [Database.profiles, hu, profiles_apply]
      exact hv.profiles
    · intro id
      rw [Database.credentials, hu, map_find?_apply fun _ _ => rfl]
      exact hv.credentials id
    · intro id
      by_cases hid : id = id'
      · exact .inr (.inr (hid ▸ hstatus))
      · rw [Database.activity, hu, map_find?_apply fun he => absurd he hid]
        exact hv.activity id

theorem writesUsers_outcome (closing : Ending) (env : Env) (security : Security) (h : Headers)
    (r : ApiRequest) (d : Database) :
    WritesUsers env h r d (outcome closing env security (h, r) d) :=
  WritesUsers.closes.outcome ⟨rfl, fun _ => .inl rfl, fun _ => .inl rfl⟩ closing security

end Request

theorem profiles_after (closing : Ending) (env : Env) (security : Security) (d : Database)
    (calls : List (Headers × ApiRequest)) :
    (Runs.after (outcome closing env security) d calls).profiles = d.profiles :=
  Runs.after_invariant (I := fun v : Database => v.profiles = d.profiles)
    (fun call v hv => (writesUsers_outcome closing env security call.1 call.2 v).profiles.trans hv)
    rfl calls

/-- Over every run the users stay the same, with their names and superuser flags. An
email or a password changes through the user's own update only, and `is_active`
through that or through somebody permitted to in a tenant of the user. -/
theorem users_after (closing : Ending) (env : Env) (security : Security) (d : Database)
    (calls : List (Headers × ApiRequest)) (id : UUID) :
    (Runs.after (outcome closing env security) d calls).profiles = d.profiles ∧
    ((Runs.after (outcome closing env security) d calls).credentials id ≠ d.credentials id →
      ∃ pre h r post, calls = pre ++ (h, r) :: post ∧
        UpdatesOwnRow env h r (Runs.after (outcome closing env security) d pre) id) ∧
    ((Runs.after (outcome closing env security) d calls).activity id ≠ d.activity id →
      ∃ pre h r post, calls = pre ++ (h, r) :: post ∧
        (UpdatesOwnRow env h r (Runs.after (outcome closing env security) d pre) id ∨
          UpdatesStatus env h r (Runs.after (outcome closing env security) d pre) id)) := by
  refine ⟨profiles_after closing env security d calls, fun hne => ?_, fun hne => ?_⟩
  · obtain ⟨pre, ⟨h, r⟩, post, rfl, hchange⟩ :=
      Runs.exists_change (f := fun v : Database => v.credentials id) hne
    have hw := writesUsers_outcome closing env security h r
      (Runs.after (outcome closing env security) d pre)
    exact ⟨pre, h, r, post, rfl, (hw.credentials id).resolve_left hchange⟩
  · obtain ⟨pre, ⟨h, r⟩, post, rfl, hchange⟩ :=
      Runs.exists_change (f := fun v : Database => v.activity id) hne
    have hw := writesUsers_outcome closing env security h r
      (Runs.after (outcome closing env security) d pre)
    exact ⟨pre, h, r, post, rfl, (hw.activity id).resolve_left hchange⟩

end ApiRequest
end VirtualStack
