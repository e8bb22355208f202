import VirtualStack.ReadThenWrite
import VirtualStack.RoleNames

/-!
# Custom roles that are created at the same time

`create_custom_role` looks the name up and then inserts the role; the table has no
constraint on the names. Here any number of requests create roles at the same time, each
in a session of its own: the lookup is one step, and the rest of the call another.
-/

namespace VirtualStack
open UnitOfWork Runs ReadThenWrite

/-- A call of `create_custom_role`, with the id of the new row. -/
structure RoleCreation where
  objIn : RoleCreate
  tenantId : UUID
  newId : UUID
  deriving DecidableEq, Repr

namespace RoleCreation

def row (c : RoleCreation) : Role := c.objIn.row c.newId c.tenantId

def load (d : Database) (c : RoleCreation) : Option Role :=
  d.roles.find? fun r => r.name = c.objIn.name ∧ r.tenantId = some c.tenantId

/-- `create_custom_role` with the role that it has looked up. -/
def rest (env : Env) (existing : Option Role) (c : RoleCreation) : Db Role := match existing with
  | some _ => throw .nameError
  | none => do
    add (·.change (Tables.addRole c.row))
    commit
    RoleService.completeCustomRole env c.objIn c.row

/-- The committed rows after the second step. -/
def finish (env : Env) (existing : Option Role) (d : Database) (c : RoleCreation) : Database :=
  (serve (c.rest env existing) d).2.committed

/-- The name and the tenant for which a request is about to insert a role. -/
def claim (c : RoleCreation) : Option Role → Option (String × UUID)
  | none => some (c.objIn.name, c.tenantId)
  | some _ => none

/-- How many roles of a tenant have a name. -/
def count (k : String × UUID) (d : Database) : ℕ := (RoleService.candidates d k.1 k.2).length

/-- The tenant is stored, the name fits and the id is new. -/
def Ready (c : RoleCreation) (d : Database) : Prop := (d.addRole c.row).Valid

instance (c : RoleCreation) (d : Database) : Decidable (c.Ready d) :=
  inferInstanceAs (Decidable (d.addRole c.row).Valid)

variable {env : Env} {d : Database} {c : RoleCreation}

theorem program_eq (env : Env) (c : RoleCreation) :
    RoleService.createCustomRole env c.objIn c.tenantId c.newId =
      query (fun d => c.load d) >>= fun existing => c.rest env existing := by
  refine congrArg (query _ >>= ·) (funext fun existing => ?_)
  cases existing with
  | none => rfl
  | some r => rfl

/-- The two steps of a request that nobody disturbs are the call of the service. -/
theorem solo_next {ι : Type} [DecidableEq ι] (env : Env) (requests : ι → RoleCreation) (i : ι)
    (d : Database) :
    (after (step (fun i (_ : Unit) d => (requests i).load d)
      (fun i _ existing d => (requests i).finish env existing d))
      (State.init d : State ι Database (Option Role)) [(i, ()), (i, ())]).store =
      (serve (RoleService.createCustomRole env (requests i).objIn (requests i).tenantId
        (requests i).newId) d).2.committed := by
  rw [solo rfl, program_eq, finish, committed_serve, committed_serve]
  rfl

/-! ## What the second step leaves -/

theorem finish_of_not_ready (h : ¬c.Ready d) : c.finish env none d = d := by
  rw [finish, committed_serve, rest, run_bind_ok (add_clean d d _),
    run_bind_error (commit_one_error d d (Database.change_eq_error h))]

/-- The role is stored, whatever becomes of its permissions. -/
theorem finish_of_ready (h : c.Ready d) : (c.finish env none d).roles = d.roles ++ [c.row] ∧
    (c.finish env none d).tenants = d.tenants := by
  have hkeep : Keeps (fun v : Database => v.roles = d.roles ++ [c.row] ∧ v.tenants = d.tenants)
      (RoleService.completeCustomRole env c.objIn c.row) := by
    refine RoleService.keeps_completeCustomRole_of (fun v v' xs hv' hv => ?_) _ _
    rw [hv']
    exact hv
  rw [finish, committed_serve, rest, run_bind_ok (add_clean d d _),
    run_bind_ok (commit_one_ok d d (Database.change_eq_ok h))]
  have hrole : (⟨d.addRole c.row, h⟩ : Database).roles = d.roles ++ [c.row] ∧
      (⟨d.addRole c.row, h⟩ : Database).tenants = d.tenants := ⟨rfl, rfl⟩
  exact (hkeep (.start ⟨_, h⟩) (Session.inv_clean hrole hrole)).committed

theorem count_concat {rows : List Role} {k : String × UUID} :
    ((rows ++ [c.row]).filter fun r => r.name = k.1 ∧ r.tenantId = some k.2).length =
      (rows.filter fun r => r.name = k.1 ∧ r.tenantId = some k.2).length +
        if c.claim none = some k then 1 else 0 := by
  have hrow : (c.row.name = k.1 ∧ c.row.tenantId = some k.2) ↔ c.claim none = some k := by
    obtain ⟨name, tenantId⟩ := k
    simp [row, RoleCreate.row, claim]
  rw [List.filter_append, List.length_append, List.filter_singleton]
  by_cases hk : c.claim none = some k
  · rw [if_pos hk, decide_eq_true (hrow.mpr hk)]
    rfl
  · rw [if_neg hk, decide_eq_false (fun h => hk (hrow.mp h))]
    rfl

theorem count_finish (k : String × UUID) (h : c.Ready d) :
    count k (c.finish env none d) = count k d + if c.claim none = some k then 1 else 0 := by
  rw [count, RoleService.candidates, (finish_of_ready h).1]
  exact count_concat

theorem counted {ι : Type} (env : Env) (requests : ι → RoleCreation)
    (hnew : Function.Injective fun i => (requests i).newId) :
    Counted (fun i (_ : Unit) d => (requests i).load d)
      (fun i _ existing d => (requests i).finish env existing d) (fun i => (requests i).claim)
      count (fun i => (requests i).Ready) where
  claims i _ d k hc := by
    cases hload : (requests i).load d with
    | some r =>
      rw [hload] at hc
      cases hc
    | none =>
      rw [hload] at hc
      obtain rfl := Option.some.inj hc
      rw [count, RoleService.candidates, List.length_eq_zero_iff, List.filter_eq_nil_iff]
      exact List.find?_eq_none.mp hload
  keeps i _ existing d k hc := by
    cases existing with
    | some r => rfl
    | none =>
      by_cases hr : (requests i).Ready d
      · rw [count_finish k hr, if_neg hc, Nat.add_zero]
      · rw [finish_of_not_ready hr]
  atMost i _ existing d k hc := by
    cases existing with
    | some r => cases hc
    | none =>
      by_cases hr : (requests i).Ready d
      · exact Nat.le_of_eq ((count_finish k hr).trans (by rw [if_pos hc]))
      · rw [finish_of_not_ready hr]
        exact Nat.le_succ _
  adds i _ existing d k hr hc := by
    cases existing with
    | some r => cases hc
    | none => rw [count_finish k hr, if_pos hc]
  keepsReady i j _ existing d hji hj := by
    cases existing with
    | some r => exact hj
    | none =>
      by_cases hr : (requests i).Ready d
      · obtain ⟨hroles, htenants⟩ : ((requests i).finish env none d).roles = d.roles ++
            [(requests i).row] ∧ ((requests i).finish env none d).tenants = d.tenants :=
          finish_of_ready hr
        obtain ⟨hid, hten, hname⟩ := (d.valid.addRole_iff _).mp hj
        refine (((requests i).finish env none d).valid.addRole_iff _).mpr ⟨?_, ?_, hname⟩
        · rw [hroles, List.map_append, List.mem_append, not_or]
          refine ⟨hid, fun hmem => hji ?_⟩
          exact hnew (List.mem_singleton.mp hmem)
        · rw [htenants]
          exact hten
      · rw [finish_of_not_ready hr]
        exact hj

/-! ## Schedules -/

/-- The requests take their steps in the order of the schedule. -/
def overlap {ι : Type} [DecidableEq ι] (env : Env) (requests : ι → RoleCreation) (d : Database)
    (schedule : List ι) : State ι Database (Option Role) :=
  after (step (fun i (_ : Unit) d => (requests i).load d)
    (fun i _ existing d => (requests i).finish env existing d)) (State.init d)
    (schedule.map (·, ()))

/-- No request looks up a name that another one has looked up for the same tenant, found to
be free and not inserted yet. -/
def Exclusively {ι : Type} [DecidableEq ι] (env : Env) (requests : ι → RoleCreation)
    (d : Database) (schedule : List ι) : Prop :=
  Along (step (fun i (_ : Unit) d => (requests i).load d)
    (fun i _ existing d => (requests i).finish env existing d))
    (Exclusive (fun i _ d => (requests i).load d) fun i => (requests i).claim) (State.init d)
    (schedule.map (·, ()))

theorem namesUnique_iff_count : NamesUnique d.roles ↔ ∀ k, count k d ≤ 1 := by
  constructor
  · exact fun h k => (Database.unambiguousRoles_iff.mpr h).candidates k.1 k.2
  · intro h r hr r' hr' hten hten' hname
    obtain ⟨tenantId, ht⟩ := Option.ne_none_iff_exists'.mp hten
    have hmem : r ∈ RoleService.candidates d r.name tenantId :=
      List.mem_filter.mpr ⟨hr, decide_eq_true ⟨rfl, ht⟩⟩
    have hmem' : r' ∈ RoleService.candidates d r.name tenantId :=
      List.mem_filter.mpr ⟨hr', decide_eq_true ⟨hname, hten'.trans ht⟩⟩
    have hlen : (RoleService.candidates d r.name tenantId).length ≤ 1 := h (r.name, tenantId)
    obtain ⟨x, hx⟩ := List.length_eq_one_iff.mp
      (Nat.le_antisymm hlen (List.length_pos_of_mem hmem))
    rw [hx, List.mem_singleton] at hmem hmem'
    rw [hmem, hmem']

/-- When requests that could each store their role have ended, the names of the roles of
every tenant are distinct exactly when the schedule was exclusive. -/
theorem namesUnique_iff_exclusively {ι : Type} [DecidableEq ι] (env : Env)
    (requests : ι → RoleCreation) (d : Database) (hd : NamesUnique d.roles)
    (hnew : Function.Injective fun i => (requests i).newId) (hready : ∀ i, (requests i).Ready d)
    (schedule : List ι)
    (hdone : ∀ i existing, (overlap env requests d schedule).phase i ≠ .loaded existing) :
    NamesUnique (overlap env requests d schedule).store.roles ↔
      Exclusively env requests d schedule := by
  rw [namesUnique_iff_count]
  exact one_iff_exclusive (counted env requests hnew) hready (namesUnique_iff_count.mp hd)
    (List.pairwise_of_forall fun _ _ => le_rfl) (fun _ _ => le_rfl) (fun _ _ => le_rfl)
    (le_refl ()) hdone

/-- Two requests to create a role of the first tenant. -/
def twoRoles (first second : String) : Bool → RoleCreation
  | false => ⟨⟨first, none, none⟩, 1, 3⟩
  | true => ⟨⟨second, none, none⟩, 1, 4⟩

theorem namesUnique_iff_exclusively_sample :
    NamesUnique (overlap Env.sample (twoRoles "Auditor" "Auditor") .sample
        [false, true, false, true]).store.roles ↔
      Exclusively Env.sample (twoRoles "Auditor" "Auditor") .sample [false, true, false, true] := by
  have hphase : ∀ i, (overlap Env.sample (twoRoles "Auditor" "Auditor") .sample
      [false, true, false, true]).phase i = .done := by decide
  refine namesUnique_iff_exclusively Env.sample _ _ (by decide) ?_ (by decide) _ ?_
  · intro i j hij
    cases i <;> cases j <;> first | rfl | cases hij
  · intro i existing h
    rw [hphase i] at h
    cases h

end RoleCreation
end VirtualStack
