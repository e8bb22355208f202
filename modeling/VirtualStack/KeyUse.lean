import VirtualStack.Services.APIKey
import VirtualStack.TwoRuns

/-!
# When a key was last used

`validate_api_key` writes `last_used_at`, and only the answers that show a key read
it. So two stores that differ in this column only are alike to every request.
`Alike` collects what the comparison of two runs needs to know about the relation
of the stores; equality up to the column is the first example.
-/

namespace VirtualStack
open UnitOfWork

def APIKey.forgetUse (x : APIKey) : APIKey := { x with lastUsedAt := none }

namespace Tables

def forgetUse (t : Tables) : Tables := { t with apiKeys := t.apiKeys.map APIKey.forgetUse }

theorem widths_forgetUse {t : Tables} : t.forgetUse.Widths ↔ t.Widths := by
  simp only [widths_iff, forgetUse, List.forall_mem_map]
  rfl

/-- No constraint looks at the column. -/
theorem valid_forgetUse {t : Tables} : t.forgetUse.Valid ↔ t.Valid := by
  rw [valid_iff, valid_iff, widths_forgetUse]
  simp only [keys_iff, references_iff, forgetUse, List.map_map, List.forall_mem_map]
  rfl

/-- What is done to the keys one by one, if it does not depend on the column. -/
theorem forgetUse_modifyAPIKey {t t' : Tables} (h : t.forgetUse = t'.forgetUse) (id : UUID)
    {f : APIKey → APIKey} (hid : ∀ x, (f x).forgetUse = f x.forgetUse) :
    (t.modifyAPIKey id f).forgetUse = (t'.modifyAPIKey id f).forgetUse := by
  have hcomm : ∀ t : Tables, (t.modifyAPIKey id f).forgetUse = t.forgetUse.modifyAPIKey id f := by
    intro t
    simp only [forgetUse, modifyAPIKey, Rows.modify, List.map_map]
    congr 1
    refine List.map_congr_left fun x _ => ?_
    change (if x.id = id then f x else x).forgetUse = if x.id = id then f x.forgetUse else _
    split_ifs
    · exact hid x
    · rfl
  rw [hcomm, hcomm, h]

/-- A key that was used differs from what it was in the column only. -/
theorem forgetUse_touch (t : Tables) (id : UUID) (now : Time) :
    (t.modifyAPIKey id (APIKey.touch now)).forgetUse = t.forgetUse := by
  have hmap : (Rows.modify (·.id) id (APIKey.touch now) t.apiKeys).map APIKey.forgetUse =
      t.apiKeys.map APIKey.forgetUse :=
    Rows.map_modify (·.id) id (f := APIKey.touch now) (fun _ => rfl) t.apiKeys
  rw [forgetUse, forgetUse, ← hmap]
  rfl

end Tables

namespace Database

def forgetUse (d : Database) : Database :=
  ⟨d.toTables.forgetUse, Tables.valid_forgetUse.mpr d.valid⟩

theorem forgetUse_eq_iff {d d' : Database} :
    d.forgetUse = d'.forgetUse ↔ d.toTables.forgetUse = d'.toTables.forgetUse :=
  ⟨congrArg Database.toTables, fun h => ext_tables (d := d.forgetUse) h⟩

/-- A statement that does not depend on the column. -/
theorem change_forgetUse {f : Tables → Tables} {d d' : Database}
    (h : (f d.toTables).forgetUse = (f d'.toTables).forgetUse) :
    SameOutcome (fun v v' : Database => v.forgetUse = v'.forgetUse) (d.change f) (d'.change f) := by
  have hvalid : (f d.toTables).Valid ↔ (f d'.toTables).Valid := by
    rw [← Tables.valid_forgetUse, h, Tables.valid_forgetUse]
  by_cases hv : (f d.toTables).Valid
  · rw [change_eq_ok hv, change_eq_ok (hvalid.mp hv)]
    exact .ok (forgetUse_eq_iff.mpr h)
  · have hviolation : (f d.toTables).violation = (f d'.toTables).violation := by
      have hwidths : (f d.toTables).Widths ↔ (f d'.toTables).Widths := by
        rw [← Tables.widths_forgetUse, h, Tables.widths_forgetUse]
      simp only [Tables.violation, hwidths]
    rw [change_eq_error hv, change_eq_error (mt hvalid.mpr hv), hviolation]
    exact .error _

end Database

/-! ## Stores that the operations do not tell apart -/

/-- A relation that every operation keeps which writes no user. Related stores
differ at most in the column. -/
structure Alike (env : Env) (E : Database → Database → Prop) : Prop where
  forgetUse : ∀ v v', E v v' → v.forgetUse = v'.forgetUse
  roleLookup : ∀ v v', E v v' → env.getRoleByIdAndTenant v = env.getRoleByIdAndTenant v'
  change : ∀ f : Tables → Tables, (∀ t, (f t).users = t.users) →
    (∀ t t', t.forgetUse = t'.forgetUse → (f t).forgetUse = (f t').forgetUse) →
    RelatedWrites E (Database.change f) (Database.change f)

/-- The role lookup that the repository does not define takes no notice of the
column. -/
def Env.IgnoresUse (env : Env) : Prop :=
  ∀ d, env.getRoleByIdAndTenant d = env.getRoleByIdAndTenant d.forgetUse

theorem Env.IgnoresUse.alike {env : Env} (henv : env.IgnoresUse) :
    Alike env fun v v' => v.forgetUse = v'.forgetUse where
  forgetUse _ _ h := h
  roleLookup v v' h := by rw [henv v, henv v', h]
  change _ _ hf v v' h :=
    Database.change_forgetUse (hf v.toTables v'.toTables (Database.forgetUse_eq_iff.mp h))

section Alike

variable {env : Env} {E : Database → Database → Prop} {α : Type}

theorem Alike.writes (hE : Alike env E) {f : Tables → Tables} (hu : ∀ t, (f t).users = t.users)
    (hf : ∀ t, (f t).forgetUse = f t.forgetUse) :
    RelatedWrites E (Database.change f) (Database.change f) :=
  hE.change f hu fun t t' h => by rw [hf, hf, h]

theorem Alike.respects_add (hE : Alike env E) {f : Tables → Tables}
    (hu : ∀ t, (f t).users = t.users) (hf : ∀ t, (f t).forgetUse = f t.forgetUse) :
    Respects E (add (Database.change f) : Db Unit) := related_add (hE.writes hu hf)

theorem Alike.respects_execute (hE : Alike env E) {f : Tables → Tables}
    (hu : ∀ t, (f t).users = t.users) (hf : ∀ t, (f t).forgetUse = f t.forgetUse) :
    Respects E (execute (Database.change f) : Db Unit) := related_execute (hE.writes hu hf)

/-- A query that does not look at the column. -/
theorem Alike.respects_query (hE : Alike env E) {f : Database → α}
    (hf : ∀ v : Database, f v = f v.forgetUse) : Respects E (query f : Db α) :=
  related_query fun v v' h => by rw [hf v, hf v', hE.forgetUse v v' h]

end Alike

end VirtualStack
