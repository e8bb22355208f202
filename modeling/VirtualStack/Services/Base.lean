import VirtualStack.Environment

/-!
# `services/base.py`

The generic operations, over the rows of one table and their ids. None of them
commits; the docstrings leave that to the caller.
-/

namespace VirtualStack.CRUDBase
open UnitOfWork

variable {α : Type} (rows : Database → List α) (key : α → UUID)

def get (recordId : UUID) : Db (Option α) :=
  query fun d => (rows d).find? (key · = recordId)

def getMulti (skip limit : ℕ) : Db (List α) := query fun d => ((rows d).drop skip).take limit

/-- `db.refresh`: read the row of an object again. -/
def refresh (recordId : UUID) : Db α := do
  match ← get rows key recordId with
  | some x => pure x
  | none => throw .invalidRequestError

/-- `insert` is the `INSERT` of the new object, `recordId` its id. -/
def create (insert : Database → Except Exc Database) (recordId : UUID) : Db α := do
  add insert
  flush
  refresh rows key recordId

/-- `update` is the `UPDATE` of the columns that were set on the object. -/
def update (update : Database → Except Exc Database) (recordId : UUID) : Db α := do
  add update
  flush
  refresh rows key recordId

def delete (drop : Database → Except Exc Database) (recordId : UUID) : Db (Option α) := do
  match ← get rows key recordId with
  | none => pure none
  | some x => do
    add drop
    flush
    pure (some x)

/-! ## Outcomes -/

section Outcomes

variable (d : Database) (recordId : UUID)

theorem returns_get : Returns (get rows key recordId) d ((rows d).find? (key · = recordId)) d :=
  returns_query _ d

theorem returns_refresh {x : α} (h : (rows d).find? (key · = recordId) = some x) :
    Returns (refresh rows key recordId) d x d := by
  refine (returns_get rows key d recordId).bind ?_
  rw [h]
  exact returns_pure x d

/-- A write that is flushed at once and read back. -/
theorem returns_update {w : Database → Except Exc Database} {d' : Database} {x : α}
    (hw : w d = .ok d') (hx : (rows d').find? (key · = recordId) = some x) :
    Returns (update rows key w recordId) d x d' := by
  intro c
  rw [update, run_bind_ok (add_clean c d w), run_bind_ok (flush_one_ok c d hw)]
  exact returns_refresh rows key d' recordId hx c

theorem raises_update {w : Database → Except Exc Database} {e : Exc} (hw : w d = .error e) :
    Raises (update rows key w recordId) d e := by
  intro c
  rw [update, run_bind_ok (add_clean c d w), run_bind_error (flush_one_error c d hw)]
  exact ⟨_, rfl, rfl⟩

theorem returns_delete_some {w : Database → Except Exc Database} {d' : Database} {x : α}
    (h : (rows d).find? (key · = recordId) = some x) (hw : w d = .ok d') :
    Returns (delete rows key w recordId) d (some x) d' := by
  refine (returns_get rows key d recordId).bind ?_
  rw [h]
  intro c
  dsimp only
  rw [run_bind_ok (add_clean c d w), run_bind_ok (flush_one_ok c d hw), run_pure]

end Outcomes

end VirtualStack.CRUDBase
