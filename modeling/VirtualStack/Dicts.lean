import VirtualStack.Rows

/-!
# Dictionaries

A dictionary as its entries in the order of insertion, with distinct keys, and the
loop that collects the values of each key from the rows of a query.
-/

namespace Dicts

structure Dict (κ ν : Type) where
  entries : List (κ × ν)
  nodup : (entries.map Prod.fst).Nodup

namespace Dict

variable {κ ν : Type}

def empty : Dict κ ν := ⟨[], List.nodup_nil⟩

instance : Membership κ (Dict κ ν) := ⟨fun d k => k ∈ d.entries.map Prod.fst⟩

theorem mem_def {d : Dict κ ν} {k : κ} : k ∈ d ↔ k ∈ d.entries.map Prod.fst := Iff.rfl

variable [DecidableEq κ]

instance (d : Dict κ ν) (k : κ) : Decidable (k ∈ d) :=
  inferInstanceAs (Decidable (k ∈ d.entries.map Prod.fst))

def get? (d : Dict κ ν) (k : κ) : Option ν := (d.entries.find? (·.1 = k)).map Prod.snd

/-- `d.get(k, default)`. -/
def getD (d : Dict κ ν) (k : κ) (default : ν) : ν := (d.get? k).getD default

/-- `d[k] = v` for a key that `d` does not have. -/
def insertNew (d : Dict κ ν) (k : κ) (v : ν) (h : k ∉ d) : Dict κ ν where
  entries := d.entries ++ [(k, v)]
  nodup := (Rows.nodup_map_concat d.nodup).mpr h

/-- The value at `k` is changed in place. -/
def modify (d : Dict κ ν) (k : κ) (f : ν → ν) : Dict κ ν where
  entries := Rows.modify Prod.fst k (fun e => (e.1, f e.2)) d.entries
  nodup := Rows.nodup_map_modify Prod.fst k (f := fun e => (e.1, f e.2)) (fun _ => rfl) d.nodup

variable {d : Dict κ ν} {k k' : κ} {v default : ν}

@[simp] theorem getD_empty : (empty : Dict κ ν).getD k default = default := rfl

theorem get?_eq_none : d.get? k = none ↔ k ∉ d := by
  rw [get?, Option.map_eq_none_iff, List.find?_eq_none, mem_def, List.mem_map, not_exists]
  simp only [decide_eq_true_eq, not_and]

theorem get?_insertNew (h : k ∉ d) :
    (d.insertNew k v h).get? k' = if k = k' then some v else d.get? k' := by
  rw [get?, insertNew, List.find?_append]
  by_cases hk : k = k'
  · subst hk
    have hn : d.entries.find? (·.1 = k) = none := Option.map_eq_none_iff.mp (get?_eq_none.mpr h)
    simp [hn]
  · simp [hk, get?]

theorem get?_modify (f : ν → ν) :
    (d.modify k f).get? k' = if k = k' then (d.get? k').map f else d.get? k' := by
  have hf : (Rows.modify Prod.fst k (fun e => (e.1, f e.2)) d.entries).find? (·.1 = k') =
      (d.entries.find? (·.1 = k')).map fun e => if k' = k then (e.1, f e.2) else e :=
    Rows.find?_modify (f := fun e : κ × ν => (e.1, f e.2)) (fun _ => rfl) d.entries k'
  rw [get?, get?, modify, hf]
  cases d.entries.find? (·.1 = k') with
  | none => simp
  | some e =>
    by_cases hk : k = k'
    · simp [hk]
    · simp [hk, Ne.symm hk]

/-- A new key with the default value is read as before. -/
theorem getD_insertNew_default (h : k ∉ d) :
    (d.insertNew k default h).getD k' default = d.getD k' default := by
  rw [getD, get?_insertNew h, getD]
  split_ifs with hk
  · subst hk
    rw [get?_eq_none.mpr h]
    rfl
  · rfl

omit [DecidableEq κ] in
theorem mem_insertNew (h : k ∉ d) : k ∈ d.insertNew k v h := by
  simp [mem_def, insertNew]

end Dict

/-! ## Collecting the values of each key -/

section Collect

variable {κ ν : Type} [DecidableEq κ] {d : Dict κ (List ν)} {row : κ × ν} {k : κ}

/-- `if key not in d: d[key] = []`. -/
def withKey (d : Dict κ (List ν)) (key : κ) : Dict κ (List ν) :=
  if h : key ∈ d then d else d.insertNew key [] h

/-- The body of the loop, with `d[key].append(value)` after the check. -/
def collect (d : Dict κ (List ν)) (row : κ × ν) : Dict κ (List ν) :=
  (withKey d row.1).modify row.1 (· ++ [row.2])

/-- The list that is appended to exists. -/
theorem mem_withKey : k ∈ withKey d k := by
  rw [withKey]
  split_ifs with h
  · exact h
  · exact Dict.mem_insertNew h

theorem getD_withKey (key : κ) : (withKey d key).getD k [] = d.getD k [] := by
  rw [withKey]
  split_ifs with h
  · rfl
  · exact Dict.getD_insertNew_default h

/-- One row adds its value to the list of its own key. -/
theorem getD_collect : (collect d row).getD k [] =
    d.getD k [] ++ if row.1 = k then [row.2] else [] := by
  rw [collect, Dict.getD, Dict.get?_modify]
  split_ifs with hk
  · subst hk
    have hm : (withKey d row.1).get? row.1 ≠ none := fun h =>
      Dict.get?_eq_none.mp h mem_withKey
    obtain ⟨vs, hvs⟩ := Option.ne_none_iff_exists'.mp hm
    have hd : d.getD row.1 [] = vs := by
      rw [← getD_withKey row.1, Dict.getD, hvs, Option.getD_some]
    rw [hvs, Option.map_some, Option.getD_some, hd]
  · rw [← Dict.getD, getD_withKey, List.append_nil]

/-- The lists after the loop, on top of those before it. -/
theorem getD_foldl_collect (rows : List (κ × ν)) (d : Dict κ (List ν)) (k : κ) :
    (rows.foldl collect d).getD k [] =
      d.getD k [] ++ (rows.filter (·.1 = k)).map Prod.snd := by
  induction rows generalizing d with
  | nil => simp
  | cons row rows ih =>
    rw [List.foldl_cons, ih, getD_collect, List.append_assoc, List.filter_cons]
    congr 1
    by_cases hk : row.1 = k <;> simp [hk]

/-- The loop over all rows, from the empty dictionary. -/
theorem getD_collected (rows : List (κ × ν)) (k : κ) :
    (rows.foldl collect .empty).getD k [] = (rows.filter (·.1 = k)).map Prod.snd := by
  rw [getD_foldl_collect, Dict.getD_empty, List.nil_append]

/-- Rows in another order give the same values of each key, in another order. -/
theorem perm_getD_collected {rows rows' : List (κ × ν)} (h : rows.Perm rows') (k : κ) :
    ((rows.foldl collect .empty).getD k []).Perm ((rows'.foldl collect .empty).getD k []) := by
  rw [getD_collected, getD_collected]
  exact (h.filter _).map _

end Collect

/-- The order in which a server sends the rows of a query that asks for none. -/
structure RowOrder (α : Type) where
  arrange : List α → List α
  perm : ∀ rows, (arrange rows).Perm rows

/-- The order of the stored rows. -/
def RowOrder.stored {α : Type} : RowOrder α := ⟨id, .refl⟩

end Dicts
