import Mathlib.Data.List.Basic
import Mathlib.Data.List.Nodup
import Mathlib.Data.List.Perm.Subperm

/-!
# Tables as lists of rows

Updates by key and inserts that skip rows already there, over arbitrary row
types.
-/

namespace Rows

variable {α κ β : Type} [DecidableEq κ]

/-- `UPDATE ... WHERE key = k`. -/
def modify (key : α → κ) (k : κ) (f : α → α) (rows : List α) : List α :=
  rows.map fun x => if key x = k then f x else x

/-- A column that the update does not name keeps its values. -/
theorem map_modify (key : α → κ) (k : κ) {f : α → α} {g : α → β} (h : ∀ x, g (f x) = g x)
    (rows : List α) : (modify key k f rows).map g = rows.map g := by
  rw [modify, List.map_map]
  refine List.map_congr_left fun x _ => ?_
  by_cases hx : key x = k <;> simp [hx, h]

theorem nodup_map_modify (key : α → κ) (k : κ) {f : α → α} {g : α → β} (h : ∀ x, g (f x) = g x)
    {rows : List α} (hn : (rows.map g).Nodup) : ((modify key k f rows).map g).Nodup := by
  rw [map_modify key k h]
  exact hn

theorem mem_modify {key : α → κ} {k : κ} {f : α → α} {rows : List α} {y : α} :
    y ∈ modify key k f rows ↔ ∃ x ∈ rows, y = if key x = k then f x else x := by
  simp only [modify, List.mem_map, eq_comm]

/-- A property of rows that the update keeps. -/
theorem forall_modify {key : α → κ} {k : κ} {f : α → α} {rows : List α} {p : α → Prop}
    (hp : ∀ x ∈ rows, p x) (hf : ∀ x ∈ rows, key x = k → p x → p (f x)) :
    ∀ y ∈ modify key k f rows, p y := by
  intro y hy
  obtain ⟨x, hx, rfl⟩ := mem_modify.mp hy
  split_ifs with h
  · exact hf x hx h (hp x hx)
  · exact hp x hx

/-- Rows that are left out before and after do not matter. -/
theorem filter_modify {key : α → κ} {k : κ} {f : α → α} {p : α → Bool} {rows : List α}
    (h : ∀ x ∈ rows, key x = k → p x = false ∧ p (f x) = false) :
    (modify key k f rows).filter p = rows.filter p := by
  induction rows with
  | nil => rfl
  | cons x rows ih =>
    have hrest := ih fun y hy => h y (List.mem_cons_of_mem x hy)
    rw [modify] at hrest ⊢
    rw [List.map_cons]
    by_cases hk : key x = k
    · obtain ⟨hx, hfx⟩ := h x List.mem_cons_self hk
      rw [if_pos hk, List.filter_cons_of_neg (by simp [hfx]),
        List.filter_cons_of_neg (by simp [hx]), hrest]
    · rw [if_neg hk, List.filter_cons, List.filter_cons, hrest]

theorem of_forall_modify {key : α → κ} {k : κ} {f : α → α} {rows : List α} {p : α → Prop}
    (hp : ∀ y ∈ modify key k f rows, p y) (hf : ∀ x, p (f x) → p x) : ∀ x ∈ rows, p x := by
  intro x hx
  have hy := hp _ (mem_modify.mpr ⟨x, hx, rfl⟩)
  split_ifs at hy
  · exact hf x hy
  · exact hy

/-- Row by key after an update that keeps the keys. -/
theorem find?_modify {key : α → κ} {k : κ} {f : α → α} (hf : ∀ x, key (f x) = key x)
    (rows : List α) (j : κ) :
    (modify key k f rows).find? (key · = j) =
      (rows.find? (key · = j)).map fun x => if j = k then f x else x := by
  induction rows with
  | nil => rfl
  | cons x rows ih =>
    have hk : key (if key x = k then f x else x) = key x := by split_ifs <;> simp [hf]
    simp only [modify, List.map_cons, List.find?_cons, hk] at ih ⊢
    by_cases hx : key x = j
    · simp [hx]
    · simpa [hx] using ih

theorem find?_modify_self {key : α → κ} {k : κ} {f : α → α} (hf : ∀ x, key (f x) = key x)
    (rows : List α) : (modify key k f rows).find? (key · = k) =
      (rows.find? (key · = k)).map f := by
  rw [find?_modify hf]
  simp

theorem eq_of_modify_eq {key : α → κ} {k : κ} {f : α → α} {rows : List α}
    (h : modify key k f rows = rows) {x : α} (hx : x ∈ rows) (hk : key x = k) : f x = x := by
  have hm : rows.map (fun x => if key x = k then f x else x) = rows.map id := by
    simpa [modify] using h
  have := List.map_inj_left.mp hm x hx
  simpa [hk] using this

theorem modify_congr {key : α → κ} {k : κ} {f g : α → α} {rows : List α}
    (h : ∀ x ∈ rows, key x = k → f x = g x) : modify key k f rows = modify key k g rows := by
  refine List.map_congr_left fun x hx => ?_
  split_ifs with hk
  · exact h x hx hk
  · rfl

theorem modify_eq_self {key : α → κ} {k : κ} {f : α → α} {rows : List α}
    (h : ∀ x ∈ rows, key x = k → f x = x) : modify key k f rows = rows := by
  rw [modify]
  conv_rhs => rw [← List.map_id rows]
  refine List.map_congr_left fun x hx => ?_
  split_ifs with hk
  · exact h x hx hk
  · rfl

omit [DecidableEq κ] in
/-- Two rows with the same key are the same row. -/
theorem eq_of_key_eq {key : α → κ} {rows : List α} (h : (rows.map key).Nodup) {x y : α}
    (hx : x ∈ rows) (hy : y ∈ rows) (hk : key x = key y) : x = y :=
  List.inj_on_of_nodup_map h hx hy hk

theorem find?_key_eq_some {key : α → κ} {rows : List α} (h : (rows.map key).Nodup) {x : α} {k : κ} :
    rows.find? (key · = k) = some x ↔ x ∈ rows ∧ key x = k := by
  constructor
  · intro hf
    exact ⟨List.mem_of_find?_eq_some hf, by simpa using List.find?_some hf⟩
  · rintro ⟨hx, hk⟩
    obtain ⟨y, hy⟩ : ∃ y, rows.find? (key · = k) = some y := by
      rw [← Option.isSome_iff_exists, List.find?_isSome]
      exact ⟨x, hx, by simpa using hk⟩
    have hyk : key y = k := by simpa using List.find?_some hy
    rw [hy, eq_of_key_eq h hx (List.mem_of_find?_eq_some hy) (hk.trans hyk.symm)]

/-- Replacing a row changes nothing only when it is replaced by itself. -/
theorem modify_const_eq_self {key : α → κ} {rows : List α} (h : (rows.map key).Nodup) {x y : α}
    (hx : x ∈ rows) : modify key (key x) (fun _ => y) rows = rows ↔ y = x := by
  constructor
  · intro he
    exact eq_of_modify_eq he hx rfl
  · rintro rfl
    exact modify_eq_self fun z hz hk => eq_of_key_eq h hx hz hk.symm

omit [DecidableEq κ] in
/-- Two unique columns of the same rows have the same values as soon as one has all
the values of the other. -/
theorem mem_column_iff {f g : α → κ} {rows : List α} (hf : (rows.map f).Nodup)
    (hsub : rows.map f ⊆ rows.map g) {k : κ} : k ∈ rows.map f ↔ k ∈ rows.map g := by
  have hsubperm := List.Nodup.subperm hf hsub
  have hperm := List.Subperm.perm_of_length_le hsubperm (by simp)
  exact hperm.mem_iff

omit [DecidableEq κ] in
theorem length_le_one_iff {rows : List α} (h : rows.Nodup) :
    rows.length ≤ 1 ↔ ∀ x ∈ rows, ∀ y ∈ rows, x = y := by
  match rows with
  | [] => simp
  | [x] => simp
  | x :: y :: rows =>
    refine iff_of_false (by simp) fun hall => ?_
    obtain rfl := hall x (by simp) y (by simp)
    simp at h

omit [DecidableEq κ] in
/-- A row that is added keeps a column unique when its value is new. -/
theorem nodup_map_concat {g : α → κ} {rows : List α} {x : α} (h : (rows.map g).Nodup) :
    ((rows ++ [x]).map g).Nodup ↔ g x ∉ rows.map g := by
  rw [List.map_append, List.map_singleton, List.nodup_append]
  constructor
  · rintro ⟨-, -, hd⟩ hm
    exact hd _ hm _ (List.mem_singleton.mpr rfl) rfl
  · intro hm
    refine ⟨h, List.nodup_singleton _, fun a ha b hb hab => hm ?_⟩
    rw [← List.mem_singleton.mp hb, ← hab]
    exact ha

omit [DecidableEq κ] in
theorem mem_map_append {g : α → κ} {rows new : List α} {k : κ} (h : k ∈ rows.map g) :
    k ∈ (rows ++ new).map g := by
  rw [List.map_append]
  exact List.mem_append_left _ h

omit [DecidableEq κ] in
theorem notMem_map_concat {g : α → κ} {rows : List α} {x : α} {k : κ} (h : k ∉ rows.map g)
    (hx : k ≠ g x) : k ∉ (rows ++ [x]).map g := by
  rw [List.map_append, List.mem_append, List.map_singleton, List.mem_singleton]
  exact not_or.mpr ⟨h, hx⟩

omit [DecidableEq κ] in
/-- What a reference cannot point to, no row refers to. -/
theorem notMem_map {f : α → κ} {rows : List α} {ids : List κ} {k : κ}
    (h : ∀ x ∈ rows, f x ∈ ids) (hk : k ∉ ids) : k ∉ rows.map f := by
  intro hm
  obtain ⟨x, hx, rfl⟩ := List.mem_map.mp hm
  exact hk (h x hx)

/-- A delete by a key that no row has. -/
theorem filter_key_ne {key : α → κ} {k : κ} {rows : List α} (h : k ∉ rows.map key) :
    rows.filter (key · ≠ k) = rows := by
  refine List.filter_eq_self.mpr fun x hx => decide_eq_true ?_
  rintro rfl
  exact h (List.mem_map_of_mem hx)

/-- A delete by the key of the row just added, which is the only row that has it. -/
theorem filter_key_ne_concat {key : α → κ} {x : α} {rows : List α} (h : key x ∉ rows.map key) :
    (rows ++ [x]).filter (key · ≠ key x) = rows := by
  have hx : [x].filter (key · ≠ key x) = [] := by simp
  rw [List.filter_append, filter_key_ne h, hx, List.append_nil]

/-- `INSERT ... ON CONFLICT DO NOTHING`, the whole row being the key. -/
def insertNew [DecidableEq α] (rows new : List α) : List α :=
  new.foldl (fun acc x => if x ∈ acc then acc else acc ++ [x]) rows

theorem mem_insertNew [DecidableEq α] {new : List α} : ∀ {rows : List α} {x : α},
    x ∈ insertNew rows new ↔ x ∈ rows ∨ x ∈ new := by
  induction new with
  | nil => simp [insertNew]
  | cons y new ih =>
    intro rows x
    rw [insertNew, List.foldl_cons]
    change x ∈ insertNew _ new ↔ _
    rw [ih]
    split_ifs with hy
    · constructor
      · rintro (h | h) <;> simp [h]
      · rintro (h | h)
        · exact .inl h
        · rcases List.mem_cons.mp h with rfl | h
          · exact .inl hy
          · exact .inr h
    · simp [or_assoc]

/-- Rows that are left out in any case do not matter. -/
theorem filter_insertNew [DecidableEq α] {p : α → Bool} {new : List α}
    (h : ∀ x ∈ new, p x = false) :
    ∀ rows : List α, (insertNew rows new).filter p = rows.filter p := by
  induction new with
  | nil => exact fun _ => rfl
  | cons y new ih =>
    intro rows
    rw [insertNew, List.foldl_cons]
    change (insertNew _ new).filter p = _
    rw [ih fun x hx => h x (List.mem_cons_of_mem y hx)]
    split_ifs
    · rfl
    · rw [List.filter_append, List.filter_cons_of_neg (by simp [h y List.mem_cons_self]),
        List.filter_nil, List.append_nil]

theorem nodup_insertNew [DecidableEq α] {new : List α} : ∀ {rows : List α}, rows.Nodup →
    (insertNew rows new).Nodup := by
  induction new with
  | nil => exact fun h => h
  | cons y new ih =>
    intro rows h
    rw [insertNew, List.foldl_cons]
    refine ih ?_
    split_ifs with hy
    · exact h
    · exact List.nodup_append.mpr ⟨h, List.nodup_singleton y, by
        intro a ha b hb hab
        rw [List.mem_singleton] at hb
        exact hy (hb ▸ hab ▸ ha)⟩

end Rows
