import Mathlib.Data.List.Dedup
import Mathlib.Data.List.Nodup
import VirtualStack.Rows

/-!
# Queries over two tables

The inner and the outer join of two tables as a list of pairs of rows, `SELECT
DISTINCT`, counting by a key, and reading a result of at most one row.
-/

namespace Joins

variable {α β γ ε : Type}

/-- `xs JOIN ys ON on`: the pairs that meet the condition. -/
def join (on : α → β → Bool) (xs : List α) (ys : List β) : List (α × β) :=
  xs.flatMap fun x => (ys.filter (on x)).map (x, ·)

theorem mem_join {on : α → β → Bool} {xs : List α} {ys : List β} {p : α × β} :
    p ∈ join on xs ys ↔ p.1 ∈ xs ∧ p.2 ∈ ys ∧ on p.1 p.2 := by
  simp only [join, List.mem_flatMap, List.mem_map, List.mem_filter]
  constructor
  · rintro ⟨x, hx, y, hy, rfl⟩
    exact ⟨hx, hy⟩
  · rintro ⟨hx, hy⟩
    exact ⟨p.1, hx, p.2, hy, rfl⟩

/-- Tables without repeated rows have a join without repeated rows. -/
theorem nodup_join (on : α → β → Bool) {xs : List α} {ys : List β} (hx : xs.Nodup)
    (hy : ys.Nodup) : (join on xs ys).Nodup := by
  rw [join, List.nodup_flatMap]
  constructor
  · intro x _
    exact (hy.filter _).map fun y z hyz => (Prod.mk.inj hyz).2
  · refine hx.imp fun {x z} hne p hp hp' => hne ?_
    obtain ⟨_, _, rfl⟩ := List.mem_map.mp hp
    obtain ⟨_, _, h⟩ := List.mem_map.mp hp'
    exact (congrArg Prod.fst h).symm

/-- The join with a table that has at most one row for each row of the first. -/
theorem join_eq_filterMap {on : α → β → Bool} {xs : List α} {ys : List β}
    (h : ∀ x ∈ xs, (ys.filter (on x)).length ≤ 1) :
    join on xs ys = xs.filterMap fun x => (ys.find? (on x)).map (x, ·) := by
  have hrow : ∀ x ∈ xs, (ys.filter (on x)).map (x, ·) =
      ((ys.find? (on x)).map (x, ·)).toList := by
    intro x hx
    have hone := h x hx
    rw [← List.head?_filter]
    cases hf : ys.filter (on x) with
    | nil => rfl
    | cons y zs =>
      rw [hf, List.length_cons] at hone
      obtain rfl := List.length_eq_zero_iff.mp (Nat.le_zero.mp (Nat.le_of_succ_le_succ hone))
      rfl
  rw [join, List.flatMap_congr hrow, List.filterMap_eq_flatMap_toList]

/-- `xs LEFT OUTER JOIN ys ON on`: a row without a match is kept, with nothing beside
it. -/
def leftJoin (on : α → β → Bool) (xs : List α) (ys : List β) : List (α × Option β) :=
  xs.flatMap fun x => match ys.filter (on x) with
    | [] => [(x, none)]
    | y :: zs => (y :: zs).map fun z => (x, some z)

/-- A table whose rows match at most one row each is kept row for row. -/
theorem leftJoin_eq_map {on : α → β → Bool} {xs : List α} {ys : List β}
    (h : ∀ x ∈ xs, (ys.filter (on x)).length ≤ 1) :
    leftJoin on xs ys = xs.map fun x => (x, ys.find? (on x)) := by
  have hrow : ∀ x ∈ xs, (match ys.filter (on x) with
      | [] => [(x, none)]
      | y :: zs => (y :: zs).map fun z => (x, some z)) = [(x, ys.find? (on x))] := by
    intro x hx
    have hone := h x hx
    rw [← List.head?_filter]
    cases hf : ys.filter (on x) with
    | nil => rfl
    | cons y zs =>
      rw [hf, List.length_cons] at hone
      obtain rfl := List.length_eq_zero_iff.mp (Nat.le_zero.mp (Nat.le_of_succ_le_succ hone))
      rfl
  rw [leftJoin, List.flatMap_congr hrow, List.map_eq_flatMap]

/-- `SELECT DISTINCT`. -/
def distinct [DecidableEq α] (rows : List α) : List α := rows.dedup

theorem mem_distinct [DecidableEq α] {rows : List α} {x : α} : x ∈ distinct rows ↔ x ∈ rows :=
  List.mem_dedup

theorem nodup_distinct [DecidableEq α] (rows : List α) : (distinct rows).Nodup :=
  List.nodup_dedup rows

/-! ## Counting by a key -/

section Counting

variable {κ : Type} [DecidableEq κ] {key : α → κ} {rows : List α} {k : κ}

/-- `SELECT key, count(*) GROUP BY key`. -/
def countBy (key : α → κ) (rows : List α) : List (κ × ℕ) :=
  (distinct (rows.map key)).map fun k => (k, rows.countP (key · = k))

theorem nodup_countBy (key : α → κ) (rows : List α) : ((countBy key rows).map Prod.fst).Nodup := by
  rw [countBy, List.map_map]
  exact (nodup_distinct _).map fun _ _ h => h

/-- The count beside a key, and nothing beside a key that no row has. -/
theorem find?_map_pair (g : κ → β) (ks : List κ) :
    (ks.map fun k => (k, g k)).find? (·.1 = k) = if k ∈ ks then some (k, g k) else none := by
  induction ks with
  | nil => rfl
  | cons k' ks ih =>
    rw [List.map_cons, List.find?_cons]
    by_cases hk : k' = k
    · subst hk
      simp
    · simp [hk, Ne.symm hk, ih]

/-- `COALESCE(count, 0)` counts the rows of every key. -/
theorem coalesce_countBy : (((countBy key rows).find? (·.1 = k)).map Prod.snd).getD 0 =
    rows.countP (key · = k) := by
  rw [countBy, find?_map_pair]
  split_ifs with hk
  · rfl
  · refine (List.countP_eq_zero.mpr fun x hx he => hk ?_).symm
    exact mem_distinct.mpr (List.mem_map.mpr ⟨x, hx, of_decide_eq_true he⟩)

/-- An outer join with the counts has one row for each row of the first table. -/
theorem leftJoin_countBy (f : β → κ) (key : α → κ) (xs : List β) (rows : List α) :
    leftJoin (fun x c => c.1 = f x) xs (countBy key rows) =
      xs.map fun x => (x, (countBy key rows).find? (·.1 = f x)) := by
  have hn := nodup_countBy key rows
  refine leftJoin_eq_map fun x _ => ?_
  rw [Rows.length_le_one_iff ((List.Nodup.of_map _ hn).filter _)]
  intro c hc c' hc'
  obtain ⟨hc, he⟩ := List.mem_filter.mp hc
  obtain ⟨hc', he'⟩ := List.mem_filter.mp hc'
  exact Rows.eq_of_key_eq hn hc hc' ((of_decide_eq_true he).trans (of_decide_eq_true he').symm)

end Counting

/-- The value of a result of at most one row; more rows are an error. -/
def scalarOneOrNone (multiple : ε) : List α → Except ε (Option α)
  | [] => .ok none
  | [x] => .ok (some x)
  | _ :: _ :: _ => .error multiple

/-- A result whose rows are all the same value is read without an error once it
is made distinct. -/
theorem scalarOneOrNone_distinct [DecidableEq α] {multiple : ε} {rows : List α} {x : α}
    (h : ∀ y ∈ rows, y = x) :
    scalarOneOrNone multiple (distinct rows) = .ok (if x ∈ rows then some x else none) := by
  have hx : ∀ y ∈ distinct rows, y = x := fun y hy => h y (mem_distinct.mp hy)
  have hn := nodup_distinct rows
  have hiff : x ∈ rows ↔ x ∈ distinct rows := mem_distinct.symm
  simp only [hiff]
  generalize distinct rows = ys at hx hn ⊢
  match ys with
  | [] => rfl
  | [y] =>
    obtain rfl := hx y (List.mem_singleton.mpr rfl)
    simp [scalarOneOrNone]
  | y :: z :: ys =>
    refine absurd ((hx y (by simp)).trans (hx z (by simp)).symm) ?_
    rintro rfl
    simp at hn

end Joins
