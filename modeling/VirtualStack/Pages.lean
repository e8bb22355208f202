import Mathlib.Data.List.Nodup
import Mathlib.Data.List.Sort

/-!
# Pages of a list

`OFFSET skip LIMIT limit` over arbitrary rows: the pages of a list, the order in
which filtering and paging are done, and sorting by a unique column.
-/

namespace Pages

variable {α κ : Type} {skip limit n : ℕ} {xs : List α}

/-- `OFFSET skip LIMIT limit`. -/
def slice (skip limit : ℕ) (xs : List α) : List α := (xs.drop skip).take limit

theorem length_slice : (slice skip limit xs).length = min limit (xs.length - skip) := by
  rw [slice, List.length_take, List.length_drop]

theorem slice_eq_nil_iff : slice skip limit xs = [] ↔ limit = 0 ∨ xs.length ≤ skip := by
  rw [← List.length_eq_zero_iff, length_slice]
  omega

/-- The rows before a slice, the slice, and the rows after it. -/
theorem take_append_slice_append_drop (skip limit : ℕ) (xs : List α) :
    xs.take skip ++ (slice skip limit xs ++ xs.drop (skip + limit)) = xs := by
  rw [slice, ← List.drop_drop, List.take_append_drop, List.take_append_drop]

/-- Page `k` of a list, counted from 1. -/
def page (limit k : ℕ) (xs : List α) : List α := slice ((k - 1) * limit) limit xs

/-- The first pages are the first rows. -/
theorem flatMap_page (limit n : ℕ) (xs : List α) :
    ((List.range n).flatMap fun i => page limit (i + 1) xs) = xs.take (n * limit) := by
  induction n with
  | zero => rw [List.range_zero, List.flatMap_nil, Nat.zero_mul, List.take_zero]
  | succ n ih =>
    have hlast : page limit (n + 1) xs = (xs.drop (n * limit)).take limit := rfl
    rw [List.range_succ, List.flatMap_append, ih, List.flatMap_singleton, hlast, ← List.take_add,
      Nat.succ_mul]

/-- Pages `1` to `n` make up the whole, and the pages after them are empty. -/
structure Paged (limit : ℕ) (whole : List α) (pages : ℕ → List α) (n : ℕ) : Prop where
  nonempty : ∀ k, 1 ≤ k → k ≤ n → pages k ≠ []
  empty : ∀ k, n < k → pages k = []
  full : ∀ k, 1 ≤ k → k < n → (pages k).length = limit
  concat : ((List.range n).flatMap fun i => pages (i + 1)) = whole

/-- There are as many pages as the rows fill, the last one perhaps in part. -/
theorem paged_page (hl : 0 < limit) (xs : List α) :
    ∃ n, Paged limit xs (fun k => page limit k xs) n := by
  have hlt : ∀ j, j < (xs.length + limit - 1) / limit ↔ j * limit < xs.length := by
    intro j
    rw [Nat.lt_iff_add_one_le, Nat.le_div_iff_mul_le hl, Nat.succ_mul]
    omega
  have hempty : ∀ j, page limit (j + 1) xs = [] ↔ xs.length ≤ j * limit := by
    intro j
    rw [page, slice_eq_nil_iff, Nat.add_sub_cancel]
    omega
  refine ⟨(xs.length + limit - 1) / limit, ?_, ?_, ?_, ?_⟩
  · rintro (- | j) hj hn
    · omega
    · have := (hlt j).mp hn
      rw [ne_eq, hempty]
      omega
  · rintro (- | j) hn
    · exact absurd hn (Nat.not_lt_zero _)
    · exact (hempty j).mpr (Nat.not_lt.mp fun h => absurd ((hlt j).mpr h) (by omega))
  · rintro (- | j) hj hn
    · omega
    · have hnext := (hlt (j + 1)).mp hn
      rw [Nat.succ_mul] at hnext
      rw [page, length_slice, Nat.add_sub_cancel]
      omega
  · rw [flatMap_page]
    refine List.take_of_length_le (Nat.not_lt.mp fun h => ?_)
    exact lt_irrefl _ ((hlt _).mpr h)

/-! ## A prefix instead of the whole -/

theorem slice_take : slice skip limit (xs.take n) = (xs.drop skip).take (min limit (n - skip)) := by
  rw [slice, List.drop_take, List.take_take]

/-- Cutting the rows at `n` first loses nothing when the slice ends before `n` or
there is nothing behind it. -/
theorem slice_take_eq_iff : slice skip limit (xs.take n) = slice skip limit xs ↔
    min (skip + limit) xs.length ≤ n ∨ limit = 0 ∨ xs.length ≤ skip := by
  rw [slice_take, slice, List.take_eq_take_iff, List.length_drop]
  omega

/-! ## Filtering before and after -/

variable {p : α → Bool}

theorem filter_take : (xs.take n).filter p = (xs.filter p).take ((xs.take n).countP p) := by
  conv_rhs => rw [← List.take_append_drop n xs, List.filter_append]
  rw [List.take_append_drop, List.countP_eq_length_filter, List.take_left' rfl]

/-- The filter keeps whole runs: nothing of the slice and nothing that belongs there,
or all that stands before the slice and either the slice itself or nothing after. -/
def Aligned (p : α → Bool) (skip limit : ℕ) (xs : List α) : Prop :=
  ((∀ x ∈ slice skip limit xs, ¬p x) ∧ (limit = 0 ∨ xs.countP p ≤ skip)) ∨
  ((∀ x ∈ xs.take skip, p x) ∧
    ((∀ x ∈ slice skip limit xs, p x) ∨ ∀ x ∈ xs.drop (skip + limit), ¬p x))

instance (p : α → Bool) (skip limit : ℕ) (xs : List α) : Decidable (Aligned p skip limit xs) := by
  unfold Aligned
  infer_instance

theorem take_append_eq_left {bs cs : List α} (hb : bs.length ≤ limit) :
    (bs ++ cs).take limit = bs ↔ bs.length = limit ∨ cs = [] := by
  have hzero : limit - bs.length = 0 ↔ bs.length = limit := by omega
  rw [List.take_append, List.take_of_length_le hb, List.append_right_eq_self,
    List.take_eq_nil_iff, hzero]

/-- A slice of distinct rows that begins at one of them has exactly `skip` rows
before it. -/
theorem length_of_slice_append {as bs cs : List α} (hn : (as ++ (bs ++ cs)).Nodup)
    (hb : bs ≠ []) (h : slice skip limit (as ++ (bs ++ cs)) = bs) : as.length = skip := by
  obtain ⟨b, bs, rfl⟩ := List.exists_cons_of_ne_nil hb
  have hfirst : (as ++ (b :: bs ++ cs))[as.length]? = some b := by simp
  have hslice : (as ++ (b :: bs ++ cs))[skip]? = some b := by
    have hhead := congrArg List.head? h
    rw [slice, List.head?_take] at hhead
    split_ifs at hhead
    · cases hhead
    · rw [List.head?_drop] at hhead
      exact hhead
  have hlt : as.length < (as ++ (b :: bs ++ cs)).length := by simp
  exact (List.getElem?_inj hlt hn).mp (hfirst.trans hslice.symm)

/-- Paging first and filtering then gives the page of the filtered rows exactly
when the filter is aligned with the page. -/
theorem filter_slice_eq_iff (hn : xs.Nodup) :
    (slice skip limit xs).filter p = slice skip limit (xs.filter p) ↔
      Aligned p skip limit xs := by
  have hsplit := congrArg (List.filter p) (take_append_slice_append_drop skip limit xs)
  rw [List.filter_append, List.filter_append] at hsplit
  have hcount : xs.countP p = ((xs.take skip).filter p).length +
      (((slice skip limit xs).filter p).length + ((xs.drop (skip + limit)).filter p).length) := by
    rw [List.countP_eq_length_filter, ← hsplit, List.length_append, List.length_append]
  have hbefore : ((xs.take skip).filter p).length ≤ skip :=
    (List.length_filter_le _ _).trans (List.length_take_le _ _)
  have hlen : ((slice skip limit xs).filter p).length ≤ limit := by
    refine (List.length_filter_le _ _).trans ?_
    rw [length_slice]
    exact min_le_left _ _
  by_cases hnone : ∀ x ∈ slice skip limit xs, ¬p x
  · -- nothing on the page: the page of the filtered rows has to be empty as well
    have hnil := List.filter_eq_nil_iff.mpr hnone
    rw [hnil, eq_comm, slice_eq_nil_iff, ← List.countP_eq_length_filter]
    constructor
    · exact fun h => .inl ⟨hnone, h⟩
    · rintro (⟨-, h⟩ | ⟨-, hall | hafter⟩)
      · exact h
      · have hempty : slice skip limit xs = [] :=
          List.eq_nil_iff_forall_not_mem.mpr fun x hx => hnone x hx (hall x hx)
        have hle := List.countP_le_length (p := p) (l := xs)
        rw [slice_eq_nil_iff] at hempty
        omega
      · rw [hnil, List.filter_eq_nil_iff.mpr hafter] at hcount
        right
        simp only [List.length_nil] at hcount
        omega
  · have hB : (slice skip limit xs).filter p ≠ [] := by
      rwa [ne_eq, List.filter_eq_nil_iff]
    have hne : ¬(limit = 0 ∨ xs.length ≤ skip) := by
      rw [← slice_eq_nil_iff]
      rintro h
      rw [h] at hB
      exact hB rfl
    have hskip : (xs.take skip).length = skip := by
      rw [List.length_take]
      omega
    have hfull : ((xs.take skip).filter p).length = skip ↔ ∀ x ∈ xs.take skip, p x := by
      rw [← List.length_filter_eq_length_iff, hskip]
    have hpage : (slice skip limit xs).filter p = slice skip limit (xs.filter p) ↔
        ((xs.take skip).filter p).length = skip ∧
          (((slice skip limit xs).filter p).length = limit ∨
            (xs.drop (skip + limit)).filter p = []) := by
      rw [← take_append_eq_left hlen, eq_comm, ← hsplit]
      constructor
      · intro h
        have hat := length_of_slice_append (by rw [hsplit]; exact hn.filter p) hB h
        rw [slice, List.drop_left' hat] at h
        exact ⟨hat, h⟩
      · rintro ⟨hat, h⟩
        rw [slice, List.drop_left' hat]
        exact h
    rw [hpage, hfull, List.filter_eq_nil_iff]
    constructor
    · rintro ⟨hall, hor⟩
      refine .inr ⟨hall, hor.imp_left fun h => ?_⟩
      have hle : (slice skip limit xs).length ≤ limit := by
        rw [length_slice]
        exact min_le_left _ _
      exact List.length_filter_eq_length_iff.mp
        (le_antisymm (List.length_filter_le _ _) (hle.trans h.ge))
    · rintro (⟨hno, -⟩ | ⟨hall, hor⟩)
      · exact absurd hno hnone
      · refine ⟨hall, hor.elim (fun hpass => ?_) .inr⟩
        have hsize := List.length_filter_eq_length_iff.mpr hpass
        rw [length_slice] at hsize
        by_cases hend : xs.length ≤ skip + limit
        · right
          rw [List.drop_eq_nil_of_le hend]
          simp
        · left
          omega

/-! ## Rows ordered by a unique column -/

variable {key : α → κ} {r : κ → κ → Prop} {rows rows' : List α}

/-- The rows stand in the order of a column that has no value twice. -/
def StrictlyBy (r : κ → κ → Prop) (key : α → κ) (rows : List α) : Prop :=
  rows.Pairwise fun x y => r (key x) (key y) ∧ key x ≠ key y

theorem pairwise_mergeSort_key [DecidableRel r] [IsTrans κ r] [Std.Total r] (rows : List α) :
    (rows.mergeSort fun x y => r (key x) (key y)).Pairwise fun x y => r (key x) (key y) := by
  have h : (rows.mergeSort fun x y => r (key x) (key y)).Pairwise
      fun x y => decide (r (key x) (key y)) = true := by
    refine List.pairwise_mergeSort (fun x y z hxy hyz => ?_) (fun x y => ?_) rows
    · simp only [decide_eq_true_eq] at hxy hyz ⊢
      exact trans_of r hxy hyz
    · simpa using total_of r (key x) (key y)
  simpa using h

theorem strictlyBy_mergeSort [DecidableRel r] [IsTrans κ r] [Std.Total r]
    (hn : (rows.map key).Nodup) :
    StrictlyBy r key (rows.mergeSort fun x y => r (key x) (key y)) := by
  have hperm := (List.mergeSort_perm rows fun x y => decide (r (key x) (key y))).map key
  exact (pairwise_mergeSort_key rows).and (List.pairwise_map.mp (hperm.nodup_iff.mpr hn))

theorem StrictlyBy.nodup (h : StrictlyBy r key rows) : rows.Nodup :=
  h.imp fun hxy he => hxy.2 (congrArg key he)

/-- Only one list has these rows in this order. -/
theorem StrictlyBy.eq_of_mem_iff [Std.Antisymm r] (h : StrictlyBy r key rows)
    (h' : StrictlyBy r key rows') (hmem : ∀ x, x ∈ rows ↔ x ∈ rows') : rows = rows' := by
  have hperm := (List.perm_ext_iff_of_nodup h.nodup h'.nodup).mpr hmem
  refine hperm.eq_of_pairwise (fun x y _ _ hxy hyx => ?_) h h'
  exact absurd (antisymm_of r hxy.1 hyx.1) hxy.2

end Pages
