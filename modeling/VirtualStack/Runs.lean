import Mathlib.Data.List.Basic
import Mathlib.Order.Basic

/-!
# Runs of a state machine

Invariants of the states that a list of steps goes through, over arbitrary
states and steps. `Along` restricts a run by a condition on each step and the
state it is taken in; `Along.clock` and `after_clock` are for invariants that get
easier with time.
-/

namespace Runs

variable {σ ι τ : Type} {step : ι → σ → σ}

/-- The state after a list of steps. -/
def after (step : ι → σ → σ) (s : σ) (steps : List ι) : σ := steps.foldl (fun s i => step i s) s

@[simp] theorem after_nil (s : σ) : after step s [] = s := rfl

@[simp] theorem after_cons (s : σ) (i : ι) (steps : List ι) :
    after step s (i :: steps) = after step (step i s) steps := rfl

theorem after_append (s : σ) (xs ys : List ι) :
    after step s (xs ++ ys) = after step (after step s xs) ys := List.foldl_append

/-- Every step meets `P` in the state in which it is taken. -/
def Along (step : ι → σ → σ) (P : ι → σ → Prop) : σ → List ι → Prop
  | _, [] => True
  | s, i :: steps => P i s ∧ Along step P (step i s) steps

variable {P : ι → σ → Prop} {s : σ}

theorem along_append {xs ys : List ι} : Along step P s (xs ++ ys) ↔
    Along step P s xs ∧ Along step P (after step s xs) ys := by
  induction xs generalizing s with
  | nil => simp [Along]
  | cons i xs ih => simp only [List.cons_append, Along, ih, after_cons, and_assoc]

theorem along_iff {steps : List ι} : Along step P s steps ↔
    ∀ pre i post, steps = pre ++ i :: post → P i (after step s pre) := by
  constructor
  · rintro h pre i post rfl
    exact (along_append.mp h).2.1
  · intro h
    induction steps generalizing s with
    | nil => trivial
    | cons i steps ih =>
      refine ⟨h [] i steps rfl, ih fun pre j post heq => ?_⟩
      exact h (i :: pre) j post (by rw [heq]; rfl)

theorem Along.mono {Q : ι → σ → Prop} {steps : List ι} (h : Along step P s steps)
    (himp : ∀ i s, P i s → Q i s) : Along step Q s steps := by
  induction steps generalizing s with
  | nil => trivial
  | cons i steps ih => exact ⟨himp i s h.1, ih h.2⟩

/-- The steps that are not skipped, each judged in the state in which it is taken. -/
def performed (step : ι → σ → σ) (skip : ι → σ → Bool) : σ → List ι → List ι
  | _, [] => []
  | s, i :: steps =>
    if skip i s then performed step skip s steps else i :: performed step skip (step i s) steps

/-- Steps that change nothing can be left out of a run. -/
theorem after_performed {skip : ι → σ → Bool} (hskip : ∀ i s, skip i s → step i s = s) (s : σ)
    (steps : List ι) : after step s (performed step skip s steps) = after step s steps := by
  induction steps generalizing s with
  | nil => rfl
  | cons i steps ih =>
    rw [performed, after_cons]
    split_ifs with hi
    · rw [hskip i s hi]
      exact ih s
    · rw [after_cons]
      exact ih (step i s)

theorem after_eq_self {steps : List ι} (h : ∀ i ∈ steps, step i s = s) :
    after step s steps = s := by
  induction steps with
  | nil => rfl
  | cons i steps ih =>
    rw [after_cons, h i List.mem_cons_self]
    exact ih fun j hj => h j (List.mem_cons_of_mem i hj)

/-- Steps that change nothing once the one before them was taken can be added to a run. -/
theorem after_flatMap_cons {κ : Type} {f : κ → ι} {g : κ → List ι} {xs : List κ}
    (h : Along (fun x => step (f x))
      (fun x s => ∀ i ∈ g x, step i (step (f x) s) = step (f x) s) s xs) :
    after step s (xs.flatMap fun x => f x :: g x) = after step s (xs.map f) := by
  induction xs generalizing s with
  | nil => rfl
  | cons x xs ih =>
    rw [List.flatMap_cons, after_append, after_cons, after_eq_self h.1, ih h.2]
    rfl

/-- What every allowed step preserves holds at the end of the run. -/
theorem Along.invariant {I : σ → Prop} {steps : List ι} (h : Along step P s steps)
    (hstep : ∀ i s, P i s → I s → I (step i s)) (hs : I s) : I (after step s steps) := by
  induction steps generalizing s with
  | nil => exact hs
  | cons i steps ih => exact ih h.2 (hstep i s h.1 hs)

theorem after_invariant {I : σ → Prop} (hstep : ∀ i s, I s → I (step i s)) (hs : I s)
    (steps : List ι) : I (after step s steps) := by
  induction steps generalizing s with
  | nil => exact hs
  | cons i steps ih => exact ih (hstep i s hs)

/-- What holds in the end and not at the start was brought about by some step. -/
theorem exists_step {p : σ → Prop} {steps : List ι} (hs : ¬p s) (hend : p (after step s steps)) :
    ∃ pre i post, steps = pre ++ i :: post ∧ ¬p (after step s pre) ∧
      p (step i (after step s pre)) := by
  induction steps generalizing s with
  | nil => exact absurd hend hs
  | cons i steps ih =>
    by_cases hi : p (step i s)
    · exact ⟨[], i, steps, rfl, hs, hi⟩
    · obtain ⟨pre, j, post, rfl, hpre, hj⟩ := ih hi hend
      exact ⟨i :: pre, j, post, rfl, hpre, hj⟩

/-- The first step that changes a value changes it from what it was at the start. -/
theorem exists_change {α : Type} {f : σ → α} {steps : List ι}
    (hne : f (after step s steps) ≠ f s) :
    ∃ pre i post, steps = pre ++ i :: post ∧
      f (step i (after step s pre)) ≠ f (after step s pre) := by
  obtain ⟨pre, i, post, rfl, hpre, hpost⟩ :=
    exists_step (p := fun t => f t ≠ f s) (not_not.mpr rfl) hne
  refine ⟨pre, i, post, rfl, ?_⟩
  rw [not_not.mp hpre]
  exact hpost

/-- Things that each step keeps, up to `E`, or makes: in the end each comes from one
there was at the start, or from one that a step of the run made. -/
theorem exists_origin {α : Type} {M : σ → α → Prop} {E : α → α → Prop} {C : ι → σ → α → Prop}
    (hrefl : ∀ x, E x x) (htrans : ∀ x y z, E x y → E y z → E x z)
    (hstep : ∀ i s y, M (step i s) y → (∃ x, M s x ∧ E x y) ∨ ∃ x, C i s x ∧ E x y)
    {steps : List ι} {y : α} (hy : M (after step s steps) y) :
    (∃ x, M s x ∧ E x y) ∨ ∃ pre i post x, steps = pre ++ i :: post ∧
      C i (after step s pre) x ∧ E x y := by
  induction steps generalizing s with
  | nil => exact .inl ⟨y, hy, hrefl y⟩
  | cons i steps ih =>
    obtain ⟨x, hx, hxy⟩ | ⟨pre, j, post, x, rfl, hx, hxy⟩ := ih hy
    · obtain ⟨w, hw, hwx⟩ | ⟨w, hw, hwx⟩ := hstep i s x hx
      · exact .inl ⟨w, hw, htrans w x y hwx hxy⟩
      · exact .inr ⟨[], i, steps, w, rfl, hw, htrans w x y hwx hxy⟩
    · exact .inr ⟨i :: pre, j, post, x, rfl, hx, hxy⟩

/-- Two runs of the same steps stay related. -/
theorem after_related {E : σ → σ → Prop} (hstep : ∀ i s t, E s t → E (step i s) (step i t))
    {s t : σ} (h : E s t) (steps : List ι) : E (after step s steps) (after step t steps) := by
  induction steps generalizing s t with
  | nil => exact h
  | cons i steps ih => exact ih (hstep i s t h)

/-- As long as the steps are allowed the run keeps `K`; the first that is not leads
to `M`, which nothing leaves. -/
theorem along_or_not {K M : σ → Prop} {steps : List ι}
    (hK : ∀ i s, K s → P i s → K (step i s)) (hM : ∀ i s, K s → ¬P i s → M (step i s))
    (hstay : ∀ i s, M s → M (step i s)) (hs : K s) :
    Along step P s steps ∧ K (after step s steps) ∨
      ¬Along step P s steps ∧ M (after step s steps) := by
  induction steps generalizing s with
  | nil => exact .inl ⟨trivial, hs⟩
  | cons i steps ih =>
    by_cases hi : P i s
    · obtain ⟨ha, hk⟩ | ⟨ha, hm⟩ := ih (hK i s hs hi)
      · exact .inl ⟨⟨hi, ha⟩, hk⟩
      · exact .inr ⟨fun h => ha h.2, hm⟩
    · exact .inr ⟨fun h => hi h.1, after_invariant hstay (hM i s hs hi) steps⟩

/-- A condition on the steps that is exactly what keeps `G`: it holds along a run
when every state of the run has `G`. The invariant `I` may say more than `G`. -/
theorem forall_after_iff_along {I G : σ → Prop} {steps : List ι} (hG : ∀ s, I s → G s)
    (hstep : ∀ i s, I s → P i s → I (step i s)) (hbad : ∀ i s, I s → ¬P i s → ¬G (step i s))
    (hs : I s) : (∀ pre post, steps = pre ++ post → G (after step s pre)) ↔
      Along step P s steps := by
  induction steps generalizing s with
  | nil =>
    refine iff_of_true (fun pre post h => ?_) trivial
    obtain ⟨rfl, -⟩ := List.append_eq_nil_iff.mp h.symm
    exact hG s hs
  | cons i steps ih =>
    constructor
    · intro h
      have hi : P i s := by
        by_contra hn
        exact hbad i s hs hn (h [i] steps rfl)
      refine ⟨hi, (ih (hstep i s hs hi)).mp fun pre post heq => ?_⟩
      exact h (i :: pre) post (by rw [heq]; rfl)
    · rintro ⟨hi, hrest⟩ pre post heq
      cases pre with
      | nil => exact hG s hs
      | cons j pre =>
        obtain ⟨rfl, hpost⟩ := List.cons.inj heq
        exact (ih (hstep i s hs hi)).mpr hrest pre post hpost

/-- An invariant of time and state that time alone preserves, and that each allowed
step preserves at its own time. -/
theorem Along.clock [Preorder τ] {time : ι → τ} {I : τ → σ → Prop} {t u : τ} {steps : List ι}
    (h : Along step P s steps) (hmono : ∀ t t' s, t ≤ t' → I t s → I t' s)
    (hstep : ∀ i s, P i s → I (time i) s → I (time i) (step i s))
    (hsorted : steps.Pairwise fun i j => time i ≤ time j) (hfrom : ∀ i ∈ steps, t ≤ time i)
    (huntil : ∀ i ∈ steps, time i ≤ u) (htu : t ≤ u) (hs : I t s) : I u (after step s steps) := by
  induction steps generalizing s t with
  | nil => exact hmono t u s htu hs
  | cons i steps ih =>
    obtain ⟨hi, hrest⟩ := List.pairwise_cons.mp hsorted
    have hnow : I (time i) (step i s) :=
      hstep i s h.1 (hmono t _ s (hfrom i List.mem_cons_self) hs)
    exact ih h.2 hrest hi (fun j hj => huntil j (List.mem_cons_of_mem i hj))
      (huntil i List.mem_cons_self) hnow

theorem after_clock [Preorder τ] {time : ι → τ} {I : τ → σ → Prop} {t u : τ} {steps : List ι}
    (hmono : ∀ t t' s, t ≤ t' → I t s → I t' s)
    (hstep : ∀ i s, I (time i) s → I (time i) (step i s))
    (hsorted : steps.Pairwise fun i j => time i ≤ time j) (hfrom : ∀ i ∈ steps, t ≤ time i)
    (huntil : ∀ i ∈ steps, time i ≤ u) (htu : t ≤ u) (hs : I t s) : I u (after step s steps) :=
  (along_iff.mpr fun _ _ _ _ => trivial : Along step (fun _ _ => True) s steps).clock hmono
    (fun i s _ => hstep i s) hsorted hfrom huntil htu hs

/-- In the run, `i` is taken in the state `s₁` and `j`, later, in `s₂`. -/
def Ordered (step : ι → σ → σ) (s : σ) (steps : List ι) (i : ι) (s₁ : σ) (j : ι) (s₂ : σ) : Prop :=
  ∃ pre mid post, steps = pre ++ i :: (mid ++ j :: post) ∧ s₁ = after step s pre ∧
    s₂ = after step (step i s₁) mid

/-- An invariant as in `after_clock` that holds after one step of a run holds
before any later one. -/
theorem Ordered.clock [Preorder τ] (time : ι → τ) (I : τ → σ → Prop) {steps : List ι} {i j : ι}
    {s₁ s₂ : σ} (h : Ordered step s steps i s₁ j s₂) (hmono : ∀ t t' s, t ≤ t' → I t s → I t' s)
    (hstep : ∀ i s, I (time i) s → I (time i) (step i s))
    (hsorted : steps.Pairwise fun i j => time i ≤ time j) (hs : I (time i) (step i s₁)) :
    I (time j) s₂ := by
  obtain ⟨pre, mid, post, rfl, -, rfl⟩ := h
  obtain ⟨hi, hrest⟩ := List.pairwise_cons.mp (List.pairwise_append.mp hsorted).2.1
  obtain ⟨hmid, -, hlast⟩ := List.pairwise_append.mp hrest
  exact after_clock hmono hstep hmid (fun k hk => hi k (List.mem_append_left _ hk))
    (fun k hk => hlast k hk j List.mem_cons_self)
    (hi j (List.mem_append_right _ List.mem_cons_self)) hs

end Runs
