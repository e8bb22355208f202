import Mathlib.Data.List.Basic
import Mathlib.Logic.Function.Basic

/-!
# State machines over keys

A machine whose state has a component for each key, and whose inputs each work on the
component at their own key. What it answers at some of the keys in a run is what it
answers in the run of the inputs at those keys alone.
-/

namespace Keyed

variable {κ ν ι ο : Type} {key : ι → Option κ} {step : (κ → ν) → ι → ο × (κ → ν)}
  {s s' : κ → ν} {i : ι}

/-- An input reads and writes at most the component at its key. -/
structure Local (key : ι → Option κ) (step : (κ → ν) → ι → ο × (κ → ν)) : Prop where
  output : ∀ s s' i, (∀ k, key i = some k → s k = s' k) → (step s i).1 = (step s' i).1
  own : ∀ s s' i k, key i = some k → s k = s' k → (step s i).2 k = (step s' i).2 k
  frame : ∀ s i k, key i ≠ some k → (step s i).2 k = s k

/-- The inputs of a run with the answers to them. -/
def trace (step : (κ → ν) → ι → ο × (κ → ν)) : (κ → ν) → List ι → List (ι × ο)
  | _, [] => []
  | s, i :: inputs => (i, (step s i).1) :: trace step (step s i).2 inputs

theorem trace_concat (s : κ → ν) (inputs : List ι) (i : ι) :
    trace step s (inputs ++ [i]) = trace step s inputs ++
      [(i, (step (inputs.foldl (fun s i => (step s i).2) s) i).1)] := by
  induction inputs generalizing s with
  | nil => rfl
  | cons j inputs ih => exact congrArg (List.cons _) (ih _)

/-- The states agree at the keys in `q`. -/
def Agree (q : κ → Prop) (s s' : κ → ν) : Prop := ∀ k, q k → s k = s' k

theorem Agree.refl (q : κ → Prop) (s : κ → ν) : Agree q s s := fun _ _ => rfl

namespace Local

variable (h : Local key step) {q : κ → Prop} (hs : Agree q s s')

include h hs

theorem agree_step : Agree q (step s i).2 (step s' i).2 := by
  intro k hq
  by_cases hk : key i = some k
  · exact h.own s s' i k hk (hs k hq)
  · rw [h.frame s i k hk, h.frame s' i k hk]
    exact hs k hq

/-- An input at another key may as well not be there. -/
theorem agree_skip (hi : ∀ k, key i = some k → ¬q k) : Agree q (step s i).2 s' := by
  intro k hq
  rw [h.frame s i k fun hk => hi k hk hq]
  exact hs k hq

/-- The inputs chosen by `p` are those at the keys in `q`; of the ones without a key it
may choose any. -/
theorem filter_trace (p : ι → Bool) (inputs : List ι)
    (hp : ∀ i ∈ inputs, ∀ k, key i = some k → (p i ↔ q k)) :
    (trace step s inputs).filter (fun x => p x.1) = trace step s' (inputs.filter p) := by
  induction inputs generalizing s s' with
  | nil => rfl
  | cons i inputs ih =>
    have hpi : ∀ k, key i = some k → (p i ↔ q k) := hp i List.mem_cons_self
    have hrest : ∀ i ∈ inputs, ∀ k, key i = some k → (p i ↔ q k) :=
      fun i hi => hp i (List.mem_cons_of_mem _ hi)
    rw [trace, List.filter_cons, List.filter_cons]
    by_cases hi : p i
    · have hout : (step s i).1 = (step s' i).1 :=
        h.output s s' i fun k hk => hs k ((hpi k hk).mp hi)
      rw [if_pos hi, if_pos hi, trace, hout, ih (h.agree_step hs) hrest]
    · have hskip : Agree q (step s i).2 s' :=
        h.agree_skip hs fun k hk hq => hi ((hpi k hk).mpr hq)
      rw [if_neg hi, if_neg hi, ih hskip hrest]

end Local
end Keyed
