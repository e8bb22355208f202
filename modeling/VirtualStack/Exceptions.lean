import VirtualStack.UnitOfWork

/-!
# The exceptions of a program

`RaisesOnly E x` says that the program `x` raises nothing but exceptions in `E`. What a
flush raises was handed to the session earlier, so the waiting writes are asked the
same.
-/

namespace UnitOfWork

variable {σ ε α β : Type} {E : ε → Prop}

/-- The waiting writes raise nothing but `E`. -/
def Session.Only (E : ε → Prop) (s : Session σ ε) : Prop :=
  ∀ w ∈ s.unflushed, ∀ v e, w v = .error e → E e

theorem Session.only_clean (E : ε → Prop) (c v : σ) : (Session.clean c v : Session σ ε).Only E :=
  fun _ hw => absurd hw List.not_mem_nil

theorem Session.only_aborted (E : ε → Prop) (c : σ) : (Session.aborted c : Session σ ε).Only E :=
  fun _ hw => absurd hw List.not_mem_nil

def RaisesOnly (E : ε → Prop) (x : Tx σ ε α) : Prop :=
  ∀ s : Session σ ε, s.Only E → (∀ e, (x.run s).1 = .error e → E e) ∧ (x.run s).2.Only E

/-- Read on a request. -/
theorem RaisesOnly.serve {x : Tx σ ε α} (hx : RaisesOnly E x) {d : σ} {e : ε}
    (h : (UnitOfWork.serve x d).1 = .error e) : E e := by
  rw [fst_serve] at h
  exact (hx (.start d) (Session.only_clean E d d)).1 e h

/-! ## Composition -/

theorem raisesOnly_pure (a : α) : RaisesOnly E (pure a : Tx σ ε α) := by
  refine fun s hs => ⟨fun e h => ?_, hs⟩
  cases h

theorem raisesOnly_throw {e : ε} (he : E e) : RaisesOnly E (throw e : Tx σ ε α) := by
  refine fun s hs => ⟨fun e' h => ?_, hs⟩
  cases h
  exact he

theorem raisesOnly_lift {r : Except ε α} (hr : ∀ e, r = .error e → E e) :
    RaisesOnly E (lift r : Tx σ ε α) := fun _ hs => ⟨hr, hs⟩

theorem RaisesOnly.bind {x : Tx σ ε α} {f : α → Tx σ ε β} (hx : RaisesOnly E x)
    (hf : ∀ a, RaisesOnly E (f a)) : RaisesOnly E (x >>= f) := by
  intro s hs
  have h := hx s hs
  rw [run_bind]
  generalize x.run s = r at h ⊢
  obtain ⟨e | a, s'⟩ := r
  · refine ⟨fun e' he' => ?_, h.2⟩
    cases he'
    exact h.1 e rfl
  · exact hf a s' h.2

/-- A handler is only entered with an exception of the program it guards. -/
theorem RaisesOnly.tryCatch {x : Tx σ ε α} {k : ε → Tx σ ε α} (hx : RaisesOnly E x)
    (hk : ∀ e, E e → RaisesOnly E (k e)) : RaisesOnly E (tryCatch x k) := by
  intro s hs
  have h := hx s hs
  rw [run_tryCatch]
  generalize x.run s = r at h ⊢
  obtain ⟨e | a, s'⟩ := r
  · exact hk e (h.1 e rfl) s' h.2
  · exact h

/-! ## Session operations -/

theorem raisesOnly_rollback : RaisesOnly E (rollback : Tx σ ε Unit) := by
  refine fun s _ => ⟨fun e h => ?_, Session.only_clean E _ _⟩
  cases h

theorem raisesOnly_add {w : σ → Except ε σ} (hw : ∀ v e, w v = .error e → E e) :
    RaisesOnly E (add w) := by
  refine fun s hs => ⟨fun e h => ?_, fun u hu => ?_⟩
  · cases h
  · rcases List.mem_append.mp hu with hu | hu
    · exact hs u hu
    · obtain rfl := List.mem_singleton.mp hu
      exact hw

theorem applyAll_raises {ws : List (σ → Except ε σ)} (hws : ∀ w ∈ ws, ∀ v e, w v = .error e → E e)
    {v : σ} {e : ε} (h : applyAll ws v = .error e) : E e := by
  induction ws generalizing v with
  | nil => cases h
  | cons w ws ih =>
    rw [applyAll] at h
    cases hw : w v with
    | ok v' =>
      rw [hw] at h
      exact ih (fun w' hw' => hws w' (List.mem_cons_of_mem w hw')) h
    | error e' =>
      rw [hw] at h
      cases h
      exact hws w List.mem_cons_self v e hw

variable [SessionError ε]

theorem raisesOnly_flush (hE : E SessionError.pendingRollback) :
    RaisesOnly E (flush : Tx σ ε Unit) := by
  intro s hs
  rw [flush]
  dsimp only
  by_cases hf : s.failed
  · rw [if_pos hf]
    refine ⟨fun e h => ?_, hs⟩
    cases h
    exact hE
  · rw [if_neg hf]
    cases hv : applyAll s.unflushed s.view with
    | ok v =>
      refine ⟨fun e h => ?_, Session.only_clean E _ _⟩
      cases h
    | error e =>
      refine ⟨fun e' h => ?_, Session.only_aborted E _⟩
      cases h
      exact applyAll_raises hs hv

/-- What follows a flush. -/
theorem raisesOnly_of_flush (hE : E SessionError.pendingRollback)
    {k : Session σ ε → Except ε α × Session σ ε}
    (hk : ∀ s, s.Only E → (∀ e, (k s).1 = .error e → E e) ∧ (k s).2.Only E) :
    RaisesOnly E (⟨fun s => match flush.run s with
      | (.ok _, s') => k s'
      | (.error e, s') => (.error e, s')⟩ : Tx σ ε α) := by
  intro s hs
  have h := raisesOnly_flush hE s hs
  dsimp only
  generalize flush.run s = r at h ⊢
  obtain ⟨e | a, s'⟩ := r
  · refine ⟨fun e' he' => ?_, h.2⟩
    cases he'
    exact h.1 e rfl
  · exact hk s' h.2

theorem raisesOnly_query (hE : E SessionError.pendingRollback) (f : σ → α) :
    RaisesOnly E (query f : Tx σ ε α) := by
  refine raisesOnly_of_flush hE (k := fun s => (.ok (f s.view), s)) fun s hs => ⟨fun e h => ?_, hs⟩
  cases h

theorem raisesOnly_commit (hE : E SessionError.pendingRollback) :
    RaisesOnly E (commit : Tx σ ε Unit) := by
  refine raisesOnly_of_flush hE (k := fun s => (.ok (), { s with committed := s.view }))
    fun s hs => ⟨fun e h => ?_, hs⟩
  cases h

theorem raisesOnly_execute (hE : E SessionError.pendingRollback) {w : σ → Except ε σ}
    (hw : ∀ v e, w v = .error e → E e) : RaisesOnly E (execute w) := by
  intro s hs
  have h := raisesOnly_flush hE s hs
  rw [execute]
  dsimp only
  generalize flush.run s = r at h ⊢
  obtain ⟨e | _, s'⟩ := r
  · refine ⟨fun e' he' => ?_, h.2⟩
    cases he'
    exact h.1 e rfl
  · dsimp only
    cases hv : w s'.view with
    | ok v =>
      refine ⟨fun e he => ?_, h.2⟩
      cases he
    | error e =>
      refine ⟨fun e' he => ?_, Session.only_aborted E _⟩
      cases he
      exact hw s'.view e hv

end UnitOfWork
