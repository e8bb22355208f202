import VirtualStack.SessionLogic

/-!
# How a request leaves the store

A request that fails is rolled back. After one that succeeds the session is
either closed as it is, which discards what was not committed, or committed
first. What every write of a request keeps holds of the store in both cases.
-/

namespace UnitOfWork

variable {σ ε α β : Type} [SessionError ε] {I : σ → Prop} {x : Tx σ ε α} {f : α → Tx σ ε β}
  {d v : σ}

inductive Ending where
  | discards
  | commits
  deriving DecidableEq, Repr

/-- What an open session leaves in the store. -/
def Ending.close : Ending → Session σ ε → σ
  | discards, s => s.committed
  | commits, s => (commit.run s).2.committed

/-- The store that later sessions start from. -/
def stored (closing : Ending) (x : Tx σ ε α) (d : σ) : σ := match serve x d with
  | (.ok _, s) => closing.close s
  | (.error _, s) => s.committed

theorem stored_discards (x : Tx σ ε α) (d : σ) :
    stored .discards x d = (x.run (.start d)).2.committed := by
  rw [← committed_serve, stored]
  generalize serve x d = r
  rcases r with ⟨_ | _, s⟩ <;> rfl

/-- A request on `d` commits only stores with `I`, and the session it leaves when it
succeeds has no other writes. -/
structure Ends (I : σ → Prop) (x : Tx σ ε α) (d : σ) : Prop where
  committed : I (x.run (.start d)).2.committed
  session : ∀ a s, x.run (.start d) = (.ok a, s) → s.Inv I

theorem Ends.stored (h : Ends I x d) (closing : Ending) : I (stored closing x d) := by
  rcases hr : x.run (.start d) with ⟨e | a, s⟩
  · have hc := h.committed
    rw [hr] at hc
    rw [UnitOfWork.stored, serve_of_error hr]
    exact hc
  · have hs := h.session a s hr
    rw [UnitOfWork.stored, serve_of_ok hr]
    cases closing with
    | discards => exact hs.committed
    | commits => exact (keeps_commit s hs).committed

omit [SessionError ε] in
theorem KeepsAt.ends (hd : I d) (h : KeepsAt I d x) : Ends I x d := by
  refine ⟨(h d hd).committed, fun a s hr => ?_⟩
  have hs := h d hd
  rw [hr] at hs
  exact hs

omit [SessionError ε] in
theorem Raises.ends {e : ε} (hd : I d) (h : Raises x d e) : Ends I x d := by
  obtain ⟨s, hr, hc⟩ := h d
  constructor
  · rw [hr, hc]
    exact hd
  · intro a s' hr'
    rw [hr] at hr'
    cases hr'

omit [SessionError ε] in
theorem Fails.ends (hd : I d) (h : Fails x d) : Ends I x d := by
  obtain ⟨e, he⟩ := h
  exact he.ends hd

omit [SessionError ε] in
theorem Returns.bind_ends {a : α} (hx : Returns x d a v) (hd : I d) (hf : KeepsAt I v (f a)) :
    Ends I (x >>= f) d := by
  have hs := hf d hd
  rw [← run_bind_ok (hx d) f] at hs
  refine ⟨hs.committed, fun b s hr => ?_⟩
  rw [hr] at hs
  exact hs

omit [SessionError ε] in
theorem Yields.bind_ends {r : Except ε α} (hx : Yields x d r v) (hd : I d)
    (hf : ∀ a, r = .ok a → KeepsAt I v (f a)) : Ends I (x >>= f) d := by
  cases r with
  | error e => exact Raises.ends hd (Raises.bind hx f)
  | ok a => exact Returns.bind_ends hx hd (hf a rfl)

omit [SessionError ε] in
theorem Ends.bind_pure (h : Ends I x d) (b : β) : Ends I (x >>= fun _ => pure b) d := by
  rcases hr : x.run (.start d) with ⟨e | a, s⟩
  · have hc := h.committed
    rw [hr] at hc
    refine ⟨by rw [run_bind_error hr]; exact hc, fun c s' hr' => ?_⟩
    rw [run_bind_error hr] at hr'
    cases hr'
  · have hs := h.session a s hr
    refine ⟨by rw [run_bind_ok hr]; exact hs.committed, fun c s' hr' => ?_⟩
    rw [run_bind_ok hr] at hr'
    cases hr'
    exact hs

/-! ## Programs that are refused -/

/-- The program commits nothing, whether it returns or raises. -/
def Withholds (x : Tx σ ε α) : Prop :=
  ∀ s : Session σ ε, (x.run s).2.committed = s.committed

/-- The same in sessions that have nothing to send and see `d`. -/
def WithholdsAt (x : Tx σ ε α) (d : σ) : Prop := ∀ c, (x.run (.clean c d)).2.committed = c

/-- A request that is answered with an error has committed nothing. -/
def FailsClean (x : Tx σ ε α) (d : σ) : Prop :=
  ∀ e s, serve x d = (.error e, s) → s.committed = d

section Refused

omit [SessionError ε]

theorem withholds_pure (a : α) : Withholds (pure a : Tx σ ε α) := fun _ => rfl

theorem withholds_throw (e : ε) : Withholds (throw e : Tx σ ε α) := fun _ => rfl

theorem withholds_lift (r : Except ε α) : Withholds (lift r : Tx σ ε α) := fun _ => rfl

theorem withholds_rollback : Withholds (rollback : Tx σ ε Unit) := fun _ => rfl

theorem Withholds.at (hx : Withholds x) (d : σ) : WithholdsAt x d := fun c => hx (.clean c d)

theorem Withholds.bind (hx : Withholds x) (hf : ∀ a, Withholds (f a)) : Withholds (x >>= f) := by
  intro s
  have h := hx s
  rw [run_bind]
  generalize x.run s = r at h ⊢
  obtain ⟨_ | a, s'⟩ := r
  · exact h
  · exact (hf a s').trans h

theorem Withholds.tryCatch {k : ε → Tx σ ε α} (hx : Withholds x) (hk : ∀ e, Withholds (k e)) :
    Withholds (tryCatch x k) := by
  intro s
  have h := hx s
  rw [run_tryCatch]
  generalize x.run s = r at h ⊢
  obtain ⟨e | _, s'⟩ := r
  · exact (hk e s').trans h
  · exact h

theorem WithholdsAt.tryCatch {k : ε → Tx σ ε α} (hx : WithholdsAt x d)
    (hk : ∀ e, Withholds (k e)) : WithholdsAt (tryCatch x k) d := by
  intro c
  have h := hx c
  rw [run_tryCatch]
  generalize x.run (.clean c d) = r at h ⊢
  obtain ⟨e | _, s'⟩ := r
  · exact (hk e s').trans h
  · exact h

theorem Returns.bind_withholds {a : α} (hx : Returns x d a v) (hf : Withholds (f a)) :
    WithholdsAt (x >>= f) d := by
  intro c
  rw [run_bind_ok (hx c)]
  exact hf (.clean c v)

theorem withholdsAt_lift_bind {r : Except ε α} (hf : ∀ a, r = .ok a → WithholdsAt (f a) d) :
    WithholdsAt (lift r >>= f) d := by
  cases r with
  | ok a => exact hf a rfl
  | error e => exact (withholds_throw e).at d

theorem Fails.withholdsAt (hx : Fails x d) : WithholdsAt x d := by
  obtain ⟨e, he⟩ := hx
  intro c
  obtain ⟨s, hs, hc⟩ := he c
  rw [hs]
  exact hc

theorem Yields.bind_withholds {r : Except ε α} (hx : Yields x d r v) (hf : ∀ a, Withholds (f a)) :
    WithholdsAt (x >>= f) d := by
  cases r with
  | error e => exact ((Raises.bind hx f).fails).withholdsAt
  | ok a => exact Returns.bind_withholds hx (hf a)

theorem Returns.withholdsAt {a : α} (hx : Returns x d a v) : WithholdsAt x d := by
  intro c
  rw [hx c]

theorem WithholdsAt.bind_pure (hx : WithholdsAt x d) (g : α → β) :
    WithholdsAt (x >>= fun a => pure (g a)) d := by
  intro c
  have h := hx c
  rw [run_bind]
  generalize x.run (.clean c d) = r at h ⊢
  obtain ⟨_ | _, s⟩ := r <;> exact h

theorem WithholdsAt.failsClean (hx : WithholdsAt x d) : FailsClean x d := by
  intro e s hs
  have hc := committed_serve x d
  rw [hs, hx d] at hc
  exact hc

theorem Withholds.failsClean (hx : Withholds x) (d : σ) : FailsClean x d := (hx.at d).failsClean

theorem Fails.failsClean (hx : Fails x d) : FailsClean x d := hx.withholdsAt.failsClean

/-- A request that succeeds is not refused. -/
theorem failsClean_of_ok {a : α} {s : Session σ ε} (hs : serve x d = (.ok a, s)) :
    FailsClean x d := by
  intro e s' hs'
  rw [hs] at hs'
  cases hs'

theorem FailsClean.bind_pure (hx : FailsClean x d) (g : α → β) :
    FailsClean (x >>= fun a => pure (g a)) d := by
  intro e s hs
  rw [serve, run_bind] at hs
  rcases hr : x.run (.start d) with ⟨e' | a, s'⟩ <;> rw [hr] at hs
  · cases hs
    exact hx e _ (serve_of_error hr)
  · cases hs

end Refused

theorem withholds_flush : Withholds (flush : Tx σ ε Unit) := by
  intro s
  rw [flush]
  dsimp only
  split_ifs
  · rfl
  · split <;> rfl

theorem withholds_query (g : σ → α) : Withholds (query g : Tx σ ε α) := by
  intro s
  have h := withholds_flush s
  rw [query]
  dsimp only
  split <;> rename_i heq <;> rw [heq] at h <;> exact h

theorem WithholdsAt.stored (hx : WithholdsAt x d) : stored .discards x d = d := by
  rw [stored_discards]
  exact hx d

/-- What is stored after a request that is refused. -/
theorem FailsClean.stored (hx : FailsClean x d) {e : ε} (he : (serve x d).1 = .error e)
    (closing : Ending) : stored closing x d = d := by
  rcases hs : serve x d with ⟨e' | a, s⟩
  · rw [UnitOfWork.stored, hs]
    exact hx e' s hs
  · rw [hs] at he
    cases he

end UnitOfWork
