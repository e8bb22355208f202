import Mathlib.Tactic.SplitIfs
import VirtualStack.Runs
import VirtualStack.UnitOfWork

/-!
# Invariants of sessions

A property of stores is carried by a session when the committed store has it,
the open transaction sees it, and sending the waiting writes would keep it.
`Keeps I x` says that the program `x` preserves this from every session,
whether it returns or raises. `KeepsAt I v x` is the same for sessions that
have nothing to send and see the store `v`: a guard that was checked on `v`
can be used for the writes that follow.
-/

namespace UnitOfWork

variable {σ ε α β : Type}

theorem applyAll_append (ws : List (σ → Except ε σ)) (w : σ → Except ε σ) (v : σ) :
    applyAll (ws ++ [w]) v = match applyAll ws v with
      | .ok v' => w v'
      | .error e => .error e := by
  induction ws generalizing v with
  | nil =>
    simp only [List.nil_append, applyAll]
    cases w v <;> rfl
  | cons u ws ih =>
    simp only [List.cons_append, applyAll]
    cases u v with
    | ok v' => exact ih v'
    | error e => rfl

structure Session.Inv (I : σ → Prop) (s : Session σ ε) : Prop where
  committed : I s.committed
  view : I s.view
  sent : s.failed = false → ∀ v, applyAll s.unflushed s.view = .ok v → I v

variable {I : σ → Prop}

theorem Session.inv_clean {c v : σ} (hc : I c) (hv : I v) :
    (Session.clean c v : Session σ ε).Inv I :=
  ⟨hc, hv, fun _ _ h => by cases h; exact hv⟩

theorem Session.inv_aborted {c : σ} (hc : I c) : (Session.aborted c : Session σ ε).Inv I :=
  ⟨hc, hc, fun h => by cases h⟩

def Keeps (I : σ → Prop) (x : Tx σ ε α) : Prop := ∀ s : Session σ ε, s.Inv I → (x.run s).2.Inv I

def KeepsAt (I : σ → Prop) (v : σ) (x : Tx σ ε α) : Prop :=
  ∀ c, I c → (x.run (.clean c v)).2.Inv I

theorem Keeps.keepsAt {x : Tx σ ε α} (h : Keeps I x) {v : σ} (hv : I v) : KeepsAt I v x :=
  fun _ hc => h _ (Session.inv_clean hc hv)

/-! ## Composition -/

theorem keeps_pure (a : α) : Keeps I (pure a : Tx σ ε α) := fun _ hs => hs

theorem keeps_throw (e : ε) : Keeps I (throw e : Tx σ ε α) := fun _ hs => hs

theorem keeps_lift (r : Except ε α) : Keeps I (lift r : Tx σ ε α) := fun _ hs => hs

theorem Keeps.bind {x : Tx σ ε α} {f : α → Tx σ ε β} (hx : Keeps I x) (hf : ∀ a, Keeps I (f a)) :
    Keeps I (x >>= f) := by
  intro s hs
  have h := hx s hs
  rw [run_bind]
  generalize x.run s = r at h ⊢
  obtain ⟨_ | a, s'⟩ := r
  · exact h
  · exact hf a s' h

theorem Keeps.tryCatch {x : Tx σ ε α} {k : ε → Tx σ ε α} (hx : Keeps I x)
    (hk : ∀ e, Keeps I (k e)) : Keeps I (tryCatch x k) := by
  intro s hs
  have h := hx s hs
  rw [run_tryCatch]
  generalize x.run s = r at h ⊢
  obtain ⟨e | _, s'⟩ := r
  · exact hk e s' h
  · exact h

theorem keepsAt_tryCatch {v : σ} {x : Tx σ ε α} {k : ε → Tx σ ε α} (hx : KeepsAt I v x)
    (hk : ∀ e, Keeps I (k e)) : KeepsAt I v (tryCatch x k) := by
  intro c hc
  have h := hx c hc
  rw [run_tryCatch]
  generalize x.run (.clean c v) = r at h ⊢
  obtain ⟨e | _, s'⟩ := r
  · exact hk e s' h
  · exact h

theorem KeepsAt.bind {v : σ} {x : Tx σ ε α} {f : α → Tx σ ε β} (hx : KeepsAt I v x)
    (hf : ∀ a, Keeps I (f a)) : KeepsAt I v (x >>= f) := by
  intro c hc
  have h := hx c hc
  rw [run_bind]
  generalize x.run (.clean c v) = r at h ⊢
  obtain ⟨_ | a, s'⟩ := r
  · exact h
  · exact hf a s' h

theorem keepsAt_lift_bind {v : σ} (hv : I v) {r : Except ε α} {k : α → Tx σ ε β}
    (hk : ∀ a, r = .ok a → KeepsAt I v (k a)) : KeepsAt I v (lift r >>= k) := by
  intro c hc
  cases r with
  | error e => exact Session.inv_clean hc hv
  | ok a => exact hk a rfl c hc

theorem Returns.keepsAt {v v' : σ} {x : Tx σ ε α} {a : α} (hx : Returns x v a v') (hv' : I v') :
    KeepsAt I v x := by
  intro c hc
  rw [hx c]
  exact Session.inv_clean hc hv'

theorem Returns.bind_keepsAt {v v' : σ} {x : Tx σ ε α} {f : α → Tx σ ε β} {a : α}
    (hx : Returns x v a v') (hf : KeepsAt I v' (f a)) : KeepsAt I v (x >>= f) := by
  intro c hc
  rw [run_bind_ok (hx c)]
  exact hf c hc

theorem Reverts.keepsAt {v : σ} {x : Tx σ ε α} (hx : Reverts x v) : KeepsAt I v x := by
  obtain ⟨e, he⟩ := hx
  intro c hc
  obtain ⟨s, hs, rfl | rfl⟩ := he c
  · rw [hs]
    exact Session.inv_clean hc hc
  · rw [hs]
    exact Session.inv_aborted hc

/-! ## Session operations -/

theorem keeps_rollback : Keeps I (rollback : Tx σ ε Unit) :=
  fun _ hs => Session.inv_clean hs.committed hs.committed

/-- A write handed to a session that has nothing else to send. -/
theorem keepsAt_add {v : σ} (hv : I v) {w : σ → Except ε σ} (hw : ∀ v', w v = .ok v' → I v') :
    KeepsAt I v (add w) := by
  refine fun c hc => ⟨hc, hv, fun _ v' h => ?_⟩
  change applyAll [w] v = .ok v' at h
  rw [applyAll] at h
  cases hwv : w v with
  | ok u =>
    rw [hwv] at h
    cases h
    exact hw v' hwv
  | error e =>
    rw [hwv] at h
    cases h

/-- A write that keeps the property from every store. -/
theorem keeps_add {w : σ → Except ε σ} (hw : ∀ v v', I v → w v = .ok v' → I v') :
    Keeps I (add w) := by
  refine fun s hs => ⟨hs.committed, hs.view, fun hf v' h => ?_⟩
  change applyAll (s.unflushed ++ [w]) s.view = .ok v' at h
  rw [applyAll_append] at h
  cases hws : applyAll s.unflushed s.view with
  | ok u =>
    rw [hws] at h
    exact hw u v' (hs.sent hf u hws) h
  | error e =>
    rw [hws] at h
    cases h

section Flushing

variable [SessionError ε]

theorem keeps_assertLive : Keeps I (assertLive : Tx σ ε Unit) := by
  intro s hs
  rw [assertLive]
  dsimp only
  split_ifs <;> exact hs

/-- After a flush the session is clean, or nothing was sent. -/
theorem flush_cases {s : Session σ ε} (hs : s.Inv I) :
    (∃ e, flush.run s = (.error e, s)) ∨
    (∃ e, flush.run s = (.error e, .aborted s.committed)) ∨
    ∃ v, I v ∧ flush.run s = (.ok (), .clean s.committed v) := by
  rw [flush]
  dsimp only
  split_ifs with hf
  · exact .inl ⟨_, rfl⟩
  · cases hv : applyAll s.unflushed s.view with
    | ok v => exact .inr (.inr ⟨v, hs.sent (by simpa using hf) v hv, rfl⟩)
    | error e => exact .inr (.inl ⟨e, rfl⟩)

theorem keeps_flush : Keeps I (flush : Tx σ ε Unit) := by
  intro s hs
  obtain ⟨e, h⟩ | ⟨e, h⟩ | ⟨v, hv, h⟩ := flush_cases hs <;> rw [h]
  · exact hs
  · exact Session.inv_aborted hs.committed
  · exact Session.inv_clean hs.committed hv

theorem keeps_commit : Keeps I (commit : Tx σ ε Unit) := by
  intro s hs
  rw [commit]
  dsimp only
  obtain ⟨e, h⟩ | ⟨e, h⟩ | ⟨v, hv, h⟩ := flush_cases hs <;> rw [h]
  · exact hs
  · exact Session.inv_aborted hs.committed
  · exact Session.inv_clean hv hv

/-- Reading: what follows may use what was read. -/
theorem keeps_query_bind {f : σ → α} {k : α → Tx σ ε β} (hk : ∀ v, I v → KeepsAt I v (k (f v))) :
    Keeps I (query f >>= k) := by
  intro s hs
  obtain ⟨e, h⟩ | ⟨e, h⟩ | ⟨v, hv, h⟩ := flush_cases hs <;> simp only [run_bind, query, h]
  · exact hs
  · exact Session.inv_aborted hs.committed
  · exact hk v hv _ hs.committed

theorem keepsAt_commit_bind {v : σ} (hv : I v) {k : Unit → Tx σ ε β} (hk : KeepsAt I v (k ())) :
    KeepsAt I v (commit >>= k) := by
  intro c _
  rw [run_bind_ok (commit_clean c v)]
  exact hk v hv

theorem keepsAt_query_bind {v : σ} {f : σ → α} {k : α → Tx σ ε β} (hk : KeepsAt I v (k (f v))) :
    KeepsAt I v (query f >>= k) := fun c hc => hk c hc

theorem keeps_query (f : σ → α) : Keeps I (query f : Tx σ ε α) := by
  intro s hs
  rw [query]
  dsimp only
  obtain ⟨e, h⟩ | ⟨e, h⟩ | ⟨v, hv, h⟩ := flush_cases hs <;> rw [h]
  · exact hs
  · exact Session.inv_aborted hs.committed
  · exact Session.inv_clean hs.committed hv

theorem keepsAt_execute {v : σ} {w : σ → Except ε σ} (hw : ∀ v', w v = .ok v' → I v') :
    KeepsAt I v (execute w) := by
  intro c hc
  cases h : w v with
  | ok v' =>
    rw [execute_clean_ok c v h]
    exact Session.inv_clean hc (hw v' h)
  | error e =>
    rw [execute_clean_error c v h]
    exact Session.inv_aborted hc

theorem keepsAt_execute_bind {v : σ} {w : σ → Except ε σ} {k : Unit → Tx σ ε β}
    (hw : ∀ v', w v = .ok v' → KeepsAt I v' (k ())) : KeepsAt I v (execute w >>= k) := by
  intro c hc
  cases h : w v with
  | ok v' =>
    rw [run_bind_ok (execute_clean_ok c v h)]
    exact hw v' h c hc
  | error e =>
    rw [run_bind_error (execute_clean_error c v h)]
    exact Session.inv_aborted hc

theorem keeps_execute {w : σ → Except ε σ} (hw : ∀ v v', I v → w v = .ok v' → I v') :
    Keeps I (execute w) := by
  intro s hs
  rw [execute]
  dsimp only
  obtain ⟨e, h⟩ | ⟨e, h⟩ | ⟨v, hv, h⟩ := flush_cases hs <;> rw [h]
  · exact hs
  · exact Session.inv_aborted hs.committed
  · exact keepsAt_execute (hw v · hv) s.committed hs.committed

/-! ## Programs that begin with a flush -/

/-- The waiting writes are sent before anything else happens, and in an aborted
transaction nothing does. -/
structure Autoflush (x : Tx σ ε α) : Prop where
  live : ∀ s : Session σ ε, s.failed = false → x.run s = match flush.run s with
    | (.ok _, s') => x.run s'
    | (.error e, s') => (.error e, s')
  aborted : ∀ s : Session σ ε, s.failed = true →
    ∃ e ws, x.run s = (.error e, { s with unflushed := ws })

/-- A flush that succeeds leaves nothing to send. -/
theorem flush_flush {s s' : Session σ ε} (h : flush.run s = (.ok (), s')) :
    flush.run s' = (.ok (), s') := by
  rw [flush] at h
  dsimp only at h
  split_ifs at h
  · cases h
  · cases hv : applyAll s.unflushed s.view <;> rw [hv] at h <;> cases h
    rfl

theorem flush_aborted {s : Session σ ε} (h : s.failed = true) :
    flush.run s = (.error SessionError.pendingRollback, s) := by
  simp [flush, h]

theorem autoflush_of_flush (k : Session σ ε → Except ε α × Session σ ε) :
    Autoflush (⟨fun s => match flush.run s with
      | (.ok _, s') => k s'
      | (.error e, s') => (.error e, s')⟩ : Tx σ ε α) := by
  constructor
  · intro s _
    dsimp only
    rcases h : flush.run s with ⟨_ | _, s'⟩
    · rfl
    · simp [flush_flush h]
  · intro s hs
    dsimp only
    rw [flush_aborted hs]
    exact ⟨_, s.unflushed, rfl⟩

theorem autoflush_query (f : σ → α) : Autoflush (query f : Tx σ ε α) :=
  autoflush_of_flush fun s' => (.ok (f s'.view), s')

theorem autoflush_execute (w : σ → Except ε σ) : Autoflush (execute w) :=
  autoflush_of_flush fun s' => match w s'.view with
    | .ok v => (.ok (), { s' with view := v })
    | .error e => (.error e, .aborted s'.committed)

theorem autoflush_commit : Autoflush (commit : Tx σ ε Unit) :=
  autoflush_of_flush fun s' => (.ok (), { s' with committed := s'.view })

theorem Autoflush.bind {x : Tx σ ε α} (hx : Autoflush x) (f : α → Tx σ ε β) :
    Autoflush (x >>= f) := by
  constructor
  · intro s hs
    rw [run_bind, hx.live s hs]
    rcases flush.run s with ⟨_ | _, s'⟩ <;> rfl
  · intro s hs
    obtain ⟨e, ws, h⟩ := hx.aborted s hs
    exact ⟨e, ws, run_bind_error h f⟩

/-- A write that is handed over and sent by what follows. -/
theorem autoflush_add_bind {w : σ → Except ε σ} {k : Unit → Tx σ ε β} (hk : Autoflush (k ())) :
    Autoflush (add w >>= k) := by
  constructor
  · intro s hf
    change (k ()).run _ = match flush.run s with
      | (.ok _, s') => (k ()).run { s' with unflushed := s'.unflushed ++ [w] }
      | (.error e, s') => (.error e, s')
    rw [hk.live _ (by exact hf)]
    cases h : applyAll s.unflushed s.view with
    | error e => simp [flush, hf, h, applyAll_append]
    | ok v =>
      have hs : flush.run s = (.ok (), .clean s.committed v) := by simp [flush, hf, h]
      rw [hs]
      dsimp only
      rw [hk.live _ rfl]
      simp only [flush, hf, h, applyAll_append, applyAll]
      cases w v <;> rfl
  · intro s hf
    obtain ⟨e, ws, h⟩ := hk.aborted { s with unflushed := s.unflushed ++ [w] } hf
    exact ⟨e, ws, h⟩

/-- Run with one waiting write, which is accepted. -/
theorem Autoflush.run_one_ok {x : Tx σ ε α} (hx : Autoflush x) {c d d' : σ} {w : σ → Except ε σ}
    (hw : w d = .ok d') : x.run ⟨c, d, [w], false⟩ = x.run (.clean c d') := by
  rw [hx.live _ rfl, flush_one_ok c d hw]

/-- Run with one waiting write, which is refused. -/
theorem Autoflush.run_one_error {x : Tx σ ε α} (hx : Autoflush x) {c d : σ} {w : σ → Except ε σ}
    {e : ε} (hw : w d = .error e) : x.run ⟨c, d, [w], false⟩ = (.error e, .aborted c) := by
  rw [hx.live _ rfl, flush_one_error c d hw]

/-- The waiting writes of a live session are accepted and give `v`. -/
structure Session.Sends (s : Session σ ε) (v : σ) : Prop where
  live : s.failed = false
  accepted : applyAll s.unflushed s.view = .ok v

omit [SessionError ε] in
theorem Session.Sends.unique {s : Session σ ε} {v w : σ} (hv : s.Sends v) (hw : s.Sends w) :
    v = w := Except.ok.inj (hv.accepted.symm.trans hw.accepted)

omit [SessionError ε] in
theorem Session.sends_clean (c v : σ) : (Session.clean c v : Session σ ε).Sends v := ⟨rfl, rfl⟩

theorem flush_eq_ok {s s' : Session σ ε} :
    flush.run s = (.ok (), s') ↔ ∃ v, s.Sends v ∧ s' = .clean s.committed v := by
  constructor
  · intro h
    rw [flush] at h
    dsimp only at h
    split_ifs at h with hf
    · cases h
    · cases hv : applyAll s.unflushed s.view with
      | error e =>
        rw [hv] at h
        cases h
      | ok v =>
        rw [hv] at h
        cases h
        exact ⟨v, ⟨by simpa using hf, hv⟩, rfl⟩
  · rintro ⟨v, hv, rfl⟩
    simp [flush, hv.live, hv.accepted]

/-- A program that returns has sent the waiting writes. -/
theorem Autoflush.sends_of_ok {x : Tx σ ε α} (hx : Autoflush x) {s s' : Session σ ε} {a : α}
    (h : x.run s = (.ok a, s')) :
    ∃ v, s.Sends v ∧ x.run (.clean s.committed v) = (.ok a, s') := by
  cases hf : s.failed with
  | true =>
    obtain ⟨e, ws, he⟩ := hx.aborted s hf
    cases h.symm.trans he
  | false =>
    rw [hx.live s hf] at h
    rcases hflush : flush.run s with ⟨_ | _, s₁⟩ <;> rw [hflush] at h
    · cases h
    · obtain ⟨v, hv, rfl⟩ := flush_eq_ok.mp hflush
      exact ⟨v, hv, h⟩

/-- Once the waiting writes are sent the program goes on from there. -/
theorem Autoflush.run_of_flush {x : Tx σ ε α} (hx : Autoflush x) {s s' : Session σ ε}
    (h : flush.run s = (.ok (), s')) : x.run s = x.run s' := by
  cases hf : s.failed with
  | true =>
    rw [flush_aborted hf] at h
    cases h
  | false => rw [hx.live s hf, h]

theorem Autoflush.inv_run {x : Tx σ ε α} (hx : Autoflush x) {s : Session σ ε} (hs : s.Inv I)
    (hv : ∀ v, I v → flush.run s = (.ok (), .clean s.committed v) →
      (x.run (.clean s.committed v)).2.Inv I) : (x.run s).2.Inv I := by
  cases hf : s.failed with
  | true =>
    obtain ⟨e, ws, h⟩ := hx.aborted s hf
    rw [h]
    exact ⟨hs.committed, hs.view, fun h => absurd (h.symm.trans hf) Bool.false_ne_true⟩
  | false =>
    obtain ⟨e, h⟩ | ⟨e, h⟩ | ⟨v, hI, h⟩ := flush_cases hs
    · rw [hx.live s hf, h]
      exact hs
    · rw [hx.live s hf, h]
      exact Session.inv_aborted hs.committed
    · rw [hx.run_of_flush h]
      exact hv v hI h

theorem keeps_of_autoflush {x : Tx σ ε α} (ha : Autoflush x) (hx : ∀ v, I v → KeepsAt I v x) :
    Keeps I x := fun _ hs => ha.inv_run hs fun v hv _ => hx v hv _ hs.committed

theorem keepsAt_add_bind {v : σ} {w : σ → Except ε σ} {k : Unit → Tx σ ε β}
    (hk : Autoflush (k ())) (hw : ∀ v', w v = .ok v' → KeepsAt I v' (k ())) :
    KeepsAt I v (add w >>= k) := by
  intro c hc
  rw [run_bind_ok (add_clean c v w)]
  cases h : w v with
  | ok v' =>
    rw [hk.run_one_ok h]
    exact hw v' h c hc
  | error e =>
    rw [hk.run_one_error h]
    exact Session.inv_aborted hc

/-! ## Runs of operations in sessions -/

/-- An operation in the current session, the end of its transaction, or a new
session. -/
inductive SessionStep (ο : Type) where
  | call (op : ο)
  | commit
  | rollback
  | reopen
  deriving DecidableEq, Repr

def SessionStep.next {ο : Type} (program : ο → Tx σ ε Unit) :
    SessionStep ο → Session σ ε → Session σ ε
  | call op, s => ((program op).run s).2
  | commit, s => (UnitOfWork.commit.run s).2
  | rollback, s => (UnitOfWork.rollback.run s).2
  | reopen, s => .start s.committed

/-- The steps that are no operations keep every property of the session. -/
theorem SessionStep.inv_next {ο : Type} {program : ο → Tx σ ε Unit} {step : SessionStep ο}
    {s : Session σ ε} (hs : s.Inv I)
    (hop : ∀ op, step = .call op → ((program op).run s).2.Inv I) : (step.next program s).Inv I := by
  cases step with
  | call op => exact hop op rfl
  | commit => exact keeps_commit s hs
  | rollback => exact keeps_rollback s hs
  | reopen => exact Session.inv_clean hs.committed hs.committed

/-- What every operation keeps holds throughout every run. -/
theorem inv_after {ο : Type} {program : ο → Tx σ ε Unit} (hop : ∀ op, Keeps I (program op)) {d : σ}
    (hd : I d) (steps : List (SessionStep ο)) :
    (Runs.after (SessionStep.next program) (.start d) steps).Inv I := by
  exact Runs.after_invariant (I := Session.Inv I)
    (fun step s hs => SessionStep.inv_next hs fun op _ => hop op s hs)
    (Session.inv_clean hd hd) steps

end Flushing

end UnitOfWork
