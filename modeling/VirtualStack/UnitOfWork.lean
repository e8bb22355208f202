import Mathlib.Logic.Basic

/-!
# Sessions with a unit of work

A session keeps three things apart: the store as it was last committed, the
store as the open transaction sees it, and the writes that were handed to the
session but not yet sent. Every statement first sends the waiting writes. A
statement that fails aborts the transaction, and nothing but a rollback is
accepted afterwards.

The store `σ` and the errors `ε` are arbitrary; a program is a state
transformer that keeps the session also when it raises.
-/

namespace UnitOfWork

variable {σ ε α β : Type}

structure Session (σ ε : Type) where
  committed : σ
  view : σ
  unflushed : List (σ → Except ε σ)
  failed : Bool

/-- The error a session raises when it is used after a failed statement. -/
class SessionError (ε : Type) where
  pendingRollback : ε

namespace Session

/-- A session without waiting writes, in a live transaction. -/
abbrev clean (c v : σ) : Session σ ε := ⟨c, v, [], false⟩

/-- A newly opened session on the store `d`. -/
abbrev start (d : σ) : Session σ ε := .clean d d

/-- The session after a statement that was refused. -/
abbrev aborted (c : σ) : Session σ ε := ⟨c, c, [], true⟩

end Session

/-- Programs over a session. -/
structure Tx (σ ε α : Type) where
  run : Session σ ε → Except ε α × Session σ ε

instance : Monad (Tx σ ε) where
  pure a := ⟨fun s => (.ok a, s)⟩
  bind x f := ⟨fun s => match x.run s with
    | (.ok a, s') => (f a).run s'
    | (.error e, s') => (.error e, s')⟩

instance : MonadExceptOf ε (Tx σ ε) where
  throw e := ⟨fun s => (.error e, s)⟩
  tryCatch x h := ⟨fun s => match x.run s with
    | (.ok a, s') => (.ok a, s')
    | (.error e, s') => (h e).run s'⟩

/-- Send a list of writes in order. -/
def applyAll : List (σ → Except ε σ) → σ → Except ε σ
  | [], v => .ok v
  | w :: ws, v => match w v with
    | .ok v' => applyAll ws v'
    | .error e => .error e

section Operations

variable [SessionError ε]

def flush : Tx σ ε Unit := ⟨fun s =>
  if s.failed then (.error SessionError.pendingRollback, s)
  else match applyAll s.unflushed s.view with
    | .ok v => (.ok (), .clean s.committed v)
    | .error e => (.error e, .aborted s.committed)⟩

/-- A `SELECT`: the waiting writes are sent first, then the view is read. -/
def query (f : σ → α) : Tx σ ε α := ⟨fun s => match flush.run s with
  | (.ok _, s') => (.ok (f s'.view), s')
  | (.error e, s') => (.error e, s')⟩

/-- A statement that writes at once, on a mapped class: the waiting writes are sent
first. One on a plain table sends none, which is the same where none wait. -/
def execute (w : σ → Except ε σ) : Tx σ ε Unit := ⟨fun s => match flush.run s with
  | (.ok _, s') => match w s'.view with
    | .ok v => (.ok (), { s' with view := v })
    | .error e => (.error e, .aborted s'.committed)
  | (.error e, s') => (.error e, s')⟩

/-- Hand a write to the unit of work; it is sent by the next flush. -/
def add (w : σ → Except ε σ) : Tx σ ε Unit :=
  ⟨fun s => (.ok (), { s with unflushed := s.unflushed ++ [w] })⟩

def commit : Tx σ ε Unit := ⟨fun s => match flush.run s with
  | (.ok _, s') => (.ok (), { s' with committed := s'.view })
  | (.error e, s') => (.error e, s')⟩

def rollback : Tx σ ε Unit := ⟨fun s => (.ok (), .start s.committed)⟩

/-- Objects of an aborted transaction cannot be read until it is rolled back. -/
def assertLive : Tx σ ε Unit := ⟨fun s =>
  if s.failed then (.error SessionError.pendingRollback, s) else (.ok (), s)⟩

/-- A computation that does not use the session. -/
def lift (r : Except ε α) : Tx σ ε α := ⟨fun s => (r, s)⟩

/-- One request: a new session is opened on the store, and a raise rolls the
session back. What later sessions start from is the committed store. -/
def serve (x : Tx σ ε α) (d : σ) : Except ε α × Session σ ε := match x.run (.start d) with
  | (.ok a, s) => (.ok a, s)
  | (.error e, s) => (.error e, .start s.committed)

/-- The store after a request whose flushed writes are taken as committed when it
succeeds. -/
def settle (x : Tx σ ε α) (d : σ) : σ := match serve x d with
  | (.ok _, s) => s.view
  | (.error _, s) => s.committed

end Operations

/-! ## Running programs -/

theorem serve_of_ok {x : Tx σ ε α} {d : σ} {a : α} {s : Session σ ε}
    (h : x.run (.start d) = (.ok a, s)) : serve x d = (.ok a, s) := by
  rw [serve, h]

theorem serve_of_error {x : Tx σ ε α} {d : σ} {e : ε} {s : Session σ ε}
    (h : x.run (.start d) = (.error e, s)) : serve x d = (.error e, .start s.committed) := by
  rw [serve, h]

/-- A request answers what its program gives. -/
theorem fst_serve (x : Tx σ ε α) (d : σ) : (serve x d).1 = (x.run (.start d)).1 := by
  rw [serve]
  rcases x.run (.start d) with ⟨_ | _, s⟩ <;> rfl

/-- What a request commits does not depend on how it ends. -/
theorem committed_serve (x : Tx σ ε α) (d : σ) :
    (serve x d).2.committed = (x.run (.start d)).2.committed := by
  rw [serve]
  rcases x.run (.start d) with ⟨_ | _, s⟩ <;> rfl

@[simp] theorem run_pure (a : α) (s : Session σ ε) :
    (pure a : Tx σ ε α).run s = (.ok a, s) := rfl

@[simp] theorem run_throw (e : ε) (s : Session σ ε) :
    (throw e : Tx σ ε α).run s = (.error e, s) := rfl

theorem run_bind (x : Tx σ ε α) (f : α → Tx σ ε β) (s : Session σ ε) :
    (x >>= f).run s = match x.run s with
      | (.ok a, s') => (f a).run s'
      | (.error e, s') => (.error e, s') := rfl

theorem bind_bind {γ : Type} (x : Tx σ ε α) (f : α → Tx σ ε β) (g : β → Tx σ ε γ) :
    (x >>= f) >>= g = x >>= fun a => f a >>= g := by
  have hrun : ∀ s, ((x >>= f) >>= g).run s = (x >>= fun a => f a >>= g).run s := by
    intro s
    rw [run_bind, run_bind, run_bind]
    rcases x.run s with ⟨_ | a, s'⟩ <;> rfl
  exact congrArg Tx.mk (funext hrun)

theorem run_tryCatch (x : Tx σ ε α) (h : ε → Tx σ ε α) (s : Session σ ε) :
    (tryCatch x h).run s = match x.run s with
      | (.ok a, s') => (.ok a, s')
      | (.error e, s') => (h e).run s' := rfl

theorem run_bind_ok {x : Tx σ ε α} {s s' : Session σ ε} {a : α} (h : x.run s = (.ok a, s'))
    (f : α → Tx σ ε β) : (x >>= f).run s = (f a).run s' := by
  rw [run_bind, h]

theorem run_bind_error {x : Tx σ ε α} {s s' : Session σ ε} {e : ε}
    (h : x.run s = (.error e, s')) (f : α → Tx σ ε β) :
    (x >>= f).run s = (.error e, s') := by
  rw [run_bind, h]

theorem run_tryCatch_ok {x : Tx σ ε α} {s s' : Session σ ε} {a : α} (h : x.run s = (.ok a, s'))
    (k : ε → Tx σ ε α) : (tryCatch x k).run s = (.ok a, s') := by
  rw [run_tryCatch, h]

theorem run_tryCatch_error {x : Tx σ ε α} {s s' : Session σ ε} {e : ε}
    (h : x.run s = (.error e, s')) (k : ε → Tx σ ε α) :
    (tryCatch x k).run s = (k e).run s' := by
  rw [run_tryCatch, h]

@[simp] theorem run_lift (r : Except ε α) (s : Session σ ε) : (lift r).run s = (r, s) := rfl

@[simp] theorem run_rollback (s : Session σ ε) :
    rollback.run s = (.ok (), .start s.committed) := rfl

section Clean

variable [SessionError ε] (c v : σ)

@[simp] theorem flush_clean :
    flush.run (.clean c v : Session σ ε) = (.ok (), .clean c v) := rfl

@[simp] theorem query_clean (f : σ → α) :
    (query f).run (.clean c v : Session σ ε) = (.ok (f v), .clean c v) := rfl

omit [SessionError ε] in
@[simp] theorem add_clean (w : σ → Except ε σ) :
    (add w).run (.clean c v) = (.ok (), ⟨c, v, [w], false⟩) := rfl

@[simp] theorem commit_clean : commit.run (.clean c v : Session σ ε) = (.ok (), .start v) := rfl

theorem execute_clean_ok {w : σ → Except ε σ} {v' : σ} (h : w v = .ok v') :
    (execute w).run (.clean c v) = (.ok (), .clean c v') := by
  change (match w v with
    | .ok v' => (Except.ok (), Session.clean c v')
    | .error e => (.error e, .aborted c)) = _
  rw [h]

theorem execute_clean_error {w : σ → Except ε σ} {e : ε} (h : w v = .error e) :
    (execute w).run (.clean c v) = (.error e, .aborted c) := by
  change (match w v with
    | .ok v' => (Except.ok (), Session.clean c v')
    | .error e => (.error e, .aborted c)) = _
  rw [h]

/-- One waiting write, and the flush that sends it. -/
theorem flush_one_ok {w : σ → Except ε σ} {v' : σ} (h : w v = .ok v') :
    flush.run (⟨c, v, [w], false⟩ : Session σ ε) = (.ok (), .clean c v') := by
  simp [flush, applyAll, h]

theorem flush_one_error {w : σ → Except ε σ} {e : ε} (h : w v = .error e) :
    flush.run (⟨c, v, [w], false⟩ : Session σ ε) = (.error e, .aborted c) := by
  simp [flush, applyAll, h]

theorem query_one_ok {w : σ → Except ε σ} {v' : σ} (h : w v = .ok v') (f : σ → α) :
    (query f).run (⟨c, v, [w], false⟩ : Session σ ε) = (.ok (f v'), .clean c v') := by
  simp [query, flush_one_ok c v h]

theorem commit_one_ok {w : σ → Except ε σ} {v' : σ} (h : w v = .ok v') :
    commit.run (⟨c, v, [w], false⟩ : Session σ ε) = (.ok (), .start v') := by
  simp [commit, flush_one_ok c v h]

theorem commit_one_error {w : σ → Except ε σ} {e : ε} (h : w v = .error e) :
    commit.run (⟨c, v, [w], false⟩ : Session σ ε) = (.error e, .aborted c) := by
  simp [commit, flush_one_error c v h]

end Clean

/-! ## Programs that leave the commit to their caller

Both are read on a session that has nothing to send and sees the store `d`. -/

section Outcomes

variable {x : Tx σ ε α} {f : α → Tx σ ε β} {d v w : σ} {a : α} {b : β} {e e' : ε}

/-- The program returns `a`, and its session then sees `v`. -/
def Returns (x : Tx σ ε α) (d : σ) (a : α) (v : σ) : Prop :=
  ∀ c, x.run (.clean c d) = (.ok a, .clean c v)

/-- The program raises `e`, and nothing was committed. -/
def Raises (x : Tx σ ε α) (d : σ) (e : ε) : Prop :=
  ∀ c, ∃ s, x.run (.clean c d) = (.error e, s) ∧ s.committed = c

theorem returns_pure (a : α) (d : σ) : Returns (pure a : Tx σ ε α) d a d := fun _ => rfl

theorem raises_throw (e : ε) (d : σ) : Raises (throw e : Tx σ ε α) d e := fun _ => ⟨_, rfl, rfl⟩

theorem Returns.bind (hx : Returns x d a v) (hf : Returns (f a) v b w) :
    Returns (x >>= f) d b w := fun c => by
  rw [run_bind_ok (hx c), hf c]

theorem Returns.bind_raises (hx : Returns x d a v) (hf : Raises (f a) v e) :
    Raises (x >>= f) d e := fun c => by
  rw [run_bind_ok (hx c)]
  exact hf c

theorem Raises.bind (hx : Raises x d e) (f : α → Tx σ ε β) : Raises (x >>= f) d e := fun c => by
  obtain ⟨s, hs, hc⟩ := hx c
  exact ⟨s, run_bind_error hs f, hc⟩

theorem Returns.tryCatch (hx : Returns x d a v) (k : ε → Tx σ ε α) :
    Returns (tryCatch x k) d a v := fun c => run_tryCatch_ok (hx c) k

/-- A handler that only raises another exception. -/
theorem Raises.tryCatch (hx : Raises x d e) {k : ε → Tx σ ε α} (hk : k e = throw e') :
    Raises (tryCatch x k) d e' := fun c => by
  obtain ⟨s, hs, hc⟩ := hx c
  exact ⟨s, by rw [run_tryCatch_error hs, hk, run_throw], hc⟩

theorem Returns.serve (hx : Returns x d a v) : serve x d = (.ok a, .clean d v) := by
  rw [UnitOfWork.serve, hx d]

/-- A program has one outcome. -/
theorem Returns.unique {a' : α} (hx : Returns x d a v) (hx' : Returns x d a' w) :
    a = a' ∧ v = w := by
  have hrun := (hx d).symm.trans (hx' d)
  injection hrun with ha hv
  injection ha with ha
  injection hv with _ hv
  exact ⟨ha, hv⟩

theorem Returns.settle (hx : Returns x d a v) : settle x d = v := by
  rw [UnitOfWork.settle, hx.serve]

theorem Raises.serve (hx : Raises x d e) : serve x d = (.error e, .start d) := by
  obtain ⟨s, hs, hc⟩ := hx d
  rw [UnitOfWork.serve, hs]
  simp [hc]

/-- The program raises, whatever the exception. -/
def Fails (x : Tx σ ε α) (d : σ) : Prop := ∃ e, Raises x d e

theorem Raises.fails (h : Raises x d e) : Fails x d := ⟨e, h⟩

theorem fails_throw (e : ε) (d : σ) : Fails (throw e : Tx σ ε α) d := (raises_throw e d).fails

theorem Fails.bind (hx : Fails x d) (f : α → Tx σ ε β) : Fails (x >>= f) d := by
  obtain ⟨e, he⟩ := hx
  exact (he.bind f).fails

theorem Returns.bind_fails (hx : Returns x d a v) (hf : Fails (f a) v) : Fails (x >>= f) d := by
  obtain ⟨e, he⟩ := hf
  exact (hx.bind_raises he).fails

theorem Fails.tryCatch (hx : Fails x d) {k : ε → Tx σ ε α} (hk : ∀ e, ∃ e', k e = throw e') :
    Fails (tryCatch x k) d := by
  obtain ⟨e, he⟩ := hx
  obtain ⟨e', hk⟩ := hk e
  exact (he.tryCatch hk).fails

theorem Fails.serve (hx : Fails x d) : ∃ e, serve x d = (.error e, .start d) := by
  obtain ⟨e, he⟩ := hx
  exact ⟨e, he.serve⟩

theorem Fails.settle (hx : Fails x d) : settle x d = d := by
  obtain ⟨e, he⟩ := hx.serve
  rw [UnitOfWork.settle, he]

theorem Fails.not_returns (hx : Fails x d) : ¬Returns x d a v := by
  intro h
  obtain ⟨e, he⟩ := hx.serve
  rw [h.serve] at he
  cases he

/-- The program raises and nothing of it is left in the session either. -/
def Reverts (x : Tx σ ε α) (d : σ) : Prop :=
  ∃ e, ∀ c, ∃ s, x.run (.clean c d) = (.error e, s) ∧ (s = .start c ∨ s = .aborted c)

theorem Reverts.fails (hx : Reverts x d) : Fails x d := by
  obtain ⟨e, he⟩ := hx
  refine ⟨e, fun c => ?_⟩
  obtain ⟨s, hs, rfl | rfl⟩ := he c
  · exact ⟨_, hs, rfl⟩
  · exact ⟨_, hs, rfl⟩

theorem Reverts.bind (hx : Reverts x d) (f : α → Tx σ ε β) : Reverts (x >>= f) d := by
  obtain ⟨e, he⟩ := hx
  refine ⟨e, fun c => ?_⟩
  obtain ⟨s, hs, hc⟩ := he c
  exact ⟨s, run_bind_error hs f, hc⟩

theorem Returns.bind_reverts (hx : Returns x d a v) (hf : Reverts (f a) v) :
    Reverts (x >>= f) d := by
  obtain ⟨e, he⟩ := hf
  refine ⟨e, fun c => ?_⟩
  obtain ⟨s, hs, hc⟩ := he c
  exact ⟨s, (run_bind_ok (hx c) f).trans hs, hc⟩

theorem returns_lift {r : Except ε α} (hr : r = .ok a) (d : σ) : Returns (lift r) d a d :=
  fun _ => by rw [run_lift, hr]

theorem fails_lift {r : Except ε α} (hr : ∀ a, r ≠ .ok a) (d : σ) :
    Fails (lift r : Tx σ ε α) d := by
  cases r with
  | ok a => exact absurd rfl (hr a)
  | error e => exact ⟨e, fun _ => ⟨_, rfl, rfl⟩⟩

/-- Either outcome, given as the result of a pure computation. -/
def Yields (x : Tx σ ε α) (d : σ) (r : Except ε α) (v : σ) : Prop :=
  match r with
  | .ok a => Returns x d a v
  | .error e => Raises x d e

theorem Yields.returns {r : Except ε α} (h : Yields x d r v) (hr : r = .ok a) :
    Returns x d a v := by
  subst hr
  exact h

theorem Yields.raises {r : Except ε α} (h : Yields x d r v) (hr : r = .error e) :
    Raises x d e := by
  subst hr
  exact h

theorem Yields.fails {r : Except ε α} (h : Yields x d r v) (hr : ∀ a, r ≠ .ok a) : Fails x d := by
  cases r with
  | error e => exact Raises.fails h
  | ok a => exact absurd rfl (hr a)

/-- A request is answered with the result. -/
theorem Yields.serve_fst {r : Except ε α} (h : Yields x d r v) : (serve x d).1 = r := by
  cases r with
  | error e => rw [Raises.serve h]
  | ok a => rw [Returns.serve h]

theorem yields_of_run {r : Except ε α} (h : ∀ c, x.run (.clean c d) = (r, .clean c v)) :
    Yields x d r v := by
  cases r with
  | error e => exact fun c => ⟨_, h c, rfl⟩
  | ok a => exact h

theorem Returns.bind_yields {r : Except ε β} (hx : Returns x d a v) (hf : Yields (f a) v r w) :
    Yields (x >>= f) d r w := by
  cases r with
  | error e => exact hx.bind_raises hf
  | ok b => exact Returns.bind hx hf

theorem Yields.bind {r : Except ε α} {g : α → Except ε β} (hx : Yields x d r v)
    (hf : ∀ a, r = .ok a → Yields (f a) v (g a) w) : Yields (x >>= f) d (r >>= g) w := by
  cases r with
  | error e => exact Raises.bind hx f
  | ok a => exact Returns.bind_yields hx (hf a rfl)

variable [SessionError ε]

theorem returns_query (g : σ → α) (d : σ) : Returns (query g : Tx σ ε α) d (g d) d := fun _ => rfl

theorem returns_execute {u : σ → Except ε σ} (h : u d = .ok v) : Returns (execute u) d () v :=
  fun c => execute_clean_ok c d h

end Outcomes

end UnitOfWork
