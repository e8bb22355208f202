import Mathlib.Data.List.Forall2
import VirtualStack.SessionLogic

/-!
# Two runs compared

A relation on stores is carried to the sessions of two runs, and `Related E R x y`
says that programs started in related sessions come to the same kind of outcome,
related by `R` when they return, and leave related sessions. `Respects E x` is the
case of one program and equal results. With the diagonal of a property as the
relation this is an invariant of one run.
-/

namespace UnitOfWork

variable {σ ε α β γ δ : Type}

/-- Both return, and related values, or both raise the same error. -/
inductive SameOutcome (R : α → β → Prop) : Except ε α → Except ε β → Prop
  | ok {a : α} {b : β} (h : R a b) : SameOutcome R (.ok a) (.ok b)
  | error (e : ε) : SameOutcome R (.error e) (.error e)

theorem SameOutcome.refl {R : α → α → Prop} (h : ∀ a, R a a) (r : Except ε α) :
    SameOutcome R r r := by
  cases r with
  | ok a => exact .ok (h a)
  | error e => exact .error e

/-- Whether it returns is the same on both sides. -/
theorem SameOutcome.ok_iff {R : α → β → Prop} {r : Except ε α} {q : Except ε β}
    (h : SameOutcome R r q) : (∃ a, r = .ok a) ↔ ∃ b, q = .ok b := by
  cases h <;> simp

variable {E : σ → σ → Prop}

/-- Two statements that take related stores to related stores. -/
def RelatedWrites (E : σ → σ → Prop) (w u : σ → Except ε σ) : Prop :=
  ∀ v v', E v v' → SameOutcome E (w v) (u v')

structure Session.Related (E : σ → σ → Prop) (s t : Session σ ε) : Prop where
  committed : E s.committed t.committed
  view : E s.view t.view
  unflushed : List.Forall₂ (RelatedWrites E) s.unflushed t.unflushed
  failed : s.failed = t.failed

theorem Session.related_clean {c c' v v' : σ} (hc : E c c') (hv : E v v') :
    (Session.clean c v : Session σ ε).Related E (.clean c' v') := ⟨hc, hv, .nil, rfl⟩

theorem Session.related_aborted {c c' : σ} (hc : E c c') :
    (Session.aborted c : Session σ ε).Related E (.aborted c') := ⟨hc, hc, .nil, rfl⟩

def Related (E : σ → σ → Prop) (R : α → β → Prop) (x : Tx σ ε α) (y : Tx σ ε β) : Prop :=
  ∀ s t, s.Related E t →
    SameOutcome R (x.run s).1 (y.run t).1 ∧ (x.run s).2.Related E (y.run t).2

/-- Related sessions make no difference to the program. -/
abbrev Respects (E : σ → σ → Prop) (x : Tx σ ε α) : Prop := Related E Eq x x

/-! ## Composition -/

section Composition

variable {R : α → β → Prop} {S : γ → δ → Prop}

theorem related_pure {a : α} {b : β} (h : R a b) :
    Related E R (pure a : Tx σ ε α) (pure b) := fun _ _ hs => ⟨.ok h, hs⟩

theorem related_throw (e : ε) : Related E R (throw e : Tx σ ε α) (throw e) :=
  fun _ _ hs => ⟨.error e, hs⟩

theorem related_lift {r : Except ε α} {q : Except ε β} (h : SameOutcome R r q) :
    Related E R (lift r : Tx σ ε α) (lift q) := fun _ _ hs => ⟨h, hs⟩

theorem Related.mono {R' : α → β → Prop} {x : Tx σ ε α} {y : Tx σ ε β} (h : Related E R x y)
    (hR : ∀ a b, R a b → R' a b) : Related E R' x y := by
  intro s t hs
  obtain ⟨hr, hs'⟩ := h s t hs
  refine ⟨?_, hs'⟩
  generalize (x.run s).1 = r at hr ⊢
  generalize (y.run t).1 = q at hr ⊢
  cases hr with
  | ok hab => exact .ok (hR _ _ hab)
  | error e => exact .error e

theorem Related.bind {x : Tx σ ε α} {y : Tx σ ε β} {f : α → Tx σ ε γ} {g : β → Tx σ ε δ}
    (h : Related E R x y) (hf : ∀ a b, R a b → Related E S (f a) (g b)) :
    Related E S (x >>= f) (y >>= g) := by
  intro s t hs
  obtain ⟨hr, hs'⟩ := h s t hs
  rw [run_bind, run_bind]
  generalize x.run s = r at hr hs' ⊢
  generalize y.run t = q at hr hs' ⊢
  obtain ⟨r, s'⟩ := r
  obtain ⟨q, t'⟩ := q
  cases hr with
  | ok hab => exact hf _ _ hab s' t' hs'
  | error e => exact ⟨.error e, hs'⟩

theorem Related.tryCatch {x : Tx σ ε α} {y : Tx σ ε β} {k : ε → Tx σ ε α} {l : ε → Tx σ ε β}
    (h : Related E R x y) (hk : ∀ e, Related E R (k e) (l e)) :
    Related E R (tryCatch x k) (tryCatch y l) := by
  intro s t hs
  obtain ⟨hr, hs'⟩ := h s t hs
  rw [run_tryCatch, run_tryCatch]
  generalize x.run s = r at hr hs' ⊢
  generalize y.run t = q at hr hs' ⊢
  obtain ⟨r, s'⟩ := r
  obtain ⟨q, t'⟩ := q
  cases hr with
  | ok hab => exact ⟨.ok hab, hs'⟩
  | error e => exact hk e s' t' hs'

end Composition

theorem respects_pure (a : α) : Respects E (pure a : Tx σ ε α) := related_pure rfl

theorem respects_throw (e : ε) : Respects E (throw e : Tx σ ε α) := related_throw e

theorem respects_lift (r : Except ε α) : Respects E (lift r : Tx σ ε α) :=
  related_lift (.refl (fun _ => rfl) r)

theorem Respects.bind {S : γ → δ → Prop} {x : Tx σ ε α} {f : α → Tx σ ε γ} {g : α → Tx σ ε δ}
    (h : Respects E x) (hf : ∀ a, Related E S (f a) (g a)) :
    Related E S (x >>= f) (x >>= g) :=
  Related.bind h fun a b hab => by
    subst hab
    exact hf a

theorem respects_lift_bind {r : Except ε α} {f : α → Tx σ ε γ}
    (hf : ∀ a, r = .ok a → Respects E (f a)) : Respects E (lift r >>= f) := by
  cases r with
  | ok a => exact hf a rfl
  | error e => exact respects_throw e

/-! ## Session operations -/

theorem related_rollback : Respects E (rollback : Tx σ ε Unit) :=
  fun _ _ hs => ⟨.ok rfl, Session.related_clean hs.committed hs.committed⟩

theorem related_add {w u : σ → Except ε σ} (h : RelatedWrites E w u) :
    Related E Eq (add w) (add u) := fun _ _ hs =>
  ⟨.ok rfl, hs.committed, hs.view, List.rel_append hs.unflushed (.cons h .nil), hs.failed⟩

theorem related_applyAll {ws us : List (σ → Except ε σ)}
    (h : List.Forall₂ (RelatedWrites E) ws us) : RelatedWrites E (applyAll ws) (applyAll us) := by
  induction h with
  | nil => exact fun _ _ hv => .ok hv
  | @cons w u ws us hw _ ih =>
    intro v v' hv
    rw [applyAll, applyAll]
    have h₁ := hw v v' hv
    generalize w v = r at h₁ ⊢
    generalize u v' = q at h₁ ⊢
    cases h₁ with
    | ok hvw => exact ih _ _ hvw
    | error e => exact .error e

section Flushing

variable [SessionError ε] {s t : Session σ ε}

theorem respects_assertLive : Respects E (assertLive : Tx σ ε Unit) := by
  intro s t hs
  rw [assertLive]
  dsimp only
  rw [hs.failed]
  split_ifs
  · exact ⟨.error _, hs⟩
  · exact ⟨.ok rfl, hs⟩

/-- A flush is refused in both sessions or in neither. -/
theorem related_flush_cases (hs : s.Related E t) :
    (∃ e s' t', flush.run s = (.error e, s') ∧ flush.run t = (.error e, t') ∧ s'.Related E t') ∨
    ∃ v v', E v v' ∧ flush.run s = (.ok (), .clean s.committed v) ∧
      flush.run t = (.ok (), .clean t.committed v') := by
  rw [flush]
  dsimp only
  rw [hs.failed]
  split_ifs
  · exact .inl ⟨_, s, t, rfl, rfl, hs⟩
  · have h := related_applyAll hs.unflushed _ _ hs.view
    generalize applyAll s.unflushed s.view = r at h ⊢
    generalize applyAll t.unflushed t.view = q at h ⊢
    cases h with
    | ok hv => exact .inr ⟨_, _, hv, rfl, rfl⟩
    | error e => exact .inl ⟨e, _, _, rfl, rfl, Session.related_aborted hs.committed⟩

theorem respects_flush : Respects E (flush : Tx σ ε Unit) := by
  intro s t hs
  obtain ⟨e, s', t', h, h', hs'⟩ | ⟨v, v', hv, h, h'⟩ := related_flush_cases hs <;> rw [h, h']
  · exact ⟨.error e, hs'⟩
  · exact ⟨.ok rfl, Session.related_clean hs.committed hv⟩

theorem respects_commit : Respects E (commit : Tx σ ε Unit) := by
  intro s t hs
  rw [commit]
  dsimp only
  obtain ⟨e, s', t', h, h', hs'⟩ | ⟨v, v', hv, h, h'⟩ := related_flush_cases hs <;> rw [h, h']
  · exact ⟨.error e, hs'⟩
  · exact ⟨.ok rfl, Session.related_clean hv hv⟩

theorem related_query {R : α → β → Prop} {f : σ → α} {g : σ → β}
    (h : ∀ v v', E v v' → R (f v) (g v')) :
    Related E R (query f : Tx σ ε α) (query g) := by
  intro s t hs
  rw [query, query]
  dsimp only
  obtain ⟨e, s', t', hf, hf', hs'⟩ | ⟨v, v', hv, hf, hf'⟩ := related_flush_cases hs <;>
    rw [hf, hf']
  · exact ⟨.error e, hs'⟩
  · exact ⟨.ok (h v v' hv), Session.related_clean hs.committed hv⟩

theorem related_execute {w u : σ → Except ε σ} (hw : RelatedWrites E w u) :
    Related E Eq (execute w) (execute u) := by
  intro s t hs
  rw [execute, execute]
  dsimp only
  obtain ⟨e, s', t', hf, hf', hs'⟩ | ⟨v, v', hv, hf, hf'⟩ := related_flush_cases hs <;>
    rw [hf, hf']
  · exact ⟨.error e, hs'⟩
  · dsimp only
    have h := hw v v' hv
    generalize w v = r at h ⊢
    generalize u v' = q at h ⊢
    cases h with
    | ok hvw => exact ⟨.ok rfl, Session.related_clean hs.committed hvw⟩
    | error e => exact ⟨.error e, Session.related_aborted hs.committed⟩

end Flushing

/-! ## Requests -/

section Requests

variable {R : α → β → Prop} {x : Tx σ ε α} {y : Tx σ ε β} {d d' : σ}

theorem Related.serve (h : Related E R x y) (hd : E d d') :
    SameOutcome R (serve x d).1 (serve y d').1 := by
  have hr := (h (.start d) (.start d') (Session.related_clean hd hd)).1
  rw [UnitOfWork.serve, UnitOfWork.serve]
  generalize x.run (.start d) = r at hr ⊢
  generalize y.run (.start d') = q at hr ⊢
  obtain ⟨r, s⟩ := r
  obtain ⟨q, t⟩ := q
  cases hr with
  | ok hab => exact .ok hab
  | error e => exact .error e

theorem Related.settle (h : Related E R x y) (hd : E d d') :
    E (settle x d) (settle y d') := by
  obtain ⟨hr, hs⟩ := h (.start d) (.start d') (Session.related_clean hd hd)
  rw [UnitOfWork.settle, UnitOfWork.settle, UnitOfWork.serve, UnitOfWork.serve]
  generalize x.run (.start d) = r at hr hs ⊢
  generalize y.run (.start d') = q at hr hs ⊢
  obtain ⟨r, s⟩ := r
  obtain ⟨q, t⟩ := q
  cases hr with
  | ok hab => exact hs.view
  | error e => exact hs.committed

/-- The invariant of one run. -/
theorem Respects.keeps {I : σ → Prop} (h : Respects (fun v v' => v = v' ∧ I v) x) (hd : I d) :
    I (settle x d) := (h.settle ⟨rfl, hd⟩).2

end Requests

end UnitOfWork
