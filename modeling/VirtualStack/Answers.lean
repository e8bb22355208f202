import VirtualStack.SessionLogic

/-!
# What a program answers

A property of the answers of a program, given what is known of the session it is run in.
It is shown from the parts of the program: an answer comes out of the last step, and none
at all out of a step that throws.
-/

namespace UnitOfWork

variable {σ ε α β : Type} {S T : Session σ ε → Prop} {P : α → Prop} {Q : β → Prop}
  {x : Tx σ ε α} {f : α → Tx σ ε β} {I : σ → Prop} {c d v : σ}

/-- In every session of this kind, an answer has the property. -/
def Replies (S : Session σ ε → Prop) (P : α → Prop) (x : Tx σ ε α) : Prop :=
  ∀ s, S s → ∀ a s', x.run s = (.ok a, s') → P a

/-- In every session at all. -/
abbrev RepliesEver (P : α → Prop) (x : Tx σ ε α) : Prop := Replies (fun _ => True) P x

/-- In the session that has committed `c` and sees `v`. -/
abbrev RepliesAt (c v : σ) (P : α → Prop) (x : Tx σ ε α) : Prop := Replies (· = .clean c v) P x

theorem Replies.mono (h : Replies T P x) (hST : ∀ s, S s → T s) : Replies S P x :=
  fun s hs => h s (hST s hs)

theorem Replies.imp {P' : α → Prop} (h : Replies S P x) (hP : ∀ a, P a → P' a) :
    Replies S P' x := fun s hs a s' ha => hP a (h s hs a s' ha)

theorem Replies.ever (h : RepliesEver P x) : Replies S P x := h.mono fun _ _ => trivial

theorem Replies.at_of_inv (h : Replies (Session.Inv I) P x) (hc : I c) (hv : I v) :
    RepliesAt c v P x := h.mono fun s hs => by
  rw [hs]
  exact Session.inv_clean hc hv

/-- What a request is answered. -/
theorem Replies.serve (h : RepliesAt d d P x) {a : α} (ha : (serve x d).1 = .ok a) : P a := by
  rw [fst_serve] at ha
  exact h _ rfl a (x.run (.start d)).2 (Prod.ext ha rfl)

section Steps

theorem replies_throw (e : ε) : Replies S P (throw e : Tx σ ε α) := fun _ _ _ _ h => by cases h

theorem replies_pure {a : α} (h : P a) : Replies S P (pure a : Tx σ ε α) := by
  intro s _ b s' hb
  cases hb
  exact h

theorem replies_lift_bind {r : Except ε α} (hf : ∀ a, r = .ok a → Replies S Q (f a)) :
    Replies S Q (lift r >>= f) := by
  cases r with
  | error e => exact replies_throw e
  | ok a => exact hf a rfl

/-- An answer is made by the last step, in the session that the first one leaves. -/
theorem Replies.bind_of (hx : Replies S P x) (hleft : ∀ s, S s → T (x.run s).2)
    (hf : ∀ a, P a → Replies T Q (f a)) : Replies S Q (x >>= f) := by
  intro s hs b s' hb
  have hT := hleft s hs
  rw [run_bind] at hb
  cases hr : x.run s with
  | mk r s₁ =>
    rw [hr] at hb hT
    cases r with
    | error e => cases hb
    | ok a => exact hf a (hx s hs a s₁ hr) s₁ hT b s' hb

theorem Replies.bind (hf : ∀ a, RepliesEver Q (f a)) : Replies S Q (x >>= f) :=
  Replies.bind_of (P := fun _ => True) (fun _ _ _ _ _ => trivial) (fun _ _ => trivial)
    fun a _ => hf a

theorem Replies.bind_pure (hx : Replies S P x) {g : α → β} (hg : ∀ a, P a → Q (g a)) :
    Replies S Q (x >>= fun a => pure (g a)) :=
  hx.bind_of (T := fun _ => True) (fun _ _ => trivial) fun a ha => replies_pure (hg a ha)

/-- Of something looked up, when nothing is answered where nothing is found. -/
theorem Replies.bind_found {x : Tx σ ε (Option α)} {g : Option α → Tx σ ε β}
    (hx : Replies S (fun found => ∀ a ∈ found, P a) x) (hnone : RepliesEver Q (g none))
    (hsome : ∀ a, P a → RepliesEver Q (g (some a))) : Replies S Q (x >>= g) := by
  refine hx.bind_of (T := fun _ => True) (fun _ _ => trivial) fun found hfound => ?_
  cases found with
  | none => exact hnone
  | some a => exact hsome a (hfound a rfl)

/-- The answer is that of the body, or that of the handler. -/
theorem Replies.tryCatch {k : ε → Tx σ ε α} (hx : Replies S P x)
    (hk : ∀ e, RepliesEver P (k e)) : Replies S P (tryCatch x k) := by
  intro s hs a s' ha
  rw [run_tryCatch] at ha
  cases hr : x.run s with
  | mk r s₁ =>
    rw [hr] at ha
    cases r with
    | error e => exact hk e s₁ trivial a s' ha
    | ok b =>
      cases ha
      exact hx s hs _ _ hr

end Steps

section Outcomes

theorem Returns.replies {a : α} (hx : Returns x d a v) (ha : P a) : RepliesAt c d P x := by
  rintro _ rfl b s hb
  rw [hx c] at hb
  cases hb
  exact ha

theorem Fails.replies (hx : Fails x d) : RepliesAt c d P x := by
  obtain ⟨e, he⟩ := hx
  rintro _ rfl a s ha
  obtain ⟨s', hs, -⟩ := he c
  rw [hs] at ha
  cases ha

theorem Returns.bind_replies {a : α} (hx : Returns x d a v) (hf : RepliesAt c v Q (f a)) :
    RepliesAt c d Q (x >>= f) := by
  rintro _ rfl b s hb
  rw [run_bind_ok (hx c)] at hb
  exact hf _ rfl b s hb

theorem Yields.replies {r : Except ε α} (hx : Yields x d r v) (ha : ∀ a, r = .ok a → P a) :
    RepliesAt c d P x := by
  cases r with
  | error e => exact (Raises.fails hx).replies
  | ok a => exact Returns.replies hx (ha a rfl)

theorem Yields.bind_replies {r : Except ε α} (hx : Yields x d r v)
    (hf : ∀ a, r = .ok a → RepliesAt c v Q (f a)) : RepliesAt c d Q (x >>= f) := by
  cases r with
  | error e => exact (Raises.bind hx f).fails.replies
  | ok a => exact Returns.bind_replies hx (hf a rfl)

theorem replies_of_run {s s' : Session σ ε} {a : α} (hx : x.run s = (.ok a, s')) (ha : P a) :
    Replies (· = s) P x := by
  rintro _ rfl b s'' hb
  rw [hx] at hb
  cases hb
  exact ha

theorem replies_of_serve {a : α} (hx : (serve x d).1 = .ok a) (ha : P a) : RepliesAt d d P x := by
  rw [fst_serve] at hx
  exact replies_of_run (Prod.ext hx rfl) ha

theorem Replies.run_bind {s s' : Session σ ε} {a : α} (hf : Replies (· = s') Q (f a))
    (hx : x.run s = (.ok a, s')) : Replies (· = s) Q (x >>= f) := by
  rintro _ rfl b s'' hb
  rw [run_bind_ok hx] at hb
  exact hf s' rfl b s'' hb

/-- A program that runs on like another one in another session answers as this does. -/
theorem Replies.of_run {y : Tx σ ε α} {s s' : Session σ ε} (hy : Replies (· = s') P y)
    (h : x.run s = y.run s') : Replies (· = s) P x := by
  rintro _ rfl a s'' ha
  rw [h] at ha
  exact hy s' rfl a s'' ha

theorem run_bind_congr {y : Tx σ ε α} {s s' : Session σ ε} (h : x.run s = y.run s')
    (f : α → Tx σ ε β) : (x >>= f).run s = (y >>= f).run s' := by
  rw [run_bind, run_bind, h]

end Outcomes

section Queries

variable [SessionError ε]

theorem replies_query {g : σ → α} (h : ∀ v, I v → P (g v)) :
    Replies (Session.Inv I) P (query g : Tx σ ε α) := by
  intro s hs a s' ha
  rw [query] at ha
  dsimp only at ha
  obtain ⟨e, he⟩ | ⟨e, he⟩ | ⟨v, hv, hflush⟩ := flush_cases hs
  · rw [he] at ha
    cases ha
  · rw [he] at ha
    cases ha
  · rw [hflush] at ha
    cases ha
    exact h v hv

theorem repliesEver_query {g : σ → α} (h : ∀ v, P (g v)) : RepliesEver P (query g : Tx σ ε α) :=
  (replies_query (I := fun _ => True) fun v _ => h v).mono
    fun _ _ => ⟨trivial, trivial, fun _ _ _ => trivial⟩

/-- What is found among the rows has what was asked for. -/
theorem replies_find (rows : σ → List α) (p : α → Prop) [DecidablePred p] :
    RepliesEver (fun found => ∀ a ∈ found, p a)
      (query fun v => (rows v).find? (p ·) : Tx σ ε (Option α)) := by
  refine repliesEver_query fun v a ha => ?_
  have hp := List.find?_some (Option.mem_def.mp ha)
  exact of_decide_eq_true hp

end Queries

end UnitOfWork
