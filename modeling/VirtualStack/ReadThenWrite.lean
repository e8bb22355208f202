import Mathlib.Logic.Function.Basic
import VirtualStack.Runs

/-!
# Concurrent requests that read and then write

Any number of requests work on one store, each in a transaction of its own and
without locks. A request first loads something from the committed store and later
writes and commits on whatever the store is by then. Each of the two steps is taken
at a time of its own.

Some requests look a key up and insert it when it is free. That no key is inserted
twice takes a schedule in which no request finds a key free while another that found
it free has not written yet.
-/

namespace ReadThenWrite
open Runs

variable {ι σ α τ κ : Type}

inductive Phase (α : Type) where
  | start
  | loaded (a : α)
  | done
  deriving DecidableEq

/-- The committed store, and where each request is. -/
structure State (ι σ α : Type) where
  store : σ
  phase : ι → Phase α

def State.init (store : σ) : State ι σ α := ⟨store, fun _ => .start⟩

section Step

variable [DecidableEq ι]

/-- The next step of a request, at a time. -/
def step (load : ι → τ → σ → α) (finish : ι → τ → α → σ → σ) (x : ι × τ) (s : State ι σ α) :
    State ι σ α :=
  match s.phase x.1 with
  | .start => ⟨s.store, Function.update s.phase x.1 (.loaded (load x.1 x.2 s.store))⟩
  | .loaded a => ⟨finish x.1 x.2 a s.store, Function.update s.phase x.1 .done⟩
  | .done => s

variable {load : ι → τ → σ → α} {finish : ι → τ → α → σ → σ} {claim : ι → α → Option κ}
  {s : State ι σ α}

/-- A request that is alone. -/
theorem solo {i : ι} (hs : s.phase i = .start) (t u : τ) :
    (after (step load finish) s [(i, t), (i, u)]).store =
      finish i u (load i t s.store) s.store := by
  simp [step, hs]

/-! ## Keys that are claimed -/

/-- No request claims a key that another one has claimed and not written. -/
def Exclusive (load : ι → τ → σ → α) (claim : ι → α → Option κ) (x : ι × τ)
    (s : State ι σ α) : Prop :=
  s.phase x.1 = .start → ∀ k, claim x.1 (load x.1 x.2 s.store) = some k →
    ∀ j a, s.phase j = .loaded a → claim j a ≠ some k

/-- `Free` and `One` say that a store holds no entry, or at most one, for a key at a
time. A request claims a key that it finds free, and only the request that claims a
key adds an entry for it. -/
structure Disciplined [LE τ] (load : ι → τ → σ → α) (finish : ι → τ → α → σ → σ)
    (claim : ι → α → Option κ) (Free One : κ → τ → σ → Prop) : Prop where
  laterFree : ∀ k t t' s, t ≤ t' → Free k t s → Free k t' s
  laterOne : ∀ k t t' s, t ≤ t' → One k t s → One k t' s
  claims : ∀ i t s k, claim i (load i t s) = some k → Free k t s
  keepsFree : ∀ i t a s k, claim i a ≠ some k → Free k t s → Free k t (finish i t a s)
  keepsOne : ∀ i t a s k, claim i a ≠ some k → One k t s → One k t (finish i t a s)
  writes : ∀ i t a s k, claim i a = some k → Free k t s → One k t (finish i t a s)

/-- A claimed key is free, and claimed by one request. -/
structure Invariant (claim : ι → α → Option κ) (Free One : κ → τ → σ → Prop) (t : τ)
    (s : State ι σ α) : Prop where
  one : ∀ k, One k t s.store
  free : ∀ i a k, s.phase i = .loaded a → claim i a = some k → Free k t s.store
  alone : ∀ i j a b k, s.phase i = .loaded a → s.phase j = .loaded b → claim i a = some k →
    claim j b = some k → i = j

variable [Preorder τ] {Free One : κ → τ → σ → Prop} {t : τ} {i : ι}

omit [DecidableEq ι] in
theorem Invariant.later {t' : τ} (hd : Disciplined load finish claim Free One) (ht : t ≤ t')
    (h : Invariant claim Free One t s) : Invariant claim Free One t' s where
  one k := hd.laterOne k t t' _ ht (h.one k)
  free i a k hp hc := hd.laterFree k t t' _ ht (h.free i a k hp hc)
  alone := h.alone

theorem Invariant.loaded (hd : Disciplined load finish claim Free One)
    (h : Invariant claim Free One t s) (hp : s.phase i = .start)
    (he : Exclusive load claim (i, t) s) : Invariant claim Free One t
      ⟨s.store, Function.update s.phase i (.loaded (load i t s.store))⟩ where
  one := h.one
  free j a k hj hc := by
    by_cases hji : j = i
    · subst hji
      simp only [Function.update_self, Phase.loaded.injEq] at hj
      subst hj
      exact hd.claims j t s.store k hc
    · simp only [Function.update_of_ne hji] at hj
      exact h.free j a k hj hc
  alone j j' a b k hj hj' hc hc' := by
    by_cases hji : j = i <;> by_cases hji' : j' = i
    · exact hji.trans hji'.symm
    · subst hji
      simp only [Function.update_self, Phase.loaded.injEq, Function.update_of_ne hji'] at hj hj'
      subst hj
      exact absurd hc' (he hp k hc j' b hj')
    · subst hji'
      simp only [Function.update_self, Phase.loaded.injEq, Function.update_of_ne hji] at hj hj'
      subst hj'
      exact absurd hc (he hp k hc' j a hj)
    · simp only [Function.update_of_ne hji, Function.update_of_ne hji'] at hj hj'
      exact h.alone j j' a b k hj hj' hc hc'

theorem Invariant.finished {a : α} (hd : Disciplined load finish claim Free One)
    (h : Invariant claim Free One t s) (hp : s.phase i = .loaded a) : Invariant claim Free One t
      ⟨finish i t a s.store, Function.update s.phase i .done⟩ where
  one k := by
    by_cases hc : claim i a = some k
    · exact hd.writes i t a s.store k hc (h.free i a k hp hc)
    · exact hd.keepsOne i t a s.store k hc (h.one k)
  free j b k hj hc := by
    by_cases hji : j = i
    · subst hji
      simp at hj
    · simp only [Function.update_of_ne hji] at hj
      -- another request has claimed the key, so it is not the one that is written
      refine hd.keepsFree i t a s.store k (fun hc' => ?_) (h.free j b k hj hc)
      exact hji (h.alone j i b a k hj hp hc hc')
  alone j j' b b' k hj hj' hc hc' := by
    by_cases hji : j = i
    · subst hji
      simp at hj
    · by_cases hji' : j' = i
      · subst hji'
        simp at hj'
      · simp only [Function.update_of_ne hji, Function.update_of_ne hji'] at hj hj'
        exact h.alone j j' b b' k hj hj' hc hc'

theorem Invariant.step {x : ι × τ} (hd : Disciplined load finish claim Free One)
    (h : Invariant claim Free One x.2 s) (he : Exclusive load claim x s) :
    Invariant claim Free One x.2 (step load finish x s) := by
  obtain ⟨i, t⟩ := x
  rw [ReadThenWrite.step]
  cases hp : s.phase i with
  | start => exact h.loaded hd hp he
  | loaded a => exact h.finished hd hp
  | done => exact h

omit [DecidableEq ι] [Preorder τ] in
theorem invariant_init {store : σ} (hs : ∀ k, One k t store) :
    Invariant claim Free One t (State.init store : State ι σ α) where
  one := hs
  free _ _ _ hp := by cases hp
  alone _ _ _ _ _ hp := by cases hp

/-- In an exclusive schedule no key gets a second entry. -/
theorem one_of_exclusive {u : τ} {store : σ} {steps : List (ι × τ)}
    (hd : Disciplined load finish claim Free One) (hs : ∀ k, One k t store)
    (he : Along (step load finish) (Exclusive load claim) (State.init store) steps)
    (hsorted : steps.Pairwise fun x y => x.2 ≤ y.2) (hfrom : ∀ x ∈ steps, t ≤ x.2)
    (huntil : ∀ x ∈ steps, x.2 ≤ u) (htu : t ≤ u) (k : κ) :
    One k u (after (step load finish) (State.init store) steps).store := by
  have hinv : Invariant claim Free One u (after (step load finish) (State.init store) steps) :=
    he.clock (I := Invariant claim Free One) (fun _ _ _ ht h => h.later hd ht)
      (fun _ _ he h => h.step hd he) hsorted hfrom huntil htu (invariant_init hs)
  exact hinv.one k

end Step

/-! ## Entries that are counted -/

section Counted

variable {load : ι → τ → σ → α} {finish : ι → τ → α → σ → σ} {claim : ι → α → Option κ}
  {count : κ → σ → ℕ} {ready : ι → σ → Prop} {s : State ι σ α} {k : κ} {i j : ι} {x : ι × τ}

/-- `count` says how many entries a store has for a key. A request claims a key of which
there is none, and adds one entry for it if it is ready; nothing else changes a count. -/
structure Counted (load : ι → τ → σ → α) (finish : ι → τ → α → σ → σ) (claim : ι → α → Option κ)
    (count : κ → σ → ℕ) (ready : ι → σ → Prop) : Prop where
  claims : ∀ i t s k, claim i (load i t s) = some k → count k s = 0
  keeps : ∀ i t a s k, claim i a ≠ some k → count k (finish i t a s) = count k s
  atMost : ∀ i t a s k, claim i a = some k → count k (finish i t a s) ≤ count k s + 1
  adds : ∀ i t a s k, ready i s → claim i a = some k → count k (finish i t a s) = count k s + 1
  keepsReady : ∀ i j t a s, j ≠ i → ready j s → ready j (finish i t a s)

theorem Counted.disciplined [LE τ] (h : Counted load finish claim count ready) :
    Disciplined load finish claim (fun k _ s => count k s = 0) (fun k _ s => count k s ≤ 1) where
  laterFree _ _ _ _ _ hfree := hfree
  laterOne _ _ _ _ _ hone := hone
  claims i t s k hc := h.claims i t s k hc
  keepsFree i t a s k hc hfree := (h.keeps i t a s k hc).trans hfree
  keepsOne i t a s k hc hone := (h.keeps i t a s k hc).trans_le hone
  writes i t a s k hc hfree := by
    have hle := h.atMost i t a s k hc
    rw [hfree] at hle
    exact hle

/-- Everybody who has not written yet is ready to. -/
def AllReady (ready : ι → σ → Prop) (s : State ι σ α) : Prop :=
  ∀ i, s.phase i ≠ .done → ready i s.store

variable [DecidableEq ι]

theorem AllReady.step (h : Counted load finish claim count ready) (hr : AllReady ready s) :
    AllReady ready (step load finish x s) := by
  obtain ⟨i, t⟩ := x
  rw [ReadThenWrite.step]
  cases hp : s.phase i with
  | start =>
    intro j hj
    refine hr j fun hdone => ?_
    have hji : j ≠ i := by
      rintro rfl
      rw [hp] at hdone
      cases hdone
    exact hj ((Function.update_of_ne hji _ _).trans hdone)
  | loaded a =>
    intro j hj
    have hji : j ≠ i := by
      rintro rfl
      exact hj (Function.update_self ..)
    exact h.keepsReady i j t a s.store hji
      (hr j fun hdone => hj ((Function.update_of_ne hji _ _).trans hdone))
  | done => exact hr

variable [DecidableEq κ]

/-- Whether a request has claimed the key and not written yet. -/
def waiting (claim : ι → α → Option κ) (k : κ) (i : ι) (s : State ι σ α) : Bool :=
  match s.phase i with
  | .loaded a => claim i a = some k
  | _ => false

theorem waiting_step_of_ne (hij : i ≠ x.1) :
    waiting claim k i (step load finish x s) = waiting claim k i s := by
  obtain ⟨j, t⟩ := x
  rw [step]
  cases hp : s.phase j with
  | start | loaded a => simp only [waiting, Function.update_of_ne hij]
  | done => rfl

/-- A step stores the entry that it has claimed, if any. -/
theorem count_step (h : Counted load finish claim count ready) (hr : AllReady ready s) :
    count k (step load finish x s).store =
      count k s.store + (waiting claim k x.1 s).toNat := by
  obtain ⟨i, t⟩ := x
  rw [step, waiting]
  cases hp : s.phase i with
  | start | done => rfl
  | loaded a =>
    have hready : ready i s.store := hr i (by rw [hp]; simp)
    by_cases hc : claim i a = some k
    · simpa [hc] using h.adds i t a s.store k hready hc
    · simpa [hc] using h.keeps i t a s.store k hc

/-- The entries for a key, with those that two requests are about to add. -/
def promised (claim : ι → α → Option κ) (count : κ → σ → ℕ) (k : κ) (i j : ι)
    (s : State ι σ α) : ℕ :=
  count k s.store + (waiting claim k i s).toNat + (waiting claim k j s).toNat

theorem promised_step (h : Counted load finish claim count ready) (hr : AllReady ready s)
    (hij : i ≠ j) :
    promised claim count k i j s ≤ promised claim count k i j (step load finish x s) := by
  rw [promised, promised, count_step h hr]
  by_cases hi : i = x.1
  · rw [waiting_step_of_ne fun hj => hij (hi.trans hj.symm), hi]
    omega
  · rw [waiting_step_of_ne hi]
    by_cases hj : j = x.1
    · rw [hj]
      omega
    · rw [waiting_step_of_ne hj]
      omega

/-- Two requests that have claimed one key add two entries for it. -/
theorem two_of_promised {steps : List (ι × τ)} (h : Counted load finish claim count ready)
    (hr : AllReady ready s) (hij : i ≠ j) (htwo : 2 ≤ promised claim count k i j s)
    (hdone : ∀ i a, (after (step load finish) s steps).phase i ≠ .loaded a) :
    2 ≤ count k (after (step load finish) s steps).store := by
  have hinv : AllReady ready (after (step load finish) s steps) ∧
      2 ≤ promised claim count k i j (after (step load finish) s steps) := after_invariant
    (I := fun s => AllReady ready s ∧ 2 ≤ promised claim count k i j s)
    (fun x s hs => ⟨hs.1.step h, Nat.le_trans hs.2 (promised_step h hs.1 hij)⟩) ⟨hr, htwo⟩ steps
  have hnone : ∀ i, waiting claim k i (after (step load finish) s steps) = false := by
    intro i
    rw [waiting]
    cases hp : (after (step load finish) s steps).phase i with
    | start | done => rfl
    | loaded a => exact absurd hp (hdone i a)
  have hend := hinv.2
  rw [promised, hnone i, hnone j] at hend
  exact hend

/-- When all requests that have begun have ended, every key has at most one entry exactly
when no request claimed a key that another one had claimed and not written. -/
theorem one_iff_exclusive [Preorder τ] {store : σ} {steps : List (ι × τ)}
    (h : Counted load finish claim count ready) (hr : ∀ i, ready i store)
    (hone : ∀ k, count k store ≤ 1) (hsorted : steps.Pairwise fun x y => x.2 ≤ y.2) {t u : τ}
    (hfrom : ∀ x ∈ steps, t ≤ x.2) (huntil : ∀ x ∈ steps, x.2 ≤ u) (htu : t ≤ u)
    (hdone : ∀ i a, (after (step load finish) (State.init store) steps).phase i ≠ .loaded a) :
    (∀ k, count k (after (step load finish) (State.init store) steps).store ≤ 1) ↔
      Along (step load finish) (Exclusive load claim) (State.init store) steps := by
  constructor
  · intro hend
    refine along_iff.mpr fun pre x post hsteps hp k hc j a hj hc' => ?_
    subst hsteps
    have hready : AllReady ready (after (step load finish) (State.init store) pre) :=
      after_invariant (fun _ _ hs => hs.step h) (fun i _ => hr i) pre
    have hxj : x.1 ≠ j := by
      rintro rfl
      rw [hp] at hj
      cases hj
    -- both have claimed the key after this step
    have htwo : 2 ≤ promised claim count k x.1 j
        (step load finish x (after (step load finish) (State.init store) pre)) := by
      have hx : waiting claim k x.1
          (step load finish x (after (step load finish) (State.init store) pre)) = true := by
        simp [waiting, step, hp, hc]
      have hw : waiting claim k j (after (step load finish) (State.init store) pre) = true := by
        simp [waiting, hj, hc']
      rw [promised, hx, waiting_step_of_ne hxj.symm, hw]
      exact Nat.le_add_left 2 _
    rw [after_append, after_cons] at hdone hend
    have hmany := two_of_promised h (hready.step h) hxj htwo hdone
    exact absurd (hend k) (Nat.not_le_of_lt hmany)
  · exact fun he k => one_of_exclusive h.disciplined hone he hsorted hfrom huntil htu k

end Counted
end ReadThenWrite
