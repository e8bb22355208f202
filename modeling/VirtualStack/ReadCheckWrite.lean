import Mathlib.Logic.Function.Basic
import VirtualStack.Runs

/-!
# Concurrent requests that read, check and write one row

Any number of requests work on one stored row, each in a transaction of its own
and without locks. A request reads the committed row, decides from what it read
whether to answer at once or to write, writes the columns it names, commits and
reads the row back. A schedule is the list of the requests that take the next
step.

Nothing in this keeps two requests from deciding on the same row. What rules it
out is a schedule in which nobody reads while another request is about to write.
-/

namespace ReadCheckWrite

open Runs

variable {ι ρ α : Type}

/-- What a request does after it has read the row. A write names the columns that
it sets and what is returned for the row read back. -/
inductive Decision (ρ α : Type) where
  | answer (a : α)
  | write (f : ρ → ρ) (result : ρ → α)

inductive Phase (ρ α : Type) where
  | start
  | loaded (x : ρ)
  | decided (f : ρ → ρ) (result : ρ → α)
  | written (f : ρ → ρ) (result : ρ → α)
  | committed (result : ρ → α)
  | returned (a : α)
  | answered (a : α)

/-- The committed row, and where each request is. -/
structure State (ι ρ α : Type) where
  row : ρ
  phase : ι → Phase ρ α

/-- Nobody has done anything yet. -/
def State.init (row : ρ) : State ι ρ α := ⟨row, fun _ => .start⟩

/-- The request has written and committed. -/
def Phase.Moved : Phase ρ α → Prop
  | committed _ => True
  | returned _ => True
  | _ => False

/-- The request may still write. -/
def Phase.Open (fresh : ρ → Prop) : Phase ρ α → Prop
  | loaded x => fresh x
  | decided _ _ => True
  | written _ _ => True
  | _ => False

section Step

variable [DecidableEq ι] (requests : ι → ρ → Decision ρ α)

/-- The next step of a request. Only a commit changes the row. -/
def step (i : ι) (s : State ι ρ α) : State ι ρ α :=
  match s.phase i with
  | .start => { s with phase := Function.update s.phase i (.loaded s.row) }
  | .loaded x => match requests i x with
    | .answer a => { s with phase := Function.update s.phase i (.answered a) }
    | .write f result => { s with phase := Function.update s.phase i (.decided f result) }
  | .decided f result => { s with phase := Function.update s.phase i (.written f result) }
  | .written f result => ⟨f s.row, Function.update s.phase i (.committed result)⟩
  | .committed result => { s with phase := Function.update s.phase i (.returned (result s.row)) }
  | .returned _ => s
  | .answered _ => s

/-- No request reads while another may still write. -/
def Exclusive (fresh : ρ → Prop) (i : ι) (s : State ι ρ α) : Prop :=
  match s.phase i with
  | .start => ∀ j, ¬(s.phase j).Open fresh
  | _ => True

variable {requests} {i : ι} {s : State ι ρ α}

/-! ## A request that is alone -/

theorem solo_answer {a : α} (hs : s.phase i = .start) (hr : requests i s.row = .answer a) :
    after (step requests) s [i, i, i, i, i] = ⟨s.row, Function.update s.phase i (.answered a)⟩ := by
  simp [step, hs, hr]

theorem solo_write {f : ρ → ρ} {result : ρ → α} (hs : s.phase i = .start)
    (hr : requests i s.row = .write f result) : after (step requests) s [i, i, i, i, i] =
      ⟨f s.row, Function.update s.phase i (.returned (result (f s.row)))⟩ := by
  simp [step, hs, hr]

/-! ## Exclusive schedules -/

/-- Requests write to a fresh row only, and no row is fresh after it was written.
`Good` is what the decisions may rely on. -/
structure Disciplined (requests : ι → ρ → Decision ρ α) (Good fresh : ρ → Prop) : Prop where
  reads : ∀ i x f result, Good x → requests i x = .write f result → fresh x
  spends : ∀ i x f result, Good x → requests i x = .write f result →
    ∀ y, Good y → Good (f y) ∧ ¬fresh (f y)

variable {Good fresh : ρ → Prop}

/-- What is known of a request that is on its way. -/
def Phase.Sound (Good fresh : ρ → Prop) : Phase ρ α → Prop
  | loaded x => Good x
  | decided f _ => ∀ y, Good y → Good (f y) ∧ ¬fresh (f y)
  | written f _ => ∀ y, Good y → Good (f y) ∧ ¬fresh (f y)
  | _ => True

/-- At most one request has written or may still write. -/
structure Invariant (Good fresh : ρ → Prop) (s : State ι ρ α) : Prop where
  row : Good s.row
  sound : ∀ i, (s.phase i).Sound Good fresh
  one : ∀ i j, (s.phase i).Open fresh ∨ (s.phase i).Moved →
    (s.phase j).Open fresh ∨ (s.phase j).Moved → i = j
  spent : ∀ i, (s.phase i).Moved → ¬fresh s.row

omit [DecidableEq ι] in
/-- The others are not involved when the request itself is. -/
theorem Invariant.others (h : Invariant Good fresh s)
    (hi : (s.phase i).Open fresh ∨ (s.phase i).Moved) :
    ∀ j, j ≠ i → ¬((s.phase j).Open fresh ∨ (s.phase j).Moved) :=
  fun j hji hj => hji (h.one j i hj hi)

/-- One request gets on, possibly with a new row. -/
theorem Invariant.update {p : Phase ρ α} {x : ρ} (h : Invariant Good fresh s) (hx : Good x)
    (hp : p.Sound Good fresh)
    (hone : p.Open fresh ∨ p.Moved → ∀ j, j ≠ i → ¬((s.phase j).Open fresh ∨ (s.phase j).Moved))
    (hspent : p.Moved ∨ (∃ j, (s.phase j).Moved) → ¬fresh x) :
    Invariant Good fresh ⟨x, Function.update s.phase i p⟩ where
  row := hx
  sound j := by
    by_cases hj : j = i
    · subst hj
      simpa using hp
    · simpa [hj] using h.sound j
  one j k hj hk := by
    by_cases hji : j = i <;> by_cases hki : k = i
    · exact hji.trans hki.symm
    · subst hji
      simp only [Function.update_self, Function.update_of_ne hki] at hj hk
      exact absurd hk (hone hj k hki)
    · subst hki
      simp only [Function.update_self, Function.update_of_ne hji] at hj hk
      exact absurd hj (hone hk j hji)
    · simp only [Function.update_of_ne hji, Function.update_of_ne hki] at hj hk
      exact h.one j k hj hk
  spent j hj := by
    by_cases hji : j = i
    · subst hji
      simp only [Function.update_self] at hj
      exact hspent (.inl hj)
    · simp only [Function.update_of_ne hji] at hj
      exact hspent (.inr ⟨j, hj⟩)

theorem Invariant.step (hd : Disciplined requests Good fresh) (h : Invariant Good fresh s)
    (he : Exclusive fresh i s) : Invariant Good fresh (step requests i s) := by
  have hsound := h.sound i
  have hold : (∃ j, (s.phase j).Moved) → ¬fresh s.row := fun ⟨j, hj⟩ => h.spent j hj
  rw [ReadCheckWrite.step]
  cases hp : s.phase i with
  | start =>
    -- a fresh row is read only when nobody has written and nobody is about to
    rw [Exclusive, hp] at he
    refine h.update h.row h.row ?_ (Or.rec False.elim hold)
    rintro (hf | hm) j -
    · rintro (ho | hm)
      · exact he j ho
      · exact h.spent j hm hf
    · exact hm.elim
  | loaded x =>
    rw [hp] at hsound
    dsimp only
    cases hr : requests i x with
    | answer a =>
      exact h.update h.row trivial (fun ho => (ho.elim id id).elim) (Or.rec False.elim hold)
    | write f result =>
      refine h.update h.row (hd.spends i x f result hsound hr) (fun _ => h.others ?_)
        (Or.rec False.elim hold)
      rw [hp]
      exact .inl (hd.reads i x f result hsound hr)
  | decided f result =>
    rw [hp] at hsound
    refine h.update h.row hsound (fun _ => h.others ?_) (Or.rec False.elim hold)
    rw [hp]
    exact .inl trivial
  | written f result =>
    rw [hp] at hsound
    obtain ⟨hgood, hspent⟩ := hsound s.row h.row
    refine h.update hgood trivial (fun _ => h.others ?_) fun _ => hspent
    rw [hp]
    exact .inl trivial
  | committed result =>
    have hmoved : (s.phase i).Moved := by
      rw [hp]
      trivial
    exact h.update h.row trivial (fun _ => h.others (.inr hmoved)) fun _ => h.spent i hmoved
  | returned a => exact h
  | answered a => exact h

omit [DecidableEq ι] in
theorem invariant_init {x : ρ} (hx : Good x) :
    Invariant Good fresh (State.init x : State ι ρ α) where
  row := hx
  sound _ := trivial
  one _ _ hi _ := (hi.elim id id).elim
  spent _ hi := hi.elim

/-- In an exclusive schedule at most one request writes. -/
theorem one_writer (hd : Disciplined requests Good fresh) {x : ρ} (hx : Good x) {schedule : List ι}
    (ha : Along (step requests) (Exclusive fresh) (State.init x) schedule) (i j : ι)
    (hi : ((after (step requests) (State.init x) schedule).phase i).Moved)
    (hj : ((after (step requests) (State.init x) schedule).phase j).Moved) : i = j := by
  have hinv := ha.invariant (fun i s he h => Invariant.step hd h he) (invariant_init hx)
  exact hinv.one i j (.inr hi) (.inr hj)

end Step
end ReadCheckWrite
