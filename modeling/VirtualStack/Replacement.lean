import Mathlib.Data.Finset.Image
import Mathlib.Logic.Function.Basic
import VirtualStack.Runs

/-!
# Concurrent replacements of a set of rows

Two transactions each replace the rows of one group: they delete the rows they
see, insert rows of their own and commit. A statement sees what was committed
when it began and what its own transaction did. A row is kept with the
transaction that wrote it, since a key that is deleted and inserted again is
another row, which a `DELETE` that began earlier does not see.

A `DELETE` waits for rows that the other transaction has deleted and an `INSERT`
for keys that it has inserted. Both get on when the other is over.

One after the other, the later transaction replaces the rows of the earlier one.
When a `DELETE` begins while the other transaction is on its way, the rows of
both stay.
-/

namespace Replacement
open Runs

inductive Side where
  | left
  | right
  deriving DecidableEq, Repr

namespace Side

def other : Side → Side
  | left => right
  | right => left

@[simp] theorem other_other (i : Side) : i.other.other = i := by cases i <;> rfl

@[simp] theorem other_ne (i : Side) : i.other ≠ i := by cases i <;> decide

theorem eq_or_other (i j : Side) : j = i ∨ j = i.other := by
  cases i <;> cases j <;> first | exact .inl rfl | exact .inr rfl

theorem forall_iff (i : Side) {p : Side → Prop} : (∀ j, p j) ↔ p i ∧ p i.other := by
  refine ⟨fun h => ⟨h i, h i.other⟩, fun h j => ?_⟩
  obtain rfl | rfl := eq_or_other i j
  · exact h.1
  · exact h.2

end Side

variable {κ : Type}

/-- A stored key and who wrote it, `none` for what was there before. -/
abbrev Version (κ : Type) := κ × Option Side

/-- What an `INSERT` does about a key that is taken. -/
inductive OnConflict where
  | skip
  | fail
  deriving DecidableEq, Repr

/-- `seen` are the rows that the `DELETE` saw, `new` the keys that were inserted. -/
inductive Phase (κ : Type) where
  | start
  | deleting (seen : Finset (Version κ))
  | deleted (seen : Finset (Version κ))
  | inserted (seen : Finset (Version κ)) (new : Finset κ)
  | committed
  | failed
  deriving DecidableEq

namespace Phase

/-- The transaction has begun its `DELETE` and is not over. -/
def Running : Phase κ → Prop
  | deleting _ | deleted _ | inserted _ _ => True
  | _ => False

theorem Running.ne_committed {p : Phase κ} (h : p.Running) : p ≠ committed := by
  rintro rfl
  exact h

/-- The rows that the transaction has deleted and holds until it is over. -/
def locked : Phase κ → Finset (Version κ)
  | deleted seen | inserted seen _ => seen
  | _ => ∅

/-- The keys that it has inserted and not committed. -/
def pending : Phase κ → Finset κ
  | inserted _ new => new
  | _ => ∅

end Phase

/-- The committed rows, and where the two transactions are. -/
structure State (κ : Type) where
  rows : Finset (Version κ)
  phase : Side → Phase κ

/-- One transaction gets on. -/
def State.set (s : State κ) (i : Side) (p : Phase κ) : State κ :=
  { s with phase := Function.update s.phase i p }

@[simp] theorem State.set_rows (s : State κ) (i : Side) (p : Phase κ) :
    (s.set i p).rows = s.rows := rfl

@[simp] theorem State.set_self (s : State κ) (i : Side) (p : Phase κ) :
    (s.set i p).phase i = p := Function.update_self ..

@[simp] theorem State.set_other (s : State κ) (i : Side) (p : Phase κ) :
    (s.set i p).phase i.other = s.phase i.other := Function.update_of_ne i.other_ne ..

section Step

variable [DecidableEq κ]

def State.init (stored : Finset κ) : State κ := ⟨stored.image (·, none), fun _ => .start⟩

def State.keys (s : State κ) : Finset κ := s.rows.image Prod.fst

/-- The keys that are stored for a transaction that has deleted what it saw. -/
def State.taken (s : State κ) (seen : Finset (Version κ)) : Finset κ :=
  (s.rows \ seen).image Prod.fst

/-- A commit makes the deletion of the rows that were seen and the new keys visible. -/
def State.commit (s : State κ) (i : Side) (seen : Finset (Version κ)) (new : Finset κ) : State κ :=
  ⟨(s.rows \ seen) ∪ new.image (·, some i), Function.update s.phase i .committed⟩

/-- The next step of a transaction; one that has to wait changes nothing. -/
def step (rule : OnConflict) (keys : Side → Finset κ) (i : Side) (s : State κ) : State κ :=
  match s.phase i with
  | .start => s.set i (.deleting s.rows)
  | .deleting seen =>
    if Disjoint (s.phase i.other).locked seen then s.set i (.deleted seen) else s
  | .deleted seen =>
    if Disjoint (s.phase i.other).pending (keys i) then
      match rule with
      | .skip => s.set i (.inserted seen (keys i \ s.taken seen))
      | .fail =>
        if Disjoint (keys i) (s.taken seen) then s.set i (.inserted seen (keys i))
        else s.set i .failed
    else s
  | .inserted seen new => s.commit i seen new
  | .committed => s
  | .failed => s

/-- No `DELETE` begins while the other transaction is on its way. -/
def Exclusive (i : Side) (s : State κ) : Prop :=
  s.phase i = .start → ¬(s.phase i.other).Running

variable {rule : OnConflict} {keys : Side → Finset κ} {i : Side} {s : State κ}

@[simp] theorem State.commit_self (seen : Finset (Version κ)) (new : Finset κ) :
    (s.commit i seen new).phase i = .committed := Function.update_self ..

@[simp] theorem State.commit_other (seen : Finset (Version κ)) (new : Finset κ) :
    (s.commit i seen new).phase i.other = s.phase i.other := Function.update_of_ne i.other_ne ..

theorem State.taken_rows : s.taken s.rows = ∅ := by
  rw [State.taken, Finset.sdiff_self, Finset.image_empty]

/-- What a transaction leaves that saw all rows. -/
theorem State.commit_rows (i : Side) (new : Finset κ) :
    (s.commit i s.rows new).rows = new.image (·, some i) := by
  rw [State.commit, Finset.sdiff_self, Finset.empty_union]

theorem image_fst_image (keys : Finset κ) (i : Side) :
    (keys.image (·, some i)).image Prod.fst = keys := by
  rw [Finset.image_image]
  exact Finset.image_id

theorem State.commit_keys (i : Side) (new : Finset κ) : (s.commit i s.rows new).keys = new := by
  rw [State.keys, State.commit_rows, image_fst_image]

/-- What a step can do. -/
inductive Move (keys : Side → Finset κ) (i : Side) (s : State κ) : State κ → Prop where
  | stay : Move keys i s s
  | begin : s.phase i = .start → Move keys i s (s.set i (.deleting s.rows))
  | delete (seen) : s.phase i = .deleting seen → Move keys i s (s.set i (.deleted seen))
  | insert (seen) : s.phase i = .deleted seen →
    Move keys i s (s.set i (.inserted seen (keys i \ s.taken seen)))
  | conflict (seen) : s.phase i = .deleted seen → ¬Disjoint (keys i) (s.taken seen) →
    Move keys i s (s.set i .failed)
  | commit (seen new) : s.phase i = .inserted seen new → Move keys i s (s.commit i seen new)

theorem move_step (rule : OnConflict) (keys : Side → Finset κ) (i : Side) (s : State κ) :
    Move keys i s (step rule keys i s) := by
  rw [step]
  cases hp : s.phase i with
  | start => exact .begin hp
  | deleting seen =>
    dsimp only
    split_ifs
    · exact .delete seen hp
    · exact .stay
  | deleted seen =>
    by_cases hw : Disjoint (s.phase i.other).pending (keys i)
    · simp only [if_pos hw]
      cases rule with
      | skip => exact .insert seen hp
      | fail =>
        by_cases hc : Disjoint (keys i) (s.taken seen)
        · simp only [if_pos hc]
          -- nothing is taken, so that nothing would be skipped either
          have hi : Move keys i s _ := .insert seen hp
          rwa [Finset.sdiff_eq_self_of_disjoint hc] at hi
        · simp only [if_neg hc]
          exact .conflict seen hp hc
    · simp only [if_neg hw]
      exact .stay
  | inserted seen new => exact .commit seen new hp
  | committed => exact .stay
  | failed => exact .stay

/-! ## One after the other -/

/-- A transaction whose `DELETE` saw the stored rows, and whose `INSERT` found all
keys free. -/
def Phase.Sound (rows : Finset (Version κ)) (keys : Finset κ) : Phase κ → Prop
  | deleting seen | deleted seen => seen = rows
  | inserted seen new => seen = rows ∧ new = keys
  | failed => False
  | _ => True

structure Serial (keys : Side → Finset κ) (s : State κ) : Prop where
  alone : ∀ i, (s.phase i).Running → ¬(s.phase i.other).Running
  sound : ∀ i, (s.phase i).Sound s.rows (keys i)
  origin : ∀ v ∈ s.rows, ∀ i, v.2 = some i → s.phase i = .committed
  result : ∀ i, s.phase i = .committed → ∃ j, s.keys = keys j

/-- What a transaction can do that has seen the stored rows. -/
theorem Move.of_sound {s' : State κ} (hm : Move keys i s s')
    (hs : (s.phase i).Sound s.rows (keys i)) :
    s' = s ∨ (s.phase i = .start ∧ s' = s.set i (.deleting s.rows)) ∨
      (s.phase i).Running ∧
        ((∃ p : Phase κ, p.Running ∧ p.Sound s.rows (keys i) ∧ s' = s.set i p) ∨
          s' = s.commit i s.rows (keys i)) := by
  cases hm with
  | stay => exact .inl rfl
  | begin hp => exact .inr (.inl ⟨hp, rfl⟩)
  | delete seen hp =>
    rw [hp] at hs ⊢
    exact .inr (.inr ⟨trivial, .inl ⟨.deleted seen, trivial, hs, rfl⟩⟩)
  | insert seen hp =>
    rw [hp] at hs ⊢
    obtain rfl : seen = s.rows := hs
    rw [State.taken_rows, Finset.sdiff_empty]
    exact .inr (.inr ⟨trivial, .inl ⟨.inserted s.rows (keys i), trivial, ⟨rfl, rfl⟩, rfl⟩⟩)
  | conflict seen hp hc =>
    rw [hp] at hs
    obtain rfl : seen = s.rows := hs
    rw [State.taken_rows] at hc
    exact absurd (Finset.disjoint_empty_right _) hc
  | commit seen new hp =>
    rw [hp] at hs ⊢
    obtain ⟨rfl, rfl⟩ := hs
    exact .inr (.inr ⟨trivial, .inr rfl⟩)

theorem Serial.set {p : Phase κ} (h : Serial keys s) (hold : s.phase i ≠ .committed)
    (hp : p.Running) (halone : ¬(s.phase i.other).Running) (hsound : p.Sound s.rows (keys i)) :
    Serial keys (s.set i p) where
  alone := by
    refine (Side.forall_iff i).mpr ⟨by simpa using fun _ => halone, fun ho => ?_⟩
    exact absurd (by simpa using ho) halone
  sound := (Side.forall_iff i).mpr ⟨by simpa using hsound, by simpa using h.sound i.other⟩
  origin v hv := by
    refine (Side.forall_iff i).mpr ⟨fun hi => ?_, fun hi => ?_⟩
    · exact absurd (h.origin v hv i hi) hold
    · simpa using h.origin v hv i.other hi
  result := by
    refine (Side.forall_iff i).mpr ⟨fun hi => ?_, fun hi => ?_⟩
    · exact absurd (by simpa using hi) hp.ne_committed
    · exact h.result i.other (by simpa using hi)

theorem Serial.commit (h : Serial keys s) (hidle : ¬(s.phase i.other).Running) :
    Serial keys (s.commit i s.rows (keys i)) where
  alone := by
    refine (Side.forall_iff i).mpr ⟨fun hr => ?_, fun hr => ?_⟩
    · simp [Phase.Running] at hr
    · exact absurd (by simpa using hr) hidle
  sound := by
    refine (Side.forall_iff i).mpr ⟨by simp [Phase.Sound], ?_⟩
    rw [State.commit_other]
    -- the other transaction has not begun or is over, so what it saw does not matter
    have hs := h.sound i.other
    cases hq : s.phase i.other <;> rw [hq] at hidle hs
    case start | committed => trivial
    case failed => exact hs
    all_goals exact absurd trivial hidle
  origin v hv j hj := by
    rw [State.commit_rows] at hv
    obtain ⟨k, -, rfl⟩ := Finset.mem_image.mp hv
    cases hj
    exact State.commit_self ..
  result _ _ := ⟨i, State.commit_keys i _⟩

theorem Serial.move {s' : State κ} (h : Serial keys s) (he : Exclusive i s)
    (hm : Move keys i s s') : Serial keys s' := by
  obtain rfl | ⟨hp, rfl⟩ | ⟨hr, ⟨p, hp, hs, rfl⟩ | rfl⟩ := hm.of_sound (h.sound i)
  · exact h
  · exact h.set (by simp [hp]) trivial (he hp) rfl
  · exact h.set hr.ne_committed hp (h.alone i hr) hs
  · exact h.commit (h.alone i hr)

theorem serial_init (stored : Finset κ) : Serial keys (State.init stored) where
  alone _ hr := absurd hr id
  sound _ := trivial
  origin v hv j hj := by
    obtain ⟨k, -, rfl⟩ := Finset.mem_image.mp hv
    cases hj
  result _ hi := by cases hi

/-! ## Both at once -/

/-- A transaction whose `DELETE` did not see the rows of the other one, which has
committed `theirs`. -/
def Phase.Blind (keys theirs : Finset κ) : Phase κ → Prop
  | deleting seen | deleted seen => ∀ v ∈ seen, v.2 = none
  | inserted seen new => (∀ v ∈ seen, v.2 = none) ∧ theirs ∪ new = theirs ∪ keys
  | _ => False

inductive Mixed (keys : Side → Finset κ) (s : State κ) : Prop where
  | begun (hrows : ∀ v ∈ s.rows, v.2 = none) (hrun : ∀ i, (s.phase i).Running)
    (hsound : ∀ i, (s.phase i).Sound s.rows (keys i))
  | half (i : Side) (hi : s.phase i = .committed) (hrows : s.rows = (keys i).image (·, some i))
    (hblind : (s.phase i.other).Blind (keys i.other) (keys i))
  | both (hdone : ∀ i, s.phase i = .committed) (hkeys : s.keys = keys .left ∪ keys .right)
  | broken (i : Side) (hi : s.phase i = .failed)

theorem keys_union (keys : Side → Finset κ) (i : Side) :
    keys i ∪ keys i.other = keys .left ∪ keys .right := by
  cases i
  · rfl
  · exact Finset.union_comm _ _

/-- Rows of one transaction and what the other, which did not see them, deletes. -/
theorem sdiff_of_blind {keys : Finset κ} {seen : Finset (Version κ)} (h : ∀ v ∈ seen, v.2 = none) :
    keys.image (·, some i) \ seen = keys.image (·, some i) := by
  refine Finset.sdiff_eq_self_of_disjoint (Finset.disjoint_left.mpr fun v hv hs => ?_)
  obtain ⟨k, -, rfl⟩ := Finset.mem_image.mp hv
  cases h _ hs

/-- A `DELETE` that begins while the other transaction is on its way. -/
theorem Serial.mixed (h : Serial keys s) (he : ¬Exclusive i s) :
    Mixed keys (step rule keys i s) := by
  simp only [Exclusive, Classical.not_imp, not_not] at he
  obtain ⟨hp, hrun⟩ := he
  have hstep : Replacement.step rule keys i s = s.set i (.deleting s.rows) := by
    rw [Replacement.step, hp]
  rw [hstep]
  refine .begun (fun v hv => ?_) ?_ ?_
  · -- nobody has committed, so all rows were there before
    cases hv2 : v.2 with
    | none => rfl
    | some j =>
      have hj := h.origin v hv j hv2
      have hne : ∀ k, s.phase k ≠ .committed := by
        refine (Side.forall_iff i).mpr ⟨by simp [hp], fun hc => ?_⟩
        rw [hc] at hrun
        exact hrun
      exact absurd hj (hne j)
  · exact (Side.forall_iff i).mpr ⟨by simp [Phase.Running], by simpa using hrun⟩
  · exact (Side.forall_iff i).mpr ⟨by simp [Phase.Sound], by simpa using h.sound i.other⟩

/-- A transaction that is over does not move. -/
theorem Move.eq_of_over {s' : State κ} (hm : Move keys i s s')
    (hi : s.phase i = .committed ∨ s.phase i = .failed) : s' = s := by
  cases hm with
  | stay => rfl
  | begin hp | delete _ hp | insert _ hp | conflict _ hp | commit _ _ hp => simp [hp] at hi

/-- Nor does it move when the other one does. -/
theorem Move.phase_other {s' : State κ} (hm : Move keys i s s') :
    s'.phase i.other = s.phase i.other := by
  cases hm with
  | stay => rfl
  | begin | delete | insert | conflict => exact State.set_other ..
  | commit => exact State.commit_other ..

/-- What a transaction has seen holds no row of the other, which then commits. -/
theorem Phase.Sound.blind {p : Phase κ} {rows : Finset (Version κ)} {own theirs : Finset κ}
    (hs : p.Sound rows own) (hr : p.Running) (hrows : ∀ v ∈ rows, v.2 = none) :
    p.Blind own theirs := by
  cases p with
  | deleting | deleted =>
    obtain rfl : _ = rows := hs
    exact hrows
  | inserted =>
    obtain ⟨rfl, rfl⟩ := hs
    exact ⟨hrows, rfl⟩
  | start | committed | failed => exact hr.elim

theorem mixed_of_begun {s' : State κ} (hrows : ∀ v ∈ s.rows, v.2 = none)
    (hrun : ∀ i, (s.phase i).Running) (hsound : ∀ i, (s.phase i).Sound s.rows (keys i))
    (hm : Move keys i s s') : Mixed keys s' := by
  obtain rfl | ⟨hp, rfl⟩ | ⟨-, ⟨p, hp, hs, rfl⟩ | rfl⟩ := hm.of_sound (hsound i)
  · exact .begun hrows hrun hsound
  · have hr := hrun i
    rw [hp] at hr
    exact hr.elim
  · refine .begun hrows ?_ ?_
    · exact (Side.forall_iff i).mpr ⟨by simpa using hp, by simpa using hrun i.other⟩
    · exact (Side.forall_iff i).mpr ⟨by simpa using hs, by simpa using hsound i.other⟩
  · refine .half i (State.commit_self ..) (State.commit_rows i _) ?_
    rw [State.commit_other]
    exact (hsound i.other).blind (hrun i.other) hrows

theorem mixed_of_half {s' : State κ} (hi : s.phase i = .committed)
    (hrows : s.rows = (keys i).image (·, some i))
    (hblind : (s.phase i.other).Blind (keys i.other) (keys i))
    (hm : Move keys i.other s s') : Mixed keys s' := by
  have hset : ∀ p : Phase κ, p.Blind (keys i.other) (keys i) → Mixed keys (s.set i.other p) := by
    intro p hp
    refine .half i ?_ hrows (by simpa using hp)
    have ho := State.set_other s i.other p
    rw [Side.other_other] at ho
    rw [ho, hi]
  cases hm with
  | stay => exact .half i hi hrows hblind
  | begin hp =>
    rw [hp] at hblind
    exact hblind.elim
  | delete seen hp =>
    rw [hp] at hblind
    exact hset _ hblind
  | insert seen hp =>
    rw [hp] at hblind
    refine hset _ ⟨hblind, ?_⟩
    rw [State.taken, hrows, sdiff_of_blind hblind, image_fst_image,
      Finset.union_sdiff_self_eq_union]
  | conflict seen hp hc => exact .broken i.other (State.set_self ..)
  | commit seen new hp =>
    rw [hp] at hblind
    obtain ⟨hseen, hunion⟩ := hblind
    refine .both ((Side.forall_iff i).mpr ⟨?_, State.commit_self ..⟩) ?_
    · have ho := State.commit_other (s := s) (i := i.other) seen new
      rw [Side.other_other] at ho
      rw [ho, hi]
    · rw [State.keys, State.commit, hrows, sdiff_of_blind hseen, Finset.image_union,
        image_fst_image, image_fst_image, hunion, keys_union]

theorem Mixed.move {s' : State κ} (h : Mixed keys s) (hm : Move keys i s s') : Mixed keys s' := by
  cases h with
  | begun hrows hrun hsound => exact mixed_of_begun hrows hrun hsound hm
  | half k hk hrows hblind =>
    obtain rfl | rfl := Side.eq_or_other k i
    · rw [hm.eq_of_over (.inl hk)]
      exact .half i hk hrows hblind
    · exact mixed_of_half hk hrows hblind hm
  | both hdone hkeys =>
    rw [hm.eq_of_over (.inl (hdone i))]
    exact .both hdone hkeys
  | broken k hk =>
    obtain rfl | rfl := Side.eq_or_other i k
    · rw [hm.eq_of_over (.inr hk)]
      exact .broken k hk
    · exact .broken i.other (hm.phase_other.trans hk)

/-! ## What is stored in the end -/

/-- When both transactions have committed, the rows of the last one are stored, or
the rows of both. -/
theorem after_cases (rule : OnConflict) (keys : Side → Finset κ) (stored : Finset κ)
    (schedule : List Side)
    (hdone : ∀ i, (after (step rule keys) (State.init stored) schedule).phase i = .committed) :
    (Along (step rule keys) Exclusive (State.init stored) schedule ∧
      ∃ i, (after (step rule keys) (State.init stored) schedule).keys = keys i) ∨
    (¬Along (step rule keys) Exclusive (State.init stored) schedule ∧
      (after (step rule keys) (State.init stored) schedule).keys = keys .left ∪ keys .right) := by
  obtain ⟨ha, hs⟩ | ⟨ha, hm⟩ := along_or_not
    (fun i s hs he => Serial.move hs he (move_step rule keys i s))
    (fun i s hs he => hs.mixed he) (fun i s hm => hm.move (move_step rule keys i s))
    (serial_init stored)
  · exact .inl ⟨ha, hs.result .left (hdone .left)⟩
  · refine .inr ⟨ha, ?_⟩
    cases hm with
    | begun _ hrun _ =>
      have hr := hrun .left
      rw [hdone .left] at hr
      exact hr.elim
    | half i _ _ hblind =>
      rw [hdone i.other] at hblind
      exact hblind.elim
    | both _ hkeys => exact hkeys
    | broken i hi => exact absurd ((hdone i).symm.trans hi) (by simp)

/-! ## A transaction that is alone -/

theorem step_start (hp : s.phase i = .start) : step rule keys i s = s.set i (.deleting s.rows) := by
  rw [step, hp]

theorem step_deleting {seen : Finset (Version κ)} (hp : s.phase i = .deleting seen)
    (ho : s.phase i.other = .start) : step rule keys i s = s.set i (.deleted seen) := by
  rw [step, hp]
  dsimp only
  rw [ho, if_pos]
  exact Finset.disjoint_empty_left _

theorem step_deleted (hp : s.phase i = .deleted s.rows) (ho : s.phase i.other = .start) :
    step rule keys i s = s.set i (.inserted s.rows (keys i)) := by
  have hfree : Disjoint (Phase.start : Phase κ).pending (keys i) := Finset.disjoint_empty_left _
  rw [step, hp]
  dsimp only
  rw [ho, if_pos hfree, State.taken_rows, if_pos (Finset.disjoint_empty_right _),
    Finset.sdiff_empty]
  cases rule <;> rfl

theorem step_inserted {seen : Finset (Version κ)} {new : Finset κ}
    (hp : s.phase i = .inserted seen new) : step rule keys i s = s.commit i seen new := by
  rw [step, hp]

/-- It replaces the rows. -/
theorem solo (rule : OnConflict) (keys : Side → Finset κ) (stored : Finset κ) (i : Side) :
    (after (step rule keys) (State.init stored) [i, i, i, i]).phase i = .committed ∧
      (after (step rule keys) (State.init stored) [i, i, i, i]).keys = keys i := by
  simp only [after_cons, after_nil]
  rw [step_start (i := i) (s := State.init stored) rfl,
    step_deleting (State.set_self ..) (State.set_other ..),
    step_deleted (State.set_self ..) ((State.set_other ..).trans (State.set_other ..)),
    step_inserted (State.set_self ..)]
  exact ⟨State.commit_self .., State.commit_keys ..⟩

end Step
end Replacement
