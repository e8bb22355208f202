import Mathlib.Data.Finset.Card
import Mathlib.Logic.Function.Basic
import Mathlib.Order.Defs.LinearOrder
import VirtualStack.Dicts

/-!
# Sorted sets with an expiry

Sorted sets as a key-value server keeps them: the members of a key with one score each,
and a deadline after which the key is gone. Members, scores and times are arbitrary.
-/

namespace SortedSets
open Dicts

variable {κ μ σ τ : Type}

/-- The members with their scores, in the order of insertion. -/
abbrev SortedSet (μ σ : Type) := Dict μ σ

namespace SortedSet

/-- `ZADD` of one member: a new member is added, a stored one gets the new score. -/
def zadd [DecidableEq μ] (s : SortedSet μ σ) (member : μ) (score : σ) : SortedSet μ σ :=
  if h : member ∈ s then s.modify member fun _ => score else s.insertNew member score h

/-- `ZREMRANGEBYSCORE`, with both bounds included. -/
def zremrangebyscore [LinearOrder σ] (s : SortedSet μ σ) (min max : σ) : SortedSet μ σ where
  entries := s.entries.filter fun e => ¬(min ≤ e.2 ∧ e.2 ≤ max)
  nodup := s.nodup.sublist (List.filter_sublist.map _)

/-- `ZCARD`. -/
def zcard (s : SortedSet μ σ) : ℕ := s.entries.length

/-- After `ZADD` the member has the new score, and the others have theirs. -/
theorem mem_entries_zadd [DecidableEq μ] {s : SortedSet μ σ} {member : μ} {score : σ}
    {e : μ × σ} : e ∈ (s.zadd member score).entries ↔
      e = (member, score) ∨ e ∈ s.entries ∧ e.1 ≠ member := by
  rw [zadd]
  split_ifs with h
  · rw [Dict.modify, Rows.mem_modify]
    constructor
    · rintro ⟨e', he', rfl⟩
      by_cases hk : e'.1 = member
      · simp [hk]
      · simp [hk, he']
    · rintro (rfl | ⟨he, hne⟩)
      · obtain ⟨e', he', rfl⟩ := List.mem_map.mp h
        exact ⟨e', he', by simp⟩
      · exact ⟨e, he, by simp [hne]⟩
  · have hnew : e ∈ s.entries → e.1 ≠ member := by
      rintro he rfl
      exact h (List.mem_map_of_mem he)
    rw [Dict.insertNew, List.mem_append, List.mem_singleton, or_comm]
    exact or_congr_right ⟨fun he => ⟨he, hnew he⟩, And.left⟩

theorem mem_entries_zremrangebyscore [LinearOrder σ] {s : SortedSet μ σ} {min max : σ}
    {e : μ × σ} : e ∈ (s.zremrangebyscore min max).entries ↔
      e ∈ s.entries ∧ ¬(min ≤ e.2 ∧ e.2 ≤ max) := by
  rw [zremrangebyscore, List.mem_filter, decide_eq_true_eq]

/-- A set that holds the images of the elements of `xs` has as many members. -/
theorem zcard_eq_card {α : Type} {s : SortedSet μ σ} {xs : Finset α} {f : α → μ × σ}
    (hf : Function.Injective f) (h : ∀ e, e ∈ s.entries ↔ ∃ x ∈ xs, f x = e) :
    s.zcard = xs.card := by
  have hn : s.entries.Nodup := List.Nodup.of_map _ s.nodup
  have hp : s.entries.Perm (xs.toList.map f) := by
    refine (List.perm_ext_iff_of_nodup hn (xs.nodup_toList.map hf)).mpr fun e => ?_
    simp [h]
  rw [zcard, hp.length_eq, List.length_map, Finset.length_toList]

end SortedSet

/-- What the server keeps under a key. -/
structure Value (μ σ τ : Type) where
  set : SortedSet μ σ
  deadline : Option τ

/-- The keys of the server. -/
abbrev Store (κ μ σ τ : Type) := κ → Option (Value μ σ τ)

/-- When the server lets a key go: never before its deadline. -/
structure Lapse (τ : Type) [LE τ] where
  lapsed : τ → τ → Bool
  sound : ∀ deadline now, lapsed deadline now → deadline ≤ now

namespace Lapse

/-- At the deadline. -/
def atDeadline [LE τ] [DecidableLE τ] : Lapse τ :=
  ⟨fun deadline now => deadline ≤ now, fun _ _ h => of_decide_eq_true h⟩

/-- Never, as if there were no `EXPIRE`. -/
def never [LE τ] : Lapse τ := ⟨fun _ _ => false, fun _ _ h => absurd h Bool.false_ne_true⟩

end Lapse

namespace Store

/-- A server without keys. -/
def empty : Store κ μ σ τ := fun _ => none

section Commands

variable [DecidableEq κ] [LE τ] (lapse : Lapse τ) (now : τ)

/-- The value at a key, unless its deadline has passed. -/
def get (store : Store κ μ σ τ) (key : κ) : Option (Value μ σ τ) :=
  (store key).filter fun v => !v.deadline.any (lapse.lapsed · now)

/-- The set at a key; a missing key is the empty set. -/
def getSet (store : Store κ μ σ τ) (key : κ) : SortedSet μ σ :=
  ((get lapse now store key).map Value.set).getD .empty

/-- A key without members is deleted; one with members keeps its deadline. -/
def putSet (store : Store κ μ σ τ) (key : κ) (set : SortedSet μ σ) : Store κ μ σ τ :=
  Function.update store key <| if set.entries = [] then none
    else some ⟨set, (get lapse now store key).bind Value.deadline⟩

def zadd [DecidableEq μ] (store : Store κ μ σ τ) (key : κ) (member : μ) (score : σ) :
    Store κ μ σ τ :=
  putSet lapse now store key ((getSet lapse now store key).zadd member score)

def zremrangebyscore [LinearOrder σ] (store : Store κ μ σ τ) (key : κ) (min max : σ) :
    Store κ μ σ τ :=
  putSet lapse now store key ((getSet lapse now store key).zremrangebyscore min max)

def zcard (store : Store κ μ σ τ) (key : κ) : ℕ := (getSet lapse now store key).zcard

/-- `EXPIRE`, with the deadline that it computes. -/
def expire (store : Store κ μ σ τ) (key : κ) (deadline : τ) : Store κ μ σ τ :=
  Function.update store key ((get lapse now store key).map fun v => ⟨v.set, some deadline⟩)

/-! What a command leaves at its own key, and at the others. -/

section Specs

variable {lapse : Lapse τ} {now : τ} {store : Store κ μ σ τ} {key : κ}

theorem getSet_putSet (set : SortedSet μ σ) :
    getSet lapse now (putSet lapse now store key set) key = set := by
  rw [getSet, get, putSet, Function.update_self]
  split_ifs with hset
  · obtain ⟨entries, hn⟩ := set
    obtain rfl : entries = [] := hset
    rfl
  · have hlive : (((get lapse now store key).bind Value.deadline).any (lapse.lapsed · now)) =
        false := by
      cases hg : get lapse now store key with
      | none => rfl
      | some v => simpa [get] using (Option.filter_eq_some_iff.mp hg).2
    simp [Option.filter, hlive]

theorem expire_self {deadline : τ} (h : (getSet lapse now store key).entries ≠ []) :
    expire lapse now store key deadline key =
      some ⟨getSet lapse now store key, some deadline⟩ := by
  rw [expire, Function.update_self]
  rw [getSet] at h ⊢
  cases hg : get lapse now store key with
  | none =>
    rw [hg] at h
    exact absurd rfl h
  | some v => rfl

/-! The key decides what a command leaves there. -/

variable {store' : Store κ μ σ τ} (hkey : store key = store' key)

include hkey

omit [DecidableEq κ] in
theorem getSet_congr : getSet lapse now store key = getSet lapse now store' key := by
  rw [getSet, getSet, get, get, hkey]

theorem putSet_congr (set : SortedSet μ σ) :
    putSet lapse now store key set key = putSet lapse now store' key set key := by
  rw [putSet, putSet, Function.update_self, Function.update_self, get, get, hkey]

theorem zadd_congr [DecidableEq μ] (member : μ) (score : σ) :
    zadd lapse now store key member score key = zadd lapse now store' key member score key := by
  rw [zadd, zadd, getSet_congr hkey, putSet_congr hkey]

theorem zremrangebyscore_congr [LinearOrder σ] (min max : σ) :
    zremrangebyscore lapse now store key min max key =
      zremrangebyscore lapse now store' key min max key := by
  rw [zremrangebyscore, zremrangebyscore, getSet_congr hkey, putSet_congr hkey]

theorem expire_congr (deadline : τ) :
    expire lapse now store key deadline key = expire lapse now store' key deadline key := by
  rw [expire, expire, Function.update_self, Function.update_self, get, get, hkey]

omit hkey

variable {key' : κ} (hne : key' ≠ key)

include hne in
theorem putSet_of_ne (set : SortedSet μ σ) : putSet lapse now store key set key' = store key' :=
  Function.update_of_ne hne _ _

include hne in
theorem expire_of_ne (deadline : τ) :
    expire lapse now store key deadline key' = store key' := Function.update_of_ne hne _ _

end Specs

end Commands

/-- A key that is there has members of its own; one that was let go reads as empty. -/
theorem getSet_of_some [LE τ] {lapse : Lapse τ} {now : τ} {store : Store κ μ σ τ} {key : κ}
    {set : SortedSet μ σ} {deadline : τ} (h : store key = some ⟨set, some deadline⟩) :
    getSet lapse now store key = if lapse.lapsed deadline now then .empty else set := by
  rw [getSet, get, h]
  cases hl : lapse.lapsed deadline now <;> simp [Option.filter, hl]

end Store
end SortedSets
