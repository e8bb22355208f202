import Mathlib.Algebra.Order.Ring.Rat
import Mathlib.Data.Nat.Pairing
import Mathlib.Tactic.Linarith
import VirtualStack.Services.User
import VirtualStack.SortedSets

/-!
# `core/rate_limiter.py`

`wrapper` is the function inside `decorator`, which returns it; `rate_limit` has no
`return decorator` and itself returns `None`.

Each request is recorded in a sorted set of its client and path, under the text of its
timestamp. A timestamp is the exact number that the float is; `time.time()` is not
negative. A worker takes it before the pipeline is on its way, and Redis runs the
pipeline at once at a time of its own clock.
-/

namespace VirtualStack.RateLimiter
open SortedSets
open scoped NNRat

/-- What the limiter reads of a request. -/
structure Request where
  path : String
  forwardedFor : Option String
  clientHost : Option String
  deriving DecidableEq, Repr

/-- `forwarded.split(",")[0].strip() if forwarded else client_host`. -/
def Request.identifier (request : Request) : String :=
  let clientHost := request.clientHost.getD "unknown_client"
  match request.forwardedFor with
  | none => clientHost
  | some forwarded =>
    if forwarded = "" then clientHost
    else pythonStrip (String.ofList (forwarded.toList.takeWhile (· ≠ ',')))

/-- The key of the sorted set; a client without an identifier has none. -/
def Request.key (request : Request) : Option String :=
  if request.identifier = "" then none
  else some s!"rate_limit:{request.path}:{request.identifier}"

/-- The arguments of the decorator factory. -/
structure Limit where
  maxRequests : ℤ
  windowSeconds : ℕ
  deriving DecidableEq, Repr

/-- `callsFunc` goes on without limiting, `admitted` returns `None`, and
`tooManyRequests` raises a `429` with its `Retry-After`. -/
inductive Decision where
  | callsFunc
  | admitted
  | tooManyRequests (detail retryAfter : String)
  deriving DecidableEq, Repr

def Limit.decide (limit : Limit) (requestCount : ℕ) : Decision :=
  if (requestCount : ℤ) > limit.maxRequests then
    .tooManyRequests "Too Many Requests" (toString limit.windowSeconds)
  else .admitted

abbrev Redis := Store String String ℚ ℚ

section Wrapper

/-! `str` is the text of a float, which is another one for another float. -/

variable (limit : Limit) (str : ℚ≥0 ↪ String) (lapse : Lapse ℚ)

/-- The pipeline of a request at `currentTime`, which the server runs at `now`. -/
def pipeline (redis : Redis) (key : String) (currentTime now : ℚ≥0) : ℕ × Redis :=
  let redis := redis.zadd lapse now key (str currentTime) currentTime
  let redis := redis.zremrangebyscore lapse now key 0 (currentTime - limit.windowSeconds)
  let requestCount := redis.zcard lapse now key
  (requestCount, redis.expire lapse now key (now + limit.windowSeconds))

def wrapper (redis : Redis) (request : Option Request) (currentTime now : ℚ≥0) :
    Decision × Redis :=
  match request with
  | none => (.callsFunc, redis)
  | some request =>
    match request.key with
    | none => (.callsFunc, redis)
    | some key =>
      let (requestCount, redis) := pipeline limit str lapse redis key currentTime now
      (limit.decide requestCount, redis)

end Wrapper

/-! A text of timestamps for examples, which writes whole seconds as Python does. -/

theorem repr_injective : Function.Injective Nat.repr := by
  intro m n h
  have hdigits := congrArg String.toList h
  rw [Nat.toList_repr, Nat.toList_repr] at hdigits
  rw [← Nat.ofDigitChars_toDigits (b := 10) (n := m) (by decide) (by decide), hdigits,
    Nat.ofDigitChars_toDigits (by decide) (by decide)]

def sampleStr : ℚ≥0 ↪ String where
  toFun t := if t.den = 1 then t.num.repr ++ ".0" else (Nat.pair t.num t.den).repr ++ "/"
  inj' t u h := by
    -- the last character tells the two kinds of text apart
    have hlast : ∀ a b : String, a ++ ".0" ≠ b ++ "/" := by
      intro a b hab
      have hlists := congrArg (List.getLast? ∘ String.toList) hab
      simp at hlists
    dsimp only at h
    split_ifs at h with ht hu hu
    · have hnum := repr_injective ((String.append_left_inj _).mp h)
      exact NNRat.ext_num_den hnum (ht.trans hu.symm)
    · exact absurd h (hlast _ _)
    · exact absurd h.symm (hlast _ _)
    · have hpair := repr_injective ((String.append_left_inj _).mp h)
      obtain ⟨hnum, hden⟩ := Nat.pair_eq_pair.mp hpair
      exact NNRat.ext_num_den hnum hden

/-! One login a minute, of a client behind a proxy. -/

def login : Request := ⟨"/api/v1/auth/login", some " 203.0.113.7, 10.0.0.1", some "10.0.0.1"⟩
def loginKey : String := "rate_limit:/api/v1/auth/login:203.0.113.7"
def onceAMinute : Limit := ⟨1, 60⟩

/-! ## One request -/

section Step

variable {limit : Limit} {str : ℚ≥0 ↪ String} {lapse : Lapse ℚ} {redis : Redis} {key : String}
  {request : Request} {t now last : ℚ≥0} {seen : Finset ℚ≥0}

theorem decide_eq_admitted {n : ℕ} : limit.decide n = .admitted ↔ (n : ℤ) ≤ limit.maxRequests := by
  rw [Limit.decide]
  split_ifs with h
  · exact iff_of_false (by simp) (not_le.mpr h)
  · exact iff_of_true rfl (not_lt.mp h)

/-- Timestamps later than `t - w`. -/
def later (limit : Limit) (t : ℚ) (xs : Finset ℚ≥0) : Finset ℚ≥0 :=
  xs.filter fun x => t - limit.windowSeconds < x

/-- The set holds a timestamp under its text. -/
def Holds (str : ℚ≥0 ↪ String) (set : SortedSet String ℚ) (xs : Finset ℚ≥0) : Prop :=
  ∀ e, e ∈ set.entries ↔ ∃ x ∈ xs, (str x, (x : ℚ)) = e

theorem Holds.zcard {set : SortedSet String ℚ} {xs : Finset ℚ≥0} (h : Holds str set xs) :
    set.zcard = xs.card := by
  refine SortedSet.zcard_eq_card (fun x y hxy => ?_) h
  exact str.injective (Prod.mk.inj hxy).1

/-- Recording `t` and dropping the range leaves the later timestamps and `t`. -/
theorem Holds.record {set : SortedSet String ℚ} {xs : Finset ℚ≥0} (h : Holds str set xs)
    (hw : 0 < limit.windowSeconds) :
    Holds str ((set.zadd (str t) t).zremrangebyscore 0 (t - limit.windowSeconds))
      (insert t (later limit t xs)) := by
  have hw' : (0 : ℚ) < limit.windowSeconds := Nat.cast_pos.mpr hw
  intro e
  rw [SortedSet.mem_entries_zremrangebyscore, SortedSet.mem_entries_zadd, h e]
  constructor
  · rintro ⟨rfl | ⟨⟨x, hx, rfl⟩, -⟩, hrange⟩
    · exact ⟨t, Finset.mem_insert_self _ _, rfl⟩
    · have hx' : (t : ℚ) - limit.windowSeconds < x := by
        by_contra hle
        exact hrange ⟨NNRat.coe_nonneg x, not_lt.mp hle⟩
      exact ⟨x, Finset.mem_insert_of_mem (Finset.mem_filter.mpr ⟨hx, hx'⟩), rfl⟩
  · rintro ⟨x, hx, rfl⟩
    by_cases hxt : x = t
    · subst hxt
      exact ⟨.inl rfl, fun hrange => absurd hrange.2 (by linarith)⟩
    · obtain ⟨hmem, hrecent⟩ :=
        Finset.mem_filter.mp ((Finset.mem_insert.mp hx).resolve_left hxt)
      refine ⟨.inr ⟨⟨x, hmem, rfl⟩, fun he => hxt (str.injective he)⟩, fun hrange => ?_⟩
      exact absurd hrange.2 (not_le.mpr hrecent)

/-- What is stored at a key when the server has seen these timestamps, the last of them at
`last`: all that are later than `last - w`, and none that it has not seen. -/
def Keeps (limit : Limit) (str : ℚ≥0 ↪ String) (seen : Finset ℚ≥0) (last : ℚ≥0)
    (value : Option (Value String ℚ ℚ)) : Prop :=
  (∀ x ∈ seen, x ≤ last) ∧
  ((seen = ∅ ∧ value = none) ∨ ∃ xs ⊆ seen, later limit last seen ⊆ xs ∧
    ∃ set, Holds str set xs ∧ value = some ⟨set, some (last + limit.windowSeconds)⟩)

/-- What is read of the key later: a key that has lapsed by then held nothing recent. -/
theorem Keeps.getSet (lapse : Lapse ℚ) (h : Keeps limit str seen last (redis key))
    (hnow : last ≤ now) : ∃ xs ⊆ seen, later limit now seen ⊆ xs ∧
      Holds str (Store.getSet lapse now redis key) xs := by
  have hnow' : (last : ℚ) ≤ now := NNRat.coe_le_coe.mpr hnow
  obtain ⟨hlast, ⟨rfl, hnone⟩ | ⟨xs, hxs, hlater, set, hset, hvalue⟩⟩ := h
  · refine ⟨∅, subset_rfl, Finset.filter_subset _ _, fun e => ?_⟩
    rw [Store.getSet, Store.get, hnone]
    simp [Dicts.Dict.empty]
  · rw [Store.getSet_of_some hvalue]
    by_cases hl : lapse.lapsed (last + limit.windowSeconds) now
    · -- every timestamp is as old as the window by now
      refine ⟨∅, Finset.empty_subset _, fun x hx => ?_, fun e => ?_⟩
      · obtain ⟨hx, hrecent⟩ := Finset.mem_filter.mp hx
        have hdeadline := lapse.sound _ _ hl
        have hxl : (x : ℚ) ≤ last := NNRat.coe_le_coe.mpr (hlast x hx)
        linarith
      · rw [if_pos hl]
        simp [Dicts.Dict.empty]
    · rw [if_neg hl]
      refine ⟨xs, hxs, fun x hx => hlater ?_, hset⟩
      obtain ⟨hx, hrecent⟩ := Finset.mem_filter.mp hx
      exact Finset.mem_filter.mpr ⟨hx, by linarith⟩

/-- The pipeline counts all timestamps later than its execution minus the window, and
none that is not later than its own minus the window. -/
theorem pipeline_spec (lapse : Lapse ℚ) (hw : 0 < limit.windowSeconds)
    (h : Keeps limit str seen last (redis key)) (hnow : last ≤ now) (ht : t ≤ now) :
    (later limit now (insert t seen)).card ≤ (pipeline limit str lapse redis key t now).1 ∧
    (pipeline limit str lapse redis key t now).1 ≤ (later limit t (insert t seen)).card ∧
    Keeps limit str (insert t seen) now ((pipeline limit str lapse redis key t now).2 key) := by
  have hw' : (0 : ℚ) < limit.windowSeconds := Nat.cast_pos.mpr hw
  have ht' : (t : ℚ) ≤ now := NNRat.coe_le_coe.mpr ht
  obtain ⟨xs, hxs, hlater, hbase⟩ := h.getSet lapse hnow
  have hset : Holds str (Store.getSet lapse now ((redis.zadd lapse now key (str t)
      t).zremrangebyscore lapse now key 0 (t - limit.windowSeconds)) key)
      (insert t (later limit t xs)) := by
    rw [Store.zremrangebyscore, Store.getSet_putSet, Store.zadd, Store.getSet_putSet]
    exact hbase.record hw
  have hlow : later limit now (insert t seen) ⊆ insert t (later limit t xs) := by
    intro x hx
    obtain ⟨hx, hrecent⟩ := Finset.mem_filter.mp hx
    obtain rfl | hx := Finset.mem_insert.mp hx
    · exact Finset.mem_insert_self _ _
    · refine Finset.mem_insert_of_mem (Finset.mem_filter.mpr ⟨hlater ?_, by linarith⟩)
      exact Finset.mem_filter.mpr ⟨hx, hrecent⟩
  have hhigh : insert t (later limit t xs) ⊆ later limit t (insert t seen) := by
    intro x hx
    obtain rfl | hx := Finset.mem_insert.mp hx
    · exact Finset.mem_filter.mpr ⟨Finset.mem_insert_self _ _, by linarith⟩
    · obtain ⟨hx, hrecent⟩ := Finset.mem_filter.mp hx
      exact Finset.mem_filter.mpr ⟨Finset.mem_insert_of_mem (hxs hx), hrecent⟩
  have hcount : (pipeline limit str lapse redis key t now).1 =
      (insert t (later limit t xs)).card := hset.zcard
  refine ⟨?_, ?_, fun x hx => ?_, .inr ⟨_, hhigh.trans (Finset.filter_subset _ _), hlow, _, hset,
    Store.expire_self ?_⟩⟩
  · rw [hcount]
    exact Finset.card_le_card hlow
  · rw [hcount]
    exact Finset.card_le_card hhigh
  · obtain rfl | hx := Finset.mem_insert.mp hx
    · exact ht
    · exact (h.1 x hx).trans hnow
  · exact List.ne_nil_of_mem ((hset _).mpr ⟨t, Finset.mem_insert_self _ _, rfl⟩)

/-- The other keys are left alone. -/
theorem pipeline_of_ne {key' : String} (hne : key' ≠ key) :
    (pipeline limit str lapse redis key t now).2 key' = redis key' := by
  rw [pipeline]
  dsimp only
  rw [Store.expire_of_ne hne, Store.zremrangebyscore, Store.putSet_of_ne hne, Store.zadd,
    Store.putSet_of_ne hne]

theorem wrapper_of_key (hk : request.key = some key) :
    wrapper limit str lapse redis (some request) t now =
      (limit.decide (pipeline limit str lapse redis key t now).1,
        (pipeline limit str lapse redis key t now).2) := by
  rw [wrapper]
  simp only [hk]

/-- A request with another key, or with none, leaves the key alone. -/
theorem wrapper_of_ne (hk : request.key ≠ some key) :
    (wrapper limit str lapse redis (some request) t now).2 key = redis key := by
  rw [wrapper]
  cases h : request.key with
  | none => rfl
  | some key' =>
    refine pipeline_of_ne ?_
    rintro rfl
    exact hk h

end Step

end VirtualStack.RateLimiter
