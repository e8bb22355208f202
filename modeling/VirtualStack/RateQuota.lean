import VirtualStack.RateDelays

/-!
# The quota over runs of requests

What the limiter decides in every run of requests, of any number of clients, that the
server runs at the times of their timestamps, when those of the client at hand do not
decrease.
-/

namespace VirtualStack.RateLimiter
open SortedSets
open scoped NNRat

structure Arrival where
  request : Request
  time : ℚ≥0
  deriving DecidableEq

/-- The server runs the pipeline at the time that is recorded. -/
def Arrival.execution (a : Arrival) : Execution := ⟨a.request, a.time, a.time⟩

/-- The decisions about a list of requests. -/
def log (limit : Limit) (str : ℚ≥0 ↪ String) (lapse : Lapse ℚ) (redis : Redis)
    (arrivals : List Arrival) : List (Execution × Decision) :=
  logAt limit str lapse redis (arrivals.map Arrival.execution)

/-- The timestamps of the requests of one client to one path, which share a key. -/
def times (key : String) (arrivals : List Arrival) : List ℚ≥0 :=
  stampsAt key (arrivals.map Arrival.execution)

/-- `x` is in `(t - w, t]`. -/
def InWindow (limit : Limit) (t : ℚ) (x : ℚ≥0) : Prop :=
  t - limit.windowSeconds < x ∧ (x : ℚ) ≤ t

instance (limit : Limit) (t : ℚ) (x : ℚ≥0) : Decidable (InWindow limit t x) :=
  inferInstanceAs (Decidable (_ ∧ _))

/-- The timestamps in `(t - w, t]`. -/
def window (limit : Limit) (t : ℚ) (xs : Finset ℚ≥0) : Finset ℚ≥0 := xs.filter (InWindow limit t)

section Runs

variable {limit : Limit} {str : ℚ≥0 ↪ String} {lapse : Lapse ℚ} {key : String}
  {arrivals : List Arrival} {a : Arrival}

theorem times_eq_map (key : String) (arrivals : List Arrival) :
    times key arrivals = (arrivals.filter (·.request.key = some key)).map (·.time) := by
  rw [times, stampsAt, List.filter_map, List.map_map]
  rfl

theorem times_concat_of_key (hk : a.request.key = some key) :
    times key (arrivals ++ [a]) = times key arrivals ++ [a.time] := by
  rw [times, List.map_append]
  exact stampsAt_concat_of_key hk

theorem times_concat_of_ne (hk : a.request.key ≠ some key) :
    times key (arrivals ++ [a]) = times key arrivals := by
  rw [times, times, List.map_append, List.map_singleton, stampsAt_concat_of_ne hk]

theorem orderly_of_sorted (hmono : (times key arrivals).Pairwise (· ≤ ·)) :
    Orderly key (arrivals.map Arrival.execution) := by
  have hclock : ((arrivals.map Arrival.execution).filter (·.request.key = some key)).map
      (·.executed) = times key arrivals := by
    refine List.map_congr_left fun e he => ?_
    obtain ⟨a, -, rfl⟩ := List.mem_map.mp (List.mem_filter.mp he).1
    rfl
  refine ⟨hclock ▸ hmono, fun e he _ => ?_⟩
  obtain ⟨a, -, rfl⟩ := List.mem_map.mp he
  exact le_rfl

/-- A request is decided by the number of distinct timestamps in its window. -/
theorem decisionOf_eq_decide_window (hw : 0 < limit.windowSeconds) (str : ℚ≥0 ↪ String)
    (lapse : Lapse ℚ) (hk : a.request.key = some key)
    (hmono : (times key (arrivals ++ [a])).Pairwise (· ≤ ·)) :
    decisionOf limit str lapse (arrivals.map Arrival.execution) a.execution =
      limit.decide (window limit a.time (times key (arrivals ++ [a])).toFinset).card := by
  have horderly := orderly_of_sorted hmono
  rw [List.map_append, List.map_singleton] at horderly
  obtain ⟨n, hdecide, hlow, hhigh⟩ := decisionOf_eq_decide hw str lapse hk horderly
  have hstamps : stamps key (arrivals.map Arrival.execution ++ [a.execution]) =
      (times key (arrivals ++ [a])).toFinset := by
    rw [times, List.map_append, List.map_singleton, stamps]
  have hlater : later limit a.time (times key (arrivals ++ [a])).toFinset =
      window limit a.time (times key (arrivals ++ [a])).toFinset := by
    refine Finset.filter_congr fun x hx => (and_iff_left (NNRat.coe_le_coe.mpr ?_)).symm
    rw [times_concat_of_key hk] at hmono hx
    obtain hx | hx := List.mem_append.mp (List.mem_toFinset.mp hx)
    · exact (List.pairwise_append.mp hmono).2.2 x hx _ List.mem_cons_self
    · exact (List.mem_singleton.mp hx).le
  rw [hstamps] at hlow hhigh
  rw [hdecide, ← hlater]
  exact congrArg limit.decide (le_antisymm hhigh hlow)

/-- A later request is not in the window of an earlier one, unless it carries its
timestamp. -/
theorem window_concat {xs : List ℚ≥0} {x t : ℚ≥0} (hx : x ∈ xs) (hxt : x ≤ t) :
    window limit x (xs ++ [t]).toFinset = window limit x xs.toFinset := by
  ext y
  simp only [window, InWindow, Finset.mem_filter, List.mem_toFinset, List.mem_append,
    List.mem_singleton, NNRat.coe_le_coe]
  constructor
  · rintro ⟨hy | rfl, hin, hle⟩
    · exact ⟨hy, hin, hle⟩
    · exact ⟨le_antisymm hle hxt ▸ hx, hin, hle⟩
  · rintro ⟨hy, hin⟩
    exact ⟨.inl hy, hin⟩

/-- Each request of a client is decided by the number of distinct timestamps in its
window. -/
theorem filter_log (hw : 0 < limit.windowSeconds) (str : ℚ≥0 ↪ String) (lapse : Lapse ℚ)
    (hmono : (times key arrivals).Pairwise (· ≤ ·)) :
    (log limit str lapse .empty arrivals).filter (·.1.request.key = some key) =
      (arrivals.filter (·.request.key = some key)).map fun a =>
        (a.execution,
          limit.decide (window limit a.time (times key arrivals).toFinset).card) := by
  induction arrivals using List.reverseRecOn with
  | nil => rfl
  | append_singleton arrivals a ih =>
    have hlog : log limit str lapse .empty (arrivals ++ [a]) =
        log limit str lapse .empty arrivals ++ [(a.execution,
          decisionOf limit str lapse (arrivals.map Arrival.execution) a.execution)] := by
      rw [log, List.map_append, List.map_singleton, logAt_concat, log]
    rw [hlog, List.filter_append, List.filter_append, List.map_append]
    by_cases hk : a.request.key = some key
    · have hlast := decisionOf_eq_decide_window hw str lapse hk hmono
      rw [times_concat_of_key hk] at hmono hlast ⊢
      obtain ⟨hmono, -, hle⟩ := List.pairwise_append.mp hmono
      rw [ih hmono]
      congr 1
      · refine List.map_congr_left fun a' ha' => ?_
        have hmem : a'.time ∈ times key arrivals :=
          times_eq_map key arrivals ▸ List.mem_map_of_mem ha'
        rw [window_concat hmem (hle _ hmem _ List.mem_cons_self)]
      · rw [List.filter_cons_of_pos (by exact decide_eq_true hk),
          List.filter_cons_of_pos (by exact decide_eq_true hk), hlast]
        rfl
    · rw [times_concat_of_ne hk] at hmono ⊢
      rw [ih hmono, List.filter_cons_of_neg (by exact fun h => hk (of_decide_eq_true h)),
        List.filter_cons_of_neg (by exact fun h => hk (of_decide_eq_true h))]
      rfl

theorem times_logins (xs : List ℚ≥0) : times loginKey (xs.map (Arrival.mk login)) = xs := by
  have hkey : login.key = some loginKey := by decide
  have hall : ∀ a ∈ xs.map (Arrival.mk login), decide (a.request.key = some loginKey) = true := by
    intro a ha
    obtain ⟨x, -, rfl⟩ := List.mem_map.mp ha
    exact decide_eq_true hkey
  rw [times_eq_map, List.filter_eq_self.mpr hall, List.map_map]
  exact List.map_id xs

/-! ## Exact counting -/

/-- How many requests of the client are in `(t - w, t]`. -/
def requestsIn (limit : Limit) (key : String) (arrivals : List Arrival) (t : ℚ) : ℕ :=
  (times key arrivals).countP (InWindow limit t)

theorem card_window {xs : List ℚ≥0} (hn : xs.Nodup) (t : ℚ) :
    (window limit t xs.toFinset).card = xs.countP (InWindow limit t) := by
  rw [List.countP_eq_length_filter, ← List.toFinset_card_of_nodup (hn.filter _),
    List.toFinset_filter, window]
  simp only [decide_eq_true_eq]

/-- With increasing timestamps a request is admitted if and only if its window holds at
most `max_requests` requests, admitted or not; and whenever the key is let go, the
decisions are those of a server that never does. -/
theorem admitted_iff_within_quota (hw : 0 < limit.windowSeconds)
    (hmono : (times key arrivals).Pairwise (· < ·)) :
    (∀ p ∈ log limit str lapse .empty arrivals, p.1.request.key = some key →
      (p.2 = .admitted ↔
        (requestsIn limit key arrivals p.1.time : ℤ) ≤ limit.maxRequests)) ∧
    (log limit str lapse .empty arrivals).filter (·.1.request.key = some key) =
      (log limit str .never .empty arrivals).filter (·.1.request.key = some key) := by
  have hle : (times key arrivals).Pairwise (· ≤ ·) := hmono.imp le_of_lt
  have hn : (times key arrivals).Nodup := hmono.imp ne_of_lt
  constructor
  · intro p hp hk
    have hmem : p ∈ (log limit str lapse .empty arrivals).filter
        (·.1.request.key = some key) := List.mem_filter.mpr ⟨hp, by simpa using hk⟩
    rw [filter_log hw str lapse hle] at hmem
    obtain ⟨a, -, rfl⟩ := List.mem_map.mp hmem
    rw [decide_eq_admitted, card_window hn]
    rfl
  · rw [filter_log hw str lapse hle, filter_log hw str .never hle]

theorem admitted_iff_within_quota_sample :
    (∀ p ∈ log onceAMinute sampleStr .atDeadline .empty ([5, 20].map (Arrival.mk login)),
      p.1.request.key = some loginKey →
      (p.2 = .admitted ↔ (requestsIn onceAMinute loginKey ([5, 20].map (Arrival.mk login))
        p.1.time : ℤ) ≤ 1)) ∧
    (log onceAMinute sampleStr .atDeadline .empty ([5, 20].map (Arrival.mk login))).filter
        (·.1.request.key = some loginKey) =
      (log onceAMinute sampleStr .never .empty ([5, 20].map (Arrival.mk login))).filter
        (·.1.request.key = some loginKey) :=
  admitted_iff_within_quota (by decide) (by rw [times_logins]; decide)

/-! ## The quota -/

/-- The timestamps of the requests of the client that were admitted. -/
def admittedTimes (limit : Limit) (str : ℚ≥0 ↪ String) (lapse : Lapse ℚ) (key : String)
    (arrivals : List Arrival) : List ℚ≥0 :=
  admittedAt limit str lapse key (arrivals.map Arrival.execution)

/-- They are those whose own window holds at most `max_requests` distinct timestamps. -/
theorem admittedTimes_eq (hw : 0 < limit.windowSeconds)
    (hmono : (times key arrivals).Pairwise (· ≤ ·)) :
    admittedTimes limit str lapse key arrivals = (times key arrivals).filter fun x : ℚ≥0 =>
      ((window limit x (times key arrivals).toFinset).card : ℤ) ≤ limit.maxRequests := by
  have hlog : admittedTimes limit str lapse key arrivals =
      (((log limit str lapse .empty arrivals).filter (·.1.request.key = some key)).filter
        (·.2 = .admitted)).map (·.1.time) := by
    rw [List.filter_filter]
    simp only [admittedTimes, admittedAt, log, Bool.decide_and, Bool.and_comm]
  rw [hlog, filter_log hw str lapse hmono, List.filter_map, List.map_map]
  rw [times_eq_map, List.filter_map]
  congr 1
  refine List.filter_congr fun a _ => ?_
  simp only [Function.comp_apply, decide_eq_admitted, Arrival.execution]

/-- No window has more than `max_requests` admitted requests, when no two of the client
carry the same timestamp. -/
theorem admitted_le_max_requests (hw : 0 < limit.windowSeconds) (hmax : 0 ≤ limit.maxRequests)
    (hmono : (times key arrivals).Pairwise (· ≤ ·)) (hn : (times key arrivals).Nodup) (t : ℚ) :
    ((admittedTimes limit str lapse key arrivals).countP (InWindow limit t) : ℤ) ≤
      limit.maxRequests := by
  have hcard := card_admitted_le hw hmax str lapse (orderly_of_sorted hmono)
    (a := t - limit.windowSeconds) (b := t) fun e he _ hle => by
      obtain ⟨a, -, rfl⟩ := List.mem_map.mp he
      exact sub_le_sub_right hle _
  have hadmitted : (admittedTimes limit str lapse key arrivals).Nodup := by
    rw [admittedTimes_eq hw hmono]
    exact hn.filter _
  rw [← card_window hadmitted]
  exact hcard

theorem admitted_le_max_requests_sample :
    ((admittedTimes onceAMinute sampleStr .atDeadline loginKey
      ([5, 20].map (Arrival.mk login))).countP (InWindow onceAMinute 20) : ℤ) ≤ 1 :=
  admitted_le_max_requests (by decide) (by decide) (by rw [times_logins]; decide)
    (by rw [times_logins]; decide) 20

/-- Requests with one timestamp count as one, so that any number of them is admitted. -/
theorem admittedTimes_of_simultaneous (hw : 0 < limit.windowSeconds)
    (hmax : 1 ≤ limit.maxRequests) {x : ℚ≥0} (hall : ∀ y ∈ times key arrivals, y = x) :
    admittedTimes limit str lapse key arrivals = times key arrivals := by
  have hmono : (times key arrivals).Pairwise (· ≤ ·) :=
    List.pairwise_of_forall_mem_list fun y hy z hz => ((hall y hy).trans (hall z hz).symm).le
  rw [admittedTimes_eq hw hmono, List.filter_eq_self]
  intro y _
  have hsub : window limit y (times key arrivals).toFinset ⊆ {x} := by
    intro z hz
    exact Finset.mem_singleton.mpr (hall z (List.mem_toFinset.mp (Finset.mem_filter.mp hz).1))
  have hone : (window limit y (times key arrivals).toFinset).card ≤ 1 :=
    Finset.card_le_card hsub
  exact decide_eq_true (by omega)

end Runs

/-- Two logins at one time are both admitted. -/
theorem simultaneous_logins_admitted :
    ((times loginKey ([5, 5].map (Arrival.mk login))).Pairwise (· ≤ ·)) ∧
    ¬((admittedTimes onceAMinute sampleStr .atDeadline loginKey
      ([5, 5].map (Arrival.mk login))).countP (InWindow onceAMinute 5) : ℤ) ≤ 1 := by
  have hall : ∀ y ∈ times loginKey ([5, 5].map (Arrival.mk login)), y = 5 := by
    rw [times_logins]
    simp
  rw [admittedTimes_of_simultaneous (by decide) (by decide) hall, times_logins]
  constructor
  · simp
  · norm_num [InWindow, onceAMinute]

end VirtualStack.RateLimiter
