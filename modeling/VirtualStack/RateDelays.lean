import Mathlib.Data.List.Induction
import VirtualStack.Keyed
import VirtualStack.RateLimiter

/-!
# Requests that reach the server late

A worker takes the timestamp of a request before the pipeline is on its way, so that
Redis runs it at a later time, and not in the order of the timestamps. The clock of the
server decides when a key lapses; the timestamps decide what is dropped and counted.
-/

namespace VirtualStack.RateLimiter
open SortedSets
open scoped NNRat

/-- A request with its timestamp, and the time at which the server runs its pipeline. -/
structure Execution where
  request : Request
  time : ℚ≥0
  executed : ℚ≥0
  deriving DecidableEq

section Programs

variable (limit : Limit) (str : ℚ≥0 ↪ String) (lapse : Lapse ℚ)

def serve (redis : Redis) (e : Execution) : Decision × Redis :=
  wrapper limit str lapse redis (some e.request) e.time e.executed

/-- The server after the executions, in the order in which it runs them. -/
def served (executions : List Execution) : Redis :=
  executions.foldl (fun redis e => (serve limit str lapse redis e).2) .empty

/-- What the last of the executions is told. -/
def decisionOf (executions : List Execution) (e : Execution) : Decision :=
  (serve limit str lapse (served limit str lapse executions) e).1

/-- The executions with the decisions about them. -/
def logAt : Redis → List Execution → List (Execution × Decision) :=
  Keyed.trace (serve limit str lapse)

end Programs

/-- The timestamps of the executions at a key, in order. -/
def stampsAt (key : String) (executions : List Execution) : List ℚ≥0 :=
  (executions.filter (·.request.key = some key)).map (·.time)

/-- The timestamps of the executions at a key. -/
def stamps (key : String) (executions : List Execution) : Finset ℚ≥0 :=
  (stampsAt key executions).toFinset

/-- The timestamps of the requests at a key that were admitted, in order. -/
def admittedAt (limit : Limit) (str : ℚ≥0 ↪ String) (lapse : Lapse ℚ) (key : String)
    (executions : List Execution) : List ℚ≥0 :=
  ((logAt limit str lapse .empty executions).filter fun p =>
    p.1.request.key = some key ∧ p.2 = .admitted).map (·.1.time)

/-- The timestamps of the requests at a key that were admitted. -/
def admittedStamps (limit : Limit) (str : ℚ≥0 ↪ String) (lapse : Lapse ℚ) (key : String)
    (executions : List Execution) : Finset ℚ≥0 :=
  (admittedAt limit str lapse key executions).toFinset

/-- The server's clock does not go back between the executions at a key, and no timestamp
is ahead of it. -/
structure Orderly (key : String) (executions : List Execution) : Prop where
  clock : ((executions.filter (·.request.key = some key)).map (·.executed)).Pairwise (· ≤ ·)
  behind : ∀ e ∈ executions, e.request.key = some key → e.time ≤ e.executed

section Runs

variable {limit : Limit} {str : ℚ≥0 ↪ String} {lapse : Lapse ℚ} {key : String}
  {executions : List Execution} {e : Execution}

theorem served_concat (executions : List Execution) (e : Execution) :
    served limit str lapse (executions ++ [e]) =
      (serve limit str lapse (served limit str lapse executions) e).2 := by
  rw [served, List.foldl_append]
  rfl

theorem logAt_concat (executions : List Execution) (e : Execution) :
    logAt limit str lapse .empty (executions ++ [e]) = logAt limit str lapse .empty executions ++
      [(e, decisionOf limit str lapse executions e)] := Keyed.trace_concat _ _ _

theorem stampsAt_concat_of_key (hk : e.request.key = some key) :
    stampsAt key (executions ++ [e]) = stampsAt key executions ++ [e.time] := by
  simp [stampsAt, List.filter_append, hk]

theorem stamps_concat_of_key (hk : e.request.key = some key) :
    stamps key (executions ++ [e]) = insert e.time (stamps key executions) := by
  ext x
  simp [stamps, stampsAt_concat_of_key hk]

theorem stampsAt_concat_of_ne (hk : e.request.key ≠ some key) :
    stampsAt key (executions ++ [e]) = stampsAt key executions := by
  rw [stampsAt, List.filter_append, List.filter_cons_of_neg (by simpa using hk), List.filter_nil,
    List.append_nil]
  rfl

theorem Orderly.of_concat (h : Orderly key (executions ++ [e])) : Orderly key executions := by
  refine ⟨?_, fun e' he' => h.behind e' (List.mem_append_left _ he')⟩
  have hclock := h.clock
  rw [List.filter_append, List.map_append] at hclock
  exact (List.pairwise_append.mp hclock).1

theorem Orderly.executed_le (h : Orderly key (executions ++ [e])) (hk : e.request.key = some key) :
    ∀ e' ∈ executions, e'.request.key = some key → e'.executed ≤ e.executed := by
  intro e' he' hk'
  have hclock := h.clock
  rw [List.filter_append, List.map_append, List.pairwise_append] at hclock
  refine hclock.2.2 _ (List.mem_map.mpr ⟨e', List.mem_filter.mpr ⟨he', by simpa using hk'⟩, rfl⟩)
    _ ?_
  simp [hk]

/-- What the key holds after any executions, at the time of the last one there. -/
theorem keeps_served (hw : 0 < limit.windowSeconds) (str : ℚ≥0 ↪ String) (lapse : Lapse ℚ)
    (h : Orderly key executions) : ∃ last,
      Keeps limit str (stamps key executions) last (served limit str lapse executions key) ∧
      ∀ now, (∀ e ∈ executions, e.request.key = some key → e.executed ≤ now) → last ≤ now := by
  induction executions using List.reverseRecOn with
  | nil => exact ⟨0, ⟨by simp [stamps, stampsAt], .inl ⟨rfl, rfl⟩⟩, fun _ _ => zero_le⟩
  | append_singleton executions e ih =>
    obtain ⟨last, hkeeps, hlast⟩ := ih h.of_concat
    rw [served_concat, serve]
    by_cases hk : e.request.key = some key
    · have hle := hlast e.executed (h.executed_le hk)
      have hbehind := h.behind e (List.mem_append_right _ (List.mem_singleton.mpr rfl)) hk
      obtain ⟨-, -, hnext⟩ := pipeline_spec lapse hw hkeeps hle hbehind
      refine ⟨e.executed, ?_, fun now hnow => ?_⟩
      · rw [stamps_concat_of_key hk, wrapper_of_key hk]
        exact hnext
      · exact hnow e (List.mem_append_right _ (List.mem_singleton.mpr rfl)) hk
    · refine ⟨last, ?_, fun now hnow => hlast now fun e' he' =>
        hnow e' (List.mem_append_left _ he')⟩
      rw [stamps, stampsAt_concat_of_ne hk, wrapper_of_ne hk]
      exact hkeeps

/-- A request is decided by a count of timestamps that the server has seen, its own among
them: of all that are later than its execution minus the window, and of none that is not
later than its own timestamp minus the window. -/
theorem decisionOf_eq_decide (hw : 0 < limit.windowSeconds) (str : ℚ≥0 ↪ String)
    (lapse : Lapse ℚ) (hk : e.request.key = some key) (h : Orderly key (executions ++ [e])) :
    ∃ n, decisionOf limit str lapse executions e = limit.decide n ∧
      (later limit e.executed (stamps key (executions ++ [e]))).card ≤ n ∧
      n ≤ (later limit e.time (stamps key (executions ++ [e]))).card := by
  obtain ⟨last, hkeeps, hlast⟩ := keeps_served hw str lapse h.of_concat
  have hle := hlast e.executed (h.executed_le hk)
  have hbehind := h.behind e (List.mem_append_right _ (List.mem_singleton.mpr rfl)) hk
  obtain ⟨hlow, hhigh, -⟩ := pipeline_spec lapse hw hkeeps hle hbehind
  rw [stamps_concat_of_key hk]
  exact ⟨_, congrArg Prod.fst (wrapper_of_key hk), hlow, hhigh⟩

/-- A request is admitted only if at most `max_requests` timestamps that the server has
seen, its own among them, are later than its execution minus the window; it is refused
only if more of them are later than its own timestamp minus the window. -/
theorem decisionOf_sandwich (hw : 0 < limit.windowSeconds) (lapse : Lapse ℚ)
    (hk : e.request.key = some key) (h : Orderly key (executions ++ [e])) :
    (decisionOf limit str lapse executions e = .admitted →
      ((later limit e.executed (stamps key (executions ++ [e]))).card : ℤ) ≤ limit.maxRequests) ∧
    (decisionOf limit str lapse executions e ≠ .admitted →
      limit.maxRequests < (later limit e.time (stamps key (executions ++ [e]))).card) := by
  obtain ⟨n, hdecide, hlow, hhigh⟩ := decisionOf_eq_decide hw str lapse hk h
  rw [hdecide, Ne, decide_eq_admitted, not_le]
  exact ⟨fun hadmit => le_trans (Int.ofNat_le.mpr hlow) hadmit,
    fun hreject => lt_of_lt_of_le hreject (Int.ofNat_le.mpr hhigh)⟩

theorem decisionOf_sandwich_sample :
    (decisionOf onceAMinute sampleStr .atDeadline [⟨login, 10, 12⟩] ⟨login, 5, 13⟩ = .admitted →
      ((later onceAMinute 13 (stamps loginKey [⟨login, 10, 12⟩, ⟨login, 5, 13⟩])).card : ℤ) ≤ 1) ∧
    (decisionOf onceAMinute sampleStr .atDeadline [⟨login, 10, 12⟩] ⟨login, 5, 13⟩ ≠ .admitted →
      1 < ((later onceAMinute 5 (stamps loginKey [⟨login, 10, 12⟩, ⟨login, 5, 13⟩])).card : ℤ)) :=
  decisionOf_sandwich (by decide) .atDeadline (by decide) ⟨by decide, by decide⟩

end Runs

/-! ## The quota in spite of delays -/

section Quota

variable {limit : Limit} {str : ℚ≥0 ↪ String} {lapse : Lapse ℚ} {key : String}
  {executions : List Execution} {e : Execution}

theorem mem_admittedStamps_concat {x : ℚ≥0} :
    x ∈ admittedStamps limit str lapse key (executions ++ [e]) ↔
      x ∈ admittedStamps limit str lapse key executions ∨ e.request.key = some key ∧
        decisionOf limit str lapse executions e = .admitted ∧ e.time = x := by
  simp only [admittedStamps, admittedAt, logAt_concat, List.filter_append, List.map_append,
    List.toFinset_append, Finset.mem_union, List.mem_toFinset]
  refine or_congr_right ?_
  by_cases hp : e.request.key = some key ∧ decisionOf limit str lapse executions e = .admitted
  · simp [hp.1, hp.2, eq_comm]
  · rw [List.filter_cons_of_neg (by simpa using hp)]
    simp only [List.filter_nil, List.map_nil, List.not_mem_nil, false_iff]
    exact fun hx => hp ⟨hx.1, hx.2.1⟩

theorem admittedStamps_subset :
    admittedStamps limit str lapse key executions ⊆ stamps key executions := by
  induction executions using List.reverseRecOn with
  | nil => simp [admittedStamps, admittedAt, logAt, Keyed.trace]
  | append_singleton executions e ih =>
    intro x hx
    by_cases hk : e.request.key = some key
    · rw [stamps_concat_of_key hk]
      obtain hx | ⟨-, -, rfl⟩ := mem_admittedStamps_concat.mp hx
      · exact Finset.mem_insert_of_mem (ih hx)
      · exact Finset.mem_insert_self _ _
    · rw [stamps, stampsAt_concat_of_ne hk]
      exact ih ((mem_admittedStamps_concat.mp hx).resolve_right fun hlast => hk hlast.1)

/-- The admitted requests of a time carry at most `max_requests` timestamps, when each of
its requests is executed within a window of the beginning. -/
theorem card_admitted_le (hw : 0 < limit.windowSeconds) (hmax : 0 ≤ limit.maxRequests)
    (str : ℚ≥0 ↪ String) (lapse : Lapse ℚ) (h : Orderly key executions) {a b : ℚ}
    (hab : ∀ e ∈ executions, e.request.key = some key → (e.time : ℚ) ≤ b →
      (e.executed : ℚ) - limit.windowSeconds ≤ a) :
    (((admittedStamps limit str lapse key executions).filter fun x : ℚ≥0 =>
      a < x ∧ (x : ℚ) ≤ b).card : ℤ) ≤ limit.maxRequests := by
  induction executions using List.reverseRecOn with
  | nil => simpa [admittedStamps, admittedAt, logAt, Keyed.trace] using hmax
  | append_singleton executions e ih =>
    have hprev := ih h.of_concat fun e' he' => hab e' (List.mem_append_left _ he')
    by_cases hlast : e.request.key = some key ∧
        decisionOf limit str lapse executions e = .admitted ∧ a < e.time ∧ (e.time : ℚ) ≤ b
    · -- the last request was admitted with all the others before the server
      obtain ⟨hk, hadmit, -, hle⟩ := hlast
      have hlate := hab e (List.mem_append_right _ (List.mem_singleton.mpr rfl)) hk hle
      obtain ⟨n, hdecide, hlow, -⟩ := decisionOf_eq_decide hw str lapse hk h
      rw [hdecide, decide_eq_admitted] at hadmit
      refine le_trans (Int.ofNat_le.mpr (le_trans (Finset.card_le_card fun x hx => ?_) hlow)) hadmit
      obtain ⟨hx, hrecent, -⟩ := Finset.mem_filter.mp hx
      exact Finset.mem_filter.mpr ⟨admittedStamps_subset hx, lt_of_le_of_lt hlate hrecent⟩
    · refine le_trans (Int.ofNat_le.mpr (Finset.card_le_card fun x hx => ?_)) hprev
      obtain ⟨hx, hwindow⟩ := Finset.mem_filter.mp hx
      refine Finset.mem_filter.mpr ⟨?_, hwindow⟩
      refine (mem_admittedStamps_concat.mp hx).resolve_right ?_
      rintro ⟨hk, hadmit, rfl⟩
      exact hlast ⟨hk, hadmit, hwindow⟩

/-- When no request is more than `delay` late, the admitted ones in any time of the length
of the window less the delay carry at most `max_requests` timestamps, in whatever order
they reach the server. -/
theorem late_admitted_le_max_requests (hw : 0 < limit.windowSeconds)
    (hmax : 0 ≤ limit.maxRequests) (lapse : Lapse ℚ) (h : Orderly key executions) {delay : ℚ}
    (hdelay : ∀ e ∈ executions, e.request.key = some key → (e.executed : ℚ) ≤ e.time + delay)
    (t : ℚ) :
    (((admittedStamps limit str lapse key executions).filter fun x : ℚ≥0 =>
      t - (limit.windowSeconds - delay) < x ∧ (x : ℚ) ≤ t).card : ℤ) ≤ limit.maxRequests := by
  refine card_admitted_le hw hmax str lapse h fun e he hk hle => ?_
  have hlate := hdelay e he hk
  linarith

theorem late_admitted_le_max_requests_sample :
    (((admittedStamps onceAMinute sampleStr .atDeadline loginKey
      [⟨login, 10, 12⟩, ⟨login, 5, 13⟩]).filter fun x : ℚ≥0 =>
        (40 : ℚ) - (onceAMinute.windowSeconds - 8) < x ∧ (x : ℚ) ≤ 40).card : ℤ) ≤
      onceAMinute.maxRequests := by
  have hlate : ∀ e ∈ [(⟨login, 10, 12⟩ : Execution), ⟨login, 5, 13⟩],
      e.request.key = some loginKey → (e.executed : ℚ) ≤ e.time + 8 := by
    simp only [List.forall_mem_cons]
    norm_num
  exact late_admitted_le_max_requests (by decide) (by decide) .atDeadline ⟨by decide, by decide⟩
    hlate 40

end Quota

end VirtualStack.RateLimiter
