import VirtualStack.RateDelays

/-!
# Clients that share a server

The decisions about one client at one path are those of a server that only this client
uses, whatever the timestamps are and in whatever order the requests are served. A client
is what the first entry of `X-Forwarded-For` says.
-/

namespace VirtualStack.RateLimiter
open SortedSets
open scoped NNRat

/-- The key of requests to a path from a client that has an identifier. -/
def clientKey (path identifier : String) : String := s!"rate_limit:{path}:{identifier}"

theorem Request.key_eq_some_iff {request : Request} {key : String} :
    request.key = some key ↔
      request.identifier ≠ "" ∧ clientKey request.path request.identifier = key := by
  rw [Request.key]
  split_ifs with h
  · exact iff_of_false (by simp) fun hk => hk.1 h
  · rw [Option.some.injEq]
    exact ⟨fun hk => ⟨h, hk⟩, And.right⟩

theorem toList_clientKey (path identifier : String) :
    (clientKey path identifier).toList =
      "rate_limit:".toList ++ (path.toList ++ ':' :: identifier.toList) := by
  simp [clientKey, toString]

/-- The first colon of a list tells where it is cut. -/
theorem cut_inj {xs xs' ys ys' : List Char} (hx : ':' ∉ xs) (hx' : ':' ∉ xs')
    (h : xs ++ ':' :: ys = xs' ++ ':' :: ys') : xs = xs' ∧ ys = ys' := by
  have hnot : ∀ {as zs zs' : List Char}, ':' ∉ as → ':' :: zs = as ++ ':' :: zs' → as = [] := by
    intro as zs zs' has heq
    cases as with
    | nil => rfl
    | cons a as =>
      rw [List.cons_append, List.cons.injEq] at heq
      rw [heq.1] at has
      exact absurd List.mem_cons_self has
  obtain ⟨as, rfl, has⟩ | ⟨as, rfl, has⟩ := List.append_eq_append_iff.mp h
  · obtain rfl := hnot (fun hmem => hx' (List.mem_append_right _ hmem)) has
    exact ⟨(List.append_nil xs).symm, (List.cons.inj has).2⟩
  · obtain rfl := hnot (fun hmem => hx (List.mem_append_right _ hmem)) has
    exact ⟨List.append_nil xs', (List.cons.inj has).2.symm⟩

theorem clientKey_inj {path path' identifier identifier' : String} (hp : ':' ∉ path.toList)
    (hp' : ':' ∉ path'.toList) (h : clientKey path identifier = clientKey path' identifier') :
    path = path' ∧ identifier = identifier' := by
  have hlists := congrArg String.toList h
  rw [toList_clientKey, toList_clientKey] at hlists
  obtain ⟨hpath, hid⟩ := cut_inj hp hp' (List.append_cancel_left hlists)
  exact ⟨String.toList_inj.mp hpath, String.toList_inj.mp hid⟩

/-! ## One request works on one key -/

section Runs

variable {limit : Limit} {str : ℚ≥0 ↪ String} {lapse : Lapse ℚ} {executions : List Execution}

theorem pipeline_congr {redis redis' : Redis} {key : String} (t now : ℚ≥0)
    (h : redis key = redis' key) :
    (pipeline limit str lapse redis key t now).1 = (pipeline limit str lapse redis' key t now).1 ∧
      (pipeline limit str lapse redis key t now).2 key =
        (pipeline limit str lapse redis' key t now).2 key := by
  have hset : (redis.zadd lapse now key (str t) t).zremrangebyscore lapse now key 0
      (t - limit.windowSeconds) key = (redis'.zadd lapse now key (str t) t).zremrangebyscore
      lapse now key 0 (t - limit.windowSeconds) key :=
    Store.zremrangebyscore_congr (Store.zadd_congr h _ _) _ _
  constructor
  · exact congrArg SortedSet.zcard (Store.getSet_congr hset)
  · exact Store.expire_congr hset _

theorem serve_local (limit : Limit) (str : ℚ≥0 ↪ String) (lapse : Lapse ℚ) :
    Keyed.Local (fun e : Execution => e.request.key) (serve limit str lapse) where
  output redis redis' e h := by
    cases hk : e.request.key with
    | none => simp only [serve, wrapper, hk]
    | some key =>
      rw [serve, serve, wrapper_of_key hk, wrapper_of_key hk]
      exact congrArg limit.decide (pipeline_congr e.time e.executed (h key hk)).1
  own redis redis' e key hk h := by
    rw [serve, serve, wrapper_of_key hk, wrapper_of_key hk]
    exact (pipeline_congr e.time e.executed h).2
  frame redis e key hk := wrapper_of_ne hk

/-! ## Isolation -/

variable {path identifier : String}

/-- Where no path has a colon in it, the decisions about a client at a path are those of a
server that serves only the requests of this client to this path. -/
theorem decisions_of_own_requests (limit : Limit) (str : ℚ≥0 ↪ String) (lapse : Lapse ℚ)
    (hpath : ':' ∉ path.toList) (hpaths : ∀ e ∈ executions, ':' ∉ e.request.path.toList)
    (identifier : String) :
    (logAt limit str lapse .empty executions).filter
        (fun p => p.1.request.path = path ∧ p.1.request.identifier = identifier) =
      logAt limit str lapse .empty (executions.filter
        fun e => e.request.path = path ∧ e.request.identifier = identifier) := by
  refine (serve_local limit str lapse).filter_trace
    (Keyed.Agree.refl (· = clientKey path identifier) _)
    (fun e => e.request.path = path ∧ e.request.identifier = identifier) executions ?_
  intro e he key hk
  obtain ⟨-, rfl⟩ := Request.key_eq_some_iff.mp hk
  rw [decide_eq_true_eq]
  constructor
  · rintro ⟨rfl, rfl⟩
    rfl
  · exact clientKey_inj (hpaths e he) hpath

theorem decisions_of_own_requests_sample :
    (logAt onceAMinute sampleStr .atDeadline .empty
        [⟨login, 10, 12⟩, ⟨⟨login.path, none, some "::1"⟩, 11, 13⟩, ⟨login, 9, 14⟩]).filter
        (fun p => p.1.request.path = login.path ∧ p.1.request.identifier = "::1") =
      logAt onceAMinute sampleStr .atDeadline .empty
        ([⟨login, 10, 12⟩, ⟨⟨login.path, none, some "::1"⟩, 11, 13⟩, ⟨login, 9, 14⟩].filter
          fun e => e.request.path = login.path ∧ e.request.identifier = "::1") :=
  decisions_of_own_requests onceAMinute sampleStr .atDeadline (by decide) (by decide) "::1"

/-! ## Clients that change their name -/

/-- A key that has not been used counts one request. -/
theorem decisionOf_new (hw : 0 < limit.windowSeconds) (hmax : 1 ≤ limit.maxRequests)
    {e : Execution} (ht : e.time ≤ e.executed)
    (hnew : ∀ e' ∈ executions, e'.request.key ≠ e.request.key) :
    decisionOf limit str lapse executions e = .callsFunc ∨
      decisionOf limit str lapse executions e = .admitted := by
  cases hk : e.request.key with
  | none =>
    left
    simp only [decisionOf, serve, wrapper, hk]
  | some key =>
    right
    rw [hk] at hnew
    have hempty : served limit str lapse executions key = none := by
      induction executions using List.reverseRecOn with
      | nil => rfl
      | append_singleton executions e' ih =>
        rw [served_concat, serve, wrapper_of_ne (hnew e' (by simp))]
        exact ih fun e'' he'' => hnew e'' (List.mem_append_left _ he'')
    have hkeeps : Keeps limit str ∅ 0 (served limit str lapse executions key) :=
      ⟨by simp, .inl ⟨rfl, hempty⟩⟩
    obtain ⟨-, hhigh, -⟩ := pipeline_spec lapse hw hkeeps (zero_le) ht
    have hone : (later limit e.time (insert e.time ∅)).card ≤ 1 :=
      (Finset.card_le_card (Finset.filter_subset _ _)).trans (by simp)
    rw [decisionOf, serve, wrapper_of_key hk, decide_eq_admitted]
    omega

/-- At one path the identifier decides the key. -/
theorem Request.identifier_eq_of_key_eq {request request' : Request}
    (hpath : request.path = request'.path) (h : request.key = request'.key) :
    request.identifier = request'.identifier := by
  cases hk : request'.key with
  | some key =>
    rw [hk] at h
    obtain ⟨-, hkey⟩ := key_eq_some_iff.mp h
    obtain ⟨-, rfl⟩ := key_eq_some_iff.mp hk
    have hlists := congrArg String.toList hkey
    rw [toList_clientKey, toList_clientKey, hpath] at hlists
    have hcons := List.append_cancel_left (List.append_cancel_left hlists)
    exact String.toList_inj.mp (List.cons.inj hcons).2
  | none =>
    have hempty : ∀ {r : Request}, r.key = none → r.identifier = "" := by
      intro r hr
      by_contra hne
      rw [Request.key, if_neg hne] at hr
      cases hr
    rw [hempty hk, hempty (h.trans hk)]

/-- Requests to a path of which each names another client first are never refused, however
many there are in a window. -/
theorem never_refused_of_new_identifiers (path : String) (hw : 0 < limit.windowSeconds)
    (hmax : 1 ≤ limit.maxRequests) (hpath : ∀ e ∈ executions, e.request.path = path)
    (hbehind : ∀ e ∈ executions, e.time ≤ e.executed)
    (hnew : (executions.map (·.request.identifier)).Nodup) :
    ∀ p ∈ logAt limit str lapse .empty executions, p.2 = .callsFunc ∨ p.2 = .admitted := by
  induction executions using List.reverseRecOn with
  | nil => simp [logAt, Keyed.trace]
  | append_singleton executions e ih =>
    have he : e ∈ executions ++ [e] := List.mem_append_right _ (List.mem_singleton_self e)
    have hleft : ∀ e' ∈ executions, e' ∈ executions ++ [e] := fun _ => List.mem_append_left _
    rw [List.map_append, List.nodup_append] at hnew
    obtain ⟨hnodup, -, hother⟩ := hnew
    rw [logAt_concat]
    intro p hp
    obtain hp | hp := List.mem_append.mp hp
    · exact ih (fun e' he' => hpath e' (hleft e' he')) (fun e' he' => hbehind e' (hleft e' he'))
        hnodup p hp
    · obtain rfl := List.mem_singleton.mp hp
      refine decisionOf_new hw hmax (hbehind e he) fun e' he' hk => ?_
      have hsame := Request.identifier_eq_of_key_eq
        ((hpath e' (hleft e' he')).trans (hpath e he).symm) hk
      exact hother _ (List.mem_map_of_mem he') _ (List.mem_map_of_mem (List.mem_singleton_self e))
        hsame

def fromOtherName : Execution := ⟨⟨login.path, some "a, 10.0.0.1", some "10.0.0.1"⟩, 11, 13⟩

theorem never_refused_of_new_identifiers_sample :
    decisionOf onceAMinute sampleStr .atDeadline [⟨login, 10, 12⟩] fromOtherName = .callsFunc ∨
      decisionOf onceAMinute sampleStr .atDeadline [⟨login, 10, 12⟩] fromOtherName =
        .admitted := by
  have hlog : ∀ p ∈ logAt onceAMinute sampleStr .atDeadline .empty
      ([⟨login, 10, 12⟩] ++ [fromOtherName]), p.2 = .callsFunc ∨ p.2 = .admitted :=
    never_refused_of_new_identifiers login.path (by decide) (by decide) (by decide) (by decide)
      (by decide)
  rw [logAt_concat] at hlog
  exact hlog _ (List.mem_append_right _ List.mem_cons_self)

end Runs
end VirtualStack.RateLimiter
