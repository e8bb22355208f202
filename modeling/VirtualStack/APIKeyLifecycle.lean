import VirtualStack.Runs
import VirtualStack.Services.APIKey

/-!
# The life of an API key

Calls of the key service one after another, each in a session of its own whose
flushed writes are taken as committed. The database keeps a prefix and a hash of
each key; a ledger beside it keeps what the clients were given, so that both
sides of a validation can be compared.
-/

namespace VirtualStack
open UnitOfWork APIKeyService

inductive KeyCall where
  | create (objIn : APIKeyCreate) (userId : UUID) (tenantId : Option UUID) (newId : UUID)
      (token : UrlsafeText)
  | update (dbObj : APIKey) (objIn : APIKeyUpdate)
  | delete (recordId : UUID)

/-- A raw key that was returned to a client, and whether its key was deleted
since. -/
structure KeyIssue where
  keyId : UUID
  rawKey : String
  userId : UUID
  deleted : Bool
  deriving DecidableEq, Repr

def KeyIssue.retire (keyId : UUID) (i : KeyIssue) : KeyIssue :=
  if i.keyId = keyId then { i with deleted := true } else i

structure KeyStore where
  db : Database
  issued : List KeyIssue

def KeyCall.next (env : Env) : KeyCall → KeyStore → KeyStore
  | create objIn userId tenantId newId token, s =>
    let call := createWithUser env objIn userId tenantId newId token
    { db := settle call s.db
      issued := match (serve call s.db).1 with
        | .ok (k, rawKey) => s.issued ++ [⟨k.id, rawKey, userId, false⟩]
        | .error _ => s.issued }
  | update dbObj objIn, s => { s with db := settle (APIKeyService.update env dbObj objIn) s.db }
  | delete recordId, s =>
    { db := settle (APIKeyService.delete recordId) s.db
      issued := match (serve (APIKeyService.delete recordId) s.db).1 with
        | .ok (some k) => s.issued.map (·.retire k.id)
        | _ => s.issued }

/-- The store after a run from a database without keys. -/
def KeyStore.after (env : Env) (d : Database) (calls : List KeyCall) : KeyStore :=
  Runs.after (KeyCall.next env) ⟨d, []⟩ calls

/-! ## What a call can do -/

/-- The columns of a key that no call writes after its creation. -/
def APIKey.SameIdentity (x y : APIKey) : Prop :=
  y.id = x.id ∧ y.keyPrefix = x.keyPrefix ∧ y.keyHash = x.keyHash ∧ y.userId = x.userId ∧
    y.scope = x.scope ∧ y.tenantId = x.tenantId

theorem APIKeyUpdate.sameIdentity (env : Env) (body : APIKeyUpdate) (x : APIKey) :
    x.SameIdentity (body.apply env x) := ⟨rfl, rfl, rfl, rfl, rfl, rfl⟩

/-- A call leaves the store, or adds, changes or deletes one key. -/
theorem KeyCall.next_cases (env : Env) (call : KeyCall) (s : KeyStore) :
    call.next env s = s ∨
    (∃ row token, ∃ hv : (s.db.addAPIKey row).Valid,
      row.keyPrefix = keyPrefix (generateAPIKey token) ∧
      row.keyHash = env.hashAPIKey (generateAPIKey token) ∧
      call.next env s =
        ⟨⟨_, hv⟩, s.issued ++ [⟨row.id, generateAPIKey token, row.userId, false⟩]⟩) ∨
    (∃ id f, ∃ hv : (s.db.modifyAPIKey id f).Valid, (∀ x : APIKey, x.SameIdentity (f x)) ∧
      call.next env s = ⟨⟨_, hv⟩, s.issued⟩) ∨
    ∃ id, call.next env s = ⟨⟨_, s.db.valid.dropAPIKey id⟩, s.issued.map (·.retire id)⟩ := by
  cases call with
  | create objIn userId tenantId newId token =>
    obtain hf | ⟨keyTenant, expiresAt, -, -, hv, hrun⟩ :=
      createWithUser_cases env s.db objIn userId tenantId newId token
    · obtain ⟨e, he⟩ := hf.serve
      left
      simp only [KeyCall.next, hf.settle, he]
    · have hserve := serve_of_ok (hrun s.db)
      right; left
      refine ⟨_, token, hv, rfl, rfl, ?_⟩
      simp only [KeyCall.next, settle, hserve]
      rfl
  | update dbObj objIn =>
    obtain hf | ⟨hv, k, hret⟩ := update_cases env s.db dbObj objIn
    · left
      simp only [KeyCall.next, hf.settle]
    · right; right; left
      refine ⟨_, _, hv, objIn.sameIdentity env, ?_⟩
      simp only [KeyCall.next, hret.settle]
  | delete recordId =>
    obtain ⟨-, hret⟩ | ⟨k, -, rfl, hret⟩ := delete_cases recordId s.db
    · left
      simp only [KeyCall.next, hret.settle, hret.serve]
    · right; right; right
      refine ⟨k.id, ?_⟩
      simp only [KeyCall.next, hret.settle, hret.serve]

/-! ## The ledger and the table -/

/-- The stored key is the one that the raw key was issued for. -/
def KeyIssue.Describes (env : Env) (i : KeyIssue) (k : APIKey) : Prop :=
  k.id = i.keyId ∧ k.userId = i.userId ∧ k.keyPrefix = keyPrefix i.rawKey ∧
    k.keyHash = env.hashAPIKey i.rawKey

theorem KeyIssue.Describes.congr {env : Env} {i : KeyIssue} {k k' : APIKey}
    (h : i.Describes env k) (hk : k.SameIdentity k') : i.Describes env k' :=
  ⟨hk.1.trans h.1, hk.2.2.2.1.trans h.2.1, hk.2.1.trans h.2.2.1, hk.2.2.1.trans h.2.2.2⟩

/-- Stored keys and undeleted issues describe each other. -/
structure KeyStore.Recorded (env : Env) (s : KeyStore) : Prop where
  generated : ∀ i ∈ s.issued, ∃ token, i.rawKey = generateAPIKey token
  issue : ∀ k ∈ s.db.apiKeys, ∃ i ∈ s.issued, i.deleted = false ∧ i.Describes env k
  stored : ∀ i ∈ s.issued, i.deleted = false → ∃ k ∈ s.db.apiKeys, i.Describes env k

namespace KeyStore

variable {env : Env} {s : KeyStore}

theorem Recorded.create {row : APIKey} {token : UrlsafeText}
    (hs : s.Recorded env) (hv : (s.db.addAPIKey row).Valid)
    (hpre : row.keyPrefix = keyPrefix (generateAPIKey token))
    (hhash : row.keyHash = env.hashAPIKey (generateAPIKey token)) :
    Recorded env
      ⟨⟨_, hv⟩, s.issued ++ [⟨row.id, generateAPIKey token, row.userId, false⟩]⟩ := by
  have hnew : (⟨row.id, generateAPIKey token, row.userId, false⟩ : KeyIssue).Describes env row :=
    ⟨rfl, rfl, hpre, hhash⟩
  constructor
  · intro i hi
    rcases List.mem_append.mp hi with hi | hi
    · exact hs.generated i hi
    · rw [List.mem_singleton.mp hi]
      exact ⟨token, rfl⟩
  · intro k hk
    rcases List.mem_append.mp hk with hk | hk
    · obtain ⟨i, hi, hlive, hdesc⟩ := hs.issue k hk
      exact ⟨i, List.mem_append_left _ hi, hlive, hdesc⟩
    · rw [List.mem_singleton.mp hk]
      exact ⟨_, List.mem_append_right _ (List.mem_singleton.mpr rfl), rfl, hnew⟩
  · intro i hi hlive
    rcases List.mem_append.mp hi with hi | hi
    · obtain ⟨k, hk, hdesc⟩ := hs.stored i hi hlive
      exact ⟨k, List.mem_append_left _ hk, hdesc⟩
    · rw [List.mem_singleton.mp hi]
      exact ⟨row, List.mem_append_right _ (List.mem_singleton.mpr rfl), hnew⟩

theorem Recorded.update {id : UUID} {f : APIKey → APIKey} (hs : s.Recorded env)
    (hv : (s.db.modifyAPIKey id f).Valid) (hf : ∀ x : APIKey, x.SameIdentity (f x)) :
    Recorded env ⟨⟨_, hv⟩, s.issued⟩ := by
  have hsame : ∀ x : APIKey, x.SameIdentity (if x.id = id then f x else x) := by
    intro x
    split_ifs
    · exact hf x
    · exact ⟨rfl, rfl, rfl, rfl, rfl, rfl⟩
  refine ⟨hs.generated, ?_, ?_⟩
  · intro k hk
    obtain ⟨x, hx, rfl⟩ := Rows.mem_modify.mp hk
    obtain ⟨i, hi, hlive, hdesc⟩ := hs.issue x hx
    exact ⟨i, hi, hlive, hdesc.congr (hsame x)⟩
  · intro i hi hlive
    obtain ⟨x, hx, hdesc⟩ := hs.stored i hi hlive
    exact ⟨_, Rows.mem_modify.mpr ⟨x, hx, rfl⟩, hdesc.congr (hsame x)⟩

theorem Recorded.delete (hs : s.Recorded env) (id : UUID) :
    Recorded env ⟨⟨_, s.db.valid.dropAPIKey id⟩, s.issued.map (·.retire id)⟩ := by
  have hkeep : ∀ i : KeyIssue, i.keyId ≠ id → i.retire id = i := fun i hi => if_neg hi
  constructor
  · intro i hi
    obtain ⟨j, hj, rfl⟩ := List.mem_map.mp hi
    obtain ⟨token, htoken⟩ := hs.generated j hj
    refine ⟨token, ?_⟩
    rw [KeyIssue.retire]
    split_ifs <;> exact htoken
  · intro k hk
    obtain ⟨hk, hne⟩ := List.mem_filter.mp hk
    obtain ⟨i, hi, hlive, hdesc⟩ := hs.issue k hk
    have hid : i.keyId ≠ id := by
      rw [← hdesc.1]
      exact of_decide_eq_true hne
    exact ⟨i, List.mem_map.mpr ⟨i, hi, hkeep i hid⟩, hlive, hdesc⟩
  · intro i hi hlive
    obtain ⟨j, hj, rfl⟩ := List.mem_map.mp hi
    by_cases hid : j.keyId = id
    · rw [KeyIssue.retire, if_pos hid] at hlive
      cases hlive
    · rw [hkeep j hid] at hlive ⊢
      obtain ⟨k, hk, hdesc⟩ := hs.stored j hj hlive
      exact ⟨k, List.mem_filter.mpr ⟨hk, decide_eq_true (hdesc.1 ▸ hid)⟩, hdesc⟩

theorem Recorded.next (hs : s.Recorded env) (call : KeyCall) : (call.next env s).Recorded env := by
  obtain h | ⟨row, token, hv, hpre, hhash, h⟩ | ⟨id, f, hv, hf, h⟩ | ⟨id, h⟩ :=
    call.next_cases env s <;> rw [h]
  · exact hs
  · exact hs.create hv hpre hhash
  · exact hs.update hv hf
  · exact hs.delete id

theorem recorded_after (env : Env) {d : Database} (hd : d.apiKeys = []) (calls : List KeyCall) :
    (after env d calls).Recorded env := by
  refine Runs.after_invariant (I := Recorded env) (fun call s hs => hs.next call) ?_ calls
  refine ⟨by simp, ?_, by simp⟩
  intro k hk
  rw [hd] at hk
  cases hk

end KeyStore

/-! ## Two generated keys

They share the first eight characters; the environment hashes them as SHA-256
does. -/

theorem UrlsafeText.urlsafe_of_all {s : String}
    (h : s.toList.all fun c => c.isAlphanum || c = '-' || c = '_') :
    ∀ c ∈ s.toList, c.isAlphanum ∨ c = '-' ∨ c = '_' := by
  intro c hc
  simpa [or_assoc] using List.all_eq_true.mp h c hc

def UrlsafeText.first : UrlsafeText :=
  ⟨"q7XKGCUwux1tEyze1iN7LtkeP3IfyxlxF0SU1kk8nVw", by decide, urlsafe_of_all (by decide)⟩

def UrlsafeText.second : UrlsafeText :=
  ⟨"q7X-MSAeaf7aoO7ouZl_XHwpmf2v5ZMlPNZUr0361xQ", by decide, urlsafe_of_all (by decide)⟩

def Env.issuing : Env :=
  { Env.sample with
    hashAPIKey := fun key =>
      if key = generateAPIKey .first then
        "b038935b625f028f8792a05d1095e08d9dd7d6be6fc0388ea40437f004802736"
      else if key = generateAPIKey .second then
        "8c99b7c683a8d73a257a54257dbec4997652c756e82682209c9de91bc3126eb7"
      else Env.sample.hashAPIKey key }

/-- The sample tables before any key. -/
def Database.keyless : Database := ⟨{ Database.sample.toTables with apiKeys := [] }, by decide⟩

def APIKeyCreate.sample : APIKeyCreate := ⟨"ci", none, true, none, .global, none⟩

/-- The row of the first key. -/
def APIKey.first : APIKey := newRow Env.issuing .sample 2 none none 7 (generateAPIKey .first)

theorem APIKey.valid_first : (Database.keyless.addAPIKey .first).Valid := by decide

namespace KeyStore

variable {env : Env} {s : KeyStore}

theorem after_create_first : after Env.issuing .keyless [.create .sample 2 none 7 .first] =
    ⟨⟨_, APIKey.valid_first⟩, [⟨7, generateAPIKey .first, 2, false⟩]⟩ := by
  have hserve : serve (createWithUser Env.issuing .sample 2 none 7 .first) .keyless =
      (.ok (.first, generateAPIKey .first), .start ⟨_, APIKey.valid_first⟩) :=
    serve_createWithUser rfl rfl APIKey.valid_first
  change KeyCall.next Env.issuing (.create .sample 2 none 7 .first) ⟨.keyless, []⟩ = _
  rw [KeyCall.next, settle, hserve]
  rfl

/-! ## Validation -/

/-- The string is the raw key of a stored, active key, and the user is the one it
was issued to. -/
def Opens (s : KeyStore) (apiKey : String) (k : APIKey) (u : User) : Prop :=
  k ∈ s.db.apiKeys ∧ k.isActive ∧ u ∈ s.db.users ∧ ∃ i ∈ s.issued,
    i.deleted = false ∧ i.keyId = k.id ∧ i.rawKey = apiKey ∧ i.userId = u.id

theorem Recorded.lookup_of_opens (hs : s.Recorded env) {apiKey : String} {k : APIKey} {u : User}
    (h : s.Opens apiKey k u) :
    8 ≤ apiKey.length ∧ lookup env s.db apiKey = some k ∧ u.id = k.userId := by
  obtain ⟨hk, hact, hu, i, hi, hlive, hid, rfl, huser⟩ := h
  obtain ⟨k', hk', hdesc⟩ := hs.stored i hi hlive
  obtain rfl := Rows.eq_of_key_eq s.db.valid.keys.apiKeysId hk' hk (hdesc.1.trans hid)
  obtain ⟨token, htoken⟩ := hs.generated i hi
  refine ⟨?_, (lookup_eq_some hk hdesc.2.2.1 hdesc.2.2.2).mpr ⟨rfl, hact⟩, ?_⟩
  · rw [htoken, length_generateAPIKey]
    decide
  · rw [← huser, hdesc.2.1]

theorem Recorded.opens_of_lookup (hs : s.Recorded env) {apiKey : String} {k : APIKey} {u : User}
    (hinj : ∀ i ∈ s.issued, env.hashAPIKey i.rawKey = env.hashAPIKey apiKey → i.rawKey = apiKey)
    (h : lookup env s.db apiKey = some k) (hu : u ∈ s.db.users) (hid : u.id = k.userId) :
    s.Opens apiKey k u := by
  have hk : k ∈ s.db.apiKeys := List.mem_of_find?_eq_some h
  have hp := List.find?_some h
  obtain ⟨-, hhash, hact⟩ := of_decide_eq_true hp
  obtain ⟨i, hi, hlive, hdesc⟩ := hs.issue k hk
  have hraw : i.rawKey = apiKey := hinj i hi (hdesc.2.2.2.symm.trans hhash)
  exact ⟨hk, hact, hu, i, hi, hlive, hdesc.1.symm, hraw, by rw [hid, hdesc.2.1]⟩

/-- Validation accepts the raw keys of the stored, active keys and nothing else,
as long as the hash keeps the strings apart and no expiry has to be compared. -/
theorem validateAPIKey_iff_opens (env : Env) (d : Database) (hd : d.apiKeys = [])
    (calls : List KeyCall) (now : Time) (apiKey : String)
    (hinj : ∀ i ∈ (after env d calls).issued,
      env.hashAPIKey i.rawKey = env.hashAPIKey apiKey → i.rawKey = apiKey)
    (hexp : ∀ k ∈ (after env d calls).db.apiKeys, k.keyHash = env.hashAPIKey apiKey →
      k.expiresAt = none) :
    ∃ r, (serve (validateAPIKey env now apiKey) (after env d calls).db).1 = .ok r ∧
      ∀ k' u, r = some (k', u) ↔ ∃ k, k' = k.touch now ∧ (after env d calls).Opens apiKey k u := by
  have hs := recorded_after env hd calls
  generalize after env d calls = s at hs hinj hexp ⊢
  by_cases hm : apiKey.length < 8 ∨ lookup env s.db apiKey = none
  · refine ⟨none, by rw [(validateAPIKey_unmatched hm).serve], fun k' u => ?_⟩
    constructor
    · intro h
      cases h
    · rintro ⟨k, -, ho⟩
      obtain ⟨hlen, hk, -⟩ := hs.lookup_of_opens ho
      rcases hm with hm | hm
      · exact absurd hm (Nat.not_lt.mpr hlen)
      · rw [hk] at hm
        cases hm
  · obtain ⟨hlen, hne⟩ := not_or.mp hm
    obtain ⟨k, hk⟩ := Option.ne_none_iff_exists'.mp hne
    have hp := List.find?_some hk
    have hhash := (of_decide_eq_true hp).2.1
    obtain ⟨v, hv, hvid, hret⟩ := validateAPIKey_matched now (Nat.not_lt.mp hlen) hk
      (hexp k (List.mem_of_find?_eq_some hk) hhash)
    refine ⟨some (k.touch now, v), by rw [hret.serve], fun k' u => ?_⟩
    constructor
    · intro h
      cases h
      exact ⟨k, rfl, hs.opens_of_lookup hinj hk hv hvid⟩
    · rintro ⟨k₁, rfl, ho⟩
      obtain ⟨-, hk₁, huid⟩ := hs.lookup_of_opens ho
      obtain rfl : k = k₁ := Option.some.inj (hk.symm.trans hk₁)
      rw [Rows.eq_of_key_eq s.db.valid.keys.usersId hv ho.2.2.1 (hvid.trans huid.symm)]

/-- The key of one creation is accepted. -/
theorem validateAPIKey_first :
    ∃ r, (serve (validateAPIKey Env.issuing 5 (generateAPIKey .first))
        (after Env.issuing .keyless [.create .sample 2 none 7 .first]).db).1 = .ok r ∧
      ∀ k' u, r = some (k', u) ↔ ∃ k, k' = k.touch 5 ∧
        (after Env.issuing .keyless [.create .sample 2 none 7 .first]).Opens
          (generateAPIKey .first) k u :=
  validateAPIKey_iff_opens Env.issuing .keyless rfl [.create .sample 2 none 7 .first] 5
    (generateAPIKey .first) (by rw [after_create_first]; simp)
    (by rw [after_create_first]; decide)

end KeyStore

/-! ## Creation -/

/-- A request that no declared constraint stands against, the one on prefixes
apart. The id is a new `uuid4`, and a SHA-256 digest has 64 digits. -/
structure APIKeyCreate.Valid (env : Env) (d : Database) (objIn : APIKeyCreate) (userId : UUID)
    (tenantId : Option UUID) (newId : UUID) (token : UrlsafeText) : Prop where
  user : userId ∈ d.users.map (·.id)
  tenant : ∃ keyTenant, objIn.keyTenant tenantId = .ok keyTenant ∧
    ∀ t ∈ keyTenant, t ∈ d.tenants.map (·.id)
  expiry : ∃ expiresAt, objIn.expiry env = .ok expiresAt
  name : objIn.name.length ≤ 255
  description : ∀ n ∈ objIn.description, n.length ≤ 500
  fresh : newId ∉ d.apiKeys.map (·.id)
  digest : (env.hashAPIKey (generateAPIKey token)).length = 64

/-- The call returns the new key with the raw key, and the key is committed. -/
def APIKeyCreate.Stores (env : Env) (d : Database) (objIn : APIKeyCreate) (userId : UUID)
    (tenantId : Option UUID) (newId : UUID) (token : UrlsafeText) : Prop :=
  ∃ k s, serve (createWithUser env objIn userId tenantId newId token) d =
    (.ok (k, generateAPIKey token), s) ∧ k ∈ s.committed.apiKeys

section

variable {env : Env} {d : Database} {objIn : APIKeyCreate} {userId newId : UUID}
  {tenantId : Option UUID} {token : UrlsafeText}

theorem length_keyPrefix_le (apiKey : String) : (keyPrefix apiKey).length ≤ 8 := by
  rw [keyPrefix, String.length_ofList, List.length_take]
  exact Nat.min_le_left _ _

theorem APIKeyCreate.creatable_iff (h : objIn.Valid env d userId tenantId newId token) :
    Creatable env d objIn userId tenantId newId token ↔
      keyPrefix (generateAPIKey token) ∉ d.apiKeys.map (·.keyPrefix) := by
  constructor
  · rintro ⟨keyTenant, expiresAt, -, -, hv⟩
    exact ((d.valid.addAPIKey_iff _).mp hv).2.1
  · intro hpre
    obtain ⟨keyTenant, hkt, hten⟩ := h.tenant
    obtain ⟨expiresAt, he⟩ := h.expiry
    refine ⟨keyTenant, expiresAt, hkt, he, (d.valid.addAPIKey_iff _).mpr ?_⟩
    refine ⟨h.fresh, hpre, h.user, hten, h.name, length_keyPrefix_le _, ?_, h.description⟩
    change (env.hashAPIKey (generateAPIKey token)).length ≤ 255
    rw [h.digest]
    decide

theorem APIKeyCreate.stores_iff_creatable : objIn.Stores env d userId tenantId newId token ↔
    Creatable env d objIn userId tenantId newId token := by
  constructor
  · rintro ⟨k, s, hserve, -⟩
    by_contra hn
    obtain ⟨e, he⟩ := (fails_createWithUser hn).serve
    rw [he] at hserve
    cases hserve
  · rintro ⟨keyTenant, expiresAt, hkt, he, hv⟩
    refine ⟨_, _, serve_createWithUser hkt he hv, ?_⟩
    exact List.mem_append_right _ (List.mem_singleton.mpr rfl)

end

namespace KeyStore

/-- A valid request creates its key exactly when no raw key of a stored key
begins with the same eight characters. Five of them are `vsak_`. -/
theorem stores_iff_prefix_free (env : Env) (d : Database) (hd : d.apiKeys = [])
    (calls : List KeyCall) (objIn : APIKeyCreate) (userId : UUID) (tenantId : Option UUID)
    (newId : UUID) (token : UrlsafeText)
    (hreq : objIn.Valid env (after env d calls).db userId tenantId newId token) :
    objIn.Stores env (after env d calls).db userId tenantId newId token ↔
      ∀ i ∈ (after env d calls).issued, i.deleted = false →
        keyPrefix i.rawKey ≠ keyPrefix (generateAPIKey token) := by
  have hs := recorded_after env hd calls
  rw [APIKeyCreate.stores_iff_creatable, APIKeyCreate.creatable_iff hreq]
  generalize after env d calls = s at hs ⊢
  constructor
  · intro hpre i hi hlive heq
    obtain ⟨k, hk, hdesc⟩ := hs.stored i hi hlive
    exact hpre (List.mem_map.mpr ⟨k, hk, hdesc.2.2.1.trans heq⟩)
  · intro hfree hm
    obtain ⟨k, hk, hpre⟩ := List.mem_map.mp hm
    obtain ⟨i, hi, hlive, hdesc⟩ := hs.issue k hk
    exact hfree i hi hlive (hdesc.2.2.1.symm.trans hpre)

/-- A second request after the first key was created. -/
theorem valid_second : APIKeyCreate.sample.Valid Env.issuing
    (after Env.issuing .keyless [.create .sample 2 none 7 .first]).db 2 none 8 .second := by
  rw [after_create_first]
  exact
    { user := by decide
      tenant := ⟨none, rfl, by simp⟩
      expiry := ⟨none, rfl⟩
      name := by decide
      description := by simp [APIKeyCreate.sample]
      fresh := by decide
      digest := by decide }

theorem stores_second_iff :
    APIKeyCreate.sample.Stores Env.issuing
        (after Env.issuing .keyless [.create .sample 2 none 7 .first]).db 2 none 8 .second ↔
      ∀ i ∈ (after Env.issuing .keyless [.create .sample 2 none 7 .first]).issued,
        i.deleted = false → keyPrefix i.rawKey ≠ keyPrefix (generateAPIKey .second) :=
  stores_iff_prefix_free Env.issuing .keyless rfl [.create .sample 2 none 7 .first] .sample 2 none
    8 .second valid_second

/-- The second of two different keys is refused after the first. -/
theorem second_not_stored :
    APIKeyCreate.sample.Valid Env.issuing
        (after Env.issuing .keyless [.create .sample 2 none 7 .first]).db 2 none 8 .second ∧
      (∀ i ∈ (after Env.issuing .keyless [.create .sample 2 none 7 .first]).issued,
        i.rawKey ≠ generateAPIKey .second) ∧
      ¬APIKeyCreate.sample.Stores Env.issuing
        (after Env.issuing .keyless [.create .sample 2 none 7 .first]).db 2 none 8 .second := by
  refine ⟨valid_second, ?_, ?_⟩
  · rw [after_create_first]
    decide
  · rw [APIKeyCreate.stores_iff_creatable, APIKeyCreate.creatable_iff valid_second,
      after_create_first]
    decide

end KeyStore

/-! ## Expiry -/

/-- At `now` a validation of the raw key tells the key from an expired one: it
returns the key with its owner up to the instant `e`, and nothing after it. -/
def APIKey.DecidesExpiry (env : Env) (now : Time) (d : Database) (k : APIKey) (rawKey : String)
    (e : Time) : Prop :=
  ∃ r, (serve (validateAPIKey env now rawKey) d).1 = .ok r ∧
    (now ≤ e → ∃ u ∈ d.users, u.id = k.userId ∧ r = some (k.touch now, u)) ∧
    (e < now → r = none)

section

variable {env : Env} {d : Database} {k : APIKey} {rawKey : String}

/-- Validation of the raw key of a stored key that has an expiry: it finds
nothing when the key is inactive, and raises otherwise. -/
theorem validateAPIKey_stored (now : Time) (hk : k ∈ d.apiKeys)
    (hpre : k.keyPrefix = keyPrefix rawKey) (hhash : k.keyHash = env.hashAPIKey rawKey)
    (hlen : 8 ≤ rawKey.length) (he : k.expiresAt ≠ none) :
    (serve (validateAPIKey env now rawKey) d).1 =
      if k.isActive then .error .typeError else .ok none := by
  cases hact : k.isActive with
  | true =>
    have hfind := (lookup_eq_some hk hpre hhash).mpr ⟨rfl, hact⟩
    rw [(validateAPIKey_expiring hlen hfind he).serve]
    rfl
  | false =>
    have hnone : lookup env d rawKey = none := by
      rw [Option.eq_none_iff_forall_ne_some]
      intro k' hk'
      have := ((lookup_eq_some hk hpre hhash).mp hk').2
      rw [hact] at this
      cases this
    rw [(validateAPIKey_unmatched (.inr hnone)).serve]
    rfl

end

/-- A key with an aware expiry is decided at `now` only when it was created
inactive and `now` is after the expiry; an active one never is. -/
theorem APIKey.decidesExpiry_iff (env : Env) (d : Database) (objIn : APIKeyCreate) (userId : UUID)
    (tenantId : Option UUID) (newId : UUID) (token : UrlsafeText) (wall offset : ℤ)
    (he : objIn.expiresAt = some ⟨wall, some offset⟩) (k : APIKey) (rawKey : String)
    (s : Session Database Exc)
    (hcreate : serve (createWithUser env objIn userId tenantId newId token) d =
      (.ok (k, rawKey), s)) (d' : Database) (hk : k ∈ d'.apiKeys) (now : Time) :
    k.DecidesExpiry env now d' rawKey (wall - offset) ↔
      objIn.isActive = false ∧ wall - offset < now := by
  obtain hf | ⟨keyTenant, expiresAt, -, hexp, hv, hrun⟩ :=
    createWithUser_cases env d objIn userId tenantId newId token
  · obtain ⟨err, herr⟩ := hf.serve
    rw [herr] at hcreate
    cases hcreate
  · rw [serve_of_ok (hrun d)] at hcreate
    cases hcreate
    have hne : expiresAt ≠ none := by
      rintro rfl
      simp only [APIKeyCreate.expiry, he, DateTime.astimezoneUtc] at hexp
      split_ifs at hexp <;> cases hexp
    have hlen : 8 ≤ (generateAPIKey token).length := by
      rw [length_generateAPIKey]
      decide
    have hres := validateAPIKey_stored now hk rfl rfl hlen hne
    change _ = if objIn.isActive then _ else _ at hres
    rw [DecidesExpiry, hres]
    constructor
    · rintro ⟨r, hr, hearly, -⟩
      split_ifs at hr with hact
      cases hr
      refine ⟨by simpa using hact, Int.not_le.mp fun hle => ?_⟩
      obtain ⟨u, -, -, hu⟩ := hearly hle
      cases hu
    · rintro ⟨hact, hlt⟩
      rw [if_neg (by simp [hact])]
      exact ⟨none, rfl, fun hle => absurd hlt (Int.not_lt.mpr hle), fun _ => rfl⟩

/-- A key that expires at the instant 100, given in an offset of one hour. -/
def APIKeyCreate.expiring : APIKeyCreate :=
  ⟨"ci", none, true, some ⟨3600000100, some 3600000000⟩, .global, none⟩

/-- Its row. -/
def APIKey.expiring : APIKey :=
  newRow Env.issuing .expiring 2 none (some 100) 7 (generateAPIKey .first)

theorem APIKey.valid_expiring : (Database.keyless.addAPIKey .expiring).Valid := by decide

theorem serve_create_expiring :
    serve (createWithUser Env.issuing .expiring 2 none 7 .first) .keyless =
      (.ok (.expiring, generateAPIKey .first), .start ⟨_, APIKey.valid_expiring⟩) :=
  serve_createWithUser (by decide : APIKeyCreate.expiring.keyTenant none = .ok none)
    (by decide : APIKeyCreate.expiring.expiry Env.issuing = .ok (some 100)) APIKey.valid_expiring

theorem APIKey.decidesExpiry_expiring :
    APIKey.expiring.DecidesExpiry Env.issuing 50 ⟨_, APIKey.valid_expiring⟩
        (generateAPIKey .first) (3600000100 - 3600000000) ↔
      APIKeyCreate.expiring.isActive = false ∧ (3600000100 - 3600000000 : ℤ) < 50 :=
  APIKey.decidesExpiry_iff Env.issuing .keyless .expiring 2 none 7 .first 3600000100 3600000000 rfl
    _ _ _ serve_create_expiring _ (List.mem_append_right _ (List.mem_singleton.mpr rfl)) 50

/-- Fifty microseconds before it expires the key raises a `TypeError`. -/
theorem APIKey.expiring_not_decided :
    ∃ k s, serve (createWithUser Env.issuing .expiring 2 none 7 .first) .keyless =
        (.ok (k, generateAPIKey .first), s) ∧
      ¬k.DecidesExpiry Env.issuing 50 s.committed (generateAPIKey .first) 100 := by
  refine ⟨_, _, serve_create_expiring, ?_⟩
  rintro ⟨r, hr, -, -⟩
  rw [validateAPIKey_stored 50 (List.mem_append_right _ (List.mem_singleton.mpr rfl))
    (k := .expiring) rfl rfl (by decide) (by decide)] at hr
  cases hr

end VirtualStack
