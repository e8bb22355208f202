import VirtualStack.Endpoints.Invitations
import VirtualStack.Pages

/-!
# Listing the invitations of a tenant

Without a status the database cuts the page. With a status the endpoint fetches the
thousand newest invitations, filters these, and cuts the page itself.
-/

namespace VirtualStack
open UnitOfWork

namespace InvitationService

variable {d : Database} {tenantId : UUID} {x : Invitation}

/-- The invitations of a tenant in the order in which they are listed. -/
def newestFirst (d : Database) (tenantId : UUID) : List Invitation :=
  (d.invitations.filter (·.tenantId = tenantId)).mergeSort fun x y => y.createdAt ≤ x.createdAt

theorem returns_page (tenantId : UUID) (skip limit : ℕ) (d : Database) :
    Returns (getMultiByTenant tenantId skip limit) d
      (Pages.slice skip limit (newestFirst d tenantId)) d := returns_query _ d

theorem mem_newestFirst :
    x ∈ newestFirst d tenantId ↔ x ∈ d.invitations ∧ x.tenantId = tenantId := by
  rw [newestFirst, List.mem_mergeSort, List.mem_filter, decide_eq_true_eq]

/-- No two invitations of the tenant were created at the same time. -/
def CreatedApart (d : Database) (tenantId : UUID) : Prop :=
  ((d.invitations.filter (·.tenantId = tenantId)).map (·.createdAt)).Nodup

theorem strictlyBy_newestFirst (h : CreatedApart d tenantId) :
    Pages.StrictlyBy (· ≥ ·) Invitation.createdAt (newestFirst d tenantId) :=
  Pages.strictlyBy_mergeSort (r := (· ≥ ·)) h

/-- The tenant's invitations, of one status if one is given, newest first. -/
structure Lists (d : Database) (tenantId : UUID) (status : Option InvitationStatus)
    (whole : List Invitation) : Prop where
  mem_iff : ∀ x, x ∈ whole ↔
    x ∈ d.invitations ∧ x.tenantId = tenantId ∧ ∀ s ∈ status, x.status = s
  newest : whole.Pairwise fun x y => y.createdAt < x.createdAt

/-- The rows that a status lets through. -/
def hasStatus (status : Option InvitationStatus) (x : Invitation) : Bool :=
  status.all fun s => x.status = s

theorem lists_newestFirst (h : CreatedApart d tenantId) (status : Option InvitationStatus) :
    Lists d tenantId status ((newestFirst d tenantId).filter (hasStatus status)) := by
  refine ⟨fun x => ?_, ?_⟩
  · rw [List.mem_filter, mem_newestFirst, and_assoc]
    cases status <;> simp [hasStatus]
  · refine (List.Pairwise.filter _ (strictlyBy_newestFirst h)).imp fun hxy => ?_
    exact lt_of_le_of_ne hxy.1 hxy.2.symm

/-- There is only one such list. -/
theorem Lists.unique {status : Option InvitationStatus} {whole whole' : List Invitation}
    (h : Lists d tenantId status whole) (h' : Lists d tenantId status whole') :
    whole = whole' := by
  have hstrict : ∀ {rows}, Lists d tenantId status rows →
      Pages.StrictlyBy (· ≥ ·) Invitation.createdAt rows :=
    fun hrows => hrows.newest.imp fun hxy => ⟨hxy.le, hxy.ne'⟩
  exact (hstrict h).eq_of_mem_iff (hstrict h') fun x => (h.mem_iff x).trans (h'.mem_iff x).symm

end InvitationService

/-- Other invitations in place of the stored ones. -/
theorem Tables.Valid.withInvitations {t : Tables} (h : t.Valid) {rows : List Invitation}
    (hid : (rows.map (·.id)).Nodup) (htoken : (rows.map (·.token)).Nodup)
    (hrow : ∀ x ∈ rows, x.tenantId ∈ t.tenants.map (·.id) ∧ x.inviterId ∈ t.users.map (·.id) ∧
      x.userId = none ∧ x.email.length ≤ 255 ∧ x.token.length ≤ 255) :
    ({ t with invitations := rows } : Tables).Valid := by
  refine ⟨?_, ?_, ?_⟩
  · exact { h.keys with invitationsId := hid, invitationsToken := htoken }
  · exact { h.references with
      invitationTenant := fun x hx => (hrow x hx).1
      invitationInviter := fun x hx => (hrow x hx).2.1
      invitationUser := fun x hx y hy => by
        rw [(hrow x hx).2.2.1] at hy
        cases hy }
  · exact { h.widths with invitations := fun x hx => (hrow x hx).2.2.2 }

/-- The database with these invitations instead of its own. -/
def Database.withInvitations (d : Database) (rows : List Invitation)
    (h : ({ d with invitations := rows } : Tables).Valid) : Database := ⟨_, h⟩

theorem Database.invitations_withInvitations {d : Database} {rows : List Invitation}
    (h : ({ d with invitations := rows } : Tables).Valid) :
    (d.withInvitations rows h).invitations = rows := rfl

namespace Endpoints

section Listing

variable {env : Env} {now : Time} {h : Headers} {d : Database} {u : User} {tenantId : UUID}

/-- A caller who may manage the invitations gets what the listing itself returns. -/
theorem returns_listInvitations {status : Option InvitationStatus} {skip limit : ℕ}
    {rows : List Invitation} (hu : Deps.currentActiveUser env now h d = .ok u)
    (hm : MayManage (Deps.identifiedView env now h d) u tenantId)
    (hrows : Returns (match status with
        | some s => do
          let invitations ← InvitationService.getMultiByTenant tenantId 0 1000
          pure (((invitations.filter (·.status = s)).drop skip).take limit)
        | none => InvitationService.getMultiByTenant tenantId skip limit)
      (Deps.identifiedView env now h d) rows (Deps.identifiedView env now h d)) :
    Returns (listInvitations env now h tenantId status skip limit) d rows
      (Deps.identifiedView env now h d) := by
  have huser := (Deps.yields_getCurrentActiveUser env now h d).returns hu
  have hcheck := returns_checkUserPermissionForTenant (d := Deps.identifiedView env now h d) u.id
    tenantId .tenantManageInvitations
  refine huser.bind (hcheck.bind ?_)
  rw [if_neg fun hn => hm.elim hn.2 fun hh => hn.1 (decide_eq_true hh)]
  exact hrows.tryCatch _

theorem returns_listInvitations_all (hu : Deps.currentActiveUser env now h d = .ok u)
    (hm : MayManage (Deps.identifiedView env now h d) u tenantId) (skip limit : ℕ) :
    Returns (listInvitations env now h tenantId none skip limit) d
      (Pages.slice skip limit
        (InvitationService.newestFirst (Deps.identifiedView env now h d) tenantId))
      (Deps.identifiedView env now h d) :=
  returns_listInvitations hu hm (InvitationService.returns_page tenantId skip limit _)

theorem returns_listInvitations_status (hu : Deps.currentActiveUser env now h d = .ok u)
    (hm : MayManage (Deps.identifiedView env now h d) u tenantId) (s : InvitationStatus)
    (skip limit : ℕ) :
    Returns (listInvitations env now h tenantId (some s) skip limit) d
      (Pages.slice skip limit
        (((InvitationService.newestFirst (Deps.identifiedView env now h d) tenantId).take
          1000).filter (·.status = s)))
      (Deps.identifiedView env now h d) := by
  refine returns_listInvitations hu hm ?_
  refine (InvitationService.returns_page tenantId 0 1000 _).bind ?_
  exact returns_pure _ _

/-- The call returns the slice asked for of the tenant's invitations with the status. -/
def ListsSlice (env : Env) (now : Time) (h : Headers) (d : Database) (tenantId : UUID)
    (status : Option InvitationStatus) (skip limit : ℕ) : Prop :=
  ∃ whole, InvitationService.Lists (Deps.identifiedView env now h d) tenantId status whole ∧
    Returns (listInvitations env now h tenantId status skip limit) d
      (Pages.slice skip limit whole) (Deps.identifiedView env now h d)

/-- How many of the tenant's thousand newest invitations have the status. -/
def fetchedWithStatus (d : Database) (tenantId : UUID) (s : InvitationStatus) : ℕ :=
  ((InvitationService.newestFirst d tenantId).take 1000).countP (·.status = s)

/-- How many of the tenant's invitations have the status. -/
def storedWithStatus (d : Database) (tenantId : UUID) (s : InvitationStatus) : ℕ :=
  d.invitations.countP fun x => x.tenantId = tenantId ∧ x.status = s

theorem length_newestFirst_filter (d : Database) (tenantId : UUID) (s : InvitationStatus) :
    ((InvitationService.newestFirst d tenantId).filter (·.status = s)).length =
      storedWithStatus d tenantId s := by
  have hperm := (List.mergeSort_perm (d.invitations.filter (·.tenantId = tenantId))
    fun x y => y.createdAt ≤ x.createdAt).filter fun x => x.status = s
  rw [InvitationService.newestFirst, hperm.length_eq, List.filter_filter, storedWithStatus,
    List.countP_eq_length_filter]
  refine congrArg List.length (List.filter_congr fun x _ => ?_)
  rw [Bool.decide_and, Bool.and_comm]

/-- Only the invitations of the status that are among the thousand newest are paged. -/
theorem listsSlice_iff_eq (hu : Deps.currentActiveUser env now h d = .ok u)
    (hm : MayManage (Deps.identifiedView env now h d) u tenantId)
    (hd : InvitationService.CreatedApart (Deps.identifiedView env now h d) tenantId)
    (s : InvitationStatus) (skip limit : ℕ) :
    ListsSlice env now h d tenantId (some s) skip limit ↔
      Pages.slice skip limit
          (((InvitationService.newestFirst (Deps.identifiedView env now h d) tenantId).filter
            (·.status = s)).take (fetchedWithStatus (Deps.identifiedView env now h d) tenantId s)) =
        Pages.slice skip limit
          ((InvitationService.newestFirst (Deps.identifiedView env now h d) tenantId).filter
            (·.status = s)) := by
  have hlists : InvitationService.Lists (Deps.identifiedView env now h d) tenantId (some s)
      ((InvitationService.newestFirst (Deps.identifiedView env now h d) tenantId).filter
        (·.status = s)) := InvitationService.lists_newestFirst hd (some s)
  have hreturns := returns_listInvitations_status hu hm s skip limit
  rw [Pages.filter_take] at hreturns
  constructor
  · rintro ⟨whole, hwhole, hslice⟩
    rw [hwhole.unique hlists] at hslice
    exact (hreturns.unique hslice).1
  · intro he
    refine ⟨_, hlists, ?_⟩
    rw [← he]
    exact hreturns

end Listing

/-- With a status the page is the slice asked for exactly when the slice lies within what
the thousand newest invitations hold of that status. -/
theorem status_page_is_slice_iff {env : Env} {now : Time} {h : Headers} {d : Database} {u : User}
    {tenantId : UUID} (hu : Deps.currentActiveUser env now h d = .ok u)
    (hm : MayManage (Deps.identifiedView env now h d) u tenantId)
    (hd : InvitationService.CreatedApart (Deps.identifiedView env now h d) tenantId)
    (s : InvitationStatus) (skip : ℕ) {limit : ℕ} (hl : 1 ≤ limit) :
    ListsSlice env now h d tenantId (some s) skip limit ↔
      min (skip + limit) (storedWithStatus (Deps.identifiedView env now h d) tenantId s) ≤
          fetchedWithStatus (Deps.identifiedView env now h d) tenantId s ∨
        storedWithStatus (Deps.identifiedView env now h d) tenantId s ≤ skip := by
  have hlimit : limit ≠ 0 := Nat.one_le_iff_ne_zero.mp hl
  rw [listsSlice_iff_eq hu hm hd, Pages.slice_take_eq_iff, length_newestFirst_filter]
  simp only [hlimit, false_or]

/-- Without a status the pages together are all invitations of the tenant. -/
theorem all_pages_partition {env : Env} {now : Time} {h : Headers} {d : Database} {u : User}
    {tenantId : UUID} (hu : Deps.currentActiveUser env now h d = .ok u)
    (hm : MayManage (Deps.identifiedView env now h d) u tenantId)
    (hd : InvitationService.CreatedApart (Deps.identifiedView env now h d) tenantId)
    {limit : ℕ} (hl : 1 ≤ limit) :
    ∃ whole, InvitationService.Lists (Deps.identifiedView env now h d) tenantId none whole ∧
      ∃ pages : ℕ → List Invitation,
        (∀ k, Returns (listInvitations env now h tenantId none ((k - 1) * limit) limit) d (pages k)
          (Deps.identifiedView env now h d)) ∧
        ∃ n, Pages.Paged limit whole pages n := by
  have hall : ∀ x ∈ InvitationService.newestFirst (Deps.identifiedView env now h d) tenantId,
      InvitationService.hasStatus none x = true := fun _ _ => rfl
  have hlists := InvitationService.lists_newestFirst hd none
  rw [List.filter_eq_self.mpr hall] at hlists
  exact ⟨_, hlists, _, fun k => returns_listInvitations_all hu hm _ _, Pages.paged_page hl _⟩

/-! ## A tenant with more than a thousand invitations -/

/-- Tokens made of two letters. -/
def letterToken (i : ℕ) : String :=
  String.ofList (List.replicate (i / 32) 'a' ++ List.replicate (i % 32) 'b')

theorem letterToken_injective : Function.Injective letterToken := by
  intro i j hij
  have hlist := congrArg String.toList hij
  simp only [letterToken, String.toList_ofList] at hlist
  have ha := congrArg (List.count 'a') hlist
  have hb := congrArg (List.count 'b') hlist
  simp [List.count_replicate] at ha hb
  omega

/-- Invitation 0 is the oldest and still pending. All later ones went to somebody else
and were revoked, one after the other. -/
def revokedSeries (i : ℕ) : Invitation :=
  { id := i
    email := if i = 0 then "bob@acme.com" else "carol@acme.com"
    token := letterToken i
    status := if i = 0 then .pending else .revoked
    expiresAt := i + 1000000
    acceptedAt := none
    tenantId := 1
    inviterId := 1
    userId := none
    roleId := none
    createdAt := i }

theorem valid_revokedSeries :
    ({ Database.sample with
      invitations := (List.range 1001).map revokedSeries } : Tables).Valid := by
  refine Tables.Valid.withInvitations Database.sample.valid ?_ ?_ ?_
  · rw [List.map_map]
    exact List.nodup_range.map fun i j hij => hij
  · rw [List.map_map]
    exact List.nodup_range.map letterToken_injective
  · intro x hx
    obtain ⟨i, hi, rfl⟩ := List.mem_map.mp hx
    have hlt := List.mem_range.mp hi
    have hemail : (revokedSeries i).email.length ≤ 255 := by
      change (if i = 0 then _ else _ : String).length ≤ 255
      split_ifs <;> decide
    have htoken : (letterToken i).length ≤ 255 := by
      simp only [letterToken, String.length_ofList, List.length_append, List.length_replicate]
      omega
    exact ⟨List.mem_cons_self, List.mem_cons_self, rfl, hemail, htoken⟩

def crowded : Database := Database.sample.withInvitations _ valid_revokedSeries

theorem invitations_crowded : crowded.invitations = (List.range 1001).map revokedSeries := by
  rw [crowded, Database.invitations_withInvitations]

theorem createdApart_crowded : InvitationService.CreatedApart crowded 1 := by
  have hall : (crowded.invitations.map (·.createdAt)).Nodup := by
    rw [invitations_crowded, List.map_map]
    exact List.nodup_range.map fun i j hij => Int.ofNat.inj hij
  exact hall.sublist (List.filter_sublist.map _)

theorem newestFirst_crowded :
    InvitationService.newestFirst crowded 1 = (List.range 1001).reverse.map revokedSeries := by
  refine (InvitationService.strictlyBy_newestFirst createdApart_crowded).eq_of_mem_iff ?_ ?_
  · refine List.pairwise_map.mpr (List.pairwise_reverse.mpr (List.pairwise_lt_range.imp ?_))
    intro i j hij
    have hlt : (i : ℤ) < j := Int.ofNat_lt.mpr hij
    exact ⟨hlt.le, hlt.ne'⟩
  · intro x
    rw [InvitationService.mem_newestFirst, invitations_crowded, List.mem_map, List.mem_map]
    constructor
    · rintro ⟨⟨i, hi, rfl⟩, -⟩
      exact ⟨i, List.mem_reverse.mpr hi, rfl⟩
    · rintro ⟨i, hi, rfl⟩
      exact ⟨⟨i, List.mem_reverse.mp hi, rfl⟩, rfl⟩

/-- The thousand newest are all revoked. -/
theorem fetchedWithStatus_crowded : fetchedWithStatus crowded 1 .pending = 0 := by
  have htake : (InvitationService.newestFirst crowded 1).take 1000 =
      ((List.range 1000).map Nat.succ).reverse.map revokedSeries := by
    rw [newestFirst_crowded, List.range_succ_eq_map, List.reverse_cons, List.map_append]
    refine List.take_left' ?_
    rw [List.length_map, List.length_reverse, List.length_map, List.length_range]
  rw [fetchedWithStatus, htake, List.countP_eq_zero]
  intro x hx
  obtain ⟨i, hi, rfl⟩ := List.mem_map.mp hx
  obtain ⟨j, -, rfl⟩ := List.mem_map.mp (List.mem_reverse.mp hi)
  simp [revokedSeries]

theorem currentActiveUser_crowded :
    Deps.currentActiveUser Env.sample 0 ⟨some "token-2", none, none, none, []⟩ crowded =
      .ok ⟨2, "root@acme.com", "$2b$12$r", none, true, true⟩ := rfl

theorem status_page_is_slice_iff_crowded :
    ListsSlice Env.sample 0 ⟨some "token-2", none, none, none, []⟩ crowded 1 (some .revoked) 0 100 ↔
      min (0 + 100) (storedWithStatus crowded 1 .revoked) ≤ fetchedWithStatus crowded 1 .revoked ∨
        storedWithStatus crowded 1 .revoked ≤ 0 :=
  status_page_is_slice_iff currentActiveUser_crowded (.inl rfl) createdApart_crowded .revoked 0
    (by decide)

/-- Nobody can find the pending invitation by its status. -/
theorem pending_invitation_not_listed :
    revokedSeries 0 ∈ crowded.invitations ∧ (revokedSeries 0).status = .pending ∧
    (serve (listInvitations Env.sample 0 ⟨some "token-2", none, none, none, []⟩ 1 (some .pending)
      0 100) crowded).1 = .ok [] ∧
    ¬ListsSlice Env.sample 0 ⟨some "token-2", none, none, none, []⟩ crowded 1 (some .pending)
      0 100 := by
  have hmem : revokedSeries 0 ∈ crowded.invitations := by
    rw [invitations_crowded]
    exact List.mem_map.mpr ⟨0, List.mem_range.mpr (by decide), rfl⟩
  have hmay : MayManage crowded ⟨2, "root@acme.com", "$2b$12$r", none, true, true⟩ 1 := .inl rfl
  have hreturns := returns_listInvitations_status currentActiveUser_crowded hmay .pending 0 100
  refine ⟨hmem, rfl, ?_, ?_⟩
  · rw [hreturns.serve, Pages.filter_take]
    change Except.ok (Pages.slice 0 100 (List.take (fetchedWithStatus crowded 1 .pending) _)) = _
    rw [fetchedWithStatus_crowded, List.take_zero]
    rfl
  · rw [listsSlice_iff_eq currentActiveUser_crowded hmay createdApart_crowded]
    change ¬Pages.slice 0 100 (List.take (fetchedWithStatus crowded 1 .pending) _) = _
    rw [fetchedWithStatus_crowded, List.take_zero, eq_comm]
    change ¬Pages.slice 0 100 _ = []
    rw [Pages.slice_eq_nil_iff]
    rintro (h | h)
    · cases h
    · have hlisted : revokedSeries 0 ∈
          (InvitationService.newestFirst crowded 1).filter (·.status = .pending) :=
        List.mem_filter.mpr ⟨InvitationService.mem_newestFirst.mpr ⟨hmem, rfl⟩, rfl⟩
      exact absurd (List.length_pos_of_mem hlisted) (Nat.not_lt.mpr h)

end Endpoints
end VirtualStack
