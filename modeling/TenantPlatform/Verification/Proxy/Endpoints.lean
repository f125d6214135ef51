import Mathlib.Algebra.BigOperators.Group.List.Basic
import Mathlib.Algebra.GroupWithZero.Nat
import TenantPlatform.Verification.Proxy.Routing

/-! # The list of ready addresses

The lister goes through its slices in any order, and the API lets an endpoint be in several of
them. The list depends on nothing but how often each address occurs. -/

namespace TenantPlatform

/-! ## Occurrences -/

/-- How often an endpoint that is not known to be unready lists an address. -/
def Endpoint.occurrences (a : GoString) (ep : Endpoint) : ℕ :=
  if ep.ready = some false then 0 else ep.addresses.count a

def EndpointSlice.occurrences (a : GoString) (s : EndpointSlice) : ℕ :=
  (s.endpoints.map (Endpoint.occurrences a)).sum

def occurrences (a : GoString) (slices : List EndpointSlice) : ℕ :=
  (slices.map (EndpointSlice.occurrences a)).sum

section Count

variable {a : GoString} {slices slices' : List EndpointSlice}

theorem Endpoint.occurrences_perm {addresses addresses' : List GoString}
    (h : addresses.Perm addresses') (ready : Option Bool) :
    Endpoint.occurrences a ⟨addresses, ready⟩ = Endpoint.occurrences a ⟨addresses', ready⟩ := by
  unfold Endpoint.occurrences
  rw [h.count_eq]

theorem EndpointSlice.occurrences_cons (ns : GoString) (ep : Endpoint) (eps : List Endpoint) :
    EndpointSlice.occurrences a ⟨ns, ep :: eps⟩ =
      ep.occurrences a + EndpointSlice.occurrences a ⟨ns, eps⟩ := by
  simp [EndpointSlice.occurrences]

theorem EndpointSlice.occurrences_perm (ns ns' : GoString) {eps eps' : List Endpoint}
    (h : eps.Perm eps') :
    EndpointSlice.occurrences a ⟨ns, eps⟩ = EndpointSlice.occurrences a ⟨ns', eps'⟩ :=
  (h.map _).sum_eq

@[simp] theorem occurrences_cons (s : EndpointSlice) :
    occurrences a (s :: slices) = s.occurrences a + occurrences a slices := by
  simp [occurrences]

theorem occurrences_perm (h : slices.Perm slices') : occurrences a slices = occurrences a slices' :=
  (h.map _).sum_eq

theorem EndpointSlice.count_addresses (eps : List Endpoint) (ns : GoString) :
    ((eps.filter Endpoint.isReady).flatMap Endpoint.addresses).count a =
      EndpointSlice.occurrences a ⟨ns, eps⟩ := by
  induction eps with
  | nil => rfl
  | cons ep eps ih =>
      rw [EndpointSlice.occurrences_cons, ← ih, Endpoint.occurrences]
      by_cases hready : ep.ready = some false
      · simp [Endpoint.isReady, hready]
      · simp [Endpoint.isReady, hready]

/-- Sorting neither adds nor drops an address. -/
theorem count_readyAddresses : (readyAddresses slices).count a = occurrences a slices := by
  rw [readyAddresses, (List.perm_insertionSort _ _).count_eq, List.count_flatMap, occurrences]
  congr 1
  apply List.map_congr_left
  intro s _
  exact EndpointSlice.count_addresses s.endpoints s.ns

theorem readyAddresses_sorted : (readyAddresses slices).Pairwise (· ≤ ·) :=
  List.pairwise_insertionSort _ _

/-- The list is a function of the occurrences, and tells them. -/
theorem readyAddresses_eq_iff : readyAddresses slices = readyAddresses slices' ↔
    ∀ a, occurrences a slices = occurrences a slices' := by
  constructor
  · intro h a
    rw [← count_readyAddresses, h, count_readyAddresses]
  · intro h
    apply List.Perm.eq_of_pairwise' readyAddresses_sorted readyAddresses_sorted
    rw [List.perm_iff_count]
    intro a
    rw [count_readyAddresses, count_readyAddresses, h a]

end Count

/-! ## Each pod is offered once -/

/-- The address belongs to an endpoint whose ready condition is unset or true. -/
def ReadyAddress (slices : List EndpointSlice) (a : GoString) : Prop :=
  ∃ s ∈ slices, ∃ ep ∈ s.endpoints, (ep.ready = none ∨ ep.ready = some true) ∧ a ∈ ep.addresses

theorem mem_readyAddresses {slices : List EndpointSlice} {a : GoString} :
    a ∈ readyAddresses slices ↔ ReadyAddress slices a := by
  have hready : ∀ ep : Endpoint, ep.isReady = true ↔ ep.ready = none ∨ ep.ready = some true := by
    intro ep
    rcases h : ep.ready with - | - | - <;> simp [Endpoint.isReady, h]
  simp only [readyAddresses, List.mem_insertionSort, List.mem_flatMap, List.mem_filter, hready,
    ReadyAddress, and_assoc]

/-- The handler whose pick is a fixed index. -/
def Handler.picking (h : Handler) (i : ℕ) : Handler where
  resolver := h.resolver
  signer := h.signer
  upstreamPort := h.upstreamPort
  pick n := if i < n then i else 0
  pick_lt n hn := by
    split
    · assumption
    · exact hn

/-- Without a valid cookie the pick decides. -/
theorem choose_picking {h : Handler} {r : GoRequest} {cookieName : GoString}
    {ips : List GoString} {hips : ips ≠ []} {i : ℕ}
    (hevent : (h.choose r cookieName ips hips).2 ≠ .stickyHit) (hi : i < ips.length) :
    ((h.picking i).choose r cookieName ips hips).1 = ips[i] := by
  have hpick : (h.picking i).pick ips.length = i := if_pos hi
  have hsticky : h.stickyTarget (r.cookieNamed cookieName) ips = none := by
    rcases choose_eq h r cookieName hips with ⟨ip, -, hhit⟩ | hnone
    · rw [hhit] at hevent
      exact absurd rfl hevent
    · exact hnone.1
  rcases choose_eq (h.picking i) r cookieName hips with ⟨ip, hhit, -⟩ | ⟨-, hpicked, -⟩
  · change h.stickyTarget (r.cookieNamed cookieName) ips = some ip at hhit
    rw [hsticky] at hhit
    cases hhit
  · simpa only [hpick, List.get_eq_getElem] using hpicked

structure OfferedOnce (slices : List EndpointSlice) : Prop where
  ascending : (readyAddresses slices).Pairwise (· < ·)
  members : ∀ a, a ∈ readyAddresses slices ↔ ReadyAddress slices a
  /-- of the indices that a pick may return, one selects the address -/
  index : ∀ (h : Handler) (r : GoRequest) (cookieName : GoString)
    (hips : readyAddresses slices ≠ []), (h.choose r cookieName _ hips).2 ≠ .stickyHit →
      ∀ a, ReadyAddress slices a → ∃! i, i < (readyAddresses slices).length ∧
        ((h.picking i).choose r cookieName _ hips).1 = a

theorem nodup_readyAddresses {slices : List EndpointSlice} :
    (readyAddresses slices).Nodup ↔ ∀ a, occurrences a slices ≤ 1 := by
  simp only [List.nodup_iff_count_le_one, count_readyAddresses]

/-- Each ready pod is offered once if and only if no address occurs twice. Nothing removes
duplicates. -/
theorem offered_once_iff (slices : List EndpointSlice) :
    OfferedOnce slices ↔ ∀ a, occurrences a slices ≤ 1 := by
  rw [← nodup_readyAddresses]
  constructor
  · intro h
    exact h.ascending.imp (fun hlt => Std.ne_of_lt hlt)
  · intro hnodup
    constructor
    · exact (List.Pairwise.and readyAddresses_sorted hnodup).imp
        (fun h => Std.lt_of_le_of_ne h.1 h.2)
    · intro a
      exact mem_readyAddresses
    · intro h r cookieName hips hevent a ha
      obtain ⟨i, hi, hget⟩ := List.mem_iff_getElem.mp (mem_readyAddresses.mpr ha)
      refine ⟨i, ⟨hi, (choose_picking hevent hi).trans hget⟩, ?_⟩
      rintro j ⟨hj, hchoose⟩
      rw [choose_picking hevent hj] at hchoose
      have hsame : (readyAddresses slices)[j] = (readyAddresses slices)[i] := by
        rw [hchoose, hget]
      exact hnodup.getElem_inj_iff.mp hsame

/-- The slices of a tenant while its endpoint moves from one to the other. -/
def overlappingSlices : List EndpointSlice :=
  [⟨bytes "tenant-3", [⟨[bytes "10.244.0.5"], some true⟩]⟩,
    ⟨bytes "tenant-3", [⟨[bytes "10.244.0.5"], some true⟩, ⟨[bytes "10.244.0.6"], none⟩]⟩]

theorem shared_endpoint_offered_twice : ¬ ∀ slices, OfferedOnce slices := by
  intro h
  have hascending := (h overlappingSlices).ascending
  have hlist : readyAddresses overlappingSlices =
      [bytes "10.244.0.5", bytes "10.244.0.5", bytes "10.244.0.6"] := by decide
  rw [hlist] at hascending
  exact absurd hascending (by decide)

/-! ## Any order will do -/

/-- The same endpoints in other slices, or in another order. -/
inductive Rearranged : List EndpointSlice → List EndpointSlice → Prop
  | slices {ss ss'} : ss.Perm ss' → Rearranged ss ss'
  | endpoints {eps eps'} (ns rest) : eps.Perm eps' →
      Rearranged (⟨ns, eps⟩ :: rest) (⟨ns, eps'⟩ :: rest)
  | addresses {as as'} (ns ready eps rest) : as.Perm as' →
      Rearranged (⟨ns, ⟨as, ready⟩ :: eps⟩ :: rest) (⟨ns, ⟨as', ready⟩ :: eps⟩ :: rest)
  | move (ns ns' ep eps eps' rest) :
      Rearranged (⟨ns, ep :: eps⟩ :: ⟨ns', eps'⟩ :: rest) (⟨ns, eps⟩ :: ⟨ns', ep :: eps'⟩ :: rest)
  | emptied (ns rest) : Rearranged (⟨ns, []⟩ :: rest) rest
  | symm {ss ss'} : Rearranged ss ss' → Rearranged ss' ss
  | trans {ss ss' ss''} : Rearranged ss ss' → Rearranged ss' ss'' → Rearranged ss ss''

theorem Rearranged.occurrences_eq {ss ss' : List EndpointSlice} (h : Rearranged ss ss')
    (a : GoString) : occurrences a ss = occurrences a ss' := by
  induction h with
  | slices hperm => exact occurrences_perm hperm
  | endpoints ns rest hperm =>
      rw [occurrences_cons, occurrences_cons, EndpointSlice.occurrences_perm ns ns hperm]
  | addresses ns ready eps rest hperm =>
      simp only [occurrences_cons, EndpointSlice.occurrences_cons,
        Endpoint.occurrences_perm hperm ready]
  | move ns ns' ep eps eps' rest =>
      simp only [occurrences_cons, EndpointSlice.occurrences_cons]
      omega
  | emptied ns rest => simp [EndpointSlice.occurrences]
  | symm _ ih => exact ih.symm
  | trans _ _ ih ih' => exact ih.trans ih'

theorem endpoints_eq_of_perm {c c' : EndpointCache} (h : c.slices.Perm c'.slices) :
    c.endpoints = c'.endpoints := by
  funext ns
  apply readyAddresses_eq_iff.mpr
  exact fun a => (Rearranged.slices (h.filter _)).occurrences_eq a

/-- However the endpoints are spread over slices, and in whatever order the lister comes across
them, the list is the same, in ascending order, with each address as often as it occurs. A pick
then means the same pod. -/
theorem endpoint_list_is_order_free {ss ss' : List EndpointSlice} (hss : Rearranged ss ss') :
    readyAddresses ss = readyAddresses ss' ∧
    (readyAddresses ss).Pairwise (· ≤ ·) ∧
    (∀ a, (readyAddresses ss).count a = occurrences a ss) ∧
    (∀ (h : Handler) (r : GoRequest) (cookieName : GoString) (hips : readyAddresses ss ≠ [])
      (hips' : readyAddresses ss' ≠ []),
        h.choose r cookieName _ hips = h.choose r cookieName _ hips') ∧
    ∀ (h : Handler) (c c' : EndpointCache), c.slices.Perm c'.slices →
      c.endpoints = c'.endpoints ∧ ∀ r, (h.over c).route r = (h.over c').route r := by
  have heq := readyAddresses_eq_iff.mpr hss.occurrences_eq
  refine ⟨heq, readyAddresses_sorted, fun a => count_readyAddresses, ?_, ?_⟩
  · intro h r cookieName hips hips'
    simp only [heq]
  · intro h c c' hperm
    have hendpoints := endpoints_eq_of_perm hperm
    refine ⟨hendpoints, fun r => ?_⟩
    rw [Handler.over, hendpoints, Handler.over]

theorem endpoint_list_is_order_free_sample :
    readyAddresses [⟨bytes "tenant-3", [⟨[bytes "10.244.0.6"], none⟩]⟩,
        ⟨bytes "tenant-3", [⟨[bytes "10.244.0.5"], some true⟩]⟩] =
      readyAddresses [⟨bytes "tenant-3", []⟩, ⟨bytes "tenant-3",
        [⟨[bytes "10.244.0.6"], none⟩, ⟨[bytes "10.244.0.5"], some true⟩]⟩] :=
  (endpoint_list_is_order_free (.move _ _ _ _ _ _)).1

end TenantPlatform
