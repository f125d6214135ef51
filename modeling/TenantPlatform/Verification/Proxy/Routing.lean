import TenantPlatform.Model.Proxy.Handler
import TenantPlatform.Model.Settings
import TenantPlatform.Verification.Webhooks.Signature

/-! # Tenant isolation in the Go proxy

A path selects a namespace, and only addresses of that namespace are ever chosen, whatever
cookies a request carries. -/

namespace TenantPlatform

/-- `/t/<d>` and what follows it: nothing, or a path. -/
structure TenantPath (path d rest : GoString) : Prop where
  eq : path = bytes "/t/" ++ d ++ rest
  nonempty : d ≠ []
  digits : ∀ b ∈ d, Bytes.isDigit b = true
  slash : rest = [] ∨ rest.head? = some 47

theorem bytes_t : bytes "/t/" = [47, 116, 47] := by decide

/-- The digits are taken as far as they go, and a path goes on with a slash. -/
theorem takeWhile_digits {d rest : GoString} (hd : ∀ b ∈ d, Bytes.isDigit b = true)
    (hslash : rest = [] ∨ rest.head? = some 47) :
    (d ++ rest).takeWhile Bytes.isDigit = d ∧ (d ++ rest).dropWhile Bytes.isDigit = rest := by
  rw [List.takeWhile_append_of_pos hd, List.dropWhile_append_of_pos hd]
  cases rest with
  | nil => simp
  | cons b rest =>
      obtain rfl : b = 47 := by simpa using hslash
      have hb : Bytes.isDigit 47 = false := by decide
      simp [hb]

/-- The pattern matches exactly these paths, as long as no newline follows. -/
theorem tenantPath_eq_some {path d rest : GoString} :
    tenantPath path = some (d, rest) ↔ TenantPath path d rest ∧ 10 ∉ rest := by
  constructor
  · intro h
    unfold tenantPath at h
    split at h
    · rename_i hprefix
      obtain ⟨tail, rfl⟩ := List.isPrefixOf_iff_prefix.mp hprefix
      have hdrop : (bytes "/t/" ++ tail).drop 3 = tail := by rw [bytes_t]; rfl
      simp only [hdrop] at h
      split at h
      · rename_i hmatch
        simp only [Bool.and_eq_true, Bool.or_eq_true, decide_eq_true_eq, Bool.not_eq_true',
          List.contains_eq_mem, decide_eq_false_iff_not] at hmatch
        cases h
        refine ⟨⟨?_, hmatch.1, fun b hb => List.mem_takeWhile_imp hb, ?_⟩, ?_⟩
        · rw [List.append_assoc, List.takeWhile_append_dropWhile]
        · exact hmatch.2.imp id And.left
        · rcases hmatch.2 with hnil | hrest
          · rw [hnil]
            exact List.not_mem_nil
          · exact hrest.2
      · cases h
    · cases h
  · rintro ⟨⟨rfl, hne, hd, hslash⟩, hnl⟩
    obtain ⟨htake, hdrop⟩ := takeWhile_digits hd hslash
    have hprefix : (bytes "/t/").isPrefixOf (bytes "/t/" ++ d ++ rest) = true :=
      List.isPrefixOf_iff_prefix.mpr ⟨d ++ rest, (List.append_assoc _ _ _).symm⟩
    have htail : (bytes "/t/" ++ d ++ rest).drop 3 = d ++ rest := by
      rw [bytes_t, List.append_assoc]
      rfl
    unfold tenantPath
    rw [if_pos hprefix]
    simp only [htail, htake, hdrop]
    rw [if_pos]
    rcases hslash with rfl | hslash
    · simpa using hne
    · simp [hne, hslash, hnl]

/-- The address belongs to an endpoint of the namespace that is not known to be unready. -/
def EndpointCache.Serves (c : EndpointCache) (ns address : GoString) : Prop :=
  ∃ s ∈ c.slices, s.ns = ns ∧ ∃ ep ∈ s.endpoints, ep.ready ≠ some false ∧ address ∈ ep.addresses

theorem mem_endpoints {c : EndpointCache} {ns address : GoString} :
    address ∈ c.endpoints ns ↔ c.Serves ns address := by
  simp only [EndpointCache.endpoints, readyAddresses, List.mem_insertionSort, List.mem_flatMap,
    List.mem_filter, decide_eq_true_eq, Endpoint.isReady, Bool.not_eq_true',
    decide_eq_false_iff_not, EndpointCache.Serves]
  constructor
  · rintro ⟨s, ⟨hs, hns⟩, ep, ⟨hep, hready⟩, haddress⟩
    exact ⟨s, hs, hns, ep, hep, hready, haddress⟩
  · rintro ⟨s, hs, hns, ep, hep, hready, haddress⟩
    exact ⟨s, ⟨hs, hns⟩, ep, ⟨hep, hready⟩, haddress⟩

/-- The pod of a cookie, if it was signed here and still runs. -/
def Handler.stickyTarget (h : Handler) (cookie : Option GoString) (ips : List GoString) :
    Option GoString :=
  (cookie.bind h.signer.verify).filter (fun ip => ips.contains ip)

section Choose

variable {h : Handler} {r : GoRequest} {cookieName : GoString} {ips : List GoString}

/-- A valid cookie decides, and otherwise the pick does. -/
theorem choose_eq (h : Handler) (r : GoRequest) (cookieName : GoString) (hips : ips ≠ []) :
    (∃ ip, h.stickyTarget (r.cookieNamed cookieName) ips = some ip ∧
      h.choose r cookieName ips hips = (ip, .stickyHit)) ∨
    h.stickyTarget (r.cookieNamed cookieName) ips = none ∧
      (h.choose r cookieName ips hips).1 =
        ips.get ⟨h.pick ips.length, h.pick_lt _ (List.length_pos_of_ne_nil hips)⟩ ∧
      (h.choose r cookieName ips hips).2 ≠ .stickyHit := by
  unfold Handler.choose Handler.stickyTarget
  cases hcookie : r.cookieNamed cookieName with
  | none => simp
  | some value =>
      cases hverify : h.signer.verify value with
      | none => simp [hverify]
      | some ip =>
          by_cases hmem : ip ∈ ips
          · simp [hverify, hmem]
          · simp [hverify, hmem]

/-- Whether a cookie or the pick decides, the target is one of the addresses. -/
theorem choose_mem (hips : ips ≠ []) : (h.choose r cookieName ips hips).1 ∈ ips := by
  unfold Handler.choose
  split
  · exact List.get_mem ips _
  · split
    · split
      · assumption
      · exact List.get_mem ips _
    · exact List.get_mem ips _

end Choose

/-! ## Routes -/

section Route

variable {h : Handler} {r : GoRequest} {d rest : GoString} {f : Forwarding}

/-- What a forwarded request looked like, and where it goes. -/
theorem of_route_forward (hroute : h.route r = .forward f) :
    ∃ rest, tenantPath r.url.path = some (f.tenantID, rest) ∧
      f.target ∈ h.resolver (bytes "tenant-" ++ f.tenantID) := by
  unfold Handler.route at hroute
  split at hroute
  · cases hroute
  · rename_i d rest hpath
    dsimp only at hroute
    split at hroute
    · cases hroute
    · rename_i hips
      obtain rfl := Routed.forward.inj hroute
      exact ⟨rest, hpath, choose_mem hips⟩

/-- A tenant path is forwarded as soon as there is an address. -/
theorem route_forward (hpath : tenantPath r.url.path = some (d, rest))
    (hips : h.resolver (bytes "tenant-" ++ d) ≠ []) :
    ∃ f, h.route r = .forward f ∧ f.tenantID = d ∧
      f.out.path = (if rest = [] then bytes "/" else rest) ∧ f.out.rawPath = [] ∧
      f.out.rawQuery = r.url.rawQuery ∧
      (f.target, f.event) = h.choose r (affinityCookie d) _ hips := by
  unfold Handler.route
  rw [hpath]
  dsimp only
  rw [dif_neg hips]
  exact ⟨_, rfl, rfl, rfl, rfl, rfl, rfl⟩

theorem route_unavailable (hpath : tenantPath r.url.path = some (d, rest))
    (hips : h.resolver (bytes "tenant-" ++ d) = []) : h.route r = .unavailable d := by
  unfold Handler.route
  rw [hpath]
  dsimp only
  rw [dif_pos hips]

end Route

theorem bytes_tenantNamespace (n : ℕ) :
    bytes (tenantNamespace n) = bytes "tenant-" ++ Bytes.decimal n := by
  rw [bytes, tenantNamespace, String.toList_append, utf8_append, utf8_toString]
  rfl

/-- The handler whose addresses come from an endpoint cache. -/
def Handler.over (h : Handler) (c : EndpointCache) : Handler := { h with resolver := c.endpoints }

/-- A request gets to pods of the namespace that its path names, and to no others. The
namespace is a tenant's only if the path has the tenant's id in its one canonical spelling. -/
theorem proxy_keeps_tenants_apart (h : Handler) (c : EndpointCache) (r : GoRequest) :
    (∀ f, (h.over c).route r = .forward f →
      (∃ rest, TenantPath r.url.path f.tenantID rest) ∧
        c.Serves (bytes "tenant-" ++ f.tenantID) f.target) ∧
    (∀ d rest, TenantPath r.url.path d rest → 10 ∉ rest →
      ((∃ f, (h.over c).route r = .forward f) ↔ ∃ a, c.Serves (bytes "tenant-" ++ d) a)) ∧
    ∀ f n, (h.over c).route r = .forward f →
      bytes "tenant-" ++ f.tenantID = bytes (tenantNamespace n) →
        ∃ rest, TenantPath r.url.path (Bytes.decimal n) rest := by
  refine ⟨?_, ?_, ?_⟩
  · intro f hroute
    obtain ⟨rest, hpath, htarget⟩ := of_route_forward hroute
    exact ⟨⟨rest, (tenantPath_eq_some.mp hpath).1⟩, mem_endpoints.mp htarget⟩
  · intro d rest htenant hnl
    have hpath := tenantPath_eq_some.mpr ⟨htenant, hnl⟩
    constructor
    · rintro ⟨f, hroute⟩
      obtain ⟨rest', hpath', htarget⟩ := of_route_forward hroute
      obtain ⟨rfl, rfl⟩ : d = f.tenantID ∧ rest = rest' := by
        rw [hpath'] at hpath
        cases hpath
        exact ⟨rfl, rfl⟩
      exact ⟨f.target, mem_endpoints.mp htarget⟩
    · rintro ⟨a, ha⟩
      obtain ⟨f, hroute, -⟩ := route_forward (h := h.over c) hpath
        (List.ne_nil_of_mem (mem_endpoints.mpr ha))
      exact ⟨f, hroute⟩
  · intro f n hroute hns
    obtain ⟨rest, hpath, -⟩ := of_route_forward hroute
    rw [bytes_tenantNamespace] at hns
    rw [← List.append_cancel_left hns]
    exact ⟨rest, (tenantPath_eq_some.mp hpath).1⟩

/-! ### One pod -/

/-- HMAC-SHA256 of the one address of the sample runs. -/
def podHmac (key message : List UInt8) : List UInt8 :=
  if key = bytes "test-secret" ∧ message = bytes "10.244.0.5" then
    [104, 144, 36, 125, 88, 56, 29, 115, 108, 182, 104, 126, 38, 244, 191, 237, 177, 173, 247,
      39, 244, 112, 146, 214, 75, 103, 71, 238, 68, 150, 228, 85]
  else []

def sampleHandler : Handler where
  resolver _ := []
  signer := ⟨bytes "test-secret", podHmac⟩
  upstreamPort := bytes "8080"
  pick _ := 0
  pick_lt _ h := h

/-- Tenant 3 has a ready pod, and one that is not. -/
def sampleCache : EndpointCache :=
  ⟨[⟨bytes "tenant-3", [⟨[bytes "10.244.0.4"], some false⟩, ⟨[bytes "10.244.0.5"], none⟩]⟩]⟩

def sampleRequest (path : String) : GoRequest := ⟨{ path := bytes path }, bytes "proxy", []⟩

theorem proxy_keeps_tenants_apart_sample :
    ∃ f, (sampleHandler.over sampleCache).route (sampleRequest "/t/3/hello") = .forward f := by
  refine ((proxy_keeps_tenants_apart sampleHandler sampleCache _).2.1 (bytes "3") (bytes "/hello")
    ⟨by decide, by decide, List.all_eq_true.mp (by decide), by decide⟩ (by decide)).mpr
    ⟨bytes "10.244.0.5", ?_⟩
  exact ⟨_, List.mem_cons_self, by decide, _, List.mem_cons_of_mem _ List.mem_cons_self, by decide,
    List.mem_cons_self⟩

/-- Another spelling of the id gets nowhere. -/
example : (sampleHandler.over sampleCache).route (sampleRequest "/t/03/hello") =
    .unavailable (bytes "03") := by decide

end TenantPlatform
