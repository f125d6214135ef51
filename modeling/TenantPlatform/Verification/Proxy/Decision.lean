import TenantPlatform.Verification.Proxy.Affinity

/-! # The affinity decisions of the two proxies

The proxies read a `Cookie` header with parsers of their own. One takes the first cookie of a
name and the other one the last, and only one of them drops quotes. -/

namespace TenantPlatform

/-! ## What each proxy reads -/

/-- The value of the first cookie of this name with valid bytes, without its quotes, among not
more than 3000 cookies. -/
def firstCookie (name header : GoString) : Option GoString :=
  if defaultCookieMaxNum < header.count 59 + 1 then none
  else ((trimString header).splitOn 59).findSome? (readCookie name)

/-- What follows the first equals sign, if exactly this name is before it. -/
def namedValue (name part : GoString) : Option GoString :=
  if ((jsTrim part).cut 61).1 = name then some ((jsTrim part).cut 61).2 else none

/-- The value of the last cookie of this name, as it stands. -/
def lastCookie (name header : GoString) : Option GoString :=
  (header.splitOn 59).reverse.findSome? (namedValue name)

theorem cookieNamed_eq_firstCookie {r : GoRequest} {header : GoString} (hr : r.cookie = [header])
    (name : GoString) : r.cookieNamed name = firstCookie name header := by
  rw [GoRequest.cookieNamed, hr, readCookies, List.map_singleton, List.sum_singleton, firstCookie]
  split
  · rfl
  · rw [List.flatMap_singleton, List.head?_filterMap]

section LastCookie

variable {name : GoString} (hname : name ≠ []) (hproto : name ≠ bytes "__proto__")

include hname hproto

theorem addCookie_eq_or (out : GoString → Option GoString) (part : GoString) :
    addCookie out part name = (namedValue name part).or (out name) := by
  by_cases hequals : 61 ∈ jsTrim part
  · obtain ⟨k, v, htrim, hk⟩ := List.eq_append_cons_of_mem hequals
    rw [addCookie, namedValue, htrim, List.splitOn_append_cons_self_of_not_mem hk,
      List.cut_append_cons hk]
    dsimp only
    by_cases hkey : k = name
    · subst hkey
      simp [hname, hproto, List.intercalate_splitOn]
    · rw [if_neg hkey, Option.none_or]
      split
      · rfl
      · exact Function.update_of_ne (Ne.symm hkey) _ _
  · rw [addCookie, namedValue, List.splitOn_eq_singleton hequals, List.cut_of_notMem hequals]
    dsimp only
    by_cases hkey : jsTrim part = name
    · simp [hkey, hname, hproto]
    · rw [if_neg hkey, Option.none_or]
      split
      · rfl
      · exact Function.update_of_ne (Ne.symm hkey) _ _

theorem foldl_addCookie_eq (parts : List GoString) (out : GoString → Option GoString) :
    parts.foldl addCookie out name = (parts.reverse.findSome? (namedValue name)).or (out name) := by
  induction parts generalizing out with
  | nil => rfl
  | cons part parts ih =>
      rw [List.foldl_cons, ih, addCookie_eq_or hname hproto, List.reverse_cons,
        List.findSome?_append, Option.or_assoc, List.findSome?_singleton]

theorem parseCookies_eq_lastCookie (header : GoString) :
    parseCookies (some header) name = lastCookie name header := by
  rw [parseCookies, Option.getD_some, foldl_addCookie_eq hname hproto, Option.or_none, lastCookie]

end LastCookie

/-! ## The pod of a cookie -/

theorem Handler.stickyTarget_eq_some {h : Handler} {cookie : Option GoString}
    {ips : List GoString} {ip : GoString} :
    h.stickyTarget cookie ips = some ip ↔ cookie = some (h.signer.sign ip) ∧ ip ∈ ips := by
  simp [Handler.stickyTarget, Option.filter_eq_some_iff, Option.bind_eq_some_iff,
    Signer.verify_eq_some]

namespace StickyProxy

theorem stickyTarget_eq_some {p : StickyProxy} {s : Signer} (hshares : p.Shares s)
    {cookie : Option GoString} {ips : List GoString} (haddress : ∀ ip ∈ ips, IsAddress ip)
    {ip : GoString} :
    p.stickyTarget cookie ips = some ip ↔ cookie = some (s.sign ip) ∧ ip ∈ ips := by
  constructor
  · intro h
    have hmem := stickyTarget_mem h
    refine ⟨?_, hmem⟩
    cases cookie with
    | none => cases h
    | some value =>
        rw [← hshares.sign_eq (haddress ip hmem), Option.some.injEq, ← verify_eq_some]
        simp only [stickyTarget] at h
        split at h
        · cases h
        · split at h
          · cases h
          · rename_i verified hverify
            split at h
            · rw [hverify, h]
            · cases h
  · rintro ⟨rfl, hmem⟩
    rw [stickyTarget_sign hshares (haddress ip hmem), if_pos hmem]

end StickyProxy

/-! ## One decision -/

/-- The same pod, and a new cookie from both or from neither. -/
def SameDecision (chosen : GoString × CookieEvent) (u : Upstream) : Prop :=
  chosen.1 = u.targetIP ∧ (chosen.2 ≠ .stickyHit ↔ u.setCookie = true)

/-- Where the picks agree, the decisions agree as far as the valid cookies do. -/
theorem sameDecision_iff {h : Handler} {p : StickyProxy} (r : GoRequest) (name : GoString)
    {url d rest : GoString} (cookie : Option GoString) {ips : List GoString}
    (hpath : tenantPathRe url = some (d, rest))
    (hips : p.getEndpointIPs (bytes "tenant-" ++ d) = .ok ips) (hne : ips ≠ [])
    (hpick : h.pick ips.length = p.random ips.length) :
    ∃ u, p.route url cookie = .forward u ∧ (SameDecision (h.choose r name ips hne) u ↔
      h.stickyTarget (r.cookieNamed name) ips =
        p.stickyTarget (parseCookies cookie (affinityCookie d)) ips) := by
  unfold StickyProxy.route
  rw [hpath]
  dsimp only
  rw [hips]
  dsimp only
  rw [dif_neg hne]
  refine ⟨_, rfl, ?_⟩
  unfold SameDecision
  dsimp only
  rcases choose_eq h r name hne with ⟨ip, hgo, hchoose⟩ | ⟨hgo, hpicked, hevent⟩
  · rw [hgo, hchoose]
    cases p.stickyTarget (parseCookies cookie (affinityCookie d)) ips with
    | none => simp
    | some t => simp
  · rw [hgo, hpicked]
    cases p.stickyTarget (parseCookies cookie (affinityCookie d)) ips with
    | none => simp [hevent, hpick]
    | some t => simp [hevent]

/-- The two proxies decide alike if and only if the first cookie, as one of them reads it, is the
last one as it stands, or neither of the two is the signature of a ready address. -/
theorem same_affinity_decision_iff (h : Handler) (p : StickyProxy) (hshares : p.Shares h.signer)
    (r : GoRequest) (header : GoString) (hheader : r.cookie = [header]) (url d rest : GoString)
    (hpath : tenantPathRe url = some (d, rest)) (ips : List GoString)
    (hips : p.getEndpointIPs (bytes "tenant-" ++ d) = .ok ips) (hne : ips ≠ [])
    (haddress : ∀ ip ∈ ips, IsAddress ip) (hpick : h.pick ips.length = p.random ips.length) :
    ∃ u, p.route url (some header) = .forward u ∧
      (SameDecision (h.choose r (affinityCookie d) ips hne) u ↔
        firstCookie (affinityCookie d) header = lastCookie (affinityCookie d) header ∨
        ∀ ip ∈ ips, firstCookie (affinityCookie d) header ≠ some (h.signer.sign ip) ∧
          lastCookie (affinityCookie d) header ≠ some (h.signer.sign ip)) := by
  obtain ⟨u, hroute, hsame⟩ := sameDecision_iff r (affinityCookie d) (some header) hpath hips hne
    hpick
  refine ⟨u, hroute, hsame.trans ?_⟩
  rw [cookieNamed_eq_firstCookie hheader,
    parseCookies_eq_lastCookie (affinityCookie_ne_nil d) (affinityCookie_ne_proto d)]
  constructor
  · intro heq
    cases hgo : h.stickyTarget (firstCookie (affinityCookie d) header) ips with
    | none =>
        right
        intro ip hip
        constructor
        · intro hfirst
          rw [Handler.stickyTarget_eq_some.mpr ⟨hfirst, hip⟩] at hgo
          cases hgo
        · intro hlast
          rw [hgo, (StickyProxy.stickyTarget_eq_some hshares haddress).mpr ⟨hlast, hip⟩] at heq
          cases heq
    | some ip =>
        left
        rw [hgo] at heq
        rw [(Handler.stickyTarget_eq_some.mp hgo).1,
          ((StickyProxy.stickyTarget_eq_some hshares haddress).mp heq.symm).1]
  · intro hcookies
    apply Option.ext
    intro ip
    rw [Handler.stickyTarget_eq_some, StickyProxy.stickyTarget_eq_some hshares haddress]
    rcases hcookies with heq | hneither
    · rw [heq]
    · constructor
      · rintro ⟨hfirst, hip⟩
        exact absurd hfirst (hneither ip hip).1
      · rintro ⟨hlast, hip⟩
        exact absurd hlast (hneither ip hip).2

/-! ### Two cookies of one name -/

/-- A worthless cookie before a good one. -/
def duplicateHeader : GoString :=
  bytes "affinity_t3=x; affinity_t3=" ++ sampleHandler.signer.sign (bytes "10.244.0.5")

def samplePods : List GoString := [bytes "10.244.0.4", bytes "10.244.0.5"]

theorem samplePods_ne_nil : samplePods ≠ [] := List.cons_ne_nil _ _

def duplicateRequest : GoRequest := ⟨{ path := bytes "/t/3/" }, bytes "proxy", [duplicateHeader]⟩

theorem duplicate_cookie_splits_proxies :
    ∃ u, sampleStickyProxy.route (bytes "/t/3/") (some duplicateHeader) = .forward u ∧
      ¬ SameDecision (sampleHandler.choose duplicateRequest (affinityCookie (bytes "3")) samplePods
        samplePods_ne_nil) u := by
  refine ⟨⟨bytes "3", bytes "10.244.0.5", 8080, bytes "/", false⟩, by decide +kernel, ?_⟩
  have hgo : sampleHandler.choose duplicateRequest (affinityCookie (bytes "3")) samplePods
      samplePods_ne_nil = (bytes "10.244.0.4", .rejected) := by decide +kernel
  rw [hgo]
  rintro ⟨hpod, -⟩
  exact absurd hpod (by decide)

theorem same_affinity_decision_iff_sample :
    ∃ u, sampleStickyProxy.route (bytes "/t/3/") (some (bytes "theme=dark")) = .forward u ∧
      SameDecision (sampleHandler.choose ⟨{ path := bytes "/t/3/" }, bytes "proxy",
        [bytes "theme=dark"]⟩ (affinityCookie (bytes "3")) samplePods samplePods_ne_nil) u := by
  have haddresses : ∀ ip ∈ samplePods, IsAddress ip := by
    intro ip hip
    simp only [samplePods, List.mem_cons, List.not_mem_nil, or_false] at hip
    rcases hip with rfl | rfl
    · exact ⟨by decide, List.all_eq_true.mp (by decide)⟩
    · exact podAddress
  obtain ⟨u, hroute, hsame⟩ := same_affinity_decision_iff sampleHandler sampleStickyProxy ⟨rfl, rfl⟩
    ⟨{ path := bytes "/t/3/" }, bytes "proxy", [bytes "theme=dark"]⟩ (bytes "theme=dark") rfl
    (bytes "/t/3/") (bytes "3") (bytes "/") (by decide) samplePods rfl samplePods_ne_nil haddresses
    rfl
  exact ⟨u, hroute, hsame.mpr (.inl (by decide))⟩

end TenantPlatform
