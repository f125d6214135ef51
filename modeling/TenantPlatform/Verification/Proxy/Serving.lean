import TenantPlatform.Verification.Proxy.Cookies

/-! # One request to either proxy

A request that is routed goes to the pod of its cookie if that pod is ready, and else to another
one, for which it gets a cookie. -/

namespace TenantPlatform

/-! ## Requests -/

/-- A request to one of the proxies as it is at that time, and what an exchange with a pod would
come to. -/
inductive Service where
  | go (h : Handler) (url : Url) (host : GoString)
      (roundTrip : Forwarding → Except GoString HttpResponse)
  | node (p : StickyProxy) (url : GoString) (request : Upstream → UpstreamOutcome)

namespace Service

def isGo : Service → Bool
  | .go .. => true
  | .node .. => false

/-- The tenant whose path it is. -/
def tenant : Service → Option GoString
  | .go _ url _ _ => (tenantPath url.path).map Prod.fst
  | .node _ url _ => (tenantPathRe url).map Prod.fst

/-- The pods of a tenant that are ready, as far as the proxy can tell. -/
def ready (d : GoString) : Service → List GoString
  | .go h _ _ _ => h.resolver (bytes "tenant-" ++ d)
  | .node p _ _ =>
      match p.getEndpointIPs (bytes "tenant-" ++ d) with
      | .ok ips => ips
      | .error _ => []

/-- The pod that the request is sent to, if it is routed. -/
def target (cookie : Option GoString) : Service → Option GoString
  | .go h url host _ =>
      match h.route ⟨url, host, cookie.toList⟩ with
      | .forward f => some f.target
      | _ => none
  | .node p url _ =>
      match p.route url cookie with
      | .forward u => some u.targetIP
      | _ => none

/-- The pod's own response, if it answers. -/
def answer (cookie : Option GoString) : Service → Option HttpResponse
  | .go h url host roundTrip =>
      match h.route ⟨url, host, cookie.toList⟩ with
      | .forward f => (roundTrip f).toOption
      | _ => none
  | .node p url request =>
      match p.route url cookie with
      | .forward u =>
          match request u with
          | .answered resp => some resp
          | _ => none
      | _ => none

/-- The value that the proxy finds for a cookie. -/
def reads (cookie : Option GoString) (name : GoString) : Service → Option GoString
  | .go _ url host _ => GoRequest.cookieNamed ⟨url, host, cookie.toList⟩ name
  | .node _ _ _ => parseCookies cookie name

/-- The `Set-Cookie` lines of the response to the client. -/
def lines (cookie : Option GoString) : Service → List GoString
  | .go h url host roundTrip =>
      setCookieLines (h.serveHTTP ⟨url, host, cookie.toList⟩ roundTrip).headers
  | .node p url request => setCookieLines (p.handle url cookie request).headers

end Service

/-- The line sets no cookie of this name. -/
def Silent (name line : GoString) : Prop :=
  ∀ cookie, parseSetCookie line = some cookie → cookie.name ≠ name

/-- The path that affinity cookies are for. -/
def affinityPath (d : GoString) : GoString := bytes "/t/" ++ d

/-- What is assumed: one secret, addresses in the notation of IPv4 or IPv6, and an app that sets
no cookie of the name of tenant `d`. -/
structure Service.Admissible (s : Signer) (d : GoString) (service : Service) : Prop where
  secret : match service with
    | .go h _ _ _ => h.signer = s
    | .node p _ _ => p.Shares s
  addresses : ∀ d', ∀ a ∈ service.ready d', IsAddress a
  app : ∀ cookie resp, service.answer cookie = some resp →
    ∀ line ∈ setCookieLines resp.headers, Silent (affinityCookie d) line

/-- A routed request: it is sent to the pod `t` of tenant `d`, and an answer of the pod comes back
with a cookie for it unless the client is kept where it was. -/
structure Service.Routes (s : Signer) (service : Service) (cookie : Option GoString)
    (d t : GoString) (sticky : Bool) : Prop where
  target : service.target cookie = some t
  mem : t ∈ service.ready d
  unanswered : service.answer cookie = none → service.lines cookie = []
  kept : sticky = true → ∀ resp, service.answer cookie = some resp →
    service.lines cookie ⊆ setCookieLines resp.headers
  moved : sticky = false → ∀ resp, service.answer cookie = some resp →
    ∃ old line, service.lines cookie = old ++ [line] ∧ old ⊆ setCookieLines resp.headers ∧
      parseSetCookie line = some ⟨affinityCookie d, s.sign t, some (affinityPath d)⟩

namespace Service.Routes

variable {s : Signer} {service : Service} {cookie : Option GoString} {d t : GoString}
  {sticky : Bool} {resp : HttpResponse}

theorem of_unanswered (htarget : service.target cookie = some t) (hmem : t ∈ service.ready d)
    (hanswer : service.answer cookie = none) (hlines : service.lines cookie = []) :
    service.Routes s cookie d t sticky where
  target := htarget
  mem := hmem
  unanswered _ := hlines
  kept _ resp hresp := by
    rw [hanswer] at hresp
    cases hresp
  moved _ resp hresp := by
    rw [hanswer] at hresp
    cases hresp

theorem of_answered (resp : HttpResponse) (htarget : service.target cookie = some t)
    (hmem : t ∈ service.ready d)
    (hanswer : service.answer cookie = some resp)
    (hkept : sticky = true → service.lines cookie ⊆ setCookieLines resp.headers)
    (hmoved : sticky = false → ∃ old line, service.lines cookie = old ++ [line] ∧
      old ⊆ setCookieLines resp.headers ∧
      parseSetCookie line = some ⟨affinityCookie d, s.sign t, some (affinityPath d)⟩) :
    service.Routes s cookie d t sticky where
  target := htarget
  mem := hmem
  unanswered hnone := by
    rw [hanswer] at hnone
    cases hnone
  kept hsticky resp' hresp := by
    obtain rfl := Option.some.inj (hanswer.symm.trans hresp)
    exact hkept hsticky
  moved hsticky resp' hresp := by
    obtain rfl := Option.some.inj (hanswer.symm.trans hresp)
    exact hmoved hsticky

end Service.Routes

/-! ## Headers -/

theorem setCookieLines_append (headers : List (String × GoString)) (name : String)
    (value : GoString) :
    setCookieLines (headers ++ [(name, value)]) = setCookieLines headers ++
      (if name = "Set-Cookie" ∨ name = "set-cookie" then [value] else []) := by
  rw [setCookieLines, List.filterMap_append, setCookieLines]
  split <;> simp_all

theorem setCookieLines_filter (headers : List (String × GoString)) (name : String) :
    setCookieLines (headers.filter (fun header => header.1 ≠ name)) ⊆ setCookieLines headers := by
  intro line hline
  obtain ⟨header, hheader, hsome⟩ := List.mem_filterMap.mp hline
  exact List.mem_filterMap.mpr ⟨header, (List.mem_filter.mp hheader).1, hsome⟩

/-- Setting another header adds no cookie. -/
theorem setCookieLines_setHeader (headers : List (String × GoString)) {name : String}
    (value : GoString) (hname : ¬ (name = "Set-Cookie" ∨ name = "set-cookie")) :
    setCookieLines (setHeader headers name value) ⊆ setCookieLines headers := by
  rw [setHeader, setCookieLines_append, if_neg hname, List.append_nil]
  exact setCookieLines_filter headers name

/-! ## The Go proxy -/

/-- A cookie for a ready pod decides, and nothing else counts as a hit. -/
theorem Handler.choose_of_sign {h : Handler} {r : GoRequest} {name p : GoString}
    {ips : List GoString} (hips : ips ≠ [])
    (hcookie : r.cookieNamed name = some (h.signer.sign p)) :
    ((h.choose r name ips hips).2 = .stickyHit ↔ p ∈ ips) ∧
      ((h.choose r name ips hips).2 = .stickyHit → (h.choose r name ips hips).1 = p) := by
  rw [Handler.choose, hcookie]
  simp only [Signer.verify_sign]
  by_cases hp : p ∈ ips
  · rw [if_pos hp]
    exact ⟨iff_of_true rfl hp, fun _ => rfl⟩
  · rw [if_neg hp]
    exact ⟨iff_of_false (by intro hhit; cases hhit) hp, by intro hhit; cases hhit⟩

section Modify

variable (h : Handler) {f : Forwarding} (resp : HttpResponse)

theorem setCookieLines_modified (tenantID target : GoString) :
    setCookieLines (setHeader (setHeader resp.headers "X-Routed-Tenant" tenantID)
      "X-Routed-To" target) ⊆ setCookieLines resp.headers :=
  List.Subset.trans (setCookieLines_setHeader _ target (by decide))
    (setCookieLines_setHeader _ tenantID (by decide))

theorem modifyResponse_hit (hevent : f.event = .stickyHit) :
    setCookieLines (h.modifyResponse f resp).headers ⊆ setCookieLines resp.headers := by
  rw [Handler.modifyResponse]
  dsimp only
  rw [if_pos hevent]
  exact setCookieLines_modified resp _ _

theorem modifyResponse_moved (hevent : f.event ≠ .stickyHit) :
    ∃ old, setCookieLines (h.modifyResponse f resp).headers =
        old ++ [cookieString (affinityCookie f.tenantID) (h.signer.sign f.target)
          (affinityPath f.tenantID)] ∧ old ⊆ setCookieLines resp.headers := by
  rw [Handler.modifyResponse]
  dsimp only
  rw [if_neg hevent, setCookieLines_append]
  exact ⟨_, rfl, setCookieLines_modified resp _ _⟩

end Modify

theorem affinityPath_head (d : GoString) : (affinityPath d).head? = some 47 := by
  rw [affinityPath, bytes_t]
  rfl

section Serve

variable {s : Signer} {d : GoString} (cookie : Option GoString)

theorem go_routes {h : Handler} {url : Url} {host : GoString}
    {roundTrip : Forwarding → Except GoString HttpResponse} (hsigner : h.signer = s)
    (haddresses : ∀ a ∈ (Service.go h url host roundTrip).ready d, IsAddress a)
    (htenant : (Service.go h url host roundTrip).tenant = some d)
    (hready : (Service.go h url host roundTrip).ready d ≠ []) :
    ∃ t sticky, (Service.go h url host roundTrip).Routes s cookie d t sticky ∧
      ∀ p, (Service.go h url host roundTrip).reads cookie (affinityCookie d) =
          some (s.sign p) →
        (sticky = true ↔ p ∈ (Service.go h url host roundTrip).ready d) ∧
          (sticky = true → t = p) := by
  subst hsigner
  obtain ⟨⟨d, rest⟩, hpath, rfl⟩ := Option.map_eq_some_iff.mp htenant
  have hdigits := (tenantPath_eq_some.mp hpath).1.digits
  obtain ⟨f, hroute, hid, -, -, -, hchoose⟩ :=
    route_forward (h := h) (r := ⟨url, host, cookie.toList⟩) hpath hready
  have htarget : f.target = (h.choose _ _ _ hready).1 := congrArg Prod.fst hchoose
  have hevent : f.event = (h.choose _ _ _ hready).2 := congrArg Prod.snd hchoose
  have hmem : f.target ∈ h.resolver (bytes "tenant-" ++ d) := htarget ▸ choose_mem hready
  have hplain := Signer.sign_plain (s := h.signer) (haddresses f.target hmem)
  have hsent : (Service.go h url host roundTrip).target cookie = some f.target := by
    simp only [Service.target, hroute]
  refine ⟨f.target, decide (f.event = .stickyHit), ?_, ?_⟩
  · cases hresult : roundTrip f with
    | error message =>
        apply Service.Routes.of_unanswered hsent hmem
        · simp only [Service.answer, hroute, hresult]
          rfl
        · simp only [Service.lines, Handler.serveHTTP, hroute, hresult]
          rfl
    | ok resp =>
        have hlines : (Service.go h url host roundTrip).lines cookie =
            setCookieLines (h.modifyResponse f resp).headers := by
          simp only [Service.lines, Handler.serveHTTP, hroute, hresult]
        apply Service.Routes.of_answered resp hsent hmem
        · simp only [Service.answer, hroute, hresult]
          rfl
        · intro hsticky
          rw [hlines]
          exact modifyResponse_hit h resp (of_decide_eq_true hsticky)
        · intro hsticky
          obtain ⟨old, hold, hsubset⟩ := modifyResponse_moved h resp
            (of_decide_eq_false hsticky)
          rw [hid] at hold
          exact ⟨old, _, hlines.trans hold, hsubset,
            parseSetCookie_cookieString (affinityCookie_plain hdigits)
              (affinityCookie_isToken hdigits) hplain (affinityPath_plain hdigits)
              (affinityPath_head d)⟩
  · intro p hreads
    have hcookie := Handler.choose_of_sign hready hreads
    rw [← hevent, ← htarget] at hcookie
    simpa using hcookie

end Serve

/-! ## The Node proxy -/

/-- Its pattern is that of the Go proxy, but for carriage returns. -/
theorem tenantPath_of_tenantPathRe {url d rest : GoString}
    (h : tenantPathRe url = some (d, rest)) : tenantPath url = some (d, rest) := by
  unfold tenantPathRe at h
  unfold tenantPath
  split at h
  · rename_i hprefix
    rw [if_pos hprefix]
    dsimp only at h ⊢
    split at h
    · rename_i hmatch
      rw [if_pos, h]
      simp only [Bool.and_eq_true, Bool.or_eq_true] at hmatch ⊢
      exact ⟨hmatch.1, hmatch.2.imp id And.left⟩
    · cases h
  · cases h

namespace StickyProxy

variable {p : StickyProxy} {s : Signer} {ips : List GoString} {a : GoString}

theorem stickyTarget_mem {cookie : Option GoString} (h : p.stickyTarget cookie ips = some a) :
    a ∈ ips := by
  unfold stickyTarget at h
  split at h
  · cases h
  · split at h
    · cases h
    · split at h
      · cases h
      · split at h
        · rename_i hready
          cases h
          simp only [Bool.and_eq_true, List.contains_eq_mem, decide_eq_true_eq] at hready
          exact hready.2
        · cases h

theorem stickyTarget_sign (hshares : p.Shares s) (ha : IsAddress a) :
    p.stickyTarget (some (s.sign a)) ips = if a ∈ ips then some a else none := by
  rw [stickyTarget, if_neg Signer.sign_ne_nil, hshares.verify_sign ha]
  simp [ha.nonempty]

/-- A tenant path is forwarded as soon as there is an address: that of the cookie, or any. -/
theorem route_forward {url d rest : GoString} (cookie : Option GoString)
    (hpath : tenantPathRe url = some (d, rest))
    (hips : p.getEndpointIPs (bytes "tenant-" ++ d) = .ok ips) (hne : ips ≠ []) :
    ∃ u, p.route url cookie = .forward u ∧ u.tenantId = d ∧ u.targetIP ∈ ips ∧
      (∀ t, p.stickyTarget (parseCookies cookie (affinityCookie d)) ips = some t →
        u.targetIP = t) ∧
      u.setCookie = (p.stickyTarget (parseCookies cookie (affinityCookie d)) ips).isNone := by
  unfold route
  rw [hpath]
  dsimp only
  rw [hips]
  dsimp only
  rw [dif_neg hne]
  refine ⟨_, rfl, rfl, ?_, ?_, rfl⟩
  · dsimp only
    cases hsticky : p.stickyTarget (parseCookies cookie (affinityCookie d)) ips with
    | none => exact List.get_mem ips _
    | some t => exact stickyTarget_mem hsticky
  · intro t hsticky
    dsimp only
    rw [hsticky]
    rfl

end StickyProxy

section Proxied

variable (p : StickyProxy) {u : Upstream} (resp : HttpResponse)

theorem proxied_kept (hcookie : u.setCookie = false) :
    setCookieLines (p.proxied u resp).headers ⊆ setCookieLines resp.headers := by
  rw [StickyProxy.proxied]
  dsimp only
  rw [hcookie]
  exact List.Subset.trans (setCookieLines_setHeader _ u.targetIP (by decide))
    (setCookieLines_setHeader _ u.tenantId (by decide))

/-- The proxy's cookie takes the place of the app's. -/
theorem proxied_moved (hcookie : u.setCookie = true) :
    ∃ old, setCookieLines (p.proxied u resp).headers =
        old ++ [nodeCookieLine (affinityCookie u.tenantId) (p.sign u.targetIP)
          (affinityPath u.tenantId)] ∧ old ⊆ setCookieLines resp.headers := by
  have hpath : bytes "; Path=/t/" = bytes "; Path=" ++ bytes "/t/" := by decide
  rw [StickyProxy.proxied]
  dsimp only
  rw [if_pos hcookie, setHeader, setCookieLines_append, if_pos (Or.inr rfl), hpath]
  have hold := List.Subset.trans (setCookieLines_filter (setHeader (setHeader resp.headers
      "x-routed-tenant" u.tenantId) "x-routed-to" u.targetIP) "set-cookie")
    (List.Subset.trans (setCookieLines_setHeader _ u.targetIP (by decide))
      (setCookieLines_setHeader _ u.tenantId (by decide)))
  exact ⟨_, by simp [nodeCookieLine, affinityPath], hold⟩

end Proxied

section Handle

variable {s : Signer} {d : GoString} (cookie : Option GoString)

theorem node_routes {p : StickyProxy} {url : GoString} {request : Upstream → UpstreamOutcome}
    (hshares : p.Shares s)
    (haddresses : ∀ a ∈ (Service.node p url request).ready d, IsAddress a)
    (htenant : (Service.node p url request).tenant = some d)
    (hready : (Service.node p url request).ready d ≠ []) :
    ∃ t sticky, (Service.node p url request).Routes s cookie d t sticky ∧
      ∀ a, IsAddress a → (Service.node p url request).reads cookie (affinityCookie d) =
          some (s.sign a) →
        (sticky = true ↔ a ∈ (Service.node p url request).ready d) ∧
          (sticky = true → t = a) := by
  obtain ⟨⟨d, rest⟩, hpath, rfl⟩ := Option.map_eq_some_iff.mp htenant
  have hdigits := (tenantPath_eq_some.mp (tenantPath_of_tenantPathRe hpath)).1.digits
  obtain ⟨ips, hips⟩ : ∃ ips, p.getEndpointIPs (bytes "tenant-" ++ d) = .ok ips := by
    cases hresult : p.getEndpointIPs (bytes "tenant-" ++ d) with
    | ok ips => exact ⟨ips, rfl⟩
    | error message => simp [Service.ready, hresult] at hready
  have hlist : (Service.node p url request).ready d = ips := by
    simp only [Service.ready, hips]
  rw [hlist] at hready haddresses ⊢
  obtain ⟨u, hroute, hid, htarget, hsame, hset⟩ :=
    StickyProxy.route_forward cookie hpath hips hready
  have hsent : (Service.node p url request).target cookie = some u.targetIP := by
    simp only [Service.target, hroute]
  have hmem : u.targetIP ∈ (Service.node p url request).ready d := hlist ▸ htarget
  have hplain := Signer.sign_plain (s := s) (haddresses u.targetIP htarget)
  refine ⟨u.targetIP, !u.setCookie, ?_, ?_⟩
  · cases hresult : request u with
    | thrown message =>
        apply Service.Routes.of_unanswered hsent hmem
        · simp only [Service.answer, hroute, hresult]
        · simp only [Service.lines, StickyProxy.handle, hroute, hresult]
          rfl
    | failed message =>
        apply Service.Routes.of_unanswered hsent hmem
        · simp only [Service.answer, hroute, hresult]
        · simp only [Service.lines, StickyProxy.handle, hroute, hresult]
          rfl
    | answered resp =>
        have hlines : (Service.node p url request).lines cookie =
            setCookieLines (p.proxied u resp).headers := by
          simp only [Service.lines, StickyProxy.handle, hroute, hresult]
        apply Service.Routes.of_answered resp hsent hmem
        · simp only [Service.answer, hroute, hresult]
        · intro hsticky
          rw [hlines]
          exact proxied_kept p resp (by simpa using hsticky)
        · intro hsticky
          obtain ⟨old, hold, hsubset⟩ := proxied_moved p resp
            (show u.setCookie = true by simpa using hsticky)
          rw [hid, hshares.sign_eq (haddresses u.targetIP htarget)] at hold
          exact ⟨old, _, hlines.trans hold, hsubset,
            parseSetCookie_nodeCookieLine (affinityCookie_plain hdigits) (affinityCookie_ne_nil d)
              hplain (affinityPath_plain hdigits) (affinityPath_head d)⟩
  · intro a ha hreads
    have hchoice : p.stickyTarget (parseCookies cookie (affinityCookie d)) ips =
        if a ∈ ips then some a else none := by
      rw [← StickyProxy.stickyTarget_sign hshares ha]
      exact congrArg (fun value => p.stickyTarget value ips) hreads
    rw [hset]
    by_cases hmem : a ∈ ips
    · rw [if_pos hmem] at hchoice
      rw [hchoice]
      exact ⟨iff_of_true rfl hmem, fun _ => hsame a hchoice⟩
    · rw [if_neg hmem] at hchoice
      rw [hchoice]
      exact ⟨iff_of_false (by decide) hmem, by intro hhit; cases hhit⟩

end Handle

/-! ## Either proxy -/

namespace Service

variable {s : Signer} {service : Service} {cookie : Option GoString} {d d' t : GoString}

theorem routes (cookie : Option GoString) (hadm : service.Admissible s d')
    (htenant : service.tenant = some d)
    (hready : service.ready d ≠ []) :
    ∃ t sticky, service.Routes s cookie d t sticky ∧
      ∀ a, IsAddress a → service.reads cookie (affinityCookie d) = some (s.sign a) →
        (sticky = true ↔ a ∈ service.ready d) ∧ (sticky = true → t = a) := by
  cases service with
  | go h url host roundTrip =>
      obtain ⟨t, sticky, hroutes, hreads⟩ :=
        go_routes cookie hadm.secret (hadm.addresses d) htenant hready
      exact ⟨t, sticky, hroutes, fun a _ => hreads a⟩
  | node p url request => exact node_routes cookie hadm.secret (hadm.addresses d) htenant hready

theorem digits_of_tenant (htenant : service.tenant = some d) :
    ∀ b ∈ d, Bytes.isDigit b = true := by
  cases service with
  | go h url host roundTrip =>
      obtain ⟨⟨d, rest⟩, hpath, rfl⟩ := Option.map_eq_some_iff.mp htenant
      exact (tenantPath_eq_some.mp hpath).1.digits
  | node p url request =>
      obtain ⟨⟨d, rest⟩, hpath, rfl⟩ := Option.map_eq_some_iff.mp htenant
      exact (tenantPath_eq_some.mp (tenantPath_of_tenantPathRe hpath)).1.digits

/-- A request that is no tenant's, or whose tenant has no ready pod, is answered by the proxy
itself, and no cookie comes with it. -/
theorem unrouted (cookie : Option GoString)
    (h : ∀ d, service.tenant = some d → service.ready d = []) :
    service.target cookie = none ∧ service.lines cookie = [] := by
  cases service with
  | go h' url host roundTrip =>
      cases hpath : tenantPath url.path with
      | none =>
          have hroute : h'.route ⟨url, host, cookie.toList⟩ = .notFound := by
            rw [Handler.route, hpath]
          simp only [target, lines, Handler.serveHTTP, hroute]
          exact ⟨trivial, by decide⟩
      | some cuts =>
          obtain ⟨d, rest⟩ := cuts
          have hready := h d (by rw [tenant, hpath]; rfl)
          have hroute := route_unavailable (r := ⟨url, host, cookie.toList⟩) hpath hready
          simp only [target, lines, Handler.serveHTTP, hroute]
          exact ⟨trivial, rfl⟩
  | node p url request =>
      cases hpath : tenantPathRe url with
      | none =>
          have hroute : p.route url cookie = .notFound := by
            rw [StickyProxy.route, hpath]
          simp only [target, lines, StickyProxy.handle, hroute]
          exact ⟨trivial, rfl⟩
      | some cuts =>
          obtain ⟨d, rest⟩ := cuts
          have hready := h d (by rw [tenant, hpath]; rfl)
          cases hips : p.getEndpointIPs (bytes "tenant-" ++ d) with
          | error message =>
              have hroute : p.route url cookie = .failed message := by
                simp only [StickyProxy.route, hpath, hips]
              simp only [target, lines, StickyProxy.handle, hroute]
              exact ⟨trivial, rfl⟩
          | ok ips =>
              simp only [ready, hips] at hready
              have hroute : p.route url cookie = .unavailable d := by
                simp only [StickyProxy.route, hpath, hips, hready, dif_pos]
              simp only [target, lines, StickyProxy.handle, hroute]
              exact ⟨trivial, rfl⟩

/-- Every request is routed, or else answered without a cookie. -/
theorem routed_or_quiet (cookie : Option GoString) (hadm : service.Admissible s d') :
    (∃ d t sticky, service.tenant = some d ∧ service.ready d ≠ [] ∧
      service.Routes s cookie d t sticky) ∨ service.lines cookie = [] := by
  by_cases hrouted : ∃ d, service.tenant = some d ∧ service.ready d ≠ []
  · obtain ⟨d, htenant, hready⟩ := hrouted
    obtain ⟨t, sticky, hroutes, -⟩ := routes cookie hadm htenant hready
    exact Or.inl ⟨d, t, sticky, htenant, hready, hroutes⟩
  · have hnone : ∀ d, service.tenant = some d → service.ready d = [] := fun d htenant =>
      by_contra (fun hready => hrouted ⟨d, htenant, hready⟩)
    exact Or.inr (unrouted cookie hnone).2

end Service

end TenantPlatform
