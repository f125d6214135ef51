import TenantPlatform.Verification.Proxy.Serving

/-! # Session affinity across both proxies

Clients send requests to either proxy, in any order, while pods come and go. The proxies keep no
state: what ties a client to a pod is the cookie it brings back. -/

namespace TenantPlatform

/-! ## Jars -/

namespace Jar

variable {jar : Jar} {name : GoString} {path : Option GoString} {line : GoString}

theorem keep_of_silent (h : Silent name line) : jar.keep line (name, path) = jar (name, path) := by
  rw [keep]
  cases hparse : parseSetCookie line with
  | none => rfl
  | some cookie =>
      refine Function.update_of_ne (fun heq => ?_) _ _
      exact h cookie hparse (congrArg Prod.fst heq).symm

theorem foldl_keep_of_silent {lines : List GoString} (h : ∀ line ∈ lines, Silent name line) :
    lines.foldl keep jar (name, path) = jar (name, path) := by
  induction lines generalizing jar with
  | nil => rfl
  | cons line lines ih =>
      rw [List.foldl_cons, ih (fun line hline => h line (List.mem_cons_of_mem _ hline))]
      exact keep_of_silent (h line List.mem_cons_self)

theorem keep_parsed {value : GoString} (h : parseSetCookie line = some ⟨name, value, path⟩) :
    jar.keep line (name, path) = some value := by
  rw [keep, h]
  exact Function.update_self _ _ _

/-- The pod that the client's cookie for a tenant is good for. -/
def pod (s : Signer) (d : GoString) (jar : Jar) : Option GoString :=
  (jar (affinityCookie d, some (affinityPath d))).bind s.verify

end Jar

theorem Jar.pod_eq_some {s : Signer} {d p : GoString} {jar : Jar} :
    jar.pod s d = some p ↔ jar (affinityCookie d, some (affinityPath d)) = some (s.sign p) := by
  simp [Jar.pod, Option.bind_eq_some_iff, Signer.verify_eq_some]

namespace Service.Routes

variable {s : Signer} {service : Service} {cookie : Option GoString} {d d' t : GoString}
  {sticky : Bool} {resp : HttpResponse} {jar : Jar}

/-- A client that stays where it was gets no cookie of this name. -/
theorem silent_of_sticky (h : service.Routes s cookie d' t true)
    (hadm : service.Admissible s d) :
    ∀ line ∈ service.lines cookie, Silent (affinityCookie d) line := by
  intro line hline
  cases hanswer : service.answer cookie with
  | none =>
      rw [h.unanswered hanswer] at hline
      cases hline
  | some resp => exact hadm.app cookie resp hanswer line (h.kept rfl resp hanswer hline)

theorem silent_of_ne (h : service.Routes s cookie d' t sticky) (hadm : service.Admissible s d)
    (hne : d' ≠ d) : ∀ line ∈ service.lines cookie, Silent (affinityCookie d) line := by
  cases sticky with
  | true => exact h.silent_of_sticky hadm
  | false =>
      intro line hline
      cases hanswer : service.answer cookie with
      | none =>
          rw [h.unanswered hanswer] at hline
          cases hline
      | some resp =>
          obtain ⟨old, own, hlines, hold, hparse⟩ := h.moved rfl resp hanswer
          rw [hlines] at hline
          rcases List.mem_append.mp hline with hline | hline
          · exact hadm.app cookie resp hanswer line (hold hline)
          · obtain rfl := List.mem_singleton.mp hline
            intro parsed hparsed hname
            obtain rfl := Option.some.inj (hparse.symm.trans hparsed)
            exact hne (List.append_cancel_left hname)

/-- A client that moves has the cookie of its new pod afterwards. -/
theorem pod_of_moved (h : service.Routes s cookie d t false)
    (hanswer : service.answer cookie = some resp) :
    ((service.lines cookie).foldl Jar.keep jar).pod s d = some t := by
  obtain ⟨old, own, hlines, -, hparse⟩ := h.moved rfl resp hanswer
  rw [Jar.pod_eq_some, hlines, List.foldl_append, List.foldl_cons, List.foldl_nil]
  exact Jar.keep_parsed hparse

end Service.Routes

/-! ## Runs -/

/-- A request of a client, which sends the cookie it has for the tenant among others. -/
structure Visit (C : Type) where
  client : C
  service : Service
  front : List GoString
  back : List GoString

section Runs

variable {C : Type} {s : Signer} {d p : GoString}

def Jar.affinityPairs (jar : Jar) (d : GoString) : List GoString :=
  ((jar (affinityCookie d, some (affinityPath d))).map (cookiePair (affinityCookie d))).toList

namespace Visit

def cookie (v : Visit C) (jar : Jar) : Option GoString :=
  cookieHeader (v.front ++ (v.service.tenant.toList.flatMap jar.affinityPairs ++ v.back))

/-- What is assumed of a request: nothing else that the client sends has the name of the cookie
for tenant `d`. -/
structure Admissible (s : Signer) (d : GoString) (v : Visit C) : Prop where
  service : v.service.Admissible s d
  front : v.service.tenant = some d → ∀ x ∈ v.front, OtherPair (affinityCookie d) x
  back : v.service.tenant = some d → ∀ x ∈ v.back, OtherPair (affinityCookie d) x

/-- The response has a cookie for pod `p` of tenant `d`. -/
def Gives (s : Signer) (d p : GoString) (v : Visit C) (jar : Jar) : Prop :=
  ∃ line ∈ v.service.lines (v.cookie jar), ∃ value,
    parseSetCookie line = some ⟨affinityCookie d, value, some (affinityPath d)⟩ ∧
      s.verify value = some p

/-- If this is a request of client `c` for tenant `d`, pod `p` is ready, or no pod is. -/
def Stays (c : C) (d p : GoString) (v : Visit C) : Prop :=
  v.client = c → v.service.tenant = some d → v.service.ready d ≠ [] → p ∈ v.service.ready d

/-- With the cookie for tenant `d`, the Go proxy gets no more cookies than it reads. -/
def Uncrowded (d : GoString) (v : Visit C) : Prop :=
  v.service.tenant = some d → v.service.isGo = true → v.front.length + v.back.length < 3000

theorem reads_cookie {v : Visit C} {jar : Jar} (hadm : v.Admissible s d) (hfew : v.Uncrowded d)
    (htenant : v.service.tenant = some d) (hp : IsAddress p) (hpod : jar.pod s d = some p) :
    v.service.reads (v.cookie jar) (affinityCookie d) = some (s.sign p) := by
  have hdigits := Service.digits_of_tenant htenant
  have hname := affinityCookie_plain hdigits
  have hvalue := Signer.sign_plain (s := s) hp
  have hcookie : v.cookie jar = cookieHeader
      (v.front ++ cookiePair (affinityCookie d) (s.sign p) :: v.back) := by
    rw [cookie, htenant, Option.toList_some, List.flatMap_singleton, Jar.affinityPairs,
      Jar.pod_eq_some.mp hpod]
    rfl
  rw [hcookie]
  cases hservice : v.service with
  | go h url host roundTrip =>
      have hread := readCookies_sent hname hvalue (hadm.front htenant) (hadm.back htenant)
        (affinityCookie_isToken hdigits) (hfew htenant (by rw [hservice]; rfl))
      rw [Service.reads, GoRequest.cookieNamed, hread]
      rfl
  | node p url request =>
      exact parseCookies_sent hname hvalue (hadm.front htenant) (hadm.back htenant)
        (affinityCookie_ne_nil d) (affinityCookie_ne_proto d)

/-- A client with a cookie for a ready pod gets to that pod, and gets no other cookie. -/
theorem of_ready {v : Visit C} {jar : Jar} (hadm : v.Admissible s d) (hfew : v.Uncrowded d)
    (htenant : v.service.tenant = some d) (hp : IsAddress p) (hpod : jar.pod s d = some p)
    (hready : p ∈ v.service.ready d) :
    v.service.target (v.cookie jar) = some p ∧
      ∀ line ∈ v.service.lines (v.cookie jar), Silent (affinityCookie d) line := by
  obtain ⟨t, sticky, hroutes, hreads⟩ :=
    Service.routes (v.cookie jar) hadm.service htenant (List.ne_nil_of_mem hready)
  obtain ⟨hsticky, hsame⟩ := hreads p hp (reads_cookie hadm hfew htenant hp hpod)
  obtain rfl := hsticky.mpr hready
  obtain rfl := hsame rfl
  exact ⟨hroutes.target, hroutes.silent_of_sticky hadm.service⟩

/-- One with a cookie for a pod that is gone gets to another one, and has its cookie once that
pod has answered. -/
theorem of_gone {v : Visit C} {jar : Jar} (hadm : v.Admissible s d) (hfew : v.Uncrowded d)
    (htenant : v.service.tenant = some d) (hp : IsAddress p) (hpod : jar.pod s d = some p)
    (hready : v.service.ready d ≠ []) (hgone : p ∉ v.service.ready d) :
    ∃ p' ∈ v.service.ready d, v.service.target (v.cookie jar) = some p' ∧
      (v.service.answer (v.cookie jar) ≠ none →
        ((v.service.lines (v.cookie jar)).foldl Jar.keep jar).pod s d = some p') := by
  obtain ⟨t, sticky, hroutes, hreads⟩ :=
    Service.routes (v.cookie jar) hadm.service htenant hready
  obtain ⟨hsticky, -⟩ := hreads p hp (reads_cookie hadm hfew htenant hp hpod)
  cases sticky with
  | true => exact absurd (hsticky.mp rfl) hgone
  | false =>
      refine ⟨t, hroutes.mem, hroutes.target, fun hanswer => ?_⟩
      obtain ⟨resp, hresp⟩ := Option.ne_none_iff_exists'.mp hanswer
      exact hroutes.pod_of_moved hresp

/-- The client's cookie stays as it is as long as its pod is ready or no pod answers. -/
theorem pod_kept {v : Visit C} {jar : Jar} (hadm : v.Admissible s d) (hfew : v.Uncrowded d)
    (hp : IsAddress p) (hpod : jar.pod s d = some p)
    (hstays : (v.service.tenant = some d → v.service.ready d ≠ [] → p ∈ v.service.ready d) ∨
      v.service.answer (v.cookie jar) = none) :
    ((v.service.lines (v.cookie jar)).foldl Jar.keep jar).pod s d = some p := by
  have hsilent : ∀ line ∈ v.service.lines (v.cookie jar), Silent (affinityCookie d) line := by
    rcases Service.routed_or_quiet (v.cookie jar) hadm.service with hrouted | hquiet
    · obtain ⟨d', t, sticky, htenant, hready, hroutes⟩ := hrouted
      by_cases hd : d' = d
      · subst hd
        rcases hstays with hstays | hnone
        · exact (of_ready hadm hfew htenant hp hpod (hstays htenant hready)).2
        · rw [hroutes.unanswered hnone]
          exact fun line hline => absurd hline List.not_mem_nil
      · exact hroutes.silent_of_ne hadm.service hd
    · rw [hquiet]
      exact fun line hline => absurd hline List.not_mem_nil
  rw [Jar.pod_eq_some, Jar.foldl_keep_of_silent hsilent]
  exact Jar.pod_eq_some.mp hpod

/-- What a response gives is the address of a ready pod, and the client has the cookie then. -/
theorem Gives.pod {v : Visit C} {jar : Jar} (h : v.Gives s d p jar) (hadm : v.Admissible s d) :
    IsAddress p ∧ ((v.service.lines (v.cookie jar)).foldl Jar.keep jar).pod s d = some p := by
  obtain ⟨line, hline, value, hparse, hverify⟩ := h
  rcases Service.routed_or_quiet (v.cookie jar) hadm.service with hrouted | hquiet
  · obtain ⟨d', t, sticky, htenant, hready, hroutes⟩ := hrouted
    have hloud : ¬ Silent (affinityCookie d) line := fun hsilent => hsilent _ hparse rfl
    by_cases hd : d' = d
    · subst hd
      cases sticky with
      | true => exact absurd (hroutes.silent_of_sticky hadm.service line hline) hloud
      | false =>
          cases hanswer : v.service.answer (v.cookie jar) with
          | none =>
              rw [hroutes.unanswered hanswer] at hline
              cases hline
          | some resp =>
              -- the line is the proxy's own, so it is for the pod that was chosen
              obtain ⟨old, own, hlines, hold, hown⟩ := hroutes.moved rfl resp hanswer
              have hsame : t = p := by
                rw [hlines] at hline
                rcases List.mem_append.mp hline with hline | hline
                · exact absurd (hadm.service.app _ resp hanswer line (hold hline)) hloud
                · obtain rfl := List.mem_singleton.mp hline
                  obtain ⟨-, hvalue, -⟩ := Cookie.mk.inj (Option.some.inj (hown.symm.trans hparse))
                  rw [← hvalue, Signer.verify_sign] at hverify
                  exact Option.some.inj hverify
              subst hsame
              exact ⟨hadm.service.addresses d' t hroutes.mem, hroutes.pod_of_moved hanswer⟩
    · exact absurd (hroutes.silent_of_ne hadm.service hd line hline) hloud
  · rw [hquiet] at hline
    cases hline

end Visit

variable [DecidableEq C]

/-- The client keeps the cookies of the response. -/
def visit (jars : C → Jar) (v : Visit C) : C → Jar :=
  Function.update jars v.client
    ((v.service.lines (v.cookie (jars v.client))).foldl Jar.keep (jars v.client))

def jarsAfter (jars : C → Jar) (visits : List (Visit C)) : C → Jar := visits.foldl visit jars

/-- Throughout these visits, pod `p` is ready for client `c` whenever a pod of its tenant is, or
the visit remains unanswered. -/
def Unmoved (c : C) (d p : GoString) : (C → Jar) → List (Visit C) → Prop
  | _, [] => True
  | jars, v :: visits =>
      (v.Stays c d p ∨ v.service.answer (v.cookie (jars v.client)) = none) ∧
        Unmoved c d p (visit jars v) visits

/-- Other clients have jars of their own, and a client moves for no other reason. -/
theorem visit_pod {jars : C → Jar} {c : C} {v : Visit C} (hadm : v.Admissible s d)
    (hfew : v.client = c → v.Uncrowded d) (hp : IsAddress p) (hpod : (jars c).pod s d = some p)
    (hstays : v.Stays c d p ∨ v.service.answer (v.cookie (jars v.client)) = none) :
    (visit jars v c).pod s d = some p := by
  by_cases hc : v.client = c
  · subst hc
    rw [visit, Function.update_self]
    exact v.pod_kept hadm (hfew rfl) hp hpod (hstays.imp_left (fun h => h rfl))
  · rw [visit, Function.update_of_ne (Ne.symm hc)]
    exact hpod

theorem jarsAfter_pod {jars : C → Jar} {c : C} {visits : List (Visit C)}
    (hadm : ∀ v ∈ visits, v.Admissible s d)
    (hfew : ∀ v ∈ visits, v.client = c → v.Uncrowded d) (hp : IsAddress p)
    (hpod : (jars c).pod s d = some p) (hunmoved : Unmoved c d p jars visits) :
    (jarsAfter jars visits c).pod s d = some p := by
  induction visits generalizing jars with
  | nil => exact hpod
  | cons v visits ih =>
      exact ih (fun u hu => hadm u (List.mem_cons_of_mem _ hu))
        (fun u hu => hfew u (List.mem_cons_of_mem _ hu))
        (visit_pod (hadm v List.mem_cons_self) (hfew v List.mem_cons_self) hp hpod hunmoved.1)
        hunmoved.2

theorem unmoved_of_stays {jars : C → Jar} {c : C} {visits : List (Visit C)}
    (h : ∀ v ∈ visits, v.Stays c d p) : Unmoved c d p jars visits := by
  induction visits generalizing jars with
  | nil => trivial
  | cons v visits ih =>
      exact ⟨Or.inl (h v List.mem_cons_self), ih (fun u hu => h u (List.mem_cons_of_mem _ hu))⟩

theorem jarsAfter_append (jars : C → Jar) (visits visits' : List (Visit C)) :
    jarsAfter jars (visits ++ visits') = jarsAfter (jarsAfter jars visits) visits' :=
  List.foldl_append

end Runs

/-! ### From the Go proxy to the Node proxy -/

def sampleStickyProxy : StickyProxy where
  cookieSecret := bytes "test-secret"
  hmacSha256 := podHmac
  k8sApi _ := .ok ⟨200, .ok (some [⟨some [bytes "10.244.0.4", bytes "10.244.0.5"]⟩])⟩
  random _ := 0
  random_lt _ h := h

def helloResponse : HttpResponse := ⟨200, [], bytes "hello"⟩

def goVisit : Visit Unit where
  client := ()
  service := .go (sampleHandler.over sampleCache) { path := bytes "/t/3/" } (bytes "proxy")
    (fun _ => .ok helloResponse)
  front := []
  back := []

def nodeVisit : Visit Unit where
  client := ()
  service := .node sampleStickyProxy (bytes "/t/3/again") (fun _ => .answered helloResponse)
  front := [cookiePair (bytes "theme") (bytes "dark")]
  back := []

theorem podAddress : IsAddress (bytes "10.244.0.5") :=
  ⟨by decide, List.all_eq_true.mp (by decide)⟩

theorem goVisit_admissible : goVisit.Admissible sampleHandler.signer (bytes "3") where
  service :=
    { secret := rfl
      addresses := by
        intro d a ha
        obtain ⟨slice, hslice, -, ep, hep, hready, haddress⟩ := mem_endpoints.mp ha
        simp only [sampleCache, List.mem_singleton] at hslice
        subst hslice
        simp only [List.mem_cons, List.not_mem_nil, or_false] at hep
        rcases hep with rfl | rfl
        · exact absurd rfl hready
        · rw [List.mem_singleton.mp haddress]
          exact podAddress
      app := by
        intro cookie resp hresp line hline
        simp only [goVisit, Service.answer] at hresp
        split at hresp
        · obtain rfl := Option.some.inj hresp
          cases hline
        · cases hresp }
  front _ := by simp [goVisit]
  back _ := by simp [goVisit]

theorem nodeVisit_admissible : nodeVisit.Admissible sampleHandler.signer (bytes "3") where
  service :=
    { secret := ⟨rfl, rfl⟩
      addresses := by
        intro d a ha
        have hips : a ∈ [bytes "10.244.0.4", bytes "10.244.0.5"] := ha
        simp only [List.mem_cons, List.not_mem_nil, or_false] at hips
        rcases hips with rfl | rfl
        · exact ⟨by decide, List.all_eq_true.mp (by decide)⟩
        · exact podAddress
      app := by
        intro cookie resp hresp line hline
        simp only [nodeVisit, Service.answer] at hresp
        split at hresp
        · obtain rfl := Option.some.inj hresp
          cases hline
        · cases hresp }
  front _ := by
    intro x hx
    obtain rfl := List.mem_singleton.mp hx
    exact otherPair_cookiePair (Plain.of_all (by decide)) (Plain.of_all (by decide)) (by decide)
  back _ := by simp [nodeVisit]

theorem goVisit_gives : goVisit.Gives sampleHandler.signer (bytes "3") (bytes "10.244.0.5")
    (fun _ => none) :=
  ⟨cookieString (affinityCookie (bytes "3")) (sampleHandler.signer.sign (bytes "10.244.0.5"))
    (affinityPath (bytes "3")), by decide +kernel,
    sampleHandler.signer.sign (bytes "10.244.0.5"), by decide +kernel, Signer.verify_sign⟩

/-- Both pods are ready. -/
def readyCache : EndpointCache :=
  ⟨[⟨bytes "tenant-3", [⟨[bytes "10.244.0.4", bytes "10.244.0.5"], some true⟩]⟩]⟩

/-- A request with 3000 cookies beside that for the tenant. -/
def crowdedVisit : Visit Unit where
  client := ()
  service := .go (sampleHandler.over readyCache) { path := bytes "/t/3/" } (bytes "proxy")
    (fun _ => .ok helloResponse)
  front := List.replicate 3000 (cookiePair (bytes "theme") (bytes "dark"))
  back := []

theorem crowdedVisit_admissible :
    crowdedVisit.Admissible sampleHandler.signer (bytes "3") where
  service :=
    { secret := rfl
      addresses := by
        intro d a ha
        obtain ⟨slice, hslice, -, ep, hep, -, haddress⟩ := mem_endpoints.mp ha
        obtain rfl := List.mem_singleton.mp hslice
        obtain rfl := List.mem_singleton.mp hep
        simp only [List.mem_cons, List.not_mem_nil, or_false] at haddress
        rcases haddress with rfl | rfl
        · exact ⟨by decide, List.all_eq_true.mp (by decide)⟩
        · exact podAddress
      app := by
        intro cookie resp hresp line hline
        simp only [crowdedVisit, Service.answer] at hresp
        split at hresp
        · obtain rfl := Option.some.inj hresp
          cases hline
        · cases hresp }
  front _ := by
    intro x hx
    obtain rfl := List.eq_of_mem_replicate hx
    exact otherPair_cookiePair (Plain.of_all (by decide)) (Plain.of_all (by decide)) (by decide)
  back _ := fun _ hx => (List.not_mem_nil hx).elim

/-- A request in which the Go proxy reads no cookie goes where it picks. -/
theorem target_of_unread {h : Handler} {url : Url} {host d rest : GoString}
    {roundTrip : Forwarding → Except GoString HttpResponse} {cookie : Option GoString}
    (hpath : tenantPath url.path = some (d, rest)) (hips : h.resolver (bytes "tenant-" ++ d) ≠ [])
    (hnone : (Service.go h url host roundTrip).reads cookie (affinityCookie d) = none) :
    (Service.go h url host roundTrip).target cookie =
      some ((h.resolver (bytes "tenant-" ++ d)).get
        ⟨h.pick _, h.pick_lt _ (List.length_pos_of_ne_nil hips)⟩) := by
  obtain ⟨f, hroute, -, -, -, -, hchoose⟩ :=
    route_forward (h := h) (r := ⟨url, host, cookie.toList⟩) hpath hips
  have htarget := congrArg Prod.fst hchoose
  have hnone : GoRequest.cookieNamed ⟨url, host, cookie.toList⟩ (affinityCookie d) = none := hnone
  rw [Handler.choose, hnone] at htarget
  simp only [Service.target, hroute]
  exact congrArg some htarget

end TenantPlatform
