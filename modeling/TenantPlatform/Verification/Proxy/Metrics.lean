import TenantPlatform.Data.Runs
import TenantPlatform.Model.Proxy.Metrics
import TenantPlatform.Verification.Proxy.Routing

/-! # Request metrics over whole runs

Calls of `ServeHTTP` are interleaved in any way, with changes of the pods between their steps.
Each call that ends is counted once, and only a tenant with ready pods gets a label. -/

namespace TenantPlatform

/-! ## Steps of one call -/

namespace Serving

variable {c c' : Serving} {h : Handler} {m m' : Metrics} {a : ServeAct}

/-- Whether a pod was chosen for the request. -/
def isForwarded (c : Serving) : Bool :=
  match c.stage with
  | .proxying _ => true
  | _ => false

/-- A label other than `none` is there from the lookup on. -/
def Labelled (c : Serving) : Prop :=
  match c.stage with
  | .entered => c.tenant = noTenant
  | .answered => c.tenant = noTenant
  | .resolved _ _ _ _ => c.tenant ≠ noTenant
  | .proxying _ => c.tenant ≠ noTenant

/-- No path has `none` for an id. -/
theorem ne_noTenant {path d rest : GoString} (hpath : tenantPath path = some (d, rest)) :
    d ≠ noTenant := by
  rintro rfl
  have hdigit := (tenantPath_eq_some.mp hpath).1.digits 110 (by decide)
  cases hdigit

theorem lookup_cases (c : Serving) (h : Handler) :
    (c.lookup h).stage = .answered ∧ (c.lookup h).tenant = c.tenant ∨
      ∃ rest forwardPath ips hips,
        tenantPath c.request.url.path = some ((c.lookup h).tenant, rest) ∧
        h.resolver (bytes "tenant-" ++ (c.lookup h).tenant) ≠ [] ∧
        (c.lookup h).stage = .resolved (c.lookup h).tenant forwardPath ips hips := by
  unfold lookup
  split
  · exact .inl ⟨rfl, rfl⟩
  · rename_i tenantID rest hpath
    dsimp only
    split
    · exact .inl ⟨rfl, rfl⟩
    · rename_i hips
      exact .inr ⟨rest, _, _, hips, hpath, hips, rfl⟩

/-- Looked up and sent on at once, a request takes the route of the handler. -/
theorem route_of_lookup {tenantID forwardPath : GoString} {ips : List GoString} {hips : ips ≠ []}
    (hstage : (c.lookup h).stage = .resolved tenantID forwardPath ips hips) :
    h.route c.request = .forward (c.forwarding h tenantID forwardPath ips hips) := by
  unfold lookup at hstage
  unfold Handler.route
  generalize tenantPath c.request.url.path = found at hstage ⊢
  rcases found with _ | ⟨d, rest⟩
  · cases hstage
  · dsimp only at hstage ⊢
    by_cases hready : h.resolver (bytes "tenant-" ++ d) = []
    · rw [dif_pos hready] at hstage
      cases hstage
    · rw [dif_neg hready] at hstage ⊢
      cases hstage
      rfl

/-- The errors that are written before a pod is chosen are those of the handler. -/
theorem status_of_lookup (hnew : c.sw = {}) (hstage : (c.lookup h).stage = .answered)
    (roundTrip : Forwarding → Except GoString HttpResponse) :
    (c.lookup h).sw.status = (h.serveHTTP c.request roundTrip).status := by
  unfold lookup at hstage ⊢
  unfold Handler.serveHTTP Handler.route
  generalize tenantPath c.request.url.path = found at hstage ⊢
  rcases found with _ | ⟨d, rest⟩
  · rw [hnew]
    rfl
  · dsimp only at hstage ⊢
    by_cases hready : h.resolver (bytes "tenant-" ++ d) = []
    · rw [dif_pos hready, dif_pos hready, hnew]
      rfl
    · rw [dif_neg hready] at hstage
      cases hstage

theorem act_cases (hact : c.act h m a = some (c', m')) :
    (a = .lookup ∧ c.stage = .entered ∧ c' = c.lookup h ∧ m' = m) ∨
    (c.isForwarded = false ∧ c'.isForwarded = true ∧ c'.tenant = c.tenant ∧
      (c.Labelled → c'.Labelled) ∧ m'.requests = m.requests ∧ m'.duration = m.duration ∧
      ∃ event, m'.cookieEvents = m.cookieEvents.inc event) ∨
    (c.isForwarded = true ∧ c'.isForwarded = true ∧ c'.tenant = c.tenant ∧
      (c.Labelled → c'.Labelled) ∧ m'.requests = m.requests ∧ m'.duration = m.duration ∧
      m'.cookieEvents = m.cookieEvents) := by
  unfold act at hact
  split at hact
  · rename_i hstage
    cases hact
    exact .inl ⟨rfl, hstage, rfl, rfl⟩
  · rename_i hstage
    cases hact
    refine .inr (.inl ⟨?_, rfl, rfl, ?_, rfl, rfl, _, rfl⟩)
    · simp [isForwarded, hstage]
    · simp [Labelled, hstage]
  · rename_i hstage
    cases hact
    refine .inr (.inr ⟨?_, ?_, rfl, ?_, rfl, rfl, rfl⟩)
    · simp [isForwarded, hstage]
    · simp [isForwarded, hstage]
    · simp [Labelled, hstage]
  · rename_i hstage
    cases hact
    refine .inr (.inr ⟨?_, ?_, rfl, ?_, rfl, rfl, rfl⟩)
    · simp [isForwarded, hstage]
    · simp [isForwarded, hstage]
    · simp [Labelled, hstage]
  · cases hact

end Serving

/-! ## Steps of the proxy -/

/-- The sum of `proxy_cookie_events_total` over its three events. -/
def Metrics.cookieTotal (m : Metrics) : ℕ :=
  m.cookieEvents.count .stickyHit + m.cookieEvents.count .newAssignment +
    m.cookieEvents.count .rejected

theorem Metrics.cookieTotal_inc {m m' : Metrics} {event : CookieEvent}
    (h : m'.cookieEvents = m.cookieEvents.inc event) : m'.cookieTotal = m.cookieTotal + 1 := by
  unfold Metrics.cookieTotal
  rw [h, CounterVec.count_inc, CounterVec.count_inc, CounterVec.count_inc]
  cases event <;> simp <;> omega

namespace ProxyState

variable {s s' : ProxyState} {a : ProxyAct} {h : Handler} {acts : List ProxyAct}

theorem finish_cases {i : ℕ} {c : Serving} (hc : s.inFlight[i]? = some c) :
    ∃ before after, s.inFlight = before ++ c :: after ∧
      (s.finish i c).metrics = c.record s.metrics ∧ (s.finish i c).inFlight = before ++ after ∧
      (s.finish i c).ended = s.ended ++ [c] := by
  obtain ⟨before, after, hl, herase, -⟩ := List.split_at_getElem? hc
  exact ⟨before, after, hl, rfl, herase, rfl⟩

/-- A step leaves the metrics alone, or is one of a call in progress, or ends a call. -/
theorem step_cases (hstep : s.step a = some s') :
    (a.isEnd = false ∧ s'.metrics = s.metrics ∧ s'.ended = s.ended ∧
      (s'.inFlight = s.inFlight ∨ ∃ r, s'.inFlight = s.inFlight ++ [{ request := r }])) ∨
    (a.isEnd = false ∧ ∃ i b before c after c', a = .serve i b ∧ s.inFlight[i]? = some c ∧
      s.inFlight = before ++ c :: after ∧ c.act s.handler s.metrics b = some (c', s'.metrics) ∧
      s'.inFlight = before ++ c' :: after ∧ s'.ended = s.ended) ∨
    (a.isEnd = true ∧ ∃ before c after, s.inFlight = before ++ c :: after ∧
      (c.stage = .answered ∨ c.isForwarded = true) ∧ s'.metrics = c.record s.metrics ∧
      s'.inFlight = before ++ after ∧ s'.ended = s.ended ++ [c]) := by
  cases a with
  | pods resolver =>
      cases hstep
      exact .inl ⟨rfl, rfl, rfl, .inl rfl⟩
  | random pick pick_lt =>
      cases hstep
      exact .inl ⟨rfl, rfl, rfl, .inl rfl⟩
  | enter r =>
      cases hstep
      exact .inl ⟨rfl, rfl, rfl, .inr ⟨r, rfl⟩⟩
  | serve i b =>
      obtain ⟨c, hc, hrest⟩ := Option.bind_eq_some_iff.mp hstep
      obtain ⟨⟨c', m⟩, hact, hs'⟩ := Option.bind_eq_some_iff.mp hrest
      cases hs'
      obtain ⟨before, after, hl, -, hset⟩ := List.split_at_getElem? hc
      exact .inr (.inl ⟨rfl, i, b, before, c, after, c', rfl, hc, hl, hact, hset c', rfl⟩)
  | returned i =>
      obtain ⟨c, hc, hrest⟩ := Option.bind_eq_some_iff.mp hstep
      obtain ⟨before, after, hl, hfinish⟩ := finish_cases hc
      cases hstage : c.stage <;> rw [hstage] at hrest <;> cases hrest
      · exact .inr (.inr ⟨rfl, before, c, after, hl, .inl hstage, hfinish⟩)
      · exact .inr (.inr ⟨rfl, before, c, after, hl, .inr (by simp [Serving.isForwarded, hstage]),
          hfinish⟩)
  | panicked i =>
      obtain ⟨c, hc, hrest⟩ := Option.bind_eq_some_iff.mp hstep
      obtain ⟨before, after, hl, hfinish⟩ := finish_cases hc
      cases hstage : c.stage <;> rw [hstage] at hrest <;> cases hrest
      exact .inr (.inr ⟨rfl, before, c, after, hl, .inr (by simp [Serving.isForwarded, hstage]),
        hfinish⟩)

/-! ## What the metrics add up to -/

/-- The tenant had a ready pod when a request for it was looked up in this run. -/
def HadPods (h : Handler) (acts : List ProxyAct) (t : GoString) : Prop :=
  ∃ past i rest s c forwardPath, acts = past ++ .serve i .lookup :: rest ∧
    (start h).run past = some s ∧ s.inFlight[i]? = some c ∧
    tenantPath c.request.url.path = some (t, forwardPath) ∧
    s.handler.resolver (bytes "tenant-" ++ t) ≠ []

theorem HadPods.append {past : List ProxyAct} {t : GoString} (hpods : HadPods h past t)
    (later : List ProxyAct) : HadPods h (past ++ later) t := by
  obtain ⟨before, i, rest, s, c, forwardPath, rfl, hs⟩ := hpods
  exact ⟨before, i, rest ++ later, s, c, forwardPath, by simp, hs⟩

/-- Where each label is that of a call that ended, one more is, if it is the label of one more
call. -/
theorem labels_inc {κ : Type} [DecidableEq κ] {v : CounterVec κ} {k : κ} {tenant : κ → GoString}
    {ended : List Serving} {c : Serving} (hc : c.tenant = tenant k)
    (hv : ∀ j ∈ v.labels, ∃ x ∈ ended, x.tenant = tenant j) :
    ∀ j ∈ (v.inc k).labels, ∃ x ∈ ended ++ [c], x.tenant = tenant j := by
  intro j hj
  rcases (CounterVec.mem_labels_inc v k).mp hj with rfl | hj
  · exact ⟨c, by simp, hc⟩
  · obtain ⟨x, hx, hlabel⟩ := hv j hj
    exact ⟨x, List.mem_append_left _ hx, hlabel⟩

/-- The metrics of a state, told from the calls that led to it. -/
structure Tally (h : Handler) (acts : List ProxyAct) (s : ProxyState) : Prop where
  ended : s.ended.length = acts.countP ProxyAct.isEnd
  requests : s.metrics.requests.total = s.ended.length
  duration : s.metrics.duration.total = s.ended.length
  events : s.metrics.cookieTotal =
    s.ended.countP Serving.isForwarded + s.inFlight.countP Serving.isForwarded
  labelled : ∀ c ∈ s.inFlight ++ s.ended, c.Labelled
  settled : ∀ c ∈ s.ended, c.stage = .answered ∨ c.isForwarded = true
  hadPods : ∀ c ∈ s.inFlight ++ s.ended, c.tenant = noTenant ∨ HadPods h acts c.tenant
  requestLabels : ∀ k ∈ s.metrics.requests.labels, ∃ c ∈ s.ended, c.tenant = k.1
  durationLabels : ∀ t ∈ s.metrics.duration.labels, ∃ c ∈ s.ended, c.tenant = t

namespace Tally

variable {past : List ProxyAct}

theorem atStart : Tally h [] (start h) where
  ended := rfl
  requests := rfl
  duration := rfl
  events := rfl
  labelled _ hc := by cases hc
  settled _ hc := by cases hc
  hadPods _ hc := by cases hc
  requestLabels _ hk := by cases hk
  durationLabels _ ht := by cases ht

/-- A tenant that had pods once had them, whatever comes later. -/
theorem hadPods_append (ht : Tally h past s) {c : Serving} (hc : c ∈ s.inFlight ++ s.ended)
    (later : List ProxyAct) : c.tenant = noTenant ∨ HadPods h (past ++ later) c.tenant :=
  (ht.hadPods c hc).imp id (fun hpods => hpods.append later)

/-- New requests and changes of the pods. -/
theorem quiet (ht : Tally h past s) (hend : a.isEnd = false) (hmetrics : s'.metrics = s.metrics)
    (hended : s'.ended = s.ended)
    (hflight : s'.inFlight = s.inFlight ∨ ∃ r, s'.inFlight = s.inFlight ++ [{ request := r }]) :
    Tally h (past ++ [a]) s' := by
  have hcalls : ∀ c ∈ s'.inFlight ++ s'.ended, c ∈ s.inFlight ++ s.ended ∨
      ∃ r, c = { request := r } := by
    intro c hc
    rw [hended] at hc
    rcases hflight with hsame | ⟨r, hnew⟩
    · rw [hsame] at hc
      exact .inl hc
    · rw [hnew] at hc
      simp only [List.mem_append, List.mem_singleton] at hc ⊢
      rcases hc with (hc | hc) | hc
      · exact .inl (.inl hc)
      · exact .inr ⟨r, hc⟩
      · exact .inl (.inr hc)
  constructor
  · simp [hended, ht.ended, hend]
  · rw [hmetrics, hended, ht.requests]
  · rw [hmetrics, hended, ht.duration]
  · rw [hmetrics, hended, ht.events]
    rcases hflight with hsame | ⟨r, hnew⟩
    · rw [hsame]
    · simp [hnew, Serving.isForwarded]
  · intro c hc
    rcases hcalls c hc with hold | ⟨r, rfl⟩
    · exact ht.labelled c hold
    · rfl
  · rw [hended]
    exact ht.settled
  · intro c hc
    rcases hcalls c hc with hold | ⟨r, rfl⟩
    · exact ht.hadPods_append hold _
    · exact .inl rfl
  · rw [hmetrics, hended]
    exact ht.requestLabels
  · rw [hmetrics, hended]
    exact ht.durationLabels

/-- A step of a call in progress, of which it is known what becomes of the call and what of the
cookie events. -/
theorem serve {before after : List Serving} {c c' : Serving} (ht : Tally h past s)
    (hend : a.isEnd = false) (hl : s.inFlight = before ++ c :: after)
    (hl' : s'.inFlight = before ++ c' :: after) (hended : s'.ended = s.ended)
    (hrequests : s'.metrics.requests = s.metrics.requests)
    (hduration : s'.metrics.duration = s.metrics.duration)
    (hevents : s'.metrics.cookieTotal + [c].countP Serving.isForwarded =
      s.metrics.cookieTotal + [c'].countP Serving.isForwarded)
    (hlabelled : c'.Labelled)
    (hpods : c'.tenant = noTenant ∨ HadPods h (past ++ [a]) c'.tenant) :
    Tally h (past ++ [a]) s' := by
  have hcalls : ∀ x ∈ s'.inFlight ++ s'.ended, x = c' ∨ x ∈ s.inFlight ++ s.ended := by
    intro x hx
    rw [hl', hended] at hx
    rw [hl]
    simp only [List.mem_append, List.mem_cons] at hx ⊢
    rcases hx with (hx | hx | hx) | hx
    · exact .inr (.inl (.inl hx))
    · exact .inl hx
    · exact .inr (.inl (.inr (.inr hx)))
    · exact .inr (.inr hx)
  constructor
  · simp [hended, ht.ended, hend]
  · rw [hrequests, hended, ht.requests]
  · rw [hduration, hended, ht.duration]
  · have hbefore := ht.events
    rw [hl, List.countP_append, List.countP_cons] at hbefore
    rw [hended, hl', List.countP_append, List.countP_cons]
    rw [List.countP_singleton, List.countP_singleton] at hevents
    omega
  · intro x hx
    rcases hcalls x hx with rfl | hold
    · exact hlabelled
    · exact ht.labelled x hold
  · rw [hended]
    exact ht.settled
  · intro x hx
    rcases hcalls x hx with rfl | hold
    · exact hpods
    · exact ht.hadPods_append hold _
  · rw [hrequests, hended]
    exact ht.requestLabels
  · rw [hduration, hended]
    exact ht.durationLabels

/-- The deferred function counts the call that ends, under its label. -/
theorem finish {before after : List Serving} {c : Serving} (ht : Tally h past s)
    (hend : a.isEnd = true) (hl : s.inFlight = before ++ c :: after)
    (hover : c.stage = .answered ∨ c.isForwarded = true)
    (hmetrics : s'.metrics = c.record s.metrics) (hl' : s'.inFlight = before ++ after)
    (hended : s'.ended = s.ended ++ [c]) : Tally h (past ++ [a]) s' := by
  have hcalls : ∀ x ∈ s'.inFlight ++ s'.ended, x ∈ s.inFlight ++ s.ended := by
    intro x hx
    rw [hl', hended] at hx
    rw [hl]
    simp only [List.mem_append, List.mem_cons, List.not_mem_nil, or_false] at hx ⊢
    rcases hx with (hx | hx) | hx | hx
    · exact .inl (.inl hx)
    · exact .inl (.inr (.inr hx))
    · exact .inr hx
    · exact .inl (.inr (.inl hx))
  constructor
  · simp [hended, ht.ended, hend]
  · simp [hmetrics, Serving.record, hended, ht.requests]
  · simp [hmetrics, Serving.record, hended, ht.duration]
  · have hbefore := ht.events
    have htotal : s'.metrics.cookieTotal = s.metrics.cookieTotal := by
      rw [hmetrics]
      rfl
    rw [hl, List.countP_append, List.countP_cons] at hbefore
    rw [htotal, hended, hl', List.countP_append, List.countP_append, List.countP_singleton]
    omega
  · exact fun x hx => ht.labelled x (hcalls x hx)
  · intro x hx
    rw [hended] at hx
    rcases List.mem_append.mp hx with hx | hx
    · exact ht.settled x hx
    · rw [List.mem_singleton.mp hx]
      exact hover
  · exact fun x hx => ht.hadPods_append (hcalls x hx) _
  · rw [hmetrics, hended]
    exact labels_inc rfl ht.requestLabels
  · rw [hmetrics, hended]
    exact labels_inc rfl ht.durationLabels

theorem step (ht : Tally h past s) (hpast : (start h).run past = some s)
    (hstep : s.step a = some s') : Tally h (past ++ [a]) s' := by
  rcases step_cases hstep with ⟨hend, hmetrics, hended, hflight⟩ |
    ⟨hend, i, b, before, c, after, c', rfl, hc, hl, hact, hl', hended⟩ |
    ⟨hend, before, c, after, hl, hover, hmetrics, hl', hended⟩
  · exact ht.quiet hend hmetrics hended hflight
  · have hmem : c ∈ s.inFlight ++ s.ended := by
      rw [hl]
      simp
    have hkept := ht.hadPods_append hmem [.serve i b]
    rcases Serving.act_cases hact with ⟨rfl, hstage, rfl, hmetrics⟩ |
      ⟨hno, hyes, htenant, hlabelled, hrequests, hduration, event, hevents⟩ |
      ⟨hno, hyes, htenant, hlabelled, hrequests, hduration, hevents⟩
    · have hnone : c.tenant = noTenant := by
        have := ht.labelled c hmem
        rwa [Serving.Labelled, hstage] at this
      have hentered : c.isForwarded = false := by rw [Serving.isForwarded, hstage]
      rcases Serving.lookup_cases c s.handler with ⟨hanswered, hsame⟩ |
        ⟨rest, forwardPath, ips, hips, hpath, hready, hresolved⟩
      · refine ht.serve hend hl hl' hended (by rw [hmetrics]) (by rw [hmetrics]) ?_ ?_ ?_
        · have hno : (c.lookup s.handler).isForwarded = false := by
            rw [Serving.isForwarded, hanswered]
          simp [hmetrics, hentered, hno]
        · rw [Serving.Labelled, hanswered, hsame]
          exact hnone
        · exact .inl (hsame.trans hnone)
      · refine ht.serve hend hl hl' hended (by rw [hmetrics]) (by rw [hmetrics]) ?_ ?_ ?_
        · have hno : (c.lookup s.handler).isForwarded = false := by
            rw [Serving.isForwarded, hresolved]
          simp [hmetrics, hentered, hno]
        · rw [Serving.Labelled, hresolved]
          exact Serving.ne_noTenant hpath
        · exact .inr ⟨past, i, [], s, c, rest, rfl, hpast, hc, hpath, hready⟩
    · refine ht.serve hend hl hl' hended hrequests hduration ?_ (hlabelled (ht.labelled c hmem)) ?_
      · simp [Metrics.cookieTotal_inc hevents, hno, hyes]
      · rw [htenant]
        exact hkept
    · refine ht.serve hend hl hl' hended hrequests hduration ?_ (hlabelled (ht.labelled c hmem)) ?_
      · simp [Metrics.cookieTotal, hevents, hno, hyes]
      · rw [htenant]
        exact hkept
  · exact ht.finish hend hl hover hmetrics hl' hended

theorem run (hrun : (start h).run acts = some s) : Tally h acts s :=
  Runs.invariant (I := Tally h) atStart
    (fun _ _ _ _ hpast hTally hstep => Tally.step hTally hpast hstep) hrun

/-- Of the requests that are over, those with a tenant's label are the ones that were forwarded. -/
theorem countP_ended (ht : Tally h acts s) :
    s.ended.countP Serving.isForwarded = s.ended.countP (fun c => c.tenant ≠ noTenant) := by
  apply List.countP_congr
  intro c hc
  have hlabelled := ht.labelled c (List.mem_append_right _ hc)
  rcases ht.settled c hc with hanswered | hforwarded
  · rw [Serving.Labelled, hanswered] at hlabelled
    simp [Serving.isForwarded, hanswered, hlabelled]
  · cases hstage : c.stage with
    | proxying f =>
        rw [Serving.Labelled, hstage] at hlabelled
        simp [hforwarded, hlabelled]
    | _ => simp [Serving.isForwarded, hstage] at hforwarded

end Tally

end ProxyState

open ProxyState in
/-- In every run, a tenant label is `none` or the id of a tenant with ready pods at the lookup of a
request, each call that ends is counted once, and each forwarded request has one cookie event. -/
theorem request_metrics_exact (h : Handler) (acts : List ProxyAct) (s : ProxyState)
    (hrun : (start h).run acts = some s) :
    (∀ t, (∃ status, (t, status) ∈ s.metrics.requests.labels) ∨ t ∈ s.metrics.duration.labels →
      t = noTenant ∨ HadPods h acts t) ∧
    s.ended.length = acts.countP ProxyAct.isEnd ∧
    s.metrics.requests.total = s.ended.length ∧
    s.metrics.duration.total = s.ended.length ∧
    s.metrics.cookieTotal = s.ended.countP (fun c => c.tenant ≠ noTenant) +
      s.inFlight.countP Serving.isForwarded ∧
    (s.inFlight = [] →
      s.metrics.cookieTotal = s.ended.countP (fun c => c.tenant ≠ noTenant)) ∧
    ∀ t, t ≠ noTenant →
      (∀ past rest s', acts = past ++ rest → (start h).run past = some s' →
        s'.handler.resolver (bytes "tenant-" ++ t) = []) →
      (∀ status, (t, status) ∉ s.metrics.requests.labels) ∧ t ∉ s.metrics.duration.labels := by
  have ht := Tally.run hrun
  have hlabels : ∀ t, (∃ status, (t, status) ∈ s.metrics.requests.labels) ∨
      t ∈ s.metrics.duration.labels → t = noTenant ∨ HadPods h acts t := by
    rintro t (⟨status, hmem⟩ | hmem)
    · obtain ⟨c, hc, rfl⟩ := ht.requestLabels _ hmem
      exact ht.hadPods c (List.mem_append_right _ hc)
    · obtain ⟨c, hc, rfl⟩ := ht.durationLabels _ hmem
      exact ht.hadPods c (List.mem_append_right _ hc)
  have hevents := ht.events
  rw [ht.countP_ended] at hevents
  refine ⟨hlabels, ht.ended, ht.requests, ht.duration, hevents, ?_, ?_⟩
  · intro hquiet
    rw [hevents, hquiet]
    rfl
  · intro t hne hnever
    have hnot : ¬ HadPods h acts t := by
      rintro ⟨past, i, rest, s', c, forwardPath, hacts, hs', -, -, hready⟩
      exact hready (hnever past _ s' hacts hs')
    constructor
    · intro status hmem
      exact (hlabels t (.inl ⟨status, hmem⟩)).elim hne hnot
    · intro hmem
      exact (hlabels t (.inr hmem)).elim hne hnot

/-- A request that a pod aborts midway, beside one for a tenant that does not exist. -/
def abortedRun : List ProxyAct :=
  [.enter (sampleRequest "/t/3/hello"), .enter (sampleRequest "/t/9/"), .serve 0 .lookup,
    .serve 1 .lookup, .serve 0 .choose, .returned 1, .serve 0 (.respond (.writeHeader 200)),
    .panicked 0]

theorem request_metrics_exact_sample :
    ∃ s, (ProxyState.start (sampleHandler.over sampleCache)).run abortedRun = some s ∧
      s.metrics.requests.total = 2 := by
  have hsome :
      ((ProxyState.start (sampleHandler.over sampleCache)).run abortedRun).isSome = true := by
    decide
  obtain ⟨s, hrun⟩ := Option.isSome_iff_exists.mp hsome
  obtain ⟨-, hended, hrequests, -⟩ := request_metrics_exact _ _ _ hrun
  have hcount : abortedRun.countP ProxyAct.isEnd = 2 := by decide
  exact ⟨s, hrun, by rw [hrequests, hended, hcount]⟩

end TenantPlatform
