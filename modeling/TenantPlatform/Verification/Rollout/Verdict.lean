import TenantPlatform.Verification.Rollout.Controller
import TenantPlatform.Verification.Rollout.LastWriter

/-! # What a rollout verdict is about

The verdict is computed from the ready replicas and the Progressing condition alone. It is
about the row's own rollout when the read finds the row's own spec observed and no ready
pod of another revision. -/

namespace TenantPlatform

open Effect

variable {ι : Type} [DecidableEq ι]

/-- The verdict on a row holds of its own rollout. -/
structure VerdictHolds (w : World) (row : Deployment) (image : Option String) : Prop where
  running : row.status = .running → row.replicaCount ≤
    ((w.cluster.rollout (tenantNamespace row.tenantId) tenantAppName).readyPodsOf image).length
  failed : row.status = .failed →
    (w.cluster.rollout (tenantNamespace row.tenantId) tenantAppName).ReportsOn image
      row.replicaCount

/-- The tenant's Deployment has this image and size in its spec, the controller has
observed this spec, and no pod of another image is ready. -/
structure RolledOver (w : World) (ns : String) (image : Option String) (replicas : ℕ) : Prop where
  spec : ∃ d, w.cluster.objects .deployment ns tenantAppName = some d ∧
    DeploymentBody.image d = image ∧ DeploymentBody.replicas d = some replicas
  observed : (w.cluster.rollout ns tenantAppName).observedGeneration =
    (w.cluster.rollout ns tenantAppName).generation
  pods : ∀ pod ∈ (w.cluster.rollout ns tenantAppName).readyPods, pod.image = image

/-- Whenever a poller reads a status that resolves its row, the row's own rollout has
taken over. -/
def ReadsRolledOver (events : List (Event ι Call Call.Result World)) : Prop :=
  ∀ after rd before, events = after ++ rd :: before → decisive rd.toExchange = true →
    ∀ id row image, lastDeployment (own rd.actor before) id = some row →
      Asks (own rd.actor before) row image →
      RolledOver rd.pre (tenantNamespace row.tenantId) image row.replicaCount

theorem le_of_rolloutReport_true {d : DeploymentResource}
    (h : (rolloutReport d).running = some true) :
    d.body.replicas.getD 0 ≤ d.status.readyReplicas.getD 0 := by
  unfold rolloutReport at h
  dsimp only at h
  split at h
  · rename_i hready
    exact hready.1
  · split at h
    · cases h
    · split at h <;> cases h

theorem readyPodsOf_eq {r : Rollout} {image : Option String}
    (h : ∀ pod ∈ r.readyPods, pod.image = image) : r.readyPodsOf image = r.readyPods :=
  List.filter_eq_self.mpr (fun pod hpod => decide_eq_true (h pod hpod))

/-- A verdict read off a rollout that has taken over holds. -/
theorem verdictHolds_of_rolledOver {w : World} {old row : Deployment} {image : Option String}
    {running : Bool} {deployment : DeploymentResource} (hinv : RolloutsInv w.cluster)
    (hroll : RolledOver w (tenantNamespace old.tenantId) image old.replicaCount)
    (hread : readAnswer none ((w.cluster.objects .deployment (tenantNamespace old.tenantId)
      tenantAppName).map (fun b => (⟨b, w.cluster.rollout (tenantNamespace old.tenantId)
        tenantAppName⟩ : DeploymentResource))) = .ok deployment)
    (hreport : (rolloutReport deployment).running = some running)
    (hrow : row = { old with status := row.status, updatedAt := row.updatedAt })
    (hstatus : row.status = .running → running = true) : VerdictHolds w row image := by
  obtain ⟨d, hd, himage, hreplicas⟩ := hroll.spec
  rw [hd] at hread
  obtain rfl := Except.ok.inj hread
  have hr := hinv old.tenantId d hd
  have htenant : row.tenantId = old.tenantId := by rw [hrow]
  have hcount : row.replicaCount = old.replicaCount := by rw [hrow]
  constructor
  · intro hrunning
    rw [hstatus hrunning] at hreport
    have hle := le_of_rolloutReport_true hreport
    simp only [hreplicas, Option.getD_some, hr.counts] at hle
    rw [htenant, hcount, readyPodsOf_eq hroll.pods]
    exact hle
  · intro _
    rw [htenant, hcount]
    exact ⟨d, hr.current hroll.observed, himage, hreplicas⟩

section Reachable

variable {cfg : Settings} {adminSecretKey : String} {requests : ι → Request} {cluster : Cluster}
  {env : World → World → Prop} {c : Config ι Call Call.Result PyException World}

theorem readAnswer_ok {α : Type} {fault : Option Fault} {found : Option α} {a : α}
    (h : readAnswer fault found = .ok a) : readAnswer none found = .ok a := by
  cases fault with
  | none => exact h
  | some f => cases h

/-- In a run whose pollers only meet rollouts that have taken over, every verdict that is
written holds of the row's own rollout, at the read it is based on. -/
theorem verdicts_hold_if_rolled_over (henv : ControllerEnv env) (hcluster : cluster.NoTenants)
    (hc : Reach (platform env) (platformStart cfg adminSecretKey requests cluster) c)
    (hreads : ReadsRolledOver c.trail.events) :
    ∀ after ev before id status row, c.trail.events = after ++ ev :: before →
      ev.toExchange = ⟨.db (.commitDeployment id status), .ok row⟩ →
      (status = .running ∨
        status = .failed ∧ ∃ x ∈ own ev.actor before, decisive x = true) →
      ∃ between rd before' image, before = between ++ rd :: before' ∧ rd.actor = ev.actor ∧
        decisive rd.toExchange = true ∧ (∀ x ∈ own ev.actor between, decisive x = false) ∧
        (∀ job, c.trail.state.db.buildJobs.get row.buildJobId = some job → job.imageTag = image) ∧
        VerdictHolds rd.pre row image := by
  intro after ev before id status row hevents hcall hverdict
  have hdb := henv.1.keepsDatabase
  have hsound := platform_sound hdb hc
  have hlegal := hsound.legal ev.actor
  rw [hevents, own_append, own_cons_self, hcall] at hlegal
  obtain ⟨⟨old, hold, -, -, hrun, hfail⟩, hexp, -⟩ := hlegal.of_append
  obtain ⟨now, rfl⟩ := hexp old hold
  -- the last thing the request did before the commit was to read the rollout
  obtain ⟨running, hstatus, deployment, past, hreport, hlast, ⟨image, hasks, -⟩, hpast⟩ :
      ∃ running, (status = .running → running = true) ∧
        Verdict (own ev.actor before) id old running := by
    rcases hverdict with hstatus | ⟨hstatus, x, hx, hdecided⟩
    · exact ⟨true, fun _ => rfl, hrun hstatus⟩
    · rcases hfail hstatus with hundecided | hv
      · rw [hundecided x hx] at hdecided
        cases hdecided
      · refine ⟨false, fun h => ?_, hv⟩
        rw [hstatus] at h
        cases h
  obtain ⟨between, rd, before', rfl, hactor, hrd, hbetween, hbefore⟩ :=
    exists_event_of_own (show own ev.actor before = [⟨.db (.getDeployment id), some old⟩] ++
      ⟨.k8s (.readDeployment (tenantNamespace old.tenantId) tenantAppName), .ok deployment⟩ ::
        past from hpast)
  have hdecisive : decisive rd.toExchange = true := by
    rw [hrd]
    simp [decisive, hreport]
  have hsplit : c.trail.events = (after ++ ev :: between) ++ rd :: before' := by
    rw [hevents, List.append_assoc, List.cons_append]
  have hroll := hreads _ rd before' hsplit hdecisive id old image
    (by rw [hactor, hbefore]; exact hlast) (by rw [hactor, hbefore]; exact hasks)
  have hmem : rd ∈ c.trail.events := by rw [hsplit]; simp
  have hinv := (rolloutsInv_reach henv hcluster hc).2 rd hmem
  have hact := hc.acts rd hmem
  refine ⟨between, rd, before', image, rfl, hactor, hdecisive, ?_, ?_, ?_⟩
  · rw [hbetween]
    simp [decisive]
  · intro job hjob
    refine imageTag_of_asks hdb hc (i := ev.actor) (τ := past) ?_ hasks hjob
    intro x hx
    rw [hevents, own_append, own_cons_self, hpast]
    simp [hx]
  · obtain ⟨⟨e, r⟩, actor, pre, post⟩ := rd
    cases hrd
    obtain ⟨o, ho⟩ := hact
    have hanswer := readAnswer_ok (congrArg Prod.fst ho)
    exact verdictHolds_of_rolledOver hinv hroll hanswer hreport rfl hstatus

end Reachable

/-! ## Checking a run -/

instance (w : World) (ns : String) (image : Option String) (replicas : ℕ) :
    Decidable (RolledOver w ns image replicas) :=
  decidable_of_iff
    ((∃ d ∈ w.cluster.objects .deployment ns tenantAppName,
        DeploymentBody.image d = image ∧ DeploymentBody.replicas d = some replicas) ∧
      (w.cluster.rollout ns tenantAppName).observedGeneration =
        (w.cluster.rollout ns tenantAppName).generation ∧
      ∀ pod ∈ (w.cluster.rollout ns tenantAppName).readyPods, pod.image = image)
    ⟨fun h => ⟨h.1, h.2.1, h.2.2⟩, fun h => ⟨h.spec, h.observed, h.pods⟩⟩

/-- The build job that a lookup found. -/
def seenBuild : Exchange Call Call.Result → Option (ℕ × BuildJob)
  | ⟨.db (.getBuildJob _), .ok found⟩ => found
  | _ => none

theorem mem_seenBuild_of_saw {τ : History} {id : ℕ} {job : BuildJob} (h : SawBuild τ id job) :
    (id, job) ∈ τ.filterMap seenBuild := by
  obtain ⟨key, hmem⟩ := h
  exact List.mem_filterMap.mpr ⟨_, hmem, rfl⟩

theorem mem_of_lastRow {α : Type} {written : Exchange Call Call.Result → Option (ℕ × α)}
    {τ : History} {id : ℕ} {a : α} (h : lastRow written τ id = some a) :
    (id, a) ∈ τ.filterMap written := by
  induction τ with
  | nil => cases h
  | cons x past ih =>
      cases hx : written x with
      | none =>
          rw [lastRow_cons_none hx] at h
          rw [List.filterMap_cons_none hx]
          exact ih h
      | some r =>
          rw [lastRow_cons_some hx] at h
          rw [List.filterMap_cons_some hx]
          split at h
          · rename_i hid
            obtain rfl := Option.some.inj h
            rw [hid]
            exact List.mem_cons_self
          · exact List.mem_cons_of_mem _ (ih h)

/-- A check for `ReadsRolledOver` that goes through a run once. -/
def readsRolledOver : List (Event ι Call Call.Result World) → Bool
  | [] => true
  | rd :: before =>
      (!decisive rd.toExchange ||
        ((own rd.actor before).filterMap writtenDeployment).all (fun row =>
          ((own rd.actor before).filterMap seenBuild).all (fun job =>
            decide (RolledOver rd.pre (tenantNamespace row.2.tenantId) job.2.imageTag
              row.2.replicaCount)))) &&
      readsRolledOver before

theorem readsRolledOver_sound {events : List (Event ι Call Call.Result World)}
    (h : readsRolledOver events = true) : ReadsRolledOver events := by
  induction events with
  | nil =>
      rintro (_ | ⟨_, _⟩) rd before hevents <;> cases hevents
  | cons ev events ih =>
      obtain ⟨hhead, htail⟩ := Bool.and_eq_true_iff.mp h
      rintro (_ | ⟨ev', after⟩) rd before hevents hdecisive id row image hrow hasks
      · obtain ⟨rfl, rfl⟩ := List.cons.inj hevents
        obtain ⟨job, hsaw, -, -, rfl⟩ := hasks.saw
        rw [hdecisive, Bool.not_true, Bool.false_or, List.all_eq_true] at hhead
        have hjobs := hhead _ (mem_of_lastRow hrow)
        exact of_decide_eq_true (List.all_eq_true.mp hjobs _ (mem_seenBuild_of_saw hsaw))
      · obtain ⟨rfl, rfl⟩ := List.cons.inj hevents
        exact ih htail after rd before rfl hdecisive id row image hrow hasks

/-- A commit that set a status. -/
def committedDeployment : Exchange Call Call.Result → Option (ℕ × DeploymentStatus × Deployment)
  | ⟨.db (.commitDeployment id status), .ok row⟩ => some (id, status, row)
  | _ => none

theorem eq_of_committedDeployment {x : Exchange Call Call.Result} {id : ℕ}
    {status : DeploymentStatus} {row : Deployment}
    (h : committedDeployment x = some (id, status, row)) :
    x = ⟨.db (.commitDeployment id status), .ok row⟩ := by
  unfold committedDeployment at h
  split at h
  · cases h
    rfl
  · cases h

theorem verdicts_hold_if_rolled_over_deployed :
    ∃ w row image, row.status = .running ∧ VerdictHolds w row image := by
  have hrun : (deployedRun.trail.events[2]?).map (fun ev => committedDeployment ev.toExchange) =
        some (some (1, .running, ⟨1, 1, tenantAppName, .running, 1, 0, 0⟩)) ∧
      readsRolledOver deployedRun.trail.events = true := by decide +kernel
  have hreach := deployedRun_reach
  generalize deployedRun = c at hrun hreach
  obtain ⟨hcommit, hchecked⟩ := hrun
  obtain ⟨ev, hev, hcommitted⟩ := Option.map_eq_some_iff.mp hcommit
  obtain ⟨after, before, hevents⟩ := List.append_of_mem (List.mem_of_getElem? hev)
  obtain ⟨_, rd, _, image, _, _, _, _, _, hholds⟩ :=
    verdicts_hold_if_rolled_over anyController_controllerEnv noTenants_empty hreach
      (readsRolledOver_sound hchecked) after ev before _ _ _ hevents
      (eq_of_committedDeployment hcommitted) (.inl rfl)
  exact ⟨rd.pre, _, image, rfl, hholds⟩

/-- The controller has not seen the second spec yet, and the ready pod that lets the second
row say `running` is of the first build. -/
theorem stale_read_announces_running :
    ∃ c, Reach (platform anyController)
        (platformStart sampleSettings "admin" sampleRequests .empty) c ∧
      ∃ ev rd row job, c.trail.events[2]? = some ev ∧ c.trail.events[4]? = some rd ∧
        rd.actor = ev.actor ∧ decisive rd.toExchange = true ∧
        ev.toExchange = ⟨.db (.commitDeployment 2 .running), .ok row⟩ ∧
        c.trail.state.db.buildJobs.get row.buildJobId = some job ∧
        ((rd.pre.cluster.rollout (tenantNamespace row.tenantId) tenantAppName).readyPodsOf
          job.imageTag).length < row.replicaCount := by
  have hrun : (redeployedRun.trail.events[2]?).map
      (fun ev => (ev.actor, committedDeployment ev.toExchange)) =
        some (4, some (2, .running, ⟨1, 2, tenantAppName, .running, 1, 0, 0⟩)) ∧
      (redeployedRun.trail.events[4]?).map
        (fun rd => (rd.actor, decisive rd.toExchange,
          ((rd.pre.cluster.rollout (tenantNamespace 1) tenantAppName).readyPodsOf
            (some "registry.example/tenants@sha256:build-2")).length)) =
        some (4, true, 0) ∧
      (redeployedRun.trail.state.db.buildJobs.get 2).map BuildJob.imageTag =
        some (some "registry.example/tenants@sha256:build-2") := by decide +kernel
  have hreach := redeployedRun_reach
  -- The rest holds of any run with these events.
  generalize redeployedRun = c at hrun hreach
  obtain ⟨hcommit, hread, hjob⟩ := hrun
  obtain ⟨ev, hev, hwritten⟩ := Option.map_eq_some_iff.mp hcommit
  obtain ⟨rd, hrd, hfound⟩ := Option.map_eq_some_iff.mp hread
  obtain ⟨job, hget, himage⟩ := Option.map_eq_some_iff.mp hjob
  obtain ⟨hactor, hrow⟩ := Prod.mk.inj hwritten
  obtain ⟨hreader, hcount⟩ := Prod.mk.inj hfound
  obtain ⟨hdecisive, hzero⟩ := Prod.mk.inj hcount
  refine ⟨c, hreach, ev, rd, _, job, hev, hrd,
    hreader.trans hactor.symm, hdecisive, eq_of_committedDeployment hrow, hget, ?_⟩
  rw [himage, hzero]
  decide

end TenantPlatform
