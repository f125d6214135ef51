import TenantPlatform.Verification.Isolation.Hardening

/-! # The Deployment controller

The controller works on rollouts at its own pace. It observes a new spec some time after
it is written; until then what it reports is about an older one. -/

namespace TenantPlatform

open Effect

variable {ι : Type} [DecidableEq ι]

/-- The ready pods of a rollout, of every revision. -/
def Rollout.readyPods (r : Rollout) : List Pod := r.pods.filter Pod.ready

/-- The ready pods that run an image. -/
def Rollout.readyPodsOf (r : Rollout) (image : Option String) : List Pod :=
  r.readyPods.filter (fun p => p.image = image)

/-- The rollout that is reported on is that of a spec with this image and size. -/
def Rollout.ReportsOn (r : Rollout) (image : Option String) (replicas : ℕ) : Prop :=
  ∃ d, r.observed = some d ∧ d.image = image ∧ d.replicas = some replicas

/-- A step of the controller on a Deployment with this spec: pods come and go, and the
status is counted anew, for the spec observed before or for the current one. -/
structure RolloutStep (spec : Option DeploymentBody) (r r' : Rollout) : Prop where
  generation : r'.generation = r.generation
  counts : r'.readyReplicas.getD 0 = r'.readyPods.length
  observes : (r'.observedGeneration = r.observedGeneration ∧ r'.observed = r.observed) ∨
    (r'.observedGeneration = r.generation ∧ r'.observed = spec)

/-- The other actors leave the database and the objects of tenants alone, and what they do
to the rollouts of tenants is done by the controller. -/
def ControllerEnv (env : World → World → Prop) : Prop :=
  KeepsTenantObjects env ∧ ∀ w w', env w w' → ∀ n,
    RolloutStep (w.cluster.objects .deployment (tenantNamespace n) tenantAppName)
      (w.cluster.rollout (tenantNamespace n) tenantAppName)
      (w'.cluster.rollout (tenantNamespace n) tenantAppName)

/-- What the status of a Deployment tells at any time. -/
structure RolloutInv (d : DeploymentBody) (r : Rollout) : Prop where
  counts : r.readyReplicas.getD 0 = r.readyPods.length
  lag : r.observedGeneration ≤ r.generation
  current : r.observedGeneration = r.generation → r.observed = some d

theorem rolloutInv_new (d : DeploymentBody) : RolloutInv d .new :=
  ⟨rfl, by decide, fun h => by cases h⟩

theorem RolloutInv.step {d : DeploymentBody} {r r' : Rollout} (h : RolloutInv d r)
    (hs : RolloutStep (some d) r r') : RolloutInv d r' := by
  refine ⟨hs.counts, ?_, ?_⟩
  · rw [hs.generation]
    rcases hs.observes with ⟨hgen, -⟩ | ⟨hgen, -⟩
    · rw [hgen]
      exact h.lag
    · exact hgen.le
  · rw [hs.generation]
    rcases hs.observes with ⟨hgen, hobs⟩ | ⟨-, hobs⟩
    · rw [hgen, hobs]
      exact h.current
    · exact fun _ => hobs

/-- Every tenant's Deployment has a status that can be read so. -/
def RolloutsInv (c : Cluster) : Prop :=
  ∀ n d, c.objects .deployment (tenantNamespace n) tenantAppName = some d →
    RolloutInv d (c.rollout (tenantNamespace n) tenantAppName)

theorem rolloutsInv_put {c : Cluster} (h : RolloutsInv c) {k : Kind} {ns name : String}
    {b : Body k} : RolloutsInv (c.put k ns name b) := by
  intro n d hd
  by_cases heq : Kind.deployment = k ∧ tenantNamespace n = ns ∧ tenantAppName = name
  · obtain ⟨rfl, rfl, rfl⟩ := heq
    simp only [Cluster.put, and_self, if_true]
    exact rolloutInv_new d
  · rw [Cluster.objects_put_of_ne c b heq] at hd
    have hne : ¬ (k = .deployment ∧ tenantNamespace n = ns ∧ tenantAppName = name) :=
      fun hk => heq ⟨hk.1.symm, hk.2⟩
    simp only [Cluster.put, if_neg hne]
    exact h n d hd

theorem rolloutsInv_setSpec {c : Cluster} (h : RolloutsInv c) {ns name : String}
    {old new : DeploymentBody} (hold : c.objects .deployment ns name = some old) :
    RolloutsInv (c.setSpec ns name old new) := by
  intro n d hd
  rw [Cluster.objects_setSpec] at hd
  by_cases heq : tenantNamespace n = ns ∧ tenantAppName = name
  · obtain ⟨rfl, rfl⟩ := heq
    rw [Cluster.objects_put_self] at hd
    obtain rfl := Option.some.inj hd
    have hinv := h n old hold
    by_cases hne : new = old
    · subst hne
      simpa [Cluster.setSpec] using hinv
    · simp only [Cluster.setSpec, true_and, ne_eq, hne, not_false_eq_true, if_true]
      refine ⟨hinv.counts, Nat.le_succ_of_le hinv.lag, fun hgen => ?_⟩
      have hlag := hinv.lag
      simp only at hgen
      omega
  · have hne : ¬ (tenantNamespace n = ns ∧ tenantAppName = name ∧ new ≠ old) :=
      fun hn => heq ⟨hn.1, hn.2.1⟩
    rw [Cluster.objects_put_of_ne c _ (fun hk => heq hk.2)] at hd
    simp only [Cluster.setSpec, if_neg hne]
    exact h n d hd

theorem rolloutsInv_handleK8s {c : Cluster} (h : RolloutsInv c) (fault : Option Fault)
    (token : String) (e : K8sCall) : RolloutsInv (handleK8s fault token e c).2 := by
  cases e with
  | create k ns name b =>
      rcases c.create_snd fault k ns name b with heq | ⟨-, -, heq⟩
      · simpa only [handleK8s, heq] using h
      · simpa only [handleK8s, heq] using rolloutsInv_put h
  | patchDeployment ns name p =>
      rcases c.patchDeployment_snd fault ns name p with heq | ⟨d, hd, heq⟩
      · simpa only [handleK8s, heq] using h
      · simpa only [handleK8s, heq] using rolloutsInv_setSpec h hd
  | _ => exact h

section Reachable

variable {cfg : Settings} {adminSecretKey : String} {requests : ι → Request} {cluster : Cluster}
  {env : World → World → Prop} {c : Config ι Call Call.Result PyException World}

theorem rolloutsInv_env (henv : ControllerEnv env) {w w' : World} (h : RolloutsInv w.cluster)
    (hw : env w w') : RolloutsInv w'.cluster := by
  intro n d hd
  rw [(henv.1 w w' hw).2 _ _ _ (.inside n .deployment tenantAppName)] at hd
  have hstep := henv.2 w w' hw n
  rw [hd] at hstep
  exact (h n d hd).step hstep

/-- The status of every tenant's Deployment can be read so in every reachable state. -/
theorem rolloutsInv_reach (henv : ControllerEnv env) (hcluster : cluster.NoTenants)
    (hc : Reach (platform env) (platformStart cfg adminSecretKey requests cluster) c) :
    RolloutsInv c.trail.state.cluster ∧
      ∀ ev ∈ c.trail.events, RolloutsInv ev.pre.cluster := by
  refine Reach.inv (B := fun _ => True) (P := fun t => RolloutsInv t.state.cluster ∧
    ∀ ev ∈ t.events, RolloutsInv ev.pre.cluster) (fun _ _ => trivial) ?_ ?_ ?_ hc
  · refine ⟨fun n d hd => ?_, fun ev hev => by cases hev⟩
    have hnone := hcluster.absent (.inside n .deployment tenantAppName)
    exact nomatch hnone.symm.trans hd
  · rintro t i e r s - - ⟨hstate, hevents⟩ ⟨o, ho⟩
    refine ⟨?_, ?_⟩
    · cases e with
      | k8s e =>
          obtain ⟨rfl, rfl⟩ := Prod.mk.inj ho
          exact rolloutsInv_handleK8s hstate o.fault o.token e
      | _ =>
          obtain ⟨rfl, rfl⟩ := Prod.mk.inj ho
          exact hstate
    · intro ev hev
      rcases List.mem_cons.mp hev with rfl | hev
      · exact hstate
      · exact hevents ev hev
  · rintro t s - ⟨hstate, hevents⟩ hs
    exact ⟨rolloutsInv_env henv hstate hs, hevents⟩

end Reachable

/-! ## Runs of two deployments -/

/-- The controller may do all it can. -/
def anyController (w w' : World) : Prop :=
  (w'.db = w.db ∧ ∀ k ns name, TenantObject k ns name →
    w'.cluster.objects k ns name = w.cluster.objects k ns name) ∧
  ∀ n, RolloutStep (w.cluster.objects .deployment (tenantNamespace n) tenantAppName)
    (w.cluster.rollout (tenantNamespace n) tenantAppName)
    (w'.cluster.rollout (tenantNamespace n) tenantAppName)

theorem anyController_controllerEnv : ControllerEnv anyController :=
  ⟨fun _ _ h => h.1, fun _ _ h => h.2⟩

theorem noTenants_empty : Cluster.empty.NoTenants := fun _ _ _ _ h => by cases h

/-- The pods of a Deployment that is all up. -/
def readyPodsFor (spec : Option DeploymentBody) : List Pod :=
  spec.elim [] (fun d => List.replicate (d.replicas.getD 0) ⟨d.image, true⟩)

/-- kpack and the controller are done with everything. -/
def settledCluster (c : Cluster) : Cluster :=
  { builtCluster c with
    rollout := fun ns name =>
      { generation := (c.rollout ns name).generation
        observedGeneration := (c.rollout ns name).generation
        observed := c.objects .deployment ns name
        readyReplicas := some (readyPodsFor (c.objects .deployment ns name)).length
        conditions := none
        pods := readyPodsFor (c.objects .deployment ns name) } }

theorem anyController_settled (w : World) :
    anyController w { w with cluster := settledCluster w.cluster } := by
  refine ⟨⟨rfl, fun _ _ _ _ => rfl⟩, fun n => ⟨rfl, ?_, .inr ⟨rfl, rfl⟩⟩⟩
  have hready : ∀ spec, (readyPodsFor spec).filter Pod.ready = readyPodsFor spec := by
    intro spec
    cases spec with
    | none => rfl
    | some d => simp [readyPodsFor]
  simp only [settledCluster, Option.getD_some, Rollout.readyPods, hready]

/-- Everybody else catches up with a run. -/
def caughtUp (c : Config ℕ Call Call.Result PyException World) :
    Config ℕ Call Call.Result PyException World :=
  ⟨c.pool, { c.trail.state with cluster := settledCluster c.trail.state.cluster }, c.trail.events⟩

/-- A run up to where the poller of a first deployment has written its verdict. -/
def deployedRun : Config ℕ Call Call.Result PyException World :=
  drive handle (List.replicate 5 (2, .ok)) (caughtUp
    (drive handle (List.replicate 6 (1, .ok) ++ List.replicate 9 (2, .ok)) (caughtUp polledRun)))

/-- A second build and its deployment follow. The poller reads before the controller has
seen the new spec. -/
def redeployedRun : Config ℕ Call Call.Result PyException World :=
  drive handle (List.replicate 6 (3, .ok) ++ List.replicate 15 (4, .ok))
    (caughtUp (drive handle (List.replicate 15 (3, .ok)) deployedRun))

theorem reach_caughtUp {c₀ c : Config ℕ Call Call.Result PyException World}
    (h : Reach (platform anyController) c₀ c) : Reach (platform anyController) c₀ (caughtUp c) :=
  h.step (.env (anyController_settled _))

theorem deployedRun_reach :
    Reach (platform anyController) (platformStart sampleSettings "admin" sampleRequests .empty)
      deployedRun :=
  Reach.drive _ (reach_caughtUp (Reach.drive _ (reach_caughtUp (Reach.drive _ .init))))

theorem redeployedRun_reach :
    Reach (platform anyController) (platformStart sampleSettings "admin" sampleRequests .empty)
      redeployedRun :=
  Reach.drive _ (reach_caughtUp (Reach.drive _ deployedRun_reach))

end TenantPlatform
