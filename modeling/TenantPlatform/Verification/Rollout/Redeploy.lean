import TenantPlatform.Verification.Cluster.Calls
import TenantPlatform.Verification.Rollout.LastWriter

/-! # Redeploying in place

A first deployment creates, and every later one patches two fields of what it finds. What
either leaves behind is the same, whatever became of the calls before. -/

namespace TenantPlatform

open Effect

/-- The application's objects, if they exist, are as some call makes them. -/
structure Cluster.Deployable (c : Cluster) (ns name : String) : Prop where
  deployment : ∀ d, c.objects .deployment ns name = some d →
    ∃ image replicas, d = deploymentBody image replicas name
  service : ∀ s, c.objects .service ns name = some s → s = serviceBody name

/-- The application of a call. -/
structure Cluster.Deployed (c : Cluster) (ns name : String) (image : Option String)
    (replicas : ℕ) : Prop where
  deployment : c.objects .deployment ns name = some (deploymentBody image replicas name)
  service : c.objects .service ns name = some (serviceBody name)

/-- There is no such application. -/
def Cluster.Vacant (c : Cluster) (ns name : String) : Prop :=
  c.objects .deployment ns name = none ∧ c.objects .service ns name = none

theorem Cluster.Vacant.deployable {c : Cluster} {ns name : String} (h : c.Vacant ns name) :
    c.Deployable ns name := by
  constructor
  · intro d hd
    rw [h.1] at hd
    cases hd
  · intro s hs
    rw [h.2] at hs
    cases hs

section Call

variable {ns name : String} {c : Cluster}

/-- A create call of the Deployment. -/
theorem Cluster.Deployable.create_deployment (h : c.Deployable ns name) (fault : Option Fault)
    (image : Option String) (replicas : ℕ) :
    (c.create fault .deployment ns name
      (deploymentBody image replicas name)).2.Deployable ns name := by
  rcases c.create_snd fault .deployment ns name (deploymentBody image replicas name) with
    heq | ⟨-, -, heq⟩
  · rw [heq]
    exact h
  · rw [heq]
    constructor
    · intro d hd
      rw [Cluster.objects_put_self] at hd
      exact ⟨image, replicas, (Option.some.inj hd).symm⟩
    · intro s hs
      rw [Cluster.objects_put_of_ne c _ (fun hk => by cases hk.1)] at hs
      exact h.service s hs

theorem Cluster.Deployable.create_service (h : c.Deployable ns name) (fault : Option Fault) :
    (c.create fault .service ns name (serviceBody name)).2.Deployable ns name := by
  rcases c.create_snd fault .service ns name (serviceBody name) with heq | ⟨-, -, heq⟩
  · rw [heq]
    exact h
  · rw [heq]
    constructor
    · intro d hd
      rw [Cluster.objects_put_of_ne c _ (fun hk => by cases hk.1)] at hd
      exact h.deployment d hd
    · intro s hs
      rw [Cluster.objects_put_self] at hs
      exact (Option.some.inj hs).symm

/-- An application of another name is not touched. -/
theorem Cluster.Deployable.create_of_ne (h : c.Deployable ns name) {k : Kind} {other : String}
    (hne : other ≠ name) (fault : Option Fault) (b : Body k) :
    (c.create fault k ns other b).2.Deployable ns name := by
  rcases c.create_snd fault k ns other b with heq | ⟨-, -, heq⟩
  · rw [heq]
    exact h
  · rw [heq]
    constructor
    · intro d hd
      rw [Cluster.objects_put_of_ne c _ (fun hk => hne hk.2.2.symm)] at hd
      exact h.deployment d hd
    · intro s hs
      rw [Cluster.objects_put_of_ne c _ (fun hk => hne hk.2.2.symm)] at hs
      exact h.service s hs

theorem Cluster.Deployable.patch_of_ne (h : c.Deployable ns name) {other : String}
    (hne : other ≠ name) (fault : Option Fault) (p : DeploymentPatch) :
    (c.patchDeployment fault ns other p).2.Deployable ns name := by
  rcases c.patchDeployment_snd fault ns other p with heq | ⟨d', -, heq⟩
  · rw [heq]
    exact h
  · rw [heq]
    constructor
    · intro d hd
      rw [Cluster.objects_setSpec,
        Cluster.objects_put_of_ne c _ (fun hk => hne hk.2.2.symm)] at hd
      exact h.deployment d hd
    · intro s hs
      rw [Cluster.objects_setSpec,
        Cluster.objects_put_of_ne c _ (fun hk => hne hk.2.2.symm)] at hs
      exact h.service s hs

theorem Cluster.Deployable.patch (h : c.Deployable ns name) (fault : Option Fault)
    (image : Option String) (replicas : ℕ) :
    (c.patchDeployment fault ns name (deploymentPatch image replicas)).2.Deployable ns name := by
  rcases c.patchDeployment_snd fault ns name (deploymentPatch image replicas) with
    heq | ⟨d, hd, heq⟩
  · rw [heq]
    exact h
  · obtain ⟨image', replicas', rfl⟩ := h.deployment d hd
    rw [heq]
    constructor
    · intro d' hd'
      rw [Cluster.objects_setSpec, Cluster.objects_put_self, apply_deploymentPatch] at hd'
      exact ⟨image, replicas, (Option.some.inj hd').symm⟩
    · intro s hs
      rw [Cluster.objects_setSpec, Cluster.objects_put_of_ne c _ (fun hk => by cases hk.1)] at hs
      exact h.service s hs

end Call

/-! ## One call -/

section Run

variable {ns name : String} {image : Option String} {replicas : ℕ} {ω : ℕ → Outcome} {w : World}

/-- Whatever becomes of a call, also if it stops midway. -/
theorem createTenantDeployment_deployable (other : String)
    (h : w.cluster.Deployable ns name) :
    ((createTenantDeployment ns image replicas other).run handle ω w).2.cluster.Deployable
      ns name := by
  have huses : (createTenantDeployment ns image replicas other).Uses (fun e =>
      e = .k8s (.create .deployment ns other (deploymentBody image replicas other)) ∨
      e = .k8s (.patchDeployment ns other (deploymentPatch image replicas)) ∨
      e = .k8s (.create .service ns other (serviceBody other))) (fun _ => True) :=
    createTenantDeployment_calls (.inl rfl) (.inr (.inl rfl)) (.inr (.inr rfl))
  refine huses.run_inv (I := fun s : World => s.cluster.Deployable ns name) ?_ h
  intro e o s he h
  by_cases hname : other = name
  · subst hname
    rcases he with rfl | rfl | rfl
    · exact h.create_deployment o.fault image replicas
    · exact h.patch o.fault image replicas
    · exact h.create_service o.fault
  · rcases he with rfl | rfl | rfl
    · exact h.create_of_ne hname o.fault _
    · exact h.patch_of_ne hname o.fault _
    · exact h.create_of_ne hname o.fault _

theorem createIfAbsent_service_deployed (h : w.cluster.Deployable ns name)
    (hd : w.cluster.objects .deployment ns name = some (deploymentBody image replicas name))
    (hok : ((createIfAbsent .service ns name (serviceBody name)).run handle ω w).1 = .ok ()) :
    ((createIfAbsent .service ns name (serviceBody name)).run handle ω w).2.cluster.Deployed ns
      name image replicas := by
  have hafter := h.create_service (ω 0).fault
  have hkeeps : (w.cluster.create (ω 0).fault .service ns name (serviceBody name)).2.objects
      .deployment ns name = some (deploymentBody image replicas name) := by
    rcases w.cluster.create_snd (ω 0).fault .service ns name (serviceBody name) with
      heq | ⟨-, -, heq⟩
    · rw [heq]
      exact hd
    · rw [heq, Cluster.objects_put_of_ne _ _ (fun hk => by cases hk.1)]
      exact hd
  have hrun : (createIfAbsent .service ns name (serviceBody name)).run handle ω w =
      (tryCatch (Prog.ofExcept (w.cluster.create (ω 0).fault .service ns name
        (serviceBody name)).1) (fun e => if e.isConflict then pure () else throw e) : Py Unit).run
        handle (fun n => ω (n + 1)) { w with cluster :=
          (w.cluster.create (ω 0).fault .service ns name (serviceBody name)).2 } := rfl
  rw [hrun] at hok ⊢
  cases hanswer : (w.cluster.create (ω 0).fault .service ns name (serviceBody name)).1 with
  | ok u =>
      have hput := (Cluster.create_ok hanswer).2
      refine ⟨hkeeps, ?_⟩
      show (w.cluster.create _ _ _ _ _).2.objects _ _ _ = _
      rw [hput, Cluster.objects_put_self]
  | error e =>
      rw [hanswer] at hok
      by_cases hconflict : e.isConflict
      · have hhas := Cluster.create_conflict hanswer hconflict
        obtain ⟨s, hs⟩ := Option.isSome_iff_exists.mp hhas
        have hsame : (w.cluster.create (ω 0).fault .service ns name (serviceBody name)).2 =
            w.cluster :=
          (w.cluster.create_snd _ _ _ _ _).resolve_right (fun hnew => hnew.1 hhas)
        simp only [Prog.ofExcept_error, Prog.tryCatch_raise, hconflict, if_true, Prog.pure_eq,
          Prog.run_ret]
        refine ⟨hkeeps, ?_⟩
        rw [hsame, hs, h.service s hs]
      · simp [hconflict] at hok

/-- The patch of a Deployment that is there, and what follows it. -/
theorem patch_then_service_deployed (h : w.cluster.Deployable ns name)
    (hok : ((patchNamespacedDeployment ns name (deploymentPatch image replicas) >>=
      fun _ => createIfAbsent .service ns name (serviceBody name)).run handle ω w).1 = .ok ()) :
    ((patchNamespacedDeployment ns name (deploymentPatch image replicas) >>=
      fun _ => createIfAbsent .service ns name (serviceBody name)).run handle ω
        w).2.cluster.Deployed
        ns name image replicas := by
  have hpatched := h.patch (ω 0).fault image replicas
  have hrun : (patchNamespacedDeployment ns name (deploymentPatch image replicas) >>=
      fun _ => createIfAbsent .service ns name (serviceBody name)).run handle ω w =
      (Prog.ofExcept (w.cluster.patchDeployment (ω 0).fault ns name
        (deploymentPatch image replicas)).1 >>=
          fun _ => createIfAbsent .service ns name (serviceBody name) : Py Unit).run handle
        (fun n => ω (n + 1)) { w with cluster := (w.cluster.patchDeployment (ω 0).fault ns name
          (deploymentPatch image replicas)).2 } := rfl
  rw [hrun] at hok ⊢
  cases hanswer : (w.cluster.patchDeployment (ω 0).fault ns name
      (deploymentPatch image replicas)).1 with
  | ok u =>
      obtain ⟨d, hd, hset⟩ := Cluster.patchDeployment_ok hanswer
      obtain ⟨image', replicas', rfl⟩ := h.deployment d hd
      rw [hanswer] at hok
      refine createIfAbsent_service_deployed hpatched ?_ hok
      show (w.cluster.patchDeployment _ _ _ _).2.objects _ _ _ = _
      rw [hset, Cluster.objects_setSpec, Cluster.objects_put_self, apply_deploymentPatch]
  | error e =>
      rw [hanswer] at hok
      cases hok

/-- A call that returns has deployed what it was asked to. -/
theorem createTenantDeployment_deployed (h : w.cluster.Deployable ns name)
    (hok : ((createTenantDeployment ns image replicas name).run handle ω w).1 = .ok ()) :
    ((createTenantDeployment ns image replicas name).run handle ω w).2.cluster.Deployed ns name
      image replicas := by
  have hcreated := h.create_deployment (ω 0).fault image replicas
  have hrun : (createTenantDeployment ns image replicas name).run handle ω w =
      (tryCatch (Prog.ofExcept (w.cluster.create (ω 0).fault .deployment ns name
        (deploymentBody image replicas name)).1) (fun e =>
          if e.isConflict then
            patchNamespacedDeployment ns name (deploymentPatch image replicas)
          else throw e) >>= fun _ => createIfAbsent .service ns name (serviceBody name) :
        Py Unit).run handle (fun n => ω (n + 1)) { w with cluster :=
          (w.cluster.create (ω 0).fault .deployment ns name
            (deploymentBody image replicas name)).2 } := rfl
  rw [hrun] at hok ⊢
  generalize hafter : (w.cluster.create (ω 0).fault .deployment ns name
    (deploymentBody image replicas name)).2 = c at hok hcreated ⊢
  cases hanswer : (w.cluster.create (ω 0).fault .deployment ns name
      (deploymentBody image replicas name)).1 with
  | ok u =>
      have hput := (Cluster.create_ok hanswer).2
      rw [hanswer] at hok
      refine createIfAbsent_service_deployed hcreated ?_ hok
      show c.objects _ _ _ = _
      rw [← hafter, hput, Cluster.objects_put_self]
  | error e =>
      rw [hanswer] at hok
      by_cases hconflict : e.isConflict
      · -- the Deployment was there, whatever image and replicas it had
        simp only [Prog.ofExcept_error, Prog.tryCatch_raise, hconflict, if_true] at hok ⊢
        exact patch_then_service_deployed hcreated hok
      · simp [hconflict] at hok

end Run

/-! ## A sequence of calls -/

/-- One `create_tenant_deployment` on a namespace, and how its API calls turn out. -/
structure DeployCall where
  image : Option String
  replicas : ℕ
  name : String := tenantAppName
  outcomes : ℕ → Outcome

def DeployCall.run (call : DeployCall) (ns : String) (w : World) :
    Except PyException Unit × World :=
  (createTenantDeployment ns call.image call.replicas call.name).run handle call.outcomes w

/-- The world after a sequence of calls, each of which returns or stops midway. -/
def afterCalls (ns : String) : List DeployCall → World → World
  | [], w => w
  | call :: calls, w => afterCalls ns calls (call.run ns w).2

theorem afterCalls_deployable {ns name : String} (calls : List DeployCall) {w : World}
    (h : w.cluster.Deployable ns name) : (afterCalls ns calls w).cluster.Deployable ns name := by
  induction calls generalizing w with
  | nil => exact h
  | cons call calls ih => exact ih (createTenantDeployment_deployable call.name h)

/-- A redeployment that returns leaves exactly what a single call leaves where nothing was
deployed: whatever calls came before, and however far they came. -/
theorem redeploy_agrees {ns : String} {w w₀ : World} {ω : ℕ → Outcome} (calls : List DeployCall)
    (last : DeployCall) (hw : w.cluster.Vacant ns last.name)
    (hw₀ : w₀.cluster.Vacant ns last.name)
    (hlast : (last.run ns (afterCalls ns calls w)).1 = .ok ())
    (hsingle : (DeployCall.run { last with outcomes := ω } ns w₀).1 = .ok ()) :
    (last.run ns (afterCalls ns calls w)).2.cluster.Deployed ns last.name last.image
        last.replicas ∧
      ∀ k, k = .deployment ∨ k = .service →
        (last.run ns (afterCalls ns calls w)).2.cluster.objects k ns last.name =
          (DeployCall.run { last with outcomes := ω } ns w₀).2.cluster.objects k ns last.name := by
  have hafter := createTenantDeployment_deployed (afterCalls_deployable calls hw.deployable) hlast
  have hdeployed := createTenantDeployment_deployed hw₀.deployable hsingle
  refine ⟨hafter, ?_⟩
  rintro k (rfl | rfl)
  · exact hafter.deployment.trans hdeployed.deployment.symm
  · exact hafter.service.trans hdeployed.service.symm

/-- A namespace, and nothing in it. -/
def bareWorld (ns : String) : World :=
  ⟨Database.empty, Cluster.empty.put .ns "" ns namespaceBody⟩

/-- The first call gets no further than the Deployment. -/
def stoppedCall : DeployCall where
  image := some "registry/app:1"
  replicas := 3
  outcomes n := if n = 0 then .ok else { fault := some ⟨.other "connection reset", true⟩ }

def secondCall : DeployCall where
  image := some "registry/app:2"
  replicas := 1
  outcomes _ := .ok

theorem redeploy_agrees_after_stop :
    (secondCall.run "tenant-1"
      (afterCalls "tenant-1" [stoppedCall] (bareWorld "tenant-1"))).2.cluster.objects
        .deployment "tenant-1" tenantAppName =
      (secondCall.run "tenant-1" (bareWorld "tenant-1")).2.cluster.objects
        .deployment "tenant-1" tenantAppName :=
  (redeploy_agrees [stoppedCall] secondCall ⟨by decide, by decide⟩ ⟨by decide, by decide⟩
    (by decide +kernel) (by decide +kernel)).2 .deployment (.inl rfl)

end TenantPlatform
