import TenantPlatform.Effect.Moments
import TenantPlatform.Verification.Cluster.Quotas
import TenantPlatform.Verification.Jobs.Calls
import TenantPlatform.Verification.Rollout.LastWriter
import TenantPlatform.Verification.Tenancy.Placement

/-! # What a tenant's namespace holds

Every object in it is one that the control plane means to be there, as it means it, and its
Deployment fits the quota. A request says how many replicas it wants, the schema says how many
it may want, and the row carries the number to the cluster. -/

namespace TenantPlatform

open Effect

/-! ## Replicas -/

def Replicable (replicas : ℕ) : Prop := 1 ≤ replicas ∧ replicas ≤ 8

/-- Rows of deployments are inserted with a count that the schema admits. -/
def Call.sized : Call → Prop
  | .db (.insertDeployment _ _ _ _ replicas) => Replicable replicas
  | _ => True

def sizing : Discipline Call Call.Result := ⟨fun _ e => e.sized, fun _ _ => True⟩

section Uses

variable {cfg : Settings}

theorem BackgroundTask.run_sized (task : BackgroundTask) :
    (task.run cfg).Uses Call.sized (fun _ => True) := by
  cases task with
  | pollBuildUntilDone id ns =>
      exact pollBuildUntilDone_calls cfg id ns (fun _ => trivial) (fun _ => trivial) trivial
        (fun _ => trivial) (fun _ => trivial) (fun _ => trivial)
  | pollDeploymentUntilRunning id ns name =>
      exact pollDeploymentUntilRunning_calls cfg id ns name (fun _ => trivial) (fun _ => trivial)
        trivial (fun _ => trivial) (fun _ => trivial) (fun _ => trivial)

theorem Request.thread_sized (adminSecretKey : String) (r : Request) :
    (r.thread cfg adminSecretKey).Uses Call.sized (fun _ => True) := by
  refine Prog.Uses.bind (M := fun _ => True) (Prog.Uses.tryCatch ?_ (fun _ => trivial)) ?_
  · cases r with
    | tenant t xApiKey r =>
        refine (verifyTenant_uses cfg t xApiKey trivial).bind (fun _ _ => ?_)
        refine (r.handle_calls cfg t).mono (fun e he => ?_) (fun _ _ => trivial)
        cases he with
        | scope h => cases h <;> trivial
        | insertDeployment b name h => exact h
        | _ => trivial
    | admin xAdminSecret r =>
        refine (verifyAdmin_uses adminSecretKey xAdminSecret).bind (fun _ _ => ?_)
        exact (r.handle_calls cfg).mono
          (fun _ he => by rcases he with ⟨_ | _ | _ | _⟩ | _ | _ | _ <;> trivial)
          (fun _ _ => trivial)
  · rintro ⟨response, task | task⟩ -
    · trivial
    · exact task.run_sized

end Uses

/-- A row keeps the count it was inserted with. -/
theorem replicable_of_lastDeployment {τ : History} (h : requestDiscipline.Legal τ)
    (hsized : sizing.Legal τ) {id : ℕ} {row : Deployment} (hrow : lastDeployment τ id = some row) :
    Replicable row.replicaCount := by
  induction τ generalizing id row with
  | nil => cases hrow
  | cons x τ ih =>
      have ih : ∀ {id row}, lastDeployment τ id = some row → Replicable row.replicaCount :=
        fun hrow => ih h.2.2 hsized.2.2 hrow
      obtain ⟨hmay, hexpects, -⟩ := h
      cases hw : writtenDeployment x with
      | none =>
          rw [lastDeployment, lastRow_cons_none hw] at hrow
          exact ih hrow
      | some written =>
          obtain ⟨id', row'⟩ := written
          rw [lastDeployment, lastRow_cons_some hw] at hrow
          split at hrow
          · obtain rfl := Option.some.inj hrow
            obtain ⟨e, r⟩ := x
            cases e with
            | k8s e => cases hw
            | sys e => cases hw
            | db e =>
                cases e with
                | insertDeployment n b name status replicas =>
                    rcases r with x | ⟨id', row'⟩
                    · cases hw
                    · cases hw
                      obtain ⟨-, now, rfl⟩ := hexpects
                      exact hsized.1
                | commitDeployment id' status =>
                    rcases r with x | row'
                    · cases hw
                    · cases hw
                      obtain ⟨old, hold, -⟩ := hmay
                      obtain ⟨now, rfl⟩ := hexpects old hold
                      exact (ih hold : Replicable old.replicaCount)
                | _ => cases hw
          · exact ih hrow

/-! ## The inventory -/

/-- The objects that may stand in the namespace of a tenant. -/
inductive Furnished (cfg : Settings) (n : ℕ) : (k : Kind) → String → Body k → Prop where
  | quota : Furnished cfg n .resourceQuota "tenant-quota" quotaBody
  | limits : Furnished cfg n .limitRange "tenant-limit-range" limitRangeBody
  | policy (dnsIp : Option String) :
      Furnished cfg n .networkPolicy "tenant-default-deny" (networkPolicyBody dnsIp)
  | secret : Furnished cfg n .secret registrySecretName (secretBody cfg)
  | account : Furnished cfg n .serviceAccount tenantServiceAccountName serviceAccountBody
  | viewer : Furnished cfg n .serviceAccount tenantViewerServiceAccountName ⟨[], []⟩
  | role : Furnished cfg n .role tenantViewerRoleName viewerRoleBody
  | binding : Furnished cfg n .roleBinding "tenant-viewer-binding"
      (viewerBindingBody (tenantNamespace n))
  | image (id : ℕ) (gitUrl gitRevision : String) (gitSubPath : Option String) :
      Furnished cfg n .image (imageName id)
        (imageBody cfg gitUrl gitRevision (imageTag n id) gitSubPath)
  | deployment (image : Option String) {replicas : ℕ} (h : Replicable replicas) :
      Furnished cfg n .deployment tenantAppName (deploymentBody image replicas tenantAppName)
  | service : Furnished cfg n .service tenantAppName (serviceBody tenantAppName)

theorem tenantNamespace_ne_empty (n : ℕ) : tenantNamespace n ≠ "" := by
  intro h
  have hlist := congrArg String.toList h
  simp [tenantNamespace] at hlist

structure Cluster.Orderly (cfg : Settings) (c : Cluster) (n : ℕ) : Prop where
  root : ∀ b, c.objects .ns "" (tenantNamespace n) = some b → b = namespaceBody
  inside : ∀ k name b, c.objects k (tenantNamespace n) name = some b → Furnished cfg n k name b

section Step

variable {cfg : Settings} {n : ℕ} {τ : History}

/-- What a call of a tenant creates is its Namespace or something for it. -/
theorem TenantCall.furnished {k : Kind} {ns name : String} {b : Body k}
    (h : TenantCall cfg n τ (.create k ns name b)) (hmay : mayK8s τ (.create k ns name b))
    (hrows : ∀ id row, lastDeployment τ id = some row → Replicable row.replicaCount) :
    (k = .ns ∧ ns = "" ∧ name = tenantNamespace n ∧ HEq b namespaceBody) ∨
      (ns = tenantNamespace n ∧ Furnished cfg n k name b) := by
  cases h with
  | setup h =>
      cases h with
      | root => exact .inl ⟨rfl, rfl, rfl, .rfl⟩
      | quota => exact .inr ⟨rfl, .quota⟩
      | limits => exact .inr ⟨rfl, .limits⟩
      | policy dnsIp => exact .inr ⟨rfl, .policy dnsIp⟩
      | secret => exact .inr ⟨rfl, .secret⟩
      | account => exact .inr ⟨rfl, .account⟩
  | viewer h =>
      cases h with
      | account => exact .inr ⟨rfl, .viewer⟩
      | role => exact .inr ⟨rfl, .role⟩
      | binding => exact .inr ⟨rfl, .binding⟩
  | image h ht => exact .inr ⟨rfl, .image _ _ _ _⟩
  | deployment h =>
      obtain ⟨id, row, image, hpending, -, -, hbody⟩ := hmay
      exact .inr ⟨rfl, hbody ▸ .deployment image (hrows id row hpending.last)⟩
  | service => exact .inr ⟨rfl, .service⟩

/-- A patch asks for a Deployment that may stand there, too. -/
theorem TenantCall.refurnished {ns name : String} {p : DeploymentPatch} {d : DeploymentBody}
    (h : TenantCall cfg n τ (.patchDeployment ns name p))
    (hmay : mayK8s τ (.patchDeployment ns name p))
    (hrows : ∀ id row, lastDeployment τ id = some row → Replicable row.replicaCount)
    (hd : Furnished cfg n .deployment name d) :
    Furnished cfg n .deployment name (p.apply d) := by
  obtain ⟨id, row, image, hpending, -, -, rfl⟩ := hmay
  cases h with
  | setup h => cases h
  | viewer h => cases h
  | patch h =>
      cases hd with
      | deployment image' h' =>
          rw [apply_deploymentPatch]
          exact .deployment image (hrows id row hpending.last)

theorem orderly_put {c c' : Cluster} (h : ∀ m, c.Orderly cfg m) {k : Kind} {ns name : String}
    {b : Body k} (hc' : c'.objects = (c.put k ns name b).objects)
    (hb : (k = .ns ∧ ns = "" ∧ name = tenantNamespace n ∧ HEq b namespaceBody) ∨
      (ns = tenantNamespace n ∧ Furnished cfg n k name b)) (m : ℕ) : c'.Orderly cfg m := by
  constructor
  · intro b' hb'
    rw [hc'] at hb'
    by_cases hkey : Kind.ns = k ∧ "" = ns ∧ tenantNamespace m = name
    · obtain ⟨rfl, rfl, rfl⟩ := hkey
      rw [Cluster.objects_put_self] at hb'
      obtain rfl := Option.some.inj hb'
      rcases hb with ⟨-, -, -, hb⟩ | ⟨-, hb⟩
      · exact eq_of_heq hb
      · cases hb
    · rw [Cluster.objects_put_of_ne c b hkey] at hb'
      exact (h m).root b' hb'
  · intro k' name' b' hb'
    rw [hc'] at hb'
    by_cases hkey : k' = k ∧ tenantNamespace m = ns ∧ name' = name
    · obtain ⟨rfl, rfl, rfl⟩ := hkey
      rw [Cluster.objects_put_self] at hb'
      obtain rfl := Option.some.inj hb'
      rcases hb with ⟨-, hns, -, -⟩ | ⟨hns, hb⟩
      · exact absurd hns (tenantNamespace_ne_empty m)
      · rw [tenantNamespace_injective hns]
        exact hb
    · rw [Cluster.objects_put_of_ne c b hkey] at hb'
      exact (h m).inside k' name' b' hb'

/-- A call of a tenant keeps all namespaces orderly. -/
theorem orderly_k8s {c c' : Cluster} {e : K8sCall} (h : ∀ m, c.Orderly cfg m)
    (hstep : ObjectsStep c c' e) (hcall : TenantCall cfg n τ e) (hmay : mayK8s τ e)
    (hrows : ∀ id row, lastDeployment τ id = some row → Replicable row.replicaCount) (m : ℕ) :
    c'.Orderly cfg m := by
  cases hstep with
  | same _ hobjects =>
      exact ⟨by rw [hobjects]; exact (h m).root, by rw [hobjects]; exact (h m).inside⟩
  | created k ns name b _ hobjects =>
      exact orderly_put h hobjects (hcall.furnished hmay hrows) m
  | patched ns name p d hd hobjects =>
      obtain rfl := hcall.writesIn (e := .patchDeployment ns name p) rfl
      exact orderly_put h hobjects
        (.inr ⟨rfl, hcall.refurnished hmay hrows ((h n).inside .deployment name d hd)⟩) m

end Step

/-! ## Runs -/

section Reachable

variable {ι : Type} [DecidableEq ι] {cfg : Settings} {adminSecretKey : String}
  {requests : ι → Request} {cluster : Cluster} {env : World → World → Prop}
  {c : Config ι Call Call.Result PyException World}

theorem sizing_reach
    (hc : Reach (platform env) (platformStart cfg adminSecretKey requests cluster) c) (i : ι) :
    sizing.Legal (own i c.trail.events) := by
  refine Reach.keeps (D := fun _ => sizing) (fun i => ?_) (fun _ _ _ => trivial) hc i
  exact (((requests i).thread_sized adminSecretKey).along (I := fun _ => True)
    (fun _ _ he _ => he) (fun _ _ _ _ _ => trivial) trivial).mono (fun _ _ _ => trivial)
    (fun _ _ _ => trivial)

theorem orderly_reach (henv : KeepsTenantObjects env) (hcluster : cluster.NoTenants)
    (hc : Reach (platform env) (platformStart cfg adminSecretKey requests cluster) c) :
    ∀ n, c.trail.state.cluster.Orderly cfg n := by
  refine Reach.inv (P := fun t => ∀ n, t.state.cluster.Orderly cfg n)
    (B := fun t => ∀ i, requestDiscipline.Legal (own i t.events) ∧
      (scopeDiscipline cfg (requests i)).Legal (own i t.events) ∧ sizing.Legal (own i t.events))
    (fun c hc i => ⟨(platform_sound henv.keepsDatabase hc).legal i,
      platform_scoped henv.keepsDatabase hc i, sizing_reach hc i⟩) ?_ ?_ ?_ hc
  · intro n
    constructor
    · intro b hb
      cases (hcluster.absent (.root n)).symm.trans hb
    · intro k name b hb
      cases (hcluster.absent (.inside n k name)).symm.trans hb
  · rintro t i e r s - hnext h ⟨o, ho⟩ n
    obtain ⟨hlegal, hscope, hsized⟩ := hnext i
    rw [own_push_self] at hlegal hscope hsized
    cases e with
    | db e =>
        obtain ⟨rfl, rfl⟩ := Prod.mk.inj ho
        exact h n
    | sys e =>
        obtain ⟨rfl, rfl⟩ := Prod.mk.inj ho
        exact h n
    | k8s e =>
        obtain ⟨rfl, rfl⟩ := Prod.mk.inj ho
        cases hrequest : requests i with
        | admin xAdminSecret request =>
            rw [hrequest] at hscope
            exact hscope.1.elim
        | tenant m xApiKey request =>
            rw [hrequest] at hscope
            exact orderly_k8s h (objectsStep_handleK8s o.fault o.token e _) hscope.1 hlegal.1
              (fun _ _ => replicable_of_lastDeployment hlegal.2.2 hsized.2.2) n
  · intro t s _ h hs n
    have hobjects := (henv _ _ hs).2
    constructor
    · intro b hb
      rw [hobjects _ _ _ (.root n)] at hb
      exact (h n).root b hb
    · intro k name b hb
      rw [hobjects _ _ _ (.inside n k name)] at hb
      exact (h n).inside k name b hb

/-- Whatever requests run and whatever fails, a tenant's namespace holds nothing but what the
control plane means to be there, and a quota that admits its Deployment, with one to eight
replicas, and would admit no more of them. -/
theorem namespaces_hold_their_inventory (henv : KeepsTenantObjects env)
    (hcluster : cluster.NoTenants)
    (hc : Reach (platform env) (platformStart cfg adminSecretKey requests cluster) c) (n : ℕ) :
    c.trail.state.cluster.Orderly cfg n ∧
      ∀ name d, c.trail.state.cluster.objects .deployment (tenantNamespace n) name = some d →
        ∃ quota, c.trail.state.cluster.objects .resourceQuota (tenantNamespace n) "tenant-quota" =
            some quota ∧ quota.Fits d ∧
          ∀ replicas, quota.Fits { d with replicas := some replicas } ↔ replicas ≤ 8 := by
  have h := orderly_reach henv hcluster hc n
  refine ⟨h, fun name d hd => ?_⟩
  have hhardened := hardeningInv_reach henv hcluster hc
  cases h.inside .deployment name d hd with
  | deployment image hreplicas =>
      have hhas : c.trail.state.cluster.has .deployment (tenantNamespace n) tenantAppName := by
        simp [Cluster.has, hd]
      obtain ⟨quota, hquota⟩ := Option.isSome_iff_exists.mp
        (hhardened.hardened (hhardened.deployments n hhas)).quota
      refine ⟨quota, hquota, ?_⟩
      cases h.inside .resourceQuota "tenant-quota" quota hquota with
      | quota => exact ⟨(quotaBody_fits_iff _ _ _).mpr hreplicas.2,
          fun replicas => quotaBody_fits_iff _ replicas _⟩

end Reachable

theorem namespaces_hold_their_inventory_redeployed :
    ∃ quota, redeployedRun.trail.state.cluster.objects .resourceQuota (tenantNamespace 1)
      "tenant-quota" = some quota ∧
        quota.Fits (deploymentBody (some ("registry.example/tenants@sha256:" ++ imageName 2)) 1
          tenantAppName) := by
  have hd : redeployedRun.trail.state.cluster.objects .deployment (tenantNamespace 1)
      tenantAppName = some (deploymentBody
        (some ("registry.example/tenants@sha256:" ++ imageName 2)) 1 tenantAppName) := by
    decide +kernel
  obtain ⟨-, hfits⟩ := namespaces_hold_their_inventory anyController_controllerEnv.1
    noTenants_empty redeployedRun_reach 1
  obtain ⟨quota, hquota, hroom, -⟩ := hfits tenantAppName _ hd
  exact ⟨quota, hquota, hroom⟩

end TenantPlatform
