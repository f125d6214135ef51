import TenantPlatform.Verification.Cluster.Calls
import TenantPlatform.Verification.Jobs.Requests

/-! # The calls behind each service of builds and deployments

As for the cluster, the calls of a service are listed once, whatever they are answered. -/

namespace TenantPlatform

open Effect

variable {allowed : Call → Prop} (cfg : Settings)

/-- The reads that only pollers make. -/
def K8sCall.isStatusRead : K8sCall → Bool
  | .readImage .. | .readDeployment .. => true
  | _ => false

def SysCall.isSleep : SysCall → Bool
  | .sleep _ => true
  | _ => false

/-! ## Parts that builds and deployments share -/

theorem dispatchTenantWebhooks_calls (hsys : ∀ e, e.isSleep = false → allowed (.sys e))
    (hselect : ∀ n, allowed (.db (.selectActiveWebhookRegistrations n)))
    (hcommit : ∀ rows, allowed (.db (.commitWebhookDeliveries rows))) (tenantId : ℕ)
    (event : String) (payload : Payload) :
    (dispatchTenantWebhooks cfg tenantId event payload).Uses allowed (fun _ => True) := by
  refine ⟨hsys _ rfl, fun _ => ⟨hselect _, fun registrations => ?_⟩⟩
  refine (deliverAll_uses cfg (hsys _ rfl) (fun _ _ _ => hsys _ rfl) tenantId event payload
    registrations).bind (fun deliveries _ => ?_)
  show (if _ then _ else _ : Py Unit).Uses _ _
  split
  · exact ⟨hcommit _, fun r => by cases r <;> trivial⟩
  · trivial

theorem pollLoop_calls {β : Type} {timeout interval : ℕ} {read : Py (Option β)}
    {resolve : β → Py Unit} {expire : Py Unit} (hsleep : allowed (.sys (.sleep interval)))
    (hread : read.Uses allowed (fun _ => True))
    (hresolve : ∀ b, (resolve b).Uses allowed (fun _ => True))
    (hexpire : expire.Uses allowed (fun _ => True)) (fuel elapsed : ℕ) :
    (pollLoop timeout interval read resolve expire fuel elapsed).Uses allowed
      (fun _ => True) := by
  induction fuel generalizing elapsed with
  | zero => exact hexpire
  | succ fuel ih =>
      unfold pollLoop
      split
      · refine ⟨hsleep, fun _ => hread.bind (fun o _ => ?_)⟩
        cases o with
        | none => exact ih _
        | some b => exact hresolve b
      · exact hexpire

/-! ## Builds -/

theorem createBuildJobService_calls (tenantId : ℕ) (buildData : BuildJobCreate)
    (hnow : allowed (.sys .nowNaive)) (hk8s : ∀ e, e.isStatusRead = false → allowed (.k8s e))
    (hget : allowed (.db (.getTenant tenantId)))
    (hinsert : ∀ url revision path,
      allowed (.db (.insertBuildJob tenantId url revision path .queued)))
    (hcommit : ∀ id changes, allowed (.db (.commitBuildJob id changes))) :
    (createBuildJobService cfg tenantId buildData).Uses allowed (fun _ => True) := by
  refine ⟨hget, fun r => ?_⟩
  cases r with
  | none => trivial
  | some tenant =>
      refine ⟨hinsert _ _ _, fun r => ?_⟩
      rcases r with x | ⟨id, queued⟩
      · trivial
      · show (tryCatch (startBuild cfg tenantId tenant.k8sNamespace id queued) (failBuild id) >>=
          _).Uses _ _
        refine Prog.Uses.bind (M := fun _ => True) ?_ (fun _ _ => trivial)
        refine Prog.Uses.tryCatch ?_
          (fun e => ⟨hnow, fun _ => ⟨hcommit _ _, fun r => by cases r <;> trivial⟩⟩)
        refine ((ensureTenantNamespace_calls cfg tenant.k8sNamespace).mono
          (fun e he => by cases he <;> exact hk8s _ rfl) (fun _ h => h)).bind (fun _ _ => ?_)
        refine Prog.Uses.bind (M := fun _ => True)
          ⟨hk8s _ rfl, fun r => by cases r <;> trivial⟩ (fun _ _ => ?_)
        exact ⟨hnow, fun _ => ⟨hcommit _ _, fun r => by cases r <;> trivial⟩⟩

theorem resolveBuild_calls (id : ℕ) (resolved : BuildReport × Bool)
    (hsys : ∀ e, e.isSleep = false → allowed (.sys e)) (hget : allowed (.db (.getBuildJob id)))
    (hcommit : ∀ changes, allowed (.db (.commitBuildJob id changes)))
    (hselect : ∀ n, allowed (.db (.selectActiveWebhookRegistrations n)))
    (hdeliver : ∀ rows, allowed (.db (.commitWebhookDeliveries rows))) :
    (resolveBuild cfg id resolved).Uses allowed (fun _ => True) := by
  refine ⟨hget, fun r => ?_⟩
  rcases r with x | _ | ⟨n, loaded⟩
  · trivial
  · trivial
  · refine ⟨hsys _ rfl, fun endedAt => ⟨hcommit _, fun r => ?_⟩⟩
    cases r with
    | error x => trivial
    | ok row => exact dispatchTenantWebhooks_calls cfg hsys hselect hdeliver _ _ _

theorem expireBuild_calls (id : ℕ) (hnow : allowed (.sys .nowNaive))
    (hget : allowed (.db (.getBuildJob id)))
    (hcommit : ∀ changes, allowed (.db (.commitBuildJob id changes))) :
    (expireBuild id).Uses allowed (fun _ => True) := by
  refine ⟨hget, fun r => ?_⟩
  rcases r with x | _ | ⟨n, job⟩
  · trivial
  · trivial
  · show (if _ then _ else _ : Py Unit).Uses _ _
    split
    · exact ⟨hnow, fun _ => ⟨hcommit _, fun r => by cases r <;> trivial⟩⟩
    · trivial

theorem pollBuildUntilDone_calls (id : ℕ) (ns : String) (hsys : ∀ e, allowed (.sys e))
    (hk8s : ∀ e, allowed (.k8s e)) (hget : allowed (.db (.getBuildJob id)))
    (hcommit : ∀ changes, allowed (.db (.commitBuildJob id changes)))
    (hselect : ∀ n, allowed (.db (.selectActiveWebhookRegistrations n)))
    (hdeliver : ∀ rows, allowed (.db (.commitWebhookDeliveries rows))) :
    (pollBuildUntilDone cfg id ns).Uses allowed (fun _ => True) := by
  refine ⟨hsys _, fun _ => pollLoop_calls (hsys _) ?_ (fun resolved => ?_)
    (expireBuild_calls id (hsys _) hget hcommit) _ _⟩
  · exact (getBuildStatus_calls (hk8s _)).bind (fun _ _ => trivial)
  · exact resolveBuild_calls cfg id resolved (fun e _ => hsys e) hget hcommit hselect hdeliver

/-! ## Deployments -/

theorem createDeploymentService_calls (tenantId : ℕ) (deployData : DeploymentCreate)
    (hk8s : ∀ e, e.isStatusRead = false → allowed (.k8s e))
    (hget : ∀ key, allowed (.db (.getBuildJob key)))
    (htenant : allowed (.db (.getTenant tenantId)))
    (hinsert : ∀ b name,
      allowed (.db (.insertDeployment tenantId b name .pending deployData.replicaCount)))
    (hcommit : ∀ id status, allowed (.db (.commitDeployment id status))) :
    (createDeploymentService tenantId deployData).Uses allowed (fun _ => True) := by
  refine ⟨hget _, fun r => ?_⟩
  rcases r with x | _ | ⟨buildJobId, job⟩
  · trivial
  · trivial
  · show (if _ then _ else if _ then _ else _ : Py ((ℕ × Deployment) × Option String)).Uses _ _
    split
    · trivial
    · split
      · trivial
      · refine ⟨htenant, fun tenant => ⟨hinsert _ _, fun r => ?_⟩⟩
        rcases r with x | ⟨id, row⟩
        · trivial
        · show (tryCatch (startDeployment tenant job.imageTag id row)
            (fun _ => commitDeployment id .failed) >>= _).Uses _ _
          refine Prog.Uses.bind (M := fun _ => True) ?_ (fun _ _ => trivial)
          refine Prog.Uses.tryCatch ?_
            (fun _ => ⟨hcommit _ _, fun r => by cases r <;> trivial⟩)
          cases tenant with
          | none => trivial
          | some tenant =>
              refine (createTenantDeployment_calls (hk8s _ rfl) (hk8s _ rfl) (hk8s _ rfl)).bind
                (fun _ _ => ?_)
              exact ⟨hcommit _ _, fun r => by cases r <;> trivial⟩

theorem resolveDeployment_calls (id : ℕ) (running : Bool)
    (hsys : ∀ e, e.isSleep = false → allowed (.sys e)) (hget : allowed (.db (.getDeployment id)))
    (hcommit : ∀ status, allowed (.db (.commitDeployment id status)))
    (hselect : ∀ n, allowed (.db (.selectActiveWebhookRegistrations n)))
    (hdeliver : ∀ rows, allowed (.db (.commitWebhookDeliveries rows))) :
    (resolveDeployment cfg id running).Uses allowed (fun _ => True) := by
  refine ⟨hget, fun r => ?_⟩
  cases r with
  | none => trivial
  | some loaded =>
      refine ⟨hcommit _, fun r => ?_⟩
      cases r with
      | error x => trivial
      | ok row => exact dispatchTenantWebhooks_calls cfg hsys hselect hdeliver _ _ _

theorem expireDeployment_calls (id : ℕ) (hget : allowed (.db (.getDeployment id)))
    (hcommit : ∀ status, allowed (.db (.commitDeployment id status))) :
    (expireDeployment id).Uses allowed (fun _ => True) := by
  refine ⟨hget, fun r => ?_⟩
  cases r with
  | none => trivial
  | some row =>
      show (if _ then _ else _ : Py Unit).Uses _ _
      split
      · exact ⟨hcommit _, fun r => by cases r <;> trivial⟩
      · trivial

theorem pollDeploymentUntilRunning_calls (id : ℕ) (ns name : String)
    (hsys : ∀ e, allowed (.sys e)) (hk8s : ∀ e, allowed (.k8s e))
    (hget : allowed (.db (.getDeployment id)))
    (hcommit : ∀ status, allowed (.db (.commitDeployment id status)))
    (hselect : ∀ n, allowed (.db (.selectActiveWebhookRegistrations n)))
    (hdeliver : ∀ rows, allowed (.db (.commitWebhookDeliveries rows))) :
    (pollDeploymentUntilRunning cfg id ns name).Uses allowed (fun _ => True) := by
  refine ⟨hsys _, fun _ => pollLoop_calls (hsys _) ?_ (fun running => ?_)
    (expireDeployment_calls id hget hcommit) _ _⟩
  · exact (getDeploymentStatus_calls (hk8s _)).bind (fun _ _ => trivial)
  · exact resolveDeployment_calls cfg id running (fun e _ => hsys e) hget hcommit hselect hdeliver

/-! ## Kubeconfigs -/

theorem getKubeconfig_calls (tenantId : ℕ) (hsys : allowed (.sys .readCaCert))
    (hk8s : ∀ e, e.isStatusRead = false → allowed (.k8s e))
    (hget : allowed (.db (.getTenant tenantId))) :
    (Routes.getKubeconfig cfg tenantId).Uses allowed (fun reply => reply.2 = none) := by
  refine Prog.Uses.bind (M := fun _ => True) ?_ (fun _ _ => rfl)
  refine Prog.Uses.tryCatch ⟨hget, fun r => ?_⟩ (fun e => by cases e <;> trivial)
  cases r with
  | none => trivial
  | some tenant =>
      refine ((ensureTenantNamespace_calls cfg tenant.k8sNamespace).mono
        (fun e he => by cases he <;> exact hk8s _ rfl) (fun _ h => h)).bind (fun _ _ => ?_)
      refine ((ensureTenantRbac_calls tenant.k8sNamespace).mono
        (fun e he => by cases he <;> first | exact hk8s _ rfl | exact hsys) (fun _ h => h)).bind
        (fun _ _ => ?_)
      exact (mintTenantKubeconfig_calls cfg tenant.k8sNamespace).mono
        (fun e he => by cases he <;> first | exact hk8s _ rfl | exact hsys) (fun _ h => h)

/-! ## Handlers -/

/-- What the requests of the administrator call. -/
inductive AdminCall : Call → Prop where
  | upkeep {e : Call} (h : UpkeepCall e) : AdminCall e
  | flushTenant (name ns : String) : AdminCall (.db (.flushTenant name ns))
  | commitTenant (id : ℕ) (name ns keyName keyPrefix keyHash : String) :
      AdminCall (.db (.commitTenant id name ns keyName keyPrefix keyHash))
  | tokenUrlsafe (length : ℕ) : AdminCall (.sys (.tokenUrlsafe length))

theorem AdminRequest.handle_calls (r : AdminRequest) :
    (r.handle cfg).Uses AdminCall (fun reply => reply.2 = none) := by
  by_cases hr : ∀ body, r ≠ .createTenant body
  · exact (r.handle_upkeep cfg hr).mono (fun _ he => .upkeep he) (fun _ h => h)
  · obtain ⟨body, hbody⟩ := not_forall.mp hr
    obtain rfl := not_not.mp hbody
    refine (checked_uses body).bind (fun tenantData _ => reply_uses (mapSqlErrors_uses _ _ ?_) _)
    refine ⟨.flushTenant _ _, fun r => ?_⟩
    cases r with
    | error x => trivial
    | ok id =>
        exact ⟨.tokenUrlsafe _, fun token => ⟨.commitTenant _ _ _ _ _ _,
          fun r => by cases r <;> trivial⟩⟩

/-- What the requests of a tenant call before they are answered. -/
inductive HandlerCall (tenantId : ℕ) : Call → Prop where
  | scope {e : Call} (h : ScopedCall tenantId e) : HandlerCall tenantId e
  | getTenant : HandlerCall tenantId (.db (.getTenant tenantId))
  | insertApiKey (name keyPrefix keyHash : String) :
      HandlerCall tenantId (.db (.insertApiKey tenantId name keyPrefix keyHash))
  | revokeApiKey (id revokedAt : ℕ) : HandlerCall tenantId (.db (.revokeApiKey id revokedAt))
  | getBuildJob (id : ℤ) : HandlerCall tenantId (.db (.getBuildJob id))
  | insertBuildJob (gitUrl gitRevision : String) (gitSubPath : Option String) : HandlerCall tenantId
      (.db (.insertBuildJob tenantId gitUrl gitRevision gitSubPath .queued))
  | commitBuildJob (id : ℕ) (changes : BuildJobChanges) :
      HandlerCall tenantId (.db (.commitBuildJob id changes))
  | insertDeployment (buildJobId : ℕ) (name : String) {replicas : ℕ}
      (h : 1 ≤ replicas ∧ replicas ≤ 8) :
      HandlerCall tenantId (.db (.insertDeployment tenantId buildJobId name .pending replicas))
  | commitDeployment (id : ℕ) (status : DeploymentStatus) :
      HandlerCall tenantId (.db (.commitDeployment id status))
  | k8s (e : K8sCall) (h : e.isStatusRead = false) : HandlerCall tenantId (.k8s e)
  | nowNaive : HandlerCall tenantId (.sys .nowNaive)
  | readCaCert : HandlerCall tenantId (.sys .readCaCert)

/-- What a request may leave to its background task. -/
def TenantRequest.Leaves : TenantRequest → Option BackgroundTask → Prop
  | .createBuildJob _, some (.pollBuildUntilDone ..) => True
  | .createDeployment _, some (.pollDeploymentUntilRunning ..) => True
  | _, some _ => False
  | _, none => True

theorem TenantRequest.leaves_none (r : TenantRequest) : r.Leaves none := by
  cases r <;> trivial

theorem TenantRequest.handle_calls (tenantId : ℕ) (r : TenantRequest) :
    (r.handle cfg tenantId).Uses (HandlerCall tenantId) (fun reply => r.Leaves reply.2) := by
  have hnone : ∀ {p : Py Reply},
      p.Uses (HandlerCall tenantId) (fun reply => reply.2 = none) →
      p.Uses (HandlerCall tenantId) (fun reply => r.Leaves reply.2) := by
    intro p hp
    refine hp.mono (fun _ h => h) (fun reply hreply => ?_)
    rw [hreply]
    exact r.leaves_none
  by_cases hscoped : r.scoped = true
  · exact hnone ((r.handle_scoped cfg tenantId hscoped).mono (fun _ => .scope) (fun _ h => h))
  · cases r with
    | createApiKey body =>
        refine hnone ((checked_uses body).bind
          (fun keyData _ => reply_uses (mapSqlErrors_uses _ _ ?_) _))
        exact ⟨.scope (.tokenUrlsafe _), fun r => ⟨.insertApiKey _ _ _,
          fun r => by cases r <;> trivial⟩⟩
    | revokeApiKey keyId =>
        refine hnone ⟨.scope (.selectApiKey _), fun r => ?_⟩
        rcases r with x | _ | ⟨id, row⟩
        · trivial
        · trivial
        · exact ⟨.nowNaive, fun now => ⟨.revokeApiKey _ _, fun r => by cases r <;> trivial⟩⟩
    | createBuildJob body =>
        refine (checked_uses body).bind (fun buildData _ => ?_)
        refine Prog.Uses.bind (createBuildJobService_calls cfg tenantId buildData .nowNaive .k8s
          .getTenant .insertBuildJob .commitBuildJob) ?_
        rintro ⟨⟨id, job⟩, _ | ns⟩ - <;> trivial
    | createDeployment body =>
        refine (checked_uses body).bind (fun deployData _ => ?_)
        refine Prog.Uses.bind (M := fun _ => True) ?_ ?_
        · refine Prog.Uses.tryCatch ?_ (fun e => by cases e <;> trivial)
          exact createDeploymentService_calls tenantId deployData .k8s .getBuildJob .getTenant
            (fun b name => .insertDeployment b name deployData.replicaCountRange)
            .commitDeployment
        · rintro ⟨⟨id, row⟩, _ | ns⟩ - <;> trivial
    | getKubeconfig => exact hnone (getKubeconfig_calls cfg tenantId .readCaCert .k8s .getTenant)
    | _ => exact absurd rfl hscoped

end TenantPlatform
