import TenantPlatform.Model.Platform
import TenantPlatform.Model.Settings

/-! # `k8s_resources`: what the control plane does to the cluster -/

namespace TenantPlatform

open Effect

/-! ## Objects -/

def tenantQuotaHard : List (String × String) :=
  [("requests.cpu", "2"), ("requests.memory", "4Gi"), ("limits.cpu", "4"),
    ("limits.memory", "8Gi"), ("pods", "20")]

def tenantContainerRequests : List (String × String) := [("cpu", "100m"), ("memory", "128Mi")]

def tenantContainerLimits : List (String × String) := [("cpu", "500m"), ("memory", "512Mi")]

def registrySecretName : String := "tenant-registry-credentials"

def tenantServiceAccountName : String := "tenant-build-sa"

def tenantAppName : String := "tenant-app"

def tenantAppPort : ℕ := 8080

def tenantViewerServiceAccountName : String := "tenant-viewer-sa"

def tenantViewerRoleName : String := "tenant-viewer-role"

def namespaceBody : NamespaceBody := ⟨[("pod-security.kubernetes.io/enforce", "restricted")]⟩

def quotaBody : ResourceQuotaBody := ⟨tenantQuotaHard⟩

def limitRangeBody : LimitRangeBody :=
  ⟨[⟨"Container", [("cpu", "500m"), ("memory", "512Mi")], [("cpu", "100m"), ("memory", "128Mi")]⟩]⟩

/-- The egress rules for a looked-up DNS address; an address that is missing or empty
gives none. -/
def egressRules : Option String → List NetworkPolicyRule
  | some ip => if ip = "" then [] else [⟨[ip ++ "/32"], [⟨"UDP", 53⟩, ⟨"TCP", 53⟩]⟩]
  | none => []

def networkPolicyBody (dnsIp : Option String) : NetworkPolicyBody :=
  ⟨[], [.ingress, .egress], [], egressRules dnsIp⟩

def secretBody (cfg : Settings) : SecretBody :=
  ⟨"kubernetes.io/dockerconfigjson", [(".dockerconfigjson", cfg.dockerConfigJson)]⟩

def serviceAccountBody : ServiceAccountBody := ⟨[registrySecretName], [registrySecretName]⟩

/-! ## Setting up a namespace -/

/-- The repeated `try: create .. except ApiException as e: if e.status!=409: raise`. -/
def createIfAbsent (k : Kind) (ns name : String) (body : Body k) : Py Unit :=
  tryCatch (createObject k ns name body) (fun e => if e.isConflict then pure () else throw e)

def clusterDnsIp : Py (Option String) :=
  tryCatch (readNamespacedService "kube-system" "kube-dns")
    (fun e => if e.isApi then pure none else throw e)

def ensureTenantNamespace (cfg : Settings) (ns : String) : Py Unit := do
  createIfAbsent .ns "" ns namespaceBody
  createIfAbsent .resourceQuota ns "tenant-quota" quotaBody
  createIfAbsent .limitRange ns "tenant-limit-range" limitRangeBody
  let dnsIp ← clusterDnsIp
  createIfAbsent .networkPolicy ns "tenant-default-deny" (networkPolicyBody dnsIp)
  createIfAbsent .secret ns registrySecretName (secretBody cfg)
  createIfAbsent .serviceAccount ns tenantServiceAccountName serviceAccountBody

/-! ## Builds -/

def imageBody (cfg : Settings) (gitUrl gitRevision imageTag : String)
    (gitSubPath : Option String) : ImageBody where
  tag := cfg.imageRegistry ++ ":" ++ imageTag
  serviceAccountName := tenantServiceAccountName
  builderName := cfg.platformClusterBuilderName
  builderKind := "ClusterBuilder"
  source := ⟨gitUrl, gitRevision, gitSubPath.filter (fun p => p ≠ "")⟩

def createKpackImage (cfg : Settings) (ns imageName gitUrl gitRevision imageTag : String)
    (gitSubPath : Option String) : Py Unit :=
  createObject .image ns imageName (imageBody cfg gitUrl gitRevision imageTag gitSubPath)

/-- The dictionary `get_build_status` returns. -/
structure BuildReport where
  ready : Option Bool
  latestImage : Option String := none
  errorMessage : Option String := none
  detail : Option String := none
deriving DecidableEq, Repr

def buildReport (image : ImageResource) : BuildReport :=
  let conditions := (image.status.bind ImageStatus.conditions).getD []
  match conditions.find? (fun c => c.type = some "Ready") with
  | none => { ready := none, detail := some "no Ready condition yet" }
  | some c =>
      if c.status = some "True" then
        { ready := some true, latestImage := image.status.bind ImageStatus.latestImage }
      else if c.status = some "False" then
        { ready := some false, errorMessage := some (c.message.getD "build failed") }
      else { ready := none, detail := some (c.message.getD "build in progress") }

def getBuildStatus (ns imageName : String) : Py BuildReport := do
  let image ← tryCatch (some <$> readImage ns imageName)
    (fun e => if e.isNotFound then pure none else throw e)
  match image with
  | none => return { ready := none, detail := some "Image resource not found yet" }
  | some image => return buildReport image

/-! ## Deployments -/

def tenantContainer (image : Option String) : Container where
  name := "app"
  image := image
  ports := [tenantAppPort]
  securityContext := ⟨true, false, ["ALL"], "RuntimeDefault"⟩
  resources := ⟨tenantContainerRequests, tenantContainerLimits⟩

def deploymentBody (image : Option String) (replicaCount : ℕ) (name : String) :
    DeploymentBody where
  replicas := some replicaCount
  selector := [("app", name)]
  templateLabels := [("app", name)]
  podSpec :=
    { containers := [tenantContainer image]
      serviceAccountName := tenantServiceAccountName
      automountServiceAccountToken := false
      securityContext := ⟨true, "RuntimeDefault"⟩ }

def deploymentPatch (image : Option String) (replicaCount : ℕ) : DeploymentPatch :=
  ⟨replicaCount, [⟨"app", image⟩]⟩

def serviceBody (name : String) : ServiceBody :=
  ⟨[("app", name)], [⟨tenantAppPort, tenantAppPort⟩]⟩

def createTenantDeployment (ns : String) (image : Option String) (replicaCount : ℕ)
    (name : String := tenantAppName) : Py Unit := do
  tryCatch (createObject .deployment ns name (deploymentBody image replicaCount name))
    (fun e =>
      if e.isConflict then
        patchNamespacedDeployment ns name (deploymentPatch image replicaCount)
      else throw e)
  createIfAbsent .service ns name (serviceBody name)

/-- The dictionary `get_deployment_status` returns. -/
structure RolloutReport where
  running : Option Bool
  errorMessage : Option String := none
  detail : Option String := none
deriving DecidableEq, Repr

/-- Python's `value or default` on strings. -/
def orText (value : Option String) (default : String) : String :=
  (value.filter (fun s => s ≠ "")).getD default

def rolloutReport (d : DeploymentResource) : RolloutReport :=
  let desired := d.body.replicas.getD 0
  let ready := d.status.readyReplicas.getD 0
  let detail := toString ready ++ "/" ++ toString desired ++ " replicas ready"
  if desired ≤ ready ∧ 0 < desired then { running := some true }
  else
    match (d.status.conditions.getD []).find? (fun c => c.type = some "Progressing") with
    | none => { running := none, detail := some detail }
    | some c =>
        if c.status = some "False" then
          { running := some false,
            errorMessage := some (orText c.message "deployment failed to progress") }
        else { running := none, detail := some detail }

def getDeploymentStatus (ns name : String) : Py RolloutReport := do
  let deployment ← tryCatch (some <$> readNamespacedDeployment ns name)
    (fun e => if e.isNotFound then pure none else throw e)
  match deployment with
  | none => return { running := none, detail := some "Deployment not found yet" }
  | some deployment => return rolloutReport deployment

/-! ## Viewer credentials -/

def viewerRoleBody : RoleBody := ⟨[⟨[""], ["pods", "pods/log"], ["get", "list"]⟩]⟩

def viewerBindingBody (ns : String) : RoleBindingBody where
  subjects := [⟨"ServiceAccount", tenantViewerServiceAccountName, ns⟩]
  roleRef := ⟨"rbac.authorization.k8s.io", "Role", tenantViewerRoleName⟩

def ensureTenantRbac (ns : String) : Py Unit := do
  createIfAbsent .serviceAccount ns tenantViewerServiceAccountName ⟨[], []⟩
  createIfAbsent .role ns tenantViewerRoleName viewerRoleBody
  createIfAbsent .roleBinding ns "tenant-viewer-binding" (viewerBindingBody ns)

/-- The kubeconfig document. -/
def kubeconfig (ns server caData token : String) : String :=
  "apiVersion: v1\nkind: Config\nclusters:\n- name: tenant-cluster\n  cluster:\n    server: " ++
    server ++ "\n    certificate-authority-data: " ++ caData ++
    "\ncontexts:\n- name: " ++ ns ++ "-context\n  context:\n    cluster: tenant-cluster\n" ++
    "    namespace: " ++ ns ++ "\n    user: " ++ ns ++ "-viewer\ncurrent-context: " ++ ns ++
    "-context\nusers:\n- name: " ++ ns ++ "-viewer\n  user:\n    token: " ++ token ++ "\n"

def mintTenantKubeconfig (cfg : Settings) (ns : String) (expirationSeconds : ℕ := 3600) :
    Py String := do
  let token ← createServiceAccountToken ns tenantViewerServiceAccountName expirationSeconds
  let caData ← readCaCert
  return kubeconfig ns cfg.clusterHost caData token

end TenantPlatform
