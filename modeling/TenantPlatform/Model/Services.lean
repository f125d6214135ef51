import TenantPlatform.Model.K8sResources
import TenantPlatform.Model.WebhookDispatcher

/-! # Services: what a request or a background task does -/

namespace TenantPlatform

open Effect

variable (cfg : Settings)

/-! ## Request bodies, as the schemas admit them -/

structure TenantCreate where
  name : String
  nameLength : 1 ≤ name.length ∧ name.length ≤ 255

structure TenantUpdate where
  changes : TenantChanges
  nameLength : ∀ name, changes.name = some (some name) → 1 ≤ name.length ∧ name.length ≤ 255

structure ApiKeyCreate where
  name : String
  nameLength : 1 ≤ name.length ∧ name.length ≤ 50

structure BuildJobCreate where
  gitUrl : String
  gitRevision : String := "main"
  gitSubPath : Option String := none
  gitUrlLength : 1 ≤ gitUrl.length ∧ gitUrl.length ≤ 2048
  gitRevisionLength : gitRevision.length ≤ 255
  gitSubPathLength : ∀ p, gitSubPath = some p → p.length ≤ 1024

structure DeploymentCreate where
  buildJobId : ℤ
  replicaCount : ℕ := 1
  replicaCountRange : 1 ≤ replicaCount ∧ replicaCount ≤ 8

structure WebhookRegistrationCreate where
  callbackUrl : String
  callbackUrlLength : 1 ≤ callbackUrl.length ∧ callbackUrl.length ≤ 2048

/-! ## Tenants -/

def generateSecureKey : Py String := do
  let randomPart ← tokenUrlsafe 32
  return "mtp_" ++ randomPart

/-- `raw_api_key[:16]` -/
def keyPrefix (rawApiKey : String) : String := .ofList (rawApiKey.toList.take 16)

def createTenantService (tenantData : TenantCreate) : Py ((ℕ × Tenant) × String) := do
  let id ← flushTenant tenantData.name "pending"
  let rawApiKey ← generateSecureKey
  let tenant ← commitTenant id tenantData.name (tenantNamespace id) "primary"
    (keyPrefix rawApiKey) (cfg.hashApiKey rawApiKey)
  return ((id, tenant), rawApiKey)

/-- A statement about the row under a key that a request supplied: no row has a negative key, and
what is no int32 is refused. -/
def atKey {α : Type} (key : ℤ) (missing : α) (statement : ℕ → Py α) : Py α :=
  if -2147483648 ≤ key ∧ key < 2147483648 then
    if 0 ≤ key then statement key.toNat else return missing
  else throw intOutOfRange

def getTenantService (tenantId : ℕ) : Py (Option (ℕ × Tenant)) := do
  let tenant ← getTenant tenantId
  return tenant.map (fun tenant => (tenantId, tenant))

def getAllTenantsService (limit : Option ℕ := none) (offset : ℕ := 0) : Py (List (ℕ × Tenant)) :=
  listTenants limit offset

def deleteTenantService (tenantId : ℕ) : Py ℕ := deleteTenant tenantId

def updateTenantService (tenantId : ℕ) (tenantData : TenantUpdate) :
    Py (Option (ℕ × Tenant)) := do
  match ← getTenant tenantId with
  | none => return none
  | some _ =>
      if tenantData.changes = ⟨none, none⟩ then
        throw (.valueError "No fields were provided for update.")
      else
        let tenant ← updateTenant tenantId tenantData.changes
        return some (tenantId, tenant)

/-! ## API keys -/

def createApiKeyService (tenantId : ℕ) (keyData : ApiKeyCreate) : Py ((ℕ × ApiKey) × String) := do
  let rawApiKey ← generateSecureKey
  let apiKey ← insertApiKey tenantId keyData.name (keyPrefix rawApiKey) (cfg.hashApiKey rawApiKey)
  return (apiKey, rawApiKey)

def getApiKeyService (tenantId : ℕ) (keyId : ℤ) : Py (Option (ℕ × ApiKey)) :=
  selectApiKey tenantId keyId

def getAllApiKeysService (tenantId : ℕ) : Py (List (ℕ × ApiKey)) := selectApiKeys tenantId

def revokeApiKeyService (tenantId : ℕ) (keyId : ℤ) : Py (Option (ℕ × ApiKey)) := do
  match ← getApiKeyService tenantId keyId with
  | none => return none
  | some (id, _) =>
      let revokedAt ← nowNaive
      let apiKey ← revokeApiKey id revokedAt
      return some (id, apiKey)

/-! ## Polling -/

/-- `while elapsed<timeout: sleep; elapsed+=interval; ..` around a read that may resolve,
and what follows the loop. `fuel` bounds the rounds; as many as `timeout` are enough. -/
def pollLoop {β : Type} (timeout interval : ℕ) (read : Py (Option β)) (resolve : β → Py Unit)
    (expire : Py Unit) : (fuel elapsed : ℕ) → Py Unit
  | 0, _ => expire
  | fuel + 1, elapsed =>
      if elapsed < timeout then do
        asyncioSleep interval
        match ← read with
        | none => pollLoop timeout interval read resolve expire fuel (elapsed + interval)
        | some b => resolve b
      else expire

/-- More fuel than the loop has rounds left changes nothing. -/
theorem pollLoop_fuel {β : Type} {timeout interval : ℕ} (hpos : 0 < interval)
    (read : Py (Option β)) (resolve : β → Py Unit) (expire : Py Unit) :
    ∀ fuel extra elapsed, timeout ≤ elapsed + fuel →
      pollLoop timeout interval read resolve expire (fuel + extra) elapsed =
        pollLoop timeout interval read resolve expire fuel elapsed := by
  intro fuel
  induction fuel with
  | zero =>
      intro extra elapsed h
      cases extra with
      | zero => rfl
      | succ extra =>
          have hdone : ¬ elapsed < timeout := by omega
          simp [pollLoop, hdone]
  | succ fuel ih =>
      intro extra elapsed h
      rw [Nat.add_right_comm]
      simp only [pollLoop]
      split
      · rw [ih extra (elapsed + interval) (by omega)]
      · rfl

/-! ## Build jobs -/

def imageName (buildJobId : ℕ) : String := "build-" ++ toString buildJobId

def imageTag (tenantId buildJobId : ℕ) : String :=
  "tenant-" ++ toString tenantId ++ "-build-" ++ toString buildJobId

/-- The part of `create_build_job_service` inside its `try`. -/
def startBuild (tenantId : ℕ) (k8sNamespace : String) (id : ℕ) (job : BuildJob) : Py BuildJob := do
  ensureTenantNamespace cfg k8sNamespace
  createKpackImage cfg k8sNamespace (imageName id) job.gitUrl job.gitRevision
    (imageTag tenantId id) job.gitSubPath
  let startedAt ← nowNaive
  commitBuildJob id { status := .building, startedAt := some startedAt }

/-- Its `except Exception as e`. -/
def failBuild (id : ℕ) (e : PyException) : Py BuildJob := do
  let endedAt ← nowNaive
  commitBuildJob id
    { status := .failed, errorMessage := some (some ("Failed to start build: " ++ e.str)),
      endedAt := some endedAt }

def createBuildJobService (tenantId : ℕ) (buildData : BuildJobCreate) :
    Py ((ℕ × BuildJob) × Option String) := do
  match ← getTenant tenantId with
  | none => throw (.valueError ("tenant " ++ toString tenantId ++ " does not exist"))
  | some tenant =>
      let (id, queued) ← insertBuildJob tenantId buildData.gitUrl buildData.gitRevision
        buildData.gitSubPath .queued
      let job ← tryCatch (startBuild cfg tenantId tenant.k8sNamespace id queued) (failBuild id)
      return ((id, job), if job.status = .building then some tenant.k8sNamespace else none)

def buildPollInterval : ℕ := 5

def buildPollTimeout : ℕ := 900

/-- The row's changes for a resolved build. -/
def resolvedChanges (report : BuildReport) (ready : Bool) (endedAt : ℕ) : BuildJobChanges :=
  if ready then
    { status := .succeeded, imageTag := some report.latestImage, endedAt := some endedAt }
  else
    { status := .failed, errorMessage := some (some (report.errorMessage.getD "build failed")),
      endedAt := some endedAt }

def optText : Option String → JsonScalar
  | some s => .str s
  | none => .null

def buildPayload (id : ℕ) (job : BuildJob) : Payload :=
  [("build_job_id", .int id), ("tenant_id", .int job.tenantId), ("status", .str job.status.str),
    ("image_tag", optText job.imageTag), ("error_message", optText job.errorMessage)]

def resolveBuild (id : ℕ) (resolved : BuildReport × Bool) : Py Unit := do
  match ← getBuildJob id with
  | none => return ()
  | some (_, loaded) =>
      let endedAt ← nowNaive
      let changes := resolvedChanges resolved.1 resolved.2 endedAt
      let _ ← commitBuildJob id changes
      let job := changes.apply loaded
      dispatchTenantWebhooks cfg job.tenantId ("build." ++ job.status.str) (buildPayload id job)

def expireBuild (id : ℕ) : Py Unit := do
  match ← getBuildJob id with
  | none => return ()
  | some (_, job) =>
      if job.status = .building then do
        let endedAt ← nowNaive
        let _ ← commitBuildJob id
          { status := .failed,
            errorMessage := some (some
              ("Build did not complete within " ++ toString buildPollTimeout ++ "s")),
            endedAt := some endedAt }
      else return ()

/-- A read of the poller: none while the build is unresolved. -/
def readBuild (k8sNamespace : String) (id : ℕ) : Py (Option (BuildReport × Bool)) := do
  let report ← getBuildStatus k8sNamespace (imageName id)
  return report.ready.map (fun ready => (report, ready))

def pollBuildUntilDone (id : ℕ) (k8sNamespace : String) : Py Unit := do
  mark (.pollBuildUntilDone id k8sNamespace)
  pollLoop buildPollTimeout buildPollInterval (readBuild k8sNamespace id) (resolveBuild cfg id)
    (expireBuild id) buildPollTimeout 0

def getBuildJobService (tenantId : ℕ) (buildJobId : ℤ) : Py (Option (ℕ × BuildJob)) :=
  selectBuildJob tenantId buildJobId

def getAllBuildJobsService (tenantId : ℕ) (limit : Option ℕ) (offset : ℕ) :
    Py (List (ℕ × BuildJob)) :=
  selectBuildJobs tenantId limit offset

/-! ## Deployments -/

/-- The part of `create_deployment_service` inside its `try`. -/
def startDeployment (tenant : Option Tenant) (image : Option String) (id : ℕ)
    (row : Deployment) : Py Deployment := do
  match tenant with
  | none => throw (.attribute "'NoneType' object has no attribute 'k8s_namespace'")
  | some tenant =>
      createTenantDeployment tenant.k8sNamespace image row.replicaCount
      commitDeployment id .deploying

def createDeploymentService (tenantId : ℕ) (deployData : DeploymentCreate) :
    Py ((ℕ × Deployment) × Option String) := do
  match ← getBuildJob deployData.buildJobId with
  | none => throw (.valueError "build_job_id does not belong to this tenant")
  | some (buildJobId, buildJob) =>
      if buildJob.tenantId ≠ tenantId then
        throw (.valueError "build_job_id does not belong to this tenant")
      else if buildJob.status ≠ .succeeded then
        throw (.buildJobNotReady ("build_job " ++ toString buildJobId ++ " is '" ++
          buildJob.status.str ++ "', not 'succeeded'"))
      else
        let tenant ← getTenant tenantId
        let (id, pending) ← insertDeployment tenantId buildJobId tenantAppName .pending
          deployData.replicaCount
        let row ← tryCatch (startDeployment tenant buildJob.imageTag id pending)
          (fun _ => commitDeployment id .failed)
        return ((id, row), if row.status = .deploying then tenant.map Tenant.k8sNamespace else none)

def deploymentPollInterval : ℕ := 5

def deploymentPollTimeout : ℕ := 180

def deploymentPayload (id : ℕ) (row : Deployment) : Payload :=
  [("deployment_id", .int id), ("tenant_id", .int row.tenantId), ("status", .str row.status.str),
    ("k8s_deployment_name", .str row.k8sDeploymentName)]

def resolveDeployment (id : ℕ) (running : Bool) : Py Unit := do
  match ← getDeployment id with
  | none => return ()
  | some loaded =>
      let status : DeploymentStatus := if running then .running else .failed
      let _ ← commitDeployment id status
      let row := { loaded with status := status }
      dispatchTenantWebhooks cfg row.tenantId ("deployment." ++ row.status.str)
        (deploymentPayload id row)

def expireDeployment (id : ℕ) : Py Unit := do
  match ← getDeployment id with
  | none => return ()
  | some row =>
      if row.status = .deploying then do
        let _ ← commitDeployment id .failed
      else return ()

def readDeployment (k8sNamespace k8sDeploymentName : String) : Py (Option Bool) := do
  let report ← getDeploymentStatus k8sNamespace k8sDeploymentName
  return report.running

def pollDeploymentUntilRunning (id : ℕ) (k8sNamespace k8sDeploymentName : String) : Py Unit := do
  mark (.pollDeploymentUntilRunning id k8sNamespace k8sDeploymentName)
  pollLoop deploymentPollTimeout deploymentPollInterval
    (readDeployment k8sNamespace k8sDeploymentName) (resolveDeployment cfg id)
    (expireDeployment id) deploymentPollTimeout 0

def getDeploymentService (tenantId : ℕ) (deploymentId : ℤ) : Py (Option (ℕ × Deployment)) :=
  selectDeployment tenantId deploymentId

def getAllDeploymentsService (tenantId : ℕ) (limit : Option ℕ) (offset : ℕ) :
    Py (List (ℕ × Deployment)) :=
  selectDeployments tenantId limit offset

/-! ## Webhook registrations and kubeconfigs -/

def createWebhookRegistrationService (tenantId : ℕ) (regData : WebhookRegistrationCreate) :
    Py ((ℕ × WebhookRegistration) × String) := do
  let signingSecret ← tokenUrlsafe 32
  let registration ← insertWebhookRegistration tenantId regData.callbackUrl signingSecret
  return (registration, signingSecret)

def getAllWebhookRegistrationsService (tenantId : ℕ) : Py (List (ℕ × WebhookRegistration)) :=
  selectWebhookRegistrations tenantId

def getTenantKubeconfigService (tenantId : ℕ) : Py String := do
  match ← getTenant tenantId with
  | none => throw (.valueError ("tenant " ++ toString tenantId ++ " does not exist"))
  | some tenant =>
      ensureTenantNamespace cfg tenant.k8sNamespace
      ensureTenantRbac tenant.k8sNamespace
      mintTenantKubeconfig cfg tenant.k8sNamespace

end TenantPlatform
