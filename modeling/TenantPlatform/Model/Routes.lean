import TenantPlatform.Model.Services

/-! # Routes, authentication and background tasks -/

namespace TenantPlatform

open Effect

variable (cfg : Settings)

/-! ## Response schemas -/

structure TenantResponse where
  id : ℕ
  name : String
  k8sNamespace : String
  createdAt : ℕ
  isActive : Bool
deriving DecidableEq, Repr

def tenantResponse (r : ℕ × Tenant) : TenantResponse :=
  ⟨r.1, r.2.name, r.2.k8sNamespace, r.2.createdAt, r.2.isActive⟩

structure ApiKeyResponse where
  id : ℕ
  tenantId : ℕ
  name : String
  keyPrefix : String
  createdAt : ℕ
  revokedAt : Option ℕ
deriving DecidableEq, Repr

def apiKeyResponse (r : ℕ × ApiKey) : ApiKeyResponse :=
  ⟨r.1, r.2.tenantId, r.2.name, r.2.keyPrefix, r.2.createdAt, r.2.revokedAt⟩

structure WebhookRegistrationResponse where
  id : ℕ
  tenantId : ℕ
  callbackUrl : String
  createdAt : ℕ
  isActive : Bool
deriving DecidableEq, Repr

def webhookRegistrationResponse (r : ℕ × WebhookRegistration) : WebhookRegistrationResponse :=
  ⟨r.1, r.2.tenantId, r.2.callbackUrl, r.2.createdAt, r.2.isActive⟩

/-- The JSON or text of a response. The schemas of build jobs and deployments show every
column. -/
inductive ResponseBody where
  | empty
  | detail (text : String)
  | tenant (r : TenantResponse)
  | tenantCreated (r : TenantResponse) (apiKey : String)
  | tenants (rs : List TenantResponse)
  | apiKey (r : ApiKeyResponse)
  | apiKeyCreated (r : ApiKeyResponse) (apiKey : String)
  | apiKeys (rs : List ApiKeyResponse)
  | buildJob (id : ℕ) (row : BuildJob)
  | buildJobs (rows : List (ℕ × BuildJob))
  | deployment (id : ℕ) (row : Deployment)
  | deployments (rows : List (ℕ × Deployment))
  | webhookRegistration (r : WebhookRegistrationResponse) (signingSecret : String)
  | webhookRegistrations (rs : List WebhookRegistrationResponse)
  | text (s : String)
deriving DecidableEq, Repr

structure Response where
  status : ℕ
  body : ResponseBody
deriving DecidableEq, Repr

/-- What `background_tasks.add_task` was given. -/
inductive BackgroundTask where
  | pollBuildUntilDone (buildJobId : ℕ) (k8sNamespace : String)
  | pollDeploymentUntilRunning (deploymentId : ℕ) (k8sNamespace k8sDeploymentName : String)
deriving DecidableEq, Repr

def BackgroundTask.run : BackgroundTask → Py Unit
  | .pollBuildUntilDone id ns => TenantPlatform.pollBuildUntilDone cfg id ns
  | .pollDeploymentUntilRunning id ns name =>
      TenantPlatform.pollDeploymentUntilRunning cfg id ns name

abbrev Reply := Response × Option BackgroundTask

/-! ## Requests -/

/-- A request body or query that was checked against its schema: the error, or what it
holds. -/
abbrev Checked (α : Type) := Except String α

inductive TenantRequest where
  | createApiKey (body : Checked ApiKeyCreate)
  | getApiKey (keyId : ℤ)
  | getAllApiKeys
  | revokeApiKey (keyId : ℤ)
  | createBuildJob (body : Checked BuildJobCreate)
  | getBuildJob (buildJobId : ℤ)
  | getAllBuildJobs (page : Checked (Option ℕ × ℕ))
  | createDeployment (body : Checked DeploymentCreate)
  | getDeployment (deploymentId : ℤ)
  | getAllDeployments (page : Checked (Option ℕ × ℕ))
  | createWebhookRegistration (body : Checked WebhookRegistrationCreate)
  | getAllWebhookRegistrations
  | getKubeconfig

inductive AdminRequest where
  | createTenant (body : Checked TenantCreate)
  | getTenant (tenantId : ℤ)
  | getAllTenants
  | deleteTenant (tenantId : ℤ)
  | updateTenant (tenantId : ℤ) (body : Checked TenantUpdate)

/-- A request with the credential its header presents. -/
inductive Request where
  | tenant (tenantId : ℕ) (xApiKey : String) (r : TenantRequest)
  | admin (xAdminSecret : String) (r : AdminRequest)

/-! ## Authentication -/

def httpException {α : Type} (status : ℕ) (detail : String) : Py α := throw (.http status detail)

/-- `hmac.compare_digest` on two strings. -/
def compareDigest (a b : String) : Py Bool :=
  if a.toList.all (fun c => c.toNat < 128) && b.toList.all (fun c => c.toNat < 128) then
    return a = b
  else throw (.other "comparing strings with non-ASCII characters is not supported")

def verifyAdmin (adminSecretKey xAdminSecret : String) : Py Unit := do
  let isValid ← compareDigest xAdminSecret adminSecretKey
  if isValid then return () else httpException 401 "Invalid admin secret"

def verifyTenant (tenantId : ℤ) (xApiKey : String) : Py Unit := do
  match ← lookupApiKey (cfg.hashApiKey xApiKey) with
  | [] => httpException 401 "Invalid or revoked API key"
  | [(apiKey, tenant)] =>
      if (apiKey.tenantId : ℤ) ≠ tenantId then httpException 403 "Forbidden resource"
      else if !tenant.isActive then httpException 403 "Tenant is inactive"
      else return ()
  | _ => throw (.database "Multiple rows were found when one or none was required")

/-! ## Handlers -/

def checked {α : Type} : Checked α → Py α
  | .ok a => return a
  | .error detail => httpException 422 detail

/-- Turns the two kinds of SQLAlchemy errors into the responses a create route names. -/
def mapSqlErrors {α : Type} (onIntegrity onOther : String) (p : Py α) : Py α :=
  tryCatch p (fun e => match e with
    | .integrity _ => httpException 409 onIntegrity
    | .database _ => httpException 500 onOther
    | e => throw e)

def found {α : Type} (missing : String) : Option α → Py α
  | some a => return a
  | none => httpException 404 missing

def Routes.createApiKey (tenantId : ℕ) (keyData : ApiKeyCreate) : Py Reply := do
  let (apiKey, raw) ← mapSqlErrors "A key with that name already exists for this tenant."
    "Database error while creating API key." (createApiKeyService cfg tenantId keyData)
  return (⟨201, .apiKeyCreated (apiKeyResponse apiKey) raw⟩, none)

def Routes.createBuildJob (tenantId : ℕ) (buildData : BuildJobCreate) : Py Reply := do
  let ((id, job), k8sNamespace) ← createBuildJobService cfg tenantId buildData
  return (⟨201, .buildJob id job⟩, k8sNamespace.map (.pollBuildUntilDone id))

def Routes.createDeployment (tenantId : ℕ) (deployData : DeploymentCreate) : Py Reply := do
  let ((id, row), k8sNamespace) ← tryCatch (createDeploymentService tenantId deployData)
    (fun e => match e with
      | .valueError text => httpException 400 text
      | .buildJobNotReady text => httpException 409 text
      | e => throw e)
  return (⟨201, .deployment id row⟩,
    k8sNamespace.map (fun ns => .pollDeploymentUntilRunning id ns row.k8sDeploymentName))

def Routes.getKubeconfig (tenantId : ℕ) : Py Reply := do
  let document ← tryCatch (getTenantKubeconfigService cfg tenantId)
    (fun e => match e with
      | .valueError text => httpException 400 text
      | e => throw e)
  return (⟨200, .text document⟩, none)

def Routes.updateTenant (tenantId : ℤ) (tenantData : TenantUpdate) : Py Reply := do
  let updated ← tryCatch (atKey tenantId none (fun id => updateTenantService id tenantData))
    (fun e => match e with
      | .valueError text => httpException 400 text
      | e => throw e)
  let tenant ← found "Tenant not found" updated
  return (⟨200, .tenant (tenantResponse tenant)⟩, none)

def TenantRequest.handle (tenantId : ℕ) : TenantRequest → Py Reply
  | .createApiKey body => do Routes.createApiKey cfg tenantId (← checked body)
  | .getApiKey keyId => do
      let apiKey ← found "API key not found" (← getApiKeyService tenantId keyId)
      return (⟨200, .apiKey (apiKeyResponse apiKey)⟩, none)
  | .getAllApiKeys => do
      let apiKeys ← getAllApiKeysService tenantId
      return (⟨200, .apiKeys (apiKeys.map apiKeyResponse)⟩, none)
  | .revokeApiKey keyId => do
      let apiKey ← found "API key not found" (← revokeApiKeyService tenantId keyId)
      return (⟨200, .apiKey (apiKeyResponse apiKey)⟩, none)
  | .createBuildJob body => do Routes.createBuildJob cfg tenantId (← checked body)
  | .getBuildJob buildJobId => do
      let (id, job) ← found "Build job not found" (← getBuildJobService tenantId buildJobId)
      return (⟨200, .buildJob id job⟩, none)
  | .getAllBuildJobs page => do
      let (limit, offset) ← checked page
      let jobs ← getAllBuildJobsService tenantId limit offset
      return (⟨200, .buildJobs jobs⟩, none)
  | .createDeployment body => do Routes.createDeployment tenantId (← checked body)
  | .getDeployment deploymentId => do
      let (id, row) ← found "Deployment not found" (← getDeploymentService tenantId deploymentId)
      return (⟨200, .deployment id row⟩, none)
  | .getAllDeployments page => do
      let (limit, offset) ← checked page
      let rows ← getAllDeploymentsService tenantId limit offset
      return (⟨200, .deployments rows⟩, none)
  | .createWebhookRegistration body => do
      let (registration, secret) ← createWebhookRegistrationService tenantId (← checked body)
      return (⟨201, .webhookRegistration (webhookRegistrationResponse registration) secret⟩, none)
  | .getAllWebhookRegistrations => do
      let registrations ← getAllWebhookRegistrationsService tenantId
      return (⟨200, .webhookRegistrations (registrations.map webhookRegistrationResponse)⟩, none)
  | .getKubeconfig => Routes.getKubeconfig cfg tenantId

def AdminRequest.handle : AdminRequest → Py Reply
  | .createTenant body => do
      let tenantData ← checked body
      let (tenant, raw) ← mapSqlErrors
        "Tenant could not be created because of a database constraint violation."
        "Database error while creating tenant." (createTenantService cfg tenantData)
      return (⟨201, .tenantCreated (tenantResponse tenant) raw⟩, none)
  | .getTenant tenantId => do
      let tenant ← found "Tenant not found" (← atKey tenantId none getTenantService)
      return (⟨200, .tenant (tenantResponse tenant)⟩, none)
  | .getAllTenants => do
      let tenants ← getAllTenantsService
      return (⟨200, .tenants (tenants.map tenantResponse)⟩, none)
  | .deleteTenant tenantId => do
      let deletedCount ← atKey tenantId 0 deleteTenantService
      if deletedCount = 0 then httpException 404 "Tenant not found"
      else return (⟨204, .empty⟩, none)
  | .updateTenant tenantId body => do Routes.updateTenant tenantId (← checked body)

/-! ## Serving a request -/

/-- The handler behind its authentication. -/
def Request.handle (adminSecretKey : String) : Request → Py Reply
  | .tenant tenantId xApiKey r => do
      verifyTenant cfg tenantId xApiKey
      r.handle cfg tenantId
  | .admin xAdminSecret r => do
      verifyAdmin adminSecretKey xAdminSecret
      r.handle cfg

/-- An HTTPException is a response, and any other exception is an internal error. -/
def errorReply : PyException → Reply
  | .http status detail => (⟨status, .detail detail⟩, none)
  | _ => (⟨500, .text "Internal Server Error"⟩, none)

def Request.serve (adminSecretKey : String) (r : Request) : Py Reply :=
  tryCatch (r.handle cfg adminSecretKey) (fun e => pure (errorReply e))

/-- One request from its arrival to the end of its background task, which starts once the
response is sent. -/
def Request.thread (adminSecretKey : String) (r : Request) : Py Unit := do
  let (_, task) ← r.serve cfg adminSecretKey
  match task with
  | some task => task.run cfg
  | none => return ()

end TenantPlatform
