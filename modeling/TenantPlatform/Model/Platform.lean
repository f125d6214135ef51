import TenantPlatform.Effect.Concurrent
import TenantPlatform.Model.Database
import TenantPlatform.Model.Kubernetes

/-! # The control plane's world

Everything a service does goes through one call: a statement to the database, a call of
the Kubernetes API, or a request to the rest of the system. One outcome decides what the
call answers, so a run is a sequence of outcomes. -/

namespace TenantPlatform

open Effect

/-- What a function reports to the history when it is entered. -/
inductive Mark where
  | pollBuildUntilDone (buildJobId : ℕ) (k8sNamespace : String)
  | pollDeploymentUntilRunning (deploymentId : ℕ) (k8sNamespace k8sDeploymentName : String)
  | dispatchTenantWebhooks (tenantId : ℕ) (event : String) (payload : Payload)
deriving DecidableEq

inductive SysCall where
  | mark (m : Mark)
  | sleep (seconds : ℕ)
  | nowNaive
  | time
  | tokenUrlsafe (length : ℕ)
  | readCaCert
  | post (url : String) (content : String) (headers : List (String × String))
deriving DecidableEq

@[reducible] def SysCall.Result : SysCall → Type
  | .mark _ => Unit
  | .sleep _ => Unit
  | .nowNaive => ℕ
  | .time => ℕ
  | .tokenUrlsafe _ => String
  | .readCaCert => Except PyException String
  | .post .. => Except PyException ℕ

inductive Call where
  | db (e : DbCall)
  | k8s (e : K8sCall)
  | sys (e : SysCall)
deriving DecidableEq

@[reducible] def Call.Result : Call → Type
  | .db e => e.Result
  | .k8s e => e.Result
  | .sys e => e.Result

/-- How one call turns out, as far as the code cannot know: a failure, the clock, fresh
random text, the position of a key sequence, the HTTP status of a response. -/
structure Outcome where
  fault : Option Fault := none
  now : ℕ := 0
  token : String := ""
  want : ℕ := 0
  httpStatus : ℕ := 200
deriving DecidableEq, Repr

/-- The outcome of a call that goes well. -/
def Outcome.ok : Outcome := {}

structure World where
  db : Database
  cluster : Cluster

def handleSys (o : Outcome) : (e : SysCall) → e.Result
  | .mark _ => ()
  | .sleep _ => ()
  | .nowNaive => o.now
  | .time => o.now
  | .tokenUrlsafe _ => o.token
  | .readCaCert => readAnswer o.fault (some o.token)
  | .post .. => readAnswer o.fault (some o.httpStatus)

def handle : (e : Call) → Outcome → World → e.Result × World
  | .db e, o, w =>
      let r := handleDb o.want o.now e w.db
      (r.1, { w with db := r.2 })
  | .k8s e, o, w =>
      let r := handleK8s o.fault o.token e w.cluster
      (r.1, { w with cluster := r.2 })
  | .sys e, o, w => (handleSys o e, w)

/-- The control plane among other actors: `env` is what may happen to the world beside
its own calls. -/
def platform (env : World → World → Prop) : Semantics Call Call.Result World :=
  .ofHandler handle env

/-- A Python function of the control plane. -/
abbrev Py : Type → Type := Prog Call Call.Result PyException

/-! ## Statements -/

def getTenant (id : ℕ) : Py (Option Tenant) := .call (.db (.getTenant id)) .ret

def listTenants (limit : Option ℕ) (offset : ℕ) : Py (List (ℕ × Tenant)) :=
  .call (.db (.listTenants limit offset)) .ret

def flushTenant (name k8sNamespace : String) : Py ℕ :=
  .call (.db (.flushTenant name k8sNamespace)) .ofExcept

def commitTenant (id : ℕ) (name k8sNamespace keyName keyPrefix keyHash : String) : Py Tenant :=
  .call (.db (.commitTenant id name k8sNamespace keyName keyPrefix keyHash)) .ofExcept

def updateTenant (id : ℕ) (changes : TenantChanges) : Py Tenant :=
  .call (.db (.updateTenant id changes)) .ofExcept

def deleteTenant (id : ℕ) : Py ℕ := .call (.db (.deleteTenant id)) .ofExcept

def insertApiKey (tenantId : ℕ) (name keyPrefix keyHash : String) : Py (ℕ × ApiKey) :=
  .call (.db (.insertApiKey tenantId name keyPrefix keyHash)) .ofExcept

def selectApiKey (tenantId : ℕ) (keyId : ℤ) : Py (Option (ℕ × ApiKey)) :=
  .call (.db (.selectApiKey tenantId keyId)) .ofExcept

def selectApiKeys (tenantId : ℕ) : Py (List (ℕ × ApiKey)) :=
  .call (.db (.selectApiKeys tenantId)) .ret

def revokeApiKey (id revokedAt : ℕ) : Py ApiKey :=
  .call (.db (.revokeApiKey id revokedAt)) .ofExcept

def lookupApiKey (keyHash : String) : Py (List (ApiKey × Tenant)) :=
  .call (.db (.lookupApiKey keyHash)) .ret

def getBuildJob (id : ℤ) : Py (Option (ℕ × BuildJob)) :=
  .call (.db (.getBuildJob id)) .ofExcept

def insertBuildJob (tenantId : ℕ) (gitUrl gitRevision : String) (gitSubPath : Option String)
    (status : BuildStatus) : Py (ℕ × BuildJob) :=
  .call (.db (.insertBuildJob tenantId gitUrl gitRevision gitSubPath status)) .ofExcept

def commitBuildJob (id : ℕ) (changes : BuildJobChanges) : Py BuildJob :=
  .call (.db (.commitBuildJob id changes)) .ofExcept

def selectBuildJob (tenantId : ℕ) (id : ℤ) : Py (Option (ℕ × BuildJob)) :=
  .call (.db (.selectBuildJob tenantId id)) .ofExcept

def selectBuildJobs (tenantId : ℕ) (limit : Option ℕ) (offset : ℕ) : Py (List (ℕ × BuildJob)) :=
  .call (.db (.selectBuildJobs tenantId limit offset)) .ret

def getDeployment (id : ℕ) : Py (Option Deployment) := .call (.db (.getDeployment id)) .ret

def insertDeployment (tenantId buildJobId : ℕ) (k8sDeploymentName : String)
    (status : DeploymentStatus) (replicaCount : ℕ) : Py (ℕ × Deployment) :=
  .call (.db (.insertDeployment tenantId buildJobId k8sDeploymentName status replicaCount))
    .ofExcept

def commitDeployment (id : ℕ) (status : DeploymentStatus) : Py Deployment :=
  .call (.db (.commitDeployment id status)) .ofExcept

def selectDeployment (tenantId : ℕ) (id : ℤ) : Py (Option (ℕ × Deployment)) :=
  .call (.db (.selectDeployment tenantId id)) .ofExcept

def selectDeployments (tenantId : ℕ) (limit : Option ℕ) (offset : ℕ) :
    Py (List (ℕ × Deployment)) :=
  .call (.db (.selectDeployments tenantId limit offset)) .ret

def insertWebhookRegistration (tenantId : ℕ) (callbackUrl signingSecret : String) :
    Py (ℕ × WebhookRegistration) :=
  .call (.db (.insertWebhookRegistration tenantId callbackUrl signingSecret)) .ofExcept

def selectWebhookRegistrations (tenantId : ℕ) : Py (List (ℕ × WebhookRegistration)) :=
  .call (.db (.selectWebhookRegistrations tenantId)) .ret

def selectActiveWebhookRegistrations (tenantId : ℕ) : Py (List (ℕ × WebhookRegistration)) :=
  .call (.db (.selectActiveWebhookRegistrations tenantId)) .ret

def commitWebhookDeliveries (rows : List WebhookDelivery) : Py Unit :=
  .call (.db (.commitWebhookDeliveries rows)) .ofExcept

/-! ## Calls of the cluster and the system -/

def createObject (k : Kind) (ns name : String) (body : Body k) : Py Unit :=
  .call (.k8s (.create k ns name body)) .ofExcept

def patchNamespacedDeployment (ns name : String) (patch : DeploymentPatch) : Py Unit :=
  .call (.k8s (.patchDeployment ns name patch)) .ofExcept

def readImage (ns name : String) : Py ImageResource :=
  .call (.k8s (.readImage ns name)) .ofExcept

def readNamespacedDeployment (ns name : String) : Py DeploymentResource :=
  .call (.k8s (.readDeployment ns name)) .ofExcept

def readNamespacedService (ns name : String) : Py (Option String) :=
  .call (.k8s (.readService ns name)) .ofExcept

def createServiceAccountToken (ns serviceAccount : String) (expirationSeconds : ℕ) : Py String :=
  .call (.k8s (.createToken ns serviceAccount expirationSeconds)) .ofExcept

def mark (m : Mark) : Py Unit := .call (.sys (.mark m)) .ret

def asyncioSleep (seconds : ℕ) : Py Unit := .call (.sys (.sleep seconds)) .ret

def nowNaive : Py ℕ := .call (.sys .nowNaive) .ret

def time : Py ℕ := .call (.sys .time) .ret

def tokenUrlsafe (length : ℕ) : Py String := .call (.sys (.tokenUrlsafe length)) .ret

def readCaCert : Py String := .call (.sys .readCaCert) .ofExcept

def post (url content : String) (headers : List (String × String)) : Py ℕ :=
  .call (.sys (.post url content headers)) .ofExcept

end TenantPlatform
