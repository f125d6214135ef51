import TenantPlatform.Model.Routes

/-! # What the history of a request shows

A request and its background task make one sequence of calls. The rows it wrote, the
verdicts it read and the announcements it made are all read off that sequence. -/

namespace TenantPlatform

open Effect

/-- The calls of one request and its background task, the latest first. -/
abbrev History := List (Exchange Call Call.Result)

/-! ## Rows -/

/-- The row that a statement left in `build_jobs`. -/
def DbCall.writtenBuild : (e : DbCall) → e.Result → Option (ℕ × BuildJob)
  | .insertBuildJob .., .ok r => some r
  | .commitBuildJob id _, .ok row => some (id, row)
  | _, _ => none

/-- The row that a statement left in `deployments`. -/
def DbCall.writtenDeployment : (e : DbCall) → e.Result → Option (ℕ × Deployment)
  | .insertDeployment .., .ok r => some r
  | .commitDeployment id _, .ok row => some (id, row)
  | _, _ => none

def DbCall.failed : (e : DbCall) → e.Result → Bool
  | .flushTenant .., .error _ => true
  | .commitTenant .., .error _ => true
  | .updateTenant .., .error _ => true
  | .deleteTenant .., .error _ => true
  | .insertApiKey .., .error _ => true
  | .selectApiKey .., .error _ => true
  | .revokeApiKey .., .error _ => true
  | .getBuildJob .., .error _ => true
  | .insertBuildJob .., .error _ => true
  | .commitBuildJob .., .error _ => true
  | .selectBuildJob .., .error _ => true
  | .insertDeployment .., .error _ => true
  | .commitDeployment .., .error _ => true
  | .selectDeployment .., .error _ => true
  | .insertWebhookRegistration .., .error _ => true
  | .commitWebhookDeliveries .., .error _ => true
  | _, _ => false

def writtenBuild : Exchange Call Call.Result → Option (ℕ × BuildJob)
  | ⟨.db e, r⟩ => e.writtenBuild r
  | _ => none

def writtenDeployment : Exchange Call Call.Result → Option (ℕ × Deployment)
  | ⟨.db e, r⟩ => e.writtenDeployment r
  | _ => none

/-- A statement raised. -/
def statementFailed : Exchange Call Call.Result → Bool
  | ⟨.db e, r⟩ => e.failed r
  | _ => false

/-- The last row a history wrote under a key. -/
def lastRow {α : Type} (written : Exchange Call Call.Result → Option (ℕ × α)) :
    History → ℕ → Option α
  | [], _ => none
  | x :: past, id =>
      match written x with
      | some (j, a) => if id = j then some a else lastRow written past id
      | none => lastRow written past id

abbrev lastBuild : History → ℕ → Option BuildJob := lastRow writtenBuild

abbrev lastDeployment : History → ℕ → Option Deployment := lastRow writtenDeployment

theorem lastRow_cons_some {α : Type} {written : Exchange Call Call.Result → Option (ℕ × α)}
    {x : Exchange Call Call.Result} {j : ℕ} {a : α} (h : written x = some (j, a)) (past : History)
    (id : ℕ) :
    lastRow written (x :: past) id = if id = j then some a else lastRow written past id := by
  simp [lastRow, h]

theorem lastRow_cons_none {α : Type} {written : Exchange Call Call.Result → Option (ℕ × α)}
    {x : Exchange Call Call.Result} (h : written x = none) (past : History) (id : ℕ) :
    lastRow written (x :: past) id = lastRow written past id := by
  simp [lastRow, h]

/-! ## Jobs -/

/-- A build job or a deployment, by its row. -/
inductive Job where
  | build (id : ℕ)
  | deployment (id : ℕ)
deriving DecidableEq, Repr

def BuildStatus.terminal : BuildStatus → Bool
  | .succeeded | .failed => true
  | _ => false

def DeploymentStatus.terminal : DeploymentStatus → Bool
  | .running | .failed => true
  | _ => false

/-- The history wrote the row of the job. -/
def Owned : Job → History → Prop
  | .build id, τ => (lastBuild τ id).isSome
  | .deployment id, τ => (lastDeployment τ id).isSome

instance (τ : History) : (j : Job) → Decidable (Owned j τ)
  | .build id => inferInstanceAs (Decidable ((lastBuild τ id).isSome = true))
  | .deployment id => inferInstanceAs (Decidable ((lastDeployment τ id).isSome = true))

/-- The row says that a poller is to settle the job. -/
def BuildJob.active (row : BuildJob) : Prop := row.status = .building

def Deployment.active (row : Deployment) : Prop := row.status = .deploying

def BuildJob.settled (row : BuildJob) : Prop := row.status.terminal ∧ row.endedAt.isSome

def Deployment.settled (row : Deployment) : Prop := row.status.terminal

instance (row : BuildJob) : Decidable row.active := inferInstanceAs (Decidable (_ = _))

instance (row : Deployment) : Decidable row.active := inferInstanceAs (Decidable (_ = _))

instance (row : BuildJob) : Decidable row.settled := inferInstanceAs (Decidable (_ ∧ _))

instance (row : Deployment) : Decidable row.settled := inferInstanceAs (Decidable (_ = _))

/-- The last row the history wrote for the job is active. -/
def LeftActive : Job → History → Prop
  | .build id, τ => ∃ row, lastBuild τ id = some row ∧ row.active
  | .deployment id, τ => ∃ row, lastDeployment τ id = some row ∧ row.active

def LeftSettled : Job → History → Prop
  | .build id, τ => ∃ row, lastBuild τ id = some row ∧ row.settled
  | .deployment id, τ => ∃ row, lastDeployment τ id = some row ∧ row.settled

/-- The poller of the job was entered. -/
def scheduled : Job → Exchange Call Call.Result → Bool
  | .build b, ⟨.sys (.mark (.pollBuildUntilDone id _)), _⟩ => id = b
  | .deployment d, ⟨.sys (.mark (.pollDeploymentUntilRunning id _ _)), _⟩ => id = d
  | _, _ => false

/-! ## Status reads -/

/-- A status read that raised: `get_build_status` and `get_deployment_status` handle a 404
only. -/
def statusReadRaised : Exchange Call Call.Result → Bool
  | ⟨.k8s (.readImage ..), .error e⟩ => !e.isNotFound
  | ⟨.k8s (.readDeployment ..), .error e⟩ => !e.isNotFound
  | _ => false

/-- A status read that showed the job done, one way or the other. -/
def decisive : Exchange Call Call.Result → Bool
  | ⟨.k8s (.readImage ..), .ok image⟩ => (buildReport image).ready.isSome
  | ⟨.k8s (.readDeployment ..), .ok deployment⟩ => (rolloutReport deployment).running.isSome
  | _ => false

/-- The row of the job was looked up and not found. -/
def missing : Job → Exchange Call Call.Result → Bool
  | .build b, ⟨.db (.getBuildJob id), .ok none⟩ => id = b
  | .deployment d, ⟨.db (.getDeployment id), none⟩ => id = d
  | _, _ => false

/-- A row the history had written was gone when it was looked up again. -/
def FoundGone (j : Job) : History → Prop
  | [] => False
  | x :: past => (missing j x = true ∧ Owned j past) ∨ FoundGone j past

/-! ## Announcements -/

/-- The arguments of `dispatch_tenant_webhooks`. -/
structure Announcement where
  tenantId : ℕ
  event : String
  payload : Payload
deriving DecidableEq

/-- What is to be said of a build job in a terminal status. -/
def buildAnnouncement (id : ℕ) (row : BuildJob) : Announcement :=
  ⟨row.tenantId, "build." ++ row.status.str, buildPayload id row⟩

def deploymentAnnouncement (id : ℕ) (row : Deployment) : Announcement :=
  ⟨row.tenantId, "deployment." ++ row.status.str, deploymentPayload id row⟩

/-- The job a payload is about. -/
def payloadJob : Payload → Option Job
  | ("build_job_id", .int id) :: _ => some (.build id.toNat)
  | ("deployment_id", .int id) :: _ => some (.deployment id.toNat)
  | _ => none

/-- A job's row was committed in a terminal status, so that `a` is to be announced, or `a`
was announced. -/
inductive Signal where
  | settled (a : Announcement)
  | dispatched (a : Announcement)
deriving DecidableEq

def signal : Exchange Call Call.Result → Option (Job × Signal)
  | ⟨.db (.commitBuildJob id _), .ok row⟩ =>
      if row.status.terminal then some (.build id, .settled (buildAnnouncement id row)) else none
  | ⟨.db (.commitDeployment id _), .ok row⟩ =>
      if row.status.terminal then some (.deployment id, .settled (deploymentAnnouncement id row))
      else none
  | ⟨.sys (.mark (.dispatchTenantWebhooks tenantId event payload)), _⟩ =>
      (payloadJob payload).map (fun j => (j, .dispatched ⟨tenantId, event, payload⟩))
  | _ => none

def signalOf (j : Job) (x : Exchange Call Call.Result) : Option Signal :=
  (signal x).bind (fun s => if s.1 = j then some s.2 else none)

/-- The signals of one job, the latest first. -/
def signalsOf (j : Job) (τ : History) : List Signal := τ.filterMap (signalOf j)

/-! ## Cluster objects and what was asked of them -/

/-- The answer to a create call shows that the object exists. -/
inductive Established (k : Kind) (ns name : String) : Exchange Call Call.Result → Prop where
  | created (body : Body k) : Established k ns name ⟨.k8s (.create k ns name body), .ok ()⟩
  | existed (body : Body k) (e : PyException) (h : e.isConflict = true) :
      Established k ns name ⟨.k8s (.create k ns name body), .error e⟩

/-- The objects that make a namespace safe for workloads. -/
def hardening (ns : String) : List (Kind × String × String) :=
  [(.ns, "", ns), (.resourceQuota, ns, "tenant-quota"), (.limitRange, ns, "tenant-limit-range"),
    (.networkPolicy, ns, "tenant-default-deny"),
    (.serviceAccount, ns, tenantServiceAccountName)]

/-- The history has seen to it that the namespace is set up. -/
def SetUp (ns : String) (τ : History) : Prop :=
  ∀ o ∈ hardening ns, ∃ x ∈ τ, Established o.1 o.2.1 o.2.2 x

/-- The build job was loaded with this row. -/
def SawBuild (τ : History) (id : ℕ) (row : BuildJob) : Prop :=
  ∃ key, (⟨.db (.getBuildJob key), .ok (some (id, row))⟩ : Exchange Call Call.Result) ∈ τ

/-- What a deployment row asks for was found in a finished build of its tenant. -/
structure Asks (τ : History) (row : Deployment) (image : Option String) : Prop where
  saw : ∃ job, SawBuild τ row.buildJobId job ∧ job.tenantId = row.tenantId ∧
    job.status = .succeeded ∧ job.imageTag = image
  name : row.k8sDeploymentName = tenantAppName

/-- A successful write of the tenant's Deployment. -/
inductive WritesApp (ns : String) (image : Option String) (replicas : ℕ) :
    Exchange Call Call.Result → Prop where
  | created : WritesApp ns image replicas
      ⟨.k8s (.create .deployment ns tenantAppName (deploymentBody image replicas tenantAppName)),
        .ok ()⟩
  | patched : WritesApp ns image replicas
      ⟨.k8s (.patchDeployment ns tenantAppName (deploymentPatch image replicas)), .ok ()⟩

/-- The cluster was made to run what the row asks for. -/
def Applied (τ : History) (row : Deployment) : Prop :=
  ∃ image, Asks τ row image ∧
    ∃ x ∈ τ, WritesApp (tenantNamespace row.tenantId) image row.replicaCount x

end TenantPlatform
