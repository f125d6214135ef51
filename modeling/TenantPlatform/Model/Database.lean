import TenantPlatform.Data.Table
import TenantPlatform.Model.Exceptions

/-! # The tables and the statements the services send to them

A statement of the ORM session is one call. The tables' declared constraints decide
whether it succeeds, and a failed statement changes no row. -/

namespace TenantPlatform

/-! ## Rows -/

structure Tenant where
  name : String
  k8sNamespace : String
  createdAt : ℕ
  isActive : Bool
deriving DecidableEq, Repr

structure ApiKey where
  tenantId : ℕ
  name : String
  keyPrefix : String
  keyHash : String
  createdAt : ℕ
  revokedAt : Option ℕ
deriving DecidableEq, Repr

inductive BuildStatus where
  | queued
  | building
  | succeeded
  | failed
deriving DecidableEq, Repr

def BuildStatus.str : BuildStatus → String
  | .queued => "queued"
  | .building => "building"
  | .succeeded => "succeeded"
  | .failed => "failed"

structure BuildJob where
  tenantId : ℕ
  gitUrl : String
  gitRevision : String
  gitSubPath : Option String
  status : BuildStatus
  imageTag : Option String
  errorMessage : Option String
  createdAt : ℕ
  startedAt : Option ℕ
  endedAt : Option ℕ
deriving DecidableEq, Repr

inductive DeploymentStatus where
  | pending
  | deploying
  | running
  | failed
  | stopped
deriving DecidableEq, Repr

def DeploymentStatus.str : DeploymentStatus → String
  | .pending => "pending"
  | .deploying => "deploying"
  | .running => "running"
  | .failed => "failed"
  | .stopped => "stopped"

structure Deployment where
  tenantId : ℕ
  buildJobId : ℕ
  k8sDeploymentName : String
  status : DeploymentStatus
  replicaCount : ℕ
  createdAt : ℕ
  updatedAt : ℕ
deriving DecidableEq, Repr

structure WebhookRegistration where
  tenantId : ℕ
  callbackUrl : String
  signingSecret : String
  createdAt : ℕ
  isActive : Bool
deriving DecidableEq, Repr

/-- The values of the flat JSON objects that webhooks carry. -/
inductive JsonScalar where
  | null
  | int (n : ℤ)
  | str (s : String)
deriving DecidableEq, Repr

abbrev Payload := List (String × JsonScalar)

inductive DeliveryStatus where
  | success
  | failed
deriving DecidableEq, Repr

structure WebhookDelivery where
  webhookRegistrationId : ℕ
  tenantId : ℕ
  event : String
  payload : Payload
  signature : String
  timestamp : ℕ
  status : DeliveryStatus
  httpStatusCode : Option ℕ
  errorMessage : Option String
deriving DecidableEq, Repr

structure Database where
  tenants : Table Tenant
  apiKeys : Table ApiKey
  buildJobs : Table BuildJob
  deployments : Table Deployment
  webhookRegistrations : Table WebhookRegistration
  webhookDeliveries : Table WebhookDelivery

def Database.empty : Database := ⟨.empty, .empty, .empty, .empty, .empty, .empty⟩

/-! ## Statements -/

/-- The attributes an update request sets: absent, null or a value. -/
structure TenantChanges where
  name : Option (Option String)
  isActive : Option (Option Bool)
deriving DecidableEq, Repr

/-- The columns assigned before a commit of a build job. -/
structure BuildJobChanges where
  status : BuildStatus
  imageTag : Option (Option String) := none
  errorMessage : Option (Option String) := none
  startedAt : Option ℕ := none
  endedAt : Option ℕ := none
deriving DecidableEq, Repr

def BuildJobChanges.apply (c : BuildJobChanges) (b : BuildJob) : BuildJob :=
  { b with
    status := c.status
    imageTag := c.imageTag.getD b.imageTag
    errorMessage := c.errorMessage.getD b.errorMessage
    startedAt := c.startedAt.orElse (fun _ => b.startedAt)
    endedAt := c.endedAt.orElse (fun _ => b.endedAt) }

inductive DbCall where
  | getTenant (id : ℕ)
  | listTenants (limit : Option ℕ) (offset : ℕ)
  | flushTenant (name k8sNamespace : String)
  | commitTenant (id : ℕ) (name k8sNamespace keyName keyPrefix keyHash : String)
  | updateTenant (id : ℕ) (changes : TenantChanges)
  | deleteTenant (id : ℕ)
  | insertApiKey (tenantId : ℕ) (name keyPrefix keyHash : String)
  | selectApiKey (tenantId : ℕ) (keyId : ℤ)
  | selectApiKeys (tenantId : ℕ)
  | revokeApiKey (id : ℕ) (revokedAt : ℕ)
  | lookupApiKey (keyHash : String)
  | getBuildJob (id : ℤ)
  | insertBuildJob (tenantId : ℕ) (gitUrl gitRevision : String) (gitSubPath : Option String)
      (status : BuildStatus)
  | commitBuildJob (id : ℕ) (changes : BuildJobChanges)
  | selectBuildJob (tenantId : ℕ) (id : ℤ)
  | selectBuildJobs (tenantId : ℕ) (limit : Option ℕ) (offset : ℕ)
  | getDeployment (id : ℕ)
  | insertDeployment (tenantId buildJobId : ℕ) (k8sDeploymentName : String)
      (status : DeploymentStatus) (replicaCount : ℕ)
  | commitDeployment (id : ℕ) (status : DeploymentStatus)
  | selectDeployment (tenantId : ℕ) (id : ℤ)
  | selectDeployments (tenantId : ℕ) (limit : Option ℕ) (offset : ℕ)
  | insertWebhookRegistration (tenantId : ℕ) (callbackUrl signingSecret : String)
  | selectWebhookRegistrations (tenantId : ℕ)
  | selectActiveWebhookRegistrations (tenantId : ℕ)
  | commitWebhookDeliveries (rows : List WebhookDelivery)
deriving DecidableEq

@[reducible] def DbCall.Result : DbCall → Type
  | .getTenant .. => Option Tenant
  | .listTenants .. => List (ℕ × Tenant)
  | .flushTenant .. => Except PyException ℕ
  | .commitTenant .. => Except PyException Tenant
  | .updateTenant .. => Except PyException Tenant
  | .deleteTenant .. => Except PyException ℕ
  | .insertApiKey .. => Except PyException (ℕ × ApiKey)
  | .selectApiKey .. => Except PyException (Option (ℕ × ApiKey))
  | .selectApiKeys .. => List (ℕ × ApiKey)
  | .revokeApiKey .. => Except PyException ApiKey
  | .lookupApiKey .. => List (ApiKey × Tenant)
  | .getBuildJob .. => Except PyException (Option (ℕ × BuildJob))
  | .insertBuildJob .. => Except PyException (ℕ × BuildJob)
  | .commitBuildJob .. => Except PyException BuildJob
  | .selectBuildJob .. => Except PyException (Option (ℕ × BuildJob))
  | .selectBuildJobs .. => List (ℕ × BuildJob)
  | .getDeployment .. => Option Deployment
  | .insertDeployment .. => Except PyException (ℕ × Deployment)
  | .commitDeployment .. => Except PyException Deployment
  | .selectDeployment .. => Except PyException (Option (ℕ × Deployment))
  | .selectDeployments .. => List (ℕ × Deployment)
  | .insertWebhookRegistration .. => Except PyException (ℕ × WebhookRegistration)
  | .selectWebhookRegistrations .. => List (ℕ × WebhookRegistration)
  | .selectActiveWebhookRegistrations .. => List (ℕ × WebhookRegistration)
  | .commitWebhookDeliveries .. => Except PyException Unit

/-! ## Constraints -/

/-- `VARCHAR(limit)` stores at most `limit` characters, and no text holds NUL. -/
def fits (limit : ℕ) (s : String) : Bool := s.length ≤ limit && !s.toList.contains '\x00'

def noNul (s : String) : Bool := !s.toList.contains '\x00'

def dataError : PyException := .database "value does not fit its column"

def uniqueViolation : PyException := .integrity "duplicate key value violates unique constraint"

def foreignKeyViolation : PyException := .integrity "violates foreign key constraint"

def notNullViolation : PyException := .integrity "null value violates not-null constraint"

/-- An UPDATE of a row that is gone. -/
def staleData : PyException :=
  .database "UPDATE statement expected to update 1 row(s); 0 were matched."

def intOutOfRange : PyException := .database "value out of int32 range"

/-- Looks a row up by an integer that a request supplied. -/
def lookupInt {α : Type} (t : Table α) (id : ℤ) : Except PyException (Option (ℕ × α)) :=
  if -2147483648 ≤ id ∧ id < 2147483648 then
    .ok (if 0 ≤ id then (t.get id.toNat).map (fun a => (id.toNat, a)) else none)
  else .error intOutOfRange

def page {α : Type} (limit : Option ℕ) (offset : ℕ) (rows : List α) : List α :=
  match limit with
  | some n => (rows.drop offset).take n
  | none => rows.drop offset

/-- Some row satisfies `p`. -/
def anyRow {α : Type} (t : Table α) (p : α → Bool) : Bool := !(t.select p).isEmpty

namespace Database

def flushTenant (db : Database) (want : ℕ) (name k8sNamespace : String) :
    Except PyException ℕ × Database :=
  let db' := { db with tenants := db.tenants.reserve want }
  if !fits 255 name || !fits 63 k8sNamespace then (.error dataError, db')
  else if anyRow db.tenants (fun t => t.k8sNamespace = k8sNamespace) then
    (.error uniqueViolation, db')
  else (.ok (db.tenants.fresh want), db')

/-- Checks a new key row against the constraints of `api_keys`. -/
def keyViolation (db : Database) (tenantId : ℕ) (name keyPrefix keyHash : String) :
    Option PyException :=
  if !fits 50 name || !fits 16 keyPrefix || !fits 64 keyHash then some dataError
  else if anyRow db.apiKeys (fun k => k.keyHash = keyHash) then some uniqueViolation
  else if anyRow db.apiKeys (fun k => k.tenantId = tenantId && k.name = name) then
    some uniqueViolation
  else none

def commitTenant (db : Database) (want now : ℕ) (id : ℕ)
    (name k8sNamespace keyName keyPrefix keyHash : String) : Except PyException Tenant × Database :=
  let db' := { db with apiKeys := db.apiKeys.reserve want }
  if !fits 63 k8sNamespace then (.error dataError, db)
  else if anyRow db.tenants (fun t => t.k8sNamespace = k8sNamespace) then
    (.error uniqueViolation, db)
  else match db.keyViolation id keyName keyPrefix keyHash with
    | some x => (.error x, db')
    | none =>
        let tenant : Tenant := ⟨name, k8sNamespace, now, true⟩
        (.ok tenant,
          { db with
            tenants := db.tenants.put id tenant
            apiKeys := db.apiKeys.put (db.apiKeys.fresh want)
              ⟨id, keyName, keyPrefix, keyHash, now, none⟩ })

def updateTenant (db : Database) (id : ℕ) (c : TenantChanges) :
    Except PyException Tenant × Database :=
  match db.tenants.get id with
  | none => (.error staleData, db)
  | some t =>
      if c.name = some none ∨ c.isActive = some none then (.error notNullViolation, db)
      else
        let t' := { t with
          name := (c.name.bind (fun v => v)).getD t.name
          isActive := (c.isActive.bind (fun v => v)).getD t.isActive }
        if !fits 255 t'.name then (.error dataError, db)
        else (.ok t', { db with tenants := db.tenants.put id t' })

/-- `ON DELETE` of `build_jobs.id`: deployments that reference a deleted build restrict. -/
def deleteBuildJobs (db : Database) (tenantId : ℕ) : Except PyException Database :=
  let gone (b : ℕ) : Bool := (db.buildJobs.get b).any (fun r => r.tenantId = tenantId)
  if anyRow db.deployments (fun d => gone d.buildJobId) then .error foreignKeyViolation
  else .ok { db with buildJobs := db.buildJobs.keep (fun _ b => b.tenantId ≠ tenantId) }

/-- `ON DELETE` of `webhook_registrations.id` cascades to the deliveries. -/
def deleteWebhookRegistrations (db : Database) (tenantId : ℕ) : Database :=
  let gone (r : ℕ) : Bool := (db.webhookRegistrations.get r).any (fun w => w.tenantId = tenantId)
  { db with
    webhookDeliveries := db.webhookDeliveries.keep (fun _ d => !gone d.webhookRegistrationId)
    webhookRegistrations := db.webhookRegistrations.keep (fun _ w => w.tenantId ≠ tenantId) }

/-- The tables that reference `tenants`, one after another in the order in which their
foreign keys were created. -/
def cascadeTenant (db : Database) (id : ℕ) : Except PyException Database := do
  let db := { db with apiKeys := db.apiKeys.keep (fun _ k => k.tenantId ≠ id) }
  let db ← db.deleteBuildJobs id
  let db := db.deleteWebhookRegistrations id
  let db := { db with deployments := db.deployments.keep (fun _ d => d.tenantId ≠ id) }
  let db := { db with webhookDeliveries := db.webhookDeliveries.keep (fun _ d => d.tenantId ≠ id) }
  return { db with tenants := db.tenants.keep (fun j _ => j ≠ id) }

def deleteTenant (db : Database) (id : ℕ) : Except PyException ℕ × Database :=
  match db.tenants.get id with
  | none => (.ok 0, db)
  | some _ =>
      match db.cascadeTenant id with
      | .error x => (.error x, db)
      | .ok db' => (.ok 1, db')

def insertApiKey (db : Database) (want now : ℕ) (tenantId : ℕ) (name keyPrefix keyHash : String) :
    Except PyException (ℕ × ApiKey) × Database :=
  let db' := { db with apiKeys := db.apiKeys.reserve want }
  match db.keyViolation tenantId name keyPrefix keyHash with
  | some x => (.error x, db')
  | none =>
      if (db.tenants.get tenantId).isNone then (.error foreignKeyViolation, db')
      else
        let row : ApiKey := ⟨tenantId, name, keyPrefix, keyHash, now, none⟩
        (.ok (db.apiKeys.fresh want, row),
          { db with apiKeys := db.apiKeys.put (db.apiKeys.fresh want) row })

def revokeApiKey (db : Database) (id revokedAt : ℕ) : Except PyException ApiKey × Database :=
  match db.apiKeys.get id with
  | none => (.error staleData, db)
  | some k =>
      let k' := { k with revokedAt := some revokedAt }
      (.ok k', { db with apiKeys := db.apiKeys.put id k' })

/-- The join of unrevoked keys with their tenants. -/
def lookupApiKey (db : Database) (keyHash : String) : List (ApiKey × Tenant) :=
  (db.apiKeys.select (fun k => k.keyHash = keyHash && k.revokedAt.isNone)).filterMap
    (fun r => (db.tenants.get r.2.tenantId).map (fun t => (r.2, t)))

def insertBuildJob (db : Database) (want now : ℕ) (tenantId : ℕ) (gitUrl gitRevision : String)
    (gitSubPath : Option String) (status : BuildStatus) :
    Except PyException (ℕ × BuildJob) × Database :=
  let db' := { db with buildJobs := db.buildJobs.reserve want }
  if !fits 2048 gitUrl || !fits 255 gitRevision || !gitSubPath.all (fits 1024) then
    (.error dataError, db')
  else if (db.tenants.get tenantId).isNone then (.error foreignKeyViolation, db')
  else
    let row : BuildJob :=
      ⟨tenantId, gitUrl, gitRevision, gitSubPath, status, none, none, now, none, none⟩
    (.ok (db.buildJobs.fresh want, row),
      { db with buildJobs := db.buildJobs.put (db.buildJobs.fresh want) row })

def commitBuildJob (db : Database) (id : ℕ) (c : BuildJobChanges) :
    Except PyException BuildJob × Database :=
  match db.buildJobs.get id with
  | none => (.error staleData, db)
  | some b =>
      let b' := c.apply b
      if !b'.imageTag.all (fits 512) || !b'.errorMessage.all noNul then (.error dataError, db)
      else (.ok b', { db with buildJobs := db.buildJobs.put id b' })

def insertDeployment (db : Database) (want now : ℕ) (tenantId buildJobId : ℕ)
    (k8sDeploymentName : String) (status : DeploymentStatus) (replicaCount : ℕ) :
    Except PyException (ℕ × Deployment) × Database :=
  let db' := { db with deployments := db.deployments.reserve want }
  if (db.tenants.get tenantId).isNone || (db.buildJobs.get buildJobId).isNone then
    (.error foreignKeyViolation, db')
  else
    let row : Deployment :=
      ⟨tenantId, buildJobId, k8sDeploymentName, status, replicaCount, now, now⟩
    (.ok (db.deployments.fresh want, row),
      { db with deployments := db.deployments.put (db.deployments.fresh want) row })

def commitDeployment (db : Database) (now : ℕ) (id : ℕ) (status : DeploymentStatus) :
    Except PyException Deployment × Database :=
  match db.deployments.get id with
  | none => (.error staleData, db)
  | some d =>
      let d' := { d with status := status, updatedAt := now }
      (.ok d', { db with deployments := db.deployments.put id d' })

def insertWebhookRegistration (db : Database) (want now : ℕ) (tenantId : ℕ)
    (callbackUrl signingSecret : String) :
    Except PyException (ℕ × WebhookRegistration) × Database :=
  let db' := { db with webhookRegistrations := db.webhookRegistrations.reserve want }
  if !fits 2048 callbackUrl || !fits 255 signingSecret then (.error dataError, db')
  else if (db.tenants.get tenantId).isNone then (.error foreignKeyViolation, db')
  else
    let row : WebhookRegistration := ⟨tenantId, callbackUrl, signingSecret, now, true⟩
    (.ok (db.webhookRegistrations.fresh want, row),
      { db with
        webhookRegistrations :=
          db.webhookRegistrations.put (db.webhookRegistrations.fresh want) row })

/-- Adds the rows one after another; none is added when one violates a constraint. -/
def commitWebhookDeliveries (db : Database) (want : ℕ) (rows : List WebhookDelivery) :
    Except PyException Unit × Database :=
  if rows.all (fun d => (db.webhookRegistrations.get d.webhookRegistrationId).isSome &&
      (db.tenants.get d.tenantId).isSome && fits 50 d.event && fits 64 d.signature &&
      d.timestamp < 2147483648 && d.errorMessage.all noNul) then
    (.ok (), { db with
      webhookDeliveries := rows.foldl (fun t d => t.put (t.fresh want) d) db.webhookDeliveries })
  else (.error foreignKeyViolation, db)

end Database

/-- Carries out one statement. `want` is where the sequence of a generated key stands
at least, and `now` is the database clock. -/
def handleDb (want now : ℕ) : (e : DbCall) → Database → e.Result × Database
  | .getTenant id, db => (db.tenants.get id, db)
  | .listTenants limit offset, db => (page limit offset (db.tenants.select (fun _ => true)), db)
  | .flushTenant name ns, db => db.flushTenant want name ns
  | .commitTenant id name ns keyName keyPrefix keyHash, db =>
      db.commitTenant want now id name ns keyName keyPrefix keyHash
  | .updateTenant id changes, db => db.updateTenant id changes
  | .deleteTenant id, db => db.deleteTenant id
  | .insertApiKey tenantId name keyPrefix keyHash, db =>
      db.insertApiKey want now tenantId name keyPrefix keyHash
  | .selectApiKey tenantId keyId, db =>
      ((lookupInt db.apiKeys keyId).map (fun r => r.filter (fun k => k.2.tenantId = tenantId)), db)
  | .selectApiKeys tenantId, db => (db.apiKeys.select (fun k => k.tenantId = tenantId), db)
  | .revokeApiKey id revokedAt, db => db.revokeApiKey id revokedAt
  | .lookupApiKey keyHash, db => (db.lookupApiKey keyHash, db)
  | .getBuildJob id, db => (lookupInt db.buildJobs id, db)
  | .insertBuildJob tenantId gitUrl gitRevision gitSubPath status, db =>
      db.insertBuildJob want now tenantId gitUrl gitRevision gitSubPath status
  | .commitBuildJob id changes, db => db.commitBuildJob id changes
  | .selectBuildJob tenantId id, db =>
      ((lookupInt db.buildJobs id).map (fun r => r.filter (fun b => b.2.tenantId = tenantId)), db)
  | .selectBuildJobs tenantId limit offset, db =>
      (page limit offset (db.buildJobs.select (fun b => b.tenantId = tenantId)).reverse, db)
  | .getDeployment id, db => (db.deployments.get id, db)
  | .insertDeployment tenantId buildJobId name status replicaCount, db =>
      db.insertDeployment want now tenantId buildJobId name status replicaCount
  | .commitDeployment id status, db => db.commitDeployment now id status
  | .selectDeployment tenantId id, db =>
      ((lookupInt db.deployments id).map (fun r => r.filter (fun d => d.2.tenantId = tenantId)), db)
  | .selectDeployments tenantId limit offset, db =>
      (page limit offset (db.deployments.select (fun d => d.tenantId = tenantId)).reverse, db)
  | .insertWebhookRegistration tenantId callbackUrl signingSecret, db =>
      db.insertWebhookRegistration want now tenantId callbackUrl signingSecret
  | .selectWebhookRegistrations tenantId, db =>
      (db.webhookRegistrations.select (fun w => w.tenantId = tenantId), db)
  | .selectActiveWebhookRegistrations tenantId, db =>
      (db.webhookRegistrations.select (fun w => w.tenantId = tenantId && w.isActive), db)
  | .commitWebhookDeliveries rows, db => db.commitWebhookDeliveries want rows

end TenantPlatform
