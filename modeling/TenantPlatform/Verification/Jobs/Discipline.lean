import TenantPlatform.Verification.Jobs.History

/-! # The discipline of a request

What a request may call after the calls it has made, and what it may expect of the
answers. Rows have one writer each, so a request expects to find its own rows as it left
them. -/

namespace TenantPlatform

open Effect

/-! ## Calls -/

/-- The row is a deployment whose cluster objects are still to be written. -/
structure Pending (τ : History) (id : ℕ) (row : Deployment) (image : Option String) : Prop where
  last : lastDeployment τ id = some row
  pending : row.status = .pending
  asks : Asks τ row image
  unwritten : ∀ x ∈ τ, ∀ ns image replicas, ¬ WritesApp ns image replicas x

def mayCreate (τ : History) (ns name : String) : (k : Kind) → Body k → Prop
  | .ns, body => body = namespaceBody
  | .networkPolicy, body => ∃ dnsIp, body = networkPolicyBody dnsIp
  | .image, _ => SetUp ns τ
  | .deployment, body => ∃ id row image, Pending τ id row image ∧
      ns = tenantNamespace row.tenantId ∧ name = tenantAppName ∧
      body = deploymentBody image row.replicaCount tenantAppName
  | _, _ => True

/-- A row leaves a terminal status never, and enters `building` and `succeeded` only once
its namespace is set up. -/
def mayCommitBuild (τ : History) (id : ℕ) (changes : BuildJobChanges) : Prop :=
  ∃ row, lastBuild τ id = some row ∧ row.status.terminal = false ∧
    changes.status ≠ .queued ∧
    (changes.status = .building ∨ changes.status = .succeeded →
      SetUp (tenantNamespace row.tenantId) τ)

/-- The row was loaded right after a read of its Deployment that says how it ended. -/
def Verdict (τ : History) (id : ℕ) (row : Deployment) (running : Bool) : Prop :=
  ∃ deployment past, (rolloutReport deployment).running = some running ∧
    lastDeployment past id = some row ∧ Applied past row ∧
    τ = ⟨.db (.getDeployment id), some row⟩ ::
      ⟨.k8s (.readDeployment (tenantNamespace row.tenantId) tenantAppName), .ok deployment⟩ :: past

/-- A row enters `deploying` once it is applied, and `running` on a read that says so. -/
def mayCommitDeployment (τ : History) (id : ℕ) (status : DeploymentStatus) : Prop :=
  ∃ row, lastDeployment τ id = some row ∧ row.status.terminal = false ∧
    (status = .deploying ∨ status = .running → Applied τ row) ∧
    (status = .running → Verdict τ id row true) ∧
    (status = .failed → (∀ x ∈ τ, decisive x = false) ∨ Verdict τ id row false)

def mayDb (τ : History) : DbCall → Prop
  | .commitTenant id _ ns _ _ _ => ns = tenantNamespace id
  | .insertBuildJob _ _ _ _ status => status = .queued
  | .commitBuildJob id changes => mayCommitBuild τ id changes
  | .insertDeployment tenantId buildJobId name status _ =>
      status = .pending ∧ name = tenantAppName ∧
        ∃ job, SawBuild τ buildJobId job ∧ job.tenantId = tenantId ∧ job.status = .succeeded
  | .commitDeployment id status => mayCommitDeployment τ id status
  | _ => True

def mayK8s (τ : History) : K8sCall → Prop
  | .create k ns name body => mayCreate τ ns name k body
  | .patchDeployment ns name patch => ∃ id row image, Pending τ id row image ∧
      ns = tenantNamespace row.tenantId ∧ name = tenantAppName ∧
      patch = deploymentPatch image row.replicaCount
  | .readDeployment ns name => ∃ id row, lastDeployment τ id = some row ∧ row.active ∧
      ns = tenantNamespace row.tenantId ∧ name = tenantAppName
  | _ => True

def mayMark (τ : History) : Mark → Prop
  | .pollBuildUntilDone id ns =>
      ∃ row, lastBuild τ id = some row ∧ row.active ∧ ns = tenantNamespace row.tenantId
  | .pollDeploymentUntilRunning id ns name => ∃ row, lastDeployment τ id = some row ∧
      row.active ∧ ns = tenantNamespace row.tenantId ∧ name = tenantAppName
  | .dispatchTenantWebhooks _ _ payload => ∃ j, payloadJob payload = some j ∧ Owned j τ

def mayCall (τ : History) : Call → Prop
  | .db e => mayDb τ e
  | .k8s e => mayK8s τ e
  | .sys (.mark m) => mayMark τ m
  | .sys _ => True

/-! ## Answers -/

def expectsDb (τ : History) : (e : DbCall) → e.Result → Prop
  | .getTenant id, some tenant => tenant.k8sNamespace = tenantNamespace id
  | .insertBuildJob tenantId gitUrl gitRevision gitSubPath status, .ok (id, row) =>
      lastBuild τ id = none ∧ ∃ now,
        row = ⟨tenantId, gitUrl, gitRevision, gitSubPath, status, none, none, now, none, none⟩
  | .commitBuildJob id changes, .ok row =>
      ∀ old, lastBuild τ id = some old → row = changes.apply old
  | .getBuildJob key, .ok (some (id, row)) =>
      key = id ∧ ∀ old, lastBuild τ id = some old → row = old
  | .insertDeployment tenantId buildJobId name status replicaCount, .ok (id, row) =>
      lastDeployment τ id = none ∧ ∃ now,
        row = ⟨tenantId, buildJobId, name, status, replicaCount, now, now⟩
  | .commitDeployment id status, .ok row =>
      ∀ old, lastDeployment τ id = some old →
        ∃ now, row = { old with status := status, updatedAt := now }
  | .getDeployment id, some row => ∀ old, lastDeployment τ id = some old → row = old
  | _, _ => True

def expectsAnswer (τ : History) : Exchange Call Call.Result → Prop
  | ⟨.db e, r⟩ => expectsDb τ e r
  | _ => True

/-- The discipline that every request keeps. -/
def requestDiscipline : Discipline Call Call.Result := ⟨mayCall, expectsAnswer⟩

/-! ## Calls that tell nothing about jobs -/

/-- Calls whose answers leave rows, reads and announcements of jobs as they are. -/
def Call.quiet : Call → Bool
  | .db (.insertBuildJob ..) | .db (.commitBuildJob ..) | .db (.getBuildJob ..)
  | .db (.insertDeployment ..) | .db (.commitDeployment ..) | .db (.getDeployment ..) => false
  | .k8s (.readImage ..) | .k8s (.readDeployment ..) | .k8s (.patchDeployment ..) => false
  | .k8s (.create .deployment ..) => false
  | .sys (.mark _) => false
  | _ => true

/-- Quiet calls that a request may make at any time. -/
def Call.free : Call → Bool
  | .db (.commitTenant ..) | .k8s (.create .ns ..) | .k8s (.create .networkPolicy ..)
  | .k8s (.create .image ..) => false
  | e => e.quiet

theorem Call.quiet_of_free {e : Call} (h : e.free = true) : e.quiet = true := by
  unfold Call.free at h
  split at h
  all_goals first | exact h | cases h

theorem mayCall_of_free {e : Call} (h : e.free = true) (τ : History) : mayCall τ e := by
  cases e with
  | db e => cases e <;> trivial
  | sys e => cases e <;> trivial
  | k8s e =>
      cases e with
      | create k ns name body => cases k <;> trivial
      | _ => trivial

section Quiet

variable {x : Exchange Call Call.Result}

theorem writtenBuild_of_quiet (h : x.call.quiet = true) : writtenBuild x = none := by
  obtain ⟨e, r⟩ := x
  cases e with
  | db e => cases e <;> first | rfl | cases h
  | _ => rfl

theorem writtenDeployment_of_quiet (h : x.call.quiet = true) : writtenDeployment x = none := by
  obtain ⟨e, r⟩ := x
  cases e with
  | db e => cases e <;> first | rfl | cases h
  | _ => rfl

theorem signalOf_of_quiet (h : x.call.quiet = true) (j : Job) : signalOf j x = none := by
  obtain ⟨e, r⟩ := x
  cases e with
  | db e => cases e <;> first | rfl | cases h
  | k8s e => rfl
  | sys e => cases e <;> first | rfl | cases h

theorem statusRead_of_quiet (h : x.call.quiet = true) :
    statusReadRaised x = false ∧ decisive x = false := by
  obtain ⟨e, r⟩ := x
  cases e with
  | k8s e => cases e <;> first | exact ⟨rfl, rfl⟩ | cases h
  | _ => exact ⟨rfl, rfl⟩

theorem missing_of_quiet (h : x.call.quiet = true) (j : Job) : missing j x = false := by
  obtain ⟨e, r⟩ := x
  cases e with
  | db e => cases e <;> first | (cases j <;> rfl) | cases h
  | _ => cases j <;> rfl

theorem not_writesApp_of_quiet (h : x.call.quiet = true) (ns : String) (image : Option String)
    (replicas : ℕ) : ¬ WritesApp ns image replicas x := by
  rintro (_ | _) <;> cases h

theorem owned_cons_of_quiet (h : x.call.quiet = true) (j : Job) (τ : History) :
    Owned j (x :: τ) ↔ Owned j τ := by
  cases j with
  | build id => simp only [Owned, lastBuild, lastRow_cons_none (writtenBuild_of_quiet h)]
  | deployment id =>
      simp only [Owned, lastDeployment, lastRow_cons_none (writtenDeployment_of_quiet h)]

end Quiet

end TenantPlatform
