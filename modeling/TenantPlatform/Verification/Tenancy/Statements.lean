import TenantPlatform.Data.Evolution
import TenantPlatform.Verification.Keys.Operations
import TenantPlatform.Verification.Tenancy.Deletion

/-! # What one statement does to each table

New rows have been checked against the constraints of their table, a row that is there moves on
in the one way its statement has, and rows go with their tenant only. -/

namespace TenantPlatform

open Effect

/-! ## Rows that fit their columns -/

structure ApiKey.Fits (row : ApiKey) : Prop where
  name : fits 50 row.name = true
  keyPrefix : fits 16 row.keyPrefix = true
  keyHash : fits 64 row.keyHash = true

structure BuildJob.Fits (row : BuildJob) : Prop where
  gitUrl : fits 2048 row.gitUrl = true
  gitRevision : fits 255 row.gitRevision = true
  gitSubPath : row.gitSubPath.all (fits 1024) = true
  imageTag : row.imageTag.all (fits 512) = true
  errorMessage : row.errorMessage.all noNul = true

structure WebhookRegistration.Fits (row : WebhookRegistration) : Prop where
  callbackUrl : fits 2048 row.callbackUrl = true
  signingSecret : fits 255 row.signingSecret = true

structure WebhookDelivery.Fits (row : WebhookDelivery) : Prop where
  event : fits 50 row.event = true
  signature : fits 64 row.signature = true
  timestamp : row.timestamp < 2147483648
  errorMessage : row.errorMessage.all noNul = true

/-! ## Tenants that stay -/

namespace Database

/-- The tenant is there still, if it was. -/
def Keeps (db db' : Database) (n : ℕ) : Prop :=
  (db.tenants.get n).isSome → (db'.tenants.get n).isSome

def HasTenant (db : Database) (n : ℕ) : Prop := (db.tenants.get n).isSome

theorem keeps_of_ne_delete {want now : ℕ} {e : DbCall} {db : Database}
    (he : ∀ id, e ≠ .deleteTenant id) (n : ℕ) : db.Keeps (handleDb want now e db).2 n := by
  intro hn
  have hput : ∀ (id : ℕ) (tenant : Tenant), ((db.tenants.put id tenant).get n).isSome := by
    intro id tenant
    rw [Table.get_put]
    split
    · rfl
    · exact hn
  cases e with
  | flushTenant name ns =>
      rcases db.flushTenant_cases want name ns with ⟨x, db', heq, hsame⟩ | heq
      · simp only [handleDb, heq, hsame.1]
        exact hn
      · simp only [handleDb, heq]
        exact hn
  | commitTenant id name ns keyName keyPrefix keyHash =>
      rcases db.commitTenant_cases want now id name ns keyName keyPrefix keyHash with
        ⟨x, db', heq, hsame⟩ | ⟨tenant, row, db', heq, -, -, -, -, -, htenants, -⟩
      · simp only [handleDb, heq, hsame.1]
        exact hn
      · simp only [handleDb, heq, htenants]
        exact hput id tenant
  | updateTenant id changes =>
      rcases db.updateTenant_cases id changes with ⟨x, heq⟩ | ⟨tenant, db', heq, -, htenants, -⟩
      · simp only [handleDb, heq]
        exact hn
      · simp only [handleDb, heq, htenants]
        exact hput id tenant
  | deleteTenant id => exact absurd rfl (he id)
  | _ =>
      rw [(handleDb_sameOutside want now _ db).tenants rfl]
      exact hn

/-- A tenant that is deleted was there. -/
theorem deleteTenant_eq (db : Database) (id : ℕ) :
    (db.deleteTenant id).2 = db ∨ ((db.deleteTenant id).1 = .ok 1 ∧ db.HasTenant id ∧
      db.cascadeTenant id = .ok (db.deleteTenant id).2) := by
  unfold deleteTenant
  split
  · exact .inl rfl
  · rename_i tenant htenant
    split
    · exact .inl rfl
    · rename_i hok
      exact .inr ⟨rfl, Option.isSome_of_eq_some htenant, hok⟩

theorem Deleted.keeps_iff {db db' : Database} {t : ℕ} (h : db.Deleted t db')
    (ht : db.HasTenant t) (n : ℕ) : db.Keeps db' n ↔ n ≠ t := by
  unfold Keeps
  rw [h.tenants, Table.get_keep]
  constructor
  · rintro hkeeps rfl
    obtain ⟨tenant, htenant⟩ := Option.isSome_iff_exists.mp ht
    simpa [htenant, Option.filter_some] using hkeeps ht
  · intro hne hn
    obtain ⟨tenant, htenant⟩ := Option.isSome_iff_exists.mp hn
    simp [htenant, Option.filter_some, hne]

end Database

/-! ## The steps -/

/-- A new key has a hash and a name of its own, and a tenant. -/
def NewKey (db db' : Database) (rows : List ApiKey) : Prop :=
  ∃ row, rows = [row] ∧ row.Fits ∧ row.revokedAt = none ∧ db'.HasTenant row.tenantId ∧
    ∀ id k, db.apiKeys.get id = some k →
      k.keyHash ≠ row.keyHash ∧ ¬ (k.tenantId = row.tenantId ∧ k.name = row.name)

def KeyMove (_ : ℕ) (old row : ApiKey) : Prop := ∃ at', row = { old with revokedAt := some at' }

def NewBuild (db' : Database) (rows : List BuildJob) : Prop :=
  ∃ row, rows = [row] ∧ row.Fits ∧ db'.HasTenant row.tenantId

def BuildMove (e : DbCall) (id : ℕ) (old row : BuildJob) : Prop :=
  ∃ changes, e = .commitBuildJob id changes ∧ row = changes.apply old ∧
    row.imageTag.all (fits 512) = true ∧ row.errorMessage.all noNul = true

def NewDeployment (e : DbCall) (db' : Database) (rows : List Deployment) : Prop :=
  ∃ row, rows = [row] ∧ db'.HasTenant row.tenantId ∧
    e = .insertDeployment row.tenantId row.buildJobId row.k8sDeploymentName row.status
      row.replicaCount

def DeploymentMove (e : DbCall) (id : ℕ) (old row : Deployment) : Prop :=
  ∃ status now, e = .commitDeployment id status ∧
    row = { old with status := status, updatedAt := now }

def NewRegistration (db' : Database) (rows : List WebhookRegistration) : Prop :=
  ∃ row, rows = [row] ∧ row.Fits ∧ db'.HasTenant row.tenantId

def NewDelivery (db' : Database) (rows : List WebhookDelivery) : Prop :=
  ∀ row ∈ rows, row.Fits ∧ db'.HasTenant row.tenantId

/-- One step of the five tables that belong to tenants. -/
structure Database.Step (e : DbCall) (db db' : Database) : Prop where
  apiKeys : db.apiKeys.Step (fun row => db.Keeps db' row.tenantId) (NewKey db db') KeyMove
    db'.apiKeys
  buildJobs : db.buildJobs.Step (fun row => db.Keeps db' row.tenantId) (NewBuild db')
    (BuildMove e) db'.buildJobs
  deployments : db.deployments.Step (fun row => db.Keeps db' row.tenantId) (NewDeployment e db')
    (DeploymentMove e) db'.deployments
  webhookRegistrations : db.webhookRegistrations.Step (fun row => db.Keeps db' row.tenantId)
    (NewRegistration db') (fun _ _ _ => False) db'.webhookRegistrations
  webhookDeliveries : db.webhookDeliveries.Step (fun row => db.Keeps db' row.tenantId)
    (NewDelivery db') (fun _ _ _ => False) db'.webhookDeliveries

section Statement

variable {want now : ℕ} {e : DbCall} {db : Database}

theorem newKey_of_violation {db' : Database} {tenantId now : ℕ} {name keyPrefix keyHash : String}
    (h : db.keyViolation tenantId name keyPrefix keyHash = none) (ht : db'.HasTenant tenantId) :
    NewKey db db' [⟨tenantId, name, keyPrefix, keyHash, now, none⟩] := by
  refine ⟨_, rfl, ?_, rfl, ht, fun id k hk => ?_⟩
  · unfold Database.keyViolation at h
    split at h
    · cases h
    · rename_i hfits
      simp only [Bool.or_eq_true, Bool.not_eq_true', not_or, Bool.not_eq_false] at hfits
      exact ⟨hfits.1.1, hfits.1.2, hfits.2⟩
  · refine ⟨Database.keyViolation_none h hk, fun hsame => ?_⟩
    unfold Database.keyViolation at h
    split at h
    · cases h
    · split at h
      · cases h
      · split at h
        · cases h
        · rename_i hany
          have hfalse := not_of_anyRow (Bool.eq_false_of_not_eq_true hany) hk
          simp [hsame] at hfalse

theorem apiKeys_step (he : ∀ id, e ≠ .deleteTenant id) :
    db.apiKeys.Step (fun row => db.Keeps (handleDb want now e db).2 row.tenantId)
      (NewKey db (handleDb want now e db).2) KeyMove (handleDb want now e db).2.apiKeys := by
  have hkeep : ∀ row : ApiKey, db.Keeps (handleDb want now e db).2 row.tenantId :=
    fun row => Database.keeps_of_ne_delete he row.tenantId
  have hnext : db.apiKeys.next ≤ db.apiKeys.fresh want + 1 :=
    Nat.le_succ_of_le (db.apiKeys.le_fresh want)
  cases e with
  | commitTenant id name ns keyName keyPrefix keyHash =>
      simp only [handleDb, Database.commitTenant] at hkeep ⊢
      split
      · exact .of_get (fun _ h => h) le_rfl rfl
      · split
        · exact .of_get (fun _ h => h) le_rfl rfl
        · split
          · exact .of_get (fun _ h => h) hnext rfl
          · rename_i h1 h2 x hviolation
            simp only [h1, h2, hviolation, Bool.false_eq_true, if_false] at hkeep
            refine .insert hkeep want _ (newKey_of_violation hviolation ?_) rfl
            show ((db.tenants.put id _).get id).isSome
            rw [Table.get_put_self]
            rfl
  | insertApiKey tenantId name keyPrefix keyHash =>
      simp only [handleDb, Database.insertApiKey]
      split
      · exact .of_get (fun _ h => h) hnext rfl
      · rename_i hviolation
        split
        · exact .of_get (fun _ h => h) hnext rfl
        · rename_i htenant
          refine .insert (fun _ h => h) want _ (newKey_of_violation hviolation ?_) rfl
          exact Option.isNone_eq_false_iff.mp (Bool.eq_false_of_not_eq_true htenant)
  | revokeApiKey id revokedAt =>
      simp only [handleDb, Database.revokeApiKey]
      split
      · exact .of_get (fun _ h => h) le_rfl rfl
      · rename_i old hold
        exact .update (fun _ h => h) id old _ hold ⟨revokedAt, rfl⟩ rfl
  | deleteTenant id => exact absurd rfl (he id)
  | _ =>
      rw [(handleDb_sameOutside want now _ db).apiKeys rfl]
      exact .of_get hkeep le_rfl rfl

theorem buildJobs_step (he : ∀ id, e ≠ .deleteTenant id) :
    db.buildJobs.Step (fun row => db.Keeps (handleDb want now e db).2 row.tenantId)
      (NewBuild (handleDb want now e db).2) (BuildMove e) (handleDb want now e db).2.buildJobs := by
  have hkeep : ∀ row : BuildJob, db.Keeps (handleDb want now e db).2 row.tenantId :=
    fun row => Database.keeps_of_ne_delete he row.tenantId
  have hnext : db.buildJobs.next ≤ db.buildJobs.fresh want + 1 :=
    Nat.le_succ_of_le (db.buildJobs.le_fresh want)
  cases e with
  | insertBuildJob tenantId gitUrl gitRevision gitSubPath status =>
      simp only [handleDb, Database.insertBuildJob]
      split
      · exact .of_get (fun _ h => h) hnext rfl
      · rename_i hfits
        split
        · exact .of_get (fun _ h => h) hnext rfl
        · rename_i htenant
          simp only [Bool.or_eq_true, Bool.not_eq_true', not_or, Bool.not_eq_false] at hfits
          refine .insert (fun _ h => h) want
            [⟨tenantId, gitUrl, gitRevision, gitSubPath, status, none, none, now, none, none⟩]
            ⟨_, rfl, ⟨hfits.1.1, hfits.1.2, hfits.2, rfl, rfl⟩, ?_⟩ rfl
          exact Option.isNone_eq_false_iff.mp (Bool.eq_false_of_not_eq_true htenant)
  | commitBuildJob id changes =>
      simp only [handleDb, Database.commitBuildJob]
      split
      · exact .of_get (fun _ h => h) le_rfl rfl
      · rename_i old hold
        split
        · exact .of_get (fun _ h => h) le_rfl rfl
        · rename_i hfits
          simp only [Bool.or_eq_true, Bool.not_eq_true', not_or, Bool.not_eq_false] at hfits
          exact .update (fun _ h => h) id old _ hold ⟨changes, rfl, rfl, hfits⟩ rfl
  | deleteTenant id => exact absurd rfl (he id)
  | _ =>
      rw [(handleDb_sameOutside want now _ db).buildJobs rfl]
      exact .of_get hkeep le_rfl rfl

theorem deployments_step (he : ∀ id, e ≠ .deleteTenant id) :
    db.deployments.Step (fun row => db.Keeps (handleDb want now e db).2 row.tenantId)
      (NewDeployment e (handleDb want now e db).2) (DeploymentMove e)
      (handleDb want now e db).2.deployments := by
  have hkeep : ∀ row : Deployment, db.Keeps (handleDb want now e db).2 row.tenantId :=
    fun row => Database.keeps_of_ne_delete he row.tenantId
  have hnext : db.deployments.next ≤ db.deployments.fresh want + 1 :=
    Nat.le_succ_of_le (db.deployments.le_fresh want)
  cases e with
  | insertDeployment tenantId buildJobId name status replicaCount =>
      simp only [handleDb, Database.insertDeployment]
      split
      · exact .of_get (fun _ h => h) hnext rfl
      · rename_i hrefs
        simp only [Bool.or_eq_true, not_or] at hrefs
        refine .insert (fun _ h => h) want
          [⟨tenantId, buildJobId, name, status, replicaCount, now, now⟩] ⟨_, rfl, ?_, rfl⟩ rfl
        exact Option.isNone_eq_false_iff.mp (Bool.eq_false_of_not_eq_true hrefs.1)
  | commitDeployment id status =>
      simp only [handleDb, Database.commitDeployment]
      split
      · exact .of_get (fun _ h => h) le_rfl rfl
      · rename_i old hold
        exact .update (fun _ h => h) id old _ hold ⟨status, now, rfl, rfl⟩ rfl
  | deleteTenant id => exact absurd rfl (he id)
  | _ =>
      rw [(handleDb_sameOutside want now _ db).deployments rfl]
      exact .of_get hkeep le_rfl rfl

theorem webhookRegistrations_step (he : ∀ id, e ≠ .deleteTenant id) :
    db.webhookRegistrations.Step (fun row => db.Keeps (handleDb want now e db).2 row.tenantId)
      (NewRegistration (handleDb want now e db).2) (fun _ _ _ => False)
      (handleDb want now e db).2.webhookRegistrations := by
  have hkeep : ∀ row : WebhookRegistration, db.Keeps (handleDb want now e db).2 row.tenantId :=
    fun row => Database.keeps_of_ne_delete he row.tenantId
  have hnext : db.webhookRegistrations.next ≤ db.webhookRegistrations.fresh want + 1 :=
    Nat.le_succ_of_le (db.webhookRegistrations.le_fresh want)
  cases e with
  | insertWebhookRegistration tenantId callbackUrl signingSecret =>
      simp only [handleDb, Database.insertWebhookRegistration]
      split
      · exact .of_get (fun _ h => h) hnext rfl
      · rename_i hfits
        split
        · exact .of_get (fun _ h => h) hnext rfl
        · rename_i htenant
          simp only [Bool.or_eq_true, Bool.not_eq_true', not_or, Bool.not_eq_false] at hfits
          refine .insert (fun _ h => h) want [⟨tenantId, callbackUrl, signingSecret, now, true⟩]
            ⟨_, rfl, ⟨hfits.1, hfits.2⟩, ?_⟩ rfl
          exact Option.isNone_eq_false_iff.mp (Bool.eq_false_of_not_eq_true htenant)
  | deleteTenant id => exact absurd rfl (he id)
  | _ =>
      rw [(handleDb_sameOutside want now _ db).webhookRegistrations rfl]
      exact .of_get hkeep le_rfl rfl

theorem webhookDeliveries_step (he : ∀ id, e ≠ .deleteTenant id) :
    db.webhookDeliveries.Step (fun row => db.Keeps (handleDb want now e db).2 row.tenantId)
      (NewDelivery (handleDb want now e db).2) (fun _ _ _ => False)
      (handleDb want now e db).2.webhookDeliveries := by
  have hkeep : ∀ row : WebhookDelivery, db.Keeps (handleDb want now e db).2 row.tenantId :=
    fun row => Database.keeps_of_ne_delete he row.tenantId
  cases e with
  | commitWebhookDeliveries rows =>
      simp only [handleDb, Database.commitWebhookDeliveries]
      split
      · rename_i hall
        refine .insert (fun _ h => h) want rows (fun row hrow => ?_) rfl
        have hchecked := List.all_eq_true.mp hall row hrow
        simp only [Bool.and_eq_true, decide_eq_true_eq] at hchecked
        obtain ⟨⟨⟨⟨⟨-, htenant⟩, hevent⟩, hsignature⟩, htimestamp⟩, hmessage⟩ := hchecked
        exact ⟨⟨hevent, hsignature, htimestamp, hmessage⟩, htenant⟩
      · exact .of_get (fun _ h => h) le_rfl rfl
  | deleteTenant id => exact absurd rfl (he id)
  | _ =>
      rw [(handleDb_sameOutside want now _ db).webhookDeliveries rfl]
      exact .of_get hkeep le_rfl rfl

/-- Rows that go with their tenant. -/
theorem Database.Deleted.step {db' : Database} {t : ℕ} (h : db.Deleted t db')
    (ht : db.HasTenant t) (e : DbCall)
    (hnext : db.webhookDeliveries.next ≤ db'.webhookDeliveries.next) :
    db.Step e db' := by
  have hkept : ∀ n, decide (n ≠ t) = true ↔ db.Keeps db' n := fun n => by
    rw [h.keeps_iff ht, decide_eq_true_iff]
  constructor
  · rw [h.apiKeys]
    exact .of_keep (fun _ row _ => hkept row.tenantId)
  · rw [h.buildJobs]
    exact .of_keep (fun _ row _ => hkept row.tenantId)
  · rw [h.deployments]
    exact .of_keep (fun _ row _ => hkept row.tenantId)
  · rw [h.webhookRegistrations]
    exact .of_keep (fun _ row _ => hkept row.tenantId)
  · refine .rest hnext (fun id row => ?_)
    rw [h.webhookDeliveries, Option.filter_eq_some_iff]
    exact and_congr_right (fun _ => hkept row.tenantId)

theorem next_webhookDeliveries_of_cascade {db' : Database} {t : ℕ}
    (hok : db.cascadeTenant t = .ok db') :
    db.webhookDeliveries.next ≤ db'.webhookDeliveries.next := by
  unfold Database.cascadeTenant Database.deleteBuildJobs at hok
  simp only [bind, Except.bind, pure, Except.pure] at hok
  split at hok
  · cases hok
  · rename_i hb
    split at hb
    · cases hb
    · cases hb
      cases hok
      exact le_rfl

/-- What one statement does to the tables, given that their references hold. -/
theorem database_step (want now : ℕ) (e : DbCall) (h : db.References) :
    db.Step e (handleDb want now e db).2 := by
  by_cases he : ∃ t, e = .deleteTenant t
  · obtain ⟨t, rfl⟩ := he
    rcases db.deleteTenant_eq t with heq | ⟨-, ht, hok⟩
    · have hkeep : ∀ n, db.Keeps (handleDb want now (.deleteTenant t) db).2 n := by
        intro n
        simp only [handleDb, heq]
        exact fun h => h
      have hsame : (handleDb want now (.deleteTenant t) db).2 = db := heq
      constructor
      · exact .of_get (fun _ => hkeep _) (by rw [hsame]) (by rw [hsame])
      · exact .of_get (fun _ => hkeep _) (by rw [hsame]) (by rw [hsame])
      · exact .of_get (fun _ => hkeep _) (by rw [hsame]) (by rw [hsame])
      · exact .of_get (fun _ => hkeep _) (by rw [hsame]) (by rw [hsame])
      · exact .of_get (fun _ => hkeep _) (by rw [hsame]) (by rw [hsame])
    · exact (h.deleted hok).step ht _ (next_webhookDeliveries_of_cascade hok)
  · have he : ∀ t, e ≠ .deleteTenant t := fun t ht => he ⟨t, ht⟩
    exact ⟨apiKeys_step he, buildJobs_step he, deployments_step he, webhookRegistrations_step he,
      webhookDeliveries_step he⟩

end Statement

end TenantPlatform
