import TenantPlatform.Data.Ledger
import TenantPlatform.Verification.Jobs.Discipline

/-! # What the statements do to the tables of jobs -/

namespace TenantPlatform

open Effect

theorem shrinks_keep {α : Type} (t : Table α) (p : ℕ → α → Bool) : t.Shrinks (t.keep p) where
  next_le := le_rfl
  get_eq id := by
    rw [Table.get_keep]
    cases t.get id with
    | none => exact .inl rfl
    | some a =>
        by_cases h : p id a = true
        · exact .inl (by simp [Option.filter, h])
        · exact .inr (by simp [Option.filter, h])

theorem shrinks_reserve {α : Type} (t : Table α) (want : ℕ) : t.Shrinks (t.reserve want) where
  next_le := Nat.le_succ_of_le (t.le_fresh want)
  get_eq _ := .inl rfl

namespace Database

/-- The rows of a deleted tenant go, table by table, and no others. -/
theorem cascadeTenant_ok {db db' : Database} {id : ℕ} (h : db.cascadeTenant id = .ok db') :
    db'.tenants = db.tenants.keep (fun j _ => j ≠ id) ∧
    db'.apiKeys = db.apiKeys.keep (fun _ k => k.tenantId ≠ id) ∧
    db'.buildJobs = db.buildJobs.keep (fun _ b => b.tenantId ≠ id) ∧
    db'.deployments = db.deployments.keep (fun _ d => d.tenantId ≠ id) ∧
    db'.webhookRegistrations = db.webhookRegistrations.keep (fun _ w => w.tenantId ≠ id) := by
  unfold cascadeTenant deleteBuildJobs at h
  simp only [bind, Except.bind, pure, Except.pure] at h
  split at h
  · cases h
  · rename_i hb
    split at hb
    · cases hb
    · cases hb
      cases h
      exact ⟨rfl, rfl, rfl, rfl, rfl⟩

theorem insertBuildJob_ok {db db' : Database} {want now tenantId : ℕ} {gitUrl gitRevision : String}
    {gitSubPath : Option String} {status : BuildStatus} {id : ℕ} {row : BuildJob}
    (h : db.insertBuildJob want now tenantId gitUrl gitRevision gitSubPath status =
      (.ok (id, row), db')) :
    db.buildJobs.next ≤ id ∧ db.buildJobs.Writes db'.buildJobs id row ∧
      row = ⟨tenantId, gitUrl, gitRevision, gitSubPath, status, none, none, now, none, none⟩ := by
  unfold insertBuildJob at h
  dsimp only at h
  split at h
  · cases h
  · split at h
    · cases h
    · cases h
      exact ⟨db.buildJobs.le_fresh want, db.buildJobs.writes_put _ _, rfl⟩

theorem commitBuildJob_ok {db db' : Database} {id : ℕ} {changes : BuildJobChanges} {row : BuildJob}
    (h : db.commitBuildJob id changes = (.ok row, db')) :
    db.buildJobs.Writes db'.buildJobs id row ∧
      ∃ old, db.buildJobs.get id = some old ∧ row = changes.apply old := by
  unfold commitBuildJob at h
  split at h
  · cases h
  · rename_i old hold
    dsimp only at h
    split at h
    · cases h
    · cases h
      exact ⟨db.buildJobs.writes_put _ _, old, hold, rfl⟩

theorem insertDeployment_ok {db db' : Database} {want now tenantId buildJobId : ℕ} {name : String}
    {status : DeploymentStatus} {replicaCount id : ℕ} {row : Deployment}
    (h : db.insertDeployment want now tenantId buildJobId name status replicaCount =
      (.ok (id, row), db')) :
    db.deployments.next ≤ id ∧ db.deployments.Writes db'.deployments id row ∧
      row = ⟨tenantId, buildJobId, name, status, replicaCount, now, now⟩ := by
  unfold insertDeployment at h
  dsimp only at h
  split at h
  · cases h
  · cases h
    exact ⟨db.deployments.le_fresh want, db.deployments.writes_put _ _, rfl⟩

theorem commitDeployment_ok {db db' : Database} {now id : ℕ} {status : DeploymentStatus}
    {row : Deployment} (h : db.commitDeployment now id status = (.ok row, db')) :
    db.deployments.Writes db'.deployments id row ∧ ∃ old, db.deployments.get id = some old ∧
      row = { old with status := status, updatedAt := now } := by
  unfold commitDeployment at h
  split at h
  · cases h
  · rename_i old hold
    cases h
    exact ⟨db.deployments.writes_put _ _, old, hold, rfl⟩

end Database

/-! ## Frames -/

inductive TableName where
  | tenants
  | apiKeys
  | buildJobs
  | deployments
  | webhookRegistrations
  | webhookDeliveries
deriving DecidableEq, Repr

/-- The tables a statement may change. -/
def DbCall.touches : DbCall → TableName → Bool
  | .flushTenant .., table | .updateTenant .., table => table = .tenants
  | .commitTenant .., table => table = .tenants || table = .apiKeys
  | .deleteTenant .., _ => true
  | .insertApiKey .., table | .revokeApiKey .., table => table = .apiKeys
  | .insertBuildJob .., table | .commitBuildJob .., table => table = .buildJobs
  | .insertDeployment .., table | .commitDeployment .., table => table = .deployments
  | .insertWebhookRegistration .., table => table = .webhookRegistrations
  | .commitWebhookDeliveries .., table => table = .webhookDeliveries
  | _, _ => false

/-- The tables outside `touched` are the same. -/
structure Database.SameOutside (touched : TableName → Bool) (db db' : Database) : Prop where
  tenants : touched .tenants = false → db'.tenants = db.tenants
  apiKeys : touched .apiKeys = false → db'.apiKeys = db.apiKeys
  buildJobs : touched .buildJobs = false → db'.buildJobs = db.buildJobs
  deployments : touched .deployments = false → db'.deployments = db.deployments
  webhookRegistrations : touched .webhookRegistrations = false →
    db'.webhookRegistrations = db.webhookRegistrations
  webhookDeliveries : touched .webhookDeliveries = false →
    db'.webhookDeliveries = db.webhookDeliveries

theorem Database.SameOutside.refl (touched : TableName → Bool) (db : Database) :
    db.SameOutside touched db :=
  ⟨fun _ => rfl, fun _ => rfl, fun _ => rfl, fun _ => rfl, fun _ => rfl, fun _ => rfl⟩

theorem handleDb_sameOutside (want now : ℕ) (e : DbCall) (db : Database) :
    db.SameOutside e.touches (handleDb want now e db).2 := by
  cases e with
  | flushTenant name ns =>
      simp only [handleDb, Database.flushTenant]
      repeat' split
      all_goals constructor <;> first | exact fun _ => rfl | exact nofun
  | commitTenant id name ns keyName keyPrefix keyHash =>
      simp only [handleDb, Database.commitTenant]
      repeat' split
      all_goals constructor <;> first | exact fun _ => rfl | exact nofun
  | updateTenant id changes =>
      simp only [handleDb, Database.updateTenant]
      repeat' split
      all_goals constructor <;> first | exact fun _ => rfl | exact nofun
  | deleteTenant id => constructor <;> exact nofun
  | insertApiKey tenantId name keyPrefix keyHash =>
      simp only [handleDb, Database.insertApiKey]
      repeat' split
      all_goals constructor <;> first | exact fun _ => rfl | exact nofun
  | revokeApiKey id revokedAt =>
      simp only [handleDb, Database.revokeApiKey]
      repeat' split
      all_goals constructor <;> first | exact fun _ => rfl | exact nofun
  | insertBuildJob tenantId gitUrl gitRevision gitSubPath status =>
      simp only [handleDb, Database.insertBuildJob]
      repeat' split
      all_goals constructor <;> first | exact fun _ => rfl | exact nofun
  | commitBuildJob id changes =>
      simp only [handleDb, Database.commitBuildJob]
      repeat' split
      all_goals constructor <;> first | exact fun _ => rfl | exact nofun
  | insertDeployment tenantId buildJobId name status replicaCount =>
      simp only [handleDb, Database.insertDeployment]
      repeat' split
      all_goals constructor <;> first | exact fun _ => rfl | exact nofun
  | commitDeployment id status =>
      simp only [handleDb, Database.commitDeployment]
      repeat' split
      all_goals constructor <;> first | exact fun _ => rfl | exact nofun
  | insertWebhookRegistration tenantId callbackUrl signingSecret =>
      simp only [handleDb, Database.insertWebhookRegistration]
      repeat' split
      all_goals constructor <;> first | exact fun _ => rfl | exact nofun
  | commitWebhookDeliveries rows =>
      simp only [handleDb, Database.commitWebhookDeliveries]
      repeat' split
      all_goals constructor <;> first | exact fun _ => rfl | exact nofun
  | _ => exact .refl _ db

theorem Database.deleteTenant_snd (db : Database) (id : ℕ) :
    (db.deleteTenant id).2 = db ∨ db.cascadeTenant id = .ok (db.deleteTenant id).2 := by
  unfold deleteTenant
  split
  · exact .inl rfl
  · split
    · exact .inl rfl
    · rename_i hok
      exact .inr hok

section Rows

variable {want now : ℕ} {e : DbCall} {db : Database}

/-- A statement that does not answer with a build job's row writes none. -/
theorem buildJobs_shrinks (h : e.writtenBuild (handleDb want now e db).1 = none) :
    db.buildJobs.Shrinks (handleDb want now e db).2.buildJobs := by
  cases e with
  | insertBuildJob tenantId gitUrl gitRevision gitSubPath status =>
      simp only [handleDb, Database.insertBuildJob] at h ⊢
      split
      · exact shrinks_reserve _ _
      · split
        · exact shrinks_reserve _ _
        · rename_i h1 h2
          rw [if_neg h1, if_neg h2] at h
          cases h
  | commitBuildJob id changes =>
      simp only [handleDb, Database.commitBuildJob] at h ⊢
      split
      · exact .refl _
      · rename_i hrow
        split
        · exact .refl _
        · rename_i hfits
          simp only [hrow, if_neg hfits] at h
          cases h
  | deleteTenant id =>
      rcases db.deleteTenant_snd id with heq | hok
      · simp only [handleDb, heq]
        exact .refl _
      · simp only [handleDb, (Database.cascadeTenant_ok hok).2.2.1]
        exact shrinks_keep _ _
  | _ =>
      rw [(handleDb_sameOutside want now _ db).buildJobs rfl]
      exact .refl _

/-- A statement that does not answer with a deployment's row writes none. -/
theorem deployments_shrinks (h : e.writtenDeployment (handleDb want now e db).1 = none) :
    db.deployments.Shrinks (handleDb want now e db).2.deployments := by
  cases e with
  | insertDeployment tenantId buildJobId name status replicaCount =>
      simp only [handleDb, Database.insertDeployment] at h ⊢
      split
      · exact shrinks_reserve _ _
      · rename_i hrefs
        rw [if_neg hrefs] at h
        cases h
  | commitDeployment id status =>
      simp only [handleDb, Database.commitDeployment] at h ⊢
      split
      · exact .refl _
      · rename_i hrow
        simp only [hrow] at h
        cases h
  | deleteTenant id =>
      rcases db.deleteTenant_snd id with heq | hok
      · simp only [handleDb, heq]
        exact .refl _
      · simp only [handleDb, (Database.cascadeTenant_ok hok).2.2.2.1]
        exact shrinks_keep _ _
  | _ =>
      rw [(handleDb_sameOutside want now _ db).deployments rfl]
      exact .refl _

/-- Namespaces are named by the ids of their tenants. -/
def NamesNamespaces (db : Database) : Prop :=
  ∀ id tenant, db.tenants.get id = some tenant → tenant.k8sNamespace = tenantNamespace id

theorem namesNamespaces_step {τ : History} (h : NamesNamespaces db) (hmay : mayDb τ e) :
    NamesNamespaces (handleDb want now e db).2 := by
  intro id tenant hget
  cases e with
  | flushTenant name ns =>
      simp only [handleDb, Database.flushTenant] at hget
      split at hget
      · exact h id tenant hget
      · split at hget <;> exact h id tenant hget
  | commitTenant key name ns keyName keyPrefix keyHash =>
      have hns : ns = tenantNamespace key := hmay
      simp only [handleDb, Database.commitTenant] at hget
      split at hget
      · exact h id tenant hget
      · split at hget
        · exact h id tenant hget
        · split at hget
          · exact h id tenant hget
          · simp only [Table.get_put] at hget
            split at hget
            · rename_i heq
              cases hget
              rw [heq]
              exact hns
            · exact h id tenant hget
  | updateTenant key changes =>
      simp only [handleDb, Database.updateTenant] at hget
      split at hget
      · exact h id tenant hget
      · rename_i old hold
        split at hget
        · exact h id tenant hget
        · split at hget
          · exact h id tenant hget
          · simp only [Table.get_put] at hget
            split at hget
            · rename_i heq
              cases hget
              rw [heq]
              exact h key old hold
            · exact h id tenant hget
  | deleteTenant key =>
      rcases db.deleteTenant_snd key with heq | hok
      · simp only [handleDb, heq] at hget
        exact h id tenant hget
      · simp only [handleDb, (Database.cascadeTenant_ok hok).1, Table.get_keep] at hget
        exact h id tenant (Option.filter_eq_some_iff.mp hget).1
  | _ =>
      rw [(handleDb_sameOutside want now _ db).tenants rfl] at hget
      exact h id tenant hget

end Rows

end TenantPlatform
