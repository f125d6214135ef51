import TenantPlatform.Data.View
import TenantPlatform.Model.Routes
import TenantPlatform.Verification.Cluster.Objects

/-! # What a tenant sees and what it can change

Two worlds agree for a tenant when its rows and the objects of its namespace are the same,
and so is the cluster DNS Service, which is nobody's. A confined call is answered alike in
such worlds, leaves them so, and touches nothing else. -/

namespace TenantPlatform

open Effect

/-! ## Agreement -/

structure Database.Agree (t : ℕ) (db db' : Database) : Prop where
  tenant : db.tenants.get t = db'.tenants.get t
  apiKeys : db.apiKeys.SameRows (fun k => k.tenantId = t) db'.apiKeys
  buildJobs : db.buildJobs.SameRows (fun b => b.tenantId = t) db'.buildJobs
  deployments : db.deployments.SameRows (fun d => d.tenantId = t) db'.deployments
  webhookRegistrations :
    db.webhookRegistrations.SameRows (fun w => w.tenantId = t) db'.webhookRegistrations
  webhookDeliveries : db.webhookDeliveries.SameRows (fun d => d.tenantId = t) db'.webhookDeliveries

structure Cluster.Agree (ns : String) (c c' : Cluster) : Prop where
  objects : ∀ k name, c.objects k ns name = c'.objects k ns name
  namespaceObject : c.objects .ns "" ns = c'.objects .ns "" ns
  imageStatus : c.imageStatus ns = c'.imageStatus ns
  rollout : c.rollout ns = c'.rollout ns
  dns : c.objects .service "kube-system" "kube-dns" = c'.objects .service "kube-system" "kube-dns"
  dnsIp : c.clusterIp "kube-system" "kube-dns" = c'.clusterIp "kube-system" "kube-dns"

/-- The rows of others, and the tenants themselves, are as they were. -/
structure Database.Untouched (t : ℕ) (db db' : Database) : Prop where
  tenants : db'.tenants.get = db.tenants.get
  apiKeys : db.apiKeys.SameRows (fun k => k.tenantId ≠ t) db'.apiKeys
  buildJobs : db.buildJobs.SameRows (fun b => b.tenantId ≠ t) db'.buildJobs
  deployments : db.deployments.SameRows (fun d => d.tenantId ≠ t) db'.deployments
  webhookRegistrations :
    db.webhookRegistrations.SameRows (fun w => w.tenantId ≠ t) db'.webhookRegistrations
  webhookDeliveries : db.webhookDeliveries.SameRows (fun d => d.tenantId ≠ t) db'.webhookDeliveries

/-- Every other namespace is as it was, with all that is in it. -/
structure Cluster.Untouched (ns : String) (c c' : Cluster) : Prop where
  objects : ∀ k ns' name, ns' ≠ ns → ¬ (k = .ns ∧ ns' = "" ∧ name = ns) →
    c'.objects k ns' name = c.objects k ns' name
  clusterIp : c'.clusterIp = c.clusterIp
  imageStatus : ∀ ns', ns' ≠ ns → c'.imageStatus ns' = c.imageStatus ns'
  rollout : ∀ ns', ns' ≠ ns → c'.rollout ns' = c.rollout ns'

/-- Both databases give out the same keys when the sequences stand at `want` or further. -/
structure Database.SameFresh (want : ℕ) (db db' : Database) : Prop where
  apiKeys : db.apiKeys.SameFresh want db'.apiKeys
  buildJobs : db.buildJobs.SameFresh want db'.buildJobs
  deployments : db.deployments.SameFresh want db'.deployments
  webhookRegistrations : db.webhookRegistrations.SameFresh want db'.webhookRegistrations
  webhookDeliveries : db.webhookDeliveries.SameFresh want db'.webhookDeliveries

/-- No other tenant has a key with this hash. -/
def Database.Unclaimed (t : ℕ) (db : Database) (keyHash : String) : Prop :=
  ∀ id row, db.apiKeys.get id = some row → row.tenantId ≠ t → row.keyHash ≠ keyHash

/-- What the outcome has to offer is as new in the one database as in the other. -/
structure Outcome.NewIn (cfg : Settings) (t : ℕ) (o : Outcome) (db db' : Database) : Prop where
  fresh : db.SameFresh o.want db'
  left : db.Unclaimed t (cfg.hashApiKey ("mtp_" ++ o.token))
  right : db'.Unclaimed t (cfg.hashApiKey ("mtp_" ++ o.token))

/-! ## Confined calls -/

/-- A row that a call names by its key alone. -/
inductive Ref where
  | apiKey (id : ℕ)
  | buildJob (id : ℕ)
  | deployment (id : ℕ)
  | webhookRegistration (id : ℕ)
deriving DecidableEq, Repr

/-- The row exists and is the tenant's. -/
def Database.Owns (t : ℕ) (db : Database) : Ref → Prop
  | .apiKey id => ∃ row, db.apiKeys.get id = some row ∧ row.tenantId = t
  | .buildJob id => ∃ row, db.buildJobs.get id = some row ∧ row.tenantId = t
  | .deployment id => ∃ row, db.deployments.get id = some row ∧ row.tenantId = t
  | .webhookRegistration id => ∃ row, db.webhookRegistrations.get id = some row ∧ row.tenantId = t

variable (t : ℕ) (ns : String) (unused : String → Prop) (own : Ref → Prop)

def DbCall.confined : DbCall → Prop
  | .getTenant id | .selectApiKey id _ | .selectApiKeys id | .insertBuildJob id .. |
    .selectBuildJob id _ | .selectBuildJobs id .. | .selectDeployment id _ |
    .selectDeployments id .. | .insertWebhookRegistration id .. | .selectWebhookRegistrations id |
    .selectActiveWebhookRegistrations id =>
      id = t
  | .insertApiKey id _ _ keyHash => id = t ∧ unused keyHash
  | .revokeApiKey id _ => own (.apiKey id)
  | .getBuildJob id => own (.buildJob id.toNat)
  | .commitBuildJob id _ => own (.buildJob id)
  | .insertDeployment id buildJobId .. => id = t ∧ own (.buildJob buildJobId)
  | .getDeployment id | .commitDeployment id _ => own (.deployment id)
  | .commitWebhookDeliveries rows =>
      ∀ d ∈ rows, d.tenantId = t ∧ own (.webhookRegistration d.webhookRegistrationId)
  | _ => False

def K8sCall.confined : K8sCall → Prop
  | .create k ns' name _ => ns' = ns ∨ k = .ns ∧ ns' = "" ∧ name = ns
  | .patchDeployment ns' .. | .readImage ns' .. | .readDeployment ns' .. | .createToken ns' .. =>
      ns' = ns
  | .readService ns' name => ns' = "kube-system" ∧ name = "kube-dns"

/-- The call is about the tenant's rows or its namespace. -/
def Call.confined : Call → Prop
  | .db e => e.confined t unused own
  | .k8s e => e.confined ns
  | .sys _ => True

/-! ## Statements -/

/-- The same change is made in both databases, and it is one of the tenant's rows. -/
structure Database.SameChange (t : ℕ) (db db' s s' : Database) : Prop where
  tenants : s.tenants = db.tenants ∧ s'.tenants = db'.tenants
  apiKeys : Table.SameChange (fun k => k.tenantId = t) db.apiKeys db'.apiKeys s.apiKeys s'.apiKeys
  buildJobs : Table.SameChange (fun b => b.tenantId = t) db.buildJobs db'.buildJobs s.buildJobs
    s'.buildJobs
  deployments : Table.SameChange (fun d => d.tenantId = t) db.deployments db'.deployments
    s.deployments s'.deployments
  webhookRegistrations : Table.SameChange (fun w => w.tenantId = t) db.webhookRegistrations
    db'.webhookRegistrations s.webhookRegistrations s'.webhookRegistrations
  webhookDeliveries : Table.SameChange (fun d => d.tenantId = t) db.webhookDeliveries
    db'.webhookDeliveries s.webhookDeliveries s'.webhookDeliveries

section Db

variable {t unused own} {cfg : Settings} {db db' : Database} {o : Outcome} {e : DbCall}

namespace Database.SameChange

theorem refl : SameChange t db db' db db' :=
  ⟨⟨rfl, rfl⟩, .same, .same, .same, .same, .same⟩

theorem inApiKeys {T U : Table ApiKey}
    (h : Table.SameChange (fun k => k.tenantId = t) db.apiKeys db'.apiKeys T U) :
    SameChange t db db' { db with apiKeys := T } { db' with apiKeys := U } :=
  ⟨⟨rfl, rfl⟩, h, .same, .same, .same, .same⟩

theorem inBuildJobs {T U : Table BuildJob}
    (h : Table.SameChange (fun b => b.tenantId = t) db.buildJobs db'.buildJobs T U) :
    SameChange t db db' { db with buildJobs := T } { db' with buildJobs := U } :=
  ⟨⟨rfl, rfl⟩, .same, h, .same, .same, .same⟩

theorem inDeployments {T U : Table Deployment}
    (h : Table.SameChange (fun d => d.tenantId = t) db.deployments db'.deployments T U) :
    SameChange t db db' { db with deployments := T } { db' with deployments := U } :=
  ⟨⟨rfl, rfl⟩, .same, .same, h, .same, .same⟩

theorem inWebhookRegistrations {T U : Table WebhookRegistration}
    (h : Table.SameChange (fun w => w.tenantId = t) db.webhookRegistrations
      db'.webhookRegistrations T U) :
    SameChange t db db' { db with webhookRegistrations := T }
      { db' with webhookRegistrations := U } :=
  ⟨⟨rfl, rfl⟩, .same, .same, .same, h, .same⟩

theorem inWebhookDeliveries {T U : Table WebhookDelivery}
    (h : Table.SameChange (fun d => d.tenantId = t) db.webhookDeliveries db'.webhookDeliveries
      T U) :
    SameChange t db db' { db with webhookDeliveries := T } { db' with webhookDeliveries := U } :=
  ⟨⟨rfl, rfl⟩, .same, .same, .same, .same, h⟩

variable {s s' : Database}

theorem agree (hs : SameChange t db db' s s') (h : db.Agree t db') : s.Agree t s' where
  tenant := by rw [hs.tenants.1, hs.tenants.2, h.tenant]
  apiKeys := hs.apiKeys.sameRows h.apiKeys
  buildJobs := hs.buildJobs.sameRows h.buildJobs
  deployments := hs.deployments.sameRows h.deployments
  webhookRegistrations := hs.webhookRegistrations.sameRows h.webhookRegistrations
  webhookDeliveries := hs.webhookDeliveries.sameRows h.webhookDeliveries

theorem left (hs : SameChange t db db' s s') : db.Untouched t s where
  tenants := by rw [hs.tenants.1]
  apiKeys := hs.apiKeys.left (by simp)
  buildJobs := hs.buildJobs.left (by simp)
  deployments := hs.deployments.left (by simp)
  webhookRegistrations := hs.webhookRegistrations.left (by simp)
  webhookDeliveries := hs.webhookDeliveries.left (by simp)

theorem right (hs : SameChange t db db' s s') : db'.Untouched t s' where
  tenants := by rw [hs.tenants.2]
  apiKeys := hs.apiKeys.right (by simp)
  buildJobs := hs.buildJobs.right (by simp)
  deployments := hs.deployments.right (by simp)
  webhookRegistrations := hs.webhookRegistrations.right (by simp)
  webhookDeliveries := hs.webhookDeliveries.right (by simp)

theorem sameFresh (hs : SameChange t db db' s s') {want : ℕ} (h : db.SameFresh want db') :
    s.SameFresh want s' where
  apiKeys := hs.apiKeys.sameFresh h.apiKeys
  buildJobs := hs.buildJobs.sameFresh h.buildJobs
  deployments := hs.deployments.sameFresh h.deployments
  webhookRegistrations := hs.webhookRegistrations.sameFresh h.webhookRegistrations
  webhookDeliveries := hs.webhookDeliveries.sameFresh h.webhookDeliveries

theorem owns (hs : SameChange t db db' s s') {ref : Ref} (h : db.Owns t ref) : s.Owns t ref := by
  cases ref with
  | apiKey id =>
      obtain ⟨row, hrow, ht⟩ := h
      obtain ⟨row', hrow', ht'⟩ := hs.apiKeys.stays hrow (decide_eq_true ht)
      exact ⟨row', hrow', of_decide_eq_true ht'⟩
  | buildJob id =>
      obtain ⟨row, hrow, ht⟩ := h
      obtain ⟨row', hrow', ht'⟩ := hs.buildJobs.stays hrow (decide_eq_true ht)
      exact ⟨row', hrow', of_decide_eq_true ht'⟩
  | deployment id =>
      obtain ⟨row, hrow, ht⟩ := h
      obtain ⟨row', hrow', ht'⟩ := hs.deployments.stays hrow (decide_eq_true ht)
      exact ⟨row', hrow', of_decide_eq_true ht'⟩
  | webhookRegistration id =>
      obtain ⟨row, hrow, ht⟩ := h
      obtain ⟨row', hrow', ht'⟩ := hs.webhookRegistrations.stays hrow (decide_eq_true ht)
      exact ⟨row', hrow', of_decide_eq_true ht'⟩

end Database.SameChange

theorem lookupInt_filter {α : Type} {p : α → Bool} {T U : Table α} (h : T.SameRows p U) (id : ℤ) :
    (lookupInt T id).map (fun r => r.filter (fun a => p a.2)) =
      (lookupInt U id).map (fun r => r.filter (fun a => p a.2)) := by
  have hswap : ∀ (n : ℕ) (r : Option α), (r.map (fun a => (n, a))).filter (fun a => p a.2) =
      (r.filter p).map (fun a => (n, a)) := by
    rintro n (_ | a)
    · rfl
    · by_cases ha : p a = true <;> simp [Option.filter_some, ha]
  unfold lookupInt
  split
  · split
    · simp only [Except.map, hswap, h id.toNat]
    · rfl
  · rfl

theorem anyRow_congr {α : Type} {p : α → Bool} {T U : Table α} (h : T.SameRows p U) :
    anyRow T p = anyRow U p := by
  rw [anyRow, anyRow, h.select (fun _ h => h)]

/-- The constraints on a new key come out the same. -/
theorem keyViolation_congr (name keyPrefix : String) {keyHash : String}
    (hrows : db.apiKeys.SameRows (fun k => k.tenantId = t) db'.apiKeys)
    (hleft : db.Unclaimed t keyHash) (hright : db'.Unclaimed t keyHash) :
    db.keyViolation t name keyPrefix keyHash = db'.keyViolation t name keyPrefix keyHash := by
  have hhash : db.apiKeys.SameRows (fun k => k.keyHash = keyHash) db'.apiKeys := by
    refine hrows.mono (fun id row hrow hp => ?_) (fun id row hrow hp => ?_)
    · by_contra hne
      exact hleft id row hrow (by simpa using hne) (by simpa using hp)
    · by_contra hne
      exact hright id row hrow (by simpa using hne) (by simpa using hp)
  have hname : db.apiKeys.SameRows (fun k => k.tenantId = t && k.name = name) db'.apiKeys :=
    hrows.mono (fun _ _ _ hp => (Bool.and_eq_true_iff.mp hp).1)
      (fun _ _ _ hp => (Bool.and_eq_true_iff.mp hp).1)
  rw [Database.keyViolation, Database.keyViolation, anyRow_congr hhash, anyRow_congr hname]

theorem Database.Untouched.refl (t : ℕ) (db : Database) : db.Untouched t db :=
  ⟨rfl, .refl _ _, .refl _ _, .refl _ _, .refl _ _, .refl _ _⟩

theorem Database.Untouched.trans {db₁ db₂ : Database} (h : db.Untouched t db₁)
    (h' : db₁.Untouched t db₂) : db.Untouched t db₂ where
  tenants := h'.tenants.trans h.tenants
  apiKeys := h.apiKeys.trans h'.apiKeys
  buildJobs := h.buildJobs.trans h'.buildJobs
  deployments := h.deployments.trans h'.deployments
  webhookRegistrations := h.webhookRegistrations.trans h'.webhookRegistrations
  webhookDeliveries := h.webhookDeliveries.trans h'.webhookDeliveries

theorem Database.Untouched.unclaimed (h : db.Untouched t db') {keyHash : String}
    (hdb : db.Unclaimed t keyHash) : db'.Unclaimed t keyHash :=
  fun id row hrow hne => hdb id row (h.apiKeys.symm.get hrow (decide_eq_true hne)) hne

theorem Database.Agree.own_apiKey (h : db.Agree t db') {id : ℕ} (hown : db.Owns t (.apiKey id)) :
    ∃ row, db.apiKeys.get id = some row ∧ db'.apiKeys.get id = some row ∧ row.tenantId = t := by
  obtain ⟨row, hrow, ht⟩ := hown
  exact ⟨row, hrow, h.apiKeys.get hrow (decide_eq_true ht), ht⟩

theorem Database.Agree.own_buildJob (h : db.Agree t db') {id : ℕ}
    (hown : db.Owns t (.buildJob id)) :
    ∃ row, db.buildJobs.get id = some row ∧ db'.buildJobs.get id = some row ∧ row.tenantId = t := by
  obtain ⟨row, hrow, ht⟩ := hown
  exact ⟨row, hrow, h.buildJobs.get hrow (decide_eq_true ht), ht⟩

theorem Database.Agree.own_deployment (h : db.Agree t db') {id : ℕ}
    (hown : db.Owns t (.deployment id)) :
    ∃ row, db.deployments.get id = some row ∧ db'.deployments.get id = some row ∧
      row.tenantId = t := by
  obtain ⟨row, hrow, ht⟩ := hown
  exact ⟨row, hrow, h.deployments.get hrow (decide_eq_true ht), ht⟩

theorem Database.Agree.own_webhookRegistration (h : db.Agree t db') {id : ℕ}
    (hown : db.Owns t (.webhookRegistration id)) :
    (db.webhookRegistrations.get id).isSome ∧ (db'.webhookRegistrations.get id).isSome := by
  obtain ⟨row, hrow, ht⟩ := hown
  exact ⟨by rw [hrow]; rfl, by rw [h.webhookRegistrations.get hrow (decide_eq_true ht)]; rfl⟩

/-- A confined statement is answered alike and makes the same change. -/
theorem confined_db (hc : e.confined t unused own) (h : db.Agree t db')
    (hown : ∀ ref, own ref → db.Owns t ref)
    (hunused : ∀ keyHash, unused keyHash → db.Unclaimed t keyHash ∧ db'.Unclaimed t keyHash)
    (hfresh : db.SameFresh o.want db') :
    (handleDb o.want o.now e db).1 = (handleDb o.want o.now e db').1 ∧
      Database.SameChange t db db' (handleDb o.want o.now e db).2
        (handleDb o.want o.now e db').2 := by
  obtain ⟨hkeys, hbuilds, hdeployments, hhooks, hdeliveries⟩ := hfresh
  cases e with
  | getTenant id =>
      obtain rfl : id = t := hc
      exact ⟨h.tenant, .refl⟩
  | selectApiKey id keyId =>
      obtain rfl : id = t := hc
      exact ⟨lookupInt_filter h.apiKeys keyId, .refl⟩
  | selectApiKeys id =>
      obtain rfl : id = t := hc
      exact ⟨h.apiKeys.select (fun _ h => h), .refl⟩
  | selectBuildJob id buildJobId =>
      obtain rfl : id = t := hc
      exact ⟨lookupInt_filter h.buildJobs buildJobId, .refl⟩
  | selectBuildJobs id limit offset =>
      obtain rfl : id = t := hc
      refine ⟨?_, .refl⟩
      simp only [handleDb, h.buildJobs.select (fun _ h => h)]
  | selectDeployment id deploymentId =>
      obtain rfl : id = t := hc
      exact ⟨lookupInt_filter h.deployments deploymentId, .refl⟩
  | selectDeployments id limit offset =>
      obtain rfl : id = t := hc
      refine ⟨?_, .refl⟩
      simp only [handleDb, h.deployments.select (fun _ h => h)]
  | selectWebhookRegistrations id =>
      obtain rfl : id = t := hc
      exact ⟨h.webhookRegistrations.select (fun _ h => h), .refl⟩
  | selectActiveWebhookRegistrations id =>
      obtain rfl : id = t := hc
      refine ⟨h.webhookRegistrations.select (fun _ h => ?_), .refl⟩
      exact (Bool.and_eq_true_iff.mp h).1
  | getBuildJob id =>
      obtain ⟨row, hrow, hrow', -⟩ := h.own_buildJob (hown _ hc)
      exact ⟨by simp only [handleDb, lookupInt, hrow, hrow'], .refl⟩
  | getDeployment id =>
      obtain ⟨row, hrow, hrow', -⟩ := h.own_deployment (hown _ hc)
      exact ⟨hrow.trans hrow'.symm, .refl⟩
  | commitWebhookDeliveries rows =>
      have hall : rows.all (fun d => (db.webhookRegistrations.get d.webhookRegistrationId).isSome &&
            (db.tenants.get d.tenantId).isSome && fits 50 d.event && fits 64 d.signature &&
            d.timestamp < 2147483648 && d.errorMessage.all noNul) =
          rows.all (fun d => (db'.webhookRegistrations.get d.webhookRegistrationId).isSome &&
            (db'.tenants.get d.tenantId).isSome && fits 50 d.event && fits 64 d.signature &&
            d.timestamp < 2147483648 && d.errorMessage.all noNul) := by
        rw [Bool.eq_iff_iff, List.all_eq_true, List.all_eq_true]
        refine forall₂_congr (fun d hd => ?_)
        obtain ⟨ht, href⟩ := hc d hd
        obtain ⟨hsome, hsome'⟩ := h.own_webhookRegistration (hown _ href)
        rw [hsome, hsome', ht, h.tenant]
      simp only [handleDb, Database.commitWebhookDeliveries, ← hall]
      split
      · exact ⟨rfl, .inWebhookDeliveries
          (.insertAll hdeliveries (fun d hd => decide_eq_true (hc d hd).1))⟩
      · exact ⟨rfl, .refl⟩
  | insertApiKey id name keyPrefix keyHash =>
      obtain ⟨rfl, hhash⟩ : id = t ∧ unused keyHash := hc
      obtain ⟨hleft, hright⟩ := hunused keyHash hhash
      have hviolation := keyViolation_congr name keyPrefix h.apiKeys hleft hright
      simp only [handleDb, Database.insertApiKey, ← hviolation, ← h.tenant]
      cases db.keyViolation id name keyPrefix keyHash with
      | some x => exact ⟨rfl, .inApiKeys (.reserve o.want hkeys)⟩
      | none =>
          dsimp only
          split
          · exact ⟨rfl, .inApiKeys (.reserve o.want hkeys)⟩
          · exact ⟨by rw [hkeys], .inApiKeys (.insert hkeys (decide_eq_true rfl))⟩
  | revokeApiKey id revokedAt =>
      obtain ⟨row, hrow, hrow', ht⟩ := h.own_apiKey (hown _ hc)
      simp only [handleDb, Database.revokeApiKey, hrow, hrow']
      refine ⟨trivial, .inApiKeys (.put id _ (decide_eq_true ht) ?_ ?_)⟩
      · exact fun b hb => decide_eq_true (Option.some.inj (hrow.symm.trans hb) ▸ ht)
      · exact fun b hb => decide_eq_true (Option.some.inj (hrow'.symm.trans hb) ▸ ht)
  | insertBuildJob id gitUrl gitRevision gitSubPath status =>
      obtain rfl : id = t := hc
      simp only [handleDb, Database.insertBuildJob, ← h.tenant]
      split
      · exact ⟨rfl, .inBuildJobs (.reserve o.want hbuilds)⟩
      · split
        · exact ⟨rfl, .inBuildJobs (.reserve o.want hbuilds)⟩
        · exact ⟨by rw [hbuilds], .inBuildJobs (.insert hbuilds (decide_eq_true rfl))⟩
  | commitBuildJob id changes =>
      obtain ⟨row, hrow, hrow', ht⟩ := h.own_buildJob (hown _ hc)
      simp only [handleDb, Database.commitBuildJob, hrow, hrow']
      split
      · exact ⟨rfl, .refl⟩
      · refine ⟨rfl, .inBuildJobs (.put id _ (decide_eq_true ht) ?_ ?_)⟩
        · exact fun b hb => decide_eq_true (Option.some.inj (hrow.symm.trans hb) ▸ ht)
        · exact fun b hb => decide_eq_true (Option.some.inj (hrow'.symm.trans hb) ▸ ht)
  | insertDeployment id buildJobId name status replicaCount =>
      obtain ⟨rfl, hbuild⟩ : id = t ∧ own (.buildJob buildJobId) := hc
      obtain ⟨row, hrow, hrow', ht⟩ := h.own_buildJob (hown _ hbuild)
      simp only [handleDb, Database.insertDeployment, ← h.tenant, hrow, hrow']
      split
      · exact ⟨rfl, .inDeployments (.reserve o.want hdeployments)⟩
      · exact ⟨by rw [hdeployments],
          .inDeployments (.insert hdeployments (decide_eq_true rfl))⟩
  | commitDeployment id status =>
      obtain ⟨row, hrow, hrow', ht⟩ := h.own_deployment (hown _ hc)
      simp only [handleDb, Database.commitDeployment, hrow, hrow']
      refine ⟨trivial, .inDeployments (.put id _ (decide_eq_true ht) ?_ ?_)⟩
      · exact fun b hb => decide_eq_true (Option.some.inj (hrow.symm.trans hb) ▸ ht)
      · exact fun b hb => decide_eq_true (Option.some.inj (hrow'.symm.trans hb) ▸ ht)
  | insertWebhookRegistration id callbackUrl signingSecret =>
      obtain rfl : id = t := hc
      simp only [handleDb, Database.insertWebhookRegistration, ← h.tenant]
      split
      · exact ⟨rfl, .inWebhookRegistrations (.reserve o.want hhooks)⟩
      · split
        · exact ⟨rfl, .inWebhookRegistrations (.reserve o.want hhooks)⟩
        · exact ⟨by rw [hhooks], .inWebhookRegistrations (.insert hhooks (decide_eq_true rfl))⟩
  | _ => exact hc.elim

end Db

/-! ## Calls of the cluster -/

section K8s

variable {ns : String} {c c' : Cluster}

/-- The same object is stored in both clusters, and it is in the namespace or is it. -/
inductive Cluster.SameChange (ns : String) (c c' : Cluster) : Cluster → Cluster → Prop where
  | same : SameChange ns c c' c c'
  | put (k : Kind) (ns' name : String) (b : Body k)
      (h : ns' = ns ∨ k = .ns ∧ ns' = "" ∧ name = ns) :
      SameChange ns c c' (c.put k ns' name b) (c'.put k ns' name b)
  | setSpec (name : String) (d new : DeploymentBody) :
      SameChange ns c c' (c.setSpec ns name d new) (c'.setSpec ns name d new)

theorem Cluster.objects_put_congr {k k' : Kind} {ns₁ ns₂ name name' : String} (b : Body k)
    (h : c.objects k' ns₂ name' = c'.objects k' ns₂ name') :
    (c.put k ns₁ name b).objects k' ns₂ name' = (c'.put k ns₁ name b).objects k' ns₂ name' := by
  by_cases heq : k' = k ∧ ns₂ = ns₁ ∧ name' = name
  · obtain ⟨rfl, rfl, rfl⟩ := heq
    rw [objects_put_self, objects_put_self]
  · rw [objects_put_of_ne c b heq, objects_put_of_ne c' b heq, h]

theorem Cluster.Agree.put (h : c.Agree ns c') (k : Kind) (ns' name : String) (b : Body k) :
    (c.put k ns' name b).Agree ns (c'.put k ns' name b) where
  objects k' name' := objects_put_congr b (h.objects k' name')
  namespaceObject := objects_put_congr b h.namespaceObject
  imageStatus := by
    funext name'
    simp only [Cluster.put, congrFun h.imageStatus name']
  rollout := by
    funext name'
    simp only [Cluster.put, congrFun h.rollout name']
  dns := objects_put_congr b h.dns
  dnsIp := h.dnsIp

theorem Cluster.Agree.setSpec (h : c.Agree ns c') (name : String) (d new : DeploymentBody) :
    (c.setSpec ns name d new).Agree ns (c'.setSpec ns name d new) where
  objects := (h.put .deployment ns name new).objects
  namespaceObject := (h.put .deployment ns name new).namespaceObject
  imageStatus := h.imageStatus
  rollout := by
    funext name'
    simp only [Cluster.setSpec, congrFun h.rollout name']
  dns := (h.put .deployment ns name new).dns
  dnsIp := h.dnsIp

theorem Cluster.untouched_put {k : Kind} {ns' name : String} (b : Body k)
    (h : ns' = ns ∨ k = .ns ∧ ns' = "" ∧ name = ns) :
    c.Untouched ns (c.put k ns' name b) where
  objects k₁ ns₁ name₁ hne hns₁ := by
    refine objects_put_of_ne c b ?_
    rintro ⟨rfl, rfl, rfl⟩
    exact h.elim hne hns₁
  clusterIp := rfl
  imageStatus ns₁ hne := by
    funext name₁
    simp only [Cluster.put]
    refine if_neg ?_
    rintro ⟨rfl, rfl, rfl⟩
    exact h.elim hne (fun h => by cases h.1)
  rollout ns₁ hne := by
    funext name₁
    simp only [Cluster.put]
    refine if_neg ?_
    rintro ⟨rfl, rfl, rfl⟩
    exact h.elim hne (fun h => by cases h.1)

theorem Cluster.untouched_setSpec (name : String) (d new : DeploymentBody) :
    c.Untouched ns (c.setSpec ns name d new) where
  objects k₁ ns₁ name₁ hne _ := by
    rw [objects_setSpec]
    exact c.objects_put_of_ne (k := .deployment) new (fun h => hne h.2.1)
  clusterIp := rfl
  imageStatus _ _ := rfl
  rollout ns₁ hne := by
    funext name₁
    simp only [Cluster.setSpec]
    exact if_neg (fun h => hne h.1)

theorem Cluster.Untouched.refl (ns : String) (c : Cluster) : c.Untouched ns c :=
  ⟨fun _ _ _ _ _ => rfl, rfl, fun _ _ => rfl, fun _ _ => rfl⟩

theorem Cluster.Untouched.trans {c₁ c₂ : Cluster} (h : c.Untouched ns c₁)
    (h' : c₁.Untouched ns c₂) : c.Untouched ns c₂ where
  objects k ns' name hne hns :=
    (h'.objects k ns' name hne hns).trans (h.objects k ns' name hne hns)
  clusterIp := h'.clusterIp.trans h.clusterIp
  imageStatus ns' hne := (h'.imageStatus ns' hne).trans (h.imageStatus ns' hne)
  rollout ns' hne := (h'.rollout ns' hne).trans (h.rollout ns' hne)

namespace Cluster.SameChange

variable {s s' : Cluster}

theorem agree (hs : SameChange ns c c' s s') (h : c.Agree ns c') : s.Agree ns s' := by
  cases hs with
  | same => exact h
  | put k ns' name b _ => exact h.put k ns' name b
  | setSpec name d new => exact h.setSpec name d new

theorem left (hs : SameChange ns c c' s s') : c.Untouched ns s := by
  cases hs with
  | same => exact .refl ns c
  | put k ns' name b h => exact untouched_put b h
  | setSpec name d new => exact untouched_setSpec name d new

theorem right (hs : SameChange ns c c' s s') : c'.Untouched ns s' := by
  cases hs with
  | same => exact .refl ns c'
  | put k ns' name b h => exact untouched_put b h
  | setSpec name d new => exact untouched_setSpec name d new

end Cluster.SameChange

/-- A confined API call is answered alike and makes the same change. -/
theorem confined_k8s {e : K8sCall} (hc : e.confined ns) (h : c.Agree ns c') (fault : Option Fault)
    (token : String) : (handleK8s fault token e c).1 = (handleK8s fault token e c').1 ∧
      Cluster.SameChange ns c c' (handleK8s fault token e c).2 (handleK8s fault token e c').2 := by
  cases e with
  | create k ns' name b =>
      have hc : ns' = ns ∨ k = .ns ∧ ns' = "" ∧ name = ns := hc
      have hget : c.objects k ns' name = c'.objects k ns' name := by
        rcases hc with rfl | ⟨rfl, rfl, rfl⟩
        · exact h.objects k name
        · exact h.namespaceObject
      have hhas : c.has k ns' name ↔ c'.has k ns' name := by rw [Cluster.has, Cluster.has, hget]
      have hadmits : c.admits k ns' ↔ c'.admits k ns' := by
        rcases hc with rfl | ⟨rfl, -, -⟩
        · rw [Cluster.admits, Cluster.admits, Cluster.has, Cluster.has, h.namespaceObject]
        · exact ⟨fun _ => .inl rfl, fun _ => .inl rfl⟩
      simp only [handleK8s, Cluster.create, ← hhas, ← hadmits]
      split
      · exact ⟨rfl, .same⟩
      · split
        · refine ⟨rfl, ?_⟩
          dsimp only
          split
          · exact .put k ns' name b hc
          · exact .same
        · split
          · exact ⟨rfl, .put k ns' name b hc⟩
          · exact ⟨rfl, .same⟩
  | patchDeployment ns' name p =>
      obtain rfl : ns' = ns := hc
      simp only [handleK8s, Cluster.patchDeployment, ← h.objects .deployment name]
      cases c.objects .deployment ns' name with
      | none => exact ⟨rfl, .same⟩
      | some d =>
          cases fault with
          | none => exact ⟨rfl, .setSpec name d (p.apply d)⟩
          | some f =>
              refine ⟨rfl, ?_⟩
              dsimp only
              split
              · exact .setSpec name d (p.apply d)
              · exact .same
  | readService ns' name =>
      obtain ⟨rfl, rfl⟩ : ns' = "kube-system" ∧ name = "kube-dns" := hc
      refine ⟨?_, .same⟩
      simp only [handleK8s, h.dns, h.dnsIp]
  | readImage ns' name =>
      obtain rfl : ns' = ns := hc
      refine ⟨?_, .same⟩
      simp only [handleK8s, h.objects .image name, h.imageStatus]
  | readDeployment ns' name =>
      obtain rfl : ns' = ns := hc
      refine ⟨?_, .same⟩
      simp only [handleK8s, h.objects .deployment name, h.rollout]
  | createToken ns' name seconds =>
      obtain rfl : ns' = ns := hc
      refine ⟨?_, .same⟩
      simp only [handleK8s, h.objects .serviceAccount name]

end K8s

end TenantPlatform
