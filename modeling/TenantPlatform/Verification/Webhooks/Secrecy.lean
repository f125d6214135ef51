import TenantPlatform.Data.Projection
import TenantPlatform.Effect.Lockstep
import TenantPlatform.Verification.Jobs.Calls
import TenantPlatform.Verification.Jobs.Settlement
import TenantPlatform.Verification.Webhooks.FanOut

/-! # Signing secrets stay secret

The response that creates a registration shows its signing secret. From then on no response
depends on it: two platforms that differ in the secrets of their registrations, and in what
was signed with them, answer every request alike, whatever has been going on in between. -/

namespace TenantPlatform

open Effect

/-! ## What is left without the secrets -/

def WebhookRegistration.shown (r : WebhookRegistration) : ℕ × String × ℕ × Bool :=
  (r.tenantId, r.callbackUrl, r.createdAt, r.isActive)

/-- The same but for signing secrets, and for the deliveries, which no route shows. -/
structure Database.SameButSecrets (db db' : Database) : Prop where
  tenants : db'.tenants = db.tenants
  apiKeys : db'.apiKeys = db.apiKeys
  buildJobs : db'.buildJobs = db.buildJobs
  deployments : db'.deployments = db.deployments
  webhookRegistrations :
    db.webhookRegistrations.SameThrough WebhookRegistration.shown db'.webhookRegistrations

structure World.SameButSecrets (w w' : World) : Prop where
  db : w.db.SameButSecrets w'.db
  cluster : w'.cluster = w.cluster

/-- Calls whose answers do not depend on secrets. -/
def Call.blind : Call → Bool
  | .db (.selectWebhookRegistrations _) | .db (.selectActiveWebhookRegistrations _)
  | .db (.commitWebhookDeliveries _) => false
  | _ => true

section Statement

variable {db db' : Database}

/-- What the foreign keys do when a tenant goes. -/
theorem Database.cascadeTenant_eq (db : Database) (t : ℕ) :
    db.cascadeTenant t =
      if anyRow db.deployments
        (fun d => (db.buildJobs.get d.buildJobId).any (fun r => r.tenantId = t)) then
        .error foreignKeyViolation
      else .ok
        { tenants := db.tenants.keep (fun j _ => j ≠ t)
          apiKeys := db.apiKeys.keep (fun _ k => k.tenantId ≠ t)
          buildJobs := db.buildJobs.keep (fun _ b => b.tenantId ≠ t)
          deployments := db.deployments.keep (fun _ d => d.tenantId ≠ t)
          webhookRegistrations := db.webhookRegistrations.keep (fun _ w => w.tenantId ≠ t)
          webhookDeliveries := (db.webhookDeliveries.keep (fun _ d =>
            !(db.webhookRegistrations.get d.webhookRegistrationId).any
              (fun w => w.tenantId = t))).keep (fun _ d => d.tenantId ≠ t) } := by
  simp only [cascadeTenant, deleteBuildJobs]
  split
  · rfl
  · rfl

theorem Database.SameButSecrets.statement (h : db.SameButSecrets db') (want now : ℕ) {e : DbCall}
    (he : (Call.db e).blind = true) :
    (handleDb want now e db).1 = (handleDb want now e db').1 ∧
      (handleDb want now e db).2.SameButSecrets (handleDb want now e db').2 := by
  obtain ⟨tenants, apiKeys, buildJobs, deployments, registrations, deliveries⟩ := db
  obtain ⟨tenants', apiKeys', buildJobs', deployments', registrations', deliveries'⟩ := db'
  obtain ⟨rfl, rfl, rfl, rfl, hr⟩ := h
  have hr : registrations.SameThrough WebhookRegistration.shown registrations' := hr
  cases e with
  | commitTenant id name ns keyName keyPrefix keyHash =>
      have hkey : Database.keyViolation ⟨tenants', apiKeys', buildJobs', deployments',
          registrations', deliveries'⟩ id keyName keyPrefix keyHash =
        Database.keyViolation ⟨tenants', apiKeys', buildJobs', deployments', registrations,
          deliveries⟩ id keyName keyPrefix keyHash := rfl
      simp only [handleDb, Database.commitTenant, hkey]
      repeat' split
      all_goals exact ⟨rfl, rfl, rfl, rfl, rfl, hr⟩
  | insertApiKey tenantId name keyPrefix keyHash =>
      have hkey : Database.keyViolation ⟨tenants', apiKeys', buildJobs', deployments',
          registrations', deliveries'⟩ tenantId name keyPrefix keyHash =
        Database.keyViolation ⟨tenants', apiKeys', buildJobs', deployments', registrations,
          deliveries⟩ tenantId name keyPrefix keyHash := rfl
      simp only [handleDb, Database.insertApiKey, hkey]
      repeat' split
      all_goals exact ⟨rfl, rfl, rfl, rfl, rfl, hr⟩
  | flushTenant name ns =>
      simp only [handleDb, Database.flushTenant]
      repeat' split
      all_goals exact ⟨rfl, rfl, rfl, rfl, rfl, hr⟩
  | updateTenant id changes =>
      simp only [handleDb, Database.updateTenant]
      repeat' split
      all_goals exact ⟨rfl, rfl, rfl, rfl, rfl, hr⟩
  | deleteTenant id =>
      simp only [handleDb, Database.deleteTenant, Database.cascadeTenant_eq]
      cases tenants'.get id with
      | none => exact ⟨rfl, rfl, rfl, rfl, rfl, hr⟩
      | some tenant =>
          by_cases hrestrict : anyRow deployments'
            (fun d => (buildJobs'.get d.buildJobId).any (fun r => r.tenantId = id)) = true
          · simp only [hrestrict, if_true]
            exact ⟨trivial, rfl, rfl, rfl, rfl, hr⟩
          · simp only [hrestrict, Bool.false_eq_true, if_false]
            exact ⟨trivial, rfl, rfl, rfl, rfl,
              hr.keep (q := fun _ shown => shown.1 ≠ id) (fun _ _ => rfl)⟩
  | revokeApiKey id revokedAt =>
      simp only [handleDb, Database.revokeApiKey]
      repeat' split
      all_goals exact ⟨rfl, rfl, rfl, rfl, rfl, hr⟩
  | insertBuildJob tenantId gitUrl gitRevision gitSubPath status =>
      simp only [handleDb, Database.insertBuildJob]
      repeat' split
      all_goals exact ⟨rfl, rfl, rfl, rfl, rfl, hr⟩
  | commitBuildJob id changes =>
      simp only [handleDb, Database.commitBuildJob]
      repeat' split
      all_goals exact ⟨rfl, rfl, rfl, rfl, rfl, hr⟩
  | insertDeployment tenantId buildJobId name status replicaCount =>
      simp only [handleDb, Database.insertDeployment]
      repeat' split
      all_goals exact ⟨rfl, rfl, rfl, rfl, rfl, hr⟩
  | commitDeployment id status =>
      simp only [handleDb, Database.commitDeployment]
      repeat' split
      all_goals exact ⟨rfl, rfl, rfl, rfl, rfl, hr⟩
  | insertWebhookRegistration tenantId callbackUrl signingSecret =>
      simp only [handleDb, Database.insertWebhookRegistration, hr.fresh]
      repeat' split
      · exact ⟨rfl, rfl, rfl, rfl, rfl, hr.reserve want⟩
      · exact ⟨rfl, rfl, rfl, rfl, rfl, hr.reserve want⟩
      · exact ⟨rfl, rfl, rfl, rfl, rfl, hr.put _ _⟩
  | selectWebhookRegistrations tenantId => cases he
  | selectActiveWebhookRegistrations tenantId => cases he
  | commitWebhookDeliveries rows => cases he
  | _ => exact ⟨rfl, rfl, rfl, rfl, rfl, hr⟩

/-- The registrations of a tenant, as far as they are shown. -/
theorem Database.SameButSecrets.registrations (h : db.SameButSecrets db')
    (p : ℕ × String × ℕ × Bool → Bool) :
    (db.webhookRegistrations.select (fun r => p r.shown)).map
        (Prod.map (fun id => id) WebhookRegistration.shown) =
      (db'.webhookRegistrations.select (fun r => p r.shown)).map
        (Prod.map (fun id => id) WebhookRegistration.shown) :=
  (h.webhookRegistrations.select (fun _ => rfl)).symm

end Statement

theorem World.SameButSecrets.step {w w' : World} (h : w.SameButSecrets w') {e : Call}
    (he : e.blind = true) (o : Outcome) :
    (handle e o w).1 = (handle e o w').1 ∧ (handle e o w).2.SameButSecrets (handle e o w').2 := by
  cases e with
  | db e =>
      obtain ⟨hanswer, hnext⟩ := h.db.statement o.want o.now he
      exact ⟨hanswer, hnext, h.cluster⟩
  | k8s e =>
      simp only [handle, h.cluster]
      exact ⟨trivial, h.db, rfl⟩
  | sys e => exact ⟨rfl, h⟩

/-! ## Programs -/

/-- Programs that no secret sets apart. -/
abbrev Unrevealing {α : Type} (p p' : Py α) : Prop :=
  p.Lockstep handle World.SameButSecrets (Prog.Alike (fun a b => a = b)) p'

section Programs

variable {cfg : Settings}

theorem unrevealing_of_uses {α : Type} {p : Py α} {Q : α → Prop}
    (hp : p.Uses (fun e => e.blind = true) Q) : Unrevealing p p :=
  hp.lockstep (fun _ o _ _ he h => h.step he o)

theorem TenantRequest.handle_blind (tenantId : ℕ) (r : TenantRequest)
    (hr : r ≠ .getAllWebhookRegistrations) :
    (r.handle cfg tenantId).Uses (fun e => e.blind = true) (fun _ => True) := by
  cases r with
  | createApiKey body =>
      refine (checked_uses body).bind (fun keyData _ => ?_)
      refine Prog.Uses.bind (M := fun _ => True) (mapSqlErrors_uses _ _ ?_) (fun _ _ => trivial)
      exact ⟨rfl, fun token => ⟨rfl, fun r => by cases r <;> trivial⟩⟩
  | getApiKey keyId => exact ⟨rfl, fun r => by rcases r with x | _ | row <;> trivial⟩
  | getAllApiKeys => exact ⟨rfl, fun r => trivial⟩
  | revokeApiKey keyId =>
      refine ⟨rfl, fun r => ?_⟩
      rcases r with x | _ | ⟨id, row⟩
      · trivial
      · trivial
      · exact ⟨rfl, fun now => ⟨rfl, fun r => by cases r <;> trivial⟩⟩
  | createBuildJob body =>
      refine (checked_uses body).bind (fun buildData _ => ?_)
      refine Prog.Uses.bind (M := fun _ => True) ?_ (fun _ _ => trivial)
      exact createBuildJobService_calls cfg tenantId buildData rfl (fun _ _ => rfl) rfl
        (fun _ _ _ => rfl) (fun _ _ => rfl)
  | getBuildJob buildJobId => exact ⟨rfl, fun r => by rcases r with x | _ | row <;> trivial⟩
  | getAllBuildJobs page => exact (checked_uses page).bind (fun page _ => ⟨rfl, fun r => trivial⟩)
  | createDeployment body =>
      refine (checked_uses body).bind (fun deployData _ => ?_)
      refine Prog.Uses.bind (M := fun _ => True) ?_ (fun _ _ => trivial)
      refine Prog.Uses.tryCatch ?_ (fun e => by cases e <;> trivial)
      exact createDeploymentService_calls tenantId deployData (fun _ _ => rfl) (fun _ => rfl) rfl
        (fun _ _ => rfl) (fun _ _ => rfl)
  | getDeployment deploymentId => exact ⟨rfl, fun r => by rcases r with x | _ | row <;> trivial⟩
  | getAllDeployments page =>
      exact (checked_uses page).bind (fun page _ => ⟨rfl, fun r => trivial⟩)
  | createWebhookRegistration body =>
      refine (checked_uses body).bind (fun regData _ => ⟨rfl, fun secret => ⟨rfl, fun r => ?_⟩⟩)
      cases r <;> trivial
  | getAllWebhookRegistrations => exact absurd rfl hr
  | getKubeconfig =>
      have hcalls : (Routes.getKubeconfig cfg tenantId).Uses (fun e => e.blind = true)
          (fun reply => reply.2 = none) := getKubeconfig_calls cfg tenantId rfl (fun _ _ => rfl) rfl
      exact hcalls.mono (fun _ h => h) (fun _ _ => trivial)

theorem AdminRequest.handle_blind (r : AdminRequest) :
    (r.handle cfg).Uses (fun e => e.blind = true) (fun _ => True) :=
  (r.handle_calls cfg).mono (fun _ he => by rcases he with ⟨_ | _ | _ | _⟩ | _ | _ | _ <;> rfl)
    (fun _ _ => trivial)

/-- The list of registrations shows no secret. -/
theorem webhookRegistrations_unrevealing (tenantId : ℕ) :
    Unrevealing (TenantRequest.getAllWebhookRegistrations.handle cfg tenantId)
      (TenantRequest.getAllWebhookRegistrations.handle cfg tenantId) := by
  intro o w w' h
  refine ⟨h, ?_⟩
  have hshown := congrArg
    (List.map (fun r : ℕ × ℕ × String × ℕ × Bool =>
      (⟨r.1, r.2.1, r.2.2.1, r.2.2.2.1, r.2.2.2.2⟩ : WebhookRegistrationResponse)))
    (h.db.registrations (fun shown => shown.1 = tenantId))
  rw [List.map_map, List.map_map] at hshown
  exact congrArg (fun rs => ((⟨200, .webhookRegistrations rs⟩, none) : Reply)) hshown

theorem Request.serve_unrevealing (adminSecretKey : String) (r : Request) :
    Unrevealing (r.serve cfg adminSecretKey) (r.serve cfg adminSecretKey) := by
  refine Prog.Lockstep.tryCatch ?_ (fun e => rfl)
  cases r with
  | tenant n xApiKey r =>
      refine (unrevealing_of_uses (verifyTenant_uses cfg n xApiKey rfl)).bind (fun _ => rfl) ?_
      rintro _ _ -
      by_cases hr : r = .getAllWebhookRegistrations
      · rw [hr]
        exact webhookRegistrations_unrevealing n
      · exact unrevealing_of_uses (r.handle_blind n hr)
  | admin xAdminSecret r =>
      refine (unrevealing_of_uses (verifyAdmin_uses adminSecretKey xAdminSecret)).bind
        (fun _ => rfl) ?_
      rintro _ _ -
      exact unrevealing_of_uses r.handle_blind

/-! ## Background tasks -/

/-- Threads that no secret sets apart, though they may end differently. -/
abbrev Undistinguished (p p' : Py Unit) : Prop :=
  p.Lockstep handle World.SameButSecrets (fun _ _ => True) p'

/-- One delivery. The request differs in its signature, and its answer does not. -/
theorem deliver_lockstep {tenantId : ℕ} {event : String} {payload : Payload} (id id' : ℕ)
    (registration registration' : WebhookRegistration) :
    (deliver cfg tenantId event payload id registration).Lockstep handle World.SameButSecrets
      (Prog.Alike (fun _ _ => True))
      (deliver cfg tenantId event payload id' registration') := by
  rw [deliver_eq, deliver_eq]
  refine fun _ _ _ h => ⟨h, fun o _ _ h => ⟨h, ?_⟩⟩
  show (Prog.ofExcept (deliveryEnd _ _ _ _ _ _ _ (postAnswer o)) : Py _).Lockstep _ _ _
    (Prog.ofExcept (deliveryEnd _ _ _ _ _ _ _ (postAnswer o)))
  cases postAnswer o with
  | ok code => trivial
  | error e => rfl

theorem deliverAll_lockstep {tenantId : ℕ} {event : String} {payload : Payload}
    (registrations registrations' : List (ℕ × WebhookRegistration))
    (hlength : registrations.length = registrations'.length) :
    (deliverAll cfg tenantId event payload registrations).Lockstep handle World.SameButSecrets
      (Prog.Alike (fun _ _ => True))
      (deliverAll cfg tenantId event payload registrations') := by
  induction registrations generalizing registrations' with
  | nil =>
      cases registrations' with
      | nil => trivial
      | cons r' rest' => cases hlength
  | cons r rest ih =>
      cases registrations' with
      | nil => cases hlength
      | cons r' rest' =>
          refine (deliver_lockstep r.1 r'.1 r.2 r'.2).bind (fun _ => rfl) (fun _ _ _ => ?_)
          refine (ih rest' (Nat.succ.inj hlength)).bind (fun _ => rfl) (fun _ _ _ => ?_)
          trivial

theorem commitWebhookDeliveries_lockstep (rows rows' : List WebhookDelivery) :
    Undistinguished (commitWebhookDeliveries rows) (commitWebhookDeliveries rows') := by
  intro o w w' h
  refine ⟨?_, ?_⟩
  · have hleft := handleDb_sameOutside o.want o.now (.commitWebhookDeliveries rows) w.db
    have hright := handleDb_sameOutside o.want o.now (.commitWebhookDeliveries rows') w'.db
    refine ⟨⟨?_, ?_, ?_, ?_, ?_⟩, h.cluster⟩
    · exact (hright.tenants rfl).trans (h.db.tenants.trans (hleft.tenants rfl).symm)
    · exact (hright.apiKeys rfl).trans (h.db.apiKeys.trans (hleft.apiKeys rfl).symm)
    · exact (hright.buildJobs rfl).trans (h.db.buildJobs.trans (hleft.buildJobs rfl).symm)
    · exact (hright.deployments rfl).trans (h.db.deployments.trans (hleft.deployments rfl).symm)
    · show Table.SameThrough _ (handleDb _ _ _ w.db).2.webhookRegistrations
        (handleDb _ _ _ w'.db).2.webhookRegistrations
      rw [hleft.webhookRegistrations rfl, hright.webhookRegistrations rfl]
      exact h.db.webhookRegistrations
  · show Prog.Lockstep _ _ _ (Prog.ofExcept _) (Prog.ofExcept _)
    cases (handle (.db (.commitWebhookDeliveries rows)) o w).1 <;>
      cases (handle (.db (.commitWebhookDeliveries rows')) o w').1 <;> trivial

theorem dispatchTenantWebhooks_lockstep (tenantId : ℕ) (event : String) (payload : Payload) :
    Undistinguished (dispatchTenantWebhooks cfg tenantId event payload)
      (dispatchTenantWebhooks cfg tenantId event payload) := by
  refine fun _ _ _ h => ⟨h, fun o w w' h => ⟨h, ?_⟩⟩
  have hlength : (handle (.db (.selectActiveWebhookRegistrations tenantId)) o w).1.length =
      (handle (.db (.selectActiveWebhookRegistrations tenantId)) o w').1.length := by
    have hshown := congrArg List.length
      (h.db.registrations (fun shown => shown.1 = tenantId && shown.2.2.2))
    rwa [List.length_map, List.length_map] at hshown
  refine (deliverAll_lockstep _ _ hlength).bind (fun _ => trivial) (fun rows rows' _ => ?_)
  show Undistinguished (if _ then _ else _) (if _ then _ else _)
  by_cases hnil : (handle (.db (.selectActiveWebhookRegistrations tenantId)) o w).1 = []
  · have hnil' := hlength
    rw [hnil, List.length_nil, eq_comm, List.length_eq_zero_iff] at hnil'
    rw [if_neg (not_not.mpr hnil), if_neg (not_not.mpr hnil')]
    trivial
  · have hnil' := hnil
    rw [← List.length_eq_zero_iff, hlength, List.length_eq_zero_iff] at hnil'
    rw [if_pos hnil, if_pos hnil']
    exact commitWebhookDeliveries_lockstep rows rows'

theorem pollLoop_lockstep {β : Type} {timeout interval : ℕ} {read : Py (Option β)}
    {resolve : β → Py Unit} {expire : Py Unit} (hread : Unrevealing read read)
    (hresolve : ∀ b, Undistinguished (resolve b) (resolve b))
    (hexpire : Undistinguished expire expire) (fuel elapsed : ℕ) :
    Undistinguished (pollLoop timeout interval read resolve expire fuel elapsed)
      (pollLoop timeout interval read resolve expire fuel elapsed) := by
  induction fuel generalizing elapsed with
  | zero => exact hexpire
  | succ fuel ih =>
      unfold pollLoop
      split
      · refine fun _ _ _ h => ⟨h, hread.bind (fun _ => trivial) ?_⟩
        rintro o _ rfl
        cases o with
        | none => exact ih _
        | some b => exact hresolve b
      · exact hexpire

/-- A blind call that both make, and whatever follows its answer. -/
theorem undistinguished_call {e : Call} {k : Call.Result e → Py Unit} (he : e.blind = true)
    (hk : ∀ r, Undistinguished (k r) (k r)) : Undistinguished (.call e k) (.call e k) := by
  intro o w w' h
  obtain ⟨hanswer, hnext⟩ := h.step he o
  rw [← hanswer]
  exact ⟨hnext, hk _⟩

theorem BackgroundTask.run_undistinguished (task : BackgroundTask) :
    Undistinguished (task.run cfg) (task.run cfg) := by
  cases task with
  | pollBuildUntilDone id ns =>
      refine undistinguished_call rfl (fun _ => pollLoop_lockstep ?_ (fun resolved => ?_) ?_ _ _)
      · have hcalls : (getBuildStatus ns (imageName id)).Uses (fun e => e.blind = true)
            (fun _ => True) := getBuildStatus_calls rfl
        have hread : (readBuild ns id).Uses (fun e => e.blind = true) (fun _ => True) :=
          hcalls.bind (fun _ _ => trivial)
        exact unrevealing_of_uses hread
      · refine undistinguished_call rfl (fun r => ?_)
        rcases r with x | _ | ⟨n, loaded⟩
        · trivial
        · trivial
        · refine undistinguished_call rfl (fun endedAt => undistinguished_call rfl (fun r => ?_))
          cases r with
          | error x => trivial
          | ok row => exact dispatchTenantWebhooks_lockstep _ _ _
      · refine undistinguished_call rfl (fun r => ?_)
        rcases r with x | _ | ⟨n, job⟩
        · trivial
        · trivial
        · show Undistinguished (if _ then _ else _) (if _ then _ else _)
          split
          · exact undistinguished_call rfl (fun _ => undistinguished_call rfl
              (fun r => by cases r <;> trivial))
          · trivial
  | pollDeploymentUntilRunning id ns name =>
      refine undistinguished_call rfl (fun _ => pollLoop_lockstep ?_ (fun running => ?_) ?_ _ _)
      · have hcalls : (getDeploymentStatus ns name).Uses (fun e => e.blind = true)
            (fun _ => True) := getDeploymentStatus_calls rfl
        have hread : (readDeployment ns name).Uses (fun e => e.blind = true) (fun _ => True) :=
          hcalls.bind (fun _ _ => trivial)
        exact unrevealing_of_uses hread
      · refine undistinguished_call rfl (fun r => ?_)
        cases r with
        | none => trivial
        | some loaded =>
            refine undistinguished_call rfl (fun r => ?_)
            cases r with
            | error x => trivial
            | ok row => exact dispatchTenantWebhooks_lockstep _ _ _
      · refine undistinguished_call rfl (fun r => ?_)
        cases r with
        | none => trivial
        | some row =>
            show Undistinguished (if _ then _ else _) (if _ then _ else _)
            split
            · exact undistinguished_call rfl (fun r => by cases r <;> trivial)
            · trivial

theorem Request.thread_undistinguished (adminSecretKey : String) (r : Request) :
    Undistinguished (r.thread cfg adminSecretKey) (r.thread cfg adminSecretKey) := by
  refine (r.serve_unrevealing adminSecretKey).bind (fun _ => trivial) ?_
  rintro ⟨response, task | task⟩ _ rfl
  · trivial
  · exact task.run_undistinguished

end Programs

/-! ## Runs -/

section Runs

variable {ι : Type} [DecidableEq ι] {cfg : Settings} {adminSecretKey : String}

/-- What happens to the cluster beside the requests. -/
def outsideCluster (change : Cluster → Cluster) (w : World) : World :=
  { w with cluster := change w.cluster }

/-- The platform once the requests have made some of their calls, beginning at `w`. -/
def played (cfg : Settings) (adminSecretKey : String) (requests : ι → Request)
    (turns : List (ι × Outcome ⊕ (Cluster → Cluster))) (w : World) :
    Config ι Call Call.Result PyException World :=
  play handle outsideCluster turns
    (.start (fun i => (requests i).thread cfg adminSecretKey) w)

/-- Two platforms begin with databases that differ in signing secrets only. The same requests come
in, with the same outcomes and with the same changes of the cluster in between. Then at every
moment, each of them has been answered alike by both, if it has been answered, and every further
request is answered alike by both. -/
theorem responses_reveal_no_signing_secret (requests : ι → Request) {w w' : World}
    (h : w.SameButSecrets w') (turns : List (ι × Outcome ⊕ (Cluster → Cluster))) :
    (∀ i, ((requests i).serve cfg adminSecretKey).returned
        (own i (played cfg adminSecretKey requests turns w).trail.events) =
      ((requests i).serve cfg adminSecretKey).returned
        (own i (played cfg adminSecretKey requests turns w').trail.events)) ∧
    ∀ (r : Request) (ω : ℕ → Outcome),
      ((r.serve cfg adminSecretKey).run handle ω
        (played cfg adminSecretKey requests turns w).trail.state).1 =
      ((r.serve cfg adminSecretKey).run handle ω
        (played cfg adminSecretKey requests turns w').trail.state).1 := by
  have hpools : (Config.start (fun i => (requests i).thread cfg adminSecretKey) w).Lockstep handle
      World.SameButSecrets (.start (fun i => (requests i).thread cfg adminSecretKey) w') :=
    ⟨h, fun i => (requests i).thread_undistinguished adminSecretKey⟩
  have houtside : ∀ (change : Cluster → Cluster) (s s' : World), s.SameButSecrets s' →
      (outsideCluster change s).SameButSecrets (outsideCluster change s') :=
    fun change s s' hs => ⟨hs.db, congrArg change hs.cluster⟩
  refine ⟨fun i => ?_, fun r ω => ?_⟩
  · have habreast : (Config.start (fun i => (requests i).thread cfg adminSecretKey) w).Abreast
        handle World.SameButSecrets i ((requests i).serve cfg adminSecretKey)
        ((requests i).serve cfg adminSecretKey) _ _
        (.start (fun i => (requests i).thread cfg adminSecretKey) w') :=
      .within rfl rfl ((requests i).serve_unrevealing adminSecretKey) rfl rfl
    exact (habreast.play hpools houtside turns).returned
  · have hstate := (hpools.play houtside turns).state
    exact ((r.serve_unrevealing adminSecretKey).run hstate).1.eq

end Runs

/-- A tenant with a key and a registration. -/
def registeredWorld (signingSecret : String) : World where
  db :=
    { Database.empty with
      tenants := Table.empty.put 1 ⟨"acme", tenantNamespace 1, 0, true⟩
      apiKeys := Table.empty.put 1
        ⟨1, "primary", keyPrefix sampleKey, sampleSettings.hashApiKey sampleKey, 0, none⟩
      webhookRegistrations := Table.empty.put 1 ⟨1, "https://acme/hook", signingSecret, 0, true⟩ }
  cluster := .empty

theorem registeredWorld_sameButSecrets (secret secret' : String) :
    (registeredWorld secret).SameButSecrets (registeredWorld secret') := by
  refine ⟨⟨rfl, rfl, rfl, rfl, rfl, fun id => ?_⟩, rfl⟩
  simp only [registeredWorld, Table.get_put]
  split <;> rfl

/-- A tenant lists its registrations, while a build is asked for. -/
def listingRequests : ℕ → Request
  | 0 => .tenant 1 sampleKey .getAllWebhookRegistrations
  | i => sampleRequests i

def listingTurns : List (ℕ × Outcome ⊕ (Cluster → Cluster)) :=
  [.inl (0, .ok), .inl (1, .ok), .inr builtCluster, .inl (0, .ok)]

theorem responses_reveal_no_signing_secret_listed :
    ∃ reply, ((listingRequests 0).serve sampleSettings "admin").returned
        (own 0 (played sampleSettings "admin" listingRequests listingTurns
          (registeredWorld "s1")).trail.events) = some reply ∧
      ((listingRequests 0).serve sampleSettings "admin").returned
        (own 0 (played sampleSettings "admin" listingRequests listingTurns
          (registeredWorld "s2")).trail.events) = some reply := by
  have hlisted : (((listingRequests 0).serve sampleSettings "admin").returned
      (own 0 (played sampleSettings "admin" listingRequests listingTurns
        (registeredWorld "s1")).trail.events)).isSome = true := by decide +kernel
  obtain ⟨reply, hreply⟩ := Option.isSome_iff_exists.mp hlisted
  obtain ⟨hreplies, -⟩ := @responses_reveal_no_signing_secret ℕ _ sampleSettings "admin"
    listingRequests _ _ (registeredWorld_sameButSecrets "s1" "s2") listingTurns
  exact ⟨reply, hreply, (hreplies 0).symm.trans hreply⟩

end TenantPlatform
