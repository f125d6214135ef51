import TenantPlatform.Data.References
import TenantPlatform.Verification.Jobs.Settlement
import TenantPlatform.Verification.Tenancy.Scope

/-! # Deleting a tenant

The foreign keys of `tenants.id` cascade one after another, and that of `build_jobs` comes
before that of `deployments`. So the delete is refused as long as a deployment refers to a
build job of the tenant. -/

namespace TenantPlatform

open Effect

/-! ## References between the rows of a run -/

/-- A deployment and its build job have the same tenant, and so have a delivery and its
registration. -/
structure Database.References (db : Database) : Prop where
  builds : Table.Refers Deployment.buildJobId Deployment.tenantId BuildJob.tenantId db.deployments
    db.buildJobs
  registrations : Table.Refers WebhookDelivery.webhookRegistrationId WebhookDelivery.tenantId
    WebhookRegistration.tenantId db.webhookDeliveries db.webhookRegistrations

section Statement

variable {want now : ℕ} {e : DbCall} {db : Database}

theorem grows_buildJobs (he : ∀ id, e ≠ .deleteTenant id) :
    db.buildJobs.Grows BuildJob.tenantId (handleDb want now e db).2.buildJobs := by
  cases e with
  | insertBuildJob tenantId gitUrl gitRevision gitSubPath status =>
      simp only [handleDb, Database.insertBuildJob]
      split
      · exact Table.grows_reserve _ _ want
      · split
        · exact Table.grows_reserve _ _ want
        · exact Table.grows_insert _ _ want _
  | commitBuildJob id changes =>
      simp only [handleDb, Database.commitBuildJob]
      split
      · exact .refl _ _
      · rename_i old hold
        split
        · exact .refl _ _
        · exact Table.grows_update hold rfl
  | deleteTenant id => exact absurd rfl (he id)
  | _ =>
      rw [(handleDb_sameOutside want now _ db).buildJobs rfl]
      exact .refl _ _

theorem grows_webhookRegistrations (he : ∀ id, e ≠ .deleteTenant id) :
    db.webhookRegistrations.Grows WebhookRegistration.tenantId
      (handleDb want now e db).2.webhookRegistrations := by
  cases e with
  | insertWebhookRegistration tenantId callbackUrl signingSecret =>
      simp only [handleDb, Database.insertWebhookRegistration]
      split
      · exact Table.grows_reserve _ _ want
      · split
        · exact Table.grows_reserve _ _ want
        · exact Table.grows_insert _ _ want _
  | deleteTenant id => exact absurd rfl (he id)
  | _ =>
      rw [(handleDb_sameOutside want now _ db).webhookRegistrations rfl]
      exact .refl _ _

/-- The rows of one tenant go from every table, and no others. -/
structure Database.Deleted (t : ℕ) (db db' : Database) : Prop where
  tenants : db'.tenants = db.tenants.keep (fun j _ => j ≠ t)
  apiKeys : db'.apiKeys = db.apiKeys.keep (fun _ k => k.tenantId ≠ t)
  buildJobs : db'.buildJobs = db.buildJobs.keep (fun _ b => b.tenantId ≠ t)
  deployments : db'.deployments = db.deployments.keep (fun _ d => d.tenantId ≠ t)
  webhookRegistrations :
    db'.webhookRegistrations = db.webhookRegistrations.keep (fun _ w => w.tenantId ≠ t)
  webhookDeliveries : ∀ id,
    db'.webhookDeliveries.get id = (db.webhookDeliveries.get id).filter (fun d => d.tenantId ≠ t)

/-- A delivery goes with its registration, which is a registration of its own tenant. -/
theorem Database.References.deleted (h : db.References) {t : ℕ} {db' : Database}
    (hok : db.cascadeTenant t = .ok db') : db.Deleted t db' := by
  obtain ⟨htenants, hkeys, hbuilds, hdeployments, hhooks⟩ := Database.cascadeTenant_ok hok
  refine ⟨htenants, hkeys, hbuilds, hdeployments, hhooks, fun id => ?_⟩
  have hget : db'.webhookDeliveries.get id = ((db.webhookDeliveries.get id).filter
      (fun d => !(db.webhookRegistrations.get d.webhookRegistrationId).any
        (fun w => w.tenantId = t))).filter (fun d => d.tenantId ≠ t) := by
    unfold cascadeTenant deleteBuildJobs at hok
    simp only [bind, Except.bind, pure, Except.pure] at hok
    split at hok
    · cases hok
    · rename_i hb
      split at hb
      · cases hb
      · cases hb
        cases hok
        rfl
  rw [hget]
  cases hd : db.webhookDeliveries.get id with
  | none => rfl
  | some d =>
      obtain ⟨w, hw, heq⟩ := h.registrations id d hd
      by_cases ht : d.tenantId = t
      · simp [Option.filter_some, hw, heq, ht]
      · simp [Option.filter_some, hw, heq, ht]

theorem Database.References.delete (h : db.References) {t : ℕ} {db' : Database}
    (hd : db.Deleted t db') : db'.References where
  builds := by
    rw [hd.deployments, hd.buildJobs]
    exact h.builds.keep (fun n => n ≠ t)
  registrations := by
    intro id d hget
    rw [hd.webhookDeliveries] at hget
    obtain ⟨hget, ht⟩ := Option.filter_eq_some_iff.mp hget
    obtain ⟨w, hw, heq⟩ := h.registrations id d hget
    refine ⟨w, ?_, heq⟩
    rw [hd.webhookRegistrations]
    exact Option.filter_eq_some_iff.mpr ⟨hw, (congrArg (fun n => decide (n ≠ t)) heq).trans ht⟩

/-- A new deployment refers to the build job that was checked, and its constraint to one that
is there. -/
theorem References.builds_step (h : db.References) (he : ∀ id, e ≠ .deleteTenant id)
    (hinsert : ∀ t id name status replicas, e = .insertDeployment t id name status replicas →
      ∀ b, db.buildJobs.get id = some b → b.tenantId = t) :
    Table.Refers Deployment.buildJobId Deployment.tenantId BuildJob.tenantId
      (handleDb want now e db).2.deployments (handleDb want now e db).2.buildJobs := by
  refine Table.Refers.grows ?_ (grows_buildJobs he)
  cases e with
  | insertDeployment t id name status replicas =>
      simp only [handleDb, Database.insertDeployment]
      split
      · exact h.builds
      · rename_i hrefs
        obtain ⟨b, hb⟩ : ∃ b, db.buildJobs.get id = some b := by
          cases hb : db.buildJobs.get id with
          | none => simp [hb] at hrefs
          | some b => exact ⟨b, rfl⟩
        exact h.builds.put ⟨b, hb, hinsert t id name status replicas rfl b hb⟩
  | commitDeployment id status =>
      simp only [handleDb, Database.commitDeployment]
      split
      · exact h.builds
      · rename_i d hd
        exact h.builds.put (h.builds id d hd)
  | deleteTenant id => exact absurd rfl (he id)
  | _ =>
      rw [(handleDb_sameOutside want now _ db).deployments rfl]
      exact h.builds

theorem References.registrations_step (h : db.References) (he : ∀ id, e ≠ .deleteTenant id)
    (hcommit : ∀ rows, e = .commitWebhookDeliveries rows → ∀ d ∈ rows, ∀ w,
      db.webhookRegistrations.get d.webhookRegistrationId = some w → w.tenantId = d.tenantId) :
    Table.Refers WebhookDelivery.webhookRegistrationId WebhookDelivery.tenantId
      WebhookRegistration.tenantId (handleDb want now e db).2.webhookDeliveries
      (handleDb want now e db).2.webhookRegistrations := by
  refine Table.Refers.grows ?_ (grows_webhookRegistrations he)
  cases e with
  | commitWebhookDeliveries rows =>
      simp only [handleDb, Database.commitWebhookDeliveries]
      split
      · rename_i hall
        have hrows : ∀ d ∈ rows, ∃ w,
            db.webhookRegistrations.get d.webhookRegistrationId = some w ∧
              w.tenantId = d.tenantId := by
          intro d hd
          have hsome := List.all_eq_true.mp hall d hd
          simp only [Bool.and_eq_true] at hsome
          obtain ⟨w, hw⟩ := Option.isSome_iff_exists.mp hsome.1.1.1.1.1
          exact ⟨w, hw, hcommit rows rfl d hd w hw⟩
        clear hall hcommit he
        have hstart := h.registrations
        generalize db.webhookDeliveries = deliveries at hstart ⊢
        induction rows generalizing deliveries with
        | nil => exact hstart
        | cons d rows ih =>
            exact ih (fun d' hd' => hrows d' (List.mem_cons_of_mem d hd')) _
              (hstart.put (hrows d List.mem_cons_self))
      · exact h.registrations
  | deleteTenant id => exact absurd rfl (he id)
  | _ =>
      rw [(handleDb_sameOutside want now _ db).webhookDeliveries rfl]
      exact h.registrations

end Statement

/-! ## Runs -/

section Reachable

variable {ι : Type} [DecidableEq ι] {cfg : Settings} {adminSecretKey : String}
  {requests : ι → Request} {cluster : Cluster} {env : World → World → Prop}
  {c : Config ι Call Call.Result PyException World}

/-- The references hold, and what requests have seen of rows they may refer to still does. -/
structure ReferencesInv (t : Trail ι Call Call.Result World) : Prop where
  references : t.state.db.References
  builds : ∀ i id job, SawBuild (own i t.events) id job →
    t.state.db.buildJobs.Remembers BuildJob.tenantId id job.tenantId
  registrations : ∀ i n id, SawRegistration n (own i t.events) id →
    t.state.db.webhookRegistrations.Remembers WebhookRegistration.tenantId id n

theorem ReferencesInv.same {t : Trail ι Call Call.Result World} {i : ι} {e : Call}
    {r : Call.Result e} {s : World} (h : ReferencesInv t) (hs : s.db = t.state.db)
    (he : ∀ q, e ≠ .db q) : ReferencesInv (t.push i e r s) := by
  refine ⟨by rw [Trail.push_state, hs]; exact h.references, ?_, ?_⟩
  · rintro k id job ⟨key, hmem⟩
    rw [Trail.push_state, hs]
    rcases mem_own_push hmem with hmem | ⟨-, hx⟩
    · exact h.builds k id job ⟨key, hmem⟩
    · exact absurd (congrArg Exchange.call hx).symm (he _)
  · rintro k n id ⟨registrations, hmem, hrow⟩
    rw [Trail.push_state, hs]
    rcases mem_own_push hmem with hmem | ⟨-, hx⟩
    · exact h.registrations k n id ⟨registrations, hmem, hrow⟩
    · exact absurd (congrArg Exchange.call hx).symm (he _)

/-- What was seen is remembered, and what is seen now is there. -/
theorem ReferencesInv.db {t : Trail ι Call Call.Result World} {i : ι} {e : DbCall} {o : Outcome}
    (h : ReferencesInv t) (hreferences : (handleDb o.want o.now e t.state.db).2.References)
    (hbuilds : ∀ id n, t.state.db.buildJobs.Remembers BuildJob.tenantId id n →
      (handleDb o.want o.now e t.state.db).2.buildJobs.Remembers BuildJob.tenantId id n)
    (hhooks : ∀ id n, t.state.db.webhookRegistrations.Remembers WebhookRegistration.tenantId id n →
      (handleDb o.want o.now e t.state.db).2.webhookRegistrations.Remembers
        WebhookRegistration.tenantId id n) :
    ReferencesInv (t.push i (.db e) (handleDb o.want o.now e t.state.db).1
      { t.state with db := (handleDb o.want o.now e t.state.db).2 }) := by
  generalize hr : (handleDb o.want o.now e t.state.db).1 = r
  refine ⟨hreferences, ?_, ?_⟩
  · rintro k id job ⟨key, hmem⟩
    rcases mem_own_push hmem with hmem | ⟨-, hx⟩
    · exact hbuilds id job.tenantId (h.builds k id job ⟨key, hmem⟩)
    · obtain rfl : DbCall.getBuildJob key = e := Call.db.inj (congrArg Exchange.call hx)
      obtain rfl : Except.ok (some (id, job)) = r := eq_of_heq (Exchange.mk.inj hx).2
      exact Table.remembers_of_get (lookupInt_ok hr).2
  · rintro k n id ⟨registrations, hmem, row, hrow⟩
    rcases mem_own_push hmem with hmem | ⟨-, hx⟩
    · exact hhooks id n (h.registrations k n id ⟨registrations, hmem, row, hrow⟩)
    · obtain rfl : DbCall.selectActiveWebhookRegistrations n = e :=
        Call.db.inj (congrArg Exchange.call hx)
      obtain rfl : registrations = r := eq_of_heq (Exchange.mk.inj hx).2
      rw [← show _ = registrations from hr] at hrow
      obtain ⟨hget, hp⟩ := (Table.mem_select _ _ id row).mp hrow
      have ht : row.tenantId = n := of_decide_eq_true (Bool.and_eq_true_iff.mp hp).1
      exact ht ▸ Table.remembers_of_get hget

theorem referencesInv_reach (henv : KeepsDatabase env)
    (hc : Reach (platform env) (platformStart cfg adminSecretKey requests cluster) c) :
    ReferencesInv c.trail := by
  refine Reach.inv (B := fun t => (∀ i, requestDiscipline.Legal (own i t.events)) ∧
    ∀ i, (scopeDiscipline cfg (requests i)).Legal (own i t.events))
    (fun c hc => ⟨(platform_sound henv hc).legal, platform_scoped henv hc⟩) ?_ ?_ ?_ hc
  · refine ⟨⟨Table.refers_empty, Table.refers_empty⟩, ?_, ?_⟩
    · rintro i id job ⟨key, hmem⟩
      cases hmem
    · rintro i n id ⟨registrations, hmem, -⟩
      cases hmem
  · rintro t i e r s - ⟨hlegals, hscopes⟩ h ⟨o, ho⟩
    have hlegal := hlegals i
    have hscope := hscopes i
    rw [own_push_self] at hlegal hscope
    cases e with
    | k8s e =>
        obtain ⟨rfl, rfl⟩ := Prod.mk.inj ho
        exact h.same rfl (fun _ he => by cases he)
    | sys e =>
        obtain ⟨rfl, rfl⟩ := Prod.mk.inj ho
        exact h.same rfl (fun _ he => by cases he)
    | db e =>
        obtain ⟨rfl, rfl⟩ := Prod.mk.inj ho
        by_cases he : ∃ n, e = .deleteTenant n
        · obtain ⟨n, rfl⟩ := he
          rcases t.state.db.deleteTenant_snd n with heq | hok
          · refine h.db ?_ ?_ ?_
            · simp only [handleDb, heq]
              exact h.references
            · simp only [handleDb, heq]
              exact fun _ _ h => h
            · simp only [handleDb, heq]
              exact fun _ _ h => h
          · have hd := h.references.deleted hok
            refine h.db (h.references.delete hd) (fun id m hm => ?_) (fun id m hm => ?_)
            · simp only [handleDb, hd.buildJobs]
              exact hm.keep _
            · simp only [handleDb, hd.webhookRegistrations]
              exact hm.keep _
        · have he : ∀ n, e ≠ .deleteTenant n := fun n hn => he ⟨n, hn⟩
          refine h.db ⟨?_, ?_⟩ (fun id m hm => hm.grows (grows_buildJobs he))
            (fun id m hm => hm.grows (grows_webhookRegistrations he))
          · refine References.builds_step h.references he ?_
            rintro n id name status replicas rfl b hb
            obtain ⟨-, -, job, hsaw, htenant, -⟩ := hlegal.1
            rw [(h.builds i id job hsaw).value b hb, htenant]
          · refine References.registrations_step h.references he ?_
            rintro rows rfl d hd w hw
            cases hrequest : requests i with
            | tenant n xApiKey request =>
                rw [hrequest] at hscope
                obtain ⟨ht, hsaw⟩ := hscope.1 d hd
                rw [(h.registrations i n _ hsaw).value w hw, ht]
            | admin xAdminSecret request =>
                rw [hrequest] at hscope
                exact hscope.1.elim
  · intro t s _ h hs
    have hdb := henv _ _ hs
    exact ⟨by rw [hdb]; exact h.references, by rw [hdb]; exact h.builds,
      by rw [hdb]; exact h.registrations⟩

/-- The cascade goes through exactly if no deployment is in the way. -/
theorem Database.References.cascade_iff {db : Database} (h : db.References) (t : ℕ) :
    (∃ db', db.cascadeTenant t = .ok db') ↔
      ∀ id d, db.deployments.get id = some d → d.tenantId ≠ t := by
  have hrestrict : anyRow db.deployments
      (fun d => (db.buildJobs.get d.buildJobId).any (fun b => b.tenantId = t)) = true ↔
      ∃ id d, db.deployments.get id = some d ∧ d.tenantId = t := by
    rw [anyRow, Bool.not_eq_true', ← Bool.not_eq_true, List.isEmpty_iff,
      List.eq_nil_iff_forall_not_mem]
    push Not
    constructor
    · rintro ⟨⟨id, d⟩, hmem⟩
      obtain ⟨hd, hany⟩ := (Table.mem_select _ _ id d).mp hmem
      obtain ⟨b, hb, heq⟩ := h.builds id d hd
      rw [hb] at hany
      exact ⟨id, d, hd, heq ▸ of_decide_eq_true hany⟩
    · rintro ⟨id, d, hd, rfl⟩
      obtain ⟨b, hb, heq⟩ := h.builds id d hd
      exact ⟨(id, d), (Table.mem_select _ _ id d).mpr ⟨hd, by rw [hb]; exact decide_eq_true heq⟩⟩
  unfold cascadeTenant deleteBuildJobs
  constructor
  · rintro ⟨db', hok⟩ id d hd ht
    have hany := hrestrict.mpr ⟨id, d, hd, ht⟩
    simp only [bind, Except.bind] at hok
    rw [if_pos hany] at hok
    cases hok
  · intro hnone
    have hany : ¬ anyRow db.deployments
        (fun d => (db.buildJobs.get d.buildJobId).any (fun b => b.tenantId = t)) = true := by
      rintro hany
      obtain ⟨id, d, hd, ht⟩ := hrestrict.mp hany
      exact hnone id d hd ht
    simp only [bind, Except.bind]
    rw [if_neg hany]
    exact ⟨_, rfl⟩

/-- In every reachable state, a tenant that exists is deleted with all its rows and no others
if and only if it has no deployment. -/
theorem tenant_deleted_iff_no_deployments (henv : KeepsDatabase env)
    (hc : Reach (platform env) (platformStart cfg adminSecretKey requests cluster) c) {t : ℕ}
    (ht : (c.trail.state.db.tenants.get t).isSome) (ω : ℕ → Outcome) :
    (((deleteTenantService t).run handle ω c.trail.state).1 = .ok 1 ∧
      c.trail.state.db.Deleted t ((deleteTenantService t).run handle ω c.trail.state).2.db) ↔
    ∀ id d, c.trail.state.db.deployments.get id = some d → d.tenantId ≠ t := by
  have hreferences := (referencesInv_reach henv hc).references
  obtain ⟨tenant, htenant⟩ := Option.isSome_iff_exists.mp ht
  rw [← hreferences.cascade_iff t]
  have hrun : ∀ r : Except PyException ℕ × Database,
      c.trail.state.db.deleteTenant t = r →
      (deleteTenantService t).run handle ω c.trail.state =
        (r.1, { c.trail.state with db := r.2 }) := by
    rintro r rfl
    simp only [deleteTenantService, deleteTenant, Prog.run_call, handle, handleDb]
    cases (c.trail.state.db.deleteTenant t).1 <;> rfl
  cases hcascade : c.trail.state.db.cascadeTenant t with
  | error x =>
      rw [hrun (.error x, _) (by simp only [Database.deleteTenant, htenant, hcascade]; rfl)]
      constructor
      · rintro ⟨hok, -⟩
        cases hok
      · rintro ⟨db', hok⟩
        cases hok
  | ok db' =>
      rw [hrun (.ok 1, db') (by simp only [Database.deleteTenant, htenant, hcascade])]
      exact ⟨fun _ => ⟨db', rfl⟩, fun _ => ⟨rfl, hreferences.deleted hcascade⟩⟩

end Reachable

/-- A tenant with a key and a finished build. -/
theorem tenant_deleted_iff_no_deployments_built :
    ((deleteTenantService 1).run handle (fun _ => .ok) builtRun.trail.state).1 = .ok 1 ∧
      builtRun.trail.state.db.Deleted 1
        ((deleteTenantService 1).run handle (fun _ => .ok) builtRun.trail.state).2.db := by
  have hrun : (builtRun.trail.state.db.tenants.get 1).isSome ∧
      builtRun.trail.state.db.deployments.next ≤ 1 ∧
      builtRun.trail.state.db.deployments.get 0 = none := by decide +kernel
  obtain ⟨htenant, hnext, hnone⟩ := hrun
  refine (tenant_deleted_iff_no_deployments anyCluster_keepsDatabase builtRun_reach
    htenant _).mpr (fun id d hd => ?_)
  have hlt : id < 1 := Nat.lt_of_lt_of_le (Table.below _ id d hd) hnext
  obtain rfl : id = 0 := Nat.lt_one_iff.mp hlt
  rw [hnone] at hd
  cases hd

/-- The tenant of a build that was deployed cannot be deleted. -/
theorem deployed_tenant_not_deleted :
    ∃ c, Reach (platform anyCluster)
        (platformStart sampleSettings "admin" sampleRequests .empty) c ∧
      (c.trail.state.db.tenants.get 1).isSome ∧
      ((deleteTenantService 1).run handle (fun _ => .ok) c.trail.state).1 =
        .error foreignKeyViolation ∧
      (((deleteTenantService 1).run handle (fun _ => .ok)
        c.trail.state).2.db.tenants.get 1).isSome :=
  ⟨drive handle (List.replicate 9 (2, .ok)) builtRun, Reach.drive _ builtRun_reach,
    by decide +kernel⟩

end TenantPlatform
