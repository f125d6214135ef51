import TenantPlatform.Effect.Relational
import TenantPlatform.Verification.Cluster.Calls
import TenantPlatform.Verification.Jobs.Platform
import TenantPlatform.Verification.Keys.Acceptance
import TenantPlatform.Verification.Tenancy.Confinement

/-! # Tenants do not interfere

A request of a tenant is run in two worlds that agree for this tenant and may differ in
everything else. The runs keep in step call by call: where the code loads a row by its key
alone, it goes on only if the row is the tenant's own. -/

namespace TenantPlatform

open Effect

/-! ## Runs in step -/

structure World.Agree (t : ℕ) (w w' : World) : Prop where
  db : w.db.Agree t w'.db
  cluster : ∀ tenant, w.db.tenants.get t = some tenant →
    w.cluster.Agree tenant.k8sNamespace w'.cluster

structure World.Untouched (t : ℕ) (w s : World) : Prop where
  db : w.db.Untouched t s.db
  cluster : ∀ tenant, w.db.tenants.get t = some tenant →
    w.cluster.Untouched tenant.k8sNamespace s.cluster

/-- The runs that began in `w` and `w'` have got to `s` and `s'`. The tenant owns at least
the rows of `own`. -/
structure InStep (cfg : Settings) (t : ℕ) (tenant : Tenant) (w w' : World) (own : Ref → Prop)
    (s s' : World) : Prop where
  known : s.db.tenants.get t = some tenant
  db : s.db.Agree t s'.db
  cluster : s.cluster.Agree tenant.k8sNamespace s'.cluster
  left : w.db.Untouched t s.db ∧ w.cluster.Untouched tenant.k8sNamespace s.cluster
  right : w'.db.Untouched t s'.db ∧ w'.cluster.Untouched tenant.k8sNamespace s'.cluster
  owns : ∀ ref, own ref → s.db.Owns t ref
  fresh : ∀ o : Outcome, o.NewIn cfg t w.db w'.db → s.db.SameFresh o.want s'.db

/-- The hash of a key that neither world has for another tenant. -/
def UnclaimedIn (t : ℕ) (w w' : World) (keyHash : String) : Prop :=
  w.db.Unclaimed t keyHash ∧ w'.db.Unclaimed t keyHash

section

variable {cfg : Settings} {t : ℕ} {tenant : Tenant} {w w' s s' : World} {own : Ref → Prop}

theorem InStep.owning (h : InStep cfg t tenant w w' own s s') (own' : Ref → Prop)
    (howns : ∀ ref, own' ref → s.db.Owns t ref) : InStep cfg t tenant w w' own' s s' :=
  ⟨h.known, h.db, h.cluster, h.left, h.right, howns, h.fresh⟩

theorem InStep.only (h : InStep cfg t tenant w w' own s s') (ref : Ref) (href : s.db.Owns t ref) :
    InStep cfg t tenant w w' (fun r => r = ref) s s' :=
  h.owning _ (fun _ heq => heq ▸ href)

theorem InStep.step (h : InStep cfg t tenant w w' own s s') {e : Call} {o : Outcome}
    (ho : o.NewIn cfg t w.db w'.db)
    (hc : e.confined t tenant.k8sNamespace (UnclaimedIn t w w') own) :
    (handle e o s).1 = (handle e o s').1 ∧
      InStep cfg t tenant w w' own (handle e o s).2 (handle e o s').2 := by
  cases e with
  | db e =>
      obtain ⟨hanswer, hchange⟩ := confined_db (o := o) hc h.db h.owns
        (fun keyHash hk => ⟨h.left.1.unclaimed hk.1, h.right.1.unclaimed hk.2⟩) (h.fresh o ho)
      refine ⟨hanswer, ?_, hchange.agree h.db, h.cluster, ⟨h.left.1.trans hchange.left, h.left.2⟩,
        ⟨h.right.1.trans hchange.right, h.right.2⟩, fun ref href => hchange.owns (h.owns ref href),
        fun o' ho' => hchange.sameFresh (h.fresh o' ho')⟩
      rw [← h.known]
      exact congrFun hchange.left.tenants t
  | k8s e =>
      obtain ⟨hanswer, hchange⟩ := confined_k8s hc h.cluster o.fault o.token
      exact ⟨hanswer, h.known, h.db, hchange.agree h.cluster,
        ⟨h.left.1, h.left.2.trans hchange.left⟩, ⟨h.right.1, h.right.2.trans hchange.right⟩,
        h.owns, h.fresh⟩
  | sys e => exact ⟨rfl, h⟩

variable {α β : Type} {Q : α → World → World → Prop} {X : World → World → Prop}

/-- One confined call at the head of both programs. -/
theorem InStep.call (h : InStep cfg t tenant w w' own s s') {e : Call}
    (hc : e.confined t tenant.k8sNamespace (UnclaimedIn t w w') own) {k k' : Call.Result e → Py α}
    (hk : ∀ o : Outcome, o.NewIn cfg t w.db w'.db →
      InStep cfg t tenant w w' own (handle e o s).2 (handle e o s').2 →
      (k (handle e o s).1).Coupled handle (fun o => o.NewIn cfg t w.db w'.db) Q X
        (k' (handle e o s).1) (handle e o s).2 (handle e o s').2) :
    (Prog.call e k : Py α).Coupled handle (fun o => o.NewIn cfg t w.db w'.db) Q X (.call e k')
      s s' := by
  intro o ho
  obtain ⟨hanswer, hnext⟩ := h.step ho hc
  rw [← hanswer]
  exact hk o ho hnext

/-- A program of confined calls. -/
theorem InStep.uses (h : InStep cfg t tenant w w' own s s') {p : Py α} {P : α → Prop}
    (hp : p.Uses (fun e => e.confined t tenant.k8sNamespace (UnclaimedIn t w w') own) P) :
    p.Coupled handle (fun o => o.NewIn cfg t w.db w'.db)
      (fun a s s' => P a ∧ InStep cfg t tenant w w' own s s')
      (InStep cfg t tenant w w' own) p s s' :=
  hp.coupled (fun _ _ _ _ hc ho h => h.step ho hc) h

/-! ## Tenant-scoped routes -/

/-- What a task is given is the tenant's. -/
def BackgroundTask.confined (ns : String) (own : Ref → Prop) : BackgroundTask → Prop
  | .pollBuildUntilDone id ns' => ns' = ns ∧ own (.buildJob id)
  | .pollDeploymentUntilRunning id ns' _ => ns' = ns ∧ own (.deployment id)

/-- The runs are in step, and so will be those of a scheduled task. -/
def Handoff (cfg : Settings) (t : ℕ) (tenant : Tenant) (w w' : World)
    (task : Option BackgroundTask) (s s' : World) : Prop :=
  ∃ own, InStep cfg t tenant w w' own s s' ∧
    ∀ b, task = some b → b.confined tenant.k8sNamespace own

/-- In step, whatever the tenant owns. -/
abbrev InStepAny (cfg : Settings) (t : ℕ) (tenant : Tenant) (w w' : World) : World → World → Prop :=
  InStep cfg t tenant w w' (fun _ => False)

/-- The two runs, on outcomes that are new in both worlds. -/
abbrev Tandem (cfg : Settings) (t : ℕ) (tenant : Tenant) (w w' : World)
    (Q : α → World → World → Prop) (p p' : Py α) (s s' : World) : Prop :=
  p.Coupled handle (fun o => o.NewIn cfg t w.db w'.db) Q (InStepAny cfg t tenant w w') p' s s'

theorem InStep.any (h : InStep cfg t tenant w w' own s s') : InStepAny cfg t tenant w w' s s' :=
  h.owning _ (fun _ h => h.elim)

theorem InStep.handoff (h : InStep cfg t tenant w w' own s s') :
    Handoff cfg t tenant w w' none s s' :=
  ⟨own, h, fun _ hb => by cases hb⟩

theorem confined_of_scoped {e : Call} {ns : String} {unused : String → Prop}
    (h : ScopedCall t e) : e.confined t ns unused own := by
  cases h <;> first | rfl | trivial

theorem confined_of_setup {e : Call} {ns : String} {unused : String → Prop}
    (h : SetupCall cfg ns e) : e.confined t ns unused own := by
  cases h with
  | root => exact .inr ⟨rfl, rfl, rfl⟩
  | dns => exact ⟨rfl, rfl⟩
  | _ => exact .inl rfl

theorem confined_of_viewer {e : Call} {ns : String} {unused : String → Prop}
    (h : ViewerCall ns e) : e.confined t ns unused own := by
  cases h with
  | token => rfl
  | caCert => trivial
  | _ => exact .inl rfl

theorem checked_tandem (h : InStep cfg t tenant w w' own s s') (c : Checked α) :
    Tandem cfg t tenant w w' (fun _ => InStep cfg t tenant w w' own) (checked c) (checked c)
      s s' := by
  cases c with
  | ok a => exact ⟨rfl, h⟩
  | error detail => exact ⟨rfl, h.any⟩

/-! ### Keys -/

theorem createApiKey_tandem (h : InStepAny cfg t tenant w w' s s') (keyData : ApiKeyCreate) :
    Tandem cfg t tenant w w' (fun reply => Handoff cfg t tenant w w' reply.2)
      (Routes.createApiKey cfg t keyData) (Routes.createApiKey cfg t keyData) s s' := by
  refine Prog.Coupled.bind (M := fun _ => InStepAny cfg t tenant w w') ?_
    (fun _ _ _ h => ⟨rfl, h.handoff⟩)
  refine Prog.Coupled.tryCatch (Y := InStepAny cfg t tenant w w') ?_
    (fun x s s' h => by cases x <;> exact ⟨rfl, h⟩)
  refine h.call (e := .sys (.tokenUrlsafe 32)) trivial (fun o ho h => ?_)
  -- the token is new in both worlds, so the constraints on its hash come out the same
  refine h.call (e := .db (.insertApiKey t keyData.name _ _)) ⟨rfl, ho.left, ho.right⟩
    (fun o' _ h => ?_)
  generalize (handle _ o' _).1 = r
  cases r with
  | ok row => exact ⟨rfl, h⟩
  | error x => exact ⟨rfl, h⟩

/-- A key that a filtered query finds is the tenant's own. -/
theorem owns_of_selectApiKey {keyId : ℤ} {id : ℕ} {row : ApiKey} {o : Outcome}
    (h : (handle (.db (.selectApiKey t keyId)) o s).1 = .ok (some (id, row))) :
    s.db.Owns t (.apiKey id) := by
  simp only [handle, handleDb] at h
  cases hr : lookupInt s.db.apiKeys keyId with
  | error x =>
      rw [hr] at h
      cases h
  | ok found =>
      rw [hr] at h
      obtain ⟨rfl, ht⟩ := Option.filter_eq_some_iff.mp (Except.ok.inj h)
      exact ⟨row, (lookupInt_ok hr).2, of_decide_eq_true ht⟩

theorem revokeApiKey_tandem (h : InStepAny cfg t tenant w w' s s') (keyId : ℤ) :
    Tandem cfg t tenant w w' (fun reply => Handoff cfg t tenant w w' reply.2)
      (TenantRequest.handle cfg t (.revokeApiKey keyId))
      (TenantRequest.handle cfg t (.revokeApiKey keyId)) s s' := by
  refine Prog.Coupled.bind (M := fun _ => InStepAny cfg t tenant w w') ?_ (fun found _ _ h => ?_)
  · refine h.call (e := .db (.selectApiKey t keyId)) rfl (fun o _ h => ?_)
    generalize hr : (handle (.db (.selectApiKey t keyId)) o s).1 = r
    rcases r with x | _ | ⟨id, row⟩
    · exact ⟨rfl, h⟩
    · exact ⟨rfl, h⟩
    · have hown := h.only (.apiKey id) (owns_of_selectApiKey hr)
      refine hown.call (e := .sys .nowNaive) trivial (fun o₁ _ hown => ?_)
      refine hown.call (e := .db (.revokeApiKey id _)) rfl (fun o₂ _ hown => ?_)
      generalize (handle _ o₂ _).1 = r
      cases r with
      | ok row => exact ⟨rfl, hown.any⟩
      | error x => exact ⟨rfl, hown.any⟩
  · cases found with
    | none => exact ⟨rfl, h⟩
    | some row => exact ⟨rfl, h.handoff⟩

/-! ### Namespaces -/

theorem confined_setup (ns : String) {unused : String → Prop} :
    (ensureTenantNamespace cfg ns).Uses (fun e => e.confined t ns unused own) (fun _ => True) :=
  (ensureTenantNamespace_calls cfg ns).mono (fun _ => confined_of_setup) (fun _ h => h)

theorem getKubeconfig_tandem (h : InStepAny cfg t tenant w w' s s') :
    Tandem cfg t tenant w w' (fun reply => Handoff cfg t tenant w w' reply.2)
      (Routes.getKubeconfig cfg t) (Routes.getKubeconfig cfg t) s s' := by
  refine Prog.Coupled.bind (M := fun _ => InStepAny cfg t tenant w w') ?_
    (fun _ _ _ h => ⟨rfl, h.handoff⟩)
  refine Prog.Coupled.tryCatch (Y := InStepAny cfg t tenant w w') ?_
    (fun x s s' h => by cases x <;> exact ⟨rfl, h⟩)
  refine h.call (e := .db (.getTenant t)) rfl (fun o _ h => ?_)
  have hget : (handle (.db (.getTenant t)) o s).1 = some tenant := h.known
  rw [hget]
  refine ((h.uses (P := fun _ => True) ?_).mono (fun _ _ _ h => h.2) (fun _ _ h => h))
  refine (confined_setup tenant.k8sNamespace).bind (fun _ _ => ?_)
  refine ((ensureTenantRbac_calls tenant.k8sNamespace).mono
    (fun _ => confined_of_viewer) (fun _ h => h)).bind (fun _ _ => ?_)
  exact (mintTenantKubeconfig_calls cfg tenant.k8sNamespace).mono
    (fun _ => confined_of_viewer) (fun _ h => h)

/-! ### Builds -/

theorem startBuild_confined {ns : String} {unused : String → Prop} {id : ℕ} (job : BuildJob)
    (hown : own (.buildJob id)) :
    (startBuild cfg t ns id job).Uses (fun e => e.confined t ns unused own) (fun _ => True) := by
  refine (confined_setup ns).bind (fun _ _ => ?_)
  refine Prog.Uses.bind (M := fun _ => True) ⟨.inl rfl, fun r => by cases r <;> trivial⟩
    (fun _ _ => ?_)
  exact ⟨trivial, fun _ => ⟨hown, fun r => by cases r <;> trivial⟩⟩

theorem createBuildJob_tandem (h : InStepAny cfg t tenant w w' s s') (buildData : BuildJobCreate) :
    Tandem cfg t tenant w w' (fun reply => Handoff cfg t tenant w w' reply.2)
      (Routes.createBuildJob cfg t buildData) (Routes.createBuildJob cfg t buildData) s s' := by
  refine Prog.Coupled.bind (M := fun r => Handoff cfg t tenant w w'
    (r.2.map (.pollBuildUntilDone r.1.1))) ?_ (fun _ _ _ h => ⟨rfl, h⟩)
  refine h.call (e := .db (.getTenant t)) rfl (fun o _ h => ?_)
  have hget : (handle (.db (.getTenant t)) o s).1 = some tenant := h.known
  rw [hget]
  refine h.call (e := .db (.insertBuildJob t buildData.gitUrl buildData.gitRevision
    buildData.gitSubPath .queued)) rfl (fun o₁ _ h => ?_)
  generalize hr : (handle (.db (.insertBuildJob t _ _ _ _)) o₁ _).1 = r
  rcases r with x | ⟨id, queued⟩
  · exact ⟨rfl, h⟩
  · obtain ⟨-, hwrites, hrow⟩ := Database.insertBuildJob_ok (Prod.ext hr rfl)
    have hown := h.only (.buildJob id)
      ⟨queued, (hwrites.get_eq id).trans (if_pos rfl), by rw [hrow]⟩
    show Tandem cfg t tenant w w' _
      (tryCatch (startBuild cfg t tenant.k8sNamespace id queued) (failBuild id) >>= _)
      (tryCatch (startBuild cfg t tenant.k8sNamespace id queued) (failBuild id) >>= _) _ _
    refine Prog.Coupled.bind
      (M := fun _ => InStep cfg t tenant w w' (fun ref => ref = .buildJob id))
      (Prog.Coupled.tryCatch (Y := InStep cfg t tenant w w' (fun ref => ref = .buildJob id)) ?_ ?_)
      ?_
    · exact (hown.uses (startBuild_confined queued rfl)).mono (fun _ _ _ h => h.2) (fun _ _ h => h)
    · intro x s₁ s₁' hown
      refine (hown.uses (P := fun _ => True) ?_).mono (fun _ _ _ h => h.2) (fun _ _ h => h.any)
      exact ⟨trivial, fun _ => ⟨rfl, fun r => by cases r <;> trivial⟩⟩
    · intro job s₁ s₁' hown
      refine ⟨rfl, _, hown, fun b hb => ?_⟩
      obtain ⟨ns, hns, rfl⟩ := Option.map_eq_some_iff.mp hb
      split at hns
      · exact ⟨(Option.some.inj hns).symm, rfl⟩
      · cases hns

/-! ### Deployments -/

/-- A load by key finds the tenant's own row in both tables, or none of its rows. -/
theorem lookupInt_sameRows {α : Type} {p : α → Bool} {T U : Table α} (h : T.SameRows p U) (id : ℤ) :
    (∃ x, lookupInt T id = .error x ∧ lookupInt U id = .error x) ∨
    (∃ n a, p a = true ∧ lookupInt T id = .ok (some (n, a)) ∧
      lookupInt U id = .ok (some (n, a))) ∨
    ∃ r r', lookupInt T id = .ok r ∧ lookupInt U id = .ok r' ∧
      (∀ a, r = some a → p a.2 = false) ∧ ∀ a, r' = some a → p a.2 = false := by
  have hfilter := lookupInt_filter h id
  cases hT : lookupInt T id with
  | error x =>
      cases hU : lookupInt U id with
      | error y =>
          rw [hT, hU] at hfilter
          exact .inl ⟨x, rfl, congrArg _ (Except.error.inj hfilter).symm⟩
      | ok r' =>
          rw [hT, hU] at hfilter
          cases hfilter
  | ok r =>
      cases hU : lookupInt U id with
      | error y =>
          rw [hT, hU] at hfilter
          cases hfilter
      | ok r' =>
          rw [hT, hU] at hfilter
          have hfilter : r.filter (fun a => p a.2) = r'.filter (fun a => p a.2) :=
            Except.ok.inj hfilter
          cases hseen : r.filter (fun a => p a.2) with
          | some a =>
              obtain ⟨rfl, ha⟩ := Option.filter_eq_some_iff.mp hseen
              obtain ⟨rfl, -⟩ := Option.filter_eq_some_iff.mp (hfilter.symm.trans hseen)
              exact .inr (.inl ⟨a.1, a.2, ha, rfl, rfl⟩)
          | none =>
              have hnone := Option.filter_eq_none_iff.mp hseen
              have hnone' := Option.filter_eq_none_iff.mp (hfilter.symm.trans hseen)
              exact .inr (.inr ⟨r, r', rfl, rfl, fun a ha => by simpa using hnone a ha,
                fun a ha => by simpa using hnone' a ha⟩)

theorem startDeployment_confined {unused : String → Prop} {image : Option String} {id : ℕ}
    (row : Deployment) (hown : own (.deployment id)) :
    (startDeployment (some tenant) image id row).Uses
      (fun e => e.confined t tenant.k8sNamespace unused own) (fun _ => True) := by
  refine Prog.Uses.bind (M := fun _ => True) ?_
    (fun _ _ => ⟨hown, fun r => by cases r <;> trivial⟩)
  exact createTenantDeployment_calls (.inl rfl) rfl (.inl rfl)

theorem createDeploymentService_tandem (h : InStepAny cfg t tenant w w' s s')
    (deployData : DeploymentCreate) :
    Tandem cfg t tenant w w' (fun r => Handoff cfg t tenant w w'
        (r.2.map (fun ns => .pollDeploymentUntilRunning r.1.1 ns r.1.2.k8sDeploymentName)))
      (createDeploymentService t deployData) (createDeploymentService t deployData) s s' := by
  intro o _
  have hload := lookupInt_sameRows h.db.buildJobs deployData.buildJobId
  simp only [handle, handleDb]
  rcases hload with ⟨x, hT, hU⟩ | ⟨n, job, hjob, hT, hU⟩ | ⟨r, r', hT, hU, hr, hr'⟩
  · rw [hT, hU]
    exact ⟨rfl, h⟩
  · rw [hT, hU]
    have htenant : job.tenantId = t := of_decide_eq_true hjob
    have hget : s.db.buildJobs.get n = some job := (lookupInt_ok hT).2
    have hown := h.only (.buildJob n) ⟨job, hget, htenant⟩
    show Tandem cfg t tenant w w' _ (if _ then _ else if _ then _ else _ : Py _)
      (if _ then _ else if _ then _ else _ : Py _) s s'
    rw [if_neg (not_not.mpr htenant)]
    by_cases hstatus : job.status ≠ .succeeded
    · rw [if_pos hstatus]
      exact ⟨rfl, h⟩
    · rw [if_neg hstatus]
      refine hown.call (e := .db (.getTenant t)) rfl (fun o₁ _ hown => ?_)
      have hknown : (handle (.db (.getTenant t)) o₁ s).1 = some tenant := h.known
      rw [hknown]
      refine hown.call (e := .db (.insertDeployment t n tenantAppName .pending
        deployData.replicaCount)) ⟨rfl, rfl⟩ (fun o₂ _ hown => ?_)
      generalize hr : (handle (.db (.insertDeployment t _ _ _ _)) o₂ _).1 = r
      rcases r with x | ⟨id, pending⟩
      · exact ⟨rfl, hown.any⟩
      · obtain ⟨-, hwrites, hrow⟩ := Database.insertDeployment_ok (Prod.ext hr rfl)
        have hown := hown.only (.deployment id)
          ⟨pending, (hwrites.get_eq id).trans (if_pos rfl), by rw [hrow]⟩
        show Tandem cfg t tenant w w' _
          (tryCatch (startDeployment (some tenant) job.imageTag id pending)
            (fun _ => commitDeployment id .failed) >>= _)
          (tryCatch (startDeployment (some tenant) job.imageTag id pending)
            (fun _ => commitDeployment id .failed) >>= _) _ _
        refine Prog.Coupled.bind
          (M := fun _ => InStep cfg t tenant w w' (fun ref => ref = .deployment id))
          (Prog.Coupled.tryCatch (Y := InStep cfg t tenant w w' (fun ref => ref = .deployment id))
            ?_ ?_) ?_
        · exact (hown.uses (startDeployment_confined pending rfl)).mono (fun _ _ _ h => h.2)
            (fun _ _ h => h)
        · intro x s₁ s₁' hown
          refine (hown.uses (P := fun _ => True) ?_).mono (fun _ _ _ h => h.2)
            (fun _ _ h => h.any)
          exact ⟨rfl, fun r => by cases r <;> trivial⟩
        · intro row s₁ s₁' hown
          refine ⟨rfl, _, hown, fun b hb => ?_⟩
          obtain ⟨ns, hns, rfl⟩ := Option.map_eq_some_iff.mp hb
          split at hns
          · exact ⟨(Option.some.inj hns).symm, rfl⟩
          · cases hns
  · -- a foreign row and no row at all are told apart by neither run
    rw [hT, hU]
    have hraise : ∀ p p' : Py ((ℕ × Deployment) × Option String),
        p = .raise (.valueError "build_job_id does not belong to this tenant") →
        p' = .raise (.valueError "build_job_id does not belong to this tenant") →
        Tandem cfg t tenant w w' (fun r => Handoff cfg t tenant w w'
          (r.2.map (fun ns => .pollDeploymentUntilRunning r.1.1 ns r.1.2.k8sDeploymentName)))
          p p' s s' := by
      rintro _ _ rfl rfl
      exact ⟨rfl, h⟩
    refine hraise _ _ ?_ ?_
    · cases r with
      | none => rfl
      | some a => exact if_pos (of_decide_eq_false (hr a rfl))
    · cases r' with
      | none => rfl
      | some a => exact if_pos (of_decide_eq_false (hr' a rfl))

/-! ## Background tasks -/

-- its bounds are literals that are not to be evaluated on an unknown key
attribute [local irreducible] lookupInt

theorem dispatch_tandem (h : InStep cfg t tenant w w' own s s') (event : String)
    (payload : Payload) :
    Tandem cfg t tenant w w' (fun _ => InStepAny cfg t tenant w w')
      (dispatchTenantWebhooks cfg t event payload) (dispatchTenantWebhooks cfg t event payload)
      s s' := by
  refine h.call (e := .sys (.mark (.dispatchTenantWebhooks t event payload))) trivial
    (fun _ _ h => ?_)
  refine h.call (e := .db (.selectActiveWebhookRegistrations t)) rfl (fun o _ h => ?_)
  generalize hr : (handle (.db (.selectActiveWebhookRegistrations t)) o _).1 = registrations
  have howns : ∀ ref, (∃ r ∈ registrations, ref = .webhookRegistration r.1) → s.db.Owns t ref := by
    rintro _ ⟨⟨id, row⟩, hmem, rfl⟩
    rw [← show _ = registrations from hr] at hmem
    obtain ⟨hget, hp⟩ := (Table.mem_select _ _ id row).mp hmem
    exact ⟨row, hget, of_decide_eq_true (Bool.and_eq_true_iff.mp hp).1⟩
  have hown := h.owning _ howns
  refine (hown.uses (P := fun _ => True) ?_).mono (fun _ _ _ h => h.2.any) (fun _ _ h => h.any)
  refine (deliverAll_uses cfg trivial (fun _ _ _ => trivial) t event payload registrations).bind
    (fun ds hds => ?_)
  show (if _ then _ else _ : Py Unit).Uses _ _
  split
  · refine ⟨fun d hd => ?_, fun r => by cases r <;> trivial⟩
    obtain ⟨ht, r, hmem, heq⟩ := hds d hd
    exact ⟨ht, r, hmem, by rw [heq]⟩
  · trivial

theorem pollLoop_tandem {β : Type} {timeout interval : ℕ} {read : Py (Option β)}
    {resolve : β → Py Unit} {expire : Py Unit} (h : InStep cfg t tenant w w' own s s')
    (hread : ∀ s s', InStep cfg t tenant w w' own s s' →
      Tandem cfg t tenant w w' (fun _ => InStep cfg t tenant w w' own) read read s s')
    (hresolve : ∀ b s s', InStep cfg t tenant w w' own s s' → Tandem cfg t tenant w w'
      (fun _ => InStepAny cfg t tenant w w') (resolve b) (resolve b) s s')
    (hexpire : ∀ s s', InStep cfg t tenant w w' own s s' → Tandem cfg t tenant w w'
      (fun _ => InStepAny cfg t tenant w w') expire expire s s')
    (fuel elapsed : ℕ) :
    Tandem cfg t tenant w w' (fun _ => InStepAny cfg t tenant w w')
      (pollLoop timeout interval read resolve expire fuel elapsed)
      (pollLoop timeout interval read resolve expire fuel elapsed) s s' := by
  induction fuel generalizing elapsed s s' with
  | zero => exact hexpire s s' h
  | succ fuel ih =>
      unfold pollLoop
      by_cases helapsed : elapsed < timeout
      · rw [if_pos helapsed]
        refine h.call (e := .sys (.sleep interval)) trivial (fun _ _ h => ?_)
        refine (hread _ _ h).bind (fun b s₁ s₁' h => ?_)
        cases b with
        | none => exact ih h (elapsed + interval)
        | some b => exact hresolve b s₁ s₁' h
      · rw [if_neg helapsed]
        exact hexpire s s' h

theorem confined_getBuildJob {ns : String} {unused : String → Prop} {id : ℕ}
    (hown : own (.buildJob id)) : (Call.db (.getBuildJob id)).confined t ns unused own := by
  show own (.buildJob (id : ℤ).toNat)
  rw [Int.toNat_natCast]
  exact hown

theorem resolveBuild_tandem {id : ℕ}
    (h : InStep cfg t tenant w w' (fun ref => ref = .buildJob id) s s')
    (resolved : BuildReport × Bool) :
    Tandem cfg t tenant w w' (fun _ => InStepAny cfg t tenant w w') (resolveBuild cfg id resolved)
      (resolveBuild cfg id resolved) s s' := by
  have hc : (Call.db (.getBuildJob id)).confined t tenant.k8sNamespace (UnclaimedIn t w w')
      (fun ref => ref = .buildJob id) := confined_getBuildJob rfl
  refine h.call hc (fun o _ h => ?_)
  generalize hr : (handle (.db (.getBuildJob id)) o s).1 = r
  rcases r with x | _ | ⟨n, loaded⟩
  · exact ⟨rfl, h.any⟩
  · exact ⟨rfl, h.any⟩
  · obtain ⟨hn, hget⟩ := lookupInt_ok hr
    obtain rfl : id = n := Int.ofNat.inj hn
    obtain ⟨row, hrow, ht⟩ := h.owns (.buildJob id) rfl
    obtain rfl : row = loaded := Option.some.inj (hrow.symm.trans hget)
    refine h.call (e := .sys .nowNaive) trivial (fun o₁ _ h => ?_)
    refine h.call (e := .db (.commitBuildJob id _)) rfl (fun o₂ _ h => ?_)
    generalize (handle _ o₂ _).1 = r
    cases r with
    | error x => exact ⟨rfl, h.any⟩
    | ok _ =>
        have htenant : ∀ endedAt, ((resolvedChanges resolved.1 resolved.2 endedAt).apply
          row).tenantId = t := fun _ => ht
        show Tandem cfg t tenant w w' _ (dispatchTenantWebhooks cfg (_ : BuildJob).tenantId _ _)
          (dispatchTenantWebhooks cfg (_ : BuildJob).tenantId _ _) _ _
        rw [htenant]
        exact dispatch_tandem h _ _

theorem expireBuild_confined {ns : String} {unused : String → Prop} {id : ℕ}
    (hown : own (.buildJob id)) :
    (expireBuild id).Uses (fun e => e.confined t ns unused own) (fun _ => True) := by
  refine ⟨confined_getBuildJob hown, fun r => ?_⟩
  rcases r with x | _ | ⟨n, job⟩
  · trivial
  · trivial
  · show (if _ then _ else _ : Py Unit).Uses _ _
    split
    · exact ⟨trivial, fun _ => ⟨hown, fun r => by cases r <;> trivial⟩⟩
    · trivial

theorem resolveDeployment_tandem {id : ℕ}
    (h : InStep cfg t tenant w w' (fun ref => ref = .deployment id) s s') (running : Bool) :
    Tandem cfg t tenant w w' (fun _ => InStepAny cfg t tenant w w')
      (resolveDeployment cfg id running) (resolveDeployment cfg id running) s s' := by
  refine h.call (e := .db (.getDeployment id)) rfl (fun o _ h => ?_)
  obtain ⟨row, hrow, ht⟩ := h.owns (.deployment id) rfl
  have hget : (handle (.db (.getDeployment id)) o s).1 = some row := hrow
  rw [hget]
  refine h.call (e := .db (.commitDeployment id _)) rfl (fun o₂ _ h => ?_)
  generalize (handle _ o₂ _).1 = r
  cases r with
  | error x => exact ⟨rfl, h.any⟩
  | ok _ =>
      subst ht
      exact dispatch_tandem h _ _

theorem expireDeployment_confined {ns : String} {unused : String → Prop} {id : ℕ}
    (hown : own (.deployment id)) :
    (expireDeployment id).Uses (fun e => e.confined t ns unused own) (fun _ => True) := by
  refine ⟨hown, fun r => ?_⟩
  cases r with
  | none => trivial
  | some row =>
      show (if _ then _ else _ : Py Unit).Uses _ _
      split
      · exact ⟨hown, fun r => by cases r <;> trivial⟩
      · trivial

theorem task_tandem {task : BackgroundTask} (h : InStep cfg t tenant w w' own s s')
    (hb : task.confined tenant.k8sNamespace own) :
    Tandem cfg t tenant w w' (fun _ => InStepAny cfg t tenant w w') (task.run cfg) (task.run cfg)
      s s' := by
  cases task with
  | pollBuildUntilDone id ns =>
      obtain ⟨rfl, hid⟩ := hb
      have h := h.only (.buildJob id) (h.owns _ hid)
      refine h.call (e := .sys (.mark _)) trivial (fun _ _ h => ?_)
      refine pollLoop_tandem h ?_ ?_ ?_ _ _
      · intro s s' h
        refine (h.uses (P := fun _ => True) ?_).mono (fun _ _ _ h => h.2) (fun _ _ h => h.any)
        exact Prog.Uses.bind (getBuildStatus_calls rfl) (fun _ _ => trivial)
      · exact fun resolved s s' h => resolveBuild_tandem h resolved
      · intro s s' h
        have huses : (expireBuild id).Uses (fun e => e.confined t tenant.k8sNamespace
            (UnclaimedIn t w w') (fun ref => ref = .buildJob id)) (fun _ => True) :=
          expireBuild_confined rfl
        exact (h.uses huses).mono (fun _ _ _ h => h.2.any) (fun _ _ h => h.any)
  | pollDeploymentUntilRunning id ns name =>
      obtain ⟨rfl, hid⟩ := hb
      have h := h.only (.deployment id) (h.owns _ hid)
      refine h.call (e := .sys (.mark _)) trivial (fun _ _ h => ?_)
      refine pollLoop_tandem h ?_ ?_ ?_ _ _
      · intro s s' h
        refine (h.uses (P := fun _ => True) ?_).mono (fun _ _ _ h => h.2) (fun _ _ h => h.any)
        exact Prog.Uses.bind (getDeploymentStatus_calls rfl) (fun _ _ => trivial)
      · exact fun running s s' h => resolveDeployment_tandem h running
      · intro s s' h
        exact (h.uses (expireDeployment_confined rfl)).mono (fun _ _ _ h => h.2.any)
          (fun _ _ h => h.any)

/-! ## Whole requests -/

theorem TenantRequest.handle_tandem (r : TenantRequest) (h : InStepAny cfg t tenant w w' s s') :
    Tandem cfg t tenant w w' (fun reply => Handoff cfg t tenant w w' reply.2) (r.handle cfg t)
      (r.handle cfg t) s s' := by
  by_cases hscoped : r.scoped = true
  · refine (h.uses ((r.handle_scoped cfg t hscoped).mono (fun _ => confined_of_scoped)
      (fun _ h => h))).mono ?_ (fun _ _ h => h)
    rintro reply s₁ s₁' ⟨hnone, h⟩
    rw [hnone]
    exact h.handoff
  · cases r with
    | createApiKey body =>
        exact (checked_tandem h body).bind (fun keyData _ _ h => createApiKey_tandem h keyData)
    | revokeApiKey keyId => exact revokeApiKey_tandem h keyId
    | createBuildJob body =>
        exact (checked_tandem h body).bind
          (fun buildData _ _ h => createBuildJob_tandem h buildData)
    | createDeployment body =>
        refine (checked_tandem h body).bind (fun deployData s₁ s₁' h => ?_)
        refine Prog.Coupled.bind (M := fun r => Handoff cfg t tenant w w'
          (r.2.map (fun ns => .pollDeploymentUntilRunning r.1.1 ns r.1.2.k8sDeploymentName))) ?_
          (fun _ _ _ h => ⟨rfl, h⟩)
        exact (createDeploymentService_tandem h deployData).tryCatch
          (fun x _ _ h => by cases x <;> exact ⟨rfl, h⟩)
    | getKubeconfig => exact getKubeconfig_tandem h
    | _ => exact absurd rfl hscoped

theorem Handoff.any {task : Option BackgroundTask} (h : Handoff cfg t tenant w w' task s s') :
    InStepAny cfg t tenant w w' s s' :=
  h.elim (fun _ h => h.1.any)

/-- From the check of the key to the reply. -/
theorem serve_tandem {adminSecretKey xApiKey : String} (r : TenantRequest)
    (hverify : Tandem cfg t tenant w w' (fun _ => InStepAny cfg t tenant w w')
      (verifyTenant cfg t xApiKey) (verifyTenant cfg t xApiKey) s s') :
    Tandem cfg t tenant w w' (fun reply => Handoff cfg t tenant w w' reply.2)
      ((Request.tenant t xApiKey r).serve cfg adminSecretKey)
      ((Request.tenant t xApiKey r).serve cfg adminSecretKey) s s' := by
  refine (hverify.bind (fun _ _ _ h => r.handle_tandem h)).tryCatch ?_
  intro e s₁ s₁' h
  refine ⟨rfl, ?_⟩
  show Handoff cfg t tenant w w' (errorReply e).2 s₁ s₁'
  rw [errorReply_task]
  exact h.handoff

/-! ## The theorem -/

/-- The UNIQUE constraint on `api_keys.key_hash`. -/
def Database.UniqueKeyHashes (db : Database) : Prop :=
  ∀ id id' row row', db.apiKeys.get id = some row → db.apiKeys.get id' = some row' →
    row.keyHash = row'.keyHash → id = id'

/-- A key that is accepted in one world is looked up with the same result in the other. -/
theorem lookupApiKey_agree {db db' : Database} (h : db.Agree t db') (hunique : db.UniqueKeyHashes)
    (hunique' : db'.UniqueKeyHashes) {keyHash : String} {row : ApiKey}
    (hfound : db.lookupApiKey keyHash = [(row, tenant)]) (ht : row.tenantId = t) :
    db'.lookupApiKey keyHash = [(row, tenant)] := by
  obtain ⟨id, hid, hhash, -, -⟩ := mem_lookupApiKey.mp (hfound ▸ List.mem_singleton.mpr rfl)
  have hid' := h.apiKeys.get hid (decide_eq_true ht)
  have hrows : db.apiKeys.SameRows (fun k => k.keyHash = keyHash && k.revokedAt.isNone)
      db'.apiKeys := by
    refine h.apiKeys.mono (fun j a ha hp => ?_) (fun j a ha hp => ?_)
    · have hp := of_decide_eq_true (Bool.and_eq_true_iff.mp hp).1
      obtain rfl := hunique j id a row ha hid (hp.trans hhash.symm)
      exact decide_eq_true (Option.some.inj (hid.symm.trans ha) ▸ ht)
    · have hp := of_decide_eq_true (Bool.and_eq_true_iff.mp hp).1
      obtain rfl := hunique' j id a row ha hid' (hp.trans hhash.symm)
      exact decide_eq_true (Option.some.inj (hid'.symm.trans ha) ▸ ht)
  rw [← hfound, Database.lookupApiKey, Database.lookupApiKey, hrows.select (fun _ h => h)]
  refine List.filterMap_congr (fun r hr => ?_)
  obtain ⟨hget, hp⟩ := (Table.mem_select _ _ r.1 r.2).mp hr
  have hp := of_decide_eq_true (Bool.and_eq_true_iff.mp hp).1
  obtain rfl := hunique' r.1 id r.2 row hget hid' (hp.trans hhash.symm)
  rw [← Option.some.inj (hid'.symm.trans hget), ht, h.tenant]

/-- A program of the tenant tells the worlds apart by nothing, and touches nothing of others. -/
structure TellsNothing (t : ℕ) (p : Py α) (ω : ℕ → Outcome) (w w' : World) : Prop where
  result : (p.run handle ω w).1 = (p.run handle ω w').1
  agree : (p.run handle ω w).2.Agree t (p.run handle ω w').2
  left : w.Untouched t (p.run handle ω w).2
  right : w'.Untouched t (p.run handle ω w').2

theorem InStep.start (h : w.Agree t w') (ht : w.db.tenants.get t = some tenant) :
    InStepAny cfg t tenant w w' w w' :=
  ⟨ht, h.db, h.cluster tenant ht, ⟨.refl t w.db, .refl _ w.cluster⟩,
    ⟨.refl t w'.db, .refl _ w'.cluster⟩, fun _ h => h.elim, fun _ ho => ho.fresh⟩

theorem tellsNothing_of_tandem {p : Py α} {ω : ℕ → Outcome} (h : w.Agree t w')
    (ht : w.db.tenants.get t = some tenant) (hω : ∀ n, (ω n).NewIn cfg t w.db w'.db)
    (hp : Tandem cfg t tenant w w' (fun _ => InStepAny cfg t tenant w w') p p w w') :
    TellsNothing t p ω w w' := by
  obtain ⟨hresult, hend⟩ := hp.run hω
  have hsame : ∀ row, w.db.tenants.get t = some row → row = tenant :=
    fun row hrow => Option.some.inj (hrow.symm.trans ht)
  refine ⟨hresult, ⟨hend.db, fun row hrow => ?_⟩, ⟨hend.left.1, fun row hrow => ?_⟩,
    ⟨hend.right.1, fun row hrow => ?_⟩⟩
  · rw [Option.some.inj (hrow.symm.trans hend.known)]
    exact hend.cluster
  · rw [hsame row hrow]
    exact hend.left.2
  · rw [hsame row (by rw [h.db.tenant, hrow])]
    exact hend.right.2

/-- A request of an accepted key gets the same reply in all worlds that agree for its tenant,
does the same to what is the tenant's, then and in its background task, and touches nothing
that is not. -/
theorem tenants_do_not_interfere (cfg : Settings) (adminSecretKey : String) (t : ℕ)
    (xApiKey : String) (r : TenantRequest) {w w' : World} (h : w.Agree t w')
    (hunique : w.db.UniqueKeyHashes) (hunique' : w'.db.UniqueKeyHashes) {ω : ℕ → Outcome}
    (hauth : ((verifyTenant cfg t xApiKey).run handle ω w).1 = .ok ())
    (hω : ∀ n, (ω n).NewIn cfg t w.db w'.db) :
    TellsNothing t ((Request.tenant t xApiKey r).serve cfg adminSecretKey) ω w w' ∧
      TellsNothing t ((Request.tenant t xApiKey r).thread cfg adminSecretKey) ω w w' := by
  obtain ⟨row, tenant, hfound, htenant, hactive⟩ := verifyTenant_ok_iff.mp hauth
  have hrow : row.tenantId = t := Int.ofNat_inj.mp htenant
  have hfound' := lookupApiKey_agree h.db hunique hunique' hfound hrow
  obtain ⟨-, -, -, -, ht⟩ := mem_lookupApiKey.mp (hfound ▸ List.mem_singleton.mpr rfl)
  rw [hrow] at ht
  have hstart : InStepAny cfg t tenant w w' w w' := .start h ht
  have hverify : Tandem cfg t tenant w w' (fun _ => InStepAny cfg t tenant w w')
      (verifyTenant cfg t xApiKey) (verifyTenant cfg t xApiKey) w w' := by
    intro o _
    simp only [handle, handleDb]
    rw [hfound, hfound']
    show Tandem cfg t tenant w w' _ (if _ then _ else if _ then _ else _ : Py Unit)
      (if _ then _ else if _ then _ else _ : Py Unit) w w'
    rw [if_neg (not_not.mpr htenant), if_neg (by rw [hactive]; decide)]
    exact ⟨rfl, hstart⟩
  have hserve := @serve_tandem cfg t tenant w w' w w' adminSecretKey xApiKey r hverify
  refine ⟨tellsNothing_of_tandem h ht hω ?_, tellsNothing_of_tandem h ht hω ?_⟩
  · exact hserve.mono (fun _ _ _ h => Handoff.any h) (fun _ _ h => h)
  · refine hserve.bind ?_
    rintro ⟨response, task | task⟩ s₁ s₁' ⟨own, h, hb⟩
    · exact ⟨rfl, h.any⟩
    · exact task_tandem h (hb task rfl)

end

/-! ### A build job of another tenant -/

/-- Tenants 1 and 2, and a key of tenant 1. -/
def twoTenants : Database :=
  { Database.empty with
    tenants := (Table.empty.put 1 ⟨"acme", "tenant-1", 0, true⟩).put 2
      ⟨"umbrella", "tenant-2", 0, true⟩
    apiKeys := Table.empty.put 1
      ⟨1, "primary", keyPrefix sampleKey, sampleSettings.hashApiKey sampleKey, 0, none⟩
    buildJobs := Table.empty.reserve 1 }

def absentJobWorld : World := ⟨twoTenants, .empty⟩

def foreignJobWorld : World :=
  ⟨{ twoTenants with
      buildJobs := Table.empty.put 1
        ⟨2, "https://git.example/app", "main", none, .succeeded, some "registry/app", none, 0, none,
          none⟩ }, .empty⟩

theorem foreignJobWorld_agree : foreignJobWorld.Agree 1 absentJobWorld where
  db := by
    refine ⟨rfl, .refl _ _, fun id => ?_, .refl _ _, .refl _ _, .refl _ _⟩
    by_cases hid : id = 1
    · subst hid
      rfl
    · have hnone : foreignJobWorld.db.buildJobs.get id = none := Table.get_put_of_ne _ _ hid
      rw [hnone]
      rfl
  cluster _ _ := ⟨fun _ _ => rfl, rfl, rfl, rfl, rfl, rfl⟩

theorem twoTenants_uniqueKeyHashes {db : Database} (h : db.apiKeys = twoTenants.apiKeys) :
    db.UniqueKeyHashes := by
  have hone : ∀ id row, db.apiKeys.get id = some row → id = 1 := by
    intro id row hrow
    rw [h] at hrow
    by_contra hid
    rw [show twoTenants.apiKeys.get id = none from Table.get_put_of_ne _ _ hid] at hrow
    cases hrow
  intro id id' row row' hrow hrow' _
  rw [hone id row hrow, hone id' row' hrow']

/-- No other tenant has a key at all. -/
theorem twoTenants_unclaimed {db : Database} (h : db.apiKeys = twoTenants.apiKeys)
    (keyHash : String) : db.Unclaimed 1 keyHash := by
  intro id row hrow ht
  rw [h] at hrow
  by_cases hid : id = 1
  · subst hid
    obtain rfl := Option.some.inj hrow
    exact absurd rfl ht
  · rw [show twoTenants.apiKeys.get id = none from Table.get_put_of_ne _ _ hid] at hrow
    cases hrow

/-- Deploying it is answered as if there were none. -/
theorem tenants_do_not_interfere_foreign :
    TellsNothing 1 ((Request.tenant 1 sampleKey (.createDeployment (.ok ⟨1, 1, by decide⟩))).serve
        sampleSettings "admin") (fun _ => .ok) foreignJobWorld absentJobWorld ∧
      TellsNothing 1
        ((Request.tenant 1 sampleKey (.createDeployment (.ok ⟨1, 1, by decide⟩))).thread
        sampleSettings "admin") (fun _ => .ok) foreignJobWorld absentJobWorld :=
  tenants_do_not_interfere sampleSettings "admin" 1 sampleKey _ foreignJobWorld_agree
    (twoTenants_uniqueKeyHashes rfl) (twoTenants_uniqueKeyHashes rfl) (by decide +kernel)
    (fun _ => ⟨⟨rfl, rfl, rfl, rfl, rfl⟩, twoTenants_unclaimed rfl _, twoTenants_unclaimed rfl _⟩)

end TenantPlatform
