import TenantPlatform.Verification.Rollout.Controller

/-! # Deployment rows and the one Deployment they share

All deployments of a tenant write the same object, each of its requests once. A row that
says `running` therefore agrees with the object until another request changes it, and is
not revisited then. -/

namespace TenantPlatform

open Effect

variable {ι : Type} [DecidableEq ι]

/-! ## The shared object -/

/-- A call that asks for a state of the tenant's Deployment. -/
inductive AppCall (ns : String) (image : Option String) (replicas : ℕ) : Call → Prop where
  | create : AppCall ns image replicas
      (.k8s (.create .deployment ns tenantAppName (deploymentBody image replicas tenantAppName)))
  | patch : AppCall ns image replicas
      (.k8s (.patchDeployment ns tenantAppName (deploymentPatch image replicas)))

/-- The Deployment is as the call asked for. -/
def Cluster.Runs (c : Cluster) (ns : String) (image : Option String) (replicas : ℕ) : Prop :=
  c.objects .deployment ns tenantAppName = some (deploymentBody image replicas tenantAppName)

/-- A create or patch that changed the spec of the Deployment, whatever it was answered. -/
def ChangesApp (ns : String) (ev : Event ι Call Call.Result World) : Prop :=
  (∃ image replicas, AppCall ns image replicas ev.call) ∧
    ev.post.cluster.objects .deployment ns tenantAppName ≠
      ev.pre.cluster.objects .deployment ns tenantAppName

/-- A patch turns any Deployment of the control plane into the one it asks for. -/
theorem apply_deploymentPatch (image image' : Option String) (replicas replicas' : ℕ)
    (name : String) :
    (deploymentPatch image' replicas').apply (deploymentBody image replicas name) =
      deploymentBody image' replicas' name := rfl

structure AppInv (t : Trail ι Call Call.Result World) : Prop where
  shape : ∀ n d, t.state.cluster.objects .deployment (tenantNamespace n) tenantAppName = some d →
    ∃ image replicas, d = deploymentBody image replicas tenantAppName
  last : ∀ after ev before n image replicas, t.events = after ++ ev :: before →
    WritesApp (tenantNamespace n) image replicas ev.toExchange →
    t.state.cluster.Runs (tenantNamespace n) image replicas ∨
      ∃ ev' ∈ after, ChangesApp (tenantNamespace n) ev'

/-- A call that changes a Deployment makes it what the call asks for. -/
theorem runs_of_changed {τ : History} {e : K8sCall} {c c' : Cluster} (hmay : mayK8s τ e)
    (hstep : ObjectsStep c c' e) {ns : String}
    (hshape : ∀ d, c.objects .deployment ns tenantAppName = some d →
      ∃ image replicas, d = deploymentBody image replicas tenantAppName)
    (hne : c'.objects .deployment ns tenantAppName ≠ c.objects .deployment ns tenantAppName) :
    ∃ image replicas, AppCall ns image replicas (.k8s e) ∧ c'.Runs ns image replicas := by
  cases hstep with
  | same _ h => exact absurd (by rw [h]) hne
  | created k ns' name b _ h =>
      by_cases heq : Kind.deployment = k ∧ ns = ns' ∧ tenantAppName = name
      · obtain ⟨rfl, rfl, rfl⟩ := heq
        obtain ⟨id, row, image, -, rfl, -, rfl⟩ := hmay
        exact ⟨image, row.replicaCount, .create, by rw [Cluster.Runs, h, Cluster.objects_put_self]⟩
      · exact absurd (by rw [h]; exact Cluster.objects_put_of_ne c b heq) hne
  | patched ns' name p d hd h =>
      by_cases heq : Kind.deployment = .deployment ∧ ns = ns' ∧ tenantAppName = name
      · obtain ⟨-, rfl, rfl⟩ := heq
        obtain ⟨id, row, image, -, rfl, -, rfl⟩ := hmay
        obtain ⟨image', replicas', rfl⟩ := hshape d hd
        exact ⟨image, row.replicaCount, .patch, by
          rw [Cluster.Runs, h, Cluster.objects_put_self, apply_deploymentPatch]⟩
      · exact absurd (by rw [h]; exact Cluster.objects_put_of_ne c _ heq) hne

/-- A write that is answered with success has taken effect. -/
theorem runs_of_writesApp {fault : Option Fault} {token : String} {e : K8sCall} {c : Cluster}
    {ns : String} {image : Option String} {replicas : ℕ}
    (hshape : ∀ d, c.objects .deployment ns tenantAppName = some d →
      ∃ image replicas, d = deploymentBody image replicas tenantAppName)
    (h : WritesApp ns image replicas ⟨.k8s e, (handleK8s fault token e c).1⟩) :
    (handleK8s fault token e c).2.Runs ns image replicas := by
  generalize hr : (handleK8s fault token e c).1 = r at h
  cases h with
  | created =>
      have hput := (Cluster.create_ok hr).2
      simp only [handleK8s, Cluster.Runs, hput, Cluster.objects_put_self]
  | patched =>
      obtain ⟨d, hd, hset⟩ := Cluster.patchDeployment_ok hr
      obtain ⟨image', replicas', rfl⟩ := hshape d hd
      simp only [handleK8s, Cluster.Runs, hset, Cluster.objects_setSpec, Cluster.objects_put_self,
        apply_deploymentPatch]

section Act

variable {t : Trail ι Call Call.Result World} {i : ι}

theorem appInv_k8s {e : K8sCall} {fault : Option Fault} {token : String} (h : AppInv t)
    (hmay : mayK8s (own i t.events) e) :
    AppInv (t.push i (.k8s e) (handleK8s fault token e t.state.cluster).1
      { t.state with cluster := (handleK8s fault token e t.state.cluster).2 }) := by
  have hstep := objectsStep_handleK8s fault token e t.state.cluster
  have hchanged := fun n => runs_of_changed hmay hstep (h.shape n)
  constructor
  · intro n d hd
    by_cases hsame : (handleK8s fault token e t.state.cluster).2.objects .deployment
        (tenantNamespace n) tenantAppName =
        t.state.cluster.objects .deployment (tenantNamespace n) tenantAppName
    · exact h.shape n d (hsame ▸ hd)
    · obtain ⟨image, replicas, -, hruns⟩ := hchanged n hsame
      exact ⟨image, replicas, Option.some.inj (hd.symm.trans hruns)⟩
  · intro after ev before n image replicas hevents hwrites
    cases after with
    | nil =>
        obtain ⟨rfl, -⟩ := List.cons.inj hevents
        exact .inl (runs_of_writesApp (h.shape n) hwrites)
    | cons ev' after =>
        obtain ⟨rfl, hrest⟩ := List.cons.inj hevents
        rcases h.last after ev before n image replicas hrest hwrites with hruns | ⟨ev', hev', hch⟩
        · by_cases hsame : (handleK8s fault token e t.state.cluster).2.objects .deployment
              (tenantNamespace n) tenantAppName =
              t.state.cluster.objects .deployment (tenantNamespace n) tenantAppName
          · exact .inl (hsame.trans hruns)
          · obtain ⟨image', replicas', hcall, -⟩ := hchanged n hsame
            exact .inr ⟨_, List.mem_cons_self, ⟨image', replicas', hcall⟩, hsame⟩
        · exact .inr ⟨ev', List.mem_cons_of_mem _ hev', hch⟩

omit [DecidableEq ι] in
/-- A call of anything but the cluster. -/
theorem appInv_other {e : Call} {r : Call.Result e} {s : World} (h : AppInv t)
    (hs : s.cluster = t.state.cluster)
    (hw : ∀ ns image replicas, ¬ WritesApp ns image replicas ⟨e, r⟩) : AppInv (t.push i e r s) := by
  constructor
  · intro n d hd
    rw [Trail.push_state, hs] at hd
    exact h.shape n d hd
  · intro after ev before n image replicas hevents hwrites
    cases after with
    | nil =>
        obtain ⟨rfl, -⟩ := List.cons.inj hevents
        exact absurd hwrites (hw _ _ _)
    | cons ev' after =>
        obtain ⟨rfl, hrest⟩ := List.cons.inj hevents
        rcases h.last after ev before n image replicas hrest hwrites with hruns | ⟨ev', hev', hch⟩
        · left
          rw [Trail.push_state, hs]
          exact hruns
        · exact .inr ⟨ev', List.mem_cons_of_mem _ hev', hch⟩

end Act

/-! ## What a running row stands on -/

/-- A row in `deploying` or `running` was applied. -/
theorem applied_of_lastDeployment {τ : History} (h : requestDiscipline.Legal τ) {id : ℕ}
    {row : Deployment} (hlast : lastDeployment τ id = some row)
    (hstatus : row.status = .deploying ∨ row.status = .running) : Applied τ row := by
  induction τ with
  | nil => cases hlast
  | cons x past ih =>
      obtain ⟨hmay, hexp, hpast⟩ := h
      cases hw : writtenDeployment x with
      | none =>
          rw [lastDeployment, lastRow_cons_none hw] at hlast
          exact (ih hpast hlast).cons x
      | some written =>
          obtain ⟨id', row'⟩ := written
          rw [lastDeployment, lastRow_cons_some hw] at hlast
          split at hlast
          · obtain rfl := Option.some.inj hlast
            refine Applied.cons ?_ x
            obtain ⟨e, r⟩ := x
            rcases e with e | e | e
            · cases e with
              | insertDeployment tenantId buildJobId name status replicaCount =>
                  rcases r with x | ⟨_, _⟩
                  · cases hw
                  · cases hw
                    obtain ⟨-, now, rfl⟩ := hexp
                    rw [show status = .pending from hmay.1] at hstatus
                    rcases hstatus with hstatus | hstatus <;> cases hstatus
              | commitDeployment _ status =>
                  cases r with
                  | error x => cases hw
                  | ok _ =>
                      cases hw
                      obtain ⟨old, hold, -, happlied, -⟩ := hmay
                      obtain ⟨now, rfl⟩ := hexp old hold
                      exact (happlied hstatus).withStatus status now
              | _ => cases hw
            · cases hw
            · cases hw
          · exact (ih hpast hlast).cons x

/-- A request writes the Deployment successfully at most once, as its last write of it. -/
theorem not_appCall_of_writesApp {τ : History} {e : Call} (hmay : mayCall τ e) {ns ns' : String}
    {image image' : Option String} {replicas replicas' : ℕ}
    (hw : ∃ x ∈ τ, WritesApp ns image replicas x) : ¬ AppCall ns' image' replicas' e := by
  obtain ⟨x, hx, hw⟩ := hw
  rintro (_ | _)
  · obtain ⟨id, row, image, hp, -⟩ := hmay
    exact hp.unwritten x hx _ _ _ hw
  · obtain ⟨id, row, image, hp, -⟩ := hmay
    exact hp.unwritten x hx _ _ _ hw

/-- A build job that was seen in a terminal status is as it was seen, to everybody. -/
def BuildsFrozen (t : Trail ι Call Call.Result World) : Prop :=
  ∀ i id job, SawBuild (own i t.events) id job → job.status.terminal = true →
    id < t.state.db.buildJobs.next ∧
      ∀ k row, lastBuild (own k t.events) id = some row → row = job

theorem buildsFrozen_db {t : Trail ι Call Call.Result World} {i : ι} {e : DbCall} {o : Outcome}
    (hsound : Sound t) (h : BuildsFrozen t) (hmay : mayDb (own i t.events) e) :
    BuildsFrozen (t.push i (.db e) (handleDb o.want o.now e t.state.db).1
      { t.state with db := (handleDb o.want o.now e t.state.db).2 }) := by
  generalize hr : (handleDb o.want o.now e t.state.db).1 = r
  have hnext : t.state.db.buildJobs.next ≤
      (handleDb o.want o.now e t.state.db).2.buildJobs.next := by
    cases hw : e.writtenBuild r with
    | none => exact (buildJobs_shrinks (hr ▸ hw)).next_le
    | some written =>
        cases e with
        | insertBuildJob tenantId gitUrl gitRevision gitSubPath status =>
            rcases r with x | ⟨id, row⟩
            · cases hw
            · exact (Database.insertBuildJob_ok (Prod.ext hr rfl)).2.1.next_le
        | commitBuildJob id changes =>
            cases r with
            | error x => cases hw
            | ok row => exact (Database.commitBuildJob_ok (Prod.ext hr rfl)).1.next_le
        | _ => cases hw
  -- it is enough that what was seen before the call, or by it, was so before the call
  have hseen : ∀ k id job, SawBuild (own k (t.push i (.db e) r
      { t.state with db := (handleDb o.want o.now e t.state.db).2 }).events) id job →
      job.status.terminal = true → id < t.state.db.buildJobs.next ∧
        ∀ k row, lastBuild (own k t.events) id = some row → row = job := by
    rintro k id job ⟨key, hmem⟩ hterminal
    rcases mem_own_push hmem with hmem | ⟨-, hx⟩
    · exact h k id job ⟨key, hmem⟩ hterminal
    · obtain rfl : DbCall.getBuildJob key = e := Call.db.inj (congrArg Exchange.call hx)
      obtain rfl : Except.ok (some (id, job)) = r := eq_of_heq (Exchange.mk.inj hx).2
      obtain ⟨-, hget⟩ := lookupInt_ok hr
      exact ⟨t.state.db.buildJobs.below id job hget,
        fun k row hrow => (hsound.consistent.builds.found hget k row hrow).symm⟩
  intro k id job hsaw hterminal
  obtain ⟨hlt, hfrozen⟩ := hseen k id job hsaw hterminal
  refine ⟨Nat.lt_of_lt_of_le hlt hnext, ?_⟩
  intro k row hlast
  cases hw : writtenBuild ⟨.db e, r⟩ with
  | none =>
      rw [lastBuild, lastRow_push_none (f := writtenBuild) hw] at hlast
      exact hfrozen k row hlast
  | some written =>
      obtain ⟨id', row'⟩ := written
      rw [lastBuild, lastRow_push_some (f := writtenBuild) hw] at hlast
      split at hlast
      · rename_i hid
        obtain ⟨rfl, rfl⟩ := hid
        cases e with
        | insertBuildJob tenantId gitUrl gitRevision gitSubPath status =>
            rcases r with x | ⟨_, _⟩
            · cases hw
            · cases hw
              have hfresh := (Database.insertBuildJob_ok (Prod.ext hr rfl)).1
              omega
        | commitBuildJob _ changes =>
            cases r with
            | error x => cases hw
            | ok _ =>
                cases hw
                obtain ⟨mine, hmine, hactive, -⟩ := hmay
                rw [hfrozen k mine hmine, hterminal] at hactive
                cases hactive
        | _ => cases hw
      · exact hfrozen k row hlast

theorem buildsFrozen_other {t : Trail ι Call Call.Result World} {i : ι} {e : Call}
    {r : Call.Result e} {s : World} (h : BuildsFrozen t) (hs : s.db = t.state.db)
    (hw : writtenBuild ⟨e, r⟩ = none)
    (hsaw : ∀ key id job, (⟨e, r⟩ : Exchange Call Call.Result) ≠
      ⟨.db (.getBuildJob key), .ok (some (id, job))⟩) : BuildsFrozen (t.push i e r s) := by
  rintro k id job ⟨key, hmem⟩ hterminal
  rcases mem_own_push hmem with hmem | ⟨-, hx⟩
  · rw [Trail.push_state, hs]
    obtain ⟨hlt, hfrozen⟩ := h k id job ⟨key, hmem⟩ hterminal
    refine ⟨hlt, fun k row hlast => hfrozen k row ?_⟩
    rwa [lastBuild, lastRow_push_none (f := writtenBuild) hw] at hlast
  · exact absurd hx.symm (hsaw key id job)

/-! ## Reachable configurations -/

section Reachable

variable {cfg : Settings} {adminSecretKey : String} {requests : ι → Request} {cluster : Cluster}
  {env : World → World → Prop} {c : Config ι Call Call.Result PyException World}

theorem appInv_reach (henv : KeepsTenantObjects env) (hcluster : cluster.NoTenants)
    (hc : Reach (platform env) (platformStart cfg adminSecretKey requests cluster) c) :
    AppInv c.trail := by
  refine Reach.inv (B := Sound) (fun c hc => platform_sound henv.keepsDatabase hc) ?_ ?_ ?_ hc
  · constructor
    · intro n d hd
      have hnone := hcluster.absent (.inside n .deployment tenantAppName)
      exact nomatch hnone.symm.trans hd
    · intro after ev before n image replicas hevents
      cases after <;> cases hevents
  · rintro t i e r s - hnext h ⟨o, ho⟩
    have hlegal := hnext.legal i
    rw [own_push_self] at hlegal
    cases e with
    | db e =>
        obtain ⟨rfl, rfl⟩ := Prod.mk.inj ho
        exact appInv_other h rfl (by rintro _ _ _ ⟨⟩)
    | k8s e =>
        obtain ⟨rfl, rfl⟩ := Prod.mk.inj ho
        exact appInv_k8s h hlegal.1
    | sys e =>
        obtain ⟨rfl, rfl⟩ := Prod.mk.inj ho
        exact appInv_other h rfl (by rintro _ _ _ ⟨⟩)
  · intro t s _ h hs
    have hobjects := fun n => (henv _ _ hs).2 _ _ _ (.inside n .deployment tenantAppName)
    refine ⟨fun n d hd => h.shape n d (hobjects n ▸ hd), ?_⟩
    intro after ev before n image replicas hevents hwrites
    rcases h.last after ev before n image replicas hevents hwrites with hruns | hch
    · exact .inl ((hobjects n).trans hruns)
    · exact .inr hch

theorem buildsFrozen_reach (henv : KeepsDatabase env)
    (hc : Reach (platform env) (platformStart cfg adminSecretKey requests cluster) c) :
    BuildsFrozen c.trail := by
  refine Reach.inv (B := Sound) (fun c hc => platform_sound henv hc) ?_ ?_ ?_ hc
  · rintro i id job ⟨key, hmem⟩
    cases hmem
  · rintro t i e r s hsound hnext h ⟨o, ho⟩
    have hlegal := hnext.legal i
    rw [own_push_self] at hlegal
    cases e with
    | db e =>
        obtain ⟨rfl, rfl⟩ := Prod.mk.inj ho
        exact buildsFrozen_db hsound h hlegal.1
    | k8s e =>
        obtain ⟨rfl, rfl⟩ := Prod.mk.inj ho
        exact buildsFrozen_other h rfl rfl (by rintro _ _ _ ⟨⟩)
    | sys e =>
        obtain ⟨rfl, rfl⟩ := Prod.mk.inj ho
        exact buildsFrozen_other h rfl rfl (by rintro _ _ _ ⟨⟩)
  · intro t s _ h hs i id job hsaw hterminal
    rw [henv _ _ hs]
    exact h i id job hsaw hterminal

/-- The image that a request asked for is still the one of its build job. -/
theorem imageTag_of_asks (henv : KeepsDatabase env)
    (hc : Reach (platform env) (platformStart cfg adminSecretKey requests cluster) c) {i : ι}
    {τ : History} (hτ : ∀ x ∈ τ, x ∈ own i c.trail.events) {row : Deployment}
    {image : Option String} (hasks : Asks τ row image) {job : BuildJob}
    (hjob : c.trail.state.db.buildJobs.get row.buildJobId = some job) : job.imageTag = image := by
  obtain ⟨job', ⟨key, hmem⟩, -, hstatus, himage⟩ := hasks.saw
  obtain ⟨k, hk⟩ := (platform_sound henv hc).consistent.builds.covered _ _ hjob
  have hfrozen := buildsFrozen_reach henv hc i row.buildJobId job' ⟨key, hτ _ hmem⟩
    (by rw [hstatus]; rfl)
  rw [hfrozen.2 k job hk, himage]

/-- A row that says `running` had its image and replica count written to the tenant's
Deployment, and they are still what its spec says unless another request has changed it
since. -/
theorem running_agrees_unless_rewritten (henv : KeepsTenantObjects env)
    (hcluster : cluster.NoTenants)
    (hc : Reach (platform env) (platformStart cfg adminSecretKey requests cluster) c) {id : ℕ}
    {row : Deployment} (hrow : c.trail.state.db.deployments.get id = some row)
    (hrunning : row.status = .running) :
    ∃ i after ev before image, c.trail.events = after ++ ev :: before ∧ ev.actor = i ∧
      Owned (.deployment id) (own i c.trail.events) ∧
      WritesApp (tenantNamespace row.tenantId) image row.replicaCount ev.toExchange ∧
      (∀ job, c.trail.state.db.buildJobs.get row.buildJobId = some job → job.imageTag = image) ∧
      ((∃ spec, c.trail.state.cluster.objects .deployment (tenantNamespace row.tenantId)
          tenantAppName = some spec ∧ DeploymentBody.image spec = image ∧
          DeploymentBody.replicas spec = some row.replicaCount) ∨
        ∃ ev' ∈ after, ev'.actor ≠ i ∧ ChangesApp (tenantNamespace row.tenantId) ev') := by
  have hsound := platform_sound henv.keepsDatabase hc
  obtain ⟨i, hlast⟩ := hsound.consistent.deployments.covered id row hrow
  obtain ⟨image, hasks, x, hx, hwrites⟩ :=
    applied_of_lastDeployment (hsound.legal i) hlast (.inr hrunning)
  obtain ⟨later, past, hsplit⟩ := List.append_of_mem hx
  obtain ⟨after, ev, before, hevents, hactor, rfl, -, -⟩ := exists_event_of_own hsplit
  refine ⟨i, after, ev, before, image, hevents, hactor, by simp [Owned, hlast], hwrites, ?_, ?_⟩
  · exact fun job hjob =>
      imageTag_of_asks henv.keepsDatabase hc (fun _ h => h) hasks hjob
  · rcases (appInv_reach henv hcluster hc).last after ev before _ _ _ hevents hwrites with
      hruns | ⟨ev', hev', hch⟩
    · exact .inl ⟨_, hruns, rfl, rfl⟩
    · refine .inr ⟨ev', hev', ?_, hch⟩
      intro hi
      -- the request itself cannot write again
      obtain ⟨after', between, rfl⟩ := List.append_of_mem hev'
      have hlegal := hsound.legal i
      rw [hevents, List.append_assoc, own_append, List.cons_append, ← hi, own_cons_self] at hlegal
      obtain ⟨image', replicas', hcall⟩ := hch.1
      refine not_appCall_of_writesApp hlegal.of_append.1 ⟨ev.toExchange, ?_, hwrites⟩ hcall
      exact mem_own.mpr ⟨ev, by simp, hactor.trans hi.symm, rfl⟩

end Reachable

theorem running_agrees_unless_rewritten_redeployed :
    ∃ ev ∈ redeployedRun.trail.events, ∃ image,
      WritesApp (tenantNamespace 1) image 1 ev.toExchange := by
  have hrow : redeployedRun.trail.state.db.deployments.get 1 =
      some ⟨1, 1, tenantAppName, .running, 1, 0, 0⟩ := by decide +kernel
  obtain ⟨i, after, ev, before, image, hevents, -, -, hwrites, -⟩ :=
    running_agrees_unless_rewritten anyController_controllerEnv.1 noTenants_empty
      redeployedRun_reach hrow rfl
  exact ⟨ev, by rw [hevents]; simp, image, hwrites⟩

/-- Nobody is at work any more, and two deployments of one tenant say `running`. -/
theorem redeploy_leaves_two_running :
    ∃ c, Reach (platform anyController)
        (platformStart sampleSettings "admin" sampleRequests .empty) c ∧
      (∀ ev ∈ c.trail.events, c.Ended ev.actor) ∧
      (c.trail.state.db.deployments.get 1).map (fun d => (d.tenantId, d.status)) =
        some (1, .running) ∧
      (c.trail.state.db.deployments.get 2).map (fun d => (d.tenantId, d.status)) =
        some (1, .running) :=
  ⟨redeployedRun, redeployedRun_reach, by decide +kernel⟩

end TenantPlatform
