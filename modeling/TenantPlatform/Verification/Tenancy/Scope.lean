import TenantPlatform.Verification.Jobs.Calls
import TenantPlatform.Verification.Jobs.Platform

/-! # Requests keep to their tenant

A second discipline of requests: what is written, in the database and in the cluster, is the
serving tenant's. The expected answers are those of the first, so it is kept on every run. -/

namespace TenantPlatform

open Effect

/-! ## The discipline -/

/-- Every job the history wrote is the tenant's. -/
structure WroteFor (t : ℕ) (τ : History) : Prop where
  builds : ∀ id row, lastBuild τ id = some row → row.tenantId = t
  deployments : ∀ id row, lastDeployment τ id = some row → row.tenantId = t

/-- The image of a finished build of the tenant, as the history has seen it. -/
def ImageOf (t : ℕ) (τ : History) (image : Option String) : Prop :=
  ∃ id job, SawBuild τ id job ∧ job.tenantId = t ∧ job.status = .succeeded ∧ job.imageTag = image

/-- The calls of the cluster in serving a tenant. -/
inductive TenantCall (cfg : Settings) (t : ℕ) (τ : History) : K8sCall → Prop where
  | setup {e : K8sCall} (h : SetupCall cfg (tenantNamespace t) (.k8s e)) : TenantCall cfg t τ e
  | viewer {e : K8sCall} (h : ViewerCall (tenantNamespace t) (.k8s e)) : TenantCall cfg t τ e
  | image {id : ℕ} {row : BuildJob} (h : lastBuild τ id = some row) (ht : row.tenantId = t) :
      TenantCall cfg t τ (.create .image (tenantNamespace t) (imageName id)
        (imageBody cfg row.gitUrl row.gitRevision (imageTag t id) row.gitSubPath))
  | deployment {image : Option String} {replicas : ℕ} (h : ImageOf t τ image) :
      TenantCall cfg t τ (.create .deployment (tenantNamespace t) tenantAppName
        (deploymentBody image replicas tenantAppName))
  | patch {image : Option String} {replicas : ℕ} (h : ImageOf t τ image) :
      TenantCall cfg t τ (.patchDeployment (tenantNamespace t) tenantAppName
        (deploymentPatch image replicas))
  | service : TenantCall cfg t τ
      (.create .service (tenantNamespace t) tenantAppName (serviceBody tenantAppName))
  | readImage (name : String) : TenantCall cfg t τ (.readImage (tenantNamespace t) name)
  | readDeployment (name : String) : TenantCall cfg t τ (.readDeployment (tenantNamespace t) name)

/-- The registration was among those that a dispatch loaded for the tenant. -/
def SawRegistration (t : ℕ) (τ : History) (id : ℕ) : Prop :=
  ∃ registrations, (⟨.db (.selectActiveWebhookRegistrations t), registrations⟩ :
    Exchange Call Call.Result) ∈ τ ∧ ∃ row, (id, row) ∈ registrations

/-- The history read this of a kpack Image. -/
def ReadImage (τ : History) (image : ImageResource) : Prop :=
  ∃ ns name, (⟨.k8s (.readImage ns name), .ok image⟩ : Exchange Call Call.Result) ∈ τ

/-- The ways in which the row of a build job moves on. -/
inductive Moves (τ : History) (row : BuildJob) : BuildJobChanges → Prop where
  | started (h : row.status = .queued) (now : ℕ) :
      Moves τ row { status := .building, startedAt := some now }
  | failed (h : row.status.terminal = false) (message : String) (now : ℕ) :
      Moves τ row
        { status := .failed, errorMessage := some (some message), endedAt := some now }
  | succeeded (h : row.status = .building) {image : ImageResource} (hread : ReadImage τ image)
      (hready : (buildReport image).ready = some true) (now : ℕ) :
      Moves τ row
        { status := .succeeded, imageTag := some (buildReport image).latestImage,
          endedAt := some now }

def mayWriteFor (t : ℕ) (τ : History) : DbCall → Prop
  | .insertBuildJob id _ _ _ status => id = t ∧ status = .queued
  | .insertDeployment id .. | .insertWebhookRegistration id .. => id = t
  | .commitBuildJob id changes => ∃ row, lastBuild τ id = some row ∧ Moves τ row changes
  | .commitDeployment id _ => (lastDeployment τ id).isSome
  | .commitWebhookDeliveries rows =>
      ∀ d ∈ rows, d.tenantId = t ∧ SawRegistration t τ d.webhookRegistrationId
  | .deleteTenant _ | .flushTenant .. | .commitTenant .. | .updateTenant .. => False
  | _ => True

def mayServe (cfg : Settings) (t : ℕ) (τ : History) : Call → Prop
  | .db e => mayWriteFor t τ e
  | .k8s e => TenantCall cfg t τ e
  | .sys _ => True

/-- The administrator's requests write tenants and their first keys, and leave the cluster
alone. -/
def mayAdminister : Call → Prop
  | .db (.insertBuildJob ..) | .db (.insertDeployment ..) | .db (.insertWebhookRegistration ..)
  | .db (.commitBuildJob ..) | .db (.commitDeployment ..) | .db (.commitWebhookDeliveries _)
  | .k8s _ => False
  | _ => True

def scopeDiscipline (cfg : Settings) : Request → Discipline Call Call.Result
  | .tenant t _ _ => ⟨mayServe cfg t, expectsAnswer⟩
  | .admin _ _ => ⟨fun _ => mayAdminister, expectsAnswer⟩

/-! ## What calls keep -/

section

variable {t id : ℕ} {τ : History}

/-- A call that writes no job. -/
theorem WroteFor.cons (h : WroteFor t τ) {x : Exchange Call Call.Result}
    (hb : writtenBuild x = none) (hd : writtenDeployment x = none) : WroteFor t (x :: τ) := by
  constructor
  · intro id row hrow
    rw [lastBuild, lastRow_cons_none hb] at hrow
    exact h.builds id row hrow
  · intro id row hrow
    rw [lastDeployment, lastRow_cons_none hd] at hrow
    exact h.deployments id row hrow

theorem WroteFor.build (h : WroteFor t τ) {x : Exchange Call Call.Result} {row : BuildJob}
    (hb : writtenBuild x = some (id, row)) (hd : writtenDeployment x = none)
    (ht : row.tenantId = t) : WroteFor t (x :: τ) := by
  constructor
  · intro j row' hrow
    rw [lastBuild, lastRow_cons_some hb] at hrow
    split at hrow
    · exact Option.some.inj hrow ▸ ht
    · exact h.builds j row' hrow
  · intro j row' hrow
    rw [lastDeployment, lastRow_cons_none hd] at hrow
    exact h.deployments j row' hrow

theorem WroteFor.deployment (h : WroteFor t τ) {x : Exchange Call Call.Result} {row : Deployment}
    (hb : writtenBuild x = none) (hd : writtenDeployment x = some (id, row))
    (ht : row.tenantId = t) : WroteFor t (x :: τ) := by
  constructor
  · intro j row' hrow
    rw [lastBuild, lastRow_cons_none hb] at hrow
    exact h.builds j row' hrow
  · intro j row' hrow
    rw [lastDeployment, lastRow_cons_some hd] at hrow
    split at hrow
    · exact Option.some.inj hrow ▸ ht
    · exact h.deployments j row' hrow

end

def Call.writesNoJob : Call → Bool
  | .db (.insertBuildJob ..) | .db (.commitBuildJob ..) | .db (.insertDeployment ..)
  | .db (.commitDeployment ..) => false
  | _ => true

theorem written_of_writesNoJob {x : Exchange Call Call.Result} (h : x.call.writesNoJob = true) :
    writtenBuild x = none ∧ writtenDeployment x = none := by
  obtain ⟨e, r⟩ := x
  cases e with
  | db e => cases e <;> first | exact ⟨rfl, rfl⟩ | cases h
  | _ => exact ⟨rfl, rfl⟩

/-- Calls that write no job do not end what the predicate says. -/
def Lasting (I : History → Prop) : Prop := ∀ x τ, x.call.writesNoJob = true → I τ → I (x :: τ)

theorem Lasting.and {I J : History → Prop} (hI : Lasting I) (hJ : Lasting J) :
    Lasting (fun τ => I τ ∧ J τ) :=
  fun x τ hx h => ⟨hI x τ hx h.1, hJ x τ hx h.2⟩

theorem lasting_wroteFor (t : ℕ) : Lasting (WroteFor t) :=
  fun _ _ hx h => h.cons (written_of_writesNoJob hx).1 (written_of_writesNoJob hx).2

theorem lasting_imageOf (t : ℕ) (image : Option String) : Lasting (fun τ => ImageOf t τ image) :=
  fun x _ _ ⟨id, job, hsaw, hjob⟩ => ⟨id, job, hsaw.cons x, hjob⟩

/-- The history left this row of a build job, among others of the tenant. -/
def OwnBuild (t id : ℕ) (row : BuildJob) (τ : History) : Prop :=
  WroteFor t τ ∧ lastBuild τ id = some row

def OwnDeployment (t id : ℕ) (τ : History) : Prop :=
  WroteFor t τ ∧ ∃ row, lastDeployment τ id = some row

theorem lasting_ownBuild (t id : ℕ) (row : BuildJob) : Lasting (OwnBuild t id row) :=
  fun x τ hx h => ⟨lasting_wroteFor t x τ hx h.1,
    (lastRow_cons_none (written_of_writesNoJob hx).1 τ id).trans h.2⟩

theorem lasting_ownDeployment (t id : ℕ) : Lasting (OwnDeployment t id) :=
  fun x τ hx h => ⟨lasting_wroteFor t x τ hx h.1,
    h.2.imp (fun _ hrow => (lastRow_cons_none (written_of_writesNoJob hx).2 τ id).trans hrow)⟩

/-! ## Serving a tenant -/

section Serve

variable {cfg : Settings} {t : ℕ} {τ : History} {I : History → Prop}

/-- A request of tenant `t`. -/
abbrev serving (cfg : Settings) (t : ℕ) : Discipline Call Call.Result :=
  ⟨mayServe cfg t, expectsAnswer⟩

/-- Calls that a request may make while `I` holds, and that leave the jobs alone. -/
def Servable (cfg : Settings) (t : ℕ) (I : History → Prop) (e : Call) : Prop :=
  e.writesNoJob = true ∧ ∀ τ, I τ → mayServe cfg t τ e

theorem along_of_servable {α : Type} {p : Py α} {Q : α → Prop} (hI : Lasting I)
    (hp : p.Uses (Servable cfg t I) Q) (h : I τ) :
    p.Along (serving cfg t) (fun a τ' => Q a ∧ I τ') (fun _ τ' => I τ') τ :=
  hp.along (fun τ _ he hτ => he.2 τ hτ) (fun τ x hx hτ _ => hI x τ hx.1 hτ) h

theorem servable_setup {e : Call} (h : SetupCall cfg (tenantNamespace t) e) :
    Servable cfg t I e := by
  refine ⟨by cases h <;> rfl, fun τ _ => ?_⟩
  cases h with
  | root => exact .setup .root
  | quota => exact .setup .quota
  | limits => exact .setup .limits
  | dns => exact .setup .dns
  | policy dnsIp => exact .setup (.policy dnsIp)
  | secret => exact .setup .secret
  | account => exact .setup .account

theorem servable_viewer {e : Call} (h : ViewerCall (tenantNamespace t) e) : Servable cfg t I e := by
  refine ⟨by cases h <;> rfl, fun τ _ => ?_⟩
  cases h with
  | account => exact .viewer .account
  | role => exact .viewer .role
  | binding => exact .viewer .binding
  | token => exact .viewer .token
  | caCert => trivial

theorem servable_scoped {e : Call} (h : ScopedCall t e) : Servable cfg t I e := by
  refine ⟨by cases h <;> rfl, fun τ _ => ?_⟩
  cases h <;> first | rfl | trivial

/-! ### Builds -/

theorem commitBuildJob_serve {id : ℕ} {row : BuildJob} {changes : BuildJobChanges}
    (h : OwnBuild t id row τ) (hmoves : Moves τ row changes) :
    (commitBuildJob id changes).Along (serving cfg t)
      (fun job τ' => job = changes.apply row ∧ OwnBuild t id job τ')
      (fun _ τ' => OwnBuild t id row τ') τ := by
  obtain ⟨hwrote, hrow⟩ := h
  refine ⟨⟨row, hrow, hmoves⟩, fun r hr => ?_⟩
  cases r with
  | error x => exact ⟨hwrote.cons rfl rfl, (lastRow_cons_none rfl τ id).trans hrow⟩
  | ok row' =>
      have heq : row' = changes.apply row := hr row hrow
      refine ⟨heq, hwrote.build rfl rfl ?_, (lastRow_cons_some rfl τ id).trans (if_pos rfl)⟩
      rw [heq]
      exact hwrote.builds id row hrow

theorem startBuild_serve {id : ℕ} {job : BuildJob} (h : OwnBuild t id job τ)
    (hjob : job.status = .queued) :
    (startBuild cfg t (tenantNamespace t) id job).Along (serving cfg t)
      (fun job' τ' => OwnBuild t id job' τ') (fun _ τ' => OwnBuild t id job τ') τ := by
  have hI := lasting_ownBuild t id job
  refine ((along_of_servable hI ((ensureTenantNamespace_calls cfg _).mono
    (fun _ => servable_setup) (fun _ h => h)) h).mono (fun _ _ h => h) (fun _ _ h => h)).bind ?_
  rintro _ τ1 ⟨-, h1⟩
  refine Prog.Along.bind (M := fun _ τ' => OwnBuild t id job τ') ?_ ?_
  · exact ⟨.image h1.2 (h1.1.builds id job h1.2), fun r _ => by cases r <;> exact hI _ _ rfl h1⟩
  · intro _ τ2 h2
    exact ⟨trivial, fun now _ => (commitBuildJob_serve (hI _ _ rfl h2) (.started hjob now)).mono
      (fun _ _ h => h.2) (fun _ _ h => h)⟩

/-- What a request leaves to its background task is the tenant's. -/
def Tasked (t : ℕ) : Option BackgroundTask → History → Prop
  | some (.pollBuildUntilDone id ns), τ =>
      ns = tenantNamespace t ∧ ∃ row, OwnBuild t id row τ ∧ row.status = .building
  | some (.pollDeploymentUntilRunning id ns _), τ => ns = tenantNamespace t ∧ OwnDeployment t id τ
  | none, _ => True

theorem createBuildJobService_serve (buildData : BuildJobCreate) (h : WroteFor t τ) :
    (createBuildJobService cfg t buildData).Along (serving cfg t)
      (fun r τ' => Tasked t (r.2.map (.pollBuildUntilDone r.1.1)) τ') (fun _ _ => True) τ := by
  refine ⟨trivial, fun r hr => ?_⟩
  have h1 := h.cons (x := ⟨.db (.getTenant t), r⟩) rfl rfl
  cases r with
  | none => trivial
  | some tenant =>
      have hns : tenant.k8sNamespace = tenantNamespace t := hr
      refine ⟨⟨rfl, rfl⟩, fun r hr => ?_⟩
      rcases r with x | ⟨id, row⟩
      · trivial
      · obtain ⟨-, now, hrow⟩ := hr
        have hqueued : row.status = .queued := by rw [hrow]
        have h2 := h1.build (x := ⟨.db (.insertBuildJob t buildData.gitUrl buildData.gitRevision
          buildData.gitSubPath .queued), .ok (id, row)⟩) rfl rfl (by rw [hrow])
        show (tryCatch (startBuild cfg t tenant.k8sNamespace id row) (failBuild id) >>= _).Along
          _ _ _ _
        rw [hns]
        refine Prog.Along.bind (M := fun job τ' => OwnBuild t id job τ') ?_ ?_
        · refine (startBuild_serve ⟨h2, (lastRow_cons_some rfl _ id).trans (if_pos rfl)⟩
            hqueued).tryCatch ?_
          intro e τ3 h3
          refine ⟨trivial, fun endedAt _ => ?_⟩
          refine (commitBuildJob_serve (lasting_ownBuild t id row _ _ rfl h3)
            (.failed (by rw [hqueued]; rfl) _ endedAt)).mono (fun _ _ h => h.2)
            (fun _ _ _ => trivial)
        · intro job τ3 h3
          show Tasked t (Option.map _ (if _ then _ else _)) τ3
          split
          · rename_i hbuilding
            exact ⟨rfl, job, h3, hbuilding⟩
          · trivial

/-! ### Deployments -/

theorem commitDeployment_serve {id : ℕ} (status : DeploymentStatus) (h : OwnDeployment t id τ) :
    (commitDeployment id status).Along (serving cfg t) (fun _ τ' => OwnDeployment t id τ')
      (fun _ τ' => OwnDeployment t id τ') τ := by
  obtain ⟨hwrote, row, hrow⟩ := h
  refine ⟨Option.isSome_of_eq_some hrow, fun r hr => ?_⟩
  cases r with
  | error x => exact ⟨hwrote.cons rfl rfl, row, (lastRow_cons_none rfl τ id).trans hrow⟩
  | ok row' =>
      obtain ⟨now, rfl⟩ := hr row hrow
      refine ⟨hwrote.deployment rfl rfl (hwrote.deployments id row hrow),
        { row with status := status, updatedAt := now }, ?_⟩
      exact (lastRow_cons_some rfl τ id).trans (if_pos rfl)

theorem startDeployment_serve {tenant : Option Tenant} {image : Option String} {id : ℕ}
    (row : Deployment) (hns : ∀ a, tenant = some a → a.k8sNamespace = tenantNamespace t)
    (h : OwnDeployment t id τ) (himage : ImageOf t τ image) :
    (startDeployment tenant image id row).Along (serving cfg t)
      (fun _ τ' => OwnDeployment t id τ') (fun _ τ' => OwnDeployment t id τ') τ := by
  cases tenant with
  | none => exact h
  | some tenant =>
      have hI := (lasting_ownDeployment t id).and (lasting_imageOf t image)
      show (createTenantDeployment tenant.k8sNamespace image row.replicaCount >>= _).Along _ _ _ _
      rw [hns tenant rfl]
      refine ((along_of_servable hI (createTenantDeployment_calls ?_ ?_ ?_) ⟨h, himage⟩).mono
        (fun _ _ h => h) (fun _ _ h => h.1)).bind ?_
      · exact ⟨rfl, fun τ h => .deployment h.2⟩
      · exact ⟨rfl, fun τ h => .patch h.2⟩
      · exact ⟨rfl, fun τ _ => .service⟩
      · exact fun _ τ1 h1 => commitDeployment_serve _ h1.2.1

theorem createDeploymentService_serve (deployData : DeploymentCreate) (h : WroteFor t τ) :
    (createDeploymentService t deployData).Along (serving cfg t)
      (fun r τ' => Tasked t
        (r.2.map (fun ns => .pollDeploymentUntilRunning r.1.1 ns r.1.2.k8sDeploymentName)) τ')
      (fun _ _ => True) τ := by
  refine ⟨trivial, fun r _ => ?_⟩
  rcases r with x | _ | ⟨buildJobId, job⟩
  · trivial
  · trivial
  · show (if _ then _ else if _ then _ else _ : Py ((ℕ × Deployment) × Option String)).Along
      _ _ _ _
    split
    · trivial
    · rename_i htenant
      split
      · trivial
      · rename_i hstatus
        refine ⟨trivial, fun tenant hns => ⟨rfl, fun r hr => ?_⟩⟩
        rcases r with x | ⟨id, row⟩
        · trivial
        · obtain ⟨-, now, hrow⟩ := hr
          show (tryCatch (startDeployment tenant job.imageTag id row)
            (fun _ => commitDeployment id .failed) >>= _).Along _ _ _ _
          refine Prog.Along.bind (M := fun _ τ' => OwnDeployment t id τ') ?_ ?_
          · refine (startDeployment_serve row ?_ ⟨?_, row, ?_⟩ ?_).tryCatch ?_
            · rintro a rfl
              exact hns
            · refine WroteFor.deployment (WroteFor.cons (h.cons rfl rfl) rfl rfl) rfl rfl ?_
              rw [hrow]
            · exact (lastRow_cons_some rfl _ id).trans (if_pos rfl)
            · exact ⟨buildJobId, job, ⟨deployData.buildJobId, by simp⟩, not_not.mp htenant,
                not_not.mp hstatus, rfl⟩
            · exact fun _ τ1 h1 => (commitDeployment_serve _ h1).mono (fun _ _ h => h)
                (fun _ _ _ => trivial)
          · intro row' τ1 h1
            show Tasked t (Option.map _ (if _ then _ else _)) τ1
            split
            · cases tenant with
              | none => trivial
              | some tenant => exact ⟨hns, h1⟩
            · trivial

/-! ### Background tasks -/

theorem dispatch_serve (event : String) (payload : Payload) :
    (dispatchTenantWebhooks cfg t event payload).Along (serving cfg t) (fun _ _ => True)
      (fun _ _ => True) τ := by
  refine ⟨trivial, fun _ _ => ⟨trivial, fun registrations _ => ?_⟩⟩
  have hI : Lasting (fun τ => (⟨.db (.selectActiveWebhookRegistrations t), registrations⟩ :
      Exchange Call Call.Result) ∈ τ) :=
    fun x τ _ h => List.mem_cons_of_mem x h
  refine (along_of_servable hI (Q := fun _ => True) ?_ List.mem_cons_self).mono
    (fun _ _ _ => trivial) (fun _ _ _ => trivial)
  refine (deliverAll_uses cfg ⟨rfl, fun _ _ => trivial⟩ (fun _ _ _ => ⟨rfl, fun _ _ => trivial⟩) t
    event payload registrations).bind (fun ds hds => ?_)
  show (if _ then _ else _ : Py Unit).Uses _ _
  split
  · refine ⟨⟨rfl, fun τ hmem d hd => ?_⟩, fun r => by cases r <;> trivial⟩
    obtain ⟨ht, r, hr, heq⟩ := hds d hd
    exact ⟨ht, registrations, hmem, r.2, heq ▸ hr⟩
  · trivial

/-- What a read of the Image said when it resolved the build. -/
def Resolved (resolved : BuildReport × Bool) (τ : History) : Prop :=
  resolved.1.ready = some resolved.2 ∧ ∃ image, ReadImage τ image ∧ resolved.1 = buildReport image

theorem lasting_resolved (resolved : BuildReport × Bool) : Lasting (Resolved resolved) := by
  rintro x τ - ⟨hready, image, ⟨ns, name, hmem⟩, heq⟩
  exact ⟨hready, image, ⟨ns, name, List.mem_cons_of_mem x hmem⟩, heq⟩

theorem Resolved.moves {resolved : BuildReport × Bool} (h : Resolved resolved τ) {row : BuildJob}
    (hrow : row.status = .building) (now : ℕ) :
    Moves τ row (resolvedChanges resolved.1 resolved.2 now) := by
  obtain ⟨report, ready⟩ := resolved
  obtain ⟨hready, image, hread, rfl⟩ := h
  cases ready with
  | true => exact .succeeded hrow hread hready now
  | false => exact .failed (by rw [hrow]; rfl) _ now

theorem readBuild_serve {id : ℕ} {row : BuildJob} (h : OwnBuild t id row τ) :
    (readBuild (tenantNamespace t) id).Along (serving cfg t)
      (fun o τ' => o.elim (OwnBuild t id row τ')
        (fun resolved => OwnBuild t id row τ' ∧ Resolved resolved τ'))
      (fun _ _ => True) τ := by
  refine ⟨.readImage _, fun r _ => ?_⟩
  have h1 := lasting_ownBuild t id row ⟨.k8s (.readImage (tenantNamespace t) (imageName id)), r⟩ τ
    rfl h
  cases r with
  | error e =>
      show (((if e.isNotFound then pure none else throw e : Py (Option ImageResource)) >>= _) >>=
        _ : Py (Option (BuildReport × Bool))).Along _ _ _ _
      split
      · exact h1
      · trivial
  | ok image =>
      show Option.elim ((buildReport image).ready.map _) _ _
      cases hready : (buildReport image).ready with
      | none => exact h1
      | some ready => exact ⟨h1, hready, image, ⟨_, _, List.mem_cons_self⟩, rfl⟩

theorem resolveBuild_serve {id : ℕ} {row : BuildJob} {resolved : BuildReport × Bool}
    (h : OwnBuild t id row τ) (hrow : row.status = .building) (hresolved : Resolved resolved τ) :
    (resolveBuild cfg id resolved).Along (serving cfg t) (fun _ _ => True) (fun _ _ => True) τ := by
  refine ⟨trivial, fun r hr => ?_⟩
  have hI := (lasting_ownBuild t id row).and (lasting_resolved resolved)
  have h1 := hI ⟨.db (.getBuildJob id), r⟩ τ rfl ⟨h, hresolved⟩
  rcases r with x | _ | ⟨n, loaded⟩
  · trivial
  · trivial
  · obtain ⟨hn, hold⟩ := hr
    obtain rfl : id = n := Int.ofNat.inj hn
    have ht : loaded.tenantId = t := by rw [hold row h.2, h.1.builds id row h.2]
    refine ⟨trivial, fun endedAt _ => ?_⟩
    have h2 := hI ⟨.sys .nowNaive, endedAt⟩ _ rfl h1
    refine ((commitBuildJob_serve h2.1 (h2.2.moves hrow endedAt)).mono (fun _ _ h => h)
      (fun _ _ _ => trivial)).bind ?_
    intro _ τ3 _
    have htenant : ((resolvedChanges resolved.1 resolved.2 endedAt).apply loaded).tenantId = t := ht
    show (dispatchTenantWebhooks cfg (_ : BuildJob).tenantId _ _).Along _ _ _ _
    rw [htenant]
    exact dispatch_serve _ _

theorem expireBuild_serve {id : ℕ} {row : BuildJob} (h : OwnBuild t id row τ)
    (hrow : row.status = .building) :
    (expireBuild id).Along (serving cfg t) (fun _ _ => True) (fun _ _ => True) τ := by
  have hI := lasting_ownBuild t id row
  refine ⟨trivial, fun r _ => ?_⟩
  have h1 := hI ⟨.db (.getBuildJob id), r⟩ τ rfl h
  rcases r with x | _ | ⟨n, job⟩
  · trivial
  · trivial
  · show (if _ then _ else _ : Py Unit).Along _ _ _ _
    split
    · refine ⟨trivial, fun endedAt _ => ?_⟩
      exact ((commitBuildJob_serve (hI ⟨.sys .nowNaive, endedAt⟩ _ rfl h1)
        (.failed (by rw [hrow]; rfl) _ endedAt)).mono (fun _ _ h => h)
        (fun _ _ _ => trivial)).bind (fun _ _ _ => trivial)
    · trivial

theorem resolveDeployment_serve {id : ℕ} (running : Bool) (h : OwnDeployment t id τ) :
    (resolveDeployment cfg id running).Along (serving cfg t) (fun _ _ => True) (fun _ _ => True)
      τ := by
  refine ⟨trivial, fun r hr => ?_⟩
  have h1 := lasting_ownDeployment t id ⟨.db (.getDeployment id), r⟩ τ rfl h
  cases r with
  | none => trivial
  | some loaded =>
      obtain ⟨hwrote, row, hrow⟩ := h
      have ht : loaded.tenantId = t := by rw [hr row hrow, hwrote.deployments id row hrow]
      refine ((commitDeployment_serve _ h1).mono (fun _ _ h => h) (fun _ _ _ => trivial)).bind ?_
      intro _ τ3 _
      subst ht
      exact dispatch_serve _ _

theorem expireDeployment_serve {id : ℕ} (h : OwnDeployment t id τ) :
    (expireDeployment id).Along (serving cfg t) (fun _ _ => True) (fun _ _ => True) τ := by
  refine ⟨trivial, fun r _ => ?_⟩
  have h1 := lasting_ownDeployment t id ⟨.db (.getDeployment id), r⟩ τ rfl h
  cases r with
  | none => trivial
  | some row =>
      show (if _ then _ else _ : Py Unit).Along _ _ _ _
      split
      · exact ((commitDeployment_serve _ h1).mono (fun _ _ h => h) (fun _ _ _ => trivial)).bind
          (fun _ _ _ => trivial)
      · trivial

theorem task_serve (task : BackgroundTask) (h : Tasked t (some task) τ) :
    (task.run cfg).Along (serving cfg t) (fun _ _ => True) (fun _ _ => True) τ := by
  cases task with
  | pollBuildUntilDone id ns =>
      obtain ⟨rfl, row, h, hrow⟩ := h
      refine ⟨trivial, fun r _ => ?_⟩
      have hI := lasting_ownBuild t id row
      exact pollLoop_along (fun τ _ h => ⟨trivial, hI _ τ rfl h⟩) (fun τ h => readBuild_serve h)
        (fun resolved τ h => resolveBuild_serve h.1 hrow h.2)
        (fun τ h => expireBuild_serve h hrow) _ _ _ (hI _ τ rfl h)
  | pollDeploymentUntilRunning id ns name =>
      obtain ⟨rfl, h⟩ := h
      refine ⟨trivial, fun r _ => ?_⟩
      have hI := lasting_ownDeployment t id
      refine pollLoop_along (J := fun _ => OwnDeployment t id)
        (fun τ _ h => ⟨trivial, hI _ τ rfl h⟩)
        (fun τ h => ?_) (fun running τ h => resolveDeployment_serve running h)
        (fun τ h => expireDeployment_serve h) _ _ _ (hI _ τ rfl h)
      refine ((along_of_servable hI (getDeploymentStatus_calls ?_) h).mono (fun _ _ h => h)
        (fun _ _ _ => trivial)).bind ?_
      · exact ⟨rfl, fun _ _ => .readDeployment _⟩
      · rintro report τ' ⟨-, h'⟩
        show Option.elim report.running _ _
        cases report.running with
        | none => exact h'
        | some running => exact h'

/-! ### Routes -/

theorem checked_serve {α : Type} (c : Checked α) (h : WroteFor t τ) :
    (checked c).Along (serving cfg t) (fun _ => WroteFor t) (fun _ _ => True) τ :=
  (along_of_servable (lasting_wroteFor t) (checked_uses c) h).mono (fun _ _ h => h.2)
    (fun _ _ _ => trivial)

theorem getKubeconfig_serve (h : WroteFor t τ) :
    (Routes.getKubeconfig cfg t).Along (serving cfg t) (fun reply τ' => Tasked t reply.2 τ')
      (fun _ _ => True) τ := by
  refine Prog.Along.bind (M := fun _ _ => True) ?_ (fun _ _ _ => trivial)
  refine Prog.Along.tryCatch (M := fun _ _ => True) ⟨trivial, fun r hr => ?_⟩
    (fun e _ _ => by cases e <;> trivial)
  cases r with
  | none => trivial
  | some tenant =>
      have hns : tenant.k8sNamespace = tenantNamespace t := hr
      have h1 := h.cons (x := ⟨.db (.getTenant t), some tenant⟩) rfl rfl
      show (ensureTenantNamespace cfg tenant.k8sNamespace >>= _).Along _ _ _ _
      rw [hns]
      refine (along_of_servable (lasting_wroteFor t) (Q := fun _ => True) ?_ h1).mono
        (fun _ _ _ => trivial) (fun _ _ _ => trivial)
      refine ((ensureTenantNamespace_calls cfg _).mono (fun _ => servable_setup)
        (fun _ h => h)).bind (fun _ _ => ?_)
      refine ((ensureTenantRbac_calls _).mono (fun _ => servable_viewer) (fun _ h => h)).bind
        (fun _ _ => ?_)
      exact (mintTenantKubeconfig_calls cfg _).mono (fun _ => servable_viewer) (fun _ h => h)

theorem TenantRequest.handle_serve (r : TenantRequest) (h : WroteFor t τ) :
    (r.handle cfg t).Along (serving cfg t) (fun reply τ' => Tasked t reply.2 τ') (fun _ _ => True)
      τ := by
  have hquiet : ∀ {p : Py Reply},
      p.Uses (Servable cfg t (WroteFor t)) (fun reply => reply.2 = none) →
      p.Along (serving cfg t) (fun reply τ' => Tasked t reply.2 τ') (fun _ _ => True) τ := by
    intro p hp
    refine (along_of_servable (lasting_wroteFor t) hp h).mono ?_ (fun _ _ _ => trivial)
    rintro reply τ' ⟨hnone, -⟩
    rw [hnone]
    trivial
  by_cases hscoped : r.scoped = true
  · exact hquiet ((r.handle_scoped cfg t hscoped).mono (fun _ => servable_scoped) (fun _ h => h))
  · cases r with
    | createApiKey body =>
        refine hquiet ((checked_uses body).bind (fun keyData _ =>
          reply_uses (mapSqlErrors_uses _ _ ?_) _))
        exact ⟨⟨rfl, fun _ _ => trivial⟩, fun r => ⟨⟨rfl, fun _ _ => trivial⟩,
          fun r => by cases r <;> trivial⟩⟩
    | revokeApiKey keyId =>
        refine hquiet (Prog.Uses.bind (M := fun _ => True) ?_
          (fun apiKey _ => reply_uses (found_uses _ apiKey) _))
        refine Prog.Uses.bind (M := fun _ => True)
          ⟨⟨rfl, fun _ _ => trivial⟩, fun r => by cases r <;> trivial⟩ ?_
        rintro (_ | ⟨id, apiKey⟩) -
        · trivial
        · exact ⟨⟨rfl, fun _ _ => trivial⟩, fun r => ⟨⟨rfl, fun _ _ => trivial⟩,
            fun r => by cases r <;> trivial⟩⟩
    | createBuildJob body =>
        refine (checked_serve body h).bind (fun buildData _ h => ?_)
        exact (createBuildJobService_serve buildData h).bind (fun _ _ h => h)
    | createDeployment body =>
        refine (checked_serve body h).bind (fun deployData _ h => ?_)
        refine Prog.Along.bind (M := fun r τ' => Tasked t
          (r.2.map (fun ns => .pollDeploymentUntilRunning r.1.1 ns r.1.2.k8sDeploymentName)) τ') ?_
          (fun _ _ h => h)
        exact (createDeploymentService_serve deployData h).tryCatch
          (fun e _ _ => by cases e <;> trivial)
    | getKubeconfig => exact getKubeconfig_serve h
    | _ => exact absurd rfl hscoped

end Serve

/-! ## Administration -/

theorem AdminRequest.handle_administers (cfg : Settings) (r : AdminRequest) :
    (r.handle cfg).Uses mayAdminister (fun reply => reply.2 = none) :=
  (r.handle_calls cfg).mono (fun _ he => by rcases he with ⟨_ | _ | _ | _⟩ | _ | _ | _ <;> trivial)
    (fun _ h => h)

/-! ## Whole requests -/

/-- A request and its background task keep to the tenant. -/
theorem Request.thread_scoped (cfg : Settings) (adminSecretKey : String) (r : Request) :
    (r.thread cfg adminSecretKey).Along (scopeDiscipline cfg r) (fun _ _ => True)
      (fun _ _ => True) [] := by
  cases r with
  | tenant t xApiKey r =>
      have hnil : WroteFor t [] := ⟨fun _ _ h => (by cases h), fun _ _ h => (by cases h)⟩
      refine Prog.Along.bind (M := fun reply τ' => Tasked t reply.2 τ') ?_ ?_
      · refine Prog.Along.tryCatch (M := fun _ _ => True) ?_ (fun e _ _ => ?_)
        · refine ((along_of_servable (lasting_wroteFor t) (Q := fun _ => True) ?_ hnil).mono
            (fun _ _ h => h) (fun _ _ _ => trivial)).bind (fun _ _ h => r.handle_serve h.2)
          exact verifyTenant_uses cfg t xApiKey ⟨rfl, fun _ _ => trivial⟩
        · show Tasked t (errorReply e).2 _
          rw [errorReply_task]
          trivial
      · rintro ⟨response, task | task⟩ τ h
        · trivial
        · exact task_serve task h
  | admin xAdminSecret r =>
      have huses : ((Request.admin xAdminSecret r).thread cfg adminSecretKey).Uses mayAdminister
          (fun _ => True) := by
        refine Prog.Uses.bind (M := fun reply => reply.2 = none) ?_ ?_
        · refine Prog.Uses.tryCatch ?_ (fun e => errorReply_task e)
          exact (verifyAdmin_uses adminSecretKey xAdminSecret).bind
            (fun _ _ => r.handle_administers cfg)
        · rintro ⟨response, task⟩ rfl
          trivial
      exact (huses.along (I := fun _ => True) (fun _ _ he _ => he) (fun _ _ _ _ _ => trivial)
        trivial).mono (fun _ _ _ => trivial) (fun _ _ _ => trivial)

section Reachable

variable {ι : Type} [DecidableEq ι] {cfg : Settings} {adminSecretKey : String}
  {requests : ι → Request} {cluster : Cluster} {env : World → World → Prop}
  {c : Config ι Call Call.Result PyException World}

/-- So it is on every run. -/
theorem platform_scoped (henv : KeepsDatabase env)
    (hc : Reach (platform env) (platformStart cfg adminSecretKey requests cluster) c) (i : ι) :
    (scopeDiscipline cfg (requests i)).Legal (own i c.trail.events) := by
  refine (Reach.legal (D := requestDiscipline) (fun c hc i => (platform_sound henv hc).legal i)
    (fun i => (requests i).thread_scoped cfg adminSecretKey) (fun i τ x hx => ?_) hc i).1
  cases requests i with
  | tenant t xApiKey r => exact hx
  | admin xAdminSecret r => exact hx

end Reachable

end TenantPlatform
