import TenantPlatform.Data.Text
import TenantPlatform.Verification.Tenancy.Deletion

/-! # Where a tenant's work lands

Names of namespaces, images and tags tell tenants and builds apart, what is written for a
tenant is written in its namespace, and what runs there was built for it. -/

namespace TenantPlatform

open Effect

/-! ## Names -/

theorem imageName_injective : Function.Injective imageName := by
  intro a b h
  have hlist := congrArg String.toList h
  simp only [imageName, String.toList_append, Nat.toList_toString] at hlist
  exact Nat.toDigits_ten_injective (List.append_cancel_left hlist)

/-- A tag can be read in one way: the decimals hold no hyphen. -/
theorem imageTag_injective {n b n' b' : ℕ} (h : imageTag n b = imageTag n' b') :
    n = n' ∧ b = b' := by
  have hlist := congrArg String.toList h
  simp only [imageTag, String.toList_append, Nat.toList_toString, List.append_assoc] at hlist
  have hcut : Nat.toDigits 10 n ++ '-' :: ("build-".toList ++ Nat.toDigits 10 b) =
      Nat.toDigits 10 n' ++ '-' :: ("build-".toList ++ Nat.toDigits 10 b') :=
    List.append_cancel_left hlist
  obtain ⟨hn, hb⟩ :=
    List.append_cons_inj (Nat.notMem_toDigits rfl n) (Nat.notMem_toDigits rfl n') hcut
  exact ⟨Nat.toDigits_ten_injective hn, Nat.toDigits_ten_injective (List.append_cancel_left hb)⟩

theorem tenantNamespace_ne_pending (n : ℕ) : tenantNamespace n ≠ "pending" := by
  intro h
  have hlist := congrArg String.toList h
  simp [tenantNamespace] at hlist

/-- The tag under which kpack pushes the image of a build. -/
def registryTag (cfg : Settings) (tenantId buildJobId : ℕ) : String :=
  cfg.imageRegistry ++ ":" ++ imageTag tenantId buildJobId

theorem registryTag_injective (cfg : Settings) {n b n' b' : ℕ}
    (h : registryTag cfg n b = registryTag cfg n' b') : n = n' ∧ b = b' := by
  have hlist := congrArg String.toList h
  simp only [registryTag, String.toList_append] at hlist
  exact imageTag_injective (String.ext (List.append_cancel_left hlist))

/-! ## Rows that stay -/

section Statement

variable {want now : ℕ} {e : DbCall} {db : Database}

theorem grows_deployments (he : ∀ id, e ≠ .deleteTenant id) :
    db.deployments.Grows Deployment.tenantId (handleDb want now e db).2.deployments := by
  cases e with
  | insertDeployment tenantId buildJobId name status replicaCount =>
      simp only [handleDb, Database.insertDeployment]
      split
      · exact Table.grows_reserve _ _ want
      · exact Table.grows_insert _ _ want _
  | commitDeployment id status =>
      simp only [handleDb, Database.commitDeployment]
      split
      · exact .refl _ _
      · rename_i old hold
        exact Table.grows_update hold rfl
  | deleteTenant id => exact absurd rfl (he id)
  | _ =>
      rw [(handleDb_sameOutside want now _ db).deployments rfl]
      exact .refl _ _

/-- A deployment stays: the one statement that would remove it is refused because of it. -/
theorem Database.References.deployment_stays (h : db.References) {id : ℕ} {row : Deployment}
    (hrow : db.deployments.get id = some row) :
    ∃ row', (handleDb want now e db).2.deployments.get id = some row' := by
  by_cases he : ∃ n, e = .deleteTenant n
  · obtain ⟨n, rfl⟩ := he
    rcases db.deleteTenant_snd n with heq | hok
    · exact ⟨row, by simp only [handleDb, heq, hrow]⟩
    · have hne := (h.cascade_iff n).mp ⟨_, hok⟩ id row hrow
      refine ⟨row, ?_⟩
      simp only [handleDb, (h.deleted hok).deployments, Table.get_keep, hrow]
      exact if_pos (decide_eq_true hne)
  · have hgrows : db.deployments.Grows Deployment.tenantId (handleDb want now e db).2.deployments :=
      grows_deployments (fun n hn => he ⟨n, hn⟩)
    obtain ⟨row', hrow', -⟩ := hgrows.stays id row hrow
    exact ⟨row', hrow'⟩

theorem writes_of_writtenDeployment {id : ℕ} {row : Deployment}
    (h : e.writtenDeployment (handleDb want now e db).1 = some (id, row)) :
    db.deployments.Writes (handleDb want now e db).2.deployments id row := by
  generalize hr : (handleDb want now e db).1 = r at h
  cases e with
  | insertDeployment tenantId buildJobId name status replicaCount =>
      rcases r with x | ⟨id', row'⟩
      · cases h
      · cases h
        exact (Database.insertDeployment_ok (Prod.ext hr rfl)).2.1
  | commitDeployment id' status =>
      cases r with
      | error x => cases h
      | ok row' =>
          cases h
          exact (Database.commitDeployment_ok (Prod.ext hr rfl)).1
  | _ => cases h

end Statement

section Reachable

variable {ι : Type} [DecidableEq ι] {cfg : Settings} {adminSecretKey : String}
  {requests : ι → Request} {cluster : Cluster} {env : World → World → Prop}
  {c : Config ι Call Call.Result PyException World}

/-- A build that was seen in the end of its life has not changed, and a deployment is there
once its request has inserted it. -/
structure Undisturbed (t : Trail ι Call Call.Result World) : Prop where
  builds : ∀ i id job, SawBuild (own i t.events) id job → job.status.terminal = true →
    t.state.db.buildJobs.Remembers (fun b => b) id job
  deployments : ∀ i id row, lastDeployment (own i t.events) id = some row →
    t.state.db.deployments.get id = some row

/-- What a statement does to a build job in a terminal status: nothing, unless it removes it. -/
theorem remembers_terminal {t : Trail ι Call Call.Result World} {i : ι} {e : DbCall} {o : Outcome}
    (hs : Consistent t) (hmay : mayDb (own i t.events) e) {id : ℕ} {job : BuildJob}
    (hjob : job.status.terminal = true)
    (h : t.state.db.buildJobs.Remembers (fun b => b) id job) :
    (handleDb o.want o.now e t.state.db).2.buildJobs.Remembers (fun b => b) id job := by
  cases hw : e.writtenBuild (handleDb o.want o.now e t.state.db).1 with
  | none =>
      have hshrinks := buildJobs_shrinks hw
      refine ⟨Nat.lt_of_lt_of_le h.lt_next hshrinks.next_le, fun a ha => ?_⟩
      rcases hshrinks.get_eq id with heq | hnone
      · exact h.value a (heq ▸ ha)
      · rw [hnone] at ha
        cases ha
  | some written =>
      obtain ⟨id', row'⟩ := written
      have hwrites : t.state.db.buildJobs.Writes
          (handleDb o.want o.now e t.state.db).2.buildJobs id' row' ∧ id ≠ id' := by
        generalize hr : (handleDb o.want o.now e t.state.db).1 = r at hw
        cases e with
        | insertBuildJob n gitUrl gitRevision gitSubPath status =>
            rcases r with x | ⟨id', row'⟩
            · cases hw
            · cases hw
              have hok := Database.insertBuildJob_ok (Prod.ext hr rfl)
              exact ⟨hok.2.1, Nat.ne_of_lt (Nat.lt_of_lt_of_le h.lt_next hok.1)⟩
        | commitBuildJob id' changes =>
            rcases r with x | row'
            · cases hw
            · cases hw
              obtain ⟨hwrites, old, hold, -⟩ := Database.commitBuildJob_ok (Prod.ext hr rfl)
              refine ⟨hwrites, ?_⟩
              rintro rfl
              obtain ⟨mine, hmine, hactive, -⟩ := hmay
              rw [← hs.builds.found hold i mine hmine, h.value old hold, hjob] at hactive
              cases hactive
        | _ => cases hw
      refine ⟨Nat.lt_of_lt_of_le h.lt_next hwrites.1.next_le, fun a ha => h.value a ?_⟩
      rwa [hwrites.1.get_eq, if_neg hwrites.2] at ha

theorem Undisturbed.same {t : Trail ι Call Call.Result World} {i : ι} {e : Call}
    {r : Call.Result e} {s : World} (h : Undisturbed t) (hs : s.db = t.state.db)
    (he : ∀ q, e ≠ .db q) (hd : writtenDeployment ⟨e, r⟩ = none) :
    Undisturbed (t.push i e r s) := by
  constructor
  · rintro k id job ⟨key, hmem⟩ hjob
    rw [Trail.push_state, hs]
    rcases mem_own_push hmem with hmem | ⟨-, hx⟩
    · exact h.builds k id job ⟨key, hmem⟩ hjob
    · exact absurd (congrArg Exchange.call hx).symm (he _)
  · intro k id row hrow
    rw [lastDeployment, lastRow_push_none hd] at hrow
    rw [Trail.push_state, hs]
    exact h.deployments k id row hrow

/-- A statement of a request that keeps the discipline, on consistent tables. -/
theorem Undisturbed.db {t : Trail ι Call Call.Result World} {i : ι} {e : DbCall} {o : Outcome}
    (h : Undisturbed t) (hs : Consistent t) (hrefs : t.state.db.References)
    (hmay : mayDb (own i t.events) e)
    (hs' : Consistent (t.push i (.db e) (handleDb o.want o.now e t.state.db).1
      { t.state with db := (handleDb o.want o.now e t.state.db).2 })) :
    Undisturbed (t.push i (.db e) (handleDb o.want o.now e t.state.db).1
      { t.state with db := (handleDb o.want o.now e t.state.db).2 }) := by
  constructor
  · rintro k id job ⟨key, hmem⟩ hjob
    rcases mem_own_push hmem with hmem | ⟨-, hx⟩
    · exact remembers_terminal hs hmay hjob (h.builds k id job ⟨key, hmem⟩ hjob)
    · obtain rfl : DbCall.getBuildJob key = e := Call.db.inj (congrArg Exchange.call hx)
      have hr := eq_of_heq (Exchange.mk.inj hx).2
      exact Table.remembers_of_get (lookupInt_ok hr.symm).2
  · intro k id row hrow
    have hthere :
        ∃ row', (handleDb o.want o.now e t.state.db).2.deployments.get id = some row' := by
      cases hw : e.writtenDeployment (handleDb o.want o.now e t.state.db).1 with
      | none =>
          rw [lastDeployment, lastRow_push_none hw] at hrow
          exact hrefs.deployment_stays (h.deployments k id row hrow)
      | some written =>
          rw [lastDeployment, lastRow_push_some hw] at hrow
          split at hrow
          · rename_i heq
            refine ⟨written.2, ?_⟩
            rw [(writes_of_writtenDeployment hw).get_eq, if_pos heq.2]
          · exact hrefs.deployment_stays (h.deployments k id row hrow)
    obtain ⟨row', hrow'⟩ := hthere
    rcases hs'.deployments.agrees k id row hrow with hnone | hsome
    · exact absurd (hnone.symm.trans hrow') (by simp)
    · exact hsome

theorem standing_reach (henv : KeepsDatabase env)
    (hc : Reach (platform env) (platformStart cfg adminSecretKey requests cluster) c) :
    Undisturbed c.trail := by
  refine Reach.inv (B := fun t => Sound t ∧ ReferencesInv t)
    (fun c hc => ⟨platform_sound henv hc, referencesInv_reach henv hc⟩) ?_ ?_ ?_ hc
  · refine ⟨?_, fun i id row hrow => by cases hrow⟩
    rintro i id job ⟨key, hmem⟩
    cases hmem
  · rintro t i e r s ⟨hsound, hrefs⟩ ⟨hsound', -⟩ h ⟨o, ho⟩
    have hlegal := hsound'.legal i
    rw [own_push_self] at hlegal
    cases e with
    | k8s e =>
        obtain ⟨rfl, rfl⟩ := Prod.mk.inj ho
        exact h.same rfl (fun _ he => by cases he) rfl
    | sys e =>
        obtain ⟨rfl, rfl⟩ := Prod.mk.inj ho
        exact h.same rfl (fun _ he => by cases he) rfl
    | db e =>
        obtain ⟨rfl, rfl⟩ := Prod.mk.inj ho
        exact h.db hsound.consistent hrefs.references hlegal.1 hsound'.consistent
  · intro t s _ h hs
    have hdb := henv _ _ hs
    exact ⟨by rw [hdb]; exact h.builds, by rw [hdb]; exact h.deployments⟩

/-! ## Calls -/

/-- The namespace an object is written in. A Namespace is its own. -/
def K8sCall.writesIn : K8sCall → Option String
  | .create .ns _ name _ => some name
  | .create _ ns _ _ => some ns
  | .patchDeployment ns _ _ => some ns
  | _ => none

/-- The images a call puts into a Deployment. -/
def K8sCall.images : K8sCall → List (Option String)
  | .create .deployment _ _ body => body.podSpec.containers.map Container.image
  | .patchDeployment _ _ patch => patch.containers.map ContainerPatch.image
  | _ => []

theorem TenantCall.writesIn {t : ℕ} {τ : History} {e : K8sCall} (h : TenantCall cfg t τ e)
    {ns : String} (hns : e.writesIn = some ns) : ns = tenantNamespace t := by
  cases h with
  | setup h => cases h <;> first | exact (Option.some.inj hns).symm | cases hns
  | viewer h => cases h <;> first | exact (Option.some.inj hns).symm | cases hns
  | image h ht => exact (Option.some.inj hns).symm
  | deployment h => exact (Option.some.inj hns).symm
  | patch h => exact (Option.some.inj hns).symm
  | service => exact (Option.some.inj hns).symm
  | readImage name => cases hns
  | readDeployment name => cases hns

theorem pending_of_images {τ : History} {e : K8sCall} (h : mayK8s τ e) {image : Option String}
    (himage : image ∈ e.images) :
    ∃ id row, Pending τ id row image ∧ e.writesIn = some (tenantNamespace row.tenantId) := by
  cases e with
  | create k ns name body =>
      cases k with
      | deployment =>
          obtain ⟨id, row, image', hpending, rfl, -, rfl⟩ := h
          obtain rfl : image = image' := List.mem_singleton.mp himage
          exact ⟨id, row, hpending, rfl⟩
      | _ => cases himage
  | patchDeployment ns name patch =>
      obtain ⟨id, row, image', hpending, rfl, -, rfl⟩ := h
      obtain rfl : image = image' := List.mem_singleton.mp himage
      exact ⟨id, row, hpending, rfl⟩
  | _ => cases himage

/-! ## Runs -/

/-- Names keep tenants and builds apart, objects are written in the namespace of the tenant
that is served, and the images deployed there are those of its finished builds. -/
structure Placed (cfg : Settings) (requests : ι → Request)
    (t : Trail ι Call Call.Result World) : Prop where
  named : ∀ id tenant, t.state.db.tenants.get id = some tenant →
    tenant.k8sNamespace = tenantNamespace id ∧ tenant.k8sNamespace ≠ "pending"
  distinct : ∀ id id' tenant tenant', t.state.db.tenants.get id = some tenant →
    t.state.db.tenants.get id' = some tenant' →
      tenant.k8sNamespace = tenant'.k8sNamespace → id = id'
  within : ∀ ev ∈ t.events, ∀ e ns, ev.call = .k8s e → e.writesIn = some ns →
    ∃ n xApiKey r, requests ev.actor = .tenant n xApiKey r ∧ ns = tenantNamespace n
  builds : ∀ i later x past ns name body, own i t.events = later ++ x :: past →
    x.call = .k8s (.create .image ns name body) →
    ∃ id row, lastBuild past id = some row ∧ ns = tenantNamespace row.tenantId ∧
      name = imageName id ∧ body.tag = registryTag cfg row.tenantId id
  sole : ∀ i j id row row', lastBuild (own i t.events) id = some row →
    lastBuild (own j t.events) id = some row' → i = j
  apart : ∀ n b n' b', (n, b) ≠ (n', b') →
    (tenantNamespace n, imageName b) ≠ (tenantNamespace n', imageName b') ∧
      registryTag cfg n b ≠ registryTag cfg n' b'
  source : ∀ ev ∈ t.events, ∀ e image, ev.call = .k8s e → image ∈ e.images →
    ∃ n xApiKey r id job, requests ev.actor = .tenant n xApiKey r ∧
      ev.pre.db.buildJobs.get id = some job ∧ job.tenantId = n ∧ job.status = .succeeded ∧
      job.imageTag = image

theorem within_reach (henv : KeepsDatabase env)
    (hc : Reach (platform env) (platformStart cfg adminSecretKey requests cluster) c) :
    ∀ ev ∈ c.trail.events, ∀ e ns, ev.call = .k8s e → e.writesIn = some ns →
      ∃ n xApiKey r, requests ev.actor = .tenant n xApiKey r ∧ ns = tenantNamespace n := by
  refine hc.events (B := fun t => ∀ i, (scopeDiscipline cfg (requests i)).Legal (own i t.events))
    (fun c hc => platform_scoped henv hc) ?_
  rintro t i e r s - hscopes - e' ns rfl hns
  have hscope := hscopes i
  rw [own_push_self] at hscope
  cases hrequest : requests i with
  | admin xAdminSecret request =>
      rw [hrequest] at hscope
      exact hscope.1.elim
  | tenant n xApiKey request =>
      rw [hrequest] at hscope
      exact ⟨n, xApiKey, request, hrequest, TenantCall.writesIn hscope.1 hns⟩

theorem source_reach (henv : KeepsDatabase env)
    (hc : Reach (platform env) (platformStart cfg adminSecretKey requests cluster) c) :
    ∀ ev ∈ c.trail.events, ∀ e image, ev.call = .k8s e → image ∈ e.images →
      ∃ id job, ev.pre.db.buildJobs.get id = some job ∧
        e.writesIn = some (tenantNamespace job.tenantId) ∧ job.status = .succeeded ∧
        job.imageTag = image := by
  refine hc.events (B := fun t => Sound t ∧ ReferencesInv t ∧ Undisturbed t)
    (fun c hc => ⟨platform_sound henv hc, referencesInv_reach henv hc, standing_reach henv hc⟩) ?_
  rintro t i e r s ⟨-, hrefs, hstanding⟩ ⟨hsound', -⟩ - e' image rfl himage
  have hlegal := hsound'.legal i
  rw [own_push_self] at hlegal
  obtain ⟨id, row, hpending, hns⟩ := pending_of_images hlegal.1 himage
  have hrow := hstanding.deployments i id row hpending.last
  obtain ⟨job, hsaw, htenant, hstatus, htag⟩ := hpending.asks.saw
  obtain ⟨job', hget, -⟩ := hrefs.references.builds id row hrow
  obtain rfl : job' = job :=
    (hstanding.builds i _ job hsaw (by rw [hstatus]; rfl)).value job' hget
  exact ⟨row.buildJobId, job', hget, by rw [htenant]; exact hns, hstatus, htag⟩

/-- So it is in every reachable state, whatever is requested and whoever comes first. -/
theorem tenants_work_is_placed (henv : KeepsDatabase env)
    (hc : Reach (platform env) (platformStart cfg adminSecretKey requests cluster) c) :
    Placed cfg requests c.trail := by
  have hnames := (platform_sound henv hc).consistent.tenants
  constructor
  · intro id tenant htenant
    rw [hnames id tenant htenant]
    exact ⟨rfl, tenantNamespace_ne_pending id⟩
  · intro id id' tenant tenant' htenant htenant' heq
    rw [hnames id tenant htenant, hnames id' tenant' htenant'] at heq
    exact tenantNamespace_injective heq
  · exact within_reach henv hc
  · intro i later x past ns name body hown hx
    have hscope := platform_scoped henv hc i
    rw [hown] at hscope
    have hmay := hscope.of_append.1
    obtain ⟨e, r⟩ := x
    obtain rfl : e = .k8s (.create .image ns name body) := hx
    cases hrequest : requests i with
    | admin xAdminSecret request =>
        rw [hrequest] at hmay
        exact hmay.elim
    | tenant n xApiKey request =>
        rw [hrequest] at hmay
        cases hmay with
        | setup h => cases h
        | viewer h => cases h
        | image h ht =>
            subst ht
            exact ⟨_, _, h, rfl, rfl, rfl⟩
  · exact (platform_sound henv hc).consistent.builds.sole
  · intro n b n' b' hne
    constructor
    · intro heq
      obtain ⟨hns, hname⟩ := Prod.mk.inj heq
      exact hne (Prod.ext (tenantNamespace_injective hns) (imageName_injective hname))
    · intro heq
      obtain ⟨hn, hb⟩ := registryTag_injective cfg heq
      exact hne (Prod.ext hn hb)
  · intro ev hev e image he himage
    obtain ⟨id, job, hget, hns, hstatus, htag⟩ := source_reach henv hc ev hev e image he himage
    obtain ⟨n, xApiKey, r, hrequest, heq⟩ := within_reach henv hc ev hev e _ he hns
    exact ⟨n, xApiKey, r, id, job, hrequest, hget, tenantNamespace_injective heq, hstatus, htag⟩

end Reachable

/-- A tenant that builds and then deploys what it built. -/
theorem tenants_work_is_placed_deployed :
    Placed sampleSettings sampleRequests
      (drive handle (List.replicate 9 (2, .ok)) builtRun).trail :=
  tenants_work_is_placed anyCluster_keepsDatabase (Reach.drive _ builtRun_reach)

end TenantPlatform
