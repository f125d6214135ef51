import TenantPlatform.Verification.Jobs.Ending

/-! # Deployments: the request that starts one and the poller that settles it -/

namespace TenantPlatform

open Effect

variable (cfg : Settings)

/-- The history has begun the deployment `id`, and `row` is how it left its row. -/
structure DeploymentAt (id : ℕ) (row : Deployment) (τ : History) : Prop where
  calm : Calm (.deployment id) τ
  last : lastDeployment τ id = some row

/-- The rollout is under way. -/
structure Deploying (id : ℕ) (row : Deployment) (τ : History) : Prop
    extends DeploymentAt id row τ where
  active : row.active
  applied : Applied τ row

theorem steady_deploymentAt (id : ℕ) (row : Deployment) : Steady (DeploymentAt id row) :=
  fun x τ hx h => ⟨steady_calm _ x τ hx h.calm, steady_lastDeployment id row x τ hx h.last⟩

theorem steady_deploying (id : ℕ) (row : Deployment) : Steady (Deploying id row) :=
  fun x τ hx h =>
    ⟨steady_deploymentAt id row x τ hx h.toDeploymentAt, h.active, h.applied.cons x⟩

theorem DeploymentAt.owned {id : ℕ} {row : Deployment} {τ : History} (h : DeploymentAt id row τ) :
    Owned (.deployment id) τ := by
  simp [Owned, h.last]

theorem Idle.insertDeployment {tenantId buildJobId replicaCount : ℕ} {name : String}
    {status : DeploymentStatus} {τ : History} (h : Idle τ) (id : ℕ) (row : Deployment) :
    DeploymentAt id row (⟨.db (.insertDeployment tenantId buildJobId name status replicaCount),
      .ok (id, row)⟩ :: τ) := by
  refine ⟨(h.calm (.deployment id)).cons ?_ rfl rfl rfl (fun hm => by cases hm), ?_⟩
  · intro j hj
    rcases owned_cons_of_writtenDeployment (n := id) (a := row) rfl rfl j τ hj with heq | hj
    · exact heq
    · exact absurd hj (h.unowned j)
  · rw [lastDeployment, lastRow_cons_some (j := id) (a := row) rfl, if_pos rfl]

/-- What a row asks for does not depend on its status. -/
theorem Applied.withStatus {τ : History} {row : Deployment} (h : Applied τ row)
    (status : DeploymentStatus) (now : ℕ) :
    Applied τ { row with status := status, updatedAt := now } := by
  obtain ⟨image, hasks, hwrites⟩ := h
  exact ⟨image, ⟨hasks.saw, hasks.name⟩, hwrites⟩

section Commit

variable {id : ℕ} {row row' : Deployment} {τ : History} {status : DeploymentStatus}

theorem owned_commitDeployment (hsole : ∀ j, Owned j τ → j = .deployment id) (j : Job)
    (hj : Owned j (⟨.db (.commitDeployment id status), .ok row'⟩ :: τ)) : j = .deployment id := by
  rcases owned_cons_of_writtenDeployment (n := id) (a := row') rfl rfl j τ hj with heq | hj
  · exact heq
  · exact hsole j hj

theorem lastDeployment_commit :
    lastDeployment (⟨.db (.commitDeployment id status), .ok row'⟩ :: τ) id = some row' := by
  rw [lastDeployment, lastRow_cons_some (j := id) (a := row') rfl, if_pos rfl]

/-- A commit that leaves the deployment unsettled. -/
theorem DeploymentAt.commit_active (h : DeploymentAt id row τ)
    (hrow : row'.status.terminal = false) :
    DeploymentAt id row' (⟨.db (.commitDeployment id status), .ok row'⟩ :: τ) where
  calm := h.calm.cons (owned_commitDeployment h.calm.sole) (by simp [signalOf, signal, hrow]) rfl
    rfl (fun hm => by cases hm)
  last := lastDeployment_commit

theorem signalsOf_commitDeployment_settled (hsilent : signalsOf (.deployment id) τ = [])
    (hrow : row'.settled) :
    signalsOf (.deployment id) (⟨.db (.commitDeployment id status), .ok row'⟩ :: τ) =
      [.settled (deploymentAnnouncement id row')] := by
  have hrow : row'.status.terminal = true := hrow
  rw [signalsOf_cons_some (s := .settled (deploymentAnnouncement id row'))
    (by simp [signalOf, signal, hrow]), hsilent]

/-- A commit that settles the deployment with nobody told. -/
theorem DeploymentAt.ending_unannounced (h : DeploymentAt id row τ) (hrow : row'.settled) :
    Finished (⟨.db (.commitDeployment id status), .ok row'⟩ :: τ) := by
  refine .inr (fun j hj => ?_)
  obtain rfl := owned_commitDeployment h.calm.sole j hj
  refine .unannounced _ (signalsOf_commitDeployment_settled h.calm.silent hrow)
    ⟨row', lastDeployment_commit, hrow⟩ (forall_mem_cons_false rfl h.calm.undecided)
    (forall_mem_cons_false rfl h.calm.unraised) ?_
  rintro (⟨hm, -⟩ | hgone)
  · cases hm
  · exact h.calm.present hgone

end Commit

/-! ## Starting a deployment -/

/-- Writing the cluster objects succeeds only by writing what the row asks for. -/
theorem createTenantDeployment_along {id : ℕ} {row : Deployment} {image : Option String}
    {τ : History} (h : DeploymentAt id row τ) (hp : Pending τ id row image) :
    (createTenantDeployment (tenantNamespace row.tenantId) image row.replicaCount).Along
      requestDiscipline (fun _ τ' => DeploymentAt id row τ' ∧ Applied τ' row)
      (fun _ τ' => DeploymentAt id row τ') τ := by
  have hcons : ∀ {τ : History} {x : Exchange Call Call.Result}, DeploymentAt id row τ →
      writtenBuild x = none → writtenDeployment x = none → signalOf (.deployment id) x = none →
      decisive x = false → statusReadRaised x = false → missing (.deployment id) x = false →
      DeploymentAt id row (x :: τ) := by
    intro τ x h hb hd hs hdec hr hm
    exact ⟨h.calm.cons_of_unwritten hb hd hs hdec hr (fun hm' => by rw [hm] at hm'; cases hm'),
      (lastRow_cons_none hd _ _).trans h.last⟩
  refine Prog.Along.bind (M := fun _ τ' => DeploymentAt id row τ' ∧ Applied τ' row) ?_ ?_
  · refine ⟨⟨id, row, image, hp, rfl, rfl, rfl⟩, fun r _ => ?_⟩
    have h1 := hcons (x := ⟨.k8s (.create .deployment _ tenantAppName
      (deploymentBody image row.replicaCount tenantAppName)), r⟩) h rfl rfl rfl rfl rfl rfl
    cases r with
    | ok u => exact ⟨h1, image, hp.asks.cons _, _, List.mem_cons_self, .created⟩
    | error e =>
        show (if e.isConflict then patchNamespacedDeployment _ _ _ else throw e : Py Unit).Along
          _ _ _ _
        split
        · have hp1 : Pending (⟨.k8s (.create .deployment (tenantNamespace row.tenantId)
              tenantAppName (deploymentBody image row.replicaCount tenantAppName)), .error e⟩ :: τ)
              id row image := by
            refine ⟨h1.last, hp.pending, hp.asks.cons _, ?_⟩
            intro y hy
            rcases List.mem_cons.mp hy with rfl | hy
            · rintro ns' image' replicas' ⟨⟩
            · exact hp.unwritten y hy
          refine ⟨⟨id, row, image, hp1, rfl, rfl, rfl⟩, fun r _ => ?_⟩
          have h2 := hcons (x := ⟨.k8s (.patchDeployment _ tenantAppName
            (deploymentPatch image row.replicaCount)), r⟩) h1 rfl rfl rfl rfl rfl rfl
          cases r with
          | ok u => exact ⟨h2, image, hp1.asks.cons _, _, List.mem_cons_self, .patched⟩
          | error e => exact h2
        · exact h1
  · intro _ τ' h'
    refine (createIfAbsent_along .service _ _ _ rfl (fun _ _ => trivial)
      ((steady_deploymentAt id row).and (steady_applied row)) h').mono ?_ ?_
    · exact fun _ _ h => h.1
    · exact fun _ _ h => h.1

theorem startDeployment_along {id : ℕ} {row : Deployment} {image : Option String}
    {tenant : Option Tenant} {τ : History} (h : DeploymentAt id row τ)
    (hp : Pending τ id row image)
    (htenant : ∀ t, tenant = some t → t.k8sNamespace = tenantNamespace row.tenantId) :
    (startDeployment tenant image id row).Along requestDiscipline
      (fun row' τ' => Deploying id row' τ' ∧ tenant.map Tenant.k8sNamespace =
        some (tenantNamespace row'.tenantId))
      (fun _ τ' => DeploymentAt id row τ') τ := by
  cases tenant with
  | none => exact h
  | some tenant =>
      have hns := htenant tenant rfl
      show Prog.Along _ _ _ (createTenantDeployment tenant.k8sNamespace image row.replicaCount >>=
        fun _ => commitDeployment id .deploying) τ
      rw [hns]
      refine (createTenantDeployment_along h hp).bind ?_
      rintro _ τ1 ⟨h1, happlied⟩
      refine ⟨⟨row, h1.last, by rw [hp.pending]; rfl, fun _ => happlied, nofun, nofun⟩,
        fun r hr => ?_⟩
      cases r with
      | error e =>
          exact ⟨h1.calm.cons_of_unwritten rfl rfl rfl rfl rfl (fun hm => by cases hm),
            (lastRow_cons_none rfl _ _).trans h1.last⟩
      | ok row' =>
          obtain ⟨now, rfl⟩ := hr row h1.last
          exact ⟨⟨h1.commit_active rfl, rfl, (happlied.withStatus .deploying now).cons _⟩,
            congrArg some hns⟩

theorem failDeployment_along {id : ℕ} {row : Deployment} {τ : History}
    (h : DeploymentAt id row τ) (hrow : row.status.terminal = false) :
    (commitDeployment id .failed).Along requestDiscipline
      (fun row' τ' => row'.status = .failed ∧ Finished τ') (fun _ τ' => Finished τ') τ := by
  refine ⟨⟨row, h.last, hrow, by simp, nofun, fun _ => .inl h.calm.undecided⟩, fun r hr => ?_⟩
  cases r with
  | error e => exact .of_failed rfl _
  | ok row' =>
      obtain ⟨now, rfl⟩ := hr row h.last
      exact ⟨rfl, h.ending_unannounced rfl⟩

/-- A deployment is handed to a poller exactly while it is under way. -/
def HandedDeployment (id : ℕ) (name : String) : Option String → History → Prop
  | some ns, τ => ∃ row, Deploying id row τ ∧ ns = tenantNamespace row.tenantId ∧
      name = tenantAppName
  | none, τ => Finished τ

theorem Idle.getBuildJob {key : ℤ} {r : Except PyException (Option (ℕ × BuildJob))} {τ : History}
    (h : Idle τ) : Idle (⟨.db (.getBuildJob key), r⟩ :: τ) := by
  refine ⟨fun j hj => h.unowned j ((owned_cons_of_unwritten rfl rfl j τ).mp hj), fun j => ?_, ?_⟩
  · exact (h.calm j).cons_of_unwritten rfl rfl rfl rfl rfl (fun _ => h.unowned j)
  · intro y hy
    rcases List.mem_cons.mp hy with rfl | hy
    · rintro ns image replicas ⟨⟩
    · exact h.unwritten y hy

theorem createDeploymentService_along {tenantId : ℕ} {deployData : DeploymentCreate} {τ : History}
    (h : Idle τ) :
    (createDeploymentService tenantId deployData).Along requestDiscipline
      (fun r τ' => HandedDeployment r.1.1 r.1.2.k8sDeploymentName r.2 τ')
      (fun _ τ' => Finished τ') τ := by
  refine ⟨trivial, fun r hr => ?_⟩
  have h1 : Idle (⟨.db (.getBuildJob deployData.buildJobId), r⟩ :: τ) := h.getBuildJob
  rcases r with e | _ | ⟨buildJobId, job⟩
  · exact .of_failed rfl _
  · exact h1.finished
  · show Prog.Along _ _ _ (if _ then _ else if _ then _ else _) _
    split
    · exact h1.finished
    · rename_i htenant
      split
      · exact h1.finished
      · rename_i hstatus
        have htenant := not_not.mp htenant
        have hstatus := not_not.mp hstatus
        refine ⟨trivial, fun tenant hr2 => ?_⟩
        have h2 := steady_idle ⟨.db (.getTenant tenantId), tenant⟩ _ rfl h1
        have hsaw : SawBuild (⟨.db (.getTenant tenantId), tenant⟩ ::
            ⟨.db (.getBuildJob deployData.buildJobId), .ok (some (buildJobId, job))⟩ :: τ)
            buildJobId job := ⟨_, .tail _ (.head _)⟩
        refine ⟨⟨rfl, rfl, job, hsaw, htenant, hstatus⟩, fun r hr3 => ?_⟩
        cases r with
        | error e => exact .of_failed rfl _
        | ok r =>
            obtain ⟨id, row⟩ := r
            obtain ⟨-, now, rfl⟩ := hr3
            have h3 : DeploymentAt id _ (⟨.db (.insertDeployment tenantId buildJobId tenantAppName
                .pending deployData.replicaCount), .ok (id, _)⟩ :: _) :=
              h2.insertDeployment id ⟨tenantId, buildJobId, tenantAppName, .pending,
                deployData.replicaCount, now, now⟩
            have hpending : Pending _ id _ job.imageTag :=
              { last := h3.last
                pending := rfl
                asks := ⟨⟨job, hsaw.cons _, htenant, hstatus, rfl⟩, rfl⟩
                unwritten := by
                  intro y hy
                  rcases List.mem_cons.mp hy with rfl | hy
                  · rintro ns image replicas ⟨⟩
                  · exact h2.unwritten y hy }
            have hns : ∀ t, tenant = some t → t.k8sNamespace = tenantNamespace tenantId := by
              rintro t rfl
              exact hr2
            show Prog.Along _ _ _ (tryCatch (startDeployment tenant job.imageTag id _)
              (fun _ => commitDeployment id .failed) >>= _) _
            refine Prog.Along.bind (M := fun row' τ' =>
              (Deploying id row' τ' ∧ tenant.map Tenant.k8sNamespace =
                some (tenantNamespace row'.tenantId)) ∨
              (row'.status = .failed ∧ Finished τ')) ?_ ?_
            · refine ((startDeployment_along h3 hpending hns).mono (fun _ _ h => .inl h)
                (fun _ _ h => h)).tryCatch ?_
              intro e τ4 h4
              exact (failDeployment_along h4 rfl).mono (fun _ _ h => .inr h) (fun _ _ h => h)
            · rintro row' τ4 (⟨h4, hmap⟩ | ⟨hfailed, hfin⟩)
              · show HandedDeployment id row'.k8sDeploymentName
                  (if row'.status = .deploying then _ else none) τ4
                rw [if_pos (show row'.status = .deploying from h4.active), hmap]
                obtain ⟨_, hasks, -⟩ := h4.applied
                exact ⟨row', h4, rfl, hasks.name⟩
              · show HandedDeployment id row'.k8sDeploymentName
                  (if row'.status = .deploying then _ else none) τ4
                rw [hfailed, if_neg (by decide)]
                exact hfin

/-! ## Polling a deployment -/

/-- A read resolved the rollout, and it was the last read. -/
structure DeploymentDecided (id : ℕ) (row : Deployment) (running : Bool) (τ : History) : Prop where
  sole : ∀ j, Owned j τ → j = .deployment id
  silent : signalsOf (.deployment id) τ = []
  decided : ∃ x ∈ τ, decisive x = true
  unraised : ∀ x ∈ τ, statusReadRaised x = false
  last : lastDeployment τ id = some row
  active : row.active
  applied : Applied τ row
  read : ∃ deployment past, (rolloutReport deployment).running = some running ∧
    lastDeployment past id = some row ∧ Applied past row ∧ τ =
      ⟨.k8s (.readDeployment (tenantNamespace row.tenantId) tenantAppName), .ok deployment⟩ :: past

theorem readDeployment_along {id : ℕ} {row : Deployment} {τ : History} (h : Deploying id row τ) :
    (readDeployment (tenantNamespace row.tenantId) tenantAppName).Along requestDiscipline
      (fun o τ' =>
        o.elim (Deploying id row τ') (fun running => DeploymentDecided id row running τ'))
      (fun _ τ' => Finished τ') τ := by
  refine ⟨⟨id, row, h.last, h.active, rfl, rfl⟩, fun r _ => ?_⟩
  generalize hx : (⟨.k8s (.readDeployment (tenantNamespace row.tenantId) tenantAppName), r⟩ :
    Exchange Call Call.Result) = x
  have hb : writtenBuild x = none := by rw [← hx]; rfl
  have hd : writtenDeployment x = none := by rw [← hx]; rfl
  have hs : signalOf (.deployment id) x = none := by rw [← hx]; rfl
  have hm : missing (.deployment id) x = false := by rw [← hx]; rfl
  have hlast : lastDeployment (x :: τ) id = some row := (lastRow_cons_none hd _ _).trans h.last
  have hsole : ∀ j, Owned j (x :: τ) → j = .deployment id :=
    fun j hj => h.calm.sole j ((owned_cons_of_unwritten hb hd j τ).mp hj)
  have hsilent := (signalsOf_cons_none hs τ).trans h.calm.silent
  have hcalm : decisive x = false → statusReadRaised x = false → Deploying id row (x :: τ) :=
    fun hdec hr => ⟨⟨h.calm.cons_of_unwritten hb hd hs hdec hr
      (fun hm' => by rw [hm] at hm'; cases hm'), hlast⟩, h.active, h.applied.cons x⟩
  cases r with
  | error e =>
      show (((if e.isNotFound then pure none else throw e : Py (Option DeploymentResource)) >>= _)
        >>= _ : Py (Option Bool)).Along _ _ _ _
      split
      · rename_i he
        exact hcalm (by rw [← hx]; rfl) (by rw [← hx]; simp [statusReadRaised, he])
      · rename_i he
        refine .inr (fun j hj => ?_)
        obtain rfl := hsole j hj
        exact .raised hsilent ⟨row, hlast, h.active⟩
          ⟨x, List.mem_cons_self, by rw [← hx]; simp [statusReadRaised, he]⟩
  | ok deployment =>
      show Prog.Along _ _ _ (.ret (rolloutReport deployment).running) _
      cases hrunning : (rolloutReport deployment).running with
      | none => exact hcalm (by rw [← hx]; simp [decisive, hrunning]) (by rw [← hx]; rfl)
      | some running =>
          refine ⟨hsole, hsilent, ⟨x, List.mem_cons_self, by rw [← hx]; simp [decisive, hrunning]⟩,
            forall_mem_cons_false (by rw [← hx]; rfl) h.calm.unraised, hlast, h.active,
            h.applied.cons x, deployment, τ, hrunning, h.last, h.applied, by rw [← hx]⟩

theorem resolveDeployment_along {id : ℕ} {row : Deployment} {running : Bool} {τ : History}
    (h : DeploymentDecided id row running τ) :
    (resolveDeployment cfg id running).Along requestDiscipline (fun _ τ' => Finished τ')
      (fun _ τ' => Finished τ') τ := by
  refine ⟨trivial, fun r hr => ?_⟩
  have hsole : ∀ j, Owned j (⟨.db (.getDeployment id), r⟩ :: τ) → j = .deployment id :=
    fun j hj => h.sole j ((owned_cons_of_unwritten rfl rfl j τ).mp hj)
  have hunraised : ∀ x ∈ (⟨.db (.getDeployment id), r⟩ :: τ : History),
      statusReadRaised x = false := forall_mem_cons_false rfl h.unraised
  have hsilent : signalsOf (.deployment id) (⟨.db (.getDeployment id), r⟩ :: τ) = [] :=
    (signalsOf_cons_none rfl τ).trans h.silent
  rcases r with _ | loaded
  · refine .inr (fun j hj => ?_)
    obtain rfl := hsole j hj
    exact .gone hsilent hunraised (.inl ⟨by simp [missing], by simp [Owned, h.last]⟩)
  · obtain rfl := hr row h.last
    have hlast : lastDeployment (⟨.db (.getDeployment id), some loaded⟩ :: τ) id = some loaded :=
      (lastRow_cons_none rfl _ _).trans h.last
    have hactive : loaded.status.terminal = false := by
      rw [show loaded.status = .deploying from h.active]
      rfl
    have hverdict : Verdict (⟨.db (.getDeployment id), some loaded⟩ :: τ) id loaded running := by
      obtain ⟨deployment, past, hrunning, hpast, happlied, rfl⟩ := h.read
      exact ⟨deployment, past, hrunning, hpast, happlied, rfl⟩
    refine ⟨⟨loaded, hlast, hactive, fun _ => h.applied.cons _, ?_, ?_⟩, fun r hr => ?_⟩
    · cases running with
      | true => exact fun _ => hverdict
      | false => exact fun h => by cases h
    · cases running with
      | true => exact fun h => by cases h
      | false => exact fun _ => .inr hverdict
    · cases r with
      | error e => exact .of_failed rfl _
      | ok row' =>
          obtain ⟨now, rfl⟩ := hr loaded hlast
          have hsettled : ({ loaded with
              status := if running then .running else .failed, updatedAt := now } :
              Deployment).settled := by
            cases running <;> rfl
          refine dispatchTenantWebhooks_along cfg (j := .deployment id)
            (a := deploymentAnnouncement id { loaded with
              status := if running then .running else .failed, updatedAt := now })
            rfl (owned_commitDeployment hsole)
            (signalsOf_commitDeployment_settled hsilent hsettled)
            ⟨_, lastDeployment_commit, hsettled⟩ ?_ (forall_mem_cons_false rfl hunraised)
          exact h.decided.imp (fun x hx => ⟨.tail _ (.tail _ hx.1), hx.2⟩)

theorem expireDeployment_along {id : ℕ} {row : Deployment} {τ : History}
    (h : Deploying id row τ) :
    (expireDeployment id).Along requestDiscipline (fun _ τ' => Finished τ')
      (fun _ τ' => Finished τ') τ := by
  refine ⟨trivial, fun r hr => ?_⟩
  rcases r with _ | loaded
  · refine .inr (fun j hj => ?_)
    obtain rfl := h.calm.sole j ((owned_cons_of_unwritten rfl rfl j τ).mp hj)
    exact .gone ((signalsOf_cons_none rfl τ).trans h.calm.silent)
      (forall_mem_cons_false rfl h.calm.unraised) (.inl ⟨by simp [missing], h.owned⟩)
  · obtain rfl := hr row h.last
    have hactive : loaded.status = .deploying := h.active
    show Prog.Along _ _ _ (if loaded.status = .deploying then _ else _) _
    rw [if_pos hactive]
    have hat : DeploymentAt id loaded (⟨.db (.getDeployment id), some loaded⟩ :: τ) := by
      refine ⟨?_, (lastRow_cons_none rfl _ _).trans h.last⟩
      exact h.calm.cons_of_unwritten rfl rfl rfl rfl rfl (fun hm => by cases hm)
    exact ((failDeployment_along hat (by rw [hactive]; rfl)).mono (fun _ _ h => h.2)
      (fun _ _ h => h)).bind (fun _ _ h => h)

theorem pollDeploymentUntilRunning_along {id : ℕ} {row : Deployment} {τ : History}
    (h : Deploying id row τ) :
    (pollDeploymentUntilRunning cfg id (tenantNamespace row.tenantId) tenantAppName).Along
      requestDiscipline (fun _ τ' => Finished τ') (fun _ τ' => Finished τ') τ := by
  refine ⟨⟨row, h.last, h.active, rfl, rfl⟩, fun r _ => ?_⟩
  refine pollLoop_along (fun τ _ h => ⟨trivial, steady_deploying id row _ τ rfl h⟩)
    (fun τ h => readDeployment_along h)
    (fun _ τ h => resolveDeployment_along cfg h) (fun τ h => expireDeployment_along h) _ _ _ ?_
  exact ⟨⟨h.calm.cons_of_unwritten rfl rfl rfl rfl rfl (fun hm => by cases hm),
    (lastRow_cons_none rfl _ _).trans h.last⟩, h.active, h.applied.cons _⟩

end TenantPlatform
