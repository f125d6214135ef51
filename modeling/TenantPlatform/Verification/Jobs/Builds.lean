import TenantPlatform.Verification.Jobs.Ending

/-! # Build jobs: the request that starts one and the poller that settles it -/

namespace TenantPlatform

open Effect

variable (cfg : Settings)

/-- The history has begun the build job `id`, and `row` is how it left its row. -/
structure BuildAt (id : ℕ) (row : BuildJob) (τ : History) : Prop where
  calm : Calm (.build id) τ
  last : lastBuild τ id = some row

/-- The build is under way in a namespace that is set up. -/
structure Building (id : ℕ) (row : BuildJob) (τ : History) : Prop extends BuildAt id row τ where
  active : row.active
  setUp : SetUp (tenantNamespace row.tenantId) τ

theorem steady_buildAt (id : ℕ) (row : BuildJob) : Steady (BuildAt id row) :=
  fun x τ hx h => ⟨steady_calm _ x τ hx h.calm, steady_lastBuild id row x τ hx h.last⟩

theorem steady_building (id : ℕ) (row : BuildJob) : Steady (Building id row) :=
  fun x τ hx h =>
    ⟨steady_buildAt id row x τ hx h.toBuildAt, h.active, steady_setUp _ x τ hx h.setUp⟩

theorem BuildAt.owned {id : ℕ} {row : BuildJob} {τ : History} (h : BuildAt id row τ) :
    Owned (.build id) τ := by
  simp [Owned, h.last]

theorem Idle.insertBuild {tenantId : ℕ} {gitUrl gitRevision : String} {gitSubPath : Option String}
    {status : BuildStatus} {τ : History} (h : Idle τ) (id : ℕ) (row : BuildJob) :
    BuildAt id row (⟨.db (.insertBuildJob tenantId gitUrl gitRevision gitSubPath status),
      .ok (id, row)⟩ :: τ) := by
  refine ⟨(h.calm (.build id)).cons ?_ rfl rfl rfl (fun hm => by cases hm), ?_⟩
  · intro j hj
    rcases owned_cons_of_writtenBuild (n := id) (a := row) rfl rfl j τ hj with heq | hj
    · exact heq
    · exact absurd hj (h.unowned j)
  · rw [lastBuild, lastRow_cons_some (j := id) (a := row) rfl, if_pos rfl]

section Commit

variable {id : ℕ} {row row' : BuildJob} {τ : History} {changes : BuildJobChanges}

theorem owned_commitBuild (h : BuildAt id row τ) (j : Job)
    (hj : Owned j (⟨.db (.commitBuildJob id changes), .ok row'⟩ :: τ)) : j = .build id := by
  rcases owned_cons_of_writtenBuild (n := id) (a := row') rfl rfl j τ hj with heq | hj
  · exact heq
  · exact h.calm.sole j hj

theorem lastBuild_commit :
    lastBuild (⟨.db (.commitBuildJob id changes), .ok row'⟩ :: τ) id = some row' := by
  rw [lastBuild, lastRow_cons_some (j := id) (a := row') rfl, if_pos rfl]

/-- A commit that leaves the job unsettled. -/
theorem BuildAt.commit_active (h : BuildAt id row τ) (hrow : row'.status.terminal = false) :
    BuildAt id row' (⟨.db (.commitBuildJob id changes), .ok row'⟩ :: τ) where
  calm := h.calm.cons (owned_commitBuild h) (by simp [signalOf, signal, hrow]) rfl rfl
    (fun hm => by cases hm)
  last := lastBuild_commit

theorem signalsOf_commit_settled (hsilent : signalsOf (.build id) τ = [])
    (hrow : row'.status.terminal = true) :
    signalsOf (.build id) (⟨.db (.commitBuildJob id changes), .ok row'⟩ :: τ) =
      [.settled (buildAnnouncement id row')] := by
  rw [signalsOf_cons_some (s := .settled (buildAnnouncement id row'))
    (by simp [signalOf, signal, hrow]), hsilent]

/-- A commit that settles the job with nobody told. -/
theorem BuildAt.ending_unannounced (h : BuildAt id row τ) (hrow : row'.settled) :
    Finished (⟨.db (.commitBuildJob id changes), .ok row'⟩ :: τ) := by
  refine .inr (fun j hj => ?_)
  obtain rfl := owned_commitBuild h j hj
  refine .unannounced _ (signalsOf_commit_settled h.calm.silent hrow.1)
    ⟨row', lastBuild_commit, hrow⟩
    (forall_mem_cons_false rfl h.calm.undecided) (forall_mem_cons_false rfl h.calm.unraised) ?_
  rintro (⟨hm, -⟩ | hgone)
  · cases hm
  · exact h.calm.present hgone

end Commit

/-! ## Starting a build -/

theorem createKpackImage_along {ns imageName gitUrl gitRevision imageTag : String}
    {gitSubPath : Option String} {I : History → Prop} {τ : History} (hI : Steady I) (h : I τ)
    (hset : SetUp ns τ) :
    (createKpackImage cfg ns imageName gitUrl gitRevision imageTag gitSubPath).Along
      requestDiscipline (fun _ τ' => I τ') (fun _ τ' => I τ') τ :=
  ⟨hset, fun r _ => by cases r <;> exact hI _ _ rfl h⟩

/-- What a start leaves when it raises is as it found it: no status was committed. -/
theorem startBuild_along {tenantId id : ℕ} {row : BuildJob} {τ : History}
    (h : BuildAt id row τ) (hrow : row.status.terminal = false) :
    (startBuild cfg tenantId (tenantNamespace row.tenantId) id row).Along requestDiscipline
      (fun job τ' => Building id job τ' ∧ job.tenantId = row.tenantId)
      (fun _ τ' => BuildAt id row τ') τ := by
  have hI := (steady_buildAt id row).and (steady_setUp (tenantNamespace row.tenantId))
  refine (ensureTenantNamespace_along cfg _ (steady_buildAt id row) h).bind ?_
  intro _ τ1 h1
  refine ((createKpackImage_along cfg hI h1 h1.2).mono (fun _ _ h => h) (fun _ _ h => h.1)).bind ?_
  intro _ τ2 h2
  refine ⟨trivial, fun startedAt _ => ?_⟩
  have h3 := hI ⟨.sys .nowNaive, startedAt⟩ τ2 rfl h2
  refine ⟨⟨row, h3.1.last, hrow, nofun, fun _ => h3.2⟩, fun r hr => ?_⟩
  cases r with
  | error e =>
      exact ⟨h3.1.calm.cons_of_unwritten rfl rfl rfl rfl rfl (fun hm => by cases hm),
        (lastRow_cons_none rfl _ _).trans h3.1.last⟩
  | ok row' =>
      obtain rfl := hr row h3.1.last
      exact ⟨⟨h3.1.commit_active rfl, rfl, h3.2.cons _⟩, rfl⟩

theorem failBuild_along {id : ℕ} {row : BuildJob} {e : PyException} {τ : History}
    (h : BuildAt id row τ) (hrow : row.status.terminal = false) :
    (failBuild id e).Along requestDiscipline
      (fun job τ' => job.status = .failed ∧ Finished τ') (fun _ τ' => Finished τ') τ := by
  refine ⟨trivial, fun endedAt _ => ?_⟩
  have h1 := steady_buildAt id row ⟨.sys .nowNaive, endedAt⟩ τ rfl h
  refine ⟨⟨row, h1.last, hrow, nofun, by simp⟩, fun r hr => ?_⟩
  cases r with
  | error e => exact .of_failed rfl _
  | ok row' =>
      obtain rfl := hr row h1.last
      exact ⟨rfl, h1.ending_unannounced ⟨rfl, rfl⟩⟩

/-- A build is handed to a poller exactly while it is under way. -/
def HandedBuild (id : ℕ) : Option String → History → Prop
  | some ns, τ => ∃ row, Building id row τ ∧ ns = tenantNamespace row.tenantId
  | none, τ => Finished τ

theorem createBuildJobService_along {tenantId : ℕ} {buildData : BuildJobCreate} {τ : History}
    (h : Idle τ) :
    (createBuildJobService cfg tenantId buildData).Along requestDiscipline
      (fun r τ' => HandedBuild r.1.1 r.2 τ') (fun _ τ' => Finished τ') τ := by
  refine ⟨trivial, fun r hr => ?_⟩
  have h1 := steady_idle ⟨.db (.getTenant tenantId), r⟩ τ rfl h
  cases r with
  | none => exact h1.finished
  | some tenant =>
      refine ⟨rfl, fun r hr2 => ?_⟩
      cases r with
      | error e => exact .of_failed rfl _
      | ok r =>
          obtain ⟨id, row⟩ := r
          obtain ⟨-, now, rfl⟩ := hr2
          have h2 : BuildAt id _ (⟨.db (.insertBuildJob tenantId buildData.gitUrl
              buildData.gitRevision buildData.gitSubPath .queued), .ok (id, _)⟩ :: _) :=
            h1.insertBuild id ⟨tenantId, buildData.gitUrl, buildData.gitRevision,
              buildData.gitSubPath, .queued, none, none, now, none, none⟩
          have hns : tenant.k8sNamespace = tenantNamespace tenantId := hr
          show Prog.Along _ _ _ (tryCatch (startBuild cfg tenantId tenant.k8sNamespace id _)
            (failBuild id) >>= _) _
          rw [hns]
          refine Prog.Along.bind (M := fun job τ' =>
            (Building id job τ' ∧ job.tenantId = tenantId) ∨
            (job.status = .failed ∧ Finished τ')) ?_ ?_
          · refine ((startBuild_along cfg h2 rfl).mono (fun _ _ h => .inl h)
              (fun _ _ h => h)).tryCatch ?_
            intro e τ3 h3
            exact (failBuild_along h3 rfl).mono (fun _ _ h => .inr h) (fun _ _ h => h)
          · rintro job τ3 (⟨h3, htenant⟩ | ⟨hfailed, hfin⟩)
            · show HandedBuild id (if job.status = .building then some _ else none) τ3
              rw [if_pos (show job.status = .building from h3.active)]
              exact ⟨job, h3, congrArg tenantNamespace htenant.symm⟩
            · show HandedBuild id (if job.status = .building then some _ else none) τ3
              rw [hfailed, if_neg (by decide)]
              exact hfin

/-! ## Polling a build -/

/-- A read resolved the build. -/
structure BuildDecided (id : ℕ) (row : BuildJob) (τ : History) : Prop where
  sole : ∀ j, Owned j τ → j = .build id
  silent : signalsOf (.build id) τ = []
  decided : ∃ x ∈ τ, decisive x = true
  unraised : ∀ x ∈ τ, statusReadRaised x = false
  last : lastBuild τ id = some row
  active : row.active
  setUp : SetUp (tenantNamespace row.tenantId) τ

theorem readBuild_along {id : ℕ} {row : BuildJob} {ns : String} {τ : History}
    (h : Building id row τ) :
    (readBuild ns id).Along requestDiscipline
      (fun o τ' => o.elim (Building id row τ') (fun _ => BuildDecided id row τ'))
      (fun _ τ' => Finished τ') τ := by
  refine ⟨trivial, fun r _ => ?_⟩
  have hlast : lastBuild (⟨.k8s (.readImage ns (imageName id)), r⟩ :: τ) id = some row :=
    (lastRow_cons_none rfl _ _).trans h.last
  have hsetUp : SetUp (tenantNamespace row.tenantId)
      (⟨.k8s (.readImage ns (imageName id)), r⟩ :: τ) :=
    h.setUp.cons _
  have hsole : ∀ j, Owned j (⟨.k8s (.readImage ns (imageName id)), r⟩ :: τ) → j = .build id :=
    fun j hj => h.calm.sole j ((owned_cons_of_unwritten rfl rfl j τ).mp hj)
  have hsilent : signalsOf (.build id) (⟨.k8s (.readImage ns (imageName id)), r⟩ :: τ) = [] :=
    (signalsOf_cons_none rfl τ).trans h.calm.silent
  cases r with
  | error e =>
      show (((if e.isNotFound then pure none else throw e : Py (Option ImageResource)) >>= _) >>=
        _ : Py (Option (BuildReport × Bool))).Along _ _ _ _
      split
      · rename_i he
        exact ⟨⟨h.calm.cons_of_unwritten rfl rfl rfl rfl (by simp [statusReadRaised, he])
          (fun hm => by cases hm), hlast⟩, h.active, hsetUp⟩
      · rename_i he
        refine .inr (fun j hj => ?_)
        obtain rfl := hsole j hj
        exact .raised hsilent ⟨row, hlast, h.active⟩
          ⟨_, List.mem_cons_self, by simp [statusReadRaised, he]⟩
  | ok image =>
      show Prog.Along _ _ _ (.ret ((buildReport image).ready.map _)) _
      cases hready : (buildReport image).ready with
      | none =>
          exact ⟨⟨h.calm.cons_of_unwritten rfl rfl rfl (by simp [decisive, hready]) rfl
            (fun hm => by cases hm), hlast⟩, h.active, hsetUp⟩
      | some ready =>
          exact ⟨hsole, hsilent, ⟨_, List.mem_cons_self, by simp [decisive, hready]⟩,
            forall_mem_cons_false rfl h.calm.unraised, hlast, h.active, hsetUp⟩

theorem resolveBuild_along {id : ℕ} {row : BuildJob} {resolved : BuildReport × Bool} {τ : History}
    (h : BuildDecided id row τ) :
    (resolveBuild cfg id resolved).Along requestDiscipline (fun _ τ' => Finished τ')
      (fun _ τ' => Finished τ') τ := by
  refine ⟨trivial, fun r hr => ?_⟩
  have hsole : ∀ j, Owned j (⟨.db (.getBuildJob id), r⟩ :: τ) → j = .build id :=
    fun j hj => h.sole j ((owned_cons_of_unwritten rfl rfl j τ).mp hj)
  have hunraised : ∀ x ∈ (⟨.db (.getBuildJob id), r⟩ :: τ : History), statusReadRaised x = false :=
    forall_mem_cons_false rfl h.unraised
  have hsilent : signalsOf (.build id) (⟨.db (.getBuildJob id), r⟩ :: τ) = [] :=
    (signalsOf_cons_none rfl τ).trans h.silent
  rcases r with e | _ | ⟨key, loaded⟩
  · exact .of_failed rfl _
  · refine .inr (fun j hj => ?_)
    obtain rfl := hsole j hj
    exact .gone hsilent hunraised (.inl ⟨by simp [missing], by simp [Owned, h.last]⟩)
  · obtain ⟨hkey, hrow⟩ := hr
    obtain rfl : id = key := by exact_mod_cast hkey
    obtain rfl := hrow row h.last
    refine ⟨trivial, fun endedAt _ => ?_⟩
    have hstatus : (resolvedChanges resolved.1 resolved.2 endedAt).status ≠ .queued := by
      unfold resolvedChanges
      split <;> simp
    have hlast := steady_lastBuild id loaded ⟨.sys .nowNaive, endedAt⟩ _ rfl
      ((lastRow_cons_none (x := ⟨.db (.getBuildJob id), .ok (some (id, loaded))⟩) rfl τ id).trans
        h.last)
    have hactive : loaded.status.terminal = false := by rw [h.active]; rfl
    refine ⟨⟨loaded, hlast, hactive, hstatus, fun _ => (h.setUp.cons _).cons _⟩, fun r hr => ?_⟩
    cases r with
    | error e => exact .of_failed rfl _
    | ok row' =>
        obtain rfl := hr loaded hlast
        have hsettled : ((resolvedChanges resolved.1 resolved.2 endedAt).apply loaded).settled := by
          unfold resolvedChanges
          split <;> exact ⟨rfl, rfl⟩
        refine dispatchTenantWebhooks_along cfg (j := .build id) (a := buildAnnouncement id _)
          rfl ?_ ?_ ⟨_, lastBuild_commit, hsettled⟩ ?_ ?_
        · intro j hj
          rcases owned_cons_of_writtenBuild (n := id) rfl rfl j _ hj with heq | hj
          · exact heq
          · exact hsole j ((owned_cons_of_unwritten rfl rfl j _).mp hj)
        · exact signalsOf_commit_settled ((signalsOf_cons_none rfl _).trans hsilent) hsettled.1
        · exact h.decided.imp (fun x hx => ⟨.tail _ (.tail _ (.tail _ hx.1)), hx.2⟩)
        · exact forall_mem_cons_false rfl (forall_mem_cons_false rfl hunraised)

theorem expireBuild_along {id : ℕ} {row : BuildJob} {τ : History} (h : Building id row τ) :
    (expireBuild id).Along requestDiscipline (fun _ τ' => Finished τ')
      (fun _ τ' => Finished τ') τ := by
  refine ⟨trivial, fun r hr => ?_⟩
  rcases r with e | _ | ⟨key, loaded⟩
  · exact .of_failed rfl _
  · refine .inr (fun j hj => ?_)
    obtain rfl := h.calm.sole j ((owned_cons_of_unwritten rfl rfl j τ).mp hj)
    exact .gone ((signalsOf_cons_none rfl τ).trans h.calm.silent)
      (forall_mem_cons_false rfl h.calm.unraised) (.inl ⟨by simp [missing], h.owned⟩)
  · obtain ⟨hkey, hrow⟩ := hr
    obtain rfl : id = key := by exact_mod_cast hkey
    obtain rfl := hrow row h.last
    show Prog.Along _ _ _ (if loaded.status = .building then _ else _) _
    rw [if_pos (show loaded.status = .building from h.active)]
    refine ⟨trivial, fun endedAt _ => ?_⟩
    have hat : BuildAt id loaded (⟨.sys .nowNaive, endedAt⟩ ::
        ⟨.db (.getBuildJob id), .ok (some (id, loaded))⟩ :: τ) := by
      refine steady_buildAt id loaded _ _ rfl ⟨?_, (lastRow_cons_none rfl _ _).trans h.last⟩
      exact h.calm.cons_of_unwritten rfl rfl rfl rfl rfl (fun hm => by cases hm)
    have hactive : loaded.status.terminal = false := by rw [h.active]; rfl
    refine ⟨⟨loaded, hat.last, hactive, nofun, by simp⟩, fun r hr => ?_⟩
    cases r with
    | error e => exact .of_failed rfl _
    | ok row' =>
        obtain rfl := hr loaded hat.last
        exact hat.ending_unannounced (show BuildJob.settled _ from ⟨rfl, rfl⟩)

theorem pollBuildUntilDone_along {id : ℕ} {row : BuildJob} {τ : History} (h : Building id row τ) :
    (pollBuildUntilDone cfg id (tenantNamespace row.tenantId)).Along requestDiscipline
      (fun _ τ' => Finished τ') (fun _ τ' => Finished τ') τ := by
  refine ⟨⟨row, h.last, h.active, rfl⟩, fun r _ => ?_⟩
  refine pollLoop_along (fun τ _ h => ⟨trivial, steady_building id row _ τ rfl h⟩)
    (fun τ h => readBuild_along h)
    (fun _ τ h => resolveBuild_along cfg h) (fun τ h => expireBuild_along h) _ _ _ ?_
  exact ⟨⟨h.calm.cons_of_unwritten rfl rfl rfl rfl rfl (fun hm => by cases hm),
    (lastRow_cons_none rfl _ _).trans h.last⟩, h.active, h.setUp.cons _⟩

end TenantPlatform
