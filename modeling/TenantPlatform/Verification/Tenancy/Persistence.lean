import TenantPlatform.Verification.Jobs.Progress
import TenantPlatform.Verification.Tenancy.Removal

/-! # Rows keep their identity

A key of a table means one row for ever. Between any two moments of a run, what was asked for
stays as it was, what a row says of its progress only moves on, and a row goes with its tenant
and not otherwise. -/

namespace TenantPlatform

open Effect

/-! ## What may become of a row -/

/-- Only the time of its revocation changes, and it stays revoked. -/
structure ApiKey.Later (a b : ApiKey) : Prop where
  same : b = { a with revokedAt := b.revokedAt }
  revoked : a.revokedAt.isSome → b.revokedAt.isSome

theorem ApiKey.Later.refl (a : ApiKey) : a.Later a := ⟨rfl, fun h => h⟩

theorem ApiKey.Later.trans (a b c : ApiKey) (h : a.Later b) (h' : b.Later c) : a.Later c :=
  ⟨by rw [h'.same, h.same], fun ha => h'.revoked (h.revoked ha)⟩

def BuildStatus.rank : BuildStatus → ℕ
  | .queued => 0
  | .building => 1
  | .succeeded | .failed => 2

/-- What a build asks for, and since when. -/
def BuildJob.asked (row : BuildJob) : ℕ × String × String × Option String × ℕ :=
  (row.tenantId, row.gitUrl, row.gitRevision, row.gitSubPath, row.createdAt)

/-- A job that has moved on has done so for good: a terminal row stays as it is. -/
structure BuildJob.Later (a b : BuildJob) : Prop where
  asked : b.asked = a.asked
  startedAt : a.status ≠ .queued → b.startedAt = a.startedAt
  progress : b = a ∨ a.status.rank < b.status.rank

theorem BuildJob.Later.refl (a : BuildJob) : a.Later a := ⟨rfl, fun _ => rfl, .inl rfl⟩

theorem BuildJob.Later.tenantId {a b : BuildJob} (h : a.Later b) : b.tenantId = a.tenantId :=
  congrArg Prod.fst h.asked

theorem BuildJob.Later.trans (a b c : BuildJob) (h : a.Later b) (h' : b.Later c) : a.Later c := by
  rcases h.progress with rfl | hab
  · exact h'
  · have hb : b.status ≠ .queued := by
      intro hq
      rw [hq] at hab
      exact absurd hab (Nat.not_lt_zero _)
    refine ⟨h'.asked.trans h.asked, fun ha => (h'.startedAt hb).trans (h.startedAt ha), .inr ?_⟩
    rcases h'.progress with rfl | hbc
    · exact hab
    · exact hab.trans hbc

def DeploymentStatus.rank : DeploymentStatus → ℕ
  | .pending => 0
  | .deploying => 1
  | .running | .failed | .stopped => 2

structure Deployment.Later (a b : Deployment) : Prop where
  asked : b.asked = a.asked
  progress : b = a ∨ a.status.rank < b.status.rank

theorem Deployment.Later.refl (a : Deployment) : a.Later a := ⟨rfl, .inl rfl⟩

theorem Deployment.Later.tenantId {a b : Deployment} (h : a.Later b) : b.tenantId = a.tenantId :=
  congrArg Prod.fst h.asked

theorem Deployment.Later.trans (a b c : Deployment) (h : a.Later b) (h' : b.Later c) :
    a.Later c := by
  refine ⟨h'.asked.trans h.asked, ?_⟩
  rcases h.progress with rfl | hab
  · exact h'.progress
  · rcases h'.progress with rfl | hbc
    · exact .inr hab
    · exact .inr (hab.trans hbc)

theorem Moves.later {τ : History} {old : BuildJob} {changes : BuildJobChanges}
    (h : Moves τ old changes) : old.Later (changes.apply old) := by
  cases h with
  | started hs now =>
      refine ⟨rfl, fun hne => absurd hs hne, .inr ?_⟩
      simp [hs, BuildStatus.rank, BuildJobChanges.apply]
  | failed hs message now =>
      refine ⟨rfl, fun _ => rfl, .inr ?_⟩
      cases hst : old.status <;>
        simp [hst, BuildStatus.terminal, BuildStatus.rank, BuildJobChanges.apply] at hs ⊢
  | succeeded hs hread hready now =>
      refine ⟨rfl, fun _ => rfl, .inr ?_⟩
      simp [hs, BuildStatus.rank, BuildJobChanges.apply]

theorem rank_lt_of_next {s s' : DeploymentStatus} (h : s' ∈ s.next) : s.rank < s'.rank := by
  cases s <;> cases s' <;> simp [DeploymentStatus.next, DeploymentStatus.rank] at h ⊢

/-! ## Databases -/

/-- The rows of the tenant are there still. -/
structure Database.Retains (n : ℕ) (db db' : Database) : Prop where
  apiKeys : db.apiKeys.Retains (fun row => row.tenantId = n) db'.apiKeys
  buildJobs : db.buildJobs.Retains (fun row => row.tenantId = n) db'.buildJobs
  deployments : db.deployments.Retains (fun row => row.tenantId = n) db'.deployments
  webhookRegistrations :
    db.webhookRegistrations.Retains (fun row => row.tenantId = n) db'.webhookRegistrations
  webhookDeliveries :
    db.webhookDeliveries.Retains (fun row => row.tenantId = n) db'.webhookDeliveries

/-- The tables that belong to tenants. -/
structure Database.RowsEvolve (db db' : Database) : Prop where
  apiKeys : db.apiKeys.Evolves ApiKey.Later db'.apiKeys
  buildJobs : db.buildJobs.Evolves BuildJob.Later db'.buildJobs
  deployments : db.deployments.Evolves Deployment.Later db'.deployments
  webhookRegistrations : db.webhookRegistrations.Evolves Eq db'.webhookRegistrations
  webhookDeliveries : db.webhookDeliveries.Evolves Eq db'.webhookDeliveries

theorem Database.RowsEvolve.refl (db : Database) : db.RowsEvolve db :=
  ⟨.refl ApiKey.Later.refl _, .refl BuildJob.Later.refl _, .refl Deployment.Later.refl _,
    .refl Eq.refl _, .refl Eq.refl _⟩

theorem Database.RowsEvolve.trans {db db' db'' : Database} (h : db.RowsEvolve db')
    (h' : db'.RowsEvolve db'') : db.RowsEvolve db'' :=
  ⟨h.apiKeys.trans ApiKey.Later.trans h'.apiKeys,
    h.buildJobs.trans BuildJob.Later.trans h'.buildJobs,
    h.deployments.trans Deployment.Later.trans h'.deployments,
    h.webhookRegistrations.trans (fun _ _ _ => Eq.trans) h'.webhookRegistrations,
    h.webhookDeliveries.trans (fun _ _ _ => Eq.trans) h'.webhookDeliveries⟩

theorem Database.Retains.refl (n : ℕ) (db : Database) : db.Retains n db :=
  ⟨.refl _, .refl _, .refl _, .refl _, .refl _⟩

theorem Database.Retains.trans {n : ℕ} {db db' db'' : Database} (h : db.Retains n db')
    (he : db.RowsEvolve db') (h' : db'.Retains n db'') : db.Retains n db'' where
  apiKeys := h.apiKeys.trans he.apiKeys
    (fun a b hab ha => by rw [hab.same]; exact ha) h'.apiKeys
  buildJobs := h.buildJobs.trans he.buildJobs
    (fun a b hab ha => hab.tenantId.trans ha) h'.buildJobs
  deployments := h.deployments.trans he.deployments
    (fun a b hab ha => hab.tenantId.trans ha) h'.deployments
  webhookRegistrations := h.webhookRegistrations.trans he.webhookRegistrations
    (fun a b hab ha => hab ▸ ha) h'.webhookRegistrations
  webhookDeliveries := h.webhookDeliveries.trans he.webhookDeliveries
    (fun a b hab ha => hab ▸ ha) h'.webhookDeliveries

/-- What one moment and a later one have to do with each other. -/
structure Database.Later (db db' : Database) : Prop extends db.RowsEvolve db' where
  tenants : ∀ id a a', db.tenants.get id = some a → db'.tenants.get id = some a' → a.Later a'
  retains : ∀ n, db.HasTenant n → db'.HasTenant n → db.Retains n db'

theorem Database.Step.retains {e : DbCall} {db db' : Database} (h : db.Step e db') {n : ℕ}
    (hn : db'.HasTenant n) : db.Retains n db' :=
  ⟨fun id a ha heq => h.apiKeys.retains id a ha (fun _ => heq ▸ hn),
    fun id a ha heq => h.buildJobs.retains id a ha (fun _ => heq ▸ hn),
    fun id a ha heq => h.deployments.retains id a ha (fun _ => heq ▸ hn),
    fun id a ha heq => h.webhookRegistrations.retains id a ha (fun _ => heq ▸ hn),
    fun id a ha heq => h.webhookDeliveries.retains id a ha (fun _ => heq ▸ hn)⟩

/-! ## Runs -/

section Reachable

variable {ι : Type} [DecidableEq ι] {cfg : Settings} {adminSecretKey : String}
  {requests : ι → Request} {cluster : Cluster} {env : World → World → Prop}
  {c c' c'' : Config ι Call Call.Result PyException World}

/-- What the disciplines of the requests say of a trail. -/
structure Disciplined (cfg : Settings) (requests : ι → Request)
    (t : Trail ι Call Call.Result World) : Prop
    extends Known t where
  inScope : ∀ i, (scopeDiscipline cfg (requests i)).Legal (own i t.events)
  advances : ∀ i, advancing.Legal (own i t.events)

theorem platform_disciplined (henv : KeepsDatabase env)
    (hc : Reach (platform env) (platformStart cfg adminSecretKey requests cluster) c) :
    Disciplined cfg requests c.trail :=
  ⟨platform_known henv hc, platform_scoped henv hc, platform_advances henv hc⟩

/-- A statement of a request moves the rows on that are there. -/
theorem rowsEvolve_step {t : Trail ι Call Call.Result World} {i : ι} {e : DbCall} {want now : ℕ}
    {s : World} (h : Disciplined cfg requests t)
    (h' : Disciplined cfg requests (t.push i (.db e) (handleDb want now e t.state.db).1 s)) :
    t.state.db.RowsEvolve (handleDb want now e t.state.db).2 := by
  have hs := database_step want now e h.references
  have hscope := h'.inScope i
  have hadvance := h'.advances i
  rw [own_push_self] at hscope hadvance
  constructor
  · refine hs.apiKeys.evolves ApiKey.Later.refl ApiKey.Later.trans ?_
    rintro id old row - ⟨at', rfl⟩
    exact ⟨rfl, fun _ => rfl⟩
  · refine hs.buildJobs.evolves BuildJob.Later.refl BuildJob.Later.trans ?_
    rintro id old row hold ⟨changes, rfl, rfl, -⟩
    cases hrequest : requests i with
    | admin xAdminSecret r =>
        rw [hrequest] at hscope
        exact hscope.1.elim
    | tenant n xApiKey r =>
        rw [hrequest] at hscope
        obtain ⟨last, hlast, hmoves⟩ := hscope.1
        obtain rfl := h.consistent.builds.found hold i last hlast
        exact hmoves.later
  · refine hs.deployments.evolves Deployment.Later.refl Deployment.Later.trans ?_
    rintro id old row hold ⟨status, now', rfl, rfl⟩
    obtain ⟨last, hlast, hnext⟩ := hadvance.1
    obtain rfl := h.consistent.deployments.found hold i last hlast
    exact ⟨rfl, .inr (rank_lt_of_next hnext)⟩
  · exact hs.webhookRegistrations.evolves Eq.refl (fun _ _ _ => Eq.trans) (fun _ _ _ _ h => h.elim)
  · exact hs.webhookDeliveries.evolves Eq.refl (fun _ _ _ => Eq.trans) (fun _ _ _ _ h => h.elim)

/-- The rows of two moments, and those of tenants that had been created by the first and are found
at the second. -/
structure RowsPersist (t t' : Trail ι Call Call.Result World) : Prop
    extends TenantsPersist t t' where
  evolve : t.state.db.RowsEvolve t'.state.db
  retains : ∀ ev ∈ t.events, ∀ n, createdTenant ev.toExchange = some n →
    t'.state.db.HasTenant n → t.state.db.Retains n t'.state.db

omit [DecidableEq ι] in
theorem RowsPersist.trans {t t' t'' : Trail ι Call Call.Result World} (h : RowsPersist t t')
    (h' : RowsPersist t' t'') : RowsPersist t t'' := by
  refine ⟨h.toTenantsPersist.trans h'.toTenantsPersist, h.evolve.trans h'.evolve, ?_⟩
  intro ev hev n hn hthere
  obtain ⟨ev', hev', hn'⟩ := h.created ev hev n hn
  obtain ⟨a'', ha''⟩ := Option.isSome_iff_exists.mp hthere
  obtain ⟨a', ha', -⟩ := h'.rows ev' hev' n hn' a'' ha''
  exact (h.retains ev hev n hn (Option.isSome_of_eq_some ha')).trans h.evolve
    (h'.retains ev' hev' n hn' hthere)

omit [DecidableEq ι] in
theorem rowsPersist_same {t t' : Trail ι Call Call.Result World} (h : TenantsPersist t t')
    (hdb : t'.state.db = t.state.db) : RowsPersist t t' :=
  ⟨h, by rw [hdb]; exact .refl _, fun _ _ n _ _ => by rw [hdb]; exact .refl n _⟩

theorem rows_persist (henv : KeepsDatabase env)
    (hc : Reach (platform env) (platformStart cfg adminSecretKey requests cluster) c)
    (hc' : Reach (platform env) c c') : RowsPersist c.trail c'.trail := by
  refine Reach.between (B := fun t => Disciplined cfg requests t ∧
      (∀ i, creating.Legal (own i t.events)) ∧ Creations t)
    (fun _ hc => ⟨platform_disciplined henv hc, platform_creates henv hc, creations_reach henv hc⟩)
    (fun t => rowsPersist_same (.refl t) rfl) (fun _ _ _ => RowsPersist.trans)
    ?_ ?_ hc hc'
  · rintro t i e r s ⟨hd, -, hcreations⟩ ⟨hd', hlegal, -⟩ hact
    have htenants := tenantsPersist_act hlegal hcreations hact
    obtain ⟨o, ho⟩ := hact
    cases e with
    | k8s e =>
        obtain ⟨rfl, rfl⟩ := Prod.mk.inj ho
        exact rowsPersist_same htenants rfl
    | sys e =>
        obtain ⟨rfl, rfl⟩ := Prod.mk.inj ho
        exact rowsPersist_same htenants rfl
    | db e =>
        obtain ⟨rfl, rfl⟩ := Prod.mk.inj ho
        exact ⟨htenants, rowsEvolve_step hd hd',
          fun _ _ n _ hn => (database_step o.want o.now e hd.references).retains hn⟩
  · intro t s _ hs
    exact rowsPersist_same (tenantsPersist_env (henv _ _ hs)) (henv _ _ hs)

theorem rows_keep (henv : KeepsDatabase env)
    (hc : Reach (platform env) (platformStart cfg adminSecretKey requests cluster) c)
    (hc' : Reach (platform env) c c') : c.trail.state.db.Later c'.trail.state.db := by
  have h := rows_persist henv hc hc'
  have hcovered := (creations_reach henv hc).covered
  refine ⟨h.evolve, fun id a a' ha ha' => ?_, fun n hn hn' => ?_⟩
  · obtain ⟨ev, hev, hid⟩ := hcovered id a ha
    obtain ⟨b, hb, hlater⟩ := h.rows ev hev id hid a' ha'
    rw [← Option.some.inj (hb.symm.trans ha)]
    exact hlater
  · obtain ⟨tenant, htenant⟩ := Option.isSome_iff_exists.mp hn
    obtain ⟨ev, hev, hid⟩ := hcovered n tenant htenant
    exact h.retains ev hev n hid hn'

/-- A tenant that is found at two moments has been there all the time. -/
theorem hasTenant_between (henv : KeepsDatabase env)
    (hc : Reach (platform env) (platformStart cfg adminSecretKey requests cluster) c)
    (hc' : Reach (platform env) c c') (hc'' : Reach (platform env) c' c'') {n : ℕ}
    (hn : c.trail.state.db.HasTenant n) (hn'' : c''.trail.state.db.HasTenant n) :
    c'.trail.state.db.HasTenant n := by
  obtain ⟨tenant, htenant⟩ := Option.isSome_iff_exists.mp hn
  obtain ⟨last, hlast⟩ := Option.isSome_iff_exists.mp hn''
  obtain ⟨ev, hev, hid⟩ := (creations_reach henv hc).covered n tenant htenant
  obtain ⟨ev', hev', hid'⟩ := (tenants_persist henv hc hc').created ev hev n hid
  obtain ⟨a, ha, -⟩ := (tenants_persist henv (hc.trans hc') hc'').rows ev' hev' n hid' last hlast
  exact Option.isSome_of_eq_some ha

/-- Of any two moments of a run, what a row was and what it has become: a tenant keeps its
namespace, a revoked key stays revoked, jobs and deployments only move on, and no row of a
tenant that is still there has gone, nor has its key been given to another. A tenant that has gone
has gone for good: no later moment has another one under its id. -/
theorem rows_keep_identity (henv : KeepsDatabase env)
    (hc : Reach (platform env) (platformStart cfg adminSecretKey requests cluster) c)
    (hc' : Reach (platform env) c c') (hc'' : Reach (platform env) c' c'') :
    c.trail.state.db.Later c'.trail.state.db ∧
      ∀ n, c.trail.state.db.HasTenant n → ¬ c'.trail.state.db.HasTenant n →
        ¬ c''.trail.state.db.HasTenant n :=
  ⟨rows_keep henv hc hc',
    fun _ hn hgone hn'' => hgone (hasTenant_between henv hc hc' hc'' hn hn'')⟩

end Reachable

/-- The build of `farewellRun`, before its tenant is deleted and at that moment. -/
def beforeFarewell : Config ℕ Call Call.Result PyException World :=
  drive handle buildSchedule (platformStart sampleSettings "admin" farewellRequests .empty)

def atFarewell : Config ℕ Call Call.Result PyException World :=
  drive handle [(2, .ok)] beforeFarewell

/-- A deployment before and after the build that replaces it, and a tenant that goes. -/
theorem rows_keep_identity_redeployed :
    deployedRun.trail.state.db.Later redeployedRun.trail.state.db ∧
      ¬ (drive handle (List.replicate 4 (1, .ok)) atFarewell).trail.state.db.HasTenant 1 := by
  have hgone : (beforeFarewell.trail.state.db.tenants.get 1).isSome = true ∧
      ¬ (atFarewell.trail.state.db.tenants.get 1).isSome = true := by decide +kernel
  refine ⟨(rows_keep_identity (fun _ _ h => h.1.1) deployedRun_reach
    (Reach.drive _ (reach_caughtUp (Reach.drive _ .init))) .init).1, ?_⟩
  exact (rows_keep_identity anyCluster_keepsDatabase (Reach.drive _ .init)
    (Reach.drive _ .init) (Reach.drive _ .init)).2 1 hgone.1 hgone.2

end TenantPlatform
