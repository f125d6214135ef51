import TenantPlatform.Data.Pages
import TenantPlatform.Verification.Tenancy.Persistence

/-! # Listing in pages misses nothing

A client lists the builds or the deployments of its tenant page by page, until a page is not
full. Between two pages anything may happen: new rows push the older ones back, and rows move on.
Each row that was there when the listing began is on one of its pages. -/

namespace TenantPlatform

open Effect

/-! ## Pages -/

/-- What a list request answers at a moment. -/
def Lists (cfg : Settings) (n : ℕ) (r : TenantRequest) (w : World)
    (body : ResponseBody) : Prop :=
  ∃ ω, ((r.handle cfg n).run handle ω w).1 = .ok (⟨200, body⟩, none)

section Answers

variable {cfg : Settings} {n limit number : ℕ} {w : World}

theorem buildJobs_page {rows : List (ℕ × BuildJob)}
    (h : Lists cfg n (.getAllBuildJobs (.ok (some limit, number * limit))) w (.buildJobs rows)) :
    rows = ((w.db.buildJobs.select (fun b => b.tenantId = n)).reverse).pageAt limit number := by
  obtain ⟨ω, h⟩ := h
  injection h with h
  injection (Prod.mk.inj h).1 with _ h
  injection h with h
  exact h.symm

theorem deployments_page {rows : List (ℕ × Deployment)}
    (h : Lists cfg n (.getAllDeployments (.ok (some limit, number * limit))) w
      (.deployments rows)) :
    rows = ((w.db.deployments.select (fun d => d.tenantId = n)).reverse).pageAt limit number := by
  obtain ⟨ω, h⟩ := h
  injection h with h
  injection (Prod.mk.inj h).1 with _ h
  injection h with h
  exact h.symm

end Answers

/-! ## Moments of a run -/

section Reachable

variable {ι : Type} [DecidableEq ι] {cfg : Settings} {adminSecretKey : String}
  {requests : ι → Request} {cluster : Cluster} {env : World → World → Prop} {n k limit : ℕ}

/-- Moments of one run, each after the one before. -/
structure Moments (cfg : Settings) (adminSecretKey : String) (requests : ι → Request)
    (cluster : Cluster) (env : World → World → Prop) (k : ℕ)
    (c : ℕ → Config ι Call Call.Result PyException World) : Prop where
  first : Reach (platform env) (platformStart cfg adminSecretKey requests cluster) (c 0)
  next : ∀ i < k, Reach (platform env) (c i) (c (i + 1))

variable {c : ℕ → Config ι Call Call.Result PyException World}

theorem Moments.reach (h : Moments cfg adminSecretKey requests cluster env k c) :
    ∀ i ≤ k, Reach (platform env) (platformStart cfg adminSecretKey requests cluster) (c i) := by
  intro i
  induction i with
  | zero => exact fun _ => h.first
  | succ i ih => exact fun hi => (ih (by omega)).trans (h.next i hi)

theorem Moments.later (h : Moments cfg adminSecretKey requests cluster env k c)
    (henv : KeepsDatabase env) (i : ℕ) (hi : i < k) :
    (c i).trail.state.db.Later (c (i + 1)).trail.state.db :=
  rows_keep henv (h.reach i hi.le) (h.next i hi)

/-- A tenant found at the first of the moments and at the last is found at all of them. -/
theorem Moments.hasTenant (h : Moments cfg adminSecretKey requests cluster env k c)
    (henv : KeepsDatabase env) (hfirst : (c 0).trail.state.db.HasTenant n)
    (hlast : (c k).trail.state.db.HasTenant n) (i : ℕ) (hi : i ≤ k) :
    (c i).trail.state.db.HasTenant n := by
  have hto : ∀ d, ∀ i, i + d = k → Reach (platform env) (c i) (c k) := by
    intro d
    induction d with
    | zero => rintro i rfl; exact .init
    | succ d ih => exact fun i hd => (h.next i (by omega)).trans (ih (i + 1) (by omega))
  have hfrom : ∀ i ≤ k, Reach (platform env) (c 0) (c i) := by
    intro i
    induction i with
    | zero => exact fun _ => .init
    | succ i ih => exact fun hi => (ih (by omega)).trans (h.next i hi)
  exact hasTenant_between henv h.first (hfrom i hi) (hto (k - i) i (by omega)) hfirst hlast

theorem Moments.retains (h : Moments cfg adminSecretKey requests cluster env k c)
    (henv : KeepsDatabase env) (hfirst : (c 0).trail.state.db.HasTenant n)
    (hlast : (c k).trail.state.db.HasTenant n) (i : ℕ) (hi : i < k) :
    (c i).trail.state.db.Retains n (c (i + 1)).trail.state.db :=
  (h.later henv i hi).retains n (h.hasTenant henv hfirst hlast i hi.le)
    (h.hasTenant henv hfirst hlast (i + 1) hi)

/-- A client that lists its builds, and then its deployments, page by page at any moments of a run
up to a page that is not full has seen every row that was there when it began, as it was then or
further on, if its tenant is still there. -/
theorem listings_miss_nothing (henv : KeepsDatabase env)
    (h : Moments cfg adminSecretKey requests cluster env k c)
    (htenant : (c k).trail.state.db.HasTenant n) :
    (∀ pages : ℕ → List (ℕ × BuildJob),
      (∀ i ≤ k, Lists cfg n (.getAllBuildJobs (.ok (some limit, i * limit))) (c i).trail.state
        (.buildJobs (pages i))) → (pages k).length < limit →
      ∀ id row, (c 0).trail.state.db.buildJobs.get id = some row → row.tenantId = n →
        ∃ i ≤ k, ∃ row', (id, row') ∈ pages i ∧ row.Later row') ∧
    (∀ pages : ℕ → List (ℕ × Deployment),
      (∀ i ≤ k, Lists cfg n (.getAllDeployments (.ok (some limit, i * limit))) (c i).trail.state
        (.deployments (pages i))) → (pages k).length < limit →
      ∀ id row, (c 0).trail.state.db.deployments.get id = some row → row.tenantId = n →
        ∃ i ≤ k, ∃ row', (id, row') ∈ pages i ∧ row.Later row') := by
  have hconstrained := platform_rowsConstrained henv h.first
  refine ⟨fun pages hpages hlast id row hrow hn => ?_, fun pages hpages hlast id row hrow hn => ?_⟩
  · have hfirst : (c 0).trail.state.db.HasTenant n := hn ▸ (hconstrained.buildJobs id row hrow).2
    have hretains := h.retains henv hfirst htenant
    rw [buildJobs_page (hpages k le_rfl)] at hlast
    obtain ⟨i, hi, row', hseen, hlater⟩ := Table.mem_some_page
      (t := fun i => (c i).trail.state.db.buildJobs) BuildJob.Later.refl BuildJob.Later.trans
      (fun a a' hab => by simp only [hab.tenantId])
      (fun i hi => (h.later henv i hi).buildJobs)
      (fun i hi id a ha hp => (hretains i hi).buildJobs id a ha (of_decide_eq_true hp)) hlast hrow
      (decide_eq_true hn)
    exact ⟨i, hi, row', buildJobs_page (hpages i hi) ▸ hseen, hlater⟩
  · have hfirst : (c 0).trail.state.db.HasTenant n := hn ▸ (hconstrained.deployments id row hrow).2
    have hretains := h.retains henv hfirst htenant
    rw [deployments_page (hpages k le_rfl)] at hlast
    obtain ⟨i, hi, row', hseen, hlater⟩ := Table.mem_some_page
      (t := fun i => (c i).trail.state.db.deployments) Deployment.Later.refl Deployment.Later.trans
      (fun a a' hab => by simp only [hab.tenantId])
      (fun i hi => (h.later henv i hi).deployments)
      (fun i hi id a ha hp => (hretains i hi).deployments id a ha (of_decide_eq_true hp)) hlast hrow
      (decide_eq_true hn)
    exact ⟨i, hi, row', deployments_page (hpages i hi) ▸ hseen, hlater⟩

end Reachable

/-- A listing that begins before a second build is asked for. -/
def listingRun (i : ℕ) : Config ℕ Call Call.Result PyException World :=
  if i = 0 then deployedRun else redeployedRun

theorem listingRun_moments :
    Moments sampleSettings "admin" sampleRequests .empty anyController 2 listingRun where
  first := deployedRun_reach
  next i hi := by
    cases i with
    | zero => exact Reach.drive _ (reach_caughtUp (Reach.drive _ .init))
    | succ i => exact .init

theorem listings_miss_nothing_redeployed :
    ∃ row, deployedRun.trail.state.db.buildJobs.get 1 = some row ∧
      ∃ i ≤ 2, ∃ row', (1, row') ∈ (((listingRun i).trail.state.db.buildJobs.select
        (fun b => b.tenantId = 1)).reverse).pageAt 1 i ∧ row.Later row' := by
  have hfound : (deployedRun.trail.state.db.buildJobs.get 1).any (fun b => b.tenantId = 1) = true ∧
      (redeployedRun.trail.state.db.tenants.get 1).isSome = true ∧
      ((redeployedRun.trail.state.db.buildJobs.select (fun b => b.tenantId = 1)).reverse.pageAt
        1 2).length < 1 := by decide +kernel
  obtain ⟨hrow, htenant, hlast⟩ := hfound
  obtain ⟨row, hget, hn⟩ := (Option.any_eq_true _ _).mp hrow
  exact ⟨row, hget, (listings_miss_nothing (n := 1) (fun _ _ h => h.1.1) listingRun_moments
    htenant).1 _ (fun i _ => ⟨fun _ => .ok, rfl⟩) hlast 1 row hget
    (of_decide_eq_true hn)⟩

end TenantPlatform
