import TenantPlatform.Verification.Cluster.Objects
import TenantPlatform.Verification.Jobs.Settlement

/-! # Hardening precedes workloads

A request creates an Image only after it has seen the hardening objects of the namespace
established, and a Deployment only after it has seen a succeeded build, whose own request
has. Objects are never deleted, so what was seen still holds. -/

namespace TenantPlatform

open Effect

variable {ι : Type} [DecidableEq ι]

/-! ## What is promised of a namespace -/

def NamespaceBody.restricted (b : NamespaceBody) : Prop :=
  ("pod-security.kubernetes.io/enforce", "restricted") ∈ b.labels

/-- Every pod, both directions, and no way in. -/
def NetworkPolicyBody.defaultDeny (b : NetworkPolicyBody) : Prop :=
  b.podSelector = [] ∧ .ingress ∈ b.policyTypes ∧ .egress ∈ b.policyTypes ∧ b.ingress = []

structure Cluster.Hardened (c : Cluster) (ns : String) : Prop where
  label : ∃ b, c.objects .ns "" ns = some b ∧ b.restricted
  quota : c.has .resourceQuota ns "tenant-quota"
  limits : c.has .limitRange ns "tenant-limit-range"
  policy : ∃ b, c.objects .networkPolicy ns "tenant-default-deny" = some b ∧ b.defaultDeny
  account : c.has .serviceAccount ns tenantServiceAccountName

/-- An object of a tenant: its Namespace, or anything in it. -/
inductive TenantObject : Kind → String → String → Prop where
  | root (n : ℕ) : TenantObject .ns "" (tenantNamespace n)
  | inside (n : ℕ) (k : Kind) (name : String) : TenantObject k (tenantNamespace n) name

def Cluster.NoTenants (c : Cluster) : Prop :=
  ∀ k ns name, TenantObject k ns name → ¬ c.has k ns name

theorem Cluster.NoTenants.absent {c : Cluster} (h : c.NoTenants) {k : Kind} {ns name : String}
    (hobj : TenantObject k ns name) : c.objects k ns name = none := by
  cases hget : c.objects k ns name with
  | none => rfl
  | some b => exact absurd (by simp [Cluster.has, hget]) (h k ns name hobj)

/-- The other actors leave the database and the objects of tenants alone. -/
def KeepsTenantObjects (env : World → World → Prop) : Prop :=
  ∀ w w', env w w' → w'.db = w.db ∧ ∀ k ns name, TenantObject k ns name →
    w'.cluster.objects k ns name = w.cluster.objects k ns name

theorem tenantObject_of_hardening {n : ℕ} {o : Kind × String × String}
    (h : o ∈ hardening (tenantNamespace n)) : TenantObject o.1 o.2.1 o.2.2 := by
  simp only [hardening, List.mem_cons, List.not_mem_nil, or_false] at h
  rcases h with rfl | rfl | rfl | rfl | rfl
  · exact .root n
  all_goals exact .inside n _ _

/-! ## The invariant -/

/-- All hardening objects of the tenant's namespace exist. -/
def Cluster.Complete (c : Cluster) (n : ℕ) : Prop :=
  ∀ o ∈ hardening (tenantNamespace n), c.has o.1 o.2.1 o.2.2

/-- `bodies` keep what the objects say, `seen` and `builds` what requests rely on. -/
structure HardeningInv (t : Trail ι Call Call.Result World) : Prop where
  namespaces : ∀ n b, t.state.cluster.objects .ns "" (tenantNamespace n) = some b →
    b = namespaceBody
  policies : ∀ n name b, t.state.cluster.objects .networkPolicy (tenantNamespace n) name = some b →
    ∃ dnsIp, b = networkPolicyBody dnsIp
  seen : ∀ i k ns name, TenantObject k ns name →
    (∃ x ∈ own i t.events, Established k ns name x) → t.state.cluster.has k ns name
  builds : ∀ i id row, lastBuild (own i t.events) id = some row →
    row.status = .building ∨ row.status = .succeeded → t.state.cluster.Complete row.tenantId
  saw : ∀ i id row, SawBuild (own i t.events) id row → row.status = .succeeded →
    t.state.cluster.Complete row.tenantId
  images : ∀ n name, t.state.cluster.has .image (tenantNamespace n) name →
    t.state.cluster.Complete n
  deployments : ∀ n, t.state.cluster.has .deployment (tenantNamespace n) tenantAppName →
    t.state.cluster.Complete n

theorem HardeningInv.complete_of_setUp {t : Trail ι Call Call.Result World} (h : HardeningInv t)
    {i : ι} {n : ℕ} (hs : SetUp (tenantNamespace n) (own i t.events)) :
    t.state.cluster.Complete n :=
  fun o ho => h.seen i o.1 o.2.1 o.2.2 (tenantObject_of_hardening ho) (hs o ho)

theorem HardeningInv.hardened {t : Trail ι Call Call.Result World} (h : HardeningInv t) {n : ℕ}
    (hc : t.state.cluster.Complete n) : t.state.cluster.Hardened (tenantNamespace n) := by
  have hmem : ∀ o ∈ hardening (tenantNamespace n), t.state.cluster.has o.1 o.2.1 o.2.2 := hc
  simp only [hardening, List.forall_mem_cons] at hmem
  obtain ⟨hns, hquota, hlimits, hpolicy, haccount, -⟩ := hmem
  obtain ⟨b, hb⟩ := Option.isSome_iff_exists.mp hns
  obtain ⟨p, hp⟩ := Option.isSome_iff_exists.mp hpolicy
  obtain ⟨dnsIp, rfl⟩ := h.policies n _ p hp
  refine ⟨⟨b, hb, ?_⟩, hquota, hlimits, ⟨_, hp, rfl, by simp [networkPolicyBody],
    by simp [networkPolicyBody], rfl⟩, haccount⟩
  rw [h.namespaces n b hb]
  simp [NamespaceBody.restricted, namespaceBody]

/-! ## One step -/

section Act

variable {t : Trail ι Call Call.Result World} {i : ι}

/-- A statement of a request. -/
theorem hardeningInv_db {e : DbCall} {o : Outcome} (hsound : Sound t) (h : HardeningInv t)
    (hmay : mayDb (own i t.events) e)
    (hexp : expectsDb (own i t.events) e (handleDb o.want o.now e t.state.db).1) :
    HardeningInv (t.push i (.db e) (handleDb o.want o.now e t.state.db).1
      { t.state with db := (handleDb o.want o.now e t.state.db).2 }) := by
  generalize hr : (handleDb o.want o.now e t.state.db).1 = r at hexp
  refine ⟨h.namespaces, h.policies, ?_, ?_, ?_, h.images, h.deployments⟩
  · rintro k kind ns name hobj ⟨x, hx, hest⟩
    rcases mem_own_push hx with hx | ⟨rfl, rfl⟩
    · exact h.seen k kind ns name hobj ⟨x, hx, hest⟩
    · cases hest
  · intro k id row hlast hstatus
    cases hw : writtenBuild ⟨.db e, r⟩ with
    | none =>
        rw [lastBuild, lastRow_push_none (f := writtenBuild) hw] at hlast
        exact h.builds k id row hlast hstatus
    | some written =>
        obtain ⟨id', row'⟩ := written
        rw [lastBuild, lastRow_push_some (f := writtenBuild) hw] at hlast
        split at hlast
        · rename_i hid
          obtain rfl := Option.some.inj hlast
          cases e with
          | insertBuildJob tenantId gitUrl gitRevision gitSubPath status =>
              rcases r with x | ⟨_, _⟩
              · cases hw
              · cases hw
                obtain ⟨-, now, rfl⟩ := hexp
                rw [show status = .queued from hmay] at hstatus
                rcases hstatus with hstatus | hstatus <;> cases hstatus
          | commitBuildJob _ changes =>
              cases r with
              | error x => cases hw
              | ok _ =>
                  cases hw
                  obtain ⟨mine, hmine, -, -, hset⟩ := hmay
                  obtain rfl := hexp mine hmine
                  exact h.complete_of_setUp (hset hstatus)
          | _ => cases hw
        · exact h.builds k id row hlast hstatus
  · rintro k id row ⟨key, hmem⟩ hstatus
    rcases mem_own_push hmem with hmem | ⟨rfl, hx⟩
    · exact h.saw k id row ⟨key, hmem⟩ hstatus
    · -- a succeeded row that is read now was committed by the request that owns it
      obtain rfl : DbCall.getBuildJob key = e := Call.db.inj (congrArg Exchange.call hx)
      obtain rfl : Except.ok (some (id, row)) = r := eq_of_heq (Exchange.mk.inj hx).2
      obtain ⟨-, hget⟩ := lookupInt_ok hr
      obtain ⟨j, hj⟩ := hsound.consistent.builds.covered id row hget
      exact h.builds j id row hj (.inr hstatus)

/-- A call of the cluster. -/
theorem hardeningInv_k8s {e : K8sCall} {r : e.Result} {c' : Cluster} (h : HardeningInv t)
    (hstep : ObjectsStep t.state.cluster c' e)
    (hest : ∀ k ns name, Established k ns name ⟨.k8s e, r⟩ → c'.has k ns name)
    (hmay : mayK8s (own i t.events) e) :
    HardeningInv (t.push i (.k8s e) r { t.state with cluster := c' }) := by
  have hcomplete : ∀ n, t.state.cluster.Complete n → c'.Complete n :=
    fun n hn o ho => hstep.has (hn o ho)
  refine ⟨?_, ?_, ?_, ?_, ?_, ?_, ?_⟩
  · intro n b hb
    by_cases hold : t.state.cluster.has .ns "" (tenantNamespace n)
    · rw [Trail.push_state, hstep.eq_of_old (by decide) hold] at hb
      exact h.namespaces n b hb
    · obtain rfl := hstep.eq_of_new hb hold
      exact hmay
  · intro n name b hb
    by_cases hold : t.state.cluster.has .networkPolicy (tenantNamespace n) name
    · rw [Trail.push_state, hstep.eq_of_old (by decide) hold] at hb
      exact h.policies n name b hb
    · obtain rfl := hstep.eq_of_new hb hold
      exact hmay
  · rintro k kind ns name hobj ⟨x, hx, hest'⟩
    rcases mem_own_push hx with hx | ⟨rfl, rfl⟩
    · exact hstep.has (h.seen k kind ns name hobj ⟨x, hx, hest'⟩)
    · exact hest kind ns name hest'
  · intro k id row hlast hstatus
    rw [lastBuild, lastRow_push_none (f := writtenBuild) rfl] at hlast
    exact hcomplete _ (h.builds k id row hlast hstatus)
  · rintro k id row ⟨key, hmem⟩ hstatus
    rcases mem_own_push hmem with hmem | ⟨-, hx⟩
    · exact hcomplete _ (h.saw k id row ⟨key, hmem⟩ hstatus)
    · cases hx
  · intro n name hhas
    by_cases hold : t.state.cluster.has .image (tenantNamespace n) name
    · exact hcomplete n (h.images n name hold)
    · obtain ⟨b, hb⟩ := Option.isSome_iff_exists.mp hhas
      obtain rfl := hstep.eq_of_new hb hold
      exact hcomplete n (h.complete_of_setUp hmay)
  · intro n hhas
    by_cases hold : t.state.cluster.has .deployment (tenantNamespace n) tenantAppName
    · exact hcomplete n (h.deployments n hold)
    · obtain ⟨b, hb⟩ := Option.isSome_iff_exists.mp hhas
      obtain rfl := hstep.eq_of_new hb hold
      obtain ⟨id, row, image, hp, hns, -, -⟩ := hmay
      obtain ⟨job, hsaw, htenant, hstatus, -⟩ := hp.asks.saw
      rw [tenantNamespace_injective hns, ← htenant]
      exact hcomplete _ (h.saw i row.buildJobId job hsaw hstatus)

theorem hardeningInv_sys {e : SysCall} {r : e.Result} (h : HardeningInv t) :
    HardeningInv (t.push i (.sys e) r t.state) := by
  refine ⟨h.namespaces, h.policies, ?_, ?_, ?_, h.images, h.deployments⟩
  · rintro k kind ns name hobj ⟨x, hx, hest⟩
    rcases mem_own_push hx with hx | ⟨rfl, rfl⟩
    · exact h.seen k kind ns name hobj ⟨x, hx, hest⟩
    · cases hest
  · intro k id row hlast hstatus
    rw [lastBuild, lastRow_push_none (f := writtenBuild) rfl] at hlast
    exact h.builds k id row hlast hstatus
  · rintro k id row ⟨key, hmem⟩ hstatus
    rcases mem_own_push hmem with hmem | ⟨-, hx⟩
    · exact h.saw k id row ⟨key, hmem⟩ hstatus
    · cases hx

theorem established_has {e : K8sCall} {fault : Option Fault} {token : String} {c : Cluster}
    {k : Kind} {ns name : String}
    (h : Established k ns name ⟨.k8s e, (handleK8s fault token e c).1⟩) :
    (handleK8s fault token e c).2.has k ns name := by
  generalize hr : (handleK8s fault token e c).1 = r at h
  cases h with
  | created body =>
      obtain ⟨-, hput⟩ := Cluster.create_ok hr
      have hput : (handleK8s fault token (.create k ns name body) c).2 = c.put k ns name body :=
        hput
      rw [hput]
      simp [Cluster.has]
  | existed body e he =>
      exact (objectsStep_handleK8s fault token _ c).has (Cluster.create_conflict hr he)

end Act

section Reachable

variable {cfg : Settings} {adminSecretKey : String} {requests : ι → Request} {cluster : Cluster}
  {env : World → World → Prop} {c : Config ι Call Call.Result PyException World}

theorem KeepsTenantObjects.keepsDatabase (h : KeepsTenantObjects env) : KeepsDatabase env :=
  fun w w' hw => (h w w' hw).1

theorem hardeningInv_env {t : Trail ι Call Call.Result World} {s : World} (h : HardeningInv t)
    (hs : ∀ k ns name, TenantObject k ns name →
      s.cluster.objects k ns name = t.state.cluster.objects k ns name) :
    HardeningInv (⟨s, t.events⟩ : Trail ι Call Call.Result World) := by
  have hhas : ∀ {k ns name}, TenantObject k ns name →
      (s.cluster.has k ns name ↔ t.state.cluster.has k ns name) := by
    intro k ns name hobj
    rw [Cluster.has, Cluster.has, hs k ns name hobj]
  have hcomplete : ∀ n, t.state.cluster.Complete n → s.cluster.Complete n :=
    fun n hn o ho => (hhas (tenantObject_of_hardening ho)).mpr (hn o ho)
  refine ⟨?_, ?_, ?_, ?_, ?_, ?_, ?_⟩
  · intro n b hb
    rw [hs _ _ _ (.root n)] at hb
    exact h.namespaces n b hb
  · intro n name b hb
    rw [hs _ _ _ (.inside n _ _)] at hb
    exact h.policies n name b hb
  · exact fun k kind ns name hobj hx => (hhas hobj).mpr (h.seen k kind ns name hobj hx)
  · exact fun k id row hlast hstatus => hcomplete _ (h.builds k id row hlast hstatus)
  · exact fun k id row hsaw hstatus => hcomplete _ (h.saw k id row hsaw hstatus)
  · exact fun n name hn => hcomplete n (h.images n name ((hhas (.inside n _ _)).mp hn))
  · exact fun n hn => hcomplete n (h.deployments n ((hhas (.inside n _ _)).mp hn))

theorem hardeningInv_reach (henv : KeepsTenantObjects env) (hcluster : cluster.NoTenants)
    (hc : Reach (platform env) (platformStart cfg adminSecretKey requests cluster) c) :
    HardeningInv c.trail := by
  refine Reach.inv (B := Sound) (fun c hc => platform_sound henv.keepsDatabase hc) ?_ ?_ ?_ hc
  · have hnone : ∀ {k ns name} {b : Body k}, TenantObject k ns name →
        cluster.objects k ns name ≠ some b := by
      intro k ns name b hobj
      rw [hcluster.absent hobj]
      exact nofun
    refine ⟨?_, ?_, ?_, ?_, ?_, ?_, ?_⟩
    · exact fun n b hb => absurd hb (hnone (.root n))
    · exact fun n name b hb => absurd hb (hnone (.inside n _ _))
    · rintro i k ns name - ⟨x, hx, -⟩
      cases hx
    · exact fun _ _ _ hlast => nomatch hlast
    · rintro i id row ⟨key, hmem⟩
      cases hmem
    · exact fun n name hn => absurd hn (hcluster _ _ _ (.inside n _ _))
    · exact fun n hn => absurd hn (hcluster _ _ _ (.inside n _ _))
  · rintro t i e r s hsound hnext h ⟨o, ho⟩
    have hlegal := hnext.legal i
    rw [own_push_self] at hlegal
    cases e with
    | db e =>
        obtain ⟨rfl, rfl⟩ := Prod.mk.inj ho
        exact hardeningInv_db hsound h hlegal.1 hlegal.2.1
    | k8s e =>
        obtain ⟨rfl, rfl⟩ := Prod.mk.inj ho
        exact hardeningInv_k8s h (objectsStep_handleK8s o.fault o.token e _)
          (fun _ _ _ => established_has) hlegal.1
    | sys e =>
        obtain ⟨rfl, rfl⟩ := Prod.mk.inj ho
        exact hardeningInv_sys h
  · intro t s _ h hs
    exact hardeningInv_env h (henv _ _ hs).2

/-- Whatever requests run and whatever fails, no workload stands in a namespace that is not
hardened. -/
theorem workloads_only_in_hardened_namespaces (henv : KeepsTenantObjects env)
    (hcluster : cluster.NoTenants)
    (hc : Reach (platform env) (platformStart cfg adminSecretKey requests cluster) c) (n : ℕ)
    (hn : (∃ name, c.trail.state.cluster.has .image (tenantNamespace n) name) ∨
      c.trail.state.cluster.has .deployment (tenantNamespace n) tenantAppName) :
    c.trail.state.cluster.Hardened (tenantNamespace n) := by
  have h := hardeningInv_reach henv hcluster hc
  rcases hn with ⟨name, hname⟩ | hn
  · exact h.hardened (h.images n name hname)
  · exact h.hardened (h.deployments n hn)

end Reachable

theorem workloads_only_in_hardened_namespaces_build :
    polledRun.trail.state.cluster.Hardened (tenantNamespace 1) :=
  workloads_only_in_hardened_namespaces
    (show KeepsTenantObjects (fun _ _ => False) from fun _ _ h => h.elim)
    (fun _ _ _ _ h => by cases h) (Reach.drive buildSchedule .init) 1
    (.inl ⟨imageName 1, by decide +kernel⟩)

end TenantPlatform
