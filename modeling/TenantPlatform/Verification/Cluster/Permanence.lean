import TenantPlatform.Verification.Cluster.Inventory

/-! # What was set up stays

The control plane deletes nothing. What a namespace was hardened with is therefore there for as
long as the platform runs, also when its tenant has been deleted, and its Deployment changes only
as a later deployment asks for. -/

namespace TenantPlatform

open Effect

section Trails

variable {ι : Type} {n : ℕ}

/-- A patch of the tenant's Deployment. -/
def Patches (n : ℕ) (image : Option String) (replicas : ℕ)
    (ev : Event ι Call Call.Result World) : Prop :=
  ev.call = .k8s (.patchDeployment (tenantNamespace n) tenantAppName
    (deploymentPatch image replicas))

/-- What a tenant's namespace holds at one moment is there at the other. Only a Deployment may
have become another, and then it is the one that a patch in between asked for. -/
structure Lasts (n : ℕ) (t t' : Trail ι Call Call.Result World) : Prop where
  root : ∀ b, t.state.cluster.objects .ns "" (tenantNamespace n) = some b →
    t'.state.cluster.objects .ns "" (tenantNamespace n) = some b
  inside : ∀ k name b, k ≠ .deployment →
    t.state.cluster.objects k (tenantNamespace n) name = some b →
      t'.state.cluster.objects k (tenantNamespace n) name = some b
  deployment : ∃ later, t'.events = later ++ t.events ∧
    ∀ name d, t.state.cluster.objects .deployment (tenantNamespace n) name = some d →
      ∃ d', t'.state.cluster.objects .deployment (tenantNamespace n) name = some d' ∧
        (d' = d ∨ ∃ ev ∈ later, ∃ image replicas, Patches n image replicas ev ∧
          d' = deploymentBody image replicas tenantAppName)

namespace Lasts

variable {t t' t'' : Trail ι Call Call.Result World}

/-- Where the objects of the tenant are the same, all of them last. -/
theorem of_objects (later : List (Event ι Call Call.Result World))
    (hevents : t'.events = later ++ t.events)
    (hobjects : ∀ k ns name, TenantObject k ns name →
      t'.state.cluster.objects k ns name = t.state.cluster.objects k ns name) : Lasts n t t' where
  root _ hb := (hobjects _ _ _ (.root n)).trans hb
  inside k name _ _ hb := (hobjects _ _ _ (.inside n k name)).trans hb
  deployment := ⟨later, hevents, fun name d hd =>
    ⟨d, (hobjects _ _ _ (.inside n .deployment name)).trans hd, .inl rfl⟩⟩

theorem refl (t : Trail ι Call Call.Result World) : Lasts n t t :=
  of_objects [] rfl (fun _ _ _ _ => rfl)

theorem trans (h : Lasts n t t') (h' : Lasts n t' t'') : Lasts n t t'' where
  root b hb := h'.root b (h.root b hb)
  inside k name b hk hb := h'.inside k name b hk (h.inside k name b hk hb)
  deployment := by
    obtain ⟨later, hevents, hdeployment⟩ := h.deployment
    obtain ⟨later', hevents', hdeployment'⟩ := h'.deployment
    refine ⟨later' ++ later, by rw [hevents', hevents, List.append_assoc], fun name d hd => ?_⟩
    obtain ⟨d', hd', hcase⟩ := hdeployment name d hd
    obtain ⟨d'', hd'', hcase'⟩ := hdeployment' name d' hd'
    refine ⟨d'', hd'', ?_⟩
    rcases hcase' with rfl | ⟨ev, hev, hpatch⟩
    · rcases hcase with rfl | ⟨ev, hev, hpatch⟩
      · exact .inl rfl
      · exact .inr ⟨ev, List.mem_append_right _ hev, hpatch⟩
    · exact .inr ⟨ev, List.mem_append_left _ hev, hpatch⟩

theorem has (h : Lasts n t t') {k : Kind} {name : String} (hk : k ≠ .deployment)
    (hhas : t.state.cluster.has k (tenantNamespace n) name) :
    t'.state.cluster.has k (tenantNamespace n) name := by
  obtain ⟨b, hb⟩ := Option.isSome_iff_exists.mp hhas
  exact Option.isSome_iff_exists.mpr ⟨b, h.inside k name b hk hb⟩

/-- What is promised of a namespace is promised for good. -/
theorem hardened (h : Lasts n t t') (hn : t.state.cluster.Hardened (tenantNamespace n)) :
    t'.state.cluster.Hardened (tenantNamespace n) := by
  obtain ⟨⟨b, hb, hlabel⟩, hquota, hlimits, ⟨p, hp, hdeny⟩, haccount⟩ := hn
  exact ⟨⟨b, h.root b hb, hlabel⟩, h.has (by decide) hquota, h.has (by decide) hlimits,
    ⟨p, h.inside _ _ p (by decide) hp, hdeny⟩, h.has (by decide) haccount⟩

end Lasts

variable [DecidableEq ι] {cfg : Settings} {t : Trail ι Call Call.Result World} {i : ι}

/-- A call keeps what there is. It patches a Deployment of the control plane as a whole. -/
theorem lasts_k8s (horderly : ∀ m, t.state.cluster.Orderly cfg m) {e : K8sCall}
    {fault : Option Fault} {token : String} (hmay : mayK8s (own i t.events) e) :
    Lasts n t (t.push i (.k8s e) (handleK8s fault token e t.state.cluster).1
      { t.state with cluster := (handleK8s fault token e t.state.cluster).2 }) := by
  cases objectsStep_handleK8s fault token e t.state.cluster with
  | same _ hobjects =>
      exact .of_objects [_] rfl (fun k ns name _ => congrFun₃ hobjects k ns name)
  | created k ns name b hnew hobjects =>
      have hkept : ∀ k' ns' name' b', t.state.cluster.objects k' ns' name' = some b' →
          (handleK8s fault token (.create k ns name b) t.state.cluster).2.objects k' ns' name' =
            some b' := by
        intro k' ns' name' b' hb'
        rw [hobjects, Cluster.objects_put_of_ne, hb']
        rintro ⟨rfl, rfl, rfl⟩
        exact hnew (Option.isSome_iff_exists.mpr ⟨b', hb'⟩)
      exact ⟨fun b' hb' => hkept _ _ _ b' hb', fun _ _ b' _ hb' => hkept _ _ _ b' hb',
        [_], rfl, fun _ d hd => ⟨d, hkept _ _ _ d hd, .inl rfl⟩⟩
  | patched ns name p d hd hobjects =>
      obtain ⟨id, row, image, -, rfl, rfl, rfl⟩ := hmay
      have hkept : ∀ k' ns' name', k' ≠ .deployment →
          (handleK8s fault token (.patchDeployment (tenantNamespace row.tenantId) tenantAppName
            (deploymentPatch image row.replicaCount)) t.state.cluster).2.objects k' ns' name' =
          t.state.cluster.objects k' ns' name' := by
        intro k' ns' name' hk
        rw [hobjects, Cluster.objects_put_of_ne]
        exact fun heq => hk heq.1
      refine ⟨fun b hb => (hkept _ _ _ (by decide)).trans hb,
        fun k name b hk hb => (hkept _ _ _ hk).trans hb, [_], rfl, fun name d' hd' => ?_⟩
      by_cases hkey : tenantNamespace n = tenantNamespace row.tenantId ∧ name = tenantAppName
      · obtain ⟨hns, rfl⟩ := hkey
        obtain rfl := tenantNamespace_injective hns
        obtain rfl := Option.some.inj (hd'.symm.trans hd)
        refine ⟨_, by rw [Trail.push_state, hobjects, Cluster.objects_put_self], .inr
          ⟨_, List.mem_singleton.mpr rfl, image, row.replicaCount, rfl, ?_⟩⟩
        cases (horderly row.tenantId).inside .deployment tenantAppName d' hd' with
        | deployment image' _ => exact apply_deploymentPatch _ _ _ _ _
      · refine ⟨d', ?_, .inl rfl⟩
        rw [Trail.push_state, hobjects, Cluster.objects_put_of_ne, hd']
        exact fun heq => hkey heq.2

end Trails

/-! ## Runs -/

section Reachable

variable {ι : Type} [DecidableEq ι] {cfg : Settings} {adminSecretKey : String}
  {requests : ι → Request} {cluster : Cluster} {env : World → World → Prop}
  {c c' : Config ι Call Call.Result PyException World}

/-- Between any two moments of a run the objects of a tenant stay, whatever requests run and
whatever fails. Its Deployment is one of the control plane at both, and the same one unless it was
patched; and where there is a Deployment, the namespace is hardened for good. -/
theorem tenant_objects_stay (henv : KeepsTenantObjects env) (hcluster : cluster.NoTenants)
    (hc : Reach (platform env) (platformStart cfg adminSecretKey requests cluster) c)
    (hc' : Reach (platform env) c c') (n : ℕ) :
    Lasts n c.trail c'.trail ∧
      (∀ name d, c.trail.state.cluster.objects .deployment (tenantNamespace n) name = some d →
        name = tenantAppName ∧ ∃ image replicas image' replicas',
          d = deploymentBody image replicas tenantAppName ∧
          c'.trail.state.cluster.objects .deployment (tenantNamespace n) tenantAppName =
            some (deploymentBody image' replicas' tenantAppName) ∧
          c'.trail.state.cluster.Hardened (tenantNamespace n)) ∧
      (c.trail.state.cluster.Hardened (tenantNamespace n) →
        c'.trail.state.cluster.Hardened (tenantNamespace n)) := by
  have hlasts : Lasts n c.trail c'.trail := by
    refine Reach.between (Q := Lasts n)
      (B := fun t => (∀ m, t.state.cluster.Orderly cfg m) ∧
        ∀ i, requestDiscipline.Legal (own i t.events))
      (fun c hc => ⟨orderly_reach henv hcluster hc,
        (platform_sound henv.keepsDatabase hc).legal⟩)
      .refl (fun _ _ _ => .trans) ?_ ?_ hc hc'
    · rintro t i e r s hB hnext ⟨o, ho⟩
      have hlegal := hnext.2 i
      rw [own_push_self] at hlegal
      cases e with
      | k8s e =>
          obtain ⟨rfl, rfl⟩ := Prod.mk.inj ho
          exact lasts_k8s hB.1 hlegal.1
      | _ =>
          obtain ⟨rfl, rfl⟩ := Prod.mk.inj ho
          exact .of_objects [_] rfl (fun _ _ _ _ => rfl)
    · exact fun t s _ hs => .of_objects [] rfl (henv _ _ hs).2
  have horderly := (orderly_reach henv hcluster hc n).inside .deployment
  have horderly' := (orderly_reach henv hcluster (hc.trans hc') n).inside .deployment
  refine ⟨hlasts, fun name d hd => ?_, hlasts.hardened⟩
  obtain ⟨later, -, hdeployment⟩ := hlasts.deployment
  obtain ⟨d', hd', -⟩ := hdeployment name d hd
  have hhardened := hardeningInv_reach henv hcluster (hc.trans hc')
  cases horderly name d hd with
  | deployment image _ =>
      cases horderly' _ d' hd' with
      | deployment image' _ =>
          exact ⟨rfl, _, _, _, _, rfl, hd', hhardened.hardened
            (hhardened.deployments n (Option.isSome_iff_exists.mpr ⟨_, hd'⟩))⟩

end Reachable

theorem tenant_objects_stay_redeployed : Lasts 1 deployedRun.trail redeployedRun.trail ∧
    redeployedRun.trail.state.cluster.Hardened (tenantNamespace 1) := by
  have hd : deployedRun.trail.state.cluster.has .deployment (tenantNamespace 1) tenantAppName := by
    decide +kernel
  obtain ⟨d, hd⟩ := Option.isSome_iff_exists.mp hd
  obtain ⟨hlasts, hdeployment, -⟩ := tenant_objects_stay anyController_controllerEnv.1
    noTenants_empty deployedRun_reach
      (Reach.drive _ (Reach.step (Reach.drive _ .init) (.env (anyController_settled _)))) 1
  obtain ⟨-, _, _, _, _, -, -, hhardened⟩ := hdeployment tenantAppName d hd
  exact ⟨hlasts, hhardened⟩

end TenantPlatform
