import TenantPlatform.Verification.Isolation.Hardening
import TenantPlatform.Verification.Tenancy.Scope

/-! # Who made an object, and that it stays

Objects are never deleted, and only Deployments are changed. So an object is as it was when
the run began, as somebody else made it, or as it was created for a tenant. -/

namespace TenantPlatform

open Effect

variable {ι : Type} [DecidableEq ι] {cfg : Settings} {adminSecretKey : String}
  {requests : ι → Request} {cluster : Cluster} {env : World → World → Prop}
  {c : Config ι Call Call.Result PyException World}

/-- A request that serves tenant `t` may have created the object. -/
def CreatedFor (cfg : Settings) (t : ℕ) (k : Kind) (ns name : String) (b : Body k) : Prop :=
  ∃ τ, TenantCall cfg t τ (.create k ns name b)

/-- The other actors bring about no object of kind `k` with the property `P`. -/
def MakesNo (env : World → World → Prop) (k : Kind) (P : String → String → Body k → Prop) : Prop :=
  ∀ w w', env w w' → ∀ ns name b, P ns name b → w'.cluster.objects k ns name = some b →
    w.cluster.objects k ns name = some b

theorem authored_reach {k : Kind} {P : String → String → Body k → Prop} (hk : k ≠ .deployment)
    (henv : KeepsDatabase env) (hmakes : MakesNo env k P)
    (hc : Reach (platform env) (platformStart cfg adminSecretKey requests cluster) c) :
    ∀ ns name b, P ns name b → c.trail.state.cluster.objects k ns name = some b →
      cluster.objects k ns name = some b ∨ ∃ t, CreatedFor cfg t k ns name b := by
  refine Reach.inv (B := fun t => ∀ i, (scopeDiscipline cfg (requests i)).Legal (own i t.events))
    (P := fun t => ∀ ns name b, P ns name b → t.state.cluster.objects k ns name = some b →
      cluster.objects k ns name = some b ∨ ∃ t, CreatedFor cfg t k ns name b)
    (fun c hc => platform_scoped henv hc) (fun _ _ _ _ h => .inl h) ?_ ?_ hc
  · rintro t i e r s - hscopes h ⟨o, ho⟩ ns name b hP hget
    cases e with
    | db e =>
        obtain ⟨rfl, rfl⟩ := Prod.mk.inj ho
        exact h ns name b hP hget
    | sys e =>
        obtain ⟨rfl, rfl⟩ := Prod.mk.inj ho
        exact h ns name b hP hget
    | k8s e =>
        obtain ⟨rfl, rfl⟩ := Prod.mk.inj ho
        have hstep := objectsStep_handleK8s o.fault o.token e t.state.cluster
        by_cases hold : t.state.cluster.has k ns name
        · rw [Trail.push_state, hstep.eq_of_old hk hold] at hget
          exact h ns name b hP hget
        · obtain rfl := hstep.eq_of_new hget hold
          have hscope := hscopes i
          rw [own_push_self] at hscope
          cases hrequest : requests i with
          | admin xAdminSecret request =>
              rw [hrequest] at hscope
              exact hscope.1.elim
          | tenant t xApiKey request =>
              rw [hrequest] at hscope
              exact .inr ⟨t, _, hscope.1⟩
  · intro t s _ h hs ns name b hP hget
    exact h ns name b hP (hmakes _ _ hs ns name b hP hget)

/-- An object that a request has seen established is there. -/
theorem established_reach {k : Kind} {ns name : String}
    (hkeeps : ∀ w w', env w w' → w.cluster.has k ns name → w'.cluster.has k ns name)
    (hc : Reach (platform env) (platformStart cfg adminSecretKey requests cluster) c) :
    ∀ i, (∃ x ∈ own i c.trail.events, Established k ns name x) →
      c.trail.state.cluster.has k ns name := by
  refine Reach.inv (B := fun _ => True) (P := fun t => ∀ i,
    (∃ x ∈ own i t.events, Established k ns name x) → t.state.cluster.has k ns name)
    (fun _ _ => trivial) (fun i hx => by obtain ⟨x, hx, -⟩ := hx; cases hx) ?_ ?_ hc
  · rintro t i e r s - - h ⟨o, ho⟩ j ⟨x, hx, hest⟩
    cases e with
    | db e =>
        obtain ⟨rfl, rfl⟩ := Prod.mk.inj ho
        rcases mem_own_push hx with hx | ⟨-, rfl⟩
        · exact h j ⟨x, hx, hest⟩
        · cases hest
    | sys e =>
        obtain ⟨rfl, rfl⟩ := Prod.mk.inj ho
        rcases mem_own_push hx with hx | ⟨-, rfl⟩
        · exact h j ⟨x, hx, hest⟩
        · cases hest
    | k8s e =>
        obtain ⟨rfl, rfl⟩ := Prod.mk.inj ho
        rcases mem_own_push hx with hx | ⟨-, rfl⟩
        · exact (objectsStep_handleK8s o.fault o.token e _).has (h j ⟨x, hx, hest⟩)
        · exact established_has hest
  · exact fun t s _ h hs j hx => hkeeps _ _ hs (h j hx)

end TenantPlatform
