import TenantPlatform.Model.Platform

/-! # What the API calls do to the stored objects -/

namespace TenantPlatform

namespace Cluster

variable {c : Cluster} {k k' : Kind} {ns ns' name name' : String}

@[simp] theorem objects_put_self (c : Cluster) (k : Kind) (ns name : String) (b : Body k) :
    (c.put k ns name b).objects k ns name = some b := by
  simp [put]

theorem objects_put_of_ne (c : Cluster) {k k' : Kind} {ns ns' name name' : String} (b : Body k)
    (h : ¬ (k' = k ∧ ns' = ns ∧ name' = name)) :
    (c.put k ns name b).objects k' ns' name' = c.objects k' ns' name' := by
  by_cases hk : k' = k
  · subst hk
    simp only [put, dite_true, if_neg (fun hn => h ⟨rfl, hn⟩)]
  · simp only [put, dif_neg hk]

theorem has_put (c : Cluster) (k : Kind) (ns name : String) (b : Body k)
    (h : c.has k' ns' name') : (c.put k ns name b).has k' ns' name' := by
  by_cases heq : k' = k ∧ ns' = ns ∧ name' = name
  · obtain ⟨rfl, rfl, rfl⟩ := heq
    simp [has]
  · rw [has, objects_put_of_ne c b heq]
    exact h

/-! ## Creating -/

/-- A create call does nothing, or adds the one object that was missing. -/
theorem create_snd (c : Cluster) (fault : Option Fault) (k : Kind) (ns name : String) (b : Body k) :
    (c.create fault k ns name b).2 = c ∨
      (¬ c.has k ns name ∧ c.admits k ns ∧ (c.create fault k ns name b).2 = c.put k ns name b) := by
  unfold create
  split
  · exact .inl rfl
  · rename_i hhas
    split
    · dsimp only
      split
      · rename_i h
        exact .inr ⟨hhas, h.2, rfl⟩
      · exact .inl rfl
    · split
      · rename_i h
        exact .inr ⟨hhas, h, rfl⟩
      · exact .inl rfl

theorem create_ok {fault : Option Fault} {b : Body k}
    (h : (c.create fault k ns name b).1 = .ok ()) :
    ¬ c.has k ns name ∧ (c.create fault k ns name b).2 = c.put k ns name b := by
  unfold create at h ⊢
  by_cases hhas : c.has k ns name
  · rw [if_pos hhas] at h
    cases h
  · rw [if_neg hhas] at h ⊢
    cases hf : fault.filter (fun f => !f.error.isConflict) with
    | some f =>
        rw [hf] at h
        cases h
    | none =>
        rw [hf] at h
        dsimp only at h ⊢
        by_cases hadmits : c.admits k ns
        · exact ⟨hhas, by rw [if_pos hadmits]⟩
        · rw [if_neg hadmits] at h
          cases h

/-- 409 is the answer only for an object that exists. -/
theorem create_conflict {fault : Option Fault} {b : Body k} {e : PyException}
    (h : (c.create fault k ns name b).1 = .error e) (he : e.isConflict = true) :
    c.has k ns name := by
  unfold create at h
  split at h
  · rename_i hhas
    exact hhas
  · split at h
    · rename_i f hf
      cases h
      have hf := (Option.filter_eq_some_iff.mp hf).2
      rw [he] at hf
      cases hf
    · split at h
      · cases h
      · cases h
        cases he

/-! ## Patching -/

/-- A patch changes at most the spec of the one Deployment, which exists. -/
theorem patchDeployment_snd (c : Cluster) (fault : Option Fault) (ns name : String)
    (p : DeploymentPatch) :
    (c.patchDeployment fault ns name p).2 = c ∨ ∃ d, c.objects .deployment ns name = some d ∧
      (c.patchDeployment fault ns name p).2 = c.setSpec ns name d (p.apply d) := by
  unfold patchDeployment
  split
  · exact .inl rfl
  · rename_i d hd
    split
    · dsimp only
      split
      · exact .inr ⟨d, hd, rfl⟩
      · exact .inl rfl
    · exact .inr ⟨d, hd, rfl⟩

theorem patchDeployment_ok {fault : Option Fault} {p : DeploymentPatch}
    (h : (c.patchDeployment fault ns name p).1 = .ok ()) :
    ∃ d, c.objects .deployment ns name = some d ∧
      (c.patchDeployment fault ns name p).2 = c.setSpec ns name d (p.apply d) := by
  unfold patchDeployment at h ⊢
  split at h
  · cases h
  · rename_i d hd
    split at h
    · cases h
    · exact ⟨d, hd, rfl⟩

theorem objects_setSpec (c : Cluster) (ns name : String) (old new : DeploymentBody) :
    (c.setSpec ns name old new).objects = (c.put .deployment ns name new).objects := rfl

end Cluster

/-! ## Any call -/

/-- The objects after a call: all those before it, one created, or one respecified. -/
inductive ObjectsStep (c c' : Cluster) : K8sCall → Prop where
  | same (e : K8sCall) (h : c'.objects = c.objects) : ObjectsStep c c' e
  | created (k : Kind) (ns name : String) (b : Body k) (hnew : ¬ c.has k ns name)
      (h : c'.objects = (c.put k ns name b).objects) : ObjectsStep c c' (.create k ns name b)
  | patched (ns name : String) (p : DeploymentPatch) (d : DeploymentBody)
      (hd : c.objects .deployment ns name = some d)
      (h : c'.objects = (c.put .deployment ns name (p.apply d)).objects) :
      ObjectsStep c c' (.patchDeployment ns name p)

theorem objectsStep_handleK8s (fault : Option Fault) (token : String) (e : K8sCall) (c : Cluster) :
    ObjectsStep c (handleK8s fault token e c).2 e := by
  cases e with
  | create k ns name b =>
      rcases c.create_snd fault k ns name b with heq | ⟨hnew, -, heq⟩
      · exact .same _ (congrArg Cluster.objects heq)
      · exact .created k ns name b hnew (congrArg Cluster.objects heq)
  | patchDeployment ns name p =>
      rcases c.patchDeployment_snd fault ns name p with heq | ⟨d, hd, heq⟩
      · exact .same _ (congrArg Cluster.objects heq)
      · exact .patched ns name p d hd ((congrArg Cluster.objects heq).trans rfl)
  | _ => exact .same _ rfl

/-- No call removes an object. -/
theorem ObjectsStep.has {c c' : Cluster} {e : K8sCall} (h : ObjectsStep c c' e) {k : Kind}
    {ns name : String} (hhas : c.has k ns name) : c'.has k ns name := by
  cases h with
  | same _ h =>
      rw [Cluster.has, h]
      exact hhas
  | created k' ns' name' b _ h =>
      rw [Cluster.has, h]
      exact c.has_put k' ns' name' b hhas
  | patched ns' name' p d _ h =>
      rw [Cluster.has, h]
      exact c.has_put .deployment ns' name' _ hhas

/-- An object that a call brought about is the one it created. -/
theorem ObjectsStep.eq_of_new {c c' : Cluster} {e : K8sCall} (h : ObjectsStep c c' e) {k : Kind}
    {ns name : String} {b : Body k} (hget : c'.objects k ns name = some b)
    (hnew : ¬ c.has k ns name) : e = .create k ns name b := by
  cases h with
  | same _ h =>
      rw [h] at hget
      exact absurd (by simp [Cluster.has, hget]) hnew
  | created k' ns' name' b' _ h =>
      rw [h] at hget
      by_cases heq : k = k' ∧ ns = ns' ∧ name = name'
      · obtain ⟨rfl, rfl, rfl⟩ := heq
        rw [Cluster.objects_put_self] at hget
        rw [Option.some.inj hget]
      · rw [Cluster.objects_put_of_ne c b' heq] at hget
        exact absurd (by simp [Cluster.has, hget]) hnew
  | patched ns' name' p d hd h =>
      rw [h] at hget
      by_cases heq : k = .deployment ∧ ns = ns' ∧ name = name'
      · obtain ⟨rfl, rfl, rfl⟩ := heq
        exact absurd (by simp [Cluster.has, hd]) hnew
      · rw [Cluster.objects_put_of_ne c _ heq] at hget
        exact absurd (by simp [Cluster.has, hget]) hnew

/-- Only Deployments are ever changed. -/
theorem ObjectsStep.eq_of_old {c c' : Cluster} {e : K8sCall} (h : ObjectsStep c c' e) {k : Kind}
    {ns name : String} (hk : k ≠ .deployment) (hold : c.has k ns name) :
    c'.objects k ns name = c.objects k ns name := by
  cases h with
  | same _ h => rw [h]
  | created k' ns' name' b hnew h =>
      rw [h, Cluster.objects_put_of_ne]
      rintro ⟨rfl, rfl, rfl⟩
      exact hnew hold
  | patched ns' name' p d _ h =>
      rw [h, Cluster.objects_put_of_ne]
      rintro ⟨rfl, -, -⟩
      exact hk rfl

end TenantPlatform
