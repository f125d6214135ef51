import TenantPlatform.Model.K8sResources
import TenantPlatform.Verification.Cluster.Calls
import TenantPlatform.Verification.Cluster.Objects

/-! # Setting up a namespace again after failures

A call of `ensure_tenant_namespace` makes up for the calls that stopped before it, with one
exception: a NetworkPolicy is never looked at again, so it keeps the egress rules of the
DNS lookup that came before its creation. -/

namespace TenantPlatform

open Effect

/-! ## Creating what is missing -/

/-- The cluster with an object that is created unless it exists. -/
def Cluster.ensure (c : Cluster) (k : Kind) (ns name : String) (b : Body k) : Cluster :=
  if c.has k ns name then c else c.put k ns name b

section Ensure

variable {c : Cluster} {k k' : Kind} {ns ns' name name' : String} {b : Body k}

theorem Cluster.objects_ensure :
    (c.ensure k ns name b).objects k' ns' name' =
      (c.objects k' ns' name').or ((Cluster.empty.put k ns name b).objects k' ns' name') := by
  by_cases heq : k' = k ∧ ns' = ns ∧ name' = name
  · obtain ⟨rfl, rfl, rfl⟩ := heq
    rw [Cluster.objects_put_self, Cluster.ensure]
    cases hobj : c.objects k' ns' name' with
    | none => simp [Cluster.has, hobj]
    | some b' => simp [Cluster.has, hobj]
  · have hempty : (Cluster.empty.put k ns name b).objects k' ns' name' = none :=
      Cluster.objects_put_of_ne _ b heq
    rw [hempty, Option.or_none, Cluster.ensure]
    split
    · rfl
    · exact Cluster.objects_put_of_ne c b heq

theorem Cluster.has.ensure (h : c.has k' ns' name') : (c.ensure k ns name b).has k' ns' name' := by
  rw [Cluster.ensure]
  split
  · exact h
  · exact c.has_put k ns name b h

theorem Cluster.has_ensure_self (c : Cluster) (k : Kind) (ns name : String) (b : Body k) :
    (c.ensure k ns name b).has k ns name := by
  rw [Cluster.ensure]
  split
  · assumption
  · simp [Cluster.has]

end Ensure

/-- The create call answers as if all went well, or 409. -/
def Outcome.passes (o : Outcome) : Bool := o.fault.all (fun f => f.error.isConflict)

/-- After the create call the object exists. -/
def Outcome.takesEffect (o : Outcome) : Bool :=
  o.fault.all (fun f => f.error.isConflict || f.applied)

theorem Outcome.takesEffect_of_passes {o : Outcome} (h : o.passes = true) :
    o.takesEffect = true := by
  cases hf : o.fault with
  | none => simp [takesEffect, hf]
  | some f =>
      have hconflict : f.error.isConflict = true := by simpa [passes, hf] using h
      simp [takesEffect, hf, hconflict]

section Create

variable {α : Type} {f : Unit → Py α} {k : Kind} {ns name : String} {b : Body k}
  {ω : ℕ → Outcome} {w : World}

theorem Cluster.create_eq {c : Cluster} (hadmits : c.admits k ns) (o : Outcome) (name : String)
    (b : Body k) :
    (c.create o.fault k ns name b).2 =
      (if o.takesEffect then c.ensure k ns name b else c) ∧
    ((∃ e, (c.create o.fault k ns name b).1 = .error e ∧ e.isConflict = o.passes) ∨
      (c.create o.fault k ns name b).1 = .ok () ∧ o.passes = true) := by
  unfold create ensure
  by_cases hhas : c.has k ns name
  · simp only [if_pos hhas, ite_self, true_and]
    refine .inl ⟨_, rfl, ?_⟩
    cases hf : o.fault with
    | none => simp [Outcome.passes, hf, conflict, PyException.isConflict]
    | some f => simp [Outcome.passes, hf]
  · simp only [if_neg hhas, hadmits, and_true]
    cases hf : o.fault with
    | none => simp [Outcome.passes, Outcome.takesEffect, hf]
    | some f =>
        cases hconflict : f.error.isConflict with
        | true => simp [Outcome.passes, Outcome.takesEffect, hf, hconflict, Option.filter]
        | false => simp [Outcome.passes, Outcome.takesEffect, hf, hconflict, Option.filter]

theorem run_createIfAbsent (hadmits : w.cluster.admits k ns) (hpasses : (ω 0).passes = true) :
    (createIfAbsent k ns name b >>= f).run handle ω w =
      (f ()).run handle (fun n => ω (n + 1))
        { w with cluster := w.cluster.ensure k ns name b } := by
  obtain ⟨hsnd, hfst⟩ := Cluster.create_eq hadmits (ω 0) name b
  rw [if_pos (Outcome.takesEffect_of_passes hpasses)] at hsnd
  show ((tryCatch (Prog.ofExcept (w.cluster.create (ω 0).fault k ns name b).1) _ >>= f : Py α).run
    handle _ { w with cluster := (w.cluster.create (ω 0).fault k ns name b).2 }) = _
  rw [hsnd]
  rcases hfst with ⟨e, he, hconflict⟩ | ⟨hok, -⟩
  · simp [he, hconflict, hpasses]
  · simp [hok]

theorem run_createIfAbsent_stops (hadmits : w.cluster.admits k ns)
    (hstops : (ω 0).passes = false) :
    ((createIfAbsent k ns name b >>= f).run handle ω w).2 =
      { w with cluster :=
          if (ω 0).takesEffect then w.cluster.ensure k ns name b else w.cluster } := by
  obtain ⟨hsnd, hfst⟩ := Cluster.create_eq hadmits (ω 0) name b
  show ((tryCatch (Prog.ofExcept (w.cluster.create (ω 0).fault k ns name b).1) _ >>= f : Py α).run
    handle _ { w with cluster := (w.cluster.create (ω 0).fault k ns name b).2 }).2 = _
  rw [hsnd]
  rcases hfst with ⟨e, he, hconflict⟩ | ⟨-, hpasses⟩
  · simp [he, hconflict, hstops]
  · rw [hstops] at hpasses
    cases hpasses

end Create

/-! ## One call of the setup -/

section Setup

variable {cfg : Settings} {ns ip : String} {ω : ℕ → Outcome} {w : World}

/-- The call for one namespace on its own, one outcome for each call it makes. -/
def setupRun (cfg : Settings) (ns : String) (ω : ℕ → Outcome) (w : World) :
    Except PyException Unit × World :=
  (ensureTenantNamespace cfg ns).run handle ω w

/-- The cluster once the namespace and its limits exist. -/
def Cluster.limited (c : Cluster) (ns : String) : Cluster :=
  ((c.ensure .ns "" ns namespaceBody).ensure .resourceQuota ns "tenant-quota" quotaBody).ensure
    .limitRange ns "tenant-limit-range" limitRangeBody

/-- The cluster after a call without failures. -/
def Cluster.setUp (c : Cluster) (cfg : Settings) (ns : String) (dnsIp : Option String) : Cluster :=
  ((((c.limited ns).ensure
    .networkPolicy ns "tenant-default-deny" (networkPolicyBody dnsIp)).ensure
    .secret ns registrySecretName (secretBody cfg)).ensure
    .serviceAccount ns tenantServiceAccountName serviceAccountBody)

theorem Cluster.objects_setUp {c : Cluster} {cfg : Settings} {ns ns' name : String}
    {dnsIp : Option String} {k : Kind} :
    (c.setUp cfg ns dnsIp).objects k ns' name =
      (c.objects k ns' name).or ((Cluster.empty.setUp cfg ns dnsIp).objects k ns' name) := by
  have hempty : Cluster.empty.objects k ns' name = none := rfl
  simp only [setUp, limited, objects_ensure, hempty, Option.none_or, Option.or_assoc]

/-- The cluster DNS Service and its address. -/
def Cluster.DnsAt (c : Cluster) (ip : String) : Prop :=
  c.has .service "kube-system" "kube-dns" ∧ c.clusterIp "kube-system" "kube-dns" = some ip

theorem Cluster.DnsAt.ensure {c : Cluster} {ip : String} (h : c.DnsAt ip) {k : Kind}
    {ns name : String} {b : Body k} : (c.ensure k ns name b).DnsAt ip := by
  refine ⟨h.1.ensure, ?_⟩
  rw [Cluster.ensure]
  split
  · exact h.2
  · exact h.2

theorem run_clusterDnsIp {α : Type} {f : Option String → Py α} {ω : ℕ → Outcome} {w : World}
    {ip : String} (hdns : w.cluster.DnsAt ip) (hfault : (ω 0).fault = none) :
    (clusterDnsIp >>= f).run handle ω w = (f (some ip)).run handle (fun n => ω (n + 1)) w := by
  obtain ⟨service, hservice⟩ := Option.isSome_iff_exists.mp hdns.1
  show ((tryCatch (Prog.ofExcept (readAnswer (ω 0).fault
    ((w.cluster.objects .service "kube-system" "kube-dns").map
      (fun _ => w.cluster.clusterIp "kube-system" "kube-dns")))) _ >>= f : Py α).run handle _ w) = _
  rw [hfault, hservice, hdns.2]
  rfl

theorem run_clusterDnsIp_fault {α : Type} {f : Option String → Py α} {ω : ℕ → Outcome} {w : World}
    {fault : Fault} (hfault : (ω 0).fault = some fault) :
    (clusterDnsIp >>= f).run handle ω w =
      if fault.error.isApi then (f none).run handle (fun n => ω (n + 1)) w
      else (.error fault.error, w) := by
  show ((tryCatch (Prog.ofExcept (readAnswer (ω 0).fault
    ((w.cluster.objects .service "kube-system" "kube-dns").map
      (fun _ => w.cluster.clusterIp "kube-system" "kube-dns")))) _ >>= f : Py α).run handle _ w) = _
  rw [hfault]
  by_cases hapi : fault.error.isApi
  · simp [readAnswer, hapi]
  · simp [readAnswer, hapi]

theorem passes_of_clean {o : Outcome} (h : o.fault = none) : o.passes = true := by
  simp [Outcome.passes, h]

theorem setupRun_clean (hclean : ∀ n, (ω n).fault = none) (hdns : w.cluster.DnsAt ip) :
    setupRun cfg ns ω w = (.ok (), { w with cluster := w.cluster.setUp cfg ns (some ip) }) := by
  have hpasses : ∀ n, (ω n).passes = true := fun n => passes_of_clean (hclean n)
  have hns := w.cluster.has_ensure_self .ns "" ns namespaceBody
  unfold setupRun ensureTenantNamespace
  refine (run_createIfAbsent (.inl rfl) (hpasses 0)).trans ?_
  refine (run_createIfAbsent (.inr hns) (hpasses 1)).trans ?_
  refine (run_createIfAbsent (.inr hns.ensure) (hpasses 2)).trans ?_
  refine (run_clusterDnsIp hdns.ensure.ensure.ensure (hclean 3)).trans ?_
  refine (run_createIfAbsent (.inr hns.ensure.ensure) (hpasses 4)).trans ?_
  refine (run_createIfAbsent (.inr hns.ensure.ensure.ensure) (hpasses 5)).trans ?_
  rw [← Prog.bind_ret (createIfAbsent _ _ _ _)]
  exact run_createIfAbsent (.inr hns.ensure.ensure.ensure.ensure) (hpasses 6)

/-! ## What a call leaves as it is -/

/-- Where the call creates an object of this name, it creates `m`. -/
def Respects (k : Kind) (ns name : String) (m : Option (Body k)) : Call → Prop
  | .k8s (.create k' ns' name' b) =>
      (Cluster.empty.put k' ns' name' b).objects k ns name = none ∨
        (Cluster.empty.put k' ns' name' b).objects k ns name = m
  | .k8s (.readService ..) => True
  | _ => False

theorem Cluster.put_ensure {c : Cluster} {k : Kind} {ns name : String} {b : Body k}
    (h : ¬ c.has k ns name) : c.put k ns name b = c.ensure k ns name b := (if_neg h).symm

/-- Such a program fills at most what is missing. -/
theorem objects_of_respects {α : Type} {p : Py α} {k : Kind} {name : String} {m : Option (Body k)}
    (hp : p.Uses (Respects k ns name m) (fun _ => True)) :
    ((p.run handle ω w).2.cluster.objects k ns name = w.cluster.objects k ns name ∨
      (p.run handle ω w).2.cluster.objects k ns name = (w.cluster.objects k ns name).or m) ∧
    (p.run handle ω w).2.cluster.clusterIp = w.cluster.clusterIp := by
  refine hp.run_inv (I := fun (s : World) =>
    (s.cluster.objects k ns name = w.cluster.objects k ns name ∨
    s.cluster.objects k ns name = (w.cluster.objects k ns name).or m) ∧
    s.cluster.clusterIp = w.cluster.clusterIp) ?_ ⟨.inl rfl, rfl⟩
  rintro e o s he ⟨hobj, hip⟩
  cases e with
  | db e => cases he
  | sys e => cases he
  | k8s e =>
      cases e with
      | readService ns' name' => exact ⟨hobj, hip⟩
      | create k' ns' name' b =>
          rcases s.cluster.create_snd o.fault k' ns' name' b with heq | ⟨hnew, -, heq⟩
          · simpa only [handle, handleK8s, heq] using ⟨hobj, hip⟩
          · simp only [handle, handleK8s, heq]
            refine ⟨?_, hip⟩
            rw [Cluster.put_ensure hnew, Cluster.objects_ensure]
            rcases he with he | he
            · rwa [he, Option.or_none]
            · rw [he]
              rcases hobj with hobj | hobj
              · exact .inr (by rw [hobj])
              · exact .inr (by rw [hobj, Option.or_assoc, Option.or_self])
      | _ => cases he

theorem clusterDnsIp_uses {k : Kind} {name : String} {m : Option (Body k)} :
    clusterDnsIp.Uses (Respects k ns name m) (fun _ => True) := by
  refine Prog.Uses.tryCatch ⟨trivial, fun r => by cases r <;> trivial⟩ (fun e => ?_)
  show (if _ then _ else _ : Py (Option String)).Uses _ _
  split
  · trivial
  · trivial

theorem Cluster.objects_put_of_kind_ne {c : Cluster} {k k' : Kind} {ns' name name' : String}
    {b : Body k} (h : k' ≠ k) : (c.put k ns name b).objects k' ns' name' = c.objects k' ns' name' :=
  c.objects_put_of_ne b (fun heq => h heq.1)

/-- The kind and name under which the DNS rules are stored. -/
def IsPolicy (ns : String) (k : Kind) (ns' name : String) : Prop :=
  k = .networkPolicy ∧ ns' = ns ∧ name = "tenant-default-deny"

theorem respects_of_objects {c : Cluster} {k k' : Kind} {ns' name name' : String} {b : Body k'}
    (h : c.objects k' ns' name' = some b) :
    Respects k ns name (c.objects k ns name) (.k8s (.create k' ns' name' b)) := by
  by_cases heq : k = k' ∧ ns = ns' ∧ name = name'
  · obtain ⟨rfl, rfl, rfl⟩ := heq
    exact .inr ((Cluster.objects_put_self _ _ _ _ b).trans h.symm)
  · exact .inl (Cluster.objects_put_of_ne _ b heq)

theorem ensureTenantNamespace_uses {k : Kind} {ns' name : String} {dnsIp : Option String}
    (hk : ¬ IsPolicy ns k ns' name) :
    (ensureTenantNamespace cfg ns).Uses (Respects k ns' name
      ((Cluster.empty.setUp cfg ns dnsIp).objects k ns' name)) (fun _ => True) := by
  have hempty : ∀ k ns name, Cluster.empty.objects k ns name = none := fun _ _ _ => rfl
  have hcreate : ∀ {k' ns'' name'} {b : Body k'},
      (Cluster.empty.setUp cfg ns dnsIp).objects k' ns'' name' = some b →
      (createIfAbsent k' ns'' name' b).Uses (Respects k ns' name
        ((Cluster.empty.setUp cfg ns dnsIp).objects k ns' name)) (fun _ => True) :=
    fun h => createIfAbsent_calls (respects_of_objects h)
  refine Prog.Uses.bind (hcreate ?_) (fun _ _ => ?_)
  · simp [Cluster.setUp, Cluster.limited, Cluster.objects_ensure,
      Cluster.objects_put_of_kind_ne, hempty]
  refine Prog.Uses.bind (hcreate ?_) (fun _ _ => ?_)
  · simp [Cluster.setUp, Cluster.limited, Cluster.objects_ensure,
      Cluster.objects_put_of_kind_ne, hempty]
  refine Prog.Uses.bind (hcreate ?_) (fun _ _ => ?_)
  · simp [Cluster.setUp, Cluster.limited, Cluster.objects_ensure,
      Cluster.objects_put_of_kind_ne, hempty]
  refine Prog.Uses.bind clusterDnsIp_uses (fun ip _ => ?_)
  refine Prog.Uses.bind (createIfAbsent_calls (.inl (Cluster.objects_put_of_ne _ _ hk)))
    (fun _ _ => ?_)
  refine Prog.Uses.bind (hcreate ?_) (fun _ _ => hcreate ?_)
  · simp [Cluster.setUp, Cluster.limited, Cluster.objects_ensure,
      Cluster.objects_put_of_kind_ne, hempty]
  · simp [Cluster.setUp, Cluster.limited, Cluster.objects_ensure,
      Cluster.objects_put_of_kind_ne, hempty]

theorem setupRun_dnsAt (hdns : w.cluster.DnsAt ip) : (setupRun cfg ns ω w).2.cluster.DnsAt ip := by
  have hk : ¬ IsPolicy ns .service "kube-system" "kube-dns" := fun h => nomatch h.1
  obtain ⟨hobj, hip⟩ := objects_of_respects (ω := ω) (w := w)
    (@ensureTenantNamespace_uses cfg ns _ _ _ none hk)
  obtain ⟨service, hservice⟩ := Option.isSome_iff_exists.mp hdns.1
  refine ⟨?_, (congrFun (congrFun hip _) _).trans hdns.2⟩
  rcases hobj with hobj | hobj
  · exact Option.isSome_of_eq_some (hobj.trans hservice)
  · rw [hservice, Option.some_or] at hobj
    exact Option.isSome_of_eq_some hobj

/-! ## The policy of one call -/

/-- The outcomes let the call get as far as the NetworkPolicy. -/
def reachesPolicy (ω : ℕ → Outcome) : Bool :=
  (ω 0).passes && (ω 1).passes && (ω 2).passes && (ω 3).fault.all (fun f => f.error.isApi)

/-- The outcomes let the call create the NetworkPolicy if there is none. -/
def createsPolicy (ω : ℕ → Outcome) : Bool := reachesPolicy ω && (ω 4).takesEffect

/-- What the DNS lookup of the call finds. -/
def lookedUp (ip : String) (ω : ℕ → Outcome) : Option String :=
  if (ω 3).fault = none then some ip else none

def Cluster.policy (c : Cluster) (ns : String) : Option NetworkPolicyBody :=
  c.objects .networkPolicy ns "tenant-default-deny"

theorem Cluster.policy_ensure {c : Cluster} {k : Kind} {ns' name : String} {b : Body k}
    (hk : k ≠ .networkPolicy) : (c.ensure k ns' name b).policy ns = c.policy ns := by
  rw [policy, objects_ensure, objects_put_of_kind_ne (Ne.symm hk)]
  exact Option.or_none

theorem Cluster.policy_ensure_self {c : Cluster} {b : NetworkPolicyBody} :
    (c.ensure .networkPolicy ns "tenant-default-deny" b).policy ns = (c.policy ns).or (some b) := by
  rw [policy, objects_ensure, objects_put_self]
  rfl

/-- From the creation of the policy on. -/
theorem policy_of_create {dnsIp : Option String} (hns : w.cluster.has .ns "" ns) :
    ((do
      createIfAbsent .networkPolicy ns "tenant-default-deny" (networkPolicyBody dnsIp)
      createIfAbsent .secret ns registrySecretName (secretBody cfg)
      createIfAbsent .serviceAccount ns tenantServiceAccountName serviceAccountBody :
      Py Unit).run handle ω w).2.cluster.policy ns =
    (w.cluster.policy ns).or
      (if (ω 0).takesEffect then some (networkPolicyBody dnsIp) else none) := by
  cases hpasses : (ω 0).passes with
  | true =>
      rw [run_createIfAbsent (.inr hns) hpasses, Outcome.takesEffect_of_passes hpasses, if_pos rfl,
        ← Cluster.policy_ensure_self]
      have huses : (do
          createIfAbsent .secret ns registrySecretName (secretBody cfg)
          createIfAbsent .serviceAccount ns tenantServiceAccountName serviceAccountBody :
          Py Unit).Uses (Respects .networkPolicy ns "tenant-default-deny" none)
            (fun _ => True) := by
        refine Prog.Uses.bind (createIfAbsent_calls (.inl ?_))
          (fun _ _ => createIfAbsent_calls (.inl ?_))
        · exact Cluster.objects_put_of_kind_ne (by decide)
        · exact Cluster.objects_put_of_kind_ne (by decide)
      rcases (objects_of_respects huses).1 with hobj | hobj
      · exact hobj
      · exact hobj.trans Option.or_none
  | false =>
      rw [run_createIfAbsent_stops (.inr hns) hpasses]
      dsimp only
      split
      · exact Cluster.policy_ensure_self
      · exact Option.or_none.symm

theorem policy_of_other {k : Kind} {ns' name : String} {b : Body k} {f : Unit → Py Unit}
    (hadmits : w.cluster.admits k ns') (hk : k ≠ .networkPolicy) :
    ((createIfAbsent k ns' name b >>= f).run handle ω w).2.cluster.policy ns =
      if (ω 0).passes then
        ((f ()).run handle (fun n => ω (n + 1))
          { w with cluster := w.cluster.ensure k ns' name b }).2.cluster.policy ns
      else w.cluster.policy ns := by
  cases hpasses : (ω 0).passes with
  | true => rw [run_createIfAbsent hadmits hpasses, if_pos rfl]
  | false =>
      rw [run_createIfAbsent_stops hadmits hpasses, if_neg Bool.false_ne_true]
      dsimp only
      split
      · exact Cluster.policy_ensure hk
      · rfl

theorem policy_of_raised {fault : Fault} {f : Option String → Py Unit}
    (hfault : (ω 0).fault = some fault) (hapi : fault.error.isApi = false) :
    ((clusterDnsIp >>= f).run handle ω w).2.cluster.policy ns = w.cluster.policy ns := by
  rw [run_clusterDnsIp_fault hfault, if_neg (by simp [hapi])]

theorem Cluster.policy_limited {c : Cluster} : (c.limited ns).policy ns = c.policy ns := by
  rw [limited, policy_ensure (by decide), policy_ensure (by decide), policy_ensure (by decide)]

/-- The rest of a call that gets as far as the policy. -/
theorem setupRun_of_reaches (hdns : w.cluster.DnsAt ip) (hreaches : reachesPolicy ω = true) :
    setupRun cfg ns ω w =
      (do
        createIfAbsent .networkPolicy ns "tenant-default-deny" (networkPolicyBody (lookedUp ip ω))
        createIfAbsent .secret ns registrySecretName (secretBody cfg)
        createIfAbsent .serviceAccount ns tenantServiceAccountName serviceAccountBody :
        Py Unit).run handle (fun n => ω (n + 4)) { w with cluster := w.cluster.limited ns } := by
  have hns := w.cluster.has_ensure_self .ns "" ns namespaceBody
  simp only [reachesPolicy, Bool.and_eq_true] at hreaches
  obtain ⟨⟨⟨h0, h1⟩, h2⟩, h3⟩ := hreaches
  unfold setupRun ensureTenantNamespace
  refine (run_createIfAbsent (.inl rfl) h0).trans ?_
  refine (run_createIfAbsent (.inr hns) h1).trans ?_
  refine (run_createIfAbsent (.inr hns.ensure) h2).trans ?_
  cases hfault : (ω 3).fault with
  | none =>
      refine (run_clusterDnsIp hdns.ensure.ensure.ensure hfault).trans ?_
      rw [lookedUp, if_pos hfault]
      rfl
  | some f =>
      rw [hfault, Option.all_some] at h3
      refine (run_clusterDnsIp_fault hfault).trans ?_
      rw [if_pos h3, lookedUp, if_neg (by simp [hfault])]
      rfl

theorem policy_of_not_reaches (hstops : reachesPolicy ω = false) :
    (setupRun cfg ns ω w).2.cluster.policy ns = w.cluster.policy ns := by
  have hns := w.cluster.has_ensure_self .ns "" ns namespaceBody
  have hpolicy : (w.cluster.ensure .ns "" ns namespaceBody).policy ns = w.cluster.policy ns :=
    Cluster.policy_ensure (by decide)
  unfold setupRun ensureTenantNamespace
  refine (policy_of_other (.inl rfl) (by decide)).trans ?_
  split
  case isFalse => rfl
  rename_i h0
  refine (policy_of_other (.inr hns) (by decide)).trans ?_
  split
  case isFalse => exact hpolicy
  rename_i h1
  refine (policy_of_other (.inr hns.ensure) (by decide)).trans ?_
  split
  case isFalse => exact (Cluster.policy_ensure (by decide)).trans hpolicy
  rename_i h2
  -- all three passed, so it is the DNS lookup that raised
  have hlookup : (ω 3).fault.all (fun f => f.error.isApi) = false := by
    simpa [reachesPolicy, h0, h1, h2] using hstops
  cases hfault : (ω 3).fault with
  | none =>
      rw [hfault] at hlookup
      cases hlookup
  | some f =>
      rw [hfault, Option.all_some] at hlookup
      refine (policy_of_raised (ω := fun n => ω (n + 3)) hfault hlookup).trans ?_
      exact Cluster.policy_limited

/-- One call creates the policy if it gets there first, with the rules of its own lookup. -/
theorem policy_setupRun (hdns : w.cluster.DnsAt ip) :
    (setupRun cfg ns ω w).2.cluster.policy ns =
      (w.cluster.policy ns).or
        (if createsPolicy ω then some (networkPolicyBody (lookedUp ip ω)) else none) := by
  cases hreaches : reachesPolicy ω with
  | false =>
      rw [createsPolicy, hreaches, Bool.false_and, if_neg Bool.false_ne_true, Option.or_none]
      exact policy_of_not_reaches hreaches
  | true =>
      have hns : (w.cluster.limited ns).has .ns "" ns :=
        (w.cluster.has_ensure_self .ns "" ns namespaceBody).ensure.ensure
      rw [createsPolicy, hreaches, Bool.true_and, setupRun_of_reaches hdns hreaches,
        policy_of_create hns, Cluster.policy_limited]

/-! ## Calls one after the other -/

/-- Calls one after the other, each with its own outcomes. -/
def setupRuns (cfg : Settings) (ns : String) (attempts : List (ℕ → Outcome)) (w : World) : World :=
  attempts.foldl (fun w ω => (setupRun cfg ns ω w).2) w

theorem setupRuns_dnsAt {attempts : List (ℕ → Outcome)} (hdns : w.cluster.DnsAt ip) :
    (setupRuns cfg ns attempts w).cluster.DnsAt ip := by
  induction attempts generalizing w with
  | nil => exact hdns
  | cons ω attempts ih => exact ih (setupRun_dnsAt hdns)

/-- The policy is that of the first call to create it. -/
theorem policy_setupRuns {attempts : List (ℕ → Outcome)} (hdns : w.cluster.DnsAt ip) :
    (setupRuns cfg ns attempts w).cluster.policy ns =
      (w.cluster.policy ns).or
        ((attempts.find? createsPolicy).map (fun ω => networkPolicyBody (lookedUp ip ω))) := by
  induction attempts generalizing w with
  | nil => exact Option.or_none.symm
  | cons ω attempts ih =>
      have hrest := ih (@setupRun_dnsAt cfg ns ip ω w hdns)
      rw [policy_setupRun hdns, Option.or_assoc] at hrest
      refine hrest.trans (congrArg _ ?_)
      cases hcreates : createsPolicy ω with
      | true => rw [if_pos rfl, Option.some_or, List.find?_cons_of_pos hcreates, Option.map_some]
      | false =>
          rw [if_neg Bool.false_ne_true, Option.none_or,
            List.find?_cons_of_neg (by rw [hcreates]; exact Bool.false_ne_true)]

/-- Every other object is missing, or is what a call without failures makes of it. -/
theorem objects_setupRuns {attempts : List (ℕ → Outcome)} {k : Kind} {ns' name : String}
    {dnsIp : Option String} (hk : ¬ IsPolicy ns k ns' name) :
    ((setupRuns cfg ns attempts w).cluster.setUp cfg ns dnsIp).objects k ns' name =
      (w.cluster.setUp cfg ns dnsIp).objects k ns' name := by
  induction attempts generalizing w with
  | nil => rfl
  | cons ω attempts ih =>
      refine ih.trans ?_
      rw [Cluster.objects_setUp, Cluster.objects_setUp (c := w.cluster)]
      rcases (objects_of_respects (ω := ω) (w := w)
        (@ensureTenantNamespace_uses cfg ns _ _ _ dnsIp hk)).1 with hobj | hobj
      · exact congrArg (Option.or · _) hobj
      · refine (congrArg (Option.or · _) hobj).trans ?_
        rw [Option.or_assoc, Option.or_self]

end Setup

/-- The two clusters have the same namespace, with the same objects in it. -/
def SameNamespace (ns : String) (c c' : Cluster) : Prop :=
  c.objects .ns "" ns = c'.objects .ns "" ns ∧ ∀ k name, c.objects k ns name = c'.objects k ns name

theorem networkPolicyBody_eq_iff {ip : String} {ω : ℕ → Outcome} :
    networkPolicyBody (lookedUp ip ω) = networkPolicyBody (some ip) ↔
      (ω 3).fault = none ∨ ip = "" := by
  by_cases hfault : (ω 3).fault = none
  · simp [lookedUp, hfault]
  · by_cases hip : ip = ""
    · simp [lookedUp, networkPolicyBody, egressRules, hfault, hip]
    · simp [lookedUp, networkPolicyBody, egressRules, hfault, hip]

/-- After a last call without failures the namespace is what one such call makes of it if
and only if the call that came to create the NetworkPolicy had found the DNS address. -/
theorem setup_converges_iff_dns_found {cfg : Settings} {ns ip : String} {w : World}
    (hdns : w.cluster.DnsAt ip) (hnew : ¬ w.cluster.has .networkPolicy ns "tenant-default-deny")
    (attempts : List (ℕ → Outcome)) {last clean : ℕ → Outcome} (hlast : ∀ n, (last n).fault = none)
    (hclean : ∀ n, (clean n).fault = none) :
    SameNamespace ns (setupRuns cfg ns (attempts ++ [last]) w).cluster
        (setupRun cfg ns clean w).2.cluster ↔
      ∃ ω, (attempts ++ [last]).find? createsPolicy = some ω ∧
        ((ω 3).fault = none ∨ ip = "") := by
  have hnone : w.cluster.policy ns = none := by simpa [Cluster.has, Cluster.policy] using hnew
  have hcreates : ∀ ω : ℕ → Outcome, (∀ n, (ω n).fault = none) → createsPolicy ω = true := by
    intro ω h
    simp [createsPolicy, reachesPolicy, Outcome.passes, Outcome.takesEffect, h]
  obtain ⟨ω, hω⟩ : ∃ ω, (attempts ++ [last]).find? createsPolicy = some ω :=
    Option.isSome_iff_exists.mp
      (List.find?_isSome.mpr ⟨last, by simp, hcreates last hlast⟩)
  have hfinal : (setupRuns cfg ns (attempts ++ [last]) w).cluster.policy ns =
      some (networkPolicyBody (lookedUp ip ω)) := by
    rw [policy_setupRuns hdns, hnone, hω]
    rfl
  have hfresh : (setupRun cfg ns clean w).2.cluster.policy ns =
      some (networkPolicyBody (some ip)) := by
    rw [policy_setupRun hdns, hnone, hcreates clean hclean, lookedUp, hclean]
    rfl
  have hother : ∀ k ns' name, ¬ IsPolicy ns k ns' name →
      (setupRuns cfg ns (attempts ++ [last]) w).cluster.objects k ns' name =
        (setupRun cfg ns clean w).2.cluster.objects k ns' name := by
    intro k ns' name hk
    rw [setupRuns, List.foldl_append, List.foldl_cons, List.foldl_nil, ← setupRuns,
      setupRun_clean hlast (setupRuns_dnsAt hdns), setupRun_clean hclean hdns]
    exact objects_setupRuns hk
  rw [hω]
  constructor
  · rintro ⟨-, hobj⟩
    refine ⟨ω, rfl, networkPolicyBody_eq_iff.mp (Option.some.inj ?_)⟩
    exact hfinal.symm.trans ((hobj .networkPolicy "tenant-default-deny").trans hfresh)
  · rintro ⟨ω', hω', hfound⟩
    obtain rfl := Option.some.inj hω'
    refine ⟨hother _ _ _ (fun h => by cases h.1), fun k name => ?_⟩
    by_cases hk : IsPolicy ns k ns name
    · obtain ⟨rfl, -, rfl⟩ := hk
      exact hfinal.trans ((congrArg some (networkPolicyBody_eq_iff.mpr hfound)).trans hfresh.symm)
    · exact hother k ns name hk

/-! ## A lookup that fails once -/

/-- A cluster with nothing but its DNS Service. -/
def dnsCluster : Cluster :=
  { Cluster.empty.put .service "kube-system" "kube-dns" ⟨[], []⟩ with
    clusterIp := fun _ _ => some "10.96.0.10" }

theorem dnsCluster_dnsAt : dnsCluster.DnsAt "10.96.0.10" := ⟨by decide +kernel, rfl⟩

/-- All goes well but the lookup of the DNS Service. -/
def failedLookup : ℕ → Outcome
  | 3 => { fault := some ⟨.api ⟨503, "(503)\nReason: Service Unavailable\n"⟩, false⟩ }
  | _ => .ok

theorem setup_converges_iff_dns_found_repeated :
    SameNamespace "tenant-7"
      (setupRuns sampleSettings "tenant-7" ([fun _ => .ok] ++ [fun _ => .ok])
        ⟨.empty, dnsCluster⟩).cluster
      (setupRun sampleSettings "tenant-7" (fun _ => .ok) ⟨.empty, dnsCluster⟩).2.cluster :=
  (setup_converges_iff_dns_found dnsCluster_dnsAt (by decide +kernel) [fun _ => .ok]
    (fun _ => rfl) (fun _ => rfl)).mpr ⟨fun _ => .ok, rfl, .inl rfl⟩

/-- The NetworkPolicy of the first call stays as it is, and lets nothing out to the DNS. -/
theorem failed_lookup_never_repaired :
    ¬ SameNamespace "tenant-7"
      (setupRuns sampleSettings "tenant-7" ([failedLookup] ++ [fun _ => .ok])
        ⟨.empty, dnsCluster⟩).cluster
      (setupRun sampleSettings "tenant-7" (fun _ => .ok) ⟨.empty, dnsCluster⟩).2.cluster := by
  intro h
  have hpolicy := h.2 .networkPolicy "tenant-default-deny"
  revert hpolicy
  decide +kernel

end TenantPlatform
