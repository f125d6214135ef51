import TenantPlatform.Data.Guards
import TenantPlatform.Model.Manifests
import TenantPlatform.Verification.Tenancy.Authorship

/-! # Which connections the network policies allow

A NetworkPolicy is a guard of the pods of its namespace, one for each direction it lists.
The set-up of a tenant closes both directions but for DNS, and nothing ever opens the way in
for the reverse proxy. -/

namespace TenantPlatform

open Effect

/-! ## Pods and policies -/

/-- A pod, as far as policies look at it. -/
structure NetPod where
  ns : String
  labels : List (String × String)
  ip : String

/-- What a rule matches: the address at the other end, and the port. -/
structure Flow where
  ip : String
  protocol : String
  port : ℕ

def NetPod.hasLabels (p : NetPod) (labels : List (String × String)) : Prop :=
  ∀ l ∈ labels, l ∈ p.labels

/-- A pod of the Deployment that the manifests call `reverse-proxy`. -/
def NetPod.IsProxy (p : NetPod) : Prop :=
  ∃ m ∈ manifests, m.kind = "Deployment" ∧ m.name = "reverse-proxy" ∧ p.ns = m.ns ∧
    p.hasLabels m.podLabels

/-- A pod of the tenant's Deployment. -/
def NetPod.IsApp (n : ℕ) (p : NetPod) : Prop :=
  p.ns = tenantNamespace n ∧
    ∀ image replicas, p.hasLabels (deploymentBody image replicas tenantAppName).templateLabels

section Semantics

-- `inBlock cidr ip` says that the address is in the block
variable (inBlock : String → String → Prop)

/-- An empty list of peers or ports matches everything. -/
def NetworkPolicyRule.Matches (rule : NetworkPolicyRule) (f : Flow) : Prop :=
  (rule.cidrs = [] ∨ ∃ cidr ∈ rule.cidrs, inBlock cidr f.ip) ∧
    (rule.ports = [] ∨ ⟨f.protocol, f.port⟩ ∈ rule.ports)

def NetworkPolicyBody.rules (body : NetworkPolicyBody) : PolicyType → List NetworkPolicyRule
  | .ingress => body.ingress
  | .egress => body.egress

def NetworkPolicyBody.guard (body : NetworkPolicyBody) (ns : String) (direction : PolicyType) :
    Guard NetPod Flow where
  selects p := direction ∈ body.policyTypes ∧ p.ns = ns ∧ p.hasLabels body.podSelector
  allows f := ∃ rule ∈ body.rules direction, rule.Matches inBlock f

def Cluster.guards (c : Cluster) (direction : PolicyType) : Set (Guard NetPod Flow) :=
  fun g => ∃ ns name body, c.objects .networkPolicy ns name = some body ∧
    g = body.guard inBlock ns direction

/-- Traffic of a pod in one direction. -/
def Cluster.Allows (c : Cluster) (direction : PolicyType) (p : NetPod) (f : Flow) : Prop :=
  Guard.Permits (c.guards inBlock direction) p f

/-- A connection leaves one pod and enters another. -/
def Cluster.Connects (c : Cluster) (source target : NetPod) (protocol : String) (port : ℕ) : Prop :=
  c.Allows inBlock .egress source ⟨target.ip, protocol, port⟩ ∧
    c.Allows inBlock .ingress target ⟨source.ip, protocol, port⟩

/-! ## What is intended -/

/-- The one connection into a tenant's namespace that is to be possible. -/
def ProxyTraffic (n : ℕ) (source target : NetPod) (protocol : String) (port : ℕ) : Prop :=
  source.IsProxy ∧ target.IsApp n ∧ protocol = "TCP" ∧ port = tenantAppPort

/-- The proxy reaches the tenant's pods, no other pod from outside does, and the tenant's pods
reach the DNS Service alone. -/
structure IntendedFlows (c : Cluster) (n : ℕ) : Prop where
  proxy : ∀ source target protocol port, ProxyTraffic n source target protocol port →
    c.Connects inBlock source target protocol port
  ingress : ∀ source target protocol port, target.ns = tenantNamespace n →
    source.ns ≠ target.ns → ¬ ProxyTraffic n source target protocol port →
    ¬ c.Connects inBlock source target protocol port
  egress : ∀ source f, source.ns = tenantNamespace n → c.Allows inBlock .egress source f →
    c.clusterIp "kube-system" "kube-dns" = some f.ip ∧ f.port = 53 ∧ f.protocol ∈ ["UDP", "TCP"]

end Semantics

/-! ## What is allowed -/

/-- The cluster has the NetworkPolicies of the manifests. -/
def FromManifests (cluster : Cluster) : Prop :=
  ∀ ns name, cluster.has .networkPolicy ns name →
    ∃ m ∈ manifests, m.kind = "NetworkPolicy" ∧ m.ns = ns ∧ m.name = name

/-- There are none. -/
theorem FromManifests.absent {cluster : Cluster} (h : FromManifests cluster) (ns name : String) :
    ¬ cluster.has .networkPolicy ns name := by
  intro hhas
  obtain ⟨m, hm, hkind, -, -⟩ := h ns name hhas
  have hnone : ∀ m ∈ manifests, m.kind ≠ "NetworkPolicy" := by decide
  exact hnone m hm hkind

/-- Every policy is the default-deny policy of a tenant. -/
def DefaultDenied (c : Cluster) : Prop :=
  ∀ ns name body, c.objects .networkPolicy ns name = some body →
    ∃ n dnsIp, ns = tenantNamespace n ∧ name = "tenant-default-deny" ∧
      body = networkPolicyBody dnsIp

section Policies

variable {inBlock : String → String → Prop} {c : Cluster} {n : ℕ} {dnsIp : Option String}

theorem isolated_of_policy
    (hpolicy : c.objects .networkPolicy (tenantNamespace n) "tenant-default-deny" =
      some (networkPolicyBody dnsIp))
    (direction : PolicyType) {p : NetPod} (hp : p.ns = tenantNamespace n) :
    Guard.Isolated (c.guards inBlock direction) p := by
  refine ⟨_, ⟨_, _, _, hpolicy, rfl⟩, ?_, hp, fun l hl => by cases hl⟩
  cases direction <;> simp [networkPolicyBody]

/-- Only the policy of the pod's own namespace selects it. -/
theorem guard_of_selects (h : DefaultDenied c)
    (hpolicy : c.objects .networkPolicy (tenantNamespace n) "tenant-default-deny" =
      some (networkPolicyBody dnsIp)) {direction : PolicyType} {p : NetPod}
    (hp : p.ns = tenantNamespace n) {g : Guard NetPod Flow} (hg : g ∈ c.guards inBlock direction)
    (hsel : g.selects p) :
    g = (networkPolicyBody dnsIp).guard inBlock (tenantNamespace n) direction := by
  obtain ⟨ns, name, body, hget, rfl⟩ := hg
  obtain ⟨n', dnsIp', rfl, rfl, rfl⟩ := h ns name body hget
  obtain rfl : n = n' := tenantNamespace_injective (hp.symm.trans hsel.2.1)
  rw [hget] at hpolicy
  rw [Option.some.inj hpolicy]

/-- Nothing enters a namespace that has its policy. -/
theorem no_ingress (h : DefaultDenied c)
    (hpolicy : c.objects .networkPolicy (tenantNamespace n) "tenant-default-deny" =
      some (networkPolicyBody dnsIp)) {p : NetPod} (hp : p.ns = tenantNamespace n) (f : Flow) :
    ¬ c.Allows inBlock .ingress p f := by
  intro hallow
  refine Guard.Permits.of_isolated (P := fun _ => False) hallow
    (isolated_of_policy hpolicy .ingress hp) ?_
  intro g hg hsel k hk
  rw [guard_of_selects h hpolicy hp hg hsel] at hk
  obtain ⟨rule, hrule, -⟩ := hk
  cases hrule

/-- What leaves it goes to port 53 of the one address that was found. -/
theorem egress_to_dns (h : DefaultDenied c)
    (hpolicy : c.objects .networkPolicy (tenantNamespace n) "tenant-default-deny" =
      some (networkPolicyBody dnsIp)) {p : NetPod} (hp : p.ns = tenantNamespace n) {f : Flow}
    (hallow : c.Allows inBlock .egress p f) :
    ∃ ip, dnsIp = some ip ∧ inBlock (ip ++ "/32") f.ip ∧ f.port = 53 ∧
      f.protocol ∈ ["UDP", "TCP"] := by
  refine Guard.Permits.of_isolated (P := fun f : Flow => ∃ ip, dnsIp = some ip ∧
    inBlock (ip ++ "/32") f.ip ∧ f.port = 53 ∧ f.protocol ∈ ["UDP", "TCP"]) hallow
    (isolated_of_policy hpolicy .egress hp) ?_
  intro g hg hsel k hk
  rw [guard_of_selects h hpolicy hp hg hsel] at hk
  obtain ⟨rule, hrule, hcidr, hport⟩ := hk
  cases dnsIp with
  | none => cases hrule
  | some ip =>
      by_cases hip : ip = ""
      · rw [hip] at hrule
        cases hrule
      · have hrules : egressRules (some ip) = [⟨[ip ++ "/32"], [⟨"UDP", 53⟩, ⟨"TCP", 53⟩]⟩] :=
          if_neg hip
        have hrule : rule ∈ egressRules (some ip) := hrule
        rw [hrules] at hrule
        obtain rfl := List.mem_singleton.mp hrule
        simp only [List.mem_cons, List.not_mem_nil, or_false, reduceCtorEq, false_or,
          exists_eq_left, NetworkPolicyPort.mk.injEq] at hcidr hport
        refine ⟨ip, rfl, hcidr, ?_, ?_⟩
        · rcases hport with hport | hport <;> exact hport.2
        · rcases hport with hport | hport <;> simp [hport.1]

end Policies

section Reachable

variable {ι : Type} [DecidableEq ι] {cfg : Settings} {adminSecretKey : String}
  {requests : ι → Request} {cluster : Cluster} {env : World → World → Prop}
  {c : Config ι Call Call.Result PyException World} {inBlock : String → String → Prop}

theorem defaultDenied_reach (henv : KeepsDatabase env)
    (hmakes : MakesNo env .networkPolicy (fun _ _ _ => True)) (hcluster : FromManifests cluster)
    (hc : Reach (platform env) (platformStart cfg adminSecretKey requests cluster) c) :
    DefaultDenied c.trail.state.cluster := by
  intro ns name body hget
  rcases authored_reach (by decide) henv hmakes hc ns name body trivial hget with
    hinit | ⟨t, τ, hcall⟩
  · exact absurd (by simp [Cluster.has, hinit]) (hcluster.absent ns name)
  · cases hcall with
    | setup h =>
        cases h
        exact ⟨t, _, rfl, rfl, rfl⟩
    | viewer h => cases h

/-- The flows of no tenant that has been set up are as intended: its pods are as closed to the
proxy as to everybody else, though the rest holds. -/
theorem proxy_never_admitted (henv : KeepsDatabase env)
    (hmakes : MakesNo env .networkPolicy (fun _ _ _ => True)) (hcluster : FromManifests cluster)
    (hc : Reach (platform env) (platformStart cfg adminSecretKey requests cluster) c) {n : ℕ}
    (hn : c.trail.state.cluster.has .networkPolicy (tenantNamespace n) "tenant-default-deny") :
    ¬ IntendedFlows inBlock c.trail.state.cluster n ∧
    (∀ source target protocol port, target.ns = tenantNamespace n →
      ¬ c.trail.state.cluster.Connects inBlock source target protocol port) ∧
    ∀ source f, source.ns = tenantNamespace n →
      c.trail.state.cluster.Allows inBlock .egress source f →
      ∃ ip, c.trail.state.cluster.objects .networkPolicy (tenantNamespace n)
          "tenant-default-deny" = some (networkPolicyBody (some ip)) ∧
        inBlock (ip ++ "/32") f.ip ∧ f.port = 53 ∧ f.protocol ∈ ["UDP", "TCP"] := by
  have hdenied := defaultDenied_reach henv hmakes hcluster hc
  obtain ⟨body, hbody⟩ := Option.isSome_iff_exists.mp hn
  obtain ⟨n', dnsIp, hns, -, rfl⟩ := hdenied _ _ body hbody
  have hclosed : ∀ source target protocol port, target.ns = tenantNamespace n →
      ¬ c.trail.state.cluster.Connects inBlock source target protocol port :=
    fun source target protocol port htarget hconn => no_ingress hdenied hbody htarget _ hconn.2
  refine ⟨fun h => ?_, hclosed, ?_⟩
  · refine hclosed ⟨"platform", [("app", "reverse-proxy")], "10.0.0.1"⟩
      ⟨tenantNamespace n, [("app", tenantAppName)], "10.0.0.2"⟩ "TCP" tenantAppPort rfl
      (h.proxy _ _ _ _ ⟨?_, ⟨rfl, fun _ _ l hl => hl⟩, rfl, rfl⟩)
    exact ⟨⟨"Deployment", "platform", "reverse-proxy", [("app", "reverse-proxy")]⟩, by decide,
      rfl, rfl, rfl, fun l hl => hl⟩
  · intro source f hsource hallow
    obtain ⟨ip, rfl, hip, hport, hprotocol⟩ := egress_to_dns hdenied hbody hsource hallow
    exact ⟨ip, hbody, hip, hport, hprotocol⟩

end Reachable

/-- A cluster with its DNS Service. -/
def resolverCluster : Cluster :=
  { Cluster.empty.put .service "kube-system" "kube-dns" ⟨[("k8s-app", "kube-dns")], [⟨53, 53⟩]⟩ with
    clusterIp := fun ns name =>
      if ns = "kube-system" ∧ name = "kube-dns" then some "10.96.0.10" else none }

theorem resolverCluster_fromManifests : FromManifests resolverCluster :=
  fun ns name h => by simp [resolverCluster, Cluster.has, Cluster.put, Cluster.empty] at h

/-- A build request there, up to the first status read of its poller. -/
def dnsRun : Config ℕ Call Call.Result PyException World :=
  drive handle buildSchedule (platformStart sampleSettings "admin" sampleRequests resolverCluster)

theorem proxy_never_admitted_build :
    ¬ IntendedFlows (fun cidr ip => cidr = ip ++ "/32") dnsRun.trail.state.cluster 1 :=
  (proxy_never_admitted (fun _ _ (h : False) => h.elim) (fun _ _ (h : False) => h.elim)
    resolverCluster_fromManifests (Reach.drive buildSchedule .init) (by decide +kernel)).1

/-- The lookup succeeded, and the proxy cannot open a connection to the tenant's application. -/
theorem proxy_cannot_reach_app :
    ∃ c, Reach (platform (fun _ _ => False))
        (platformStart sampleSettings "admin" sampleRequests resolverCluster) c ∧
      c.trail.state.cluster.objects .networkPolicy (tenantNamespace 1) "tenant-default-deny" =
        some (networkPolicyBody (some "10.96.0.10")) ∧
      ∃ source target, ProxyTraffic 1 source target "TCP" 8080 ∧
        ¬ c.trail.state.cluster.Connects (fun cidr ip => cidr = ip ++ "/32") source target
          "TCP" 8080 := by
  have hreach : Reach (platform (fun _ _ => False))
      (platformStart sampleSettings "admin" sampleRequests resolverCluster) dnsRun :=
    Reach.drive buildSchedule .init
  have hpolicy : dnsRun.trail.state.cluster.objects .networkPolicy (tenantNamespace 1)
      "tenant-default-deny" = some (networkPolicyBody (some "10.96.0.10")) := by
    decide +kernel
  have hdenied := defaultDenied_reach (fun _ _ h => h.elim) (fun _ _ h => h.elim)
    resolverCluster_fromManifests hreach
  refine ⟨dnsRun, hreach, hpolicy, ⟨"platform", [("app", "reverse-proxy")], "10.0.0.1"⟩,
    ⟨tenantNamespace 1, [("app", tenantAppName)], "10.0.0.2"⟩,
    ⟨⟨⟨"Deployment", "platform", "reverse-proxy", [("app", "reverse-proxy")]⟩, by decide,
      rfl, rfl, rfl, fun l hl => hl⟩, ⟨rfl, fun _ _ l hl => hl⟩, rfl, rfl⟩, ?_⟩
  exact fun hconn => no_ingress hdenied hpolicy rfl _ hconn.2

end TenantPlatform
