import TenantPlatform.Verification.Tenancy.Authorship

/-! # What downloaded credentials grant

A RoleBinding of a namespace gives its subjects the rules of the Role it names, in that
namespace. All tenants use the same names of objects, so what keeps them apart is the
namespace of the subject. -/

namespace TenantPlatform

open Effect

/-! ## Evaluation of roles -/

/-- A rule covers a request; `*` stands for everything. -/
def PolicyRule.Covers (rule : PolicyRule) (group resource verb : String) : Prop :=
  (group ∈ rule.apiGroups ∨ "*" ∈ rule.apiGroups) ∧
    (resource ∈ rule.resources ∨ "*" ∈ rule.resources) ∧ (verb ∈ rule.verbs ∨ "*" ∈ rule.verbs)

/-- A ServiceAccount may use the verb on the resource in namespace `ns`. -/
def Cluster.Grants (c : Cluster) (account : RbacSubject) (group resource verb ns : String) : Prop :=
  ∃ name binding role, c.objects .roleBinding ns name = some binding ∧
    account ∈ binding.subjects ∧ binding.roleRef.kind = "Role" ∧
    c.objects .role ns binding.roleRef.name = some role ∧
    ∃ rule ∈ role.rules, rule.Covers group resource verb

/-- The account behind the credentials of a tenant. -/
def viewer (n : ℕ) : RbacSubject :=
  ⟨"ServiceAccount", tenantViewerServiceAccountName, tenantNamespace n⟩

/-! ## The kubeconfig as a document -/

structure KubeCluster where
  name : String
  server : String
  caData : String
deriving DecidableEq, Repr

structure KubeContext where
  name : String
  cluster : String
  ns : String
  user : String
deriving DecidableEq, Repr

structure KubeUser where
  name : String
  token : String
deriving DecidableEq, Repr

structure KubeConfig where
  clusters : List KubeCluster
  contexts : List KubeContext
  currentContext : String
  users : List KubeUser
deriving DecidableEq, Repr

def KubeCluster.render (c : KubeCluster) : String :=
  "- name: " ++ c.name ++ "\n  cluster:\n    server: " ++ c.server ++
    "\n    certificate-authority-data: " ++ c.caData ++ "\n"

def KubeContext.render (c : KubeContext) : String :=
  "- name: " ++ c.name ++ "\n  context:\n    cluster: " ++ c.cluster ++ "\n    namespace: " ++
    c.ns ++ "\n    user: " ++ c.user ++ "\n"

def KubeUser.render (u : KubeUser) : String :=
  "- name: " ++ u.name ++ "\n  user:\n    token: " ++ u.token ++ "\n"

/-- The document in YAML. -/
def KubeConfig.render (d : KubeConfig) : String :=
  "apiVersion: v1\nkind: Config\nclusters:\n" ++ String.join (d.clusters.map KubeCluster.render) ++
    "contexts:\n" ++ String.join (d.contexts.map KubeContext.render) ++ "current-context: " ++
    d.currentContext ++ "\nusers:\n" ++ String.join (d.users.map KubeUser.render)

/-- What `mint_tenant_kubeconfig` writes down. -/
def tenantKubeconfig (ns server caData token : String) : KubeConfig where
  clusters := [⟨"tenant-cluster", server, caData⟩]
  contexts := [⟨ns ++ "-context", "tenant-cluster", ns, ns ++ "-viewer"⟩]
  currentContext := ns ++ "-context"
  users := [⟨ns ++ "-viewer", token⟩]

/-- The text of the f-string is the document, piece by piece. -/
theorem kubeconfig_eq_render (ns server caData token : String) :
    kubeconfig ns server caData token = (tenantKubeconfig ns server caData token).render := by
  have hcluster :
      "apiVersion: v1\nkind: Config\nclusters:\n- name: tenant-cluster\n  cluster:\n    server: " =
      "apiVersion: v1\nkind: Config\nclusters:\n" ++
        ("- name: " ++ ("tenant-cluster" ++ "\n  cluster:\n    server: ")) := rfl
  have hcontexts : "\ncontexts:\n- name: " = "\n" ++ ("contexts:\n" ++ "- name: ") := rfl
  have hcontext : "-context\n  context:\n    cluster: tenant-cluster\n" =
      "-context" ++ ("\n  context:\n    cluster: " ++ ("tenant-cluster" ++ "\n")) := rfl
  have hns : "\n    namespace: " = "\n" ++ "    namespace: " := rfl
  have hcurrent : "-viewer\ncurrent-context: " = "-viewer" ++ ("\n" ++ "current-context: ") := rfl
  have husers : "-context\nusers:\n- name: " = "-context" ++ ("\nusers:\n" ++ "- name: ") := rfl
  have huser : "-viewer\n  user:\n    token: " = "-viewer" ++ "\n  user:\n    token: " := rfl
  unfold kubeconfig KubeConfig.render
  simp only [tenantKubeconfig, List.map_cons, List.map_nil, String.join_cons, String.join_nil,
    KubeCluster.render, KubeContext.render, KubeUser.render]
  rw [hcluster, hcontexts, hcontext, hcurrent, husers, huser]
  simp only [String.append_empty, String.append_assoc, hns, -String.reduceAppend]

/-- The current context of the document is in the namespace, and its user has the token. -/
structure KubeConfig.Opens (d : KubeConfig) (ns token : String) : Prop where
  context : ∃ context, d.contexts.find? (fun c => c.name = d.currentContext) = some context ∧
    context.ns = ns ∧
    ∃ user, d.users.find? (fun u => u.name = context.user) = some user ∧ user.token = token

theorem tenantKubeconfig_opens (ns server caData token : String) :
    (tenantKubeconfig ns server caData token).Opens ns token := by
  refine ⟨⟨⟨ns ++ "-context", "tenant-cluster", ns, ns ++ "-viewer"⟩, ?_, rfl,
    ⟨ns ++ "-viewer", token⟩, ?_, rfl⟩⟩
  · exact List.find?_cons_of_pos (by simp [tenantKubeconfig])
  · exact List.find?_cons_of_pos (by simp)

/-! ## The objects behind the credentials -/

inductive ViewerObject : Kind → String → String → Prop where
  | account (n : ℕ) :
      ViewerObject .serviceAccount (tenantNamespace n) tenantViewerServiceAccountName
  | role (n : ℕ) : ViewerObject .role (tenantNamespace n) tenantViewerRoleName
  | binding (n : ℕ) : ViewerObject .roleBinding (tenantNamespace n) "tenant-viewer-binding"

def RoleBindingBody.MentionsViewer (b : RoleBindingBody) : Prop := ∃ n, viewer n ∈ b.subjects

/-- The other actors leave the database and the viewers' objects alone, and bind no viewer. -/
structure LeavesViewers (env : World → World → Prop) : Prop where
  db : ∀ w w', env w w' → w'.db = w.db
  objects : ∀ w w', env w w' → ∀ k ns name, ViewerObject k ns name →
    w'.cluster.objects k ns name = w.cluster.objects k ns name
  bindings : ∀ w w', env w w' → ∀ ns name b, w'.cluster.objects .roleBinding ns name = some b →
    b.MentionsViewer → w.cluster.objects .roleBinding ns name = some b

/-- There are no such objects yet, and no viewer is bound. -/
structure Cluster.NoViewers (c : Cluster) : Prop where
  objects : ∀ k ns name, ViewerObject k ns name → c.objects k ns name = none
  bindings : ∀ ns name b, c.objects .roleBinding ns name = some b → ¬ b.MentionsViewer

/-- Every binding of a viewer is its own, and every viewer's role is the one for viewers. -/
structure ViewersOnly (c : Cluster) : Prop where
  bindings : ∀ ns name b, c.objects .roleBinding ns name = some b →
    b.MentionsViewer ∨ ViewerObject .roleBinding ns name →
    ∃ n, ns = tenantNamespace n ∧ b = viewerBindingBody (tenantNamespace n)
  roles : ∀ n b, c.objects .role (tenantNamespace n) tenantViewerRoleName = some b →
    b = viewerRoleBody

/-- What a viewer may do is to look at pods and logs of its own namespace. -/
theorem ViewersOnly.grants {c : Cluster} (h : ViewersOnly c) {n : ℕ}
    {group resource verb ns : String}
    (hgrants : c.Grants (viewer n) group resource verb ns) :
    ns = tenantNamespace n ∧ group = "" ∧ resource ∈ ["pods", "pods/log"] ∧
      verb ∈ ["get", "list"] := by
  obtain ⟨name, binding, role, hbinding, hsubject, -, hrole, rule, hrule, hcovers⟩ := hgrants
  obtain ⟨n', rfl, rfl⟩ := h.bindings ns name binding hbinding (.inl ⟨n, hsubject⟩)
  have hviewer : viewer n = viewer n' := List.mem_singleton.mp hsubject
  have hns : tenantNamespace n = tenantNamespace n' := congrArg RbacSubject.ns hviewer
  obtain rfl := h.roles n' role hrole
  obtain rfl := List.mem_singleton.mp hrule
  obtain ⟨hgroup, hresource, hverb⟩ := hcovers
  refine ⟨hns.symm, ?_, ?_, ?_⟩
  · simpa using hgroup
  · simpa using hresource
  · simpa using hverb

/-- With the binding and the role in place, a viewer may do all of that. -/
theorem grants_of_objects {c : Cluster} (h : ViewersOnly c) {n : ℕ}
    (hbinding : c.has .roleBinding (tenantNamespace n) "tenant-viewer-binding")
    (hrole : c.has .role (tenantNamespace n) tenantViewerRoleName) {resource verb : String}
    (hresource : resource ∈ ["pods", "pods/log"]) (hverb : verb ∈ ["get", "list"]) :
    c.Grants (viewer n) "" resource verb (tenantNamespace n) := by
  obtain ⟨binding, hb⟩ := Option.isSome_iff_exists.mp hbinding
  obtain ⟨role, hr⟩ := Option.isSome_iff_exists.mp hrole
  obtain ⟨n', hns, rfl⟩ := h.bindings _ _ binding hb (.inr (.binding n))
  obtain rfl := tenantNamespace_injective hns
  obtain rfl := h.roles n role hr
  exact ⟨_, _, _, hb, List.mem_singleton_self _, rfl, hr, _, List.mem_singleton_self _,
    .inl (List.mem_singleton_self _), .inl hresource, .inl hverb⟩

/-! ## Downloads -/

/-- What a request has seen when it has the document: the objects, and the token in it. -/
structure Downloaded (cfg : Settings) (n : ℕ) (document : String) (τ : History) : Prop where
  account : ∃ x ∈ τ,
    Established .serviceAccount (tenantNamespace n) tenantViewerServiceAccountName x
  role : ∃ x ∈ τ, Established .role (tenantNamespace n) tenantViewerRoleName x
  binding : ∃ x ∈ τ, Established .roleBinding (tenantNamespace n) "tenant-viewer-binding" x
  token : ∃ token caData, (⟨.k8s (.createToken (tenantNamespace n) tenantViewerServiceAccountName
      3600), .ok token⟩ : Exchange Call Call.Result) ∈ τ ∧
    document = kubeconfig (tenantNamespace n) cfg.clusterHost caData token

section Service

variable {cfg : Settings} {t : ℕ} {τ : History}

theorem getTenantKubeconfigService_downloads :
    (getTenantKubeconfigService cfg t).Along (serving cfg t) (Downloaded cfg t)
      (fun _ _ => True) τ := by
  refine ⟨trivial, fun r hr => ?_⟩
  cases r with
  | none => trivial
  | some tenant =>
      have hns : tenant.k8sNamespace = tenantNamespace t := hr
      show (ensureTenantNamespace cfg tenant.k8sNamespace >>= _).Along _ _ _ _
      rw [hns]
      refine ((along_of_servable (I := fun _ => True) (fun _ _ _ _ => trivial)
        ((ensureTenantNamespace_calls cfg _).mono (fun _ => servable_setup) (fun _ h => h))
        trivial).mono (fun _ _ h => h) (fun _ _ _ => trivial)).bind (fun _ τ1 _ => ?_)
      refine Prog.Along.bind (M := fun _ τ' =>
        (∃ x ∈ τ',
          Established .serviceAccount (tenantNamespace t) tenantViewerServiceAccountName x) ∧
        (∃ x ∈ τ', Established .role (tenantNamespace t) tenantViewerRoleName x) ∧
        ∃ x ∈ τ', Established .roleBinding (tenantNamespace t) "tenant-viewer-binding" x) ?_ ?_
      · have hmay : ∀ {τ : History} {e : K8sCall}, TenantCall cfg t τ e →
            (serving cfg t).may τ (.k8s e) := fun h => h
        have hseen : ∀ {k ns name} {x : Exchange Call Call.Result} {τ : History},
            (∃ y ∈ τ, Established k ns name y) → ∃ y ∈ x :: τ, Established k ns name y :=
          fun h => h.imp (fun _ hy => ⟨List.mem_cons_of_mem _ hy.1, hy.2⟩)
        refine ((createIfAbsent_establishes (I := fun _ => True) (hmay (.viewer .account))
          (fun _ => trivial)).mono (fun _ _ h => h.2) (fun _ _ h => h)).bind
            (fun _ τ2 haccount => ?_)
        refine ((createIfAbsent_establishes (I := fun τ' => ∃ x ∈ τ', Established .serviceAccount
          (tenantNamespace t) tenantViewerServiceAccountName x) (hmay (.viewer .role))
          (fun _ => hseen haccount)).mono (fun _ _ h => h) (fun _ _ _ => trivial)).bind ?_
        rintro _ τ3 ⟨haccount, hrole⟩
        refine (createIfAbsent_establishes (I := fun τ' => (∃ x ∈ τ', Established .serviceAccount
          (tenantNamespace t) tenantViewerServiceAccountName x) ∧
          ∃ x ∈ τ', Established .role (tenantNamespace t) tenantViewerRoleName x)
          (hmay (.viewer .binding)) (fun _ => ⟨hseen haccount, hseen hrole⟩)).mono ?_
          (fun _ _ _ => trivial)
        exact fun _ _ h => ⟨h.1.1, h.1.2, h.2⟩
      · rintro _ τ2 ⟨haccount, hrole, hbinding⟩
        have hseen : ∀ {k ns name} {x y : Exchange Call Call.Result},
            (∃ z ∈ τ2, Established k ns name z) → ∃ z ∈ x :: y :: τ2, Established k ns name z :=
          fun h => h.imp (fun _ hz =>
            ⟨List.mem_cons_of_mem _ (List.mem_cons_of_mem _ hz.1), hz.2⟩)
        refine ⟨.viewer .token, fun r _ => ?_⟩
        cases r with
        | error e => trivial
        | ok token =>
            refine ⟨trivial, fun r _ => ?_⟩
            cases r with
            | error e => trivial
            | ok caData =>
                exact ⟨hseen haccount, hseen hrole, hseen hbinding, token, caData,
                  List.mem_cons_of_mem _ List.mem_cons_self, rfl⟩

end Service

/-! ## Runs -/

section Reachable

variable {ι : Type} [DecidableEq ι] {cfg : Settings} {adminSecretKey : String}
  {requests : ι → Request} {cluster : Cluster} {env : World → World → Prop}
  {c : Config ι Call Call.Result PyException World}

theorem viewersOnly_reach (henv : LeavesViewers env) (hcluster : cluster.NoViewers)
    (hc : Reach (platform env) (platformStart cfg adminSecretKey requests cluster) c) :
    ViewersOnly c.trail.state.cluster := by
  constructor
  · intro ns name b hget hP
    rcases authored_reach (k := .roleBinding) (P := fun ns name (b : RoleBindingBody) =>
        b.MentionsViewer ∨ ViewerObject .roleBinding ns name) (by decide) henv.db
        (fun w w' hw ns name b hP hget => hP.elim (henv.bindings w w' hw ns name b hget)
          (fun hobj => (henv.objects w w' hw _ _ _ hobj).symm.trans hget)) hc ns name b hP hget with
      hinit | ⟨t, τ, hcall⟩
    · rcases hP with hmentions | hobj
      · exact absurd hmentions (hcluster.bindings ns name b hinit)
      · rw [hcluster.objects _ _ _ hobj] at hinit
        cases hinit
    · cases hcall with
      | setup h => cases h
      | viewer h =>
          cases h
          exact ⟨t, rfl, rfl⟩
  · intro n b hget
    have hobj := ViewerObject.role n
    generalize tenantNamespace n = ns at hget hobj
    rcases authored_reach (P := fun ns name _ => ViewerObject .role ns name) (by decide) henv.db
        (fun w w' hw ns name b hobj hget =>
          (henv.objects w w' hw _ _ _ hobj).symm.trans hget) hc _ _
        b hobj hget with hinit | ⟨t, τ, hcall⟩
    · rw [hcluster.objects _ _ _ hobj] at hinit
      cases hinit
    · cases hcall with
      | setup h => cases h
      | viewer h =>
          cases h
          rfl

/-- The history of a download, after its authentication. -/
theorem downloaded_of_returned (henv : KeepsDatabase env)
    (hc : Reach (platform env) (platformStart cfg adminSecretKey requests cluster) c) {i : ι}
    {n : ℕ} {xApiKey document : String} (hrequest : requests i = .tenant n xApiKey .getKubeconfig)
    (hdoc : (getTenantKubeconfigService cfg n).returned (own i c.trail.events).dropLast =
      some document) :
    Downloaded cfg n document (own i c.trail.events) := by
  have hlegal := platform_scoped henv hc i
  rw [hrequest] at hlegal
  rcases List.eq_nil_or_concat (own i c.trail.events) with hnil | ⟨τ, x, hown⟩
  · rw [hnil] at hdoc
    cases hdoc
  · rw [hown] at hdoc hlegal ⊢
    rw [List.concat_eq_append] at hdoc hlegal ⊢
    rw [List.dropLast_concat] at hdoc
    exact getTenantKubeconfigService_downloads.returned hdoc hlegal

/-- In every reachable state a viewer may do no more than it is promised, and once its
kubeconfig has been returned it may do all of that with the token of the current context. -/
theorem viewers_may_only_look (henv : LeavesViewers env) (hcluster : cluster.NoViewers)
    (hc : Reach (platform env) (platformStart cfg adminSecretKey requests cluster) c) :
    (∀ n group resource verb ns,
      c.trail.state.cluster.Grants (viewer n) group resource verb ns →
      ns = tenantNamespace n ∧ group = "" ∧ resource ∈ ["pods", "pods/log"] ∧
        verb ∈ ["get", "list"]) ∧
    ∀ i n xApiKey document, requests i = .tenant n xApiKey .getKubeconfig →
      (getTenantKubeconfigService cfg n).returned (own i c.trail.events).dropLast =
        some document →
      (∀ resource ∈ ["pods", "pods/log"], ∀ verb ∈ ["get", "list"],
        c.trail.state.cluster.Grants (viewer n) "" resource verb (tenantNamespace n)) ∧
      ∃ (d : KubeConfig) (token : String), document = d.render ∧
        d.Opens (tenantNamespace n) token ∧
        (⟨.k8s (.createToken (viewer n).ns (viewer n).name 3600), .ok token⟩ :
          Exchange Call Call.Result) ∈ own i c.trail.events := by
  have hviewers := viewersOnly_reach henv hcluster hc
  refine ⟨fun n group resource verb ns h => hviewers.grants h, ?_⟩
  intro i n xApiKey document hrequest hdoc
  obtain ⟨-, hrole, hbinding, token, caData, htoken, rfl⟩ :=
    downloaded_of_returned henv.db hc hrequest hdoc
  have hkeeps : ∀ {k ns name}, ViewerObject k ns name → ∀ w w', env w w' →
      w.cluster.has k ns name → w'.cluster.has k ns name := by
    intro k ns name hobj w w' hw hhas
    rw [Cluster.has, henv.objects w w' hw k ns name hobj]
    exact hhas
  have hrole := established_reach (hkeeps (.role n)) hc i hrole
  have hbinding := established_reach (hkeeps (.binding n)) hc i hbinding
  refine ⟨fun resource hresource verb hverb => grants_of_objects hviewers hbinding hrole hresource
    hverb, _, token, kubeconfig_eq_render _ _ _ _, tenantKubeconfig_opens _ _ _ _, htoken⟩

end Reachable

/-- A tenant is created and downloads its kubeconfig. -/
def downloadRequests : ℕ → Request
  | 0 => sampleRequests 0
  | 1 => .tenant 1 sampleKey .getKubeconfig
  | _ => .admin "admin" .getAllTenants

def downloadRun : Config ℕ Call Call.Result PyException World :=
  drive handle
    ([(0, .ok), (0, { token := "AAAAAAAAAAAAAAAAAAAAAAAAAAAAAAAAAAAAAAAAAAA" }), (0, .ok)] ++
      List.replicate 12 (1, .ok) ++ [(1, { token := "token" }), (1, { token := "Q0E=" })])
    (platformStart sampleSettings "admin" downloadRequests .empty)

theorem viewers_may_only_look_downloaded :
    downloadRun.trail.state.cluster.Grants (viewer 1) "" "pods/log" "get" (tenantNamespace 1) :=
  ((viewers_may_only_look ⟨fun _ _ (h : False) => h.elim, fun _ _ (h : False) => h.elim,
      fun _ _ (h : False) => h.elim⟩ ⟨fun _ _ _ _ => rfl, fun _ _ _ h => by cases h⟩
      (Reach.drive _ .init)).2 1 1 sampleKey
    (kubeconfig (tenantNamespace 1) "https://cluster" "Q0E=" "token") rfl
    (show (getTenantKubeconfigService sampleSettings 1).returned
      (own 1 downloadRun.trail.events).dropLast = _ by decide +kernel)).1
    "pods/log" (by decide) "get" (by decide)

end TenantPlatform
