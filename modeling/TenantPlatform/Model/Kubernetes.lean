import TenantPlatform.Model.Exceptions

/-! # The Kubernetes objects and the API the control plane calls

Objects are stored by kind, namespace and name, and the kind fixes what an object
holds. Namespaces are cluster scoped and are stored under the empty namespace. What a
controller reports about an object is kept apart from its spec. -/

namespace TenantPlatform

/-! ## Object bodies -/

inductive Kind where
  | ns
  | resourceQuota
  | limitRange
  | networkPolicy
  | secret
  | serviceAccount
  | role
  | roleBinding
  | image
  | deployment
  | service
deriving DecidableEq, Repr

structure NamespaceBody where
  labels : List (String × String)
deriving DecidableEq, Repr

structure ResourceQuotaBody where
  hard : List (String × String)
deriving DecidableEq, Repr

structure LimitRangeItem where
  type : String
  default : List (String × String)
  defaultRequest : List (String × String)
deriving DecidableEq, Repr

structure LimitRangeBody where
  limits : List LimitRangeItem
deriving DecidableEq, Repr

inductive PolicyType where
  | ingress
  | egress
deriving DecidableEq, Repr

structure NetworkPolicyPort where
  protocol : String
  port : ℕ
deriving DecidableEq, Repr

/-- The peers and ports of a rule; every peer used here is an `ipBlock`. -/
structure NetworkPolicyRule where
  cidrs : List String
  ports : List NetworkPolicyPort
deriving DecidableEq, Repr

/-- `podSelector` holds the labels to match, so the empty list selects every pod. -/
structure NetworkPolicyBody where
  podSelector : List (String × String)
  policyTypes : List PolicyType
  ingress : List NetworkPolicyRule
  egress : List NetworkPolicyRule
deriving DecidableEq, Repr

structure SecretBody where
  type : String
  stringData : List (String × String)
deriving DecidableEq, Repr

structure ServiceAccountBody where
  secrets : List String
  imagePullSecrets : List String
deriving DecidableEq, Repr

structure PolicyRule where
  apiGroups : List String
  resources : List String
  verbs : List String
deriving DecidableEq, Repr

structure RoleBody where
  rules : List PolicyRule
deriving DecidableEq, Repr

structure RbacSubject where
  kind : String
  name : String
  ns : String
deriving DecidableEq, Repr

structure RoleRef where
  apiGroup : String
  kind : String
  name : String
deriving DecidableEq, Repr

structure RoleBindingBody where
  subjects : List RbacSubject
  roleRef : RoleRef
deriving DecidableEq, Repr

structure ImageSource where
  gitUrl : String
  gitRevision : String
  subPath : Option String
deriving DecidableEq, Repr

/-- The spec of a kpack `Image`. -/
structure ImageBody where
  tag : String
  serviceAccountName : String
  builderName : String
  builderKind : String
  source : ImageSource
deriving DecidableEq, Repr

structure SecurityContext where
  runAsNonRoot : Bool
  allowPrivilegeEscalation : Bool
  dropCapabilities : List String
  seccompProfile : String
deriving DecidableEq, Repr

structure PodSecurityContext where
  runAsNonRoot : Bool
  seccompProfile : String
deriving DecidableEq, Repr

structure ResourceRequirements where
  requests : List (String × String)
  limits : List (String × String)
deriving DecidableEq, Repr

structure Container where
  name : String
  image : Option String
  ports : List ℕ
  securityContext : SecurityContext
  resources : ResourceRequirements
deriving DecidableEq, Repr

structure PodSpec where
  containers : List Container
  serviceAccountName : String
  automountServiceAccountToken : Bool
  securityContext : PodSecurityContext
deriving DecidableEq, Repr

structure DeploymentBody where
  replicas : Option ℕ
  selector : List (String × String)
  templateLabels : List (String × String)
  podSpec : PodSpec
deriving DecidableEq, Repr

structure ServicePort where
  port : ℕ
  targetPort : ℕ
deriving DecidableEq, Repr

structure ServiceBody where
  selector : List (String × String)
  ports : List ServicePort
deriving DecidableEq, Repr

@[reducible] def Body : Kind → Type
  | .ns => NamespaceBody
  | .resourceQuota => ResourceQuotaBody
  | .limitRange => LimitRangeBody
  | .networkPolicy => NetworkPolicyBody
  | .secret => SecretBody
  | .serviceAccount => ServiceAccountBody
  | .role => RoleBody
  | .roleBinding => RoleBindingBody
  | .image => ImageBody
  | .deployment => DeploymentBody
  | .service => ServiceBody

instance : (k : Kind) → DecidableEq (Body k)
  | .ns => inferInstanceAs (DecidableEq NamespaceBody)
  | .resourceQuota => inferInstanceAs (DecidableEq ResourceQuotaBody)
  | .limitRange => inferInstanceAs (DecidableEq LimitRangeBody)
  | .networkPolicy => inferInstanceAs (DecidableEq NetworkPolicyBody)
  | .secret => inferInstanceAs (DecidableEq SecretBody)
  | .serviceAccount => inferInstanceAs (DecidableEq ServiceAccountBody)
  | .role => inferInstanceAs (DecidableEq RoleBody)
  | .roleBinding => inferInstanceAs (DecidableEq RoleBindingBody)
  | .image => inferInstanceAs (DecidableEq ImageBody)
  | .deployment => inferInstanceAs (DecidableEq DeploymentBody)
  | .service => inferInstanceAs (DecidableEq ServiceBody)

/-! ## What controllers report -/

/-- A status condition. Fields may be absent. -/
structure Condition where
  type : Option String
  status : Option String
  message : Option String
deriving DecidableEq, Repr

structure ImageStatus where
  conditions : Option (List Condition)
  latestImage : Option String
deriving DecidableEq, Repr

structure Pod where
  image : Option String
  ready : Bool
deriving DecidableEq, Repr

/-- The rollout of a Deployment. `observed` is the spec of generation
`observedGeneration`, which the other status fields are about. -/
structure Rollout where
  generation : ℕ
  observedGeneration : ℕ
  observed : Option DeploymentBody
  readyReplicas : Option ℕ
  conditions : Option (List Condition)
  pods : List Pod
deriving DecidableEq, Repr

def Rollout.new : Rollout := ⟨1, 0, none, none, none, []⟩

/-- The image a Deployment runs: that of its container `app`. -/
def DeploymentBody.image (d : DeploymentBody) : Option String :=
  (d.podSpec.containers.find? (fun c => c.name = "app")).bind Container.image

structure ContainerPatch where
  name : String
  image : Option String
deriving DecidableEq, Repr

/-- `{"spec": {"replicas": .., "template": {"spec": {"containers": [..]}}}}` -/
structure DeploymentPatch where
  replicas : ℕ
  containers : List ContainerPatch
deriving DecidableEq, Repr

/-- A container that a patch adds has the fields of the patch, and defaults. -/
def ContainerPatch.container (patch : ContainerPatch) : Container where
  name := patch.name
  image := patch.image
  ports := []
  securityContext := ⟨false, true, [], ""⟩
  resources := ⟨[], []⟩

/-- Strategic merge: containers are matched by name, and of those that match only the patched
fields change. The others are added. -/
def DeploymentPatch.apply (p : DeploymentPatch) (d : DeploymentBody) : DeploymentBody :=
  { d with
    replicas := some p.replicas
    podSpec :=
      { d.podSpec with
        containers :=
          d.podSpec.containers.map (fun c =>
            match p.containers.find? (fun patch => patch.name = c.name) with
            | some patch => { c with image := patch.image }
            | none => c) ++
          (p.containers.filter (fun patch =>
            d.podSpec.containers.all (fun c => patch.name ≠ c.name))).map
              ContainerPatch.container } }

/-! ## The store -/

structure Cluster where
  objects : (k : Kind) → String → String → Option (Body k)
  clusterIp : String → String → Option String
  imageStatus : String → String → Option ImageStatus
  rollout : String → String → Rollout

namespace Cluster

def empty : Cluster := ⟨fun _ _ _ => none, fun _ _ => none, fun _ _ => none, fun _ _ => .new⟩

def has (c : Cluster) (k : Kind) (ns name : String) : Prop := (c.objects k ns name).isSome

instance (c : Cluster) (k : Kind) (ns name : String) : Decidable (c.has k ns name) :=
  inferInstanceAs (Decidable (_ = true))

/-- Stores an object. A new Image or Deployment has no status yet. -/
def put (c : Cluster) (k : Kind) (ns name : String) (b : Body k) : Cluster where
  objects k' ns' name' :=
    if h : k' = k then
      if ns' = ns ∧ name' = name then some (h ▸ b) else c.objects k' ns' name'
    else c.objects k' ns' name'
  clusterIp := c.clusterIp
  imageStatus ns' name' :=
    if k = .image ∧ ns' = ns ∧ name' = name then none else c.imageStatus ns' name'
  rollout ns' name' :=
    if k = .deployment ∧ ns' = ns ∧ name' = name then .new else c.rollout ns' name'

/-- Replaces the spec of an existing Deployment; a changed spec is a new generation. -/
def setSpec (c : Cluster) (ns name : String) (old new : DeploymentBody) : Cluster where
  objects := (c.put .deployment ns name new).objects
  clusterIp := c.clusterIp
  imageStatus := c.imageStatus
  rollout ns' name' :=
    if ns' = ns ∧ name' = name ∧ new ≠ old then
      { c.rollout ns' name' with generation := (c.rollout ns' name').generation + 1 }
    else c.rollout ns' name'

/-- Objects other than namespaces can only be created in a namespace that exists. -/
def admits (c : Cluster) (k : Kind) (ns : String) : Prop :=
  k = .ns ∨ c.has .ns "" ns

instance (c : Cluster) (k : Kind) (ns : String) : Decidable (c.admits k ns) :=
  inferInstanceAs (Decidable (_ ∨ _))

end Cluster

/-! ## The API -/

/-- What `custom_objects.get_namespaced_custom_object` returns of an Image. -/
structure ImageResource where
  body : ImageBody
  status : Option ImageStatus
deriving DecidableEq, Repr

/-- What `apps_v1.read_namespaced_deployment` returns. -/
structure DeploymentResource where
  body : DeploymentBody
  status : Rollout
deriving DecidableEq, Repr

inductive K8sCall where
  | create (k : Kind) (ns name : String) (body : Body k)
  | patchDeployment (ns name : String) (patch : DeploymentPatch)
  | readImage (ns name : String)
  | readDeployment (ns name : String)
  | readService (ns name : String)
  | createToken (ns serviceAccount : String) (expirationSeconds : ℕ)
deriving DecidableEq

@[reducible] def K8sCall.Result : K8sCall → Type
  | .create .. => Except PyException Unit
  | .patchDeployment .. => Except PyException Unit
  | .readImage .. => Except PyException ImageResource
  | .readDeployment .. => Except PyException DeploymentResource
  | .readService .. => Except PyException (Option String)
  | .createToken .. => Except PyException String

/-- A failed call: the exception the client sees, and whether the server had already
carried the call out. -/
structure Fault where
  error : PyException
  applied : Bool
deriving DecidableEq, Repr

/-- A create call. It answers 409 exactly when the object exists; every other failure
can happen at any time. -/
def Cluster.create (c : Cluster) (fault : Option Fault) (k : Kind) (ns name : String)
    (b : Body k) : Except PyException Unit × Cluster :=
  if c.has k ns name then (.error (fault.elim conflict Fault.error), c)
  else
    match fault.filter (fun f => !f.error.isConflict) with
    | some f => (.error f.error, if f.applied ∧ c.admits k ns then c.put k ns name b else c)
    | none => if c.admits k ns then (.ok (), c.put k ns name b) else (.error notFound, c)

def Cluster.patchDeployment (c : Cluster) (fault : Option Fault) (ns name : String)
    (p : DeploymentPatch) : Except PyException Unit × Cluster :=
  match c.objects .deployment ns name with
  | none => (.error (fault.elim notFound Fault.error), c)
  | some d =>
      match fault with
      | some f => (.error f.error, if f.applied then c.setSpec ns name d (p.apply d) else c)
      | none => (.ok (), c.setSpec ns name d (p.apply d))

/-- The answer to a read: the fault if there is one, 404 when there is nothing. -/
def readAnswer {α : Type} (fault : Option Fault) (found : Option α) : Except PyException α :=
  match fault with
  | some f => .error f.error
  | none => match found with
    | some a => .ok a
    | none => .error notFound

def handleK8s (fault : Option Fault) (token : String) :
    (e : K8sCall) → Cluster → e.Result × Cluster
  | .create k ns name body, c => c.create fault k ns name body
  | .patchDeployment ns name patch, c => c.patchDeployment fault ns name patch
  | .readImage ns name, c =>
      (readAnswer fault ((c.objects .image ns name).map (fun b => ⟨b, c.imageStatus ns name⟩)), c)
  | .readDeployment ns name, c =>
      (readAnswer fault ((c.objects .deployment ns name).map (fun b => ⟨b, c.rollout ns name⟩)), c)
  | .readService ns name, c =>
      (readAnswer fault ((c.objects .service ns name).map (fun _ => c.clusterIp ns name)), c)
  | .createToken ns name _, c =>
      (readAnswer fault ((c.objects .serviceAccount ns name).map (fun _ => token)), c)

end TenantPlatform
