import TenantPlatform.Model.Services

/-! # The API calls behind each function of `k8s_resources`

A function's calls are listed once, whatever they are answered. -/

namespace TenantPlatform

open Effect

variable {allowed : Call → Prop}

theorem createIfAbsent_calls {k : Kind} {ns name : String} {b : Body k}
    (h : allowed (.k8s (.create k ns name b))) :
    (createIfAbsent k ns name b).Uses allowed (fun _ => True) := by
  refine Prog.Uses.tryCatch ⟨h, fun r => by cases r <;> trivial⟩ (fun e => ?_)
  show (if _ then _ else _ : Py Unit).Uses _ _
  split
  · trivial
  · trivial

theorem clusterDnsIp_calls (h : allowed (.k8s (.readService "kube-system" "kube-dns"))) :
    clusterDnsIp.Uses allowed (fun _ => True) := by
  refine Prog.Uses.tryCatch ⟨h, fun r => by cases r <;> trivial⟩ (fun e => ?_)
  show (if _ then _ else _ : Py (Option String)).Uses _ _
  split
  · trivial
  · trivial

/-- What `ensureTenantNamespace` calls. -/
inductive SetupCall (cfg : Settings) (ns : String) : Call → Prop where
  | root : SetupCall cfg ns (.k8s (.create .ns "" ns namespaceBody))
  | quota : SetupCall cfg ns (.k8s (.create .resourceQuota ns "tenant-quota" quotaBody))
  | limits : SetupCall cfg ns (.k8s (.create .limitRange ns "tenant-limit-range" limitRangeBody))
  | dns : SetupCall cfg ns (.k8s (.readService "kube-system" "kube-dns"))
  | policy (dnsIp : Option String) : SetupCall cfg ns
      (.k8s (.create .networkPolicy ns "tenant-default-deny" (networkPolicyBody dnsIp)))
  | secret : SetupCall cfg ns (.k8s (.create .secret ns registrySecretName (secretBody cfg)))
  | account : SetupCall cfg ns
      (.k8s (.create .serviceAccount ns tenantServiceAccountName serviceAccountBody))

theorem ensureTenantNamespace_calls (cfg : Settings) (ns : String) :
    (ensureTenantNamespace cfg ns).Uses (SetupCall cfg ns) (fun _ => True) := by
  refine (createIfAbsent_calls .root).bind (fun _ _ => ?_)
  refine (createIfAbsent_calls .quota).bind (fun _ _ => ?_)
  refine (createIfAbsent_calls .limits).bind (fun _ _ => ?_)
  refine (clusterDnsIp_calls .dns).bind (fun dnsIp _ => ?_)
  refine (createIfAbsent_calls (.policy dnsIp)).bind (fun _ _ => ?_)
  refine (createIfAbsent_calls .secret).bind (fun _ _ => ?_)
  exact createIfAbsent_calls .account

/-- What a kubeconfig takes beside the set-up of the namespace. -/
inductive ViewerCall (ns : String) : Call → Prop where
  | account : ViewerCall ns
      (.k8s (.create .serviceAccount ns tenantViewerServiceAccountName ⟨[], []⟩))
  | role : ViewerCall ns (.k8s (.create .role ns tenantViewerRoleName viewerRoleBody))
  | binding : ViewerCall ns
      (.k8s (.create .roleBinding ns "tenant-viewer-binding" (viewerBindingBody ns)))
  | token : ViewerCall ns (.k8s (.createToken ns tenantViewerServiceAccountName 3600))
  | caCert : ViewerCall ns (.sys .readCaCert)

theorem ensureTenantRbac_calls (ns : String) :
    (ensureTenantRbac ns).Uses (ViewerCall ns) (fun _ => True) := by
  refine (createIfAbsent_calls .account).bind (fun _ _ => ?_)
  refine (createIfAbsent_calls .role).bind (fun _ _ => ?_)
  exact createIfAbsent_calls .binding

theorem mintTenantKubeconfig_calls (cfg : Settings) (ns : String) :
    (mintTenantKubeconfig cfg ns).Uses (ViewerCall ns) (fun _ => True) := by
  refine Prog.Uses.bind (M := fun _ => True) ⟨.token, fun r => by cases r <;> trivial⟩
    (fun _ _ => ?_)
  exact Prog.Uses.bind (M := fun _ => True) ⟨.caCert, fun r => by cases r <;> trivial⟩
    (fun _ _ => trivial)

theorem createTenantDeployment_calls {ns name : String} {image : Option String} {replicaCount : ℕ}
    (hcreate : allowed (.k8s (.create .deployment ns name
      (deploymentBody image replicaCount name))))
    (hpatch : allowed (.k8s (.patchDeployment ns name (deploymentPatch image replicaCount))))
    (hservice : allowed (.k8s (.create .service ns name (serviceBody name)))) :
    (createTenantDeployment ns image replicaCount name).Uses allowed (fun _ => True) := by
  refine Prog.Uses.bind (M := fun _ => True) ?_ (fun _ _ => createIfAbsent_calls hservice)
  refine Prog.Uses.tryCatch ⟨hcreate, fun r => by cases r <;> trivial⟩ (fun e => ?_)
  show (if _ then _ else _ : Py Unit).Uses _ _
  split
  · exact ⟨hpatch, fun r => by cases r <;> trivial⟩
  · trivial

theorem getBuildStatus_calls {ns imageName : String}
    (h : allowed (.k8s (.readImage ns imageName))) :
    (getBuildStatus ns imageName).Uses allowed (fun _ => True) := by
  refine Prog.Uses.bind (M := fun _ => True) ?_ (fun image _ => by cases image <;> trivial)
  refine Prog.Uses.tryCatch ⟨h, fun r => by cases r <;> trivial⟩ (fun e => ?_)
  show (if _ then _ else _ : Py (Option ImageResource)).Uses _ _
  split
  · trivial
  · trivial

theorem getDeploymentStatus_calls {ns name : String}
    (h : allowed (.k8s (.readDeployment ns name))) :
    (getDeploymentStatus ns name).Uses allowed (fun _ => True) := by
  refine Prog.Uses.bind (M := fun _ => True) ?_
    (fun deployment _ => by cases deployment <;> trivial)
  refine Prog.Uses.tryCatch ⟨h, fun r => by cases r <;> trivial⟩ (fun e => ?_)
  show (if _ then _ else _ : Py (Option DeploymentResource)).Uses _ _
  split
  · trivial
  · trivial

end TenantPlatform
