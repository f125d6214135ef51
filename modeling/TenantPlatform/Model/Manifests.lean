import Mathlib.Tactic.Common

/-! # The manifests under `k8s/`

One entry for each document: its kind, namespace and name, and the labels of its pods if it
has any. The kustomization puts the proxy's base into namespace `platform`. -/

namespace TenantPlatform

structure Manifest where
  kind : String
  ns : String := ""
  name : String
  podLabels : List (String × String) := []
deriving DecidableEq, Repr

/-- `bootstrap/kpack-platform-builder.yaml` -/
def kpackPlatformBuilder : List Manifest :=
  [{ kind := "ServiceAccount", ns := "kpack", name := "platform-builder-sa" },
    { kind := "ClusterStore", name := "platform-store" },
    { kind := "ClusterStack", name := "platform-base" },
    { kind := "ClusterBuilder", name := "platform-builder" }]

/-- `bootstrap/reverse-proxy.yaml` -/
def bootstrapReverseProxy : List Manifest :=
  [{ kind := "Namespace", name := "platform" },
    { kind := "ServiceAccount", ns := "platform", name := "reverse-proxy-sa" },
    { kind := "ClusterRole", name := "reverse-proxy-endpoints-reader" },
    { kind := "ClusterRoleBinding", name := "reverse-proxy-endpoints-reader-binding" },
    { kind := "Deployment", ns := "platform", name := "reverse-proxy",
      podLabels := [("app", "reverse-proxy")] },
    { kind := "Service", ns := "platform", name := "reverse-proxy" }]

/-- `proxy/base` -/
def proxyBase : List Manifest :=
  [{ kind := "Namespace", name := "platform" },
    { kind := "ServiceAccount", ns := "platform", name := "reverse-proxy-sa" },
    { kind := "ClusterRole", name := "reverse-proxy-endpointslices-reader" },
    { kind := "ClusterRoleBinding", name := "reverse-proxy-endpointslices-reader-binding" },
    { kind := "Deployment", ns := "platform", name := "reverse-proxy",
      podLabels := [("app", "reverse-proxy")] },
    { kind := "Service", ns := "platform", name := "reverse-proxy" },
    { kind := "PodDisruptionBudget", ns := "platform", name := "reverse-proxy" }]

/-- `loadtest/backends.yaml` -/
def loadtestBackends : List Manifest :=
  [{ kind := "Namespace", name := "tenant-901" },
    { kind := "Namespace", name := "tenant-902" },
    { kind := "Deployment", ns := "tenant-901", name := "tenant-app",
      podLabels := [("app", "tenant-app")] },
    { kind := "Service", ns := "tenant-901", name := "tenant-app" },
    { kind := "Deployment", ns := "tenant-902", name := "tenant-app",
      podLabels := [("app", "tenant-app")] },
    { kind := "Service", ns := "tenant-902", name := "tenant-app" }]

def manifests : List Manifest :=
  kpackPlatformBuilder ++ bootstrapReverseProxy ++ proxyBase ++ loadtestBackends

end TenantPlatform
