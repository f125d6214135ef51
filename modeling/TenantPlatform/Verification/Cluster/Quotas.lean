import Mathlib.Algebra.GroupWithZero.Nat
import TenantPlatform.Model.K8sResources

/-! # What a quota admits

The largest replica count that a request may ask for is the largest one whose pods fit the
quota of the namespace. -/

namespace TenantPlatform

/-! ## Quantities -/

/-- The suffixes of a quantity, and how many billionths each stands for. -/
def quantitySuffixes : List (String × ℕ) :=
  [("n", 1), ("u", 10 ^ 3), ("m", 10 ^ 6), ("", 10 ^ 9), ("k", 10 ^ 12), ("M", 10 ^ 15),
    ("G", 10 ^ 18), ("T", 10 ^ 21), ("P", 10 ^ 24), ("E", 10 ^ 27), ("Ki", 2 ^ 10 * 10 ^ 9),
    ("Mi", 2 ^ 20 * 10 ^ 9), ("Gi", 2 ^ 30 * 10 ^ 9), ("Ti", 2 ^ 40 * 10 ^ 9),
    ("Pi", 2 ^ 50 * 10 ^ 9), ("Ei", 2 ^ 60 * 10 ^ 9)]

/-- A whole number with a suffix, in billionths. -/
def parseQuantity (text : String) : Option ℕ :=
  let digits := text.toList.takeWhile Char.isDigit
  let suffix := text.toList.dropWhile Char.isDigit
  if digits = [] then none
  else (quantitySuffixes.lookup (.ofList suffix)).map
    (fun unit => Nat.ofDigitChars 10 digits 0 * unit)

def quantityOf (amounts : List (String × String)) (name : String) : ℕ :=
  ((amounts.lookup name).bind parseQuantity).getD 0

/-! ## Quotas -/

/-- What a container takes of a resource, under the name that quotas have for it. -/
def ResourceRequirements.takes (r : ResourceRequirements) : String → ℕ
  | "requests.cpu" => quantityOf r.requests "cpu"
  | "requests.memory" => quantityOf r.requests "memory"
  | "limits.cpu" => quantityOf r.limits "cpu"
  | "limits.memory" => quantityOf r.limits "memory"
  | _ => 0

def PodSpec.takes (pod : PodSpec) (resource : String) : ℕ :=
  if resource = "pods" then 10 ^ 9
  else (pod.containers.map (fun c => c.resources.takes resource)).sum

/-- The quota has room for all replicas of the Deployment at once. -/
def ResourceQuotaBody.Fits (quota : ResourceQuotaBody) (d : DeploymentBody) : Prop :=
  ∀ resource ∈ quota.hard, ∃ hard, parseQuantity resource.2 = some hard ∧
    d.replicas.getD 1 * d.podSpec.takes resource.1 ≤ hard

/-- Eight replicas fit. -/
theorem eight_replicas_fit : ∀ resource ∈ tenantQuotaHard, ∃ hard,
    parseQuantity resource.2 = some hard ∧
      8 * (deploymentBody none 8 "").podSpec.takes resource.1 ≤ hard := by
  have hall : ∀ resource ∈ tenantQuotaHard, (parseQuantity resource.2).any (fun hard =>
      8 * (deploymentBody none 8 "").podSpec.takes resource.1 ≤ hard) = true := by decide +kernel
  intro resource hresource
  obtain ⟨hard, hhard, hle⟩ := (Option.any_eq_true _ _).mp (hall resource hresource)
  exact ⟨hard, hhard, of_decide_eq_true hle⟩

/-- The limits of CPU are what the ninth replica exceeds. -/
theorem quotaBody_fits_iff (image : Option String) (replicas : ℕ) (name : String) :
    quotaBody.Fits (deploymentBody image replicas name) ↔ replicas ≤ 8 := by
  have htakes : ∀ resource, (deploymentBody image replicas name).podSpec.takes resource =
      (deploymentBody none 8 "").podSpec.takes resource := fun _ => rfl
  constructor
  · intro h
    obtain ⟨hard, hhard, hle⟩ := h ("limits.cpu", "4") (by decide)
    have hcpu : (deploymentBody none 8 "").podSpec.takes "limits.cpu" = 500 * 10 ^ 6 := by
      decide +kernel
    have hfour : parseQuantity "4" = some (4 * 10 ^ 9) := by decide +kernel
    obtain rfl := Option.some.inj (hfour.symm.trans hhard)
    rw [htakes, hcpu] at hle
    have hle : replicas * (500 * 10 ^ 6) ≤ 4 * 10 ^ 9 := hle
    omega
  · intro h resource hresource
    obtain ⟨hard, hhard, hle⟩ := eight_replicas_fit resource hresource
    refine ⟨hard, hhard, ?_⟩
    rw [htakes]
    exact (Nat.mul_le_mul_right _ h).trans hle

end TenantPlatform
