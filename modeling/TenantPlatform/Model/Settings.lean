import TenantPlatform.Model.Crypto

/-! # Configuration and names -/

namespace TenantPlatform

/-- `shared/config.py`, the client configuration of the cluster, and the hash function. -/
structure Settings where
  imageRegistry : String
  /-- the text `_docker_config_json()` builds from the registry settings -/
  dockerConfigJson : String
  platformClusterBuilderName : String
  apiKeySecret : String
  clusterHost : String
  hmacSha256 : List UInt8 → List UInt8 → List UInt8

/-- `hash_api_key` -/
def Settings.hashApiKey (cfg : Settings) (apiKey : String) : String :=
  .ofList (hexdigest cfg.hmacSha256 (utf8 cfg.apiKeySecret.toList) (utf8 apiKey.toList))

/-- The namespace a tenant's id determines. -/
def tenantNamespace (tenantId : ℕ) : String := "tenant-" ++ toString tenantId

theorem tenantNamespace_injective : Function.Injective tenantNamespace := by
  intro a b h
  have hlist : Nat.toDigits 10 a = Nat.toDigits 10 b := by
    have h := congrArg String.toList h
    simpa [tenantNamespace] using h
  rw [← Nat.ofDigitChars_ten_toDigits (n := a), hlist, Nat.ofDigitChars_ten_toDigits]

/-! ## A sample configuration -/

def sampleKey : String := "mtp_AAAAAAAAAAAAAAAAAAAAAAAAAAAAAAAAAAAAAAAAAAA"

/-- HMAC-SHA256 of the one key of the sample runs under their secret. -/
def sampleHmac (key message : List UInt8) : List UInt8 :=
  if key = utf8 "secret".toList ∧
      message = utf8 "mtp_AAAAAAAAAAAAAAAAAAAAAAAAAAAAAAAAAAAAAAAAAAA".toList then
    [250, 100, 46, 87, 170, 243, 205, 192, 104, 26, 146, 46, 122, 93, 200, 229, 101, 12, 230, 96,
      6, 166, 134, 98, 196, 64, 150, 89, 244, 213, 250, 145]
  else []

def sampleSettings : Settings where
  imageRegistry := "registry.example/tenants"
  dockerConfigJson := "\x7b\x7d"
  platformClusterBuilderName := "platform-builder"
  apiKeySecret := "secret"
  clusterHost := "https://cluster"
  hmacSha256 := sampleHmac

end TenantPlatform
