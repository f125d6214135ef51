import TenantPlatform.Model.Platform
import TenantPlatform.Model.Settings
import Mathlib.Data.List.Sort

/-! # Signed webhook delivery -/

namespace TenantPlatform

open Effect

/-! ## `json.dumps(payload, sort_keys=True)` -/

def hex4 (n : ℕ) : List Char :=
  [hexDigit (n / 4096 % 16), hexDigit (n / 256 % 16), hexDigit (n / 16 % 16), hexDigit (n % 16)]

/-- Everything but printable ASCII is escaped, beyond the 16-bit range as a surrogate pair. -/
def jsonChar (c : Char) : List Char :=
  if c = '"' then ['\\', '"']
  else if c = '\\' then ['\\', '\\']
  else if c = '\n' then ['\\', 'n']
  else if c = '\r' then ['\\', 'r']
  else if c = '\t' then ['\\', 't']
  else if c = '\x08' then ['\\', 'b']
  else if c = '\x0c' then ['\\', 'f']
  else if ' ' ≤ c ∧ c ≤ '~' then [c]
  else if c.toNat < 65536 then ['\\', 'u'] ++ hex4 c.toNat
  else
    let v := c.toNat - 65536
    ['\\', 'u'] ++ hex4 (55296 + v / 1024) ++ ['\\', 'u'] ++ hex4 (56320 + v % 1024)

def jsonText (s : String) : List Char := ['"'] ++ s.toList.flatMap jsonChar ++ ['"']

def JsonScalar.dumps : JsonScalar → List Char
  | .null => "null".toList
  | .int n => (toString n).toList
  | .str s => jsonText s

def jsonDumps (payload : Payload) : String :=
  let entries := (payload.insertionSort (fun a b => a.1 ≤ b.1)).map
    (fun e => jsonText e.1 ++ ": ".toList ++ e.2.dumps)
  .ofList (['\x7b'] ++ List.intercalate ", ".toList entries ++ ['\x7d'])

/-! ## Delivery -/

def signPayload (cfg : Settings) (signingSecret : String) (timestamp : ℕ) (rawBody : List UInt8) :
    String :=
  .ofList (hexdigest cfg.hmacSha256 (utf8 signingSecret.toList)
    (utf8 (toString timestamp ++ ".").toList ++ rawBody))

/-- `log.error(event, *args, **kw)` calls its message `event`, so an `event` keyword beside
the message is a second value for one argument. -/
def multipleEvents : PyException := .other "meth() got multiple values for argument 'event'"

/-- One POST, and the row that records what became of it. -/
def deliver (cfg : Settings) (tenantId : ℕ) (event : String) (payload : Payload)
    (registrationId : ℕ) (registration : WebhookRegistration) : Py WebhookDelivery := do
  let rawBody := jsonDumps payload
  let timestamp ← time
  let signature := signPayload cfg registration.signingSecret timestamp (utf8 rawBody.toList)
  let delivery : WebhookDelivery :=
    ⟨registrationId, tenantId, event, payload, signature, timestamp, .failed, none, none⟩
  tryCatch
    (do
      let code ← post registration.callbackUrl rawBody
        [("Content-Type", "application/json"), ("X-Platform-Signature", "sha256=" ++ signature),
          ("X-Platform-Timestamp", toString timestamp)]
      if 200 ≤ code ∧ code < 300 then
        return { delivery with httpStatusCode := some code, status := .success }
      else
        return { delivery with
          httpStatusCode := some code
          errorMessage := some ("Webhook returned non-2xx status code: " ++ toString code) })
    -- the error message is set, and then the log line raises in its turn
    (fun _ => throw multipleEvents)

def deliverAll (cfg : Settings) (tenantId : ℕ) (event : String) (payload : Payload) :
    List (ℕ × WebhookRegistration) → Py (List WebhookDelivery)
  | [] => return []
  | (id, registration) :: rest => do
      let delivery ← deliver cfg tenantId event payload id registration
      let deliveries ← deliverAll cfg tenantId event payload rest
      return delivery :: deliveries

def dispatchTenantWebhooks (cfg : Settings) (tenantId : ℕ) (event : String) (payload : Payload) :
    Py Unit := do
  mark (.dispatchTenantWebhooks tenantId event payload)
  let registrations ← selectActiveWebhookRegistrations tenantId
  let deliveries ← deliverAll cfg tenantId event payload registrations
  if registrations ≠ [] then commitWebhookDeliveries deliveries

end TenantPlatform
