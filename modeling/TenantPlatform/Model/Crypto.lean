import Mathlib.Tactic.Common

/-! # Keyed hashes

HMAC-SHA256 itself is a parameter wherever it is used: a function of key and message
bytes. What the code adds to it, the encodings, is defined here. -/

namespace TenantPlatform

/-- `str.encode()`, and Go's conversion of a string to bytes. -/
def utf8 (s : List Char) : List UInt8 := s.flatMap String.utf8EncodeChar

def hexDigit (n : ℕ) : Char :=
  if n < 10 then Char.ofNat ('0'.toNat + n) else Char.ofNat ('a'.toNat + (n - 10))

/-- Two lower-case digits a byte. -/
def hexEncode (bytes : List UInt8) : List Char :=
  bytes.flatMap (fun b => [hexDigit (b.toNat / 16), hexDigit (b.toNat % 16)])

/-- `hmac.new(key, message, sha256).hexdigest()`. -/
def hexdigest (hmac : List UInt8 → List UInt8 → List UInt8) (key message : List UInt8) :
    List Char :=
  hexEncode (hmac key message)

end TenantPlatform
