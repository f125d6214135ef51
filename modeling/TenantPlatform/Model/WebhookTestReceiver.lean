import Mathlib.Data.Int.Notation
import TenantPlatform.Data.Bytes
import TenantPlatform.Model.Crypto
import TenantPlatform.Model.Exceptions

/-! # `webhook_test_receiver`: what a tenant's receiver accepts

Header texts are the bytes of the header: `http.server` decodes them as ISO 8859-1, one
character for each. Of the lines printed to standard output only a failure to print is kept. -/

namespace TenantPlatform

def replayWindowSeconds : ℕ := 300

/-- `str.isdigit`: in ISO 8859-1 the superscripts ¹, ² and ³ are digits, too. -/
def strIsdigit (text : List UInt8) : Bool :=
  !text.isEmpty && text.all (fun b => Bytes.isDigit b || b = 0xB2 || b = 0xB3 || b = 0xB9)

/-- `int(text)` of a text that `isdigit` accepts; of the superscripts it makes nothing. -/
def intOf (text : List UInt8) : Except PyException ℕ :=
  if text.all Bytes.isDigit then .ok (Bytes.value text)
  else .error (.valueError "invalid literal for int() with base 10")

/-- `hmac.compare_digest` of two texts. -/
def compareDigestBytes (a b : List UInt8) : Except PyException Bool :=
  if a.all (fun x => x < 128) && b.all (fun x => x < 128) then .ok (a = b)
  else .error (.other "comparing strings with non-ASCII characters is not supported")

/-- The headers the receiver looks at, and the body it reads. -/
structure WebhookRequest where
  signature : Option (List UInt8)
  timestamp : Option (List UInt8)
  rawBody : List UInt8

def signaturePrefix : List UInt8 := Bytes.ascii "sha256=".toList

/-- What the interpreter decides: how many digits `int` reads at most, and which bodies can be
printed. A body that is a JSON text is parsed first, and the text of a string may have a lone
surrogate, which standard output does not take. -/
structure Interpreter where
  intMaxStrDigits : Option ℕ
  prints : List UInt8 → Bool

/-- `int(text)` with the interpreter's limit. -/
def Interpreter.int (py : Interpreter) (text : List UInt8) : Except PyException ℕ :=
  if text.all Bytes.isDigit && py.intMaxStrDigits.any (fun limit => limit < text.length) then
    .error (.valueError "Exceeds the limit for integer string conversion")
  else intOf text

/-- `do_POST`: the status it answers with, or an exception that ends the connection. An accepted
body is printed before the answer. -/
def Interpreter.doPost (py : Interpreter) (hmac : List UInt8 → List UInt8 → List UInt8)
    (signingSecret : String) (now : ℤ) (request : WebhookRequest) : Except PyException ℕ :=
  let sigHeader := request.signature.getD []
  let tsHeader := request.timestamp.getD []
  if ¬ signaturePrefix.isPrefixOf sigHeader then .ok 401
  else if ¬ strIsdigit tsHeader then .ok 401
  else do
    let timestamp ← py.int tsHeader
    if replayWindowSeconds < (now - (timestamp : ℤ)).natAbs then return 401
    else
      let providedSig := sigHeader.drop signaturePrefix.length
      let message := utf8 (toString timestamp ++ ".").toList ++ request.rawBody
      let expectedSig := utf8 (hexdigest hmac (utf8 signingSecret.toList) message)
      let matching ← compareDigestBytes providedSig expectedSig
      if matching then
        if py.prints request.rawBody then return 200
        else throw (.other "UnicodeEncodeError: surrogates not allowed")
      else return 401

end TenantPlatform
