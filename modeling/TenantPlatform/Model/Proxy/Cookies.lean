import Mathlib.Algebra.GroupWithZero.Nat
import TenantPlatform.Data.Bytes
import TenantPlatform.Model.Crypto

/-! # Signed cookies in the Go proxy

A Go string is a sequence of bytes. What `net/http` does with cookies follows its
documentation: cookies are split at semicolons, blanks around them and double quotes around a
value are dropped, and cookies with invalid bytes are skipped; of a request with more than 3000
cookies none is read. -/

namespace TenantPlatform

abbrev GoString := List UInt8

/-- The bytes of a string literal. -/
def bytes (s : String) : GoString := utf8 s.toList

/-! ## `cookie.go` -/

structure Signer where
  secret : GoString
  hmacSha256 : List UInt8 → List UInt8 → List UInt8

namespace Signer

def mac (s : Signer) (value : GoString) : GoString := utf8 (hexdigest s.hmacSha256 s.secret value)

def sign (s : Signer) (value : GoString) : GoString := value ++ bytes "." ++ s.mac value

def verify (s : Signer) (signed : GoString) : Option GoString :=
  match signed.cutLast 46 with
  | none => none
  | some (value, sig) => if sig = s.mac value then some value else none

end Signer

/-! ## `net/http` -/

/-- `textproto.TrimString` -/
def trimString (s : GoString) : GoString :=
  let blank (b : UInt8) : Bool := b = 32 || b = 9 || b = 10 || b = 13
  ((s.dropWhile blank).reverse.dropWhile blank).reverse

def isTokenByte (b : UInt8) : Bool :=
  Bytes.isDigit b || (65 ≤ b && b ≤ 90) || (97 ≤ b && b ≤ 122) ||
    (bytes "!#$%&'*+-.^_").contains b || b = 96 || b = 124 || b = 126

def isToken (name : GoString) : Bool := !name.isEmpty && name.all isTokenByte

def validCookieValueByte (b : UInt8) : Bool :=
  32 ≤ b && b < 127 && b ≠ 34 && b ≠ 59 && b ≠ 92

/-- `"..."` without its quotes. -/
def unquote (raw : GoString) : GoString :=
  if 1 < raw.length && raw.head? = some 34 && raw.getLast? = some 34 then raw.tail.dropLast else raw

def parseCookieValue (raw : GoString) : Option GoString :=
  if (unquote raw).all validCookieValueByte then some (unquote raw) else none

/-- One of the parts that semicolons separate. -/
def readCookie (filter part : GoString) : Option GoString :=
  let part := trimString part
  if part = [] then none
  else
    let (name, value) := part.cut 61
    let name := trimString name
    if isToken name && name = filter then parseCookieValue value else none

def defaultCookieMaxNum : ℕ := 3000

/-- `readCookies` with a filter: the values of the cookies of this name. A request with too many
cookies, counted by their semicolons, has none. -/
def readCookies (lines : List GoString) (filter : GoString) : List GoString :=
  if defaultCookieMaxNum < (lines.map (fun line => line.count 59 + 1)).sum then []
  else lines.flatMap (fun line => ((trimString line).splitOn 59).filterMap (readCookie filter))

def validCookiePathByte (b : UInt8) : Bool := 32 ≤ b && b < 127 && b ≠ 59

def sanitizeCookieValue (value : GoString) : GoString :=
  let value := value.filter validCookieValueByte
  if value.contains 32 || value.contains 44 then bytes "\"" ++ value ++ bytes "\"" else value

/-- `String` of a cookie with `HttpOnly` and `SameSiteLaxMode`. -/
def cookieString (name value path : GoString) : GoString :=
  if isToken name then
    name ++ bytes "=" ++ sanitizeCookieValue value ++
      (if path = [] then [] else bytes "; Path=" ++ path.filter validCookiePathByte) ++
      bytes "; HttpOnly; SameSite=Lax"
  else []

end TenantPlatform
