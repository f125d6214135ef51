import TenantPlatform.Model.Proxy.StickyProxy

/-! # Clients that keep cookies

None of this is code of the platform. It is what a client does by the standard for HTTP cookies:
it keeps the last value for each name and path, and sends its cookies in one header. -/

namespace TenantPlatform

structure Cookie where
  name : GoString
  value : GoString
  /-- none for the directory of the request -/
  path : Option GoString
deriving DecidableEq, Repr

def lowerByte (b : UInt8) : UInt8 := if 65 ≤ b && b ≤ 90 then b + 32 else b

/-- The path so far, and after one more attribute. -/
def pathAttribute (path : Option GoString) (text : GoString) : Option GoString :=
  let (name, value) := text.cut 61
  if (trimString name).map lowerByte = bytes "path" then
    let value := trimString value
    if value.head? = some 47 then some value else none
  else path

/-- The cookie of a `Set-Cookie` line. -/
def parseSetCookie (line : GoString) : Option Cookie :=
  match line.splitOn 59 with
  | [] => none
  | pair :: attributes =>
      let (name, value) := pair.cut 61
      let name := trimString name
      if pair.contains 61 && name ≠ [] then
        some ⟨name, trimString value, attributes.foldl pathAttribute none⟩
      else none

/-- The values by name and path. -/
abbrev Jar := GoString × Option GoString → Option GoString

def Jar.keep (jar : Jar) (line : GoString) : Jar :=
  match parseSetCookie line with
  | none => jar
  | some cookie => Function.update jar (cookie.name, cookie.path) (some cookie.value)

/-- The `Set-Cookie` lines, in the spelling of either proxy. -/
def setCookieLines (headers : List (String × GoString)) : List GoString :=
  headers.filterMap (fun header =>
    if header.1 = "Set-Cookie" || header.1 = "set-cookie" then some header.2 else none)

def cookiePair (name value : GoString) : GoString := name ++ bytes "=" ++ value

/-- The `Cookie` header, if there is anything to send. -/
def cookieHeader (pairs : List GoString) : Option GoString :=
  if pairs = [] then none else some ((bytes "; ").intercalate pairs)

end TenantPlatform
