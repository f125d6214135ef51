import TenantPlatform.Model.Proxy.Cookies

/-! # `net/url`, as far as the Go proxy relies on it

A path is kept decoded, and the text it came from beside it only if the default encoding of
the decoded path is another one. -/

namespace TenantPlatform

structure Url where
  scheme : GoString := []
  host : GoString := []
  path : GoString
  rawPath : GoString := []
  rawQuery : GoString := []
deriving DecidableEq, Repr

def ishex (b : UInt8) : Bool :=
  Bytes.isDigit b || (97 ≤ b && b ≤ 102) || (65 ≤ b && b ≤ 70)

def unhex (b : UInt8) : ℕ :=
  if Bytes.isDigit b then b.toNat - 48
  else if 97 ≤ b && b ≤ 102 then b.toNat - 97 + 10
  else b.toNat - 65 + 10

/-- The byte that two hexadecimal digits stand for. -/
def unhexByte (a b : UInt8) : UInt8 := UInt8.ofNat (unhex a * 16 + unhex b)

/-- `unescape` of a path; none for a malformed escape. -/
def unescape : GoString → Option GoString
  | [] => some []
  | 37 :: a :: b :: rest =>
      if ishex a && ishex b then (unescape rest).map (fun s => unhexByte a b :: s) else none
  | c :: rest => if c = 37 then none else (unescape rest).map (fun s => c :: s)

/-- `shouldEscape` in a path: what is left alone are letters, digits, and some marks. -/
def shouldEscape (b : UInt8) : Bool :=
  !(Bytes.isDigit b || (97 ≤ b && b ≤ 122) || (65 ≤ b && b ≤ 90) ||
    (bytes "-_.~$&+,/:;=@").contains b)

def upperhex (n : ℕ) : UInt8 := UInt8.ofNat (if n < 10 then 48 + n else 65 + (n - 10))

def escapeByte (b : UInt8) : GoString :=
  if shouldEscape b then [37, upperhex (b.toNat / 16), upperhex (b.toNat % 16)] else [b]

/-- `escape` of a path. -/
def escape (path : GoString) : GoString := path.flatMap escapeByte

/-- `validEncoded` of a path. -/
def validEncoded (s : GoString) : Bool :=
  s.all (fun b => (bytes "!$&'()*+,;=:@[]%").contains b || !shouldEscape b)

/-- The URL of a request target: its escaped path and its query. -/
def Url.ofTarget (escapedPath rawQuery : GoString) : Option Url :=
  (unescape escapedPath).map (fun path =>
    { path := path
      rawPath := if escape path = escapedPath then [] else escapedPath
      rawQuery := rawQuery })

/-- `stringContainsCTLByte` looks for these. -/
def isControl (b : UInt8) : Bool := b < 32 || b = 127

/-- `ParseRequestURI` -/
def Url.parse (target : GoString) : Option Url :=
  if target.any isControl then none else Url.ofTarget (target.cut 63).1 (target.cut 63).2

/-- `EscapedPath` -/
def Url.escapedPath (u : Url) : GoString :=
  if u.rawPath ≠ [] && validEncoded u.rawPath && unescape u.rawPath = some u.path then u.rawPath
  else if u.path = bytes "*" then bytes "*"
  else escape u.path

/-- `RequestURI`, of a URL that a `Rewrite` has put together. -/
def Url.requestTarget (u : Url) : GoString :=
  u.escapedPath ++ if u.rawQuery = [] then [] else 63 :: u.rawQuery

/-! ## `path`, and `net/http`'s `ServeMux` -/

/-- An element of a rooted path is dropped, goes back one, or is kept. -/
def cleanElement (kept : List GoString) (element : GoString) : List GoString :=
  if element = [] || element = bytes "." then kept
  else if element = bytes ".." then kept.dropLast
  else kept ++ [element]

/-- `Clean` of a path that starts with a slash. -/
def pathClean (p : GoString) : GoString :=
  47 :: List.intercalate [47] ((p.splitOn 47).foldl cleanElement [])

/-- `cleanPath`, which keeps a slash at the end. -/
def cleanPath (p : GoString) : GoString :=
  let p := if p.head? = some 47 then p else 47 :: p
  let np := pathClean p
  if p.getLast? = some 47 && np ≠ bytes "/" then np ++ bytes "/" else np

/-- A `ServeMux` redirects a request with another path than this one to the clean path. -/
def Url.isClean (u : Url) : Bool := cleanPath u.escapedPath = u.escapedPath

end TenantPlatform
