import TenantPlatform.Model.Proxy.Handler

/-! # The Node proxy

`sticky-proxy.js`. Node reads request targets and header fields as Latin-1, so a text is its
bytes here too. The method and the headers of a request go through unchanged and are left
out. -/

namespace TenantPlatform

/-! ## The endpoints API -/

structure EndpointSubset where
  addresses : Option (List GoString)
deriving DecidableEq, Repr

/-- What the API answers. The body is what `JSON.parse` makes of it, or its error. -/
structure EndpointsResponse where
  statusCode : ℕ
  body : Except GoString (Option (List EndpointSubset))

structure StickyProxy where
  cookieSecret : GoString
  hmacSha256 : List UInt8 → List UInt8 → List UInt8
  /-- the cluster's API: what a GET of this path comes to -/
  k8sApi : GoString → Except GoString EndpointsResponse
  /-- `Math.floor(Math.random() * n)` -/
  random : ℕ → ℕ
  random_lt : ∀ n, 0 < n → random n < n

/-- The characters of a Latin-1 text. -/
def latin1 (s : GoString) : List Char := s.map (fun b => Char.ofNat b.toNat)

/-- `trim`, of the white space that is in Latin-1. -/
def jsBlank (b : UInt8) : Bool := (9 ≤ b && b ≤ 13) || b = 32 || b = 160

def jsTrim (s : GoString) : GoString :=
  ((s.dropWhile jsBlank).reverse.dropWhile jsBlank).reverse

/-- `TENANT_PATH_RE`, on the target as the client sent it. A dot stands for any character but a
line terminator. -/
def tenantPathRe (url : GoString) : Option (GoString × GoString) :=
  if (bytes "/t/").isPrefixOf url then
    let tail := url.drop 3
    let tenantId := tail.takeWhile Bytes.isDigit
    let rest := tail.dropWhile Bytes.isDigit
    if tenantId ≠ [] && (rest = [] ||
        (rest.head? = some 47 && !rest.contains 10 && !rest.contains 13))
    then some (tenantId, rest)
    else none
  else none

/-- One step of `parseCookies`. A string is no prototype, so `__proto__` stays as it is. -/
def addCookie (out : GoString → Option GoString) (p : GoString) : GoString → Option GoString :=
  match (jsTrim p).splitOn 61 with
  | [] => out
  | k :: v =>
      if k = [] || k = bytes "__proto__" then out
      else Function.update out k (some ([61].intercalate v))

/-- `parseCookies`: of cookies with one name the last one counts. -/
def parseCookies (header : Option GoString) : GoString → Option GoString :=
  ((header.getD []).splitOn 59).foldl addCookie (fun _ => none)

/-- What a request that gets through is sent to. -/
structure Upstream where
  tenantId : GoString
  targetIP : GoString
  port : ℕ
  forwardPath : GoString
  setCookie : Bool
deriving DecidableEq, Repr

inductive StickyRouted where
  | notFound
  | failed (message : GoString)
  | unavailable (tenantId : GoString)
  | forward (u : Upstream)
deriving DecidableEq, Repr

/-- What `http.request` comes to: it may throw, or its request may fail. -/
inductive UpstreamOutcome where
  | thrown (message : GoString)
  | failed (message : GoString)
  | answered (resp : HttpResponse)

namespace StickyProxy

/-- The hexadecimal digest of the UTF-8 encoding of a text. -/
def digest (p : StickyProxy) (value : GoString) : GoString :=
  utf8 (hexdigest p.hmacSha256 p.cookieSecret (utf8 (latin1 value)))

def sign (p : StickyProxy) (value : GoString) : GoString := value ++ bytes "." ++ p.digest value

def verify (p : StickyProxy) (signed : GoString) : Option GoString :=
  match signed.cutLast 46 with
  | none => none
  | some (value, sig) => if sig = p.digest value then some value else none

/-! The same three on texts of any characters. The header fields of a request have only those
of Latin-1. -/

def digestText (p : StickyProxy) (value : List Char) : List Char :=
  hexdigest p.hmacSha256 p.cookieSecret (utf8 value)

def signText (p : StickyProxy) (value : List Char) : List Char := value ++ '.' :: p.digestText value

def verifyText (p : StickyProxy) (signed : List Char) : Option (List Char) :=
  match signed.cutLast '.' with
  | none => none
  | some (value, sig) => if sig = p.digestText value then some value else none

def getEndpointIPs (p : StickyProxy) (ns : GoString) : Except GoString (List GoString) := do
  let res ← p.k8sApi (bytes "/api/v1/namespaces/" ++ ns ++ bytes "/endpoints/tenant-app")
  if res.statusCode = 404 then return []
  let subsets ← res.body
  return (subsets.getD []).flatMap (fun subset => subset.addresses.getD [])

/-- The pod of the cookie, if it is truthy, was signed here and still runs. -/
def stickyTarget (p : StickyProxy) (cookie : Option GoString) (ips : List GoString) :
    Option GoString :=
  match cookie with
  | none => none
  | some value =>
      if value = [] then none
      else
        match p.verify value with
        | none => none
        | some verified => if verified ≠ [] && ips.contains verified then some verified else none

/-- The request handler up to `http.request`. -/
def route (p : StickyProxy) (url : GoString) (cookie : Option GoString) : StickyRouted :=
  match tenantPathRe url with
  | none => .notFound
  | some (tenantId, rest) =>
      match p.getEndpointIPs (bytes "tenant-" ++ tenantId) with
      | .error message => .failed message
      | .ok ips =>
          if hips : ips = [] then .unavailable tenantId
          else
            let cookies := parseCookies cookie
            let picked := ips.get ⟨p.random ips.length,
              p.random_lt _ (List.length_pos_of_ne_nil hips)⟩
            let sticky := p.stickyTarget (cookies (affinityCookie tenantId)) ips
            .forward
              { tenantId := tenantId
                targetIP := sticky.getD picked
                port := 8080
                forwardPath := if rest = [] then bytes "/" else rest
                setCookie := sticky.isNone }

def plain (status : ℕ) (body : GoString) : HttpResponse := ⟨status, [], body⟩

/-- The headers of the app under those of the proxy, whose cookie replaces all of the app's. -/
def proxied (p : StickyProxy) (u : Upstream) (resp : HttpResponse) : HttpResponse :=
  let headers := setHeader (setHeader resp.headers "x-routed-tenant" u.tenantId)
    "x-routed-to" u.targetIP
  { resp with
    headers :=
      if u.setCookie then
        setHeader headers "set-cookie" (affinityCookie u.tenantId ++ bytes "=" ++
          p.sign u.targetIP ++ bytes "; Path=/t/" ++ u.tenantId)
      else headers }

/-- The whole request handler, given what its request to a pod comes to. -/
def handle (p : StickyProxy) (url : GoString) (cookie : Option GoString)
    (request : Upstream → UpstreamOutcome) : HttpResponse :=
  match p.route url cookie with
  | .notFound => plain 404 (bytes "expected path /t/<tenant_id>/...")
  | .failed message => plain 500 (bytes "proxy error: " ++ message)
  | .unavailable tenantId => plain 503 (bytes "no running deployment for tenant " ++ tenantId)
  | .forward u =>
      match request u with
      | .thrown message => plain 500 (bytes "proxy error: " ++ message)
      | .failed message => plain 502 (bytes "upstream error: " ++ message)
      | .answered resp => p.proxied u resp

end StickyProxy

end TenantPlatform
