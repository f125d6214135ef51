import Mathlib.Data.List.Sort
import TenantPlatform.Model.Proxy.Url

/-! # The Go proxy

`Handler.route` is what `ServeHTTP` decides before it forwards, and `Handler.respond` what the
client gets once the pod has answered. Metrics and log lines are left out. -/

namespace TenantPlatform

/-! ## `endpoints.go` -/

structure Endpoint where
  addresses : List GoString
  /-- `Conditions.Ready`, which may be unset -/
  ready : Option Bool
deriving DecidableEq, Repr

structure EndpointSlice where
  ns : GoString
  endpoints : List Endpoint
deriving DecidableEq, Repr

/-- The slices the informer holds, in the order in which the lister goes through them. -/
structure EndpointCache where
  slices : List EndpointSlice

/-- An endpoint with no ready condition counts as ready. -/
def Endpoint.isReady (ep : Endpoint) : Bool := !(ep.ready = some false)

def readyAddresses (slices : List EndpointSlice) : List GoString :=
  (slices.flatMap (fun s =>
    (s.endpoints.filter Endpoint.isReady).flatMap Endpoint.addresses)).insertionSort (· ≤ ·)

def EndpointCache.endpoints (c : EndpointCache) (ns : GoString) : List GoString :=
  readyAddresses (c.slices.filter (fun s => s.ns = ns))

/-! ## `handler.go` -/

structure GoRequest where
  url : Url
  host : GoString
  /-- the values of the `Cookie` header -/
  cookie : List GoString

/-- `Cookie(name)`: the first cookie of that name. -/
def GoRequest.cookieNamed (r : GoRequest) (name : GoString) : Option GoString :=
  (readCookies r.cookie name).head?

structure HttpResponse where
  status : ℕ
  headers : List (String × GoString)
  body : GoString
deriving DecidableEq, Repr

/-- `Header.Set` -/
def setHeader (headers : List (String × GoString)) (name : String) (value : GoString) :
    List (String × GoString) :=
  headers.filter (fun h => h.1 ≠ name) ++ [(name, value)]

/-- `http.Error` -/
def httpError (status : ℕ) (message : GoString) : HttpResponse where
  status := status
  headers := [("Content-Type", bytes "text/plain; charset=utf-8"),
    ("X-Content-Type-Options", bytes "nosniff")]
  body := message ++ bytes "\n"

inductive CookieEvent where
  | stickyHit
  | newAssignment
  | rejected
deriving DecidableEq, Repr

structure Handler where
  resolver : GoString → List GoString
  signer : Signer
  upstreamPort : GoString
  pick : ℕ → ℕ
  pick_lt : ∀ n, 0 < n → pick n < n

/-- `FindStringSubmatch` of `^/t/(\d+)(/.*)?$`. A dot stands for any byte but a newline. -/
def tenantPath (path : GoString) : Option (GoString × GoString) :=
  if (bytes "/t/").isPrefixOf path then
    let tail := path.drop 3
    let tenantID := tail.takeWhile Bytes.isDigit
    let forwardPath := tail.dropWhile Bytes.isDigit
    if tenantID ≠ [] && (forwardPath = [] ||
        (forwardPath.head? = some 47 && !forwardPath.contains 10))
    then some (tenantID, forwardPath)
    else none
  else none

/-- `net.JoinHostPort` -/
def joinHostPort (host port : GoString) : GoString :=
  if host.contains 58 then bytes "[" ++ host ++ bytes "]:" ++ port
  else host ++ bytes ":" ++ port

def affinityCookie (tenantID : GoString) : GoString := bytes "affinity_t" ++ tenantID

/-- What a request that gets through is sent to, and how its pod was chosen. -/
structure Forwarding where
  tenantID : GoString
  target : GoString
  event : CookieEvent
  out : Url
  outHost : GoString
deriving DecidableEq, Repr

inductive Routed where
  | notFound
  | unavailable (tenantID : GoString)
  | forward (f : Forwarding)
deriving DecidableEq, Repr

namespace Handler

def choose (h : Handler) (r : GoRequest) (cookieName : GoString) (ips : List GoString)
    (hips : ips ≠ []) : GoString × CookieEvent :=
  let picked := ips.get ⟨h.pick ips.length, h.pick_lt _ (List.length_pos_of_ne_nil hips)⟩
  match r.cookieNamed cookieName with
  | none => (picked, .newAssignment)
  | some value =>
      match h.signer.verify value with
      | some ip => if ip ∈ ips then (ip, .stickyHit) else (picked, .rejected)
      | none => (picked, .rejected)

def route (h : Handler) (r : GoRequest) : Routed :=
  match tenantPath r.url.path with
  | none => .notFound
  | some (tenantID, rest) =>
      let forwardPath := if rest = [] then bytes "/" else rest
      let ips := h.resolver (bytes "tenant-" ++ tenantID)
      if hips : ips = [] then .unavailable tenantID
      else
        let (target, event) := h.choose r (affinityCookie tenantID) ips hips
        .forward
          { tenantID := tenantID
            target := target
            event := event
            out :=
              { scheme := bytes "http"
                host := joinHostPort target h.upstreamPort
                path := forwardPath
                rawQuery := r.url.rawQuery }
            outHost := r.host }

/-- `ModifyResponse` -/
def modifyResponse (h : Handler) (f : Forwarding) (resp : HttpResponse) : HttpResponse :=
  let headers := setHeader (setHeader resp.headers "X-Routed-Tenant" f.tenantID)
    "X-Routed-To" f.target
  { resp with
    headers :=
      if f.event = .stickyHit then headers
      else headers ++ [("Set-Cookie", cookieString (affinityCookie f.tenantID)
        (h.signer.sign f.target) (bytes "/t/" ++ f.tenantID))] }

/-- `ServeHTTP`, given what the round trip to a pod comes to: a response or an error text. -/
def serveHTTP (h : Handler) (r : GoRequest)
    (roundTrip : Forwarding → Except GoString HttpResponse) :
    HttpResponse :=
  match h.route r with
  | .notFound => httpError 404 (bytes "expected path /t/<tenant_id>/...")
  | .unavailable tenantID =>
      httpError 503 (bytes "no running deployment for tenant " ++ tenantID)
  | .forward f =>
      match roundTrip f with
      | .ok resp => h.modifyResponse f resp
      | .error err => httpError 502 (bytes "upstream error: " ++ err)

end Handler

end TenantPlatform
