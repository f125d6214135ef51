import Mathlib.Data.Int.Notation
import TenantPlatform.Data.CounterVec
import TenantPlatform.Model.Proxy.Handler

/-! # Metrics of the Go proxy

Calls of `ServeHTTP` run side by side. They share the metrics, and the pods change while they
run. Times and log lines are left out: of a duration only its observation is counted. -/

namespace TenantPlatform

/-! ## `net/http` -/

/-- A call on a response writer. The bytes of a `Write` have no effect on the status. -/
inductive WriterCall where
  | writeHeader (code : ℤ)
  | write
  | flush
deriving DecidableEq, Repr

/-- The codes of interim responses. -/
def informational (code : ℤ) : Bool := 100 ≤ code && code ≤ 199 && code ≠ 101

/-- What the client has been sent of the response to one request. -/
structure ServerResponse where
  interim : List ℤ := []
  /-- the final status, as soon as it is fixed -/
  final : Option ℤ := none
deriving DecidableEq, Repr

namespace ServerResponse

def call (r : ServerResponse) : WriterCall → ServerResponse
  | .writeHeader code =>
      if r.final.isSome then r
      else if informational code then { r with interim := r.interim ++ [code] }
      else { r with final := some code }
  | .write => { r with final := some (r.final.getD 200) }
  | .flush => { r with final := some (r.final.getD 200) }

/-- The final status of the response, once the handler is over. -/
def status (r : ServerResponse) : ℤ := r.final.getD 200

end ServerResponse

/-! ## `handler.go`: `statusWriter` -/

structure StatusWriter where
  responseWriter : ServerResponse := {}
  status : ℤ := 200
  wroteHeader : Bool := false
deriving DecidableEq, Repr

namespace StatusWriter

def writeHeader (w : StatusWriter) (code : ℤ) : StatusWriter :=
  let w := if !w.wroteHeader then { w with status := code, wroteHeader := true } else w
  { w with responseWriter := w.responseWriter.call (.writeHeader code) }

def write (w : StatusWriter) : StatusWriter :=
  { w with
    wroteHeader := true
    responseWriter := w.responseWriter.call .write }

def flush (w : StatusWriter) : StatusWriter :=
  { w with responseWriter := w.responseWriter.call .flush }

def call (w : StatusWriter) : WriterCall → StatusWriter
  | .writeHeader code => w.writeHeader code
  | .write => w.write
  | .flush => w.flush

/-- The writer after some calls on a new one. -/
def after (calls : List WriterCall) : StatusWriter := calls.foldl call {}

/-- `http.Error`, as far as the status goes -/
def error (w : StatusWriter) (code : ℤ) : StatusWriter := (w.writeHeader code).write

end StatusWriter

/-! ## `metrics.go` -/

def noTenant : GoString := bytes "none"

/-- The status label is the number that `fmt.Sprint` prints. -/
structure Metrics where
  requests : CounterVec (GoString × ℤ)
  duration : CounterVec GoString
  upstreamErrors : ℕ
  cookieEvents : CounterVec CookieEvent

def newMetrics : Metrics := ⟨.empty, .empty, 0, .empty⟩

/-! ## `handler.go`: `ServeHTTP` -/

/-- How far a call of `ServeHTTP` has got. -/
inductive Stage where
  | entered
  /-- an error is written, and nothing is left to do -/
  | answered
  | resolved (tenantID forwardPath : GoString) (ips : List GoString) (nonempty : ips ≠ [])
  | proxying (f : Forwarding)

/-- A call of `ServeHTTP`, with its variables. -/
structure Serving where
  request : GoRequest
  sw : StatusWriter := {}
  tenant : GoString := noTenant
  stage : Stage := .entered

/-- What a call does next. Between the choice of a pod and the end it is `ReverseProxy` that
decides. -/
inductive ServeAct where
  | lookup
  | choose
  | respond (call : WriterCall)
  | errorHandler

namespace Serving

/-- The path and the endpoints, up to where `tenant` gets its value. -/
def lookup (c : Serving) (h : Handler) : Serving :=
  match tenantPath c.request.url.path with
  | none => { c with sw := c.sw.error 404, stage := .answered }
  | some (tenantID, rest) =>
      let forwardPath := if rest = [] then bytes "/" else rest
      let ips := h.resolver (bytes "tenant-" ++ tenantID)
      if hips : ips = [] then { c with sw := c.sw.error 503, stage := .answered }
      else { c with tenant := tenantID, stage := .resolved tenantID forwardPath ips hips }

/-- The choice of a pod, on which the request is forwarded. -/
def forwarding (c : Serving) (h : Handler) (tenantID forwardPath : GoString)
    (ips : List GoString) (hips : ips ≠ []) : Forwarding :=
  let (target, event) := h.choose c.request (affinityCookie tenantID) ips hips
  { tenantID := tenantID
    target := target
    event := event
    out :=
      { scheme := bytes "http"
        host := joinHostPort target h.upstreamPort
        path := forwardPath
        rawQuery := c.request.url.rawQuery }
    outHost := c.request.host }

def act (c : Serving) (h : Handler) (m : Metrics) (a : ServeAct) : Option (Serving × Metrics) :=
  match a, c.stage with
  | .lookup, .entered => some (c.lookup h, m)
  | .choose, .resolved tenantID forwardPath ips hips =>
      let f := c.forwarding h tenantID forwardPath ips hips
      some ({ c with stage := .proxying f }, { m with cookieEvents := m.cookieEvents.inc f.event })
  | .respond call, .proxying _ => some ({ c with sw := c.sw.call call }, m)
  | .errorHandler, .proxying _ =>
      some ({ c with sw := c.sw.error 502 }, { m with upstreamErrors := m.upstreamErrors + 1 })
  | _, _ => none

/-- The deferred function. -/
def record (c : Serving) (m : Metrics) : Metrics :=
  { m with
    requests := m.requests.inc (c.tenant, c.sw.status)
    duration := m.duration.inc c.tenant }

end Serving

/-! ## The proxy as a whole -/

/-- The calls in progress, and those that have ended. -/
structure ProxyState where
  handler : Handler
  metrics : Metrics
  inFlight : List Serving
  ended : List Serving

inductive ProxyAct where
  /-- other pods become ready -/
  | pods (resolver : GoString → List GoString)
  /-- other random numbers come next -/
  | random (pick : ℕ → ℕ) (pick_lt : ∀ n, 0 < n → pick n < n)
  | enter (r : GoRequest)
  | serve (i : ℕ) (a : ServeAct)
  | returned (i : ℕ)
  /-- the proxy aborts the request -/
  | panicked (i : ℕ)

/-- Whether a call of `ServeHTTP` ends. -/
def ProxyAct.isEnd : ProxyAct → Bool
  | .returned _ => true
  | .panicked _ => true
  | _ => false

namespace ProxyState

def start (h : Handler) : ProxyState := ⟨h, newMetrics, [], []⟩

def finish (s : ProxyState) (i : ℕ) (c : Serving) : ProxyState :=
  { s with
    metrics := c.record s.metrics
    inFlight := s.inFlight.eraseIdx i
    ended := s.ended ++ [c] }

/-- One step, if it is possible. -/
def step (s : ProxyState) : ProxyAct → Option ProxyState
  | .pods resolver => some { s with handler := { s.handler with resolver := resolver } }
  | .random pick pick_lt =>
      some { s with handler := { s.handler with pick := pick, pick_lt := pick_lt } }
  | .enter r => some { s with inFlight := s.inFlight ++ [{ request := r }] }
  | .serve i a => do
      let c ← s.inFlight[i]?
      let (c', m) ← c.act s.handler s.metrics a
      some { s with metrics := m, inFlight := s.inFlight.set i c' }
  | .returned i => do
      let c ← s.inFlight[i]?
      match c.stage with
      | .answered => some (s.finish i c)
      | .proxying _ => some (s.finish i c)
      | _ => none
  | .panicked i => do
      let c ← s.inFlight[i]?
      match c.stage with
      | .proxying _ => some (s.finish i c)
      | _ => none

/-- Some steps in turn, if each of them is possible. -/
def run (s : ProxyState) (acts : List ProxyAct) : Option ProxyState := acts.foldlM step s

end ProxyState

end TenantPlatform
