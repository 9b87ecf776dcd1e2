import SessionHub.Http.Authorization
import SessionHub.Http.Upgrade
import SessionHub.Node.Hub
import SessionHub.Text.Percent

/-!
# The front end

What a node answers over HTTP: its health, its metrics, and connections to the paths of its
handlers. A connection to a path is refused for the first of these reasons: the node shuts down, the
path has no handler, the policy does not approve, the request cannot become a socket.

The path of a handler is the part of the target behind `/ws/`, with its percent signs decoded and
without leading slashes but one.
-/

namespace SessionHub.Http

/-! ## Targets -/

/-- What a request is about. -/
inductive Target where
  | health
  | metrics
  /-- A connection; what follows `/ws/` is still encoded. -/
  | connection (rest : List Char)
  | unknown
  deriving Repr, DecidableEq, Inhabited

/-- What a request is about, by its path. -/
def Request.about (r : Request) : Target :=
  match r.path with
  | ['/', 'h', 'e', 'a', 'l', 't', 'h'] => .health
  | ['/', 'm', 'e', 't', 'r', 'i', 'c', 's'] => .metrics
  | '/' :: 'w' :: 's' :: '/' :: c :: rest => .connection (c :: rest)
  | _ => .unknown

/-- The path of a handler that a target means, if it is a text. -/
def handlerPath? (rest : List Char) : Option String :=
  (Text.percentText? rest).map fun t =>
    String.ofList ('/' :: t.toList.dropWhile (· = '/'))

/-! ## Answers -/

/-- What a response carries. -/
inductive Body where
  | text (t : String)
  | health (h : Node.Health)
  | metrics (lines : List String)
  deriving Repr, Inhabited

/-- A response. -/
structure Response where
  status : Nat
  body : Body := .text ""
  deriving Repr, Inhabited

/-- A response as a document. -/
def Response.toJson (r : Response) : Json :=
  let body : Json := match r.body with
    | .text t => .str t
    | .health h => h.toJson
    | .metrics lines => .strs lines
  .obj [("status", .nat r.status), ("body", body)]

/-- What comes of a request: a response, or a socket on the path of a handler. -/
inductive Answer where
  | response (r : Response)
  | socket (path : String) (handshake : Handshake)
  deriving Repr, Inhabited

/-- A response with a text. -/
def refused (status : Nat) (text : String) : Answer := .response { status, body := .text text }

/-- The health of a node as a response: a node that is degraded is not to be relied on. -/
def healthResponse (n : Node) : Response :=
  let h := n.health
  { status := if h.degraded then 503 else 200, body := .health h }

/-- The address of a peer in the log. -/
def addressText : Option String → String
  | some a => s!"Some({a})"
  | none => "None"

/-- A connection to a path: what comes of it, and what is written down. -/
def connect (policy : Policy) (r : Request) (path : String) (n : Node) : Answer × Node :=
  if n.closing.begun then (refused 503 "shutting down", n)
  else if !n.handlers.hasPath path then
    (refused 404 (Refusal.unknownPath path).message,
      n.record (·.count (.connectionsRejected "unknown_path")))
  else
    match policy.approve r with
    | .error refusal =>
      (refused 401 refusal.message, n.record fun j =>
        (j.count (.connectionsRejected "unauthorized")).warn "handshake rejected"
          [("path", path), ("remote_addr", addressText r.address), ("error", refusal.message)])
    | .ok handshake =>
      match r.upgradeFault? with
      | some fault => (refused fault.status fault.message, n)
      | none => (.socket path handshake, n)

/-- What comes of a request that is about something and has a method that is served. -/
def serve (policy : Policy) (exposesMetrics : Bool) (r : Request) (n : Node) : Answer × Node :=
  match r.about with
  | .unknown => (refused 404 "", n)
  | .health => (.response (healthResponse n), n)
  | .metrics =>
    if exposesMetrics then
      (.response { status := 200, body := .metrics n.floor.journal.meter.lines }, n)
    else (refused 404 "", n)
  | .connection rest =>
    match handlerPath? rest with
    | none => (refused 400 "Invalid URL: Invalid UTF-8 in `path`", n)
    | some path => connect policy r path n

/-- A body without content. -/
def Body.bare : Body → Body
  | .metrics _ => .metrics []
  | _ => .text ""

/-- An answer without its content. -/
def Answer.headOnly : Answer → Answer
  | .response r => .response { r with body := r.body.bare }
  | a => a

/-- What comes of a request. Of methods only `GET` is served, and `HEAD` as a `GET` whose answer has
no content. -/
def answer (policy : Policy) (exposesMetrics : Bool) (r : Request) (n : Node) : Answer × Node :=
  if r.method = "GET" then serve policy exposesMetrics r n
  else if r.method = "HEAD" then
    let (a, n) := serve policy exposesMetrics r n
    (a.headOnly, n)
  else if r.about = .unknown then (refused 404 "", n)
  else (refused 405 "", n)

end SessionHub.Http
