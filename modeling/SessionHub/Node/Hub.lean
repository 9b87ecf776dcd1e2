import SessionHub.Node.Dispatch

/-!
# The life of a session

A connection is admitted, its frames are dispatched, and in the end it is torn down, once, however
many ask for it: whoever claims the session's end takes it off the roster, closes it, deletes its
route and tells the handler. A node that shuts down admits nobody any more; it stops its jobs,
leaves the cluster and then tears down every session that is still registered.
-/

namespace SessionHub.Node

/-- Takes a new session in, unless its name is taken. -/
def enrol (path : String) (handshake : Handshake) (outbox : Outbox) (n : Node) :
    Except Refusal SessionRef × Node :=
  let n := { n with named := n.named + 1 }
  let s := Session.opening (.fresh n.named) path n.id handshake outbox n.floor.now
  let (r, floor) := n.floor.place s
  match floor.register r with
  | (.error refusal, floor) =>
    let floor := (floor.close r).record (·.count (.connectionsRejected "registry"))
    (.error refusal, { n with floor })
  | (.ok (), floor) =>
    let floor := floor.record fun j => (j.count .connectionsOpened).count .connectionsActive
    (.ok r, { n with floor })

/-- Why a connection to a path is not admitted, if it is not, before anything is done about it. -/
def refusal? (path : String) (n : Node) : Option (Refusal × String) :=
  if n.closing.begun then some (.rejected "node is shutting down", "shutting_down")
  else if n.handlers.hasPath path then none
  else some (.unknownPath path, "unknown_path")

/-- Admits a connection to a path: registers it, writes its route and tells the handler. A handler
that fails does not close the session. -/
def accept (path : String) (handshake : Handshake) (outbox : Outbox) :
    HubProgram (Except Refusal SessionRef) := do
  let n ← Program.get
  match n.refusal? path with
  | some (refusal, reason) =>
    Program.modify (record (·.count (.connectionsRejected reason)))
    return .error refusal
  | none =>
    match ← Program.update (enrol path handshake outbox) with
    | .error refusal => return .error refusal
    | .ok r =>
      let n ← Program.get
      if n.inCluster then discard (asHub (writeRoute path (n.session r).id))
      discard (dispatch n.handlers n.config.handlerTimeout r .opened)
      return .ok r

/-- Dispatches a frame that came from a session. -/
def message (r : SessionRef) (text : String) : HubProgram Unit := do
  Program.modify fun n => { n with floor := n.floor.touch r }
  let n ← Program.get
  discard (dispatch n.handlers n.config.handlerTimeout r (.message text))

/-- Tells the handler that a session's connection is at fault. -/
def fault (r : SessionRef) (f : SessionFault) : HubProgram Unit := do
  Program.modify fun n =>
    let s := n.session r
    n.record (·.warn "session fault"
      [("session_id", s.id.text), ("path", s.path), ("fault", f.message)])
  let n ← Program.get
  dispatchError n.handlers n.config.handlerTimeout r f

/-- Claims a session's end, for the first that asks: the session leaves the roster and is closed. -/
def claim (r : SessionRef) (n : Node) : Bool × Node :=
  let s := n.session r
  if s.finished then (false, n)
  else
    let floor := n.floor.modifySession r fun s => { s with finished := true }
    let floor := (floor.remove s.path s.id).2.close r
    (true, { n with floor })

/-- Tears a session down. -/
def disconnect (r : SessionRef) : HubProgram Unit := do
  if !(← Program.update (claim r)) then return ()
  let n ← Program.get
  let s := n.session r
  if n.inCluster then discard (asHub (forgetRoute s.path s.id))
  Program.modify (record fun j => (j.count .connectionsClosed).discount .connectionsActive)
  discard (dispatch n.handlers n.config.handlerTimeout r .closed)

/-! ## Start and end of a node -/

/-- Starts the liveness job, which ticks for the first time after one interval. -/
def startLiveness (n : Node) : Node :=
  { n.track (.liveness n.seat) with nextTick := n.floor.now + n.config.heartbeatInterval }

/-- Joins the cluster, if the node has one, and starts the liveness job. Only the first call does,
and none once the node shuts down. -/
def run : HubProgram Unit := do
  let n ← Program.get
  Program.modify fun n => { n with started := true }
  if n.started || n.closing.begun then return ()
  if n.clustered then asHub join
  Program.modify startLiveness

/-- Tells all jobs to stop, and waits for those that are tracked. Those that are not over by the
limit are dropped. -/
def drain (limit : Nat) : HubProgram Unit := do
  let n ← Program.get
  Program.modify fun n => { n with closing := { begun := true, tracked := [] } }
  let jobs := n.closing.tracked
  if jobs.isEmpty then return ()
  let inTime : Bool ← .call (.jobs limit jobs) .done
  if inTime then return ()
  Program.modify fun n =>
    let n := n.record (·.warn "background tasks did not stop in time, aborting"
      [("timeout", (Span.ofMillis limit).text)])
    jobs.foldl (fun n j => n.drop j) n

/-- Shuts the node down. Once that is done there is nothing more to do. -/
def shutdown : HubProgram Unit := do
  let n ← Program.get
  if n.closing.begun && n.floor.roster.isEmpty then return ()
  drain n.config.shutdownTimeout
  if n.clustered then asHub leave
  let n ← Program.get
  Program.forEach disconnect n.floor.registered

/-! ## Liveness -/

/-- What one tick did. -/
structure Tick where
  heartbeat : Option Bool := none
  timedOut : List NodeId := []
  evicted : List SessionRef := []
  deriving Repr, DecidableEq, Inhabited

/-- One round of liveness work: a heartbeat and a sweep in a cluster, then the eviction of sessions
that are stale. -/
def tick (sessionTimeout : Nat) : ClusterProgram Tick := do
  let n ← Program.get
  let report : Tick ←
    if n.inCluster then do
      let written ← heartbeat
      let dead ← sweep
      pure { heartbeat := some written, timedOut := dead }
    else pure {}
  let evicted ← Program.update (onFloor (Floor.sweepIdle sessionTimeout))
  return { report with evicted }

/-- A round of the liveness job: a tick, and the end of every session that it evicted. -/
def livenessRound : HubProgram Unit := do
  let n ← Program.get
  let report ← asHub (tick n.config.sessionTimeout)
  Program.forEach disconnect report.evicted

/-! ## Health -/

/-- What a node says about itself. -/
structure Health where
  uptimeSecs : Nat
  node : NodeId
  connections : Nat
  clustered : Bool
  degraded : Bool
  peers : Nat
  deriving Repr, DecidableEq, Inhabited

/-- The health of a node. -/
def health (n : Node) : Health where
  uptimeSecs := (n.floor.now - n.startedAt) / 1000
  node := n.id
  connections := n.floor.roster.length
  clustered := n.clustered
  degraded := n.clustered && n.membership.degraded
  peers := if n.clustered then n.membership.peers.length else 0

/-- A node's health as a document. -/
def Health.toJson (h : Health) : Json :=
  .obj [("status", .str (if h.degraded then "degraded" else "ok")),
    ("uptime_secs", .nat h.uptimeSecs), ("node_id", .str h.node.text),
    ("connections", .nat h.connections), ("cluster_enabled", .bool h.clustered),
    ("degraded", .bool h.degraded), ("peers", .nat h.peers)]

/-- The peers of a node as documents, in ascending order of their names. -/
def peerRecords (n : Node) : Json :=
  let peers := n.membership.peers.mergeSort fun a b => decide (a.1.text ≤ b.1.text)
  .arr (peers.map (·.2.toJson))

/-- How a node stands in its cluster, as a document. -/
def standing (n : Node) : Json :=
  .obj [("id", .str n.id.text), ("prefix", .str n.membership.keys.start),
    ("degraded", .bool n.membership.degraded), ("destroyed", .bool n.membership.destroyed),
    ("nodes", n.peerRecords)]

/-- How a node does, as a document, and whether a path has a handler. -/
def report (n : Node) (path : String) : Json :=
  let h := n.health
  .obj [("id", .str n.id.text), ("connections", .nat h.connections),
    ("shuttingDown", .bool n.closing.begun), ("degraded", .bool h.degraded),
    ("peers", if n.clustered then n.peerRecords else .arr []),
    ("hasPath", .bool (n.handlers.hasPath path)), ("clustered", .bool n.clustered)]

end SessionHub.Node
