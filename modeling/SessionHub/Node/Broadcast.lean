import SessionHub.Node.Heartbeat

/-!
# Broadcasting

A broadcast reaches the sessions of a path on all nodes. The sessions of this node have the payload
first and at once; then, in a cluster, one envelope is published for all the others. A message to a
single session is delivered if the session is on this node and not otherwise; the route of a session
elsewhere is looked up but not followed.
-/

namespace SessionHub

/-- What a broadcast came to: the delivery on this node, and whether an envelope was published. -/
structure Broadcast where
  here : Delivery
  published : Bool
  deriving Repr, DecidableEq, Inhabited

/-- A broadcast as a document. -/
def Broadcast.toJson (b : Broadcast) : Json :=
  .obj [("local", b.here.toJson), ("published", .bool b.published)]

namespace Node

/-- Delivers a payload to the sessions of a path on this node. -/
def broadcastHere (path payload : String) (admits : Session → Bool) (n : Node) :
    Delivery × Node :=
  let n := n.record (·.count .localBroadcasts)
  let (floor, report) := n.floor.deliver path payload admits
  (report, { n with floor })

/-- Publishes an envelope. Says whether the store took it. -/
def publish (path payload : String) (source : NodeId) : ClusterProgram Bool := do
  let n ← Program.get
  let e : Envelope := { path, payload, source, timestamp := n.wall }
  let reply ← guarded "publish" (.publish (n.membership.keys.broadcastChannel path) e.encode)
  if reply.isSome then Program.modify (record (·.count .publishedBroadcasts))
  return reply.isSome

/-- Delivers a payload to the sessions of a path on all nodes. -/
def broadcast (path payload : String) : ClusterProgram Broadcast := do
  let here ← Program.update (broadcastHere path payload fun _ => true)
  let n ← Program.get
  let published ← if n.inCluster then publish path payload n.id else pure false
  return { here, published }

/-- Sends to a session on this node, and failing that looks its route up. -/
def sendOrLookUp (path : String) (id : SessionId) (payload : String) : ClusterProgram Bool := do
  if ← Program.update (onFloor (Floor.sendTo path id payload)) then return true
  let n ← Program.get
  discard (guarded "get_route" (.get (n.membership.keys.routeKey path id)))
  return false

/-- Sends a payload to one session. Says whether it was taken. -/
def sendTo (path : String) (id : SessionId) (payload : String) : ClusterProgram Bool := do
  let n ← Program.get
  if n.inCluster then sendOrLookUp path id payload
  else Program.update (onFloor (Floor.sendTo path id payload))

end Node

end SessionHub
