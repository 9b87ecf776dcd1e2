import SessionHub.Node.Sweep

/-!
# Listening to the others

A node subscribes to the broadcast channels and to the control channel of its cluster, and a job
handles what arrives. Handling is one atomic step per message. An envelope has to name the path of
its channel, and one that comes from this node is discarded, for its own sessions had the payload
before it was published. What cannot be decoded is dropped with a warning.
-/

namespace SessionHub.Node

/-- Hands an envelope of another node to the sessions of its path. -/
def receiveEnvelope (e : Envelope) (n : Node) : Option Delivery × Node :=
  if e.source = n.id then (none, n.record (·.count .discardedEnvelopes))
  else
    let n := n.record (·.count .receivedEnvelopes)
    let (floor, report) := n.floor.deliver e.path e.payload fun _ => true
    (some report, { n with floor })

/-- Handles a message of a broadcast channel. -/
def hearBroadcast (m : Message) (n : Node) : Node :=
  match Envelope.decode m.payload with
  | .error fault =>
    n.record (·.warn "undecodable envelope, dropping"
      [("channel", m.channel), ("error", fault.message m.payload.toList)])
  | .ok e =>
    if n.membership.keys.channelPath? m.channel = some e.path then (n.receiveEnvelope e).2
    else n.record (·.warn "envelope path does not match channel, dropping"
      [("channel", m.channel), ("path", e.path)])

/-- Handles a message of the control channel. -/
def hearControl (m : Message) (n : Node) : Node :=
  match Announcement.decode m.payload with
  | .error fault =>
    n.record (·.warn "undecodable control message, dropping"
      [("channel", m.channel), ("error", fault.message m.payload.toList)])
  | .ok a => n.hear a

/-- A subscription came to an end by itself: the next heartbeat subscribes again. -/
def subscriptionEnded (n : Node) : Node :=
  (n.modifyMembership fun m => { m with subscribed := false }).record
    (·.warn "cluster subscription ended, will resubscribe on next heartbeat"
      [("node_id", n.id.text)])

/-- Both subscriptions are made: the listening job starts, in place of a former one. -/
def listenTo (broadcasts control : SubRef) (n : Node) : Node :=
  let (job, n) := n.start (.listen n.seat broadcasts control)
  let n := match n.membership.listener with
    | some former => n.drop former
    | none => n
  n.modifyMembership fun m => { m with subscribed := true, listener := some job }

/-- Subscribes to the cluster's channels, unless that is done or the node is leaving. One
subscription without the other is given up again. -/
def ensureSubscribed : ClusterProgram Unit := do
  let n ← Program.get
  if n.membership.subscribed || n.membership.destroyed then return ()
  match ← guarded "subscribe" (.subscribe n.membership.keys.broadcastPattern) with
  | none => return ()
  | some broadcasts =>
    match ← guarded "subscribe" (.subscribe n.membership.keys.controlPattern) with
    | none => Program.modify fun n => (n.start (.unsubscribe n.seat broadcasts)).2
    | some control => Program.modify (listenTo broadcasts control)

end SessionHub.Node
