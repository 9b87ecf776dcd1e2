import SessionHub.Node.Routes

/-!
# Finding out who lives

A node lives as long as its record in the store is fresh. A **sweep** reads the records of all
nodes and compares them with the table of peers. A record that is new makes its node a peer; one
that is too old is deleted and its node is dead; and a peer whose record is not there any more is
dead too. The routes of the dead are purged.

A peer that announced its leave is *departed* and no concern of a sweep, for twice the lifetime of
a record: by then its record has gone.
-/

namespace SessionHub.Node

/-- A peer announces that it leaves: it is no peer any more, and the time is kept. Observers are
told unless it was departed already. Of itself a node takes no notice. -/
def hear (a : Announcement) (n : Node) : Node :=
  match a with
  | .leave peer =>
    if peer = n.id then n
    else
      let first := (n.membership.departed.lookup peer).isNone
      let n := n.modifyMembership fun m =>
        { m with
          departed := (peer, n.wall) :: m.departed.filter (·.1 != peer)
          peers := m.peers.filter (·.1 != peer) }
      if first then n.emit (.left peer) else n

/-- Forgets the departures that lie further back than twice the lifetime of a record. -/
def pruneDeparted (now : Int) (n : Node) : Node :=
  n.modifyMembership fun m =>
    { m with departed := m.departed.filter fun d => now - d.2 ≤ 2 * (m.ttl : Int) }

/-- A fresh record: its node is a peer, and observers are told if it was none. -/
def meet (b : Beacon) (n : Node) : Node :=
  let known := (n.membership.peers.lookup b.node).isSome
  let n := n.modifyMembership fun m =>
    { m with peers := (b.node, b) :: m.peers.filter (·.1 != b.node) }
  if known then n else n.emit (.joined b.node)

/-- A node is dead: it is no peer any more, and observers are told. -/
def bury (peer : NodeId) (n : Node) : Node :=
  let n := n.modifyMembership fun m => { m with peers := m.peers.filter (·.1 != peer) }
  (n.record fun j => (j.count .nodeTimeouts).warn "peer heartbeat expired, declaring node dead"
    [("peer", peer.text)]).emit (.timedOut peer)

/-- Goes through the records that a scan found, at the time of the scan: which nodes are alive and
which have a record that is too old. The latter's records are deleted on the way. -/
def inspect (now : Int) : List (String × String) → List NodeId → List NodeId →
    ClusterProgram (List NodeId × List NodeId)
  | [], seen, dead => return (seen, dead)
  | (key, text) :: rest, seen, dead =>
    match Beacon.decode text with
    | .error fault => do
      Program.modify (Node.record (·.warn "unreadable node record, skipping"
        [("key", key), ("error", fault.message text.toList)]))
      inspect now rest seen dead
    | .ok b => do
      let n ← Program.get
      if b.node = n.id || (n.membership.departed.lookup b.node).isSome then
        inspect now rest seen dead
      else if b.isExpiredAt now n.membership.ttl then
        discard (guarded "delete_node" (.delete key))
        inspect now rest seen (dead ++ [b.node])
      else
        Program.modify (meet b)
        inspect now rest (seen ++ [b.node]) dead

/-- The peers that have no record any more. -/
def vanished (seen dead : List NodeId) (n : Node) : List NodeId :=
  (n.membership.peers.map (·.1)).filter fun p => !seen.contains p && !dead.contains p

/-- Reads the records of all nodes and tells the living from the dead. Gives the dead. -/
def sweep : ClusterProgram (List NodeId) := do
  let n ← Program.get
  match ← guarded "scan_nodes" (.scan n.membership.keys.nodeStart) with
  | none => return []
  | some records =>
    let now ← Program.view Node.wall
    Program.modify (pruneDeparted now)
    let (seen, expired) ← inspect now records [] []
    let dead ← Program.update fun n =>
      let dead := expired ++ n.vanished seen expired
      (dead, dead.foldl (fun n p => n.bury p) n)
    if !dead.isEmpty then purgeRoutesOf dead
    return dead

end SessionHub.Node
