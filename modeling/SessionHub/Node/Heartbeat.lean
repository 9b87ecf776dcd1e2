import SessionHub.Node.Listen

/-!
# Joining, beating and leaving

A node joins its cluster by subscribing and writing its record; it stays in it by writing the record
again and again; and it leaves by deleting the record, announcing the leave and deleting its routes.
A heartbeat waits for the record only. The routes are renewed by a job beside it, of which there
is never more than one.
-/

namespace SessionHub.Node

/-- The record of this node. -/
def beacon (n : Node) : Beacon :=
  { node := n.id, lastBeat := n.wall, startedAt := n.membership.startedAt }

/-- Writes the node's record. Says whether it was written. -/
def writeRecord : ClusterProgram Bool := do
  let n ← Program.get
  let reply ← guarded "set_node"
    (.set (n.membership.keys.nodeKey n.id) n.beacon.encode n.membership.ttl)
  return reply.isSome

/-- Joins the cluster. A store that fails leaves the node on its own; the next heartbeat tries
again. -/
def join : ClusterProgram Unit := do
  ensureSubscribed
  discard writeRecord

/-- Starts the job that renews the routes, unless the former one is still at it. -/
def startRefresh (n : Node) : Node :=
  let busy := match n.membership.refresher with
    | some former => !n.hasEnded former
    | none => false
  if busy then n
  else
    let (job, n) := n.start (.refreshRoutes n.seat)
    n.modifyMembership fun m => { m with refresher := some job }

/-- Shows that the node lives. Says whether the record was written. -/
def heartbeat : ClusterProgram Bool := do
  let n ← Program.get
  if n.membership.destroyed then return false
  ensureSubscribed
  let written ← writeRecord
  if written then Program.modify startRefresh
  return written

/-- The node begins to leave: it listens no more, and renews no routes. -/
def beginLeave (n : Node) : Node :=
  let n := match n.membership.listener with
    | some job => n.drop job
    | none => n
  let n := match n.membership.refresher with
    | some job => n.drop job
    | none => n
  n.modifyMembership fun m => { m with destroyed := true, listener := none, refresher := none }

/-- Leaves the cluster. Only the first call does. -/
def leave : ClusterProgram Unit := do
  let n ← Program.get
  if n.membership.destroyed then return ()
  Program.modify beginLeave
  discard (guarded "delete_node" (.delete (n.membership.keys.nodeKey n.id)))
  discard (guarded "publish_leave"
    (.publish n.membership.keys.controlChannel (Announcement.encode (.leave n.id))))
  forgetRoutes

end SessionHub.Node
