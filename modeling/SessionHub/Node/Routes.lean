import SessionHub.Node.Store

/-!
# Routes

For each session the shared store holds a route, under the session's path and name, that says which
node has it. Routes are written again with every heartbeat, many side by side. A session may leave
while its route is being written; so the roster is asked again afterwards, and a route that came too
late is deleted.
-/

namespace SessionHub.Node

/-- Writes the route of a session. -/
def writeRoute (path : String) (id : SessionId) : ClusterProgram Bool := do
  let n ← Program.get
  let reply ← guarded "set_route"
    (.set (n.membership.keys.routeKey path id) n.id.text n.membership.ttl)
  return reply.isSome

/-- Deletes the route of a session. -/
def forgetRoute (path : String) (id : SessionId) : ClusterProgram Bool := do
  let n ← Program.get
  let reply ← guarded "delete_route" (.delete (n.membership.keys.routeKey path id))
  return reply.isSome

/-- Writes the route of a session again, if it is still registered and the node is not leaving. Says
whether the route stands. -/
def refreshRoute (r : SessionRef) : ClusterProgram Bool := do
  let n ← Program.get
  let s := n.session r
  if n.membership.destroyed || (n.floor.get? s.path s.id).isNone then return false
  if !(← writeRoute s.path s.id) then return false
  let n ← Program.get
  if (n.floor.get? s.path s.id).isSome then return true
  discard (forgetRoute s.path s.id)
  return false

/-- What is done with one route. Says whether it came to a good end. -/
def routeProgram : RouteWork → ClusterProgram Bool
  | .refresh r => refreshRoute r
  | .forget path id => forgetRoute path id
  | .purge key => do return (← guarded "delete_route" (.delete key)).isSome

/-- Does something with many routes, side by side. Says how many came to a good end. -/
def together (work : List RouteWork) : ClusterProgram Nat := .call (.together work) .done

/-- Writes the routes of all sessions again that are registered now. Says how many stand. -/
def refreshRoutes : ClusterProgram Nat := do
  let n ← Program.get
  together (n.floor.registered.map .refresh)

/-- Deletes the routes of all sessions that are registered now. -/
def forgetRoutes : ClusterProgram Unit := do
  let n ← Program.get
  discard (together (n.floor.registered.map fun r => .forget (n.session r).path (n.session r).id))

/-- Deletes every route that names one of some nodes. -/
def purgeRoutesOf (dead : List NodeId) : ClusterProgram Unit := do
  let n ← Program.get
  match ← guarded "scan_routes" (.scan n.membership.keys.routeStart) with
  | none => return ()
  | some routes =>
    let theirs := (routes : List (String × String)).filter fun (_, owner) =>
      dead.any (·.text == owner)
    discard (together (theirs.map fun (key, _) => .purge key))

end SessionHub.Node
