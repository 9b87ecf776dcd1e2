import SessionHub.Node.Basic

/-!
# Calls to the shared store

Every call is bounded in time and none of its failures is passed on. The node remembers whether the
last call failed: the first failure after successes makes it *degraded*, the first success after
failures makes it well again, and its observers are told of both.
-/

namespace SessionHub.Node

/-- A store call came to a good end. -/
def storeSucceeded (n : Node) : Node :=
  if n.membership.degraded then
    ((n.modifyMembership fun m => { m with degraded := false }).record
      (·.gauge .degraded 0)).emit .recovered
  else n

/-- A store call failed. -/
def storeFailed (op : String) (fault : StoreFault) (n : Node) : Node :=
  let n := n.record (·.count (.storeErrors op fault.kind))
  if n.membership.degraded then n
  else
    ((n.modifyMembership fun m => { m with degraded := true }).record fun j =>
      (j.gauge .degraded 1).warn "coordination store degraded, operating local-only"
        [("op", op), ("error", fault.message)]).emit (.degraded fault.message)

/-- Calls the store: the reply, if there is one. -/
def guarded (op : String) (call : StoreCall) : ClusterProgram (Option call.Reply) :=
  .call (.store call) fun
    | .ok reply => .look fun n => .put n.storeSucceeded (.done (some reply))
    | .error fault => .look fun n => .put (n.storeFailed op fault) (.done none)

end SessionHub.Node
