import SessionHub.Fault

/-!
# Counters and gauges

What is counted while a node works. A counter only grows; a gauge follows a value up and down; of a
duration only the number of its measurements is kept. Each has a name and sometimes labels, and is
shown once it has been touched.
-/

namespace SessionHub

/-- The callbacks of a handler. -/
inductive Event where
  | opened | message | closed | error
  deriving Repr, DecidableEq, Inhabited

/-- The word for a callback in logs and labels. -/
def Event.text : Event → String
  | .opened => "open"
  | .message => "message"
  | .closed => "close"
  | .error => "error"

/-- Everything that is counted. -/
inductive Metric where
  | connectionsOpened
  | connectionsClosed
  | connectionsRejected (reason : String)
  | connectionsActive
  | localBroadcasts
  | publishedBroadcasts
  | receivedEnvelopes
  | discardedEnvelopes
  | sendFailures (reason : String)
  | storeErrors (op kind : String)
  | degraded
  | nodeTimeouts
  | idleEvictions
  | handlerErrors (event : Event) (kind : String)
  | handlerCalls (event : Event)
  deriving Repr, DecidableEq, Inhabited

/-- The name under which a metric is shown, and its labels. -/
def Metric.shown : Metric → String × List (String × String)
  | .connectionsOpened => ("switchboard_connections_opened_total", [])
  | .connectionsClosed => ("switchboard_connections_closed_total", [])
  | .connectionsRejected reason => ("switchboard_connections_rejected_total", [("reason", reason)])
  | .connectionsActive => ("switchboard_connections_active", [])
  | .localBroadcasts => ("switchboard_broadcasts_local_total", [])
  | .publishedBroadcasts => ("switchboard_broadcasts_published_total", [])
  | .receivedEnvelopes => ("switchboard_envelopes_received_total", [])
  | .discardedEnvelopes => ("switchboard_envelopes_discarded_total", [])
  | .sendFailures reason => ("switchboard_send_failures_total", [("reason", reason)])
  | .storeErrors op kind => ("switchboard_store_errors_total", [("op", op), ("kind", kind)])
  | .degraded => ("switchboard_cluster_degraded", [])
  | .nodeTimeouts => ("switchboard_node_timeouts_total", [])
  | .idleEvictions => ("switchboard_idle_evictions_total", [])
  | .handlerErrors event kind =>
    ("switchboard_handler_errors_total", [("event", event.text), ("kind", kind)])
  | .handlerCalls event => ("switchboard_handler_duration_seconds_count", [("event", event.text)])

/-- The values of the metrics that have been touched. -/
structure Meter where
  values : List (Metric × Int) := []
  deriving Repr, DecidableEq, Inhabited

namespace Meter

/-- The value of a metric. -/
def value (m : Meter) (metric : Metric) : Int := (m.values.lookup metric).getD 0

/-- Gives a metric a value. -/
def assign (metric : Metric) (n : Int) (m : Meter) : Meter :=
  { values := (metric, n) :: m.values.filter (·.1 != metric) }

/-- Adds to a metric. -/
def add (metric : Metric) (n : Int) (m : Meter) : Meter := m.assign metric (m.value metric + n)

/-- One sample as a line: the name, the labels in braces if there are any, and the value. -/
def line (metric : Metric) (n : Int) : String :=
  let (name, labels) := metric.shown
  let shown := labels.map fun (k, v) => k ++ "=\"" ++ v ++ "\""
  let braces := if shown.isEmpty then "" else "\x7b" ++ String.intercalate "," shown ++ "\x7d"
  name ++ braces ++ " " ++ toString n

/-- All samples in ascending order of their lines. -/
def lines (m : Meter) : List String :=
  (m.values.map fun (metric, n) => line metric n).mergeSort fun a b => decide (a ≤ b)

end Meter

end SessionHub
